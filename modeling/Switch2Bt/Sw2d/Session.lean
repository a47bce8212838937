import Switch2Bt.Await.Logic
import Switch2Bt.Await.Trace
import Switch2Bt.Sw2d.Frame
import Switch2Bt.Sw2d.Smp

/-!
# Session state and transport (`sw2d_final.c`, `hci_transport_user.c`)

`Session` is `session_t`; `World` is the session with the trace of what was sent, read and
assigned. The host is a computation over `World`: its calls (`Call`) are the system calls, and
whatever the program does not determine: the clock, the signal flag, the random octets, and the
contents of local variables before their first assignment. `goto reconnect` is the exception.

While a call is awaited the controller may act (`CtlEvent`); the host does not see that before it
reads the frame, so it is only recorded.
-/

namespace Switch2Bt.Sw2d

open Await Octets

/-! ## State -/

/-- Source: `sw2d_final.c` `session_state_t` -/
inductive SessionState where
  | disconnected
  | connectedUnencrypted
  | smpPairingSent
  | smpConfirmRandom
  | encryptionStartSent
  | encrypted
  | attReady
  | gattReady
  | notificationsEnabled
  | uhidRunning
deriving DecidableEq, Repr

/-- Source: `sw2d_final.c` `session_t` -/
structure Session where
  connHandle : UInt16
  state : SessionState
  peerAddrType : UInt8
  localAddrType : UInt8
  peerAddr : Addr
  localAddr : Addr
  smpTk : Block
  smpPreq : Vector UInt8 7
  smpPres : Vector UInt8 7
  smpMrand : Block
  smpSrand : Block
  smpMconfirm : Block
  smpSconfirm : Block
  smpStk : Block
  attMtu : UInt16
  svcStart : UInt16
  svcEnd : UInt16
  reportHandle : UInt16
  reportCccd : UInt16
  lastDisconnectReason : UInt8
  didCancel : Bool
deriving DecidableEq, Repr

/-- The session before the reconnect loop: zeros, and the addresses of the command line.
Source: `sw2d_final.c` `main` (session context) -/
def Session.new (peerAddrType localAddrType : UInt8) (peerAddr localAddr : Addr) : Session where
  connHandle := 0
  state := .disconnected
  peerAddrType := peerAddrType
  localAddrType := localAddrType
  peerAddr := peerAddr
  localAddr := localAddr
  smpTk := Vector.replicate 16 0
  smpPreq := Vector.replicate 7 0
  smpPres := Vector.replicate 7 0
  smpMrand := Vector.replicate 16 0
  smpSrand := Vector.replicate 16 0
  smpMconfirm := Vector.replicate 16 0
  smpSconfirm := Vector.replicate 16 0
  smpStk := Vector.replicate 16 0
  attMtu := 0
  svcStart := 0
  svcEnd := 0
  reportHandle := 0
  reportCccd := 0
  lastDisconnectReason := 0
  didCancel := false

/-- The loop a frame is read in. -/
inductive Place where
  | drain
  | rxAwait
  | rxAwaitAcl
  | encryption
  | reports
deriving DecidableEq, Repr

/-- The steps of the ATT phase that wait for an answer. -/
inductive AttStep where
  | mtu
  | services
  | characteristics
  | cccd
deriving DecidableEq, Repr

/-- What the controller does on its own: complete the creation of the given attempt, complete a
Cancel command, close a link, send another frame. -/
inductive CtlEvent where
  | connComplete (attempt : ℕ) (status : UInt8) (handle : UInt16) (rest : Octets)
  | cancelComplete (status : UInt8)
  | closed (handle : UInt16) (reason : UInt8)
  | other (bytes : Octets)
deriving DecidableEq, Repr

/-- An observation. -/
inductive Obs where
  | sessionStart
  /-- An assignment to `s.state`. -/
  | state (st : SessionState)
  /-- An HCI command, and whether it could be written. -/
  | command (opcode : UInt16) (params : Octets) (ok : Bool)
  /-- ACL data, and whether it could be written. -/
  | acl (handle cid : UInt16) (data : Octets) (ok : Bool)
  /-- Octets read while `s.conn_handle` was `handle`, and the frame they left. -/
  | read (place : Place) (handle : UInt16) (data : Octets) (f : Frame)
  /-- `rx_await_acl` returned 0 for a frame, with a buffer of `cap` octets. -/
  | delivered (cid : UInt16) (f : Frame) (cap : ℕ)
  /-- A wait for ACL data ended without any. -/
  | notDelivered (cid : UInt16)
  /-- A step of the ATT phase begins. -/
  | attStep (step : AttStep)
  | attMtu (mtu : UInt16)
  | services (svcStart svcEnd : UInt16)
  /-- The label `reconnect`. -/
  | reconnect
  | ctl (e : CtlEvent)
deriving DecidableEq, Repr

/-- The session and what was observed so far. -/
structure World where
  s : Session
  trace : List Obs
deriving DecidableEq, Repr

def World.emit (o : Obs) (w : World) : World := { w with trace := w.trace ++ [o] }

/-- Change the session. -/
def World.update (f : Session → Session) (w : World) : World := { w with s := f w.s }

@[simp] theorem World.emit_s (o : Obs) (w : World) : (w.emit o).s = w.s := rfl
@[simp] theorem World.emit_trace (o : Obs) (w : World) : (w.emit o).trace = w.trace ++ [o] := rfl
@[simp] theorem World.update_s (f : Session → Session) (w : World) : (w.update f).s = f w.s := rfl
@[simp] theorem World.update_trace (f : Session → Session) (w : World) :
    (w.update f).trace = w.trace := rfl

/-- Whether an observation starts a session. -/
def Obs.isStart : Obs → Bool
  | .sessionStart => true
  | _ => false

/-- What was observed in the current iteration of the reconnect loop. -/
def iterObs (tr : List Obs) : List Obs := since Obs.isStart tr

theorem iterObs_snoc {tr : List Obs} {o : Obs} (h : o.isStart = false) :
    iterObs (tr ++ [o]) = iterObs tr ++ [o] := since_snoc_of_not h

theorem iterObs_sessionStart (tr : List Obs) : iterObs (tr ++ [.sessionStart]) = [] :=
  since_snoc_start rfl

/-! ## Calls -/

/-- What the host asks for. -/
inductive Call where
  /-- `poll` and `read`; the answer is `none` on a timeout or an error. -/
  | read (timeoutMs : ℤ)
  /-- `writev`; the answer is false on an error. -/
  | write (bytes : Octets)
  | nowMs
  /-- The flag `g_running`. -/
  | running
  | usleep (us : ℕ)
  | sleep (seconds : ℕ)
  /-- An uninitialised `hci_frame_t`. -/
  | frame
  /-- An uninitialised buffer. -/
  | buffer (n : ℕ)
  /-- Sixteen times `rand() & 0xFF`. -/
  | rand

/-- The answers. -/
def Answer : Call → Type
  | .read _ => Option Octets
  | .write _ => Bool
  | .nowMs => ℤ
  | .running => Bool
  | .usleep _ | .sleep _ => Unit
  | .frame => Frame
  | .buffer n => Vector UInt8 n
  | .rand => Block

/-- The environment of the host: the controller, the clock, the peer. -/
abbrev HostEnv := Env Call Answer CtlEvent

/-- `goto reconnect`. -/
inductive Goto where
  | reconnect
deriving DecidableEq, Repr

/-- A computation of the host. -/
abbrev Host (α : Type) := Coro HostEnv World Goto α

/-- An act of the controller is recorded. -/
def dispatch (e : CtlEvent) (w : World) : World := w.emit (.ctl e)

/-- A call of the environment. -/
def call (c : Call) : Host (Answer c) := Coro.await dispatch c

/-- A value the program does not determine; nothing happens meanwhile. -/
def indeterminate (c : Call) : Host (Answer c) := Coro.query c

/-- The clock.
Source: `sw2d_final.c` `now_ms` -/
def nowMs : Host ℤ := call .nowMs

/-- The flag a signal clears.
Source: `sw2d_final.c` `g_running` -/
def gRunning : Host Bool := call .running

def emit (o : Obs) : Host Unit := Coro.modify (World.emit o)

def update (f : Session → Session) : Host Unit := Coro.modify (World.update f)

def gotoReconnect {α : Type} : Host α := Coro.raise .reconnect

/-- Assign `s.state`. -/
def setState (st : SessionState) : Host Unit := do
  update fun s => { s with state := st }
  emit (.state st)

/-! ## Transport -/

/-- Source: `hci_transport_user.c` `hci_user_send_cmd` (`opcode`) -/
def hciOpcode (ogf ocf : UInt16) : UInt16 :=
  (ocf &&& (0x03ff : UInt16)) ||| (ogf <<< (10 : UInt16))

/-- The octets of a command packet.
Source: `hci_transport_user.c` `hci_user_send_cmd` -/
def commandPacket (opcode : UInt16) (params : Octets) : Octets :=
  [hciCommandPkt] ++ putLe16 opcode ++ [UInt8.ofNat params.length] ++ params

/-- The octets of an ACL packet with one L2CAP frame.
Source: `hci_transport_user.c` `hci_user_acl_send` -/
def aclPacket (handle cid : UInt16) (data : Octets) : Octets :=
  [hciAcldataPkt] ++ putLe16 ((handle &&& 0x0fff) ||| 0x2000) ++
    putLe16 (4 + UInt16.ofNat data.length) ++ putLe16 (UInt16.ofNat data.length) ++ putLe16 cid ++
    data

/-- Send a command; false stands for -1.
Source: `hci_transport_user.c` `hci_user_send_cmd` -/
def hciUserSendCmd (ogf ocf : UInt16) (params : Octets) : Host Bool := do
  let ok ← call (.write (commandPacket (hciOpcode ogf ocf) params))
  emit (.command (hciOpcode ogf ocf) params ok)
  pure ok

/-- Send ACL data; false stands for -1.
Source: `hci_transport_user.c` `hci_user_acl_send` -/
def hciUserAclSend (handle cid : UInt16) (data : Octets) : Host Bool :=
  if 512 < data.length then pure false
  else do
    let ok ← call (.write (aclPacket handle cid data))
    emit (.acl handle cid data ok)
    pure ok

/-- Read one frame into `f`; `none` stands for a result of at most 0.
Source: `hci_transport_user.c` `hci_user_read_frame` -/
def hciUserReadFrame (place : Place) (f : Frame) (timeoutMs : ℤ) : Host (Option Frame) := do
  let answer ← call (.read timeoutMs)
  let data := (answer.getD []).take 512
  if data = [] then pure none
  else
    let w ← Coro.get
    emit (.read place w.s.connHandle data (f.parse data))
    pure (some (f.parse data))

/-- Whether a frame is the Command Complete of LE Create Connection Cancel.
Source: `hci_transport_user.c` `hci_user_cancel_connect` (drain) -/
def Frame.isCancelComplete (f : Frame) : Prop :=
  f.pktType = hciEventPkt ∧ f.evtCode = evtCmdComplete ∧ 4 ≤ f.payloadLen ∧
    f.payloadLe16 1 = 0x200e

instance (f : Frame) : Decidable f.isCancelComplete := inferInstanceAs (Decidable (_ ∧ _))

/-- At most `n` reads, until the Command Complete of the Cancel or a timeout.
Source: `hci_transport_user.c` `hci_user_cancel_connect` (drain) -/
def drain : (n : ℕ) → Frame → Host Unit
  | 0, _ => pure ()
  | n + 1, f => do
      match ← hciUserReadFrame .drain f 200 with
      | none => pure ()
      | some f => if f.isCancelComplete then pure () else drain n f

/-- Source: `hci_transport_user.c` `hci_user_cancel_connect` -/
def hciUserCancelConnect : Host Unit := do
  let ok ← hciUserSendCmd 0x08 0x000e []
  if ok then
    let f ← indeterminate .frame
    drain 5 f
  else pure ()

/-- Source: `sw2d_final.c` `le_create_conn` -/
def leCreateConn : Host Bool := do
  let w ← Coro.get
  hciUserSendCmd 0x08 0x000d (putLe16 0x0010 ++ putLe16 0x0010 ++ [0x00, w.s.peerAddrType] ++
    w.s.peerAddr.toList ++ [w.s.localAddrType] ++ putLe16 0x0028 ++ putLe16 0x0038 ++
    putLe16 0x0000 ++ putLe16 0x0C80 ++ putLe16 0x0001 ++ putLe16 0x0001)

/-- Source: `sw2d_final.c` `ATT_CID` -/
def attCid : UInt16 := 0x0004
/-- Source: `sw2d_final.c` `SMP_CID` -/
def smpCid : UInt16 := 0x0006

/-- Source: `sw2d_final.c` `smp_send` -/
def smpSend (data : Octets) : Host Bool := do
  let w ← Coro.get
  hciUserAclSend w.s.connHandle smpCid data

/-- Source: `sw2d_final.c` `att_send` -/
def attSend (data : Octets) : Host Bool := do
  let w ← Coro.get
  hciUserAclSend w.s.connHandle attCid data

/-! ## Waiting for frames -/

/-- The results 0, -1 and -2 of the waiting functions. -/
inductive Rx where
  | got
  | failed
  | disconnected
deriving DecidableEq, Repr

/-- An Encryption Change that reports success, as the parser presents it. -/
def Frame.isEncryptSuccess (f : Frame) : Prop :=
  f.pktType = hciEventPkt ∧ f.evtCode = evtEncryptChange ∧ f.status = 0x00

instance (f : Frame) : Decidable f.isEncryptSuccess := inferInstanceAs (Decidable (_ ∧ _))

/-- A Disconnection Complete. -/
def Frame.isDisconnect (f : Frame) : Prop :=
  f.pktType = hciEventPkt ∧ f.evtCode = evtDisconnComplete

instance (f : Frame) : Decidable f.isDisconnect := inferInstanceAs (Decidable (_ ∧ _))

/-- An LE Connection Complete long enough to be looked into.
Source: `sw2d_final.c` `rx_await` (extract `conn_handle`) -/
def Frame.isConnComplete (f : Frame) : Prop :=
  f.pktType = hciEventPkt ∧ f.evtCode = evtLeMeta ∧ f.subevent = evtLeConnComplete ∧
    19 ≤ f.payloadLen

instance (f : Frame) : Decidable f.isConnComplete := inferInstanceAs (Decidable (_ ∧ _))

/-- The event `rx_await` was asked for.
Source: `sw2d_final.c` `rx_await` (`match`) -/
def Frame.isAwaited (evt sub : UInt8) (f : Frame) : Prop :=
  (evt = evtLeMeta ∧ f.evtCode = evtLeMeta ∧ f.subevent = sub) ∨
    (evt ≠ evtLeMeta ∧ f.evtCode = evt)

instance (evt sub : UInt8) (f : Frame) : Decidable (f.isAwaited evt sub) :=
  inferInstanceAs (Decidable (_ ∨ _))

/-- The data handed out with an awaited event: nothing without a buffer or a payload.
Source: `sw2d_final.c` `rx_await` (`match`) -/
def rxAwaitOut (cap : Option ℕ) (f : Frame) : Option Octets :=
  cap.bind fun cap =>
    if 0 < f.payloadLen then some (f.payloadTake (min f.payloadLen.toNat cap)) else none

/-- What `rx_await` does with an event that is no disconnect: note the encryption, note the
handle of a new connection, and return if a connection failed or the event is the awaited one.
Source: `sw2d_final.c` `rx_await` -/
def rxAwaitEvent (evt sub : UInt8) (cap : Option ℕ) (f : Frame) :
    Host (Frame ⊕ (Rx × Option Octets)) := do
  let w ← Coro.get
  if f.isEncryptSuccess ∧ f.handle = w.s.connHandle then setState .encrypted
  if f.isConnComplete ∧ f.payload 1 ≠ 0x00 then pure (.inr (.failed, none))
  else
    if f.isConnComplete then
      update fun s => { s with connHandle := f.payloadLe16 2 &&& 0x0fff }
    if f.isAwaited evt sub then pure (.inr (.got, rxAwaitOut cap f))
    else pure (.inl f)

/-- One turn of the loop of `rx_await`.
Source: `sw2d_final.c` `rx_await` -/
def rxAwaitStep (evt sub : UInt8) (cap : Option ℕ) (deadline : ℤ) (f : Frame) :
    Host (Frame ⊕ (Rx × Option Octets)) := do
  let running ← gRunning
  if running = false then pure (.inr (.failed, none))
  else
    let now ← nowMs
    if deadline - now ≤ 0 then pure (.inr (.failed, none))
    else
      match ← hciUserReadFrame .rxAwait f (min (deadline - now) 500) with
      | none => pure (.inl f)
      | some f =>
          if f.isDisconnect then
            update fun s => { s with lastDisconnectReason := f.status }
            pure (.inr (.disconnected, none))
          else if f.pktType = hciEventPkt then rxAwaitEvent evt sub cap f
          else pure (.inl f)

/-- Wait for an event. With the result 0 come the octets copied to the buffer of `cap` octets.
Source: `sw2d_final.c` `rx_await` -/
def rxAwait (evt sub : UInt8) (cap : Option ℕ) (timeoutMs : ℤ) : Host (Rx × Option Octets) := do
  let now ← nowMs
  let f ← indeterminate .frame
  Coro.loop (rxAwaitStep evt sub cap (now + timeoutMs)) f

/-- The buffer and the length after `rx_await_acl` returned 0: the payload, if it fits.
Source: `sw2d_final.c` `rx_await_acl` -/
def rxAwaitAclOut (buf : Octets) (f : Frame) : Octets × ℕ :=
  if f.payloadLen.toNat ≤ buf.length then
    (f.payloadTake f.payloadLen.toNat ++ buf.drop f.payloadLen.toNat, f.payloadLen.toNat)
  else (buf, buf.length)

/-- ACL data on a channel of a connection.
Source: `sw2d_final.c` `rx_await_acl` -/
def Frame.isAclOn (handle cid : UInt16) (f : Frame) : Prop :=
  f.pktType = hciAcldataPkt ∧ f.handle = handle ∧ f.cid = cid

instance (handle cid : UInt16) (f : Frame) : Decidable (f.isAclOn handle cid) :=
  inferInstanceAs (Decidable (_ ∧ _))

/-- A wait for ACL data ends without any. -/
def aclNotDelivered (cid : UInt16) (rc : Rx) (buf : Octets) : Host (Frame ⊕ (Rx × Octets × ℕ)) := do
  emit (.notDelivered cid)
  pure (.inr (rc, buf, buf.length))

/-- One turn of the loop of `rx_await_acl`.
Source: `sw2d_final.c` `rx_await_acl` -/
def rxAwaitAclStep (cid : UInt16) (buf : Octets) (deadline : ℤ) (f : Frame) :
    Host (Frame ⊕ (Rx × Octets × ℕ)) := do
  let running ← gRunning
  if running = false then aclNotDelivered cid .failed buf
  else
    let now ← nowMs
    if deadline - now ≤ 0 then aclNotDelivered cid .failed buf
    else
      match ← hciUserReadFrame .rxAwaitAcl f (min (deadline - now) 500) with
      | none => pure (.inl f)
      | some f =>
          let w ← Coro.get
          if f.isDisconnect then
            update fun s => { s with lastDisconnectReason := f.status }
            aclNotDelivered cid .disconnected buf
          else if f.isEncryptSuccess then
            setState .encrypted
            pure (.inl f)
          else if f.isAclOn w.s.connHandle cid then
            emit (.delivered cid f buf.length)
            pure (.inr (.got, rxAwaitAclOut buf f))
          else pure (.inl f)

/-- Wait for ACL data on a channel: the result, the buffer and the length.
Source: `sw2d_final.c` `rx_await_acl` -/
def rxAwaitAcl (cid : UInt16) (buf : Octets) (timeoutMs : ℤ) : Host (Rx × Octets × ℕ) := do
  let now ← nowMs
  let f ← indeterminate .frame
  Coro.loop (rxAwaitAclStep cid buf (now + timeoutMs)) f

end Switch2Bt.Sw2d
