import Switch2Bt.Sw2d.Session

/-!
# The reconnect loop (`sw2d_final.c`, `main`)

One definition for each step of an iteration, under the step's number in the source. A step that
leaves the iteration raises `Goto.reconnect`; `reconnectStep` catches it at the label.

AES-128 is a parameter.
-/

namespace Switch2Bt.Sw2d

open Await Octets

/-- Leave the iteration unless a send went well. -/
def require (ok : Bool) : Host Unit := if ok then pure () else gotoReconnect

/-! ## Connection -/

/-- The fields cleared at the start of a session.
Source: `sw2d_final.c` `main` (session start) -/
def Session.restart (s : Session) : Session :=
  { s with
    state := .disconnected
    connHandle := 0
    attMtu := 0
    lastDisconnectReason := 0 }

/-- Before the connection: clear the session, cancel what may be pending.
Source: `sw2d_final.c` `main` (session start) -/
def beginSession : Host Unit := do
  emit .sessionStart
  update Session.restart
  emit (.state .disconnected)
  let w ← Coro.get
  if w.s.didCancel ∨ w.s.lastDisconnectReason ≠ 0 then
    hciUserCancelConnect
    let _ ← call (.usleep 50000)
  update fun s => { s with didCancel := true }

/-- Source: `sw2d_final.c` `main` (phase 1) -/
def connect : Host Unit := do
  require (← leCreateConn)
  let (rc, _) ← rxAwait evtLeMeta evtLeConnComplete none 10000
  require (rc = .got)
  setState .connectedUnencrypted
  let _ ← call (.usleep 200000)

/-! ## Pairing -/

/-- Source: `sw2d_final.c` `SMP_OP_PAIRING_REQ` -/
def smpOpPairingReq : UInt8 := 0x01
/-- Source: `sw2d_final.c` `SMP_OP_PAIRING_RSP` -/
def smpOpPairingRsp : UInt8 := 0x02
/-- Source: `sw2d_final.c` `SMP_OP_CONFIRM` -/
def smpOpConfirm : UInt8 := 0x03
/-- Source: `sw2d_final.c` `SMP_OP_RANDOM` -/
def smpOpRandom : UInt8 := 0x04
/-- Source: `sw2d_final.c` `SMP_OP_PAIRING_FAILED` -/
def smpOpPairingFailed : UInt8 := 0x05
/-- Source: `sw2d_final.c` `SMP_OP_SECURITY_REQUEST` -/
def smpOpSecurityRequest : UInt8 := 0x0b

/-- Source: `sw2d_final.c` `main` (2a) -/
def securityRequest (sendSecurityReq : Bool) : Host Unit :=
  if sendSecurityReq then do require (← smpSend [smpOpSecurityRequest, 0x01])
  else pure ()

/-- The Pairing Request.
Source: `sw2d_final.c` `main` (2b, `preq`) -/
def preq : Vector UInt8 7 := #v[smpOpPairingReq, 0x03, 0x00, 0x01, 0x10, 0x03, 0x03]

/-- Source: `sw2d_final.c` `main` (2b) -/
def pairingRequest : Host Unit := do
  update fun s => { s with smpPreq := preq }
  require (← smpSend preq.toList)
  setState .smpPairingSent

/-- Whether a wait got a Pairing Response.
Source: `sw2d_final.c` `main` (2c, condition) -/
def IsPairingResponse (rc : Rx) (buf : Octets) (blen : ℕ) : Prop :=
  ¬(rc ≠ .got ∨ blen < 7 ∨ buf.octet 0 ≠ smpOpPairingRsp)

instance (rc : Rx) (buf : Octets) (blen : ℕ) : Decidable (IsPairingResponse rc buf blen) :=
  inferInstanceAs (Decidable (¬_))

/-- Source: `sw2d_final.c` `main` (end of 2c) -/
def storePairingResponse (buf : Octets) : Host Unit := do
  update fun s => { s with smpPres := block 7 buf 0 }
  setState .smpConfirmRandom

/-- Source: `sw2d_final.c` `main` (2c) -/
def awaitPairingResponse : Host Unit := do
  let buf ← indeterminate (.buffer 32)
  let (rc, buf, blen) ← rxAwaitAcl smpCid (Vector.toList buf) 5000
  if rc = .disconnected then gotoReconnect
  else if IsPairingResponse rc buf blen then storePairingResponse buf
  else if 2 ≤ blen ∧ buf.octet 0 = smpOpPairingFailed then gotoReconnect
  else if 2 ≤ blen ∧ buf.octet 0 = smpOpSecurityRequest then
    -- the peer's own Security Request: wait once more
    let (rc, buf, blen) ← rxAwaitAcl smpCid buf 5000
    if IsPairingResponse rc buf blen then storePairingResponse buf
    else gotoReconnect
  else gotoReconnect

variable (aes : Block → Block → Block)

/-- The confirm value of this side.
Source: `sw2d_final.c` `main` (2d, `smp_c1` call) -/
def Session.mconfirm (s : Session) : Block :=
  smpC1 aes s.smpTk s.smpMrand s.smpPreq s.smpPres s.localAddrType s.localAddr
    s.peerAddrType s.peerAddr

/-- Source: `sw2d_final.c` `main` (2d) -/
def generateConfirm : Host Unit := do
  let mrand ← indeterminate .rand
  update fun s => { s with smpMrand := mrand }
  update fun s => { s with smpMconfirm := s.mconfirm aes }

/-- Source: `sw2d_final.c` `main` (2e) -/
def sendConfirm : Host Unit := do
  let w ← Coro.get
  require (← smpSend ([smpOpConfirm] ++ w.s.smpMconfirm.toList))

/-- Wait for a PDU of 17 octets with the given opcode.
Source: `sw2d_final.c` `main` (2f and 2h) -/
def awaitPdu17 (op : UInt8) : Host Octets := do
  let buf ← indeterminate (.buffer 32)
  let (rc, buf, blen) ← rxAwaitAcl smpCid (Vector.toList buf) 5000
  if rc = .disconnected then gotoReconnect
  else if rc ≠ .got ∨ blen ≠ 17 ∨ buf.octet 0 ≠ op then gotoReconnect
  else pure buf

/-- Source: `sw2d_final.c` `main` (2f) -/
def awaitConfirm : Host Unit := do
  let buf ← awaitPdu17 smpOpConfirm
  update fun s => { s with smpSconfirm := block 16 buf 1 }

/-- Source: `sw2d_final.c` `main` (2g) -/
def sendRandom : Host Unit := do
  let w ← Coro.get
  require (← smpSend ([smpOpRandom] ++ w.s.smpMrand.toList))

/-- Source: `sw2d_final.c` `main` (2h) -/
def awaitRandom : Host Unit := do
  let buf ← awaitPdu17 smpOpRandom
  update fun s => { s with smpSrand := block 16 buf 1 }

/-- The confirm value expected of the peer.
Source: `sw2d_final.c` `main` (2i, `smp_c1` call) -/
def Session.expectedConfirm (s : Session) : Block :=
  smpC1 aes s.smpTk s.smpSrand s.smpPreq s.smpPres s.peerAddrType s.peerAddr
    s.localAddrType s.localAddr

/-- Source: `sw2d_final.c` `main` (2i) -/
def verifyConfirm : Host Unit := do
  let w ← Coro.get
  if w.s.expectedConfirm aes ≠ w.s.smpSconfirm then gotoReconnect else pure ()

/-- Source: `sw2d_final.c` `main` (2j) -/
def deriveStk : Host Unit :=
  update fun s => { s with smpStk := smpS1 aes s.smpTk s.smpMrand s.smpSrand }

/-! ## Encryption -/

/-- Source: `sw2d_final.c` `main` (phase 3) -/
def startEncryption : Host Unit := do
  let w ← Coro.get
  require (← hciUserSendCmd 0x08 0x0019
    (putLe16 w.s.connHandle ++ List.replicate 8 0 ++ putLe16 0 ++ w.s.smpStk.toList))
  setState .encryptionStartSent

/-- An LE Long Term Key Request.
Source: `sw2d_final.c` `main` (3a) -/
def Frame.isLtkRequest (f : Frame) : Prop :=
  f.pktType = hciEventPkt ∧ f.evtCode = evtLeMeta ∧ f.subevent = evtLeLtkRequest ∧
    13 ≤ f.payloadLen

instance (f : Frame) : Decidable f.isLtkRequest := inferInstanceAs (Decidable (_ ∧ _))

/-- A frame while the encryption is awaited: whether it ends the wait.
Source: `sw2d_final.c` `main` (3a, loop body) -/
def encryptionFrame (f : Frame) : Host Bool := do
  let w ← Coro.get
  if f.isDisconnect then gotoReconnect
  else
    if f.isLtkRequest then
      let _ ← hciUserSendCmd 0x08 0x001a
        (putLe16 (f.payloadLe16 1 &&& 0x0fff) ++ w.s.smpStk.toList)
    pure (f.isEncryptSuccess ∧ f.handle = w.s.connHandle)

/-- Source: `sw2d_final.c` `main` (3a, loop) -/
def encryptionStep (deadline : ℤ) (encrypted : Bool) : Host (Bool ⊕ Bool) := do
  let now ← nowMs
  if deadline ≤ now then pure (.inr encrypted)
  else
    let running ← gRunning
    if running = false ∨ encrypted then pure (.inr encrypted)
    else
      let f ← indeterminate .frame
      match ← hciUserReadFrame .encryption f 500 with
      | none => pure (.inl false)
      | some f => do
          let encrypted ← encryptionFrame f
          pure (.inl encrypted)

/-- Source: `sw2d_final.c` `main` (3a) -/
def awaitEncryption : Host Unit := do
  let now ← nowMs
  let encrypted ← Coro.loop (encryptionStep (now + 10000)) false
  require encrypted
  setState .encrypted
  update fun s => { s with didCancel := false }

/-! ## ATT -/

/-- Source: `sw2d_final.c` `ATT_OP_ERROR_RSP` -/
def attOpErrorRsp : UInt8 := 0x01
/-- Source: `sw2d_final.c` `ATT_OP_MTU_REQ` -/
def attOpMtuReq : UInt8 := 0x02
/-- Source: `sw2d_final.c` `ATT_OP_MTU_RSP` -/
def attOpMtuRsp : UInt8 := 0x03
/-- Source: `sw2d_final.c` `ATT_OP_READ_BY_TYPE_REQ` -/
def attOpReadByTypeReq : UInt8 := 0x08
/-- Source: `sw2d_final.c` `ATT_OP_READ_BY_TYPE_RSP` -/
def attOpReadByTypeRsp : UInt8 := 0x09
/-- Source: `sw2d_final.c` `ATT_OP_READ_BY_GROUP_REQ` -/
def attOpReadByGroupReq : UInt8 := 0x10
/-- Source: `sw2d_final.c` `ATT_OP_READ_BY_GROUP_RSP` -/
def attOpReadByGroupRsp : UInt8 := 0x11
/-- Source: `sw2d_final.c` `ATT_OP_WRITE_REQ` -/
def attOpWriteReq : UInt8 := 0x12
/-- Source: `sw2d_final.c` `ATT_OP_WRITE_RSP` -/
def attOpWriteRsp : UInt8 := 0x13
/-- Source: `sw2d_final.c` `ATT_OP_HANDLE_NOTIFY` -/
def attOpHandleNotify : UInt8 := 0x1b

/-- Send a request and wait for ATT data, in a buffer of `n` octets.
Source: `sw2d_final.c` `main` (4a, 4b and 4d) -/
def attExchange (step : AttStep) (req : Octets) (n : ℕ) (timeoutMs : ℤ) :
    Host (Rx × Octets × ℕ) := do
  emit (.attStep step)
  require (← attSend req)
  let buf ← indeterminate (.buffer n)
  rxAwaitAcl attCid (Vector.toList buf) timeoutMs

/-- The MTU read off what 4a received.
Source: `sw2d_final.c` `main` (4a) -/
def mtuOf (rc : Rx) (buf : Octets) (blen : ℕ) : UInt16 :=
  if rc = .got ∧ 3 ≤ blen ∧ buf.octet 0 = attOpMtuRsp then getLe16 buf 1 else 23

/-- Source: `sw2d_final.c` `main` (4a) -/
def attMtuExchange : Host Unit := do
  let (rc, buf, blen) ← attExchange .mtu [attOpMtuReq, 0xFF, 0x00] 32 2000
  update fun s => { s with attMtu := mtuOf rc buf blen }
  emit (.attMtu (mtuOf rc buf blen))
  setState .attReady

/-- The service range read off what 4b received.
Source: `sw2d_final.c` `main` (4b) -/
def servicesOf (rc : Rx) (buf : Octets) (blen : ℕ) : UInt16 × UInt16 :=
  if rc = .got ∧ 6 ≤ blen ∧ buf.octet 0 = attOpReadByGroupRsp then (getLe16 buf 2, getLe16 buf 4)
  else (0x0001, 0xFFFF)

/-- Source: `sw2d_final.c` `main` (4b) -/
def discoverServices : Host Unit := do
  let (rc, buf, blen) ← attExchange .services
    [attOpReadByGroupReq, 0x01, 0x00, 0xFF, 0xFF, 0x00, 0x28] 64 3000
  update fun s => { s with
    svcStart := (servicesOf rc buf blen).1
    svcEnd := (servicesOf rc buf blen).2 }
  emit (.services (servicesOf rc buf blen).1 (servicesOf rc buf blen).2)

/-- A notifying characteristic in a Read By Type Response becomes the source of the reports.
Source: `sw2d_final.c` `main` (4c, loop body) -/
def Session.noteCharacteristic (buf : Octets) (blen : ℕ) (s : Session) : Session :=
  if buf.octet 0 = attOpReadByTypeRsp ∧ 7 ≤ blen ∧ buf.octet 4 &&& 0x10 ≠ 0 then
    { s with reportHandle := getLe16 buf 5, reportCccd := getLe16 buf 5 + 1 }
  else s

/-- One turn of the loop of 4c.
Source: `sw2d_final.c` `main` (4c, loop) -/
def characteristicsStep (deadline : ℤ) : Host (Unit ⊕ Unit) := do
  let now ← nowMs
  if deadline ≤ now then
    emit (.notDelivered attCid)
    pure (.inr ())
  else
    let running ← gRunning
    if running = false then
      emit (.notDelivered attCid)
      pure (.inr ())
    else
      let buf ← indeterminate (.buffer 64)
      let now ← nowMs
      let (rc, buf, blen) ← rxAwaitAcl attCid (Vector.toList buf) (deadline - now)
      if rc = .disconnected then gotoReconnect
      else if rc ≠ .got then pure (.inl ())
      else
        update (Session.noteCharacteristic buf blen)
        if buf.octet 0 = attOpErrorRsp then pure (.inr ()) else pure (.inl ())

/-- Source: `sw2d_final.c` `main` (4c) -/
def discoverCharacteristics : Host Unit := do
  let w ← Coro.get
  emit (.attStep .characteristics)
  require (← attSend ([attOpReadByTypeReq] ++ putLe16 w.s.svcStart ++ putLe16 w.s.svcEnd ++
    [0x03, 0x28]))
  let now ← nowMs
  Coro.loop (fun _ => characteristicsStep (now + 3000)) ()
  update fun s => if s.reportHandle = 0 then { s with reportHandle := 0x000E, reportCccd := 0x000F }
    else s
  setState .gattReady

/-- Source: `sw2d_final.c` `main` (4d) -/
def enableNotifications : Host Unit := do
  let w ← Coro.get
  let _ ← attExchange .cccd ([attOpWriteReq] ++ putLe16 w.s.reportCccd ++ [0x01, 0x00]) 16 2000
  setState .notificationsEnabled

/-! ## Reports -/

/-- One turn of the report loop.
Source: `sw2d_final.c` `main` (phase 5) -/
def reportsStep : Host (Unit ⊕ Unit) := do
  let running ← gRunning
  let w ← Coro.get
  if running = false ∨ w.s.state ≠ .notificationsEnabled then pure (.inr ())
  else
    let f ← indeterminate .frame
    match ← hciUserReadFrame .reports f 1000 with
    | none => pure (.inl ())
    | some f =>
        if f.isDisconnect then
          update fun s => { s with lastDisconnectReason := f.status }
          pure (.inr ())
        else pure (.inl ())

/-- The loop counts and prints the reports, which nothing else uses.
Source: `sw2d_final.c` `main` (phase 5) -/
def receiveReports : Host Unit := do
  Coro.loop (fun _ => reportsStep) ()
  update fun s => { s with didCancel := false }

/-! ## The loop -/

/-- Source: `sw2d_final.c` `main` (phase 2) -/
def pair (sendSecurityReq : Bool) : Host Unit := do
  securityRequest sendSecurityReq
  pairingRequest
  awaitPairingResponse
  generateConfirm aes
  sendConfirm
  awaitConfirm
  sendRandom
  awaitRandom
  verifyConfirm aes
  deriveStk aes

/-- Source: `sw2d_final.c` `main` (phase 3) -/
def encrypt : Host Unit := do
  startEncryption
  awaitEncryption

/-- Source: `sw2d_final.c` `main` (phase 4) -/
def attPhase : Host Unit := do
  attMtuExchange
  discoverServices
  discoverCharacteristics
  enableNotifications

/-- An iteration up to the label.
Source: `sw2d_final.c` `main` (loop body) -/
def iteration (sendSecurityReq : Bool) : Host Unit := do
  beginSession
  connect
  pair aes sendSecurityReq
  encrypt
  attPhase
  receiveReports

/-- One turn of the loop, with the delay of the next reconnect.
Source: `sw2d_final.c` `main` (reconnect loop) -/
def reconnectStep (sendSecurityReq : Bool) (backoff : ℕ) : Host (ℕ ⊕ Unit) := do
  let running ← gRunning
  if running = false then pure (.inr ())
  else
    let _ ← (iteration aes sendSecurityReq).attempt
    emit .reconnect
    let running ← gRunning
    if running = false then pure (.inr ())
    else
      let _ ← call (.sleep backoff)
      pure (.inl (if backoff < 16 then backoff * 2 else backoff))

/-- Source: `sw2d_final.c` `main` (reconnect loop) -/
def reconnectLoop (sendSecurityReq : Bool) : Host Unit :=
  Coro.loop (reconnectStep aes sendSecurityReq) 1

/-- What the command line determines. -/
structure HostConfig where
  sendSecurityReq : Bool
  peerAddrType : UInt8
  localAddrType : UInt8
  peerAddr : Addr
  localAddr : Addr
deriving DecidableEq, Repr

/-- The world before the loop. -/
def HostConfig.start (cfg : HostConfig) : World :=
  ⟨Session.new cfg.peerAddrType cfg.localAddrType cfg.peerAddr cfg.localAddr, []⟩

/-- The world after a run of the loop that completes `budget` awaits. -/
def hostRun (cfg : HostConfig) (env : HostEnv) (budget : ℕ) : World :=
  (reconnectLoop aes cfg.sendSecurityReq env ⟨cfg.start, 0, budget⟩).2.state

end Switch2Bt.Sw2d
