import Switch2Bt.Await.Protocol
import Switch2Bt.Hid.Report09
import Switch2Bt.Hid.UhidEvents
import Switch2Bt.Hosts.Addresses
import Switch2Bt.Hosts.AttReader

/-!
# The relay on a raw HCI socket (`sw2d.c`)

The whole program, from its arguments to its exit code. A call of the system takes any time, and a
signal may arrive meanwhile; its handler clears `running`. `system` answers are arbitrary: a
descriptor may be refused, a write may be short or fail, a read may give anything.

What the program notes are the packets it put together, the buffers it wrote out, and its log
lines on reports and on the end of a session.
-/

namespace Switch2Bt.RawHci

open Await Octets Sw2d Uhid PacketReader Report09 Addresses

/-! ## The system -/

/-- The errors that are told apart. -/
inductive Errno where
  | eintr
  | other
deriving DecidableEq, Repr

/-- The calls of the system. -/
inductive Call where
  /-- `socket(AF_BLUETOOTH, SOCK_RAW, BTPROTO_HCI)` -/
  | socket
  | bind (fd : ℕ)
  | getFilter (fd : ℕ)
  | setFilter (fd : ℕ) (filter : Octets)
  | writev (fd : ℕ) (data : Octets)
  | write (fd : ℕ) (data : Octets)
  | poll (fd : ℕ) (timeoutMs : ℤ)
  | read (fd : ℕ) (len : ℕ)
  | openFile (path : List Char)
  | close (fd : ℕ)
  | sleep (seconds : ℕ)
deriving DecidableEq, Repr

/-- Their answers; `none`, `false` and `Errno` stand for -1. -/
def Answer : Call → Type
  | .socket | .openFile _ => Option ℕ
  | .bind _ | .setFilter _ _ => Bool
  | .writev _ _ | .poll _ _ => ℤ
  | .write _ _ => Except Errno ℕ
  | .read _ _ => Except Errno Octets
  | .getFilter _ | .close _ | .sleep _ => Unit

/-- What is delivered to the process. -/
inductive Signal where
  /-- `SIGINT` or `SIGTERM` -/
  | stop
deriving DecidableEq, Repr

/-- What the program notes. -/
inductive Note where
  /-- `hci_read_packet` put a packet together. -/
  | packet (data : Octets)
  /-- `write_full` wrote a buffer, or gave up. -/
  | wrote (fd : ℕ) (data : Octets) (ok : Bool)
  /-- "receiving controller notifications", of a connection and for a device. -/
  | receiving (handle : UInt16) (uhid : Option ℕ)
  /-- "session ended" -/
  | sessionEnded (rc : ℤ)
deriving DecidableEq, Repr

/-- Source: `sw2d.c` `running` -/
structure Vars where
  running : Bool
deriving DecidableEq, Repr

abbrev Obs := Mark Call Answer Signal Note

abbrev System := Env Call Answer Signal

abbrev Raw (α : Type) := Prog Vars Call Answer Signal Note α

/-- Source: `sw2d.c` `on_signal` -/
def onSignal (_sig : Signal) (_s : Vars) : Vars := ⟨false⟩

def sys (c : Call) : Raw (Answer c) := Prog.call onSignal c

def note (n : Note) : Raw Unit := Prog.note n

/-- The flag `running`. -/
def running : Raw Bool := do
  let s ← Prog.vars
  pure s.running

/-! ## Reading and writing -/

/-- Source: `sw2d.c` `write_full` -/
def writeFull (fd : ℕ) (data : Octets) : Raw Bool := do
  let ok ← Coro.loop (fun rest : Octets => do
    if rest = [] then pure (.inr true)
    else
      match ← sys (.write fd rest) with
      | .error .eintr => pure (.inl rest)
      | .error .other => pure (.inr false)
      | .ok n => pure (.inl (rest.drop n))) data
  note (.wrote fd data ok)
  pure ok

/-- Source: `sw2d.c` `read_full` -/
def readFull (fd : ℕ) (len : ℕ) : Raw (Option Octets) :=
  Coro.loop (fun got : Octets => do
    if len ≤ got.length then pure (.inr (some got))
    else
      match ← sys (.read fd (len - got.length)) with
      | .error .eintr => pure (.inl got)
      | .error .other => pure (.inr none)
      | .ok data =>
          if data = [] then pure (.inr (some got))
          else pure (.inl (got ++ data.take (len - got.length)))) []

/-- What is behind the header.
Source: `sw2d.c` `hci_read_packet` (last read of a branch) -/
def readBody (fd bufsz : ℕ) (header : Octets) (len : ℕ) : Raw Result := do
  if bufsz < header.length + len then pure .error
  else
    match ← readFull fd len with
    | none => pure .error
    | some body =>
        if body.length ≠ len then pure .error
        else do
          note (.packet (header ++ body))
          pure (.packet (header ++ body))

/-- The header of `n` octets, then the rest.
Source: `sw2d.c` `hci_read_packet` (branches) -/
def readHeader (fd bufsz : ℕ) (type : UInt8) (n : ℕ) (lenOf : Octets → ℕ) : Raw Result := do
  if bufsz < 1 + n then pure .error
  else
    match ← readFull fd n with
    | none => pure .error
    | some header =>
        if header.length ≠ n then pure .error
        else readBody fd bufsz (type :: header) (lenOf (type :: header))

/-- Source: `sw2d.c` `hci_read_packet` -/
def hciReadPacket (fd bufsz : ℕ) (timeoutMs : ℤ) : Raw Result := do
  let pr : ℤ ← sys (.poll fd timeoutMs)
  if pr < 0 then pure .error
  else if pr = 0 then pure .timeout
  else if bufsz < 1 then pure .error
  else
    match ← readFull fd 1 with
    | some [type] =>
        if type = hciEventPkt then readHeader fd bufsz type 2 eventLen
        else if type = hciAcldataPkt then readHeader fd bufsz type 4 aclLen
        else do
          note (.packet [type])
          pure (.packet [type])
    | _ => pure .error

/-! ## The HCI socket -/

/-- Source: `sw2d.c` `set_exact_connect_filter` (`hci_filter`) -/
def exactConnectFilter : Octets := [
  0x10, 0x00, 0x00, 0x00,
  0x02, 0xc0, 0x00, 0x00,
  0x00, 0x00, 0x00, 0x40,
  0x0d, 0x20, 0x00, 0x00]

/-- Source: `sw2d.c` `set_exact_connect_filter` -/
def setExactConnectFilter (fd : ℕ) : Raw Bool := do
  sys (.getFilter fd)
  sys (.setFilter fd exactConnectFilter)

/-- Source: `sw2d.c` `EVT_NUM_COMP_PKTS` -/
def evtNumCompPkts : UInt8 := 0x13

/-- The events below 32 that pass.
Source: `sw2d.c` `set_acl_runtime_filter` (`event0`) -/
def event0 : UInt32 :=
  (1 <<< evtDisconnComplete.toUInt32) ||| (1 <<< evtCmdComplete.toUInt32) |||
    (1 <<< evtCmdStatus.toUInt32) ||| (1 <<< evtNumCompPkts.toUInt32)

/-- Source: `sw2d.c` `set_acl_runtime_filter` (`f`) -/
def aclRuntimeFilter : Octets := [
  ((1 : UInt8) <<< hciAcldataPkt) ||| (1 <<< hciEventPkt), 0, 0, 0,
  event0.toUInt8, (event0 >>> 8).toUInt8, (event0 >>> 16).toUInt8, (event0 >>> 24).toUInt8,
  0, 0, 0x00, 0x40,
  0, 0, 0, 0]

/-- Source: `sw2d.c` `set_acl_runtime_filter` -/
def setAclRuntimeFilter (fd : ℕ) : Raw Bool := sys (.setFilter fd aclRuntimeFilter)

/-- Source: `sw2d.c` `hci_open` -/
def hciOpen : Raw (Option ℕ) := do
  match ← sys .socket with
  | none => pure none
  | some fd =>
      let bound : Bool ← sys (.bind fd)
      if bound then pure (some fd)
      else do
        sys (.close fd)
        pure none

/-- Source: `sw2d.c` `OGF_LE_CTL` -/
def ogfLeCtl : UInt16 := 0x08
/-- Source: `sw2d.c` `OCF_LE_CREATE_CONN` -/
def ocfLeCreateConn : UInt16 := 0x000d
/-- Source: `sw2d.c` `OCF_LE_CONN_UPDATE` -/
def ocfLeConnUpdate : UInt16 := 0x0013

/-- Source: `sw2d.c` `hci_send_cmd` -/
def hciSendCmd (fd : ℕ) (ogf ocf : UInt16) (params : Octets) : Raw Bool := do
  let n : ℤ ← sys (.writev fd (commandPacket (hciOpcode ogf ocf) params))
  pure (decide (n = 1 + 3 + params.length))

/-- What becomes of a packet while the connection is awaited.
Source: `sw2d.c` `hci_connect_le` (loop body) -/
inductive Connecting where
  | waiting
  | failed
  | connected (handle : UInt16)
deriving DecidableEq, Repr

/-- Source: `sw2d.c` `hci_connect_le` (loop body) -/
def connecting (pkt : Octets) : Connecting :=
  if pkt.octet 0 ≠ hciEventPkt ∨ pkt.length < 3 then .waiting
  else if pkt.octet 1 = evtLeMeta ∧ 19 ≤ pkt.octet 2 ∧ pkt.octet (3 + 0) = evtLeConnComplete then
    if pkt.octet (3 + 1) ≠ 0x00 then .failed
    else .connected (getLe16 pkt (3 + 2) &&& 0x0fff)
  else .waiting

/-- At most 120 reads of 100 ms, while `running`.
Source: `sw2d.c` `hci_connect_le` (loop) -/
def awaitConnection (fd : ℕ) : Raw (Option UInt16) :=
  Coro.loop (fun i : ℕ => do
    if ¬(← running) ∨ 120 ≤ i then pure (.inr none)
    else
      match ← hciReadPacket fd 260 100 with
      | .packet pkt =>
          match connecting pkt with
          | .waiting => pure (.inl (i + 1))
          | .failed => pure (.inr none)
          | .connected handle => pure (.inr (some handle))
      | _ => pure (.inl (i + 1))) 0

/-- Source: `sw2d.c` `hci_connect_le` -/
def hciConnectLe (fd : ℕ) (peer : Addr) : Raw (Option UInt16) := do
  if ¬(← setExactConnectFilter fd) then pure none
  else if ¬(← hciSendCmd fd ogfLeCtl ocfLeCreateConn (hciConnectLeParams peer)) then pure none
  else awaitConnection fd

/-- Source: `sw2d.c` `hci_request_conn_update` (`p`) -/
def connUpdateParams (handle : UInt16) : Octets :=
  putLe16 handle ++ putLe16 0x0006 ++ putLe16 0x0006 ++ putLe16 0x0000 ++ putLe16 0x002a ++
    putLe16 0x0000 ++ putLe16 0x0000

/-- Source: `sw2d.c` `hci_request_conn_update` -/
def hciRequestConnUpdate (fd : ℕ) (handle : UInt16) : Raw Unit := do
  let _ ← hciSendCmd fd ogfLeCtl ocfLeConnUpdate (connUpdateParams handle)

/-! ## ATT -/

/-- Source: `sw2d.c` `acl_send_att` -/
def aclSendAtt (fd : ℕ) (handle : UInt16) (att : Octets) : Raw Bool :=
  match PacketReader.aclSendAtt handle att with
  | none => pure false
  | some pkt => writeFull fd pkt

/-- The result, and the PDU if it is positive. Octets behind the packet are read for the log only.
Source: `sw2d.c` `read_acl_att` -/
def readAclAtt (fd : ℕ) (connHandle : UInt16) (attsz : ℕ) (timeoutMs : ℤ) : Raw (ℤ × Octets) :=
  Coro.loop (fun _ : Unit => do
    match ← hciReadPacket fd 2048 timeoutMs with
    | .packet pkt =>
        match (readPacket connHandle attsz pkt.length).run pkt.octet with
        | .passed => pure (.inl ())
        | .disconnected => pure (.inr (-2, []))
        | .pdu pdu _ => pure (.inr (pdu.length, pdu))
    | .timeout => pure (.inr (0, []))
    | _ => pure (.inr (-1, []))) ()

/-- The result, and the PDU if it is positive.
Source: `sw2d.c` `att_request_response` -/
def attRequestResponse (fd : ℕ) (handle : UInt16) (req : Octets) (rspsz : ℕ) (timeoutMs : ℤ) :
    Raw (ℤ × Octets) := do
  if ¬(← aclSendAtt fd handle req) then pure (-1, [])
  else
    Coro.loop (fun _ : Unit => do
      let (n, rsp) ← readAclAtt fd handle rspsz timeoutMs
      if n ≤ 0 then pure (.inr (if n = 0 then -1 else n, []))
      else if rsp.octet 0 = attOpHandleNotify then pure (.inl ())
      -- the expected response, an error and anything else are told apart in the log only
      else pure (.inr (n, rsp))) ()

/-- Source: `sw2d.c` `gatt_probe` (`mtu_req`) -/
def mtuReq : Octets := [attOpMtuReq, 0x05, 0x02]
/-- Source: `sw2d.c` `gatt_probe` (`svc_req`) -/
def svcReq : Octets := [attOpReadByGroupReq, 0x01, 0x00, 0xff, 0xff, 0x00, 0x28]
/-- Source: `sw2d.c` `gatt_probe` (`chr_req`) -/
def chrReq : Octets := [attOpReadByTypeReq, 0x08, 0x00, 0x2a, 0x00, 0x03, 0x28]

/-- The three requests; the responses are listed in the log.
Source: `sw2d.c` `gatt_probe` -/
def gattProbe (fd : ℕ) (handle : UInt16) : Raw Unit := do
  let _ ← attRequestResponse fd handle mtuReq 768 2000
  let _ ← attRequestResponse fd handle svcReq 768 2000
  let _ ← attRequestResponse fd handle chrReq 768 2000

/-- Source: `sw2d.c` `SW2_INPUT_VALUE_HANDLE` -/
def sw2InputValueHandle : UInt16 := 0x000e
/-- Source: `sw2d.c` `SW2_INPUT_CCCD_HANDLE` -/
def sw2InputCccdHandle : UInt16 := 0x000f

/-- Source: `sw2d.c` `enable_notifications` (`req`) -/
def cccdReq : Octets := [attOpWriteReq] ++ putLe16 sw2InputCccdHandle ++ [0x01, 0x00]

/-- Source: `sw2d.c` `enable_notifications` -/
def enableNotifications (fd : ℕ) (handle : UInt16) : Raw Bool := do
  let (n, rsp) ← attRequestResponse fd handle cccdReq 64 2000
  pure (decide (1 ≤ n ∧ rsp.octet 0 = attOpWriteRsp))

/-! ## The HID device -/

variable (abi : UhidEvent → Octets)

/-- Source: `sw2d.c` `DEFAULT_BDADDR` -/
def defaultBdaddr : List Char := "E0:EF:BF:3B:C6:76".toList

/-- Source: `sw2d.c` `uhid_create_device` (`ev`) -/
def gamepad : UhidCreate where
  name := "Nintendo Switch 2 Pro Controller".toList
  uniq := defaultBdaddr
  bus := busBluetooth
  vendor := 0x057e
  product := 0x2069
  version := 0x0100
  country := 0
  rdSize := gamepadRdesc.length
  rdData := gamepadRdesc

/-- Source: `sw2d.c` `uhid_create_device` -/
def uhidCreateDevice : Raw (Option ℕ) := do
  match ← sys (.openFile devUhid) with
  | none => pure none
  | some fd =>
      if ← writeFull fd (abi (.create2 gamepad)) then pure (some fd)
      else do
        sys (.close fd)
        pure none

/-- Source: `sw2d.c` `uhid_destroy_device` -/
def uhidDestroyDevice : Option ℕ → Raw Unit
  | none => pure ()
  | some fd => do
      let _ ← writeFull fd (abi .destroy)
      sys (.close fd)

/-- Source: `sw2d.c` `uhid_send_report` -/
def uhidSendReport (uhid : Option ℕ) (data : Octets) : Raw Bool :=
  match uhid with
  | none => pure true
  | some fd => writeFull fd (abi (.input2 (data.take uhidDataMax)))

/-! ## USB -/

/-- Source: `sw2d.c` `usb_send_subcmd` (`report`) -/
def subcmdReport (counter subcmd : UInt8) (arg : Octets) : Octets :=
  let arg := arg.take (64 - 11)
  [0x01, counter] ++ List.replicate 8 0 ++ [subcmd] ++ arg ++
    List.replicate (64 - 11 - arg.length) 0

/-- Source: `sw2d.c` `usb_send_subcmd` -/
def usbSendSubcmd (fd : ℕ) (counter subcmd : UInt8) (arg : Octets) : Raw Bool :=
  writeFull fd (subcmdReport counter subcmd arg)

/-- Source: `sw2d.c` `usb_init_controller` (`host`) -/
def usbHost : Octets := [0xd8, 0x3a, 0xdd, 0xe5, 0x69, 0xed]

/-- Source: `sw2d.c` `usb_init_controller` (the three commands, up to the first that fails) -/
def usbCommands (fd : ℕ) : Raw Bool := do
  if ¬(← usbSendSubcmd fd 0 0x06 [0x01]) then pure false
  else if ¬(← usbSendSubcmd fd 1 0x08 [0x00]) then pure false
  else usbSendSubcmd fd 2 0x01 usbHost

/-- Source: `sw2d.c` `usb_init_controller` -/
def usbInitController (hidraw : List Char) : Raw Bool := do
  match ← sys (.openFile hidraw) with
  | none => pure false
  | some fd =>
      let ok ← usbCommands fd
      sys (.close fd)
      if ok then sys (.sleep 8)
      pure ok

/-! ## A session -/

/-- What is written to the device for a PDU of `n` octets, if anything.
Source: `sw2d.c` `run_session` (receive loop) -/
def reportOf (n : ℤ) (att : Octets) : Option Octets :=
  if 3 ≤ n ∧ att.octet 0 = attOpHandleNotify then
    if getLe16 att 1 ≠ sw2InputValueHandle then none
    else
      let (hlen, hid) := report09ToUhid (att.drop 3) (List.replicate 32 0)
      if 0 < hlen then some (hid.take hlen.toNat) else none
  else none

/-- Source: `sw2d.c` `run_session` (receive loop) -/
def receive (hci : ℕ) (handle : UInt16) (uhid : Option ℕ) : Raw Unit :=
  Coro.loop (fun _ : Unit => do
    if ¬(← running) then pure (.inr ())
    else
      let (n, att) ← readAclAtt hci handle 1024 1000
      if n = -2 then pure (.inr ())
      else
        match reportOf n att with
        | none => pure (.inl ())
        | some report => do
            let _ ← uhidSendReport abi uhid report
            pure (.inl ())) ()

/-- The part of a session with a device, or with `--no-uhid` without one.
Source: `sw2d.c` `run_session` (from `enable_notifications` on) -/
def runNotifying (hci : ℕ) (handle : UInt16) (uhid : Option ℕ) : Raw ℤ := do
  if ¬(← enableNotifications hci handle) then do
    uhidDestroyDevice abi uhid
    sys (.close hci)
    pure (-1)
  else do
    note (.receiving handle uhid)
    receive abi hci handle uhid
    uhidDestroyDevice abi uhid
    sys (.close hci)
    pure 0

/-- The part of a session with a connection.
Source: `sw2d.c` `run_session` (from `set_acl_runtime_filter` on) -/
def runConnected (noUhid : Bool) (hci : ℕ) (handle : UInt16) : Raw ℤ := do
  if ¬(← setAclRuntimeFilter hci) then do
    sys (.close hci)
    pure (-1)
  else do
    hciRequestConnUpdate hci handle
    gattProbe hci handle
    if noUhid then runNotifying abi hci handle none
    else
      match ← uhidCreateDevice abi with
      | none => do
          sys (.close hci)
          pure (-1)
      | some uhid => runNotifying abi hci handle (some uhid)

/-- Source: `sw2d.c` `run_session` -/
def runSession (peer : Addr) (noUhid : Bool) : Raw ℤ := do
  match ← hciOpen with
  | none => pure (-1)
  | some hci =>
      match ← hciConnectLe hci peer with
      | none => do
          sys (.close hci)
          pure (-1)
      | some handle => runConnected abi noUhid hci handle

/-! ## The program -/

/-- Source: `sw2d.c` `DEFAULT_HIDRAW` -/
def defaultHidraw : List Char := "/dev/hidraw0".toList

/-- What the command line says. -/
structure Args where
  bdaddr : List Char
  hidraw : List Char
  usbInit : Bool
  noUhid : Bool
deriving DecidableEq, Repr

/-- The loop over the arguments; `none` is an exit with the usage.
Source: `sw2d.c` `main` (`argv`) -/
def parseArgs : List (List Char) → Args → Option Args
  | [], a => some a
  | arg :: argv, a =>
      if arg = "--usb-init".toList then parseArgs argv { a with usbInit := true }
      else if arg = "--no-uhid".toList then parseArgs argv { a with noUhid := true }
      else if arg = "--hidraw".toList then
        match argv with
        | [] => none
        | path :: argv => parseArgs argv { a with hidraw := path }
      else if arg.head? = some '-' then none
      else parseArgs argv { a with bdaddr := arg }

/-- Source: `sw2d.c` `main` (reconnect loop) -/
def reconnectLoop (peer : Addr) (noUhid : Bool) : Raw Unit :=
  Coro.loop (fun backoff : ℕ => do
    if ¬(← running) then pure (.inr ())
    else
      let rc ← runSession abi peer noUhid
      if ¬(← running) then pure (.inr ())
      else do
        note (.sessionEnded rc)
        sys (.sleep backoff)
        pure (.inl (if backoff < 16 then backoff * 2 else backoff))) 1

/-- The program behind its arguments.
Source: `sw2d.c` `main` (from `signal` on) -/
def runMain (a : Args) (peer : Addr) : Raw ℤ := do
  if a.usbInit then
    if ← usbInitController a.hidraw then do
      reconnectLoop abi peer a.noUhid
      pure 0
    else pure 1
  else do
    reconnectLoop abi peer a.noUhid
    pure 0

/-- Source: `sw2d.c` `main` -/
def main (argv : List (List Char)) : Raw ℤ :=
  match parseArgs argv ⟨defaultBdaddr, defaultHidraw, false, false⟩ with
  | none => pure 2
  | some a =>
      match parseBdaddr a.bdaddr with
      | none => pure 2
      | some peer => runMain abi a peer

end Switch2Bt.RawHci
