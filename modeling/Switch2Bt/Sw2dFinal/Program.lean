import Switch2Bt.Await.Inside
import Switch2Bt.Hosts.Addresses
import Switch2Bt.Hosts.PeerScan
import Switch2Bt.Sw2d.CommandWait

/-!
# The program (`sw2d_final.c`, `hci_transport_user.c`)

The whole of `main`: the command line, the preflight, the guard, the preparation over USB, the
socket of the transport, the scan, and inside it the reconnect loop as it is modelled elsewhere. The
calls are the system calls, and what the program does not determine.

AES-128, `str2ba` and `atoi` are parameters.
-/

namespace Switch2Bt.Sw2dFinal

open Await Octets Sw2d Addresses Scanners

/-- A string. -/
abbrev Text := List Char

/-! ## Calls -/

/-- How `bind` and `ioctl` end: well, with `EBUSY`, with `EALREADY` or with another error. -/
inductive Result where
  | ok
  | busy
  | already
  | error
deriving DecidableEq, Repr

/-- What the program asks for. -/
inductive Call where
  /-- The files `comm` in `/proc`; `none` if it cannot be opened. -/
  | comms
  /-- `system`; whether the status is 0. -/
  | system (cmd : Text)
  | usleep (us : ℕ)
  | sleep (seconds : ℕ)
  | geteuid
  /-- `access` with `F_OK`. -/
  | access (path : Text)
  /-- `/sys/class/bluetooth/hci0/address`, if it can be opened. -/
  | sysfs
  | open (path : Text)
  /-- `write` to the device under `--hidraw`. -/
  | write (fd : ℕ) (data : Octets)
  | close (fd : ℕ)
  /-- `hci_get_route(NULL)` -/
  | route
  /-- `socket`, with the type `SOCK_RAW` or `SOCK_RAW | SOCK_CLOEXEC`. -/
  | socket (cloexec : Bool)
  /-- `bind` to a channel of a device. -/
  | bind (fd : ℕ) (dev : ℤ) (user : Bool)
  /-- `ioctl` with `HCIDEVDOWN`. -/
  | down (fd : ℕ) (dev : ℤ)
  | writev (fd : ℕ) (bytes : Octets)
  /-- `poll` and `read`; the answer is `none` on a timeout or an error. -/
  | read (fd : ℕ) (timeoutMs : ℤ)
  | nowMs
  /-- The flag `g_running`. -/
  | running
  /-- An uninitialised `hci_frame_t`. -/
  | frame
  /-- An uninitialised buffer. -/
  | buffer (n : ℕ)
  /-- Sixteen times `rand() & 0xFF`. -/
  | rand

/-- The answers. -/
def Answer : Call → Type
  | .comms => Option (List Text)
  | .system _ | .access _ | .write _ _ | .writev _ _ | .running => Bool
  | .usleep _ | .sleep _ | .close _ => Unit
  | .geteuid => ℕ
  | .sysfs => Option Text
  | .open _ | .socket _ => Option ℕ
  | .route | .nowMs => ℤ
  | .bind _ _ _ | .down _ _ => Result
  | .read _ _ => Option Octets
  | .frame => Frame
  | .buffer n => Vector UInt8 n
  | .rand => Block

/-- The system, and the controller. -/
abbrev System := Env Call Answer CtlEvent

/-- What happens; the program notes what the reconnect loop observes. -/
abbrev Obs := Mark Call Answer CtlEvent Sw2d.Obs

/-- A piece of the program. -/
abbrev F (α : Type) := Prog Unit Call Answer CtlEvent Sw2d.Obs α

/-- A system call; what the controller does meanwhile is only recorded. -/
def sys (c : Call) : F (Answer c) := Prog.call (fun _ s => s) c

/-! ## The command line -/

/-- What the command line says. -/
structure Args where
  bdaddr : Option Text := none
  hidraw : Text := "/dev/hidraw0".toList
  hostSpec : Text := "auto".toList
  peerTypeS : Text := "public".toList
  ownTypeS : Text := "public".toList
  usbInit : Bool := false
  autoScan : Bool := false
  scanOnly : Bool := false
  exclusive : Bool := false
  killBluez : Bool := false
  preflight : Bool := false
  verbose : Bool := false
  sendSecurityReq : Bool := false
  peerTypeExplicit : Bool := false
  scanTimeout : ℤ := 10000
deriving DecidableEq

/-- An option with a value.
Source: `sw2d_final.c` `main` (command line) -/
def valued (atoi : Text → ℤ) (arg v : Text) (a : Args) : Option Args :=
  if arg = "--bdaddr".toList then some { a with bdaddr := some v }
  else if arg = "--peer-addr-type".toList then
    some { a with peerTypeS := v, peerTypeExplicit := true }
  else if arg = "--own-addr-type".toList then some { a with ownTypeS := v }
  else if arg = "--host-bdaddr".toList then some { a with hostSpec := v }
  else if arg = "--hidraw".toList then some { a with hidraw := v }
  else if arg = "--scan-timeout".toList then some { a with scanTimeout := atoi v }
  else none

/-- An option without a value; `none` stands for the usage.
Source: `sw2d_final.c` `main` (command line) -/
def flag (arg : Text) (a : Args) : Option Args :=
  if arg = "--auto-scan".toList then some { a with autoScan := true }
  else if arg = "--scan-only".toList then some { a with scanOnly := true }
  else if arg = "--usb-init".toList then some { a with usbInit := true }
  else if arg = "--send-security-request".toList then some { a with sendSecurityReq := true }
  else if arg = "--exclusive-hci".toList then some { a with exclusive := true }
  else if arg = "--kill-bluez-clients".toList then some { a with killBluez := true }
  else if arg = "--preflight".toList then some { a with preflight := true }
  else if arg = "--verbose".toList then some { a with verbose := true }
  else none

/-- The last argument has no value behind it.
Source: `sw2d_final.c` `main` (command line) -/
def parseArgs (atoi : Text → ℤ) : List Text → Args → Option Args
  | [], a => some a
  | [arg], a => flag arg a
  | arg :: v :: rest, a =>
      match valued atoi arg v a with
      | some a => parseArgs atoi rest a
      | none => (flag arg a).bind (parseArgs atoi (v :: rest))

/-- Source: BlueZ, `LE_PUBLIC_ADDRESS` -/
def lePublicAddress : UInt8 := 0x00
/-- Source: BlueZ, `LE_RANDOM_ADDRESS` -/
def leRandomAddress : UInt8 := 0x01

/-- The peer type of the options.
Source: `sw2d_final.c` `main` (`peer_type_s`) -/
def Args.peerType (a : Args) : UInt8 :=
  if a.peerTypeS = "random".toList ∨ a.peerTypeS = "auto".toList then leRandomAddress
  else lePublicAddress

/-- Source: `sw2d_final.c` `main` (`own_type_s`) -/
def Args.ownType (a : Args) : UInt8 :=
  if a.ownTypeS = "random".toList then leRandomAddress else lePublicAddress

/-- Whether the program looks for a peer.
Source: `sw2d_final.c` `main` (`auto_scan && !bdaddr_s`) -/
def Args.scans (a : Args) : Bool :=
  (a.autoScan || decide (a.peerTypeS = "auto".toList) || a.usbInit) && a.bdaddr.isNone

/-! ## Other clients -/

/-- A program that may use the controller.
Source: `sw2d_final.c` `check_bluez_clients` -/
def isClient (buf : Text) : Bool :=
  buf = "bluetoothd".toList ∨ buf = "bluetoothctl".toList ∨ buf = "btmgmt".toList ∨
    buf = "gatttool".toList ∨ buf = "hcitool".toList ∨ "python".toList <:+: buf ∨
    "bleak".toList <:+: buf

/-- The number of clients, -1 if it cannot be found out. An empty file has no line.
Source: `sw2d_final.c` `check_bluez_clients` -/
def countClients : Option (List Text) → ℤ
  | none => -1
  | some comms => comms.countP fun comm => comm ≠ [] ∧ isClient (fgetsLine 256 comm)

/-- Source: `sw2d_final.c` `check_bluez_clients` -/
def checkBluezClients : F ℤ := do
  let comms ← sys .comms
  pure (countClients comms)

/-- Source: `sw2d_final.c` `kill_bluez_clients` -/
def killCommands : List Text := [
  "killall -9 bluetoothd bluetoothctl btmgmt gatttool hcitool 2>/dev/null".toList,
  "systemctl stop bluetooth 2>/dev/null".toList]

/-- Source: `sw2d_final.c` `kill_bluez_clients` -/
def killBluezClients : F Unit := do
  let _ ← sys (.system (killCommands.getD 0 []))
  let _ ← sys (.system (killCommands.getD 1 []))
  sys (.usleep 500000)

/-- Source: `sw2d_final.c` `command_exists` -/
def existsCommand (cmd : Text) : Text :=
  "command -v ".toList ++ cmd ++ " >/dev/null 2>&1".toList

/-- What it finds out is printed; what is printed of files only is not modelled.
Source: `sw2d_final.c` `run_preflight` -/
def runPreflight (a : Args) : F ℤ := do
  let uid : ℕ ← sys .geteuid
  let hci0 : Bool ← sys (.access "/sys/class/bluetooth/hci0".toList)
  let _ ← sys .sysfs
  let _ ← sys (.access "/dev/uhid".toList)
  let _ ← sys (.access a.hidraw)
  let _ ← sys (.system (existsCommand "btmon".toList))
  let _ ← sys (.system (existsCommand "hciconfig".toList))
  let clients ← checkBluezClients
  pure (if uid = 0 ∧ hci0 = true ∧ ¬(0 < clients ∧ a.exclusive = true) then 0 else 1)

/-- Whether the program may go on.
Source: `sw2d_final.c` `main` (BlueZ guard) -/
def bluezGuard (a : Args) : F Bool :=
  if a.exclusive ∨ a.killBluez then do
    let c ← checkBluezClients
    let c ← (if 0 < c ∧ a.killBluez = true then do
        killBluezClients
        checkBluezClients
      else pure c)
    pure (¬(0 < c ∧ a.exclusive = true))
  else pure true

/-! ## Addresses -/

variable (str2ba : Text → Option Addr)

/-- Source: `sw2d_final.c` `addr_is_zero` -/
def addrIsZero (addr : Addr) : Prop := addr = Vector.replicate 6 0

instance (addr : Addr) : Decidable (addrIsZero addr) := inferInstanceAs (Decidable (_ = _))

/-- Source: `sw2d_final.c` `addr_looks_static_random` -/
def addrLooksStaticRandom (addr : Addr) : Prop := addr[5] &&& 0xC0 = 0xC0

instance (addr : Addr) : Decidable (addrLooksStaticRandom addr) :=
  inferInstanceAs (Decidable (_ = _))

/-- A peer: its address and its type. -/
abbrev Target := Addr × UInt8

/-- The peer before the scan; `none` if the address cannot be read.
Source: `sw2d_final.c` `main` (resolve BDADDR) -/
def resolvePeer (a : Args) : Option Target :=
  match a.bdaddr with
  | none => some (Vector.replicate 6 0, a.peerType)
  | some s => (str2ba s).map fun peer =>
      (peer, if a.peerTypeExplicit = false ∧ addrLooksStaticRandom peer then leRandomAddress
        else a.peerType)

/-- The file in sysfs is read only if it is asked for.
Source: `sw2d_final.c` `main` (resolve host BDADDR) -/
def hostAddress (a : Args) : F (Option Addr) := do
  let sysfs : Option Text ← (if a.hostSpec = "auto".toList then sys .sysfs else pure none)
  pure ((resolveHost str2ba sysfs a.hostSpec).map (·.hostBytes))

/-! ## USB -/

/-- Source: `sw2d_final.c` `usb_prep` (`SetHCIState`) -/
def setHciState : Octets :=
  [0x01, 0x01] ++ List.replicate 8 0 ++ [0x06, 0x01] ++ List.replicate 52 0

/-- Source: `sw2d_final.c` `usb_prep` (`SetShipment`) -/
def setShipment : Octets :=
  [0x01, 0x02] ++ List.replicate 8 0 ++ [0x08, 0x00] ++ List.replicate 52 0

/-- The reports, up to one that cannot be written.
Source: `sw2d_final.c` `usb_prep` -/
def writeReports (fd : ℕ) : List Octets → F Bool
  | [] => pure true
  | r :: reports => do
      let ok : Bool ← sys (.write fd r)
      if ok then writeReports fd reports else pure false

/-- Source: `sw2d_final.c` `usb_prep` -/
def usbPrep (hidraw : Text) (host : Addr) : F Bool := do
  let fd : Option ℕ ← sys (.open hidraw)
  match fd with
  | none => pure false
  | some fd => do
      let ok ← writeReports fd [setHciState, setShipment, bluetoothManualPair host]
      sys (.close fd)
      pure ok

/-- Source: `sw2d_final.c` `main` (USB init) -/
def usbInit (a : Args) (host : Addr) : F Bool :=
  if a.usbInit then do
    let ok ← usbPrep a.hidraw host
    if ok then do
      sys (.sleep 8)
      pure true
    else pure false
  else pure true

/-! ## Transport -/

/-- Bring the device down; whatever comes of it is only printed.
Source: `hci_transport_user.c` `hci_bring_down` -/
def hciBringDown (dev : ℤ) : F Unit := do
  let ctl : Option ℕ ← sys (.socket false)
  match ctl with
  | none => pure ()
  | some ctl => do
      let bound : Result ← sys (.bind ctl dev false)
      if bound = .error then sys (.close ctl)
      else do
        let down : Result ← sys (.down ctl dev)
        if down = .busy ∨ down = .error then sys (.close ctl)
        else do
          sys (.close ctl)
          sys (.usleep 100000)

/-- Source: `hci_transport_user.c` `hci_user_open` -/
def hciUserOpen : F (Option ℕ) := do
  let dev : ℤ ← sys .route
  let dev : ℤ := if dev < 0 then 0 else dev
  hciBringDown dev
  let fd : Option ℕ ← sys (.socket true)
  match fd with
  | none => pure none
  | some fd => do
      let bound : Result ← sys (.bind fd dev true)
      if bound = .ok then pure (some fd)
      else do
        sys (.close fd)
        pure none

/-- Source: `hci_transport_user.c` `hci_user_send_cmd` -/
def hciUserSendCmd (fd : ℕ) (ogf ocf : UInt16) (params : Octets) : F Bool :=
  sys (.writev fd (commandPacket (hciOpcode ogf ocf) params))

/-- Read one frame into `f`; `none` stands for a result of at most 0.
Source: `hci_transport_user.c` `hci_user_read_frame` -/
def hciUserReadFrame (fd : ℕ) (f : Frame) (timeoutMs : ℤ) : F (Option Frame) := do
  let answer : Option Octets ← sys (.read fd timeoutMs)
  pure (if (answer.getD []).take 512 = [] then none
    else some (f.parse ((answer.getD []).take 512)))

/-- Source: `hci_transport_user.c` `hci_user_init` (loop) -/
def awaitReset (fd : ℕ) : (n : ℕ) → Frame → F Unit
  | 0, _ => pure ()
  | n + 1, f => do
      match ← hciUserReadFrame fd f 200 with
      | none => awaitReset fd n f
      | some f => if Transport.isResetComplete f then pure () else awaitReset fd n f

/-- The result is only printed.
Source: `hci_transport_user.c` `wait_cmd_complete` -/
def waitCmdComplete (fd : ℕ) (opcode : UInt16) (timeoutMs : ℤ) : F Unit :=
  Coro.loop (fun waited => do
    if timeoutMs ≤ waited then pure (.inr ())
    else do
      let slice := min (timeoutMs - waited) 200
      let f : Frame ← sys .frame
      match ← hciUserReadFrame fd f slice with
      | none => pure (.inl (waited + slice))
      | some f =>
          if Transport.isCmdComplete opcode f then pure (.inr ())
          else pure (.inl (waited + slice))) 0

/-- Source: `hci_transport_user.c` `hci_user_init` -/
def hciUserInit (fd : ℕ) : F Bool := do
  let ok : Bool ← hciUserSendCmd fd 0x03 0x0003 []
  if ok then do
    let f : Frame ← sys .frame
    awaitReset fd 10 f
    let ok : Bool ← hciUserSendCmd fd 0x08 0x0001 [0xFF, 0x1F, 0x00, 0x00, 0x00, 0x00, 0x00, 0x00]
    if ok then do
      waitCmdComplete fd 0x2001 1000
      pure true
    else pure false
  else pure false

/-! ## The scan -/

/-- One turn of the scan: what was found.
Source: `sw2d_final.c` `scan_for_peer_user` (loop) -/
def scanStep (fd : ℕ) (verbose : Bool) (deadline : ℤ) (_ : Unit) : F (Unit ⊕ Option Peer) := do
  let running : Bool ← sys .running
  if ¬running then pure (.inr none)
  else do
    let now : ℤ ← sys .nowMs
    if deadline ≤ now then pure (.inr none)
    else do
      let now : ℤ ← sys .nowMs
      let f : Frame ← sys .frame
      match ← hciUserReadFrame fd f (min (deadline - now) 500) with
      | none => pure (.inl ())
      | some f =>
          match scanFrame verbose f with
          | none => pure (.inl ())
          | some peer => pure (.inr (some peer))

/-- Source: `sw2d_final.c` `scan_for_peer_user` (`params`) -/
def scanParams (ownType : UInt8) : Octets :=
  putLe16 0x0010 ++ putLe16 0x0010 ++ [0x00, ownType, 0x00]

/-- Source: `sw2d_final.c` `scan_for_peer_user` -/
def scanForPeerUser (fd : ℕ) (a : Args) : F (Option Peer) := do
  let ok : Bool ← hciUserSendCmd fd 0x08 0x000b (scanParams a.ownType)
  if ok then do
    let ok : Bool ← hciUserSendCmd fd 0x08 0x000c [0x01, 0x00]
    if ok then do
      let now : ℤ ← sys .nowMs
      let found ← Coro.loop (scanStep fd a.verbose (now + a.scanTimeout)) ()
      let _ ← hciUserSendCmd fd 0x08 0x000c [0x00, 0x00]
      pure found
    else pure none
  else pure none

/-! ## The sessions -/

/-- What the system answers to the reconnect loop. -/
def answerSession (env : System) (n : ℕ) (fd : ℕ) : (c : Sw2d.Call) → Sw2d.Answer c
  | .read timeoutMs => env.answer n (.read fd timeoutMs)
  | .write bytes => env.answer n (.writev fd bytes)
  | .nowMs => env.answer n .nowMs
  | .running => env.answer n .running
  | .usleep us => env.answer n (.usleep us)
  | .sleep seconds => env.answer n (.sleep seconds)
  | .frame => env.answer n .frame
  | .buffer k => env.answer n (.buffer k)
  | .rand => env.answer n .rand

/-- The system as the reconnect loop sees it from the call `t` on. -/
def hostEnv (fd : ℕ) (t : ℕ) (env : System) : HostEnv where
  answer n c := answerSession env (t + n) fd c
  events n := env.events (t + n)

/-- The session context.
Source: `sw2d_final.c` `main` (session context) -/
def hostConfig (a : Args) (peer : Target) (host : Addr) : HostConfig where
  sendSecurityReq := a.sendSecurityReq
  peerAddrType := peer.2
  localAddrType := a.ownType
  peerAddr := peer.1
  localAddr := host

variable (aes : Block → Block → Block)

/-- The reconnect loop; its observations are noted.
Source: `sw2d_final.c` `main` (reconnect loop) -/
def sessions (fd : ℕ) (cfg : HostConfig) : F Unit := do
  let _ ← Prog.inside (hostEnv fd) cfg.start Sw2d.World.trace
    (Sw2d.reconnectLoop aes cfg.sendSecurityReq)
  pure ()

/-- The sessions with a peer.
Source: `sw2d_final.c` `main` (behind the scan) -/
def connectTo (fd : ℕ) (a : Args) (peer : Target) (host : Addr) : F ℤ :=
  if addrIsZero peer.1 then do
    sys (.close fd)
    pure 1
  else do
    sessions aes fd (hostConfig a peer host)
    sys (.close fd)
    pure 0

/-- The address of a peer that was found. -/
def Peer.target (p : Peer) : Target := (block 6 p.addr 0, p.addrType)

/-- Behind the socket.
Source: `sw2d_final.c` `main` (init and auto-scan) -/
def withSocket (fd : ℕ) (a : Args) (peer : Target) (host : Addr) : F ℤ := do
  let ok ← hciUserInit fd
  if ¬ok then do
    sys (.close fd)
    pure 1
  else if a.scans then do
    match ← scanForPeerUser fd a with
    | none => do
        sys (.close fd)
        pure 1
    | some p =>
        if a.scanOnly then do
          sys (.close fd)
          pure 0
        else connectTo aes fd a (Peer.target p) host
  else connectTo aes fd a peer host

/-- The program for a command line that can be read.
Source: `sw2d_final.c` `main` -/
def run (a : Args) : F ℤ :=
  if a.preflight then runPreflight a
  else do
    let ok ← bluezGuard a
    if ¬ok then pure 1
    else
      match resolvePeer str2ba a with
      | none => pure 2
      | some peer => do
          match ← hostAddress str2ba a with
          | none => pure 2
          | some host => do
              let ok ← usbInit a host
              if ¬ok then pure 1
              else do
                match ← hciUserOpen with
                | none => pure 1
                | some fd => withSocket aes fd a peer host

/-- Source: `sw2d_final.c` `main` -/
def main (atoi : Text → ℤ) (argv : List Text) : F ℤ :=
  match parseArgs atoi argv {} with
  | none => pure 2
  | some a => run str2ba aes a

end Switch2Bt.Sw2dFinal
