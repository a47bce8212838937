import Switch2Bt.Sw2dFinal.Program

/-!
# What the program may do (`sw2d_final.c`)

What the start of the program is for, without its branches and loops: a `Startup` is what matters of
a run so far, and `Startup.Allows` says what may happen next. Nothing is opened before the guard;
the reports over USB, the commands that prepare the controller and the scan are written in one
order, each to the one descriptor that is open; and what the sessions do is what the reconnect loop
does for the peer and the host address that were found.
-/

namespace Switch2Bt.Sw2dFinal

open Await Octets Sw2d Addresses Scanners

/-! ## What is written -/

/-- The reports over USB. -/
def usbReports (a : Args) (host : Addr) : List Octets :=
  if a.usbInit then [setHciState, setShipment, bluetoothManualPair host] else []

/-- The commands of the initialisation. -/
def initCommands : List Octets := [
  commandPacket (hciOpcode 0x03 0x0003) [],
  commandPacket (hciOpcode 0x08 0x0001) [0xFF, 0x1F, 0x00, 0x00, 0x00, 0x00, 0x00, 0x00]]

/-- The commands of the scan. -/
def scanCommands (a : Args) : List Octets := [
  commandPacket (hciOpcode 0x08 0x000b) (scanParams a.ownType),
  commandPacket (hciOpcode 0x08 0x000c) [0x01, 0x00],
  commandPacket (hciOpcode 0x08 0x000c) [0x00, 0x00]]

/-- All commands before the first session. -/
def startCommands (a : Args) : List Octets :=
  initCommands ++ if a.scans then scanCommands a else []

/-! ## The machine -/

/-- What matters of a run so far. -/
structure Startup where
  /-- The number of other clients, as it was counted last. -/
  clients : Option ℤ := none
  /-- The address of the host. -/
  host : Option Addr := none
  /-- The device over USB. -/
  hid : Option ℕ := none
  reports : List Octets := []
  /-- The socket that brings the device down. -/
  ctl : Option ℕ := none
  /-- The socket of the transport. -/
  fd : Option ℕ := none
  bound : Bool := false
  commands : List Octets := []
  /-- The frame that was read last. -/
  frame : Frame := emptyFrame
  /-- What the scan found. -/
  found : Option Peer := none
  /-- What the sessions observed. -/
  notes : List Sw2d.Obs := []

variable (str2ba : Text → Option Addr) (aes : Block → Block → Block) (a : Args)

/-- The address that the command line gives, or that the file in sysfs holds. -/
def hostOf (sysfs : Option Text) : Option Addr :=
  (resolveHost str2ba sysfs a.hostSpec).map (·.hostBytes)

namespace Startup

/-- Before the first call. -/
def init : Startup where
  host := if a.hostSpec = "auto".toList then none else hostOf str2ba a none

/-- The scan is enabled and not yet disabled. -/
def Scanning (m : Startup) : Prop := a.scans = true ∧ m.commands.length = 4

instance (m : Startup) : Decidable (Scanning a m) := inferInstanceAs (Decidable (_ ∧ _))

/-- A frame was read. -/
def received (m : Startup) (data : Octets) : Startup :=
  { m with
    frame := m.frame.parse data
    found := if Scanning a m ∧ m.found = none then scanFrame a.verbose (m.frame.parse data)
      else m.found }

/-- What matters after one more observation. -/
def next (m : Startup) : Obs → Startup
  | .call .comms (comms : Option (List Text)) => { m with clients := some (countClients comms) }
  | .call .sysfs (sysfs : Option Text) => { m with host := hostOf str2ba a sysfs }
  | .call (.open _) (fd : Option ℕ) => { m with hid := fd }
  | .call (.write _ data) _ => { m with reports := m.reports ++ [data] }
  | .call (.close _) _ => { m with hid := none, ctl := none, fd := none, bound := false }
  | .call (.socket cloexec) (fd : Option ℕ) =>
      if cloexec then { m with fd := fd } else { m with ctl := fd }
  | .call (.bind _ _ user) (r : Result) => if user then { m with bound := decide (r = .ok) } else m
  | .call (.writev _ bytes) _ => { m with commands := m.commands ++ [bytes] }
  | .call .frame (f : Frame) => { m with frame := f }
  | .call (.read _ _) (answer : Option Octets) =>
      if (answer.getD []).take 512 = [] then m else m.received a ((answer.getD []).take 512)
  | .note o => { m with notes := m.notes ++ [o] }
  | _ => m

/-- Nothing is open. -/
def Closed (m : Startup) : Prop := m.hid = none ∧ m.ctl = none ∧ m.fd = none

/-- Nothing was written. -/
def Fresh (m : Startup) : Prop := m.Closed ∧ m.reports = [] ∧ m.commands = [] ∧ m.notes = []

/-- The program is not only to check, and it met no other client, if it is to be alone. -/
def Passed (m : Startup) : Prop :=
  a.preflight = false ∧ (a.exclusive = true → ∃ c, m.clients = some c ∧ c ≤ 0)

/-- The transport may be opened. -/
def Ready (m : Startup) : Prop :=
  m.Passed a ∧ m.Closed ∧ m.commands = [] ∧
    ∃ host, m.host = some host ∧ m.reports = usbReports a host

/-- The peer of the sessions. -/
def target (m : Startup) : Option Target :=
  if a.scans then m.found.map Peer.target else resolvePeer str2ba a

/-- What may happen next. -/
inductive Allows (m : Startup) : Obs → Prop where
  | comms (x) (h : m.Fresh) : Allows m (.call .comms x)
  | checkCommand {cmd : Text} (x) (h : m.Fresh) (hpre : a.preflight = true) :
      Allows m (.call (.system (existsCommand cmd)) x)
  | kill {cmd : Text} {c : ℤ} (x) (h : m.Fresh) (hpre : a.preflight = false)
      (hkill : a.killBluez = true) (hcmd : cmd ∈ killCommands) (hc : m.clients = some c)
      (hpos : 0 < c) : Allows m (.call (.system cmd) x)
  | usleep (us : ℕ) (x) (h : m.Closed) : Allows m (.call (.usleep us) x)
  | sleep {host : Addr} (x) (h : m.Closed) (husb : a.usbInit = true) (hhost : m.host = some host)
      (hreports : m.reports = usbReports a host) : Allows m (.call (.sleep 8) x)
  | geteuid (x) (hpre : a.preflight = true) : Allows m (.call .geteuid x)
  | access (path : Text) (x) (hpre : a.preflight = true) : Allows m (.call (.access path) x)
  | sysfs (x) (h : m.Fresh) : Allows m (.call .sysfs x)
  | openUsb {host : Addr} (x) (hpassed : m.Passed a) (h : m.Fresh) (husb : a.usbInit = true)
      (hhost : m.host = some host) : Allows m (.call (.open a.hidraw) x)
  | report {fd : ℕ} {host : Addr} {data : Octets} (x) (h : m.hid = some fd)
      (hhost : m.host = some host) (hnext : m.reports ++ [data] <+: usbReports a host) :
      Allows m (.call (.write fd data) x)
  | closeUsb {fd : ℕ} (x) (h : m.hid = some fd) : Allows m (.call (.close fd) x)
  | closeControl {fd : ℕ} (x) (h : m.ctl = some fd) : Allows m (.call (.close fd) x)
  | closeTransport {fd : ℕ} (x) (h : m.fd = some fd) : Allows m (.call (.close fd) x)
  | route (x) (h : m.Ready a) : Allows m (.call .route x)
  | socket (cloexec : Bool) (x : Option ℕ) (h : m.Ready a) : Allows m (.call (.socket cloexec) x)
  | bindControl {fd : ℕ} (dev : ℤ) (x) (h : m.ctl = some fd) :
      Allows m (.call (.bind fd dev false) x)
  | bindTransport {fd : ℕ} (dev : ℤ) (x) (h : m.fd = some fd) :
      Allows m (.call (.bind fd dev true) x)
  | down {fd : ℕ} (dev : ℤ) (x) (h : m.ctl = some fd) : Allows m (.call (.down fd dev) x)
  | command {fd : ℕ} {bytes : Octets} (x) (h : m.fd = some fd) (hbound : m.bound = true)
      (hnext : m.commands ++ [bytes] <+: startCommands a) : Allows m (.call (.writev fd bytes) x)
  | read {fd : ℕ} (timeoutMs : ℤ) (x) (h : m.fd = some fd) (hbound : m.bound = true) :
      Allows m (.call (.read fd timeoutMs) x)
  | nowMs (x) : Allows m (.call .nowMs x)
  | running (x) : Allows m (.call .running x)
  | frame (x : Frame) : Allows m (.call .frame x)
  | event (e) : Allows m (.event e)
  /-- The sessions are those of the reconnect loop. -/
  | note {fd : ℕ} {o : Sw2d.Obs} {peer : Target} {host : Addr} (env : HostEnv) (budget : ℕ)
      (h : m.fd = some fd) (hbound : m.bound = true) (hcommands : m.commands = startCommands a)
      (honly : ¬(a.scans = true ∧ a.scanOnly = true)) (hpeer : m.target str2ba a = some peer)
      (hzero : ¬addrIsZero peer.1) (hhost : m.host = some host)
      (hnotes : m.notes ++ [o] <+: (hostRun aes (hostConfig a peer host) env budget).trace) :
      Allows m (.note o)

end Startup

/-- The start of the program for a command line. -/
def startup : Protocol Obs Startup where
  init := Startup.init str2ba a
  next := Startup.next str2ba a
  Allows := Startup.Allows str2ba aes a

end Switch2Bt.Sw2dFinal
