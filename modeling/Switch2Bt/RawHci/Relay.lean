import Switch2Bt.RawHci.Program

/-!
# What the relay may do (`sw2d.c`)

The purpose of the program, without its loops: a `Relay` is what matters of a run so far, and
`Relay.Allows` says what may happen next. A session has one socket and, unless there is none, one
device; the connection is asked four things, the last one with the device already there; from then
on every packet that was read is answered before the next one is read, by the report it stands for.
-/

namespace Switch2Bt.RawHci

open Await Octets Sw2d Uhid PacketReader Report09 Addresses

/-! ## Packets -/

/-- The handle of the connection, if the packet says that there is one. -/
def linkOf (data : Octets) : Option UInt16 :=
  match connecting data with
  | .connected handle => some handle
  | _ => none

/-- The ATT PDU of a packet for the connection. -/
def attOf (handle : UInt16) (attsz : ℕ) (data : Octets) : Option Octets :=
  if Carries handle attsz data then some (data.slice 9 (9 + (getLe16 data 5).toNat)) else none

/-- The report a packet stands for. -/
def translate (handle : UInt16) (data : Octets) : Option Octets :=
  (attOf handle 1024 data).bind fun att => reportOf att.length att

/-- The four requests of a session. -/
def requests (handle : UInt16) : List Octets :=
  [mtuReq, svcReq, chrReq, cccdReq].map (aclPacket handle attCid)

/-- The command that asks for a connection. -/
def connectCmd (peer : Addr) : Octets :=
  commandPacket (hciOpcode ogfLeCtl ocfLeCreateConn) (hciConnectLeParams peer)

/-- The command that asks for another interval. -/
def updateCmd (handle : UInt16) : Octets :=
  commandPacket (hciOpcode ogfLeCtl ocfLeConnUpdate) (connUpdateParams handle)

/-! ## The machine -/

/-- What became of the device of a session. -/
inductive Device where
  | absent
  /-- `/dev/uhid` was opened. -/
  | opened
  /-- It was created. -/
  | alive
  /-- It could not be created, or it was destroyed. -/
  | gone
deriving DecidableEq, Repr

/-- What matters of a run so far. -/
structure Relay where
  /-- There was a session. -/
  begun : Bool := false
  hidraw : Option ℕ := none
  hci : Option ℕ := none
  uhid : Option ℕ := none
  /-- The connection of the session. -/
  link : Option UInt16 := none
  /-- The runtime filter is set. -/
  filtered : Bool := false
  /-- The requests that were written. -/
  asked : List Octets := []
  /-- The packet read last. -/
  last : Octets := []
  device : Device := .absent
  /-- Notifications are enabled. -/
  receiving : Bool := false
  /-- The packets that were read since. -/
  heard : List Octets := []
  /-- The reports that were written since. -/
  told : List Octets := []
deriving DecidableEq

variable (abi : UhidEvent → Octets)

namespace Relay

/-- The open descriptors, the last one first. -/
def fds (m : Relay) : List ℕ := m.uhid.toList ++ m.hci.toList ++ m.hidraw.toList

/-- The reports that the packets stand for, as they are written. -/
def expected (m : Relay) : List Octets :=
  match m.link with
  | none => []
  | some handle => (m.heard.filterMap (translate handle)).map fun r => abi (.input2 r)

/-- Every packet is answered. -/
def Settled (m : Relay) : Prop := m.told = m.expected abi

instance (m : Relay) : Decidable (m.Settled abi) := inferInstanceAs (Decidable (_ = _))

/-- A descriptor is closed. -/
def close (m : Relay) (fd : ℕ) : Relay :=
  if m.uhid = some fd then { m with uhid := none }
  else if m.hci = some fd then { m with hci := none }
  else { m with hidraw := none }

/-- A packet is read. -/
def read (m : Relay) (data : Octets) : Relay :=
  if m.receiving then { m with heard := m.heard ++ [data] }
  else { m with link := m.link.or (linkOf data), last := data }

/-- A buffer is written. -/
def write (m : Relay) (data : Octets) (ok : Bool) : Relay :=
  if m.uhid = none then
    if m.hci = none then m else { m with asked := m.asked ++ [data] }
  else if m.device = .opened then { m with device := if ok then .alive else .gone }
  else if m.asked.length < 4 then { m with asked := m.asked ++ [data] }
  else if m.receiving ∧ ¬m.Settled abi then { m with told := m.told ++ [data] }
  else { m with device := .gone }

/-- What matters after one more observation. -/
def next (m : Relay) : Obs → Relay
  | .call .socket fd => { begun := true, hidraw := m.hidraw, hci := fd }
  | .call (.setFilter _ filter) (ok : Bool) =>
      { m with filtered := ok && decide (filter = aclRuntimeFilter) }
  | .call (.openFile _) fd =>
      if m.hci = none then { m with hidraw := fd } else { m with uhid := fd, device := .opened }
  | .call (.close fd) _ => m.close fd
  | .note (.packet data) => m.read data
  | .note (.wrote _ data ok) => m.write abi data ok
  | .note (.receiving _ _) => { m with receiving := true, heard := [], told := [] }
  | _ => m

variable (peer : Addr) (noUhid : Bool)

/-- The device is there, if there is to be one. -/
def Ready (m : Relay) : Prop := noUhid = true ∨ m.device = .alive

/-- What may happen next. -/
inductive Allows (m : Relay) : Obs → Prop where
  | event (e : Signal) : Allows m (.event e)
  | socket (a) (h : m.fds = []) : Allows m (.call .socket a)
  | bind {fd : ℕ} (a) (h : m.hci = some fd) : Allows m (.call (.bind fd) a)
  | getFilter {fd : ℕ} (a) (h : m.hci = some fd) : Allows m (.call (.getFilter fd) a)
  | setFilter {fd : ℕ} (filter : Octets) (a) (h : m.hci = some fd) :
      Allows m (.call (.setFilter fd filter) a)
  | connect {fd : ℕ} (a) (h : m.hci = some fd) (hlink : m.link = none) :
      Allows m (.call (.writev fd (connectCmd peer)) a)
  | update {fd : ℕ} {handle : UInt16} (a) (h : m.hci = some fd) (hlink : m.link = some handle) :
      Allows m (.call (.writev fd (updateCmd handle)) a)
  | poll {fd : ℕ} (timeoutMs : ℤ) (a) (h : m.hci = some fd) :
      Allows m (.call (.poll fd timeoutMs) a)
  | read {fd : ℕ} (len : ℕ) (a) (h : m.hci = some fd) : Allows m (.call (.read fd len) a)
  | write {fd : ℕ} (data : Octets) (a) (h : fd ∈ m.fds) : Allows m (.call (.write fd data) a)
  | openUhid (a) (hci : m.hci.isSome) (huhid : m.uhid = none) (hdevice : m.device = .absent)
      (hasked : m.asked.length = 3) (hno : noUhid = false) : Allows m (.call (.openFile devUhid) a)
  | openHidraw (path : List Char) (a) (h : m.fds = []) (hbegun : m.begun = false) :
      Allows m (.call (.openFile path) a)
  | closeUhid {fd : ℕ} (a) (h : m.uhid = some fd) (hdevice : m.device ≠ .alive) :
      Allows m (.call (.close fd) a)
  | closeHci {fd : ℕ} (a) (huhid : m.uhid = none) (h : m.hci = some fd) :
      Allows m (.call (.close fd) a)
  | closeHidraw {fd : ℕ} (a) (huhid : m.uhid = none) (hci : m.hci = none) (h : m.hidraw = some fd) :
      Allows m (.call (.close fd) a)
  | sleep (seconds : ℕ) (a) (h : m.fds = []) : Allows m (.call (.sleep seconds) a)
  | packet (data : Octets) (hci : m.hci.isSome)
      (h : m.receiving → m.Ready noUhid ∧ (m.uhid.isSome → m.Settled abi)) :
      Allows m (.note (.packet data))
  | usb {fd : ℕ} (data : Octets) (ok : Bool) (huhid : m.uhid = none) (hci : m.hci = none)
      (h : m.hidraw = some fd) : Allows m (.note (.wrote fd data ok))
  | ask {fd : ℕ} {handle : UInt16} {data : Octets} (ok : Bool) (h : m.hci = some fd)
      (hlink : m.link = some handle) (hfiltered : m.filtered = true)
      (hnext : m.asked ++ [data] <+: requests handle)
      (hlast : m.asked.length = 3 → m.Ready noUhid) : Allows m (.note (.wrote fd data ok))
  | create {fd : ℕ} (ok : Bool) (h : m.uhid = some fd) (hdevice : m.device = .opened) :
      Allows m (.note (.wrote fd (abi (.create2 gamepad)) ok))
  | report {fd : ℕ} {data : Octets} (ok : Bool) (h : m.uhid = some fd) (hdevice : m.device = .alive)
      (hreceiving : m.receiving = true) (hnext : m.told ++ [data] = m.expected abi) :
      Allows m (.note (.wrote fd data ok))
  | destroy {fd : ℕ} (ok : Bool) (h : m.uhid = some fd) (hdevice : m.device = .alive)
      (hasked : m.asked.length = 4) (hsettled : m.receiving → m.Settled abi) :
      Allows m (.note (.wrote fd (abi .destroy) ok))
  | receiving {handle : UInt16} (hnot : m.receiving = false) (hlink : m.link = some handle)
      (hasked : m.asked = requests handle) (hready : m.Ready noUhid)
      (hno : noUhid = true → m.uhid = none)
      (hanswer : ∃ att, attOf handle 64 m.last = some att ∧ att.octet 0 = attOpWriteRsp) :
      Allows m (.note (.receiving handle m.uhid))
  | sessionEnded (rc : ℤ) (h : m.fds = []) : Allows m (.note (.sessionEnded rc))

end Relay

/-- The relay to a peer, with or without a device. -/
def relay (peer : Addr) (noUhid : Bool) : Protocol Obs Relay where
  init := {}
  next := Relay.next abi
  Allows := Relay.Allows abi peer noUhid

end Switch2Bt.RawHci
