import Switch2Bt.Dbus.Program

/-!
# What the daemon may do (`switch2-bt.c`)

The purpose of the daemon, without its loops: a `Link` is what matters of a run so far, and
`Link.Allows` says what may happen next. A connection is made, asked for its characteristics, given
a device, initialised by one transcript of writes and only then listened to; every value that is
heard becomes a report before anything else is done, every rumble of the device one write; at the
end the device is destroyed and the connection given up, in this order, before the next one is made.
A run is one of the whole program, or one of a session behind its discovery (`Setting`).
-/

namespace Switch2Bt.DbusDaemon

open Await Octets Dbus Discovery HidReport Uhid

/-! ## Messages and writes -/

/-- The values of the input characteristic in a message, up to one that is no array of octets. -/
def valuesOf : List (CString × Variant) → List Octets
  | [] => []
  | (prop, v) :: changed =>
      if prop = "Value".toList then
        match v with
        | .bytes val => if val ≠ [] then val :: valuesOf changed else valuesOf changed
        | _ => []
      else valuesOf changed

/-- What is heard in a message. -/
def heardIn (path : CString) : Option Message → List Octets
  | some (.propertiesChanged path' iface changed) =>
      if iface = ifaceGattChar ∧ path' = path then valuesOf changed else []
  | _ => []

/-- The report after some values. -/
def reportAfter (heard : List Octets) : Octets := buildHidReport (afterInputs heard)

/-- A write: the path, the interface and the octets. -/
abbrev Write := CString × CString × Octets

/-- A command, as it is written. -/
def command (g : Gatt) (cmd sub : UInt8) (data : Option Octets) (dlen : ℕ) : Write :=
  (g.pathCmdData, ifaceGattChar, nwcpValue cmd sub data dlen)

/-- Notifications are enabled, if there is such a descriptor. -/
def enable (path : CString) : List Write :=
  if path ≠ [] then [(path, ifaceGattDesc, [0x01, 0x00])] else []

/-- The commands of the initialisation. -/
def commands (g : Gatt) : List Write := [
  command g cmdInitHandshake 0x01 none 0,
  command g cmdFlashRead 0x04 (some [0x40, 0x7e, 0x00, 0x00, 0x00, 0x30, 0x01, 0x00]) 8,
  command g cmdUnknown16 0x01 none 0,
  command g cmdVibrate 0x02 (some [0x03, 0x00, 0x00, 0x00]) 4,
  command g cmdLed subLedPattern (some [0x01, 0, 0, 0, 0, 0, 0, 0]) 8,
  command g cmdFeatsel subFeatSetMask (some [0x2f, 0x00, 0x00, 0x00]) 4,
  command g cmdFlashRead 0x04 (some [0x40, 0x7e, 0x00, 0x00, 0x80, 0x30, 0x01, 0x00]) 8,
  command g cmdFlashRead 0x04 (some [0x40, 0x7e, 0x00, 0x00, 0xc0, 0x30, 0x01, 0x00]) 8,
  command g cmdFlashRead 0x04 (some [0x40, 0x7e, 0x00, 0x00, 0x40, 0xc0, 0x1f, 0x00]) 8,
  command g cmdFlashRead 0x04 (some [0x10, 0x7e, 0x00, 0x00, 0x40, 0x30, 0x01, 0x00]) 8,
  command g cmdFlashRead 0x04 (some [0x18, 0x7e, 0x00, 0x00, 0x00, 0x31, 0x01, 0x00]) 8,
  command g cmdUnknown11 0x03 none 0,
  command g cmdFlashRead 0x04 (some [0x20, 0x7e, 0x00, 0x00, 0x60, 0x30, 0x01, 0x00]) 8,
  command g cmdVibrate 0x08 (some vib) 20,
  command g cmdFeatsel subFeatEnable (some [0x2f, 0x00, 0x00, 0x00]) 4]

/-- The report rate, if there is such a descriptor. -/
def rate (path : CString) : List Write :=
  if path ≠ [] then [(path, ifaceGattChar, [0x85, 0x00])] else []

/-- All that initialises a controller. -/
def initTranscript (g : Gatt) : List Write :=
  [(g.pathWrite5, ifaceGattChar, [0x01, 0x00])] ++ enable g.pathCccResp2 ++ enable g.pathCccResp1 ++
    commands g ++ rate g.pathRatedesc ++ enable g.pathCccInput

/-! ## The machine -/

/-- What became of the device of a session. -/
inductive Device where
  | absent
  /-- `/dev/uhid` was opened. -/
  | opened
  /-- It was created. -/
  | alive
  /-- It could not be created, or it was destroyed. -/
  | gone
deriving DecidableEq, Repr

/-- What matters of a run so far. -/
structure Link where
  /-- The bus is open. -/
  bus : Bool := false
  /-- The path of the controller. -/
  dev : CString := []
  /-- The values that were heard, in the whole run. -/
  heard : List Octets := []
  /-- The number of reports that were written. -/
  told : ℕ := 0
  /-- The delays since a controller was initialised. -/
  sleeps : ℕ := 0
  /-- The next attempt is to be delayed. -/
  due : Bool := false
  /-- A signal was read. -/
  stopped : Bool := false
  linked : Bool := false
  /-- The services are there. -/
  resolved : Bool := false
  /-- The characteristics are there. -/
  found : Bool := false
  gatt : Gatt := {}
  uhid : Option ℕ := none
  device : Device := .absent
  /-- The writes of the initialisation. -/
  asked : List Write := []
  notified : Bool := false
  /-- In the event loop. -/
  watching : Bool := false
  sfd : Option ℕ := none
  /-- The rumble that is still to be written. -/
  rumble : Option Octets := none
deriving DecidableEq

/-- What a run is about. -/
structure Setting where
  /-- What a buffer of `discover_gatt` holds before it is written. -/
  prior : CString → CString
  /-- The room for the descriptor of the device. -/
  room : ℕ
  /-- The address of the controller. -/
  addr : CString
  /-- The whole program runs, and not only one session behind its discovery. -/
  whole : Bool
  /-- Where the run starts. -/
  start : Link

variable (K : Setting)

namespace Link

/-- What is left of it without a connection. -/
def unlinked (m : Link) : Link where
  bus := m.bus
  dev := m.dev
  heard := m.heard
  told := m.told
  sleeps := m.sleeps
  due := m.due
  stopped := m.stopped

/-- An answer of the object manager. -/
def objects (m : Link) : Option (List Object) → Link
  | none => m
  | some reply =>
      if m.linked then
        { m with
          gatt := (discoverGatt K.prior reply).2
          found := decide (0 ≤ (discoverGatt K.prior reply).1) }
      else
        match (adapterFind 128 reply).2 with
        | none => m
        | some adapter => { m with dev := devPathOf adapter K.addr }

/-- A method was called. -/
def called (m : Link) (name : CString) (ok : Bool) : Link :=
  if name = connect then { m with linked := ok, due := true }
  else if name = disconnect then m.unlinked
  else { m with notified := true, sleeps := 0 }

@[simp] theorem called_connect (m : Link) (ok : Bool) :
    m.called connect ok = { m with linked := ok, due := true } := if_pos rfl

@[simp] theorem called_disconnect (m : Link) (ok : Bool) :
    m.called disconnect ok = m.unlinked := by
  rw [called, if_neg (by decide), if_pos rfl]

@[simp] theorem called_startNotify (m : Link) (ok : Bool) :
    m.called startNotify ok = { m with notified := true, sleeps := 0 } := by
  rw [called, if_neg (by decide), if_neg (by decide)]

/-- An event was written. -/
def written (m : Link) (ok : Bool) : UhidEvent → Link
  | .create _ => { m with device := if ok then .alive else .gone }
  | .input _ => { m with told := m.told + 1 }
  | _ => { m with device := .gone }

/-- What matters after one more observation. -/
def next (m : Link) : Obs → Link
  | .call .openSystem (ok : Bool) => { m with bus := ok }
  | .call .unref _ => { m with bus := false }
  | .call (.managedObjects _) (reply : Option (List Object)) => m.objects K reply
  | .call (.method _ _ name) (ok : Bool) => m.called name ok
  | .call (.writeValue path iface data) _ =>
      if m.notified then { m with rumble := none }
      else { m with asked := m.asked ++ [(path, iface, data)] }
  | .call (.getProperty _ _) (b : Option Bool) => { m with resolved := b.getD false }
  | .call .process (message : Option Message) =>
      { m with heard := m.heard ++ heardIn m.gatt.pathInput message }
  | .call .openUhid (fd : Option ℕ) =>
      { m with uhid := fd, device := if fd.isSome then .opened else .absent }
  | .call (.write _ event) (ok : Bool) => m.written ok event
  | .call (.read _) (event : Option UhidEvent) =>
      { m with rumble := if m.gatt.pathOutput = [] then none else rumbleOf event }
  | .call (.close _) _ =>
      if m.watching then { m with watching := false, sfd := none } else { m with uhid := none }
  | .call .signalfd (fd : Option ℕ) => { m with watching := true, sfd := fd }
  | .call (.readSignal _) _ => { m with stopped := true }
  | .call (.sleep _) _ => { m with sleeps := m.sleeps + 1, due := false }
  | _ => m

/-- There is no connection, and nothing is open. -/
def Idle (m : Link) : Prop := m.linked = false ∧ m.uhid = none ∧ m.watching = false

/-- Every value became a report, and every rumble a write. -/
def Settled (m : Link) : Prop := m.told = m.heard.length ∧ m.rumble = none

/-- The controller is initialised, and the program has not been stopped. -/
def Listening (m : Link) : Prop := m.watching = true ∧ m.stopped = false ∧ m.Settled

/-- What may happen next. -/
inductive Allows (m : Link) : Obs → Prop where
  | openSystem (a : Bool) (h : m = {}) : Allows m (.call .openSystem a)
  | unref (a) (hwhole : K.whole = true) (h : m.Idle) (hbus : m.bus = true) :
      Allows m (.call .unref a)
  | adapters (a : Option (List Object)) (hwhole : K.whole = true) (h : m = { bus := true }) :
      Allows m (.call (.managedObjects "/".toList) a)
  | objects (a : Option (List Object)) (hwhole : K.whole = true) (hlinked : m.linked = true)
      (hresolved : m.resolved = true) (hdevice : m.device = .absent) :
      Allows m (.call (.managedObjects m.dev) a)
  | connect (a : Bool) (hwhole : K.whole = true) (h : m.Idle) (hbus : m.bus = true)
      (hdev : m.dev ≠ []) (hdue : m.due = false) (hstopped : m.stopped = false) :
      Allows m (.call (.method m.dev ifaceDevice connect) a)
  | disconnect (a : Bool) (hlinked : m.linked = true) (huhid : m.uhid = none)
      (hwatching : m.watching = false) :
      Allows m (.call (.method m.dev ifaceDevice disconnect) a)
  | notify (a : Bool) (hdevice : m.device = .alive) (hnot : m.notified = false)
      (hasked : m.asked = initTranscript m.gatt) :
      Allows m (.call (.method m.gatt.pathInput ifaceGattChar startNotify) a)
  | ask {path iface : CString} {data : Octets} (a : Bool) (hfound : m.found = true)
      (hdevice : m.device = .alive) (hnot : m.notified = false)
      (hnext : m.asked ++ [(path, iface, data)] <+: initTranscript m.gatt) :
      Allows m (.call (.writeValue path iface data) a)
  | rumble {data : Octets} (a : Bool) (hwatching : m.watching = true)
      (htold : m.told = m.heard.length) (h : m.rumble = some data) :
      Allows m (.call (.writeValue m.gatt.pathOutput ifaceGattChar data) a)
  | getProperty (prop : CString) (a : Option Bool) (hlinked : m.linked = true)
      (hnot : m.resolved = false) (hdevice : m.device = .absent) :
      Allows m (.call (.getProperty m.dev prop) a)
  | process (a : Option Message) (h : m.Listening) : Allows m (.call .process a)
  | poll (a : Polled) (h : m.Listening) : Allows m (.call .poll a)
  | openUhid (a : Option ℕ) (hlinked : m.linked = true) (hfound : m.found = true)
      (hdevice : m.device = .absent) : Allows m (.call .openUhid a)
  | create {fd : ℕ} (a : Bool) (h : m.uhid = some fd) (hdevice : m.device = .opened) :
      Allows m (.call (.write (some fd) (.create (gamepad K.room))) a)
  | report {fd : ℕ} (a : Bool) (h : m.uhid = some fd) (hdevice : m.device = .alive)
      (hwatching : m.watching = true) (hnext : m.told < m.heard.length) :
      Allows m (.call (.write (some fd) (.input (reportAfter (m.heard.take (m.told + 1))))) a)
  | destroy {fd : ℕ} (a : Bool) (h : m.uhid = some fd) (hdevice : m.device = .alive)
      (hnotified : m.notified = true) (hwatching : m.watching = false) (hsettled : m.Settled) :
      Allows m (.call (.write (some fd) .destroy) a)
  | read {fd : ℕ} (a : Option UhidEvent) (h : m.uhid = some fd) (hdevice : m.device = .alive)
      (hl : m.Listening) :
      Allows m (.call (.read (some fd)) a)
  | closeUhid {fd : ℕ} (a) (h : m.uhid = some fd) (hdevice : m.device = .gone)
      (hwatching : m.watching = false) : Allows m (.call (.close (some fd)) a)
  | closeSignals (a) (hwatching : m.watching = true) (hsettled : m.Settled) :
      Allows m (.call (.close m.sfd) a)
  | closeNothing (a) (h : m.Idle) (hstopped : m.stopped = false) : Allows m (.call (.close none) a)
  | signalfd (a : Option ℕ) (hdevice : m.device = .alive) (hnotified : m.notified = true)
      (hwatching : m.watching = false) (hstopped : m.stopped = false) :
      Allows m (.call .signalfd a)
  | readSignal (a) (h : m.Listening) : Allows m (.call (.readSignal m.sfd) a)
  | usleep (us : ℕ) (a) (hlinked : m.linked = true) (hnot : m.notified = false) :
      Allows m (.call (.usleep us) a)
  | sleep (a) (h : m.Idle) (hbus : m.bus = true) (hstopped : m.stopped = false)
      (hdue : m.due = true) :
      Allows m (.call (.sleep (min 32 (2 ^ m.sleeps))) a)

end Link

/-- The link to the controller. -/
def link : Protocol Obs Link where
  init := K.start
  next := Link.next K
  Allows := Link.Allows K

end Switch2Bt.DbusDaemon
