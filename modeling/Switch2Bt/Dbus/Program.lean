import Switch2Bt.Await.Protocol
import Switch2Bt.Codec.Encoders
import Switch2Bt.Dbus.Discovery
import Switch2Bt.Hid.HidReport
import Switch2Bt.Hid.UhidEvents

/-!
# The daemon on BlueZ (`switch2-bt.c`)

The whole program behind its options, from `sd_bus_open_system` to its exit code. Every call of the
system and of the bus is answered arbitrarily; messages reach the filter in `sd_bus_process` only.
Signals are no events: before the first `event_loop` they end the process, and every run may end
at any call; afterwards they are blocked, and read from a descriptor.
-/

namespace Switch2Bt.DbusDaemon

open Await Octets Dbus Discovery HidReport Uhid

/-! ## The system -/

/-- The value of a property. -/
inductive Variant where
  | bytes (data : Octets)
  | bool (b : Bool)
  /-- Of another type. -/
  | other
deriving DecidableEq, Repr

/-- A message that reaches the filter. -/
inductive Message where
  /-- The signal `PropertiesChanged`. -/
  | propertiesChanged (path iface : CString) (changed : List (CString × Variant))
  | other
deriving DecidableEq, Repr

/-- What `poll` says of the three descriptors. -/
inductive Polled where
  | interrupted
  | failed
  | ready (uhid bus sig : Bool)
deriving DecidableEq, Repr

/-- The calls of the system and of the bus; a descriptor `none` is -1. -/
inductive Call where
  /-- `sd_bus_open_system` -/
  | openSystem
  /-- `sd_bus_unref` -/
  | unref
  /-- `GetManagedObjects` -/
  | managedObjects (path : CString)
  /-- A method without arguments. -/
  | method (path iface method : CString)
  | writeValue (path iface : CString) (data : Octets)
  | getProperty (path prop : CString)
  /-- `sd_bus_process` -/
  | process
  /-- `open("/dev/uhid")` -/
  | openUhid
  | write (fd : Option ℕ) (event : UhidEvent)
  | read (fd : Option ℕ)
  | close (fd : Option ℕ)
  | signalfd
  | readSignal (fd : Option ℕ)
  | poll
  | usleep (us : ℕ)
  | sleep (seconds : ℕ)
deriving DecidableEq, Repr

/-- Their answers; `false` and `none` stand for a negative result, of `process` for one that is not
positive. -/
def Answer : Call → Type
  | .openSystem | .method _ _ _ | .writeValue _ _ _ | .write _ _ => Bool
  | .managedObjects _ => Option (List Object)
  | .getProperty _ _ => Option Bool
  | .process => Option Message
  | .openUhid | .signalfd => Option ℕ
  | .read _ => Option UhidEvent
  | .poll => Polled
  | .unref | .close _ | .readSignal _ | .usleep _ | .sleep _ => Unit

/-- Source: `switch2-bt.c` `ctrl_t` -/
structure Vars where
  gatt : Gatt := {}
  uhidFd : Option ℕ := none
  connected : Bool := false
  running : Bool := false
  input : Ctrl := Ctrl.initial
deriving DecidableEq, Repr

abbrev Obs := Mark Call Answer Empty Empty

abbrev System := Env Call Answer Empty

abbrev D (α : Type) := Prog Vars Call Answer Empty Empty α

def sys (c : Call) : D (Answer c) := Prog.call (fun e => e.elim) c

/-! ## The bus -/

/-- Source: `switch2-bt.c` `IFACE_DEVICE` -/
def ifaceDevice : CString := "org.bluez.Device1".toList

/-- Source: `switch2-bt.c` `prop_bool` -/
def propBool (path prop : CString) : D (Option Bool) := sys (.getProperty path prop)

/-- Source: `switch2-bt.c` `method_call` -/
def methodCall (path iface method : CString) : D Bool := sys (.method path iface method)

/-- Source: `switch2-bt.c` `gatt_write` -/
def gattWrite (path : CString) (data : Octets) : D Bool := sys (.writeValue path ifaceGattChar data)

/-- Source: `switch2-bt.c` `ccc_write` -/
def cccWrite (descPath : CString) : D Bool := sys (.writeValue descPath ifaceGattDesc [0x01, 0x00])

/-- The method of `gatt_notify`. -/
def startNotify : CString := "StartNotify".toList

/-- The method of `bt_connect`. -/
def connect : CString := "Connect".toList

/-- The method of `bt_disconnect`. -/
def disconnect : CString := "Disconnect".toList

/-- Source: `switch2-bt.c` `gatt_notify` -/
def gattNotify (path : CString) : D Bool := methodCall path ifaceGattChar startNotify

/-- Source: `switch2-bt.c` `bt_connect` -/
def btConnect (path : CString) : D Bool := methodCall path ifaceDevice connect

/-- Source: `switch2-bt.c` `bt_disconnect` -/
def btDisconnect (path : CString) : D Unit := do
  let _ ← methodCall path ifaceDevice disconnect

/-- Source: `switch2-bt.c` `wait_services` -/
def waitServices (path : CString) (timeout : ℕ) : D Bool :=
  Coro.loop (fun i : ℕ => do
    if timeout * 10 ≤ i then pure (.inr false)
    else
      match ← propBool path "ServicesResolved".toList with
      | some true => pure (.inr true)
      | none => pure (.inr false)
      | some false => do
          sys (.usleep 100000)
          pure (.inl (i + 1))) 0

/-- The paths are kept also where one is missing.
Source: `switch2-bt.c` `discover_gatt` -/
def discover (prior : CString → CString) (devPath : CString) : D Bool := do
  match ← sys (.managedObjects devPath) with
  | none => pure false
  | some (reply : List Object) => do
      let (r, g) := discoverGatt prior reply
      Prog.assign fun s => { s with gatt := g }
      pure (decide (0 ≤ r))

/-! ## The controller -/

/-- What is handed to `gatt_write`; the local buffers are overwritten as far as they are read.
Source: `switch2-bt.c` `nwcp_send_cmd` -/
def nwcpValue (cmd sub : UInt8) (data : Option Octets) (dlen : ℕ) : Octets :=
  (nwcpSendCmd (List.replicate 256 0) (List.replicate 289 0) cmd sub data dlen).getD []

/-- Source: `switch2-bt.c` `nwcp_send_cmd` -/
def nwcp (g : Gatt) (cmd sub : UInt8) (data : Option Octets) (dlen : ℕ) : D Unit := do
  let _ ← gattWrite g.pathCmdData (nwcpValue cmd sub data dlen)

/-- Source: `switch2-bt.c` `CMD_INIT_HANDSHAKE` -/
def cmdInitHandshake : UInt8 := 0x07
/-- Source: `switch2-bt.c` `CMD_FLASH_READ` -/
def cmdFlashRead : UInt8 := 0x02
/-- Source: `switch2-bt.c` `CMD_FEATSEL` -/
def cmdFeatsel : UInt8 := 0x0C
/-- Source: `switch2-bt.c` `CMD_LED` -/
def cmdLed : UInt8 := 0x09
/-- Source: `switch2-bt.c` `CMD_VIBRATE` -/
def cmdVibrate : UInt8 := 0x0A
/-- Source: `switch2-bt.c` `CMD_UNKNOWN_16` -/
def cmdUnknown16 : UInt8 := 0x16
/-- Source: `switch2-bt.c` `CMD_UNKNOWN_11` -/
def cmdUnknown11 : UInt8 := 0x11
/-- Source: `switch2-bt.c` `SUB_FEAT_SET_MASK` -/
def subFeatSetMask : UInt8 := 0x02
/-- Source: `switch2-bt.c` `SUB_FEAT_ENABLE` -/
def subFeatEnable : UInt8 := 0x04
/-- Source: `switch2-bt.c` `SUB_LED_PATTERN` -/
def subLedPattern : UInt8 := 0x07

/-- Source: `switch2-bt.c` `init_sequence` (`vib`) -/
def vib : Octets := [0x01, 0xff, 0xff, 0xff, 0xff, 0xff, 0xff, 0xff, 0xff, 0x35, 0x00, 0x46, 0x00,
  0x00, 0x00, 0x00, 0x00, 0x00, 0x00, 0x00]

/-- Source: `switch2-bt.c` `init_sequence` (steps 2 and 2b) -/
def enableResp (path : CString) : D Unit := do
  if path ≠ [] then
    let _ ← cccWrite path
    sys (.usleep 50000)

/-- Source: `switch2-bt.c` `init_sequence` (step 12) -/
def setRate (path : CString) : D Unit := do
  if path ≠ [] then
    let _ ← gattWrite path [0x85, 0x00]
    sys (.usleep 50000)

/-- Source: `switch2-bt.c` `init_sequence` (step 13) -/
def enableInput (path : CString) : D Unit := do
  if path ≠ [] then
    let _ ← cccWrite path

/-- No write is checked.
Source: `switch2-bt.c` `init_sequence` -/
def initSequence (g : Gatt) : D Unit := do
  let _ ← gattWrite g.pathWrite5 [0x01, 0x00]
  sys (.usleep 50000)
  enableResp g.pathCccResp2
  enableResp g.pathCccResp1
  nwcp g cmdInitHandshake 0x01 none 0
  sys (.usleep 100000)
  nwcp g cmdFlashRead 0x04 (some [0x40, 0x7e, 0x00, 0x00, 0x00, 0x30, 0x01, 0x00]) 8
  sys (.usleep 100000)
  nwcp g cmdUnknown16 0x01 none 0
  sys (.usleep 100000)
  nwcp g cmdVibrate 0x02 (some [0x03, 0x00, 0x00, 0x00]) 4
  sys (.usleep 100000)
  nwcp g cmdLed subLedPattern (some [0x01, 0, 0, 0, 0, 0, 0, 0]) 8
  sys (.usleep 100000)
  nwcp g cmdFeatsel subFeatSetMask (some [0x2f, 0x00, 0x00, 0x00]) 4
  sys (.usleep 100000)
  nwcp g cmdFlashRead 0x04 (some [0x40, 0x7e, 0x00, 0x00, 0x80, 0x30, 0x01, 0x00]) 8
  sys (.usleep 100000)
  nwcp g cmdFlashRead 0x04 (some [0x40, 0x7e, 0x00, 0x00, 0xc0, 0x30, 0x01, 0x00]) 8
  sys (.usleep 100000)
  nwcp g cmdFlashRead 0x04 (some [0x40, 0x7e, 0x00, 0x00, 0x40, 0xc0, 0x1f, 0x00]) 8
  sys (.usleep 100000)
  nwcp g cmdFlashRead 0x04 (some [0x10, 0x7e, 0x00, 0x00, 0x40, 0x30, 0x01, 0x00]) 8
  sys (.usleep 100000)
  nwcp g cmdFlashRead 0x04 (some [0x18, 0x7e, 0x00, 0x00, 0x00, 0x31, 0x01, 0x00]) 8
  sys (.usleep 100000)
  nwcp g cmdUnknown11 0x03 none 0
  sys (.usleep 100000)
  nwcp g cmdFlashRead 0x04 (some [0x20, 0x7e, 0x00, 0x00, 0x60, 0x30, 0x01, 0x00]) 8
  sys (.usleep 100000)
  nwcp g cmdVibrate 0x08 (some vib) 20
  sys (.usleep 100000)
  nwcp g cmdFeatsel subFeatEnable (some [0x2f, 0x00, 0x00, 0x00]) 4
  sys (.usleep 100000)
  setRate g.pathRatedesc
  enableInput g.pathCccInput

/-! ## The HID device -/

/-- The room for the descriptor is that of `rd_data` in `linux/uhid.h`.
Source: `switch2-bt.c` `uhid_create` (`ev`) -/
def gamepad (room : ℕ) : UhidCreate where
  name := "Nintendo Switch 2 Pro Controller".toList
  uniq := []
  bus := busBluetooth
  vendor := 0x057E
  product := 0x2060
  version := 0
  country := 0
  rdSize := hidReportDescriptor.length
  rdData := hidReportDescriptor.take room

/-- Source: `switch2-bt.c` `uhid_create` -/
def uhidCreate (room : ℕ) (fd : Option ℕ) : D Bool := sys (.write fd (.create (gamepad room)))

/-- Source: `switch2-bt.c` `uhid_destroy` -/
def uhidDestroy (fd : Option ℕ) : D Unit := do
  let _ ← sys (.write fd .destroy)

/-- Source: `switch2-bt.c` `uhid_input` -/
def uhidInput (fd : Option ℕ) (report : Octets) : D Unit := do
  let _ ← sys (.write fd (.input (report.take uhidDataMax)))

/-! ## Messages -/

/-- A value of the input characteristic becomes a report.
Source: `switch2-bt.c` `dbus_filter` (`val&&vlen`) -/
def takeValue (val : Octets) : D Unit := do
  if val ≠ [] then do
    Prog.assign fun s => { s with input := parseInput s.input val }
    let s ← Prog.vars
    if s.uhidFd.isSome then uhidInput s.uhidFd (buildHidReport s.input)

/-- The properties of the input characteristic. A `Value` that is no array of octets is not entered,
and ends the loop.
Source: `switch2-bt.c` `dbus_filter` (`IFACE_GATTCHAR`) -/
def takeValues : List (CString × Variant) → D Unit
  | [] => pure ()
  | (prop, v) :: changed =>
      if prop = "Value".toList then
        match v with
        | .bytes val => do
            takeValue val
            takeValues changed
        | _ => pure ()
      else takeValues changed

/-- The flag `connected` behind the properties of a device. A `Connected` that is no boolean is not
entered, and ends the loop.
Source: `switch2-bt.c` `dbus_filter` (`IFACE_DEVICE`) -/
def stillConnected : List (CString × Variant) → Bool → Bool
  | [], connected => connected
  | (prop, v) :: changed, connected =>
      if prop = "Connected".toList then
        match v with
        | .bool conn => stillConnected changed (connected && conn)
        | _ => connected
      else stillConnected changed connected

/-- Source: `switch2-bt.c` `dbus_filter` -/
def dbusFilter : Message → D Unit
  | .other => pure ()
  | .propertiesChanged path iface changed => do
      let s ← Prog.vars
      if iface = ifaceGattChar then
        if path = s.gatt.pathInput then takeValues changed
      else if iface = ifaceDevice then
        Prog.assign fun s => { s with connected := stillConnected changed s.connected }

/-- Source: `switch2-bt.c` `event_loop` (`while(sd_bus_process(c->bus,NULL)>0)`) -/
def processAll : D Unit :=
  Coro.loop (fun _ : Unit => do
    match ← sys .process with
    | none => pure (.inr ())
    | some (m : Message) => do
        dbusFilter m
        pure (.inl ())) ()

/-! ## A session -/

/-- What is written for an event of the device.
Source: `switch2-bt.c` `event_loop` (`rumble`) -/
def rumbleOf : Option UhidEvent → Option Octets
  | some (.output data) => if 3 ≤ data.length then some [0x00, data.octet 1, data.octet 2] else none
  | _ => none

/-- Source: `switch2-bt.c` `event_loop` (`fds[0]`) -/
def takeOutput : D Unit := do
  let s ← Prog.vars
  let ev ← sys (.read s.uhidFd)
  match rumbleOf ev with
  | none => pure ()
  | some rumble =>
      if s.gatt.pathOutput ≠ [] then do
        let _ ← gattWrite s.gatt.pathOutput rumble

/-- One iteration behind `poll`, with what it says of the descriptors.
Source: `switch2-bt.c` `event_loop` (loop body) -/
def handleReady (sfd : Option ℕ) (uhid bus sig : Bool) : D Unit := do
  (if uhid then takeOutput else pure ())
  (if bus then processAll else pure ())
  if sig then do
    sys (.readSignal sfd)
    Prog.assign fun s => { s with running := false }

/-- `poll` that is interrupted leaves the `revents` of the last time.
Source: `switch2-bt.c` `event_loop` -/
def eventLoop : D Unit := do
  let sfd ← sys .signalfd
  Prog.assign fun s => { s with running := true }
  Coro.loop (fun revents : Bool × Bool × Bool => do
    let s ← Prog.vars
    if ¬(s.running ∧ s.connected) then pure (.inr ())
    else do
      processAll
      let polled : Polled ← sys .poll
      let revents : Bool × Bool × Bool := match polled with
        | .ready uhid bus sig => (uhid, bus, sig)
        | _ => revents
      let s ← Prog.vars
      if polled = .failed ∨ ¬s.connected then pure (.inr ())
      else do
        handleReady sfd revents.1 revents.2.1 revents.2.2
        pure (.inl revents)) (false, false, false)
  sys (.close sfd)

/-- Source: `switch2-bt.c` `connect_init` (from `open` on) -/
def createInit (room : ℕ) (devPath : CString) : D Bool := do
  let fd : Option ℕ ← sys .openUhid
  Prog.assign fun s => { s with uhidFd := fd }
  if fd.isNone then do
    btDisconnect devPath
    pure false
  else do
    if ¬(← uhidCreate room fd) then do
      sys (.close fd)
      btDisconnect devPath
      pure false
    else do
      let s ← Prog.vars
      initSequence s.gatt
      let _ ← gattNotify s.gatt.pathInput
      Prog.assign fun s => { s with connected := true }
      pure true

/-- Source: `switch2-bt.c` `connect_init` -/
def connectInit (prior : CString → CString) (room : ℕ) (devPath : CString) : D Bool := do
  if ¬(← btConnect devPath) then pure false
  else if ¬(← waitServices devPath 15) then do
    btDisconnect devPath
    pure false
  else if ¬(← discover prior devPath) then do
    btDisconnect devPath
    pure false
  else createInit room devPath

/-- Source: `switch2-bt.c` `cleanup` -/
def cleanup (devPath : CString) : D Unit := do
  let s ← Prog.vars
  (if s.uhidFd.isSome then do
    uhidDestroy s.uhidFd
    sys (.close s.uhidFd)
    Prog.assign fun s => { s with uhidFd := none }
  else pure ())
  (if devPath ≠ [] then btDisconnect devPath else pure ())
  Prog.assign fun s => { s with connected := false }

/-! ## The program -/

/-- What the options say: an exit code, or an address if there is one.
Source: `switch2-bt.c` `main` (`getopt`) -/
inductive Options where
  | exit (code : ℤ)
  | run (addr : Option CString)
deriving DecidableEq, Repr

/-- Source: `switch2-bt.c` `main` (`dev_path`) -/
def devPathOf (adapter addr : CString) : CString :=
  snprintf 128 (adapter ++ "/dev_".toList ++
    (snprintf 18 addr).map fun c => if c = ':' then '_' else c)

/-- A session with a controller that is ready; the delay of the next attempt is a second again.
Source: `switch2-bt.c` `main` (reconnect loop, from `event_loop` on) -/
def session (devPath : CString) : D ((Bool × ℕ) ⊕ Unit) := do
  eventLoop
  cleanup devPath
  let s ← Prog.vars
  if ¬s.running then pure (.inr ())
  else do
    sys (.close s.uhidFd)
    Prog.assign fun s => { s with uhidFd := none }
    pure (.inl (false, 1))

/-- What follows a discovery that found the characteristics: the controller is initialised, then
there is a session.
Source: `switch2-bt.c` `connect_init` (from `open` on), `main` (reconnect loop) -/
def attend (room : ℕ) (devPath : CString) (delay : ℕ) : D ((Bool × ℕ) ⊕ Unit) := do
  if ¬(← createInit room devPath) then pure (.inl (false, delay))
  else session devPath

/-- An attempt is a connection, a discovery and what follows it. -/
theorem connectInit_attend (prior : CString → CString) (room : ℕ) (devPath : CString) (delay : ℕ) :
    (do
      if ¬(← connectInit prior room devPath) then pure (.inl (false, delay))
      else session devPath : D ((Bool × ℕ) ⊕ Unit)) =
    (do
      if ¬(← btConnect devPath) then pure (.inl (false, delay))
      else if ¬(← waitServices devPath 15) then do
        btDisconnect devPath
        pure (.inl (false, delay))
      else if ¬(← discover prior devPath) then do
        btDisconnect devPath
        pure (.inl (false, delay))
      else attend room devPath delay) := by
  unfold connectInit attend
  rw [bind_assoc]
  refine congrArg (btConnect devPath >>= ·) (funext fun connected => ?_)
  cases connected with
  | false => rfl
  | true =>
      rw [if_neg (by simp), if_neg (by simp), bind_assoc]
      refine congrArg (waitServices devPath 15 >>= ·) (funext fun resolved => ?_)
      cases resolved with
      | false => simp
      | true =>
          rw [if_neg (by simp), if_neg (by simp), bind_assoc]
          refine congrArg (discover prior devPath >>= ·) (funext fun found => ?_)
          cases found <;> simp

/-- The attempts, the first one without a delay.
Source: `switch2-bt.c` `main` (reconnect loop) -/
def reconnectLoop (prior : CString → CString) (room : ℕ) (devPath : CString) : D Unit :=
  Coro.loop (fun (first, delay) => do
    (if ¬first then sys (.sleep delay) else pure ())
    let delay : ℕ := if ¬first ∧ delay < 30 then delay * 2 else delay
    if ¬(← connectInit prior room devPath) then pure (.inl (false, delay))
    else session devPath) (true, 1)

/-- Source: `switch2-bt.c` `main` -/
def main (prior : CString → CString) (room : ℕ) : Options → D ℤ
  | .exit code => pure code
  | .run none => pure 1
  | .run (some addr) => do
      let opened : Bool ← sys .openSystem
      if ¬opened then pure 1
      else
        match ← sys (.managedObjects "/".toList) with
        | none => do
            sys .unref
            pure 1
        | some (reply : List Object) =>
            match (adapterFind 128 reply).2 with
            | none => do
                sys .unref
                pure 1
            | some adapter => do
                reconnectLoop prior room (devPathOf adapter addr)
                let s ← Prog.vars
                (if s.uhidFd.isSome then sys (.close s.uhidFd) else pure ())
                sys .unref
                pure 0

end Switch2Bt.DbusDaemon
