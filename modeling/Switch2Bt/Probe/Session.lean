import Switch2Bt.Codec.Json
import Switch2Bt.Daemon.State

/-!
# The probe's session and its reports (`tools/switch2_ble_probe.py`)

`ProbeSession` and `_on_report`. A record of the dump is kept as data; `ProbeRecord.toJson` is the
dict that `json.dumps` gets. What a report does to a virtual gamepad stays out: both updates
swallow their exceptions and touch nothing else.
-/

namespace Switch2Bt.Probe

open Octets Json

/-- Source: `switch2_ble_probe.py` `parse_args` (`--mode`) -/
inductive Mode where
  | procon2
  | pair
  | none
deriving DecidableEq, Repr

/-- The options the session looks at. -/
structure Args where
  connectRetries : ℤ
  gattRetries : ℤ
  address : Option String
  nameFilter : Option String
  manufacturer : ℕ
  cmdUuid : String
  inputUuid : String
  inputHandle : Option ℕ
  subscribeAllNotify : Bool
  spro2win : Bool
  mode : Mode
  decodeProcon2 : Bool
  noLed : Bool
  noSound : Bool
  notifyBeforeInit : Bool
  xinput : Bool
  uinput : Bool
  dumpJsonl : Bool
  noPair : Bool
  pairOnly : Bool
  maxReports : ℤ
deriving DecidableEq, Repr

/-- Source: `switch2_ble_probe.py` `COMMAND_WRITE_UUID`, `INPUT_REPORT_UUID` -/
def commandWriteUuid : String := "649d4ac9-8eb7-4e6c-af44-1ea54fe5f005"
def inputReportUuid : String := "ab7de9be-89fe-49ad-828f-118f09df7fd2"

/-- The options of an empty command line.
Source: `switch2_ble_probe.py` `parse_args` (defaults) -/
def defaultArgs : Args where
  connectRetries := 3
  gattRetries := 10
  address := none
  nameFilter := none
  manufacturer := 0x0553
  cmdUuid := commandWriteUuid
  inputUuid := inputReportUuid
  inputHandle := none
  subscribeAllNotify := false
  spro2win := false
  mode := .procon2
  decodeProcon2 := true
  noLed := false
  noSound := false
  notifyBeforeInit := false
  xinput := false
  uinput := false
  dumpJsonl := false
  noPair := false
  pairOnly := false
  maxReports := 100

/-! ## Decoding -/

/-- Source: `switch2_ble_probe.py` `PROCON2_BUTTON_MASKS` -/
def procon2ButtonMasks : List (String × ℕ) := [
  ("a", 0x000800000000), ("b", 0x000400000000), ("x", 0x000200000000), ("y", 0x000100000000),
  ("r", 0x004000000000), ("l", 0x000000400000), ("zr", 0x008000000000), ("zl", 0x000000800000),
  ("home", 0x000010000000), ("back", 0x000001000000), ("start", 0x000002000000),
  ("r3", 0x000004000000), ("l3", 0x000008000000), ("dpad_up", 0x000000020000),
  ("dpad_right", 0x000000040000), ("dpad_down", 0x000000010000), ("dpad_left", 0x000000080000),
  ("gl", 0x000000000200), ("gr", 0x000000000100), ("screenshot", 0x000020000000),
  ("c", 0x000040000000)]

/-- Source: `switch2_ble_probe.py` `decode_procon2_report` (the returned dict) -/
structure ProconReport where
  packetId : ℕ
  buttonState : ℕ
  pressed : List String
  leftStick : Option Stick
  rightStick : Option Stick
  accel : Axes
  gyro : Axes
deriving DecidableEq, Repr

/-- Source: `switch2_ble_probe.py` `decode_procon2_report` -/
def decodeProcon2Report (data : Octets) : Option ProconReport :=
  if data.length < 0x3C then none
  else
    let state := (data.slice 3 9).foldl (fun state b => (state <<< 8) ||| b.toNat) 0
    some {
      packetId := (data.slice 0 3).leNat
      buttonState := state
      pressed := (procon2ButtonMasks.filter fun e => state &&& e.2 != 0).map (·.1)
      leftStick := decodeStick12 data 10
      rightStick := decodeStick12 data 13
      accel := ⟨s16 data 0x30, s16 data 0x32, s16 data 0x34⟩
      gyro := ⟨s16 data 0x36, s16 data 0x3A, s16 data 0x38⟩ }

/-! ## Records -/

/-- Source: `switch2_ble_probe.py` `ProbeSession._on_report` (`record`) -/
structure ProbeRecord where
  timestamp : ℚ
  reportNumber : ℕ
  handle : Option ℕ
  length : ℕ
  hex : String
  changedBytes : List ℕ
  procon2 : Option ProconReport
deriving DecidableEq, Repr

section json

-- the decimal text of a float
variable (reprFloat : ℚ → Decimal)

def stickJson : Option Stick → Value
  | some s => dict [("x", .int s.x), ("y", .int s.y), ("x_norm", .float (reprFloat s.xNorm)),
      ("y_norm", .float (reprFloat s.yNorm))]
  | none => .null

/-- The twelve digits of a button state (`012x`). -/
def hex12 (n : ℕ) : String :=
  String.ofList ((List.range 12).map fun i => hexDigit (n / 16 ^ (11 - i) % 16))

def ProconReport.toJson (r : ProconReport) : Value :=
  dict [
    ("packet_id", .int r.packetId),
    ("button_state", .str (text ("0x" ++ hex12 r.buttonState))),
    ("pressed", .arr (r.pressed.map fun name => Value.str (text name))),
    ("left_stick", stickJson reprFloat r.leftStick),
    ("right_stick", stickJson reprFloat r.rightStick),
    ("accel", dict [("x", intOrNull r.accel.x), ("y", intOrNull r.accel.y),
      ("z", intOrNull r.accel.z)]),
    ("gyro", dict [("x", intOrNull r.gyro.x), ("z", intOrNull r.gyro.z),
      ("y", intOrNull r.gyro.y)])]

def ProbeRecord.toJson (r : ProbeRecord) : Value :=
  dict ([
    ("timestamp", .float (reprFloat r.timestamp)),
    ("report_number", .int r.reportNumber),
    ("handle", natOrNull r.handle),
    ("length", .int r.length),
    ("hex", .str (text r.hex)),
    ("changed_bytes", .arr (r.changedBytes.map fun (i : ℕ) => Value.int i))] ++
    (r.procon2.map fun decoded => ("procon2", decoded.toJson reprFloat)).toList)

end json

/-! ## Session -/

/-- The fields of the session that anything reads.
Source: `switch2_ble_probe.py` `ProbeSession.__init__` -/
structure Session where
  args : Args
  device : Option BLEDevice
  reportCount : ℕ
  lastReport : Option Octets
  jsonlFile : Option (List ProbeRecord)
  startTime : ℚ
  notifyEvent : Bool
  cmdWriteHandle : Option ℕ
  inputReportHandle : Option ℕ

/-- Source: `switch2_ble_probe.py` `ProbeSession.__init__` -/
def Session.new (args : Args) : Session where
  args := args
  device := none
  reportCount := 0
  lastReport := none
  jsonlFile := none
  startTime := 0
  notifyEvent := false
  cmdWriteHandle := none
  inputReportHandle := none

/-- The positions where a report differs from the last one of the same length.
Source: `switch2_ble_probe.py` `ProbeSession._on_report` (`changed`) -/
def changedBytes (last : Option Octets) (data : Octets) : List ℕ :=
  match last with
  | some last =>
      if last ≠ [] ∧ data.length = last.length then
        (List.range data.length).filter fun i => data.octet i != last.octet i
      else []
  | none => []

/-- Source: `switch2_ble_probe.py` `ProbeSession._on_report` -/
def onReport (n : Notification) (s : Session) : Session :=
  let elapsed := n.now - s.startTime
  let changed := changedBytes s.lastReport n.data
  { s with
    reportCount := s.reportCount + 1
    lastReport := some n.data
    jsonlFile := s.jsonlFile.map (· ++ [{
      timestamp := elapsed
      reportNumber := s.reportCount + 1
      handle := n.handle
      length := n.data.length
      hex := Octets.hex n.data
      changedBytes := changed
      procon2 := if s.args.decodeProcon2 then decodeProcon2Report n.data else none }])
    notifyEvent := true }

end Switch2Bt.Probe
