import Mathlib.Algebra.Order.Round
import Mathlib.Data.Rat.Floor
import Switch2Bt.Codec.Octets

/-!
# The input report (`switch2d.py`, report parsing)

`decodeReport` is `decode_report`: button masks over octets 2 to 4, two packed sticks in octets 5
to 10 and, in reports of at least `0x3C` octets, six signed words at `0x30`. `buildReport` is the
layout the tests build their inputs with (`tests/test_report_decode.py`).

Floating point is replaced by exact rational arithmetic: `pyRound` is Python's `round(q, d)`
(ties to even) on rationals.
-/

namespace Switch2Bt

/-! ## Buttons -/

/-- The names of `BUTTON_MAP`. -/
inductive Button where
  | b | a | y | x | r | zr | start | r3
  | dpadDown | dpadRight | dpadLeft | dpadUp | l | zl | back | l3
  | home | c | gr | gl | screenshot
deriving DecidableEq, Repr

/-- The button map, in the order of the source: name, octet index, mask.
Source: `switch2d.py` `BUTTON_MAP` -/
def buttonMap : List (Button × ℕ × UInt8) := [
  (.b, 2, 0x01), (.a, 2, 0x02), (.y, 2, 0x04), (.x, 2, 0x08),
  (.r, 2, 0x10), (.zr, 2, 0x20), (.start, 2, 0x40), (.r3, 2, 0x80),
  (.dpadDown, 3, 0x01), (.dpadRight, 3, 0x02), (.dpadLeft, 3, 0x04), (.dpadUp, 3, 0x08),
  (.l, 3, 0x10), (.zl, 3, 0x20), (.back, 3, 0x40), (.l3, 3, 0x80),
  (.home, 4, 0x01), (.c, 4, 0x02), (.gr, 4, 0x04), (.gl, 4, 0x08), (.screenshot, 4, 0x10)]

/-! ## Decoding -/

/-- The nearest integer, ties to even. -/
def roundHalfEven (q : ℚ) : ℤ :=
  if q - ⌊q⌋ < 1 / 2 then ⌊q⌋
  else if 1 / 2 < q - ⌊q⌋ then ⌊q⌋ + 1
  else if ⌊q⌋ % 2 = 0 then ⌊q⌋ else ⌊q⌋ + 1

/-- `round(q, digits)`. -/
def pyRound (q : ℚ) (digits : ℕ) : ℚ := roundHalfEven (q * 10 ^ digits) / 10 ^ digits

/-- A decoded stick: raw values and their normalised images. -/
structure Stick where
  x : ℕ
  y : ℕ
  xNorm : ℚ
  yNorm : ℚ
deriving DecidableEq, Repr

/-- The stick with the given raw values.
Source: `switch2d.py` `decode_stick12` (the returned dict) -/
def Stick.ofRaw (x y : ℕ) : Stick :=
  ⟨x, y, pyRound (((x : ℚ) - 2048) / 2047) 3, pyRound (((y : ℚ) - 2048) / 2047) 3⟩

/-- The raw values of a stick. -/
def Stick.raw (s : Stick) : ℕ × ℕ := (s.x, s.y)

/-- Decode the packed stick at `offset..offset+2`.
Source: `switch2d.py` `decode_stick12` -/
def decodeStick12 (data : Octets) (offset : ℕ) : Option Stick :=
  if data.length < offset + 3 then none
  else
    let raw := data.slice offset (offset + 3)
    let x := (((raw.octet 1).toNat &&& 0x0F) <<< 8) ||| (raw.octet 0).toNat
    let y := ((raw.octet 2).toNat <<< 4) ||| (((raw.octet 1).toNat &&& 0xF0) >>> 4)
    some (Stick.ofRaw x y)

/-- Signed 16-bit little-endian word.
Source: `switch2d.py` `s16` -/
def s16 (data : Octets) (offset : ℕ) : Option ℤ :=
  if data.length < offset + 2 then none
  else some (data.slice offset (offset + 2)).leInt

/-- Three words of a motion sensor. -/
structure Axes where
  x : Option ℤ
  y : Option ℤ
  z : Option ℤ
deriving DecidableEq, Repr

/-- A decoded report. -/
structure Report where
  packetId : ℕ
  pressed : List Button
  leftStick : Option Stick
  rightStick : Option Stick
  accel : Option Axes
  gyro : Option Axes
deriving DecidableEq, Repr

/-- The buttons whose mask meets the report, in the order of the button map.
Source: `switch2d.py` `decode_report` (`pressed`) -/
def pressedButtons (data : Octets) : List Button :=
  (buttonMap.filter fun e => e.2.1 < data.length && (data.octet e.2.1 &&& e.2.2 != 0)).map (·.1)

/-- Decode a report.
Source: `switch2d.py` `decode_report` -/
def decodeReport (data : Octets) : Option Report :=
  if data.length < 11 then none
  else
    let left := decodeStick12 data 5
    let right := decodeStick12 data 8
    let packetId := if 2 ≤ data.length then (data.slice 0 2).leNat else (data.octet 0).toNat
    let imu := 0x3C ≤ data.length
    some {
      packetId := packetId
      pressed := pressedButtons data
      leftStick := left
      rightStick := right
      accel := if imu then some ⟨s16 data 0x30, s16 data 0x32, s16 data 0x34⟩ else none
      gyro := if imu then some ⟨s16 data 0x36, s16 data 0x38, s16 data 0x3A⟩ else none }

/-! ## The layout of the tests -/

/-- Pack two 12-bit values into three octets.
Source: `tests/test_report_decode.py` `_pack_stick` -/
def packStick (s : ℕ × ℕ) : Octets := [
  UInt8.ofNat (s.1 &&& 0xFF),
  UInt8.ofNat (((s.2 &&& 0x0F) <<< 4) ||| ((s.1 >>> 8) &&& 0x0F)),
  UInt8.ofNat ((s.2 >>> 4) &&& 0xFF)]

/-- Add the mask of a name to the octet with index `idx`, if it belongs there.
Source: `tests/test_report_decode.py` `_buttons_for` (loop body) -/
def orMask (idx : ℕ) (acc : UInt8) (name : Button) : UInt8 :=
  match buttonMap.find? (·.1 == name) with
  | some (_, i, mask) => if i = idx then acc ||| mask else acc
  | none => acc

/-- The octet with index `idx` holding the masks of the named buttons.
Source: `tests/test_report_decode.py` `_buttons_for` -/
def buttonsFor (names : List Button) (idx : ℕ) : UInt8 := names.foldl (orMask idx) 0

/-- The values of the two motion sensors. -/
structure Motion where
  accel : ℤ × ℤ × ℤ
  gyro : ℤ × ℤ × ℤ

/-- Three signed little-endian words. -/
def packAxes (v : ℤ × ℤ × ℤ) : Octets :=
  Octets.leIntBytes v.1 2 ++ Octets.leIntBytes v.2.1 2 ++ Octets.leIntBytes v.2.2 2

/-- What follows the sticks: nothing, or the octets up to `0x30` and the motion words there. -/
def packMotion : Option Motion → Octets
  | none => []
  | some m => List.replicate 37 0 ++ packAxes m.accel ++ packAxes m.gyro

/-- Build a report of 11 octets or, with motion values, of `0x3C`.
Source: `tests/test_report_decode.py` `build_report` -/
def buildReport (names : List Button) (left right : ℕ × ℕ) (packetId : ℕ)
    (motion : Option Motion) : Octets :=
  Octets.leBytes packetId 2 ++ [buttonsFor names 2, buttonsFor names 3, buttonsFor names 4] ++
    packStick left ++ packStick right ++ packMotion motion

end Switch2Bt
