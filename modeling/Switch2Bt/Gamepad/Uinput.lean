import Switch2Bt.Codec.Report
import Switch2Bt.Gamepad.Buffered

/-!
# The virtual gamepad (`switch2d.py`, uinput)

`setupUinput` declares the capabilities of the device, `updateUinput` maps one decoded report to
27 writes and a `syn`. The device is `Buffered.Device`: a value for each (type, code), where
writes become visible at `syn()`. The evdev codes are the constructors of `EvKey` and `EvAbs`, so
they are pairwise distinct. Stick arithmetic is exact rational arithmetic.
-/

namespace Switch2Bt

/-- The key codes (`EV_KEY`) the mapper uses. -/
inductive EvKey where
  | btnSouth | btnEast | btnNorth | btnWest
  | btnTL | btnTR | btnTL2 | btnTR2
  | btnSelect | btnStart | btnMode
  | btnThumbL | btnThumbR
  | btnDpadUp | btnDpadDown | btnDpadLeft | btnDpadRight
  | btnTriggerHappy1 | btnTriggerHappy2 | btnTriggerHappy3 | btnTriggerHappy4
deriving DecidableEq, Repr

/-- The axis codes (`EV_ABS`) the mapper uses. -/
inductive EvAbs where
  | absX | absY | absRX | absRY | absZ | absRZ
deriving DecidableEq, Repr

/-- A (type, code) pair. -/
inductive EvCode where
  | key (k : EvKey)
  | abs (a : EvAbs)
deriving DecidableEq, Repr

/-- Axis capabilities.
Source: `evdev.AbsInfo` -/
structure AbsInfo where
  value : ℤ
  min : ℤ
  max : ℤ
  fuzz : ℤ
  flat : ℤ
  resolution : ℤ
deriving DecidableEq, Repr

/-- The capability table passed to `UInput`. -/
structure Capabilities where
  keys : List EvKey
  axes : List (EvAbs × AbsInfo)

/-- The virtual gamepad: what it declares, and its values. -/
structure UInput where
  caps : Capabilities
  device : Buffered.Device EvCode ℤ

/-! ## Setup -/

/-- Source: `switch2d.py` `setup_uinput` (`abs_axis`) -/
def absAxis : AbsInfo := ⟨0, -32768, 32767, 16, 128, 0⟩

/-- Source: `switch2d.py` `setup_uinput` (`trigger_axis`) -/
def triggerAxis : AbsInfo := ⟨0, 0, 255, 0, 0, 0⟩

/-- The capability table.
Source: `switch2d.py` `setup_uinput` -/
def capabilities : Capabilities where
  keys := [
    .btnSouth, .btnEast, .btnNorth, .btnWest,
    .btnTL, .btnTR, .btnTL2, .btnTR2,
    .btnSelect, .btnStart, .btnMode,
    .btnThumbL, .btnThumbR,
    .btnDpadUp, .btnDpadDown, .btnDpadLeft, .btnDpadRight,
    .btnTriggerHappy1, .btnTriggerHappy2, .btnTriggerHappy3, .btnTriggerHappy4]
  axes := [
    (.absX, absAxis), (.absY, absAxis), (.absRX, absAxis), (.absRY, absAxis),
    (.absZ, triggerAxis), (.absRZ, triggerAxis)]

/-- A new device: every key up, every axis at its initial value `0`.
Source: `switch2d.py` `setup_uinput` -/
def setupUinput : UInput := ⟨capabilities, ⟨fun _ => 0, []⟩⟩

/-! ## Update -/

/-- The key of each button name.
Source: `switch2d.py` `update_uinput` (`btn_map`) -/
def btnMap : List (Button × EvKey) := [
  (.b, .btnSouth), (.a, .btnEast), (.y, .btnNorth), (.x, .btnWest),
  (.l, .btnTL), (.r, .btnTR), (.zl, .btnTL2), (.zr, .btnTR2),
  (.back, .btnSelect), (.start, .btnStart), (.home, .btnMode),
  (.l3, .btnThumbL), (.r3, .btnThumbR),
  (.dpadUp, .btnDpadUp), (.dpadDown, .btnDpadDown),
  (.dpadLeft, .btnDpadLeft), (.dpadRight, .btnDpadRight),
  (.c, .btnTriggerHappy1), (.gl, .btnTriggerHappy2),
  (.gr, .btnTriggerHappy3), (.screenshot, .btnTriggerHappy4)]

/-- `int(q)`: the fraction is cut off. -/
def pyInt (q : ℚ) : ℤ := if 0 ≤ q then ⌊q⌋ else ⌈q⌉

/-- The value of a stick axis: `key` selects `x_norm` or `y_norm`.
Source: `switch2d.py` `update_uinput` (`axis_val`) -/
def axisVal (stick : Option Stick) (key : Stick → ℚ) (invert : Bool) : ℤ :=
  match stick with
  | none => 0
  | some s =>
      let v := if invert then -key s else key s
      max (-32768) (min 32767 (pyInt (v * 32767)))

/-- The key writes of one update, in order.
Source: `switch2d.py` `update_uinput` (loop over `btn_map`) -/
def keyWrites (decoded : Report) : List (EvCode × ℤ) :=
  btnMap.map fun p => (.key p.2, if p.1 ∈ decoded.pressed then 1 else 0)

/-- The axis writes of one update, in order.
Source: `switch2d.py` `update_uinput` -/
def axisWrites (decoded : Report) : List (EvCode × ℤ) := [
  (.abs .absX, axisVal decoded.leftStick Stick.xNorm false),
  (.abs .absY, axisVal decoded.leftStick Stick.yNorm true),
  (.abs .absRX, axisVal decoded.rightStick Stick.xNorm false),
  (.abs .absRY, axisVal decoded.rightStick Stick.yNorm true),
  (.abs .absZ, if Button.zl ∈ decoded.pressed then 255 else 0),
  (.abs .absRZ, if Button.zr ∈ decoded.pressed then 255 else 0)]

/-- The writes of one update, in order. -/
def updateWrites (decoded : Report) : List (EvCode × ℤ) := keyWrites decoded ++ axisWrites decoded

/-- The calls of one update: the writes, then `syn()`. -/
def updateCalls (decoded : Report) : List (Buffered.Call EvCode ℤ) :=
  (updateWrites decoded).map (fun w => .write w.1 w.2) ++ [.commit]

/-- One update under a pattern of exceptions; the flag says that none was raised. An exception is
caught and logged, what was written stays.
Source: `switch2d.py` `update_uinput` -/
def updateUinput (faults : ℕ → Buffered.Fault) (ui : UInput) (decoded : Report) : UInput × Bool :=
  let r := Buffered.run faults (updateCalls decoded) ui.device
  ({ ui with device := r.1 }, r.2)

end Switch2Bt
