import Switch2Bt.Codec.ReportCodec
import Switch2Bt.Gamepad.History
import Switch2Bt.Gamepad.Visible
import Switch2Bt.Probe.Session

/-!
# The probe's virtual gamepads (`tools/switch2_ble_probe.py`)

Two devices may show the reports: an Xbox 360 controller, fed from the short layout of a report, and
a uinput gamepad, fed from `decode_procon2_report`. Both take what is written when they are told to
update, and whatever raises on the way is caught. After any reports and exceptions each shows one
report, the last that reached it whole (`gamepad_showsLast`, `uinput_showsLast`).
-/

namespace Switch2Bt.Probe

open Octets

/-! ## The Xbox 360 controller -/

/-- The buttons the mapper uses (`XUSB_GAMEPAD_*`). -/
inductive XButton where
  | a | b | x | y
  | rightShoulder | start | rightThumb
  | dpadDown | dpadRight | dpadLeft | dpadUp
  | leftShoulder | back | leftThumb
  | guide
deriving DecidableEq, Repr

/-- What a call of the device is about. -/
inductive XCode where
  | button (button : XButton)
  | rightTrigger
  | leftTrigger
  | leftJoystick
  | rightJoystick
deriving DecidableEq, Repr

/-- What a call of the device says. -/
inductive XValue where
  | button (pressed : Bool)
  | trigger (value : ℕ)
  | joystick (x y : ℤ)
deriving DecidableEq, Repr

/-- The virtual controller. -/
abbrev XGamepad := Buffered.Device XCode XValue

/-- Nothing is pressed, and the joysticks rest. -/
def xRest : XCode → XValue
  | .button _ => .button false
  | .rightTrigger | .leftTrigger => .trigger 0
  | .leftJoystick | .rightJoystick => .joystick 0 0

/-- A new controller.
Source: `switch2_ble_probe.py` `ProbeSession._start_xinput` -/
def startXinput : XGamepad := ⟨xRest, []⟩

/-- The buttons, in the order of the source: octet and mask.
Source: `switch2_ble_probe.py` `ProbeSession._update_xinput` (`mapping`) -/
def xMapping : List (XButton × ℕ × UInt8) := [
  (.a, 2, 0x01), (.b, 2, 0x02), (.x, 2, 0x04), (.y, 2, 0x08),
  (.rightShoulder, 2, 0x10), (.start, 2, 0x40), (.rightThumb, 2, 0x80),
  (.dpadDown, 3, 0x01), (.dpadRight, 3, 0x02), (.dpadLeft, 3, 0x04), (.dpadUp, 3, 0x08),
  (.leftShoulder, 3, 0x10), (.back, 3, 0x40), (.leftThumb, 3, 0x80),
  (.guide, 4, 0x01)]

/-- The product is a multiple of a half, hence exact; `int` cuts off its fraction.
Source: `switch2_ble_probe.py` `ProbeSession._update_xinput` (`scale`) -/
def scale (value : ℕ) : ℤ := max (-32767) (min 32767 (Int.tdiv (((value : ℤ) - 2048) * 37) 2))

/-- Source: `switch2_ble_probe.py` `ProbeSession._update_xinput` (`left_x_raw`, `right_x_raw`) -/
def xRaw (data : Octets) (i : ℕ) : ℕ :=
  (data.octet i).toNat + (((data.octet (i + 1)).toNat &&& 0x0F) <<< 8)

/-- Source: `switch2_ble_probe.py` `ProbeSession._update_xinput` (`left_y_raw`, `right_y_raw`) -/
def yRaw (data : Octets) (i : ℕ) : ℕ :=
  ((data.octet (i + 1)).toNat >>> 4) + ((data.octet (i + 2)).toNat <<< 4)

/-- The calls before `update`, in order.
Source: `switch2_ble_probe.py` `ProbeSession._update_xinput` -/
def xWrites (data : Octets) : List (XCode × XValue) :=
  (xMapping.map fun e => (.button e.1, .button (data.octet e.2.1 &&& e.2.2 != 0))) ++ [
    (.rightTrigger, .trigger (if data.octet 2 &&& 0x20 ≠ 0 then 255 else 0)),
    (.leftTrigger, .trigger (if data.octet 3 &&& 0x20 ≠ 0 then 255 else 0)),
    (.leftJoystick, .joystick (scale (xRaw data 5)) (scale (yRaw data 5))),
    (.rightJoystick, .joystick (scale (xRaw data 8)) (scale (yRaw data 8)))]

/-- Whether a report is mapped: one of another characteristic is not, nor a short one.
Source: `switch2_ble_probe.py` `ProbeSession._update_xinput` (the two `return`s) -/
def mapsX (args : Args) (n : Notification) : Bool :=
  (match args.inputHandle, n.handle with
    | some selected, some handle => selected = 0 || handle = selected
    | _, _ => true) && decide (11 ≤ n.data.length)

/-- An exception is caught; what was called before stays.
Source: `switch2_ble_probe.py` `ProbeSession._update_xinput` -/
def updateXinput (args : Args) (faults : ℕ → Buffered.Fault) (n : Notification)
    (pad : XGamepad) : XGamepad :=
  if mapsX args n then (Buffered.run faults (Buffered.batch (xWrites n.data)) pad).1 else pad

/-! ## The uinput gamepad -/

/-- Source: `switch2_ble_probe.py` `ProbeSession._update_uinput` (`key_map`) -/
def keyMap : List (String × EvKey) := [
  ("b", .btnSouth), ("a", .btnEast), ("y", .btnNorth), ("x", .btnWest),
  ("l", .btnTL), ("r", .btnTR), ("zl", .btnTL2), ("zr", .btnTR2),
  ("back", .btnSelect), ("start", .btnStart), ("home", .btnMode),
  ("l3", .btnThumbL), ("r3", .btnThumbR),
  ("dpad_up", .btnDpadUp), ("dpad_down", .btnDpadDown),
  ("dpad_left", .btnDpadLeft), ("dpad_right", .btnDpadRight)]

/-- Source: `switch2_ble_probe.py` `ProbeSession._start_uinput` (`capabilities`) -/
def capabilities : Capabilities where
  keys := [
    .btnSouth, .btnEast, .btnNorth, .btnWest,
    .btnTL, .btnTR, .btnTL2, .btnTR2,
    .btnSelect, .btnStart, .btnMode,
    .btnThumbL, .btnThumbR,
    .btnDpadUp, .btnDpadDown, .btnDpadLeft, .btnDpadRight]
  axes := [
    (.absX, absAxis), (.absY, absAxis), (.absRX, absAxis), (.absRY, absAxis),
    (.absZ, triggerAxis), (.absRZ, triggerAxis)]

/-- A new gamepad: every key up, every axis at 0.
Source: `switch2_ble_probe.py` `ProbeSession._start_uinput` -/
def startUinput : UInput := ⟨capabilities, ⟨fun _ => 0, []⟩⟩

/-- The writes of one update, in order.
Source: `switch2_ble_probe.py` `ProbeSession._update_uinput` -/
def uWrites (decoded : ProconReport) : List (EvCode × ℤ) :=
  (keyMap.map fun p => (.key p.2, if p.1 ∈ decoded.pressed then 1 else 0)) ++ [
    (.abs .absX, axisVal decoded.leftStick Stick.xNorm false),
    (.abs .absY, axisVal decoded.leftStick Stick.yNorm true),
    (.abs .absRX, axisVal decoded.rightStick Stick.xNorm false),
    (.abs .absRY, axisVal decoded.rightStick Stick.yNorm true),
    (.abs .absZ, if "zl" ∈ decoded.pressed then 255 else 0),
    (.abs .absRZ, if "zr" ∈ decoded.pressed then 255 else 0)]

/-- Source: `switch2_ble_probe.py` `ProbeSession._update_uinput` -/
def updateUinput (faults : ℕ → Buffered.Fault) (decoded : ProconReport) (ui : UInput) : UInput :=
  { ui with device := (Buffered.run faults (Buffered.batch (uWrites decoded)) ui.device).1 }

/-! ## Both -/

/-- The devices of a session. -/
structure Gamepads where
  gamepad : Option XGamepad
  uinput : Option UInput

/-- The devices the options ask for.
Source: `switch2_ble_probe.py` `ProbeSession.run` (virtual gamepads) -/
def Gamepads.start (args : Args) : Gamepads where
  gamepad := if args.xinput then some startXinput else none
  uinput := if args.uinput then some startUinput else none

/-- A report, with what happens to the calls of the two devices. -/
structure Arrival where
  report : Notification
  gamepad : ℕ → Buffered.Fault
  uinput : ℕ → Buffered.Fault

/-- What a report does to the devices.
Source: `switch2_ble_probe.py` `ProbeSession._on_report` (first part) -/
def Gamepads.onReport (args : Args) (pads : Gamepads) (u : Arrival) : Gamepads where
  gamepad := pads.gamepad.map (updateXinput args u.gamepad u.report)
  uinput := pads.uinput.map fun ui =>
    match decodeProcon2Report u.report.data with
    | some decoded => updateUinput u.uinput decoded ui
    | none => ui

/-- The devices after some reports. -/
def Gamepads.after (args : Args) (history : List Arrival) : Gamepads :=
  history.foldl (Gamepads.onReport args) (Gamepads.start args)

/-! ## The codes of an update -/

variable {args : Args} {data : Octets}

/-- The calls of an update are about the same things, whatever the report. -/
theorem xWrites_codes (data : Octets) : (xWrites data).map Prod.fst =
    xMapping.map (fun e => XCode.button e.1) ++
      [.rightTrigger, .leftTrigger, .leftJoystick, .rightJoystick] := by
  simp [xWrites]

/-- The writes of an update are to the same codes, whatever the report. -/
theorem uWrites_codes (decoded : ProconReport) : (uWrites decoded).map Prod.fst =
    keyMap.map (fun p => EvCode.key p.2) ++
      [.abs .absX, .abs .absY, .abs .absRX, .abs .absRY, .abs .absZ, .abs .absRZ] := by
  simp [uWrites]

theorem xWrites_nodup (data : Octets) : ((xWrites data).map Prod.fst).Nodup := by
  rw [xWrites_codes]
  decide

theorem uWrites_nodup (decoded : ProconReport) : ((uWrites decoded).map Prod.fst).Nodup := by
  rw [uWrites_codes]
  decide

/-- Every write of an update is declared. -/
theorem uWrites_declared (decoded : ProconReport) :
    ∀ w ∈ uWrites decoded, capabilities.Declares w := by
  intro w hw
  rcases List.mem_append.mp hw with hw | hw
  · obtain ⟨p, hp, rfl⟩ := List.mem_map.mp hw
    have hkey : ∀ p ∈ keyMap, p.2 ∈ capabilities.keys := by decide
    refine ⟨hkey p hp, ?_⟩
    split
    · exact Or.inr rfl
    · exact Or.inl rfl
  · have hstick : ∀ a ∈ [EvAbs.absX, .absY, .absRX, .absRY], (a, absAxis) ∈ capabilities.axes := by
      decide
    have htrig : ∀ a ∈ [EvAbs.absZ, .absRZ], (a, triggerAxis) ∈ capabilities.axes := by
      decide
    simp only [List.mem_cons, List.not_mem_nil, or_false] at hw
    rcases hw with rfl | rfl | rfl | rfl | rfl | rfl
    · exact ⟨absAxis, hstick _ (by decide), axisVal_range _ _ _⟩
    · exact ⟨absAxis, hstick _ (by decide), axisVal_range _ _ _⟩
    · exact ⟨absAxis, hstick _ (by decide), axisVal_range _ _ _⟩
    · exact ⟨absAxis, hstick _ (by decide), axisVal_range _ _ _⟩
    · refine ⟨triggerAxis, htrig _ (by decide), ?_⟩
      split <;> decide
    · refine ⟨triggerAxis, htrig _ (by decide), ?_⟩
      split <;> decide

/-! ## What the devices show -/

/-- The button of the decoder behind each button of the controller. -/
def xButtons : List (XButton × Button) := [
  (.a, .b), (.b, .a), (.x, .y), (.y, .x),
  (.rightShoulder, .r), (.start, .start), (.rightThumb, .r3),
  (.dpadDown, .dpadDown), (.dpadRight, .dpadRight), (.dpadLeft, .dpadLeft), (.dpadUp, .dpadUp),
  (.leftShoulder, .l), (.back, .back), (.leftThumb, .l3),
  (.guide, .home)]

/-- The controller shows a report, as the daemon decodes it. -/
structure ShowsX (visible : XCode → XValue) (r : Report) : Prop where
  buttons : ∀ e ∈ xButtons, visible (.button e.1) = .button (decide (e.2 ∈ r.pressed))
  rightTrigger : visible .rightTrigger = .trigger (if Button.zr ∈ r.pressed then 255 else 0)
  leftTrigger : visible .leftTrigger = .trigger (if Button.zl ∈ r.pressed then 255 else 0)
  leftJoystick : ∃ s, r.leftStick = some s ∧
    visible .leftJoystick = .joystick (scale s.x) (scale s.y)
  rightJoystick : ∃ s, r.rightStick = some s ∧
    visible .rightJoystick = .joystick (scale s.x) (scale s.y)

/-- The gamepad shows a report, as the probe decodes it. -/
structure ShowsProcon (visible : EvCode → ℤ) (r : ProconReport) : Prop where
  keys : ∀ p ∈ keyMap, visible (.key p.2) = if p.1 ∈ r.pressed then 1 else 0
  absX : visible (.abs .absX) = stickImage r.leftStick fun s => s.xNorm
  absY : visible (.abs .absY) = stickImage r.leftStick fun s => -s.yNorm
  absRX : visible (.abs .absRX) = stickImage r.rightStick fun s => s.xNorm
  absRY : visible (.abs .absRY) = stickImage r.rightStick fun s => -s.yNorm
  absZ : visible (.abs .absZ) = if "zl" ∈ r.pressed then 255 else 0
  absRZ : visible (.abs .absRZ) = if "zr" ∈ r.pressed then 255 else 0

/-- The raw values of the mapper are those of the decoder. -/
theorem decodeStick12_raw {i : ℕ} (h : i + 3 ≤ data.length) :
    ∃ s, decodeStick12 data i = some s ∧ s.x = xRaw data i ∧ s.y = yRaw data i := by
  have hoctet : ∀ k < 3, (data.slice i (i + 3)).octet k = data.octet (i + k) := by
    intro k hk
    rw [slice, octet_take (by omega), octet_drop]
  refine ⟨_, if_neg (by omega), ?_, ?_⟩
  · show ((((data.slice i (i + 3)).octet 1).toNat &&& 0x0F) <<< 8) |||
      ((data.slice i (i + 3)).octet 0).toNat = xRaw data i
    rw [hoctet 0 (by omega), hoctet 1 (by omega), pair12_fst, xRaw,
      show (0x0F : ℕ) = 2 ^ 4 - 1 from rfl, Nat.and_two_pow_sub_one_eq_mod, Nat.shiftLeft_eq,
      Nat.add_zero]
    omega
  · show (((data.slice i (i + 3)).octet 2).toNat <<< 4) |||
      ((((data.slice i (i + 3)).octet 1).toNat &&& 0xF0) >>> 4) = yRaw data i
    rw [hoctet 1 (by omega), hoctet 2 (by omega), pair12_snd, yRaw, Nat.shiftRight_eq_div_pow,
      Nat.shiftLeft_eq]
    omega

/-- The buttons of the mapper are those of the decoder. -/
theorem xButtons_mapping : ∀ e ∈ xButtons, ∃ m ∈ buttonMap, m.1 = e.2 ∧
    (e.1, m.2.1, m.2.2) ∈ xMapping := by
  decide

/-- What is written for a report shows it. -/
theorem showsX_of_writes {visible : XCode → XValue} (hlen : 11 ≤ data.length)
    (h : ∀ w ∈ xWrites data, visible w.1 = w.2) :
    ∃ r, decodeReport data = some r ∧ ShowsX visible r := by
  have hpressed : ∀ e ∈ buttonMap, e.1 ∈ pressedButtons data ↔ data.octet e.2.1 &&& e.2.2 ≠ 0 := by
    have hindex : ∀ e ∈ buttonMap, e.2.1 < 11 := by decide
    intro e he
    rw [mem_pressedButtons data he]
    exact ⟨fun hp => hp.2, fun hp => ⟨(hindex e he).trans_le hlen, hp⟩⟩
  have hrest := fun w hw => h w (List.mem_append_right _ hw)
  simp only [List.mem_cons, List.not_mem_nil, or_false, forall_eq_or_imp, forall_eq] at hrest
  obtain ⟨hrt, hlt, hlj, hrj⟩ := hrest
  obtain ⟨left, hleft, hlx, hly⟩ := decodeStick12_raw (show 5 + 3 ≤ data.length by omega)
  obtain ⟨right, hright, hrx, hry⟩ := decodeStick12_raw (show 8 + 3 ≤ data.length by omega)
  refine ⟨_, if_neg (by omega), ?_, ?_, ?_, ⟨left, hleft, ?_⟩, ⟨right, hright, ?_⟩⟩
  · intro e he
    obtain ⟨m, hm, hname, hmap⟩ := xButtons_mapping e he
    have hw := h _ (List.mem_append_left _ (List.mem_map_of_mem hmap))
    refine hw.trans (congrArg XValue.button ?_)
    rw [Bool.eq_iff_iff, bne_iff_ne, decide_eq_true_iff, ← hname]
    exact (hpressed m hm).symm
  · rw [hrt]
    exact congrArg XValue.trigger (if_congr (hpressed (.zr, 2, 0x20) (by decide)).symm rfl rfl)
  · rw [hlt]
    exact congrArg XValue.trigger (if_congr (hpressed (.zl, 3, 0x20) (by decide)).symm rfl rfl)
  · rw [hlj, hlx, hly]
  · rw [hrj, hrx, hry]

theorem showsProcon_of_writes {visible : EvCode → ℤ} {r : ProconReport}
    (h : ∀ w ∈ uWrites r, visible w.1 = w.2) : ShowsProcon visible r := by
  have haxes := fun w hw => h w (List.mem_append_right _ hw)
  simp only [List.mem_cons, List.not_mem_nil, or_false, forall_eq_or_imp, forall_eq,
    axisVal_eq_stickImage] at haxes
  obtain ⟨hx, hy, hrx, hry, hz, hrz⟩ := haxes
  refine ⟨fun p hp => ?_, hx, hy, hrx, hry, hz, hrz⟩
  exact h _ (List.mem_append_left _ (List.mem_map_of_mem hp))

/-! ## Histories -/

theorem Gamepads.after_snoc (args : Args) (history : List Arrival) (u : Arrival) :
    Gamepads.after args (history ++ [u]) = (Gamepads.after args history).onReport args u := by
  simp [Gamepads.after]

/-- The updates of the controller. -/
def xUpdates (args : Args) (history : List Arrival) : List (Buffered.Update XCode XValue) :=
  (history.filter fun u => mapsX args u.report).map fun u => (xWrites u.report.data, u.gamepad)

/-- The updates of the gamepad. -/
def uUpdates (history : List Arrival) : List (Buffered.Update EvCode ℤ) :=
  history.filterMap fun u =>
    (decodeProcon2Report u.report.data).map fun decoded => (uWrites decoded, u.uinput)

theorem after_gamepad (args : Args) (history : List Arrival) :
    (Gamepads.after args history).gamepad =
      if args.xinput then some (Buffered.replay (xUpdates args history) startXinput) else none := by
  induction history using List.reverseRecOn with
  | nil => rfl
  | append_singleton history u ih =>
      rw [Gamepads.after_snoc]
      simp only [Gamepads.onReport, ih, xUpdates, List.filter_append, List.map_append]
      cases hx : args.xinput with
      | false => rfl
      | true =>
          by_cases hm : mapsX args u.report = true
          · simp [hm, updateXinput, Buffered.replay_snoc]
          · simp [hm, updateXinput]

theorem after_uinput (args : Args) (history : List Arrival) :
    (Gamepads.after args history).uinput =
      if args.uinput then
        some ⟨capabilities, Buffered.replay (uUpdates history) startUinput.device⟩
      else none := by
  induction history using List.reverseRecOn with
  | nil => rfl
  | append_singleton history u ih =>
      rw [Gamepads.after_snoc]
      simp only [Gamepads.onReport, ih, uUpdates, List.filterMap_append]
      cases hu : args.uinput with
      | false => rfl
      | true =>
          cases hd : decodeProcon2Report u.report.data with
          | none => simp [hd]
          | some decoded => simp [hd, updateUinput, Buffered.replay_snoc]

/-- The reports that reached the controller whole. -/
def reachedX (args : Args) (history : List Arrival) : List Octets :=
  (history.filter fun u => mapsX args u.report &&
    decide (Buffered.Commits u.gamepad (xWrites u.report.data).length)).map (·.report.data)

/-- The reports that reached the gamepad whole, decoded. -/
def reachedU (history : List Arrival) : List ProconReport :=
  history.filterMap fun u => (decodeProcon2Report u.report.data).filter fun decoded =>
    decide (Buffered.Commits u.uinput (uWrites decoded).length)

theorem lastShown_xUpdates (args : Args) (history : List Arrival) :
    Buffered.lastShown (xUpdates args history) =
      ((reachedX args history).getLast?).map xWrites := by
  induction history using List.reverseRecOn with
  | nil => rfl
  | append_singleton history u ih =>
      unfold xUpdates reachedX at ih ⊢
      by_cases hm : mapsX args u.report = true
      · by_cases hc : Buffered.Commits u.gamepad (xWrites u.report.data).length
        · simp [hm, hc, Buffered.lastShown_snoc]
        · simp [hm, hc, Buffered.lastShown_snoc, ih]
      · simp [hm, ih]

theorem lastShown_uUpdates (history : List Arrival) :
    Buffered.lastShown (uUpdates history) = ((reachedU history).getLast?).map uWrites := by
  induction history using List.reverseRecOn with
  | nil => rfl
  | append_singleton history u ih =>
      unfold uUpdates reachedU at ih ⊢
      cases hd : decodeProcon2Report u.report.data with
      | none => simp [hd, ih]
      | some decoded =>
          by_cases hc : Buffered.Commits u.uinput (uWrites decoded).length
          · simp [hd, hc, Buffered.lastShown_snoc]
          · simp [hd, hc, Buffered.lastShown_snoc, ih]

/-- **The Xbox controller**: after any reports and exceptions it shows the last report that reached
it whole, with the buttons, triggers and sticks that the daemon's decoder reads off it, and rests if
there was none. A report of another characteristic, a short one, and one whose calls raised before
the update took effect leave no trace.
Source: `switch2_ble_probe.py` `ProbeSession._on_report`, `_update_xinput` -/
theorem gamepad_showsLast (args : Args) (history : List Arrival) :
    match (Gamepads.after args history).gamepad with
    | none => args.xinput = false
    | some pad =>
        match (reachedX args history).getLast? with
        | none => pad.visible = xRest
        | some data => ∃ r, decodeReport data = some r ∧ ShowsX pad.visible r := by
  have hcodes : ∀ u ∈ xUpdates args history, u.1.map Prod.fst = (xWrites []).map Prod.fst := by
    intro u hu
    obtain ⟨n, -, rfl⟩ := List.mem_map.mp hu
    exact (xWrites_codes _).trans (xWrites_codes _).symm
  have hvisible : (Buffered.replay (xUpdates args history) startXinput).visible = _ :=
    Buffered.replay_visible (xWrites_nodup []) hcodes rfl
  rw [lastShown_xUpdates] at hvisible
  rw [after_gamepad]
  cases args.xinput with
  | false => rfl
  | true =>
      simp only [if_true]
      cases hlast : (reachedX args history).getLast? with
      | none =>
          rw [hlast] at hvisible
          exact hvisible
      | some data =>
          rw [hlast] at hvisible
          obtain ⟨u, hu, rfl⟩ := List.mem_map.mp (List.mem_of_getLast? hlast)
          have hmaps := (Bool.and_eq_true_iff.mp (List.mem_filter.mp hu).2).1
          have hlen := of_decide_eq_true (Bool.and_eq_true_iff.mp hmaps).2
          exact showsX_of_writes hlen (Buffered.visible_of_applyWrites (xWrites_nodup _) hvisible)

/-- **The uinput gamepad**: after any reports and exceptions it shows the last report that decoded
and reached it whole, and nothing if there was none; and whatever is written to it was declared.
Source: `switch2_ble_probe.py` `ProbeSession._on_report`, `_update_uinput`, `_start_uinput` -/
theorem uinput_showsLast (args : Args) (history : List Arrival) :
    match (Gamepads.after args history).uinput with
    | none => args.uinput = false
    | some ui =>
        (∀ decoded, ∀ w ∈ uWrites decoded, ui.caps.Declares w) ∧
          match (reachedU history).getLast? with
          | none => ui.device.visible = fun _ => 0
          | some decoded => ShowsProcon ui.device.visible decoded := by
  have hcodes : ∀ u ∈ uUpdates history, u.1.map Prod.fst =
      keyMap.map (fun p => EvCode.key p.2) ++
        [.abs .absX, .abs .absY, .abs .absRX, .abs .absRY, .abs .absZ, .abs .absRZ] := by
    intro u hu
    obtain ⟨n, -, hn⟩ := List.mem_filterMap.mp hu
    obtain ⟨decoded, -, rfl⟩ := Option.map_eq_some_iff.mp hn
    exact uWrites_codes decoded
  have hvisible : (Buffered.replay (uUpdates history) startUinput.device).visible = _ :=
    Buffered.replay_visible (by decide) hcodes rfl
  rw [lastShown_uUpdates] at hvisible
  rw [after_uinput]
  cases args.uinput with
  | false => rfl
  | true =>
      simp only [if_true]
      refine ⟨uWrites_declared, ?_⟩
      cases hlast : (reachedU history).getLast? with
      | none =>
          rw [hlast] at hvisible
          exact hvisible
      | some decoded =>
          rw [hlast] at hvisible
          exact showsProcon_of_writes (Buffered.visible_of_applyWrites (uWrites_nodup _) hvisible)

end Switch2Bt.Probe
