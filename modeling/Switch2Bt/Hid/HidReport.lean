import Switch2Bt.Codec.ParseInput
import Switch2Bt.Hid.Descriptor

/-!
# The HID report of the C daemon (`switch2-bt.c`)

`parse_input` keeps the last input report that was long enough, and `build_hid_report` writes it out
for the descriptor of `hid_report_descriptor.h`. Unpacked by that descriptor, the report has the
buttons and the sticks that were parsed, and the hat switch points where the direction buttons do
(`buildHidReport_faithful`); before the first report it is neutral.
-/

namespace Switch2Bt.HidReport

open Octets Hid

/-! ## The report -/

/-- Source: `hid_report_descriptor.h` `hid_report_descriptor` -/
def hidReportDescriptor : Octets := [
  0x05, 0x01, 0x09, 0x05, 0xA1, 0x01,
  0x85, 0x01,
  0x05, 0x09, 0x19, 0x01, 0x29, 0x18, 0x15, 0x00, 0x25, 0x01, 0x75, 0x01, 0x95, 0x18, 0x81, 0x02,
  0x05, 0x01, 0x09, 0x30, 0x09, 0x31, 0x09, 0x32, 0x09, 0x35, 0x15, 0x00, 0x26, 0xFF, 0x0F,
  0x35, 0x00, 0x46, 0xFF, 0x0F, 0x75, 0x10, 0x95, 0x04, 0x81, 0x02,
  0x05, 0x01, 0x09, 0x39, 0x15, 0x00, 0x25, 0x07, 0x35, 0x00, 0x46, 0x3B, 0x01, 0x75, 0x04,
  0x95, 0x01, 0x81, 0x42,
  0x75, 0x04, 0x95, 0x01, 0x81, 0x03,
  0x85, 0x02, 0x05, 0x0F, 0x09, 0x21, 0x15, 0x00, 0x25, 0xFF, 0x75, 0x08, 0x95, 0x02, 0x91, 0x02,
  0xC0]

/-- The bits of `c->buttons` that are copied, and the bits they become.
Source: `switch2-bt.c` `build_hid_report` (conditions) -/
def hidBits : List (ℕ × ℕ) := [
  (0x00000001, 0x0001), (0x00000002, 0x0002), (0x00000004, 0x0004), (0x00000008, 0x0008),
  (0x00000010, 0x0010), (0x00000020, 0x0020), (0x00000040, 0x0040), (0x00000080, 0x0080),
  (0x00000100, 0x0100), (0x00000200, 0x0200), (0x00000400, 0x0400), (0x00000800, 0x0800),
  (0x00001000, 0x1000), (0x00002000, 0x2000), (0x00004000, 0x4000), (0x00008000, 0x8000),
  (0x00010000, 0x00010000), (0x00020000, 0x00020000), (0x00040000, 0x00040000),
  (0x00080000, 0x00080000), (0x00100000, 0x00100000)]

/-- The buttons of the report.
Source: `switch2-bt.c` `build_hid_report` (`b`) -/
def hidButtons (buttons : ℕ) : ℕ :=
  hidBits.foldl (fun b e => if buttons &&& e.1 ≠ 0 then b ||| e.2 else b) 0

/-- The octets that are written.
Source: `switch2-bt.c` `build_hid_report` -/
def buildHidReport (c : Ctrl) : Octets :=
  let b := hidButtons c.buttons
  [0x01,
    UInt8.ofNat (b &&& 0xFF), UInt8.ofNat ((b >>> 8) &&& 0xFF), UInt8.ofNat ((b >>> 16) &&& 0xFF),
    UInt8.ofNat (c.lx &&& 0xFF), UInt8.ofNat ((c.lx >>> 8) &&& 0xFF),
    UInt8.ofNat (c.ly &&& 0xFF), UInt8.ofNat ((c.ly >>> 8) &&& 0xFF),
    UInt8.ofNat (c.rx &&& 0xFF), UInt8.ofNat ((c.rx >>> 8) &&& 0xFF),
    UInt8.ofNat (c.ry &&& 0xFF), UInt8.ofNat ((c.ry >>> 8) &&& 0xFF),
    UInt8.ofNat (c.dpad &&& 0x0F)]

/-- The state before the first report.
Source: `switch2-bt.c` `main` (initialisation of `c`) -/
def Ctrl.initial : Ctrl := ⟨0, 2048, 2048, 2048, 2048, 8⟩

/-- The state after some notifications.
Source: `switch2-bt.c` `parse_input` -/
def afterInputs (payloads : List Octets) : Ctrl := payloads.foldl parseInput Ctrl.initial

/-! ## Statement -/

/-- The fields of the descriptor. -/
def hidFields : List Field := inputFields hidReportDescriptor

/-- The direction buttons of octet 3, clockwise from up. -/
def directions (d3 : UInt8) : List Bool :=
  [d3 &&& 0x08 ≠ 0, d3 &&& 0x02 ≠ 0, d3 &&& 0x01 ≠ 0, d3 &&& 0x04 ≠ 0]

/-- The directions that position `h` of the hat switch stands for: one, or two adjacent ones. -/
def hatDirections (h : ℕ) : List Bool :=
  (List.range 4).map fun i => h = 2 * i ∨ h = 2 * i + 1 ∨ h = (2 * i + 7) % 8

/-- The hat switch points where the direction buttons do, or rests. -/
def Points (d3 : UInt8) (h : ℕ) : Prop :=
  (h < 8 ∧ hatDirections h = directions d3) ∨ (h = 8 ∧ ∀ h' < 8, hatDirections h' ≠ directions d3)

instance (d3 : UInt8) (h : ℕ) : Decidable (Points d3 h) := inferInstanceAs (Decidable (_ ∨ _))

/-- The last payload of eleven octets or more. -/
def lastInput (payloads : List Octets) : Option Octets :=
  (payloads.filter fun d => 11 ≤ d.length).getLast?

/-- A report in which the axes have the given values, all of them in their logical range. -/
structure Axes (report : Octets) (lx ly rx ry : ℕ) : Prop where
  x : usageValue hidFields report ⟨0x01, 0x30⟩ = some lx
  y : usageValue hidFields report ⟨0x01, 0x31⟩ = some ly
  z : usageValue hidFields report ⟨0x01, 0x32⟩ = some rx
  rz : usageValue hidFields report ⟨0x01, 0x35⟩ = some ry
  range : ∀ v ∈ [lx, ly, rx, ry], v ≤ 4095

/-- A report of a payload: its buttons, its sticks and its directions. -/
structure Reports (d report : Octets) : Prop where
  button : ∀ i < 21, usageValue hidFields report (button (i + 1)) =
    some (leNat (d.slice 2 5) / 2 ^ i % 2)
  unused : ∀ i < 24, 21 ≤ i → usageValue hidFields report (Hid.button (i + 1)) = some 0
  axes : ∀ c, Axes report (parseInput c d).lx (parseInput c d).ly (parseInput c d).rx
    (parseInput c d).ry
  hat : ∃ h, usageValue hidFields report ⟨0x01, 0x39⟩ = some h ∧ Points (d.octet 3) h

/-- A report of a controller at rest. -/
structure Neutral (report : Octets) : Prop where
  button : ∀ i < 24, usageValue hidFields report (button (i + 1)) = some 0
  axes : Axes report 2048 2048 2048 2048
  hat : usageValue hidFields report ⟨0x01, 0x39⟩ = some 8

/-! ## The descriptor -/

theorem reportLen_hid : reportLen hidFields 1 = 13 := by decide +kernel

theorem lays_buttons : Lays hidFields 1 (buttonTable 1 24) := by decide +kernel

/-- The axes and the hat switch. -/
def otherFields : List (Usage × Field) := [
  (⟨0x01, 0x30⟩, ⟨1, some ⟨0x01, 0x30⟩, 24, 16, 0, 4095⟩),
  (⟨0x01, 0x31⟩, ⟨1, some ⟨0x01, 0x31⟩, 40, 16, 0, 4095⟩),
  (⟨0x01, 0x32⟩, ⟨1, some ⟨0x01, 0x32⟩, 56, 16, 0, 4095⟩),
  (⟨0x01, 0x35⟩, ⟨1, some ⟨0x01, 0x35⟩, 72, 16, 0, 4095⟩),
  (⟨0x01, 0x39⟩, ⟨1, some ⟨0x01, 0x39⟩, 88, 4, 0, 7⟩)]

theorem lays_others : Lays hidFields 1 otherFields := by decide +kernel

/-! ## The packing -/

/-- Copying the bits below `n` one by one is reducing modulo `2 ^ n`. -/
theorem foldl_bits (w n : ℕ) :
    ((List.range n).map fun i => (2 ^ i, 2 ^ i)).foldl
      (fun b (e : ℕ × ℕ) => if w &&& e.1 ≠ 0 then b ||| e.2 else b) 0 = w % 2 ^ n := by
  induction n with
  | zero => simp [Nat.mod_one]
  | succ n ih =>
      have hlt : w % 2 ^ n < 2 ^ n := Nat.mod_lt _ (Nat.two_pow_pos n)
      rw [List.range_succ, List.map_append, List.foldl_append, ih, Nat.mod_pow_succ,
        ← Nat.toNat_testBit]
      simp only [List.map_cons, List.map_nil, List.foldl_cons, List.foldl_nil, Nat.and_two_pow]
      cases hbit : w.testBit n with
      | true =>
          have hor : 2 ^ n + w % 2 ^ n = 2 ^ n ||| w % 2 ^ n := by
            simpa using Nat.two_pow_add_eq_or_of_lt hlt 1
          simp [Nat.or_comm _ (2 ^ n), Nat.add_comm _ (2 ^ n), hor]
      | false => simp

/-- The bits that are copied are the lowest twenty-one. -/
theorem hidButtons_eq (w : ℕ) : hidButtons w = w % 2 ^ 21 := by
  rw [hidButtons, show hidBits = (List.range 21).map fun i => (2 ^ i, 2 ^ i) from by decide,
    foldl_bits]

theorem ofNat_and_toNat (n : ℕ) : (UInt8.ofNat (n &&& 0xFF)).toNat = n % 256 := by
  rw [UInt8.toNat_ofNat', show (0xFF : ℕ) = 2 ^ 8 - 1 from rfl, Nat.and_two_pow_sub_one_eq_mod]
  omega

/-- Two octets of a word, put together again. -/
theorem word_octets (n : ℕ) :
    (UInt8.ofNat (n &&& 0xFF)).toNat + 256 * (UInt8.ofNat ((n >>> 8) &&& 0xFF)).toNat =
      n % 65536 := by
  rw [ofNat_and_toNat, ofNat_and_toNat, Nat.shiftRight_eq_div_pow]
  omega

/-- A bit below the ones that are cut off. -/
theorem bit_mod (w : ℕ) {n i : ℕ} (h : i < n) : w % 2 ^ n / 2 ^ i % 2 = w / 2 ^ i % 2 := by
  obtain ⟨k, rfl⟩ := Nat.exists_eq_add_of_lt h
  rw [Nat.add_assoc, Nat.pow_add, Nat.mod_mul_right_div_self, Nat.pow_succ', Nat.mod_mul_right_mod]

section packing

variable {c : Ctrl}

/-- A button of the octets that are written. -/
theorem button_build {i : ℕ} (h : i < 24) :
    usageValue hidFields (buildHidReport c) (button (i + 1)) =
      some (hidButtons c.buttons / 2 ^ i % 2) := by
  rcases (show i < 16 ∨ 16 ≤ i by omega) with hlow | hhigh
  · have hword : ((buildHidReport c).octet 1).toNat + 256 * ((buildHidReport c).octet 2).toNat =
        hidButtons c.buttons % 2 ^ 16 := word_octets _
    rw [lays_buttons.button (k := 0) h rfl (by omega) (by omega), hword]
    exact congrArg some (bit_mod _ hlow)
  · have hword : ((buildHidReport c).octet 2).toNat + 256 * ((buildHidReport c).octet 3).toNat =
        (hidButtons c.buttons >>> 8) % 2 ^ 16 := word_octets _
    rw [lays_buttons.button (k := 1) h rfl (by omega) (by omega), hword, bit_mod _ (by omega),
      Nat.shiftRight_eq_div_pow, Nat.div_div_eq_div_mul, ← Nat.pow_add,
      Nat.add_sub_cancel' (by omega)]

/-- The axes of the octets that are written. -/
theorem axes_build (hlx : c.lx ≤ 4095) (hly : c.ly ≤ 4095) (hrx : c.rx ≤ 4095)
    (hry : c.ry ≤ 4095) : Axes (buildHidReport c) c.lx c.ly c.rx c.ry := by
  have hword : ∀ n ≤ 4095, ((UInt8.ofNat (n &&& 0xFF)).toNat +
      256 * (UInt8.ofNat ((n >>> 8) &&& 0xFF)).toNat) / 2 ^ 0 % 2 ^ 16 = n := by
    intro n hn
    rw [word_octets]
    omega
  refine ⟨?_, ?_, ?_, ?_, by simp [hlx, hly, hrx, hry]⟩
  · rw [lays_others.word (f := ⟨1, some ⟨0x01, 0x30⟩, 24, 16, 0, 4095⟩) (k := 3) (j := 0)
      (by decide) rfl rfl (by decide)]
    exact congrArg some (hword _ hlx)
  · rw [lays_others.word (f := ⟨1, some ⟨0x01, 0x31⟩, 40, 16, 0, 4095⟩) (k := 5) (j := 0)
      (by decide) rfl rfl (by decide)]
    exact congrArg some (hword _ hly)
  · rw [lays_others.word (f := ⟨1, some ⟨0x01, 0x32⟩, 56, 16, 0, 4095⟩) (k := 7) (j := 0)
      (by decide) rfl rfl (by decide)]
    exact congrArg some (hword _ hrx)
  · rw [lays_others.word (f := ⟨1, some ⟨0x01, 0x35⟩, 72, 16, 0, 4095⟩) (k := 9) (j := 0)
      (by decide) rfl rfl (by decide)]
    exact congrArg some (hword _ hry)

/-- The hat switch of the octets that are written. -/
theorem hat_build (hdpad : c.dpad ≤ 8) :
    usageValue hidFields (buildHidReport c) ⟨0x01, 0x39⟩ = some c.dpad := by
  rw [lays_others.octet (f := ⟨1, some ⟨0x01, 0x39⟩, 88, 4, 0, 7⟩) (k := 11) (by decide) rfl rfl
    (by decide)]
  show some ((UInt8.ofNat (c.dpad &&& 0x0F)).toNat % 2 ^ 4) = some c.dpad
  rw [UInt8.toNat_ofNat', show (0x0F : ℕ) = 2 ^ 4 - 1 from rfl, Nat.and_two_pow_sub_one_eq_mod]
  exact congrArg some (by omega)

end packing

/-! ## The last input -/

/-- The hat switch of the decoder. -/
theorem points_dpadOf (d3 : UInt8) : Points d3 (dpadOf (d3 &&& 0x0F)) :=
  forall_octet (P := fun d3 => Points d3 (dpadOf (d3 &&& 0x0F))) (by decide +kernel) d3

theorem Points.le {d3 : UInt8} {h : ℕ} : Points d3 h → h ≤ 8
  | .inl hh => hh.1.le
  | .inr hh => hh.1.le

/-- What the decoder reads fits the report. -/
theorem reports_parse (c : Ctrl) {d : Octets} (h : 11 ≤ d.length) :
    Reports d (buildHidReport (parseInput c d)) := by
  have hpoints := points_dpadOf (d.octet 3)
  have hoct : ∀ i, (d.octet i).toNat < 256 := fun i => (d.octet i).toNat_lt
  have hbuttons : (parseInput c d).buttons = leNat (d.slice 2 5) := by
    rw [parseInput_eq c h, slice, ← map_octet_range' d 2 3 (by omega)]
    show (d.octet 2).toNat ||| ((d.octet 3).toNat <<< 8) ||| ((d.octet 4).toNat <<< 16) =
      (d.octet 2).toNat + 256 * ((d.octet 3).toNat + 256 * ((d.octet 4).toNat + 256 * 0))
    rw [or_word]
    omega
  have hindep : ∀ c', parseInput c' d = parseInput c d := by
    intro c'
    rw [parseInput_eq c' h, parseInput_eq c h]
  have hrange : (parseInput c d).lx ≤ 4095 ∧ (parseInput c d).ly ≤ 4095 ∧
      (parseInput c d).rx ≤ 4095 ∧ (parseInput c d).ry ≤ 4095 := by
    have := hoct 5
    have := hoct 6
    have := hoct 7
    have := hoct 8
    have := hoct 9
    have := hoct 10
    simp only [parseInput_eq c h]
    exact ⟨by omega, by omega, by omega, by omega⟩
  have hdpad : (parseInput c d).dpad = dpadOf (d.octet 3 &&& 0x0F) := by rw [parseInput_eq c h]
  refine ⟨?_, ?_, ?_, ?_⟩
  · intro i hi
    rw [button_build (by omega), hidButtons_eq, hbuttons, bit_mod _ hi]
  · intro i hi hlow
    rw [button_build hi, hidButtons_eq, Nat.div_eq_of_lt]
    exact (Nat.mod_lt _ (by decide)).trans_le (Nat.pow_le_pow_right (by decide) hlow)
  · intro c'
    rw [hindep c']
    exact axes_build hrange.1 hrange.2.1 hrange.2.2.1 hrange.2.2.2
  · exact ⟨_, hat_build (hdpad ▸ hpoints.le), hdpad ▸ hpoints⟩

theorem neutral_initial : Neutral (buildHidReport Ctrl.initial) where
  button i hi := by
    rw [button_build hi, show hidButtons Ctrl.initial.buttons = 0 from by decide, Nat.zero_div]
  axes := axes_build (by decide) (by decide) (by decide) (by decide)
  hat := hat_build (by decide)

/-- A payload of less than eleven octets changes nothing. -/
theorem parseInput_short (c : Ctrl) {d : Octets} (h : d.length < 11) : parseInput c d = c :=
  if_pos h

/-- The state after some payloads is what the decoder reads of the last long one. -/
theorem afterInputs_lastInput (payloads : List Octets) :
    match lastInput payloads with
    | none => afterInputs payloads = Ctrl.initial
    | some d => 11 ≤ d.length ∧ ∃ c, afterInputs payloads = parseInput c d := by
  induction payloads using List.reverseRecOn with
  | nil => rfl
  | append_singleton payloads d ih =>
      rw [afterInputs, List.foldl_append, lastInput, List.filter_append]
      by_cases hlen : 11 ≤ d.length
      · simp only [hlen, decide_true, List.filter_cons_of_pos, List.filter_nil,
          List.getLast?_append, List.getLast?_singleton, Option.some_or]
        exact ⟨trivial, _, rfl⟩
      · rw [List.filter_cons_of_neg (by simpa using hlen), List.filter_nil, List.append_nil]
        show match lastInput payloads with
          | none => parseInput (afterInputs payloads) d = Ctrl.initial
          | some d' => 11 ≤ d'.length ∧ ∃ c, parseInput (afterInputs payloads) d = parseInput c d'
        rw [parseInput_short _ (by omega)]
        exact ih

/-- **The report is faithful**: after any payloads it has the report id, the length of the
descriptor, and as the descriptor unpacks it the buttons, the sticks and the directions of the last
payload of eleven octets or more; it is neutral as long as there is none. Shorter payloads change
nothing.
Source: `switch2-bt.c` `parse_input`, `build_hid_report` -/
theorem buildHidReport_faithful (payloads : List Octets) :
    (buildHidReport (afterInputs payloads)).octet 0 = 0x01 ∧
      (buildHidReport (afterInputs payloads)).length = reportLen hidFields 1 ∧
      (match lastInput payloads with
        | none => Neutral (buildHidReport (afterInputs payloads))
        | some d => Reports d (buildHidReport (afterInputs payloads))) ∧
      ∀ d, d.length < 11 → afterInputs (payloads ++ [d]) = afterInputs payloads := by
  refine ⟨rfl, reportLen_hid.symm, ?_, ?_⟩
  · have hlast := afterInputs_lastInput payloads
    cases h : lastInput payloads with
    | none =>
        rw [h] at hlast
        rw [show afterInputs payloads = Ctrl.initial from hlast]
        exact neutral_initial
    | some d =>
        rw [h] at hlast
        obtain ⟨hlen, c, hc⟩ := hlast
        rw [hc]
        exact reports_parse c hlen
  · intro d hd
    rw [afterInputs, List.foldl_append]
    exact parseInput_short _ hd

end Switch2Bt.HidReport
