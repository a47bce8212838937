import Switch2Bt.Hid.Descriptor
import Switch2Bt.Sw2d.Frame

/-!
# The translation of report 0x09 (`sw2d.c`)

`report09_to_uhid` packs sixteen buttons and four sticks of twelve bits into a HID report, and the
descriptor that says how to unpack them is written out elsewhere as octets. Unpacked by the
descriptor, the report gives back the buttons and the sticks, and the two triggers say whether ZL
and ZR are held (`report09ToUhid_translates`); so the translation loses none of them
(`translates_agree`).
-/

namespace Switch2Bt.Report09

open Octets Hid Sw2d

/-! ## The translation -/

/-- The descriptor of the gamepad.
Source: `sw2d.c` `gamepad_rdesc` -/
def gamepadRdesc : Octets := [
  0x05, 0x01, 0x09, 0x05, 0xa1, 0x01, 0x85, 0x01,
  0x05, 0x09, 0x19, 0x01, 0x29, 0x18, 0x15, 0x00,
  0x25, 0x01, 0x75, 0x01, 0x95, 0x18, 0x81, 0x02,
  0x05, 0x01, 0x09, 0x30, 0x09, 0x31, 0x09, 0x32,
  0x09, 0x35, 0x15, 0x00, 0x26, 0xff, 0x0f, 0x75,
  0x0c, 0x95, 0x04, 0x81, 0x02, 0x09, 0x39, 0x15,
  0x00, 0x25, 0x08, 0x35, 0x00, 0x46, 0x3b, 0x01,
  0x65, 0x14, 0x75, 0x04, 0x95, 0x01, 0x81, 0x42,
  0x75, 0x04, 0x95, 0x01, 0x81, 0x03, 0x05, 0x02,
  0x09, 0xc5, 0x09, 0xc4, 0x15, 0x00,
  0x26, 0xff, 0x00, 0x75, 0x08, 0x95, 0x02, 0x81,
  0x02, 0xc0]

/-- The position of the hat switch: no button is taken for a direction.
Source: `sw2d.c` `dpad_from_buttons` -/
def dpadFromButtons (_b : UInt16) : UInt8 :=
  let up := false
  let down := false
  let left := false
  let right := false
  if up && right then 1
  else if right && down then 3
  else if down && left then 5
  else if left && up then 7
  else if up then 0
  else if right then 2
  else if down then 4
  else if left then 6
  else 8

/-- Source: `sw2d.c` `stick12_at` -/
def stick12At (r : Octets) (off : ℕ) : UInt16 :=
  if r.length ≤ off + 1 then 2048 else getLe16 r off &&& 0x0fff

/-- The octets that are written.
Source: `sw2d.c` `report09_to_uhid` (assignments) -/
def hidOctets (b lx ly rx ry : UInt16) : Octets := [
  0x01,
  b.toUInt8,
  (b >>> 8).toUInt8,
  (if b &&& ((1 : UInt16) <<< 6) ≠ 0 then 1 else 0) |||
    (if b &&& ((1 : UInt16) <<< 7) ≠ 0 then 2 else 0),
  lx.toUInt8,
  ((lx >>> 8) ||| (ly <<< 4)).toUInt8,
  (ly >>> 4).toUInt8,
  rx.toUInt8,
  ((rx >>> 8) ||| (ry <<< 4)).toUInt8,
  (ry >>> 4).toUInt8,
  dpadFromButtons b &&& 0x0f,
  if b &&& ((1 : UInt16) <<< 6) ≠ 0 then 0xff else 0x00,
  if b &&& ((1 : UInt16) <<< 7) ≠ 0 then 0xff else 0x00]

/-- The result and the buffer afterwards.
Source: `sw2d.c` `report09_to_uhid` -/
def report09ToUhid (r out : Octets) : ℤ × Octets :=
  if r.length < 11 ∨ r.octet 0 ≠ 0x09 ∨ out.length < 13 then (-1, out)
  else
    (13, hidOctets (getLe16 r 1) (stick12At r 3) (stick12At r 5) (stick12At r 7) (stick12At r 9) ++
      out.drop 13)

/-! ## Statement -/

/-- The fields of the descriptor. -/
def gamepadFields : List Field := inputFields gamepadRdesc

/-- A report that the descriptor unpacks into the buttons and the sticks of report 0x09. -/
structure Translates (r report : Octets) : Prop where
  reportId : report.octet 0 = 0x01
  length : report.length = reportLen gamepadFields 1
  button : ∀ i < 16, usageValue gamepadFields report (button (i + 1)) =
    some ((getLe16 r 1).toNat / 2 ^ i % 2)
  x : usageValue gamepadFields report ⟨0x01, 0x30⟩ = some ((getLe16 r 3).toNat % 4096)
  y : usageValue gamepadFields report ⟨0x01, 0x31⟩ = some ((getLe16 r 5).toNat % 4096)
  z : usageValue gamepadFields report ⟨0x01, 0x32⟩ = some ((getLe16 r 7).toNat % 4096)
  rz : usageValue gamepadFields report ⟨0x01, 0x35⟩ = some ((getLe16 r 9).toNat % 4096)
  hat : usageValue gamepadFields report ⟨0x01, 0x39⟩ = some 8
  brake : usageValue gamepadFields report ⟨0x02, 0xc5⟩ =
    some (if (getLe16 r 1).toNat / 2 ^ 6 % 2 = 1 then 0xff else 0x00)
  accelerator : usageValue gamepadFields report ⟨0x02, 0xc4⟩ =
    some (if (getLe16 r 1).toNat / 2 ^ 7 % 2 = 1 then 0xff else 0x00)

/-- Two reports with the same buttons and the same sticks. -/
structure Agree (r r' : Octets) : Prop where
  buttons : getLe16 r 1 = getLe16 r' 1
  sticks : ∀ off ∈ [3, 5, 7, 9], (getLe16 r off).toNat % 4096 = (getLe16 r' off).toNat % 4096

/-! ## The descriptor -/

/-- The report of the descriptor has thirteen octets. -/
theorem reportLen_gamepad : reportLen gamepadFields 1 = 13 := by decide +kernel

theorem lays_buttons : Lays gamepadFields 1 (buttonTable 1 24) := by decide +kernel

/-- The axes, the hat switch and the triggers. -/
def otherFields : List (Usage × Field) := [
  (⟨0x01, 0x30⟩, ⟨1, some ⟨0x01, 0x30⟩, 24, 12, 0, 4095⟩),
  (⟨0x01, 0x31⟩, ⟨1, some ⟨0x01, 0x31⟩, 36, 12, 0, 4095⟩),
  (⟨0x01, 0x32⟩, ⟨1, some ⟨0x01, 0x32⟩, 48, 12, 0, 4095⟩),
  (⟨0x01, 0x35⟩, ⟨1, some ⟨0x01, 0x35⟩, 60, 12, 0, 4095⟩),
  (⟨0x01, 0x39⟩, ⟨1, some ⟨0x01, 0x39⟩, 72, 4, 0, 8⟩),
  (⟨0x02, 0xc5⟩, ⟨1, some ⟨0x02, 0xc5⟩, 80, 8, 0, 255⟩),
  (⟨0x02, 0xc4⟩, ⟨1, some ⟨0x02, 0xc4⟩, 88, 8, 0, 255⟩)]

theorem lays_others : Lays gamepadFields 1 otherFields := by decide +kernel

/-! ## The packing -/

theorem toNat_toUInt8 (x : UInt16) : x.toUInt8.toNat = x.toNat % 256 := rfl

/-- Two fields of twelve bits in three octets: the octet they share. -/
theorem packed_toNat {x y : UInt16} (hx : x.toNat < 4096) (hy : y.toNat < 4096) :
    ((x >>> 8) ||| (y <<< 4)).toUInt8.toNat = x.toNat / 256 + 16 * (y.toNat % 16) := by
  have hor : (x.toNat >>> 8) ||| (y.toNat <<< 4) = x.toNat / 256 + 16 * y.toNat := by
    rw [Nat.or_comm, Nat.shiftRight_eq_div_pow,
      ← Nat.shiftLeft_add_eq_or_of_lt (by omega), Nat.shiftLeft_eq]
    omega
  have hshift : y.toNat <<< 4 % 2 ^ 16 = y.toNat <<< 4 := by
    rw [Nat.shiftLeft_eq]
    omega
  rw [toNat_toUInt8, UInt16.toNat_or, UInt16.toNat_shiftRight, UInt16.toNat_shiftLeft,
    show (8 : UInt16).toNat % 16 = 8 from rfl, show (4 : UInt16).toNat % 16 = 4 from rfl, hshift,
    hor]
  omega

/-- The first of the two fields, unpacked. -/
theorem unpack_fst {x y : UInt16} (hx : x.toNat < 4096) (hy : y.toNat < 4096) :
    (x.toUInt8.toNat + 256 * ((x >>> 8) ||| (y <<< 4)).toUInt8.toNat) / 2 ^ 0 % 2 ^ 12 =
      x.toNat := by
  rw [packed_toNat hx hy, toNat_toUInt8]
  omega

/-- The second one. -/
theorem unpack_snd {x y : UInt16} (hx : x.toNat < 4096) (hy : y.toNat < 4096) :
    (((x >>> 8) ||| (y <<< 4)).toUInt8.toNat + 256 * (y >>> 4).toUInt8.toNat) / 2 ^ 4 % 2 ^ 12 =
      y.toNat := by
  rw [packed_toNat hx hy, toNat_toUInt8, UInt16.toNat_shiftRight,
    show (4 : UInt16).toNat % 16 = 4 from rfl, Nat.shiftRight_eq_div_pow]
  omega

theorem stick12At_toNat {r : Octets} {off : ℕ} (h : off + 1 < r.length) :
    (stick12At r off).toNat = (getLe16 r off).toNat % 4096 := by
  rw [stick12At, if_neg (by omega), UInt16.toNat_and, show (0x0fff : UInt16).toNat = 2 ^ 12 - 1
    from rfl, Nat.and_two_pow_sub_one_eq_mod]

/-- A mask of one bit meets a word iff the bit is set. -/
theorem meets_iff {b mask : UInt16} {k : ℕ} (hmask : mask.toNat = 2 ^ k) :
    b &&& mask ≠ 0 ↔ b.toNat / 2 ^ k % 2 = 1 := by
  have hpos : 0 < 2 ^ k := Nat.two_pow_pos k
  rw [ne_eq, ← UInt16.toNat_inj, UInt16.toNat_and, hmask, Nat.and_two_pow,
    Nat.testBit_eq_decide_div_mod_eq]
  by_cases h : b.toNat / 2 ^ k % 2 = 1 <;> simp [h]

section packing

variable {b lx ly rx ry : UInt16}

/-- A button of the octets that are written. -/
theorem button_hidOctets {i : ℕ} (h : i < 16) :
    usageValue gamepadFields (hidOctets b lx ly rx ry) (button (i + 1)) =
      some (b.toNat / 2 ^ i % 2) := by
  have hb := b.toNat_lt
  have hword : ((hidOctets b lx ly rx ry).octet 1).toNat +
      256 * ((hidOctets b lx ly rx ry).octet 2).toNat = b.toNat := by
    show b.toUInt8.toNat + 256 * (b >>> 8).toUInt8.toNat = b.toNat
    rw [toNat_toUInt8, toNat_toUInt8, UInt16.toNat_shiftRight,
      show (8 : UInt16).toNat % 16 = 8 from rfl, Nat.shiftRight_eq_div_pow]
    omega
  rw [lays_buttons.button (k := 0) (by omega) rfl (by omega) (by omega), hword, Nat.mul_zero,
    Nat.sub_zero]

/-- The sticks of the octets that are written. -/
theorem sticks_hidOctets (hlx : lx.toNat < 4096) (hly : ly.toNat < 4096) (hrx : rx.toNat < 4096)
    (hry : ry.toNat < 4096) :
    usageValue gamepadFields (hidOctets b lx ly rx ry) ⟨0x01, 0x30⟩ = some lx.toNat ∧
      usageValue gamepadFields (hidOctets b lx ly rx ry) ⟨0x01, 0x31⟩ = some ly.toNat ∧
      usageValue gamepadFields (hidOctets b lx ly rx ry) ⟨0x01, 0x32⟩ = some rx.toNat ∧
      usageValue gamepadFields (hidOctets b lx ly rx ry) ⟨0x01, 0x35⟩ = some ry.toNat := by
  refine ⟨?_, ?_, ?_, ?_⟩
  · rw [lays_others.word (f := ⟨1, some ⟨0x01, 0x30⟩, 24, 12, 0, 4095⟩) (k := 3) (j := 0)
      (by decide) rfl rfl (by decide)]
    exact congrArg some (unpack_fst hlx hly)
  · rw [lays_others.word (f := ⟨1, some ⟨0x01, 0x31⟩, 36, 12, 0, 4095⟩) (k := 4) (j := 4)
      (by decide) rfl rfl (by decide)]
    exact congrArg some (unpack_snd hlx hly)
  · rw [lays_others.word (f := ⟨1, some ⟨0x01, 0x32⟩, 48, 12, 0, 4095⟩) (k := 6) (j := 0)
      (by decide) rfl rfl (by decide)]
    exact congrArg some (unpack_fst hrx hry)
  · rw [lays_others.word (f := ⟨1, some ⟨0x01, 0x35⟩, 60, 12, 0, 4095⟩) (k := 7) (j := 4)
      (by decide) rfl rfl (by decide)]
    exact congrArg some (unpack_snd hrx hry)

/-- The hat switch rests. -/
theorem hat_hidOctets :
    usageValue gamepadFields (hidOctets b lx ly rx ry) ⟨0x01, 0x39⟩ = some 8 := by
  rw [lays_others.octet (f := ⟨1, some ⟨0x01, 0x39⟩, 72, 4, 0, 8⟩) (k := 9) (by decide) rfl rfl
    (by decide)]
  show some ((dpadFromButtons b &&& 0x0f).toNat % 2 ^ 4) = some 8
  rw [show dpadFromButtons b = 8 from rfl]
  rfl

/-- The triggers say whether ZL and ZR are held. -/
theorem triggers_hidOctets :
    usageValue gamepadFields (hidOctets b lx ly rx ry) ⟨0x02, 0xc5⟩ =
        some (if b.toNat / 2 ^ 6 % 2 = 1 then 0xff else 0x00) ∧
      usageValue gamepadFields (hidOctets b lx ly rx ry) ⟨0x02, 0xc4⟩ =
        some (if b.toNat / 2 ^ 7 % 2 = 1 then 0xff else 0x00) := by
  have hzl : b &&& ((1 : UInt16) <<< 6) ≠ 0 ↔ b.toNat / 2 ^ 6 % 2 = 1 := meets_iff rfl
  have hzr : b &&& ((1 : UInt16) <<< 7) ≠ 0 ↔ b.toNat / 2 ^ 7 % 2 = 1 := meets_iff rfl
  constructor
  · rw [lays_others.octet (f := ⟨1, some ⟨0x02, 0xc5⟩, 80, 8, 0, 255⟩) (k := 10) (by decide) rfl
      rfl (by decide)]
    show some ((if b &&& ((1 : UInt16) <<< 6) ≠ 0 then 0xff else 0x00 : UInt8).toNat % 2 ^ 8) = _
    simp only [hzl]
    split_ifs <;> rfl
  · rw [lays_others.octet (f := ⟨1, some ⟨0x02, 0xc4⟩, 88, 8, 0, 255⟩) (k := 11) (by decide) rfl
      rfl (by decide)]
    show some ((if b &&& ((1 : UInt16) <<< 7) ≠ 0 then 0xff else 0x00 : UInt8).toNat % 2 ^ 8) = _
    simp only [hzr]
    split_ifs <;> rfl

end packing

/-! ## Nothing is lost -/

/-- Words with the same sixteen bits are equal. -/
theorem eq_of_bits {v w : UInt16} (h : ∀ i < 16, v.toNat / 2 ^ i % 2 = w.toNat / 2 ^ i % 2) :
    v = w := by
  rw [← UInt16.toNat_inj]
  apply Nat.eq_of_testBit_eq
  intro i
  rw [Nat.testBit_eq_decide_div_mod_eq, Nat.testBit_eq_decide_div_mod_eq]
  by_cases hi : i < 16
  · rw [h i hi]
  · have hpow : 2 ^ 16 ≤ 2 ^ i := Nat.pow_le_pow_right (by decide) (by omega)
    rw [Nat.div_eq_of_lt (v.toNat_lt.trans_le hpow), Nat.div_eq_of_lt (w.toNat_lt.trans_le hpow)]

/-- Two reports that are translated into the same report agree. -/
theorem translates_agree {r r' report : Octets} (h : Translates r report)
    (h' : Translates r' report) : Agree r r' where
  buttons := eq_of_bits fun i hi => Option.some.inj ((h.button i hi).symm.trans (h'.button i hi))
  sticks := by
    have hx := Option.some.inj (h.x.symm.trans h'.x)
    have hy := Option.some.inj (h.y.symm.trans h'.y)
    have hz := Option.some.inj (h.z.symm.trans h'.z)
    have hrz := Option.some.inj (h.rz.symm.trans h'.rz)
    simp only [List.mem_cons, List.not_mem_nil, or_false]
    rintro off (rfl | rfl | rfl | rfl)
    · exact hx
    · exact hy
    · exact hz
    · exact hrz

/-- What is written for a report of eleven octets or more. -/
theorem translates_hidOctets {r : Octets} (h : 11 ≤ r.length) :
    Translates r (hidOctets (getLe16 r 1) (stick12At r 3) (stick12At r 5) (stick12At r 7)
      (stick12At r 9)) := by
  have hstick : ∀ off, off + 1 < 11 → (stick12At r off).toNat = (getLe16 r off).toNat % 4096 :=
    fun off hoff => stick12At_toNat (by omega)
  have hlt : ∀ off, off + 1 < 11 → (stick12At r off).toNat < 4096 := by
    intro off hoff
    rw [hstick off hoff]
    exact Nat.mod_lt _ (by decide)
  obtain ⟨hx, hy, hz, hrz⟩ := sticks_hidOctets (b := getLe16 r 1) (hlt 3 (by decide))
    (hlt 5 (by decide)) (hlt 7 (by decide)) (hlt 9 (by decide))
  rw [hstick 3 (by decide)] at hx
  rw [hstick 5 (by decide)] at hy
  rw [hstick 7 (by decide)] at hz
  rw [hstick 9 (by decide)] at hrz
  exact ⟨rfl, reportLen_gamepad.symm, fun i hi => button_hidOctets hi, hx, hy, hz, hrz,
    hat_hidOctets, triggers_hidOctets.1, triggers_hidOctets.2⟩

/-- **Report 0x09 is translated without loss**: of eleven octets or more, into a buffer of thirteen
or more, it becomes thirteen octets that the descriptor unpacks into its buttons and its sticks, and
two reports that become the same octets agree on these. Everything else is refused, and the buffer
left as it was.
Source: `sw2d.c` `report09_to_uhid` -/
theorem report09ToUhid_translates (r out : Octets) :
    (11 ≤ r.length ∧ r.octet 0 = 0x09 ∧ 13 ≤ out.length →
      ∃ report, report09ToUhid r out = (13, report ++ out.drop 13) ∧ Translates r report ∧
        ∀ r' out', report09ToUhid r' out' = (13, report ++ out'.drop 13) → Agree r r') ∧
      (¬(11 ≤ r.length ∧ r.octet 0 = 0x09 ∧ 13 ≤ out.length) →
        report09ToUhid r out = (-1, out)) := by
  constructor
  · rintro ⟨hlen, hid, hout⟩
    have hpass : ¬(r.length < 11 ∨ r.octet 0 ≠ 0x09 ∨ out.length < 13) := by
      rintro (h | h | h)
      · omega
      · exact h hid
      · omega
    refine ⟨_, by rw [report09ToUhid, if_neg hpass], translates_hidOctets hlen, ?_⟩
    intro r' out' hsame
    rw [report09ToUhid] at hsame
    split_ifs at hsame with hrefused
    · cases hsame
    · have hlen' : 11 ≤ r'.length := by
        by_contra h
        exact hrefused (.inl (by omega))
      have hwritten := (Prod.mk.inj hsame).2
      have hequal := List.append_cancel_right hwritten
      refine translates_agree (translates_hidOctets hlen) ?_
      rw [← hequal]
      exact translates_hidOctets hlen'
  · intro h
    rw [report09ToUhid, if_pos]
    by_contra hnot
    simp only [not_or, not_not] at hnot
    exact h ⟨by omega, hnot.2.1, by omega⟩

/-- ZL and ZR held, the left stick up. -/
def zlZrReport : Octets := [0x09, 0xc0, 0x00, 0x00, 0x08, 0xff, 0x0f, 0x00, 0x08, 0x00, 0x08]

theorem report09ToUhid_zlZr :
    (∃ report, report09ToUhid zlZrReport (List.replicate 16 0) =
        (13, report ++ (List.replicate 16 0).drop 13) ∧ Translates zlZrReport report ∧
          ∀ r' out', report09ToUhid r' out' = (13, report ++ out'.drop 13) →
            Agree zlZrReport r') ∧
      report09ToUhid [0x01] (List.replicate 16 0) = (-1, List.replicate 16 0) :=
  ⟨(report09ToUhid_translates zlZrReport (List.replicate 16 0)).1 (by decide),
    (report09ToUhid_translates [0x01] (List.replicate 16 0)).2 (by decide)⟩

end Switch2Bt.Report09
