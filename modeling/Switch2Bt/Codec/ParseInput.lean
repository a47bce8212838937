import Switch2Bt.Codec.ReportCodec

/-!
# The C daemon's decoder (`switch2-bt.c`, input report parser)

`parseInput` is `parse_input`. It reads the octets `decodeReport` reads, with shifts and masks of
its own.

**The two decoders** (`decodersAgree_iff`): they agree exactly on the reports whose stick octets
hide the two differences: the nibbles of the middle octet of a stick are taken the other way
round, and the second and fifth bit of octet 4 carry each other's name.
-/

namespace Switch2Bt

open Octets

/-! ## The decoder -/

/-- What the decoder writes of the controller state.
Source: `switch2-bt.c` `ctrl_t` (decoded input) -/
structure Ctrl where
  buttons : ℕ
  lx : ℕ
  ly : ℕ
  rx : ℕ
  ry : ℕ
  dpad : ℕ
deriving DecidableEq, Repr

/-- The position of the hat switch. -/
def dpadOf (dp : UInt8) : ℕ :=
  if dp = 0x00 then 8
  else if dp = 0x01 then 4
  else if dp = 0x02 then 2
  else if dp = 0x04 then 6
  else if dp = 0x08 then 0
  else if dp = 0x0A then 1
  else if dp = 0x0C then 7
  else if dp = 0x03 then 3
  else if dp = 0x05 then 5
  else 8

/-- Decode a report into the controller state.
Source: `switch2-bt.c` `parse_input` -/
def parseInput (c : Ctrl) (d : Octets) : Ctrl :=
  if d.length < 11 then c
  else {
    buttons := (d.octet 2).toNat ||| ((d.octet 3).toNat <<< 8) ||| ((d.octet 4).toNat <<< 16)
    lx := (((d.octet 5).toNat <<< 4) ||| ((d.octet 6).toNat >>> 4)) &&& 0xFFF
    ly := (((d.octet 7).toNat <<< 4) ||| ((d.octet 6).toNat &&& 0x0F)) &&& 0xFFF
    rx := (((d.octet 8).toNat <<< 4) ||| ((d.octet 9).toNat >>> 4)) &&& 0xFFF
    ry := (((d.octet 10).toNat <<< 4) ||| ((d.octet 9).toNat &&& 0x0F)) &&& 0xFFF
    dpad := dpadOf (d.octet 3 &&& 0x0F) }

/-- The bit of `c->buttons` a name stands for. The names are those of the other decoder: `+` is
`start`, `-` is `back`, the stick buttons are `r3` and `l3`, Capture is `screenshot`.
Source: `switch2-bt.c` `build_hid_report` -/
def hidMask : Button → ℕ
  | .b => 0x00000001
  | .a => 0x00000002
  | .y => 0x00000004
  | .x => 0x00000008
  | .r => 0x00000010
  | .zr => 0x00000020
  | .start => 0x00000040
  | .r3 => 0x00000080
  | .dpadDown => 0x00000100
  | .dpadRight => 0x00000200
  | .dpadLeft => 0x00000400
  | .dpadUp => 0x00000800
  | .l => 0x00001000
  | .zl => 0x00002000
  | .back => 0x00004000
  | .l3 => 0x00008000
  | .home => 0x00010000
  | .screenshot => 0x00020000
  | .gr => 0x00040000
  | .gl => 0x00080000
  | .c => 0x00100000

/-- The buttons held down.
Source: `switch2-bt.c` `build_hid_report` -/
def Ctrl.Pressed (c : Ctrl) (name : Button) : Prop := c.buttons &&& hidMask name ≠ 0

/-! ## Agreement -/

/-- The two decoders read the same sticks and the same buttons in a report. -/
def DecodersAgree (d : Octets) : Prop :=
  ∃ r left right, decodeReport d = some r ∧ r.leftStick = some left ∧ r.rightStick = some right ∧
    ∀ c, (parseInput c d).lx = left.x ∧ (parseInput c d).ly = left.y ∧
      (parseInput c d).rx = right.x ∧ (parseInput c d).ry = right.y ∧
      ∀ name, (parseInput c d).Pressed name ↔ name ∈ r.pressed

/-- The first octet of a stick repeats the middle one, and both nibbles of that are equal. -/
def StickSymmetric (d : Octets) (off : ℕ) : Prop :=
  d.octet off = d.octet (off + 1) ∧
    (d.octet (off + 1)).toNat / 16 = (d.octet (off + 1)).toNat % 16

instance (d : Octets) (off : ℕ) : Decidable (StickSymmetric d off) :=
  inferInstanceAs (Decidable (_ ∧ _))

theorem parseInput_eq (c : Ctrl) {d : Octets} (h : 11 ≤ d.length) :
    parseInput c d = {
      buttons := (d.octet 2).toNat ||| ((d.octet 3).toNat <<< 8) ||| ((d.octet 4).toNat <<< 16)
      lx := 16 * (d.octet 5).toNat + (d.octet 6).toNat / 16
      ly := 16 * (d.octet 7).toNat + (d.octet 6).toNat % 16
      rx := 16 * (d.octet 8).toNat + (d.octet 9).toNat / 16
      ry := 16 * (d.octet 10).toNat + (d.octet 9).toNat % 16
      dpad := dpadOf (d.octet 3 &&& 0x0F) } := by
  unfold parseInput
  rw [if_neg (by omega)]
  simp only [nibbleHi_eq, nibbleLo_eq]

/-- A word put together from three octets. -/
theorem or_word (a b c : UInt8) : a.toNat ||| (b.toNat <<< 8) ||| (c.toNat <<< 16) =
    a.toNat + 256 * b.toNat + 65536 * c.toNat := by
  have ha := a.toNat_lt
  have hb := b.toNat_lt
  rw [Nat.or_comm a.toNat, ← Nat.shiftLeft_add_eq_or_of_lt ha, Nat.or_comm,
    ← Nat.shiftLeft_add_eq_or_of_lt (by rw [Nat.shiftLeft_eq]; omega), Nat.shiftLeft_eq,
    Nat.shiftLeft_eq]
  omega

/-- The octets of a word put together from three. -/
theorem word_shiftRight (a b c : UInt8) :
    UInt8.ofNat ((a.toNat ||| (b.toNat <<< 8) ||| (c.toNat <<< 16)) >>> 0) = a ∧
      UInt8.ofNat ((a.toNat ||| (b.toNat <<< 8) ||| (c.toNat <<< 16)) >>> 8) = b ∧
      UInt8.ofNat ((a.toNat ||| (b.toNat <<< 8) ||| (c.toNat <<< 16)) >>> 16) = c := by
  have ha := a.toNat_lt
  have hb := b.toNat_lt
  have hc := c.toNat_lt
  rw [or_word]
  refine ⟨?_, ?_, ?_⟩
  · rw [← UInt8.toNat_inj, UInt8.toNat_ofNat', Nat.shiftRight_eq_div_pow]
    omega
  · rw [← UInt8.toNat_inj, UInt8.toNat_ofNat', Nat.shiftRight_eq_div_pow]
    omega
  · rw [← UInt8.toNat_inj, UInt8.toNat_ofNat', Nat.shiftRight_eq_div_pow]
    omega

/-- A mask over octet `i` meets the word of the buttons iff it meets the octet. -/
theorem pressed_iff (c : Ctrl) {d : Octets} (h : 11 ≤ d.length) {name : Button} {i : ℕ}
    {m : UInt8} (hi : i < 3) (hm : hidMask name = m.toNat <<< (8 * i)) :
    (parseInput c d).Pressed name ↔ d.octet (i + 2) &&& m ≠ 0 := by
  unfold Ctrl.Pressed
  rw [parseInput_eq c h, hm, shiftLeft_meets]
  obtain ⟨h0, h1, h2⟩ := word_shiftRight (d.octet 2) (d.octet 3) (d.octet 4)
  rcases (show i = 0 ∨ i = 1 ∨ i = 2 by omega) with rfl | rfl | rfl
  · rw [h0]
  · rw [h1]
  · rw [h2]

/-- All names but two stand for the same bit in both decoders. -/
theorem hidMask_buttonMap : ∀ e ∈ buttonMap, e.1 ≠ .c → e.1 ≠ .screenshot →
    e.2.1 - 2 < 3 ∧ hidMask e.1 = e.2.2.toNat <<< (8 * (e.2.1 - 2)) := by decide

theorem mem_buttonMap (name : Button) : ∃ e ∈ buttonMap, e.1 = name := by
  cases name <;> decide +kernel

/-- The names agree iff the two swapped bits are equal. -/
theorem pressed_agree_iff (c : Ctrl) {d : Octets} (h : 11 ≤ d.length) :
    (∀ name, (parseInput c d).Pressed name ↔ name ∈ pressedButtons d) ↔
      (d.octet 4 &&& 0x02 ≠ 0 ↔ d.octet 4 &&& 0x10 ≠ 0) := by
  have hc : (parseInput c d).Pressed .c ↔ d.octet 4 &&& 0x10 ≠ 0 :=
    pressed_iff c h (i := 2) (by omega) (by decide)
  have hcap : (parseInput c d).Pressed .screenshot ↔ d.octet 4 &&& 0x02 ≠ 0 :=
    pressed_iff c h (i := 2) (by omega) (by decide)
  have hpc : Button.c ∈ pressedButtons d ↔ d.octet 4 &&& 0x02 ≠ 0 := by
    have := mem_pressedButtons d (show (Button.c, 4, (0x02 : UInt8)) ∈ buttonMap by decide)
    rw [this]
    exact and_iff_right (show 4 < d.length by omega)
  have hpcap : Button.screenshot ∈ pressedButtons d ↔ d.octet 4 &&& 0x10 ≠ 0 := by
    have := mem_pressedButtons d (show (Button.screenshot, 4, (0x10 : UInt8)) ∈ buttonMap by decide)
    rw [this]
    exact and_iff_right (show 4 < d.length by omega)
  constructor
  · intro hall
    exact (hpc.symm.trans (hall .c).symm).trans hc
  · intro hswap name
    by_cases h1 : name = .c
    · rw [h1, hc, hpc]
      exact hswap.symm
    by_cases h2 : name = .screenshot
    · rw [h2, hcap, hpcap]
      exact hswap
    obtain ⟨e, he, rfl⟩ := mem_buttonMap name
    obtain ⟨hi, hm⟩ := hidMask_buttonMap e he h1 h2
    have hidx := buttonMap_index e he
    rw [pressed_iff c h hi hm, mem_pressedButtons d he, Nat.sub_add_cancel hidx.1,
      and_iff_right (by omega)]

/-- The two readings of a stick are equal iff the stick is symmetric. -/
theorem stick_agree_iff {d : Octets} {off : ℕ} :
    16 * (d.octet off).toNat + (d.octet (off + 1)).toNat / 16 =
        (d.octet off).toNat + 256 * ((d.octet (off + 1)).toNat % 16) ∧
      16 * (d.octet (off + 2)).toNat + (d.octet (off + 1)).toNat % 16 =
        (d.octet (off + 1)).toNat / 16 + 16 * (d.octet (off + 2)).toNat ↔
    StickSymmetric d off := by
  unfold StickSymmetric
  rw [← UInt8.toNat_inj]
  omega

/-- **The two decoders** agree on a report iff both sticks are symmetric and the two bits of
octet 4 whose names are swapped are equal. -/
theorem decodersAgree_iff {d : Octets} (h : 11 ≤ d.length) :
    DecodersAgree d ↔ StickSymmetric d 5 ∧ StickSymmetric d 8 ∧
      (d.octet 4 &&& 0x02 ≠ 0 ↔ d.octet 4 &&& 0x10 ≠ 0) := by
  have hl := decodeStick12_eq (show 5 + 3 ≤ d.length by omega)
  have hr := decodeStick12_eq (show 8 + 3 ≤ d.length by omega)
  unfold DecodersAgree
  rw [decodeReport_eq h, ← stick_agree_iff, ← stick_agree_iff]
  constructor
  · rintro ⟨r, left, right, hdec, hleft, hright, hall⟩
    cases hdec
    rw [hl, Option.some.injEq] at hleft
    rw [hr, Option.some.injEq] at hright
    subst hleft hright
    obtain ⟨hlx, hly, hrx, hry, hname⟩ := hall ⟨0, 0, 0, 0, 0, 0⟩
    have hswap := (pressed_agree_iff _ h).mp hname
    rw [parseInput_eq _ h] at hlx hly hrx hry
    exact ⟨⟨hlx, hly⟩, ⟨hrx, hry⟩, hswap⟩
  · rintro ⟨⟨hlx, hly⟩, ⟨hrx, hry⟩, hswap⟩
    refine ⟨_, _, _, rfl, hl, hr, ?_⟩
    intro c
    have hname := (pressed_agree_iff c h).mpr hswap
    rw [parseInput_eq c h] at hname ⊢
    exact ⟨hlx, hly, hrx, hry, hname⟩

/-- A report at rest whose octet 4 has neither swapped bit, and whose sticks are symmetric. -/
theorem decodersAgree_symmetric :
    DecodersAgree [0, 0, 0x01, 0, 0x01, 0x77, 0x77, 0x80, 0x88, 0x88, 0x80] :=
  (decodersAgree_iff (by decide)).mpr (by decide)

/-- The left stick at `(2048, 2048)`: the C decoder reads `(0, 2056)`. -/
theorem not_decodersAgree :
    (decodeReport [0, 0, 0, 0, 0, 0x00, 0x08, 0x80, 0x00, 0x08, 0x80]).bind
        (fun r => r.leftStick.map Stick.raw) = some (2048, 2048) ∧
      parseInput ⟨0, 0, 0, 0, 0, 8⟩ [0, 0, 0, 0, 0, 0x00, 0x08, 0x80, 0x00, 0x08, 0x80] =
        ⟨0, 0, 2056, 0, 2056, 8⟩ ∧
      ¬DecodersAgree [0, 0, 0, 0, 0, 0x00, 0x08, 0x80, 0x00, 0x08, 0x80] := by
  refine ⟨by decide +kernel, by decide, ?_⟩
  rw [decodersAgree_iff (by decide)]
  decide

end Switch2Bt
