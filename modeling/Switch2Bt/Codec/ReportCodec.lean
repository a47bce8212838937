import Switch2Bt.Codec.Report

/-!
# The report codec is exact

Encoding then decoding returns the encoded fields (`decodeReport_buildReport`), octets after the
decoded ones do not matter (`decodeReport_append_short`, `decodeReport_append_long`), and decoding
loses nothing but the high bits of octet 4 and what it does not read
(`sameReport_of_decodeReport`). `reportCodec` puts the parts together.
-/

namespace Switch2Bt

open Octets

/-! ## Reading positions -/

/-- The octets of a slice are the octets of the string. -/
theorem slice_octet (data : Octets) (a b : ℕ) {i : ℕ} (h : i < b - a) :
    (data.slice a b).octet i = data.octet (a + i) := by
  simp [slice, octet, List.getD, h, List.getElem?_drop]

/-- A prefix keeps its octets. -/
theorem octet_append {d : Octets} (e : Octets) {i : ℕ} (h : i < d.length) :
    octet (d ++ e) i = octet d i := by
  simp [octet, List.getD, List.getElem?_append_left h]

/-- A prefix keeps its slices. -/
theorem slice_append {d : Octets} (e : Octets) {a b : ℕ} (h : b ≤ d.length) :
    slice (d ++ e) a b = slice d a b := by
  unfold slice
  by_cases hab : a ≤ b
  · rw [List.drop_append_of_le_length (by omega),
      List.take_append_of_le_length (by rw [List.length_drop]; omega)]
  · rw [Nat.sub_eq_zero_of_le (by omega), List.take_zero, List.take_zero]

/-- The length of a slice inside the string. -/
theorem slice_length {d : Octets} {a b : ℕ} (hab : a ≤ b) (h : b ≤ d.length) :
    (slice d a b).length = b - a := by
  simp only [slice, List.length_take, List.length_drop]
  omega

/-- The stick of three octets inside the string, in arithmetic. -/
theorem decodeStick12_eq {data : Octets} {off : ℕ} (h : off + 3 ≤ data.length) :
    decodeStick12 data off = some (Stick.ofRaw
      ((data.octet off).toNat + 256 * ((data.octet (off + 1)).toNat % 16))
      ((data.octet (off + 1)).toNat / 16 + 16 * (data.octet (off + 2)).toNat)) := by
  have h0 := slice_octet data off (off + 3) (show 0 < off + 3 - off by omega)
  have h1 := slice_octet data off (off + 3) (show 1 < off + 3 - off by omega)
  have h2 := slice_octet data off (off + 3) (show 2 < off + 3 - off by omega)
  rw [decodeStick12, if_neg (by omega)]
  simp only [h0, h1, h2, pair12_fst, pair12_snd, Nat.add_zero]

/-- A word inside the string. -/
theorem s16_eq {data : Octets} {off : ℕ} (h : off + 2 ≤ data.length) :
    s16 data off = some (data.slice off (off + 2)).leInt := by
  rw [s16, if_neg (by omega)]

/-- The decoder reads a string of at least 11 octets. -/
theorem decodeReport_eq {data : Octets} (h : 11 ≤ data.length) :
    decodeReport data = some {
      packetId := (data.slice 0 2).leNat
      pressed := pressedButtons data
      leftStick := decodeStick12 data 5
      rightStick := decodeStick12 data 8
      accel := if 0x3C ≤ data.length then
        some ⟨s16 data 0x30, s16 data 0x32, s16 data 0x34⟩ else none
      gyro := if 0x3C ≤ data.length then
        some ⟨s16 data 0x36, s16 data 0x38, s16 data 0x3A⟩ else none } := by
  rw [decodeReport, if_neg (by omega), if_pos (by omega)]

/-- `decode_report` returns `None` exactly on strings shorter than 11 octets. -/
theorem decodeReport_eq_none_iff (data : Octets) : decodeReport data = none ↔ data.length < 11 := by
  by_cases h : data.length < 11
  · simp [decodeReport, h]
  · simp [decodeReport_eq (Nat.le_of_not_lt h), h]

/-! ## What follows the decoded octets does not matter -/

/-- Every entry of the button map reads one of the octets 2 to 4. -/
theorem buttonMap_index : ∀ e ∈ buttonMap, 2 ≤ e.2.1 ∧ e.2.1 ≤ 4 := by decide

theorem pressedButtons_append {d : Octets} (e : Octets) (h : 11 ≤ d.length) :
    pressedButtons (d ++ e) = pressedButtons d := by
  unfold pressedButtons
  congr 1
  refine List.filter_congr fun b hb => ?_
  have hi := (buttonMap_index b hb).2
  rw [octet_append e (by omega), List.length_append]
  simp [show b.2.1 < d.length + e.length by omega, show b.2.1 < d.length by omega]

theorem decodeStick12_append {d : Octets} (e : Octets) {off : ℕ} (h : off + 3 ≤ d.length) :
    decodeStick12 (d ++ e) off = decodeStick12 d off := by
  rw [decodeStick12_eq (by rw [List.length_append]; omega), decodeStick12_eq h,
    octet_append e (by omega), octet_append e (by omega), octet_append e (by omega)]

theorem s16_append {d : Octets} (e : Octets) {off : ℕ} (h : off + 2 ≤ d.length) :
    s16 (d ++ e) off = s16 d off := by
  rw [s16_eq (by rw [List.length_append]; omega), s16_eq h, slice_append e h]

/-- Appending to a string without changing whether it reaches `0x3C` octets changes nothing but
the motion words. -/
theorem decodeReport_append_short {d e : Octets} (hd : d.length = 11) (he : e.length < 0x31) :
    decodeReport (d ++ e) = decodeReport d := by
  have hl : (d ++ e).length < 0x3C := by rw [List.length_append]; omega
  rw [decodeReport_eq (by rw [List.length_append]; omega), decodeReport_eq (by omega),
    if_neg (by omega), if_neg (by omega), if_neg (by omega), if_neg (by omega),
    slice_append e (by omega), pressedButtons_append e (by omega),
    decodeStick12_append e (by omega), decodeStick12_append e (by omega)]

theorem decodeReport_append_long {d : Octets} (e : Octets) (hd : d.length = 0x3C) :
    decodeReport (d ++ e) = decodeReport d := by
  have hl : 0x3C ≤ (d ++ e).length := by rw [List.length_append]; omega
  rw [decodeReport_eq (by omega), decodeReport_eq (by omega),
    if_pos hl, if_pos hl, if_pos (by omega), if_pos (by omega),
    slice_append e (by omega), pressedButtons_append e (by omega),
    decodeStick12_append e (by omega), decodeStick12_append e (by omega),
    s16_append e (by omega), s16_append e (by omega), s16_append e (by omega),
    s16_append e (by omega), s16_append e (by omega), s16_append e (by omega)]

/-! ## Buttons -/

/-- Adding a name's mask is a union with what the name contributes to the octet. -/
theorem orMask_eq_or (idx : ℕ) (acc : UInt8) (name : Button) :
    orMask idx acc name = acc ||| orMask idx 0 name := by
  unfold orMask
  split
  · split <;> simp
  · simp

/-- A mask of the button map meets what a name contributes to its octet iff the name is its
own. -/
theorem orMask_zero_meets (name : Button) : ∀ e ∈ buttonMap,
    (orMask e.2.1 0 name &&& e.2.2 ≠ 0 ↔ e.1 = name) := by
  cases name <;> decide

/-- The octet built for a set of names meets exactly the masks of these names. -/
theorem buttonsFor_meets (names : List Button) {e : Button × ℕ × UInt8} (he : e ∈ buttonMap) :
    buttonsFor names e.2.1 &&& e.2.2 ≠ 0 ↔ e.1 ∈ names := by
  have hgen : ∀ acc : UInt8,
      names.foldl (orMask e.2.1) acc &&& e.2.2 ≠ 0 ↔ acc &&& e.2.2 ≠ 0 ∨ e.1 ∈ names := by
    induction names with
    | nil => simp
    | cons name names ih =>
        intro acc
        rw [List.foldl_cons, ih, List.mem_cons, ← or_assoc, orMask_eq_or, or_and_ne_zero,
          orMask_zero_meets name e he]
  have h0 := hgen 0
  rw [UInt8.zero_and] at h0
  simpa [buttonsFor] using h0

/-- A name stands once in the button map. -/
theorem buttonMap_name_inj : ∀ e ∈ buttonMap, ∀ e' ∈ buttonMap, e.1 = e'.1 → e = e' := by decide

/-- A button is decoded as pressed iff its mask meets its octet. -/
theorem mem_pressedButtons (data : Octets) {e : Button × ℕ × UInt8} (he : e ∈ buttonMap) :
    e.1 ∈ pressedButtons data ↔ e.2.1 < data.length ∧ data.octet e.2.1 &&& e.2.2 ≠ 0 := by
  simp only [pressedButtons, List.mem_map, List.mem_filter, Bool.and_eq_true, decide_eq_true_eq,
    bne_iff_ne]
  constructor
  · rintro ⟨e', ⟨hmem, hmeet⟩, hname⟩
    rwa [← buttonMap_name_inj e' hmem e he hname]
  · intro h
    exact ⟨e, ⟨he, h⟩, rfl⟩

/-- Two reports with the same buttons meet the same masks. -/
theorem meets_iff_of_pressedButtons_eq {a b : Octets} (ha : 11 ≤ a.length) (hb : 11 ≤ b.length)
    (h : pressedButtons a = pressedButtons b) {e : Button × ℕ × UInt8} (he : e ∈ buttonMap) :
    a.octet e.2.1 &&& e.2.2 ≠ 0 ↔ b.octet e.2.1 &&& e.2.2 ≠ 0 := by
  have hi := (buttonMap_index e he).2
  have hab := mem_pressedButtons a he
  rw [h, mem_pressedButtons b he] at hab
  simpa [show e.2.1 < a.length by omega, show e.2.1 < b.length by omega] using hab.symm

/-- Octets 2 and 3 are determined by the buttons. -/
theorem octet_eq_of_pressedButtons_eq {a b : Octets} (ha : 11 ≤ a.length) (hb : 11 ≤ b.length)
    (h : pressedButtons a = pressedButtons b) {i : ℕ} (hi : i = 2 ∨ i = 3) :
    a.octet i = b.octet i := by
  have hmask : ∀ m ∈ bitMasks, ∃ n, (n, i, m) ∈ buttonMap := by
    rcases hi with rfl | rfl
    · intro m hm
      have : ∀ m ∈ bitMasks, ∃ e ∈ buttonMap, e.2 = (2, m) := by decide +kernel
      obtain ⟨⟨n, _⟩, he, rfl⟩ := this m hm
      exact ⟨n, he⟩
    · intro m hm
      have : ∀ m ∈ bitMasks, ∃ e ∈ buttonMap, e.2 = (3, m) := by decide +kernel
      obtain ⟨⟨n, _⟩, he, rfl⟩ := this m hm
      exact ⟨n, he⟩
  rw [eq_foldl_bitMasks (a.octet i), eq_foldl_bitMasks (b.octet i)]
  refine List.foldl_ext _ _ 0 fun acc m hm => ?_
  obtain ⟨n, he⟩ := hmask m hm
  simp only [meets_iff_of_pressedButtons_eq ha hb h he]

/-- The low five bits of octet 4 are determined by the buttons. -/
theorem octet_four_of_pressedButtons_eq {a b : Octets} (ha : 11 ≤ a.length) (hb : 11 ≤ b.length)
    (h : pressedButtons a = pressedButtons b) : a.octet 4 &&& 0x1F = b.octet 4 &&& 0x1F := by
  have hmask : ∀ m ∈ bitMasks.take 5, ∃ e ∈ buttonMap, e.2 = (4, m) := by decide +kernel
  rw [and_1F_eq_foldl_bitMasks, and_1F_eq_foldl_bitMasks]
  refine List.foldl_ext _ _ 0 fun acc m hm => ?_
  obtain ⟨⟨n, _⟩, he, rfl⟩ := hmask m hm
  simp only [meets_iff_of_pressedButtons_eq ha hb h he]

/-! ## Encoding -/

/-- The three octets of a packed stick, in arithmetic. -/
theorem packStick_eq {s : ℕ × ℕ} (hx : s.1 < 4096) (hy : s.2 < 4096) :
    packStick s = [UInt8.ofNat (s.1 % 256), UInt8.ofNat (16 * (s.2 % 16) + s.1 / 256),
      UInt8.ofNat (s.2 / 16)] := by
  have hF : ∀ n : ℕ, n &&& 0x0F = n % 16 := fun n => Nat.and_two_pow_sub_one_eq_mod n 4
  have hFF : ∀ n : ℕ, n &&& 0xFF = n % 256 := fun n => Nat.and_two_pow_sub_one_eq_mod n 8
  have hmid : ((s.2 &&& 0x0F) <<< 4) ||| ((s.1 >>> 8) &&& 0x0F) = 16 * (s.2 % 16) + s.1 / 256 := by
    rw [hF, hF, Nat.shiftRight_eq_div_pow, ← Nat.shiftLeft_add_eq_or_of_lt (by omega),
      Nat.shiftLeft_eq]
    omega
  have hhi : (s.2 >>> 4) &&& 0xFF = s.2 / 16 := by
    rw [hFF, Nat.shiftRight_eq_div_pow]
    omega
  rw [packStick, hmid, hhi, hFF]

/-- A stick packed at its offset is decoded as it was. -/
theorem decodeStick12_pack {data : Octets} (pre post : Octets) {s : ℕ × ℕ} (hx : s.1 < 4096)
    (hy : s.2 < 4096) (hdata : data = pre ++ packStick s ++ post) :
    decodeStick12 data pre.length = some (Stick.ofRaw s.1 s.2) := by
  have hlen : pre.length + 3 ≤ data.length := by
    rw [hdata, packStick]
    simp
  have hget : ∀ i < 3, data.octet (pre.length + i) = (packStick s).octet i := by
    intro i hi
    rw [hdata, List.append_assoc, octet, List.getD_append_right _ _ _ _ (by omega),
      Nat.add_sub_cancel_left, ← octet, octet_append post (by simpa [packStick] using hi)]
  have h0 := hget 0 (by omega)
  have h1 := hget 1 (by omega)
  have h2 := hget 2 (by omega)
  rw [packStick_eq hx hy] at h0 h1 h2
  simp only [octet, List.getD_cons_zero, List.getD_cons_succ, Nat.add_zero] at h0 h1 h2
  rw [decodeStick12_eq hlen]
  simp only [octet, h0, h1, h2]
  have e0 : (UInt8.ofNat (s.1 % 256)).toNat = s.1 % 256 := by
    rw [UInt8.toNat_ofNat', Nat.mod_eq_of_lt (by omega)]
  have e1 : (UInt8.ofNat (16 * (s.2 % 16) + s.1 / 256)).toNat = 16 * (s.2 % 16) + s.1 / 256 := by
    rw [UInt8.toNat_ofNat', Nat.mod_eq_of_lt (by omega)]
  have e2 : (UInt8.ofNat (s.2 / 16)).toNat = s.2 / 16 := by
    rw [UInt8.toNat_ofNat', Nat.mod_eq_of_lt (by omega)]
  rw [e0, e1, e2]
  congr 2 <;> omega

/-- A word written at its offset is decoded as it was. -/
theorem s16_pack {data : Octets} (pre post : Octets) {n : ℤ} (hn : -32768 ≤ n ∧ n < 32768)
    (hdata : data = pre ++ leIntBytes n 2 ++ post) : s16 data pre.length = some n := by
  have hlen : pre.length + 2 ≤ data.length := by
    rw [hdata]
    simp
  have hslice : data.slice pre.length (pre.length + 2) = leIntBytes n 2 := by
    rw [hdata, List.append_assoc, slice, List.drop_left, Nat.add_sub_cancel_left,
      List.take_append_of_le_length (by simp), List.take_of_length_le (by simp)]
  have hlo : -256 ^ 2 ≤ 2 * n := by omega
  have hhi : 2 * n < 256 ^ 2 := by omega
  rw [s16_eq hlen, hslice, leInt_leIntBytes hlo hhi]

/-- The motion values fit their words. -/
def Motion.InRange (m : Motion) : Prop :=
  ∀ v ∈ [m.accel.1, m.accel.2.1, m.accel.2.2, m.gyro.1, m.gyro.2.1, m.gyro.2.2],
    -32768 ≤ v ∧ v < 32768

/-- The words of a sensor. -/
def Axes.ofValues (v : ℤ × ℤ × ℤ) : Axes := ⟨some v.1, some v.2.1, some v.2.2⟩

/-- The report of the given fields. -/
def Report.ofFields (names : List Button) (left right : ℕ × ℕ) (packetId : ℕ)
    (motion : Option Motion) : Report where
  packetId := packetId
  pressed := (buttonMap.map (·.1)).filter (· ∈ names)
  leftStick := some (Stick.ofRaw left.1 left.2)
  rightStick := some (Stick.ofRaw right.1 right.2)
  accel := motion.map fun m => Axes.ofValues m.accel
  gyro := motion.map fun m => Axes.ofValues m.gyro

/-- The buttons of a built report. -/
theorem pressedButtons_buildReport (names : List Button) (left right : ℕ × ℕ) (packetId : ℕ)
    (motion : Option Motion) :
    pressedButtons (buildReport names left right packetId motion) =
      (buttonMap.map (·.1)).filter (· ∈ names) := by
  rw [pressedButtons, List.filter_map]
  congr 1
  refine List.filter_congr fun e he => ?_
  have hlen : 5 ≤ (buildReport names left right packetId motion).length := by
    simp [buildReport]
    omega
  have hoct : (buildReport names left right packetId motion).octet e.2.1 =
      buttonsFor names e.2.1 := by
    have hi := buttonMap_index e he
    obtain hi | hi | hi : e.2.1 = 2 ∨ e.2.1 = 3 ∨ e.2.1 = 4 := by omega
    all_goals rw [hi]; rfl
  have hi := (buttonMap_index e he).2
  have hm := buttonsFor_meets names he
  rw [hoct]
  simp only [Function.comp_apply, show e.2.1 < (buildReport names left right packetId motion).length
    by omega, decide_true, Bool.true_and, ← hm, ne_eq, decide_not, bne]
  rfl

/-- **Encode, then decode.** The fields of a built report are decoded as they were. -/
theorem decodeReport_buildReport {names : List Button} {left right : ℕ × ℕ} {packetId : ℕ}
    {motion : Option Motion} (hp : packetId < 2 ^ 16) (hl : left.1 < 4096 ∧ left.2 < 4096)
    (hr : right.1 < 4096 ∧ right.2 < 4096) (hm : ∀ m ∈ motion, m.InRange) :
    decodeReport (buildReport names left right packetId motion) =
      some (Report.ofFields names left right packetId motion) := by
  set data := buildReport names left right packetId motion with hdata
  let head := leBytes packetId 2 ++ [buttonsFor names 2, buttonsFor names 3, buttonsFor names 4]
  have hlen : 11 ≤ data.length := by
    rw [hdata]
    simp [buildReport, packStick]
    omega
  have hid : (data.slice 0 2).leNat = packetId := by
    have hs : data.slice 0 2 = leBytes packetId 2 := rfl
    rw [hs, leNat_leBytes]
    exact Nat.mod_eq_of_lt (by omega)
  have hleft : decodeStick12 data 5 = some (Stick.ofRaw left.1 left.2) :=
    decodeStick12_pack head (packStick right ++ packMotion motion) hl.1 hl.2 (by
      rw [hdata, buildReport, List.append_assoc])
  have hright : decodeStick12 data 8 = some (Stick.ofRaw right.1 right.2) :=
    decodeStick12_pack (head ++ packStick left) (packMotion motion) hr.1 hr.2 hdata
  rw [decodeReport_eq hlen, hid, hleft, hright, pressedButtons_buildReport]
  cases motion with
  | none => rfl
  | some m =>
      obtain ⟨⟨ax, ay, az⟩, gx, gy, gz⟩ := m
      have hrange := hm _ rfl
      simp only [Motion.InRange, List.mem_cons, List.not_mem_nil, or_false, forall_eq_or_imp,
        forall_eq] at hrange
      obtain ⟨hax, hay, haz, hgx, hgy, hgz⟩ := hrange
      let fixed := head ++ packStick left ++ packStick right ++ List.replicate 37 0
      have hwords : data = fixed ++ leIntBytes ax 2 ++ leIntBytes ay 2 ++ leIntBytes az 2 ++
          leIntBytes gx 2 ++ leIntBytes gy 2 ++ leIntBytes gz 2 := by
        simp only [hdata, fixed, head, buildReport, packMotion, packAxes, List.append_assoc]
      have h30 : s16 data 0x30 = some ax :=
        s16_pack fixed (leIntBytes ay 2 ++ leIntBytes az 2 ++ leIntBytes gx 2 ++
          leIntBytes gy 2 ++ leIntBytes gz 2) hax (by simp only [hwords, List.append_assoc])
      have h32 : s16 data 0x32 = some ay :=
        s16_pack (fixed ++ leIntBytes ax 2) (leIntBytes az 2 ++ leIntBytes gx 2 ++
          leIntBytes gy 2 ++ leIntBytes gz 2) hay (by simp only [hwords, List.append_assoc])
      have h34 : s16 data 0x34 = some az :=
        s16_pack (fixed ++ leIntBytes ax 2 ++ leIntBytes ay 2) (leIntBytes gx 2 ++
          leIntBytes gy 2 ++ leIntBytes gz 2) haz (by simp only [hwords, List.append_assoc])
      have h36 : s16 data 0x36 = some gx :=
        s16_pack (fixed ++ leIntBytes ax 2 ++ leIntBytes ay 2 ++ leIntBytes az 2)
          (leIntBytes gy 2 ++ leIntBytes gz 2) hgx (by simp only [hwords, List.append_assoc])
      have h38 : s16 data 0x38 = some gy :=
        s16_pack (fixed ++ leIntBytes ax 2 ++ leIntBytes ay 2 ++ leIntBytes az 2 ++
          leIntBytes gx 2) (leIntBytes gz 2) hgy hwords
      have h3A : s16 data 0x3A = some gz :=
        s16_pack (fixed ++ leIntBytes ax 2 ++ leIntBytes ay 2 ++ leIntBytes az 2 ++
          leIntBytes gx 2 ++ leIntBytes gy 2) [] hgz (by rw [hwords, List.append_nil])
      have hlong : 0x3C ≤ data.length := by
        rw [hwords]
        simp [fixed, head, packStick]
      rw [if_pos hlong, if_pos hlong, h30, h32, h34, h36, h38, h3A]
      rfl

/-! ## Decoding loses nothing -/

/-- Two slices with the same octets: the strings agree there. -/
theorem octet_eq_of_slice_eq {a b : Octets} {lo hi : ℕ} (h : a.slice lo hi = b.slice lo hi) {i : ℕ}
    (hlo : lo ≤ i) (hhi : i < hi) : a.octet i = b.octet i := by
  have ha := slice_octet a lo hi (show i - lo < hi - lo by omega)
  have hb := slice_octet b lo hi (show i - lo < hi - lo by omega)
  rw [Nat.add_sub_cancel' hlo] at ha hb
  rw [← ha, ← hb, h]

/-- A decoded stick determines its three octets. -/
theorem octet_eq_of_decodeStick12_eq {a b : Octets} {off : ℕ} (ha : off + 3 ≤ a.length)
    (hb : off + 3 ≤ b.length)
    (h : (decodeStick12 a off).map Stick.raw = (decodeStick12 b off).map Stick.raw) {i : ℕ}
    (hlo : off ≤ i) (hhi : i < off + 3) : a.octet i = b.octet i := by
  rw [decodeStick12_eq ha, decodeStick12_eq hb] at h
  simp only [Option.map_some, Stick.raw, Stick.ofRaw, Option.some.injEq, Prod.mk.injEq] at h
  have hA := fun j => (a.octet j).toNat_lt
  have hB := fun j => (b.octet j).toNat_lt
  have a0 := hA off
  have b0 := hB off
  have a1 := hA (off + 1)
  have b1 := hB (off + 1)
  obtain rfl | rfl | rfl : i = off ∨ i = off + 1 ∨ i = off + 2 := by omega
  all_goals exact UInt8.toNat_inj.mp (by omega)

/-- A decoded word determines its two octets. -/
theorem octet_eq_of_s16_eq {a b : Octets} {off : ℕ} (ha : off + 2 ≤ a.length)
    (hb : off + 2 ≤ b.length) (h : s16 a off = s16 b off) {i : ℕ} (hlo : off ≤ i)
    (hhi : i < off + 2) : a.octet i = b.octet i := by
  rw [s16_eq ha, s16_eq hb, Option.some.injEq] at h
  refine octet_eq_of_slice_eq (leInt_inj ?_ h) hlo hhi
  rw [slice_length (by omega) ha, slice_length (by omega) hb]

/-- Three decoded words determine their six octets. -/
theorem octet_eq_of_axes_eq {a b : Octets} {off : ℕ} (ha : off + 6 ≤ a.length)
    (hb : off + 6 ≤ b.length)
    (h : (⟨s16 a off, s16 a (off + 2), s16 a (off + 4)⟩ : Axes) =
      ⟨s16 b off, s16 b (off + 2), s16 b (off + 4)⟩) {i : ℕ} (hlo : off ≤ i)
    (hhi : i < off + 6) : a.octet i = b.octet i := by
  rw [Axes.mk.injEq] at h
  obtain ⟨hx, hy, hz⟩ := h
  by_cases h2 : i < off + 2
  · exact octet_eq_of_s16_eq (by omega) (by omega) hx hlo h2
  · by_cases h4 : i < off + 4
    · exact octet_eq_of_s16_eq (by omega) (by omega) hy (by omega) (by omega)
    · exact octet_eq_of_s16_eq (by omega) (by omega) hz (by omega) (by omega)

/-- The octets two reports share when their decoded fields agree. -/
structure SameReport (a b : Octets) : Prop where
  head : ∀ i < 4, a.octet i = b.octet i
  system : a.octet 4 &&& 0x1F = b.octet 4 &&& 0x1F
  sticks : ∀ i, 5 ≤ i → i ≤ 10 → a.octet i = b.octet i

/-- **Decoding loses nothing**: equal fields come from equal octets. -/
theorem sameReport_of_decodeReport {a b : Octets} {ra rb : Report} (ha : decodeReport a = some ra)
    (hb : decodeReport b = some rb) (hid : ra.packetId = rb.packetId)
    (hpr : ra.pressed = rb.pressed)
    (hleft : ra.leftStick.map Stick.raw = rb.leftStick.map Stick.raw)
    (hright : ra.rightStick.map Stick.raw = rb.rightStick.map Stick.raw) : SameReport a b := by
  have hal : 11 ≤ a.length := by
    by_contra hc
    rw [(decodeReport_eq_none_iff a).mpr (by omega)] at ha
    cases ha
  have hbl : 11 ≤ b.length := by
    by_contra hc
    rw [(decodeReport_eq_none_iff b).mpr (by omega)] at hb
    cases hb
  rw [decodeReport_eq hal, Option.some.injEq] at ha
  rw [decodeReport_eq hbl, Option.some.injEq] at hb
  subst ha hb
  have hword : a.slice 0 2 = b.slice 0 2 := by
    refine leNat_inj ?_ hid
    rw [slice_length (by omega) (by omega), slice_length (by omega) (by omega)]
  refine ⟨fun i hi => ?_, octet_four_of_pressedButtons_eq hal hbl hpr, fun i h5 h10 => ?_⟩
  · by_cases h2 : i < 2
    · exact octet_eq_of_slice_eq hword (Nat.zero_le i) h2
    · exact octet_eq_of_pressedButtons_eq hal hbl hpr (by omega)
  · by_cases h8 : i < 8
    · exact octet_eq_of_decodeStick12_eq (by omega) (by omega) hleft h5 h8
    · exact octet_eq_of_decodeStick12_eq (by omega) (by omega) hright (by omega) (by omega)

/-- Long reports with equal motion values agree on the motion octets. -/
theorem motion_octet_eq_of_decodeReport {a b : Octets} {ra rb : Report}
    (ha : decodeReport a = some ra) (hb : decodeReport b = some rb) (hal : 0x3C ≤ a.length)
    (hbl : 0x3C ≤ b.length) (hacc : ra.accel = rb.accel) (hgyr : ra.gyro = rb.gyro) {i : ℕ}
    (hlo : 0x30 ≤ i) (hhi : i ≤ 0x3B) : a.octet i = b.octet i := by
  rw [decodeReport_eq (by omega), Option.some.injEq] at ha hb
  subst ha hb
  simp only [hal, hbl, if_true, Option.some.injEq] at hacc hgyr
  by_cases h36 : i < 0x36
  · exact octet_eq_of_axes_eq (by omega) (by omega) hacc hlo (by omega)
  · exact octet_eq_of_axes_eq (by omega) (by omega) hgyr (by omega) (by omega)

/-! ## The codec -/

/-- **The report codec**: encoding is inverted by decoding, trailing octets do not matter, short
strings are rejected, and decoding is injective on what it reads.
Source: `switch2d.py` `decode_report`, `tests/test_report_decode.py` `build_report` -/
theorem reportCodec :
    (∀ (names : List Button) (left right : ℕ × ℕ) (packetId : ℕ) (motion : Option Motion),
      packetId < 2 ^ 16 → left.1 < 4096 ∧ left.2 < 4096 → right.1 < 4096 ∧ right.2 < 4096 →
      (∀ m ∈ motion, m.InRange) →
        decodeReport (buildReport names left right packetId motion) =
          some (Report.ofFields names left right packetId motion)) ∧
    (∀ d e : Octets, d.length = 0x3C → decodeReport (d ++ e) = decodeReport d) ∧
    (∀ d e : Octets, d.length = 11 → e.length < 0x31 → decodeReport (d ++ e) = decodeReport d) ∧
    (∀ data : Octets, decodeReport data = none ↔ data.length < 11) ∧
    (∀ (a b : Octets) (ra rb : Report), decodeReport a = some ra → decodeReport b = some rb →
      ra.packetId = rb.packetId → ra.pressed = rb.pressed →
      ra.leftStick.map Stick.raw = rb.leftStick.map Stick.raw →
      ra.rightStick.map Stick.raw = rb.rightStick.map Stick.raw →
        SameReport a b ∧
          (0x3C ≤ a.length → 0x3C ≤ b.length → ra.accel = rb.accel → ra.gyro = rb.gyro →
            ∀ i, 0x30 ≤ i → i ≤ 0x3B → a.octet i = b.octet i)) := by
  refine ⟨?_, ?_, ?_, decodeReport_eq_none_iff, ?_⟩
  · intro names left right packetId motion hp hl hr hm
    exact decodeReport_buildReport hp hl hr hm
  · intro d e hd
    exact decodeReport_append_long e hd
  · intro d e hd he
    exact decodeReport_append_short hd he
  · intro a b ra rb ha hb hid hpr hleft hright
    refine ⟨sameReport_of_decodeReport ha hb hid hpr hleft hright, ?_⟩
    intro hal hbl hacc hgyr i hlo hhi
    exact motion_octet_eq_of_decodeReport ha hb hal hbl hacc hgyr hlo hhi

/-- The codec at a full report with two buttons, followed by one more octet. -/
theorem reportCodec_full :
    decodeReport (buildReport [.zl, .home] (0, 4095) (2048, 17) 513
        (some ⟨(-32768, 0, 32767), (1, -1, 256)⟩) ++ [7]) =
      some (Report.ofFields [.zl, .home] (0, 4095) (2048, 17) 513
        (some ⟨(-32768, 0, 32767), (1, -1, 256)⟩)) := by
  rw [reportCodec.2.1 _ [7] (by decide)]
  exact reportCodec.1 [.zl, .home] (0, 4095) (2048, 17) 513 _ (by decide) (by decide) (by decide)
    (by simp [Motion.InRange])

end Switch2Bt
