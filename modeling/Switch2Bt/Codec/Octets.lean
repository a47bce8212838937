import Mathlib.Data.List.Basic
import Mathlib.Data.Nat.Bitwise
import Mathlib.Tactic.Positivity
import Mathlib.Tactic.Ring
import Mathlib.Tactic.Zify
import Mathlib.Algebra.Order.Ring.Int

/-!
# Octet strings

What the codecs of the development share: little-endian words, two's complement, masks over one
octet, two twelve-bit fields packed into three octets, hexadecimal text and writing into a buffer.
Nothing here knows the device.
-/

/-- An octet string. -/
abbrev Octets := List UInt8

namespace Octets

/-- The octets from position `a` up to, and without, position `b` (the slice `data[a:b]`). -/
def slice (data : Octets) (a b : ℕ) : Octets := (data.drop a).take (b - a)

/-- The octet at a position, `0` past the end. -/
def octet (data : Octets) (i : ℕ) : UInt8 := data.getD i 0

/-- An octet behind the first part of a string. -/
theorem octet_append_add (pre rest : Octets) (i : ℕ) :
    octet (pre ++ rest) (pre.length + i) = rest.octet i := by
  unfold octet
  rw [List.getD_append_right _ _ _ _ (Nat.le_add_right _ _), Nat.add_sub_cancel_left]

theorem octet_drop (data : Octets) (k i : ℕ) : octet (data.drop k) i = data.octet (k + i) := by
  simp [octet, List.getElem?_drop]

theorem octet_take {data : Octets} {n i : ℕ} (h : i < n) :
    octet (data.take n) i = data.octet i := by
  simp [octet, List.getElem?_take_of_lt h]

/-- The octets from a position on, read one by one. -/
theorem map_octet_range' (data : Octets) (i n : ℕ) (h : i + n ≤ data.length) :
    (List.range' i n).map data.octet = (data.drop i).take n := by
  apply List.ext_getElem
  · simp
    omega
  · intro k hk hk'
    have hk2 : k < n := by simpa using hk
    simp [octet, List.getElem?_eq_getElem (show i + k < data.length by omega)]

/-! ## Little-endian words -/

/-- The value of an octet string, least significant octet first. -/
def leNat : Octets → ℕ
  | [] => 0
  | b :: bs => b.toNat + 256 * leNat bs

/-- The `k` least significant octets of a number, least significant first. -/
def leBytes : ℕ → ℕ → Octets
  | _, 0 => []
  | n, k + 1 => UInt8.ofNat n :: leBytes (n / 256) k

/-- The two's complement value of an octet string, least significant octet first. -/
def leInt (data : Octets) : ℤ :=
  if 2 * leNat data < 256 ^ data.length then leNat data else leNat data - 256 ^ data.length

/-- The `k` octets of the two's complement form of a number, least significant first. -/
def leIntBytes (n : ℤ) (k : ℕ) : Octets := leBytes (n % 256 ^ k).toNat k

@[simp] theorem leBytes_length (n k : ℕ) : (leBytes n k).length = k := by
  induction k generalizing n with
  | zero => rfl
  | succ k ih => simp [leBytes, ih]

@[simp] theorem leIntBytes_length (n : ℤ) (k : ℕ) : (leIntBytes n k).length = k :=
  leBytes_length _ _

/-- Reading back the `k` octets of a number gives it modulo `256 ^ k`. -/
theorem leNat_leBytes (n k : ℕ) : leNat (leBytes n k) = n % 256 ^ k := by
  induction k generalizing n with
  | zero => simp [leBytes, leNat, Nat.mod_one]
  | succ k ih =>
      have hlow : (UInt8.ofNat n).toNat = n % 256 := UInt8.toNat_ofNat'
      rw [leBytes, leNat, ih, hlow, Nat.pow_succ', Nat.mod_mul]

/-- Two strings of one length with the same value are equal. -/
theorem leNat_inj : ∀ {a b : Octets}, a.length = b.length → leNat a = leNat b → a = b
  | [], [], _, _ => rfl
  | x :: a, y :: b, hl, h => by
      have hx := x.toNat_lt
      have hy := y.toNat_lt
      simp only [leNat] at h
      have hxy : x = y := UInt8.toNat_inj.mp (by omega)
      have hab : a = b := leNat_inj (by simpa using hl) (by omega)
      rw [hxy, hab]

/-- The value of a string is below `256` to its length. -/
theorem leNat_lt (a : Octets) : leNat a < 256 ^ a.length := by
  induction a with
  | nil => simp [leNat]
  | cons x a ih =>
      have hx := x.toNat_lt
      simp only [leNat, List.length_cons, Nat.pow_succ]
      omega

/-- Two strings of one length with the same two's complement value are equal. -/
theorem leInt_inj {a b : Octets} (hl : a.length = b.length) (h : leInt a = leInt b) : a = b := by
  have ha := leNat_lt a
  have hb := leNat_lt b
  refine leNat_inj hl ?_
  unfold leInt at h
  rw [hl] at h ha
  zify at ha hb ⊢
  split at h <;> split at h <;> rename_i h₁ h₂ <;> zify at h₁ h₂ <;> omega

/-- Reading back the two's complement octets of a number in range gives the number. -/
theorem leInt_leIntBytes {n : ℤ} {k : ℕ} (hlo : -256 ^ k ≤ 2 * n) (hhi : 2 * n < 256 ^ k) :
    leInt (leIntBytes n k) = n := by
  have hmod : ((n % 256 ^ k).toNat : ℤ) = n % 256 ^ k :=
    Int.toNat_of_nonneg (Int.emod_nonneg _ (by positivity))
  have hlt : (n % 256 ^ k).toNat < 256 ^ k := by
    have := Int.emod_lt_of_pos n (show (0 : ℤ) < 256 ^ k by positivity)
    zify
    omega
  unfold leInt leIntBytes
  rw [leNat_leBytes, Nat.mod_eq_of_lt hlt, leBytes_length]
  by_cases hn : 0 ≤ n
  · have hnm : n % 256 ^ k = n := Int.emod_eq_of_lt hn (by omega)
    rw [if_pos (by zify; omega)]
    omega
  · have hnm : n % 256 ^ k = n + 256 ^ k := by
      rw [← Int.add_emod_right, Int.emod_eq_of_lt (by omega) (by omega)]
    rw [if_neg (by zify; omega), hmod, hnm]
    ring

/-! ## Masks -/

/-- A mask meets the union of two octets iff it meets one of them. -/
theorem or_and_ne_zero (a b m : UInt8) : (a ||| b) &&& m ≠ 0 ↔ a &&& m ≠ 0 ∨ b &&& m ≠ 0 := by
  simp only [ne_eq, ← UInt8.toBitVec_inj, UInt8.toBitVec_and, UInt8.toBitVec_or,
    BitVec.and_or_distrib_right, UInt8.toBitVec_zero, BitVec.or_eq_zero_iff]
  tauto

/-- A property of all octets is a property of the `256` numbers below `256`. -/
theorem forall_octet {P : UInt8 → Prop} (h : ∀ n : Fin 256, P (UInt8.ofNat n)) (x : UInt8) :
    P x := by
  have hx := h ⟨x.toNat, x.toNat_lt⟩
  rwa [UInt8.ofNat_toNat] at hx

/-- The eight one-bit masks of an octet. -/
def bitMasks : List UInt8 := [0x01, 0x02, 0x04, 0x08, 0x10, 0x20, 0x40, 0x80]

/-- An octet is the union of the one-bit masks it meets. -/
theorem eq_foldl_bitMasks (x : UInt8) :
    x = bitMasks.foldl (fun acc m => if x &&& m ≠ 0 then acc ||| m else acc) 0 := by
  revert x
  exact forall_octet (by decide +kernel)

/-- The low five bits of an octet are the union of the low one-bit masks it meets. -/
theorem and_1F_eq_foldl_bitMasks (x : UInt8) :
    x &&& 0x1F =
      (bitMasks.take 5).foldl (fun acc m => if x &&& m ≠ 0 then acc ||| m else acc) 0 := by
  revert x
  exact forall_octet (by decide +kernel)

/-! ## Two twelve-bit fields in three octets -/

/-- The first field: the first octet and the low nibble of the second. -/
theorem pair12_fst (r0 r1 : UInt8) :
    ((r1.toNat &&& 0x0F) <<< 8) ||| r0.toNat = r0.toNat + 256 * (r1.toNat % 16) := by
  rw [show (0x0F : ℕ) = 2 ^ 4 - 1 from rfl, Nat.and_two_pow_sub_one_eq_mod,
    ← Nat.shiftLeft_add_eq_or_of_lt r0.toNat_lt, Nat.shiftLeft_eq]
  omega

/-- The second field: the high nibble of the second octet and the third octet. -/
theorem pair12_snd (r1 r2 : UInt8) :
    (r2.toNat <<< 4) ||| ((r1.toNat &&& 0xF0) >>> 4) = r1.toNat / 16 + 16 * r2.toNat := by
  have h1 := r1.toNat_lt
  have hn : (r1.toNat &&& 0xF0) >>> 4 = r1.toNat / 16 := by
    rw [Nat.shiftRight_and_distrib, show (0xF0 : ℕ) >>> 4 = 2 ^ 4 - 1 from rfl,
      Nat.and_two_pow_sub_one_eq_mod, Nat.shiftRight_eq_div_pow]
    omega
  rw [hn, ← Nat.shiftLeft_add_eq_or_of_lt (by omega), Nat.shiftLeft_eq]
  omega

/-- The other packing, first field: an octet above the high nibble of the next. -/
theorem nibbleHi_eq (r0 r1 : UInt8) :
    ((r0.toNat <<< 4) ||| (r1.toNat >>> 4)) &&& 0xFFF = 16 * r0.toNat + r1.toNat / 16 := by
  have h0 := r0.toNat_lt
  have h1 := r1.toNat_lt
  rw [Nat.shiftRight_eq_div_pow, ← Nat.shiftLeft_add_eq_or_of_lt (by omega), Nat.shiftLeft_eq,
    show (0xFFF : ℕ) = 2 ^ 12 - 1 from rfl, Nat.and_two_pow_sub_one_eq_mod]
  omega

/-- The other packing, second field: an octet above the low nibble of another. -/
theorem nibbleLo_eq (r1 r2 : UInt8) :
    ((r2.toNat <<< 4) ||| (r1.toNat &&& 0x0F)) &&& 0xFFF = 16 * r2.toNat + r1.toNat % 16 := by
  have h2 := r2.toNat_lt
  rw [show (0x0F : ℕ) = 2 ^ 4 - 1 from rfl, Nat.and_two_pow_sub_one_eq_mod,
    ← Nat.shiftLeft_add_eq_or_of_lt (by omega), Nat.shiftLeft_eq,
    show (0xFFF : ℕ) = 2 ^ 12 - 1 from rfl, Nat.and_two_pow_sub_one_eq_mod]
  omega

/-- A mask shifted to an octet of a word meets the word iff it meets the octet. -/
theorem shiftLeft_meets (w : ℕ) (m : UInt8) (k : ℕ) :
    w &&& (m.toNat <<< k) ≠ 0 ↔ UInt8.ofNat (w >>> k) &&& m ≠ 0 := by
  have hword : w &&& (m.toNat <<< k) = ((w >>> k) &&& m.toNat) <<< k := by
    apply Nat.eq_of_testBit_eq
    intro i
    rw [Nat.testBit_and, Nat.testBit_shiftLeft, Nat.testBit_shiftLeft, Nat.testBit_and,
      Nat.testBit_shiftRight]
    by_cases hi : k ≤ i
    · simp [hi, show k + (i - k) = i by omega]
    · simp [hi]
  have hoctet : (UInt8.ofNat (w >>> k) &&& m).toNat = (w >>> k) &&& m.toNat := by
    have hm : m.toNat % 2 ^ 8 = m.toNat := Nat.mod_eq_of_lt m.toNat_lt
    have hlt : (w >>> k) &&& m.toNat < 2 ^ 8 := lt_of_le_of_lt Nat.and_le_right m.toNat_lt
    calc (UInt8.ofNat (w >>> k) &&& m).toNat = (w >>> k) % 2 ^ 8 &&& m.toNat % 2 ^ 8 := by
          rw [UInt8.toNat_and, UInt8.toNat_ofNat', hm]
      _ = ((w >>> k) &&& m.toNat) % 2 ^ 8 := (Nat.and_mod_two_pow ..).symm
      _ = (w >>> k) &&& m.toNat := Nat.mod_eq_of_lt hlt
  rw [hword, ← hoctet, Nat.shiftLeft_eq]
  constructor
  · intro h hz
    exact h (by rw [hz]; simp)
  · intro h hz
    apply h
    rw [← UInt8.toNat_inj]
    simpa using hz

/-! ## Hexadecimal text -/

/-- The lower-case hexadecimal digit of a nibble. -/
def hexDigit (n : ℕ) : Char := if n < 10 then Char.ofNat (48 + n) else Char.ofNat (87 + n)

/-- The two hexadecimal digits of each octet, joined by a separator (`bytes.hex(sep)`). -/
def hexSep (sep : String) (data : Octets) : String :=
  sep.intercalate (data.map fun b =>
    String.ofList [hexDigit (b.toNat / 16), hexDigit (b.toNat % 16)])

/-- The hexadecimal digits of an octet string (`bytes.hex()`). -/
def hex (data : Octets) : String := hexSep "" data

/-- The value of a hexadecimal digit. -/
def hexValue (c : Char) : Option ℕ :=
  if '0' ≤ c ∧ c ≤ '9' then some (c.toNat - 48)
  else if 'a' ≤ c ∧ c ≤ 'f' then some (c.toNat - 87)
  else if 'A' ≤ c ∧ c ≤ 'F' then some (c.toNat - 55)
  else none

/-- The white space of ASCII. -/
def isSpace (c : Char) : Bool := c.toNat == 32 || (9 ≤ c.toNat && c.toNat ≤ 13)

/-- Read pairs of hexadecimal digits; white space may stand between two pairs. -/
def ofHexChars : List Char → Option Octets
  | [] => some []
  | [c] => if isSpace c then some [] else none
  | c :: d :: cs =>
      if isSpace c then ofHexChars (d :: cs)
      else do
        let h ← hexValue c
        let l ← hexValue d
        let rest ← ofHexChars cs
        some (UInt8.ofNat (16 * h + l) :: rest)

/-- The octets written by a hexadecimal text (`bytes.fromhex`), if it is one. -/
def ofHex (text : String) : Option Octets := ofHexChars text.toList

/-- A hexadecimal digit reads back as its nibble. -/
theorem hexValue_hexDigit {n : ℕ} (hn : n < 16) : hexValue (hexDigit n) = some n := by
  have h : ∀ k : Fin 16, hexValue (hexDigit k) = some k.val := by decide
  exact h ⟨n, hn⟩

/-- A hexadecimal digit is neither white space nor a colon. -/
theorem hexDigit_plain {n : ℕ} (hn : n < 16) :
    isSpace (hexDigit n) = false ∧ hexDigit n ≠ ':' := by
  have h : ∀ k : Fin 16, isSpace (hexDigit k) = false ∧ hexDigit k ≠ ':' := by decide
  exact h ⟨n, hn⟩

/-- The two digits of an octet. -/
def hexPair (b : UInt8) : List Char := [hexDigit (b.toNat / 16), hexDigit (b.toNat % 16)]

/-- Reading the digits of an octet string gives the string. -/
theorem ofHexChars_flatMap_hexPair (data : Octets) :
    ofHexChars (data.flatMap hexPair) = some data := by
  induction data with
  | nil => rfl
  | cons b data ih =>
      have hb := b.toNat_lt
      have hhi : b.toNat / 16 < 16 := by omega
      have hlo : b.toNat % 16 < 16 := Nat.mod_lt _ (by omega)
      have hval : UInt8.ofNat (16 * (b.toNat / 16) + b.toNat % 16) = b := by
        rw [Nat.div_add_mod, UInt8.ofNat_toNat]
      rw [List.flatMap_cons]
      simp only [hexPair, List.cons_append, List.nil_append, ofHexChars, (hexDigit_plain hhi).1,
        hexValue_hexDigit hhi, hexValue_hexDigit hlo, ih, Option.bind_eq_bind, Option.bind_some,
        hval, Bool.false_eq_true, if_false]

/-- A text with separators starts with the digits of the first octet. -/
theorem toList_hexSep_cons (sep : String) (b : UInt8) (data : Octets) :
    (hexSep sep (b :: data)).toList =
      hexPair b ++ if data = [] then [] else sep.toList ++ (hexSep sep data).toList := by
  cases data with
  | nil => simp [hexSep, hexPair]
  | cons c data =>
      simp only [hexSep, List.map_cons, String.intercalate_cons_cons, String.toList_append,
        String.toList_ofList, hexPair]
      simp

/-- The text without separators is the digits of the octets. -/
theorem toList_hex (data : Octets) : (hex data).toList = data.flatMap hexPair := by
  induction data with
  | nil => rfl
  | cons b data ih =>
      unfold hex at ih ⊢
      rw [toList_hexSep_cons, List.flatMap_cons]
      by_cases hd : data = []
      · simp [hd]
      · rw [if_neg hd, ih]
        simp

/-- Reading a text written with colons, once the colons are taken out, gives the octets. -/
theorem ofHex_filter_hexSep (data : Octets) :
    ofHex (String.ofList ((hexSep ":" data).toList.filter (· != ':'))) = some data := by
  have hpair : ∀ b : UInt8, (hexPair b).filter (· != ':') = hexPair b := by
    intro b
    have hb := b.toNat_lt
    have hhi := (hexDigit_plain (show b.toNat / 16 < 16 by omega)).2
    have hlo := (hexDigit_plain (Nat.mod_lt b.toNat (show 16 > 0 by omega))).2
    simp [hexPair, hhi, hlo]
  have hfilter : ∀ data : Octets,
      (hexSep ":" data).toList.filter (· != ':') = data.flatMap hexPair := by
    intro data
    induction data with
    | nil => rfl
    | cons b data ih =>
        rw [toList_hexSep_cons, List.filter_append, hpair, List.flatMap_cons]
        congr 1
        by_cases hd : data = []
        · simp [hd]
        · rw [if_neg hd, List.filter_append, ih]
          simp
  unfold ofHex
  rw [hfilter, String.toList_ofList]
  exact ofHexChars_flatMap_hexPair data

/-! ## Buffers -/

/-- `memcpy(buf + pos, src, n)`: the buffer afterwards. `none` is an access outside one of the
two objects. -/
def memcpy (buf : Octets) (pos : ℕ) (src : Octets) (n : ℕ) : Option Octets :=
  if n ≤ src.length ∧ pos + n ≤ buf.length then
    some (buf.take pos ++ src.take n ++ buf.drop (pos + n))
  else none

/-- Writing a whole string behind what a buffer already holds. -/
theorem memcpy_append (done src rest : Octets) (h : src.length ≤ rest.length) :
    memcpy (done ++ rest) done.length src src.length =
      some (done ++ src ++ rest.drop src.length) := by
  unfold memcpy
  rw [if_pos ⟨le_refl _, by simpa using h⟩]
  simp [← List.drop_drop]

/-- Writing a whole string at the start of a buffer. -/
theorem memcpy_zero (src rest : Octets) (h : src.length ≤ rest.length) :
    memcpy rest 0 src src.length = some (src ++ rest.drop src.length) := by
  simpa using memcpy_append [] src rest h

end Octets
