import Switch2Bt.Sw2d.PairingAgreement

/-!
# Octet order of the SMP functions (`sw2d_final.c`, `smp_c1` and `smp_s1`)

The Core specification writes the functions `c1` and `s1` over values with the most significant
octet first, which is how the block cipher takes its key and its block. The values of a session are
held as the PDUs carry them, least significant octet first, so they have to be reversed on the way
into the cipher and out of it (`coreC1`, `coreStk`).

`smp_c1` and `smp_s1` reverse nothing. **They are never the specified functions**
(`coreFunctions_never`): no block cipher makes `smp_c1` the confirm function, and for no arguments
do the two agree whatever the cipher. The order of the two random values in the key is right: the
keys are the specified ones for a cipher that commutes with reversal (`smpS1_core_iff`).
-/

namespace Switch2Bt.Sw2d

/-- The confirm function of the Core specification, over values that are held least significant
octet first: `e(k, e(k, r XOR p1) XOR p2)` with `p1 = pres || preq || rat || iat` and
`p2 = padding || ia || ra`, the most significant octet first. -/
def coreC1 (e : Block → Block → Block) (k r : Block) (preq pres : Vector UInt8 7)
    (iat : UInt8) (ia : Addr) (rat : UInt8) (ra : Addr) : Block :=
  let p1 : Block := ((pres.reverse ++ preq.reverse).push rat).push iat
  let p2 : Block := (Vector.replicate 4 0 : Vector UInt8 4) ++ ia.reverse ++ ra.reverse
  (e k.reverse (xorBlock (e k.reverse (xorBlock r.reverse p1)) p2)).reverse

/-- The first eight octets of a block. -/
def Block.low (b : Block) : Vector UInt8 8 := Vector.ofFn fun i => b[i.val]

/-- The short term key of the Core specification, `s1(k, Srand, Mrand)`, over values that are held
least significant octet first. -/
def coreStk (e : Block → Block → Block) (k mrand srand : Block) : Block :=
  (e k.reverse (srand.low.reverse ++ mrand.low.reverse)).reverse

/-- With the given cipher, the two functions are those of the specification; the key is derived
from the random values in the order of `deriveStk`. -/
structure CoreFunctions (e : Block → Block → Block) : Prop where
  c1 : ∀ k r preq pres iat ia rat ra,
    smpC1 e k r preq pres iat ia rat ra = coreC1 e k r preq pres iat ia rat ra
  stk : ∀ k mrand srand, smpS1 e k mrand srand = coreStk e k mrand srand

/-! ## The key -/

/-- The block of a key: the first halves of the two random values. -/
theorem smpS1_eq (e : Block → Block → Block) (k r1 r2 : Block) :
    smpS1 e k r1 r2 = e k (r1.low ++ r2.low) := by
  unfold smpS1
  refine congrArg (e k) ?_
  apply Vector.ext
  intro i hi
  rw [Vector.getElem_append (n := 8) (m := 8) hi]
  simp only [block, Vector.getElem_ofFn, Nat.zero_add, Octets.octet, Block.low]
  by_cases h : i < 8
  · simp [List.getElem?_append_left, h]
  · have hlt : i - 8 < 8 := by omega
    have hbehind : (List.take 8 r1.toList).length ≤ i := by simpa using h
    simp [List.getElem?_append_right hbehind, h, hlt]

/-- The block of the specified key is the one of `smp_s1`, reversed. -/
theorem coreStk_eq (e : Block → Block → Block) (k mrand srand : Block) :
    coreStk e k mrand srand = (e k.reverse (mrand.low ++ srand.low).reverse).reverse := by
  have hreverse : (mrand.low ++ srand.low).reverse = srand.low.reverse ++ mrand.low.reverse :=
    Vector.reverse_append
  unfold coreStk
  rw [← hreverse]

/-- A block is made of two halves. -/
theorem exists_low_append (b : Block) : ∃ r1 r2 : Block, r1.low ++ r2.low = b := by
  refine ⟨b, Vector.ofFn fun i => b.toList.getD (i.val + 8) 0, ?_⟩
  apply Vector.ext
  intro i hi
  rw [Vector.getElem_append (n := 8) (m := 8) hi]
  simp only [Block.low, Vector.getElem_ofFn]
  by_cases h : i < 8
  · simp [h]
  · have hsub : i - 8 + 8 = i := by omega
    simp [h, hsub, hi]

/-- The keys are the specified ones iff the cipher commutes with the reversal of its key and its
block. -/
theorem smpS1_core_iff (e : Block → Block → Block) :
    (∀ k mrand srand, smpS1 e k mrand srand = coreStk e k mrand srand) ↔
      ∀ k b, e k b = (e k.reverse b.reverse).reverse := by
  constructor
  · intro h k b
    obtain ⟨r1, r2, rfl⟩ := exists_low_append b
    have hkey := h k r1 r2
    rwa [smpS1_eq, coreStk_eq] at hkey
  · intro h k mrand srand
    rw [smpS1_eq, coreStk_eq]
    exact h k _

/-! ## No cipher makes the confirm function right -/

/-- The response whose first octet is 1. -/
def oneOctet : Vector UInt8 7 := #v[1, 0, 0, 0, 0, 0, 0]

/-- The confirm value depends on the random value and `p1` by their exclusive or. -/
theorem smpC1_cancel (e : Block → Block → Block) (k : Block) (preq pres : Vector UInt8 7)
    (iat : UInt8) (ia : Addr) (rat : UInt8) (ra : Addr) :
    smpC1 e k (smpP1 preq pres iat rat) preq pres iat ia rat ra =
      smpC1 e k (smpP1 (Vector.replicate 7 0) (Vector.replicate 7 0) 0 0) (Vector.replicate 7 0)
        (Vector.replicate 7 0) 0 ia 0 ra := by
  have hself : ∀ a : Block, xorBlock a a = Vector.replicate 16 0 := by
    intro a
    apply Vector.ext
    intro i hi
    rw [xorBlock_getElem hi]
    simp
  unfold smpC1
  rw [hself, hself]

theorem xorBlock_left_inj {r a b : Block} : xorBlock a r = xorBlock b r ↔ a = b := by
  have hcomm : ∀ a : Block, xorBlock a r = xorBlock r a := by
    intro a
    apply Vector.ext
    intro i hi
    rw [xorBlock_getElem hi, xorBlock_getElem hi, UInt8.xor_comm]
  rw [hcomm, hcomm, xorBlock_right_inj]

/-- The specified confirm value tells the random values apart, and the responses. -/
theorem coreC1_inj (E : BlockCipher) {k r r' : Block} {preq pres preq' pres' : Vector UInt8 7}
    {iat rat iat' rat' : UInt8} {ia ra : Addr}
    (h : coreC1 E.enc k r preq pres iat ia rat ra = coreC1 E.enc k r' preq' pres' iat' ia rat' ra) :
    xorBlock r.reverse (((pres.reverse ++ preq.reverse).push rat).push iat) =
      xorBlock r'.reverse (((pres'.reverse ++ preq'.reverse).push rat').push iat') := by
  unfold coreC1 at h
  have houter := E.injective _ (Vector.reverse_inj.mp h)
  exact E.injective _ (xorBlock_left_inj.mp houter)

/-- With a block cipher, `smp_c1` is not the confirm function: it does not see a change of the
response that a change of the random value makes up for. -/
theorem smpC1_not_core (E : BlockCipher) :
    ¬∀ k r preq pres iat ia rat ra,
      smpC1 E.enc k r preq pres iat ia rat ra = coreC1 E.enc k r preq pres iat ia rat ra := by
  intro h
  have hcore := smpC1_cancel E.enc (Vector.replicate 16 0) (Vector.replicate 7 0) oneOctet 0
    (Vector.replicate 6 0) 0 (Vector.replicate 6 0)
  rw [h, h] at hcore
  exact absurd (coreC1_inj E hcore) (by decide +kernel)

/-! ## For no arguments do the two agree whatever the cipher -/

/-- The cipher that adds a number to the first octet of a block. -/
def bump (n : UInt8) : BlockCipher where
  enc _ b := b.set 0 (b[0] + n)
  injective k a b h := by
    apply Vector.ext
    intro i hi
    have hi' := congrArg (fun v : Block => v[i]) h
    by_cases h0 : i = 0
    · subst h0
      simpa using hi'
    · have hne : 0 ≠ i := fun heq => h0 heq.symm
      simpa [Vector.getElem_set_ne, hne] using hi'

/-- The first octet of a confirm value, for a cipher that changes the first octets only. -/
theorem smpC1_bump_first (n : UInt8) (k r : Block) (preq pres : Vector UInt8 7) (iat : UInt8)
    (ia : Addr) (rat : UInt8) (ra : Addr) :
    (smpC1 (bump n).enc k r preq pres iat ia rat ra)[0] =
      (xorBlock r (smpP1 preq pres iat rat))[0] + n + n := by
  have hpad : (smpP2 ia ra)[0] = 0 := by
    unfold smpP2
    rw [Vector.getElem_append (n := 10) (m := 6) (show 0 < 16 by decide),
      dif_pos (show 0 < 10 by decide),
      Vector.getElem_append (n := 4) (m := 6) (show 0 < 10 by decide),
      dif_pos (show 0 < 4 by decide)]
    rfl
  simp [smpC1, bump, xorBlock_getElem, hpad]

/-- The first octet of the specified confirm value, for such a cipher: it is the last one that
comes out of the cipher. -/
theorem coreC1_bump_first (n : UInt8) (k r : Block) (preq pres : Vector UInt8 7) (iat : UInt8)
    (ia : Addr) (rat : UInt8) (ra : Addr) :
    (coreC1 (bump n).enc k r preq pres iat ia rat ra)[0] =
      (coreC1 (bump 0).enc k r preq pres iat ia rat ra)[0] := by
  simp [coreC1, bump, xorBlock_getElem]

/-- For no arguments is `smp_c1` the confirm function whatever the cipher. -/
theorem exists_smpC1_ne (k r : Block) (preq pres : Vector UInt8 7) (iat : UInt8) (ia : Addr)
    (rat : UInt8) (ra : Addr) : ∃ E : BlockCipher,
      smpC1 E.enc k r preq pres iat ia rat ra ≠ coreC1 E.enc k r preq pres iat ia rat ra := by
  by_contra hall
  simp only [ne_eq, not_exists, not_not] at hall
  have h0 := congrArg (fun b : Block => b[0]) (hall (bump 0))
  have h1 := congrArg (fun b : Block => b[0]) (hall (bump 1))
  -- the first octet of the one value moves with the cipher, that of the other does not
  rw [smpC1_bump_first] at h0 h1
  rw [coreC1_bump_first, ← h0] at h1
  rw [UInt8.add_assoc, UInt8.add_assoc] at h1
  exact absurd ((UInt8.add_right_inj _).mp h1) (by decide)

/-- For no arguments is the key the specified one whatever the cipher. -/
theorem exists_smpS1_ne (k mrand srand : Block) :
    ∃ E : BlockCipher, smpS1 E.enc k mrand srand ≠ coreStk E.enc k mrand srand := by
  refine ⟨bump 1, fun h => ?_⟩
  have h0 := congrArg (fun b : Block => b[0]) h
  rw [smpS1_eq, coreStk_eq] at h0
  simp [bump] at h0

/-! ## The specified functions -/

/-- **The functions are never those of the specification**: not with any block cipher, and not for
any arguments whatever the cipher.
Source: `sw2d_final.c` `smp_c1`, `smp_s1` -/
theorem coreFunctions_never (E : BlockCipher) (k r : Block) (preq pres : Vector UInt8 7)
    (iat : UInt8) (ia : Addr) (rat : UInt8) (ra : Addr) (mrand srand : Block) :
    ¬CoreFunctions E.enc ∧
      (∃ E' : BlockCipher,
        smpC1 E'.enc k r preq pres iat ia rat ra ≠ coreC1 E'.enc k r preq pres iat ia rat ra) ∧
      ∃ E' : BlockCipher, smpS1 E'.enc k mrand srand ≠ coreStk E'.enc k mrand srand :=
  ⟨fun h => smpC1_not_core E h.c1, exists_smpC1_ne k r preq pres iat ia rat ra,
    exists_smpS1_ne k mrand srand⟩

/-- A confirm value with the Pairing Request of `main` and nothing enciphered. -/
theorem not_coreFunctions_identity : ¬CoreFunctions BlockCipher.identity.enc := by
  intro h
  have hvalue := h.c1 (Vector.replicate 16 0) (Vector.replicate 16 0) preq
    #v[0x02, 0x03, 0x00, 0x01, 0x10, 0x03, 0x03] 0x00 #v[0xED, 0x69, 0xE5, 0xDD, 0x3A, 0xD8] 0x00
    #v[0x76, 0xC6, 0x3B, 0xBF, 0xEF, 0xE0]
  exact absurd hvalue (by decide +kernel)

end Switch2Bt.Sw2d
