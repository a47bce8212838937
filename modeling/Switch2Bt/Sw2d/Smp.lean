import Mathlib.Data.Vector.Basic
import Switch2Bt.Codec.Octets

/-!
# SMP confirm value and key (`sw2d_final.c`, `smp_c1` and `smp_s1`)

The functions are over an arbitrary function of a key and a block, which stands for AES-128.
-/

namespace Switch2Bt.Sw2d

open Octets

/-- Sixteen octets. -/
abbrev Block := Vector UInt8 16

/-- A device address as the controller carries it. -/
abbrev Addr := Vector UInt8 6

/-- A block cipher: a permutation of the blocks for every key. -/
structure BlockCipher where
  enc : Block → Block → Block
  injective : ∀ k, Function.Injective (enc k)

/-- The cipher that enciphers nothing. -/
def BlockCipher.identity : BlockCipher := ⟨fun _ b => b, fun _ _ _ h => h⟩

/-- The octets of a string from a position on, as an array. -/
def block (n : ℕ) (data : Octets) (pos : ℕ) : Vector UInt8 n :=
  Vector.ofFn fun i => data.octet (pos + i)

/-- What follows the octets of an array does not matter. -/
theorem block_append {n pos : ℕ} {a b : Octets} (h : pos + n ≤ a.length) :
    block n (a ++ b) pos = block n a pos := by
  apply Vector.ext
  intro i hi
  have hlt : pos + i < a.length := by omega
  simp [block, octet, List.getD, List.getElem?_append_left hlt]

/-- `a[i] ^ b[i]`. -/
def xorBlock (a b : Block) : Block := Vector.zipWith (· ^^^ ·) a b

/-- `p1 = pres || preq || rat || iat`.
Source: `sw2d_final.c` `smp_c1` -/
def smpP1 (preq pres : Vector UInt8 7) (iat rat : UInt8) : Block := pres ++ preq ++ #v[rat, iat]

/-- `p2 = padding(4) || ia || ra`.
Source: `sw2d_final.c` `smp_c1` -/
def smpP2 (ia ra : Addr) : Block := (#v[0, 0, 0, 0] : Vector UInt8 4) ++ ia ++ ra

/-- The confirm value.
Source: `sw2d_final.c` `smp_c1` -/
def smpC1 (aes : Block → Block → Block) (k r : Block) (preq pres : Vector UInt8 7)
    (iat : UInt8) (ia : Addr) (rat : UInt8) (ra : Addr) : Block :=
  let tmp := aes k (xorBlock r (smpP1 preq pres iat rat))
  aes k (xorBlock tmp (smpP2 ia ra))

/-- The short term key.
Source: `sw2d_final.c` `smp_s1` -/
def smpS1 (aes : Block → Block → Block) (k r1 r2 : Block) : Block :=
  aes k (block 16 (r1.toList.take 8 ++ r2.toList.take 8) 0)

end Switch2Bt.Sw2d
