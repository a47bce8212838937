import Switch2Bt.Codec.Octets

/-!
# Sequences of AD structures

An advertising payload is a sequence of structures, each a length octet, a type octet and data.
`AdStructure.visit` is the rule for a loop that walks a payload by the length octets: it passes
the start of every structure, unless it leaves before. Nothing here knows the device.
-/

open Octets

/-- An AD structure. The length octet counts the type and the data. -/
structure AdStructure where
  adType : UInt8
  data : Octets
  fits : data.length ≤ 254
deriving DecidableEq

namespace AdStructure

/-- The length octet. -/
def len (s : AdStructure) : UInt8 := UInt8.ofNat (s.data.length + 1)

/-- The octets of a structure. -/
def wire (s : AdStructure) : Octets := s.len :: s.adType :: s.data

/-- The octets of a sequence of structures. -/
def payload (ads : List AdStructure) : Octets := ads.flatMap wire

@[simp] theorem toNat_len (s : AdStructure) : s.len.toNat = s.data.length + 1 := by
  have := s.fits
  unfold len
  rw [UInt8.toNat_ofNat', Nat.mod_eq_of_lt (by omega)]

theorem len_ne_zero (s : AdStructure) : s.len ≠ 0 := by
  intro h
  have hlen := s.toNat_len
  rw [h] at hlen
  exact absurd hlen (Nat.succ_ne_zero _).symm

@[simp] theorem length_wire (s : AdStructure) : s.wire.length = 1 + s.len.toNat := by
  rw [toNat_len, wire, List.length_cons, List.length_cons]
  omega

@[simp] theorem payload_nil : payload [] = [] := rfl

@[simp] theorem payload_cons (s : AdStructure) (ads : List AdStructure) :
    payload (s :: ads) = s.wire ++ payload ads := rfl

/-! ## Reading at the start of a structure -/

/-- The length octet stands at the start. -/
theorem octet_len (pre : Octets) (s : AdStructure) (rest : Octets) :
    octet (pre ++ (s.wire ++ rest)) pre.length = s.len :=
  octet_append_add pre (s.wire ++ rest) 0

/-- The type octet follows it. -/
theorem octet_adType (pre : Octets) (s : AdStructure) (rest : Octets) :
    octet (pre ++ (s.wire ++ rest)) (pre.length + 1) = s.adType :=
  octet_append_add pre (s.wire ++ rest) 1

/-- The data follow the type octet. -/
theorem octet_data (pre : Octets) (s : AdStructure) (rest : Octets) {i : ℕ}
    (h : i < s.data.length) :
    octet (pre ++ (s.wire ++ rest)) (pre.length + 2 + i) = s.data.octet i := by
  rw [Nat.add_assoc, octet_append_add, wire, Nat.add_comm 2 i]
  simp [octet, List.getElem?_append_left h]

/-- **The visit rule.** `P` says of a position that a loop which is there will succeed. If success
behind a structure is success at it, and the loop succeeds at the target, it succeeds at the start
of every payload that contains the target. -/
theorem visit (bytes : Octets) {P : ℕ → Prop} {target : AdStructure}
    (hpass : ∀ pre s rest, bytes = pre ++ (wire s ++ rest) →
      P (pre.length + 1 + s.len.toNat) → P pre.length)
    (hhit : ∀ pre rest, bytes = pre ++ (target.wire ++ rest) → P pre.length) :
    ∀ (ads : List AdStructure) (pre : Octets), bytes = pre ++ payload ads → target ∈ ads →
      P pre.length := by
  intro ads
  induction ads with
  | nil =>
      intro pre _ hmem
      exact absurd hmem List.not_mem_nil
  | cons s ads ih =>
      intro pre hbytes hmem
      rw [payload_cons] at hbytes
      rcases List.mem_cons.mp hmem with rfl | hmem
      · exact hhit pre _ hbytes
      · apply hpass pre s _ hbytes
        have hnext := ih (pre ++ s.wire) (by rw [hbytes, List.append_assoc]) hmem
        rwa [List.length_append, length_wire, ← Nat.add_assoc] at hnext

/-! ## Parsing -/

/-- What a length octet counts fits. -/
theorem take_fits (n : UInt8) (rest : Octets) : (rest.take (n.toNat - 1)).length ≤ 254 := by
  have hn := n.toNat_lt
  rw [List.length_take]
  omega

/-- The structures of a payload, up to the first that is empty or does not fit. -/
def structures : Octets → List AdStructure
  | n :: ty :: rest =>
      if n = 0 ∨ rest.length + 1 < n.toNat then []
      else ⟨ty, rest.take (n.toNat - 1), take_fits n rest⟩ :: structures (rest.drop (n.toNat - 1))
  | _ => []
termination_by bytes => bytes.length
decreasing_by
  rw [List.length_drop, List.length_cons, List.length_cons]
  omega

/-- Parsing gives back the structures of a payload. -/
theorem structures_payload (ads : List AdStructure) : structures (payload ads) = ads := by
  induction ads with
  | nil => simp [structures]
  | cons s ads ih =>
      have hlen := s.toNat_len
      have hne : ¬ (s.len = 0 ∨ (s.data ++ payload ads).length + 1 < s.len.toNat) := by
        rintro (h | h)
        · exact s.len_ne_zero h
        · rw [hlen, List.length_append] at h
          omega
      rw [payload_cons, wire, List.cons_append, List.cons_append, structures, if_neg hne]
      congr 1
      · cases s
        simp [hlen]
      · rw [hlen, Nat.add_sub_cancel, List.drop_left, ih]

end AdStructure
