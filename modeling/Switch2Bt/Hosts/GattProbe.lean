import Switch2Bt.Hosts.AttReader

/-!
# The GATT probe (`sw2d.c`, `gatt_probe`)

A response lists entries of equal length; the peer chooses the length, and the probe reads fixed
fields of each entry. For characteristics it asks for entries of seven octets or more. For services
it does not ask, and reads four octets of each entry: the last entry ends inside the response iff
its octets and those left over behind it are four or more (`gattProbe_bounded_iff`).
-/

namespace Switch2Bt.PacketReader

open Octets Sw2d Reads

/-! ## The probe -/

/-- Source: `sw2d.c` `ATT_READ_BY_TYPE_RSP` -/
def attReadByTypeRsp : UInt8 := 0x09
/-- Source: `sw2d.c` `ATT_READ_BY_GROUP_RSP` -/
def attReadByGroupRsp : UInt8 := 0x11

/-- The number of entries in a response of `n` octets.
Source: `sw2d.c` `gatt_probe` (`count`) -/
def entryCount (n : ℕ) (elen : UInt8) : ℕ := if elen = 0 then 0 else (n - 2) / elen.toNat

/-- The listing of a response of `n` octets: a line for each turn of the loop.
Source: `sw2d.c` `gatt_probe` (loops) -/
def listEntries {α : Type} (entry : UInt8 → ℕ → Reads ℕ UInt8 α) (n : ℕ) :
    Reads ℕ UInt8 (List α) := do
  let elen ← cell 1
  (List.range (entryCount n elen)).mapM fun i => entry elen (2 + i * elen.toNat)

/-- The line of a service.
Source: `sw2d.c` `gatt_probe` (first loop) -/
def serviceEntry (_elen : UInt8) (e : ℕ) : Reads ℕ UInt8 (UInt16 × UInt16) := do
  let first ← readLe16 e
  let last ← readLe16 (e + 2)
  pure (first, last)

/-- The line of a characteristic, if there is one.
Source: `sw2d.c` `gatt_probe` (second loop) -/
def characteristicEntry (elen : UInt8) (e : ℕ) : Reads ℕ UInt8 (Option (UInt16 × UInt8 × UInt16)) :=
  if 7 ≤ elen then do
    let decl ← readLe16 e
    let props ← cell (e + 2)
    let value ← readLe16 (e + 3)
    pure (some (decl, props, value))
  else pure none

/-- A listing, of the expected response only.
Source: `sw2d.c` `gatt_probe` (conditions on `n` and `rsp[0]`) -/
def listResponse {α : Type} (opcode : UInt8) (entry : UInt8 → ℕ → Reads ℕ UInt8 α) (n : ℤ) :
    Reads ℕ UInt8 (List α) :=
  if 2 ≤ n then do
    let op ← cell 0
    if op = opcode then listEntries entry n.toNat else pure []
  else pure []

/-- What is read of the response to the service request.
Source: `sw2d.c` `gatt_probe` -/
def listServices (n : ℤ) : Reads ℕ UInt8 (List (UInt16 × UInt16)) :=
  listResponse attReadByGroupRsp serviceEntry n

/-- What is read of the response to the characteristic request.
Source: `sw2d.c` `gatt_probe` -/
def listCharacteristics (n : ℤ) : Reads ℕ UInt8 (List (Option (UInt16 × UInt8 × UInt16))) :=
  listResponse attReadByTypeRsp characteristicEntry n

/-! ## Statement -/

/-- A listing that reads inside a response of `n` octets, in as many turns as there are entries of
the length the response says. -/
structure Bounded {α : Type} (listing : Reads ℕ UInt8 (List α)) (n : ℕ) (rsp : ℕ → UInt8) :
    Prop where
  inside : ∀ i ∈ listing.places rsp, i < n
  turns : (listing.run rsp).length ≤ if rsp 1 = 0 then 0 else (n - 2) / (rsp 1).toNat

/-- The last entry and what is left over behind it are four octets or more, if there is an entry. -/
def LastEntryFits (n : ℕ) (elen : UInt8) : Prop :=
  elen = 0 ∨ n - 2 < elen.toNat ∨ 4 ≤ elen.toNat + (n - 2) % elen.toNat

instance (n : ℕ) (elen : UInt8) : Decidable (LastEntryFits n elen) :=
  inferInstanceAs (Decidable (_ ∨ _))

/-! ## Listings -/

section listing

variable {α : Type} {entry : UInt8 → ℕ → Reads ℕ UInt8 α} {rsp : ℕ → UInt8} {n : ℕ} {opcode : UInt8}

/-- The places of a listing: the length octet, then those of each entry. -/
theorem mem_places_listEntries {j : ℕ} : j ∈ (listEntries entry n).places rsp ↔
    j = 1 ∨ ∃ i < entryCount n (rsp 1), j ∈ (entry (rsp 1) (2 + i * (rsp 1).toNat)).places rsp := by
  unfold listEntries
  rw [places_bind, run_cell, places_mapM]
  simp

theorem length_listEntries :
    ((listEntries entry n).run rsp).length = entryCount n (rsp 1) := by
  unfold listEntries
  rw [run_bind, run_cell, run_mapM, List.length_map, List.length_range]

/-- A listing of the expected response makes a turn for each entry. -/
theorem length_listResponse (hn : 2 ≤ n) :
    ((listResponse opcode entry n).run rsp).length ≤
      if rsp 1 = 0 then 0 else (n - 2) / (rsp 1).toNat := by
  have htwo : (2 : ℤ) ≤ n := by omega
  unfold listResponse
  rw [if_pos htwo, run_bind, run_cell]
  split_ifs with hop hzero hzero
  · rw [Int.toNat_natCast, length_listEntries, entryCount, if_pos hzero]
  · rw [Int.toNat_natCast, length_listEntries, entryCount, if_neg hzero]
  · exact le_refl _
  · exact Nat.zero_le _

/-- It reads inside the response iff it is not the expected one or each entry is read inside. -/
theorem inside_listResponse_iff (hn : 2 ≤ n) :
    (∀ j ∈ (listResponse opcode entry n).places rsp, j < n) ↔
      (rsp 0 = opcode → ∀ i < entryCount n (rsp 1),
        ∀ j ∈ (entry (rsp 1) (2 + i * (rsp 1).toNat)).places rsp, j < n) := by
  have htwo : (2 : ℤ) ≤ n := by omega
  unfold listResponse
  rw [if_pos htwo, places_bind, run_cell, places_cell, List.singleton_append,
    List.forall_mem_cons]
  by_cases hop : rsp 0 = opcode
  · rw [if_pos hop, Int.toNat_natCast]
    simp only [mem_places_listEntries, hop, true_imp_iff]
    constructor
    · exact fun h i hi j hj => h.2 j (.inr ⟨i, hi, hj⟩)
    · intro h
      refine ⟨by omega, fun j hj => ?_⟩
      rcases hj with rfl | ⟨i, hi, hj⟩
      · omega
      · exact h i hi j hj
  · rw [if_neg hop]
    exact iff_of_true ⟨by omega, nofun⟩ fun h => absurd h hop

end listing

/-! ## The two listings -/

/-- Four octets fit into each of the entries iff they fit into the last one with what is left over
behind it. -/
theorem four_octets_iff {n : ℕ} {elen : UInt8} (hn : 2 ≤ n) :
    (∀ i < entryCount n elen, 2 + i * elen.toNat + 4 ≤ n) ↔ LastEntryFits n elen := by
  unfold entryCount LastEntryFits
  by_cases hzero : elen = 0
  · simp [hzero]
  · have hpos : 0 < elen.toNat := Nat.pos_of_ne_zero fun h => hzero (UInt8.toNat_inj.mp h)
    have hdiv := Nat.div_add_mod (n - 2) elen.toNat
    rw [if_neg hzero]
    rcases hcount : (n - 2) / elen.toNat with _ | k
    · have hless : n - 2 < elen.toNat := by
        rcases Nat.div_eq_zero_iff.mp hcount with h | h
        · omega
        · exact h
      exact iff_of_true nofun (.inr (.inl hless))
    · rw [hcount, Nat.mul_succ, Nat.mul_comm] at hdiv
      constructor
      · intro h
        have hlast := h k (Nat.lt_succ_self k)
        exact .inr (.inr (by omega))
      · intro h i hi
        have hstep : i * elen.toNat ≤ k * elen.toNat :=
          Nat.mul_le_mul_right _ (Nat.lt_succ_iff.mp hi)
        rcases h with h | h | h
        · exact absurd h hzero
        · omega
        · omega

theorem places_serviceEntry {elen : UInt8} {e : ℕ} {rsp : ℕ → UInt8} :
    (serviceEntry elen e).places rsp = [e, e + 1, e + 2, e + 3] := by
  simp [serviceEntry, readLe16]

/-- A characteristic is read inside its entry. -/
theorem places_characteristicEntry {elen : UInt8} {e j : ℕ} {rsp : ℕ → UInt8}
    (h : j ∈ (characteristicEntry elen e).places rsp) : j < e + elen.toNat := by
  unfold characteristicEntry at h
  split_ifs at h with hseven
  · have hseven' : 7 ≤ elen.toNat := hseven
    simp [readLe16] at h
    omega
  · exact absurd h List.not_mem_nil

/-- An entry ends inside the response. -/
theorem entry_end {n i : ℕ} {elen : UInt8} (hn : 2 ≤ n) (h : i < entryCount n elen) :
    2 + i * elen.toNat + elen.toNat ≤ n := by
  unfold entryCount at h
  split_ifs at h with hzero
  · exact absurd h (Nat.not_lt_zero i)
  · have hfit : (i + 1) * elen.toNat ≤ n - 2 :=
      (Nat.mul_le_mul_right _ h).trans (Nat.div_mul_le_self _ _)
    rw [Nat.succ_mul] at hfit
    omega

/-- **The probe stays inside the responses** to its service and characteristic requests, and makes a
turn for each entry, iff the response to the service request is another one or the last service ends
inside it.
Source: `sw2d.c` `gatt_probe` -/
theorem gattProbe_bounded_iff (n n' : ℕ) (services characteristics : ℕ → UInt8)
    (hn : 2 ≤ n) (hn' : 2 ≤ n') :
    (Bounded (listServices n) n services ∧
        Bounded (listCharacteristics n') n' characteristics) ↔
      (services 0 = attReadByGroupRsp → LastEntryFits n (services 1)) := by
  have hservices : (∀ j ∈ (listServices n).places services, j < n) ↔
      (services 0 = attReadByGroupRsp → LastEntryFits n (services 1)) := by
    rw [listServices, inside_listResponse_iff hn, ← four_octets_iff hn]
    refine imp_congr_right fun _ => forall₂_congr fun i _ => ?_
    rw [places_serviceEntry]
    simp
    omega
  have hcharacteristics :
      ∀ j ∈ (listCharacteristics n').places characteristics, j < n' := by
    rw [listCharacteristics, inside_listResponse_iff hn']
    intro _ i hi j hj
    exact (places_characteristicEntry hj).trans_le (entry_end hn' hi)
  exact ⟨fun h => hservices.mp h.1.inside, fun h =>
    ⟨⟨hservices.mpr h, length_listResponse hn⟩, hcharacteristics, length_listResponse hn'⟩⟩

/-- A response of three octets, with entries of one. -/
def oneOctetServices : Octets := [attReadByGroupRsp, 0x01, 0x00]

/-- A response with one service, and one with one characteristic. -/
def oneService : Octets := [attReadByGroupRsp, 0x06, 0x01, 0x00, 0x07, 0x00, 0x00, 0x18]
def oneCharacteristic : Octets :=
  [attReadByTypeRsp, 0x07, 0x0e, 0x00, 0x10, 0x0f, 0x00, 0x00, 0x2a]

theorem gattProbe_oneService : Bounded (listServices 8) 8 oneService.octet ∧
    Bounded (listCharacteristics 9) 9 oneCharacteristic.octet :=
  (gattProbe_bounded_iff 8 9 oneService.octet oneCharacteristic.octet (by decide)
    (by decide)).mpr (by decide)

/-- The service of one octet is read outside the response. -/
theorem not_bounded_oneOctetServices : ¬Bounded (listServices 3) 3 oneOctetServices.octet := by
  intro h
  exact absurd (h.inside 5) (by decide +kernel)

end Switch2Bt.PacketReader
