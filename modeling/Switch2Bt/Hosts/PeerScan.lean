import Mathlib.Data.List.Find
import Switch2Bt.Codec.Reads
import Switch2Bt.Hosts.Scanners

/-!
# The scan for a peer (`sw2d_final.c`, `scan_for_peer_user`)

An LE Advertising Report event holds reports one behind the other, each with a length octet, and
each report AD structures, each with a length octet. The scan walks both by these octets, which
the peer chose, in a datagram that may be shorter than its header says. It reads no octet from
`plen` on, and takes the address of the first report with an AD structure of the controller, among
the reports that stand before the first that does not fit (`scanFrame_eq_some`). `plen` is what was
received, except for a datagram without its header: there the frame still has the length and the
octets of an earlier one (`scanFrame_exact_iff`).
-/

namespace Switch2Bt.Scanners

open Octets AdStructure Sw2d Reads

/-! ## The walk over the AD structures -/

/-- What the loop body reads of the manufacturer data at `m`.
Source: `sw2d_final.c` `adv_data_has_switch2_pro` (loop body) -/
def readManufacturerIds (m : ℕ) (el : UInt8) : Reads ℕ UInt8 (Option Ids) := do
  let cid ← readLe16 (m + 0)
  let vid ← whenElse (7 ≤ el) (readLe16 (m + 2)) 0
  let pid ← whenElse (7 ≤ el) (readLe16 (m + 4)) 0
  if (cid, vid, pid) = switch2ProIds then pure (some (cid, vid, pid))
  else
    let vid ← whenElse (cid = 0x0553 ∧ 10 ≤ el) (readLe16 (m + 5)) vid
    let pid ← whenElse (cid = 0x0553 ∧ 10 ≤ el) (readLe16 (m + 7)) pid
    pure (if (cid, vid, pid) = switch2ProIds then some (cid, vid, pid) else none)

/-- The walk over the `dlen` octets at `data`, from position `di`.
Source: `sw2d_final.c` `adv_data_has_switch2_pro` -/
def readSwitch2Pro (data : ℕ) (dlen : UInt8) (di : ℕ) : Reads ℕ UInt8 (Option Ids) :=
  if di + 2 < dlen.toNat then do
    let el ← cell (data + di)
    let ty ← cell (data + (di + 1))
    if el = 0 ∨ dlen.toNat < di + 1 + el.toNat then pure none
    else
      match ← whenElse (ty = adManufacturer ∧ 7 ≤ el) (readManufacturerIds (data + (di + 2)) el)
        none with
      | some ids => pure (some ids)
      | none => readSwitch2Pro data dlen (di + (1 + el.toNat))
  else pure none
termination_by dlen.toNat - di

/-! ## The walk over the reports -/

/-- The address of a peer and its type. -/
structure Peer where
  addr : Octets
  addrType : UInt8
deriving DecidableEq, Repr

/-- What is printed of a report when the program is verbose: the address and up to 32 octets of the
data.
Source: `sw2d_final.c` `scan_for_peer_user` (`verbose`), `hexdump` -/
def readVerbose (off : ℕ) (dlen : UInt8) : Reads ℕ UInt8 Unit := do
  let _ ← cells (List.range' (off + 2) 6)
  let _ ← cells (List.range' (off + 9) (min dlen.toNat 32))
  pure ()

/-- The loop over the reports, from report `ri` at `off`.
Source: `sw2d_final.c` `scan_for_peer_user` (loop over `ri`) -/
def scanReports (verbose : Bool) (plen nrep ri off : ℕ) : Reads ℕ UInt8 (Option Peer) :=
  if ri < nrep ∧ off + 10 ≤ plen then do
    let atype ← cell (off + 1)
    let dlen ← cell (off + 8)
    if plen < off + 10 + dlen.toNat then pure none
    else
      let _rssi ← cell (off + 9 + dlen.toNat)
      let _ ← whenElse (verbose = true) (readVerbose off dlen) ()
      match ← readSwitch2Pro (off + 9) dlen 0 with
      | some _ => do
          let peer ← cells (List.range' (off + 2) 6)
          pure (some ⟨peer, atype⟩)
      | none => scanReports verbose plen nrep (ri + 1) (off + (10 + dlen.toNat))
  else pure none
termination_by nrep - ri

/-- An LE Advertising Report.
Source: `sw2d_final.c` `scan_for_peer_user` (condition of `continue`) -/
def IsAdvReport (f : Frame) : Prop :=
  f.pktType = hciEventPkt ∧ f.evtCode = evtLeMeta ∧ f.subevent = 0x02 ∧ 3 ≤ f.payloadLen

instance (f : Frame) : Decidable (IsAdvReport f) := inferInstanceAs (Decidable (_ ∧ _))

/-- The octets of the payload that were read.
Source: `sw2d_final.c` `scan_for_peer_user` (`plen`) -/
def plen (f : Frame) : ℕ :=
  if 3 ≤ f.rawLen.toNat ∧ f.rawLen.toNat - 3 < f.payloadLen.toNat then f.rawLen.toNat - 3
  else f.payloadLen.toNat

/-- The peer a frame of the scan gives, if any; the count of the reports is read before the loop.
Source: `sw2d_final.c` `scan_for_peer_user` (body of the outer loop) -/
def scanFrame (verbose : Bool) (f : Frame) : Option Peer :=
  if IsAdvReport f then
    (scanReports verbose (plen f) (f.payload 1).toNat 0 2).run f.payload
  else none

/-! ## Statement -/

/-- Manufacturer data of the controller: company, vendor and product id behind each other, or the
vendor and product id three octets further on. -/
def HasSwitch2ProIds (s : AdStructure) : Prop :=
  s.adType = adManufacturer ∧
    ((7 ≤ s.len ∧ getLe16 s.data 0 = 0x0553 ∧ getLe16 s.data 2 = 0x057E ∧
        getLe16 s.data 4 = 0x2069) ∨
      (10 ≤ s.len ∧ getLe16 s.data 0 = 0x0553 ∧ getLe16 s.data 5 = 0x057E ∧
        getLe16 s.data 7 = 0x2069))

instance (s : AdStructure) : Decidable (HasSwitch2ProIds s) := inferInstanceAs (Decidable (_ ∧ _))

/-- The octets of the first report: ten, and as many as the length octet says. -/
def recordLen (bytes : Octets) : ℕ := 10 + (bytes.octet 8).toNat

/-- The reports in the octets of an event, at most `n` and up to the first that does not fit. -/
def records : ℕ → Octets → List Octets
  | 0, _ => []
  | n + 1, bytes =>
      if bytes.length < 10 ∨ bytes.length < recordLen bytes then []
      else bytes.take (recordLen bytes) :: records n (bytes.drop (recordLen bytes))

/-- Whether a report contains an AD structure of the controller. -/
def Advertises (record : Octets) : Prop :=
  ∃ s ∈ structures ((record.drop 9).take (record.octet 8).toNat), HasSwitch2ProIds s

instance (record : Octets) : Decidable (Advertises record) :=
  inferInstanceAs (Decidable (∃ s ∈ _, _))

/-- The peer of a report. -/
def peerOf (record : Octets) : Peer := ⟨record.slice 2 8, record.octet 1⟩

/-- The reports of a frame. -/
def frameRecords (f : Frame) : List Octets :=
  records (f.payload 1).toNat ((f.payloadTake (plen f)).drop 2)

/-! ## What is read -/

/-- The ids are read inside the structure. -/
theorem readManufacturerIds_sat {mem : ℕ → UInt8} {n m : ℕ} {el : UInt8} (hel : 7 ≤ el)
    (hfit : m + el.toNat ≤ n + 1) :
    (readManufacturerIds m el).Sat mem (· < n) fun _ => True := by
  have hseven : 7 ≤ el.toNat := hel
  have hword : ∀ i, i + 2 ≤ el.toNat - 1 → (readLe16 (m + i)).Sat mem (· < n) fun _ => True :=
    fun i hi => readLe16_sat (by omega) (by omega)
  refine Sat.bind ((hword 0 (by omega)).mono fun cid _ => ?_)
  refine Sat.bind (Sat.whenElse (fun _ => ?_) fun h => absurd hel h)
  refine (hword 2 (by omega)).mono fun vid _ => ?_
  refine Sat.bind (Sat.whenElse (fun _ => ?_) fun h => absurd hel h)
  refine (hword 4 (by omega)).mono fun pid _ => ?_
  refine Sat.ite (fun _ => Sat.pure trivial) fun _ => ?_
  have hlast : ∀ vid : UInt16, (whenElse (cid = 0x0553 ∧ 10 ≤ el) (readLe16 (m + 7)) pid >>=
      fun pid => pure (if (cid, vid, pid) = switch2ProIds then some (cid, vid, pid) else none)).Sat
        mem (· < n) fun _ => True := by
    refine fun vid => Sat.bind (Sat.whenElse (fun hten => ?_) fun _ => Sat.pure trivial)
    have hten' : 10 ≤ el.toNat := hten.2
    exact (hword 7 (by omega)).mono fun _ _ => Sat.pure trivial
  refine Sat.bind (Sat.whenElse (fun hten => ?_) fun _ => hlast vid)
  have hten' : 10 ≤ el.toNat := hten.2
  exact (hword 5 (by omega)).mono fun vid _ => hlast vid

/-- The walk over the structures reads the octets of the data. -/
theorem readSwitch2Pro_sat {mem : ℕ → UInt8} {n data : ℕ} {dlen : UInt8}
    (hfit : data + dlen.toNat ≤ n) (di : ℕ) :
    (readSwitch2Pro data dlen di).Sat mem (· < n) fun _ => True := by
  fun_induction readSwitch2Pro data dlen di with
  | case1 di h ih =>
      refine Sat.cell_bind (by omega) (Sat.cell_bind (by omega) (Sat.ite (fun _ => Sat.pure trivial)
        fun hrest => ?_))
      have hroom : di + 1 + (mem (data + di)).toNat ≤ dlen.toNat :=
        Nat.le_of_not_lt fun hlt => hrest (.inr hlt)
      have hnext := ih (mem (data + di)) hrest
      refine Sat.bind (Sat.whenElse (fun hman => ?_) fun _ => hnext)
      refine (readManufacturerIds_sat hman.2 (by omega)).mono fun found _ => ?_
      cases found with
      | some ids => exact Sat.pure trivial
      | none => exact hnext
  | case2 di h => exact Sat.pure trivial

theorem readVerbose_sat {mem : ℕ → UInt8} {n off : ℕ} {dlen : UInt8}
    (hfit : off + 10 + dlen.toNat ≤ n) : (readVerbose off dlen).Sat mem (· < n) fun _ => True := by
  refine Sat.bind (Sat.cells (fun i hi => ?_) (Sat.bind (Sat.cells (fun i hi => ?_)
    (Sat.pure trivial))))
  · obtain ⟨k, hk, rfl⟩ := List.mem_range'.mp hi
    omega
  · obtain ⟨k, hk, rfl⟩ := List.mem_range'.mp hi
    omega

/-- The loop over the reports reads octets before `plen`. -/
theorem scanReports_sat {mem : ℕ → UInt8} (verbose : Bool) (plen nrep ri off : ℕ) :
    (scanReports verbose plen nrep ri off).Sat mem (· < plen) fun _ => True := by
  fun_induction scanReports verbose plen nrep ri off with
  | case1 ri off h ih =>
      refine Sat.cell_bind (by omega) (Sat.cell_bind (by omega) (Sat.ite (fun _ => Sat.pure trivial)
        fun hroom => ?_))
      have hfit : off + 10 + (mem (off + 8)).toNat ≤ plen := by omega
      have hwalk : (readSwitch2Pro (off + 9) (mem (off + 8)) 0 >>= fun found =>
          match found with
          | some _ => do
              let peer ← cells (List.range' (off + 2) 6)
              pure (some ⟨peer, mem (off + 1)⟩)
          | none => scanReports verbose plen nrep (ri + 1) (off + (10 + (mem (off + 8)).toNat))).Sat
            mem (· < plen) fun _ => True := by
        refine Sat.bind ((readSwitch2Pro_sat (by omega) 0).mono fun found _ => ?_)
        cases found with
        | some _ =>
            refine Sat.bind (Sat.cells (fun i hi => ?_) (Sat.pure trivial))
            obtain ⟨k, hk, rfl⟩ := List.mem_range'.mp hi
            omega
        | none => exact ih (mem (off + 8))
      exact Sat.cell_bind (by omega) (Sat.bind (Sat.whenElse
        (fun _ => (readVerbose_sat hfit).mono fun _ _ => hwalk) fun _ => hwalk))
  | case2 ri off h => exact Sat.pure trivial

/-! ## What is found -/

/-- The ids that are read are those of the scanner. -/
theorem readManufacturerIds_run (bytes : Octets) (data m : ℕ) (el : UInt8) :
    (readManufacturerIds (data + m) el).run bytes.octet =
      manufacturerIds (bytes.drop data) m el := by
  unfold readManufacturerIds manufacturerIds
  simp only [run_bind, run_whenElse, run_ite, run_pure, readLe16_run, getLe16_drop, Nat.add_assoc]

/-- The walk is that of the scanner. -/
theorem readSwitch2Pro_run (bytes : Octets) (data : ℕ) (dlen : UInt8) (di : ℕ) :
    (readSwitch2Pro data dlen di).run bytes.octet =
      advDataHasSwitch2Pro (bytes.drop data) dlen di := by
  fun_induction readSwitch2Pro data dlen di with
  | case1 di h ih =>
      rw [advDataHasSwitch2Pro, if_pos h, octet_drop, octet_drop]
      rw [run_cell_bind, run_cell_bind, run_ite]
      by_cases hstop : bytes.octet (data + di) = 0 ∨
          dlen.toNat < di + 1 + (bytes.octet (data + di)).toNat
      · rw [if_pos hstop, if_pos hstop, run_pure]
      · rw [if_neg hstop, if_neg hstop, run_bind, run_whenElse, readManufacturerIds_run,
          ← ih _ hstop]
        generalize (if bytes.octet (data + (di + 1)) = adManufacturer ∧
          7 ≤ bytes.octet (data + di) then _ else none) = found
        cases found <;> rfl
  | case2 di h =>
      rw [advDataHasSwitch2Pro, if_neg h]
      rfl

/-- The ids of manufacturer data are found iff they are there. -/
theorem manufacturerIds_isSome (data : Octets) (m : ℕ) (el : UInt8) (hel : 7 ≤ el) :
    (manufacturerIds data m el).isSome ↔
      (getLe16 data m = 0x0553 ∧ getLe16 data (m + 2) = 0x057E ∧ getLe16 data (m + 4) = 0x2069) ∨
        (10 ≤ el ∧ getLe16 data m = 0x0553 ∧ getLe16 data (m + 5) = 0x057E ∧
          getLe16 data (m + 7) = 0x2069) := by
  unfold manufacturerIds
  simp only [hel, if_true, Nat.add_zero, switch2ProIds, Prod.mk.injEq]
  by_cases hfirst : getLe16 data m = 0x0553 ∧ getLe16 data (m + 2) = 0x057E ∧
      getLe16 data (m + 4) = 0x2069
  · rw [if_pos hfirst]
    exact iff_of_true rfl (.inl hfirst)
  · rw [if_neg hfirst]
    by_cases hten : getLe16 data m = 0x0553 ∧ 10 ≤ el
    · simp only [hten, and_self, if_true, true_and]
      split_ifs with hsecond
      · exact iff_of_true rfl (.inr hsecond)
      · refine iff_of_false (by simp) ?_
        rintro (h | h)
        · exact hfirst ⟨hten.1, h⟩
        · exact hsecond h
    · simp only [hten, if_false, hfirst]
      refine iff_of_false (by simp) ?_
      rintro (h | h)
      · exact h
      · exact hten ⟨h.2.1, h.1⟩

/-- The structure at the start of some octets. -/
theorem structures_cons (n ty : UInt8) (rest : Octets) :
    structures (n :: ty :: rest) = if n = 0 ∨ rest.length + 1 < n.toNat then []
      else ⟨ty, rest.take (n.toNat - 1), take_fits n rest⟩ ::
        structures (rest.drop (n.toNat - 1)) := by
  rw [structures]

theorem drop_eq_two {bytes : Octets} {i : ℕ} (h : i + 1 < bytes.length) :
    bytes.drop i = bytes.octet i :: bytes.octet (i + 1) :: bytes.drop (i + 2) := by
  rw [List.drop_eq_getElem_cons (show i < bytes.length by omega), List.drop_eq_getElem_cons h]
  simp [octet, show i < bytes.length by omega, h]

/-- A structure whose data are some octets has the ids iff they are in these octets. -/
theorem hasSwitch2ProIds_iff {bytes : Octets} {m : ℕ} {el ty : UInt8} {s : AdStructure}
    (hel : el ≠ 0) (hfit : m + (el.toNat - 1) ≤ bytes.length) (hty : s.adType = ty)
    (hdata : s.data = (bytes.drop m).take (el.toNat - 1)) :
    HasSwitch2ProIds s ↔ (ty = adManufacturer ∧ 7 ≤ el) ∧ (manufacturerIds bytes m el).isSome := by
  have hpos : 0 < el.toNat := Nat.pos_of_ne_zero fun h => hel (UInt8.toNat_inj.mp h)
  have hlen : s.len = el := by
    have hsize : s.data.length = el.toNat - 1 := by
      rw [hdata, List.length_take, List.length_drop]
      omega
    rw [← UInt8.toNat_inj, toNat_len, hsize]
    omega
  have hword : ∀ k, k + 2 ≤ el.toNat - 1 → getLe16 s.data k = getLe16 bytes (m + k) := by
    intro k hk
    rw [← getLe16_drop, hdata]
    unfold getLe16
    rw [octet_take (by omega), octet_take (by omega)]
  unfold HasSwitch2ProIds
  rw [hty, hlen]
  by_cases hman : ty = adManufacturer ∧ 7 ≤ el
  · have hseven : 7 ≤ el.toNat := hman.2
    rw [manufacturerIds_isSome bytes m el hman.2, hword 0 (by omega), hword 2 (by omega),
      hword 4 (by omega)]
    simp only [hman, and_self, true_and, Nat.add_zero]
    refine or_congr Iff.rfl (and_congr_right fun hten => ?_)
    have hten' : 10 ≤ el.toNat := hten
    rw [hword 5 (by omega), hword 7 (by omega)]
  · refine iff_of_false ?_ fun h => hman h.1
    rintro ⟨hff, ⟨hseven, -⟩ | ⟨hten, -⟩⟩
    · exact hman ⟨hff, hseven⟩
    · exact hman ⟨hff, UInt8.le_trans (by decide) hten⟩

/-- The structures from a position on: none at a length octet that ends the chain, else one and
those behind it. -/
theorem structures_drop {bytes : Octets} {n di : ℕ} (hlen : n ≤ bytes.length) (hdi : di + 2 < n) :
    if bytes.octet di = 0 ∨ n < di + 1 + (bytes.octet di).toNat then
      structures ((bytes.take n).drop di) = []
    else ∃ s : AdStructure,
      structures ((bytes.take n).drop di) =
          s :: structures ((bytes.take n).drop (di + (1 + (bytes.octet di).toNat))) ∧
        s.adType = bytes.octet (di + 1) ∧
        s.data = (bytes.drop (di + 2)).take ((bytes.octet di).toNat - 1) := by
  have hcons : (bytes.take n).drop di =
      bytes.octet di :: bytes.octet (di + 1) :: (bytes.take n).drop (di + 2) := by
    rw [drop_eq_two (by rw [List.length_take]; omega), octet_take (by omega),
      octet_take (by omega)]
  have hrest : ((bytes.take n).drop (di + 2)).length = n - (di + 2) := by
    rw [List.length_drop, List.length_take]
    omega
  have hover : ((bytes.take n).drop (di + 2)).length + 1 < (bytes.octet di).toNat ↔
      n < di + 1 + (bytes.octet di).toNat := by
    rw [hrest]
    omega
  rw [hcons, structures_cons]
  simp only [hover]
  split_ifs with hstop
  · rfl
  · obtain ⟨hne, hfit⟩ := not_or.mp hstop
    have hpos : 0 < (bytes.octet di).toNat :=
      Nat.pos_of_ne_zero fun h => hne (UInt8.toNat_inj.mp h)
    refine ⟨⟨bytes.octet (di + 1), _,
      take_fits (bytes.octet di) ((bytes.take n).drop (di + 2))⟩, ?_, rfl, ?_⟩
    · rw [List.drop_drop]
      congr 3
      omega
    · show ((bytes.take n).drop (di + 2)).take _ = _
      rw [List.drop_take, List.take_take, Nat.min_eq_left (by omega)]

/-- What remains when the scanner stops has no room for the ids. -/
theorem not_hasSwitch2ProIds_short {chunk : Octets} (h : chunk.length ≤ 2) :
    ¬∃ s ∈ structures chunk, HasSwitch2ProIds s := by
  rintro ⟨s, hs, -, hids⟩
  rcases chunk with _ | ⟨n, _ | ⟨ty, _ | ⟨x, rest⟩⟩⟩
  · simp [structures] at hs
  · simp [structures] at hs
  · rw [structures_cons] at hs
    split_ifs at hs with hstop
    · exact absurd hs List.not_mem_nil
    · have hone : s = ⟨ty, [].take (n.toNat - 1), take_fits n []⟩ := by
        simpa [structures] using hs
      have hlen : s.len.toNat = 1 := by
        rw [toNat_len, hone]
        simp
      rcases hids with ⟨hlong, -⟩ | ⟨hlong, -⟩
      · exact absurd (hlen ▸ UInt8.le_iff_toNat_le.mp hlong) (by decide)
      · exact absurd (hlen ▸ UInt8.le_iff_toNat_le.mp hlong) (by decide)
  · simp at h

/-- The scanner finds the ids iff a structure has them. -/
theorem advDataHasSwitch2Pro_isSome (bytes : Octets) (dlen : UInt8) (di : ℕ)
    (hlen : dlen.toNat ≤ bytes.length) :
    (advDataHasSwitch2Pro bytes dlen di).isSome ↔
      ∃ s ∈ structures ((bytes.take dlen.toNat).drop di), HasSwitch2ProIds s := by
  fun_induction advDataHasSwitch2Pro bytes dlen di with
  | case1 di h el hstop =>
      have hnone := structures_drop hlen h
      rw [if_pos hstop] at hnone
      simp [hnone]
  | case2 di h el ty hgo ids hids =>
      have hsome := structures_drop hlen h
      rw [if_neg hgo] at hsome
      obtain ⟨s, hs, hty, hdata⟩ := hsome
      obtain ⟨hne, hroom⟩ := not_or.mp hgo
      refine iff_of_true rfl ⟨s, hs ▸ List.mem_cons_self, ?_⟩
      refine (hasSwitch2ProIds_iff hne (by omega) hty hdata).mpr ?_
      split at hids
      · rename_i hman
        exact ⟨hman, hids ▸ rfl⟩
      · cases hids
  | case3 di h el ty hgo hids ih =>
      have hsome := structures_drop hlen h
      rw [if_neg hgo] at hsome
      obtain ⟨s, hs, hty, hdata⟩ := hsome
      obtain ⟨hne, hroom⟩ := not_or.mp hgo
      have hnot : ¬HasSwitch2ProIds s := by
        intro hhas
        obtain ⟨hman, hfound⟩ := (hasSwitch2ProIds_iff hne (by omega) hty hdata).mp hhas
        rw [dif_pos hman] at hids
        rw [hids] at hfound
        cases hfound
      rw [ih, hs]
      simp only [List.mem_cons, exists_eq_or_imp, hnot, false_or]
      exact Iff.rfl
  | case4 di h =>
      refine iff_of_false nofun (not_hasSwitch2ProIds_short ?_)
      rw [List.length_drop, List.length_take]
      omega

/-! ## The reports -/

/-- The first report behind `off`, if there is one more. -/
theorem records_drop (n : ℕ) (bytes : Octets) (off : ℕ) :
    records (n + 1) (bytes.drop off) =
      if bytes.length < off + 10 ∨ bytes.length < off + (10 + (bytes.octet (off + 8)).toNat) then []
      else (bytes.drop off).take (10 + (bytes.octet (off + 8)).toNat) ::
        records n (bytes.drop (off + (10 + (bytes.octet (off + 8)).toNat))) := by
  have hlen : recordLen (bytes.drop off) = 10 + (bytes.octet (off + 8)).toNat := by
    rw [recordLen, octet_drop]
  rw [records, hlen, List.length_drop, List.drop_drop]
  refine if_congr ?_ rfl rfl
  omega

/-- What the loop finds in a report that fits. -/
theorem advertises_iff {bytes : Octets} {off : ℕ}
    (h : off + (10 + (bytes.octet (off + 8)).toNat) ≤ bytes.length) :
    Advertises ((bytes.drop off).take (10 + (bytes.octet (off + 8)).toNat)) ↔
      ((readSwitch2Pro (off + 9) (bytes.octet (off + 8)) 0).run bytes.octet).isSome := by
  have hdata : (bytes.drop (off + 9)).take (bytes.octet (off + 8)).toNat =
      (((bytes.drop off).take (10 + (bytes.octet (off + 8)).toNat)).drop 9).take
        (octet ((bytes.drop off).take (10 + (bytes.octet (off + 8)).toNat)) 8).toNat := by
    rw [octet_take (by omega), octet_drop, List.drop_take, List.drop_drop, List.take_take,
      Nat.min_eq_left (by omega)]
  rw [readSwitch2Pro_run, advDataHasSwitch2Pro_isSome _ _ _ (by rw [List.length_drop]; omega),
    List.drop_zero, hdata]
  rfl

/-- The loop finds the first report that advertises the controller. -/
theorem scanReports_run (verbose : Bool) (bytes : Octets) (nrep ri off : ℕ) :
    (scanReports verbose bytes.length nrep ri off).run bytes.octet =
      ((records (nrep - ri) (bytes.drop off)).find? (Advertises ·)).map peerOf := by
  generalize hplen : bytes.length = plen
  fun_induction scanReports verbose plen nrep ri off with
  | case1 ri off h ih =>
      obtain ⟨n, hn⟩ : ∃ n, nrep - ri = n + 1 := ⟨nrep - ri - 1, by omega⟩
      have hnext : nrep - (ri + 1) = n := by omega
      rw [run_cell_bind, run_cell_bind, run_ite, hn, records_drop, hplen]
      by_cases hshort : plen < off + 10 + (bytes.octet (off + 8)).toNat
      · rw [if_pos hshort, if_pos (by omega)]
        rfl
      · have hfit : off + (10 + (bytes.octet (off + 8)).toNat) ≤ bytes.length := by omega
        have hadv := advertises_iff hfit
        rw [if_neg hshort, if_neg (by omega), run_cell_bind, run_bind, run_bind]
        rcases hfound : (readSwitch2Pro (off + 9) (bytes.octet (off + 8)) 0).run bytes.octet with
          _ | ids
        · rw [hfound] at hadv
          rw [List.find?_cons_of_neg (by simpa using hadv), ← hnext]
          exact ih _
        · rw [hfound] at hadv
          rw [List.find?_cons_of_pos (by simpa using hadv)]
          dsimp only
          rw [run_bind, run_cells, run_pure, map_octet_range' bytes _ _ (by omega), Option.map_some,
            peerOf, slice, octet_take (by omega), octet_drop, List.drop_take, List.drop_drop,
            List.take_take, Nat.min_eq_left (by omega)]
  | case2 ri off h =>
      rw [run_pure]
      by_cases hri : ri < nrep
      · obtain ⟨n, hn⟩ : ∃ n, nrep - ri = n + 1 := ⟨nrep - ri - 1, by omega⟩
        rw [hn, records_drop, hplen, if_pos (by omega)]
        rfl
      · rw [Nat.sub_eq_zero_of_le (by omega)]
        rfl

/-- A scan stops at the first report that advertises the controller. -/
def FirstAdvertised (records : List Octets) (p : Peer) : Prop :=
  ∃ before record after, records = before ++ record :: after ∧
    (∀ r ∈ before, ¬Advertises r) ∧ Advertises record ∧ p = peerOf record

/-- The peer of a frame is that of the first of its reports that advertises the controller. -/
theorem scanFrame_eq (verbose : Bool) (f : Frame) :
    scanFrame verbose f =
      if IsAdvReport f then ((frameRecords f).find? (Advertises ·)).map peerOf else none := by
  have hlen : (f.payloadTake (plen f)).length = plen f := f.payloadTake_length _
  -- only octets before `plen` decide
  have hlocal : (scanReports verbose (plen f) (f.payload 1).toNat 0 2).run f.payload =
      (scanReports verbose (plen f) (f.payload 1).toNat 0 2).run
        (f.payloadTake (plen f)).octet := by
    refine run_congr _ fun i hi => ?_
    exact (f.payloadTake_octet ((scanReports_sat verbose _ _ _ _).1 i hi)).symm
  have hrun := scanReports_run verbose (f.payloadTake (plen f)) (f.payload 1).toNat 0 2
  rw [hlen, Nat.sub_zero] at hrun
  rw [scanFrame, hlocal, hrun]
  rfl

/-! ## Events with several reports -/

/-- A report, of an event with other reports. -/
structure Report where
  eventType : UInt8
  addrType : UInt8
  addr : Addr
  data : Octets
  rssi : UInt8

/-- Source: `test_adv_parse.c` `build_report` (`rep`) -/
def Report.wire (r : Report) : Octets :=
  [r.eventType, r.addrType] ++ r.addr.toList ++ [UInt8.ofNat r.data.length] ++ r.data ++ [r.rssi]

/-- The parameters of an event with some reports. -/
def advParams (rs : List Report) : Octets :=
  [0x02, UInt8.ofNat rs.length] ++ rs.flatMap Report.wire

/-- An event with some reports.
Source: `test_adv_parse.c` `build_report` -/
def advEvent (rs : List Report) : Octets :=
  [hciEventPkt, evtLeMeta, UInt8.ofNat (advParams rs).length] ++ advParams rs

/-- Whether the data of a report contain an AD structure of the controller. -/
def Report.Advertises (r : Report) : Prop := ∃ s ∈ structures r.data, HasSwitch2ProIds s

instance (r : Report) : Decidable r.Advertises := inferInstanceAs (Decidable (∃ s ∈ _, _))

/-- The reports that fit into an event. -/
def Fits (rs : List Report) : Prop := (advParams rs).length ≤ 255

instance (rs : List Report) : Decidable (Fits rs) := inferInstanceAs (Decidable (_ ≤ _))

theorem Report.length_wire (r : Report) : r.wire.length = 10 + r.data.length := by
  simp [wire]
  omega

/-- A report: eight octets, the length octet, the data and one more octet. -/
theorem Report.wire_eq (r : Report) (rest : Octets) : ∃ pre : Octets, pre.length = 8 ∧
    pre.slice 2 8 = r.addr.toList ∧ pre.octet 1 = r.addrType ∧
    r.wire ++ rest = pre ++ (UInt8.ofNat r.data.length :: (r.data ++ r.rssi :: rest)) := by
  refine ⟨[r.eventType, r.addrType] ++ r.addr.toList, by simp, ?_, rfl, ?_⟩
  · simp [slice]
  · simp [wire]

section wire

variable {r : Report} {rest : Octets}

theorem Report.octet_length (h : r.data.length ≤ 255) :
    (octet (r.wire ++ rest) 8).toNat = r.data.length := by
  obtain ⟨pre, hpre, -, -, hwire⟩ := r.wire_eq rest
  have hat := octet_append_add pre (UInt8.ofNat r.data.length :: (r.data ++ r.rssi :: rest)) 0
  rw [hpre] at hat
  rw [hwire, hat]
  simp only [octet, List.getD_cons_zero, UInt8.toNat_ofNat']
  omega

/-- The first record of some reports. -/
theorem Report.recordLen (h : r.data.length ≤ 255) :
    Scanners.recordLen (r.wire ++ rest) = r.wire.length := by
  rw [Scanners.recordLen, Report.octet_length h, r.length_wire]

/-- The record of a report advertises the controller iff its data do. -/
theorem Report.advertises_wire (h : r.data.length ≤ 255) :
    Scanners.Advertises r.wire ↔ r.Advertises := by
  have hlen : (octet (r.wire ++ []) 8).toNat = r.data.length := Report.octet_length h
  rw [List.append_nil] at hlen
  obtain ⟨pre, hpre, -, -, hwire⟩ := r.wire_eq []
  have hdrop : r.wire.drop 9 = r.data ++ [r.rssi] := by
    rw [← List.append_nil r.wire, hwire, show 9 = pre.length + 1 by omega, ← List.drop_drop,
      List.drop_left]
    rfl
  unfold Scanners.Advertises Report.Advertises
  rw [hlen, hdrop, List.take_left]

theorem Report.peerOf_wire (r : Report) : peerOf r.wire = ⟨r.addr.toList, r.addrType⟩ := by
  obtain ⟨pre, hpre, haddr, htype, hwire⟩ := r.wire_eq []
  rw [List.append_nil] at hwire
  rw [peerOf, hwire, octet_read (by omega), htype, ← haddr, slice, slice,
    List.drop_append_of_le_length (by omega), List.take_append_of_le_length (by simp; omega)]

/-- The records of some reports are the reports. -/
theorem records_wire (rs : List Report) (h : ∀ r ∈ rs, r.data.length ≤ 255) :
    records rs.length (rs.flatMap Report.wire) = rs.map Report.wire := by
  induction rs with
  | nil => rfl
  | cons r rs ih =>
      have hr := h r List.mem_cons_self
      have hlen := r.length_wire
      rw [List.flatMap_cons, List.length_cons, records, Report.recordLen hr, List.length_append,
        if_neg (by omega), List.take_left, List.drop_left, List.map_cons,
        ih fun r hr => h r (List.mem_cons_of_mem _ hr)]

end wire

/-- Ten octets or more for each report. -/
theorem le_length_advParams (rs : List Report) :
    2 + 10 * rs.length ≤ (advParams rs).length ∧
      ∀ r ∈ rs, r.data.length ≤ (advParams rs).length := by
  induction rs with
  | nil => exact ⟨le_refl _, nofun⟩
  | cons r rs ih =>
      have hlen : (advParams (r :: rs)).length = r.wire.length + (advParams rs).length := by
        simp only [advParams, List.flatMap_cons, List.length_append, List.length_cons,
          List.length_nil]
        omega
      have hwire := r.length_wire
      refine ⟨by rw [List.length_cons]; omega, fun r' hr' => ?_⟩
      rcases List.mem_cons.mp hr' with rfl | hr'
      · omega
      · exact (ih.2 r' hr').trans (by omega)

/-- The frame that an event leaves. -/
theorem parse_advEvent (f₀ : Frame) {rs : List Report} (hfits : Fits rs) :
    (f₀.parse (advEvent rs)).payloadTake (advParams rs).length = advParams rs ∧
      plen (f₀.parse (advEvent rs)) = (advParams rs).length ∧
      (IsAdvReport (f₀.parse (advEvent rs)) ↔ 3 ≤ (advParams rs).length) := by
  have hmin := (le_length_advParams rs).1
  have hparams : (advParams rs).length ≤ 255 := hfits
  have hlen : (advEvent rs).length = 3 + (advParams rs).length := by
    simp only [advEvent, List.length_append, List.length_cons, List.length_nil]
  have hbehind : ∀ i, octet (advEvent rs) (3 + i) = (advParams rs).octet i :=
    octet_append_add [hciEventPkt, evtLeMeta, UInt8.ofNat (advParams rs).length] (advParams rs)
  have hsize : octet (advEvent rs) 2 = UInt8.ofNat (advParams rs).length := rfl
  have hpkt : octet (advEvent rs) 0 = hciEventPkt := rfl
  obtain ⟨hevt, hoff, hpayload⟩ := Frame.parse_event (f := f₀) hpkt (by omega)
  have hpayloadLen : (f₀.parse (advEvent rs)).payloadLen.toNat = (advParams rs).length := by
    rw [hpayload, hsize, UInt8.toNat_toUInt16, UInt8.toNat_ofNat']
    omega
  have hrawLen : (f₀.parse (advEvent rs)).rawLen = UInt16.ofNat (advEvent rs).length := by
    simp only [Frame.parse, Frame.parseEvent, Frame.parseAcl]
    split_ifs <;> rfl
  have hraw : (f₀.parse (advEvent rs)).rawLen.toNat = 3 + (advParams rs).length := by
    rw [hrawLen, hlen, UInt16.toNat_ofNat']
    omega
  have hoctet : ∀ i < (advParams rs).length,
      (f₀.parse (advEvent rs)).payload i = (advParams rs).octet i := by
    intro i hi
    rw [Frame.payload, hoff, Frame.parse_raw, octet_read (by omega), hbehind]
  refine ⟨?_, ?_, ?_⟩
  · apply List.ext_getElem
    · exact Frame.payloadTake_length _ _
    · intro i hi hi'
      have hat := hoctet i hi'
      simpa [Frame.payloadTake, octet, List.getElem?_eq_getElem hi'] using hat
  · rw [plen, hraw, hpayloadLen, if_neg (by omega)]
  · have hsub : (f₀.parse (advEvent rs)).subevent = 0x02 := by
      have htwo : 2 ≤ (octet (advEvent rs) 2).toUInt16 := by
        rw [← hpayload]
        have htwo : 2 ≤ (f₀.parse (advEvent rs)).payloadLen.toNat := by omega
        exact UInt16.le_iff_toNat_le.mpr htwo
      rw [Frame.parse_subevent rfl (by omega), if_pos ⟨rfl, htwo⟩, Frame.parse_raw,
        octet_read (by omega)]
      rfl
    have hthree : 3 ≤ (f₀.parse (advEvent rs)).payloadLen ↔ 3 ≤ (advParams rs).length := by
      rw [UInt16.le_iff_toNat_le, hpayloadLen]
      rfl
    unfold IsAdvReport
    rw [Frame.parse_pktType, hevt, hsub, hthree]
    exact ⟨fun h => h.2.2.2, fun h => ⟨rfl, rfl, rfl, h⟩⟩

/-- The scan of an event gives the first report that advertises the controller. -/
theorem scanFrame_advEvent (verbose : Bool) (f₀ : Frame) {rs : List Report} (hfits : Fits rs) :
    scanFrame verbose (f₀.parse (advEvent rs)) =
      (rs.find? (Report.Advertises ·)).map fun r => ⟨r.addr.toList, r.addrType⟩ := by
  obtain ⟨htake, hplen, hadv⟩ := parse_advEvent f₀ hfits
  obtain ⟨hmin, hdata⟩ := le_length_advParams rs
  have hparams : (advParams rs).length ≤ 255 := hfits
  have hshort : ∀ r ∈ rs, r.data.length ≤ 255 := fun r hr => (hdata r hr).trans hparams
  cases rs with
  | nil => rw [scanFrame, if_neg (hadv.not.mpr (by decide))]; rfl
  | cons r rs' =>
      have hcount : ((f₀.parse (advEvent (r :: rs'))).payload 1).toNat = (r :: rs').length := by
        have hone := Frame.payloadTake_octet (f₀.parse (advEvent (r :: rs')))
          (show 1 < (advParams (r :: rs')).length by rw [List.length_cons] at hmin; omega)
        rw [htake] at hone
        rw [← hone]
        show (UInt8.ofNat (r :: rs').length).toNat = _
        rw [UInt8.toNat_ofNat']
        omega
      have hrecords : frameRecords (f₀.parse (advEvent (r :: rs'))) =
          (r :: rs').map Report.wire := by
        rw [frameRecords, hcount, hplen, htake]
        exact records_wire _ hshort
      rw [scanFrame_eq, if_pos (hadv.mpr (by rw [List.length_cons] at hmin; omega)), hrecords,
        List.find?_map, Option.map_map]
      have hfind : (r :: rs').find? ((Scanners.Advertises ·) ∘ Report.wire) =
          (r :: rs').find? (Report.Advertises ·) :=
        List.find?_congr fun r hr => decide_eq_decide.mpr (Report.advertises_wire (hshort r hr))
      rw [hfind]
      exact congrArg (Option.map · _) (funext Report.peerOf_wire)

/-! ## The scan -/

/-- The octets of the payload that were received; none of a datagram without its header. -/
def received (f : Frame) : ℕ := min f.payloadLen.toNat (f.rawLen.toNat - 3)

/-- The reports that were received. -/
def receivedRecords (f : Frame) : List Octets :=
  records (f.payload 1).toNat ((f.payloadTake (received f)).drop 2)

/-- The scan of a frame reads only octets that were received, and gives a peer iff the frame is an
advertising report and a report that was received advertises the controller: the peer of the first
that does. -/
structure ScanExact (verbose : Bool) (f : Frame) : Prop where
  reads : IsAdvReport f →
    ∀ i ∈ (scanReports verbose (plen f) (f.payload 1).toNat 0 2).places f.payload, i < received f
  peer : ∀ p, scanFrame verbose f = some p ↔ IsAdvReport f ∧ FirstAdvertised (receivedRecords f) p

/-- The datagram had its header, or what an earlier one left in the frame is no advertising report,
one without reports, or one with no room for any. -/
def Scannable (f : Frame) : Prop :=
  3 ≤ f.rawLen.toNat ∨ ¬IsAdvReport f ∨ (f.payload 1).toNat = 0 ∨ f.payloadLen.toNat < 12

instance (f : Frame) : Decidable (Scannable f) := inferInstanceAs (Decidable (_ ∨ _))

/-- What the scan takes for received is what was received, if the header was. -/
theorem plen_eq_received {f : Frame} (h : 3 ≤ f.rawLen.toNat) : plen f = received f := by
  unfold plen received
  split_ifs with hlong <;> omega

/-- Without the header the length of an earlier datagram counts. -/
theorem plen_of_short {f : Frame} (h : f.rawLen.toNat < 3) :
    plen f = f.payloadLen.toNat ∧ received f = 0 := by
  unfold plen received
  rw [if_neg (by omega)]
  omega

/-- The loop looks at no report. -/
theorem scanReports_none {verbose : Bool} {plen nrep : ℕ} (h : nrep = 0 ∨ plen < 12) :
    scanReports verbose plen nrep 0 2 = pure none := by
  rw [scanReports, if_neg (by omega)]

/-- It looks at one, and reads its octets. -/
theorem mem_places_scanReports {verbose : Bool} {plen nrep : ℕ} (mem : ℕ → UInt8) (hrep : 0 < nrep)
    (hplen : 12 ≤ plen) : 3 ∈ (scanReports verbose plen nrep 0 2).places mem := by
  rw [scanReports, if_pos ⟨hrep, hplen⟩]
  exact List.mem_cons_self

/-- No report was received, where none has room. -/
theorem records_of_short (n : ℕ) {bytes : Octets} (h : bytes.length < 10) :
    records n bytes = [] := by
  cases n with
  | zero => rfl
  | succ n => rw [records, if_pos (.inl h)]

/-- The scan finds the first report up to `plen` that advertises the controller. -/
theorem scanFrame_eq_some (verbose : Bool) (f : Frame) (p : Peer) :
    scanFrame verbose f = some p ↔ IsAdvReport f ∧ FirstAdvertised (frameRecords f) p := by
  rw [scanFrame_eq]
  by_cases hadv : IsAdvReport f
  · rw [if_pos hadv, Option.map_eq_some_iff]
    constructor
    · rintro ⟨record, hfind, rfl⟩
      obtain ⟨hhas, before, after, hsplit, hbefore⟩ := List.find?_eq_some_iff_append.mp hfind
      exact ⟨hadv, before, record, after, hsplit, fun r hr => by simpa using hbefore r hr,
        by simpa using hhas, rfl⟩
    · rintro ⟨-, before, record, after, hsplit, hbefore, hhas, rfl⟩
      exact ⟨record, List.find?_eq_some_iff_append.mpr ⟨by simpa using hhas, before, after, hsplit,
        fun r hr => by simpa using hbefore r hr⟩, rfl⟩
  · rw [if_neg hadv]
    exact iff_of_false nofun fun h => hadv h.1

/-- Where the loop looks at no report, none was received either. -/
theorem scanExact_of_none {verbose : Bool} {f : Frame}
    (h : (f.payload 1).toNat = 0 ∨ f.payloadLen.toNat < 12) : ScanExact verbose f := by
  have hreceived : received f ≤ f.payloadLen.toNat := Nat.min_le_left _ _
  have hplen : plen f ≤ f.payloadLen.toNat := by
    unfold plen
    split_ifs with hlong <;> omega
  have hnone : scanReports verbose (plen f) (f.payload 1).toNat 0 2 = pure none :=
    scanReports_none (h.imp_right hplen.trans_lt)
  have hrecords : receivedRecords f = [] := by
    rcases h with hzero | hshort
    · rw [receivedRecords, hzero]
      rfl
    · refine records_of_short _ ?_
      rw [List.length_drop, Frame.payloadTake_length]
      omega
  refine ⟨fun _ i hi => ?_, fun p => ?_⟩
  · rw [hnone] at hi
    cases hi
  · refine iff_of_false ?_ ?_
    · rw [scanFrame, hnone]
      split <;> exact nofun
    · rintro ⟨-, before, record, after, hsplit, -⟩
      rw [hrecords] at hsplit
      exact absurd hsplit (by simp)

/-- The scan of a frame is exact iff the datagram had its header, or nothing that an earlier one
left is looked at. -/
theorem scanExact_iff (verbose : Bool) (f : Frame) : ScanExact verbose f ↔ Scannable f := by
  constructor
  · intro h
    by_contra hnot
    obtain ⟨hshort, hadv, hcount, hroom⟩ : f.rawLen.toNat < 3 ∧ IsAdvReport f ∧
        (f.payload 1).toNat ≠ 0 ∧ 12 ≤ f.payloadLen.toNat := by
      simpa [Scannable] using hnot
    obtain ⟨hplen, hreceived⟩ := plen_of_short hshort
    have hread := h.reads hadv 3
      (mem_places_scanReports f.payload (Nat.pos_of_ne_zero hcount) (hplen ▸ hroom))
    rw [hreceived] at hread
    exact Nat.not_lt_zero 3 hread
  · rintro (hraw | hadv | hnone)
    · have hplen := plen_eq_received hraw
      refine ⟨fun _ => ?_, fun p => ?_⟩
      · rw [← hplen]
        exact (scanReports_sat verbose _ _ _ _).1
      · rw [scanFrame_eq_some, frameRecords, hplen]
        rfl
    · refine ⟨fun h => absurd h hadv, fun p => iff_of_false ?_ fun h => hadv h.1⟩
      rw [scanFrame, if_neg hadv]
      exact nofun
    · exact scanExact_of_none hnone

/-- **The scan is exact iff the datagram had its header.** The frame of a datagram of one or two
octets keeps the length and the payload of an earlier one: if that was an advertising report with
room for a report, its octets are scanned, and may give a peer. The scan of an event with several
reports gives the first of them that advertises the controller.
Source: `sw2d_final.c` `scan_for_peer_user`, `hci_transport_user.c` `hci_user_read_frame` -/
theorem scanFrame_exact_iff (verbose : Bool) (f : Frame) (rs : List Report) (hfits : Fits rs) :
    (ScanExact verbose f ↔ Scannable f) ∧
      scanFrame verbose (f.parse (advEvent rs)) =
        (rs.find? (Report.Advertises ·)).map fun r => ⟨r.addr.toList, r.addrType⟩ :=
  ⟨scanExact_iff verbose f, scanFrame_advEvent verbose f hfits⟩

/-- A report of another device. -/
def otherReport : Report :=
  ⟨0x00, 0x01, publicConfig.peerAddr, payload [flagsAd], 0xc3⟩

/-- A report of the controller. -/
def proReport : Report :=
  ⟨0x00, 0x01, #v[0x76, 0xc6, 0x3b, 0xbf, 0xef, 0xe0], payload [flagsAd, padAd], 0xc3⟩

/-- A frame into which nothing was read. -/
def emptyFrame : Frame := ⟨0, 0, 0, 0, 0, 0, 0, 0, 0, 0, 0, [], 0⟩

/-- The report of the controller advertises it, and that of the other device does not. -/
theorem advertises_reports : proReport.Advertises ∧ ¬otherReport.Advertises := by
  have hadv : ∀ ads : List AdStructure,
      (∃ s ∈ structures (payload ads), HasSwitch2ProIds s) ↔ ∃ s ∈ ads, HasSwitch2ProIds s := by
    intro ads
    rw [structures_payload]
  exact ⟨(hadv [flagsAd, padAd]).mpr (by decide), (hadv [flagsAd]).not.mpr (by decide)⟩

/-- The scan passes the other device over. -/
theorem scanFrame_otherReport :
    scanFrame true (emptyFrame.parse (advEvent [otherReport, proReport])) =
      some ⟨[0x76, 0xc6, 0x3b, 0xbf, 0xef, 0xe0], 0x01⟩ := by
  obtain ⟨hpro, hother⟩ := advertises_reports
  rw [(scanFrame_exact_iff true emptyFrame [otherReport, proReport] (by decide)).2,
    List.find?_cons_of_neg (by simpa using hother), List.find?_cons_of_pos (by simpa using hpro)]
  rfl

/-- The event of the controller, with a length octet in its report that overruns the event. -/
def overrunEvent : Octets := (advEvent [proReport]).set 13 0xff

/-- Three datagrams of a scan: an event whose report overruns it, the event of the controller, cut
behind the length octet of its report, and the first octet of an event. -/
def cutDatagrams : List Octets := [overrunEvent, (advEvent [proReport]).take 14, [hciEventPkt]]

/-- The frame after them. -/
def cutFrame : Frame := cutDatagrams.foldl Frame.parse emptyFrame

/-- The first two give no peer, and the third one does: of its one octet nothing is a report. -/
theorem not_scanExact_cut :
    (∀ n < 3, ∀ verbose, scanFrame verbose ((cutDatagrams.take n).foldl Frame.parse emptyFrame) =
      none) ∧
    scanFrame true cutFrame = some ⟨[0x76, 0xc6, 0x3b, 0xbf, 0xef, 0xe0], 0x01⟩ ∧
      ¬ScanExact true cutFrame := by
  have hnone : ∀ {verbose : Bool} {f : Frame}, frameRecords f = [] →
      scanFrame verbose f = none := by
    intro verbose f h
    rw [scanFrame_eq, h]
    split <;> rfl
  refine ⟨fun n hn verbose => ?_, ?_, (scanExact_iff true cutFrame).not.mpr (by decide)⟩
  · have hrecords : ∀ n < 3,
        frameRecords ((cutDatagrams.take n).foldl Frame.parse emptyFrame) = [] := by
      decide
    exact hnone (hrecords n hn)
  · have hrecords : frameRecords cutFrame = [proReport.wire] := by decide
    have hpro : Scanners.Advertises proReport.wire :=
      (Report.advertises_wire (by decide)).mpr advertises_reports.1
    rw [scanFrame_eq, if_pos (by decide), hrecords, List.find?_cons_of_pos (by simpa using hpro)]
    rfl

end Switch2Bt.Scanners
