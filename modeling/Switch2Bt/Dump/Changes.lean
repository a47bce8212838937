import Switch2Bt.Dump.Analysable

/-!
# Three counts of changes

The probe notes for each report where it differs from the last one, `byte_frequency` counts the
differences of neighbours again, and `summary` looks for positions with one value. For reports of
one length they tell the same (`changes_agree`): all three are read off `changes`, the number of
neighbours in the column of a position that differ.
-/

namespace Switch2Bt.Dump

open Octets Json

/-! ## Statement -/

/-- `counter[key]`. -/
def counted {α : Type} [DecidableEq α] (key : α) (counter : List (α × ℕ)) : ℕ :=
  (counter.lookup key).getD 0

/-- The sum of all counts. -/
def total {α : Type} (counter : List (α × ℕ)) : ℕ := (counter.map Prod.snd).sum

/-- The records whose `changed_bytes` contain a position. -/
def changedIn (i : ℕ) (records : List Probe.ProbeRecord) : ℕ :=
  records.countP (i ∈ ·.changedBytes)

/-- The analyses of a file of reports of one length tell what its records tell. -/
structure ChangesAgree (records : List Probe.ProbeRecord) (reports : List Octets) (length : ℕ)
    (loaded : List Value) : Prop where
  /-- There is a record for each report. -/
  recorded : List.Forall₂ (fun (r : Probe.ProbeRecord) data => r.hex = hex data) records reports
  frequency : ∃ f, loaded.foldlM countRecord ⟨[], fun _ => [], []⟩ = .ok f ∧
    (∀ i, counted i f.positionChanges = changedIn i records) ∧
    ∀ i < length, total (f.positionValues i) = reports.length
  printed : ∃ lines, byteFrequency loaded = .ok lines ∧ ∀ i n,
    (∃ unique top, Line.frequency i n unique top ∈ lines) ↔ changedIn i records = n ∧ n ≠ 0
  summary : reports ≠ [] → ∃ duration rate average static dynamic,
    summary loaded = .ok [.summary reports.length duration rate average static dynamic] ∧
      ∀ i, (i ∈ static ↔ i < length ∧ ∀ r ∈ records, i ∉ r.changedBytes) ∧
        (i ∈ dynamic ↔ ∃ r ∈ records, i ∈ r.changedBytes)

/-! ## Counters -/

/-- What counting makes: each key once, with a count. -/
structure IsCounter {α : Type} (counter : List (α × ℕ)) : Prop where
  nodup : (counter.map Prod.fst).Nodup
  pos : ∀ e ∈ counter, 0 < e.2

section counter

theorem isCounter_nil {α : Type} : IsCounter ([] : List (α × ℕ)) :=
  ⟨List.nodup_nil, fun _ h => absurd h List.not_mem_nil⟩

/-- The other entries of a counter are one. -/
theorem IsCounter.tail {α : Type} {counter : List (α × ℕ)} {e : α × ℕ}
    (h : IsCounter (e :: counter)) :
    e.1 ∉ counter.map Prod.fst ∧ IsCounter counter := by
  obtain ⟨hnot, hnodup⟩ := List.nodup_cons.mp h.nodup
  exact ⟨hnot, hnodup, fun e he => h.pos e (List.mem_cons_of_mem _ he)⟩

variable {α : Type} [DecidableEq α] {key k : α} {counter : List (α × ℕ)}

theorem keys_count : (count key counter).map Prod.fst =
    if key ∈ counter.map Prod.fst then counter.map Prod.fst
    else counter.map Prod.fst ++ [key] := by
  unfold count
  split_ifs
  · rw [List.map_map]
    refine List.map_congr_left fun e _ => ?_
    dsimp only [Function.comp_apply]
    split_ifs
    · rfl
    · rfl
  · rw [List.map_append]
    rfl

theorem IsCounter.count (h : IsCounter counter) : IsCounter (count key counter) := by
  constructor
  · rw [keys_count]
    split_ifs with hkey
    · exact h.nodup
    · exact List.nodup_append.mpr ⟨h.nodup, List.nodup_singleton key, fun a ha b hb hab =>
        hkey (List.mem_singleton.mp hb ▸ hab ▸ ha)⟩
  · intro e he
    unfold Dump.count at he
    split_ifs at he
    · obtain ⟨e', he', rfl⟩ := List.mem_map.mp he
      split_ifs
      · exact Nat.succ_pos _
      · exact h.pos e' he'
    · rcases List.mem_append.mp he with he | he
      · exact h.pos e he
      · rw [List.mem_singleton.mp he]
        exact Nat.one_pos

theorem count_cons_self {n : ℕ} (h : key ∉ counter.map Prod.fst) :
    count key ((key, n) :: counter) = (key, n + 1) :: counter := by
  have hrest : counter.map (fun e => if e.1 = key then (e.1, e.2 + 1) else e) = counter := by
    refine (List.map_congr_left fun e he => ?_).trans (List.map_id counter)
    have hne : e.1 ≠ key := fun heq => h (List.mem_map.mpr ⟨e, he, heq⟩)
    exact if_neg hne
  have hmem : key ∈ ((key, n) :: counter).map (·.1) := List.mem_cons_self
  unfold count
  rw [if_pos hmem, List.map_cons, if_pos rfl, hrest]

theorem count_cons_ne {n : ℕ} (hk : k ≠ key) :
    count key ((k, n) :: counter) = (k, n) :: count key counter := by
  have hmem : key ∈ ((k, n) :: counter).map (·.1) ↔ key ∈ counter.map (·.1) :=
    List.mem_cons.trans (or_iff_right hk.symm)
  unfold count
  by_cases hkey : key ∈ counter.map (·.1)
  · rw [if_pos hkey, if_pos (hmem.mpr hkey), List.map_cons, if_neg hk]
  · rw [if_neg hkey, if_neg (mt hmem.mp hkey)]
    rfl

theorem counted_cons {k' : α} {n : ℕ} : counted k ((k', n) :: counter) =
    if k = k' then n else counted k counter := by
  unfold counted
  rw [List.lookup_cons]
  by_cases hk : k = k'
  · rw [if_pos hk, beq_iff_eq.mpr hk]
    rfl
  · rw [if_neg hk, beq_false_of_ne hk]

/-- A key has the count it is paired with. -/
theorem IsCounter.mem_iff (h : IsCounter counter) {n : ℕ} :
    (k, n) ∈ counter ↔ counted k counter = n ∧ n ≠ 0 := by
  induction counter with
  | nil =>
      refine iff_of_false List.not_mem_nil ?_
      rintro ⟨rfl, hne⟩
      exact hne rfl
  | cons e counter ih =>
      obtain ⟨k', m⟩ := e
      obtain ⟨hnot, hrest⟩ := h.tail
      have hpos : 0 < m := h.pos (k', m) List.mem_cons_self
      rw [List.mem_cons, Prod.mk.injEq, counted_cons]
      by_cases hk : k = k'
      · subst hk
        have hother : (k, n) ∉ counter := fun hmem => hnot (List.mem_map.mpr ⟨(k, n), hmem, rfl⟩)
        rw [if_pos rfl, or_iff_left hother, and_iff_right rfl]
        constructor
        · rintro rfl
          exact ⟨rfl, hpos.ne'⟩
        · exact fun heq => heq.1.symm
      · rw [if_neg hk, or_iff_right fun heq => hk heq.1]
        exact ih hrest

/-- Counting adds one to its key. -/
theorem IsCounter.counted_count (h : IsCounter counter) : counted k (Dump.count key counter) =
    counted k counter + if k = key then 1 else 0 := by
  induction counter with
  | nil => exact counted_cons.trans (Nat.zero_add _).symm
  | cons e counter ih =>
      obtain ⟨k', n⟩ := e
      obtain ⟨hnot, hrest⟩ := h.tail
      by_cases hkey : k' = key
      · subst hkey
        rw [count_cons_self hnot, counted_cons, counted_cons]
        split_ifs
        · rfl
        · rfl
      · rw [count_cons_ne hkey, counted_cons, counted_cons, ih hrest]
        by_cases hk : k = k'
        · rw [if_pos hk, if_pos hk, if_neg fun heq => hkey (hk.symm.trans heq)]
          rfl
        · rw [if_neg hk, if_neg hk]

/-- Counting adds one in all. -/
theorem IsCounter.total_count (h : IsCounter counter) :
    total (Dump.count key counter) = total counter + 1 := by
  induction counter with
  | nil => rfl
  | cons e counter ih =>
      obtain ⟨k, n⟩ := e
      obtain ⟨hnot, hrest⟩ := h.tail
      have hcons : ∀ (m : ℕ) (c : List (α × ℕ)), total ((k, m) :: c) = m + total c := fun m c =>
        List.sum_cons
      by_cases hkey : k = key
      · subst hkey
        rw [count_cons_self hnot, hcons, hcons, Nat.add_right_comm]
      · rw [count_cons_ne hkey, hcons, hcons, ih hrest, Nat.add_assoc]

end counter

/-! ## Changes of a sequence -/

section changes

variable {α : Type} [DecidableEq α]

/-- Two values that are there and differ. -/
def differ (a b : Option α) : Bool := a.any fun x => b.any (x ≠ ·)

/-- The number of neighbours that differ, a value before the sequence included. -/
def changes : Option α → List (Option α) → ℕ
  | _, [] => 0
  | last, x :: xs => (differ last x).toNat + changes x xs

@[simp] theorem differ_none_left (b : Option α) : differ none b = false := rfl

@[simp] theorem differ_none_right (a : Option α) : differ a none = false := by
  cases a with
  | none => rfl
  | some x => rfl

@[simp] theorem differ_some (x y : α) : differ (some x) (some y) = decide (x ≠ y) := rfl

/-- A sequence of nothing does not change. -/
theorem changes_none (last : Option α) {xs : List (Option α)} (h : ∀ x ∈ xs, x = none) :
    changes last xs = 0 := by
  induction xs generalizing last with
  | nil => rfl
  | cons x xs ih =>
      obtain rfl := h x List.mem_cons_self
      rw [changes, differ_none_right, ih _ fun x hx => h x (List.mem_cons_of_mem _ hx)]
      rfl

/-- What does not change is constant. -/
theorem changes_eq_zero {x : α} {xs : List α} :
    changes (some x) (xs.map some) = 0 ↔ ∀ y ∈ xs, y = x := by
  induction xs generalizing x with
  | nil => exact iff_of_true rfl fun _ h => absurd h List.not_mem_nil
  | cons y xs ih =>
      rw [List.map_cons, changes, differ_some, Nat.add_eq_zero_iff, ih, List.forall_mem_cons]
      by_cases hxy : x = y
      · subst hxy
        simp
      · simp [hxy, Ne.symm hxy]

/-- A sequence has one value iff it does not change. -/
theorem dedup_length_eq_one {x : α} {xs : List α} :
    (x :: xs).dedup.length = 1 ↔ changes none ((x :: xs).map some) = 0 := by
  rw [List.map_cons, changes, differ_none_left, Bool.toNat_false, Nat.zero_add, changes_eq_zero,
    List.length_eq_one_iff]
  constructor
  · rintro ⟨z, hz⟩ y hy
    have hmem : ∀ u ∈ x :: xs, u = z := fun u hu =>
      List.mem_singleton.mp (hz ▸ List.mem_dedup.mpr hu)
    rw [hmem y (List.mem_cons_of_mem _ hy), hmem x List.mem_cons_self]
  · intro h
    have hreplicate : x :: xs = List.replicate (xs.length + 1) x :=
      List.eq_replicate_of_mem fun y hy => (List.mem_cons.mp hy).elim id (h y)
    exact ⟨x, hreplicate ▸ List.replicate_dedup (Nat.succ_ne_zero _)⟩

end changes

/-! ## Changes of `byte_frequency` -/

section frequency

variable {f : Frequencies} {i k : ℕ} {b : UInt8} {data : Octets}

/-- Both kinds of counters are some. -/
structure Frequencies.Valid (f : Frequencies) : Prop where
  changes : IsCounter f.positionChanges
  values : ∀ i, IsCounter (f.positionValues i)

/-- The body of the loop over the octets of a record. -/
def countOctet (i : ℕ) (b : UInt8) (f : Frequencies) : Frequencies where
  positionChanges :=
    if f.prevData[i]?.any (· ≠ b) then count i f.positionChanges else f.positionChanges
  positionValues := Function.update f.positionValues i (count b (f.positionValues i))
  prevData := f.prevData

theorem countOctets_cons :
    countOctets i (b :: data) f = countOctets (i + 1) data (countOctet i b f) := by
  rw [countOctets, countOctet]
  dsimp only
  split_ifs
  · rfl
  · rfl

/-- The octet at a position of what follows from a position on. -/
def octetFrom (i : ℕ) (data : Octets) (k : ℕ) : Option UInt8 :=
  if k < i then none else data[k - i]?

theorem octetFrom_cons :
    octetFrom i (b :: data) k = if k = i then some b else octetFrom (i + 1) data k := by
  unfold octetFrom
  rcases Nat.lt_trichotomy k i with hlt | rfl | hgt
  · rw [if_pos hlt, if_neg hlt.ne, if_pos (Nat.lt_succ_of_lt hlt)]
  · rw [if_neg (lt_irrefl k), if_pos rfl, Nat.sub_self]
    rfl
  · obtain ⟨j, rfl⟩ := Nat.exists_eq_add_of_lt hgt
    rw [if_neg (by omega), if_neg (by omega), if_neg (by omega),
      show i + j + 1 - i = j + 1 by omega, show i + j + 1 - (i + 1) = j by omega,
      List.getElem?_cons_succ]

theorem octetFrom_self : octetFrom (i + 1) data i = none := if_pos (Nat.lt_succ_self i)

theorem countOctet_valid (hf : f.Valid) : (countOctet i b f).Valid := by
  constructor
  · unfold countOctet
    dsimp only
    split_ifs
    · exact hf.changes.count
    · exact hf.changes
  · intro j
    unfold countOctet
    dsimp only
    rw [Function.update_apply]
    split_ifs with hj
    · exact (hf.values i).count
    · exact hf.values j

/-- One octet counts at its own position. -/
theorem counted_countOctet (hf : f.Valid) : counted k (countOctet i b f).positionChanges =
    counted k f.positionChanges + if k = i then (differ f.prevData[k]? (some b)).toNat else 0 := by
  have hdiffer : f.prevData[i]?.any (· ≠ b) = differ f.prevData[i]? (some b) := rfl
  unfold countOctet
  dsimp only
  rw [hdiffer]
  by_cases hk : k = i
  · subst hk
    rw [if_pos rfl]
    cases differ f.prevData[k]? (some b) with
    | false => rfl
    | true =>
        rw [if_pos rfl, hf.changes.counted_count, if_pos rfl]
        rfl
  · rw [if_neg hk]
    split_ifs
    · rw [hf.changes.counted_count, if_neg hk]
    · rfl

theorem total_countOctet (hf : f.Valid) : total ((countOctet i b f).positionValues k) =
    total (f.positionValues k) + if k = i then 1 else 0 := by
  unfold countOctet
  dsimp only
  rw [Function.update_apply]
  split_ifs with hk
  · rw [(hf.values i).total_count, hk]
  · rfl

/-- The octets of a record, each at its own position. -/
theorem countOctets_spec (i : ℕ) (data : Octets) (hf : f.Valid) :
    (countOctets i data f).Valid ∧ (countOctets i data f).prevData = f.prevData ∧ ∀ k,
      counted k (countOctets i data f).positionChanges =
          counted k f.positionChanges + (differ f.prevData[k]? (octetFrom i data k)).toNat ∧
        total ((countOctets i data f).positionValues k) =
          total (f.positionValues k) + (octetFrom i data k).isSome.toNat := by
  induction data generalizing i f with
  | nil =>
      have hnone : ∀ k, octetFrom i [] k = none := fun k => by simp [octetFrom]
      refine ⟨hf, rfl, fun k => ?_⟩
      rw [hnone, differ_none_right]
      exact ⟨rfl, rfl⟩
  | cons b data ih =>
      obtain ⟨hvalid, hprev, hcounts⟩ := ih (i + 1) (countOctet_valid (i := i) (b := b) hf)
      rw [countOctets_cons]
      refine ⟨hvalid, hprev, fun k => ?_⟩
      obtain ⟨hchanges, hvalues⟩ := hcounts k
      rw [hchanges, hvalues, counted_countOctet hf, total_countOctet hf, octetFrom_cons]
      by_cases hk : k = i
      · subst hk
        rw [octetFrom_self, differ_none_right, if_pos rfl, if_pos rfl, if_pos rfl]
        exact ⟨rfl, rfl⟩
      · rw [if_neg hk, if_neg hk, if_neg hk]
        exact ⟨rfl, rfl⟩

/-- What `byte_frequency` counts in all records. -/
theorem foldlM_countRecord {records : List Value} {reports : List Octets}
    (h : List.Forall₂ Carries records reports) : ∀ {f : Frequencies}, f.Valid →
      ∃ f', records.foldlM countRecord f = .ok f' ∧ f'.Valid ∧ ∀ k,
        counted k f'.positionChanges = counted k f.positionChanges +
            changes f.prevData[k]? (reports.map (·[k]?)) ∧
          total (f'.positionValues k) = total (f.positionValues k) +
            reports.countP (k < ·.length) := by
  induction h with
  | nil => exact fun {f} hf => ⟨f, rfl, hf, fun k => ⟨rfl, rfl⟩⟩
  | @cons record data records reports hcarries _ ih =>
      intro f hf
      obtain ⟨hvalid, -, hcounts⟩ := countOctets_spec 0 data hf
      obtain ⟨f', hf', hvalid', hcounts'⟩ :=
        ih (f := { countOctets 0 data f with prevData := data }) ⟨hvalid.changes, hvalid.values⟩
      refine ⟨f', ?_, hvalid', fun k => ?_⟩
      · rw [List.foldlM_cons, countRecord_of_carries hcarries f]
        exact hf'
      · obtain ⟨hchanges, hvalues⟩ := hcounts k
        obtain ⟨hchanges', hvalues'⟩ := hcounts' k
        have hat : octetFrom 0 data k = data[k]? := rfl
        rw [hat] at hchanges hvalues
        constructor
        · rw [hchanges', hchanges, List.map_cons, changes, Nat.add_assoc]
        · rw [hvalues', hvalues, List.countP_cons, Nat.add_assoc, Nat.add_comm (List.countP _ _)]
          congr 2
          by_cases hk : k < data.length
          · rw [List.getElem?_eq_getElem hk, decide_eq_true hk]
            rfl
          · rw [List.getElem?_eq_none (not_lt.mp hk), decide_eq_false hk]
            rfl

/-- The printed line of a position has its number of changes. -/
theorem byteFrequency_lines {records : List Value}
    (h : records.foldlM countRecord ⟨[], fun _ => [], []⟩ = .ok f) (hf : f.Valid) :
    ∃ lines, byteFrequency records = .ok lines ∧ ∀ i n,
      (∃ unique top, Line.frequency i n unique top ∈ lines) ↔
        counted i f.positionChanges = n ∧ n ≠ 0 := by
  refine ⟨_, by unfold byteFrequency; rw [h]; rfl, fun i n => ?_⟩
  rw [← hf.changes.mem_iff]
  have hsorted : ∀ e, e ∈ byCount f.positionChanges ↔ e ∈ f.positionChanges :=
    fun e => List.mem_mergeSort
  constructor
  · rintro ⟨unique, top, hmem⟩
    obtain ⟨⟨i', n'⟩, he, hline⟩ := List.mem_map.mp hmem
    cases hline
    exact (hsorted _).mp he
  · intro hmem
    exact ⟨_, _, List.mem_map.mpr ⟨(i, n), (hsorted _).mpr hmem, rfl⟩⟩

end frequency

/-! ## Changes of `summary` -/

section summary

variable {reports : List Octets} {length i : ℕ}

/-- A position of all reports. -/
theorem map_getElem? (hlen : ∀ data ∈ reports, data.length = length) (hi : i < length) :
    reports.map (·[i]?) = (reports.filterMap (·[i]?)).map some := by
  induction reports with
  | nil => rfl
  | cons data reports ih =>
      have hdata : i < data.length := (hlen data List.mem_cons_self).symm ▸ hi
      have hat : data[i]? = some data[i] := List.getElem?_eq_getElem hdata
      have hcons : (data :: reports).filterMap (·[i]?) = data[i] :: reports.filterMap (·[i]?) :=
        List.filterMap_cons_some hat
      rw [hcons, List.map_cons, List.map_cons, hat,
        ih fun data hd => hlen data (List.mem_cons_of_mem _ hd)]

/-- A position is static iff its column does not change. -/
theorem isStatic_iff (hlen : ∀ data ∈ reports, data.length = length) (hi : i < length)
    (hne : reports ≠ []) : isStatic reports i = true ↔ changes none (reports.map (·[i]?)) = 0 := by
  have hcolumn := map_getElem? hlen hi
  unfold isStatic
  rw [decide_eq_true_iff, hcolumn]
  cases hvalues : reports.filterMap (·[i]?) with
  | nil =>
      rw [hvalues] at hcolumn
      exact absurd (List.map_eq_nil_iff.mp hcolumn) hne
  | cons x xs => exact dedup_length_eq_one

/-- The positions of reports of one length. -/
theorem max_length (hlen : ∀ data ∈ reports, data.length = length) (hne : reports ≠ []) :
    (reports.map List.length).max?.getD 0 = length := by
  have hreplicate : reports.map List.length = List.replicate reports.length length := by
    rw [List.eq_replicate_iff, List.length_map]
    refine ⟨rfl, fun m hm => ?_⟩
    obtain ⟨data, hdata, rfl⟩ := List.mem_map.mp hm
    exact hlen data hdata
  rw [hreplicate, List.max?_replicate_of_pos (List.length_pos_iff.mpr hne), Option.getD_some]

end summary

/-! ## Changes of the probe -/

section probe

variable {length i : ℕ}

/-- The changes of a report are its differences from the last one. -/
theorem decide_changedBytes {last : Option Octets} {data : Octets} (hpos : 0 < length)
    (hlast : ∀ l ∈ last, l.length = length) (hdata : data.length = length) :
    decide (i ∈ Probe.changedBytes last data) = differ (last.bind (·[i]?)) data[i]? := by
  rw [Bool.eq_iff_iff, decide_eq_true_iff]
  unfold Probe.changedBytes
  cases last with
  | none => simp
  | some l =>
      have hl : l.length = length := hlast l rfl
      have hne : l ≠ [] := List.ne_nil_of_length_pos (hl ▸ hpos)
      dsimp only
      rw [if_pos ⟨hne, hdata.trans hl.symm⟩, List.mem_filter, List.mem_range, Option.bind_some]
      by_cases hi : i < length
      · have hil : i < l.length := hl ▸ hi
        have hid : i < data.length := hdata ▸ hi
        rw [List.getElem?_eq_getElem hil, List.getElem?_eq_getElem hid, differ_some,
          and_iff_right hid, octet, octet, List.getD_eq_getElem _ _ hid,
          List.getD_eq_getElem _ _ hil, bne_iff_ne, decide_eq_true_iff, ne_comm]
      · have hnone : data[i]? = none := List.getElem?_eq_none (hdata ▸ not_lt.mp hi)
        rw [hnone, differ_none_right]
        exact iff_of_false (fun h => hi (hdata ▸ h.1)) Bool.false_ne_true

/-- The records of the probe note each change. -/
theorem onReports_changedIn (hpos : 0 < length) (notifications : List Notification) :
    ∀ {s : Probe.Session} {records new : List Probe.ProbeRecord},
      (∀ m ∈ notifications, m.data.length = length) → (∀ l ∈ s.lastReport, l.length = length) →
      s.jsonlFile = some records →
      (notifications.foldl (fun s n => Probe.onReport n s) s).jsonlFile = some (records ++ new) →
      changedIn i new = changes (s.lastReport.bind (·[i]?))
        ((notifications.map (·.data)).map (·[i]?)) := by
  induction notifications with
  | nil =>
      intro s records new _ _ hfile hnew
      have hnil : new = [] := by simpa [hfile] using hnew
      rw [hnil]
      rfl
  | cons m notifications ih =>
      intro s records new hlen hlast hfile hnew
      obtain ⟨r, hr, hchanged⟩ : ∃ r, (Probe.onReport m s).jsonlFile = some (records ++ [r]) ∧
          r.changedBytes = Probe.changedBytes s.lastReport m.data := by
        unfold Probe.onReport
        rw [hfile]
        exact ⟨_, rfl, rfl⟩
      have hdata : m.data.length = length := hlen m List.mem_cons_self
      obtain ⟨new', hnew', -⟩ := onReports_jsonl notifications hr
      have hcons : new = r :: new' := by
        have heq := hnew.symm.trans hnew'
        rw [List.append_assoc] at heq
        exact List.append_cancel_left (Option.some.inj heq)
      have hrest : changedIn i new' = changes m.data[i]?
          ((notifications.map (·.data)).map (·[i]?)) := by
        refine ih (fun m hm => hlen m (List.mem_cons_of_mem _ hm)) ?_ hr hnew'
        intro l hl
        rw [← Option.some.inj hl]
        exact hdata
      have hone : (if decide (i ∈ r.changedBytes) = true then 1 else 0) =
          (differ (s.lastReport.bind (·[i]?)) m.data[i]?).toNat := by
        rw [hchanged, decide_changedBytes hpos hlast hdata]
        cases differ (s.lastReport.bind (·[i]?)) m.data[i]? with
        | false => rfl
        | true => rfl
      unfold changedIn at hrest ⊢
      rw [hcons, List.countP_cons, hrest, hone, List.map_cons, List.map_cons, changes, Nat.add_comm]

end probe

/-! ## Agreement -/

section agreement

variable {records : List Probe.ProbeRecord} {reports : List Octets} {length : ℕ}

theorem changedIn_ne_zero {i : ℕ} :
    changedIn i records ≠ 0 ↔ ∃ r ∈ records, i ∈ r.changedBytes := by
  unfold changedIn
  rw [← Nat.pos_iff_ne_zero, List.countP_pos_iff]
  exact exists_congr fun r => and_congr_right fun _ => decide_eq_true_iff

/-- The lists of `summary`. -/
theorem positions_agree (hlen : ∀ data ∈ reports, data.length = length) (hne : reports ≠ [])
    (hcolumn : ∀ i, changedIn i records = changes none (reports.map (·[i]?))) (i : ℕ) :
    (i ∈ (List.range length).filter (isStatic reports) ↔
        i < length ∧ ∀ r ∈ records, i ∉ r.changedBytes) ∧
      (i ∈ (List.range length).filter (!isStatic reports ·) ↔
        ∃ r ∈ records, i ∈ r.changedBytes) := by
  have hstatic : i < length → (isStatic reports i = true ↔ changedIn i records = 0) := by
    intro hi
    rw [isStatic_iff hlen hi hne, hcolumn]
  rw [List.mem_filter, List.mem_range, List.mem_filter, List.mem_range, ← changedIn_ne_zero,
    Bool.not_eq_true']
  constructor
  · refine and_congr_right fun hi => (hstatic hi).trans ?_
    rw [← not_iff_not, ← ne_eq, changedIn_ne_zero]
    simp only [not_forall, not_not, exists_prop]
  · constructor
    · rintro ⟨hi, hdynamic⟩ hzero
      rw [(hstatic hi).mpr hzero] at hdynamic
      cases hdynamic
    · intro hchanged
      -- past the reports no column has a value
      have hi : i < length := by
        by_contra hle
        refine hchanged ((hcolumn i).trans (changes_none none fun x hx => ?_))
        obtain ⟨data, hdata, rfl⟩ := List.mem_map.mp hx
        exact List.getElem?_eq_none (hlen data hdata ▸ not_lt.mp hle)
      exact ⟨hi, Bool.eq_false_iff.mpr fun htrue => hchanged ((hstatic hi).mp htrue)⟩

/-- Where the records note each change of a column, the analyses of their file agree. -/
theorem agree_of_columns (reprFloat : ℚ → Decimal)
    (hlen : ∀ data ∈ reports, data.length = length)
    (hhex : List.Forall₂ (fun (r : Probe.ProbeRecord) data => r.hex = hex data) records reports)
    (hcolumn : ∀ i, changedIn i records = changes none (reports.map (·[i]?))) :
    ChangesAgree records reports length (records.map (Probe.ProbeRecord.toJson reprFloat)) := by
  have hcomplete := @probeJson_forall₂ reprFloat records reports hhex
  obtain ⟨f, hf, hvalid, hcounts⟩ := foldlM_countRecord (hcomplete.imp fun _ _ hc => hc.carries)
    (f := ⟨[], fun _ => [], []⟩) ⟨isCounter_nil, fun _ => isCounter_nil⟩
  have hchanges : ∀ i, counted i f.positionChanges = changedIn i records := by
    intro i
    rw [(hcounts i).1, hcolumn i]
    exact Nat.zero_add _
  have hvalues : ∀ i < length, total (f.positionValues i) = reports.length := by
    intro i hi
    have hall : reports.countP (i < ·.length) = reports.length := by
      rw [List.countP_eq_length]
      intro data hdata
      rw [hlen data hdata]
      exact decide_eq_true hi
    rw [(hcounts i).2, hall]
    exact Nat.zero_add _
  refine ⟨hhex, ⟨f, hf, hchanges, hvalues⟩, ?_, ?_⟩
  · obtain ⟨lines, hlines, hprinted⟩ := byteFrequency_lines hf hvalid
    exact ⟨lines, hlines, fun i n => hchanges i ▸ hprinted i n⟩
  · intro hne
    obtain ⟨duration, rate, average, hsummary⟩ := summary_complete hcomplete hne
    rw [max_length hlen hne] at hsummary
    exact ⟨duration, rate, average, _, _, hsummary, positions_agree hlen hne hcolumn⟩

end agreement

/-- **Three counts of changes** agree on each file of reports of one length, from the first report
of a session on: `main` opens the file before the session runs.
Source: `switch2_ble_probe.py` `ProbeSession._on_report`, `dump_reports.py` `byte_frequency`,
`summary` -/
theorem changes_agree (reprFloat : ℚ → Decimal) (s : Probe.Session) (hfile : s.jsonlFile = some [])
    (hlast : s.lastReport = none) (length : ℕ) (hpos : 0 < length)
    (notifications : List Notification) (hlen : ∀ m ∈ notifications, m.data.length = length) :
    ∃ records,
      (notifications.foldl (fun s n => Probe.onReport n s) s).jsonlFile = some records ∧
      ChangesAgree records (notifications.map (·.data)) length
        (loadReports (probeFile reprFloat
          (notifications.foldl (fun s n => Probe.onReport n s) s))) := by
  obtain ⟨records, hrecords, hhex⟩ := onReports_jsonl notifications hfile
  have hnone : ∀ l ∈ s.lastReport, l.length = length := by
    rw [hlast]
    exact fun l hl => by cases hl
  have hcolumn : ∀ i, changedIn i records =
      changes none ((notifications.map (·.data)).map (·[i]?)) := by
    intro i
    have hchanged := onReports_changedIn (i := i) hpos notifications hlen hnone hfile hrecords
    rwa [hlast] at hchanged
  have hlen' : ∀ data ∈ notifications.map (·.data), data.length = length := by
    intro data hdata
    obtain ⟨m, hm, rfl⟩ := List.mem_map.mp hdata
    exact hlen m hm
  refine ⟨records, hrecords, ?_⟩
  rw [probeFile_loads hrecords]
  exact agree_of_columns reprFloat hlen' hhex hcolumn

/-- Two octets, the second of which changes between the first two of three reports. -/
def threeReports : List Notification :=
  [⟨none, [0x05, 0x10], 0, 0⟩, ⟨none, [0x05, 0x11], 0, 0⟩, ⟨none, [0x05, 0x11], 0, 0⟩]

/-- Their records, and what the analyses make of them. -/
theorem changes_agree_three : ∃ records,
    (threeReports.foldl (fun s n => Probe.onReport n s) openProbe).jsonlFile = some records ∧
    changedIn 0 records = 0 ∧ changedIn 1 records = 1 ∧
    ChangesAgree records (threeReports.map (·.data)) 2
      (loadReports (probeFile (fun _ => zeroText)
        (threeReports.foldl (fun s n => Probe.onReport n s) openProbe))) := by
  obtain ⟨records, hrecords, hagree⟩ := changes_agree (fun _ => zeroText) openProbe rfl rfl 2
    (by decide) threeReports (by decide)
  refine ⟨records, hrecords, ?_, ?_, hagree⟩
  · rw [← Option.some.inj hrecords]
    decide
  · rw [← Option.some.inj hrecords]
    decide

end Switch2Bt.Dump
