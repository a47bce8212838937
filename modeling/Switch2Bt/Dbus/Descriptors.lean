import Switch2Bt.Dbus.Discovery

/-!
# The descriptors that switch notifications on (`switch2-bt.c`)

A CCC descriptor is given to the input characteristic if the last five characters of that one's path
occur in its own, else to the first response characteristic if one was seen, else to the second. So
what is found depends on the order of the objects, and the second response characteristic gets
nothing once the first one was seen. `discoverAll` is the body of the loops over all objects, as
`discover_gatt` has it where it visits them all (`discoverGatt_eq_all`).

In every order, each descriptor is matched to the characteristic it belongs to, iff none is ever
matched and none had to be (`cccMatched_iff`): the order in which the objects with a characteristic
come last would otherwise make that characteristic its own child (`ccc_empty_of_matched`).
-/

namespace Switch2Bt.Discovery

open Dbus

/-! ## All objects -/

/-- The paths when all objects have been visited. `discover_gatt` never gets there with a result of
zero (`discoverGatt_fails`): these are the bodies of its loops, run over all of them.
Source: `switch2-bt.c` `discover_gatt` (bodies of the loops) -/
def discoverAll (prior : CString → CString) (reply : List Object) : Gatt :=
  reply.foldl (fun g o => o.interfaces.foldl (fun g i => (g.interface prior o.path i).2) g) {}

/-- The interfaces that are not of GATT do nothing. -/
theorem foldl_interface (prior : CString → CString) (obj : CString) (is : List Interface)
    (g : Gatt) :
    is.foldl (fun g i => (g.interface prior obj i).2) g =
      (is.filter (IsGatt ·)).foldl (fun g i => (g.interface prior obj i).2) g := by
  induction is generalizing g with
  | nil => rfl
  | cons i is ih =>
      by_cases h : IsGatt i
      · rw [List.filter_cons_of_pos (by simpa using h), List.foldl_cons, List.foldl_cons, ih]
      · rw [List.filter_cons_of_neg (by simpa using h), List.foldl_cons,
          interface_of_not_isGatt prior obj g h, ih]

/-- Where `discover_gatt` visits all objects, and all that they have of GATT, this is what it
finds. -/
theorem discoverGatt_eq_all (prior : CString → CString) {reply : List Object}
    (hone : reply.length ≤ 1) (hgatt : ∀ o ∈ reply, (o.interfaces.filter (IsGatt ·)).length ≤ 1) :
    discoverGatt prior reply = ((discoverAll prior reply).result, discoverAll prior reply) := by
  have heq : (discoverGatt prior reply).2 = discoverAll prior reply := by
    match reply, hone with
    | [], _ => rfl
    | [o], _ =>
        have hlen := hgatt o List.mem_cons_self
        rw [discoverGatt_cons, ← List.head?_filter, discoverAll, List.foldl_cons, List.foldl_nil,
          foldl_interface]
        match o.interfaces.filter (IsGatt ·), hlen with
        | [], _ => rfl
        | [i], _ => rfl
  rw [← heq]
  rfl

/-! ## Statement -/

/-- An object with a CCC descriptor. -/
def CarriesCcc (o : Object) : Prop :=
  ∃ i ∈ o.interfaces, i.name = ifaceGattDesc ∧ CaseEq (uuidOf i) uuidCcc

instance (o : Object) : Decidable (CarriesCcc o) := inferInstanceAs (Decidable (∃ i ∈ _, _))

/-- One element below another path. -/
def Child (p p' : CString) : Prop := p ≠ [] ∧ ∃ name, name ≠ [] ∧ '/' ∉ name ∧ p' = p ++ '/' :: name

/-- A characteristic with a CCC descriptor: its UUID, and where the two paths are kept. -/
structure CccField where
  uuid : CString
  path : Gatt → CString
  ccc : Gatt → CString

def cccFields : List CccField := [⟨uuidInput, Gatt.pathInput, Gatt.pathCccInput⟩,
  ⟨uuidResp1, Gatt.pathResp1, Gatt.pathCccResp1⟩, ⟨uuidResp2, Gatt.pathResp2, Gatt.pathCccResp2⟩]

/-- A descriptor is a child of its characteristic, and is found where there is one. -/
structure Matched (reply : List Object) (path ccc : CString) : Prop where
  child : ccc = [] ∨ ∃ o ∈ reply, CarriesCcc o ∧ o.path = ccc ∧ Child path o.path
  found : (∃ o ∈ reply, CarriesCcc o ∧ Child path o.path) → ccc ≠ []

/-- In every order of the objects the descriptors are matched, and always to the same. -/
structure CccMatched (prior : CString → CString) (reply : List Object) : Prop where
  matched : ∀ order, order.Perm reply → (discoverAll prior order).result = 0 →
    ∀ f ∈ cccFields,
      Matched reply (f.path (discoverAll prior order)) (f.ccc (discoverAll prior order))
  same : ∀ order order', order.Perm reply → order'.Perm reply →
    (discoverAll prior order).result = 0 →
      ∀ f ∈ cccFields, f.ccc (discoverAll prior order) = f.ccc (discoverAll prior order')

/-- An interface, with the path of its object. -/
abbrev Entry := CString × Interface

/-- The interfaces of all objects, as they are visited. -/
def entries (reply : List Object) : List Entry :=
  reply.flatMap fun o => o.interfaces.map (o.path, ·)

/-- A characteristic of a given UUID. -/
def IsChar (uuid : CString) (e : Entry) : Prop :=
  e.2.name = ifaceGattChar ∧ CaseEq (uuidOf e.2) uuid

instance (uuid : CString) (e : Entry) : Decidable (IsChar uuid e) :=
  inferInstanceAs (Decidable (_ ∧ _))

/-- A CCC descriptor. -/
def IsCcc (e : Entry) : Prop := e.2.name = ifaceGattDesc ∧ CaseEq (uuidOf e.2) uuidCcc

/-- A descriptor behind a response characteristic, or with the last five characters of the last
input characteristic in its path. -/
def Taken (prior : CString → CString) (before : List Entry) (d : Entry) : Prop :=
  (∃ c, (before.filter (IsChar uuidInput ·)).getLast? = some c ∧
      needle prior (snprintf 128 c.1) <:+: d.1) ∨
    (∃ c ∈ before, IsChar uuidResp1 c) ∨ ∃ c ∈ before, IsChar uuidResp2 c

/-- No CCC descriptor is taken, in any order, and none is the child of a characteristic. -/
structure NoneTaken (prior : CString → CString) (reply : List Object) : Prop where
  free : ∀ order, order.Perm reply → ∀ before d after, entries order = before ++ d :: after →
    IsCcc d → ¬Taken prior before d
  childless : ∀ f ∈ cccFields, ∀ o ∈ reply, CarriesChar o f.uuid → ∀ o' ∈ reply, CarriesCcc o' →
    ¬Child (snprintf 128 o.path) o'.path

/-! ## Entries -/

/-- One entry.
Source: `switch2-bt.c` `discover_gatt` (loop over interfaces) -/
def visit (prior : CString → CString) (g : Gatt) (e : Entry) : Gatt :=
  (g.interface prior e.1 e.2).2

theorem discoverAll_eq (prior : CString → CString) (reply : List Object) :
    discoverAll prior reply = (entries reply).foldl (visit prior) {} := by
  rw [entries, List.foldl_flatMap]
  simp only [List.foldl_map]
  rfl

theorem mem_entries {reply : List Object} {e : Entry} :
    e ∈ entries reply ↔ ∃ o ∈ reply, o.path = e.1 ∧ e.2 ∈ o.interfaces := by
  obtain ⟨path, i⟩ := e
  simp only [entries, List.mem_flatMap, List.mem_map, Prod.mk.injEq]
  constructor
  · rintro ⟨o, ho, i', hi', hpath, rfl⟩
    exact ⟨o, ho, hpath, hi'⟩
  · rintro ⟨o, ho, hpath, hi⟩
    exact ⟨o, ho, i, hi, hpath, rfl⟩

theorem carriesChar_iff {reply : List Object} {uuid : CString} :
    (∃ e ∈ entries reply, IsChar uuid e) ↔ ∃ o ∈ reply, CarriesChar o uuid := by
  constructor
  · rintro ⟨e, he, hchar⟩
    obtain ⟨o, ho, -, hi⟩ := mem_entries.mp he
    exact ⟨o, ho, e.2, hi, hchar⟩
  · rintro ⟨o, ho, i, hi, hchar⟩
    exact ⟨(o.path, i), mem_entries.mpr ⟨o, ho, rfl, hi⟩, hchar⟩

/-- Entries of objects have a path. -/
def Rooted (es : List Entry) : Prop := ∀ e ∈ es, e.1 ≠ []

theorem rooted_entries (reply : List Object) : Rooted (entries reply) := by
  intro e he
  obtain ⟨o, -, hpath, -⟩ := mem_entries.mp he
  rw [← hpath]
  exact o.path_ne_nil

/-- A descriptor sets no path of a characteristic. -/
theorem descriptor_field (prior : CString → CString) {f : CString × (Gatt → CString)}
    (hf : f ∈ charFields) (g : Gatt) (uuid obj : CString) :
    f.2 (g.descriptor prior uuid obj) = f.2 g := by
  rw [Gatt.descriptor]
  simp only [apply_ite f.2]
  rcases mem_charFields hf with rfl | rfl | rfl | rfl | rfl | rfl | rfl | rfl <;>
    simp only [ite_self]

/-- What an entry does to the path of a characteristic. -/
theorem visit_field (prior : CString → CString) {f : CString × (Gatt → CString)}
    (hf : f ∈ charFields) (g : Gatt) (e : Entry) :
    f.2 (visit prior g e) = if IsChar f.1 e then snprintf 128 e.1 else f.2 g := by
  rw [visit, Gatt.interface, readUuid_eq]
  by_cases hchar : e.2.name = ifaceGattChar
  · rw [if_pos hchar, characteristic_field hf]
    simp only [IsChar, hchar, true_and, charFields_caseEq hf]
  · rw [if_neg hchar, if_neg fun h : IsChar f.1 e => hchar h.1]
    split_ifs
    · exact descriptor_field prior hf g _ _
    · rfl

/-- The path of a characteristic is that of the last one visited. -/
theorem path_foldl (prior : CString → CString) {f : CString × (Gatt → CString)}
    (hf : f ∈ charFields) (es : List Entry) :
    f.2 (es.foldl (visit prior) {}) =
      (((es.filter (IsChar f.1 ·)).getLast?).map fun c => snprintf 128 c.1).getD [] := by
  induction es using List.reverseRecOn with
  | nil => exact charFields_init hf
  | append_singleton es e ih =>
      rw [List.foldl_append, List.foldl_cons, List.foldl_nil, visit_field prior hf, ih,
        List.filter_append]
      by_cases h : IsChar f.1 e
      · simp [h]
      · simp [h]

/-- A path is set iff a characteristic was visited. -/
theorem path_ne_nil_iff (prior : CString → CString) {f : CString × (Gatt → CString)}
    (hf : f ∈ charFields) {es : List Entry} (hes : Rooted es) :
    f.2 (es.foldl (visit prior) {}) ≠ [] ↔ ∃ e ∈ es, IsChar f.1 e := by
  rw [path_foldl prior hf]
  cases h : (es.filter (IsChar f.1 ·)).getLast? with
  | none =>
      refine iff_of_false (by simp) ?_
      rintro ⟨e, he, hchar⟩
      have hnil := List.getLast?_eq_none_iff.mp h
      have hmem : e ∈ es.filter (IsChar f.1 ·) := List.mem_filter.mpr ⟨he, decide_eq_true hchar⟩
      rw [hnil] at hmem
      exact List.not_mem_nil hmem
  | some c =>
      have hmem := List.mem_filter.mp (List.mem_of_getLast? h)
      exact iff_of_true (snprintf_ne_nil (by decide) (hes c hmem.1))
        ⟨c, hmem.1, of_decide_eq_true hmem.2⟩

/-! ## Descriptors -/

/-- A state in which a descriptor is matched to something. -/
def Gatt.Takes (prior : CString → CString) (g : Gatt) (obj : CString) : Prop :=
  (g.pathInput ≠ [] ∧ needle prior g.pathInput <:+: obj) ∨ g.pathResp1 ≠ [] ∨ g.pathResp2 ≠ []

/-- No descriptor is matched yet. -/
def Gatt.Unmatched (g : Gatt) : Prop := ∀ f ∈ cccFields, f.ccc g = []

theorem mem_cccFields {f : CccField} (hf : f ∈ cccFields) :
    f = ⟨uuidInput, Gatt.pathInput, Gatt.pathCccInput⟩ ∨
      f = ⟨uuidResp1, Gatt.pathResp1, Gatt.pathCccResp1⟩ ∨
      f = ⟨uuidResp2, Gatt.pathResp2, Gatt.pathCccResp2⟩ := by
  simpa only [cccFields, List.mem_cons, List.not_mem_nil, or_false] using hf

/-- A characteristic sets no path of a descriptor. -/
theorem characteristic_ccc {f : CccField} (hf : f ∈ cccFields) (g : Gatt) (uuid obj : CString) :
    f.ccc (g.characteristic uuid obj) = f.ccc g := by
  rw [Gatt.characteristic]
  simp only [apply_ite f.ccc]
  rcases mem_cccFields hf with rfl | rfl | rfl <;> simp only [ite_self]

theorem unmatched_iff {g : Gatt} :
    g.Unmatched ↔ g.pathCccInput = [] ∧ g.pathCccResp1 = [] ∧ g.pathCccResp2 = [] := by
  simp [Gatt.Unmatched, cccFields]

/-- Source: `switch2-bt.c` `discover_gatt` (CCC descriptors) -/
theorem visit_of_isCcc (prior : CString → CString) (g : Gatt) {e : Entry} (he : IsCcc e) :
    visit prior g e =
      if g.pathInput ≠ [] ∧ needle prior g.pathInput <:+: e.1 then
        { g with pathCccInput := snprintf 128 e.1 }
      else if g.pathResp1 ≠ [] then { g with pathCccResp1 := snprintf 128 e.1 }
      else if g.pathResp2 ≠ [] then { g with pathCccResp2 := snprintf 128 e.1 }
      else g := by
  have hname : e.2.name ≠ ifaceGattChar := by
    rw [he.1]
    decide +kernel
  have huuid : CaseEq (snprintf 64 (uuidOf e.2)) uuidCcc :=
    (caseEq_snprintf_iff (by decide +kernel)).mpr he.2
  rw [visit, Gatt.interface, if_neg hname, if_pos he.1, readUuid_eq, Gatt.descriptor, if_pos huuid]

/-- Everything else leaves the descriptors alone. -/
theorem visit_of_not_isCcc (prior : CString → CString) {f : CccField} (hf : f ∈ cccFields)
    (g : Gatt) {e : Entry} (he : ¬IsCcc e) : f.ccc (visit prior g e) = f.ccc g := by
  rw [visit, Gatt.interface, readUuid_eq]
  by_cases hchar : e.2.name = ifaceGattChar
  · rw [if_pos hchar]
    exact characteristic_ccc hf g _ _
  · rw [if_neg hchar]
    split_ifs with hdesc
    · rw [Gatt.descriptor, if_neg]
      exact fun h => he ⟨hdesc, (caseEq_snprintf_iff (by decide +kernel)).mp h⟩
    · rfl

/-- Only a CCC descriptor behind its characteristic sets the path of a descriptor. -/
theorem visit_ccc (prior : CString → CString) {f : CccField} (hf : f ∈ cccFields) (g : Gatt)
    (e : Entry) :
    f.ccc (visit prior g e) = f.ccc g ∨
      (f.ccc (visit prior g e) = snprintf 128 e.1 ∧ f.path g ≠ [] ∧ IsCcc e) := by
  by_cases he : IsCcc e
  · rw [visit_of_isCcc prior g he]
    have hf' := mem_cccFields hf
    split_ifs with h1 h2 h3
    · rcases hf' with rfl | rfl | rfl
      · exact .inr ⟨rfl, h1.1, he⟩
      · exact .inl rfl
      · exact .inl rfl
    · rcases hf' with rfl | rfl | rfl
      · exact .inl rfl
      · exact .inr ⟨rfl, h2, he⟩
      · exact .inl rfl
    · rcases hf' with rfl | rfl | rfl
      · exact .inl rfl
      · exact .inl rfl
      · exact .inr ⟨rfl, h3, he⟩
    · exact .inl rfl
  · exact .inl (visit_of_not_isCcc prior hf g he)

/-- What is matched stays matched, and a descriptor is matched iff the state takes it. -/
theorem unmatched_visit (prior : CString → CString) (g : Gatt) {e : Entry} (he : e.1 ≠ []) :
    (visit prior g e).Unmatched ↔ g.Unmatched ∧ ¬(IsCcc e ∧ g.Takes prior e.1) := by
  have hne : snprintf 128 e.1 ≠ [] := snprintf_ne_nil (by decide) he
  by_cases hccc : IsCcc e
  · rw [visit_of_isCcc prior g hccc, Gatt.Takes]
    split_ifs with h1 h2 h3
    · simp [unmatched_iff, hne, h1, hccc]
    · simp [unmatched_iff, hne, h2, hccc]
    · simp [unmatched_iff, hne, h3, hccc]
    · simp [h1, h2, h3]
  · rw [and_iff_left fun h => hccc h.1]
    exact forall₂_congr fun f hf => by rw [visit_of_not_isCcc prior hf g hccc]

/-- Nothing is matched iff no descriptor meets a state that takes it. -/
theorem unmatched_foldl (prior : CString → CString) {es : List Entry} (hes : Rooted es) :
    (es.foldl (visit prior) {}).Unmatched ↔ ∀ before d after, es = before ++ d :: after → IsCcc d →
      ¬(before.foldl (visit prior) {}).Takes prior d.1 := by
  induction es using List.reverseRecOn with
  | nil =>
      refine iff_of_true (unmatched_iff.mpr ⟨rfl, rfl, rfl⟩) ?_
      intro before d after h
      simp at h
  | append_singleton es e ih =>
      have hes' : Rooted es := fun e' he' => hes e' (List.mem_append_left _ he')
      rw [List.foldl_append, List.foldl_cons, List.foldl_nil,
        unmatched_visit prior _ (hes e (by simp)), ih hes']
      constructor
      · rintro ⟨hall, hlast⟩ before d after heq hd htakes
        rcases List.eq_nil_or_concat after with rfl | ⟨after, e', rfl⟩
        · obtain ⟨rfl, hde⟩ := List.append_inj' heq rfl
          obtain rfl := List.singleton_inj.mp hde
          exact hlast ⟨hd, htakes⟩
        · have hconcat : es ++ [e] = (before ++ d :: after) ++ [e'] := by
            rw [heq]
            simp
          exact hall before d after (List.append_inj' hconcat rfl).1 hd htakes
      · intro hall
        refine ⟨fun before d after heq hd => hall before d (after ++ [e]) (by simp [heq]) hd, ?_⟩
        rintro ⟨hccc, htakes⟩
        exact hall es e [] rfl hccc htakes

/-- What the state takes, told from the entries before. -/
theorem takes_iff (prior : CString → CString) {before : List Entry} (hes : Rooted before)
    (d : Entry) : (before.foldl (visit prior) {}).Takes prior d.1 ↔ Taken prior before d := by
  have hinput : ((before.foldl (visit prior) {}).pathInput ≠ [] ∧
      needle prior (before.foldl (visit prior) {}).pathInput <:+: d.1) ↔
        ∃ c, (before.filter (IsChar uuidInput ·)).getLast? = some c ∧
          needle prior (snprintf 128 c.1) <:+: d.1 := by
    have hpath : (before.foldl (visit prior) {}).pathInput =
        (((before.filter (IsChar uuidInput ·)).getLast?).map fun c => snprintf 128 c.1).getD [] :=
      path_foldl prior (f := (uuidInput, Gatt.pathInput)) (by simp [charFields]) before
    rw [hpath]
    cases h : (before.filter (IsChar uuidInput ·)).getLast? with
    | none => simp
    | some c =>
        have hmem := List.mem_filter.mp (List.mem_of_getLast? h)
        have hne : snprintf 128 c.1 ≠ [] := snprintf_ne_nil (by decide) (hes c hmem.1)
        simp [hne]
  have hresp1 := path_ne_nil_iff prior (f := (uuidResp1, Gatt.pathResp1)) (by simp [charFields]) hes
  have hresp2 := path_ne_nil_iff prior (f := (uuidResp2, Gatt.pathResp2)) (by simp [charFields]) hes
  rw [Gatt.Takes, Taken, hinput, hresp1, hresp2]

/-- Each characteristic with a descriptor is one of those that are kept. -/
theorem cccFields_char {f : CccField} (hf : f ∈ cccFields) : (f.uuid, f.path) ∈ charFields := by
  rcases mem_cccFields hf with rfl | rfl | rfl <;> simp [charFields]

/-- A descriptor that is matched comes behind its characteristic. -/
theorem ccc_foldl (prior : CString → CString) {f : CccField} (hf : f ∈ cccFields)
    {es : List Entry} (hes : Rooted es) :
    f.ccc (es.foldl (visit prior) {}) = [] ∨ ∃ before d after, es = before ++ d :: after ∧
      (∃ c ∈ before, IsChar f.uuid c) ∧ f.ccc (es.foldl (visit prior) {}) = snprintf 128 d.1 := by
  induction es using List.reverseRecOn with
  | nil =>
      left
      rcases mem_cccFields hf with rfl | rfl | rfl <;> rfl
  | append_singleton es e ih =>
      have hes' : Rooted es := fun e' he' => hes e' (List.mem_append_left _ he')
      rw [List.foldl_append, List.foldl_cons, List.foldl_nil]
      rcases visit_ccc prior hf (es.foldl (visit prior) {}) e with hsame | ⟨hset, hpath, -⟩
      · rw [hsame]
        rcases ih hes' with hempty | ⟨before, d, after, heq, hc, hd⟩
        · exact .inl hempty
        · exact .inr ⟨before, d, after ++ [e], by simp [heq], hc, hd⟩
      · exact .inr ⟨es, e, [], rfl, (path_ne_nil_iff prior (cccFields_char hf) hes').mp hpath, hset⟩

/-! ## Orders -/

theorem entries_append (reply reply' : List Object) :
    entries (reply ++ reply') = entries reply ++ entries reply' := List.flatMap_append

/-- A field is set iff an object has the characteristic. -/
theorem field_ne_nil_iff (prior : CString → CString) {f : CString × (Gatt → CString)}
    (hf : f ∈ charFields) (reply : List Object) :
    f.2 (discoverAll prior reply) ≠ [] ↔ ∃ o ∈ reply, CarriesChar o f.1 := by
  rw [discoverAll_eq, path_ne_nil_iff prior hf (rooted_entries reply), carriesChar_iff]

/-- The object with a characteristic that comes last is the one that is kept. -/
theorem field_last (prior : CString → CString) {f : CString × (Gatt → CString)}
    (hf : f ∈ charFields) (reply : List Object) {o : Object} (ho : CarriesChar o f.1) :
    f.2 (discoverAll prior (reply ++ [o])) = snprintf 128 o.path := by
  rw [discoverAll_eq, path_foldl prior hf, entries_append, List.filter_append, List.getLast?_append]
  cases h : ((entries [o]).filter (IsChar f.1 ·)).getLast? with
  | none =>
      obtain ⟨e, he, hchar⟩ := carriesChar_iff.mpr ⟨o, List.mem_singleton_self o, ho⟩
      have hmem : e ∈ (entries [o]).filter (IsChar f.1 ·) :=
        List.mem_filter.mpr ⟨he, decide_eq_true hchar⟩
      rw [List.getLast?_eq_none_iff.mp h] at hmem
      exact absurd hmem List.not_mem_nil
  | some c =>
      have hmem := List.mem_filter.mp (List.mem_of_getLast? h)
      obtain ⟨o', ho', hpath, -⟩ := mem_entries.mp hmem.1
      obtain rfl := List.mem_singleton.mp ho'
      rw [Option.some_or, Option.map_some, Option.getD_some, hpath]

/-- A field that is set is the path of an object with the characteristic. -/
theorem field_eq (prior : CString → CString) {f : CString × (Gatt → CString)}
    (hf : f ∈ charFields) {reply : List Object} (h : f.2 (discoverAll prior reply) ≠ []) :
    ∃ o ∈ reply, CarriesChar o f.1 ∧ f.2 (discoverAll prior reply) = snprintf 128 o.path := by
  rw [discoverAll_eq, path_foldl prior hf] at *
  cases hlast : ((entries reply).filter (IsChar f.1 ·)).getLast? with
  | none => simp [hlast] at h
  | some c =>
      have hmem := List.mem_filter.mp (List.mem_of_getLast? hlast)
      obtain ⟨o, ho, hpath, hi⟩ := mem_entries.mp hmem.1
      exact ⟨o, ho, ⟨c.2, hi, of_decide_eq_true hmem.2⟩, by rw [hpath]; rfl⟩

/-- Whether the characteristics are there does not depend on the order. -/
theorem result_iff (prior : CString → CString) (reply : List Object) :
    (discoverAll prior reply).result = 0 ↔
      (∃ o ∈ reply, CarriesChar o uuidInput) ∧ ∃ o ∈ reply, CarriesChar o uuidCmdData := by
  have hinput := field_ne_nil_iff prior (f := (uuidInput, Gatt.pathInput)) (by simp [charFields])
    reply
  have hdata := field_ne_nil_iff prior (f := (uuidCmdData, Gatt.pathCmdData)) (by simp [charFields])
    reply
  rw [← hinput, ← hdata, Gatt.result]
  split_ifs with h
  · refine iff_of_false (by decide) ?_
    rintro ⟨h1, h2⟩
    exact h.elim h1 h2
  · exact iff_of_true rfl (not_or.mp h)

/-- With the objects of a characteristic behind all others, its descriptor is one of them. -/
theorem ccc_behind (prior : CString → CString) {f : CccField} (hf : f ∈ cccFields)
    {others behind : List Object} (hothers' : ∀ o ∈ others, ¬CarriesChar o f.uuid)
    (hne : f.ccc (discoverAll prior (others ++ behind)) ≠ []) :
    ∃ o ∈ behind, f.ccc (discoverAll prior (others ++ behind)) = snprintf 128 o.path := by
  have hccc := ccc_foldl prior hf (rooted_entries (others ++ behind))
  rw [← discoverAll_eq] at hccc
  obtain ⟨before, d, after, heq, ⟨c, hc, hchar⟩, hd⟩ := hccc.resolve_left hne
  rw [entries_append] at heq
  have hmem : d ∈ entries behind := by
    rcases List.append_eq_append_iff.mp heq with ⟨rest, hbefore, hrest⟩ | ⟨rest, hothers, -⟩
    · rw [hrest]
      simp
    · -- the characteristic would be one of the others
      have hcarries := carriesChar_iff.mp
        ⟨c, by rw [hothers]; exact List.mem_append_left _ hc, hchar⟩
      obtain ⟨o, ho, hcarries⟩ := hcarries
      exact absurd hcarries (hothers' o ho)
  obtain ⟨o, ho, hpath, -⟩ := mem_entries.mp hmem
  exact ⟨o, ho, by rw [hd, hpath]⟩

/-- An object put last. -/
theorem perm_last {reply : List Object} {o : Object} (h : o ∈ reply) :
    (reply.erase o ++ [o]).Perm reply :=
  (List.perm_append_singleton o _).trans (List.perm_cons_erase h).symm

theorem carries_perm {reply order : List Object} (h : order.Perm reply) (uuid : CString) :
    (∃ o ∈ order, CarriesChar o uuid) ↔ ∃ o ∈ reply, CarriesChar o uuid :=
  exists_congr fun _ => and_congr_left' h.mem_iff

theorem not_child_self (p : CString) : ¬Child p p := by
  rintro ⟨-, name, -, -, h⟩
  have := congrArg List.length h
  simp at this

section

variable {prior : CString → CString} {reply : List Object}

/-- Nothing can be matched: the object whose characteristic took a descriptor may come last. -/
theorem unmatched_of_cccMatched (h : CccMatched prior reply)
    (hfound : ∀ order, order.Perm reply → (discoverAll prior order).result = 0)
    {order : List Object} (hperm : order.Perm reply) : (discoverAll prior order).Unmatched := by
  intro f hf
  by_contra hne
  -- the objects with the characteristic behind the others
  have hbehind : (reply.filter (fun o => !decide (CarriesChar o f.uuid)) ++
      reply.filter (CarriesChar · f.uuid)).Perm reply :=
    List.perm_append_comm.trans (List.filter_append_perm _ _)
  rw [h.same order _ hperm hbehind (hfound _ hperm) f hf] at hne
  obtain ⟨o, ho, hccc⟩ := ccc_behind prior hf (fun o ho => by
    simpa using (List.mem_filter.mp ho).2) hne
  obtain ⟨ho, hcarries⟩ := List.mem_filter.mp ho
  -- the one that took the descriptor last
  have hlast := perm_last ho
  have hpath := field_last prior (cccFields_char hf) (reply.erase o) (of_decide_eq_true hcarries)
  have hchild := (h.matched _ hlast (hfound _ hlast) f hf).child
  rw [h.same _ _ hlast hbehind (hfound _ hlast) f hf] at hchild
  rcases hchild with hempty | ⟨o', -, -, hdesc, hchild⟩
  · exact hne hempty
  · rw [hdesc, hccc] at hchild
    rw [show f.path (discoverAll prior (reply.erase o ++ [o])) = snprintf 128 o.path from hpath]
      at hchild
    exact not_child_self _ hchild

/-- Nothing is matched in any order iff no descriptor is taken. -/
theorem unmatched_iff_free : (∀ order, order.Perm reply → (discoverAll prior order).Unmatched) ↔
    ∀ order, order.Perm reply → ∀ before d after, entries order = before ++ d :: after →
      IsCcc d → ¬Taken prior before d := by
  refine forall₂_congr fun order _ => ?_
  rw [discoverAll_eq, unmatched_foldl prior (rooted_entries order)]
  refine forall₄_congr fun before d after heq => ?_
  have hes : Rooted before := by
    intro e he
    refine rooted_entries order e ?_
    rw [heq]
    exact List.mem_append_left _ he
  rw [takes_iff prior hes]

/-- **Matching depends on the order**: in every order of the objects each CCC descriptor is matched
to the characteristic it is a child of, and to none else, iff the input or the command data is
missing, or no descriptor is ever taken and none is a child of a characteristic. This is about the
bodies of the loops (`discoverAll`): `discover_gatt` itself never visits all objects of a controller
with a result of zero (`discoverGatt_fails`).
Source: `switch2-bt.c` `discover_gatt` (CCC descriptors) -/
theorem cccMatched_iff (prior : CString → CString) (reply : List Object) :
    CccMatched prior reply ↔
      ¬((∃ o ∈ reply, CarriesChar o uuidInput) ∧ ∃ o ∈ reply, CarriesChar o uuidCmdData) ∨
        NoneTaken prior reply := by
  have hresult : ∀ order, order.Perm reply → ((discoverAll prior order).result = 0 ↔
      (∃ o ∈ reply, CarriesChar o uuidInput) ∧ ∃ o ∈ reply, CarriesChar o uuidCmdData) := by
    intro order hperm
    rw [result_iff, carries_perm hperm, carries_perm hperm]
  constructor
  · intro h
    rw [or_iff_not_imp_left, not_not]
    intro hthere
    have hfound := fun order hperm => (hresult order hperm).mpr hthere
    have hunmatched := fun (order : List Object) (hperm : order.Perm reply) =>
      unmatched_of_cccMatched h hfound hperm
    refine ⟨unmatched_iff_free.mp hunmatched, ?_⟩
    intro f hf o ho hcarries o' ho' hccc hchild
    have hlast := perm_last ho
    rw [← field_last prior (cccFields_char hf) (reply.erase o) hcarries] at hchild
    exact (h.matched _ hlast (hfound _ hlast) f hf).found ⟨o', ho', hccc, hchild⟩
      (hunmatched _ hlast f hf)
  · rintro (hmissing | hnone)
    · exact ⟨fun order hperm hres => absurd ((hresult order hperm).mp hres) hmissing,
        fun order _ hperm _ hres => absurd ((hresult order hperm).mp hres) hmissing⟩
    · have hunmatched := unmatched_iff_free.mpr hnone.free
      constructor
      · intro order hperm _ f hf
        refine ⟨.inl (hunmatched order hperm f hf), ?_⟩
        rintro ⟨o', ho', hccc, hchild⟩
        obtain ⟨o, ho, hcarries, hpath⟩ := field_eq prior (cccFields_char hf) hchild.1
        rw [show f.path (discoverAll prior order) = snprintf 128 o.path from hpath] at hchild
        exact absurd hchild
          (hnone.childless f hf o (hperm.mem_iff.mp ho) hcarries o' ho' hccc)
      · intro order order' hperm hperm' _ f hf
        rw [hunmatched order hperm f hf, hunmatched order' hperm' f hf]

end

/-! ## Objects with one interface of GATT -/

section single

variable {prior : CString → CString} {reply : List Object}

/-- No object has two interfaces of GATT. -/
def Single (reply : List Object) : Prop :=
  ∀ o ∈ reply, (o.interfaces.filter (IsGatt ·)).length ≤ 1

theorem Single.char_ne_ccc (h : Single reply) {o : Object} (ho : o ∈ reply) {uuid : CString}
    (hchar : CarriesChar o uuid) : ¬CarriesCcc o := by
  rintro ⟨i, hi, hdesc, -⟩
  obtain ⟨i', hi', hname, -⟩ := hchar
  have hmem : i ∈ o.interfaces.filter (IsGatt ·) :=
    List.mem_filter.mpr ⟨hi, decide_eq_true (.inr hdesc)⟩
  have hmem' : i' ∈ o.interfaces.filter (IsGatt ·) :=
    List.mem_filter.mpr ⟨hi', decide_eq_true (.inl hname)⟩
  obtain ⟨a, ha⟩ : ∃ a, o.interfaces.filter (IsGatt ·) = [a] :=
    List.length_eq_one_iff.mp (Nat.le_antisymm (h o ho) (List.length_pos_of_mem hmem))
  rw [ha, List.mem_singleton] at hmem hmem'
  rw [hmem', ← hmem, hdesc] at hname
  exact absurd hname (by decide +kernel)

/-- A characteristic of one object can be visited right before a descriptor of another. -/
theorem Single.taken (h : Single reply) {x o' : Object} (hx : x ∈ reply) (ho' : o' ∈ reply)
    {uuid : CString} (hchar : CarriesChar x uuid) (hccc : CarriesCcc o') :
    ∃ order before d after, order.Perm reply ∧ entries order = before ++ d :: after ∧ IsCcc d ∧
      d.1 = o'.path ∧ (∃ c ∈ before, IsChar uuid c) ∧
      ∃ c, (before.filter (IsChar uuid ·)).getLast? = some c ∧ c.1 = x.path := by
  have hne : o' ≠ x := by
    rintro rfl
    exact h.char_ne_ccc hx hchar hccc
  have hrest : o' ∈ reply.erase x := (List.mem_erase_of_ne hne).mpr ho'
  have hperm : (x :: o' :: (reply.erase x).erase o').Perm reply :=
    ((List.perm_cons_erase hrest).symm.cons x).trans (List.perm_cons_erase hx).symm
  obtain ⟨i, hi, hdesc⟩ := id hccc
  obtain ⟨pre, post, hsplit⟩ := List.append_of_mem
    (mem_entries.mpr ⟨o', List.mem_singleton_self o', rfl, hi⟩ : (o'.path, i) ∈ entries [o'])
  have hpre : pre.filter (IsChar uuid ·) = [] := by
    refine List.filter_eq_nil_iff.mpr fun e he hchar => ?_
    obtain ⟨o, ho, hcarries⟩ := carriesChar_iff.mp
      ⟨e, by rw [hsplit]; exact List.mem_append_left _ he, of_decide_eq_true hchar⟩
    obtain rfl := List.mem_singleton.mp ho
    exact h.char_ne_ccc ho' hcarries hccc
  obtain ⟨c, hc, hcchar⟩ := carriesChar_iff.mpr ⟨x, List.mem_singleton_self x, hchar⟩
  have hne' : (entries [x]).filter (IsChar uuid ·) ≠ [] :=
    List.ne_nil_of_mem (List.mem_filter.mpr ⟨hc, decide_eq_true hcchar⟩)
  refine ⟨_, entries [x] ++ pre, (o'.path, i), post ++ entries ((reply.erase x).erase o'), hperm,
    ?_, hdesc, rfl, ⟨c, List.mem_append_left _ hc, hcchar⟩,
    ((entries [x]).filter (IsChar uuid ·)).getLast hne', ?_, ?_⟩
  · show entries ([x] ++ ([o'] ++ (reply.erase x).erase o')) = _
    rw [entries_append, entries_append, hsplit]
    simp
  · rw [List.filter_append, hpre, List.append_nil]
    exact List.getLast?_eq_some_getLast hne'
  · obtain ⟨o, ho, hpath, -⟩ :=
      mem_entries.mp (List.mem_filter.mp (List.getLast_mem hne')).1
    rw [← hpath, List.mem_singleton.mp ho]

/-- The objects of a descriptor and of the characteristics before it. -/
theorem split_carries {order : List Object} (hperm : order.Perm reply) {before after : List Entry}
    {d : Entry} (heq : entries order = before ++ d :: after) (hd : IsCcc d) :
    (∃ o' ∈ reply, CarriesCcc o' ∧ o'.path = d.1) ∧
      ∀ uuid, ∀ c ∈ before, IsChar uuid c → ∃ o ∈ reply, CarriesChar o uuid ∧ o.path = c.1 := by
  constructor
  · obtain ⟨o', ho', hpath, hi⟩ := mem_entries.mp (by rw [heq]; simp : d ∈ entries order)
    exact ⟨o', hperm.mem_iff.mp ho', ⟨d.2, hi, hd⟩, hpath⟩
  · intro uuid c hc hchar
    obtain ⟨o, ho, hpath, hi⟩ := mem_entries.mp
      (by rw [heq]; exact List.mem_append_left _ hc : c ∈ entries order)
    exact ⟨o, hperm.mem_iff.mp ho, ⟨c.2, hi, hchar⟩, hpath⟩

/-- Where no object has two interfaces of GATT, no descriptor is taken iff there is none, or there
is no response characteristic, and no path of a descriptor looks like that of an input. -/
theorem noneTaken_iff (h : Single reply) :
    NoneTaken prior reply ↔ (∀ o ∈ reply, ¬CarriesCcc o) ∨
      ((∀ o ∈ reply, ¬CarriesChar o uuidResp1) ∧ (∀ o ∈ reply, ¬CarriesChar o uuidResp2) ∧
        ∀ o ∈ reply, CarriesChar o uuidInput → ∀ o' ∈ reply, CarriesCcc o' →
          ¬needle prior (snprintf 128 o.path) <:+: o'.path ∧
            ¬Child (snprintf 128 o.path) o'.path) := by
  constructor
  · intro hnone
    rw [or_iff_not_imp_left]
    intro hsome
    obtain ⟨o', ho', hccc⟩ : ∃ o' ∈ reply, CarriesCcc o' := by
      by_contra hnot
      exact hsome fun o ho hccc => hnot ⟨o, ho, hccc⟩
    refine ⟨?_, ?_, ?_⟩
    · intro x hx hchar
      obtain ⟨order, before, d, after, hperm, heq, hd, -, hc, -⟩ := h.taken hx ho' hchar hccc
      exact hnone.free order hperm before d after heq hd (.inr (.inl hc))
    · intro x hx hchar
      obtain ⟨order, before, d, after, hperm, heq, hd, -, hc, -⟩ := h.taken hx ho' hchar hccc
      exact hnone.free order hperm before d after heq hd (.inr (.inr hc))
    · intro x hx hchar o' ho' hccc
      refine ⟨fun hinfix => ?_, hnone.childless ⟨uuidInput, Gatt.pathInput, Gatt.pathCccInput⟩
        (by simp [cccFields]) x hx hchar o' ho' hccc⟩
      obtain ⟨order, before, d, after, hperm, heq, hd, hdpath, -, c, hlast, hcpath⟩ :=
        h.taken hx ho' hchar hccc
      refine hnone.free order hperm before d after heq hd (.inl ⟨c, hlast, ?_⟩)
      rwa [hcpath, hdpath]
  · rintro (hnone | ⟨hresp1, hresp2, hinput⟩)
    · constructor
      · intro order hperm before d after heq hd
        obtain ⟨⟨o', ho', hccc, -⟩, -⟩ := split_carries hperm heq hd
        exact absurd hccc (hnone o' ho')
      · intro f _ o _ _ o' ho' hccc
        exact absurd hccc (hnone o' ho')
    · constructor
      · intro order hperm before d after heq hd
        obtain ⟨⟨o', ho', hccc, hdpath⟩, hchars⟩ := split_carries hperm heq hd
        rintro (⟨c, hlast, hinfix⟩ | ⟨c, hc, hchar⟩ | ⟨c, hc, hchar⟩)
        · have hmem := List.mem_filter.mp (List.mem_of_getLast? hlast)
          obtain ⟨o, ho, hchar, hpath⟩ := hchars _ c hmem.1 (of_decide_eq_true hmem.2)
          rw [← hpath, ← hdpath] at hinfix
          exact (hinput o ho hchar o' ho' hccc).1 hinfix
        · obtain ⟨o, ho, hchar, -⟩ := hchars _ c hc hchar
          exact hresp1 o ho hchar
        · obtain ⟨o, ho, hchar, -⟩ := hchars _ c hc hchar
          exact hresp2 o ho hchar
      · intro f hf o ho hchar o' ho' hccc
        rcases mem_cccFields hf with rfl | rfl | rfl
        · exact (hinput o ho hchar o' ho' hccc).2
        · exact absurd hchar (hresp1 o ho)
        · exact absurd hchar (hresp2 o ho)

end single

/-- The descriptor of the second response characteristic. -/
def desc001f : Object := ⟨"/org/bluez/hci0/dev_A/service0001/char001e/desc001f".toList,
  [⟨ifaceGattDesc, [⟨propUuid, uuidCcc⟩]⟩], by decide +kernel⟩

/-- A controller with a descriptor below the input characteristic and below both responses. -/
def deviceReply : List Object := [
  ⟨"/org/bluez/hci0/dev_A/service0001/char000e".toList,
    [⟨ifaceGattChar, [⟨propUuid, uuidInput⟩]⟩], by decide +kernel⟩,
  ⟨"/org/bluez/hci0/dev_A/service0001/char000e/desc000f".toList,
    [⟨ifaceGattDesc, [⟨propUuid, uuidCcc⟩]⟩], by decide +kernel⟩,
  ⟨"/org/bluez/hci0/dev_A/service0001/char0016".toList,
    [⟨ifaceGattChar, [⟨propUuid, uuidCmdData⟩]⟩], by decide +kernel⟩,
  ⟨"/org/bluez/hci0/dev_A/service0001/char001a".toList,
    [⟨ifaceGattChar, [⟨propUuid, uuidResp1⟩]⟩], by decide +kernel⟩,
  ⟨"/org/bluez/hci0/dev_A/service0001/char001a/desc001b".toList,
    [⟨ifaceGattDesc, [⟨propUuid, uuidCcc⟩]⟩], by decide +kernel⟩,
  ⟨"/org/bluez/hci0/dev_A/service0001/char001e".toList,
    [⟨ifaceGattChar, [⟨propUuid, uuidResp2⟩]⟩], by decide +kernel⟩,
  desc001f]

/-- An interface with nothing but its UUID. -/
theorem caseEq_uuidOf (name uuid : CString) : CaseEq (uuidOf ⟨name, [⟨propUuid, uuid⟩]⟩) uuid := by
  have hproperty : uuidOf ⟨name, [⟨propUuid, uuid⟩]⟩ = uuid := by
    simp [uuidOf, Interface.property]
  rw [hproperty]
  exact CaseEq.refl uuid

/-- Each descriptor is taken once the first response characteristic was seen, also that of the
second one. -/
theorem not_cccMatched : ¬CccMatched id deviceReply := by
  intro h
  have hmem : ∀ n o, deviceReply[n]? = some o → o ∈ deviceReply :=
    fun n o ho => List.mem_of_getElem? ho
  have hinput : ∃ o ∈ deviceReply, CarriesChar o uuidInput :=
    ⟨_, hmem 0 _ rfl, _, List.mem_singleton_self _, rfl, caseEq_uuidOf _ _⟩
  have hdata : ∃ o ∈ deviceReply, CarriesChar o uuidCmdData :=
    ⟨_, hmem 2 _ rfl, _, List.mem_singleton_self _, rfl, caseEq_uuidOf _ _⟩
  have hfound : ∀ order, order.Perm deviceReply → (discoverAll id order).result = 0 := by
    intro order hperm
    rw [result_iff, carries_perm hperm, carries_perm hperm]
    exact ⟨hinput, hdata⟩
  have hsingle : Single deviceReply := by
    have hone : ∀ o ∈ deviceReply, o.interfaces.length ≤ 1 := by decide +kernel
    intro o ho
    exact Nat.le_trans (List.length_filter_le _ _) (hone o ho)
  have hresp1 := hmem 3 _ rfl
  have hdesc : desc001f ∈ deviceReply := hmem 6 _ rfl
  have hccc : CarriesCcc desc001f := ⟨_, List.mem_singleton_self _, rfl, caseEq_uuidOf _ _⟩
  obtain ⟨order, before, d, after, hperm, heq, hd, -, hbefore, -⟩ :=
    hsingle.taken hresp1 hdesc ⟨_, List.mem_singleton_self _, rfl, caseEq_uuidOf _ uuidResp1⟩ hccc
  have hfree := unmatched_iff_free.mp fun order hperm => unmatched_of_cccMatched h hfound hperm
  exact hfree order hperm before d after heq hd (.inr (.inl hbefore))

end Switch2Bt.Discovery
