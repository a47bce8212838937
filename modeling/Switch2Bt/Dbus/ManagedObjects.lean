import Mathlib.Data.List.Induction
import Mathlib.Data.Int.Order.Basic

/-!
# Replies of an object manager

A reply lists objects by path, with their interfaces, with their properties. `whileEntries` is the
loop that reads such a list: it goes on while one result variable is positive, the body leaves its
own result there, and where no entry is left the result is `0`. So a loop always ends with a result
of `0` or less (`whileEntries_le`), and a loop whose body ends with another such loop, and leaves
the result of that, reads one entry only (`whileEntries_nested`). Nothing here knows what is read.
-/

namespace Dbus

/-! ## Strings -/

/-- A string, without the zero at its end. -/
abbrev CString := List Char

/-- What `snprintf` puts of a string into a buffer. -/
def snprintf (size : ℕ) (s : CString) : CString := s.take (size - 1)

/-- Equal but for the case of letters. -/
def CaseEq (s t : CString) : Prop := s.map Char.toLower = t.map Char.toLower

instance (s t : CString) : Decidable (CaseEq s t) := inferInstanceAs (Decidable (_ = _))

theorem CaseEq.refl (s : CString) : CaseEq s s := Eq.refl _

theorem CaseEq.symm {s t : CString} (h : CaseEq s t) : CaseEq t s := Eq.symm h

theorem CaseEq.trans {s t u : CString} (h : CaseEq s t) (h' : CaseEq t u) :
    CaseEq s u := Eq.trans h h'

theorem CaseEq.length_eq {s t : CString} (h : CaseEq s t) : s.length = t.length := by
  simpa using congrArg List.length h

theorem snprintf_eq_self {size : ℕ} {s : CString} (h : s.length < size) : snprintf size s = s :=
  List.take_of_length_le (by omega)

theorem snprintf_eq_self_iff {size : ℕ} {s : CString} (h : s ≠ []) :
    snprintf size s = s ↔ s.length < size := by
  have hpos := List.length_pos_iff.mpr h
  refine ⟨fun heq => ?_, snprintf_eq_self⟩
  have hlen := congrArg List.length heq
  rw [snprintf, List.length_take] at hlen
  omega

theorem snprintf_ne_nil {size : ℕ} {s : CString} (hsize : 1 < size) (h : s ≠ []) :
    snprintf size s ≠ [] := by
  have hpos := List.length_pos_iff.mpr h
  rw [← List.length_pos_iff, snprintf, List.length_take]
  omega

/-- A buffer with room for more than the string compared with does not change the comparison. -/
theorem caseEq_snprintf_iff {size : ℕ} {s t : CString} (h : t.length + 1 < size) :
    CaseEq (snprintf size s) t ↔ CaseEq s t := by
  constructor
  · intro heq
    have hlen := heq.length_eq
    rw [snprintf, List.length_take] at hlen
    rwa [snprintf_eq_self (by omega)] at heq
  · intro heq
    have hlen := heq.length_eq
    rwa [snprintf_eq_self (by omega)]

/-! ## Objects -/

/-- A property of an interface, with the string in its value. -/
structure Property where
  name : CString
  value : CString
deriving DecidableEq, Repr

/-- An interface of an object. -/
structure Interface where
  name : CString
  properties : List Property
deriving DecidableEq, Repr

/-- An object of a reply; its path starts with a slash. -/
structure Object where
  path : CString
  interfaces : List Interface
  rooted : path.head? = some '/'
deriving DecidableEq

/-- The value of a property; were it listed more than once, the last one. -/
def Interface.property (i : Interface) (name : CString) : Option CString :=
  ((i.properties.filter (·.name = name)).getLast?).map Property.value

/-- An object with an interface of a given name. -/
def Object.Implements (o : Object) (name : CString) : Prop := ∃ i ∈ o.interfaces, i.name = name

instance (o : Object) (name : CString) : Decidable (o.Implements name) :=
  inferInstanceAs (Decidable (∃ i ∈ _, _))

theorem Object.path_ne_nil (o : Object) : o.path ≠ [] := by
  intro h
  have := o.rooted
  rw [h] at this
  cases this

/-- Keeping a copy of the last value of a property while its interface is read. -/
theorem foldl_property (copy : CString → CString) (i : Interface) (name s : CString) :
    i.properties.foldl (fun s p => if p.name = name then copy p.value else s) s =
      ((i.property name).map copy).getD s := by
  obtain ⟨iname, ps⟩ := i
  induction ps using List.reverseRecOn with
  | nil => rfl
  | append_singleton ps p ih =>
      rw [List.foldl_append, ih]
      by_cases h : p.name = name
      · simp [Interface.property, List.filter_append, h]
      · simp [Interface.property, List.filter_append, h]

/-! ## Loops over entries -/

section loops

variable {α σ : Type} {body : σ → α → ℤ × σ} {s : σ} {x : α} {xs : List α}

/-- `while (r > 0) { r = enter; if (r <= 0) break; body }` -/
def whileEntries (body : σ → α → ℤ × σ) : List α → σ → ℤ × σ
  | [], s => (0, s)
  | x :: xs, s => if 0 < (body s x).1 then whileEntries body xs (body s x).2 else body s x

/-- A body that leaves a positive result goes on with the next entry. -/
theorem whileEntries_next (h : 0 < (body s x).1) :
    whileEntries body (x :: xs) s = whileEntries body xs (body s x).2 := if_pos h

/-- A body that leaves none reads no other entry. -/
theorem whileEntries_stop (h : (body s x).1 ≤ 0) :
    whileEntries body (x :: xs) s = body s x := if_neg (by omega)

/-- A loop ends with a result of `0` or less. -/
theorem whileEntries_le (body : σ → α → ℤ × σ) (xs : List α) (s : σ) :
    (whileEntries body xs s).1 ≤ 0 := by
  induction xs generalizing s with
  | nil => exact le_refl _
  | cons x xs ih =>
      rw [whileEntries]
      split_ifs with h
      · exact ih _
      · omega

/-- **One variable for two loops**: a loop whose body leaves the result of another loop reads its
first entry only. -/
theorem whileEntries_nested {β : Type} (inner : α → σ → β → ℤ × σ) (entries : α → List β) (x : α)
    (xs : List α) (s : σ) :
    whileEntries (fun s x => whileEntries (inner x) (entries x) s) (x :: xs) s =
      whileEntries (inner x) (entries x) s :=
  whileEntries_stop (whileEntries_le _ _ _)

/-- A body that always goes on reads all entries. -/
theorem whileEntries_all {f : σ → α → σ} (h : ∀ s x, body s x = (1, f s x)) (xs : List α) (s : σ) :
    whileEntries body xs s = (0, xs.foldl f s) := by
  induction xs generalizing s with
  | nil => rfl
  | cons x xs ih =>
      rw [whileEntries_next (by rw [h]; exact Int.one_pos), h]
      exact ih _

/-- A loop that goes on over entries of no interest does nothing until the first other one. -/
theorem whileEntries_find {p : α → Bool} (hskip : ∀ x, p x = false → body s x = (1, s))
    (hstop : ∀ x, p x = true → (body s x).1 ≤ 0) (xs : List α) :
    whileEntries body xs s = ((xs.find? p).map (body s)).getD (0, s) := by
  induction xs with
  | nil => rfl
  | cons x xs ih =>
      cases h : p x with
      | true => rw [whileEntries_stop (hstop x h), List.find?_cons_of_pos h]; rfl
      | false =>
          rw [whileEntries_next (by rw [hskip x h]; exact Int.one_pos), hskip x h, ih,
            List.find?_cons_of_neg (by simp [h])]

end loops

end Dbus
