import Mathlib.Data.List.Basic

/-!
# Computations that read a memory

`Reads ι β α` is a computation that reads a memory with places `ι` and contents `β` and returns an
`α`: it is done, or it reads a place and goes on with what it found there. Nothing else of the
memory is visible to it, so its value depends only on the places it reads (`run_congr`).

`Sat m P x Q` is the rule of the bounds proofs: on the memory `m` the computation reads only
places with `P`, and `Q` holds of its value.
-/

/-- A computation that reads a memory. -/
inductive Reads (ι β α : Type) where
  | done (a : α)
  | read (i : ι) (next : β → Reads ι β α)

namespace Reads

variable {ι β α γ : Type}

/-- One computation after another. -/
def bind : Reads ι β α → (α → Reads ι β γ) → Reads ι β γ
  | done a, f => f a
  | read i next, f => read i fun b => (next b).bind f

instance : Monad (Reads ι β) where
  pure := done
  bind := bind

/-- The content of a place. -/
def cell (i : ι) : Reads ι β β := read i done

/-- The contents of some places, in order. -/
def cells : List ι → Reads ι β (List β)
  | [] => done []
  | i :: is => read i fun b => (cells is).bind fun bs => done (b :: bs)

/-- A computation if a condition holds, a value otherwise. -/
def whenElse (c : Prop) [Decidable c] (x : Reads ι β α) (a : α) : Reads ι β α :=
  if c then x else done a

/-- The value on a memory. -/
def run (m : ι → β) : Reads ι β α → α
  | done a => a
  | read i next => (next (m i)).run m

/-- The places that are read, in order. -/
def places (m : ι → β) : Reads ι β α → List ι
  | done _ => []
  | read i next => i :: (next (m i)).places m

/-- Only places with `P` are read, and the value has `Q`. -/
def Sat (m : ι → β) (P : ι → Prop) (x : Reads ι β α) (Q : α → Prop) : Prop :=
  (∀ i ∈ x.places m, P i) ∧ Q (x.run m)

instance : LawfulMonad (Reads ι β) := LawfulMonad.mk' _
  (fun x => by
    change x.bind done = x
    induction x with
    | done a => rfl
    | read i next ih => exact congrArg (read i) (funext ih))
  (fun _ _ => rfl)
  (fun x f g => by
    change (x.bind f).bind g = x.bind fun a => (f a).bind g
    induction x with
    | done a => rfl
    | read i next ih => exact congrArg (read i) (funext ih))

variable {m m' : ι → β} {P : ι → Prop} {Q R : α → Prop}

/-! ## Values -/

@[simp] theorem run_pure (a : α) : (pure a : Reads ι β α).run m = a := rfl

@[simp] theorem run_cell (i : ι) : (cell i : Reads ι β β).run m = m i := rfl

@[simp] theorem run_bind (x : Reads ι β α) (f : α → Reads ι β γ) :
    (x >>= f).run m = (f (x.run m)).run m := by
  change (x.bind f).run m = _
  induction x with
  | done a => rfl
  | read i next ih => exact ih (m i)

@[simp] theorem run_map (f : α → γ) (x : Reads ι β α) : (f <$> x).run m = f (x.run m) := by
  rw [← bind_pure_comp, run_bind]
  rfl

/-- Going on with what a place holds. -/
theorem run_cell_bind (i : ι) (f : β → Reads ι β γ) : (cell i >>= f).run m = (f (m i)).run m := rfl

@[simp] theorem run_ite (c : Prop) [Decidable c] (x y : Reads ι β α) :
    (if c then x else y).run m = if c then x.run m else y.run m := apply_ite _ _ _ _

@[simp] theorem run_whenElse (c : Prop) [Decidable c] (x : Reads ι β α) (a : α) :
    (whenElse c x a).run m = if c then x.run m else a := apply_ite _ _ _ _

@[simp] theorem run_cells (is : List ι) : (cells is : Reads ι β (List β)).run m = is.map m := by
  induction is with
  | nil => rfl
  | cons i is ih =>
      have hcons : (cells (i :: is) : Reads ι β (List β)).run m =
          ((cells is : Reads ι β (List β)) >>= fun bs => pure (m i :: bs)).run m := rfl
      rw [hcons, run_bind, ih]
      rfl

/-! ## Places -/

@[simp] theorem places_pure (a : α) : (pure a : Reads ι β α).places m = [] := rfl

@[simp] theorem places_cell (i : ι) : (cell i : Reads ι β β).places m = [i] := rfl

@[simp] theorem places_bind (x : Reads ι β α) (f : α → Reads ι β γ) :
    (x >>= f).places m = x.places m ++ (f (x.run m)).places m := by
  change (x.bind f).places m = _
  induction x with
  | done a => rfl
  | read i next ih => exact congrArg (i :: ·) (ih (m i))

@[simp] theorem places_map (f : α → γ) (x : Reads ι β α) : (f <$> x).places m = x.places m := by
  rw [← bind_pure_comp, places_bind]
  exact List.append_nil _

@[simp] theorem places_ite (c : Prop) [Decidable c] (x y : Reads ι β α) :
    (if c then x else y).places m = if c then x.places m else y.places m := apply_ite _ _ _ _

@[simp] theorem places_cells (is : List ι) : (cells is : Reads ι β (List β)).places m = is := by
  induction is with
  | nil => rfl
  | cons i is ih =>
      have hcons : (cells (i :: is) : Reads ι β (List β)).places m =
          i :: ((cells is : Reads ι β (List β)) >>= fun bs => pure (m i :: bs)).places m := rfl
      rw [hcons, places_bind, ih, places_pure, List.append_nil]

@[simp] theorem places_whenElse (c : Prop) [Decidable c] (x : Reads ι β α) (a : α) :
    (whenElse c x a).places m = if c then x.places m else [] := apply_ite _ _ _ _

/-- One computation for each entry of a list. -/
theorem run_mapM (f : γ → Reads ι β α) (l : List γ) :
    (l.mapM f).run m = l.map fun c => (f c).run m := by
  induction l with
  | nil => rfl
  | cons c l ih =>
      rw [List.mapM_cons, run_bind, run_bind, ih]
      rfl

theorem places_mapM (f : γ → Reads ι β α) (l : List γ) :
    (l.mapM f).places m = l.flatMap fun c => (f c).places m := by
  induction l with
  | nil => rfl
  | cons c l ih =>
      rw [List.mapM_cons, places_bind, places_bind, ih, places_pure, List.append_nil,
        List.flatMap_cons]

/-- The value depends on the places read. -/
theorem run_congr (x : Reads ι β α) (h : ∀ i ∈ x.places m, m i = m' i) : x.run m = x.run m' := by
  induction x with
  | done a => rfl
  | read i next ih =>
      have hi : m i = m' i := h i List.mem_cons_self
      have hnext := ih (m i) fun j hj => h j (List.mem_cons_of_mem _ hj)
      rw [run, run, hnext, hi]

/-! ## Rules -/

theorem Sat.mono {x : Reads ι β α} (h : x.Sat m P Q) (hQ : ∀ a, Q a → R a) : x.Sat m P R :=
  ⟨h.1, hQ _ h.2⟩

theorem Sat.pure {a : α} (h : Q a) : (Pure.pure a : Reads ι β α).Sat m P Q :=
  ⟨fun _ hi => absurd hi List.not_mem_nil, h⟩

theorem Sat.cell {i : ι} {Q : β → Prop} (hi : P i) (h : Q (m i)) :
    (Reads.cell i : Reads ι β β).Sat m P Q :=
  ⟨fun _ hj => List.mem_singleton.mp hj ▸ hi, h⟩

theorem Sat.cells {is : List ι} {Q : List β → Prop} (hi : ∀ i ∈ is, P i) (h : Q (is.map m)) :
    (Reads.cells is : Reads ι β (List β)).Sat m P Q :=
  ⟨fun i hmem => hi i (by rwa [places_cells] at hmem), by rwa [run_cells]⟩

theorem Sat.bind {x : Reads ι β α} {f : α → Reads ι β γ} {Q : γ → Prop}
    (h : x.Sat m P fun a => (f a).Sat m P Q) : (x >>= f).Sat m P Q := by
  obtain ⟨hx, hf, hQ⟩ := h
  refine ⟨fun i hi => ?_, by rwa [run_bind]⟩
  rw [places_bind, List.mem_append] at hi
  exact hi.elim (hx i) (hf i)

/-- Read a place, then go on. -/
theorem Sat.cell_bind {i : ι} {f : β → Reads ι β γ} {Q : γ → Prop} (hi : P i)
    (h : (f (m i)).Sat m P Q) : (Reads.cell i >>= f).Sat m P Q :=
  Sat.bind (Sat.cell hi h)

/-- A computation that depends on a condition. -/
theorem Sat.ite {c : Prop} [Decidable c] {x y : Reads ι β α} (hx : c → x.Sat m P Q)
    (hy : ¬c → y.Sat m P Q) : (if c then x else y).Sat m P Q := by
  by_cases h : c
  · rw [if_pos h]
    exact hx h
  · rw [if_neg h]
    exact hy h

theorem Sat.whenElse {c : Prop} [Decidable c] {x : Reads ι β α} {a : α}
    (hx : c → x.Sat m P Q) (ha : ¬c → Q a) : (Reads.whenElse c x a).Sat m P Q :=
  Sat.ite hx fun h => Sat.pure (ha h)

end Reads
