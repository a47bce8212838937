import Mathlib.Data.List.Induction

/-!
# Properties of traces

A trace is a list of observations, the oldest first. `Everywhere P tr` asks for `P` at every
observation, given what was observed before it; a trace that grows by one observation has one more
obligation (`everywhere_snoc`). `since start tr` is what was observed after the last observation
that `start` picks, `seenSince g tr tr'` what `g` picks of `tr'` after its prefix `tr`,
`openFds change tr` what is open behind it. A `monitor` reads a trace from its start and may refuse
an observation.
-/

namespace Await

variable {α : Type} {P Q : List α → α → Prop} {start : α → Bool} {tr : List α} {o : α}

/-- `P` holds at every observation of a trace. -/
def Everywhere (P : List α → α → Prop) (tr : List α) : Prop :=
  ∀ pre o post, tr = pre ++ o :: post → P pre o

theorem everywhere_nil : Everywhere P [] := by
  intro pre o post h
  simp at h

/-- A trace with one more observation has one more obligation. -/
theorem everywhere_snoc : Everywhere P (tr ++ [o]) ↔ Everywhere P tr ∧ P tr o := by
  constructor
  · intro h
    refine ⟨fun pre x post heq => ?_, h tr o [] rfl⟩
    exact h pre x (post ++ [o]) (by rw [heq, List.append_assoc, List.cons_append])
  · intro h pre x post heq
    rcases List.append_eq_append_iff.mp heq with ⟨mid, rfl, hlast⟩ | ⟨mid, htr, hlast⟩
    · -- `x` is the new observation
      rcases mid with _ | ⟨y, mid⟩
      · cases hlast
        simpa using h.2
      · simp at hlast
    · rcases mid with _ | ⟨y, mid⟩
      · cases hlast
        rw [htr, List.append_nil] at h
        exact h.2
      · cases hlast
        exact h.1 pre x mid htr

/-- A prefix has fewer obligations. -/
theorem Everywhere.of_append {tr' : List α} (h : Everywhere P (tr ++ tr')) : Everywhere P tr := by
  rintro pre x post rfl
  exact h pre x (post ++ tr') (by simp)

theorem Everywhere.and (h : Everywhere P tr) (h' : Everywhere Q tr) :
    Everywhere (fun pre o => P pre o ∧ Q pre o) tr :=
  fun pre o post heq => ⟨h pre o post heq, h' pre o post heq⟩

/-- What holds everywhere holds at a position. -/
theorem everywhere_getElem :
    Everywhere P tr ↔ ∀ i (h : i < tr.length), P (tr.take i) tr[i] := by
  constructor
  · intro h i hi
    exact h (tr.take i) tr[i] (tr.drop (i + 1)) (by simp)
  · rintro h pre o post rfl
    have hi := h pre.length (by simp)
    simpa using hi

instance [∀ pre o, Decidable (P pre o)] : Decidable (Everywhere P tr) :=
  decidable_of_iff (∀ i (h : i < tr.length), P (tr.take i) tr[i]) everywhere_getElem.symm

/-- What was observed after the last start. -/
def since (start : α → Bool) (tr : List α) : List α :=
  tr.foldl (fun os o => if start o then [] else os ++ [o]) []

@[simp] theorem since_nil : since start [] = [] := rfl

theorem since_snoc : since start (tr ++ [o]) = if start o then [] else since start tr ++ [o] := by
  simp [since]

theorem since_snoc_start (h : start o = true) : since start (tr ++ [o]) = [] := by
  rw [since_snoc, if_pos h]

theorem since_snoc_of_not (h : start o = false) :
    since start (tr ++ [o]) = since start tr ++ [o] := by
  rw [since_snoc, if_neg (by simp [h])]

/-- What was observed after the last start was observed. -/
theorem mem_of_mem_since (h : o ∈ since start tr) : o ∈ tr := by
  induction tr using List.reverseRecOn with
  | nil => exact h
  | append_singleton tr x ih =>
      rw [since_snoc] at h
      split at h
      · cases h
      · rcases List.mem_append.mp h with h | h
        · exact List.mem_append_left _ (ih h)
        · exact List.mem_append_right _ h

section seen

variable {β : Type} {g : α → Option β} {tr' tr'' : List α}

/-- What `g` picks of the observations made since the trace was `tr`, in order. -/
def seenSince (g : α → Option β) (tr tr' : List α) : List β := (tr'.drop tr.length).filterMap g

@[simp] theorem seenSince_self : seenSince g tr tr = [] := by
  simp [seenSince]

theorem seenSince_append (os : List α) : seenSince g tr (tr ++ os) = os.filterMap g := by
  rw [seenSince, List.drop_left]

/-- What was seen since is what was seen up to a moment, then what was seen since that. -/
theorem seenSince_trans (h : tr <+: tr') (h' : tr' <+: tr'') :
    seenSince g tr tr'' = seenSince g tr tr' ++ seenSince g tr' tr'' := by
  obtain ⟨os, rfl⟩ := h
  obtain ⟨os', rfl⟩ := h'
  rw [List.append_assoc, seenSince_append, seenSince_append, ← List.append_assoc, seenSince_append,
    List.filterMap_append]

/-- One more observation may be one more thing seen. -/
theorem seenSince_snoc (h : tr <+: tr') :
    seenSince g tr (tr' ++ [o]) = seenSince g tr tr' ++ (g o).toList := by
  rw [seenSince_trans h (List.prefix_append _ _), seenSince_append]
  rcases ho : g o with _ | x
  · rw [List.filterMap_cons_none ho, Option.toList_none, List.filterMap_nil]
  · rw [List.filterMap_cons_some ho, Option.toList_some, List.filterMap_nil]

end seen

/-- What an observation does to the open descriptors; `none` is no descriptor. -/
inductive FdChange where
  | opens (fd : Option ℕ)
  | closes (fd : Option ℕ)
  | keeps

/-- The open descriptors behind a change, the last one first. -/
def FdChange.apply : FdChange → List ℕ → List ℕ
  | .opens fd, fds => fd.toList ++ fds
  | .closes fd, fds => fd.elim fds fds.erase
  | .keeps, fds => fds

section descriptors

variable {change : α → FdChange}

/-- The open descriptors behind a trace, the last one first. -/
def openFds (change : α → FdChange) (tr : List α) : List ℕ :=
  tr.foldl (fun fds o => (change o).apply fds) []

theorem openFds_snoc : openFds change (tr ++ [o]) = (change o).apply (openFds change tr) := by
  simp [openFds]

theorem openFds_keeps (h : change o = .keeps) : openFds change (tr ++ [o]) = openFds change tr := by
  rw [openFds_snoc, h]
  rfl

end descriptors

/-- The state of a monitor after a trace, unless it refused an observation. -/
def monitor {σ : Type} (step : σ → α → Option σ) (init : σ) (tr : List α) : Option σ :=
  tr.foldlM step init

theorem monitor_snoc {σ : Type} {step : σ → α → Option σ} {init : σ} :
    monitor step init (tr ++ [o]) = (monitor step init tr).bind fun s => step s o := by
  simp [monitor, List.foldlM_append]

/-- What one more accepted observation says about the monitor. -/
theorem monitor_isSome_snoc {σ : Type} {step : σ → α → Option σ} {init : σ}
    (h : (monitor step init (tr ++ [o])).isSome) :
    ∃ s s', monitor step init tr = some s ∧ step s o = some s' ∧
      monitor step init (tr ++ [o]) = some s' := by
  rw [monitor_snoc] at h ⊢
  obtain ⟨s', hs'⟩ := Option.isSome_iff_exists.mp h
  obtain ⟨s, hs, hstep⟩ := Option.bind_eq_some_iff.mp hs'
  exact ⟨s, s', hs, hstep, hs'⟩

/-- The invariant rule for monitors. -/
theorem monitor_invariant {σ : Type} {step : σ → α → Option σ} {init : σ} {I : σ → Prop}
    (hinit : I init) (hstep : ∀ s o s', I s → step s o = some s' → I s') {s : σ}
    (h : monitor step init tr = some s) : I s := by
  induction tr using List.reverseRecOn generalizing s with
  | nil => exact Option.some.inj h ▸ hinit
  | append_singleton tr o ih =>
      rw [monitor_snoc] at h
      obtain ⟨s₀, hs₀, hs⟩ := Option.bind_eq_some_iff.mp h
      exact hstep s₀ o s (ih hs₀) hs

/-- Every observation of a trace has a property, and so has the state of a monitor. -/
structure Tracked {σ : Type} (step : σ → α → Option σ) (init : σ) (P : List α → α → Prop)
    (I : σ → Prop) (tr : List α) : Prop where
  obs : Everywhere P tr
  state : ∀ s ∈ monitor step init tr, I s

section tracked

variable {σ : Type} {step : σ → α → Option σ} {init : σ} {I I' : σ → Prop}

theorem tracked_nil (h : I init) : Tracked step init P I [] :=
  ⟨everywhere_nil, fun _ hs => Option.some.inj hs ▸ h⟩

theorem Tracked.mono (h : Tracked step init P I tr) (hI : ∀ s, I s → I' s) :
    Tracked step init P I' tr := ⟨h.obs, fun s hs => hI s (h.state s hs)⟩

/-- One more observation is one more step of the monitor. -/
theorem Tracked.snoc (h : Tracked step init P I tr) (ho : P tr o)
    (hstep : ∀ s s', monitor step init tr = some s → I s → step s o = some s' → I' s') :
    Tracked step init P I' (tr ++ [o]) := by
  refine ⟨everywhere_snoc.mpr ⟨h.obs, ho⟩, fun s' hs' => ?_⟩
  obtain ⟨s, hs, hs'⟩ := Option.bind_eq_some_iff.mp (monitor_snoc.symm.trans hs')
  exact hstep s s' hs (h.state s hs) hs'

end tracked

end Await
