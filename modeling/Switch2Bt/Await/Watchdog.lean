import Mathlib.Algebra.Order.Group.Defs
import Mathlib.Data.Seq.Basic
import Mathlib.Order.Bounds.Basic

/-!
# Watchdogs

A watchdog waits for the next arrival of a timed sequence, for a timeout at most, and starts over
after each arrival. `Clock.Expires` is what it does, wait by wait. `Clock.Elapsed` is what it is
for: the timeout has passed since the later of the start and the last arrival.

* `Clock.Timed`: the arrivals come in order, from the start on, finitely many in finite time.
* `Clock.expires_iff`: a watchdog with a positive timeout expires at the first moment that is
  `Elapsed`, and at no other.

An arrival at the very moment a timer expires comes before the timer or after it; `first` says
which.
-/

namespace Await

open Stream'

variable {K α : Type}

/-- The time, and what is still to arrive, with its times. -/
structure Clock (K α : Type) where
  now : K
  pending : Seq (K × α)

section order

variable [LinearOrder K] {first : K → Bool} {r r' d d' : K}

/-- An arrival at `r` comes before a timer that expires at `d`. -/
def Before (first : K → Bool) (r d : K) : Prop := r < d ∨ (r = d ∧ first d = true)

instance : Decidable (Before first r d) := inferInstanceAs (Decidable (_ ∨ _))

theorem Before.le (h : Before first r d) : r ≤ d := by
  rcases h with hlt | ⟨rfl, -⟩
  · exact hlt.le
  · exact le_rfl

/-- An earlier arrival comes before the timer too. -/
theorem Before.of_le (h : Before first r' d) (hr : r ≤ r') : Before first r d := by
  rcases h with hlt | ⟨rfl, hfirst⟩
  · exact .inl (hr.trans_lt hlt)
  · rcases hr.lt_or_eq with hlt | rfl
    · exact .inl hlt
    · exact .inr ⟨rfl, hfirst⟩

/-- A later timer comes after the arrival too. -/
theorem Before.trans_le (h : Before first r d) (hd : d ≤ d') : Before first r d' := by
  rcases hd.lt_or_eq with hlt | rfl
  · exact .inl (h.le.trans_lt hlt)
  · exact h

end order

namespace Clock

variable [AddCommGroup K] [LinearOrder K] {first : K → Bool} {T e : K} {c : Clock K α} {a : K × α}

/-! ## Waiting -/

/-- The arrival that ends a wait of at most `T`. A wait without time ends at once. -/
def next (first : K → Bool) (T : K) (c : Clock K α) : Option (K × α) :=
  c.pending.head.filter fun a => decide (0 < T ∧ Before first a.1 (c.now + T))

/-- The clock after such a wait. -/
def wait (first : K → Bool) (T : K) (c : Clock K α) : Clock K α :=
  match c.next first T with
  | some a => ⟨a.1, c.pending.tail⟩
  | none => ⟨c.now + T, c.pending⟩

/-- The watchdog expires at a time. -/
inductive Expires (first : K → Bool) (T : K) : Clock K α → K → Prop where
  | timeout {c : Clock K α} (h : c.next first T = none) : Expires first T c (c.now + T)
  | rearm {c : Clock K α} {a : K × α} {e : K} (h : c.next first T = some a)
      (hrest : Expires first T (c.wait first T) e) : Expires first T c e

/-- At `e`, the time `T` has passed since the start and since the last arrival before. -/
def Elapsed (first : K → Bool) (T : K) (c : Clock K α) (e : K) : Prop :=
  c.now + T ≤ e ∧ ∀ a ∈ c.pending, Before first a.1 e → a.1 + T ≤ e

/-- The arrivals of a clock. -/
structure Timed (c : Clock K α) : Prop where
  start : ∀ a ∈ c.pending, c.now ≤ a.1
  sorted : c.pending.Pairwise fun a b => a.1 ≤ b.1
  finite : ∀ e, ∃ n, ∀ m, n ≤ m → ∀ a, c.pending.get? m = some a → e < a.1

theorem next_eq_some : c.next first T = some a ↔
    (∃ rest, c.pending = Seq.cons a rest) ∧ 0 < T ∧ Before first a.1 (c.now + T) := by
  unfold next
  rw [Option.filter_eq_some_iff, decide_eq_true_iff]
  constructor
  · rintro ⟨hhead, hbefore⟩
    exact ⟨⟨_, Seq.head_eq_some hhead⟩, hbefore⟩
  · rintro ⟨⟨rest, hrest⟩, hbefore⟩
    rw [hrest]
    exact ⟨Seq.head_cons a rest, hbefore⟩

theorem mem_of_next (h : c.next first T = some a) : a ∈ c.pending := by
  obtain ⟨⟨rest, hrest⟩, -⟩ := next_eq_some.mp h
  rw [hrest]
  exact Seq.mem_cons a rest

theorem wait_of_none (h : c.next first T = none) : c.wait first T = ⟨c.now + T, c.pending⟩ := by
  unfold wait
  rw [h]

theorem wait_of_some (h : c.next first T = some a) : c.wait first T = ⟨a.1, c.pending.tail⟩ := by
  unfold wait
  rw [h]

theorem mem_of_mem_wait (h : a ∈ (c.wait first T).pending) : a ∈ c.pending := by
  rcases hnext : c.next first T with _ | b
  · rw [wait_of_none hnext] at h
    exact h
  · rw [wait_of_some hnext] at h
    obtain ⟨⟨rest, hrest⟩, -⟩ := next_eq_some.mp hnext
    rw [hrest] at h ⊢
    exact Seq.mem_cons_of_mem b h

/-- After an arrival the rest arrives in the same way. -/
theorem Timed.wait (hc : c.Timed) (h : c.next first T = some a) : (c.wait first T).Timed := by
  rw [wait_of_some h]
  obtain ⟨⟨rest, hrest⟩, -⟩ := next_eq_some.mp h
  obtain ⟨now, pending⟩ := c
  subst hrest
  obtain ⟨hhead, hsorted⟩ := hc.sorted.cons_elim
  refine ⟨hhead, hsorted, fun e => ?_⟩
  obtain ⟨n, hn⟩ := hc.finite e
  refine ⟨n, fun m hm b hb => hn (m + 1) (Nat.le_succ_of_le hm) b ?_⟩
  rw [Seq.get?_cons_succ]
  exact hb

/-! ## When it expires -/

/-- A watchdog without a timeout expires at once. -/
theorem expires_zero : c.Expires first 0 e ↔ e = c.now := by
  have hnone : c.next first 0 = none := by
    unfold next
    simp
  constructor
  · intro h
    cases h with
    | timeout _ => exact add_zero c.now
    | rearm h _ =>
        rw [hnone] at h
        cases h
  · rintro rfl
    have htimeout := Expires.timeout hnone
    rw [add_zero] at htimeout
    exact htimeout

/-- If nothing arrives in time, the first moment that is `Elapsed` is the end of the wait. -/
theorem isLeast_of_none (hT : 0 < T) (hc : c.Timed) (h : c.next first T = none) :
    IsLeast {e | c.Elapsed first T e} (c.now + T) := by
  constructor
  · refine ⟨le_rfl, fun a ha hbefore => ?_⟩
    -- otherwise the head of the arrivals would end the wait
    exfalso
    obtain ⟨now, pending⟩ := c
    cases pending with
    | nil => exact Seq.notMem_nil a ha
    | cons b rest =>
        have hle : b.1 ≤ a.1 := by
          rcases Seq.mem_cons_iff.mp ha with rfl | hmem
          · exact le_rfl
          · exact hc.sorted.cons_elim.1 a hmem
        have hnext := next_eq_some.mpr ⟨⟨rest, rfl⟩, hT, hbefore.of_le hle⟩
        rw [h] at hnext
        cases hnext
  · exact fun e he => he.1

variable [IsOrderedAddMonoid K]

/-- An arrival in time does not change the moments that are `Elapsed`. -/
theorem elapsed_wait (hc : c.Timed) (h : c.next first T = some a) :
    (c.wait first T).Elapsed first T e ↔ c.Elapsed first T e := by
  rw [wait_of_some h]
  obtain ⟨⟨rest, hrest⟩, -, hbefore⟩ := next_eq_some.mp h
  obtain ⟨now, pending⟩ := c
  subst hrest
  unfold Elapsed
  constructor
  · rintro ⟨hstart, hrest⟩
    have hnow : now ≤ a.1 := hc.start a (Seq.mem_cons a rest)
    refine ⟨(add_le_add hnow le_rfl).trans hstart, fun b hb hbe => ?_⟩
    rcases Seq.mem_cons_iff.mp hb with rfl | hmem
    · exact hstart
    · exact hrest b hmem hbe
  · rintro ⟨hstart, hrest⟩
    refine ⟨hrest a (Seq.mem_cons a rest) (hbefore.trans_le hstart), fun b hb => ?_⟩
    exact hrest b (Seq.mem_cons_of_mem a hb)

/-- **A watchdog with a positive timeout expires** at the first moment at which the timeout has
passed since the start and since the last arrival. -/
theorem expires_iff (hT : 0 < T) (hc : c.Timed) :
    c.Expires first T e ↔ IsLeast {e | c.Elapsed first T e} e := by
  constructor
  · intro h
    induction h with
    | timeout h => exact isLeast_of_none hT hc h
    | rearm h _ ih =>
        have hleast := ih (hc.wait h)
        simp only [elapsed_wait hc h] at hleast
        exact hleast
  · intro hleast
    -- by induction on a number of arrivals after which none comes before `e`
    obtain ⟨n, hn⟩ := hc.finite e
    induction n generalizing c with
    | zero =>
        rcases hnext : c.next first T with _ | a
        · rw [hleast.unique (isLeast_of_none hT hc hnext)]
          exact .timeout hnext
        · exfalso
          obtain ⟨⟨rest, hrest⟩, -, hbefore⟩ := next_eq_some.mp hnext
          have hlate := hn 0 le_rfl a (by rw [hrest]; exact Seq.get?_cons_zero a rest)
          exact absurd (hbefore.le.trans hleast.1.1) (not_le.mpr hlate)
    | succ n ih =>
        rcases hnext : c.next first T with _ | a
        · rw [hleast.unique (isLeast_of_none hT hc hnext)]
          exact .timeout hnext
        · apply Expires.rearm hnext
          apply ih (hc.wait hnext)
          · simp only [elapsed_wait hc hnext]
            exact hleast
          · intro m hm b hb
            rw [wait_of_some hnext, Seq.get?_tail] at hb
            exact hn (m + 1) (Nat.succ_le_succ hm) b hb

end Clock

end Await
