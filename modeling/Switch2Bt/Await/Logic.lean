import Switch2Bt.Await.Coro

/-!
# A program logic for awaiting computations

`wp env m Q s` says that every run of `m` from the state `s` in the environment `env`, whatever
its budget, ends in the postcondition `Q`. A postcondition (`Post`) has a clause for each way a
run can stand: returned, raised, suspended. Since the budget is arbitrary, the `suspended` clause
speaks about every await of every longer run.

* The `wp_*` equations push `wp` through the synchronous primitives; they are the simp set of the
  logic. An await is opened by `wp_await_bind`, which asks for an assertion that the delivered
  events preserve.
* `Always env I m` is the special case of an invariant: `I` is kept whatever happens. It is closed
  under the combinators (`Always.bind`, `Always.loop`, …).
* `wp.and` adds an invariant to a postcondition, so a result about control flow can use a frame
  proved once.
* `Blocks` is the moment before an await: the state it is entered with.
-/

namespace Await

/-- A postcondition, by outcome. -/
structure Post (σ ε α : Type) where
  /-- What holds when the run returned. -/
  done : α → σ → Prop
  /-- What holds when the run raised. -/
  raised : ε → σ → Prop
  /-- What holds when the run is suspended. -/
  suspended : σ → Prop

/-- The postcondition that asks for `I` whatever the outcome. -/
def Post.all {σ ε α : Type} (I : σ → Prop) : Post σ ε α := ⟨fun _ => I, fun _ => I, I⟩

/-- An outcome and a final state satisfy a postcondition. -/
def Outcome.Sat {σ ε α : Type} (Q : Post σ ε α) : Outcome ε α → σ → Prop
  | .done a, s => Q.done a s
  | .raised e, s => Q.raised e s
  | .suspended, s => Q.suspended s

/-- `Post.all` does not look at the outcome. -/
@[simp] theorem Outcome.sat_all {σ ε α : Type} (I : σ → Prop) (o : Outcome ε α) (s : σ) :
    o.Sat (Post.all I) s ↔ I s := by
  cases o <;> rfl

/-- A weaker postcondition is satisfied too. -/
theorem Outcome.Sat.mono {σ ε α : Type} {Q Q' : Post σ ε α} {o : Outcome ε α} {s : σ}
    (h : o.Sat Q s) (hd : ∀ a s, Q.done a s → Q'.done a s)
    (hr : ∀ e s, Q.raised e s → Q'.raised e s) (hs : ∀ s, Q.suspended s → Q'.suspended s) :
    o.Sat Q' s := by
  cases o with
  | done a => exact hd a s h
  | raised e => exact hr e s h
  | suspended => exact hs s h

open Coro

variable {Call : Type} {Answer : Call → Type} {Event : Type}
variable {E σ ε α β ι : Type}

/-- Every run of `m` from `s` ends in `Q`. -/
def wp (env : E) (m : Coro E σ ε α) (Q : Post σ ε α) (s : σ) : Prop :=
  ∀ t b, (m env ⟨s, t, b⟩).1.Sat Q (m env ⟨s, t, b⟩).2.state

/-- `m` keeps the invariant `I`, whatever its outcome. -/
def Always (env : E) (I : σ → Prop) (m : Coro E σ ε α) : Prop :=
  ∀ s, I s → wp env m (Post.all I) s

section wp

variable {env : E} {Q Q' : Post σ ε α} {s : σ}

/-- What `wp` says about one run. -/
theorem wp.run {m : Coro E σ ε α} {r : Run σ} (h : wp env m Q r.state) :
    (m env r).1.Sat Q (m env r).2.state := h r.tick r.budget

/-- What `wp` says about a run that returned. -/
theorem wp.done {m : Coro E σ ε α} {r : Run σ} {a : α} (h : wp env m Q r.state)
    (ha : (m env r).1 = .done a) : Q.done a (m env r).2.state := by
  have hrun := h.run
  rw [ha] at hrun
  exact hrun

/-- What `wp` says about one run, whatever its outcome. -/
theorem wp.all {m : Coro E σ ε α} {I : σ → Prop} {r : Run σ} (h : wp env m (Post.all I) r.state) :
    I (m env r).2.state := (Outcome.sat_all I _ _).mp h.run

/-- Two postconditions together. -/
theorem wp.and {m : Coro E σ ε α} (hQ : wp env m Q s) (hQ' : wp env m Q' s) :
    wp env m ⟨fun a s => Q.done a s ∧ Q'.done a s, fun e s => Q.raised e s ∧ Q'.raised e s,
      fun s => Q.suspended s ∧ Q'.suspended s⟩ s := by
  intro t b
  have hq := hQ t b
  have hq' := hQ' t b
  rcases hr : m env ⟨s, t, b⟩ with ⟨_ | _ | _, r'⟩ <;> rw [hr] at hq hq' <;> exact ⟨hq, hq'⟩

/-- Consequence. -/
theorem wp.mono {m : Coro E σ ε α} (h : wp env m Q s) (hd : ∀ a s, Q.done a s → Q'.done a s)
    (hr : ∀ e s, Q.raised e s → Q'.raised e s) (hs : ∀ s, Q.suspended s → Q'.suspended s) :
    wp env m Q' s := fun t b => (h t b).mono hd hr hs

/-- Consequence, for what holds whatever the outcome. -/
theorem wp.all_mono {m : Coro E σ ε α} {I J : σ → Prop} (h : wp env m (Post.all I) s)
    (hIJ : ∀ s, I s → J s) : wp env m (Post.all J) s :=
  h.mono (fun _ s h => hIJ s h) (fun _ s h => hIJ s h) hIJ

@[simp] theorem wp_pure (a : α) : wp env (pure a) Q s ↔ Q.done a s :=
  ⟨fun h => h 0 0, fun h _ _ => h⟩

@[simp] theorem wp_raise (e : ε) : wp env (raise e) Q s ↔ Q.raised e s :=
  ⟨fun h => h 0 0, fun h _ _ => h⟩

@[simp] theorem wp_suspend : wp env suspend Q s ↔ Q.suspended s :=
  ⟨fun h => h 0 0, fun h _ _ => h⟩

/-- Sequencing. -/
theorem wp_bind {m : Coro E σ ε β} {f : β → Coro E σ ε α}
    (h : wp env m ⟨fun a => wp env (f a) Q, Q.raised, Q.suspended⟩ s) :
    wp env (m >>= f) Q s := by
  intro t b
  have hm := h t b
  rw [bind_run]
  rcases hr : m env ⟨s, t, b⟩ with ⟨_ | _ | _, r'⟩ <;> rw [hr] at hm
  · exact hm r'.tick r'.budget
  · exact hm
  · exact hm

/-- Sequencing, with an assertion between the two parts. -/
theorem wp.seq {m : Coro E σ ε β} {f : β → Coro E σ ε α} {P : β → σ → Prop}
    (h : wp env m ⟨P, Q.raised, Q.suspended⟩ s) (hf : ∀ a s, P a s → wp env (f a) Q s) :
    wp env (m >>= f) Q s :=
  wp_bind (h.mono hf (fun _ _ h => h) fun _ h => h)

@[simp] theorem wp_pure_bind (a : β) (f : β → Coro E σ ε α) :
    wp env (pure a >>= f) Q s ↔ wp env (f a) Q s := Iff.rfl

@[simp] theorem wp_raise_bind (e : ε) (f : β → Coro E σ ε α) :
    wp env (raise e >>= f) Q s ↔ Q.raised e s :=
  ⟨fun h => h 0 0, fun h _ _ => h⟩

@[simp] theorem wp_get_bind (f : σ → Coro E σ ε α) :
    wp env (get >>= f) Q s ↔ wp env (f s) Q s := Iff.rfl

@[simp] theorem wp_modify_bind (g : σ → σ) (f : Unit → Coro E σ ε α) :
    wp env (modify g >>= f) Q s ↔ wp env (f ()) Q (g s) := Iff.rfl

@[simp] theorem wp_modify (g : σ → σ) (Q : Post σ ε Unit) :
    wp env (modify g) Q s ↔ Q.done () (g s) :=
  ⟨fun h => h 0 0, fun h _ _ => h⟩

/-- An `Except` goes on with its value, or raises its exception. -/
theorem wp_ofExcept_bind {x : Except ε β} {f : β → Coro E σ ε α}
    (hok : ∀ a, x = .ok a → wp env (f a) Q s) (herror : ∀ e, x = .error e → Q.raised e s) :
    wp env (ofExcept x >>= f) Q s := by
  cases x with
  | ok a => exact (wp_pure_bind a f).mpr (hok a rfl)
  | error e => exact (wp_raise_bind e f).mpr (herror e rfl)

/-- The body of a `try`: an exception is a value. -/
theorem wp_attempt {m : Coro E σ ε α} {Q : Post σ ε (Except ε α)}
    (h : wp env m ⟨fun a => Q.done (.ok a), fun e => Q.done (.error e), Q.suspended⟩ s) :
    wp env m.attempt Q s := by
  intro t b
  have hm := h t b
  simp only [Coro.attempt]
  rcases hr : m env ⟨s, t, b⟩ with ⟨_ | _ | _, r'⟩ <;> rw [hr] at hm <;> exact hm

/-- A conditional. -/
theorem wp_ite {c : Prop} [Decidable c] {m m' : Coro E σ ε α} (ht : c → wp env m Q s)
    (hf : ¬c → wp env m' Q s) : wp env (if c then m else m') Q s := by
  split
  · exact ht ‹_›
  · exact hf ‹_›

end wp

section calls

variable {env : Env Call Answer Event} {Q : Post σ ε α} {s : σ}

/-- A synchronous call may be answered in any way. -/
theorem wp_query_bind {c : Call} {f : Answer c → Coro (Env Call Answer Event) σ ε α}
    (h : ∀ a, wp env (f a) Q s) : wp env (query c >>= f) Q s := by
  intro t b
  exact h (env.answer t c) (t + 1) b

/-- An assertion kept by the events of the environment is kept by a list of them. -/
theorem foldl_dispatch {I : σ → Prop} {dispatch : Event → σ → σ} {es : List Event}
    (hd : ∀ e ∈ es, ∀ s, I s → I (dispatch e s)) (hs : I s) :
    I (es.foldl (fun s e => dispatch e s) s) := by
  induction es generalizing s with
  | nil => exact hs
  | cons e es ih =>
      exact ih (fun e' he' => hd e' (List.mem_cons_of_mem _ he')) (hd e List.mem_cons_self s hs)

/-- An awaited call: an assertion that the delivered events keep holds in the await and after
it, and the call may be answered in any way. -/
theorem wp_await_bind {dispatch : Event → σ → σ} {c : Call}
    {f : Answer c → Coro (Env Call Answer Event) σ ε α} (I : σ → Prop)
    (hd : ∀ t, ∀ e ∈ env.events t, ∀ s, I s → I (dispatch e s)) (hs : I s)
    (hsus : ∀ s, I s → Q.suspended s) (hf : ∀ a s, I s → wp env (f a) Q s) :
    wp env (await dispatch c >>= f) Q s := by
  intro t b
  have hI : I ((env.events t).foldl (fun s e => dispatch e s) s) := foldl_dispatch (hd t) hs
  cases b with
  | zero => exact hsus _ hI
  | succ b => exact hf (env.answer t c) _ hI (t + 1) b

end calls

section always

variable {env : E} {I : σ → Prop}

/-- What an invariant says about one run. -/
theorem Always.run {m : Coro E σ ε α} (h : Always env I m) {r : Run σ} (hr : I r.state) :
    I (m env r).2.state := (h r.state hr).all

theorem Always.pure (a : α) : Always env I (Pure.pure a : Coro E σ ε α) := fun _ hs _ _ => hs

theorem Always.get : Always env I (Coro.get : Coro E σ ε σ) := fun _ hs _ _ => hs

theorem Always.raise (e : ε) : Always env I (Coro.raise e : Coro E σ ε α) := fun _ hs _ _ => hs

theorem Always.suspend : Always env I (Coro.suspend : Coro E σ ε α) := fun _ hs _ _ => hs

theorem Always.modify {g : σ → σ} (h : ∀ s, I s → I (g s)) :
    Always env I (Coro.modify g : Coro E σ ε Unit) := fun s hs _ _ => h s hs

theorem Always.bind {m : Coro E σ ε β} {f : β → Coro E σ ε α} (hm : Always env I m)
    (hf : ∀ a, Always env I (f a)) : Always env I (m >>= f) := fun s hs =>
  (hm s hs).seq hf

/-- A first part that keeps an invariant, in a sequence. -/
theorem Always.wp_bind {Q : Post σ ε α} {m : Coro E σ ε β} {f : β → Coro E σ ε α} {s : σ}
    (hm : Always env I m) (hs : I s) (hf : ∀ a s, I s → wp env (f a) Q s)
    (hr : ∀ e s, I s → Q.raised e s) (hw : ∀ s, I s → Q.suspended s) : wp env (m >>= f) Q s :=
  Await.wp_bind ((hm s hs).mono hf hr hw)

/-- The state read is the one the invariant holds of. -/
theorem Always.get_bind {f : σ → Coro E σ ε α}
    (hf : ∀ s, I s → wp env (f s) (Post.all I) s) : Always env I (Coro.get >>= f) :=
  fun s hs => hf s hs

/-- The state read may be used as one the invariant holds of. -/
theorem Always.read {f : σ → Coro E σ ε α} (hf : ∀ s, I s → Always env I (f s)) :
    Always env I (Coro.get >>= f) := fun s hs => hf s hs s hs

theorem Always.ite {c : Prop} [Decidable c] {m m' : Coro E σ ε α} (hm : Always env I m)
    (hm' : Always env I m') : Always env I (if c then m else m') := by
  split
  · exact hm
  · exact hm'

theorem Always.ofExcept (x : Except ε α) : Always env I (Coro.ofExcept x : Coro E σ ε α) := by
  cases x with
  | error e => exact Always.raise e
  | ok a => exact Always.pure a

/-- An `Except` goes on with its value only. -/
theorem Always.ofExcept_bind {x : Except ε β} {f : β → Coro E σ ε α}
    (h : ∀ a, x = .ok a → Always env I (f a)) : Always env I (Coro.ofExcept x >>= f) := by
  cases x with
  | error e => exact Always.raise e
  | ok a => exact h a rfl

theorem Always.attempt {m : Coro E σ ε α} (h : Always env I m) : Always env I m.attempt :=
  fun s hs => wp_attempt (h s hs)

/-- The invariant rule for loops. -/
theorem Always.loop {body : ι → Coro E σ ε (ι ⊕ α)} (h : ∀ i, Always env I (body i)) (i : ι) :
    Always env I (Coro.loop body i) := by
  have hN : ∀ n i, Always env I (loopN body n i) := by
    intro n
    induction n with
    | zero => exact fun _ => Always.suspend
    | succ n ih =>
        intro i
        refine Always.bind (h i) fun x => ?_
        cases x with
        | inl j => exact ih j
        | inr a => exact Always.pure a
  exact fun s hs t b => hN (b + 1) i s hs t b

end always

section calls

variable {env : Env Call Answer Event} {I : σ → Prop}

theorem Always.query (c : Call) :
    Always env I (Coro.query c : Coro (Env Call Answer Event) σ ε (Answer c)) :=
  fun _ hs _ _ => hs

theorem Always.await {dispatch : Event → σ → σ} (c : Call)
    (hd : ∀ t, ∀ e ∈ env.events t, ∀ s, I s → I (dispatch e s)) :
    Always env I (Coro.await dispatch c : Coro (Env Call Answer Event) σ ε (Answer c)) := by
  intro s hs t b
  have hI : I ((env.events t).foldl (fun s e => dispatch e s) s) := foldl_dispatch (hd t) hs
  cases b <;> exact hI

end calls

/-- The loop rule for an assertion indexed by the loop state. -/
theorem wp_loop {env : E} {body : ι → Coro E σ ε (ι ⊕ α)} {Q : Post σ ε α} (I : ι → σ → Prop)
    (hI : ∀ i s, I i s → Q.suspended s)
    (h : ∀ i s, I i s → wp env (body i) ⟨fun
      | .inl j => I j
      | .inr a => Q.done a, Q.raised, Q.suspended⟩ s) {i : ι} {s : σ} (hs : I i s) :
    wp env (loop body i) Q s := by
  have hN : ∀ n i s, I i s → wp env (loopN body n i) Q s := by
    intro n
    induction n with
    | zero => exact fun i s hs => wp_suspend.mpr (hI i s hs)
    | succ n ih =>
        intro i s hs
        refine (h i s hs).seq ?_
        intro x s' hx
        rcases x with j | a
        · exact ih j s' hx
        · exact wp_pure a |>.mpr hx
  exact fun t b => hN (b + 1) i s hs t b

/-! ## Blocking -/

/-- The environment that delivers nothing at the `n`-th call. -/
def Env.quietAt (env : Env Call Answer Event) (n : ℕ) : Env Call Answer Event :=
  { env with events := fun k => if k = n then [] else env.events k }

/-- A run of `m` from the state `s` at tick `t` is about to block in an await, in the state `s'`:
what it is suspended with there, if nothing is delivered. -/
def Blocks (env : Env Call Answer Event) (m : Coro (Env Call Answer Event) σ ε α) (s : σ) (t : ℕ)
    (s' : σ) : Prop :=
  ∃ n b, m (env.quietAt n) ⟨s, t, b⟩ = (.suspended, ⟨s', n + 1, 0⟩)

@[simp] theorem Env.quietAt_events_self (env : Env Call Answer Event) (n : ℕ) :
    (env.quietAt n).events n = [] := if_pos rfl

end Await
