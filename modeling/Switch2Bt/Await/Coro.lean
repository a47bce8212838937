import Mathlib.Data.List.Basic
import Mathlib.Data.Nat.Notation

/-!
# Computations that await an environment

A cooperative program runs undisturbed between two awaits. At an await the environment first
delivers a list of events (callbacks run to completion, one after the other), then answers the
awaited call. `Coro` is the shallow embedding of such programs:

* `Env` is the environment: what it answers to the `n`-th call and which events it delivers
  there. A call has its own answer type.
* `Run` is the state of a run together with the number of calls made so far (`tick`) and the
  number of awaits the run still completes (`budget`).
* `Outcome` says how the computation stands at the end of the run: it returned, it raised, or it
  is still `suspended` in an await. A run of budget `b` is the prefix of the execution up to the
  `b + 1`-st await, so a property of all budgets is a property of every moment at which
  callbacks may run.
* `Coro.loop` is a `while` loop. It needs no fuel of its own: a body that awaits at least once in
  each iteration that continues (`Coro.Consumes`) is exhausted by the budget
  (`Coro.loop_eq`).
-/

namespace Await

/-- How a computation stands at the end of a run. -/
inductive Outcome (ε α : Type) where
  /-- It returned a value. -/
  | done (a : α)
  /-- It raised an exception. -/
  | raised (e : ε)
  /-- It is blocked in an await. -/
  | suspended
deriving DecidableEq, Repr

/-- The environment of a computation, indexed by the number of calls made so far. -/
structure Env (Call : Type) (Answer : Call → Type) (Event : Type) where
  /-- The answer to the `n`-th call. -/
  answer : ℕ → (c : Call) → Answer c
  /-- The events delivered, in order, while the `n`-th call is awaited. -/
  events : ℕ → List Event

/-- The state of a run. -/
structure Run (σ : Type) where
  /-- The program state. -/
  state : σ
  /-- The number of calls made so far. -/
  tick : ℕ
  /-- The number of awaits that still complete. -/
  budget : ℕ

/-- A computation over the state `σ` in an environment of type `E`, raising `ε`. -/
def Coro (E σ ε α : Type) := E → Run σ → Outcome ε α × Run σ

namespace Coro

variable {Call : Type} {Answer : Call → Type} {Event : Type}
variable {E σ ε α β ι : Type}

/-- Return a value. -/
protected def pure (a : α) : Coro E σ ε α := fun _ r => (.done a, r)

/-- Run `m`, then `f` on its value; an exception or a suspension ends the sequence. -/
protected def bind (m : Coro E σ ε α) (f : α → Coro E σ ε β) : Coro E σ ε β := fun env r =>
  match m env r with
  | (.done a, r') => f a env r'
  | (.raised e, r') => (.raised e, r')
  | (.suspended, r') => (.suspended, r')

instance : Monad (Coro E σ ε) where
  pure := Coro.pure
  bind := Coro.bind

/-- Read the state. -/
def get : Coro E σ ε σ := fun _ r => (.done r.state, r)

/-- Update the state. -/
def modify (f : σ → σ) : Coro E σ ε Unit := fun _ r => (.done (), { r with state := f r.state })

/-- Raise an exception. -/
def raise (e : ε) : Coro E σ ε α := fun _ r => (.raised e, r)

/-- Block for ever. -/
def suspend : Coro E σ ε α := fun _ r => (.suspended, r)

/-- A synchronous call: the environment answers at once and delivers nothing. -/
def query (c : Call) : Coro (Env Call Answer Event) σ ε (Answer c) := fun env r =>
  (.done (env.answer r.tick c), { r with tick := r.tick + 1 })

/-- An awaited call: the environment delivers its events, then answers if the run goes on. -/
def await (dispatch : Event → σ → σ) (c : Call) : Coro (Env Call Answer Event) σ ε (Answer c) :=
  fun env r =>
    let s := (env.events r.tick).foldl (fun s e => dispatch e s) r.state
    match r.budget with
    | 0 => (.suspended, ⟨s, r.tick + 1, 0⟩)
    | b + 1 => (.done (env.answer r.tick c), ⟨s, r.tick + 1, b⟩)

/-- Turn an exception into a value (the body of a `try`). -/
def attempt (m : Coro E σ ε α) : Coro E σ ε (Except ε α) := fun env r =>
  match m env r with
  | (.done a, r') => (.done (.ok a), r')
  | (.raised e, r') => (.done (.error e), r')
  | (.suspended, r') => (.suspended, r')

/-- Return the value of an `Except`, or raise its exception. -/
def ofExcept : Except ε α → Coro E σ ε α
  | .ok a => Coro.pure a
  | .error e => raise e

/-- At most `n` iterations of `body`, which either continues (`inl`) or leaves (`inr`). -/
def loopN (body : ι → Coro E σ ε (ι ⊕ α)) : ℕ → ι → Coro E σ ε α
  | 0, _ => suspend
  | n + 1, i => Coro.bind (body i) fun
    | .inl j => loopN body n j
    | .inr a => Coro.pure a

/-- Iterate `body` until it leaves. -/
def loop (body : ι → Coro E σ ε (ι ⊕ α)) (i : ι) : Coro E σ ε α := fun env r =>
  loopN body (r.budget + 1) i env r

/-! ## Running the primitives -/

theorem bind_run (m : Coro E σ ε α) (f : α → Coro E σ ε β) (env : E) (r : Run σ) :
    (m >>= f) env r = match m env r with
      | (.done a, r') => f a env r'
      | (.raised e, r') => (.raised e, r')
      | (.suspended, r') => (.suspended, r') := rfl

instance : LawfulMonad (Coro E σ ε) := LawfulMonad.mk' _
  (fun m => by
    funext env r
    change Coro.bind m (fun a => Coro.pure a) env r = m env r
    unfold Coro.bind
    rcases m env r with ⟨_ | _ | _, _⟩ <;> rfl)
  (fun _ _ => rfl)
  (fun m f g => by
    funext env r
    change Coro.bind (Coro.bind m f) g env r = Coro.bind m (fun a => Coro.bind (f a) g) env r
    unfold Coro.bind
    rcases m env r with ⟨_ | _ | _, _⟩ <;> rfl)

/-- A sequence whose first part returns goes on with its value. -/
theorem bind_run_done {m : Coro E σ ε α} {f : α → Coro E σ ε β} {env : E} {r r' : Run σ} {a : α}
    (h : m env r = (.done a, r')) : (m >>= f) env r = f a env r' := by
  simp only [bind_run, h]

/-- A sequence returns only if its first part does. -/
theorem bind_run_eq_done {m : Coro E σ ε α} {f : α → Coro E σ ε β} {env : E} {r r' : Run σ} {b : β}
    (h : (m >>= f) env r = (.done b, r')) :
    ∃ a r₁, m env r = (.done a, r₁) ∧ f a env r₁ = (.done b, r') := by
  rw [bind_run] at h
  rcases hm : m env r with ⟨a | e | _, r₁⟩ <;> rw [hm] at h
  · exact ⟨a, r₁, rfl, h⟩
  · cases h
  · cases h

@[simp] theorem get_run (env : E) (r : Run σ) : (get : Coro E σ ε σ) env r = (.done r.state, r) :=
  rfl

@[simp] theorem modify_run (f : σ → σ) (env : E) (r : Run σ) :
    (modify f : Coro E σ ε Unit) env r = (.done (), { r with state := f r.state }) := rfl

/-- An await in a run that still completes one: the events are delivered and the call answered. -/
theorem await_run_succ (dispatch : Event → σ → σ) (c : Call) (env : Env Call Answer Event)
    (s : σ) (t b : ℕ) :
    (await dispatch c : Coro (Env Call Answer Event) σ ε (Answer c)) env ⟨s, t, b + 1⟩ =
      (.done (env.answer t c), ⟨(env.events t).foldl (fun s e => dispatch e s) s, t + 1, b⟩) := rfl

/-! ## Loops -/

/-- An iteration that continues has completed at least one await. -/
def Consumes (m : Coro E σ ε (ι ⊕ α)) : Prop :=
  ∀ env r j r', m env r = (.done (.inl j), r') → r'.budget < r.budget

/-- With more fuel than budget, the fuel of a consuming loop does not matter. -/
theorem loopN_fuel_irrel {body : ι → Coro E σ ε (ι ⊕ α)} (h : ∀ i, Consumes (body i)) (env : E) :
    ∀ (n m : ℕ) (i : ι) (r : Run σ), r.budget < n → r.budget < m →
      loopN body n i env r = loopN body m i env r := by
  intro n
  induction n with
  | zero => intro m i r hn; omega
  | succ n ih =>
      intro m i r hn hm
      obtain ⟨m, rfl⟩ : ∃ k, m = k + 1 := ⟨m - 1, by omega⟩
      simp only [loopN, Coro.bind]
      rcases hb : body i env r with ⟨_ | _ | _, r'⟩
      · rename_i x
        rcases x with j | a
        · have hlt := h i env r j r' hb
          exact ih m j r' (by omega) (by omega)
        · rfl
      · rfl
      · rfl

/-- **The while equation**: a consuming loop is its body followed by the loop. -/
theorem loop_eq {body : ι → Coro E σ ε (ι ⊕ α)} (h : ∀ i, Consumes (body i)) (i : ι) :
    loop body i = body i >>= fun
      | .inl j => loop body j
      | .inr a => pure a := by
  funext env r
  simp only [loop, loopN, bind_run, Coro.bind]
  rcases hb : body i env r with ⟨_ | _ | _, r'⟩
  · rename_i x
    rcases x with j | a
    · have hlt := h i env r j r' hb
      exact loopN_fuel_irrel h env _ _ j r' (by omega) (by omega)
    · rfl
  · rfl
  · rfl

/-- A loop whose body hands out `g` of what another body hands out. -/
theorem loop_map {body : ι → Coro E σ ε (ι ⊕ α)} {body' : ι → Coro E σ ε (ι ⊕ β)} {g : α → β}
    (h : ∀ i, body' i = body i >>= fun x => pure (x.map id g)) (i : ι) :
    loop body' i = loop body i >>= fun a => pure (g a) := by
  have hfuel : ∀ n i, loopN body' n i = loopN body n i >>= fun a => pure (g a) := by
    intro n
    induction n with
    | zero => exact fun _ => rfl
    | succ n ih =>
        intro i
        funext env r
        simp only [loopN, h, bind_run, Coro.bind]
        rcases hb : body i env r with ⟨x | e | _, r'⟩
        · rcases x with j | a
          · exact congrFun (congrFun (ih j) env) r'
          · rfl
        · rfl
        · rfl
  funext env r
  exact congrFun (congrFun (hfuel (r.budget + 1) i) env) r

end Coro

end Await
