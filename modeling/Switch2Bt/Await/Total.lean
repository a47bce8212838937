import Switch2Bt.Await.Logic

/-!
# Total correctness with a bound on the awaits

`wp` says nothing about runs that are suspended for ever. `twp env m n Q s` adds that a run of `m`
from `s` returns if its budget is at least `n`, and spends at most `n` of it. `eventually` is for
what follows: the runs of budget at least `n` end in `Q`.

A loop whose body has a `twp` is unrolled by `Coro.loop_eq`; the bounds add up.
-/

namespace Await

open Coro

variable {Call : Type} {Answer : Call → Type} {Event : Type}
variable {E σ ε α β : Type}

/-- Every run of `m` from `s` ends in `Q`, and a run of budget at least `n` returns, having spent
at most `n`. -/
def twp (env : E) (m : Coro E σ ε α) (n : ℕ) (Q : Post σ ε α) (s : σ) : Prop :=
  wp env m Q s ∧
    ∀ t b, n ≤ b → ∃ a r, m env ⟨s, t, b⟩ = (.done a, r) ∧ b ≤ r.budget + n

/-- The runs of `m` from `s` with a budget of at least `n` end in `Q`. -/
def eventually (env : E) (m : Coro E σ ε α) (n : ℕ) (Q : Post σ ε α) (s : σ) : Prop :=
  ∀ t b, n ≤ b → (m env ⟨s, t, b⟩).1.Sat Q (m env ⟨s, t, b⟩).2.state

section

variable {env : E} {Q Q' : Post σ ε α} {s : σ} {n n' : ℕ}

theorem twp.wp {m : Coro E σ ε α} (h : twp env m n Q s) : Await.wp env m Q s := h.1

/-- Consequence. -/
theorem twp.mono {m : Coro E σ ε α} (h : twp env m n Q s) (hn : n ≤ n')
    (hd : ∀ a s, Q.done a s → Q'.done a s) (hr : ∀ e s, Q.raised e s → Q'.raised e s)
    (hs : ∀ s, Q.suspended s → Q'.suspended s) : twp env m n' Q' s := by
  refine ⟨h.1.mono hd hr hs, fun t b hb => ?_⟩
  obtain ⟨a, r, hrun, hspent⟩ := h.2 t b (Nat.le_trans hn hb)
  exact ⟨a, r, hrun, by omega⟩

theorem twp_pure {a : α} (h : Q.done a s) : twp env (pure a) n Q s :=
  ⟨(wp_pure a).mpr h, fun t b _ => ⟨a, ⟨s, t, b⟩, rfl, Nat.le_add_right b n⟩⟩

/-- Sequencing adds the bounds. -/
theorem twp_bind {m : Coro E σ ε β} {f : β → Coro E σ ε α}
    (h : twp env m n ⟨fun a => twp env (f a) n' Q, Q.raised, Q.suspended⟩ s) :
    twp env (m >>= f) (n + n') Q s := by
  refine ⟨h.1.seq fun _ _ h => h.1, ?_⟩
  intro t b hb
  obtain ⟨a, r, hrun, hspent⟩ := h.2 t b (by omega)
  have hpost := h.1 t b
  rw [hrun] at hpost
  obtain ⟨a', r', hrun', hspent'⟩ := hpost.2 r.tick r.budget (by omega)
  exact ⟨a', r', (bind_run_done hrun).trans hrun', by omega⟩

theorem twp_get_bind {f : σ → Coro E σ ε α} (h : twp env (f s) n Q s) :
    twp env (get >>= f) n Q s := h

theorem twp_modify_bind {g : σ → σ} {f : Unit → Coro E σ ε α} (h : twp env (f ()) n Q (g s)) :
    twp env (modify g >>= f) n Q s := h

/-- What follows a computation that returns. -/
theorem eventually_bind {m : Coro E σ ε β} {f : β → Coro E σ ε α} {R : Post σ ε β}
    (h : twp env m n R s) (hf : ∀ a s, R.done a s → eventually env (f a) n' Q s) :
    eventually env (m >>= f) (n + n') Q s := by
  intro t b hb
  obtain ⟨a, r, hrun, hspent⟩ := h.2 t b (by omega)
  have hpost := h.1 t b
  rw [hrun] at hpost
  rw [bind_run_done hrun]
  exact hf a r.state hpost r.tick r.budget (by omega)

end

/-- An awaited call costs one await. -/
theorem twp_await_bind {env : Env Call Answer Event} {Q : Post σ ε α} {s : σ} {n : ℕ}
    {dispatch : Event → σ → σ} {c : Call}
    {f : Answer c → Coro (Env Call Answer Event) σ ε α} (I : σ → Prop)
    (hd : ∀ t, ∀ e ∈ env.events t, ∀ s, I s → I (dispatch e s)) (hs : I s)
    (hsus : ∀ s, I s → Q.suspended s) (hf : ∀ a s, I s → twp env (f a) n Q s) :
    twp env (await dispatch c >>= f) (n + 1) Q s := by
  refine ⟨wp_await_bind I hd hs hsus fun a s h => (hf a s h).1, fun t b hb => ?_⟩
  obtain ⟨b, rfl⟩ : ∃ k, b = k + 1 := ⟨b - 1, by omega⟩
  have hI := foldl_dispatch (hd t) hs
  obtain ⟨a, r, hrun, hspent⟩ := (hf (env.answer t c) _ hI).2 (t + 1) b (by omega)
  exact ⟨a, r, (bind_run_done (await_run_succ dispatch c env s t b)).trans hrun, by omega⟩

end Await
