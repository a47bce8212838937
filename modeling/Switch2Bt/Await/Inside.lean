import Switch2Bt.Await.Protocol

/-!
# A computation inside a program

A program may contain a computation with a state, an environment and exceptions of its own
(`Coro.inside`): it starts at the current moment, in the part of the environment that is left, and
its exception becomes a value. In a program that keeps a trace, what the computation leaves is noted
(`Prog.inside`); the rule `Obeys.inside` asks for what is known of all its runs, whatever their
environment.
-/

namespace Await

variable {E E' σ τ ε ε' α : Type}

/-- Run `m` from `start` at the current moment; `env'` says what it sees of the environment from a
moment on, and `put` what becomes of its state. -/
def Coro.inside (env' : ℕ → E → E') (start : τ) (put : τ → σ → σ) (m : Coro E' τ ε' α) :
    Coro E σ ε (Except ε' α) := fun env r =>
  match m (env' r.tick env) ⟨start, 0, r.budget⟩ with
  | (.done a, r') => (.done (.ok a), ⟨put r'.state r.state, r.tick + r'.tick, r'.budget⟩)
  | (.raised e, r') => (.done (.error e), ⟨put r'.state r.state, r.tick + r'.tick, r'.budget⟩)
  | (.suspended, r') => (.suspended, ⟨put r'.state r.state, r.tick + r'.tick, r'.budget⟩)

/-- What all runs of the computation leave. -/
theorem wp_inside {env : E} {env' : ℕ → E → E'} {start : τ} {put : τ → σ → σ} {m : Coro E' τ ε' α}
    {Q : Post σ ε (Except ε' α)} {s : σ} {J : τ → Prop}
    (hrun : ∀ n b, J (m (env' n env) ⟨start, 0, b⟩).2.state)
    (hdone : ∀ x t, J t → Q.done x (put t s)) (hsus : ∀ t, J t → Q.suspended (put t s)) :
    wp env (Coro.inside env' start put m) Q s := by
  intro t b
  have hJ := hrun t b
  unfold Coro.inside
  rcases hx : m (env' t env) ⟨start, 0, b⟩ with ⟨a | e | _, r'⟩
  · rw [hx] at hJ
    simp only
    exact hdone (.ok a) _ hJ
  · rw [hx] at hJ
    simp only
    exact hdone (.error e) _ hJ
  · rw [hx] at hJ
    simp only
    exact hsus _ hJ

section programs

variable {Call : Type} {Answer : Call → Type} {Event Note M : Type}
variable {env : Env Call Answer Event} {p : Protocol (Mark Call Answer Event Note) M}
variable {Q : σ → M → Prop}

/-- The trace with what the program notes. -/
def Traced.noteAll (ns : List Note) (w : Traced σ Call Answer Event Note) :
    Traced σ Call Answer Event Note := { w with trace := w.trace ++ ns.map .note }

/-- What a computation leaves is noted. -/
def Prog.inside (env' : ℕ → Env Call Answer Event → E') (start : τ) (notes : τ → List Note)
    (m : Coro E' τ ε' α) : Prog σ Call Answer Event Note (Except ε' α) :=
  Coro.inside env' start (fun t => Traced.noteAll (notes t)) m

/-- Notes that are allowed one after the other. -/
theorem At.noteAll {w : Traced σ Call Answer Event Note} {ns : List Note} {I : List Note → M → Prop}
    (h : At p Q w) (hinit : ∀ r, Q w.vars r → I [] r)
    (hstep : ∀ pre n r, (pre ++ [n]) <+: ns → I pre r →
      p.Allows r (.note n) ∧ I (pre ++ [n]) (p.next r (.note n))) :
    At p (fun s r => s = w.vars ∧ I ns r) (w.noteAll ns) := by
  have hall : ∀ pre, pre <+: ns → p.Follows (w.trace ++ pre.map .note) ∧
      I pre (p.after (w.trace ++ pre.map .note)) := by
    intro pre
    induction pre using List.reverseRecOn with
    | nil =>
        intro _
        rw [List.map_nil, List.append_nil]
        exact ⟨h.1, hinit _ h.2⟩
    | append_singleton pre n ih =>
        intro hpre
        obtain ⟨hfollows, hI⟩ := ih ((List.prefix_append pre [n]).trans hpre)
        obtain ⟨hallowed, hnext⟩ := hstep pre n _ hpre hI
        rw [List.map_append, ← List.append_assoc]
        refine ⟨Protocol.follows_snoc.mpr ⟨hfollows, hallowed⟩, ?_⟩
        exact Protocol.after_snoc ▸ hnext
  exact ⟨(hall ns (List.prefix_refl ns)).1, rfl, (hall ns (List.prefix_refl ns)).2⟩

/-- A computation inside a program: `J` holds of what it leaves in every run, and notes with `J` are
allowed. -/
theorem Obeys.inside {env' : ℕ → Env Call Answer Event → E'} {start : τ} {notes : τ → List Note}
    {m : Coro E' τ ε' α} {R : Except ε' α → σ → M → Prop} {J : List Note → Prop}
    {I : List Note → M → Prop} (hrun : ∀ n b, J (notes (m (env' n env) ⟨start, 0, b⟩).2.state))
    (hinit : ∀ s r, Q s r → I [] r)
    (hstep : ∀ ns pre n r, J ns → (pre ++ [n]) <+: ns → I pre r →
      p.Allows r (.note n) ∧ I (pre ++ [n]) (p.next r (.note n)))
    (hend : ∀ a s r r' ns, J ns → Q s r' → I ns r → R a s r) :
    Obeys env p Q (Prog.inside env' start notes m) R := by
  intro w hw
  have hall : ∀ t, J (notes t) → At p (fun s r => s = w.vars ∧ I (notes t) r)
      (w.noteAll (notes t)) := fun t ht =>
    hw.noteAll (fun r hr => hinit _ r hr) fun pre n r => hstep _ pre n r ht
  apply wp_inside (J := fun t => J (notes t)) hrun
  · intro x t ht
    refine (hall t ht).mono ?_
    rintro s r ⟨rfl, hr⟩
    exact hend x _ r _ _ ht hw.2 hr
  · exact fun t ht => (hall t ht).1

end programs

end Await
