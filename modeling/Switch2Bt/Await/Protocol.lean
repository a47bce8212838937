import Switch2Bt.Await.Logic
import Switch2Bt.Await.Trace

/-!
# Programs that follow a protocol

A program calls its environment; events may be delivered while it waits. `Traced` is its variables
and the trace of what happened: the calls that returned, with their answers, the events, and what
the program itself notes. A `Protocol` reads such a trace: it remembers something of it, and says
which observations it allows next.

`Obeys env p Q m R` is a triple over both: from a state where the trace follows the protocol and
`Q` relates the variables to what the protocol remembers, every run of `m` follows it, and `R` holds
when the run returns. The rules go along the program text; a call has to be allowed with every
answer. What the traces that follow a protocol have in common is then proved of the protocol alone
(`Protocol.Follows.invariant`, `Protocol.Follows.everywhere`).
-/

namespace Await

/-- What happens in a run. -/
inductive Mark (Call : Type) (Answer : Call → Type) (Event Note : Type) where
  /-- A call returned. -/
  | call (c : Call) (a : Answer c)
  | event (e : Event)
  /-- The program notes something. -/
  | note (n : Note)

/-- The variables of a program, and what happened so far. -/
structure Traced (σ Call : Type) (Answer : Call → Type) (Event Note : Type) where
  vars : σ
  trace : List (Mark Call Answer Event Note)

/-- A program over the variables `σ`. -/
abbrev Prog (σ Call : Type) (Answer : Call → Type) (Event Note α : Type) :=
  Coro (Env Call Answer Event) (Traced σ Call Answer Event Note) Empty α

/-- What is remembered of a trace, and what is allowed next. -/
structure Protocol (O M : Type) where
  init : M
  next : M → O → M
  Allows : M → O → Prop

namespace Protocol

variable {O M : Type} {p : Protocol O M} {tr : List O} {o : O}

/-- What is remembered of a trace. -/
def after (p : Protocol O M) (tr : List O) : M := tr.foldl p.next p.init

@[simp] theorem after_snoc : p.after (tr ++ [o]) = p.next (p.after tr) o := by
  simp [after]

/-- Every observation of the trace is allowed. -/
def Follows (p : Protocol O M) (tr : List O) : Prop :=
  Everywhere (fun pre o => p.Allows (p.after pre) o) tr

theorem follows_nil : p.Follows [] := everywhere_nil

theorem follows_snoc : p.Follows (tr ++ [o]) ↔ p.Follows tr ∧ p.Allows (p.after tr) o :=
  everywhere_snoc

/-- The invariant rule, from some moment on: what is remembered, and what was observed since. -/
theorem Follows.since {I : List O → M → Prop} {C : O → Prop} {pre post : List O}
    (hf : p.Follows (pre ++ post)) (hC : ∀ o ∈ post, C o) (hinit : I [] (p.after pre))
    (hstep : ∀ post m o, I post m → C o → p.Allows m o → I (post ++ [o]) (p.next m o)) :
    I post (p.after (pre ++ post)) := by
  induction post using List.reverseRecOn with
  | nil =>
      rw [List.append_nil]
      exact hinit
  | append_singleton post o ih =>
      rw [← List.append_assoc] at hf ⊢
      obtain ⟨hf, ho⟩ := follows_snoc.mp hf
      rw [after_snoc]
      exact hstep post _ o (ih hf fun x hx => hC x (List.mem_append_left _ hx))
        (hC o (List.mem_append_right _ List.mem_cons_self)) ho

/-- The invariant rule, from the start. -/
theorem Follows.invariant {I : List O → M → Prop} (hf : p.Follows tr) (hinit : I [] p.init)
    (hstep : ∀ tr m o, I tr m → p.Allows m o → I (tr ++ [o]) (p.next m o)) : I tr (p.after tr) :=
  have hf : p.Follows ([] ++ tr) := hf
  hf.since (C := fun _ => True) (fun _ _ => trivial) hinit fun tr m o h _ => hstep tr m o h

/-- What is allowed only where `P` holds is observed only where `P` holds. -/
theorem Follows.everywhere {P : List O → O → Prop} (hf : p.Follows tr)
    (h : ∀ pre o, p.Follows pre → p.Allows (p.after pre) o → P pre o) : Everywhere P tr := by
  rintro pre o post rfl
  exact h pre o (Everywhere.of_append hf) (hf pre o post rfl)

end Protocol

section programs

variable {σ Call : Type} {Answer : Call → Type} {Event Note α β ι M : Type}

/-! ## Primitives -/

/-- One more thing that happened. -/
def Traced.push (o : Mark Call Answer Event Note) (w : Traced σ Call Answer Event Note) :
    Traced σ Call Answer Event Note := { w with trace := w.trace ++ [o] }

/-- An event is delivered: `handler` runs. -/
def Traced.deliver (handler : Event → σ → σ) (e : Event) (w : Traced σ Call Answer Event Note) :
    Traced σ Call Answer Event Note := ⟨handler e w.vars, w.trace ++ [.event e]⟩

namespace Prog

/-- A call; events may be delivered before it returns. -/
def call (handler : Event → σ → σ) (c : Call) : Prog σ Call Answer Event Note (Answer c) := do
  let a ← Coro.await (Traced.deliver handler) c
  Coro.modify (Traced.push (.call c a))
  pure a

/-- Something the program notes. -/
def note (n : Note) : Prog σ Call Answer Event Note Unit := Coro.modify (Traced.push (.note n))

/-- Read the variables. -/
def vars : Prog σ Call Answer Event Note σ := do
  let w ← Coro.get
  pure w.vars

/-- Assign variables. -/
def assign (f : σ → σ) : Prog σ Call Answer Event Note Unit :=
  Coro.modify fun w => { w with vars := f w.vars }

/-- The run from the given variables with the given budget. -/
def exec (m : Prog σ Call Answer Event Note α) (s : σ) (env : Env Call Answer Event)
    (budget : ℕ) : Outcome Empty α × Traced σ Call Answer Event Note :=
  let x := m env ⟨⟨s, []⟩, 0, budget⟩
  (x.1, x.2.state)

end Prog

/-! ## Triples -/

variable {env : Env Call Answer Event} {p : Protocol (Mark Call Answer Event Note) M}
variable {Q Q' : σ → M → Prop} {R R' : α → σ → M → Prop}

/-- The trace follows the protocol, and `Q` relates the variables to what is remembered. -/
def At (p : Protocol (Mark Call Answer Event Note) M) (Q : σ → M → Prop)
    (w : Traced σ Call Answer Event Note) : Prop :=
  p.Follows w.trace ∧ Q w.vars (p.after w.trace)

theorem At.mono {w : Traced σ Call Answer Event Note} (h : At p Q w)
    (hQ : ∀ s m, Q s m → Q' s m) : At p Q' w := ⟨h.1, hQ _ _ h.2⟩

/-- One more observation that is allowed. -/
theorem At.push {w : Traced σ Call Answer Event Note} {o : Mark Call Answer Event Note}
    (h : At p Q w) (ho : ∀ s m, Q s m → p.Allows m o ∧ Q' s (p.next m o)) : At p Q' (w.push o) := by
  obtain ⟨hallowed, hq⟩ := ho _ _ h.2
  refine ⟨Protocol.follows_snoc.mpr ⟨h.1, hallowed⟩, ?_⟩
  rw [Traced.push, Protocol.after_snoc]
  exact hq

/-- An assertion that every event keeps. -/
def Stable (handler : Event → σ → σ) (p : Protocol (Mark Call Answer Event Note) M)
    (Q : σ → M → Prop) : Prop :=
  ∀ e s m, Q s m → p.Allows m (.event e) ∧ Q (handler e s) (p.next m (.event e))

/-- From `Q`, every run of `m` follows the protocol, and `R` holds if it returns. -/
def Obeys (env : Env Call Answer Event) (p : Protocol (Mark Call Answer Event Note) M)
    (Q : σ → M → Prop) (m : Prog σ Call Answer Event Note α) (R : α → σ → M → Prop) : Prop :=
  ∀ w, At p Q w → wp env m ⟨fun a => At p (R a), fun _ _ => False, fun w => p.Follows w.trace⟩ w

namespace Obeys

variable {m : Prog σ Call Answer Event Note α}

/-- Consequence. -/
theorem conseq (h : Obeys env p Q' m R') (hQ : ∀ s m, Q s m → Q' s m)
    (hR : ∀ a s m, R' a s m → R a s m) : Obeys env p Q m R := fun w hw =>
  (h w (hw.mono hQ)).mono (fun a _ h => h.mono (hR a)) (fun _ _ h => h) fun _ h => h

theorem pre (h : Obeys env p Q' m R) (hQ : ∀ s m, Q s m → Q' s m) : Obeys env p Q m R :=
  h.conseq hQ fun _ _ _ h => h

theorem post (h : Obeys env p Q m R') (hR : ∀ a s m, R' a s m → R a s m) : Obeys env p Q m R :=
  h.conseq (fun _ _ h => h) hR

theorem pure {a : α} (h : ∀ s m, Q s m → R a s m) : Obeys env p Q (Pure.pure a) R :=
  fun _ hw => (wp_pure a).mpr (hw.mono h)

theorem bind {m : Prog σ Call Answer Event Note β} {f : β → Prog σ Call Answer Event Note α}
    {S : β → σ → M → Prop} (hm : Obeys env p Q m S) (hf : ∀ b, Obeys env p (S b) (f b) R) :
    Obeys env p Q (m >>= f) R := fun w hw =>
  wp.seq (P := fun b => At p (S b)) ((hm w hw).mono (fun _ _ h => h) (fun _ _ h => h.elim)
    fun _ h => h) fun b w h => hf b w h

/-- What the assertion says besides may be assumed. -/
theorem assume {P : Prop} (hP : ∀ s m, Q s m → P) (h : P → Obeys env p Q m R) :
    Obeys env p Q m R := fun w hw => h (hP _ _ hw.2) w hw

/-- What is remembered may be given a name. -/
theorem intro (h : ∀ r, (∃ s, Q s r) → Obeys env p (fun s m => m = r ∧ Q s m) m R) :
    Obeys env p Q m R := fun w hw => h _ ⟨_, hw.2⟩ w ⟨hw.1, rfl, hw.2⟩

theorem ite {c : Prop} [Decidable c] {m' : Prog σ Call Answer Event Note α}
    (hm : c → Obeys env p Q m R) (hm' : ¬c → Obeys env p Q m' R) :
    Obeys env p Q (if c then m else m') R := by
  by_cases h : c
  · rw [if_pos h]
    exact hm h
  · rw [if_neg h]
    exact hm' h

/-- Reading the variables. -/
theorem vars_bind {f : σ → Prog σ Call Answer Event Note α}
    (h : ∀ s, Obeys env p (fun s' m => s' = s ∧ Q s m) (f s) R) :
    Obeys env p Q (Prog.vars >>= f) R := fun w hw => h w.vars w ⟨hw.1, rfl, hw.2⟩

theorem assign {f : σ → σ} {R : Unit → σ → M → Prop} (h : ∀ s m, Q s m → R () (f s) m) :
    Obeys env p Q (Prog.assign f) R := fun _ hw => (wp_modify _ _).mpr ⟨hw.1, h _ _ hw.2⟩

theorem note {n : Note} {R : Unit → σ → M → Prop}
    (h : ∀ s m, Q s m → p.Allows m (.note n) ∧ R () s (p.next m (.note n))) :
    Obeys env p Q (Prog.note n) R := fun _ hw => (wp_modify _ _).mpr (hw.push h)

/-- A call is allowed with every answer; the events that come first keep the assertion. -/
theorem call {handler : Event → σ → σ} {c : Call} {R : Answer c → σ → M → Prop}
    (hQ : Stable handler p Q)
    (h : ∀ a s m, Q s m → p.Allows m (.call c a) ∧ R a s (p.next m (.call c a))) :
    Obeys env p Q (Prog.call handler c) R := fun w hw => by
  refine wp_await_bind (At p Q) (fun _ e _ w hw => ?_) hw (fun _ hw => hw.1) fun a w hw => ?_
  · obtain ⟨hallowed, hq⟩ := hQ e _ _ hw.2
    refine ⟨Protocol.follows_snoc.mpr ⟨hw.1, hallowed⟩, ?_⟩
    rw [Traced.deliver, Protocol.after_snoc]
    exact hq
  · exact (wp_modify_bind _ _).mpr ((wp_pure a).mpr (hw.push (h a)))

/-- The invariant rule for loops. -/
theorem loop {body : ι → Prog σ Call Answer Event Note (ι ⊕ α)} {I : ι → σ → M → Prop}
    (h : ∀ i, Obeys env p (I i) (body i) fun x => x.elim I R) (i : ι) :
    Obeys env p (I i) (Coro.loop body i) R := fun w hw => by
  refine wp_loop (fun i => At p (I i)) (fun _ _ hw => hw.1) (fun i w hw => ?_) hw
  refine (h i w hw).mono (fun x w hx => ?_) (fun _ _ h => h) fun _ h => h
  rcases x with j | a
  · exact hx
  · exact hx

/-- What a triple says about the runs of a program from its start. -/
theorem exec_follows {s : σ} (h : Obeys env p Q m R) (hs : Q s p.init) (budget : ℕ) :
    p.Follows (m.exec s env budget).2.trace := by
  have hrun := (h ⟨s, []⟩ ⟨Protocol.follows_nil, hs⟩) 0 budget
  unfold Prog.exec
  rcases hx : m env ⟨⟨s, []⟩, 0, budget⟩ with ⟨a | e | _, r⟩ <;> rw [hx] at hrun
  · exact And.left hrun
  · exact hrun.elim
  · exact hrun

/-- What a triple says about the runs that return. -/
theorem exec_done {s : σ} (h : Obeys env p Q m R) (hs : Q s p.init) {budget : ℕ} {a : α}
    (ha : (m.exec s env budget).1 = .done a) : At p (R a) (m.exec s env budget).2 := by
  have hrun := (h ⟨s, []⟩ ⟨Protocol.follows_nil, hs⟩) 0 budget
  unfold Prog.exec at ha ⊢
  rcases hx : m env ⟨⟨s, []⟩, 0, budget⟩ with ⟨b | e | _, r⟩ <;> rw [hx] at hrun ha
  · cases ha
    exact hrun
  · cases ha
  · cases ha

end Obeys

end programs

end Await
