import Mathlib.Data.Nat.Notation
import Mathlib.Logic.Function.Basic
import Mathlib.Tactic.SplitIfs

/-!
# Programs on a GATT client

A program has variables, and handlers that change them and make calls of a GATT client. The client
keeps the connections: each runs at most one operation, a call starts its operation on the
connection it names if that one runs none, and has no effect otherwise. `Client` says what the calls
of a program are to the client and how its runs are observed, a `Machine` is the program, the client
and what was observed so far, and `Reached` are the states of the runs whose steps meet a condition.
Nothing here knows a program.
-/

namespace GattClient

/-! ## Connections -/

/-- A connection, with its number among all connections, and the operation it runs. -/
structure Link (Op : Type) where
  id : ℕ
  op : Option Op
deriving DecidableEq, Repr

/-- The live connections by handle, and how many there were. -/
structure Stack (Op : Type) where
  links : UInt16 → Option (Link Op)
  count : ℕ

namespace Stack

variable {Op : Type} {s s' s'' : Stack Op} {handle : UInt16}

/-- No connection. -/
def init : Stack Op := ⟨fun _ => none, 0⟩

/-- The number of the connection of a handle. -/
def number (s : Stack Op) (handle : UInt16) : Option ℕ := (s.links handle).map Link.id

/-- Set the connection of a handle. -/
def setLink (handle : UInt16) (link : Option (Link Op)) (s : Stack Op) : Stack Op :=
  { s with links := Function.update s.links handle link }

/-- A new connection has a handle. -/
def openLink (handle : UInt16) (s : Stack Op) : Stack Op :=
  ⟨Function.update s.links handle (some ⟨s.count, none⟩), s.count + 1⟩

/-- No connection runs an operation. -/
def Idle (s : Stack Op) : Prop := ∀ handle l, s.links handle = some l → l.op = none

/-- No two live connections have the same number. -/
structure Numbered (s : Stack Op) : Prop where
  lt : ∀ {h i}, s.number h = some i → i < s.count
  inj : ∀ {h h' i}, s.number h = some i → s.number h' = some i → h = h'

/-- Two stacks with the same connections. -/
def SameNumbers (s s' : Stack Op) : Prop := s'.count = s.count ∧ ∀ h, s'.number h = s.number h

theorem number_eq {l : Link Op} (h : s.links handle = some l) : s.number handle = some l.id := by
  rw [number, h, Option.map_some]

theorem setLink_links (handle h : UInt16) (link : Option (Link Op)) (s : Stack Op) :
    (s.setLink handle link).links h = if h = handle then link else s.links h :=
  Function.update_apply ..

@[simp] theorem setLink_links_self (handle : UInt16) (link : Option (Link Op)) (s : Stack Op) :
    (s.setLink handle link).links handle = link := Function.update_self ..

@[simp] theorem openLink_links_self (handle : UInt16) (s : Stack Op) :
    (s.openLink handle).links handle = some ⟨s.count, none⟩ := Function.update_self ..

theorem SameNumbers.refl (s : Stack Op) : s.SameNumbers s := ⟨rfl, fun _ => rfl⟩

theorem SameNumbers.trans (h : s.SameNumbers s') (h' : s'.SameNumbers s'') : s.SameNumbers s'' :=
  ⟨h'.1.trans h.1, fun handle => (h'.2 handle).trans (h.2 handle)⟩

theorem Numbered.same (h : s.Numbered) (hsame : s.SameNumbers s') : s'.Numbered := by
  constructor
  · intro handle i hi
    rw [hsame.2] at hi
    rw [hsame.1]
    exact h.lt hi
  · intro handle handle' i hi hi'
    rw [hsame.2] at hi hi'
    exact h.inj hi hi'

/-- The number of a live connection is one of those given so far. -/
theorem Numbered.link_lt (h : s.Numbered) {l : Link Op} (hl : s.links handle = some l) :
    l.id < s.count := h.lt (number_eq hl)

/-- The operation of a connection changes, not its number. -/
theorem setLink_sameNumbers {id : ℕ} {op : Option Op} (op' : Option Op)
    (h : s.links handle = some ⟨id, op⟩) : s.SameNumbers (s.setLink handle (some ⟨id, op'⟩)) := by
  refine ⟨rfl, fun h' => ?_⟩
  rw [number, setLink_links]
  by_cases hh : h' = handle
  · rw [if_pos hh, hh, number_eq h]
    rfl
  · rw [if_neg hh]
    rfl

theorem init_numbered : (init : Stack Op).Numbered := ⟨nofun, nofun⟩

/-- A new connection has a number of its own. -/
theorem Numbered.openLink (h : s.Numbered) : (s.openLink handle).Numbered := by
  have hnumber : ∀ h', (s.openLink handle).number h' =
      if h' = handle then some s.count else s.number h' := by
    intro h'
    unfold number Stack.openLink
    dsimp only
    rw [Function.update_apply]
    by_cases hh : h' = handle
    · rw [if_pos hh, if_pos hh]
      rfl
    · rw [if_neg hh, if_neg hh]
  constructor
  · intro h' i hi
    change i < s.count + 1
    rw [hnumber] at hi
    split at hi
    · cases hi
      exact Nat.lt_succ_self _
    · exact Nat.lt_succ_of_lt (h.lt hi)
  · intro h' h'' i hi hi'
    rw [hnumber] at hi hi'
    split at hi
    case isTrue heq =>
      split at hi'
      case isTrue heq' => exact heq.trans heq'.symm
      case isFalse =>
        cases hi
        exact absurd (h.lt hi') (Nat.lt_irrefl _)
    case isFalse =>
      split at hi'
      case isTrue =>
        cases hi'
        exact absurd (h.lt hi) (Nat.lt_irrefl _)
      case isFalse => exact h.inj hi hi'

theorem Numbered.closeLink (h : s.Numbered) : (s.setLink handle none).Numbered := by
  have hnumber : ∀ {h' i}, (s.setLink handle none).number h' = some i →
      s.number h' = some i := by
    intro h' i hi
    rw [number, setLink_links] at hi
    split at hi
    · cases hi
    · exact hi
  constructor
  · intro h' i hi
    exact h.lt (hnumber hi)
  · intro h' h'' i hi hi'
    exact h.inj (hnumber hi) (hnumber hi')

end Stack

/-! ## Programs -/

/-- What a program with variables `G` is to the client. -/
class Client (G : Type) (Call Op Obs : outParam Type) where
  /-- The connection that the program takes for its own. -/
  handle : G → UInt16
  /-- The connection a call names. -/
  names : Call → Option UInt16
  /-- The operation a call starts. -/
  starts : Call → Option Op
  connected : ℕ → UInt16 → Obs
  /-- A call: the live connection it names, if it names one, and whether it was accepted. -/
  called : Call → Option ℕ → Bool → Obs
  /-- The completion of an operation. -/
  completed : ℕ → Op → UInt8 → Obs
  /-- What is observed of a change of the variables, with the connection of the new ones. -/
  changed : G → G → Option ℕ → Option Obs

/-- The variables of a program, the client, and what was observed so far. -/
structure Machine (G Op Obs : Type) where
  vars : G
  stack : Stack Op
  trace : List Obs

namespace Machine

variable {G Call Op Obs : Type}

def emit (o : Obs) (w : Machine G Op Obs) : Machine G Op Obs := { w with trace := w.trace ++ [o] }

/-- Set the connection of a handle. -/
def setLink (handle : UInt16) (link : Option (Link Op)) (w : Machine G Op Obs) : Machine G Op Obs :=
  { w with stack := w.stack.setLink handle link }

@[simp] theorem emit_vars (o : Obs) (w : Machine G Op Obs) : (w.emit o).vars = w.vars := rfl
@[simp] theorem emit_stack (o : Obs) (w : Machine G Op Obs) : (w.emit o).stack = w.stack := rfl
@[simp] theorem emit_trace (o : Obs) (w : Machine G Op Obs) :
    (w.emit o).trace = w.trace ++ [o] := rfl
@[simp] theorem setLink_vars (handle : UInt16) (link : Option (Link Op)) (w : Machine G Op Obs) :
    (w.setLink handle link).vars = w.vars := rfl
@[simp] theorem setLink_stack (handle : UInt16) (link : Option (Link Op)) (w : Machine G Op Obs) :
    (w.setLink handle link).stack = w.stack.setLink handle link := rfl
@[simp] theorem setLink_trace (handle : UInt16) (link : Option (Link Op)) (w : Machine G Op Obs) :
    (w.setLink handle link).trace = w.trace := rfl

variable [Client G Call Op Obs]

/-- The connection of the program. -/
def current (w : Machine G Op Obs) : Option (Link Op) := w.stack.links (Client.handle w.vars)

/-- A new connection has a handle. -/
def openLink (handle : UInt16) (w : Machine G Op Obs) : Machine G Op Obs :=
  { w with
    stack := w.stack.openLink handle
    trace := w.trace ++ [Client.connected G w.stack.count handle] }

/-- An operation completes, and the program has not seen it. -/
def completed (w : Machine G Op Obs) (handle : UInt16) (id : ℕ) (op : Op) (att : UInt8) :
    Machine G Op Obs :=
  (w.setLink handle (some ⟨id, none⟩)).emit (Client.completed G id op att)

/-- What the client does with a call: an operation starts if its connection is live and runs
none. -/
def perform (w : Machine G Op Obs) (c : Call) : Machine G Op Obs :=
  match Client.starts G c, Client.names G c with
  | some op, some handle =>
      match w.stack.links handle with
      | some ⟨id, none⟩ =>
          (w.setLink handle (some ⟨id, some op⟩)).emit (Client.called G c (some id) true)
      | some ⟨id, some _⟩ => w.emit (Client.called G c (some id) false)
      | none => w.emit (Client.called G c none false)
  | _, handle => w.emit (Client.called G c (handle.bind w.stack.number) true)

/-- The variables change. -/
def assign (w : Machine G Op Obs) (g : G) : Machine G Op Obs :=
  match Client.changed w.vars g (w.stack.number (Client.handle g)) with
  | some o => emit o { w with vars := g }
  | none => { w with vars := g }

/-- A handler has run: its variables are those of the program, and its calls are made. -/
def deliver (w : Machine G Op Obs) (r : G × List Call) : Machine G Op Obs :=
  r.2.foldl perform (w.assign r.1)

/-! ## Calls -/

section calls

variable {w : Machine G Op Obs} {c : Call} {handle : UInt16} {id : ℕ} {op op' : Op}

/-- A call that starts no operation is only observed. -/
theorem perform_of_starts_none (h : Client.starts G c = none) :
    w.perform c = w.emit (Client.called G c ((Client.names G c).bind w.stack.number) true) := by
  unfold perform
  rw [h]

/-- An operation starts on a live connection that runs none. -/
theorem perform_accepted (hop : Client.starts G c = some op)
    (hhandle : Client.names G c = some handle) (hl : w.stack.links handle = some ⟨id, none⟩) :
    w.perform c =
      (w.setLink handle (some ⟨id, some op⟩)).emit (Client.called G c (some id) true) := by
  unfold perform
  rw [hop, hhandle]
  dsimp only
  rw [hl]

/-- A connection that runs an operation rejects another one. -/
theorem perform_busy (hop : Client.starts G c = some op)
    (hhandle : Client.names G c = some handle) (hl : w.stack.links handle = some ⟨id, some op'⟩) :
    w.perform c = w.emit (Client.called G c (some id) false) := by
  unfold perform
  rw [hop, hhandle]
  dsimp only
  rw [hl]

/-- A call for no live connection is rejected. -/
theorem perform_unknown (hop : Client.starts G c = some op)
    (hhandle : Client.names G c = some handle) (hl : w.stack.links handle = none) :
    w.perform c = w.emit (Client.called G c none false) := by
  unfold perform
  rw [hop, hhandle]
  dsimp only
  rw [hl]

/-- What becomes of a call: it is observed, and starts its operation or does nothing. -/
theorem perform_cases (w : Machine G Op Obs) (c : Call) :
    (∃ accepted, w.perform c =
      w.emit (Client.called G c ((Client.names G c).bind w.stack.number) accepted)) ∨
    ∃ handle id op, Client.starts G c = some op ∧ Client.names G c = some handle ∧
      w.stack.links handle = some ⟨id, none⟩ ∧ w.perform c =
        (w.setLink handle (some ⟨id, some op⟩)).emit (Client.called G c (some id) true) := by
  rcases hop : Client.starts G c with _ | op
  · exact .inl ⟨true, perform_of_starts_none hop⟩
  rcases hhandle : Client.names G c with _ | handle
  · left
    refine ⟨true, ?_⟩
    unfold perform
    rw [hop, hhandle]
  rw [Option.bind_some]
  rcases hl : w.stack.links handle with _ | ⟨id, _ | op'⟩
  · left
    rw [Stack.number, hl]
    exact ⟨false, perform_unknown hop hhandle hl⟩
  · exact .inr ⟨handle, id, op, rfl, rfl, hl, perform_accepted hop hhandle hl⟩
  · left
    rw [Stack.number_eq hl]
    exact ⟨false, perform_busy hop hhandle hl⟩

/-- A call makes one observation, and does not touch the variables. -/
theorem perform_obs (w : Machine G Op Obs) (c : Call) : (w.perform c).vars = w.vars ∧
    ∃ accepted, (w.perform c).trace =
      w.trace ++ [Client.called G c ((Client.names G c).bind w.stack.number) accepted] := by
  rcases w.perform_cases c with ⟨accepted, h⟩ | ⟨handle, id, op, -, hhandle, hl, h⟩
  · rw [h]
    exact ⟨rfl, accepted, rfl⟩
  · rw [h, hhandle, Option.bind_some, Stack.number_eq hl]
    exact ⟨rfl, true, rfl⟩

theorem perform_sameNumbers (w : Machine G Op Obs) (c : Call) :
    w.stack.SameNumbers (w.perform c).stack := by
  rcases w.perform_cases c with ⟨accepted, h⟩ | ⟨handle, id, op, -, -, hl, h⟩
  · rw [h]
    exact .refl _
  · rw [h]
    exact Stack.setLink_sameNumbers _ hl

end calls

/-! ## Handlers -/

section handlers

variable {w : Machine G Op Obs} {r : G × List Call}

/-- A change of the variables that is not observed. -/
theorem assign_of_none {g : G} (h : Client.changed w.vars g (w.stack.number (Client.handle g)) =
    none) : w.assign g = { w with vars := g } := by
  unfold assign
  rw [h]

@[simp] theorem assign_vars (w : Machine G Op Obs) (g : G) : (w.assign g).vars = g := by
  unfold assign
  split <;> rfl

@[simp] theorem assign_stack (w : Machine G Op Obs) (g : G) : (w.assign g).stack = w.stack := by
  unfold assign
  split <;> rfl

/-- What the change of the variables begins and each call keeps holds after a handler. -/
theorem deliver_rule {P : Machine G Op Obs → Prop} (h : P (w.assign r.1))
    (hcalls : ∀ c ∈ r.2, ∀ v, P v → P (v.perform c)) : P (w.deliver r) :=
  List.foldlRecOn r.2 perform h fun v hv c hc => hcalls c hc v hv

@[simp] theorem deliver_vars (w : Machine G Op Obs) (r : G × List Call) :
    (w.deliver r).vars = r.1 :=
  deliver_rule (P := fun v => v.vars = r.1) (w.assign_vars r.1)
    fun c _ v hv => (v.perform_obs c).1.trans hv

theorem deliver_sameNumbers (w : Machine G Op Obs) (r : G × List Call) :
    w.stack.SameNumbers (w.deliver r).stack :=
  deliver_rule (P := fun v => w.stack.SameNumbers v.stack)
    (by rw [assign_stack]; exact .refl _) fun c _ v hv => hv.trans (v.perform_sameNumbers c)

/-- Calls that start no operation leave the connections alone. -/
theorem deliver_stack (w : Machine G Op Obs) (h : ∀ c ∈ r.2, Client.starts G c = none) :
    (w.deliver r).stack = w.stack :=
  deliver_rule (P := fun v => v.stack = w.stack) (w.assign_stack r.1) fun c hc v hv => by
    rw [perform_of_starts_none (h c hc)]
    exact hv

end handlers

/-! ## Completions -/

section completions

variable {w : Machine G Op Obs} {handle : UInt16} {id : ℕ} {op : Op} {att : UInt8}

theorem completed_links (w : Machine G Op Obs) (handle : UInt16) (id : ℕ) (op : Op) (att : UInt8) :
    (w.completed handle id op att).stack.links handle = some ⟨id, none⟩ :=
  Stack.setLink_links_self ..

theorem completed_links_of_ne {h : UInt16} (hne : h ≠ handle) :
    (w.completed handle id op att).stack.links h = w.stack.links h :=
  (Stack.setLink_links ..).trans (if_neg hne)

theorem current_completed_own (h : handle = Client.handle w.vars) :
    (w.completed handle id op att).current = some ⟨id, none⟩ := by
  subst h
  exact w.completed_links ..

theorem current_completed_other (h : handle ≠ Client.handle w.vars) :
    (w.completed handle id op att).current = w.current := completed_links_of_ne h.symm

end completions

end Machine

/-! ## Runs -/

section runs

variable {σ ε : Type} (next : σ → ε → Option σ) (start : σ)

/-- The states that runs reach whose steps all meet a condition on the state before and the
event. -/
inductive Reached (C : σ → ε → Prop) : σ → Prop
  | init : Reached C start
  | step {s s' : σ} {e : ε} : Reached C s → C s e → next s e = some s' → Reached C s'

/-- The state after some events, if they can happen. -/
def after : List ε → σ → Option σ
  | [], s => some s
  | e :: es, s => (next s e).bind (after es)

/-- The state after some events, each of which meets the condition and can happen. -/
def through (C : σ → ε → Prop) [∀ s e, Decidable (C s e)] : List ε → σ → Option σ
  | [], s => some s
  | e :: es, s => if C s e then (next s e).bind (through C es) else none

variable {next : σ → ε → Option σ} {start : σ}

theorem Reached.through {C : σ → ε → Prop} [∀ s e, Decidable (C s e)] {es : List ε} :
    ∀ {s s' : σ}, Reached next start C s → GattClient.through next C es s = some s' →
      Reached next start C s' := by
  induction es with
  | nil => exact fun hrun h => Option.some.inj h ▸ hrun
  | cons e es ih =>
      intro s s' hrun h
      rw [GattClient.through] at h
      split_ifs at h with hC
      obtain ⟨v, hv, hrest⟩ := Option.bind_eq_some_iff.mp h
      exact ih (hrun.step hC hv) hrest

end runs

end GattClient
