import Mathlib.Logic.Function.Basic
import Mathlib.Data.List.Basic
import Mathlib.Data.List.Nodup

/-!
# A register file with buffered, failing writes

A device holds a value for each code. A write is buffered and becomes visible at the next commit.
A call may be refused with an exception, before or after it took effect. A batch of calls stops at
the first exception.

The point of the module is `Buffered.run_commit_visible`: a batch that writes every code it cares
about, once, commits, and meets no exception leaves the values of that batch visible, whatever
earlier batches left behind.
-/

namespace Buffered

/-- A device over the codes `κ` and the values `ν`. -/
structure Device (κ ν : Type) where
  /-- The committed value of each code. -/
  visible : κ → ν
  /-- The writes since the last commit, oldest first. -/
  pending : List (κ × ν)

/-- A call on the device. -/
inductive Call (κ ν : Type) where
  | write (code : κ) (value : ν)
  | commit

/-- What happens to one call. -/
inductive Fault where
  /-- It returns. -/
  | none
  /-- It raises without effect. -/
  | before
  /-- It takes effect, then raises. -/
  | after
deriving DecidableEq, Repr

variable {κ ν : Type} [DecidableEq κ]

/-- The values after a list of writes. -/
def applyWrites (writes : List (κ × ν)) (values : κ → ν) : κ → ν :=
  writes.foldl (fun f w => Function.update f w.1 w.2) values

/-- The effect of one call. -/
def Device.apply (dev : Device κ ν) : Call κ ν → Device κ ν
  | .write code value => { dev with pending := dev.pending ++ [(code, value)] }
  | .commit => ⟨applyWrites dev.pending dev.visible, []⟩

/-- Run a batch of calls under a pattern of faults; the flag says that no call raised. -/
def run (faults : ℕ → Fault) : List (Call κ ν) → Device κ ν → Device κ ν × Bool
  | [], dev => (dev, true)
  | call :: calls, dev =>
      match faults 0 with
      | .none => run (fun i => faults (i + 1)) calls (dev.apply call)
      | .before => (dev, false)
      | .after => (dev.apply call, false)

/-- A batch that met no exception ran all its calls. -/
theorem run_eq_of_complete {calls : List (Call κ ν)} {faults : ℕ → Fault} {dev : Device κ ν}
    (h : (run faults calls dev).2 = true) :
    (run faults calls dev).1 = calls.foldl Device.apply dev := by
  induction calls generalizing faults dev with
  | nil => rfl
  | cons call calls ih =>
      rw [run] at h ⊢
      rcases hf : faults 0 with _ | _ | _ <;> simp only [hf] at h ⊢
      · exact ih h
      · cases h
      · cases h

/-- Writes only extend the pending list. -/
theorem foldl_apply_writes (writes : List (κ × ν)) (dev : Device κ ν) :
    (writes.map fun w => Call.write w.1 w.2).foldl Device.apply dev =
      { dev with pending := dev.pending ++ writes } := by
  induction writes generalizing dev with
  | nil => simp
  | cons w writes ih => simp [ih, Device.apply]

/-- A code that is not written keeps its value. -/
theorem applyWrites_of_not_mem {writes : List (κ × ν)} {code : κ} (values : κ → ν)
    (h : code ∉ writes.map Prod.fst) : applyWrites writes values code = values code := by
  induction writes generalizing values with
  | nil => rfl
  | cons w writes ih =>
      rw [List.map_cons, List.mem_cons, not_or] at h
      exact (ih _ h.2).trans (Function.update_of_ne h.1 _ _)

/-- A code written once has the value written, whatever was written before. -/
theorem applyWrites_of_mem {writes : List (κ × ν)} (hnd : (writes.map Prod.fst).Nodup)
    {w : κ × ν} (hw : w ∈ writes) (values : κ → ν) : applyWrites writes values w.1 = w.2 := by
  induction writes generalizing values with
  | nil => cases hw
  | cons w' writes ih =>
      rw [List.map_cons, List.nodup_cons] at hnd
      rcases List.mem_cons.mp hw with rfl | hw'
      · exact (applyWrites_of_not_mem _ hnd.1).trans (Function.update_self _ _ _)
      · exact ih hnd.2 hw' _

/-- **A complete batch of distinct writes and a commit leaves its own values visible.** -/
theorem run_commit_visible {writes : List (κ × ν)} (hnd : (writes.map Prod.fst).Nodup)
    {faults : ℕ → Fault} {dev : Device κ ν}
    (h : (run faults ((writes.map fun w => Call.write w.1 w.2) ++ [.commit]) dev).2 = true)
    {w : κ × ν} (hw : w ∈ writes) :
    (run faults ((writes.map fun w => Call.write w.1 w.2) ++ [.commit])
      dev).1.visible w.1 = w.2 := by
  rw [run_eq_of_complete h, List.foldl_append, foldl_apply_writes]
  simp only [List.foldl_cons, List.foldl_nil, Device.apply]
  rw [applyWrites, List.foldl_append]
  exact applyWrites_of_mem hnd hw _

end Buffered
