import Mathlib.Data.List.Induction
import Switch2Bt.Gamepad.Buffered

/-!
# Histories of failing batches

A batch is some writes and a commit. Under a pattern of faults it either commits all of its writes
or leaves what is visible alone (`run_batch_of_commits`, `run_batch_of_not_commits`). So when the
batches of a history write the same codes, what is visible in the end is the last batch that
committed, and nothing of any other (`replay_visible`).
-/

namespace Buffered

variable {κ ν : Type} {faults : ℕ → Fault} {writes : List (κ × ν)}

/-- Some writes, then a commit. -/
def batch (writes : List (κ × ν)) : List (Call κ ν) :=
  (writes.map fun w => .write w.1 w.2) ++ [.commit]

/-- None of `n` writes raises, and the commit behind them takes effect. -/
def Commits (faults : ℕ → Fault) (n : ℕ) : Prop := (∀ i < n, faults i = .none) ∧ faults n ≠ .before

instance (faults : ℕ → Fault) (n : ℕ) : Decidable (Commits faults n) :=
  inferInstanceAs (Decidable (_ ∧ _))

theorem commits_succ {n : ℕ} :
    Commits faults (n + 1) ↔ faults 0 = .none ∧ Commits (fun i => faults (i + 1)) n := by
  constructor
  · intro h
    exact ⟨h.1 0 (Nat.succ_pos n), fun i hi => h.1 (i + 1) (Nat.succ_lt_succ hi), h.2⟩
  · rintro ⟨h0, h, hn⟩
    refine ⟨fun i hi => ?_, hn⟩
    cases i with
    | zero => exact h0
    | succ i => exact h i (Nat.lt_of_succ_lt_succ hi)

/-- A batch with what happens to its calls. -/
abbrev Update (κ ν : Type) := List (κ × ν) × (ℕ → Fault)

/-- The writes of the last batch that committed. -/
def lastShown (history : List (Update κ ν)) : Option (List (κ × ν)) :=
  ((history.filter fun u => Commits u.2 u.1.length).getLast?).map Prod.fst

theorem lastShown_snoc (history : List (Update κ ν)) (u : Update κ ν) :
    lastShown (history ++ [u]) =
      if Commits u.2 u.1.length then some u.1 else lastShown history := by
  unfold lastShown
  split
  · next h => simp [h]
  · next h => simp [h]

/-- What was written is of the last batch that committed. -/
theorem mem_of_lastShown {history : List (Update κ ν)} (h : lastShown history = some writes) :
    ∃ u ∈ history, u.1 = writes := by
  obtain ⟨u, hu, rfl⟩ := Option.map_eq_some_iff.mp h
  exact ⟨u, List.mem_of_mem_filter (List.mem_of_getLast? hu), rfl⟩

variable [DecidableEq κ] {dev : Device κ ν}

theorem run_cons_none {call : Call κ ν} {calls : List (Call κ ν)} (h : faults 0 = .none) :
    run faults (call :: calls) dev = run (fun i => faults (i + 1)) calls (dev.apply call) := by
  rw [run, h]

/-- A batch that commits leaves nothing buffered. -/
theorem run_batch_of_commits (h : Commits faults writes.length) :
    (run faults (batch writes) dev).1 = ⟨applyWrites (dev.pending ++ writes) dev.visible, []⟩ := by
  induction writes generalizing faults dev with
  | nil =>
      have h0 : faults 0 ≠ .before := h.2
      rw [List.append_nil]
      show (run faults [.commit] dev).1 = _
      rw [run]
      cases hf : faults 0 with
      | none => rfl
      | before => exact absurd hf h0
      | after => rfl
  | cons w writes ih =>
      have hs := commits_succ.mp h
      show (run faults (.write w.1 w.2 :: batch writes) dev).1 = _
      rw [run_cons_none hs.1, ih hs.2]
      simp [Device.apply]

/-- A batch that does not commit buffers some of its writes, and changes nothing visible. -/
theorem run_batch_of_not_commits (h : ¬Commits faults writes.length) :
    ∃ done, done <+: writes ∧
      (run faults (batch writes) dev).1 = { dev with pending := dev.pending ++ done } := by
  induction writes generalizing faults dev with
  | nil =>
      have h0 : faults 0 = .before := by
        by_contra hne
        exact h ⟨fun i hi => absurd hi (Nat.not_lt_zero i), hne⟩
      refine ⟨[], List.nil_prefix, ?_⟩
      show (run faults [.commit] dev).1 = _
      rw [run, h0, List.append_nil]
  | cons w writes ih =>
      show ∃ done, _ ∧ (run faults (.write w.1 w.2 :: batch writes) dev).1 = _
      cases hf : faults 0 with
      | none =>
          have hno : ¬Commits (fun i => faults (i + 1)) writes.length := fun hc =>
            h (commits_succ.mpr ⟨hf, hc⟩)
          have hrest : ∃ done, done <+: writes ∧ (run (fun i => faults (i + 1)) (batch writes)
              (dev.apply (.write w.1 w.2))).1 = ⟨dev.visible, dev.pending ++ [w] ++ done⟩ := ih hno
          obtain ⟨done, hdone, hrun⟩ := hrest
          refine ⟨w :: done, List.cons_prefix_cons.mpr ⟨rfl, hdone⟩, ?_⟩
          rw [run_cons_none hf, hrun]
          simp
      | before =>
          refine ⟨[], List.nil_prefix, ?_⟩
          rw [run, hf, List.append_nil]
      | after =>
          refine ⟨[w], List.cons_prefix_cons.mpr ⟨rfl, List.nil_prefix⟩, ?_⟩
          rw [run, hf]
          rfl

/-- A history of batches. -/
def replay (history : List (Update κ ν)) (dev : Device κ ν) : Device κ ν :=
  history.foldl (fun dev u => (run u.2 (batch u.1) dev).1) dev

theorem replay_snoc (history : List (Update κ ν)) (u : Update κ ν) (dev : Device κ ν) :
    replay (history ++ [u]) dev = (run u.2 (batch u.1) (replay history dev)).1 := by
  simp [replay]

/-- Writes of the same codes hide what was written before. -/
theorem applyWrites_hides {codes : List κ} (hnd : codes.Nodup) {before : List (κ × ν)}
    (hbefore : ∀ w ∈ before, w.1 ∈ codes) (hwrites : writes.map Prod.fst = codes)
    {values base : κ → ν} (hbase : ∀ code, code ∉ codes → values code = base code) :
    applyWrites (before ++ writes) values = applyWrites writes base := by
  funext code
  by_cases hcode : code ∈ codes
  · rw [← hwrites] at hcode
    obtain ⟨w, hw, rfl⟩ := List.mem_map.mp hcode
    rw [applyWrites, List.foldl_append]
    exact (applyWrites_of_mem (hwrites ▸ hnd) hw _).trans
      (applyWrites_of_mem (hwrites ▸ hnd) hw _).symm
  · have hno : code ∉ writes.map Prod.fst := hwrites ▸ hcode
    have hnone : code ∉ (before ++ writes).map Prod.fst := by
      rw [List.map_append, List.mem_append, not_or]
      refine ⟨fun hmem => ?_, hno⟩
      obtain ⟨w, hw, rfl⟩ := List.mem_map.mp hmem
      exact hcode (hbefore w hw)
    rw [applyWrites_of_not_mem _ hnone, applyWrites_of_not_mem _ hno, hbase code hcode]

/-- Values that come from writes of distinct codes are those writes. -/
theorem visible_of_applyWrites {visible values : κ → ν} (hnd : (writes.map Prod.fst).Nodup)
    (h : visible = applyWrites writes values) : ∀ w ∈ writes, visible w.1 = w.2 := by
  intro w hw
  rw [h]
  exact applyWrites_of_mem hnd hw values

/-- **After any history of batches of the same codes the last one that committed is visible, alone
and whole.** -/
theorem replay_visible {codes : List κ} (hnd : codes.Nodup) {history : List (Update κ ν)}
    (hcodes : ∀ u ∈ history, u.1.map Prod.fst = codes) (hdev : dev.pending = []) :
    (replay history dev).visible =
      (lastShown history).elim dev.visible fun writes => applyWrites writes dev.visible := by
  suffices h : (∀ w ∈ (replay history dev).pending, w.1 ∈ codes) ∧ (replay history dev).visible =
      (lastShown history).elim dev.visible fun writes => applyWrites writes dev.visible from h.2
  induction history using List.reverseRecOn with
  | nil =>
      refine ⟨fun w hw => ?_, rfl⟩
      rw [show (replay [] dev).pending = [] from hdev] at hw
      exact absurd hw List.not_mem_nil
  | append_singleton history u ih =>
      obtain ⟨hpending, hvisible⟩ := ih fun v hv => hcodes v (List.mem_append_left _ hv)
      have hu : u.1.map Prod.fst = codes := hcodes u (by simp)
      have hkeep : ∀ code, code ∉ codes → (replay history dev).visible code = dev.visible code := by
        intro code hcode
        rw [hvisible]
        cases hlast : lastShown history with
        | none => rfl
        | some writes =>
            obtain ⟨v, hv, rfl⟩ := mem_of_lastShown hlast
            have hv := hcodes v (List.mem_append_left _ hv)
            exact applyWrites_of_not_mem _ (hv ▸ hcode)
      rw [replay_snoc, lastShown_snoc]
      by_cases hc : Commits u.2 u.1.length
      · rw [run_batch_of_commits hc, if_pos hc]
        exact ⟨fun w hw => absurd hw List.not_mem_nil,
          applyWrites_hides hnd hpending hu hkeep⟩
      · have hfail : ∃ done, done <+: u.1 ∧ (run u.2 (batch u.1) (replay history dev)).1 =
            ⟨(replay history dev).visible, (replay history dev).pending ++ done⟩ :=
          run_batch_of_not_commits hc
        obtain ⟨done, hdone, hrun⟩ := hfail
        rw [hrun, if_neg hc]
        refine ⟨fun w hw => ?_, hvisible⟩
        rcases List.mem_append.mp hw with hw | hw
        · exact hpending w hw
        · rw [← hu]
          exact List.mem_map_of_mem (hdone.subset hw)

end Buffered
