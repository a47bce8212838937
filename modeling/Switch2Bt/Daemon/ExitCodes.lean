import Switch2Bt.Daemon.Attribution

/-!
# Exit codes of diagnose mode (`switch2d.py`, `diagnose_mode`)

The documentation promises an exit code for each stage that can fail, and `exit_code_for_stage`
holds the table, but nothing calls it: `run_session` returns one boolean, and `diagnose_mode` makes
16 of every failure. `diagnoseMode_exitCode` says when the code is the documented one: when it is 0.

* `documentedExitCode`: the code promised for what an attempt observed.
* `runSession_stages`: how the stages of a session ended, and what it returns then.
-/

namespace Switch2Bt

open Await

/-- The first stage that failed in the attempt. -/
def failedStage (tr : List Obs) : Option Stage :=
  ((attemptStages tr).find? fun s => !s.2).map (·.1)

/-- The documented exit code of the attempt: that of the first stage that failed, else that of
`subscribe` without reports, else 0. -/
def documentedExitCode (tr : List Obs) : ℕ :=
  match failedStage tr with
  | some s => exitCodeForStage s
  | none => if attemptReports tr = [] then exitCodeForStage .subscribe else 0

/-- **The exit code is the documented one**, in the value returned and in the summary printed last,
and it is 0 exactly with reports. -/
def ExitDocumented (out : Outcome PyErr ℕ) (tr : List Obs) : Prop :=
  ∃ code s, out = .done code ∧ tr.getLast? = some (.summary s) ∧ s.exitCode = code ∧
    code = documentedExitCode tr ∧ (code = 0 ↔ attemptReports tr ≠ [])

/-- Every stage of the profile succeeded in the attempt, and a report was accepted. -/
def AttemptPassed (p : ProtocolProfile) (tr : List Obs) : Prop :=
  attemptStages tr = ((sessionStages p).map (·.1)).map (·, true) ∧ attemptReports tr ≠ []

variable {env : DaemonEnv} {p : ProtocolProfile} {w : World}

/-! ## How the stages of a session end -/

/-- Without a shutdown signal, a session returns whether it got reports if all its stages succeeded,
else `False`. -/
theorem runSession_stages (henv : NoShutdown env) (p : ProtocolProfile)
    (hs : w.st.shutdown = false) :
    wp env (runSession (some p)) ⟨fun ok w' =>
        (StagesEnd ((sessionStages p).map (·.1)) (attemptStages w'.trace) none ∧
          ok = decide (0 < w'.st.reportCount)) ∨
        (StagesEnd ((sessionStages p).map (·.1)) (attemptStages w'.trace) (some false) ∧
          ok = false),
      fun _ w' => StagesEnd ((sessionStages p).map (·.1)) (attemptStages w'.trace) (some true),
      fun _ => True⟩ w := by
  refine (wp_modify_bind _ _).mpr ((wp_get_bind _).mpr ?_)
  have hprofile : (w.startSession (some p)).st.activeProfile = p := by
    simp [DaemonState.resetFields]
  have hstages : attemptStages (w.startSession (some p)).trace = [] := by
    rw [World.startSession_trace, attemptStages_start]
  have hstart : (w.startSession (some p)).st.shutdown = false := by
    simpa [DaemonState.resetFields] using hs
  rw [hprofile]
  have hreach : ∀ {part : Stage} {w₁ w₂ : World} {dones : List (Stage × Bool)},
      Reach env part w₁ w₂ → attemptStages w₁.trace = dones ∧ w₁.st.shutdown = false →
      attemptStages w₂.trace = dones ∧ w₂.st.shutdown = false := fun hr h =>
    ⟨hr.attemptStages.trans h.1, hr.shutdown henv h.2⟩
  have hrule := runStages_rule env
    (J := fun dones w => attemptStages w.trace = dones ∧ w.st.shutdown = false)
    (M := fun dones w => attemptStages w.trace = dones ∧ w.st.shutdown = false)
    (sessionStages p)
    (fun s hs dones w h _ => (sessionStages_reach p s hs w w .refl).mono
      (fun ok w' hr => ⟨by simp [(hreach hr h).1], (hreach hr h).2⟩) (fun _ w' hr => hreach hr h)
      fun _ _ => trivial)
    (fun dones w h => ⟨by rw [← h.1]; exact attemptStages_other _ (by simp), h.2⟩)
    (fun dones w h => (cleanupClient_spec (Reach.refl (w := w))).mono
      (fun _ w' hr => hreach hr.1 h) (fun _ _ h => h) fun _ _ => trivial)
    [] (w.startSession (some p)) ⟨hstages, hstart⟩
  refine wp_bind (hrule.mono ?_ ?_ fun _ h => h)
  · rintro r w' ⟨new, hend, ⟨hnew, hs'⟩, hstop⟩
    rw [List.nil_append] at hnew
    rcases r with _ | _ | _
    · refine wp_bind ((runningLoop_spec (Reach.refl (w := w'))).mono ?_ (fun _ _ h => h.elim)
        fun _ _ => trivial)
      intro _ w₁ hr₁
      refine wp_bind ((cleanupClient_spec (Reach.refl (w := w₁))).mono ?_ (fun _ _ h => h.elim)
        fun _ _ => trivial)
      intro _ w₂ hr₂
      refine (wp_get_bind _).mpr ((wp_pure _).mpr (.inl ⟨?_, rfl⟩))
      rw [hr₂.1.attemptStages, Reach.attemptStages hr₁]
      exact hnew ▸ hend
    · exact (wp_pure _).mpr (.inr ⟨hnew ▸ hend, rfl⟩)
    · rw [hstop rfl] at hs'
      cases hs'
  · rintro e w' ⟨new, hend, hnew, -⟩
    rw [List.nil_append] at hnew
    show StagesEnd _ (attemptStages w'.trace) (some true)
    exact hnew ▸ hend

/-! ## The exit code -/

/-- The stages of a session have documented codes other than 16. -/
theorem exitCodeForStage_ne (p : ProtocolProfile) :
    ∀ s ∈ (sessionStages p).map (·.1), exitCodeForStage s ≠ 16 := by
  unfold sessionStages
  split <;> decide

/-- A failed stage is the first that failed. -/
theorem failedStage_of_failed {names : List Stage} {tr : List Obs}
    (h : StagesEnd names (attemptStages tr) (some false)) :
    ∃ s ∈ names, failedStage tr = some s := by
  obtain ⟨before, s, after, hnames, hstages⟩ := h
  refine ⟨s, by simp [hnames], ?_⟩
  have hnone : (before.map (·, true)).find? (fun s => !s.2) = none := by
    simp [List.find?_eq_none]
  rw [failedStage, hstages, List.find?_append, hnone]
  rfl

/-- When all stages succeeded, none failed. -/
theorem failedStage_of_passed {names : List Stage} {tr : List Obs}
    (h : StagesEnd names (attemptStages tr) none) : failedStage tr = none := by
  have hstages : attemptStages tr = names.map (·, true) := h
  rw [failedStage, hstages]
  simp [List.find?_eq_none]

/-- The exit code of an attempt whose stages ended one way or the other. -/
theorem exitDocumented_iff {tr : List Obs} {s : Summary} {ok : Bool} {st : DaemonState}
    (hcount : st.reportCount = (attemptReports tr).length)
    (hexit : s.exitCode = diagnoseExitCode st ok)
    (h : (StagesEnd ((sessionStages p).map (·.1)) (attemptStages tr) none ∧
        ok = decide (0 < st.reportCount)) ∨
      (StagesEnd ((sessionStages p).map (·.1)) (attemptStages tr) (some false) ∧ ok = false)) :
    ExitDocumented (.done (diagnoseExitCode st ok)) (tr ++ [.summary s]) ↔
      AttemptPassed p (tr ++ [.summary s]) := by
  have hstages : attemptStages (tr ++ [.summary s]) = attemptStages tr :=
    attemptStages_other _ (by simp)
  have hreports : attemptReports (tr ++ [.summary s]) = attemptReports tr :=
    attemptReports_other _ (by simp)
  have hfailed : failedStage (tr ++ [.summary s]) = failedStage tr := by
    rw [failedStage, hstages]
    rfl
  rcases h with ⟨hend, hok⟩ | ⟨hend, hok⟩
  · have hall : attemptStages tr = ((sessionStages p).map (·.1)).map (·, true) := hend
    have hdoc : documentedExitCode (tr ++ [.summary s]) =
        if attemptReports tr = [] then 15 else 0 := by
      rw [documentedExitCode, hfailed, failedStage_of_passed hend, hreports]
      rfl
    have hpassed : AttemptPassed p (tr ++ [.summary s]) ↔ attemptReports tr ≠ [] := by
      rw [AttemptPassed, hstages, hreports]
      exact ⟨fun h => h.2, fun h => ⟨hall, h⟩⟩
    rw [hpassed]
    by_cases hnone : attemptReports tr = []
    · have hcode : diagnoseExitCode st ok = 16 := by
        simp [diagnoseExitCode, hok, hcount, hnone]
      refine ⟨fun h => ?_, fun h => absurd hnone h⟩
      obtain ⟨code, s', hdone, -, -, heq, -⟩ := h
      cases hdone
      rw [hcode, hdoc, if_pos hnone] at heq
      cases heq
    · have hpos : 0 < st.reportCount := by
        rw [hcount]
        exact List.length_pos_of_ne_nil hnone
      have hcode : diagnoseExitCode st ok = 0 := by simp [diagnoseExitCode, hok, hpos]
      refine ⟨fun _ => hnone, fun _ => ⟨_, s, rfl, by simp, hexit, ?_, ?_⟩⟩
      · rw [hcode, hdoc, if_neg hnone]
      · rw [hcode, hreports]
        simp [hnone]
  · obtain ⟨stage, hmem, hstage⟩ := failedStage_of_failed hend
    have hcode : diagnoseExitCode st ok = 16 := by simp [diagnoseExitCode, hok]
    constructor
    · rintro ⟨code, s', hdone, -, -, heq, -⟩
      cases hdone
      rw [hcode, documentedExitCode, hfailed, hstage] at heq
      exact absurd heq.symm (exitCodeForStage_ne p stage hmem)
    · rintro ⟨hall, -⟩
      rw [hstages] at hall
      rw [failedStage_of_passed hall] at hstage
      cases hstage

/-- How a run of diagnose mode with an explicit profile may end. -/
def ExitPost (p : ProtocolProfile) : Post World PyErr ℕ where
  done code w := ExitDocumented (.done code) w.trace ↔ AttemptPassed p w.trace
  raised _ w := ¬AttemptPassed p w.trace
  suspended _ := True

/-- A session whose stages did not all end has not passed. -/
theorem StagesEnd.not_passed {tr : List Obs}
    (h : StagesEnd ((sessionStages p).map (·.1)) (attemptStages tr) (some true)) :
    ¬AttemptPassed p tr := by
  rintro ⟨hall, -⟩
  obtain ⟨before, s, after, hnames, hstages⟩ := h
  have hlength := congrArg List.length (hstages.symm.trans hall)
  rw [hnames] at hlength
  simp at hlength

theorem diagnoseProfile_exitPost (henv : NoShutdown env) (p : ProtocolProfile)
    (hs : w.st.shutdown = false) : wp env (diagnoseProfile p) (ExitPost p) w := by
  refine wp_bind (((runSession_stages henv p hs).and (runSession_counted (some p) w)).mono ?_
    (fun _ _ h => h.1.not_passed) fun _ _ => trivial)
  rintro ok w' ⟨hend, hcount⟩
  refine (wp_get_bind _).mpr ((wp_modify_bind _ _).mpr ((wp_pure _).mpr ?_))
  exact exitDocumented_iff hcount rfl hend

/-- **The exit code of diagnose mode with an explicit profile is the documented one exactly if it is
0**: if every stage succeeds and a report is accepted. -/
theorem diagnoseMode_exitCode (henv : NoShutdown env) (start : Run World)
    (hshutdown : start.state.st.shutdown = false)
    (hexplicit : start.state.st.args.profile ≠ "auto")
    (hrun : (diagnoseMode env start).1 ≠ .suspended) :
    ExitDocumented (diagnoseMode env start).1 (diagnoseMode env start).2.state.trace ↔
      AttemptPassed ((protocolProfiles.lookup start.state.st.args.profile).getD profileMacos)
        (diagnoseMode env start).2.state.trace := by
  have hmode : wp env diagnoseMode (ExitPost
      ((protocolProfiles.lookup start.state.st.args.profile).getD profileMacos)) start.state :=
    (wp_get_bind _).mpr (wp_ite (fun h => absurd h hexplicit) fun _ =>
      diagnoseProfile_exitPost henv _ hshutdown)
  have hpost := hmode.run
  rcases hout : diagnoseMode env start with ⟨code | e | _, r⟩ <;> rw [hout] at hpost hrun
  · exact hpost
  · refine ⟨?_, fun h => absurd h hpost⟩
    rintro ⟨code, s, hdone, -⟩
    cases hdone
  · exact absurd rfl hrun

/-- Diagnose mode with the profile `macos`, at its start. -/
def diagnoseStart : Run World := ⟨World.new (defaultArgs true false "macos"), 0, 20⟩

/-- No controller advertises: the scan fails, and the exit code is 16, not 11. -/
theorem diagnoseMode_scanFailed :
    ¬ExitDocumented (diagnoseMode quietEnv diagnoseStart).1
      (diagnoseMode quietEnv diagnoseStart).2.state.trace := by
  rintro ⟨code, s, hdone, -, -, heq, -⟩
  have hcode : (diagnoseMode quietEnv diagnoseStart).1 = .done 16 := by decide +kernel
  have hdoc : documentedExitCode (diagnoseMode quietEnv diagnoseStart).2.state.trace = 11 := by
    decide +kernel
  rw [hcode] at hdone
  cases hdone
  rw [hdoc] at heq
  cases heq

/-- The controller of `macosEnv` is connected and reports: both sides hold. -/
theorem diagnoseMode_exitCode_macos :
    ExitDocumented (diagnoseMode macosEnv diagnoseStart).1
      (diagnoseMode macosEnv diagnoseStart).2.state.trace :=
  (diagnoseMode_exitCode macosEnv_noShutdown diagnoseStart rfl (by decide +kernel)
    (by decide +kernel)).mpr ⟨by decide +kernel, by decide +kernel⟩

end Switch2Bt
