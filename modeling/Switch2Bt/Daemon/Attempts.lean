import Switch2Bt.Daemon.Effects

/-!
# What an attempt observed

A session is an attempt with one profile. The functions of this module read the last attempt off
the trace: its profile, its reports, and how its stages ended. `runStages_rule` is the rule for the
stages of a session with an assertion about how they ended so far.
-/

namespace Switch2Bt

open Await

/-! ## Reading the trace -/

/-- What was observed since the last session started. -/
def attemptObs (tr : List Obs) : List Obs :=
  tr.foldl (fun os o => match o with
    | .sessionStart _ => []
    | o => os ++ [o]) []

/-- The reports accepted since the last session started. -/
def attemptReports (tr : List Obs) : List Notification :=
  (attemptObs tr).filterMap fun
    | .report n => some n
    | _ => none

/-- The stages that ended since the last session started, and how. -/
def attemptStages (tr : List Obs) : List (Stage × Bool) :=
  (attemptObs tr).filterMap fun
    | .stageDone stage ok => some (stage, ok)
    | _ => none

/-- The profile of the last session started. -/
def attemptProfile (tr : List Obs) : Option ProtocolProfile :=
  (tr.filterMap fun
    | .sessionStart p => some p
    | _ => none).getLast?

@[simp] theorem attemptObs_start (tr : List Obs) (p : ProtocolProfile) :
    attemptObs (tr ++ [.sessionStart p]) = [] := by
  simp [attemptObs]

/-- While no session starts, the attempt grows with the trace. -/
theorem attemptObs_append (tr : List Obs) {os : List Obs}
    (hos : ∀ o ∈ os, ∀ p, o ≠ .sessionStart p) :
    attemptObs (tr ++ os) = attemptObs tr ++ os := by
  induction os using List.reverseRecOn with
  | nil => rw [List.append_nil, List.append_nil]
  | append_singleton os o ih =>
      have ih := ih fun x hx => hos x (List.mem_append_left _ hx)
      have ho := hos o (by simp)
      rw [← List.append_assoc, attemptObs, List.foldl_append]
      simp only [List.foldl_cons, List.foldl_nil]
      rw [← List.append_assoc, ← ih]
      rfl

@[simp] theorem attemptReports_start (tr : List Obs) (p : ProtocolProfile) :
    attemptReports (tr ++ [.sessionStart p]) = [] := by
  simp [attemptReports]

@[simp] theorem attemptStages_start (tr : List Obs) (p : ProtocolProfile) :
    attemptStages (tr ++ [.sessionStart p]) = [] := by
  simp [attemptStages]

@[simp] theorem attemptProfile_start (tr : List Obs) (p : ProtocolProfile) :
    attemptProfile (tr ++ [.sessionStart p]) = some p := by
  simp [attemptProfile, List.filterMap_append]

@[simp] theorem attemptReports_report (tr : List Obs) (n : Notification) :
    attemptReports (tr ++ [.report n]) = attemptReports tr ++ [n] := by
  rw [attemptReports, attemptObs_append _ (by simp), List.filterMap_append]
  rfl

@[simp] theorem attemptStages_stageDone (tr : List Obs) (stage : Stage) (ok : Bool) :
    attemptStages (tr ++ [.stageDone stage ok]) = attemptStages tr ++ [(stage, ok)] := by
  rw [attemptStages, attemptObs_append _ (by simp), List.filterMap_append]
  rfl

/-- Other observations leave the reports of the attempt. -/
theorem attemptReports_other (tr : List Obs) {os : List Obs}
    (hos : ∀ o ∈ os, (∀ p, o ≠ .sessionStart p) ∧ ∀ n, o ≠ .report n) :
    attemptReports (tr ++ os) = attemptReports tr := by
  have hnone : (os.filterMap fun
      | .report n => some n
      | _ => none) = [] := by
    rw [List.filterMap_eq_nil_iff]
    intro o ho
    split
    · exact absurd rfl ((hos _ ho).2 _)
    · rfl
  rw [attemptReports, attemptObs_append _ fun o ho => (hos o ho).1, List.filterMap_append, hnone,
    List.append_nil]
  rfl

/-- Other observations leave the stages of the attempt. -/
theorem attemptStages_other (tr : List Obs) {os : List Obs}
    (hos : ∀ o ∈ os, (∀ p, o ≠ .sessionStart p) ∧ ∀ stage ok, o ≠ .stageDone stage ok) :
    attemptStages (tr ++ os) = attemptStages tr := by
  have hnone : (os.filterMap fun
      | .stageDone stage ok => some (stage, ok)
      | _ => none) = [] := by
    rw [List.filterMap_eq_nil_iff]
    intro o ho
    split
    · exact absurd rfl ((hos _ ho).2 _ _)
    · rfl
  rw [attemptStages, attemptObs_append _ fun o ho => (hos o ho).1, List.filterMap_append, hnone,
    List.append_nil]
  rfl

theorem attemptProfile_other (tr : List Obs) {os : List Obs}
    (hos : ∀ o ∈ os, ∀ p, o ≠ .sessionStart p) :
    attemptProfile (tr ++ os) = attemptProfile tr := by
  have hnone : (os.filterMap fun
      | .sessionStart p => some p
      | _ => none) = [] := by
    rw [List.filterMap_eq_nil_iff]
    intro o ho
    split
    · exact absurd rfl (hos _ ho _)
    · rfl
  rw [attemptProfile, List.filterMap_append, hnone, List.append_nil]
  rfl

variable {env : DaemonEnv} {part : Stage} {w w' : World}

/-- No part of a session ends a stage. -/
theorem Reach.attemptStages (h : Reach env part w w') :
    attemptStages w'.trace = attemptStages w.trace := by
  obtain ⟨os, htrace, hos⟩ := h.obs
  rw [htrace]
  refine attemptStages_other _ fun o ho => ⟨fun p hp => ?_, fun stage ok hp => ?_⟩
  · have hemits := hos o ho
    rw [hp] at hemits
    cases hemits
  · have hemits := hos o ho
    rw [hp] at hemits
    cases hemits

/-! ## The stages of a session -/

/-- The stages `names` ended as `dones` says: all succeeded (`none`), all before a failed one
(`some false`), or all before one that was not run to its end (`some true`). -/
def StagesEnd (names : List Stage) (dones : List (Stage × Bool)) : Option Bool → Prop
  | none => dones = names.map (·, true)
  | some false => ∃ before s after, names = before ++ s :: after ∧
      dones = before.map (·, true) ++ [(s, false)]
  | some true => ∃ before s after, names = before ++ s :: after ∧ dones = before.map (·, true)

theorem StagesEnd.cons {name : Stage} {names : List Stage} {dones : List (Stage × Bool)}
    {r : Option Bool} (h : StagesEnd names dones r) :
    StagesEnd (name :: names) ((name, true) :: dones) r := by
  match r with
  | none =>
      rw [StagesEnd] at h ⊢
      rw [h]
      rfl
  | some false =>
      obtain ⟨before, s, after, rfl, rfl⟩ := h
      exact ⟨name :: before, s, after, rfl, rfl⟩
  | some true =>
      obtain ⟨before, s, after, rfl, rfl⟩ := h
      exact ⟨name :: before, s, after, rfl, rfl⟩

variable (env) in
/-- **The rule for the stages.** `J dones` holds between stages, after they ended as `dones` says;
`M dones` during the stage that follows. -/
theorem runStages_rule {J M : List (Stage × Bool) → World → Prop}
    (stages : List (Stage × Daemon Bool))
    (hfn : ∀ s ∈ stages, ∀ dones w, J dones w → w.st.shutdown = false → wp env s.2
      ⟨fun ok w' => J (dones ++ [(s.1, ok)]) (w'.emit (.stageDone s.1 ok)), fun _ => M dones,
        fun _ => True⟩ w)
    (hstop : ∀ dones w, J dones w → J dones (w.emit (.interrupted w.st.activeProfile
      w.st.client (w.st.client.any fun id => decide (id ∈ w.up)))))
    (hclean : ∀ dones w, J dones w → wp env cleanupClient ⟨fun _ => J dones, fun _ _ => False,
      fun _ => True⟩ w) :
    ∀ (dones : List (Stage × Bool)) (w : World), J dones w → wp env (runStages stages)
      ⟨fun r w' => ∃ new, StagesEnd (stages.map (·.1)) new r ∧ J (dones ++ new) w' ∧
          (r = some true → w'.st.shutdown = true),
        fun _ w' => ∃ new, StagesEnd (stages.map (·.1)) new (some true) ∧ M (dones ++ new) w',
        fun _ => True⟩ w := by
  induction stages with
  | nil =>
      intro dones w h
      exact (wp_pure _).mpr ⟨[], rfl, by rwa [List.append_nil], fun hr => by cases hr⟩
  | cons s rest ih =>
      intro dones w h
      have ih := ih fun s hs => hfn s (List.mem_cons_of_mem _ hs)
      refine runStages_cons_wp (B := J (dones ++ [(s.1, true)])) (F := J (dones ++ [(s.1, false)]))
        (fun hs => ?_) (fun hs => ?_) (fun w' h' => ?_) fun w' h' => ?_
      · exact ⟨[], ⟨[], s.1, rest.map (·.1), rfl, rfl⟩, by rw [List.append_nil]; exact hstop _ _ h,
          fun _ => hs⟩
      · refine (hfn s List.mem_cons_self dones w h hs).mono (fun ok w' h' => ?_) (fun _ w' h' => ?_)
          fun _ h' => h'
        · cases ok <;> exact h'
        · exact ⟨[], ⟨[], s.1, rest.map (·.1), rfl, rfl⟩, by rw [List.append_nil]; exact h'⟩
      · refine (ih _ _ h').mono ?_ ?_ fun _ h => h
        · rintro r w'' ⟨new, hend, hJ, hr⟩
          refine ⟨(s.1, true) :: new, hend.cons, ?_, hr⟩
          rwa [List.append_assoc] at hJ
        · rintro e w'' ⟨new, hend, hM⟩
          refine ⟨(s.1, true) :: new, hend.cons, ?_⟩
          rwa [List.append_assoc] at hM
      · refine (hclean _ w' h').mono (fun _ w'' h'' => ?_) (fun _ _ h => h.elim) fun _ h => h
        exact ⟨[(s.1, false)], ⟨[], s.1, rest.map (·.1), rfl, rfl⟩, h'', fun hr => by cases hr⟩

end Switch2Bt
