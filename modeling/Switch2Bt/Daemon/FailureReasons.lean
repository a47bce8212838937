import Mathlib.Data.List.ModifyLast
import Switch2Bt.Daemon.ExitCodes

/-!
# Failure reasons of auto-detect attempts (`switch2d.py`, `_try_profile`)

The reason of a failed attempt is computed from the flags `stage_scan_ok`, `stage_connect_ok` and
`stage_subscribe_ok`, which nothing clears between attempts. So it is the reason of the attempt that
got furthest so far, and `autoDetectMode_reasons` says when this is the attempt it is stored for:
when no earlier one got further.

* `attempts`: what happened in each attempt of a run, read off the trace.
* `ReasonDescribes`: the reason an attempt should get.
* `runSession_passed`: the flags after a session, in terms of those before it.
* `Recorded`: the attempts recorded so far, with their reasons.
-/

namespace Switch2Bt

open Await

/-! ## The attempts of a run -/

/-- What happened in an attempt: the stages that ended, and the reports accepted. -/
structure Attempt where
  stages : List (Stage × Bool)
  reports : List Notification
deriving DecidableEq

/-- The attempts of a run, in order. -/
def attempts (tr : List Obs) : List Attempt :=
  tr.foldl (fun as o => match o with
    | .sessionStart _ => as ++ [⟨[], []⟩]
    | .stageDone stage ok => as.modifyLast fun a => { a with stages := a.stages ++ [(stage, ok)] }
    | .report n => as.modifyLast fun a => { a with reports := a.reports ++ [n] }
    | _ => as) []

/-- The last attempt of a run. -/
def lastAttempt (tr : List Obs) : Attempt := ⟨attemptStages tr, attemptReports tr⟩

theorem attempts_start (tr : List Obs) (p : ProtocolProfile) :
    attempts (tr ++ [.sessionStart p]) = attempts tr ++ [⟨[], []⟩] := by
  simp [attempts]

/-- What is observed between sessions belongs to no attempt. -/
theorem attempts_other (tr : List Obs) {os : List Obs} (hos : ∀ o ∈ os, (∀ p, o ≠ .sessionStart p) ∧
    (∀ stage ok, o ≠ .stageDone stage ok) ∧ ∀ n, o ≠ .report n) :
    attempts (tr ++ os) = attempts tr := by
  induction os generalizing tr with
  | nil => rw [List.append_nil]
  | cons o os ih =>
      have ho := hos o List.mem_cons_self
      have hone : attempts (tr ++ [o]) = attempts tr := by
        rw [attempts, List.foldl_append]
        cases o with
        | sessionStart p => exact absurd rfl (ho.1 p)
        | stageDone stage ok => exact absurd rfl (ho.2.1 stage ok)
        | report n => exact absurd rfl (ho.2.2 n)
        | _ => rfl
      rw [List.append_cons, ih _ fun o ho => hos o (List.mem_cons_of_mem _ ho), hone]

/-- What is observed in a session is added to its attempt. -/
theorem attempts_append {runs : List Attempt} {tr : List Obs} {os : List Obs}
    (h : attempts tr = runs ++ [lastAttempt tr]) (hos : ∀ o ∈ os, o.inSession) :
    attempts (tr ++ os) = runs ++ [lastAttempt (tr ++ os)] := by
  induction os generalizing tr with
  | nil => rwa [List.append_nil]
  | cons o os ih =>
      rw [List.append_cons]
      refine ih ?_ fun o ho => hos o (List.mem_cons_of_mem _ ho)
      have ho := hos o List.mem_cons_self
      have hother : (∀ p, o ≠ .sessionStart p) → (∀ stage ok, o ≠ .stageDone stage ok) →
          (∀ n, o ≠ .report n) →
          attempts (tr ++ [o]) = runs ++ [lastAttempt (tr ++ [o])] := by
        intro hstart hstage hreport
        rw [attempts_other _ (by simp [hstart, hstage, hreport]), h, lastAttempt, lastAttempt,
          attemptStages_other _ (by simp [hstart, hstage]),
          attemptReports_other _ (by simp [hstart, hreport])]
      cases o with
      | sessionStart p => cases ho
      | stageDone stage ok =>
          have hreports : attemptReports (tr ++ [.stageDone stage ok]) = attemptReports tr :=
            attemptReports_other _ (by simp)
          rw [lastAttempt, attemptStages_stageDone, hreports, attempts, List.foldl_append]
          simp only [List.foldl_cons, List.foldl_nil]
          rw [← attempts, h, List.modifyLast_concat]
          rfl
      | report n =>
          have hstages : attemptStages (tr ++ [.report n]) = attemptStages tr :=
            attemptStages_other _ (by simp)
          rw [lastAttempt, attemptReports_report, hstages, attempts, List.foldl_append]
          simp only [List.foldl_cons, List.foldl_nil]
          rw [← attempts, h, List.modifyLast_concat]
          rfl
      | _ => exact hother (by simp) (by simp) (by simp)

/-! ## Reasons -/

/-- **The reason describes the attempt.** -/
structure ReasonDescribes (a : Attempt) (reason : Option String) : Prop where
  scan : reason = some "scan failed" ↔ (.scan, false) ∈ a.stages
  connect : reason = some "connect failed" ↔
    (.scan, true) ∈ a.stages ∧ (.connect, false) ∈ a.stages
  subscribe : reason = some "subscribe failed" ↔
    (.connect, true) ∈ a.stages ∧ (.subscribe, true) ∉ a.stages
  reports : reason = some "subscribed but zero reports" ↔
    (.subscribe, true) ∈ a.stages ∧ a.reports = []

instance (a : Attempt) (reason : Option String) : Decidable (ReasonDescribes a reason) :=
  decidable_of_iff (_ ∧ _ ∧ _ ∧ _)
    ⟨fun h => ⟨h.1, h.2.1, h.2.2.1, h.2.2.2⟩, fun h => ⟨h.scan, h.connect, h.subscribe, h.reports⟩⟩

/-- How far an attempt got: scanned, connected, subscribed. -/
def Attempt.progress (a : Attempt) : ℕ :=
  if (.subscribe, true) ∈ a.stages then 3
  else if (.connect, true) ∈ a.stages then 2
  else if (.scan, true) ∈ a.stages then 1
  else 0

/-- The flag of a stage. -/
def DaemonState.passed (s : DaemonState) : Stage → Bool
  | .scan => s.stageScanOk
  | .connect => s.stageConnectOk
  | .subscribe => s.stageSubscribeOk
  | _ => false

/-- How far the flags say the program got. -/
def DaemonState.progress (s : DaemonState) : ℕ :=
  if s.passed .subscribe then 3
  else if s.passed .connect then 2
  else if s.passed .scan then 1
  else 0

/-- The reason for not getting further. -/
def progressReason : ℕ → String
  | 0 => "scan failed"
  | 1 => "connect failed"
  | 2 => "subscribe failed"
  | _ => "subscribed but zero reports"

/-- The reason of a failed session is that of the flags. -/
theorem failureReason_eq (s : DaemonState) :
    failureReason s false = progressReason s.progress := by
  rcases hsubscribe : s.stageSubscribeOk with _ | _ <;>
    rcases hconnect : s.stageConnectOk with _ | _ <;>
    rcases hscan : s.stageScanOk with _ | _ <;>
    simp [failureReason, DaemonState.progress, DaemonState.passed, hsubscribe, hconnect, hscan,
      progressReason]

/-- The ways in which stages can end. -/
def stageEndings : List Stage → List (List (Stage × Bool))
  | [] => [[]]
  | s :: rest => [(s, false)] :: (stageEndings rest).map ((s, true) :: ·)

/-- Stages that ran to their end, or to a failure, ended in one of the ways. -/
theorem StagesEnd.mem_endings {names : List Stage} {dones : List (Stage × Bool)} {r : Option Bool}
    (h : StagesEnd names dones r) (hr : r ≠ some true) : dones ∈ stageEndings names := by
  induction names generalizing dones with
  | nil =>
      match r with
      | none =>
          have hall : dones = [] := h
          rw [hall]
          exact List.mem_singleton_self _
      | some false =>
          obtain ⟨before, s, after, hnames, -⟩ := h
          simp at hnames
      | some true => exact absurd rfl hr
  | cons name names ih =>
      rw [stageEndings, List.mem_cons, List.mem_map]
      match r with
      | none =>
          have hall : dones = (name, true) :: names.map (·, true) := h
          exact .inr ⟨_, ih rfl, hall.symm⟩
      | some false =>
          obtain ⟨before, s, after, hnames, rfl⟩ := h
          rcases before with _ | ⟨b, before⟩
          · obtain ⟨rfl, -⟩ := List.cons.inj hnames
            exact .inl rfl
          · obtain ⟨rfl, hrest⟩ := List.cons.inj hnames
            exact .inr ⟨_, ih ⟨before, s, after, hrest, rfl⟩, rfl⟩
      | some true => exact absurd rfl hr

/-- Over the ways a session can end, without reports, a reason describes the attempt only if it is
that of its own progress. -/
theorem describes_endings (pairs : Bool) :
    ∀ dones ∈ stageEndings ([.scan, .connect, .discover] ++ (if pairs then [.pair] else []) ++
      [.init, .subscribe]), ∀ n < 4,
      ReasonDescribes ⟨dones, []⟩ (some (progressReason n)) ↔
        n = (Attempt.mk dones []).progress := by
  cases pairs <;> decide +kernel

/-! ## The flags after a session -/

/-- The stages that have a flag. -/
def Stage.flagged (m : Stage) : Prop := m = .scan ∨ m = .connect ∨ m = .subscribe

variable {env : DaemonEnv} {part m : Stage} {w w' : World} {b : Bool}

/-- An effect of another part leaves the flag of a stage. -/
theorem Effect.passed (h : Effect env part w w') (hm : m ≠ part) :
    w'.st.passed m = w.st.passed m := by
  cases h with
  | storeClient id => cases m <;> simp [DaemonState.passed] at hm ⊢
  | clientCleared => cases m <;> simp [DaemonState.passed]
  | found | subscribeOk => cases m <;> simp [DaemonState.passed] at hm ⊢
  | _ => cases m <;> rfl

theorem Reach.passed (h : Reach env part w w') (hm : m ≠ part) :
    w'.st.passed m = w.st.passed m :=
  h.invariant (I := fun w' => w'.st.passed m = w.st.passed m)
    (fun _ _ he hw => (he.passed hm).trans hw) rfl

/-- Events leave the flag of every stage. -/
theorem awaitCall_passed (c : Call) (hm : m ≠ .preflight) :
    Always env (fun w => w.st.passed m = b) (awaitCall c) :=
  awaitCall_always (fun _ _ he hw => (he.passed hm).trans hw) c

/-- What a stage does to its flag: it is set if the stage succeeds. -/
def FlagPost (m : Stage) (b : Bool) : Post World PyErr Bool :=
  ⟨fun ok w => w.st.passed m = (b || ok), fun _ _ => True, fun _ => True⟩

theorem flagPost_failed (h : w.st.passed m = b) : (FlagPost m b).done false w :=
  h.trans (Bool.or_false b).symm

/-- A call before the rest of a stage. -/
theorem awaitCall_flag {Q : Post World PyErr Bool} {c : Call} {f : Answer c → Daemon Bool}
    (hm : m ≠ .preflight) (hb : w.st.passed m = b) (hQ : ∀ w, Q.suspended w)
    (h : ∀ a w, w.st.passed m = b → wp env (f a) Q w) : wp env (awaitCall c >>= f) Q w :=
  wp_await_bind (fun w => w.st.passed m = b) (fun _ _ he w hw => by
    rcases dispatch_effect .preflight he w with heq | heff
    · rw [heq]
      exact hw
    · exact (heff.passed hm).trans hw) hb (fun w _ => hQ w) h

/-- A call that is awaited under a condition only, before the rest of a stage. -/
theorem await_skip_flag {Q : Post World PyErr Bool} {c : Prop} [Decidable c] {call : Call}
    {k : Daemon Bool} (hm : m ≠ .preflight) (hb : w.st.passed m = b) (hQ : ∀ w, Q.suspended w)
    (hk : ∀ w, w.st.passed m = b → wp env k Q w) :
    wp env (if c then awaitCall call >>= fun _ => k else k) Q w :=
  wp_ite (fun _ => awaitCall_flag hm hb hQ fun _ w hw => hk w hw) fun _ => hk w hb

theorem stageScan_flag (w : World) : wp env stageScan (FlagPost .scan (w.st.passed .scan)) w := by
  refine (wp_get_bind _).mpr ((wp_modify_bind _ _).mpr ?_)
  refine awaitCall_flag (m := .scan) (by simp) rfl (fun _ => trivial) fun started w₁ h₁ => ?_
  have hb : w₁.st.passed .scan = w.st.passed .scan := h₁
  rcases started with e | _
  · exact (wp_modify_bind _ _).mpr ((wp_raise _).mpr trivial)
  refine awaitCall_flag (by simp) hb (fun _ => trivial) fun _ w₂ h₂ => ?_
  refine awaitCall_flag (by simp) h₂ (fun _ => trivial) fun stopped w₃ h₃ => ?_
  refine (wp_get_bind _).mpr ((wp_modify_bind _ _).mpr ?_)
  rcases stopped with e | _
  · exact (wp_raise _).mpr trivial
  simp only [finishScan]
  split
  · refine (wp_modify_bind _ _).mpr (wp_ite (fun _ => (wp_raise _).mpr trivial) fun _ => ?_)
    exact (wp_pure _).mpr (by simp [FlagPost, DaemonState.passed])
  · exact (wp_pure _).mpr (flagPost_failed h₃)

theorem connectAttempts_flag (id : ClientId) (remaining attempt : ℕ)
    (hb : w.st.passed .connect = b) :
    wp env (connectAttempts id remaining attempt) (FlagPost .connect b) w := by
  induction remaining generalizing attempt w with
  | zero => exact (wp_pure _).mpr (flagPost_failed hb)
  | succ k ih =>
      refine await_skip_flag (by simp) hb (fun _ => trivial) fun w₁ h₁ => ?_
      refine awaitCall_flag (by simp) h₁ (fun _ => trivial) fun connected w₂ h₂ => ?_
      rcases connected with e | _
      · exact ih _ h₂
      · exact (wp_modify_bind _ _).mpr ((wp_pure _).mpr (by simp [FlagPost, DaemonState.passed]))

theorem stageConnect_flag (w : World) :
    wp env stageConnect (FlagPost .connect (w.st.passed .connect)) w :=
  (wp_get_bind _).mpr ((wp_modify_bind _ _).mpr (connectAttempts_flag _ _ _ rfl))

/-- Subscribing a characteristic does not set the flag yet. -/
theorem startNotifyInput_flag (target : NotifyTarget) :
    Always env (fun w => w.st.passed .subscribe = b) (startNotifyInput target) := by
  refine Always.read fun w _ => ?_
  split
  · exact Always.pure _
  · refine Always.bind (Always.modify fun _ hw => hw) fun _ => ?_
    exact Always.bind (Always.modify fun _ hw => hw) fun _ => awaitCall_passed _ (by simp)

theorem subscribeAttempts_flag (uuid : String) (remaining : ℕ) (hb : w.st.passed .subscribe = b) :
    wp env (subscribeAttempts uuid remaining) (FlagPost .subscribe b) w := by
  induction remaining generalizing w with
  | zero => exact (wp_pure _).mpr (flagPost_failed hb)
  | succ k ih =>
      refine wp_bind ((startNotifyInput_flag _ w hb).mono ?_ (fun _ _ _ => trivial)
        fun _ _ => trivial)
      rintro (e | _) w' hw'
      · exact await_skip_flag (by simp) hw' (fun _ => trivial) fun w'' hw'' => ih hw''
      · exact (wp_modify_bind _ _).mpr ((wp_pure _).mpr (by simp [FlagPost, DaemonState.passed]))

theorem subscribeChars_flag (cs : List Characteristic) (count : ℕ) :
    Always env (fun w => w.st.passed .subscribe = b) (subscribeChars cs count) := by
  induction cs generalizing count with
  | nil => exact Always.pure _
  | cons c cs ih =>
      refine Always.ite ((startNotifyInput_flag _).bind fun answer => ?_) (ih _)
      split
      · refine Always.bind (Always.modify fun _ hw => hw) fun _ => ?_
        exact Always.bind (Always.modify fun _ hw => hw) fun _ => ih _
      · exact ih _

theorem stageSubscribe_flag (w : World) :
    wp env stageSubscribe (FlagPost .subscribe (w.st.passed .subscribe)) w := by
  refine (wp_get_bind _).mpr ?_
  split
  · have hservices : Always env (fun w' => w'.st.passed .subscribe = w.st.passed .subscribe)
        (withClient fun id => queryCall (.services id)) := by
      refine Always.read fun _ _ => ?_
      split
      · exact Always.pure _
      · exact Always.query _
    refine wp_bind ((hservices w rfl).mono ?_ (fun _ _ _ => trivial) fun _ _ => trivial)
    intro answer w₁ h₁
    refine wp_ofExcept_bind (fun tree _ => ?_) fun _ _ => trivial
    rcases tree with _ | tree
    · exact (wp_raise _).mpr trivial
    refine wp_bind ((subscribeChars_flag _ 0 w₁ h₁).mono ?_ (fun _ _ _ => trivial)
      fun _ _ => trivial)
    intro count w₂ h₂
    refine wp_ite (fun _ => (wp_pure _).mpr (flagPost_failed h₂)) fun _ => ?_
    exact (wp_modify_bind _ _).mpr ((wp_pure _).mpr (by simp [FlagPost, DaemonState.passed]))
  · exact wp_ite (fun _ => (wp_pure _).mpr (flagPost_failed rfl)) fun _ =>
      subscribeAttempts_flag _ _ rfl

/-- A stage sets its own flag, if it succeeds, and no other. -/
theorem sessionStages_flag (profile : ProtocolProfile) (hm : m.flagged) :
    ∀ s ∈ sessionStages profile, ∀ w, wp env s.2 ⟨fun ok w' =>
      w'.st.passed m = (w.st.passed m || (decide (m = s.1) && ok)), fun _ _ => True,
      fun _ => True⟩ w := by
  intro s hs w
  by_cases hpart : m = s.1
  · have hflag : wp env s.2 (FlagPost m (w.st.passed m)) w := by
      subst hpart
      simp only [sessionStages, List.mem_append, List.mem_cons, List.not_mem_nil, or_false] at hs
      rcases hs with ((rfl | rfl | rfl) | hpair) | rfl | rfl
      · exact stageScan_flag w
      · exact stageConnect_flag w
      · rcases hm with h | h | h <;> cases h
      · split at hpair
        · obtain rfl := List.mem_singleton.mp hpair
          rcases hm with h | h | h <;> cases h
        · cases hpair
      · rcases hm with h | h | h <;> cases h
      · exact stageSubscribe_flag w
    refine hflag.mono (fun ok w' h => ?_) (fun _ _ h => h) fun _ h => h
    show w'.st.passed m = (w.st.passed m || (decide (m = s.1) && ok))
    rw [decide_eq_true hpart, Bool.true_and]
    exact h
  · refine (sessionStages_reach profile s hs w w .refl).mono (fun ok w' hr => ?_)
      (fun _ _ _ => trivial) fun _ _ => trivial
    show w'.st.passed m = (w.st.passed m || (decide (m = s.1) && ok))
    rw [decide_eq_false hpart, Bool.false_and, Bool.or_false]
    exact Reach.passed hr hpart

/-- **The flags after a session** are those before it, and those of the stages that succeeded. -/
theorem runSession_passed (p : ProtocolProfile) (hm : m.flagged) (w : World) :
    wp env (runSession (some p)) ⟨fun _ w' => w'.st.passed m =
      (w.st.passed m || decide ((m, true) ∈ attemptStages w'.trace)), fun _ _ => True,
      fun _ => True⟩ w := by
  have hm' : m ≠ .running := by rcases hm with rfl | rfl | rfl <;> simp
  refine (wp_modify_bind _ _).mpr ((wp_get_bind _).mpr ?_)
  have hstart : (w.startSession (some p)).st.passed m = w.st.passed m := by
    rcases hm with rfl | rfl | rfl <;> simp [DaemonState.passed, DaemonState.resetFields]
  have hkept : ∀ w₁ w₂ : World, Reach env .running w₁ w₂ → w₁.st.passed m =
      (w.st.passed m || decide ((m, true) ∈ attemptStages w₁.trace)) → w₂.st.passed m =
      (w.st.passed m || decide ((m, true) ∈ attemptStages w₂.trace)) := by
    intro w₁ w₂ hr h
    rw [hr.passed hm', hr.attemptStages, h]
  have hrule := runStages_rule env
    (J := fun _ w' => w'.st.passed m =
      (w.st.passed m || decide ((m, true) ∈ attemptStages w'.trace)))
    (M := fun _ _ => True) (sessionStages (w.startSession (some p)).st.activeProfile)
    (fun s hs dones w₁ h₁ _ => by
      refine ((sessionStages_flag _ hm s hs w₁).and (sessionStages_reach _ s hs w₁ w₁ .refl)).mono
        ?_ (fun _ _ _ => trivial) fun _ _ => trivial
      rintro ok w₂ ⟨hflag, hr⟩
      have hstages : attemptStages w₂.trace = attemptStages w₁.trace := Reach.attemptStages hr
      simp only [World.emit_st, World.emit_trace, attemptStages_stageDone, hstages]
      rw [hflag, h₁, Bool.or_assoc]
      congr 1
      cases ok <;> simp)
    (fun _ w₁ h₁ => by
      show w₁.st.passed m = _
      rw [World.emit_trace, attemptStages_other _ (by simp)]
      exact h₁)
    (fun _ w₁ h₁ => (cleanupClient_spec (Reach.refl (w := w₁))).mono
      (fun _ w₂ hr => hkept _ _ hr.1 h₁)
      (fun _ _ h => h) fun _ _ => trivial)
    [] (w.startSession (some p)) (by rw [hstart, World.startSession_trace]; simp)
  refine wp_bind (hrule.mono ?_ (fun _ _ _ => trivial) fun _ _ => trivial)
  rintro r w₁ ⟨-, -, h₁, -⟩
  rcases r with _ | result
  · refine wp_bind ((runningLoop_reach w₁ .refl).mono ?_ (fun _ _ _ => trivial) fun _ _ => trivial)
    intro _ w₂ hr₂
    have h₂ := hkept _ _ hr₂ h₁
    refine wp_bind ((cleanupClient_reach w₂ .refl).mono ?_ (fun _ _ _ => trivial)
      fun _ _ => trivial)
    intro _ w₃ hr₃
    exact (wp_get_bind _).mpr ((wp_pure _).mpr (hkept _ _ hr₃ h₂))
  · exact (wp_pure _).mpr h₁

/-! ## One attempt -/

/-- During a session: it is the last attempt, not recorded yet. -/
structure InRun (w₀ w : World) : Prop where
  attempts : attempts w.trace = attempts w₀.trace ++ [lastAttempt w.trace]
  recorded : w.st.attemptedProfiles = w₀.st.attemptedProfiles
  shutdown : w.st.shutdown = false

theorem SessionStep.shutdown (henv : NoShutdown env) (h : SessionStep env w w')
    (hs : w.st.shutdown = false) : w'.st.shutdown = false := by
  cases h with
  | effect he => exact Reach.shutdown henv (Reach.tail .refl he) hs
  | stageDone | interrupted => exact hs

theorem runSession_inRun (henv : NoShutdown env) (p : ProtocolProfile)
    (hs : w.st.shutdown = false) :
    wp env (runSession (some p)) (Post.all (InRun w)) w := by
  have hstart : InRun w (w.startSession (some p)) := by
    obtain ⟨os, htrace, hos⟩ := World.setClient_obs none w
    refine ⟨?_, by simp [DaemonState.resetFields], by simpa [DaemonState.resetFields] using hs⟩
    rw [World.startSession_trace, attempts_start, lastAttempt, attemptStages_start,
      attemptReports_start, htrace, attempts_other]
    intro o ho
    obtain ⟨_, _, rfl⟩ := hos o ho
    simp
  have hstep : ∀ w₁ w₂, SessionStep env w₁ w₂ → InRun w w₁ → InRun w w₂ := by
    intro w₁ w₂ hstep h
    obtain ⟨os, htrace, hos⟩ := hstep.obs
    refine ⟨?_, hstep.attempts.1.trans h.recorded, hstep.shutdown henv h.shutdown⟩
    rw [htrace]
    exact attempts_append h.attempts hos
  exact runSession_invariant hstart hstep

/-- The flags say the furthest of what they said before and of the attempt. -/
theorem progress_max {s s' : DaemonState} {a : Attempt}
    (h : ∀ m : Stage, m.flagged → s'.passed m = (s.passed m || decide ((m, true) ∈ a.stages))) :
    s'.progress = max s.progress a.progress := by
  simp only [DaemonState.progress, Attempt.progress, h .scan (.inl rfl),
    h .connect (.inr (.inl rfl)), h .subscribe (.inr (.inr rfl)), Bool.or_eq_true,
    decide_eq_true_eq]
  split_ifs <;> first | rfl | tauto

theorem progress_lt (s : DaemonState) : s.progress < 4 := by
  unfold DaemonState.progress
  split_ifs <;> decide

/-- The stages of a session, by name. -/
theorem sessionStages_names (p : ProtocolProfile) : (sessionStages p).map (·.1) =
    [.scan, .connect, .discover] ++ (if p.pairs then [.pair] else []) ++ [.init, .subscribe] := by
  unfold sessionStages
  split <;> rfl

/-- **When a reason describes an attempt**: when it is that of its own progress. -/
theorem describes_iff {p : ProtocolProfile} {a : Attempt} {r : Option Bool} {n : ℕ}
    (hend : StagesEnd ((sessionStages p).map (·.1)) a.stages r) (hr : r ≠ some true)
    (hreports : (.subscribe, true) ∈ a.stages → a.reports = []) (hn : n < 4) :
    ReasonDescribes a (some (progressReason n)) ↔ n = a.progress := by
  have hreportless : ReasonDescribes a (some (progressReason n)) ↔
      ReasonDescribes ⟨a.stages, []⟩ (some (progressReason n)) := by
    have hiff : ((.subscribe, true) ∈ a.stages ∧ a.reports = []) ↔
        ((Stage.subscribe, true) ∈ a.stages ∧ ([] : List Notification) = []) :=
      ⟨fun h => ⟨h.1, rfl⟩, fun h => ⟨h.1, hreports h.1⟩⟩
    exact ⟨fun h => ⟨h.scan, h.connect, h.subscribe, h.reports.trans hiff⟩,
      fun h => ⟨h.scan, h.connect, h.subscribe, h.reports.trans hiff.symm⟩⟩
  rw [hreportless]
  exact describes_endings p.pairs a.stages
    (sessionStages_names p ▸ hend.mem_endings hr) n hn

/-- Over the ways a session can end, none that completes `subscribe` has a failure. -/
theorem subscribed_endings (p : ProtocolProfile) :
    ∀ dones ∈ stageEndings ((sessionStages p).map (·.1)), (.subscribe, true) ∈ dones →
      ∀ s, (s, false) ∉ dones := by
  have hall : ∀ pairs : Bool, ∀ dones ∈ stageEndings ([.scan, .connect, .discover] ++
      (if pairs then [.pair] else []) ++ [.init, .subscribe]), (.subscribe, true) ∈ dones →
      ∀ d ∈ dones, d.2 = true := by decide +kernel
  rw [sessionStages_names]
  intro dones hdones hsubscribe s hs
  cases hall p.pairs dones hdones hsubscribe _ hs

/-- **The reason of a failed attempt** is that of the flags; it describes the attempt if the flags
did not say more before it. -/
theorem runSession_reason (henv : NoShutdown env) (p : ProtocolProfile)
    (hs : w.st.shutdown = false) :
    wp env (runSession (some p)) ⟨fun ok w' =>
      w'.st.progress = max w.st.progress (lastAttempt w'.trace).progress ∧
      ((attemptResult p w'.st ok).success = false →
        (ReasonDescribes (lastAttempt w'.trace) (attemptResult p w'.st ok).failureReason ↔
          w.st.progress ≤ (lastAttempt w'.trace).progress)),
      fun _ _ => True, fun _ => True⟩ w := by
  refine ((((runSession_stages henv p hs).and (runSession_counted (some p) w)).and
    (runSession_passed p (.inl rfl) w)).and ((runSession_passed p (.inr (.inl rfl)) w).and
      (runSession_passed p (.inr (.inr rfl)) w))).mono ?_ (fun _ _ _ => trivial) fun _ _ => trivial
  rintro ok w' ⟨⟨⟨hend, hcount⟩, hscan⟩, hconnect, hsubscribe⟩
  have hprogress : w'.st.progress = max w.st.progress (lastAttempt w'.trace).progress := by
    refine progress_max fun m hm => ?_
    rcases hm with rfl | rfl | rfl
    · exact hscan
    · exact hconnect
    · exact hsubscribe
  refine ⟨hprogress, fun hfailed => ?_⟩
  have hcount : w'.st.reportCount = (lastAttempt w'.trace).reports.length := hcount
  have hok : ok = false := by
    rcases hend with ⟨-, hok⟩ | ⟨-, hok⟩
    · simpa [attemptResult, hok] using hfailed
    · exact hok
  have hreason : (attemptResult p w'.st ok).failureReason =
      some (progressReason w'.st.progress) := by
    rw [hok, ← failureReason_eq]
    rfl
  have hdescribes : ReasonDescribes (lastAttempt w'.trace) (some (progressReason w'.st.progress)) ↔
      w'.st.progress = (lastAttempt w'.trace).progress := by
    rcases hend with ⟨hend, hok'⟩ | ⟨hend, -⟩
    · refine describes_iff hend (by simp) (fun _ => ?_) (progress_lt _)
      rw [hok, eq_comm, decide_eq_false_iff_not, hcount] at hok'
      exact List.length_eq_zero_iff.mp (Nat.eq_zero_of_not_pos hok')
    · refine describes_iff hend (by simp) (fun hpassed => ?_) (progress_lt _)
      have hall := subscribed_endings p _ (hend.mem_endings (by simp)) hpassed
      obtain ⟨before, s, after, -, hstages⟩ := hend
      exact absurd (hstages ▸ by simp) (hall s)
  rw [hreason, hdescribes, hprogress, max_eq_right_iff]

/-! ## The attempts recorded -/

/-- Every failed attempt recorded has a reason that describes it exactly if no earlier attempt got
further. -/
def Recorded (runs : List Attempt) (rs : List AttemptResult) : Prop :=
  ∀ (k : ℕ) (r : AttemptResult), rs[k]? = some r → ∃ a, runs[k]? = some a ∧ (r.success = false →
    (ReasonDescribes a r.failureReason ↔ ∀ a' ∈ runs.take k, a'.progress ≤ a.progress))

/-- Another attempt leaves the record of the earlier ones. -/
theorem Recorded.append {runs : List Attempt} {rs : List AttemptResult} (h : Recorded runs rs)
    (a : Attempt) : Recorded (runs ++ [a]) rs := by
  intro k r hr
  obtain ⟨a', ha', hreason⟩ := h k r hr
  have hk : k < runs.length := (List.getElem?_eq_some_iff.mp ha').1
  refine ⟨a', (List.getElem?_append_left hk).trans ha', fun hs => ?_⟩
  rw [List.take_append_of_le_length hk.le]
  exact hreason hs

/-- The record of one more attempt. -/
theorem Recorded.record {runs : List Attempt} {rs : List AttemptResult} (h : Recorded runs rs)
    (hlength : runs.length = rs.length) {a : Attempt} {r : AttemptResult}
    (hr : r.success = false → (ReasonDescribes a r.failureReason ↔
      ∀ a' ∈ runs, a'.progress ≤ a.progress)) : Recorded (runs ++ [a]) (rs ++ [r]) := by
  intro k r' hr'
  rcases Nat.lt_or_ge k rs.length with hk | hk
  · rw [List.getElem?_append_left hk] at hr'
    exact h.append a k r' hr'
  · have hk' : k = rs.length := by
      have hlt := (List.getElem?_eq_some_iff.mp hr').1
      rw [List.length_append, List.length_singleton] at hlt
      omega
    rw [hk', List.getElem?_concat_length] at hr'
    cases hr'
    refine ⟨a, by rw [hk', ← hlength, List.getElem?_concat_length], fun hs => ?_⟩
    rw [hk', ← hlength, List.take_left]
    exact hr hs

/-- Between attempts: all are recorded, and the flags say how far the best of them got. -/
structure Chronicle (w : World) : Prop where
  recorded : Recorded (attempts w.trace) w.st.attemptedProfiles
  length : (attempts w.trace).length = w.st.attemptedProfiles.length
  progress : ∀ n, w.st.progress ≤ n ↔ ∀ a ∈ attempts w.trace, a.progress ≤ n
  shutdown : w.st.shutdown = false

/-- What the auto loop keeps at every moment. -/
def ReasonsRecorded (w : World) : Prop :=
  Recorded (attempts w.trace) w.st.attemptedProfiles

/-- During an attempt the record stands. -/
theorem InRun.reasonsRecorded {w₀ : World} (h : InRun w₀ w) (h₀ : Chronicle w₀) :
    ReasonsRecorded w := by
  rw [ReasonsRecorded, h.attempts, h.recorded]
  exact h₀.recorded.append _

/-- **One attempt**: recording its result keeps the chronicle. -/
theorem tryProfile_chronicle (henv : NoShutdown env) (p : ProtocolProfile) (h : Chronicle w) :
    wp env (tryProfile p) ⟨fun r w' => Chronicle
        (w'.update fun s => { s with attemptedProfiles := s.attemptedProfiles ++ [r] }),
      fun _ => ReasonsRecorded, ReasonsRecorded⟩ w := by
  refine wp_bind (((runSession_inRun henv p h.shutdown).and
    (runSession_reason henv p h.shutdown)).mono
    ?_ (fun _ _ h' => InRun.reasonsRecorded h'.1 h) fun _ h' => InRun.reasonsRecorded h'.1 h)
  rintro ok w' ⟨hin, hprogress, hreason⟩
  have hin : InRun w w' := hin
  have hchronicle : ∀ f : DaemonState → DaemonState,
      (f w'.st).attemptedProfiles = w'.st.attemptedProfiles ++ [attemptResult p w'.st ok] →
      (f w'.st).progress = w'.st.progress → (f w'.st).shutdown = w'.st.shutdown →
      Chronicle (w'.update f) := by
    intro f hf hf' hf''
    refine ⟨?_, ?_, fun n => ?_, hf''.trans hin.shutdown⟩
    · rw [World.update_trace, World.update_st, hf, hin.attempts, hin.recorded]
      refine h.recorded.record h.length fun hs => (hreason hs).trans ?_
      exact h.progress _
    · simp [hf, hin.attempts, hin.recorded, h.length]
    · simp only [World.update_st, World.update_trace, hf', hprogress, hin.attempts,
        max_le_iff, h.progress n, List.forall_mem_append, List.forall_mem_singleton]
  refine (wp_get_bind _).mpr (wp_ite (fun _ => (wp_modify_bind _ _).mpr ((wp_pure _).mpr ?_))
    fun _ => (wp_pure _).mpr (hchronicle _ rfl rfl rfl))
  exact hchronicle (fun s => { s with
    winningProfile := some p.name
    attemptedProfiles := s.attemptedProfiles ++ [attemptResult p w'.st ok] }) rfl rfl rfl

/-- Clearing fields that are none of the flags, nor the record, keeps the chronicle. -/
theorem Chronicle.update {f : DaemonState → DaemonState} (h : Chronicle w)
    (hf : (f w.st).attemptedProfiles = w.st.attemptedProfiles)
    (hf' : (f w.st).progress = w.st.progress) (hf'' : (f w.st).shutdown = w.st.shutdown) :
    Chronicle (w.update f) :=
  ⟨by rw [World.update_st, hf]; exact h.recorded, by rw [World.update_st, hf]; exact h.length,
    fun n => by rw [World.update_st, hf']; exact h.progress n, hf''.trans h.shutdown⟩

theorem Chronicle.resetSession (h : Chronicle w) : Chronicle w.resetSession := by
  obtain ⟨os, htrace, hos⟩ := World.setClient_obs none w
  have hattempts : attempts (w.setClient none).trace = attempts w.trace := by
    rw [htrace]
    refine attempts_other _ fun o ho => ?_
    obtain ⟨_, _, rfl⟩ := hos o ho
    simp
  have hclient : Chronicle (w.setClient none) := by
    refine ⟨?_, ?_, fun n => ?_, by simpa using h.shutdown⟩
    · rw [hattempts, World.setClient_st]
      exact h.recorded
    · rw [hattempts, World.setClient_st]
      exact h.length
    · rw [hattempts, World.setClient_st]
      exact h.progress n
  exact hclient.update rfl rfl rfl

theorem autoLoop_reasons (henv : NoShutdown env) (names : List String) :
    ∀ {w : World}, Chronicle w → wp env (autoLoop names) (Post.all ReasonsRecorded) w := by
  induction names with
  | nil => exact fun h => (wp_pure _).mpr h.recorded
  | cons name names ih =>
      intro w h
      refine (wp_get_bind _).mpr (wp_ite (fun _ => (wp_pure _).mpr h.recorded) fun _ => ?_)
      refine (wp_modify_bind _ _).mpr ?_
      have hcleared : Chronicle (w.update DaemonState.clearTelemetry) := h.update rfl rfl rfl
      refine (tryProfile_chronicle henv _ hcleared).seq ?_
      intro r w' h'
      refine (wp_modify_bind _ _).mpr (wp_ite (fun _ => (wp_pure _).mpr (Chronicle.recorded h'))
        fun _ => wp_ite (fun _ => ?_) fun _ => ih h')
      exact (wp_modify_bind _ _).mpr (ih (Chronicle.resetSession h'))

/-- **The reasons of auto-detect mode.** Whenever an attempt has failed, the reason recorded for it
describes it exactly if no earlier attempt got further. -/
theorem autoDetectMode_reasons (henv : NoShutdown env) (hshutdown : w.st.shutdown = false)
    (hattempts : attempts w.trace = []) (hrecorded : w.st.attemptedProfiles = [])
    (hflags : ∀ m : Stage, m.flagged → w.st.passed m = false) :
    wp env autoDetectMode (Post.all fun w' =>
      Recorded (attempts w'.trace) w'.st.attemptedProfiles) w := by
  have hnew : Chronicle w := by
    refine ⟨?_, by simp [hattempts, hrecorded], fun n => ?_, hshutdown⟩
    · rw [hrecorded]
      exact fun k r hr => by simp at hr
    · have hzero : w.st.progress = 0 := by
        simp [DaemonState.progress, hflags .scan (.inl rfl), hflags .connect (.inr (.inl rfl)),
          hflags .subscribe (.inr (.inr rfl))]
      simp [hattempts, hzero]
  refine (autoLoop_reasons henv autoProfileOrder hnew).seq fun _ w' h => ?_
  refine (wp_get_bind _).mpr ((wp_modify_bind _ _).mpr ((wp_pure _).mpr ?_))
  show Recorded (attempts (w'.trace ++ [_])) w'.st.attemptedProfiles
  rw [attempts_other _ (by simp)]
  exact h

/-- In the quiet environment every scan fails, and every reason says so. -/
theorem autoDetectMode_reasons_quiet :
    Recorded (attempts (autoDetectMode quietEnv autoStart).2.state.trace)
      (autoDetectMode quietEnv autoStart).2.state.st.attemptedProfiles := by
  have hflags : ∀ m : Stage, m.flagged → autoStart.state.st.passed m = false := by
    rintro m (rfl | rfl | rfl) <;> rfl
  exact (autoDetectMode_reasons (w := autoStart.state) quietEnv_noShutdown rfl rfl rfl hflags).all

/-- A controller without services advertises during the first scan only. -/
def vanishingEnv : DaemonEnv :=
  ⟨fun _ => goodAnswer [], fun
    | 1 => [.advert ⟨"E0:EF:BF:3B:C6:76"⟩ (padAdvert [1, 2, 3, 4, 5, 6])]
    | _ => []⟩

/-- The first attempt connects, and its controller is gone then: the scan of the second one fails,
and its reason is `subscribe failed`. -/
theorem autoDetectMode_staleReason :
    ∃ r a, (autoDetectMode vanishingEnv autoStart).2.state.st.attemptedProfiles[1]? = some r ∧
      (attempts (autoDetectMode vanishingEnv autoStart).2.state.trace)[1]? = some a ∧
      r.success = false ∧ ¬ReasonDescribes a r.failureReason :=
  ⟨⟨"spro2win", profileSpro2win.source, false, some "subscribe failed", 0, none⟩,
    ⟨[(.scan, false)], []⟩, by decide +kernel, by decide +kernel, rfl, by decide⟩

end Switch2Bt
