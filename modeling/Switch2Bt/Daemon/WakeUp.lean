import Switch2Bt.Daemon.Attribution

/-!
# Wake-ups of the RUNNING loop

The RUNNING loop clears the event, waits for it, and compares the report count with the limit. A
report that is counted after the clear sets the event again, so an iteration that starts below the
limit is woken by the report that reaches it (`NoLostWakeUp`).

**No lost wake-up** (`noLostWakeUp_iff`) holds of a run of the loop iff it starts below the limit,
or with the shutdown flag set: the loop compares only after a wait, so the first clear loses the
wake-up of reports that came while the stages were still running.
-/

namespace Switch2Bt

open Await

variable {env : DaemonEnv} {w : World} {t b : ℕ}

/-! ## One iteration -/

/-- The world an iteration waits in. -/
def World.clearNotify (w : World) : World := w.update fun s => { s with notifyEvent := false }

/-- The world an iteration waits in, once the events of the await are delivered. -/
def World.afterWait (env : DaemonEnv) (t : ℕ) (w : World) : World :=
  (env.events t).foldl (fun w e => dispatch e w) w.clearNotify

/-- Fewer reports than the limit have been counted. -/
def World.BelowLimit (w : World) : Prop := w.st.reportCount < w.st.args.maxReports

/-- Whether an iteration leaves the loop after its wait. -/
def World.LeavesLoop (timedOut : Bool) (w : World) : Prop :=
  (timedOut || !w.st.notifyEvent) = true ∨
    (0 < w.st.args.maxReports ∧ ¬w.BelowLimit)

instance (w : World) : Decidable w.BelowLimit := inferInstanceAs (Decidable (_ < _))

instance (timedOut : Bool) (w : World) : Decidable (w.LeavesLoop timedOut) :=
  inferInstanceAs (Decidable (_ ∨ _))

/-- An iteration with the shutdown flag set leaves the loop. -/
theorem runningStep_shutdown (h : w.st.shutdown = true) :
    runningStep env ⟨w, t, b⟩ = (.done (.inr ()), ⟨w, t, b⟩) := by
  unfold runningStep
  rw [Coro.bind_run_done (Coro.get_run _ _), if_pos h]
  rfl

/-- An iteration whose wait does not complete. -/
theorem runningStep_suspended (h : w.st.shutdown = false) :
    runningStep env ⟨w, t, 0⟩ = (.suspended, ⟨w.afterWait env t, t + 1, 0⟩) := by
  unfold runningStep
  rw [Coro.bind_run_done (Coro.get_run _ _), if_neg (by simp [h])]
  rfl

/-- An iteration whose wait completes. -/
theorem runningStep_waited (h : w.st.shutdown = false) :
    runningStep env ⟨w, t, b + 1⟩ =
      (.done (if (w.afterWait env t).LeavesLoop
          (env.answer t (.waitNotify w.st.args.notifyTimeout)) then .inr () else .inl ()),
        ⟨w.afterWait env t, t + 1, b⟩) := by
  have hloop : runningStep env ⟨w, t, b + 1⟩ =
      (if (env.answer t (.waitNotify w.st.args.notifyTimeout) ||
          !(w.afterWait env t).st.notifyEvent) = true then pure (.inr ())
        else if 0 < (w.afterWait env t).st.args.maxReports ∧
            (w.afterWait env t).st.args.maxReports ≤ (w.afterWait env t).st.reportCount then
          pure (.inr ())
        else pure (.inl ()) : Daemon (Unit ⊕ Unit)) env ⟨w.afterWait env t, t + 1, b⟩ := by
    unfold runningStep
    rw [Coro.bind_run_done (Coro.get_run _ _), if_neg (by simp [h])]
    rfl
  rw [hloop]
  by_cases hwake : (env.answer t (.waitNotify w.st.args.notifyTimeout) ||
      !(w.afterWait env t).st.notifyEvent) = true
  · have hleave : (w.afterWait env t).LeavesLoop
        (env.answer t (.waitNotify w.st.args.notifyTimeout)) := .inl hwake
    rw [if_pos hwake, if_pos hleave]
    rfl
  rw [if_neg hwake]
  by_cases hmax : 0 < (w.afterWait env t).st.args.maxReports ∧
      (w.afterWait env t).st.args.maxReports ≤ (w.afterWait env t).st.reportCount
  · have hleave : (w.afterWait env t).LeavesLoop
        (env.answer t (.waitNotify w.st.args.notifyTimeout)) := .inr ⟨hmax.1, not_lt.mpr hmax.2⟩
    rw [if_pos hmax, if_pos hleave]
    rfl
  · have hstay : ¬(w.afterWait env t).LeavesLoop
        (env.answer t (.waitNotify w.st.args.notifyTimeout)) :=
      not_or.mpr ⟨hwake, fun h => hmax ⟨h.1, not_lt.mp h.2⟩⟩
    rw [if_neg hmax, if_neg hstay]
    rfl

/-- An iteration that continues has waited. -/
theorem runningStep_consumes : Coro.Consumes runningStep := by
  rintro env ⟨w, t, b⟩ j r' h
  by_cases hs : w.st.shutdown = true
  · rw [runningStep_shutdown hs] at h
    cases h
  · have hs : w.st.shutdown = false := by simpa using hs
    rcases b with _ | b
    · rw [runningStep_suspended hs] at h
      cases h
    · rw [runningStep_waited hs, Prod.mk.injEq] at h
      rw [← h.2]
      exact Nat.lt_succ_self b

/-! ## Runs of the loop -/

theorem runningLoop_eq :
    runningLoop = runningStep >>= fun x => x.elim (fun _ => runningLoop) pure := by
  conv_lhs => unfold runningLoop; rw [Coro.loop_eq fun _ => runningStep_consumes]
  congr 1
  funext x
  rcases x with ⟨⟩ | ⟨⟩
  · rfl
  · rfl

theorem runningLoop_shutdown (h : w.st.shutdown = true) :
    runningLoop env ⟨w, t, b⟩ = (.done (), ⟨w, t, b⟩) := by
  rw [runningLoop_eq, Coro.bind_run_done (runningStep_shutdown h)]
  rfl

theorem runningLoop_suspended (h : w.st.shutdown = false) :
    runningLoop env ⟨w, t, 0⟩ = (.suspended, ⟨w.afterWait env t, t + 1, 0⟩) := by
  rw [runningLoop_eq, Coro.bind_run, runningStep_suspended h]

theorem runningLoop_leaves (h : w.st.shutdown = false)
    (hleave : (w.afterWait env t).LeavesLoop
      (env.answer t (.waitNotify w.st.args.notifyTimeout))) :
    runningLoop env ⟨w, t, b + 1⟩ = (.done (), ⟨w.afterWait env t, t + 1, b⟩) := by
  rw [runningLoop_eq, Coro.bind_run_done (runningStep_waited h), if_pos hleave]
  rfl

theorem runningLoop_continues (h : w.st.shutdown = false)
    (hleave : ¬(w.afterWait env t).LeavesLoop
      (env.answer t (.waitNotify w.st.args.notifyTimeout))) :
    runningLoop env ⟨w, t, b + 1⟩ = runningLoop env ⟨w.afterWait env t, t + 1, b⟩ := by
  conv_lhs => rw [runningLoop_eq, Coro.bind_run_done (runningStep_waited h), if_neg hleave]
  rfl

/-- What happens while an iteration waits: the limit stays, and the event is set if a report was
counted. -/
theorem afterWait_spec (env : DaemonEnv) (t : ℕ) (w : World) :
    (w.afterWait env t).st.args = w.st.args ∧ ((w.afterWait env t).st.notifyEvent = true ∨
      (w.afterWait env t).st.reportCount = w.st.reportCount) := by
  have hstep : ∀ w₁ w₂, Effect env .preflight w₁ w₂ →
      w₁.st.args = w.st.args ∧ (w₁.st.notifyEvent = true ∨ w₁.st.reportCount = w.st.reportCount) →
      w₂.st.args = w.st.args ∧
        (w₂.st.notifyEvent = true ∨ w₂.st.reportCount = w.st.reportCount) := by
    intro w₁ w₂ he hw
    cases he with
    | report => exact ⟨hw.1, .inl rfl⟩
    | _ => exact hw
  refine foldl_dispatch (I := fun w' : World => w'.st.args = w.st.args ∧
    (w'.st.notifyEvent = true ∨ w'.st.reportCount = w.st.reportCount)) ?_ ⟨rfl, .inr rfl⟩
  intro e he w' hw'
  rcases dispatch_effect .preflight he w' with heq | heff
  · rw [heq]
    exact hw'
  · exact hstep _ _ heff hw'

/-! ## No lost wake-up -/

/-- No wake-up is lost in the runs of the RUNNING loop that start in `w` at tick `t`: the loop
blocks below the limit only, and once the limit is reached the event is set and the wait ends the
loop. -/
structure NoLostWakeUp (env : DaemonEnv) (w : World) (t : ℕ) : Prop where
  below : ∀ w', Blocks env runningLoop w t w' → w'.BelowLimit
  wakes : ∀ b w' t', runningLoop env ⟨w, t, b⟩ = (.suspended, ⟨w', t', 0⟩) → ¬w'.BelowLimit →
    w'.st.notifyEvent = true ∧ ∃ r, runningLoop env ⟨w, t, b + 1⟩ = (.done (), r)

/-- `w₁` at tick `t₁` is the start of an iteration, below the limit, in the runs from `w` at tick
`t` that complete `b` awaits before it. -/
structure IterationStart (env : DaemonEnv) (w : World) (t b : ℕ) (w₁ : World) (t₁ : ℕ) : Prop where
  limit : 0 < w₁.st.args.maxReports
  below : w₁.BelowLimit
  going : w₁.st.shutdown = false
  run : ∀ b', runningLoop env ⟨w, t, b + b'⟩ = runningLoop env ⟨w₁, t₁, b'⟩

/-- A loop that starts below the limit is blocked in an iteration that started below it. -/
theorem runningLoop_blocked (hmax : 0 < w.st.args.maxReports)
    (hw : w.st.shutdown = true ∨ w.BelowLimit) {r : Run World}
    (h : runningLoop env ⟨w, t, b⟩ = (.suspended, r)) :
    ∃ w₁ t₁, IterationStart env w t b w₁ t₁ ∧ r = ⟨w₁.afterWait env t₁, t₁ + 1, 0⟩ := by
  have hs : w.st.shutdown = false := by
    by_contra hs
    rw [runningLoop_shutdown (by simpa using hs)] at h
    cases h
  have hbelow : w.BelowLimit := hw.resolve_left (by simp [hs])
  induction b generalizing w t with
  | zero =>
      rw [runningLoop_suspended hs] at h
      cases h
      exact ⟨w, t, ⟨hmax, hbelow, hs, fun b' => by rw [Nat.zero_add]⟩, rfl⟩
  | succ b ih =>
      by_cases hleave : (w.afterWait env t).LeavesLoop
          (env.answer t (.waitNotify w.st.args.notifyTimeout))
      · rw [runningLoop_leaves hs hleave] at h
        cases h
      rw [runningLoop_continues hs hleave] at h
      have hmax' : 0 < (w.afterWait env t).st.args.maxReports :=
        (afterWait_spec env t w).1 ▸ hmax
      have hbelow' : (w.afterWait env t).BelowLimit := by
        by_contra hreached
        exact hleave (.inr ⟨hmax', hreached⟩)
      have hs' : (w.afterWait env t).st.shutdown = false := by
        by_contra hs'
        rw [runningLoop_shutdown (by simpa using hs')] at h
        cases h
      obtain ⟨w₁, t₁, hstart, hr⟩ := ih hmax' (.inr hbelow') h hs' hbelow'
      refine ⟨w₁, t₁, ⟨hstart.limit, hstart.below, hstart.going, fun b' => ?_⟩, hr⟩
      rw [← hstart.run, Nat.add_right_comm, runningLoop_continues hs hleave]

/-- A loop that starts below the limit loses no wake-up. -/
theorem noLostWakeUp (hmax : 0 < w.st.args.maxReports)
    (hw : w.st.shutdown = true ∨ w.BelowLimit) : NoLostWakeUp env w t where
  below := by
    rintro w' ⟨n, b, h⟩
    obtain ⟨w₁, t₁, hstart, hr⟩ := runningLoop_blocked hmax hw h
    cases hr
    -- nothing is delivered in this await
    simpa [World.afterWait, World.clearNotify, World.BelowLimit] using hstart.below
  wakes := by
    intro b w' t' h hreached
    obtain ⟨w₁, t₁, hstart, hr⟩ := runningLoop_blocked hmax hw h
    cases hr
    obtain ⟨hargs, hset⟩ := afterWait_spec env t₁ w₁
    constructor
    · apply hset.resolve_right
      intro hcount
      apply hreached
      unfold World.BelowLimit
      rw [hargs, hcount]
      exact hstart.below
    · refine ⟨⟨w₁.afterWait env t₁, t₁ + 1, 0⟩, ?_⟩
      rw [hstart.run 1]
      exact runningLoop_leaves hstart.going (.inr ⟨hargs ▸ hstart.limit, hreached⟩)

/-! ## Sessions -/

/-- The run of the stages of a session. -/
def stagesRun (env : DaemonEnv) (profile : Option ProtocolProfile) (start : Run World) :
    Outcome PyErr (Option Bool) × Run World :=
  runStages (sessionStages (start.state.startSession profile).st.activeProfile) env
    ⟨start.state.startSession profile, start.tick, start.budget⟩

/-- What a session does after the RUNNING loop.
Source: `switch2d.py` `run_session` (end) -/
def endSession : Daemon Bool := do
  cleanupClient
  let w ← Coro.get
  pure (decide (0 < w.st.reportCount))

/-- The RUNNING loop starts where the stages end. -/
theorem runSession_eq_runningLoop {profile : Option ProtocolProfile} {start : Run World}
    (h : (stagesRun env profile start).1 = .done none) :
    runSession profile env start =
      (runningLoop >>= fun _ => endSession) env (stagesRun env profile start).2 := by
  have hrun : runStages (sessionStages (start.state.startSession profile).st.activeProfile) env
      ⟨start.state.startSession profile, start.tick, start.budget⟩ =
      (.done none, (stagesRun env profile start).2) := Prod.ext h rfl
  unfold runSession
  rw [Coro.bind_run_done (Coro.modify_run _ _ _), Coro.bind_run_done (Coro.get_run _ _)]
  rw [Coro.bind_run_done hrun]
  rfl

/-- The stages leave the command line alone. -/
theorem stagesRun_args (env : DaemonEnv) (profile : Option ProtocolProfile) (start : Run World) :
    (stagesRun env profile start).2.state.st.args = start.state.st.args := by
  have hreach : SessionReach env (start.state.startSession profile)
      (stagesRun env profile start).2.state :=
    (runStages_session _ (sessionStages_reach _)).run .refl
  have hstart : (start.state.startSession profile).st.args = start.state.st.args := by
    rw [World.startSession_st]
    rfl
  refine hreach.invariant (I := fun w => w.st.args = start.state.st.args) ?_ hstart
  intro w w' hs hw
  rw [← hw]
  cases hs with
  | effect he => cases he <;> simp [DaemonState.countReport]
  | stageDone => rfl
  | interrupted => rfl

/-- No wake-up is lost in a session, should its stages end well. -/
def SessionNoLostWakeUp (env : DaemonEnv) (profile : Option ProtocolProfile) (start : Run World) :
    Prop :=
  (stagesRun env profile start).1 = .done none →
    NoLostWakeUp env (stagesRun env profile start).2.state (stagesRun env profile start).2.tick

/-- **No lost wake-up**: a session loses no wake-up of its RUNNING loop iff, when its stages have
ended well, fewer reports than the limit have been counted or the shutdown flag is set.
Source: `switch2d.py` `run_session` (RUNNING loop) -/
theorem sessionNoLostWakeUp_iff (env : DaemonEnv) (profile : Option ProtocolProfile)
    (start : Run World) (hmax : 0 < start.state.st.args.maxReports) :
    SessionNoLostWakeUp env profile start ↔ ((stagesRun env profile start).1 = .done none →
      (stagesRun env profile start).2.state.st.shutdown = true ∨
        (stagesRun env profile start).2.state.BelowLimit) := by
  rw [← stagesRun_args env profile start] at hmax
  unfold SessionNoLostWakeUp
  generalize (stagesRun env profile start).2 = r at hmax ⊢
  apply forall_congr'
  intro _
  constructor
  · intro h
    by_cases hs : r.state.st.shutdown = true
    · exact .inl hs
    · refine .inr (h.below r.state.clearNotify ⟨r.tick, 0, ?_⟩)
      rw [runningLoop_suspended (by simpa using hs)]
      simp [World.afterWait]
  · exact noLostWakeUp hmax

/-- A controller that sends its first report while `start_notify` is still awaited. -/
def earlyReportEnv : DaemonEnv := padEnv fun
  | 1 => [.advert ⟨"E0:EF:BF:3B:C6:76"⟩ (padAdvert [1, 2, 3, 4, 5, 6])]
  | 5 => [.notification 0 padReport fun _ => .none]
  | _ => []

/-- A session with the given limit, at its start. -/
def limitStart (maxReports : ℤ) : Run World :=
  ⟨World.new { defaultArgs false false "macos" with maxReports := maxReports }, 0, 20⟩

/-- With a limit of two reports, the early one is no harm. -/
theorem sessionNoLostWakeUp_two : SessionNoLostWakeUp earlyReportEnv none (limitStart 2) :=
  (sessionNoLostWakeUp_iff earlyReportEnv none (limitStart 2) (by decide)).mpr fun _ =>
    .inr (by decide +kernel)

/-- With a limit of one report, the loop blocks although the session has counted one. -/
theorem not_sessionNoLostWakeUp_one :
    ¬SessionNoLostWakeUp earlyReportEnv none (limitStart 1) := by
  rw [sessionNoLostWakeUp_iff earlyReportEnv none (limitStart 1) (by decide)]
  intro h
  have hstages : (stagesRun earlyReportEnv none (limitStart 1)).1 = .done none := by
    decide +kernel
  have hstate : ¬((stagesRun earlyReportEnv none (limitStart 1)).2.state.st.shutdown = true ∨
      (stagesRun earlyReportEnv none (limitStart 1)).2.state.BelowLimit) := by
    decide +kernel
  exact hstate (h hstages)

end Switch2Bt
