import Switch2Bt.Await.Watchdog
import Switch2Bt.Daemon.WakeUp

/-!
# The notification watchdog (`switch2d.py`, `run_session`)

The RUNNING loop waits for each report with a fresh timeout of `--notify-timeout` seconds, and ends
when one of its waits times out. `Running` is a RUNNING phase in which reports arrive at given
times; its waits are those of a `Clock`, and the loop ends when the clock's watchdog expires
(`Running.endsByWatchdog_iff`).

`watchdog_iff`: this is when the timeout has passed since the later of entering RUNNING and the last
report, if the timeout is positive. The timeout 0, which the documentation gives for a watchdog that
is off, ends the loop at once.
-/

namespace Switch2Bt

open Await Stream'

/-! ## Statement -/

/-- A report on its way to a client; the pattern says which uinput calls fail. -/
structure Delivery where
  client : ClientId
  report : Notification
  faults : ℕ → Buffered.Fault

/-- The handler of the client is registered, and takes the report. -/
structure World.Accepts (w : World) (d : Delivery) : Prop where
  subscribed : d.client ∈ w.subs
  passes : passesFilter w.st.activeProfile d.report.handle = true

/-- **A RUNNING phase** from the call `start` on, without a limit of the reports and without a
shutdown: the world it is entered in, the accepted reports and their times, and what the environment
answers to other calls. -/
structure Running where
  world : World
  start : ℕ
  clock : Clock ℚ Delivery
  /-- Whether a report comes before a timer that expires at the same moment. -/
  first : ℚ → Bool
  base : DaemonEnv
  noShutdown : world.st.shutdown = false
  noLimit : world.st.args.maxReports = 0
  timeout_nonneg : 0 ≤ world.st.args.notifyTimeout
  timed : clock.Timed
  accepted : ∀ a ∈ clock.pending, world.Accepts a.2

namespace Running

variable (p : Running)

/-- `--notify-timeout` -/
def timeout : ℚ := p.world.st.args.notifyTimeout

/-- The clock at a call. -/
def clockAt (t : ℕ) : Clock ℚ Delivery := (Clock.wait p.first p.timeout)^[t - p.start] p.clock

/-- The environment of the phase. A wait delivers the report that ends it; `wait_for` raises
`TimeoutError` if there is none, with the timeout 0 at once. -/
def env : DaemonEnv where
  answer t
    | .waitNotify timeout => ((p.clockAt t).next p.first timeout).isNone
    | call => p.base.answer t call
  events t := match (p.clockAt t).next p.first p.timeout with
    | some (_, d) => [.notification d.client d.report d.faults]
    | none => []

/-- From the call `t` on, the loop ends at the time `e`, by a wait that times out. -/
def EndsFrom (t : ℕ) (w : World) (e : ℚ) : Prop :=
  ∃ b r last, runningLoop p.env ⟨w, t, b⟩ = (.done (), r) ∧ r.tick = last + 1 ∧
    p.env.answer last (.waitNotify p.timeout) = true ∧ (p.clockAt (last + 1)).now = e

/-- **The loop ends by the watchdog** at the time `e`. -/
def EndsByWatchdog (e : ℚ) : Prop := p.EndsFrom p.start p.world e

/-- At the time `e`, the timeout has passed since the later of entering RUNNING and the last
accepted report, for the first time. -/
def TimeoutPassed (e : ℚ) : Prop := IsLeast {e | p.clock.Elapsed p.first p.timeout e} e

/-! ## The loop -/

variable {p : Running} {t b : ℕ} {w : World} {e : ℚ}

@[simp] theorem clockAt_start : p.clockAt p.start = p.clock := by
  unfold clockAt
  rw [Nat.sub_self]
  rfl

theorem clockAt_succ (ht : p.start ≤ t) :
    p.clockAt (t + 1) = (p.clockAt t).wait p.first p.timeout := by
  unfold clockAt
  rw [Nat.succ_sub ht, Function.iterate_succ_apply']

/-- What the reports leave as it was. -/
structure Ready (p : Running) (w : World) : Prop where
  shutdown : w.st.shutdown = false
  args : w.st.args = p.world.st.args
  subs : w.subs = p.world.subs
  profile : w.st.activeProfile = p.world.st.activeProfile

theorem Ready.clearNotify (h : p.Ready w) : p.Ready w.clearNotify :=
  ⟨h.shutdown, h.args, h.subs, h.profile⟩

theorem Ready.timeout (h : p.Ready w) : w.st.args.notifyTimeout = p.timeout :=
  congrArg Args.notifyTimeout h.args

theorem Ready.accepts (h : p.Ready w) {d : Delivery} (hd : p.world.Accepts d) : w.Accepts d := by
  constructor
  · rw [h.subs]
    exact hd.subscribed
  · rw [h.profile]
    exact hd.passes

/-- The handler sets the event. -/
theorem dispatch_report (h : p.Ready w) {d : Delivery} (hd : w.Accepts d) :
    p.Ready (dispatch (.notification d.client d.report d.faults) w) ∧
      (dispatch (.notification d.client d.report d.faults) w).st.notifyEvent = true := by
  obtain ⟨uinput, jsonl, heq⟩ := acceptReport_eq d.report d.faults w.st
  have hw : dispatch (.notification d.client d.report d.faults) w =
      (w.update (acceptReport d.report d.faults)).emit (.report d.report) := by
    simp only [dispatch, handleReport]
    rw [if_pos hd.subscribed, if_pos hd.passes]
  rw [hw]
  refine ⟨⟨?_, ?_, h.subs, ?_⟩, ?_⟩
  · simpa [heq, DaemonState.countReport] using h.shutdown
  · simpa [heq, DaemonState.countReport] using h.args
  · simpa [heq, DaemonState.countReport] using h.profile
  · simp [heq, DaemonState.countReport]

/-- The reports that are left are accepted. -/
theorem accepted_at (t : ℕ) : ∀ a ∈ (p.clockAt t).pending, p.world.Accepts a.2 := by
  unfold clockAt
  induction t - p.start with
  | zero => exact p.accepted
  | succ n ih =>
      rw [Function.iterate_succ_apply']
      exact fun a ha => ih a (Clock.mem_of_mem_wait ha)

/-- An iteration without a report ends the loop. -/
theorem runningLoop_timeout (h : p.Ready w) (hnext : (p.clockAt t).next p.first p.timeout = none) :
    runningLoop p.env ⟨w, t, b + 1⟩ = (.done (), ⟨w.afterWait p.env t, t + 1, b⟩) := by
  apply runningLoop_leaves h.shutdown
  left
  rw [h.timeout]
  change (((p.clockAt t).next p.first p.timeout).isNone || _) = true
  rw [hnext]
  rfl

/-- After a report the loop goes on. -/
theorem runningLoop_report (h : p.Ready w) {a : ℚ × Delivery}
    (hnext : (p.clockAt t).next p.first p.timeout = some a) (ha : p.world.Accepts a.2) :
    p.Ready (w.afterWait p.env t) ∧ runningLoop p.env ⟨w, t, b + 1⟩ =
      runningLoop p.env ⟨w.afterWait p.env t, t + 1, b⟩ := by
  have hevents : p.env.events t = [.notification a.2.client a.2.report a.2.faults] := by
    change (match (p.clockAt t).next p.first p.timeout with
      | some (_, d) => [Event.notification d.client d.report d.faults]
      | none => []) = _
    rw [hnext]
  have hafter : w.afterWait p.env t =
      dispatch (.notification a.2.client a.2.report a.2.faults) w.clearNotify := by
    unfold World.afterWait
    rw [hevents]
    rfl
  obtain ⟨hready, hset⟩ := dispatch_report h.clearNotify (h.clearNotify.accepts ha)
  rw [hafter]
  refine ⟨hready, ?_⟩
  rw [← hafter] at hready hset ⊢
  apply runningLoop_continues h.shutdown
  rw [h.timeout]
  rintro (hout | ⟨hlimit, -⟩)
  · change (((p.clockAt t).next p.first p.timeout).isNone || _) = true at hout
    rw [hnext, hset] at hout
    cases hout
  · rw [hready.args, p.noLimit] at hlimit
    exact absurd hlimit (lt_irrefl 0)

/-- The loop ends when the watchdog of its clock expires. -/
theorem endsFrom_iff (ht : p.start ≤ t) (h : p.Ready w) :
    p.EndsFrom t w e ↔ (p.clockAt t).Expires p.first p.timeout e := by
  constructor
  · rintro ⟨b, r, last, hrun, hlast, -, rfl⟩
    induction b generalizing t w with
    | zero =>
        rw [runningLoop_suspended h.shutdown] at hrun
        cases hrun
    | succ b ih =>
        rcases hnext : (p.clockAt t).next p.first p.timeout with _ | a
        · rw [runningLoop_timeout h hnext] at hrun
          cases hrun
          obtain rfl : t = last := Nat.succ.inj hlast
          rw [clockAt_succ ht, Clock.wait_of_none hnext]
          exact .timeout hnext
        · have ha : a ∈ (p.clockAt t).pending := Clock.mem_of_next hnext
          obtain ⟨hready, hloop⟩ := runningLoop_report (b := b) h hnext (accepted_at t a ha)
          rw [hloop] at hrun
          apply Clock.Expires.rearm hnext
          rw [← clockAt_succ ht]
          exact ih (Nat.le_succ_of_le ht) hready hrun
  · intro hexpires
    generalize hc : p.clockAt t = c at hexpires
    induction hexpires generalizing t w with
    | timeout hnext =>
        subst hc
        refine ⟨1, _, t, runningLoop_timeout h hnext, rfl, ?_, ?_⟩
        · change ((p.clockAt t).next p.first p.timeout).isNone = true
          rw [hnext]
          rfl
        · rw [clockAt_succ ht, Clock.wait_of_none hnext]
    | rearm hnext _ ih =>
        subst hc
        have ha := accepted_at t _ (Clock.mem_of_next hnext)
        obtain ⟨b, r, last, hrun, hlast⟩ :=
          ih (Nat.le_succ_of_le ht) (runningLoop_report (b := 0) h hnext ha).1 (clockAt_succ ht)
        exact ⟨b + 1, r, last, (runningLoop_report h hnext ha).2.trans hrun, hlast⟩

theorem endsByWatchdog_iff :
    p.EndsByWatchdog e ↔ p.clock.Expires p.first p.timeout e := by
  have hready : p.Ready p.world := ⟨p.noShutdown, rfl, rfl, rfl⟩
  unfold EndsByWatchdog
  rw [endsFrom_iff le_rfl hready, clockAt_start]

end Running

/-- **The RUNNING loop ends by the watchdog** exactly when the timeout has passed since the later of
entering RUNNING and the last report, and never with the timeout 0: this holds exactly if the
timeout is positive. -/
theorem watchdog_iff (p : Running) :
    (∀ e, p.EndsByWatchdog e ↔ 0 < p.timeout ∧ p.TimeoutPassed e) ↔ 0 < p.timeout := by
  constructor
  · intro hclaim
    rcases p.timeout_nonneg.lt_or_eq with hpos | hzero
    · exact hpos
    · -- the timeout 0 expires at once
      have hends : p.EndsByWatchdog p.clock.now := by
        rw [Running.endsByWatchdog_iff, show p.timeout = 0 from hzero.symm, Clock.expires_zero]
      exact ((hclaim p.clock.now).mp hends).1
  · intro hpos e
    rw [Running.endsByWatchdog_iff, Clock.expires_iff hpos p.timed]
    exact (and_iff_right hpos).symm

/-- A phase in which one report arrives after 12 seconds. -/
def Running.oneReport (timeout : ℚ) (h : 0 ≤ timeout) : Running where
  world := { World.new { defaultArgs false true "macos" with
    maxReports := 0
    notifyTimeout := timeout } with subs := [0] }
  start := 0
  clock := ⟨0, Seq.cons (12, ⟨0, padReport, fun _ => .none⟩) Seq.nil⟩
  first _ := true
  base := padEnv fun _ => []
  noShutdown := rfl
  noLimit := rfl
  timeout_nonneg := h
  timed := by
    constructor
    case start =>
      intro a ha
      rcases Seq.mem_cons_iff.mp ha with rfl | hnil
      · norm_num
      · exact absurd hnil (Seq.notMem_nil a)
    case sorted => exact Seq.Pairwise_cons_nil
    case finite =>
      refine fun e => ⟨1, fun m hm a ha => ?_⟩
      obtain ⟨m, rfl⟩ : ∃ k, m = k + 1 := ⟨m - 1, by omega⟩
      rw [Seq.get?_cons_succ, Seq.get?_nil] at ha
      cases ha
  accepted := by
    intro a ha
    rcases Seq.mem_cons_iff.mp ha with rfl | hnil
    · exact ⟨List.mem_singleton_self 0, rfl⟩
    · exact absurd hnil (Seq.notMem_nil a)

/-- With the default timeout the report postpones the end to 42 seconds. -/
example : (Running.oneReport 30 (by norm_num)).EndsByWatchdog 42 := by
  apply Running.endsByWatchdog_iff.mpr
  have hnext : (Running.oneReport 30 (by norm_num)).clock.next (fun _ => true) 30 =
      some (12, ⟨0, padReport, fun _ => .none⟩) :=
    Clock.next_eq_some.mpr ⟨⟨_, rfl⟩, by norm_num, .inl (by norm_num [Running.oneReport])⟩
  apply Clock.Expires.rearm hnext
  have hrest : (Running.oneReport 30 (by norm_num)).clock.wait (fun _ => true) 30 = ⟨12, Seq.nil⟩ :=
    Clock.wait_of_some hnext
  have htimeout : Clock.Expires (fun _ => true) 30 (⟨12, Seq.nil⟩ : Clock ℚ Delivery) (12 + 30) :=
    .timeout rfl
  rw [show (12 : ℚ) + 30 = 42 by norm_num, ← hrest] at htimeout
  exact htimeout

/-- With the timeout 0 the phase ends at once. -/
theorem not_watchdog_zero :
    ¬ ∀ (p : Running) (e : ℚ), p.EndsByWatchdog e ↔ 0 < p.timeout ∧ p.TimeoutPassed e := by
  intro hclaim
  have hends : (Running.oneReport 0 le_rfl).EndsByWatchdog 0 := by
    apply Running.endsByWatchdog_iff.mpr
    exact Clock.expires_zero.mpr rfl
  exact absurd ((hclaim (Running.oneReport 0 le_rfl) 0).mp hends).1 (lt_irrefl 0)

end Switch2Bt
