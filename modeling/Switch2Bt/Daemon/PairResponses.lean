import Switch2Bt.Await.Trace
import Switch2Bt.Daemon.Effects

/-!
# Responses to the pair sequence (`switch2d.py`, `stage_pair`)

The responses are collected in one list. `stage_pair` counts those that came since the sequence
began and reports the newest of them for the step it just wrote. So a step without a response is
given the response of an earlier step, if there was one: the reports are right exactly when no step
that was answered is followed by one that was not (`pairAttribution_iff`).

* `pairStep` is one turn of the loop; the window of a step is what was collected between its write
  and the next (`StepRecord`).
* `stepLog` is the record of a run of the loop, `pairLog` that of a run of `stage_pair`; it holds
  every report that the run makes (`stagePair_reports`).
-/

namespace Switch2Bt

open Await

/-! ## Steps -/

/-- One turn of the loop: write the frame, wait for the response.
Source: `switch2d.py` `stage_pair` (loop body) -/
def pairStep (uuid : Option String) (base : ℕ) (step : PairStep) : Daemon Bool := do
  let payload ← Coro.ofExcept (buildCommand pairCmd step.subId step.data)
  match ← writeGattChar uuid payload with
  | .error _ => do
      updateSt fun s => { s with pairFailureStep := some step.name }
      pure false
  | .ok _ => do
      awaitPairResponse base step
      pure true

theorem pairLoop_cons (uuid : Option String) (base : ℕ) (step : PairStep) (steps : List PairStep) :
    pairLoop uuid base (step :: steps) = (do
      if ← pairStep uuid base step then pairLoop uuid base steps else pure false) := by
  unfold pairStep
  rw [pairLoop]
  simp only [bind_assoc]
  refine bind_congr fun payload => bind_congr fun written => ?_
  rcases written with e | _
  · rfl
  · simp only [bind_assoc, pure_bind, if_true]

/-- The response reported for a step, under the step's name. -/
def Obs.pairReport : Obs → Option (String × Option String)
  | .pairResponse step latest => some (step, latest)
  | _ => none

/-- What happened in a turn of the loop. -/
structure StepRecord where
  step : String
  /-- The responses collected after the write of the step, before the next. -/
  window : List String
  /-- The reports made. -/
  reports : List (String × Option String)
deriving DecidableEq, Repr

/-- What is reported came in the window, and nothing is reported exactly when nothing came. -/
def StepRecord.Right (record : StepRecord) : Prop :=
  ∀ report ∈ record.reports, report.1 = record.step ∧
    (∀ text ∈ report.2, text ∈ record.window) ∧ (report.2 = none ↔ record.window = [])

instance (record : StepRecord) : Decidable record.Right :=
  inferInstanceAs (Decidable (∀ report ∈ record.reports, _))

/-- The turn of the loop between two moments. -/
def StepRecord.between (step : PairStep) (w w' : World) : StepRecord where
  step := step.name
  window := w'.st.pairResponses.drop w.st.pairResponses.length
  reports := seenSince Obs.pairReport w.trace w'.trace

/-- The turns of the loop that a run completes. -/
def stepLog (env : DaemonEnv) (uuid : Option String) (base : ℕ) :
    List PairStep → Run World → List StepRecord
  | [], _ => []
  | step :: steps, r =>
      match pairStep uuid base step env r with
      | (.done true, r') => .between step r.state r'.state :: stepLog env uuid base steps r'
      | _ => []

/-! ## What a turn does -/

/-- Responses may have been collected; none was reported. -/
structure Collects (w₀ w : World) : Prop where
  responses : w₀.st.pairResponses <+: w.st.pairResponses
  subscribed : w.st.commandResponseSubscribed = w₀.st.commandResponseSubscribed
  trace : w₀.trace <+: w.trace
  reports : seenSince Obs.pairReport w₀.trace w.trace = []

section collects

variable {env : DaemonEnv} {w₀ w : World}

theorem Collects.refl (w : World) : Collects w w :=
  ⟨List.prefix_refl _, rfl, List.prefix_refl _, seenSince_self⟩

/-- An update that collects, and an observation that is no report. -/
theorem Collects.step {w' : World} {o : Obs} (h : Collects w₀ w)
    (hresp : w.st.pairResponses <+: w'.st.pairResponses)
    (hsub : w'.st.commandResponseSubscribed = w.st.commandResponseSubscribed)
    (htrace : w'.trace = w.trace) (ho : o.pairReport = none) : Collects w₀ (w'.emit o) := by
  refine ⟨h.responses.trans hresp, hsub.trans h.subscribed, ?_, ?_⟩
  · rw [World.emit_trace, htrace]
    exact h.trace.trans (List.prefix_append _ _)
  · rw [World.emit_trace, htrace, seenSince_snoc h.trace, h.reports, ho]
    rfl

/-- What a callback does. -/
theorem Collects.effect {w' : World} (he : Effect env .preflight w w') (h : Collects w₀ w) :
    Collects w₀ w' := by
  cases he with
  | shutdown _ => exact ⟨h.responses, h.subscribed, h.trace, h.reports⟩
  | report n uinput jsonl _ => exact h.step (List.prefix_refl _) rfl rfl rfl
  | response hex =>
      exact ⟨h.responses.trans (List.prefix_append _ _), h.subscribed, h.trace, h.reports⟩
  | advert device adv scan raw mac pairing toHost toOther =>
      exact h.step (List.prefix_refl _) rfl rfl rfl
  | linkLost client => exact h.step (List.prefix_refl _) rfl rfl rfl

theorem awaitCall_collects (c : Call) : Always env (Collects w₀) (awaitCall c) :=
  awaitCall_always (fun _ _ he h => h.effect he) c

theorem writeGattChar_collects (uuid : Option String) (payload : Octets) :
    Always env (Collects w₀) (writeGattChar uuid payload) := by
  have hcall : Always env (Collects w₀)
      (withClient fun id => awaitCall (.writeGattChar id uuid payload)) := by
    refine Always.read fun w _ => ?_
    split
    · exact Always.pure _
    · exact awaitCall_collects _
  refine hcall.bind fun written => ?_
  exact (Always.modify fun w h => h.step (List.prefix_refl _) rfl rfl rfl).bind fun _ =>
    Always.pure _

/-- What is reported for a step when these responses were collected. -/
def latestOf (base : ℕ) (responses : List String) : Option String :=
  if responses.length - base = 0 then none else responses.getLast?

/-- A step was written and, if the responses are subscribed to, reported. -/
structure Reported (base : ℕ) (step : PairStep) (w₀ w : World) : Prop where
  responses : w₀.st.pairResponses <+: w.st.pairResponses
  subscribed : w.st.commandResponseSubscribed = w₀.st.commandResponseSubscribed
  trace : w₀.trace <+: w.trace
  reports : seenSince Obs.pairReport w₀.trace w.trace =
    if w₀.st.commandResponseSubscribed then [(step.name, latestOf base w.st.pairResponses)] else []

/-- The report. -/
theorem Collects.report {step : PairStep} {base : ℕ} (h : Collects w₀ w)
    (hsub : w₀.st.commandResponseSubscribed = true) :
    Reported base step w₀
      (w.emit (.pairResponse step.name (latestOf base w.st.pairResponses))) := by
  refine ⟨h.responses, h.subscribed, h.trace.trans (List.prefix_append _ _), ?_⟩
  rw [World.emit_trace, seenSince_snoc h.trace, h.reports, if_pos hsub]
  rfl

/-- The wait for the response. -/
theorem awaitPairResponse_reported (base : ℕ) (step : PairStep) (h : Collects w₀ w) :
    wp env (awaitPairResponse base step)
      ⟨fun _ => Reported base step w₀, fun _ _ => False, Collects w₀⟩ w := by
  refine (wp_get_bind _).mpr (wp_ite (fun hsub => ?_) fun hsub => ?_)
  · have hsub₀ : w₀.st.commandResponseSubscribed = true := h.subscribed ▸ hsub
    refine wp_await_bind (Collects w₀) (fun _ _ he _ h => ?_) h (fun _ h => h) fun _ w h => ?_
    · exact (dispatch_effect .preflight he _).elim (fun heq => heq.symm ▸ h) fun he => h.effect he
    · have hreport : Reported base step w₀
          (w.emit (.pairResponse step.name (latestOf base w.st.pairResponses))) := h.report hsub₀
      refine (wp_get_bind _).mpr (wp_ite (fun hnone => ?_) fun hsome => ?_)
      · rw [latestOf, if_pos hnone] at hreport
        exact (wp_modify _ _).mpr hreport
      · rw [latestOf, if_neg hsome] at hreport
        exact (wp_modify _ _).mpr hreport
  · have hsub₀ : ¬w₀.st.commandResponseSubscribed = true := h.subscribed ▸ hsub
    refine wp_await_bind (Collects w₀) (fun _ _ he _ h => ?_) h (fun _ h => h) fun _ w h => ?_
    · exact (dispatch_effect .preflight he _).elim (fun heq => heq.symm ▸ h) fun he => h.effect he
    · exact (wp_pure _).mpr ⟨h.responses, h.subscribed, h.trace,
        h.reports.trans (if_neg hsub₀).symm⟩

/-- A turn of the loop: the step is written and reported, or nothing is reported. -/
theorem wp_pairStep (uuid : Option String) (base : ℕ) (step : PairStep) (w : World) :
    wp env (pairStep uuid base step)
      ⟨fun ok w' => if ok then Reported base step w w' else Collects w w',
        fun _ => Collects w, Collects w⟩ w := by
  refine wp_ofExcept_bind (fun payload _ => ?_) fun _ _ => Collects.refl w
  refine wp_bind ((writeGattChar_collects uuid payload w (Collects.refl w)).mono
    (fun written w' h => ?_) (fun _ _ h => h) fun _ h => h)
  rcases written with e | _
  · exact (wp_modify_bind _ _).mpr
      ((wp_pure _).mpr ⟨h.responses, h.subscribed, h.trace, h.reports⟩)
  · refine wp_bind ((awaitPairResponse_reported base step h).mono (fun _ w'' h => ?_)
      (fun _ _ h => h.elim) fun _ h => h)
    exact (wp_pure _).mpr h

end collects

/-! ## When the reports are right -/

/-- A completed turn. -/
theorem pairStep_reported {env : DaemonEnv} {uuid : Option String} {base : ℕ} {step : PairStep}
    {r r' : Run World} (h : pairStep uuid base step env r = (.done true, r')) :
    Reported base step r.state r'.state := by
  have hwp : wp env (pairStep uuid base step) _ r.state := wp_pairStep uuid base step r.state
  have hdone := hwp.done (congrArg Prod.fst h)
  rw [h] at hdone
  exact hdone

/-- The newest response is one of the window, and none exactly when the window is empty, unless the
window is empty and older responses are counted. -/
theorem latestOf_window {base : ℕ} {older window : List String} (hbase : base ≤ older.length) :
    ((∀ text ∈ latestOf base (older ++ window), text ∈ window) ∧
      (latestOf base (older ++ window) = none ↔ window = [])) ↔
    (base < older.length → window ≠ []) := by
  unfold latestOf
  rw [List.length_append]
  rcases hwindow : window with _ | ⟨text, texts⟩
  · rw [List.append_nil, List.length_nil, Nat.add_zero]
    by_cases holder : base < older.length
    · have hne : older ≠ [] := fun hnil => by
        rw [hnil, List.length_nil] at holder
        omega
      rw [if_neg (by omega), List.getLast?_eq_some_getLast hne]
      simp [holder]
    · rw [if_pos (by omega)]
      simp [holder]
  · rw [if_neg (by rw [List.length_cons]; omega), List.getLast?_append_of_ne_nil _ (by simp)]
    refine ⟨fun _ _ => by simp, fun _ => ⟨fun last hlast => List.mem_of_getLast? hlast, ?_⟩⟩
    simp

/-- The report of a turn is right unless older responses are counted and no new one came. -/
theorem Reported.right_iff {base : ℕ} {step : PairStep} {w w' : World}
    (h : Reported base step w w') (hbase : base ≤ w.st.pairResponses.length) :
    (StepRecord.between step w w').Right ↔ (w.st.commandResponseSubscribed = true →
      base < w.st.pairResponses.length → (StepRecord.between step w w').window ≠ []) := by
  unfold StepRecord.Right StepRecord.between
  simp only [h.reports]
  by_cases hsub : w.st.commandResponseSubscribed = true
  · obtain ⟨window, hwindow⟩ := h.responses
    rw [if_pos hsub, ← hwindow, List.drop_left, List.forall_mem_singleton]
    simp only [hsub, true_and, forall_const]
    exact latestOf_window hbase
  · rw [if_neg hsub]
    simp [hsub]

/-- No step that was answered is followed by one that was not. -/
def AnswersLast (records : List StepRecord) : Prop :=
  records.Pairwise fun a b => a.window ≠ [] → b.window ≠ []

instance (records : List StepRecord) : Decidable (AnswersLast records) :=
  inferInstanceAs (Decidable (List.Pairwise _ _))

/-- The loop, when responses that came since the sequence began may have been collected. -/
theorem stepLog_right_iff (env : DaemonEnv) (uuid : Option String) (base : ℕ)
    (steps : List PairStep) : ∀ r : Run World, base ≤ r.state.st.pairResponses.length →
      ((∀ record ∈ stepLog env uuid base steps r, record.Right) ↔
        (r.state.st.commandResponseSubscribed = true →
          AnswersLast (stepLog env uuid base steps r) ∧
          (base < r.state.st.pairResponses.length →
            ∀ record ∈ stepLog env uuid base steps r, record.window ≠ []))) := by
  induction steps with
  | nil => exact fun r _ => ⟨fun _ _ => ⟨List.Pairwise.nil, fun _ => nofun⟩, fun _ => nofun⟩
  | cons step steps ih =>
      intro r hbase
      rw [stepLog]
      rcases hstep : pairStep uuid base step env r with ⟨(_ | _) | _ | _, r'⟩
      · exact ⟨fun _ _ => ⟨List.Pairwise.nil, fun _ => nofun⟩, fun _ => nofun⟩
      · have hrep := pairStep_reported hstep
        obtain ⟨window, hwindow⟩ := hrep.responses
        have hlen : r'.state.st.pairResponses.length =
            r.state.st.pairResponses.length + window.length := by
          rw [← hwindow, List.length_append]
        have hbetween : (StepRecord.between step r.state r'.state).window = window := by
          rw [StepRecord.between, ← hwindow, List.drop_left]
        have htail := ih r' (by omega)
        have hpos : window.length ≠ 0 ↔ window ≠ [] := not_congr List.length_eq_zero_iff
        rw [hrep.subscribed, hlen] at htail
        simp only [List.forall_mem_cons, hrep.right_iff hbase, htail, AnswersLast,
          List.pairwise_cons,
          hbetween]
        constructor
        · rintro ⟨hhead, hrest⟩ hsub
          obtain ⟨hpairwise, hlater⟩ := hrest hsub
          refine ⟨⟨fun record hmem hne => ?_, hpairwise⟩, fun hlt => ⟨hhead hsub hlt, ?_⟩⟩
          · have hnew := hpos.mpr hne
            exact hlater (by omega) record hmem
          · exact hlater (by omega)
        · intro h
          refine ⟨fun hsub hlt => ((h hsub).2 hlt).1, fun hsub => ⟨(h hsub).1.2, ?_⟩⟩
          intro hlt record hmem
          by_cases holder : base < r.state.st.pairResponses.length
          · exact ((h hsub).2 holder).2 record hmem
          · -- the responses counted are those of this window
            have hnew : window.length ≠ 0 := by omega
            exact (h hsub).1.1 record hmem (hpos.mp hnew)
      · exact ⟨fun _ _ => ⟨List.Pairwise.nil, fun _ => nofun⟩, fun _ => nofun⟩
      · exact ⟨fun _ _ => ⟨List.Pairwise.nil, fun _ => nofun⟩, fun _ => nofun⟩

/-! ## The stage -/

/-- Where `stage_pair` enters its loop, if it does: the steps, and the run at that moment.
Source: `switch2d.py` `stage_pair` (up to the loop) -/
def pairStart (env : DaemonEnv) (r : Run World) : Option (List PairStep × Run World) :=
  if r.state.st.activeProfile.pairs then
    let hostMac := env.answer r.tick .hostMac
    if falsyText hostMac || falsyHandle r.state.st.cmdWriteHandle then none
    else
      match buildSetmacPayload (hostMac.getD "") with
      | .error _ => none
      | .ok setmac => some (pairSteps setmac,
          ⟨r.state.update fun s => { s with hostMac := hostMac }, r.tick + 1, r.budget⟩)
  else none

/-- The turns of the loop that a run of `stage_pair` completes. -/
def pairLog (env : DaemonEnv) (r : Run World) : List StepRecord :=
  match pairStart env r with
  | none => []
  | some (steps, r') => stepLog env r.state.st.activeProfile.commandUuid
      r'.state.st.pairResponses.length steps r'

/-- What `stage_pair` does once it knows the host address. -/
def pairRest (uuid : Option String) (base : ℕ) (steps : List PairStep) : Daemon Bool := do
  if ← pairLoop uuid base steps then
    updateSt fun s => { s with pairSequenceOk := true }
    pure true
  else pure false

/-- A run of `stage_pair` either enters the loop, or reports nothing. -/
theorem stagePair_run (env : DaemonEnv) (r : Run World) :
    match pairStart env r with
    | none => Collects r.state (stagePair env r).2.state
    | some (steps, r') => Collects r.state r'.state ∧ stagePair env r =
        pairRest r.state.st.activeProfile.commandUuid r'.state.st.pairResponses.length
          steps env r' := by
  have hkeep : ∀ w : World, w.st.pairResponses = r.state.st.pairResponses →
      w.st.commandResponseSubscribed = r.state.st.commandResponseSubscribed →
      w.trace = r.state.trace → Collects r.state w := fun w hresp hsub htrace =>
    ⟨hresp ▸ List.prefix_refl _, hsub, htrace ▸ List.prefix_refl _, htrace ▸ seenSince_self⟩
  by_cases hpairs : r.state.st.activeProfile.pairs = true
  · have hbody : stagePair env r = (do
        if falsyText (env.answer r.tick .hostMac) then
          updateSt fun s => { s with pairFailureStep := some "host_mac" }
          pure false
        else if falsyHandle r.state.st.cmdWriteHandle then
          updateSt fun s => { s with pairFailureStep := some "no_cmd_handle" }
          pure false
        else pairSequence r.state.st.activeProfile ((env.answer r.tick .hostMac).getD "") :
          Daemon Bool) env
          ⟨r.state.update fun s => { s with hostMac := env.answer r.tick .hostMac },
            r.tick + 1, r.budget⟩ := by
      unfold stagePair
      rw [Coro.bind_run, Coro.get_run]
      simp only [hpairs, Bool.not_true, if_neg Bool.false_ne_true]
      rfl
    rw [hbody]
    unfold pairStart
    rw [if_pos hpairs]
    by_cases hmac : falsyText (env.answer r.tick .hostMac) = true
    · simp only [hmac, Bool.true_or, if_true]
      exact hkeep _ rfl rfl rfl
    by_cases hhandle : falsyHandle r.state.st.cmdWriteHandle = true
    · simp only [hhandle, Bool.or_true, if_true, hmac]
      exact hkeep _ rfl rfl rfl
    simp only [hmac, hhandle, Bool.or_self, if_neg Bool.false_ne_true]
    unfold pairSequence
    rcases hsetmac : buildSetmacPayload ((env.answer r.tick .hostMac).getD "") with e | setmac
    · exact hkeep _ rfl rfl rfl
    · exact ⟨hkeep _ rfl rfl rfl, rfl⟩
  · have hbody : stagePair env r = (.done true, r) := by
      unfold stagePair
      rw [Coro.bind_run, Coro.get_run]
      simp only [Bool.not_eq_true] at hpairs
      simp only [hpairs, Bool.not_false, if_true]
      rfl
    unfold pairStart
    rw [if_neg hpairs, hbody]
    exact Collects.refl _

/-- **Whatever the responses and their times, `stage_pair` attributes them to the right steps
exactly when the responses are not subscribed to, or no step that was answered is followed by one
that was not.**
Source: `switch2d.py` `stage_pair` -/
theorem pairAttribution_iff (env : DaemonEnv) (r : Run World) :
    (∀ record ∈ pairLog env r, record.Right) ↔
      (r.state.st.commandResponseSubscribed = true → AnswersLast (pairLog env r)) := by
  unfold pairLog
  rcases hstart : pairStart env r with _ | ⟨steps, r'⟩
  · exact ⟨fun _ _ => List.Pairwise.nil, fun _ => nofun⟩
  · have hrun := stagePair_run env r
    rw [hstart] at hrun
    have hsub := hrun.1.subscribed
    have hlog := stepLog_right_iff env r.state.st.activeProfile.commandUuid
      r'.state.st.pairResponses.length steps r' le_rfl
    rw [hsub] at hlog
    refine hlog.trans (forall_congr' fun _ => ?_)
    exact ⟨And.left, fun h => ⟨h, fun hlt => absurd hlt (lt_irrefl _)⟩⟩

/-- The loop reports what its record says. -/
theorem pairLoop_reports (env : DaemonEnv) (uuid : Option String) (base : ℕ)
    (steps : List PairStep) : ∀ r : Run World,
      r.state.trace <+: (pairLoop uuid base steps env r).2.state.trace ∧
      seenSince Obs.pairReport r.state.trace (pairLoop uuid base steps env r).2.state.trace =
        (stepLog env uuid base steps r).flatMap StepRecord.reports := by
  induction steps with
  | nil => exact fun r => ⟨List.prefix_refl _, seenSince_self⟩
  | cons step steps ih =>
      intro r
      have hstep : (pairStep uuid base step env r).1.Sat _
          (pairStep uuid base step env r).2.state :=
        (wp_pairStep uuid base step r.state).run
      rw [pairLoop_cons, Coro.bind_run, stepLog]
      rcases hrun : pairStep uuid base step env r with ⟨(_ | _) | _ | _, r'⟩ <;> rw [hrun] at hstep
      · exact ⟨hstep.trace, hstep.reports⟩
      · obtain ⟨htrace, hreports⟩ := ih r'
        have hrep : Reported base step r.state r'.state := hstep
        refine ⟨hrep.trace.trans htrace, (seenSince_trans hrep.trace htrace).trans ?_⟩
        rw [hreports, List.flatMap_cons]
        rfl
      · exact ⟨hstep.trace, hstep.reports⟩
      · exact ⟨hstep.trace, hstep.reports⟩

/-- `stage_pair` reports what its record says. -/
theorem stagePair_reports (env : DaemonEnv) (r : Run World) :
    seenSince Obs.pairReport r.state.trace (stagePair env r).2.state.trace =
      (pairLog env r).flatMap StepRecord.reports := by
  have hrun := stagePair_run env r
  unfold pairLog
  rcases hstart : pairStart env r with _ | ⟨steps, r'⟩ <;> rw [hstart] at hrun
  · exact hrun.reports
  · obtain ⟨hbegin, hrest⟩ := hrun
    obtain ⟨htrace, hreports⟩ := pairLoop_reports env r.state.st.activeProfile.commandUuid
      r'.state.st.pairResponses.length steps r'
    have hend : (stagePair env r).2.state.trace = (pairLoop r.state.st.activeProfile.commandUuid
        r'.state.st.pairResponses.length steps env r').2.state.trace := by
      rw [hrest, pairRest, Coro.bind_run]
      rcases pairLoop r.state.st.activeProfile.commandUuid r'.state.st.pairResponses.length
        steps env
        r' with ⟨(_ | _) | _ | _, r''⟩ <;> rfl
    rw [hend, seenSince_trans hbegin.trace htrace, hbegin.reports, List.nil_append, hreports]

/-- The pair stage begins, with a client that the command responses are subscribed on. -/
def pairingStart : Run World :=
  ⟨{ World.new (defaultArgs false true "joycon2cpp-pair") with
      st := { DaemonState.new (defaultArgs false true "joycon2cpp-pair") with
        activeProfile := profileJoycon2cppPair
        client := some 0
        cmdWriteHandle := some 20
        commandResponseHandle := some 26
        commandResponseSubscribed := true }
      up := [0]
      respSubs := [0] }, 0, 8⟩

/-- A controller that answers the first step only. -/
def oneAnswerEnv : DaemonEnv where
  answer _ := goodAnswer []
  events
    | 2 => [.response 0 [0x15, 0x01]]
    | _ => []

/-- There the answer is reported for all four steps. -/
theorem not_right_oneAnswer : ¬∀ record ∈ pairLog oneAnswerEnv pairingStart, record.Right := by
  decide +kernel

end Switch2Bt
