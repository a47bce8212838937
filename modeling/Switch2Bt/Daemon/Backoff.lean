import Switch2Bt.Await.Total
import Switch2Bt.Daemon.Effects

/-!
# The reconnect loop over a script of outcomes (`switch2d.py`, `reconnect_loop`)

Daemon mode is meant to run for ever: after the `n`-th consecutive failure it waits
`min(1 * 2 ** (n - 1), 30)` seconds and starts the next session. The delay is clamped after the
power is computed, and the power of floats overflows at `2 ** 1024`: the 1025th consecutive failure
ends the loop with `OverflowError`.

`RunsForever` is the promise, for a script of session outcomes; `reconnectLoop_runsForever` says
that the loop keeps it exactly when the script has no 1025 failures in a row.

* `LoopState` is what the loop reads and records; events and sessions leave it alone.
* `reconnectStep_twp`, `reconnectStep_overflow`, `reconnectStep_end`: one iteration.
* `loopFrom_records`, `loopFrom_progress`, `loopFrom_overLimit`: the rest of a script.
-/

namespace Switch2Bt

open Await

/-! ## What the loop records -/

/-- The observations made by the reconnect loop itself. -/
def Obs.isLoop : Obs → Bool
  | .sessionEnd _ => true
  | .backoff _ _ => true
  | _ => false

/-- The part of the trace recorded by the reconnect loop. -/
def loopTrace (w : World) : List Obs := w.trace.filter Obs.isLoop

@[simp] theorem loopTrace_emit (o : Obs) (w : World) :
    loopTrace (w.emit o) = loopTrace w ++ [o].filter Obs.isLoop := by
  simp [loopTrace]

@[simp] theorem loopTrace_update (f : DaemonState → DaemonState) (w : World) :
    loopTrace (w.update f) = loopTrace w := rfl

@[simp] theorem loopTrace_setClient (c : Option ClientId) (w : World) :
    loopTrace (w.setClient c) = loopTrace w := by
  simp only [World.setClient, loopTrace]
  repeat' split
  all_goals simp [Obs.isLoop]

/-- Between sessions: no shutdown, `n` consecutive failures, and the loop recorded `tr`. -/
structure LoopState (n : ℕ) (tr : List Obs) (w : World) : Prop where
  shutdown : w.st.shutdown = false
  count : w.st.reconnectCount = n
  trace : loopTrace w = tr

variable {env : DaemonEnv} {n : ℕ} {tr : List Obs} {w w' : World}

/-- Without a shutdown signal, nothing a session does matters to the loop. -/
theorem LoopState.effect (henv : NoShutdown env) {part : Stage} (he : Effect env part w w')
    (h : LoopState n tr w) : LoopState n tr w' := by
  obtain ⟨hs, hc, ht⟩ := h
  cases he with
  | shutdown h =>
      obtain ⟨t, h⟩ := h
      exact absurd rfl (henv t _ h)
  | storeClient id =>
      refine ⟨by simpa using hs, by simpa using hc, ?_⟩
      rw [← ht]
      simp [World.storeClient, Obs.isLoop]
      rfl
  | clientCleared h => exact ⟨by simpa using hs, by simpa using hc, by simpa using ht⟩
  | _ =>
      refine ⟨by simpa [DaemonState.countReport] using hs,
        by simpa [DaemonState.countReport] using hc, ?_⟩
      rw [← ht]
      simp [loopTrace, Obs.isLoop]

theorem LoopState.dispatch (henv : NoShutdown env) {t : ℕ} {e : Event} (he : e ∈ env.events t)
    (h : LoopState n tr w) : LoopState n tr (Switch2Bt.dispatch e w) := by
  rcases dispatch_effect .running he w with heq | heff
  · rw [heq]
    exact h
  · exact h.effect henv heff

/-- The sessions of `run_session` leave the state of the loop alone: nothing sets the flag, nothing
counts a failure and nothing is recorded. -/
theorem runSession_loopState (henv : NoShutdown env) (profile : Option ProtocolProfile) :
    Always env (LoopState n tr) (runSession profile) := by
  refine runSession_always (fun w h => ?_) fun w w' hstep h => ?_
  · obtain ⟨hs, hc, ht⟩ := h
    refine ⟨by simpa [World.startSession, DaemonState.resetFields] using hs,
      by simpa [World.startSession, DaemonState.resetFields] using hc, ?_⟩
    simpa [World.startSession, World.resetSession, Obs.isLoop] using ht
  · cases hstep with
    | effect he => exact h.effect henv he
    | stageDone stage ok => exact ⟨h.shutdown, h.count, by simpa [Obs.isLoop] using h.trace⟩
    | interrupted => exact ⟨h.shutdown, h.count, by simpa [Obs.isLoop] using h.trace⟩

/-! ## Scripts -/

/-- A script of sessions: the outcome of each one and what it does to the world. -/
structure SessionScript where
  outcomes : List Bool
  work : ℕ → World → World
  /-- As with `run_session`, the work is none of the loop's business. -/
  work_loopState : ∀ k n tr w, LoopState n tr w → LoopState n tr (work k w)

/-- The `k`-th session of a script. After the last one the loop is left waiting. -/
def SessionScript.session (script : SessionScript) (k : ℕ) : Daemon Bool := do
  Coro.modify (script.work k)
  match script.outcomes[k]? with
  | some ok => pure ok
  | none => Coro.suspend

/-- The delay that is meant: the clamped power. -/
def backoffDelay (n : ℕ) : ℚ :=
  min (reconnectBaseDelay * reconnectBackoff ^ (n - 1)) reconnectMaxDelay

/-- What the loop is meant to record for a list of outcomes, after `n` consecutive failures. -/
def loopSpec : ℕ → List Bool → List Obs
  | _, [] => []
  | _, true :: os => .sessionEnd true :: loopSpec 0 os
  | n, false :: os =>
      .sessionEnd false :: .backoff (n + 1) (backoffDelay (n + 1)) :: loopSpec (n + 1) os

/-- The final state of a run of the loop over a script. -/
def loopRun (env : DaemonEnv) (script : SessionScript) (w : World) (t b : ℕ) :
    Outcome PyErr ℕ × Run World :=
  reconnectLoopWith script.session env ⟨w, t, b⟩

/-- **The promise of daemon mode**, for the sessions of a script: the loop neither returns nor
raises, it records what it is meant to, it gets to the end of the script, and the delays are
bounded and monotone in the number of failures. -/
structure RunsForever (env : DaemonEnv) (script : SessionScript) (w : World) : Prop where
  goesOn : ∀ t b, (loopRun env script w t b).1 = .suspended
  records : ∀ t b, loopTrace (loopRun env script w t b).2.state <+: loopSpec 0 script.outcomes
  progress : ∃ b₀, ∀ t b, b₀ ≤ b →
    loopTrace (loopRun env script w t b).2.state = loopSpec 0 script.outcomes
  bounded : ∀ t b n d, .backoff n d ∈ loopTrace (loopRun env script w t b).2.state →
    d ≤ reconnectMaxDelay
  monotone : ∀ t b n d n' d', .backoff n d ∈ loopTrace (loopRun env script w t b).2.state →
    .backoff n' d' ∈ loopTrace (loopRun env script w t b).2.state → n ≤ n' → d ≤ d'

/-! ## The delay -/

/-- The code computes the delay that is meant while the power does not overflow. -/
theorem reconnectDelay_ok {n : ℕ} (h : n ≤ 1024) : reconnectDelay n = .ok (backoffDelay n) := by
  have hpow : n - 1 ≤ 1023 := by omega
  simp [reconnectDelay, backoffPow, hpow, Except.map, backoffDelay]

theorem reconnectDelay_overflow {n : ℕ} (h : 1024 < n) :
    reconnectDelay n = .error .overflowError := by
  have hpow : ¬n - 1 ≤ 1023 := by omega
  simp [reconnectDelay, backoffPow, hpow, Except.map]

theorem backoffDelay_mono : Monotone backoffDelay := by
  intro n m hnm
  have hpow : reconnectBackoff ^ (n - 1) ≤ reconnectBackoff ^ (m - 1) :=
    pow_le_pow_right₀ (by norm_num [reconnectBackoff]) (by omega)
  exact min_le_min_right _ (mul_le_mul_of_nonneg_left hpow (by norm_num [reconnectBaseDelay]))

/-- A recorded delay is the one of its number of failures. -/
theorem delay_of_mem_loopSpec {os : List Bool} {m : ℕ} {d : ℚ}
    (h : Obs.backoff m d ∈ loopSpec n os) : d = backoffDelay m := by
  induction os generalizing n with
  | nil => cases h
  | cons ok os ih =>
      cases ok <;> simp [loopSpec] at h
      · rcases h with ⟨rfl, rfl⟩ | h
        · rfl
        · exact ih h
      · exact ih h

/-! ## The loop makes progress -/

variable (env) in
/-- An await spends one of the budget, or is where the run ends. -/
theorem awaitCall_budget {c : Call} {r : Run World} :
    (∃ a r', awaitCall c env r = (.done a, r') ∧ r'.budget < r.budget) ∨
      ∃ r', awaitCall c env r = (.suspended, r') ∧ r'.budget ≤ r.budget := by
  obtain ⟨w, t, _ | b⟩ := r
  · exact .inr ⟨_, rfl, le_rfl⟩
  · exact .inl ⟨_, _, rfl, Nat.lt_succ_self b⟩

variable (env) in
theorem sleepBreakable_budget (limit : ℚ) (k : ℕ) (r : Run World) :
    (sleepBreakable limit k env r).2.budget ≤ r.budget := by
  induction k generalizing r with
  | zero => exact le_rfl
  | succ k ih =>
      simp only [sleepBreakable, Coro.bind_run, Coro.get_run]
      split
      · exact le_rfl
      · rw [Coro.bind_run]
        obtain ⟨a, r', hrun, hlt⟩ | ⟨r', hrun, hle⟩ :=
          awaitCall_budget env (c := .sleepWithin (1 / 4) limit) (r := r)
        · rw [hrun]
          dsimp only
          split
          · exact hlt.le
          · exact (ih r').trans hlt.le
        · rw [hrun]
          exact hle

/-- The first sleep of a delay is awaited. -/
theorem sleepBreakable_spends {limit : ℚ} {k : ℕ} {r r' : Run World} {u : Unit}
    (hs : r.state.st.shutdown = false) (h : sleepBreakable limit (k + 1) env r = (.done u, r')) :
    r'.budget < r.budget := by
  simp only [sleepBreakable, Coro.bind_run, Coro.get_run, hs, if_neg Bool.false_ne_true] at h
  obtain ⟨a, r₁, hrun, hlt⟩ | ⟨r₁, hrun, hle⟩ :=
    awaitCall_budget env (c := .sleepWithin (1 / 4) limit) (r := r)
  · rw [hrun] at h
    dsimp only at h
    split at h
    · cases h
      exact hlt
    · have hle := sleepBreakable_budget env limit k r₁
      rw [h] at hle
      exact lt_of_le_of_lt hle hlt
  · rw [hrun] at h
    cases h

theorem sleepSteps_eq (delay : ℚ) : ∃ k, sleepSteps delay = k + 1 :=
  ⟨sleepSteps delay - 1, by unfold sleepSteps; omega⟩

theorem afterSuccess_spends {r r' : Run World} {u : Unit}
    (h : afterSuccess env r = (.done u, r')) : r'.budget < r.budget := by
  simp only [afterSuccess, updateSt, Coro.bind_run, Coro.modify_run] at h
  obtain ⟨a, r₁, hrun, hlt⟩ | ⟨r₁, hrun, hle⟩ := awaitCall_budget env
    (c := .waitDisconnect 5) (r := { r with state := r.state.update fun s => { s with
      reconnectCount := 0 } })
  · rw [hrun] at h
    cases h
    exact hlt
  · rw [hrun] at h
    cases h

/-- The world in which the `n`-th failure is waited for. -/
def World.countFailure (delay : ℚ) (w : World) : World :=
  (w.update fun s => { s with reconnectCount := s.reconnectCount + 1 }).emit
    (.backoff (w.st.reconnectCount + 1) delay)

theorem afterFailure_run_ok {r : Run World} {delay : ℚ}
    (h : reconnectDelay (r.state.st.reconnectCount + 1) = .ok delay) :
    afterFailure env r = sleepBreakable (delay + 1) (sleepSteps delay) env
      { r with state := r.state.countFailure delay } := by
  simp only [afterFailure, updateSt, emit, Coro.bind_run, Coro.modify_run, Coro.get_run,
    World.update_st, h]
  rfl

variable (env) in
theorem afterFailure_run_error {r : Run World} {e : PyErr}
    (h : reconnectDelay (r.state.st.reconnectCount + 1) = .error e) :
    (afterFailure env r).1 = .raised e := by
  simp only [afterFailure, updateSt, emit, Coro.bind_run, Coro.modify_run, Coro.get_run,
    World.update_st, h]
  rfl

theorem afterFailure_spends {r r' : Run World} {u : Unit}
    (h : afterFailure env r = (.done u, r')) (hs : r.state.st.shutdown = false) :
    r'.budget < r.budget := by
  rcases hdelay : reconnectDelay (r.state.st.reconnectCount + 1) with e | delay
  · have hraised := afterFailure_run_error env hdelay
    rw [h] at hraised
    cases hraised
  · obtain ⟨k, hk⟩ := sleepSteps_eq delay
    rw [afterFailure_run_ok hdelay, hk] at h
    exact sleepBreakable_spends (r := { r with state := r.state.countFailure delay }) hs h

theorem SessionScript.session_run (script : SessionScript) (k : ℕ) (r : Run World) :
    script.session k env r = match script.outcomes[k]? with
      | some ok => (.done ok, { r with state := script.work k r.state })
      | none => (.suspended, { r with state := script.work k r.state }) := by
  simp only [SessionScript.session, Coro.bind_run, Coro.modify_run]
  rcases script.outcomes[k]? with _ | ok <;> rfl

/-- An iteration that continues has awaited. -/
theorem reconnectStep_consumes (script : SessionScript) (k : ℕ) :
    Coro.Consumes (reconnectStep (script.session k) k) := by
  intro env r j r' h
  simp only [reconnectStep, Coro.bind_run, Coro.get_run] at h
  split at h
  · cases h
  obtain ⟨ok, r₁, hsession, h⟩ := Coro.bind_run_eq_done h
  have hbudget : r₁.budget = r.budget := by
    rw [script.session_run] at hsession
    split at hsession <;> cases hsession
    rfl
  simp only [emit, Coro.bind_run, Coro.modify_run, Coro.get_run] at h
  split at h
  · cases h
  rename_i hs
  rw [← hbudget]
  cases ok with
  | true =>
      obtain ⟨u, r₂, hafter, h⟩ := Coro.bind_run_eq_done h
      cases h
      have hspent := afterSuccess_spends hafter
      exact hspent
  | false =>
      obtain ⟨u, r₂, hafter, h⟩ := Coro.bind_run_eq_done h
      cases h
      have hspent := afterFailure_spends hafter (by simpa using hs)
      exact hspent

/-! ## One iteration -/

/-- A postcondition for what goes on: the loop neither returns nor raises here. -/
def goesOn {α : Type} (P : α → World → Prop) (I : World → Prop) : Post World PyErr α :=
  ⟨P, fun _ _ => False, I⟩

theorem sleepBreakable_twp (henv : NoShutdown env) (limit : ℚ) (k : ℕ) (h : LoopState n tr w) :
    twp env (sleepBreakable limit k) k (goesOn (fun _ => LoopState n tr) (LoopState n tr)) w := by
  induction k generalizing w with
  | zero => exact twp_pure h
  | succ k ih =>
      refine twp_get_bind ?_
      rw [if_neg (by simp [h.shutdown])]
      refine twp_await_bind (LoopState n tr) (fun _ _ he _ hs => hs.dispatch henv he) h
        (fun _ hs => hs) fun expired w' hw' => ?_
      split
      · exact twp_pure hw'
      · exact ih hw'

/-- After a success the failures are forgotten. -/
theorem afterSuccess_twp (henv : NoShutdown env) (h : LoopState n tr w) :
    twp env afterSuccess 1 (goesOn (fun _ => LoopState 0 tr) (LoopState 0 tr)) w :=
  twp_modify_bind (twp_await_bind (LoopState 0 tr) (fun _ _ he _ hs => hs.dispatch henv he)
    ⟨h.shutdown, rfl, h.trace⟩ (fun _ hs => hs) fun _ _ hw' => twp_pure hw')

/-- After a failure within the limit the delay is computed and waited for. -/
theorem afterFailure_twp (henv : NoShutdown env) (h : LoopState n tr w) (hn : n < 1024) :
    twp env afterFailure (sleepSteps (backoffDelay (n + 1)))
      (goesOn (fun _ => LoopState (n + 1) (tr ++ [.backoff (n + 1) (backoffDelay (n + 1))]))
        (LoopState (n + 1) (tr ++ [.backoff (n + 1) (backoffDelay (n + 1))]))) w := by
  have hdelay : reconnectDelay (w.st.reconnectCount + 1) = .ok (backoffDelay (n + 1)) := by
    rw [h.count]
    exact reconnectDelay_ok (by omega)
  have hstate : LoopState (n + 1) (tr ++ [.backoff (n + 1) (backoffDelay (n + 1))])
      (w.countFailure (backoffDelay (n + 1))) := by
    refine ⟨h.shutdown, by simp [World.countFailure, h.count], ?_⟩
    simp [World.countFailure, h.count, h.trace, Obs.isLoop]
  have hsleep := sleepBreakable_twp henv (backoffDelay (n + 1) + 1)
    (sleepSteps (backoffDelay (n + 1))) hstate
  refine ⟨fun t b => ?_, fun t b => ?_⟩
  · rw [afterFailure_run_ok hdelay]
    exact hsleep.1 t b
  · rw [afterFailure_run_ok hdelay]
    exact hsleep.2 t b

/-- What an iteration with outcome `ok` records after `n` failures, and the number of failures it
leaves. -/
def stepSpec (n : ℕ) : Bool → ℕ × List Obs
  | true => (0, [.sessionEnd true])
  | false => (n + 1, [.sessionEnd false, .backoff (n + 1) (backoffDelay (n + 1))])

theorem loopSpec_cons (n : ℕ) (ok : Bool) (os : List Bool) :
    loopSpec n (ok :: os) = (stepSpec n ok).2 ++ loopSpec (stepSpec n ok).1 os := by
  cases ok <;> rfl

/-- A session of the script returns its outcome at once. -/
theorem SessionScript.session_twp (script : SessionScript) {k : ℕ} {ok : Bool}
    (hk : script.outcomes[k]? = some ok) (h : LoopState n tr w) :
    twp env (script.session k) 0
      (goesOn (fun x w' => x = ok ∧ LoopState n tr w') fun _ => False) w := by
  refine twp_modify_bind ?_
  rw [hk]
  exact twp_pure ⟨rfl, script.work_loopState k n tr w h⟩

/-- **One iteration within the limit** records what it should and goes on to the next session. -/
theorem reconnectStep_twp (henv : NoShutdown env) (script : SessionScript) (tr : List Obs) {k : ℕ}
    {ok : Bool} (hk : script.outcomes[k]? = some ok) (hok : ok = true ∨ n < 1024) :
    ∃ c, ∀ w, LoopState n tr w → twp env (reconnectStep (script.session k) k) c
      (goesOn (fun x w' => x = .inl (k + 1) ∧
          LoopState (stepSpec n ok).1 (tr ++ (stepSpec n ok).2) w')
        (LoopState (stepSpec n ok).1 (tr ++ (stepSpec n ok).2))) w := by
  have hafter : ∃ c, ∀ w, LoopState n (tr ++ [.sessionEnd ok]) w →
      twp env (if ok then afterSuccess >>= fun _ => pure (.inl (k + 1))
          else afterFailure >>= fun _ => pure (.inl (k + 1)) : Daemon (ℕ ⊕ ℕ)) c
        (goesOn (fun x w' => x = .inl (k + 1) ∧
            LoopState (stepSpec n ok).1 (tr ++ (stepSpec n ok).2) w')
          (LoopState (stepSpec n ok).1 (tr ++ (stepSpec n ok).2))) w := by
    cases ok with
    | true =>
        exact ⟨1 + 0, fun w h => twp_bind ((afterSuccess_twp henv h).mono le_rfl
          (fun _ _ h => twp_pure ⟨rfl, h⟩) (fun _ _ h => h) fun _ h => h)⟩
    | false =>
        refine ⟨sleepSteps (backoffDelay (n + 1)) + 0, fun w h => ?_⟩
        have hwait := afterFailure_twp henv h (by simpa using hok)
        rw [List.append_assoc] at hwait
        exact twp_bind (hwait.mono le_rfl (fun _ _ h => twp_pure ⟨rfl, h⟩) (fun _ _ h => h)
          fun _ h => h)
  obtain ⟨c, hafter⟩ := hafter
  refine ⟨0 + c, fun w h => twp_get_bind ?_⟩
  rw [if_neg (by simp [h.shutdown])]
  refine twp_bind ((script.session_twp hk h).mono le_rfl ?_ (fun _ _ h => h) fun _ h => h.elim)
  rintro x w' ⟨hx, h'⟩
  subst hx
  refine twp_modify_bind (twp_get_bind ?_)
  rw [if_neg (by simp [h'.shutdown])]
  exact hafter _ ⟨h'.shutdown, h'.count, by simp [h'.trace, Obs.isLoop]⟩

variable (env) in
/-- After the last session of the script the loop waits. -/
theorem reconnectStep_end (script : SessionScript) {k : ℕ} (hk : script.outcomes[k]? = none)
    (h : LoopState n tr w) :
    wp env (reconnectStep (script.session k) k) ⟨fun _ _ => False, fun _ _ => False,
      LoopState n tr⟩ w := by
  refine (wp_get_bind _).mpr ?_
  rw [if_neg (by simp [h.shutdown])]
  refine wp_bind ((wp_modify_bind _ _).mpr ?_)
  rw [hk]
  exact wp_suspend.mpr (script.work_loopState k n tr w h)

variable (env) in
/-- The power overflows after 1024 failures. -/
theorem afterFailure_overflow (hn : 1024 ≤ n) (h : LoopState n tr w) :
    wp env afterFailure ⟨fun _ _ => False, fun e _ => e = .overflowError, fun _ => False⟩ w := by
  have hdelay : reconnectDelay (w.st.reconnectCount + 1) = .error .overflowError := by
    rw [h.count]
    exact reconnectDelay_overflow (by omega)
  refine (wp_modify_bind _ _).mpr ((wp_get_bind _).mpr ?_)
  simp only [World.update_st, hdelay]
  exact (wp_raise_bind _ _).mpr rfl

/-- **The failure after the limit** raises. -/
theorem reconnectStep_overflow (script : SessionScript) {k : ℕ}
    (hk : script.outcomes[k]? = some false) (hn : 1024 ≤ n) (h : LoopState n tr w) :
    wp env (reconnectStep (script.session k) k) ⟨fun _ _ => False,
      fun e _ => e = .overflowError, fun _ => False⟩ w := by
  refine (wp_get_bind _).mpr ?_
  rw [if_neg (by simp [h.shutdown])]
  refine wp_bind ((script.session_twp hk h).wp.mono ?_ (fun _ _ h => h.elim) fun _ h => h)
  rintro x w' ⟨hx, h'⟩
  subst hx
  refine (wp_modify_bind _ _).mpr ((wp_get_bind _).mpr ?_)
  rw [if_neg (by simp [h'.shutdown])]
  have hstate : LoopState n (tr ++ [.sessionEnd false]) (w'.emit (.sessionEnd false)) :=
    ⟨h'.shutdown, h'.count, by simp [h'.trace, Obs.isLoop]⟩
  exact (afterFailure_overflow env hn hstate).seq fun _ _ h => h.elim

/-! ## The rest of a script -/

/-- No failure of `os`, after `n` consecutive ones, is the 1025th or later. -/
def withinLimit : ℕ → List Bool → Prop
  | _, [] => True
  | _, true :: os => withinLimit 0 os
  | n, false :: os => n < 1024 ∧ withinLimit (n + 1) os

theorem withinLimit_cons {ok : Bool} {os : List Bool} :
    withinLimit n (ok :: os) ↔ (ok = true ∨ n < 1024) ∧ withinLimit (stepSpec n ok).1 os := by
  cases ok <;> simp [withinLimit, stepSpec]

/-- A run of failures does not reach over a success. -/
theorem replicate_infix_true {m : ℕ} (h : n < m) (os : List Bool) :
    List.replicate m false <:+: List.replicate n false ++ true :: os ↔
      List.replicate m false <:+: os := by
  have hshort : ∀ l, l <:+: List.replicate n false → l ≠ List.replicate m false := by
    rintro l hl rfl
    have hlen := hl.length_le
    rw [List.length_replicate, List.length_replicate] at hlen
    omega
  have hhead : ∀ l, l <+: true :: os → (∀ x ∈ l, x = false) → l = [] := by
    rintro (_ | ⟨x, l⟩) hl hfalse
    · rfl
    · obtain ⟨rfl, -⟩ := List.cons_prefix_cons.mp hl
      cases hfalse true List.mem_cons_self
  constructor
  · intro hin
    rcases List.infix_append_iff.mp hin with hin | hin | ⟨l₁, l₂, heq, hl₁, hl₂⟩
    · exact absurd rfl (hshort _ hin)
    · rcases List.infix_cons_iff.mp hin with hpre | hin
      · have hnil := hhead _ hpre fun x hx => List.eq_of_mem_replicate hx
        have hlen := congrArg List.length hnil
        rw [List.length_replicate] at hlen
        exact absurd hlen (by simp; omega)
      · exact hin
    · have hnil := hhead _ hl₂ fun x hx =>
        List.eq_of_mem_replicate (heq ▸ List.mem_append_right l₁ hx)
      rw [hnil, List.append_nil] at heq
      exact absurd heq.symm (hshort _ hl₁.isInfix)
  · exact fun hin => List.infix_append_of_infix_right (List.infix_cons hin)

/-- The limit is kept unless 1025 failures follow each other. -/
theorem withinLimit_iff (os : List Bool) (hn : n ≤ 1024) :
    withinLimit n os ↔ ¬List.replicate 1025 false <:+: List.replicate n false ++ os := by
  induction os generalizing n with
  | nil =>
      simp only [withinLimit, List.append_nil, true_iff]
      intro h
      have hlen := h.length_le
      rw [List.length_replicate, List.length_replicate] at hlen
      omega
  | cons ok os ih =>
      cases ok with
      | true =>
          rw [withinLimit, ih (by omega), replicate_infix_true (by omega)]
          rfl
      | false =>
          have hcons : List.replicate n false ++ false :: os =
              List.replicate (n + 1) false ++ os := by
            rw [List.replicate_succ', List.append_assoc]
            rfl
          rw [withinLimit, hcons]
          by_cases hlt : n < 1024
          · rw [ih (by omega)]
            exact ⟨fun h => h.2, fun h => ⟨hlt, h⟩⟩
          · obtain rfl : n = 1024 := by omega
            simp only [lt_irrefl, false_and, false_iff, not_not]
            exact List.infix_append_left

/-- The loop, from its `k`-th session on. -/
def loopFrom (script : SessionScript) (k : ℕ) : Daemon ℕ :=
  Coro.loop (fun k => reconnectStep (script.session k) k) k

theorem loopFrom_eq (script : SessionScript) (k : ℕ) :
    loopFrom script k = reconnectStep (script.session k) k >>= fun
      | .inl j => loopFrom script j
      | .inr a => pure a := by
  unfold loopFrom
  rw [Coro.loop_eq (reconnectStep_consumes script) k]
  congr 1
  funext x
  cases x <;> rfl

theorem drop_succ_of_cons {os os' : List Bool} {k : ℕ} {ok : Bool} (h : os.drop k = ok :: os') :
    os[k]? = some ok ∧ os.drop (k + 1) = os' := by
  have hget : os[k]? = some ok := by
    have hhead := congrArg List.head? h
    rwa [List.head?_drop] at hhead
  refine ⟨hget, ?_⟩
  rw [← List.drop_drop, h]
  rfl

/-- Within the limit, every moment of the run is one of a run that goes on as it should. -/
theorem loopFrom_records (henv : NoShutdown env) (script : SessionScript) (os : List Bool) :
    ∀ {k n : ℕ} {tr : List Obs} {w : World}, script.outcomes.drop k = os → withinLimit n os →
      LoopState n tr w → wp env (loopFrom script k) (goesOn (fun _ _ => False)
        fun w' => loopTrace w' <+: tr ++ loopSpec n os) w := by
  induction os with
  | nil =>
      intro k n tr w hk _ h
      rw [loopFrom_eq]
      refine wp_bind ((reconnectStep_end env script (List.getElem?_eq_none ?_) h).mono
        (fun _ _ h => h.elim) (fun _ _ h => h) fun w' h' => ?_)
      · exact List.drop_eq_nil_iff.mp hk
      · simp [goesOn, loopSpec, h'.trace]
  | cons ok os ih =>
      intro k n tr w hk hlimit h
      obtain ⟨hget, hdrop⟩ := drop_succ_of_cons hk
      obtain ⟨hok, hrest⟩ := withinLimit_cons.mp hlimit
      obtain ⟨c, hstep⟩ := reconnectStep_twp henv script tr hget hok
      rw [loopFrom_eq, loopSpec_cons, ← List.append_assoc]
      refine wp_bind ((hstep w h).wp.mono ?_ (fun _ _ h => h) fun w' h' => ?_)
      · rintro x w' ⟨rfl, h'⟩
        exact ih hdrop hrest h'
      · simp [goesOn, h'.trace]

/-- Within the limit, a long run gets to the end of the script. -/
theorem loopFrom_progress (henv : NoShutdown env) (script : SessionScript) (os : List Bool) :
    ∀ {k n : ℕ} (tr : List Obs), script.outcomes.drop k = os → withinLimit n os →
      ∃ c, ∀ w, LoopState n tr w → eventually env (loopFrom script k) c (goesOn (fun _ _ => False)
        fun w' => loopTrace w' = tr ++ loopSpec n os) w := by
  induction os with
  | nil =>
      intro k n tr hk _
      refine ⟨0, fun w h t b _ => ?_⟩
      have hend := reconnectStep_end env script
        (List.getElem?_eq_none (List.drop_eq_nil_iff.mp hk)) h
      rw [loopFrom_eq]
      refine wp_bind (hend.mono (fun _ _ h => h.elim) (fun _ _ h => h) fun w' h' => ?_) t b
      simp [goesOn, loopSpec, h'.trace]
  | cons ok os ih =>
      intro k n tr hk hlimit
      obtain ⟨hget, hdrop⟩ := drop_succ_of_cons hk
      obtain ⟨hok, hrest⟩ := withinLimit_cons.mp hlimit
      obtain ⟨c, hstep⟩ := reconnectStep_twp henv script tr hget hok
      obtain ⟨c', hloop⟩ := ih (tr ++ (stepSpec n ok).2) hdrop hrest
      refine ⟨c + c', fun w h => ?_⟩
      rw [loopFrom_eq, loopSpec_cons, ← List.append_assoc]
      refine eventually_bind (hstep w h) ?_
      rintro x w' ⟨rfl, h'⟩
      exact hloop w' h'

/-- Over the limit, a long run has raised. -/
theorem loopFrom_overLimit (henv : NoShutdown env) (script : SessionScript) (os : List Bool) :
    ∀ {k n : ℕ} (tr : List Obs), script.outcomes.drop k = os → ¬withinLimit n os →
      ∃ c, ∀ w, LoopState n tr w → eventually env (loopFrom script k) c
        ⟨fun _ _ => False, fun e _ => e = .overflowError, fun _ => False⟩ w := by
  induction os with
  | nil => exact fun _ _ hlimit => absurd trivial hlimit
  | cons ok os ih =>
      intro k n tr hk hlimit
      obtain ⟨hget, hdrop⟩ := drop_succ_of_cons hk
      by_cases hok : ok = true ∨ n < 1024
      · have hrest : ¬withinLimit (stepSpec n ok).1 os := fun h =>
          hlimit (withinLimit_cons.mpr ⟨hok, h⟩)
        obtain ⟨c, hstep⟩ := reconnectStep_twp henv script tr hget hok
        obtain ⟨c', hloop⟩ := ih (tr ++ (stepSpec n ok).2) hdrop hrest
        refine ⟨c + c', fun w h => ?_⟩
        rw [loopFrom_eq]
        refine eventually_bind (hstep w h) ?_
        rintro x w' ⟨rfl, h'⟩
        exact hloop w' h'
      · obtain ⟨rfl, hn⟩ : ok = false ∧ 1024 ≤ n := by
          cases ok <;> simp at hok ⊢
          exact hok
        refine ⟨0, fun w h t b _ => ?_⟩
        rw [loopFrom_eq]
        exact ((reconnectStep_overflow script hget hn h).seq fun _ _ h => h.elim) t b

/-! ## When the promise is kept -/

/-- Within the limit the promise is kept. -/
theorem runsForever_of_withinLimit (henv : NoShutdown env) (script : SessionScript)
    (h : LoopState 0 [] w) (hlimit : withinLimit 0 script.outcomes) :
    RunsForever env script w := by
  have hrecords : ∀ t b, (loopRun env script w t b).1.Sat (goesOn (fun _ _ => False)
      fun w' => loopTrace w' <+: loopSpec 0 script.outcomes) (loopRun env script w t b).2.state :=
    loopFrom_records henv script script.outcomes rfl hlimit h
  have hmoment : ∀ t b, (loopRun env script w t b).1 = .suspended ∧
      loopTrace (loopRun env script w t b).2.state <+: loopSpec 0 script.outcomes := by
    intro t b
    have hrun := hrecords t b
    rcases hout : (loopRun env script w t b).1 with a | e | _ <;> rw [hout] at hrun
    · exact hrun.elim
    · exact hrun.elim
    · exact ⟨rfl, hrun⟩
  have hdelay : ∀ t b m d, Obs.backoff m d ∈ loopTrace (loopRun env script w t b).2.state →
      d = backoffDelay m := fun t b m d hd => delay_of_mem_loopSpec ((hmoment t b).2.subset hd)
  refine ⟨fun t b => (hmoment t b).1, fun t b => (hmoment t b).2, ?_, ?_, ?_⟩
  · obtain ⟨c, hc⟩ := loopFrom_progress henv script script.outcomes (k := 0) [] rfl hlimit
    refine ⟨c, fun t b hb => ?_⟩
    have hrun : (loopRun env script w t b).1.Sat (goesOn (fun _ _ => False)
      fun w' => loopTrace w' = loopSpec 0 script.outcomes) (loopRun env script w t b).2.state :=
      hc w h t b hb
    rw [(hmoment t b).1] at hrun
    exact hrun
  · intro t b m d hd
    rw [hdelay t b m d hd]
    exact min_le_right _ _
  · intro t b m d m' d' hd hd' hle
    rw [hdelay t b m d hd, hdelay t b m' d' hd']
    exact backoffDelay_mono hle

/-- Over the limit the loop raises. -/
theorem not_runsForever_of_overLimit (henv : NoShutdown env) (script : SessionScript)
    (h : LoopState 0 [] w) (hlimit : ¬withinLimit 0 script.outcomes) :
    ¬RunsForever env script w := by
  intro hforever
  obtain ⟨c, hc⟩ := loopFrom_overLimit henv script script.outcomes (k := 0) [] rfl hlimit
  have hrun : (loopRun env script w 0 c).1.Sat
      ⟨fun _ _ => False, fun e _ => e = .overflowError, fun _ => False⟩ _ := hc w h 0 c le_rfl
  rw [hforever.goesOn 0 c] at hrun
  exact hrun

/-- **Daemon mode runs for ever exactly if no 1025 sessions fail in a row.** -/
theorem reconnectLoop_runsForever (henv : NoShutdown env) (script : SessionScript) (w : World)
    (hshutdown : w.st.shutdown = false) (hcount : w.st.reconnectCount = 0)
    (htrace : loopTrace w = []) :
    RunsForever env script w ↔ ¬List.replicate 1025 false <:+: script.outcomes := by
  have hstate : LoopState 0 [] w := ⟨hshutdown, hcount, htrace⟩
  have hlimit := withinLimit_iff (n := 0) script.outcomes (by omega)
  rw [List.replicate_zero, List.nil_append] at hlimit
  rw [← hlimit]
  exact ⟨fun h => by_contra fun hover => not_runsForever_of_overLimit henv script hstate hover h,
    runsForever_of_withinLimit henv script hstate⟩

/-- A script whose sessions leave the world as it is. -/
def plainScript (outcomes : List Bool) : SessionScript :=
  ⟨outcomes, fun _ w => w, fun _ _ _ _ h => h⟩

/-- Two failures, a success and a failure are no danger. -/
theorem reconnectLoop_runsForever_plain :
    RunsForever quietEnv (plainScript [false, false, true, false])
      (World.new (defaultArgs false true "macos")) :=
  (reconnectLoop_runsForever quietEnv_noShutdown (plainScript [false, false, true, false])
    (World.new (defaultArgs false true "macos")) rfl rfl rfl).mpr fun h => by
      have hlen := h.length_le
      rw [List.length_replicate] at hlen
      exact absurd hlen (by decide)

/-- 1025 failures in a row end daemon mode. -/
theorem reconnectLoop_stops : ¬RunsForever quietEnv (plainScript (List.replicate 1025 false))
    (World.new (defaultArgs false true "macos")) := by
  refine not_runsForever_of_overLimit quietEnv_noShutdown _ ⟨rfl, rfl, rfl⟩ ?_
  rw [withinLimit_iff _ (by omega)]
  exact not_not.mpr (List.infix_refl _)

end Switch2Bt
