import Switch2Bt.Daemon.Effects

/-!
# The profile of daemon mode (`switch2d.py`, `reconnect_loop`)

Daemon mode takes an explicit profile, and `async_main` resolves `auto` to `macos`. But
`reconnect_loop` calls `run_session` without a profile, and `run_session` then falls back to
`macos`. `daemon_honours_iff` says for which command lines the selected profile is the one that
runs: `auto` and `macos`.

* `Obs.OfProfile`: an observation is one that a session of a given profile makes.
* `Honours`: all observations are, and the active profile is the given one from the first session
  on.
* `runSession_honours`: a session of a profile honours it.
-/

namespace Switch2Bt

open Await

/-! ## Observations of a profile -/

/-- What a session of profile `p` can be seen to do: its own name, its own characteristics, its own
writes and the reports that pass its own filter. -/
def Obs.OfProfile (p : ProtocolProfile) : Obs → Prop
  | .sessionStart q => q = p
  | .interrupted q _ _ => q = p
  | .inputMatched uuid _ => p.subscribeStrategy = .selected ∧ uuid ∈ p.inputUuids
  | .gattWrite uuid payload _ => uuid = p.commandUuid ∧
      ((p.pairs ∧ IsPairPayload payload) ∨ payload ∈ p.initCommands.map (·.payload))
  | .report n => passesFilter p n.handle
  | _ => True

/-- **The selected profile is honoured**: everything observed is of profile `p`, which is the
active one as soon as a session has started. -/
structure Honours (p : ProtocolProfile) (w : World) : Prop where
  observed : ∀ o ∈ w.trace, o.OfProfile p
  active : (∃ q, .sessionStart q ∈ w.trace) → w.st.activeProfile = p

/-- The profile selected on the command line, after `auto` is resolved.
Source: `switch2d.py` `async_main`, `PROTOCOL_PROFILES` -/
def selectedProfile (args : Args) : ProtocolProfile :=
  (protocolProfiles.lookup (resolveProfile args).profile).getD profileMacos

/-- An explicit profile needs no resolving. -/
theorem resolveProfile_explicit {args : Args} (h : args.profile ≠ "auto") :
    resolveProfile args = args := if_neg fun hc => h hc.2

theorem resolveProfile_diagnose (args : Args) :
    (resolveProfile args).diagnose = args.diagnose := by
  unfold resolveProfile
  split <;> rfl

theorem resolveProfile_daemon (args : Args) : (resolveProfile args).daemon = args.daemon := by
  unfold resolveProfile
  split <;> rfl

variable {env : DaemonEnv} {p : ProtocolProfile} {w w' : World} {part : Stage}

/-- The profile is active and everything observed is of it. -/
def Runs (p : ProtocolProfile) (w : World) : Prop :=
  w.st.activeProfile = p ∧ ∀ o ∈ w.trace, o.OfProfile p

theorem Runs.honours (h : Runs p w) : Honours p w := ⟨h.2, fun _ => h.1⟩

theorem Runs.update {f : DaemonState → DaemonState} (h : Runs p w)
    (hf : (f w.st).activeProfile = w.st.activeProfile) : Runs p (w.update f) :=
  ⟨hf.trans h.1, h.2⟩

theorem Runs.emit {o : Obs} (h : Runs p w) (ho : o.OfProfile p) : Runs p (w.emit o) := by
  refine ⟨h.1, fun x hx => ?_⟩
  rcases List.mem_append.mp hx with hx | hx
  · exact h.2 x hx
  · rwa [List.mem_singleton.mp hx]

theorem Runs.setClient (h : Runs p w) (c : Option ClientId) : Runs p (w.setClient c) := by
  obtain ⟨os, htrace, hos⟩ := World.setClient_obs c w
  refine ⟨by simpa using h.1, fun o ho => ?_⟩
  rw [htrace] at ho
  rcases List.mem_append.mp ho with ho | ho
  · exact h.2 o ho
  · obtain ⟨_, _, rfl⟩ := hos o ho
    trivial

/-- Every effect is one of the active profile. -/
theorem Runs.effect (he : Effect env part w w') (h : Runs p w) : Runs p w' := by
  obtain ⟨rfl, hobs⟩ := h
  cases he with
  | report n uinput jsonl hpass =>
      exact Runs.emit (Runs.update ⟨rfl, hobs⟩ rfl) hpass
  | inputMatched candidate handle hmatch => exact Runs.emit ⟨rfl, hobs⟩ hmatch
  | pairWrite payload ok hpair => exact Runs.emit ⟨rfl, hobs⟩ ⟨rfl, .inl hpair⟩
  | initWrite payload ok hinit => exact Runs.emit ⟨rfl, hobs⟩ ⟨rfl, .inr hinit⟩
  | storeClient id =>
      have hclient := Runs.setClient (w := { w with up := id :: w.up }) ⟨rfl, hobs⟩ (some id)
      exact (hclient.update rfl).emit trivial
  | clientCleared hreleased => exact Runs.setClient ⟨rfl, hobs⟩ none
  | advert | linkLost | servicesRead | notifyResponse | pairResponse | notifyInput | subscribed
  | disconnectCalled =>
      refine ⟨rfl, fun o ho => ?_⟩
      rcases List.mem_append.mp ho with ho | ho
      · exact hobs o ho
      · rw [List.mem_singleton.mp ho]
        trivial
  | _ => exact ⟨rfl, hobs⟩

/-- **A session of a profile honours it.** -/
theorem runSession_honours (profile : Option ProtocolProfile) :
    Always env (Runs (profile.getD profileMacos)) (runSession profile) := by
  refine runSession_always (fun w h => ?_) fun w w' hstep h => ?_
  · have hclient := (h.setClient none).emit (o := .sessionStart (profile.getD profileMacos)) rfl
    refine ⟨by simp [DaemonState.resetFields], fun o ho => ?_⟩
    rw [World.startSession_trace] at ho
    exact hclient.2 o ho
  · cases hstep with
    | effect he => exact h.effect he
    | stageDone stage ok => exact h.emit trivial
    | interrupted => exact h.emit h.1

/-! ## Daemon mode -/

theorem awaitCall_runs (c : Call) : Always env (Runs p) (awaitCall c) :=
  awaitCall_always (fun _ _ he h => Runs.effect he h) c

theorem updateSt_runs {f : DaemonState → DaemonState}
    (hf : ∀ s, (f s).activeProfile = s.activeProfile) : Always env (Runs p) (updateSt f) :=
  Always.modify fun w h => Runs.update h (hf w.st)

theorem emit_runs {o : Obs} (ho : o.OfProfile p) : Always env (Runs p) (emit o) :=
  Always.modify fun _ h => Runs.emit h ho

theorem sleepBreakable_runs (limit : ℚ) (k : ℕ) :
    Always env (Runs p) (sleepBreakable limit k) := by
  induction k with
  | zero => exact Always.pure _
  | succ k ih =>
      refine Always.read fun _ _ => Always.ite (Always.pure _) ?_
      exact (awaitCall_runs _).bind fun _ => Always.ite (Always.pure _) ih

/-- The reconnect loop runs `macos`. -/
theorem reconnectLoop_macos : Always env (Runs profileMacos) reconnectLoop := by
  have hsuccess : Always env (Runs profileMacos) afterSuccess := by
    refine Always.bind (updateSt_runs fun _ => rfl) fun _ => ?_
    exact (awaitCall_runs _).bind fun _ => Always.pure _
  have hfailure : Always env (Runs profileMacos) afterFailure := by
    refine Always.bind (updateSt_runs fun _ => rfl) fun _ => Always.read fun w _ => ?_
    refine (Always.ofExcept _).bind fun delay => ?_
    exact Always.bind (emit_runs (o := .backoff w.st.reconnectCount delay) trivial) fun _ =>
      sleepBreakable_runs _ _
  refine Always.loop (fun k => ?_) 0
  refine Always.read fun _ _ => Always.ite (Always.pure _) ?_
  refine (runSession_honours none).bind fun ok => ?_
  refine Always.bind (emit_runs (o := .sessionEnd ok) trivial) fun _ => ?_
  refine Always.read fun _ _ => Always.ite (Always.pure _) (Always.ite ?_ ?_)
  · exact hsuccess.bind fun _ => Always.pure _
  · exact hfailure.bind fun _ => Always.pure _

theorem cleanupClient_runs : Always env (Runs p) cleanupClient := fun w h =>
  (cleanupClient_reach w .refl).all_mono fun _ hr =>
    hr.invariant (fun _ _ he h => Runs.effect he h) h

/-- Daemon mode runs `macos`, whatever was selected. -/
theorem asyncMain_daemon_macos {args : Args} (hdaemon : args.daemon = true)
    (hdiagnose : args.diagnose = false) :
    wp env asyncMain (Post.all (Runs profileMacos)) (World.new args) := by
  have hmode : runMode (resolveProfile args) = reconnectLoop := by
    simp [runMode, resolveProfile_diagnose, resolveProfile_daemon, hdiagnose, hdaemon]
  refine asyncMain_wp (I := Runs profileMacos) (fun _ _ he h => h.effect he)
    (fun _ h => h.update rfl) (fun _ h => h.update rfl) (fun _ h => h) (fun _ h => h)
    (fun w h => ?_) ⟨rfl, fun _ ho => by cases ho⟩
  rw [hmode]
  refine Always.bind reconnectLoop_macos.attempt (fun result => ?_) w h
  refine cleanupClient_runs.bind fun _ => ?_
  split
  · exact Always.pure _
  · exact Always.pure _

/-- The first session of daemon mode is one of `macos`. -/
theorem daemon_starts_macos {args : Args} (hdaemon : args.daemon = true)
    (hdiagnose : args.diagnose = false) :
    .sessionStart profileMacos ∈ (asyncMain quietEnv ⟨World.new args, 0, 1⟩).2.state.trace := by
  have htrace : (asyncMain quietEnv ⟨World.new args, 0, 1⟩).2.state.trace =
      [.sessionStart profileMacos] := by
    rw [← resolveProfile_daemon] at hdaemon
    rw [← resolveProfile_diagnose] at hdiagnose
    simp only [asyncMain, Coro.bind_run, Coro.get_run, updateSt, Coro.modify_run, World.new,
      DaemonState.new]
    generalize resolveProfile args = args' at hdaemon hdiagnose
    obtain ⟨_, _, profile, scanTimeout, address, looseScan, connectRetries, gattRetries,
      notifyTimeout, maxReports, dumpJsonl, uinput, verbose⟩ := args'
    subst hdaemon hdiagnose
    cases dumpJsonl <;> cases uinput <;> rfl
  rw [htrace]
  exact List.mem_singleton_self _

/-- **Daemon mode honours the selected profile exactly if it is `auto` or `macos`.** -/
theorem daemon_honours_iff (args : Args) (hdaemon : args.daemon = true)
    (hdiagnose : args.diagnose = false) (hprofile : args.profile ∈ profileChoices) :
    (∀ env t b, Honours (selectedProfile args) (asyncMain env ⟨World.new args, t, b⟩).2.state) ↔
      args.profile = "auto" ∨ args.profile = "macos" := by
  constructor
  · intro hall
    have hstart := (hall quietEnv 0 1).observed _ (daemon_starts_macos hdaemon hdiagnose)
    have hmacos : profileMacos = selectedProfile args := hstart
    simp only [profileChoices, List.mem_cons, List.not_mem_nil, or_false] at hprofile
    rcases hprofile with h | h | h | h | h
    · exact .inl h
    · exact .inr h
    all_goals
      rw [selectedProfile, resolveProfile_explicit (by simp [h]), h] at hmacos
      exact absurd hmacos (by decide)
  · intro hauto env t b
    have hselected : selectedProfile args = profileMacos := by
      rcases hauto with h | h
      · simp only [selectedProfile, resolveProfile, h, hdaemon]
        rfl
      · rw [selectedProfile, resolveProfile_explicit (by simp [h]), h]
        rfl
    rw [hselected]
    exact ((Outcome.sat_all _ _ _).mp (asyncMain_daemon_macos hdaemon hdiagnose t b)).honours

/-- `macos` is honoured, in the first sessions of a run where no controller advertises. -/
theorem daemon_honours_macos : Honours (selectedProfile (defaultArgs false true "macos"))
    (asyncMain quietEnv ⟨World.new (defaultArgs false true "macos"), 0, 20⟩).2.state :=
  (daemon_honours_iff (defaultArgs false true "macos") rfl rfl (by decide)).mpr (.inr rfl)
    quietEnv 0 20

/-- `--daemon --profile spro2win` runs `macos`. -/
theorem daemon_spro2win : ¬∀ env t b, Honours (selectedProfile (defaultArgs false true "spro2win"))
    (asyncMain env ⟨World.new (defaultArgs false true "spro2win"), t, b⟩).2.state := by
  intro hall
  have hstart : profileMacos = selectedProfile (defaultArgs false true "spro2win") :=
    (hall quietEnv 0 1).observed _ (daemon_starts_macos rfl rfl)
  exact absurd hstart (by decide)

end Switch2Bt
