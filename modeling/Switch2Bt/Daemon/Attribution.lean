import Switch2Bt.Daemon.Attempts

/-!
# Reports belong to their attempt (`switch2d.py`, auto-detect)

The counters and the telemetry of the reports live in the one shared state, and different parts of
it are cleared in different places: `report_count` by `reset_session`, the lists and the first
report by the auto loop, the last report never. `Attributed` is the invariant that ties them to the
reports accepted since the last session started; `autoDetectMode_attribution` is what follows for
the summary of auto-detect mode.

* `Counted`, `Attributed`: what the state says about them. The first holds in every session, the
  second if the telemetry was cleared before it.
* `Failing`, `Won`: the attempts recorded so far.
-/

namespace Switch2Bt

open Await

/-! ## Steps of a session -/

/-- The report counter is the number of reports of the attempt. -/
def Counted (w : World) : Prop := w.st.reportCount = (attemptReports w.trace).length

/-- The counter and the telemetry are those of the reports of the attempt. -/
structure Attributed (w : World) : Prop where
  count : w.st.reportCount = (attemptReports w.trace).length
  lengths : w.st.reportLengths = (attemptReports w.trace).map (·.data.length)
  timestamps : w.st.reportTimestamps = (attemptReports w.trace).map (·.now)
  first : w.st.firstReportHex = (attemptReports w.trace).head?.map fun n => Octets.hex n.data
  last : ∀ n, (attemptReports w.trace).getLast? = some n →
    w.st.lastReportHex = some (Octets.hex n.data)

/-- The fields of the daemon state that say something about reports or attempts. -/
def DaemonState.record (s : DaemonState) : (ℕ × List ℕ × List ℚ) ×
    (Option String × Option String) × List AttemptResult × Option String :=
  ((s.reportCount, s.reportLengths, s.reportTimestamps), (s.firstReportHex, s.lastReportHex),
    s.attemptedProfiles, s.winningProfile)

variable {env : DaemonEnv} {part : Stage} {w w' : World}

/-- An effect counts a report that passes the filter, or leaves the reports and their record. -/
theorem Effect.reports (h : Effect env part w w') :
    (∃ n uinput jsonl, passesFilter w.st.activeProfile n.handle = true ∧
        w' = (w.update fun s => { s.countReport n with
          uinput := uinput, jsonlFile := jsonl }).emit (.report n)) ∨
      (w'.st.record = w.st.record ∧ attemptReports w'.trace = attemptReports w.trace) := by
  cases h with
  | report n uinput jsonl hpass => exact .inl ⟨n, uinput, jsonl, hpass, rfl⟩
  | storeClient id =>
      obtain ⟨os, htrace, hos⟩ := World.setClient_obs (some id) { w with up := id :: w.up }
      refine .inr ⟨by simp [DaemonState.record], ?_⟩
      show attemptReports (_ ++ [Obs.stored id]) = _
      rw [attemptReports_other _ (by simp), World.update_trace, htrace]
      exact attemptReports_other _ fun o ho => by
        obtain ⟨_, _, rfl⟩ := hos o ho
        simp
  | clientCleared hreleased =>
      obtain ⟨os, htrace, hos⟩ := World.setClient_obs none w
      refine .inr ⟨by simp [DaemonState.record], ?_⟩
      rw [htrace]
      exact attemptReports_other _ fun o ho => by
        obtain ⟨_, _, rfl⟩ := hos o ho
        simp
  | advert | linkLost | servicesRead | inputMatched | notifyResponse | pairResponse | pairWrite
  | initWrite | notifyInput | subscribed | disconnectCalled =>
      exact .inr ⟨rfl, attemptReports_other _ (by simp)⟩
  | _ => exact .inr ⟨rfl, rfl⟩

/-- **A step of a session** counts a report, or leaves the reports and their record. -/
theorem SessionStep.reports (h : SessionStep env w w') :
    (∃ n uinput jsonl, w' = (w.update fun s => { s.countReport n with
        uinput := uinput, jsonlFile := jsonl }).emit (.report n)) ∨
      (w'.st.record = w.st.record ∧ attemptReports w'.trace = attemptReports w.trace) := by
  cases h with
  | effect he =>
      rcases he.reports with ⟨n, uinput, jsonl, -, hcounted⟩ | hkept
      · exact .inl ⟨n, uinput, jsonl, hcounted⟩
      · exact .inr hkept
  | stageDone stage ok => exact .inr ⟨rfl, attemptReports_other _ (by simp)⟩
  | interrupted => exact .inr ⟨rfl, attemptReports_other _ (by simp)⟩

/-- Counting a report keeps the counter right. -/
theorem SessionStep.counted (hs : SessionStep env w w') (h : Counted w) : Counted w' := by
  rcases hs.reports with ⟨n, uinput, jsonl, rfl⟩ | ⟨hrecord, hreports⟩
  · simp only [Counted, World.emit_trace, World.update_trace, attemptReports_report,
      List.length_append, List.length_singleton]
    exact congrArg (· + 1) h
  · have hcount : w'.st.reportCount = w.st.reportCount := congrArg (·.1.1) hrecord
    rw [Counted, hcount, hreports]
    exact h

/-- **A step of a session keeps the attribution.** -/
theorem SessionStep.attributed (hs : SessionStep env w w') (h : Attributed w) : Attributed w' := by
  rcases hs.reports with ⟨n, uinput, jsonl, rfl⟩ | ⟨hrecord, hreports⟩
  · refine ⟨hs.counted h.count, ?_, ?_, ?_, ?_⟩
    · simp [DaemonState.countReport, h.lengths]
    · simp [DaemonState.countReport, h.timestamps]
    · simp only [World.emit_st, World.update_st, DaemonState.countReport, World.emit_trace,
        World.update_trace, attemptReports_report, h.first]
      rcases attemptReports w.trace with _ | ⟨m, ms⟩ <;> rfl
    · intro m hm
      simp only [World.emit_trace, World.update_trace, attemptReports_report,
        List.getLast?_concat, Option.some.injEq] at hm
      rw [← hm]
      rfl
  · have hlengths : w'.st.reportLengths = w.st.reportLengths := congrArg (·.1.2.1) hrecord
    have htimes : w'.st.reportTimestamps = w.st.reportTimestamps := congrArg (·.1.2.2) hrecord
    have hfirst : w'.st.firstReportHex = w.st.firstReportHex := congrArg (·.2.1.1) hrecord
    have hlast : w'.st.lastReportHex = w.st.lastReportHex := congrArg (·.2.1.2) hrecord
    refine ⟨hs.counted h.count, ?_, ?_, ?_, ?_⟩
    · rw [hlengths, hreports]
      exact h.lengths
    · rw [htimes, hreports]
      exact h.timestamps
    · rw [hfirst, hreports]
      exact h.first
    · rw [hlast, hreports]
      exact h.last

/-- No step of a session touches the record of the attempts. -/
theorem SessionStep.attempts (hs : SessionStep env w w') :
    w'.st.attemptedProfiles = w.st.attemptedProfiles ∧
      w'.st.winningProfile = w.st.winningProfile := by
  rcases hs.reports with ⟨n, uinput, jsonl, rfl⟩ | ⟨hrecord, hreports⟩
  · exact ⟨rfl, rfl⟩
  · exact ⟨congrArg (·.2.2.1) hrecord, congrArg (·.2.2.2) hrecord⟩

/-! ## Sessions -/

theorem startSession_counted (profile : Option ProtocolProfile) (w : World) :
    Counted (w.startSession profile) := by
  rw [Counted, World.startSession_trace, attemptReports_start]
  simp [DaemonState.resetFields]

/-- A session counts its own reports. -/
theorem runSession_counted (profile : Option ProtocolProfile) (w : World) :
    wp env (runSession profile) (Post.all Counted) w :=
  runSession_invariant (startSession_counted profile w) fun _ _ hs hw => hs.counted hw

/-- What holds during the attempt of a profile, in terms of the world before it. -/
structure InAttempt (profile : ProtocolProfile) (w₀ w : World) : Prop where
  attributed : Attributed w
  profile : attemptProfile w.trace = some profile
  attempts : w.st.attemptedProfiles = w₀.st.attemptedProfiles
  winner : w.st.winningProfile = w₀.st.winningProfile

/-- With the telemetry cleared, a session records its own reports only. -/
theorem runSession_inAttempt (profile : ProtocolProfile) (w : World)
    (hlengths : w.st.reportLengths = []) (htimes : w.st.reportTimestamps = [])
    (hfirst : w.st.firstReportHex = none) :
    wp env (runSession (some profile)) (Post.all (InAttempt profile w)) w := by
  have hstart : InAttempt profile w (w.startSession (some profile)) := by
    refine ⟨⟨startSession_counted _ w, ?_, ?_, ?_, ?_⟩, ?_, ?_, ?_⟩
    · rw [World.startSession_trace, attemptReports_start]
      simpa [DaemonState.resetFields] using hlengths
    · rw [World.startSession_trace, attemptReports_start]
      simpa [DaemonState.resetFields] using htimes
    · rw [World.startSession_trace, attemptReports_start]
      simpa [DaemonState.resetFields] using hfirst
    · rw [World.startSession_trace, attemptReports_start]
      exact fun _ hn => by cases hn
    · rw [World.startSession_trace]
      exact attemptProfile_start _ _
    · simp [DaemonState.resetFields]
    · simp [DaemonState.resetFields]
  have hstep : ∀ w₁ w₂, SessionStep env w₁ w₂ → InAttempt profile w w₁ →
      InAttempt profile w w₂ := by
    intro w₁ w₂ hs h
    obtain ⟨os, htrace, hos⟩ := hs.obs
    refine ⟨hs.attributed h.attributed, ?_, hs.attempts.1.trans h.attempts,
      hs.attempts.2.trans h.winner⟩
    rw [htrace, attemptProfile_other _ fun o ho p hp => ?_]
    · exact h.profile
    · have hin := hos o ho
      rw [hp] at hin
      cases hin
  exact runSession_invariant hstart hstep

/-! ## The attempts -/

/-- The profiles tried so far all failed. -/
structure Failing (tried : List String) (w : World) : Prop where
  profiles : w.st.attemptedProfiles.map (·.profile) = tried
  failed : ∀ r ∈ w.st.attemptedProfiles, r.success = false
  noWinner : w.st.winningProfile = none

/-- The last profile tried won, with the reports of its attempt. -/
structure Won (tried : List String) (w : World) : Prop where
  attempts : ∃ rs r, w.st.attemptedProfiles = rs ++ [r] ∧ (∀ x ∈ rs, x.success = false) ∧
    r.success = true ∧ w.st.winningProfile = some r.profile
  profiles : w.st.attemptedProfiles.map (·.profile) = tried
  attributed : Attributed w
  profile : (attemptProfile w.trace).map (·.name) = w.st.winningProfile
  reported : 0 < w.st.reportCount

theorem Failing.update {tried : List String} {f : DaemonState → DaemonState} (h : Failing tried w)
    (hf : (f w.st).attemptedProfiles = w.st.attemptedProfiles ∧
      (f w.st).winningProfile = w.st.winningProfile) : Failing tried (w.update f) :=
  ⟨by rw [World.update_st, hf.1]; exact h.profiles, by rw [World.update_st, hf.1]; exact h.failed,
    by rw [World.update_st, hf.2]; exact h.noWinner⟩

/-- During an attempt the earlier ones have failed. -/
theorem InAttempt.failing {profile : ProtocolProfile} {tried : List String} {w₀ : World}
    (h : InAttempt profile w₀ w) (h₀ : Failing tried w₀) : Failing tried w :=
  ⟨by rw [h.attempts]; exact h₀.profiles, by rw [h.attempts]; exact h₀.failed,
    by rw [h.winner]; exact h₀.noWinner⟩

/-- **One attempt** wins with its own reports, or leaves the record of the attempts as it is. -/
theorem tryProfile_attempt {tried : List String} (profile : ProtocolProfile)
    (h : Failing tried w) (hlengths : w.st.reportLengths = [])
    (htimes : w.st.reportTimestamps = []) (hfirst : w.st.firstReportHex = none) :
    wp env (tryProfile profile) ⟨fun r w' => Won (tried ++ [profile.name])
        (w'.update fun s => { s with attemptedProfiles := s.attemptedProfiles ++ [r] }) ∧
          r.success = true ∨
        Failing (tried ++ [profile.name])
        (w'.update fun s => { s with attemptedProfiles := s.attemptedProfiles ++ [r] }) ∧
          r.success = false,
      fun _ => Failing tried, Failing tried⟩ w := by
  refine wp_bind ((runSession_inAttempt profile w hlengths htimes hfirst).mono ?_
    (fun _ _ h' => InAttempt.failing h' h) fun _ h' => InAttempt.failing h' h)
  intro ok w' h'
  have hin : InAttempt profile w w' := h'
  have hfailing := hin.failing h
  have hprofiles : ((w'.st.attemptedProfiles ++ [attemptResult profile w'.st ok]).map
      (·.profile)) = tried ++ [profile.name] := by
    rw [List.map_append, hfailing.profiles]
    rfl
  refine (wp_get_bind _).mpr (wp_ite (fun hs => ?_) fun hs => ?_)
  · refine (wp_modify_bind _ _).mpr ((wp_pure _).mpr (.inl ⟨⟨?_, ?_, ?_, ?_, ?_⟩, hs⟩))
    · exact ⟨w'.st.attemptedProfiles, attemptResult profile w'.st ok, rfl, hfailing.failed, hs, rfl⟩
    · exact hprofiles
    · obtain ⟨hcount, hlen, htime, hfst, hlst⟩ := hin.attributed
      exact ⟨hcount, hlen, htime, hfst, hlst⟩
    · show (attemptProfile w'.trace).map (·.name) = some profile.name
      rw [hin.profile]
      rfl
    · simp only [attemptResult, Bool.and_eq_true, decide_eq_true_eq] at hs
      exact hs.2
  · have hs : (attemptResult profile w'.st ok).success = false := by simpa using hs
    refine (wp_pure _).mpr (.inr ⟨⟨hprofiles, fun r hr => ?_, hfailing.noWinner⟩, hs⟩)
    rcases List.mem_append.mp hr with hr | hr
    · exact hfailing.failed r hr
    · rw [List.mem_singleton.mp hr]
      exact hs

/-- What the auto loop leaves: no winner, or one. -/
def AutoTried (w : World) : Prop :=
  ∃ tried, tried <+: autoProfileOrder ∧ (Failing tried w ∨ Won tried w)

/-- The names of the order are proper texts. -/
theorem autoProfileOrder_nonempty :
    ∀ n ∈ autoProfileOrder, falsyText (some n) = false := by decide

/-- **The auto loop** tries the profiles in order, up to the first that wins. -/
theorem autoLoop_attempts (names : List String) :
    ∀ {tried : List String} {w : World}, tried ++ names = autoProfileOrder → Failing tried w →
      wp env (autoLoop names) ⟨fun _ => AutoTried,
        fun _ w' => ∃ tried, tried <+: autoProfileOrder ∧ Failing tried w',
        fun w' => ∃ tried, tried <+: autoProfileOrder ∧ Failing tried w'⟩ w := by
  induction names with
  | nil =>
      intro tried w horder h
      exact (wp_pure _).mpr ⟨tried, ⟨[], horder⟩, .inl h⟩
  | cons name names ih =>
      intro tried w horder h
      have hpre : tried <+: autoProfileOrder := ⟨name :: names, horder⟩
      have horder' : (tried ++ [name]) ++ names = autoProfileOrder := by simpa using horder
      have hname : ((protocolProfiles.lookup name).getD profileMacos).name = name := by
        have hmem : name ∈ autoProfileOrder := by
          rw [← horder]
          simp
        exact autoProfileOrder_name name hmem
      refine (wp_get_bind _).mpr (wp_ite (fun _ => (wp_pure _).mpr ⟨tried, hpre, .inl h⟩)
        fun _ => ?_)
      refine (wp_modify_bind _ _).mpr ?_
      have hcleared : Failing tried (w.update DaemonState.clearTelemetry) := h.update ⟨rfl, rfl⟩
      refine wp_bind ((tryProfile_attempt _ hcleared rfl rfl rfl).mono ?_
        (fun _ _ h => ⟨tried, hpre, h⟩) (fun _ h => ⟨tried, hpre, h⟩))
      intro r w' h'
      rw [hname] at h'
      refine (wp_modify_bind _ _).mpr ?_
      rcases h' with ⟨hwon, hs⟩ | ⟨hfailing, hs⟩
      · rw [if_pos hs]
        exact (wp_pure _).mpr ⟨tried ++ [name], ⟨names, horder'⟩, .inr hwon⟩
      · rw [if_neg (by simp [hs])]
        refine wp_ite (fun _ => ?_) fun _ => ih horder' hfailing
        refine (wp_modify_bind _ _).mpr (ih horder' ⟨?_, ?_, ?_⟩)
        · simpa [DaemonState.resetFields] using hfailing.profiles
        · simpa [DaemonState.resetFields] using hfailing.failed
        · simpa [DaemonState.resetFields] using hfailing.noWinner

/-! ## The summary -/

/-- A summary describes exactly the given reports. -/
structure Describes (ns : List Notification) (st : DaemonState) (s : Summary) : Prop where
  reported : 1 ≤ ns.length
  count : s.reportCount = ns.length
  lengths : st.reportLengths = ns.map (·.data.length)
  timestamps : st.reportTimestamps = ns.map (·.now)
  telemetry : s.telemetry = st.telemetry
  first : s.firstReportHex = ns.head?.map fun n => Octets.hex n.data
  last : s.lastReportHex = ns.getLast?.map fun n => Octets.hex n.data

/-- **The result of auto-detect mode**: the attempts are the first ones of the order, at most the
last one succeeded, it is the winner, and the summary describes the reports of its attempt. -/
structure AutoResult (code : ℕ) (w : World) : Prop where
  profiles : w.st.attemptedProfiles.map (·.profile) <+: autoProfileOrder
  oneSuccess : ∀ r ∈ w.st.attemptedProfiles.dropLast, r.success = false
  winner : w.st.winningProfile =
    (w.st.attemptedProfiles.getLast?.filter (·.success)).map (·.profile)
  exitCode : code = 0 ↔ w.st.winningProfile.isSome
  summary : ∃ tr s, w.trace = tr ++ [.summary s] ∧ s.exitCode = code ∧
    s.head = .auto w.st.attemptedProfiles w.st.winningProfile ∧
    ∀ name, w.st.winningProfile = some name → (attemptProfile tr).map (·.name) = some name ∧
      Describes (attemptReports tr) w.st s

theorem Failing.autoResult {tried : List String} (h : Failing tried w)
    (htried : tried <+: autoProfileOrder) (s : Summary) (hexit : s.exitCode = 16)
    (hhead : s.head = .auto w.st.attemptedProfiles w.st.winningProfile) :
    AutoResult 16 (w.emit (.summary s)) where
  profiles := by
    rw [World.emit_st, h.profiles]
    exact htried
  oneSuccess := fun r hr => h.failed r (List.dropLast_subset _ hr)
  winner := by
    rw [World.emit_st, h.noWinner]
    rcases hlast : w.st.attemptedProfiles.getLast? with _ | r
    · rfl
    · have hfailed := h.failed r (List.mem_of_getLast? hlast)
      simp [Option.filter, hfailed]
  exitCode := by simp [h.noWinner]
  summary := ⟨w.trace, s, rfl, hexit, hhead, fun name hname => by
    rw [World.emit_st, h.noWinner] at hname
    cases hname⟩

theorem Won.autoResult {tried : List String} (h : Won tried w)
    (htried : tried <+: autoProfileOrder) (s : Summary) (hexit : s.exitCode = 0)
    (hhead : s.head = .auto w.st.attemptedProfiles w.st.winningProfile)
    (hcount : s.reportCount = w.st.reportCount) (htelemetry : s.telemetry = w.st.telemetry)
    (hfirst : s.firstReportHex = w.st.firstReportHex)
    (hlast : s.lastReportHex = w.st.lastReportHex) :
    AutoResult 0 (w.emit (.summary s)) := by
  obtain ⟨rs, r, hattempts, hfailed, hs, hwinner⟩ := h.attempts
  refine ⟨?_, fun x hx => hfailed x ?_, ?_, by simp [hwinner], w.trace, s, rfl, hexit, hhead,
    fun name hname => ⟨?_, ?_⟩⟩
  · rw [World.emit_st, h.profiles]
    exact htried
  · rw [World.emit_st, hattempts, List.dropLast_concat] at hx
    exact hx
  · simp [hwinner, hattempts, Option.filter, hs]
  · rw [← hname]
    exact h.profile
  · have hattributed := h.attributed
    have hpos : 1 ≤ (attemptReports w.trace).length := by
      rw [← hattributed.count]
      exact h.reported
    refine ⟨hpos, hcount.trans hattributed.count, hattributed.lengths, hattributed.timestamps,
      htelemetry, hfirst.trans hattributed.first, ?_⟩
    rw [hlast]
    rcases hgot : (attemptReports w.trace).getLast? with _ | n
    · rw [List.getLast?_eq_none_iff] at hgot
      rw [hgot] at hpos
      cases hpos
    · exact hattributed.last n hgot

/-- **Auto-detect attribution.** In every run the attempts recorded so far are the first ones of
the order and have failed; when the mode returns, its result is as it should be. -/
theorem autoDetectMode_attribution (env : DaemonEnv) (w : World)
    (hattempts : w.st.attemptedProfiles = []) (hwinner : w.st.winningProfile = none) :
    wp env autoDetectMode ⟨AutoResult,
      fun _ w' => ∃ tried, tried <+: autoProfileOrder ∧ Failing tried w',
      fun w' => ∃ tried, tried <+: autoProfileOrder ∧ Failing tried w'⟩ w := by
  have hnew : Failing [] w := ⟨by rw [hattempts]; rfl, by simp [hattempts], hwinner⟩
  refine (autoLoop_attempts autoProfileOrder rfl hnew).seq ?_
  rintro - w' ⟨tried, htried, hfailing | hwon⟩
  · have hfalsy : falsyText w'.st.winningProfile = true := by
      rw [hfailing.noWinner]
      rfl
    refine (wp_get_bind _).mpr ((wp_modify_bind _ _).mpr ((wp_pure _).mpr ?_))
    simp only [autoExitCode, hfalsy, if_true]
    exact hfailing.autoResult htried _ rfl rfl
  · have hfalsy : falsyText w'.st.winningProfile = false := by
      obtain ⟨rs, r, hrs, -, -, hwin⟩ := hwon.attempts
      have hmem : r.profile ∈ autoProfileOrder := by
        refine htried.subset ?_
        rw [← hwon.profiles, hrs]
        simp
      rw [hwin]
      exact autoProfileOrder_nonempty r.profile hmem
    refine (wp_get_bind _).mpr ((wp_modify_bind _ _).mpr ((wp_pure _).mpr ?_))
    simp only [autoExitCode, hfalsy]
    exact hwon.autoResult htried _ rfl rfl rfl rfl rfl rfl

/-- A controller that answers `macos` and sends one report. -/
def macosEnv : DaemonEnv := padEnv fun
  | 1 => [.advert ⟨"E0:EF:BF:3B:C6:76"⟩ (padAdvert [1, 2, 3, 4, 5, 6])]
  | 6 => [.notification 0 padReport fun _ => .none]
  | _ => []

theorem macosEnv_noShutdown : NoShutdown macosEnv := by
  intro t e he hshutdown
  simp only [macosEnv, padEnv] at he
  split at he <;> simp_all

/-- Auto-detect mode at its start. -/
def autoStart : Run World := ⟨World.new (defaultArgs true false "auto"), 0, 20⟩

/-- The report is attributed to `macos`. -/
theorem autoDetectMode_attribution_macos :
    AutoResult 0 (autoDetectMode macosEnv autoStart).2.state :=
  (autoDetectMode_attribution macosEnv autoStart.state rfl rfl).done
    (show (autoDetectMode macosEnv autoStart).1 = .done 0 by decide +kernel)

end Switch2Bt
