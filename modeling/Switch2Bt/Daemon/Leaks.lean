import Switch2Bt.Daemon.ActiveProfile
import Switch2Bt.Daemon.Attribution

/-!
# No connection is leaked (`switch2d.py`, `run_session`, `cleanup_client`, `reset_session`)

`state.client` stops referring to a client in three places: `cleanup_client` calls `disconnect()`
before, `reset_session` and `stage_connect` do not. They rely on the client being gone already,
which the early return of `run_session` on shutdown breaks: the auto loop goes on with
`reset_session`. `asyncMain_noLeak` says that this is the only way to leak a connection.

* `NoLeak`: every client dropped with its link up had `disconnect()` called before.
* `HeldInterruption`: a session ended by the early return with a connected client, before the last
  profile of the order and without reports.
-/

namespace Switch2Bt

open Await

/-- **No connection is leaked**: `disconnect()` was called on every client dropped with its link
up. -/
def NoLeak (tr : List Obs) : Prop :=
  ∀ before id after, tr = before ++ .dropped id true :: after → .disconnectCalled id ∈ before

/-- A session returned early with a connected client, in an attempt without reports whose profile is
not the last one of the order. -/
def HeldInterruption (tr : List Obs) : Prop :=
  ∃ before q id after, tr = before ++ .interrupted q (some id) true :: after ∧
    some q.name ≠ autoProfileOrder.getLast? ∧ attemptReports before = []

variable {env : DaemonEnv} {part : Stage} {w w' : World} {p : ProtocolProfile}

/-! ## Traces -/

theorem NoLeak.concat {tr : List Obs} (h : NoLeak tr) {o : Obs}
    (ho : ∀ id, o = .dropped id true → .disconnectCalled id ∈ tr) : NoLeak (tr ++ [o]) := by
  intro before id after heq
  rcases List.eq_nil_or_concat after with rfl | ⟨after, o', rfl⟩
  · obtain ⟨rfl, ho'⟩ := List.append_inj' heq rfl
    exact ho id (List.cons.inj ho').1
  · rw [List.concat_eq_append, ← List.cons_append, ← List.append_assoc] at heq
    exact h before id after (List.append_inj' heq rfl).1

/-- What drops no connected client leaks none. -/
theorem NoLeak.append {tr os : List Obs} (h : NoLeak tr)
    (hos : ∀ o ∈ os, ∀ id, o ≠ .dropped id true) :
    NoLeak (tr ++ os) := by
  induction os using List.reverseRecOn with
  | nil => rwa [List.append_nil]
  | append_singleton os o ih =>
      rw [← List.append_assoc]
      refine (ih fun x hx => hos x (List.mem_append_left _ hx)).concat fun id ho => ?_
      exact absurd ho (hos o (by simp) id)

theorem HeldInterruption.append {tr : List Obs} (h : HeldInterruption tr) (os : List Obs) :
    HeldInterruption (tr ++ os) := by
  obtain ⟨before, q, id, after, rfl, hq⟩ := h
  exact ⟨before, q, id, after ++ os, by simp, hq⟩

/-! ## Sessions -/

/-- Nothing leaked yet. -/
def World.Clean (w : World) : Prop := NoLeak w.trace

/-- Nothing leaked yet, and there is no client that could be. -/
def World.Free (w : World) : Prop := w.Clean ∧ w.st.client = none

/-- Dropping the client leaks it only if it is connected and `disconnect()` was not called. -/
theorem World.Clean.setClient {c : Option ClientId} (h : w.Clean)
    (hc : ∀ id, w.st.client = some id → c ≠ some id → id ∈ w.up → .disconnectCalled id ∈ w.trace) :
    (w.setClient c).Clean := by
  by_cases hkeep : ∀ old, w.st.client = some old → c = some old
  · rw [World.Clean, World.setClient_trace_keep hkeep]
    exact h
  · simp only [not_forall] at hkeep
    obtain ⟨old, hold, hne⟩ := hkeep
    rw [World.Clean, World.setClient_trace_drop hold hne]
    refine NoLeak.concat h fun id hid => ?_
    cases hup : decide (old ∈ w.up) <;> rw [hup] at hid <;> cases hid
    exact hc old hold hne (of_decide_eq_true hup)

/-- **No effect leaks a connection**, but for those of connecting. -/
theorem World.Clean.effect (he : Effect env part w w') (hpart : part ≠ .connect) (h : w.Clean) :
    w'.Clean := by
  cases he with
  | storeClient id => exact absurd rfl hpart
  | clientCleared hreleased => exact h.setClient fun id hid _ hup => hreleased id hid hup
  | report | advert | linkLost | servicesRead | inputMatched | notifyResponse | pairResponse
  | pairWrite | initWrite | notifyInput | subscribed | disconnectCalled =>
      exact NoLeak.append h (by simp)
  | _ => exact h

theorem World.Clean.reach (h : w.Clean) (hr : Reach env part w w') (hpart : part ≠ .connect) :
    w'.Clean := hr.invariant (fun _ _ he hw => hw.effect he hpart) h

/-- Events keep a world without a client so. -/
theorem World.Free.event (h : w.Free) (he : Effect env .preflight w w') : w'.Free :=
  ⟨h.1.effect he (by simp), (Reach.client (Reach.tail .refl he) (by simp) (by simp)).trans h.2⟩

theorem awaitCall_free (c : Call) : Always env World.Free (awaitCall c) :=
  awaitCall_always (fun _ _ he h => h.event he) c

theorem World.Free.clean (h : w.Free) : w.Clean := h.1

/-- A call that is awaited under a condition only. -/
theorem await_skip_free {c : Prop} [Decidable c] {α : Type} {call : Call} {k : Daemon α}
    (h : w.Free) (hk : ∀ w : World, w.Free → wp env k (Post.all World.Clean) w) :
    wp env (if c then awaitCall call >>= fun _ => k else k) (Post.all World.Clean) w :=
  wp_ite (fun _ => (awaitCall_free call).wp_bind h (fun _ w hw => hk w hw) (fun _ _ h => h.clean)
    fun _ h => h.clean) fun _ => hk w h

theorem storeClient_clean (id : ClientId) (h : w.Free) : (w.storeClient id).Clean := by
  have hclient : ({ w with up := id :: w.up } : World).Clean := h.1
  have hset := hclient.setClient (c := some id) fun old hold _ _ => by
    rw [show ({ w with up := id :: w.up } : World).st.client = none from h.2] at hold
    cases hold
  exact NoLeak.append hset (by simp)

/-- Connecting stores at most one client, where there was none. -/
theorem connectAttempts_clean (id : ClientId) (remaining attempt : ℕ) (h : w.Free) :
    wp env (connectAttempts id remaining attempt) (Post.all World.Clean) w := by
  induction remaining generalizing attempt w with
  | zero => exact (wp_pure _).mpr h.1
  | succ k ih =>
      refine await_skip_free h fun w₁ h₁ => ?_
      refine (awaitCall_free _).wp_bind h₁ ?_ (fun _ _ h => h.clean) fun _ h => h.clean
      rintro (e | _) w₂ h₂
      · exact ih _ h₂
      · exact (wp_modify_bind _ _).mpr ((wp_pure _).mpr (storeClient_clean id h₂))

theorem stageConnect_clean (h : w.Free) : wp env stageConnect (Post.all World.Clean) w :=
  (wp_get_bind _).mpr ((wp_modify_bind _ _).mpr
    (connectAttempts_clean (w := { w with nextClient := w.nextClient + 1 }) _ _ _ h))

/-- The session has just returned early. -/
def Stopped (w : World) : Prop :=
  w.st.shutdown = true ∧ ∃ before, w.trace = before ++ [.interrupted w.st.activeProfile w.st.client
    (w.st.client.any fun id => decide (id ∈ w.up))] ∧ attemptReports before = attemptReports w.trace

/-- How the stages end: early, or after a failure without a client, or all of them succeeded. -/
structure EndedClean (r : Option Bool) (w : World) : Prop where
  clean : w.Clean
  stopped : r = some true → Stopped w
  released : r = some false → w.st.client = none

/-- The stages leak nothing. -/
def StagesClean : Post World PyErr (Option Bool) :=
  ⟨EndedClean, fun _ => World.Clean, World.Clean⟩

theorem interrupted_clean (h : w.Clean) (hs : w.st.shutdown = true) :
    EndedClean (some true) (w.emit (.interrupted w.st.activeProfile w.st.client
      (w.st.client.any fun id => decide (id ∈ w.up)))) := by
  refine ⟨NoLeak.append h (by simp), fun _ => ⟨hs, w.trace, rfl, ?_⟩, by simp⟩
  exact (attemptReports_other _ (by simp)).symm

theorem cleanupClient_clean (h : w.Clean) : wp env cleanupClient
    ⟨fun _ => World.Free, fun _ _ => False, World.Clean⟩ w :=
  (cleanupClient_spec (Reach.refl (w := w))).mono (fun _ _ hr => ⟨h.reach hr.1 (by simp), hr.2⟩)
    (fun _ _ h => h) fun _ hr => h.reach hr (by simp)

theorem failed_clean (h : w.Clean) : wp env cleanupClient
    ⟨fun _ => EndedClean (some false), fun _ => World.Clean, World.Clean⟩ w :=
  (cleanupClient_clean h).mono (fun _ _ h => ⟨h.1, by simp, fun _ => h.2⟩)
    (fun _ _ h => h.elim) fun _ h => h

/-- Stages other than connecting leak nothing. -/
theorem runStages_clean (stages : List (Stage × Daemon Bool))
    (hstages : ∀ s ∈ stages, s.1 ≠ .connect ∧ ∀ w, Always env (Reach env s.1 w) s.2) :
    ∀ {w : World}, w.Clean → wp env (runStages stages) StagesClean w := by
  induction stages with
  | nil => exact fun h => (wp_pure _).mpr ⟨h, by simp, by simp⟩
  | cons s rest ih =>
      intro w h
      obtain ⟨hpart, hreach⟩ := hstages s List.mem_cons_self
      refine runStages_cons_wp (B := World.Clean) (F := World.Clean) (interrupted_clean h)
        (fun _ => ?_)
        (fun _ hw => ih (fun s hs => hstages s (List.mem_cons_of_mem _ hs)) hw)
        fun _ hw => failed_clean hw
      refine (hreach w w .refl).mono (fun ok w' hr => ?_) (fun _ _ hr => h.reach hr hpart)
        fun _ hr => h.reach hr hpart
      have hclean : ∀ ok, (w'.emit (.stageDone s.1 ok)).Clean := fun _ =>
        NoLeak.append (h.reach hr hpart) (by simp)
      cases ok <;> exact hclean _

/-- A session scans, then connects, once. -/
theorem sessionStages_cons (p : ProtocolProfile) : ∃ rest, sessionStages p =
    (.scan, stageScan) :: (.connect, stageConnect) :: rest ∧ ∀ s ∈ rest, s.1 ≠ .connect := by
  refine ⟨_, rfl, fun s hs => ?_⟩
  simp only [List.append_eq, List.mem_append, List.mem_cons, List.not_mem_nil, or_false] at hs
  rcases hs with (rfl | hpair) | rfl | rfl
  · decide
  · split at hpair
    · obtain rfl := List.mem_singleton.mp hpair
      decide
    · cases hpair
  · decide
  · decide

/-- The stages of a session leak nothing, if it starts without a client. -/
theorem sessionStages_clean (p : ProtocolProfile) (h : w.Free) :
    wp env (runStages (sessionStages p)) StagesClean w := by
  have hreach : ∀ s ∈ sessionStages p, ∀ w, Always env (Reach env s.1 w) s.2 :=
    sessionStages_reach p
  obtain ⟨rest, hrest, hpart⟩ := sessionStages_cons p
  rw [hrest] at hreach ⊢
  refine runStages_cons_wp (B := World.Free) (F := World.Clean) (interrupted_clean h.1)
    (fun _ => ?_) (fun w₁ h₁ => ?_) fun _ hw => failed_clean hw
  · refine (stageScan_reach w .refl).mono (fun ok w₁ hr => ?_)
      (fun _ _ hr => h.1.reach hr (by simp)) fun _ hr => h.1.reach hr (by simp)
    have hclean : ∀ ok, (w₁.emit (.stageDone .scan ok)).Clean := fun _ =>
      NoLeak.append (h.1.reach hr (by simp)) (by simp)
    have hclient : w₁.st.client = none := (Reach.client hr (by simp) (by simp)).trans h.2
    cases ok with
    | true => exact ⟨hclean true, hclient⟩
    | false => exact hclean false
  refine runStages_cons_wp (B := World.Clean) (F := World.Clean) (interrupted_clean h₁.1)
    (fun _ => ?_) (fun w₂ h₂ => ?_) fun _ hw => failed_clean hw
  · refine (stageConnect_clean h₁).mono (fun ok w₂ h₂ => ?_) (fun _ _ h => h) fun _ h => h
    have hclean : ∀ ok, (w₂.emit (.stageDone .connect ok)).Clean := fun _ =>
      NoLeak.append h₂ (by simp)
    cases ok <;> exact hclean _
  · exact runStages_clean rest (fun s hs => ⟨hpart s hs,
      hreach s (List.mem_cons_of_mem _ (List.mem_cons_of_mem _ hs))⟩) h₂

/-- **A session that starts without a client** leaks nothing, and ends without a client unless it
returns early. -/
theorem runSession_clean (profile : Option ProtocolProfile) (h : w.Free) :
    wp env (runSession profile) ⟨fun ok w' => w'.Clean ∧
      (Stopped w' ∧ ok = true ∨ w'.st.client = none), fun _ => World.Clean, World.Clean⟩ w := by
  refine (wp_modify_bind _ _).mpr ((wp_get_bind _).mpr ?_)
  have hstart : (w.startSession profile).Free := by
    refine ⟨?_, by simp [DaemonState.resetFields]⟩
    rw [World.Clean, World.startSession_trace]
    exact NoLeak.append (h.1.setClient fun id hid => by rw [h.2] at hid; cases hid) (by simp)
  refine (sessionStages_clean _ hstart).seq ?_
  rintro r w₁ ⟨hclean, hstopped, hfailed⟩
  rcases r with _ | _ | _
  · have hkept : ∀ w', Reach env .running w₁ w' → w'.Clean := fun _ hr =>
      hclean.reach hr (by simp)
    refine wp_bind ((runningLoop_reach w₁ .refl).mono ?_ (fun _ w' hr => hkept w' hr)
      fun w' hr => hkept w' hr)
    intro _ w₂ hr₂
    refine wp_bind ((cleanupClient_clean (hkept w₂ hr₂)).mono ?_ (fun _ _ h => h.elim)
      fun _ h => h)
    intro _ w₃ h₃
    exact (wp_get_bind _).mpr ((wp_pure _).mpr ⟨h₃.1, .inr h₃.2⟩)
  · exact (wp_pure _).mpr ⟨hclean, .inr (hfailed rfl)⟩
  · exact (wp_pure _).mpr ⟨hclean, .inl ⟨hstopped rfl, rfl⟩⟩

/-- A session keeps its profile active. -/
theorem runSession_active (p : ProtocolProfile) (w : World) :
    wp env (runSession (some p)) (Post.all fun w' => w'.st.activeProfile = p) w := by
  have hstep : ∀ w₁ w₂, SessionStep env w₁ w₂ → w₁.st.activeProfile = p →
      w₂.st.activeProfile = p := by
    intro w₁ w₂ hs h
    cases hs with
    | effect he => exact (Reach.activeProfile (Reach.tail .refl he)).trans h
    | stageDone | interrupted => exact h
  exact runSession_invariant (by simp [DaemonState.resetFields]) hstep

/-! ## The modes that run sessions one way -/

theorem World.Clean.emit (h : w.Clean) {o : Obs} (ho : ∀ id, o ≠ .dropped id true) :
    (w.emit o).Clean :=
  NoLeak.append h fun x hx id => by rw [List.mem_singleton.mp hx]; exact ho id

theorem diagnoseProfile_clean (p : ProtocolProfile) (h : w.Free) :
    wp env (diagnoseProfile p) (Post.all World.Clean) w := by
  refine (runSession_clean (some p) h).seq ?_
  rintro ok w' ⟨hclean, -⟩
  exact (wp_get_bind _).mpr ((wp_modify_bind _ _).mpr ((wp_pure _).mpr (hclean.emit (by simp))))

theorem singleSession_clean (profile : String) (h : w.Free) :
    wp env (singleSession profile) (Post.all World.Clean) w := by
  refine (runSession_clean _ h).seq ?_
  rintro ok w' ⟨hclean, -⟩
  exact (wp_get_bind _).mpr ((wp_pure _).mpr hclean)

theorem sleepBreakable_free (limit : ℚ) (k : ℕ) :
    Always env World.Free (sleepBreakable limit k) := by
  induction k with
  | zero => exact Always.pure _
  | succ k ih =>
      refine Always.read fun _ _ => Always.ite (Always.pure _) ?_
      exact (awaitCall_free _).bind fun _ => Always.ite (Always.pure _) ih

theorem World.Free.emit (h : w.Free) {o : Obs} (ho : ∀ id, o ≠ .dropped id true) :
    (w.emit o).Free := ⟨h.1.emit ho, h.2⟩

theorem afterSuccess_free : Always env World.Free afterSuccess := by
  refine Always.bind (Always.modify fun _ h => h) fun _ => ?_
  exact (awaitCall_free _).bind fun _ => Always.pure _

theorem afterFailure_free : Always env World.Free afterFailure := by
  refine Always.bind (Always.modify fun _ h => h) fun _ => Always.read fun w _ => ?_
  refine (Always.ofExcept _).bind fun delay => ?_
  exact Always.bind (Always.modify fun _ h => World.Free.emit h (by simp)) fun _ =>
    sleepBreakable_free _ _

/-- Daemon mode starts every session without a client: it ends after an early return. -/
theorem reconnectLoop_clean (h : w.Free) : wp env reconnectLoop (Post.all World.Clean) w := by
  refine wp_loop (fun _ => World.Free) (fun _ _ h => World.Free.clean h) (fun k w h => ?_) h
  refine (wp_get_bind _).mpr (wp_ite (fun _ => (wp_pure _).mpr (World.Free.clean h)) fun _ => ?_)
  refine (runSession_clean none h).seq ?_
  rintro ok w₁ ⟨hclean, hend⟩
  refine (wp_modify_bind _ _).mpr ((wp_get_bind _).mpr (wp_ite (fun _ => ?_) fun hs => ?_))
  · exact (wp_pure _).mpr (hclean.emit (by simp))
  · have hfree : (w₁.emit (.sessionEnd ok)).Free := by
      rcases hend with ⟨hstopped, -⟩ | hnone
      · exact absurd hstopped.1 hs
      · exact ⟨hclean.emit (by simp), hnone⟩
    refine wp_ite (fun _ => afterSuccess_free.wp_bind hfree (fun _ _ h => (wp_pure _).mpr h) ?_ ?_)
      fun _ => afterFailure_free.wp_bind hfree (fun _ _ h => (wp_pure _).mpr h) ?_ ?_
    · exact fun _ _ h => World.Free.clean h
    · exact fun _ h => World.Free.clean h
    · exact fun _ _ h => World.Free.clean h
    · exact fun _ h => World.Free.clean h

/-! ## Auto-detect mode -/

/-- Nothing leaked, but for a held interruption. -/
def AutoClean (w : World) : Prop := HeldInterruption w.trace ∨ w.Clean

/-- Between attempts there is no client, or the loop is about to end. -/
def BetweenAttempts (w : World) : Prop := w.Free ∨ w.st.shutdown = true ∧ AutoClean w

/-- An attempt after which a client is still held has been interrupted. -/
structure TriedClean (profile : ProtocolProfile) (r : AttemptResult) (w : World) : Prop where
  clean : w.Clean
  held : w.st.client = none ∨ w.st.shutdown = true ∧ (r.success = false →
    ∃ before, w.trace = before ++ [.interrupted profile w.st.client
      (w.st.client.any fun id => decide (id ∈ w.up))] ∧ attemptReports before = [])

theorem tryProfile_clean (profile : ProtocolProfile) (h : w.Free) :
    wp env (tryProfile profile)
      ⟨TriedClean profile, fun _ => World.Clean, World.Clean⟩ w := by
  refine wp_bind ((((runSession_clean (some profile) h).and (runSession_active profile w)).and
    (runSession_counted (some profile) w)).mono ?_ (fun _ _ h => h.1.1) fun _ h => h.1.1)
  rintro ok w' ⟨⟨⟨hclean, hend⟩, hactive⟩, hcount⟩
  have hactive : w'.st.activeProfile = profile := hactive
  have hcount : w'.st.reportCount = (attemptReports w'.trace).length := hcount
  have htried : TriedClean profile (attemptResult profile w'.st ok) w' := by
    refine ⟨hclean, ?_⟩
    rcases hend with ⟨⟨hs, before, htrace, hbefore⟩, hok⟩ | hnone
    · refine .inr ⟨hs, fun hfailed => ⟨before, hactive ▸ htrace, ?_⟩⟩
      have hzero : w'.st.reportCount = 0 := by simpa [attemptResult, hok] using hfailed
      rw [hbefore]
      exact List.length_eq_zero_iff.mp (hcount.symm.trans hzero)
    · exact .inl hnone
  refine (wp_get_bind _).mpr (wp_ite (fun _ => ?_) fun _ => (wp_pure _).mpr htried)
  exact (wp_modify_bind _ _).mpr ((wp_pure _).mpr ⟨htried.clean, htried.held⟩)

/-- Resetting the session after a failed attempt leaks the client only in a held interruption. -/
theorem TriedClean.resetSession {profile : ProtocolProfile} {r : AttemptResult}
    (h : TriedClean profile r w) (hr : r.success = false)
    (hname : some profile.name ≠ autoProfileOrder.getLast?) : BetweenAttempts w.resetSession := by
  have hreset : w.resetSession.trace = (w.setClient none).trace := rfl
  have hnone : w.resetSession.st.client = none := by simp [DaemonState.resetFields]
  by_cases hup : ∃ id, w.st.client = some id ∧ id ∈ w.up
  · obtain ⟨id, hid, hup⟩ := hup
    obtain ⟨hs, hheld⟩ := h.held.resolve_left (by simp [hid])
    obtain ⟨before, htrace, hbefore⟩ := hheld hr
    have hinterrupted : HeldInterruption w.trace :=
      ⟨before, profile, id, [], by simpa [hid, hup] using htrace, hname, hbefore⟩
    obtain ⟨os, hos, -⟩ := World.setClient_obs none w
    refine .inr ⟨by simpa [DaemonState.resetFields] using hs, .inl ?_⟩
    rw [hreset, hos]
    exact hinterrupted.append os
  · refine .inl ⟨?_, hnone⟩
    rw [World.Clean, hreset]
    exact h.clean.setClient fun id hid _ hmem => absurd ⟨id, hid, hmem⟩ hup

theorem autoLoop_clean (names : List String) (hnames : ∀ n ∈ names, n ∈ autoProfileOrder) :
    ∀ {w : World}, BetweenAttempts w → wp env (autoLoop names) (Post.all AutoClean) w := by
  have hbetween : ∀ {w : World}, BetweenAttempts w → AutoClean w := fun h =>
    h.elim (fun h => .inr h.1) fun h => h.2
  induction names with
  | nil =>
      intro w h
      exact (wp_pure _).mpr (hbetween h)
  | cons name names ih =>
      intro w h
      have ih := @ih fun n hn => hnames n (List.mem_cons_of_mem _ hn)
      refine (wp_get_bind _).mpr (wp_ite (fun _ => (wp_pure _).mpr (hbetween h)) fun hs => ?_)
      have hfree : w.Free := h.resolve_right fun h => hs h.1
      refine (wp_modify_bind _ _).mpr ?_
      refine wp_bind ((tryProfile_clean (w := w.update DaemonState.clearTelemetry) _ hfree).mono ?_
        (fun _ _ h => .inr h) fun _ h => .inr h)
      intro r w' htried
      have htried : TriedClean ((protocolProfiles.lookup name).getD profileMacos) r w' := htried
      have htried : TriedClean ((protocolProfiles.lookup name).getD profileMacos) r
          (w'.update fun s => { s with attemptedProfiles := s.attemptedProfiles ++ [r] }) :=
        ⟨htried.clean, htried.held⟩
      refine (wp_modify_bind _ _).mpr (wp_ite (fun _ => (wp_pure _).mpr (.inr htried.clean))
        fun hr => wp_ite (fun hname => ?_) fun _ => ih ?_)
      · refine (wp_modify_bind _ _).mpr (ih (htried.resetSession (by simpa using hr) ?_))
        rw [autoProfileOrder_name name (hnames name List.mem_cons_self)]
        exact hname
      · exact htried.held.elim (fun hnone => .inl ⟨htried.clean, hnone⟩)
          fun hstopped => .inr ⟨hstopped.1, .inr htried.clean⟩

theorem autoDetectMode_clean (h : w.Free) : wp env autoDetectMode (Post.all AutoClean) w := by
  refine (autoLoop_clean autoProfileOrder (fun _ hn => hn) (.inl h)).seq fun _ w' h' => ?_
  refine (wp_get_bind _).mpr ((wp_modify_bind _ _).mpr ((wp_pure _).mpr ?_))
  exact Or.imp (fun hheld => hheld.append _) (fun hclean => World.Clean.emit hclean (by simp)) h'

/-! ## The program -/

/-- The command line selects auto-detect mode.
Source: `switch2d.py` `async_main`, `diagnose_mode` -/
def AutoMode (args : Args) : Prop :=
  args.diagnose = true ∧ (resolveProfile args).profile = "auto"

/-- Nothing leaked, but for a held interruption in auto-detect mode. -/
def MainClean (args : Args) (w : World) : Prop :=
  (AutoMode args ∧ HeldInterruption w.trace) ∨ w.Clean

theorem runMode_clean {args : Args} (h : w.Free) (hargs : w.st.args = resolveProfile args) :
    wp env (runMode (resolveProfile args)) (Post.all (MainClean args)) w := by
  have hclean : ∀ {m : Daemon ℕ}, wp env m (Post.all World.Clean) w →
      wp env m (Post.all (MainClean args)) w := fun h =>
    h.mono (fun _ _ h => .inr h) (fun _ _ h => .inr h) fun _ h => .inr h
  refine wp_ite (fun hdiagnose => ?_) fun _ => wp_ite (fun _ => hclean (reconnectLoop_clean h))
    fun _ => hclean (singleSession_clean _ h)
  refine (wp_get_bind _).mpr (wp_ite (fun hauto => ?_) fun _ => hclean (diagnoseProfile_clean _ h))
  have hmode : AutoMode args :=
    ⟨by rwa [resolveProfile_diagnose] at hdiagnose, by rwa [hargs] at hauto⟩
  have hheld : ∀ w', AutoClean w' → MainClean args w' := fun _ h => h.imp_left fun h => ⟨hmode, h⟩
  exact (autoDetectMode_clean h).mono (fun _ w' h => hheld w' h) (fun _ w' h => hheld w' h) hheld

theorem asyncMain_clean (env : DaemonEnv) (args : Args) : wp env asyncMain
    ⟨fun _ w => MainClean args w ∧ w.st.client = none, fun _ => MainClean args, MainClean args⟩
    (World.new args) := by
  refine asyncMain_wp (I := fun w => w.Free ∧ w.st.args = resolveProfile args)
    (fun w w' he h => ⟨h.1.event he, ?_⟩) (fun _ h => h) (fun _ h => h)
    (fun _ h => ⟨.inr h.1.1, h.1.2⟩) (fun _ h => .inr h.1.1) (fun w h => ?_) ⟨⟨?_, rfl⟩, rfl⟩
  · rw [← h.2]
    cases he <;> rfl
  · have hcleanup : ∀ (code : ℕ) (w : World), MainClean args w →
        wp env (cleanupClient >>= fun _ => pure code) ⟨fun _ w => MainClean args w ∧
          w.st.client = none, fun _ => MainClean args, MainClean args⟩ w := by
      intro code w h
      have hkept : ∀ w', Reach env .running w w' → MainClean args w' := by
        intro w' hr
        refine h.imp (fun hheld => ⟨hheld.1, ?_⟩) fun hclean => hclean.reach hr (by simp)
        obtain ⟨os, htrace, -⟩ := hr.obs
        rw [htrace]
        exact hheld.2.append os
      refine wp_bind ((cleanupClient_spec (Reach.refl (w := w))).mono ?_ (fun _ _ h => h.elim)
        hkept)
      rintro - w' ⟨hr, hnone⟩
      exact (wp_pure _).mpr ⟨hkept w' hr, hnone⟩
    exact wp_bind (wp_attempt ((runMode_clean h.1 h.2).mono
      (fun code w' h => hcleanup code w' h) (fun _ w' h => hcleanup 99 w' h) fun _ h => h))
  · intro before id after heq
    simp [World.new] at heq

/-- **No connection is leaked** in any run of the program, unless a session of auto-detect mode
returns early with a connected client, before the last profile and without reports. -/
theorem asyncMain_noLeak (env : DaemonEnv) (args : Args) (start : Run World)
    (hstart : start.state = World.new args)
    (hheld : AutoMode args → ¬HeldInterruption (asyncMain env start).2.state.trace) :
    NoLeak (asyncMain env start).2.state.trace ∧
      ∀ code, (asyncMain env start).1 = .done code →
        (asyncMain env start).2.state.st.client = none := by
  have hmain := (hstart ▸ asyncMain_clean env args).run
  rcases hout : asyncMain env start with ⟨code | e | _, r⟩ <;> rw [hout] at hmain hheld
  · exact ⟨hmain.1.resolve_left fun h => hheld h.1 h.2, fun _ _ => hmain.2⟩
  · exact ⟨hmain.resolve_left fun h => hheld h.1 h.2, fun _ h => by cases h⟩
  · exact ⟨hmain.resolve_left fun h => hheld h.1 h.2, fun _ h => by cases h⟩

/-- The program in auto-detect mode, at its start. -/
def mainStart : Run World := ⟨World.new (defaultArgs true false "auto"), 0, 60⟩

/-- A controller advertises, and the shutdown signal arrives at the given call. -/
def shutdownEnv (t : ℕ) : DaemonEnv := padEnv fun n =>
  (if n = 1 then [.advert ⟨"E0:EF:BF:3B:C6:76"⟩ (padAdvert [1, 2, 3, 4, 5, 6])] else []) ++
    if n = t then [.shutdown] else []

/-- The signal arrives while the last stage subscribes: no session returns early. -/
theorem asyncMain_noLeak_running : NoLeak (asyncMain (shutdownEnv 6) mainStart).2.state.trace := by
  have hnone : (asyncMain (shutdownEnv 6) mainStart).2.state.trace.all (fun
      | .interrupted _ _ _ => false
      | _ => true) = true := by decide +kernel
  refine (asyncMain_noLeak (shutdownEnv 6) (defaultArgs true false "auto") mainStart rfl
    fun _ => ?_).1
  rintro ⟨before, q, id, after, heq, -⟩
  have hmem : Obs.interrupted q (some id) true ∈
      (asyncMain (shutdownEnv 6) mainStart).2.state.trace := by
    rw [heq]
    simp
  exact absurd (List.all_eq_true.mp hnone _ hmem) (by simp)

/-- The signal arrives while the first attempt connects: its client is dropped, connected. -/
theorem asyncMain_leak : ¬NoLeak (asyncMain (shutdownEnv 4) mainStart).2.state.trace := by
  have hdropped : .dropped 0 true ∈ (asyncMain (shutdownEnv 4) mainStart).2.state.trace := by
    decide +kernel
  have hcalled : .disconnectCalled 0 ∉ (asyncMain (shutdownEnv 4) mainStart).2.state.trace := by
    decide +kernel
  intro h
  obtain ⟨before, after, heq⟩ := List.append_of_mem hdropped
  refine hcalled ?_
  rw [heq]
  exact List.mem_append_left _ (h before 0 after heq)

end Switch2Bt
