import Switch2Bt.Daemon.Attribution

/-!
# The handle reported as the source of the reports (`switch2d.py`)

`state.input_report_handle` is the handle of the characteristic that discovery finds in the tree or,
when every notify characteristic is subscribed, of the first one whose `start_notify` succeeded
(`runSession_recorded`). The handler does not look at it: it takes reports of every subscribed
characteristic, and `spro2win` filters them by a constant. So the handle is the source of the
reports iff the reports are those of that characteristic of the tree (`handleIsSource_iff`).
-/

namespace Switch2Bt

open Await

/-! ## What the client answered -/

/-- What `g` picks of the observations since the last session started. -/
def attemptPicks {α : Type} (g : Obs → Option α) (tr : List Obs) : List α :=
  (attemptObs tr).filterMap g

/-- The tree that discovery was given since the last session started. -/
def treeRead (tr : List Obs) : Option (List Service) :=
  (attemptPicks (fun
    | .servicesRead tree => some tree
    | _ => none) tr).getLast?

/-- The characteristics that were subscribed since the last session started, one after the other. -/
def subscriptions (tr : List Obs) : List ℕ :=
  attemptPicks (fun
    | .subscribed handle => some handle
    | _ => none) tr

/-- The known sender handles of the reports counted since the last session started. -/
def reportHandles (tr : List Obs) : List ℕ := (attemptReports tr).filterMap (·.handle)

/-- The handles of the characteristics with the UUID of an input of a profile. -/
def ProtocolProfile.inputHandles (p : ProtocolProfile) (cs : List Characteristic) : List ℕ :=
  (cs.filter fun c => (matchInput p c).isSome).map (·.handle)

/-- The first handle that is one, else the last. -/
def firstHandle (handles : List ℕ) : Option ℕ := (handles.find? (· ≠ 0)).or handles.getLast?

/-- The source of the reports: of the tree, the first characteristic with the UUID of an input, or
the first characteristic that was subscribed. -/
def ProtocolProfile.reportSource (p : ProtocolProfile) (tree : Option (List Service))
    (subscribed : List ℕ) : Option ℕ :=
  match p.subscribeStrategy with
  | .selected => tree.bind fun tree =>
      firstHandle (p.inputHandles (tree.flatMap (·.characteristics)))
  | .all => subscribed.head?

section picks

variable {α : Type} {g : Obs → Option α}

theorem attemptPicks_start (tr : List Obs) (p : ProtocolProfile) :
    attemptPicks g (tr ++ [.sessionStart p]) = [] := by
  simp [attemptPicks]

theorem attemptPicks_append (tr : List Obs) {os : List Obs}
    (hos : ∀ o ∈ os, ∀ p, o ≠ .sessionStart p) :
    attemptPicks g (tr ++ os) = attemptPicks g tr ++ os.filterMap g := by
  rw [attemptPicks, attemptObs_append _ hos, List.filterMap_append]
  rfl

end picks

/-- An observation that says nothing of the tree or of a subscription. -/
def Obs.Aside : Obs → Prop
  | .sessionStart _ | .servicesRead _ | .subscribed _ => False
  | _ => True

/-- Such observations leave the tree and the subscriptions. -/
theorem picks_aside (tr : List Obs) {os : List Obs} (hos : ∀ o ∈ os, o.Aside) :
    treeRead (tr ++ os) = treeRead tr ∧ subscriptions (tr ++ os) = subscriptions tr := by
  have hstart : ∀ o ∈ os, ∀ p, o ≠ .sessionStart p := by
    rintro o ho p rfl
    exact hos _ ho
  have hnone : ∀ {α : Type} {g : Obs → Option α}, (∀ o, o.Aside → g o = none) →
      attemptPicks g (tr ++ os) = attemptPicks g tr := by
    intro α g hg
    rw [attemptPicks_append tr hstart, List.filterMap_eq_nil_iff.mpr fun o ho => hg o (hos o ho),
      List.append_nil]
  constructor
  · refine congrArg List.getLast? (hnone fun o ho => ?_)
    cases o <;> first | rfl | exact ho.elim
  · refine hnone fun o ho => ?_
    cases o <;> first | rfl | exact ho.elim

/-! ## The record -/

/-- The handle recorded is the source, as far as it is known. -/
def World.Recorded (w : World) : Prop :=
  w.st.inputReportHandle =
    w.st.activeProfile.reportSource (treeRead w.trace) (subscriptions w.trace)

/-- Nothing of the tree is known, and nothing subscribed or recorded, with the given profile. -/
structure World.Unmatched (p : ProtocolProfile) (w : World) : Prop where
  profile : w.st.activeProfile = p
  handle : w.st.inputReportHandle = none
  tree : treeRead w.trace = none
  subscriptions : Switch2Bt.subscriptions w.trace = []

variable {env : DaemonEnv} {part : Stage} {w w' : World} {p : ProtocolProfile}

theorem World.Unmatched.recorded (h : w.Unmatched p) : w.Recorded := by
  rw [World.Recorded, h.handle, h.tree, h.subscriptions]
  unfold ProtocolProfile.reportSource
  split <;> rfl

/-- What leaves the handle and says nothing of the tree keeps the record. -/
theorem World.Recorded.aside {os : List Obs} (h : w.Recorded)
    (hhandle : w'.st.inputReportHandle = w.st.inputReportHandle)
    (hprofile : w'.st.activeProfile = w.st.activeProfile) (htrace : w'.trace = w.trace ++ os)
    (hos : ∀ o ∈ os, o.Aside) : w'.Recorded := by
  obtain ⟨htree, hsubs⟩ := picks_aside w.trace hos
  rw [World.Recorded, hhandle, hprofile, htrace, htree, hsubs]
  exact h

theorem World.Unmatched.aside {os : List Obs} (h : w.Unmatched p)
    (hhandle : w'.st.inputReportHandle = w.st.inputReportHandle)
    (hprofile : w'.st.activeProfile = w.st.activeProfile) (htrace : w'.trace = w.trace ++ os)
    (hos : ∀ o ∈ os, o.Aside) : w'.Unmatched p := by
  obtain ⟨htree, hsubs⟩ := picks_aside w.trace hos
  exact ⟨hprofile.trans h.profile, hhandle.trans h.handle, htrace ▸ htree.trans h.tree,
    htrace ▸ hsubs.trans h.subscriptions⟩

/-- The first characteristic that is subscribed is recorded. -/
theorem World.Recorded.subscribed (h : w.Recorded) (handle : ℕ)
    (hall : w.st.activeProfile.subscribeStrategy = .all) :
    ((w.update fun s => { s with
      inputReportHandle := some (s.inputReportHandle.getD handle) }).emit
        (.subscribed handle)).Recorded := by
  have hsource : ∀ tree subs, w.st.activeProfile.reportSource tree subs = subs.head? := by
    intro tree subs
    rw [ProtocolProfile.reportSource, hall]
  have hsubs : subscriptions (w.trace ++ [.subscribed handle]) =
      subscriptions w.trace ++ [handle] := attemptPicks_append w.trace (by simp)
  rw [World.Recorded, hsource] at h
  show some (w.st.inputReportHandle.getD handle) =
    w.st.activeProfile.reportSource _ (subscriptions _)
  rw [hsource, World.emit_trace, World.update_trace, hsubs, h]
  cases subscriptions w.trace <;> rfl

/-- An effect that neither discovers nor subscribes says nothing of the tree. -/
theorem Effect.aside (he : Effect env part w w') (hd : part ≠ .discover) (hs : part ≠ .subscribe) :
    w'.st.inputReportHandle = w.st.inputReportHandle ∧
      ∃ os, w'.trace = w.trace ++ os ∧ ∀ o ∈ os, o.Aside := by
  refine ⟨by cases he <;> simp [DaemonState.countReport] at hd hs ⊢, ?_⟩
  obtain ⟨os, htrace, hos⟩ := he.obs
  refine ⟨os, htrace, fun o ho => ?_⟩
  have hpart := hos o ho
  cases o <;> simp_all [Stage.emits, Obs.Aside]

/-- **Every effect but those of the discovery keeps the record.** -/
theorem Effect.recorded (he : Effect env part w w') (hd : part ≠ .discover) (h : w.Recorded) :
    w'.Recorded := by
  have hprofile : w'.st.activeProfile = w.st.activeProfile := (Reach.refl.tail he).activeProfile
  by_cases hs : part = .subscribe
  · subst hs
    cases he with
    | subscribed handle hall => exact h.subscribed handle hall
    | report | advert | linkLost | notifyInput => exact h.aside rfl rfl rfl (by simp [Obs.Aside])
    | _ => exact h
  · obtain ⟨hhandle, os, htrace, hos⟩ := he.aside hd hs
    exact h.aside hhandle hprofile htrace hos

theorem Effect.unmatched (he : Effect env part w w') (hd : part ≠ .discover)
    (hs : part ≠ .subscribe) (h : w.Unmatched p) : w'.Unmatched p := by
  obtain ⟨hhandle, os, htrace, hos⟩ := he.aside hd hs
  exact h.aside hhandle (Reach.refl.tail he).activeProfile htrace hos

/-- Another observation leaves the record. -/
theorem World.Recorded.emit {o : Obs} (h : w.Recorded) (ho : o.Aside) : (w.emit o).Recorded :=
  h.aside rfl rfl rfl (by simpa using ho)

/-! ## Discovery -/

/-- One characteristic of the tree: its handle is taken while there is none. -/
def takeHandle (p : ProtocolProfile) (handle : Option ℕ) (c : Characteristic) : Option ℕ :=
  if falsyHandle handle ∧ (matchInput p c).isSome then some c.handle else handle

/-- What one characteristic changes. -/
theorem discoverChar_spec (p : ProtocolProfile) (w : World) (c : Characteristic) :
    (discoverChar p w c).st.inputReportHandle = takeHandle p w.st.inputReportHandle c ∧
      (discoverChar p w c).st.activeProfile = w.st.activeProfile ∧
      ∃ os, (discoverChar p w c).trace = w.trace ++ os ∧ ∀ o ∈ os, o.Aside := by
  unfold discoverChar discoverInput takeHandle
  by_cases hfalsy : falsyHandle w.st.inputReportHandle
  · rw [if_pos hfalsy]
    cases hmatch : matchInput p c with
    | some candidate => exact ⟨by simp [hfalsy], rfl, [_], rfl, by simp [Obs.Aside]⟩
    | none => exact ⟨by simp, rfl, [], (List.append_nil _).symm, by simp⟩
  · rw [if_neg hfalsy]
    exact ⟨by simp [hfalsy], rfl, [], (List.append_nil _).symm, by simp⟩

/-- What the characteristics of a tree change. -/
theorem foldl_discoverChar (p : ProtocolProfile) (cs : List Characteristic) (w : World) :
    (cs.foldl (discoverChar p) w).st.inputReportHandle =
        cs.foldl (takeHandle p) w.st.inputReportHandle ∧
      (cs.foldl (discoverChar p) w).st.activeProfile = w.st.activeProfile ∧
      ∃ os, (cs.foldl (discoverChar p) w).trace = w.trace ++ os ∧ ∀ o ∈ os, o.Aside := by
  induction cs generalizing w with
  | nil => exact ⟨rfl, rfl, [], (List.append_nil _).symm, by simp⟩
  | cons c cs ih =>
      obtain ⟨hhandle, hprofile, os, htrace, hos⟩ := discoverChar_spec p w c
      obtain ⟨hhandle', hprofile', os', htrace', hos'⟩ := ih (discoverChar p w c)
      refine ⟨hhandle'.trans (by rw [hhandle]; rfl), hprofile'.trans hprofile, os ++ os', ?_, ?_⟩
      · rw [List.foldl_cons, htrace', htrace, List.append_assoc]
      · intro o ho
        exact (List.mem_append.mp ho).elim (hos o) (hos' o)

/-- A handle is kept. -/
theorem foldl_takeHandle_keep (p : ProtocolProfile) (cs : List Characteristic) {handle : Option ℕ}
    (h : ¬falsyHandle handle) : cs.foldl (takeHandle p) handle = handle := by
  induction cs with
  | nil => rfl
  | cons c cs ih => rw [List.foldl_cons, takeHandle, if_neg fun hc => h hc.1, ih]

/-- Of the handles, taken one after the other, the first that is one remains. -/
theorem foldl_takeHandle (p : ProtocolProfile) (cs : List Characteristic) {handle : Option ℕ}
    (hfalsy : falsyHandle handle) :
    cs.foldl (takeHandle p) handle = (firstHandle (p.inputHandles cs)).or handle := by
  induction cs generalizing handle with
  | nil => rfl
  | cons c cs ih =>
      by_cases hmatch : (matchInput p c).isSome
      · have hhandles : p.inputHandles (c :: cs) = c.handle :: p.inputHandles cs := by
          simp [ProtocolProfile.inputHandles, hmatch]
        rw [List.foldl_cons, takeHandle, if_pos ⟨hfalsy, hmatch⟩, hhandles]
        by_cases hzero : c.handle = 0
        · rw [ih (by simp [falsyHandle, hzero]), firstHandle, firstHandle, List.getLast?_cons,
            List.find?_cons_of_neg (by simpa using hzero)]
          cases (p.inputHandles cs).find? (· ≠ 0) <;> cases (p.inputHandles cs).getLast? <;> rfl
        · rw [foldl_takeHandle_keep p cs (by simp [falsyHandle, hzero]), firstHandle,
            List.find?_cons_of_pos (by simpa using hzero)]
          rfl
      · have hhandles : p.inputHandles (c :: cs) = p.inputHandles cs := by
          simp [ProtocolProfile.inputHandles, hmatch]
        rw [List.foldl_cons, takeHandle, if_neg fun hc => hmatch hc.2, hhandles]
        exact ih hfalsy

/-- A profile that subscribes everything has no input. -/
theorem inputHandles_all {p : ProtocolProfile} (hall : p.subscribeStrategy = .all)
    (cs : List Characteristic) : p.inputHandles cs = [] := by
  have hnone : ∀ c, matchInput p c = none := fun c => if_neg (by rw [hall]; decide)
  simp [ProtocolProfile.inputHandles, hnone]

/-- **Discovery records the source in the tree.** -/
theorem discoverTree_recorded (tree : List Service) (h : w.Unmatched p) :
    (discoverTree p tree w).Recorded := by
  obtain ⟨hhandle, hprofile, os, htrace, hos⟩ := foldl_discoverChar p
    (tree.flatMap (·.characteristics)) ((w.update fun s => { s with
      cmdWriteHandle := none
      commandResponseHandle := none
      inputReportHandle := none
      inputReportUuid := none }).emit (.servicesRead tree))
  obtain ⟨htree, hsubs⟩ := picks_aside (w.trace ++ [.servicesRead tree]) hos
  have hread : treeRead (w.trace ++ [.servicesRead tree]) = some tree := by
    rw [treeRead, attemptPicks_append w.trace (by simp)]
    exact List.getLast?_concat
  have hnone : subscriptions (w.trace ++ [.servicesRead tree]) = [] := by
    rw [subscriptions, attemptPicks_append w.trace (by simp)]
    exact (List.append_nil _).trans h.subscriptions
  have hhandle' : (discoverTree p tree w).st.inputReportHandle =
      (tree.flatMap (·.characteristics)).foldl (takeHandle p) none := hhandle
  have hprofile' : (discoverTree p tree w).st.activeProfile = p := hprofile.trans h.profile
  have htrace' : (discoverTree p tree w).trace = w.trace ++ [.servicesRead tree] ++ os := htrace
  rw [World.Recorded, hhandle', hprofile', htrace', htree, hsubs, hread, hnone,
    foldl_takeHandle p _ rfl, Option.or_none, ProtocolProfile.reportSource]
  split
  · rfl
  · rw [inputHandles_all ‹_›]
    rfl

/-- The events of an await keep the record. -/
theorem awaitCall_recorded (c : Call) : Always env World.Recorded (awaitCall c) :=
  awaitCall_always (fun _ _ he h => he.recorded (by decide) h) c

/-- An update of other fields keeps the record. -/
theorem updateSt_recorded {f : DaemonState → DaemonState}
    (hf : ∀ s, (f s).inputReportHandle = s.inputReportHandle ∧
      (f s).activeProfile = s.activeProfile) : Always env World.Recorded (updateSt f) :=
  Always.modify fun w h => h.aside (hf w.st).1 (hf w.st).2 (List.append_nil w.trace).symm
    (by simp)

theorem fetchServices_unmatched (remaining : ℕ) :
    Always env (World.Unmatched p) (fetchServices remaining) := by
  have hawait : ∀ c, Always env (World.Unmatched p) (awaitCall c) := fun c =>
    awaitCall_always (fun _ _ he h => he.unmatched (by decide) (by decide) h) c
  have hservices : ∀ {call : ClientId → Daemon (Except PyErr (Option (List Service)))},
      (∀ id, Always env (World.Unmatched p) (call id)) →
        Always env (World.Unmatched p) (withClient call) := by
    intro call hcall
    refine Always.read fun w _ => ?_
    split
    · exact Always.pure _
    · exact hcall _
  induction remaining with
  | zero => exact Always.pure _
  | succ k ih =>
      refine (hservices fun id => Always.query _).bind fun services => ?_
      split
      · exact Always.pure _
      · refine (hservices fun id => hawait _).bind fun services => ?_
        split
        · exact Always.pure _
        · exact Always.ite ((hawait _).bind fun _ => ih) ih

theorem subscribeCommandResponse_recorded :
    Always env World.Recorded subscribeCommandResponse := by
  have hstart : Always env World.Recorded startNotifyResponse := by
    refine Always.read fun w _ => ?_
    split
    · exact Always.pure _
    · refine Always.bind (Always.modify fun _ h => h) fun _ => Always.bind ?_ fun _ =>
        awaitCall_recorded _
      exact Always.modify fun _ h => h.emit trivial
  refine Always.read fun w _ => Always.ite (Always.pure _) (hstart.bind fun subscribed => ?_)
  split
  · exact Always.bind (updateSt_recorded fun _ => ⟨rfl, rfl⟩) fun _ => Always.pure _
  · exact Always.pure _

theorem finishDiscover_recorded (profile : ProtocolProfile) :
    Always env World.Recorded (finishDiscover profile) := by
  have hfinish : ∀ subscribed : Bool, Always env World.Recorded
      (if subscribed then do
        updateSt fun s => { s with stageDiscoverOk := true }
        pure true
      else pure false : Daemon Bool) := fun _ =>
    Always.ite (Always.bind (updateSt_recorded fun _ => ⟨rfl, rfl⟩) fun _ => Always.pure _)
      (Always.pure _)
  exact Always.read fun w _ => Always.ite (subscribeCommandResponse_recorded.bind hfinish)
    ((Always.pure _).bind hfinish)

/-- The discovery keeps the record, from a world where nothing is known. -/
theorem stageDiscover_recorded (h : w.Unmatched p) :
    wp env stageDiscover (Post.all World.Recorded) w := by
  refine (wp_get_bind _).mpr ?_
  rw [h.profile]
  refine (fetchServices_unmatched _).wp_bind h (fun services w' h' => ?_)
    (fun _ _ h' => h'.recorded) fun _ h' => h'.recorded
  split
  · exact (wp_pure _).mpr h'.recorded
  · rename_i tree
    refine (wp_modify_bind _ _).mpr ?_
    refine Always.read (fun _ _ => ?_) _ (discoverTree_recorded tree h')
    exact Always.ite (Always.pure _) (Always.ite (Always.pure _) (finishDiscover_recorded _))

/-! ## Sessions -/

/-- What every effect of a part keeps, a computation with no other effects keeps. -/
theorem always_of_reach {α : Type} {I : World → Prop} {m : Daemon α}
    (hm : ∀ w, Always env (Reach env part w) m)
    (hI : ∀ w w', Effect env part w w' → I w → I w') : Always env I m := fun w hw =>
  (hm w w .refl).all_mono fun _ h => h.invariant hI hw

/-- A stage that neither discovers nor subscribes, from a world where nothing is known. -/
theorem stage_unmatched {name : Stage} {fn : Daemon Bool}
    (hfn : ∀ w, Always env (Reach env part w) fn) (hd : part ≠ .discover) (hs : part ≠ .subscribe)
    (h : w.Unmatched p) : wp env fn ⟨fun ok w' => if ok
      then (w'.emit (.stageDone name true)).Unmatched p
      else (w'.emit (.stageDone name false)).Recorded,
      fun _ => World.Recorded, World.Recorded⟩ w := by
  have hkeep : Always env (World.Unmatched p) fn :=
    always_of_reach hfn fun _ _ he h => he.unmatched hd hs h
  refine (hkeep w h).mono (fun ok w' h' => ?_) (fun _ _ h' => h'.recorded) fun _ h' => h'.recorded
  cases ok with
  | true => exact h'.aside rfl rfl rfl (by simp [Obs.Aside])
  | false => exact h'.recorded.emit trivial

/-- A stage that keeps the record, in a session. -/
theorem runStages_cons_recorded {name : Stage} {fn : Daemon Bool}
    {rest : List (Stage × Daemon Bool)} (h : w.Recorded)
    (hfn : wp env fn (Post.all World.Recorded) w)
    (hrest : Always env World.Recorded (runStages rest)) :
    wp env (runStages ((name, fn) :: rest)) (Post.all World.Recorded) w := by
  have hclean : Always env World.Recorded cleanupClient :=
    always_of_reach (fun _ => cleanupClient_reach) fun _ _ he h => he.recorded (by decide) h
  refine runStages_cons_wp (B := World.Recorded) (F := World.Recorded) (fun _ => ?_) (fun _ => ?_)
    hrest hclean
  · exact h.emit trivial
  · refine hfn.mono (fun ok w' h' => ?_) (fun _ _ h' => h') fun _ h' => h'
    cases ok with
    | true => exact World.Recorded.emit h' trivial
    | false => exact World.Recorded.emit h' trivial

/-- Stages behind the discovery keep the record. -/
theorem runStages_recorded {stages : List (Stage × Daemon Bool)}
    (h : ∀ s ∈ stages, s.1 ≠ .discover ∧ ∀ w, Always env (Reach env s.1 w) s.2) :
    Always env World.Recorded (runStages stages) := by
  induction stages with
  | nil => exact Always.pure _
  | cons s stages ih =>
      intro w hw
      obtain ⟨hd, hreach⟩ := h s List.mem_cons_self
      exact runStages_cons_recorded hw
        (always_of_reach hreach (fun _ _ he h => he.recorded hd h) w hw)
        (ih fun s hs => h s (List.mem_cons_of_mem _ hs))

/-- **The stages of a session keep the record.** -/
theorem sessionStages_recorded (h : w.Unmatched p) :
    wp env (runStages (sessionStages p)) (Post.all World.Recorded) w := by
  have hclean : Always env World.Recorded cleanupClient :=
    always_of_reach (fun _ => cleanupClient_reach) fun _ _ he h => he.recorded (by decide) h
  have hbehind : Always env World.Recorded
      (runStages ((if p.pairs then [(.pair, stagePair)] else [])
      ++ [(.init, stageInit), (.subscribe, stageSubscribe)])) := by
    refine runStages_recorded fun s hs => ⟨?_, fun w => sessionStages_reach p s ?_ w⟩
    · rcases List.mem_append.mp hs with hs | hs
      · split at hs
        · rw [List.mem_singleton.mp hs]
          decide
        · cases hs
      · rcases List.mem_pair.mp hs with rfl | rfl <;> decide
    · rw [sessionStages, List.append_assoc]
      exact List.mem_append_right _ hs
  rw [sessionStages, List.append_assoc]
  refine runStages_cons_wp (B := World.Unmatched p) (F := World.Recorded)
    (fun _ => h.recorded.emit trivial)
    (fun _ => stage_unmatched (fun _ => stageScan_reach) (by decide) (by decide) h)
    (fun w h => ?_) hclean
  refine runStages_cons_wp (B := World.Unmatched p) (F := World.Recorded)
    (fun _ => h.recorded.emit trivial)
    (fun _ => stage_unmatched (fun _ => stageConnect_reach) (by decide) (by decide) h)
    (fun w h => ?_) hclean
  exact runStages_cons_recorded h.recorded (stageDiscover_recorded h) hbehind

/-- What a session with the given profile observes of it: reports that pass its filter. -/
structure Observes (p : ProtocolProfile) (w : World) : Prop where
  profile : w.st.activeProfile = p
  passes : ∀ n ∈ attemptReports w.trace, passesFilter p n.handle = true

theorem Observes.step (hs : SessionStep env w w') (h : Observes p w) : Observes p w' := by
  cases hs with
  | effect he =>
      refine ⟨(Reach.refl.tail he).activeProfile.trans h.profile, ?_⟩
      rcases he.reports with ⟨n, uinput, jsonl, hpass, rfl⟩ | ⟨-, hreports⟩
      · intro m hm
        rw [World.emit_trace, World.update_trace, attemptReports_report] at hm
        rcases List.mem_append.mp hm with hm | hm
        · exact h.passes m hm
        · rw [List.mem_singleton.mp hm, ← h.profile]
          exact hpass
      · rw [hreports]
        exact h.passes
  | stageDone | interrupted =>
      refine ⟨h.profile, ?_⟩
      rw [World.emit_trace, attemptReports_other _ (by simp)]
      exact h.passes

section session

variable (env : DaemonEnv) (profile : Option ProtocolProfile) (start : Run World)

theorem startSession_unmatched (w : World) :
    (w.startSession profile).Unmatched (profile.getD profileMacos) := by
  refine ⟨by simp [DaemonState.resetFields], by simp [DaemonState.resetFields], ?_, ?_⟩
  · rw [World.startSession_trace, treeRead, attemptPicks_start]
    rfl
  · rw [World.startSession_trace, subscriptions, attemptPicks_start]

/-- **A session records the source of its reports**, in every state. -/
theorem runSession_recorded : (runSession profile env start).2.state.Recorded := by
  have hsession : wp env (runSession profile) (Post.all World.Recorded) start.state := by
    have hstart := startSession_unmatched profile start.state
    refine (wp_modify_bind _ _).mpr ((wp_get_bind _).mpr ?_)
    rw [hstart.profile]
    refine wp.seq (P := fun _ => World.Recorded) (sessionStages_recorded hstart) fun result => ?_
    have hkeep : ∀ w w', Effect env .running w w' → w.Recorded → w'.Recorded :=
      fun _ _ he h => he.recorded (by decide) h
    rcases result with _ | result
    · refine (always_of_reach (fun _ => runningLoop_reach) hkeep).bind fun _ => ?_
      refine (always_of_reach (fun _ => cleanupClient_reach) hkeep).bind fun _ => ?_
      exact Always.read fun _ _ => Always.pure _
    · exact Always.pure _
  exact hsession.all

theorem runSession_observes :
    Observes (profile.getD profileMacos) (runSession profile env start).2.state := by
  have hstart : Observes (profile.getD profileMacos) (start.state.startSession profile) := by
    refine ⟨(startSession_unmatched profile start.state).profile, ?_⟩
    rw [World.startSession_trace, attemptReports_start]
    exact fun _ hn => by cases hn
  exact (runSession_invariant hstart fun _ _ hs h => h.step hs).all

end session

/-- The source of the reports of a session: what its profile makes of the tree that discovery was
given and of the characteristics whose `start_notify` returned. -/
def sessionSource (env : DaemonEnv) (profile : Option ProtocolProfile) (start : Run World) :
    Option ℕ :=
  (profile.getD profileMacos).reportSource
    (treeRead (runSession profile env start).2.state.trace)
    (subscriptions (runSession profile env start).2.state.trace)

/-- The input handle of a session is the source of its reports: of every report counted whose sender
is known, and the handle that the profile filters by once there is such a report. -/
structure HandleIsSource (env : DaemonEnv) (profile : Option ProtocolProfile) (start : Run World) :
    Prop where
  source : ∀ handle ∈ reportHandles (runSession profile env start).2.state.trace,
    (runSession profile env start).2.state.st.inputReportHandle = some handle
  filter : ∀ want ∈ (profile.getD profileMacos).spro2winHandle,
    reportHandles (runSession profile env start).2.state.trace ≠ [] →
      (runSession profile env start).2.state.st.inputReportHandle = some want

/-- A report from a known sender that passes the filter is from the handle it filters by. -/
theorem passesFilter_handle {p : ProtocolProfile} {want handle : ℕ}
    (hwant : p.spro2winHandle = some want) (h : passesFilter p (some handle) = true) :
    handle = want := by
  simp only [passesFilter, hwant] at h
  exact beq_iff_eq.mp h

/-- **The input handle of a session is the source of its reports iff they all come from one
characteristic of the tree**: the one with the UUID of an input, or the first one subscribed.
Source: `switch2d.py` `_subscribe_all_notify`, `stage_discover`, `handle_report` -/
theorem handleIsSource_iff (env : DaemonEnv) (profile : Option ProtocolProfile)
    (start : Run World) : HandleIsSource env profile start ↔
      ∀ handle ∈ reportHandles (runSession profile env start).2.state.trace,
        sessionSource env profile start = some handle := by
  obtain ⟨hprofile, hpasses⟩ := runSession_observes env profile start
  have hrecorded : (runSession profile env start).2.state.st.inputReportHandle =
      sessionSource env profile start := by
    rw [sessionSource, ← hprofile]
    exact runSession_recorded env profile start
  constructor
  · intro h handle hmem
    rw [← hrecorded]
    exact h.source handle hmem
  · intro h
    have hsource : ∀ handle ∈ reportHandles (runSession profile env start).2.state.trace,
        (runSession profile env start).2.state.st.inputReportHandle = some handle :=
      fun handle hmem => hrecorded.trans (h handle hmem)
    refine ⟨hsource, fun want hwant hne => ?_⟩
    obtain ⟨handle, hmem⟩ := List.exists_mem_of_ne_nil _ hne
    obtain ⟨n, hn, hhandle⟩ := List.mem_filterMap.mp hmem
    have hpass := hpasses n hn
    rw [hhandle] at hpass
    rw [hsource handle hmem, passesFilter_handle hwant hpass]

/-- A controller with a notify characteristic before the one of its reports. -/
def laterHandleEnv : DaemonEnv where
  answer _ := goodAnswer [⟨[⟨"7492866c-ec3e-4619-8258-32755ffcc0f9", 14, ["notify"]⟩,
    ⟨"ab7de9be-89fe-49ad-828f-118f09df7fd2", 45, ["notify"]⟩]⟩]
  events
    | 1 => [.advert ⟨"E0:EF:BF:3B:C6:76"⟩ (padAdvert [1, 2, 3, 4, 5, 6])]
    | 8 => [.notification 0 { padReport with handle := some 45 } fun _ => .none]
    | _ => []

/-- A session with the profile that subscribes everything, at its start. -/
def spro2winStart : Run World := ⟨World.new (defaultArgs true false "spro2win"), 0, 20⟩

/-- Its reports come from handle 45, and its input handle is 14. -/
theorem not_handleIsSource_laterHandle :
    ¬HandleIsSource laterHandleEnv (some profileSpro2win) spro2winStart := by
  intro h
  have hreports : reportHandles
      (runSession (some profileSpro2win) laterHandleEnv spro2winStart).2.state.trace = [45] := by
    decide +kernel
  have hinput : (runSession (some profileSpro2win) laterHandleEnv
      spro2winStart).2.state.st.inputReportHandle = some 14 := by
    decide +kernel
  have hsource := h.source 45 (by rw [hreports]; exact List.mem_singleton.mpr rfl)
  rw [hinput] at hsource
  exact absurd hsource (by decide)

end Switch2Bt
