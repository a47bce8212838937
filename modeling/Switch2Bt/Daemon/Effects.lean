import Mathlib.Logic.Relation
import Switch2Bt.Await.Logic
import Switch2Bt.Daemon.Modes

/-!
# What a session can do to the world

`Effect env part` is the step relation of a session: one constructor for every update that a
callback, or the coroutines of the given part of the session, can make. The part `running` stands
for the RUNNING loop and the cleanup.

The stages are shown once to do nothing else (`stageScan_reach`, …, `sessionStages_reach`);
an invariant of a session is then a case analysis over `Effect`.

* `dispatch_effect`: an event is an effect, or nothing.
* `Reach`: finitely many effects of one part.
* `SessionStep`: the effects of all parts, and what `run_session` itself records.
-/

namespace Switch2Bt

open Await

/-! ## Effects -/

/-- The environment delivers no shutdown signal. -/
def NoShutdown (env : DaemonEnv) : Prop := ∀ t, ∀ e ∈ env.events t, e ≠ .shutdown

/-- A frame of the pair sequence, for some host address. -/
def IsPairPayload (payload : Octets) : Prop :=
  ∃ hostMac setmac step, buildSetmacPayload hostMac = .ok setmac ∧ step ∈ pairSteps setmac ∧
    buildCommand pairCmd step.subId step.data = .ok payload

/-- What counting a report changes, apart from the gamepad and the dump.
Source: `switch2d.py` `handle_report` -/
def DaemonState.countReport (s : DaemonState) (n : Notification) : DaemonState :=
  { s with
    reportCount := s.reportCount + 1
    totalReports := s.totalReports + 1
    notifyEvent := true
    stageReportsOk := true
    reportLengths := s.reportLengths ++ [n.data.length]
    reportTimestamps := s.reportTimestamps ++ [n.now]
    firstReportHex := some (s.firstReportHex.getD (Octets.hex n.data))
    lastReportHex := some (Octets.hex n.data) }

/-- An accepted report is counted; the gamepad and the dump change besides. -/
theorem acceptReport_eq (n : Notification) (faults : ℕ → Buffered.Fault) (s : DaemonState) :
    ∃ uinput jsonl, acceptReport n faults s =
      { s.countReport n with uinput := uinput, jsonlFile := jsonl } := by
  unfold acceptReport
  rcases decodeReport n.data with _ | decoded
  · exact ⟨_, _, rfl⟩
  · exact ⟨_, _, rfl⟩

/-- One update of the world by a part of a session. -/
inductive Effect (env : DaemonEnv) : Stage → World → World → Prop where
  /-- A signal set the shutdown flag. -/
  | shutdown {part : Stage} {w : World} (h : ∃ t, Event.shutdown ∈ env.events t) :
      Effect env part w (w.update fun s => { s with shutdown := true })
  /-- A report was accepted. -/
  | report {part : Stage} {w : World} (n : Notification) (uinput : Option UInput)
      (jsonl : Option (List JsonRecord)) (hpass : passesFilter w.st.activeProfile n.handle) :
      Effect env part w ((w.update fun s => { s.countReport n with
        uinput := uinput
        jsonlFile := jsonl }).emit (.report n))
  /-- A command response was collected. -/
  | response {part : Stage} {w : World} (hex : String) :
      Effect env part w (w.update fun s => { s with pairResponses := s.pairResponses ++ [hex] })
  /-- An advertisement was seen; the scan locals and the diagnostics may have changed. -/
  | advert {part : Stage} {w : World} (device : BLEDevice) (adv : Advertisement)
      (scan : Option ScanLocals) (raw : Option Octets) (mac : Option String)
      (pairing toHost toOther : Option Bool) :
      Effect env part w (({ w with scan := scan }.update fun s => { s with
        reconnectMacRaw := raw
        reconnectMac := mac
        pairingMode := pairing
        pairedToHost := toHost
        pairedToOtherHost := toOther }).emit (.advert device adv))
  /-- A link was lost. -/
  | linkLost {part : Stage} {w : World} (client : ClientId) :
      Effect env part w ((({ w with up := w.up.filter (· != client) }).update
        fun s => { s with disconnectEvent := true }).emit (.linkLost client))
  /-- The scanner was turned on or off. -/
  | scanLocals {w : World} (scan : Option ScanLocals) : Effect env .scan w { w with scan := scan }
  | found {w : World} (device : BLEDevice) :
      Effect env .scan w (w.update fun s => { s with device := some device, stageScanOk := true })
  | newClient {w : World} : Effect env .connect w { w with nextClient := w.nextClient + 1 }
  | storeClient {w : World} (id : ClientId) : Effect env .connect w (w.storeClient id)
  /-- The handle fields were assigned. -/
  | handles {w : World} (cmd response input : Option ℕ) (uuid : Option String) :
      Effect env .discover w (w.update fun s => { s with
        cmdWriteHandle := cmd
        commandResponseHandle := response
        inputReportHandle := input
        inputReportUuid := uuid })
  | servicesRead {w : World} (tree : List Service) :
      Effect env .discover w (w.emit (.servicesRead tree))
  /-- The input characteristic was matched. -/
  | inputMatched {w : World} (candidate : String) (handle : ℕ)
      (h : w.st.activeProfile.subscribeStrategy = .selected ∧
        candidate ∈ w.st.activeProfile.inputUuids) :
      Effect env .discover w (w.emit (.inputMatched candidate handle))
  | notifyResponse {w : World} (id : ClientId) :
      Effect env .discover w ({ w with respSubs := id :: w.respSubs }.emit .notifyResponse)
  | responseSubscribed {w : World} :
      Effect env .discover w (w.update fun s => { s with commandResponseSubscribed := true })
  | discoverOk {w : World} :
      Effect env .discover w (w.update fun s => { s with stageDiscoverOk := true })
  | hostMac {w : World} (mac : Option String) :
      Effect env .pair w (w.update fun s => { s with hostMac := mac })
  | pairFailed {w : World} (step : String) :
      Effect env .pair w (w.update fun s => { s with pairFailureStep := some step })
  | pairOk {w : World} : Effect env .pair w (w.update fun s => { s with pairSequenceOk := true })
  | pairResponse {w : World} (step : String) (latest : Option String) :
      Effect env .pair w (w.emit (.pairResponse step latest))
  /-- A payload of the pair sequence was written. -/
  | pairWrite {w : World} (payload : Octets) (ok : Bool)
      (h : w.st.activeProfile.pairs ∧ IsPairPayload payload) :
      Effect env .pair w (w.emit (.gattWrite w.st.activeProfile.commandUuid payload ok))
  /-- An init command was written. -/
  | initWrite {w : World} (payload : Octets) (ok : Bool)
      (h : payload ∈ w.st.activeProfile.initCommands.map (·.payload)) :
      Effect env .init w (w.emit (.gattWrite w.st.activeProfile.commandUuid payload ok))
  | notifyInput {w : World} (id : ClientId) (target : NotifyTarget) :
      Effect env .subscribe w ({ w with subs := id :: w.subs }.emit (.notifyInput target))
  /-- A characteristic was subscribed; the first one is recorded. -/
  | subscribed {w : World} (handle : ℕ) (h : w.st.activeProfile.subscribeStrategy = .all) :
      Effect env .subscribe w ((w.update fun s => { s with
        inputReportHandle := some (s.inputReportHandle.getD handle) }).emit (.subscribed handle))
  | subscribeOk {w : World} :
      Effect env .subscribe w (w.update fun s => { s with stageSubscribeOk := true })
  | notifyCleared {w : World} :
      Effect env .running w (w.update fun s => { s with notifyEvent := false })
  | disconnectCalled {w : World} (id : ClientId) :
      Effect env .running w (w.emit (.disconnectCalled id))
  | linkDown {w : World} (id : ClientId) : Effect env .running w { w with
      up := w.up.filter (· != id)
      subs := w.subs.filter (· != id)
      respSubs := w.respSubs.filter (· != id) }
  /-- `state.client` was cleared, after its `disconnect()` unless its link was down. -/
  | clientCleared {w : World}
      (h : ∀ id, w.st.client = some id → id ∈ w.up → Obs.disconnectCalled id ∈ w.trace) :
      Effect env .running w (w.setClient none)

@[simp] theorem World.storeClient_st (id : ClientId) (w : World) :
    (w.storeClient id).st = { w.st with client := some id, stageConnectOk := true } := by
  simp [storeClient]

/-- Finitely many effects of one part. -/
def Reach (env : DaemonEnv) (part : Stage) : World → World → Prop :=
  Relation.ReflTransGen (Effect env part)

variable {env : DaemonEnv} {part : Stage} {w₀ w w' : World}

/-- The scan callback touches the scan locals and the diagnostics only. -/
theorem scanCallback_eq (device : BLEDevice) (adv : Advertisement) (w : World) :
    ∃ scan raw mac pairing toHost toOther, (scanCallback device adv w).1 =
      { w with scan := scan }.update fun s => { s with
        reconnectMacRaw := raw
        reconnectMac := mac
        pairingMode := pairing
        pairedToHost := toHost
        pairedToOtherHost := toOther } := by
  unfold scanCallback
  rcases advInfo w.st.args device adv with _ | info
  · exact ⟨_, _, _, _, _, _, rfl⟩
  · by_cases hpid : passesPid w.st.args info
    · simp only [hpid, if_true, recordAdvert]
      generalize w.scan.map _ = scan
      rcases info.reconnectMac with _ | mac
      · exact ⟨scan, w.st.reconnectMacRaw, w.st.reconnectMac, w.st.pairingMode,
          w.st.pairedToHost, w.st.pairedToOtherHost, rfl⟩
      · exact ⟨scan, _, _, _, _, _, rfl⟩
    · simp only [hpid]
      exact ⟨_, _, _, _, _, _, rfl⟩

/-- **An event is an effect of every part**, or it does nothing. -/
theorem dispatch_effect (part : Stage) {t : ℕ} {e : Event} (he : e ∈ env.events t) (w : World) :
    dispatch e w = w ∨ Effect env part w (dispatch e w) := by
  cases e with
  | shutdown => exact .inr (.shutdown ⟨t, he⟩)
  | notification client n faults =>
      simp only [dispatch, handleReport]
      split
      · split
        · obtain ⟨uinput, jsonl, heq⟩ := acceptReport_eq n faults w.st
          exact .inr (by simpa [World.update, heq] using .report n uinput jsonl ‹_›)
        · exact .inl rfl
      · exact .inl rfl
  | response client data =>
      simp only [dispatch]
      split
      · exact .inr (.response _)
      · exact .inl rfl
  | advert device adv =>
      simp only [dispatch]
      split
      · obtain ⟨scan, raw, mac, pairing, toHost, toOther, heq⟩ :=
          scanCallback_eq device adv (w.emit (.advert device adv))
        rw [heq]
        exact .inr (.advert device adv scan raw mac pairing toHost toOther)
      · exact .inl rfl
  | linkLost client =>
      simp only [dispatch]
      split
      · exact .inr (.linkLost client)
      · exact .inl rfl

namespace Reach

@[refl] theorem refl : Reach env part w w := Relation.ReflTransGen.refl

theorem tail (h : Reach env part w₀ w) (he : Effect env part w w') : Reach env part w₀ w' :=
  Relation.ReflTransGen.tail h he

/-- An assertion that every effect keeps is kept by finitely many. -/
theorem invariant {I : World → Prop} (hI : ∀ w w', Effect env part w w' → I w → I w')
    (h : Reach env part w₀ w) (h₀ : I w₀) : I w := by
  induction h with
  | refl => exact h₀
  | tail _ he ih => exact hI _ _ he ih

theorem dispatch {t : ℕ} {e : Event} (he : e ∈ env.events t) (h : Reach env part w₀ w) :
    Reach env part w₀ (Switch2Bt.dispatch e w) := by
  rcases dispatch_effect part he w with heq | heff
  · rw [heq]
    exact h
  · exact h.tail heff

end Reach

/-! ## The stages have no other effects -/

/-- The active profile is not an effect of any part. -/
theorem Reach.activeProfile (h : Reach env part w₀ w) :
    w.st.activeProfile = w₀.st.activeProfile := by
  refine h.invariant (I := fun w => w.st.activeProfile = w₀.st.activeProfile) ?_ rfl
  intro w w' he hw
  rw [← hw]
  cases he <;> simp [DaemonState.countReport]

theorem awaitCall_reach (c : Call) : Always env (Reach env part w₀) (awaitCall c) :=
  Always.await c fun _ _ he _ hs => hs.dispatch he

/-- What events keep, an awaited call keeps. -/
theorem awaitCall_always {I : World → Prop}
    (hI : ∀ w w', Effect env .preflight w w' → I w → I w') (c : Call) :
    Always env I (awaitCall c) := by
  refine Always.await c fun _ e he w hw => ?_
  rcases dispatch_effect .preflight he w with heq | heff
  · rw [heq]
    exact hw
  · exact hI _ _ heff hw

theorem queryCall_reach (c : Call) : Always env (Reach env part w₀) (queryCall c) :=
  Always.query c

/-- One effect. -/
theorem modify_reach {f : World → World} (h : ∀ w, Effect env part w (f w)) :
    Always env (Reach env part w₀) (Coro.modify f : Daemon Unit) :=
  Always.modify fun w hw => hw.tail (h w)

/-- A call of a method of `state.client`. -/
theorem withClient_reach {α : Type} {call : ClientId → Daemon (Except PyErr α)}
    (h : ∀ id, Always env (Reach env part w₀) (call id)) :
    Always env (Reach env part w₀) (withClient call) := by
  refine Always.read fun w _ => ?_
  split
  · exact Always.pure _
  · exact h _

/-- A step that is awaited under a condition only. -/
theorem await_skip_reach {c : Prop} [Decidable c] {α : Type} {call : Call} {k : Daemon α}
    (hk : Always env (Reach env part w₀) k) :
    Always env (Reach env part w₀) (if c then awaitCall call >>= fun _ => k else k) :=
  Always.ite ((awaitCall_reach call).bind fun _ => hk) hk

theorem stageScan_reach : Always env (Reach env .scan w₀) stageScan := by
  refine Always.read fun _ _ => ?_
  refine (modify_reach fun _ => .scanLocals _).bind fun _ => ?_
  refine (awaitCall_reach _).bind fun started => ?_
  split
  · exact (modify_reach fun _ => .scanLocals _).bind fun _ => Always.raise _
  · refine (awaitCall_reach _).bind fun _ => (awaitCall_reach _).bind fun stopped => ?_
    refine Always.read fun w _ => (modify_reach fun _ => .scanLocals _).bind fun _ => ?_
    split
    · exact Always.raise _
    · unfold finishScan
      split
      · exact (modify_reach fun _ => .found _).bind fun _ =>
          Always.ite (Always.raise _) (Always.pure _)
      · exact Always.pure _

theorem connectAttempts_reach (id : ClientId) (remaining attempt : ℕ) :
    Always env (Reach env .connect w₀) (connectAttempts id remaining attempt) := by
  induction remaining generalizing attempt with
  | zero => exact Always.pure _
  | succ k ih =>
      refine await_skip_reach ((awaitCall_reach _).bind fun connected => ?_)
      split
      · exact (modify_reach fun _ => .storeClient id).bind fun _ => Always.pure _
      · exact ih _

theorem stageConnect_reach : Always env (Reach env .connect w₀) stageConnect :=
  Always.read fun _ _ => (modify_reach fun _ => .newClient).bind fun _ =>
    connectAttempts_reach _ _ _

theorem fetchServices_reach (remaining : ℕ) :
    Always env (Reach env .discover w₀) (fetchServices remaining) := by
  induction remaining with
  | zero => exact Always.pure _
  | succ k ih =>
      refine (withClient_reach fun _ => queryCall_reach _).bind fun services => ?_
      split
      · exact Always.pure _
      · refine (withClient_reach fun _ => awaitCall_reach _).bind fun services => ?_
        split
        · exact Always.pure _
        · exact await_skip_reach ih

/-- Matching a characteristic assigns the handle fields, and may match the input. -/
theorem discoverChar_reach (c : Characteristic) (h : Reach env .discover w₀ w) :
    Reach env .discover w₀ (discoverChar w₀.st.activeProfile w c) := by
  have hinput : Reach env .discover w₀ (discoverInput w₀.st.activeProfile c w) := by
    simp only [discoverInput]
    split
    · split
      · rename_i candidate hmatch
        refine Reach.tail (h.tail (.handles w.st.cmdWriteHandle w.st.commandResponseHandle
          (some c.handle) (some candidate))) (.inputMatched candidate c.handle ?_)
        show w.st.activeProfile.subscribeStrategy = .selected ∧
          candidate ∈ w.st.activeProfile.inputUuids
        rw [h.activeProfile]
        simp only [matchInput] at hmatch
        split at hmatch
        · exact ⟨‹_›, List.mem_of_find?_eq_some hmatch⟩
        · cases hmatch
      · exact h
    · exact h
  exact hinput.tail (.handles _ _ _ _)

theorem discoverTree_reach (tree : List Service) (h : Reach env .discover w₀ w) :
    Reach env .discover w₀ (discoverTree w₀.st.activeProfile tree w) := by
  have hfold : ∀ (cs : List Characteristic) (w : World), Reach env .discover w₀ w →
      Reach env .discover w₀ (cs.foldl (discoverChar w₀.st.activeProfile) w) := by
    intro cs
    induction cs with
    | nil => exact fun w hw => hw
    | cons c cs ih => exact fun w hw => ih _ (discoverChar_reach c hw)
  exact hfold _ _ ((h.tail (.handles none none none none)).tail (.servicesRead tree))

/-- Two synchronous updates that are one effect together. -/
theorem modify_emit_reach {f : World → World} {o : Obs} {α : Type} {k : Daemon α}
    (h : ∀ w, Effect env part w ((f w).emit o)) (hk : Always env (Reach env part w₀) k) :
    Always env (Reach env part w₀) (Coro.modify f >>= fun _ => emit o >>= fun _ => k) :=
  fun w hw => hk _ (hw.tail (h w))

theorem subscribeCommandResponse_reach :
    Always env (Reach env .discover w₀) subscribeCommandResponse := by
  refine Always.read fun w _ => Always.ite (Always.pure _) ?_
  refine Always.bind ?_ fun subscribed => ?_
  · exact withClient_reach fun id => modify_emit_reach (fun _ => .notifyResponse id)
      (awaitCall_reach _)
  · split
    · exact (modify_reach fun _ => .responseSubscribed).bind fun _ => Always.pure _
    · exact Always.pure _

theorem finishDiscover_reach (profile : ProtocolProfile) :
    Always env (Reach env .discover w₀) (finishDiscover profile) := by
  have hfinish : ∀ subscribed : Bool, Always env (Reach env .discover w₀)
      (if subscribed then do
        updateSt fun s => { s with stageDiscoverOk := true }
        pure true
      else pure false : Daemon Bool) := fun _ =>
    Always.ite ((modify_reach fun _ => .discoverOk).bind fun _ => Always.pure _) (Always.pure _)
  exact Always.read fun w _ => Always.ite (subscribeCommandResponse_reach.bind hfinish)
    ((Always.pure _).bind hfinish)

theorem stageDiscover_reach : Always env (Reach env .discover w₀) stageDiscover := by
  refine Always.read fun w hw => (fetchServices_reach _).bind fun services => ?_
  split
  · exact Always.pure _
  · rename_i tree
    rw [hw.activeProfile]
    refine Always.bind (Always.modify fun _ => discoverTree_reach tree) fun _ => ?_
    exact Always.read fun _ _ => Always.ite (Always.pure _)
      (Always.ite (Always.pure _) (finishDiscover_reach _))

theorem writeGattChar_reach {uuid : Option String} {payload : Octets}
    (h : ∀ w ok, Reach env part w₀ w →
      Effect env part w (w.emit (.gattWrite uuid payload ok))) :
    Always env (Reach env part w₀) (writeGattChar uuid payload) := by
  refine (withClient_reach fun _ => awaitCall_reach _).bind fun r => ?_
  exact (Always.modify fun w hw => hw.tail (h w _ hw)).bind fun _ => Always.pure _

theorem awaitPairResponse_reach (base : ℕ) (step : PairStep) :
    Always env (Reach env .pair w₀) (awaitPairResponse base step) := by
  have hemit : ∀ latest, Always env (Reach env .pair w₀)
      (emit (.pairResponse step.name latest)) := fun latest =>
    modify_reach fun _ => .pairResponse step.name latest
  exact Always.read fun _ _ => Always.ite
    ((awaitCall_reach _).bind fun _ => Always.read fun _ _ => Always.ite (hemit _) (hemit _))
    ((awaitCall_reach _).bind fun _ => Always.pure _)

theorem pairLoop_reach (hpairs : w₀.st.activeProfile.pairs) (base : ℕ) (steps : List PairStep)
    (hsteps : ∀ step ∈ steps, ∀ payload, buildCommand pairCmd step.subId step.data = .ok payload →
      IsPairPayload payload) :
    Always env (Reach env .pair w₀) (pairLoop w₀.st.activeProfile.commandUuid base steps) := by
  induction steps with
  | nil => exact Always.pure _
  | cons step steps ih =>
      refine Always.ofExcept_bind fun payload hbuild => ?_
      refine (writeGattChar_reach fun w ok hw => ?_).bind fun written => ?_
      · rw [← hw.activeProfile]
        refine .pairWrite payload ok ⟨?_, hsteps step List.mem_cons_self payload hbuild⟩
        rw [hw.activeProfile]
        exact hpairs
      · split
        · exact (modify_reach fun _ => .pairFailed _).bind fun _ => Always.pure _
        · exact (awaitPairResponse_reach _ _).bind fun _ =>
            ih fun s hs => hsteps s (List.mem_cons_of_mem _ hs)

theorem stagePair_reach : Always env (Reach env .pair w₀) stagePair := by
  have hfail : ∀ step, Always env (Reach env .pair w₀) (do
      updateSt fun s => { s with pairFailureStep := some step }
      pure false : Daemon Bool) := fun step =>
    (modify_reach fun _ => .pairFailed step).bind fun _ => Always.pure _
  refine Always.read fun w hw => ?_
  rw [hw.activeProfile]
  by_cases hpairs : w₀.st.activeProfile.pairs
  · simp only [hpairs, Bool.not_true, if_neg Bool.false_ne_true]
    refine (queryCall_reach _).bind fun mac => (modify_reach fun _ => .hostMac mac).bind fun _ => ?_
    refine Always.ite (hfail _) (Always.ite (hfail _) ?_)
    refine Always.ofExcept_bind fun setmac hsetmac => Always.read fun w _ => ?_
    refine (pairLoop_reach hpairs _ _ fun step hstep payload hbuild =>
      ⟨_, setmac, step, hsetmac, hstep, hbuild⟩).bind fun paired => ?_
    exact Always.ite ((modify_reach fun _ => .pairOk).bind fun _ => Always.pure _) (Always.pure _)
  · simp only [hpairs, Bool.not_false, if_true]
    exact Always.pure _

theorem initLoop_reach (cs : List InitCommand) (hcs : cs ⊆ w₀.st.activeProfile.initCommands) :
    Always env (Reach env .init w₀) (initLoop w₀.st.activeProfile.commandUuid cs) := by
  induction cs with
  | nil => exact Always.pure _
  | cons c cs ih =>
      have ih := ih fun x hx => hcs (List.mem_cons_of_mem _ hx)
      refine (writeGattChar_reach fun w ok hw => ?_).bind fun written => ?_
      · rw [← hw.activeProfile]
        refine .initWrite c.payload ok ?_
        rw [hw.activeProfile]
        exact List.mem_map_of_mem (hcs List.mem_cons_self)
      · split
        · exact Always.pure _
        · exact await_skip_reach ih

theorem stageInit_reach : Always env (Reach env .init w₀) stageInit := by
  refine Always.read fun w hw => ?_
  rw [hw.activeProfile]
  exact initLoop_reach _ fun _ hc => hc

theorem startNotifyInput_reach (target : NotifyTarget) :
    Always env (Reach env .subscribe w₀) (startNotifyInput target) :=
  withClient_reach fun id => modify_emit_reach (fun _ => .notifyInput id target)
    (awaitCall_reach _)

theorem subscribeAttempts_reach (uuid : String) (remaining : ℕ) :
    Always env (Reach env .subscribe w₀) (subscribeAttempts uuid remaining) := by
  induction remaining with
  | zero => exact Always.pure _
  | succ k ih =>
      refine (startNotifyInput_reach _).bind fun subscribed => ?_
      split
      · exact (modify_reach fun _ => .subscribeOk).bind fun _ => Always.pure _
      · exact await_skip_reach ih

theorem subscribeChars_reach (hall : w₀.st.activeProfile.subscribeStrategy = .all)
    (cs : List Characteristic) (count : ℕ) :
    Always env (Reach env .subscribe w₀) (subscribeChars cs count) := by
  induction cs generalizing count with
  | nil => exact Always.pure _
  | cons c cs ih =>
      refine Always.ite ((startNotifyInput_reach _).bind fun subscribed => ?_) (ih _)
      split
      · intro w hw
        exact ih _ _ (hw.tail (.subscribed c.handle (by rw [hw.activeProfile]; exact hall)))
      · exact ih _

theorem subscribeAllNotify_reach (hall : w₀.st.activeProfile.subscribeStrategy = .all) :
    Always env (Reach env .subscribe w₀) subscribeAllNotify := by
  refine (withClient_reach fun _ => queryCall_reach _).bind fun services => ?_
  refine Always.ofExcept_bind fun tree _ => ?_
  split
  · exact Always.raise _
  · refine (subscribeChars_reach hall _ _).bind fun count => Always.ite (Always.pure _) ?_
    exact (modify_reach fun _ => .subscribeOk).bind fun _ => Always.pure _

theorem stageSubscribe_reach : Always env (Reach env .subscribe w₀) stageSubscribe := by
  refine Always.read fun w hw => ?_
  rw [hw.activeProfile]
  split
  · exact subscribeAllNotify_reach ‹_›
  · exact Always.ite (Always.pure _) (subscribeAttempts_reach _ _)

/-- The RUNNING loop raises nothing. -/
theorem runningLoop_spec (hw : Reach env .running w₀ w) :
    wp env runningLoop ⟨fun _ => Reach env .running w₀, fun _ _ => False,
      Reach env .running w₀⟩ w := by
  refine wp_loop (fun _ => Reach env .running w₀) (fun _ _ h => h) (fun _ w hw => ?_) hw
  refine (wp_get_bind _).mpr (wp_ite (fun _ => (wp_pure _).mpr hw) fun _ => ?_)
  refine (wp_modify_bind _ _).mpr (wp_await_bind (Reach env .running w₀)
    (fun _ _ he _ hs => hs.dispatch he) (hw.tail .notifyCleared) (fun _ h => h) ?_)
  intro timedOut w' hw'
  exact (wp_get_bind _).mpr (wp_ite (fun _ => (wp_pure _).mpr hw') fun _ =>
    wp_ite (fun _ => (wp_pure _).mpr hw') fun _ => (wp_pure _).mpr hw')

theorem runningLoop_reach : Always env (Reach env .running w₀) runningLoop := fun _ hw =>
  (runningLoop_spec hw).mono (fun _ _ h => h) (fun _ _ h => h.elim) (fun _ h => h)

/-! ## What effects keep -/

/-- The observations a part of a session can make. -/
def Stage.emits (part : Stage) : Obs → Bool
  | .advert _ _ | .report _ | .linkLost _ => true
  | .stored _ => part = .connect
  | .dropped _ _ => part = .connect ∨ part = .running
  | .disconnectCalled _ => part = .running
  | .servicesRead _ | .inputMatched _ _ | .notifyResponse => part = .discover
  | .gattWrite _ _ _ => part = .pair ∨ part = .init
  | .pairResponse _ _ => part = .pair
  | .notifyInput _ | .subscribed _ => part = .subscribe
  | .sessionStart _ | .interrupted _ _ _ | .stageDone _ _ | .sessionEnd _ | .backoff _ _
  | .summary _ => false

/-- Letting go of a client records at most that. -/
theorem World.setClient_obs (c : Option ClientId) (w : World) :
    ∃ os, (w.setClient c).trace = w.trace ++ os ∧ ∀ o ∈ os, ∃ id up, o = .dropped id up := by
  simp only [setClient]
  split
  · exact ⟨[], by simp⟩
  · split
    · exact ⟨[], by simp⟩
    · exact ⟨[_], rfl, fun o ho => ⟨_, _, List.mem_singleton.mp ho⟩⟩

/-- An effect extends the trace by what its part can emit. -/
theorem Effect.obs (h : Effect env part w w') :
    ∃ os, w'.trace = w.trace ++ os ∧ ∀ o ∈ os, part.emits o := by
  cases h with
  | storeClient id =>
      obtain ⟨os, htrace, hos⟩ := World.setClient_obs (some id) { w with up := id :: w.up }
      refine ⟨os ++ [.stored id], ?_, fun o ho => ?_⟩
      · simp [World.storeClient, htrace]
      · rcases List.mem_append.mp ho with ho | ho
        · obtain ⟨_, _, rfl⟩ := hos o ho
          rfl
        · rw [List.mem_singleton.mp ho]
          rfl
  | clientCleared h =>
      obtain ⟨os, htrace, hos⟩ := World.setClient_obs none w
      refine ⟨os, htrace, fun o ho => ?_⟩
      obtain ⟨_, _, rfl⟩ := hos o ho
      rfl
  | report | advert | linkLost | servicesRead | inputMatched | notifyResponse | pairResponse
  | pairWrite | initWrite | notifyInput | subscribed | disconnectCalled =>
      exact ⟨[_], rfl, by simp [Stage.emits]⟩
  | _ => exact ⟨[], by simp⟩

theorem Reach.obs (h : Reach env part w₀ w) :
    ∃ os, w.trace = w₀.trace ++ os ∧ ∀ o ∈ os, part.emits o := by
  refine h.invariant (I := fun w => ∃ os, w.trace = w₀.trace ++ os ∧ ∀ o ∈ os, part.emits o)
    ?_ ⟨[], by simp⟩
  rintro w w' he ⟨os, htrace, hos⟩
  obtain ⟨os', htrace', hos'⟩ := he.obs
  refine ⟨os ++ os', by rw [htrace', htrace, List.append_assoc], fun o ho => ?_⟩
  exact (List.mem_append.mp ho).elim (hos o) (hos' o)

/-- The trace only grows. -/
theorem Reach.trace_grows (h : Reach env part w₀ w) : w₀.trace <+: w.trace := by
  obtain ⟨os, htrace, -⟩ := h.obs
  exact ⟨os, htrace.symm⟩

/-- Only connecting and the cleanup touch `state.client`. -/
theorem Reach.client (h : Reach env part w₀ w) (hc : part ≠ .connect) (hr : part ≠ .running) :
    w.st.client = w₀.st.client := by
  refine h.invariant (I := fun w => w.st.client = w₀.st.client) ?_ rfl
  intro w w' he hw
  rw [← hw]
  cases he <;> simp [DaemonState.countReport] at hc hr ⊢

/-- Only the pair stage looks for the host address. -/
theorem Reach.hostMac (h : Reach env part w₀ w) (hp : part ≠ .pair) :
    w.st.hostMac = w₀.st.hostMac := by
  refine h.invariant (I := fun w => w.st.hostMac = w₀.st.hostMac) ?_ rfl
  intro w w' he hw
  rw [← hw]
  cases he <;> simp [DaemonState.countReport] at hp ⊢

/-- Without a shutdown signal nothing sets the flag. -/
theorem Reach.shutdown (henv : NoShutdown env) (h : Reach env part w₀ w)
    (h₀ : w₀.st.shutdown = false) : w.st.shutdown = false := by
  refine h.invariant (I := fun w => w.st.shutdown = false) ?_ h₀
  intro w w' he hw
  cases he with
  | shutdown h =>
      obtain ⟨t, h⟩ := h
      exact absurd rfl (henv t _ h)
  | _ => simpa [DaemonState.countReport] using hw

/-- Events are effects of every part; `preflight` stands for events alone. -/
theorem Effect.of_event (h : Effect env .preflight w w') : Effect env part w w' := by
  cases h with
  | shutdown h => exact .shutdown h
  | report n uinput jsonl hpass => exact .report n uinput jsonl hpass
  | response hex => exact .response hex
  | advert device adv scan raw mac pairing toHost toOther =>
      exact .advert device adv scan raw mac pairing toHost toOther
  | linkLost client => exact .linkLost client

theorem Reach.of_events (h : Reach env .preflight w₀ w) : Reach env part w₀ w :=
  Relation.ReflTransGen.lift id (fun _ _ he => Effect.of_event he) _ _ h

/-! ## Cleanup -/

/-- The client held has been disconnected, unless its link is down. -/
def World.Released (w : World) : Prop :=
  ∀ id, w.st.client = some id → id ∈ w.up → Obs.disconnectCalled id ∈ w.trace

/-- `disconnectClient` releases the client held and raises nothing. -/
theorem disconnectClient_spec (hw : Reach env .running w₀ w) :
    wp env disconnectClient ⟨fun _ w' => Reach env .running w₀ w' ∧ w'.Released,
      fun _ _ => False, Reach env .running w₀⟩ w := by
  simp only [disconnectClient, wp_get_bind]
  rcases hclient : w.st.client with _ | id
  · exact (wp_pure _).mpr ⟨hw, by simp [World.Released, hclient]⟩
  by_cases hup : id ∈ w.up
  · simp only [hup, if_true]
    have hcalled := hw.tail (.disconnectCalled id)
    refine wp_await_bind (Reach env .preflight (w.emit (.disconnectCalled id)))
      (fun _ _ he _ hs => hs.dispatch he) .refl (fun _ hs => hcalled.trans hs.of_events) ?_
    intro answer w' hw'
    have hreach : Reach env .running w₀ w' := hcalled.trans hw'.of_events
    have hmem : Obs.disconnectCalled id ∈ w'.trace := hw'.trace_grows.subset (by simp)
    have hid : w'.st.client = some id := by simpa [hclient] using hw'.client (by simp) (by simp)
    have hreleased : ∀ {w'' : World}, w''.st.client = some id → w''.trace = w'.trace →
        w''.Released := by
      intro w'' hc ht id' hid' _
      rw [hc] at hid'
      cases hid'
      exact ht ▸ hmem
    cases answer with
    | ok _ => exact (wp_modify _ _).mpr ⟨hreach.tail (.linkDown id), hreleased hid rfl⟩
    | error _ => exact (wp_pure _).mpr ⟨hreach, hreleased hid rfl⟩
  · simp only [hup, if_false]
    refine (wp_pure _).mpr ⟨hw, fun id' hid' hup' => ?_⟩
    rw [hclient] at hid'
    cases hid'
    exact absurd hup' hup

/-- `cleanup_client` leaves no client and raises nothing. -/
theorem cleanupClient_spec (hw : Reach env .running w₀ w) :
    wp env cleanupClient ⟨fun _ w' => Reach env .running w₀ w' ∧ w'.st.client = none,
      fun _ _ => False, Reach env .running w₀⟩ w :=
  (disconnectClient_spec hw).seq fun _ _ h =>
    (wp_modify _ _).mpr ⟨h.1.tail (.clientCleared h.2), by simp⟩

theorem cleanupClient_reach : Always env (Reach env .running w₀) cleanupClient := fun _ hw =>
  (cleanupClient_spec hw).mono (fun _ _ h => h.1) (fun _ _ h => h.elim) (fun _ h => h)

/-! ## Sessions -/

/-- One step of a session: an effect of one of its parts, or a record of `run_session`. -/
inductive SessionStep (env : DaemonEnv) : World → World → Prop where
  | effect {part : Stage} {w w' : World} (h : Effect env part w w') : SessionStep env w w'
  | stageDone {w : World} (stage : Stage) (ok : Bool) :
      SessionStep env w (w.emit (.stageDone stage ok))
  | interrupted {w : World} : SessionStep env w (w.emit (.interrupted w.st.activeProfile
      w.st.client (w.st.client.any fun id => decide (id ∈ w.up))))

/-- Finitely many steps of a session. -/
def SessionReach (env : DaemonEnv) : World → World → Prop :=
  Relation.ReflTransGen (SessionStep env)

theorem Reach.session (h : Reach env part w₀ w) : SessionReach env w₀ w :=
  Relation.ReflTransGen.lift id (fun _ _ he => SessionStep.effect he) _ _ h

/-- An assertion that every step keeps is kept by finitely many. -/
theorem SessionReach.invariant {I : World → Prop} (hI : ∀ w w', SessionStep env w w' → I w → I w')
    (h : SessionReach env w₀ w) (h₀ : I w₀) : I w := by
  induction h with
  | refl => exact h₀
  | tail _ hs ih => exact hI _ _ hs ih

/-- The observations of `run_session` after it started. -/
def Obs.inSession : Obs → Bool
  | .sessionStart _ | .sessionEnd _ | .backoff _ _ | .summary _ => false
  | _ => true

theorem SessionStep.obs (h : SessionStep env w w') :
    ∃ os, w'.trace = w.trace ++ os ∧ ∀ o ∈ os, o.inSession := by
  cases h with
  | effect he =>
      obtain ⟨os, htrace, hos⟩ := he.obs
      refine ⟨os, htrace, fun o ho => ?_⟩
      have hemits := hos o ho
      cases o <;> first | rfl | cases hemits
  | stageDone stage ok => exact ⟨[_], rfl, by simp [Obs.inSession]⟩
  | interrupted => exact ⟨[_], rfl, by simp [Obs.inSession]⟩

/-- A part of a session takes steps of the session. -/
theorem always_session {α : Type} {m : Daemon α} (h : ∀ w, Always env (Reach env part w) m) :
    Always env (SessionReach env w₀) m := fun w hw =>
  (h w w .refl).mono (fun _ _ h => hw.trans h.session) (fun _ _ h => hw.trans h.session)
    (fun _ h => hw.trans h.session)

/-- Every stage of a session has the effects of its own part only. -/
theorem sessionStages_reach (profile : ProtocolProfile) :
    ∀ s ∈ sessionStages profile, ∀ w, Always env (Reach env s.1 w) s.2 := by
  intro s hs w
  simp only [sessionStages, List.mem_append, List.mem_cons, List.not_mem_nil, or_false] at hs
  rcases hs with ((rfl | rfl | rfl) | hpair) | rfl | rfl
  · exact stageScan_reach
  · exact stageConnect_reach
  · exact stageDiscover_reach
  · split at hpair
    · obtain rfl := List.mem_singleton.mp hpair
      exact stagePair_reach
    · cases hpair
  · exact stageInit_reach
  · exact stageSubscribe_reach

theorem runStages_session (stages : List (Stage × Daemon Bool))
    (h : ∀ s ∈ stages, ∀ w, Always env (Reach env s.1 w) s.2) :
    Always env (SessionReach env w₀) (runStages stages) := by
  induction stages with
  | nil => exact Always.pure _
  | cons s rest ih =>
      have ih := ih fun s hs => h s (List.mem_cons_of_mem _ hs)
      refine Always.get_bind fun w hw => wp_ite (fun _ => ?_) fun _ => ?_
      · exact wp_modify_bind _ _ |>.mpr ((wp_pure _).mpr (hw.tail .interrupted))
      · refine Always.bind (always_session (h s List.mem_cons_self)) (fun ok => ?_) w hw
        refine (Always.modify fun w hw => hw.tail (.stageDone s.1 ok)).bind fun _ => ?_
        exact Always.ite ih ((always_session fun _ => cleanupClient_reach).bind fun _ =>
          Always.pure _)

/-- The rule for one stage of a session, with the assertions `B` and `F` after its success and
its failure. -/
theorem runStages_cons_wp {Q : Post World PyErr (Option Bool)} {name : Stage} {fn : Daemon Bool}
    {rest : List (Stage × Daemon Bool)} {B F : World → Prop}
    (hstop : w.st.shutdown = true → Q.done (some true) (w.emit (.interrupted w.st.activeProfile
      w.st.client (w.st.client.any fun id => decide (id ∈ w.up)))))
    (hfn : w.st.shutdown = false → wp env fn ⟨fun ok w' => if ok
      then B (w'.emit (.stageDone name true)) else F (w'.emit (.stageDone name false)),
      Q.raised, Q.suspended⟩ w)
    (hrest : ∀ w', B w' → wp env (runStages rest) Q w')
    (hfail : ∀ w', F w' → wp env cleanupClient
      ⟨fun _ => Q.done (some false), Q.raised, Q.suspended⟩ w') :
    wp env (runStages ((name, fn) :: rest)) Q w := by
  refine (wp_get_bind _).mpr (wp_ite (fun hs => ?_) fun hs => ?_)
  · exact (wp_modify_bind _ _).mpr ((wp_pure _).mpr (hstop hs))
  · refine (hfn (by simpa using hs)).seq ?_
    intro ok w' h
    refine (wp_modify_bind _ _).mpr ?_
    cases ok with
    | true => exact hrest _ h
    | false =>
        exact (hfail _ h).seq fun _ _ h => (wp_pure _).mpr h

/-- **A session takes session steps only**, from the world it starts with. -/
theorem runSession_session (profile : Option ProtocolProfile) (w : World) :
    wp env (runSession profile) (Post.all (SessionReach env (w.startSession profile))) w := by
  refine (wp_modify_bind _ _).mpr (Always.read (fun w₁ _ => ?_) _ .refl)
  refine (runStages_session _ (sessionStages_reach _)).bind fun result => ?_
  rcases result with _ | result
  · refine (always_session fun _ => runningLoop_reach).bind fun _ => ?_
    refine (always_session fun _ => cleanupClient_reach).bind fun _ => ?_
    exact Always.read fun _ _ => Always.pure _
  · exact Always.pure _

/-- What a session starts with, and its steps keep, it keeps. -/
theorem runSession_invariant {I : World → Prop} {profile : Option ProtocolProfile} {w : World}
    (hstart : I (w.startSession profile))
    (hstep : ∀ w w', SessionStep env w w' → I w → I w') :
    wp env (runSession profile) (Post.all I) w :=
  (runSession_session profile w).all_mono fun _ h => h.invariant hstep hstart

/-- An invariant of the session steps is one of the session, if it starts with it. -/
theorem runSession_always {I : World → Prop} {profile : Option ProtocolProfile}
    (hstart : ∀ w, I w → I (w.startSession profile))
    (hstep : ∀ w w', SessionStep env w w' → I w → I w') :
    Always env I (runSession profile) := fun w hw => runSession_invariant (hstart w hw) hstep

/-! ## The program around its mode -/

/-- The rule for the program: `I` is what holds until the mode starts. -/
theorem asyncMain_wp {I : World → Prop} {args : Args} {Q : Post World PyErr ℕ}
    (hevent : ∀ w w', Effect env .preflight w w' → I w → I w')
    (hjsonl : ∀ w, I w → I (w.update fun s => { s with jsonlFile := some [] }))
    (huinput : ∀ w, I w → I (w.update fun s => { s with uinput := some setupUinput }))
    (hquit : ∀ w, I w → Q.done 10 w) (hwait : ∀ w, I w → Q.suspended w)
    (hmode : ∀ w, I w → wp env (do
      let result ← (runMode (resolveProfile args)).attempt
      cleanupClient
      match result with
      | .ok code => pure code
      | .error _ => pure 99 : Daemon ℕ) Q w)
    (hnew : I ((World.new args).update fun s => { s with args := resolveProfile args })) :
    wp env asyncMain Q (World.new args) := by
  refine (wp_get_bind _).mpr ((wp_modify_bind _ _).mpr ?_)
  refine wp_bind (wp_await_bind I (fun _ e he w hw => ?_) hnew hwait fun answer w hw => ?_)
  · rcases dispatch_effect .preflight he w with heq | heff
    · rw [heq]
      exact hw
    · exact hevent _ _ heff hw
  have hrun : ∀ w, I w → wp env (do
      if (resolveProfile args).dumpJsonl then
        updateSt fun s => { s with jsonlFile := some [] }
      let result ← (runMode (resolveProfile args)).attempt
      cleanupClient
      match result with
      | .ok code => pure code
      | .error _ => pure 99 : Daemon ℕ) Q w := fun w hw =>
    wp_ite (fun _ => (wp_modify_bind _ _).mpr (hmode _ (hjsonl w hw))) fun _ => hmode w hw
  have hprepare : ∀ w, I w → wp env (prepareUinput (resolveProfile args))
      ⟨fun _ => I, fun _ _ => False, fun _ => False⟩ w := by
    intro w hw
    refine wp_ite (fun _ => wp_query_bind fun created => ?_) fun _ => (wp_pure _).mpr hw
    exact wp_ite (fun _ => (wp_modify_bind _ _).mpr ((wp_pure _).mpr (huinput w hw)))
      fun _ => (wp_pure _).mpr hw
  cases answer with
  | error e => exact (wp_pure _).mpr ((wp_pure _).mpr (hquit w hw))
  | ok u =>
      refine (wp_pure _).mpr (wp_bind ((hprepare w hw).mono ?_ (fun _ _ h => h.elim)
        fun _ h => h.elim))
      exact fun prepared w' hw' => wp_ite (fun _ => (wp_pure _).mpr (hquit w' hw'))
        fun _ => hrun w' hw'

/-! ## A well-behaved environment -/

/-- The answer of a call that goes well, with the given service tree. -/
def goodAnswer (tree : List Service) : (c : Call) → Answer c
  | .discover _ | .scannerStart | .scannerStop | .connect _ | .startNotify _ _
  | .writeGattChar _ _ _ | .disconnect _ => .ok ()
  | .waitFound _ | .sleep _ | .waitDisconnect _ => ()
  | .sleepWithin _ _ | .waitNotify _ => false
  | .createUinput => true
  | .services _ | .getServices _ => .ok (some tree)
  | .hostMac => some "aa:bb:cc:dd:ee:ff"

/-- Every call goes well and nothing happens. -/
def quietEnv : DaemonEnv := ⟨fun _ => goodAnswer [], fun _ => []⟩

theorem quietEnv_noShutdown : NoShutdown quietEnv := fun _ _ he => by cases he

/-- The defaults of the command line, in the mode and with the profile given.
Source: `switch2d.py` `parse_args` (defaults) -/
def defaultArgs (diagnose daemon : Bool) (profile : String) : Args where
  diagnose := diagnose
  daemon := daemon
  profile := profile
  scanTimeout := 10
  address := none
  looseScan := false
  connectRetries := 3
  gattRetries := 10
  notifyTimeout := 30
  maxReports := 100
  dumpJsonl := false
  uinput := false
  verbose := false

/-- The advertisement of a Pro Controller 2, with the given reconnect address. -/
def padAdvert (reconnectMac : Octets) : Advertisement :=
  ⟨[(nintendoMfrId, [0x01, 0x00, 0x03, 0x7e, 0x05, 0x69, 0x20, 0x00, 0x00, 0x00] ++ reconnectMac)]⟩

/-- The service tree of a controller with the input characteristic of `macos`. -/
def padTree : List Service :=
  [⟨[⟨"7492866c-ec3e-4619-8258-32755ffcc0f9", 14, ["notify"]⟩]⟩]

/-- A report of a controller at rest. -/
def padReport : Notification :=
  ⟨some 14, [0x00, 0x00, 0x00, 0x00, 0x00, 0x00, 0x08, 0x80, 0x00, 0x08, 0x80], 1, 1⟩

/-- Every call goes well, with the tree of a controller; the events are given by call number. -/
def padEnv (events : ℕ → List Event) : DaemonEnv := ⟨fun _ => goodAnswer padTree, events⟩

end Switch2Bt
