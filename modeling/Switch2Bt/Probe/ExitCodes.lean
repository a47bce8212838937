import Switch2Bt.Probe.Run

/-!
# Exit codes of the probe

The module comment of the probe promises an exit code for the first step that fails, and
`documentedExitCode` says which one that is, for a script and the reports that arrived. The code
of a run is the documented one, unless a pair command fails in both write modes, which ends in 99
instead of 4, or one UUID is given to both characteristics, which counts as missing
(`exitCode_documented_iff`).
-/

namespace Switch2Bt.Probe

open Octets

/-! ## Statement -/

section statement

variable (args : Args) (s : Script)

/-- An advertisement passes the filters. -/
def found : Bool := s.adverts.any (passesScan args)

/-- An attempt to connect succeeds. -/
def connected : Bool :=
  (List.range args.connectRetries.toNat).any fun k => !failed (s.connect (k + 1))

/-- The characteristics of the first tree that is not empty. -/
def discovered : List Characteristic :=
  (accessServices s args.gattRetries.toNat 1).flatMap (·.characteristics)

/-- There is a characteristic with a UUID. -/
def hasUuid (uuid : String) : Bool := (discovered args s).any fun c => lower c.uuid = lower uuid

/-- A characteristic that the mode requires is not there. -/
def missing : Bool :=
  (args.mode ≠ .none && !hasUuid args s args.cmdUuid) || !hasUuid args s args.inputUuid

/-- A command fails: in the mode `pair`, with response and without. -/
def commandFails : Bool :=
  match args.mode with
  | .procon2 => (List.range (procon2Commands args).length).any fun k =>
      ((procon2Commands args)[k]?.getD none).isSome && failed (s.write k false)
  | .pair => (List.range 4).any fun k => failed (s.write k true) && failed (s.write k false)
  | .none => false

/-- The subscription fails: of the input report, or of all notify characteristics. -/
def subscriptionFails : Bool :=
  if args.subscribeAllNotify then
    match s.notifyServices with
    | .error _ => true
    | .ok tree => notifyCharacteristics tree = [] ||
        (List.range (notifyCharacteristics tree).length).any fun k => failed (s.startNotify k)
  else failed (s.startNotify 0)

/-- The exit code of the first step from the subscription on that fails. -/
def documentedInitCode (reports : List Notification) : ℕ :=
  if args.notifyBeforeInit && subscriptionFails args s then 5
  else if commandFails args s then 4
  else if args.pairOnly then 0
  else if subscriptionFails args s then 5
  else if reports = [] then 5
  else 0

/-- The exit code of the first step that fails. -/
def documentedExitCode (reports : List Notification) : ℕ :=
  if !found args s then 1
  else if !connected args s then 2
  else if missing args s then 3
  else documentedInitCode args s reports

/-- The steps before the controller init succeed. -/
def ReachesInit : Prop :=
  found args s = true ∧ connected args s = true ∧ missing args s = false ∧
    (args.notifyBeforeInit && subscriptionFails args s) = false

/-- A pair command is reached that fails in both write modes. -/
def PairRaises : Prop := ReachesInit args s ∧ args.mode = .pair ∧ commandFails args s = true

/-- Both required characteristics have one UUID, and it is there. -/
def SameUuid : Prop :=
  found args s = true ∧ connected args s = true ∧ missing args s = false ∧ args.mode ≠ .none ∧
    lower args.cmdUuid = lower args.inputUuid

end statement

/-! ## Scan and connection -/

variable {s : Script}

theorem scan_isSome (args : Args) : (scan args s).isSome = found args s := by
  unfold scan found
  rw [Option.isSome_map, List.isSome_find?]

theorem any_range_succ (k : ℕ) (f : ℕ → Bool) :
    (List.range (k + 1)).any f = (f 0 || (List.range k).any fun i => f (i + 1)) := by
  rw [List.range_succ_eq_map, List.any_cons, List.any_map]
  rfl

theorem connectWithRetries_eq (k attempt : ℕ) : connectWithRetries s k attempt =
    (List.range k).any fun i => !failed (s.connect (i + attempt)) := by
  induction k generalizing attempt with
  | zero => rfl
  | succ k ih =>
      unfold connectWithRetries
      rw [any_range_succ, ih, Nat.zero_add]
      cases failed (s.connect attempt) with
      | true => simp [Nat.add_assoc, Nat.add_comm 1]
      | false => rfl

/-! ## What awaits keep -/

/-- The options and the command characteristic of a session, and a count of the reports that
arrived. -/
structure Kept (session : Session) (st : State) : Prop where
  args : st.session.args = session.args
  cmdWriteHandle : st.session.cmdWriteHandle = session.cmdWriteHandle
  count : st.session.reportCount = st.arrived.length

section kept

variable {session : Session} {st : State}

theorem Kept.reportCallback (h : Kept session st) (n : Notification) :
    Kept session (reportCallback n st) := by
  unfold Probe.reportCallback
  split
  · refine ⟨h.args, h.cmdWriteHandle, ?_⟩
    change st.session.reportCount + 1 = _
    rw [h.count, List.length_append, List.length_singleton]
  · exact h

theorem Kept.pause (h : Kept session st) : Kept session (pause s st) := by
  have hfold : ∀ (ns : List Notification) (st : State), Kept session st →
      Kept session (ns.foldl (fun st n => Probe.reportCallback n st) st) := by
    intro ns
    induction ns with
    | nil => exact fun _ h => h
    | cons n ns ih => exact fun st h => ih _ (h.reportCallback n)
  unfold Probe.pause
  split
  · exact hfold _ _ ⟨h.args, h.cmdWriteHandle, h.count⟩
  · exact h

theorem Kept.writeGattChar (h : Kept session st) (n : ℕ) (payload : Octets) (response : Bool) :
    Kept session (writeGattChar s n payload response st).2 :=
  Kept.pause ⟨h.args, h.cmdWriteHandle, h.count⟩

theorem Kept.startNotify (h : Kept session st) (n : ℕ) : Kept session (startNotify s n st).2 := by
  have hlistening : Kept session { st with listening := true } :=
    ⟨h.args, h.cmdWriteHandle, h.count⟩
  exact hlistening.pause

theorem Kept.waitForReports (h : Kept session st) : Kept session (waitForReports s st) := by
  have hnext : ∀ {st : State}, Kept session st → Kept session (Probe.pause s (clearEvent st)) :=
    fun h => Kept.pause ⟨h.args, h.cmdWriteHandle, h.count⟩
  induction st using Probe.waitForReports.induct s with
  | case1 st next hmore ih =>
      unfold Probe.waitForReports
      dsimp only
      rw [dif_pos hmore]
      exact ih (hnext h)
  | case2 st next hstop =>
      unfold Probe.waitForReports
      dsimp only
      rw [dif_neg hstop]
      exact hnext h

/-! ## Commands -/

theorem procon2Loop_spec (commands : List (Option Octets)) (n : ℕ) (h : Kept session st) :
    (procon2Loop s n commands st).1 = !((List.range commands.length).any fun k =>
        (commands[k]?.getD none).isSome && failed (s.write (k + n) false)) ∧
      Kept session (procon2Loop s n commands st).2 := by
  induction commands generalizing n st with
  | nil => exact ⟨rfl, h⟩
  | cons command commands ih =>
      rw [List.length_cons, any_range_succ]
      have hshift : ∀ k, k + 1 + n = k + (n + 1) := fun k => by omega
      cases command with
      | none =>
          unfold procon2Loop
          simpa [hshift] using ih (n + 1) h.pause
      | some payload =>
          have hwrite := h.writeGattChar (s := s) n payload false
          unfold procon2Loop
          unfold writeGattChar at hwrite ⊢
          cases hresult : s.write n false with
          | error e =>
              rw [hresult] at hwrite
              simp [failed, hresult]
              exact hwrite
          | ok _ =>
              rw [hresult] at hwrite
              simpa [hshift, failed, hresult] using ih (n + 1) hwrite.pause

/-- The init sequence succeeds iff no command fails. -/
theorem procon2Init_spec (h : Kept session st) (hcmd : truthy session.cmdWriteHandle = true)
    (hmode : session.args.mode = .procon2) :
    (procon2Init s st).1 = !commandFails session.args s ∧ Kept session (procon2Init s st).2 := by
  unfold procon2Init commandFails
  rw [h.cmdWriteHandle, if_pos hcmd, hmode, h.args]
  exact procon2Loop_spec (procon2Commands session.args) 0 h

/-- A pair command goes out unless both writes fail. -/
theorem writePairCommand_spec (n : ℕ) (subId : UInt8) {data : Octets}
    (hdata : data.length < 256) (h : Kept session st) :
    failed (writePairCommand s n subId data st).1 =
        (failed (s.write n true) && failed (s.write n false)) ∧
      Kept session (writePairCommand s n subId data st).2 := by
  unfold writePairCommand buildCommand
  rw [if_pos hdata]
  dsimp only
  generalize [pairCmd, 0x91, 0x01, subId, 0x00, UInt8.ofNat data.length, 0x00, 0x00] ++ data =
    payload
  have hwrite := h.writeGattChar (s := s) n payload true
  have hagain := hwrite.writeGattChar (s := s) n payload false
  unfold writeGattChar at hwrite hagain ⊢
  cases hresult : s.write n true with
  | ok _ =>
      rw [hresult] at hwrite
      exact ⟨rfl, hwrite⟩
  | error e =>
      rw [hresult] at hagain
      exact ⟨rfl, hagain⟩

theorem pairLoop_spec (steps : List PairStep) (n : ℕ)
    (hdata : ∀ step ∈ steps, step.data.length < 256) (h : Kept session st) :
    ((pairLoop s n steps st).1 = .ok true ∨ ∃ e, (pairLoop s n steps st).1 = .error e) ∧
      ((pairLoop s n steps st).1 = .ok true ↔ ((List.range steps.length).any fun k =>
        failed (s.write (k + n) true) && failed (s.write (k + n) false)) = false) ∧
      Kept session (pairLoop s n steps st).2 := by
  induction steps generalizing n st with
  | nil => exact ⟨.inl rfl, by simp [pairLoop], h⟩
  | cons step steps ih =>
      have hshift : ∀ k, k + 1 + n = k + (n + 1) := fun k => by omega
      have hstep := writePairCommand_spec (s := s) n step.subId
        (hdata step List.mem_cons_self) h
      rw [List.length_cons, any_range_succ]
      unfold pairLoop
      rcases hw : writePairCommand s n step.subId step.data st with ⟨_ | _, st'⟩
      · rw [hw] at hstep
        obtain ⟨hfails, hkept⟩ := hstep
        rw [Nat.zero_add, ← hfails]
        exact ⟨.inr ⟨_, rfl⟩, by simp [failed], hkept⟩
      · rw [hw] at hstep
        obtain ⟨hfails, hkept⟩ := hstep
        rw [Nat.zero_add, ← hfails]
        simpa [hshift, failed] using
          ih (n + 1) (fun d hd => hdata d (List.mem_cons_of_mem _ hd)) hkept

/-- The pair sequence succeeds, or raises if a command fails in both write modes. -/
theorem pair_spec (h : Kept session st) (hmode : session.args.mode = .pair) :
    ((pair s st).1 = .ok true ∨ ∃ e, (pair s st).1 = .error e) ∧
      ((pair s st).1 = .ok true ↔ commandFails session.args s = false) ∧
      Kept session (pair s st).2 := by
  unfold pair commandFails
  rw [hmode]
  apply pairLoop_spec _ 0 _ h.pause
  intro step hstep
  simp only [pairSteps, List.mem_cons, List.not_mem_nil, or_false] at hstep
  rcases hstep with rfl | rfl | rfl | rfl
  · simp [buildPairSetmac]
  · decide
  · decide
  · decide

/-! ## Subscription -/

theorem subscribeLoop_spec (cs : List Characteristic) (n : ℕ) (h : Kept session st) :
    (subscribeLoop s n cs st).1 = !(decide (n + cs.length = 0) ||
        (List.range cs.length).any fun k => failed (s.startNotify (k + n))) ∧
      Kept session (subscribeLoop s n cs st).2 := by
  induction cs generalizing n st with
  | nil => exact ⟨by simp [subscribeLoop], h⟩
  | cons c cs ih =>
      have hshift : ∀ k, k + 1 + n = k + (n + 1) := fun k => by omega
      have hstart := h.startNotify (s := s) n
      rw [List.length_cons, any_range_succ]
      unfold subscribeLoop
      unfold Probe.startNotify at hstart ⊢
      cases hresult : failed (s.startNotify n) with
      | true => exact ⟨by simp [hresult], hstart⟩
      | false => simpa [hshift, hresult] using ih (n + 1) hstart

theorem subscribe_spec (h : Kept session st) :
    (subscribe s st).1 = !subscriptionFails session.args s ∧ Kept session (subscribe s st).2 := by
  unfold subscribe subscriptionFails
  rw [h.args]
  split
  · cases s.notifyServices with
    | error e => exact ⟨rfl, h⟩
    | ok tree =>
        have hloop := subscribeLoop_spec (s := s) (notifyCharacteristics tree) 0 h
        simpa using hloop
  · exact ⟨rfl, h.startNotify 0⟩

end kept

/-! ## Service discovery -/

/-- The two handles after some characteristics. -/
theorem foldl_matchCharacteristic (cs : List Characteristic) (session : Session)
    (hpos : ∀ c ∈ cs, 0 < c.handle) :
    let session' := cs.foldl matchCharacteristic session
    session'.args = session.args ∧ session'.reportCount = session.reportCount ∧
      truthy session'.inputReportHandle = (truthy session.inputReportHandle ||
        cs.any fun c => lower c.uuid = lower session.args.inputUuid) ∧
      truthy session'.cmdWriteHandle = (truthy session.cmdWriteHandle ||
        cs.any fun c => lower c.uuid ≠ lower session.args.inputUuid ∧
          lower c.uuid = lower session.args.cmdUuid) := by
  induction cs generalizing session with
  | nil => simp
  | cons c cs ih =>
      have hc := hpos c List.mem_cons_self
      have hrest := ih (matchCharacteristic session c) fun d hd =>
        hpos d (List.mem_cons_of_mem _ hd)
      have htrue : truthy (some c.handle) = true := by
        unfold truthy
        exact decide_eq_true (Nat.pos_iff_ne_zero.mp hc)
      rw [List.foldl_cons]
      by_cases hinput : lower c.uuid = lower session.args.inputUuid
      · have hm : matchCharacteristic session c =
            { session with inputReportHandle := some c.handle } := if_pos hinput
        rw [hm] at hrest ⊢
        simpa [hinput, htrue] using hrest
      · by_cases hcmd : lower c.uuid = lower session.args.cmdUuid
        · have hm : matchCharacteristic session c =
              { session with cmdWriteHandle := some c.handle } := by
            unfold matchCharacteristic
            rw [if_neg hinput, if_pos hcmd]
          rw [hm] at hrest ⊢
          obtain ⟨hargs, hcount, hin, hout⟩ := hrest
          refine ⟨hargs, hcount, ?_, ?_⟩
          · rw [hin, List.any_cons, decide_eq_false hinput, Bool.false_or]
          · rw [hout, htrue, List.any_cons, decide_eq_true ⟨hinput, hcmd⟩]
            simp
        · have hm : matchCharacteristic session c = session := by
            unfold matchCharacteristic
            rw [if_neg hinput, if_neg hcmd]
          rw [hm] at hrest ⊢
          simpa [hinput, hcmd] using hrest

theorem accessServices_ok (k attempt : ℕ) : accessServices s k attempt = [] ∨
    ∃ n, s.services n = .ok (accessServices s k attempt) := by
  induction k generalizing attempt with
  | zero => exact .inl rfl
  | succ k ih =>
      unfold accessServices
      split
      case h_1 hservices => exact .inr ⟨attempt, hservices⟩
      case h_2 => exact ih (attempt + 1)

/-- The discovery succeeds iff nothing is missing, and the two UUIDs differ. -/
theorem discoverCharacteristics_spec (session : Session) :
    let r := discoverCharacteristics s session
    r.2.args = session.args ∧ r.2.reportCount = session.reportCount ∧
      (r.1 = true ↔ missing session.args s = false ∧ (session.args.mode = .none ∨
        lower session.args.cmdUuid ≠ lower session.args.inputUuid)) ∧
      (r.1 = true → session.args.mode = .none ∨ truthy r.2.cmdWriteHandle = true) := by
  unfold discoverCharacteristics missing hasUuid discovered
  rcases haccess : accessServices s session.args.gattRetries.toNat 1 with _ | ⟨service, services⟩
  · simp
  · have hpos : ∀ c ∈ (service :: services).flatMap (·.characteristics), 0 < c.handle := by
      have hok := accessServices_ok (s := s) session.args.gattRetries.toNat 1
      rw [haccess] at hok
      obtain ⟨n, hn⟩ := hok.resolve_left (List.cons_ne_nil _ _)
      intro c hc
      obtain ⟨service', hservice, hmem⟩ := List.mem_flatMap.mp hc
      exact s.handle_pos n _ hn service' hservice c hmem
    obtain ⟨hargs, hcount, hinput, hcmd⟩ := foldl_matchCharacteristic
      ((service :: services).flatMap (·.characteristics))
      { session with cmdWriteHandle := none, inputReportHandle := none } hpos
    dsimp only at hargs hcount hinput hcmd ⊢
    generalize (service :: services).flatMap (·.characteristics) = cs at hargs hcount hinput hcmd ⊢
    generalize cs.foldl matchCharacteristic _ = session' at hargs hcount hinput hcmd ⊢
    have hnone : truthy none = false := rfl
    rw [hnone, Bool.false_or] at hinput hcmd
    rw [hargs, hinput]
    refine ⟨rfl, hcount, ?_, ?_⟩
    · by_cases hsame : lower session.args.cmdUuid = lower session.args.inputUuid
      · have hcmd' : truthy session'.cmdWriteHandle = false := by
          rw [hcmd, hsame, List.any_eq_false]
          intro c _
          simp
        rw [hcmd', hsame]
        by_cases hmode : session.args.mode = .none
        · simp [hmode]
        · simp [hmode]
      · have hcmd' : truthy session'.cmdWriteHandle =
            cs.any fun c => lower c.uuid = lower session.args.cmdUuid := by
          rw [hcmd]
          congr
          funext c
          by_cases hc : lower c.uuid = lower session.args.cmdUuid
          · simp [hc, hsame]
          · simp [hc]
        rw [hcmd']
        generalize (cs.any fun c => decide (lower c.uuid = lower session.args.cmdUuid)) = hasCmd
        generalize (cs.any fun c => decide (lower c.uuid = lower session.args.inputUuid)) = hasInput
        cases hasCmd <;> cases hasInput <;> simp [hsame]
    · intro hr
      by_cases hmode : session.args.mode = .none
      · exact .inl hmode
      · right
        by_contra hcmd'
        simp [hmode, hcmd'] at hr

/-! ## The run -/

section run

variable {session : Session} {st : State}

/-- The code of a wait says whether a report arrived. -/
theorem waitForReports_code (h : Kept session st) :
    (if 0 < (waitForReports s st).session.reportCount then 0 else 5) =
      if (waitForReports s st).arrived = [] then 5 else 0 := by
  rw [h.waitForReports.count]
  by_cases harrived : (waitForReports s st).arrived = []
  · rw [if_pos harrived, harrived]
    rfl
  · rw [if_neg harrived, if_pos (List.length_pos_iff.mpr harrived)]

/-- Without virtual gamepads the rest of the run succeeds iff it subscribes and a report arrives. -/
theorem finish_spec (h : Kept session st) (hx : session.args.xinput = false)
    (hu : session.args.uinput = false) {code : ℕ} {st' : State} (hr : finish s st = (code, st')) :
    code = if !session.args.notifyBeforeInit && subscriptionFails session.args s then 5
      else if st'.arrived = [] then 5 else 0 := by
  unfold finish at hr
  dsimp only at hr
  rw [h.args, hx, hu, Bool.false_and, Bool.false_and, if_neg Bool.false_ne_true,
    if_neg Bool.false_ne_true] at hr
  cases hbefore : session.args.notifyBeforeInit with
  | true =>
      rw [hbefore, if_pos rfl] at hr
      cases hr
      exact waitForReports_code h
  | false =>
      obtain ⟨hok, hkept⟩ := subscribe_spec (s := s) h
      rw [hbefore, if_neg Bool.false_ne_true] at hr
      rcases hsub : subscribe s st with ⟨_ | _, st₁⟩
      · rw [hsub] at hok hr
        cases hr
        have hfails : subscriptionFails session.args s = true := by simpa using hok
        rw [hfails]
        rfl
      · rw [hsub] at hok hkept hr
        cases hr
        have hfails : subscriptionFails session.args s = false := by simpa using hok
        rw [hfails, Bool.not_false, Bool.true_and, if_neg Bool.false_ne_true]
        exact waitForReports_code hkept

/-- The init raises or ends as its commands did. -/
theorem initController_spec (h : Kept session st)
    (hcmd : session.args.mode = .none ∨ truthy session.cmdWriteHandle = true) :
    ((initController s st).1 = .ok (!commandFails session.args s) ∧
        (session.args.mode = .pair → commandFails session.args s = false) ∨
      (∃ e, (initController s st).1 = .error e) ∧ session.args.mode = .pair ∧
        commandFails session.args s = true) ∧
    Kept session (initController s st).2 := by
  unfold initController
  rw [h.args]
  cases hmode : session.args.mode with
  | procon2 =>
      have hhandle := hcmd.resolve_left (by rw [hmode]; decide)
      obtain ⟨hok, hkept⟩ := procon2Init_spec (s := s) h hhandle hmode
      exact ⟨.inl ⟨congrArg Except.ok hok, nofun⟩, hkept⟩
  | pair =>
      obtain ⟨hend, hok, hkept⟩ := pair_spec (s := s) h hmode
      refine ⟨?_, hkept⟩
      rcases hend with htrue | herror
      · have hfails := hok.mp htrue
        left
        rw [hfails]
        exact ⟨htrue, fun _ => rfl⟩
      · right
        refine ⟨herror, rfl, ?_⟩
        by_contra hfails
        obtain ⟨e, he⟩ := herror
        have htrue := hok.mpr (Bool.eq_false_of_not_eq_true hfails)
        rw [he] at htrue
        cases htrue
  | none =>
      have hfails : commandFails session.args s = false := by
        unfold commandFails
        rw [hmode]
      rw [hfails]
      exact ⟨.inl ⟨rfl, nofun⟩, h⟩

/-- The subscription before the init, if there is one. -/
theorem subscribeBefore_spec (h : Kept session st) :
    ∃ st', (if st.session.args.notifyBeforeInit then subscribe s st else (true, st)) =
        (!(session.args.notifyBeforeInit && subscriptionFails session.args s), st') ∧
      Kept session st' := by
  rw [h.args]
  cases session.args.notifyBeforeInit with
  | true =>
      obtain ⟨hok, hkept⟩ := subscribe_spec (s := s) h
      exact ⟨_, Prod.ext hok rfl, hkept⟩
  | false => exact ⟨st, rfl, h⟩

/-- After an init that succeeded, the code is the documented one. -/
theorem afterInit_spec (h : Kept session st) (hx : session.args.xinput = false)
    (hu : session.args.uinput = false)
    (hbefore : (session.args.notifyBeforeInit && subscriptionFails session.args s) = false)
    (hfails : commandFails session.args s = false) {r : Except PyErr ℕ} {st' : State}
    (hr : (if st.session.args.pairOnly then (.ok 0, st)
      else (.ok (finish s st).1, (finish s st).2)) = (r, st')) :
    r = .ok (documentedInitCode session.args s st'.arrived) := by
  unfold documentedInitCode
  rw [h.args] at hr
  rw [hbefore, hfails]
  by_cases hpairOnly : session.args.pairOnly = true
  · rw [if_pos hpairOnly] at hr
    cases hr
    rw [hpairOnly]
    rfl
  · rcases hfinish : finish s st with ⟨code, st₁⟩
    have hcode := finish_spec h hx hu hfinish
    rw [if_neg hpairOnly, hfinish] at hr
    cases hr
    rw [hcode]
    cases hsub : subscriptionFails session.args s with
    | false => simp [hpairOnly]
    | true =>
        rw [hsub, Bool.and_true] at hbefore
        simp [hpairOnly, hbefore]

/-- From the subscription on the code is the documented one, unless a pair command raises. -/
theorem runInit_spec (h : Kept session st) (hx : session.args.xinput = false)
    (hu : session.args.uinput = false)
    (hcmd : session.args.mode = .none ∨ truthy session.cmdWriteHandle = true)
    {r : Except PyErr ℕ} {st' : State} (hr : runInit s st = (r, st')) :
    (r = .ok (documentedInitCode session.args s st'.arrived) ∧
        ¬ ((session.args.notifyBeforeInit && subscriptionFails session.args s) = false ∧
          session.args.mode = .pair ∧ commandFails session.args s = true)) ∨
      (∃ e, r = .error e) ∧
        (session.args.notifyBeforeInit && subscriptionFails session.args s) = false ∧
          session.args.mode = .pair ∧ commandFails session.args s = true := by
  unfold runInit at hr
  obtain ⟨st₁, hsub, hkept⟩ := subscribeBefore_spec (s := s) h
  rw [hsub] at hr
  by_cases hbefore : (session.args.notifyBeforeInit && subscriptionFails session.args s) = true
  · rw [hbefore] at hr
    cases hr
    left
    refine ⟨?_, fun hpair => absurd (hbefore.symm.trans hpair.1) (by decide)⟩
    unfold documentedInitCode
    rw [if_pos hbefore]
  · rw [Bool.not_eq_true] at hbefore
    obtain ⟨hinit, hkept'⟩ := initController_spec (s := s) hkept hcmd
    rw [hbefore, Bool.not_false] at hr
    dsimp only at hr
    rcases hi : initController s st₁ with ⟨e | ok, st₂⟩
    · rw [hi] at hr hinit hkept'
      cases hr
      rcases hinit with ⟨hok, _⟩ | ⟨_, hpair⟩
      · cases hok
      · exact .inr ⟨⟨e, rfl⟩, hbefore, hpair⟩
    · rw [hi] at hr hinit hkept'
      rcases hinit with ⟨hok, hpair⟩ | ⟨⟨e, he⟩, _⟩
      · left
        refine ⟨?_, fun hp => absurd ((hpair hp.2.1).symm.trans hp.2.2) Bool.false_ne_true⟩
        cases hok
        cases hfails : commandFails session.args s with
        | true =>
            rw [hfails] at hr
            cases hr
            unfold documentedInitCode
            rw [hbefore, hfails]
            rfl
        | false =>
            rw [hfails] at hr
            exact afterInit_spec hkept' hx hu hbefore hfails hr
      · cases he

/-- A run ends with the documented code, or in one of the two ways out. -/
theorem run_spec {args : Args} (hargs : st.session.args = args)
    (hcount : st.session.reportCount = st.arrived.length) (hx : args.xinput = false)
    (hu : args.uinput = false) {r : Except PyErr ℕ} {st' : State} (hr : run s st = (r, st')) :
    (r = .ok (documentedExitCode args s st'.arrived) ∧ ¬ PairRaises args s ∧ ¬ SameUuid args s) ∨
      (r = .ok 3 ∧ SameUuid args s) ∨ ((∃ e, r = .error e) ∧ PairRaises args s) := by
  subst hargs
  have hscan := scan_isSome (s := s) st.session.args
  have hconnect := connectWithRetries_eq (s := s) st.session.args.connectRetries.toNat 1
  unfold run at hr
  unfold documentedExitCode PairRaises SameUuid ReachesInit
  rcases hdevice : scan st.session.args s with _ | device
  · rw [hdevice] at hr hscan
    cases hr
    have hfound : found st.session.args s = false := hscan.symm
    rw [hfound]
    exact .inl ⟨rfl, fun h => Bool.false_ne_true h.1.1, fun h => Bool.false_ne_true h.1⟩
  · rw [hdevice] at hr hscan
    have hfound : found st.session.args s = true := hscan.symm
    rw [hfound]
    dsimp only at hr
    have hconnected : connected st.session.args s =
        connectWithRetries s st.session.args.connectRetries.toNat 1 := hconnect.symm
    rw [hconnected]
    cases hok : connectWithRetries s st.session.args.connectRetries.toNat 1 with
    | false =>
        rw [hok] at hr
        cases hr
        exact .inl ⟨rfl, fun h => Bool.false_ne_true h.1.2.1, fun h => Bool.false_ne_true h.2.1⟩
    | true =>
        rw [hok, if_pos rfl] at hr
        obtain ⟨hargs, hreports, hdone, hcmd⟩ :=
          discoverCharacteristics_spec (s := s) { st.session with device := some device }
        rcases hdisc : discoverCharacteristics s { st.session with device := some device } with
          ⟨_ | _, session⟩
        · rw [hdisc] at hr hdone
          cases hr
          dsimp only at hdone
          cases hmissing : missing st.session.args s with
          | true => exact .inl ⟨rfl, fun h => Bool.false_ne_true h.1.2.2.1.symm,
              fun h => Bool.false_ne_true h.2.2.1.symm⟩
          | false =>
              -- nothing is missing, and still the discovery failed
              refine .inr (.inl ⟨rfl, rfl, rfl, rfl, ?_⟩)
              by_contra hdiffer
              apply Bool.false_ne_true
              apply hdone.mpr
              refine ⟨hmissing, ?_⟩
              by_contra hboth
              rw [not_or, not_not] at hboth
              exact hdiffer hboth
        · rw [hdisc] at hr hargs hdone hcmd hreports
          obtain ⟨hmissing, hdiffer⟩ := hdone.mp rfl
          dsimp only at hargs hcmd hreports hmissing hr
          have hkept : Kept session { st with session := session } :=
            ⟨rfl, rfl, hreports.trans hcount⟩
          rw [← hargs] at hx hu
          have hspec := runInit_spec hkept hx hu (by rw [hargs]; exact hcmd rfl) hr
          rw [hargs] at hspec
          rw [hmissing]
          rcases hspec with ⟨hok, hpair⟩ | ⟨herror, hpair⟩
          · left
            exact ⟨hok, fun h => hpair ⟨h.1.2.2.2, h.2⟩,
              fun h => hdiffer.elim h.2.2.2.1 fun hne => hne h.2.2.2.2⟩
          · right
            right
            exact ⟨herror, ⟨rfl, rfl, rfl, hpair.1⟩, hpair.2⟩

/-- The codes of the steps after the discovery. -/
theorem documentedInitCode_cases (args : Args) (s : Script) (reports : List Notification) :
    documentedInitCode args s reports = 0 ∨ documentedInitCode args s reports = 4 ∨
      documentedInitCode args s reports = 5 := by
  unfold documentedInitCode
  split_ifs <;> simp

/-- Past the discovery the documented code is one of these. -/
theorem documentedExitCode_cases {args : Args} {s : Script} (hfound : found args s = true)
    (hconnected : connected args s = true) (hmissing : missing args s = false)
    (reports : List Notification) :
    documentedExitCode args s reports = 0 ∨ documentedExitCode args s reports = 4 ∨
      documentedExitCode args s reports = 5 := by
  unfold documentedExitCode
  rw [hfound, hconnected, hmissing]
  exact documentedInitCode_cases args s reports

/-- **The exit code is the documented one**, unless a pair command fails in both write modes, or
both characteristics have one UUID. -/
theorem exitCode_documented_iff (args : Args) (s : Script) (hx : args.xinput = false)
    (hu : args.uinput = false) :
    (main args s).1 = documentedExitCode (applyAliases args) s (main args s).2.arrived ↔
      ¬ PairRaises (applyAliases args) s ∧ ¬ SameUuid (applyAliases args) s := by
  have hx' : (applyAliases args).xinput = false := by
    unfold applyAliases
    dsimp only
    split_ifs <;> exact hx
  have hu' : (applyAliases args).uinput = false := by
    unfold applyAliases
    dsimp only
    split_ifs <;> exact hu
  unfold main
  generalize applyAliases args = a at hx' hu'
  rcases hr : run s (State.new a) with ⟨r, st⟩
  have hargs : (State.new a).session.args = a := rfl
  rcases run_spec hargs rfl hx' hu' hr with
    ⟨hok, hpair, hsame⟩ | ⟨hok, hsame⟩ | ⟨⟨e, he⟩, hpair⟩
  · subst hok
    exact iff_of_true rfl ⟨hpair, hsame⟩
  · subst hok
    apply iff_of_false _ fun h => h.2 hsame
    intro hcode
    have hcases := documentedExitCode_cases hsame.1 hsame.2.1 hsame.2.2.1 st.arrived
    rw [← hcode] at hcases
    dsimp only at hcases
    omega
  · subst he
    apply iff_of_false _ fun h => h.1 hpair
    intro hcode
    have hcases := documentedExitCode_cases hpair.1.1 hpair.1.2.1 hpair.1.2.2.1 st.arrived
    rw [← hcode] at hcases
    dsimp only at hcases
    omega

end run

/-- A controller that does all it is asked for and sends one report; its writes are a parameter. -/
def pressing (write : ℕ → Bool → Except PyErr Unit) : Script where
  adverts := [⟨⟨"E0:EF:BF:3B:C6:76"⟩, none,
    ⟨[(0x0553, [1, 0, 3, 0x7e, 5, 0x69, 0x20, 0, 0, 0, 0, 0, 0, 0, 0, 0])]⟩⟩]
  connect _ := .ok ()
  services _ := .ok [⟨[⟨inputReportUuid, 10, ["notify"]⟩, ⟨commandWriteUuid, 18, ["write"]⟩]⟩]
  handle_pos := by
    intro _ tree htree
    cases htree
    simp
  hcitool := none
  backendAddress := none
  write := write
  notifyServices := .ok []
  startNotify _ := .ok ()
  notifications n := if n = 0 then [⟨some 10, [], 0, 0⟩] else []
  expired _ := false
  startXinput := false
  startUinput := false

theorem exitCode_documented_default :
    (main defaultArgs (pressing fun _ _ => .ok ())).1 =
      documentedExitCode (applyAliases defaultArgs) (pressing fun _ _ => .ok ())
        (main defaultArgs (pressing fun _ _ => .ok ())).2.arrived := by
  apply (exitCode_documented_iff defaultArgs (pressing fun _ _ => .ok ()) rfl rfl).mpr
  constructor
  · rintro ⟨_, hmode, _⟩
    exact absurd hmode (by decide)
  · unfold SameUuid
    decide +kernel

/-- A pair command whose two writes fail ends the run with 99. -/
theorem not_exitCode_documented_pair :
    ¬ ∀ (args : Args) (s : Script), args.xinput = false → args.uinput = false →
      (main args s).1 = documentedExitCode (applyAliases args) s (main args s).2.arrived := by
  intro hclaim
  have hcode := hclaim { defaultArgs with mode := .pair } (pressing fun _ _ => .error .bleakError)
    rfl rfl
  exact absurd hcode (by decide +kernel)

end Switch2Bt.Probe
