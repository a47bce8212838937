import Switch2Bt.Bridge.Stack

/-!
# The characteristics of the bridge

A result says nothing of the UUID it was found by, and the bridge takes the first one for the
input report and the second one for the command write. They are what they are taken for in every
run in which each result that fills an empty slot is one of the query for that slot
(`characteristics_of_own`). A controller with two input reports is enough for the second one to
become the command write (`not_characteristics_twoMatches`).
-/

namespace Switch2Bt.Bridge

open Await Octets GattClient

/-! ## Statement -/

/-- A query for a UUID returned the characteristic on a connection. -/
def Returned (pre : List Obs) (i : ℕ) (uuid : Octets) (c : Characteristic) : Prop :=
  .result i uuid c ∈ pre ∧ c.uuid128 = uuid

/-- What `STATE_PAIRING` is entered with, and what commands are written to and reports expected
from, was returned on the connection by a query for its UUID. -/
def UsedAt (pre : List Obs) : Obs → Prop
  | .entered input cmd link => ∃ i ∈ link,
      Returned pre i uuidInputReport input ∧ Returned pre i uuidCommandWrite cmd
  | .called (.writeValue _ valueHandle _) link _ => ∃ i ∈ link, ∃ c,
      Returned pre i uuidCommandWrite c ∧ c.valueHandle = valueHandle
  | .called (.writeConfiguration _ c) link _ | .called (.listenForUpdates _ c) link _ =>
      ∃ i ∈ link, Returned pre i uuidInputReport c
  | _ => True

/-- A result that fills an empty slot while the bridge discovers characteristics is one of the
query for that slot, on the connection in `conn_handle`. -/
def OwnResult (w : World) : Event → Prop
  | .result handle c => w.vars.appState = .charDiscovering → ¬ w.vars.Found →
      handle = w.vars.connHandle ∧ c.uuid128 =
        if w.vars.inputReportChar.valueHandle = 0 then uuidInputReport else uuidCommandWrite
  | _ => True

/-! ## The invariant -/

/-- A state from `STATE_PAIRING` on. -/
def AppState.Late (s : AppState) : Prop := s = .pairing ∨ s = .notifying ∨ s = .ready

/-- The characteristic was returned on the connection in `conn_handle`. -/
def World.Has (w : World) (uuid : Octets) (c : Characteristic) : Prop :=
  ∃ i, w.stack.number w.vars.connHandle = some i ∧ Returned w.trace i uuid c

/-- What is in the slots was returned by their queries. -/
structure World.Filled (w : World) : Prop where
  input : w.vars.inputReportChar.valueHandle ≠ 0 → w.Has uuidInputReport w.vars.inputReportChar
  cmd : w.vars.cmdWriteChar.valueHandle ≠ 0 → w.Has uuidCommandWrite w.vars.cmdWriteChar

/-- What a state asks of the slots: from the discovery on they are filled right, and from
`STATE_PAIRING` on they are filled. -/
structure World.Slots (w : World) : Prop where
  filled : w.vars.appState = .charDiscovering ∨ w.vars.appState.Late → w.Filled
  found : w.vars.appState.Late → w.vars.Found

/-- What holds between two events. -/
structure CharInv (w : World) : Prop where
  used : Everywhere UsedAt w.trace
  slots : w.Slots

/-- A call uses the characteristics only from `STATE_PAIRING` on, each for its purpose. -/
def Call.Uses (b : Globals) : Call → Prop
  | .writeValue handle valueHandle _ =>
      b.appState.Late ∧ handle = b.connHandle ∧ valueHandle = b.cmdWriteChar.valueHandle
  | .writeConfiguration handle c | .listenForUpdates handle c =>
      b.appState.Late ∧ handle = b.connHandle ∧ c = b.inputReportChar
  | _ => True

/-! ## Observations -/

theorem World.Has.mono {w w' : World} {uuid : Octets} {c : Characteristic} (h : w.Has uuid c)
    (hhandle : w'.vars.connHandle = w.vars.connHandle) (hnum : w.stack.SameNumbers w'.stack)
    (htrace : w.trace ⊆ w'.trace) : w'.Has uuid c := by
  obtain ⟨i, hi, hresult, huuid⟩ := h
  refine ⟨i, ?_, htrace hresult, huuid⟩
  rw [hhandle, hnum.2]
  exact hi

/-- Connections and observations that come later change nothing for the slots. -/
theorem World.Slots.mono {w w' : World} (h : w.Slots) (hbridge : w'.vars = w.vars)
    (hnum : w.stack.SameNumbers w'.stack) (htrace : w.trace ⊆ w'.trace) : w'.Slots := by
  constructor
  · rw [hbridge]
    intro hstate
    constructor
    · rw [hbridge]
      exact fun hne => ((h.filled hstate).input hne).mono (by rw [hbridge]) hnum htrace
    · rw [hbridge]
      exact fun hne => ((h.filled hstate).cmd hne).mono (by rw [hbridge]) hnum htrace
  · rw [hbridge]
    exact h.found

theorem CharInv.emit {w : World} {o : Obs} (h : CharInv w) (ho : UsedAt w.trace o) :
    CharInv (w.emit o) := by
  constructor
  · exact everywhere_snoc.mpr ⟨h.used, ho⟩
  · exact h.slots.mono rfl ⟨rfl, fun _ => rfl⟩ (List.subset_append_left ..)

/-- The connection in `conn_handle` has what the slots were filled with. -/
theorem World.Slots.late {w : World} (h : w.Slots) (hlate : w.vars.appState.Late) :
    ∃ i ∈ w.stack.number w.vars.connHandle,
      Returned w.trace i uuidInputReport w.vars.inputReportChar ∧
        Returned w.trace i uuidCommandWrite w.vars.cmdWriteChar := by
  have hfilled := h.filled (.inr hlate)
  have hfound := h.found hlate
  obtain ⟨i, hi, hinput⟩ := hfilled.input hfound.1
  obtain ⟨j, hj, hcmd⟩ := hfilled.cmd hfound.2
  have hij : i = j := Option.some.inj (hi.symm.trans hj)
  subst hij
  exact ⟨i, hi, hinput, hcmd⟩

/-- A call uses what the slots were filled with. -/
theorem usedAt_called {w : World} {c : Call} (h : w.Slots) (hc : c.Uses w.vars)
    (accepted : Bool) :
    UsedAt w.trace (.called c (c.handle.bind w.stack.number) accepted) := by
  cases c with
  | writeValue handle valueHandle payload =>
      obtain ⟨hlate, hhandle, hvalue⟩ := hc
      obtain ⟨i, hi, _, hcmd⟩ := h.late hlate
      rw [hhandle, hvalue]
      exact ⟨i, hi, _, hcmd, rfl⟩
  | writeConfiguration handle c =>
      obtain ⟨hlate, hhandle, hchar⟩ := hc
      obtain ⟨i, hi, hinput, _⟩ := h.late hlate
      rw [hhandle, hchar]
      exact ⟨i, hi, hinput⟩
  | listenForUpdates handle c =>
      obtain ⟨hlate, hhandle, hchar⟩ := hc
      obtain ⟨i, hi, hinput, _⟩ := h.late hlate
      rw [hhandle, hchar]
      exact ⟨i, hi, hinput⟩
  | _ => trivial

theorem CharInv.perform {w : World} {c : Call} (h : CharInv w) (hc : c.Uses w.vars) :
    CharInv (w.perform c) := by
  obtain ⟨hbridge, accepted, htrace⟩ := Machine.perform_obs w c
  constructor
  · rw [htrace]
    exact everywhere_snoc.mpr ⟨h.used, usedAt_called h.slots hc accepted⟩
  · apply h.slots.mono hbridge (Machine.perform_sameNumbers w c)
    rw [htrace]
    exact List.subset_append_left ..

/-- A handler that leaves the slots right, and whose calls use them right. -/
theorem CharInv.deliver {w : World} {r : Globals × List Call} (hused : Everywhere UsedAt w.trace)
    (hslots : World.Slots { w with vars := r.1 }) (hcalls : ∀ c ∈ r.2, c.Uses r.1) :
    CharInv (w.deliver r) := by
  have hstart : CharInv { w with vars := r.1 } := ⟨hused, hslots⟩
  have hassign : CharInv (w.assign r.1) := by
    by_cases hentered : r.1.appState = .pairing ∧ w.vars.appState ≠ .pairing
    · rw [assign_entered hentered]
      exact hstart.emit (hslots.late (.inl hentered.1))
    · rw [Machine.assign_of_none (if_neg hentered)]
      exact hstart
  have hboth := Machine.deliver_rule (P := fun v => CharInv v ∧ v.vars = r.1)
    ⟨hassign, w.assign_vars r.1⟩ fun c hc v hv =>
      ⟨hv.1.perform (hv.2 ▸ hcalls c hc), (v.perform_obs c).1.trans hv.2⟩
  exact hboth.1

/-! ## Handlers -/

/-- A state in which nothing is asked of the slots. -/
theorem slots_of_idle {w : World} (hstate : w.vars.appState ≠ .charDiscovering)
    (hlate : ¬ w.vars.appState.Late) : w.Slots := by
  constructor
  · intro h
    rcases h with h | h
    · exact absurd h hstate
    · exact absurd h hlate
  · intro h
    exact absurd h hlate

/-- A handler that moves to a state before the discovery. -/
theorem CharInv.idle {w : World} {r : Globals × List Call} (hused : Everywhere UsedAt w.trace)
    (hstate : r.1.appState = .scanning ∨ r.1.appState = .connecting ∨ r.1.appState = .connected ∨
      r.1.appState = .waitEncryption) (hcalls : ∀ c ∈ r.2, c.Uses r.1) : CharInv (w.deliver r) := by
  apply CharInv.deliver hused _ hcalls
  apply slots_of_idle
  · rcases hstate with h | h | h | h <;> rw [h] <;> decide
  · unfold AppState.Late
    rcases hstate with h | h | h | h <;> rw [h] <;> decide

/-- A handler that does not touch the bridge. -/
theorem CharInv.same {w : World} {calls : List Call} (h : CharInv w)
    (hcalls : ∀ c ∈ calls, c.Uses w.vars) : CharInv (w.deliver (w.vars, calls)) :=
  CharInv.deliver h.used h.slots hcalls

theorem CharInv.startDiscovery {w : World} (h : CharInv w) :
    CharInv (w.deliver (startDiscovery w.vars)) := by
  unfold Bridge.startDiscovery
  split
  · apply CharInv.deliver h.used
    · constructor
      · intro _
        exact ⟨fun hne => absurd rfl hne, fun hne => absurd rfl hne⟩
      · intro hlate
        rcases hlate with h | h | h <;> cases h
    · simp [Call.Uses]
  · exact h.same fun c hc => absurd hc List.not_mem_nil

/-- A slot takes the result of its query. -/
theorem storeCharacteristic_slots {w : World} {id : ℕ} {handle : UInt16} {c : Characteristic}
    (h : CharInv w) (hid : w.stack.number handle = some id) (hC : OwnResult w (.result handle c))
    (hresult : Returned w.trace id c.uuid128 c) :
    World.Slots { w with vars := storeCharacteristic c w.vars } := by
  -- a full pair of slots takes nothing; the states of an empty one are before the pairing
  by_cases hfound : w.vars.Found
  · have hsame : storeCharacteristic c w.vars = w.vars := by
      unfold storeCharacteristic
      rw [if_neg hfound.1, if_neg hfound.2]
    rw [hsame]
    exact h.slots
  · have hnotLate : ¬ w.vars.appState.Late := fun hlate => hfound (h.slots.found hlate)
    unfold storeCharacteristic
    split
    case isTrue hinput =>
      constructor
      · intro hstate
        have hdisc := hstate.resolve_right hnotLate
        obtain ⟨hown, huuid⟩ := hC hdisc hfound
        rw [if_pos hinput] at huuid
        rw [hown] at hid
        constructor
        · exact fun _ => ⟨id, hid, huuid ▸ hresult⟩
        · exact fun hne => (h.slots.filled (.inl hdisc)).cmd hne
      · exact fun hlate => absurd hlate hnotLate
    case isFalse hinput =>
      split
      case isTrue hcmd =>
        constructor
        · intro hstate
          have hdisc := hstate.resolve_right hnotLate
          obtain ⟨hown, huuid⟩ := hC hdisc hfound
          rw [if_neg hinput] at huuid
          rw [hown] at hid
          constructor
          · exact fun hne => (h.slots.filled (.inl hdisc)).input hne
          · exact fun _ => ⟨id, hid, huuid ▸ hresult⟩
        · exact fun hlate => absurd hlate hnotLate
      case isFalse hcmd => exact absurd ⟨hinput, hcmd⟩ hfound

/-- The slots of a state with the same characteristics and connection. -/
theorem World.Filled.sameSlots {w : World} {b : Globals} (h : w.Filled)
    (hinput : b.inputReportChar = w.vars.inputReportChar)
    (hcmd : b.cmdWriteChar = w.vars.cmdWriteChar) (hhandle : b.connHandle = w.vars.connHandle) :
    World.Filled { w with vars := b } := by
  constructor
  · change b.inputReportChar.valueHandle ≠ 0 → _
    unfold World.Has
    dsimp only
    rw [hinput, hhandle]
    exact h.input
  · change b.cmdWriteChar.valueHandle ≠ 0 → _
    unfold World.Has
    dsimp only
    rw [hcmd, hhandle]
    exact h.cmd

/-- A handler that moves on to a late state, with both characteristics found. -/
theorem CharInv.advance {w : World} {b : Globals} {calls : List Call} (h : CharInv w)
    (hstate : w.vars.appState = .charDiscovering ∨ w.vars.appState.Late)
    (hfound : w.vars.Found) (hinput : b.inputReportChar = w.vars.inputReportChar)
    (hcmd : b.cmdWriteChar = w.vars.cmdWriteChar) (hhandle : b.connHandle = w.vars.connHandle)
    (hcalls : ∀ c ∈ calls, c.Uses b) : CharInv (w.deliver (b, calls)) := by
  apply CharInv.deliver h.used _ hcalls
  constructor
  · exact fun _ => (h.slots.filled hstate).sameSlots hinput hcmd hhandle
  · intro _
    unfold Globals.Found
    rw [hinput, hcmd]
    exact hfound

theorem writePairStep_uses {b : Globals} (h : b.appState = .pairing) :
    ∀ c ∈ writePairStep b, c.Uses b := by
  unfold writePairStep
  split
  · intro c hc
    rw [List.mem_singleton.mp hc]
    exact ⟨.inl h, rfl, rfl⟩
  · exact fun c hc => absurd hc List.not_mem_nil

theorem CharInv.queryComplete {w : World} (h : CharInv w) (att : UInt8) :
    CharInv (w.deliver (queryComplete att w.vars)) := by
  unfold Bridge.queryComplete
  split
  · exact h.same (by simp [Call.Uses])
  · split
    case h_1 hstate =>
      split
      · exact h.same (by simp [Call.Uses])
      case isFalse hinput =>
        split
        · exact h.same (by simp [Call.Uses])
        case isFalse hcmd =>
          apply h.advance (.inl hstate) ⟨hinput, hcmd⟩
          · rfl
          · rfl
          · rfl
          · exact writePairStep_uses rfl
    case h_2 hstate =>
      have hfound := h.slots.found (.inl hstate)
      dsimp only
      split
      · apply h.advance (.inr (.inl hstate)) hfound
        · rfl
        · rfl
        · rfl
        · exact writePairStep_uses hstate
      · apply h.advance (.inr (.inl hstate)) hfound
        · rfl
        · rfl
        · rfl
        · intro c hc
          rw [List.mem_singleton.mp hc]
          exact ⟨.inr (.inl rfl), rfl, rfl⟩
    case h_3 hstate =>
      have hlate : w.vars.appState.Late := .inr (.inl hstate)
      apply h.advance (.inr hlate) (h.slots.found hlate)
      · rfl
      · rfl
      · rfl
      · intro c hc
        rw [List.mem_singleton.mp hc]
        exact ⟨.inr (.inr rfl), rfl, rfl⟩
    case h_4 => exact h.same fun c hc => absurd hc List.not_mem_nil

/-! ## The steps -/

/-- A step keeps the invariant. -/
theorem step_charInv {w w' : World} {e : Event} (h : CharInv w) (hC : OwnResult w e)
    (hstep : w.step e = some w') : CharInv w' := by
  cases e with
  | state working =>
      cases hstep
      cases working with
      | false => exact h.same fun c hc => absurd hc List.not_mem_nil
      | true =>
          apply CharInv.idle h.used (.inl rfl)
          unfold packetHandler
          simp [Call.Uses]
  | advertising addr addrType data =>
      cases hstep
      unfold packetHandler
      dsimp only
      split
      · exact CharInv.idle h.used (.inr (.inl rfl)) (by simp [Call.Uses])
      · exact h.same fun c hc => absurd hc List.not_mem_nil
  | connection status handle =>
      rcases step_connection hstep with ⟨hstatus, rfl⟩ | ⟨hstatus, -, rfl⟩
      · unfold packetHandler
        dsimp only
        rw [if_pos hstatus]
        exact CharInv.idle h.used (.inl rfl) (by simp [Call.Uses])
      · unfold packetHandler
        dsimp only
        rw [if_neg (not_not.mpr hstatus)]
        have hused : Everywhere UsedAt (w.openLink handle).trace :=
          everywhere_snoc.mpr ⟨h.used, trivial⟩
        exact CharInv.idle hused (.inr (.inr (.inl rfl))) (by simp [Call.Uses])
  | disconnection handle =>
      obtain ⟨link, -, rfl⟩ := step_disconnection hstep
      have hused : Everywhere UsedAt
          ((w.setLink handle none).emit (.disconnected link.id)).trace :=
        everywhere_snoc.mpr ⟨h.used, trivial⟩
      apply CharInv.idle hused (.inl rfl)
      unfold packetHandler
      simp [Call.Uses]
  | encryption status =>
      cases hstep
      exact h.startDiscovery
  | numericComparison handle =>
      cases hstep
      exact h.same (by simp [Call.Uses])
  | justWorks handle =>
      cases hstep
      exact CharInv.idle h.used (.inr (.inr (.inr rfl))) (by simp [smPacketHandler, Call.Uses])
  | pairing status =>
      cases hstep
      exact h.startDiscovery
  | result handle c =>
      obtain ⟨id, hlink, rfl⟩ := step_result hstep
      have hemit : CharInv (w.emit (.result id c.uuid128 c)) := h.emit trivial
      apply CharInv.deliver hemit.used _ fun c hc => absurd hc List.not_mem_nil
      apply storeCharacteristic_slots hemit (congrArg (Option.map Link.id) hlink) hC
      exact ⟨List.mem_append_right _ (List.mem_singleton_self _), rfl⟩
  | complete handle att =>
      obtain ⟨id, op, hlink, rfl⟩ := step_complete hstep
      have hdone : CharInv (w.completed handle id op att) := by
        constructor
        · exact everywhere_snoc.mpr ⟨h.used, trivial⟩
        · exact h.slots.mono rfl (Stack.setLink_sameNumbers none hlink) (List.subset_append_left ..)
      exact hdone.queryComplete att

/-- `STATE_PAIRING` is entered, commands are written and reports expected with the characteristics
that queries for their UUIDs returned on the connection, in every run in which each result that
fills an empty slot is one of the query for that slot. -/
theorem characteristics_of_own {w : World} (h : Run OwnResult w) : Everywhere UsedAt w.trace := by
  have hinv : CharInv w := by
    induction h with
    | init =>
        constructor
        · exact everywhere_nil
        · apply slots_of_idle
          · decide
          · unfold AppState.Late
            decide
    | step _ hC hstep ih => exact step_charInv ih hC hstep
  exact hinv.used

/-! ## Runs -/

instance (w : World) (e : Event) : Decidable (OwnResult w e) := by
  unfold OwnResult
  split
  · infer_instance
  · infer_instance

theorem characteristics_oneConnection :
    ∃ w, Run OwnResult w ∧ w.vars.appState = .ready ∧ Everywhere UsedAt w.trace := by
  have hready : (through World.step OwnResult oneConnection .init).map (·.vars.appState) =
      some .ready := by decide +kernel
  obtain ⟨w, hw, hstate⟩ := Option.map_eq_some_iff.mp hready
  have hrun : Run OwnResult w := Reached.init.through hw
  exact ⟨w, hrun, hstate, characteristics_of_own hrun⟩

/-- The query for the input report finds two characteristics. -/
def twoMatches : List Event :=
  [.state true, .connection 0 0x40, .justWorks 0x40, .pairing 0, .result 0x40 inputReport,
    .result 0x40 (charOf 0x0011 uuidInputReport), .complete 0x40 0]

/-- `STATE_PAIRING` is entered with the second one as the command write. -/
theorem not_characteristics_twoMatches :
    ¬ ∀ w, Run (fun _ _ => True) w → Everywhere UsedAt w.trace := by
  intro h
  have hrun : (through World.step (fun _ _ => True) twoMatches .init).map (·.trace[10]?) =
      some (some (.entered inputReport (charOf 0x0011 uuidInputReport) (some 0))) := by
    decide +kernel
  obtain ⟨w, hw, htrace⟩ := Option.map_eq_some_iff.mp hrun
  obtain ⟨hlt, hentered⟩ := List.getElem?_eq_some_iff.mp htrace
  have hused := everywhere_getElem.mp (h w (Reached.init.through hw)) 10 hlt
  rw [hentered] at hused
  obtain ⟨i, _, _, _, huuid⟩ := hused
  exact absurd huuid (by decide)

end Switch2Bt.Bridge
