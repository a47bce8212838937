import Switch2Bt.Bridge.Stack

/-!
# The pair sequence of the bridge

A completion says nothing of its operation but the connection, and the bridge does not look at
that. It counts every completion in `STATE_PAIRING` as that of the last pair command. The pair
sequence is written in order, and notifications are enabled only after it, in every run in which
no completion of another connection is taken for one of the connection in `conn_handle`
(`pairOrder_of_own`). With two connections, one of the commands can be left out
(`not_pairOrder_two`).
-/

namespace Switch2Bt.Bridge

open Await Octets GattClient

/-! ## Statement -/

/-- Whether an observation is the entry into `STATE_PAIRING`. -/
def Obs.isEntered : Obs → Bool
  | .entered .. => true
  | _ => false

/-- What is written to a connection with a subcommand, and what its operations end with. -/
inductive PairObs where
  | wrote (subId : UInt8) (accepted : Bool)
  | completed (att : UInt8)
deriving DecidableEq, Repr

/-- What an observation says about the exchange on a connection. -/
def Obs.pairing (i : ℕ) : Obs → Option PairObs
  | .called (.writeValue _ _ payload) link accepted =>
      if link = some i then some (.wrote (payload.octet 3) accepted) else none
  | .completed j _ att => if j = i then some (.completed att) else none
  | _ => none

/-- The exchange on a connection since `STATE_PAIRING` was entered. -/
def pairingOf (i : ℕ) (tr : List Obs) : List PairObs :=
  (since Obs.isEntered tr).filterMap (Obs.pairing i)

/-- The subcommands of the pair sequence. -/
def pairSubs : List UInt8 := [0x01, 0x04, 0x02, 0x03]

/-- The first `k` commands, each accepted and completed with success. -/
def exchanged (k : ℕ) : List PairObs :=
  (pairSubs.take k).flatMap fun s => [.wrote s true, .completed 0]

/-- The CCCD is written on a connection on which the pair sequence, and nothing else, was
exchanged. -/
def CccdAt (pre : List Obs) : Obs → Prop
  | .called (.writeConfiguration _ _) link _ => ∃ i ∈ link, pairingOf i pre = exchanged 4
  | _ => True

instance (pre : List Obs) (o : Obs) : Decidable (CccdAt pre o) := by
  unfold CccdAt
  split <;> infer_instance

/-- The pair sequence was exchanged on the connection in `conn_handle`. -/
def Paired (w : World) : Prop :=
  ∃ l, w.current = some l ∧ exchanged 4 <+: pairingOf l.id w.trace

/-- The CCCD is written, and the late states are entered, after the pair sequence. -/
structure PairOrder (w : World) : Prop where
  cccd : Everywhere CccdAt w.trace
  state : w.vars.appState = .notifying ∨ w.vars.appState = .ready → Paired w

/-- A completion with success of another connection than the one in `conn_handle` finds the bridge
outside `STATE_PAIRING`; and when it ends the discovery, the connection in `conn_handle` runs no
operation. -/
def OwnCompletion (w : World) : Event → Prop
  | .complete handle att => att = 0 → handle ≠ w.vars.connHandle →
      w.vars.appState ≠ .pairing ∧ (w.vars.appState = .charDiscovering → w.vars.Found →
        ∀ l ∈ w.current, l.op = none)
  | _ => True

/-! ## The exchange -/

theorem pairingOf_snoc {i : ℕ} {tr : List Obs} {o : Obs} (h : o.isEntered = false) :
    pairingOf i (tr ++ [o]) = pairingOf i tr ++ (o.pairing i).toList := by
  unfold pairingOf
  rw [since_snoc_of_not h, List.filterMap_append]
  cases ho : o.pairing i <;> simp [ho]

theorem pairingOf_entered {i : ℕ} {tr : List Obs} {o : Obs} (h : o.isEntered = true) :
    pairingOf i (tr ++ [o]) = [] := by
  unfold pairingOf
  rw [since_snoc_start h, List.filterMap_nil]

theorem exchanged_succ {k : ℕ} {s : UInt8} (h : pairSubs[k]? = some s) :
    exchanged (k + 1) = exchanged k ++ [.wrote s true, .completed 0] := by
  unfold exchanged
  rw [List.take_add_one, h]
  simp

/-- Each of the four steps writes its subcommand. -/
theorem pairPayload_sub {k : ℕ} (h : k < 4) :
    ∃ payload, pairPayload k = some payload ∧ pairSubs[k]? = some (payload.octet 3) := by
  match k, h with
  | 0, _ | 1, _ | 2, _ | 3, _ => exact ⟨_, rfl, rfl⟩

/-! ## The invariant -/

/-- The command of the current step runs, and all before it are done. -/
def Sending (w : World) : Prop :=
  ∃ l s, w.current = some l ∧ l.op ≠ none ∧ w.vars.pairStep < 4 ∧
    pairSubs[w.vars.pairStep]? = some s ∧
    pairingOf l.id w.trace = exchanged w.vars.pairStep ++ [.wrote s true]

/-- The connection in `conn_handle` runs nothing, so nothing of it will complete. -/
def Stalled (w : World) : Prop := ∀ l, w.current = some l → l.op = none

/-- What holds between two events. -/
structure PairInv (w : World) : Prop where
  cccd : Everywhere CccdAt w.trace
  pairing : w.vars.appState = .pairing → Sending w ∨ Stalled w
  late : w.vars.appState = .notifying ∨ w.vars.appState = .ready → Paired w

/-- A state in which nothing is asked of the pair sequence. -/
def AppState.Early (s : AppState) : Prop := s ≠ .pairing ∧ s ≠ .notifying ∧ s ≠ .ready

/-- Whether a call enables notifications. -/
def Call.isConfiguration : Call → Bool
  | .writeConfiguration .. => true
  | _ => false

theorem cccdAt_called {c : Call} (h : c.isConfiguration = false) (pre : List Obs)
    (link : Option ℕ) (accepted : Bool) : CccdAt pre (.called c link accepted) := by
  cases c with
  | writeConfiguration => cases h
  | _ => trivial

/-- A handler that moves to an early state. -/
theorem PairInv.early {w : World} {r : Globals × List Call} (h : Everywhere CccdAt w.trace)
    (hearly : r.1.appState.Early) (hcalls : ∀ c ∈ r.2, c.isConfiguration = false) :
    PairInv (w.deliver r) := by
  have htrace : Everywhere CccdAt (w.deliver r).trace := by
    apply Machine.deliver_rule (P := fun v => Everywhere CccdAt v.trace)
    · rw [Machine.assign_of_none (if_neg fun he => hearly.1 he.1)]
      exact h
    · intro c hc v hv
      obtain ⟨-, accepted, htrace⟩ := v.perform_obs c
      rw [htrace]
      exact everywhere_snoc.mpr ⟨hv, cccdAt_called (hcalls c hc) _ _ _⟩
  refine ⟨htrace, fun hp => ?_, fun hl => ?_⟩
  · rw [Machine.deliver_vars] at hp
    exact absurd hp hearly.1
  · rw [Machine.deliver_vars] at hl
    rcases hl with hl | hl
    · exact absurd hl hearly.2.1
    · exact absurd hl hearly.2.2

/-- An observation that is no part of the exchange. -/
theorem PairInv.emit {w : World} {o : Obs} (h : PairInv w) (ho : CccdAt w.trace o)
    (hent : o.isEntered = false) (hpair : ∀ i, o.pairing i = none) : PairInv (w.emit o) := by
  have heq : ∀ i, pairingOf i (w.emit o).trace = pairingOf i w.trace := by
    intro i
    rw [Machine.emit_trace, pairingOf_snoc hent, hpair, Option.toList_none, List.append_nil]
  refine ⟨everywhere_snoc.mpr ⟨h.cccd, ho⟩, fun hp => ?_, fun hl => ?_⟩
  · refine (h.pairing hp).imp (fun ⟨l, s, hcur, hop, hlt, hs, hex⟩ => ?_) fun hst => hst
    exact ⟨l, s, hcur, hop, hlt, hs, (heq l.id).trans hex⟩
  · obtain ⟨l, hcur, hex⟩ := h.late hl
    exact ⟨l, hcur, (heq l.id).symm ▸ hex⟩

/-- A handler that leaves the state as it is and starts no operation. -/
theorem PairInv.same {w : World} {r : Globals × List Call} (h : PairInv w)
    (hstate : r.1.appState = w.vars.appState) (hhandle : r.1.connHandle = w.vars.connHandle)
    (hstep : r.1.pairStep = w.vars.pairStep) (hcalls : ∀ c ∈ r.2, c.op = none) :
    PairInv (w.deliver r) := by
  have hstart : PairInv { w with vars := r.1 } := by
    refine ⟨h.cccd, fun hp => ?_, fun hl => ?_⟩
    · have hcur : Machine.current { w with vars := r.1 } = w.current :=
        congrArg w.stack.links hhandle
      unfold Sending Stalled
      rw [hcur]
      dsimp only
      rw [hstep]
      exact h.pairing (hstate.symm.trans hp)
    · have hcur : Machine.current { w with vars := r.1 } = w.current :=
        congrArg w.stack.links hhandle
      unfold Paired
      rw [hcur]
      exact h.late (hl.imp hstate.symm.trans hstate.symm.trans)
  apply Machine.deliver_rule (P := PairInv)
  · rw [Machine.assign_of_none (if_neg fun he => he.2 (hstate ▸ he.1))]
    exact hstart
  · intro c hc v hv
    have hop := hcalls c hc
    rw [Machine.perform_of_starts_none hop]
    apply hv.emit
    · apply cccdAt_called
      cases c <;> first | rfl | cases hop
    · rfl
    · intro i
      cases c <;> first | rfl | cases hop

/-! ## Completions -/

section complete

variable {w : World} {handle : UInt16} {id : ℕ} {op : Op} {att : UInt8}

theorem cccd_completed (handle : UInt16) (id : ℕ) (op : Op) (att : UInt8)
    (h : Everywhere CccdAt w.trace) :
    Everywhere CccdAt (w.completed handle id op att).trace :=
  everywhere_snoc.mpr ⟨h, trivial⟩

/-- More completions do not undo the pair sequence. -/
theorem Paired.completed (h : Paired w) (hlink : w.stack.links handle = some ⟨id, some op⟩) :
    Paired (w.completed handle id op att) := by
  obtain ⟨l, hcur, hex⟩ := h
  have hlonger : exchanged 4 <+: pairingOf l.id (w.completed handle id op att).trace := by
    unfold Machine.completed
    rw [Machine.emit_trace, pairingOf_snoc rfl]
    exact hex.trans (List.prefix_append _ _)
  by_cases hh : handle = w.vars.connHandle
  · have hsame : l = ⟨id, some op⟩ := by
      rw [Machine.current, client_handle, ← hh, hlink] at hcur
      exact (Option.some.inj hcur).symm
    refine ⟨⟨id, none⟩, Machine.current_completed_own hh, ?_⟩
    rw [hsame] at hlonger
    exact hlonger
  · exact ⟨l, (Machine.current_completed_other hh).trans hcur, hlonger⟩

/-- In `STATE_PAIRING` only the exchange matters. -/
theorem PairInv.of_pairing (hobs : Everywhere CccdAt w.trace)
    (hstate : w.vars.appState = .pairing) (h : Sending w ∨ Stalled w) : PairInv w := by
  refine ⟨hobs, fun _ => h, fun hlate => ?_⟩
  rw [hstate] at hlate
  rcases hlate with h | h <;> cases h

/-- The next command is written to a connection that runs nothing. -/
theorem sending_perform {payload : Octets} (valueHandle : UInt16)
    (hcur : w.current = some ⟨id, none⟩) (hlt : w.vars.pairStep < 4)
    (hsub : pairSubs[w.vars.pairStep]? = some (payload.octet 3))
    (hex : pairingOf id w.trace = exchanged w.vars.pairStep) :
    Sending (w.perform (.writeValue w.vars.connHandle valueHandle payload)) := by
  rw [Machine.perform_accepted (c := .writeValue w.vars.connHandle valueHandle payload) rfl rfl
    hcur]
  refine ⟨⟨id, some (.write valueHandle payload)⟩, payload.octet 3, Stack.setLink_links_self ..,
    Option.some_ne_none _, hlt, hsub, ?_⟩
  rw [Machine.emit_trace, Machine.setLink_trace, pairingOf_snoc rfl, hex]
  simp [Obs.pairing]

/-- The first command is written when `STATE_PAIRING` is entered: it is accepted, unless the
connection is gone. -/
theorem enter_pairing {v : World} {b : Globals} (hcccd : Everywhere CccdAt v.trace)
    (hv : v.vars.appState ≠ .pairing) (hb : b.appState = .pairing) (hstep : b.pairStep = 0)
    (hfree : ∀ l, v.stack.links b.connHandle = some l → l.op = none) :
    PairInv (v.deliver (b, writePairStep b)) := by
  obtain ⟨payload, hpayload, hsub⟩ := pairPayload_sub (show 0 < 4 by decide)
  have hcalls : writePairStep b =
      [.writeValue b.connHandle b.cmdWriteChar.valueHandle payload] := by
    unfold writePairStep
    rw [hstep, hpayload]
  unfold Machine.deliver
  dsimp only
  rw [assign_entered ⟨hb, hv⟩, hcalls, List.foldl_cons, List.foldl_nil]
  generalize hu : Machine.emit _ _ = u
  have hbridge : u.vars = b := by rw [← hu]; rfl
  have hempty : ∀ i, pairingOf i u.trace = [] := by
    intro i
    rw [← hu]
    exact pairingOf_entered rfl
  have hobs : Everywhere CccdAt u.trace := by
    rw [← hu]
    exact everywhere_snoc.mpr ⟨hcccd, trivial⟩
  have hcur : u.current = v.stack.links b.connHandle := by rw [← hu]; rfl
  clear hu
  subst hbridge
  obtain ⟨hbridge', _, htrace⟩ :=
    Machine.perform_obs u (.writeValue u.vars.connHandle u.vars.cmdWriteChar.valueHandle payload)
  apply PairInv.of_pairing
  · rw [htrace]
    exact everywhere_snoc.mpr ⟨hobs, trivial⟩
  · rw [hbridge']
    exact hb
  · rcases hl : v.stack.links u.vars.connHandle with _ | ⟨id, op⟩
    · right
      intro l hl'
      rw [Machine.perform_unknown (c := .writeValue u.vars.connHandle _ payload) rfl rfl
        (hcur.trans hl)] at hl'
      have hnone : u.current = some l := hl'
      rw [hcur, hl] at hnone
      cases hnone
    · left
      obtain rfl : op = none := hfree _ hl
      apply sending_perform _ (hcur.trans hl)
      · rw [hstep]
        decide
      · rw [hstep]
        exact hsub
      · rw [hstep]
        exact hempty id

/-- What a successful completion does in `STATE_PAIRING`. -/
theorem queryComplete_pairing {b : Globals} (h : b.appState = .pairing) :
    (∃ b' payload, queryComplete 0 b =
        (b', [.writeValue b'.connHandle b'.cmdWriteChar.valueHandle payload]) ∧
      pairSubs[b'.pairStep]? = some (payload.octet 3) ∧ b'.pairStep = b.pairStep + 1 ∧
      b'.pairStep < 4 ∧ b'.appState = .pairing ∧ b'.connHandle = b.connHandle) ∨
    ∃ b', queryComplete 0 b = (b', [.writeConfiguration b'.connHandle b'.inputReportChar]) ∧
      ¬ b.pairStep + 1 < 4 ∧ b'.appState = .notifying ∧ b'.connHandle = b.connHandle := by
  unfold queryComplete
  rw [if_neg (not_not_intro rfl), h]
  dsimp only
  by_cases hmore : b.pairStep + 1 < 4
  · left
    obtain ⟨payload, hpayload, hsub⟩ := pairPayload_sub hmore
    rw [if_pos hmore]
    refine ⟨_, payload, Prod.ext rfl ?_, hsub, rfl, hmore, rfl, rfl⟩
    unfold writePairStep
    rw [hpayload]
  · right
    rw [if_neg hmore]
    exact ⟨_, rfl, hmore, rfl, rfl⟩

/-- A command completes with success, and the next one is written, or notifications are enabled. -/
theorem next_pairing (h : PairInv w) (hlink : w.stack.links handle = some ⟨id, some op⟩)
    (hown : handle = w.vars.connHandle) (hstate : w.vars.appState = .pairing) :
    PairInv ((w.completed handle id op 0).deliver (queryComplete 0 w.vars)) := by
  -- the operation that completes is the command of the current step
  have hcur : w.current = some ⟨id, some op⟩ := by
    rw [Machine.current, client_handle, ← hown, hlink]
  obtain ⟨l, s, hl, _, hlt, hsub, hex⟩ := (h.pairing hstate).resolve_right
    fun hst => Option.some_ne_none op (hst _ hcur)
  obtain rfl : l = ⟨id, some op⟩ := Option.some.inj (hl.symm.trans hcur)
  have hdone : pairingOf id (w.completed handle id op 0).trace =
      exchanged (w.vars.pairStep + 1) := by
    unfold Machine.completed
    rw [Machine.emit_trace, Machine.setLink_trace, pairingOf_snoc rfl, hex, exchanged_succ hsub]
    simp [Obs.pairing]
  have hnow : (w.completed handle id op 0).stack.links w.vars.connHandle = some ⟨id, none⟩ :=
    Machine.current_completed_own hown
  have hobs := cccd_completed handle id op 0 h.cccd
  have hb : (w.completed handle id op 0).vars.appState = .pairing := hstate
  generalize w.completed handle id op 0 = v at hdone hnow hobs hb
  rcases queryComplete_pairing hstate with
    ⟨b', payload, hq, hsub', hstep, hmore, hpairing, hhandle⟩ | ⟨b', hq, hlast, hnotifying, hhandle⟩
  · rw [hq, deliver_one fun he => he.2 hb]
    have hcur' : Machine.current { v with vars := b' } = some ⟨id, none⟩ := by
      rw [← hnow, ← hhandle]
      rfl
    obtain ⟨hbridge', _, htrace⟩ := Machine.perform_obs { v with vars := b' }
      (.writeValue b'.connHandle b'.cmdWriteChar.valueHandle payload)
    apply PairInv.of_pairing
    · rw [htrace]
      exact everywhere_snoc.mpr ⟨hobs, trivial⟩
    · rw [hbridge']
      exact hpairing
    · exact .inl (sending_perform (w := { v with vars := b' }) _ hcur' hmore hsub'
        (hstep ▸ hdone))
  · have hfour : w.vars.pairStep + 1 = 4 := by omega
    rw [hfour] at hdone
    have hent : ¬ (b'.appState = .pairing ∧ v.vars.appState ≠ .pairing) := fun he => he.2 hb
    rw [hq, deliver_one hent, Machine.perform_accepted (G := Globals)
      (c := .writeConfiguration b'.connHandle b'.inputReportChar) rfl rfl (hhandle ▸ hnow)]
    refine ⟨everywhere_snoc.mpr ⟨hobs, id, rfl, hdone⟩, fun hp => ?_, fun _ => ?_⟩
    · have hp' : b'.appState = .pairing := hp
      rw [hnotifying] at hp'
      cases hp'
    · refine ⟨⟨id, some (.configure b'.inputReportChar)⟩, Stack.setLink_links_self .., ?_⟩
      rw [Machine.emit_trace, Machine.setLink_trace, pairingOf_snoc rfl]
      change exchanged 4 <+: pairingOf id v.trace ++ _
      rw [hdone]
      exact List.prefix_append _ _

/-- A query completes with success: the next query, or the pair sequence. -/
theorem discovered (h : PairInv (w.completed handle id op 0))
    (hC : OwnCompletion w (.complete handle 0)) (hstate : w.vars.appState = .charDiscovering) :
    PairInv ((w.completed handle id op 0).deliver (queryComplete 0 w.vars)) := by
  have hearly : w.vars.appState.Early := by
    rw [hstate]
    exact ⟨nofun, nofun, nofun⟩
  unfold queryComplete
  rw [if_neg (not_not_intro rfl), hstate]
  dsimp only
  split
  case isTrue =>
    apply PairInv.early h.cccd hearly
    simp [Call.isConfiguration]
  case isFalse hinput =>
    split
    case isTrue =>
      apply PairInv.early h.cccd hearly
      simp [Call.isConfiguration]
    case isFalse hcmd =>
      apply enter_pairing h.cccd
      · exact hearly.1
      · rfl
      · rfl
      · intro l hl
        have hcur : (w.completed handle id op 0).current = some l := hl
        by_cases hown : handle = w.vars.connHandle
        · rw [Machine.current_completed_own hown] at hcur
          rw [← Option.some.inj hcur]
        · rw [Machine.current_completed_other hown] at hcur
          exact (hC rfl hown).2 hstate ⟨hinput, hcmd⟩ l hcur

/-- The completion of another connection is no part of the exchange. -/
theorem Sending.completed_other (h : Sending w) (hnum : w.stack.Numbered)
    (hlink : w.stack.links handle = some ⟨id, some op⟩) (hother : handle ≠ w.vars.connHandle) :
    Sending (w.completed handle id op att) := by
  obtain ⟨l, s, hcur, hop, hlt, hsub, hex⟩ := h
  have hid : id ≠ l.id := by
    intro heq
    apply hother
    apply hnum.inj (i := id)
    · exact congrArg (Option.map Link.id) hlink
    · rw [heq]
      exact congrArg (Option.map Link.id) hcur
  refine ⟨l, s, (Machine.current_completed_other hother).trans hcur, hop, hlt, hsub, ?_⟩
  unfold Machine.completed
  rw [Machine.emit_trace, Machine.setLink_trace, pairingOf_snoc rfl, hex]
  simp [Obs.pairing, hid]

/-- A completion, before the bridge sees it: of a connection that was sending, nothing is left to
complete. -/
theorem PairInv.completed (h : PairInv w) (hnum : w.stack.Numbered)
    (hlink : w.stack.links handle = some ⟨id, some op⟩) :
    PairInv (w.completed handle id op att) := by
  constructor
  · exact cccd_completed handle id op att h.cccd
  · intro hpairing
    by_cases hown : handle = w.vars.connHandle
    · right
      intro l hl
      rw [Machine.current_completed_own hown] at hl
      rw [← Option.some.inj hl]
    · rcases h.pairing hpairing with hsending | hstalled
      · exact .inl (hsending.completed_other hnum hlink hown)
      · right
        intro l hl
        rw [Machine.current_completed_other hown] at hl
        exact hstalled l hl
  · intro hlate
    exact (h.late hlate).completed hlink

/-- Notifications are enabled: the bridge is ready. -/
theorem PairInv.ready {v : World} (h : PairInv v) (hstate : v.vars.appState = .notifying)
    (c : Characteristic) :
    PairInv (v.deliver ({ v.vars with appState := .ready },
      [.listenForUpdates v.vars.connHandle c])) := by
  rw [deliver_one (by simp)]
  rw [Machine.perform_of_starts_none (G := Globals)
    (c := .listenForUpdates v.vars.connHandle c) rfl]
  apply PairInv.emit
  · constructor
    · exact h.cccd
    · intro hpairing
      cases hpairing
    · intro _
      exact h.late (.inl hstate)
  · trivial
  · rfl
  · intro i
    rfl

/-- The completion of an operation. -/
theorem complete_pairInv (h : PairInv w) (hnum : w.stack.Numbered)
    (hC : OwnCompletion w (.complete handle att))
    (hlink : w.stack.links handle = some ⟨id, some op⟩) :
    PairInv ((w.completed handle id op att).deliver (queryComplete att w.vars)) := by
  have hdone : PairInv (w.completed handle id op att) := h.completed hnum hlink
  by_cases hatt : att = 0
  · subst hatt
    cases hstate : w.vars.appState with
    | charDiscovering => exact discovered hdone hC hstate
    | pairing =>
        have hown : handle = w.vars.connHandle := by
          by_contra hother
          exact (hC rfl hother).1 hstate
        exact next_pairing h hlink hown hstate
    | notifying =>
        have hq : queryComplete 0 w.vars = ({ w.vars with appState := .ready },
            [.listenForUpdates w.vars.connHandle w.vars.inputReportChar]) := by
          unfold queryComplete
          rw [if_neg (not_not_intro rfl), hstate]
        rw [hq]
        exact hdone.ready hstate _
    | _ =>
        have hq : queryComplete 0 w.vars = (w.vars, []) := by
          unfold queryComplete
          rw [if_neg (not_not_intro rfl), hstate]
        rw [hq]
        exact hdone.same rfl rfl rfl fun c hc => absurd hc List.not_mem_nil
  · have hq : queryComplete att w.vars = (w.vars, [.gapDisconnect w.vars.connHandle]) := by
      unfold queryComplete
      rw [if_pos hatt]
    rw [hq]
    apply hdone.same rfl rfl rfl
    intro c hc
    rw [List.mem_singleton.mp hc]
    rfl

end complete

/-! ## The steps -/

/-- A handler that starts the discovery, or does nothing. -/
theorem PairInv.startDiscovery {w : World} (h : PairInv w) :
    PairInv (w.deliver (startDiscovery w.vars)) := by
  unfold Bridge.startDiscovery
  split
  · apply PairInv.early h.cccd
    · exact ⟨nofun, nofun, nofun⟩
    · intro c hc
      rw [List.mem_singleton.mp hc]
      rfl
  · exact h.same rfl rfl rfl fun c hc => absurd hc List.not_mem_nil

theorem storeCharacteristic_same (c : Characteristic) (b : Globals) :
    (storeCharacteristic c b).appState = b.appState ∧
      (storeCharacteristic c b).connHandle = b.connHandle ∧
      (storeCharacteristic c b).pairStep = b.pairStep := by
  unfold storeCharacteristic
  split
  · exact ⟨rfl, rfl, rfl⟩
  · split
    · exact ⟨rfl, rfl, rfl⟩
    · exact ⟨rfl, rfl, rfl⟩

/-- A step keeps the invariant. -/
theorem step_pairInv {w w' : World} {e : Event} (h : PairInv w) (hnum : w.stack.Numbered)
    (hC : OwnCompletion w e) (hstep : w.step e = some w') : PairInv w' := by
  cases e with
  | state working =>
      cases hstep
      cases working with
      | false => exact h.same rfl rfl rfl fun c hc => absurd hc List.not_mem_nil
      | true =>
          apply PairInv.early h.cccd
          · exact ⟨nofun, nofun, nofun⟩
          · unfold packetHandler
            simp [Call.isConfiguration]
  | advertising addr addrType data =>
      cases hstep
      unfold packetHandler
      dsimp only
      split
      · apply PairInv.early h.cccd
        · exact ⟨nofun, nofun, nofun⟩
        · simp [Call.isConfiguration]
      · exact h.same rfl rfl rfl fun c hc => absurd hc List.not_mem_nil
  | connection status handle =>
      rcases step_connection hstep with ⟨hstatus, rfl⟩ | ⟨hstatus, -, rfl⟩
      · unfold packetHandler
        dsimp only
        rw [if_pos hstatus]
        apply PairInv.early h.cccd
        · exact ⟨nofun, nofun, nofun⟩
        · simp [Call.isConfiguration]
      · unfold packetHandler
        dsimp only
        rw [if_neg (not_not.mpr hstatus)]
        apply PairInv.early
        · exact everywhere_snoc.mpr ⟨h.cccd, trivial⟩
        · exact ⟨nofun, nofun, nofun⟩
        · simp [Call.isConfiguration]
  | disconnection handle =>
      obtain ⟨link, -, rfl⟩ := step_disconnection hstep
      apply PairInv.early
      · exact everywhere_snoc.mpr ⟨h.cccd, trivial⟩
      · exact ⟨nofun, nofun, nofun⟩
      · unfold packetHandler
        simp [Call.isConfiguration]
  | encryption status =>
      cases hstep
      exact h.startDiscovery
  | numericComparison handle =>
      cases hstep
      apply h.same rfl rfl rfl
      simp [smPacketHandler, Call.op]
  | justWorks handle =>
      cases hstep
      apply PairInv.early h.cccd
      · exact ⟨nofun, nofun, nofun⟩
      · simp [smPacketHandler, Call.isConfiguration]
  | pairing status =>
      cases hstep
      exact h.startDiscovery
  | result handle c =>
      obtain ⟨id, -, rfl⟩ := step_result hstep
      have hsame := storeCharacteristic_same c w.vars
      have hemit : PairInv (w.emit (.result id c.uuid128 c)) := h.emit trivial rfl fun i => rfl
      apply hemit.same hsame.1 hsame.2.1 hsame.2.2
      exact fun c hc => absurd hc List.not_mem_nil
  | complete handle att =>
      obtain ⟨id, op, hlink, rfl⟩ := step_complete hstep
      exact complete_pairInv h hnum hC hlink

theorem init_pairInv : PairInv .init := by
  constructor
  · exact everywhere_nil
  · intro h
    cases h
  · intro h
    rcases h with h | h
    · cases h
    · cases h

/-- The pair sequence is written in order, each command once, and notifications are enabled only
after it, in every run in which no completion of another connection is taken for one of the
connection in `conn_handle`. -/
theorem pairOrder_of_own {w : World} (h : Run OwnCompletion w) : PairOrder w := by
  have hinv : PairInv w := by
    induction h with
    | init => exact init_pairInv
    | step hrun hC hstep ih => exact step_pairInv ih (Run.numbered hrun) hC hstep
  exact ⟨hinv.cccd, hinv.late⟩

/-! ## Runs -/

instance (w : World) (e : Event) : Decidable (OwnCompletion w e) := by
  unfold OwnCompletion
  split
  · infer_instance
  · infer_instance

theorem pairOrder_oneConnection :
    ∃ w, Run OwnCompletion w ∧ w.vars.appState = .ready ∧ PairOrder w := by
  have hready : (through World.step OwnCompletion oneConnection .init).map (·.vars.appState) =
      some .ready := by decide +kernel
  obtain ⟨w, hw, hstate⟩ := Option.map_eq_some_iff.mp hready
  have hrun : Run OwnCompletion w := Reached.init.through hw
  exact ⟨w, hrun, hstate, pairOrder_of_own hrun⟩

/-- A second connection while the first one runs its query: the query of the first one completes
while the second one runs its own. -/
def twoConnections : List Event :=
  [.state true, .connection 0 0x40, .justWorks 0x40, .pairing 0, .connection 0 0x41,
    .justWorks 0x41, .pairing 0, .result 0x41 inputReport, .complete 0x41 0,
    .result 0x41 commandWrite, .complete 0x40 0, .complete 0x41 0, .complete 0x41 0,
    .complete 0x41 0, .complete 0x41 0]

/-- Its first command is rejected, and the end of the query is taken for that of the command. -/
theorem not_pairOrder_two : ¬ ∀ w, Run (fun _ _ => True) w → PairOrder w := by
  intro h
  have hlast : (through World.step (fun _ _ => True) twoConnections .init).map
      (fun w => decide (∀ i, (hi : i < w.trace.length) → CccdAt (w.trace.take i) w.trace[i])) =
      some false := by decide +kernel
  obtain ⟨w, hw, hcccd⟩ := Option.map_eq_some_iff.mp hlast
  have horder : PairOrder w := h w (Reached.init.through hw)
  exact of_decide_eq_false hcccd (everywhere_getElem.mp horder.cccd)

end Switch2Bt.Bridge
