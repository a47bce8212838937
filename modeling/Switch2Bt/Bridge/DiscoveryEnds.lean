import Switch2Bt.Bridge.PairingOrder

/-!
# The end of the discovery of the bridge

A query that completes with an empty slot is followed by the same query again, whichever operation
completed and whether or not the query was accepted. The branch that reports missing characteristics
comes behind the two that query, so it is never reached, and a peer that lacks a characteristic is
asked for it without end. A discovery that is entered while no operation runs makes one query for
each UUID at most, and then enters `STATE_PAIRING`, in all runs with a peer whose database has both
characteristics (or a second input report, which is taken for the command write), and only with such
a peer; where an operation still runs, with no peer (`discoveryEnds_iff`).

`Discovering Entry peer i` are the worlds of a discovery on connection `i`, entered on connections
that meet `Entry`, with the queries that were issued since `STATE_CHAR_DISCOVERING` was entered.
-/

namespace Switch2Bt.Bridge

open Await Octets GattClient

/-! ## Statement -/

/-- The characteristics of a peer; `0` is no handle. -/
structure Database where
  chars : List Characteristic
  handle_ne : ∀ c ∈ chars, c.valueHandle ≠ 0

/-- What a query for a UUID finds. -/
def Database.matching (db : Database) (uuid : Octets) : List Characteristic :=
  db.chars.filter (·.uuid128 = uuid)

/-- A discovery needs an input report, and a command write or another input report in its place. -/
def Database.Suffices (db : Database) : Prop :=
  db.matching uuidInputReport ≠ [] ∧
    (db.matching uuidCommandWrite ≠ [] ∨ 2 ≤ (db.matching uuidInputReport).length)

/-- A query that was issued, accepted or not. -/
def Obs.query : Obs → Option Octets
  | .called (.discoverByUuid128 _ uuid) _ _ => some uuid
  | _ => none

/-- Whether a query was accepted on a connection. -/
def Obs.startsQuery (i : ℕ) : Obs → Bool
  | .called (.discoverByUuid128 _ _) link true => link = some i
  | _ => false

/-- A result on a connection. -/
def Obs.resultOn (i : ℕ) : Obs → Option Characteristic
  | .result j _ c => if j = i then some c else none
  | _ => none

/-- The results on a connection since its last query was accepted. -/
def resultsOf (i : ℕ) (tr : List Obs) : List Characteristic :=
  (since (Obs.startsQuery i) tr).filterMap (Obs.resultOn i)

/-- The peer of each connection gives the results of a query in order, and completes it with
success after the last one. -/
def Answers (peer : ℕ → Database) (w : World) : Event → Prop
  | .result handle c =>
      match w.stack.links handle with
      | some ⟨id, some (.discover uuid)⟩ =>
          resultsOf id w.trace ++ [c] <+: (peer id).matching uuid
      | _ => True
  | .complete handle att =>
      match w.stack.links handle with
      | some ⟨id, some (.discover uuid)⟩ =>
          att = 0 ∧ resultsOf id w.trace = (peer id).matching uuid
      | _ => True
  | _ => True

/-- Whether an observation is a call of `gap_disconnect`. -/
def Obs.isDisconnect : Obs → Bool
  | .called (.gapDisconnect _) _ _ => true
  | _ => false

/-- A world of a discovery on connection `i`, from the entry into `STATE_CHAR_DISCOVERING` until the
state is left or `gap_disconnect` is called, and the queries that were issued in it. -/
inductive Discovering (Entry : Stack Op → Prop) (peer : ℕ → Database) (i : ℕ) :
    World → List Octets → Prop
  | enter {w w' : World} {e : Event} : Run (Answers peer) w → Answers peer w e →
      w.step e = some w' → w.vars.appState ≠ .charDiscovering →
      w'.vars.appState = .charDiscovering → w'.stack.number w'.vars.connHandle = some i →
      Entry w.stack → Discovering Entry peer i w' (seenSince Obs.query w.trace w'.trace)
  | step {w w' : World} {e : Event} {qs : List Octets} : Discovering Entry peer i w qs →
      Answers peer w e → w.step e = some w' → w'.vars.appState = .charDiscovering →
      (∀ o ∈ w'.trace.drop w.trace.length, o.isDisconnect = false) →
      Discovering Entry peer i w' (qs ++ seenSince Obs.query w.trace w'.trace)

/-- What a discovery may have come to: no query was issued twice, and two at most; the connection
runs an operation, whose completion moves the discovery on; and `STATE_PAIRING` is entered with both
handles. -/
structure Ends (w : World) (qs : List Octets) : Prop where
  once : qs.Nodup
  two : qs.length ≤ 2
  uuid : ∀ uuid ∈ qs, uuid = uuidInputReport ∨ uuid = uuidCommandWrite
  running : ∀ l ∈ w.current, l.op ≠ none
  found : ∀ e w', w.step e = some w' → w'.vars.appState = .pairing → w'.vars.Found

/-! ## Results -/

theorem resultsOf_snoc {i : ℕ} {tr : List Obs} {o : Obs} (h : o.startsQuery i = false) :
    resultsOf i (tr ++ [o]) = resultsOf i tr ++ (o.resultOn i).toList := by
  unfold resultsOf
  rw [since_snoc_of_not h, List.filterMap_append]
  cases ho : o.resultOn i <;> simp [ho]

theorem resultsOf_started {i : ℕ} {tr : List Obs} {o : Obs} (h : o.startsQuery i = true) :
    resultsOf i (tr ++ [o]) = [] := by
  unfold resultsOf
  rw [since_snoc_start h, List.filterMap_nil]

/-! ## The discovery -/

/-- What the running operation means for the queries so far. -/
inductive Phase (peer : ℕ → Database) (i : ℕ) (w : World) : Op → List Octets → Prop
  /-- The query for the input report; its first result fills the slot, and its second the other. -/
  | input : (resultsOf i w.trace ≠ [] → w.vars.inputReportChar.valueHandle ≠ 0) →
      (2 ≤ (resultsOf i w.trace).length → w.vars.cmdWriteChar.valueHandle ≠ 0) →
      Phase peer i w (.discover uuidInputReport) [uuidInputReport]
  /-- The query for the command write; its first result fills the other slot. -/
  | cmd : (peer i).matching uuidCommandWrite ≠ [] → w.vars.inputReportChar.valueHandle ≠ 0 →
      (resultsOf i w.trace ≠ [] → w.vars.cmdWriteChar.valueHandle ≠ 0) →
      Phase peer i w (.discover uuidCommandWrite) [uuidInputReport, uuidCommandWrite]

/-- The invariant of a discovery. -/
structure DiscoveryInv (peer : ℕ → Database) (i : ℕ) (w : World) (qs : List Octets) : Prop where
  state : w.vars.appState = .charDiscovering
  phase : ∃ op, w.current = some ⟨i, some op⟩ ∧ Phase peer i w op qs
  /-- No other connection runs an operation. -/
  alone : ∀ handle l, w.stack.links handle = some l → l.op ≠ none → handle = w.vars.connHandle

/-- A step from which nothing changes but an observation. -/
theorem DiscoveryInv.emit {peer : ℕ → Database} {i : ℕ} {w : World} {qs : List Octets}
    (h : DiscoveryInv peer i w qs) {o : Obs} (hstart : o.startsQuery i = false)
    (hresult : o.resultOn i = none) : DiscoveryInv peer i (w.emit o) qs := by
  obtain ⟨hstate, ⟨op, hcur, hphase⟩, halone⟩ := h
  have hsame : resultsOf i (w.emit o).trace = resultsOf i w.trace := by
    rw [Machine.emit_trace, resultsOf_snoc hstart, hresult, Option.toList_none, List.append_nil]
  refine ⟨hstate, ⟨op, hcur, ?_⟩, halone⟩
  cases hphase with
  | input hin hcmd => exact .input (by rw [hsame]; exact hin) (by rw [hsame]; exact hcmd)
  | cmd hdb hin hcmd => exact .cmd hdb hin (by rw [hsame]; exact hcmd)

/-! ## Steps of a discovery -/

/-- A query of the connection in `conn_handle`. -/
def query (b : Globals) (uuid : Octets) : Call := .discoverByUuid128 b.connHandle uuid

/-- A handler that makes a query in `STATE_CHAR_DISCOVERING`: an idle connection runs it. -/
theorem deliver_query {v : World} {b : Globals} {i : ℕ} (uuid : Octets)
    (hstate : b.appState = .charDiscovering)
    (hl : v.stack.links b.connHandle = some ⟨i, none⟩) :
    (v.deliver (b, [query b uuid])).current = some ⟨i, some (.discover uuid)⟩ ∧
      (∀ handle ≠ b.connHandle,
        (v.deliver (b, [query b uuid])).stack.links handle = v.stack.links handle) ∧
      (v.deliver (b, [query b uuid])).trace =
        v.trace ++ [.called (query b uuid) (some i) true] := by
  have hent : ¬(b.appState = .pairing ∧ v.vars.appState ≠ .pairing) := by
    rw [hstate]
    exact fun h => nomatch h.1
  rw [deliver_one hent, Machine.perform_accepted (w := { v with vars := b }) (c := query b uuid)
    rfl rfl hl]
  refine ⟨Stack.setLink_links_self .., fun handle hne => ?_, rfl⟩
  rw [Machine.emit_stack, Machine.setLink_stack, Stack.setLink_links, if_neg hne]

/-- A busy one does not. -/
theorem deliver_query_busy {v : World} {b : Globals} {i : ℕ} {op : Op} (uuid : Octets)
    (hstate : b.appState = .charDiscovering)
    (hl : v.stack.links b.connHandle = some ⟨i, some op⟩) :
    v.deliver (b, [query b uuid]) =
      Machine.emit (.called (query b uuid) (some i) false) { v with vars := b } := by
  have hent : ¬(b.appState = .pairing ∧ v.vars.appState ≠ .pairing) := by
    rw [hstate]
    exact fun h => nomatch h.1
  rw [deliver_one hent]
  exact Machine.perform_busy (w := { v with vars := b }) (c := query b uuid) rfl rfl hl

/-- A completion with success in `STATE_CHAR_DISCOVERING`. -/
theorem queryComplete_discovering {b : Globals} (hstate : b.appState = .charDiscovering) :
    (b.inputReportChar.valueHandle = 0 ∧ queryComplete 0 b = (b, [query b uuidInputReport])) ∨
      (b.inputReportChar.valueHandle ≠ 0 ∧ b.cmdWriteChar.valueHandle = 0 ∧
        queryComplete 0 b = (b, [query b uuidCommandWrite])) ∨
      (b.Found ∧ (queryComplete 0 b).1.appState = .pairing ∧ (queryComplete 0 b).1.Found) := by
  unfold queryComplete
  rw [if_neg (not_not_intro rfl), hstate]
  dsimp only
  by_cases hin : b.inputReportChar.valueHandle = 0
  · left
    rw [if_pos hin]
    exact ⟨hin, rfl⟩
  · rw [if_neg hin]
    by_cases hcmd : b.cmdWriteChar.valueHandle = 0
    · right
      left
      rw [if_pos hcmd]
      exact ⟨hin, hcmd, rfl⟩
    · right
      right
      rw [if_neg hcmd]
      exact ⟨⟨hin, hcmd⟩, rfl, hin, hcmd⟩

/-- A result fills the first empty slot. -/
theorem storeCharacteristic_filled {b : Globals} {c : Characteristic} (hc : c.valueHandle ≠ 0) :
    (storeCharacteristic c b).appState = b.appState ∧
      (storeCharacteristic c b).connHandle = b.connHandle ∧
      (storeCharacteristic c b).inputReportChar.valueHandle ≠ 0 ∧
      (b.inputReportChar.valueHandle ≠ 0 →
        (storeCharacteristic c b).cmdWriteChar.valueHandle ≠ 0) := by
  unfold storeCharacteristic
  split_ifs with hin hcmd
  · exact ⟨rfl, rfl, hc, fun h => absurd hin h⟩
  · exact ⟨rfl, rfl, hin, fun _ => hc⟩
  · exact ⟨rfl, rfl, hin, fun _ => hcmd⟩

/-- The discovery starts with the query for the input report, and with empty slots. -/
theorem startDiscovery_eq {b : Globals} (hwait : b.appState = .waitEncryption) :
    ∃ b', startDiscovery b = (b', [query b' uuidInputReport]) ∧ b'.appState = .charDiscovering ∧
      b'.connHandle = b.connHandle ∧ b'.inputReportChar = .zero ∧ b'.cmdWriteChar = .zero := by
  rw [startDiscovery, if_pos hwait]
  exact ⟨_, rfl, rfl, rfl, rfl, rfl⟩

/-- What an event makes of the state of the bridge. -/
def Event.handler : Event → Globals → Globals × List Call
  | .state working => packetHandler (.btstackState working)
  | .advertising addr addrType data => packetHandler (.advertisingReport addr addrType data)
  | .connection status handle => packetHandler (.leConnectionComplete status handle)
  | .disconnection _ => packetHandler .disconnectionComplete
  | .encryption status => packetHandler (.encryptionChange status)
  | .numericComparison handle => smPacketHandler (.numericComparisonRequest handle)
  | .justWorks handle => smPacketHandler (.justWorksRequest handle)
  | .pairing status => smPacketHandler (.pairingComplete status)
  | .result _ c => gattClientHandler (.characteristicQueryResult c)
  | .complete _ att => gattClientHandler (.queryComplete att)

theorem step_bridge {w w' : World} {e : Event} (hstep : w.step e = some w') :
    w'.vars = (e.handler w.vars).1 := by
  cases e with
  | connection status handle =>
      rcases step_connection hstep with ⟨-, rfl⟩ | ⟨-, -, rfl⟩
      · exact Machine.deliver_vars ..
      · exact Machine.deliver_vars ..
  | disconnection handle =>
      obtain ⟨link, -, rfl⟩ := step_disconnection hstep
      exact Machine.deliver_vars ..
  | result handle c =>
      obtain ⟨id, -, rfl⟩ := step_result hstep
      exact Machine.deliver_vars ..
  | complete handle att =>
      obtain ⟨id, op, -, rfl⟩ := step_complete hstep
      exact Machine.deliver_vars ..
  | _ =>
      cases hstep
      exact Machine.deliver_vars ..

/-- How `STATE_CHAR_DISCOVERING` and `STATE_PAIRING` are entered. -/
theorem handler_appState (e : Event) (b : Globals) :
    (e.handler b).1.appState = b.appState ∨
      ((e.handler b).1.appState ≠ .charDiscovering ∧ (e.handler b).1.appState ≠ .pairing) ∨
      (b.appState = .waitEncryption ∧ ((∃ status, e = .encryption status) ∨
        ∃ status, e = .pairing status)) ∨
      (b.appState = .charDiscovering ∧ (e.handler b).1.appState = .pairing ∧
        (e.handler b).1.Found) := by
  have hstart : (startDiscovery b).1.appState = b.appState ∨ b.appState = .waitEncryption := by
    unfold startDiscovery
    split_ifs with hwait
    · exact .inr hwait
    · exact .inl rfl
  cases e with
  | state working =>
      cases working with
      | false => exact .inl rfl
      | true => exact .inr (.inl ⟨nofun, nofun⟩)
  | advertising addr addrType data =>
      unfold Event.handler packetHandler
      dsimp only
      split_ifs
      · exact .inr (.inl ⟨nofun, nofun⟩)
      · exact .inl rfl
  | connection status handle =>
      unfold Event.handler packetHandler
      dsimp only
      split_ifs
      · exact .inr (.inl ⟨nofun, nofun⟩)
      · exact .inr (.inl ⟨nofun, nofun⟩)
  | disconnection handle => exact .inr (.inl ⟨nofun, nofun⟩)
  | encryption status =>
      exact hstart.imp_right fun hwait => .inr (.inl ⟨hwait, .inl ⟨status, rfl⟩⟩)
  | numericComparison handle => exact .inl rfl
  | justWorks handle => exact .inr (.inl ⟨nofun, nofun⟩)
  | pairing status =>
      exact hstart.imp_right fun hwait => .inr (.inl ⟨hwait, .inr ⟨status, rfl⟩⟩)
  | result handle c =>
      left
      show (storeCharacteristic c b).appState = b.appState
      unfold storeCharacteristic
      split_ifs <;> rfl
  | complete handle att =>
      rw [show (Event.complete handle att).handler b = queryComplete att b from rfl]
      by_cases hatt : att = 0
      case neg =>
        left
        rw [queryComplete, if_pos hatt]
      subst hatt
      cases hstate : b.appState with
      | charDiscovering =>
          rcases queryComplete_discovering hstate with ⟨-, hq⟩ | ⟨-, -, hq⟩ | ⟨-, hpairing, hfound⟩
          · rw [hq]
            exact .inl hstate
          · rw [hq]
            exact .inl hstate
          · exact .inr (.inr (.inr ⟨rfl, hpairing, hfound⟩))
      | pairing =>
          rcases queryComplete_pairing hstate with
            ⟨b', payload, hq, -, -, -, hpairing, -⟩ | ⟨b', hq, -, hnotifying, -⟩
          · rw [hq]
            exact .inl hpairing
          · rw [hq, hnotifying]
            exact .inr (.inl ⟨nofun, nofun⟩)
      | notifying =>
          rw [queryComplete, if_neg (not_not_intro rfl), hstate]
          exact .inr (.inl ⟨nofun, nofun⟩)
      | _ =>
          left
          rw [queryComplete, if_neg (not_not_intro rfl), hstate]
          exact hstate

/-- The results of a query are characteristics of the peer. -/
theorem answers_result {peer : ℕ → Database} {w : World} {handle : UInt16} {c : Characteristic}
    {id : ℕ} (h : Answers peer w (.result handle c))
    (hl : w.stack.links handle = some ⟨id, some (.discover c.uuid128)⟩) : c.valueHandle ≠ 0 := by
  unfold Answers at h
  dsimp only at h
  rw [hl] at h
  have hmem : c ∈ (peer id).matching c.uuid128 := h.subset (by simp)
  exact (peer id).handle_ne c (List.mem_filter.mp hmem).1

/-- A query completes with success, when all its results were given. -/
theorem answers_complete {peer : ℕ → Database} {w : World} {handle : UInt16} {att : UInt8} {id : ℕ}
    {uuid : Octets} (h : Answers peer w (.complete handle att))
    (hl : w.stack.links handle = some ⟨id, some (.discover uuid)⟩) :
    att = 0 ∧ resultsOf id w.trace = (peer id).matching uuid := by
  unfold Answers at h
  dsimp only at h
  rw [hl] at h
  exact h

section step

variable {peer : ℕ → Database} {i : ℕ} {w w' : World} {qs : List Octets}

/-- A connection that runs an operation is the one of the discovery. -/
theorem DiscoveryInv.own {handle : UInt16} {id : ℕ} {op : Op} (h : DiscoveryInv peer i w qs)
    (hl : w.stack.links handle = some ⟨id, some op⟩) : handle = w.vars.connHandle ∧ id = i := by
  have hown := h.alone handle _ hl (Option.some_ne_none op)
  obtain ⟨op', hcur, -⟩ := h.phase
  rw [Machine.current, client_handle, ← hown, hl] at hcur
  exact ⟨hown, congrArg Link.id (Option.some.inj hcur)⟩

/-- A result keeps the invariant: afterwards the first empty slot is filled. -/
theorem DiscoveryInv.result {handle : UInt16} {c : Characteristic} (h : DiscoveryInv peer i w qs)
    (hC : Answers peer w (.result handle c)) (hstep : w.step (.result handle c) = some w') :
    DiscoveryInv peer i w' qs ∧ seenSince Obs.query w.trace w'.trace = [] := by
  obtain ⟨id, hl, rfl⟩ := step_result hstep
  obtain ⟨-, rfl⟩ := h.own hl
  obtain ⟨hstate, ⟨op, hcur, hphase⟩, halone⟩ := h
  obtain ⟨hstate', hhandle, hin, hcmd⟩ := storeCharacteristic_filled (b := w.vars)
    (answers_result hC hl)
  have hent : ¬((storeCharacteristic c w.vars).appState = .pairing ∧
      (w.emit (.result id c.uuid128 c)).vars.appState ≠ .pairing) := by
    rw [hstate', hstate]
    exact fun h => nomatch h.1
  rw [show gattClientHandler (.characteristicQueryResult c) w.vars =
    (storeCharacteristic c w.vars, []) from rfl, deliver_of_not_entered hent]
  have hresults : resultsOf id (w.emit (.result id c.uuid128 c)).trace =
      resultsOf id w.trace ++ [c] := by
    rw [Machine.emit_trace, resultsOf_snoc rfl]
    simp [Obs.resultOn]
  refine ⟨⟨hstate'.trans hstate, ⟨op, ?_, ?_⟩, fun handle' l hl' hop => ?_⟩, seenSince_append _⟩
  · rw [← hcur]
    exact congrArg w.stack.links hhandle
  · cases hphase with
    | input hin' =>
        refine .input (fun _ => hin) fun htwo => hcmd (hin' fun hnone => ?_)
        -- the second result of the query
        change 2 ≤ (resultsOf id (w.emit (.result id c.uuid128 c)).trace).length at htwo
        rw [hresults, hnone] at htwo
        exact absurd htwo (Nat.not_succ_le_self 1)
    | cmd hdb hin' => exact .cmd hdb hin fun _ => hcmd hin'
  · exact (halone handle' l hl' hop).trans hhandle.symm

/-- A query is accepted when an operation of the connection completes. -/
theorem queried {op : Op} {uuid : Octets} (att : UInt8)
    (hstate : w.vars.appState = .charDiscovering)
    (hw' : w' = (w.completed w.vars.connHandle i op
      att).deliver (w.vars, [query w.vars uuid])) :
    w'.vars = w.vars ∧ w'.current = some ⟨i, some (.discover uuid)⟩ ∧
      (∀ handle ≠ w.vars.connHandle, w'.stack.links handle = w.stack.links handle) ∧
      w'.trace.drop w.trace.length =
        [.completed i op att, .called (query w.vars uuid) (some i) true] ∧
      seenSince Obs.query w.trace w'.trace = [uuid] ∧ resultsOf i w'.trace = [] := by
  have hl : (w.completed w.vars.connHandle i op att).stack.links w.vars.connHandle =
      some ⟨i, none⟩ := Machine.current_completed_own rfl
  obtain ⟨hcur, hothers, htrace⟩ := deliver_query uuid hstate hl
  rw [← hw'] at hcur hothers htrace
  have hnew : w'.trace = w.trace ++ [.completed i op att,
      .called (query w.vars uuid) (some i) true] :=
    htrace.trans (List.append_assoc w.trace _ _)
  refine ⟨by rw [hw', Machine.deliver_vars], hcur, fun handle hne => ?_,
    by rw [hnew, List.drop_left], ?_, ?_⟩
  · rw [hothers handle hne, Machine.completed_links_of_ne hne]
  · rw [hnew, seenSince_append]
    rfl
  · rw [htrace]
    exact resultsOf_started (by simp [Obs.startsQuery, query])

/-- An operation that did not succeed ends the connection. -/
theorem disconnects_of_failed {handle : UInt16} {att : UInt8} {id : ℕ} {op : Op}
    (hstate : w.vars.appState = .charDiscovering) (hatt : att ≠ 0)
    (hw' : w' = (w.completed handle id op att).deliver
      (gattClientHandler (.queryComplete att) w.vars)) :
    ∃ o ∈ w'.trace.drop w.trace.length, o.isDisconnect = true := by
  have hcalls : gattClientHandler (.queryComplete att) w.vars =
      (w.vars, [.gapDisconnect w.vars.connHandle]) := if_pos hatt
  have hent : ¬(w.vars.appState = .pairing ∧
      (w.completed handle id op att).vars.appState ≠ .pairing) := by
    rw [hstate]
    exact fun h => nomatch h.1
  rw [hcalls, deliver_one hent] at hw'
  have hperform := Machine.perform_of_starts_none
    (w := { w.completed handle id op att with vars := w.vars })
    (c := .gapDisconnect w.vars.connHandle) rfl
  obtain ⟨link, hnew⟩ : ∃ link, w'.trace = w.trace ++ [.completed id op att,
      .called (.gapDisconnect w.vars.connHandle) link true] := by
    rw [hw', hperform]
    exact ⟨_, List.append_assoc w.trace _ _⟩
  refine ⟨.called (.gapDisconnect w.vars.connHandle) link true, ?_, rfl⟩
  rw [hnew, List.drop_left]
  simp

/-- The query of the connection completes: the next one is for a slot that is empty. -/
theorem DiscoveryInv.completeOwn (hdb : (peer i).Suffices) (h : DiscoveryInv peer i w qs) {op : Op}
    (hcur : w.current = some ⟨i, some op⟩)
    (hC : Answers peer w (.complete w.vars.connHandle 0))
    (hw' : w' = (w.completed w.vars.connHandle i op 0).deliver (queryComplete 0 w.vars))
    (hstate' : w'.vars.appState = .charDiscovering) :
    DiscoveryInv peer i w' (qs ++ seenSince Obs.query w.trace w'.trace) := by
  obtain ⟨hstate, ⟨op', hop', hphase⟩, halone⟩ := h
  obtain rfl : op' = op := by simpa using hop'.symm.trans hcur
  rcases queryComplete_discovering hstate with ⟨hin, -⟩ | ⟨hin, hcmd, hq⟩ | ⟨-, hpairing, -⟩
  · -- the slot of the input report is filled by then
    cases hphase with
    | input hfilled =>
        have hall := (answers_complete hC hcur).2
        exact absurd hin (hfilled (hall ▸ hdb.1))
    | cmd _ hin' => exact absurd hin hin'
  · rw [hq] at hw'
    obtain ⟨hbridge, hnext, hothers, -, hseen, hresults⟩ := queried 0 hstate hw'
    have hin' : w'.vars.inputReportChar.valueHandle ≠ 0 := by rwa [hbridge]
    cases hphase with
    | input _ hfilled =>
        rw [hseen]
        have hall := (answers_complete hC hcur).2
        have hcommand : (peer i).matching uuidCommandWrite ≠ [] :=
          hdb.2.resolve_right fun htwo => hfilled (hall ▸ htwo) hcmd
        refine ⟨hstate', ⟨_, hnext, .cmd hcommand hin' fun hne => absurd hresults hne⟩, ?_⟩
        intro handle l hl hop
        rw [hbridge]
        by_contra hne
        rw [hothers handle hne] at hl
        exact hne (halone handle l hl hop)
    | cmd hcommand _ hfilled =>
        have hall := (answers_complete hC hcur).2
        exact absurd hcmd (hfilled (hall ▸ hcommand))
  · rw [hw', Machine.deliver_vars] at hstate'
    exact absurd (hpairing.symm.trans hstate') (by decide)

/-- With a sufficient database of the peer, a completion keeps the invariant. -/
theorem DiscoveryInv.complete (hdb : (peer i).Suffices) {handle : UInt16} {att : UInt8}
    (h : DiscoveryInv peer i w qs) (hC : Answers peer w (.complete handle att))
    (hstep : w.step (.complete handle att) = some w')
    (hstate' : w'.vars.appState = .charDiscovering)
    (hno : ∀ o ∈ w'.trace.drop w.trace.length, o.isDisconnect = false) :
    DiscoveryInv peer i w' (qs ++ seenSince Obs.query w.trace w'.trace) := by
  obtain ⟨id, op', hl, hw'⟩ := step_complete hstep
  by_cases hatt : att = 0
  · subst hatt
    obtain ⟨rfl, rfl⟩ := h.own hl
    exact h.completeOwn hdb hl hC hw' hstate'
  · obtain ⟨o, ho, hdisc⟩ := disconnects_of_failed h.state hatt hw'
    rw [hno o ho] at hdisc
    cases hdisc

/-- An event that the bridge does not look at. -/
theorem DiscoveryInv.same (h : DiscoveryInv peer i w qs) (hw' : w' = w.deliver (w.vars, [])) :
    DiscoveryInv peer i w' (qs ++ seenSince Obs.query w.trace w'.trace) := by
  have heq : w' = w := by
    rw [hw', deliver_of_not_entered fun he => he.2 he.1]
    rfl
  rw [heq, seenSince_self, List.append_nil]
  exact h

/-- With a sufficient database of the peer, a step of the discovery keeps the invariant. -/
theorem DiscoveryInv.step (hdb : (peer i).Suffices) {e : Event} (h : DiscoveryInv peer i w qs)
    (hC : Answers peer w e) (hstep : w.step e = some w')
    (hstate' : w'.vars.appState = .charDiscovering)
    (hno : ∀ o ∈ w'.trace.drop w.trace.length, o.isDisconnect = false) :
    DiscoveryInv peer i w' (qs ++ seenSince Obs.query w.trace w'.trace) := by
  have hwait : w.vars.appState ≠ .waitEncryption := by
    rw [h.state]
    decide
  cases e with
  | state working =>
      cases working with
      | false => exact h.same (Option.some.inj hstep).symm
      | true =>
          cases hstep
          rw [Machine.deliver_vars] at hstate'
          cases hstate'
  | advertising addr addrType data =>
      have hcalls : packetHandler (.advertisingReport addr addrType data) w.vars =
          (w.vars, []) := by
        refine if_neg fun hscan => ?_
        rw [h.state] at hscan
        cases hscan.1
      rw [World.step, hcalls] at hstep
      exact h.same (Option.some.inj hstep).symm
  | connection status handle =>
      rcases step_connection hstep with ⟨hstatus, rfl⟩ | ⟨hstatus, -, rfl⟩
      · rw [Machine.deliver_vars] at hstate'
        unfold packetHandler at hstate'
        dsimp only at hstate'
        rw [if_pos hstatus] at hstate'
        cases hstate'
      · rw [Machine.deliver_vars] at hstate'
        unfold packetHandler at hstate'
        dsimp only at hstate'
        rw [if_neg (not_not_intro hstatus)] at hstate'
        cases hstate'
  | disconnection handle =>
      obtain ⟨link, -, rfl⟩ := step_disconnection hstep
      rw [Machine.deliver_vars] at hstate'
      cases hstate'
  | encryption status =>
      have hcalls : packetHandler (.encryptionChange status) w.vars = (w.vars, []) :=
        if_neg hwait
      rw [World.step, hcalls] at hstep
      exact h.same (Option.some.inj hstep).symm
  | numericComparison handle =>
      have hperform := Machine.perform_of_starts_none (w := w)
        (c := .smNumericComparisonConfirm handle) rfl
      have hw' : w' = w.emit (.called (.smNumericComparisonConfirm handle)
          (w.stack.number handle) true) := by
        refine Eq.trans ?_ hperform
        refine (Option.some.inj hstep).symm.trans ?_
        exact deliver_of_not_entered fun he => he.2 he.1
      rw [hw', Machine.emit_trace, seenSince_append]
      exact (List.append_nil qs).symm ▸ h.emit rfl rfl
  | justWorks handle =>
      cases hstep
      rw [Machine.deliver_vars] at hstate'
      cases hstate'
  | pairing status =>
      have hcalls : smPacketHandler (.pairingComplete status) w.vars = (w.vars, []) :=
        if_neg hwait
      rw [World.step, hcalls] at hstep
      exact h.same (Option.some.inj hstep).symm
  | result handle c =>
      obtain ⟨hinv, hseen⟩ := h.result hC hstep
      rw [hseen, List.append_nil]
      exact hinv
  | complete handle att => exact h.complete hdb hC hstep hstate' hno

/-- The discovery is entered only after the encryption was waited for. -/
theorem entered_discovery {e : Event} (hstep : w.step e = some w')
    (hstate : w.vars.appState ≠ .charDiscovering)
    (hstate' : w'.vars.appState = .charDiscovering) :
    w.vars.appState = .waitEncryption ∧ w' = w.deliver (startDiscovery w.vars) := by
  rw [step_bridge hstep] at hstate'
  rcases handler_appState e w.vars with hsame | ⟨hne, -⟩ | ⟨hwait, hevent⟩ | ⟨hstate'', -⟩
  · exact absurd (hsame.symm.trans hstate') hstate
  · exact absurd hstate' hne
  · rcases hevent with ⟨status, rfl⟩ | ⟨status, rfl⟩
    · exact ⟨hwait, (Option.some.inj hstep).symm⟩
    · exact ⟨hwait, (Option.some.inj hstep).symm⟩
  · exact absurd hstate'' hstate

/-- It starts with its first query, where no operation runs. -/
theorem DiscoveryInv.enter {e : Event} (hstep : w.step e = some w')
    (hstate : w.vars.appState ≠ .charDiscovering)
    (hstate' : w'.vars.appState = .charDiscovering)
    (hlink : w'.stack.number w'.vars.connHandle = some i) (hidle : w.stack.Idle) :
    DiscoveryInv peer i w' (seenSince Obs.query w.trace w'.trace) := by
  obtain ⟨hwait, hw'⟩ := entered_discovery hstep hstate hstate'
  have hnumber := (Machine.deliver_sameNumbers w (startDiscovery w.vars)).2 w'.vars.connHandle
  rw [← hw', hlink] at hnumber
  obtain ⟨b, hb, hcd, -⟩ := startDiscovery_eq hwait
  rw [hb] at hw'
  have hbridge : w'.vars = b := by rw [hw', Machine.deliver_vars]
  rw [hbridge] at hnumber
  obtain ⟨⟨id, op⟩, hl, rfl⟩ := Option.map_eq_some_iff.mp hnumber.symm
  obtain rfl : op = none := hidle _ _ hl
  obtain ⟨hcur, hothers, htrace⟩ := deliver_query uuidInputReport hcd hl
  rw [← hw'] at hcur hothers htrace
  have hresults : resultsOf id w'.trace = [] := by
    rw [htrace]
    exact resultsOf_started (by simp [Obs.startsQuery, query])
  refine ⟨hstate', ⟨.discover uuidInputReport, hcur, ?_⟩, fun handle l hl' hop => ?_⟩
  · have hseen : seenSince Obs.query w.trace w'.trace = [uuidInputReport] := by
      rw [htrace, seenSince_append]
      rfl
    rw [hseen]
    refine .input (fun hne => absurd hresults hne) fun htwo => ?_
    rw [hresults] at htwo
    exact absurd htwo (by decide)
  · rw [hbridge]
    by_contra hne
    rw [hothers handle hne] at hl'
    exact hop (hidle handle l hl')

/-- What the invariant says of the end of the discovery. -/
theorem DiscoveryInv.ends (h : DiscoveryInv peer i w qs) : Ends w qs := by
  obtain ⟨hstate, ⟨op, hcur, hphase⟩, -⟩ := h
  have hqs : qs = [uuidInputReport] ∨ qs = [uuidInputReport, uuidCommandWrite] := by
    cases hphase with
    | input => exact .inl rfl
    | cmd => exact .inr rfl
  refine ⟨?_, ?_, ?_, ?_, ?_⟩
  · rcases hqs with rfl | rfl <;> decide
  · rcases hqs with rfl | rfl <;> decide
  · rcases hqs with rfl | rfl <;> simp
  · intro l hl
    rw [hcur] at hl
    rw [← Option.some.inj hl]
    exact Option.some_ne_none op
  · intro e w' hstep hpairing
    rw [step_bridge hstep] at hpairing ⊢
    rcases handler_appState e w.vars with hsame | ⟨-, hne⟩ | ⟨hwait, -⟩ | ⟨-, -, hfound⟩
    · rw [hsame, hstate] at hpairing
      cases hpairing
    · exact absurd hpairing hne
    · rw [hstate] at hwait
      cases hwait
    · exact hfound

end step

/-- Every discovery of a peer with a sufficient database ends, if no operation ran before it. -/
theorem Discovering.ends {peer : ℕ → Database} {i : ℕ} {w : World} {qs : List Octets}
    (hdb : (peer i).Suffices) (h : Discovering Stack.Idle peer i w qs) : Ends w qs := by
  have hinv : DiscoveryInv peer i w qs := by
    induction h with
    | enter _ _ hstep hstate hstate' hlink hidle =>
        exact DiscoveryInv.enter hstep hstate hstate' hlink hidle
    | step _ hC hstep hstate' hno ih => exact ih.step hdb hC hstep hstate' hno
  exact hinv.ends

/-! ## A peer that lacks a characteristic -/

/-- A connection that comes or goes starts no operation. -/
theorem connection_op (b : Globals) :
    ∀ c ∈ (packetHandler (.leConnectionComplete 0 0x40) b).2, c.op = none := by
  intro c hc
  obtain rfl : c = .smRequestPairing 0x40 := List.mem_singleton.mp hc
  rfl

theorem disconnection_op (b : Globals) :
    ∀ c ∈ (packetHandler .disconnectionComplete b).2, c.op = none := by
  intro c hc
  rcases List.mem_pair.mp hc with rfl | rfl
  · rfl
  · rfl

section lacking

variable {Entry : Stack Op → Prop} {peer : ℕ → Database} {i : ℕ} {w : World} {uuid : Octets}
  {rs : List Characteristic}

/-- A connection is made, the only one. -/
theorem run_connected (hrun : Run (Answers peer) w) (hfree : w.stack.links = fun _ => none) :
    ∃ w', Run (Answers peer) w' ∧ w'.vars.connHandle = 0x40 ∧
      w'.stack.count = w.stack.count + 1 ∧
      w'.stack.links = Function.update (fun _ => none) 0x40 (some ⟨w.stack.count, none⟩) := by
  have hstep : w.step (.connection 0 0x40) = some ((w.openLink 0x40).deliver
      (packetHandler (.leConnectionComplete 0 0x40) w.vars)) := by
    simp [World.step, hfree]
  have hstack := Machine.deliver_stack (w.openLink 0x40) (connection_op w.vars)
  refine ⟨_, hrun.step (e := .connection 0 0x40) trivial hstep,
    by rw [Machine.deliver_vars]; rfl, ?_, ?_⟩
  · rw [hstack]
    rfl
  · rw [hstack, ← hfree]
    rfl

/-- A world with nothing connected, after `i` connections. -/
theorem run_free (peer : ℕ → Database) (i : ℕ) :
    ∃ w, Run (Answers peer) w ∧ w.stack.count = i ∧ w.stack.links = fun _ => none := by
  induction i with
  | zero => exact ⟨_, .init, rfl, rfl⟩
  | succ i ih =>
      obtain ⟨w, hrun, hcount, hfree⟩ := ih
      obtain ⟨v, hrun', -, hcount', hl⟩ := run_connected hrun hfree
      have hstep : v.step (.disconnection 0x40) =
          some (((v.setLink 0x40 none).emit (.disconnected w.stack.count)).deliver
            (packetHandler .disconnectionComplete v.vars)) := by
        simp [World.step, hl]
      have hstack := Machine.deliver_stack
        ((v.setLink 0x40 none).emit (.disconnected w.stack.count)) (disconnection_op v.vars)
      refine ⟨_, hrun'.step (e := .disconnection 0x40) trivial hstep, ?_, ?_⟩
      · rw [hstack, ← hcount]
        exact hcount'
      · rw [hstack, Machine.emit_stack, Machine.setLink_stack, Stack.setLink, hl]
        exact Function.update_idem .. |>.trans (Function.update_eq_self (f := fun _ => none) 0x40)

/-- The connection in `conn_handle` runs a query, and some results were given. -/
structure Querying (peer : ℕ → Database) (i : ℕ) (w : World) (uuid : Octets)
    (rs : List Characteristic) : Prop where
  run : Run (Answers peer) w
  current : w.current = some ⟨i, some (.discover uuid)⟩
  results : resultsOf i w.trace = rs

/-- The encryption is waited for, at any time. -/
theorem run_waiting (hrun : Run (Answers peer) w) :
    ∃ w', Run (Answers peer) w' ∧ w'.vars.appState = .waitEncryption ∧ w'.stack = w.stack ∧
      w'.current = w.current ∧ resultsOf i w'.trace = resultsOf i w.trace := by
  have hperform := Machine.perform_of_starts_none
    (w := { w with vars := { w.vars with appState := .waitEncryption } })
    (c := .smJustWorksConfirm w.vars.connHandle) rfl
  have hstep : w.step (.justWorks w.vars.connHandle) = some (Machine.emit
      (.called (.smJustWorksConfirm w.vars.connHandle) (w.stack.number w.vars.connHandle) true)
      { w with vars := { w.vars with appState := .waitEncryption } }) :=
    congrArg some ((deliver_one fun he => by cases he.1).trans hperform)
  refine ⟨_, hrun.step (e := .justWorks w.vars.connHandle) trivial hstep, rfl, rfl, rfl, ?_⟩
  rw [Machine.emit_trace, resultsOf_snoc rfl]
  exact List.append_nil _

/-- A discovery starts on the only connection, which runs no operation. -/
theorem querying_start (peer : ℕ → Database) (i : ℕ) :
    ∃ w, Querying peer i w uuidInputReport [] ∧
      Discovering Stack.Idle peer i w [uuidInputReport] ∧
      w.vars.appState = .charDiscovering ∧ w.vars.inputReportChar = .zero ∧
      w.vars.cmdWriteChar = .zero := by
  obtain ⟨w₀, hrun₀, rfl, hfree⟩ := run_free peer i
  obtain ⟨w₁, hrun₁, hhandle, -, hlinks⟩ := run_connected hrun₀ hfree
  have hcur₁ : w₁.current = some ⟨w₀.stack.count, none⟩ := by
    rw [Machine.current, client_handle, hhandle, hlinks]
    exact Function.update_self ..
  obtain ⟨w, hrun, hwait, hstack, hcur, -⟩ := run_waiting (i := w₀.stack.count) hrun₁
  rw [hcur₁] at hcur
  have hidle : w.stack.Idle := by
    intro handle l hl
    rw [hstack, hlinks, Function.update_apply] at hl
    split at hl
    · exact congrArg Link.op (Option.some.inj hl).symm
    · cases hl
  obtain ⟨b, hb, hcd, hconn, hin, hcmd⟩ := startDiscovery_eq hwait
  have hl' : w.stack.links b.connHandle = some ⟨w₀.stack.count, none⟩ := by
    rw [hconn]
    exact hcur
  obtain ⟨hcur', -, htrace⟩ := deliver_query uuidInputReport hcd hl'
  rw [← hb] at hcur' htrace
  have hstep : w.step (.pairing 0) = some (w.deliver (startDiscovery w.vars)) := rfl
  have hcd' : (w.deliver (startDiscovery w.vars)).vars.appState = .charDiscovering := by
    rw [Machine.deliver_vars, hb]
    exact hcd
  have hdiscovering := Discovering.enter (e := .pairing 0) hrun trivial hstep
    (by rw [hwait]; decide)
    hcd' (congrArg (Option.map Link.id) hcur') hidle
  rw [htrace, seenSince_append] at hdiscovering
  refine ⟨_, ⟨hrun.step (e := .pairing 0) trivial hstep, hcur', ?_⟩, hdiscovering, hcd', ?_, ?_⟩
  · rw [htrace]
    exact resultsOf_started (by simp [Obs.startsQuery, query])
  · rw [Machine.deliver_vars, hb]
    exact hin
  · rw [Machine.deliver_vars, hb]
    exact hcmd

/-- One more result. -/
theorem querying_result (h : Querying peer i w uuid rs)
    (hcd : w.vars.appState = .charDiscovering) {c : Characteristic}
    (hc : rs ++ [c] <+: (peer i).matching uuid) :
    ∃ w', Querying peer i w' uuid (rs ++ [c]) ∧ w'.vars = storeCharacteristic c w.vars ∧
      ∀ Entry qs, Discovering Entry peer i w qs → Discovering Entry peer i w' qs := by
  obtain ⟨hrun, hcur, hresults⟩ := h
  have hl : w.stack.links w.vars.connHandle = some ⟨i, some (.discover uuid)⟩ := hcur
  have hmem : c ∈ (peer i).matching uuid := hc.subset (by simp)
  have huuid : c.uuid128 = uuid := of_decide_eq_true (List.mem_filter.mp hmem).2
  have hne := (peer i).handle_ne c (List.mem_filter.mp hmem).1
  obtain ⟨hstate', hhandle, -⟩ := storeCharacteristic_filled (b := w.vars) hne
  have hdeliver : (w.emit (.result i uuid c)).deliver (storeCharacteristic c w.vars, []) =
      { w.emit (.result i uuid c) with vars := storeCharacteristic c w.vars } := by
    refine deliver_of_not_entered fun he => ?_
    rw [hstate', hcd] at he
    cases he.1
  have hstep : w.step (.result w.vars.connHandle c) = some
      { w.emit (.result i uuid c) with vars := storeCharacteristic c w.vars } := by
    rw [← hdeliver]
    simp only [World.step, hl, huuid, if_true]
    rfl
  have hC : Answers peer w (.result w.vars.connHandle c) := by
    unfold Answers
    dsimp only
    rw [hl]
    dsimp only
    rw [hresults]
    exact hc
  refine ⟨_, ⟨hrun.step hC hstep, ?_, ?_⟩, rfl, fun Entry qs hqs => ?_⟩
  · rw [← hcur]
    exact congrArg w.stack.links hhandle
  · rw [Machine.emit_trace, resultsOf_snoc rfl, hresults]
    simp [Obs.resultOn]
  · have hnext := hqs.step hC hstep (hstate'.trans hcd) (by
      rw [Machine.emit_trace, List.drop_left]
      simp [Obs.isDisconnect])
    rw [Machine.emit_trace, seenSince_append] at hnext
    exact (List.append_nil qs) ▸ hnext

/-- The pairing starts anew while a query runs: the discovery is entered with empty slots, and its
first query rejected. -/
theorem querying_restart (h : Querying peer i w uuid rs) :
    ∃ w', Querying peer i w' uuid rs ∧
      Discovering (fun _ => True) peer i w' [uuidInputReport] ∧
      w'.vars.appState = .charDiscovering ∧ w'.vars.inputReportChar = .zero := by
  obtain ⟨w₁, hrun, hwait, -, hcur, hresults⟩ := run_waiting (i := i) h.run
  rw [h.current] at hcur
  rw [h.results] at hresults
  obtain ⟨b, hb, hcd, hconn, hin, -⟩ := startDiscovery_eq hwait
  have hl : w₁.stack.links b.connHandle = some ⟨i, some (.discover uuid)⟩ := by
    rw [hconn]
    exact hcur
  have hstep : w₁.step (.pairing 0) = some (Machine.emit (.called (query b uuidInputReport) (some i)
      false) { w₁ with vars := b }) := by
    rw [← deliver_query_busy uuidInputReport hcd hl, ← hb]
    rfl
  have hdiscovering : Discovering (fun _ => True) peer i _ _ :=
    Discovering.enter (e := .pairing 0) hrun trivial hstep (by rw [hwait]; decide) hcd
      (congrArg (Option.map Link.id) hl) trivial
  rw [Machine.emit_trace, seenSince_append] at hdiscovering
  refine ⟨_, ⟨hrun.step (e := .pairing 0) trivial hstep, hl, ?_⟩, hdiscovering, hcd, hin⟩
  rw [Machine.emit_trace, resultsOf_snoc rfl, hresults]
  exact List.append_nil rs

/-- A query completes, and the next one is accepted. -/
theorem querying_complete (h : Querying peer i w uuid ((peer i).matching uuid))
    (hcd : w.vars.appState = .charDiscovering) {uuid' : Octets}
    (hq : queryComplete 0 w.vars = (w.vars, [query w.vars uuid'])) {qs : List Octets}
    (hqs : Discovering Entry peer i w qs) :
    ∃ w', Querying peer i w' uuid' [] ∧ Discovering Entry peer i w' (qs ++ [uuid']) ∧
      w'.vars = w.vars := by
  have hl : w.stack.links w.vars.connHandle = some ⟨i, some (.discover uuid)⟩ := h.current
  have hstep : w.step (.complete w.vars.connHandle 0) = some
      ((w.completed w.vars.connHandle i (.discover uuid) 0).deliver
        (w.vars, [query w.vars uuid'])) := by
    rw [← hq]
    simp only [World.step, hl]
    rfl
  have hC : Answers peer w (.complete w.vars.connHandle 0) := by
    unfold Answers
    dsimp only
    rw [hl]
    exact ⟨rfl, h.results⟩
  obtain ⟨hbridge, hcur, -, hnew, hseen, hresults⟩ :=
    queried 0 hcd (rfl : _ = (w.completed w.vars.connHandle i (.discover uuid) 0).deliver
      (w.vars, [query w.vars uuid']))
  have hnext := hqs.step hC hstep (by rw [hbridge]; exact hcd) (by
    rw [hnew]
    simp [Obs.isDisconnect, query])
  rw [hseen] at hnext
  exact ⟨_, ⟨h.run.step hC hstep, hcur, hresults⟩, hnext, hbridge⟩

/-- A completion with an empty slot of the input report. -/
theorem queryComplete_input {b : Globals} (hcd : b.appState = .charDiscovering)
    (hin : b.inputReportChar = .zero) : queryComplete 0 b = (b, [query b uuidInputReport]) := by
  rcases queryComplete_discovering hcd with ⟨-, hq⟩ | ⟨hne, -⟩ | ⟨hfound, -⟩
  · exact hq
  · exact absurd (by rw [hin]; rfl) hne
  · exact absurd (by rw [hin]; rfl) hfound.1

/-- A peer without an input report is asked for it again and again. -/
theorem repeats_input (h : (peer i).matching uuidInputReport = []) :
    ∃ w, Discovering Stack.Idle peer i w [uuidInputReport, uuidInputReport] := by
  obtain ⟨w, hq, hd, hcd, hin, -⟩ := querying_start peer i
  rw [← h] at hq
  obtain ⟨w', -, hd', -⟩ := querying_complete hq hcd (queryComplete_input hcd hin) hd
  exact ⟨w', hd'⟩

/-- A peer with one input report and no command write is asked for the latter again and again. -/
theorem repeats_command {c : Characteristic} (hinput : (peer i).matching uuidInputReport = [c])
    (h : (peer i).matching uuidCommandWrite = []) :
    ∃ w, Discovering Stack.Idle peer i w
      [uuidInputReport, uuidCommandWrite, uuidCommandWrite] := by
  have hc : c ∈ (peer i).matching uuidInputReport := by
    rw [hinput]
    exact List.mem_singleton.mpr rfl
  have hne := (peer i).handle_ne c (List.mem_filter.mp hc).1
  obtain ⟨w₁, hq₁, hd₁, hcd₁, hin₁, hcmd₁⟩ := querying_start peer i
  obtain ⟨w₂, hq₂, hbridge₂, hd₂⟩ := querying_result hq₁ hcd₁ (c := c) (by rw [hinput]; rfl)
  -- the result is in the first slot, and the second one stays empty
  have hstore : storeCharacteristic c w₁.vars = { w₁.vars with inputReportChar := c } :=
    if_pos (by rw [hin₁]; rfl)
  have hcd₂ : w₂.vars.appState = .charDiscovering := by
    rw [hbridge₂, hstore]
    exact hcd₁
  have hcomplete : queryComplete 0 w₂.vars = (w₂.vars, [query w₂.vars uuidCommandWrite]) := by
    rcases queryComplete_discovering hcd₂ with ⟨hzero, -⟩ | ⟨-, -, hq⟩ | ⟨hfound, -⟩
    · rw [hbridge₂, hstore] at hzero
      exact absurd hzero hne
    · exact hq
    · rw [hbridge₂, hstore] at hfound
      exact absurd (by rw [hcmd₁]; rfl) hfound.2
  rw [List.nil_append, ← hinput] at hq₂
  obtain ⟨w₃, hq₃, hd₃, hbridge₃⟩ := querying_complete hq₂ hcd₂ hcomplete (hd₂ _ _ hd₁)
  rw [← h] at hq₃
  rw [← hbridge₃] at hcd₂ hcomplete
  obtain ⟨w₄, -, hd₄, -⟩ := querying_complete hq₃ hcd₂ hcomplete hd₃
  exact ⟨w₄, hd₄⟩

/-- The results of the first query, as far as they are wanted. -/
theorem querying_results {rs : List Characteristic} (h : rs <+: (peer i).matching uuidInputReport) :
    ∃ w, Querying peer i w uuidInputReport rs ∧ w.vars.appState = .charDiscovering := by
  induction rs using List.reverseRecOn with
  | nil =>
      obtain ⟨w, hq, -, hcd, -⟩ := querying_start peer i
      exact ⟨w, hq, hcd⟩
  | append_singleton rs c ih =>
      obtain ⟨w, hq, hcd⟩ := ih ((List.prefix_append rs [c]).trans h)
      obtain ⟨w', hq', hbridge, -⟩ := querying_result hq hcd h
      refine ⟨w', hq', ?_⟩
      rw [hbridge]
      unfold storeCharacteristic
      split_ifs <;> exact hcd

/-- Any peer is asked for the input report twice, where the pairing starts anew behind the last
result of the first query: its completion is taken for that of the second one. -/
theorem repeats_restarted (peer : ℕ → Database) (i : ℕ) :
    ∃ w, Discovering (fun _ => True) peer i w [uuidInputReport, uuidInputReport] := by
  obtain ⟨w₁, hq₁, -⟩ := querying_results (List.prefix_refl ((peer i).matching uuidInputReport))
  obtain ⟨w₂, hq₂, hd₂, hcd₂, hin₂⟩ := querying_restart hq₁
  obtain ⟨w₃, -, hd₃, -⟩ := querying_complete hq₂ hcd₂ (queryComplete_input hcd₂ hin₂) hd₂
  exact ⟨w₃, hd₃⟩

end lacking

/-- **Discovery ends** in every run with a peer iff its database suffices, where no operation runs
when it is entered: a query for a missing characteristic is made again each time it completes. Where
an operation may still run, it ends with no peer: the first query is rejected, and made again when
that operation completes.
Source: `switch2_btstack_bridge.c` `gatt_client_handler` (`STATE_CHAR_DISCOVERING`) -/
theorem discoveryEnds_iff (peer : ℕ → Database) (i : ℕ) :
    ((∀ w qs, Discovering Stack.Idle peer i w qs → Ends w qs) ↔ (peer i).Suffices) ∧
      ¬∀ w qs, Discovering (fun _ => True) peer i w qs → Ends w qs := by
  refine ⟨⟨fun h => ?_, fun hdb w qs hd => hd.ends hdb⟩, fun h => ?_⟩
  · have hinput : (peer i).matching uuidInputReport ≠ [] := by
      intro hnone
      obtain ⟨w, hd⟩ := repeats_input hnone
      exact absurd (h w _ hd).once (by decide)
    refine ⟨hinput, ?_⟩
    by_contra hnot
    obtain ⟨hcommand, htwo⟩ := not_or.mp hnot
    obtain ⟨c, hone⟩ : ∃ c, (peer i).matching uuidInputReport = [c] := by
      refine List.length_eq_one_iff.mp ?_
      have hpos := List.length_pos_of_ne_nil hinput
      omega
    obtain ⟨w, hd⟩ := repeats_command hone (not_not.mp hcommand)
    exact absurd (h w _ hd).once (by decide)
  · obtain ⟨w, hd⟩ := repeats_restarted peer i
    exact absurd (h w _ hd).once (by decide)

/-- A peer without characteristics. -/
def noCharacteristics : Database := ⟨[], nofun⟩

theorem not_discoveryEnds :
    ¬∀ w qs, Discovering Stack.Idle (fun _ => noCharacteristics) 0 w qs → Ends w qs := by
  intro h
  obtain ⟨w, hd⟩ := @repeats_input (fun _ => noCharacteristics) 0 rfl
  exact absurd (h w _ hd).once (by decide)

end Switch2Bt.Bridge
