import Switch2Bt.Await.Trace
import Switch2Bt.Bridge.Model
import Switch2Bt.Gatt.Client

/-!
# The bridge on BTstack

The bridge is a program on a GATT client, BTstack. What it is promised is a step relation: a
connection runs at most one GATT operation; a call for a connection that runs one, or for none, has
no effect; the results of an operation come before its only completion, and neither after the
disconnection. Everything else may come at any time. `Run C` are the worlds reached by steps that
meet the condition `C`.
-/

namespace Switch2Bt.Bridge

open Await Octets Sw2d GattClient

/-! ## The program -/

/-- A GATT operation. -/
inductive Op where
  | discover (uuid : Octets)
  | write (valueHandle : UInt16) (payload : Octets)
  | configure (c : Characteristic)
deriving DecidableEq, Repr

/-- An observation. -/
inductive Obs where
  | connected (link : ℕ) (handle : UInt16)
  | disconnected (link : ℕ)
  /-- `app_state` became `STATE_PAIRING`: the characteristics, and the connection in
  `conn_handle`. -/
  | entered (input cmd : Characteristic) (link : Option ℕ)
  /-- A call: the live connection it names, if it names one, and whether it was accepted. -/
  | called (c : Call) (link : Option ℕ) (accepted : Bool)
  /-- A characteristic that a query for a UUID found. -/
  | result (link : ℕ) (uuid : Octets) (c : Characteristic)
  /-- The `QUERY_COMPLETE` of an operation. -/
  | completed (link : ℕ) (op : Op) (att : UInt8)
deriving DecidableEq, Repr

/-- The connection handle a call names. -/
def Call.handle : Call → Option UInt16
  | .gapDisconnect handle | .smRequestPairing handle | .smJustWorksConfirm handle
  | .smNumericComparisonConfirm handle | .discoverByUuid128 handle _ | .writeValue handle _ _
  | .writeConfiguration handle _ | .listenForUpdates handle _ => some handle
  | _ => none

/-- The operation a call starts. -/
def Call.op : Call → Option Op
  | .discoverByUuid128 _ uuid => some (.discover uuid)
  | .writeValue _ valueHandle payload => some (.write valueHandle payload)
  | .writeConfiguration _ c => some (.configure c)
  | _ => none

instance : Client Globals Call Op Obs where
  handle := Globals.connHandle
  names := Call.handle
  starts := Call.op
  connected := .connected
  called := .called
  completed := .completed
  changed b b' link :=
    if b'.appState = .pairing ∧ b.appState ≠ .pairing then
      some (.entered b'.inputReportChar b'.cmdWriteChar link)
    else none

@[simp] theorem client_handle (b : Globals) : Client.handle b = b.connHandle := rfl
@[simp] theorem client_called (c : Call) (link : Option ℕ) (accepted : Bool) :
    Client.called Globals c link accepted = Obs.called c link accepted := rfl
@[simp] theorem client_completed (id : ℕ) (op : Op) (att : UInt8) :
    Client.completed Globals id op att = Obs.completed id op att := rfl

/-- The bridge, BTstack, and what was observed so far. -/
abbrev World := Machine Globals Op Obs

def World.init : World := ⟨.init, .init, []⟩

/-- `STATE_PAIRING` is entered. -/
theorem assign_entered {w : World} {b : Globals}
    (h : b.appState = .pairing ∧ w.vars.appState ≠ .pairing) : w.assign b = Machine.emit
      (.entered b.inputReportChar b.cmdWriteChar (w.stack.number b.connHandle))
      { w with vars := b } := by
  have hchanged : Client.changed w.vars b (w.stack.number (Client.handle b)) =
      some (.entered b.inputReportChar b.cmdWriteChar (w.stack.number b.connHandle)) := if_pos h
  rw [Machine.assign, hchanged]

/-- The state is not entered anew. -/
theorem deliver_of_not_entered {w : World} {r : Globals × List Call}
    (h : ¬ (r.1.appState = .pairing ∧ w.vars.appState ≠ .pairing)) :
    w.deliver r = r.2.foldl Machine.perform { w with vars := r.1 } := by
  rw [Machine.deliver, Machine.assign_of_none (if_neg h)]

/-- A handler that makes one call, and does not enter the state anew. -/
theorem deliver_one {w : World} {b : Globals} {c : Call}
    (h : ¬ (b.appState = .pairing ∧ w.vars.appState ≠ .pairing)) :
    w.deliver (b, [c]) = Machine.perform { w with vars := b } c := deliver_of_not_entered h

/-! ## Steps -/

/-- What may happen next. -/
inductive Event where
  | state (working : Bool)
  | advertising (addr : Addr) (addrType : UInt8) (data : Octets)
  | connection (status : UInt8) (handle : UInt16)
  | disconnection (handle : UInt16)
  | encryption (status : UInt8)
  | numericComparison (handle : UInt16)
  | justWorks (handle : UInt16)
  | pairing (status : UInt8)
  /-- A result of the query that the connection of a handle runs. -/
  | result (handle : UInt16) (c : Characteristic)
  /-- The end of the operation that the connection of a handle runs. -/
  | complete (handle : UInt16) (att : UInt8)
deriving DecidableEq, Repr

/-- The world after an event; `none` if it cannot happen: a handle names one connection at a time,
and results and completions are those of a running operation. -/
def World.step (w : World) : Event → Option World
  | .state working => some (w.deliver (packetHandler (.btstackState working) w.vars))
  | .advertising addr addrType data =>
      some (w.deliver (packetHandler (.advertisingReport addr addrType data) w.vars))
  | .connection status handle =>
      if status ≠ 0 then
        some (w.deliver (packetHandler (.leConnectionComplete status handle) w.vars))
      else if (w.stack.links handle).isSome then none
      else some ((w.openLink handle).deliver
        (packetHandler (.leConnectionComplete status handle) w.vars))
  | .disconnection handle =>
      match w.stack.links handle with
      | none => none
      | some link => some (((w.setLink handle none).emit (.disconnected link.id)).deliver
          (packetHandler .disconnectionComplete w.vars))
  | .encryption status => some (w.deliver (packetHandler (.encryptionChange status) w.vars))
  | .numericComparison handle =>
      some (w.deliver (smPacketHandler (.numericComparisonRequest handle) w.vars))
  | .justWorks handle => some (w.deliver (smPacketHandler (.justWorksRequest handle) w.vars))
  | .pairing status => some (w.deliver (smPacketHandler (.pairingComplete status) w.vars))
  | .result handle c =>
      match w.stack.links handle with
      | some ⟨id, some (.discover uuid)⟩ =>
          if c.uuid128 = uuid then some ((w.emit (.result id uuid c)).deliver
            (gattClientHandler (.characteristicQueryResult c) w.vars))
          else none
      | _ => none
  | .complete handle att =>
      match w.stack.links handle with
      | some ⟨id, some op⟩ =>
          some ((w.completed handle id op att).deliver
            (gattClientHandler (.queryComplete att) w.vars))
      | _ => none

section step

variable {w w' : World} {handle : UInt16}

/-- A connection fails, or opens a link. -/
theorem step_connection {status : UInt8} (h : w.step (.connection status handle) = some w') :
    (status ≠ 0 ∧
      w' = w.deliver (packetHandler (.leConnectionComplete status handle) w.vars)) ∨
    (status = 0 ∧ w.stack.links handle = none ∧ w' = (w.openLink handle).deliver
      (packetHandler (.leConnectionComplete status handle) w.vars)) := by
  unfold World.step at h
  dsimp only at h
  split at h
  case isTrue hstatus => exact .inl ⟨hstatus, (Option.some.inj h).symm⟩
  case isFalse hstatus =>
    split at h
    · cases h
    case isFalse hfree =>
      have hnone : w.stack.links handle = none := by
        simpa using hfree
      exact .inr ⟨not_not.mp hstatus, hnone, (Option.some.inj h).symm⟩

/-- A disconnection closes a link. -/
theorem step_disconnection (h : w.step (.disconnection handle) = some w') :
    ∃ link, w.stack.links handle = some link ∧
      w' = ((w.setLink handle none).emit (.disconnected link.id)).deliver
        (packetHandler .disconnectionComplete w.vars) := by
  unfold World.step at h
  dsimp only at h
  split at h
  · cases h
  case h_2 link hlink => exact ⟨link, hlink, (Option.some.inj h).symm⟩

/-- A result is one of a running query, for its UUID. -/
theorem step_result {c : Characteristic} (h : w.step (.result handle c) = some w') :
    ∃ id, w.stack.links handle = some ⟨id, some (.discover c.uuid128)⟩ ∧
      w' = (w.emit (.result id c.uuid128 c)).deliver
        (gattClientHandler (.characteristicQueryResult c) w.vars) := by
  unfold World.step at h
  dsimp only at h
  split at h
  case h_1 id uuid hlink =>
    split at h
    case isTrue huuid =>
      subst huuid
      exact ⟨id, hlink, (Option.some.inj h).symm⟩
    case isFalse => cases h
  case h_2 => cases h

/-- A completion is one of a running operation. -/
theorem step_complete {att : UInt8} (h : w.step (.complete handle att) = some w') :
    ∃ id op, w.stack.links handle = some ⟨id, some op⟩ ∧
      w' = (w.completed handle id op att).deliver
        (gattClientHandler (.queryComplete att) w.vars) := by
  unfold World.step at h
  dsimp only at h
  split at h
  case h_1 id op hlink => exact ⟨id, op, hlink, (Option.some.inj h).symm⟩
  case h_2 => cases h

end step

/-- The worlds that runs reach whose steps all meet a condition on the world before and the
event. -/
abbrev Run : (World → Event → Prop) → World → Prop := Reached World.step .init

theorem step_numbered {w w' : World} {e : Event} (h : w.stack.Numbered)
    (hstep : w.step e = some w') : w'.stack.Numbered := by
  cases e with
  | connection status handle =>
      rcases step_connection hstep with ⟨-, rfl⟩ | ⟨-, -, rfl⟩
      · exact h.same (w.deliver_sameNumbers _)
      · exact h.openLink.same ((w.openLink handle).deliver_sameNumbers _)
  | disconnection handle =>
      obtain ⟨link, -, rfl⟩ := step_disconnection hstep
      exact h.closeLink.same (((w.setLink handle none).emit _).deliver_sameNumbers _)
  | result handle c =>
      obtain ⟨id, -, rfl⟩ := step_result hstep
      exact h.same ((w.emit _).deliver_sameNumbers _)
  | complete handle att =>
      obtain ⟨id, op, hlink, rfl⟩ := step_complete hstep
      have hsame := Stack.setLink_sameNumbers none hlink
      exact h.same (hsame.trans ((w.completed handle id op att).deliver_sameNumbers _))
  | _ =>
      cases hstep
      exact h.same (w.deliver_sameNumbers _)

theorem Run.numbered {C : World → Event → Prop} {w : World} (h : Run C w) : w.stack.Numbered := by
  induction h with
  | init => exact Stack.init_numbered
  | step _ _ hstep ih => exact step_numbered ih hstep

/-! ## A controller -/

/-- The characteristic of a UUID. -/
def charOf (handle : UInt16) (uuid : Octets) : Characteristic :=
  ⟨handle - 1, handle, handle + 1, 0x10, uuid⟩

/-- The input report of a controller, and its command write. -/
def inputReport : Characteristic := charOf 0x000e uuidInputReport
def commandWrite : Characteristic := charOf 0x0014 uuidCommandWrite

/-- One connection, up to `STATE_READY`. -/
def oneConnection : List Event :=
  [.state true, .connection 0 0x40, .justWorks 0x40, .pairing 0, .result 0x40 inputReport,
    .complete 0x40 0, .result 0x40 commandWrite, .complete 0x40 0, .complete 0x40 0,
    .complete 0x40 0, .complete 0x40 0, .complete 0x40 0, .complete 0x40 0]

end Switch2Bt.Bridge
