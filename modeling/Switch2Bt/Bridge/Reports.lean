import Switch2Bt.Bridge.Stack

/-!
# The reports of the bridge

The bridge enables notifications, waits for that to complete, and registers a listener. What the
listener gets is a `GATT_EVENT_NOTIFICATION`, and the handler has no case for it: only the result of
a read is dumped, and the bridge reads nothing. So no report is dumped in any run (`dumps_nil`), and
the reports of a connection are delivered iff none was sent (`delivered_iff`).

`Reporting` adds to the bridge on BTstack what this is about: the CCCDs that peers have set, the
listener, the notifications that were sent, and the dumps.
-/

namespace Switch2Bt.Bridge

open Await Octets GattClient

/-! ## The handler -/

/-- What `gatt_client_handler` may be called with. -/
inductive GattPacket where
  | notification (valueHandle : UInt16) (value : Octets)
  | valueQueryResult (valueHandle : UInt16) (value : Octets)
  | other (p : Packet)
deriving DecidableEq, Repr

/-- The value that is dumped as a `REPORT`.
Source: `switch2_btstack_bridge.c` `gatt_client_handler`
(`GATT_EVENT_CHARACTERISTIC_VALUE_QUERY_RESULT`, `default`) -/
def reportDump (b : Globals) : GattPacket → Option Octets
  | .valueQueryResult valueHandle value =>
      if valueHandle = b.inputReportChar.valueHandle then some value else none
  | _ => none

/-! ## Notifications -/

/-- Whether an operation reads a value: none that the bridge starts does. -/
def Op.isRead : Op → Bool
  | .discover _ | .write _ _ | .configure _ => false

/-- The listener that a call registers. -/
def Obs.listens : Obs → Option (UInt16 × UInt16)
  | .called (.listenForUpdates handle c) _ _ => some (handle, c.valueHandle)
  | _ => none

/-- The bridge on BTstack, and its reports. The notifications and the dumps are kept with the number
of their connection. -/
structure Reporting where
  world : World
  /-- The characteristics whose CCCD was set, by connection. -/
  enabled : List (ℕ × UInt16)
  /-- What `input_notification` listens to. -/
  listener : Option (UInt16 × UInt16)
  /-- The notifications of the input characteristic since its CCCD was set. -/
  sent : List (ℕ × Octets)
  dumps : List (ℕ × Octets)

def Reporting.init : Reporting := ⟨.init, [], none, [], []⟩

/-- What may happen next. -/
inductive ReportEvent where
  | event (e : Event)
  /-- The peer of a handle sets the CCCD that is written. -/
  | enable (handle : UInt16)
  /-- The peer of a handle sends a notification. -/
  | notify (handle valueHandle : UInt16) (value : Octets)
  /-- A result of the read that the connection of a handle runs. -/
  | value (handle valueHandle : UInt16) (value : Octets)
deriving DecidableEq, Repr

/-- The write of a CCCD completes with success after the peer has set it. -/
def Reporting.Acknowledged (r : Reporting) : Event → Prop
  | .complete handle att =>
      match r.world.stack.links handle with
      | some ⟨id, some (.configure c)⟩ => att = 0 → (id, c.valueHandle) ∈ r.enabled
      | _ => True
  | _ => True

instance (r : Reporting) : (e : Event) → Decidable (r.Acknowledged e)
  | .complete handle att =>
      match hl : r.world.stack.links handle with
      | some ⟨id, some (.configure c)⟩ =>
          decidable_of_iff (att = 0 → (id, c.valueHandle) ∈ r.enabled)
            (by simp only [Reporting.Acknowledged, hl])
      | none | some ⟨_, none⟩ | some ⟨_, some (.discover _)⟩ | some ⟨_, some (.write ..)⟩ =>
          .isTrue (by simp only [Reporting.Acknowledged, hl])
  | .state _ | .advertising .. | .connection .. | .disconnection _ | .encryption _ |
      .numericComparison _ | .justWorks _ | .pairing _ | .result .. => .isTrue trivial

/-- The handler gets a packet of a connection. -/
def Reporting.hand (r : Reporting) (id : ℕ) (p : GattPacket) : Reporting :=
  { r with dumps := r.dumps ++ ((reportDump r.world.vars p).map fun value => (id, value)).toList }

/-- A notification is one of the input characteristic, and its CCCD was set. -/
def Reporting.Due (r : Reporting) (id : ℕ) (valueHandle : UInt16) : Prop :=
  valueHandle = r.world.vars.inputReportChar.valueHandle ∧ (id, valueHandle) ∈ r.enabled

instance (r : Reporting) (id : ℕ) (valueHandle : UInt16) : Decidable (r.Due id valueHandle) :=
  inferInstanceAs (Decidable (_ ∧ _))

/-- What happens; `none` if it cannot. A notification is handed to the listener of its
characteristic, and to nobody if there is none. -/
def Reporting.step (r : Reporting) : ReportEvent → Option Reporting
  | .event e =>
      if r.Acknowledged e then
        (r.world.step e).map fun w => { r with
          world := w
          listener := (seenSince Obs.listens r.world.trace w.trace).getLast?.or r.listener }
      else none
  | .enable handle =>
      match r.world.stack.links handle with
      | some ⟨id, some (.configure c)⟩ =>
          some { r with enabled := (id, c.valueHandle) :: r.enabled }
      | _ => none
  | .notify handle valueHandle value =>
      match r.world.stack.links handle with
      | some ⟨id, _⟩ =>
          let r := if r.Due id valueHandle then { r with sent := r.sent ++ [(id, value)] } else r
          some (if r.listener = some (handle, valueHandle) then
            r.hand id (.notification valueHandle value) else r)
      | none => none
  | .value handle valueHandle value =>
      match r.world.stack.links handle with
      | some ⟨id, some op⟩ =>
          if op.isRead then some (r.hand id (.valueQueryResult valueHandle value)) else none
      | _ => none

/-- What runs reach. -/
abbrev ReportRun : Reporting → Prop := Reached Reporting.step .init fun _ _ => True

/-- What is kept of a connection. -/
def ofLink (id : ℕ) (xs : List (ℕ × Octets)) : List Octets := (xs.filter (·.1 = id)).map Prod.snd

/-- In `STATE_READY` the notifications of the connection were dumped, each once and in order, and
nothing else was. -/
def Reporting.Delivered (r : Reporting) : Prop :=
  r.world.vars.appState = .ready → ∀ l ∈ r.world.current,
    ofLink l.id r.dumps = ofLink l.id r.sent

/-- In `STATE_READY` the peer has sent no notification of the input characteristic since its CCCD
was set. -/
def Reporting.Quiet (r : Reporting) : Prop :=
  r.world.vars.appState = .ready → ∀ l ∈ r.world.current, ofLink l.id r.sent = []

/-! ## The runs -/

section run

variable {r r' : Reporting} {e : ReportEvent}

/-- A notification that is handed to the handler is not dumped. -/
theorem hand_notification (r : Reporting) (id : ℕ) (valueHandle : UInt16) (value : Octets) :
    r.hand id (.notification valueHandle value) = r := by
  simp [Reporting.hand, reportDump]

/-- No step dumps anything: what is handed over are notifications, and results of reads there are
none. -/
theorem step_dumps (h : r.step e = some r') : r'.dumps = r.dumps := by
  cases e with
  | event e =>
      rw [Reporting.step] at h
      split_ifs at h
      obtain ⟨w, -, rfl⟩ := Option.map_eq_some_iff.mp h
      rfl
  | enable handle =>
      rw [Reporting.step] at h
      split at h
      · cases h
        rfl
      · cases h
  | notify handle valueHandle value =>
      rw [Reporting.step] at h
      split at h
      · dsimp only at h
        cases h
        rw [hand_notification, ite_self]
        split_ifs <;> rfl
      · cases h
  | value handle valueHandle value =>
      rw [Reporting.step] at h
      split at h
      case h_1 id op hl =>
        have hread : op.isRead = false := by cases op <;> rfl
        rw [hread] at h
        cases h
      · cases h

/-- No report is dumped in any run. -/
theorem dumps_nil (h : ReportRun r) : r.dumps = [] := by
  induction h with
  | init => rfl
  | step _ _ hstep ih => exact (step_dumps hstep).trans ih

end run

/-- **Reports are delivered** to `STATE_READY` in a run iff none was sent.
Source: `switch2_btstack_bridge.c` `gatt_client_handler` -/
theorem delivered_iff {r : Reporting} (h : ReportRun r) : r.Delivered ↔ r.Quiet := by
  rw [Reporting.Delivered, Reporting.Quiet, dumps_nil h]
  exact forall_congr' fun _ => forall₂_congr fun l _ => eq_comm

/-! ## Examples of runs -/

/-- One connection up to `STATE_READY`; the peer sends one report before the listener is registered
and one after. -/
def twoReports : List ReportEvent :=
  (oneConnection.take 12).map .event ++ [.enable 0x40, .notify 0x40 0x000e [0x09, 0x01],
    .event (.complete 0x40 0), .notify 0x40 0x000e [0x09, 0x02]]

theorem delivered_oneConnection : ∃ r, ReportRun r ∧ r.world.vars.appState = .ready ∧
    (r.Delivered ↔ r.Quiet) := by
  have hready : (through Reporting.step (fun _ _ => True) twoReports .init).map
      (·.world.vars.appState) = some .ready := by decide +kernel
  obtain ⟨r, hr, hstate⟩ := Option.map_eq_some_iff.mp hready
  have hrun : ReportRun r := Reached.init.through hr
  exact ⟨r, hrun, hstate, delivered_iff hrun⟩

/-- Both are lost. -/
theorem not_delivered : ¬∀ r, ReportRun r → r.Delivered := by
  intro h
  have hlast : (through Reporting.step (fun _ _ => True) twoReports .init).map (fun r => decide
      (r.world.vars.appState = .ready ∧ r.world.current.map Link.id = some 0 ∧
        ofLink 0 r.sent = [[0x09, 0x01], [0x09, 0x02]] ∧ ofLink 0 r.dumps = [])) = some true := by
    decide +kernel
  obtain ⟨r, hr, hfacts⟩ := Option.map_eq_some_iff.mp hlast
  obtain ⟨hstate, hcur, hsent, hdumps⟩ := of_decide_eq_true hfacts
  obtain ⟨l, hl, hid⟩ := Option.map_eq_some_iff.mp hcur
  have hdelivered := h r (Reached.init.through hr) hstate l hl
  rw [hid, hsent, hdumps] at hdelivered
  cases hdelivered

end Switch2Bt.Bridge
