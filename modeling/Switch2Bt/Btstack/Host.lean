import Switch2Bt.Await.Trace
import Switch2Bt.Bridge.Model
import Switch2Bt.Gatt.Client

/-!
# The HID host on BTstack (`sw2d_btstack.c`)

`Globals` are the static variables of the program, and its two handlers are functions of them that
give the variables afterwards and the calls they make. The handler of GATT events does not look at
the ATT status of a completion, and no handler clears a variable.

The host is a program on a GATT client, BTstack. What it is promised is a step relation: a
connection runs at most one GATT operation, a call for a connection that runs one, or for none, has
no effect, the results of an operation come before its only completion, and neither after the
disconnection. An operation that ends with its connection completes before the disconnection, or
unseen. Everything else may come at any time. `Run adIterator C` are the worlds reached by steps
that meet the condition `C`.
-/

namespace Switch2Bt.Btstack

open Octets Scanners GattClient

/-! ## Variables -/

/-- A service as BTstack describes it.
Source: `btstack` `gatt_client_service_t` -/
structure Service where
  startGroupHandle : UInt16
  endGroupHandle : UInt16
  uuid128 : Octets
deriving DecidableEq, Repr

/-- A characteristic as BTstack describes it. -/
abbrev Characteristic := Bridge.Characteristic

/-- The static variables; those of `Host` are assigned for an advertising report.
Source: `sw2d_btstack.c` -/
structure Globals extends Host where
  connectionHandle : UInt16
  hidService : Service
  hidReportCharacteristic : Characteristic
deriving DecidableEq, Repr

/-- The variables at the start. -/
def Globals.init : Globals where
  state := .w4Working
  remoteAddr := Vector.replicate 6 0
  remoteAddrType := 0
  connectionHandle := 0
  hidService := ⟨0, 0, List.replicate 16 0⟩
  hidReportCharacteristic := Bridge.Characteristic.zero

/-- Source: `btstack` `ORG_BLUETOOTH_SERVICE_HUMAN_INTERFACE_DEVICE` -/
def uuidHid : UInt16 := 0x1812

/-- Source: `sw2d_btstack.c` `handle_gatt_client_event` (`0x2A4D`) -/
def uuidReport : UInt16 := 0x2A4D

/-- The calls of BTstack. -/
inductive Call where
  | gapSetScanParameters
  | gapStartScan
  | gapStopScan
  | gapConnect (addr : Sw2d.Addr) (addrType : UInt8)
  | discoverPrimaryServices (handle uuid16 : UInt16)
  | discoverCharacteristicsForService (handle : UInt16) (s : Service) (uuid16 : UInt16)
  | listenForUpdates (handle : UInt16) (c : Characteristic)
  /-- Enable notifications in the CCCD of a characteristic. -/
  | writeConfiguration (handle : UInt16) (c : Characteristic)
deriving DecidableEq, Repr

/-! ## Handlers -/

/-- Source: `sw2d_btstack.c` `start_scan` -/
def startScan (g : Globals) : Globals × List Call :=
  ({ g with state := .w4ScanResult }, [.gapSetScanParameters, .gapStartScan])

/-- What `handle_gatt_client_event` looks at. -/
inductive GattPacket where
  | serviceQueryResult (s : Service)
  | characteristicQueryResult (c : Characteristic)
  | queryComplete (attStatus : UInt8)
  | notification (value : Octets)
deriving DecidableEq, Repr

/-- A completion moves the state on, whatever its status; a notification is printed.
Source: `sw2d_btstack.c` `handle_gatt_client_event` -/
def handleGattClientEvent (p : GattPacket) (g : Globals) : Globals × List Call :=
  match p with
  | .serviceQueryResult s => ({ g with hidService := s }, [])
  | .characteristicQueryResult c => ({ g with hidReportCharacteristic := c }, [])
  | .queryComplete _ =>
      match g.state with
      | .w4ServiceResult =>
          ({ g with state := .w4CharacteristicResult },
            [.discoverCharacteristicsForService g.connectionHandle g.hidService uuidReport])
      | .w4CharacteristicResult =>
          ({ g with state := .w4EnableNotificationsComplete },
            [.listenForUpdates g.connectionHandle g.hidReportCharacteristic,
              .writeConfiguration g.connectionHandle g.hidReportCharacteristic])
      | .w4EnableNotificationsComplete => ({ g with state := .ready }, [])
      | _ => (g, [])
  | .notification _ => (g, [])

/-- What `packet_handler` looks at. -/
inductive Packet where
  | btstackState (working : Bool)
  | advertisingReport (r : AdvertisingReport)
  | leConnectionComplete (status : UInt8) (handle : UInt16)
  | disconnectionComplete
deriving DecidableEq, Repr

/-- Source: `sw2d_btstack.c` `packet_handler` -/
def packetHandler (adIterator : Octets → List AdStructure) (p : Packet) (g : Globals) :
    Globals × List Call :=
  match p with
  | .btstackState working => if working then startScan g else (g, [])
  | .advertisingReport r =>
      let host := advertisingReport adIterator r g.toHost
      ({ g with toHost := host }, if g.state = .w4ScanResult ∧ host.state = .w4Connect then
        [.gapStopScan, .gapConnect host.remoteAddr host.remoteAddrType] else [])
  | .leConnectionComplete status handle =>
      if status ≠ 0 then startScan g
      else ({ g with connectionHandle := handle, state := .w4ServiceResult },
        [.discoverPrimaryServices handle uuidHid])
  | .disconnectionComplete => startScan g

/-! ## The program -/

/-- A GATT operation. -/
inductive Op where
  | services (uuid16 : UInt16)
  | characteristics (s : Service) (uuid16 : UInt16)
  | configure (c : Characteristic)
deriving DecidableEq, Repr

/-- An observation. -/
inductive Obs where
  | connected (link : ℕ) (handle : UInt16)
  | disconnected (link : ℕ)
  /-- A call, and the live connection it names, if it names one. -/
  | called (c : Call) (link : Option ℕ)
  /-- A service that a query for a UUID returned. -/
  | service (link : ℕ) (uuid16 : UInt16) (s : Service)
  /-- A characteristic that a query for a UUID in a service returned. -/
  | characteristic (link : ℕ) (s : Service) (uuid16 : UInt16) (c : Characteristic)
  /-- The completion of an operation. -/
  | completed (link : ℕ) (op : Op) (att : UInt8)
deriving DecidableEq, Repr

/-- The connection handle a call names. -/
def Call.handle : Call → Option UInt16
  | .discoverPrimaryServices handle _ | .discoverCharacteristicsForService handle _ _
  | .listenForUpdates handle _ | .writeConfiguration handle _ => some handle
  | _ => none

/-- The operation a call starts. -/
def Call.op : Call → Option Op
  | .discoverPrimaryServices _ uuid16 => some (.services uuid16)
  | .discoverCharacteristicsForService _ s uuid16 => some (.characteristics s uuid16)
  | .writeConfiguration _ c => some (.configure c)
  | _ => none

/-- Whether a call was accepted is not observed, and neither is a change of the variables. -/
instance : Client Globals Call Op Obs where
  handle := Globals.connectionHandle
  names := Call.handle
  starts := Call.op
  connected := .connected
  called c link _ := .called c link
  completed := .completed
  changed _ _ _ := none

/-- The host, BTstack, and what was observed so far. -/
abbrev World := Machine Globals Op Obs

def World.init : World := ⟨.init, .init, []⟩

theorem deliver_one (w : World) (g : Globals) (c : Call) :
    w.deliver (g, [c]) = Machine.perform { w with vars := g } c := rfl

theorem deliver_two (w : World) (g : Globals) (c c' : Call) :
    w.deliver (g, [c, c']) = (Machine.perform { w with vars := g } c).perform c' := rfl

/-! ## Steps -/

/-- What may happen next. -/
inductive Event where
  | state (working : Bool)
  | advertising (r : AdvertisingReport)
  | connection (status : UInt8) (handle : UInt16)
  | disconnection (handle : UInt16)
  /-- A result of the query for services that the connection of a handle runs. -/
  | service (handle : UInt16) (s : Service)
  /-- A result of the query for characteristics that the connection of a handle runs. -/
  | characteristic (handle : UInt16) (c : Characteristic)
  /-- The end of the operation that the connection of a handle runs. -/
  | complete (handle : UInt16) (att : UInt8)
  | notification (handle : UInt16) (value : Octets)
deriving DecidableEq, Repr

/-- The world after an event; `none` if it cannot happen: a handle names one connection at a time,
and results and completions are those of a running operation. -/
def World.step (adIterator : Octets → List AdStructure) (w : World) : Event → Option World
  | .state working => some (w.deliver (packetHandler adIterator (.btstackState working) w.vars))
  | .advertising r => some (w.deliver (packetHandler adIterator (.advertisingReport r) w.vars))
  | .connection status handle =>
      if status ≠ 0 then
        some (w.deliver (packetHandler adIterator (.leConnectionComplete status handle) w.vars))
      else if (w.stack.links handle).isSome then none
      else some ((w.openLink handle).deliver
        (packetHandler adIterator (.leConnectionComplete status handle) w.vars))
  | .disconnection handle =>
      match w.stack.links handle with
      | none => none
      | some link => some (((w.setLink handle none).emit (.disconnected link.id)).deliver
          (packetHandler adIterator .disconnectionComplete w.vars))
  | .service handle s =>
      match w.stack.links handle with
      | some ⟨id, some (.services uuid16)⟩ => some ((w.emit (.service id uuid16 s)).deliver
          (handleGattClientEvent (.serviceQueryResult s) w.vars))
      | _ => none
  | .characteristic handle c =>
      match w.stack.links handle with
      | some ⟨id, some (.characteristics s uuid16)⟩ =>
          some ((w.emit (.characteristic id s uuid16 c)).deliver
            (handleGattClientEvent (.characteristicQueryResult c) w.vars))
      | _ => none
  | .complete handle att =>
      match w.stack.links handle with
      | some ⟨id, some op⟩ => some ((w.completed handle id op att).deliver
          (handleGattClientEvent (.queryComplete att) w.vars))
      | _ => none
  | .notification handle value =>
      if (w.stack.links handle).isSome then
        some (w.deliver (handleGattClientEvent (.notification value) w.vars))
      else none

section step

variable {adIterator : Octets → List AdStructure} {w w' : World} {handle : UInt16}

/-- A connection fails, or opens a link. -/
theorem step_connection {status : UInt8}
    (h : w.step adIterator (.connection status handle) = some w') :
    w' = w.deliver (startScan w.vars) ∨
      (w.stack.links handle = none ∧ w' = (w.openLink handle).deliver
        ({ w.vars with connectionHandle := handle, state := .w4ServiceResult },
          [.discoverPrimaryServices handle uuidHid])) := by
  unfold World.step at h
  dsimp only at h
  split at h
  case isTrue hstatus =>
    left
    rw [← Option.some.inj h, packetHandler, if_pos hstatus]
  case isFalse hstatus =>
    split at h
    · cases h
    case isFalse hfree =>
      right
      refine ⟨by simpa using hfree, ?_⟩
      rw [← Option.some.inj h, packetHandler, if_neg hstatus]

/-- A disconnection closes a link. -/
theorem step_disconnection (h : w.step adIterator (.disconnection handle) = some w') :
    ∃ link, w.stack.links handle = some link ∧
      w' = ((w.setLink handle none).emit (.disconnected link.id)).deliver
        (startScan w.vars) := by
  unfold World.step at h
  dsimp only at h
  split at h
  · cases h
  case h_2 link hlink => exact ⟨link, hlink, (Option.some.inj h).symm⟩

/-- A service is one that a running query returns. -/
theorem step_service {s : Service} (h : w.step adIterator (.service handle s) = some w') :
    ∃ id uuid16, w.stack.links handle = some ⟨id, some (.services uuid16)⟩ ∧
      w' = (w.emit (.service id uuid16 s)).deliver ({ w.vars with hidService := s }, []) := by
  unfold World.step at h
  dsimp only at h
  split at h
  case h_1 id uuid16 hlink => exact ⟨id, uuid16, hlink, (Option.some.inj h).symm⟩
  case h_2 => cases h

/-- A characteristic is one that a running query returns. -/
theorem step_characteristic {c : Characteristic}
    (h : w.step adIterator (.characteristic handle c) = some w') :
    ∃ id s uuid16, w.stack.links handle = some ⟨id, some (.characteristics s uuid16)⟩ ∧
      w' = (w.emit (.characteristic id s uuid16 c)).deliver
        ({ w.vars with hidReportCharacteristic := c }, []) := by
  unfold World.step at h
  dsimp only at h
  split at h
  case h_1 id s uuid16 hlink => exact ⟨id, s, uuid16, hlink, (Option.some.inj h).symm⟩
  case h_2 => cases h

/-- A completion is one of a running operation. -/
theorem step_complete {att : UInt8} (h : w.step adIterator (.complete handle att) = some w') :
    ∃ id op, w.stack.links handle = some ⟨id, some op⟩ ∧
      w' = (w.completed handle id op att).deliver
        (handleGattClientEvent (.queryComplete att) w.vars) := by
  unfold World.step at h
  dsimp only at h
  split at h
  case h_1 id op hlink => exact ⟨id, op, hlink, (Option.some.inj h).symm⟩
  case h_2 => cases h

/-- An advertising report connects a host that scans, or does nothing. -/
theorem step_advertising {r : AdvertisingReport}
    (h : w.step adIterator (.advertising r) = some w') :
    w' = w ∨ ∃ g : Globals, g.state = .w4Connect ∧
      w' = w.deliver (g, [.gapStopScan, .gapConnect g.remoteAddr g.remoteAddrType]) := by
  rw [← Option.some.inj h, packetHandler]
  by_cases hscan : w.vars.state = .w4ScanResult
  · by_cases hconnect : (advertisingReport adIterator r w.vars.toHost).state = .w4Connect
    · right
      refine ⟨{ w.vars with toHost := advertisingReport adIterator r w.vars.toHost },
        hconnect, ?_⟩
      rw [if_pos ⟨hscan, hconnect⟩]
    · left
      have hsame : advertisingReport adIterator r w.vars.toHost = w.vars.toHost := by
        unfold advertisingReport at hconnect ⊢
        split_ifs at hconnect ⊢
        · rfl
        · rfl
        · exact absurd rfl hconnect
        · rfl
      rw [if_neg fun hboth => hconnect hboth.2, hsame]
      rfl
  · left
    have hsame : advertisingReport adIterator r w.vars.toHost = w.vars.toHost := if_pos hscan
    rw [if_neg fun hboth => hscan hboth.1, hsame]
    rfl

end step

/-- The worlds that runs reach whose steps all meet a condition on the world before and the
event. -/
abbrev Run (adIterator : Octets → List AdStructure) : (World → Event → Prop) → World → Prop :=
  Reached (World.step adIterator) .init

end Switch2Bt.Btstack
