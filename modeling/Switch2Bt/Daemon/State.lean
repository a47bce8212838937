import Switch2Bt.Await.Coro
import Switch2Bt.Codec.Advertising
import Switch2Bt.Codec.Command
import Switch2Bt.Daemon.Profiles
import Switch2Bt.Gamepad.Uinput

/-!
# The state of the daemon (`switch2d.py`, daemon core)

`DaemonState` is the mutable record shared by all coroutines and callbacks. `World` puts it next to
what the program holds outside it: the BLE clients with their links and registered notification
handlers, the locals of a running scan, and the record of what was observed (`Obs`).

The observations are the history of a run: which frames were written, which reports were counted,
which stage ended how. The program never reads them.

Log lines are left out, with one exception: the response that `stage_pair` reports for a step
(`Obs.pairResponse`).
-/

namespace Switch2Bt

/-! ## Devices, characteristics, notifications -/

/-- A scanned device. -/
structure BLEDevice where
  address : String
deriving DecidableEq, Repr

/-- The part of an advertisement the daemon reads. -/
structure Advertisement where
  manufacturerData : List (ℕ × Octets)
deriving DecidableEq, Repr

/-- A GATT characteristic. -/
structure Characteristic where
  uuid : String
  handle : ℕ
  properties : List String
deriving DecidableEq, Repr

/-- A GATT service. -/
structure Service where
  characteristics : List Characteristic
deriving DecidableEq, Repr

/-- A `BleakClient` object, by order of creation. -/
abbrev ClientId := ℕ

/-- A notification as the handler sees it: sender handle, data, and the two readings of the clock
(for the telemetry and for the JSONL record). -/
structure Notification where
  handle : Option ℕ
  data : Octets
  now : ℚ
  recordTime : ℚ
deriving DecidableEq, Repr

/-- What `start_notify` is given: a UUID, or a characteristic. -/
inductive NotifyTarget where
  | uuid (uuid : String)
  | characteristic (handle : ℕ)
deriving DecidableEq, Repr

/-- Whether a handle is one of the falsy values `None` and `0`. -/
def falsyHandle : Option ℕ → Bool
  | none => true
  | some h => h == 0

/-! ## Arguments and results -/

/-- The parsed command line.
Source: `switch2d.py` `parse_args` -/
structure Args where
  diagnose : Bool
  daemon : Bool
  profile : String
  scanTimeout : ℚ
  address : Option String
  looseScan : Bool
  connectRetries : ℤ
  gattRetries : ℤ
  notifyTimeout : ℚ
  maxReports : ℤ
  dumpJsonl : Bool
  uinput : Bool
  verbose : Bool
deriving DecidableEq, Repr

/-- The stages of a session, and preflight. -/
inductive Stage where
  | preflight | scan | connect | discover | pair | init | subscribe | running
deriving DecidableEq, Repr

/-- Source: `switch2d.py` `DaemonState.exit_code_for_stage` -/
def exitCodeForStage : Stage → ℕ
  | .preflight => 10
  | .scan => 11
  | .connect => 12
  | .discover => 13
  | .pair => 17
  | .init => 14
  | .subscribe => 15
  | .running => 16

/-- One line of the JSONL dump.
Source: `switch2d.py` `handle_report` (`record`) -/
structure JsonRecord where
  ts : ℚ
  report : ℕ
  handle : Option ℕ
  length : ℕ
  hex : String
deriving DecidableEq, Repr

/-- The record of one auto-detect attempt.
Source: `switch2d.py` `_try_profile` (`result`) -/
structure AttemptResult where
  profile : String
  source : String
  success : Bool
  failureReason : Option String
  reportCount : ℕ
  firstReportHex : Option String
deriving DecidableEq, Repr

/-- Report lengths and intervals in a summary; each part only if there is data for it.
Source: `switch2d.py` `diagnose_mode`, `auto_detect_mode` (`telemetry`) -/
structure Telemetry where
  lengths : Option (ℕ × ℕ × ℚ)
  intervals : Option (ℚ × ℚ × ℚ)
deriving DecidableEq, Repr

/-- Source: `switch2d.py` `diagnose_mode`, `auto_detect_mode` (`stages`) -/
structure StageFlags where
  scan : Bool
  connect : Bool
  discover : Bool
  subscribe : Bool
  reports : Bool
  uinput : Bool
deriving DecidableEq, Repr

/-- What a summary says about the profile: the one of the session, or all attempts. -/
inductive SummaryHead where
  | single (profile : String)
  | auto (attempted : List AttemptResult) (winner : Option String)
deriving DecidableEq, Repr

/-- The printed diagnostic summary.
Source: `switch2d.py` `diagnose_mode`, `auto_detect_mode` (`summary`) -/
structure Summary where
  exitCode : ℕ
  head : SummaryHead
  stages : StageFlags
  device : Option String
  hostMac : Option String
  inputUuid : Option String
  inputHandle : Option ℕ
  commandResponseHandle : Option ℕ
  commandResponseUuid : String
  reconnectMac : Option String
  pairingMode : Option Bool
  pairedToHost : Option Bool
  pairedToOtherHost : Option Bool
  pairSequenceOk : Option Bool
  pairFailureStep : Option String
  pairResponses : Option (List String)
  reportCount : ℕ
  firstReportHex : Option String
  lastReportHex : Option String
  telemetry : Telemetry
deriving DecidableEq, Repr

/-! ## The daemon state -/

/-- The mutable state across the daemon lifecycle.
Source: `switch2d.py` `DaemonState` -/
structure DaemonState where
  args : Args
  client : Option ClientId
  device : Option BLEDevice
  cmdWriteHandle : Option ℕ
  commandResponseHandle : Option ℕ
  inputReportHandle : Option ℕ
  inputReportUuid : Option String
  reconnectMac : Option String
  reconnectMacRaw : Option Octets
  pairingMode : Option Bool
  pairedToHost : Option Bool
  pairedToOtherHost : Option Bool
  hostMac : Option String
  pairSequenceOk : Bool
  pairFailureStep : Option String
  pairResponses : List String
  activeProfile : ProtocolProfile
  commandResponseSubscribed : Bool
  reportCount : ℕ
  totalReports : ℕ
  reconnectCount : ℕ
  startTime : ℚ
  shutdown : Bool
  disconnectEvent : Bool
  notifyEvent : Bool
  firstReportHex : Option String
  lastReportHex : Option String
  jsonlFile : Option (List JsonRecord)
  reportLengths : List ℕ
  reportTimestamps : List ℚ
  stageScanOk : Bool
  stageConnectOk : Bool
  stageDiscoverOk : Bool
  stageSubscribeOk : Bool
  stageReportsOk : Bool
  attemptedProfiles : List AttemptResult
  winningProfile : Option String
  uinput : Option UInput

/-- The state `DaemonState(args=args, log=log)` builds.
Source: `switch2d.py` `DaemonState` (field defaults) -/
def DaemonState.new (args : Args) : DaemonState where
  args := args
  client := none
  device := none
  cmdWriteHandle := none
  commandResponseHandle := none
  inputReportHandle := none
  inputReportUuid := none
  reconnectMac := none
  reconnectMacRaw := none
  pairingMode := none
  pairedToHost := none
  pairedToOtherHost := none
  hostMac := none
  pairSequenceOk := false
  pairFailureStep := none
  pairResponses := []
  activeProfile := profileMacos
  commandResponseSubscribed := false
  reportCount := 0
  totalReports := 0
  reconnectCount := 0
  startTime := 0
  shutdown := false
  disconnectEvent := false
  notifyEvent := false
  firstReportHex := none
  lastReportHex := none
  jsonlFile := none
  reportLengths := []
  reportTimestamps := []
  stageScanOk := false
  stageConnectOk := false
  stageDiscoverOk := false
  stageSubscribeOk := false
  stageReportsOk := false
  attemptedProfiles := []
  winningProfile := none
  uinput := none

/-- Source: `switch2d.py` `DaemonState.reset_session`, but for `client` (see `resetSession`) -/
def DaemonState.resetFields (s : DaemonState) : DaemonState :=
  { s with
    reportCount := 0
    cmdWriteHandle := none
    commandResponseHandle := none
    inputReportHandle := none
    inputReportUuid := none
    commandResponseSubscribed := false
    pairSequenceOk := false
    pairFailureStep := none
    pairResponses := []
    disconnectEvent := false
    notifyEvent := false }

/-! ## Observations -/

/-- What a run is seen to do, in order. -/
inductive Obs where
  /-- `run_session` starts, with its active profile. -/
  | sessionStart (profile : ProtocolProfile)
  /-- `run_session` returns early because of the shutdown flag: the active profile, the client
  held and whether its link is up. -/
  | interrupted (profile : ProtocolProfile) (client : Option ClientId) (linkUp : Bool)
  /-- A stage returned. -/
  | stageDone (stage : Stage) (ok : Bool)
  /-- `run_session` returned to the reconnect loop. -/
  | sessionEnd (ok : Bool)
  /-- The reconnect loop waits after its `n`-th consecutive failure. -/
  | backoff (failures : ℕ) (delay : ℚ)
  /-- The scan callback got an advertisement. -/
  | advert (device : BLEDevice) (adv : Advertisement)
  /-- A connected client was stored in `state.client`. -/
  | stored (client : ClientId)
  /-- `state.client` stopped referring to a client, whose link was up or not. -/
  | dropped (client : ClientId) (linkUp : Bool)
  /-- `disconnect()` was called on a client. -/
  | disconnectCalled (client : ClientId)
  /-- The link of a client was lost. -/
  | linkLost (client : ClientId)
  /-- `stage_discover` was given a service tree. -/
  | servicesRead (tree : List Service)
  /-- `stage_discover` matched the input characteristic. -/
  | inputMatched (uuid : String) (handle : ℕ)
  /-- A `write_gatt_char` returned or raised. -/
  | gattWrite (uuid : Option String) (payload : Octets) (ok : Bool)
  /-- `start_notify` was issued for an input report. -/
  | notifyInput (target : NotifyTarget)
  /-- `_subscribe_all_notify` subscribed a characteristic: its `start_notify` returned. -/
  | subscribed (handle : ℕ)
  /-- `start_notify` was issued for the command responses. -/
  | notifyResponse
  /-- `stage_pair` reported the response to a step. -/
  | pairResponse (step : String) (latest : Option String)
  /-- `handle_report` accepted a report. -/
  | report (n : Notification)
  /-- A summary was printed. -/
  | summary (s : Summary)
deriving DecidableEq, Repr

/-! ## The world -/

/-- The locals of a running scan.
Source: `switch2d.py` `stage_scan` (`found_device`, `found_info`) -/
structure ScanLocals where
  foundDevice : Option BLEDevice
  foundInfo : AdvInfo
deriving DecidableEq, Repr

/-- The program state: the daemon state and what lives outside it. -/
structure World where
  st : DaemonState
  /-- The clients whose link is up (`client.is_connected`). -/
  up : List ClientId
  /-- The clients with the report handler registered on some characteristic. -/
  subs : List ClientId
  /-- The clients with the command-response handler registered. -/
  respSubs : List ClientId
  /-- The number of clients created. -/
  nextClient : ClientId
  /-- The locals of the running scan, if the scanner is on. -/
  scan : Option ScanLocals
  /-- What was observed so far. -/
  trace : List Obs

/-- The world at program start. -/
def World.new (args : Args) : World := ⟨DaemonState.new args, [], [], [], 0, none, []⟩

/-- Record an observation. -/
def World.emit (o : Obs) (w : World) : World := { w with trace := w.trace ++ [o] }

/-- Update the daemon state. -/
def World.update (f : DaemonState → DaemonState) (w : World) : World := { w with st := f w.st }

@[simp] theorem World.emit_st (o : Obs) (w : World) : (w.emit o).st = w.st := rfl
@[simp] theorem World.emit_trace (o : Obs) (w : World) : (w.emit o).trace = w.trace ++ [o] := rfl
@[simp] theorem World.update_st (f : DaemonState → DaemonState) (w : World) :
    (w.update f).st = f w.st := rfl
@[simp] theorem World.update_trace (f : DaemonState → DaemonState) (w : World) :
    (w.update f).trace = w.trace := rfl
@[simp] theorem World.emit_scan (o : Obs) (w : World) : (w.emit o).scan = w.scan := rfl
@[simp] theorem World.update_scan (f : DaemonState → DaemonState) (w : World) :
    (w.update f).scan = w.scan := rfl

/-- Let `state.client` refer to `c`. A client it stops referring to is recorded as dropped. -/
def World.setClient (c : Option ClientId) (w : World) : World :=
  let w' := match w.st.client with
    | none => w
    | some old => if c = some old then w else w.emit (.dropped old (old ∈ w.up))
  w'.update fun s => { s with client := c }

/-- Source: `switch2d.py` `DaemonState.reset_session` -/
def World.resetSession (w : World) : World := (w.setClient none).update DaemonState.resetFields

@[simp] theorem World.setClient_st (c : Option ClientId) (w : World) :
    (w.setClient c).st = { w.st with client := c } := by
  simp only [setClient]
  repeat' split
  all_goals rfl

/-- Nothing is dropped when `state.client` refers to no client or to the new one already. -/
theorem World.setClient_trace_keep {c : Option ClientId} {w : World}
    (h : ∀ old, w.st.client = some old → c = some old) : (w.setClient c).trace = w.trace := by
  simp only [setClient]
  split
  · rfl
  · rename_i old hold
    rw [if_pos (h old hold)]
    rfl

/-- A client that `state.client` stops referring to is recorded. -/
theorem World.setClient_trace_drop {c : Option ClientId} {w : World} {old : ClientId}
    (hold : w.st.client = some old) (hc : c ≠ some old) :
    (w.setClient c).trace = w.trace ++ [.dropped old (decide (old ∈ w.up))] := by
  simp [setClient, hold, hc]

@[simp] theorem World.resetSession_st (w : World) :
    w.resetSession.st = ({ w.st with client := none } : DaemonState).resetFields := by
  simp [resetSession]

end Switch2Bt
