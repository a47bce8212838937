import Switch2Bt.Codec.Command
import Switch2Bt.Probe.Session

/-!
# A run of the probe (`tools/switch2_ble_probe.py`)

A `Script` is everything the environment does in a run, and `main` is the run: its exit code, and
the state it ends in. Only `_pair` lets an exception out; every other step swallows those of its
calls and returns `False`. Interrupts stay out.
-/

namespace Switch2Bt.Probe

open Octets

/-! ## Scripts -/

/-- An advertisement, with the name of its device. -/
structure Advert where
  device : BLEDevice
  name : Option String
  adv : Advertisement
deriving DecidableEq, Repr

/-- What the environment does in a run. -/
structure Script where
  /-- The advertisements during the scan. -/
  adverts : List Advert
  /-- The `n`-th attempt to connect. -/
  connect : ℕ → Except PyErr Unit
  /-- The `n`-th access to the services; a tree is falsy when it is empty. -/
  services : ℕ → Except PyErr (List Service)
  /-- Handles start at 1. -/
  handle_pos : ∀ n tree, services n = .ok tree → ∀ s ∈ tree, ∀ c ∈ s.characteristics, 0 < c.handle
  /-- The address of the adapter, if `hcitool` prints it. -/
  hcitool : Option (Vector UInt8 6)
  /-- The address of the backend, if it has one. -/
  backendAddress : Option (Vector UInt8 6)
  /-- The write of the `n`-th command, with response or without. -/
  write : ℕ → Bool → Except PyErr Unit
  /-- The access to the services when all of them are subscribed. -/
  notifyServices : Except PyErr (List Service)
  /-- The `n`-th call of `start_notify`. -/
  startNotify : ℕ → Except PyErr Unit
  /-- The notifications that arrive during the `n`-th await from the first `start_notify` on. -/
  notifications : ℕ → List Notification
  /-- Whether the `n`-th of these awaits runs into its timeout although a report came. -/
  expired : ℕ → Bool
  /-- Whether the virtual gamepads can be created. -/
  startXinput : Bool
  startUinput : Bool

/-- A GATT write: its payload, its mode and whether it succeeded. -/
structure Write where
  payload : Octets
  response : Bool
  ok : Bool
deriving DecidableEq, Repr

/-- The session, and what is known of the environment. -/
structure State where
  session : Session
  /-- Whether `start_notify` was called. -/
  listening : Bool
  /-- The number of awaits since then. -/
  awaits : ℕ
  /-- The reports that the callback accepted. -/
  arrived : List Notification
  writes : List Write

/-- Whether an exception came out of a call. -/
def failed : Except PyErr Unit → Bool
  | .ok _ => false
  | .error _ => true

/-! ## Awaits -/

/-- Whether the report callback passes a notification on.
Source: `switch2_ble_probe.py` `ProbeSession._subscribe` (`report_callback`) -/
def accepts (args : Args) (n : Notification) : Bool :=
  !args.subscribeAllNotify || match args.inputHandle with
    | some handle => handle = 0 || n.handle = some handle
    | none => true

/-- The report callback. -/
def reportCallback (n : Notification) (st : State) : State :=
  if accepts st.session.args n then
    { st with session := onReport n st.session, arrived := st.arrived ++ [n] }
  else st

/-- An await: what arrives meanwhile goes to the callback. -/
def pause (s : Script) (st : State) : State :=
  if st.listening then
    (s.notifications st.awaits).foldl (fun st n => reportCallback n st)
      { st with awaits := st.awaits + 1 }
  else st

/-! ## Scan and connection -/

/-- Source: `switch2_ble_probe.py` `parse_manufacturer_raw`, `ProbeSession._scan` -/
def isProController2 (mfgData : Octets) : Bool :=
  16 ≤ mfgData.length ∧ (mfgData.slice 3 5).leNat = 0x057E ∧ (mfgData.slice 5 7).leNat = 0x2069

/-- Whether the scan callback takes an advertisement.
Source: `switch2_ble_probe.py` `ProbeSession._scan` (`scan_callback`) -/
def passesScan (args : Args) (a : Advert) : Bool :=
  (match args.address with
    | some filter => filter.isEmpty || upper a.device.address == upper filter
    | none => true) &&
  (match args.nameFilter with
    | some filter =>
        filter.isEmpty || decide ((lower filter).toList <:+: (lower (a.name.getD "")).toList)
    | none => true) &&
  (match a.adv.manufacturerData.lookup args.manufacturer with
    | some mfgData => isProController2 mfgData
    | none => false)

/-- Source: `switch2_ble_probe.py` `ProbeSession._scan` -/
def scan (args : Args) (s : Script) : Option BLEDevice :=
  (s.adverts.find? (passesScan args)).map (·.device)

/-- The attempts from one on.
Source: `switch2_ble_probe.py` `ProbeSession._connect_with_retries` -/
def connectWithRetries (s : Script) : ℕ → ℕ → Bool
  | 0, _ => false
  | k + 1, attempt =>
      if failed (s.connect attempt) then connectWithRetries s k (attempt + 1) else true

/-! ## Service discovery -/

/-- The accesses from one on, up to the first tree that is not empty.
Source: `switch2_ble_probe.py` `ProbeSession._discover_characteristics` (retry loop) -/
def accessServices (s : Script) : ℕ → ℕ → List Service
  | 0, _ => []
  | k + 1, attempt =>
      match s.services attempt with
      | .ok (service :: services) => service :: services
      | _ => accessServices s k (attempt + 1)

/-- Source: `switch2_ble_probe.py` `ProbeSession._discover_characteristics` (loop body) -/
def matchCharacteristic (session : Session) (c : Characteristic) : Session :=
  if lower c.uuid = lower session.args.inputUuid then
    { session with inputReportHandle := some c.handle }
  else if lower c.uuid = lower session.args.cmdUuid then
    { session with cmdWriteHandle := some c.handle }
  else session

/-- A handle as a condition. -/
def truthy (handle : Option ℕ) : Bool := handle.getD 0 ≠ 0

/-- Source: `switch2_ble_probe.py` `ProbeSession._discover_characteristics` -/
def discoverCharacteristics (s : Script) (session : Session) : Bool × Session :=
  match accessServices s session.args.gattRetries.toNat 1 with
  | [] => (false, session)
  | services =>
      let session := (services.flatMap (·.characteristics)).foldl matchCharacteristic
        { session with cmdWriteHandle := none, inputReportHandle := none }
      (!((session.args.mode ≠ .none && !truthy session.cmdWriteHandle) ||
        !truthy session.inputReportHandle), session)

/-! ## Commands -/

/-- A write to the command characteristic. -/
def writeGattChar (s : Script) (n : ℕ) (payload : Octets) (response : Bool) (st : State) :
    Except PyErr Unit × State :=
  let result := s.write n response
  (result, pause s { st with writes := st.writes ++ [⟨payload, response, !failed result⟩] })

/-- Source: `switch2_ble_probe.py` `PROCON2_INIT_COMMANDS` -/
def procon2InitCommands : List Octets := [
  [0x0c, 0x91, 0x01, 0x02, 0x00, 0x04, 0x00, 0x00, 0xff, 0x00, 0x00, 0x00],
  [0x0c, 0x91, 0x01, 0x04, 0x00, 0x04, 0x00, 0x00, 0xff, 0x00, 0x00, 0x00]]

/-- Source: `switch2_ble_probe.py` `PROCON2_LED_COMMAND`, `PROCON2_SOUND_COMMAND` -/
def procon2LedCommand : Octets :=
  [0x09, 0x91, 0x01, 0x07, 0x00, 0x08, 0x00, 0x00, 0x01, 0x00, 0x00, 0x00, 0x00, 0x00, 0x00, 0x00]
def procon2SoundCommand : Octets :=
  [0x0a, 0x91, 0x01, 0x02, 0x00, 0x08, 0x00, 0x00, 0x04, 0x00, 0x00, 0x00, 0x00, 0x00, 0x00, 0x00]

/-- The payloads; the barrier has none.
Source: `switch2_ble_probe.py` `ProbeSession._procon2_init` (`commands`) -/
def procon2Commands (args : Args) : List (Option Octets) :=
  procon2InitCommands.map some ++
    (if !args.noLed || !args.noSound then [none] else []) ++
    (if args.noLed then [] else [some procon2LedCommand]) ++
    (if args.noSound then [] else [some procon2SoundCommand])

/-- The commands from the `n`-th one on, each followed by a sleep.
Source: `switch2_ble_probe.py` `ProbeSession._procon2_init` (loop) -/
def procon2Loop (s : Script) : ℕ → List (Option Octets) → State → Bool × State
  | _, [], st => (true, st)
  | n, none :: commands, st => procon2Loop s (n + 1) commands (pause s st)
  | n, some payload :: commands, st =>
      match writeGattChar s n payload false st with
      | (.ok _, st) => procon2Loop s (n + 1) commands (pause s st)
      | (.error _, st) => (false, st)

/-- Source: `switch2_ble_probe.py` `ProbeSession._procon2_init` -/
def procon2Init (s : Script) (st : State) : Bool × State :=
  if truthy st.session.cmdWriteHandle then procon2Loop s 0 (procon2Commands st.session.args) st
  else (false, st)

/-- Source: `switch2_ble_probe.py` `ProbeSession._get_host_mac` -/
def getHostMac (s : Script) : Vector UInt8 6 :=
  (s.hcitool.or s.backendAddress).getD (Vector.replicate 6 0)

/-- Source: `switch2_ble_probe.py` `build_pair_setmac` -/
def buildPairSetmac (hostMac : Vector UInt8 6) : Octets :=
  [0x00, 0x02] ++ hostMac.toList ++ hostMac.toList

/-- The second write comes after the first one failed; its exception goes on.
Source: `switch2_ble_probe.py` `ProbeSession._write_pair_command` -/
def writePairCommand (s : Script) (n : ℕ) (subId : UInt8) (data : Octets) (st : State) :
    Except PyErr Unit × State :=
  match buildCommand pairCmd subId data with
  | .error e => (.error e, st)
  | .ok payload =>
      match writeGattChar s n payload true st with
      | (.ok _, st) => (.ok (), st)
      | (.error _, st) => writeGattChar s n payload false st

/-- The commands from the `n`-th one on. -/
def pairLoop (s : Script) : ℕ → List PairStep → State → Except PyErr Bool × State
  | _, [], st => (.ok true, st)
  | n, step :: steps, st =>
      match writePairCommand s n step.subId step.data st with
      | (.ok _, st) => pairLoop s (n + 1) steps st
      | (.error e, st) => (.error e, st)

/-- Source: `switch2_ble_probe.py` `ProbeSession._pair` -/
def pair (s : Script) (st : State) : Except PyErr Bool × State :=
  pairLoop s 0 (pairSteps (buildPairSetmac (getHostMac s))) (pause s st)

/-! ## Subscription -/

/-- The notify characteristics of a tree. -/
def notifyCharacteristics (tree : List Service) : List Characteristic :=
  (tree.flatMap (·.characteristics)).filter fun c => "notify" ∈ c.properties

/-- The `n`-th call of `start_notify`. -/
def startNotify (s : Script) (n : ℕ) (st : State) : Bool × State :=
  (!failed (s.startNotify n), pause s { st with listening := true })

/-- Subscribe characteristics from the `n`-th one on.
Source: `switch2_ble_probe.py` `ProbeSession._subscribe` (loop) -/
def subscribeLoop (s : Script) : ℕ → List Characteristic → State → Bool × State
  | n, [], st => (n ≠ 0, st)
  | n, _ :: cs, st =>
      match startNotify s n st with
      | (true, st) => subscribeLoop s (n + 1) cs st
      | (false, st) => (false, st)

/-- Source: `switch2_ble_probe.py` `ProbeSession._subscribe` -/
def subscribe (s : Script) (st : State) : Bool × State :=
  if st.session.args.subscribeAllNotify then
    match s.notifyServices with
    | .error _ => (false, st)
    | .ok tree => subscribeLoop s 0 (notifyCharacteristics tree) st
  else startNotify s 0 st

/-! ## Waiting -/

/-- The options stay. -/
theorem reportCallback_args (n : Notification) (st : State) :
    (reportCallback n st).session.args = st.session.args := by
  unfold reportCallback
  split
  · rfl
  · rfl

theorem pause_args (s : Script) (st : State) :
    (pause s st).session.args = st.session.args := by
  have hfold : ∀ (ns : List Notification) (st : State),
      (ns.foldl (fun st n => reportCallback n st) st).session.args = st.session.args := by
    intro ns
    induction ns with
    | nil => exact fun st => rfl
    | cons n ns ih => exact fun st => (ih (reportCallback n st)).trans (reportCallback_args n st)
  unfold pause
  split
  · exact hfold _ _
  · rfl

/-- A report that is passed on counts. -/
theorem reportCallback_count (n : Notification) (st : State) :
    reportCallback n st = st ∨
      st.session.reportCount < (reportCallback n st).session.reportCount := by
  unfold reportCallback
  split
  · exact .inr (Nat.lt_succ_self _)
  · exact .inl rfl

/-- An await that sets the event counted a report. -/
theorem pause_count (s : Script) (st : State) (hclear : st.session.notifyEvent = false)
    (hset : (pause s st).session.notifyEvent = true) :
    st.session.reportCount < (pause s st).session.reportCount := by
  have hfold : ∀ (ns : List Notification) (st : State),
      ns.foldl (fun st n => reportCallback n st) st = st ∨
        st.session.reportCount <
          (ns.foldl (fun st n => reportCallback n st) st).session.reportCount := by
    intro ns
    induction ns with
    | nil => exact fun st => .inl rfl
    | cons n ns ih =>
        intro st
        rw [List.foldl_cons]
        rcases reportCallback_count n st with h | h
        · rw [h]
          exact ih st
        · rcases ih (reportCallback n st) with h' | h'
          · rw [h']
            exact .inr h
          · exact .inr (h.trans h')
  unfold pause at hset ⊢
  split at hset
  case isTrue hlistening =>
    rw [if_pos hlistening]
    rcases hfold (s.notifications st.awaits) { st with awaits := st.awaits + 1 } with h | h
    · rw [h] at hset
      exact absurd (hclear.symm.trans hset) Bool.false_ne_true
    · exact h
  case isFalse => exact absurd (hclear.symm.trans hset) Bool.false_ne_true

/-- `notify_event.clear()` -/
def clearEvent (st : State) : State :=
  { st with session := { st.session with notifyEvent := false } }

/-- Source: `switch2_ble_probe.py` `ProbeSession._wait_for_reports` -/
def waitForReports (s : Script) (st : State) : State :=
  let next := pause s (clearEvent st)
  if h : next.session.notifyEvent = true ∧ s.expired st.awaits = false ∧
      ¬ next.session.reportCount ≥ next.session.args.maxReports then
    waitForReports s next
  else next
termination_by (st.session.args.maxReports - st.session.reportCount).toNat
decreasing_by
  have hcount : st.session.reportCount < (pause s (clearEvent st)).session.reportCount :=
    pause_count s (clearEvent st) rfl h.1
  have hargs : (pause s (clearEvent st)).session.args = st.session.args :=
    pause_args s (clearEvent st)
  have hmore : ¬ ((pause s (clearEvent st)).session.reportCount : ℤ) ≥
      (pause s (clearEvent st)).session.args.maxReports := h.2.2
  rw [hargs] at hmore
  change ((pause s (clearEvent st)).session.args.maxReports - _).toNat < _
  rw [hargs]
  omega

/-! ## The run -/

/-- Source: `switch2_ble_probe.py` `ProbeSession.run` (from the virtual gamepads on) -/
def finish (s : Script) (st : State) : ℕ × State :=
  let args := st.session.args
  if args.xinput && !s.startXinput then (6, st)
  else if args.uinput && !s.startUinput then (6, st)
  else
    match if args.notifyBeforeInit then (true, st) else subscribe s st with
    | (false, st) => (5, st)
    | (true, st) =>
        let st := waitForReports s st
        (if 0 < st.session.reportCount then 0 else 5, st)

/-- Source: `switch2_ble_probe.py` `ProbeSession.run` (`mode`) -/
def initController (s : Script) (st : State) : Except PyErr Bool × State :=
  match st.session.args.mode with
  | .procon2 => (.ok (procon2Init s st).1, (procon2Init s st).2)
  | .pair => pair s st
  | .none => (.ok true, st)

/-- Source: `switch2_ble_probe.py` `ProbeSession.run` (from the controller init on) -/
def runInit (s : Script) (st : State) : Except PyErr ℕ × State :=
  match if st.session.args.notifyBeforeInit then subscribe s st else (true, st) with
  | (false, st) => (.ok 5, st)
  | (true, st) =>
      match initController s st with
      | (.error e, st) => (.error e, st)
      | (.ok false, st) => (.ok 4, st)
      | (.ok true, st) =>
          if st.session.args.pairOnly then (.ok 0, st)
          else (.ok (finish s st).1, (finish s st).2)

/-- Source: `switch2_ble_probe.py` `ProbeSession.run` -/
def run (s : Script) (st : State) : Except PyErr ℕ × State :=
  match scan st.session.args s with
  | none => (.ok 1, st)
  | some device =>
      let st := { st with session := { st.session with device := some device } }
      if connectWithRetries s st.session.args.connectRetries.toNat 1 then
        match discoverCharacteristics s st.session with
        | (false, session) => (.ok 3, { st with session := session })
        | (true, session) => runInit s { st with session := session }
      else (.ok 2, st)

/-- The options after the aliases.
Source: `switch2_ble_probe.py` `main` -/
def applyAliases (args : Args) : Args :=
  let args := if args.noPair then { args with mode := .none } else args
  if args.spro2win then { args with
    mode := .none
    inputUuid := "7492866c-ec3e-4619-8258-32755ffcc0f9"
    inputHandle := some 45
    subscribeAllNotify := true
    decodeProcon2 := false } else args

/-- The state of a new session. -/
def State.new (args : Args) : State where
  session := { Session.new args with jsonlFile := if args.dumpJsonl then some [] else none }
  listening := false
  awaits := 0
  arrived := []
  writes := []

/-- The exit code and the final state; an exception that comes out of the run is an internal error.
Source: `switch2_ble_probe.py` `main` -/
def main (args : Args) (s : Script) : ℕ × State :=
  match run s (State.new (applyAliases args)) with
  | (.ok code, st) => (code, st)
  | (.error _, st) => (99, st)

end Switch2Bt.Probe
