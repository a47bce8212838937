import Switch2Bt.Daemon.Callbacks

/-!
# The stages of a session (`switch2d.py`, scan to subscribe)

Each `stage_*` coroutine of the source is a computation over the world. What the Bluetooth stack
answers is the environment's choice (`Call`, `Answer`); while a call is awaited, callbacks run
(`dispatch`).

A `try … except Exception` around a single call is the `Except` answer of that call; an exception
the source does not catch is raised.
-/

namespace Switch2Bt

open Await

/-! ## Calls -/

/-- The calls whose outcome the environment chooses. -/
inductive Call where
  /-- `BleakScanner.discover`. -/
  | discover (timeout : ℚ)
  /-- `BleakScanner.__aenter__`. -/
  | scannerStart
  /-- `wait_for(found_event.wait(), timeout)`; its `TimeoutError` is ignored by the source. -/
  | waitFound (timeout : ℚ)
  /-- `BleakScanner.__aexit__`. -/
  | scannerStop
  /-- `wait_for(client.connect(), 20)`. -/
  | connect (client : ClientId)
  /-- `asyncio.sleep`. -/
  | sleep (delay : ℚ)
  /-- `asyncio.sleep` inside a `wait_for`: the answer says whether the outer timeout expired. -/
  | sleepWithin (delay limit : ℚ)
  /-- The property `client.services` (not awaited). -/
  | services (client : ClientId)
  /-- `client.get_services()`. -/
  | getServices (client : ClientId)
  /-- `client.start_notify`. -/
  | startNotify (client : ClientId) (target : NotifyTarget)
  /-- `client.write_gatt_char(…, response=False)`. -/
  | writeGattChar (client : ClientId) (uuid : Option String) (payload : Octets)
  /-- `wait_for(notify_event.wait(), timeout)`: whether it timed out. -/
  | waitNotify (timeout : ℚ)
  /-- `wait_for(disconnect_event.wait(), timeout)`. -/
  | waitDisconnect (timeout : ℚ)
  /-- `client.disconnect()`. -/
  | disconnect (client : ClientId)
  /-- `get_host_bluetooth_mac()` (not awaited). -/
  | hostMac
  /-- Creating the uinput device (not awaited): whether it succeeds. -/
  | createUinput

/-- The answer to each call. A service tree may be missing (`None` or falsy). -/
@[reducible] def Answer : Call → Type
  | .discover _ | .scannerStart | .scannerStop | .connect _ | .startNotify _ _
  | .writeGattChar _ _ _ | .disconnect _ => Except PyErr Unit
  | .waitFound _ | .sleep _ | .waitDisconnect _ => Unit
  | .sleepWithin _ _ | .waitNotify _ | .createUinput => Bool
  | .services _ | .getServices _ => Except PyErr (Option (List Service))
  | .hostMac => Option String

/-- The environment of the daemon. -/
abbrev DaemonEnv := Env Call Answer Event

/-- A coroutine of the daemon. -/
abbrev Daemon (α : Type) := Coro DaemonEnv World PyErr α

/-- Await a call; callbacks run meanwhile. -/
def awaitCall (c : Call) : Daemon (Answer c) := Coro.await dispatch c

/-- Make a synchronous call. -/
def queryCall (c : Call) : Daemon (Answer c) := Coro.query c

/-- Update the daemon state. -/
def updateSt (f : DaemonState → DaemonState) : Daemon Unit := Coro.modify (World.update f)

/-- Record an observation. -/
def emit (o : Obs) : Daemon Unit := Coro.modify (World.emit o)

/-- Call a method of `state.client`; on `None` this is an `AttributeError`. -/
def withClient {α : Type} (call : ClientId → Daemon (Except PyErr α)) :
    Daemon (Except PyErr α) := do
  let w ← Coro.get
  match w.st.client with
  | none => pure (.error .attributeError)
  | some id => call id

/-! ## Preflight -/

/-- Source: `switch2d.py` `stage_preflight` (bleak and evdev are installed) -/
def stagePreflight : Daemon Bool := do
  match ← awaitCall (.discover 2) with
  | .ok _ => pure true
  | .error _ => pure false

/-! ## Scan -/

/-- Turn the scanner on, with fresh locals. -/
def World.openScan (w : World) : World :=
  { w with scan := some ⟨none, ⟨none, none, none, ⟨none, none, none⟩⟩⟩ }

/-- Turn the scanner off. -/
def World.closeScan (w : World) : World := { w with scan := none }

/-- The end of the scan: store the found device, then log it. Formatting a missing vendor or
product id raises `TypeError`.
Source: `switch2d.py` `stage_scan` (after the scanner has stopped) -/
def finishScan (found : Option ScanLocals) : Daemon Bool :=
  match found with
  | some ⟨some device, info⟩ => do
      updateSt fun s => { s with device := some device, stageScanOk := true }
      if info.vendorId.isNone || info.productId.isNone then Coro.raise .typeError
      else pure true
  | _ => pure false

/-- Source: `switch2d.py` `stage_scan` -/
def stageScan : Daemon Bool := do
  let w ← Coro.get
  Coro.modify World.openScan
  match ← awaitCall .scannerStart with
  | .error e => do
      Coro.modify World.closeScan
      Coro.raise e
  | .ok _ => do
      let _ ← awaitCall (.waitFound w.st.args.scanTimeout)
      let stopped ← awaitCall .scannerStop
      let w ← Coro.get
      Coro.modify World.closeScan
      match stopped with
      | .error e => Coro.raise e
      | .ok _ => finishScan w.scan

/-! ## Connect -/

/-- A client is connected and stored.
Source: `switch2d.py` `stage_connect` (success) -/
def World.storeClient (id : ClientId) (w : World) : World :=
  (({ w with up := id :: w.up }.setClient (some id)).update
    fun s => { s with stageConnectOk := true }).emit (.stored id)

/-- The connect attempts, `remaining` of them, starting with number `attempt`.
Source: `switch2d.py` `stage_connect` (loop) -/
def connectAttempts (id : ClientId) : (remaining attempt : ℕ) → Daemon Bool
  | 0, _ => pure false
  | k + 1, attempt => do
      if 1 < attempt then
        let _ ← awaitCall (.sleep (min (1 * attempt) 5))
      match ← awaitCall (.connect id) with
      | .ok _ => do
          Coro.modify (World.storeClient id)
          pure true
      | .error _ => connectAttempts id k (attempt + 1)

/-- Source: `switch2d.py` `stage_connect` -/
def stageConnect : Daemon Bool := do
  let w ← Coro.get
  Coro.modify fun w => { w with nextClient := w.nextClient + 1 }
  connectAttempts w.nextClient w.st.args.connectRetries.toNat 1

/-! ## Discover -/

/-- The attempts to get the service tree, `remaining` of them.
Source: `switch2d.py` `stage_discover` (loop) -/
def fetchServices : (remaining : ℕ) → Daemon (Option (List Service))
  | 0 => pure none
  | k + 1 => do
      match ← withClient fun id => queryCall (.services id) with
      | .ok (some tree) => pure (some tree)
      | _ => do
          match ← withClient fun id => awaitCall (.getServices id) with
          | .ok (some tree) => pure (some tree)
          | _ => do
              if 0 < k then
                let _ ← awaitCall (.sleep (1 / 2))
              fetchServices k

/-- Whether a profile names a command characteristic. -/
def ProtocolProfile.hasCommand (p : ProtocolProfile) : Bool := !falsyText p.commandUuid

/-- The candidate UUID a characteristic matches, if the profile looks for one.
Source: `switch2d.py` `stage_discover` (`candidate_uuid`) -/
def matchInput (profile : ProtocolProfile) (c : Characteristic) : Option String :=
  if profile.subscribeStrategy = .selected then
    profile.inputUuids.find? fun candidate => lower c.uuid == lower candidate
  else none

/-- Match the input characteristic, unless one is matched already. -/
def discoverInput (profile : ProtocolProfile) (c : Characteristic) (w : World) : World :=
  if falsyHandle w.st.inputReportHandle then
    match matchInput profile c with
    | some candidate =>
        (w.update fun s => { s with
          inputReportHandle := some c.handle
          inputReportUuid := some candidate }).emit (.inputMatched candidate c.handle)
    | none => w
  else w

/-- Match one characteristic.
Source: `switch2d.py` `stage_discover` (loop over characteristics) -/
def discoverChar (profile : ProtocolProfile) (w : World) (c : Characteristic) : World :=
  (discoverInput profile c w).update fun s => { s with
    cmdWriteHandle :=
      if profile.hasCommand && profile.commandUuid.map lower == some (lower c.uuid) then
        some c.handle
      else s.cmdWriteHandle
    commandResponseHandle :=
      if lower c.uuid == lower commandResponseUuid then some c.handle
      else s.commandResponseHandle }

/-- Forget the handles of an earlier discovery, then match every characteristic.
Source: `switch2d.py` `stage_discover` -/
def discoverTree (profile : ProtocolProfile) (tree : List Service) (w : World) : World :=
  (tree.flatMap (·.characteristics)).foldl (discoverChar profile)
    ((w.update fun s => { s with
      cmdWriteHandle := none
      commandResponseHandle := none
      inputReportHandle := none
      inputReportUuid := none }).emit (.servicesRead tree))

/-- Register the command-response handler and issue `start_notify`. -/
def startNotifyResponse : Daemon (Except PyErr Unit) :=
  withClient fun id => do
    Coro.modify fun w => { w with respSubs := id :: w.respSubs }
    emit .notifyResponse
    awaitCall (.startNotify id (.uuid commandResponseUuid))

/-- Source: `switch2d.py` `_subscribe_command_response` -/
def subscribeCommandResponse : Daemon Bool := do
  let w ← Coro.get
  if w.st.commandResponseSubscribed then pure true
  else
    match ← startNotifyResponse with
    | .ok _ => do
        updateSt fun s => { s with commandResponseSubscribed := true }
        pure true
    | .error _ => pure false

/-- Source: `switch2d.py` `stage_discover` (after the required characteristics are found) -/
def finishDiscover (profile : ProtocolProfile) : Daemon Bool := do
  let w ← Coro.get
  let subscribed ←
    if profile.pairs && !falsyHandle w.st.commandResponseHandle then subscribeCommandResponse
    else pure true
  if subscribed then
    updateSt fun s => { s with stageDiscoverOk := true }
    pure true
  else pure false

/-- Source: `switch2d.py` `stage_discover` -/
def stageDiscover : Daemon Bool := do
  let w ← Coro.get
  let profile := w.st.activeProfile
  match ← fetchServices w.st.args.gattRetries.toNat with
  | none => pure false
  | some tree => do
      Coro.modify (discoverTree profile tree)
      let w ← Coro.get
      if profile.subscribeStrategy = .selected ∧ falsyHandle w.st.inputReportHandle then pure false
      else if profile.hasCommand && falsyHandle w.st.cmdWriteHandle then pure false
      else finishDiscover profile

/-! ## Pair -/

/-- Write a characteristic without response, and record how it went. -/
def writeGattChar (uuid : Option String) (payload : Octets) : Daemon (Except PyErr Unit) := do
  let r ← withClient fun id => awaitCall (.writeGattChar id uuid payload)
  emit (.gattWrite uuid payload r.isOk)
  pure r

/-- Wait for the response to a pair step and report it; `base` responses are older than the pair
sequence.
Source: `switch2d.py` `stage_pair` (loop, after the write) -/
def awaitPairResponse (base : ℕ) (step : PairStep) : Daemon Unit := do
  let w ← Coro.get
  if w.st.commandResponseSubscribed then
    let _ ← awaitCall (.sleep (1 / 2))
    let w ← Coro.get
    let newResponses := w.st.pairResponses.length - base
    if newResponses = 0 then emit (.pairResponse step.name none)
    else emit (.pairResponse step.name w.st.pairResponses.getLast?)
  else
    let _ ← awaitCall (.sleep (1 / 10))

/-- Source: `switch2d.py` `stage_pair` (loop over `pair_steps`) -/
def pairLoop (uuid : Option String) (base : ℕ) : List PairStep → Daemon Bool
  | [] => pure true
  | step :: steps => do
      let payload ← Coro.ofExcept (buildCommand pairCmd step.subId step.data)
      match ← writeGattChar uuid payload with
      | .error _ => do
          updateSt fun s => { s with pairFailureStep := some step.name }
          pure false
      | .ok _ => do
          awaitPairResponse base step
          pairLoop uuid base steps

/-- The pair sequence with a known host address. With or without responses it counts as done.
Source: `switch2d.py` `stage_pair` -/
def pairSequence (profile : ProtocolProfile) (hostMac : String) : Daemon Bool := do
  let setmac ← Coro.ofExcept (buildSetmacPayload hostMac)
  let w ← Coro.get
  if ← pairLoop profile.commandUuid w.st.pairResponses.length (pairSteps setmac) then
    updateSt fun s => { s with pairSequenceOk := true }
    pure true
  else pure false

/-- Source: `switch2d.py` `stage_pair` -/
def stagePair : Daemon Bool := do
  let w ← Coro.get
  let profile := w.st.activeProfile
  if !profile.pairs then pure true
  else
    let hostMac ← queryCall .hostMac
    updateSt fun s => { s with hostMac := hostMac }
    if falsyText hostMac then
      updateSt fun s => { s with pairFailureStep := some "host_mac" }
      pure false
    else if falsyHandle w.st.cmdWriteHandle then
      updateSt fun s => { s with pairFailureStep := some "no_cmd_handle" }
      pure false
    else pairSequence profile (hostMac.getD "")

/-! ## Init -/

/-- Source: `switch2d.py` `stage_init` (loop over `init_commands`) -/
def initLoop (uuid : Option String) : List InitCommand → Daemon Bool
  | [] => pure true
  | c :: cs => do
      match ← writeGattChar uuid c.payload with
      | .error _ => pure false
      | .ok _ => do
          if c.delayS ≠ 0 then
            let _ ← awaitCall (.sleep c.delayS)
          initLoop uuid cs

/-- Source: `switch2d.py` `stage_init` -/
def stageInit : Daemon Bool := do
  let w ← Coro.get
  initLoop w.st.activeProfile.commandUuid w.st.activeProfile.initCommands

/-! ## Subscribe -/

/-- Register the report handler and issue `start_notify`. -/
def startNotifyInput (target : NotifyTarget) : Daemon (Except PyErr Unit) :=
  withClient fun id => do
    Coro.modify fun w => { w with subs := id :: w.subs }
    emit (.notifyInput target)
    awaitCall (.startNotify id target)

/-- The attempts to subscribe the matched characteristic, `remaining` of them.
Source: `switch2d.py` `stage_subscribe` (loop) -/
def subscribeAttempts (uuid : String) : (remaining : ℕ) → Daemon Bool
  | 0 => pure false
  | k + 1 => do
      match ← startNotifyInput (.uuid uuid) with
      | .ok _ => do
          updateSt fun s => { s with stageSubscribeOk := true }
          pure true
      | .error _ => do
          if 0 < k then
            let _ ← awaitCall (.sleep (1 / 2))
          subscribeAttempts uuid k

/-- Subscribe the notify characteristics of a list; the result is their number.
Source: `switch2d.py` `_subscribe_all_notify` (loop) -/
def subscribeChars : List Characteristic → (count : ℕ) → Daemon ℕ
  | [], count => pure count
  | c :: cs, count => do
      if "notify" ∈ c.properties then
        match ← startNotifyInput (.characteristic c.handle) with
        | .ok _ => do
            updateSt fun s => { s with
              inputReportHandle := some (s.inputReportHandle.getD c.handle) }
            emit (.subscribed c.handle)
            subscribeChars cs (count + 1)
        | .error _ => subscribeChars cs count
      else subscribeChars cs count

/-- Iterating over missing services raises `TypeError`.
Source: `switch2d.py` `_subscribe_all_notify` -/
def subscribeAllNotify : Daemon Bool := do
  let answer ← withClient fun id => queryCall (.services id)
  match ← Coro.ofExcept answer with
  | none => Coro.raise .typeError
  | some tree => do
      let count ← subscribeChars (tree.flatMap (·.characteristics)) 0
      if count = 0 then pure false
      else
        updateSt fun s => { s with stageSubscribeOk := true }
        pure true

/-- Source: `switch2d.py` `stage_subscribe` -/
def stageSubscribe : Daemon Bool := do
  let w ← Coro.get
  match w.st.activeProfile.subscribeStrategy with
  | .all => subscribeAllNotify
  | .selected =>
      if falsyText w.st.inputReportUuid then pure false
      else subscribeAttempts (w.st.inputReportUuid.getD "") w.st.args.gattRetries.toNat

end Switch2Bt
