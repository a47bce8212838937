import Switch2Bt.Daemon.State

/-!
# Callbacks (`switch2d.py`, report handling and scan callback)

What runs while a coroutine awaits: the report handler (`handleReport`), the scan callback
(`scanCallback`), the collector of command responses, the disconnect callback and the signal
handler. `dispatch` is the effect of one such event on the world.

A notification reaches its handler only if the client has the handler registered: `start_notify`
registers it, a completed `disconnect` drops it.
-/

namespace Switch2Bt

/-! ## Reports -/

/-- Whether the handle filter of the active profile lets a notification pass.
Source: `switch2d.py` `handle_report` (handle filter) -/
def passesFilter (profile : ProtocolProfile) (handle : Option ℕ) : Bool :=
  match profile.spro2winHandle, handle with
  | some want, some h => h == want
  | _, _ => true

/-- Process an accepted report.
Source: `switch2d.py` `handle_report` (after the filter) -/
def acceptReport (n : Notification) (faults : ℕ → Buffered.Fault) (s : DaemonState) :
    DaemonState :=
  let hexStr := Octets.hex n.data
  let s := { s with
    reportCount := s.reportCount + 1
    totalReports := s.totalReports + 1
    notifyEvent := true
    stageReportsOk := true
    reportLengths := s.reportLengths ++ [n.data.length]
    reportTimestamps := s.reportTimestamps ++ [n.now]
    firstReportHex := some (s.firstReportHex.getD hexStr)
    lastReportHex := some hexStr }
  let s := { s with
    jsonlFile := s.jsonlFile.map (· ++ [{
      ts := pyRound (n.recordTime - s.startTime) 3
      report := s.reportCount
      handle := n.handle
      length := n.data.length
      hex := hexStr }]) }
  match decodeReport n.data with
  | none => s
  | some decoded => { s with uinput := s.uinput.map fun ui => (updateUinput faults ui decoded).1 }

/-- Process an incoming input report.
Source: `switch2d.py` `handle_report` -/
def handleReport (n : Notification) (faults : ℕ → Buffered.Fault) (w : World) : World :=
  if passesFilter w.st.activeProfile n.handle then
    (w.update (acceptReport n faults)).emit (.report n)
  else w

/-! ## Advertisements -/

/-- The value of a dict entry, if it is not empty (`mfg_data` as a condition). -/
def nonEmptyEntry (adv : Advertisement) (key : ℕ) : Option Octets :=
  (adv.manufacturerData.lookup key).filter (· ≠ [])

/-- Source: `switch2d.py` `stage_scan.callback` (address filter) -/
def passesAddress (args : Args) (device : BLEDevice) : Bool :=
  match args.address with
  | none => true
  | some filter => filter.isEmpty || upper device.address == upper filter

/-- What the callback parses out of an advertisement, if it gets that far.
Source: `switch2d.py` `stage_scan.callback` (up to `parse_manufacturer_data`) -/
def advInfo (args : Args) (device : BLEDevice) (adv : Advertisement) : Option AdvInfo :=
  if passesAddress args device then
    match nonEmptyEntry adv nintendoMfrId, nonEmptyEntry adv nintendoVid with
    | none, none => none
    | some mfgData, _ => some (parseManufacturerData mfgData)
    | none, some vidData =>
        if proController2PidLe <:+: vidData then some (parseManufacturerData vidData) else none
  else none

/-- Whether the strict product check lets an advertisement pass.
Source: `switch2d.py` `stage_scan.callback` (`strict_pid`) -/
def passesPid (args : Args) (info : AdvInfo) : Bool :=
  args.looseScan || info.productId == some proController2Pid

/-- The advertisements the callback takes for a controller, with what they say. -/
def acceptedInfo (args : Args) (device : BLEDevice) (adv : Advertisement) : Option AdvInfo :=
  (advInfo args device adv).filter (passesPid args)

/-- Take an advertisement for a controller: latch the first device, keep the diagnostics of this
one.
Source: `switch2d.py` `stage_scan.callback` -/
def recordAdvert (device : BLEDevice) (info : AdvInfo) (w : World) : World :=
  let w := { w with scan := w.scan.map fun loc =>
    if loc.foundDevice.isNone then ⟨some device, info⟩ else loc }
  match info.reconnectMac with
  | none => w
  | some mac => w.update fun s => { s with
      reconnectMacRaw := some mac
      reconnectMac := some (Octets.hexSep ":" mac)
      pairingMode := info.status.pairingMode
      pairedToHost := info.status.pairedToHost
      pairedToOtherHost := info.status.pairedToOtherHost }

/-- The scan callback: its effect, and the exception it ends with, if any. Formatting a missing
vendor or product id with `04x` raises `TypeError`; in the first branch this is the only effect,
in the second it comes after the others.
Source: `switch2d.py` `stage_scan.callback` -/
def scanCallback (device : BLEDevice) (adv : Advertisement) (w : World) : World × Option PyErr :=
  match advInfo w.st.args device adv with
  | none => (w, none)
  | some info =>
      if passesPid w.st.args info then
        (recordAdvert device info w,
          if info.vendorId.isNone || info.productId.isNone then some .typeError else none)
      else
        (w, if w.st.args.verbose && info.productId.isNone then some .typeError else none)

/-! ## Events -/

/-- What can happen while the program awaits. -/
inductive Event where
  /-- A signal set the shutdown flag. -/
  | shutdown
  /-- A client got a notification; the pattern says which uinput calls fail. -/
  | notification (client : ClientId) (n : Notification) (faults : ℕ → Buffered.Fault)
  /-- A client got a command response. -/
  | response (client : ClientId) (data : Octets)
  /-- A device advertised. -/
  | advert (device : BLEDevice) (adv : Advertisement)
  /-- The link of a client was lost. -/
  | linkLost (client : ClientId)

/-- The effect of an event: the handler that is registered for it runs. An exception of the scan
callback stays in the Bluetooth stack.
Source: `switch2d.py` `setup_signal_handlers.handler`, `_make_report_handler.handler`,
`_subscribe_command_response` (lambda), `stage_scan.callback`, `stage_connect.on_disconnect` -/
def dispatch (e : Event) (w : World) : World :=
  match e with
  | .shutdown => w.update fun s => { s with shutdown := true }
  | .notification client n faults => if client ∈ w.subs then handleReport n faults w else w
  | .response client data =>
      if client ∈ w.respSubs then
        w.update fun s => { s with pairResponses := s.pairResponses ++ [Octets.hex data] }
      else w
  | .advert device adv =>
      if w.scan.isSome then (scanCallback device adv (w.emit (.advert device adv))).1 else w
  | .linkLost client =>
      if client ∈ w.up then
        (({ w with up := w.up.filter (· != client) }).update
          fun s => { s with disconnectEvent := true }).emit (.linkLost client)
      else w

end Switch2Bt
