import Switch2Bt.Daemon.Effects

/-!
# Advertising diagnostics of a scan (`switch2d.py`, `stage_scan`)

The scan callback latches the first device it accepts, but stores the diagnostics of every
advertisement it accepts, until the scanner has stopped. `stageScan_diagnostics` says when they are
still those of the chosen device.

* `acceptedAdverts`: the advertisements of a trace the callback took for a controller.
* `Scanning`: the locals of the scan and the diagnostics, as functions of these.
* `DiagnosticsOfChosen`: the diagnostics belong to `state.device`.
-/

namespace Switch2Bt

open Await

/-! ## Diagnostics -/

/-- The advertising diagnostics of the daemon state. -/
structure Diagnostics where
  reconnectMacRaw : Option Octets
  reconnectMac : Option String
  pairingMode : Option Bool
  pairedToHost : Option Bool
  pairedToOtherHost : Option Bool
deriving DecidableEq, Repr

/-- No diagnostics. -/
def Diagnostics.empty : Diagnostics := ⟨none, none, none, none, none⟩

def DaemonState.diagnostics (s : DaemonState) : Diagnostics :=
  ⟨s.reconnectMacRaw, s.reconnectMac, s.pairingMode, s.pairedToHost, s.pairedToOtherHost⟩

/-- The diagnostics parsed from an advertisement.
Source: `switch2d.py` `stage_scan.callback` -/
def AdvInfo.diagnostics (info : AdvInfo) : Diagnostics :=
  ⟨info.reconnectMac, info.reconnectMac.map (Octets.hexSep ":"), info.status.pairingMode,
    info.status.pairedToHost, info.status.pairedToOtherHost⟩

/-- The advertisements of a trace that the scan callback took for a controller, with what they
say. -/
def acceptedAdverts (args : Args) (os : List Obs) : List (BLEDevice × AdvInfo) :=
  os.filterMap fun
    | .advert device adv => (acceptedInfo args device adv).map (device, ·)
    | _ => none

/-- Those of a list that carry a reconnect address. -/
def carriers (seen : List (BLEDevice × AdvInfo)) : List (BLEDevice × AdvInfo) :=
  seen.filter (·.2.reconnectMac.isSome)

/-- **The diagnostics belong to the chosen device**: they are those of one of its advertisements,
or empty if none of them carries a reconnect address. -/
def DiagnosticsOfChosen (seen : List (BLEDevice × AdvInfo)) (s : DaemonState) : Prop :=
  ∃ device, s.device = some device ∧
    ((∃ info, (device, info) ∈ carriers seen ∧ s.diagnostics = info.diagnostics) ∨
      ((∀ info, (device, info) ∉ carriers seen) ∧ s.diagnostics = Diagnostics.empty))

/-- The last advertisement with a reconnect address says what one of the first device says. -/
def LastCarrierAgrees (seen : List (BLEDevice × AdvInfo)) : Prop :=
  ∃ first last info, seen.head? = some first ∧ (carriers seen).getLast? = some last ∧
    (first.1, info) ∈ carriers seen ∧ info.diagnostics = last.2.diagnostics

/-! ## The callback -/

/-- The callback does something with accepted advertisements only. -/
theorem scanCallback_accepted (device : BLEDevice) (adv : Advertisement) (w : World) :
    (scanCallback device adv w).1 = match acceptedInfo w.st.args device adv with
      | none => w
      | some info => recordAdvert device info w := by
  unfold scanCallback acceptedInfo
  rcases advInfo w.st.args device adv with _ | info
  · rfl
  · by_cases hpid : passesPid w.st.args info
    · simp [hpid, Option.filter]
    · simp [hpid, Option.filter]

/-- The manufacturer data that is parsed: that of Nintendo's company id, or else that of the vendor
id, if the product id occurs in it.
Source: `switch2d.py` `stage_scan.callback` -/
def readData (adv : Advertisement) : Option Octets :=
  match nonEmptyEntry adv nintendoMfrId, nonEmptyEntry adv nintendoVid with
  | some mfgData, _ => some mfgData
  | none, some vidData => if proController2PidLe <:+: vidData then some vidData else none
  | none, none => none

theorem advInfo_eq (args : Args) (device : BLEDevice) (adv : Advertisement) :
    advInfo args device adv =
      if passesAddress args device then (readData adv).map parseManufacturerData else none := by
  unfold advInfo readData
  by_cases haddress : passesAddress args device = true
  · rw [if_pos haddress, if_pos haddress]
    rcases nonEmptyEntry adv nintendoMfrId with _ | mfgData
    · rcases nonEmptyEntry adv nintendoVid with _ | vidData
      · rfl
      · by_cases hpid : proController2PidLe <:+: vidData
        · simp [hpid]
        · simp [hpid]
    · rfl
  · rw [if_neg haddress, if_neg haddress]

/-- An accepted advertisement passed both filters. -/
theorem acceptedInfo_passes {args : Args} {device : BLEDevice} {adv : Advertisement}
    {info : AdvInfo} (h : acceptedInfo args device adv = some info) :
    passesAddress args device = true ∧ ∃ data, readData adv = some data ∧
      info = parseManufacturerData data ∧
        (args.looseScan = false → info.productId = some proController2Pid) := by
  obtain ⟨hinfo, hpid⟩ := Option.filter_eq_some_iff.mp h
  rw [advInfo_eq] at hinfo
  by_cases haddress : passesAddress args device = true
  · rw [if_pos haddress] at hinfo
    obtain ⟨data, hdata, rfl⟩ := Option.map_eq_some_iff.mp hinfo
    refine ⟨haddress, data, hdata, rfl, fun hstrict => ?_⟩
    unfold passesPid at hpid
    rw [hstrict, Bool.false_or] at hpid
    exact eq_of_beq hpid
  · rw [if_neg haddress] at hinfo
    cases hinfo

/-- An accepted advertisement has a reconnect address with its product id. -/
theorem acceptedInfo_mac {args : Args} {device : BLEDevice} {adv : Advertisement} {info : AdvInfo}
    (h : acceptedInfo args device adv = some info) :
    info.reconnectMac.isSome = info.productId.isSome := by
  obtain ⟨-, data, -, rfl, -⟩ := acceptedInfo_passes h
  obtain ⟨-, hproduct, hmac⟩ := parseManufacturerData_isSome data
  rw [hproduct, hmac]

/-! ## The scan -/

/-- During a scan from `w₀` the first accepted device is latched and the last diagnostics are
kept. -/
structure Scanning (w₀ w : World) (os : List Obs) (loc : ScanLocals) : Prop where
  trace : w.trace = w₀.trace ++ os
  args : w.st.args = w₀.st.args
  locals : w.scan = some loc
  found : loc.foundDevice = (acceptedAdverts w₀.st.args os).head?.map (·.1)
  info : ∀ first, (acceptedAdverts w₀.st.args os).head? = some first → loc.foundInfo = first.2
  diagnostics : w.st.diagnostics = ((carriers (acceptedAdverts w₀.st.args os)).getLast?.map
    (·.2.diagnostics)).getD w₀.st.diagnostics

/-- A scan is going on. -/
def World.ScanningFrom (w₀ w : World) : Prop := ∃ os loc, Scanning w₀ w os loc

variable {env : DaemonEnv} {w₀ w w' : World} {os : List Obs} {loc : ScanLocals}

theorem openScan_scanning (w : World) : w.ScanningFrom w.openScan :=
  ⟨[], _, (List.append_nil _).symm, rfl, rfl, rfl, fun _ h => (by cases h), rfl⟩

/-- Other observations are no advertisements. -/
theorem Scanning.emit (h : Scanning w₀ w os loc) {f : DaemonState → DaemonState}
    (hargs : (f w.st).args = w.st.args) (hf : (f w.st).diagnostics = w.st.diagnostics) {o : Obs}
    (ho : acceptedAdverts w₀.st.args [o] = []) :
    Scanning w₀ ((w.update f).emit o) (os ++ [o]) loc := by
  have hseen : acceptedAdverts w₀.st.args (os ++ [o]) = acceptedAdverts w₀.st.args os := by
    rw [acceptedAdverts, List.filterMap_append]
    exact (congrArg _ ho).trans (List.append_nil _)
  refine ⟨?_, hargs.trans h.args, h.locals, by rw [hseen]; exact h.found,
    by rw [hseen]; exact h.info,
    by rw [hseen]; exact hf.trans h.diagnostics⟩
  rw [World.emit_trace, World.update_trace, h.trace, List.append_assoc]

theorem Scanning.update (h : Scanning w₀ w os loc) {f : DaemonState → DaemonState}
    (hargs : (f w.st).args = w.st.args) (hf : (f w.st).diagnostics = w.st.diagnostics) :
    Scanning w₀ (w.update f) os loc :=
  ⟨h.trace, hargs.trans h.args, h.locals, h.found, h.info, hf.trans h.diagnostics⟩

/-- **An accepted advertisement** is latched if it is the first, and its diagnostics are kept if it
has any. -/
theorem Scanning.record (h : Scanning w₀ w os loc) {device : BLEDevice} {adv : Advertisement}
    {info : AdvInfo} (haccepted : acceptedInfo w₀.st.args device adv = some info) :
    w₀.ScanningFrom (recordAdvert device info (w.emit (.advert device adv))) := by
  have hseen : acceptedAdverts w₀.st.args (os ++ [.advert device adv]) =
      acceptedAdverts w₀.st.args os ++ [(device, info)] := by
    simp [acceptedAdverts, List.filterMap_append, haccepted]
  have hlocals : ∀ loc', loc' = (if loc.foundDevice.isNone then ⟨some device, info⟩ else loc) →
      loc'.foundDevice = (acceptedAdverts w₀.st.args (os ++ [.advert device adv])).head?.map (·.1) ∧
      ∀ first, (acceptedAdverts w₀.st.args (os ++ [.advert device adv])).head? = some first →
        loc'.foundInfo = first.2 := by
    rintro _ rfl
    rw [hseen]
    rcases hold : acceptedAdverts w₀.st.args os with _ | ⟨first, rest⟩
    · have hnone : loc.foundDevice = none := by rw [h.found, hold]; rfl
      rw [hnone]
      exact ⟨rfl, fun first hfirst => by cases hfirst; rfl⟩
    · have hsome : loc.foundDevice = some first.1 := by rw [h.found, hold]; rfl
      have hinfo : loc.foundInfo = first.2 := h.info first (by rw [hold]; rfl)
      rw [hsome]
      exact ⟨hsome, fun first' hfirst => by cases hfirst; exact hinfo⟩
  obtain ⟨hfound, hinfo⟩ := hlocals _ rfl
  have hscan : (w.emit (.advert device adv)).scan = some loc := h.locals
  have htrace : (w.emit (.advert device adv)).trace = w₀.trace ++ (os ++ [.advert device adv]) := by
    rw [World.emit_trace, h.trace, List.append_assoc]
  refine ⟨os ++ [.advert device adv],
    if loc.foundDevice.isNone then ⟨some device, info⟩ else loc, ?_⟩
  rcases hmac : info.reconnectMac with _ | mac
  · have hcarriers : carriers (acceptedAdverts w₀.st.args (os ++ [.advert device adv])) =
        carriers (acceptedAdverts w₀.st.args os) := by
      rw [hseen, carriers, List.filter_append]
      simp [carriers, hmac]
    refine ⟨?_, ?_, ?_, hfound, hinfo, ?_⟩
    · simpa [recordAdvert, hmac] using htrace
    · simpa [recordAdvert, hmac] using h.args
    · simp [recordAdvert, hmac, h.locals]
    · rw [hcarriers, ← h.diagnostics]
      simp [recordAdvert, hmac]
  · have hcarriers : carriers (acceptedAdverts w₀.st.args (os ++ [.advert device adv])) =
        carriers (acceptedAdverts w₀.st.args os) ++ [(device, info)] := by
      rw [hseen, carriers, List.filter_append]
      simp [carriers, hmac]
    refine ⟨?_, ?_, ?_, hfound, hinfo, ?_⟩
    · simpa [recordAdvert, hmac] using htrace
    · simpa [recordAdvert, hmac] using h.args
    · simp [recordAdvert, hmac, h.locals]
    · rw [hcarriers, List.getLast?_concat]
      simp [recordAdvert, hmac, DaemonState.diagnostics, AdvInfo.diagnostics]

/-- **Every event keeps the scan going.** -/
theorem dispatch_scanning (e : Event) (h : w₀.ScanningFrom w) :
    w₀.ScanningFrom (dispatch e w) := by
  obtain ⟨os, loc, h⟩ := h
  cases e with
  | shutdown => exact ⟨os, loc, h.update (f := fun s => { s with shutdown := true }) rfl rfl⟩
  | notification client n faults =>
      simp only [dispatch, handleReport]
      split
      · split
        · obtain ⟨uinput, jsonl, heq⟩ := acceptReport_eq n faults w.st
          exact ⟨_, loc, h.emit (by rw [heq]; rfl) (by rw [heq]; rfl) rfl⟩
        · exact ⟨os, loc, h⟩
      · exact ⟨os, loc, h⟩
  | response client data =>
      simp only [dispatch]
      split
      · exact ⟨os, loc, h.update rfl rfl⟩
      · exact ⟨os, loc, h⟩
  | advert device adv =>
      have hon : w.scan.isSome = true := by rw [h.locals]; rfl
      have hargs : (w.emit (.advert device adv)).st.args = w₀.st.args := h.args
      simp only [dispatch, hon, if_true, scanCallback_accepted, hargs]
      rcases haccepted : acceptedInfo w₀.st.args device adv with _ | info
      · refine ⟨_, loc, h.emit (f := id) rfl rfl ?_⟩
        simp [acceptedAdverts, haccepted]
      · exact h.record haccepted
  | linkLost client =>
      simp only [dispatch]
      split
      · have hup : Scanning w₀ { w with up := w.up.filter (· != client) } os loc :=
          ⟨h.trace, h.args, h.locals, h.found, h.info, h.diagnostics⟩
        exact ⟨_, loc, hup.emit rfl rfl rfl⟩
      · exact ⟨os, loc, h⟩

theorem awaitCall_scanning (c : Call) : Always env (w₀.ScanningFrom ·) (awaitCall c) :=
  Always.await c fun _ e _ _ h => dispatch_scanning e h

theorem mem_acceptedAdverts {args : Args} {a : BLEDevice × AdvInfo}
    (h : a ∈ acceptedAdverts args os) : ∃ adv, acceptedInfo args a.1 adv = some a.2 := by
  obtain ⟨o, -, ho⟩ := List.mem_filterMap.mp h
  split at ho
  · obtain ⟨info, hinfo, rfl⟩ := Option.map_eq_some_iff.mp ho
    exact ⟨_, hinfo⟩
  · cases ho

/-- What a successful scan chose and stored. -/
structure Scanned (w₀ w : World) (os : List Obs) (first : BLEDevice × AdvInfo) : Prop where
  trace : w.trace = w₀.trace ++ os
  chosen : (acceptedAdverts w₀.st.args os).head? = some first
  mac : first ∈ carriers (acceptedAdverts w₀.st.args os)
  device : w.st.device = some first.1
  diagnostics : w.st.diagnostics = ((carriers (acceptedAdverts w₀.st.args os)).getLast?.map
    (·.2.diagnostics)).getD w₀.st.diagnostics

/-- A scan that finds a device chose the first one accepted, which has a reconnect address: it has a
product id, else logging it raises. -/
theorem finishScan_scanned (h : Scanning w₀ w os loc) : wp env (finishScan (some loc))
    ⟨fun ok w' => ok = true → ∃ first, Scanned w₀ w' os first, fun _ _ => True, fun _ => True⟩
    w.closeScan := by
  obtain ⟨foundDevice, foundInfo⟩ := loc
  rcases foundDevice with _ | device
  · exact (wp_pure _).mpr fun hok => by cases hok
  refine (wp_modify_bind _ _).mpr (wp_ite (fun _ => (wp_raise _).mpr trivial) fun hlogged => ?_)
  refine (wp_pure _).mpr fun _ => ?_
  obtain ⟨first, hfirst, hdevice⟩ := Option.map_eq_some_iff.mp h.found.symm
  obtain rfl : foundInfo = first.2 := h.info first hfirst
  obtain rfl : first.1 = device := hdevice
  have hmem := List.mem_of_head? hfirst
  obtain ⟨adv, haccepted⟩ := mem_acceptedAdverts hmem
  refine ⟨first, h.trace, hfirst, List.mem_filter.mpr ⟨hmem, ?_⟩, rfl, h.diagnostics⟩
  rw [acceptedInfo_mac haccepted]
  simp only [Bool.or_eq_true, Option.isNone_iff_eq_none, not_or] at hlogged
  exact Option.isSome_iff_ne_none.mpr hlogged.2

theorem stageScan_scanned (w : World) : wp env stageScan
    ⟨fun ok w' => ok = true → ∃ os first, Scanned w w' os first, fun _ _ => True, fun _ => True⟩
    w := by
  refine (wp_get_bind _).mpr ((wp_modify_bind _ _).mpr ?_)
  refine (awaitCall_scanning .scannerStart).wp_bind (openScan_scanning w) (fun started w₁ h₁ => ?_)
    (fun _ _ _ => trivial) fun _ _ => trivial
  rcases started with e | _
  · exact (wp_modify_bind _ _).mpr ((wp_raise _).mpr trivial)
  refine (awaitCall_scanning _).wp_bind h₁ (fun _ w₂ h₂ => ?_) (fun _ _ _ => trivial)
    fun _ _ => trivial
  refine (awaitCall_scanning .scannerStop).wp_bind h₂ (fun stopped w₃ h₃ => ?_)
    (fun _ _ _ => trivial) fun _ _ => trivial
  refine (wp_get_bind _).mpr ((wp_modify_bind _ _).mpr ?_)
  rcases stopped with e | _
  · exact (wp_raise _).mpr trivial
  obtain ⟨os, loc, h⟩ := h₃
  rw [show w₃.scan = some loc from h.locals]
  exact (finishScan_scanned h).mono (fun _ _ h hok => ⟨os, h hok⟩) (fun _ _ h => h) fun _ h => h

/-- The diagnostics of a successful scan are those of the last advertisement that carries a
reconnect address. -/
theorem Scanned.diagnosticsOfChosen_iff {first : BLEDevice × AdvInfo} (h : Scanned w₀ w os first) :
    DiagnosticsOfChosen (acceptedAdverts w₀.st.args os) w.st ↔
      LastCarrierAgrees (acceptedAdverts w₀.st.args os) := by
  obtain ⟨last, hlast⟩ : ∃ last, (carriers (acceptedAdverts w₀.st.args os)).getLast? = some last :=
    ⟨_, List.getLast?_eq_some_getLast (List.ne_nil_of_mem h.mac)⟩
  have hdiagnostics : w.st.diagnostics = last.2.diagnostics := by
    rw [h.diagnostics, hlast]
    rfl
  constructor
  · rintro ⟨device, hdevice, hchosen⟩
    obtain rfl : first.1 = device := Option.some.inj (h.device.symm.trans hdevice)
    rcases hchosen with ⟨info, hmem, heq⟩ | ⟨hnone, -⟩
    · exact ⟨first, last, info, h.chosen, hlast, hmem, heq.symm.trans hdiagnostics⟩
    · exact absurd h.mac (hnone first.2)
  · rintro ⟨first', last', info, hfirst', hlast', hmem, heq⟩
    obtain rfl : first = first' := Option.some.inj (h.chosen.symm.trans hfirst')
    obtain rfl : last = last' := Option.some.inj (hlast.symm.trans hlast')
    exact ⟨first.1, h.device, .inl ⟨info, hmem, hdiagnostics.trans heq.symm⟩⟩

/-- **The diagnostics of a successful scan belong to the chosen device** exactly if the last
accepted advertisement that carries a reconnect address says what one of that device says. -/
theorem stageScan_diagnostics (env : DaemonEnv) (start : Run World)
    (hok : (stageScan env start).1 = .done true) :
    ∃ os, (stageScan env start).2.state.trace = start.state.trace ++ os ∧
      (DiagnosticsOfChosen (acceptedAdverts start.state.st.args os)
          (stageScan env start).2.state.st ↔
        LastCarrierAgrees (acceptedAdverts start.state.st.args os)) := by
  obtain ⟨os, first, h⟩ := (stageScan_scanned start.state).done hok rfl
  exact ⟨os, h.trace, h.diagnosticsOfChosen_iff⟩

/-- A scan at the start of the program. -/
def scanStart : Run World := ⟨World.new (defaultArgs true false "macos"), 0, 20⟩

/-- One controller advertises while the scanner starts. -/
def onePadEnv : DaemonEnv := padEnv fun
  | 0 => [.advert ⟨"E0:EF:BF:3B:C6:76"⟩ (padAdvert [1, 2, 3, 4, 5, 6])]
  | _ => []

/-- The diagnostics of a scan of one controller belong to it. -/
theorem stageScan_diagnostics_onePad :
    DiagnosticsOfChosen (acceptedAdverts scanStart.state.st.args
      (stageScan onePadEnv scanStart).2.state.trace)
      (stageScan onePadEnv scanStart).2.state.st := by
  obtain ⟨os, htrace, hiff⟩ := stageScan_diagnostics onePadEnv scanStart (by decide +kernel)
  have hos : (stageScan onePadEnv scanStart).2.state.trace = os := htrace
  rw [hos]
  refine hiff.mpr ?_
  rw [← hos]
  have hseen : acceptedAdverts scanStart.state.st.args
      (stageScan onePadEnv scanStart).2.state.trace = [(⟨"E0:EF:BF:3B:C6:76"⟩,
        ⟨some 0x057E, some 0x2069, some [1, 2, 3, 4, 5, 6], ⟨some false, none, none⟩⟩)] := by
    decide +kernel
  rw [hseen]
  exact ⟨_, _, _, rfl, rfl, List.mem_singleton_self _, rfl⟩

/-- Another controller advertises while the scanner stops. -/
def twoPadsEnv : DaemonEnv := padEnv fun
  | 0 => [.advert ⟨"E0:EF:BF:3B:C6:76"⟩ (padAdvert [1, 2, 3, 4, 5, 6])]
  | 2 => [.advert ⟨"E0:EF:BF:11:22:33"⟩ (padAdvert [0, 0, 0, 0, 0, 0])]
  | _ => []

/-- A scan of two controllers chooses the first one, and keeps the diagnostics of the second:
pairing mode. -/
theorem stageScan_otherDevice : (stageScan twoPadsEnv scanStart).1 = .done true ∧
    ¬DiagnosticsOfChosen (acceptedAdverts scanStart.state.st.args
      (stageScan twoPadsEnv scanStart).2.state.trace)
      (stageScan twoPadsEnv scanStart).2.state.st := by
  have hdevice : (stageScan twoPadsEnv scanStart).2.state.st.device =
      some ⟨"E0:EF:BF:3B:C6:76"⟩ := by decide +kernel
  have hpairing : (stageScan twoPadsEnv scanStart).2.state.st.diagnostics.pairingMode =
      some true := by decide +kernel
  have hother : (carriers (acceptedAdverts scanStart.state.st.args
      (stageScan twoPadsEnv scanStart).2.state.trace)).all (fun a =>
        a.1 != ⟨"E0:EF:BF:3B:C6:76"⟩ || a.2.diagnostics.pairingMode == some false) = true := by
    decide +kernel
  refine ⟨by decide +kernel, ?_⟩
  rintro ⟨device, hchosen, hbelong⟩
  obtain rfl := Option.some.inj (hdevice.symm.trans hchosen)
  rcases hbelong with ⟨info, hmem, heq⟩ | ⟨-, hempty⟩
  · rw [heq] at hpairing
    simpa [hpairing] using List.all_eq_true.mp hother _ hmem
  · rw [hempty] at hpairing
    cases hpairing

end Switch2Bt
