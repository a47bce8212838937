import Switch2Bt.Daemon.ScanDiagnostics

/-!
# Robustness of a scan (`switch2d.py`, `stage_scan`)

`parse_manufacturer_data` leaves the product id of data below 16 bytes `None`, and the scan formats
it with `04x` all the same: in the skip message of the strict mode if it is verbose, and for every
advertisement of the loose mode. `scanRobust_iff` says for which advertisements a scan goes through
without an exception.

* `scanCallback_ok_iff`: when the callback returns.
* `Latched`: the device that is found came with an accepted advertisement.
-/

namespace Switch2Bt

open Await

/-! ## Statement -/

/-- What the environment delivers during a scan from the `t`-th call on. -/
def scanEvents (env : DaemonEnv) (t : ℕ) : List Event :=
  env.events t ++ (env.events (t + 1) ++ env.events (t + 2))

/-- The scanner starts and stops. -/
structure ScannerWorks (env : DaemonEnv) (t : ℕ) : Prop where
  start : env.answer t .scannerStart = .ok ()
  stop : env.answer (t + 2) .scannerStop = .ok ()

/-- The data that is parsed has no product id. -/
def TooShort (adv : Advertisement) : Prop := ∃ data, readData adv = some data ∧ data.length < 16

/-- **A scan from the `t`-th call on is robust**: its callback never raises, neither does the scan,
it returns, and it finds a device only if an advertisement passed its filters. -/
structure ScanRobust (env : DaemonEnv) (t : ℕ) (w : World) : Prop where
  callback : ∀ device adv, Event.advert device adv ∈ scanEvents env t →
    ∀ w', w'.st.args = w.st.args → (scanCallback device adv w').2 = none
  noRaise : ∀ b e, (stageScan env ⟨w, t, b⟩).1 ≠ .raised e
  returns : ∀ b, 3 ≤ b → ∃ ok, (stageScan env ⟨w, t, b⟩).1 = .done ok
  found : ∀ b, (stageScan env ⟨w, t, b⟩).1 = .done true →
    ∃ device adv, Event.advert device adv ∈ scanEvents env t ∧
      passesAddress w.st.args device = true ∧ (w.st.args.looseScan = false →
        ∃ data, readData adv = some data ∧
          (parseManufacturerData data).productId = some proController2Pid)

/-! ## The callback -/

/-- **The callback returns** unless it formats a missing product id. -/
theorem scanCallback_ok_iff (device : BLEDevice) (adv : Advertisement) (w : World) :
    (scanCallback device adv w).2 = none ↔
      ((w.st.args.looseScan || w.st.args.verbose) = true →
        passesAddress w.st.args device = true → ¬ TooShort adv) := by
  unfold scanCallback TooShort
  rw [advInfo_eq]
  by_cases haddress : passesAddress w.st.args device = true
  · rw [if_pos haddress]
    rcases hread : readData adv with _ | data
    · simp
    · obtain ⟨hvendor, hproduct, -⟩ := parseManufacturerData_isSome data
      by_cases hlength : 16 ≤ data.length
      · -- both ids are there
        rw [decide_eq_true hlength] at hvendor hproduct
        simp only [Option.map_some]
        split <;> simp [← Option.not_isSome, hvendor, hproduct, hlength]
      · rw [decide_eq_false hlength] at hvendor hproduct
        have hpid : (parseManufacturerData data).productId = none := by
          simpa using hproduct
        have hpass : passesPid w.st.args (parseManufacturerData data) = w.st.args.looseScan := by
          unfold passesPid
          rw [hpid]
          exact Bool.or_false _
        simp only [Option.map_some, hpass]
        cases w.st.args.looseScan <;> cases w.st.args.verbose <;>
          simp [hpid, haddress, Nat.lt_of_not_le hlength]
  · rw [if_neg haddress]
    simp [haddress]

/-! ## The found device -/

/-- A scan with these options goes on, and the device it has found came with an accepted
advertisement among these events. -/
structure Latched (args : Args) (es : List Event) (w : World) : Prop where
  options : w.st.args = args
  locals : ∃ loc, w.scan = some loc ∧ ∀ device, loc.foundDevice = some device →
    ∃ adv, Event.advert device adv ∈ es ∧ acceptedInfo args device adv = some loc.foundInfo

variable {env : DaemonEnv} {t : ℕ} {args : Args} {es : List Event} {w : World}

/-- Other events leave the scan alone. -/
theorem dispatch_scan {e : Event} (he : ∀ device adv, e ≠ .advert device adv) (w : World) :
    (dispatch e w).scan = w.scan ∧ (dispatch e w).st.args = w.st.args := by
  cases e with
  | shutdown => exact ⟨rfl, rfl⟩
  | notification client n faults =>
      simp only [dispatch, handleReport]
      split
      · split
        · obtain ⟨uinput, jsonl, heq⟩ := acceptReport_eq n faults w.st
          simp [heq, DaemonState.countReport]
        · exact ⟨rfl, rfl⟩
      · exact ⟨rfl, rfl⟩
  | response client data =>
      simp only [dispatch]
      split
      · exact ⟨rfl, rfl⟩
      · exact ⟨rfl, rfl⟩
  | advert device adv => exact absurd rfl (he device adv)
  | linkLost client =>
      simp only [dispatch]
      split
      · exact ⟨rfl, rfl⟩
      · exact ⟨rfl, rfl⟩

theorem recordAdvert_scan (device : BLEDevice) (info : AdvInfo) (w : World) :
    (recordAdvert device info w).scan = w.scan.map (fun loc =>
      if loc.foundDevice.isNone then ⟨some device, info⟩ else loc) ∧
    (recordAdvert device info w).st.args = w.st.args := by
  unfold recordAdvert
  cases info.reconnectMac with
  | none => exact ⟨rfl, rfl⟩
  | some mac => exact ⟨rfl, rfl⟩

theorem Latched.dispatch {e : Event} (he : e ∈ es) (h : Latched args es w) :
    Latched args es (dispatch e w) := by
  obtain ⟨loc, hloc, hfound⟩ := h.locals
  by_cases hadvert : ∃ device adv, e = .advert device adv
  · obtain ⟨device, adv, rfl⟩ := hadvert
    have hargs : (w.emit (.advert device adv)).st.args = args := h.options
    have hscan : (w.emit (.advert device adv)).scan = some loc := hloc
    simp only [Switch2Bt.dispatch, hloc, Option.isSome_some, if_true, scanCallback_accepted, hargs]
    rcases haccepted : acceptedInfo args device adv with _ | info
    · exact ⟨hargs, loc, hscan, hfound⟩
    · obtain ⟨hrecord, hkept⟩ := recordAdvert_scan device info (w.emit (.advert device adv))
      refine ⟨hkept.trans hargs, _, by rw [hrecord, hscan]; rfl, ?_⟩
      rcases hnone : loc.foundDevice with _ | device'
      · dsimp only
        rw [hnone]
        intro _ hdevice
        cases hdevice
        exact ⟨adv, he, haccepted⟩
      · simpa [hnone] using hfound
  · obtain ⟨hscan, hargs⟩ := dispatch_scan (fun device adv heq => hadvert ⟨device, adv, heq⟩) w
    exact ⟨hargs.trans h.options, loc, hscan.trans hloc, hfound⟩

/-! ## The scan -/

/-- The world after the events of a scan. -/
def scannedWorld (env : DaemonEnv) (t : ℕ) (w : World) : World :=
  (scanEvents env t).foldl (fun w e => dispatch e w) w.openScan

theorem scannedWorld_latched (env : DaemonEnv) (t : ℕ) (w : World) :
    Latched w.st.args (scanEvents env t) (scannedWorld env t w) :=
  foldl_dispatch (I := Latched w.st.args (scanEvents env t)) (fun _ he _ h => h.dispatch he)
    ⟨rfl, _, rfl, fun _ h => by cases h⟩

/-- A scan whose scanner works ends as its last part does, after three awaits. -/
theorem stageScan_run (h : ScannerWorks env t) (b : ℕ) :
    (stageScan env ⟨w, t, b + 3⟩).1 =
      (finishScan (scannedWorld env t w).scan env
        ⟨(scannedWorld env t w).closeScan, t + 3, b⟩).1 := by
  unfold stageScan scannedWorld scanEvents
  simp only [Coro.bind_run, Coro.get_run, Coro.modify_run, awaitCall, Coro.await_run_succ, h.start,
    h.stop, List.foldl_append]

/-- A shorter run of it is suspended. -/
theorem stageScan_short (h : ScannerWorks env t) {b : ℕ} (hb : b < 3) :
    (stageScan env ⟨w, t, b⟩).1 = .suspended := by
  unfold stageScan
  obtain rfl | rfl | rfl : b = 0 ∨ b = 1 ∨ b = 2 := by omega
  · rfl
  · simp only [Coro.bind_run, Coro.get_run, Coro.modify_run, awaitCall, Coro.await_run_succ,
      h.start]
    rfl
  · simp only [Coro.bind_run, Coro.get_run, Coro.modify_run, awaitCall, Coro.await_run_succ,
      h.start]
    rfl

/-- The last part of a scan raises only if the device it has found has no product id. -/
theorem finishScan_run {loc : ScanLocals} {r : Run World}
    (hids : loc.foundDevice.isSome = true →
      loc.foundInfo.vendorId.isSome = true ∧ loc.foundInfo.productId.isSome = true) :
    (finishScan (some loc) env r).1 = .done loc.foundDevice.isSome := by
  obtain ⟨device, info⟩ := loc
  cases device with
  | none => rfl
  | some device =>
      obtain ⟨hvendor, hproduct⟩ := hids rfl
      have hlogged : (info.vendorId.isNone || info.productId.isNone) = false := by
        rw [← Option.not_isSome, ← Option.not_isSome, hvendor, hproduct]
        rfl
      simp only [finishScan, updateSt, Coro.bind_run, Coro.modify_run, hlogged]
      rfl

/-- The advertisements of a scan that pass the address filter have a product id, if the options are
such that it is formatted anyway. -/
def Formattable (env : DaemonEnv) (t : ℕ) (args : Args) : Prop :=
  (args.looseScan || args.verbose) = true → ∀ device adv,
    Event.advert device adv ∈ scanEvents env t → passesAddress args device = true → ¬ TooShort adv

/-- The device that is found has its ids: in the strict mode because it was accepted for them. -/
theorem Latched.ids {loc : ScanLocals} (h : Latched args (scanEvents env t) w)
    (hformat : Formattable env t args) (hloc : w.scan = some loc)
    (hfound : loc.foundDevice.isSome = true) :
    loc.foundInfo.vendorId.isSome = true ∧ loc.foundInfo.productId.isSome = true := by
  obtain ⟨loc', hloc', hlatched⟩ := h.locals
  obtain rfl : loc = loc' := Option.some.inj (hloc.symm.trans hloc')
  obtain ⟨device, hdevice⟩ := Option.isSome_iff_exists.mp hfound
  obtain ⟨adv, hmem, haccepted⟩ := hlatched device hdevice
  obtain ⟨haddress, data, hdata, hinfo, hstrict⟩ := acceptedInfo_passes haccepted
  obtain ⟨hvendor, hproduct, -⟩ := parseManufacturerData_isSome data
  rw [hinfo] at hstrict ⊢
  by_cases hlength : 16 ≤ data.length
  · rw [hvendor, hproduct, decide_eq_true hlength]
    exact ⟨rfl, rfl⟩
  · have hshort : TooShort adv := ⟨data, hdata, Nat.lt_of_not_le hlength⟩
    have hquiet : ¬ (args.looseScan || args.verbose) = true := fun hflags =>
      hformat hflags device adv hmem haddress hshort
    rw [Bool.not_eq_true, Bool.or_eq_false_iff] at hquiet
    rw [hstrict hquiet.1, decide_eq_false hlength] at hproduct
    cases hproduct

/-- The end of a scan whose scanner works. -/
theorem stageScan_done (h : ScannerWorks env t) (hformat : Formattable env t w.st.args) (b : ℕ) :
    ∃ loc, (scannedWorld env t w).scan = some loc ∧
      (stageScan env ⟨w, t, b + 3⟩).1 = .done loc.foundDevice.isSome := by
  have hlatched := scannedWorld_latched env t w
  obtain ⟨loc, hloc, -⟩ := hlatched.locals
  refine ⟨loc, hloc, ?_⟩
  rw [stageScan_run h, hloc]
  exact finishScan_run (hlatched.ids hformat hloc)

/-- **A scan is robust** exactly if no advertisement that passes the address filter lacks the
product id in the loose mode, or in the verbose one. -/
theorem scanRobust_iff (env : DaemonEnv) (t : ℕ) (w : World) (h : ScannerWorks env t) :
    ScanRobust env t w ↔ Formattable env t w.st.args := by
  constructor
  · intro hrobust hflags device adv hmem haddress
    have hok := hrobust.callback device adv hmem w rfl
    exact (scanCallback_ok_iff device adv w).mp hok hflags haddress
  · intro hformat
    have hcases : ∀ b, b < 3 ∨ ∃ k, b = k + 3 := fun b =>
      (Nat.lt_or_ge b 3).imp id fun hb => ⟨b - 3, by omega⟩
    constructor
    case callback =>
      intro device adv hmem w' hargs
      apply (scanCallback_ok_iff device adv w').mpr
      rw [hargs]
      exact fun hflags => hformat hflags device adv hmem
    case noRaise =>
      intro b e hraised
      rcases hcases b with hb | ⟨k, rfl⟩
      · rw [stageScan_short h hb] at hraised
        cases hraised
      · obtain ⟨loc, -, hdone⟩ := stageScan_done h hformat k
        rw [hdone] at hraised
        cases hraised
    case returns =>
      intro b hb
      obtain ⟨k, rfl⟩ := (hcases b).resolve_left (Nat.not_lt.mpr hb)
      obtain ⟨loc, -, hdone⟩ := stageScan_done h hformat k
      exact ⟨_, hdone⟩
    case found =>
      intro b htrue
      rcases hcases b with hb | ⟨k, rfl⟩
      · rw [stageScan_short h hb] at htrue
        cases htrue
      · obtain ⟨loc, hloc, hdone⟩ := stageScan_done h hformat k
        rw [hdone] at htrue
        obtain ⟨loc', hloc', hlatched⟩ := (scannedWorld_latched env t w).locals
        obtain rfl : loc = loc' := Option.some.inj (hloc.symm.trans hloc')
        have hfound : loc.foundDevice.isSome = true := by
          injection htrue
        obtain ⟨device, hdevice⟩ := Option.isSome_iff_exists.mp hfound
        obtain ⟨adv, hmem, haccepted⟩ := hlatched device hdevice
        obtain ⟨haddress, data, hdata, hinfo, hstrict⟩ := acceptedInfo_passes haccepted
        rw [hinfo] at hstrict
        exact ⟨device, adv, hmem, haddress, fun hmode => ⟨data, hdata, hstrict hmode⟩⟩

/-- The start of the program with `--loose-scan`. -/
def looseWorld : World := World.new { defaultArgs true false "macos" with looseScan := true }

/-- A loose scan of one controller is robust. -/
theorem scanRobust_onePad : ScanRobust onePadEnv 0 looseWorld := by
  apply (scanRobust_iff onePadEnv 0 looseWorld ⟨rfl, rfl⟩).mpr
  intro _ device adv hmem _
  simp only [scanEvents, onePadEnv, padEnv, List.append_nil, List.mem_singleton,
    Event.advert.injEq] at hmem
  obtain ⟨-, rfl⟩ := hmem
  rintro ⟨data, hdata, hshort⟩
  cases hdata
  exact absurd hshort (by decide)

/-- A device with one byte of manufacturer data advertises while the scanner starts. -/
def shortEnv : DaemonEnv := padEnv fun
  | 0 => [.advert ⟨"E0:EF:BF:3B:C6:76"⟩ ⟨[(nintendoMfrId, [0x01])]⟩]
  | _ => []

/-- A loose scan of this device raises. -/
theorem not_scanRobust_short :
    ¬ ∀ (env : DaemonEnv) (t : ℕ) (w : World), ScannerWorks env t → ScanRobust env t w := by
  intro hclaim
  have hrobust := hclaim shortEnv 0 looseWorld ⟨rfl, rfl⟩
  have hraised : (stageScan shortEnv ⟨looseWorld, 0, 3⟩).1 = .raised .typeError := by
    decide +kernel
  exact hrobust.noRaise 3 .typeError hraised

end Switch2Bt
