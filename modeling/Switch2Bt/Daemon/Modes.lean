import Switch2Bt.Daemon.Session

/-!
# The modes of the daemon (`switch2d.py`, auto-detect, diagnose, main)

`autoDetectMode` tries the profiles in order, `diagnoseMode` runs one session and prints a summary,
`asyncMain` selects the mode and cleans up.
-/

namespace Switch2Bt

open Await

/-! ## Summaries -/

/-- The differences between consecutive times, in milliseconds.
Source: `switch2d.py` `diagnose_mode`, `auto_detect_mode` (`intervals`) -/
def intervalsMs : List ℚ → List ℚ
  | a :: b :: ts => (b - a) * 1000 :: intervalsMs (b :: ts)
  | _ => []

/-- Minimum, maximum and average of a non-empty list. -/
def minMaxAvg (x : ℚ) (xs : List ℚ) : ℚ × ℚ × ℚ :=
  (xs.foldl min x, xs.foldl max x, (x :: xs).sum / (xs.length + 1))

/-- Source: `switch2d.py` `diagnose_mode`, `auto_detect_mode` (`telemetry`) -/
def DaemonState.telemetry (s : DaemonState) : Telemetry where
  lengths := match s.reportLengths with
    | [] => none
    | l :: ls => some (ls.foldl min l, ls.foldl max l,
        pyRound (((l :: ls).sum : ℕ) / ((ls.length + 1 : ℕ) : ℚ)) 1)
  intervals := match intervalsMs s.reportTimestamps with
    | [] => none
    | i :: is =>
        let m := minMaxAvg i is
        some (pyRound m.1 1, pyRound m.2.1 1, pyRound m.2.2 1)

/-- Source: `switch2d.py` `diagnose_mode`, `auto_detect_mode` (`stages`) -/
def DaemonState.stageFlags (s : DaemonState) : StageFlags where
  scan := s.stageScanOk
  connect := s.stageConnectOk
  discover := s.stageDiscoverOk
  subscribe := s.stageSubscribeOk
  reports := s.stageReportsOk
  uinput := s.uinput.isSome

/-- The summary of the state, with the fields the two modes fill differently.
Source: `switch2d.py` `diagnose_mode`, `auto_detect_mode` (`summary`) -/
def DaemonState.summary (s : DaemonState) (exitCode : ℕ) (head : SummaryHead) (reportCount : ℕ) :
    Summary where
  exitCode := exitCode
  head := head
  stages := s.stageFlags
  device := s.device.map (·.address)
  hostMac := s.hostMac
  inputUuid := s.inputReportUuid
  inputHandle := s.inputReportHandle
  commandResponseHandle := s.commandResponseHandle
  commandResponseUuid := commandResponseUuid
  reconnectMac := if falsyText s.reconnectMac then none else s.reconnectMac
  pairingMode := s.pairingMode
  pairedToHost := s.pairedToHost
  pairedToOtherHost := s.pairedToOtherHost
  pairSequenceOk := if s.pairSequenceOk then some true else none
  pairFailureStep := s.pairFailureStep
  pairResponses := if s.pairResponses = [] then none else some s.pairResponses
  reportCount := reportCount
  firstReportHex := s.firstReportHex
  lastReportHex := s.lastReportHex
  telemetry := s.telemetry

/-! ## Auto-detect mode -/

/-- The failure reason of an attempt.
Source: `switch2d.py` `_try_profile` (chain of `elif`) -/
def failureReason (s : DaemonState) (sessionOk : Bool) : String :=
  if sessionOk then "subscribed but zero reports"
  else if s.stageSubscribeOk then "subscribed but zero reports"
  else if s.stageConnectOk then "subscribe failed"
  else if s.stageScanOk then "connect failed"
  else "scan failed"

/-- Source: `switch2d.py` `_try_profile` (`result`) -/
def attemptResult (profile : ProtocolProfile) (s : DaemonState) (sessionOk : Bool) :
    AttemptResult :=
  let success := sessionOk && decide (0 < s.reportCount)
  { profile := profile.name
    source := profile.source
    success := success
    failureReason := if success then none else some (failureReason s sessionOk)
    reportCount := s.reportCount
    firstReportHex := s.firstReportHex }

/-- Try one profile.
Source: `switch2d.py` `_try_profile` -/
def tryProfile (profile : ProtocolProfile) : Daemon AttemptResult := do
  let sessionOk ← runSession (some profile)
  let w ← Coro.get
  let result := attemptResult profile w.st sessionOk
  if result.success then
    updateSt fun s => { s with winningProfile := some profile.name }
  pure result

/-- Clear the telemetry before an attempt (`last_report_hex` is kept).
Source: `switch2d.py` `auto_detect_mode` (loop, before `_try_profile`) -/
def DaemonState.clearTelemetry (s : DaemonState) : DaemonState :=
  { s with reportLengths := [], reportTimestamps := [], firstReportHex := none }

/-- Try the profiles of a list, in order, until one succeeds or shutdown.
Source: `switch2d.py` `auto_detect_mode` (loop) -/
def autoLoop : List String → Daemon Unit
  | [] => pure ()
  | name :: names => do
      let w ← Coro.get
      if w.st.shutdown then pure ()
      else
        updateSt DaemonState.clearTelemetry
        let result ← tryProfile ((protocolProfiles.lookup name).getD profileMacos)
        updateSt fun s => { s with attemptedProfiles := s.attemptedProfiles ++ [result] }
        if result.success then pure ()
        else
          if some name ≠ autoProfileOrder.getLast? then
            Coro.modify World.resetSession
          autoLoop names

/-- The exit code of auto-detect mode. -/
def autoExitCode (s : DaemonState) : ℕ := if falsyText s.winningProfile then 16 else 0

/-- Source: `switch2d.py` `auto_detect_mode` -/
def autoDetectMode : Daemon ℕ := do
  autoLoop autoProfileOrder
  let w ← Coro.get
  let winner := w.st.winningProfile
  emit (.summary (w.st.summary (autoExitCode w.st) (.auto w.st.attemptedProfiles winner)
    (if falsyText winner then 0 else w.st.reportCount)))
  pure (autoExitCode w.st)

/-! ## Diagnose mode -/

/-- Source: `switch2d.py` `diagnose_mode` (`exit_code`) -/
def diagnoseExitCode (s : DaemonState) (sessionOk : Bool) : ℕ :=
  if sessionOk && decide (0 < s.reportCount) then 0 else if sessionOk then 15 else 16

/-- Run one session of a profile and print the summary.
Source: `switch2d.py` `diagnose_mode` (explicit profile) -/
def diagnoseProfile (profile : ProtocolProfile) : Daemon ℕ := do
  let sessionOk ← runSession (some profile)
  let w ← Coro.get
  emit (.summary (w.st.summary (diagnoseExitCode w.st sessionOk) (.single profile.name)
    w.st.reportCount))
  pure (diagnoseExitCode w.st sessionOk)

/-- Source: `switch2d.py` `diagnose_mode` -/
def diagnoseMode : Daemon ℕ := do
  let w ← Coro.get
  if w.st.args.profile = "auto" then autoDetectMode
  else diagnoseProfile ((protocolProfiles.lookup w.st.args.profile).getD profileMacos)

/-! ## Main -/

/-- Daemon mode takes `auto` for `macos`.
Source: `switch2d.py` `async_main` (resolve profile) -/
def resolveProfile (args : Args) : Args :=
  if args.daemon ∧ args.profile = "auto" then { args with profile := "macos" } else args

/-- The single session of the default mode.
Source: `switch2d.py` `async_main` (neither `--diagnose` nor `--daemon`) -/
def singleSession (profile : String) : Daemon ℕ := do
  let sessionOk ← runSession (some ((protocolProfiles.lookup profile).getD profileMacos))
  let w ← Coro.get
  pure (if sessionOk && decide (0 < w.st.reportCount) then 0 else 16)

/-- Run the selected mode.
Source: `switch2d.py` `async_main` (inside `try`) -/
def runMode (args : Args) : Daemon ℕ :=
  if args.diagnose then diagnoseMode
  else if args.daemon then reconnectLoop
  else singleSession args.profile

/-- Create the gamepad if asked to. A failure is fatal in diagnose mode only.
Source: `switch2d.py` `async_main` (`setup_uinput`) -/
def prepareUinput (args : Args) : Daemon Bool := do
  if args.uinput then
    if ← queryCall .createUinput then
      updateSt fun s => { s with uinput := some setupUinput }
      pure true
    else pure (!args.diagnose)
  else pure true

/-- The program. The handler of `--dump-jsonl` is the list of records written.
Source: `switch2d.py` `async_main` -/
def asyncMain : Daemon ℕ := do
  let w ← Coro.get
  let args := resolveProfile w.st.args
  updateSt fun s => { s with args := args }
  if !(← stagePreflight) then pure 10
  else if !(← prepareUinput args) then pure 10
  else do
    if args.dumpJsonl then
      updateSt fun s => { s with jsonlFile := some [] }
    let result ← (runMode args).attempt
    cleanupClient
    match result with
    | .ok code => pure code
    | .error _ => pure 99

end Switch2Bt
