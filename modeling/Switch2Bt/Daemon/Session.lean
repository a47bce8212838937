import Switch2Bt.Daemon.Stages

/-!
# Sessions and the reconnect loop (`switch2d.py`, session and reconnect loop)

`runSession` runs the stages of the active profile in order, then the RUNNING loop.
`reconnectLoopWith` is the reconnect loop over an arbitrary session coroutine; `reconnectLoop` is
the one of the source.
-/

namespace Switch2Bt

open Await

/-! ## Session -/

/-- The link of a client is down and its handlers are gone. -/
def World.linkDown (id : ClientId) (w : World) : World :=
  { w with
    up := w.up.filter (· != id)
    subs := w.subs.filter (· != id)
    respSubs := w.respSubs.filter (· != id) }

/-- Disconnect a connected client; an exception is ignored.
Source: `switch2d.py` `cleanup_client` (condition and `try`) -/
def disconnectClient : Daemon Unit := do
  let w ← Coro.get
  match w.st.client with
  | none => pure ()
  | some id => do
      if id ∈ w.up then
        emit (.disconnectCalled id)
        match ← awaitCall (.disconnect id) with
        | .ok _ => Coro.modify (World.linkDown id)
        | .error _ => pure ()

/-- Source: `switch2d.py` `cleanup_client` -/
def cleanupClient : Daemon Unit := do
  disconnectClient
  Coro.modify (World.setClient none)

/-- One iteration of the RUNNING loop: `inr` leaves it. `wait_for` raises `TimeoutError` unless the
event was set in time.
Source: `switch2d.py` `run_session` (RUNNING loop) -/
def runningStep : Daemon (Unit ⊕ Unit) := do
  let w ← Coro.get
  if w.st.shutdown then pure (.inr ())
  else
    updateSt fun s => { s with notifyEvent := false }
    let timedOut ← awaitCall (.waitNotify w.st.args.notifyTimeout)
    let w ← Coro.get
    if timedOut || !w.st.notifyEvent then pure (.inr ())
    else if 0 < w.st.args.maxReports ∧ w.st.args.maxReports ≤ w.st.reportCount then pure (.inr ())
    else pure (.inl ())

/-- Nothing inside the RUNNING loop raises.
Source: `switch2d.py` `run_session` (RUNNING loop) -/
def runningLoop : Daemon Unit := Coro.loop (fun _ => runningStep) ()

/-- The stages of a session, in order.
Source: `switch2d.py` `run_session` (`stages`) -/
def sessionStages (profile : ProtocolProfile) : List (Stage × Daemon Bool) :=
  [(.scan, stageScan), (.connect, stageConnect), (.discover, stageDiscover)] ++
    (if profile.pairs then [(.pair, stagePair)] else []) ++
    [(.init, stageInit), (.subscribe, stageSubscribe)]

/-- Run stages until the shutdown flag is seen (`some true`), one fails (`some false`) or all
succeeded (`none`).
Source: `switch2d.py` `run_session` (loop over `stages`) -/
def runStages : List (Stage × Daemon Bool) → Daemon (Option Bool)
  | [] => pure none
  | (name, fn) :: rest => do
      let w ← Coro.get
      if w.st.shutdown then
        emit (.interrupted w.st.activeProfile w.st.client
          (w.st.client.any fun id => decide (id ∈ w.up)))
        pure (some true)
      else
        let ok ← fn
        emit (.stageDone name ok)
        if ok then runStages rest
        else
          cleanupClient
          pure (some false)

/-- Set the active profile and clear what the last session left.
Source: `switch2d.py` `run_session` (before the stages) -/
def World.startSession (profile : Option ProtocolProfile) (w : World) : World :=
  let w := (w.update fun s => { s with activeProfile := profile.getD profileMacos }).resetSession
  w.emit (.sessionStart w.st.activeProfile)

@[simp] theorem World.startSession_st (profile : Option ProtocolProfile) (w : World) :
    (w.startSession profile).st = ({ w.st with
      activeProfile := profile.getD profileMacos
      client := none } : DaemonState).resetFields := by
  simp [startSession]

theorem World.startSession_trace (profile : Option ProtocolProfile) (w : World) :
    (w.startSession profile).trace =
      (w.setClient none).trace ++ [.sessionStart (profile.getD profileMacos)] := by
  simp only [startSession, emit_trace, resetSession, update_trace, update_st, setClient_st]
  congr 1
  simp only [setClient, update_st]
  rcases w.st.client with _ | old <;> rfl

/-- Run one connection session.
Source: `switch2d.py` `run_session` -/
def runSession (profile : Option ProtocolProfile) : Daemon Bool := do
  Coro.modify (World.startSession profile)
  let w ← Coro.get
  match ← runStages (sessionStages w.st.activeProfile) with
  | some result => pure result
  | none => do
      runningLoop
      cleanupClient
      let w ← Coro.get
      pure (decide (0 < w.st.reportCount))

/-! ## Reconnect loop -/

/-- Source: `switch2d.py` `RECONNECT_BASE_DELAY` -/
def reconnectBaseDelay : ℚ := 1
/-- Source: `switch2d.py` `RECONNECT_MAX_DELAY` -/
def reconnectMaxDelay : ℚ := 30
/-- Source: `switch2d.py` `RECONNECT_BACKOFF` -/
def reconnectBackoff : ℚ := 2

/-- `RECONNECT_BACKOFF ** k` on floats: exact up to `2 ** 1023`, `OverflowError` beyond. -/
def backoffPow (k : ℕ) : Except PyErr ℚ :=
  if k ≤ 1023 then .ok (reconnectBackoff ^ k) else .error .overflowError

/-- The delay after the `n`-th consecutive failure.
Source: `switch2d.py` `reconnect_loop` (`delay`) -/
def reconnectDelay (n : ℕ) : Except PyErr ℚ :=
  (backoffPow (n - 1)).map fun p => min (reconnectBaseDelay * p) reconnectMaxDelay

/-- The sleeps of `sleep_breakable`, inside a `wait_for` of the given limit; it ends early on
shutdown or when the limit expires.
Source: `switch2d.py` `DaemonState.sleep_breakable` -/
def sleepBreakable (limit : ℚ) : (steps : ℕ) → Daemon Unit
  | 0 => pure ()
  | k + 1 => do
      let w ← Coro.get
      if w.st.shutdown then pure ()
      else
        let expired ← awaitCall (.sleepWithin (1 / 4) limit)
        if expired then pure () else sleepBreakable limit k

/-- The number of sleeps of a delay. -/
def sleepSteps (delay : ℚ) : ℕ := max ⌊delay / (1 / 4)⌋.toNat 1

/-- After a successful session: forget the failures, wait for the disconnect.
Source: `switch2d.py` `reconnect_loop` (success) -/
def afterSuccess : Daemon Unit := do
  updateSt fun s => { s with reconnectCount := 0 }
  let _ ← awaitCall (.waitDisconnect 5)

/-- After a failed session: count it, wait for the delay.
Source: `switch2d.py` `reconnect_loop` (failure) -/
def afterFailure : Daemon Unit := do
  updateSt fun s => { s with reconnectCount := s.reconnectCount + 1 }
  let w ← Coro.get
  let delay ← Coro.ofExcept (reconnectDelay w.st.reconnectCount)
  emit (.backoff w.st.reconnectCount delay)
  sleepBreakable (delay + 1) (sleepSteps delay)

/-- One iteration of the reconnect loop: `inr` leaves it.
Source: `switch2d.py` `reconnect_loop` -/
def reconnectStep (session : Daemon Bool) (k : ℕ) : Daemon (ℕ ⊕ ℕ) := do
  let w ← Coro.get
  if w.st.shutdown then pure (.inr 0)
  else
    let sessionOk ← session
    emit (.sessionEnd sessionOk)
    let w ← Coro.get
    if w.st.shutdown then pure (.inr 0)
    else
      if sessionOk then afterSuccess else afterFailure
      pure (.inl (k + 1))

/-- The reconnect loop over a session coroutine for each iteration. -/
def reconnectLoopWith (session : ℕ → Daemon Bool) : Daemon ℕ :=
  Coro.loop (fun k => reconnectStep (session k) k) 0

/-- The reconnect loop calls `run_session` without a profile.
Source: `switch2d.py` `reconnect_loop` -/
def reconnectLoop : Daemon ℕ := reconnectLoopWith fun _ => runSession none

end Switch2Bt
