import Switch2Bt.Sw2d.Rules

/-!
# The wait for the connection (`sw2d_final.c`, `rx_await`)

When `rx_await` returns 0 for an LE Connection Complete, the frame it read last is one; if the
event has its nineteen octets, its status is success and `conn_handle` is its handle
(`connectionWait_completes`). Whose connection it is decides nothing: an event of another peer is
warned about and returned. Nor does the test for the event look at its length, as the lines that
take the handle out of it do (`not_connectionWait`).
-/

namespace Switch2Bt.Sw2d

open Await Octets

/-! ## Frames of a wait -/

/-- The frame a read left. -/
def Obs.frame (place : Place) : Obs → Option Frame
  | .read place' _ _ f => if place' = place then some f else none
  | _ => none

/-- The frames read since the trace was `tr`, in order. -/
def framesSince (place : Place) (tr : List Obs) (w : World) : List Frame :=
  seenSince (Obs.frame place) tr w.trace

theorem framesSince_read {place : Place} {tr : List Obs} {w : World} (data : Octets) (f : Frame)
    (h : tr <+: w.trace) :
    framesSince place tr (w.read place data f) = framesSince place tr w ++ [f] := by
  have hframe : (Obs.read place w.s.connHandle data f).frame place = some f := if_pos rfl
  rw [framesSince, World.read_trace, seenSince_snoc h, hframe, Option.toList_some, framesSince]

/-! ## The frame that ends the wait -/

/-- A wait for an LE Connection Complete that returned 0 ended with a frame of which, and of the
session it left, `P` holds.
Source: `sw2d_final.c` `main` (phase 1, `rx_await` call) -/
def ConnectionWait (P : Session → Frame → Prop) (env : HostEnv) (w : World) : Prop :=
  ∀ timeoutMs tick budget out r,
    rxAwait evtLeMeta evtLeConnComplete none timeoutMs env ⟨w, tick, budget⟩ =
      (.done (.got, out), r) →
    ∃ f ∈ (framesSince .rxAwait w.trace r.state).getLast?, P r.state.s f

/-- An LE Connection Complete, which if it has nineteen octets made the connection of the
session. -/
structure Frame.Completes (s : Session) (f : Frame) : Prop where
  pktType : f.pktType = hciEventPkt
  evtCode : f.evtCode = evtLeMeta
  subevent : f.subevent = evtLeConnComplete
  status : 19 ≤ f.payloadLen → f.payload 1 = 0x00
  connHandle : 19 ≤ f.payloadLen → s.connHandle = f.payloadLe16 2 &&& 0x0fff

/-- An LE Connection Complete of nineteen octets, from the peer the session asked for. -/
structure Frame.CompletesPeer (s : Session) (f : Frame) : Prop extends f.Completes s where
  payloadLen : 19 ≤ f.payloadLen
  peerAddrType : f.payload 5 = s.peerAddrType
  peerAddr : block 6 f.raw (f.payloadOff + 6) = s.peerAddr

variable {env : HostEnv}

/-- The wait, with what is known of the frame it ends with. -/
theorem wp_rxAwait_completes (w : World) (timeoutMs : ℤ) :
    wp env (rxAwait evtLeMeta evtLeConnComplete none timeoutMs)
      ⟨fun x w' => x.1 = .got →
          ∃ f ∈ (framesSince .rxAwait w.trace w').getLast?, f.Completes w'.s,
        fun _ _ => True, fun _ => True⟩ w := by
  have hlast : ∀ (data : Octets) (f : Frame) (w' : World), w.trace <+: w'.trace →
      (framesSince .rxAwait w.trace (w'.read .rxAwait data f)).getLast? = some f := by
    intro data f w' hw
    rw [framesSince_read data f hw, List.getLast?_concat]
  have hkeep : ∀ (o : Obs) (w' : World), w.trace <+: w'.trace → w.trace <+: (w'.emit o).trace :=
    fun o _ hw => hw.trans (List.prefix_append _ [o])
  refine wp_rxAwait (fun w' => w.trace <+: w'.trace) (fun _ w' hw => hkeep _ w' hw)
    (List.prefix_refl _) (fun _ _ => trivial) (fun _ _ => nofun) (fun _ _ _ _ _ _ => nofun)
    (fun _ _ w' hw _ _ _ _ => hkeep _ w' hw) ?_ (fun _ _ _ _ _ _ _ => nofun) ?_ ?_
  · exact fun _ _ w' hw _ _ _ => (hkeep _ w' hw).trans (List.prefix_append _ _)
  · intro data f w' hw _ hcc hst _
    exact ⟨f, hlast data f w' hw, hcc.1, hcc.2.1, hcc.2.2.1, fun _ => hst, fun _ => rfl⟩
  · intro data f w' hw _ hevt haw hshort _
    -- the event is too short for its handle to be taken
    rcases haw with ⟨-, hmeta, hsub⟩ | ⟨hne, -⟩
    · have hlong : ¬19 ≤ f.payloadLen := fun hlong => hshort ⟨hevt, hmeta, hsub, hlong⟩
      exact ⟨f, hlast data f w' hw, hevt, hmeta, hsub, fun h => absurd h hlong,
        fun h => absurd h hlong⟩
    · exact absurd rfl hne

/-- **Whatever the frames and the timeout, when the wait for the connection returns 0 the frame it
read last is an LE Connection Complete, which if it has nineteen octets reports success and the
handle that the session has.** -/
theorem connectionWait_completes (env : HostEnv) (w : World) :
    ConnectionWait Frame.Completes env w := by
  intro timeoutMs tick budget out r hrun
  have hwp : wp env (rxAwait evtLeMeta evtLeConnComplete none timeoutMs) _ w :=
    wp_rxAwait_completes w timeoutMs
  have hdone := hwp.done (r := ⟨w, tick, budget⟩) (congrArg Prod.fst hrun)
  rw [hrun] at hdone
  exact hdone rfl

/-- A session that asks for the peer 01:02:03:04:05:06. -/
def strangerWorld : World :=
  ⟨Session.new 0x00 0x00 #v[0x06, 0x05, 0x04, 0x03, 0x02, 0x01] publicConfig.localAddr, []⟩

/-- The wait of that session, when these octets are read at once. -/
def waitRun (data : Octets) : Outcome Goto (Rx × Option Octets) × Run World :=
  rxAwait evtLeMeta evtLeConnComplete none 10000 (HostEnv.scripted 0 [(4, data)] [])
    ⟨strangerWorld, 0, 4⟩

/-- The connection of another peer. -/
def strangerFrame : Octets := connCompleteFrame 0x00 0x40

/-- An LE Connection Complete of two octets. -/
def shortFrame : Octets := [0x04, 0x3e, 0x02, 0x01, 0x00]

/-- The connection of another peer ends the wait, and so does an event of two octets. -/
theorem not_connectionWait :
    ¬ConnectionWait Frame.CompletesPeer (HostEnv.scripted 0 [(4, strangerFrame)] [])
        strangerWorld ∧
      ¬ConnectionWait Frame.CompletesPeer (HostEnv.scripted 0 [(4, shortFrame)] [])
        strangerWorld := by
  constructor
  · intro h
    have hgot : (waitRun strangerFrame).1 = .done (.got, none) := by decide +kernel
    obtain ⟨f, hf, hpeer⟩ := h 10000 0 4 none _ (Prod.ext hgot rfl)
    have haddr : ∃ f ∈ (framesSince .rxAwait [] (waitRun strangerFrame).2.state).getLast?,
        block 6 f.raw (f.payloadOff + 6) = (waitRun strangerFrame).2.state.s.peerAddr :=
      ⟨f, hf, hpeer.peerAddr⟩
    exact absurd haddr (by decide +kernel)
  · intro h
    have hgot : (waitRun shortFrame).1 = .done (.got, none) := by decide +kernel
    obtain ⟨f, hf, hpeer⟩ := h 10000 0 4 none _ (Prod.ext hgot rfl)
    have hlong : ∃ f ∈ (framesSince .rxAwait [] (waitRun shortFrame).2.state).getLast?,
        19 ≤ f.payloadLen := ⟨f, hf, hpeer.payloadLen⟩
    exact absurd hlong (by decide +kernel)

end Switch2Bt.Sw2d
