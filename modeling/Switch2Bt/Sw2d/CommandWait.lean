import Switch2Bt.Sw2d.AclFraming

/-!
# Waiting for a command (`hci_transport_user.c`)

Three functions wait for a Command Complete: `wait_cmd_complete`, `hci_user_init` for its
HCI_Reset and `hci_user_cancel_connect` for its Cancel. None of them looks at a clock. The first
adds up the time it was willing to wait for a frame, 200 ms each, the others count frames, so
frames that are there already use up the wait as well: it finds a completion behind them iff they
are fewer than `T / 200`, 10 and 5 (`commandWaits_iff`).

Here the frames are in a queue. The drain of the session's own model reads the same frames
(`drain_reads`).
-/

namespace Switch2Bt.Sw2d.Transport

open Octets Await

/-! ## The queue -/

/-- A frame of the controller; an event has the octets its header says. -/
structure HciFrame where
  octets : Octets
  nonempty : octets ≠ []
  event : octets.octet 0 = hciEventPkt → octets.length = 3 + (octets.octet 2).toNat

/-- The frames that are readable, the oldest first. -/
abbrev Queue := List HciFrame

/-- One frame into `f`, with the result; on an empty queue `poll` times out.
Source: `hci_transport_user.c` `hci_user_read_frame` -/
def hciUserReadFrame (f : Frame) : Queue → ℤ × Frame × Queue
  | [] => (0, f, [])
  | frame :: q => (1, f.parse (frame.octets.take 512), q)

/-- A Command Complete of a command. -/
structure HciFrame.CommandComplete (opcode : UInt16) (frame : HciFrame) : Prop where
  pktType : frame.octets.octet 0 = hciEventPkt
  evtCode : frame.octets.octet 1 = evtCmdComplete
  length : 3 ≤ (frame.octets.octet 2).toNat
  opcode : getLe16 frame.octets 4 = opcode

/-- A Command Complete with status 0. -/
structure HciFrame.Succeeded (opcode : UInt16) (frame : HciFrame) : Prop
    extends frame.CommandComplete opcode where
  status_length : 4 ≤ (frame.octets.octet 2).toNat
  status : frame.octets.octet 6 = 0x00

/-! ## The waits -/

/-- Source: `hci_transport_user.c` `wait_cmd_complete` (condition) -/
def isCmdComplete (opcode : UInt16) (f : Frame) : Prop :=
  f.pktType = hciEventPkt ∧ f.evtCode = evtCmdComplete ∧ 4 ≤ f.payloadLen ∧
    f.payloadLe16 1 = opcode

instance (opcode : UInt16) (f : Frame) : Decidable (isCmdComplete opcode f) :=
  inferInstanceAs (Decidable (_ ∧ _))

/-- The loop, `waited` milliseconds in; `f` gives what the uninitialised frame of an iteration
holds. With the result comes the queue that is left.
Source: `hci_transport_user.c` `wait_cmd_complete` -/
def waitCmdCompleteFrom (f : ℤ → Frame) (opcode : UInt16) (timeoutMs waited : ℤ) (q : Queue) :
    ℤ × Queue :=
  if waited < timeoutMs then
    let slice := if 200 < timeoutMs - waited then 200 else timeoutMs - waited
    let (rc, f', q') := hciUserReadFrame (f waited) q
    if rc ≤ 0 then waitCmdCompleteFrom f opcode timeoutMs (waited + slice) q'
    else if isCmdComplete opcode f' then (if f'.payload 3 = 0x00 then 0 else -1, q')
    else waitCmdCompleteFrom f opcode timeoutMs (waited + slice) q'
  else (-1, q)
termination_by (timeoutMs - waited).toNat
decreasing_by all_goals split <;> omega

/-- Source: `hci_transport_user.c` `wait_cmd_complete` -/
def waitCmdComplete (f : ℤ → Frame) (opcode : UInt16) (timeoutMs : ℤ) (q : Queue) : ℤ × Queue :=
  waitCmdCompleteFrom f opcode timeoutMs 0 q

/-- Source: `hci_transport_user.c` `hci_user_init` (conditions in the loop) -/
def isResetComplete (f : Frame) : Prop :=
  f.pktType = hciEventPkt ∧ f.evtCode = evtCmdComplete ∧ 3 ≤ f.payloadLen ∧
    f.payloadLe16 1 = 0x0C03

instance (f : Frame) : Decidable (isResetComplete f) := inferInstanceAs (Decidable (_ ∧ _))

/-- At most `n` reads. The status comes with `got_reset`, and the queue that is left.
Source: `hci_transport_user.c` `hci_user_init` (loop) -/
def awaitReset : (n : ℕ) → Frame → Queue → Option UInt8 × Queue
  | 0, _, q => (none, q)
  | n + 1, f, q =>
      let (rc, f, q) := hciUserReadFrame f q
      if rc ≤ 0 then awaitReset n f q
      else if isResetComplete f then (some (if 4 ≤ f.payloadLen then f.payload 3 else 0xff), q)
      else awaitReset n f q

/-- What `hci_user_init` did: its result, the status if `got_reset`, the queue that is left. -/
structure Init where
  rc : ℤ
  gotReset : Option UInt8
  queue : Queue

/-- `write` says which commands can be written.
Source: `hci_transport_user.c` `hci_user_init` -/
def hciUserInit (write : Octets → Bool) (f : Frame) (f' : ℤ → Frame) (q : Queue) : Init :=
  if write (commandPacket (hciOpcode 0x03 0x0003) []) = false then ⟨-1, none, q⟩
  else
    let (gotReset, q) := awaitReset 10 f q
    let evtmask := [0xFF, 0x1F, 0x00, 0x00, 0x00, 0x00, 0x00, 0x00]
    if write (commandPacket (hciOpcode 0x08 0x0001) evtmask) = false then ⟨-1, gotReset, q⟩
    else ⟨0, gotReset, (waitCmdComplete f' 0x2001 1000 q).2⟩

/-- At most `n` reads, until the Command Complete of the Cancel or a timeout.
Source: `hci_transport_user.c` `hci_user_cancel_connect` (drain) -/
def drain : (n : ℕ) → Frame → Queue → Queue
  | 0, _, q => q
  | n + 1, f, q =>
      let (rc, f, q) := hciUserReadFrame f q
      if rc ≤ 0 then q else if isCmdComplete 0x200e f then q else drain n f q

/-- The result, and the queue that is left.
Source: `hci_transport_user.c` `hci_user_cancel_connect` -/
def hciUserCancelConnect (write : Octets → Bool) (f : Frame) (q : Queue) : ℤ × Queue :=
  if write (commandPacket (hciOpcode 0x08 0x000e) []) = false then (-1, q)
  else (0, drain 5 f q)

/-! ## What a wait sees in a frame -/

/-- An event fits into the buffer. -/
theorem HciFrame.take_event {frame : HciFrame} (h : frame.octets.octet 0 = hciEventPkt) :
    frame.octets.take 512 = frame.octets := by
  have hlen := frame.event h
  have hoctet := (frame.octets.octet 2).toNat_lt
  exact List.take_of_length_le (by omega)

theorem HciFrame.parse_pktType (f : Frame) (frame : HciFrame) :
    (f.parse (frame.octets.take 512)).pktType = frame.octets.octet 0 := by
  obtain ⟨o, rest, hcons⟩ := List.exists_cons_of_ne_nil frame.nonempty
  rw [Frame.parse_pktType, hcons]
  rfl

/-- The fields of an event. -/
theorem HciFrame.parse_event (f : Frame) {frame : HciFrame}
    (h : frame.octets.octet 0 = hciEventPkt) :
    (f.parse (frame.octets.take 512)).evtCode = frame.octets.octet 1 ∧
      (f.parse (frame.octets.take 512)).payloadOff = 3 ∧
      (f.parse (frame.octets.take 512)).payloadLen.toNat = (frame.octets.octet 2).toNat := by
  have hlen := frame.event h
  rw [frame.take_event h]
  obtain ⟨hevt, hoff, hpayload⟩ := Frame.parse_event (f := f) h (by omega)
  exact ⟨hevt, hoff, by rw [hpayload, UInt8.toNat_toUInt16]⟩

/-- A payload octet of an event. -/
theorem HciFrame.parse_payload (f : Frame) {frame : HciFrame} {i : ℕ}
    (h : frame.octets.octet 0 = hciEventPkt) (hi : i < (frame.octets.octet 2).toNat) :
    (f.parse (frame.octets.take 512)).payload i = frame.octets.octet (3 + i) := by
  have hlen := frame.event h
  obtain ⟨-, hoff, -⟩ := HciFrame.parse_event f h
  unfold Frame.payload
  rw [hoff, Frame.parse_raw, frame.take_event h]
  exact octet_read (by omega)

/-- The opcode in an event. -/
theorem HciFrame.parse_opcode (f : Frame) {frame : HciFrame}
    (h : frame.octets.octet 0 = hciEventPkt) (hlen : 3 ≤ (frame.octets.octet 2).toNat) :
    (f.parse (frame.octets.take 512)).payloadLe16 1 = getLe16 frame.octets 4 := by
  have hevent := frame.event h
  obtain ⟨-, hoff, -⟩ := HciFrame.parse_event f h
  unfold Frame.payloadLe16
  rw [hoff, Frame.parse_raw, frame.take_event h]
  exact getLe16_append (by omega)

/-- The test for an opcode, with a payload of at least `n` octets, of a frame that was read. -/
theorem HciFrame.parse_isComplete (f : Frame) (frame : HciFrame) (opcode n : UInt16)
    (hn : 3 ≤ n) :
    ((f.parse (frame.octets.take 512)).pktType = hciEventPkt ∧
        (f.parse (frame.octets.take 512)).evtCode = evtCmdComplete ∧
        n ≤ (f.parse (frame.octets.take 512)).payloadLen ∧
        (f.parse (frame.octets.take 512)).payloadLe16 1 = opcode) ↔
      frame.CommandComplete opcode ∧ n.toNat ≤ (frame.octets.octet 2).toNat := by
  have hthree : 3 ≤ n.toNat := hn
  constructor
  · rintro ⟨hpkt, hevt, hlen, hop⟩
    have h : frame.octets.octet 0 = hciEventPkt := by rw [← hpkt, HciFrame.parse_pktType]
    obtain ⟨hcode, -, hpayload⟩ := HciFrame.parse_event f h
    have hlong : n.toNat ≤ (frame.octets.octet 2).toNat := hpayload ▸ hlen
    exact ⟨⟨h, hcode ▸ hevt, hthree.trans hlong,
      HciFrame.parse_opcode f h (hthree.trans hlong) ▸ hop⟩, hlong⟩
  · rintro ⟨hc, hlong⟩
    obtain ⟨hcode, -, hpayload⟩ := HciFrame.parse_event f hc.pktType
    refine ⟨?_, hcode.trans hc.evtCode, ?_, ?_⟩
    · rw [HciFrame.parse_pktType, hc.pktType]
    · exact UInt16.le_iff_toNat_le.mpr (hpayload ▸ hlong)
    · rw [HciFrame.parse_opcode f hc.pktType hc.length, hc.opcode]

theorem isCmdComplete_parse (f : Frame) (frame : HciFrame) (opcode : UInt16) :
    isCmdComplete opcode (f.parse (frame.octets.take 512)) ↔
      frame.CommandComplete opcode ∧ 4 ≤ (frame.octets.octet 2).toNat :=
  HciFrame.parse_isComplete f frame opcode 4 (by decide)

theorem isResetComplete_parse (f : Frame) (frame : HciFrame) :
    isResetComplete (f.parse (frame.octets.take 512)) ↔ frame.CommandComplete 0x0C03 :=
  (HciFrame.parse_isComplete f frame 0x0C03 3 (by decide)).trans
    ⟨fun h => h.1, fun h => ⟨h, h.length⟩⟩

/-! ## Frames that are passed over -/

/-- Frames before the completion of a command, none of them a completion of it, and the
completion. -/
structure Awaited (opcode : UInt16) (pre : Queue) (c : HciFrame) : Prop where
  unrelated : ∀ frame ∈ pre, ¬frame.CommandComplete opcode
  completion : c.Succeeded opcode

variable {opcode : UInt16} {pre rest : Queue} {c : HciFrame}

theorem Awaited.tail {frame : HciFrame} (h : Awaited opcode (frame :: pre) c) :
    Awaited opcode pre c :=
  ⟨fun x hx => h.unrelated x (List.mem_cons_of_mem _ hx), h.completion⟩

theorem Awaited.head {frame : HciFrame} (h : Awaited opcode (frame :: pre) c) :
    ¬frame.CommandComplete opcode := h.unrelated frame List.mem_cons_self

theorem Awaited.isCmdComplete (h : Awaited opcode pre c) (f : Frame) :
    isCmdComplete opcode (f.parse (c.octets.take 512)) :=
  (isCmdComplete_parse f c opcode).mpr ⟨h.completion.toCommandComplete, h.completion.status_length⟩

theorem Awaited.not_isCmdComplete {frame : HciFrame} (h : Awaited opcode (frame :: pre) c)
    (f : Frame) : ¬Transport.isCmdComplete opcode (f.parse (frame.octets.take 512)) :=
  fun hc => h.head ((isCmdComplete_parse f frame opcode).mp hc).1

/-- The status of the completion. -/
theorem Awaited.payload_status (h : Awaited opcode pre c) (f : Frame) :
    (f.parse (c.octets.take 512)).payload 3 = 0x00 := by
  have hlong := h.completion.status_length
  rw [HciFrame.parse_payload f h.completion.pktType (by omega)]
  exact h.completion.status

/-- The wait passes one frame over for each 200 ms. -/
theorem waitCmdCompleteFrom_eq (f : ℤ → Frame) (timeoutMs : ℤ) (h : Awaited opcode pre c)
    (waited : ℤ) (hwaited : waited ≤ timeoutMs) :
    (waitCmdCompleteFrom f opcode timeoutMs waited (pre ++ c :: rest)).1 =
      if 200 * (pre.length : ℤ) < timeoutMs - waited then 0 else -1 := by
  induction pre generalizing waited with
  | nil =>
      rw [waitCmdCompleteFrom]
      by_cases hlt : waited < timeoutMs
      · have hone : ¬((1 : ℤ) ≤ 0) := by decide
        have hroom : 200 * (([] : Queue).length : ℤ) < timeoutMs - waited := by simpa using hlt
        simp only [hlt, if_true, List.nil_append, hciUserReadFrame, hone, if_false, hroom,
          h.isCmdComplete, h.payload_status]
      · have hnone : ¬200 * (([] : Queue).length : ℤ) < timeoutMs - waited := by simpa using hlt
        rw [if_neg hlt, if_neg hnone]
  | cons frame pre ih =>
      have hone : ¬((1 : ℤ) ≤ 0) := by decide
      rw [waitCmdCompleteFrom]
      by_cases hlt : waited < timeoutMs
      · simp only [hlt, if_true, List.cons_append, hciUserReadFrame, hone, if_false,
          h.not_isCmdComplete]
        rw [ih h.tail _ (by split <;> omega), List.length_cons, Nat.cast_succ]
        -- a slice of less than 200 ms is the last
        congr 1
        split <;> exact propext ⟨fun _ => by omega, fun _ => by omega⟩
      · have hnone : ¬200 * ((frame :: pre).length : ℤ) < timeoutMs - waited := by
          rw [List.length_cons, Nat.cast_succ]
          omega
        rw [if_neg hlt, if_neg hnone]

/-- `hci_user_init` passes one frame over for each iteration. -/
theorem awaitReset_eq (h : Awaited 0x0C03 pre c) (n : ℕ) (f : Frame) :
    awaitReset n f (pre ++ c :: rest) =
      if pre.length < n then (some 0x00, rest) else (none, (pre ++ c :: rest).drop n) := by
  have hone : ¬((1 : ℤ) ≤ 0) := by decide
  induction n generalizing pre f with
  | zero => rfl
  | succ n ih =>
      cases pre with
      | nil =>
          have hreset : isResetComplete (f.parse (c.octets.take 512)) :=
            (isResetComplete_parse f c).mpr h.completion.toCommandComplete
          have hlong : 4 ≤ (f.parse (c.octets.take 512)).payloadLen := (h.isCmdComplete f).2.2.1
          simp only [awaitReset, List.nil_append, hciUserReadFrame, hone, if_false, hreset, if_true,
            hlong, h.payload_status, List.length_nil, Nat.succ_pos]
      | cons frame pre =>
          have hpass : ¬isResetComplete (f.parse (frame.octets.take 512)) :=
            fun hc => h.head ((isResetComplete_parse f frame).mp hc)
          simp only [awaitReset, List.cons_append, hciUserReadFrame, hone, if_false, hpass,
            ih h.tail, List.length_cons, Nat.succ_lt_succ_iff, List.drop_succ_cons]

/-- So does the drain. -/
theorem drain_eq (h : Awaited 0x200e pre c) (n : ℕ) (f : Frame) :
    drain n f (pre ++ c :: rest) =
      if pre.length < n then rest else (pre ++ c :: rest).drop n := by
  have hone : ¬((1 : ℤ) ≤ 0) := by decide
  induction n generalizing pre f with
  | zero => rfl
  | succ n ih =>
      cases pre with
      | nil =>
          simp only [drain, List.nil_append, hciUserReadFrame, hone, if_false, h.isCmdComplete,
            if_true, List.length_nil, Nat.succ_pos]
      | cons frame pre =>
          simp only [drain, List.cons_append, hciUserReadFrame, hone, if_false,
            h.not_isCmdComplete, ih h.tail, List.length_cons, Nat.succ_lt_succ_iff,
            List.drop_succ_cons]

/-- Frames in front of the completion that are left behind leave the completion behind. -/
theorem not_drop_suffix {n : ℕ} (h : n ≤ pre.length) : ¬(pre ++ c :: rest).drop n <:+ rest := by
  intro hsuffix
  have hle := hsuffix.length_le
  rw [List.length_drop, List.length_append, List.length_cons] at hle
  omega

/-- **Frames that are there already use up the waits**: `wait_cmd_complete` finds the completion
behind them iff each of them takes 200 ms less than the timeout, `hci_user_init` notices the Reset
iff they are fewer than ten, and `hci_user_cancel_connect` returns with the completion of its
Cancel read iff they are fewer than five.
Source: `hci_transport_user.c` `wait_cmd_complete`, `hci_user_init`, `hci_user_cancel_connect` -/
theorem commandWaits_iff (write : Octets → Bool) (f : Frame) (f' : ℤ → Frame) (pre : Queue)
    (c : HciFrame) (rest : Queue) (hwrite : ∀ command, write command = true) :
    (∀ opcode timeoutMs, 0 < timeoutMs → Awaited opcode pre c →
        ((waitCmdComplete f' opcode timeoutMs (pre ++ c :: rest)).1 = 0 ↔
          200 * (pre.length : ℤ) < timeoutMs)) ∧
      (Awaited 0x0C03 pre c →
        ((hciUserInit write f f' (pre ++ c :: rest)).gotReset = some 0x00 ↔ pre.length < 10)) ∧
      (Awaited 0x200e pre c →
        ((hciUserCancelConnect write f (pre ++ c :: rest)).2 <:+ rest ↔ pre.length < 5)) := by
  refine ⟨fun opcode timeoutMs hpos h => ?_, fun h => ?_, fun h => ?_⟩
  · rw [waitCmdComplete, waitCmdCompleteFrom_eq f' timeoutMs h 0 hpos.le, sub_zero]
    split <;> simp [*]
  · have hreset : (hciUserInit write f f' (pre ++ c :: rest)).gotReset =
        (awaitReset 10 f (pre ++ c :: rest)).1 := by
      simp [hciUserInit, hwrite]
    rw [hreset, awaitReset_eq h]
    split <;> simp [*]
  · have hdrain : (hciUserCancelConnect write f (pre ++ c :: rest)).2 =
        drain 5 f (pre ++ c :: rest) := by
      simp [hciUserCancelConnect, hwrite]
    rw [hdrain, drain_eq h]
    split
    · simp [*]
    · rename_i hfew
      exact iff_of_false (not_drop_suffix (by omega)) hfew

/-! ## The drain of the session -/

/-- The octets the drain read.
Source: `hci_transport_user.c` `hci_user_cancel_connect` (drain) -/
def drained : Obs → Option Octets
  | .read .drain _ data _ => some data
  | _ => none

/-- From the `t`-th call on, reads are answered with the frames of a queue, then with none. -/
structure Delivers (env : HostEnv) (t : ℕ) (q : Queue) : Prop where
  frame : ∀ i (h : i < q.length), env.answer (t + i) (.read 200) = some q[i].octets
  timeout : env.answer (t + q.length) (.read 200) = none

theorem Delivers.tail {env : HostEnv} {t : ℕ} {frame : HciFrame} {q : Queue}
    (h : Delivers env t (frame :: q)) : Delivers env (t + 1) q where
  frame i hi := by
    have hnext := h.frame (i + 1) (Nat.succ_lt_succ hi)
    rwa [← Nat.add_assoc, Nat.add_right_comm] at hnext
  timeout := by
    have hend := h.timeout
    rwa [List.length_cons, ← Nat.add_assoc, Nat.add_right_comm] at hend

/-- What the controller does meanwhile is not read. -/
theorem dispatch_drained (w : World) (es : List CtlEvent) :
    w.trace <+: (es.foldl (fun w e => dispatch e w) w).trace ∧
      seenSince drained w.trace (es.foldl (fun w e => dispatch e w) w).trace = [] := by
  refine foldl_dispatch (I := fun w' : World => w.trace <+: w'.trace ∧
    seenSince drained w.trace w'.trace = []) (fun e _ w' hw => ?_)
    ⟨List.prefix_refl _, seenSince_self⟩
  exact ⟨hw.1.trans (List.prefix_append _ _), by
    rw [dispatch, World.emit_trace, seenSince_snoc hw.1, hw.2]; rfl⟩

/-- A read of the session that is answered. -/
theorem hciUserReadFrame_run_some {env : HostEnv} (f : Frame) (w : World) {t b : ℕ}
    {frame : HciFrame} (h : env.answer t (.read 200) = some frame.octets) :
    Sw2d.hciUserReadFrame .drain f 200 env ⟨w, t, b + 1⟩ =
      (.done (some (f.parse (frame.octets.take 512))),
        ⟨((env.events t).foldl (fun w e => dispatch e w) w).read .drain (frame.octets.take 512)
          (f.parse (frame.octets.take 512)), t + 1, b⟩) := by
  have hne : frame.octets.take 512 ≠ [] := by
    simpa [List.take_eq_nil_iff] using frame.nonempty
  unfold Sw2d.hciUserReadFrame call
  rw [Coro.bind_run_done (Coro.await_run_succ dispatch _ env w t b), h]
  simp only [Option.getD_some]
  rw [if_neg hne]
  rfl

/-- A read of the session that times out. -/
theorem hciUserReadFrame_run_none {env : HostEnv} (f : Frame) (w : World) {t b : ℕ}
    (h : env.answer t (.read 200) = none) :
    Sw2d.hciUserReadFrame .drain f 200 env ⟨w, t, b + 1⟩ =
      (.done none, ⟨(env.events t).foldl (fun w e => dispatch e w) w, t + 1, b⟩) := by
  unfold Sw2d.hciUserReadFrame call
  rw [Coro.bind_run_done (Coro.await_run_succ dispatch _ env w t b), h]
  rfl

/-- The drain of the session reads the frames that the drain takes off the queue. -/
theorem drain_reads {env : HostEnv} (n : ℕ) (f : Frame) {q : Queue} (w : World) {t b : ℕ}
    (hq : Delivers env t q) (hb : n ≤ b) :
    ∃ r k, Sw2d.drain n f env ⟨w, t, b⟩ = (.done (), r) ∧ w.trace <+: r.state.trace ∧
      seenSince drained w.trace r.state.trace =
        (q.take k).map (fun frame => frame.octets.take 512) ∧
      drain n f q = q.drop k := by
  induction n generalizing f q w t b with
  | zero => exact ⟨⟨w, t, b⟩, 0, rfl, List.prefix_refl _, seenSince_self, rfl⟩
  | succ n ih =>
      have hone : ¬((1 : ℤ) ≤ 0) := by decide
      obtain ⟨b, rfl⟩ : ∃ b', b = b' + 1 := ⟨b - 1, by omega⟩
      obtain ⟨hgrown, hseen⟩ := dispatch_drained w (env.events t)
      set w₁ := (env.events t).foldl (fun w e => dispatch e w) w
      cases q with
      | nil =>
          refine ⟨⟨w₁, t + 1, b⟩, 0, ?_, hgrown, hseen, rfl⟩
          have hread : Sw2d.hciUserReadFrame .drain f 200 env ⟨w, t, b + 1⟩ =
              (.done none, ⟨w₁, t + 1, b⟩) := hciUserReadFrame_run_none f w hq.timeout
          rw [Sw2d.drain, Coro.bind_run_done hread]
          rfl
      | cons frame q =>
          set data := frame.octets.take 512 with hdata
          have hread : Sw2d.hciUserReadFrame .drain f 200 env ⟨w, t, b + 1⟩ =
              (.done (some (f.parse data)), ⟨w₁.read .drain data (f.parse data), t + 1, b⟩) :=
            hciUserReadFrame_run_some f w (hq.frame 0 (Nat.succ_pos _))
          have hnext : w.trace <+: (w₁.read .drain data (f.parse data)).trace :=
            hgrown.trans (List.prefix_append _ _)
          have hfirst : seenSince drained w.trace (w₁.read .drain data (f.parse data)).trace =
              [data] := by
            rw [World.read_trace, seenSince_snoc hgrown, hseen]
            rfl
          by_cases hc : isCmdComplete 0x200e (f.parse data)
          · refine ⟨⟨w₁.read .drain data (f.parse data), t + 1, b⟩, 1, ?_, hnext, hfirst, ?_⟩
            · rw [Sw2d.drain, Coro.bind_run_done hread]
              exact congrFun (congrFun (if_pos hc) env) _
            · simp only [drain, hciUserReadFrame, hone, if_false, ← hdata, hc, if_true,
                List.drop_succ_cons, List.drop_zero]
          · obtain ⟨r, k, hrun, hgrow, hmore, hleft⟩ := ih (f.parse data)
              (w₁.read .drain data (f.parse data)) hq.tail (Nat.le_of_succ_le_succ hb)
            refine ⟨r, k + 1, ?_, hnext.trans hgrow, ?_, ?_⟩
            · rw [Sw2d.drain, Coro.bind_run_done hread, ← hrun]
              exact congrFun (congrFun (if_neg hc) env) _
            · rw [seenSince_trans hnext hgrow, hfirst, hmore]
              rfl
            · simp only [drain, hciUserReadFrame, hone, if_false, ← hdata, hc, hleft,
                List.drop_succ_cons]

/-! ## Concrete queues -/

/-- An LE Advertising Report without data. -/
def advReport : HciFrame where
  octets := [0x04, 0x3e, 0x0c, 0x02, 0x01, 0x00, 0x00, 0x11, 0x22, 0x33, 0x44, 0x55, 0x66, 0x00,
    0xc5]
  nonempty := by decide
  event := by decide

/-- A Command Complete with status 0. -/
def cmdComplete (opcode : UInt16) : HciFrame where
  octets := [hciEventPkt, evtCmdComplete, 0x04, 0x01] ++ putLe16 opcode ++ [0x00]
  nonempty := by simp
  event := fun _ => rfl

theorem cmdComplete_succeeded (opcode : UInt16) : (cmdComplete opcode).Succeeded opcode where
  pktType := rfl
  evtCode := rfl
  length := show 3 ≤ (0x04 : UInt8).toNat by decide
  opcode := getLe16_putLe16 [hciEventPkt, evtCmdComplete, 0x04, 0x01] [0x00] opcode
  status_length := show 4 ≤ (0x04 : UInt8).toNat by decide
  status := rfl

/-- Advertising reports are no completion. -/
theorem awaited_advReport (opcode : UInt16) (n : ℕ) :
    Awaited opcode (List.replicate n advReport) (cmdComplete opcode) where
  unrelated frame h hc := by
    rw [List.eq_of_mem_replicate h] at hc
    exact absurd hc.evtCode (by decide)
  completion := cmdComplete_succeeded opcode

/-- Four frames before each completion are passed over. -/
theorem commandWaits_four :
    (waitCmdComplete (fun _ => Frame.zero) 0x2001 1000
          (List.replicate 4 advReport ++ [cmdComplete 0x2001])).1 = 0 ∧
      (hciUserInit (fun _ => true) Frame.zero (fun _ => Frame.zero)
          (List.replicate 4 advReport ++ [cmdComplete 0x0C03])).gotReset = some 0x00 ∧
      (hciUserCancelConnect (fun _ => true) Frame.zero
          (List.replicate 4 advReport ++ [cmdComplete 0x200e])).2 <:+ [] := by
  have hwaits : ∀ c, _ := fun c => commandWaits_iff (fun _ => true) Frame.zero
    (fun _ => Frame.zero) (List.replicate 4 advReport) c [] fun _ => rfl
  exact ⟨((hwaits _).1 0x2001 1000 (by decide) (awaited_advReport _ 4)).mpr (by decide),
    ((hwaits _).2.1 (awaited_advReport _ 4)).mpr (by decide),
    ((hwaits _).2.2 (awaited_advReport _ 4)).mpr (by decide)⟩

/-- Five advertising reports before the completion end a wait of a second and leave the completion
of the Cancel in the queue, ten of them hide the Reset. -/
theorem not_commandWaits :
    ¬(∀ pre c rest, Awaited 0x2001 pre c →
        (waitCmdComplete (fun _ => Frame.zero) 0x2001 1000 (pre ++ c :: rest)).1 = 0) ∧
      ¬(∀ pre c rest, Awaited 0x0C03 pre c →
        (hciUserInit (fun _ => true) Frame.zero (fun _ => Frame.zero)
          (pre ++ c :: rest)).gotReset = some 0x00) ∧
      ¬∀ pre c rest, Awaited 0x200e pre c →
        (hciUserCancelConnect (fun _ => true) Frame.zero (pre ++ c :: rest)).2 <:+ rest := by
  refine ⟨fun h => ?_, fun h => ?_, fun h => ?_⟩
  · have hwait := h _ _ [] (awaited_advReport 0x2001 5)
    rw [waitCmdComplete, waitCmdCompleteFrom_eq _ _ (awaited_advReport 0x2001 5) 0 (by decide)]
      at hwait
    exact absurd hwait (by decide)
  · have hreset := h _ _ [] (awaited_advReport 0x0C03 10)
    have hinit : (awaitReset 10 Frame.zero
        (List.replicate 10 advReport ++ [cmdComplete 0x0C03])).1 = some 0x00 := hreset
    rw [awaitReset_eq (awaited_advReport 0x0C03 10)] at hinit
    exact absurd hinit (by decide)
  · have hcancel := h _ _ [] (awaited_advReport 0x200e 5)
    have hdrain : drain 5 Frame.zero
        (List.replicate 5 advReport ++ [cmdComplete 0x200e]) <:+ [] := hcancel
    rw [drain_eq (awaited_advReport 0x200e 5), if_neg (by decide)] at hdrain
    exact not_drop_suffix (n := 5) (by decide) hdrain

end Switch2Bt.Sw2d.Transport
