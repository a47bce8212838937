import Switch2Bt.Sw2d.Rules

/-!
# Retries and the Cancel before them (`sw2d_final.c`, reconnect loop)

A session asks for one connection. Before it does, it cancels what the session before may have left
pending, and it does so iff the encryption of that session did not succeed (`hostRun_retries`). The
flag `did_cancel` stands for that between two sessions; the reason of the last disconnect, which the
condition of the Cancel looks at as well, was cleared just before.
-/

namespace Switch2Bt.Sw2d

open Await Octets

/-! ## Attempts -/

/-- What matters of a run for the Cancel. -/
structure Attempt where
  /-- The session has begun, and its encryption did not succeed. -/
  lost : Bool := false
  /-- The session before was lost. -/
  due : Bool := false
  /-- The number of Cancels in this session. -/
  cancels : ℕ := 0
  /-- The number of LE Create Connections in this session. -/
  creates : ℕ := 0
  /-- The completion of the connection was read. -/
  completed : Bool := false
deriving DecidableEq, Repr

/-- The event that ends the wait for the connection. -/
def Frame.EndsCreation (f : Frame) : Prop :=
  f.pktType = hciEventPkt ∧ f.isAwaited evtLeMeta evtLeConnComplete

instance (f : Frame) : Decidable f.EndsCreation := inferInstanceAs (Decidable (_ ∧ _))

/-- The success of the encryption is read where it is awaited. -/
def Secures (place : Place) (handle : UInt16) (f : Frame) : Prop :=
  place = .encryption ∧ f.isEncryptSuccess ∧ f.handle = handle

instance (place : Place) (handle : UInt16) (f : Frame) : Decidable (Secures place handle f) :=
  inferInstanceAs (Decidable (_ ∧ _))

/-- One more observation. -/
def Attempt.next (m : Attempt) : Obs → Attempt
  | .sessionStart => { lost := true, due := m.lost }
  | .command opcode _ _ =>
      { m with
        cancels := m.cancels + if opcode = opCancelConn then 1 else 0
        creates := m.creates + if opcode = opCreateConn then 1 else 0 }
  | .read place handle _ f =>
      { m with
        lost := m.lost && !decide (Secures place handle f)
        completed := m.completed || decide (place = .rxAwait ∧ f.EndsCreation) }
  | _ => m

/-- The attempt that a trace ends in. -/
def lastAttempt (tr : List Obs) : Attempt := tr.foldl Attempt.next {}

/-- The connection was asked for once, and its completion read. -/
def Attempt.Connected (m : Attempt) : Prop := m.creates = 1 ∧ m.completed = true

/-- A Cancel is due and the first command of its session; the connection is asked for once, behind
the Cancel iff one is due; all else is sent and read behind the completion. -/
def Attempt.Allows (m : Attempt) : Obs → Prop
  | .command opcode _ _ =>
      (opcode = opCancelConn → m.due = true ∧ m.cancels = 0 ∧ m.creates = 0) ∧
        (opcode = opCreateConn → m.creates = 0 ∧ m.cancels = m.due.toNat) ∧
        (opcode ≠ opCancelConn → opcode ≠ opCreateConn → m.Connected)
  | .read .drain _ _ _ => m.cancels = 1 ∧ m.creates = 0
  | .read .rxAwait _ _ _ => m.creates = 1
  | .read _ _ _ _ | .acl _ _ _ _ | .attStep _ => m.Connected
  | _ => True

/-- What a trace allows next. -/
def RetriesAt (pre : List Obs) (o : Obs) : Prop := (lastAttempt pre).Allows o

theorem lastAttempt_snoc (tr : List Obs) (o : Obs) :
    lastAttempt (tr ++ [o]) = (lastAttempt tr).next o := by
  simp only [lastAttempt, List.foldl_append, List.foldl_cons, List.foldl_nil]

/-! ## Assertions -/

/-- The run kept to the law, and its last attempt is as `P` says. -/
def Retrying (P : Attempt → Prop) (w : World) : Prop :=
  Everywhere RetriesAt w.trace ∧ P (lastAttempt w.trace)

/-- The flag `did_cancel` is `b`. -/
def Flag (b : Bool) (w : World) : Prop := w.s.didCancel = b

variable {P P' : Attempt → Prop} {w : World} {o : Obs} {b : Bool} {m : Attempt}

theorem Retrying.emit (h : Retrying P w) (hallows : ∀ m, P m → m.Allows o)
    (hnext : ∀ m, P m → P' (m.next o)) : Retrying P' (w.emit o) := by
  refine ⟨everywhere_snoc.mpr ⟨h.1, hallows _ h.2⟩, ?_⟩
  rw [World.emit_trace, lastAttempt_snoc]
  exact hnext _ h.2

theorem Retrying.mono (h : Retrying P w) (hP : ∀ m, P m → P' m) : Retrying P' w :=
  ⟨h.1, hP _ h.2⟩

theorem Retrying.ctl : CtlStable (Retrying P) := fun _ _ h =>
  h.emit (fun _ _ => trivial) fun _ hm => hm

theorem Retrying.setState (h : Retrying P w) (st : SessionState) : Retrying P (w.setState st) :=
  Retrying.emit (w := w.update _) h (fun _ _ => trivial) fun _ hm => hm

theorem Flag.ctl : CtlStable (Flag b) := fun _ _ h => h

/-- Between two sessions the flag says whether the last one was lost. -/
def Between (w : World) : Prop := Everywhere RetriesAt w.trace ∧ Flag (lastAttempt w.trace).lost w

theorem Between.of_flag (h : Retrying P w) (hflag : Flag b w) (hP : ∀ m, P m → m.lost = b) :
    Between w := ⟨h.1, (hP _ h.2).symm ▸ hflag⟩

theorem Between.ctl : CtlStable Between := by
  intro e w h
  refine ⟨everywhere_snoc.mpr ⟨h.1, trivial⟩, ?_⟩
  rw [World.emit_trace, lastAttempt_snoc]
  exact h.2

/-- The Cancel, if it was due, is behind. -/
def Attempt.Ready (m : Attempt) : Prop :=
  m.lost = true ∧ m.creates = 0 ∧ m.cancels = m.due.toNat

/-- The connection was asked for. -/
def Attempt.Trying (m : Attempt) : Prop := m.lost = true ∧ m.creates = 1

/-- The connection is made, and `encrypted` or not. -/
def Attempt.Linked (encrypted : Bool) (m : Attempt) : Prop :=
  m.lost = !encrypted ∧ m.Connected

theorem secures_encryption {handle : UInt16} {f : Frame} :
    Secures .encryption handle f ↔ f.isEncryptSuccess ∧ f.handle = handle :=
  ⟨fun h => h.2, fun h => ⟨rfl, h⟩⟩

theorem not_secures {place : Place} (h : place ≠ .encryption) (handle : UInt16) (f : Frame) :
    ¬Secures place handle f := fun hs => h hs.1

/-- Elsewhere a read does not end the session well. -/
theorem Attempt.next_read_lost {place : Place} (h : place ≠ .encryption) (m : Attempt)
    (handle : UInt16) (data : Octets) (f : Frame) :
    (m.next (.read place handle data f)).lost = m.lost := by
  simp [Attempt.next, not_secures h]

theorem Attempt.Linked.read {place : Place} (hm : m.Linked b) (h : place ≠ .encryption)
    (handle : UInt16) (data : Octets) (f : Frame) :
    (m.next (.read place handle data f)).Linked b := by
  refine ⟨(Attempt.next_read_lost h m handle data f).trans hm.1, hm.2.1, ?_⟩
  simp [Attempt.next, hm.2.2]

/-! ## The start of a session -/

variable {env : HostEnv} {aes : Block → Block → Block}

/-- A session begins: what it has to cancel is what the flag says. -/
theorem Between.begin (h : Between w) :
    Retrying (fun m => m.lost = true ∧ m.due = w.s.didCancel ∧ m.cancels = 0 ∧ m.creates = 0)
      w.begin := by
  have hstart : Retrying (fun m => m.lost = true ∧ m.due = w.s.didCancel ∧ m.cancels = 0 ∧
      m.creates = 0) (w.emit .sessionStart) :=
    Retrying.emit (P := fun m => m.lost = w.s.didCancel) ⟨h.1, h.2.symm⟩ (fun _ _ => trivial)
      fun m hm => ⟨rfl, hm, rfl, rfl⟩
  exact Retrying.setState (w := w.emit .sessionStart) hstart .disconnected

theorem Attempt.Ready.create (hm : m.Ready) (params : Octets) (ok : Bool) :
    (m.next (.command opCreateConn params ok)).Trying := by
  refine ⟨hm.1, ?_⟩
  show m.creates + _ = 1
  rw [hm.2.1, if_pos rfl]

theorem Retrying.create (h : Retrying Attempt.Ready w) (params : Octets) (ok : Bool) :
    Retrying Attempt.Trying (w.emit (.command opCreateConn params ok)) :=
  h.emit (fun _ hm => ⟨fun heq => absurd heq (by decide), fun _ => hm.2,
    fun _ hne => absurd rfl hne⟩) fun _ hm => hm.create params ok

/-- The completion is read. -/
theorem Retrying.completed (h : Retrying Attempt.Trying w) (data : Octets) {f : Frame}
    (hf : f.EndsCreation) : Retrying (Attempt.Linked false) (w.read .rxAwait data f) := by
  refine h.emit (fun _ hm => hm.2) fun m hm => ?_
  refine ⟨(Attempt.next_read_lost (by decide) m _ data f).trans hm.1, hm.2, ?_⟩
  simp [Attempt.next, hf]

/-- The wait for the encryption, whose result says whether it succeeded. -/
def Securing (encrypted : Bool) (w : World) : Prop :=
  Retrying (Attempt.Linked encrypted) w ∧ Flag true w

theorem Securing.between (h : Securing false w) : Between w :=
  Between.of_flag h.1 h.2 fun _ hm => hm.1

/-- A command of phase 3. -/
theorem Securing.command (h : Securing b w) {opcode : UInt16} (hcancel : opcode ≠ opCancelConn)
    (hcreate : opcode ≠ opCreateConn) (params : Octets) (ok : Bool) :
    Securing b (w.emit (.command opcode params ok)) := by
  refine ⟨h.1.emit (fun _ hm => ?_) fun m hm => ?_, h.2⟩
  · exact ⟨fun heq => absurd heq hcancel, fun heq => absurd heq hcreate, fun _ _ => hm.2⟩
  · refine ⟨hm.1, ?_, hm.2.2⟩
    show m.creates + _ = 1
    rw [hm.2.1, if_neg hcreate]

/-- A frame is read: the session is lost until it is the success. -/
theorem Securing.read (h : Securing false w) (data : Octets) (f : Frame) :
    Securing (decide (f.isEncryptSuccess ∧ f.handle = w.s.connHandle))
      (w.read .encryption data f) := by
  refine ⟨h.1.emit (fun _ hm => hm.2) fun m hm => ⟨?_, hm.2.1, ?_⟩, h.2⟩
  · simp only [Attempt.next, hm.1, secures_encryption, Bool.not_false, Bool.true_and]
  · simp [Attempt.next, hm.2.2]

end Switch2Bt.Sw2d
