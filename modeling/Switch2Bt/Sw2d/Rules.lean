import Switch2Bt.Sw2d.Main

/-!
# Rules for the host (`sw2d_final.c`)

The rules of the program logic for the host's calls, its sends and its waits. An act of the
controller is possible at every await, so an assertion that is carried over one has to be
`CtlStable`. The rules for the waits have one clause for each thing a frame can do to them.

`HostEnv.scripted` is an environment given by the frames it sends.
-/

namespace Switch2Bt.Sw2d

open Await Octets

/-! ## Worlds -/

/-- Octets were read, and left the frame `f`. -/
def World.read (place : Place) (data : Octets) (f : Frame) (w : World) : World :=
  w.emit (.read place w.s.connHandle data f)

/-- `s.state` was assigned. -/
def World.setState (st : SessionState) (w : World) : World :=
  (w.update fun s => { s with state := st }).emit (.state st)

@[simp] theorem World.read_s (place : Place) (data : Octets) (f : Frame) (w : World) :
    (w.read place data f).s = w.s := rfl
@[simp] theorem World.read_trace (place : Place) (data : Octets) (f : Frame) (w : World) :
    (w.read place data f).trace = w.trace ++ [.read place w.s.connHandle data f] := rfl
@[simp] theorem World.setState_s (st : SessionState) (w : World) :
    (w.setState st).s = { w.s with state := st } := rfl
@[simp] theorem World.setState_trace (st : SessionState) (w : World) :
    (w.setState st).trace = w.trace ++ [.state st] := rfl

/-- What a read of octets leaves. -/
def Frame.ReadFrom (data : Octets) (f : Frame) : Prop := data ≠ [] ∧ ∃ f₀ : Frame, f = f₀.parse data

/-- An assertion about the runs whose every observation, so far, meets a condition. -/
def Under (C : List Obs → Obs → Prop) (P : World → Prop) (w : World) : Prop :=
  Everywhere C w.trace → P w

theorem Under.mono {C : List Obs → Obs → Prop} {P P' : World → Prop} {w : World}
    (h : Under C P w) (hP : P w → P' w) : Under C P' w := fun hC => hP (h hC)

/-- One more observation is one more thing known. -/
theorem Under.emit {C : List Obs → Obs → Prop} {P P' : World → Prop} {w : World} {o : Obs}
    (h : Under C P w) (hP : C w.trace o → P w → P' (w.emit o)) : Under C P' (w.emit o) := by
  intro hC
  have hlast := everywhere_snoc.mp hC
  exact hP hlast.2 (h hlast.1)

/-! ## Calls -/

variable {env : HostEnv} {α : Type} {Q : Post World Goto α} {w : World}

/-- An assertion that acts of the controller keep. -/
def CtlStable (I : World → Prop) : Prop := ∀ e w, I w → I (w.emit (.ctl e))

/-- A call carries a stable assertion. -/
theorem wp_call {c : Call} {f : Answer c → Host α} (I : World → Prop) (hctl : CtlStable I)
    (hw : I w) (hsus : ∀ w, I w → Q.suspended w) (hf : ∀ a w, I w → wp env (f a) Q w) :
    wp env (call c >>= f) Q w :=
  wp_await_bind I (fun _ e _ w h => hctl e w h) hw hsus hf

/-- The clock may show any time. -/
theorem wp_nowMs {f : ℤ → Host α} (I : World → Prop) (hctl : CtlStable I) (hw : I w)
    (hsus : ∀ w, I w → Q.suspended w) (hf : ∀ t w, I w → wp env (f t) Q w) :
    wp env (nowMs >>= f) Q w := @wp_call env α Q w .nowMs f I hctl hw hsus hf

/-- The flag may have been cleared. -/
theorem wp_gRunning {f : Bool → Host α} (I : World → Prop) (hctl : CtlStable I) (hw : I w)
    (hsus : ∀ w, I w → Q.suspended w) (hf : ∀ b w, I w → wp env (f b) Q w) :
    wp env (gRunning >>= f) Q w := @wp_call env α Q w .running f I hctl hw hsus hf

theorem wp_indeterminate {c : Call} {f : Answer c → Host α} (hf : ∀ a, wp env (f a) Q w) :
    wp env (indeterminate c >>= f) Q w := wp_query_bind hf

@[simp] theorem wp_emit_bind {o : Obs} {f : Unit → Host α} :
    wp env (emit o >>= f) Q w ↔ wp env (f ()) Q (w.emit o) := Iff.rfl

@[simp] theorem wp_emit {o : Obs} {Q : Post World Goto Unit} :
    wp env (emit o) Q w ↔ Q.done () (w.emit o) := wp_modify _ _

@[simp] theorem wp_update_bind {g : Session → Session} {f : Unit → Host α} :
    wp env (update g >>= f) Q w ↔ wp env (f ()) Q (w.update g) := Iff.rfl

@[simp] theorem wp_update {g : Session → Session} {Q : Post World Goto Unit} :
    wp env (update g) Q w ↔ Q.done () (w.update g) := wp_modify _ _

@[simp] theorem wp_setState_bind {st : SessionState} {f : Unit → Host α} :
    wp env (setState st >>= f) Q w ↔ wp env (f ()) Q (w.setState st) := Iff.rfl

@[simp] theorem wp_setState {st : SessionState} {Q : Post World Goto Unit} :
    wp env (setState st) Q w ↔ Q.done () (w.setState st) := by
  unfold setState
  rw [wp_update_bind, wp_emit]
  rfl

@[simp] theorem wp_gotoReconnect : wp env (gotoReconnect : Host α) Q w ↔ Q.raised .reconnect w :=
  wp_raise _

theorem wp_require_bind {ok : Bool} {f : Unit → Host α} (hok : ok = true → wp env (f ()) Q w)
    (hno : ok = false → Q.raised .reconnect w) : wp env (require ok >>= f) Q w := by
  cases ok with
  | true => exact hok rfl
  | false => exact wp_bind (wp_gotoReconnect.mpr (hno rfl))

theorem wp_require {ok : Bool} {Q : Post World Goto Unit} (hok : ok = true → Q.done () w)
    (hno : ok = false → Q.raised .reconnect w) : wp env (require ok) Q w := by
  cases ok with
  | true => exact (wp_pure ()).mpr (hok rfl)
  | false => exact wp_gotoReconnect.mpr (hno rfl)

/-! ## Transport -/

/-- A read times out, or leaves a frame. -/
theorem wp_hciUserReadFrame {place : Place} {f : Frame} {timeoutMs : ℤ}
    {k : Option Frame → Host α} (I : World → Prop) (hctl : CtlStable I) (hw : I w)
    (hsus : ∀ w, I w → Q.suspended w) (hnone : ∀ w, I w → wp env (k none) Q w)
    (hsome : ∀ data f w, I w → f.ReadFrom data → wp env (k (some f)) Q (w.read place data f)) :
    wp env (hciUserReadFrame place f timeoutMs >>= k) Q w := by
  refine wp_bind (wp_call I hctl hw hsus fun answer w hw => ?_)
  refine wp_ite (fun _ => ?_) (fun hdata => ?_)
  · exact (wp_pure _).mpr (hnone w hw)
  · exact (wp_get_bind _).mpr
      (wp_emit_bind.mpr ((wp_pure _).mpr (hsome _ _ w hw ⟨hdata, f, rfl⟩)))

/-- A command is recorded with its result. -/
theorem wp_hciUserSendCmd {ogf ocf : UInt16} {params : Octets} {k : Bool → Host α}
    (I : World → Prop) (hctl : CtlStable I) (hw : I w) (hsus : ∀ w, I w → Q.suspended w)
    (hk : ∀ ok w, I w → wp env (k ok) Q (w.emit (.command (hciOpcode ogf ocf) params ok))) :
    wp env (hciUserSendCmd ogf ocf params >>= k) Q w :=
  wp_bind (wp_call I hctl hw hsus fun ok w hw =>
    wp_emit_bind.mpr ((wp_pure _).mpr (hk ok w hw)))

/-- ACL data is recorded with its result; what is too long for a packet is not sent. -/
theorem wp_hciUserAclSend {handle cid : UInt16} {data : Octets} {Q : Post World Goto Bool}
    (I : World → Prop) (hctl : CtlStable I) (hw : I w) (hsus : ∀ w, I w → Q.suspended w)
    (hlong : 512 < data.length → Q.done false w)
    (hsent : ∀ ok w, I w → Q.done ok (w.emit (.acl handle cid data ok))) :
    wp env (hciUserAclSend handle cid data) Q w := by
  refine wp_ite (fun h => (wp_pure _).mpr (hlong h)) fun _ => ?_
  exact wp_call I hctl hw hsus fun ok w hw => wp_emit_bind.mpr ((wp_pure _).mpr (hsent ok w hw))

/-! ## Waits -/

section waits

/-- An Encryption Change is no LE Meta event. -/
theorem Frame.IsEncryptSuccess.not_awaited {f : Frame} (h : f.isEncryptSuccess) :
    ¬f.isAwaited evtLeMeta evtLeConnComplete := by
  rintro (⟨-, hmeta, -⟩ | ⟨hne, -⟩)
  · exact absurd (h.2.1.symm.trans hmeta) (by decide)
  · exact hne rfl

/-- A connection completes with the awaited event. -/
theorem Frame.IsConnComplete.awaited {f : Frame} (h : f.isConnComplete) :
    f.isAwaited evtLeMeta evtLeConnComplete := Or.inl ⟨rfl, h.2.1, h.2.2.1⟩

/-- An event while an LE Connection Complete is awaited. -/
theorem wp_rxAwaitEvent {f : Frame} {Q : Post World Goto (Frame ⊕ (Rx × Option Octets))}
    (henc : f.isEncryptSuccess → f.handle = w.s.connHandle →
      Q.done (.inl f) (w.setState .encrypted))
    (hskip : ¬(f.isEncryptSuccess ∧ f.handle = w.s.connHandle) →
      ¬f.isAwaited evtLeMeta evtLeConnComplete → Q.done (.inl f) w)
    (hno : f.isConnComplete → f.payload 1 ≠ 0x00 → Q.done (.inr (.failed, none)) w)
    (hyes : f.isConnComplete → f.payload 1 = 0x00 → Q.done (.inr (.got, none))
      (w.update fun s => { s with connHandle := f.payloadLe16 2 &&& 0x0fff }))
    (hshort : f.isAwaited evtLeMeta evtLeConnComplete → ¬f.isConnComplete →
      Q.done (.inr (.got, none)) w) :
    wp env (rxAwaitEvent evtLeMeta evtLeConnComplete none f) Q w := by
  unfold rxAwaitEvent
  apply (wp_get_bind _).mpr
  by_cases h : f.isEncryptSuccess ∧ f.handle = w.s.connHandle
  · have haw := Frame.IsEncryptSuccess.not_awaited h.1
    have hcc : ¬f.isConnComplete := fun hc => haw (Frame.IsConnComplete.awaited hc)
    rw [if_pos h]
    simp only [haw, hcc, false_and, if_false, wp_setState_bind, wp_pure]
    exact henc h.1 h.2
  · rw [if_neg h]
    by_cases hcc : f.isConnComplete
    · by_cases hst : f.payload 1 = 0x00
      · have haw := Frame.IsConnComplete.awaited hcc
        simp only [hcc, hst, haw, ne_eq, not_true, and_false, if_true, if_false, wp_update_bind,
          wp_pure]
        exact hyes hcc hst
      · simp only [hcc, hst, ne_eq, not_false_eq_true, and_self, if_true, wp_pure]
        exact hno hcc hst
    · by_cases haw : f.isAwaited evtLeMeta evtLeConnComplete
      · simp only [hcc, haw, false_and, if_true, if_false, wp_pure]
        exact hshort haw hcc
      · simp only [hcc, haw, false_and, if_false, wp_pure]
        exact hskip h haw

/-- The wait for an LE Connection Complete. A frame ends it with a disconnect, as a failed or as
a made connection, or as an event too short to name one; it notes an encryption, or passes over
the frame. -/
theorem wp_rxAwait {timeoutMs : ℤ} {Q : Post World Goto (Rx × Option Octets)} (I : World → Prop)
    (hctl : CtlStable I) (hw : I w) (hsus : ∀ w, I w → Q.suspended w)
    (hfail : ∀ w, I w → Q.done (.failed, none) w)
    (hdisc : ∀ data f w, I w → f.ReadFrom data → f.isDisconnect →
      Q.done (.disconnected, none)
        ((w.read .rxAwait data f).update fun s => { s with lastDisconnectReason := f.status }))
    (hskip : ∀ data f w, I w → f.ReadFrom data → ¬f.isDisconnect →
      ¬(f.isEncryptSuccess ∧ f.handle = w.s.connHandle) →
      ¬(f.pktType = hciEventPkt ∧ f.isAwaited evtLeMeta evtLeConnComplete) →
      I (w.read .rxAwait data f))
    (henc : ∀ data f w, I w → f.ReadFrom data → f.isEncryptSuccess → f.handle = w.s.connHandle →
      I ((w.read .rxAwait data f).setState .encrypted))
    (hno : ∀ data f w, I w → f.ReadFrom data → f.isConnComplete → f.payload 1 ≠ 0x00 →
      Q.done (.failed, none) (w.read .rxAwait data f))
    (hyes : ∀ data f w, I w → f.ReadFrom data → f.isConnComplete → f.payload 1 = 0x00 →
      Q.done (.got, none) ((w.read .rxAwait data f).update fun s =>
        { s with connHandle := f.payloadLe16 2 &&& 0x0fff }))
    (hshort : ∀ data f w, I w → f.ReadFrom data → f.pktType = hciEventPkt →
      f.isAwaited evtLeMeta evtLeConnComplete → ¬f.isConnComplete →
      Q.done (.got, none) (w.read .rxAwait data f)) :
    wp env (rxAwait evtLeMeta evtLeConnComplete none timeoutMs) Q w := by
  refine wp_nowMs I hctl hw hsus fun now w hw => ?_
  refine wp_indeterminate fun f => ?_
  refine wp_loop (fun _ => I) (fun _ => hsus) (fun f₀ w hw => ?_) hw
  refine wp_gRunning I hctl hw hsus fun running w hw => ?_
  refine wp_ite (fun _ => (wp_pure _).mpr (hfail w hw)) fun _ => ?_
  refine wp_nowMs I hctl hw hsus fun now' w hw => ?_
  refine wp_ite (fun _ => (wp_pure _).mpr (hfail w hw)) fun _ => ?_
  refine wp_hciUserReadFrame I hctl hw hsus (fun w hw => (wp_pure _).mpr hw)
    fun data f w hw hf => ?_
  refine wp_ite (fun hd => ?_) fun hd => ?_
  · exact wp_update_bind.mpr ((wp_pure _).mpr (hdisc data f w hw hf hd))
  refine wp_ite (fun hevt => ?_) fun hevt => ?_
  · refine wp_rxAwaitEvent (henc data f w hw hf) ?_ (hno data f w hw hf) (hyes data f w hw hf)
      (hshort data f w hw hf hevt)
    exact fun henc' haw => hskip data f w hw hf hd henc' fun h => haw h.2
  · exact (wp_pure _).mpr (hskip data f w hw hf hd (fun h => hevt h.1.1) (fun h => hevt h.1))

/-- The wait for ACL data. A frame ends it with a disconnect or as the data awaited; it notes an
encryption, or passes over the frame. -/
theorem wp_rxAwaitAcl {cid : UInt16} {buf : Octets} {timeoutMs : ℤ}
    {Q : Post World Goto (Rx × Octets × ℕ)} (I : World → Prop)
    (hctl : CtlStable I) (hw : I w) (hsus : ∀ w, I w → Q.suspended w)
    (hfail : ∀ w, I w → Q.done (.failed, buf, buf.length) (w.emit (.notDelivered cid)))
    (hdisc : ∀ data f w, I w → f.ReadFrom data → f.isDisconnect →
      Q.done (.disconnected, buf, buf.length)
        (((w.read .rxAwaitAcl data f).update fun s =>
          { s with lastDisconnectReason := f.status }).emit (.notDelivered cid)))
    (henc : ∀ data f w, I w → f.ReadFrom data → f.isEncryptSuccess →
      I ((w.read .rxAwaitAcl data f).setState .encrypted))
    (hskip : ∀ data f w, I w → f.ReadFrom data → ¬f.isDisconnect → ¬f.isEncryptSuccess →
      ¬f.isAclOn w.s.connHandle cid → I (w.read .rxAwaitAcl data f))
    (hgot : ∀ data f w, I w → f.ReadFrom data → f.isAclOn w.s.connHandle cid →
      Q.done (.got, rxAwaitAclOut buf f)
        ((w.read .rxAwaitAcl data f).emit (.delivered cid f buf.length))) :
    wp env (rxAwaitAcl cid buf timeoutMs) Q w := by
  refine wp_nowMs I hctl hw hsus fun now w hw => ?_
  refine wp_indeterminate fun f => ?_
  refine wp_loop (fun _ => I) (fun _ => hsus) (fun f₀ w hw => ?_) hw
  refine wp_gRunning I hctl hw hsus fun running w hw => ?_
  refine wp_ite (fun _ => wp_emit_bind.mpr ((wp_pure _).mpr (hfail w hw))) fun _ => ?_
  refine wp_nowMs I hctl hw hsus fun now' w hw => ?_
  refine wp_ite (fun _ => wp_emit_bind.mpr ((wp_pure _).mpr (hfail w hw))) fun _ => ?_
  refine wp_hciUserReadFrame I hctl hw hsus (fun w hw => (wp_pure _).mpr hw)
    fun data f w hw hf => ?_
  apply (wp_get_bind _).mpr
  refine wp_ite (fun hd => ?_) fun hd => ?_
  · exact wp_update_bind.mpr (wp_emit_bind.mpr ((wp_pure _).mpr (hdisc data f w hw hf hd)))
  refine wp_ite (fun he => ?_) fun he => ?_
  · exact wp_setState_bind.mpr ((wp_pure _).mpr (henc data f w hw hf he))
  refine wp_ite (fun ha => ?_) fun ha => ?_
  · exact wp_emit_bind.mpr ((wp_pure _).mpr (hgot data f w hw hf ha))
  · exact (wp_pure _).mpr (hskip data f w hw hf hd he ha)

end waits

/-! ## Phases that keep an assertion -/

/-- What the loop never assigns. -/
def Session.given (s : Session) : Block × UInt8 × UInt8 × Addr × Addr :=
  (s.smpTk, s.peerAddrType, s.localAddrType, s.peerAddr, s.localAddr)

/-- A step of a session that touches neither the connection handle nor the state, nor what is never
assigned. -/
def Session.Frames (g : Session → Session) : Prop :=
  ∀ s, (g s).connHandle = s.connHandle ∧ (g s).state = s.state ∧ (g s).given = s.given

/-- An assertion that waiting for ACL data on a channel keeps, whatever arrives. -/
structure Quiet (cid : UInt16) (I : World → Prop) : Prop where
  ctl : CtlStable I
  update : ∀ g w, Session.Frames g → I w → I (w.update g)
  read : ∀ data f w, I w → f.ReadFrom data → ¬f.isEncryptSuccess → I (w.read .rxAwaitAcl data f)
  encrypted : ∀ data f w, I w → f.ReadFrom data → f.isEncryptSuccess →
    I ((w.read .rxAwaitAcl data f).setState .encrypted)
  delivered : ∀ f cap w, I w → I (w.emit (.delivered cid f cap))
  notDelivered : ∀ w, I w → I (w.emit (.notDelivered cid))

section phases

variable {cid : UInt16} {I : World → Prop}

theorem CtlStable.call (h : CtlStable I) (c : Call) : Always env I (Sw2d.call c) :=
  Always.await c fun _ e _ w hw => h e w hw

theorem CtlStable.nowMs (h : CtlStable I) : Always env I Sw2d.nowMs := h.call .nowMs

theorem CtlStable.gRunning (h : CtlStable I) : Always env I Sw2d.gRunning := h.call .running

theorem Always.update {g : Session → Session} (h : ∀ w, I w → I (w.update g)) :
    Always env I (Sw2d.update g) := Always.modify h

theorem Always.emit {o : Obs} (h : ∀ w, I w → I (w.emit o)) : Always env I (Sw2d.emit o) :=
  Always.modify h

theorem Always.setState {st : SessionState} (h : ∀ w, I w → I (w.setState st)) :
    Always env I (Sw2d.setState st) := fun w hw => wp_setState.mpr (h w hw)

theorem Always.require (ok : Bool) : Always env I (Sw2d.require ok) :=
  fun _ hw => wp_require (fun _ => hw) fun _ => hw

theorem Always.indeterminate (c : Call) : Always env I (Sw2d.indeterminate c) := Always.query c

/-- Waiting for ACL data keeps a quiet assertion. -/
theorem Quiet.rxAwaitAcl (h : Quiet cid I) (buf : Octets) (timeoutMs : ℤ) :
    Always env I (Sw2d.rxAwaitAcl cid buf timeoutMs) := by
  intro w hw
  have hread : ∀ data f w, I w → f.ReadFrom data → f.isDisconnect ∨ ¬f.isEncryptSuccess →
      I (w.read .rxAwaitAcl data f) := by
    intro data f w hw hf hne
    refine h.read data f w hw hf fun henc => ?_
    rcases hne with hd | hne
    · exact absurd (hd.2.symm.trans henc.2.1) (by decide)
    · exact hne henc
  refine wp_rxAwaitAcl I h.ctl hw (fun _ hw => hw) (fun w hw => h.notDelivered w hw) ?_
    h.encrypted ?_ ?_
  · intro data f w hw hf hd
    have hw' := hread data f w hw hf (.inl hd)
    exact h.notDelivered _ (h.update _ _ (fun _ => ⟨rfl, rfl, rfl⟩) hw')
  · intro data f w hw hf _ hne _
    exact hread data f w hw hf (.inr hne)
  · intro data f w hw hf hacl
    refine h.delivered f _ _ (hread data f w hw hf (.inr fun henc => ?_))
    exact absurd (hacl.1.symm.trans henc.1) (by decide)

/-- Sending ACL data keeps an assertion that its record keeps. -/
theorem Always.hciUserAclSend (hctl : CtlStable I) {handle cid : UInt16} {data : Octets}
    (h : ∀ ok w, I w → I (w.emit (.acl handle cid data ok))) :
    Always env I (Sw2d.hciUserAclSend handle cid data) := by
  refine Always.ite (Always.pure _) ((hctl.call _).bind fun ok => ?_)
  exact (Always.emit (h ok)).bind fun _ => Always.pure _

/-- Sending a command keeps an assertion that its record keeps. -/
theorem Always.hciUserSendCmd (hctl : CtlStable I) {ogf ocf : UInt16} {params : Octets}
    (h : ∀ ok w, I w → I (w.emit (.command (hciOpcode ogf ocf) params ok))) :
    Always env I (Sw2d.hciUserSendCmd ogf ocf params) :=
  (hctl.call _).bind fun ok => (Always.emit (h ok)).bind fun _ => Always.pure _

/-- Reading a frame keeps an assertion that its record keeps. -/
theorem Always.hciUserReadFrame (hctl : CtlStable I) {place : Place} {f : Frame} {timeoutMs : ℤ}
    (h : ∀ data f w, I w → f.ReadFrom data → I (w.read place data f)) :
    Always env I (Sw2d.hciUserReadFrame place f timeoutMs) := by
  refine (hctl.call _).bind fun answer w hw => wp_ite (fun _ => ?_) fun hdata => ?_
  · exact (wp_pure _).mpr hw
  · exact (wp_get_bind _).mpr (wp_emit_bind.mpr ((wp_pure _).mpr (h _ _ w hw ⟨hdata, f, rfl⟩)))

/-! ### The connection -/

/-- The opcode of LE Create Connection. -/
def opCreateConn : UInt16 := hciOpcode 0x08 0x000d

/-- The opcode of LE Create Connection Cancel. -/
def opCancelConn : UInt16 := hciOpcode 0x08 0x000e

/-- The opcode of LE Start Encryption. -/
def opStartEncryption : UInt16 := hciOpcode 0x08 0x0019

/-- The start of a session, before anything is awaited. -/
def World.begin (w : World) : World :=
  ((w.emit .sessionStart).update Session.restart).emit (.state .disconnected)

theorem World.begin_trace (w : World) :
    w.begin.trace = w.trace ++ [.sessionStart] ++ [.state .disconnected] := rfl

theorem iterObs_begin (w : World) : iterObs w.begin.trace = [.state .disconnected] := by
  rw [World.begin_trace, iterObs_snoc rfl, iterObs_sessionStart, List.nil_append]

/-- The drain keeps an assertion that its reads keep, and does not leave the iteration. -/
theorem wp_drain (hctl : CtlStable I)
    (hread : ∀ data f w, I w → f.ReadFrom data → I (w.read .drain data f)) (n : ℕ) :
    ∀ f w, I w → wp env (drain n f) ⟨fun _ => I, fun _ _ => False, I⟩ w := by
  induction n with
  | zero => exact fun _ w hw => (wp_pure _).mpr hw
  | succ n ih =>
      intro f w hw
      refine wp_hciUserReadFrame I hctl hw (fun _ hw => hw) (fun _ hw => (wp_pure _).mpr hw)
        fun data f w hw hf => ?_
      exact wp_ite (fun _ => (wp_pure _).mpr (hread data f w hw hf))
        fun _ => ih f _ (hread data f w hw hf)

/-- The start of a session: the Cancel is sent iff the flag asks for it, since the reason of the
last disconnect was just cleared. `I` holds before the Cancel is sent, `J` after. -/
theorem wp_beginSession {Q : Post World Goto Unit} (I J : World → Prop) (hctl : CtlStable I)
    (hctl' : CtlStable J) (hw : I w.begin) (hsus : ∀ w, I w → Q.suspended w)
    (hsus' : ∀ w, J w → Q.suspended w)
    (hskip : w.s.didCancel = false →
      Q.done () (w.begin.update fun s => { s with didCancel := true }))
    (hcancel : ∀ ok w, I w → J (w.emit (.command opCancelConn [] ok)))
    (hread : ∀ data f w, J w → f.ReadFrom data → J (w.read .drain data f))
    (hdone : ∀ w, J w → Q.done () (w.update fun s => { s with didCancel := true })) :
    wp env beginSession Q w := by
  unfold beginSession
  refine wp_emit_bind.mpr (wp_update_bind.mpr (wp_emit_bind.mpr ((wp_get_bind _).mpr ?_)))
  have hend : ∀ w, J w → wp env (do
      let _ ← Sw2d.call (.usleep 50000)
      Sw2d.update fun s => { s with didCancel := true }) Q w := fun w hw =>
    wp_call J hctl' hw hsus' fun _ w hw => wp_update.mpr (hdone w hw)
  refine wp_ite (fun _ => ?_) fun hno => ?_
  · refine wp_bind (wp_hciUserSendCmd I hctl hw hsus fun ok w hw => ?_)
    refine wp_ite (fun _ => wp_indeterminate fun f => ?_) fun _ => ?_
    · exact (wp_drain hctl' hread 5 f _ (hcancel ok w hw)).mono (fun _ w hw => hend w hw)
        (fun _ _ h => h.elim) fun w hw => hsus' w hw
    · exact (wp_pure _).mpr (hend _ (hcancel ok w hw))
  · have hflag : w.s.didCancel = false := Bool.eq_false_iff.mpr fun h => hno (.inl h)
    exact wp_update.mpr (hskip hflag)

/-- The parameters of LE Create Connection. -/
def createConnParams (s : Session) : Octets :=
  putLe16 0x0010 ++ putLe16 0x0010 ++ [0x00, s.peerAddrType] ++ s.peerAddr.toList ++
    [s.localAddrType] ++ putLe16 0x0028 ++ putLe16 0x0038 ++ putLe16 0x0000 ++ putLe16 0x0C80 ++
    putLe16 0x0001 ++ putLe16 0x0001

/-- LE Create Connection is recorded with the addresses of the session. -/
theorem wp_leCreateConn {k : Bool → Host α} (I : World → Prop) (hctl : CtlStable I) (hw : I w)
    (hsus : ∀ w, I w → Q.suspended w)
    (hk : ∀ ok w, I w → wp env (k ok) Q
      (w.emit (.command opCreateConn (createConnParams w.s) ok))) :
    wp env (leCreateConn >>= k) Q w := by
  apply wp_bind
  unfold leCreateConn
  apply (wp_get_bind _).mpr
  refine wp_call (fun w' => I w' ∧ w'.s = w.s) (fun e w' h => ⟨hctl e w' h.1, h.2⟩) ⟨hw, rfl⟩
    (fun w' h => hsus w' h.1) fun ok w' h => wp_emit_bind.mpr ((wp_pure _).mpr ?_)
  rw [← h.2]
  exact hk ok w' h.1

/-- Phase 1: `I` holds before LE Create Connection is sent, `J` while its completion is awaited,
`K` once it was read. -/
theorem wp_connect {Q : Post World Goto Unit} (I J K : World → Prop) (hctl : CtlStable I)
    (hctl' : CtlStable K) (hw : I w) (hsus : ∀ w, I w → Q.suspended w)
    (hsus' : ∀ w, K w → Q.suspended w)
    (hno : ∀ w, I w → Q.raised .reconnect
      (w.emit (.command opCreateConn (createConnParams w.s) false)))
    (hyes : ∀ w, I w → J (w.emit (.command opCreateConn (createConnParams w.s) true)))
    (hwait : ∀ w, J w → wp env (rxAwait evtLeMeta evtLeConnComplete none 10000)
      ⟨fun x w => if x.1 = .got then K (w.setState .connectedUnencrypted)
        else Q.raised .reconnect w,
        Q.raised, Q.suspended⟩ w)
    (hdone : ∀ w, K w → Q.done () w) : wp env connect Q w := by
  unfold connect
  refine wp_leCreateConn I hctl hw hsus fun ok w hw => ?_
  refine wp_require_bind (fun hok => ?_) fun hok => ?_
  · subst hok
    refine (hwait _ (hyes w hw)).seq fun x w hx => ?_
    refine wp_require_bind (fun hgot => ?_) fun hgot => ?_
    · simp only [of_decide_eq_true hgot, if_true] at hx
      refine wp_setState_bind.mpr (wp_call K hctl' hx hsus' fun _ w hw => ?_)
      exact (wp_pure _).mpr (hdone w hw)
    · simp only [of_decide_eq_false hgot, if_false] at hx
      exact hx
  · subst hok
    exact hno w hw

/-- Phase 1 keeps an assertion that its command, its reads and its states keep. -/
theorem Always.connect (hctl : CtlStable I) (hupd : ∀ g w, Session.Frames g → I w → I (w.update g))
    (hhandle : ∀ h w, I w → I (w.update fun s => { s with connHandle := h }))
    (hcreate : ∀ ok w, I w → I (w.emit (.command opCreateConn (createConnParams w.s) ok)))
    (hread : ∀ data f w, I w → f.ReadFrom data →
      ¬(f.isEncryptSuccess ∧ f.handle = w.s.connHandle) → I (w.read .rxAwait data f))
    (henc : ∀ data f w, I w → f.ReadFrom data → f.isEncryptSuccess → f.handle = w.s.connHandle →
      I ((w.read .rxAwait data f).setState .encrypted))
    (hstate : ∀ w, I w → I (w.setState .connectedUnencrypted)) :
    Always env I Sw2d.connect := by
  have hmeta : ∀ {f : Frame} {w : World}, f.evtCode ≠ evtEncryptChange →
      ¬(f.isEncryptSuccess ∧ f.handle = w.s.connHandle) := fun hne h => hne h.1.2.1
  intro w hw
  refine wp_connect I I I hctl hctl hw (fun _ h => h) (fun _ h => h)
    (hcreate _) (hcreate _) ?_
    fun _ h => h
  intro w hw
  refine wp_rxAwait I hctl hw (fun _ h => h) (fun w hw => hw) ?_ ?_ henc ?_ ?_ ?_
  · intro data f w hw hf hd
    refine hupd _ _ (fun _ => ⟨rfl, rfl, rfl⟩) (hread data f w hw hf (hmeta ?_))
    rw [hd.2]
    decide
  · exact fun data f w hw hf _ hne _ => hread data f w hw hf hne
  · intro data f w hw hf hc _
    refine hread data f w hw hf (hmeta ?_)
    rw [hc.2.1]
    decide
  · intro data f w hw hf hc _
    refine hstate _ (hhandle _ _ (hread data f w hw hf (hmeta ?_)))
    rw [hc.2.1]
    decide
  · intro data f w hw hf _ haw _
    refine hstate _ (hread data f w hw hf fun h => ?_)
    exact Frame.IsEncryptSuccess.not_awaited h.1 haw

/-! ### The phases -/

theorem Always.smpSend (hctl : CtlStable I) {data : Octets}
    (h : ∀ handle ok w, I w → I (w.emit (.acl handle smpCid data ok))) :
    Always env I (Sw2d.smpSend data) :=
  Always.get.bind fun w => Always.hciUserAclSend hctl (h w.s.connHandle)

/-- ATT data is recorded with the handle of the connection: the controller does not change it
while the packet is written. -/
theorem Always.attSend (hctl : CtlStable I) {data : Octets}
    (h : ∀ ok w, I w → I (w.emit (.acl w.s.connHandle attCid data ok))) :
    Always env I (Sw2d.attSend data) := by
  intro w hw
  apply (wp_get_bind _).mpr
  refine wp_hciUserAclSend (fun w' => I w' ∧ w'.s.connHandle = w.s.connHandle)
    (fun e w' h' => ⟨hctl e w' h'.1, h'.2⟩) ⟨hw, rfl⟩ (fun _ h' => h'.1) (fun _ => hw)
    fun ok w' h' => ?_
  have hemit := h ok w' h'.1
  rw [h'.2] at hemit
  exact hemit

theorem Quiet.sessionUpdate (h : Quiet cid I) {g : Session → Session} (hg : Session.Frames g) :
    Always env I (Sw2d.update g) := Always.update fun w hw => h.update g w hg hw

theorem Quiet.storePairingResponse (h : Quiet smpCid I)
    (hstate : ∀ w, I w → I (w.setState .smpConfirmRandom)) (buf : Octets) :
    Always env I (Sw2d.storePairingResponse buf) :=
  Always.bind (h.sessionUpdate fun _ => ⟨rfl, rfl, rfl⟩) fun _ => Always.setState hstate

/-- Waiting for the Pairing Response, once or twice. -/
theorem Quiet.awaitPairingResponse (h : Quiet smpCid I)
    (hstate : ∀ w, I w → I (w.setState .smpConfirmRandom)) :
    Always env I Sw2d.awaitPairingResponse := by
  have hgo : Always env I (gotoReconnect : Host Unit) := Always.raise _
  refine (Always.indeterminate _).bind fun buf => (h.rxAwaitAcl _ _).bind fun x => ?_
  refine Always.ite hgo (Always.ite (h.storePairingResponse hstate _) (Always.ite hgo ?_))
  refine Always.ite ((h.rxAwaitAcl _ _).bind fun x => ?_) hgo
  exact Always.ite (h.storePairingResponse hstate _) hgo

theorem Quiet.awaitPdu17 (h : Quiet smpCid I) (op : UInt8) :
    Always env I (Sw2d.awaitPdu17 op) := by
  refine (Always.indeterminate _).bind fun buf => (h.rxAwaitAcl _ _).bind fun x => ?_
  exact Always.ite (Always.raise _) (Always.ite (Always.raise _) (Always.pure _))

/-- Phase 2 keeps an assertion that the traffic on the SMP channel keeps, and the states before
the encryption. -/
theorem Quiet.pair (aes : Block → Block → Block) (h : Quiet smpCid I)
    (hacl : ∀ handle data ok w, I w → I (w.emit (.acl handle smpCid data ok)))
    (hstate : ∀ st w, I w → st = .smpPairingSent ∨ st = .smpConfirmRandom → I (w.setState st))
    (sendSecurityReq : Bool) : Always env I (Sw2d.pair aes sendSecurityReq) := by
  have hsend : ∀ data, Always env I (do require (← Sw2d.smpSend data)) := fun data =>
    (Always.smpSend h.ctl fun handle => hacl handle data).bind fun ok => Always.require ok
  have hsec : Always env I (securityRequest sendSecurityReq) := Always.ite (hsend _) (Always.pure _)
  have hreq : Always env I pairingRequest :=
    Always.bind (h.sessionUpdate fun _ => ⟨rfl, rfl, rfl⟩) fun _ => Always.bind
      (Always.smpSend h.ctl fun handle => hacl handle _) fun ok => (Always.require ok).bind fun _ =>
        Always.setState fun w hw => hstate _ w hw (.inl rfl)
  have hrsp : Always env I Sw2d.awaitPairingResponse :=
    h.awaitPairingResponse fun w hw => hstate _ w hw (.inr rfl)
  have hgen : Always env I (generateConfirm aes) :=
    (Always.indeterminate _).bind fun _ => Always.bind (h.sessionUpdate fun _ => ⟨rfl, rfl, rfl⟩)
      fun _ => h.sessionUpdate fun _ => ⟨rfl, rfl, rfl⟩
  have hver : Always env I (verifyConfirm aes) :=
    Always.get.bind fun _ => Always.ite (Always.raise _) (Always.pure _)
  have hpdu : ∀ op (g : Octets → Session → Session), (∀ buf, Session.Frames (g buf)) →
      Always env I (do let buf ← Sw2d.awaitPdu17 op; Sw2d.update (g buf)) := fun op g hg =>
    (h.awaitPdu17 op).bind fun buf => h.sessionUpdate (hg buf)
  refine hsec.bind fun _ => hreq.bind fun _ => hrsp.bind fun _ => hgen.bind fun _ => ?_
  refine Always.bind (Always.get.bind fun _ => hsend _) fun _ => ?_
  refine Always.bind (hpdu _ _ fun _ _ => ⟨rfl, rfl, by unfold Session.given; rfl⟩) fun _ => ?_
  refine Always.bind (Always.get.bind fun _ => hsend _) fun _ => ?_
  refine Always.bind (hpdu _ _ fun _ _ => ⟨rfl, rfl, by unfold Session.given; rfl⟩) fun _ => ?_
  exact hver.bind fun _ => h.sessionUpdate fun _ => ⟨rfl, rfl, rfl⟩

/-- The wait for the encryption keeps an assertion that its reads, its replies and its state
keep. -/
theorem Always.awaitEncryption (hctl : CtlStable I)
    (hupd : ∀ g w, Session.Frames g → I w → I (w.update g))
    (hreply : ∀ params ok w, I w → I (w.emit (.command (hciOpcode 0x08 0x001a) params ok)))
    (hread : ∀ data f w, I w → f.ReadFrom data → I (w.read .encryption data f))
    (hstate : ∀ w, I w → I (w.setState .encrypted)) : Always env I Sw2d.awaitEncryption := by
  have hframe : ∀ f, Always env I (encryptionFrame f) := by
    intro f
    refine Always.get.bind fun w => Always.ite (Always.raise _) (Always.ite ?_ (Always.pure _))
    exact Always.bind (Always.hciUserSendCmd hctl (hreply _)) fun _ => Always.pure _
  have hloop : ∀ deadline encrypted, Always env I (encryptionStep deadline encrypted) := by
    intro deadline encrypted
    refine hctl.nowMs.bind fun now => Always.ite (Always.pure _) ?_
    refine hctl.gRunning.bind fun running => Always.ite (Always.pure _) ?_
    refine (Always.indeterminate _).bind fun f => ?_
    refine Always.bind (Always.hciUserReadFrame hctl hread) fun x => ?_
    rcases x with _ | f
    · exact Always.pure _
    · exact (hframe f).bind fun _ => Always.pure _
  refine hctl.nowMs.bind fun now => ?_
  refine Always.bind (Always.loop (hloop _) _) fun x => (Always.require _).bind fun _ => ?_
  exact Always.bind (Always.setState hstate) fun _ =>
    Always.update fun w hw => hupd _ w (fun _ => ⟨rfl, rfl, rfl⟩) hw

/-- Phase 3 keeps an assertion that its commands, its reads and its states keep. -/
theorem Always.encrypt (hctl : CtlStable I)
    (hupd : ∀ g w, Session.Frames g → I w → I (w.update g))
    (hcmd : ∀ ocf params ok w, I w → ocf = 0x0019 ∨ ocf = 0x001a →
      I (w.emit (.command (hciOpcode 0x08 ocf) params ok)))
    (hread : ∀ data f w, I w → f.ReadFrom data → I (w.read .encryption data f))
    (hstate : ∀ st w, I w → I (w.setState st)) : Always env I Sw2d.encrypt := by
  have hstart : Always env I startEncryption :=
    Always.get.bind fun w => Always.bind (Always.hciUserSendCmd hctl fun ok w hw =>
      hcmd _ _ ok w hw (.inl rfl)) fun ok => (Always.require ok).bind fun _ =>
        Always.setState (hstate _)
  exact hstart.bind fun _ => Always.awaitEncryption hctl hupd
    (fun _ _ _ hw => hcmd _ _ _ _ hw (.inr rfl)) hread (hstate _)

/-- Phase 4 keeps an assertion that its traffic, its records and its states keep. -/
theorem Quiet.attPhase (h : Quiet attCid I)
    (hacl : ∀ data ok w, I w → I (w.emit (.acl w.s.connHandle attCid data ok)))
    (hstep : ∀ step w, I w → I (w.emit (.attStep step)))
    (hmtu : ∀ mtu w, I w → I (w.emit (.attMtu mtu)))
    (hservices : ∀ a b w, I w → I (w.emit (.services a b)))
    (hstate : ∀ st w, I w → I (w.setState st)) : Always env I Sw2d.attPhase := by
  have hgo : ∀ {α}, Always env I (gotoReconnect : Host α) := Always.raise _
  have hex : ∀ step req n t, Always env I (attExchange step req n t) := fun step req n t =>
    Always.bind (Always.emit (hstep step)) fun _ =>
      Always.bind (Always.attSend h.ctl fun ok w hw => hacl req ok w hw) fun ok =>
        (Always.require ok).bind fun _ => (Always.indeterminate _).bind fun buf =>
          h.rxAwaitAcl _ _
  have hset : ∀ st, Always env I (Sw2d.setState st) := fun st => Always.setState (hstate st)
  have hmtu' : Always env I attMtuExchange :=
    (hex _ _ _ _).bind fun x => Always.bind (h.sessionUpdate fun _ => ⟨rfl, rfl, rfl⟩) fun _ =>
      Always.bind (Always.emit (hmtu _)) fun _ => hset _
  have hsvc : Always env I discoverServices :=
    (hex _ _ _ _).bind fun x => Always.bind (h.sessionUpdate fun _ => ⟨rfl, rfl, rfl⟩) fun _ =>
      Always.emit (hservices _ _)
  have hend : Always env I (do Sw2d.emit (.notDelivered attCid); Pure.pure (.inr ()) :
      Host (Unit ⊕ Unit)) := Always.bind (Always.emit h.notDelivered) fun _ => Always.pure _
  have hturn : ∀ deadline, Always env I (characteristicsStep deadline) := by
    intro deadline
    refine h.ctl.nowMs.bind fun now => Always.ite hend ?_
    refine h.ctl.gRunning.bind fun running => Always.ite hend ?_
    refine (Always.indeterminate _).bind fun buf => h.ctl.nowMs.bind fun now => ?_
    refine (h.rxAwaitAcl _ _).bind fun x => Always.ite hgo (Always.ite (Always.pure _) ?_)
    refine Always.bind (h.sessionUpdate fun s => ?_) fun _ => Always.ite (Always.pure _)
      (Always.pure _)
    unfold Session.noteCharacteristic
    split <;> exact ⟨rfl, rfl, rfl⟩
  have hchar : Always env I discoverCharacteristics := by
    refine Always.get.bind fun w => Always.bind (Always.emit (hstep _)) fun _ => ?_
    refine Always.bind (Always.attSend h.ctl fun ok w hw => hacl _ ok w hw) fun ok => ?_
    refine (Always.require ok).bind fun _ => h.ctl.nowMs.bind fun now => ?_
    refine Always.bind (Always.loop (fun _ => hturn _) ()) fun _ => ?_
    refine Always.bind (h.sessionUpdate fun s => ?_) fun _ => hset _
    split <;> exact ⟨rfl, rfl, rfl⟩
  refine hmtu'.bind fun _ => hsvc.bind fun _ => hchar.bind fun _ => ?_
  exact Always.get.bind fun w => (hex _ _ _ _).bind fun _ => hset _

/-- Phase 5 keeps an assertion that its reads keep. -/
theorem Always.receiveReports (hctl : CtlStable I)
    (hupd : ∀ g w, Session.Frames g → I w → I (w.update g))
    (hread : ∀ data f w, I w → f.ReadFrom data → I (w.read .reports data f)) :
    Always env I Sw2d.receiveReports := by
  have hg : ∀ {g : Session → Session}, Session.Frames g → Always env I (Sw2d.update g) :=
    fun hg => Always.update fun w hw => hupd _ w hg hw
  refine Always.bind (Always.loop (fun _ => ?_) ()) fun _ => hg fun _ => ⟨rfl, rfl, rfl⟩
  refine hctl.gRunning.bind fun running => Always.get.bind fun w => Always.ite (Always.pure _) ?_
  refine (Always.indeterminate _).bind fun f => ?_
  refine Always.bind (Always.hciUserReadFrame hctl hread) fun x => ?_
  rcases x with _ | f
  · exact Always.pure _
  · exact Always.ite (Always.bind (hg fun _ => ⟨rfl, rfl, rfl⟩)
      fun _ => Always.pure _) (Always.pure _)

/-- What can be observed once the connection is made. -/
def Obs.afterConnection : Obs → Bool
  | .state _ | .acl .. | .delivered .. | .notDelivered _ | .attStep _ | .attMtu _ | .services .. =>
      true
  | .read place .. => place != .drain && place != .rxAwait
  | .command opcode .. => opcode != opCreateConn && opcode != opCancelConn
  | _ => false

/-- An assertion that the steps of a session, and what is observed once the connection is made,
keep. -/
structure Steady (I : World → Prop) : Prop where
  ctl : CtlStable I
  update : ∀ g w, Session.Frames g → I w → I (w.update g)
  setState : ∀ st w, I w → I (w.setState st)
  emit : ∀ o w, o.afterConnection = true → I w → I (w.emit o)

theorem Steady.quiet (h : Steady I) (cid : UInt16) : Quiet cid I where
  ctl := h.ctl
  update := h.update
  read _ _ _ hw _ _ := h.emit _ _ rfl hw
  encrypted _ _ _ hw _ _ := h.setState _ _ (h.emit _ _ rfl hw)
  delivered _ _ _ hw := h.emit _ _ rfl hw
  notDelivered _ hw := h.emit _ _ rfl hw

/-- Phases 2 to 5. -/
theorem Steady.phases (h : Steady I) (aes : Block → Block → Block) (sendSecurityReq : Bool) :
    Always env I (do Sw2d.pair aes sendSecurityReq; encrypt; attPhase; receiveReports) := by
  have hpair : Always env I (Sw2d.pair aes sendSecurityReq) :=
    (h.quiet smpCid).pair aes (fun _ _ _ _ hw => h.emit _ _ rfl hw)
      (fun st w hw _ => h.setState st w hw) sendSecurityReq
  have hencrypt : Always env I Sw2d.encrypt := by
    apply Always.encrypt h.ctl h.update
    · rintro ocf params ok w hw (rfl | rfl)
      · exact h.emit _ _ (by rfl) hw
      · exact h.emit _ _ (by rfl) hw
    · exact fun _ _ _ hw _ => h.emit _ _ rfl hw
    · exact h.setState
  have hatt : Always env I Sw2d.attPhase :=
    (h.quiet attCid).attPhase (fun _ _ _ hw => h.emit _ _ rfl hw)
      (fun _ _ hw => h.emit _ _ rfl hw) (fun _ _ hw => h.emit _ _ rfl hw)
      (fun _ _ _ hw => h.emit _ _ rfl hw) h.setState
  have hreports : Always env I Sw2d.receiveReports :=
    Always.receiveReports h.ctl h.update fun _ _ _ hw _ => h.emit _ _ rfl hw
  exact hpair.bind fun _ => hencrypt.bind fun _ => hatt.bind fun _ => hreports

/-- An assertion about the trace that whatever is observed once the connection is made keeps. -/
structure Lasts (I : World → Prop) : Prop where
  ctl : CtlStable I
  update : ∀ g w, I w → I (w.update g)
  emit : ∀ o w, o.afterConnection = true → I w → I (w.emit o)

theorem Lasts.steady (h : Lasts I) : Steady I where
  ctl := h.ctl
  update g w _ hw := h.update g w hw
  setState _ w hw := h.emit _ _ rfl (h.update _ w hw)
  emit := h.emit

/-- Phases 2 to 5. -/
theorem Lasts.phases (h : Lasts I) (aes : Block → Block → Block) (sendSecurityReq : Bool) :
    Always env I (do Sw2d.pair aes sendSecurityReq; encrypt; attPhase; receiveReports) :=
  h.steady.phases aes sendSecurityReq

end phases

/-! ## The loop -/

/-- The rule for the loop: `I` holds between two iterations, `S` at every await. -/
theorem hostRun_of_iteration {aes : Block → Block → Block} {cfg : HostConfig}
    {I S : World → Prop} (hctl : CtlStable I) (hsus : ∀ w, I w → S w)
    (hend : ∀ w, I w → I (w.emit .reconnect))
    (hiter : ∀ w, I w → wp env (iteration aes cfg.sendSecurityReq) ⟨fun _ => I, fun _ => I, S⟩ w)
    (hstart : I cfg.start) (budget : ℕ) : S (hostRun aes cfg env budget) := by
  have hwp : wp env (reconnectLoop aes cfg.sendSecurityReq) (Post.all S) cfg.start := by
    refine wp_loop (fun _ => I) (fun _ => hsus) (fun backoff w hw => ?_) hstart
    refine wp_gRunning I hctl hw hsus fun running w hw => ?_
    refine wp_ite (fun _ => (wp_pure _).mpr (hsus w hw)) fun _ => ?_
    refine wp_bind (wp_attempt ((hiter w hw).mono ?_ ?_ fun _ h => h))
    all_goals
      intro _ w hw
      refine wp_emit_bind.mpr (wp_gRunning I hctl (hend w hw) hsus fun running w hw => ?_)
      refine wp_ite (fun _ => (wp_pure _).mpr (hsus w hw)) fun _ => ?_
      exact wp_call I hctl hw hsus fun _ w hw => (wp_pure _).mpr hw
  exact (Outcome.sat_all S _ _).mp (hwp 0 budget)

/-! ## Scripted environments -/

/-- The environment in which the `n`-th call, if a read, gives the octets listed for `n`, the
controller does what is listed for `n`, every write succeeds, a call takes `ms` milliseconds, and
whatever the program does not determine is zero. -/
def HostEnv.scripted (ms : ℕ) (reads : List (ℕ × Octets)) (acts : List (ℕ × List CtlEvent)) :
    HostEnv where
  answer n c := match c with
    | .read _ => (reads.lookup n : Option Octets)
    | .write _ => (true : Bool)
    | .nowMs => ((ms * n : ℕ) : ℤ)
    | .running => (true : Bool)
    | .usleep _ => ()
    | .sleep _ => ()
    | .frame => (⟨0, 0, 0, 0, 0, 0, 0, 0, 0, 0, 0, [], 0⟩ : Frame)
    | .buffer k => Vector.replicate k (0 : UInt8)
    | .rand => Vector.replicate 16 (0 : UInt8)
  events n := (acts.lookup n).getD []

/-- The LE Connection Complete of a connection with the peer 06:05:04:03:02:01. -/
def connCompleteFrame (status handle : UInt8) : Octets :=
  [0x04, 0x3e, 0x13, 0x01, status, handle, 0x00, 0x00, 0x00, 0x01, 0x02, 0x03, 0x04, 0x05, 0x06,
    0x28, 0x00, 0x00, 0x00, 0x80, 0x0c, 0x00]

/-- ACL data of the connection 0x0040. -/
def aclFrame (cid : UInt8) (data : Octets) : Octets :=
  [0x02, 0x40, 0x20, UInt8.ofNat (data.length + 4), 0x00, UInt8.ofNat data.length, 0x00, cid,
    0x00] ++ data

/-- The Encryption Change of the connection 0x0040. -/
def encryptionChangeFrame (enabled : UInt8) : Octets :=
  [0x04, 0x08, 0x04, 0x00, 0x40, 0x00, enabled]

/-- Two public addresses; this side's is the fallback of `main`. -/
def publicConfig : HostConfig where
  sendSecurityReq := false
  peerAddrType := 0x00
  localAddrType := 0x00
  peerAddr := #v[0x01, 0x02, 0x03, 0x04, 0x05, 0x06]
  localAddr := #v[0xD8, 0x3A, 0xDD, 0xE5, 0x69, 0xED]

/-- A pairing with `publicConfig` in which nothing is enciphered and all random octets are zero:
the connection, the response, the peer's confirm value and its random octets. -/
def pairingScript : List (ℕ × Octets) :=
  [(6, connCompleteFrame 0x00 0x40), (14, aclFrame 0x06 [0x02, 0x03, 0x00, 0x01, 0x10, 0x03, 0x03]),
    (22, aclFrame 0x06 [0x03, 0x02, 0x03, 0x00, 0x01, 0x11, 0x01, 0x00, 0x05, 0x06, 0x06, 0xd9,
      0x2a, 0xde, 0xe6, 0x69, 0xed]),
    (29, aclFrame 0x06 ([0x04] ++ List.replicate 16 0x00))]

end Switch2Bt.Sw2d
