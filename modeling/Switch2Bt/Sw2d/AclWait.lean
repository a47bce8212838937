import Switch2Bt.Sw2d.ConnectionWait

/-!
# The wait for ACL data (`sw2d_final.c`, `rx_await_acl`)

`rx_await_acl` returns 0 with the first frame of the channel, but copies its payload only if that
fits. What it hands out is the payload, and what `main` then decides does not depend on the old
contents of the buffer, exactly when the payload fits; in 4c it has to have an octet as well, since
the test for an Error Response does not look at the length (`aclWait_iff`). A longer payload leaves
the buffer and its length as they were (`not_aclWait_long`).

* `AclSite` are the eight calls in `main`, `AclSite.decision` is what follows from the octets there.
* The buffer does not steer the wait (`rxAwaitAcl_eq`), so two runs that differ in its contents
  read the same frames.
-/

namespace Switch2Bt.Sw2d

open Await Octets

/-! ## Decisions -/

/-- What a frame in 2c can be. -/
inductive PairingAnswer where
  | response (pres : Vector UInt8 7)
  | failed
  | securityRequest
  | other
deriving DecidableEq, Repr

theorem isPairingResponse_got {buf : Octets} {blen : ℕ} :
    IsPairingResponse .got buf blen ↔ 7 ≤ blen ∧ buf.octet 0 = smpOpPairingRsp := by
  simp [IsPairingResponse]

/-- Source: `sw2d_final.c` `main` (2c, conditions) -/
def pairingAnswer (buf : Octets) (blen : ℕ) : PairingAnswer :=
  if IsPairingResponse .got buf blen then .response (block 7 buf 0)
  else if 2 ≤ blen ∧ buf.octet 0 = smpOpPairingFailed then .failed
  else if 2 ≤ blen ∧ buf.octet 0 = smpOpSecurityRequest then .securityRequest
  else .other

/-- Source: `sw2d_final.c` `main` (2f and 2h, condition and `memcpy`) -/
def pdu17 (op : UInt8) (buf : Octets) (blen : ℕ) : Option Block :=
  if blen ≠ 17 ∨ buf.octet 0 ≠ op then none else some (block 16 buf 1)

/-- The value handle that an answer to 4c is taken to give.
Source: `sw2d_final.c` `main` (4c, loop body) -/
def notedHandle (buf : Octets) (blen : ℕ) : Option UInt16 :=
  if buf.octet 0 = attOpReadByTypeRsp ∧ 7 ≤ blen ∧ buf.octet 4 &&& 0x10 ≠ 0 then
    some (getLe16 buf 5)
  else none

/-- The calls of `rx_await_acl`. -/
inductive AclSite where
  | pairingResponse
  | pairingResponseAgain
  | confirm
  | random
  | mtu
  | services
  | characteristic
  | cccd
deriving DecidableEq, Repr

/-- Source: `sw2d_final.c` `main` (calls of `rx_await_acl`) -/
def AclSite.cid : AclSite → UInt16
  | .pairingResponse | .pairingResponseAgain | .confirm | .random => smpCid
  | .mtu | .services | .characteristic | .cccd => attCid

/-- The octets of the buffer.
Source: `sw2d_final.c` `main` (`buf`) -/
def AclSite.cap : AclSite → ℕ
  | .pairingResponse | .pairingResponseAgain | .confirm | .random | .mtu => 32
  | .services | .characteristic => 64
  | .cccd => 16

/-- What `main` decides after a call that returned 0. -/
inductive Decision where
  | pairing (answer : PairingAnswer)
  | pdu (value : Option Block)
  | mtu (mtu : UInt16)
  | services (range : UInt16 × UInt16)
  /-- The handle taken, and whether the discovery ends. -/
  | characteristic (handle : Option UInt16) (last : Bool)
  /-- Whether the write is reported as confirmed. -/
  | cccd (ok : Bool)
deriving DecidableEq, Repr

/-- Source: `sw2d_final.c` `main` (after the calls of `rx_await_acl`) -/
def AclSite.decision (site : AclSite) (buf : Octets) (blen : ℕ) : Decision :=
  match site with
  | .pairingResponse | .pairingResponseAgain => .pairing (pairingAnswer buf blen)
  | .confirm => .pdu (pdu17 smpOpConfirm buf blen)
  | .random => .pdu (pdu17 smpOpRandom buf blen)
  | .mtu => .mtu (mtuOf .got buf blen)
  | .services => .services (servicesOf .got buf blen)
  | .characteristic => .characteristic (notedHandle buf blen) (buf.octet 0 = attOpErrorRsp)
  | .cccd => .cccd (1 ≤ blen ∧ buf.octet 0 = attOpWriteRsp)

/-- What 2c does with the answer it decided on. -/
def onPairingAnswer (again : Host Unit) : PairingAnswer → Host Unit
  | .response pres => do
      update fun s => { s with smpPres := pres }
      setState .smpConfirmRandom
  | .securityRequest => again
  | .failed | .other => gotoReconnect

/-- 2c is its wait, the decision, and what follows from it; `rc` is what the wait returned. -/
theorem onPairingAnswer_eq (buf : Octets) (blen : ℕ) (again : Host Unit) :
    (if IsPairingResponse .got buf blen then storePairingResponse buf
      else if 2 ≤ blen ∧ buf.octet 0 = smpOpPairingFailed then gotoReconnect
      else if 2 ≤ blen ∧ buf.octet 0 = smpOpSecurityRequest then again
      else gotoReconnect) = onPairingAnswer again (pairingAnswer buf blen) := by
  unfold pairingAnswer
  split_ifs <;> rfl

/-- What 4c notes is the handle it decided on. -/
theorem noteCharacteristic_eq (buf : Octets) (blen : ℕ) (s : Session) :
    s.noteCharacteristic buf blen = match notedHandle buf blen with
      | some h => { s with reportHandle := h, reportCccd := h + 1 }
      | none => s := by
  unfold Session.noteCharacteristic notedHandle
  split_ifs <;> rfl

/-! ### Octets a decision reads -/

section congr

variable {a b : Octets} {n pos k : ℕ}

theorem block_congr (h : ∀ i < pos + k, a.octet i = b.octet i) : block k a pos = block k b pos := by
  unfold block
  exact congrArg Vector.ofFn (funext fun i => h _ (by omega))

theorem getLe16_congr (h : ∀ i < pos + 2, a.octet i = b.octet i) :
    getLe16 a pos = getLe16 b pos := by
  unfold getLe16
  rw [h pos (by omega), h (pos + 1) (by omega)]

theorem notedHandle_congr (h : ∀ i < n, a.octet i = b.octet i) :
    notedHandle a n = notedHandle b n := by
  unfold notedHandle
  by_cases hlen : 7 ≤ n
  · rw [h 0 (by omega), h 4 (by omega), getLe16_congr fun i hi => h i (by omega)]
  · rw [if_neg fun hc => hlen hc.2.1, if_neg fun hc => hlen hc.2.1]

/-- Every decision, but the one of 4c, reads octets below the length only; that one reads the first
octet of a buffer of any length. -/
theorem AclSite.decision_congr (site : AclSite) (h : ∀ i < n, a.octet i = b.octet i)
    (hsite : site = .characteristic → 0 < n) : site.decision a n = site.decision b n := by
  have hpairing : pairingAnswer a n = pairingAnswer b n := by
    simp only [pairingAnswer, isPairingResponse_got]
    by_cases htwo : 2 ≤ n
    · rw [h 0 (by omega)]
      by_cases hseven : 7 ≤ n
      · rw [block_congr fun i hi => h i (by omega)]
      · simp only [hseven, false_and, if_false]
    · have hseven : ¬7 ≤ n := by omega
      simp only [htwo, hseven, false_and, if_false]
  have hpdu : ∀ op, pdu17 op a n = pdu17 op b n := by
    intro op
    unfold pdu17
    by_cases hlen : n = 17
    · rw [h 0 (by omega), block_congr fun i hi => h i (by omega)]
    · rw [if_pos (.inl hlen), if_pos (.inl hlen)]
  cases site with
  | pairingResponse => exact congrArg Decision.pairing hpairing
  | pairingResponseAgain => exact congrArg Decision.pairing hpairing
  | confirm => exact congrArg Decision.pdu (hpdu _)
  | random => exact congrArg Decision.pdu (hpdu _)
  | mtu =>
      refine congrArg Decision.mtu ?_
      unfold mtuOf
      by_cases hlen : 3 ≤ n
      · rw [h 0 (by omega), getLe16_congr fun i hi => h i (by omega)]
      · rw [if_neg fun hc => hlen hc.2.1, if_neg fun hc => hlen hc.2.1]
  | services =>
      refine congrArg Decision.services ?_
      unfold servicesOf
      by_cases hlen : 6 ≤ n
      · have hfirst : getLe16 a 2 = getLe16 b 2 := getLe16_congr fun i hi => h i (by omega)
        have hlast : getLe16 a 4 = getLe16 b 4 := getLe16_congr fun i hi => h i (by omega)
        rw [h 0 (by omega), hfirst, hlast]
      · rw [if_neg fun hc => hlen hc.2.1, if_neg fun hc => hlen hc.2.1]
  | characteristic =>
      simp only [AclSite.decision, notedHandle_congr h, h 0 (hsite rfl)]
  | cccd =>
      refine congrArg Decision.cccd ?_
      by_cases hlen : 1 ≤ n
      · rw [h 0 hlen]
      · simp only [hlen, false_and]

end congr

/-! ## The wait and its buffer -/

/-- One turn of the wait, which hands out the frame.
Source: `sw2d_final.c` `rx_await_acl` (without `out`) -/
def rxAwaitFrameStep (cid : UInt16) (cap : ℕ) (deadline : ℤ) (f : Frame) :
    Host (Frame ⊕ (Rx × Option Frame)) := do
  let running ← gRunning
  if running = false then
    emit (.notDelivered cid)
    pure (.inr (.failed, none))
  else
    let now ← nowMs
    if deadline - now ≤ 0 then
      emit (.notDelivered cid)
      pure (.inr (.failed, none))
    else
      match ← hciUserReadFrame .rxAwaitAcl f (min (deadline - now) 500) with
      | none => pure (.inl f)
      | some f =>
          let w ← Coro.get
          if f.isDisconnect then
            update fun s => { s with lastDisconnectReason := f.status }
            emit (.notDelivered cid)
            pure (.inr (.disconnected, none))
          else if f.isEncryptSuccess then
            setState .encrypted
            pure (.inl f)
          else if f.isAclOn w.s.connHandle cid then
            emit (.delivered cid f cap)
            pure (.inr (.got, some f))
          else pure (.inl f)

/-- The wait, which hands out the frame.
Source: `sw2d_final.c` `rx_await_acl` (without `out`) -/
def rxAwaitFrame (cid : UInt16) (cap : ℕ) (timeoutMs : ℤ) : Host (Rx × Option Frame) := do
  let now ← nowMs
  let f ← indeterminate .frame
  Coro.loop (rxAwaitFrameStep cid cap (now + timeoutMs)) f

/-- The buffer and the length after a wait that ended with this frame. -/
def handOut (buf : Octets) (x : Rx × Option Frame) : Rx × Octets × ℕ :=
  (x.1, match x.2 with
    | some f => rxAwaitAclOut buf f
    | none => (buf, buf.length))

/-- The buffer does not steer the wait. -/
theorem rxAwaitAcl_eq (cid : UInt16) (buf : Octets) (timeoutMs : ℤ) :
    rxAwaitAcl cid buf timeoutMs =
      rxAwaitFrame cid buf.length timeoutMs >>= fun x => pure (handOut buf x) := by
  have hstep : ∀ deadline f, rxAwaitAclStep cid buf deadline f =
      rxAwaitFrameStep cid buf.length deadline f >>= fun x => pure (x.map id (handOut buf)) := by
    intro deadline f
    unfold rxAwaitAclStep rxAwaitFrameStep
    simp only [bind_assoc]
    refine bind_congr fun running => ?_
    split
    · rfl
    rw [bind_assoc]
    refine bind_congr fun now => ?_
    split
    · rfl
    rw [bind_assoc]
    refine bind_congr fun x => ?_
    rcases x with _ | f
    · rfl
    simp only [bind_assoc]
    refine bind_congr fun w => ?_
    split_ifs <;> rfl
  unfold rxAwaitAcl rxAwaitFrame
  simp only [bind_assoc]
  refine bind_congr fun now => bind_congr fun f => ?_
  exact Coro.loop_map (hstep _) f

variable {env : HostEnv} {cid : UInt16} {timeoutMs : ℤ} {r r' : Run World}

/-- What the buffer held does not decide whether the wait returns 0, or what it reads. -/
theorem rxAwaitAcl_got {buf buf' out : Octets} {blen : ℕ} (hlen : buf'.length = buf.length)
    (h : rxAwaitAcl cid buf timeoutMs env r = (.done (.got, out, blen), r')) :
    ∃ out' blen', rxAwaitAcl cid buf' timeoutMs env r = (.done (.got, out', blen'), r') := by
  rw [rxAwaitAcl_eq] at h ⊢
  obtain ⟨x, r₁, hx, hpure⟩ := Coro.bind_run_eq_done h
  have hres : (Outcome.done (handOut buf x), r₁) = (.done (.got, out, blen), r') := hpure
  obtain ⟨hout, rfl⟩ := Prod.ext_iff.mp hres
  have hgot : x.1 = .got := congrArg Prod.fst (Outcome.done.inj hout)
  refine ⟨(handOut buf' x).2.1, (handOut buf' x).2.2, ?_⟩
  rw [hlen, Coro.bind_run_done hx, ← hgot]
  rfl

/-! ## What it hands out -/

/-- The first frame that ends the wait, if it is data of the channel. -/
def awaitedFrame (handle cid : UInt16) (fs : List Frame) : Option Frame :=
  (fs.find? fun f => f.isDisconnect ∨ f.isAclOn handle cid).filter fun f => f.isAclOn handle cid

/-- A frame of no interest to the wait. -/
def Frame.Passed (handle cid : UInt16) (f : Frame) : Prop :=
  ¬f.isDisconnect ∧ ¬f.isAclOn handle cid

/-- With frames that are passed over, nothing is awaited yet. -/
theorem awaitedFrame_passed {handle : UInt16} {fs : List Frame}
    (h : ∀ f ∈ fs, f.Passed handle cid) : awaitedFrame handle cid fs = none := by
  have hfind : fs.find? (fun f => f.isDisconnect ∨ f.isAclOn handle cid) = none := by
    rw [List.find?_eq_none]
    intro f hf
    simpa [Frame.Passed] using h f hf
  rw [awaitedFrame, hfind, Option.filter_none]

/-- The frame after them ends the wait. -/
theorem awaitedFrame_snoc {handle : UInt16} {fs : List Frame} {f : Frame}
    (h : ∀ g ∈ fs, g.Passed handle cid) (hend : f.isDisconnect ∨ f.isAclOn handle cid) :
    awaitedFrame handle cid (fs ++ [f]) = if f.isAclOn handle cid then some f else none := by
  have hfind : fs.find? (fun g => g.isDisconnect ∨ g.isAclOn handle cid) = none := by
    rw [List.find?_eq_none]
    intro g hg
    simpa [Frame.Passed] using h g hg
  have hf : [f].find? (fun g => g.isDisconnect ∨ g.isAclOn handle cid) = some f :=
    List.find?_cons_of_pos (by simpa using hend)
  rw [awaitedFrame, List.find?_append, hfind, Option.none_or, hf]
  by_cases hacl : f.isAclOn handle cid
  · rw [if_pos hacl]
    exact Option.filter_some_pos (by simpa using hacl)
  · rw [if_neg hacl]
    exact Option.filter_some_neg (by simpa using hacl)

/-- The wait, while it passes over frames. -/
structure AclWaiting (cid : UInt16) (w₀ w : World) : Prop where
  trace : w₀.trace <+: w.trace
  connHandle : w.s.connHandle = w₀.s.connHandle
  passed : ∀ f ∈ framesSince .rxAwaitAcl w₀.trace w, f.Passed w₀.s.connHandle cid

section waiting

variable {w₀ w : World}

theorem AclWaiting.start (w : World) : AclWaiting cid w w :=
  ⟨List.prefix_refl _, rfl, by
    rw [framesSince, seenSince_self]
    exact fun f hf => absurd hf List.not_mem_nil⟩

/-- An observation that is no read of the wait. -/
theorem AclWaiting.emit {o : Obs} (h : AclWaiting cid w₀ w) (ho : o.frame .rxAwaitAcl = none) :
    AclWaiting cid w₀ (w.emit o) := by
  refine ⟨h.trace.trans (List.prefix_append _ _), h.connHandle, ?_⟩
  rw [framesSince, World.emit_trace, seenSince_snoc h.trace, ho, Option.toList_none,
    List.append_nil]
  exact h.passed

/-- A frame that is passed over. -/
theorem AclWaiting.read {data : Octets} {f : Frame} (h : AclWaiting cid w₀ w)
    (hf : f.Passed w₀.s.connHandle cid) : AclWaiting cid w₀ (w.read .rxAwaitAcl data f) := by
  refine ⟨h.trace.trans (List.prefix_append _ _), h.connHandle, fun g hg => ?_⟩
  rw [framesSince_read data f h.trace] at hg
  rcases List.mem_append.mp hg with hg | hg
  · exact h.passed g hg
  · exact List.mem_singleton.mp hg ▸ hf

/-- The frame that ends the wait. -/
theorem AclWaiting.awaited {data : Octets} {f : Frame} {o : Obs} (h : AclWaiting cid w₀ w)
    (ho : o.frame .rxAwaitAcl = none) (hend : f.isDisconnect ∨ f.isAclOn w₀.s.connHandle cid) :
    awaitedFrame w₀.s.connHandle cid
        (framesSince .rxAwaitAcl w₀.trace ((w.read .rxAwaitAcl data f).emit o)) =
      if f.isAclOn w₀.s.connHandle cid then some f else none := by
  have hprefix : w₀.trace <+: (w.read .rxAwaitAcl data f).trace :=
    h.trace.trans (List.prefix_append _ _)
  rw [framesSince, World.emit_trace, seenSince_snoc hprefix, ho, Option.toList_none,
    List.append_nil, ← framesSince, framesSince_read data f h.trace,
    awaitedFrame_snoc h.passed hend]

end waiting

/-- A wait that returns 0 read the frame it waits for, and hands out what that left in the buffer;
every other wait did not read it. -/
def aclAwaited (cid : UInt16) (buf : Octets) (w : World) : Post World Goto (Rx × Octets × ℕ) where
  done x w' :=
    (x.1 = .got → ∃ f ∈ awaitedFrame w.s.connHandle cid (framesSince .rxAwaitAcl w.trace w'),
      x.2 = rxAwaitAclOut buf f) ∧
    (x.1 ≠ .got → awaitedFrame w.s.connHandle cid (framesSince .rxAwaitAcl w.trace w') = none)
  raised _ _ := False
  suspended w' := awaitedFrame w.s.connHandle cid (framesSince .rxAwaitAcl w.trace w') = none

theorem wp_rxAwaitAcl_awaited (buf : Octets) (w : World) :
    wp env (rxAwaitAcl cid buf timeoutMs) (aclAwaited cid buf w) w := by
  refine wp_rxAwaitAcl (AclWaiting cid w) (fun _ _ h => h.emit rfl) (AclWaiting.start w)
    (fun _ h => awaitedFrame_passed h.passed) ?_ ?_ ?_ ?_ ?_
  · intro w' h
    exact ⟨nofun, fun _ => awaitedFrame_passed (h.emit (o := .notDelivered cid) rfl).passed⟩
  · intro data f w' h _ hd
    have hacl : ¬f.isAclOn w.s.connHandle cid := fun hacl =>
      absurd (hd.1.symm.trans hacl.1) (by decide)
    exact ⟨nofun, fun _ => (h.awaited (o := .notDelivered cid) rfl (.inl hd)).trans (if_neg hacl)⟩
  · intro data f w' h _ henc
    have hread : AclWaiting cid w (w'.read .rxAwaitAcl data f) := by
      refine h.read ⟨fun hd => ?_, fun hacl => ?_⟩
      · exact absurd (hd.2.symm.trans henc.2.1) (by decide)
      · exact absurd (hacl.1.symm.trans henc.1) (by decide)
    have hstate : AclWaiting cid w ((w'.read .rxAwaitAcl data f).update
        fun s => { s with state := .encrypted }) := ⟨hread.trace, hread.connHandle, hread.passed⟩
    exact hstate.emit rfl
  · intro data f w' h _ hd _ hacl
    exact h.read ⟨hd, h.connHandle ▸ hacl⟩
  · intro data f w' h _ hacl
    rw [h.connHandle] at hacl
    exact ⟨fun _ => ⟨f, (h.awaited rfl (.inr hacl)).trans (if_pos hacl), rfl⟩,
      fun hgot => absurd rfl hgot⟩

/-! ## Calls -/

/-- A call of `rx_await_acl`: one of those of `main`, or any other. -/
structure AclCall where
  cid : UInt16
  /-- What the buffer holds; `*out_len` is its length. -/
  buf : Octets
  timeoutMs : ℤ
  site : Option AclSite
  sized : ∀ s ∈ site, cid = s.cid ∧ buf.length = s.cap

namespace AclCall

variable (c : AclCall) (env : HostEnv) (r : Run World)

/-- The call, with these octets in its buffer. -/
def run (buf : Octets) : Outcome Goto (Rx × Octets × ℕ) × Run World :=
  rxAwaitAcl c.cid buf c.timeoutMs env r

/-- The frame the call waits for, among those it reads. -/
def awaited : Option Frame :=
  awaitedFrame r.state.s.connHandle c.cid
    (framesSince .rxAwaitAcl r.state.trace (c.run env r c.buf).2.state)

/-- When the call returns 0, it hands out the payload of the frame it waits for. -/
def Returns : Prop :=
  ∀ out blen r', c.run env r c.buf = (.done (.got, out, blen), r') →
    ∃ f ∈ c.awaited env r, blen = f.payloadLen.toNat ∧
      out.take blen = f.payloadTake f.payloadLen.toNat

/-- What `main` decides after the call returned 0 is the same whatever the buffer held. -/
def Decides : Prop :=
  ∀ s ∈ c.site, ∀ buf : Octets, buf.length = c.buf.length → ∀ out blen r₁ out' blen' r₂,
    c.run env r c.buf = (.done (.got, out, blen), r₁) →
      c.run env r buf = (.done (.got, out', blen'), r₂) →
        s.decision out blen = s.decision out' blen'

/-- The payload of the frame it waits for fits the buffer; in 4c, it has an octet. -/
def Fits : Prop :=
  ∀ f ∈ c.awaited env r, f.payloadLen.toNat ≤ c.buf.length ∧
    (c.site = some .characteristic → 0 < f.payloadLen.toNat)

end AclCall

/-! ## When the payload fits -/

/-- A payload that fits is what the buffer starts with. -/
theorem rxAwaitAclOut_fits {buf : Octets} {f : Frame} (h : f.payloadLen.toNat ≤ buf.length) :
    (rxAwaitAclOut buf f).2 = f.payloadLen.toNat ∧
      (rxAwaitAclOut buf f).1.take f.payloadLen.toNat = f.payloadTake f.payloadLen.toNat := by
  rw [rxAwaitAclOut, if_pos h]
  exact ⟨rfl, List.take_left' (f.payloadTake_length _)⟩

/-- Where the payload fits, the octets below the length are the same whatever the buffer held. -/
theorem rxAwaitAclOut_octet {buf : Octets} {f : Frame} {i : ℕ}
    (h : f.payloadLen.toNat ≤ buf.length) (hi : i < f.payloadLen.toNat) :
    (rxAwaitAclOut buf f).1.octet i = f.payload i := by
  rw [rxAwaitAclOut, if_pos h]
  exact (octet_read (by rwa [Frame.payloadTake_length])).trans (f.payloadTake_octet hi)

/-- An empty payload leaves the buffer, whose first octet 4c looks at. -/
theorem rxAwaitAclOut_empty {buf : Octets} {f : Frame} (h : f.payloadLen.toNat = 0) :
    rxAwaitAclOut buf f = (buf, 0) := by
  rw [rxAwaitAclOut, if_pos (h ▸ Nat.zero_le _), h]
  rfl

section calls

variable {c : AclCall} {buf out : Octets} {blen : ℕ} {f : Frame}

/-- A call that returned 0 handed out what the frame it waited for left in the buffer. -/
theorem AclCall.run_got (hlen : buf.length = c.buf.length)
    (h : c.run env r buf = (.done (.got, out, blen), r')) :
    ∃ f ∈ c.awaited env r, (out, blen) = rxAwaitAclOut buf f := by
  obtain ⟨out', blen', hown⟩ := rxAwaitAcl_got hlen.symm h
  have hrun : (c.run env r buf).1.Sat (aclAwaited c.cid buf r.state) (c.run env r buf).2.state :=
    (wp_rxAwaitAcl_awaited buf r.state).run
  rw [h] at hrun
  have hawaited : c.awaited env r = awaitedFrame r.state.s.connHandle c.cid
      (framesSince .rxAwaitAcl r.state.trace r'.state) := by
    unfold AclCall.awaited AclCall.run
    rw [hown]
  obtain ⟨f, hf, hout⟩ := hrun.1 rfl
  exact ⟨f, hawaited ▸ hf, hout⟩

/-- A call that read the frame it waits for returned 0. -/
theorem AclCall.run_of_awaited (hf : f ∈ c.awaited env r) :
    ∃ out blen r', c.run env r c.buf = (.done (.got, out, blen), r') := by
  have hrun : (c.run env r c.buf).1.Sat (aclAwaited c.cid c.buf r.state)
      (c.run env r c.buf).2.state := (wp_rxAwaitAcl_awaited c.buf r.state).run
  unfold AclCall.awaited at hf
  rcases hres : c.run env r c.buf with ⟨⟨rc, out, blen⟩ | e | _, r'⟩ <;> rw [hres] at hrun hf
  · by_cases hgot : rc = .got
    · exact ⟨out, blen, r', by rw [hgot]⟩
    · rw [hrun.2 hgot] at hf
      cases hf
  · exact hrun.elim
  · have hnone : awaitedFrame r.state.s.connHandle c.cid
        (framesSince .rxAwaitAcl r.state.trace r'.state) = none := hrun
    rw [hnone] at hf
    cases hf

/-- What does not fit is not returned. -/
theorem AclCall.Returns.le (h : c.Returns env r) (hf : f ∈ c.awaited env r) :
    f.payloadLen.toNat ≤ c.buf.length := by
  obtain ⟨out, blen, r', hrun⟩ := AclCall.run_of_awaited hf
  obtain ⟨g, hg, hlen, -⟩ := h out blen r' hrun
  obtain ⟨g', hg', hout⟩ := AclCall.run_got rfl hrun
  obtain rfl := Option.some.inj (hf.symm.trans hg)
  obtain rfl := Option.some.inj (hf.symm.trans hg')
  by_contra hlong
  rw [rxAwaitAclOut, if_neg hlong] at hout
  have hcap : blen = c.buf.length := congrArg Prod.snd hout
  omega

/-- In 4c, an empty payload leaves the decision to what the buffer held. -/
theorem AclCall.Decides.pos (h : c.Decides env r) (hf : f ∈ c.awaited env r)
    (hsite : c.site = some .characteristic) : 0 < f.payloadLen.toNat := by
  by_contra hpos
  have hempty : f.payloadLen.toNat = 0 := by omega
  obtain ⟨out, blen, r', hrun⟩ := AclCall.run_of_awaited hf
  have hcap : c.buf.length = 64 := (c.sized _ hsite).2
  -- the buffer may have held an Error Response, or not
  have hlast : ∀ x : UInt8, decide (out.octet 0 = attOpErrorRsp) = decide (x = attOpErrorRsp) := by
    intro x
    have hlen : (List.replicate 64 x).length = c.buf.length := by rw [List.length_replicate, hcap]
    obtain ⟨out', blen', hrun'⟩ := rxAwaitAcl_got hlen hrun
    have hsame := h _ hsite _ hlen _ _ _ _ _ _ hrun hrun'
    obtain ⟨g, hg, hout⟩ := AclCall.run_got hlen hrun'
    obtain rfl := Option.some.inj (hf.symm.trans hg)
    rw [rxAwaitAclOut_empty hempty] at hout
    obtain ⟨rfl, -⟩ := Prod.mk.inj hout
    exact (Decision.characteristic.inj hsame).2
  exact absurd ((hlast attOpErrorRsp).symm.trans (hlast 0)) (by decide)

/-- A payload that fits is returned. -/
theorem AclCall.Fits.returns (h : c.Fits env r) : c.Returns env r := by
  intro out blen r' hrun
  obtain ⟨f, hf, hout⟩ := AclCall.run_got rfl hrun
  obtain ⟨hlen, htake⟩ := rxAwaitAclOut_fits (h f hf).1
  rw [← hout] at hlen htake
  have hblen : blen = f.payloadLen.toNat := hlen
  exact ⟨f, hf, hblen, hblen ▸ htake⟩

/-- What `main` decides on a payload that fits depends on nothing else. -/
theorem AclCall.Fits.decides (h : c.Fits env r) : c.Decides env r := by
  intro s hs buf hlen out blen r₁ out' blen' r₂ hrun hrun'
  obtain ⟨f, hf, hout⟩ := AclCall.run_got rfl hrun
  obtain ⟨g, hg, hout'⟩ := AclCall.run_got hlen hrun'
  obtain rfl := Option.some.inj (hf.symm.trans hg)
  obtain ⟨hfit, hpos⟩ := h f hf
  have hfit' : f.payloadLen.toNat ≤ buf.length := hlen ▸ hfit
  have hblen : blen = f.payloadLen.toNat :=
    (congrArg Prod.snd hout).trans (rxAwaitAclOut_fits hfit).1
  have hblen' : blen' = f.payloadLen.toNat :=
    (congrArg Prod.snd hout').trans (rxAwaitAclOut_fits hfit').1
  rw [hblen, hblen']
  apply AclSite.decision_congr
  · intro i hi
    have hi' : out.octet i = f.payload i := by
      rw [show out = (rxAwaitAclOut c.buf f).1 from congrArg Prod.fst hout]
      exact rxAwaitAclOut_octet hfit hi
    have hi'' : out'.octet i = f.payload i := by
      rw [show out' = (rxAwaitAclOut buf f).1 from congrArg Prod.fst hout']
      exact rxAwaitAclOut_octet hfit' hi
    exact hi'.trans hi''.symm
  · rintro rfl
    exact hpos hs

end calls

/-- **A call of `rx_await_acl` hands out the payload of the frame it waits for, and leaves no
decision of `main` to the old contents of the buffer, exactly when that payload fits and, in 4c, has
an octet.**
Source: `sw2d_final.c` `rx_await_acl`, `main` -/
theorem aclWait_iff (c : AclCall) (env : HostEnv) (r : Run World) :
    c.Returns env r ∧ c.Decides env r ↔ c.Fits env r :=
  ⟨fun h _ hf => ⟨h.1.le hf, fun hsite => h.2.pos hf hsite⟩, fun h => ⟨h.returns, h.decides⟩⟩

/-- The call of 4a, with an MTU Response left over in its buffer. -/
def leftoverCall : AclCall where
  cid := attCid
  buf := [attOpMtuRsp, 0xff, 0x00] ++ List.replicate 29 0x00
  timeoutMs := 2000
  site := some .mtu
  sized := by
    rintro s ⟨⟩
    exact ⟨rfl, rfl⟩

/-- A connection on which ATT data of 33 octets comes. -/
def longEnv : HostEnv :=
  HostEnv.scripted 0 [(4, aclFrame 0x04 (attOpHandleNotify :: List.replicate 32 0x00))] []

/-- The session of the connection 0x0040. -/
def longStart : Run World :=
  ⟨⟨{ Session.new 0x00 0x00 publicConfig.peerAddr publicConfig.localAddr
      with connHandle := 0x0040 },
    []⟩, 0, 4⟩

/-- There the call returns 0 with what the buffer held, an MTU of 255. -/
theorem not_aclWait_long :
    ¬(leftoverCall.Returns longEnv longStart ∧ leftoverCall.Decides longEnv longStart) := by
  rintro ⟨h, -⟩
  have hlong : ∃ f ∈ leftoverCall.awaited longEnv longStart, 32 < f.payloadLen.toNat := by
    decide +kernel
  obtain ⟨f, hf, hlen⟩ := hlong
  exact absurd (h.le hf) (not_le.mpr hlen)

end Switch2Bt.Sw2d
