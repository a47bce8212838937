import Switch2Bt.Sw2d.Rules

/-!
# ATT answers and their requests (`sw2d_final.c`, phase 4)

`Bearer` follows what the server has to answer. It refuses a PDU that answers nothing and a wait
for ATT data that ends without the answer; a Handle Value Notification may come at any time.

A step takes the next PDU as its answer, and leaves its buffer as it was if the PDU does not fit.
Requests and answers match in every run in which the steps that wait for one PDU get their answer,
and PDUs fit their buffers (`attMatched_of_clean`). A notification that comes before the MTU
Response is taken for it, and each later step gets the answer of the step before
(`not_attMatched_notified`).
-/

namespace Switch2Bt.Sw2d

open Await Octets

/-! ## Statement -/

/-- The PDU that a frame carries. -/
def Frame.pdu (f : Frame) : Octets := f.payloadTake f.payloadLen.toNat

/-- A Handle Value Notification. -/
def IsNotification (pdu : Octets) : Prop := pdu.octet 0 = attOpHandleNotify

instance (pdu : Octets) : Decidable (IsNotification pdu) :=
  inferInstanceAs (Decidable (pdu.octet 0 = attOpHandleNotify))

/-- A PDU of at least `n` octets with the given opcode. -/
def IsPdu (op : UInt8) (n : ℕ) (pdu : Octets) : Prop := n ≤ pdu.length ∧ pdu.octet 0 = op

/-- What the server has to answer: the step the host is in, the requests not answered, the oldest
first, and the last answer with its request. -/
structure Bearer where
  step : Option AttStep
  outstanding : List Octets
  last : Option (Octets × Octets)
deriving DecidableEq, Repr

/-- A link before any request. -/
def Bearer.start : Bearer := ⟨none, [], none⟩

/-- What is no notification answers the oldest request. -/
def Bearer.receive (b : Bearer) (pdu : Octets) : Option Bearer :=
  if IsNotification pdu then some b
  else
    match b.outstanding with
    | [] => none
    | req :: outstanding => some { b with outstanding := outstanding, last := some (req, pdu) }

/-- The bearer after one more observation. -/
def Bearer.next (b : Bearer) : Obs → Option Bearer
  | .sessionStart => some Bearer.start
  | .attStep step => some { b with step := some step }
  | .acl _ cid req ok => some
      (if cid = attCid ∧ ok = true then { b with outstanding := b.outstanding ++ [req] } else b)
  | .read _ handle _ f => if f.isAclOn handle attCid then b.receive f.pdu else some b
  | .notDelivered cid => if cid = attCid ∧ b.outstanding ≠ [] then none else some b
  | _ => some b

/-- The bearer after a trace. -/
def bearer (tr : List Obs) : Option Bearer := monitor Bearer.next Bearer.start tr

/-- The server answers each request once, in order, and before the wait for its answer ends. -/
def ServerAt (pre : List Obs) (o : Obs) : Prop := (bearer (pre ++ [o])).isSome

instance (pre : List Obs) (o : Obs) : Decidable (ServerAt pre o) :=
  inferInstanceAs (Decidable (_ = true))

/-- Nothing is to be answered, and the last answer is one to a request with the given opcode. -/
def Bearer.Answered (op : UInt8) (P : Octets → Prop) (b : Bearer) : Prop :=
  b.outstanding = [] ∧ ∃ req pdu, b.last = some (req, pdu) ∧ req.octet 0 = op ∧ P pdu

/-- A request is sent when nothing is to be answered; the MTU and the service range are those of
the answers to their requests; what 4d tests is the answer to its write. -/
structure MatchedAt (pre : List Obs) (o : Obs) : Prop where
  request : ∀ handle req, o = .acl handle attCid req true →
    ∀ b ∈ bearer pre, b.outstanding = []
  mtu : ∀ mtu, o = .attMtu mtu → ∀ b ∈ bearer pre, b.Answered attOpMtuReq fun pdu =>
    IsPdu attOpMtuRsp 3 pdu → mtu = getLe16 pdu 1
  services : ∀ svcStart svcEnd, o = .services svcStart svcEnd →
    ∀ b ∈ bearer pre, b.Answered attOpReadByGroupReq fun pdu =>
      IsPdu attOpReadByGroupRsp 6 pdu → svcStart = getLe16 pdu 2 ∧ svcEnd = getLe16 pdu 4
  tested : ∀ f cap, o = .delivered attCid f cap → ∀ b ∈ bearer pre, b.step = some .cccd →
    f.payloadLen.toNat ≤ cap ∧ b.Answered attOpWriteReq fun pdu => pdu = f.pdu

/-- The steps that wait for one PDU get their answer, in a buffer it fits; and while the
characteristics are to be answered, what comes fits. -/
def CleanAt (pre : List Obs) (o : Obs) : Prop :=
  ∀ f cap, o = .delivered attCid f cap → ∀ b ∈ bearer pre,
    (b.step ≠ some .characteristics → ¬IsNotification f.pdu) ∧
    (b.step ≠ some .characteristics ∨ b.outstanding ≠ [] → f.payloadLen.toNat ≤ cap)

instance (pre : List Obs) (o : Obs) : Decidable (CleanAt pre o) :=
  match o with
  | .delivered cid f cap =>
      decidable_of_iff (cid = attCid → ∀ b ∈ bearer pre,
        (b.step ≠ some .characteristics → ¬IsNotification f.pdu) ∧
        (b.step ≠ some .characteristics ∨ b.outstanding ≠ [] → f.payloadLen.toNat ≤ cap))
        ⟨fun h _ _ heq => by cases heq; exact h rfl, fun h hcid => h f cap (hcid ▸ rfl)⟩
  | .sessionStart | .state _ | .command .. | .acl .. | .read .. | .notDelivered _
  | .attStep _ | .attMtu _ | .services .. | .reconnect | .ctl _ => isTrue nofun

/-! ## Observations -/

/-- A run that meets the condition so far, with a server that answers. -/
def CleanRun (pre : List Obs) (o : Obs) : Prop := ServerAt pre o ∧ CleanAt pre o

abbrev IfClean : (World → Prop) → World → Prop := Under CleanRun

/-- Requests and answers match so far, and the bearer has a property. -/
abbrev Exchange (I : Bearer → Prop) (w : World) : Prop :=
  Tracked Bearer.next Bearer.start MatchedAt I w.trace

/-- Requests and answers match so far. -/
def Matched (w : World) : Prop := Everywhere MatchedAt w.trace

/-- Nothing is to be answered. -/
def Bearer.Idle (b : Bearer) : Prop := b.outstanding = []

/-- An observation that is neither a request nor about an answer. -/
structure Aside (o : Obs) : Prop where
  request : ∀ handle req, o ≠ .acl handle attCid req true
  mtu : ∀ mtu, o ≠ .attMtu mtu
  services : ∀ svcStart svcEnd, o ≠ .services svcStart svcEnd
  delivered : ∀ f cap, o ≠ .delivered attCid f cap

variable {o : Obs} {w : World} {b b' : Bearer} {I : Bearer → Prop}

theorem Aside.matched (ho : Aside o) {pre : List Obs} : MatchedAt pre o where
  request handle req h := absurd h (ho.request handle req)
  mtu mtu h := absurd h (ho.mtu mtu)
  services svcStart svcEnd h := absurd h (ho.services svcStart svcEnd)
  tested f cap h := absurd h (ho.delivered f cap)

/-- A notification leaves the bearer as it is; anything else answers the oldest request. -/
theorem Bearer.receive_cases {pdu : Octets} (h : b.receive pdu = some b') :
    IsNotification pdu ∧ b' = b ∨ ¬IsNotification pdu ∧ ∃ req outstanding,
      b.outstanding = req :: outstanding ∧
        b' = { b with outstanding := outstanding, last := some (req, pdu) } := by
  unfold receive at h
  split at h
  · next hn => exact .inl ⟨hn, (Option.some.inj h).symm⟩
  · next hn =>
      rcases hout : b.outstanding with _ | ⟨req, outstanding⟩ <;> rw [hout] at h
      · cases h
      · exact .inr ⟨hn, req, outstanding, rfl, (Option.some.inj h).symm⟩

theorem Bearer.next_read {place : Place} {handle : UInt16} {data : Octets} {f : Frame} :
    b.next (.read place handle data f) =
      if f.isAclOn handle attCid then b.receive f.pdu else some b := rfl

theorem Bearer.next_notDelivered {cid : UInt16} : b.next (.notDelivered cid) =
    if cid = attCid ∧ b.outstanding ≠ [] then none else some b := rfl

/-- Only a request leaves something to be answered. -/
theorem Bearer.Idle.next (h : b.Idle) (ho : ∀ handle req, o ≠ .acl handle attCid req true)
    (hnext : b.next o = some b') : b'.Idle := by
  cases o with
  | sessionStart => exact Option.some.inj hnext ▸ rfl
  | attStep step => exact Option.some.inj hnext ▸ h
  | acl handle cid req ok =>
      obtain rfl := Option.some.inj hnext
      rw [if_neg fun hreq => ho handle req (by rw [hreq.1, hreq.2])]
      exact h
  | read place handle data f =>
      rw [Bearer.next_read] at hnext
      split at hnext
      · rcases Bearer.receive_cases hnext with ⟨-, rfl⟩ | ⟨-, req, rest, hout, -⟩
        · exact h
        · exact nomatch h.symm.trans hout
      · exact Option.some.inj hnext ▸ h
  | notDelivered cid =>
      rw [Bearer.next_notDelivered] at hnext
      split at hnext
      · cases hnext
      · exact Option.some.inj hnext ▸ h
  | _ => exact Option.some.inj hnext ▸ h

/-- Aside from requests and answers, nothing stays to be answered. -/
theorem IfClean.idle_emit (h : IfClean (Exchange Bearer.Idle) w) (ho : Aside o) :
    IfClean (Exchange Bearer.Idle) (w.emit o) :=
  Under.emit h fun _ hw => Tracked.snoc hw ho.matched fun _ _ _ hb hnext => hb.next ho.request hnext

/-- What the server does not see leaves the bearer as it is. -/
theorem IfClean.skip (h : IfClean (Exchange I) w) (ho : Aside o)
    (hskip : ∀ b : Bearer, b.next o = some b) : IfClean (Exchange I) (w.emit o) := by
  refine Under.emit h fun _ hw => Tracked.snoc hw ho.matched fun b b' _ hb hnext => ?_
  rw [hskip b] at hnext
  exact Option.some.inj hnext ▸ hb

theorem IfClean.matched (h : IfClean (Exchange I) w) : IfClean Matched w := h.mono Tracked.obs

theorem IfClean.update {g : Session → Session} (h : IfClean (Exchange I) w) :
    IfClean (Exchange I) (w.update g) := h

theorem aside_start : Aside .sessionStart := ⟨nofun, nofun, nofun, nofun⟩

theorem aside_ctl (e : CtlEvent) : Aside (.ctl e) := ⟨nofun, nofun, nofun, nofun⟩

theorem aside_read (place : Place) (handle : UInt16) (data : Octets) (f : Frame) :
    Aside (.read place handle data f) := ⟨nofun, nofun, nofun, nofun⟩

theorem aside_state (st : SessionState) : Aside (.state st) := ⟨nofun, nofun, nofun, nofun⟩

theorem aside_command (opcode : UInt16) (params : Octets) (ok : Bool) :
    Aside (.command opcode params ok) := ⟨nofun, nofun, nofun, nofun⟩

theorem aside_unsent (handle cid : UInt16) (req : Octets) : Aside (.acl handle cid req false) :=
  ⟨fun _ _ heq => Bool.false_ne_true (Obs.acl.inj heq).2.2.2, nofun, nofun, nofun⟩

theorem aside_notDelivered (cid : UInt16) : Aside (.notDelivered cid) :=
  ⟨nofun, nofun, nofun, nofun⟩

/-- A state is assigned. -/
theorem IfClean.setState {st : SessionState} (h : IfClean (Exchange I) w) :
    IfClean (Exchange I) (w.setState st) :=
  IfClean.skip (w := w.update fun s => { s with state := st }) h (aside_state st) fun _ => rfl

theorem exchange_ctl (I : Bearer → Prop) : CtlStable (IfClean (Exchange I)) :=
  fun e _ h => h.skip (aside_ctl e) fun _ => rfl

/-- A frame that is no ATT data is read. -/
theorem IfClean.skip_read {place : Place} {data : Octets} {f : Frame} (h : IfClean (Exchange I) w)
    (hf : ¬f.isAclOn w.s.connHandle attCid) : IfClean (Exchange I) (w.read place data f) :=
  IfClean.skip h (aside_read ..) fun _ => if_neg hf

/-! ## One exchange -/

/-- The request of a step is to be answered. -/
def Bearer.Waiting (st : AttStep) (req : Octets) (b : Bearer) : Prop :=
  b.step = some st ∧ b.outstanding = [req]

/-- The request of a step was answered. -/
structure Bearer.Gave (st : AttStep) (req pdu : Octets) (b : Bearer) : Prop where
  step : b.step = some st
  idle : b.Idle
  last : b.last = some (req, pdu)

variable {st : AttStep} {req pdu : Octets} {f : Frame} {env : HostEnv}

/-- The server knows of everything observed so far. -/
theorem CleanRun.bearer {pre : List Obs} (h : CleanRun pre o) :
    ∃ b b', Sw2d.bearer pre = some b ∧ b.next o = some b' := by
  obtain ⟨b, b', hb, hnext, -⟩ := monitor_isSome_snoc h.1
  exact ⟨b, b', hb, hnext⟩

/-- No wait ends while something is to be answered. -/
theorem IfClean.not_notDelivered {P : World → Prop} (h : IfClean (Exchange I) w)
    (hI : ∀ b, I b → b.outstanding ≠ []) : IfClean P (w.emit (.notDelivered attCid)) := by
  refine Under.emit h fun hrun hw => ?_
  obtain ⟨b, b', hb, hnext⟩ := hrun.bearer
  rw [Bearer.next_notDelivered, if_pos ⟨rfl, hI b (hw.state b hb)⟩] at hnext
  cases hnext

/-- ATT data is read while the request is to be answered. -/
theorem IfClean.read_waiting {place : Place} {data : Octets}
    (h : IfClean (Exchange (Bearer.Waiting st req)) w) (hf : f.isAclOn w.s.connHandle attCid) :
    IfClean (Exchange fun b => IsNotification f.pdu ∧ b.Waiting st req ∨ b.Gave st req f.pdu)
      (w.read place data f) := by
  refine Under.emit h fun _ hw => Tracked.snoc hw (aside_read ..).matched fun b b' _ hb hnext => ?_
  rw [Bearer.next_read, if_pos hf] at hnext
  rcases Bearer.receive_cases hnext with ⟨hn, rfl⟩ | ⟨-, req', rest, hout, rfl⟩
  · exact .inl ⟨hn, hb⟩
  · obtain ⟨rfl, rfl⟩ := List.cons.inj (hout.symm.trans hb.2)
    exact .inr ⟨hb.1, rfl, rfl⟩

/-- What is delivered to a step that waits for one PDU is its answer, and fits. -/
theorem IfClean.delivered {cap : ℕ} (hst : st ≠ .characteristics)
    (hreq : st = .cccd → req.octet 0 = attOpWriteReq)
    (h : IfClean (Exchange fun b => IsNotification f.pdu ∧ b.Waiting st req ∨
      b.Gave st req f.pdu) w) :
    IfClean (fun w => f.payloadLen.toNat ≤ cap ∧ Exchange (Bearer.Gave st req f.pdu) w)
      (w.emit (.delivered attCid f cap)) := by
  refine Under.emit h fun hrun hw => ?_
  have hstep : ∀ b ∈ bearer w.trace, b.step ≠ some .characteristics := by
    intro b hb heq
    rcases hw.state b hb with ⟨-, hwait⟩ | hgave
    · exact hst (Option.some.inj (hwait.1.symm.trans heq))
    · exact hst (Option.some.inj (hgave.step.symm.trans heq))
  have hgave : ∀ b ∈ bearer w.trace, b.Gave st req f.pdu := by
    intro b hb
    exact (hw.state b hb).resolve_left fun hn => (hrun.2 f cap rfl b hb).1 (hstep b hb) hn.1
  have hfits : ∀ b ∈ bearer w.trace, f.payloadLen.toNat ≤ cap :=
    fun b hb => (hrun.2 f cap rfl b hb).2 (.inl (hstep b hb))
  obtain ⟨b, b', hb, -⟩ := hrun.bearer
  refine ⟨hfits b hb, Tracked.snoc hw ⟨nofun, nofun, nofun, ?_⟩ ?_⟩
  · rintro f' cap' heq b hb hcccd
    obtain ⟨-, rfl, rfl⟩ := Obs.delivered.inj heq
    have hg := hgave b hb
    have hwrite := hreq (Option.some.inj (hg.step.symm.trans hcccd))
    exact ⟨hfits b hb, hg.idle, req, _, hg.last, hwrite, rfl⟩
  · intro b b' hb _ hnext
    exact Option.some.inj hnext ▸ hgave b hb

/-- A wait for ATT data, by how it ends. -/
theorem wp_rxAwaitAcl_exchange {D : Rx × Octets × ℕ → World → Prop} {buf : Octets} {timeoutMs : ℤ}
    (h : IfClean (Exchange I) w)
    (hfail : ∀ x w, IfClean (Exchange I) w → IfClean (D x) (w.emit (.notDelivered attCid)))
    (hgot : ∀ data f w, IfClean (Exchange I) w → f.isAclOn w.s.connHandle attCid →
      IfClean (D (.got, rxAwaitAclOut buf f))
        ((w.read .rxAwaitAcl data f).emit (.delivered attCid f buf.length))) :
    wp env (rxAwaitAcl attCid buf timeoutMs) ⟨fun x => IfClean (D x),
      fun _ => IfClean Matched, IfClean Matched⟩ w := by
  have hevent : ∀ {f : Frame} {handle : UInt16}, f.pktType = hciEventPkt →
      ¬f.isAclOn handle attCid := fun he ha => absurd (he.symm.trans ha.1) (by decide)
  refine wp_rxAwaitAcl (IfClean (Exchange I)) (exchange_ctl _) h (fun _ h => IfClean.matched h)
    (fun w h => hfail _ w h) ?_ ?_ ?_ ?_
  · intro data f w h _ hd
    exact hfail _ ((w.read _ data f).update _) (h.skip_read (hevent hd.1))
  · intro data f w h _ henc
    exact (h.skip_read (hevent henc.1)).setState
  · exact fun data f w h _ _ _ hno => h.skip_read hno
  · exact fun data f w h _ ha => hgot data f w h ha

/-- What a wait that got the answer leaves. -/
def GotAnswer (st : AttStep) (req : Octets) (x : Rx × Octets × ℕ) (w : World) : Prop :=
  ∃ pdu rest, x = (.got, pdu ++ rest, pdu.length) ∧ Exchange (Bearer.Gave st req pdu) w

/-- The wait of a step for its answer. -/
theorem wp_rxAwaitAcl_answer {buf : Octets} {timeoutMs : ℤ} (hst : st ≠ .characteristics)
    (hreq : st = .cccd → req.octet 0 = attOpWriteReq)
    (h : IfClean (Exchange (Bearer.Waiting st req)) w) :
    wp env (rxAwaitAcl attCid buf timeoutMs) ⟨fun x => IfClean (GotAnswer st req x),
      fun _ => IfClean Matched, IfClean Matched⟩ w := by
  apply wp_rxAwaitAcl_exchange h
  · intro x w h
    exact h.not_notDelivered fun b hb => hb.2 ▸ List.cons_ne_nil _ _
  · intro data f w h ha
    refine ((h.read_waiting ha).delivered hst hreq).mono fun hw => ?_
    refine ⟨f.pdu, buf.drop f.payloadLen.toNat, ?_, hw.2⟩
    unfold rxAwaitAclOut
    rw [if_pos hw.1, Frame.pdu, Frame.payloadTake_length]

/-- The request of a step is sent when nothing is to be answered. -/
theorem wp_attRequest {α : Type} {Q : Post World Goto α} {k : Host α}
    (h : IfClean (Exchange Bearer.Idle) w)
    (hraised : ∀ w, IfClean Matched w → Q.raised .reconnect w)
    (hsus : ∀ w, IfClean Matched w → Q.suspended w)
    (hk : ∀ w, IfClean (Exchange (Bearer.Waiting st req)) w → wp env k Q w) :
    wp env (do emit (.attStep st); require (← attSend req); k) Q w := by
  have hstep : IfClean (Exchange fun b => b.step = some st ∧ b.outstanding = [])
      (w.emit (.attStep st)) := by
    refine Under.emit h fun _ hw => Tracked.snoc hw ⟨nofun, nofun, nofun, nofun⟩ ?_
    intro b b' _ hb hnext
    obtain rfl := Option.some.inj hnext
    exact ⟨rfl, hb⟩
  refine wp_emit_bind.mpr (wp_bind ?_)
  unfold attSend
  refine (wp_get_bind _).mpr (wp_hciUserAclSend _ (exchange_ctl _) hstep
    (fun w h => hsus w h.matched) ?_ ?_)
  · exact fun _ => wp_require_bind nofun fun _ => hraised _ hstep.matched
  · refine fun ok w h => wp_require_bind (fun hok => ?_) fun hok => ?_
    · subst hok
      refine hk _ (Under.emit h fun _ hw => Tracked.snoc hw ⟨?_, nofun, nofun, nofun⟩ ?_)
      · exact fun _ _ _ b hb => (hw.state b hb).2
      · intro b b' _ hb hnext
        obtain rfl := Option.some.inj hnext
        rw [if_pos ⟨rfl, rfl⟩, hb.2]
        exact ⟨hb.1, rfl⟩
    · subst hok
      refine hraised _ (IfClean.matched (h.skip (aside_unsent ..) fun b => ?_))
      exact congrArg some (if_neg fun hreq => nomatch hreq.2)

/-- A step that waits for one PDU. -/
theorem wp_attExchange (st : AttStep) {n : ℕ} {timeoutMs : ℤ} (hst : st ≠ .characteristics)
    (hreq : st = .cccd → req.octet 0 = attOpWriteReq) (h : IfClean (Exchange Bearer.Idle) w) :
    wp env (attExchange st req n timeoutMs) ⟨fun x => IfClean (GotAnswer st req x),
      fun _ => IfClean Matched, IfClean Matched⟩ w := by
  unfold attExchange
  apply wp_attRequest h
  · exact fun _ h => h
  · exact fun _ h => h
  · exact fun w h => wp_indeterminate fun buf => wp_rxAwaitAcl_answer hst hreq h

/-- A phase that leaves nothing to be answered. -/
def IdlePhase (env : HostEnv) (x : Host Unit) : Prop :=
  ∀ w, IfClean (Exchange Bearer.Idle) w → wp env x ⟨fun _ => IfClean (Exchange Bearer.Idle),
    fun _ => IfClean Matched, IfClean Matched⟩ w

/-- A record of what was read off the answer of a step. -/
theorem GotAnswer.record {x : Rx × Octets × ℕ} (h : IfClean (GotAnswer st req x) w)
    (hm : ∀ pre pdu rest, x = (.got, pdu ++ rest, pdu.length) →
      (∀ b ∈ bearer pre, b.Gave st req pdu) → MatchedAt pre o)
    (hskip : ∀ b : Bearer, b.next o = some b) : IfClean (Exchange Bearer.Idle) (w.emit o) := by
  refine Under.emit h fun _ hw => ?_
  obtain ⟨pdu, rest, hx, hw⟩ := hw
  refine Tracked.snoc hw (hm _ pdu rest hx hw.state) fun b b' _ hb hnext => ?_
  rw [hskip b] at hnext
  exact Option.some.inj hnext ▸ hb.idle

/-- 4a takes the MTU off the MTU Response. -/
theorem attMtuExchange_idle : IdlePhase env attMtuExchange := by
  intro w h
  refine (wp_attExchange .mtu nofun nofun h).seq fun x w h => ?_
  refine wp_update_bind.mpr (wp_emit_bind.mpr (wp_setState.mpr (IfClean.setState ?_)))
  refine GotAnswer.record (w := w.update _) h ?_ fun _ => rfl
  rintro pre pdu rest rfl hgave
  refine ⟨nofun, ?_, nofun, nofun⟩
  rintro mtu heq b hb
  refine ⟨(hgave b hb).idle, _, pdu, (hgave b hb).last, rfl, fun hpdu => ?_⟩
  obtain rfl := Obs.attMtu.inj heq
  have h0 : octet (pdu ++ rest) 0 = attOpMtuRsp := by
    rw [octet_read (by have := hpdu.1; omega)]
    exact hpdu.2
  unfold mtuOf
  rw [if_pos ⟨rfl, hpdu.1, h0⟩]
  exact getLe16_append hpdu.1

/-- 4b takes the service range off the Read By Group Type Response. -/
theorem discoverServices_idle : IdlePhase env discoverServices := by
  intro w h
  refine (wp_attExchange .services nofun nofun h).seq fun x w h => ?_
  refine wp_update_bind.mpr (wp_emit.mpr ?_)
  refine GotAnswer.record (w := w.update _) h ?_ fun _ => rfl
  rintro pre pdu rest rfl hgave
  refine ⟨nofun, nofun, ?_, nofun⟩
  rintro svcStart svcEnd heq b hb
  refine ⟨(hgave b hb).idle, _, pdu, (hgave b hb).last, rfl, fun hpdu => ?_⟩
  obtain ⟨rfl, rfl⟩ := Obs.services.inj heq
  have hlen := hpdu.1
  have h0 : octet (pdu ++ rest) 0 = attOpReadByGroupRsp := by
    rw [octet_read (by omega)]
    exact hpdu.2
  unfold servicesOf
  rw [if_pos ⟨rfl, hlen, h0⟩]
  exact ⟨getLe16_append (by omega), getLe16_append (by omega)⟩

/-- 4d waits for the answer to its write. -/
theorem enableNotifications_idle : IdlePhase env enableNotifications := by
  intro w h
  refine (wp_get_bind _).mpr ((wp_attExchange .cccd nofun (fun _ => rfl) h).seq fun x w h => ?_)
  have hidle : IfClean (Exchange Bearer.Idle) w := h.mono fun hw => by
    obtain ⟨pdu, rest, -, hw⟩ := hw
    exact hw.mono fun _ hb => hb.idle
  exact wp_setState.mpr hidle.setState

/-! ## The characteristics -/

/-- The request for the characteristics is to be answered, or was. -/
def Bearer.Gathering (req : Octets) (b : Bearer) : Prop :=
  b.step = some .characteristics ∧ (b.outstanding = [req] ∨ b.Idle)

/-- A wait that ends without data ends with nothing to be answered. -/
theorem IfClean.notDelivered (h : IfClean (Exchange I) w) :
    IfClean (Exchange fun b => I b ∧ b.Idle) (w.emit (.notDelivered attCid)) := by
  refine Under.emit h fun _ hw => Tracked.snoc hw (aside_notDelivered _).matched ?_
  intro b b' _ hb hnext
  rw [Bearer.next_notDelivered] at hnext
  split at hnext
  · cases hnext
  · next hno =>
      obtain rfl := Option.some.inj hnext
      exact ⟨hb, by_contra fun hne => hno ⟨rfl, hne⟩⟩

/-- What is delivered is the answer, or comes when there was one, or is a notification that fits. -/
theorem IfClean.delivered_gathering {place : Place} {data : Octets} {cap : ℕ}
    (h : IfClean (Exchange (Bearer.Gathering req)) w) (hf : f.isAclOn w.s.connHandle attCid) :
    IfClean (fun w => Exchange (Bearer.Gathering req) w ∧ (Exchange Bearer.Idle w ∨
      IsNotification f.pdu ∧ f.payloadLen.toNat ≤ cap))
      ((w.read place data f).emit (.delivered attCid f cap)) := by
  have hread : IfClean (Exchange fun b => b.Gathering req ∧ (b.Idle ∨ IsNotification f.pdu))
      (w.read place data f) := by
    refine Under.emit h fun _ hw => Tracked.snoc hw (aside_read ..).matched ?_
    intro b b' _ hb hnext
    rw [Bearer.next_read, if_pos hf] at hnext
    rcases Bearer.receive_cases hnext with ⟨hn, rfl⟩ | ⟨-, req', rest, hout, rfl⟩
    · exact ⟨hb, .inr hn⟩
    · rcases hb.2 with hreq | hidle
      · obtain ⟨rfl, rfl⟩ := List.cons.inj (hout.symm.trans hreq)
        exact ⟨⟨hb.1, .inr rfl⟩, .inl rfl⟩
      · exact nomatch hidle.symm.trans hout
  refine Under.emit hread fun hrun hw => ?_
  have hm : MatchedAt (w.read place data f).trace (.delivered attCid f cap) := by
    refine ⟨nofun, nofun, nofun, fun _ _ _ b hb hcccd => ?_⟩
    exact nomatch (hw.state b hb).1.1.symm.trans hcccd
  have hnext : ∀ (b b' : Bearer), b.next (.delivered attCid f cap) = some b' → b = b' :=
    fun _ _ hnext => Option.some.inj hnext
  refine ⟨Tracked.snoc hw hm fun b b' _ hb h => hnext b b' h ▸ hb.1, ?_⟩
  obtain ⟨b, b', hb, -⟩ := hrun.bearer
  by_cases hidle : b.Idle
  · refine .inl (Tracked.snoc hw hm fun b₁ b' hb₁ _ h => ?_)
    obtain rfl := Option.some.inj (hb.symm.trans hb₁)
    exact hnext b b' h ▸ hidle
  · exact .inr ⟨(hw.state b hb).2.resolve_left hidle, (hrun.2 f cap rfl b hb).2 (.inr hidle)⟩

/-- What a wait for characteristics leaves. -/
structure Gathered (req : Octets) (x : Rx × Octets × ℕ) (w : World) : Prop where
  gathering : Exchange (Bearer.Gathering req) w
  error : x.2.1.octet 0 = attOpErrorRsp → x.1 = .got → Exchange Bearer.Idle w

/-- The wait for characteristics. -/
theorem wp_rxAwaitAcl_gathering {buf : Octets} {timeoutMs : ℤ}
    (h : IfClean (Exchange (Bearer.Gathering req)) w) :
    wp env (rxAwaitAcl attCid buf timeoutMs) ⟨fun x => IfClean (Gathered req x),
      fun _ => IfClean Matched, IfClean Matched⟩ w := by
  apply wp_rxAwaitAcl_exchange h
  · intro x w h
    refine h.notDelivered.mono fun hw => ⟨hw.mono fun _ hb => hb.1, fun _ _ => ?_⟩
    exact hw.mono fun _ hb => hb.2
  · intro data f w h ha
    refine (h.delivered_gathering ha).mono fun hw => ⟨hw.1, fun herr _ => ?_⟩
    refine hw.2.resolve_right fun hn => ?_
    -- a notification that fits is not taken for an Error Response
    have hlen : 0 < f.pdu.length := by
      by_contra hzero
      have hnil : f.pdu = [] := List.length_eq_zero_iff.mp (by omega)
      exact absurd (hnil ▸ hn.1) (by decide)
    unfold rxAwaitAclOut at herr
    rw [if_pos hn.2] at herr
    have hop := (octet_read hlen).symm.trans herr
    exact absurd (hn.1.symm.trans hop) (by decide)

/-- One turn of the loop of 4c; it is left with nothing to be answered. -/
theorem characteristicsStep_gathering {deadline : ℤ}
    (h : IfClean (Exchange (Bearer.Gathering req)) w) :
    wp env (characteristicsStep deadline) ⟨fun
      | .inl () => IfClean (Exchange (Bearer.Gathering req))
      | .inr () => IfClean (Exchange Bearer.Idle),
      fun _ => IfClean Matched, IfClean Matched⟩ w := by
  have hend : ∀ w, IfClean (Exchange (Bearer.Gathering req)) w →
      IfClean (Exchange Bearer.Idle) (w.emit (.notDelivered attCid)) :=
    fun w h => h.notDelivered.mono fun hw => hw.mono fun _ hb => hb.2
  have hsus : ∀ w, IfClean (Exchange (Bearer.Gathering req)) w → IfClean Matched w :=
    fun _ h => h.matched
  unfold characteristicsStep
  refine wp_nowMs _ (exchange_ctl _) h hsus fun now w h => ?_
  refine wp_ite (fun _ => wp_emit_bind.mpr ((wp_pure _).mpr (hend w h))) fun _ => ?_
  refine wp_gRunning _ (exchange_ctl _) h hsus fun running w h => ?_
  refine wp_ite (fun _ => wp_emit_bind.mpr ((wp_pure _).mpr (hend w h))) fun _ => ?_
  refine wp_indeterminate fun buf => wp_nowMs _ (exchange_ctl _) h hsus fun now w h => ?_
  refine (wp_rxAwaitAcl_gathering h).seq fun x w h => ?_
  refine wp_ite (fun hdisc => wp_gotoReconnect.mpr (h.mono fun hw => hw.gathering.obs)) fun _ => ?_
  refine wp_ite (fun _ => (wp_pure _).mpr (h.mono fun hw => hw.gathering)) fun hgot => ?_
  refine wp_update_bind.mpr (wp_ite (fun herr => (wp_pure _).mpr ?_) fun _ => (wp_pure _).mpr ?_)
  · exact fun hC => (h hC).error herr (not_not.mp hgot)
  · exact fun hC => (h hC).gathering

/-- 4c ends with nothing to be answered. -/
theorem discoverCharacteristics_idle : IdlePhase env discoverCharacteristics := by
  intro w h
  refine (wp_get_bind _).mpr (wp_attRequest h (fun _ h => h) (fun _ h => h) fun w h => ?_)
  obtain ⟨req, h⟩ : ∃ req, IfClean (Exchange (Bearer.Waiting .characteristics req)) w := ⟨_, h⟩
  have hgather : IfClean (Exchange (Bearer.Gathering req)) w :=
    h.mono fun hw => hw.mono fun _ hb => ⟨hb.1, .inl hb.2⟩
  have hsus : ∀ w, IfClean (Exchange (Bearer.Gathering req)) w → IfClean Matched w :=
    fun _ h => h.matched
  refine wp_nowMs _ (exchange_ctl _) hgather hsus fun now w h => wp_bind ?_
  refine wp_loop (fun _ => IfClean (Exchange (Bearer.Gathering req))) (fun _ => hsus)
    (fun _ w h => ?_) h
  refine (characteristicsStep_gathering h).mono (fun x w h => ?_) (fun _ _ h => h) fun _ h => h
  rcases x with _ | _
  · exact h
  · exact wp_update_bind.mpr (wp_setState.mpr (IfClean.setState h))

/-! ## An iteration -/

variable {aes : Block → Block → Block}

/-- Waiting for SMP data leaves nothing to be answered. -/
theorem quiet_idle : Quiet smpCid (IfClean (Exchange Bearer.Idle)) where
  ctl := exchange_ctl _
  update _ _ _ h := h
  read _ _ _ h _ _ := h.idle_emit (aside_read ..)
  encrypted _ _ _ h _ _ := (IfClean.idle_emit h (aside_read ..)).setState
  delivered _ _ _ h := h.idle_emit ⟨nofun, nofun, nofun, fun _ _ heq =>
    absurd (Obs.delivered.inj heq).1 (by decide)⟩
  notDelivered _ h := h.idle_emit (aside_notDelivered _)

theorem matched_emit (h : IfClean Matched w) (ho : Aside o) : IfClean Matched (w.emit o) :=
  Under.emit h fun _ hm => everywhere_snoc.mpr ⟨hm, ho.matched⟩

/-- A session starts with a new link. -/
theorem beginSession_idle (h : IfClean Matched w) :
    wp env beginSession (Post.all (IfClean (Exchange Bearer.Idle))) w := by
  have hstart : IfClean (Exchange Bearer.Idle) (w.emit .sessionStart) := by
    refine Under.emit h fun _ hm => ⟨?_, fun b hb => ?_⟩
    · exact everywhere_snoc.mpr ⟨hm, aside_start.matched⟩
    · obtain ⟨b₀, -, hnext⟩ := Option.bind_eq_some_iff.mp (monitor_snoc.symm.trans hb)
      obtain rfl := Option.some.inj hnext
      rfl
  have hbegin : IfClean (Exchange Bearer.Idle) w.begin :=
    IfClean.idle_emit (w := (w.emit .sessionStart).update Session.restart) hstart (aside_state _)
  exact wp_beginSession _ _ (exchange_ctl _) (exchange_ctl _) hbegin (fun _ h => h) (fun _ h => h)
    (fun _ => hbegin) (fun _ _ h => h.idle_emit (aside_command ..))
    (fun _ _ _ h _ => h.idle_emit (aside_read ..)) fun _ h => h

theorem connect_idle : Always env (IfClean (Exchange Bearer.Idle)) connect :=
  Always.connect (exchange_ctl _) (fun _ _ _ h => h) (fun _ _ h => h)
    (fun _ _ h => h.idle_emit (aside_command ..)) (fun _ _ _ h _ _ => h.idle_emit (aside_read ..))
    (fun _ _ _ h _ _ _ => (IfClean.idle_emit h (aside_read ..)).setState) fun _ h => h.setState

theorem IdlePhase.bind {x y : Host Unit} (hx : IdlePhase env x) (hy : IdlePhase env y) :
    IdlePhase env (do x; y) := fun w h =>
  (hx w h).seq fun _ w h => hy w h

theorem IdlePhase.of_always {x : Host Unit} (h : Always env (IfClean (Exchange Bearer.Idle)) x) :
    IdlePhase env x := fun w hw =>
  (h w hw).mono (fun _ _ h => h) (fun _ _ h => h.matched) fun _ h => h.matched

/-- An iteration, with a server that answers and PDUs that fit. -/
theorem iteration_matched (b : Bool) (h : IfClean Matched w) :
    wp env (iteration aes b) (Post.all (IfClean Matched)) w := by
  have hpair : IdlePhase env (pair aes b) := IdlePhase.of_always
    (quiet_idle.pair aes (fun _ _ _ _ h => h.idle_emit ⟨fun _ _ heq =>
      absurd (Obs.acl.inj heq).2.1 (by decide), nofun, nofun, nofun⟩) (fun _ _ h _ => h.setState) b)
  have hencrypt : IdlePhase env encrypt := IdlePhase.of_always
    (Always.encrypt (exchange_ctl _) (fun _ _ _ h => h)
      (fun _ _ _ _ h _ => h.idle_emit (aside_command ..))
      (fun _ _ _ h _ => h.idle_emit (aside_read ..)) fun _ _ h => h.setState)
  have hreports : IdlePhase env receiveReports := IdlePhase.of_always
    (Always.receiveReports (exchange_ctl _) (fun _ _ _ h => h)
      fun _ _ _ h _ => h.idle_emit (aside_read ..))
  have hatt : IdlePhase env attPhase := attMtuExchange_idle.bind
    (discoverServices_idle.bind (discoverCharacteristics_idle.bind enableNotifications_idle))
  have hrest := (IdlePhase.of_always connect_idle).bind
    (hpair.bind (hencrypt.bind (hatt.bind hreports)))
  unfold iteration
  apply wp_bind
  refine (beginSession_idle h).mono (fun _ w h => ?_) (fun _ _ h => h.matched) fun _ h => h.matched
  exact (hrest w h).mono (fun _ _ h => h.matched) (fun _ _ h => h) fun _ h => h

/-- **In every run with a server that answers each ATT request before the wait for the answer ends,
in which 4a, 4b and 4d are not delivered a notification, and what they are delivered fits, and so
does what is delivered to 4c before its answer, requests and answers match.** -/
theorem attMatched_of_clean (cfg : HostConfig) (budget : ℕ)
    (hserver : Everywhere ServerAt (hostRun aes cfg env budget).trace)
    (hclean : Everywhere CleanAt (hostRun aes cfg env budget).trace) :
    Everywhere MatchedAt (hostRun aes cfg env budget).trace :=
  hostRun_of_iteration (fun e _ h => matched_emit h (aside_ctl e)) (fun _ h => h)
    (fun _ h => matched_emit h ⟨nofun, nofun, nofun, nofun⟩) (fun _ hw => iteration_matched _ hw)
    (fun _ => everywhere_nil) budget (hserver.and hclean)

/-- A connection whose ATT answers come in time; a notification comes before the answer of 4c. -/
def answeredRun : World :=
  hostRun BlockCipher.identity.enc publicConfig
    (HostEnv.scripted 0 (pairingScript ++ [(35, encryptionChangeFrame 0x01),
      (44, aclFrame 0x04 [attOpMtuRsp, 0xf7, 0x00]),
      (51, aclFrame 0x04 [attOpReadByGroupRsp, 0x06, 0x01, 0x00, 0x20, 0x00, 0x00, 0x18]),
      (62, aclFrame 0x04 [attOpHandleNotify, 0x0e, 0x00, 0x09]),
      (71, aclFrame 0x04 [attOpErrorRsp, attOpReadByTypeReq, 0x01, 0x00, 0x0a]),
      (78, aclFrame 0x04 [attOpWriteRsp])]) []) 80

/-- There all four requests are answered. -/
theorem attMatched_answered :
    (.attMtu 0x00f7 ∈ answeredRun.trace ∧ .services 0x0001 0x0020 ∈ answeredRun.trace ∧
      .state .notificationsEnabled ∈ answeredRun.trace) ∧
    Everywhere MatchedAt answeredRun.trace :=
  ⟨by decide +kernel, attMatched_of_clean publicConfig 80 (by decide +kernel) (by decide +kernel)⟩

/-- The same answers, after a notification that comes before the first. -/
def notifiedRun : World :=
  hostRun BlockCipher.identity.enc publicConfig
    (HostEnv.scripted 0 (pairingScript ++ [(35, encryptionChangeFrame 0x01),
      (44, aclFrame 0x04 [attOpHandleNotify, 0x0e, 0x00, 0x09]),
      (51, aclFrame 0x04 [attOpMtuRsp, 0xf7, 0x00]),
      (62, aclFrame 0x04 [attOpReadByGroupRsp, 0x06, 0x01, 0x00, 0x20, 0x00, 0x00, 0x18]),
      (71, aclFrame 0x04 [attOpErrorRsp, attOpReadByTypeReq, 0x01, 0x00, 0x0a]),
      (78, aclFrame 0x04 [attOpWriteRsp])]) []) 80

/-- There the notification is taken for the MTU Response, and the request for the services is sent
before that comes. -/
theorem not_attMatched_notified :
    Everywhere ServerAt notifiedRun.trace ∧ ¬Everywhere MatchedAt notifiedRun.trace := by
  constructor
  · decide +kernel
  · intro h
    have hat := everywhere_getElem.mp h 27 (by decide +kernel)
    have hidle := hat.request 0x0040 [attOpReadByGroupReq, 0x01, 0x00, 0xFF, 0xFF, 0x00, 0x28]
      (by decide +kernel)
    have hb : bearer (notifiedRun.trace.take 27) =
        some ⟨some .services, [[attOpMtuReq, 0xFF, 0x00]], none⟩ := by decide +kernel
    exact List.cons_ne_nil _ _ (hidle _ hb)

end Switch2Bt.Sw2d
