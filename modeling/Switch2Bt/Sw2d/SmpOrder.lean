import Switch2Bt.Sw2d.Rules

/-!
# The order of the pairing (`sw2d_final.c`, phases 2 and 3)

`SmpStep` says what must have been observed in an iteration before an SMP PDU or LE Start
Encryption is sent in it. It holds at every observation of every run whose delivered frames fit
their buffers (`smpOrder`). The proof follows the pairing step by step: `Stage` is what was sent so
far in the iteration, with the evidence for what comes next.

AES-128 is an arbitrary function.
-/

namespace Switch2Bt.Sw2d

open Await Octets

/-! ## Statement -/

/-- What is sent for the pairing. -/
inductive SmpSend where
  | securityRequest
  | pairingRequest
  | confirm
  | random
  | startEncryption
  | other
deriving DecidableEq, Repr

/-- The PDU of an opcode. -/
def SmpSend.ofPdu (data : Octets) : SmpSend :=
  if data.octet 0 = smpOpSecurityRequest then .securityRequest
  else if data.octet 0 = smpOpPairingReq then .pairingRequest
  else if data.octet 0 = smpOpConfirm then .confirm
  else if data.octet 0 = smpOpRandom then .random
  else .other

/-- What an observation sends for the pairing. -/
def Obs.smpSend : Obs → Option SmpSend
  | .acl _ cid data ok => if cid = smpCid ∧ ok = true then some (.ofPdu data) else none
  | .command opcode _ ok =>
      if opcode = opStartEncryption ∧ ok = true then some .startEncryption else none
  | _ => none

/-- What was sent for the pairing. -/
def sent (os : List Obs) : List SmpSend := os.filterMap Obs.smpSend

/-- What is sent for a pairing, in this order. -/
def smpSequence (sendSecurityReq : Bool) : List SmpSend :=
  (if sendSecurityReq then [.securityRequest] else []) ++
    [.pairingRequest, .confirm, .random, .startEncryption]

/-- A Pairing Response of at least seven octets was delivered. -/
def ResponseIn (os : List Obs) (pres : Vector UInt8 7) : Prop :=
  ∃ f cap, .delivered smpCid f cap ∈ os ∧ 7 ≤ f.payloadLen.toNat ∧
    f.payload 0 = smpOpPairingRsp ∧ pres = block 7 (f.payloadTake f.payloadLen.toNat) 0

/-- A PDU of 17 octets with the given opcode and value was delivered. -/
def Pdu17In (op : UInt8) (os : List Obs) (value : Block) : Prop :=
  ∃ f cap, .delivered smpCid f cap ∈ os ∧ f.payloadLen.toNat = 17 ∧ f.payload 0 = op ∧
    value = block 16 (f.payloadTake 17) 1

/-- The peer's random octets, delivered after this side's were sent, agree with the confirm value
delivered before; `stk` is the key of the two. -/
def Verified (aes : Block → Block → Block) (cfg : HostConfig) (os : List Obs) (stk : Block) :
    Prop :=
  ∃ pres mrand srand sconfirm handle a b,
    os = a ++ .acl handle smpCid ([smpOpRandom] ++ Vector.toList mrand) true :: b ∧
    ResponseIn a pres ∧ Pdu17In smpOpConfirm a sconfirm ∧ Pdu17In smpOpRandom b srand ∧
    smpC1 aes (Vector.replicate 16 0) srand preq pres cfg.peerAddrType cfg.peerAddr
      cfg.localAddrType cfg.localAddr = sconfirm ∧
    stk = smpS1 aes (Vector.replicate 16 0) mrand srand

/-- The parameters of LE Start Encryption with a key. -/
def encryptionParams (handle : UInt16) (stk : Block) : Octets :=
  putLe16 handle ++ List.replicate 8 0 ++ putLe16 0 ++ stk.toList

/-- The order of the pairing, and what each step of it waits for. -/
structure SmpStep (aes : Block → Block → Block) (cfg : HostConfig) (pre : List Obs) (o : Obs) :
    Prop where
  order : sent (iterObs (pre ++ [o])) <+: smpSequence cfg.sendSecurityReq
  confirm : o.smpSend = some .confirm → ∃ pres, ResponseIn (iterObs pre) pres
  random : o.smpSend = some .random → ∃ sconfirm, Pdu17In smpOpConfirm (iterObs pre) sconfirm
  encryption : ∀ params, o = .command opStartEncryption params true →
    ∃ handle stk, params = encryptionParams handle stk ∧ Verified aes cfg (iterObs pre) stk

/-- Delivered data fits its buffer. -/
def FitsAt (_ : List Obs) (o : Obs) : Prop :=
  ∀ cid f cap, o = .delivered cid f cap → f.payloadLen.toNat ≤ cap

instance (pre : List Obs) (o : Obs) : Decidable (FitsAt pre o) :=
  match o with
  | .delivered cid f cap =>
      decidable_of_iff (f.payloadLen.toNat ≤ cap)
        ⟨fun h _ _ _ heq => by cases heq; exact h, fun h => h cid f cap rfl⟩
  | .sessionStart | .state _ | .command .. | .acl .. | .read .. | .notDelivered _
  | .attStep _ | .attMtu _ | .services .. | .reconnect | .ctl _ => isTrue nofun

/-! ## Evidence -/

variable {os : List Obs} {o : Obs} {w : World}

theorem ResponseIn.append {pres : Vector UInt8 7} (h : ResponseIn os pres) (os' : List Obs) :
    ResponseIn (os ++ os') pres := by
  obtain ⟨f, cap, hmem, h⟩ := h
  exact ⟨f, cap, List.mem_append_left _ hmem, h⟩

theorem Pdu17In.append {op : UInt8} {value : Block} (h : Pdu17In op os value) (os' : List Obs) :
    Pdu17In op (os ++ os') value := by
  obtain ⟨f, cap, hmem, h⟩ := h
  exact ⟨f, cap, List.mem_append_left _ hmem, h⟩

/-- An observation that starts no session and sends nothing for the pairing. -/
structure Silent (o : Obs) : Prop where
  start : o.isStart = false
  smpSend : o.smpSend = none

/-- What stays of a session while the host waits. -/
def Session.smpPart (s : Session) : Session :=
  { s with connHandle := 0, state := .disconnected, lastDisconnectReason := 0 }

/-- Evidence is kept by what is observed later. -/
def Lasting (E : Session → List Obs → Prop) : Prop := ∀ s os o, E s os → E s (os ++ [o])

/-- In the current iteration `l` was sent, and there is evidence `E`. -/
structure Stage (aes : Block → Block → Block) (cfg : HostConfig) (l : List SmpSend)
    (E : Session → List Obs → Prop) (w : World) : Prop where
  given : w.s.given = cfg.start.s.given
  obs : Everywhere (SmpStep aes cfg) w.trace
  sent : sent (iterObs w.trace) = l
  evidence : E w.s.smpPart (iterObs w.trace)

/-- Between two iterations. -/
structure Ordered (aes : Block → Block → Block) (cfg : HostConfig) (w : World) : Prop where
  given : w.s.given = cfg.start.s.given
  obs : Everywhere (SmpStep aes cfg) w.trace
  sent : sent (iterObs w.trace) <+: smpSequence cfg.sendSecurityReq

variable {aes : Block → Block → Block} {cfg : HostConfig} {l : List SmpSend}
variable {E E' : Session → List Obs → Prop}

theorem Stage.ordered (h : Stage aes cfg l E w) (hl : l <+: smpSequence cfg.sendSecurityReq) :
    Ordered aes cfg w := ⟨h.given, h.obs, h.sent.symm ▸ hl⟩

theorem sent_snoc : sent (os ++ [o]) = sent os ++ o.smpSend.toList := by
  unfold sent
  rw [List.filterMap_append]
  cases h : o.smpSend with
  | none => simp [h]
  | some k => simp [h]

/-- What sends nothing is sent at any stage. -/
theorem Silent.step {tr : List Obs} (ho : Silent o)
    (h : sent (iterObs tr) <+: smpSequence cfg.sendSecurityReq) : SmpStep aes cfg tr o := by
  refine ⟨?_, fun hc => ?_, fun hr => ?_, ?_⟩
  · rw [iterObs_snoc ho.start, sent_snoc, ho.smpSend, Option.toList_none, List.append_nil]
    exact h
  · rw [ho.smpSend] at hc
    cases hc
  · rw [ho.smpSend] at hr
    cases hr
  · rintro params rfl
    exact absurd ho.smpSend (by simp [Obs.smpSend])

theorem Ordered.emit (h : Ordered aes cfg w) (ho : Silent o) : Ordered aes cfg (w.emit o) := by
  refine ⟨h.given, everywhere_snoc.mpr ⟨h.obs, ho.step h.sent⟩, ?_⟩
  rw [World.emit_trace, iterObs_snoc ho.start, sent_snoc, ho.smpSend, Option.toList_none,
    List.append_nil]
  exact h.sent

theorem Stage.emit (h : Stage aes cfg l E w) (hl : l <+: smpSequence cfg.sendSecurityReq)
    (ho : Silent o) (hE : E w.s.smpPart (iterObs w.trace) →
      E' w.s.smpPart (iterObs w.trace ++ [o])) : Stage aes cfg l E' (w.emit o) := by
  refine ⟨h.given, everywhere_snoc.mpr ⟨h.obs, ho.step (h.sent.symm ▸ hl)⟩, ?_, ?_⟩
  · rw [World.emit_trace, iterObs_snoc ho.start, sent_snoc, ho.smpSend, Option.toList_none,
      List.append_nil, h.sent]
  · rw [World.emit_trace, iterObs_snoc ho.start]
    exact hE h.evidence

/-- An assertion about the runs whose deliveries fit. -/
abbrev IfFits : (World → Prop) → World → Prop := Under FitsAt

/-- What is sent for the pairing moves to the next stage. -/
theorem Stage.send {k : SmpSend} (h : Stage aes cfg l E w) (hstart : o.isStart = false)
    (hk : o.smpSend = some k) (hl : l ++ [k] <+: smpSequence cfg.sendSecurityReq)
    (hconfirm : k = .confirm → ∃ pres, ResponseIn (iterObs w.trace) pres)
    (hrandom : k = .random → ∃ sconfirm, Pdu17In smpOpConfirm (iterObs w.trace) sconfirm)
    (henc : ∀ params, o = .command opStartEncryption params true →
      ∃ handle stk, params = encryptionParams handle stk ∧ Verified aes cfg (iterObs w.trace) stk)
    (hE : E w.s.smpPart (iterObs w.trace) → E' w.s.smpPart (iterObs w.trace ++ [o])) :
    Stage aes cfg (l ++ [k]) E' (w.emit o) := by
  have hsent : Sw2d.sent (iterObs (w.emit o).trace) = l ++ [k] := by
    rw [World.emit_trace, iterObs_snoc hstart, sent_snoc, hk, h.sent, Option.toList_some]
  refine ⟨h.given, everywhere_snoc.mpr ⟨h.obs, ?_, ?_, ?_, henc⟩, hsent, ?_⟩
  · rw [← World.emit_trace, hsent]
    exact hl
  · exact fun hc => hconfirm (Option.some.inj (hk.symm.trans hc))
  · exact fun hr => hrandom (Option.some.inj (hk.symm.trans hr))
  · rw [World.emit_trace, iterObs_snoc hstart]
    exact hE h.evidence

theorem silent_ctl (e : CtlEvent) : Silent (.ctl e) := ⟨rfl, rfl⟩

theorem silent_state (st : SessionState) : Silent (.state st) := ⟨rfl, rfl⟩

theorem silent_read (place : Place) (handle : UInt16) (data : Octets) (f : Frame) :
    Silent (.read place handle data f) := ⟨rfl, rfl⟩

theorem silent_unsent (handle cid : UInt16) (data : Octets) :
    Silent (.acl handle cid data false) := ⟨rfl, by simp [Obs.smpSend]⟩

/-- The session of a stage may change where the stage does not look. -/
theorem Stage.update {g : Session → Session} (h : Stage aes cfg l E w)
    (hg : (g w.s).smpPart = w.s.smpPart) : Stage aes cfg l E (w.update g) := by
  have hgiven : (g w.s).smpPart.given = w.s.smpPart.given := by rw [hg]
  exact ⟨hgiven.trans h.given, h.obs, h.sent, by rw [World.update_s, hg]; exact h.evidence⟩

/-- Evidence for one part of an iteration, and then for the rest. -/
def AndThen (E : Session → List Obs → Prop) (F : List Obs → Prop) (s : Session) (os : List Obs) :
    Prop := ∃ a b, os = a ++ b ∧ E s a ∧ F b

/-- The buffer and the length hold the payload of a frame delivered. -/
def DeliveredAs (buf : Octets) (blen : ℕ) (os : List Obs) : Prop :=
  ∃ f cap rest, .delivered smpCid f cap ∈ os ∧ blen = f.payloadLen.toNat ∧
    buf = f.payloadTake blen ++ rest

/-! ## Steps -/

/-- How a step of the pairing ends: at the next stage, or between two iterations. -/
def StepTo (aes : Block → Block → Block) (cfg : HostConfig) (l : List SmpSend)
    (E : Session → List Obs → Prop) : Post World Goto Unit :=
  ⟨fun _ => IfFits (Stage aes cfg l E), fun _ => IfFits (Ordered aes cfg), IfFits (Ordered aes cfg)⟩

variable {env : HostEnv}

section steps

variable (hl : l <+: smpSequence cfg.sendSecurityReq)

include hl

theorem stage_ctl (hE : Lasting E) : CtlStable (IfFits (Stage aes cfg l E)) :=
  fun e _ h => h.emit fun _ hs => hs.emit hl (silent_ctl e) (hE _ _ _)

theorem stage_read (hE : Lasting E) {place : Place} {data : Octets} {f : Frame}
    (h : IfFits (Stage aes cfg l E) w) : IfFits (Stage aes cfg l E) (w.read place data f) :=
  h.emit fun _ hs => hs.emit hl (silent_read ..) (hE _ _ _)

theorem stage_setState (hE : Lasting E) {st : SessionState} (h : IfFits (Stage aes cfg l E) w) :
    IfFits (Stage aes cfg l E) (w.setState st) :=
  fun hfits => ((h hfits.of_append).update (g := fun s => { s with state := st }) rfl).emit hl
    (silent_state st) (hE _ _ _)

/-- Waiting for a PDU: it ends with what the frame delivered left in the buffer. -/
theorem wp_rxAwaitAcl_stage (hE : Lasting E) (h : IfFits (Stage aes cfg l E) w) {buf : Octets}
    {timeoutMs : ℤ} : wp env (rxAwaitAcl smpCid buf timeoutMs)
      ⟨fun x => IfFits (Stage aes cfg l (AndThen E fun os => x.1 = .got →
          DeliveredAs x.2.1 x.2.2 os)), fun _ => IfFits (Ordered aes cfg),
        IfFits (Ordered aes cfg)⟩ w := by
  have hno : ∀ rc : Rx, rc ≠ .got → ∀ w, IfFits (Stage aes cfg l E) w →
      IfFits (Stage aes cfg l (AndThen E fun os => rc = .got → DeliveredAs buf buf.length os))
        (w.emit (.notDelivered smpCid)) := fun rc hrc w hw =>
    hw.emit fun _ hs => hs.emit hl ⟨rfl, rfl⟩ fun he => ⟨_, _, rfl, he, fun h => absurd h hrc⟩
  refine wp_rxAwaitAcl _ (stage_ctl hl hE) h (fun w hw => hw.mono fun hs => hs.ordered hl)
    (fun w hw => hno .failed nofun w hw) ?_ ?_ ?_ ?_
  · intro data f w hw _ _
    exact hno .disconnected nofun _ fun hfits => (stage_read hl hE hw hfits).update rfl
  · exact fun data f w hw _ _ => stage_setState hl hE (stage_read hl hE hw)
  · exact fun data f w hw _ _ _ _ => stage_read hl hE hw
  · intro data f w hw _ _
    refine (stage_read hl hE hw).emit fun hfit hs => hs.emit hl ⟨rfl, rfl⟩ fun he => ?_
    refine ⟨_, _, rfl, he, fun _ => ⟨f, buf.length, buf.drop f.payloadLen.toNat, by simp, ?_⟩⟩
    have hlen : f.payloadLen.toNat ≤ buf.length := hfit smpCid f buf.length rfl
    unfold rxAwaitAclOut
    rw [if_pos hlen]
    exact ⟨rfl, rfl⟩

/-- Sending a PDU: the iteration goes on if it could be sent. -/
theorem wp_smpSend_stage (hE : Lasting E) (h : IfFits (Stage aes cfg l E) w) {data : Octets}
    {k : SmpSend} (hk : SmpSend.ofPdu data = k) {l' : List SmpSend} (hlk : l ++ [k] = l')
    (hl' : l' <+: smpSequence cfg.sendSecurityReq)
    (hconfirm : k = .confirm → ∀ os, E w.s.smpPart os → ∃ pres, ResponseIn os pres)
    (hrandom : k = .random → ∀ os, E w.s.smpPart os →
      ∃ sconfirm, Pdu17In smpOpConfirm os sconfirm)
    (hE' : ∀ handle os, E w.s.smpPart os →
      E' w.s.smpPart (os ++ [.acl handle smpCid data true])) :
    wp env (do require (← smpSend data)) (StepTo aes cfg l' E') w := by
  subst hlk
  have hord : ∀ {w}, IfFits (Stage aes cfg l E) w → IfFits (Ordered aes cfg) w :=
    fun hw => hw.mono fun hs => hs.ordered hl
  apply wp_bind
  unfold smpSend
  refine (wp_get_bind _).mpr (wp_hciUserAclSend
    (fun w' => IfFits (Stage aes cfg l E) w' ∧ w'.s.smpPart = w.s.smpPart)
    (fun e w' h' => ⟨stage_ctl hl hE e w' h'.1, h'.2⟩) ⟨h, rfl⟩ (fun _ h' => hord h'.1) ?_ ?_)
  · exact fun _ => wp_require nofun fun _ => hord h
  · refine fun ok w' h' => wp_require (fun hok => ?_) fun hok => ?_
    · subst hok
      refine h'.1.emit fun _ hs => hs.send rfl (by simp [Obs.smpSend, hk]) hl' ?_ ?_ nofun ?_
      · exact fun hc => hconfirm hc _ (h'.2 ▸ hs.evidence)
      · exact fun hr => hrandom hr _ (h'.2 ▸ hs.evidence)
      · rw [h'.2]
        exact hE' _ _
    · subst hok
      exact h'.1.emit fun _ hs => (hs.ordered hl).emit (silent_unsent ..)

end steps

/-! ## The evidence of each step -/

/-- The Pairing Request is stored. -/
def HasRequest (s : Session) (_ : List Obs) : Prop := s.smpPreq = preq

/-- The Pairing Response was delivered and is stored. -/
def HasResponse (s : Session) (os : List Obs) : Prop :=
  s.smpPreq = preq ∧ ResponseIn os s.smpPres

/-- The peer's confirm value was delivered and is stored. -/
def HasConfirm (s : Session) (os : List Obs) : Prop :=
  HasResponse s os ∧ Pdu17In smpOpConfirm os s.smpSconfirm

/-- The random octets were sent after that. -/
def SentRandom (s : Session) (os : List Obs) : Prop :=
  ∃ handle a b, os = a ++ .acl handle smpCid ([smpOpRandom] ++ s.smpMrand.toList) true :: b ∧
    HasConfirm s a

/-- The peer's random octets were delivered after that and are stored. -/
def HasRandom (s : Session) (os : List Obs) : Prop :=
  ∃ handle a b, os = a ++ .acl handle smpCid ([smpOpRandom] ++ s.smpMrand.toList) true :: b ∧
    HasConfirm s a ∧ Pdu17In smpOpRandom b s.smpSrand

/-- The key was derived from what agrees. -/
def HasKey (aes : Block → Block → Block) (cfg : HostConfig) (s : Session) (os : List Obs) : Prop :=
  Verified aes cfg os s.smpStk

theorem lasting_true : Lasting fun _ _ => True := fun _ _ _ _ => trivial

theorem lasting_request : Lasting HasRequest := fun _ _ _ h => h

theorem lasting_response : Lasting HasResponse := fun _ _ _ h => ⟨h.1, h.2.append _⟩

theorem lasting_confirm : Lasting HasConfirm :=
  fun _ _ _ h => ⟨lasting_response _ _ _ h.1, h.2.append _⟩

theorem lasting_sentRandom : Lasting SentRandom := by
  rintro s _ o ⟨handle, a, b, rfl, h⟩
  exact ⟨handle, a, b ++ [o], by simp, h⟩

theorem lasting_hasKey : Lasting (HasKey aes cfg) := by
  rintro s _ o ⟨pres, mrand, srand, sconfirm, handle, a, b, rfl, hp, hc, hr, heq, hk⟩
  exact ⟨pres, mrand, srand, sconfirm, handle, a, b ++ [o], by simp, hp, hc, hr.append _, heq, hk⟩

/-- A buffer that passes for a Pairing Response holds one. -/
theorem DeliveredAs.response {rc : Rx} {buf : Octets} {blen : ℕ}
    (h : rc = .got → DeliveredAs buf blen os) (hrsp : IsPairingResponse rc buf blen) :
    ResponseIn os (block 7 buf 0) := by
  have hrc : rc = .got := by_contra fun hne => hrsp (.inl hne)
  have hlen : 7 ≤ blen := not_lt.mp fun hlt => hrsp (.inr (.inl hlt))
  have hop : buf.octet 0 = smpOpPairingRsp := by_contra fun hne => hrsp (.inr (.inr hne))
  obtain ⟨f, cap, rest, hmem, rfl, rfl⟩ := h hrc
  have hlen' : 0 < (f.payloadTake f.payloadLen.toNat).length := by
    rw [Frame.payloadTake_length]
    omega
  refine ⟨f, cap, hmem, hlen, ?_, block_append (by rw [Frame.payloadTake_length]; omega)⟩
  rw [octet_read hlen', Frame.payloadTake_octet f (by omega)] at hop
  exact hop

/-- A buffer that passes for a PDU of 17 octets holds one. -/
theorem DeliveredAs.pdu17 {rc : Rx} {buf : Octets} {blen : ℕ} {op : UInt8}
    (h : rc = .got → DeliveredAs buf blen os) (hrc : rc = .got) (hlen : blen = 17)
    (hop : buf.octet 0 = op) : Pdu17In op os (block 16 buf 1) := by
  obtain ⟨f, cap, rest, hmem, hblen, rfl⟩ := h hrc
  rw [hlen] at hop hblen ⊢
  have hlen' : 0 < (f.payloadTake 17).length := by rw [Frame.payloadTake_length]; omega
  refine ⟨f, cap, hmem, hblen.symm, ?_, block_append (by rw [Frame.payloadTake_length])⟩
  rw [octet_read hlen', Frame.payloadTake_octet f (by omega)] at hop
  exact hop

/-! ## The steps of the pairing -/

/-- What is sent before the Pairing Request. -/
def securityPart (sendSecurityReq : Bool) : List SmpSend :=
  if sendSecurityReq then [.securityRequest] else []

/-- What is sent from the Pairing Request on. -/
def smpSends : List SmpSend := [.pairingRequest, .confirm, .random, .startEncryption]

/-- What was sent after `n` of these. -/
def sentAfter (sendSecurityReq : Bool) (n : ℕ) : List SmpSend :=
  securityPart sendSecurityReq ++ smpSends.take n

theorem sentAfter_sequence (b : Bool) (n : ℕ) : sentAfter b n <+: smpSequence b :=
  (List.prefix_append_right_inj _).mpr (List.take_prefix _ _)

theorem sentAfter_succ {n : ℕ} {k : SmpSend} (h : smpSends[n]? = some k) (b : Bool) :
    sentAfter b n ++ [k] = sentAfter b (n + 1) := by
  unfold sentAfter
  rw [List.take_add_one, h, List.append_assoc, Option.toList_some]

/-- 2a -/
theorem securityRequest_stage (h : IfFits (Stage aes cfg [] fun _ _ => True) w) :
    wp env (securityRequest cfg.sendSecurityReq)
      (StepTo aes cfg (sentAfter cfg.sendSecurityReq 0) fun _ _ => True) w := by
  unfold securityRequest
  cases hb : cfg.sendSecurityReq with
  | false => exact (wp_pure _).mpr h
  | true =>
      exact wp_smpSend_stage List.nil_prefix lasting_true h rfl rfl (hb ▸ sentAfter_sequence true 0)
        nofun nofun fun _ _ _ => trivial

/-- 2b -/
theorem pairingRequest_stage
    (h : IfFits (Stage aes cfg (sentAfter cfg.sendSecurityReq 0) fun _ _ => True) w) :
    wp env pairingRequest (StepTo aes cfg (sentAfter cfg.sendSecurityReq 1) HasRequest) w := by
  unfold pairingRequest
  apply wp_update_bind.mpr
  have hreq : IfFits (Stage aes cfg (sentAfter cfg.sendSecurityReq 0) HasRequest)
      (w.update fun s => { s with smpPreq := preq }) :=
    fun hfits => ⟨(h hfits).given, (h hfits).obs, (h hfits).sent, rfl⟩
  have hl' := sentAfter_sequence cfg.sendSecurityReq 1
  rw [← bind_assoc]
  have hsend : wp env (do require (← smpSend preq.toList))
      (StepTo aes cfg (sentAfter cfg.sendSecurityReq 1) HasRequest)
      (w.update fun s => { s with smpPreq := preq }) :=
    wp_smpSend_stage (sentAfter_sequence _ 0) lasting_request hreq rfl (sentAfter_succ rfl _) hl'
      nofun nofun fun _ _ h => h
  apply hsend.seq
  exact fun _ w hw => wp_setState.mpr (stage_setState hl' lasting_request hw)

theorem storePairingResponse_stage {rc : Rx} {buf : Octets} {blen : ℕ}
    (h : IfFits (Stage aes cfg (sentAfter cfg.sendSecurityReq 1) (AndThen HasRequest fun os =>
      rc = .got → DeliveredAs buf blen os)) w) (hrsp : IsPairingResponse rc buf blen) :
    wp env (storePairingResponse buf)
      (StepTo aes cfg (sentAfter cfg.sendSecurityReq 1) HasResponse) w := by
  unfold storePairingResponse
  refine wp_update_bind.mpr (wp_setState.mpr ?_)
  refine stage_setState (sentAfter_sequence _ 1) lasting_response fun hfits => ?_
  obtain ⟨a, b, hos, hreq, hdel⟩ := (h hfits).evidence
  refine ⟨(h hfits).given, (h hfits).obs, (h hfits).sent, hreq, ?_⟩
  obtain ⟨f, cap, hmem, hf⟩ := DeliveredAs.response hdel hrsp
  refine ⟨f, cap, ?_, hf⟩
  rw [World.update_trace, hos]
  exact List.mem_append_right _ hmem

/-- A stage reached with more evidence is between two iterations. -/
theorem IfFits.ordered {n : ℕ} (h : IfFits (Stage aes cfg (sentAfter cfg.sendSecurityReq n) E) w) :
    IfFits (Ordered aes cfg) w := h.mono fun hs => hs.ordered (sentAfter_sequence _ n)

/-- The evidence from before a wait is there after it. -/
theorem IfFits.wait {F : List Obs → Prop} (hE : Lasting E)
    (h : IfFits (Stage aes cfg l (AndThen E F)) w) : IfFits (Stage aes cfg l E) w := by
  refine h.mono fun hs => ⟨hs.given, hs.obs, hs.sent, ?_⟩
  obtain ⟨a, b, hos, he, -⟩ := hs.evidence
  rw [hos]
  clear hos
  induction b using List.reverseRecOn with
  | nil => rwa [List.append_nil]
  | append_singleton b o ih =>
      rw [← List.append_assoc]
      exact hE _ _ _ ih

/-- 2c: the first wait, or the second one after the peer's Security Request. -/
theorem awaitPairingResponse_stage
    (h : IfFits (Stage aes cfg (sentAfter cfg.sendSecurityReq 1) HasRequest) w) :
    wp env awaitPairingResponse
      (StepTo aes cfg (sentAfter cfg.sendSecurityReq 1) HasResponse) w := by
  have hl := sentAfter_sequence cfg.sendSecurityReq 1
  unfold awaitPairingResponse
  refine wp_indeterminate fun buf => ?_
  refine (wp_rxAwaitAcl_stage hl lasting_request h).seq fun x w hw => ?_
  obtain ⟨rc, buf, blen⟩ := x
  refine wp_ite (fun _ => wp_gotoReconnect.mpr (IfFits.ordered hw)) fun _ => ?_
  refine wp_ite (fun hrsp => storePairingResponse_stage hw hrsp) fun _ => ?_
  refine wp_ite (fun _ => wp_gotoReconnect.mpr (IfFits.ordered hw)) fun _ => ?_
  refine wp_ite (fun _ => ?_) fun _ => wp_gotoReconnect.mpr (IfFits.ordered hw)
  refine (wp_rxAwaitAcl_stage hl lasting_request (hw.wait lasting_request)).seq fun x w hw => ?_
  obtain ⟨rc, buf, blen⟩ := x
  refine wp_ite (fun hrsp => storePairingResponse_stage hw hrsp) fun _ => ?_
  exact wp_gotoReconnect.mpr (IfFits.ordered hw)

/-- 2d -/
theorem generateConfirm_stage
    (h : IfFits (Stage aes cfg (sentAfter cfg.sendSecurityReq 1) HasResponse) w) :
    wp env (generateConfirm aes)
      (StepTo aes cfg (sentAfter cfg.sendSecurityReq 1) HasResponse) w := by
  unfold generateConfirm
  refine wp_indeterminate fun mrand => wp_update_bind.mpr (wp_update.mpr fun hfits => ?_)
  exact ⟨(h hfits).given, (h hfits).obs, (h hfits).sent, (h hfits).evidence⟩

/-- 2e -/
theorem sendConfirm_stage
    (h : IfFits (Stage aes cfg (sentAfter cfg.sendSecurityReq 1) HasResponse) w) :
    wp env sendConfirm (StepTo aes cfg (sentAfter cfg.sendSecurityReq 2) HasResponse) w := by
  unfold sendConfirm
  apply (wp_get_bind _).mpr
  exact wp_smpSend_stage (sentAfter_sequence _ 1) lasting_response h rfl (sentAfter_succ rfl _)
    (sentAfter_sequence _ 2) (fun _ _ he => ⟨_, he.2⟩) nofun fun _ _ he => lasting_response _ _ _ he

/-- 2f and 2h: a PDU of 17 octets. -/
theorem awaitPdu17_stage {n : ℕ} (hE : Lasting E) (op : UInt8)
    (h : IfFits (Stage aes cfg (sentAfter cfg.sendSecurityReq n) E) w) :
    wp env (awaitPdu17 op) ⟨fun buf => IfFits (Stage aes cfg (sentAfter cfg.sendSecurityReq n)
        (AndThen E fun os => Pdu17In op os (block 16 buf 1))), fun _ => IfFits (Ordered aes cfg),
      IfFits (Ordered aes cfg)⟩ w := by
  unfold awaitPdu17
  refine wp_indeterminate fun buf => ?_
  refine (wp_rxAwaitAcl_stage (sentAfter_sequence _ n) hE h).seq fun x w hw => ?_
  obtain ⟨rc, buf, blen⟩ := x
  refine wp_ite (fun _ => wp_gotoReconnect.mpr (IfFits.ordered hw)) fun _ => ?_
  refine wp_ite (fun _ => wp_gotoReconnect.mpr (IfFits.ordered hw)) fun hok => (wp_pure _).mpr ?_
  refine hw.mono fun hs => ⟨hs.given, hs.obs, hs.sent, ?_⟩
  obtain ⟨a, b, hos, he, hdel⟩ := hs.evidence
  simp only [not_or, not_not] at hok
  exact ⟨a, b, hos, he, DeliveredAs.pdu17 hdel hok.1 hok.2.1 hok.2.2⟩

theorem storeConfirm_stage {value : Block} (h : IfFits (Stage aes cfg
      (sentAfter cfg.sendSecurityReq 2) (AndThen HasResponse fun os =>
        Pdu17In smpOpConfirm os value)) w) :
    IfFits (Stage aes cfg (sentAfter cfg.sendSecurityReq 2) HasConfirm)
      (w.update fun s => { s with smpSconfirm := value }) := by
  intro hfits
  obtain ⟨a, b, hos, -, f, cap, hmem, hf⟩ := (h hfits).evidence
  have hrsp := ((h.wait lasting_response) hfits).evidence
  refine ⟨(h hfits).given, (h hfits).obs, (h hfits).sent, hrsp, f, cap, ?_, hf⟩
  rw [World.update_trace, hos]
  exact List.mem_append_right _ hmem

/-- 2f -/
theorem awaitConfirm_stage
    (h : IfFits (Stage aes cfg (sentAfter cfg.sendSecurityReq 2) HasResponse) w) :
    wp env awaitConfirm (StepTo aes cfg (sentAfter cfg.sendSecurityReq 2) HasConfirm) w := by
  unfold awaitConfirm
  refine (awaitPdu17_stage lasting_response smpOpConfirm h).seq fun buf w hw => ?_
  exact wp_update.mpr (storeConfirm_stage hw)

/-- 2g -/
theorem sendRandom_stage
    (h : IfFits (Stage aes cfg (sentAfter cfg.sendSecurityReq 2) HasConfirm) w) :
    wp env sendRandom (StepTo aes cfg (sentAfter cfg.sendSecurityReq 3) SentRandom) w := by
  unfold sendRandom
  apply (wp_get_bind _).mpr
  exact wp_smpSend_stage (sentAfter_sequence _ 2) lasting_confirm h rfl (sentAfter_succ rfl _)
    (sentAfter_sequence _ 3) nofun (fun _ _ he => ⟨_, he.2⟩) fun handle os he =>
      ⟨handle, os, [], rfl, he⟩

theorem storeRandom_stage {value : Block} (h : IfFits (Stage aes cfg
      (sentAfter cfg.sendSecurityReq 3) (AndThen SentRandom fun os =>
        Pdu17In smpOpRandom os value)) w) :
    IfFits (Stage aes cfg (sentAfter cfg.sendSecurityReq 3) HasRandom)
      (w.update fun s => { s with smpSrand := value }) := by
  intro hfits
  obtain ⟨c, d, hos, ⟨handle, a, b, rfl, he⟩, f, cap, hmem, hf⟩ := (h hfits).evidence
  refine ⟨(h hfits).given, (h hfits).obs, (h hfits).sent, handle, a, b ++ d, ?_, he, f, cap,
    List.mem_append_right _ hmem, hf⟩
  rw [World.update_trace, hos]
  simp [Session.smpPart]

/-- 2h -/
theorem awaitRandom_stage
    (h : IfFits (Stage aes cfg (sentAfter cfg.sendSecurityReq 3) SentRandom) w) :
    wp env awaitRandom (StepTo aes cfg (sentAfter cfg.sendSecurityReq 3) HasRandom) w := by
  unfold awaitRandom
  refine (awaitPdu17_stage lasting_sentRandom smpOpRandom h).seq fun buf w hw => ?_
  exact wp_update.mpr (storeRandom_stage hw)

/-- 2i and 2j: the key is derived from random octets that agree with the confirm value. -/
theorem verify_stage
    (h : IfFits (Stage aes cfg (sentAfter cfg.sendSecurityReq 3) HasRandom) w) :
    wp env (do verifyConfirm aes; deriveStk aes)
      (StepTo aes cfg (sentAfter cfg.sendSecurityReq 3) (HasKey aes cfg)) w := by
  unfold verifyConfirm deriveStk
  apply wp_bind
  refine (wp_get_bind _).mpr (wp_ite (fun _ => wp_gotoReconnect.mpr (IfFits.ordered h))
    fun heq => ?_)
  have hconfirm := not_not.mp heq
  unfold Session.expectedConfirm at hconfirm
  refine (wp_pure _).mpr (wp_update.mpr ?_)
  have hkey : ∀ stk, stk = smpS1 aes w.s.smpTk w.s.smpMrand w.s.smpSrand →
      IfFits (Stage aes cfg (sentAfter cfg.sendSecurityReq 3) (HasKey aes cfg))
        (w.update fun s => { s with smpStk := stk }) := by
    intro stk hstk hfits
    have hs := h hfits
    have hgiven := hs.given
    simp only [Session.given, HostConfig.start, Session.new, Prod.mk.injEq] at hgiven
    obtain ⟨htk, hpt, hlt, hpa, hla⟩ := hgiven
    obtain ⟨handle, a, b, hos, ⟨⟨hreq, hrsp⟩, hconf⟩, hrand⟩ := hs.evidence
    have hpreq : w.s.smpPreq = preq := hreq
    rw [htk, hpt, hlt, hpa, hla, hpreq] at hconfirm
    rw [htk] at hstk
    exact ⟨hs.given, hs.obs, hs.sent, w.s.smpPres, w.s.smpMrand, w.s.smpSrand, w.s.smpSconfirm,
      handle, a, b, hos, hrsp, hconf, hrand, hconfirm, hstk⟩
  exact hkey _ rfl

/-- Phase 2 ends with a key that was verified. -/
theorem pair_stage (h : IfFits (Stage aes cfg [] fun _ _ => True) w) :
    wp env (pair aes cfg.sendSecurityReq)
      (StepTo aes cfg (sentAfter cfg.sendSecurityReq 3) (HasKey aes cfg)) w := by
  unfold pair
  refine (securityRequest_stage h).seq fun _ w h => ?_
  refine (pairingRequest_stage h).seq fun _ w h => ?_
  refine (awaitPairingResponse_stage h).seq fun _ w h => ?_
  refine (generateConfirm_stage h).seq fun _ w h => ?_
  refine (sendConfirm_stage h).seq fun _ w h => ?_
  refine (awaitConfirm_stage h).seq fun _ w h => ?_
  refine (sendRandom_stage h).seq fun _ w h => ?_
  refine (awaitRandom_stage h).seq fun _ w h => ?_
  exact verify_stage h

theorem ordered_ctl : CtlStable (IfFits (Ordered aes cfg)) :=
  fun e _ h => h.emit fun _ ho => ho.emit (silent_ctl e)

theorem ordered_update (g : Session → Session) (w : World) (hg : Session.Frames g)
    (h : IfFits (Ordered aes cfg) w) : IfFits (Ordered aes cfg) (w.update g) := fun hfits =>
  ⟨(hg w.s).2.2.trans (h hfits).given, (h hfits).obs, (h hfits).sent⟩

theorem ordered_setState (st : SessionState) (w : World) (h : IfFits (Ordered aes cfg) w) :
    IfFits (Ordered aes cfg) (w.setState st) := fun hfits =>
  have ho := (h hfits.of_append).emit (silent_state st)
  ⟨ho.given, ho.obs, ho.sent⟩

/-- Phase 3: LE Start Encryption is sent with the key. -/
theorem startEncryption_ordered
    (h : IfFits (Stage aes cfg (sentAfter cfg.sendSecurityReq 3) (HasKey aes cfg)) w) :
    wp env startEncryption (Post.all (IfFits (Ordered aes cfg))) w := by
  have hl := sentAfter_sequence cfg.sendSecurityReq 3
  unfold startEncryption
  apply (wp_get_bind _).mpr
  refine wp_hciUserSendCmd
    (fun w' => IfFits (Stage aes cfg (sentAfter cfg.sendSecurityReq 3) (HasKey aes cfg)) w' ∧
      w'.s.smpStk = w.s.smpStk)
    (fun e w' h' => ⟨stage_ctl hl lasting_hasKey e w' h'.1, h'.2⟩) ⟨h, rfl⟩
    (fun _ h' => IfFits.ordered h'.1) fun ok w' h' => ?_
  cases ok with
  | false =>
      refine wp_require_bind nofun fun _ => ?_
      refine (IfFits.ordered h'.1).emit fun _ ho => ho.emit ⟨rfl, by simp [Obs.smpSend]⟩
  | true =>
      refine wp_require_bind (fun _ => wp_setState.mpr (ordered_setState _ _ ?_)) nofun
      refine h'.1.emit fun _ hs => ?_
      have hkey : Verified aes cfg (iterObs w'.trace) w.s.smpStk := h'.2 ▸ hs.evidence
      have hl' : sentAfter cfg.sendSecurityReq 3 ++ [.startEncryption] <+:
          smpSequence cfg.sendSecurityReq := sentAfter_succ (n := 3) rfl _ ▸ sentAfter_sequence _ 4
      have hsent : Stage aes cfg (sentAfter cfg.sendSecurityReq 3 ++ [.startEncryption])
          (fun _ _ => True) (w'.emit (.command opStartEncryption
            (encryptionParams w.s.connHandle w.s.smpStk) true)) := by
        refine hs.send rfl rfl hl' nofun nofun ?_ fun _ => trivial
        rintro params heq
        cases heq
        exact ⟨w.s.connHandle, w.s.smpStk, rfl, hkey⟩
      exact hsent.ordered hl'

/-! ## The other phases -/

/-- A session starts with nothing sent. -/
theorem Ordered.begin (h : Ordered aes cfg w) : Stage aes cfg [] (fun _ _ => True) w.begin := by
  have hstart : SmpStep aes cfg w.trace .sessionStart := by
    refine ⟨?_, nofun, nofun, nofun⟩
    rw [iterObs_sessionStart]
    exact List.nil_prefix
  have hempty : Sw2d.sent (iterObs (w.trace ++ [.sessionStart])) = [] := by
    rw [iterObs_sessionStart]
    rfl
  refine ⟨h.given, ?_, by rw [iterObs_begin]; rfl, trivial⟩
  rw [World.begin_trace]
  refine everywhere_snoc.mpr ⟨everywhere_snoc.mpr ⟨h.obs, hstart⟩, (silent_state _).step ?_⟩
  rw [hempty]
  exact List.nil_prefix

theorem beginSession_stage (h : IfFits (Ordered aes cfg) w) :
    wp env beginSession (StepTo aes cfg [] fun _ _ => True) w := by
  have hbegin : IfFits (Stage aes cfg [] fun _ _ => True) w.begin :=
    fun hfits => (h hfits.of_append.of_append).begin
  have hctl : CtlStable (IfFits (Stage aes cfg [] fun _ _ => True)) :=
    stage_ctl List.nil_prefix lasting_true
  have hord : ∀ w, IfFits (Stage aes cfg [] fun _ _ => True) w → IfFits (Ordered aes cfg) w :=
    fun _ h => h.mono fun hs => hs.ordered List.nil_prefix
  have hset : ∀ w, IfFits (Stage aes cfg [] fun _ _ => True) w →
      IfFits (Stage aes cfg [] fun _ _ => True) (w.update fun s => { s with didCancel := true }) :=
    fun w hw hfits => ⟨(hw hfits).given, (hw hfits).obs, (hw hfits).sent, trivial⟩
  refine wp_beginSession _ _ hctl hctl hbegin hord hord (fun _ => hset _ hbegin) (fun ok w hw => ?_)
    (fun _ _ _ hw _ => stage_read List.nil_prefix lasting_true hw) hset
  exact hw.emit fun _ hs => hs.emit List.nil_prefix ⟨rfl, rfl⟩ fun _ => trivial

theorem connect_stage : Always env (IfFits (Stage aes cfg [] fun _ _ => True)) connect :=
  Always.connect (stage_ctl List.nil_prefix lasting_true)
    (fun _ w hg hw hfits =>
      ⟨(hg w.s).2.2.trans (hw hfits).given, (hw hfits).obs, (hw hfits).sent, trivial⟩)
    (fun _ _ hw hfits => ⟨(hw hfits).given, (hw hfits).obs, (hw hfits).sent, trivial⟩)
    (fun _ _ hw => hw.emit fun _ hs => hs.emit List.nil_prefix ⟨rfl, rfl⟩ fun _ => trivial)
    (fun _ _ _ hw _ _ => stage_read List.nil_prefix lasting_true hw)
    (fun _ _ _ hw _ _ _ => stage_setState List.nil_prefix lasting_true
      (stage_read List.nil_prefix lasting_true hw))
    fun _ hw => stage_setState List.nil_prefix lasting_true hw

theorem ordered_read {place : Place} {data : Octets} {f : Frame}
    (h : IfFits (Ordered aes cfg) w) : IfFits (Ordered aes cfg) (w.read place data f) :=
  h.emit fun _ ho => ho.emit (silent_read ..)

theorem quiet_ordered (cid : UInt16) : Quiet cid (IfFits (Ordered aes cfg)) where
  ctl := ordered_ctl
  update := ordered_update
  read _ _ _ h _ _ := ordered_read h
  encrypted _ _ _ h _ _ := ordered_setState _ _ (ordered_read h)
  delivered _ _ _ h := h.emit fun _ ho => ho.emit ⟨rfl, rfl⟩
  notDelivered _ h := h.emit fun _ ho => ho.emit ⟨rfl, rfl⟩

theorem awaitEncryption_ordered : Always env (IfFits (Ordered aes cfg)) awaitEncryption :=
  Always.awaitEncryption ordered_ctl ordered_update
    (fun _ _ _ h => h.emit fun _ ho => ho.emit ⟨rfl, rfl⟩) (fun _ _ _ h _ => ordered_read h)
    (ordered_setState _)

/-- Phase 3 sends LE Start Encryption with the verified key. -/
theorem encrypt_ordered
    (h : IfFits (Stage aes cfg (sentAfter cfg.sendSecurityReq 3) (HasKey aes cfg)) w) :
    wp env encrypt (Post.all (IfFits (Ordered aes cfg))) w := by
  unfold encrypt
  exact (startEncryption_ordered h).seq fun _ w h => awaitEncryption_ordered w h

theorem attPhase_ordered : Always env (IfFits (Ordered aes cfg)) attPhase :=
  (quiet_ordered attCid).attPhase (fun _ _ _ h => h.emit fun _ ho => ho.emit ⟨rfl, rfl⟩)
    (fun _ _ h => h.emit fun _ ho => ho.emit ⟨rfl, rfl⟩)
    (fun _ _ h => h.emit fun _ ho => ho.emit ⟨rfl, rfl⟩)
    (fun _ _ _ h => h.emit fun _ ho => ho.emit ⟨rfl, rfl⟩) ordered_setState

theorem receiveReports_ordered : Always env (IfFits (Ordered aes cfg)) receiveReports :=
  Always.receiveReports ordered_ctl ordered_update fun _ _ _ h _ => ordered_read h

/-- An iteration keeps the order. -/
theorem iteration_ordered (h : IfFits (Ordered aes cfg) w) :
    wp env (iteration aes cfg.sendSecurityReq) (Post.all (IfFits (Ordered aes cfg))) w := by
  have hord : ∀ w, IfFits (Stage aes cfg [] fun _ _ => True) w → IfFits (Ordered aes cfg) w :=
    fun _ h => h.mono fun hs => hs.ordered List.nil_prefix
  unfold iteration
  refine (beginSession_stage h).seq fun _ w h => ?_
  refine connect_stage.wp_bind h (fun _ w h => ?_) (fun _ => hord) hord
  refine (pair_stage h).seq fun _ w h => ?_
  refine (encrypt_ordered h).seq fun _ w h => ?_
  refine (attPhase_ordered w h).seq fun _ w h => ?_
  exact receiveReports_ordered w h

/-- **In a run whose deliveries fit their buffers, the pairing is in order: each step of it waits
for what it answers, and LE Start Encryption for random octets that agree with the peer's confirm
value.** -/
theorem smpOrder (aes : Block → Block → Block) (cfg : HostConfig) (env : HostEnv) (budget : ℕ)
    (hfits : Everywhere FitsAt (hostRun aes cfg env budget).trace) :
    Everywhere (SmpStep aes cfg) (hostRun aes cfg env budget).trace := by
  have hend : ∀ w, IfFits (Ordered aes cfg) w → IfFits (Ordered aes cfg) (w.emit .reconnect) :=
    fun _ h => h.emit fun _ ho => ho.emit ⟨rfl, rfl⟩
  have hstart : IfFits (Ordered aes cfg) cfg.start :=
    fun _ => ⟨rfl, everywhere_nil, List.nil_prefix⟩
  exact (hostRun_of_iteration ordered_ctl (fun _ h => h) hend (fun _ hw => iteration_ordered hw)
    hstart budget hfits).obs

/-- A pairing that comes as far as LE Start Encryption. -/
theorem smpOrder_pairing : (hostRun BlockCipher.identity.enc publicConfig
      (HostEnv.scripted 0 pairingScript []) 40).trace.filterMap Obs.smpSend =
        smpSequence false ∧
    Everywhere (SmpStep BlockCipher.identity.enc publicConfig)
      (hostRun BlockCipher.identity.enc publicConfig (HostEnv.scripted 0 pairingScript [])
      40).trace :=
  ⟨by decide +kernel, smpOrder _ publicConfig (HostEnv.scripted 0 pairingScript []) 40
    (by decide +kernel)⟩

end Switch2Bt.Sw2d
