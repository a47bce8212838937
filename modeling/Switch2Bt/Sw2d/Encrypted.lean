import Switch2Bt.Sw2d.Rules

/-!
# ATT only on an encrypted link (`sw2d_final.c`)

An Encryption Change is recognised in three places, by the fields the frame parser left: none of
them looks at the octet that says whether encryption was switched on, and one does not look at the
handle. The ATT phase is entered on an encrypted link only, and `s.state` is at `STATE_ENCRYPTED`
or later on such a link only, in every run in which each event taken for a success is one
(`encryptedOnly_of_genuine`). A run in which the controller reports that encryption was switched
off sends ATT requests in the clear (`not_encryptedOnly_switchedOff`).
-/

namespace Switch2Bt.Sw2d

open Await Octets

/-- `STATE_ENCRYPTED` or later. -/
def SessionState.isEncrypted : SessionState → Bool
  | .encrypted | .attReady | .gattReady | .notificationsEnabled | .uhidRunning => true
  | _ => false

/-- An Encryption Change of at least four parameter octets: success, for the connection, and
encryption is on. -/
def IsEncryptionOn (handle : UInt16) (data : Octets) : Prop :=
  7 ≤ data.length ∧ data.octet 0 = hciEventPkt ∧ data.octet 1 = evtEncryptChange ∧
    4 ≤ data.octet 2 ∧ data.octet 3 = 0x00 ∧ getLe16 data 4 &&& 0x0fff = handle ∧
    data.octet 6 ≠ 0x00

instance (handle : UInt16) (data : Octets) : Decidable (IsEncryptionOn handle data) :=
  inferInstanceAs (Decidable (_ ∧ _))

/-- LE Start Encryption was sent, and then encryption reported for the connection. -/
def Encrypted (handle : UInt16) (os : List Obs) : Prop :=
  ∃ a params b, os = a ++ .command opStartEncryption params true :: b ∧
    ∃ place h data f, .read place h data f ∈ b ∧ IsEncryptionOn handle data

/-- A frame that is taken for the success of the encryption, in a place that looks for it. -/
def TakenAsEncrypted (place : Place) (handle : UInt16) (f : Frame) : Prop :=
  f.isEncryptSuccess ∧
    (place = .rxAwaitAcl ∨ (place = .rxAwait ∨ place = .encryption) ∧ f.handle = handle)

/-- A frame is taken for the success of the encryption only once there was one. -/
def GenuineAt (pre : List Obs) (o : Obs) : Prop :=
  ∀ place handle data f, o = .read place handle data f → TakenAsEncrypted place handle f →
    Encrypted handle (iterObs (pre ++ [o]))

/-- ATT data is sent, and an encrypted state assigned, after the encryption only. -/
def AfterEncryption (pre : List Obs) (o : Obs) : Prop :=
  (∀ handle data ok, o = .acl handle attCid data ok → Encrypted handle (iterObs pre)) ∧
    (∀ st, o = .state st → st.isEncrypted = true → ∃ handle, Encrypted handle (iterObs pre))

/-- ATT data was sent on encrypted links only, and the state is that of the link. -/
structure EncryptedOnly (w : World) : Prop where
  obs : Everywhere AfterEncryption w.trace
  state : w.s.state.isEncrypted = true → Encrypted w.s.connHandle (iterObs w.trace)

/-! ## Observations -/

/-- The octets of a read. -/
def Obs.readOctets : Obs → Octets
  | .read _ _ data _ => data
  | _ => []

/-- Whether LE Start Encryption was sent. -/
def Obs.isStartEncryption : Obs → Bool
  | .command opcode _ ok => opcode == opStartEncryption && ok
  | _ => false

variable {w : World} {o : Obs} {handle : UInt16} {os : List Obs}

/-- An observation that starts no session, sends no ATT data and assigns no encrypted state. -/
structure Harmless (o : Obs) : Prop where
  start : o.isStart = false
  acl : ∀ handle data ok, o ≠ .acl handle attCid data ok
  state : ∀ st, o = .state st → st.isEncrypted = false

/-- What was observed before stays. -/
theorem Encrypted.append (h : Encrypted handle os) (os' : List Obs) :
    Encrypted handle (os ++ os') := by
  obtain ⟨a, params, b, rfl, place, h', data, f, hmem, hon⟩ := h
  refine ⟨a, params, b ++ os', by simp, place, h', data, f, ?_, hon⟩
  exact List.mem_append_left _ hmem

/-- There is no encryption without LE Start Encryption. -/
theorem Encrypted.started (h : Encrypted handle os) :
    ∃ params, .command opStartEncryption params true ∈ os := by
  obtain ⟨a, params, b, rfl, -⟩ := h
  exact ⟨params, by simp⟩

theorem Obs.isEncryptionOn_readOctets {o : Obs} (h : IsEncryptionOn handle o.readOctets) :
    ∃ place h' data f, o = .read place h' data f ∧ IsEncryptionOn handle data := by
  cases o with
  | read place h' data f => exact ⟨place, h', data, f, rfl, h⟩
  | _ => exact absurd h.1 (Nat.not_succ_le_zero _)

theorem Obs.isStartEncryption_iff {o : Obs} :
    o.isStartEncryption = true ↔ ∃ params, o = .command opStartEncryption params true := by
  cases o with
  | command opcode params ok => simp [isStartEncryption]
  | _ => simp [isStartEncryption]

/-- Whether there was an encryption is decided after the first LE Start Encryption. -/
theorem encrypted_iff : Encrypted handle os ↔
    ∃ o ∈ (os.dropWhile fun o => !o.isStartEncryption).tail,
      IsEncryptionOn handle o.readOctets := by
  constructor
  · rintro ⟨a, params, b, rfl, place, h, data, f, hmem, hon⟩
    refine ⟨.read place h data f, ?_, hon⟩
    induction a with
    | nil => simpa [Obs.isStartEncryption] using hmem
    | cons x a ih =>
        by_cases hx : x.isStartEncryption = true
        · simp [hx, hmem]
        · simpa [hx] using ih
  · intro h
    induction os with
    | nil => simp at h
    | cons x os ih =>
        by_cases hx : x.isStartEncryption = true
        · -- the first LE Start Encryption
          obtain ⟨params, rfl⟩ := Obs.isStartEncryption_iff.mp hx
          obtain ⟨o, hmem, hon⟩ := h
          obtain ⟨place, h', data, f, rfl, hon⟩ := Obs.isEncryptionOn_readOctets hon
          exact ⟨[], params, os, rfl, place, h', data, f, by simpa [hx] using hmem, hon⟩
        · obtain ⟨a, params, b, hb, hread⟩ := ih (by simpa [hx] using h)
          exact ⟨x :: a, params, b, by rw [hb, List.cons_append], hread⟩

instance : Decidable (Encrypted handle os) := decidable_of_iff _ encrypted_iff.symm

instance (place : Place) (handle : UInt16) (f : Frame) :
    Decidable (TakenAsEncrypted place handle f) := inferInstanceAs (Decidable (_ ∧ _))

instance (pre : List Obs) (o : Obs) : Decidable (GenuineAt pre o) :=
  match o with
  | .read place handle data f =>
      decidable_of_iff (TakenAsEncrypted place handle f →
        Encrypted handle (iterObs (pre ++ [.read place handle data f])))
        ⟨fun h _ _ _ _ heq => by cases heq; exact h, fun h => h place handle data f rfl⟩
  | .sessionStart | .state _ | .command .. | .acl .. | .delivered .. | .notDelivered _
  | .attStep _ | .attMtu _ | .services .. | .reconnect | .ctl _ =>
      isTrue fun _ _ _ _ heq => by cases heq

theorem Encrypted.emit (h : Encrypted handle (iterObs w.trace)) (ho : o.isStart = false) :
    Encrypted handle (iterObs (w.emit o).trace) := by
  rw [World.emit_trace, iterObs_snoc ho]
  exact h.append [o]

theorem Harmless.after (ho : Harmless o) {pre : List Obs} : AfterEncryption pre o := by
  constructor
  · rintro h data ok rfl
    exact absurd rfl (ho.acl h data ok)
  · rintro st rfl hst
    rw [ho.state st rfl] at hst
    cases hst

/-! ## The three stages of an iteration -/

/-- Before LE Start Encryption. -/
structure Before (w : World) : Prop where
  notStarted : ∀ params, .command opStartEncryption params true ∉ iterObs w.trace
  state : w.s.state.isEncrypted = false
  obs : Everywhere AfterEncryption w.trace

/-- After the encryption. -/
structure Opened (w : World) : Prop where
  encrypted : Encrypted w.s.connHandle (iterObs w.trace)
  obs : Everywhere AfterEncryption w.trace

/-- What holds in a run in which every success is one. -/
abbrev IfGenuine : (World → Prop) → World → Prop := Under GenuineAt

theorem Before.only (h : Before w) : EncryptedOnly w :=
  ⟨h.obs, fun hst => absurd (h.state.symm.trans hst) (by decide)⟩

theorem Opened.only (h : Opened w) : EncryptedOnly w := ⟨h.obs, fun _ => h.encrypted⟩

theorem Before.emit (h : Before w) (ho : Harmless o)
    (hcmd : ∀ params, o ≠ .command opStartEncryption params true) : Before (w.emit o) := by
  refine ⟨fun params => ?_, h.state, everywhere_snoc.mpr ⟨h.obs, ho.after⟩⟩
  rw [World.emit_trace, iterObs_snoc ho.start, List.mem_append, List.mem_singleton]
  rintro (hmem | heq)
  · exact h.notStarted params hmem
  · exact hcmd params heq.symm

theorem EncryptedOnly.emit (h : EncryptedOnly w) (ho : Harmless o) : EncryptedOnly (w.emit o) :=
  ⟨everywhere_snoc.mpr ⟨h.obs, ho.after⟩, fun hst => (h.state hst).emit ho.start⟩

theorem Opened.emit (h : Opened w) (ho : Harmless o) : Opened (w.emit o) :=
  ⟨h.encrypted.emit ho.start, everywhere_snoc.mpr ⟨h.obs, ho.after⟩⟩

/-- After the encryption, ATT data may be sent and any state assigned. -/
theorem Opened.emit_of_handle (h : Opened w) (hstart : o.isStart = false)
    (hacl : ∀ handle data ok, o = .acl handle attCid data ok → handle = w.s.connHandle) :
    Opened (w.emit o) := by
  refine ⟨h.encrypted.emit hstart, everywhere_snoc.mpr ⟨h.obs, ?_, fun _ _ _ => ⟨_, h.encrypted⟩⟩⟩
  intro handle data ok ho
  rw [hacl handle data ok ho]
  exact h.encrypted

theorem harmless_ctl (e : CtlEvent) : Harmless (.ctl e) := ⟨rfl, nofun, nofun⟩

theorem harmless_read (place : Place) (h : UInt16) (data : Octets) (f : Frame) :
    Harmless (.read place h data f) := ⟨rfl, nofun, nofun⟩

theorem harmless_command (opcode : UInt16) (params : Octets) (ok : Bool) :
    Harmless (.command opcode params ok) := ⟨rfl, nofun, nofun⟩

theorem harmless_state {st : SessionState} (h : st.isEncrypted = false) : Harmless (.state st) :=
  ⟨rfl, nofun, fun _ heq => Obs.state.inj heq ▸ h⟩

theorem Before.setState {st : SessionState} (h : Before w) (hst : st.isEncrypted = false) :
    Before (w.setState st) := by
  have hemit := h.emit (harmless_state hst) nofun
  exact ⟨hemit.notStarted, hst, hemit.obs⟩

theorem ifGenuine_before_ctl : CtlStable (IfGenuine Before) :=
  fun e _ h => h.emit fun _ hb => hb.emit (harmless_ctl e) nofun

theorem ifGenuine_before_update (g : Session → Session) (w : World) (hg : Session.Frames g)
    (h : IfGenuine Before w) : IfGenuine Before (w.update g) := fun hgen =>
  ⟨(h hgen).notStarted, (congrArg _ (hg w.s).2.1).trans (h hgen).state, (h hgen).obs⟩

theorem ifGenuine_before_read {place : Place} {data : Octets} {f : Frame}
    (h : IfGenuine Before w) : IfGenuine Before (w.read place data f) :=
  h.emit fun _ hb => hb.emit (harmless_read ..) nofun

/-- Before LE Start Encryption nothing is taken for its success. -/
theorem ifGenuine_before_taken {place : Place} {data : Octets} {f : Frame}
    (h : IfGenuine Before w) (ht : TakenAsEncrypted place w.s.connHandle f) :
    IfGenuine Before ((w.read place data f).setState .encrypted) := by
  intro hgen
  have hread := (everywhere_snoc.mp hgen).1
  have henc := (everywhere_snoc.mp hread).2 place _ data f rfl ht
  obtain ⟨params, hmem⟩ := henc.started
  exact absurd hmem ((ifGenuine_before_read h hread).notStarted params)

/-- Waiting for ACL data before LE Start Encryption. -/
theorem quiet_before (cid : UInt16) : Quiet cid (IfGenuine Before) where
  ctl := ifGenuine_before_ctl
  update := ifGenuine_before_update
  read _ _ _ h _ _ := ifGenuine_before_read h
  encrypted _ _ _ h _ henc := ifGenuine_before_taken h ⟨henc, .inl rfl⟩
  delivered _ _ _ h := h.emit fun _ hb => hb.emit ⟨rfl, nofun, nofun⟩ nofun
  notDelivered _ h := h.emit fun _ hb => hb.emit ⟨rfl, nofun, nofun⟩ nofun

theorem ifGenuine_opened_ctl : CtlStable (IfGenuine Opened) :=
  fun e _ h => h.emit fun _ ho => ho.emit (harmless_ctl e)

theorem ifGenuine_opened_update (g : Session → Session) (w : World) (hg : Session.Frames g)
    (h : IfGenuine Opened w) : IfGenuine Opened (w.update g) := fun hgen =>
  ⟨(hg w.s).1.symm ▸ (h hgen).encrypted, (h hgen).obs⟩

theorem ifGenuine_opened_read {place : Place} {data : Octets} {f : Frame}
    (h : IfGenuine Opened w) : IfGenuine Opened (w.read place data f) :=
  h.emit fun _ ho => ho.emit (harmless_read ..)

/-- After the encryption any state may be assigned. -/
theorem ifGenuine_opened_setState (st : SessionState) (w : World) (h : IfGenuine Opened w) :
    IfGenuine Opened (w.setState st) := by
  intro hgen
  have ho := (h hgen.of_append).emit_of_handle (o := .state st) rfl nofun
  exact ⟨ho.encrypted, ho.obs⟩

/-- Waiting for ACL data after the encryption. -/
theorem quiet_opened (cid : UInt16) : Quiet cid (IfGenuine Opened) where
  ctl := ifGenuine_opened_ctl
  update := ifGenuine_opened_update
  read _ _ _ h _ _ := ifGenuine_opened_read h
  encrypted _ _ _ h _ _ := ifGenuine_opened_setState _ _ (ifGenuine_opened_read h)
  delivered _ _ _ h := h.emit fun _ ho => ho.emit ⟨rfl, nofun, nofun⟩
  notDelivered _ h := h.emit fun _ ho => ho.emit ⟨rfl, nofun, nofun⟩

/-! ## The steps of an iteration -/

variable {env : HostEnv} {aes : Block → Block → Block}

/-- A session starts unencrypted. -/
theorem EncryptedOnly.begin (h : EncryptedOnly w) : Before w.begin := by
  refine ⟨fun params => ?_, rfl, ?_⟩
  · rw [iterObs_begin]
    exact fun hmem => nomatch List.mem_singleton.mp hmem
  · have hstart : Harmless (.state .disconnected) := harmless_state rfl
    exact everywhere_snoc.mpr
      ⟨everywhere_snoc.mpr ⟨h.obs, by constructor <;> exact nofun⟩, hstart.after⟩

theorem beginSession_before (h : IfGenuine EncryptedOnly w) :
    wp env beginSession (Post.all (IfGenuine Before)) w := by
  have hbegin : IfGenuine Before w.begin := fun hgen => (h hgen.of_append.of_append).begin
  have hset : ∀ w, IfGenuine Before w →
      IfGenuine Before (w.update fun s => { s with didCancel := true }) :=
    fun w hw => ifGenuine_before_update _ w (fun _ => ⟨rfl, rfl, rfl⟩) hw
  refine wp_beginSession (IfGenuine Before) (IfGenuine Before) ifGenuine_before_ctl
    ifGenuine_before_ctl hbegin (fun _ h => h) (fun _ h => h) (fun _ => hset _ hbegin) ?_
    (fun _ _ _ h _ => ifGenuine_before_read h) hset
  exact fun ok w hw => hw.emit fun _ hb => hb.emit (harmless_command ..) nofun

theorem connect_before : Always env (IfGenuine Before) connect :=
  Always.connect ifGenuine_before_ctl ifGenuine_before_update
    (fun _ _ hw hgen => ⟨(hw hgen).notStarted, (hw hgen).state, (hw hgen).obs⟩)
    (fun _ _ hw => hw.emit fun _ hb => hb.emit (harmless_command ..) nofun)
    (fun _ _ _ hw _ _ => ifGenuine_before_read hw)
    (fun _ _ _ hw _ henc hh => ifGenuine_before_taken hw ⟨henc, .inr ⟨.inl rfl, hh⟩⟩)
    fun _ hw hgen => (hw hgen.of_append).setState rfl

theorem pair_before (b : Bool) : Always env (IfGenuine Before) (pair aes b) := by
  refine (quiet_before smpCid).pair aes (fun handle data ok w hw => ?_) (fun st w hw hst => ?_) b
  · refine hw.emit fun _ hb => hb.emit ⟨rfl, fun h d k heq => ?_, nofun⟩ nofun
    cases heq
  · intro hgen
    apply (hw hgen.of_append).setState
    rcases hst with rfl | rfl <;> rfl

theorem ifGenuine_only_ctl : CtlStable (IfGenuine EncryptedOnly) :=
  fun e _ h => h.emit fun _ he => he.emit (harmless_ctl e)

/-- A frame taken for the success of the encryption, after which there was one. -/
theorem opened_of_taken {place : Place} {data : Octets} {f : Frame}
    (h : IfGenuine EncryptedOnly w) (ht : TakenAsEncrypted place w.s.connHandle f) :
    IfGenuine Opened (w.read place data f) := by
  intro hgen
  have henc := (everywhere_snoc.mp hgen).2 place _ data f rfl ht
  exact ⟨henc, everywhere_snoc.mpr ⟨(h hgen.of_append).obs, (harmless_read ..).after⟩⟩

/-- The wait for the encryption, whose result says whether there was one. -/
def Waiting (encrypted : Bool) (w : World) : Prop :=
  IfGenuine EncryptedOnly w ∧ (encrypted = true → IfGenuine Opened w)

theorem waiting_ctl (encrypted : Bool) : CtlStable (Waiting encrypted) :=
  fun e w h => ⟨ifGenuine_only_ctl e w h.1, fun he => ifGenuine_opened_ctl e w (h.2 he)⟩

theorem encryptionFrame_waiting {f : Frame} {data : Octets} (h : IfGenuine EncryptedOnly w) :
    wp env (encryptionFrame f) ⟨Waiting, fun _ => IfGenuine EncryptedOnly,
      IfGenuine EncryptedOnly⟩ (w.read .encryption data f) := by
  have hread : IfGenuine EncryptedOnly (w.read .encryption data f) :=
    h.emit fun _ he => he.emit (harmless_read ..)
  have hwait : Waiting (decide (f.isEncryptSuccess ∧ f.handle = w.s.connHandle))
      (w.read .encryption data f) := by
    refine ⟨hread, fun he => opened_of_taken h ?_⟩
    have hboth := of_decide_eq_true he
    exact ⟨hboth.1, .inr ⟨.inr rfl, hboth.2⟩⟩
  unfold encryptionFrame
  refine (wp_get_bind _).mpr (wp_ite (fun _ => wp_gotoReconnect.mpr hread) fun _ => ?_)
  refine wp_ite (fun _ => ?_) fun _ => (wp_pure _).mpr hwait
  refine wp_hciUserSendCmd (Waiting _) (waiting_ctl _) hwait (fun _ h => h.1) fun ok w hw => ?_
  refine (wp_pure _).mpr ⟨hw.1.emit fun _ he => he.emit (harmless_command ..), fun he => ?_⟩
  exact (hw.2 he).emit fun _ ho => ho.emit (harmless_command ..)

/-- One turn of the wait for the encryption. -/
theorem encryptionStep_waiting {deadline : ℤ} {encrypted : Bool} (h : Waiting encrypted w) :
    wp env (encryptionStep deadline encrypted) ⟨fun x => Waiting (Sum.elim id id x),
      fun _ => IfGenuine EncryptedOnly, IfGenuine EncryptedOnly⟩ w := by
  have hsus : ∀ w, Waiting encrypted w → IfGenuine EncryptedOnly w := fun _ h => h.1
  unfold encryptionStep
  refine wp_nowMs _ (waiting_ctl encrypted) h hsus fun now w hw => ?_
  refine wp_ite (fun _ => (wp_pure _).mpr hw) fun _ => ?_
  refine wp_gRunning _ (waiting_ctl encrypted) hw hsus fun running w hw => ?_
  refine wp_ite (fun _ => (wp_pure _).mpr hw) fun _ => wp_indeterminate fun f => ?_
  refine wp_hciUserReadFrame _ ifGenuine_only_ctl hw.1 (fun _ h => h)
    (fun _ hw => (wp_pure _).mpr ⟨hw, nofun⟩) fun data f w hw _ => ?_
  exact (encryptionFrame_waiting hw).seq fun b w hw => (wp_pure _).mpr hw

theorem IfGenuine.only_setState {st : SessionState} (h : IfGenuine EncryptedOnly w)
    (hst : st.isEncrypted = false) : IfGenuine EncryptedOnly (w.setState st) := fun hgen =>
  ⟨everywhere_snoc.mpr ⟨(h hgen.of_append).obs, (harmless_state hst).after⟩,
    fun he => (Bool.false_ne_true (hst.symm.trans he)).elim⟩

theorem startEncryption_only (h : IfGenuine Before w) :
    wp env startEncryption (Post.all (IfGenuine EncryptedOnly)) w := by
  unfold startEncryption
  apply (wp_get_bind _).mpr
  refine wp_hciUserSendCmd _ ifGenuine_before_ctl h (fun _ h => h.mono Before.only)
    fun ok w hw => ?_
  have hsent : ∀ {params},
      IfGenuine EncryptedOnly (w.emit (.command opStartEncryption params ok)) :=
    hw.emit fun _ hb => hb.only.emit (harmless_command ..)
  exact wp_require_bind (fun _ => wp_setState.mpr (hsent.only_setState rfl)) fun _ => hsent

/-- Phase 3 ends encrypted. -/
theorem encrypt_opened (h : IfGenuine Before w) :
    wp env encrypt ⟨fun _ => IfGenuine Opened, fun _ => IfGenuine EncryptedOnly,
      IfGenuine EncryptedOnly⟩ w := by
  unfold encrypt
  refine (startEncryption_only h).seq fun _ w hw => ?_
  unfold awaitEncryption
  refine wp_nowMs _ ifGenuine_only_ctl hw (fun _ h => h) fun now w hw => ?_
  refine wp_bind (wp_loop Waiting (fun _ _ h => h.1) (fun b w hw => ?_) ⟨hw, nofun⟩)
  · refine (encryptionStep_waiting hw).mono (fun x w hw => ?_) (fun _ _ h => h) fun _ h => h
    rcases x with b | b
    · exact hw
    · refine wp_require_bind (fun hb => wp_setState_bind.mpr (wp_update.mpr ?_)) fun _ => hw.1
      exact ifGenuine_opened_update _ _ (fun _ => ⟨rfl, rfl, rfl⟩)
        (ifGenuine_opened_setState .encrypted _ (hw.2 hb))

theorem attPhase_opened : Always env (IfGenuine Opened) attPhase := by
  refine (quiet_opened attCid).attPhase (fun data ok w hw => ?_) ?_ ?_ ?_
    ifGenuine_opened_setState
  · refine hw.emit fun _ ho => ho.emit_of_handle rfl fun h d k heq => ?_
    cases heq
    rfl
  · exact fun _ _ hw => hw.emit fun _ ho => ho.emit ⟨rfl, nofun, nofun⟩
  · exact fun _ _ hw => hw.emit fun _ ho => ho.emit ⟨rfl, nofun, nofun⟩
  · exact fun _ _ _ hw => hw.emit fun _ ho => ho.emit ⟨rfl, nofun, nofun⟩

theorem receiveReports_opened : Always env (IfGenuine Opened) receiveReports :=
  Always.receiveReports ifGenuine_opened_ctl ifGenuine_opened_update
    fun _ _ _ hw _ => ifGenuine_opened_read hw

/-- An iteration keeps the link's secrecy in a run in which every success is one. -/
theorem iteration_encryptedOnly (b : Bool) (h : IfGenuine EncryptedOnly w) :
    wp env (iteration aes b) (Post.all (IfGenuine EncryptedOnly)) w := by
  have hb : ∀ {w}, IfGenuine Before w → IfGenuine EncryptedOnly w := fun h => h.mono Before.only
  have ho : ∀ {w}, IfGenuine Opened w → IfGenuine EncryptedOnly w := fun h => h.mono Opened.only
  unfold iteration
  refine wp_bind ((beginSession_before h).mono (fun _ w hw => ?_) (fun _ _ => hb) fun _ => hb)
  refine connect_before.wp_bind hw (fun _ w hw => ?_) (fun _ _ => hb) fun _ => hb
  refine (pair_before b).wp_bind hw (fun _ w hw => ?_) (fun _ _ => hb) fun _ => hb
  refine (encrypt_opened hw).seq fun _ w hw => ?_
  refine attPhase_opened.wp_bind hw (fun _ w hw => ?_) (fun _ _ => ho) fun _ => ho
  exact (receiveReports_opened w hw).mono (fun _ _ => ho) (fun _ _ => ho) fun _ => ho

/-- **In a run in which every Encryption Change that is taken for a success is one, ATT data is
sent and an encrypted state assigned on an encrypted link only.** -/
theorem encryptedOnly_of_genuine (cfg : HostConfig) (budget : ℕ)
    (hgen : Everywhere GenuineAt (hostRun aes cfg env budget).trace) :
    EncryptedOnly (hostRun aes cfg env budget) := by
  have hend : ∀ w, IfGenuine EncryptedOnly w → IfGenuine EncryptedOnly (w.emit .reconnect) :=
    fun _ h => h.emit fun _ he => he.emit ⟨rfl, nofun, nofun⟩
  have hstart : IfGenuine EncryptedOnly cfg.start :=
    fun _ => ⟨everywhere_nil, fun h => (Bool.false_ne_true h).elim⟩
  exact hostRun_of_iteration ifGenuine_only_ctl (fun _ h => h) hend
    (fun _ hw => iteration_encryptedOnly _ hw) hstart budget hgen

/-- A run in which the controller reports that encryption was switched on. -/
def switchedOnRun : World :=
  hostRun BlockCipher.identity.enc publicConfig
    (HostEnv.scripted 0 (pairingScript ++ [(35, encryptionChangeFrame 0x01)]) []) 40

/-- A run in which the controller reports that encryption was switched off. -/
def switchedOffRun : World :=
  hostRun BlockCipher.identity.enc publicConfig
    (HostEnv.scripted 0 (pairingScript ++ [(35, encryptionChangeFrame 0x00)]) []) 40

/-- The first sends ATT data, on an encrypted link. -/
theorem encryptedOnly_switchedOn :
    .acl 0x0040 attCid [attOpMtuReq, 0xFF, 0x00] true ∈ switchedOnRun.trace ∧
      EncryptedOnly switchedOnRun :=
  ⟨by decide +kernel, encryptedOnly_of_genuine publicConfig 40 (by decide +kernel)⟩

/-- The second sends the same data, in the clear. -/
theorem not_encryptedOnly_switchedOff : ¬EncryptedOnly switchedOffRun := by
  intro h
  have hsent : .acl 0x0040 attCid [attOpMtuReq, 0xFF, 0x00] true ∈ switchedOffRun.trace := by
    decide +kernel
  obtain ⟨pre, post, htr⟩ := List.append_of_mem hsent
  have henc := (h.obs pre _ post htr).1 0x0040 _ _ rfl
  obtain ⟨o, hmem, hon⟩ := encrypted_iff.mp henc
  have hno : ∀ o ∈ switchedOffRun.trace, ¬IsEncryptionOn 0x0040 o.readOctets := by decide +kernel
  have hiter : o ∈ iterObs pre := (List.dropWhile_suffix _).mem (List.mem_of_mem_tail hmem)
  refine hno o ?_ hon
  rw [htr]
  exact List.mem_append_left _ (mem_of_mem_since hiter)

end Switch2Bt.Sw2d
