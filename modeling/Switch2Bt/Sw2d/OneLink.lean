import Switch2Bt.Sw2d.Controller

/-!
# One link at a time (`sw2d_final.c`, reconnect loop)

The loop never closes a link: whatever leaves an iteration leaves its link open, and the Cancel at
the next session start acts on a pending creation only. LE Create Connection is sent with no
earlier link open and no earlier creation pending and not cancelled in every run in which a session
starts with the last link closed and its success read, no creation succeeds after its iteration,
and no Cancel that is needed is lost (`oneLink_of_tidy`). A peer that connects and does not answer
the Pairing Request leaves its link open (`not_oneLink_silentPeer`).
-/

namespace Switch2Bt.Sw2d

open Await Octets

/-- LE Create Connection is sent. -/
def Obs.creates : Obs → Bool
  | .command opcode _ ok => opcode == opCreateConn && ok
  | _ => false

/-- LE Create Connection is sent with no earlier link open, and no earlier creation pending that
was not cancelled. -/
def OneLinkAt (pre : List Obs) (o : Obs) : Prop :=
  o.creates = true → ∀ c ∈ controller pre, (∀ l ∈ c.links, ¬l.2 < c.attempt) ∧
    ∀ p ∈ c.pending, p.1 < c.attempt → p.2 = true

instance (pre : List Obs) (o : Obs) : Decidable (OneLinkAt pre o) :=
  inferInstanceAs (Decidable (_ → _))

/-- A successful LE Connection Complete. -/
def Tag.isSuccess : Tag → Bool
  | .connComplete _ status => status == 0x00
  | _ => false

/-- No link is open and no successful completion is unread. -/
def Ctl.Unlinked (c : Ctl) : Prop := c.links = [] ∧ ∀ q ∈ c.queue, q.tag.isSuccess = false

instance (c : Ctl) : Decidable c.Unlinked := inferInstanceAs (Decidable (_ ∧ _))

/-- Whatever is pending was cancelled. -/
def Ctl.Cancelled (c : Ctl) : Prop := ∀ p ∈ c.pending, p.2 = true

instance (c : Ctl) : Decidable c.Cancelled :=
  inferInstanceAs (Decidable (∀ p ∈ c.pending, p.2 = true))

/-- A session starts when the link of the one before is closed and its successful completion read;
a creation succeeds in its own iteration only; the Cancel can be sent, unless it is of no use. -/
def TidyAt (pre : List Obs) : Obs → Prop
  | .sessionStart => ∀ c ∈ controller pre, c.Unlinked
  | .ctl (.connComplete attempt status _ _) =>
      status = 0x00 → ∀ c ∈ controller pre, attempt = c.attempt
  | .command opcode _ ok =>
      opcode = opCancelConn → ok = false → ∀ c ∈ controller pre, c.Cancelled
  | _ => True

instance (pre : List Obs) (o : Obs) : Decidable (TidyAt pre o) :=
  match o with
  | .sessionStart => inferInstanceAs (Decidable (∀ c ∈ controller pre, c.Unlinked))
  | .ctl (.connComplete attempt status _ _) =>
      inferInstanceAs (Decidable (status = 0x00 → ∀ c ∈ controller pre, attempt = c.attempt))
  | .command opcode _ ok => inferInstanceAs (Decidable
      (opcode = opCancelConn → ok = false → ∀ c ∈ controller pre, c.Cancelled))
  | .ctl (.cancelComplete _) | .ctl (.closed ..) | .ctl (.other _) | .reconnect | .state _
  | .acl .. | .read .. | .delivered .. | .notDelivered _ | .attStep _ | .attMtu _
  | .services .. => isTrue trivial

/-- Before LE Create Connection: everything is of earlier attempts. -/
structure Ctl.Ready (c : Ctl) : Prop where
  unlinked : c.Unlinked
  each : c.Each fun a => a < c.attempt

/-- After LE Create Connection: what is not cancelled is the creation of this attempt, and it is
no longer pending once it completed. -/
structure Ctl.Trying (c : Ctl) : Prop where
  pending : ∀ p ∈ c.pending, p.1 = c.attempt ∨ p.2 = true
  success : ∀ q ∈ c.queue, ∀ a, q.tag = .connComplete a 0x00 → a = c.attempt
  completed : ∀ q ∈ c.queue, ∀ status, q.tag = .connComplete c.attempt status →
    ∀ p ∈ c.pending, p.1 ≠ c.attempt

/-- No session starts, no creation is sent, and none succeeds but that of the current attempt. -/
structure Ctl.Tame (c : Ctl) (o : Obs) : Prop where
  start : o ≠ .sessionStart
  creates : o.creates = false
  success : ∀ a handle rest, o = .ctl (.connComplete a 0x00 handle rest) → a = c.attempt

/-- A property of the controller that such observations keep. -/
def Ctl.Kept (P : Ctl → Prop) : Prop := ∀ c c' o, P c → Ctl.Step c o c' → c.Tame o → P c'

/-! ## The controller -/

section controller

variable {c c' : Ctl} {o : Obs}

theorem Ctl.cancelled_kept : Ctl.Kept Ctl.Cancelled := by
  intro c c' o h hstep ho
  cases hstep with
  | create params => exact nomatch (show true = false from ho.creates)
  | cancel params =>
      intro p hp
      obtain ⟨p', -, rfl⟩ := List.mem_map.mp hp
      rfl
  | complete attempt status handle rest hrest hmay =>
      exact fun p hp => h p (List.mem_filter.mp hp).1
  | _ => exact h

theorem Ctl.cancel_cancelled : c.cancel.Cancelled := by
  intro p hp
  obtain ⟨p', -, rfl⟩ := List.mem_map.mp hp
  rfl

/-- A link opens with a successful completion only. -/
theorem Ctl.Unlinked.step (h : c.Unlinked) (hstep : Ctl.Step c o c')
    (hno : ∀ a handle rest, o = .ctl (.connComplete a 0x00 handle rest) →
      ¬c.MayComplete a 0x00 handle) : c'.Unlinked := by
  have hsend : ∀ q' : Queued, q'.tag.isSuccess = false → ∀ q ∈ c.queue ++ [q'],
      q.tag.isSuccess = false := by
    intro q' hq' q hq
    rcases List.mem_append.mp hq with hq | hq
    · exact h.2 q hq
    · exact List.mem_singleton.mp hq ▸ hq'
  cases hstep with
  | skip | start | create | cancel => exact h
  | read place handle f q queue hq =>
      exact ⟨h.1, fun q' hq' => h.2 q' (hq ▸ List.mem_cons_of_mem _ hq')⟩
  | complete attempt status handle rest hrest hmay =>
      have hstatus : status ≠ 0x00 := by
        rintro rfl
        exact hno attempt handle rest rfl hmay
      constructor
      · exact (if_neg hstatus).trans h.1
      · exact hsend _ (beq_eq_false_iff_ne.mpr hstatus)
  | cancelComplete status => exact ⟨h.1, hsend _ rfl⟩
  | closed handle reason l hl =>
      rw [h.1] at hl
      cases hl
  | other octets hplain => exact ⟨h.1, hsend _ rfl⟩

theorem Ctl.ready_kept : Ctl.Kept Ctl.Ready := by
  intro c c' o h hstep ho
  constructor
  · apply h.unlinked.step hstep
    intro a handle rest heq hmay
    have hlt : a < c.attempt := by
      rcases hmay.1 with hp | ⟨hp, -⟩
      · exact h.each.pending _ hp
      · exact h.each.pending _ hp
    have ha := ho.success a handle rest heq
    omega
  · rw [hstep.attempt_eq ho.start]
    apply h.each.step hstep
    rintro params rfl
    exact nomatch (show true = false from ho.creates)

/-- The creation of this attempt is the only one not cancelled. -/
theorem Ctl.Ready.create (h : c.Ready) (hc : c.Cancelled) : c.create.Trying := by
  constructor
  · intro p hp
    rcases List.mem_append.mp hp with hp | hp
    · exact .inr (hc p hp)
    · exact .inl (List.mem_singleton.mp hp ▸ rfl)
  · intro q hq a htag
    have hno := h.unlinked.2 q hq
    rw [htag] at hno
    exact nomatch (show true = false from hno)
  · intro q hq status htag
    have hlt := h.each.tags q hq c.attempt (by rw [htag]; rfl)
    exact absurd hlt (lt_irrefl _)

/-- An event that is no completion says nothing about creations. -/
theorem Ctl.Trying.send (h : c.Trying) {tag : Tag} (octets : Octets)
    (hno : ∀ a status, tag ≠ .connComplete a status) : (c.send tag octets).Trying := by
  constructor
  · exact h.pending
  · intro q hq a htag
    rcases List.mem_append.mp hq with hq | hq
    · exact h.success q hq a htag
    · exact absurd (List.mem_singleton.mp hq ▸ htag) (hno _ _)
  · intro q hq status htag
    rcases List.mem_append.mp hq with hq | hq
    · exact h.completed q hq status htag
    · exact absurd (List.mem_singleton.mp hq ▸ htag) (hno _ _)

theorem Ctl.trying_kept : Ctl.Kept Ctl.Trying := by
  intro c c' o h hstep ho
  cases hstep with
  | skip => exact h
  | start => exact absurd rfl ho.start
  | create params => exact nomatch (show true = false from ho.creates)
  | cancel params =>
      constructor
      · intro p hp
        obtain ⟨p', -, rfl⟩ := List.mem_map.mp hp
        exact .inr rfl
      · exact h.success
      · intro q hq status htag p hp
        obtain ⟨p', hp', rfl⟩ := List.mem_map.mp hp
        exact h.completed q hq status htag p' hp'
  | read place handle f q queue hq =>
      have hmem : ∀ q' ∈ queue, q' ∈ c.queue := fun q' hq' => hq ▸ List.mem_cons_of_mem _ hq'
      exact ⟨h.pending, fun q' hq' => h.success q' (hmem q' hq'),
        fun q' hq' => h.completed q' (hmem q' hq')⟩
  | complete attempt status handle rest hrest hmay =>
      constructor
      · exact fun p hp => h.pending p (List.mem_filter.mp hp).1
      · intro q hq a htag
        rcases List.mem_append.mp hq with hq | hq
        · exact h.success q hq a htag
        · rw [List.mem_singleton.mp hq] at htag
          obtain ⟨rfl, rfl⟩ := Tag.connComplete.inj htag
          exact ho.success _ handle rest rfl
      · intro q hq st htag p hp
        obtain ⟨hp, hne⟩ := List.mem_filter.mp hp
        rcases List.mem_append.mp hq with hq | hq
        · exact h.completed q hq st htag p hp
        · rw [List.mem_singleton.mp hq] at htag
          have heq : attempt = c.attempt := (Tag.connComplete.inj htag).1
          exact heq ▸ of_decide_eq_true hne
  | cancelComplete status =>
      have h' : Ctl.Trying { c with cancels := c.cancels - 1 } :=
        ⟨h.pending, h.success, h.completed⟩
      exact h'.send _ nofun
  | closed handle reason l hl =>
      have h' : (c.close handle).Trying := ⟨h.pending, h.success, h.completed⟩
      exact h'.send _ nofun
  | other octets hplain => exact h.send _ nofun

/-- Once the success of this attempt is read, its creation is not pending. -/
theorem Ctl.Trying.cancelled (h : c.Trying) {q : Queued} {queue : List Queued}
    (hq : c.queue = q :: queue) {a : ℕ} (htag : q.tag = .connComplete a 0x00) : c.Cancelled := by
  have hmem : q ∈ c.queue := hq ▸ List.mem_cons_self
  have ha := h.success q hmem a htag
  rw [ha] at htag
  intro p hp
  exact (h.pending p hp).resolve_left (h.completed q hmem _ htag p hp)

theorem Ctl.Kept.and {P P' : Ctl → Prop} (h : Ctl.Kept P) (h' : Ctl.Kept P') :
    Ctl.Kept fun c => P c ∧ P' c :=
  fun c c' o hP hstep ho => ⟨h c c' o hP.1 hstep ho, h' c c' o hP.2 hstep ho⟩

end controller

/-! ## Phases -/

/-- A run of the controller that meets the condition so far. -/
def TidyRun (pre : List Obs) (o : Obs) : Prop := ControllerAt pre o ∧ TidyAt pre o

abbrev IfTidy : (World → Prop) → World → Prop := Under TidyRun

/-- One link at a time so far, and the controller has a property. -/
abbrev OneLink : (Ctl → Prop) → World → Prop := Watched OneLinkAt

/-- Between two iterations: unless the Cancel comes next, nothing is pending that it would have to
cancel. -/
def Loose (w : World) : Prop := OneLink (fun c => w.s.didCancel = false → c.Cancelled) w

/-- One link at a time so far. -/
def Safe (w : World) : Prop := Everywhere OneLinkAt w.trace

/-- The flag for the Cancel is set. -/
def Flagged (P : Ctl → Prop) (w : World) : Prop := OneLink P w ∧ w.s.didCancel = true

variable {P : Ctl → Prop} {o : Obs} {w : World}

theorem oneLinkAt_of_not {pre : List Obs} (ho : o.creates = false) : OneLinkAt pre o :=
  fun h => nomatch ho.symm.trans h

/-- What the host does while it starts no session and sends no creation. -/
structure Obs.Inner (o : Obs) : Prop where
  start : o ≠ .sessionStart
  creates : o.creates = false

theorem Obs.Inner.tame (h : o.Inner) {pre : List Obs} (hrun : TidyRun pre o) {c : Ctl}
    (hc : controller pre = some c) : c.Tame o := by
  refine ⟨h.start, h.creates, ?_⟩
  rintro a handle rest rfl
  exact hrun.2 rfl c hc

theorem OneLink.emit (hP : Ctl.Kept P) (h : OneLink P w) (hrun : TidyRun w.trace o)
    (ho : o.Inner) : OneLink P (w.emit o) :=
  Tracked.snoc h (oneLinkAt_of_not ho.creates) fun c c' hc hPc hstep =>
    hP c c' o hPc (Ctl.step_cases hstep) (ho.tame hrun hc)

theorem OneLink.loose (h : OneLink Ctl.Cancelled w) : Loose w := h.mono fun _ hc _ => hc

theorem Flagged.loose (h : Flagged P w) : Loose w :=
  h.1.mono fun _ _ hno => nomatch h.2.symm.trans hno

theorem IfTidy.safe (h : IfTidy (OneLink P) w) : IfTidy Safe w := h.mono Tracked.obs

theorem IfTidy.emit (hP : Ctl.Kept P) (h : IfTidy (OneLink P) w) (ho : o.Inner) :
    IfTidy (OneLink P) (w.emit o) := Under.emit h fun hrun hw => hw.emit hP hrun ho

theorem IfTidy.flagged_emit (hP : Ctl.Kept P) (h : IfTidy (Flagged P) w) (ho : o.Inner) :
    IfTidy (Flagged P) (w.emit o) := Under.emit h fun hrun hw => ⟨hw.1.emit hP hrun ho, hw.2⟩

theorem IfTidy.update {g : Session → Session} (h : IfTidy (OneLink P) w) :
    IfTidy (OneLink P) (w.update g) := fun hC => ⟨(h hC).1, (h hC).2⟩

theorem IfTidy.flagged_update {g : Session → Session} (h : IfTidy (Flagged P) w)
    (hg : (g w.s).didCancel = w.s.didCancel) : IfTidy (Flagged P) (w.update g) :=
  fun hC => ⟨⟨(h hC).1.1, (h hC).1.2⟩, hg.trans (h hC).2⟩

theorem IfTidy.loose_emit (h : IfTidy Loose w) (ho : o.Inner) : IfTidy Loose (w.emit o) :=
  IfTidy.emit (fun c c' o hc hstep ho' hno => Ctl.cancelled_kept c c' o (hc hno) hstep ho') h ho

theorem inner_ctl (e : CtlEvent) : (Obs.ctl e).Inner := ⟨nofun, rfl⟩

theorem inner_read (place : Place) (handle : UInt16) (data : Octets) (f : Frame) :
    (Obs.read place handle data f).Inner := ⟨nofun, rfl⟩

theorem inner_command {opcode : UInt16} (params : Octets) (ok : Bool) (h : opcode ≠ opCreateConn) :
    (Obs.command opcode params ok).Inner := by
  constructor
  · exact nofun
  · exact (congrArg (· && ok) (beq_false_of_ne h)).trans (Bool.false_and ok)

/-- The assertions of the phases do not look at the state. -/
theorem IfTidy.setState (hP : Ctl.Kept P) {st : SessionState} (h : IfTidy (OneLink P) w) :
    IfTidy (OneLink P) (w.setState st) :=
  IfTidy.emit (w := w.update fun s => { s with state := st }) hP h.update ⟨nofun, rfl⟩

/-- Once the connection is made, nothing more is created. -/
theorem lasts_linked : Lasts (IfTidy (OneLink Ctl.Cancelled)) where
  ctl e _ h := h.emit Ctl.cancelled_kept (inner_ctl e)
  update _ _ h := IfTidy.update h
  emit o _ ho h := by
    apply h.emit Ctl.cancelled_kept
    cases o with
    | sessionStart => cases ho
    | command opcode params ok =>
        apply inner_command
        exact bne_iff_ne.mp (Bool.and_eq_true_iff.mp ho).1
    | _ => exact ⟨nofun, rfl⟩

/-! ## An iteration -/

variable {env : HostEnv} {aes : Block → Block → Block}

/-- A session starts with everything of earlier attempts. -/
theorem IfTidy.begin (h : IfTidy Loose w) :
    IfTidy (OneLink fun c => c.Ready ∧ (w.s.didCancel = false → c.Cancelled)) w.begin := by
  have hkept : Ctl.Kept fun c => c.Ready ∧ (w.s.didCancel = false → c.Cancelled) :=
    Ctl.ready_kept.and fun c c' o hc hstep ho hno => Ctl.cancelled_kept c c' o (hc hno) hstep ho
  have hstart : IfTidy (OneLink fun c => c.Ready ∧ (w.s.didCancel = false → c.Cancelled))
      (w.emit .sessionStart) := by
    refine Under.emit h fun hrun hw => ?_
    refine Tracked.snoc hw (oneLinkAt_of_not rfl) fun c c' hc hloose hstep => ?_
    obtain rfl : { c with attempt := c.attempt + 1 } = c' := Option.some.inj hstep
    have hun : c.Unlinked := hrun.2 c hc
    have heach := (controller_each hc).mono fun a ha => Nat.lt_succ_of_le ha
    exact ⟨⟨⟨hun.1, hun.2⟩, ⟨heach.pending, heach.links, heach.tags⟩⟩, hloose⟩
  exact IfTidy.emit (w := (w.emit .sessionStart).update Session.restart) hkept hstart.update
    ⟨nofun, rfl⟩

/-- Before the creation is sent, whatever is pending is cancelled. -/
theorem beginSession_ready (h : IfTidy Loose w) :
    wp env beginSession ⟨fun _ => IfTidy (Flagged fun c => c.Ready ∧ c.Cancelled),
      fun _ => IfTidy Loose, IfTidy Safe⟩ w := by
  have hkept : Ctl.Kept fun c => c.Ready ∧ c.Cancelled := Ctl.ready_kept.and Ctl.cancelled_kept
  have hbegin := IfTidy.begin h
  refine wp_beginSession (IfTidy (OneLink Ctl.Ready))
    (IfTidy (OneLink fun c => c.Ready ∧ c.Cancelled))
    (fun e _ h => h.emit Ctl.ready_kept (inner_ctl e)) (fun e _ h => h.emit hkept (inner_ctl e))
    (hbegin.mono fun hw => hw.mono fun _ hc => hc.1) (fun _ h => IfTidy.safe h)
    (fun _ h => IfTidy.safe h) ?_ ?_ ?_ ?_
  · intro hno hC
    have hw : OneLink (fun c => c.Ready ∧ c.Cancelled) w.begin :=
      (hbegin hC).mono fun _ hc => ⟨hc.1, hc.2 hno⟩
    exact ⟨⟨hw.1, hw.2⟩, rfl⟩
  · intro ok w hw
    have hcmd : (Obs.command opCancelConn [] ok).Inner := inner_command [] ok (by decide)
    refine Under.emit hw fun hrun hw => Tracked.snoc hw (oneLinkAt_of_not hcmd.creates) ?_
    intro c c' hc hready hstep
    constructor
    · exact Ctl.ready_kept c c' _ hready (Ctl.step_cases hstep) (hcmd.tame hrun hc)
    · cases ok with
      | true =>
          obtain rfl : c.cancel = c' := Option.some.inj hstep
          exact Ctl.cancel_cancelled
      | false =>
          obtain rfl : c = c' := Option.some.inj hstep
          exact hrun.2 rfl rfl c hc
  · exact fun data f w hw _ => hw.emit hkept (inner_read ..)
  · exact fun w hw hC => ⟨⟨(hw hC).1, (hw hC).2⟩, rfl⟩

/-- What the wait reads as a success is the success of this attempt. -/
theorem Flagged.read_success {data : Octets} {f : Frame} (h : Flagged Ctl.Trying w)
    (hrun : TidyRun w.trace (.read .rxAwait w.s.connHandle data f)) (hf : f.ReadFrom data)
    (haw : f.pktType = hciEventPkt ∧ f.isAwaited evtLeMeta evtLeConnComplete)
    (hno : ¬(f.isConnComplete ∧ f.payload 1 ≠ 0x00)) :
    OneLink Ctl.Cancelled (w.read .rxAwait data f) := by
  refine Tracked.snoc h.1 (oneLinkAt_of_not rfl) fun c c' hc htrying hstep => ?_
  obtain ⟨q, queue, hq, rfl, rfl⟩ := Ctl.read_cases hstep
  have hmeant := controller_meant hc q (hq ▸ List.mem_cons_self)
  have hcancelled : c.Cancelled := by
    rcases htag : q.tag with ⟨a, status⟩ | a | _
    · obtain ⟨handle, rest, hrest, hoct⟩ := hmeant.connComplete a status htag
      rw [hoct] at hf
      obtain ⟨hcc, hstatus⟩ := connComplete_payload hrest hf
      have hzero : status = 0x00 := by
        by_contra hne
        exact hno ⟨hcc, hstatus ▸ hne⟩
      exact htrying.cancelled hq (hzero ▸ htag)
    · obtain ⟨handle, reason, hoct⟩ := hmeant.closed a htag
      rw [hoct] at hf
      have hd := (disconn_isDisconnect hf).2
      rcases haw.2 with ⟨-, hmeta, -⟩ | ⟨hne, -⟩
      · exact absurd (hd.symm.trans hmeta) (by decide)
      · exact absurd rfl hne
    · exact absurd (.inr haw) ((hmeant.plain htag).take.not_terminal hf)
  exact hcancelled

/-- Phase 1: only the creation of this attempt was not cancelled, and it is done once the wait
succeeds. -/
theorem connect_linked (h : IfTidy (Flagged fun c => c.Ready ∧ c.Cancelled) w) :
    wp env connect ⟨fun _ => IfTidy (OneLink Ctl.Cancelled), fun _ => IfTidy Loose,
      IfTidy Safe⟩ w := by
  have hkept : Ctl.Kept fun c => c.Ready ∧ c.Cancelled := Ctl.ready_kept.and Ctl.cancelled_kept
  have hsafe : ∀ {P w}, IfTidy (Flagged P) w → IfTidy Safe w := fun h => h.mono fun hw => hw.1.obs
  have hloose : ∀ {P w}, IfTidy (Flagged P) w → IfTidy Loose w := fun h => h.mono Flagged.loose
  refine wp_connect _ (IfTidy (Flagged Ctl.Trying)) (IfTidy (OneLink Ctl.Cancelled))
    (fun e _ h => h.flagged_emit hkept (inner_ctl e))
    (fun e _ h => h.emit Ctl.cancelled_kept (inner_ctl e)) h (fun _ h => hsafe h)
    (fun _ h => IfTidy.safe h) (fun w h => ?_) (fun w h => ?_) (fun w h => ?_)
    fun _ h => h
  · exact hloose (h.flagged_emit hkept ⟨nofun, rfl⟩)
  · refine Under.emit h fun hrun hw => ⟨?_, hw.2⟩
    refine Tracked.snoc hw.1 (fun _ c hc => ?_) fun c c' hc hready hstep => ?_
    · obtain ⟨hready, hcancelled⟩ := hw.1.state c hc
      constructor
      · rw [hready.unlinked.1]
        exact nofun
      · exact fun p hp _ => hcancelled p hp
    · obtain rfl : c.create = c' := Option.some.inj hstep
      exact hready.1.create hready.2
  · have hread : ∀ data f w, IfTidy (Flagged Ctl.Trying) w →
        IfTidy (Flagged Ctl.Trying) (w.read .rxAwait data f) :=
      fun _ _ _ h => h.flagged_emit Ctl.trying_kept (inner_read ..)
    have hsuccess : ∀ data f w, IfTidy (Flagged Ctl.Trying) w → f.ReadFrom data →
        (f.pktType = hciEventPkt ∧ f.isAwaited evtLeMeta evtLeConnComplete) →
        ¬(f.isConnComplete ∧ f.payload 1 ≠ 0x00) →
        IfTidy (OneLink Ctl.Cancelled) (w.read .rxAwait data f) :=
      fun _ _ _ h hf haw hno => Under.emit h fun hrun hw => hw.read_success hrun hf haw hno
    refine wp_rxAwait (IfTidy (Flagged Ctl.Trying))
      (fun e _ h => h.flagged_emit Ctl.trying_kept (inner_ctl e)) h (fun _ h => hsafe h)
      (fun _ h => hloose h) ?_ (fun data f w h _ _ _ _ => hread data f w h) ?_ ?_ ?_ ?_
    · exact fun data f w h _ _ => hloose ((hread data f w h).flagged_update rfl)
    · intro data f w h _ _ _
      exact IfTidy.flagged_emit (w := (w.read .rxAwait data f).update _) Ctl.trying_kept
        ((hread data f w h).flagged_update rfl) ⟨nofun, rfl⟩
    · exact fun data f w h _ _ _ => hloose (hread data f w h)
    · intro data f w h hf hcc hst
      have haw := Frame.IsConnComplete.awaited hcc
      have hw := hsuccess data f w h hf ⟨hcc.1, haw⟩ fun hno => hno.2 hst
      exact hw.update.setState Ctl.cancelled_kept
    · intro data f w h hf hevt haw hno
      exact (hsuccess data f w h hf ⟨hevt, haw⟩ fun hcc => hno hcc.1).setState Ctl.cancelled_kept

/-- An iteration, in a run that meets the condition. -/
theorem iteration_oneLink (b : Bool) (h : IfTidy Loose w) :
    wp env (iteration aes b) ⟨fun _ => IfTidy Loose, fun _ => IfTidy Loose, IfTidy Safe⟩ w := by
  unfold iteration
  refine (beginSession_ready h).seq fun _ w hw => ?_
  refine (connect_linked hw).seq fun _ w hw => ?_
  exact (lasts_linked.phases aes b w hw).mono (fun _ _ h => h.mono OneLink.loose)
    (fun _ _ h => h.mono OneLink.loose) fun _ h => IfTidy.safe h

/-- **In every run of the controller in which a session starts with the last link closed and its
success read, no creation succeeds after its iteration and no Cancel is lost, LE Create Connection
is sent with no earlier link open and no earlier creation pending and not cancelled.** -/
theorem oneLink_of_tidy (cfg : HostConfig) (budget : ℕ)
    (hctl : Everywhere ControllerAt (hostRun aes cfg env budget).trace)
    (htidy : Everywhere TidyAt (hostRun aes cfg env budget).trace) :
    Everywhere OneLinkAt (hostRun aes cfg env budget).trace := by
  have hstable : CtlStable (IfTidy Loose) := fun e _ h => h.loose_emit (inner_ctl e)
  have hend : ∀ w, IfTidy Loose w → IfTidy Loose (w.emit .reconnect) :=
    fun _ h => h.loose_emit ⟨nofun, rfl⟩
  have hstart : IfTidy Loose cfg.start := fun _ => tracked_nil fun _ => nofun
  exact hostRun_of_iteration hstable (fun _ h => IfTidy.safe h) hend
    (fun _ hw => iteration_oneLink _ hw) hstart budget (hctl.and htidy)

/-- A peer that is found, and closes the link; then the host looks for it again. -/
def closedRun : World :=
  hostRun BlockCipher.identity.enc publicConfig
    (HostEnv.scripted 0
      [(6, connCompleteOctets 0x00 0x0040 (List.replicate 15 0x00)),
        (14, disconnOctets 0x0040 0x13), (20, cancelCompleteOctets 0x0c)]
      [(6, [.connComplete 1 0x00 0x0040 (List.replicate 15 0x00)]), (14, [.closed 0x0040 0x13]),
        (20, [.cancelComplete 0x0c])]) 24

/-- The host creates twice, with one link at a time. -/
theorem oneLink_closed :
    (closedRun.trace.filter Obs.creates).length = 2 ∧ Everywhere OneLinkAt closedRun.trace :=
  ⟨by decide +kernel, oneLink_of_tidy publicConfig 24 (by decide +kernel) (by decide +kernel)⟩

/-- A peer that is found, and does not answer the Pairing Request. -/
def silentRun : World :=
  hostRun BlockCipher.identity.enc publicConfig
    (HostEnv.scripted 2000
      [(6, connCompleteOctets 0x00 0x0040 (List.replicate 15 0x00)),
        (19, cancelCompleteOctets 0x0c)]
      [(6, [.connComplete 1 0x00 0x0040 (List.replicate 15 0x00)]),
        (19, [.cancelComplete 0x0c])]) 22

/-- There the host creates again while the link is open. -/
theorem not_oneLink_silentPeer :
    Everywhere ControllerAt silentRun.trace ∧ ¬Everywhere OneLinkAt silentRun.trace := by
  constructor
  · decide +kernel
  · decide +kernel

end Switch2Bt.Sw2d
