import Switch2Bt.Daemon.Effects

/-!
# Writes before notifications (`switch2d.py`, `run_session`)

The documented protocol enables the notifications last: a session first writes its pair frames and
its init commands, in order, and only then subscribes to the input reports. `Ordered` states this
about the observations of one session, and `runSession_ordered` proves it for every profile, every
environment and every moment of the session.

* `Sent`: so far the session wrote exactly a list of payloads. It is what holds between the stages.
* `Ready`: everything is written; it is kept while subscribing.
* `SentAt`, `OrderedAt`, `ReadyAt` are the same about the world, relative to the trace the session
  started from.
-/

namespace Switch2Bt

open Await

/-! ## Observations of one session -/

/-- The payloads written successfully, in order. -/
def written (tr : List Obs) : List Octets :=
  tr.filterMap fun
    | .gattWrite _ payload true => some payload
    | _ => none

/-- The GATT requests that the order is about. -/
def Obs.isRequest : Obs → Bool
  | .gattWrite _ _ _ | .notifyInput _ | .notifyResponse => true
  | _ => false

/-- The frames of the pair sequence for a host address, in order. -/
def pairPayloads (hostMac : String) : Except PyErr (List Octets) := do
  let setmac ← buildSetmacPayload hostMac
  (pairSteps setmac).mapM fun step => buildCommand pairCmd step.subId step.data

/-- What a session of a profile writes: its pair frames, then its init commands. -/
def sessionWrites (p : ProtocolProfile) (hostMac : Option String) : Except PyErr (List Octets) := do
  let pair ← if p.pairs then pairPayloads (hostMac.getD "") else pure []
  pure (pair ++ p.initCommands.map (·.payload))

/-- **The order of a session**: the payloads written are the first ones of `sessionWrites`, nothing
is requested after a write that raised, and no input notification is requested before everything
is written. -/
structure Ordered (p : ProtocolProfile) (hostMac : Option String) (tr : List Obs) : Prop where
  writes : written tr = [] ∨ ∃ all, sessionWrites p hostMac = .ok all ∧ written tr <+: all
  stops : ∀ before uuid payload after, tr = before ++ .gattWrite uuid payload false :: after →
    ∀ o ∈ after, o.isRequest = false
  notifyLast : ∀ before target after, tr = before ++ .notifyInput target :: after →
    sessionWrites p hostMac = .ok (written before)

/-- The session wrote exactly the payloads `done`, and did not subscribe yet. -/
structure Sent (done : List Octets) (tr : List Obs) : Prop where
  sent : written tr = done
  noFailure : ∀ uuid payload, Obs.gattWrite uuid payload false ∉ tr
  noNotify : ∀ target, Obs.notifyInput target ∉ tr

/-- Everything is written. -/
structure Ready (p : ProtocolProfile) (hostMac : Option String) (tr : List Obs) : Prop where
  ordered : Ordered p hostMac tr
  complete : sessionWrites p hostMac = .ok (written tr)
  noFailure : ∀ uuid payload, Obs.gattWrite uuid payload false ∉ tr

/-- The payloads `done` are the first ones of the session. -/
def Begins (p : ProtocolProfile) (hostMac : Option String) (done : List Octets) : Prop :=
  done = [] ∨ ∃ all, sessionWrites p hostMac = .ok all ∧ done <+: all

@[simp] theorem written_append (tr tr' : List Obs) :
    written (tr ++ tr') = written tr ++ written tr' := List.filterMap_append

/-- An observation in an extended list is the last one or was there before. -/
theorem concat_eq_append_cons {α : Type} {tr before after : List α} {o x : α}
    (h : tr ++ [o] = before ++ x :: after) :
    (after = [] ∧ tr = before ∧ o = x) ∨
      ∃ after', after = after' ++ [o] ∧ tr = before ++ x :: after' := by
  rcases List.eq_nil_or_concat after with rfl | ⟨after', y, hafter⟩
  · obtain ⟨rfl, hx⟩ := List.append_inj' h rfl
    exact .inl ⟨rfl, rfl, by simpa using hx⟩
  · rw [hafter, List.concat_eq_append, ← List.cons_append, ← List.append_assoc] at h
    obtain ⟨rfl, hx⟩ := List.append_inj' h rfl
    obtain rfl : o = y := by simpa using hx
    exact .inr ⟨after', by rw [hafter, List.concat_eq_append], rfl⟩

variable {p : ProtocolProfile} {hostMac : Option String} {done : List Octets} {tr : List Obs}

/-- Without writes nothing is written. -/
theorem written_eq_nil {os : List Obs}
    (hos : ∀ o ∈ os, ∀ uuid payload ok, o ≠ .gattWrite uuid payload ok) : written os = [] := by
  rw [written, List.filterMap_eq_nil_iff]
  intro o ho
  split
  · exact absurd rfl (hos _ ho _ _ _)
  · rfl

/-- Other observations leave what was sent. -/
theorem Sent.quiet {os : List Obs} (h : Sent done tr)
    (hos : ∀ o ∈ os, (∀ uuid payload ok, o ≠ .gattWrite uuid payload ok) ∧
      ∀ target, o ≠ .notifyInput target) : Sent done (tr ++ os) := by
  have hwritten := written_eq_nil fun o ho => (hos o ho).1
  refine ⟨by rw [written_append, h.sent, hwritten, List.append_nil], fun uuid payload hmem => ?_,
    fun target hmem => ?_⟩
  · rcases List.mem_append.mp hmem with hmem | hmem
    · exact h.noFailure uuid payload hmem
    · exact (hos _ hmem).1 uuid payload false rfl
  · rcases List.mem_append.mp hmem with hmem | hmem
    · exact h.noNotify target hmem
    · exact (hos _ hmem).2 target rfl

/-- One more payload is sent. -/
theorem Sent.write (h : Sent done tr) (uuid : Option String) (payload : Octets) :
    Sent (done ++ [payload]) (tr ++ [.gattWrite uuid payload true]) := by
  refine ⟨by rw [written_append, h.sent]; rfl, fun uuid' payload' hmem => ?_,
    fun target hmem => ?_⟩
  · simp [h.noFailure] at hmem
  · simp [h.noNotify] at hmem

/-- What was sent in order is in order. -/
theorem Sent.ordered (h : Sent done tr) (hb : Begins p hostMac done) : Ordered p hostMac tr where
  writes := by
    rw [h.sent]
    exact hb
  stops := by
    rintro before uuid payload after rfl
    exact absurd (by simp) (h.noFailure uuid payload)
  notifyLast := by
    rintro before target after rfl
    exact absurd (by simp) (h.noNotify target)

/-- A write may fail at any point of the order. -/
theorem Sent.failed (h : Sent done tr) (hb : Begins p hostMac done) (uuid : Option String)
    (payload : Octets) : Ordered p hostMac (tr ++ [.gattWrite uuid payload false]) where
  writes := by
    rw [written_append, h.sent]
    exact (List.append_nil done).symm ▸ hb
  stops := by
    intro before uuid' payload' after heq o ho
    rcases concat_eq_append_cons heq with ⟨rfl, -, -⟩ | ⟨after', -, rfl⟩
    · cases ho
    · exact absurd (by simp) (h.noFailure uuid' payload')
  notifyLast := by
    intro before target after heq
    rcases concat_eq_append_cons heq with ⟨-, -, hne⟩ | ⟨after', -, rfl⟩
    · cases hne
    · exact absurd (by simp) (h.noNotify target)

/-- After everything is written the session is ready. -/
theorem Sent.ready (h : Sent done tr) (hall : sessionWrites p hostMac = .ok done) :
    Ready p hostMac tr :=
  ⟨h.ordered (.inr ⟨done, hall, List.prefix_refl _⟩), by rw [h.sent]; exact hall, h.noFailure⟩

/-- Observations that are no requests keep the order. -/
theorem Ordered.quiet {os : List Obs} (h : Ordered p hostMac tr)
    (hos : ∀ o ∈ os, o.isRequest = false) : Ordered p hostMac (tr ++ os) := by
  induction os using List.reverseRecOn with
  | nil => simpa using h
  | append_singleton os o ih =>
      have ih := ih fun x hx => hos x (List.mem_append_left _ hx)
      have ho := hos o (by simp)
      rw [← List.append_assoc]
      refine ⟨?_, ?_, ?_⟩
      · have hnil : written [o] = [] := by
          cases o <;> first | rfl | cases ho
        rw [written_append, hnil, List.append_nil]
        exact ih.writes
      · intro before uuid payload after heq x hx
        rcases concat_eq_append_cons heq with ⟨rfl, -, -⟩ | ⟨after', rfl, hold⟩
        · cases hx
        · rcases List.mem_append.mp hx with hx | hx
          · exact ih.stops before uuid payload after' hold x hx
          · rw [List.mem_singleton.mp hx]
            exact ho
      · intro before target after heq
        rcases concat_eq_append_cons heq with ⟨-, -, rfl⟩ | ⟨after', rfl, hold⟩
        · cases ho
        · exact ih.notifyLast before target after' hold

/-- When everything is written, input notifications may be requested. -/
theorem Ready.append {os : List Obs} (h : Ready p hostMac tr)
    (hos : ∀ o ∈ os, ∀ uuid payload ok, o ≠ .gattWrite uuid payload ok) :
    Ready p hostMac (tr ++ os) := by
  have hwritten : written (tr ++ os) = written tr := by
    rw [written_append, written_eq_nil hos, List.append_nil]
  have hfailure : ∀ uuid payload, Obs.gattWrite uuid payload false ∉ tr ++ os := by
    intro uuid payload hmem
    rcases List.mem_append.mp hmem with hmem | hmem
    · exact h.noFailure uuid payload hmem
    · exact hos _ hmem uuid payload false rfl
  refine ⟨⟨?_, ?_, ?_⟩, by rw [hwritten]; exact h.complete, hfailure⟩
  · rw [hwritten]
    exact h.ordered.writes
  · intro before uuid payload after heq
    exact absurd (by rw [heq]; simp) (hfailure uuid payload)
  · intro before target after heq
    rcases List.append_eq_append_iff.mp heq with ⟨as, rfl, hos'⟩ | ⟨_ | ⟨b, bs⟩, htr, hcons⟩
    · have has : written as = [] := written_eq_nil fun o ho => hos o (by simp [hos', ho])
      rw [written_append, has, List.append_nil]
      exact h.complete
    · rw [htr, List.append_nil] at h
      exact h.complete
    · obtain ⟨rfl, -⟩ := List.cons_eq_cons.mp hcons
      exact h.ordered.notifyLast before target bs htr

/-! ## The same about the world -/

/-- `P` holds of the observations made since the trace was `base`. -/
def Since (base : List Obs) (P : List Obs → Prop) (w : World) : Prop :=
  ∃ tr, w.trace = base ++ tr ∧ P tr

theorem Since.extend {base os : List Obs} {P P' : List Obs → Prop} {w w' : World}
    (h : Since base P w) (htrace : w'.trace = w.trace ++ os) (hP : ∀ tr, P tr → P' (tr ++ os)) :
    Since base P' w' := by
  obtain ⟨tr, hw, htr⟩ := h
  exact ⟨tr ++ os, by rw [htrace, hw, List.append_assoc], hP tr htr⟩

/-- A session of profile `p` wrote the payloads `done`. -/
structure SentAt (p : ProtocolProfile) (hostMac : Option String) (base : List Obs)
    (done : List Octets) (w : World) : Prop where
  profile : w.st.activeProfile = p
  mac : w.st.hostMac = hostMac
  since : Since base (Sent done) w

def OrderedAt (p : ProtocolProfile) (base : List Obs) (w : World) : Prop :=
  Since base (Ordered p w.st.hostMac) w

def ReadyAt (p : ProtocolProfile) (base : List Obs) (w : World) : Prop :=
  Since base (Ready p w.st.hostMac) w

variable {env : DaemonEnv} {base : List Obs} {w w' : World} {part : Stage}

theorem SentAt.ordered (h : SentAt p hostMac base done w) (hb : Begins p hostMac done) :
    OrderedAt p base w := by
  obtain ⟨tr, hw, htr⟩ := h.since
  exact ⟨tr, hw, h.mac ▸ htr.ordered hb⟩

theorem SentAt.ready (h : SentAt p hostMac base done w)
    (hall : sessionWrites p hostMac = .ok done) : ReadyAt p base w := by
  obtain ⟨tr, hw, htr⟩ := h.since
  exact ⟨tr, hw, h.mac ▸ htr.ready hall⟩

theorem ReadyAt.ordered (h : ReadyAt p base w) : OrderedAt p base w := by
  obtain ⟨tr, hw, htr⟩ := h
  exact ⟨tr, hw, htr.ordered⟩

/-- The parts before pairing, and events, send nothing. -/
theorem SentAt.reach (hpart : part = .preflight ∨ part = .scan ∨ part = .connect ∨
    part = .discover) (h : SentAt p hostMac base done w) (hr : Reach env part w w') :
    SentAt p hostMac base done w' := by
  obtain ⟨os, htrace, hos⟩ := hr.obs
  refine ⟨hr.activeProfile.trans h.profile, (hr.hostMac ?_).trans h.mac,
    h.since.extend htrace fun tr htr => htr.quiet fun o ho => ⟨?_, ?_⟩⟩
  · rintro rfl
    simp at hpart
  · rintro uuid payload ok rfl
    have hemits := hos _ ho
    rcases hpart with rfl | rfl | rfl | rfl <;> cases hemits
  · rintro target rfl
    have hemits := hos _ ho
    rcases hpart with rfl | rfl | rfl | rfl <;> cases hemits

/-- Events and the cleanup keep the order. -/
theorem OrderedAt.reach (hpart : part = .preflight ∨ part = .running)
    (h : OrderedAt p base w) (hr : Reach env part w w') : OrderedAt p base w' := by
  obtain ⟨os, htrace, hos⟩ := hr.obs
  have hmac : w'.st.hostMac = w.st.hostMac := hr.hostMac (by rcases hpart with rfl | rfl <;> simp)
  refine Since.extend h htrace fun tr htr => ?_
  rw [hmac]
  refine htr.quiet fun o ho => ?_
  have hemits := hos o ho
  rcases hpart with rfl | rfl <;> cases o <;> first | rfl | cases hemits

/-- Subscribing, running and the cleanup write nothing. -/
theorem ReadyAt.reach (hpart : part = .subscribe ∨ part = .running)
    (h : ReadyAt p base w) (hr : Reach env part w w') : ReadyAt p base w' := by
  obtain ⟨os, htrace, hos⟩ := hr.obs
  have hmac : w'.st.hostMac = w.st.hostMac := hr.hostMac (by rcases hpart with rfl | rfl <;> simp)
  refine Since.extend h htrace fun tr htr => ?_
  rw [hmac]
  refine htr.append fun o ho => ?_
  rintro uuid payload ok rfl
  have hemits := hos _ ho
  rcases hpart with rfl | rfl <;> cases hemits

/-- What `run_session` records is no request. -/
theorem OrderedAt.emit {o : Obs} (h : OrderedAt p base w) (ho : o.isRequest = false) :
    OrderedAt p base (w.emit o) :=
  Since.extend h rfl fun _ htr => htr.quiet fun x hx => by rwa [List.mem_singleton.mp hx]

theorem SentAt.emit {o : Obs} (h : SentAt p hostMac base done w)
    (ho : o.isRequest = false) : SentAt p hostMac base done (w.emit o) :=
  ⟨h.profile, h.mac, h.since.extend rfl fun _ htr => htr.quiet fun x hx => by
    rw [List.mem_singleton.mp hx]
    cases o <;> simp [Obs.isRequest] at ho ⊢⟩

/-! ## The stages -/

/-- The postcondition of a stage: `B` if it succeeded, else `F`. -/
def stagePost (B F : World → Prop) : Post World PyErr Bool :=
  ⟨fun ok w => if ok then B w else F w, fun _ => F, F⟩

/-- A part that keeps an assertion until it is done. -/
theorem wp_of_reach (part : Stage) {α : Type} {m : Daemon α} {A : World → Prop}
    {Q : Post World PyErr α}
    (hm : Always env (Reach env part w) m) (hA : ∀ w', Reach env part w w' → A w')
    (hd : ∀ a w', A w' → Q.done a w') (hr : ∀ e w', A w' → Q.raised e w')
    (hs : ∀ w', A w' → Q.suspended w') : wp env m Q w :=
  (hm w .refl).mono (fun a w' h => hd a w' (hA w' h)) (fun e w' h => hr e w' (hA w' h))
    (fun w' h => hs w' (hA w' h))

/-- A write extends what was sent, or fails and ends it. -/
theorem writeGattChar_ordered (uuid : Option String) (payload : Octets)
    (h : SentAt p hostMac base done w) (hb : Begins p hostMac done) :
    wp env (writeGattChar uuid payload) ⟨fun r => if r.isOk
      then SentAt p hostMac base (done ++ [payload]) else OrderedAt p base,
      fun _ => OrderedAt p base, OrderedAt p base⟩ w := by
  refine wp_bind (wp_of_reach .preflight (withClient_reach fun _ => awaitCall_reach _)
    (fun _ hr => h.reach (.inl rfl) hr) ?_ (fun _ _ h' => h'.ordered hb) fun _ h' => h'.ordered hb)
  intro r w' h'
  refine (wp_modify_bind _ _).mpr ((wp_pure _).mpr ?_)
  cases r with
  | ok _ => exact ⟨h'.profile, h'.mac, h'.since.extend rfl fun _ htr => htr.write uuid payload⟩
  | error _ =>
      refine h'.since.extend rfl fun _ htr => ?_
      rw [World.emit_st, h'.mac]
      exact htr.failed hb uuid payload

theorem awaitCall_sentAt (c : Call) :
    Always env (SentAt p hostMac base done) (awaitCall c) := fun _ h =>
  wp_of_reach .preflight (awaitCall_reach c) (fun _ hr => h.reach (.inl rfl) hr)
    (fun _ _ h => h) (fun _ _ h => h) fun _ h => h

/-- Waiting for a response sends nothing. -/
theorem awaitPairResponse_sentAt (n : ℕ) (step : PairStep) :
    Always env (SentAt p hostMac base done) (awaitPairResponse n step) := by
  have hemit : ∀ latest, Always env (SentAt p hostMac base done)
      (Switch2Bt.emit (.pairResponse step.name latest)) := fun _ =>
    Always.modify fun _ h => h.emit rfl
  exact Always.read fun _ _ => Always.ite
    ((awaitCall_sentAt _).bind fun _ => Always.read fun _ _ => Always.ite (hemit _) (hemit _))
    ((awaitCall_sentAt _).bind fun _ => Always.pure _)

/-- The pair loop sends the frames of its steps, in order, or fails in between. -/
theorem pairLoop_ordered (uuid : Option String) (n : ℕ) (steps : List PairStep) :
    ∀ {done payloads : List Octets} {w : World},
      (steps.mapM fun step => buildCommand pairCmd step.subId step.data) = .ok payloads →
      (∃ all, sessionWrites p hostMac = .ok all ∧ done ++ payloads <+: all) →
      SentAt p hostMac base done w →
      wp env (pairLoop uuid n steps)
        (stagePost (SentAt p hostMac base (done ++ payloads)) (OrderedAt p base)) w := by
  induction steps with
  | nil =>
      intro done payloads w hbuild _ h
      rw [List.mapM_nil] at hbuild
      cases hbuild
      refine (wp_pure _).mpr ?_
      rw [List.append_nil]
      exact h
  | cons step steps ih =>
      intro done payloads w hbuild hall h
      rw [List.mapM_cons] at hbuild
      rcases hframe : buildCommand pairCmd step.subId step.data with e | frame
      · rw [hframe] at hbuild
        cases hbuild
      rcases hrest : steps.mapM (fun step => buildCommand pairCmd step.subId step.data)
        with e | frames <;> rw [hframe, hrest] at hbuild <;> cases hbuild
      obtain ⟨all, hwrites, hpre⟩ := hall
      have hb : Begins p hostMac done :=
        .inr ⟨all, hwrites, (List.prefix_append _ _).trans hpre⟩
      have hpre' : (done ++ [frame]) ++ frames <+: all := by simpa using hpre
      have hb' : Begins p hostMac (done ++ [frame]) :=
        .inr ⟨all, hwrites, (List.prefix_append _ _).trans hpre'⟩
      refine wp_ofExcept_bind (fun a ha => ?_) fun e he => by rw [hframe] at he; cases he
      obtain rfl : frame = a := by rw [hframe] at ha; cases ha; rfl
      refine (writeGattChar_ordered uuid frame h hb).seq ?_
      intro r w' h'
      cases r with
      | error _ => exact (wp_modify_bind _ _).mpr ((wp_pure _).mpr h')
      | ok _ =>
          refine wp_bind ((awaitPairResponse_sentAt n step w' h').mono ?_
            (fun _ _ h => h.ordered hb') (fun _ h => h.ordered hb'))
          intro _ w'' h''
          have hloop := ih hrest ⟨all, hwrites, hpre'⟩ h''
          rwa [List.append_assoc] at hloop

/-- What a pair session wrote when it is paired. -/
def PairedAt (p : ProtocolProfile) (base : List Obs) (w : World) : Prop :=
  ∃ hostMac done, sessionWrites p hostMac = .ok (done ++ p.initCommands.map (·.payload)) ∧
    SentAt p hostMac base done w

/-- When no frames can be built, the first one is what fails. -/
theorem pairPayloads_error {mac : String} {setmac : Octets} {e : PyErr}
    (hsetmac : buildSetmacPayload mac = .ok setmac) (h : pairPayloads mac = .error e) :
    ∃ e', buildCommand pairCmd pairSubSetMac setmac = .error e' := by
  rcases hframe : buildCommand pairCmd pairSubSetMac setmac with e' | frame
  · exact ⟨e', rfl⟩
  · rw [pairPayloads, hsetmac] at h
    simp only [pairSteps, List.mapM_cons] at h
    have hbind : (buildCommand pairCmd pairSubSetMac setmac >>= _) = .error e := h
    rw [hframe] at hbind
    cases hbind

/-- **Pairing** sends the pair frames, or fails in between. -/
theorem stagePair_ordered {mac : Option String} (hpairs : p.pairs)
    (h : SentAt p mac base [] w) :
    wp env stagePair (stagePost (PairedAt p base) (OrderedAt p base)) w := by
  refine (wp_get_bind _).mpr ?_
  rw [h.profile]
  simp only [hpairs, Bool.not_true, if_neg Bool.false_ne_true]
  refine wp_query_bind fun mac' => (wp_modify_bind _ _).mpr ?_
  have hmac : SentAt p mac' base [] (w.update fun s => { s with hostMac := mac' }) :=
    ⟨h.profile, rfl, h.since⟩
  have hfail : ∀ step, OrderedAt p base ((w.update fun s => { s with hostMac := mac' }).update
      fun s => { s with pairFailureStep := some step }) := fun _ => hmac.ordered (.inl rfl)
  refine wp_ite (fun _ => ?_) fun _ => wp_ite (fun _ => ?_) fun _ => ?_
  · exact (wp_modify_bind _ _).mpr ((wp_pure _).mpr (hfail _))
  · exact (wp_modify_bind _ _).mpr ((wp_pure _).mpr (hfail _))
  refine wp_ofExcept_bind (fun setmac hsetmac => ?_) fun _ _ => hmac.ordered (.inl rfl)
  refine (wp_get_bind _).mpr ?_
  rcases hall : pairPayloads (mac'.getD "") with e | payloads
  · obtain ⟨e', he'⟩ := pairPayloads_error hsetmac hall
    refine wp_bind (wp_ofExcept_bind (fun a ha => ?_) fun _ _ => hmac.ordered (.inl rfl))
    rw [he'] at ha
    cases ha
  · have hwrites : sessionWrites p mac' = .ok (payloads ++ p.initCommands.map (·.payload)) := by
      simp only [sessionWrites, hpairs, if_true, hall]
      rfl
    have hbuild : (pairSteps setmac).mapM (fun step => buildCommand pairCmd step.subId step.data) =
        .ok payloads := by
      rw [pairPayloads, hsetmac] at hall
      exact hall
    refine (pairLoop_ordered p.commandUuid _ (pairSteps setmac) hbuild
      ⟨_, hwrites, by simp⟩ hmac).seq ?_
    intro ok w' h'
    cases ok with
    | true =>
        refine (wp_modify_bind _ _).mpr ((wp_pure _).mpr ⟨mac', payloads, hwrites, ?_⟩)
        exact ⟨h'.profile, h'.mac, h'.since⟩
    | false => exact (wp_pure _).mpr h'

/-- The init loop sends the rest, or fails in between. -/
theorem initLoop_ordered (uuid : Option String) (cs : List InitCommand) :
    ∀ {done : List Octets} {w : World},
      sessionWrites p hostMac = .ok (done ++ cs.map (·.payload)) →
      SentAt p hostMac base done w →
      wp env (initLoop uuid cs) (stagePost (ReadyAt p base) (OrderedAt p base)) w := by
  induction cs with
  | nil =>
      intro done w hall h
      rw [List.map_nil, List.append_nil] at hall
      exact (wp_pure _).mpr (h.ready hall)
  | cons c cs ih =>
      intro done w hall h
      have hall' : sessionWrites p hostMac = .ok ((done ++ [c.payload]) ++ cs.map (·.payload)) := by
        simpa using hall
      have hb : Begins p hostMac done := .inr ⟨_, hall, List.prefix_append _ _⟩
      have hb' : Begins p hostMac (done ++ [c.payload]) := .inr ⟨_, hall', List.prefix_append _ _⟩
      refine (writeGattChar_ordered uuid c.payload h hb).seq ?_
      intro r w' h'
      cases r with
      | error _ => exact (wp_pure _).mpr h'
      | ok _ =>
          refine wp_ite (fun _ => ?_) fun _ => ih hall' h'
          exact wp_bind ((awaitCall_sentAt _ w' h').mono (fun _ _ h => ih hall' h)
            (fun _ _ h => h.ordered hb') (fun _ h => h.ordered hb'))

theorem stageInit_ordered (h : PairedAt p base w) :
    wp env stageInit (stagePost (ReadyAt p base) (OrderedAt p base)) w := by
  obtain ⟨mac, done, hall, h⟩ := h
  refine (wp_get_bind _).mpr ?_
  rw [h.profile]
  exact initLoop_ordered _ _ hall h

/-! ## The session -/

/-- Nothing was sent yet. -/
def BegunAt (p : ProtocolProfile) (base : List Obs) (w : World) : Prop :=
  ∃ hostMac, SentAt p hostMac base [] w

theorem BegunAt.ordered (h : BegunAt p base w) : OrderedAt p base w :=
  h.elim fun _ h => h.ordered (.inl rfl)

theorem PairedAt.ordered (h : PairedAt p base w) : OrderedAt p base w := by
  obtain ⟨mac, done, hall, h⟩ := h
  exact h.ordered (.inr ⟨_, hall, List.prefix_append _ _⟩)

/-- A profile that does not pair is done with it. -/
theorem BegunAt.paired (h : BegunAt p base w) (hpairs : ¬p.pairs) : PairedAt p base w := by
  obtain ⟨mac, h⟩ := h
  refine ⟨mac, [], ?_, h⟩
  simp only [sessionWrites, hpairs]
  rfl

/-- The postcondition of the stages: ready to run, or ended in order. -/
def stagesPost (p : ProtocolProfile) (base : List Obs) : Post World PyErr (Option Bool) :=
  ⟨fun r w => if r = none then ReadyAt p base w else OrderedAt p base w,
    fun _ => OrderedAt p base, OrderedAt p base⟩

/-- One stage of the session, from an assertion that implies the order. -/
theorem runStages_ordered_cons {name : Stage} {fn : Daemon Bool}
    {rest : List (Stage × Daemon Bool)} {B : World → Prop} (hord : OrderedAt p base w)
    (hfn : wp env fn (stagePost B (OrderedAt p base)) w)
    (hB : ∀ w', B w' → wp env (runStages rest) (stagesPost p base)
      (w'.emit (.stageDone name true))) :
    wp env (runStages ((name, fn) :: rest)) (stagesPost p base) w := by
  refine runStages_cons_wp (B := fun w' => wp env (runStages rest) (stagesPost p base) w')
    (F := OrderedAt p base) (fun _ => hord.emit rfl) (fun _ => ?_) (fun _ h => h) ?_
  · refine hfn.mono ?_ (fun _ _ h => h) (fun _ h => h)
    intro ok w' h
    cases ok with
    | true => exact hB w' h
    | false => exact OrderedAt.emit h rfl
  · exact fun w' h => wp_of_reach .running cleanupClient_reach (fun _ hr => h.reach (.inr rfl) hr)
      (fun _ _ h => h) (fun _ _ h => h) fun _ h => h

/-- A stage before pairing sends nothing. -/
theorem stage_begun {fn : Daemon Bool} (hpart : part = .scan ∨ part = .connect ∨ part = .discover)
    (hfn : ∀ w, Always env (Reach env part w) fn) (h : BegunAt p base w) :
    wp env fn (stagePost (BegunAt p base) (OrderedAt p base)) w := by
  obtain ⟨mac, h⟩ := h
  refine wp_of_reach _ (hfn w) (fun _ hr => h.reach (.inr hpart) hr) ?_
    (fun _ _ h => h.ordered (.inl rfl)) fun _ h => h.ordered (.inl rfl)
  intro ok w' h'
  cases ok with
  | true => exact ⟨mac, h'⟩
  | false => exact h'.ordered (.inl rfl)

theorem stageSubscribe_ordered (h : ReadyAt p base w) :
    wp env stageSubscribe (stagePost (ReadyAt p base) (OrderedAt p base)) w := by
  refine wp_of_reach .subscribe stageSubscribe_reach (fun _ hr => h.reach (.inl rfl) hr) ?_
    (fun _ _ h => h.ordered) fun _ h => h.ordered
  intro ok w' h'
  cases ok with
  | true => exact h'
  | false => exact h'.ordered

theorem BegunAt.emit {o : Obs} (h : BegunAt p base w) (ho : o.isRequest = false) :
    BegunAt p base (w.emit o) := h.elim fun mac h => ⟨mac, h.emit ho⟩

theorem PairedAt.emit {o : Obs} (h : PairedAt p base w) (ho : o.isRequest = false) :
    PairedAt p base (w.emit o) := by
  obtain ⟨mac, done, hall, h⟩ := h
  exact ⟨mac, done, hall, h.emit ho⟩

theorem ReadyAt.emit {o : Obs} (h : ReadyAt p base w) (ho : o.isRequest = false) :
    ReadyAt p base (w.emit o) :=
  Since.extend h rfl fun _ htr => htr.append fun x hx => by
    rw [List.mem_singleton.mp hx]
    rintro _ _ _ rfl
    cases ho

/-- The stages of a session, in order. -/
theorem sessionStages_ordered (h : BegunAt p base w) :
    wp env (runStages (sessionStages p)) (stagesPost p base) w := by
  have hsubscribe : ∀ w, ReadyAt p base w →
      wp env (runStages [(.subscribe, stageSubscribe)]) (stagesPost p base) w := fun w h =>
    runStages_ordered_cons h.ordered (stageSubscribe_ordered h) fun _ h' =>
      (wp_pure _).mpr (h'.emit rfl)
  have hinit : ∀ w, PairedAt p base w → wp env (runStages [(.init, stageInit),
      (.subscribe, stageSubscribe)]) (stagesPost p base) w := fun w h =>
    runStages_ordered_cons h.ordered (stageInit_ordered h) fun w' h' => hsubscribe _ (h'.emit rfl)
  have hpair : ∀ w, BegunAt p base w → wp env (runStages ((if p.pairs then [(.pair, stagePair)]
      else []) ++ [(.init, stageInit), (.subscribe, stageSubscribe)])) (stagesPost p base) w := by
    intro w h
    by_cases hpairs : p.pairs
    · obtain ⟨mac, hsent⟩ := h
      simp only [hpairs, if_true, List.singleton_append]
      exact runStages_ordered_cons (hsent.ordered (.inl rfl)) (stagePair_ordered hpairs hsent)
        fun w' h' => hinit _ (h'.emit rfl)
    · simp only [hpairs]
      exact hinit w (h.paired hpairs)
  simp only [sessionStages, List.cons_append, List.nil_append]
  refine runStages_ordered_cons h.ordered
    (stage_begun (.inl rfl) (fun _ => stageScan_reach) h) fun w h => ?_
  have h := h.emit (o := .stageDone .scan true) rfl
  refine runStages_ordered_cons h.ordered
    (stage_begun (.inr (.inl rfl)) (fun _ => stageConnect_reach) h) fun w h => ?_
  have h := h.emit (o := .stageDone .connect true) rfl
  refine runStages_ordered_cons h.ordered
    (stage_begun (.inr (.inr rfl)) (fun _ => stageDiscover_reach) h) fun w h => ?_
  exact hpair _ (h.emit rfl)

/-- A session starts with nothing sent. -/
theorem startSession_begun (p : ProtocolProfile) (w : World) :
    BegunAt p w.trace (w.startSession (some p)) := by
  refine ⟨w.st.hostMac, by simp [DaemonState.resetFields],
    by simp [DaemonState.resetFields], ?_⟩
  obtain ⟨os, htrace, hos⟩ := World.setClient_obs none w
  have hsent : Sent [] ([] ++ os ++ [Obs.sessionStart p]) := by
    refine Sent.quiet (Sent.quiet ⟨rfl, by simp, by simp⟩ fun o ho => ?_) fun o ho => ?_
    · obtain ⟨_, _, rfl⟩ := hos o ho
      simp
    · rw [List.mem_singleton.mp ho]
      simp
  refine ⟨[] ++ os ++ [.sessionStart p], ?_, hsent⟩
  rw [World.startSession_trace, htrace, List.nil_append, List.append_assoc]
  rfl

/-- **Every session keeps the order**, at every moment. -/
theorem runSession_ordered (env : DaemonEnv) (p : ProtocolProfile) (w : World) (t b : ℕ) :
    ∃ tr, (runSession (some p) env ⟨w, t, b⟩).2.state.trace = w.trace ++ tr ∧
      Ordered p (runSession (some p) env ⟨w, t, b⟩).2.state.st.hostMac tr := by
  have hsession : wp env (runSession (some p)) (Post.all (OrderedAt p w.trace)) w := by
    refine (wp_modify_bind _ _).mpr ((wp_get_bind _).mpr ?_)
    have hbegun := startSession_begun p w
    have hprofile : (w.startSession (some p)).st.activeProfile = p :=
      hbegun.elim fun _ h => h.profile
    rw [hprofile]
    refine (sessionStages_ordered hbegun).seq ?_
    intro result w' h'
    cases result with
    | some result => exact (wp_pure _).mpr h'
    | none =>
        have hready : ReadyAt p w.trace w' := h'
        refine wp_bind (wp_of_reach .running runningLoop_reach
          (fun _ hr => hready.reach (.inr rfl) hr) ?_
          (fun _ _ h => h.ordered) fun _ h => h.ordered)
        intro _ w₁ h₁
        refine wp_bind (wp_of_reach .running cleanupClient_reach
          (fun _ hr => h₁.reach (.inr rfl) hr) ?_
          (fun _ _ h => h.ordered) fun _ h => h.ordered)
        intro _ w₂ h₂
        exact (wp_get_bind _).mpr ((wp_pure _).mpr h₂.ordered)
  exact (Outcome.sat_all (OrderedAt p w.trace) _ _).mp (hsession t b)

end Switch2Bt
