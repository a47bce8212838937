import Switch2Bt.Sw2d.Controller

/-!
# Terminal events and the attempts they end (`sw2d_final.c`, `rx_await`)

`rx_await` returns on the next LE Connection Complete or Disconnection Complete, whatever attempt
it belongs to. It ends the current attempt in every run in which each LE Create Connection is sent
when nothing of an earlier attempt is pending, open or unread (`attributed_of_fresh`). The drain of
`hci_user_cancel_connect` does not see to that: it stops at the Command Complete of the Cancel, and
the completion of the cancelled creation is left for the next `rx_await` (`not_attributed_stale`).
-/

namespace Switch2Bt.Sw2d

open Await Octets

/-- An event is read that makes `rx_await` return. -/
def Obs.endsWait : Obs → Bool
  | .read .rxAwait _ _ f => decide f.isTerminal
  | _ => false

/-- An event that makes `rx_await` return ends the current attempt. -/
def AttributedAt (pre : List Obs) (o : Obs) : Prop :=
  o.endsWait = true → ∀ c ∈ controller pre, c.next = some c.attempt

instance (pre : List Obs) (o : Obs) : Decidable (AttributedAt pre o) :=
  inferInstanceAs (Decidable (_ → _))

/-- LE Create Connection is sent when nothing of an earlier attempt is pending, open or unread. -/
def FreshAt (pre : List Obs) (o : Obs) : Prop :=
  ∀ params, o = .command opCreateConn params true →
    ∀ c ∈ controller pre, c.pending = [] ∧ c.links = [] ∧ ∀ q ∈ c.queue, q.tag = .plain

instance (pre : List Obs) (o : Obs) : Decidable (FreshAt pre o) :=
  match o with
  | .command opcode params ok =>
      decidable_of_iff (opcode = opCreateConn → ok = true →
        ∀ c ∈ controller pre, c.pending = [] ∧ c.links = [] ∧ ∀ q ∈ c.queue, q.tag = .plain)
        ⟨fun h _ heq => by cases heq; exact h rfl rfl, fun h ho hk => h params (ho ▸ hk ▸ rfl)⟩
  | .sessionStart | .state _ | .acl .. | .read .. | .delivered .. | .notDelivered _
  | .attStep _ | .attMtu _ | .services .. | .reconnect | .ctl _ => isTrue nofun

/-- What is pending, open or unread is of the current attempt. -/
def Ctl.Own (c : Ctl) : Prop := c.Each fun a => a = c.attempt

/-- With nothing of an earlier attempt, everything is of the current one. -/
theorem Ctl.Own.of_fresh {c : Ctl} (hp : c.pending = []) (hl : c.links = [])
    (hq : ∀ q ∈ c.queue, q.tag = .plain) : c.Own := by
  refine ⟨by rw [hp]; exact nofun, by rw [hl]; exact nofun, fun q hmem a ha => ?_⟩
  rw [hq q hmem] at ha
  cases ha

/-- Until the next session, what is pending, open or unread stays of this attempt. -/
theorem Ctl.Own.step {c c' : Ctl} {o : Obs} (h : c.Own) (hstep : Ctl.Step c o c')
    (ho : o ≠ .sessionStart) : c'.Own :=
  (Ctl.Each.step h hstep fun _ _ => rfl).mono fun _ ha => ha.trans (hstep.attempt_eq ho).symm

/-- A run of the controller that meets the condition so far. -/
def FreshRun (pre : List Obs) (o : Obs) : Prop := ControllerAt pre o ∧ FreshAt pre o

/-- What was read so far was of the attempt it was read in. -/
def Attributed (w : World) : Prop := Everywhere AttributedAt w.trace

/-- The wait for the completion of the current attempt. -/
abbrev OwnWait : World → Prop := Watched AttributedAt Ctl.Own

/-! ## Steps -/

variable {o : Obs} {w : World}

theorem attributedAt_of_not {pre : List Obs} (ho : o.endsWait = false) : AttributedAt pre o :=
  fun hend => absurd (ho.symm.trans hend) (by decide)

theorem Attributed.emit (h : Attributed w) (ho : o.endsWait = false) : Attributed (w.emit o) :=
  everywhere_snoc.mpr ⟨h, attributedAt_of_not ho⟩

theorem OwnWait.emit (h : OwnWait w) (hs : o ≠ .sessionStart) (ho : o.endsWait = false) :
    OwnWait (w.emit o) :=
  Tracked.snoc h (attributedAt_of_not ho)
    fun _ _ _ hown hstep => hown.step (Ctl.step_cases hstep) hs

/-- A read in the wait for the completion. -/
theorem OwnWait.read {data : Octets} {f : Frame} (h : OwnWait w) (hf : f.ReadFrom data)
    (hctl : ControllerAt w.trace (.read .rxAwait w.s.connHandle data f)) :
    OwnWait (w.read .rxAwait data f) := by
  refine Tracked.snoc h (fun hend c hc => ?_)
    fun _ _ _ hown hstep => hown.step (Ctl.step_cases hstep) nofun
  have hterm : f.isTerminal := of_decide_eq_true hend
  obtain ⟨c₀, c₁, hc₀, hstep, -⟩ := hctl.step
  cases hc₀.symm.trans hc
  obtain ⟨q, queue, hq, rfl, -⟩ := Ctl.read_cases hstep
  obtain ⟨a, hnext, htag⟩ := Ctl.next_eq_of_terminal hc hq hf hterm
  rw [hnext, (h.state c hc).tags q (hq ▸ List.mem_cons_self) a htag]

abbrev IfFresh : (World → Prop) → World → Prop := Under FreshRun

variable {env : HostEnv} {aes : Block → Block → Block}

theorem IfFresh.attributed_emit (h : IfFresh Attributed w) (ho : o.endsWait = false) :
    IfFresh Attributed (w.emit o) :=
  Under.emit h fun _ ha => ha.emit ho

theorem attributed_ctl : CtlStable (IfFresh Attributed) := fun _ _ h => h.attributed_emit rfl

theorem attributed_read {place : Place} {data : Octets} {f : Frame} (hplace : place ≠ .rxAwait)
    (h : IfFresh Attributed w) : IfFresh Attributed (w.read place data f) := by
  apply h.attributed_emit
  cases place with
  | rxAwait => exact absurd rfl hplace
  | _ => rfl

theorem attributed_setState (st : SessionState) (w : World) (h : IfFresh Attributed w) :
    IfFresh Attributed (w.setState st) :=
  IfFresh.attributed_emit (w := w.update fun s => { s with state := st }) h rfl

/-- Once the connection is made, nothing is read in `rx_await`. -/
theorem lasts_attributed : Lasts (IfFresh Attributed) where
  ctl := attributed_ctl
  update _ _ h := h
  emit o _ ho h := by
    apply h.attributed_emit
    cases o with
    | read place handle data f =>
        cases place with
        | rxAwait => cases ho
        | _ => rfl
    | _ => rfl

theorem ownWait_ctl : CtlStable (IfFresh OwnWait) :=
  fun _ _ h => h.emit fun _ ho => ho.emit nofun rfl

theorem ownWait_read {data : Octets} {f : Frame} (hf : f.ReadFrom data) (h : IfFresh OwnWait w) :
    IfFresh OwnWait (w.read .rxAwait data f) := Under.emit h fun hc ho => ho.read hf hc.1

theorem ownWait_setState {st : SessionState} (h : IfFresh OwnWait w) :
    IfFresh OwnWait (w.setState st) := by
  have hupd : IfFresh OwnWait (w.update fun s => { s with state := st }) :=
    fun hC => ⟨(h hC).obs, (h hC).state⟩
  exact hupd.emit fun _ ho => ho.emit nofun rfl

/-- Phase 1: what ends the wait is of this attempt. -/
theorem connect_attributed (h : IfFresh Attributed w) :
    wp env connect (Post.all (IfFresh Attributed)) w := by
  have hatt : ∀ {w}, IfFresh OwnWait w → IfFresh Attributed w := fun h => h.mono Tracked.obs
  refine wp_connect (IfFresh Attributed) (IfFresh OwnWait) (IfFresh Attributed) attributed_ctl
    attributed_ctl h (fun _ h => h) (fun _ h => h) (fun _ h => h.attributed_emit rfl)
    (fun w h => ?_) (fun w h => ?_) fun _ h => h
  · -- nothing of an earlier attempt is left when the creation is sent
    refine h.emit fun hc ha => ⟨ha.emit rfl, fun c hctl => ?_⟩
    obtain ⟨c₀, c₁, hc₀, hstep, hc₁⟩ := hc.1.step
    obtain ⟨hp, hl, hq⟩ := hc.2 _ rfl c₀ hc₀
    obtain rfl : c₁ = c := Option.some.inj (hc₁.symm.trans hctl)
    exact (Ctl.Own.of_fresh hp hl hq).step (Ctl.step_cases hstep) nofun
  · have hread : ∀ data f w, f.ReadFrom data → IfFresh OwnWait w →
        IfFresh Attributed (w.read .rxAwait data f) := fun _ _ _ hf h => hatt (ownWait_read hf h)
    exact wp_rxAwait (IfFresh OwnWait) ownWait_ctl h (fun _ h => hatt h) (fun _ h => hatt h)
      (fun data f w h hf _ => hread data f w hf h) (fun _ _ _ h hf _ _ _ => ownWait_read hf h)
      (fun _ _ _ h hf _ _ => ownWait_setState (ownWait_read hf h))
      (fun data f w h hf _ _ => hread data f w hf h)
      (fun data f w h hf _ _ => attributed_setState _ _ (hread data f w hf h))
      fun data f w h hf _ _ _ => attributed_setState _ _ (hread data f w hf h)

theorem beginSession_attributed (h : IfFresh Attributed w) :
    wp env beginSession (Post.all (IfFresh Attributed)) w := by
  have hbegin : IfFresh Attributed w.begin :=
    IfFresh.attributed_emit (w := (w.emit .sessionStart).update _) (h.attributed_emit rfl) rfl
  exact wp_beginSession _ _ attributed_ctl attributed_ctl hbegin (fun _ h => h) (fun _ h => h)
    (fun _ => hbegin) (fun _ _ h => h.attributed_emit rfl)
    (fun _ _ _ h _ => attributed_read nofun h) fun _ h => h

/-- An iteration, in a run in which each creation is sent when nothing of an earlier attempt is
left. -/
theorem iteration_attributed (b : Bool) (h : IfFresh Attributed w) :
    wp env (iteration aes b) (Post.all (IfFresh Attributed)) w := by
  have hbegin : Always env (IfFresh Attributed) beginSession := fun _ h => beginSession_attributed h
  have hconnect : Always env (IfFresh Attributed) connect := fun _ h => connect_attributed h
  unfold iteration
  exact (hbegin.bind fun _ => hconnect.bind fun _ => lasts_attributed.phases aes b) w h

/-- **In every run of the controller in which LE Create Connection is sent only when nothing of an
earlier attempt is pending, open or unread, what ends a wait of `rx_await` ends the attempt it waits
for.** -/
theorem attributed_of_fresh (cfg : HostConfig) (budget : ℕ)
    (hctl : Everywhere ControllerAt (hostRun aes cfg env budget).trace)
    (hfresh : Everywhere FreshAt (hostRun aes cfg env budget).trace) :
    Everywhere AttributedAt (hostRun aes cfg env budget).trace :=
  hostRun_of_iteration attributed_ctl (fun _ h => h) (fun _ h => h.attributed_emit rfl)
    (fun _ hw => iteration_attributed _ hw) (fun _ => everywhere_nil) budget (hctl.and hfresh)

/-- A peer that is found, closes the link, and is found again. -/
def foundRun : World :=
  hostRun BlockCipher.identity.enc publicConfig
    (HostEnv.scripted 0
      [(6, connCompleteOctets 0x00 0x0040 (List.replicate 15 0x00)),
        (14, disconnOctets 0x0040 0x13), (20, cancelCompleteOctets 0x0c),
        (27, connCompleteOctets 0x00 0x0041 (List.replicate 15 0x00))]
      [(6, [.connComplete 1 0x00 0x0040 (List.replicate 15 0x00)]), (14, [.closed 0x0040 0x13]),
        (20, [.cancelComplete 0x0c]),
        (27, [.connComplete 2 0x00 0x0041 (List.replicate 15 0x00)])]) 32

/-- Each of the two completions is read in the attempt that it ends. -/
theorem attributed_found :
    (foundRun.trace.filter Obs.endsWait).length = 2 ∧ Everywhere AttributedAt foundRun.trace :=
  ⟨by decide +kernel, attributed_of_fresh publicConfig 32 (by decide +kernel) (by decide +kernel)⟩

/-- A peer that is not found in time. The creation is cancelled, and the drain ends with the Command
Complete of the Cancel; the completion of the cancelled creation comes next. -/
def staleRun : World :=
  hostRun BlockCipher.identity.enc publicConfig
    (HostEnv.scripted 2000
      [(14, cancelCompleteOctets 0x00),
        (21, connCompleteOctets 0x02 0x0000 (List.replicate 15 0x00))]
      [(14, [.cancelComplete 0x00]),
        (15, [.connComplete 1 0x02 0x0000 (List.replicate 15 0x00)])]) 22

/-- There the second attempt ends with the completion of the first. -/
theorem not_attributed_stale :
    Everywhere ControllerAt staleRun.trace ∧ ¬Everywhere AttributedAt staleRun.trace := by
  constructor
  · decide +kernel
  · decide +kernel

end Switch2Bt.Sw2d
