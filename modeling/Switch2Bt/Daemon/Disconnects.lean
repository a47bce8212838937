import Switch2Bt.Daemon.WakeUp

/-!
# Disconnects in the RUNNING loop (`switch2d.py`, `run_session`)

`on_disconnect` sets `disconnect_event`, and nothing in the RUNNING loop looks at it: the loop waits
for `notify_event` until that is set or the watchdog times out. So a session that is disconnected
waits for the reports of a client that is gone, unless the disconnect finds the loop about to leave
(`sessionEndsOnDisconnect_iff`).

* `World.Disconnected`: the disconnect of the current client was signalled in this session.
* `Iterates` gives the iterations of the loop; `runningLoop_blocked_iff` says that the loop is
  blocked in their waits and nowhere else.
-/

namespace Switch2Bt

open Await

/-! ## Events -/

/-- The link of the current client was lost in this session. -/
def World.Disconnected (w : World) : Prop :=
  ∃ id ∈ w.st.client, Obs.linkLost id ∈ attemptObs w.trace

instance (w : World) : Decidable w.Disconnected := inferInstanceAs (Decidable (∃ id ∈ _, _))

/-- An event by which the current client loses its link. -/
def World.Loses (w : World) (e : Event) : Prop :=
  ∃ id ∈ w.st.client, e = .linkLost id ∧ id ∈ w.up

/-- The world after these events. -/
def World.deliver (es : List Event) (w : World) : World := es.foldl (fun w e => dispatch e w) w

theorem World.deliver_append (es es' : List Event) (w : World) :
    w.deliver (es ++ es') = (w.deliver es).deliver es' := List.foldl_append

theorem World.deliver_snoc (es : List Event) (e : Event) (w : World) :
    w.deliver (es ++ [e]) = dispatch e (w.deliver es) := World.deliver_append es [e] w

section events

variable {w : World} {e : Event}

/-- An observation other than a lost link of the current client. -/
theorem World.Disconnected.emit_iff {w' : World} {o : Obs} (hclient : w'.st.client = w.st.client)
    (htrace : w'.trace = w.trace) (hstart : ∀ p, o ≠ .sessionStart p) :
    (w'.emit o).Disconnected ↔ w.Disconnected ∨ ∃ id ∈ w.st.client, o = .linkLost id := by
  have hobs : attemptObs (w'.emit o).trace = attemptObs w.trace ++ [o] := by
    rw [World.emit_trace, htrace]
    exact attemptObs_append _ fun x hx p => List.mem_singleton.mp hx ▸ hstart p
  unfold World.Disconnected
  rw [hobs, World.emit_st, hclient]
  constructor
  · rintro ⟨id, hid, hmem⟩
    rcases List.mem_append.mp hmem with hmem | hmem
    · exact .inl ⟨id, hid, hmem⟩
    · exact .inr ⟨id, hid, (List.mem_singleton.mp hmem).symm⟩
  · rintro (⟨id, hid, hmem⟩ | ⟨id, hid, rfl⟩)
    · exact ⟨id, hid, List.mem_append_left _ hmem⟩
    · exact ⟨id, hid, List.mem_append_right _ (List.mem_singleton.mpr rfl)⟩

/-- An observation of something else. -/
theorem World.Disconnected.emit_other {w' : World} {o : Obs} (hclient : w'.st.client = w.st.client)
    (htrace : w'.trace = w.trace) (hstart : ∀ p, o ≠ .sessionStart p)
    (hlost : ∀ id, o ≠ .linkLost id) : (w'.emit o).Disconnected ↔ w.Disconnected :=
  (emit_iff hclient htrace hstart).trans
    ⟨fun h => h.resolve_right fun ⟨id, _, heq⟩ => hlost id heq, .inl⟩

/-- Only the loss of its link disconnects the current client. -/
theorem dispatch_disconnected (e : Event) (w : World) :
    (dispatch e w).Disconnected ↔ w.Disconnected ∨ w.Loses e := by
  have hnot : ∀ {P : Prop}, (∀ id, e ≠ .linkLost id) → (P ↔ w.Disconnected) →
      (P ↔ w.Disconnected ∨ w.Loses e) := fun hne hP =>
    hP.trans ⟨.inl, fun h => h.resolve_right fun ⟨id, _, heq, _⟩ => hne id heq⟩
  cases e with
  | shutdown => exact hnot (fun _ heq => by cases heq) Iff.rfl
  | notification client n faults =>
      refine hnot (fun _ heq => by cases heq) ?_
      simp only [dispatch, handleReport]
      split_ifs
      · obtain ⟨uinput, jsonl, heq⟩ := acceptReport_eq n faults w.st
        have hclient : (acceptReport n faults w.st).client = w.st.client := by
          rw [heq]
          rfl
        exact World.Disconnected.emit_other hclient rfl (fun _ heq => by cases heq)
          fun _ heq => by cases heq
      · rfl
      · rfl
  | response client data =>
      refine hnot (fun _ heq => by cases heq) ?_
      simp only [dispatch]
      split_ifs
      · rfl
      · rfl
  | advert device adv =>
      refine hnot (fun _ heq => by cases heq) ?_
      simp only [dispatch]
      split_ifs
      · obtain ⟨scan, raw, mac, pairing, toHost, toOther, heq⟩ :=
          scanCallback_eq device adv (w.emit (.advert device adv))
        have hadvert : (w.emit (.advert device adv)).Disconnected ↔ w.Disconnected :=
          World.Disconnected.emit_other rfl rfl (fun _ heq => by cases heq)
            fun _ heq => by cases heq
        rw [heq]
        exact hadvert
      · rfl
  | linkLost client =>
      simp only [dispatch]
      split_ifs with hup
      · refine (World.Disconnected.emit_iff (o := .linkLost client) rfl rfl
          fun _ heq => by cases heq).trans (or_congr_right ?_)
        constructor
        · rintro ⟨id, hid, heq⟩
          obtain rfl := Obs.linkLost.inj heq
          exact ⟨client, hid, rfl, hup⟩
        · rintro ⟨id, hid, heq, -⟩
          obtain rfl := Event.linkLost.inj heq
          exact ⟨client, hid, rfl⟩
      · refine ⟨.inl, fun h => h.resolve_right ?_⟩
        rintro ⟨id, -, heq, hid⟩
        obtain rfl := Event.linkLost.inj heq
        exact hup hid

/-- The loss of a link does not wake the loop. -/
theorem World.Loses.notifyEvent (h : w.Loses e) :
    (dispatch e w).st.notifyEvent = w.st.notifyEvent := by
  obtain ⟨id, -, rfl, hup⟩ := h
  simp only [dispatch]
  rw [if_pos hup]
  rfl

/-- A callback does not undo a wake-up. -/
theorem Effect.notifyEvent {env : DaemonEnv} {w w' : World} (he : Effect env .preflight w w')
    (h : w.st.notifyEvent = true) : w'.st.notifyEvent = true := by
  cases he with
  | report => rfl
  | _ => exact h

theorem dispatch_notifyEvent (e : Event) (h : w.st.notifyEvent = true) :
    (dispatch e w).st.notifyEvent = true := by
  let env : DaemonEnv := ⟨fun _ => goodAnswer [], fun _ => [e]⟩
  have he : e ∈ env.events 0 := List.mem_singleton.mpr rfl
  rcases dispatch_effect .preflight he w with heq | heff
  · rw [heq]
    exact h
  · exact heff.notifyEvent h

theorem deliver_notifyEvent {es : List Event} (h : w.st.notifyEvent = true) :
    (w.deliver es).st.notifyEvent = true := by
  induction es using List.reverseRecOn with
  | nil => exact h
  | append_singleton es e ih =>
      rw [World.deliver_snoc]
      exact dispatch_notifyEvent e ih

/-- A client is disconnected by the event that takes its link. -/
theorem deliver_disconnected (es : List Event) (w : World) :
    (w.deliver es).Disconnected ↔ w.Disconnected ∨
      ∃ pre e post, es = pre ++ e :: post ∧ (w.deliver pre).Loses e := by
  induction es using List.reverseRecOn with
  | nil =>
      refine ⟨.inl, fun h => h.resolve_right ?_⟩
      rintro ⟨pre, e, post, heq, -⟩
      simp at heq
  | append_singleton es x ih =>
      rw [World.deliver_snoc, dispatch_disconnected, ih]
      constructor
      · rintro ((hold | ⟨pre, e, post, rfl, hloses⟩) | hloses)
        · exact .inl hold
        · exact .inr ⟨pre, e, post ++ [x], by simp, hloses⟩
        · exact .inr ⟨es, x, [], rfl, hloses⟩
      · rintro (hold | ⟨pre, e, post, heq, hloses⟩)
        · exact .inl (.inl hold)
        · rcases List.eq_nil_or_concat post with rfl | ⟨post, y, rfl⟩
          · obtain ⟨rfl, hlast⟩ := List.append_inj' heq rfl
            obtain rfl := List.singleton_inj.mp hlast
            exact .inr hloses
          · rw [List.concat_eq_append, ← List.cons_append, ← List.append_assoc] at heq
            obtain ⟨rfl, -⟩ := List.append_inj' heq rfl
            exact .inl (.inr ⟨pre, e, post, rfl, hloses⟩)

end events

/-! ## Iterations -/

/-- The environment that stops after `k` of the events of the `n`-th call. -/
def cutAt (env : DaemonEnv) (n k : ℕ) : DaemonEnv :=
  { env with events := fun t => if t = n then (env.events n).take k else env.events t }

/-- In the runs of the loop from `w` at tick `t`, an iteration starts in the second world at the
second tick. -/
inductive Iterates (env : DaemonEnv) (w : World) (t : ℕ) : World → ℕ → Prop where
  | start : Iterates env w t w t
  | next {w' : World} {t' : ℕ} (h : Iterates env w t w' t') (hgoing : w'.st.shutdown = false)
      (hstay : ¬(w'.afterWait env t').LeavesLoop
        (env.answer t' (.waitNotify w'.st.args.notifyTimeout))) :
      Iterates env w t (w'.afterWait env t') (t' + 1)

section iterations

variable {env : DaemonEnv} {w w' : World} {t t' : ℕ}

/-- An iteration of the second turn is one of the first. -/
theorem Iterates.head (hgoing : w.st.shutdown = false)
    (hstay : ¬(w.afterWait env t).LeavesLoop (env.answer t (.waitNotify w.st.args.notifyTimeout)))
    (h : Iterates env (w.afterWait env t) (t + 1) w' t') : Iterates env w t w' t' := by
  induction h with
  | start => exact .next .start hgoing hstay
  | next _ hgoing' hstay' ih => exact .next ih hgoing' hstay'

/-- The runs of the loop pass through its iterations, in every environment that is the same so
far. -/
theorem Iterates.run (h : Iterates env w t w' t') {env' : DaemonEnv}
    (hanswer : env'.answer = env.answer) (hevents : ∀ s < t', env'.events s = env.events s) :
    ∃ c, ∀ b, runningLoop env' ⟨w, t, c + b⟩ = runningLoop env' ⟨w', t', b⟩ := by
  induction h with
  | start => exact ⟨0, fun b => by rw [Nat.zero_add]⟩
  | @next w₁ t₁ _ hgoing hstay ih =>
      obtain ⟨c, hc⟩ := ih fun s hs => hevents s (by omega)
      have hafter : w₁.afterWait env' t₁ = w₁.afterWait env t₁ := by
        unfold World.afterWait
        rw [hevents t₁ (by omega)]
      have hstay' : ¬(w₁.afterWait env' t₁).LeavesLoop
          (env'.answer t₁ (.waitNotify w₁.st.args.notifyTimeout)) := by
        rw [hafter, hanswer]
        exact hstay
      refine ⟨c + 1, fun b => ?_⟩
      rw [Nat.add_assoc, hc, Nat.add_comm 1 b, runningLoop_continues hgoing hstay', hafter]

/-- A blocked run has counted its waits. -/
theorem runningLoop_tick {b : ℕ} {r : Run World}
    (h : runningLoop env ⟨w, t, b⟩ = (.suspended, r)) : r.tick = t + b + 1 := by
  induction b generalizing w t with
  | zero =>
      by_cases hs : w.st.shutdown = true
      · rw [runningLoop_shutdown hs] at h
        cases h
      · rw [runningLoop_suspended (by simpa using hs)] at h
        cases h
        rfl
  | succ b ih =>
      by_cases hs : w.st.shutdown = true
      · rw [runningLoop_shutdown hs] at h
        cases h
      have hs : w.st.shutdown = false := by simpa using hs
      by_cases hleave : (w.afterWait env t).LeavesLoop
          (env.answer t (.waitNotify w.st.args.notifyTimeout))
      · rw [runningLoop_leaves hs hleave] at h
        cases h
      · rw [runningLoop_continues hs hleave] at h
        rw [ih h]
        omega

/-- **The loop is blocked in the waits of its iterations**, after any of the events that they are
given. -/
theorem runningLoop_blocked_iff {n k : ℕ} :
    (∃ b, runningLoop (cutAt env n k) ⟨w, t, b⟩ = (.suspended, ⟨w', n + 1, 0⟩)) ↔
      ∃ w₁, Iterates env w t w₁ n ∧ w₁.st.shutdown = false ∧
        w' = w₁.clearNotify.deliver ((env.events n).take k) := by
  have hself : (cutAt env n k).events n = (env.events n).take k := if_pos rfl
  have hother : ∀ s ≠ n, (cutAt env n k).events s = env.events s := fun s hs => if_neg hs
  constructor
  · rintro ⟨b, h⟩
    induction b generalizing w t with
    | zero =>
        by_cases hs : w.st.shutdown = true
        · rw [runningLoop_shutdown hs] at h
          cases h
        have hs : w.st.shutdown = false := by simpa using hs
        have htick := runningLoop_tick h
        obtain rfl : n = t := by simpa using htick
        rw [runningLoop_suspended hs] at h
        cases h
        refine ⟨w, .start, hs, ?_⟩
        rw [World.afterWait, hself]
        rfl
    | succ b ih =>
        by_cases hs : w.st.shutdown = true
        · rw [runningLoop_shutdown hs] at h
          cases h
        have hs : w.st.shutdown = false := by simpa using hs
        have htick : n + 1 = t + (b + 1) + 1 := runningLoop_tick h
        have hafter : w.afterWait (cutAt env n k) t = w.afterWait env t := by
          unfold World.afterWait
          rw [hother t (by omega)]
        by_cases hleave : (w.afterWait (cutAt env n k) t).LeavesLoop
            ((cutAt env n k).answer t (.waitNotify w.st.args.notifyTimeout))
        · rw [runningLoop_leaves hs hleave] at h
          cases h
        · rw [runningLoop_continues hs hleave, hafter] at h
          rw [hafter] at hleave
          obtain ⟨w₁, hiter, hrest⟩ := ih h
          exact ⟨w₁, hiter.head hs hleave, hrest⟩
  · rintro ⟨w₁, hiter, hs, rfl⟩
    have hsame : ∃ c, ∀ b, runningLoop (cutAt env n k) ⟨w, t, c + b⟩ =
        runningLoop (cutAt env n k) ⟨w₁, n, b⟩ := hiter.run rfl fun s hs => hother s (by omega)
    obtain ⟨c, hc⟩ := hsame
    refine ⟨c, ?_⟩
    have hrun := hc 0
    rw [Nat.add_zero, runningLoop_suspended hs, World.afterWait, hself] at hrun
    exact hrun

end iterations

/-! ## Disconnects -/

/-- The runs of the RUNNING loop from `w` at tick `t` never wait for reports of a client that is
disconnected. They are stopped after any of the events of any of their awaits. -/
def NeverWaitsDisconnected (env : DaemonEnv) (w : World) (t : ℕ) : Prop :=
  ∀ n k b w', runningLoop (cutAt env n k) ⟨w, t, b⟩ = (.suspended, ⟨w', n + 1, 0⟩) →
    w'.st.notifyEvent = false → ¬w'.Disconnected

/-- A disconnect finds the loop about to leave: it comes before the loop with the shutdown flag
set, or in a wait that a report has woken and that is the last. -/
structure DisconnectsLast (env : DaemonEnv) (w : World) (t : ℕ) : Prop where
  start : w.Disconnected → w.st.shutdown = true
  woken : ∀ w' t', Iterates env w t w' t' → w'.st.shutdown = false →
    ∀ pre e post, env.events t' = pre ++ e :: post → (w'.clearNotify.deliver pre).Loses e →
      (w'.clearNotify.deliver pre).st.notifyEvent = true
  last : ∀ w' t', Iterates env w t w' t' → w'.st.shutdown = false →
    ∀ pre e post, env.events t' = pre ++ e :: post → (w'.clearNotify.deliver pre).Loses e →
      (w'.afterWait env t').LeavesLoop (env.answer t' (.waitNotify w'.st.args.notifyTimeout)) ∨
        (w'.afterWait env t').st.shutdown = true

section disconnects

variable {env : DaemonEnv} {w w' : World} {t t' : ℕ}

theorem neverWaitsDisconnected_iff_iterates : NeverWaitsDisconnected env w t ↔
    ∀ w' t', Iterates env w t w' t' → w'.st.shutdown = false → ∀ k,
      (w'.clearNotify.deliver ((env.events t').take k)).st.notifyEvent = false →
        ¬(w'.clearNotify.deliver ((env.events t').take k)).Disconnected := by
  constructor
  · intro h w' t' hiter hs k
    obtain ⟨b, hb⟩ := runningLoop_blocked_iff.mpr ⟨w', hiter, hs, rfl⟩
    exact h t' k b _ hb
  · intro h n k b w' hb
    obtain ⟨w₁, hiter, hs, rfl⟩ := runningLoop_blocked_iff.mp ⟨b, hb⟩
    exact h w₁ n hiter hs k

/-- An iteration that starts in the loop starts with the client connected. -/
theorem DisconnectsLast.connected (h : DisconnectsLast env w t) (hiter : Iterates env w t w' t')
    (hs : w'.st.shutdown = false) : ¬w'.Disconnected := by
  induction hiter with
  | start =>
      intro hdis
      simp [h.start hdis] at hs
  | @next w₁ t₁ hiter hgoing hstay ih =>
      intro hdis
      rcases (deliver_disconnected _ w₁.clearNotify).mp hdis with hold | ⟨pre, e, post, heq, hlose⟩
      · exact ih hgoing hold
      · rcases h.last w₁ t₁ hiter hgoing pre e post heq hlose with hleave | hshut
        · exact hstay hleave
        · simp [hshut] at hs

/-- Where disconnects find the loop about to leave, it never waits for a disconnected client. -/
theorem DisconnectsLast.neverWaits (h : DisconnectsLast env w t) :
    NeverWaitsDisconnected env w t := by
  refine neverWaitsDisconnected_iff_iterates.mpr fun w' t' hiter hs k hnotify hdis => ?_
  rcases (deliver_disconnected _ w'.clearNotify).mp hdis with hold | ⟨pre, e, post, heq, hlose⟩
  · exact h.connected hiter hs hold
  · -- the event that woke the wait is still set after the rest of the events
    have hall : env.events t' = pre ++ e :: (post ++ (env.events t').drop k) := by
      rw [← List.cons_append, ← List.append_assoc, ← heq, List.take_append_drop]
    have hset : (w'.clearNotify.deliver pre).st.notifyEvent = true :=
      h.woken w' t' hiter hs pre e _ hall hlose
    rw [heq, World.deliver_append, deliver_notifyEvent hset] at hnotify
    exact Bool.noConfusion hnotify

/-- A loop that never waits for a disconnected client is about to leave when it is disconnected. -/
theorem NeverWaitsDisconnected.disconnectsLast (h : NeverWaitsDisconnected env w t) :
    DisconnectsLast env w t := by
  rw [neverWaitsDisconnected_iff_iterates] at h
  have hconnected : ∀ w' t', Iterates env w t w' t' → w'.st.shutdown = false →
      ¬w'.Disconnected := fun w' t' hiter hs => h w' t' hiter hs 0 rfl
  constructor
  · intro hdis
    by_contra hs
    exact hconnected w t .start (by simpa using hs) hdis
  · intro w' t' hiter hs pre e post heq hlose
    have htake : (env.events t').take (pre.length + 1) = pre ++ [e] := by
      rw [heq, List.take_length_add_append]
      rfl
    have hdis : ((w'.clearNotify.deliver pre).deliver [e]).Disconnected :=
      (dispatch_disconnected e _).mpr (.inr hlose)
    have hwait := h w' t' hiter hs (pre.length + 1)
    rw [htake, World.deliver_append] at hwait
    have hsame : ((w'.clearNotify.deliver pre).deliver [e]).st.notifyEvent =
        (w'.clearNotify.deliver pre).st.notifyEvent := hlose.notifyEvent
    rw [hsame] at hwait
    by_contra hclear
    exact hwait (by simpa using hclear) hdis
  · intro w' t' hiter hs pre e post heq hlose
    by_contra hgoing
    rw [not_or] at hgoing
    have hdis : (w'.afterWait env t').Disconnected :=
      (deliver_disconnected _ w'.clearNotify).mpr (.inr ⟨pre, e, post, heq, hlose⟩)
    exact hconnected _ _ (hiter.next hs hgoing.1) (by simpa using hgoing.2) hdis

theorem neverWaitsDisconnected_iff : NeverWaitsDisconnected env w t ↔ DisconnectsLast env w t :=
  ⟨NeverWaitsDisconnected.disconnectsLast, DisconnectsLast.neverWaits⟩

/-- A loop whose first wait loses the link waits on. -/
theorem not_neverWaitsDisconnected {id : ClientId} {es : List Event}
    (hgoing : w.st.shutdown = false) (hclient : w.st.client = some id) (hup : id ∈ w.up)
    (hevents : env.events t = .linkLost id :: es) : ¬NeverWaitsDisconnected env w t := by
  intro h
  have hset : (w.clearNotify.deliver []).st.notifyEvent = true :=
    h.disconnectsLast.woken w t .start hgoing [] (.linkLost id) es hevents ⟨id, hclient, rfl, hup⟩
  exact Bool.noConfusion hset

end disconnects

/-- The RUNNING loop of a session never waits for a disconnected client, should its stages end
well. -/
def SessionEndsOnDisconnect (env : DaemonEnv) (profile : Option ProtocolProfile)
    (start : Run World) : Prop :=
  (stagesRun env profile start).1 = .done none →
    NeverWaitsDisconnected env (stagesRun env profile start).2.state
      (stagesRun env profile start).2.tick

/-- **A disconnect ends the session** iff it finds the RUNNING loop about to leave.
Source: `switch2d.py` `run_session` (RUNNING loop), `stage_connect` (`on_disconnect`) -/
theorem sessionEndsOnDisconnect_iff (env : DaemonEnv) (profile : Option ProtocolProfile)
    (start : Run World) :
    SessionEndsOnDisconnect env profile start ↔ ((stagesRun env profile start).1 = .done none →
      DisconnectsLast env (stagesRun env profile start).2.state
        (stagesRun env profile start).2.tick) :=
  forall_congr' fun _ => neverWaitsDisconnected_iff

/-- A controller whose link is lost in the first wait of the RUNNING loop. -/
def lostLinkEnv : DaemonEnv := padEnv fun
  | 1 => [.advert ⟨"E0:EF:BF:3B:C6:76"⟩ (padAdvert [1, 2, 3, 4, 5, 6])]
  | 6 => [.linkLost 0]
  | _ => []

/-- The loop waits on for its reports. -/
theorem not_sessionEndsOnDisconnect_lostLink :
    ¬SessionEndsOnDisconnect lostLinkEnv none (limitStart 0) := by
  intro h
  have hstages : (stagesRun lostLinkEnv none (limitStart 0)).1 = .done none := by
    decide +kernel
  have htick : (stagesRun lostLinkEnv none (limitStart 0)).2.tick = 6 := by decide +kernel
  have hgoing : (stagesRun lostLinkEnv none (limitStart 0)).2.state.st.shutdown = false := by
    decide +kernel
  have hclient : (stagesRun lostLinkEnv none (limitStart 0)).2.state.st.client = some 0 := by
    decide +kernel
  have hup : 0 ∈ (stagesRun lostLinkEnv none (limitStart 0)).2.state.up := by decide +kernel
  have hevents : lostLinkEnv.events (stagesRun lostLinkEnv none (limitStart 0)).2.tick =
      [.linkLost 0] := by
    rw [htick]
    rfl
  exact not_neverWaitsDisconnected hgoing hclient hup hevents (h hstages)

end Switch2Bt
