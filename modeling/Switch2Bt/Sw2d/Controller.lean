import Switch2Bt.Sw2d.Rules

/-!
# The controller

`Ctl` is the controller as the host meets it: the creations that are pending, the links that are
open, and the queue of the events the host has not read. `Ctl.step` follows a trace; it refuses
what no controller does. Every LE Create Connection yields one LE Connection Complete, a Cancel
yields its Command Complete and the completion of the cancelled creation, a closed link yields
its Disconnection Complete, all with any delay; the host reads the events in order.

An event in the queue is tagged with the attempt it ends, which the host cannot see.
-/

namespace Switch2Bt.Sw2d

open Await Octets

/-- What an event in the queue is about. -/
inductive Tag where
  | connComplete (attempt : ℕ) (status : UInt8)
  | closed (attempt : ℕ)
  | plain
deriving DecidableEq, Repr

/-- The attempt that an event ends. -/
def Tag.attempt : Tag → Option ℕ
  | .connComplete attempt _ => some attempt
  | .closed attempt => some attempt
  | .plain => none

/-- An event that the host has not read. -/
structure Queued where
  tag : Tag
  octets : Octets
deriving DecidableEq, Repr

/-- The controller; a pending creation comes with whether it was cancelled. -/
structure Ctl where
  attempt : ℕ
  pending : List (ℕ × Bool)
  links : List (UInt16 × ℕ)
  cancels : ℕ
  queue : List Queued
deriving DecidableEq, Repr

/-- The controller before the loop. -/
def Ctl.start : Ctl := ⟨0, [], [], 0, []⟩

/-- LE Connection Complete. -/
def connCompleteOctets (status : UInt8) (handle : UInt16) (rest : Octets) : Octets :=
  [hciEventPkt, evtLeMeta, 0x13, evtLeConnComplete, status] ++ putLe16 handle ++ rest

/-- Disconnection Complete. -/
def disconnOctets (handle : UInt16) (reason : UInt8) : Octets :=
  [hciEventPkt, evtDisconnComplete, 0x04, 0x00] ++ putLe16 handle ++ [reason]

/-- Command Complete of LE Create Connection Cancel. -/
def cancelCompleteOctets (status : UInt8) : Octets :=
  [hciEventPkt, evtCmdComplete, 0x04, 0x01] ++ putLe16 opCancelConn ++ [status]

/-- A frame other than these two: an event has the length it names. -/
def IsPlain (octets : Octets) : Prop :=
  octets.octet 0 = hciEventPkt → octets.length = 3 + (octets.octet 2).toNat ∧
    octets.octet 1 ≠ evtDisconnComplete ∧
    ¬(octets.octet 1 = evtLeMeta ∧ octets.octet 3 = evtLeConnComplete)

instance (octets : Octets) : Decidable (IsPlain octets) := inferInstanceAs (Decidable (_ → _))

namespace Ctl

/-- LE Create Connection. -/
def create (c : Ctl) : Ctl := { c with pending := c.pending ++ [(c.attempt, false)] }

/-- LE Create Connection Cancel: whatever is pending is cancelled. -/
def cancel (c : Ctl) : Ctl :=
  { c with pending := c.pending.map fun p => (p.1, true), cancels := c.cancels + 1 }

/-- A creation completes: with any result, or as cancelled. -/
def MayComplete (c : Ctl) (attempt : ℕ) (status : UInt8) (handle : UInt16) : Prop :=
  ((attempt, false) ∈ c.pending ∨ ((attempt, true) ∈ c.pending ∧ status = 0x02)) ∧
    (status = 0x00 → ∀ l ∈ c.links, l.1 ≠ handle)

instance (c : Ctl) (attempt : ℕ) (status : UInt8) (handle : UInt16) :
    Decidable (c.MayComplete attempt status handle) := inferInstanceAs (Decidable (_ ∧ _))

def send (c : Ctl) (tag : Tag) (octets : Octets) : Ctl :=
  { c with queue := c.queue ++ [⟨tag, octets⟩] }

/-- A creation is no longer pending, and a link is open if it succeeded. -/
def complete (c : Ctl) (attempt : ℕ) (status : UInt8) (handle : UInt16) : Ctl :=
  { c with
    pending := c.pending.filter fun p => p.1 ≠ attempt
    links := if status = 0x00 then c.links ++ [(handle, attempt)] else c.links }

/-- A link is no longer open. -/
def close (c : Ctl) (handle : UInt16) : Ctl :=
  { c with links := c.links.filter fun l => l.1 ≠ handle }

/-- What the controller does on its own. -/
def act (c : Ctl) : CtlEvent → Option Ctl
  | .connComplete attempt status handle rest =>
      if rest.length = 15 ∧ c.MayComplete attempt status handle then
        some ((c.complete attempt status handle).send (.connComplete attempt status)
          (connCompleteOctets status handle rest))
      else none
  | .cancelComplete status =>
      if 0 < c.cancels then
        some ({ c with cancels := c.cancels - 1 }.send .plain (cancelCompleteOctets status))
      else none
  | .closed handle reason =>
      (c.links.find? fun l => l.1 = handle).map fun l =>
        (c.close handle).send (.closed l.2) (disconnOctets handle reason)
  | .other octets => if IsPlain octets then some (c.send .plain octets) else none

/-- The host reads the oldest event. -/
def read (c : Ctl) (data : Octets) : Option Ctl :=
  match c.queue with
  | [] => none
  | q :: queue => if data = q.octets.take 512 then some { c with queue := queue } else none

/-- The controller after one more observation. -/
def step (c : Ctl) : Obs → Option Ctl
  | .sessionStart => some { c with attempt := c.attempt + 1 }
  | .command opcode _ ok =>
      some (if ok = false then c
        else if opcode = opCreateConn then c.create
        else if opcode = opCancelConn then c.cancel
        else c)
  | .read _ _ data _ => c.read data
  | .ctl e => c.act e
  | _ => some c

/-- The attempt that the oldest unread event ends. -/
def next (c : Ctl) : Option ℕ := c.queue.head?.bind fun q => q.tag.attempt

end Ctl

/-- The controller after a trace. -/
def controller (tr : List Obs) : Option Ctl := monitor Ctl.step Ctl.start tr

/-- The controller accepts the next observation. -/
def ControllerAt (pre : List Obs) (o : Obs) : Prop := (controller (pre ++ [o])).isSome

instance (pre : List Obs) (o : Obs) : Decidable (ControllerAt pre o) :=
  inferInstanceAs (Decidable (_ = true))

/-! ## Frames -/

/-- A frame with which `rx_await` returns while it waits for an LE Connection Complete. -/
def Frame.isTerminal (f : Frame) : Prop :=
  f.isDisconnect ∨ f.pktType = hciEventPkt ∧ f.isAwaited evtLeMeta evtLeConnComplete

instance (f : Frame) : Decidable f.isTerminal := inferInstanceAs (Decidable (_ ∨ _))

/-- A plain frame does not end the wait. -/
theorem IsPlain.not_terminal {data : Octets} {f : Frame} (h : IsPlain data)
    (hf : f.ReadFrom data) : ¬f.isTerminal := by
  obtain ⟨-, f₀, rfl⟩ := hf
  intro hterm
  have hpkt : data.octet 0 = hciEventPkt := by
    rw [← Frame.parse_pktType f₀]
    rcases hterm with hd | ha
    · exact hd.1
    · exact ha.1
  obtain ⟨hlen, hno, hmeta⟩ := h hpkt
  obtain ⟨hevt, -, -⟩ := Frame.parse_event (f := f₀) hpkt (by omega)
  rcases hterm with hd | ⟨-, ⟨-, hcode, hsub⟩ | ⟨hne, -⟩⟩
  · exact hno (hevt.symm.trans hd.2)
  · rw [Frame.parse_subevent hpkt (by omega)] at hsub
    have hcode' := hevt.symm.trans hcode
    split at hsub
    · next hroom =>
        have h3 : 3 < data.length := by
          have h2 := UInt16.le_iff_toNat_le.mp hroom.2
          simp at h2
          omega
        rw [Frame.parse_raw, octet_read h3] at hsub
        exact hmeta ⟨hcode', hsub⟩
    · exact absurd hsub (by decide)
  · exact hne rfl

/-- What is read of an LE Connection Complete. -/
theorem connComplete_payload {status : UInt8} {handle : UInt16} {rest : Octets} {f : Frame}
    (hrest : rest.length = 15)
    (hf : f.ReadFrom ((connCompleteOctets status handle rest).take 512)) :
    f.isConnComplete ∧ f.payload 1 = status := by
  have hlen : (connCompleteOctets status handle rest).length = 22 := by
    simp [connCompleteOctets, putLe16, hrest]
  rw [List.take_of_length_le (by omega)] at hf
  obtain ⟨-, f₀, rfl⟩ := hf
  generalize hdata : connCompleteOctets status handle rest = data at hlen
  have hat : ∀ i, data.octet i = (connCompleteOctets status handle rest).octet i :=
    fun i => hdata ▸ rfl
  have hpkt : data.octet 0 = hciEventPkt := hat 0
  obtain ⟨hevt, hoff, hplen⟩ := Frame.parse_event (f := f₀) hpkt (by omega)
  have hraw : ∀ i, i < 22 → (f₀.parse data).raw.octet i = data.octet i := fun i hi => by
    rw [Frame.parse_raw, octet_read (by omega)]
  have hsub := Frame.parse_subevent (f := f₀) hpkt (by omega)
  have h2 : data.octet 2 = 0x13 := hat 2
  rw [h2] at hplen hsub
  rw [if_pos ⟨hat 1, by decide⟩, hraw 3 (by omega)] at hsub
  refine ⟨⟨?_, hevt.trans (hat 1), hsub.trans (hat 3), ?_⟩, ?_⟩
  · rw [Frame.parse_pktType]
    exact hpkt
  · rw [hplen]
    decide
  · unfold Frame.payload
    rw [hoff, hraw _ (by omega)]
    exact hat 4

/-- A Disconnection Complete is read as one. -/
theorem disconn_isDisconnect {handle : UInt16} {reason : UInt8} {f : Frame}
    (hf : f.ReadFrom ((disconnOctets handle reason).take 512)) : f.isDisconnect := by
  obtain ⟨-, f₀, rfl⟩ := hf
  have hlen : (disconnOctets handle reason).length = 7 := rfl
  rw [List.take_of_length_le (by omega)]
  obtain ⟨hevt, -, -⟩ := Frame.parse_event (f := f₀)
    (show (disconnOctets handle reason).octet 0 = hciEventPkt from rfl) (by omega)
  exact ⟨Frame.parse_pktType f₀ _, hevt⟩

theorem isPlain_cancelComplete (status : UInt8) : IsPlain (cancelCompleteOctets status) := by
  intro _
  have hcode : (cancelCompleteOctets status).octet 1 = evtCmdComplete := rfl
  rw [hcode]
  exact ⟨rfl, by decide, fun h => absurd h.1 (by decide)⟩

/-! ## Steps -/

/-- Everything one observation does to the controller. -/
inductive Ctl.Step (c : Ctl) : Obs → Ctl → Prop where
  | skip (o : Obs) : Step c o c
  | start : Step c .sessionStart { c with attempt := c.attempt + 1 }
  | create (params : Octets) : Step c (.command opCreateConn params true) c.create
  | cancel (params : Octets) : Step c (.command opCancelConn params true) c.cancel
  | read (place : Place) (handle : UInt16) (f : Frame) (q : Queued) (queue : List Queued)
      (hq : c.queue = q :: queue) :
      Step c (.read place handle (q.octets.take 512) f) { c with queue := queue }
  | complete (attempt : ℕ) (status : UInt8) (handle : UInt16) (rest : Octets)
      (hrest : rest.length = 15) (hmay : c.MayComplete attempt status handle) :
      Step c (.ctl (.connComplete attempt status handle rest))
        ((c.complete attempt status handle).send (.connComplete attempt status)
          (connCompleteOctets status handle rest))
  | cancelComplete (status : UInt8) : Step c (.ctl (.cancelComplete status))
      ({ c with cancels := c.cancels - 1 }.send .plain (cancelCompleteOctets status))
  | closed (handle : UInt16) (reason : UInt8) (l : UInt16 × ℕ) (hl : l ∈ c.links) :
      Step c (.ctl (.closed handle reason))
        ((c.close handle).send (.closed l.2) (disconnOctets handle reason))
  | other (octets : Octets) (hplain : IsPlain octets) :
      Step c (.ctl (.other octets)) (c.send .plain octets)

theorem Ctl.act_cases {c c' : Ctl} {e : CtlEvent} (h : c.act e = some c') :
    Ctl.Step c (.ctl e) c' := by
  cases e with
  | connComplete attempt status handle rest =>
      simp only [act, Option.ite_none_right_eq_some, Option.some.injEq] at h
      obtain ⟨⟨hrest, hmay⟩, rfl⟩ := h
      exact .complete attempt status handle rest hrest hmay
  | cancelComplete status =>
      simp only [act, Option.ite_none_right_eq_some, Option.some.injEq] at h
      obtain ⟨-, rfl⟩ := h
      exact .cancelComplete status
  | closed handle reason =>
      obtain ⟨l, hl, rfl⟩ := Option.map_eq_some_iff.mp h
      exact .closed handle reason l (List.mem_of_find?_eq_some hl)
  | other octets =>
      simp only [act, Option.ite_none_right_eq_some, Option.some.injEq] at h
      obtain ⟨hplain, rfl⟩ := h
      exact .other octets hplain

/-- What is read is the oldest event. -/
theorem Ctl.read_cases {c c' : Ctl} {place : Place} {handle : UInt16} {data : Octets} {f : Frame}
    (h : c.step (.read place handle data f) = some c') :
    ∃ q queue, c.queue = q :: queue ∧ data = q.octets.take 512 ∧
      c' = { c with queue := queue } := by
  change c.read data = some c' at h
  unfold read at h
  rcases hq : c.queue with _ | ⟨q, queue⟩ <;> rw [hq] at h
  · cases h
  · simp only [Option.ite_none_right_eq_some, Option.some.injEq] at h
    exact ⟨q, queue, rfl, h.1, h.2.symm⟩

theorem Ctl.step_cases {c c' : Ctl} {o : Obs} (h : c.step o = some c') : Ctl.Step c o c' := by
  cases o with
  | sessionStart => exact Option.some.inj h ▸ .start
  | command opcode params ok =>
      have hc := Option.some.inj h
      cases ok with
      | false => exact hc ▸ .skip _
      | true =>
          rw [if_neg (by decide)] at hc
          split at hc
          · next hop => exact hop ▸ hc ▸ .create params
          · split at hc
            · next hop => exact hop ▸ hc ▸ .cancel params
            · exact hc ▸ .skip _
  | read place handle data f =>
      obtain ⟨q, queue, hq, rfl, rfl⟩ := Ctl.read_cases h
      exact .read place handle f q queue hq
  | ctl e => exact Ctl.act_cases h
  | _ => exact Option.some.inj h ▸ .skip _

/-- A queued event has the octets of its tag. -/
structure Queued.Meant (q : Queued) : Prop where
  plain : q.tag = .plain → IsPlain q.octets
  connComplete : ∀ attempt status, q.tag = .connComplete attempt status →
    ∃ handle rest, rest.length = 15 ∧ q.octets = connCompleteOctets status handle rest
  closed : ∀ attempt, q.tag = .closed attempt →
    ∃ handle reason, q.octets = disconnOctets handle reason

/-- Everything pending, open or unread is of attempts with a property. -/
structure Ctl.Each (R : ℕ → Prop) (c : Ctl) : Prop where
  pending : ∀ p ∈ c.pending, R p.1
  links : ∀ l ∈ c.links, R l.2
  tags : ∀ q ∈ c.queue, ∀ a, q.tag.attempt = some a → R a

variable {c c' : Ctl} {o : Obs} {R R' : ℕ → Prop}

theorem Ctl.Each.mono (h : c.Each R) (hR : ∀ a, R a → R' a) : c.Each R' :=
  ⟨fun p hp => hR _ (h.pending p hp), fun l hl => hR _ (h.links l hl),
    fun q hq a ha => hR _ (h.tags q hq a ha)⟩

theorem Ctl.Each.send {tag : Tag} {octets : Octets} (h : c.Each R)
    (htag : ∀ a, tag.attempt = some a → R a) : (c.send tag octets).Each R := by
  refine ⟨h.pending, h.links, fun q hq => ?_⟩
  rcases List.mem_append.mp hq with hq | hq
  · exact h.tags q hq
  · rw [List.mem_singleton.mp hq]
    exact htag

/-- An attempt enters with its creation only. -/
theorem Ctl.Each.step (h : c.Each R) (hstep : Ctl.Step c o c')
    (hcreate : ∀ params, o = .command opCreateConn params true → R c.attempt) : c'.Each R := by
  cases hstep with
  | skip | start => exact ⟨h.pending, h.links, h.tags⟩
  | create params =>
      refine ⟨fun p hp => ?_, h.links, h.tags⟩
      rcases List.mem_append.mp hp with hp | hp
      · exact h.pending p hp
      · rw [List.mem_singleton.mp hp]
        exact hcreate params rfl
  | cancel params =>
      refine ⟨fun p hp => ?_, h.links, h.tags⟩
      obtain ⟨p', hp', rfl⟩ := List.mem_map.mp hp
      exact h.pending p' hp'
  | read place handle f q queue hq =>
      exact ⟨h.pending, h.links, fun q' hq' => h.tags q' (hq ▸ List.mem_cons_of_mem _ hq')⟩
  | complete attempt status handle rest hrest hmay =>
      have hR : R attempt := by
        rcases hmay.1 with hp | ⟨hp, -⟩
        · exact h.pending _ hp
        · exact h.pending _ hp
      have heach : (c.complete attempt status handle).Each R := by
        refine ⟨fun p hp => h.pending p (List.mem_filter.mp hp).1, fun l hl => ?_, h.tags⟩
        unfold Ctl.complete at hl
        split at hl
        · rcases List.mem_append.mp hl with hl | hl
          · exact h.links l hl
          · rw [List.mem_singleton.mp hl]
            exact hR
        · exact h.links l hl
      refine heach.send fun a ha => ?_
      cases ha
      exact hR
  | cancelComplete status =>
      have heach : Ctl.Each R { c with cancels := c.cancels - 1 } := ⟨h.pending, h.links, h.tags⟩
      exact heach.send nofun
  | closed handle reason l hl =>
      have heach : (c.close handle).Each R :=
        ⟨h.pending, fun l hl => h.links l (List.mem_filter.mp hl).1, h.tags⟩
      refine heach.send fun a ha => ?_
      cases ha
      exact h.links l hl
  | other octets hplain => exact h.send nofun

/-- Only a session start begins an attempt. -/
theorem Ctl.Step.attempt_eq (h : Ctl.Step c o c') (ho : o ≠ .sessionStart) :
    c'.attempt = c.attempt := by
  cases h with
  | start => exact absurd rfl ho
  | _ => rfl

theorem Ctl.Step.attempt_le (h : Ctl.Step c o c') : c.attempt ≤ c'.attempt := by
  cases h with
  | start => exact Nat.le_succ _
  | _ => exact le_refl _

theorem Ctl.Step.meant (h : Ctl.Step c o c') (hc : ∀ q ∈ c.queue, q.Meant) :
    ∀ q ∈ c'.queue, q.Meant := by
  have hsend : ∀ q' : Queued, q'.Meant → ∀ q ∈ c.queue ++ [q'], q.Meant := by
    intro q' hq' q hq
    rcases List.mem_append.mp hq with hq | hq
    · exact hc q hq
    · exact List.mem_singleton.mp hq ▸ hq'
  cases h with
  | skip | start | create | cancel => exact hc
  | read place handle f q queue hq => exact fun q' hq' => hc q' (hq ▸ List.mem_cons_of_mem _ hq')
  | complete attempt status handle rest hrest hmay =>
      refine hsend _ ⟨nofun, fun a st htag => ?_, nofun⟩
      cases htag
      exact ⟨handle, rest, hrest, rfl⟩
  | cancelComplete status => exact hsend _ ⟨fun _ => isPlain_cancelComplete status, nofun, nofun⟩
  | closed handle reason l hl => exact hsend _ ⟨nofun, nofun, fun _ _ => ⟨handle, reason, rfl⟩⟩
  | other octets hplain => exact hsend _ ⟨fun _ => hplain, nofun, nofun⟩

/-- In every run, nothing is of an attempt to come. -/
theorem controller_each {tr : List Obs} (h : controller tr = some c) :
    c.Each fun a => a ≤ c.attempt := by
  refine monitor_invariant (I := fun c => c.Each fun a => a ≤ c.attempt) ⟨nofun, nofun, nofun⟩
    (fun c o c' hc hstep => ?_) h
  have hstep' := Ctl.step_cases hstep
  exact (hc.step hstep' fun _ _ => le_refl _).mono fun a ha => ha.trans hstep'.attempt_le

/-- In every run, an event is what its tag says. -/
theorem controller_meant {tr : List Obs} (h : controller tr = some c) : ∀ q ∈ c.queue, q.Meant :=
  monitor_invariant (I := fun c => ∀ q ∈ c.queue, q.Meant) nofun
    (fun _ _ _ hc hstep => (Ctl.step_cases hstep).meant hc) h

/-- What an accepted observation does to the controller. -/
theorem ControllerAt.step {pre : List Obs} (h : ControllerAt pre o) :
    ∃ c c', controller pre = some c ∧ c.step o = some c' ∧ controller (pre ++ [o]) = some c' :=
  monitor_isSome_snoc h

theorem IsPlain.take {data : Octets} (h : IsPlain data) : IsPlain (data.take 512) := by
  by_cases hlen : data.length ≤ 512
  · rw [List.take_of_length_le hlen]
    exact h
  · intro hpkt
    have h0 : data.octet 0 = hciEventPkt := by
      rw [← hpkt]
      simp [octet, List.getD]
    have h2 := (h h0).1
    have hlt := (data.octet 2).toNat_lt
    omega

/-- A terminal event ends the attempt of its tag. -/
theorem Ctl.next_eq_of_terminal {tr : List Obs} (hc : controller tr = some c) {q : Queued}
    {queue : List Queued} (hq : c.queue = q :: queue) {f : Frame}
    (hf : f.ReadFrom (q.octets.take 512)) (hterm : f.isTerminal) :
    ∃ a, c.next = some a ∧ q.tag.attempt = some a := by
  have hmeant := controller_meant hc q (hq ▸ List.mem_cons_self)
  have htag : q.tag ≠ .plain := fun h => (hmeant.plain h).take.not_terminal hf hterm
  have hnext : c.next = q.tag.attempt := by
    unfold Ctl.next
    rw [hq]
    rfl
  rw [hnext]
  rcases htag' : q.tag with ⟨a, st⟩ | a | _
  · exact ⟨a, rfl, rfl⟩
  · exact ⟨a, rfl, rfl⟩
  · exact absurd htag' htag

/-- What was observed so far has a property, and so has the controller. -/
abbrev Watched (A : List Obs → Obs → Prop) (P : Ctl → Prop) (w : World) : Prop :=
  Tracked Ctl.step Ctl.start A P w.trace

end Switch2Bt.Sw2d
