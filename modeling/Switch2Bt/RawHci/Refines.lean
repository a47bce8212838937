import Switch2Bt.RawHci.Relay

/-!
# The program is a relay (`sw2d.c`)

One triple for each function of the program, along its text. `Linked` is what a session knows while
it asks, `Receiving` what it knows while it relays; the program follows `relay` whatever the system
answers and whenever a signal arrives (`main_follows`).
-/

namespace Switch2Bt.RawHci

open Await Octets Sw2d Uhid PacketReader Report09 Addresses

variable {abi : UhidEvent → Octets} {peer : Addr} {noUhid : Bool} {env : System}

/-! ## Triples over the relay -/

/-- An assertion about the relay alone. -/
def Hold (P : Relay → Prop) (_s : Vars) (m : Relay) : Prop := P m

/-- A triple over the relay. -/
abbrev Does {α : Type} (abi : UhidEvent → Octets) (peer : Addr) (noUhid : Bool) (env : System)
    (P : Relay → Prop) (x : Raw α) (R : α → Relay → Prop) : Prop :=
  Obeys env (relay abi peer noUhid) (Hold P) x fun a => Hold (R a)

variable {α β : Type} {P P' : Relay → Prop} {R R' : α → Relay → Prop} {x : Raw α}

theorem Does.bind {x : Raw β} {f : β → Raw α} {S : β → Relay → Prop}
    (hx : Does abi peer noUhid env P x S) (hf : ∀ b, Does abi peer noUhid env (S b) (f b) R) :
    Does abi peer noUhid env P (x >>= f) R := Obeys.bind hx hf

theorem Does.conseq (h : Does abi peer noUhid env P' x R') (hP : ∀ m, P m → P' m)
    (hR : ∀ a m, R' a m → R a m) : Does abi peer noUhid env P x R :=
  Obeys.conseq h (fun _ => hP) fun a _ => hR a

theorem Does.post (h : Does abi peer noUhid env P x R') (hR : ∀ a m, R' a m → R a m) :
    Does abi peer noUhid env P x R := h.conseq (fun _ h => h) hR

theorem Does.pre (h : Does abi peer noUhid env P' x R) (hP : ∀ m, P m → P' m) :
    Does abi peer noUhid env P x R := h.conseq hP fun _ _ h => h

theorem Does.pure {a : α} (h : ∀ m, P m → R a m) : Does abi peer noUhid env P (Pure.pure a) R :=
  Obeys.pure fun _ => h

theorem Does.ite {c : Prop} [Decidable c] {x y : Raw α} (hx : c → Does abi peer noUhid env P x R)
    (hy : ¬c → Does abi peer noUhid env P y R) :
    Does abi peer noUhid env P (if c then x else y) R := Obeys.ite hx hy

theorem Does.loop {ι : Type} {body : ι → Raw (ι ⊕ α)} {I : ι → Relay → Prop}
    (h : ∀ i, Does abi peer noUhid env (I i) (body i) fun x => x.elim I R) (i : ι) :
    Does abi peer noUhid env (I i) (Coro.loop body i) R := by
  refine Obeys.loop (I := fun i => Hold (I i)) (fun i => Obeys.post (h i) ?_) i
  rintro (j | a) _ _ hm
  · exact hm
  · exact hm

/-- A signal changes the flag only. -/
theorem stable_hold : Stable onSignal (relay abi peer noUhid) (Hold P) :=
  fun e _ _ hm => ⟨.event e, hm⟩

/-- A call of the system. -/
theorem Does.sys {c : Call} {R : Answer c → Relay → Prop}
    (h : ∀ a m, P m → m.Allows abi peer noUhid (.call c a) ∧ R a (m.next abi (.call c a))) :
    Does abi peer noUhid env P (RawHci.sys c) R :=
  Obeys.call stable_hold fun a _ => h a

theorem Does.note {n : Note} {R : Unit → Relay → Prop}
    (h : ∀ m, P m → m.Allows abi peer noUhid (.note n) ∧ R () (m.next abi (.note n))) :
    Does abi peer noUhid env P (RawHci.note n) R :=
  Obeys.note fun _ => h

/-- The flag tells nothing about the relay. -/
theorem Does.running {f : Bool → Raw α} (h : ∀ b, Does abi peer noUhid env P (f b) R) :
    Does abi peer noUhid env P (RawHci.running >>= f) R := by
  refine Obeys.vars_bind (f := fun s => Pure.pure s.running >>= f) (Q := Hold P)
    (R := fun a => Hold (R a)) fun s => ?_
  exact Obeys.pre (h s.running) fun _ _ hm => hm.2

/-! ## Reading and writing -/

section io

variable {fd : ℕ}

/-- Writing out a buffer is one step of the relay. -/
theorem writeFull_does {data : Octets} {R : Bool → Relay → Prop} (hopen : ∀ m, P m → fd ∈ m.fds)
    (h : ∀ ok m, P m → m.Allows abi peer noUhid (.note (.wrote fd data ok)) ∧
      R ok (m.write abi data ok)) :
    Does abi peer noUhid env P (writeFull fd data) R := by
  unfold writeFull
  refine Does.bind (S := fun _ => P) (Does.loop (I := fun _ => P) (fun rest => ?_) data)
    fun ok => ?_
  · refine Does.ite (fun _ => Does.pure fun _ hm => hm) fun _ => ?_
    refine Does.bind (S := fun _ => P) (Does.sys fun a m hm => ⟨.write _ _ (hopen m hm), hm⟩) ?_
    rintro ((_ | _) | n)
    · exact Does.pure fun _ hm => hm
    · exact Does.pure fun _ hm => hm
    · exact Does.pure fun _ hm => hm
  · exact Does.bind (S := fun _ => R ok) (Does.note (h ok)) fun _ => Does.pure fun _ hm => hm

/-- Reading from the socket changes nothing. -/
theorem readFull_does {len : ℕ} (hhci : ∀ m, P m → m.hci = some fd) :
    Does abi peer noUhid env P (readFull fd len) fun _ => P := by
  unfold readFull
  refine Does.loop (I := fun _ => P) (fun got => ?_) []
  refine Does.ite (fun _ => Does.pure fun _ hm => hm) fun _ => ?_
  refine Does.bind (S := fun _ => P) (Does.sys fun a m hm => ⟨.read _ _ (hhci m hm), hm⟩) ?_
  rintro ((_ | _) | data)
  · exact Does.pure fun _ hm => hm
  · exact Does.pure fun _ hm => hm
  · exact Does.ite (fun _ => Does.pure fun _ hm => hm) fun _ => Does.pure fun _ hm => hm

/-- What holds behind a read: a packet that fits was taken, or nothing happened. -/
def Got (bufsz : ℕ) (P : Relay → Prop) (R : Octets → Relay → Prop) : Result → Relay → Prop
  | .packet data, m => data ≠ [] ∧ data.length ≤ bufsz ∧ R data m
  | _, m => P m

variable {bufsz : ℕ} {T : Octets → Relay → Prop}

theorem readBody_does {header : Octets} {len : ℕ} (hheader : header ≠ [])
    (hhci : ∀ m, P m → m.hci = some fd)
    (h : ∀ data m, P m → m.Allows abi peer noUhid (.note (.packet data)) ∧ T data (m.read data)) :
    Does abi peer noUhid env P (readBody fd bufsz header len) (Got bufsz P T) := by
  unfold readBody
  refine Does.ite (fun _ => Does.pure fun _ hm => hm) fun hroom => ?_
  refine Does.bind (readFull_does hhci) fun got => ?_
  cases got with
  | none => exact Does.pure fun _ hm => hm
  | some body =>
      refine Does.ite (fun _ => Does.pure fun _ hm => hm) fun hlen => ?_
      refine Does.bind (S := fun _ => T (header ++ body)) (Does.note (h (header ++ body)))
        fun _ => ?_
      refine Does.pure fun m hm => ⟨by simp [hheader], ?_, hm⟩
      rw [List.length_append, not_not.mp hlen]
      omega

theorem readHeader_does {type : UInt8} {n : ℕ} {lenOf : Octets → ℕ}
    (hhci : ∀ m, P m → m.hci = some fd)
    (h : ∀ data m, P m → m.Allows abi peer noUhid (.note (.packet data)) ∧ T data (m.read data)) :
    Does abi peer noUhid env P (readHeader fd bufsz type n lenOf) (Got bufsz P T) := by
  unfold readHeader
  refine Does.ite (fun _ => Does.pure fun _ hm => hm) fun _ => ?_
  refine Does.bind (readFull_does hhci) fun got => ?_
  cases got with
  | none => exact Does.pure fun _ hm => hm
  | some header =>
      refine Does.ite (fun _ => Does.pure fun _ hm => hm) fun _ => ?_
      exact readBody_does (List.cons_ne_nil _ _) hhci h

/-- Reading a packet is one step of the relay. -/
theorem hciReadPacket_does {timeoutMs : ℤ} (hhci : ∀ m, P m → m.hci = some fd)
    (h : ∀ data m, P m → m.Allows abi peer noUhid (.note (.packet data)) ∧ T data (m.read data)) :
    Does abi peer noUhid env P (hciReadPacket fd bufsz timeoutMs) (Got bufsz P T) := by
  unfold hciReadPacket
  refine Does.bind (S := fun _ => P) (Does.sys fun a m hm => ⟨.poll _ _ (hhci m hm), hm⟩)
    fun pr => ?_
  refine Does.ite (fun _ => Does.pure fun _ hm => hm) fun _ => ?_
  refine Does.ite (fun _ => Does.pure fun _ hm => hm) fun _ => ?_
  refine Does.ite (fun _ => Does.pure fun _ hm => hm) fun hroom => ?_
  refine Does.bind (readFull_does hhci) fun got => ?_
  rcases got with _ | _ | ⟨type, _ | ⟨b, rest⟩⟩
  · exact Does.pure fun _ hm => hm
  · exact Does.pure fun _ hm => hm
  · refine Does.ite (fun _ => readHeader_does hhci h) fun _ => ?_
    refine Does.ite (fun _ => readHeader_does hhci h) fun _ => ?_
    refine Does.bind (S := fun _ => T [type]) (Does.note (h [type])) fun _ => ?_
    refine Does.pure fun m hm => ⟨List.cons_ne_nil _ _, ?_, hm⟩
    rw [List.length_singleton]
    omega
  · exact Does.pure fun _ hm => hm

end io

/-! ## Packets of the connection -/

/-- What becomes of a packet, by the PDU it carries. -/
theorem readPacket_taken {handle : UInt16} {attsz : ℕ} {data : Octets} (hne : data ≠ [])
    (hlen : data.length ≤ 2048) :
    (readPacket handle attsz data.length).run data.octet =
      match attOf handle attsz data with
      | some att => .pdu att handle
      | none => if Disconnection data then .disconnected else .passed := by
  have hrun := @readPacket_run handle attsz data [] hne hlen
  rw [List.append_nil] at hrun
  rw [hrun, attOf]
  by_cases hc : Carries handle attsz data
  · rw [if_pos hc, if_pos hc]
  · rw [if_neg hc, if_neg hc]

section att

variable {fd : ℕ} {handle : UInt16} {attsz : ℕ} {T : Octets → Relay → Prop}

/-- What holds behind a wait for a PDU: one was taken, or there is none. -/
def Answered (P : Relay → Prop) (T : Octets → Relay → Prop) (r : ℤ × Octets) (m : Relay) : Prop :=
  (r.1 ≤ 0 ∧ P m) ∨ (r.1 = r.2.length ∧ T r.2 m)

/-- Waiting for a PDU: packets without one keep `P`. -/
theorem readAclAtt_does {timeoutMs : ℤ} (hhci : ∀ m, P m → m.hci = some fd)
    (hpacket : ∀ data m, P m → m.Allows abi peer noUhid (.note (.packet data)))
    (hpassed : ∀ data m, P m → attOf handle attsz data = none → P (m.read data))
    (hatt : ∀ data att m, P m → attOf handle attsz data = some att → T att (m.read data)) :
    Does abi peer noUhid env P (readAclAtt fd handle attsz timeoutMs) (Answered P T) := by
  unfold readAclAtt
  refine Does.loop (I := fun _ => P) (fun _ => ?_) ()
  refine Does.bind (hciReadPacket_does
    (T := fun data m => ∃ m₀, P m₀ ∧ m = m₀.read data) hhci
    fun data m hm => ⟨hpacket data m hm, m, hm, rfl⟩) fun r => ?_
  cases r with
  | packet data =>
      refine Obeys.assume (P := data ≠ [] ∧ data.length ≤ 2048) (fun _ m hm => ⟨hm.1, hm.2.1⟩)
        fun hdata => ?_
      dsimp only
      rw [readPacket_taken hdata.1 hdata.2]
      rcases hatt' : attOf handle attsz data with _ | att
      · have hkept : ∀ m,
            Got 2048 P (fun data m => ∃ m₀, P m₀ ∧ m = m₀.read data) (.packet data) m → P m := by
          rintro m ⟨_, _, m₀, hm₀, rfl⟩
          exact hpassed data m₀ hm₀ hatt'
        dsimp only
        by_cases hdisc : Disconnection data
        · rw [if_pos hdisc]
          exact Does.pure fun m hm => .inl ⟨by decide, hkept m hm⟩
        · rw [if_neg hdisc]
          exact Does.pure hkept
      · refine Does.pure ?_
        rintro m ⟨_, _, m₀, hm₀, rfl⟩
        exact .inr ⟨rfl, hatt data att m₀ hm₀ hatt'⟩
  | timeout => exact Does.pure fun m hm => .inl ⟨le_refl _, hm⟩
  | error => exact Does.pure fun m hm => .inl ⟨by decide, hm⟩
  | blocked => exact Does.pure fun m hm => .inl ⟨by decide, hm⟩

end att

/-! ## Asking -/

/-- A session with a connection, before it relays: `n` requests are written; the filter may be set,
the device may be open and may exist. -/
structure Linked (hci : ℕ) (handle : UInt16) (filtered : Bool) (uhid : Option ℕ) (device : Device)
    (n : ℕ) (m : Relay) : Prop where
  hidraw : m.hidraw = none
  hci : m.hci = some hci
  uhid : m.uhid = uhid
  link : m.link = some handle
  filtered : m.filtered = filtered
  asked : m.asked = (requests handle).take n
  device : m.device = device
  receiving : m.receiving = false

/-- The device of a session that goes on. -/
def deviceOf : Option ℕ → Device
  | none => .absent
  | some _ => .alive

theorem deviceOf_eq_alive {uhid : Option ℕ} : deviceOf uhid = .alive ↔ uhid.isSome := by
  cases uhid with
  | none => exact iff_of_false (by simp [deviceOf]) Bool.false_ne_true
  | some _ => exact iff_of_true rfl rfl

section asking

variable {hci : ℕ} {handle : UInt16} {filtered : Bool} {uhid : Option ℕ} {device : Device} {n : ℕ}
variable {m : Relay}

theorem Linked.asked_length (h : Linked hci handle filtered uhid device n m) (hn : n ≤ 4) :
    m.asked.length = n := by
  rw [h.asked, List.length_take]
  exact min_eq_left hn

/-- A packet changes nothing but the last packet. -/
theorem Linked.read (h : Linked hci handle filtered uhid device n m) (data : Octets) :
    Linked hci handle filtered uhid device n (m.read data) ∧ (m.read data).last = data := by
  have hread : m.read data = { m with link := m.link.or (linkOf data), last := data } := by
    rw [Relay.read, h.receiving, if_neg Bool.false_ne_true]
  rw [hread]
  refine ⟨⟨h.hidraw, h.hci, h.uhid, ?_, h.filtered, h.asked, h.device, h.receiving⟩, rfl⟩
  rw [h.link, Option.some_or]

theorem Linked.packet (h : Linked hci handle filtered uhid device n m) (data : Octets) :
    m.Allows abi peer noUhid (.note (.packet data)) := by
  refine .packet data (by simp [h.hci]) fun hreceiving => ?_
  rw [h.receiving] at hreceiving
  cases hreceiving

/-- The next request. -/
theorem Linked.ask {data : Octets} (h : Linked hci handle true uhid (deviceOf uhid) n m)
    (hdata : (requests handle)[n]? = some data) (hready : n = 3 → noUhid = true ∨ uhid.isSome)
    (ok : Bool) :
    m.Allows abi peer noUhid (.note (.wrote hci data ok)) ∧
      Linked hci handle true uhid (deviceOf uhid) (n + 1) (m.write abi data ok) := by
  have hn : n < 4 := by
    by_contra hge
    rw [List.getElem?_eq_none (by simpa [requests] using hge)] at hdata
    cases hdata
  have hlength := h.asked_length (by omega)
  have hasked : m.asked ++ [data] = (requests handle).take (n + 1) := by
    rw [h.asked, List.take_add_one, hdata, Option.toList_some]
  constructor
  · refine .ask ok h.hci h.link h.filtered (hasked ▸ List.take_prefix _ _) fun hthree => ?_
    rw [Relay.Ready, h.device, deviceOf_eq_alive]
    exact hready (hlength.symm.trans hthree)
  · have hwrite : m.write abi data ok = { m with asked := m.asked ++ [data] } := by
      rw [Relay.write, h.uhid, h.hci, h.device, hlength]
      rcases uhid with _ | u
      · simp
      · simp [hn, deviceOf]
    rw [hwrite]
    exact ⟨h.hidraw, h.hci, h.uhid, h.link, h.filtered, hasked, h.device, h.receiving⟩

/-- A request and the wait for its answer. -/
theorem attRequestResponse_does {req : Octets} {rspsz : ℕ} {timeoutMs : ℤ}
    (hreq : (requests handle)[n]? = some (aclPacket handle attCid req)) (hlen : req.length ≤ 1024)
    (hready : n = 3 → noUhid = true ∨ uhid.isSome) :
    Does abi peer noUhid env (Linked hci handle true uhid (deviceOf uhid) n)
      (attRequestResponse hci handle req rspsz timeoutMs)
      (Answered (Linked hci handle true uhid (deviceOf uhid) (n + 1)) fun att m =>
        Linked hci handle true uhid (deviceOf uhid) (n + 1) m ∧
          attOf handle rspsz m.last = some att) := by
  unfold attRequestResponse RawHci.aclSendAtt
  rw [PacketReader.aclSendAtt, if_neg (by omega)]
  refine Does.bind (S := fun _ => Linked hci handle true uhid (deviceOf uhid) (n + 1))
    (writeFull_does (fun m hm => ?_) fun ok m hm => hm.ask hreq hready ok) fun ok => ?_
  · simp [Relay.fds, hm.hci]
  refine Does.ite (fun _ => Does.pure fun m hm => .inl ⟨by decide, hm⟩) fun _ => ?_
  refine Does.loop (I := fun _ => Linked hci handle true uhid (deviceOf uhid) (n + 1))
    (fun _ => ?_) ()
  refine Does.bind (readAclAtt_does (T := fun att m =>
    Linked hci handle true uhid (deviceOf uhid) (n + 1) m ∧ attOf handle rspsz m.last = some att)
    (fun m hm => hm.hci) (fun data m hm => hm.packet data) (fun data m hm _ => (hm.read data).1)
    fun data att m hm hatt => ⟨(hm.read data).1, by rw [(hm.read data).2, hatt]⟩) fun r => ?_
  have hlinked : ∀ m, Answered (Linked hci handle true uhid (deviceOf uhid) (n + 1)) (fun att m =>
      Linked hci handle true uhid (deviceOf uhid) (n + 1) m ∧ attOf handle rspsz m.last = some att)
      r m → Linked hci handle true uhid (deviceOf uhid) (n + 1) m := by
    rintro m (⟨_, hm⟩ | ⟨_, hm, _⟩)
    · exact hm
    · exact hm
  obtain ⟨k, rsp⟩ := r
  refine Does.ite (fun hk => Does.pure fun m hm => .inl ⟨?_, hlinked m hm⟩) fun hk => ?_
  · dsimp only
    split <;> omega
  · refine Does.ite (fun _ => Does.pure hlinked) fun _ => Does.pure ?_
    rintro m (⟨hle, _⟩ | hm)
    · exact absurd hle hk
    · exact .inr hm

theorem Answered.linked {rspsz : ℕ} {r : ℤ × Octets}
    (h : Answered (Linked hci handle filtered uhid device n) (fun att m =>
      Linked hci handle filtered uhid device n m ∧ attOf handle rspsz m.last = some att) r m) :
    Linked hci handle filtered uhid device n m := by
  rcases h with ⟨_, hm⟩ | ⟨_, hm, _⟩
  · exact hm
  · exact hm

theorem gattProbe_does :
    Does abi peer noUhid env (Linked hci handle true none .absent 0) (gattProbe hci handle)
      fun _ => Linked hci handle true none .absent 3 := by
  unfold gattProbe
  refine Does.bind (attRequestResponse_does rfl (by decide) (by omega)) fun _ => ?_
  refine Does.bind (Does.pre (attRequestResponse_does rfl (by decide) (by omega))
    fun m hm => Answered.linked hm) fun _ => ?_
  refine Does.bind (Does.pre (attRequestResponse_does rfl (by decide) (by omega))
    fun m hm => Answered.linked hm) fun _ => ?_
  exact Does.pure fun m hm => Answered.linked hm

/-- The last packet is the answer that notifications are enabled. -/
def Enabled (handle : UInt16) (m : Relay) : Prop :=
  ∃ att, attOf handle 64 m.last = some att ∧ att.octet 0 = attOpWriteRsp

theorem enableNotifications_does (hready : noUhid = true ∨ uhid.isSome) :
    Does abi peer noUhid env (Linked hci handle true uhid (deviceOf uhid) 3)
      (enableNotifications hci handle) fun ok m =>
        Linked hci handle true uhid (deviceOf uhid) 4 m ∧ (ok = true → Enabled handle m) := by
  unfold enableNotifications
  refine Does.bind (attRequestResponse_does rfl (by decide) fun _ => hready) fun r => ?_
  obtain ⟨k, rsp⟩ := r
  refine Does.pure fun m hm => ⟨Answered.linked hm, fun hok => ?_⟩
  obtain ⟨hpos, hop⟩ := of_decide_eq_true hok
  rcases hm with ⟨hle, _⟩ | ⟨_, _, hatt⟩
  · exact absurd hpos (by dsimp only at hle; omega)
  · exact ⟨rsp, hatt, hop⟩

end asking

/-! ## Connecting -/

/-- A session before it has a connection. -/
structure Fresh (hci : ℕ) (m : Relay) : Prop where
  hidraw : m.hidraw = none
  hci : m.hci = some hci
  uhid : m.uhid = none
  link : m.link = none
  asked : m.asked = []
  device : m.device = .absent
  receiving : m.receiving = false

/-- Nothing is open but the socket. -/
structure Bare (hci : ℕ) (m : Relay) : Prop where
  hidraw : m.hidraw = none
  hci : m.hci = some hci
  uhid : m.uhid = none

/-- Nothing is open. -/
def Idle (m : Relay) : Prop := m.fds = []

theorem Idle.hidraw {m : Relay} (h : Idle m) : m.hidraw = none := by
  simpa [Option.toList_eq_nil_iff] using (List.append_eq_nil_iff.mp h).2

section connecting

variable {hci : ℕ} {handle : UInt16} {m : Relay}

theorem Fresh.bare (h : Fresh hci m) : Bare hci m := ⟨h.hidraw, h.hci, h.uhid⟩

theorem Linked.bare {filtered : Bool} {device : Device} {n : ℕ}
    (h : Linked hci handle filtered none device n m) : Bare hci m := ⟨h.hidraw, h.hci, h.uhid⟩

/-- Closing the socket ends the session. -/
theorem closeHci_does :
    Does abi peer noUhid env (Bare hci) (RawHci.sys (.close hci)) fun _ => Idle := by
  refine Does.sys fun a m hm => ⟨.closeHci a hm.uhid hm.hci, ?_⟩
  have hclose : m.close hci = { m with hci := none } := by
    rw [Relay.close, hm.uhid, hm.hci, if_neg (by simp), if_pos rfl]
  show (m.close hci).fds = []
  rw [hclose, Relay.fds, hm.uhid, hm.hidraw]
  rfl

theorem hciOpen_does :
    Does abi peer noUhid env Idle hciOpen fun r m =>
      match r with
      | none => Idle m
      | some fd => Fresh fd m := by
  unfold hciOpen
  refine Does.bind (S := fun a m => m = { begun := true, hci := a })
    (Does.sys fun a m hm => ⟨.socket a hm, ?_⟩) ?_
  · show ({ begun := true, hidraw := m.hidraw, hci := a } : Relay) = _
    rw [hm.hidraw]
  · rintro (_ | fd)
    · refine Does.pure ?_
      rintro m rfl
      rfl
    · have hfresh : ∀ m : Relay, m = { begun := true, hci := some fd } → Fresh fd m := by
        rintro m rfl
        exact ⟨rfl, rfl, rfl, rfl, rfl, rfl, rfl⟩
      refine Does.bind (S := fun _ => Fresh fd) (Does.sys fun a m hm =>
        ⟨.bind a (hfresh m hm).hci, hfresh m hm⟩) fun bound => ?_
      refine Does.ite (fun _ => Does.pure fun _ hm => hm) fun _ => ?_
      exact Does.bind (closeHci_does.pre fun _ hm => hm.bare) fun _ => Does.pure fun _ hm => hm

theorem setFilter_does {filter : Octets} :
    Does abi peer noUhid env (Fresh hci) (RawHci.sys (.setFilter hci filter)) fun _ => Fresh hci :=
  Does.sys fun a _ hm => ⟨.setFilter filter a hm.hci,
    ⟨hm.hidraw, hm.hci, hm.uhid, hm.link, hm.asked, hm.device, hm.receiving⟩⟩

/-- Before the connection, a packet may report it. -/
theorem Fresh.read (h : Fresh hci m) (data : Octets) :
    match connecting data with
    | .connected handle => ∃ filtered, Linked hci handle filtered none .absent 0 (m.read data)
    | _ => Fresh hci (m.read data) := by
  have hread : m.read data = { m with link := linkOf data, last := data } := by
    rw [Relay.read, h.receiving, if_neg Bool.false_ne_true, h.link, Option.none_or]
  rw [hread, linkOf]
  cases connecting data with
  | waiting => exact ⟨h.hidraw, h.hci, h.uhid, rfl, h.asked, h.device, h.receiving⟩
  | failed => exact ⟨h.hidraw, h.hci, h.uhid, rfl, h.asked, h.device, h.receiving⟩
  | connected handle =>
      exact ⟨m.filtered, ⟨h.hidraw, h.hci, h.uhid, rfl, rfl, h.asked, h.device, h.receiving⟩⟩

/-- What holds behind the wait for the connection. -/
def Connected (hci : ℕ) : Option UInt16 → Relay → Prop
  | none, m => Bare hci m
  | some handle, m => ∃ filtered, Linked hci handle filtered none .absent 0 m

theorem awaitConnection_does :
    Does abi peer noUhid env (Fresh hci) (awaitConnection hci) (Connected hci) := by
  unfold awaitConnection
  refine Does.loop (I := fun _ => Fresh hci) (fun i => ?_) 0
  refine Does.running fun b => ?_
  refine Does.ite (fun _ => Does.pure fun _ hm => hm.bare) fun _ => ?_
  refine Does.bind (hciReadPacket_does (T := fun data m => ∃ m₀, Fresh hci m₀ ∧ m = m₀.read data)
    (fun m hm => hm.hci) fun data m hm => ⟨?_, m, hm, rfl⟩) fun r => ?_
  · refine .packet data (by simp [hm.hci]) fun hreceiving => ?_
    rw [hm.receiving] at hreceiving
    cases hreceiving
  cases r with
  | packet data =>
      have hread : ∀ m, Got 260 (Fresh hci) (fun data m => ∃ m₀, Fresh hci m₀ ∧ m = m₀.read data)
          (.packet data) m → ∃ m₀, Fresh hci m₀ ∧ m = m₀.read data := fun m hm => hm.2.2
      dsimp only
      cases hdata : connecting data with
      | waiting =>
          refine Does.pure fun m hm => ?_
          obtain ⟨m₀, hm₀, rfl⟩ := hread m hm
          have hfresh := hm₀.read data
          rwa [hdata] at hfresh
      | failed =>
          refine Does.pure fun m hm => ?_
          obtain ⟨m₀, hm₀, rfl⟩ := hread m hm
          have hfresh := hm₀.read data
          rw [hdata] at hfresh
          exact hfresh.bare
      | connected handle =>
          refine Does.pure fun m hm => ?_
          obtain ⟨m₀, hm₀, rfl⟩ := hread m hm
          have hlinked := hm₀.read data
          rwa [hdata] at hlinked
  | timeout => exact Does.pure fun _ hm => hm
  | error => exact Does.pure fun _ hm => hm
  | blocked => exact Does.pure fun _ hm => hm

theorem hciConnectLe_does :
    Does abi peer noUhid env (Fresh hci) (hciConnectLe hci peer) (Connected hci) := by
  unfold hciConnectLe setExactConnectFilter hciSendCmd
  refine Does.bind (S := fun _ => Fresh hci) ?_ fun ok => ?_
  · refine Does.bind (S := fun _ => Fresh hci) (Does.sys fun a _ hm => ⟨.getFilter a hm.hci, hm⟩) ?_
    exact fun _ => setFilter_does
  refine Does.ite (fun _ => Does.pure fun _ hm => hm.bare) fun _ => ?_
  refine Does.bind (S := fun _ => Fresh hci) ?_ fun ok => ?_
  · refine Does.bind (S := fun _ => Fresh hci) (Does.sys fun a _ hm =>
      ⟨.connect a hm.hci hm.link, hm⟩) fun n => ?_
    exact Does.pure fun _ hm => hm
  exact Does.ite (fun _ => Does.pure fun _ hm => hm.bare) fun _ => awaitConnection_does

theorem setAclRuntimeFilter_does {filtered : Bool} :
    Does abi peer noUhid env (Linked hci handle filtered none .absent 0) (setAclRuntimeFilter hci)
      fun ok => Linked hci handle ok none .absent 0 := by
  refine Does.sys fun (ok : Bool) m hm => ⟨.setFilter _ ok hm.hci, ?_⟩
  have hnext : m.next abi (.call (.setFilter hci aclRuntimeFilter) ok) =
      { m with filtered := ok && decide (aclRuntimeFilter = aclRuntimeFilter) } := rfl
  rw [hnext, decide_eq_true rfl, Bool.and_true]
  exact ⟨hm.hidraw, hm.hci, hm.uhid, hm.link, rfl, hm.asked, hm.device, hm.receiving⟩

theorem hciRequestConnUpdate_does {filtered : Bool} {device : Device} {uhid : Option ℕ} {n : ℕ} :
    Does abi peer noUhid env (Linked hci handle filtered uhid device n)
      (hciRequestConnUpdate hci handle) fun _ => Linked hci handle filtered uhid device n := by
  unfold hciRequestConnUpdate hciSendCmd
  refine Does.bind (S := fun _ => Linked hci handle filtered uhid device n) ?_ fun _ =>
    Does.pure fun _ hm => hm
  refine Does.bind (S := fun _ => Linked hci handle filtered uhid device n)
    (Does.sys fun a _ hm => ⟨.update a hm.hci hm.link, hm⟩) fun _ => Does.pure fun _ hm => hm

end connecting

/-! ## The device -/

section device

variable {hci : ℕ} {handle : UInt16} {m : Relay}

/-- What holds behind the creation of the device. -/
def Created (hci : ℕ) (handle : UInt16) : Option ℕ → Relay → Prop
  | none, m => Bare hci m
  | some u, m => Linked hci handle true (some u) .alive 3 m

theorem uhidCreateDevice_does (hno : noUhid = false) :
    Does abi peer noUhid env (Linked hci handle true none .absent 3) (uhidCreateDevice abi)
      (Created hci handle) := by
  unfold uhidCreateDevice
  refine Does.bind (S := fun uhid => Linked hci handle true uhid .opened 3)
    (Does.sys fun (a : Option ℕ) m hm => ⟨?_, ?_⟩) ?_
  · exact .openUhid a (by simp [hm.hci]) hm.uhid hm.device (hm.asked_length (by decide)) hno
  · show Linked hci handle true a .opened 3
      (if m.hci = none then { m with hidraw := a } else { m with uhid := a, device := .opened })
    rw [if_neg (by simp [hm.hci])]
    exact ⟨hm.hidraw, hm.hci, rfl, hm.link, hm.filtered, hm.asked, rfl, hm.receiving⟩
  · rintro (_ | fd)
    · exact Does.pure fun _ hm => hm.bare
    · refine Does.bind (S := fun ok =>
        Linked hci handle true (some fd) (if ok then .alive else .gone) 3)
        (writeFull_does (fun m hm => ?_) fun ok m hm => ⟨.create ok hm.uhid hm.device, ?_⟩)
        fun ok => ?_
      · simp [Relay.fds, hm.uhid]
      · have hwrite : m.write abi (abi (.create2 gamepad)) ok =
            { m with device := if ok then .alive else .gone } := by
          rw [Relay.write, if_neg (by simp [hm.uhid]), if_pos hm.device]
        rw [hwrite]
        exact ⟨hm.hidraw, hm.hci, hm.uhid, hm.link, hm.filtered, hm.asked, rfl, hm.receiving⟩
      cases ok with
      | true => exact Does.pure fun _ hm => hm
      | false =>
          refine Does.bind (S := fun _ => Bare hci)
            (Does.sys fun a m hm => ⟨.closeUhid a hm.uhid ?_, ?_⟩) fun _ => Does.pure fun _ hm => hm
          · simp [hm.device]
          · show Bare hci (m.close fd)
            rw [Relay.close, if_pos hm.uhid]
            exact ⟨hm.hidraw, hm.hci, rfl⟩

/-- A session that may end: the device, if there is one, has been given every report. -/
structure Ending (abi : UhidEvent → Octets) (hci : ℕ) (uhid : Option ℕ) (m : Relay) : Prop where
  hidraw : m.hidraw = none
  hci : m.hci = some hci
  device : m.device = deviceOf uhid
  asked : m.asked.length = 4
  settled : uhid.isSome → m.receiving → m.Settled abi
  uhid : m.uhid = uhid

theorem Linked.ending {uhid : Option ℕ} (h : Linked hci handle true uhid (deviceOf uhid) 4 m) :
    Ending abi hci uhid m where
  hidraw := h.hidraw
  hci := h.hci
  uhid := h.uhid
  device := h.device
  asked := h.asked_length (le_refl _)
  settled := fun _ hreceiving => by
    rw [h.receiving] at hreceiving
    cases hreceiving

theorem uhidDestroyDevice_does {uhid : Option ℕ} :
    Does abi peer noUhid env (Ending abi hci uhid) (uhidDestroyDevice abi uhid)
      fun _ => Bare hci := by
  cases uhid with
  | none => exact Does.pure fun _ hm => ⟨hm.hidraw, hm.hci, hm.uhid⟩
  | some fd =>
      unfold uhidDestroyDevice
      refine Does.bind (S := fun _ m => m.hidraw = none ∧ m.hci = some hci ∧ m.uhid = some fd ∧
        m.device = .gone) (writeFull_does (fun m hm => ?_) fun ok m hm => ⟨?_, ?_⟩) fun _ => ?_
      · simp [Relay.fds, hm.uhid]
      · exact .destroy ok hm.uhid hm.device hm.asked (hm.settled rfl)
      · have hwrite : m.write abi (abi .destroy) ok = { m with device := .gone } := by
          rw [Relay.write, if_neg (by simp [hm.uhid]), if_neg (by simp [hm.device, deviceOf]),
            if_neg (by simp [hm.asked]), if_neg fun h => h.2 (hm.settled rfl h.1)]
        rw [hwrite]
        exact ⟨hm.hidraw, hm.hci, hm.uhid, rfl⟩
      · refine Does.sys fun a m hm => ⟨.closeUhid a hm.2.2.1 (by simp [hm.2.2.2]), ?_⟩
        show Bare hci (m.close fd)
        rw [Relay.close, if_pos hm.2.2.1]
        exact ⟨hm.1, hm.2.1, rfl⟩

end device

/-! ## Relaying -/

/-- A session that relays; `owed` are the reports that are still to be written. -/
structure Receiving (abi : UhidEvent → Octets) (noUhid : Bool) (hci : ℕ) (handle : UInt16)
    (uhid : Option ℕ) (owed : List Octets) (m : Relay) : Prop where
  hidraw : m.hidraw = none
  hci : m.hci = some hci
  link : m.link = some handle
  device : m.device = deviceOf uhid
  asked : m.asked.length = 4
  receiving : m.receiving = true
  ready : noUhid = true ∨ uhid.isSome
  owed : uhid.isSome → m.expected abi = m.told ++ owed
  uhid : m.uhid = uhid

section relaying

variable {hci : ℕ} {handle : UInt16} {uhid : Option ℕ} {m : Relay}

theorem Receiving.ending (h : Receiving abi noUhid hci handle uhid [] m) :
    Ending abi hci uhid m where
  hidraw := h.hidraw
  hci := h.hci
  uhid := h.uhid
  device := h.device
  asked := h.asked
  settled := fun hsome _ => by
    rw [Relay.Settled, h.owed hsome, List.append_nil]

theorem Receiving.packet (h : Receiving abi noUhid hci handle uhid [] m) (data : Octets) :
    m.Allows abi peer noUhid (.note (.packet data)) := by
  refine .packet data (by simp [h.hci]) fun hreceiving => ⟨?_, fun hsome => ?_⟩
  · rw [Relay.Ready, h.device, deviceOf_eq_alive]
    exact h.ready
  · exact h.ending.settled (h.uhid ▸ hsome) hreceiving

/-- A packet is owed the report it stands for. -/
theorem Receiving.read (h : Receiving abi noUhid hci handle uhid [] m) (data : Octets) :
    Receiving abi noUhid hci handle uhid
      ((translate handle data).toList.map fun r => abi (.input2 r)) (m.read data) := by
  have hread : m.read data = { m with heard := m.heard ++ [data] } := by
    rw [Relay.read, if_pos h.receiving]
  rw [hread]
  refine ⟨h.hidraw, h.hci, h.link, h.device, h.asked, h.receiving, h.ready, fun hsome => ?_, h.uhid⟩
  have howed := h.owed hsome
  rw [List.append_nil, Relay.expected, h.link] at howed
  dsimp only at howed
  show Relay.expected abi { m with heard := m.heard ++ [data] } = _
  rw [Relay.expected]
  dsimp only
  rw [h.link]
  dsimp only
  rw [List.filterMap_append, List.map_append, howed]
  cases htr : translate handle data with
  | none => simp [htr]
  | some r => simp [htr]

/-- A report that is owed is written. -/
theorem uhidSendReport_does {report : Octets} (hlen : report.length ≤ uhidDataMax) :
    Does abi peer noUhid env (Receiving abi noUhid hci handle uhid [abi (.input2 report)])
      (uhidSendReport abi uhid report) fun _ => Receiving abi noUhid hci handle uhid [] := by
  cases uhid with
  | none =>
      refine Does.pure fun m hm => ?_
      exact ⟨hm.hidraw, hm.hci, hm.link, hm.device, hm.asked, hm.receiving, hm.ready,
        fun hsome => Bool.noConfusion hsome, hm.uhid⟩
  | some fd =>
      unfold uhidSendReport
      dsimp only
      rw [List.take_of_length_le hlen]
      refine writeFull_does (fun m hm => ?_) fun ok m hm => ⟨?_, ?_⟩
      · simp [Relay.fds, hm.uhid]
      · exact .report ok hm.uhid hm.device hm.receiving (hm.owed rfl).symm
      · have hunsettled : ¬m.Settled abi := by
          rw [Relay.Settled, hm.owed rfl]
          simp
        have hwrite : m.write abi (abi (.input2 report)) ok =
            { m with told := m.told ++ [abi (.input2 report)] } := by
          rw [Relay.write, if_neg (by simp [hm.uhid]), if_neg (by simp [hm.device, deviceOf]),
            if_neg (by simp [hm.asked]), if_pos ⟨hm.receiving, hunsettled⟩]
        rw [hwrite]
        refine ⟨hm.hidraw, hm.hci, hm.link, hm.device, hm.asked, hm.receiving, hm.ready,
          fun _ => ?_, hm.uhid⟩
        rw [List.append_nil]
        exact hm.owed rfl

/-- A report is thirteen octets. -/
theorem reportOf_length {n : ℤ} {att report : Octets} (h : reportOf n att = some report) :
    report.length = 13 := by
  unfold reportOf at h
  split at h
  · split at h
    · cases h
    · split at h
      rename_i hlen hid heq
      split at h
      · cases h
        unfold report09ToUhid at heq
        split at heq
        · cases heq
          omega
        · cases heq
          rfl
      · cases h
  · cases h

theorem receive_does :
    Does abi peer noUhid env (Receiving abi noUhid hci handle uhid [])
      (receive abi hci handle uhid) fun _ => Receiving abi noUhid hci handle uhid [] := by
  unfold receive
  refine Does.loop (I := fun _ => Receiving abi noUhid hci handle uhid []) (fun _ => ?_) ()
  refine Does.running fun b => Does.ite (fun _ => Does.pure fun _ hm => hm) fun _ => ?_
  refine Does.bind (readAclAtt_does (T := fun att => Receiving abi noUhid hci handle uhid
    ((reportOf att.length att).toList.map fun r => abi (.input2 r)))
    (fun m hm => hm.hci) (fun data m hm => hm.packet data) (fun data m hm hatt => ?_)
    fun data att m hm hatt => ?_) fun r => ?_
  · have hread := hm.read data
    rwa [translate, hatt] at hread
  · have hread := hm.read data
    rwa [translate, hatt] at hread
  obtain ⟨n, att⟩ := r
  -- what is not a notification of the input value is owed nothing
  have hnone : ∀ m, reportOf n att = none → Answered (Receiving abi noUhid hci handle uhid [])
      (fun att => Receiving abi noUhid hci handle uhid
        ((reportOf att.length att).toList.map fun r => abi (.input2 r))) (n, att) m →
      Receiving abi noUhid hci handle uhid [] m := by
    rintro m hreport (⟨_, hm⟩ | ⟨hn, hm⟩)
    · exact hm
    · have hn : n = att.length := hn
      dsimp only at hm
      rwa [← hn, hreport] at hm
  dsimp only
  by_cases hdisc : n = -2
  · rw [if_pos hdisc]
    have hneg : reportOf n att = none := by
      rw [reportOf, if_neg (by omega)]
    exact Does.pure fun m hm => hnone m hneg hm
  · rw [if_neg hdisc]
    cases hreport : reportOf n att with
    | none => exact Does.pure fun m hm => hnone m hreport hm
    | some report =>
        have hpos : ¬n ≤ 0 := by
          intro hle
          rw [reportOf, if_neg (by omega)] at hreport
          cases hreport
        have hlen : report.length ≤ uhidDataMax := by
          rw [reportOf_length hreport]
          decide
        refine Does.bind (Does.pre (uhidSendReport_does hlen) ?_) fun _ => Does.pure fun _ hm => hm
        rintro m (⟨hle, _⟩ | ⟨hn, hm⟩)
        · exact absurd hle hpos
        · have hn : n = att.length := hn
          dsimp only at hm
          rwa [← hn, hreport] at hm

end relaying

/-! ## Sessions -/

section session

variable {hci : ℕ} {handle : UInt16}

theorem runNotifying_does {uhid : Option ℕ} (hready : noUhid = true ∨ uhid.isSome)
    (hno : noUhid = true → uhid = none) :
    Does abi peer noUhid env (Linked hci handle true uhid (deviceOf uhid) 3)
      (runNotifying abi hci handle uhid) fun _ => Idle := by
  unfold runNotifying
  refine Does.bind (enableNotifications_does hready) fun ok => Does.ite (fun _ => ?_) fun hok => ?_
  · refine Does.bind (uhidDestroyDevice_does.pre fun m hm => hm.1.ending) fun _ => ?_
    exact Does.bind closeHci_does fun _ => Does.pure fun _ hm => hm
  · refine Does.bind (S := fun _ => Receiving abi noUhid hci handle uhid [])
      (Does.note fun m hm => ?_) fun _ => ?_
    · obtain ⟨hlinked, henabled⟩ := hm
      refine ⟨?_, ?_⟩
      · have hallowed : m.Allows abi peer noUhid (.note (.receiving handle m.uhid)) := by
          refine .receiving hlinked.receiving hlinked.link
            (hlinked.asked.trans (List.take_of_length_le (by simp [requests]))) ?_
            (fun h => hlinked.uhid.trans (hno h)) (henabled (not_not.mp hok))
          rw [Relay.Ready, hlinked.device, deviceOf_eq_alive]
          exact hready
        rwa [hlinked.uhid] at hallowed
      · show Receiving abi noUhid hci handle uhid []
          { m with receiving := true, heard := [], told := [] }
        refine ⟨hlinked.hidraw, hlinked.hci, hlinked.link, hlinked.device,
          hlinked.asked_length (le_refl _), rfl, hready, fun _ => ?_, hlinked.uhid⟩
        simp [Relay.expected, hlinked.link]
    · refine Does.bind receive_does fun _ => ?_
      refine Does.bind (uhidDestroyDevice_does.pre fun m hm => hm.ending) fun _ => ?_
      exact Does.bind closeHci_does fun _ => Does.pure fun _ hm => hm

theorem runConnected_does :
    Does abi peer noUhid env (Connected hci (some handle)) (runConnected abi noUhid hci handle)
      fun _ => Idle := by
  refine Obeys.intro fun r hr => ?_
  obtain ⟨_, filtered, hlinked⟩ := hr
  have hdoes : Does abi peer noUhid env (Linked hci handle filtered none .absent 0)
      (runConnected abi noUhid hci handle) fun _ => Idle := by
    unfold runConnected
    refine Does.bind setAclRuntimeFilter_does fun ok => Does.ite (fun _ => ?_) fun hok => ?_
    · exact Does.bind (closeHci_does.pre fun _ hm => hm.bare) fun _ => Does.pure fun _ hm => hm
    · rw [not_not.mp hok]
      refine Does.bind hciRequestConnUpdate_does fun _ => Does.bind gattProbe_does fun _ => ?_
      refine Does.ite (fun hno => ?_) fun hno => ?_
      · exact runNotifying_does (.inl hno) fun _ => rfl
      · refine Does.bind (uhidCreateDevice_does (Bool.eq_false_iff.mpr hno)) ?_
        rintro (_ | fd)
        · exact Does.bind closeHci_does fun _ => Does.pure fun _ hm => hm
        · exact runNotifying_does (.inr rfl) fun h => absurd h hno
  refine Obeys.pre hdoes ?_
  rintro s m ⟨rfl, _⟩
  exact hlinked

theorem runSession_does :
    Does abi peer noUhid env Idle (runSession abi peer noUhid) fun _ => Idle := by
  unfold runSession
  refine Does.bind hciOpen_does ?_
  rintro (_ | hci)
  · exact Does.pure fun _ hm => hm
  · refine Does.bind hciConnectLe_does ?_
    rintro (_ | handle)
    · exact Does.bind closeHci_does fun _ => Does.pure fun _ hm => hm
    · exact runConnected_does

theorem reconnectLoop_does :
    Does abi peer noUhid env Idle (reconnectLoop abi peer noUhid) fun _ => Idle := by
  unfold reconnectLoop
  refine Does.loop (I := fun _ => Idle) (fun _ => ?_) 1
  refine Does.running fun _ => Does.ite (fun _ => Does.pure fun _ hm => hm) fun _ => ?_
  refine Does.bind runSession_does fun rc => Does.running fun _ => ?_
  refine Does.ite (fun _ => Does.pure fun _ hm => hm) fun _ => ?_
  refine Does.bind (S := fun _ => Idle) (Does.note fun m hm => ⟨.sessionEnded rc hm, hm⟩)
    fun _ => ?_
  refine Does.bind (S := fun _ => Idle) (Does.sys fun a m hm => ⟨.sleep _ a hm, hm⟩) fun _ => ?_
  exact Does.pure fun _ hm => hm

end session

/-! ## The program -/

/-- Before the first session; the controller may be prepared over USB. -/
structure Preparing (hidraw : Option ℕ) (m : Relay) : Prop where
  hidraw : m.hidraw = hidraw
  hci : m.hci = none
  uhid : m.uhid = none
  begun : m.begun = false

theorem Preparing.idle {m : Relay} (h : Preparing none m) : Idle m := by
  rw [Idle, Relay.fds, h.uhid, h.hci, h.hidraw]
  rfl

theorem usbSendSubcmd_does {fd : ℕ} {counter subcmd : UInt8} {arg : Octets} :
    Does abi peer noUhid env (Preparing (some fd)) (usbSendSubcmd fd counter subcmd arg)
      fun _ => Preparing (some fd) := by
  refine writeFull_does (fun m hm => ?_) fun ok m hm => ⟨.usb _ ok hm.uhid hm.hci hm.hidraw, ?_⟩
  · simp [Relay.fds, hm.hidraw]
  · rw [Relay.write, if_pos hm.uhid, if_pos hm.hci]
    exact hm

theorem usbInitController_does {hidraw : List Char} :
    Does abi peer noUhid env (Preparing none) (usbInitController hidraw) fun _ => Idle := by
  unfold usbInitController usbCommands
  refine Does.bind (S := Preparing) (Does.sys fun (a : Option ℕ) m hm =>
    ⟨.openHidraw hidraw a hm.idle hm.begun, ?_⟩) ?_
  · show Preparing a
      (if m.hci = none then { m with hidraw := a } else { m with uhid := a, device := .opened })
    rw [if_pos hm.hci]
    exact ⟨rfl, hm.hci, hm.uhid, hm.begun⟩
  · rintro (_ | fd)
    · exact Does.pure fun _ hm => hm.idle
    · refine Does.bind (S := fun _ => Preparing (some fd)) ?_ fun ok => ?_
      · refine Does.bind usbSendSubcmd_does fun _ => Does.ite (fun _ => Does.pure fun _ hm => hm)
          fun _ => ?_
        refine Does.bind usbSendSubcmd_does fun _ => Does.ite (fun _ => Does.pure fun _ hm => hm)
          fun _ => usbSendSubcmd_does
      · refine Does.bind (S := fun _ => Idle) (Does.sys fun a m hm =>
          ⟨.closeHidraw a hm.uhid hm.hci hm.hidraw, ?_⟩) fun _ => ?_
        · show (m.close fd).fds = []
          rw [Relay.close, if_neg (by simp [hm.uhid]), if_neg (by simp [hm.hci]), Relay.fds,
            hm.uhid, hm.hci]
          rfl
        · refine Does.ite (fun _ => ?_) fun _ => Does.pure fun _ hm => hm
          refine Does.bind (S := fun _ => Idle) (Does.sys fun a m hm => ⟨.sleep 8 a hm, hm⟩)
            fun _ => ?_
          exact Does.pure fun _ hm => hm

theorem runMain_does {a : Args} (hno : a.noUhid = noUhid) :
    Does abi peer noUhid env (Preparing none) (runMain abi a peer) fun _ => Idle := by
  unfold runMain
  rw [hno]
  refine Does.ite (fun _ => ?_) fun _ => ?_
  · refine Does.bind usbInitController_does fun ok => Does.ite (fun _ => ?_) fun _ =>
      Does.pure fun _ hm => hm
    exact Does.bind reconnectLoop_does fun _ => Does.pure fun _ hm => hm
  · exact Does.bind (reconnectLoop_does.pre fun _ hm => hm.idle) fun _ => Does.pure fun _ hm => hm

end Switch2Bt.RawHci
