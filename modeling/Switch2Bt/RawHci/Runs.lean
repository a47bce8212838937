import Switch2Bt.RawHci.Refines

/-!
# What the relay does in every run (`sw2d.c`)

For any answers of the system and signals at any moment: no descriptor is used that is not open, and
none is left open (`main_descriptors`); what a session writes is the four requests, the device, the
reports and the end of the device, in this order (`main_sessions`); the reports are those of the
packets, each one written before the next packet is read (`main_relays`).

The program is a relay (`runMain_does`), so these are properties of the traces a relay allows.
-/

namespace Switch2Bt.RawHci

open Await Octets Sw2d Uhid PacketReader Report09 Addresses

/-! ## Statement -/

/-- What an observation does to the open descriptors. -/
def fdChange : Obs → FdChange
  | .call .socket (fd : Option ℕ) => .opens fd
  | .call (.openFile _) (fd : Option ℕ) => .opens fd
  | .call (.close fd) _ => .closes (some fd)
  | _ => .keeps

/-- The descriptor a call is about. -/
def used : Obs → Option ℕ
  | .call (.bind fd) _ | .call (.getFilter fd) _ | .call (.setFilter fd _) _
  | .call (.writev fd _) _ | .call (.write fd _) _ | .call (.poll fd _) _ | .call (.read fd _) _
  | .call (.close fd) _ => some fd
  | _ => none

/-- The program goes to sleep, or begins a session. -/
def Rests : Obs → Prop
  | .call .socket _ | .call (.sleep _) _ => True
  | _ => False

/-- A call is about an open descriptor; between sessions none is open. -/
def DescriptorsAt (pre : List Obs) (o : Obs) : Prop :=
  (∀ fd, used o = some fd → fd ∈ openFds fdChange pre) ∧ (Rests o → openFds fdChange pre = [])

/-- The packet that was read. -/
def packetOf : Obs → Option Octets
  | .note (.packet data) => some data
  | _ => none

/-- The packets that were read. -/
def packets (tr : List Obs) : List Octets := tr.filterMap packetOf

/-- The buffer that was to be written out, and where. -/
def writeOf : Obs → Option (ℕ × Octets)
  | .note (.wrote fd data _) => some (fd, data)
  | _ => none

/-- The buffers that were to be written out, those that failed among them. -/
def writes (tr : List Obs) : List (ℕ × Octets) := tr.filterMap writeOf

/-- A session begins. -/
def begins : Obs → Bool
  | .call .socket _ => true
  | _ => false

variable (abi : UhidEvent → Octets)

/-- All that a session writes: to the socket `hci`, and to the device if there is one. -/
def transcript (hci : ℕ) (device : Option ℕ) (handle : UInt16) (reports : List Octets) :
    List (ℕ × Octets) :=
  match device with
  | none => (requests handle).map (hci, ·)
  | some u =>
      ((requests handle).take 3).map (hci, ·) ++ [(u, abi (.create2 gamepad))] ++
        ((requests handle).drop 3).map (hci, ·) ++
        reports.map (fun r => (u, abi (.input2 r))) ++ [(u, abi .destroy)]

/-- A session writes a beginning of its transcript, to the connection that was made in it and behind
the filter that lets the answers pass. -/
structure Writes (hci : ℕ) (post : List Obs) : Prop where
  transcript : ∃ device handle reports, writes post <+: transcript abi hci device handle reports ∧
    (writes post ≠ [] → (packets post).findSome? linkOf = some handle)
  filtered : writes post ≠ [] → .call (.setFilter hci aclRuntimeFilter) true ∈ post

/-- Every session of a trace. -/
def Sessions (tr : List Obs) : Prop :=
  ∀ pre hci post, tr = pre ++ .call .socket (some hci) :: post → (∀ o ∈ post, begins o = false) →
    Writes abi hci post

/-- The reports of the packets, as they are written to a device. -/
def reports (handle : UInt16) (u : ℕ) (post : List Obs) : List (ℕ × Octets) :=
  ((packets post).filterMap (translate handle)).map fun r => (u, abi (.input2 r))

/-- What was written since notifications are enabled: the reports of the packets, all but at most
the last one; or all of them, and then the device is gone. A packet is read when none is owed. -/
structure RelayedTo (handle : UInt16) (u : ℕ) (post : List Obs) : Prop where
  written : (∃ owed, reports abi handle u post = writes post ++ owed ∧ owed.length ≤ 1) ∨
    writes post = reports abi handle u post ++ [(u, abi .destroy)]
  settled : Everywhere (fun pre o => (packetOf o).isSome → writes pre = reports abi handle u pre)
    post

/-- Every session of a trace that relays. -/
def Relays (tr : List Obs) : Prop :=
  ∀ pre handle device post, tr = pre ++ .note (.receiving handle device) :: post →
    (∀ o ∈ post, begins o = false) →
      match device with
      | none => writes post = []
      | some u => RelayedTo abi handle u post

/-! ## The program -/

variable {abi} {peer : Addr} {noUhid : Bool} {env : System} {tr : List Obs} {m : Relay} {o : Obs}

variable (abi) in
/-- What the relay to some peer guarantees of a trace is guaranteed of every run. -/
theorem main_run {P : List Obs → Prop}
    (h : ∀ peer noUhid tr, (relay abi peer noUhid).Follows tr → P tr) (argv : List (List Char))
    (env : System) (budget : ℕ) : P ((main abi argv).exec ⟨true⟩ env budget).2.trace := by
  have hrefused : ∀ k, P ((pure k : Raw ℤ).exec ⟨true⟩ env budget).2.trace := fun k =>
    h ⟨⟨List.replicate 6 0⟩, rfl⟩ true [] Protocol.follows_nil
  unfold main
  cases hargs : parseArgs argv ⟨defaultBdaddr, defaultHidraw, false, false⟩ with
  | none => exact hrefused 2
  | some a =>
      dsimp only
      cases hpeer : parseBdaddr a.bdaddr with
      | none => exact hrefused 2
      | some peer =>
          have hdoes : Does abi peer a.noUhid env (Preparing none) (runMain abi a peer)
              fun _ => Idle := runMain_does rfl
          exact h peer a.noUhid _ (hdoes.exec_follows ⟨rfl, rfl, rfl, rfl⟩ budget)

variable (abi) in
/-- A run that returned closed everything. -/
theorem main_returned {P : Traced Vars Call Answer Signal Note → Prop}
    (h : ∀ peer noUhid w, At (relay abi peer noUhid) (Hold Idle) w → P w) (argv : List (List Char))
    (env : System) (budget : ℕ) :
    match (main abi argv).exec ⟨true⟩ env budget with
    | (.done _, w) => P w
    | _ => True := by
  have hrefused : ∀ k, P ((pure k : Raw ℤ).exec ⟨true⟩ env budget).2 := fun k =>
    h ⟨⟨List.replicate 6 0⟩, rfl⟩ true _ ⟨Protocol.follows_nil, rfl⟩
  unfold main
  cases hargs : parseArgs argv ⟨defaultBdaddr, defaultHidraw, false, false⟩ with
  | none => exact hrefused 2
  | some a =>
      dsimp only
      cases hpeer : parseBdaddr a.bdaddr with
      | none => exact hrefused 2
      | some peer =>
          have hdoes : Does abi peer a.noUhid env (Preparing none) (runMain abi a peer)
              fun _ => Idle := runMain_does rfl
          rcases hx : (runMain abi a peer).exec ⟨true⟩ env budget with ⟨k | e | _, w⟩
          · have hk : ((runMain abi a peer).exec ⟨true⟩ env budget).1 = .done k := by rw [hx]
            have hdone := hdoes.exec_done ⟨rfl, rfl, rfl, rfl⟩ hk
            rw [hx] at hdone
            exact h peer a.noUhid w hdone
          · trivial
          · trivial

/-! ## Descriptors -/

theorem read_fds (m : Relay) (data : Octets) : (m.read data).fds = m.fds := by
  unfold Relay.read
  split <;> rfl

theorem write_fds (m : Relay) (data : Octets) (ok : Bool) : (m.write abi data ok).fds = m.fds := by
  unfold Relay.write
  split_ifs <;> rfl

/-- The relay remembers the open descriptors. -/
theorem openFds_eq (hf : (relay abi peer noUhid).Follows tr) :
    openFds fdChange tr = ((relay abi peer noUhid).after tr).fds := by
  refine hf.invariant (I := fun tr m => openFds fdChange tr = m.fds) rfl fun tr m o hfds ho => ?_
  rw [openFds_snoc]
  cases ho with
  | socket fd h =>
      show Option.toList fd ++ openFds fdChange tr = Option.toList fd ++ Option.toList m.hidraw
      rw [hfds, h, (show Idle m from h).hidraw]
      rfl
  | openUhid fd hci huhid _ _ _ =>
      show Option.toList fd ++ openFds fdChange tr = Relay.fds (if m.hci = none then _ else _)
      rw [if_neg (by simpa [Option.isSome_iff_ne_none] using hci), hfds, Relay.fds, huhid]
      simp [Relay.fds]
  | openHidraw path fd h _ =>
      obtain ⟨huhid, hhci, -⟩ : m.uhid = none ∧ m.hci = none ∧ m.hidraw = none := by
        simpa [Relay.fds] using h
      show Option.toList fd ++ openFds fdChange tr = Relay.fds (if m.hci = none then _ else _)
      rw [if_pos hhci, hfds, h, Relay.fds, huhid, hhci]
      simp
  | @closeUhid fd a h _ =>
      show (openFds fdChange tr).erase fd = (m.close fd).fds
      rw [hfds, Relay.close, if_pos h, Relay.fds, h]
      simp [Relay.fds]
  | @closeHci fd a huhid h =>
      show (openFds fdChange tr).erase fd = (m.close fd).fds
      rw [hfds, Relay.close, if_neg (by simp [huhid]), if_pos h, Relay.fds, h, huhid]
      simp [Relay.fds]
  | @closeHidraw fd a huhid hci h =>
      show (openFds fdChange tr).erase fd = (m.close fd).fds
      rw [hfds, Relay.close, if_neg (by simp [huhid]), if_neg (by simp [hci]), Relay.fds, h, huhid,
        hci]
      simp [Relay.fds]
  | packet data => exact hfds.trans (read_fds m data).symm
  | usb data ok => exact hfds.trans (write_fds m data ok).symm
  | ask ok => exact hfds.trans (write_fds m _ ok).symm
  | create ok => exact hfds.trans (write_fds m _ ok).symm
  | report ok => exact hfds.trans (write_fds m _ ok).symm
  | destroy ok => exact hfds.trans (write_fds m _ ok).symm
  | _ => exact hfds

theorem mem_fds_of_hci {fd : ℕ} (h : m.hci = some fd) : fd ∈ m.fds := by
  simp [Relay.fds, h]

/-- What is allowed is about open descriptors. -/
theorem Allows.descriptors (h : m.Allows abi peer noUhid o) :
    (∀ fd, used o = some fd → fd ∈ m.fds) ∧ (Rests o → m.fds = []) := by
  cases h with
  | socket _ h => exact ⟨by simp [used], fun _ => h⟩
  | sleep _ _ h => exact ⟨by simp [used], fun _ => h⟩
  | bind _ h | getFilter _ h | setFilter _ _ h | connect _ h _ | update _ h _ | poll _ _ h
  | read _ _ h | closeHci _ _ h =>
      refine ⟨fun fd heq => ?_, by simp [Rests]⟩
      cases heq
      exact mem_fds_of_hci h
  | write _ _ h =>
      refine ⟨fun fd heq => ?_, by simp [Rests]⟩
      cases heq
      exact h
  | closeUhid _ h _ | closeHidraw _ _ _ h =>
      refine ⟨fun fd heq => ?_, by simp [Rests]⟩
      cases heq
      simp [Relay.fds, h]
  | _ => exact ⟨by simp [used], by simp [Rests]⟩

/-- **Descriptors**: in every run, whatever the system answers and whenever signals arrive, no call
is about a descriptor that is not open, a session begins and the program sleeps only with none open,
and when it returns none is open.
Source: `sw2d.c` `main` -/
theorem main_descriptors (abi : UhidEvent → Octets) (argv : List (List Char)) (env : System)
    (budget : ℕ) :
    Everywhere DescriptorsAt ((main abi argv).exec ⟨true⟩ env budget).2.trace ∧
      match (main abi argv).exec ⟨true⟩ env budget with
      | (.done _, w) => openFds fdChange w.trace = []
      | _ => True := by
  constructor
  · refine main_run abi (fun peer noUhid tr hf => ?_) argv env budget
    refine hf.everywhere fun pre o hpre ho => ?_
    rw [DescriptorsAt, openFds_eq hpre]
    exact Allows.descriptors ho
  · exact main_returned abi (fun peer noUhid w hw => (openFds_eq hw.1).trans hw.2) argv env budget

/-! ## Sessions -/

@[simp] theorem packets_snoc (tr : List Obs) (o : Obs) :
    packets (tr ++ [o]) = packets tr ++ (packetOf o).toList := by
  cases h : packetOf o <;> simp [packets, h]

@[simp] theorem writes_snoc (tr : List Obs) (o : Obs) :
    writes (tr ++ [o]) = writes tr ++ (writeOf o).toList := by
  cases h : writeOf o <;> simp [writes, h]

/-- What a session has written, by what became of the device. -/
inductive Written (abi : UhidEvent → Octets) (noUhid : Bool) (hci : ℕ) (m : Relay)
    (ws : List (ℕ × Octets)) : Prop where
  | absent (hdevice : m.device = .absent) (huhid : m.uhid = none) (hws : ws = m.asked.map (hci, ·))
  | opened (hdevice : m.device = .opened) (hno : noUhid = false) (hasked : m.asked.length = 3)
      (hws : ws = m.asked.map (hci, ·))
  | alive {u : ℕ} {reports : List Octets} (hdevice : m.device = .alive) (hno : noUhid = false)
      (huhid : m.uhid = some u) (htold : m.told = reports.map fun r => abi (.input2 r))
      (hasked : 3 ≤ m.asked.length)
      (hws : ws = (m.asked.take 3).map (hci, ·) ++ [(u, abi (.create2 gamepad))] ++
        (m.asked.drop 3).map (hci, ·) ++ m.told.map (u, ·))
  | gone {u : ℕ} {handle : UInt16} {reports : List Octets} (hdevice : m.device = .gone)
      (hno : noUhid = false) (hlink : m.link = some handle) (hasked : 3 ≤ m.asked.length)
      (hws : ws <+: transcript abi hci (some u) handle reports)

/-- What is known in a session. -/
structure InSession (abi : UhidEvent → Octets) (noUhid : Bool) (hci : ℕ) (post : List Obs)
    (m : Relay) : Prop where
  begun : m.begun = true
  hidraw : m.hidraw = none
  socket : m.hci = none ∨ m.hci = some hci
  link : m.link = (packets post).findSome? linkOf
  filtered : m.filtered = true ∨ m.asked ≠ [] → .call (.setFilter hci aclRuntimeFilter) true ∈ post
  asked : m.asked ≠ [] → ∃ handle, m.link = some handle ∧ m.asked <+: requests handle
  told : m.receiving = false → m.told = []
  receiving : m.receiving = true → m.asked.length = 4
  written : Written abi noUhid hci m (writes post)

section insession

variable {hci : ℕ} {post : List Obs}

/-- What changes none of it is no step of the session. -/
theorem InSession.skip (h : InSession abi noUhid hci post m) (hp : packetOf o = none)
    (hw : writeOf o = none) : InSession abi noUhid hci (post ++ [o]) m where
  begun := h.begun
  hidraw := h.hidraw
  socket := h.socket
  link := by simpa [hp] using h.link
  filtered := fun hf => List.mem_append_left _ (h.filtered hf)
  asked := h.asked
  told := h.told
  receiving := h.receiving
  written := by simpa [hw] using h.written

/-- The same session, in a relay that differs in the descriptors only. -/
theorem InSession.setFds {m' : Relay} (h : InSession abi noUhid hci post m)
    (hidraw : m'.hidraw = none) (hhci : m'.hci = none ∨ m'.hci = some hci)
    (hm : m' = { m with hidraw := m'.hidraw, hci := m'.hci, uhid := m'.uhid })
    (hw : Written abi noUhid hci m' (writes post)) : InSession abi noUhid hci post m' := by
  rw [hm] at hw ⊢
  exact ⟨h.begun, hidraw, hhci, h.link, h.filtered, h.asked, h.told, h.receiving, hw⟩

theorem InSession.closeUhid {fd : ℕ} (h : InSession abi noUhid hci post m)
    (huhid : m.uhid = some fd) (hdevice : m.device ≠ .alive) :
    InSession abi noUhid hci post (m.close fd) := by
  have hclose : m.close fd = { m with uhid := none } := by
    rw [Relay.close, if_pos huhid]
  rw [hclose]
  refine h.setFds h.hidraw h.socket rfl ?_
  cases h.written with
  | absent hd huhid' => exact absurd (huhid.symm.trans huhid') (by simp)
  | opened hd hno hasked hws => exact .opened hd hno hasked hws
  | alive hd => exact absurd hd hdevice
  | gone hd hno hlink hasked hws => exact .gone hd hno hlink hasked hws

theorem InSession.closeHci {fd : ℕ} (h : InSession abi noUhid hci post m) (huhid : m.uhid = none)
    (hhci : m.hci = some fd) : InSession abi noUhid hci post (m.close fd) := by
  have hclose : m.close fd = { m with hci := none } := by
    rw [Relay.close, if_neg (by simp [huhid]), if_pos hhci]
  rw [hclose]
  refine h.setFds h.hidraw (.inl rfl) rfl ?_
  cases h.written with
  | absent hd huhid' hws => exact .absent hd huhid' hws
  | opened hd hno hasked hws => exact .opened hd hno hasked hws
  | alive hd hno huhid' => exact absurd (huhid'.symm.trans huhid) (by simp)
  | gone hd hno hlink hasked hws => exact .gone hd hno hlink hasked hws

theorem InSession.openUhid (h : InSession abi noUhid hci post m) {fd : Option ℕ}
    (hdevice : m.device = .absent) (hasked : m.asked.length = 3) (hno : noUhid = false) :
    InSession abi noUhid hci post { m with uhid := fd, device := .opened } := by
  refine ⟨h.begun, h.hidraw, h.socket, h.link, h.filtered, h.asked, h.told, h.receiving, ?_⟩
  cases h.written with
  | absent _ _ hws => exact .opened rfl hno hasked hws
  | opened hd => exact absurd (hd.symm.trans hdevice) (by simp)
  | alive hd => exact absurd (hd.symm.trans hdevice) (by simp)
  | gone hd => exact absurd (hd.symm.trans hdevice) (by simp)

/-- What is written stays what was written, in a relay with the same device and requests. -/
theorem Written.congr {m' : Relay} {ws : List (ℕ × Octets)} (h : Written abi noUhid hci m ws)
    (hdevice : m'.device = m.device) (huhid : m'.uhid = m.uhid) (hasked : m'.asked = m.asked)
    (htold : m'.told = m.told) (hlink : ∀ handle, m.link = some handle → m'.link = some handle) :
    Written abi noUhid hci m' ws := by
  cases h with
  | absent hd hu hws => exact .absent (hdevice.trans hd) (huhid.trans hu) (hasked ▸ hws)
  | opened hd hno hlen hws => exact .opened (hdevice.trans hd) hno (hasked ▸ hlen) (hasked ▸ hws)
  | alive hd hno hu ht hlen hws =>
      exact .alive (hdevice.trans hd) hno (huhid.trans hu) (htold.trans ht) (hasked ▸ hlen)
        (by rw [hasked, htold]; exact hws)
  | gone hd hno hl hlen hws => exact .gone (hdevice.trans hd) hno (hlink _ hl) (hasked ▸ hlen) hws

theorem InSession.setFilter {fd : ℕ} {filter : Octets} {ok : Bool}
    (h : InSession abi noUhid hci post m) (hhci : m.hci = some fd) :
    InSession abi noUhid hci (post ++ [.call (.setFilter fd filter) ok])
      { m with filtered := ok && decide (filter = aclRuntimeFilter) } := by
  obtain rfl : fd = hci := by
    rcases h.socket with hnone | hsome
    · exact absurd (hhci.symm.trans hnone) (by simp)
    · exact Option.some.inj (hhci.symm.trans hsome)
  have hsame := h.skip (o := .call (.setFilter fd filter) ok) rfl rfl
  refine ⟨h.begun, h.hidraw, h.socket, hsame.link, ?_, h.asked, h.told, h.receiving, ?_⟩
  · rintro (hf | hasked)
    · have hboth : ok = true ∧ filter = aclRuntimeFilter := by simpa using hf
      rw [hboth.1, hboth.2]
      exact List.mem_append_right _ List.mem_cons_self
    · exact hsame.filtered (.inr hasked)
  · exact hsame.written.congr rfl rfl rfl rfl fun _ hl => hl

theorem InSession.read {data : Octets} (h : InSession abi noUhid hci post m) :
    InSession abi noUhid hci (post ++ [.note (.packet data)]) (m.read data) := by
  have hpackets : packets (post ++ [.note (.packet data)]) = packets post ++ [data] := by
    simp [packetOf]
  have hwrites : writes (post ++ [.note (.packet data)]) = writes post := by
    simp [writeOf]
  have hlink : (packets (post ++ [.note (.packet data)])).findSome? linkOf =
      m.link.or (linkOf data) := by
    rw [hpackets, List.findSome?_append, h.link]
    cases hl : linkOf data <;> simp [hl]
  unfold Relay.read
  split
  · rename_i hreceiving
    -- a session that relays has its connection
    obtain ⟨handle, hhandle, _⟩ := h.asked fun hnil => by
      have hfour := h.receiving hreceiving
      rw [hnil] at hfour
      cases hfour
    refine ⟨h.begun, h.hidraw, h.socket, ?_,
      fun hf => List.mem_append_left _ (h.filtered hf), h.asked,
      h.told, h.receiving, ?_⟩
    · rw [hlink, hhandle, Option.some_or]
    · rw [hwrites]
      exact h.written.congr rfl rfl rfl rfl fun _ hl => hl
  · have hkept : ∀ handle, m.link = some handle → m.link.or (linkOf data) = some handle := by
      intro handle hl
      rw [hl, Option.some_or]
    refine ⟨h.begun, h.hidraw, h.socket, hlink.symm,
      fun hf => List.mem_append_left _ (h.filtered hf),
      fun hasked => ?_, h.told, h.receiving, ?_⟩
    · obtain ⟨handle, hl, hprefix⟩ := h.asked hasked
      exact ⟨handle, hkept handle hl, hprefix⟩
    · rw [hwrites]
      exact h.written.congr rfl rfl rfl rfl hkept

/-- The descriptor of the session. -/
theorem InSession.fd_eq {fd : ℕ} (h : InSession abi noUhid hci post m) (hhci : m.hci = some fd) :
    fd = hci := by
  rcases h.socket with hnone | hsome
  · exact absurd (hhci.symm.trans hnone) (by simp)
  · exact Option.some.inj (hhci.symm.trans hsome)

theorem requests_length (handle : UInt16) : (requests handle).length = 4 := rfl

/-- Three requests are the first three, four are all. -/
theorem asked_eq {asked : List Octets} {handle : UInt16} (h : asked <+: requests handle) :
    asked = (requests handle).take asked.length := List.prefix_iff_eq_take.mp h

theorem InSession.ask {fd : ℕ} {handle : UInt16} {data : Octets} {ok : Bool}
    (h : InSession abi noUhid hci post m) (hhci : m.hci = some fd) (hlink : m.link = some handle)
    (hfiltered : m.filtered = true) (hnext : m.asked ++ [data] <+: requests handle)
    (hlast : m.asked.length = 3 → m.Ready noUhid) :
    InSession abi noUhid hci (post ++ [.note (.wrote fd data ok)]) (m.write abi data ok) := by
  obtain rfl := h.fd_eq hhci
  have hlen : m.asked.length ≤ 3 := by
    have hle := hnext.length_le
    rw [List.length_append, requests_length, List.length_singleton] at hle
    omega
  have hnot : m.receiving = false := Bool.eq_false_iff.mpr fun hr => by
    have := h.receiving hr
    omega
  -- only a session without a device, or with one that is there, asks
  have hdone : ∀ ws, Written abi noUhid fd { m with asked := m.asked ++ [data] } ws →
      ws = writes post ++ [(fd, data)] →
      InSession abi noUhid fd (post ++ [.note (.wrote fd data ok)])
        { m with asked := m.asked ++ [data] } := by
    rintro ws hws rfl
    refine ⟨h.begun, h.hidraw, h.socket, by simpa [packetOf] using h.link,
      fun _ => List.mem_append_left _ (h.filtered (.inl hfiltered)),
      fun _ => ⟨handle, hlink, hnext⟩,
      h.told, fun hr => absurd hr (by simp [hnot]), ?_⟩
    simpa [writeOf] using hws
  cases h.written with
  | absent hd hu hws =>
      rw [Relay.write, if_pos hu, if_neg (by simp [hhci])]
      exact hdone _ (.absent hd hu rfl) (by simp [hws])
  | opened hd hno hasked _ =>
      rcases hlast hasked with hyes | halive
      · exact absurd (hyes.symm.trans hno) (by simp)
      · exact absurd (hd.symm.trans halive) (by simp)
  | gone hd hno _ hasked _ =>
      rcases hlast (by omega) with hyes | halive
      · exact absurd (hyes.symm.trans hno) (by simp)
      · exact absurd (hd.symm.trans halive) (by simp)
  | alive hd hno hu ht hasked hws =>
      rw [Relay.write, if_neg (by simp [hu]), if_neg (by simp [hd]), if_pos (by omega)]
      refine hdone _ (.alive hd hno hu ht (by simp; omega) rfl) ?_
      rw [hws, h.told hnot, List.take_append_of_le_length hasked,
        List.drop_append_of_le_length hasked]
      simp

theorem InSession.create {fd : ℕ} {ok : Bool} (h : InSession abi noUhid hci post m)
    (huhid : m.uhid = some fd) (hdevice : m.device = .opened) :
    InSession abi noUhid hci (post ++ [.note (.wrote fd (abi (.create2 gamepad)) ok)])
      (m.write abi (abi (.create2 gamepad)) ok) := by
  rw [Relay.write, if_neg (by simp [huhid]), if_pos hdevice]
  have hlink : m.link =
      (packets (post ++ [.note (.wrote fd (abi (.create2 gamepad)) ok)])).findSome? linkOf := by
    simpa [packetOf] using h.link
  refine ⟨h.begun, h.hidraw, h.socket, hlink,
    fun hf => List.mem_append_left _ (h.filtered hf), h.asked,
    h.told, h.receiving, ?_⟩
  cases h.written with
  | absent hd => exact absurd (hd.symm.trans hdevice) (by simp)
  | alive hd => exact absurd (hd.symm.trans hdevice) (by simp)
  | gone hd => exact absurd (hd.symm.trans hdevice) (by simp)
  | opened _ hno hasked hws =>
      have htold : m.told = [] := h.told (Bool.eq_false_iff.mpr fun hr => by
        have := h.receiving hr
        omega)
      cases ok with
      | true =>
          refine @Written.alive _ _ _ _ _ _ [] rfl hno huhid htold (by rw [hasked]) ?_
          simp only [writes_snoc, writeOf, hws]
          rw [htold, List.take_of_length_le (by omega), List.drop_of_length_le (by omega)]
          simp
      | false =>
          obtain ⟨handle, hhandle, hprefix⟩ := h.asked (by
            intro hnil
            rw [hnil] at hasked
            cases hasked)
          refine @Written.gone _ _ _ _ _ fd _ [] rfl hno hhandle (by rw [hasked]) ?_
          simp only [writes_snoc, writeOf, hws]
          rw [asked_eq hprefix, hasked, transcript, List.append_assoc, List.append_assoc]
          exact List.prefix_append _ _

theorem InSession.report {fd : ℕ} {data : Octets} {ok : Bool} (h : InSession abi noUhid hci post m)
    (huhid : m.uhid = some fd) (hdevice : m.device = .alive) (hreceiving : m.receiving = true)
    (hnext : m.told ++ [data] = m.expected abi) :
    InSession abi noUhid hci (post ++ [.note (.wrote fd data ok)]) (m.write abi data ok) := by
  have hfour := h.receiving hreceiving
  have hunsettled : ¬m.Settled abi := by
    rw [Relay.Settled, ← hnext]
    simp
  rw [Relay.write, if_neg (by simp [huhid]), if_neg (by simp [hdevice]), if_neg (by omega),
    if_pos ⟨hreceiving, hunsettled⟩]
  refine ⟨h.begun, h.hidraw, h.socket, by simpa [packetOf] using h.link,
    fun hf => List.mem_append_left _ (h.filtered hf), h.asked, fun hr => ?_, h.receiving, ?_⟩
  · exact absurd (hr.symm.trans hreceiving) (by simp)
  cases h.written with
  | absent hd => exact absurd (hd.symm.trans hdevice) (by simp)
  | opened hd => exact absurd (hd.symm.trans hdevice) (by simp)
  | gone hd => exact absurd (hd.symm.trans hdevice) (by simp)
  | alive _ hno hu _ hasked hws =>
      obtain rfl := Option.some.inj (hu.symm.trans huhid)
      have hexpected : ∃ rs : List Octets, m.expected abi = rs.map fun r => abi (.input2 r) := by
        unfold Relay.expected
        cases m.link with
        | none => exact ⟨[], rfl⟩
        | some handle => exact ⟨_, rfl⟩
      obtain ⟨rs, hrs⟩ := hexpected
      refine .alive hdevice hno huhid (hnext.trans hrs) hasked ?_
      simp only [writes_snoc, writeOf, hws]
      simp

theorem InSession.destroy {fd : ℕ} {ok : Bool} (h : InSession abi noUhid hci post m)
    (huhid : m.uhid = some fd) (hdevice : m.device = .alive) (hfour : m.asked.length = 4)
    (hsettled : m.receiving → m.Settled abi) :
    InSession abi noUhid hci (post ++ [.note (.wrote fd (abi .destroy) ok)])
      (m.write abi (abi .destroy) ok) := by
  rw [Relay.write, if_neg (by simp [huhid]), if_neg (by simp [hdevice]), if_neg (by omega),
    if_neg fun hr => hr.2 (hsettled hr.1)]
  refine ⟨h.begun, h.hidraw, h.socket, by simpa [packetOf] using h.link,
    fun hf => List.mem_append_left _ (h.filtered hf), h.asked, h.told, h.receiving, ?_⟩
  cases h.written with
  | absent hd => exact absurd (hd.symm.trans hdevice) (by simp)
  | opened hd => exact absurd (hd.symm.trans hdevice) (by simp)
  | gone hd => exact absurd (hd.symm.trans hdevice) (by simp)
  | @alive u reports _ hno hu htold hasked hws =>
      obtain rfl := Option.some.inj (hu.symm.trans huhid)
      obtain ⟨handle, hhandle, hprefix⟩ := h.asked (by
        intro hnil
        rw [hnil] at hfour
        cases hfour)
      refine @Written.gone _ _ _ _ _ u _ reports rfl hno hhandle hasked ?_
      have hasked : m.asked = requests handle := by
        rw [asked_eq hprefix, hfour]
        rfl
      simp only [writes_snoc, writeOf, hws]
      rw [hasked, htold, transcript, List.map_map]
      exact List.prefix_refl _

/-- One step of a session. -/
theorem InSession.step (h : InSession abi noUhid hci post m) (ho : begins o = false)
    (hallowed : m.Allows abi peer noUhid o) :
    InSession abi noUhid hci (post ++ [o]) (m.next abi o) := by
  cases hallowed with
  | socket => cases ho
  | openHidraw _ _ _ hbegun => exact absurd (hbegun.symm.trans h.begun) (by simp)
  | closeHidraw _ _ _ hhidraw => exact absurd (hhidraw.symm.trans h.hidraw) (by simp)
  | usb _ _ _ _ hhidraw => exact absurd (hhidraw.symm.trans h.hidraw) (by simp)
  | setFilter _ _ hhci => exact h.setFilter hhci
  | openUhid fd hhci _ hdevice hasked hno =>
      have hnext : m.next abi (.call (.openFile devUhid) fd) =
          { m with uhid := fd, device := .opened } := by
        show (if m.hci = none then _ else _) = _
        rw [if_neg (by simpa [Option.isSome_iff_ne_none] using hhci)]
      rw [hnext]
      exact (h.openUhid hdevice hasked hno).skip rfl rfl
  | closeUhid _ huhid hdevice => exact (h.closeUhid huhid hdevice).skip rfl rfl
  | closeHci _ huhid hhci => exact (h.closeHci huhid hhci).skip rfl rfl
  | packet => exact h.read
  | ask _ hhci hlink hfiltered hnext hlast => exact h.ask hhci hlink hfiltered hnext hlast
  | create _ huhid hdevice => exact h.create huhid hdevice
  | report _ huhid hdevice hreceiving hnext => exact h.report huhid hdevice hreceiving hnext
  | destroy _ huhid hdevice hasked hsettled => exact h.destroy huhid hdevice hasked hsettled
  | @receiving handle hnot hlink hasked =>
      have hsame := h.skip (o := .note (.receiving handle m.uhid)) rfl rfl
      exact ⟨hsame.begun, hsame.hidraw, hsame.socket, hsame.link, hsame.filtered, hsame.asked,
        fun _ => rfl, fun _ => (congrArg List.length hasked).trans rfl,
        hsame.written.congr rfl rfl rfl (h.told hnot).symm fun _ hl => hl⟩
  | _ => exact h.skip rfl rfl

/-- What a session has written is a beginning of its transcript. -/
theorem InSession.writes (h : InSession abi noUhid hci post m) : Writes abi hci post := by
  have hasked : ∀ handle, m.link = some handle → m.asked <+: requests handle →
      m.asked.map (hci, ·) <+: transcript abi hci none handle [] :=
    fun handle _ hprefix => hprefix.map _
  have hnone : RawHci.writes post = m.asked.map (hci, ·) → Writes abi hci post := by
    intro hws
    by_cases hnil : m.asked = []
    · rw [hnil, List.map_nil] at hws
      exact ⟨⟨none, 0, [], by rw [hws]; exact List.nil_prefix, fun hne => absurd hws hne⟩,
        fun hne => absurd hws hne⟩
    · obtain ⟨handle, hl, hprefix⟩ := h.asked hnil
      exact ⟨⟨none, handle, [], hws ▸ hasked handle hl hprefix, fun _ => h.link ▸ hl⟩,
        fun _ => h.filtered (.inr hnil)⟩
  have hsome : 3 ≤ m.asked.length → m.asked ≠ [] := by
    intro hlen hnil
    rw [hnil] at hlen
    cases hlen
  cases h.written with
  | absent _ _ hws => exact hnone hws
  | opened _ _ _ hws => exact hnone hws
  | @gone u handle reports _ _ hlink hlen hws =>
      exact ⟨⟨some u, handle, reports, hws, fun _ => h.link ▸ hlink⟩,
        fun _ => h.filtered (.inr (hsome hlen))⟩
  | @alive u reports _ _ _ htold hlen hws =>
      obtain ⟨handle, hl, hprefix⟩ := h.asked (hsome hlen)
      refine ⟨⟨some u, handle, reports, ?_, fun _ => h.link ▸ hl⟩,
        fun _ => h.filtered (.inr (hsome hlen))⟩
      have hle := hprefix.length_le
      rw [requests_length] at hle
      rw [hws]
      by_cases hthree : m.asked.length = 3
      · have hnot : m.receiving = false := Bool.eq_false_iff.mpr fun hr => by
          have := h.receiving hr
          omega
        rw [h.told hnot, List.drop_of_length_le (by omega), asked_eq hprefix, hthree, transcript]
        simp only [List.map_nil, List.append_nil, List.append_assoc, List.take_take, min_self]
        exact List.prefix_append_right_inj _ |>.mpr (List.prefix_append _ _)
      · have hall : m.asked = requests handle := by
          rw [asked_eq hprefix, show m.asked.length = 4 by omega]
          rfl
        rw [hall, htold, transcript, List.map_map]
        exact List.prefix_append _ _

end insession

/-- **Sessions**: in every run, what a session writes by `write_full` is a beginning of its
transcript: the requests for the MTU, the services and the characteristics, the device, the request
that enables notifications, the reports and the end of the device. The requests go to the connection
that the session made, behind the filter. The two commands go out by `writev`, and are not among
them: the one for the connection is sent before that filter is set.
Source: `sw2d.c` `run_session` -/
theorem main_sessions (abi : UhidEvent → Octets) (argv : List (List Char)) (env : System)
    (budget : ℕ) : Sessions abi ((main abi argv).exec ⟨true⟩ env budget).2.trace := by
  refine main_run abi (fun peer noUhid tr hf => ?_) argv env budget
  rintro pre hci post rfl hpost
  have hf' : (relay abi peer noUhid).Follows ((pre ++ [.call .socket (some hci)]) ++ post) := by
    simpa using hf
  obtain ⟨hpre, hsocket⟩ := Protocol.follows_snoc.mp (Everywhere.of_append hf')
  refine InSession.writes (hf'.since (I := InSession abi noUhid hci) hpost ?_
    fun post m o h ho ha => h.step ho ha)
  rw [Protocol.after_snoc]
  cases hsocket with
  | socket _ hidle =>
      have hidraw := Idle.hidraw (m := (relay abi peer noUhid).after pre) hidle
      exact ⟨rfl, hidraw, .inr rfl, rfl,
        fun h => h.elim (fun hf => absurd hf Bool.false_ne_true) fun hne => absurd rfl hne,
        fun hne => absurd rfl hne, fun _ => rfl,
        fun hr => absurd hr Bool.false_ne_true, .absent rfl rfl rfl⟩

/-! ## Relaying -/

/-- Before the first session nothing is asked; behind its beginning the preparation is over. -/
structure Started (m : Relay) : Prop where
  before : m.begun = false → m.hci = none ∧ m.uhid = none ∧ m.asked = []
  behind : m.begun = true → m.hidraw = none

theorem Started.next (h : Started m) (ho : m.Allows abi peer noUhid o) :
    Started (m.next abi o) := by
  -- a relay that has a socket or a device has begun
  have hbegun : m.hci ≠ none ∨ m.uhid ≠ none → m.begun = true := by
    intro hopen
    by_contra hnot
    obtain ⟨hhci, huhid, _⟩ := h.before (Bool.eq_false_iff.mpr hnot)
    exact hopen.elim (fun hne => hne hhci) fun hne => hne huhid
  have hkept : ∀ m' : Relay, m.begun = true → m'.begun = m.begun → m'.hidraw = m.hidraw →
      Started m' :=
    fun m' hb hb' hh => ⟨fun hf => absurd (hf.symm.trans (hb'.trans hb)) (by simp),
      fun _ => hh.trans (h.behind hb)⟩
  have hwrite : ∀ data ok, m.begun = true → Started (m.write abi data ok) := by
    intro data ok hb
    refine hkept _ hb ?_ ?_ <;> (unfold Relay.write; split_ifs <;> rfl)
  cases ho with
  | socket _ hidle =>
      exact ⟨fun hb => absurd hb.symm Bool.false_ne_true, fun _ => Idle.hidraw (m := m) hidle⟩
  | setFilter _ _ hhci => exact hkept _ (hbegun (.inl (by simp [hhci]))) rfl rfl
  | openUhid fd hhci =>
      have hopen := Option.isSome_iff_ne_none.mp hhci
      show Started (if m.hci = none then _ else _)
      rw [if_neg hopen]
      exact hkept _ (hbegun (.inl hopen)) rfl rfl
  | openHidraw _ fd _ hnot =>
      show Started (if m.hci = none then _ else _)
      rw [if_pos (h.before hnot).1]
      exact ⟨h.before, fun hb => absurd (hb.symm.trans hnot) (by simp)⟩
  | @closeUhid fd _ huhid =>
      show Started (m.close fd)
      rw [Relay.close, if_pos huhid]
      exact hkept _ (hbegun (.inr (by simp [huhid]))) rfl rfl
  | @closeHci fd _ huhid hhci =>
      show Started (m.close fd)
      rw [Relay.close, if_neg (by simp [huhid]), if_pos hhci]
      exact hkept _ (hbegun (.inl (by simp [hhci]))) rfl rfl
  | @closeHidraw fd _ huhid hhci =>
      show Started (m.close fd)
      rw [Relay.close, if_neg (by simp [huhid]), if_neg (by simp [hhci])]
      exact ⟨h.before, fun _ => rfl⟩
  | packet data hhci =>
      show Started (m.read data)
      refine hkept _ (hbegun (.inl (Option.isSome_iff_ne_none.mp hhci))) ?_ ?_ <;>
        (unfold Relay.read; split <;> rfl)
  | usb data ok huhid hhci =>
      show Started (m.write abi data ok)
      rw [Relay.write, if_pos huhid, if_pos hhci]
      exact h
  | ask ok hhci => exact hwrite _ ok (hbegun (.inl (by simp [hhci])))
  | create ok huhid => exact hwrite _ ok (hbegun (.inr (by simp [huhid])))
  | report ok huhid => exact hwrite _ ok (hbegun (.inr (by simp [huhid])))
  | destroy ok huhid => exact hwrite _ ok (hbegun (.inr (by simp [huhid])))
  | receiving => exact ⟨h.before, h.behind⟩
  | _ => exact h

/-- The relay has started or not, in every run. -/
theorem started (hf : (relay abi peer noUhid).Follows tr) :
    Started ((relay abi peer noUhid).after tr) :=
  hf.invariant (I := fun _ => Started) ⟨fun _ => ⟨rfl, rfl, rfl⟩, fun hb => by cases hb⟩
    fun _ _ _ h ho => h.next ho

/-- A session that relays, or relayed. -/
structure Relaying (handle : UInt16) (post : List Obs) (m : Relay) : Prop where
  begun : m.begun = true
  hidraw : m.hidraw = none
  asked : m.asked.length = 4
  link : m.link = some handle
  receiving : m.receiving = true
  heard : packets post = m.heard

section relaying

variable {handle : UInt16} {post : List Obs} {m' : Relay}

/-- The same session, after an observation that is no packet. -/
theorem Relaying.keep (h : Relaying handle post m) (hp : packetOf o = none)
    (hbegun : m'.begun = m.begun) (hhidraw : m'.hidraw = m.hidraw) (hasked : m'.asked = m.asked)
    (hlink : m'.link = m.link) (hreceiving : m'.receiving = m.receiving)
    (hheard : m'.heard = m.heard) :
    Relaying handle (post ++ [o]) m' where
  begun := hbegun.trans h.begun
  hidraw := hhidraw.trans h.hidraw
  asked := hasked ▸ h.asked
  link := hlink.trans h.link
  receiving := hreceiving.trans h.receiving
  heard := by simpa [hp, hheard] using h.heard

theorem Relaying.read (h : Relaying handle post m) (data : Octets) :
    Relaying handle (post ++ [.note (.packet data)]) (m.read data) ∧
      m.read data = { m with heard := m.heard ++ [data] } := by
  have hread : m.read data = { m with heard := m.heard ++ [data] } := by
    rw [Relay.read, if_pos h.receiving]
  rw [hread]
  exact ⟨⟨h.begun, h.hidraw, h.asked, h.link, h.receiving, by simp [packetOf, h.heard]⟩, rfl⟩

/-- No more requests. -/
theorem Relaying.not_ask (h : Relaying handle post m) {data : Octets} {other : UInt16}
    (hnext : m.asked ++ [data] <+: requests other) : False := by
  have hle := hnext.length_le
  rw [List.length_append, h.asked, requests_length] at hle
  simp at hle

/-- Without a device nothing is written. -/
structure Mute (handle : UInt16) (post : List Obs) (m : Relay) : Prop extends
    Relaying handle post m where
  uhid : m.uhid = none
  writes : writes post = []

theorem Mute.step (h : Mute handle post m) (ho : begins o = false)
    (hallowed : m.Allows abi peer noUhid o) : Mute handle (post ++ [o]) (m.next abi o) := by
  have hskip : ∀ m' : Relay, packetOf o = none → writeOf o = none → m'.begun = m.begun →
      m'.hidraw = m.hidraw → m'.asked = m.asked → m'.link = m.link → m'.receiving = m.receiving →
      m'.heard = m.heard → m'.uhid = none → Mute handle (post ++ [o]) m' :=
    fun m' hp hw h1 h2 h3 h4 h5 h6 hu => ⟨h.toRelaying.keep hp h1 h2 h3 h4 h5 h6, hu,
      by simp [hw, h.writes]⟩
  cases hallowed with
  | socket => cases ho
  | openHidraw _ _ _ hnot => exact absurd (hnot.symm.trans h.begun) (by simp)
  | openUhid _ _ _ _ hasked => exact absurd (hasked.symm.trans h.asked) (by simp)
  | closeUhid _ huhid => exact absurd (huhid.symm.trans h.uhid) (by simp)
  | closeHidraw _ _ _ hhidraw => exact absurd (hhidraw.symm.trans h.hidraw) (by simp)
  | usb _ _ _ _ hhidraw => exact absurd (hhidraw.symm.trans h.hidraw) (by simp)
  | ask _ _ _ _ hnext => exact (h.not_ask hnext).elim
  | create _ huhid => exact absurd (huhid.symm.trans h.uhid) (by simp)
  | report _ huhid => exact absurd (huhid.symm.trans h.uhid) (by simp)
  | destroy _ huhid => exact absurd (huhid.symm.trans h.uhid) (by simp)
  | receiving hnot => exact absurd (hnot.symm.trans h.receiving) (by simp)
  | packet data =>
      obtain ⟨hrelaying, hread⟩ := h.toRelaying.read data
      refine ⟨hrelaying, ?_, by simp [writeOf, h.writes]⟩
      show (m.read data).uhid = none
      rw [hread]
      exact h.uhid
  | setFilter => exact hskip _ rfl rfl rfl rfl rfl rfl rfl rfl h.uhid
  | @closeHci fd _ huhid hhci =>
      have hclose : m.close fd = { m with hci := none } := by
        rw [Relay.close, if_neg (by simp [huhid]), if_pos hhci]
      show Mute handle _ (m.close fd)
      rw [hclose]
      exact hskip _ rfl rfl rfl rfl rfl rfl rfl rfl h.uhid
  | _ => exact hskip _ rfl rfl rfl rfl rfl rfl rfl rfl h.uhid

/-- With a device the reports are written to it, until it is destroyed. -/
structure Telling (abi : UhidEvent → Octets) (noUhid : Bool) (handle : UInt16) (u : ℕ)
    (post : List Obs) (m : Relay) : Prop extends Relaying handle post m where
  noUhid : noUhid = false
  written : (m.device = .alive ∧ m.uhid = some u ∧ writes post = m.told.map (u, ·) ∧
      ∃ owed, m.expected abi = m.told ++ owed ∧ owed.length ≤ 1) ∨
    (m.device = .gone ∧ writes post = (m.expected abi).map (u, ·) ++ [(u, abi .destroy)])

variable {u : ℕ}

/-- What is expected of the same packets. -/
theorem expected_congr (hlink : m'.link = m.link) (hheard : m'.heard = m.heard) :
    m'.expected abi = m.expected abi := by
  unfold Relay.expected
  rw [hlink, hheard]

theorem Telling.step (h : Telling abi noUhid handle u post m) (ho : begins o = false)
    (hallowed : m.Allows abi peer noUhid o) :
    Telling abi noUhid handle u (post ++ [o]) (m.next abi o) := by
  have hskip : ∀ m' : Relay, packetOf o = none → writeOf o = none → m'.begun = m.begun →
      m'.hidraw = m.hidraw → m'.asked = m.asked → m'.link = m.link → m'.receiving = m.receiving →
      m'.heard = m.heard → m'.told = m.told → m'.device = m.device →
      (m.device = .alive → m'.uhid = m.uhid) → Telling abi noUhid handle u (post ++ [o]) m' := by
    intro m' hp hw h1 h2 h3 h4 h5 h6 h7 h8 hu
    refine ⟨h.toRelaying.keep hp h1 h2 h3 h4 h5 h6, h.noUhid, ?_⟩
    rw [writes_snoc, hw, Option.toList_none, List.append_nil, h7, h8, expected_congr h4 h6]
    rcases h.written with ⟨hd, hu', hws⟩ | hgone
    · exact .inl ⟨hd, (hu hd).trans hu', hws⟩
    · exact .inr hgone
  -- what is written is written to the device that is there
  have halive : ∀ fd, m.uhid = some fd → m.device = .alive → fd = u ∧
      writes post = m.told.map (u, ·) := by
    intro fd huhid hdevice
    rcases h.written with ⟨_, hu, hws, _⟩ | ⟨hgone, _⟩
    · exact ⟨Option.some.inj (huhid.symm.trans hu), hws⟩
    · exact absurd (hgone.symm.trans hdevice) (by simp)
  cases hallowed with
  | socket => cases ho
  | openHidraw _ _ _ hnot => exact absurd (hnot.symm.trans h.begun) (by simp)
  | openUhid _ _ _ _ hasked => exact absurd (hasked.symm.trans h.asked) (by simp)
  | closeHidraw _ _ _ hhidraw => exact absurd (hhidraw.symm.trans h.hidraw) (by simp)
  | usb _ _ _ _ hhidraw => exact absurd (hhidraw.symm.trans h.hidraw) (by simp)
  | ask _ _ _ _ hnext => exact (h.not_ask hnext).elim
  | receiving hnot => exact absurd (hnot.symm.trans h.receiving) (by simp)
  | create _ _ hdevice =>
      rcases h.written with ⟨hd, _⟩ | ⟨hd, _⟩
      · exact absurd (hd.symm.trans hdevice) (by simp)
      · exact absurd (hd.symm.trans hdevice) (by simp)
  | packet data _ hready =>
      obtain ⟨hrelaying, hread⟩ := h.toRelaying.read data
      obtain ⟨hthere, hsettled⟩ := hready h.receiving
      refine ⟨hrelaying, h.noUhid, ?_⟩
      rcases h.written with ⟨hd, hu, hws, _⟩ | ⟨hgone, _⟩
      · refine .inl ?_
        show (m.read data).device = .alive ∧ (m.read data).uhid = some u ∧
          writes (post ++ [.note (.packet data)]) = (m.read data).told.map (u, ·) ∧ ∃ owed,
            (m.read data).expected abi = (m.read data).told ++ owed ∧ owed.length ≤ 1
        rw [hread]
        refine ⟨hd, hu, by simpa [writeOf] using hws,
          ((translate handle data).toList.map fun r => abi (.input2 r)), ?_, ?_⟩
        · have hequal : m.told = m.expected abi := hsettled (by simp [hu])
          dsimp only
          rw [hequal]
          unfold Relay.expected
          dsimp only
          rw [h.link]
          dsimp only
          rw [List.filterMap_append, List.map_append]
          cases htr : translate handle data <;> simp [htr]
        · cases translate handle data <;> simp
      · rcases hthere with hyes | hd
        · exact absurd (hyes.symm.trans h.noUhid) (by simp)
        · exact absurd (hgone.symm.trans hd) (by simp)
  | @report fd data ok huhid hdevice _ hnext =>
      obtain ⟨rfl, hws⟩ := halive fd huhid hdevice
      have hunsettled : ¬m.Settled abi := by
        rw [Relay.Settled, ← hnext]
        simp
      have hwrite : m.write abi data ok = { m with told := m.told ++ [data] } := by
        rw [Relay.write, if_neg (by simp [huhid]), if_neg (by simp [hdevice]),
          if_neg (by simp [h.asked]), if_pos ⟨h.receiving, hunsettled⟩]
      show Telling abi noUhid handle fd _ (m.write abi data ok)
      rw [hwrite]
      refine ⟨h.toRelaying.keep rfl rfl rfl rfl rfl rfl rfl, h.noUhid,
        .inl ⟨hdevice, huhid, ?_, [], ?_, by simp⟩⟩
      · simp [writeOf, hws]
      · rw [List.append_nil]
        exact hnext.symm
  | @destroy fd ok huhid hdevice _ hsettled =>
      obtain ⟨rfl, hws⟩ := halive fd huhid hdevice
      have hequal : m.told = m.expected abi := hsettled h.receiving
      have hwrite : m.write abi (abi .destroy) ok = { m with device := .gone } := by
        rw [Relay.write, if_neg (by simp [huhid]), if_neg (by simp [hdevice]),
          if_neg (by simp [h.asked]), if_neg fun hr => hr.2 hequal]
      show Telling abi noUhid handle fd _ (m.write abi (abi .destroy) ok)
      rw [hwrite]
      refine ⟨h.toRelaying.keep rfl rfl rfl rfl rfl rfl rfl, h.noUhid, .inr ⟨rfl, ?_⟩⟩
      rw [writes_snoc, hws, hequal]
      rfl
  | setFilter => exact hskip _ rfl rfl rfl rfl rfl rfl rfl rfl rfl rfl fun _ => rfl
  | @closeUhid fd _ huhid hdevice =>
      have hclose : m.close fd = { m with uhid := none } := by
        rw [Relay.close, if_pos huhid]
      show Telling abi noUhid handle u _ (m.close fd)
      rw [hclose]
      exact hskip _ rfl rfl rfl rfl rfl rfl rfl rfl rfl rfl fun hd => absurd hd hdevice
  | @closeHci fd _ huhid hhci =>
      have hclose : m.close fd = { m with hci := none } := by
        rw [Relay.close, if_neg (by simp [huhid]), if_pos hhci]
      show Telling abi noUhid handle u _ (m.close fd)
      rw [hclose]
      exact hskip _ rfl rfl rfl rfl rfl rfl rfl rfl rfl rfl fun _ => rfl
  | _ => exact hskip _ rfl rfl rfl rfl rfl rfl rfl rfl rfl rfl fun _ => rfl

/-- The reports of the packets are what is expected. -/
theorem Relaying.reports (h : Relaying handle post m) :
    reports abi handle u post = (m.expected abi).map (u, ·) := by
  unfold RawHci.reports Relay.expected
  rw [h.heard, h.link, List.map_map]
  rfl

/-- A packet is read when every report was written. -/
theorem Telling.settled (h : Telling abi noUhid handle u post m) (ho : m.Allows abi peer noUhid o)
    (hpacket : (packetOf o).isSome) : writes post = RawHci.reports abi handle u post := by
  cases ho with
  | packet data _ hready =>
      obtain ⟨hthere, hsettled⟩ := hready h.receiving
      rcases h.written with ⟨_, hu, hws, _⟩ | ⟨hgone, _⟩
      · have hequal : m.told = m.expected abi := hsettled (by simp [hu])
        rw [h.toRelaying.reports, hws, hequal]
      · rcases hthere with hyes | hd
        · exact absurd (hyes.symm.trans h.noUhid) (by simp)
        · exact absurd (hgone.symm.trans hd) (by simp)
  | _ => cases hpacket

end relaying

/-- **Relaying**: in every run, from the moment a session receives notifications what it attempts to
write are the reports of the packets that are read, in order, to the device; a packet is read when
none is owed; none is left out, and nothing else is attempted until the device is to be destroyed.
A write that fails is not repeated. Without a device nothing is written.
Source: `sw2d.c` `run_session` (receive loop) -/
theorem main_relays (abi : UhidEvent → Octets) (argv : List (List Char)) (env : System)
    (budget : ℕ) : Relays abi ((main abi argv).exec ⟨true⟩ env budget).2.trace := by
  refine main_run abi (fun peer noUhid tr hf => ?_) argv env budget
  rintro pre handle device post rfl hpost
  have hf' : (relay abi peer noUhid).Follows
      ((pre ++ [.note (.receiving handle device)]) ++ post) := by
    simpa using hf
  obtain ⟨hpre, hreceiving⟩ := Protocol.follows_snoc.mp (Everywhere.of_append hf')
  have hstarted := started hpre
  cases hreceiving with
  | receiving _ hlink hasked hready hno _ =>
      have hbegun : ((relay abi peer noUhid).after pre).begun = true := by
        by_contra hnot
        obtain ⟨_, _, hnil⟩ := hstarted.before (Bool.eq_false_iff.mpr hnot)
        exact absurd (hasked.symm.trans hnil) (List.cons_ne_nil _ _)
      have hrelaying : Relaying handle [] ((relay abi peer noUhid).after
          (pre ++ [.note (.receiving handle ((relay abi peer noUhid).after pre).uhid)])) := by
        rw [Protocol.after_snoc]
        exact ⟨hbegun, hstarted.behind hbegun, (congrArg List.length hasked).trans rfl, hlink, rfl,
          rfl⟩
      rcases huhid : ((relay abi peer noUhid).after pre).uhid with _ | u
      · rw [huhid] at hf' hrelaying
        refine (hf'.since (I := Mute handle) hpost ⟨hrelaying, ?_, rfl⟩ fun post m o h ho ha =>
          h.step ho ha).writes
        rw [Protocol.after_snoc]
        exact huhid
      · rw [huhid] at hf' hrelaying
        have hfalse : noUhid = false := Bool.eq_false_iff.mpr fun hyes =>
          absurd (huhid.symm.trans (hno hyes)) (by simp)
        have halive := hready.resolve_left fun hyes => absurd (hyes.symm.trans hfalse) (by simp)
        have hbegin : Telling abi noUhid handle u [] ((relay abi peer noUhid).after
            (pre ++ [.note (.receiving handle (some u))])) := by
          refine ⟨hrelaying, hfalse, .inl ⟨?_, ?_, ?_, [], ?_, by simp⟩⟩
          all_goals rw [Protocol.after_snoc]
          · exact halive
          · exact huhid
          · rfl
          · show Relay.expected abi (Relay.next abi ((relay abi peer noUhid).after pre)
              (.note (.receiving handle (some u)))) = _
            unfold Relay.expected Relay.next
            dsimp only
            rw [hlink]
            rfl
        -- the session tells at every moment
        have htelling : ∀ p rest, post = p ++ rest → Telling abi noUhid handle u p
            ((relay abi peer noUhid).after ((pre ++ [.note (.receiving handle (some u))])
              ++ p)) := by
          rintro p rest rfl
          rw [← List.append_assoc] at hf'
          exact Protocol.Follows.since (Everywhere.of_append hf')
            (fun o ho => hpost o (List.mem_append_left _ ho)) hbegin
            fun post m o h ho ha => h.step ho ha
        refine ⟨?_, ?_⟩
        · have hall := htelling post [] (List.append_nil _).symm
          rw [hall.toRelaying.reports]
          rcases hall.written with ⟨_, _, hws, owed, hexpected, hlen⟩ | ⟨_, hws⟩
          · refine .inl ⟨owed.map (u, ·), ?_, by simpa using hlen⟩
            rw [hexpected, hws, List.map_append]
          · exact .inr hws
        · rintro p o rest rfl hpacket
          have hallowed : Relay.Allows abi peer noUhid ((relay abi peer noUhid).after
              ((pre ++ [.note (.receiving handle (some u))]) ++ p)) o := hf' _ o rest (by simp)
          exact (htelling p (o :: rest) rfl).settled hallowed hpacket

end Switch2Bt.RawHci
