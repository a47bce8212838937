import Switch2Bt.Dbus.Refines

/-!
# What the daemon does in every run (`switch2-bt.c`)

For any answers of the system and of the bus: connections and descriptors are paired
(`main_balanced`), and the delays between attempts double from a second up to 32 (`main_delays`).
No attempt gets behind the discovery, which always fails (`main_unattended`); what follows it is the
matter of `Dbus.Sessions`.
-/

namespace Switch2Bt.DbusDaemon

open Await Octets Dbus Discovery HidReport Uhid

/-! ## Runs -/

/-- A run of the whole program. -/
def program (prior : CString → CString) (room : ℕ) (addr : CString) : Setting where
  prior := prior
  room := room
  addr := addr
  whole := true
  start := {}

variable {prior : CString → CString} {room : ℕ} {K : Setting}
variable {tr pre : List Obs} {m : Link} {o : Obs}

/-- What the link to every controller guarantees of a trace is guaranteed of every run. -/
theorem main_run {P : List Obs → Prop}
    (h : ∀ addr tr, (link (program prior room addr)).Follows tr → P tr) (opts : Options)
    (env : System) (budget : ℕ) : P ((main prior room opts).exec {} env budget).2.trace := by
  have hnone : P [] := h [] [] Protocol.follows_nil
  rcases opts with code | _ | addr
  · exact hnone
  · exact hnone
  · have hs : Is (Rests []) {} ({} : Vars) (link (program prior room addr)).init := ⟨rfl, rfl⟩
    exact h addr _ ((main_does rfl).exec_follows hs budget)

/-- What the link guarantees at the end is guaranteed of every run that returns. -/
theorem main_returned {P : ℤ → List Obs → Prop} {opts : Options}
    (hexit : ∀ code, opts = .exit code ∨ (opts = .run none ∧ code = 1) → P code [])
    (h : ∀ addr code tr, (link (program prior room addr)).Follows tr →
      Closed ((link (program prior room addr)).after tr) →
      (code = 0 → ((link (program prior room addr)).after tr).stopped = true) → P code tr)
    (env : System) (budget : ℕ) :
    match (main prior room opts).exec {} env budget with
    | (.done code, w) => P code w.trace
    | _ => True := by
  rcases opts with code | _ | addr
  · exact hexit code (.inl rfl)
  · exact hexit 1 (.inr ⟨rfl, rfl⟩)
  · have hs : Is (Rests []) {} ({} : Vars) (link (program prior room addr)).init := ⟨rfl, rfl⟩
    rcases hx : (main prior room (.run (some addr))).exec {} env budget with ⟨code | e | _, w⟩
    · have hcode : ((main prior room (.run (some addr))).exec {} env budget).1 = .done code := by
        rw [hx]
      have hdone : At _ _ ((main prior room (.run (some addr))).exec {} env budget).2 :=
        (main_does rfl).exec_done hs hcode
      rw [hx] at hdone
      exact h addr code w.trace hdone.1 hdone.2.1 hdone.2.2
    · trivial
    · trivial

/-- What is the same in all links that are reached. -/
structure Sane (m : Link) : Prop where
  unlinked : m.linked = false → m = m.unlinked
  bus : m.linked = true → m.bus = true
  signals : m.watching = false → m.sfd = none ∧ m.told = m.heard.length ∧ m.rumble = none
  watching : m.watching = true → m.linked = true ∧ m.notified = true ∧ m.device = .alive
  device : m.device ≠ .absent → m.found = true
  notified : m.notified = true → m.asked = initTranscript m.gatt ∧ m.device ≠ .absent
  early : m.device = .absent → m.uhid = none ∧ m.asked = []

theorem sane_unlinked (h : m.told = m.heard.length) : Sane m.unlinked where
  unlinked := fun _ => rfl
  bus := fun hl => absurd hl Bool.false_ne_true
  signals := fun _ => ⟨rfl, h, rfl⟩
  watching := fun hw => absurd hw Bool.false_ne_true
  device := fun hd => absurd rfl hd
  notified := fun hn => absurd hn Bool.false_ne_true
  early := fun _ => ⟨rfl, rfl⟩

/-- A link with a connection is not one without. -/
theorem not_unlinked {p : Prop} (hlinked : m.linked = true) (h : m.linked = false) : p := by
  rw [hlinked] at h
  cases h

theorem Sane.linked_of_device (h : Sane m) (hd : m.device ≠ .absent) : m.linked = true := by
  by_contra hl
  apply hd
  rw [h.unlinked (Bool.eq_false_iff.mpr hl)]
  rfl

theorem Sane.of_idle (h : Sane m) (hidle : m.Idle) : m = m.unlinked ∧ m.told = m.heard.length :=
  ⟨h.unlinked hidle.1, (h.signals hidle.2.2).2.1⟩

theorem sane_program {addr : CString} : Sane (program prior room addr).start :=
  sane_unlinked (m := {}) rfl

theorem Sane.next (h : Sane m) (ho : m.Allows K o) : Sane (m.next K o) := by
  cases ho with
  | openSystem a hm =>
      subst hm
      exact sane_unlinked (m := { bus := a }) rfl
  | unref a hwhole hidle =>
      obtain ⟨hm, htold⟩ := h.of_idle hidle
      show Sane { m with bus := false }
      rw [hm]
      exact sane_unlinked (m := { m with bus := false }) htold
  | adapters a hwhole hm =>
      subst hm
      show Sane (Link.objects K { bus := true } a)
      unfold Link.objects
      split
      · exact sane_unlinked (m := { bus := true }) rfl
      · rw [if_neg (by simp)]
        cases (adapterFind 128 _).2 with
        | none => exact sane_unlinked (m := { bus := true }) rfl
        | some adapter =>
          exact sane_unlinked (m := { bus := true, dev := devPathOf adapter K.addr }) rfl
  | objects a hwhole hlinked hresolved hdevice =>
      show Sane (Link.objects K m a)
      unfold Link.objects
      split
      · exact h
      · rw [if_pos hlinked]
        exact ⟨not_unlinked (m := m) hlinked, h.bus, h.signals, h.watching,
          fun hd => absurd hdevice hd, fun hn => absurd hdevice (h.notified hn).2, h.early⟩
  | connect a hwhole hidle hbus =>
      obtain ⟨hm, htold⟩ := h.of_idle hidle
      show Sane (m.called connect a)
      rw [Link.called_connect, hm]
      exact ⟨fun hl => by rw [show a = false from hl]; rfl, fun _ => hbus,
        fun _ => ⟨rfl, htold, rfl⟩, fun hw => absurd hw Bool.false_ne_true, fun hd => absurd rfl hd,
        fun hn => absurd hn Bool.false_ne_true, fun _ => ⟨rfl, rfl⟩⟩
  | disconnect a hlinked huhid hwatching =>
      show Sane (m.called disconnect a)
      rw [Link.called_disconnect]
      exact sane_unlinked (h.signals hwatching).2.1
  | notify a hdevice hnot hasked =>
      have halive : m.device ≠ .absent := by simp [hdevice]
      show Sane (m.called startNotify a)
      rw [Link.called_startNotify]
      exact ⟨not_unlinked (m := m) (h.linked_of_device halive), h.bus, h.signals,
        fun hw => absurd (h.watching hw).2.1 (by simp [hnot]), h.device, fun _ => ⟨hasked, halive⟩,
        h.early⟩
  | @ask path iface data a hfound hdevice hnot =>
      have halive : m.device ≠ .absent := by simp [hdevice]
      show Sane (if m.notified then { m with rumble := none }
        else { m with asked := m.asked ++ [(path, iface, data)] })
      rw [if_neg (by simp [hnot])]
      exact ⟨not_unlinked (m := m) (h.linked_of_device halive), h.bus, h.signals, h.watching,
        h.device, fun hn => absurd (hnot.symm.trans hn) (by simp), fun hd => absurd hd halive⟩
  | rumble a hwatching =>
      obtain ⟨hlinked, hnotified, hdevice⟩ := h.watching hwatching
      show Sane (if m.notified then { m with rumble := none } else _)
      rw [if_pos hnotified]
      exact ⟨not_unlinked (m := m) hlinked, h.bus,
        fun hw => absurd (hwatching.symm.trans hw) (by simp), h.watching, h.device, h.notified,
        h.early⟩
  | getProperty prop a hlinked =>
      exact ⟨not_unlinked (m := m) hlinked, h.bus, h.signals, h.watching, h.device, h.notified,
        h.early⟩
  | process a hl =>
      exact ⟨not_unlinked (m := m) (h.watching hl.1).1, h.bus,
        fun hw => absurd (hl.1.symm.trans hw) (by simp), h.watching, h.device, h.notified, h.early⟩
  | openUhid a hlinked hfound hdevice =>
      have hnot : m.notified = true → False := fun hn => (h.notified hn).2 hdevice
      refine ⟨not_unlinked (m := m) hlinked, h.bus, h.signals,
        fun hw => (hnot (h.watching hw).2.1).elim, fun _ => hfound, fun hn => (hnot hn).elim,
        fun hd => ⟨?_, (h.early hdevice).2⟩⟩
      cases a with
      | none => rfl
      | some fd => cases hd
  | create a huhid hdevice =>
      have halive : m.device ≠ .absent := by simp [hdevice]
      have hafter : (if a then Device.alive else Device.gone) ≠ .absent := by
        cases a <;> simp
      exact ⟨not_unlinked (m := m) (h.linked_of_device halive), h.bus, h.signals,
        fun hw => absurd (hdevice.symm.trans (h.watching hw).2.2) (by simp),
        fun _ => h.device halive,
        fun hn => ⟨(h.notified hn).1, hafter⟩, fun hd => absurd hd hafter⟩
  | report a huhid hdevice hwatching =>
      exact ⟨not_unlinked (m := m) (h.watching hwatching).1, h.bus,
        fun hw => absurd (hwatching.symm.trans hw) (by simp), h.watching, h.device, h.notified,
        h.early⟩
  | destroy a huhid hdevice hnotified hwatching =>
      have halive : m.device ≠ .absent := by simp [hdevice]
      exact ⟨not_unlinked (m := m) (h.linked_of_device halive), h.bus, h.signals,
        fun hw => absurd (hwatching.symm.trans hw) (by simp), fun _ => h.device halive,
        fun hn => ⟨(h.notified hn).1, by simp [Link.next, Link.written]⟩,
        fun hd => absurd hd (by simp [Link.next, Link.written])⟩
  | read a huhid hdevice hl =>
      exact ⟨not_unlinked (m := m) (h.watching hl.1).1, h.bus,
        fun hw => absurd (hl.1.symm.trans hw) (by simp), h.watching, h.device, h.notified, h.early⟩
  | closeUhid a huhid hdevice hwatching =>
      have hgone : m.device ≠ .absent := by simp [hdevice]
      show Sane (if m.watching then _ else { m with uhid := none })
      rw [if_neg (by simp [hwatching])]
      exact ⟨not_unlinked (m := m) (h.linked_of_device hgone), h.bus, h.signals, h.watching,
        h.device, h.notified, fun hd => absurd hd hgone⟩
  | closeSignals a hwatching hsettled =>
      show Sane (if m.watching then { m with watching := false, sfd := none } else _)
      rw [if_pos hwatching]
      exact ⟨not_unlinked (m := m) (h.watching hwatching).1, h.bus,
        fun _ => ⟨rfl, hsettled.1, hsettled.2⟩, fun hw => absurd hw Bool.false_ne_true, h.device,
        h.notified, h.early⟩
  | closeNothing a hidle =>
      obtain ⟨hm, htold⟩ := h.of_idle hidle
      show Sane (if m.watching then _ else { m with uhid := none })
      rw [if_neg (by simp [hidle.2.2]), hm]
      exact sane_unlinked (m := m) htold
  | signalfd a hdevice hnotified =>
      have halive : m.device ≠ .absent := by simp [hdevice]
      have hlinked := h.linked_of_device halive
      exact ⟨not_unlinked (m := m) hlinked, h.bus, fun hw => absurd hw.symm Bool.false_ne_true,
        fun _ => ⟨hlinked, hnotified, hdevice⟩, h.device, h.notified, h.early⟩
  | readSignal a hl =>
      exact ⟨not_unlinked (m := m) (h.watching hl.1).1, h.bus, h.signals, h.watching, h.device,
        h.notified, h.early⟩
  | sleep a hidle =>
      obtain ⟨hm, htold⟩ := h.of_idle hidle
      show Sane { m with sleeps := m.sleeps + 1, due := false }
      rw [hm]
      exact sane_unlinked (m := { m with sleeps := m.sleeps + 1, due := false }) htold
  | poll | usleep => exact h

/-- What holds of every link that is reached. -/
theorem sane (hstart : Sane K.start) (hf : (link K).Follows tr) : Sane ((link K).after tr) :=
  hf.invariant (I := fun _ => Sane) hstart fun _ _ _ h ho => h.next ho

/-! ## Connections and descriptors -/

/-- What an observation does to the open descriptors. -/
def fdChange : Obs → FdChange
  | .call .openUhid (fd : Option ℕ) => .opens fd
  | .call .signalfd (fd : Option ℕ) => .opens fd
  | .call (.close fd) _ => .closes fd
  | _ => .keeps

/-- The path that is connected. -/
def connectedTo (tr : List Obs) : Option CString :=
  tr.foldl (fun path o =>
    match o with
    | .call (.method path' _ name) (ok : Bool) =>
        if name = connect then (if ok then some path' else path)
        else if name = disconnect then none
        else path
    | _ => path) none

/-- The bus is open. -/
def busOpen (tr : List Obs) : Bool :=
  tr.foldl (fun bus o =>
    match o with
    | .call .openSystem (ok : Bool) => ok
    | .call .unref _ => false
    | _ => bus) false

/-- Nothing is connected, and nothing is open. -/
def AtRest (pre : List Obs) : Prop := connectedTo pre = none ∧ openFds fdChange pre = []

/-- A call is about what is open and what is connected; a connection is made, and the program sleeps
or ends, at rest only; a connection is given up when the descriptors are closed. -/
def BalancedAt (pre : List Obs) : Obs → Prop
  | .call .openSystem _ => busOpen pre = false
  | .call .unref _ | .call (.sleep _) _ => busOpen pre = true ∧ AtRest pre
  | .call (.method path _ name) _ => busOpen pre = true ∧
      if name = connect then AtRest pre
      else connectedTo pre ≠ none ∧
        (name = disconnect → connectedTo pre = some path ∧ openFds fdChange pre = [])
  | .call (.managedObjects path) _ => busOpen pre = true ∧
      (connectedTo pre = none ∧ path = "/".toList ∨ connectedTo pre = some path)
  | .call (.getProperty path _) _ => busOpen pre = true ∧ connectedTo pre = some path
  | .call (.writeValue _ _ _) _ | .call .process _ => busOpen pre = true ∧ connectedTo pre ≠ none
  | .call .openUhid _ => connectedTo pre ≠ none ∧ openFds fdChange pre = []
  | .call (.write fd _) _ | .call (.read fd) _ => ∃ n ∈ openFds fdChange pre, fd = some n
  | .call (.close fd) _ | .call (.readSignal fd) _ => ∀ n, fd = some n → n ∈ openFds fdChange pre
  | _ => True

/-- What the trace says of connections and descriptors is what the link remembers. -/
structure Balanced (tr : List Obs) (m : Link) : Prop where
  fds : openFds fdChange tr = m.sfd.toList ++ m.uhid.toList
  connected : connectedTo tr = if m.linked then some m.dev else none
  bus : busOpen tr = m.bus

theorem connectedTo_snoc (tr : List Obs) (o : Obs) : connectedTo (tr ++ [o]) =
    match o with
    | .call (.method path' _ name) (ok : Bool) =>
        if name = connect then (if ok then some path' else connectedTo tr)
        else if name = disconnect then none
        else connectedTo tr
    | _ => connectedTo tr := by
  simp [connectedTo, List.foldl_append]

theorem busOpen_snoc (tr : List Obs) (o : Obs) : busOpen (tr ++ [o]) =
    match o with
    | .call .openSystem (ok : Bool) => ok
    | .call .unref _ => false
    | _ => busOpen tr := by
  simp [busOpen, List.foldl_append]

/-- Neither a descriptor nor a connection changes. -/
def Plain : Obs → Prop
  | .call .openSystem _ | .call .unref _ | .call (.method _ _ _) _ | .call (.close _) _
  | .call .openUhid _ | .call .signalfd _ => False
  | _ => True

theorem Balanced.keep {m' : Link} (h : Balanced tr m) (ho : Plain o) (hsfd : m'.sfd = m.sfd)
    (huhid : m'.uhid = m.uhid) (hlinked : m'.linked = m.linked) (hdev : m'.dev = m.dev)
    (hbus : m'.bus = m.bus) : Balanced (tr ++ [o]) m' where
  fds := by
    rw [hsfd, huhid, ← h.fds]
    apply openFds_keeps
    rcases o with ⟨c, a⟩ | e | n
    · cases c with
      | close | openUhid | signalfd => exact ho.elim
      | _ => rfl
    · exact e.elim
    · exact n.elim
  connected := by
    rw [hlinked, hdev, ← h.connected, connectedTo_snoc]
    rcases o with ⟨c, a⟩ | e | n
    · cases c with
      | method => exact ho.elim
      | _ => rfl
    · exact e.elim
    · exact n.elim
  bus := by
    rw [hbus, ← h.bus, busOpen_snoc]
    rcases o with ⟨c, a⟩ | e | n
    · cases c with
      | openSystem | unref => exact ho.elim
      | _ => rfl
    · exact e.elim
    · exact n.elim

variable (K) in
/-- An answer of the object manager opens and connects nothing. -/
theorem objects_keeps (m : Link) (reply : Option (List Object)) :
    (m.objects K reply).sfd = m.sfd ∧ (m.objects K reply).uhid = m.uhid ∧
      (m.objects K reply).linked = m.linked ∧
      (m.linked = true → (m.objects K reply).dev = m.dev) ∧
      (m.objects K reply).bus = m.bus := by
  unfold Link.objects
  split
  · exact ⟨rfl, rfl, rfl, fun _ => rfl, rfl⟩
  · split
    · exact ⟨rfl, rfl, rfl, fun _ => rfl, rfl⟩
    · rename_i hlinked
      split
      · exact ⟨rfl, rfl, rfl, fun _ => rfl, rfl⟩
      · exact ⟨rfl, rfl, rfl, fun h => absurd h hlinked, rfl⟩

variable (K) in
/-- An answer of the object manager is heard and written nowhere. -/
theorem objects_silent (m : Link) (reply : Option (List Object)) :
    (m.objects K reply).heard = m.heard ∧ (m.objects K reply).told = m.told ∧
      (m.objects K reply).notified = m.notified ∧
      (m.objects K reply).asked = m.asked ∧
      (m.objects K reply).sleeps = m.sleeps ∧
      (m.objects K reply).stopped = m.stopped ∧
      (m.objects K reply).device = m.device := by
  unfold Link.objects
  split
  · exact ⟨rfl, rfl, rfl, rfl, rfl, rfl, rfl⟩
  · split
    · exact ⟨rfl, rfl, rfl, rfl, rfl, rfl, rfl⟩
    · split <;> exact ⟨rfl, rfl, rfl, rfl, rfl, rfl, rfl⟩

theorem Balanced.atRest (h : Balanced tr m) (hs : Sane m) (hidle : m.Idle) : AtRest tr := by
  refine ⟨?_, ?_⟩
  · rw [h.connected, hidle.1]
    rfl
  · rw [h.fds, hidle.2.1, (hs.signals hidle.2.2).1]
    rfl

theorem Balanced.next (h : Balanced tr m) (hs : Sane m) (ho : m.Allows K o) :
    Balanced (tr ++ [o]) (m.next K o) := by
  cases ho with
  | openSystem a hm =>
      subst hm
      exact ⟨(openFds_snoc).trans h.fds, (connectedTo_snoc tr _).trans h.connected,
        busOpen_snoc tr _⟩
  | unref a hwhole hidle hbus =>
      exact ⟨(openFds_snoc).trans h.fds, (connectedTo_snoc tr _).trans h.connected,
        busOpen_snoc tr _⟩
  | adapters a hwhole hm =>
      obtain ⟨hsfd, huhid, hlinked, -, hbus⟩ := objects_keeps K m a
      have hno : m.linked = false := by rw [hm]
      refine ⟨?_, ?_, (busOpen_snoc tr _).trans (h.bus.trans hbus.symm)⟩
      · show openFds fdChange _ = (m.objects K a).sfd.toList ++ (m.objects K a).uhid.toList
        rw [hsfd, huhid, openFds_snoc]
        exact h.fds
      · show connectedTo _ = if (m.objects K a).linked then _ else none
        rw [hlinked, connectedTo_snoc, hno]
        rw [h.connected, hno]
        rfl
  | objects a hwhole hl hresolved hdevice =>
      obtain ⟨hsfd, huhid, hlinked, hdev, hbus⟩ := objects_keeps K m a
      exact h.keep trivial hsfd huhid hlinked (hdev hl) hbus
  | connect a hwhole hidle hbus =>
      obtain ⟨hnone, hnil⟩ := h.atRest hs hidle
      show Balanced _ (m.called connect a)
      rw [Link.called_connect]
      refine ⟨(openFds_snoc).trans h.fds, (connectedTo_snoc tr _).trans ?_,
        (busOpen_snoc tr _).trans h.bus⟩
      show (if connect = connect then (if a then some m.dev else connectedTo tr) else _) =
        if a then some m.dev else none
      rw [if_pos rfl, hnone]
  | disconnect a hlinked huhid hwatching =>
      show Balanced _ (m.called disconnect a)
      rw [Link.called_disconnect]
      refine ⟨(openFds_snoc).trans ?_, (connectedTo_snoc tr _).trans ?_,
        (busOpen_snoc tr _).trans h.bus⟩
      · show openFds fdChange tr = []
        rw [h.fds, huhid, (hs.signals hwatching).1]
        rfl
      · show (if disconnect = connect then _ else if disconnect = disconnect then none else _) =
          none
        rw [if_neg (by decide), if_pos rfl]
  | notify a hdevice hnot hasked =>
      show Balanced _ (m.called startNotify a)
      rw [Link.called_startNotify]
      refine ⟨(openFds_snoc).trans h.fds, (connectedTo_snoc tr _).trans ?_,
        (busOpen_snoc tr _).trans h.bus⟩
      show (if startNotify = connect then _ else if startNotify = disconnect then _
        else connectedTo tr) = _
      rw [if_neg (by decide), if_neg (by decide)]
      exact h.connected
  | openUhid a hlinked hfound hdevice =>
      refine ⟨(openFds_snoc).trans ?_, (connectedTo_snoc tr _).trans h.connected,
        (busOpen_snoc tr _).trans h.bus⟩
      show a.toList ++ openFds fdChange tr = m.sfd.toList ++ a.toList
      have hnone : m.sfd = none := (hs.signals (Bool.eq_false_iff.mpr fun hw =>
        absurd (hs.watching hw).2.2 (by simp [hdevice]))).1
      rw [h.fds, hnone, (hs.early hdevice).1]
      simp
  | @closeUhid fd a huhid hdevice hwatching =>
      show Balanced _ (if m.watching then _ else { m with uhid := none })
      rw [if_neg (by simp [hwatching])]
      refine ⟨(openFds_snoc).trans ?_, (connectedTo_snoc tr _).trans h.connected,
        (busOpen_snoc tr _).trans h.bus⟩
      show (openFds fdChange tr).erase fd = m.sfd.toList ++ []
      rw [h.fds, huhid, (hs.signals hwatching).1]
      simp
  | closeSignals a hwatching hsettled =>
      show Balanced _ (if m.watching then { m with watching := false, sfd := none } else _)
      rw [if_pos hwatching]
      refine ⟨(openFds_snoc).trans ?_, (connectedTo_snoc tr _).trans h.connected,
        (busOpen_snoc tr _).trans h.bus⟩
      have hfds := h.fds
      cases hsfd : m.sfd with
      | none =>
          rw [hsfd] at hfds
          exact hfds
      | some fd =>
          rw [hsfd] at hfds
          show (openFds fdChange tr).erase fd = m.uhid.toList
          rw [hfds]
          simp
  | closeNothing a hidle =>
      show Balanced _ (if m.watching then _ else { m with uhid := none })
      rw [if_neg (by simp [hidle.2.2])]
      refine ⟨(openFds_snoc).trans ?_, (connectedTo_snoc tr _).trans h.connected,
        (busOpen_snoc tr _).trans h.bus⟩
      have hfds := h.fds
      rwa [hidle.2.1] at hfds
  | signalfd a hdevice hnotified hwatching =>
      refine ⟨(openFds_snoc).trans ?_, (connectedTo_snoc tr _).trans h.connected,
        (busOpen_snoc tr _).trans h.bus⟩
      show a.toList ++ openFds fdChange tr = a.toList ++ m.uhid.toList
      rw [h.fds, (hs.signals hwatching).1]
      rfl
  | @ask path iface data a hfound hdevice hnot =>
      show Balanced _ (if m.notified then _
        else { m with asked := m.asked ++ [(path, iface, data)] })
      rw [if_neg (by simp [hnot])]
      exact h.keep trivial rfl rfl rfl rfl rfl
  | rumble a hwatching =>
      show Balanced _ (if m.notified then { m with rumble := none } else _)
      rw [if_pos (hs.watching hwatching).2.1]
      exact h.keep trivial rfl rfl rfl rfl rfl
  | _ => exact h.keep trivial rfl rfl rfl rfl rfl

theorem balanced (hstart : Sane K.start) (hpre : Balanced pre K.start)
    (hf : (link K).Follows tr) : Balanced (pre ++ tr) ((link K).after tr) := by
  have hboth := hf.invariant (I := fun tr m => Sane m ∧ Balanced (pre ++ tr) m)
    ⟨hstart, by rwa [List.append_nil]⟩ fun tr m o h ho => by
      rw [← List.append_assoc]
      exact ⟨h.1.next ho, h.2.next h.1 ho⟩
  exact hboth.2

/-- What is allowed is about what is open and what is connected. -/
theorem Balanced.allows (h : Balanced tr m) (hs : Sane m) (ho : m.Allows K o) :
    BalancedAt tr o := by
  have hlinked : m.linked = true → busOpen tr = true ∧ connectedTo tr = some m.dev := fun hl => by
    rw [h.bus, hs.bus hl, h.connected, if_pos hl]
    exact ⟨rfl, rfl⟩
  have hsome : m.linked = true → busOpen tr = true ∧ connectedTo tr ≠ none := fun hl => by
    rw [(hlinked hl).1, (hlinked hl).2]
    simp
  have huhid : ∀ fd, m.uhid = some fd → fd ∈ openFds fdChange tr := fun fd hfd => by
    rw [h.fds, hfd]
    simp
  have hsfd : ∀ fd, m.sfd = some fd → fd ∈ openFds fdChange tr := fun fd hfd => by
    rw [h.fds, hfd]
    simp
  have hdevice : m.device = .alive → m.linked = true := fun hd =>
    hs.linked_of_device (by simp [hd])
  cases ho with
  | openSystem a hm =>
      subst hm
      exact h.bus
  | unref a hwhole hidle hbus => exact ⟨h.bus.trans hbus, h.atRest hs hidle⟩
  | sleep a hidle hbus => exact ⟨h.bus.trans hbus, h.atRest hs hidle⟩
  | adapters a hwhole hm =>
      refine ⟨h.bus.trans (by rw [hm]), .inl ⟨?_, rfl⟩⟩
      rw [h.connected, hm]
      rfl
  | objects a hwhole hl => exact ⟨(hlinked hl).1, .inr (hlinked hl).2⟩
  | connect a hwhole hidle hbus =>
      refine ⟨h.bus.trans hbus, ?_⟩
      rw [if_pos rfl]
      exact h.atRest hs hidle
  | disconnect a hl hu hwatching =>
      refine ⟨(hlinked hl).1, ?_⟩
      rw [if_neg (by decide)]
      refine ⟨(hsome hl).2, fun _ => ⟨(hlinked hl).2, ?_⟩⟩
      rw [h.fds, hu, (hs.signals hwatching).1]
      rfl
  | notify a hd =>
      refine ⟨(hlinked (hdevice hd)).1, ?_⟩
      rw [if_neg (by decide)]
      exact ⟨(hsome (hdevice hd)).2, fun hname => absurd hname (by decide)⟩
  | ask a hfound hd => exact hsome (hdevice hd)
  | rumble a hwatching => exact hsome (hs.watching hwatching).1
  | getProperty prop a hl => exact hlinked hl
  | process a hl => exact hsome (hs.watching hl.1).1
  | openUhid a hl hfound hd =>
      refine ⟨(hsome hl).2, ?_⟩
      have hnone : m.sfd = none := (hs.signals (Bool.eq_false_iff.mpr fun hw =>
        absurd (hs.watching hw).2.2 (by simp [hd]))).1
      rw [h.fds, hnone, (hs.early hd).1]
      rfl
  | create a hu | report a hu | destroy a hu | read a hu => exact ⟨_, huhid _ hu, rfl⟩
  | closeUhid a hu =>
      intro n hn
      cases hn
      exact huhid _ hu
  | closeSignals | readSignal => exact hsfd
  | closeNothing a hidle =>
      intro n hn
      cases hn
  | poll | signalfd | usleep => trivial

theorem balancedAt (hstart : Sane K.start) (hpre : Balanced pre K.start)
    (hf : (link K).Follows tr) : Everywhere (fun since o => BalancedAt (pre ++ since) o) tr :=
  hf.everywhere fun _ _ hsince ho =>
    (balanced hstart hpre hsince).allows (sane hstart hsince) ho

theorem balanced_program {addr : CString} : Balanced [] (program prior room addr).start :=
  ⟨rfl, rfl, rfl⟩

/-- **Connections and descriptors**: in every run no call is about a descriptor that is not open or
a connection that is not made; a controller is connected, and the program sleeps or ends, only with
nothing connected and nothing open; a connection is given up once its device is closed; and when the
program returns the bus is closed too. No run gets to a device (`main_unattended`): what becomes of
the descriptors of a session says `attend_balanced`.
Source: `switch2-bt.c` `main` -/
theorem main_balanced (prior : CString → CString) (room : ℕ) (opts : Options) (env : System)
    (budget : ℕ) :
    Everywhere BalancedAt ((main prior room opts).exec {} env budget).2.trace ∧
      match (main prior room opts).exec {} env budget with
      | (.done _, w) => AtRest w.trace ∧ busOpen w.trace = false
      | _ => True := by
  constructor
  · exact main_run (fun addr tr hf => balancedAt sane_program balanced_program hf) opts env budget
  · refine main_returned (P := fun _ tr => AtRest tr ∧ busOpen tr = false)
      (fun _ _ => ⟨⟨rfl, rfl⟩, rfl⟩) (fun addr code tr hf hclosed _ => ?_) env budget
    have h := balanced sane_program balanced_program hf
    exact ⟨h.atRest (sane sane_program hf) hclosed.1, h.bus.trans hclosed.2⟩

/-! ## No session -/

/-- A call that follows a discovery. -/
def Attends : Obs → Prop
  | .call (.writeValue _ _ _) _ | .call .process _ | .call .openUhid _ | .call (.write _ _) _
  | .call (.read _) _ | .call .signalfd _ | .call (.readSignal _) _ | .call .poll _ => True
  | .call (.method _ _ name) _ => name = startNotify
  | _ => False

/-- Such a call is made for the characteristics that were found. -/
theorem Sane.found_of_attends (h : Sane m) (ho : m.Allows K o) (hattends : Attends o) :
    m.found = true := by
  have hdevice : m.device ≠ .absent → m.found = true := h.device
  have hwatching : m.watching = true → m.found = true := fun hw =>
    hdevice (by simp [(h.watching hw).2.2])
  cases ho with
  | process a hl | poll a hl | readSignal a hl => exact hwatching hl.1
  | rumble a hw => exact hwatching hw
  | ask a hfound => exact hfound
  | openUhid a hlinked hfound => exact hfound
  | notify a hd | create a hu hd | report a hu hd | destroy a hu hd | read a hu hd
  | signalfd a hd => exact hdevice (by simp [hd])
  | connect => exact absurd (show connect = startNotify from hattends) (by decide)
  | disconnect => exact absurd (show disconnect = startNotify from hattends) (by decide)
  | _ => exact hattends.elim

/-- No characteristics were found, and no signal was read. -/
def Link.Unfound (m : Link) : Prop := m.found = false ∧ m.stopped = false

theorem Link.Unfound.next (h : m.Unfound) (hs : Sane m) (ho : m.Allows K o) :
    (m.next K o).Unfound := by
  have hno : ∀ {p : Prop}, m.found = true → p := fun hfound => by
    rw [h.1] at hfound
    cases hfound
  cases ho with
  | openSystem a hm =>
      subst hm
      exact ⟨rfl, rfl⟩
  | adapters a hwhole hm =>
      show (m.objects K a).Unfound
      subst hm
      unfold Link.objects
      split
      · exact h
      · rw [if_neg (by simp)]
        split <;> exact h
  | objects a hwhole hl =>
      show (m.objects K a).Unfound
      unfold Link.objects
      split
      · exact h
      · rw [if_pos hl, discoverGatt_fails]
        exact ⟨rfl, h.2⟩
  | connect a =>
      show (m.called connect a).Unfound
      rw [Link.called_connect]
      exact h
  | disconnect a =>
      show (m.called disconnect a).Unfound
      rw [Link.called_disconnect]
      exact ⟨rfl, h.2⟩
  | closeUhid a hu hd => exact hno (hs.device (by simp [hd]))
  | closeSignals a hw => exact hno (hs.device (by simp [(hs.watching hw).2.2]))
  | closeNothing a hidle =>
      show (if m.watching then _ else { m with uhid := none }).Unfound
      rw [if_neg (by simp [hidle.2.2])]
      exact h
  | notify a hd | signalfd a hd => exact hno (hs.device (by simp [hd]))
  | ask a hfound => exact hno hfound
  | rumble a hw => exact hno (hs.device (by simp [(hs.watching hw).2.2]))
  | openUhid a hlinked hfound => exact hno hfound
  | create a hu hd | report a hu hd | destroy a hu hd | read a hu hd =>
      exact hno (hs.device (by simp [hd]))
  | readSignal a hl => exact hno (hs.device (by simp [(hs.watching hl.1).2.2]))
  | _ => exact h

theorem unfound {addr : CString} (hf : (link (program prior room addr)).Follows tr) :
    ((link (program prior room addr)).after tr).Unfound := by
  have hboth := hf.invariant (I := fun _ m => Sane m ∧ m.Unfound)
    ⟨(sane_program : Sane (program prior room addr).start), rfl, rfl⟩
    fun _ _ _ h ho => ⟨h.1.next ho, h.2.next h.1 ho⟩
  exact hboth.2

/-- **No session**: `discover_gatt` always fails (`discoverGatt_fails`), so in no run anything is
done behind it, and no run for a controller returns zero.
Source: `switch2-bt.c` `discover_gatt`, `connect_init`, `main` -/
theorem main_unattended (prior : CString → CString) (room : ℕ) (opts : Options) (env : System)
    (budget : ℕ) :
    Everywhere (fun _ o => ¬Attends o) ((main prior room opts).exec {} env budget).2.trace ∧
      match (main prior room opts).exec {} env budget with
      | (.done code, _) => code = 0 → opts = .exit 0
      | _ => True := by
  constructor
  · apply main_run fun addr tr hf => ?_
    refine hf.everywhere fun pre o hpre ho hattends => ?_
    have hfound := (sane sane_program hpre).found_of_attends ho hattends
    rw [(unfound hpre).1] at hfound
    cases hfound
  · apply main_returned (P := fun code _ => code = 0 → opts = .exit 0)
    · rintro code (rfl | ⟨-, rfl⟩) hcode
      · rw [hcode]
      · cases hcode
    · intro addr code tr hf hclosed hstop hcode
      have hstopped := hstop hcode
      rw [(unfound hf).2] at hstopped
      cases hstopped

/-! ## Delays -/

/-- The delays since a controller was initialised. -/
def delays (tr : List Obs) : ℕ :=
  tr.foldl (fun n o =>
    match o with
    | .call (.method _ _ name) _ => if name = startNotify then 0 else n
    | .call (.sleep _) _ => n + 1
    | _ => n) 0

/-- There was an attempt since the last delay. -/
def attempted (tr : List Obs) : Bool :=
  tr.foldl (fun due o =>
    match o with
    | .call (.method _ _ name) _ => if name = connect then true else due
    | .call (.sleep _) _ => false
    | _ => due) false

/-- An attempt is the first one or comes behind a delay; a delay comes behind an attempt, and takes
twice as long as the one before it, up to 32 seconds. -/
def DelaysAt (pre : List Obs) : Obs → Prop
  | .call (.method _ _ name) _ => name = connect → attempted pre = false
  | .call (.sleep seconds) _ => attempted pre = true ∧ seconds = min 32 (2 ^ delays pre)
  | _ => True

/-- What the trace says of the attempts is what the link remembers. -/
structure Delayed (tr : List Obs) (m : Link) : Prop where
  delays : delays tr = m.sleeps
  attempted : attempted tr = m.due

theorem delays_snoc (tr : List Obs) (o : Obs) : delays (tr ++ [o]) =
    match o with
    | .call (.method _ _ name) _ => if name = startNotify then 0 else delays tr
    | .call (.sleep _) _ => delays tr + 1
    | _ => delays tr := by
  simp only [delays, List.foldl_append, List.foldl_cons, List.foldl_nil]

theorem attempted_snoc (tr : List Obs) (o : Obs) : attempted (tr ++ [o]) =
    match o with
    | .call (.method _ _ name) _ => if name = connect then true else attempted tr
    | .call (.sleep _) _ => false
    | _ => attempted tr := by
  simp only [attempted, List.foldl_append, List.foldl_cons, List.foldl_nil]

theorem connect_ne : connect ≠ startNotify := by decide

theorem disconnect_ne : disconnect ≠ startNotify := by decide

/-- Neither an attempt nor a delay. -/
def Prompt : Obs → Prop
  | .call (.method _ _ _) _ | .call (.sleep _) _ => False
  | _ => True

theorem Delayed.keep {m' : Link} (h : Delayed tr m) (ho : Prompt o) (hsleeps : m'.sleeps = m.sleeps)
    (hdue : m'.due = m.due) : Delayed (tr ++ [o]) m' := by
  have hkept : DbusDaemon.delays (tr ++ [o]) = DbusDaemon.delays tr ∧
      DbusDaemon.attempted (tr ++ [o]) = DbusDaemon.attempted tr := by
    rw [delays_snoc, attempted_snoc]
    rcases o with ⟨c, a⟩ | e | n
    · cases c with
      | method | sleep => exact ho.elim
      | _ => exact ⟨rfl, rfl⟩
    · exact e.elim
    · exact n.elim
  exact ⟨hkept.1.trans (h.delays.trans hsleeps.symm), hkept.2.trans (h.attempted.trans hdue.symm)⟩

/-- What is no method and no delay changes neither the number of delays nor the next one. -/
theorem next_prompt (ho : Prompt o) :
    (m.next K o).sleeps = m.sleeps ∧ (m.next K o).due = m.due := by
  rcases o with ⟨c, a⟩ | e | n
  · cases c with
    | method | sleep => exact ho.elim
    | managedObjects path =>
        show (m.objects K a).sleeps = m.sleeps ∧ (m.objects K a).due = m.due
        unfold Link.objects
        split
        · exact ⟨rfl, rfl⟩
        · split
          · exact ⟨rfl, rfl⟩
          · split <;> exact ⟨rfl, rfl⟩
    | writeValue path iface data =>
        unfold Link.next
        dsimp only
        split <;> exact ⟨rfl, rfl⟩
    | write fd event => cases event <;> exact ⟨rfl, rfl⟩
    | close fd =>
        unfold Link.next
        dsimp only
        split <;> exact ⟨rfl, rfl⟩
    | _ => exact ⟨rfl, rfl⟩
  · exact e.elim
  · exact n.elim

theorem Delayed.next_of_prompt (h : Delayed tr m) (ho : Prompt o) :
    Delayed (tr ++ [o]) (m.next K o) :=
  h.keep ho (next_prompt ho).1 (next_prompt ho).2

theorem Delayed.next (h : Delayed tr m) (ho : m.Allows K o) :
    Delayed (tr ++ [o]) (m.next K o) := by
  cases ho with
  | connect a =>
      show Delayed _ (m.called connect a)
      rw [Link.called_connect]
      refine ⟨?_, ?_⟩
      · rw [delays_snoc]
        exact (if_neg connect_ne).trans h.delays
      · rw [attempted_snoc]
        exact if_pos rfl
  | disconnect a =>
      show Delayed _ (m.called disconnect a)
      rw [Link.called_disconnect]
      refine ⟨?_, ?_⟩
      · rw [delays_snoc]
        exact (if_neg disconnect_ne).trans h.delays
      · rw [attempted_snoc]
        exact (if_neg (by decide)).trans h.attempted
  | notify a =>
      show Delayed _ (m.called startNotify a)
      rw [Link.called_startNotify]
      refine ⟨?_, ?_⟩
      · rw [delays_snoc]
        exact if_pos rfl
      · rw [attempted_snoc]
        exact (if_neg connect_ne.symm).trans h.attempted
  | sleep a =>
      refine ⟨?_, ?_⟩
      · rw [delays_snoc]
        exact congrArg (· + 1) h.delays
      · rw [attempted_snoc]
        rfl
  | _ =>
      apply h.next_of_prompt
      trivial

/-- **Delays**: in every run the first attempt to connect is made at once, each further one behind
exactly one delay; the delays take 1, 2, 4, 8, 16 and then 32 seconds each, and begin with a second
again once a controller was initialised, which never happens (`main_unattended`).
Source: `switch2-bt.c` `main` (reconnect loop) -/
theorem main_delays (prior : CString → CString) (room : ℕ) (opts : Options) (env : System)
    (budget : ℕ) : Everywhere DelaysAt ((main prior room opts).exec {} env budget).2.trace := by
  apply main_run fun addr tr hf => ?_
  refine hf.everywhere fun pre o hpre ho => ?_
  obtain ⟨hdelays, hattempted⟩ := hpre.invariant (I := Delayed) ⟨rfl, rfl⟩
    fun _ _ _ h ho => h.next ho
  cases ho with
  | connect a hwhole hidle hbus hdev hdue =>
      intro _
      exact hattempted.trans hdue
  | sleep a hidle hbus hstopped hdue =>
      refine ⟨hattempted.trans hdue, ?_⟩
      rw [hdelays]
  | disconnect => exact fun hname => absurd hname (by decide)
  | notify => exact fun hname => absurd hname (by decide)
  | _ => trivial

end Switch2Bt.DbusDaemon
