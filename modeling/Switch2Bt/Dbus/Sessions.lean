import Switch2Bt.Dbus.Runs

/-!
# What the daemon does in every session (`switch2-bt.c`)

From a discovery that found the characteristics on, for any answers of the system and of the bus:
descriptors and the connection are paired (`attend_balanced`); every value that is heard becomes a
report before anything else is done (`attend_reports`); what is written to the controller is one
transcript, then one write for each rumble of its device (`attend_writes`); and a signal ends the
session by four last calls (`attend_stops`).
-/

namespace Switch2Bt.DbusDaemon

open Await Octets Dbus Discovery HidReport Uhid

/-! ## Runs of a session -/

/-- A run of a session, with the values that were heard in those before. -/
def behind (room : ℕ) (dev : CString) (before : List Octets) (g : Gatt) : Setting where
  prior := fun _ => []
  room := room
  addr := []
  whole := false
  start := foundAt dev before 0 g true

/-- A run from a discovery on, up to the next attempt or to the end: the variables are arbitrary,
but that the decoder has taken some values. -/
def attendRun (room : ℕ) (adapter addr : CString) (delay : ℕ) (before : List Octets) (s : Vars)
    (env : System) (budget : ℕ) :
    Outcome Empty ((Bool × ℕ) ⊕ Unit) × Traced Vars Call Answer Empty Empty :=
  (attend room (devPathOf adapter addr) delay).exec { s with input := afterInputs before } env
    budget

section runs

variable (room : ℕ) (adapter addr : CString) (delay : ℕ) (before : List Octets) (s : Vars)
variable (env : System) (budget : ℕ)

theorem behind_start (dev : CString) : Is (fun s' => Rests before s' ∧ s'.gatt = s.gatt)
    (foundAt dev before 0 s.gatt true) { s with input := afterInputs before }
    (link (behind room dev before s.gatt)).init := ⟨rfl, rfl, rfl⟩

theorem attendRun_follows : (link (behind room (devPathOf adapter addr) before s.gatt)).Follows
    (attendRun room adapter addr delay before s env budget).2.trace :=
  (attend_does devPathOf_ne_nil).exec_follows (behind_start room before s _) budget

/-- What holds of every link where a session returns is guaranteed of every run that does. -/
theorem attendRun_returned {R : (Bool × ℕ) ⊕ Unit → Vars → List Obs → Prop}
    (h : ∀ x s' tr heard k due,
      (link (behind room (devPathOf adapter addr) before s.gatt)).Follows tr →
      Is (Rests heard) (idle (devPathOf adapter addr) heard k x.isRight due) s'
        ((link (behind room (devPathOf adapter addr) before s.gatt)).after tr) → R x s' tr) :
    match attendRun room adapter addr delay before s env budget with
    | (.done x, w) => R x w.vars w.trace
    | _ => True := by
  rcases hx : attendRun room adapter addr delay before s env budget with ⟨x | e | _, w⟩
  · have hdone : (attendRun room adapter addr delay before s env budget).1 = .done x := by rw [hx]
    have hat : At _ _ (attendRun room adapter addr delay before s env budget).2 :=
      (attend_does devPathOf_ne_nil).exec_done (behind_start room before s _) hdone
    rw [hx] at hat
    obtain ⟨hf, heard, k, due, his⟩ := hat
    exact h x w.vars w.trace heard k due hf his
  · trivial
  · trivial

end runs

variable {K : Setting} {room : ℕ} {dev : CString} {before : List Octets} {g : Gatt}
variable {tr : List Obs} {m : Link} {o : Obs}

theorem sane_behind : Sane (behind room dev before g).start where
  unlinked := fun hl => absurd hl.symm Bool.false_ne_true
  bus := fun _ => rfl
  signals := fun _ => ⟨rfl, rfl, rfl⟩
  watching := fun hw => absurd hw Bool.false_ne_true
  device := fun hd => absurd rfl hd
  notified := fun hn => absurd hn Bool.false_ne_true
  early := fun _ => ⟨rfl, rfl⟩

/-! ## Connections and descriptors -/

/-- The bus was opened, and the controller connected. -/
def joined (dev : CString) : List Obs :=
  [.call .openSystem true, .call (.method dev ifaceDevice connect) true]

theorem balanced_behind : Balanced (joined dev) (behind room dev before g).start where
  fds := rfl
  connected := by simp [joined, connectedTo, behind, foundAt, linkedTo, idle]
  bus := rfl

/-- **Connection and descriptors of a session**: the device is opened once and destroyed, closed
and written only while it is open, and so is the descriptor of the signals; the connection is given
up when both are closed, and it is when the session returns.
Source: `switch2-bt.c` `connect_init`, `event_loop`, `cleanup` -/
theorem attend_balanced (room : ℕ) (adapter addr : CString) (delay : ℕ) (before : List Octets)
    (s : Vars) (env : System) (budget : ℕ) :
    Everywhere (fun since o => BalancedAt (joined (devPathOf adapter addr) ++ since) o)
        (attendRun room adapter addr delay before s env budget).2.trace ∧
      match attendRun room adapter addr delay before s env budget with
      | (.done _, w) => AtRest (joined (devPathOf adapter addr) ++ w.trace)
      | _ => True := by
  constructor
  · exact balancedAt sane_behind balanced_behind
      (attendRun_follows room adapter addr delay before s env budget)
  · apply attendRun_returned room adapter addr delay before s env budget
      (R := fun _ _ tr => AtRest (joined (devPathOf adapter addr) ++ tr))
    rintro x s' tr heard k due hf ⟨hm, -⟩
    have h := balanced sane_behind balanced_behind hf
    refine h.atRest (sane sane_behind hf) ?_
    rw [hm]
    exact ⟨rfl, rfl, rfl⟩

/-! ## Reports -/

/-- The path that is listened to, and the values that were heard. -/
def listened (tr : List Obs) : CString × List Octets :=
  tr.foldl (fun (path, heard) o =>
    match o with
    | .call (.method path' _ name) _ => if name = startNotify then (path', heard) else (path, heard)
    | .call .process (message : Option Message) => (path, heard ++ heardIn path message)
    | _ => (path, heard)) ([], [])

/-- The values that were heard in a run. -/
def values (tr : List Obs) : List Octets := (listened tr).2

/-- The report that was written. -/
def inputOf : Obs → Option Octets
  | .call (.write _ (.input report)) _ => some report
  | _ => none

/-- The reports that were written in a run. -/
def written (tr : List Obs) : List Octets := tr.filterMap inputOf

/-- The reports that values stand for: for each one the state after all of them up to it, and after
those before. -/
def reportsOf (before heard : List Octets) : List Octets :=
  (List.range heard.length).map fun i => reportAfter (before ++ heard.take (i + 1))

/-- What the trace says of values and reports is what the link remembers. -/
structure Reported (before : List Octets) (tr : List Obs) (m : Link) : Prop where
  path : m.notified = true → (listened tr).1 = m.gatt.pathInput
  heard : m.heard = before ++ values tr
  told : m.told = before.length + (written tr).length
  inputs : written tr <+: reportsOf before (values tr)

theorem listened_snoc (tr : List Obs) (o : Obs) : listened (tr ++ [o]) =
    match o with
    | .call (.method path' _ name) _ =>
        if name = startNotify then (path', values tr) else listened tr
    | .call .process (message : Option Message) =>
        ((listened tr).1, values tr ++ heardIn (listened tr).1 message)
    | _ => listened tr := by
  simp only [listened, values, List.foldl_append, List.foldl_cons, List.foldl_nil]

theorem written_snoc (tr : List Obs) (o : Obs) :
    written (tr ++ [o]) = written tr ++ (inputOf o).toList := by
  cases h : inputOf o <;> simp [written, h]

@[simp] theorem reportsOf_length (before heard : List Octets) :
    (reportsOf before heard).length = heard.length := by
  simp [reportsOf]

/-- More values add reports. -/
theorem reportsOf_append (before heard more : List Octets) :
    reportsOf before heard <+: reportsOf before (heard ++ more) := by
  rw [List.prefix_iff_eq_take, reportsOf_length]
  apply List.ext_getElem
  · simp
  · intro i hi _
    rw [reportsOf_length] at hi
    simp only [reportsOf, List.getElem_take, List.getElem_map, List.getElem_range]
    rw [List.take_append_of_le_length (by omega)]

/-- The next report. -/
theorem reportsOf_snoc {heard ws : List Octets} (h : ws <+: reportsOf before heard)
    (hlt : ws.length < heard.length) :
    ws ++ [reportAfter (before ++ heard.take (ws.length + 1))] <+: reportsOf before heard := by
  have hnext : (reportsOf before heard)[ws.length]? =
      some (reportAfter (before ++ heard.take (ws.length + 1))) := by
    simp [reportsOf, hlt]
  have htake : (reportsOf before heard).take (ws.length + 1) =
      ws ++ [reportAfter (before ++ heard.take (ws.length + 1))] := by
    rw [List.take_add_one, hnext, ← List.prefix_iff_eq_take.mp h]
    rfl
  rw [← htake]
  exact List.take_prefix _ _

/-- Neither a value nor a report, and no other path to listen to. -/
def Silent : Obs → Prop
  | .call (.method _ _ name) _ => name ≠ startNotify
  | .call .process _ => False
  | .call (.write _ (.input _)) _ => False
  | _ => True

theorem Reported.keep {m' : Link} (h : Reported before tr m) (ho : Silent o)
    (hpath : m'.notified = true → m.notified = true ∧ m'.gatt = m.gatt)
    (hheard : m'.heard = m.heard) (htold : m'.told = m.told) : Reported before (tr ++ [o]) m' := by
  have hlistened : listened (tr ++ [o]) = listened tr := by
    rw [listened_snoc]
    rcases o with ⟨c, a⟩ | e | n
    · cases c with
      | method path iface name => exact if_neg ho
      | process => exact ho.elim
      | _ => rfl
    · exact e.elim
    · exact n.elim
  have hinput : inputOf o = none := by
    rcases o with ⟨c, a⟩ | e | n
    · cases c with
      | write fd event =>
          cases event with
          | input => exact ho.elim
          | _ => rfl
      | _ => rfl
    · exact e.elim
    · exact n.elim
  have hwritten : written (tr ++ [o]) = written tr := by simp [written_snoc, hinput]
  refine ⟨fun hn => ?_, ?_, ?_, ?_⟩
  · rw [hlistened, h.path (hpath hn).1, (hpath hn).2]
  · rw [values, hlistened, hheard]
    exact h.heard
  · rw [htold, hwritten]
    exact h.told
  · rw [values, hlistened, hwritten]
    exact h.inputs

theorem Reported.next (h : Reported before tr m) (hs : Sane m) (ho : m.Allows K o) :
    Reported before (tr ++ [o]) (m.next K o) := by
  cases ho with
  | openSystem a hm =>
      subst hm
      exact h.keep trivial (fun hn => absurd hn Bool.false_ne_true) rfl rfl
  | adapters a hwhole hm =>
      obtain ⟨hheard, htold, hnotified, -⟩ := objects_silent K m a
      refine h.keep trivial (fun hn => ?_) hheard htold
      have hn : (m.objects K a).notified = true := hn
      rw [hnotified, hm] at hn
      cases hn
  | objects a hwhole hl hresolved hdevice =>
      obtain ⟨hheard, htold, hnotified, -⟩ := objects_silent K m a
      refine h.keep trivial (fun hn => ?_) hheard htold
      exact absurd hdevice (hs.notified (hnotified.symm.trans hn)).2
  | connect a hwhole hidle =>
      show Reported before _ (m.called connect a)
      rw [Link.called_connect]
      exact h.keep (o := .call (.method _ _ connect) a) connect_ne (fun hn => ⟨hn, rfl⟩) rfl rfl
  | disconnect a hl hu hwatching =>
      show Reported before _ (m.called disconnect a)
      rw [Link.called_disconnect]
      exact h.keep (o := .call (.method _ _ disconnect) a) disconnect_ne
        (fun hn => absurd hn Bool.false_ne_true) rfl rfl
  | notify a hdevice =>
      show Reported before _ (m.called startNotify a)
      rw [Link.called_startNotify]
      have hvalues : values (tr ++ [.call (.method m.gatt.pathInput ifaceGattChar startNotify) a]) =
          values tr := by
        rw [values, listened_snoc]
        exact (congrArg Prod.snd (if_pos rfl)).trans rfl
      have hwritten : written (tr ++ [.call (.method m.gatt.pathInput ifaceGattChar startNotify) a])
          = written tr := (written_snoc tr _).trans (List.append_nil _)
      refine ⟨fun _ => ?_, ?_, ?_, ?_⟩
      · rw [listened_snoc]
        exact congrArg Prod.fst (if_pos rfl)
      · rw [hvalues]
        exact h.heard
      · rw [hwritten]
        exact h.told
      · rw [hvalues, hwritten]
        exact h.inputs
  | process a hl =>
      have hpath := h.path (hs.watching hl.1).2.1
      have hvalues : values (tr ++ [.call .process a]) =
          values tr ++ heardIn m.gatt.pathInput a := by
        rw [values, listened_snoc, ← hpath]
      have hwritten : written (tr ++ [.call .process a]) = written tr :=
        (written_snoc tr _).trans (List.append_nil _)
      refine ⟨fun _ => ?_, ?_, ?_, ?_⟩
      · rw [listened_snoc]
        exact hpath
      · rw [hvalues, ← List.append_assoc, ← h.heard]
        rfl
      · rw [hwritten]
        exact h.told
      · rw [hvalues, hwritten]
        exact h.inputs.trans (reportsOf_append before _ _)
  | @report fd a hu hdevice hwatching hnext =>
      have hvalues : values (tr ++ [.call (.write (some fd)
          (.input (reportAfter (m.heard.take (m.told + 1))))) a]) = values tr := by
        rw [values, listened_snoc]
        rfl
      have hlt : (written tr).length < (values tr).length := by
        rw [h.heard, h.told, List.length_append] at hnext
        omega
      have hreport : m.heard.take (m.told + 1) =
          before ++ (values tr).take ((written tr).length + 1) := by
        rw [h.heard, h.told, Nat.add_assoc, List.take_length_add_append]
      refine ⟨fun hn => ?_, ?_, ?_, ?_⟩
      · rw [listened_snoc]
        exact h.path hn
      · rw [hvalues]
        exact h.heard
      · rw [written_snoc]
        show m.told + 1 = before.length + (written tr ++ [_]).length
        rw [h.told, List.length_append, List.length_singleton, Nat.add_assoc]
      · rw [hvalues, written_snoc, hreport]
        exact reportsOf_snoc h.inputs hlt
  | @ask path iface data a hfound hdevice hnot =>
      show Reported before _ (if m.notified then _
        else { m with asked := m.asked ++ [(path, iface, data)] })
      rw [if_neg (by simp [hnot])]
      exact h.keep trivial (fun hn => ⟨hn, rfl⟩) rfl rfl
  | rumble a hwatching =>
      show Reported before _ (if m.notified then { m with rumble := none } else _)
      rw [if_pos (hs.watching hwatching).2.1]
      exact h.keep trivial (fun hn => ⟨hn, rfl⟩) rfl rfl
  | closeUhid a hu hdevice hwatching =>
      show Reported before _ (if m.watching then _ else { m with uhid := none })
      rw [if_neg (by simp [hwatching])]
      exact h.keep trivial (fun hn => ⟨hn, rfl⟩) rfl rfl
  | closeSignals a hwatching =>
      show Reported before _ (if m.watching then { m with watching := false, sfd := none } else _)
      rw [if_pos hwatching]
      exact h.keep trivial (fun hn => ⟨hn, rfl⟩) rfl rfl
  | closeNothing a hidle =>
      show Reported before _ (if m.watching then _ else { m with uhid := none })
      rw [if_neg (by simp [hidle.2.2])]
      exact h.keep trivial (fun hn => ⟨hn, rfl⟩) rfl rfl
  | _ => exact h.keep trivial (fun hn => ⟨hn, rfl⟩) rfl rfl

theorem reported (hf : (link (behind room dev before g)).Follows tr) :
    Reported before tr ((link (behind room dev before g)).after tr) := by
  have hboth := hf.invariant (I := fun tr m => Sane m ∧ Reported before tr m)
    ⟨(sane_behind : Sane (behind room dev before g).start), fun hn => absurd hn Bool.false_ne_true,
      (List.append_nil _).symm, rfl, List.nil_prefix⟩
    fun _ _ _ h ho => ⟨h.1.next ho, h.2.next h.1 ho⟩
  exact hboth.2

/-- Whatever is no report waits until every value is told. -/
theorem Sane.told (h : Sane m) (ho : m.Allows K o) (hinput : inputOf o = none) :
    m.told = m.heard.length := by
  by_cases hwatching : m.watching = true
  · have hlinked := (h.watching hwatching).1
    have hnot : m.notified = false → m.told = m.heard.length := fun hn =>
      absurd (hn.symm.trans (h.watching hwatching).2.1) (by simp)
    have hidle : m.Idle → m.told = m.heard.length := fun hi =>
      absurd (hi.1.symm.trans hlinked) (by simp)
    have hdevice : m.device ≠ .alive → m.told = m.heard.length := fun hd =>
      absurd (h.watching hwatching).2.2 hd
    cases ho with
    | process a hl | poll a hl | readSignal a hl => exact hl.2.2.1
    | read a hu hd hl => exact hl.2.2.1
    | openSystem a hm | adapters a hwhole hm =>
        rw [hm]
        rfl
    | unref a hwhole hi | connect a hwhole hi | closeNothing a hi | sleep a hi => exact hidle hi
    | rumble a hw htold => exact htold
    | closeSignals a hw hsettled => exact hsettled.1
    | disconnect a hl hu hw | closeUhid a hu hd hw | signalfd a hd hn hw =>
        exact absurd (hw.symm.trans hwatching) (by simp)
    | destroy a hu hd hn hw => exact absurd (hw.symm.trans hwatching) (by simp)
    | notify a hd hn | usleep us a hl hn => exact hnot hn
    | ask a hfound hd hn => exact hnot hn
    | objects a hwhole hl hr hd | openUhid a hl hfound hd => exact hdevice (by simp [hd])
    | getProperty prop a hl hn hd => exact hdevice (by simp [hd])
    | create a hu hd => exact hdevice (by simp [hd])
    | report => cases hinput
  · exact (h.signals (Bool.eq_false_iff.mpr hwatching)).2.1

/-- A bus and a system where the controller sends one value, and then a signal is read. -/
def oneValue : System where
  answer n c := match c with
    | .openSystem | .method _ _ _ | .writeValue _ _ _ | .write _ _ => true
    | .managedObjects _ | .getProperty _ _ | .read _ => none
    | .process => if n = 36 then some (.propertiesChanged "/char0002".toList ifaceGattChar
        [("Value".toList, .bytes (List.replicate 11 0xff))]) else none
    | .openUhid => some 3
    | .signalfd => some 4
    | .poll => Polled.ready false false true
    | .unref | .close _ | .readSignal _ | .usleep _ | .sleep _ => ()
  events _ := []

/-- A session with it. -/
def oneValueRun : Outcome Empty ((Bool × ℕ) ⊕ Unit) × Traced Vars Call Answer Empty Empty :=
  attendRun 4096 "/org/bluez/hci0".toList "E0:EF:BF:3B:C6:76".toList 1 []
    { gatt := { pathInput := "/char0002".toList } } oneValue 60

example : written oneValueRun.2.trace = [reportAfter [List.replicate 11 0xff]] := by decide +kernel

/-! ## Writes -/

/-- The write of an observation. -/
def writeOf : Obs → Option Write
  | .call (.writeValue path iface data) _ => some (path, iface, data)
  | _ => none

/-- The rumble that was read from the device. -/
def readOf : Obs → Option Octets
  | .call (.read _) (event : Option UhidEvent) => rumbleOf event
  | _ => none

/-- The writes of a session. -/
def writes (tr : List Obs) : List Write := tr.filterMap writeOf

/-- The writes that rumbles of the device stand for. -/
def rumbleWrites (g : Gatt) (rumbles : List Octets) : List Write :=
  if g.pathOutput = [] then [] else rumbles.map fun data => (g.pathOutput, ifaceGattChar, data)

/-- The writes that a session is for. -/
def expected (g : Gatt) (tr : List Obs) : List Write :=
  initTranscript g ++ rumbleWrites g (tr.filterMap readOf)

/-- What a session says of the writes is what the link remembers. -/
structure Wrote (g : Gatt) (tr : List Obs) (m : Link) : Prop where
  gatt : m.linked = true → m.gatt = g
  early : m.linked = true → m.notified = false → writes tr = m.asked ∧ tr.filterMap readOf = []
  late : m.linked = true → m.notified = true →
    writes tr ++ rumbleWrites g m.rumble.toList = expected g tr
  quiet : m.linked = true → g.pathOutput = [] → m.rumble = none

theorem writes_snoc (tr : List Obs) (o : Obs) :
    writes (tr ++ [o]) = writes tr ++ (writeOf o).toList := by
  cases h : writeOf o <;> simp [writes, h]

theorem reads_snoc (tr : List Obs) (o : Obs) :
    (tr ++ [o]).filterMap readOf = tr.filterMap readOf ++ (readOf o).toList := by
  cases h : readOf o <;> simp [h]

theorem rumbleWrites_append (g : Gatt) (rumbles more : List Octets) :
    rumbleWrites g (rumbles ++ more) = rumbleWrites g rumbles ++ rumbleWrites g more := by
  unfold rumbleWrites
  split <;> simp

@[simp] theorem rumbleWrites_nil (g : Gatt) : rumbleWrites g [] = [] := by
  unfold rumbleWrites
  split <;> rfl

/-- Neither a write nor a rumble. -/
def Aside (o : Obs) : Prop := writeOf o = none ∧ readOf o = none

theorem expected_snoc (tr : List Obs) (o : Obs) :
    expected g (tr ++ [o]) = expected g tr ++ rumbleWrites g (readOf o).toList := by
  rw [expected, reads_snoc, rumbleWrites_append, ← List.append_assoc]
  rfl

theorem Wrote.keep {m' : Link} (h : Wrote g tr m) (ho : Aside o)
    (hlinked : m'.linked = true → m.linked = true) (hgatt : m'.gatt = m.gatt)
    (hnotified : m'.notified = m.notified) (hasked : m'.asked = m.asked)
    (hrumble : m'.rumble = m.rumble) : Wrote g (tr ++ [o]) m' := by
  obtain ⟨hwrite, hread⟩ := ho
  have hwrites : writes (tr ++ [o]) = writes tr := by simp [writes_snoc, hwrite]
  refine ⟨fun hl => ?_, fun hl hn => ?_, fun hl hn => ?_, fun hl hpath => ?_⟩
  · rw [hgatt]
    exact h.gatt (hlinked hl)
  · rw [hwrites, reads_snoc, hread, hasked]
    obtain ⟨hasked, hreads⟩ := h.early (hlinked hl) (hnotified ▸ hn)
    exact ⟨hasked, by rw [hreads]; rfl⟩
  · rw [hwrites, expected_snoc, hread, hrumble]
    simpa using h.late (hlinked hl) (hnotified ▸ hn)
  · rw [hrumble]
    exact h.quiet (hlinked hl) hpath

/-- Without a connection nothing is said. -/
theorem wrote_unlinked (hl : m.linked = false) : Wrote g tr m :=
  ⟨fun h => not_unlinked h hl, fun h => not_unlinked h hl, fun h => not_unlinked h hl,
    fun h => not_unlinked h hl⟩

theorem Wrote.next (h : Wrote g tr m) (hs : Sane m) (hK : K.whole = false)
    (ho : m.Allows K o) : Wrote g (tr ++ [o]) (m.next K o) := by
  have hsession : ∀ {p : Prop}, K.whole = true → p := fun hwhole => by
    rw [hK] at hwhole
    cases hwhole
  cases ho with
  | openSystem a hm =>
      subst hm
      exact wrote_unlinked rfl
  | unref a hwhole | adapters a hwhole | objects a hwhole | connect a hwhole =>
      exact hsession hwhole
  | disconnect a hl =>
      show Wrote _ _ (m.called disconnect a)
      rw [Link.called_disconnect]
      exact wrote_unlinked rfl
  | notify a hdevice hnot hasked =>
      have hl := hs.linked_of_device (by simp [hdevice])
      obtain ⟨hwrites, hreads⟩ := h.early hl hnot
      have hrumble : m.rumble = none := (hs.signals (Bool.eq_false_iff.mpr fun hw =>
        absurd (hnot.symm.trans (hs.watching hw).2.1) (by simp))).2.2
      show Wrote _ _ (m.called startNotify a)
      rw [Link.called_startNotify]
      refine ⟨h.gatt, fun _ hn => absurd hn.symm (by simp), fun _ _ => ?_, fun _ _ => hrumble⟩
      rw [writes_snoc, expected_snoc]
      show writes tr ++ [] ++ rumbleWrites g m.rumble.toList = expected g tr ++ rumbleWrites g []
      rw [hwrites, hasked, hrumble]
      simp [expected, h.gatt hl, hreads]
  | @ask path iface data a hfound hdevice hnot =>
      have hl := hs.linked_of_device (by simp [hdevice])
      obtain ⟨hasked, hreads⟩ := h.early hl hnot
      show Wrote _ _ (if m.notified then _
        else { m with asked := m.asked ++ [(path, iface, data)] })
      rw [if_neg (by simp [hnot])]
      refine ⟨h.gatt, fun _ _ => ⟨?_, ?_⟩, fun _ hn => absurd (hnot.symm.trans hn) (by simp),
        h.quiet⟩
      · rw [writes_snoc, hasked]
        rfl
      · rw [reads_snoc, hreads]
        rfl
  | @rumble data a hwatching htold hr =>
      obtain ⟨hl, hnotified, hdevice⟩ := hs.watching hwatching
      have hlate := h.late hl hnotified
      have hgatt := h.gatt hl
      subst hgatt
      have hpath : m.gatt.pathOutput ≠ [] := fun hpath => by
        rw [h.quiet hl hpath] at hr
        cases hr
      show Wrote _ _ (if m.notified then { m with rumble := none } else _)
      rw [if_pos hnotified]
      refine ⟨fun _ => rfl, fun _ hn => absurd (hn.symm.trans hnotified) (by simp), fun _ _ => ?_,
        fun _ _ => rfl⟩
      rw [writes_snoc, expected_snoc, ← hlate, hr]
      simp [rumbleWrites, hpath, writeOf, readOf]
  | read a hu hdevice hl =>
      obtain ⟨hlinked, hnotified, hdevice⟩ := hs.watching hl.1
      have hlate := h.late hlinked hnotified
      have hgatt := h.gatt hlinked
      subst hgatt
      refine ⟨fun _ => rfl, fun _ hn => absurd (hn.symm.trans hnotified) (by simp), fun _ _ => ?_,
        fun _ hpath => if_pos hpath⟩
      rw [hl.2.2.2] at hlate
      rw [writes_snoc, expected_snoc, ← hlate]
      show writes tr ++ [] ++ rumbleWrites m.gatt
        (if m.gatt.pathOutput = [] then none else rumbleOf a).toList =
          writes tr ++ rumbleWrites m.gatt [] ++ rumbleWrites m.gatt (rumbleOf a).toList
      by_cases hpath : m.gatt.pathOutput = [] <;> simp [rumbleWrites, hpath]
  | closeUhid a hu hdevice hwatching =>
      show Wrote _ _ (if m.watching then _ else { m with uhid := none })
      rw [if_neg (by simp [hwatching])]
      exact h.keep ⟨rfl, rfl⟩ id rfl rfl rfl rfl
  | closeSignals a hwatching =>
      show Wrote _ _ (if m.watching then { m with watching := false, sfd := none } else _)
      rw [if_pos hwatching]
      exact h.keep ⟨rfl, rfl⟩ id rfl rfl rfl rfl
  | closeNothing a hidle =>
      show Wrote _ _ (if m.watching then _ else { m with uhid := none })
      rw [if_neg (by simp [hidle.2.2])]
      exact h.keep ⟨rfl, rfl⟩ id rfl rfl rfl rfl
  | _ => exact h.keep ⟨rfl, rfl⟩ id rfl rfl rfl rfl

theorem wrote (hf : (link (behind room dev before g)).Follows tr) :
    Wrote g tr ((link (behind room dev before g)).after tr) := by
  have hboth := hf.invariant (I := fun tr m => Sane m ∧ Wrote g tr m)
    ⟨(sane_behind : Sane (behind room dev before g).start), fun _ => rfl, fun _ _ => ⟨rfl, rfl⟩,
      fun _ hn => absurd hn Bool.false_ne_true, fun _ _ => rfl⟩
    fun _ _ _ h ho => ⟨h.1.next ho, h.2.next h.1 rfl ho⟩
  exact hboth.2

/-- The call of an observation. -/
def callOf : Obs → Option Call
  | .call c _ => some c
  | _ => none

/-- The calls of a trace. -/
def calls (tr : List Obs) : List Call := tr.filterMap callOf

theorem calls_snoc (tr : List Obs) (o : Obs) :
    calls (tr ++ [o]) = calls tr ++ (callOf o).toList := by
  cases h : callOf o <;> simp [calls, h]

/-- What is left to do behind a signal. -/
def lastCalls (sfd : Option ℕ) (fd : ℕ) (dev : CString) : List Call :=
  [.close sfd, .write (some fd) .destroy, .close (some fd), .method dev ifaceDevice disconnect]

/-- Behind a signal only the last calls are made. -/
def Stops (tr : List Obs) : Prop :=
  ∀ pre sfd a post, tr = pre ++ .call (.readSignal sfd) a :: post →
    ∃ fd dev, calls post <+: lastCalls sfd fd dev

/-- A signal was read, and all the last calls were made. -/
def Stopped (tr : List Obs) : Prop :=
  ∃ pre sfd a post fd dev, tr = pre ++ .call (.readSignal sfd) a :: post ∧
    calls post = lastCalls sfd fd dev

/-- Where the link is when `k` of the last calls were made. -/
inductive Ending (sfd : Option ℕ) (fd : ℕ) (dev : CString) (m : Link) : ℕ → Prop where
  | signalled (hdev : m.dev = dev) (hsfd : m.sfd = sfd) (huhid : m.uhid = some fd)
      (hdevice : m.device = .alive) (hnotified : m.notified = true) (hwatching : m.watching = true)
      (hsettled : m.Settled) : Ending sfd fd dev m 0
  | left (hdev : m.dev = dev) (huhid : m.uhid = some fd) (hdevice : m.device = .alive)
      (hnotified : m.notified = true) (hwatching : m.watching = false) : Ending sfd fd dev m 1
  | destroyed (hdev : m.dev = dev) (huhid : m.uhid = some fd) (hdevice : m.device = .gone)
      (hnotified : m.notified = true) (hwatching : m.watching = false) : Ending sfd fd dev m 2
  | closed (hdev : m.dev = dev) (huhid : m.uhid = none) (hdevice : m.device = .gone)
      (hnotified : m.notified = true) (hwatching : m.watching = false) : Ending sfd fd dev m 3
  | unlinked (hm : m = m.unlinked) : Ending sfd fd dev m 4

section ending

variable {sfd : Option ℕ} {fd k : ℕ}

theorem linked_unlinked (h : m = m.unlinked) : m.linked = false := by
  rw [h]
  rfl

theorem device_unlinked (h : m = m.unlinked) : m.device = .absent := by
  rw [h]
  rfl

/-- A link in the event loop is not one outside of it. -/
theorem not_watching {p : Prop} (h : m.watching = false) (hw : m.watching = true) : p := by
  rw [h] at hw
  cases hw

/-- As long as there is a connection, the controller is initialised and its device was created. -/
theorem Ending.linked (h : Ending sfd fd dev m k) (hl : m.linked = true) :
    m.notified = true ∧ (m.device = .alive ∨ m.device = .gone) ∧
      (m.watching = true → m.Settled) := by
  cases h with
  | signalled _ _ _ hdevice hnotified _ hsettled =>
      exact ⟨hnotified, .inl hdevice, fun _ => hsettled⟩
  | left _ _ hdevice hnotified hwatching =>
      exact ⟨hnotified, .inl hdevice, fun hw => not_watching hwatching hw⟩
  | destroyed _ _ hdevice hnotified hwatching | closed _ _ hdevice hnotified hwatching =>
      exact ⟨hnotified, .inr hdevice, fun hw => not_watching hwatching hw⟩
  | unlinked hm => exact not_unlinked hl (linked_unlinked hm)

/-- One more of the last calls is made, and nothing else. -/
theorem Ending.next (h : Ending sfd fd dev m k) (hs : Sane m) (hstopped : m.stopped = true)
    (hK : K.whole = false) (ho : m.Allows K o) :
    callOf o = (lastCalls sfd fd dev)[k]? ∧ Ending sfd fd dev (m.next K o) (k + 1) ∧
      (m.next K o).stopped = true := by
  have hrunning : ∀ {p : Prop}, m.stopped = false → p := fun hno => by
    rw [hstopped] at hno
    cases hno
  have hsession : ∀ {p : Prop}, K.whole = true → p := fun hwhole => by
    rw [hK] at hwhole
    cases hwhole
  have habsent : ∀ {p : Prop}, m.linked = true → m.device = .absent → p := fun hl hd => by
    rcases (h.linked hl).2.1 with hdevice | hdevice <;> simp [hdevice] at hd
  have hnotified : ∀ {p : Prop}, m.linked = true → m.notified = false → p := fun hl hn => by
    rw [(h.linked hl).1] at hn
    cases hn
  cases ho with
  | unref a hwhole | adapters a hwhole | objects a hwhole | connect a hwhole =>
      exact hsession hwhole
  | sleep a hidle hbus hno | closeNothing a hidle hno => exact hrunning hno
  | signalfd a hd hn hw hno => exact hrunning hno
  | process a hl | poll a hl | readSignal a hl => exact hrunning hl.2.1
  | read a hu hd hl => exact hrunning hl.2.1
  | openSystem a hm => exact hrunning (by rw [hm])
  | openUhid a hl hfound hd => exact habsent hl hd
  | getProperty prop a hl hn hd => exact habsent hl hd
  | notify a hd hn => exact hnotified (hs.linked_of_device (by simp [hd])) hn
  | ask a hfound hd hn => exact hnotified (hs.linked_of_device (by simp [hd])) hn
  | usleep us a hl hn => exact hnotified hl hn
  | create a hu hd =>
      rcases (h.linked (hs.linked_of_device (by simp [hd]))).2.1 with hdevice | hdevice <;>
        simp [hdevice] at hd
  | rumble a hw htold hr =>
      have hsettled := (h.linked (hs.watching hw).1).2.2 hw
      rw [hsettled.2] at hr
      cases hr
  | report a hu hd hw hnext =>
      have hsettled := (h.linked (hs.watching hw).1).2.2 hw
      exact absurd hsettled.1 (Nat.ne_of_lt hnext)
  | closeSignals a hw hsettled =>
      cases h with
      | signalled hdev hsfd huhid hdevice hnotified =>
          subst hsfd
          refine ⟨rfl, ?_, ?_⟩
          · show Ending _ _ _
              (if m.watching then { m with watching := false, sfd := none } else _) 1
            rw [if_pos hw]
            exact .left hdev huhid hdevice hnotified rfl
          · show (if m.watching then { m with watching := false, sfd := none } else _).stopped =
              true
            rw [if_pos hw]
            exact hstopped
      | left _ _ _ _ hno | destroyed _ _ _ _ hno | closed _ _ _ _ hno => exact not_watching hno hw
      | unlinked hm => exact not_unlinked (hs.watching hw).1 (linked_unlinked hm)
  | destroy a hu hd hn hw =>
      cases h with
      | signalled _ _ _ _ _ hwatching => exact not_watching hw hwatching
      | left hdev huhid =>
          cases hu.symm.trans huhid
          exact ⟨rfl, .destroyed hdev huhid rfl hn hw, hstopped⟩
      | destroyed _ _ hdevice | closed _ _ hdevice => simp [hdevice] at hd
      | unlinked hm => simp [device_unlinked hm] at hd
  | closeUhid a hu hd hw =>
      cases h with
      | signalled _ _ _ hdevice | left _ _ hdevice => simp [hdevice] at hd
      | destroyed hdev huhid hdevice hnotified =>
          cases hu.symm.trans huhid
          refine ⟨rfl, ?_, ?_⟩
          · show Ending _ _ _ (if m.watching then _ else { m with uhid := none }) 3
            rw [if_neg (by simp [hw])]
            exact .closed hdev rfl hdevice hnotified hw
          · show (if m.watching then _ else { m with uhid := none }).stopped = true
            rw [if_neg (by simp [hw])]
            exact hstopped
      | closed _ huhid => simp [huhid] at hu
      | unlinked hm => simp [device_unlinked hm] at hd
  | disconnect a hl hu hw =>
      cases h with
      | signalled _ _ huhid | left _ huhid | destroyed _ huhid => simp [huhid] at hu
      | closed hdev =>
          subst hdev
          refine ⟨rfl, ?_, ?_⟩
          · show Ending _ _ _ (m.called disconnect a) 4
            rw [Link.called_disconnect]
            exact .unlinked rfl
          · show (m.called disconnect a).stopped = true
            rw [Link.called_disconnect]
            exact hstopped
      | unlinked hm => exact not_unlinked hl (linked_unlinked hm)

/-- A device that was opened or created has a descriptor. -/
def HasDevice (m : Link) : Prop := m.device = .opened ∨ m.device = .alive → m.uhid.isSome = true

theorem HasDevice.next (h : HasDevice m) (hs : Sane m) (ho : m.Allows K o) :
    HasDevice (m.next K o) := by
  cases ho with
  | openSystem a hm =>
      subst hm
      exact h
  | adapters a | objects a =>
      show HasDevice (m.objects K a)
      obtain ⟨-, -, -, -, -, -, hdevice⟩ := objects_silent K m a
      unfold HasDevice
      rw [hdevice, (objects_keeps K m a).2.1]
      exact h
  | connect a | notify a =>
      show HasDevice (m.called _ a)
      simp only [Link.called_connect, Link.called_startNotify]
      exact h
  | disconnect a =>
      show HasDevice (m.called disconnect a)
      rw [Link.called_disconnect]
      rintro (hd | hd) <;> cases hd
  | @ask path iface data a hfound hdevice hnot =>
      show HasDevice (if m.notified then _ else { m with asked := _ })
      rw [if_neg (by simp [hnot])]
      exact h
  | rumble a hwatching =>
      show HasDevice (if m.notified then { m with rumble := none } else _)
      rw [if_pos (hs.watching hwatching).2.1]
      exact h
  | openUhid a => cases a <;> simp [HasDevice, Link.next]
  | create a hu | destroy a hu =>
      intro _
      show m.uhid.isSome = true
      rw [hu]
      rfl
  | closeUhid a hu hdevice hwatching =>
      show HasDevice (if m.watching then _ else { m with uhid := none })
      rw [if_neg (by simp [hwatching])]
      rintro (hd | hd) <;> exact absurd (hdevice.symm.trans hd) (by simp)
  | closeSignals a hwatching =>
      show HasDevice (if m.watching then { m with watching := false, sfd := none } else _)
      rw [if_pos hwatching]
      exact h
  | closeNothing a hidle =>
      show HasDevice (if m.watching then _ else { m with uhid := none })
      rw [if_neg (by simp [hidle.2.2])]
      have hdevice := device_unlinked (hs.of_idle hidle).1
      rintro (hd | hd) <;> exact absurd (hdevice.symm.trans hd) (by simp)
  | _ => exact h

theorem hasDevice (hf : (link (behind room dev before g)).Follows tr) :
    HasDevice ((link (behind room dev before g)).after tr) := by
  have hboth := hf.invariant (I := fun _ m => Sane m ∧ HasDevice m)
    ⟨(sane_behind : Sane (behind room dev before g).start), by rintro (hd | hd) <;> cases hd⟩
    fun _ _ _ h ho => ⟨h.1.next ho, h.2.next h.1 ho⟩
  exact hboth.2

/-- What is made behind a signal is a beginning of the last calls. -/
theorem ending {pre post : List Obs} {a} {sfd : Option ℕ}
    (hf : (link (behind room dev before g)).Follows (pre ++ .call (.readSignal sfd) a :: post)) :
    ∃ fd path k, calls post = (lastCalls sfd fd path).take k ∧
      Ending sfd fd path
        ((link (behind room dev before g)).after (pre ++ .call (.readSignal sfd) a :: post)) k := by
  rw [List.append_cons] at hf ⊢
  obtain ⟨hpre, ho⟩ := Protocol.follows_snoc.mp (Everywhere.of_append hf)
  have hs := sane sane_behind hpre
  have hsome := hasDevice hpre
  have hstart : ∃ fd, Ending sfd fd ((link (behind room dev before g)).after pre).dev
      ((link (behind room dev before g)).after (pre ++ [.call (.readSignal sfd) a])) 0 ∧
      ((link (behind room dev before g)).after
        (pre ++ [.call (.readSignal sfd) a])).stopped = true ∧
      Sane ((link (behind room dev before g)).after (pre ++ [.call (.readSignal sfd) a])) := by
    have hnext := sane sane_behind (Protocol.follows_snoc.mpr ⟨hpre, ho⟩)
    rw [Protocol.after_snoc] at hnext ⊢
    generalize (link (behind room dev before g)).after pre = m at ho hs hsome hnext ⊢
    cases ho with
    | readSignal a hl =>
        obtain ⟨hlinked, hnotified, hdevice⟩ := hs.watching hl.1
        obtain ⟨fd, hfd⟩ := Option.isSome_iff_exists.mp (hsome (.inr hdevice))
        exact ⟨fd, .signalled rfl rfl hfd hdevice hnotified hl.1 hl.2.2, rfl, hnext⟩
  obtain ⟨fd, hending, hstopped, hsane⟩ := hstart
  refine ⟨fd, ((link (behind room dev before g)).after pre).dev, ?_⟩
  have hboth := hf.since (C := fun _ => True)
    (I := fun post m => Sane m ∧ m.stopped = true ∧
      ∃ k,
        calls post = (lastCalls sfd fd ((link (behind room dev before g)).after pre).dev).take k ∧
        Ending sfd fd ((link (behind room dev before g)).after pre).dev m k)
    (fun _ _ => trivial) ⟨hsane, hstopped, 0, rfl, hending⟩ fun post m o h _ ho => ?_
  · exact hboth.2.2
  · obtain ⟨hsane, hstopped, k, hcalls, hending⟩ := h
    obtain ⟨hcall, hnext, hstopped⟩ := hending.next hsane hstopped rfl ho
    refine ⟨hsane.next ho, hstopped, k + 1, ?_, hnext⟩
    rw [calls_snoc, hcalls, hcall, List.take_add_one]

end ending

example : oneValueRun.1 = .done (.inr ()) := by decide +kernel

end Switch2Bt.DbusDaemon
