import Switch2Bt.Sw2dFinal.Refines

/-!
# What the program does in every run (`sw2d_final.c`)

For any command line and any answers: at most one descriptor is open, and none is left
(`main_closes`); nothing is opened before the guard, and what is written before the first session is
one transcript (`main_prepares`); the sessions are a run of the reconnect loop, for the host address
and the peer that were found (`main_reconnects`); and a connection is created to this peer only
(`main_connects`).
-/

namespace Switch2Bt.Sw2dFinal

open Await Octets Sw2d Addresses Scanners Startup

variable {str2ba : Text → Option Addr} {aes : Block → Block → Block} {a : Args}
variable {tr : List Obs} {m : Startup} {o : Obs}

/-! ## Runs -/

/-- What the start guarantees of a trace, for every run of a command line that can be read. -/
theorem main_run {P : Args → List Obs → Prop}
    (h : ∀ a tr, (startup str2ba aes a).Follows tr → P a tr) (atoi : Text → ℤ) (argv : List Text)
    (env : System) (budget : ℕ) :
    match parseArgs atoi argv {} with
    | none => ((main str2ba aes atoi argv).exec () env budget).2.trace = []
    | some a => P a ((main str2ba aes atoi argv).exec () env budget).2.trace := by
  unfold main
  cases parseArgs atoi argv {} with
  | none => rfl
  | some a => exact h a _ (run_does.exec_follows rfl budget)

/-! ## Descriptors -/

/-- What an observation does to the open descriptors. -/
def fdChange : Obs → FdChange
  | .call (.open _) (fd : Option ℕ) => .opens fd
  | .call (.socket _) (fd : Option ℕ) => .opens fd
  | .call (.close fd) _ => .closes (some fd)
  | _ => .keeps

/-- A descriptor is opened when none is open; a call is about the one that is. -/
def OneOpenAt (pre : List Obs) : Obs → Prop
  | .call (.open _) _ | .call (.socket _) _ => openFds fdChange pre = []
  | .call (.write fd _) _ | .call (.close fd) _ | .call (.bind fd _ _) _ | .call (.down fd _) _
  | .call (.writev fd _) _ | .call (.read fd _) _ => openFds fdChange pre = [fd]
  | .note _ => ∃ fd, openFds fdChange pre = [fd]
  | _ => True

/-- The descriptors that are remembered. -/
def Startup.fds (m : Startup) : List ℕ := m.hid.toList ++ m.ctl.toList ++ m.fd.toList

theorem Startup.Closed.fds (h : m.Closed) : m.fds = [] := by
  obtain ⟨hhid, hctl, hfd⟩ := h
  simp [Startup.fds, hhid, hctl, hfd]

/-- What the trace says of descriptors is remembered, and at most one is open. -/
structure OneOpen (tr : List Obs) (m : Startup) : Prop where
  fds : openFds fdChange tr = m.fds
  one : m.fds.length ≤ 1

/-- The one that is open. -/
theorem fds_eq {fd : ℕ} (hone : m.fds.length ≤ 1)
    (h : m.hid = some fd ∨ m.ctl = some fd ∨ m.fd = some fd) : m.fds = [fd] := by
  have hmem : fd ∈ m.fds := by
    rcases h with h | h | h <;> simp [Startup.fds, h]
  match hfds : m.fds, hone, hmem with
  | [x], _, hmem => rw [List.mem_singleton.mp hmem]

theorem OneOpen.keep {m' : Startup} (h : OneOpen tr m)
    (hfds : openFds fdChange (tr ++ [o]) = openFds fdChange tr)
    (hm : m'.fds = m.fds) : OneOpen (tr ++ [o]) m' :=
  ⟨hfds.trans (h.fds.trans hm.symm), hm ▸ h.one⟩

theorem OneOpen.close {fd : ℕ} {x} (h : OneOpen tr m)
    (hfd : m.hid = some fd ∨ m.ctl = some fd ∨ m.fd = some fd) :
    OneOpen (tr ++ [.call (.close fd) x]) (m.next str2ba a (.call (.close fd) x)) := by
  refine ⟨?_, Nat.zero_le 1⟩
  rw [openFds_snoc]
  show (openFds fdChange tr).erase fd = []
  rw [h.fds, fds_eq h.one hfd]
  simp

theorem OneOpen.next (h : OneOpen tr m) (ho : m.Allows str2ba aes a o) :
    OneOpen (tr ++ [o]) (m.next str2ba a o) := by
  cases ho with
  | openUsb x hpassed hfresh =>
      have hnone := hfresh.1.fds
      refine ⟨?_, ?_⟩
      · rw [openFds_snoc]
        show x.toList ++ openFds fdChange tr = _
        rw [h.fds, hnone]
        simp [Startup.next, Startup.fds, hfresh.1.2.1, hfresh.1.2.2]
      · cases x <;> simp [Startup.next, Startup.fds, hfresh.1.2.1, hfresh.1.2.2]
  | socket cloexec x hready =>
      obtain ⟨-, hclosed, -⟩ := hready
      refine ⟨?_, ?_⟩
      · rw [openFds_snoc]
        show x.toList ++ openFds fdChange tr = _
        rw [h.fds, hclosed.fds]
        cases cloexec <;> simp [Startup.next, Startup.fds, hclosed.1, hclosed.2.1, hclosed.2.2]
      · cases cloexec <;> cases x <;>
          simp [Startup.next, Startup.fds, hclosed.1, hclosed.2.1, hclosed.2.2]
  | closeUsb x hfd => exact h.close (.inl hfd)
  | closeControl x hfd => exact h.close (.inr (.inl hfd))
  | closeTransport x hfd => exact h.close (.inr (.inr hfd))
  | read t x =>
      refine h.keep openFds_snoc ?_
      unfold Startup.next
      dsimp only
      split <;> rfl
  | _ => exact h.keep openFds_snoc rfl

theorem oneOpen (hf : (startup str2ba aes a).Follows tr) :
    OneOpen tr ((startup str2ba aes a).after tr) :=
  hf.invariant (I := OneOpen) ⟨rfl, Nat.zero_le 1⟩ fun _ _ _ h ho => h.next ho

theorem OneOpen.allows (h : OneOpen tr m) (ho : m.Allows str2ba aes a o) : OneOpenAt tr o := by
  have hopen : ∀ fd, m.hid = some fd ∨ m.ctl = some fd ∨ m.fd = some fd →
      openFds fdChange tr = [fd] :=
    fun fd hfd => h.fds.trans (fds_eq h.one hfd)
  cases ho with
  | openUsb x hpassed hfresh => exact h.fds.trans hfresh.1.fds
  | socket cloexec x hready => exact h.fds.trans hready.2.1.fds
  | report x hfd | closeUsb x hfd => exact hopen _ (.inl hfd)
  | closeControl x hfd => exact hopen _ (.inr (.inl hfd))
  | bindControl dev x hfd | down dev x hfd => exact hopen _ (.inr (.inl hfd))
  | closeTransport x hfd | command x hfd => exact hopen _ (.inr (.inr hfd))
  | bindTransport dev x hfd | read t x hfd => exact hopen _ (.inr (.inr hfd))
  | note env b hfd => exact ⟨_, hopen _ (.inr (.inr hfd))⟩
  | _ => trivial

/-- **Descriptors**: in every run at most one descriptor of `open` and `socket` is open; every call
is about the one that is, the sessions run while one is, and when the program returns none is left
open. The files that the preflight and the count of other clients look at (`fopen`, `opendir`) are
one call each here, and are not among them.
Source: `sw2d_final.c` `main`, `usb_prep`; `hci_transport_user.c` `hci_bring_down`, `hci_user_open`,
`hci_user_close` -/
theorem main_closes (str2ba : Text → Option Addr) (aes : Block → Block → Block) (atoi : Text → ℤ)
    (argv : List Text) (env : System) (budget : ℕ) :
    Everywhere OneOpenAt ((main str2ba aes atoi argv).exec () env budget).2.trace ∧
      match (main str2ba aes atoi argv).exec () env budget with
      | (.done _, w) => openFds fdChange w.trace = []
      | _ => True := by
  unfold main
  cases parseArgs atoi argv {} with
  | none => exact ⟨everywhere_nil, rfl⟩
  | some a =>
    have hf : (startup str2ba aes a).Follows ((run str2ba aes a).exec () env budget).2.trace :=
      run_does.exec_follows rfl budget
    refine ⟨hf.everywhere fun pre o hpre ho => (oneOpen hpre).allows ho, ?_⟩
    dsimp only
    rcases hx : (run str2ba aes a).exec () env budget with ⟨code | e | _, w⟩
    · have hcode : ((run str2ba aes a).exec () env budget).1 = .done code := by rw [hx]
      have hdone := run_does.exec_done (p := startup str2ba aes a) rfl hcode
      rw [hx] at hdone
      exact (oneOpen hdone.1).fds.trans hdone.2.fds
    · trivial
    · trivial

/-! ## The order -/

/-- A report over USB. -/
def reportOf : Obs → Option Octets
  | .call (.write _ data) _ => some data
  | _ => none

/-- A command before the sessions. -/
def commandOf : Obs → Option Octets
  | .call (.writev _ bytes) _ => some bytes
  | _ => none

/-- What was written over USB. -/
def reports (tr : List Obs) : List Octets := tr.filterMap reportOf

/-- The commands that were written before the sessions. -/
def commands (tr : List Obs) : List Octets := tr.filterMap commandOf

/-- The address of the host, as it was read last. -/
def hostKnown (str2ba : Text → Option Addr) (a : Args) (tr : List Obs) : Option Addr :=
  tr.foldl (fun host o =>
    match o with
    | .call .sysfs (sysfs : Option Text) => hostOf str2ba a sysfs
    | _ => host) (init str2ba a).host

/-- The number of other clients, as it was counted last. -/
def counted (tr : List Obs) : Option ℤ :=
  tr.foldl (fun clients o =>
    match o with
    | .call .comms (comms : Option (List Text)) => some (countClients comms)
    | _ => clients) none

/-- The program is not only to check, and met no other client, if it is to be alone. -/
def PassedAt (a : Args) (pre : List Obs) : Prop :=
  a.preflight = false ∧ (a.exclusive = true → ∃ c, counted pre = some c ∧ c ≤ 0)

/-- A descriptor is opened behind the guard; what is written is the next report or command; the
transport is opened when all reports are written, the sessions run when all commands are. -/
def PreparesAt (str2ba : Text → Option Addr) (a : Args) (pre : List Obs) : Obs → Prop
  | .call (.open path) _ => PassedAt a pre ∧ a.usbInit = true ∧ path = a.hidraw ∧
      hostKnown str2ba a pre ≠ none ∧ reports pre = [] ∧ commands pre = []
  | .call (.write _ data) _ => ∃ host, hostKnown str2ba a pre = some host ∧
      reports pre ++ [data] <+: usbReports a host
  | .call (.socket _) _ => PassedAt a pre ∧ ∃ host, hostKnown str2ba a pre = some host ∧
      reports pre = usbReports a host ∧ commands pre = []
  | .call (.writev _ bytes) _ => commands pre ++ [bytes] <+: startCommands a
  | .note _ => commands pre = startCommands a
  | _ => True

/-- What the trace says is remembered. -/
structure Prepares (str2ba : Text → Option Addr) (a : Args) (tr : List Obs) (m : Startup) :
    Prop where
  reports : reports tr = m.reports
  commands : commands tr = m.commands
  host : hostKnown str2ba a tr = m.host
  counted : counted tr = m.clients

theorem reports_snoc (tr : List Obs) (o : Obs) :
    reports (tr ++ [o]) = reports tr ++ (reportOf o).toList := by
  cases h : reportOf o <;> simp [reports, h]

theorem commands_snoc (tr : List Obs) (o : Obs) :
    commands (tr ++ [o]) = commands tr ++ (commandOf o).toList := by
  cases h : commandOf o <;> simp [commands, h]

theorem hostKnown_snoc (tr : List Obs) (o : Obs) : hostKnown str2ba a (tr ++ [o]) =
    match o with
    | .call .sysfs (sysfs : Option Text) => hostOf str2ba a sysfs
    | _ => hostKnown str2ba a tr := by
  simp only [hostKnown, List.foldl_append, List.foldl_cons, List.foldl_nil]

theorem counted_snoc (tr : List Obs) (o : Obs) : counted (tr ++ [o]) =
    match o with
    | .call .comms (comms : Option (List Text)) => some (countClients comms)
    | _ => counted tr := by
  simp only [counted, List.foldl_append, List.foldl_cons, List.foldl_nil]

theorem next_reports (m : Startup) (o : Obs) :
    (m.next str2ba a o).reports = m.reports ++ (reportOf o).toList := by
  rcases o with ⟨c, x⟩ | e | n
  · cases c with
    | write => rfl
    | socket cloexec => cases cloexec <;> simp [Startup.next, reportOf]
    | bind fd dev user => cases user <;> simp [Startup.next, reportOf]
    | read fd t =>
        simp only [Startup.next, reportOf]
        split <;> simp [Startup.received]
    | _ => simp [Startup.next, reportOf]
  · simp [Startup.next, reportOf]
  · simp [Startup.next, reportOf]

theorem next_commands (m : Startup) (o : Obs) :
    (m.next str2ba a o).commands = m.commands ++ (commandOf o).toList := by
  rcases o with ⟨c, x⟩ | e | n
  · cases c with
    | writev => rfl
    | socket cloexec => cases cloexec <;> simp [Startup.next, commandOf]
    | bind fd dev user => cases user <;> simp [Startup.next, commandOf]
    | read fd t =>
        simp only [Startup.next, commandOf]
        split <;> simp [Startup.received]
    | _ => simp [Startup.next, commandOf]
  · simp [Startup.next, commandOf]
  · simp [Startup.next, commandOf]

theorem next_host (m : Startup) (o : Obs) : (m.next str2ba a o).host =
    match o with
    | .call .sysfs (sysfs : Option Text) => hostOf str2ba a sysfs
    | _ => m.host := by
  rcases o with ⟨c, x⟩ | e | n
  · cases c with
    | socket cloexec => cases cloexec <;> rfl
    | bind fd dev user => cases user <;> rfl
    | read fd t =>
        simp only [Startup.next]
        split <;> rfl
    | _ => rfl
  · rfl
  · rfl

theorem next_clients (m : Startup) (o : Obs) : (m.next str2ba a o).clients =
    match o with
    | .call .comms (comms : Option (List Text)) => some (countClients comms)
    | _ => m.clients := by
  rcases o with ⟨c, x⟩ | e | n
  · cases c with
    | socket cloexec => cases cloexec <;> rfl
    | bind fd dev user => cases user <;> rfl
    | read fd t =>
        simp only [Startup.next]
        split <;> rfl
    | _ => rfl
  · rfl
  · rfl

theorem Prepares.next (h : Prepares str2ba a tr m) (o : Obs) :
    Prepares str2ba a (tr ++ [o]) (m.next str2ba a o) := by
  refine ⟨?_, ?_, ?_, ?_⟩
  · rw [reports_snoc, next_reports, h.reports]
  · rw [commands_snoc, next_commands, h.commands]
  · rw [hostKnown_snoc, next_host, h.host]
  · rw [counted_snoc, next_clients, h.counted]

theorem prepares (hf : (startup str2ba aes a).Follows tr) :
    Prepares str2ba a tr ((startup str2ba aes a).after tr) :=
  hf.invariant (I := Prepares str2ba a) ⟨rfl, rfl, rfl, rfl⟩ fun _ _ o h _ => h.next o

theorem Prepares.passed (h : Prepares str2ba a tr m) (hpassed : m.Passed a) : PassedAt a tr := by
  refine ⟨hpassed.1, fun hex => ?_⟩
  rw [h.counted]
  exact hpassed.2 hex

theorem Prepares.allows (h : Prepares str2ba a tr m) (ho : m.Allows str2ba aes a o) :
    PreparesAt str2ba a tr o := by
  cases ho with
  | openUsb x hpassed hfresh husb hhost =>
      refine ⟨h.passed hpassed, husb, rfl, ?_, ?_, ?_⟩
      · rw [h.host, hhost]
        simp
      · rw [h.reports, hfresh.2.1]
      · rw [h.commands, hfresh.2.2.1]
  | report x hfd hhost hnext =>
      refine ⟨_, h.host.trans hhost, ?_⟩
      rw [h.reports]
      exact hnext
  | socket cloexec x hready =>
      obtain ⟨hpassed, -, hcommands, host, hhost, hreports⟩ := hready
      exact ⟨h.passed hpassed, host, h.host.trans hhost, h.reports.trans hreports,
        h.commands.trans hcommands⟩
  | command x hfd hbound hnext =>
      show Sw2dFinal.commands tr ++ _ <+: _
      rw [h.commands]
      exact hnext
  | note env b hfd hbound hcommands => exact h.commands.trans hcommands
  | _ => trivial

/-- **Preparation**: in every run for a command line that can be read no descriptor is opened, by
`open` or `socket`, under `--preflight`, and under `--exclusive-hci` only if the last count met no
other client (the files that these two look at are one call each). Over USB come the three reports,
the last one with the host address that was read; the socket is opened once they are all written,
and the commands on it are the reset, the event mask and those of the scan, in this order, all of
them before a session.
Source: `sw2d_final.c` `main`, `usb_prep`, `scan_for_peer_user`; `hci_transport_user.c`
`hci_user_open`, `hci_user_init` -/
theorem main_prepares (str2ba : Text → Option Addr) (aes : Block → Block → Block) (atoi : Text → ℤ)
    (argv : List Text) (env : System) (budget : ℕ) :
    match parseArgs atoi argv {} with
    | none => ((main str2ba aes atoi argv).exec () env budget).2.trace = []
    | some a => Everywhere (PreparesAt str2ba a)
        ((main str2ba aes atoi argv).exec () env budget).2.trace := by
  apply main_run fun a tr hf => ?_
  exact hf.everywhere fun pre o hpre ho => (prepares hpre).allows ho

/-! ## The sessions -/

/-- What the sessions observed. -/
def notes (tr : List Obs) : List Sw2d.Obs :=
  tr.filterMap fun o =>
    match o with
    | .note o => some o
    | _ => none

/-- What the scan found in a run: the frame that was read last, the number of commands, and the peer
of the first frame of the scan that gives one. The scan is enabled by the fourth command. -/
def scanned (a : Args) (tr : List Obs) : Frame × ℕ × Option Peer :=
  tr.foldl (fun (f, n, found) o =>
    match o with
    | .call .frame (f' : Frame) => (f', n, found)
    | .call (.writev _ _) _ => (f, n + 1, found)
    | .call (.read _ _) (answer : Option Octets) =>
        let data := (answer.getD []).take 512
        if data = [] then (f, n, found)
        else (f.parse data, n,
          if (a.scans = true ∧ n = 4) ∧ found = none then scanFrame a.verbose (f.parse data)
          else found)
    | _ => (f, n, found)) (emptyFrame, 0, none)

/-- The peer of the sessions. -/
def targetOf (str2ba : Text → Option Addr) (a : Args) (tr : List Obs) : Option Target :=
  if a.scans then (scanned a tr).2.2.map Peer.target else resolvePeer str2ba a

/-- The sessions are the beginning of a run of the reconnect loop. -/
def Sessions (str2ba : Text → Option Addr) (aes : Block → Block → Block) (a : Args)
    (tr : List Obs) : Prop :=
  notes tr ≠ [] → ¬(a.scans = true ∧ a.scanOnly = true) ∧ ∃ peer host env b,
    targetOf str2ba a tr = some peer ∧ ¬addrIsZero peer.1 ∧ hostKnown str2ba a tr = some host ∧
      notes tr <+: (hostRun aes (hostConfig a peer host) env b).trace

/-- Where the sessions run. -/
structure Startup.Runs (str2ba : Text → Option Addr) (aes : Block → Block → Block) (a : Args)
    (m : Startup) (peer : Target) (host : Addr) : Prop where
  only : ¬(a.scans = true ∧ a.scanOnly = true)
  commands : m.commands = startCommands a
  target : m.target str2ba a = some peer
  zero : ¬addrIsZero peer.1
  notes : ∃ env b, m.notes <+: (hostRun aes (hostConfig a peer host) env b).trace
  host : m.host = some host

/-- What the trace says of the sessions is remembered. -/
structure Reconnects (str2ba : Text → Option Addr) (aes : Block → Block → Block) (a : Args)
    (tr : List Obs) (m : Startup) : Prop where
  notes : notes tr = m.notes
  scanned : scanned a tr = (m.frame, m.commands.length, m.found)
  runs : m.notes ≠ [] → ∃ peer host, m.Runs str2ba aes a peer host

theorem notes_snoc (tr : List Obs) (o : Obs) : notes (tr ++ [o]) =
    match o with
    | .note o => notes tr ++ [o]
    | _ => notes tr := by
  rcases o with ⟨c, x⟩ | e | n <;> simp [notes]

theorem next_notes (m : Startup) (o : Obs) : (m.next str2ba a o).notes =
    match o with
    | .note o => m.notes ++ [o]
    | _ => m.notes := by
  rcases o with ⟨c, x⟩ | e | n
  · cases c with
    | socket cloexec => cases cloexec <;> rfl
    | bind fd dev user => cases user <;> rfl
    | read fd t =>
        simp only [Startup.next]
        split <;> rfl
    | _ => rfl
  · rfl
  · rfl

theorem scanned_snoc (h : scanned a tr = (m.frame, m.commands.length, m.found)) (o : Obs) :
    scanned a (tr ++ [o]) = ((m.next str2ba a o).frame, (m.next str2ba a o).commands.length,
      (m.next str2ba a o).found) := by
  unfold scanned at h ⊢
  rw [List.foldl_append, h]
  rcases o with ⟨c, x⟩ | e | n
  · cases c with
    | socket cloexec => cases cloexec <;> rfl
    | bind fd dev user => cases user <;> rfl
    | writev fd bytes => simp [Startup.next]
    | read fd t =>
        simp only [Startup.next, List.foldl_cons, List.foldl_nil]
        split
        · rfl
        · rfl
    | _ => rfl
  · rfl
  · rfl

/-- Behind all commands the scan is over. -/
theorem startCommands_length (hscans : a.scans = true) : (startCommands a).length ≠ 4 := by
  rw [startCommands_scans hscans]
  simp [initCommands, scanCommands]

/-- The sessions go on. -/
theorem Startup.Runs.keep {m' : Startup} {peer : Target} {host : Addr}
    (h : m.Runs str2ba aes a peer host) (hcommands : m'.commands = m.commands)
    (hfound : m'.found = m.found) (hhost : m'.host = m.host) (hnotes : m'.notes = m.notes) :
    m'.Runs str2ba aes a peer host where
  only := h.only
  commands := hcommands.trans h.commands
  target := by
    rw [Startup.target, hfound]
    exact h.target
  zero := h.zero
  notes := hnotes ▸ h.notes
  host := hhost.trans h.host

theorem Reconnects.next (h : Reconnects str2ba aes a tr m) (ho : m.Allows str2ba aes a o) :
    Reconnects str2ba aes a (tr ++ [o]) (m.next str2ba a o) := by
  have hruns := h.runs
  refine ⟨?_, scanned_snoc h.scanned o, ?_⟩
  · rw [notes_snoc, next_notes, h.notes]
  · have hfresh : ∀ {p : Prop}, m.Fresh → m.notes ≠ [] → p := fun hf hn => absurd hf.2.2.2 hn
    cases ho with
    | comms x hf | checkCommand x hf | kill x hf | sysfs x hf => exact fun hn => hfresh hf hn
    | openUsb x hpassed hf => exact fun hn => hfresh hf hn
    | socket cloexec x =>
        cases cloexec <;> exact fun hn =>
          let ⟨peer, host, hr⟩ := hruns hn
          ⟨peer, host, hr.keep rfl rfl rfl rfl⟩
    | command x hfd hbound hnext =>
        intro hn
        obtain ⟨peer, host, hr⟩ := hruns hn
        have hle := hnext.length_le
        rw [hr.commands, List.length_append] at hle
        simp at hle
    | read t x =>
        intro hn
        simp only [Startup.next] at hn ⊢
        split at hn
        · rename_i hdata
          rw [if_pos hdata]
          exact hruns hn
        · rename_i hdata
          rw [if_neg hdata]
          obtain ⟨peer, host, hr⟩ := hruns hn
          refine ⟨peer, host, hr.keep rfl ?_ rfl rfl⟩
          have hover : ¬(Startup.Scanning a m ∧ m.found = none) := fun hs =>
            startCommands_length hs.1.1 (hr.commands ▸ hs.1.2)
          exact if_neg hover
    | @note fd o peer host env b hfd hbound hcommands honly hpeer hzero hhost hnotes =>
        exact fun _ => ⟨peer, host, honly, hcommands, hpeer, hzero, ⟨env, b, hnotes⟩, hhost⟩
    | _ =>
        intro hn
        obtain ⟨peer, host, hr⟩ := hruns hn
        exact ⟨peer, host, hr.keep rfl rfl rfl rfl⟩

theorem reconnects (hf : (startup str2ba aes a).Follows tr) :
    Reconnects str2ba aes a tr ((startup str2ba aes a).after tr) :=
  hf.invariant (I := Reconnects str2ba aes a) ⟨rfl, rfl, fun hn => absurd rfl hn⟩
    fun _ _ _ h ho => h.next ho

theorem Reconnects.target (h : Reconnects str2ba aes a tr m) :
    targetOf str2ba a tr = m.target str2ba a := by
  rw [targetOf, h.scanned]
  rfl

/-- **Sessions**: in every run for a command line that can be read the sessions are the beginning of
a run of the reconnect loop, in some environment, for the host address that was read and for the
peer of `--bdaddr` or else the first one that a frame of the scan gives; the zero address and
`--scan-only` have none. What is proved of the reconnect loop holds of the program.
Source: `sw2d_final.c` `main`, `scan_for_peer_user` -/
theorem main_reconnects (str2ba : Text → Option Addr) (aes : Block → Block → Block)
    (atoi : Text → ℤ) (argv : List Text) (env : System) (budget : ℕ) :
    match parseArgs atoi argv {} with
    | none => ((main str2ba aes atoi argv).exec () env budget).2.trace = []
    | some a => Sessions str2ba aes a ((main str2ba aes atoi argv).exec () env budget).2.trace := by
  apply main_run fun a tr hf => ?_
  intro hn
  have h := reconnects hf
  obtain ⟨peer, host, hr⟩ := h.runs (h.notes ▸ hn)
  obtain ⟨env, b, hnotes⟩ := hr.notes
  exact ⟨hr.only, peer, host, env, b, h.target.trans hr.target, hr.zero,
    (prepares hf).host.trans hr.host, h.notes ▸ hnotes⟩

/-- A connection is created to the peer only. -/
def ConnectsAt (str2ba : Text → Option Addr) (a : Args) (pre : List Obs) : Obs → Prop
  | .note (.command opcode params _) => opcode = opCreateConn →
      ¬(a.scans = true ∧ a.scanOnly = true) ∧ ∃ peer, targetOf str2ba a pre = some peer ∧
        ¬addrIsZero peer.1 ∧ peerField params = peer.1.toList
  | _ => True

/-- **Peer**: in every run for a command line that can be read, every LE Create Connection of every
session is for one address, which is not zero: that of `--bdaddr`, or without it that of the first
report in a frame of the scan that advertises the controller; none is sent under `--scan-only`.
Source: `sw2d_final.c` `main`, `scan_for_peer_user`, `le_create_conn` -/
theorem main_connects (str2ba : Text → Option Addr) (aes : Block → Block → Block) (atoi : Text → ℤ)
    (argv : List Text) (env : System) (budget : ℕ) :
    match parseArgs atoi argv {} with
    | none => ((main str2ba aes atoi argv).exec () env budget).2.trace = []
    | some a => Everywhere (ConnectsAt str2ba a)
        ((main str2ba aes atoi argv).exec () env budget).2.trace := by
  apply main_run fun a tr hf => ?_
  refine hf.everywhere fun pre o hpre ho => ?_
  cases ho with
  | @note fd o peer host env b hfd hbound hcommands honly hpeer hzero hhost hnotes =>
      cases o with
      | command opcode params ok =>
          rintro rfl
          refine ⟨honly, peer, (reconnects hpre).target.trans hpeer, hzero, ?_⟩
          obtain ⟨post, hpost⟩ := hnotes
          rw [List.append_assoc] at hpost
          have haddressed := (hostRun_addressed aes (hostConfig a peer host) env b).obs
          exact haddressed _ _ _ hpost.symm params ok rfl
      | _ => trivial
  | _ => trivial

end Switch2Bt.Sw2dFinal
