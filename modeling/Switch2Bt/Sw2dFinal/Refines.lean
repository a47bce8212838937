import Switch2Bt.Sw2dFinal.Startup

/-!
# The program keeps to its start (`sw2d_final.c`)

One triple for each function, along the program text. `Checks`, `Prepared` and `Opened` say where
the program stands: before anything is opened, with the reports over USB written, and with the
socket of the transport.
-/

namespace Switch2Bt.Sw2dFinal

open Await Octets Sw2d Addresses Scanners Startup

variable {str2ba : Text → Option Addr} {aes : Block → Block → Block} {a : Args} {env : System}

/-! ## Triples over the start -/

/-- A triple over the start. -/
abbrev Does {α : Type} (str2ba : Text → Option Addr) (aes : Block → Block → Block) (a : Args)
    (env : System) (Q : Startup → Prop) (x : F α) (R : α → Startup → Prop) : Prop :=
  Obeys env (startup str2ba aes a) (fun _ => Q) x fun r _ => R r

variable {α : Type} {Q : Startup → Prop} {R : α → Startup → Prop}

theorem sys_does {c : Call} {R : Answer c → Startup → Prop}
    (h : ∀ x m, Q m → m.Allows str2ba aes a (.call c x) ∧ R x (m.next str2ba a (.call c x))) :
    Does str2ba aes a env Q (sys c) R :=
  Obeys.call (fun e _ _ hm => ⟨.event e, hm⟩) fun x _ m hm => h x m hm

theorem pure_does {x : α} (h : ∀ m, Q m → R x m) : Does str2ba aes a env Q (pure x) R :=
  Obeys.pure fun _ m hm => h m hm

/-! ## Before anything is opened -/

/-- Nothing was written, and the address of the host is `host`. -/
structure Checks (host : Option Addr) (m : Startup) : Prop where
  fresh : m.Fresh
  found : m.found = none
  host : m.host = host

section checks

variable {host : Option Addr}

theorem runPreflight_does (hpre : a.preflight = true) :
    Does str2ba aes a env (fun m => m.Fresh) (runPreflight a) fun _ m => m.Fresh := by
  unfold runPreflight checkBluezClients
  refine Obeys.bind (S := fun _ _ m => m.Fresh) (sys_does fun x m h => ⟨.geteuid x hpre, h⟩) ?_
  intro uid
  refine Obeys.bind (S := fun _ _ m => m.Fresh) (sys_does fun x m h => ⟨.access _ x hpre, h⟩) ?_
  intro hci0
  refine Obeys.bind (S := fun _ _ m => m.Fresh) (sys_does fun x m h => ⟨.sysfs x h, h⟩) ?_
  intro _
  refine Obeys.bind (S := fun _ _ m => m.Fresh) (sys_does fun x m h => ⟨.access _ x hpre, h⟩) ?_
  intro _
  refine Obeys.bind (S := fun _ _ m => m.Fresh) (sys_does fun x m h => ⟨.access _ x hpre, h⟩) ?_
  intro _
  refine Obeys.bind (S := fun _ _ m => m.Fresh)
    (sys_does fun x m h => ⟨.checkCommand x h hpre, h⟩) ?_
  intro _
  refine Obeys.bind (S := fun _ _ m => m.Fresh)
    (sys_does fun x m h => ⟨.checkCommand x h hpre, h⟩) ?_
  intro _
  refine Obeys.bind (S := fun _ _ m => m.Fresh) ?_ fun _ => pure_does fun _ h => h
  refine Obeys.bind (S := fun _ _ m => m.Fresh) (sys_does fun x m h => ⟨.comms x h, h⟩) ?_
  exact fun _ => pure_does fun _ h => h

theorem checkBluezClients_does :
    Does str2ba aes a env (Checks host) checkBluezClients
      fun c m => Checks host m ∧ m.clients = some c := by
  unfold checkBluezClients
  apply Obeys.bind (S := fun comms _ m => Checks host m ∧ m.clients = some (countClients comms))
  · exact sys_does fun x m h => ⟨.comms x h.fresh, ⟨h.fresh, h.found, h.host⟩, rfl⟩
  · exact fun _ => pure_does fun _ h => h

theorem killBluezClients_does {c : ℤ} (hpre : a.preflight = false) (hkill : a.killBluez = true)
    (hpos : 0 < c) :
    Does str2ba aes a env (fun m => Checks host m ∧ m.clients = some c) killBluezClients
      fun _ => Checks host := by
  unfold killBluezClients
  apply Obeys.bind (S := fun _ _ m => Checks host m ∧ m.clients = some c)
  · exact sys_does fun x m h => ⟨.kill x h.1.fresh hpre hkill (by simp [killCommands]) h.2 hpos, h⟩
  · intro _
    apply Obeys.bind (S := fun _ _ m => Checks host m ∧ m.clients = some c)
    · exact sys_does fun x m h =>
        ⟨.kill x h.1.fresh hpre hkill (by simp [killCommands]) h.2 hpos, h⟩
    · exact fun _ => sys_does fun x m h => ⟨.usleep _ x h.1.fresh.1, h.1⟩

theorem bluezGuard_does (hpre : a.preflight = false) :
    Does str2ba aes a env (Checks host) (bluezGuard a)
      fun ok m => Checks host m ∧ (ok = true → m.Passed a) := by
  unfold bluezGuard
  apply Obeys.ite
  · intro _
    apply Obeys.bind checkBluezClients_does
    intro c
    apply Obeys.bind (S := fun c _ m => Checks host m ∧ m.clients = some c)
    · apply Obeys.ite
      · intro hc
        apply Obeys.bind (killBluezClients_does hpre hc.2 hc.1)
        exact fun _ => checkBluezClients_does
      · exact fun _ => pure_does fun _ h => h
    · intro c
      apply pure_does
      intro m h
      refine ⟨h.1, fun hok => ⟨hpre, fun hex => ⟨c, h.2, ?_⟩⟩⟩
      by_contra hpos
      simp [hex, not_le.mp hpos] at hok
  · intro hno
    exact pure_does fun m h => ⟨h, fun _ => ⟨hpre, fun hex => absurd (.inl hex) hno⟩⟩

theorem hostAddress_does :
    Does str2ba aes a env (fun m => Checks (init str2ba a).host m ∧ m.Passed a)
      (hostAddress str2ba a) fun host m => Checks host m ∧ m.Passed a := by
  unfold hostAddress
  apply Obeys.bind (S := fun sysfs _ m => Checks (hostOf str2ba a sysfs) m ∧ m.Passed a)
  · apply Obeys.ite
    · intro _
      exact sys_does fun x m h => ⟨.sysfs x h.1.fresh, ⟨h.1.fresh, h.1.found, rfl⟩, h.2⟩
    · intro hauto
      apply pure_does
      intro m h
      have hinit : (init str2ba a).host = hostOf str2ba a none := if_neg hauto
      rw [← hinit]
      exact h
  · exact fun _ => pure_does fun _ h => h

end checks

/-! ## USB -/

/-- The reports over USB are written, and the transport may be opened. -/
structure Prepared (a : Args) (host : Addr) (m : Startup) : Prop where
  passed : m.Passed a
  closed : m.Closed
  reports : m.reports = usbReports a host
  host : m.host = some host
  commands : m.commands = []
  found : m.found = none
  notes : m.notes = []

theorem Prepared.ready {host : Addr} {m : Startup} (h : Prepared a host m) : m.Ready a :=
  ⟨h.passed, h.closed, h.commands, host, h.host, h.reports⟩

/-- With the device over USB, after some reports. -/
structure Writing (a : Args) (host : Addr) (fd : ℕ) (reports : List Octets) (m : Startup) :
    Prop where
  passed : m.Passed a
  hid : m.hid = some fd
  ctl : m.ctl = none
  transport : m.fd = none
  host : m.host = some host
  reports : m.reports = reports
  commands : m.commands = []
  found : m.found = none
  notes : m.notes = []

section usb

variable {host : Addr} {fd : ℕ}

theorem writeReports_does (reports : List Octets) :
    ∀ done, done ++ reports = usbReports a host →
      Does str2ba aes a env (Writing a host fd done) (writeReports fd reports)
        fun ok m => ∃ done, Writing a host fd done m ∧ (ok = true → done = usbReports a host) := by
  induction reports with
  | nil =>
      intro done hdone
      exact pure_does fun m h => ⟨done, h, fun _ => by rw [← hdone, List.append_nil]⟩
  | cons r reports ih =>
      intro done hdone
      rw [List.append_cons] at hdone
      apply Obeys.bind (S := fun _ _ => Writing a host fd (done ++ [r]))
      · apply sys_does
        intro x m h
        refine ⟨.report x h.hid h.host ?_, h.passed, h.hid, h.ctl, h.transport, h.host, ?_,
          h.commands, h.found, h.notes⟩
        · rw [h.reports, ← hdone]
          exact List.prefix_append _ _
        · show m.reports ++ [r] = done ++ [r]
          rw [h.reports]
      · intro ok
        apply Obeys.ite
        · exact fun _ => ih (done ++ [r]) hdone
        · exact fun hok => pure_does fun m h => ⟨_, h, fun htrue => absurd htrue (by simp)⟩

theorem usbPrep_does (husb : a.usbInit = true) :
    Does str2ba aes a env (fun m => Checks (some host) m ∧ m.Passed a) (usbPrep a.hidraw host)
      fun ok m => m.Closed ∧ (ok = true → Prepared a host m) := by
  have hreports : [setHciState, setShipment, bluetoothManualPair host] = usbReports a host := by
    rw [usbReports, if_pos husb]
  unfold usbPrep
  apply Obeys.bind (S := fun (fd : Option ℕ) _ m =>
    fd.elim m.Closed fun fd => Writing a host fd [] m)
  · apply sys_does
    rintro (_ | fd) m ⟨h, hpassed⟩
    · exact ⟨.openUsb none hpassed h.fresh husb h.host, rfl, h.fresh.1.2⟩
    · exact ⟨.openUsb (some fd) hpassed h.fresh husb h.host, hpassed, rfl, h.fresh.1.2.1,
        h.fresh.1.2.2, h.host, h.fresh.2.1, h.fresh.2.2.1, h.found, h.fresh.2.2.2⟩
  · rintro (_ | fd)
    · exact pure_does fun m h => ⟨h, by simp⟩
    · dsimp only [Option.elim]
      apply Obeys.bind (writeReports_does _ [] hreports)
      intro ok
      apply Obeys.bind (S := fun _ _ m => m.Closed ∧ (ok = true → Prepared a host m))
      · apply sys_does
        rintro x m ⟨done, h, hall⟩
        refine ⟨.closeUsb x h.hid, ⟨rfl, rfl, rfl⟩, fun hok => ?_⟩
        exact ⟨h.passed, ⟨rfl, rfl, rfl⟩, h.reports.trans (hall hok), h.host, h.commands, h.found,
          h.notes⟩
      · exact fun _ => pure_does fun _ h => h

theorem usbInit_does :
    Does str2ba aes a env (fun m => Checks (some host) m ∧ m.Passed a) (usbInit a host)
      fun ok m => m.Closed ∧ (ok = true → Prepared a host m) := by
  unfold usbInit
  apply Obeys.ite
  · intro husb
    apply Obeys.bind (usbPrep_does husb)
    rintro (_ | _)
    · exact pure_does fun m h => ⟨h.1, by simp⟩
    · apply Obeys.bind (S := fun _ _ => Prepared a host)
      · apply sys_does
        rintro x m ⟨hclosed, h⟩
        have h := h rfl
        exact ⟨.sleep x hclosed husb h.host h.reports, h⟩
      · exact fun _ => pure_does fun m h => ⟨h.closed, fun _ => h⟩
  · intro husb
    apply pure_does
    rintro m ⟨h, hpassed⟩
    have hreports : usbReports a host = [] := if_neg husb
    exact ⟨h.fresh.1, fun _ => ⟨hpassed, h.fresh.1, h.fresh.2.1.trans hreports.symm, h.host,
      h.fresh.2.2.1, h.found, h.fresh.2.2.2⟩⟩

end usb

/-! ## Transport -/

/-- With the socket of the transport: the commands that were written, and what the scan found. -/
structure Opened (host : Addr) (fd : ℕ) (cs : List Octets) (p : Option Peer) (m : Startup) :
    Prop where
  transport : m.fd = some fd
  bound : m.bound = true
  host : m.host = some host
  commands : m.commands = cs
  found : m.found = p
  notes : m.notes = []

section transport

variable {host : Addr} {fd : ℕ} {cs : List Octets} {p : Option Peer} {dev : ℤ} {f : Frame}

/-- With the socket that brings the device down. -/
def Controls (a : Args) (host : Addr) (ctl : ℕ) (m : Startup) : Prop :=
  ∃ m₀, Prepared a host m₀ ∧ m = { m₀ with ctl := some ctl }

theorem closeControl_does {ctl : ℕ} :
    Does str2ba aes a env (Controls a host ctl) (sys (.close ctl)) fun _ => Prepared a host := by
  apply sys_does
  rintro x m ⟨m, h, rfl⟩
  exact ⟨.closeControl x rfl, h.passed, ⟨rfl, rfl, rfl⟩, h.reports, h.host, h.commands, h.found,
    h.notes⟩

theorem hciBringDown_does :
    Does str2ba aes a env (Prepared a host) (hciBringDown dev) fun _ => Prepared a host := by
  unfold hciBringDown
  apply Obeys.bind (S := fun (ctl : Option ℕ) _ m =>
    ctl.elim (Prepared a host m) fun ctl => Controls a host ctl m)
  · apply sys_does
    rintro (_ | ctl) m h
    · refine ⟨.socket false none h.ready, ?_⟩
      exact ⟨h.passed, ⟨h.closed.1, rfl, h.closed.2.2⟩, h.reports, h.host, h.commands, h.found,
        h.notes⟩
    · exact ⟨.socket false (some ctl) h.ready, m, h, rfl⟩
  · rintro (_ | ctl)
    · exact pure_does fun _ h => h
    · apply Obeys.bind (S := fun _ _ => Controls a host ctl)
      · apply sys_does
        rintro x m ⟨m, h, rfl⟩
        exact ⟨.bindControl dev x rfl, m, h, rfl⟩
      · intro bound
        apply Obeys.ite
        · exact fun _ => closeControl_does
        · intro _
          apply Obeys.bind (S := fun _ _ => Controls a host ctl)
          · apply sys_does
            rintro x m ⟨m, h, rfl⟩
            exact ⟨.down dev x rfl, m, h, rfl⟩
          · intro down
            apply Obeys.ite
            · exact fun _ => closeControl_does
            · intro _
              apply Obeys.bind closeControl_does
              exact fun _ => sys_does fun x m h => ⟨.usleep _ x h.closed, h⟩

/-- The socket before it is bound. -/
structure Unbound (host : Addr) (fd : ℕ) (m : Startup) : Prop where
  transport : m.fd = some fd
  host : m.host = some host
  commands : m.commands = []
  found : m.found = none
  notes : m.notes = []

theorem hciUserOpen_does :
    Does str2ba aes a env (Prepared a host) hciUserOpen
      fun fd m => fd.elim m.Closed fun fd => Opened host fd [] none m := by
  unfold hciUserOpen
  apply Obeys.bind (S := fun _ _ => Prepared a host)
  · exact sys_does fun x m h => ⟨.route x h.ready, h⟩
  · intro dev
    apply Obeys.bind hciBringDown_does
    intro _
    apply Obeys.bind (S := fun (fd : Option ℕ) _ m => fd.elim m.Closed fun fd => Unbound host fd m)
    · apply sys_does
      rintro (_ | fd) m h
      · exact ⟨.socket true none h.ready, h.closed.1, h.closed.2.1, rfl⟩
      · exact ⟨.socket true (some fd) h.ready, rfl, h.host, h.commands, h.found, h.notes⟩
    · rintro (_ | fd)
      · exact pure_does fun _ h => h
      · apply Obeys.bind (S := fun r _ m => Unbound host fd m ∧ (r = .ok → m.bound = true))
        · apply sys_does
          intro (x : Result) m h
          refine ⟨.bindTransport _ x h.transport, ⟨h.transport, h.host, h.commands, h.found,
            h.notes⟩, ?_⟩
          exact fun hok => decide_eq_true hok
        · intro r
          apply Obeys.ite
          · intro hok
            apply pure_does
            rintro m ⟨h, hbound⟩
            exact ⟨h.transport, hbound hok, h.host, h.commands, h.found, h.notes⟩
          · intro _
            apply Obeys.bind (S := fun _ _ m => m.Closed)
            · exact sys_does fun x m h => ⟨.closeTransport x h.1.transport, rfl, rfl, rfl⟩
            · exact fun _ => pure_does fun _ h => h

theorem hciUserSendCmd_does {ogf ocf : UInt16} {params : Octets}
    (hnext : cs ++ [commandPacket (hciOpcode ogf ocf) params] <+: startCommands a) :
    Does str2ba aes a env (Opened host fd cs p) (hciUserSendCmd fd ogf ocf params)
      fun _ => Opened host fd (cs ++ [commandPacket (hciOpcode ogf ocf) params]) p := by
  apply sys_does
  intro x m h
  refine ⟨.command x h.transport h.bound (by rw [h.commands]; exact hnext), h.transport, h.bound,
    h.host, ?_, h.found, h.notes⟩
  show m.commands ++ _ = _
  rw [h.commands]

/-- Another frame buffer. -/
theorem frame_does :
    Does str2ba aes a env (Opened host fd cs p) (sys .frame)
      fun (f : Frame) m => Opened host fd cs p m ∧ m.frame = f :=
  sys_does fun x _ h =>
    ⟨.frame x, ⟨h.transport, h.bound, h.host, h.commands, h.found, h.notes⟩, rfl⟩

/-- A frame that is read outside of the scan. -/
theorem hciUserReadFrame_does {timeoutMs : ℤ} (hno : ¬(a.scans = true ∧ cs.length = 4)) :
    Does str2ba aes a env (Opened host fd cs p) (hciUserReadFrame fd f timeoutMs)
      fun _ => Opened host fd cs p := by
  unfold hciUserReadFrame
  apply Obeys.bind (S := fun _ _ => Opened host fd cs p)
  · apply sys_does
    intro x m h
    refine ⟨.read timeoutMs x h.transport h.bound, ?_⟩
    show Opened host fd cs p (if (x.getD []).take 512 = [] then m
      else m.received a ((x.getD []).take 512))
    split
    · exact h
    · refine ⟨h.transport, h.bound, h.host, h.commands, ?_, h.notes⟩
      have hscan : ¬(Startup.Scanning a m ∧ m.found = none) := fun hs => hno (by
        rw [← h.commands]
        exact hs.1)
      exact (if_neg hscan).trans h.found
  · exact fun _ => pure_does fun _ h => h

/-- A frame that is read in the scan. -/
theorem hciUserReadFrame_scans {timeoutMs : ℤ} (hscans : a.scans = true) (hcs : cs.length = 4) :
    Does str2ba aes a env (fun m => Opened host fd cs none m ∧ m.frame = f)
      (hciUserReadFrame fd f timeoutMs)
      fun r => Opened host fd cs (r.bind (scanFrame a.verbose)) := by
  unfold hciUserReadFrame
  apply Obeys.bind (S := fun (x : Option Octets) _ => Opened host fd cs
    ((if (x.getD []).take 512 = [] then none else some (f.parse ((x.getD []).take 512))).bind
      (scanFrame a.verbose)))
  · apply sys_does
    rintro x m ⟨h, rfl⟩
    refine ⟨.read timeoutMs x h.transport h.bound, ?_⟩
    show Opened host fd cs _ (if (x.getD []).take 512 = [] then m
      else m.received a ((x.getD []).take 512))
    split
    · exact h
    · refine ⟨h.transport, h.bound, h.host, h.commands, ?_, h.notes⟩
      have hscan : Startup.Scanning a m ∧ m.found = none := ⟨⟨hscans, h.commands ▸ hcs⟩, h.found⟩
      exact if_pos hscan
  · exact fun _ => pure_does fun _ h => h

theorem awaitReset_does (hno : ¬(a.scans = true ∧ cs.length = 4)) (n : ℕ) :
    ∀ f, Does str2ba aes a env (Opened host fd cs p) (awaitReset fd n f)
      fun _ => Opened host fd cs p := by
  induction n with
  | zero => exact fun _ => pure_does fun _ h => h
  | succ n ih =>
      intro f
      apply Obeys.bind (hciUserReadFrame_does hno)
      rintro (_ | f)
      · exact ih f
      · exact Obeys.ite (fun _ => pure_does fun _ h => h) fun _ => ih f

theorem waitCmdComplete_does {opcode : UInt16} {timeoutMs : ℤ}
    (hno : ¬(a.scans = true ∧ cs.length = 4)) :
    Does str2ba aes a env (Opened host fd cs p) (waitCmdComplete fd opcode timeoutMs)
      fun _ => Opened host fd cs p := by
  unfold waitCmdComplete
  refine Obeys.loop (I := fun _ _ => Opened host fd cs p) (fun waited => ?_) 0
  apply Obeys.ite
  · exact fun _ => Obeys.pure fun _ _ h => h
  · intro _
    apply Obeys.bind (frame_does.post fun _ _ _ h => h.1)
    intro f
    apply Obeys.bind (hciUserReadFrame_does hno)
    rintro (_ | f)
    · exact Obeys.pure fun _ _ h => h
    · exact Obeys.ite (fun _ => Obeys.pure fun _ _ h => h) fun _ => Obeys.pure fun _ _ h => h

theorem initCommands_prefix : initCommands <+: startCommands a := List.prefix_append _ _

theorem hciUserInit_does :
    Does str2ba aes a env (Opened host fd [] p) (hciUserInit fd)
      fun ok m => m.fd = some fd ∧ (ok = true → Opened host fd initCommands p m) := by
  have hreset : [] ++ [commandPacket (hciOpcode 0x03 0x0003) []] <+: startCommands a :=
    List.IsPrefix.trans ⟨[_], rfl⟩ initCommands_prefix
  have hmask : [commandPacket (hciOpcode 0x03 0x0003) []] ++ [commandPacket (hciOpcode 0x08 0x0001)
      [0xFF, 0x1F, 0x00, 0x00, 0x00, 0x00, 0x00, 0x00]] <+: startCommands a := initCommands_prefix
  unfold hciUserInit
  apply Obeys.bind (hciUserSendCmd_does hreset)
  intro ok
  apply Obeys.ite
  · intro _
    apply Obeys.bind (frame_does.post fun _ _ _ h => h.1)
    intro f
    apply Obeys.bind (awaitReset_does (by simp) 10 f)
    intro _
    apply Obeys.bind (hciUserSendCmd_does hmask)
    intro ok
    apply Obeys.ite
    · intro _
      apply Obeys.bind (waitCmdComplete_does (by simp))
      exact fun _ => pure_does fun _ h => ⟨h.transport, fun _ => h⟩
    · exact fun _ => pure_does fun _ h => ⟨h.transport, by simp⟩
  · exact fun _ => pure_does fun _ h => ⟨h.transport, by simp⟩

end transport

/-! ## The scan -/

section scan

variable {host : Addr} {fd : ℕ} {cs : List Octets} {p : Option Peer} {deadline : ℤ}

/-- A call that changes nothing. -/
theorem nowMs_does :
    Does str2ba aes a env (Opened host fd cs p) (sys .nowMs) fun _ => Opened host fd cs p :=
  sys_does fun x _ h => ⟨.nowMs x, h⟩

theorem scanStep_does (hscans : a.scans = true) (hcs : cs.length = 4) :
    Does str2ba aes a env (Opened host fd cs none) (scanStep fd a.verbose deadline ()) fun x m =>
      x.elim (fun _ => Opened host fd cs none m) fun p => Opened host fd cs p m := by
  unfold scanStep
  apply Obeys.bind (S := fun _ _ => Opened host fd cs none)
  · exact sys_does fun x _ h => ⟨.running x, h⟩
  · intro running
    apply Obeys.ite
    · exact fun _ => pure_does fun _ h => h
    · intro _
      apply Obeys.bind nowMs_does
      intro (now : ℤ)
      apply Obeys.ite
      · exact fun _ => pure_does fun _ h => h
      · intro _
        apply Obeys.bind nowMs_does
        intro (now : ℤ)
        apply Obeys.bind frame_does
        intro f
        apply Obeys.bind (hciUserReadFrame_scans hscans hcs)
        rintro (_ | f)
        · exact pure_does fun _ h => h
        · simp only [Option.bind_some]
          cases scanFrame a.verbose f with
          | none => exact pure_does fun _ h => h
          | some peer => exact pure_does fun _ h => h

theorem startCommands_scans (hscans : a.scans = true) :
    startCommands a = initCommands ++ scanCommands a := by
  rw [startCommands, if_pos hscans]

theorem scanForPeerUser_does (hscans : a.scans = true) :
    Does str2ba aes a env (Opened host fd initCommands none) (scanForPeerUser fd a) fun p m =>
      m.fd = some fd ∧ (p.isSome = true → Opened host fd (startCommands a) p m) := by
  have hstart := startCommands_scans hscans
  have hparams : initCommands ++ [commandPacket (hciOpcode 0x08 0x000b) (scanParams a.ownType)] <+:
      startCommands a := hstart ▸ ⟨[_, _], rfl⟩
  have henable : initCommands ++ [commandPacket (hciOpcode 0x08 0x000b) (scanParams a.ownType)] ++
      [commandPacket (hciOpcode 0x08 0x000c) [0x01, 0x00]] <+: startCommands a :=
    hstart ▸ ⟨[_], rfl⟩
  have hall : initCommands ++ [commandPacket (hciOpcode 0x08 0x000b) (scanParams a.ownType)] ++
      [commandPacket (hciOpcode 0x08 0x000c) [0x01, 0x00]] ++
      [commandPacket (hciOpcode 0x08 0x000c) [0x00, 0x00]] = startCommands a := hstart ▸ rfl
  unfold scanForPeerUser
  apply Obeys.bind (hciUserSendCmd_does hparams)
  intro ok
  apply Obeys.ite
  · intro _
    apply Obeys.bind (hciUserSendCmd_does henable)
    intro ok
    apply Obeys.ite
    · intro _
      apply Obeys.bind nowMs_does
      intro (now : ℤ)
      apply Obeys.bind (S := fun p _ => Opened host fd _ p)
      · refine Obeys.loop (I := fun _ _ => Opened host fd _ none) (fun _ => ?_) ()
        exact (scanStep_does hscans rfl).post fun x _ m h => by
          rcases x with _ | p <;> exact h
      · intro p
        apply Obeys.bind (hciUserSendCmd_does (hall ▸ List.prefix_refl _))
        rw [hall]
        exact fun _ => pure_does fun _ h => ⟨h.transport, fun _ => h⟩
    · exact fun _ => pure_does fun _ h => ⟨h.transport, by simp⟩
  · exact fun _ => pure_does fun _ h => ⟨h.transport, by simp⟩

end scan

/-! ## The sessions -/

section sessions

variable {host : Addr} {fd : ℕ} {p : Option Peer} {peer : Target}

/-- The sessions may begin. -/
structure Begins (str2ba : Text → Option Addr) (a : Args) (peer : Target) (host : Addr) (fd : ℕ)
    (m : Startup) : Prop where
  opened : Opened host fd (startCommands a) m.found m
  target : m.target str2ba a = some peer
  only : ¬(a.scans = true ∧ a.scanOnly = true)

theorem sessions_does (hzero : ¬addrIsZero peer.1) :
    Does str2ba aes a env (Begins str2ba a peer host fd) (sessions aes fd (hostConfig a peer host))
      fun _ m => m.fd = some fd := by
  unfold sessions
  apply Obeys.bind (S := fun _ _ m => m.fd = some fd)
  · apply Obeys.inside
      (J := fun ns => ∃ env b, ns = (hostRun aes (hostConfig a peer host) env b).trace)
      (I := fun ns m => ∃ m₀, Begins str2ba a peer host fd m₀ ∧ m = { m₀ with notes := ns })
    · exact fun n b => ⟨hostEnv fd n env, b, rfl⟩
    · exact fun _ m h => ⟨m, h, by rw [← h.opened.notes]⟩
    · rintro _ pre o m ⟨env, b, rfl⟩ hpre ⟨m, h, rfl⟩
      exact ⟨.note env b h.opened.transport h.opened.bound h.opened.commands h.only h.target hzero
        h.opened.host hpre, m, h, rfl⟩
    · rintro _ _ _ _ ns _ _ ⟨m, h, rfl⟩
      exact h.opened.transport
  · exact fun _ => pure_does fun _ h => h

/-- The socket of the transport is closed at the end. -/
theorem closeTransport_does {code : ℤ} :
    Does str2ba aes a env (fun m => m.fd = some fd) (sys (.close fd) >>= fun _ => pure code)
      fun _ m => m.Closed := by
  apply Obeys.bind (S := fun _ _ m => m.Closed)
  · exact sys_does fun x m h => ⟨.closeTransport x h, rfl, rfl, rfl⟩
  · exact fun _ => pure_does fun _ h => h

theorem connectTo_does :
    Does str2ba aes a env (Begins str2ba a peer host fd) (connectTo aes fd a peer host)
      fun _ m => m.Closed := by
  unfold connectTo
  apply Obeys.ite
  · exact fun _ => closeTransport_does.pre fun _ _ h => h.opened.transport
  · intro hzero
    exact Obeys.bind (sessions_does hzero) fun _ => closeTransport_does

theorem withSocket_does (hpeer : resolvePeer str2ba a = some peer) :
    Does str2ba aes a env (Opened host fd [] none) (withSocket aes fd a peer host)
      fun _ m => m.Closed := by
  unfold withSocket
  apply Obeys.bind hciUserInit_does
  intro ok
  apply Obeys.ite
  · exact fun _ => closeTransport_does.pre fun _ _ h => h.1
  · intro hok
    have hopened : ∀ {x : F ℤ}, Does str2ba aes a env (Opened host fd initCommands none) x
        (fun _ m => m.Closed) → Does str2ba aes a env (fun m => m.fd = some fd ∧
          (ok = true → Opened host fd initCommands none m)) x fun _ m => m.Closed :=
      fun h => h.pre fun _ _ hm => hm.2 (by simpa using hok)
    apply Obeys.ite
    · intro hscans
      apply hopened
      apply Obeys.bind (scanForPeerUser_does hscans)
      rintro (_ | p)
      · exact closeTransport_does.pre fun _ _ h => h.1
      · apply Obeys.ite
        · exact fun _ => closeTransport_does.pre fun _ _ h => h.1
        · intro honly
          apply connectTo_does.pre
          intro _ m h
          have h := h.2 rfl
          refine ⟨h.found ▸ h, ?_, fun hboth => honly hboth.2⟩
          rw [target, if_pos hscans, h.found]
          rfl
    · intro hscans
      apply hopened
      apply connectTo_does.pre
      intro _ m h
      have hstart : startCommands a = initCommands := by
        rw [startCommands, if_neg hscans, List.append_nil]
      refine ⟨h.found ▸ hstart ▸ h, ?_, fun hboth => hscans hboth.1⟩
      rw [target, if_neg hscans, hpeer]

theorem run_does :
    Does str2ba aes a env (fun m => m = init str2ba a) (run str2ba aes a) fun _ m => m.Closed := by
  unfold run
  apply Obeys.ite
  · intro hpre
    apply (runPreflight_does hpre).conseq
    · rintro _ m rfl
      exact ⟨⟨rfl, rfl, rfl⟩, rfl, rfl, rfl⟩
    · exact fun _ _ _ h => h.1
  · intro hpre
    apply Obeys.bind (S := fun ok _ m =>
      Checks (init str2ba a).host m ∧ (ok = true → m.Passed a))
    · apply (bluezGuard_does (by simpa using hpre)).pre
      rintro _ m rfl
      exact ⟨⟨⟨rfl, rfl, rfl⟩, rfl, rfl, rfl⟩, rfl, rfl⟩
    · intro ok
      apply Obeys.ite
      · exact fun _ => pure_does fun _ h => h.1.fresh.1
      · intro hok
        cases hpeer : resolvePeer str2ba a with
        | none => exact pure_does fun _ h => h.1.fresh.1
        | some peer =>
          apply Obeys.bind (hostAddress_does.pre fun _ _ h => ⟨h.1, h.2 (by simpa using hok)⟩)
          rintro (_ | host)
          · exact pure_does fun _ h => h.1.fresh.1
          · apply Obeys.bind usbInit_does
            intro ok
            apply Obeys.ite
            · exact fun _ => pure_does fun _ h => h.1
            · intro hok
              apply Obeys.bind (hciUserOpen_does.pre fun _ _ h => h.2 (by simpa using hok))
              rintro (_ | fd)
              · exact pure_does fun _ h => h
              · exact withSocket_does hpeer

end sessions

end Switch2Bt.Sw2dFinal
