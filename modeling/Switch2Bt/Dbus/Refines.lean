import Switch2Bt.Dbus.Link

/-!
# The daemon keeps to its link (`switch2-bt.c`)

One triple for each function, along the program text. Where a session stands is one `Link`, written
out (`idle`, `linkedTo`, `foundAt`, `asking`, `watch`, `telling`); `Is` says that the link is that
one and what the variables hold there.
-/

namespace Switch2Bt.DbusDaemon

open Await Octets Dbus Discovery HidReport Uhid

variable {K : Setting} {env : System}

/-! ## Where a session stands -/

/-- Without a connection. -/
def idle (dev : CString) (heard : List Octets) (sleeps : ℕ) (stopped due : Bool) : Link where
  bus := true
  dev := dev
  heard := heard
  told := heard.length
  sleeps := sleeps
  due := due
  stopped := stopped

section stands

variable (dev : CString) (heard : List Octets) (sleeps : ℕ) (g : Gatt) (fd : ℕ)

/-- Connected. -/
def linkedTo (resolved : Bool) : Link :=
  { idle dev heard sleeps false true with linked := true, resolved := resolved }

/-- The characteristics were asked for. -/
def foundAt (found : Bool) : Link :=
  { linkedTo dev heard sleeps true with found := found, gatt := g }

/-- With a device, after some writes of the initialisation. -/
def asking (asked : List Write) : Link :=
  { foundAt dev heard sleeps g true with uhid := some fd, device := .alive, asked := asked }

/-- The controller is initialised. -/
def ready : Link := { asking dev heard 0 g fd (initTranscript g) with notified := true }

/-- In the event loop. -/
def watch (sfd : Option ℕ) (stopped : Bool) : Link :=
  { ready dev heard g fd with watching := true, sfd := sfd, stopped := stopped }

/-- In the event loop, with values that are still to be told. -/
def telling (sfd : Option ℕ) (owed : List Octets) : Link :=
  { watch dev (heard ++ owed) g fd sfd false with told := heard.length }

end stands

/-! ## Triples over the link -/

/-- A triple over the link. -/
abbrev Does {α : Type} (K : Setting) (env : System)
    (Q : Vars → Link → Prop) (x : D α) (R : α → Vars → Link → Prop) : Prop :=
  Obeys env (link K) Q x R

/-- The link is `l`, and `P` holds of the variables. -/
def Is (P : Vars → Prop) (l : Link) (s : Vars) (m : Link) : Prop := m = l ∧ P s

variable {α : Type} {P P' : Vars → Prop} {Q : Vars → Link → Prop} {l : Link}

theorem sys_does {c : Call} {R : Answer c → Vars → Link → Prop}
    (h : ∀ a s m, Q s m → m.Allows K (.call c a) ∧ R a s (m.next K (.call c a))) :
    Does K env Q (sys c) R :=
  Obeys.call (fun e => e.elim) h

/-- A call where the link is known. -/
theorem sys_is {c : Call} {l' : Answer c → Link} (h : ∀ a, l.Allows K (.call c a))
    (hnext : ∀ a, l.next K (.call c a) = l' a) :
    Does K env (Is P l) (sys c) fun a => Is P (l' a) := by
  apply sys_does
  rintro a s m ⟨rfl, hs⟩
  exact ⟨h a, hnext a, hs⟩

theorem assign_is {f : Vars → Vars} (h : ∀ s, P s → P' (f s)) :
    Does K env (Is P l) (Prog.assign f) fun _ => Is P' l :=
  Obeys.assign fun _ _ hm => ⟨hm.1, h _ hm.2⟩

/-- Reading the variables where the link is known. -/
theorem vars_is {f : Vars → D α} {R : α → Vars → Link → Prop}
    (h : ∀ s, P s → Does K env (Is (fun s' => s' = s ∧ P s') l) (f s) R) :
    Does K env (Is P l) (Prog.vars >>= f) R := by
  apply Obeys.vars_bind
  intro s
  apply Obeys.assume (P := P s)
  · rintro s' m ⟨rfl, -, hs⟩
    exact hs
  · intro hs
    apply (h s hs).pre
    rintro s' m ⟨rfl, rfl, hs'⟩
    exact ⟨rfl, rfl, hs'⟩

theorem pure_is {a : α} {R : α → Vars → Link → Prop} (h : ∀ s, P s → R a s l) :
    Does K env (Is P l) (pure a) R := by
  apply Obeys.pure
  rintro s m ⟨rfl, hs⟩
  exact h s hs

/-! ## Connecting -/

section connecting

variable {dev : CString} {heard : List Octets} {sleeps : ℕ} {g : Gatt} {fd : ℕ}

/-- Giving up a connection. -/
theorem btDisconnect_does (hlinked : l.linked = true) (huhid : l.uhid = none)
    (hwatching : l.watching = false) :
    Does K env (Is P l) (btDisconnect l.dev) fun _ => Is P l.unlinked := by
  unfold btDisconnect methodCall
  apply Obeys.bind (S := fun _ => Is P l.unlinked)
  · exact sys_is (fun a => .disconnect a hlinked huhid hwatching) fun _ => rfl
  · exact fun _ => pure_is fun _ hs => ⟨rfl, hs⟩

theorem waitServices_does {timeout : ℕ} :
    Does K env (Is P (linkedTo dev heard sleeps false)) (waitServices dev timeout)
      fun b => Is P (linkedTo dev heard sleeps b) := by
  unfold waitServices propBool
  refine Obeys.loop (I := fun _ => Is P (linkedTo dev heard sleeps false)) (fun i => ?_) 0
  apply Obeys.ite
  · exact fun _ => pure_is fun _ hs => ⟨rfl, hs⟩
  · intro _
    apply Obeys.bind (S := fun (b : Option Bool) => Is P (linkedTo dev heard sleeps (b.getD false)))
    · exact sys_is (fun a => .getProperty _ a rfl rfl rfl) fun _ => rfl
    · rintro (_ | _ | _)
      · exact pure_is fun _ hs => ⟨rfl, hs⟩
      · apply Obeys.bind (S := fun _ => Is P (linkedTo dev heard sleeps false))
        · exact sys_is (fun a => .usleep _ a rfl rfl) fun _ => rfl
        · exact fun _ => pure_is fun _ hs => ⟨rfl, hs⟩
      · exact pure_is fun _ hs => ⟨rfl, hs⟩

/-- The variables of a session. -/
structure InSession (heard : List Octets) (g : Gatt) (fd : ℕ) (s : Vars) : Prop where
  input : s.input = afterInputs heard
  gatt : s.gatt = g
  uhidFd : s.uhidFd = some fd

/-- The variables between sessions. -/
def Rests (heard : List Octets) (s : Vars) : Prop := s.input = afterInputs heard

/-- What a discovery leaves. -/
def Discovered (dev : CString) (heard : List Octets) (sleeps : ℕ) (b : Bool) (s : Vars) (m : Link) :
    Prop :=
  ∃ g, Is (fun s => Rests heard s ∧ (b = true → s.gatt = g)) (foundAt dev heard sleeps g b) s m

theorem discover_does (hwhole : K.whole = true) :
    Does K env (Is (Rests heard) (linkedTo dev heard sleeps true))
      (discover K.prior dev) (Discovered dev heard sleeps) := by
  unfold discover
  apply Obeys.bind (S := fun (reply : Option (List Object)) => Is (Rests heard)
    (reply.elim (linkedTo dev heard sleeps true) fun reply =>
      foundAt dev heard sleeps (discoverGatt K.prior reply).2
        (decide (0 ≤ (discoverGatt K.prior reply).1))))
  · apply sys_is
    · exact fun a => .objects a hwhole rfl rfl rfl
    · rintro (_ | reply) <;> rfl
  · rintro (_ | reply)
    · exact pure_is fun _ hs => ⟨{}, rfl, hs, by simp⟩
    · apply Obeys.bind (S := fun _ =>
        Is (fun s => Rests heard s ∧ s.gatt = (discoverGatt K.prior reply).2)
          (foundAt dev heard sleeps (discoverGatt K.prior reply).2
            (decide (0 ≤ (discoverGatt K.prior reply).1))))
      · exact assign_is fun s hs => ⟨hs, rfl⟩
      · exact fun _ => pure_is fun _ hs => ⟨_, rfl, hs.1, fun _ => hs.2⟩

/-! ## The initialisation -/

/-- The program writes `ws`, where they are the next writes of the initialisation. -/
def Sends (K : Setting) (env : System) (g : Gatt)
    (ws : List Write) (x : D α) : Prop :=
  ∀ dev heard sleeps fd P done rest, done ++ (ws ++ rest) = initTranscript g →
    Does K env (Is P (asking dev heard sleeps g fd done)) x
      fun _ => Is P (asking dev heard sleeps g fd (done ++ ws))

theorem Sends.bind {β : Type} {ws ws' : List Write} {x : D α} {f : α → D β}
    (hx : Sends K env g ws x) (hf : ∀ a, Sends K env g ws' (f a)) :
    Sends K env g (ws ++ ws') (x >>= f) := by
  intro dev heard sleeps fd P done rest hrest
  rw [List.append_assoc] at hrest
  apply Obeys.bind (hx dev heard sleeps fd P done (ws' ++ rest) hrest)
  intro a
  rw [← List.append_assoc] at hrest ⊢
  exact hf a dev heard sleeps fd P (done ++ ws) rest hrest

theorem Sends.pure {a : α} : Sends K env g [] (pure a) := by
  intro dev heard sleeps fd P done rest _
  rw [List.append_nil]
  exact pure_is fun _ hs => ⟨rfl, hs⟩

theorem Sends.ite {c : Prop} [Decidable c] {ws ws' : List Write} {x y : D α}
    (hx : c → Sends K env g ws x) (hy : ¬c → Sends K env g ws' y) :
    Sends K env g (if c then ws else ws') (if c then x else y) := by
  by_cases h : c
  · rw [if_pos h, if_pos h]
    exact hx h
  · rw [if_neg h, if_neg h]
    exact hy h

theorem writeValue_sends {path iface : CString} {data : Octets} :
    Sends K env g [(path, iface, data)] (sys (.writeValue path iface data)) := by
  intro dev heard sleeps fd P done rest hrest
  apply sys_is
  · refine fun a => .ask a rfl rfl rfl ⟨rest, ?_⟩
    rw [List.append_assoc]
    exact hrest
  · exact fun _ => rfl

theorem usleep_sends {us : ℕ} : Sends K env g [] (sys (.usleep us)) := by
  intro dev heard sleeps fd P done rest _
  rw [List.append_nil]
  exact sys_is (fun a => .usleep _ a rfl rfl) fun _ => rfl

/-- A pause adds nothing. -/
theorem Sends.pause {β : Type} {ws : List Write} {us : ℕ} {f : Unit → D β}
    (hf : ∀ a, Sends K env g ws (f a)) :
    Sends K env g ws (sys (.usleep us) >>= f) := usleep_sends.bind hf

/-- A command, and a pause. -/
theorem nwcp_sends {β : Type} {ws : List Write} {cmd sub : UInt8} {data : Option Octets}
    {dlen us : ℕ} {f : Unit → D β} (hf : ∀ a, Sends K env g ws (f a)) :
    Sends K env g (command g cmd sub data dlen :: ws)
      (nwcp g cmd sub data dlen >>= fun _ => sys (.usleep us) >>= f) := by
  have hnwcp : Sends K env g [command g cmd sub data dlen]
      (nwcp g cmd sub data dlen) :=
    Sends.bind writeValue_sends fun _ => Sends.pure
  exact hnwcp.bind fun _ => Sends.pause hf

theorem enableResp_sends {path : CString} :
    Sends K env g (enable path) (enableResp path) :=
  Sends.ite (fun _ => writeValue_sends.bind fun _ => usleep_sends) fun _ => Sends.pure

theorem setRate_sends {path : CString} : Sends K env g (rate path) (setRate path) :=
  Sends.ite (fun _ => writeValue_sends.bind fun _ => usleep_sends) fun _ => Sends.pure

theorem enableInput_sends {path : CString} :
    Sends K env g (enable path) (enableInput path) :=
  Sends.ite (fun _ => writeValue_sends.bind fun _ => Sends.pure) fun _ => Sends.pure

theorem initSequence_sends : Sends K env g (initTranscript g) (initSequence g) := by
  have hrest : Sends K env g (rate g.pathRatedesc ++ enable g.pathCccInput)
      (setRate g.pathRatedesc >>= fun _ => enableInput g.pathCccInput) :=
    setRate_sends.bind fun _ => enableInput_sends
  unfold initSequence initTranscript
  rw [List.append_assoc, List.append_assoc, List.append_assoc, List.append_assoc]
  apply writeValue_sends.bind
  intro _
  apply Sends.pause
  intro _
  apply enableResp_sends.bind
  intro _
  apply enableResp_sends.bind
  intro _
  iterate 15
    apply nwcp_sends
    intro _
  exact hrest

/-- What an attempt leaves: nothing, or a controller that is ready. -/
def Attempted (dev : CString) (heard : List Octets) (sleeps : ℕ) (b : Bool) (s : Vars) (m : Link) :
    Prop :=
  if b then ∃ g fd, Is (InSession heard g fd) (ready dev heard g fd) s m
  else Is (Rests heard) (idle dev heard sleeps false true) s m

/-- An attempt that failed gives up the connection. -/
theorem failed_does (hP : ∀ s, P s → Rests heard s) (hlinked : l.linked = true)
    (huhid : l.uhid = none) (hwatching : l.watching = false) (hdev : l.dev = dev)
    (hl : l.unlinked = idle dev heard sleeps false true) :
    Does K env (Is P l) (btDisconnect dev >>= fun _ => pure false)
      (Attempted dev heard sleeps) := by
  rw [← hdev]
  apply Obeys.bind (btDisconnect_does hlinked huhid hwatching)
  exact fun _ => pure_is fun s hs => ⟨hl.trans (by rw [hdev]), hP s hs⟩

theorem createInit_does :
    Does K env
      (Is (fun s => Rests heard s ∧ s.gatt = g) (foundAt dev heard sleeps g true))
      (createInit K.room dev) (Attempted dev heard sleeps) := by
  unfold createInit
  apply Obeys.bind (S := fun (fd : Option ℕ) => Is (fun s => Rests heard s ∧ s.gatt = g)
    { foundAt dev heard sleeps g true with
      uhid := fd, device := if fd.isSome then .opened else .absent })
  · exact sys_is (fun a => .openUhid a rfl rfl rfl) fun _ => rfl
  · intro fd
    apply Obeys.bind (S := fun _ => Is (fun s => (Rests heard s ∧ s.gatt = g) ∧ s.uhidFd = fd)
      { foundAt dev heard sleeps g true with
        uhid := fd, device := if fd.isSome then .opened else .absent })
    · exact assign_is fun s hs => ⟨hs, rfl⟩
    · intro _
      rcases fd with _ | fd
      · exact failed_does (fun s hs => hs.1.1) rfl rfl rfl rfl rfl
      · apply Obeys.bind (S := fun (b : Bool) =>
          Is (fun s => (Rests heard s ∧ s.gatt = g) ∧ s.uhidFd = some fd)
            { foundAt dev heard sleeps g true with
              uhid := some fd, device := if b then .alive else .gone })
        · exact sys_is (fun a => .create a rfl rfl) fun _ => rfl
        · rintro (_ | _)
          · apply Obeys.bind (S := fun _ =>
              Is (fun s => (Rests heard s ∧ s.gatt = g) ∧ s.uhidFd = some fd)
                { foundAt dev heard sleeps g true with device := .gone })
            · exact sys_is (fun a => .closeUhid a rfl rfl rfl) fun _ => rfl
            · exact fun _ => failed_does (fun s hs => hs.1.1) rfl rfl rfl rfl rfl
          · apply vars_is
            rintro s ⟨⟨-, rfl⟩, -⟩
            apply Obeys.bind (initSequence_sends dev heard sleeps fd _ [] []
              (List.append_nil _))
            intro _
            apply Obeys.bind (S := fun _ => Is (InSession heard s.gatt fd)
              (ready dev heard s.gatt fd))
            · apply sys_does
              rintro a s' m ⟨rfl, rfl, ⟨hin, hgatt⟩, hfd⟩
              exact ⟨.notify a rfl rfl rfl, Link.called_startNotify _ a, hin, hgatt, hfd⟩
            · intro _
              apply Obeys.bind (S := fun _ => Is (InSession heard s.gatt fd)
                (ready dev heard s.gatt fd))
              · exact assign_is fun s hs => ⟨hs.input, hs.gatt, hs.uhidFd⟩
              · exact fun _ => pure_is fun _ hs => ⟨_, _, rfl, hs⟩

theorem connectInit_does (hwhole : K.whole = true) (hdev : dev ≠ []) :
    Does K env (Is (Rests heard) (idle dev heard sleeps false false))
      (connectInit K.prior K.room dev) (Attempted dev heard sleeps) := by
  unfold connectInit
  apply Obeys.bind (S := fun (b : Bool) => Is (Rests heard)
    { idle dev heard sleeps false true with linked := b })
  · exact sys_is (fun a => .connect a hwhole ⟨rfl, rfl, rfl⟩ rfl hdev rfl rfl) fun _ => rfl
  · rintro (_ | _)
    · exact pure_is fun _ hs => ⟨rfl, hs⟩
    · apply Obeys.bind waitServices_does
      rintro (_ | _)
      · exact failed_does (fun _ hs => hs) rfl rfl rfl rfl rfl
      · apply Obeys.bind (discover_does hwhole)
        rintro (_ | _)
        · rintro w ⟨hf, g, hm, hs⟩
          exact failed_does (P := fun s => Rests heard s ∧ (false = true → s.gatt = g))
            (fun _ hs => hs.1) rfl rfl rfl rfl rfl w ⟨hf, hm, hs⟩
        · rintro w ⟨hf, g, hm, hs⟩
          exact createInit_does w ⟨hf, hm, hs.1, hs.2 rfl⟩

end connecting

/-! ## Listening -/

section listening

variable {dev : CString} {heard owed : List Octets} {g : Gatt} {fd : ℕ} {sfd : Option ℕ}

/-- The variables of a session that runs. -/
structure Running (heard : List Octets) (g : Gatt) (fd : ℕ) (running : Bool) (s : Vars) : Prop
    extends InSession heard g fd s where
  running : s.running = running

theorem takeValue_does {val : Octets} (hne : val ≠ []) :
    Does K env
      (Is (Running heard g fd true) (telling dev heard g fd sfd (val :: owed))) (takeValue val)
      fun _ => Is (Running (heard ++ [val]) g fd true)
        (telling dev (heard ++ [val]) g fd sfd owed) := by
  unfold takeValue
  rw [if_pos hne]
  apply Obeys.bind (S := fun _ => Is (Running (heard ++ [val]) g fd true)
    (telling dev heard g fd sfd (val :: owed)))
  · apply assign_is
    rintro s ⟨⟨hin, hgatt, hfd⟩, hrun⟩
    refine ⟨⟨?_, hgatt, hfd⟩, hrun⟩
    simp [afterInputs, hin]
  · intro _
    apply vars_is
    rintro s ⟨⟨hin, -, hfd⟩, -⟩
    rw [hfd, hin, if_pos Option.isSome_some]
    have hreport : (buildHidReport (afterInputs (heard ++ [val]))).take uhidDataMax =
        reportAfter ((telling dev heard g fd sfd (val :: owed)).heard.take
          ((telling dev heard g fd sfd (val :: owed)).told + 1)) := by
      show _ = reportAfter ((heard ++ val :: owed).take (heard.length + 1))
      rw [List.take_append, List.take_of_length_le (Nat.le_succ _), Nat.add_sub_cancel_left]
      rfl
    have htelling : { telling dev heard g fd sfd (val :: owed) with told := heard.length + 1 } =
        telling dev (heard ++ [val]) g fd sfd owed := by
      simp [telling, watch, ready, asking, foundAt, linkedTo, idle]
    have hnext : (telling dev heard g fd sfd (val :: owed)).told <
        (telling dev heard g fd sfd (val :: owed)).heard.length := by
      show heard.length < (heard ++ val :: owed).length
      simp
    unfold uhidInput
    rw [hreport]
    apply Obeys.bind (S := fun _ => Is (Running (heard ++ [val]) g fd true)
      (telling dev (heard ++ [val]) g fd sfd owed))
    · apply sys_does
      rintro a s' m ⟨rfl, rfl, hs⟩
      exact ⟨.report a rfl rfl rfl hnext, htelling, hs⟩
    · exact fun _ => pure_is fun _ hs => ⟨rfl, hs⟩

theorem takeValues_does (changed : List (CString × Variant)) : ∀ heard,
    Does K env
      (Is (Running heard g fd true) (telling dev heard g fd sfd (valuesOf changed)))
      (takeValues changed) fun _ => Is (Running (heard ++ valuesOf changed) g fd true)
        (telling dev (heard ++ valuesOf changed) g fd sfd []) := by
  induction changed with
  | nil =>
      intro heard
      rw [valuesOf, List.append_nil]
      exact pure_is fun _ hs => ⟨rfl, hs⟩
  | cons entry changed ih =>
      intro heard
      obtain ⟨prop, v⟩ := entry
      unfold takeValues valuesOf
      by_cases hprop : prop = "Value".toList
      · rw [if_pos hprop, if_pos hprop]
        cases v with
        | bytes val =>
            dsimp only
            by_cases hne : val ≠ []
            · rw [if_pos hne]
              apply Obeys.bind (takeValue_does hne)
              intro _
              have hih := ih (heard ++ [val])
              rw [List.append_assoc] at hih
              exact hih
            · rw [if_neg hne]
              apply Obeys.bind (S := fun _ => Is (Running heard g fd true)
                (telling dev heard g fd sfd (valuesOf changed)))
              · unfold takeValue
                rw [if_neg hne]
                exact pure_is fun _ hs => ⟨rfl, hs⟩
              · exact fun _ => ih heard
        | bool | other =>
            dsimp only
            rw [List.append_nil]
            exact pure_is fun _ hs => ⟨rfl, hs⟩
      · rw [if_neg hprop, if_neg hprop]
        exact ih heard

/-- Where every value was told. -/
theorem telling_nil : telling dev heard g fd sfd [] = watch dev heard g fd sfd false := by
  simp [telling, watch, ready, asking, foundAt, linkedTo, idle]

/-- In the event loop, with everything told. -/
def Watching (dev : CString) (g : Gatt) (fd : ℕ) (sfd : Option ℕ) (stopped : Bool) (s : Vars)
    (m : Link) : Prop :=
  ∃ heard, Is (Running heard g fd !stopped) (watch dev heard g fd sfd stopped) s m

theorem dbusFilter_does (message : Message) :
    Does K env (Is (Running heard g fd true)
      (telling dev heard g fd sfd (heardIn g.pathInput (some message)))) (dbusFilter message)
      fun _ => Watching dev g fd sfd false := by
  have hkept : ∀ s m, Is (Running heard g fd true) (telling dev heard g fd sfd []) s m →
      Watching dev g fd sfd false s m := by
    rintro s m ⟨hm, hs⟩
    exact ⟨heard, hm.trans telling_nil, hs⟩
  cases message with
  | other => exact Obeys.pure hkept
  | propertiesChanged path iface changed =>
      unfold dbusFilter
      apply vars_is
      rintro s ⟨⟨-, rfl, -⟩, -⟩
      rw [heardIn]
      by_cases hchar : iface = ifaceGattChar
      · rw [if_pos hchar]
        by_cases hpath : path = s.gatt.pathInput
        · rw [if_pos hpath, if_pos ⟨hchar, hpath⟩]
          apply Obeys.conseq (takeValues_does changed heard)
          · rintro s' m ⟨hm, rfl, hs⟩
            exact ⟨hm, hs⟩
          · rintro _ s' m ⟨hm, hs⟩
            exact ⟨_, hm.trans telling_nil, hs⟩
        · rw [if_neg hpath, if_neg fun h => hpath h.2]
          apply pure_is
          rintro s' ⟨-, hs⟩
          exact hkept _ _ ⟨rfl, hs⟩
      · rw [if_neg hchar, if_neg fun h => hchar h.1]
        apply Obeys.ite
        · intro _
          apply Obeys.assign
          rintro s' m ⟨hm, -, ⟨hin, hgatt, hfd⟩, hrun⟩
          exact hkept _ _ ⟨hm, ⟨hin, hgatt, hfd⟩, hrun⟩
        · intro _
          apply pure_is
          rintro s' ⟨-, hs⟩
          exact hkept _ _ ⟨rfl, hs⟩

theorem processAll_does :
    Does K env (Watching dev g fd sfd false) processAll
      fun _ => Watching dev g fd sfd false := by
  unfold processAll
  refine Obeys.loop (I := fun _ => Watching dev g fd sfd false) (fun _ => ?_) ()
  apply Obeys.bind (S := fun (message : Option Message) s m => ∃ heard, Is (Running heard g fd true)
    (telling dev heard g fd sfd (heardIn g.pathInput message)) s m)
  · apply sys_does
    rintro message s m ⟨heard, rfl, hs⟩
    exact ⟨.process _ ⟨rfl, rfl, rfl, rfl⟩, heard, rfl, hs⟩
  · rintro (_ | message)
    · apply Obeys.pure
      rintro s m ⟨heard, hm, hs⟩
      exact ⟨heard, hm.trans telling_nil, hs⟩
    · apply Obeys.bind (S := fun _ => Watching dev g fd sfd false)
      · rintro w ⟨hf, heard, hm, hs⟩
        exact dbusFilter_does message w ⟨hf, hm, hs⟩
      · exact fun _ => Obeys.pure fun _ _ hm => hm

/-- One event of the device: at most one write. -/
theorem takeOutput_does :
    Does K env (Is (Running heard g fd true) (watch dev heard g fd sfd false))
      takeOutput fun _ => Is (Running heard g fd true) (watch dev heard g fd sfd false) := by
  unfold takeOutput
  apply vars_is
  rintro s ⟨⟨-, rfl, hfd⟩, -⟩
  rw [hfd]
  apply Obeys.bind (S := fun (ev : Option UhidEvent) => Is (Running heard s.gatt fd true)
    { watch dev heard s.gatt fd sfd false with
      rumble := if s.gatt.pathOutput = [] then none else rumbleOf ev })
  · apply sys_does
    rintro ev s' m ⟨rfl, rfl, hs⟩
    exact ⟨.read ev rfl rfl ⟨rfl, rfl, rfl, rfl⟩, rfl, hs⟩
  · intro ev
    cases hrumble : rumbleOf ev with
    | none =>
        rw [ite_self]
        exact pure_is fun _ hs => ⟨rfl, hs⟩
    | some rumble =>
        dsimp only
        by_cases hout : s.gatt.pathOutput = []
        · rw [if_pos hout, if_neg (not_not.mpr hout)]
          exact pure_is fun _ hs => ⟨rfl, hs⟩
        · rw [if_neg hout, if_pos hout]
          apply Obeys.bind (S := fun _ => Is (Running heard s.gatt fd true)
            (watch dev heard s.gatt fd sfd false))
          · exact sys_is (fun a => .rumble a rfl rfl rfl) fun _ => rfl
          · exact fun _ => pure_is fun _ hs => ⟨rfl, hs⟩

/-- What one iteration leaves: a signal may have been read. -/
theorem handleReady_does {uhid bus sig : Bool} :
    Does K env (Watching dev g fd sfd false) (handleReady sfd uhid bus sig)
      fun _ s m => ∃ stopped, Watching dev g fd sfd stopped s m := by
  unfold handleReady
  apply Obeys.bind (S := fun _ => Watching dev g fd sfd false)
  · apply Obeys.ite
    · rintro - w ⟨hf, heard, hm, hs⟩
      exact (takeOutput_does.post fun _ _ _ hm => ⟨heard, hm⟩) w ⟨hf, hm, hs⟩
    · exact fun _ => Obeys.pure fun _ _ hm => hm
  · intro _
    apply Obeys.bind (S := fun _ => Watching dev g fd sfd false)
    · exact Obeys.ite (fun _ => processAll_does) fun _ => Obeys.pure fun _ _ hm => hm
    · intro _
      apply Obeys.ite
      · rintro - w ⟨hf, heard, hm, hs⟩
        refine Obeys.bind (Q := Is (Running heard g fd true) (watch dev heard g fd sfd false))
          (S := fun _ => Is (Running heard g fd true) (watch dev heard g fd sfd true)) ?_
          (fun _ => ?_) w ⟨hf, hm, hs⟩
        · exact sys_is (fun a => .readSignal a ⟨rfl, rfl, rfl, rfl⟩) fun _ => rfl
        · apply Obeys.assign
          rintro s m ⟨hm, ⟨hin, hgatt, hfd⟩, -⟩
          exact ⟨true, heard, hm, ⟨hin, hgatt, hfd⟩, rfl⟩
      · exact fun _ => Obeys.pure fun _ _ hm => ⟨false, hm⟩

/-- The event loop was left. -/
def Left (dev : CString) (g : Gatt) (fd : ℕ) (s : Vars) (m : Link) : Prop :=
  ∃ heard stopped, Is (Running heard g fd !stopped)
    { ready dev heard g fd with stopped := stopped } s m

theorem eventLoop_does :
    Does K env (Is (InSession heard g fd) (ready dev heard g fd)) eventLoop
      fun _ => Left dev g fd := by
  unfold eventLoop
  apply Obeys.bind (S := fun (sfd : Option ℕ) => Is (InSession heard g fd)
    (watch dev heard g fd sfd false))
  · exact sys_is (fun a => .signalfd a rfl rfl rfl rfl) fun _ => rfl
  · intro sfd
    apply Obeys.bind (S := fun _ => Watching dev g fd sfd false)
    · apply Obeys.assign
      rintro s m ⟨hm, hin, hgatt, hfd⟩
      exact ⟨heard, hm, ⟨hin, hgatt, hfd⟩, rfl⟩
    · intro _
      apply Obeys.bind (S := fun _ s m => ∃ stopped, Watching dev g fd sfd stopped s m)
      · refine Obeys.pre (Obeys.loop
          (I := fun _ s m => ∃ stopped, Watching dev g fd sfd stopped s m) (fun revents => ?_)
          (false, false, false)) fun _ _ hm => ⟨false, hm⟩
        apply Obeys.vars_bind
        intro s
        apply Obeys.ite
        · intro _
          apply Obeys.pure
          rintro s' m ⟨rfl, hm⟩
          exact hm
        · intro hgo
          -- `running` says that no signal was read
          have hpre : ∀ s' m, (s' = s ∧ ∃ stopped, Watching dev g fd sfd stopped s m) →
              Watching dev g fd sfd false s' m := by
            rintro s' m ⟨rfl, stopped, heard, hm, hs⟩
            have hrunning := (not_not.mp hgo).1
            rw [hs.running] at hrunning
            cases stopped with
            | false => exact ⟨heard, hm, hs⟩
            | true => cases hrunning
          apply Obeys.bind (processAll_does.pre hpre)
          intro _
          apply Obeys.bind (S := fun _ => Watching dev g fd sfd false)
          · apply sys_does
            rintro a s' m ⟨heard, rfl, hs⟩
            exact ⟨.poll a ⟨rfl, rfl, rfl, rfl⟩, heard, rfl, hs⟩
          · intro polled
            apply Obeys.vars_bind
            intro s'
            apply Obeys.ite
            · intro _
              apply Obeys.pure
              rintro s'' m ⟨rfl, hm⟩
              exact ⟨false, hm⟩
            · intro _
              have hpolled : ∀ s'' m, (s'' = s' ∧ Watching dev g fd sfd false s' m) →
                  Watching dev g fd sfd false s'' m := by
                rintro s'' m ⟨rfl, hm⟩
                exact hm
              apply Obeys.bind (handleReady_does.pre hpolled)
              exact fun _ => Obeys.pure fun _ _ hm => hm
      · intro _
        apply sys_does
        rintro a s m ⟨stopped, heard, rfl, hs⟩
        exact ⟨.closeSignals a rfl ⟨rfl, rfl⟩, heard, stopped, rfl, hs⟩

/-- The variables behind a session. -/
structure Cleaned (heard : List Octets) (running : Bool) (s : Vars) : Prop where
  input : s.input = afterInputs heard
  uhidFd : s.uhidFd = none
  running : s.running = running

theorem cleanup_does {stopped : Bool} (hdev : dev ≠ []) :
    Does K env
      (Is (Running heard g fd !stopped) { ready dev heard g fd with stopped := stopped })
      (cleanup dev) fun _ => Is (Cleaned heard !stopped) (idle dev heard 0 stopped true) := by
  unfold cleanup
  apply vars_is
  intro s hs
  rw [hs.uhidFd, if_pos Option.isSome_some, if_pos hdev]
  apply Obeys.bind (S := fun _ => Is (Cleaned heard !stopped)
    { ready dev heard g fd with stopped := stopped, device := .gone, uhid := none })
  · apply Obeys.bind (S := fun _ => Is (Running heard g fd !stopped)
      { ready dev heard g fd with stopped := stopped, device := .gone })
    · unfold uhidDestroy
      apply Obeys.bind (S := fun _ => Is (Running heard g fd !stopped)
        { ready dev heard g fd with stopped := stopped, device := .gone })
      · apply sys_does
        rintro a s' m ⟨rfl, -, hs'⟩
        exact ⟨.destroy a rfl rfl rfl rfl ⟨rfl, rfl⟩, rfl, hs'⟩
      · exact fun _ => pure_is fun _ hs => ⟨rfl, hs⟩
    · intro _
      apply Obeys.bind (S := fun _ => Is (Running heard g fd !stopped)
        { ready dev heard g fd with stopped := stopped, device := .gone, uhid := none })
      · exact sys_is (fun a => .closeUhid a rfl rfl rfl) fun _ => rfl
      · exact fun _ => assign_is fun s hs => ⟨hs.input, rfl, hs.running⟩
  · intro _
    apply Obeys.bind (S := fun _ => Is (Cleaned heard !stopped) (idle dev heard 0 stopped true))
    · exact btDisconnect_does (l := { ready dev heard g fd with
        stopped := stopped, device := .gone, uhid := none }) rfl rfl rfl
    · exact fun _ => assign_is fun s hs => ⟨hs.input, hs.uhidFd, hs.running⟩

end listening

/-! ## The program -/

section program

variable {dev : CString}

/-- The next delay. -/
theorem next_delay (k : ℕ) :
    (if min 32 (2 ^ k) < 30 then min 32 (2 ^ k) * 2 else min 32 (2 ^ k)) =
      min 32 (2 ^ (k + 1)) := by
  by_cases hk : k < 5
  · have hcases : k = 0 ∨ k = 1 ∨ k = 2 ∨ k = 3 ∨ k = 4 := by omega
    rcases hcases with rfl | rfl | rfl | rfl | rfl <;> simp
  · have hpow : 32 ≤ 2 ^ k := Nat.pow_le_pow_right (n := 2) (by omega) (by omega : 5 ≤ k)
    rw [pow_succ, min_eq_left hpow, min_eq_left (by omega)]
    simp

/-- Between two attempts, with the next delay. -/
def Between (dev : CString) : Bool × ℕ → Vars → Link → Prop
  | (first, delay), s, m => ∃ heard k, Is (Rests heard) (idle dev heard k false !first) s m ∧
      delay = min 32 (2 ^ k) ∧ (first = true → k = 0)

/-- A session that began, up to the next attempt or to the end. -/
theorem session_does {heard : List Octets} {g : Gatt} {fd : ℕ} (hdev : dev ≠ []) :
    Does K env (Is (InSession heard g fd) (ready dev heard g fd)) (session dev)
      fun x => x.elim (Between dev)
        fun _ s m => ∃ heard, Is (Cleaned heard false) (idle dev heard 0 true true) s m := by
  unfold session
  apply Obeys.bind eventLoop_does
  intro _
  rintro w ⟨hf, heard, stopped, hm, hs⟩
  refine Obeys.bind (cleanup_does hdev) (fun _ => ?_) w ⟨hf, hm, hs⟩
  apply vars_is
  intro s hs
  rw [hs.running, hs.uhidFd]
  cases stopped with
  | true => exact pure_is fun _ hs => ⟨heard, rfl, hs.2⟩
  | false =>
      apply Obeys.bind (S := fun _ => Is (Cleaned heard true) (idle dev heard 0 false true))
      · apply sys_does
        rintro a s' m ⟨rfl, -, hs'⟩
        exact ⟨.closeNothing a ⟨rfl, rfl, rfl⟩ rfl, rfl, hs'⟩
      · intro _
        apply Obeys.bind (S := fun _ => Is (Cleaned heard true) (idle dev heard 0 false true))
        · exact assign_is fun s hs => ⟨hs.input, rfl, hs.running⟩
        · exact fun _ => pure_is fun s hs => ⟨heard, 0, ⟨rfl, hs.input⟩, rfl, fun _ => rfl⟩

/-- What follows a discovery: the connection is given up, and a signal was read if that is the
end. -/
theorem attend_does {heard : List Octets} {sleeps delay : ℕ} {g : Gatt} (hdev : dev ≠ []) :
    Does K env (Is (fun s => Rests heard s ∧ s.gatt = g) (foundAt dev heard sleeps g true))
      (attend K.room dev delay)
      fun x s m => ∃ heard k due, Is (Rests heard) (idle dev heard k x.isRight due) s m := by
  unfold attend
  apply Obeys.bind createInit_does
  rintro (_ | _)
  · exact Obeys.pure fun s m hm => ⟨heard, sleeps, true, hm⟩
  · rintro w ⟨hf, g, fd, hm, hs⟩
    apply (session_does hdev).post _ w ⟨hf, hm, hs⟩
    rintro (⟨first, delay⟩ | _) s m
    · rintro ⟨heard, k, hm, -⟩
      exact ⟨heard, k, !first, hm⟩
    · rintro ⟨heard, hm, hs⟩
      exact ⟨heard, 0, true, hm, hs.input⟩

theorem reconnectLoop_does (hwhole : K.whole = true) (hdev : dev ≠ []) :
    Does K env (Is (Rests []) (idle dev [] 0 false false))
      (reconnectLoop K.prior K.room dev)
      fun _ s m => ∃ heard, Is (Cleaned heard false) (idle dev heard 0 true true) s m := by
  unfold reconnectLoop
  refine Obeys.pre (Obeys.loop (I := Between dev) ?_ (true, 1)) fun s m hm =>
    ⟨[], 0, hm, rfl, fun _ => rfl⟩
  rintro ⟨first, delay⟩
  dsimp only
  apply Obeys.bind (S := fun _ s m => ∃ heard k,
    Is (Rests heard) (idle dev heard k false false) s m ∧
      (if ¬first ∧ delay < 30 then delay * 2 else delay) = min 32 (2 ^ k))
  · apply Obeys.ite
    · intro hfirst
      apply sys_does
      rintro a s m ⟨heard, k, ⟨rfl, hs⟩, rfl, -⟩
      have hdue : (idle dev heard k false !first).due = true := by
        rw [Bool.eq_false_iff.mpr hfirst]
        rfl
      refine ⟨.sleep a ⟨rfl, rfl, rfl⟩ rfl rfl hdue, heard, k + 1, ⟨rfl, hs⟩, ?_⟩
      rw [← next_delay k]
      simp [hfirst]
    · intro hfirst
      apply Obeys.pure
      rintro s m ⟨heard, k, hm, rfl, hk⟩
      rw [not_not.mp hfirst] at hm
      refine ⟨heard, k, hm, ?_⟩
      rw [if_neg fun h => hfirst h.1]
  · intro _
    rintro w ⟨hf, heard, k, hm, hdelay⟩
    rw [hdelay]
    refine Obeys.bind (Q := Is (Rests heard) (idle dev heard k false false))
      (connectInit_does hwhole hdev) (fun b => ?_) w ⟨hf, hm⟩
    cases b with
    | false => exact Obeys.pure fun s m hm => ⟨heard, k, hm, rfl, by simp⟩
    | true =>
        rintro w ⟨hf, g, fd, hm, hs⟩
        exact session_does hdev w ⟨hf, hm, hs⟩

theorem devPathOf_ne_nil {adapter a : CString} : devPathOf adapter a ≠ [] := by
  apply snprintf_ne_nil (by decide)
  simp

/-- The bus is given back. -/
def Closed (m : Link) : Prop := m.Idle ∧ m.bus = false

theorem unref_does {code : ℤ} (hwhole : K.whole = true) (h : l.Idle) (hbus : l.bus = true)
    (hcode : code = 0 → l.stopped = true) :
    Does K env (Is P l) (sys .unref >>= fun _ => pure code)
      fun code _ m => Closed m ∧ (code = 0 → m.stopped = true) := by
  apply Obeys.bind (S := fun _ => Is P { l with bus := false })
  · exact sys_is (fun a => .unref a hwhole h hbus) fun _ => rfl
  · exact fun _ => pure_is fun _ _ => ⟨⟨h, rfl⟩, hcode⟩

theorem main_does (hwhole : K.whole = true) :
    Does K env (Is (Rests []) {}) (main K.prior K.room (.run (some K.addr)))
      fun code _ m => Closed m ∧ (code = 0 → m.stopped = true) := by
  unfold main
  apply Obeys.bind (S := fun (b : Bool) => Is (Rests []) { bus := b })
  · exact sys_is (fun a => .openSystem a rfl) fun _ => rfl
  · rintro (_ | _)
    · exact pure_is fun _ _ => ⟨⟨⟨rfl, rfl, rfl⟩, rfl⟩, by simp⟩
    · apply Obeys.bind (S := fun (reply : Option (List Object)) => Is (Rests [])
        (reply.elim { bus := true } fun reply =>
          (adapterFind 128 reply).2.elim { bus := true } fun adapter =>
            idle (devPathOf adapter K.addr) [] 0 false false))
      · apply sys_is
        · exact fun a => .adapters a hwhole rfl
        · rintro (_ | reply)
          · rfl
          · show Link.objects K { bus := true } (some reply) = _
            simp only [Link.objects, Option.elim_some]
            cases (adapterFind 128 reply).2 <;> rfl
      · rintro (_ | reply)
        · exact unref_does hwhole ⟨rfl, rfl, rfl⟩ rfl (by simp)
        · simp only [Option.elim_some]
          cases (adapterFind 128 reply).2 with
          | none => exact unref_does hwhole ⟨rfl, rfl, rfl⟩ rfl (by simp)
          | some adapter =>
              apply Obeys.bind (reconnectLoop_does hwhole devPathOf_ne_nil)
              intro _
              apply Obeys.vars_bind
              intro s
              rintro w ⟨hf, rfl, heard, hm, hs⟩
              rw [hs.uhidFd]
              exact Obeys.bind (S := fun _ => Is (Cleaned heard false) _)
                (pure_is fun _ hs => ⟨rfl, hs⟩)
                (fun _ => unref_does hwhole ⟨rfl, rfl, rfl⟩ rfl fun _ => rfl) w ⟨hf, hm, hs⟩

end program

end Switch2Bt.DbusDaemon
