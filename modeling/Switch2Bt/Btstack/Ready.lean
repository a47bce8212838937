import Switch2Bt.Btstack.Host

/-!
# Ready only when it is (`sw2d_btstack.c`)

The host moves on with each completion, and keeps what it found on another connection. It is `READY`
only on a connection whose service query returned the HID service, whose characteristic query
returned a report characteristic of it, and whose CCCD was written, in all runs whose completions
are those of the connection in `connection_handle`, come after what they are to complete was
returned, and in the last step succeed. After any other completion `READY` can be reached without
(`readyOnlyWhen_exact`).

`Sound` is what such runs keep of connections and observations, `Phase` what they keep of the
connection in `connection_handle` in each state.
-/

namespace Switch2Bt.Btstack

open Await Octets Scanners GattClient

/-! ## Statement -/

/-- In `READY` the current connection returned the HID service and a report characteristic of it,
and acknowledged the write of its CCCD. -/
def World.ReadyHolds (w : World) : Prop :=
  w.vars.state = .ready → ∃ l, w.current = some l ∧ ∃ s c,
    Obs.service l.id uuidHid s ∈ w.trace ∧ Obs.characteristic l.id s uuidReport c ∈ w.trace ∧
      Obs.completed l.id (.configure c) 0 ∈ w.trace

/-- A handle that was found on an earlier connection is used on a later one only if it was found
there too. -/
def FoundAgain (pre : List Obs) : Obs → Prop
  | .called (.discoverCharacteristicsForService _ s _) (some i) =>
      (∃ j < i, Obs.service j uuidHid s ∈ pre) → Obs.service i uuidHid s ∈ pre
  | .called (.listenForUpdates _ c) (some i) | .called (.writeConfiguration _ c) (some i) =>
      (∃ j < i, ∃ s, Obs.characteristic j s uuidReport c ∈ pre) →
        ∃ s, Obs.characteristic i s uuidReport c ∈ pre
  | _ => True

/-- The host is `READY` only when it is. -/
structure World.ReadyOnlyWhen (w : World) : Prop where
  ready : w.ReadyHolds
  again : Everywhere FoundAgain w.trace

/-- What a host that waits for a completion needs: it is one of the connection in
`connection_handle`, the service and the characteristic that are kept were returned there, and the
CCCD was written. -/
def Clean (w : World) : Event → Prop
  | .complete handle att =>
      match w.vars.state with
      | .w4ServiceResult => handle = w.vars.connectionHandle ∧
          ∃ i, w.stack.number handle = some i ∧ Obs.service i uuidHid w.vars.hidService ∈ w.trace
      | .w4CharacteristicResult => handle = w.vars.connectionHandle ∧
          ∃ i, w.stack.number handle = some i ∧ ∃ s,
            Obs.characteristic i s uuidReport w.vars.hidReportCharacteristic ∈ w.trace
      | .w4EnableNotificationsComplete => handle = w.vars.connectionHandle ∧ att = 0
      | _ => True
  | _ => True

/-! ## Invariants -/

/-- The connection of a result or a completion. -/
def Obs.link : Obs → Option ℕ
  | .service i _ _ | .characteristic i _ _ _ | .completed i _ _ => some i
  | _ => none

/-- The handles that are used on a connection were found there. -/
def OwnUse (pre : List Obs) : Obs → Prop
  | .called (.discoverCharacteristicsForService _ s _) (some i) => Obs.service i uuidHid s ∈ pre
  | .called (.listenForUpdates _ c) (some i) | .called (.writeConfiguration _ c) (some i) =>
      ∃ s, Obs.characteristic i s uuidReport c ∈ pre
  | _ => True

/-- What clean runs keep of connections and observations. -/
structure Sound (w : World) : Prop where
  numbered : w.stack.Numbered
  old : ∀ o ∈ w.trace, ∀ i, o.link = some i → i < w.stack.count
  query : ∀ {h i s u}, w.stack.links h = some ⟨i, some (.characteristics s u)⟩ →
    Obs.service i uuidHid s ∈ w.trace
  found : ∀ {i s u c}, Obs.characteristic i s u c ∈ w.trace → Obs.service i uuidHid s ∈ w.trace
  own : Everywhere OwnUse w.trace

/-- No characteristic was returned on a connection. -/
def World.Unprobed (w : World) (i : ℕ) : Prop := ∀ s u c, Obs.characteristic i s u c ∉ w.trace

/-- No write of a CCCD was completed on a connection. -/
def World.Unset (w : World) (i : ℕ) : Prop := ∀ c att, Obs.completed i (.configure c) att ∉ w.trace

/-- What clean runs keep of the connection in `connection_handle`, by state. -/
inductive Phase (w : World) : HostState → Prop
  | idle {st : HostState} : st = .w4Working ∨ st = .w4ScanResult ∨ st = .w4Connect → Phase w st
  | service {i : ℕ} : w.current = some ⟨i, some (.services uuidHid)⟩ → w.Unprobed i → w.Unset i →
      Phase w .w4ServiceResult
  | characteristic {i : ℕ} {s : Service} :
      w.current = some ⟨i, some (.characteristics s uuidReport)⟩ → w.Unset i →
      Phase w .w4CharacteristicResult
  | enable {i : ℕ} {s : Service} {c : Characteristic} :
      w.current = some ⟨i, some (.configure c)⟩ →
      Obs.characteristic i s uuidReport c ∈ w.trace → w.Unset i →
      Phase w .w4EnableNotificationsComplete
  | ready {l : Link Op} {s : Service} {c : Characteristic} : w.current = some l →
      Obs.service l.id uuidHid s ∈ w.trace → Obs.characteristic l.id s uuidReport c ∈ w.trace →
      Obs.completed l.id (.configure c) 0 ∈ w.trace → Phase w .ready

/-! ## What keeps the connections sound -/

section sound

variable {w : World} {handle : UInt16} {i : ℕ}

theorem Sound.init : Sound .init where
  numbered := Stack.init_numbered
  old _ h := absurd h List.not_mem_nil
  query h := nomatch h
  found h := absurd h List.not_mem_nil
  own := everywhere_nil

/-- The current connection is the one with its number. -/
theorem Sound.current_handle (h : Sound w) {op op' : Option Op}
    (hl : w.stack.links handle = some ⟨i, op⟩) (hcur : w.current = some ⟨i, op'⟩) :
    handle = w.vars.connectionHandle := by
  have hown : w.stack.number w.vars.connectionHandle = some i := Stack.number_eq hcur
  exact h.numbered.inj (Stack.number_eq hl) hown

theorem Sound.vars (h : Sound w) (g : Globals) : Sound { w with vars := g } :=
  ⟨h.numbered, h.old, h.query, h.found, h.own⟩

theorem Sound.emit (h : Sound w) {o : Obs} (hold : ∀ i, o.link = some i → i < w.stack.count)
    (hfound : ∀ i s u c, o = .characteristic i s u c → Obs.service i uuidHid s ∈ w.trace)
    (hown : OwnUse w.trace o) : Sound (w.emit o) where
  numbered := h.numbered
  old o' ho' := by
    rcases List.mem_append.mp ho' with ho' | ho'
    · exact h.old o' ho'
    · obtain rfl := List.mem_singleton.mp ho'
      exact hold
  query hl := List.mem_append_left _ (h.query hl)
  found hc := by
    rcases List.mem_append.mp hc with hc | hc
    · exact List.mem_append_left _ (h.found hc)
    · exact List.mem_append_left _ (hfound _ _ _ _ (List.mem_singleton.mp hc).symm)
  own := everywhere_snoc.mpr ⟨h.own, hown⟩

/-- The operation of a connection changes. -/
theorem Sound.setOp (h : Sound w) {op op' : Option Op} (hl : w.stack.links handle = some ⟨i, op⟩)
    (hop : ∀ s u, op' = some (.characteristics s u) → Obs.service i uuidHid s ∈ w.trace) :
    Sound (w.setLink handle (some ⟨i, op'⟩)) where
  numbered := h.numbered.same (Stack.setLink_sameNumbers op' hl)
  old := h.old
  query {h' j s u} hl' := by
    rw [Machine.setLink_stack, Stack.setLink_links] at hl'
    split_ifs at hl' with heq
    · cases hl'
      exact hop s u rfl
    · exact h.query hl'
  found := h.found
  own := h.own

theorem Sound.close (h : Sound w) : Sound (w.setLink handle none) where
  numbered := h.numbered.closeLink
  old := h.old
  query {h' j s u} hl' := by
    rw [Machine.setLink_stack, Stack.setLink_links] at hl'
    split_ifs at hl'
    exact h.query hl'
  found := h.found
  own := h.own

theorem Sound.openLink (h : Sound w) : Sound (w.openLink handle) := by
  have htrace : ∀ {o : Obs} {j}, o.link = some j → o ∈ (w.openLink handle).trace → o ∈ w.trace := by
    intro o j ho hmem
    rcases List.mem_append.mp hmem with hmem | hmem
    · exact hmem
    · obtain rfl := List.mem_singleton.mp hmem
      cases ho
  refine ⟨h.numbered.openLink, ?_, ?_, ?_, everywhere_snoc.mpr ⟨h.own, trivial⟩⟩
  · intro o ho j hj
    exact Nat.lt_succ_of_lt (h.old o (htrace hj ho) j hj)
  · intro h' j s u hl'
    by_cases heq : h' = handle
    · subst heq
      cases (Stack.openLink_links_self h' w.stack).symm.trans hl'
    · exact List.mem_append_left _ (h.query ((Function.update_of_ne heq _ _).symm.trans hl'))
  · intro j s u c hc
    exact List.mem_append_left _ (h.found (htrace rfl hc))

/-- A call of the host. -/
theorem Sound.perform (h : Sound w) {c : Call}
    (hown : OwnUse w.trace (.called c (c.handle.bind w.stack.number))) : Sound (w.perform c) := by
  rcases w.perform_cases c with ⟨accepted, heq⟩ | ⟨handle, i, op, hop, hhandle, hl, heq⟩
  · rw [heq]
    exact h.emit (fun i hi => nomatch hi) (fun i s u c hc => nomatch hc) hown
  · have hnumber : c.handle.bind w.stack.number = some i := by
      rw [show c.handle = some handle from hhandle, Option.bind_some, Stack.number_eq hl]
    rw [hnumber] at hown
    have hstarted : Sound (w.setLink handle (some ⟨i, some op⟩)) := by
      refine h.setOp hl ?_
      intro s u heq'
      cases heq'
      -- the only call that queries characteristics
      cases c with
      | discoverCharacteristicsForService handle' s' u' =>
          cases hop
          exact hown
      | _ => cases hop
    rw [heq]
    exact hstarted.emit (fun i hi => nomatch hi) (fun i s u c hc => nomatch hc) hown

end sound

/-! ## The phases -/

section phase

variable {w v : World} {i : ℕ}

/-- A call that starts nothing. -/
theorem perform_listen {handle : UInt16} {c : Characteristic} {op : Option Op}
    (hl : w.stack.links handle = some ⟨i, op⟩) : w.perform (.listenForUpdates handle c) =
      w.emit (.called (.listenForUpdates handle c) (some i)) := by
  rw [← Stack.number_eq hl]
  exact Machine.perform_of_starts_none rfl

/-- A call on a connection, with a handle that was found there. -/
theorem Sound.call (h : Sound w) {c : Call} {handle : UInt16} (hhandle : c.handle = some handle)
    (hnumber : w.stack.number handle = some i) (hown : OwnUse w.trace (.called c (some i))) :
    Sound (w.perform c) := by
  refine h.perform ?_
  rw [hhandle, Option.bind_some, hnumber]
  exact hown

/-- The calls that query the characteristics of a service that was found. -/
theorem Sound.query_calls (h : Sound w) {handle : UInt16} {s : Service} {op : Option Op}
    (g : Globals) (hl : w.stack.links handle = some ⟨i, op⟩)
    (hs : Obs.service i uuidHid s ∈ w.trace) :
    Sound (w.deliver (g, [.discoverCharacteristicsForService handle s uuidReport])) :=
  (h.vars g).call (c := .discoverCharacteristicsForService handle s uuidReport) rfl
    (Stack.number_eq hl) hs

/-- The calls that write the CCCD of a characteristic that was found. -/
theorem Sound.configure_calls (h : Sound w) {handle : UInt16} {s : Service} {c : Characteristic}
    {op : Option Op} (g : Globals) (hl : w.stack.links handle = some ⟨i, op⟩)
    (hc : Obs.characteristic i s uuidReport c ∈ w.trace) :
    Sound (w.deliver (g, [.listenForUpdates handle c, .writeConfiguration handle c])) := by
  have hlisten := (h.vars g).call (c := .listenForUpdates handle c) rfl
    (Stack.number_eq hl) ⟨s, hc⟩
  rw [deliver_two]
  rw [perform_listen (w := { w with vars := g }) hl] at hlisten ⊢
  exact hlisten.call rfl (Stack.number_eq hl) ⟨s, List.mem_append_left _ hc⟩

/-- An observation of a result keeps the phase, unless it is a characteristic of a connection that
queries services. -/
theorem Phase.emit {st : HostState} (h : Phase w st) (hcur : v.current = w.current) {o : Obs}
    (htrace : v.trace = w.trace ++ [o])
    (hchar : ∀ j s u c, o = .characteristic j s u c →
      w.current ≠ some ⟨j, some (.services uuidHid)⟩)
    (hset : ∀ j c att, o ≠ .completed j (.configure c) att) : Phase v st := by
  have hsub : ∀ {o'}, o' ∈ w.trace → o' ∈ v.trace := by
    intro o' ho'
    rw [htrace]
    exact List.mem_append_left _ ho'
  have hnew : ∀ {o'}, o' ∈ v.trace → o' ∈ w.trace ∨ o = o' := by
    intro o' ho'
    rw [htrace] at ho'
    exact (List.mem_append.mp ho').imp_right fun h => (List.mem_singleton.mp h).symm
  have hunset : ∀ {j}, w.Unset j → v.Unset j := by
    intro j hj c att hmem
    exact (hnew hmem).elim (hj c att) (hset j c att)
  cases h with
  | idle hst => exact .idle hst
  | service hl hunprobed hj =>
      refine .service (hcur.trans hl) ?_ (hunset hj)
      intro s u c hmem
      rcases hnew hmem with hmem | heq
      · exact hunprobed s u c hmem
      · exact hchar _ s u c heq hl
  | characteristic hl hj => exact .characteristic (hcur.trans hl) (hunset hj)
  | enable hl hc hj => exact .enable (hcur.trans hl) (hsub hc) (hunset hj)
  | ready hl hs hc hatt => exact .ready (hcur.trans hl) (hsub hs) (hsub hc) (hsub hatt)

end phase

/-! ## Steps -/

section step

variable {adIterator : Octets → List AdStructure} {w w' : World}

/-- A host that scans again. -/
theorem Sound.scan (h : Sound w) {g : Globals} {c c' : Call} (hc : c.handle = none)
    (hc' : c'.handle = none) : Sound (w.deliver (g, [c, c'])) := by
  have hown : ∀ {d : Call} {v : World}, d.handle = none →
      OwnUse v.trace (.called d (d.handle.bind v.stack.number)) := by
    intro d v hd
    rw [hd]
    cases d <;> trivial
  exact ((h.vars g).perform (hown hc)).perform (hown hc')

theorem Sound.completed (h : Sound w) {handle : UInt16} {i : ℕ} {op : Op} {att : UInt8}
    (hl : w.stack.links handle = some ⟨i, some op⟩) : Sound (w.completed handle i op att) := by
  have hnone : Sound (w.setLink handle (some ⟨i, none⟩)) := h.setOp hl fun s u heq => by cases heq
  exact hnone.emit (fun j hj => Option.some.inj hj ▸ h.numbered.link_lt hl)
    (fun j s u c heq => by cases heq) trivial

section own

variable {i : ℕ} {op : Op} {att : UInt8} {g : Globals}

/-- An own operation completes, and a query for characteristics starts. -/
theorem own_service {s : Service} (hw' : w' = (w.completed g.connectionHandle i op att).deliver
      (g, [.discoverCharacteristicsForService g.connectionHandle s uuidReport])) :
    w'.current = some ⟨i, some (.characteristics s uuidReport)⟩ ∧
      w'.trace = w.trace ++ [.completed i op att, .called
        (.discoverCharacteristicsForService g.connectionHandle s uuidReport) (some i)] := by
  have hidle := Machine.completed_links w g.connectionHandle i op att
  have hperform := Machine.perform_accepted
    (w := { w.completed g.connectionHandle i op att with vars := g })
    (c := .discoverCharacteristicsForService g.connectionHandle s uuidReport) rfl rfl hidle
  rw [hw', deliver_one, hperform]
  exact ⟨Stack.setLink_links_self .., List.append_assoc w.trace _ _⟩

/-- An own operation completes, and a write of a CCCD starts. -/
theorem own_characteristic {c : Characteristic}
    (hw' : w' = (w.completed g.connectionHandle i op att).deliver
      (g, [.listenForUpdates g.connectionHandle c, .writeConfiguration g.connectionHandle c])) :
    w'.current = some ⟨i, some (.configure c)⟩ ∧
      w'.trace = w.trace ++ [.completed i op att,
        .called (.listenForUpdates g.connectionHandle c) (some i),
        .called (.writeConfiguration g.connectionHandle c) (some i)] := by
  have hidle := Machine.completed_links w g.connectionHandle i op att
  have hlisten := perform_listen (c := c)
    (w := { w.completed g.connectionHandle i op att with vars := g }) hidle
  have hperform := Machine.perform_accepted
    (w := Machine.emit (.called (.listenForUpdates g.connectionHandle c) (some i))
      { w.completed g.connectionHandle i op att with vars := g })
    (c := .writeConfiguration g.connectionHandle c) rfl rfl hidle
  rw [hw', deliver_two, hlisten, hperform]
  refine ⟨Stack.setLink_links_self .., ?_⟩
  exact (List.append_assoc _ _ _).trans (List.append_assoc w.trace _ _)

end own

/-- No write of a CCCD is among some observations. -/
theorem World.Unset.append {i : ℕ} (h : w.Unset i) {os : List Obs} (hw' : w'.trace = w.trace ++ os)
    (hos : ∀ c att, Obs.completed i (.configure c) att ∉ os) : w'.Unset i := by
  intro c att hmem
  rw [hw'] at hmem
  exact (List.mem_append.mp hmem).elim (h c att) (hos c att)

/-- The completion of a query, and calls. -/
theorem World.Unset.query {i j : ℕ} (h : w.Unset i) {op : Op} {att : UInt8} {os : List Obs}
    (hop : ∀ c, op ≠ .configure c) (hw' : w'.trace = w.trace ++ .completed j op att :: os)
    (hos : ∀ o ∈ os, o.link = none) : w'.Unset i := by
  refine h.append hw' ?_
  intro c att' hmem
  rcases List.mem_cons.mp hmem with heq | hmem
  · cases heq
    exact hop c rfl
  · cases hos _ hmem

theorem link_inj {handle : UInt16} {i j : ℕ} {op op' : Op}
    (h : w.stack.links handle = some ⟨i, some op⟩)
    (h' : w.stack.links handle = some ⟨j, some op'⟩) : i = j ∧ op = op' := by
  simpa using h.symm.trans h'

section complete

variable {i : ℕ} {op : Op} {att : UInt8} {g : Globals}

theorem queryComplete_service (h : g.state = .w4ServiceResult) :
    handleGattClientEvent (.queryComplete att) g =
      ({ g with state := .w4CharacteristicResult },
        [.discoverCharacteristicsForService g.connectionHandle g.hidService uuidReport]) := by
  simp only [handleGattClientEvent, h]

theorem queryComplete_characteristic (h : g.state = .w4CharacteristicResult) :
    handleGattClientEvent (.queryComplete att) g =
      ({ g with state := .w4EnableNotificationsComplete },
        [.listenForUpdates g.connectionHandle g.hidReportCharacteristic,
          .writeConfiguration g.connectionHandle g.hidReportCharacteristic]) := by
  simp only [handleGattClientEvent, h]

theorem queryComplete_enable (h : g.state = .w4EnableNotificationsComplete) :
    handleGattClientEvent (.queryComplete att) g = ({ g with state := .ready }, []) := by
  simp only [handleGattClientEvent, h]

/-- The query for services has returned the service that is kept. -/
theorem complete_service (hS : Sound w) (hst : w.vars.state = .w4ServiceResult)
    (hl : w.current = some ⟨i, some op⟩) (hunset : w.Unset i) (hop : ∀ c, op ≠ .configure c)
    (hkept : Obs.service i uuidHid w.vars.hidService ∈ w.trace)
    (hw' : w' = (w.completed w.vars.connectionHandle i op att).deliver
      (handleGattClientEvent (.queryComplete att) w.vars)) :
    Sound w' ∧ Phase w' w'.vars.state := by
  rw [queryComplete_service hst] at hw'
  obtain ⟨hcur, htrace⟩ := own_service
    (g := { w.vars with state := .w4CharacteristicResult }) hw'
  constructor
  · rw [hw']
    exact (hS.completed hl).query_calls _ (Machine.completed_links w _ i op att)
      (List.mem_append_left _ hkept)
  · rw [hw', Machine.deliver_vars, ← hw']
    exact .characteristic hcur (hunset.query hop htrace (by simp [Obs.link]))

/-- The query for characteristics has returned the characteristic that is kept. -/
theorem complete_characteristic {s : Service} (hS : Sound w)
    (hst : w.vars.state = .w4CharacteristicResult)
    (hl : w.current = some ⟨i, some op⟩) (hunset : w.Unset i) (hop : ∀ c, op ≠ .configure c)
    (hkept : Obs.characteristic i s uuidReport w.vars.hidReportCharacteristic ∈ w.trace)
    (hw' : w' = (w.completed w.vars.connectionHandle i op att).deliver
      (handleGattClientEvent (.queryComplete att) w.vars)) :
    Sound w' ∧ Phase w' w'.vars.state := by
  rw [queryComplete_characteristic hst] at hw'
  obtain ⟨hcur, htrace⟩ := own_characteristic
    (g := { w.vars with state := .w4EnableNotificationsComplete }) hw'
  constructor
  · rw [hw']
    exact (hS.completed hl).configure_calls _ (Machine.completed_links w _ i op att)
      (List.mem_append_left _ hkept)
  · rw [hw', Machine.deliver_vars, ← hw']
    have hkept' := htrace ▸ List.mem_append_left _ hkept
    exact .enable hcur hkept' (hunset.query hop htrace (by simp [Obs.link]))

/-- The write of the CCCD succeeds. -/
theorem complete_enable {s : Service} {c : Characteristic} (hS : Sound w)
    (hst : w.vars.state = .w4EnableNotificationsComplete)
    (hl : w.current = some ⟨i, some (.configure c)⟩)
    (hc : Obs.characteristic i s uuidReport c ∈ w.trace)
    (hw' : w' = (w.completed w.vars.connectionHandle i (.configure c) 0).deliver
      (handleGattClientEvent (.queryComplete 0) w.vars)) :
    Sound w' ∧ Phase w' w'.vars.state := by
  rw [queryComplete_enable hst] at hw'
  subst hw'
  refine ⟨(hS.completed hl).vars _, ?_⟩
  rw [Machine.deliver_vars]
  exact .ready (Machine.completed_links w w.vars.connectionHandle i (.configure c) 0)
    (List.mem_append_left _ (hS.found hc)) (List.mem_append_left _ hc)
    (List.mem_append_right _ (List.mem_singleton_self _))

/-- A completion for which the host does not wait. -/
theorem complete_ignored {handle : UInt16} (hS : Sound w) (hP : Phase w w.vars.state)
    (hl : w.stack.links handle = some ⟨i, some op⟩)
    (hw' : w' = (w.completed handle i op att).deliver (w.vars, []))
    (hst : w.vars.state = .w4Working ∨ w.vars.state = .w4ScanResult ∨
      w.vars.state = .w4Connect ∨ w.vars.state = .ready) :
    Sound w' ∧ Phase w' w'.vars.state := by
  subst hw'
  refine ⟨(hS.completed hl).vars _, ?_⟩
  rw [Machine.deliver_vars]
  have htrace : ∀ {o}, o ∈ w.trace → o ∈ (w.completed handle i op att).trace :=
    fun ho => List.mem_append_left _ ho
  generalize w.vars.state = st at hP hst
  cases hP with
  | idle hidle => exact .idle hidle
  | service => simp at hst
  | characteristic => simp at hst
  | enable => simp at hst
  | @ready l s c hcur hs hc hset =>
      by_cases hown : handle = w.vars.connectionHandle
      · subst hown
        obtain rfl := Option.some.inj (hl.symm.trans hcur)
        exact .ready (Machine.completed_links w _ i op att) (htrace hs) (htrace hc) (htrace hset)
      · have hcur' : (w.completed handle i op att).current = some l :=
          (Machine.current_completed_other hown).trans hcur
        exact .ready hcur' (htrace hs) (htrace hc) (htrace hset)

/-- A clean completion keeps the invariants. -/
theorem complete_clean {handle : UInt16} (hS : Sound w) (hP : Phase w w.vars.state)
    (hC : Clean w (.complete handle att)) (hl : w.stack.links handle = some ⟨i, some op⟩)
    (hw' : w' = (w.completed handle i op att).deliver
      (handleGattClientEvent (.queryComplete att) w.vars)) :
    Sound w' ∧ Phase w' w'.vars.state := by
  have hphase := hP
  generalize hst : w.vars.state = st at hphase
  cases hphase with
  | idle hidle =>
      have hsame : handleGattClientEvent (.queryComplete att) w.vars = (w.vars, []) := by
        rcases hidle with rfl | rfl | rfl <;> simp only [handleGattClientEvent, hst]
      rw [hsame] at hw'
      refine complete_ignored hS hP hl hw' ?_
      rw [hst]
      tauto
  | ready =>
      have hsame : handleGattClientEvent (.queryComplete att) w.vars = (w.vars, []) := by
        simp only [handleGattClientEvent, hst]
      rw [hsame] at hw'
      exact complete_ignored hS hP hl hw' (.inr (.inr (.inr hst)))
  | service hcur _ hunset =>
      simp only [Clean, hst] at hC
      obtain ⟨rfl, j, hnumber, hkept⟩ := hC
      obtain ⟨rfl, rfl⟩ := link_inj hl hcur
      obtain rfl := Option.some.inj ((Stack.number_eq hl).symm.trans hnumber)
      exact complete_service hS hst hl hunset (fun c heq => by cases heq) hkept hw'
  | characteristic hcur hunset =>
      simp only [Clean, hst] at hC
      obtain ⟨rfl, j, hnumber, s, hkept⟩ := hC
      obtain ⟨rfl, rfl⟩ := link_inj hl hcur
      obtain rfl := Option.some.inj ((Stack.number_eq hl).symm.trans hnumber)
      exact complete_characteristic hS hst hl hunset (fun c heq => by cases heq) hkept hw'
  | enable hcur hc _ =>
      simp only [Clean, hst] at hC
      obtain ⟨rfl, rfl⟩ := hC
      obtain ⟨rfl, rfl⟩ := link_inj hl hcur
      exact complete_enable hS hst hl hc hw'

end complete

/-- The host scans again. -/
theorem scan_clean (h : Sound w) (g : Globals) :
    Sound (w.deliver (startScan g)) ∧
      Phase (w.deliver (startScan g)) (w.deliver (startScan g)).vars.state := by
  refine ⟨h.scan rfl rfl, ?_⟩
  rw [Machine.deliver_vars]
  exact .idle (.inr (.inl rfl))

/-- A new connection queries the services. -/
theorem connection_clean {handle : UInt16} (h : Sound w)
    (hw' : w' = (w.openLink handle).deliver
      ({ w.vars with connectionHandle := handle, state := .w4ServiceResult },
        [.discoverPrimaryServices handle uuidHid])) : Sound w' ∧ Phase w' w'.vars.state := by
  have hopen : (w.openLink handle).stack.links handle = some ⟨w.stack.count, none⟩ :=
    Stack.openLink_links_self ..
  have hperform := Machine.perform_accepted
    (w := { w.openLink handle with
      vars := { w.vars with connectionHandle := handle, state := .w4ServiceResult } })
    (c := .discoverPrimaryServices handle uuidHid) rfl rfl hopen
  have hopened : Sound (w.openLink handle) := h.openLink
  have hsound := hopened.vars
    { w.vars with connectionHandle := handle, state := .w4ServiceResult }
  rw [deliver_one, hperform] at hw'
  subst hw'
  have hnew : ∀ o : Obs, o.link = some w.stack.count →
      o ∉ (w.trace ++ [.connected w.stack.count handle]) ++
        [.called (.discoverPrimaryServices handle uuidHid) (some w.stack.count)] := by
    intro o ho hmem
    rcases List.mem_append.mp hmem with hmem | hmem
    · rcases List.mem_append.mp hmem with hmem | hmem
      · exact lt_irrefl _ (h.old o hmem _ ho)
      · obtain rfl := List.mem_singleton.mp hmem
        cases ho
    · obtain rfl := List.mem_singleton.mp hmem
      cases ho
  constructor
  · rw [← hperform]
    exact hsound.perform trivial
  · exact .service (Stack.setLink_links_self ..) (fun s u c => hnew _ rfl) fun c att => hnew _ rfl

/-- A clean step keeps the invariants. -/
theorem step_clean {e : Event} (hS : Sound w) (hP : Phase w w.vars.state) (hC : Clean w e)
    (hstep : w.step adIterator e = some w') : Sound w' ∧ Phase w' w'.vars.state := by
  cases e with
  | state working =>
      rw [← Option.some.inj hstep]
      cases working with
      | false => exact ⟨hS, hP⟩
      | true => exact scan_clean hS w.vars
  | advertising r =>
      rcases step_advertising hstep with rfl | ⟨g, hg, rfl⟩
      · exact ⟨hS, hP⟩
      · refine ⟨hS.scan rfl rfl, ?_⟩
        rw [Machine.deliver_vars]
        exact .idle (.inr (.inr hg))
  | connection status handle =>
      rcases step_connection hstep with rfl | ⟨-, hw'⟩
      · exact scan_clean hS w.vars
      · exact connection_clean hS hw'
  | disconnection handle =>
      obtain ⟨link, -, rfl⟩ := step_disconnection hstep
      have hclosed : Sound (w.setLink handle none) := hS.close
      have hemit := hclosed.emit (o := .disconnected link.id)
        (fun i hi => by cases hi) (fun i s u c hc => by cases hc) trivial
      exact scan_clean hemit w.vars
  | service handle s =>
      obtain ⟨i, u, hl, rfl⟩ := step_service hstep
      have hfound := hS.emit (o := .service i u s)
        (fun j hj => Option.some.inj hj ▸ hS.numbered.link_lt hl)
        (fun j s u c hc => by cases hc) trivial
      refine ⟨hfound.vars _, ?_⟩
      exact hP.emit rfl rfl (fun j s u c heq => by cases heq) fun j c att heq => by cases heq
  | characteristic handle c =>
      obtain ⟨i, s, u, hl, rfl⟩ := step_characteristic hstep
      have hfound := hS.emit (o := .characteristic i s u c)
        (fun j hj => Option.some.inj hj ▸ hS.numbered.link_lt hl)
        (fun j s' u' c' heq => by cases heq; exact hS.query hl) trivial
      refine ⟨hfound.vars _, ?_⟩
      refine hP.emit rfl rfl ?_ fun j c att heq => by cases heq
      intro j s' u' c' heq hcur
      cases heq
      -- the connection would run two operations
      obtain rfl := hS.current_handle hl hcur
      cases (link_inj hl hcur).2
  | complete handle att =>
      obtain ⟨i, op, hl, hw'⟩ := step_complete hstep
      exact complete_clean hS hP hC hl hw'
  | notification handle value =>
      unfold World.step at hstep
      dsimp only at hstep
      split at hstep
      · rw [← Option.some.inj hstep]
        exact ⟨hS, hP⟩
      · cases hstep

theorem Run.clean (h : Run adIterator Clean w) : Sound w ∧ Phase w w.vars.state := by
  induction h with
  | init => exact ⟨.init, .idle (.inl rfl)⟩
  | step _ hC hstep ih => exact step_clean ih.1 ih.2 hC hstep

/-- A handle that was found where it is used was found again. -/
theorem OwnUse.foundAgain {pre : List Obs} {o : Obs} (h : OwnUse pre o) : FoundAgain pre o := by
  cases o with
  | called c link =>
      cases link with
      | none => cases c <;> trivial
      | some i =>
          cases c with
          | discoverCharacteristicsForService handle s u => exact fun _ => h
          | listenForUpdates handle c => exact fun _ => h
          | writeConfiguration handle c => exact fun _ => h
          | _ => trivial
  | _ => trivial

/-- What a clean run reaches. -/
theorem Run.readyOnlyWhen (h : Run adIterator Clean w) : w.ReadyOnlyWhen := by
  obtain ⟨hS, hP⟩ := h.clean
  constructor
  · intro hready
    rw [hready] at hP
    cases hP with
    | idle hidle => simp at hidle
    | ready hcur hs hc hset => exact ⟨_, hcur, _, _, hs, hc, hset⟩
  · intro pre o post heq
    exact (hS.own pre o post heq).foundAgain

end step

end Switch2Bt.Btstack
