import Switch2Bt.Btstack.Ready

/-!
# No other completion is harmless (`sw2d_btstack.c`)

After clean steps any other completion can be followed to `READY` on a connection that is not:
the completions of what the connection in `connection_handle` runs, with success, lead there. A
`Doomed` world is one such completion before.
-/

namespace Switch2Bt.Btstack

open Octets Scanners AdStructure GattClient

section exact

variable {adIterator : Octets → List AdStructure} {w w' : World} {i j : ℕ} {op op' : Op}
  {handle : UInt16} {att : UInt8}

/-! ## One completion before -/

/-- The next completion is taken for that of a CCCD, and is not one of a characteristic that was
found. -/
def World.Doomed (w : World) : Prop :=
  w.vars.state = .w4EnableNotificationsComplete ∧ ∃ i op, w.current = some ⟨i, some op⟩ ∧
    w.Unset i ∧ ∀ c, op = .configure c → ∀ s, Obs.characteristic i s uuidReport c ∉ w.trace

/-- What the connection in `connection_handle` runs may succeed. -/
theorem step_own (hcur : w.current = some ⟨i, some op⟩) :
    w.step adIterator (.complete w.vars.connectionHandle 0) =
      some ((w.completed w.vars.connectionHandle i op 0).deliver
        (handleGattClientEvent (.queryComplete 0) w.vars)) := by
  have hl : w.stack.links w.vars.connectionHandle = some ⟨i, some op⟩ := hcur
  unfold World.step
  dsimp only
  rw [hl]

/-- A doomed world is followed by `READY` without its reasons. -/
theorem World.Doomed.next (adIterator : Octets → List AdStructure) (h : w.Doomed) :
    ∃ v, w.step adIterator (.complete w.vars.connectionHandle 0) = some v ∧ ¬v.ReadyHolds := by
  obtain ⟨hst, i, op, hcur, hunset, hop⟩ := h
  refine ⟨_, step_own hcur, ?_⟩
  rw [queryComplete_enable hst]
  intro hready
  obtain ⟨l, hl, s, c, -, hc, hatt⟩ := hready rfl
  obtain rfl := Option.some.inj
    ((Machine.completed_links w w.vars.connectionHandle i op 0).symm.trans hl)
  have hc' : Obs.characteristic i s uuidReport c ∈ w.trace := by
    rcases List.mem_append.mp hc with hc | hc
    · exact hc
    · cases List.mem_singleton.mp hc
  rcases List.mem_append.mp hatt with hatt | hatt
  · exact hunset c 0 hatt
  · cases List.mem_singleton.mp hatt
    exact hop c rfl s hc'

/-! ## Own completions -/

/-- The query for characteristics completes, and has not returned the characteristic that is
kept. -/
theorem doomed_own (hst : w.vars.state = .w4CharacteristicResult)
    (hop : ∀ c, op ≠ .configure c) (hunset : w.Unset i)
    (hkept : ∀ s, Obs.characteristic i s uuidReport w.vars.hidReportCharacteristic ∉ w.trace)
    (hw' : w' = (w.completed w.vars.connectionHandle i op att).deliver
      (handleGattClientEvent (.queryComplete att) w.vars)) : w'.Doomed := by
  rw [queryComplete_characteristic hst] at hw'
  obtain ⟨hcur', htrace⟩ := own_characteristic
    (g := { w.vars with state := .w4EnableNotificationsComplete }) hw'
  refine ⟨by rw [hw', Machine.deliver_vars], i, _, hcur',
    hunset.query hop htrace (by simp [Obs.link]), ?_⟩
  intro c hc s hmem
  cases hc
  rw [htrace] at hmem
  rcases List.mem_append.mp hmem with hmem | hmem
  · exact hkept s hmem
  · simp at hmem

/-- The host asks for characteristics while its connection runs something else, or in a service
that was not found there. -/
def World.Astray (w : World) : Prop :=
  w.vars.state = .w4CharacteristicResult ∧ ∃ i op, w.current = some ⟨i, some op⟩ ∧
    (∀ c, op ≠ .configure c) ∧ w.Unprobed i ∧ w.Unset i

/-- A host that is astray is doomed with the next completion. -/
theorem World.Astray.next (adIterator : Octets → List AdStructure) (h : w.Astray) :
    ∃ v, w.step adIterator (.complete w.vars.connectionHandle 0) = some v ∧ v.Doomed := by
  obtain ⟨hst, i, op, hcur, hop, hunprobed, hunset⟩ := h
  exact ⟨_, step_own hcur, doomed_own hst hop hunset (fun s => hunprobed s _ _) rfl⟩

/-- The query for services completes, and has not returned the service that is kept. -/
theorem astray_own (hst : w.vars.state = .w4ServiceResult) (hop : ∀ c, op ≠ .configure c)
    (hunprobed : w.Unprobed i) (hunset : w.Unset i)
    (hw' : w' = (w.completed w.vars.connectionHandle i op att).deliver
      (handleGattClientEvent (.queryComplete att) w.vars)) : w'.Astray := by
  rw [queryComplete_service hst] at hw'
  obtain ⟨hcur', htrace⟩ := own_service
    (g := { w.vars with state := .w4CharacteristicResult }) hw'
  refine ⟨by rw [hw', Machine.deliver_vars], i, _, hcur', (fun c hc => by cases hc), ?_,
    hunset.query hop htrace (by simp [Obs.link])⟩
  intro s u c hmem
  rw [htrace] at hmem
  rcases List.mem_append.mp hmem with hmem | hmem
  · exact hunprobed s u c hmem
  · simp at hmem

/-! ## Foreign completions -/

/-- Another connection completes no write of the own CCCD. -/
theorem foreign_unset (att : UInt8) (hS : Sound w) (hne : handle ≠ w.vars.connectionHandle)
    (hl : w.stack.links handle = some ⟨j, some op'⟩) (hcur : w.current = some ⟨i, some op⟩)
    (hunset : w.Unset i) : World.Unset (w.completed handle j op' att) i := by
  have htrace : (w.completed handle j op' att).trace = w.trace ++ [.completed j op' att] := rfl
  refine hunset.append htrace ?_
  intro c att' hmem
  cases List.mem_singleton.mp hmem
  exact hne (hS.current_handle hl hcur)

/-- The calls for characteristics have no effect on a connection that runs something else. -/
theorem foreign_service (hst : w.vars.state = .w4ServiceResult) (hS : Sound w)
    (hne : handle ≠ w.vars.connectionHandle) (hl : w.stack.links handle = some ⟨j, some op'⟩)
    (hcur : w.current = some ⟨i, some op⟩) (hop : ∀ c, op ≠ .configure c)
    (hunprobed : w.Unprobed i) (hunset : w.Unset i)
    (hw' : w' = (w.completed handle j op' att).deliver
      (handleGattClientEvent (.queryComplete att) w.vars)) : w'.Astray := by
  have hl' : (w.completed handle j op' att).stack.links w.vars.connectionHandle =
      some ⟨i, some op⟩ := (Machine.completed_links_of_ne hne.symm).trans hcur
  have hbusy := Machine.perform_busy
    (w := { w.completed handle j op' att with
      vars := { w.vars with state := .w4CharacteristicResult } })
    (c := .discoverCharacteristicsForService w.vars.connectionHandle w.vars.hidService
      uuidReport) rfl rfl hl'
  rw [queryComplete_service hst, deliver_one, hbusy] at hw'
  subst hw'
  refine ⟨rfl, i, op, hl', hop, ?_, ?_⟩
  · intro s u c hmem
    have hmem' : Obs.characteristic i s u c ∈ w.trace := by simpa [Machine.completed] using hmem
    exact hunprobed s u c hmem'
  · have hforeign := foreign_unset att hS hne hl hcur hunset
    exact hforeign.append rfl fun c att' hmem => by cases List.mem_singleton.mp hmem

/-- The calls for the CCCD have no effect on a connection that runs something else. -/
theorem foreign_characteristic (hst : w.vars.state = .w4CharacteristicResult) (hS : Sound w)
    (hne : handle ≠ w.vars.connectionHandle) (hl : w.stack.links handle = some ⟨j, some op'⟩)
    (hcur : w.current = some ⟨i, some op⟩) (hop : ∀ c, op ≠ .configure c) (hunset : w.Unset i)
    (hw' : w' = (w.completed handle j op' att).deliver
      (handleGattClientEvent (.queryComplete att) w.vars)) : w'.Doomed := by
  have hl' : (w.completed handle j op' att).stack.links w.vars.connectionHandle =
      some ⟨i, some op⟩ := (Machine.completed_links_of_ne hne.symm).trans hcur
  have hlisten := perform_listen (c := w.vars.hidReportCharacteristic)
    (w := { w.completed handle j op' att with
      vars := { w.vars with state := .w4EnableNotificationsComplete } }) hl'
  have hbusy := Machine.perform_busy
    (w := Machine.emit (.called (.listenForUpdates w.vars.connectionHandle
        w.vars.hidReportCharacteristic) (some i))
      { w.completed handle j op' att with
        vars := { w.vars with state := .w4EnableNotificationsComplete } })
    (c := .writeConfiguration w.vars.connectionHandle w.vars.hidReportCharacteristic) rfl rfl hl'
  rw [queryComplete_characteristic hst, deliver_two, hlisten, hbusy] at hw'
  subst hw'
  refine ⟨rfl, i, op, hl', ?_, fun c hc => absurd hc (hop c)⟩
  have hforeign := foreign_unset att hS hne hl hcur hunset
  exact (hforeign.append rfl fun c att' hmem => by cases List.mem_singleton.mp hmem).append rfl
    fun c att' hmem => by cases List.mem_singleton.mp hmem

/-- A write of the CCCD fails, or another connection completes something. -/
theorem enable_unclean (hst : w.vars.state = .w4EnableNotificationsComplete) (hS : Sound w)
    (hl : w.stack.links handle = some ⟨j, some op'⟩) (hcur : w.current = some ⟨i, some op⟩)
    (hunset : w.Unset i) (hbad : handle = w.vars.connectionHandle → att ≠ 0)
    (hw' : w' = (w.completed handle j op' att).deliver
      (handleGattClientEvent (.queryComplete att) w.vars)) : ¬w'.ReadyHolds := by
  rw [queryComplete_enable hst] at hw'
  subst hw'
  intro hready
  obtain ⟨l, hl', s, c, -, -, hatt⟩ := hready rfl
  by_cases hown : handle = w.vars.connectionHandle
  · subst hown
    obtain ⟨rfl, -⟩ := link_inj hl hcur
    obtain rfl := Option.some.inj
      ((Machine.completed_links w w.vars.connectionHandle j op' att).symm.trans hl')
    rcases List.mem_append.mp hatt with hatt | hatt
    · exact hunset c 0 hatt
    · cases List.mem_singleton.mp hatt
      exact hbad rfl rfl
  · have hcur' : (w.completed handle j op' att).current = some ⟨i, some op⟩ :=
      (Machine.current_completed_other hown).trans hcur
    obtain rfl := Option.some.inj (hcur'.symm.trans hl')
    exact foreign_unset att hS hown hl hcur hunset c 0 hatt

/-! ## Exactness -/

/-- An unclean completion is one for which the host waits, and leads astray. -/
theorem complete_unclean (hS : Sound w) (hP : Phase w w.vars.state)
    (hC : ¬Clean w (.complete handle att)) (hl : w.stack.links handle = some ⟨j, some op'⟩)
    (hw' : w' = (w.completed handle j op' att).deliver
      (handleGattClientEvent (.queryComplete att) w.vars)) :
    w'.Astray ∨ w'.Doomed ∨ ¬w'.ReadyHolds := by
  generalize hst : w.vars.state = st at hP
  cases hP with
  | idle hidle => exact absurd (by rcases hidle with rfl | rfl | rfl <;> simp only [Clean, hst]) hC
  | ready => exact absurd (by simp only [Clean, hst]) hC
  | @service i hcur hunprobed hunset =>
      left
      by_cases hown : handle = w.vars.connectionHandle
      · subst hown
        obtain ⟨rfl, rfl⟩ := link_inj hl hcur
        exact astray_own hst (fun c hc => by cases hc) hunprobed hunset hw'
      · exact foreign_service hst hS hown hl hcur (fun c hc => by cases hc) hunprobed hunset hw'
  | @characteristic i s hcur hunset =>
      right; left
      by_cases hown : handle = w.vars.connectionHandle
      · subst hown
        obtain ⟨rfl, rfl⟩ := link_inj hl hcur
        simp only [Clean, hst] at hC
        exact doomed_own hst (fun c hc => by cases hc) hunset
          (fun s' hkept => hC ⟨trivial, j, Stack.number_eq hl, s', hkept⟩) hw'
      · exact foreign_characteristic hst hS hown hl hcur (fun c hc => by cases hc) hunset hw'
  | @enable i s c hcur hc hunset =>
      right; right
      simp only [Clean, hst] at hC
      exact enable_unclean hst hS hl hcur hunset (fun hown hatt => hC ⟨hown, hatt⟩) hw'

/-- What is unclean after clean steps can be followed to `READY` without its reasons. -/
theorem step_unclean {e : Event} (h : Run adIterator Clean w) (hC : ¬Clean w e)
    (hstep : w.step adIterator e = some w') :
    ∃ es v, after (World.step adIterator) es w' = some v ∧ ¬v.ReadyHolds := by
  obtain ⟨hS, hP⟩ := h.clean
  have hdoomed : ∀ {u : World}, u.Doomed →
      ∃ es v, after (World.step adIterator) es u = some v ∧ ¬v.ReadyHolds := by
    intro u hu
    obtain ⟨v, hv, hready⟩ := hu.next adIterator
    exact ⟨[.complete u.vars.connectionHandle 0], v, by rw [after, hv]; rfl, hready⟩
  cases e with
  | complete handle att =>
      obtain ⟨j, op', hl, hw'⟩ := step_complete hstep
      rcases complete_unclean hS hP hC hl hw' with hastray | hbad | hready
      · obtain ⟨u, hu, hbad⟩ := hastray.next adIterator
        obtain ⟨es, v, hv, hready⟩ := hdoomed hbad
        exact ⟨.complete w'.vars.connectionHandle 0 :: es, v,
          by rw [after, hu, Option.bind_some, hv], hready⟩
      · exact hdoomed hbad
      · exact ⟨[], w', rfl, hready⟩
  | _ => exact absurd trivial hC

end exact

/-- **`READY` only when it is**, exactly as long as each completion for which the host waits is one
of the connection in `connection_handle` and comes after what it is to complete was returned, with
success for the CCCD.
Source: `sw2d_btstack.c` `handle_gatt_client_event`, `packet_handler` -/
theorem readyOnlyWhen_exact (adIterator : Octets → List AdStructure) :
    (∀ w, Run adIterator Clean w → w.ReadyOnlyWhen) ∧
      ∀ w e w', Run adIterator Clean w → w.step adIterator e = some w' → ¬Clean w e →
        ∃ es v, after (World.step adIterator) es w' = some v ∧ ¬v.ReadyHolds :=
  ⟨fun _ h => h.readyOnlyWhen, fun _ _ _ h hstep hC => step_unclean h hC hstep⟩

/-! ## Examples of runs -/

/-- The service of a characteristic that was returned. -/
def Obs.within : Obs → Option Service
  | .characteristic _ s _ _ => some s
  | _ => none

theorem exists_within {i : ℕ} {u : UInt16} {c : Characteristic} {os : List Obs} :
    (∃ o ∈ os, ∃ s, o.within = some s ∧ o = .characteristic i s u c) ↔
      ∃ s, Obs.characteristic i s u c ∈ os := by
  constructor
  · rintro ⟨o, ho, s, -, rfl⟩
    exact ⟨s, ho⟩
  · exact fun ⟨s, hs⟩ => ⟨_, hs, s, rfl, rfl⟩

/-- Clean events can be recognised. -/
instance (w : World) : (e : Event) → Decidable (Clean w e)
  | .complete handle att =>
      match hst : w.vars.state with
      | .w4ServiceResult => decidable_of_iff (handle = w.vars.connectionHandle ∧
          ∃ i ∈ w.stack.number handle, Obs.service i uuidHid w.vars.hidService ∈ w.trace)
          (by simp only [Clean, hst, Option.mem_def])
      | .w4CharacteristicResult => decidable_of_iff (handle = w.vars.connectionHandle ∧
          ∃ i ∈ w.stack.number handle, ∃ o ∈ w.trace, ∃ s ∈ o.within, o =
            .characteristic i s uuidReport w.vars.hidReportCharacteristic)
          (by simp only [Clean, hst, Option.mem_def, exists_within])
      | .w4EnableNotificationsComplete => decidable_of_iff
          (handle = w.vars.connectionHandle ∧ att = 0) (by simp only [Clean, hst])
      | .w4Working | .w4ScanResult | .w4Connect | .ready => .isTrue (by simp only [Clean, hst])
  | .state _ | .advertising _ | .connection .. | .disconnection _ | .service .. |
      .characteristic .. | .notification .. => .isTrue trivial

/-- The HID service of a controller. -/
def hidFound : Service where
  startGroupHandle := 0x0010
  endGroupHandle := 0x001F
  uuid128 := [0, 0, 0x18, 0x12, 0, 0, 0x10, 0, 0x80, 0, 0, 0x80, 0x5F, 0x9B, 0x34, 0xFB]

/-- Its report characteristic. -/
def reportFound : Characteristic where
  startHandle := 0x0011
  valueHandle := 0x0012
  endHandle := 0x0013
  properties := 0x0012
  uuid128 := [0, 0, 0x2A, 0x4D, 0, 0, 0x10, 0, 0x80, 0, 0, 0x80, 0x5F, 0x9B, 0x34, 0xFB]

/-- The controller is found, connects, and is asked for its services. -/
def connects : List Event := [.advertising (.of [idsAd]), .connection 0 0x40]

/-- Its services and characteristics are those of a HID host, and the CCCD is to be written. -/
def discovered : List Event :=
  [.service 0x40 hidFound, .complete 0x40 0, .characteristic 0x40 reportFound, .complete 0x40 0]

/-- `READY` on the first connection, and what a failed write of the CCCD makes of it. -/
theorem readyOnlyWhen_once :
    (∃ w, Run structures Clean w ∧ w.vars.state = .ready ∧ w.ReadyOnlyWhen) ∧
      ∃ w w' : World, w.step structures (.complete 0x40 0x0E) = some w' ∧
        ∃ es v, after (World.step structures) es w' = some v ∧ ¬v.ReadyHolds := by
  constructor
  · have hready : (through (World.step structures) Clean
        (.state true :: connects ++ discovered ++ [.complete 0x40 0]) .init).map
          (·.vars.state) = some .ready := by decide +kernel
    obtain ⟨w, hw, hstate⟩ := Option.map_eq_some_iff.mp hready
    have hrun : Run structures Clean w := Reached.init.through hw
    exact ⟨w, hrun, hstate, (readyOnlyWhen_exact structures).1 w hrun⟩
  · have hfailed : (through (World.step structures) Clean
        (.state true :: connects ++ discovered) .init).map (fun w => decide
          (¬Clean w (.complete 0x40 0x0E) ∧ (w.step structures (.complete 0x40 0x0E)).isSome)) =
        some true := by decide +kernel
    obtain ⟨w, hw, hfacts⟩ := Option.map_eq_some_iff.mp hfailed
    obtain ⟨hunclean, hstep⟩ := of_decide_eq_true hfacts
    obtain ⟨w', hw'⟩ := Option.isSome_iff_exists.mp hstep
    exact ⟨w, w', hw',
      (readyOnlyWhen_exact structures).2 w _ w' (Reached.init.through hw) hw' hunclean⟩

/-- The observation of a service. -/
def Obs.isService : Obs → Bool
  | .service .. => true
  | _ => false

/-- The second connection of a host that was `READY` has neither service nor characteristic. -/
def twice : List Event :=
  .state true :: connects ++ discovered ++ [.complete 0x40 0, .disconnection 0x40] ++ connects ++
    [.complete 0x40 0, .complete 0x40 0, .complete 0x40 0]

/-- It is `READY` all the same, on the handles of the first. -/
theorem readyOnlyWhen_twice_false :
    ¬∀ w, Run structures (fun _ _ => True) w → w.ReadyOnlyWhen := by
  intro h
  have hlast : (through (World.step structures) (fun _ _ => True) twice .init).map (fun w => decide
      (w.vars.state = .ready ∧ w.current.map Link.id = some 1 ∧
        ∀ o ∈ w.trace, o.link = some 1 → ¬o.isService)) = some true := by
    decide +kernel
  obtain ⟨w, hw, hfacts⟩ := Option.map_eq_some_iff.mp hlast
  obtain ⟨hstate, hcur, htrace⟩ := of_decide_eq_true hfacts
  obtain ⟨l, hl, s, c, hs, -⟩ := (h w (Reached.init.through hw)).ready hstate
  rw [hl] at hcur
  have hid : l.id = 1 := Option.some.inj hcur
  rw [hid] at hs
  exact htrace _ hs rfl rfl

end Switch2Bt.Btstack
