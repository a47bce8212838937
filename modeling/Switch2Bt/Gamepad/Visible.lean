import Switch2Bt.Codec.ReportCodec
import Switch2Bt.Gamepad.Uinput

/-!
# No stuck or spurious input

After an update that met no exception, the device shows that report and nothing else
(`updateUinput_visible`), and nothing undeclared is ever written (`updateWrites_declared`).
`gamepad_showsReport` states both over whole histories of reports and exceptions.
-/

namespace Switch2Bt

/-- A code and value the device declared: a key of its list with value 0 or 1, or an axis with a
value between its bounds. -/
def Capabilities.Declares (caps : Capabilities) : EvCode × ℤ → Prop
  | (.key k, v) => k ∈ caps.keys ∧ (v = 0 ∨ v = 1)
  | (.abs a, v) => ∃ info, (a, info) ∈ caps.axes ∧ info.min ≤ v ∧ v ≤ info.max

/-- The clamped image of a normalised stick value. -/
def clampAxis (v : ℚ) : ℤ := max (-32768) (min 32767 (pyInt (v * 32767)))

/-- The image of a stick under a normalised value, `0` for a missing stick. -/
def stickImage (stick : Option Stick) (norm : Stick → ℚ) : ℤ :=
  (stick.map fun s => clampAxis (norm s)).getD 0

/-- The device shows a report: each key says whether its button is pressed, the triggers follow
`zl` and `zr`, the sticks have the clamped images of the normalised values, Y negated. -/
structure ShowsReport (visible : EvCode → ℤ) (decoded : Report) : Prop where
  keys : ∀ p ∈ btnMap, visible (.key p.2) = if p.1 ∈ decoded.pressed then 1 else 0
  absZ : visible (.abs .absZ) = if Button.zl ∈ decoded.pressed then 255 else 0
  absRZ : visible (.abs .absRZ) = if Button.zr ∈ decoded.pressed then 255 else 0
  absX : visible (.abs .absX) = stickImage decoded.leftStick fun s => s.xNorm
  absY : visible (.abs .absY) = stickImage decoded.leftStick fun s => -s.yNorm
  absRX : visible (.abs .absRX) = stickImage decoded.rightStick fun s => s.xNorm
  absRY : visible (.abs .absRY) = stickImage decoded.rightStick fun s => -s.yNorm

/-- The mapper's axis value is the image of the stick. -/
theorem axisVal_eq_stickImage (stick : Option Stick) (key : Stick → ℚ) (invert : Bool) :
    axisVal stick key invert = stickImage stick fun s => if invert then -key s else key s := by
  cases stick with
  | none => rfl
  | some s => rfl

/-- Every button of the decoder has a key in the mapper, and every key of the mapper belongs to a
button of the decoder. -/
theorem btnMap_covers : ∀ name, name ∈ buttonMap.map (·.1) ↔ name ∈ btnMap.map (·.1) := by
  intro name
  cases name <;> decide

/-- The codes written by an update do not depend on the report. -/
theorem updateWrites_codes (decoded : Report) : (updateWrites decoded).map Prod.fst =
    btnMap.map (fun p => EvCode.key p.2) ++
      [.abs .absX, .abs .absY, .abs .absRX, .abs .absRY, .abs .absZ, .abs .absRZ] := by
  simp [updateWrites, keyWrites, axisWrites]

/-- An update writes each code once. -/
theorem updateWrites_nodup (decoded : Report) : ((updateWrites decoded).map Prod.fst).Nodup := by
  rw [updateWrites_codes]
  decide

/-- A stick axis stays inside the declared range. -/
theorem axisVal_range (stick : Option Stick) (key : Stick → ℚ) (invert : Bool) :
    -32768 ≤ axisVal stick key invert ∧ axisVal stick key invert ≤ 32767 := by
  cases stick with
  | none => simp [axisVal]
  | some s => exact ⟨le_max_left _ _, max_le (by omega) (min_le_left _ _)⟩

/-- Every write of an update is declared. -/
theorem updateWrites_declared (decoded : Report) :
    ∀ w ∈ updateWrites decoded, capabilities.Declares w := by
  intro w hw
  rw [updateWrites, List.mem_append, keyWrites, List.mem_map] at hw
  rcases hw with ⟨p, hp, rfl⟩ | hw
  · have hkey : ∀ p ∈ btnMap, p.2 ∈ capabilities.keys := by decide
    refine ⟨hkey p hp, ?_⟩
    split
    · exact Or.inr rfl
    · exact Or.inl rfl
  · have hstick : ∀ a ∈ [EvAbs.absX, .absY, .absRX, .absRY], (a, absAxis) ∈ capabilities.axes := by
      decide
    have htrig : ∀ a ∈ [EvAbs.absZ, .absRZ], (a, triggerAxis) ∈ capabilities.axes := by
      decide
    simp only [axisWrites, List.mem_cons, List.not_mem_nil, or_false] at hw
    rcases hw with rfl | rfl | rfl | rfl | rfl | rfl
    · exact ⟨absAxis, hstick _ (by decide), axisVal_range _ _ _⟩
    · exact ⟨absAxis, hstick _ (by decide), axisVal_range _ _ _⟩
    · exact ⟨absAxis, hstick _ (by decide), axisVal_range _ _ _⟩
    · exact ⟨absAxis, hstick _ (by decide), axisVal_range _ _ _⟩
    · refine ⟨triggerAxis, htrig _ (by decide), ?_⟩
      split <;> decide
    · refine ⟨triggerAxis, htrig _ (by decide), ?_⟩
      split <;> decide

/-- A complete update shows its report, whatever the device held before. -/
theorem updateUinput_visible {faults : ℕ → Buffered.Fault} {ui : UInput} {decoded : Report}
    (h : (updateUinput faults ui decoded).2 = true) :
    ShowsReport (updateUinput faults ui decoded).1.device.visible decoded := by
  have hvis : ∀ w ∈ updateWrites decoded,
      (updateUinput faults ui decoded).1.device.visible w.1 = w.2 := fun w hw =>
    Buffered.run_commit_visible (updateWrites_nodup decoded) h hw
  have habs : ∀ w ∈ axisWrites decoded,
      (updateUinput faults ui decoded).1.device.visible w.1 = w.2 := fun w hw =>
    hvis w (List.mem_append_right _ hw)
  simp only [axisWrites, List.mem_cons, List.not_mem_nil, or_false, forall_eq_or_imp, forall_eq,
    axisVal_eq_stickImage] at habs
  obtain ⟨hx, hy, hrx, hry, hz, hrz⟩ := habs
  refine ⟨fun p hp => ?_, hz, hrz, hx, hy, hrx, hry⟩
  exact hvis (.key p.2, if p.1 ∈ decoded.pressed then 1 else 0)
    (List.mem_append_left _ (List.mem_map.mpr ⟨p, hp, rfl⟩))

/-- The gamepad after a history of updates, each with its report and its exceptions. -/
def replay (history : List (Report × (ℕ → Buffered.Fault))) : UInput :=
  history.foldl (fun ui u => (updateUinput u.2 ui u.1).1) setupUinput

/-- The capability table is never changed. -/
theorem replay_caps (history : List (Report × (ℕ → Buffered.Fault))) :
    (replay history).caps = capabilities := by
  have hgen : ∀ ui : UInput, ui.caps = capabilities →
      (history.foldl (fun ui u => (updateUinput u.2 ui u.1).1) ui).caps = capabilities := by
    induction history with
    | nil => exact fun _ h => h
    | cons u history ih => exact fun ui h => ih _ h
  exact hgen setupUinput rfl

/-- **No stuck or spurious input.** After any history of reports and exceptions, an update that
completes leaves the visible state of its report alone, keys and buttons correspond, and every
code and value written was declared.
Source: `switch2d.py` `update_uinput`, `setup_uinput`, `BUTTON_MAP` -/
theorem gamepad_showsReport (history : List (Report × (ℕ → Buffered.Fault))) (decoded : Report)
    (faults : ℕ → Buffered.Fault) :
    ((updateUinput faults (replay history) decoded).2 = true →
      ShowsReport (updateUinput faults (replay history) decoded).1.device.visible decoded) ∧
    (∀ name, name ∈ buttonMap.map (·.1) ↔ name ∈ btnMap.map (·.1)) ∧
    (∀ k, EvCode.key k ∈ (updateWrites decoded).map Prod.fst) ∧
    (∀ w ∈ updateWrites decoded, (replay history).caps.Declares w) := by
  refine ⟨updateUinput_visible, btnMap_covers, fun k => ?_, fun w hw => ?_⟩
  · rw [updateWrites_codes]
    cases k <;> decide
  · rw [replay_caps]
    exact updateWrites_declared decoded w hw

/-- A report with `a` and `zl` pressed after one with `b`, whose update failed at the third call. -/
theorem gamepad_showsReport_after_failure :
    ShowsReport (updateUinput (fun _ => .none)
      (replay [(Report.ofFields [.b] (0, 0) (2048, 2048) 1 none,
        fun i => if i = 2 then .after else .none)])
      (Report.ofFields [.a, .zl] (2048, 4095) (2048, 0) 2 none)).1.device.visible
      (Report.ofFields [.a, .zl] (2048, 4095) (2048, 0) 2 none) :=
  (gamepad_showsReport _ _ _).1 (by decide)

end Switch2Bt
