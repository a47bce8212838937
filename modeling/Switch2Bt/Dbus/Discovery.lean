import Mathlib.Data.List.Infix
import Switch2Bt.Dbus.ManagedObjects

/-!
# Discovery of the adapter and of the characteristics (`switch2-bt.c`)

`adapter_find` and `discover_gatt` read the objects of a reply in nested loops that share one result
variable. The end of the interfaces of an object sets it to `0`, and so does the end of the
properties of an interface: only the first object is read (`adapterFind_cons`), and of its
interfaces none behind the first one of a characteristic or a descriptor (`discoverGatt_gatt`).
Discovery is right on the replies where nothing else was to be found (`findsObjects_iff`).
-/

namespace Switch2Bt.Discovery

open Dbus

/-! ## Names -/

/-- Source: `switch2-bt.c` `IFACE_ADAPTER` -/
def ifaceAdapter : CString := "org.bluez.Adapter1".toList

/-- Source: `switch2-bt.c` `IFACE_GATTCHAR` -/
def ifaceGattChar : CString := "org.bluez.GattCharacteristic1".toList

/-- Source: `switch2-bt.c` `IFACE_GATTDESC` -/
def ifaceGattDesc : CString := "org.bluez.GattDescriptor1".toList

/-- The property that is read. -/
def propUuid : CString := "UUID".toList

/-- Source: `switch2-bt.c` `UUID_CH_INPUT` -/
def uuidInput : CString := "7492866c-ec3e-4619-8258-32755ffcc0f8".toList

/-- Source: `switch2-bt.c` `UUID_CH_OUTPUT` -/
def uuidOutput : CString := "cc483f51-9258-427d-a939-630c31f72b05".toList

/-- Source: `switch2-bt.c` `UUID_CH_CMD_OUT` -/
def uuidCmdOut : CString := "649d4ac9-8eb7-4e6c-af44-1ea54fe5f005".toList

/-- Source: `switch2-bt.c` `UUID_CH_CMD_DATA` -/
def uuidCmdData : CString := "3dacbc7e-6955-40b5-8eaf-6f9809e8b379".toList

/-- Source: `switch2-bt.c` `UUID_CH_RESP1` -/
def uuidResp1 : CString := "c765a961-d9d8-4d36-a20a-5315b111836a".toList

/-- Source: `switch2-bt.c` `UUID_CH_RESP2` -/
def uuidResp2 : CString := "506d9f7d-4278-4e95-a549-326ba77657e0".toList

/-- Source: `switch2-bt.c` `UUID_CH_WRITE5` -/
def uuidWrite5 : CString := "00c5af5d-1964-4e30-8f51-1956f96bd282".toList

/-- Source: `switch2-bt.c` `UUID_CH_RATEGO` -/
def uuidRatego : CString := "679d5510-5a24-4dee-9557-95df80486ecb".toList

/-- Source: `switch2-bt.c` `UUID_CH_CCC` -/
def uuidCcc : CString := "00002902-0000-1000-8000-00805f9b34fb".toList

def ENODEV : ℤ := 19

/-! ## The adapter -/

/-- The result, and what is written to `out`. The `return` inside leaves both loops, as a result
of `0` does.
Source: `switch2-bt.c` `adapter_find` -/
def adapterFind (sz : ℕ) (reply : List Object) : ℤ × Option CString :=
  let found := whileEntries (fun s o =>
    whileEntries (fun _ i => if i.name = ifaceAdapter then (0, some o.path) else (1, none))
      o.interfaces s) reply none
  match found.2 with
  | some p => (0, some (snprintf sz p))
  | none => (-ENODEV, none)

/-! ## The characteristics -/

/-- The paths that are kept; an empty one stands for none.
Source: `switch2-bt.c` `gatt_t` -/
structure Gatt where
  pathInput : CString := []
  pathCccInput : CString := []
  pathOutput : CString := []
  pathCmdOut : CString := []
  pathCmdData : CString := []
  pathResp1 : CString := []
  pathCccResp1 : CString := []
  pathResp2 : CString := []
  pathCccResp2 : CString := []
  pathWrite5 : CString := []
  pathRatedesc : CString := []
deriving DecidableEq, Repr

/-- The properties are read to the end, and the `UUID` among them is kept.
Source: `switch2-bt.c` `discover_gatt` (loops over properties) -/
def readUuid (properties : List Property) : ℤ × CString :=
  whileEntries (fun uuid p => (1, if p.name = propUuid then snprintf 64 p.value else uuid))
    properties []

/-- Source: `switch2-bt.c` `discover_gatt` (characteristics) -/
def Gatt.characteristic (g : Gatt) (uuid obj : CString) : Gatt :=
  if CaseEq uuid uuidInput then { g with pathInput := snprintf 128 obj }
  else if CaseEq uuid uuidOutput then { g with pathOutput := snprintf 128 obj }
  else if CaseEq uuid uuidCmdOut then { g with pathCmdOut := snprintf 128 obj }
  else if CaseEq uuid uuidCmdData then { g with pathCmdData := snprintf 128 obj }
  else if CaseEq uuid uuidResp1 then { g with pathResp1 := snprintf 128 obj }
  else if CaseEq uuid uuidResp2 then { g with pathResp2 := snprintf 128 obj }
  else if CaseEq uuid uuidWrite5 then { g with pathWrite5 := snprintf 128 obj }
  else if CaseEq uuid uuidRatego then { g with pathRatedesc := snprintf 128 obj }
  else g

/-- `path_input + strlen(path_input) - 5`. For a shorter path this points in front of the buffer,
and `prior` says what stands there. -/
def needle (prior : CString → CString) (pathInput : CString) : CString :=
  if 5 ≤ pathInput.length then pathInput.drop (pathInput.length - 5) else prior pathInput

/-- Source: `switch2-bt.c` `discover_gatt` (descriptors) -/
def Gatt.descriptor (prior : CString → CString) (g : Gatt) (uuid obj : CString) : Gatt :=
  if CaseEq uuid uuidCcc then
    if g.pathInput ≠ [] ∧ needle prior g.pathInput <:+: obj then
      { g with pathCccInput := snprintf 128 obj }
    else if g.pathResp1 ≠ [] then { g with pathCccResp1 := snprintf 128 obj }
    else if g.pathResp2 ≠ [] then { g with pathCccResp2 := snprintf 128 obj }
    else g
  else g

/-- Source: `switch2-bt.c` `discover_gatt` (loop over interfaces) -/
def Gatt.interface (prior : CString → CString) (obj : CString) (g : Gatt) (i : Interface) :
    ℤ × Gatt :=
  if i.name = ifaceGattChar then
    ((readUuid i.properties).1, g.characteristic (readUuid i.properties).2 obj)
  else if i.name = ifaceGattDesc then
    ((readUuid i.properties).1, g.descriptor prior (readUuid i.properties).2 obj)
  else (1, g)

/-- Source: `switch2-bt.c` `discover_gatt` (result) -/
def Gatt.result (g : Gatt) : ℤ := if g.pathInput = [] ∨ g.pathCmdData = [] then -ENODEV else 0

/-- The result and the paths.
Source: `switch2-bt.c` `discover_gatt` -/
def discoverGatt (prior : CString → CString) (reply : List Object) : ℤ × Gatt :=
  let g := (whileEntries (fun g o => whileEntries (Gatt.interface prior o.path) o.interfaces g)
    reply {}).2
  (g.result, g)

/-! ## Statement -/

/-- The `UUID` of an interface. -/
def uuidOf (i : Interface) : CString := (i.property propUuid).getD []

/-- An object with a characteristic of a given UUID. -/
def CarriesChar (o : Object) (uuid : CString) : Prop :=
  ∃ i ∈ o.interfaces, i.name = ifaceGattChar ∧ CaseEq (uuidOf i) uuid

instance (o : Object) (uuid : CString) : Decidable (CarriesChar o uuid) :=
  inferInstanceAs (Decidable (∃ i ∈ _, _))

/-- The UUIDs of the characteristics, and where the path of each is kept. -/
def charFields : List (CString × (Gatt → CString)) := [
  (uuidInput, Gatt.pathInput), (uuidOutput, Gatt.pathOutput), (uuidCmdOut, Gatt.pathCmdOut),
  (uuidCmdData, Gatt.pathCmdData), (uuidResp1, Gatt.pathResp1), (uuidResp2, Gatt.pathResp2),
  (uuidWrite5, Gatt.pathWrite5), (uuidRatego, Gatt.pathRatedesc)]

/-- The adapter is found wherever it stands. -/
structure AdapterFound (sz : ℕ) (reply : List Object) : Prop where
  result : (adapterFind sz reply).1 = 0 ↔ ∃ o ∈ reply, o.Implements ifaceAdapter
  path : ∀ o, reply.find? (·.Implements ifaceAdapter) = some o →
    (adapterFind sz reply).2 = some o.path

/-- The characteristics are found wherever they stand. -/
structure GattFound (prior : CString → CString) (reply : List Object) : Prop where
  result : (discoverGatt prior reply).1 = 0 ↔
    (∃ o ∈ reply, CarriesChar o uuidInput) ∧ ∃ o ∈ reply, CarriesChar o uuidCmdData
  empty : ∀ f ∈ charFields,
    f.2 (discoverGatt prior reply).2 = [] ↔ ¬∃ o ∈ reply, CarriesChar o f.1
  path : ∀ f ∈ charFields, f.2 (discoverGatt prior reply).2 ≠ [] →
    ∃ o ∈ reply, CarriesChar o f.1 ∧ f.2 (discoverGatt prior reply).2 = o.path

/-- No object is an adapter, or the first one is, and its path fits. -/
def AdapterFirst (sz : ℕ) (reply : List Object) : Prop :=
  (∀ o ∈ reply, ¬o.Implements ifaceAdapter) ∨
    ∃ o rest, reply = o :: rest ∧ o.Implements ifaceAdapter ∧ o.path.length < sz

/-- A characteristic or a descriptor. -/
def IsGatt (i : Interface) : Prop := i.name = ifaceGattChar ∨ i.name = ifaceGattDesc

instance (i : Interface) : Decidable (IsGatt i) := inferInstanceAs (Decidable (_ ∨ _))

/-- The first interface of GATT in the first object is a characteristic of a given UUID. -/
def LeadsWith (reply : List Object) (o : Object) (uuid : CString) : Prop :=
  reply.head? = some o ∧ ∃ i, o.interfaces.find? (IsGatt ·) = some i ∧ i.name = ifaceGattChar ∧
    CaseEq (uuidOf i) uuid

/-- Each UUID that an object has is the one the reply leads with, and the path, as far as it fits,
is that of an object with it. -/
def GattFirst (reply : List Object) : Prop :=
  ∀ f ∈ charFields, (∃ o ∈ reply, CarriesChar o f.1) →
    ∃ o, LeadsWith reply o f.1 ∧ ∃ o' ∈ reply, CarriesChar o' f.1 ∧ snprintf 128 o.path = o'.path

/-! ## The loops -/

/-- Only the first object is looked at.
Source: `switch2-bt.c` `adapter_find` -/
theorem adapterFind_cons (sz : ℕ) (o : Object) (rest : List Object) :
    adapterFind sz (o :: rest) =
      if o.Implements ifaceAdapter then (0, some (snprintf sz o.path)) else (-ENODEV, none) := by
  rw [adapterFind, whileEntries_nested (fun o _ i => if i.name = ifaceAdapter then
    (0, some o.path) else (1, none)) Object.interfaces,
    whileEntries_find (p := fun i => i.name = ifaceAdapter)
      (fun i h => if_neg (of_decide_eq_false h)) (fun i h => by rw [if_pos (of_decide_eq_true h)])]
  cases h : o.interfaces.find? (fun i => i.name = ifaceAdapter) with
  | none =>
      rw [if_neg fun ⟨i, hi, hname⟩ => List.find?_eq_none.mp h i hi (decide_eq_true hname)]
      rfl
  | some i =>
      have hname : i.name = ifaceAdapter := by simpa using List.find?_some h
      rw [if_pos ⟨i, List.mem_of_find?_eq_some h, hname⟩, Option.map_some, if_pos hname]
      rfl

/-- The properties are read to the end, and the `UUID` is kept as far as it fits.
Source: `switch2-bt.c` `discover_gatt` (loops over properties) -/
theorem readUuid_eq (i : Interface) : readUuid i.properties = (0, snprintf 64 (uuidOf i)) := by
  rw [readUuid, whileEntries_all fun _ _ => rfl, foldl_property, uuidOf]
  cases i.property propUuid <;> rfl

/-- Any interface of GATT ends the loop. -/
theorem interface_of_isGatt (prior : CString → CString) (obj : CString) (g : Gatt) {i : Interface}
    (h : IsGatt i) : (g.interface prior obj i).1 = 0 := by
  rw [Gatt.interface, readUuid_eq]
  rcases h with h | h
  · rw [if_pos h]
  · split_ifs <;> rfl

theorem interface_of_not_isGatt (prior : CString → CString) (obj : CString) (g : Gatt)
    {i : Interface} (h : ¬IsGatt i) : g.interface prior obj i = (1, g) := by
  rw [IsGatt, not_or] at h
  rw [Gatt.interface, if_neg h.1, if_neg h.2]

/-- Only the first interface of GATT in the first object is read.
Source: `switch2-bt.c` `discover_gatt` -/
theorem discoverGatt_cons (prior : CString → CString) (o : Object) (rest : List Object) :
    (discoverGatt prior (o :: rest)).2 =
      (((o.interfaces.find? (IsGatt ·)).map (Gatt.interface prior o.path {})).getD (0, {})).2 := by
  have hloop : whileEntries (Gatt.interface prior o.path) o.interfaces {} =
      ((o.interfaces.find? (IsGatt ·)).map (Gatt.interface prior o.path {})).getD (0, {}) :=
    whileEntries_find (fun i h => interface_of_not_isGatt prior o.path {} (of_decide_eq_false h))
      (fun i h => Int.le_of_eq (interface_of_isGatt prior o.path {} (of_decide_eq_true h)))
      o.interfaces
  rw [discoverGatt, whileEntries_nested (fun o => Gatt.interface prior o.path) Object.interfaces,
    hloop]

/-- No two UUIDs are equal. -/
theorem charFields_distinct :
    (charFields.map Prod.fst).Pairwise fun uuid uuid' => ¬CaseEq uuid uuid' := by decide +kernel

theorem mem_charFields {f : CString × (Gatt → CString)} (hf : f ∈ charFields) :
    f = (uuidInput, Gatt.pathInput) ∨ f = (uuidOutput, Gatt.pathOutput) ∨
      f = (uuidCmdOut, Gatt.pathCmdOut) ∨ f = (uuidCmdData, Gatt.pathCmdData) ∨
      f = (uuidResp1, Gatt.pathResp1) ∨ f = (uuidResp2, Gatt.pathResp2) ∨
      f = (uuidWrite5, Gatt.pathWrite5) ∨ f = (uuidRatego, Gatt.pathRatedesc) := by
  simpa only [charFields, List.mem_cons, List.not_mem_nil, or_false] using hf

theorem charFields_init {f : CString × (Gatt → CString)} (hf : f ∈ charFields) : f.2 {} = [] := by
  rcases mem_charFields hf with rfl | rfl | rfl | rfl | rfl | rfl | rfl | rfl <;> rfl

/-- The buffer has room for every UUID. -/
theorem charFields_caseEq {f : CString × (Gatt → CString)} (hf : f ∈ charFields) {uuid : CString} :
    CaseEq (snprintf 64 uuid) f.1 ↔ CaseEq uuid f.1 := by
  have hlen : ∀ t ∈ charFields.map Prod.fst, t.length + 1 < 64 := by decide +kernel
  exact caseEq_snprintf_iff (hlen _ (List.mem_map_of_mem hf))

/-- A characteristic sets the field of its UUID. -/
theorem characteristic_field {f : CString × (Gatt → CString)} (hf : f ∈ charFields) (g : Gatt)
    (uuid obj : CString) :
    f.2 (g.characteristic uuid obj) = if CaseEq uuid f.1 then snprintf 128 obj else f.2 g := by
  have hdistinct := charFields_distinct
  simp only [charFields, List.map_cons, List.map_nil, List.pairwise_cons, List.mem_cons,
    List.not_mem_nil, forall_eq_or_imp, or_false, forall_eq] at hdistinct
  by_cases h : CaseEq uuid f.1
  · -- the comparisons before the one that holds are with other UUIDs
    have hkey : ∀ t, CaseEq uuid t ↔ CaseEq t f.1 :=
      fun t => ⟨fun ht => ht.symm.trans h, fun ht => h.trans ht.symm⟩
    rw [if_pos h, Gatt.characteristic]
    simp only [hkey, apply_ite f.2]
    rcases mem_charFields hf with rfl | rfl | rfl | rfl | rfl | rfl | rfl | rfl <;>
      simp only [hdistinct, CaseEq.refl, if_true, if_false]
  · rw [if_neg h, Gatt.characteristic]
    simp only [apply_ite f.2]
    rcases mem_charFields hf with rfl | rfl | rfl | rfl | rfl | rfl | rfl | rfl <;>
      simp only [h, if_false, ite_self]

/-- A descriptor behind no characteristic changes nothing. -/
theorem descriptor_empty (prior : CString → CString) (uuid obj : CString) :
    Gatt.descriptor prior {} uuid obj = {} := by
  simp [Gatt.descriptor]

theorem leadsWith_carries {reply : List Object} {o : Object} {uuid : CString}
    (h : LeadsWith reply o uuid) : o ∈ reply ∧ CarriesChar o uuid := by
  obtain ⟨hhead, i, hi, hname, huuid⟩ := h
  exact ⟨List.mem_of_head? hhead, i, List.mem_of_find?_eq_some hi, hname, huuid⟩

/-- A reply leads with one UUID. -/
theorem leadsWith_unique {reply : List Object} {o o' : Object} {uuid uuid' : CString}
    (h : LeadsWith reply o uuid) (h' : LeadsWith reply o' uuid') : o = o' ∧ CaseEq uuid uuid' := by
  obtain ⟨hhead, i, hi, -, huuid⟩ := h
  obtain ⟨hhead', i', hi', -, huuid'⟩ := h'
  obtain rfl := Option.some.inj (hhead.symm.trans hhead')
  obtain rfl := Option.some.inj (hi.symm.trans hi')
  exact ⟨rfl, huuid.symm.trans huuid'⟩

/-- What the first object gives a field.
Source: `switch2-bt.c` `discover_gatt` -/
theorem discoverGatt_field (prior : CString → CString) (reply : List Object)
    {f : CString × (Gatt → CString)} (hf : f ∈ charFields) :
    (∃ o, LeadsWith reply o f.1 ∧ f.2 (discoverGatt prior reply).2 = snprintf 128 o.path) ∨
      ((∀ o, ¬LeadsWith reply o f.1) ∧ f.2 (discoverGatt prior reply).2 = []) := by
  have hinit := charFields_init hf
  cases reply with
  | nil => exact .inr ⟨fun o h => (List.not_mem_nil (leadsWith_carries h).1).elim, hinit⟩
  | cons o rest =>
      rw [discoverGatt_cons]
      cases hfind : o.interfaces.find? (IsGatt ·) with
      | none =>
          refine .inr ⟨?_, hinit⟩
          rintro o' ⟨hhead, i, hi, -⟩
          obtain rfl := Option.some.inj hhead
          cases hfind.symm.trans hi
      | some i =>
          -- what is read is this interface
          have honly : ∀ o', LeadsWith (o :: rest) o' f.1 →
              i.name = ifaceGattChar ∧ CaseEq (uuidOf i) f.1 := by
            rintro o' ⟨hhead, i', hi', hname, huuid⟩
            obtain rfl := Option.some.inj hhead
            obtain rfl := Option.some.inj (hfind.symm.trans hi')
            exact ⟨hname, huuid⟩
          rw [Option.map_some, Option.getD_some, Gatt.interface, readUuid_eq]
          by_cases hname : i.name = ifaceGattChar
          · rw [if_pos hname, characteristic_field hf]
            by_cases huuid : CaseEq (uuidOf i) f.1
            · rw [if_pos ((charFields_caseEq hf).mpr huuid)]
              exact .inl ⟨o, ⟨rfl, i, hfind, hname, huuid⟩, rfl⟩
            · rw [if_neg fun h => huuid ((charFields_caseEq hf).mp h)]
              exact .inr ⟨fun o' h => huuid (honly o' h).2, hinit⟩
          · refine .inr ⟨fun o' h => hname (honly o' h).1, ?_⟩
            rw [if_neg hname, descriptor_empty]
            split_ifs <;> exact hinit

/-- No reply sets both the field for the input and the one for the command data. -/
theorem discoverGatt_fails (prior : CString → CString) (reply : List Object) :
    (discoverGatt prior reply).1 = -ENODEV := by
  refine if_pos ?_
  rcases discoverGatt_field prior reply (f := (uuidInput, Gatt.pathInput)) (by simp [charFields])
    with ⟨o, hlead, -⟩ | ⟨-, hempty⟩
  · rcases discoverGatt_field prior reply (f := (uuidCmdData, Gatt.pathCmdData))
      (by simp [charFields]) with ⟨o', hlead', -⟩ | ⟨-, hempty⟩
    · exact absurd (leadsWith_unique hlead hlead').2 (by decide +kernel)
    · exact .inr hempty
  · exact .inl hempty

/-! ## What is found -/

theorem adapterFound_iff (sz : ℕ) (reply : List Object) :
    AdapterFound sz reply ↔ AdapterFirst sz reply := by
  cases reply with
  | nil =>
      refine iff_of_true ⟨?_, ?_⟩ (.inl ?_)
      · simp [adapterFind, whileEntries, ENODEV]
      · simp
      · simp
  | cons o rest =>
      by_cases ho : o.Implements ifaceAdapter
      · have hfind : adapterFind sz (o :: rest) = (0, some (snprintf sz o.path)) := by
          rw [adapterFind_cons, if_pos ho]
        have hfirst : (o :: rest).find? (·.Implements ifaceAdapter) = some o :=
          List.find?_cons_of_pos (decide_eq_true ho)
        constructor
        · intro h
          have hpath := h.path o hfirst
          rw [hfind] at hpath
          exact .inr ⟨o, rest, rfl, ho,
            (snprintf_eq_self_iff o.path_ne_nil).mp (Option.some.inj hpath)⟩
        · rintro (hnone | ⟨o', rest', heq, -, hfits⟩)
          · exact absurd ho (hnone o List.mem_cons_self)
          · obtain ⟨rfl, rfl⟩ := List.cons.inj heq
            refine ⟨iff_of_true (by rw [hfind]) ⟨o, List.mem_cons_self, ho⟩, ?_⟩
            intro o' ho'
            obtain rfl := Option.some.inj (hfirst.symm.trans ho')
            rw [hfind, snprintf_eq_self hfits]
      · have hfind : adapterFind sz (o :: rest) = (-ENODEV, none) := by
          rw [adapterFind_cons, if_neg ho]
        constructor
        · intro h
          left
          intro o' ho' himp
          have hresult := h.result.mpr ⟨o', ho', himp⟩
          rw [hfind] at hresult
          exact absurd hresult (by decide)
        · rintro (hnone | ⟨o', rest', heq, himp, -⟩)
          · refine ⟨iff_of_false (by rw [hfind]; decide) ?_, ?_⟩
            · rintro ⟨o', ho', himp⟩
              exact hnone o' ho' himp
            · intro o' ho'
              exact absurd (by simpa using List.find?_some ho')
                (hnone o' (List.mem_of_find?_eq_some ho'))
          · obtain ⟨rfl, rfl⟩ := List.cons.inj heq
            exact absurd himp ho

theorem gattFound_iff (prior : CString → CString) (reply : List Object) :
    GattFound prior reply ↔ GattFirst reply := by
  constructor
  · intro h f hf hcarried
    rcases discoverGatt_field prior reply hf with ⟨o, hlead, hpath⟩ | ⟨-, hempty⟩
    · have hne : f.2 (discoverGatt prior reply).2 ≠ [] := by
        rw [hpath]
        exact snprintf_ne_nil (by decide) o.path_ne_nil
      obtain ⟨o', ho', hcarries, heq⟩ := h.path f hf hne
      exact ⟨o, hlead, o', ho', hcarries, hpath.symm.trans heq⟩
    · exact absurd hcarried ((h.empty f hf).mp hempty)
  · intro h
    refine ⟨?_, ?_, ?_⟩
    · rw [discoverGatt_fails]
      refine iff_of_false (by decide) ?_
      rintro ⟨hinput, hdata⟩
      obtain ⟨o, hlead, -⟩ := h (uuidInput, Gatt.pathInput) (by simp [charFields]) hinput
      obtain ⟨o', hlead', -⟩ := h (uuidCmdData, Gatt.pathCmdData) (by simp [charFields]) hdata
      exact absurd (leadsWith_unique hlead hlead').2 (by decide +kernel)
    · intro f hf
      rcases discoverGatt_field prior reply hf with ⟨o, hlead, hpath⟩ | ⟨hnone, hempty⟩
      · refine iff_of_false ?_ (not_not_intro ⟨o, leadsWith_carries hlead⟩)
        rw [hpath]
        exact snprintf_ne_nil (by decide) o.path_ne_nil
      · refine iff_of_true hempty fun hcarried => ?_
        obtain ⟨o, hlead, -⟩ := h f hf hcarried
        exact hnone o hlead
    · intro f hf hne
      rcases discoverGatt_field prior reply hf with ⟨o, hlead, hpath⟩ | ⟨-, hempty⟩
      · obtain ⟨o', hlead', o'', ho'', hcarries, heq⟩ :=
          h f hf ⟨o, leadsWith_carries hlead⟩
        obtain rfl := (leadsWith_unique hlead hlead').1
        exact ⟨o'', ho'', hcarries, hpath.trans heq⟩
      · exact absurd hempty hne

/-- **Discovery visits the first object only**: the adapter is found as it should be iff no object
is one, or the first object is and its path fits; the characteristics are iff each one that an
object has is the first interface of GATT in the first object, and its path fits.
Source: `switch2-bt.c` `adapter_find`, `discover_gatt` -/
theorem findsObjects_iff (sz : ℕ) (prior : CString → CString) (reply : List Object) :
    (AdapterFound sz reply ↔ AdapterFirst sz reply) ∧ (GattFound prior reply ↔ GattFirst reply) :=
  ⟨adapterFound_iff sz reply, gattFound_iff prior reply⟩

/-- The objects of an adapter and a controller, behind the one of the service itself. -/
def bluezReply : List Object := [
  ⟨"/org/bluez".toList, [⟨"org.bluez.AgentManager1".toList, []⟩], by decide +kernel⟩,
  ⟨"/org/bluez/hci0".toList, [⟨ifaceAdapter, []⟩], by decide +kernel⟩,
  ⟨"/org/bluez/hci0/dev_A/service0001/char0002".toList,
    [⟨ifaceGattChar, [⟨propUuid, uuidInput⟩]⟩], by decide +kernel⟩,
  ⟨"/org/bluez/hci0/dev_A/service0001/char0004".toList,
    [⟨ifaceGattChar, [⟨propUuid, uuidCmdData⟩]⟩], by decide +kernel⟩]

theorem not_discovery :
    ¬AdapterFound 128 bluezReply ∧ ¬GattFound (fun _ => []) bluezReply := by
  constructor
  · intro h
    have hresult : (adapterFind 128 bluezReply).1 = 0 :=
      h.result.mpr (by decide +kernel)
    exact absurd hresult (by decide +kernel)
  · intro h
    have hresult : (discoverGatt (fun _ => []) bluezReply).1 = 0 :=
      h.result.mpr (by decide +kernel)
    exact absurd hresult (by decide +kernel)

end Switch2Bt.Discovery
