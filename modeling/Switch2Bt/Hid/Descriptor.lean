import Switch2Bt.Codec.Octets

/-!
# HID report descriptors

A report descriptor is a sequence of short items, each a prefix octet and up to four octets of data.
Global items set the page, the logical range, the size, the count and the report id of the fields to
come, local items their usages, and each input item lays out `count` fields of `size` bits, one
behind the other from the least significant bit of the first octet (`inputFields`). `usageValue`
is what a report says of a usage.

A field that lies in two octets is a piece of the word they make (`Field.raw_word`). That a
descriptor lays out a table of fields is checked once (`Lays`); what a report says of a usage of the
table is then read off its octets (`Lays.word`, `Lays.octet`, `Lays.button`). Nothing here knows a
device.
-/

namespace Hid

open Octets

/-! ## Items -/

/-- A short item: the prefix without the bits for the size, and the data. -/
structure Item where
  tag : UInt8
  data : Octets
deriving DecidableEq, Repr

/-- The octets of data that follow a prefix. -/
def dataLen (pre : UInt8) : ℕ := if pre &&& 3 = 3 then 4 else (pre &&& 3).toNat

/-- The first `n` items of a descriptor. -/
def items : ℕ → Octets → List Item
  | 0, _ | _, [] => []
  | n + 1, pre :: rest =>
      ⟨pre &&& 0xFC, rest.take (dataLen pre)⟩ :: items n (rest.drop (dataLen pre))

/-! ## Fields -/

/-- A usage on its page. -/
structure Usage where
  page : ℕ
  id : ℕ
deriving DecidableEq, Repr

/-- A field of an input report, `offset` bits behind the report id; a constant has no usage. -/
structure Field where
  reportId : ℕ
  usage : Option Usage
  offset : ℕ
  size : ℕ
  logicalMin : ℤ
  logicalMax : ℤ
deriving DecidableEq, Repr

/-- What the items so far have set, and the fields they have laid out. -/
structure Layout where
  page : ℕ := 0
  logicalMin : ℤ := 0
  logicalMax : ℤ := 0
  size : ℕ := 0
  count : ℕ := 0
  reportId : ℕ := 0
  usages : List Usage := []
  usageMin : ℕ := 0
  fields : List Field := []

/-- The bits of an input report that are laid out. -/
def Layout.bits (l : Layout) (reportId : ℕ) : ℕ :=
  ((l.fields.filter (·.reportId = reportId)).map Field.size).sum

/-- A main item: what is local to it is forgotten. -/
def Layout.main (l : Layout) (fields : List Field) : Layout :=
  { l with usages := [], usageMin := 0, fields := l.fields ++ fields }

/-- The fields of an input item; the last usage stands for the fields that are left over. -/
def Layout.input (l : Layout) (flags : UInt8) : List Field :=
  (List.range l.count).map fun i => {
    reportId := l.reportId
    usage := if flags &&& 1 ≠ 0 then none else l.usages[i]?.or l.usages.getLast?
    offset := l.bits l.reportId + i * l.size
    size := l.size
    logicalMin := l.logicalMin
    logicalMax := l.logicalMax }

/-- What an item does. The maximum is unsigned where the minimum is not negative. -/
def Layout.item (l : Layout) (i : Item) : Layout :=
  match i.tag with
  | 0x04 => { l with page := leNat i.data }
  | 0x14 => { l with logicalMin := leInt i.data }
  | 0x24 => { l with logicalMax := if 0 ≤ l.logicalMin then leNat i.data else leInt i.data }
  | 0x74 => { l with size := leNat i.data }
  | 0x84 => { l with reportId := leNat i.data }
  | 0x94 => { l with count := leNat i.data }
  | 0x08 => { l with usages := l.usages ++ [⟨l.page, leNat i.data⟩] }
  | 0x18 => { l with usageMin := leNat i.data }
  | 0x28 => { l with usages := l.usages ++
      (List.range' l.usageMin (leNat i.data + 1 - l.usageMin)).map fun u => ⟨l.page, u⟩ }
  | 0x80 => l.main (l.input (i.data.octet 0))
  | 0x90 | 0xB0 | 0xA0 | 0xC0 => l.main []
  | _ => l

/-- The fields of the input reports that a descriptor describes. -/
def inputFields (desc : Octets) : List Field :=
  ((items desc.length desc).foldl Layout.item {}).fields

/-! ## Reports -/

/-- The octets of an input report, with the report id. -/
def reportLen (fields : List Field) (reportId : ℕ) : ℕ :=
  1 + ((fields.filter (·.reportId = reportId)).map Field.size).sum / 8

/-- The bits of a field, the least significant first. -/
def Field.raw (f : Field) (report : Octets) : ℕ :=
  leNat (report.drop 1) / 2 ^ f.offset % 2 ^ f.size

/-- The field of a usage in a report. -/
def usageField (fields : List Field) (report : Octets) (u : Usage) : Option Field :=
  fields.find? fun f => f.reportId = (report.octet 0).toNat ∧ f.usage = some u

/-- What a report says of a usage. -/
def usageValue (fields : List Field) (report : Octets) (u : Usage) : Option ℕ :=
  (usageField fields report u).map (·.raw report)

/-- The octets from a position on. -/
theorem leNat_drop (data : Octets) (k : ℕ) : leNat (data.drop k) = leNat data / 256 ^ k := by
  induction k generalizing data with
  | zero => simp
  | succ k ih =>
      cases data with
      | nil => simp [leNat]
      | cons b data =>
          have hb := b.toNat_lt
          rw [List.drop_succ_cons, ih, leNat, Nat.pow_succ', ← Nat.div_div_eq_div_mul,
            Nat.add_mul_div_left _ _ (by decide), Nat.div_eq_of_lt hb, Nat.zero_add]

/-- The first two octets. -/
theorem leNat_mod_word (data : Octets) :
    leNat data % 2 ^ 16 = (data.octet 0).toNat + 256 * (data.octet 1).toNat := by
  have h0 := (data.octet 0).toNat_lt
  have h1 := (data.octet 1).toNat_lt
  rcases data with _ | ⟨a, _ | ⟨b, data⟩⟩
  · rfl
  · simp only [leNat, octet, List.getD_cons_zero, List.getD_cons_succ, List.getD_nil] at *
    simp
  · simp only [leNat, octet, List.getD_cons_zero, List.getD_cons_succ] at *
    omega

/-- A field that lies in two octets. -/
theorem Field.raw_word (f : Field) (report : Octets) {k j : ℕ} (hoff : f.offset = 8 * k + j)
    (hsize : j + f.size ≤ 16) :
    f.raw report = ((report.octet (k + 1)).toNat + 256 * (report.octet (k + 2)).toNat) /
      2 ^ j % 2 ^ f.size := by
  have hbehind : leNat (report.drop 1) / 2 ^ (8 * k) = leNat (report.drop (k + 1)) := by
    rw [Nat.pow_mul, show 2 ^ 8 = 256 from rfl, ← leNat_drop, List.drop_drop, Nat.add_comm 1 k]
  have hword := leNat_mod_word (report.drop (k + 1))
  rw [octet_drop, octet_drop, Nat.add_zero, Nat.add_assoc k 1 1] at hword
  obtain ⟨d, hd⟩ : (2 ^ j * 2 ^ f.size) ∣ 2 ^ 16 := by
    rw [← Nat.pow_add]
    exact Nat.pow_dvd_pow 2 hsize
  rw [Field.raw, hoff, Nat.pow_add, ← Nat.div_div_eq_div_mul, hbehind,
    ← Nat.mod_mul_right_div_self, ← Nat.mod_mul_right_div_self, ← hword, hd,
    Nat.mod_mul_right_mod]

/-! ## Tables -/

/-- Usages with their fields. -/
abbrev Table := List (Usage × Field)

/-- Each usage of a table has its field in the reports with the given id. -/
def Lays (fields : List Field) (reportId : ℕ) (table : Table) : Prop :=
  ∀ e ∈ table, (fields.find? fun f => f.reportId = reportId ∧ f.usage = some e.1) = some e.2

instance (fields : List Field) (reportId : ℕ) (table : Table) :
    Decidable (Lays fields reportId table) := inferInstanceAs (Decidable (∀ e ∈ table, _))

/-- Button `i` of the button page. -/
def button (i : ℕ) : Usage := ⟨0x09, i⟩

/-- The first `n` buttons, one bit each from the first bit on. -/
def buttonTable (reportId n : ℕ) : Table :=
  (List.range n).map fun i => (button (i + 1), ⟨reportId, some (button (i + 1)), i, 1, 0, 1⟩)

section table

variable {fields : List Field} {reportId : ℕ} {table : Table} {report : Octets}
variable {u : Usage} {f : Field} {k j : ℕ}

theorem Lays.usageField (h : Lays fields reportId table) (hmem : (u, f) ∈ table)
    (hid : (report.octet 0).toNat = reportId) : usageField fields report u = some f := by
  rw [Hid.usageField, hid]
  exact h _ hmem

/-- A usage whose field lies in two octets. -/
theorem Lays.word (h : Lays fields reportId table) (hmem : (u, f) ∈ table)
    (hid : (report.octet 0).toNat = reportId) (hoff : f.offset = 8 * k + j)
    (hsize : j + f.size ≤ 16) :
    usageValue fields report u =
      some (((report.octet (k + 1)).toNat + 256 * (report.octet (k + 2)).toNat) / 2 ^ j %
        2 ^ f.size) := by
  rw [usageValue, h.usageField hmem hid, Option.map_some, f.raw_word report hoff hsize]

/-- A usage whose field lies at the beginning of an octet. -/
theorem Lays.octet (h : Lays fields reportId table) (hmem : (u, f) ∈ table)
    (hid : (report.octet 0).toNat = reportId) (hoff : f.offset = 8 * k) (hsize : f.size ≤ 8) :
    usageValue fields report u = some ((report.octet (k + 1)).toNat % 2 ^ f.size) := by
  obtain ⟨d, hd⟩ : 2 ^ f.size ∣ 256 := Nat.pow_dvd_pow 2 hsize
  have hword := h.word (j := 0) hmem hid hoff (by omega)
  rw [Nat.pow_zero, Nat.div_one] at hword
  rw [hword, hd, Nat.mul_assoc, Nat.add_mul_mod_self_left]

/-- A button, in either octet of a word. -/
theorem Lays.button {n i : ℕ} (h : Lays fields reportId (buttonTable reportId n)) (hi : i < n)
    (hid : (report.octet 0).toNat = reportId) (hk : 8 * k ≤ i) (hlt : i < 8 * k + 16) :
    usageValue fields report (button (i + 1)) =
      some (((report.octet (k + 1)).toNat + 256 * (report.octet (k + 2)).toNat) /
        2 ^ (i - 8 * k) % 2) := by
  have hmem : (Hid.button (i + 1), ⟨reportId, some (Hid.button (i + 1)), i, 1, 0, 1⟩) ∈
      buttonTable reportId n := List.mem_map.mpr ⟨i, List.mem_range.mpr hi, rfl⟩
  exact h.word hmem hid (show i = 8 * k + (i - 8 * k) by omega) (show i - 8 * k + 1 ≤ 16 by omega)

end table

end Hid
