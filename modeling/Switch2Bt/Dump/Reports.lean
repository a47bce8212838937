import Mathlib.Data.Finset.Dedup
import Switch2Bt.Codec.Json
import Switch2Bt.Codec.Octets

/-!
# The dump analyser (`tools/dump_reports.py`)

A record is whatever `json.loads` made of a line, so each access may raise. The four analyses give
what they print, as data, or the exception they end with. Times are rationals.
-/

namespace Switch2Bt.Dump

open Octets Json

/-- The exceptions of the accesses to a record. -/
inductive PyErr where
  | keyError
  | typeError
  | valueError
  | attributeError
  | indexError
deriving DecidableEq, Repr

/-! ## Python operations on JSON values -/

/-- `value[key]`. -/
def item (key : String) : Value → Except PyErr Value
  | .obj members =>
      match lookup (text key) members with
      | some v => .ok v
      | none => .error .keyError
  | _ => .error .typeError

/-- `value.get(key, default)`. -/
def get (key : String) (default : Value) : Value → Except PyErr Value
  | .obj members => .ok ((lookup (text key) members).getD default)
  | _ => .error .attributeError

theorem item_dict {key : String} {members : List (String × Value)} {v : Value} (hkey : IsPlain key)
    (hkeys : ∀ m ∈ members, IsPlain m.1) (h : members.reverse.lookup key = some v) :
    item key (dict members) = .ok v := by
  unfold item dict
  dsimp only
  rw [lookup_dict hkey hkeys, h]

theorem item_dict_missing {key : String} {members : List (String × Value)} (hkey : IsPlain key)
    (hkeys : ∀ m ∈ members, IsPlain m.1) (h : members.reverse.lookup key = none) :
    item key (dict members) = .error .keyError := by
  unfold item dict
  dsimp only
  rw [lookup_dict hkey hkeys, h]

theorem get_dict {key : String} {members : List (String × Value)} {default v : Value}
    (hkey : IsPlain key) (hkeys : ∀ m ∈ members, IsPlain m.1)
    (h : members.reverse.lookup key = some v) : get key default (dict members) = .ok v := by
  unfold get dict
  dsimp only
  rw [lookup_dict hkey hkeys, h, Option.getD_some]

/-- `bytes.fromhex(value)`. -/
def fromhex : Value → Except PyErr Octets
  | .str s =>
      match ofHexChars s.chars with
      | some data => .ok data
      | none => .error .valueError
  | _ => .error .typeError

/-- A value that can be subtracted and formatted as a float. -/
def number : Value → Except PyErr ℚ
  | .int n => .ok n
  | .float x => .ok x.toRat
  | .bool b => .ok (if b then 1 else 0)
  | _ => .error .typeError

/-- `len(value)`. -/
def len : Value → Except PyErr ℕ
  | .arr items => .ok items.length
  | .obj members => .ok (members.map (·.1)).dedup.length
  | .str s => .ok s.chars.length
  | _ => .error .typeError

/-- `value == n`, for an `int`. -/
def isInt (n : ℕ) : Value → Bool
  | .int k => k = n
  | .float x => x.toRat = n
  | .bool b => (if b then 1 else 0) = n
  | _ => false

/-- `n in value`, for an `int`. -/
def contains (n : ℕ) : Value → Except PyErr Bool
  | .arr items => .ok (items.any (isInt n))
  | .obj _ => .ok false
  | _ => .error .typeError

/-- `list[index]`, for a negative index from the end. -/
def pyIndex (records : List Value) (index : ℤ) : Except PyErr Value :=
  match records[(if index < 0 then index + records.length else index).toNat]? with
  | some v => if index + records.length < 0 then .error .indexError else .ok v
  | none => .error .indexError

/-! ## Loading -/

/-- A white space character of `str.strip`, in ASCII. -/
def isStripped (c : Char) : Bool := c = ' ' ∨ (9 ≤ c.toNat ∧ c.toNat ≤ 13) ∨
  (28 ≤ c.toNat ∧ c.toNat ≤ 31)

/-- `line.strip()`. -/
def strip (line : List Char) : List Char :=
  (((line.dropWhile isStripped).reverse).dropWhile isStripped).reverse

/-- The end of a line; both characters of `\r\n` end one, since empty lines are skipped. -/
def endsLine (c : Char) : Bool := c = '\n' ∨ c = '\r'

/-- The records of a file.
Source: `dump_reports.py` `load_reports` -/
def loadReports (file : List Char) : List Value :=
  (file.splitOnP endsLine).filterMap fun line =>
    let line := strip line
    if line = [] then none else loads line

/-! ## Showing -/

/-- How an octet is shown. -/
inductive Mark where
  | none
  | changed
  | highlight
deriving DecidableEq, Repr

/-- What is printed. -/
inductive Line where
  /-- The head of a report: number, time, length, number of changes. -/
  | report (number : Value) (time : ℚ) (length changes : ℕ)
  | row (offset : ℕ) (octets : List (UInt8 × Mark))
  /-- Both indices must be at most this one. -/
  | outOfRange (max : ℤ)
  | diff (numberA numberB : Value) (lengthA lengthB : ℕ)
  | change (position : ℕ) (a b : Option UInt8)
  | noChanges
  /-- A position: its changes, its values, the most common ones with their counts. -/
  | frequency (position changes unique : ℕ) (top : List (UInt8 × ℕ))
  | noReports
  | summary (reports : ℕ) (duration rate average : ℚ) (static dynamic : List ℕ)

/-- The rows of a dump, sixteen octets each. -/
def chunks (raw : Octets) : List (ℕ × Octets) :=
  (List.range ((raw.length + 15) / 16)).map fun k => (16 * k, raw.slice (16 * k) (16 * k + 16))

/-- Source: `dump_reports.py` `show_reports` (`byte_pos in changed`) -/
def mark (changed : Value) (highlight : List ℕ) (position : ℕ) : Except PyErr Mark := do
  if ← contains position changed then .ok .changed
  else if position ∈ highlight then .ok .highlight
  else .ok .none

/-- A row whose changed octets are marked. -/
def markedRow (changed : Value) (highlight : List ℕ) (row : ℕ × Octets) : Except PyErr Line := do
  let marks ← (List.range row.2.length).mapM fun i => mark changed highlight (row.1 + i)
  .ok (.row row.1 (row.2.zip marks))

/-- Source: `dump_reports.py` `show_reports` (loop body) -/
def showReport (highlight : List ℕ) (record : Value) : Except PyErr (List Line) := do
  let n ← item "report_number" record
  let ts ← item "timestamp" record
  let raw ← fromhex (← item "hex" record)
  let changed ← get "changed_bytes" (.arr []) record
  let time ← number ts
  let changes ← len changed
  let rows ←
    if changes ≠ 0 then (chunks raw).mapM (markedRow changed highlight)
    else .ok ((chunks raw).map fun row => .row row.1 (row.2.map (·, .none)))
  .ok (.report n time raw.length changes :: rows)

/-- Source: `dump_reports.py` `show_reports` -/
def showReports (records : List Value) (highlight : List ℕ) : Except PyErr (List Line) := do
  let lines ← records.mapM (showReport highlight)
  .ok lines.flatten

/-! ## Differences -/

/-- The positions where two reports differ.
Source: `dump_reports.py` `diff_reports` (`diffs`) -/
def diffs (a b : Octets) : List Line :=
  (List.range (max a.length b.length)).filterMap fun i =>
    if a[i]? ≠ b[i]? then some (.change i a[i]? b[i]?) else none

/-- Source: `dump_reports.py` `diff_reports` -/
def diffReports (records : List Value) (idxA idxB : ℤ) : Except PyErr (List Line) :=
  if idxA ≥ records.length ∨ idxB ≥ records.length then
    .ok [.outOfRange (records.length - 1)]
  else do
    let a ← pyIndex records idxA
    let b ← pyIndex records idxB
    let rawA ← fromhex (← item "hex" a)
    let rawB ← fromhex (← item "hex" b)
    let numberA ← item "report_number" a
    let numberB ← item "report_number" b
    let changes := diffs rawA rawB
    .ok (.diff numberA numberB rawA.length rawB.length ::
      if changes = [] then [.noChanges] else changes)

/-! ## Frequencies -/

/-- `counter[key] += 1`: entries stay where they were first counted. -/
def count {α : Type} [DecidableEq α] (key : α) (counter : List (α × ℕ)) : List (α × ℕ) :=
  if key ∈ counter.map (·.1) then
    counter.map fun e => if e.1 = key then (e.1, e.2 + 1) else e
  else counter ++ [(key, 1)]

/-- Entries by falling count, those of one count in their order. -/
def byCount {α : Type} (counter : List (α × ℕ)) : List (α × ℕ) :=
  counter.mergeSort fun a b => b.2 ≤ a.2

/-- The counters of `byte_frequency`. -/
structure Frequencies where
  positionChanges : List (ℕ × ℕ)
  positionValues : ℕ → List (UInt8 × ℕ)
  prevData : Octets

/-- The loop over the octets of a record, from a position on.
Source: `dump_reports.py` `byte_frequency` (inner loop) -/
def countOctets : ℕ → Octets → Frequencies → Frequencies
  | _, [], f => f
  | i, b :: data, f =>
      let f := { f with
        positionValues := Function.update f.positionValues i (count b (f.positionValues i)) }
      let f := if f.prevData[i]?.any (· ≠ b) then
          { f with positionChanges := count i f.positionChanges } else f
      countOctets (i + 1) data f

/-- Source: `dump_reports.py` `byte_frequency` (loop body) -/
def countRecord (f : Frequencies) (record : Value) : Except PyErr Frequencies := do
  let data ← fromhex (← item "hex" record)
  .ok { countOctets 0 data f with prevData := data }

/-- Source: `dump_reports.py` `byte_frequency` -/
def byteFrequency (records : List Value) : Except PyErr (List Line) := do
  let f ← records.foldlM countRecord ⟨[], fun _ => [], []⟩
  .ok ((byCount f.positionChanges).map fun (position, changes) =>
    let values := f.positionValues position
    .frequency position changes values.length ((byCount values).take 5))

/-! ## Summary -/

/-- Whether all reports with an octet at a position have the same one. -/
def isStatic (allData : List Octets) (position : ℕ) : Bool :=
  (allData.filterMap (·[position]?)).dedup.length = 1

/-- Source: `dump_reports.py` `summary` -/
def summary (records : List Value) : Except PyErr (List Line) :=
  match records.head?, records.getLast? with
  | some first, some last => do
      let lastTime ← item "timestamp" last
      let firstTime ← item "timestamp" first
      let duration := (← number lastTime) - (← number firstTime)
      let rate := if 0 < duration then records.length / duration else 0
      let allData ← records.mapM fun r => do fromhex (← item "hex" r)
      let positions := List.range ((allData.map List.length).max?.getD 0)
      .ok [.summary records.length duration rate
        ((allData.map List.length).sum / records.length)
        (positions.filter (isStatic allData)) (positions.filter (!isStatic allData ·))]
  | _, _ => .ok [.noReports]

end Switch2Bt.Dump
