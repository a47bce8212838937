import Mathlib.Algebra.Order.Field.Rat
import Mathlib.Data.List.TakeWhile
import Mathlib.Data.Nat.Notation

/-!
# JSON texts

`dumps` is the text of a value, with the separators `", "` and `": "`, and `loads` reads it back
(`loads_dumps`). Strings are of plain characters, which are written as they are, and a float is
given by its decimal text, so there are no escapes and there is no rounding. `loads` takes
whitespace wherever JSON allows it, and nothing that needs an escape.
-/

namespace Json

/-! ## Values -/

/-- A printable ASCII character that needs no escape. -/
def isPlain (c : Char) : Bool := ' ' ≤ c ∧ c ≤ '~' ∧ c ≠ '"' ∧ c ≠ '\\'

/-- A string of plain characters. -/
@[ext] structure PlainText where
  chars : List Char
  plain : ∀ c ∈ chars, isPlain c = true
deriving DecidableEq

/-- The plain characters of a text. -/
def text (s : String) : PlainText :=
  ⟨s.toList.filter isPlain, fun _ hc => (List.mem_filter.mp hc).2⟩

/-- A text of plain characters only. -/
def IsPlain (s : String) : Prop := ∀ c ∈ s.toList, isPlain c = true

instance (s : String) : Decidable (IsPlain s) :=
  decidable_of_iff (s.toList.all isPlain = true) List.all_eq_true

theorem text_chars {s : String} (h : IsPlain s) : (text s).chars = s.toList :=
  List.filter_eq_self.mpr h

theorem text_inj {s t : String} (hs : IsPlain s) (ht : IsPlain t) : text s = text t ↔ s = t := by
  constructor
  · intro h
    have hchars := congrArg PlainText.chars h
    rw [text_chars hs, text_chars ht] at hchars
    exact String.toList_inj.mp hchars
  · exact congrArg text

/-- At least one decimal digit. -/
structure Digits where
  chars : List Char
  digits : ∀ c ∈ chars, c.isDigit = true
  nonempty : chars ≠ []
deriving DecidableEq

/-- The decimal text of a float: it has a fraction or an exponent. -/
structure Decimal where
  negative : Bool
  whole : ℕ
  fraction : Option Digits
  /-- The exponent, and whether it is negative. -/
  exponent : Option (Bool × Digits)
  float : fraction.isSome = true ∨ exponent.isSome = true
deriving DecidableEq

inductive Value where
  | null
  | bool (b : Bool)
  | int (n : ℤ)
  | float (x : Decimal)
  | str (s : PlainText)
  | arr (items : List Value)
  | obj (members : List (PlainText × Value))

/-- The value of a key: the last one, if there are several. -/
def lookup (key : PlainText) (members : List (PlainText × Value)) : Option Value :=
  members.reverse.lookup key

/-- The object with the given members. -/
def dict (members : List (String × Value)) : Value := .obj (members.map fun m => (text m.1, m.2))

/-- A key of a dict display is looked up by its name. -/
theorem lookup_dict {key : String} {members : List (String × Value)} (hkey : IsPlain key)
    (hkeys : ∀ m ∈ members, IsPlain m.1) :
    lookup (text key) (members.map fun m => (text m.1, m.2)) = members.reverse.lookup key := by
  unfold lookup
  rw [← List.map_reverse]
  have hreverse : ∀ m ∈ members.reverse, IsPlain m.1 := fun m hm =>
    hkeys m (List.mem_reverse.mp hm)
  generalize members.reverse = entries at hreverse
  induction entries with
  | nil => rfl
  | cons m entries ih =>
      have hm := hreverse m List.mem_cons_self
      have hrest := ih fun e he => hreverse e (List.mem_cons_of_mem _ he)
      have hbeq : (text key == text m.1) = (key == m.1) := by
        rw [Bool.eq_iff_iff, beq_iff_eq, beq_iff_eq]
        exact text_inj hkey hm
      rw [List.map_cons, List.lookup_cons, List.lookup_cons, hrest, hbeq]

def intOrNull : Option ℤ → Value
  | some n => .int n
  | none => .null

def natOrNull (n : Option ℕ) : Value := intOrNull (n.map Int.ofNat)

/-- The number that digits stand for. -/
def Digits.toNat (d : Digits) : ℕ := Nat.ofDigitChars 10 d.chars 0

/-- The number that a text stands for. -/
def Decimal.toRat (x : Decimal) : ℚ :=
  let fraction := match x.fraction with
    | none => 0
    | some d => (d.toNat : ℚ) / 10 ^ d.chars.length
  let scale := match x.exponent with
    | none => 1
    | some (true, d) => 1 / 10 ^ d.toNat
    | some (false, d) => 10 ^ d.toNat
  (if x.negative then -1 else 1) * (x.whole + fraction) * scale

/-! ## Printing -/

def dumpsNat (n : ℕ) : List Char := Nat.toDigits 10 n

def dumpsInt (n : ℤ) : List Char := if n < 0 then '-' :: dumpsNat n.natAbs else dumpsNat n.natAbs

def dumpsFraction : Option Digits → List Char
  | none => []
  | some d => '.' :: d.chars

def dumpsExponent : Option (Bool × Digits) → List Char
  | none => []
  | some (negative, d) => 'e' :: (if negative then '-' else '+') :: d.chars

def dumpsDecimal (x : Decimal) : List Char :=
  (if x.negative then ['-'] else []) ++
    (dumpsNat x.whole ++ (dumpsFraction x.fraction ++ dumpsExponent x.exponent))

def dumpsStr (s : PlainText) : List Char := '"' :: (s.chars ++ ['"'])

mutual

/-- The text of a value. -/
def dumps : Value → List Char
  | .null => ['n', 'u', 'l', 'l']
  | .bool true => ['t', 'r', 'u', 'e']
  | .bool false => ['f', 'a', 'l', 's', 'e']
  | .int n => dumpsInt n
  | .float x => dumpsDecimal x
  | .str s => dumpsStr s
  | .arr [] => ['[', ']']
  | .arr (v :: vs) => '[' :: (dumps v ++ dumpsItems vs)
  | .obj [] => ['{', '}']
  | .obj ((k, v) :: ms) => '{' :: (dumpsStr k ++ (':' :: ' ' :: (dumps v ++ dumpsMembers ms)))

/-- The items after the first one. -/
def dumpsItems : List Value → List Char
  | [] => [']']
  | v :: vs => ',' :: ' ' :: (dumps v ++ dumpsItems vs)

/-- The members after the first one. -/
def dumpsMembers : List (PlainText × Value) → List Char
  | [] => ['}']
  | (k, v) :: ms => ',' :: ' ' :: (dumpsStr k ++ (':' :: ' ' :: (dumps v ++ dumpsMembers ms)))

end

/-! ## Reading -/

def isSpace (c : Char) : Bool := c = ' ' ∨ c = '\t' ∨ c = '\n' ∨ c = '\r'

def skipSpace (cs : List Char) : List Char := cs.dropWhile isSpace

/-- The digits in front, if there are any. -/
def scanDigits (cs : List Char) : Option (Digits × List Char) :=
  if h : cs.takeWhile Char.isDigit ≠ [] then
    some (⟨cs.takeWhile Char.isDigit, fun _ => List.mem_takeWhile_imp, h⟩,
      cs.dropWhile Char.isDigit)
  else none

/-- A number without superfluous zeros. -/
def scanNat (cs : List Char) : Option (ℕ × List Char) := do
  let (d, rest) ← scanDigits cs
  if dumpsNat d.toNat = d.chars then some (d.toNat, rest) else none

/-- The fraction in front, if there is one. -/
def scanFraction : List Char → Option Digits × List Char
  | '.' :: cs =>
      match scanDigits cs with
      | some (d, rest) => (some d, rest)
      | none => (none, '.' :: cs)
  | cs => (none, cs)

/-- The sign in front. -/
def scanSign : List Char → Bool × List Char
  | '-' :: cs => (true, cs)
  | '+' :: cs => (false, cs)
  | cs => (false, cs)

/-- The exponent in front, if there is one. -/
def scanExponent : List Char → Option (Bool × Digits) × List Char
  | 'e' :: cs =>
      match scanDigits (scanSign cs).2 with
      | some (d, rest) => (some ((scanSign cs).1, d), rest)
      | none => (none, 'e' :: cs)
  | 'E' :: cs =>
      match scanDigits (scanSign cs).2 with
      | some (d, rest) => (some ((scanSign cs).1, d), rest)
      | none => (none, 'E' :: cs)
  | cs => (none, cs)

/-- The value of a number with the given parts. -/
def numberOf (negative : Bool) (whole : ℕ) (fraction : Option Digits)
    (exponent : Option (Bool × Digits)) : Value :=
  if h : fraction.isSome = true ∨ exponent.isSome = true then
    .float ⟨negative, whole, fraction, exponent, h⟩
  else .int (if negative then -whole else whole)

/-- A number without its sign. -/
def scanUnsigned (negative : Bool) (cs : List Char) : Option (Value × List Char) := do
  let (whole, cs) ← scanNat cs
  let (fraction, cs) := scanFraction cs
  let (exponent, cs) := scanExponent cs
  some (numberOf negative whole fraction exponent, cs)

def scanNumber : List Char → Option (Value × List Char)
  | '-' :: cs => scanUnsigned true cs
  | cs => scanUnsigned false cs

/-- The rest of a string. -/
def scanStr (cs : List Char) : Option (PlainText × List Char) :=
  match cs.dropWhile isPlain with
  | '"' :: rest => some (⟨cs.takeWhile isPlain, fun _ => List.mem_takeWhile_imp⟩, rest)
  | _ => none

mutual

/-- The value in front. -/
def scanOnce : ℕ → List Char → Option (Value × List Char)
  | 0, _ => none
  | n + 1, cs =>
      match cs with
      | '"' :: cs => (scanStr cs).map fun (s, rest) => (.str s, rest)
      | '{' :: cs =>
          match skipSpace cs with
          | '}' :: rest => some (.obj [], rest)
          | cs => (scanMembers n cs).map fun (ms, rest) => (.obj ms, rest)
      | '[' :: cs =>
          match skipSpace cs with
          | ']' :: rest => some (.arr [], rest)
          | cs => (scanItems n cs).map fun (vs, rest) => (.arr vs, rest)
      | 'n' :: 'u' :: 'l' :: 'l' :: rest => some (.null, rest)
      | 't' :: 'r' :: 'u' :: 'e' :: rest => some (.bool true, rest)
      | 'f' :: 'a' :: 'l' :: 's' :: 'e' :: rest => some (.bool false, rest)
      | cs => scanNumber cs

/-- The items of an array, up to its end. -/
def scanItems : ℕ → List Char → Option (List Value × List Char)
  | 0, _ => none
  | n + 1, cs => do
      let (v, cs) ← scanOnce n cs
      match skipSpace cs with
      | ',' :: cs =>
          let (vs, rest) ← scanItems n (skipSpace cs)
          some (v :: vs, rest)
      | ']' :: rest => some ([v], rest)
      | _ => none

/-- The members of an object, up to its end. -/
def scanMembers : ℕ → List Char → Option (List (PlainText × Value) × List Char)
  | 0, _ => none
  | n + 1, cs =>
      match cs with
      | '"' :: cs => do
          let (k, cs) ← scanStr cs
          match skipSpace cs with
          | ':' :: cs =>
              let (v, cs) ← scanOnce n (skipSpace cs)
              match skipSpace cs with
              | ',' :: cs =>
                  let (ms, rest) ← scanMembers n (skipSpace cs)
                  some ((k, v) :: ms, rest)
              | '}' :: rest => some ([(k, v)], rest)
              | _ => none
          | _ => none
      | _ => none

end

/-- The value of a text. -/
def loads (cs : List Char) : Option Value :=
  match scanOnce (cs.length + 1) (skipSpace cs) with
  | some (v, rest) => if skipSpace rest = [] then some v else none
  | none => none

/-! ## What stops a scan -/

/-- A rest in front of which a scan of characters stops. -/
def Stops (p : Char → Bool) (rest : List Char) : Prop := ∀ c ∈ rest.head?, p c = false

theorem Stops.takeWhile {p : Char → Bool} {front rest : List Char}
    (hfront : ∀ c ∈ front, p c = true) (h : Stops p rest) :
    (front ++ rest).takeWhile p = front := by
  rw [List.takeWhile_append_of_pos hfront]
  cases rest with
  | nil => simp
  | cons c rest => simp [h c rfl]

theorem Stops.dropWhile {p : Char → Bool} {front rest : List Char}
    (hfront : ∀ c ∈ front, p c = true) (h : Stops p rest) : (front ++ rest).dropWhile p = rest := by
  rw [List.dropWhile_append_of_pos hfront]
  cases rest with
  | nil => rfl
  | cons c rest => simp [h c rfl]

/-- A character that would continue a number. -/
def continuesNumber (c : Char) : Bool := c.isDigit ∨ c = '.' ∨ c = 'e' ∨ c = 'E'

theorem Stops.digits {rest : List Char} (h : Stops continuesNumber rest) :
    Stops Char.isDigit rest := by
  intro c hc
  have hstop := h c hc
  unfold continuesNumber at hstop
  by_contra hdigit
  simp [Bool.eq_true_of_not_eq_false hdigit] at hstop

/-! ## Numbers -/

theorem scanDigits_append (d : Digits) {rest : List Char} (h : Stops Char.isDigit rest) :
    scanDigits (d.chars ++ rest) = some (d, rest) := by
  have htake := h.takeWhile d.digits
  have hdrop := h.dropWhile d.digits
  unfold scanDigits
  rw [dif_pos (by rw [htake]; exact d.nonempty)]
  congr 2
  cases d
  congr

theorem scanNat_dumpsNat (n : ℕ) {rest : List Char} (h : Stops Char.isDigit rest) :
    scanNat (dumpsNat n ++ rest) = some (n, rest) := by
  let d : Digits := ⟨dumpsNat n,
    fun _ => Nat.isDigit_of_mem_toDigits (by decide) (by decide), Nat.toDigits_ne_nil⟩
  have hd : d.toNat = n := Nat.ofDigitChars_ten_toDigits
  have hscan : scanDigits (dumpsNat n ++ rest) = some (d, rest) := scanDigits_append d h
  unfold scanNat
  rw [hscan, Option.bind_eq_bind, Option.bind_some]
  dsimp only
  rw [hd, if_pos rfl]

theorem scanExponent_dumps (exponent : Option (Bool × Digits)) {rest : List Char}
    (h : Stops continuesNumber rest) :
    scanExponent (dumpsExponent exponent ++ rest) = (exponent, rest) := by
  rcases exponent with _ | ⟨negative, d⟩
  · have hne : ∀ cs, rest ≠ 'e' :: cs ∧ rest ≠ 'E' :: cs := by
      intro cs
      constructor
      · rintro rfl
        exact absurd (h 'e' rfl) (by decide)
      · rintro rfl
        exact absurd (h 'E' rfl) (by decide)
    change scanExponent rest = (none, rest)
    unfold scanExponent
    split
    case h_1 cs => exact absurd rfl (hne cs).1
    case h_2 cs => exact absurd rfl (hne cs).2
    case h_3 => rfl
  · cases negative with
    | true => simp [dumpsExponent, scanExponent, scanSign, scanDigits_append d h.digits]
    | false => simp [dumpsExponent, scanExponent, scanSign, scanDigits_append d h.digits]

/-- Neither an exponent nor what stops a number is taken for a digit. -/
theorem stops_exponent (exponent : Option (Bool × Digits)) {rest : List Char}
    (h : Stops continuesNumber rest) : Stops Char.isDigit (dumpsExponent exponent ++ rest) := by
  rcases exponent with _ | ⟨negative, d⟩
  · exact h.digits
  · intro c hc
    cases hc
    decide

theorem scanFraction_dumps (fraction : Option Digits) (exponent : Option (Bool × Digits))
    {rest : List Char} (h : Stops continuesNumber rest) :
    scanFraction (dumpsFraction fraction ++ (dumpsExponent exponent ++ rest)) =
      (fraction, dumpsExponent exponent ++ rest) := by
  cases fraction with
  | none =>
      have hne : ∀ cs, dumpsExponent exponent ++ rest ≠ '.' :: cs := by
        intro cs heq
        rcases exponent with _ | ⟨negative, d⟩
        · exact absurd (h '.' (by rw [show rest = '.' :: cs from heq]; rfl)) (by decide)
        · exact absurd (congrArg List.head? heq) (by simp [dumpsExponent])
      change scanFraction (dumpsExponent exponent ++ rest) = _
      unfold scanFraction
      split
      case h_1 cs heq => exact absurd heq (hne cs)
      case h_2 => rfl
  | some d => simp [dumpsFraction, scanFraction, scanDigits_append d (stops_exponent exponent h)]

theorem stops_fraction (fraction : Option Digits) (exponent : Option (Bool × Digits))
    {rest : List Char} (h : Stops continuesNumber rest) :
    Stops Char.isDigit (dumpsFraction fraction ++ (dumpsExponent exponent ++ rest)) := by
  cases fraction with
  | none => exact stops_exponent exponent h
  | some d =>
      intro c hc
      cases hc
      decide

/-- A number reads back as its parts. -/
theorem scanUnsigned_dumps (negative : Bool) (whole : ℕ) (fraction : Option Digits)
    (exponent : Option (Bool × Digits)) {rest : List Char} (h : Stops continuesNumber rest) :
    scanUnsigned negative
        (dumpsNat whole ++ (dumpsFraction fraction ++ (dumpsExponent exponent ++ rest))) =
      some (numberOf negative whole fraction exponent, rest) := by
  unfold scanUnsigned
  rw [scanNat_dumpsNat whole (stops_fraction fraction exponent h), Option.bind_eq_bind,
    Option.bind_some]
  dsimp only
  rw [scanFraction_dumps fraction exponent h]
  dsimp only
  rw [scanExponent_dumps exponent h]

theorem dumpsNat_head (n : ℕ) : ∃ c cs, dumpsNat n = c :: cs ∧ c.isDigit = true := by
  obtain ⟨c, cs, h⟩ := List.exists_cons_of_ne_nil (Nat.toDigits_ne_nil (n := n) (b := 10))
  refine ⟨c, cs, h, Nat.isDigit_of_mem_toDigits (n := n) (b := 10) (by decide) (by decide) ?_⟩
  rw [h]
  exact List.mem_cons_self

/-- A number with a digit in front has no sign. -/
theorem scanNumber_of_digit {c : Char} (cs : List Char) (h : c.isDigit = true) :
    scanNumber (c :: cs) = scanUnsigned false (c :: cs) := by
  have hne : c ≠ '-' := by
    rintro rfl
    exact absurd h (by decide)
  unfold scanNumber
  split
  case h_1 heq => exact absurd (List.head_eq_of_cons_eq heq) hne
  case h_2 => rfl

theorem scanNumber_dumpsInt (n : ℤ) {rest : List Char} (h : Stops continuesNumber rest) :
    scanNumber (dumpsInt n ++ rest) = some (.int n, rest) := by
  have hscan : ∀ negative, scanUnsigned negative (dumpsNat n.natAbs ++ rest) =
      some (.int (if negative then -n.natAbs else n.natAbs), rest) := fun negative =>
    scanUnsigned_dumps negative n.natAbs none none h
  unfold dumpsInt
  split
  case isTrue hneg =>
    change scanUnsigned true (dumpsNat n.natAbs ++ rest) = _
    rw [hscan, if_pos rfl]
    congr 3
    omega
  case isFalse hneg =>
    obtain ⟨c, cs, hc, hdigit⟩ := dumpsNat_head n.natAbs
    have hunsigned := hscan false
    rw [hc, List.cons_append] at hunsigned ⊢
    rw [scanNumber_of_digit _ hdigit, hunsigned, if_neg Bool.false_ne_true]
    congr 3
    omega

theorem scanNumber_dumpsDecimal (x : Decimal) {rest : List Char} (h : Stops continuesNumber rest) :
    scanNumber (dumpsDecimal x ++ rest) = some (.float x, rest) := by
  obtain ⟨negative, whole, fraction, exponent, hfloat⟩ := x
  have hscan := scanUnsigned_dumps negative whole fraction exponent h
  have hnumber : numberOf negative whole fraction exponent =
      .float ⟨negative, whole, fraction, exponent, hfloat⟩ := dif_pos hfloat
  rw [hnumber] at hscan
  unfold dumpsDecimal
  simp only [List.append_assoc]
  cases negative with
  | true => exact hscan
  | false =>
      obtain ⟨c, cs, hc, hdigit⟩ := dumpsNat_head whole
      simp only [hc, List.cons_append] at hscan ⊢
      exact (scanNumber_of_digit _ hdigit).trans hscan

/-! ## Values -/

theorem scanStr_append (s : PlainText) (rest : List Char) :
    scanStr (s.chars ++ '"' :: rest) = some (s, rest) := by
  have hquote : Stops isPlain ('"' :: rest) := by
    intro c hc
    cases hc
    decide
  unfold scanStr
  rw [hquote.dropWhile s.plain]
  change some (_, rest) = some (s, rest)
  congr 2
  exact PlainText.ext (hquote.takeWhile s.plain)

/-- A number is no other value. -/
theorem scanOnce_number {c : Char} (cs : List Char) (n : ℕ) (h : c = '-' ∨ c.isDigit = true) :
    scanOnce (n + 1) (c :: cs) = scanNumber (c :: cs) := by
  have hne : c ≠ '"' ∧ c ≠ '{' ∧ c ≠ '[' ∧ c ≠ 'n' ∧ c ≠ 't' ∧ c ≠ 'f' := by
    refine ⟨?_, ?_, ?_, ?_, ?_, ?_⟩
    all_goals
      rintro rfl
      exact absurd h (by decide)
  obtain ⟨h1, h2, h3, h4, h5, h6⟩ := hne
  unfold scanOnce
  split
  case h_1 heq => exact absurd (List.head_eq_of_cons_eq heq) h1
  case h_2 heq => exact absurd (List.head_eq_of_cons_eq heq) h2
  case h_3 heq => exact absurd (List.head_eq_of_cons_eq heq) h3
  case h_4 heq => exact absurd (List.head_eq_of_cons_eq heq) h4
  case h_5 heq => exact absurd (List.head_eq_of_cons_eq heq) h5
  case h_6 heq => exact absurd (List.head_eq_of_cons_eq heq) h6
  case h_7 => rfl

theorem dumpsInt_head (n : ℤ) : ∃ c cs, dumpsInt n = c :: cs ∧ (c = '-' ∨ c.isDigit = true) := by
  unfold dumpsInt
  split
  · exact ⟨_, _, rfl, .inl rfl⟩
  · obtain ⟨c, cs, h, hdigit⟩ := dumpsNat_head n.natAbs
    exact ⟨c, cs, h, .inr hdigit⟩

theorem dumpsDecimal_head (x : Decimal) :
    ∃ c cs, dumpsDecimal x = c :: cs ∧ (c = '-' ∨ c.isDigit = true) := by
  unfold dumpsDecimal
  split
  · exact ⟨_, _, rfl, .inl rfl⟩
  · obtain ⟨c, cs, h, hdigit⟩ := dumpsNat_head x.whole
    rw [h]
    exact ⟨c, _, rfl, .inr hdigit⟩

/-- A value starts with a character that is neither white space nor the end of an array. -/
theorem dumps_head (v : Value) :
    ∃ c cs, dumps v = c :: cs ∧ isSpace c = false ∧ c ≠ ']' := by
  have hnumber : ∀ c : Char, c = '-' ∨ c.isDigit = true → isSpace c = false ∧ c ≠ ']' := by
    intro c hc
    rcases hc with rfl | hc
    · decide
    · constructor
      · unfold isSpace
        rw [decide_eq_false_iff_not]
        rintro (rfl | rfl | rfl | rfl) <;> exact absurd hc (by decide)
      · rintro rfl
        exact absurd hc (by decide)
  cases v with
  | null => exact ⟨_, _, rfl, by decide, by decide⟩
  | bool b => cases b <;> exact ⟨_, _, rfl, by decide, by decide⟩
  | int n =>
      obtain ⟨c, cs, h, hc⟩ := dumpsInt_head n
      exact ⟨c, cs, h, hnumber c hc⟩
  | float x =>
      obtain ⟨c, cs, h, hc⟩ := dumpsDecimal_head x
      exact ⟨c, cs, h, hnumber c hc⟩
  | str s => exact ⟨_, _, rfl, by decide, by decide⟩
  | arr items => cases items <;> exact ⟨_, _, by unfold dumps; rfl, by decide, by decide⟩
  | obj members => cases members <;> exact ⟨_, _, by unfold dumps; rfl, by decide, by decide⟩

theorem skipSpace_dumps (v : Value) (rest : List Char) :
    skipSpace (dumps v ++ rest) = dumps v ++ rest := by
  obtain ⟨c, cs, h, hspace, _⟩ := dumps_head v
  rw [h, List.cons_append]
  unfold skipSpace
  rw [List.dropWhile_cons_of_neg (by simp [hspace])]

mutual

/-- The fuel a value takes. -/
def size : Value → ℕ
  | .arr vs => 1 + sizeItems vs
  | .obj ms => 1 + sizeMembers ms
  | _ => 1

def sizeItems : List Value → ℕ
  | [] => 0
  | v :: vs => 1 + size v + sizeItems vs

def sizeMembers : List (PlainText × Value) → ℕ
  | [] => 0
  | (_, v) :: ms => 1 + size v + sizeMembers ms

end

theorem stops_dumpsItems (vs : List Value) (rest : List Char) :
    Stops continuesNumber (dumpsItems vs ++ rest) := by
  intro c hc
  cases vs <;> cases hc <;> decide

theorem stops_dumpsMembers (ms : List (PlainText × Value)) (rest : List Char) :
    Stops continuesNumber (dumpsMembers ms ++ rest) := by
  intro c hc
  rcases ms with _ | ⟨⟨k, v⟩, ms⟩ <;> cases hc <;> decide

/-- A member starts with its key. -/
theorem scanMembers_key (k : PlainText) (v : Value) (n : ℕ) (rest : List Char) :
    scanMembers (n + 1) (dumpsStr k ++ (':' :: ' ' :: (dumps v ++ rest))) =
      (scanOnce n (dumps v ++ rest)).bind fun (v, cs) =>
        match skipSpace cs with
        | ',' :: cs => (scanMembers n (skipSpace cs)).bind fun (ms, rest) =>
            some ((k, v) :: ms, rest)
        | '}' :: rest => some ([(k, v)], rest)
        | _ => none := by
  have hvalue : skipSpace (' ' :: (dumps v ++ rest)) = dumps v ++ rest := skipSpace_dumps v rest
  have hstr := scanStr_append k (':' :: ' ' :: (dumps v ++ rest))
  rw [show dumpsStr k ++ (':' :: ' ' :: (dumps v ++ rest)) =
    '"' :: (k.chars ++ '"' :: ':' :: ' ' :: (dumps v ++ rest)) by simp [dumpsStr]]
  conv_lhs => unfold scanMembers
  simp only [hstr, Option.bind_eq_bind, Option.bind_some]
  rw [show skipSpace (':' :: ' ' :: (dumps v ++ rest)) = ':' :: ' ' :: (dumps v ++ rest) from rfl]
  simp only [hvalue]

theorem size_pos (v : Value) : 0 < size v := by
  cases v <;> simp [size]

mutual

/-- A value reads back, up to what stops a number. -/
theorem scanOnce_dumps : ∀ (v : Value) (n : ℕ) (rest : List Char), size v ≤ n →
    Stops continuesNumber rest → scanOnce n (dumps v ++ rest) = some (v, rest)
  | v, 0, _, hn, _ => absurd hn (Nat.not_le_of_gt (size_pos v))
  | .null, _ + 1, _, _, _ => rfl
  | .bool true, _ + 1, _, _, _ => rfl
  | .bool false, _ + 1, _, _, _ => rfl
  | .int i, n + 1, rest, _, h => by
      have hscan := scanNumber_dumpsInt i h
      obtain ⟨c, cs, hc, hnumber⟩ := dumpsInt_head i
      unfold dumps
      rw [hc, List.cons_append] at hscan ⊢
      rw [scanOnce_number _ n hnumber, hscan]
  | .float x, n + 1, rest, _, h => by
      have hscan := scanNumber_dumpsDecimal x h
      obtain ⟨c, cs, hc, hnumber⟩ := dumpsDecimal_head x
      unfold dumps
      rw [hc, List.cons_append] at hscan ⊢
      rw [scanOnce_number _ n hnumber, hscan]
  | .str s, n + 1, rest, _, _ => by
      have hscan := scanStr_append s rest
      simp [dumps, dumpsStr, scanOnce, hscan]
  | .arr [], _ + 1, _, _, _ => rfl
  | .arr (v :: vs), n + 1, rest, hn, _ => by
      have hfuel : 1 + size v + sizeItems vs ≤ n := by
        unfold size sizeItems at hn
        omega
      have hitems := scanItems_dumps v vs n rest hfuel
      obtain ⟨c, cs, hc, hspace, hend⟩ := dumps_head v
      simp only [dumps, List.cons_append, List.append_assoc, scanOnce, skipSpace_dumps]
      rw [hc, List.cons_append] at hitems ⊢
      split
      case h_1 heq => exact absurd (List.head_eq_of_cons_eq heq) hend
      case h_2 => rw [hitems, Option.map_some]
  | .obj [], _ + 1, _, _, _ => rfl
  | .obj ((k, v) :: ms), n + 1, rest, hn, _ => by
      have hfuel : 1 + size v + sizeMembers ms ≤ n := by
        unfold size sizeMembers at hn
        omega
      have hmembers := scanMembers_dumps k v ms n rest hfuel
      simp only [dumpsStr, List.cons_append, List.append_assoc, List.nil_append] at hmembers
      simp [dumps, dumpsStr, scanOnce, skipSpace, isSpace, hmembers]

/-- The items from one on read back. -/
theorem scanItems_dumps : ∀ (v : Value) (vs : List Value) (n : ℕ) (rest : List Char),
    1 + size v + sizeItems vs ≤ n →
    scanItems n (dumps v ++ (dumpsItems vs ++ rest)) = some (v :: vs, rest)
  | v, vs, 0, _, hn => by omega
  | v, [], n + 1, rest, hn => by
      have hv := scanOnce_dumps v n (dumpsItems [] ++ rest) (by omega) (stops_dumpsItems [] rest)
      unfold scanItems
      rw [hv]
      rfl
  | v, u :: vs, n + 1, rest, hn => by
      have hv := scanOnce_dumps v n (dumpsItems (u :: vs) ++ rest) (by omega)
        (stops_dumpsItems (u :: vs) rest)
      have hfuel : 1 + size u + sizeItems vs ≤ n := by
        unfold sizeItems at hn
        omega
      have hvs := scanItems_dumps u vs n rest hfuel
      have hskip : skipSpace (' ' :: (dumps u ++ (dumpsItems vs ++ rest))) =
          dumps u ++ (dumpsItems vs ++ rest) := skipSpace_dumps u _
      unfold scanItems
      rw [hv]
      simp only [dumpsItems, List.cons_append, List.append_assoc, Option.bind_eq_bind,
        Option.bind_some]
      change (scanItems n (skipSpace (' ' :: (dumps u ++ (dumpsItems vs ++ rest))))).bind _ = _
      rw [hskip, hvs]
      rfl

/-- The members from one on read back. -/
theorem scanMembers_dumps : ∀ (k : PlainText) (v : Value) (ms : List (PlainText × Value)) (n : ℕ)
    (rest : List Char), 1 + size v + sizeMembers ms ≤ n →
    scanMembers n (dumpsStr k ++ (':' :: ' ' :: (dumps v ++ (dumpsMembers ms ++ rest)))) =
      some ((k, v) :: ms, rest)
  | k, v, ms, 0, _, hn => by omega
  | k, v, [], n + 1, rest, hn => by
      have hv := scanOnce_dumps v n (dumpsMembers [] ++ rest) (by omega)
        (stops_dumpsMembers [] rest)
      rw [scanMembers_key, hv]
      rfl
  | k, v, (l, u) :: ms, n + 1, rest, hn => by
      have hv := scanOnce_dumps v n (dumpsMembers ((l, u) :: ms) ++ rest) (by omega)
        (stops_dumpsMembers ((l, u) :: ms) rest)
      have hfuel : 1 + size u + sizeMembers ms ≤ n := by
        unfold sizeMembers at hn
        omega
      have hms := scanMembers_dumps l u ms n rest hfuel
      have hnext : dumpsMembers ((l, u) :: ms) ++ rest = ',' :: ' ' ::
          (dumpsStr l ++ (':' :: ' ' :: (dumps u ++ (dumpsMembers ms ++ rest)))) := by
        simp [dumpsMembers]
      rw [scanMembers_key, hv, hnext]
      change (scanMembers n (dumpsStr l ++ (':' :: ' ' :: (dumps u ++
        (dumpsMembers ms ++ rest))))).bind _ = _
      rw [hms]
      rfl

end

mutual

/-- The text of a value is long enough to pay for reading it. -/
theorem size_le : ∀ v : Value, size v ≤ (dumps v).length
  | .null => by decide
  | .bool true => by decide
  | .bool false => by decide
  | .int i => by
      obtain ⟨c, cs, hc, _⟩ := dumpsInt_head i
      simp [size, dumps, hc]
  | .float x => by
      obtain ⟨c, cs, hc, _⟩ := dumpsDecimal_head x
      simp [size, dumps, hc]
  | .str s => by simp [size, dumps, dumpsStr]
  | .arr [] => by decide
  | .arr (v :: vs) => by
      have hv := size_le v
      have hvs := sizeItems_le vs
      simp only [size, sizeItems, dumps, List.length_cons, List.length_append]
      omega
  | .obj [] => by decide
  | .obj ((k, v) :: ms) => by
      have hv := size_le v
      have hms := sizeMembers_le ms
      simp only [size, sizeMembers, dumps, dumpsStr, List.length_cons, List.length_append]
      omega

theorem sizeItems_le : ∀ vs : List Value, sizeItems vs + 1 ≤ (dumpsItems vs).length
  | [] => by decide
  | v :: vs => by
      have hv := size_le v
      have hvs := sizeItems_le vs
      simp only [sizeItems, dumpsItems, List.length_cons, List.length_append]
      omega

theorem sizeMembers_le : ∀ ms : List (PlainText × Value),
    sizeMembers ms + 1 ≤ (dumpsMembers ms).length
  | [] => by decide
  | (k, v) :: ms => by
      have hv := size_le v
      have hms := sizeMembers_le ms
      simp only [sizeMembers, dumpsMembers, dumpsStr, List.length_cons, List.length_append]
      omega

end

/-- **A value reads back.** -/
theorem loads_dumps (v : Value) : loads (dumps v) = some v := by
  have hfuel : size v ≤ (dumps v).length + 1 := Nat.le_succ_of_le (size_le v)
  have hscan := scanOnce_dumps v _ [] hfuel nofun
  have hskip := skipSpace_dumps v []
  rw [List.append_nil] at hscan hskip
  unfold loads
  rw [hskip, hscan]
  rfl

/-! ## Lines -/

/-- A text without line breaks: none of its characters is below the space. -/
def OneLine (cs : List Char) : Prop := ∀ c ∈ cs, ' ' ≤ c

theorem oneLine_cons {c : Char} {cs : List Char} : OneLine (c :: cs) ↔ ' ' ≤ c ∧ OneLine cs :=
  List.forall_mem_cons

theorem oneLine_append {cs ds : List Char} : OneLine (cs ++ ds) ↔ OneLine cs ∧ OneLine ds :=
  List.forall_mem_append

theorem oneLine_of_digits {cs : List Char} (h : ∀ c ∈ cs, c.isDigit = true) : OneLine cs := by
  intro c hc
  have hdigit := h c hc
  simp only [Char.isDigit, Bool.and_eq_true, decide_eq_true_eq] at hdigit
  have hzero : '0' ≤ c := hdigit.1
  exact Char.le_trans (show ' ' ≤ '0' by decide) hzero

theorem oneLine_dumpsNat (n : ℕ) : OneLine (dumpsNat n) :=
  oneLine_of_digits fun _ => Nat.isDigit_of_mem_toDigits (by decide) (by decide)

theorem oneLine_dumpsInt (n : ℤ) : OneLine (dumpsInt n) := by
  unfold dumpsInt
  split
  · exact oneLine_cons.mpr ⟨by decide, oneLine_dumpsNat _⟩
  · exact oneLine_dumpsNat _

theorem oneLine_dumpsDecimal (x : Decimal) : OneLine (dumpsDecimal x) := by
  obtain ⟨negative, whole, fraction, exponent, _⟩ := x
  unfold dumpsDecimal
  refine oneLine_append.mpr ⟨?_, oneLine_append.mpr ⟨oneLine_dumpsNat _,
    oneLine_append.mpr ⟨?_, ?_⟩⟩⟩
  · cases negative <;> simp [OneLine]
  · cases fraction with
    | none => simp [OneLine, dumpsFraction]
    | some d => exact oneLine_cons.mpr ⟨by decide, oneLine_of_digits d.digits⟩
  · rcases exponent with _ | ⟨negative, d⟩
    · simp [OneLine, dumpsExponent]
    · refine oneLine_cons.mpr ⟨by decide, oneLine_cons.mpr ⟨?_, oneLine_of_digits d.digits⟩⟩
      cases negative <;> decide

theorem oneLine_dumpsStr (s : PlainText) : OneLine (dumpsStr s) := by
  refine oneLine_cons.mpr ⟨by decide, oneLine_append.mpr ⟨fun c hc => ?_, by simp [OneLine]⟩⟩
  have hplain := s.plain c hc
  simp only [isPlain, decide_eq_true_eq] at hplain
  exact hplain.1

mutual

/-- The text of a value is one line. -/
theorem oneLine_dumps : ∀ v : Value, OneLine (dumps v)
  | .null => by simp [OneLine, dumps]
  | .bool true => by simp [OneLine, dumps]
  | .bool false => by simp [OneLine, dumps]
  | .int i => oneLine_dumpsInt i
  | .float x => oneLine_dumpsDecimal x
  | .str s => oneLine_dumpsStr s
  | .arr [] => by simp [OneLine, dumps]
  | .arr (v :: vs) => by
      refine oneLine_cons.mpr ⟨by decide, ?_⟩
      exact oneLine_append.mpr ⟨oneLine_dumps v, oneLine_dumpsItems vs⟩
  | .obj [] => by simp [OneLine, dumps]
  | .obj ((k, v) :: ms) => by
      refine oneLine_cons.mpr ⟨by decide, oneLine_append.mpr ⟨oneLine_dumpsStr k, ?_⟩⟩
      refine oneLine_cons.mpr ⟨by decide, oneLine_cons.mpr ⟨by decide, ?_⟩⟩
      exact oneLine_append.mpr ⟨oneLine_dumps v, oneLine_dumpsMembers ms⟩

theorem oneLine_dumpsItems : ∀ vs : List Value, OneLine (dumpsItems vs)
  | [] => by simp [OneLine, dumpsItems]
  | v :: vs => by
      refine oneLine_cons.mpr ⟨by decide, oneLine_cons.mpr ⟨by decide, ?_⟩⟩
      exact oneLine_append.mpr ⟨oneLine_dumps v, oneLine_dumpsItems vs⟩

theorem oneLine_dumpsMembers : ∀ ms : List (PlainText × Value), OneLine (dumpsMembers ms)
  | [] => by simp [OneLine, dumpsMembers]
  | (k, v) :: ms => by
      refine oneLine_cons.mpr ⟨by decide, oneLine_cons.mpr ⟨by decide, ?_⟩⟩
      refine oneLine_append.mpr ⟨oneLine_dumpsStr k, ?_⟩
      refine oneLine_cons.mpr ⟨by decide, oneLine_cons.mpr ⟨by decide, ?_⟩⟩
      exact oneLine_append.mpr ⟨oneLine_dumps v, oneLine_dumpsMembers ms⟩

end

theorem dumpsMembers_end (ms : List (PlainText × Value)) :
    ∃ front, dumpsMembers ms = front ++ ['}'] := by
  induction ms with
  | nil => exact ⟨[], rfl⟩
  | cons m ms ih =>
      obtain ⟨front, h⟩ := ih
      refine ⟨',' :: ' ' :: (dumpsStr m.1 ++ (':' :: ' ' :: (dumps m.2 ++ front))), ?_⟩
      rw [dumpsMembers, h]
      simp

/-- The text of an object stands between braces. -/
theorem dumps_obj (ms : List (PlainText × Value)) :
    ∃ body, dumps (.obj ms) = '{' :: (body ++ ['}']) := by
  rcases ms with _ | ⟨⟨k, v⟩, ms⟩
  · exact ⟨[], by simp [dumps]⟩
  · obtain ⟨front, h⟩ := dumpsMembers_end ms
    refine ⟨dumpsStr k ++ (':' :: ' ' :: (dumps v ++ front)), ?_⟩
    rw [dumps, h]
    simp

end Json
