import Mathlib.Data.List.Infix
import Mathlib.Data.Nat.Digits.Defs
import Mathlib.Data.Nat.Digits.Lemmas

/-!
Contract: searching text and reading numbers, as C programs do.

Owns: `strstr`, `sscanf` with the format `%d`, `atoi`, `strtol`, decimal notation, that a
key which cannot overlap itself is found where it stands first, the first line of a sequence
of lines, the line that a reader with a bounded buffer takes from a stream, and that a number
is read back from its decimal notation.

Does not own: which keys a program searches for.
-/

namespace PhantomTracker.Foundation

/-! ## Searching -/

section Search

variable {α : Type} {key before : List α}

/-- No proper start of the key is also an end of it, so two occurrences never
overlap. -/
def Unbordered (key : List α) : Prop :=
  ∀ length < key.length, length ≠ 0 → key.take length ≠ key.drop (key.length - length)

/-- A key that occurs no earlier does not start inside the text before it. -/
theorem not_prefix_of_absent (unbordered : Unbordered key) (nonempty : before ≠ [])
    (absent : ¬ key <:+: before)
    (rest : List α) : ¬ key <+: before ++ (key ++ rest) := by
  intro occurs
  by_cases inside : key.length ≤ before.length
  · -- The occurrence ends before the key itself starts.
    exact absent (List.prefix_of_prefix_length_le occurs
      (List.prefix_append before (key ++ rest)) inside).isInfix
  · -- The occurrence overlaps the key, whose start is then also its end.
    have shorter : key.length - before.length < key.length := by
      have positive := List.length_pos_of_ne_nil nonempty
      omega
    apply unbordered (key.length - before.length) shorter (by omega)
    rcases occurs with ⟨tail, whole⟩
    have later := congrArg (List.drop before.length) whole
    rw [List.drop_left, List.drop_append_of_le_length (by omega)] at later
    have start := congrArg (List.take (key.length - before.length)) later
    rw [List.take_append_of_le_length (by rw [List.length_drop]), ← List.length_drop,
      List.take_length, List.length_drop,
      List.take_append_of_le_length (Nat.sub_le key.length before.length)] at start
    rw [← start]
    congr 1
    omega

/-- A terminator that is not part of the key completes no occurrence. -/
theorem absent_append_singleton {char : α} (nonempty : key ≠ []) (foreign : char ∉ key)
    (absent : ¬ key <:+: before) : ¬ key <:+: before ++ [char] := by
  rw [List.infix_concat_iff, List.suffix_concat_iff]
  rintro ((empty | ⟨start, whole, _⟩) | earlier)
  · exact nonempty empty
  · rw [whole] at foreign
    exact foreign (List.mem_append_right start List.mem_cons_self)
  · exact absent earlier

/-- Text without the separator that starts a sequence of lines is part of the first
line. -/
theorem first_line_extends {separator : α} {line rest left right : List α}
    (free : separator ∉ left) (whole : line ++ separator :: rest = left ++ right) :
    ∃ extra, line = left ++ extra ∧ right = extra ++ separator :: rest := by
  rcases List.append_eq_append_iff.mp whole with ⟨extra, leftEq, restEq⟩ | split
  · cases extra with
    | nil => exact ⟨[], by rw [leftEq, List.append_nil, List.append_nil], restEq.symm⟩
    | cons char extra =>
        obtain rfl := (List.cons.inj restEq).1
        rw [leftEq] at free
        exact absurd (List.mem_append_right line List.mem_cons_self) free
  · exact split

/-- The text before the first separator is the first line. -/
theorem first_line_eq {separator : α} {line rest left right : List α}
    (lineFree : separator ∉ line) (free : separator ∉ left)
    (whole : line ++ separator :: rest = left ++ separator :: right) :
    line = left ∧ rest = right := by
  rcases first_line_extends free whole with ⟨extra, lineEq, rightEq⟩
  cases extra with
  | nil => exact ⟨by rw [lineEq, List.append_nil], (List.cons.inj rightEq).2.symm⟩
  | cons char extra =>
      obtain rfl := (List.cons.inj rightEq).1
      rw [lineEq] at lineFree
      exact absurd (List.mem_append_right left List.mem_cons_self) lineFree

variable [DecidableEq α] {rest : List α}

instance (key : List α) : Decidable (Unbordered key) :=
  inferInstanceAs (Decidable (∀ length < key.length, length ≠ 0 →
    key.take length ≠ key.drop (key.length - length)))

/-- `strstr`: the text from the first occurrence of `key` on. -/
def strstr (key : List α) : List α → Option (List α)
  | [] => if key.isPrefixOf [] then some [] else none
  | char :: text =>
      if key.isPrefixOf (char :: text) then some (char :: text) else strstr key text

/-- `strstr` finds nothing when the key does not occur. -/
theorem strstr_of_absent {text : List α} (absent : ¬ key <:+: text) :
    strstr key text = none := by
  induction text with
  | nil =>
      rw [strstr, if_neg]
      intro found
      exact absent (List.isPrefixOf_iff_prefix.mp found).isInfix
  | cons char text inductionHypothesis =>
      rw [strstr, if_neg]
      · exact inductionHypothesis fun occurs =>
          absent (occurs.trans (List.suffix_cons char text).isInfix)
      · intro found
        exact absent (List.isPrefixOf_iff_prefix.mp found).isInfix

theorem strstr_prefix : strstr key (key ++ rest) = some (key ++ rest) := by
  have found : key.isPrefixOf (key ++ rest) = true :=
    List.isPrefixOf_iff_prefix.mpr (List.prefix_append key rest)
  cases whole : key ++ rest with
  | nil =>
      rw [whole] at found
      rw [strstr, if_pos found]
  | cons char text =>
      rw [whole] at found
      rw [strstr, if_pos found]

/-- `strstr` finds a key behind text in which it does not occur. -/
theorem strstr_append (unbordered : Unbordered key) (absent : ¬ key <:+: before) :
    strstr key (before ++ (key ++ rest)) = some (key ++ rest) := by
  induction before with
  | nil => exact strstr_prefix
  | cons char before inductionHypothesis =>
      have elsewhere := not_prefix_of_absent unbordered (List.cons_ne_nil char before) absent rest
      rw [List.cons_append, strstr, if_neg]
      · exact inductionHypothesis fun occurs =>
          absent (occurs.trans (List.suffix_cons char before).isInfix)
      · intro found
        exact elsewhere (List.isPrefixOf_iff_prefix.mp found)

/-- What `strstr` finds is the rest of the text from an occurrence on. -/
theorem strstr_some {text found : List α} (search : strstr key text = some found) :
    key <+: found ∧ found.length ≤ text.length := by
  induction text with
  | nil =>
      rw [strstr] at search
      split at search
      next occurs =>
          obtain rfl := Option.some.inj search
          exact ⟨List.isPrefixOf_iff_prefix.mp occurs, le_rfl⟩
      · cases search
  | cons char text inductionHypothesis =>
      rw [strstr] at search
      split at search
      next occurs =>
          obtain rfl := Option.some.inj search
          exact ⟨List.isPrefixOf_iff_prefix.mp occurs, le_rfl⟩
      · have later := inductionHypothesis search
        exact ⟨later.1, later.2.trans (Nat.le_succ text.length)⟩

end Search

/-! ## Lines of a stream -/

section Lines

variable {α : Type} {separator : α} {limit : Nat} {stream : Nat → Option α} {chars : List α}

/-- The characters are the line that starts the stream, up to and including its first
separator, cut at `limit`. A finite stream gives nothing at its end. -/
structure IsCutLine (separator : α) (limit : Nat) (stream : Nat → Option α)
    (chars : List α) : Prop where
  taken : ∀ index < chars.length, stream index = chars[index]?
  length_le : chars.length ≤ limit
  only_last : ∀ index, index + 1 < chars.length → stream index ≠ some separator
  stops : chars.length = limit ∨ stream chars.length = none ∨ chars.getLast? = some separator

namespace IsCutLine

theorem nil_of_limit : IsCutLine separator 0 stream [] where
  taken _ below := absurd below (Nat.not_lt_zero _)
  length_le := le_rfl
  only_last _ below := absurd below (Nat.not_lt_zero _)
  stops := .inl rfl

theorem nil_of_end (ended : stream 0 = none) : IsCutLine separator limit stream [] where
  taken _ below := absurd below (Nat.not_lt_zero _)
  length_le := Nat.zero_le limit
  only_last _ below := absurd below (Nat.not_lt_zero _)
  stops := .inr (.inl ended)

theorem singleton (first : stream 0 = some separator) :
    IsCutLine separator (limit + 1) stream [separator] where
  taken index below := by
    rw [Nat.lt_one_iff.mp below]
    exact first
  length_le := Nat.le_add_left 1 limit
  only_last index below := absurd (Nat.lt_of_succ_lt_succ below) (Nat.not_lt_zero index)
  stops := .inr (.inr rfl)

theorem cons {char : α} (first : stream 0 = some char) (other : char ≠ separator)
    (rest : IsCutLine separator limit (fun index => stream (index + 1)) chars) :
    IsCutLine separator (limit + 1) stream (char :: chars) where
  taken index below := by
    cases index with
    | zero => exact first
    | succ index => exact rest.taken index (Nat.lt_of_succ_lt_succ below)
  length_le := Nat.succ_le_succ rest.length_le
  only_last index below := by
    cases index with
    | zero =>
        rw [first]
        exact fun same => other (Option.some.inj same)
    | succ index => exact rest.only_last index (Nat.lt_of_succ_lt_succ below)
  stops := by
    rcases rest.stops with full | ended | last
    · exact .inl (congrArg Nat.succ full)
    · exact .inr (.inl ended)
    · rw [List.getLast?_cons, last]
      exact .inr (.inr rfl)

/-- Where a line stops, no other line of the stream goes on. -/
theorem length_le_of_stops {other : List α} (first : IsCutLine separator limit stream chars)
    (second : IsCutLine separator limit stream other) : other.length ≤ chars.length := by
  by_contra longer
  have below : chars.length < other.length := Nat.lt_of_not_le longer
  rcases first.stops with full | ended | last
  · exact absurd second.length_le (by omega)
  · have present := second.taken chars.length below
    rw [ended, List.getElem?_eq_getElem below] at present
    cases present
  · have positive : 0 < chars.length := by
      cases chars with
      | nil => cases last
      | cons _ _ => exact Nat.succ_pos _
    rw [List.getLast?_eq_getElem?] at last
    have here := (first.taken (chars.length - 1) (by omega)).trans last
    exact second.only_last (chars.length - 1) (by omega) here

theorem unique {other : List α} (first : IsCutLine separator limit stream chars)
    (second : IsCutLine separator limit stream other) : chars = other := by
  have sameLength : chars.length = other.length :=
    Nat.le_antisymm (second.length_le_of_stops first) (first.length_le_of_stops second)
  apply List.ext_getElem?
  intro index
  by_cases below : index < chars.length
  · rw [← first.taken index below, second.taken index (sameLength ▸ below)]
  · rw [List.getElem?_eq_none (Nat.le_of_not_lt below),
      List.getElem?_eq_none (sameLength ▸ Nat.le_of_not_lt below)]

end IsCutLine

variable [DecidableEq α]

/-- A finite text up to and including its first separator. -/
def firstLine (separator : α) : List α → List α
  | [] => []
  | char :: text => if char = separator then [char] else char :: firstLine separator text

/-- The cut line of a finite stream. -/
theorem isCutLine_firstLine (separator : α) (limit : Nat) (text : List α) :
    IsCutLine separator limit (fun index => text[index]?)
      ((firstLine separator text).take limit) := by
  induction text generalizing limit with
  | nil =>
      rw [firstLine, List.take_nil]
      exact .nil_of_end rfl
  | cons char text inductionHypothesis =>
      cases limit with
      | zero => exact .nil_of_limit
      | succ limit =>
          rw [firstLine]
          split
          next same =>
              subst same
              rw [List.take_succ_cons, List.take_nil]
              exact .singleton List.getElem?_cons_zero
          next other => exact .cons rfl other (inductionHypothesis limit)

end Lines

/-! ## Numbers -/

/-- `isspace` in the C locale. -/
def isSpace (char : UInt8) : Bool := char == 32 || (9 ≤ char && char ≤ 13)

def isDigit (char : UInt8) : Bool := 48 ≤ char && char ≤ 57

/-- The number that a sequence of decimal digits denotes. -/
def digitsValue (digits : List UInt8) : Nat :=
  digits.foldl (fun value char => value * 10 + (char.toNat - 48)) 0

/-- The sign in front of a number and the text behind it. -/
def takeSign : List UInt8 → Int × List UInt8
  | 45 :: text => (-1, text)
  | 43 :: text => (1, text)
  | text => (1, text)

/-- `sscanf(text, "%d", &value)`: the value stored, or nothing when the text starts
with no number. The C library reads a `long`, keeps it within its range and stores the
low half. -/
def scanInt (text : List UInt8) : Option Int :=
  let signed := takeSign (text.dropWhile isSpace)
  let digits := signed.2.takeWhile isDigit
  if digits.isEmpty then none
  else some (Int.bmod
    (max (-2 ^ 63) (min (2 ^ 63 - 1) (signed.1 * (digitsValue digits : Int)))) (2 ^ 32))

/-- `atoi`, which gives 0 for a text that starts with no number. -/
def atoi (text : List UInt8) : Int := (scanInt text).getD 0

/-- `atoi` returns an `int`. -/
theorem atoi_bounds (text : List UInt8) : -2 ^ 31 ≤ atoi text ∧ atoi text < 2 ^ 31 := by
  unfold atoi scanInt
  dsimp only
  split
  · decide
  · rw [Option.getD_some]
    exact ⟨Int.le_bmod (by decide), Int.bmod_lt (by decide)⟩

/-- The decimal notation of a number. -/
def decimal (number : Nat) : List UInt8 :=
  if number = 0 then [48]
  else (Nat.digits 10 number).reverse.map fun digit => UInt8.ofNat (48 + digit)

/-- The text goes on with something other than a digit. -/
def StopsNumber (text : List UInt8) : Prop :=
  text.head?.any (fun char => !isDigit char) = true

instance (text : List UInt8) : Decidable (StopsNumber text) :=
  inferInstanceAs (Decidable (_ = true))

theorem StopsNumber.append {text : List UInt8} (stops : StopsNumber text) (rest : List UInt8) :
    StopsNumber (text ++ rest) := by
  cases text with
  | nil => cases stops
  | cons char text => exact stops

theorem digit_toNat {digit : Nat} (small : digit < 10) :
    (UInt8.ofNat (48 + digit)).toNat = 48 + digit := by
  rw [UInt8.toNat_ofNat']
  omega

theorem isDigit_ofNat {digit : Nat} (small : digit < 10) :
    isDigit (UInt8.ofNat (48 + digit)) = true := by
  have value := digit_toNat small
  simp only [isDigit, Bool.and_eq_true, decide_eq_true_eq, UInt8.le_iff_toNat_le, value]
  constructor
  · exact Nat.le_add_right 48 digit
  · change 48 + digit ≤ 57
    omega

theorem decimal_isDigit (number : Nat) : ∀ char ∈ decimal number, isDigit char = true := by
  intro char member
  unfold decimal at member
  split at member
  · rw [List.mem_singleton.mp member]
    rfl
  · rcases List.mem_map.mp member with ⟨digit, listed, rfl⟩
    exact isDigit_ofNat (Nat.digits_lt_base (by decide) (List.mem_reverse.mp listed))

theorem decimal_ne_nil (number : Nat) : decimal number ≠ [] := by
  unfold decimal
  split
  · exact List.cons_ne_nil _ _
  next nonzero =>
      rw [Ne, List.map_eq_nil_iff, List.reverse_eq_nil_iff]
      exact Nat.digits_ne_nil_iff_ne_zero.mpr nonzero

theorem digitsValue_append (digits : List UInt8) (char : UInt8) :
    digitsValue (digits ++ [char]) = digitsValue digits * 10 + (char.toNat - 48) := by
  unfold digitsValue
  rw [List.foldl_append]
  rfl

theorem digitsValue_digits {digits : List Nat} (small : ∀ digit ∈ digits, digit < 10) :
    digitsValue (digits.reverse.map fun digit => UInt8.ofNat (48 + digit)) =
      Nat.ofDigits 10 digits := by
  induction digits with
  | nil => rfl
  | cons digit digits inductionHypothesis =>
      have first := digit_toNat (small digit List.mem_cons_self)
      have others := inductionHypothesis fun other member =>
        small other (List.mem_cons_of_mem digit member)
      rw [List.reverse_cons, List.map_append, List.map_singleton, digitsValue_append, others,
        first, Nat.ofDigits_cons]
      change _ = digit + 10 * Nat.ofDigits 10 digits
      omega

theorem digitsValue_decimal (number : Nat) : digitsValue (decimal number) = number := by
  unfold decimal
  split
  next zero =>
      rw [zero]
      rfl
  · rw [digitsValue_digits fun digit => Nat.digits_lt_base (by decide), Nat.ofDigits_digits]

/-- Neither a blank nor a sign starts with a digit. -/
theorem takeSign_digit {char : UInt8} (digit : isDigit char = true) (text : List UInt8) :
    takeSign ((char :: text).dropWhile isSpace) = (1, char :: text) := by
  have bounds : 48 ≤ char.toNat ∧ char.toNat ≤ 57 := by
    simp only [isDigit, Bool.and_eq_true, decide_eq_true_eq, UInt8.le_iff_toNat_le] at digit
    exact digit
  have notSpace : isSpace char = false := by
    simp only [isSpace, Bool.or_eq_false_iff, Bool.and_eq_false_iff, beq_eq_false_iff_ne,
      decide_eq_false_iff_not, UInt8.le_iff_toNat_le]
    constructor
    · rintro rfl
      exact absurd bounds.1 (by decide)
    · right
      change ¬ char.toNat ≤ 13
      omega
  rw [List.dropWhile_cons_of_neg (by rw [notSpace]; decide)]
  unfold takeSign
  split
  next heads =>
      cases heads
      exact absurd bounds.1 (by decide)
  next heads =>
      cases heads
      exact absurd bounds.1 (by decide)
  next => rfl

theorem takeWhile_decimal (number : Nat) {rest : List UInt8} (stops : StopsNumber rest) :
    (decimal number ++ rest).takeWhile isDigit = decimal number := by
  rw [List.takeWhile_append_of_pos (decimal_isDigit number)]
  cases rest with
  | nil => cases stops
  | cons char rest =>
      have notDigit : isDigit char = false := by simpa [StopsNumber] using stops
      rw [List.takeWhile_cons_of_neg (by rw [notDigit]; decide), List.append_nil]

/-- A number of `int` range is read back from its decimal notation. -/
theorem scanInt_decimal {number : Nat} (inRange : number < 2 ^ 31) {rest : List UInt8}
    (stops : StopsNumber rest) : scanInt (decimal number ++ rest) = some (number : Int) := by
  have signless : takeSign ((decimal number ++ rest).dropWhile isSpace) =
      (1, decimal number ++ rest) := by
    cases digits : decimal number with
    | nil => exact absurd digits (decimal_ne_nil number)
    | cons char others =>
        have digit := decimal_isDigit number char (by rw [digits]; exact List.mem_cons_self)
        exact takeSign_digit digit (others ++ rest)
  have present : (decimal number).isEmpty = false :=
    List.isEmpty_eq_false_iff.mpr (decimal_ne_nil number)
  unfold scanInt
  simp only [signless, takeWhile_decimal number stops, present, digitsValue_decimal, one_mul]
  rw [if_neg Bool.false_ne_true, min_eq_right (by omega), max_eq_right (by omega),
    Int.bmod_eq_of_le (by omega) (by omega)]

/-- What `strtol` returns, whether it sets `errno`, and the text at `endptr`. -/
structure Strtol where
  value : Int
  outOfRange : Bool
  rest : List UInt8
deriving DecidableEq, Repr

/-- `strtol(text, &endptr, 10)`. -/
def strtol (text : List UInt8) : Strtol :=
  let signed := takeSign (text.dropWhile isSpace)
  let digits := signed.2.takeWhile isDigit
  if digits.isEmpty then ⟨0, false, text⟩
  else
    let number := signed.1 * (digitsValue digits : Int)
    ⟨max (-2 ^ 63) (min (2 ^ 63 - 1) number), decide (number < -2 ^ 63 ∨ 2 ^ 63 - 1 < number),
      signed.2.dropWhile isDigit⟩

end PhantomTracker.Foundation
