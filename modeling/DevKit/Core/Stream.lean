import DevKit.Core.Print

namespace DevKit
namespace Core

/-!
# Streams

A stream is the list of the bytes that come in time; where it ends, reading and
peeking time out.

`parseInt` skips what is not part of a number, and then reads digits into a `long`
of 32 bits.  It adds the character of a digit before it takes the one of zero away,
so it leaves the range of the type a little before the number does: a number that
has been printed comes back if it is at most 2147483599, and the last 48 numbers on
either side have no defined result.
-/

/-- The next byte of a stream, or -1; nothing is consumed. -/
def timedPeek : Bytes -> Int
  | [] => -1
  | c :: _ => c.toNat

/-- `c >= '0' && c <= '9'` -/
def isDigit (c : Int) : Bool :=
  decide (0x30 ≤ c) && decide (c ≤ 0x39)

/-- The next digit or minus sign, or -1; what stands in front of it is consumed. -/
def peekNextDigit : Bytes -> Int × Bytes
  | [] => (-1, [])
  | c :: rest =>
      if c = 0x2d then (c.toNat, c :: rest)
      else if isDigit c.toNat then (c.toNat, c :: rest)
      else peekNextDigit rest

/-- `value = value * 10 + c - '0';` -/
def addDigit (value : Int) (c : UInt8) : Option Int := do
  let shifted <- checkedInt (value * 10)
  let raised <- checkedInt (shifted + c.toNat)
  checkedInt (raised - 0x30)

/-- The loop of `parseInt`, for a stream whose first byte has been peeked. -/
def parseLoop (skipChar : UInt8) :
    (stream : Bytes) -> (isNegative : Bool) -> (value : Int) -> Option (Bool × Int × Bytes)
  | [], isNegative, value => some (isNegative, value, [])
  | c :: rest, isNegative, value => do
      let negative := if c = skipChar then isNegative else if c = 0x2d then true else isNegative
      let number <-
        (if c = skipChar then some value
        else if c = 0x2d then some value
        else if isDigit c.toNat then addDigit value c
        else some value)
      if isDigit (timedPeek rest) ∨ timedPeek rest = skipChar.toNat then parseLoop skipChar rest negative number
      else some (negative, number, rest)

/-- `parseInt(skipChar)`: the value and the rest of the stream. -/
def parseIntSkipping (skipChar : UInt8) (stream : Bytes) : Option (Int × Bytes) :=
  let peeked := peekNextDigit stream
  if peeked.1 < 0 then some (0, peeked.2)
  else do
    let parsed <- parseLoop skipChar peeked.2 false 0
    let value <- (if parsed.1 then checkedInt (-parsed.2.1) else some parsed.2.1)
    some (value, parsed.2.2)

/-- `NO_SKIP_CHAR` is 1. -/
def parseInt (stream : Bytes) : Option (Int × Bytes) :=
  parseIntSkipping 1 stream

/-! ## Numbers that have been printed -/

/-- The bytes in front of a number. -/
def NoNumber (front : Bytes) : Prop :=
  forall c, c ∈ front -> c ≠ 0x2d ∧ isDigit c.toNat = false

/-- What follows a number: the end of the stream, or a byte that is neither a digit
nor the character that is skipped. -/
def Behind (after : Bytes) : Prop :=
  forall c rest, after = c :: rest -> isDigit c.toNat = false ∧ c ≠ 1

theorem peekNextDigit_append {front : Bytes} (none : NoNumber front) (stream : Bytes) :
    peekNextDigit (front ++ stream) = peekNextDigit stream := by
  induction front with
  | nil => rfl
  | cons c front inductionHypothesis =>
      have first := none c List.mem_cons_self
      rw [List.cons_append, peekNextDigit, if_neg first.1, if_neg (by rw [first.2]; decide)]
      exact inductionHypothesis fun byte member => none byte (List.mem_cons_of_mem _ member)

theorem digitChar_digit {digit : Nat} (small : digit < 10) :
    (digitChar digit).toNat = digit + 0x30 ∧ isDigit (digitChar digit).toNat = true ∧
      digitChar digit ≠ 1 ∧ digitChar digit ≠ 0x2d := by
  revert digit
  decide

/-- Behind the last digit the loop ends. -/
theorem timedPeek_behind {after : Bytes} (behind : Behind after) :
    ¬ (isDigit (timedPeek after) = true ∨ timedPeek after = (1 : UInt8).toNat) := by
  cases after with
  | nil => decide
  | cons c rest =>
      have known := behind c rest rfl
      rintro (digit | skipped)
      · exact absurd digit (by rw [timedPeek, known.1]; decide)
      · refine known.2 (UInt8.toNat.inj ?_)
        exact Int.ofNat.inj skipped

/-- The largest number that the loop can read. -/
def limit : Nat :=
  2147483599

/-- The character of a digit is added before the one of zero is taken away. -/
theorem addDigit_digitChar {start digit : Nat} (small : digit < 10) (within : start ≤ limit) :
    addDigit start (digitChar digit) = if start * 10 + digit ≤ limit then some ↑(start * 10 + digit) else none := by
  rcases digitChar_digit small with ⟨value, -⟩
  unfold addDigit limit at *
  rw [value]
  by_cases fits : start * 10 + digit ≤ 2147483599
  · rw [checkedInt_some (by omega) (by omega), Option.bind_eq_bind, Option.bind_some,
      checkedInt_some (by omega) (by omega), Option.bind_some, checkedInt_some (by omega) (by omega), if_pos fits]
    congr 1
    omega
  · have raised (shifted : Int) (same : checkedInt (start * 10) = some shifted) :
        checkedInt (shifted + ↑(digit + 0x30)) = none := by
      unfold checkedInt at same ⊢
      split at same
      · cases same
        exact if_neg (by omega)
      · cases same
    rw [if_neg fits]
    cases shifted : checkedInt (start * 10) with
    | none => rfl
    | some shifted => rw [Option.bind_eq_bind, Option.bind_some, raised _ shifted, Option.bind_none]

/-- The loop reads the digits, up to the limit. -/
theorem parseLoop_digits {digits : List Nat} (small : forall digit, digit ∈ digits -> digit < 10) (some : digits ≠ [])
    {after : Bytes} (behind : Behind after) (isNegative : Bool) {start : Nat} (within : start ≤ limit) :
    parseLoop 1 (digits.map digitChar ++ after) isNegative start =
      if Numeral.continued 10 start digits ≤ limit then
        Option.some (isNegative, ↑(Numeral.continued 10 start digits), after)
      else none := by
  induction digits generalizing start with
  | nil => exact absurd rfl some
  | cons digit digits inductionHypothesis =>
      have smallDigit := small digit List.mem_cons_self
      rcases digitChar_digit smallDigit with ⟨_, isADigit, other, noSign⟩
      have grows : start * 10 + digit ≤ Numeral.continued 10 start (digit :: digits) :=
        Numeral.le_continued (by decide) (start * 10 + digit) digits
      rw [List.map_cons, List.cons_append, parseLoop]
      simp only [if_neg other, if_neg noSign, if_pos isADigit, addDigit_digitChar smallDigit within]
      by_cases fits : start * 10 + digit ≤ limit
      · rw [if_pos fits, Option.bind_eq_bind, Option.bind_some]
        cases digits with
        | nil =>
            rw [List.map_nil, List.nil_append, if_neg (timedPeek_behind behind)]
            exact (if_pos fits).symm
        | cons next digits =>
            have continues : isDigit (timedPeek ((next :: digits).map digitChar ++ after)) = true :=
              (digitChar_digit (small next (List.mem_cons_of_mem _ List.mem_cons_self))).2.1
            rw [if_pos (Or.inl continues)]
            exact inductionHypothesis (fun other member => small other (List.mem_cons_of_mem _ member))
              (List.cons_ne_nil _ _) fits
      · rw [if_neg fits, if_neg (by omega)]
        rfl

theorem parseInt_of_peeked {front stream : Bytes} (none : NoNumber front) {c : Nat}
    (peeked : peekNextDigit stream = ((c : Int), stream)) :
    parseInt (front ++ stream) = (parseLoop 1 stream false 0).bind fun parsed =>
      (if parsed.1 then checkedInt (-parsed.2.1) else some parsed.2.1).bind fun value => some (value, parsed.2.2) := by
  unfold parseInt parseIntSkipping
  simp only [peekNextDigit_append none, peeked]
  exact if_neg (Int.not_lt.mpr (Int.natCast_nonneg c))

/-- The text of a number begins with a digit. -/
theorem numeral_begins (number : Nat) (after : Bytes) :
    exists first rest, numeral 10 number ++ after = first :: rest ∧ isDigit first.toNat = true ∧ first ≠ 0x2d := by
  unfold numeral
  cases known : Numeral.digits 10 number with
  | nil => exact absurd known (Numeral.digits_ne_nil 10 number)
  | cons digit digits =>
      have small : digit < 10 := Numeral.digit_lt (by decide) (known ▸ List.mem_cons_self)
      rcases digitChar_digit small with ⟨_, isADigit, _, noSign⟩
      exact ⟨_, _, rfl, isADigit, noSign⟩

theorem parseLoop_numeral {after : Bytes} (behind : Behind after) (number : Nat) (isNegative : Bool) :
    parseLoop 1 (numeral 10 number ++ after) isNegative 0 =
      if number ≤ limit then some (isNegative, ↑number, after) else none := by
  have small (digit : Nat) (member : digit ∈ Numeral.digits 10 number) : digit < 10 :=
    Numeral.digit_lt (by decide) member
  have digits := parseLoop_digits small (Numeral.digits_ne_nil 10 number) behind isNegative (Nat.zero_le limit)
  rw [Numeral.continued_digits (by decide)] at digits
  exact digits

/-- A number behind bytes that are not part of one. -/
theorem parseInt_numeral {front after : Bytes} (none : NoNumber front) (behind : Behind after) (number : Nat) :
    parseInt (front ++ (numeral 10 number ++ after)) =
      if number ≤ limit then some (↑number, after) else Option.none := by
  rcases numeral_begins number after with ⟨first, rest, text, isADigit, noSign⟩
  have peeked : peekNextDigit (numeral 10 number ++ after) = ((first.toNat : Int), numeral 10 number ++ after) := by
    rw [text, peekNextDigit, if_neg noSign, if_pos isADigit]
  rw [parseInt_of_peeked none peeked, parseLoop_numeral behind number false]
  by_cases within : number ≤ limit
  · rw [if_pos within, if_pos within]
    rfl
  · rw [if_neg within, if_neg within]
    rfl

/-- A number with a minus sign. -/
theorem parseInt_negative {front after : Bytes} (none : NoNumber front) (behind : Behind after) (number : Nat) :
    parseInt (front ++ (0x2d :: numeral 10 number ++ after)) =
      if number ≤ limit then some (-↑number, after) else Option.none := by
  have sign : parseLoop 1 (0x2d :: numeral 10 number ++ after) false 0 =
      parseLoop 1 (numeral 10 number ++ after) true 0 := by
    rcases numeral_begins number after with ⟨first, rest, text, isADigit, _⟩
    have continues : isDigit (timedPeek (numeral 10 number ++ after)) = true := by
      rw [text]
      exact isADigit
    rw [List.cons_append, parseLoop]
    exact if_pos (Or.inl continues)
  have peeked : peekNextDigit (0x2d :: numeral 10 number ++ after) =
      (((0x2d : UInt8).toNat : Int), 0x2d :: numeral 10 number ++ after) := by
    rw [List.cons_append, peekNextDigit, if_pos rfl]
  rw [parseInt_of_peeked none peeked, sign, parseLoop_numeral behind number true]
  by_cases within : number ≤ limit
  · have negated : checkedInt (-↑number) = some (-↑number) := by
      unfold limit at within
      exact checkedInt_some (by omega) (by omega)
    rw [if_pos within, if_pos within, Option.bind_some]
    dsimp only
    rw [if_pos rfl, negated, Option.bind_some]
  · rw [if_neg within, if_neg within]
    rfl

/-- Every `long` but the most negative one is printed; it comes back from its text
exactly if it is within the limit, and otherwise reading it is undefined.  Every
`unsigned long` is printed as its numeral in every base from 2 to 36. -/
theorem print_parseInt {n : Int} (low : -2 ^ 31 < n) (high : n < 2 ^ 31) {front after : Bytes} (plain : NoNumber front)
    (behind : Behind after) {number base : Nat} (long : number < 2 ^ 32) (large : 2 ≤ base) (small : base ≤ 36)
    (output : Bytes) :
    (exists text, printLong n 10 output = some (text.length, output ++ text) ∧
      parseInt (front ++ text ++ after) = if n.natAbs ≤ 2147483599 then some (n, after) else none) ∧
    printUnsigned number base output = some ((numeral base number).length, output ++ numeral base number) := by
  refine ⟨⟨_, printLong_ten low high output, ?_⟩, printUnsigned_eq large small long output⟩
  rw [List.append_assoc]
  by_cases negative : n < 0
  · have value : -(n.natAbs : Int) = n := by omega
    rw [if_pos negative, parseInt_negative plain behind, value]
    rfl
  · have value : (n.natAbs : Int) = n := by omega
    rw [if_neg negative, parseInt_numeral plain behind, value]
    rfl

/-- Minus twelve behind a space and in front of a comma, and 255 in base 16. -/
theorem print_parseInt_sample :
    (exists text, printLong (-12) 10 [] = some (text.length, [] ++ text) ∧
      parseInt ([0x20] ++ text ++ [0x2c]) = some (-12, [0x2c])) ∧
    printUnsigned 255 (16 : Nat) [] = some ((numeral 16 255).length, [] ++ numeral 16 255) := by
  have plain : NoNumber [0x20] := by
    rintro c (_ | ⟨_, impossible⟩)
    · decide
    · cases impossible
  have behind : Behind [0x2c] := by
    rintro c rest same
    cases same
    decide
  have low : -2 ^ 31 < (-12 : Int) := by decide
  have high : (-12 : Int) < 2 ^ 31 := by decide
  have long : 255 < 2 ^ 32 := by decide
  have large : 2 ≤ 16 := by decide
  have small : 16 ≤ 36 := by decide
  exact print_parseInt low high plain behind long large small []

/-- The largest `long` is printed, and reading its text is undefined. -/
theorem largest_long_unreadable :
    printLong 2147483647 10 [] = some (10, literal "2147483647") ∧ parseInt (literal "2147483647") = none := by
  constructor
  · decide +kernel
  · decide +kernel

end Core
end DevKit
