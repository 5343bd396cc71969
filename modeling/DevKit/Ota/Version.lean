import DevKit.Foundation.CString
import DevKit.Foundation.Decimal
import DevKit.Ota.Header
import DevKit.Package.RoundTrip
import DevKit.Package.Version

namespace DevKit
namespace Ota

/-!
# The version of a package

`parseVersion` walks a cursor over the version field and leaves a component as
soon as it exceeds 16 bits.  The host tool matches a regular expression and
bounds the numbers afterwards.  Both accept the same versions: three canonical
numerals up to 65535 with dots between them.

`parseVersionAt` is the same function with every read of the cursor and every
32-bit result checked.
-/

/-! ## The function with its checks -/

/-- A result of `uint32_t` arithmetic that is not to wrap around. -/
def checked32 (number : Nat) : Option Nat :=
  if number < 2 ^ 32 then some number else none

/-- The `do` loop of `parseVersionComponent`, at a digit.  The outer option is a
read past the field or an overflow. -/
def digitsAt (parsed : Nat) : Bytes -> Option (Option (Nat × Bytes))
  | [] => none
  | character :: cursor => do
      let shifted <- checked32 (parsed * 10)
      let parsed <- checked32 (shifted + (character - 0x30).toNat)
      if parsed > 65535 then some none
      else do
        let next <- cursor.head?
        if isDigit next then digitsAt parsed cursor else some (some (parsed, cursor))

/-- `*cursor == '0' && cursor[1] >= '0' && cursor[1] <= '9'` -/
def leadingZeroAt (first : UInt8) (cursor : Bytes) : Option Bool :=
  if first = 0x30 then cursor[1]?.map isDigit else some false

def componentAt (cursor : Bytes) (separator : UInt8) : Option (Option (UInt16 × Bytes)) := do
  let first <- cursor.head?
  if isDigit first = false then some none
  else do
    let zero <- leadingZeroAt first cursor
    if zero = true then some none
    else do
      match <- digitsAt 0 cursor with
      | none => some none
      | some (parsed, cursor) => do
          let last <- cursor.head?
          if last ≠ separator then some none
          else some (some (UInt16.ofNat parsed, if separator ≠ 0 then cursor.tail else cursor))

/-- `parseVersion` on the field alone. -/
def parseVersionAt (metadata : OTAStagingMetadata) : Option (Bool × OTAStagingMetadata) := do
  match <- componentAt metadata.firmwareVersion.bytes 0x2E with
  | none => some (false, metadata)
  | some (major, cursor) => do
      let metadata := { metadata with versionMajor := major }
      match <- componentAt cursor 0x2E with
      | none => some (false, metadata)
      | some (minor, cursor) => do
          let metadata := { metadata with versionMinor := minor }
          match <- componentAt cursor 0 with
          | none => some (false, metadata)
          | some (patch, _) => some (true, { metadata with versionPatch := patch })

/-- The digit that a byte is. -/
def byteDigit (byte : UInt8) : Option Nat :=
  if isDigit byte then some (byte.toNat - 48) else none

theorem isDigit_iff {byte : UInt8} : isDigit byte = true <-> 48 ≤ byte.toNat ∧ byte.toNat ≤ 57 := by
  simp [isDigit, UInt8.le_iff_toNat_le]

theorem toNat_sub_zero {byte : UInt8} (digit : isDigit byte = true) : (byte - 0x30).toNat = byte.toNat - 48 := by
  have bounds := isDigit_iff.mp digit
  exact UInt8.toNat_sub_of_le byte 0x30 (UInt8.le_iff_toNat_le.mpr bounds.1)

theorem getD_byteDigit {byte : UInt8} (digit : isDigit byte = true) : (byteDigit byte).getD 0 = byte.toNat - 48 := by
  rw [byteDigit, if_pos digit, Option.getD_some]

/-- The digit loop takes all digits, unless their number becomes too large. -/
theorem parseDigits_eq {parsed : Nat} (small : parsed ≤ 65535) (cursor : Bytes) :
    parseDigits parsed cursor =
      if Decimal.continued byteDigit parsed (cursor.takeWhile isDigit) ≤ 65535 then
        some (Decimal.continued byteDigit parsed (cursor.takeWhile isDigit), cursor.dropWhile isDigit)
      else none := by
  induction cursor generalizing parsed with
  | nil => exact (if_pos small).symm
  | cons character cursor inductionHypothesis =>
      rw [parseDigits]
      by_cases digit : isDigit character = true
      · have next : Decimal.continued byteDigit parsed (character :: cursor.takeWhile isDigit) =
            Decimal.continued byteDigit (parsed * 10 + (character - 0x30).toNat) (cursor.takeWhile isDigit) := by
          rw [toNat_sub_zero digit, ← getD_byteDigit digit]
          rfl
        rw [if_pos digit, List.takeWhile_cons_of_pos digit, List.dropWhile_cons_of_pos digit, next]
        by_cases large : parsed * 10 + (character - 0x30).toNat > 65535
        · have above := Decimal.le_continued byteDigit (parsed * 10 + (character - 0x30).toNat) (cursor.takeWhile isDigit)
          simp only [if_pos large]
          rw [if_neg (by omega)]
        · simp only [if_neg large]
          exact inductionHypothesis (by omega)
      · rw [if_neg digit, List.takeWhile_cons_of_neg digit, List.dropWhile_cons_of_neg digit]
        exact (if_pos small).symm

theorem zero_mem_dropWhile {cursor : Bytes} (ends : 0 ∈ cursor) : 0 ∈ cursor.dropWhile isDigit := by
  rw [← List.takeWhile_append_dropWhile (p := isDigit) (l := cursor)] at ends
  rcases List.mem_append.mp ends with digit | later
  · exact absurd (List.mem_takeWhile_imp digit) (by decide)
  · exact later

theorem digitsAt_eq {parsed : Nat} (small : parsed ≤ 65535) {cursor : Bytes} (ends : 0 ∈ cursor)
    (digit : isDigit (cursor.getD 0 0) = true) : digitsAt parsed cursor = some (parseDigits parsed cursor) := by
  induction cursor generalizing parsed with
  | nil => exact absurd ends List.not_mem_nil
  | cons character cursor inductionHypothesis =>
      have here : isDigit character = true := digit
      have bounds := isDigit_iff.mp here
      have later : 0 ∈ cursor := by
        rcases List.mem_cons.mp ends with zero | later
        · rw [← zero] at bounds
          exact absurd bounds.1 (by decide)
        · exact later
      have number := toNat_sub_zero here
      rw [digitsAt, parseDigits, if_pos here]
      have fits : checked32 (parsed * 10) = some (parsed * 10) := if_pos (by omega)
      have fits' : checked32 (parsed * 10 + (character - 0x30).toNat) = some (parsed * 10 + (character - 0x30).toNat) :=
        if_pos (by omega)
      rw [fits, Option.bind_eq_bind, Option.bind_some, fits', Option.bind_some]
      by_cases large : parsed * 10 + (character - 0x30).toNat > 65535
      · rw [if_pos large]
        simp only [if_pos large]
      · rw [if_neg large]
        simp only [if_neg large]
        cases cursor with
        | nil => exact absurd later List.not_mem_nil
        | cons next cursor =>
            rw [List.head?_cons, Option.bind_eq_bind, Option.bind_some]
            by_cases more : isDigit next = true
            · rw [if_pos more]
              exact inductionHypothesis (by omega) later more
            · rw [if_neg more, parseDigits, if_neg more]

theorem leadingZeroAt_eq {first : UInt8} {cursor : Bytes} (more : cursor ≠ []) :
    leadingZeroAt first (first :: cursor) = some (decide (first = 0x30) && isDigit (cursor.getD 0 0)) := by
  obtain ⟨second, rest, rfl⟩ := List.exists_cons_of_ne_nil more
  by_cases zero : first = 0x30
  · simp [leadingZeroAt, zero]
  · simp [leadingZeroAt, zero]

/-- In a field with a terminator, a component is read inside the field and
without overflow. -/
theorem componentAt_eq {cursor : Bytes} (ends : 0 ∈ cursor) (separator : UInt8) :
    componentAt cursor separator = some (parseVersionComponent cursor separator) := by
  cases cursor with
  | nil => exact absurd ends List.not_mem_nil
  | cons first cursor =>
      rw [componentAt, parseVersionComponent, List.head?_cons, Option.bind_eq_bind, Option.bind_some]
      change (if isDigit first = false then some none else _) = some (if (!isDigit first || _) = true then none else _)
      cases digit : isDigit first with
      | false => rfl
      | true =>
          have later : 0 ∈ cursor := by
            rcases List.mem_cons.mp ends with zero | later
            · rw [← zero] at digit
              exact absurd digit (by decide)
            · exact later
          rw [leadingZeroAt_eq (List.ne_nil_of_mem later), if_neg (by decide), Option.bind_eq_bind, Option.bind_some]
          change (if (decide (first = 0x30) && isDigit (cursor.getD 0 0)) = true then some none else _) =
            some (if (decide (first = 0x30) && isDigit (cursor.getD 0 0)) = true then none else _)
          by_cases zero : (decide (first = 0x30) && isDigit (cursor.getD 0 0)) = true
          · rw [if_pos zero, if_pos zero]
          · rw [if_neg zero, if_neg zero, digitsAt_eq (Nat.zero_le _) ends digit, Option.bind_eq_bind, Option.bind_some]
            have scanned := parseDigits_eq (Nat.zero_le _) (first :: cursor)
            split at scanned
            next =>
              rw [scanned]
              obtain ⟨last, rest, known⟩ := List.exists_cons_of_ne_nil (List.ne_nil_of_mem (zero_mem_dropWhile ends))
              rw [known]
              exact (apply_ite some _ _ _).symm
            next => rw [scanned]

/-! ## The versions that are accepted -/

theorem isSome_byteDigit (byte : UInt8) : (byteDigit byte).isSome = isDigit byte := by
  unfold byteDigit
  cases isDigit byte <;> rfl

theorem byteDigit_eq_zero_iff {byte : UInt8} : byteDigit byte = some 0 <-> byte = 0x30 := by
  constructor
  · intro zero
    have digit : isDigit byte = true := by
      rw [← isSome_byteDigit, zero]
      rfl
    have bounds := isDigit_iff.mp digit
    rw [byteDigit, if_pos digit, Option.some.injEq] at zero
    apply UInt8.toNat_inj.mp
    change byte.toNat = 48
    omega
  · rintro rfl
    rfl

/-- The digits before a separator. -/
theorem takeWhile_digits {digits tail : Bytes} {separator : UInt8} (canonical : Decimal.Canonical byteDigit digits)
    (other : isDigit separator = false) :
    (digits ++ separator :: tail).takeWhile isDigit = digits ∧
      (digits ++ separator :: tail).dropWhile isDigit = separator :: tail := by
  have all : forall byte, byte ∈ digits -> isDigit byte = true := by
    intro byte member
    rw [← isSome_byteDigit]
    exact canonical.digits byte member
  have stop : ¬ isDigit separator = true := by
    rw [other]
    exact Bool.false_ne_true
  rw [List.takeWhile_append_of_pos all, List.dropWhile_append_of_pos all, List.takeWhile_cons_of_neg stop,
    List.dropWhile_cons_of_neg stop, List.append_nil]
  exact ⟨rfl, rfl⟩

theorem parseVersionComponent_of_canonical {digits tail : Bytes} {separator : UInt8}
    (canonical : Decimal.Canonical byteDigit digits) (small : Decimal.value byteDigit digits ≤ 65535)
    (other : isDigit separator = false) :
    parseVersionComponent (digits ++ separator :: tail) separator =
      some (UInt16.ofNat (Decimal.value byteDigit digits), if separator ≠ 0 then tail else separator :: tail) := by
  have scanned : parseDigits 0 (digits ++ separator :: tail) =
      some (Decimal.value byteDigit digits, separator :: tail) := by
    obtain ⟨parts, rest⟩ := takeWhile_digits canonical other
    rw [parseDigits_eq (Nat.zero_le _), parts, rest]
    exact if_pos small
  have lead : (!isDigit ((digits ++ separator :: tail).getD 0 0) ||
      (decide ((digits ++ separator :: tail).getD 0 0 = 0x30) && isDigit ((digits ++ separator :: tail).getD 1 0))) =
        false := by
    cases digits with
    | nil => exact absurd rfl canonical.nonempty
    | cons first more =>
        have digit : isDigit first = true := by
          rw [← isSome_byteDigit]
          exact canonical.digits first List.mem_cons_self
        change (!isDigit first || (decide (first = 0x30) && isDigit ((more ++ separator :: tail).getD 0 0))) = false
        rw [digit]
        by_cases zero : first = 0x30
        · rw [canonical.lead first more rfl (byteDigit_eq_zero_iff.mpr zero)]
          change (false || (_ && isDigit separator)) = false
          rw [other, Bool.and_false]
          rfl
        · rw [decide_eq_false zero]
          rfl
  rw [parseVersionComponent, lead, if_neg (by decide), scanned]
  exact if_neg (not_not.mpr rfl)

theorem canonical_takeWhile {cursor : Bytes}
    (start : ¬ (!isDigit (cursor.getD 0 0) || (decide (cursor.getD 0 0 = 0x30) && isDigit (cursor.getD 1 0))) = true) :
    Decimal.Canonical byteDigit (cursor.takeWhile isDigit) := by
  cases cursor with
  | nil => exact absurd rfl start
  | cons first cursor =>
      change ¬ (!isDigit first || (decide (first = 0x30) && isDigit (cursor.getD 0 0))) = true at start
      rw [Bool.or_eq_true, not_or, Bool.not_eq_true', Bool.not_eq_false, Bool.and_eq_true, not_and, decide_eq_true_eq]
        at start
      rw [List.takeWhile_cons_of_pos start.1]
      refine ⟨List.cons_ne_nil _ _, fun byte member => ?_, fun symbol rest split zero => ?_⟩
      · rw [isSome_byteDigit]
        rcases List.mem_cons.mp member with rfl | later
        · exact start.1
        · exact List.mem_takeWhile_imp later
      · cases split
        have stop := start.2 (byteDigit_eq_zero_iff.mp zero)
        cases cursor with
        | nil => rfl
        | cons second cursor => exact List.takeWhile_cons_of_neg stop

/-- A component that was parsed is canonical. -/
theorem canonical_of_parseVersionComponent {cursor rest : Bytes} {separator : UInt8} {number : UInt16}
    (ends : 0 ∈ cursor) (parsed : parseVersionComponent cursor separator = some (number, rest)) :
    exists digits tail, Decimal.Canonical byteDigit digits ∧ Decimal.value byteDigit digits ≤ 65535 ∧
      cursor = digits ++ separator :: tail ∧ rest = (if separator ≠ 0 then tail else separator :: tail) := by
  rw [parseVersionComponent] at parsed
  split at parsed
  next => cases parsed
  next start =>
    rw [parseDigits_eq (Nat.zero_le _)] at parsed
    by_cases small : Decimal.value byteDigit (cursor.takeWhile isDigit) ≤ 65535
    · have some : (if Decimal.continued byteDigit 0 (cursor.takeWhile isDigit) ≤ 65535 then
          some (Decimal.continued byteDigit 0 (cursor.takeWhile isDigit), cursor.dropWhile isDigit) else none) =
            some (Decimal.value byteDigit (cursor.takeWhile isDigit), cursor.dropWhile isDigit) := if_pos small
      obtain ⟨last, tail, known⟩ := List.exists_cons_of_ne_nil (List.ne_nil_of_mem (zero_mem_dropWhile ends))
      rw [some, known] at parsed
      change (if last ≠ separator then none else _) = _ at parsed
      by_cases same : last = separator
      · rw [if_neg (not_not.mpr same), Option.some.injEq, Prod.mk.injEq] at parsed
        have split := List.takeWhile_append_dropWhile (p := isDigit) (l := cursor)
        rw [known, same] at split
        refine ⟨_, tail, canonical_takeWhile start, small, split.symm, ?_⟩
        rw [← parsed.2, same]
        rfl
      · rw [if_pos same] at parsed
        cases parsed
    · have none : (if Decimal.continued byteDigit 0 (cursor.takeWhile isDigit) ≤ 65535 then
          some (Decimal.continued byteDigit 0 (cursor.takeWhile isDigit), cursor.dropWhile isDigit) else none) = none :=
        if_neg small
      rw [none] at parsed
      cases parsed

/-! ## The version field -/

open Package (Padded decodeAscii validateVersion charDigit)

theorem allZero_iff {data : Bytes} : allZero data = true <-> forall byte, byte ∈ data -> byte = 0 := by
  have collect : forall start : UInt8, data.foldl (· ||| ·) start = 0 <->
      start = 0 ∧ forall byte, byte ∈ data -> byte = 0 := by
    induction data with
    | nil => simp
    | cons byte data inductionHypothesis =>
        intro start
        rw [List.foldl_cons, inductionHypothesis, UInt8.or_eq_zero_iff, and_assoc, List.forall_mem_cons]
  rw [allZero, beq_iff_eq, collect]
  exact and_iff_right rfl

/-- The field is a text that is padded with NUL bytes. -/
theorem canonicalString_iff {field : Bytes} : canonicalString field = true <-> exists raw, Padded field raw := by
  have form : canonicalString field = true <->
      ¬ (field.takeWhile (· ≠ 0)).length = 0 ∧ ¬ (field.takeWhile (· ≠ 0)).length = field.length ∧
        allZero (field.drop (field.takeWhile (· ≠ 0)).length) = true := by
    simp [canonicalString, and_assoc]
  rw [form]
  constructor
  · rintro ⟨nonempty, inside, zeros⟩
    have split := List.takeWhile_append_dropWhile (p := fun byte : UInt8 => decide (byte ≠ 0)) (l := field)
    have rest : field.drop (field.takeWhile (· ≠ 0)).length = field.dropWhile (· ≠ 0) := by
      have cut := congrArg (List.drop (field.takeWhile (· ≠ 0)).length) split
      rw [List.drop_left] at cut
      exact cut.symm
    rw [rest, allZero_iff] at zeros
    have padding := List.eq_replicate_of_mem zeros
    refine ⟨field.takeWhile (· ≠ 0), fun empty => nonempty (congrArg List.length empty), fun byte member => ?_, ?_⟩
    · simpa using List.mem_takeWhile_imp member
    · cases count : (field.dropWhile (· ≠ 0)).length with
      | zero =>
          refine absurd ?_ inside
          nth_rewrite 2 [← split]
          rw [List.length_append, count, Nat.add_zero]
      | succ count' =>
          rw [count] at padding
          exact ⟨count', by rw [← padding, split]⟩
  · rintro ⟨raw, padded⟩
    obtain ⟨count, rfl⟩ := padded.padding
    have parts : (raw ++ List.replicate (count + 1) 0).takeWhile (· ≠ 0) = raw := by
      rw [List.takeWhile_append_of_pos fun byte member => decide_eq_true (padded.nonzero byte member),
        List.replicate_succ, List.takeWhile_cons_of_neg (by decide), List.append_nil]
    rw [parts, List.drop_left, List.length_append, List.length_replicate, allZero_iff]
    refine ⟨fun empty => padded.nonempty (List.length_eq_zero_iff.mp empty), by omega, fun byte member => ?_⟩
    exact List.eq_of_mem_replicate member

variable {metadata : OTAStagingMetadata} {raw : Bytes}

theorem zero_mem_of_padded {field : Bytes} (padded : Padded field raw) : 0 ∈ field := by
  obtain ⟨count, split⟩ := padded.padding
  rw [split, List.replicate_succ]
  exact List.mem_append_right _ List.mem_cons_self

theorem zero_not_mem_canonical {digits : Bytes} (canonical : Decimal.Canonical byteDigit digits) : 0 ∉ digits := by
  intro member
  exact absurd (canonical.digits 0 member) (by decide)

/-- Behind a dot the terminator is still ahead. -/
theorem zero_mem_behind_dot {cursor rest : Bytes} {number : UInt16} (ends : 0 ∈ cursor)
    (parsed : parseVersionComponent cursor 0x2E = some (number, rest)) : 0 ∈ rest := by
  obtain ⟨digits, tail, canonical, _, rfl, rfl⟩ := canonical_of_parseVersionComponent ends parsed
  rcases List.mem_append.mp ends with inside | behind
  · exact absurd inside (zero_not_mem_canonical canonical)
  · rcases List.mem_cons.mp behind with dot | later
    · exact absurd dot (by decide)
    · exact later

/-- In a padded field the function reads nothing behind the field and no 32-bit
result wraps around. -/
theorem parseVersionAt_eq (padded : Padded metadata.firmwareVersion.bytes raw) :
    parseVersionAt metadata = some (parseVersion metadata) := by
  have ends := zero_mem_of_padded padded
  rw [parseVersionAt, parseVersion, componentAt_eq ends, Option.bind_eq_bind, Option.bind_some]
  cases one : parseVersionComponent metadata.firmwareVersion.bytes 0x2E with
  | none => rfl
  | some parsed =>
      have ends := zero_mem_behind_dot ends one
      simp only
      rw [componentAt_eq ends, Option.bind_some]
      cases two : parseVersionComponent parsed.2 0x2E with
      | none => rfl
      | some parsed' =>
          have ends := zero_mem_behind_dot ends two
          simp only
          rw [componentAt_eq ends, Option.bind_some]
          cases three : parseVersionComponent parsed'.2 0 with
          | none => rfl
          | some last => rfl

/-- Three canonical components are accepted, with their values. -/
theorem parseVersion_of_triple {first second third : Bytes} (padded : Padded metadata.firmwareVersion.bytes raw)
    (triple : Decimal.Triple byteDigit 0x2E 65535 raw first second third) :
    parseVersion metadata = (true, { metadata with
      versionMajor := UInt16.ofNat (Decimal.value byteDigit first)
      versionMinor := UInt16.ofNat (Decimal.value byteDigit second)
      versionPatch := UInt16.ofNat (Decimal.value byteDigit third) }) := by
  obtain ⟨count, split⟩ := padded.padding
  have field : metadata.firmwareVersion.bytes =
      first ++ 0x2E :: (second ++ 0x2E :: (third ++ 0 :: List.replicate count 0)) := by
    rw [split, triple.split, List.replicate_succ]
    simp only [List.append_assoc, List.cons_append]
  rw [parseVersion, field, parseVersionComponent_of_canonical triple.canonicalFirst triple.first_le (by decide)]
  simp only [ne_eq, show ¬ (0x2E : UInt8) = 0 by decide, not_false_eq_true, if_true]
  rw [parseVersionComponent_of_canonical triple.canonicalSecond triple.second_le (by decide)]
  simp only [ne_eq, show ¬ (0x2E : UInt8) = 0 by decide, not_false_eq_true, if_true]
  rw [parseVersionComponent_of_canonical triple.canonicalThird triple.third_le (by decide)]

theorem plain_triple {first second third : Bytes} (one : Decimal.Canonical byteDigit first)
    (two : Decimal.Canonical byteDigit second) (three : Decimal.Canonical byteDigit third) :
    0 ∉ first ++ 0x2E :: (second ++ 0x2E :: third) := by
  have dot : ¬ (0 : UInt8) = 0x2E := by decide
  simp only [List.mem_append, List.mem_cons, zero_not_mem_canonical one, zero_not_mem_canonical two,
    zero_not_mem_canonical three, dot, or_self, not_false_eq_true]

/-- A padded field has one text. -/
theorem text_unique {field text padding : Bytes} (padded : Padded field raw) (split : field = text ++ 0 :: padding)
    (plain : 0 ∉ text) : raw = text := by
  obtain ⟨count, known⟩ := padded.padding
  have one : textOf field = some raw := by
    rw [known, List.replicate_succ]
    exact Text.textOf_region ⟨raw, _, fun zero => padded.nonzero 0 zero rfl⟩
  have other : textOf field = some text := by
    rw [split]
    exact Text.textOf_region ⟨text, padding, plain⟩
  exact Option.some.inj (one.symm.trans other)

/-- What is accepted has three canonical components. -/
theorem triple_of_parseVersion (padded : Padded metadata.firmwareVersion.bytes raw)
    (accepted : (parseVersion metadata).1 = true) :
    exists first second third, Decimal.Triple byteDigit 0x2E 65535 raw first second third := by
  have ends := zero_mem_of_padded padded
  rw [parseVersion] at accepted
  cases one : parseVersionComponent metadata.firmwareVersion.bytes 0x2E with
  | none =>
      rw [one] at accepted
      cases accepted
  | some major =>
      have ends' := zero_mem_behind_dot ends one
      rw [one] at accepted
      simp only at accepted
      cases two : parseVersionComponent major.2 0x2E with
      | none =>
          rw [two] at accepted
          cases accepted
      | some minor =>
          have ends'' := zero_mem_behind_dot ends' two
          rw [two] at accepted
          simp only at accepted
          cases three : parseVersionComponent minor.2 0 with
          | none =>
              rw [three] at accepted
              cases accepted
          | some patch =>
              obtain ⟨first, behind, canonical1, small1, split1, rest1⟩ := canonical_of_parseVersionComponent ends one
              obtain ⟨second, behind', canonical2, small2, split2, rest2⟩ := canonical_of_parseVersionComponent ends' two
              obtain ⟨third, padding, canonical3, small3, split3, _⟩ := canonical_of_parseVersionComponent ends'' three
              refine ⟨first, second, third, ?_, canonical1, canonical2, canonical3, small1, small2, small3⟩
              have behindOne : behind = major.2 := rest1.symm
              have behindTwo : behind' = minor.2 := rest2.symm
              have field : metadata.firmwareVersion.bytes =
                  (first ++ 0x2E :: (second ++ 0x2E :: third)) ++ 0 :: padding := by
                rw [split1, behindOne, split2, behindTwo, split3]
                simp only [List.append_assoc, List.cons_append]
              exact text_unique padded field (plain_triple canonical1 canonical2 canonical3)

/-! ## The host tool -/

theorem toNat_ofNat_byte (byte : UInt8) : (Char.ofNat byte.toNat).toNat = byte.toNat := by
  have small := byte.toNat_lt
  rw [Char.toNat_ofNat, if_pos (Or.inl (by omega))]

/-- A byte and its character are the same digit. -/
theorem charDigit_ofNat (byte : UInt8) : charDigit (Char.ofNat byte.toNat) = byteDigit byte := by
  have same : (Char.ofNat byte.toNat).isDigit = isDigit byte := by
    rw [Bool.eq_iff_iff, Package.isDigit_iff_toNat, isDigit_iff, toNat_ofNat_byte]
  rw [charDigit, byteDigit, same, toNat_ofNat_byte]

theorem ofNat_eq_dot (byte : UInt8) (dot : Char.ofNat byte.toNat = Char.ofNat (0x2E : UInt8).toNat) : byte = 0x2E := by
  have numbers := congrArg Char.toNat dot
  rw [toNat_ofNat_byte, toNat_ofNat_byte] at numbers
  exact UInt8.toNat_inj.mp numbers

/-- The host tool and the device see the same components. -/
theorem validateVersion_iff {version : Package.Text} (decoded : decodeAscii raw = some version) :
    validateVersion version = .ok () <->
      exists first second third, Decimal.Triple byteDigit 0x2E 65535 raw first second third := by
  have text : version = raw.map fun byte => Char.ofNat byte.toNat := by
    unfold decodeAscii at decoded
    split at decoded
    · exact (Option.some.inj decoded).symm
    · cases decoded
  rw [Package.validateVersion_ok_iff, text]
  constructor
  · rintro ⟨first, second, third, triple⟩
    exact Decimal.Triple.of_map charDigit_ofNat ofNat_eq_dot triple
  · rintro ⟨first, second, third, triple⟩
    exact ⟨_, _, _, triple.map charDigit_ofNat⟩

/-- The bytes of a version are ASCII. -/
theorem decodeAscii_of_triple {first second third : Bytes}
    (triple : Decimal.Triple byteDigit 0x2E 65535 raw first second third) :
    exists version, decodeAscii raw = some version := by
  have digits : forall {text : Bytes}, Decimal.Canonical byteDigit text -> forall byte, byte ∈ text -> byte < 0x80 := by
    intro text canonical byte member
    have digit := canonical.digits byte member
    rw [isSome_byteDigit, isDigit_iff] at digit
    rw [UInt8.lt_iff_toNat_lt]
    change byte.toNat < 128
    omega
  have small : raw.all (· < 0x80) = true := by
    rw [List.all_eq_true, triple.split]
    intro byte member
    apply decide_eq_true
    simp only [List.mem_append, List.mem_cons] at member
    rcases member with one | rfl | two | rfl | three
    · exact digits triple.canonicalFirst byte one
    · decide
    · exact digits triple.canonicalSecond byte two
    · decide
    · exact digits triple.canonicalThird byte three
  exact ⟨_, if_pos small⟩

/-- The characters of a version are digits and dots. -/
theorem characters_of_triple {version first second third : Package.Text}
    (triple : Decimal.Triple charDigit '.' 65535 version first second third) :
    forall character, character ∈ version -> 0 < character.toNat ∧ character.toNat < 0x80 := by
  have digits : forall {text : Package.Text}, Decimal.Canonical charDigit text -> forall character, character ∈ text ->
      0 < character.toNat ∧ character.toNat < 0x80 := by
    intro text canonical character member
    have digit := canonical.digits character member
    rw [Package.isSome_charDigit, Package.isDigit_iff_toNat] at digit
    omega
  intro character member
  rw [triple.split] at member
  simp only [List.mem_append, List.mem_cons] at member
  rcases member with one | rfl | two | rfl | three
  · exact digits triple.canonicalFirst character one
  · decide
  · exact digits triple.canonicalSecond character two
  · decide
  · exact digits triple.canonicalThird character three

theorem length_of_triple {version first second third : Package.Text}
    (triple : Decimal.Triple charDigit '.' 65535 version first second third) :
    0 < version.length ∧ version.length < 32 := by
  have short : forall {text : Package.Text}, Decimal.Canonical charDigit text -> Decimal.value charDigit text ≤ 65535 ->
      text.length ≤ 5 := by
    intro text canonical small
    exact canonical.length_le (Nat.lt_of_le_of_lt small (by decide))
  have one := short triple.canonicalFirst triple.first_le
  have two := short triple.canonicalSecond triple.second_le
  have three := short triple.canonicalThird triple.third_le
  rw [triple.split]
  simp only [List.length_append, List.length_cons]
  omega

/-- A version of the host tool fits into the field. -/
theorem exists_field {version : Package.Text} (valid : validateVersion version = .ok ()) :
    exists (metadata : OTAStagingMetadata) (raw : Bytes), Padded metadata.firmwareVersion.bytes raw ∧
      decodeAscii raw = some version := by
  obtain ⟨first, second, third, triple⟩ := Package.validateVersion_ok_iff.mp valid
  have characters := characters_of_triple triple
  have known : (String.ofList version).toList = version := String.toList_ofList
  have short : Package.Short (literal (String.ofList version)) := by
    refine Package.short_literal ?_ ?_
    · rw [known]
      exact length_of_triple triple
    · rw [known, List.all_eq_true]
      exact fun character member => decide_eq_true (characters character member)
  have decoded : decodeAscii (literal (String.ofList version)) = some version := by
    rw [Package.decodeAscii_literal, known]
    rw [known, List.all_eq_true]
    exact fun character member => decide_eq_true (characters character member).2
  refine ⟨{ OTAStagingMetadata.zero with firmwareVersion := ⟨Package.textField _, Package.length_textField short⟩ }, _,
    Package.padded_textField short, decoded⟩

/-- `parseVersion` accepts exactly the canonical versions, with their values; it
stays inside the field and inside 32 bits; and what it accepts is what the host
tool accepts. -/
theorem parseVersion_canonical :
    (forall metadata : OTAStagingMetadata, canonicalString metadata.firmwareVersion.bytes = true ->
      exists raw, Padded metadata.firmwareVersion.bytes raw ∧
        ((parseVersion metadata).1 = true <->
          exists first second third, Decimal.Triple byteDigit 0x2E 65535 raw first second third) ∧
        (forall first second third, Decimal.Triple byteDigit 0x2E 65535 raw first second third ->
          (parseVersion metadata).2.versionMajor.toNat = Decimal.value byteDigit first ∧
          (parseVersion metadata).2.versionMinor.toNat = Decimal.value byteDigit second ∧
          (parseVersion metadata).2.versionPatch.toNat = Decimal.value byteDigit third) ∧
        parseVersionAt metadata = some (parseVersion metadata) ∧
        ((parseVersion metadata).1 = true <->
          exists version, decodeAscii raw = some version ∧ validateVersion version = .ok ())) ∧
    forall version, validateVersion version = .ok () ->
      exists (metadata : OTAStagingMetadata) (raw : Bytes), canonicalString metadata.firmwareVersion.bytes = true ∧
        Padded metadata.firmwareVersion.bytes raw ∧ decodeAscii raw = some version ∧
        (parseVersion metadata).1 = true := by
  refine ⟨fun metadata accepted => ?_, fun version valid => ?_⟩
  · obtain ⟨raw, padded⟩ := canonicalString_iff.mp accepted
    have canonical : (parseVersion metadata).1 = true <->
        exists first second third, Decimal.Triple byteDigit 0x2E 65535 raw first second third := by
      refine ⟨triple_of_parseVersion padded, ?_⟩
      rintro ⟨first, second, third, triple⟩
      rw [parseVersion_of_triple padded triple]
    refine ⟨raw, padded, canonical, fun first second third triple => ?_, parseVersionAt_eq padded, canonical.trans ?_⟩
    · have fits : forall number, number ≤ 65535 -> (UInt16.ofNat number).toNat = number := by
        intro number small
        rw [UInt16.toNat_ofNat', Nat.mod_eq_of_lt (by omega)]
      rw [parseVersion_of_triple padded triple]
      exact ⟨fits _ triple.first_le, fits _ triple.second_le, fits _ triple.third_le⟩
    · constructor
      · rintro ⟨first, second, third, triple⟩
        obtain ⟨version, decoded⟩ := decodeAscii_of_triple triple
        exact ⟨version, decoded, (validateVersion_iff decoded).mpr ⟨first, second, third, triple⟩⟩
      · rintro ⟨version, decoded, valid⟩
        exact (validateVersion_iff decoded).mp valid
  · obtain ⟨metadata, raw, padded, decoded⟩ := exists_field valid
    obtain ⟨first, second, third, triple⟩ := (validateVersion_iff decoded).mp valid
    refine ⟨metadata, raw, canonicalString_iff.mpr ⟨raw, padded⟩, padded, decoded, ?_⟩
    rw [parseVersion_of_triple padded triple]

/-- `1.65535.0` -/
def sampleVersion : OTAStagingMetadata :=
  { OTAStagingMetadata.zero with
    firmwareVersion := ⟨[49, 46, 54, 53, 53, 51, 53, 46, 48] ++ List.replicate 23 0, rfl⟩ }

theorem parseVersion_canonical_sample :
    canonicalString sampleVersion.firmwareVersion.bytes = true ∧ (parseVersion sampleVersion).1 = true ∧
      (parseVersionAt sampleVersion).map Prod.fst = some true ∧
      exists raw, Padded sampleVersion.firmwareVersion.bytes raw ∧
        exists version, decodeAscii raw = some version ∧ validateVersion version = .ok () := by
  have accepted : canonicalString sampleVersion.firmwareVersion.bytes = true := by decide
  have parsed : (parseVersion sampleVersion).1 = true := by decide
  obtain ⟨raw, padded, _, _, inside, same⟩ := parseVersion_canonical.1 sampleVersion accepted
  refine ⟨accepted, parsed, ?_, raw, padded, same.mp parsed⟩
  rw [inside, Option.map_some, parsed]

end Ota
end DevKit
