import DevKit.Foundation.Decimal
import DevKit.Package.Accepted

namespace DevKit
namespace Package

/-!
# The versions the host tool accepts

`_validate_version` matches a regular expression, which bounds the number of
digits, and then the numbers themselves.  What passes both are three canonical
numerals up to 65535.
-/

/-- The digit that a character is. -/
def charDigit (character : Char) : Option Nat :=
  if character.isDigit then some (character.toNat - 48) else none

theorem isSome_charDigit (character : Char) : (charDigit character).isSome = character.isDigit := by
  unfold charDigit
  cases character.isDigit <;> rfl

theorem isDigit_iff_toNat {character : Char} :
    character.isDigit = true <-> 48 ≤ character.toNat ∧ character.toNat ≤ 57 := by
  simp only [Char.isDigit, Bool.and_eq_true, decide_eq_true_eq, ge_iff_le, UInt32.le_iff_toNat_le]
  exact Iff.rfl

theorem mem_digits_iff {character : Char} : character ∈ "0123456789".toList <-> character.isDigit = true := by
  constructor
  · intro member
    have all : ("0123456789".toList.all Char.isDigit) = true := by decide
    exact List.all_eq_true.mp all character member
  · intro digit
    have bounds := isDigit_iff_toNat.mp digit
    have known : forall number, 48 ≤ number -> number ≤ 57 -> Char.ofNat number ∈ "0123456789".toList := by
      intro number low high
      interval_cases number <;> decide
    rw [← Char.ofNat_toNat character]
    exact known _ bounds.1 bounds.2

theorem mem_nonzero_iff {character : Char} :
    character ∈ "123456789".toList <-> character.isDigit = true ∧ character ≠ '0' := by
  have split : "0123456789".toList = '0' :: "123456789".toList := by decide
  rw [← mem_digits_iff, split, List.mem_cons]
  constructor
  · intro member
    refine ⟨Or.inr member, ?_⟩
    rintro rfl
    exact absurd member (by decide)
  · rintro ⟨rfl | member, other⟩
    · exact absurd rfl other
    · exact member

theorem charDigit_eq_zero_iff {character : Char} : charDigit character = some 0 <-> character = '0' := by
  constructor
  · intro zero
    have digit : character.isDigit = true := by
      rw [← isSome_charDigit, zero]
      rfl
    have bounds := isDigit_iff_toNat.mp digit
    rw [charDigit, if_pos digit, Option.some.injEq] at zero
    rw [← Char.ofNat_toNat character, show character.toNat = 48 by omega]
  · rintro rfl
    rfl

/-! ## The regular expression -/

theorem mem_charClass {characters : List Char} {text : Text} :
    text ∈ (charClass characters).matches' <-> exists character, character ∈ characters ∧ text = [character] := by
  unfold charClass
  induction characters with
  | nil =>
      simp only [List.map_nil, List.sum_nil, RegularExpression.matches'_zero, List.not_mem_nil, false_and, exists_false]
      exact iff_of_false (Language.notMem_zero text) id
  | cons character characters inductionHypothesis =>
      rw [List.map_cons, List.sum_cons, RegularExpression.matches'_add, Language.mem_add, inductionHypothesis,
        RegularExpression.matches'_char]
      simp only [List.mem_cons, exists_eq_or_imp]
      exact or_congr_left Set.mem_singleton_iff

/-- A class that may be left out, some times over. -/
theorem mem_optional_pow {characters : List Char} {count : Nat} {text : Text} :
    text ∈ ((1 + charClass characters) ^ count).matches' <->
      text.length ≤ count ∧ forall character, character ∈ text -> character ∈ characters := by
  rw [RegularExpression.matches'_pow]
  induction count generalizing text with
  | zero =>
      rw [pow_zero, Language.mem_one]
      constructor
      · rintro rfl
        exact ⟨Nat.le_refl 0, fun _ member => absurd member List.not_mem_nil⟩
      · rintro ⟨empty, _⟩
        exact List.eq_nil_of_length_eq_zero (Nat.le_zero.mp empty)
  | succ count inductionHypothesis =>
      rw [pow_succ', Language.mem_mul]
      constructor
      · rintro ⟨first, optional, rest, later, rfl⟩
        rw [inductionHypothesis] at later
        rw [RegularExpression.matches'_add, Language.mem_add, RegularExpression.matches'_epsilon, Language.mem_one,
          mem_charClass] at optional
        rcases optional with rfl | ⟨character, inside, rfl⟩
        · exact ⟨Nat.le_succ_of_le later.1, later.2⟩
        · refine ⟨Nat.succ_le_succ later.1, fun other member => ?_⟩
          rcases List.mem_cons.mp member with rfl | member
          · exact inside
          · exact later.2 other member
      · rintro ⟨short, all⟩
        cases text with
        | nil =>
            refine ⟨[], ?_, [], inductionHypothesis.mpr ⟨Nat.zero_le _, all⟩, rfl⟩
            rw [RegularExpression.matches'_add, Language.mem_add, RegularExpression.matches'_epsilon, Language.mem_one]
            exact Or.inl rfl
        | cons character text =>
            refine ⟨[character], ?_, text, inductionHypothesis.mpr ⟨Nat.le_of_succ_le_succ short, fun other member =>
              all other (List.mem_cons_of_mem _ member)⟩, rfl⟩
            rw [RegularExpression.matches'_add, Language.mem_add, mem_charClass]
            exact Or.inr ⟨character, all character List.mem_cons_self, rfl⟩

/-- A component of the pattern is a canonical numeral of up to five digits. -/
theorem mem_componentPattern {text : Text} :
    text ∈ componentPattern.matches' <-> Decimal.Canonical charDigit text ∧ text.length ≤ 5 := by
  rw [componentPattern, RegularExpression.matches'_add, Language.mem_add, RegularExpression.matches'_char,
    RegularExpression.matches'_mul, Language.mem_mul]
  constructor
  · rintro (zero | ⟨first, inside, rest, later, rfl⟩)
    · rw [Set.mem_singleton_iff.mp zero]
      refine ⟨⟨List.cons_ne_nil _ _, fun symbol member => ?_, fun symbol rest split _ => ?_⟩, by decide⟩
      · rw [List.mem_singleton.mp member]
        rfl
      · cases split
        rfl
    · obtain ⟨character, nonzero, rfl⟩ := mem_charClass.mp inside
      obtain ⟨short, digits⟩ := mem_optional_pow.mp later
      rw [mem_nonzero_iff] at nonzero
      refine ⟨⟨List.cons_ne_nil _ _, fun symbol member => ?_, fun symbol rest split zero => ?_⟩, Nat.succ_le_succ short⟩
      · rw [isSome_charDigit]
        rcases List.mem_cons.mp member with rfl | member
        · exact nonzero.1
        · exact mem_digits_iff.mp (digits symbol member)
      · cases split
        exact absurd (charDigit_eq_zero_iff.mp zero) nonzero.2
  · rintro ⟨canonical, short⟩
    cases text with
    | nil => exact absurd rfl canonical.nonempty
    | cons character text =>
        have digits : forall other, other ∈ character :: text -> other.isDigit = true := by
          intro other member
          rw [← isSome_charDigit]
          exact canonical.digits other member
        by_cases zero : character = '0'
        · rw [canonical.lead character text rfl (charDigit_eq_zero_iff.mpr zero), zero]
          exact Or.inl (Set.mem_singleton _)
        · refine Or.inr ⟨[character], mem_charClass.mpr ⟨character, ?_, rfl⟩, text, mem_optional_pow.mpr ?_, rfl⟩
          · exact mem_nonzero_iff.mpr ⟨digits character List.mem_cons_self, zero⟩
          · exact ⟨Nat.le_of_succ_le_succ short, fun other member =>
              mem_digits_iff.mpr (digits other (List.mem_cons_of_mem _ member))⟩

/-! ## The whole version -/

theorem dot_not_mem {text : Text} (canonical : Decimal.Canonical charDigit text) : '.' ∉ text := by
  intro member
  exact absurd (canonical.digits '.' member) (by decide)

theorem splitOn_triple {first second third : Text} (one : Decimal.Canonical charDigit first)
    (two : Decimal.Canonical charDigit second) (three : Decimal.Canonical charDigit third) :
    (first ++ '.' :: (second ++ '.' :: third)).splitOn '.' = [first, second, third] := by
  have cut : forall front back : Text, (front ++ '.' :: back).splitOn '.' = front.splitOn '.' ++ back.splitOn '.' :=
    fun front back => List.splitOnP_append_cons front back (beq_self_eq_true '.')
  rw [cut, cut, List.splitOn_eq_singleton (dot_not_mem one), List.splitOn_eq_singleton (dot_not_mem two),
    List.splitOn_eq_singleton (dot_not_mem three)]
  rfl

theorem mem_versionPattern {version : Text} :
    version ∈ versionPattern.matches' <->
      exists first second third, version = first ++ '.' :: (second ++ '.' :: third) ∧
        first ∈ componentPattern.matches' ∧ second ∈ componentPattern.matches' ∧ third ∈ componentPattern.matches' := by
  have dotted : forall (pattern : RegularExpression Char) (text : Text),
      text ∈ (RegularExpression.char '.' * pattern).matches' <->
        exists rest, rest ∈ pattern.matches' ∧ text = '.' :: rest := by
    intro pattern text
    rw [RegularExpression.matches'_mul, Language.mem_mul, RegularExpression.matches'_char]
    constructor
    · rintro ⟨dot, isDot, rest, inside, rfl⟩
      rw [Set.mem_singleton_iff.mp isDot]
      exact ⟨rest, inside, rfl⟩
    · rintro ⟨rest, inside, rfl⟩
      exact ⟨['.'], Set.mem_singleton _, rest, inside, rfl⟩
  rw [versionPattern, RegularExpression.matches'_mul, Language.mem_mul]
  constructor
  · rintro ⟨first, one, _, behind, rfl⟩
    obtain ⟨_, inside, rfl⟩ := (dotted _ _).mp behind
    rw [RegularExpression.matches'_mul, Language.mem_mul] at inside
    obtain ⟨second, two, _, last, rfl⟩ := inside
    obtain ⟨third, three, rfl⟩ := (dotted _ _).mp last
    exact ⟨first, second, third, rfl, one, two, three⟩
  · rintro ⟨first, second, third, rfl, one, two, three⟩
    refine ⟨first, one, _, (dotted _ _).mpr ⟨second ++ '.' :: third, ?_, rfl⟩, rfl⟩
    rw [RegularExpression.matches'_mul, Language.mem_mul]
    exact ⟨second, two, _, (dotted _ _).mpr ⟨third, three, rfl⟩, rfl⟩

theorem intOf_eq {text : Text} (canonical : Decimal.Canonical charDigit text) :
    intOf text = Decimal.value charDigit text := by
  have step : forall (start : Nat) (rest : Text), (forall symbol, symbol ∈ rest -> (charDigit symbol).isSome = true) ->
      rest.foldl (fun value digit => value * 10 + (digit.toNat - 48)) start = Decimal.continued charDigit start rest := by
    intro start rest digits
    unfold Decimal.continued
    refine List.foldl_ext _ _ start fun number symbol member => ?_
    have digit := digits symbol member
    rw [isSome_charDigit] at digit
    rw [charDigit, if_pos digit, Option.getD_some]
  exact step 0 text canonical.digits

/-- The host tool accepts three canonical numerals up to 65535. -/
theorem validateVersion_ok_iff {version : Text} :
    validateVersion version = .ok () <->
      exists first second third, Decimal.Triple charDigit '.' 65535 version first second third := by
  rw [validateVersion, raise_bind_ok, raiseWhen_ok, Bool.not_eq_false, RegularExpression.rmatch_iff_matches',
    mem_versionPattern]
  constructor
  · rintro ⟨⟨first, second, third, rfl, one, two, three⟩, bounded⟩
    rw [mem_componentPattern] at one two three
    rw [splitOn_triple one.1 two.1 three.1, not_exists] at bounded
    have small : forall component, component ∈ [first, second, third] -> intOf component ≤ 65535 := by
      intro component member
      by_contra large
      exact bounded component ⟨member, Nat.lt_of_not_le large⟩
    refine ⟨first, second, third, rfl, one.1, two.1, three.1, ?_, ?_, ?_⟩
    · exact intOf_eq one.1 ▸ small first (by simp)
    · exact intOf_eq two.1 ▸ small second (by simp)
    · exact intOf_eq three.1 ▸ small third (by simp)
  · rintro ⟨first, second, third, triple⟩
    have short : forall text, Decimal.Canonical charDigit text -> Decimal.value charDigit text ≤ 65535 ->
        text ∈ componentPattern.matches' := by
      intro text canonical small
      refine mem_componentPattern.mpr ⟨canonical, canonical.length_le ?_⟩
      exact Nat.lt_of_le_of_lt small (by decide)
    refine ⟨⟨first, second, third, triple.split, short first triple.canonicalFirst triple.first_le,
      short second triple.canonicalSecond triple.second_le, short third triple.canonicalThird triple.third_le⟩, ?_⟩
    rw [triple.split, splitOn_triple triple.canonicalFirst triple.canonicalSecond triple.canonicalThird]
    rintro ⟨component, member, large⟩
    simp only [List.mem_cons, List.not_mem_nil, or_false] at member
    have first_le := triple.first_le
    have second_le := triple.second_le
    have third_le := triple.third_le
    rcases member with rfl | rfl | rfl
    · rw [intOf_eq triple.canonicalFirst] at large
      omega
    · rw [intOf_eq triple.canonicalSecond] at large
      omega
    · rw [intOf_eq triple.canonicalThird] at large
      omega

end Package
end DevKit
