import DevKit.Foundation.Bytes
import DevKit.Foundation.Numeral

namespace DevKit
namespace Decimal

/-!
# Decimal numerals

Numerals over any alphabet whose digits are known, so that the same results
serve texts of bytes and texts of characters.  A numeral is canonical when it
has no superfluous leading zero.  A canonical numeral with more digits than a
bound has exceeds the bound, which limits the length of a numeral by its value.
-/

variable {Symbol Other : Type} (digit : Symbol -> Option Nat)

/-- A number that is continued by the digits of a text. -/
def continued (start : Nat) (text : List Symbol) : Nat :=
  text.foldl (fun number symbol => number * 10 + (digit symbol).getD 0) start

/-- The number that a text denotes. -/
def value (text : List Symbol) : Nat :=
  continued digit 0 text

/-- Digits, at least one, and no zero before another digit. -/
structure Canonical (text : List Symbol) : Prop where
  nonempty : text ≠ []
  digits : forall symbol, symbol ∈ text -> (digit symbol).isSome = true
  lead : forall symbol rest, text = symbol :: rest -> digit symbol = some 0 -> rest = []

/-- Three canonical numerals up to a limit, with a dot between them. -/
structure Triple (dot : Symbol) (limit : Nat) (text first second third : List Symbol) : Prop where
  split : text = first ++ dot :: (second ++ dot :: third)
  canonicalFirst : Canonical digit first
  canonicalSecond : Canonical digit second
  canonicalThird : Canonical digit third
  first_le : value digit first ≤ limit
  second_le : value digit second ≤ limit
  third_le : value digit third ≤ limit

theorem le_continued (start : Nat) (text : List Symbol) : start ≤ continued digit start text := by
  have digits : continued digit start text =
      Numeral.continued 10 start (text.map fun symbol => (digit symbol).getD 0) := List.foldl_map.symm
  rw [digits]
  exact Numeral.le_continued (by decide) start _

theorem mul_pow_le_continued (start : Nat) (text : List Symbol) :
    start * 10 ^ text.length ≤ continued digit start text := by
  induction text generalizing start with
  | nil => exact Nat.le_of_eq (Nat.mul_one start)
  | cons symbol text inductionHypothesis =>
      have step : start * 10 ^ (symbol :: text).length ≤
          (start * 10 + (digit symbol).getD 0) * 10 ^ text.length := by
        rw [List.length_cons, Nat.pow_succ', ← Nat.mul_assoc]
        exact Nat.mul_le_mul_right _ (Nat.le_add_right _ _)
      exact Nat.le_trans step (inductionHypothesis _)

variable {digit}

/-- A canonical numeral below a power of ten has no more digits than the power. -/
theorem Canonical.length_le {text : List Symbol} (canonical : Canonical digit text) {count : Nat}
    (small : value digit text < 10 ^ (count + 1)) : text.length ≤ count + 1 := by
  cases text with
  | nil => exact Nat.zero_le _
  | cons symbol text =>
      by_cases zero : digit symbol = some 0
      · rw [canonical.lead symbol text rfl zero]
        exact Nat.succ_le_succ (Nat.zero_le count)
      · obtain ⟨number, known⟩ := Option.isSome_iff_exists.mp (canonical.digits symbol List.mem_cons_self)
        have positive : 1 ≤ number := by
          rcases Nat.eq_zero_or_pos number with none | some
          · exact absurd (none ▸ known) zero
          · exact some
        have large : 10 ^ text.length ≤ value digit (symbol :: text) := by
          calc 10 ^ text.length = 1 * 10 ^ text.length := (Nat.one_mul _).symm
            _ ≤ (0 * 10 + (digit symbol).getD 0) * 10 ^ text.length := by
              rw [known, Option.getD_some, Nat.zero_mul, Nat.zero_add]
              exact Nat.mul_le_mul_right _ positive
            _ ≤ value digit (symbol :: text) := mul_pow_le_continued digit _ text
        have shorter := (Nat.pow_lt_pow_iff_right (by decide)).mp (Nat.lt_of_le_of_lt large small)
        exact shorter

/-! ## Another alphabet -/

section Translation

variable {digit' : Other -> Option Nat} {translate : Symbol -> Other}

theorem value_map (same : forall symbol, digit' (translate symbol) = digit symbol) (text : List Symbol) :
    value digit' (text.map translate) = value digit text := by
  unfold value continued
  rw [List.foldl_map]
  simp only [same]

theorem canonical_map (same : forall symbol, digit' (translate symbol) = digit symbol) (text : List Symbol) :
    Canonical digit' (text.map translate) <-> Canonical digit text := by
  constructor
  · intro canonical
    refine ⟨fun empty => canonical.nonempty (empty ▸ rfl), fun symbol member => ?_, ?_⟩
    · rw [← same]
      exact canonical.digits _ (List.mem_map.mpr ⟨symbol, member, rfl⟩)
    · rintro symbol rest rfl zero
      rw [← same] at zero
      exact List.map_eq_nil_iff.mp (canonical.lead _ _ rfl zero)
  · intro canonical
    refine ⟨fun empty => canonical.nonempty (List.map_eq_nil_iff.mp empty), fun other member => ?_, ?_⟩
    · obtain ⟨symbol, inside, rfl⟩ := List.mem_map.mp member
      rw [same]
      exact canonical.digits symbol inside
    · intro other rest split zero
      obtain ⟨symbol, tail, rfl, rfl, rfl⟩ := List.map_eq_cons_iff.mp split
      rw [same] at zero
      rw [canonical.lead symbol tail rfl zero]
      rfl

theorem Triple.map {dot : Symbol} {limit : Nat} {text first second third : List Symbol}
    (same : forall symbol, digit' (translate symbol) = digit symbol)
    (triple : Triple digit dot limit text first second third) :
    Triple digit' (translate dot) limit (text.map translate) (first.map translate) (second.map translate)
      (third.map translate) where
  split := by
    rw [triple.split]
    simp only [List.map_append, List.map_cons]
  canonicalFirst := (canonical_map same first).mpr triple.canonicalFirst
  canonicalSecond := (canonical_map same second).mpr triple.canonicalSecond
  canonicalThird := (canonical_map same third).mpr triple.canonicalThird
  first_le := (value_map same first).symm ▸ triple.first_le
  second_le := (value_map same second).symm ▸ triple.second_le
  third_le := (value_map same third).symm ▸ triple.third_le

/-- The parts of a translated text are translations of its parts. -/
theorem Triple.of_map {dot : Symbol} {limit : Nat} {text : List Symbol} {first second third : List Other}
    (same : forall symbol, digit' (translate symbol) = digit symbol)
    (only : forall symbol, translate symbol = translate dot -> symbol = dot)
    (triple : Triple digit' (translate dot) limit (text.map translate) first second third) :
    exists one two three, Triple digit dot limit text one two three := by
  obtain ⟨one, later, rfl, rfl, behindOne⟩ := List.map_eq_append_iff.mp triple.split
  obtain ⟨point, rest, rfl, isDot, behindDot⟩ := List.map_eq_cons_iff.mp behindOne
  obtain ⟨two, last, rfl, rfl, behindTwo⟩ := List.map_eq_append_iff.mp behindDot
  obtain ⟨point', three, rfl, isDot', rfl⟩ := List.map_eq_cons_iff.mp behindTwo
  rw [only point isDot, only point' isDot']
  exact ⟨one, two, three, rfl, (canonical_map same one).mp triple.canonicalFirst,
    (canonical_map same two).mp triple.canonicalSecond, (canonical_map same three).mp triple.canonicalThird,
    value_map same one ▸ triple.first_le, value_map same two ▸ triple.second_le,
    value_map same three ▸ triple.third_le⟩

end Translation

end Decimal
end DevKit
