import DevKit.Foundation.CString
import DevKit.Foundation.Numeral
import Mathlib.Order.PiLex
import Mathlib.Order.WithBot
import Mathlib.Order.Lattice.Nat

namespace DevKit
namespace AzureIoT

/-!
# Comparing firmware versions

`IoTHubClient_FwVersionCompare` walks through two version strings at once.  In
each turn it reads one number from each of them, up to the next dot, and
compares the two; a string that has ended contributes zeros.  Its indices are
`int`s that it goes on incrementing behind the end of the shorter string.

The order that this should be is the lexicographic one on infinite sequences of
numbers, zero from some place on, with the null pointer below everything.  The
comparison is that order as long as the indices stay within an `int`, and a memory
that holds both strings is far smaller than this.
-/

/-! ## The function -/

def isdigit (character : UInt8) : Bool :=
  48 ≤ character && character ≤ 57

/-- `vnum = vnum * 10 + (character - '0');` for a digit. -/
def addDigit (vnum : Int) (character : UInt8) : Option Int :=
  if isdigit character = true then do
    let shifted <- checkedInt (vnum * 10)
    checkedInt (shifted + (character.toNat - 48))
  else some vnum

/-- One of the two inner loops, with a bound on its turns. -/
def readNumber (text : Bytes) (length : Int) : Nat -> Int -> Int -> Option (Int × Int)
  | 0, _, _ => none
  | turns + 1, index, vnum =>
      if index < length then do
        let character <- loadAt text index
        if character = 46 then pure (index, vnum)
        else do
          let vnum <- addDigit vnum character
          let index <- checkedInt (index + 1)
          readNumber text length turns index vnum
      else some (index, vnum)

/-- The outer loop, with a bound on its turns. -/
def compareFrom (text1 text2 : Bytes) (length1 length2 : Int) : Nat -> Int -> Int -> Option Int
  | 0, _, _ => none
  | turns + 1, i, j =>
      if i < length1 ∨ j < length2 then do
        let (i, vnum1) <- readNumber text1 length1 (text1.length + 1) i 0
        let (j, vnum2) <- readNumber text2 length2 (text2.length + 1) j 0
        if vnum1 > vnum2 then pure 1
        else if vnum2 > vnum1 then pure (-1)
        else do
          let i <- checkedInt (i + 1)
          let j <- checkedInt (j + 1)
          compareFrom text1 text2 length1 length2 turns i j
      else some 0

/-- `IoTHubClient_FwVersionCompare` -/
def fwVersionCompare (fwVersion1 fwVersion2 : Pointer) : Option Int :=
  match fwVersion1, fwVersion2 with
  | none, none => some 0
  | some _, none => some 1
  | none, some _ => some (-1)
  | some text1, some text2 => do
      let ver1Len <- strlen fwVersion1
      let ver2Len <- strlen fwVersion2
      compareFrom text1 text2 (castInt ver1Len) (castInt ver2Len) (text1.length + text2.length + 1) 0 0

/-! ## What it should compare -/

/-- The number of a digit. -/
def digit (character : UInt8) : Option Nat :=
  if isdigit character = true then some (character.toNat - 48) else none

/-- The digits of a component after those that were read. -/
def continued (value : Nat) (component : Bytes) : Nat :=
  Numeral.continued 10 value (component.filterMap digit)

/-- The number that the digits of a component form. -/
def number (component : Bytes) : Nat :=
  continued 0 component

/-- The numbers of a version. -/
def components (text : Bytes) : List Nat :=
  (text.splitOn 46).map number

/-- The numbers of a version, continued with zeros, in lexicographic order. -/
def padded (numbers : List Nat) : Lex (Nat -> Nat) :=
  toLex fun place => numbers.getD place 0

/-- A version string in memory, whose numbers are `int`s. -/
structure Version extends Text where
  small : forall value, value ∈ components characters -> value < 2 ^ 31

/-- Where a version, or none, stands in the order. -/
def rank (version : Option Version) : WithBot (Lex (Nat -> Nat)) :=
  match version with
  | none => ⊥
  | some version => padded (components version.characters)

/-- A version, or the null pointer, as an argument. -/
def pointer (version : Option Version) : Pointer :=
  version.map fun version => version.region

/-- The number of characters of a version. -/
def length (version : Option Version) : Nat :=
  (version.map fun version => version.characters.length).getD 0

/-- The memory holds the characters of two versions and one more, and its addresses
are less than `2 ^ 31`. -/
def Resident (one other : Option Version) : Prop :=
  length one + length other + 1 < 2 ^ 31

open Classical in
/-- The sign of a comparison. -/
noncomputable def sign {Rank : Type} [LT Rank] (one other : Rank) : Int :=
  if one < other then -1 else if other < one then 1 else 0

/-! ## Reading a number -/

section Reading

variable {text : Bytes} {index : Nat}

theorem continued_cons (value : Nat) (character : UInt8) (component : Bytes) :
    continued value (character :: component) = continued (continued value [character]) component := by
  unfold continued
  cases known : digit character with
  | none => simp [known, Numeral.continued]
  | some number => simp [known, Numeral.continued]

theorem addDigit_eq {value : Nat} {character : UInt8} {component : Bytes}
    (small : continued value (character :: component) < 2 ^ 31) :
    addDigit value character = some ((continued value [character] : Nat) : Int) := by
  have bound : continued value [character] < 2 ^ 31 := by
    rw [continued_cons] at small
    exact Nat.lt_of_le_of_lt (Numeral.le_continued (by decide) _ _) small
  unfold addDigit
  by_cases isADigit : isdigit character = true
  · have number : continued value [character] = value * 10 + (character.toNat - 48) := by
      simp [continued, digit, isADigit, Numeral.continued]
    have low : 48 ≤ character.toNat := by
      simp only [isdigit, Bool.and_eq_true, decide_eq_true_eq] at isADigit
      exact isADigit.1
    rw [number] at bound ⊢
    rw [if_pos isADigit, checkedInt_some (by omega) (by omega), Option.bind_eq_bind, Option.bind_some]
    have same : (value : Int) * 10 + ((character.toNat : Int) - 48) =
        ((value * 10 + (character.toNat - 48) : Nat) : Int) := by
      omega
    rw [same]
    exact checkedInt_some (by omega) (by omega)
  · have same : continued value [character] = value := by
      simp [continued, digit, isADigit, Numeral.continued]
    rw [if_neg isADigit, same]

/-- The inner loop reads to the end of the component. -/
theorem readNumber_eq {region component rest : Bytes} {value turns : Nat}
    (loads : forall place, place < text.length -> region[place]? = text[place]?) (short : text.length < 2 ^ 31)
    (left : text.drop index = component ++ rest) (inside : index ≤ text.length) (plain : 46 ∉ component)
    (ends : rest.head?.all (· == 46)) (small : continued value component < 2 ^ 31) (enough : component.length < turns) :
    readNumber region text.length turns index value =
      some (((index + component.length : Nat) : Int), ((continued value component : Nat) : Int)) := by
  induction component generalizing index value turns with
  | nil =>
      obtain ⟨turns, rfl⟩ := Nat.exists_eq_succ_of_ne_zero (Nat.ne_of_gt enough)
      rw [readNumber]
      by_cases more : index < text.length
      · have first : text[index]? = rest.head? := by
          rw [← List.head?_drop, left, List.nil_append]
        have dot : rest.head? = some 46 := by
          rw [List.getElem?_eq_getElem more] at first
          rw [← first] at ends ⊢
          simpa using ends
        rw [if_pos (Int.ofNat_lt.mpr more), loadAt_natCast, loads index more, first, dot]
        rfl
      · rw [if_neg (by omega)]
        rfl
  | cons character component inductionHypothesis =>
      obtain ⟨turns, rfl⟩ := Nat.exists_eq_succ_of_ne_zero (Nat.ne_of_gt (Nat.lt_of_le_of_lt (Nat.zero_le _) enough))
      have more : index < text.length := by
        by_contra passed
        rw [List.drop_of_length_le (by omega)] at left
        cases left
      have first : text[index]? = some character := by
        rw [← List.head?_drop, left]
        rfl
      have next : text.drop (index + 1) = component ++ rest := by
        rw [← List.drop_drop, left]
        rfl
      have other : ¬ character = 46 := fun same => plain (same ▸ List.mem_cons_self)
      have counted : checkedInt ((index : Int) + 1) = some ((index + 1 : Nat) : Int) :=
        checkedInt_some (by omega) (by omega)
      have rest := inductionHypothesis next more (fun member => plain (List.mem_cons_of_mem _ member))
        (continued_cons value character component ▸ small)
        (by simpa using enough)
      rw [readNumber, if_pos (Int.ofNat_lt.mpr more), loadAt_natCast, loads index more, first, Option.bind_eq_bind,
        Option.bind_some, if_neg other, addDigit_eq small, Option.bind_eq_bind, Option.bind_some, counted,
        Option.bind_some, rest, continued_cons value character component, List.length_cons, Nat.add_right_comm,
        Nat.add_assoc]

end Reading

/-! ## Sequences of numbers -/

section Sequences

variable {one other : List Nat}

/-- The first place decides, unless it is equal. -/
theorem toLex_lt_iff (first second : Nat -> Nat) :
    toLex first < toLex second <->
      first 0 < second 0 ∨
        first 0 = second 0 ∧ toLex (fun place => first (place + 1)) < toLex (fun place => second (place + 1)) := by
  constructor
  · rintro ⟨place, same, less⟩
    cases place with
    | zero => exact Or.inl less
    | succ place =>
        exact Or.inr ⟨same 0 (Nat.succ_pos place), place, fun earlier before => same (earlier + 1)
          (Nat.succ_lt_succ before), less⟩
  · rintro (less | ⟨equal, place, same, less⟩)
    · exact ⟨0, fun earlier before => absurd before (Nat.not_lt_zero earlier), less⟩
    · refine ⟨place + 1, fun earlier before => ?_, less⟩
      cases earlier with
      | zero => exact equal
      | succ earlier => exact same earlier (Nat.lt_of_succ_lt_succ before)

theorem padded_lt_iff :
    padded one < padded other <->
      one.headD 0 < other.headD 0 ∨ one.headD 0 = other.headD 0 ∧ padded one.tail < padded other.tail := by
  have first : forall numbers : List Nat, numbers.getD 0 0 = numbers.headD 0 := by
    intro numbers
    cases numbers <;> rfl
  have later : forall numbers : List Nat,
      (fun place => numbers.getD (place + 1) 0) = fun place => numbers.tail.getD place 0 := by
    intro numbers
    funext place
    cases numbers with
    | nil => rfl
    | cons value numbers => simp
  rw [padded, padded, toLex_lt_iff, first, first, later, later]
  rfl

/-- A comparison of the first numbers, then of the others. -/
theorem sign_padded :
    sign (padded one) (padded other) =
      if one.headD 0 > other.headD 0 then 1
      else if other.headD 0 > one.headD 0 then -1
      else sign (padded one.tail) (padded other.tail) := by
  classical
  unfold sign
  rcases Nat.lt_trichotomy (one.headD 0) (other.headD 0) with less | equal | greater
  · rw [if_pos (padded_lt_iff.mpr (Or.inl less)), if_neg (Nat.lt_asymm less), if_pos less]
  · have tails : forall {first second : List Nat}, first.headD 0 = second.headD 0 ->
        (padded first < padded second <-> padded first.tail < padded second.tail) := by
      intro first second same
      exact padded_lt_iff.trans ⟨fun either => (either.resolve_left (Nat.not_lt.mpr (Nat.le_of_eq same.symm))).2,
        fun less => Or.inr ⟨same, less⟩⟩
    rw [if_neg (Nat.not_lt.mpr (Nat.le_of_eq equal)), if_neg (Nat.not_lt.mpr (Nat.le_of_eq equal.symm))]
    exact if_congr (tails equal) rfl (if_congr (tails equal.symm) rfl rfl)
  · have below : ¬ padded one < padded other := by
      rw [padded_lt_iff]
      rintro (less | ⟨equal, _⟩) <;> omega
    rw [if_neg below, if_pos (padded_lt_iff.mpr (Or.inl greater)), if_pos greater]

theorem sign_of_eq {Rank : Type} [Preorder Rank] (rank : Rank) : sign rank rank = 0 := by
  simp [sign]

/-- A new least element leaves the other signs alone. -/
theorem sign_coe {Rank : Type} [Preorder Rank] (one other : Rank) :
    sign one other = sign (one : WithBot Rank) (other : WithBot Rank) := by
  unfold sign
  by_cases below : one < other
  · rw [if_pos below, if_pos (WithBot.coe_lt_coe.mpr below)]
  · rw [if_neg below, if_neg (fun lifted => below (WithBot.coe_lt_coe.mp lifted))]
    by_cases above : other < one
    · rw [if_pos above, if_pos (WithBot.coe_lt_coe.mpr above)]
    · rw [if_neg above, if_neg (fun lifted => above (WithBot.coe_lt_coe.mp lifted))]

/-- A last zero changes nothing. -/
theorem padded_append_zeros (numbers : List Nat) (count : Nat) :
    padded (numbers ++ List.replicate count 0) = padded numbers := by
  unfold padded
  congr 1
  funext place
  rcases Nat.lt_or_ge place numbers.length with inside | beyond
  · simp [List.getD, List.getElem?_append_left inside]
  · have none : numbers.getD place 0 = 0 := by simp [List.getD, List.getElem?_eq_none beyond]
    rw [none]
    simp only [List.getD, List.getElem?_append_right beyond, List.getElem?_replicate]
    split <;> rfl

end Sequences

/-! ## Walking through both strings -/

/-- The numbers from an index on.  A string that ends with a dot has one more,
and none is left behind its end. -/
def remaining (text : Bytes) (index : Nat) : List Nat :=
  if index ≤ text.length then components (text.drop index) else []

section Walking

variable {text region : Bytes} {index : Nat}

theorem components_of_plain {component : Bytes} (plain : 46 ∉ component) : components component = [number component] := by
  rw [components, List.splitOn_eq_singleton plain]
  rfl

theorem components_append {component : Bytes} (plain : 46 ∉ component) (rest : Bytes) :
    components (component ++ 46 :: rest) = number component :: components rest := by
  have parts : (component ++ 46 :: rest).splitOn 46 = component.splitOn 46 ++ rest.splitOn 46 :=
    List.splitOnP_append_cons component rest (beq_self_eq_true 46)
  have front := components_of_plain plain
  unfold components at front ⊢
  rw [parts, List.map_append, front]
  rfl

/-- The first component ends with the string or before a dot. -/
theorem exists_component (left : Bytes) :
    exists component rest, left = component ++ rest ∧ 46 ∉ component ∧
      (rest = [] ∨ exists more, rest = 46 :: more) := by
  induction left with
  | nil => exact ⟨[], [], rfl, List.not_mem_nil, Or.inl rfl⟩
  | cons character left inductionHypothesis =>
      by_cases dot : character = 46
      · exact ⟨[], character :: left, rfl, List.not_mem_nil, Or.inr ⟨left, by rw [dot]⟩⟩
      · obtain ⟨component, rest, parts, plain, ends⟩ := inductionHypothesis
        refine ⟨character :: component, rest, by rw [parts, List.cons_append], ?_, ends⟩
        rw [List.mem_cons]
        rintro (same | member)
        · exact dot same.symm
        · exact plain member

/-- One turn of an inner loop reads the next number, or zero if there is none,
and the increment behind it steps over the dot. -/
theorem readNumber_turn (loads : forall place, place < text.length -> region[place]? = text[place]?)
    (fits : text.length ≤ region.length) (short : text.length < 2 ^ 31)
    (small : forall value, value ∈ remaining text index -> value < 2 ^ 31) :
    exists scanned, scanned ≤ text.length - index ∧
      readNumber region text.length (region.length + 1) index 0 =
        some (((index + scanned : Nat) : Int), (((remaining text index).headD 0 : Nat) : Int)) ∧
      remaining text (index + scanned + 1) = (remaining text index).tail := by
  by_cases inside : index ≤ text.length
  · have whole : remaining text index = components (text.drop index) := if_pos inside
    obtain ⟨component, rest, left, plain, ends⟩ := exists_component (text.drop index)
    have length : text.length - index = component.length + rest.length := by
      rw [← List.length_drop, left, List.length_append]
    have parts : (remaining text index).headD 0 = number component ∧ number component ∈ remaining text index ∧
        remaining text (index + component.length + 1) = (remaining text index).tail := by
      rw [whole, left]
      rcases ends with empty | ⟨more, dotted⟩
      · rw [empty, List.append_nil, components_of_plain plain]
        rw [empty, List.length_nil] at length
        exact ⟨rfl, List.mem_singleton_self _, if_neg (by omega)⟩
      · rw [dotted, components_append plain]
        rw [dotted, List.length_cons] at length
        refine ⟨rfl, List.mem_cons_self, ?_⟩
        have next : text.drop (index + component.length + 1) = more := by
          rw [Nat.add_assoc, ← List.drop_drop, left, dotted, ← List.drop_drop, List.drop_left]
          rfl
        rw [remaining, if_pos (by omega), next]
        rfl
    obtain ⟨head, member, tail⟩ := parts
    refine ⟨component.length, by omega, ?_, tail⟩
    rw [head]
    refine readNumber_eq loads short left inside plain ?_ (small _ member) (by omega)
    rcases ends with empty | ⟨more, dotted⟩
    · rw [empty]
      rfl
    · rw [dotted]
      rfl
  · have passed : remaining text index = [] := if_neg inside
    have next : remaining text (index + 0 + 1) = [] := if_neg (by omega)
    refine ⟨0, Nat.zero_le _, ?_, ?_⟩
    · rw [readNumber, if_neg (by omega), passed]
      rfl
    · rw [next, passed]
      rfl

/-- Nothing is left to compare where both strings have ended. -/
theorem padded_remaining (ended : text.length ≤ index) : padded (remaining text index) = padded [] := by
  unfold remaining
  split
  · rw [List.drop_of_length_le ended]
    exact padded_append_zeros [] 1
  · rfl

/-- The outer loop compares what remains of the two strings. -/
theorem compareFrom_eq {text1 text2 region1 region2 : Bytes} {i j turns : Nat}
    (loads1 : forall place, place < text1.length -> region1[place]? = text1[place]?)
    (loads2 : forall place, place < text2.length -> region2[place]? = text2[place]?)
    (fits1 : text1.length ≤ region1.length) (fits2 : text2.length ≤ region2.length)
    (short : text1.length + text2.length + 1 < 2 ^ 31)
    (small1 : forall value, value ∈ remaining text1 i -> value < 2 ^ 31)
    (small2 : forall value, value ∈ remaining text2 j -> value < 2 ^ 31)
    (enough : (text1.length - i) + (text2.length - j) < turns)
    (near1 : i + (text2.length - j) ≤ text1.length + text2.length + 1)
    (near2 : j + (text1.length - i) ≤ text1.length + text2.length + 1) :
    compareFrom region1 region2 text1.length text2.length turns i j =
      some (sign (padded (remaining text1 i)) (padded (remaining text2 j))) := by
  induction turns generalizing i j with
  | zero => exact absurd enough (Nat.not_lt_zero _)
  | succ turns inductionHypothesis =>
      rw [compareFrom]
      by_cases more : i < text1.length ∨ j < text2.length
      · obtain ⟨scanned1, within1, read1, next1⟩ := readNumber_turn loads1 fits1 (by omega) small1
        obtain ⟨scanned2, within2, read2, next2⟩ := readNumber_turn loads2 fits2 (by omega) small2
        have enters : (i : Int) < text1.length ∨ (j : Int) < text2.length := by omega
        have step1 : checkedInt (((i + scanned1 : Nat) : Int) + 1) = some ((i + scanned1 + 1 : Nat) : Int) :=
          checkedInt_some (by omega) (by omega)
        have step2 : checkedInt (((j + scanned2 : Nat) : Int) + 1) = some ((j + scanned2 + 1 : Nat) : Int) :=
          checkedInt_some (by omega) (by omega)
        have rest := @inductionHypothesis (i + scanned1 + 1) (j + scanned2 + 1)
          (fun value member => small1 value (List.mem_of_mem_tail (next1 ▸ member)))
          (fun value member => small2 value (List.mem_of_mem_tail (next2 ▸ member)))
          (by omega) (by omega) (by omega)
        rw [next1, next2] at rest
        rw [if_pos enters, read1, Option.bind_eq_bind, Option.bind_some]
        dsimp only
        rw [read2, Option.bind_some]
        dsimp only
        rw [step1, step2, sign_padded, apply_ite some, apply_ite some, ← rest]
        exact if_congr Int.ofNat_lt rfl (if_congr Int.ofNat_lt rfl rfl)
      · rw [if_neg (by omega), padded_remaining (by omega), padded_remaining (by omega)]
        exact congrArg some (sign_of_eq (padded [])).symm

end Walking

/-! ## The order of versions -/

theorem compare_versions {one other : Version} (resident : Resident (some one) (some other)) :
    fwVersionCompare (some one.region) (some other.region) =
      some (sign (padded (components one.characters)) (padded (components other.characters))) := by
  have short : one.characters.length + other.characters.length + 1 < 2 ^ 31 := resident
  have loads : forall version : Version, forall place, place < version.characters.length ->
      version.region[place]? = version.characters[place]? := by
    intro version place inside
    rw [Text.region, List.getElem?_append_left inside]
  have fits1 := one.length_region
  have fits2 := other.length_region
  have start : forall version : Version, remaining version.characters 0 = components version.characters := by
    intro version
    exact if_pos (Nat.zero_le _)
  rw [← start one, ← start other]
  rw [fwVersionCompare, one.strlen_region, Option.bind_eq_bind, Option.bind_some, other.strlen_region,
    Option.bind_some, castInt_eq (by omega), castInt_eq (by omega)]
  exact compareFrom_eq (i := 0) (j := 0) (loads one) (loads other) (by omega) (by omega) (by omega)
    (start one ▸ one.small) (start other ▸ other.small) (by omega) (by omega) (by omega)

/-- The function computes the order of the ranks, for null pointers too. -/
theorem fwVersionCompare_eq {one other : Option Version} (resident : Resident one other) :
    fwVersionCompare (pointer one) (pointer other) = some (sign (rank one) (rank other)) := by
  classical
  cases one with
  | none =>
      cases other with
      | none => exact congrArg some (sign_of_eq (⊥ : WithBot (Lex (Nat -> Nat)))).symm
      | some other =>
          have below : rank none < rank (some other) := WithBot.bot_lt_coe _
          exact congrArg some (if_pos below).symm
  | some one =>
      cases other with
      | none =>
          have above : rank none < rank (some one) := WithBot.bot_lt_coe _
          have notBelow : ¬ rank (some one) < rank none := lt_asymm above
          exact congrArg some ((if_neg notBelow).trans (if_pos above)).symm
      | some other =>
          refine (compare_versions resident).trans (congrArg some ?_)
          exact sign_coe _ _

theorem sign_neg {Rank : Type} [LinearOrder Rank] (one other : Rank) : sign one other = - sign other one := by
  unfold sign
  rcases lt_trichotomy one other with less | equal | greater
  · rw [if_pos less, if_neg (lt_asymm less), if_pos less]
  · rw [equal, if_neg (lt_irrefl other), if_neg (lt_irrefl other)]
    rfl
  · rw [if_neg (lt_asymm greater), if_pos greater, if_pos greater]
    rfl

theorem sign_le_zero_iff {Rank : Type} [LinearOrder Rank] {one other : Rank} : sign one other ≤ 0 <-> one ≤ other := by
  unfold sign
  rcases lt_trichotomy one other with less | equal | greater
  · rw [if_pos less]
    exact ⟨fun _ => le_of_lt less, fun _ => by decide⟩
  · rw [equal, if_neg (lt_irrefl other), if_neg (lt_irrefl other)]
    exact ⟨fun _ => le_refl other, fun _ => le_refl 0⟩
  · rw [if_neg (lt_asymm greater), if_pos greater]
    exact ⟨fun impossible => absurd impossible (by decide), fun below => absurd greater (not_lt.mpr below)⟩

/-- Comparing versions is a total preorder, with the null pointer below every
version: the result is the sign of the lexicographic comparison of the numbers,
padded with zeros. -/
theorem fwVersionCompare_preorder :
    (forall one other : Option Version, Resident one other ->
      fwVersionCompare (pointer one) (pointer other) = some (sign (rank one) (rank other))) ∧
    (forall one other : Option Version, Resident one other -> fwVersionCompare (pointer one) (pointer other) =
      (fwVersionCompare (pointer other) (pointer one)).map fun value => -value) ∧
    (forall one : Option Version, Resident one one -> fwVersionCompare (pointer one) (pointer one) = some 0) ∧
    (forall (one two three : Option Version) (first second : Int),
      Resident one two -> Resident two three -> Resident one three ->
      fwVersionCompare (pointer one) (pointer two) = some first ->
      fwVersionCompare (pointer two) (pointer three) = some second -> first ≤ 0 -> second ≤ 0 ->
      exists third, fwVersionCompare (pointer one) (pointer three) = some third ∧ third ≤ 0) ∧
    forall (longer shorter : Version) (count : Nat) (other : Option Version),
      Resident (some longer) other -> Resident (some shorter) other ->
      components longer.characters = components shorter.characters ++ List.replicate count 0 ->
      fwVersionCompare (pointer (some longer)) (pointer other) =
        fwVersionCompare (pointer (some shorter)) (pointer other) := by
  refine ⟨fun one other => fwVersionCompare_eq, ?_, ?_, ?_, ?_⟩
  · intro one other resident
    have turned : Resident other one := by
      unfold Resident at resident ⊢
      omega
    rw [fwVersionCompare_eq resident, fwVersionCompare_eq turned, Option.map_some]
    exact congrArg some (sign_neg (rank one) (rank other))
  · intro one resident
    rw [fwVersionCompare_eq resident]
    exact congrArg some (sign_of_eq (rank one))
  · intro one two three first second resident1 resident2 resident3 compared1 compared2 low1 low2
    rw [fwVersionCompare_eq resident1, Option.some.injEq] at compared1
    rw [fwVersionCompare_eq resident2, Option.some.injEq] at compared2
    rw [← compared1] at low1
    rw [← compared2] at low2
    refine ⟨_, fwVersionCompare_eq resident3, ?_⟩
    exact sign_le_zero_iff.mpr (le_trans (sign_le_zero_iff.mp low1) (sign_le_zero_iff.mp low2))
  · intro longer shorter count other resident1 resident2 same
    have ranks : rank (some longer) = rank (some shorter) := by
      change ((padded (components longer.characters) : Lex (Nat -> Nat)) : WithBot (Lex (Nat -> Nat))) = _
      rw [same, padded_append_zeros]
      rfl
    rw [fwVersionCompare_eq resident1, fwVersionCompare_eq resident2, ranks]

/-- A version that is written out. -/
def Version.ofBytes (characters : Bytes) (plain : 0 ∉ characters)
    (small : forall value, value ∈ components characters -> value < 2 ^ 31) : Version where
  characters := characters
  rest := []
  plain := plain
  small := small

/-- `1.9`, `1.10` and `1.10.0.` -/
theorem fwVersionCompare_preorder_ten :
    exists one two three : Version, one.region = [49, 46, 57, 0] ∧ two.region = [49, 46, 49, 48, 0] ∧
      three.region = [49, 46, 49, 48, 46, 48, 46, 0] ∧
      fwVersionCompare (some one.region) (some one.region) = some 0 ∧
      (exists third, fwVersionCompare (some one.region) (some three.region) = some third ∧ third ≤ 0) ∧
      fwVersionCompare (some three.region) (some one.region) = fwVersionCompare (some two.region) (some one.region) := by
  obtain ⟨_, _, reflexive, transitive, zeros⟩ := fwVersionCompare_preorder
  let one := Version.ofBytes [49, 46, 57] (by decide) (by decide)
  let two := Version.ofBytes [49, 46, 49, 48] (by decide) (by decide)
  let three := Version.ofBytes [49, 46, 49, 48, 46, 48, 46] (by decide) (by decide)
  have resident (first second : Version) (short1 : first.characters.length ≤ 7)
      (short2 : second.characters.length ≤ 7) : Resident (some first) (some second) := by
    have small : first.characters.length + second.characters.length + 1 < 2 ^ 31 := by omega
    exact small
  have short1 : one.characters.length ≤ 7 := by decide
  have short2 : two.characters.length ≤ 7 := by decide
  have short3 : three.characters.length ≤ 7 := by decide
  refine ⟨one, two, three, rfl, rfl, rfl, reflexive (some one) (resident one one short1 short1), ?_,
    zeros three two 2 (some one) (resident three one short3 short1) (resident two one short2 short1) (by decide)⟩
  exact transitive (some one) (some two) (some three) (-1) 0 (resident one two short1 short2)
    (resident two three short2 short3) (resident one three short1 short3) (by decide +kernel) (by decide +kernel)
    (by decide) (by decide)

end AzureIoT
end DevKit
