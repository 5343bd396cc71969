import DevKit.Foundation.CheckedMemory

namespace DevKit

/-!
# Strings that end with a zero byte

`strlen` runs to the first zero byte and is undefined when there is none.  A
string is cut into pieces when it is stored in several places, and it comes
back from a larger region that begins with it: the results below are about
strings as prefixes, so that whatever lies behind the terminator does not
matter.
-/

/-- The number of bytes before the first zero byte. -/
def strlen (text : Pointer) : Option Nat :=
  text.bind fun region => region.findIdx? (· == 0)

/-- The string that a region begins with. -/
def textOf (region : Bytes) : Option Bytes :=
  (strlen (some region)).map region.take

/-- Search for a byte in a string.  The outer option is undefined behaviour, the
inner one the null pointer. -/
def strchr : Bytes -> UInt8 -> Option Pointer
  | [], _ => none
  | byte :: rest, wanted =>
      if byte = wanted then some (some (byte :: rest))
      else if byte = 0 then some none
      else strchr rest wanted

/-- The search ends at the wanted byte. -/
theorem strchr_found {text found : Bytes} {wanted : UInt8} (same : strchr text wanted = some (some found)) :
    found.length ≤ text.length ∧ exists rest, found = wanted :: rest := by
  induction text with
  | nil => cases same
  | cons byte rest inductionHypothesis =>
      rw [strchr] at same
      by_cases here : byte = wanted
      · rw [if_pos here] at same
        cases same
        exact ⟨Nat.le_refl _, rest, congrArg (· :: rest) here⟩
      · rw [if_neg here] at same
        by_cases ended : byte = 0
        · rw [if_pos ended] at same
          cases same
        · rw [if_neg ended] at same
          rcases inductionHypothesis same with ⟨shorter, start⟩
          exact ⟨Nat.le_succ_of_le shorter, start⟩

/-- The search passes over bytes that are neither wanted nor a terminator. -/
theorem strchr_append {front rest : Bytes} {wanted : UInt8}
    (other : forall byte, byte ∈ front -> byte ≠ wanted ∧ byte ≠ 0) :
    strchr (front ++ rest) wanted = strchr rest wanted := by
  induction front with
  | nil => rfl
  | cons byte front inductionHypothesis =>
      have first := other byte List.mem_cons_self
      rw [List.cons_append, strchr, if_neg first.1, if_neg first.2]
      exact inductionHypothesis fun byte member => other byte (List.mem_cons_of_mem _ member)

/-- The bytes of a literal of the source, without the terminator. -/
def literal (text : String) : Bytes :=
  text.toList.map fun character => UInt8.ofNat character.toNat

/-- The character of a hexadecimal digit. -/
def hexDigit (digit : Nat) : UInt8 :=
  (literal "0123456789abcdef").getD digit 0

/-- Search for a string without zero bytes: its offset, or the null pointer. -/
def strstr (pattern : Bytes) : Bytes -> Option (Option Nat)
  | [] => none
  | byte :: rest =>
      if pattern <+: byte :: rest then some (some 0)
      else if byte = 0 then some none
      else (strstr pattern rest).map fun found => found.map (· + 1)

/-- The first place of a pattern in a text. -/
def Earliest (pattern text : Bytes) (position : Nat) : Prop :=
  pattern <+: text.drop position ∧ forall earlier, earlier < position -> ¬ pattern <+: text.drop earlier

theorem Earliest.unique {pattern text : Bytes} {one two : Nat} (first : Earliest pattern text one)
    (second : Earliest pattern text two) : one = two := by
  rcases Nat.lt_trichotomy one two with less | same | greater
  · exact absurd first.1 (second.2 one less)
  · exact same
  · exact absurd second.1 (first.2 two greater)

theorem Earliest.le_length {pattern text : Bytes} {position : Nat} (earliest : Earliest pattern text position)
    (nonempty : pattern ≠ []) : position ≤ text.length := by
  by_contra far
  have inside := earliest.1
  rw [List.drop_eq_nil_of_le (Nat.le_of_not_le far)] at inside
  exact nonempty (List.prefix_nil.mp inside)

theorem exists_earliest {pattern text : Bytes} {position : Nat} (occurs : pattern <+: text.drop position) :
    exists first, Earliest pattern text first := by
  classical
  have found : exists position, pattern <+: text.drop position := ⟨position, occurs⟩
  exact ⟨Nat.find found, Nat.find_spec found, fun earlier less => Nat.find_min found less⟩

/-- More text behind the first place does not change it. -/
theorem Earliest.append {pattern text : Bytes} {position : Nat} (earliest : Earliest pattern text position)
    (nonempty : pattern ≠ []) (rest : Bytes) : Earliest pattern (text ++ rest) position := by
  have within := earliest.le_length nonempty
  have length := earliest.1.length_le
  rw [List.length_drop] at length
  refine ⟨?_, fun earlier less inside => earliest.2 earlier less ?_⟩
  · rw [List.drop_append_of_le_length within]
    exact earliest.1.trans (List.prefix_append _ _)
  · rw [List.drop_append_of_le_length (by omega)] at inside
    refine List.prefix_of_prefix_length_le inside (List.prefix_append _ _) ?_
    rw [List.length_drop]
    omega

/-- A string is not found across a byte that it does not have. -/
theorem prefix_append_mark {mark : UInt8} {pattern text rest : Bytes} (absent : mark ∉ pattern) :
    pattern <+: text ++ mark :: rest <-> pattern <+: text := by
  refine ⟨fun inside => ?_, fun inside => inside.trans (List.prefix_append _ _)⟩
  rcases Nat.lt_or_ge text.length pattern.length with longer | short
  · have front : text ++ [mark] <+: text ++ mark :: rest := ⟨rest, List.append_assoc _ _ _⟩
    have covered : text ++ [mark] <+: pattern := by
      refine List.prefix_of_prefix_length_le front inside ?_
      rw [List.length_append, List.length_singleton]
      exact longer
    exact absurd (covered.mem (List.mem_append_right _ (List.mem_singleton_self _))) absent
  · exact List.prefix_of_prefix_length_le inside (List.prefix_append _ _) short

/-- A byte that two texts do not have shows where they end. -/
theorem append_mark_inj {mark : UInt8} {one two restOne restTwo : Bytes} (absentOne : mark ∉ one) (absentTwo : mark ∉ two)
    (same : one ++ mark :: restOne = two ++ mark :: restTwo) : one = two ∧ restOne = restTwo := by
  have first : one <+: two := by
    rw [← prefix_append_mark absentOne, ← same]
    exact List.prefix_append _ _
  have second : two <+: one := by
    rw [← prefix_append_mark absentTwo, same]
    exact List.prefix_append _ _
  have equal := first.eq_of_length_le second.length_le
  rw [equal] at same
  exact ⟨equal, (List.cons.inj (List.append_cancel_left same)).2⟩

/-- The first place behind such a byte. -/
theorem Earliest.behind_mark {mark : UInt8} {pattern text rest : Bytes} {position : Nat} (absent : mark ∉ pattern)
    (none : ¬ pattern <:+: text) (earliest : Earliest pattern rest position) :
    Earliest pattern (text ++ mark :: rest) (text.length + 1 + position) := by
  have behind (place : Nat) : (text ++ mark :: rest).drop (text.length + 1 + place) = rest.drop place := by
    rw [Nat.add_assoc, ← List.drop_drop, List.drop_left, Nat.add_comm, List.drop_succ_cons]
  refine ⟨by rw [behind]; exact earliest.1, fun earlier less inside => ?_⟩
  rcases Nat.lt_or_ge text.length earlier with later | early
  · obtain ⟨place, rfl⟩ := Nat.exists_eq_add_of_lt later
    rw [Nat.add_right_comm, behind] at inside
    exact earliest.2 place (by omega) inside
  · rw [List.drop_append_of_le_length early, prefix_append_mark absent] at inside
    exact none (inside.isInfix.trans (List.drop_suffix _ _).isInfix)

/-- A string in a region that may go on behind it. -/
structure Text where
  characters : Bytes
  rest : Bytes
  plain : 0 ∉ characters

namespace Text

/-- The empty string, in an object of one byte. -/
def empty : Text := ⟨[], [], List.not_mem_nil⟩

/-- The object the string lies in. -/
def region (text : Text) : Bytes :=
  text.characters ++ 0 :: text.rest

/-- The string with its terminator. -/
def stored (text : Text) : Bytes :=
  text.characters ++ [0]

theorem region_eq (text : Text) : text.region = text.stored ++ text.rest := by
  rw [region, stored, List.append_assoc]
  rfl

theorem length_stored (text : Text) : text.stored.length = text.characters.length + 1 := by
  rw [stored, List.length_append]
  rfl

theorem length_region (text : Text) : text.characters.length + 1 ≤ text.region.length := by
  rw [region_eq, List.length_append, length_stored]
  exact Nat.le_add_right _ _

theorem take_region (text : Text) : text.region.take (text.characters.length + 1) = text.stored := by
  rw [region_eq, ← length_stored, List.take_left]

theorem strlen_region (text : Text) : strlen (some text.region) = some text.characters.length := by
  rw [strlen, Option.bind_some, region, List.findIdx?_append, List.findIdx?_eq_none_iff.mpr]
  · rw [List.findIdx?_cons, if_pos (beq_self_eq_true _), Option.map_some, Nat.zero_add, Option.none_or]
  · intro byte member
    rw [beq_eq_false_iff_ne]
    rintro rfl
    exact text.plain member

theorem textOf_region (text : Text) : textOf text.region = some text.characters := by
  rw [textOf, strlen_region, Option.map_some, region, List.take_left]

end Text

/-- A region has a string when it begins with the string and a terminator. -/
theorem textOf_eq_some_iff {region text : Bytes} :
    textOf region = some text <-> 0 ∉ text ∧ exists rest, region = text ++ 0 :: rest := by
  refine ⟨fun known => ?_, fun ⟨plain, rest, split⟩ => split ▸ Text.textOf_region ⟨text, rest, plain⟩⟩
  have ends : 0 ∈ region := by
    by_contra absent
    rw [textOf, strlen, Option.bind_some, List.findIdx?_eq_none_iff.mpr] at known
    · cases known
    · exact fun byte member => beq_eq_false_iff_ne.mpr fun zero => absent (zero ▸ member)
  rcases List.eq_append_cons_of_mem ends with ⟨front, rest, split, plain⟩
  have front_eq := Text.textOf_region ⟨front, rest, plain⟩
  rw [Text.region, ← split, known] at front_eq
  cases front_eq
  exact ⟨plain, rest, split⟩

theorem strlen_of_textOf {region text : Bytes} (known : textOf region = some text) :
    strlen (some region) = some text.length := by
  rcases textOf_eq_some_iff.mp known with ⟨plain, rest, rfl⟩
  exact Text.strlen_region ⟨text, rest, plain⟩

/-- A terminator among the first bytes bounds the string. -/
theorem textOf_of_mem {region : Bytes} {size : Nat} (ends : 0 ∈ region.take size) :
    exists text, textOf region = some text ∧ text.length < size := by
  rcases List.eq_append_cons_of_mem ends with ⟨text, rest, split, plain⟩
  have whole : region = text ++ 0 :: (rest ++ region.drop size) := by
    rw [← List.cons_append, ← List.append_assoc, ← split, List.take_append_drop]
  refine ⟨text, textOf_eq_some_iff.mpr ⟨plain, _, whole⟩, ?_⟩
  have length := List.length_take_le size region
  rw [split, List.length_append, List.length_cons] at length
  omega

/-- Where a region begins with a string and its terminator, that is its string. -/
theorem textOf_splice_zero {region characters : Bytes} (plain : 0 ∉ characters) :
    textOf (splice region 0 (characters ++ [0])) = some characters := by
  rw [splice_zero, List.append_assoc]
  exact Text.textOf_region ⟨characters, _, plain⟩

theorem textOf_of_take {region characters : Bytes} (plain : 0 ∉ characters)
    (front : region.take characters.length = characters)
    (terminated : region[characters.length]? = some 0) : textOf region = some characters := by
  rcases List.getElem?_eq_some_iff.mp terminated with ⟨short, zero⟩
  have whole : region = characters ++ 0 :: region.drop (characters.length + 1) := by
    have split := List.take_append_drop characters.length region
    rw [front, List.drop_eq_getElem_cons short, zero] at split
    exact split.symm
  have text := Text.textOf_region ⟨characters, region.drop (characters.length + 1), plain⟩
  rw [Text.region, ← whole] at text
  exact text

/-! ## Pointers into an object -/

/-- `&target[count]`. -/
def advance (target : Pointer) (count : Nat) : Pointer :=
  target.map (List.drop count)

/-- The object after a function has worked on `&target[count]`. -/
def resume (target : Pointer) (count : Nat) (part : Pointer) : Pointer :=
  target.bind fun region => part.map (region.take count ++ ·)

/-- Copying to the front and then right behind it. -/
theorem take_append_splice (region first second : Bytes) :
    (splice region 0 first).take first.length ++ splice ((splice region 0 first).drop first.length) 0 second =
      splice region 0 (first ++ second) := by
  rw [splice_zero, splice_zero, splice_zero, List.take_left, List.drop_left, List.append_assoc, List.drop_drop,
    List.length_append]

/-- A string whose first piece fills a region as far as it goes, and whose rest
begins what follows, is a prefix of both together. -/
theorem prefix_splice_append {text region rest : Bytes} (later : text.drop region.length <+: rest) :
    text <+: splice region 0 (text.take region.length) ++ rest := by
  rw [splice_zero]
  by_cases short : text.length ≤ region.length
  · rw [List.take_of_length_le short, List.append_assoc]
    exact List.prefix_append _ _
  · rw [List.length_take, Nat.min_eq_left (by omega), List.drop_length, List.append_nil]
    have split := List.take_append_drop region.length text
    nth_rewrite 1 [← split]
    exact (List.prefix_append_right_inj _).mpr later

/-- A terminator behind the end of a string, or in its place, changes nothing. -/
theorem textOf_terminate {region text : Bytes} {size : Nat} (known : textOf region = some text)
    (short : text.length < size) (within : size ≤ region.length) :
    textOf (splice region (size - 1) [0]) = some text := by
  rcases textOf_eq_some_iff.mp known with ⟨plain, rest, rfl⟩
  rw [List.length_append, List.length_cons] at within
  refine textOf_eq_some_iff.mpr ⟨plain, ?_⟩
  by_cases last : text.length = size - 1
  · refine ⟨rest, ?_⟩
    rw [splice, ← last, List.take_left, List.append_assoc, List.length_singleton, ← List.drop_drop, List.drop_left]
    rfl
  · obtain ⟨gap, rfl⟩ : exists gap, size = text.length + 1 + gap + 1 := ⟨size - text.length - 2, by omega⟩
    refine ⟨splice rest gap [0], ?_⟩
    have before : (text ++ 0 :: rest).take (text.length + 1 + gap) = text ++ 0 :: rest.take gap := by
      rw [Nat.add_assoc, List.take_length_add_append, Nat.add_comm 1 gap, List.take_succ_cons]
    have behind : (text ++ 0 :: rest).drop (text.length + 1 + gap + 1) = rest.drop (gap + 1) := by
      rw [Nat.add_assoc, Nat.add_assoc, List.drop_length_add_append, Nat.add_comm 1, List.drop_succ_cons]
    rw [Nat.add_sub_cancel, splice, splice, before, List.length_singleton, behind]
    simp only [List.append_assoc, List.cons_append]

/-- A string copied behind another one. -/
theorem textOf_splice_behind {region text more : Bytes} (known : textOf region = some text) (plain : 0 ∉ more) :
    textOf (splice region text.length (more ++ [0])) = some (text ++ more) := by
  rcases textOf_eq_some_iff.mp known with ⟨plainText, rest, rfl⟩
  refine textOf_eq_some_iff.mpr ⟨?_, (text ++ 0 :: rest).drop (text.length + (more ++ [0]).length), ?_⟩
  · rw [List.mem_append, not_or]
    exact ⟨plainText, plain⟩
  · rw [splice, List.take_left]
    simp only [List.append_assoc, List.cons_append, List.nil_append]

/-- The string left in a buffer that received the front of a region and a
terminator in its last byte. -/
theorem textOf_splice {characters content buffer : Bytes} {size : Nat} (plain : 0 ∉ characters)
    (starts : characters ++ [0] <+: content) (positive : 0 < size) (room : size ≤ buffer.length) :
    textOf (splice (splice buffer 0 (content.take size)) (size - 1) [0]) =
      some (characters.take (size - 1)) := by
  rcases starts with ⟨tail, rfl⟩
  have large : (splice buffer 0 ((characters ++ [0] ++ tail).take size)).length = buffer.length := by
    apply length_splice
    rw [List.length_take]
    omega
  have copied : forall count, count ≤ characters.length + 1 -> count ≤ size ->
      (splice buffer 0 ((characters ++ [0] ++ tail).take size)).take count = (characters ++ [0]).take count := by
    intro count short inside
    rw [splice_zero, List.take_append_of_le_length, List.take_take, Nat.min_eq_left inside,
      List.take_append_of_le_length]
    · rw [List.length_append]
      exact short
    · simp only [List.length_take, List.length_append, List.length_singleton]
      omega
  have length : (characters.take (size - 1)).length = min (size - 1) characters.length := List.length_take
  have front : forall count, count ≤ size - 1 ->
      (splice (splice buffer 0 ((characters ++ [0] ++ tail).take size)) (size - 1) [0]).take count =
        (splice buffer 0 ((characters ++ [0] ++ tail).take size)).take count := by
    intro count early
    rw [splice, List.append_assoc, List.take_append_of_le_length, List.take_take, Nat.min_eq_left early]
    rw [List.length_take]
    omega
  apply textOf_of_take
  · exact fun member => plain (List.mem_of_mem_take member)
  · rw [length, front _ (Nat.min_le_left _ _), copied _ (by omega) (by omega),
      List.take_append_of_le_length (Nat.min_le_right _ _), ← List.take_take, List.take_length]
  · rw [length]
    by_cases shorter : characters.length < size - 1
    · have ending : (splice (splice buffer 0 ((characters ++ [0] ++ tail).take size)) (size - 1) [0]).take
          (characters.length + 1) = characters ++ [0] := by
        rw [front _ shorter, copied _ (Nat.le_refl _) (by omega), List.take_of_length_le]
        exact Nat.le_of_eq List.length_append
      have position := congrArg (fun region => region[characters.length]?) ending
      rw [Nat.min_eq_right (Nat.le_of_lt shorter)]
      simpa [List.getElem?_take] using position
    · have before : ((splice buffer 0 ((characters ++ [0] ++ tail).take size)).take (size - 1)).length =
          size - 1 := by
        rw [List.length_take]
        omega
      rw [Nat.min_eq_left (by omega), splice, List.append_assoc, List.getElem?_append_right (Nat.le_of_eq before),
        before, Nat.sub_self]
      rfl

/-- The difference of the first bytes that differ among `count`; they are
unsigned. -/
def strncmp : (count : Nat) -> Bytes -> Bytes -> Option Int
  | 0, _, _ => some 0
  | count + 1, one :: ones, two :: twos =>
      if one ≠ two then some ((one.toNat : Int) - two.toNat)
      else if one = 0 then some 0
      else strncmp count ones twos
  | _ + 1, _, _ => none

/-! ## Copies of a given length -/

/-- `strncpy` of a number of bytes: up to the terminator, and zeros for the rest. -/
def strncpyBytes (source : Bytes) (size : Nat) : Bytes :=
  let text := (source.take size).takeWhile (· ≠ 0)
  text ++ List.replicate (size - text.length) 0

end DevKit
