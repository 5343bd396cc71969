import DevKit.Foundation.CString

namespace DevKit
namespace Core

/-!
# Search in memory

`memmem_P` looks for the needle at one place of the buffer after the other.  A
place where a byte differs is left behind.  A place where the buffer ends before
the needle does is not: nothing there is different, the needle is not complete,
and the next pass looks at the same place again.
-/

/-- How a search stands after some passes; `wild` is a read outside of the buffer
or of the needle. -/
inductive Search where
  | returned (position : Option Nat)
  | running
  | wild
deriving Repr, DecidableEq

/-- The inner loop: whether a byte differed, and how much of the needle is left. -/
def compareTag (buf find : Bytes) : (tagBufSize findSize tag findTag : Nat) -> Option (Bool × Nat)
  | 0, findSize, _, _ => some (false, findSize)
  | _ + 1, 0, _, _ => some (false, 0)
  | tagBufSize + 1, findSize + 1, tag, findTag =>
      match find[findTag]?, buf[tag]? with
      | some ch, some byte =>
          if ch ≠ byte then some (true, findSize + 1)
          else compareTag buf find tagBufSize findSize (tag + 1) (findTag + 1)
      | _, _ => none

def searchLoop (buf find : Bytes) (first : UInt8) : (passes read bufSize : Nat) -> Search
  | _, _, 0 => .returned none
  | 0, _, _ + 1 => .running
  | passes + 1, read, bufSize + 1 =>
      match buf[read]? with
      | none => .wild
      | some byte =>
          if byte = first then
            match compareTag buf find bufSize (find.length - 1) (read + 1) 1 with
            | none => .wild
            | some (differs, findSize) =>
                let position := if differs then read + 1 else read
                if findSize = 0 then .returned (some position)
                else searchLoop buf find first passes position (if differs then bufSize else bufSize + 1)
          else searchLoop buf find first passes (read + 1) bufSize

/-- The search, as far as it comes in so many passes of its outer loop. -/
def memmem_P (buf find : Bytes) (passes : Nat) : Search :=
  match find[0]? with
  | none => .wild
  | some first => searchLoop buf find first passes 0 buf.length

/-! ## One pass -/

section Pass

variable {buf find : Bytes}

/-- The inner loop stops because the needle is complete, because the buffer ends
inside the needle, or because of a byte that differs. -/
theorem compareTag_cases {tagBufSize findSize tag findTag : Nat} (inBuf : tag + tagBufSize = buf.length)
    (inFind : findTag + findSize = find.length) :
    (find.drop findTag <+: buf.drop tag ∧ compareTag buf find tagBufSize findSize tag findTag = some (false, 0)) ∨
    (¬ find.drop findTag <+: buf.drop tag ∧ buf.drop tag <+: find.drop findTag ∧
      exists left, compareTag buf find tagBufSize findSize tag findTag = some (false, left + 1)) ∨
    (¬ find.drop findTag <+: buf.drop tag ∧ ¬ buf.drop tag <+: find.drop findTag ∧
      exists left, compareTag buf find tagBufSize findSize tag findTag = some (true, left + 1)) := by
  induction tagBufSize generalizing findSize tag findTag with
  | zero =>
      have bufEnd : buf.drop tag = [] := List.drop_eq_nil_of_le (by omega)
      rw [bufEnd]
      cases findSize with
      | zero =>
          have findEnd : find.drop findTag = [] := List.drop_eq_nil_of_le (by omega)
          rw [findEnd]
          exact Or.inl ⟨List.prefix_rfl, rfl⟩
      | succ findSize =>
          have more : find.drop findTag ≠ [] := by
            rw [Ne, List.drop_eq_nil_iff]
            omega
          exact Or.inr (Or.inl ⟨fun inside => more (List.prefix_nil.mp inside), List.nil_prefix, findSize, rfl⟩)
  | succ tagBufSize inductionHypothesis =>
      cases findSize with
      | zero =>
          have findEnd : find.drop findTag = [] := List.drop_eq_nil_of_le (by omega)
          rw [findEnd]
          exact Or.inl ⟨List.nil_prefix, rfl⟩
      | succ findSize =>
          have bufBound : tag < buf.length := by omega
          have findBound : findTag < find.length := by omega
          rw [compareTag, List.getElem?_eq_getElem bufBound, List.getElem?_eq_getElem findBound,
            List.drop_eq_getElem_cons bufBound, List.drop_eq_getElem_cons findBound]
          dsimp only
          by_cases same : find[findTag] = buf[tag]
          · rw [if_neg (fun different => different same), same]
            simp only [List.cons_prefix_cons, true_and]
            exact inductionHypothesis (by omega) (by omega)
          · rw [if_pos same]
            simp only [List.cons_prefix_cons]
            exact Or.inr (Or.inr ⟨fun both => same both.1, fun both => same both.1.symm, findSize, rfl⟩)

/-- One pass of the outer loop. -/
theorem searchLoop_pass {first : UInt8} {rest : Bytes} (needle : find = first :: rest) {read bufSize : Nat}
    (inBuf : read + (bufSize + 1) = buf.length) (passes : Nat) :
    searchLoop buf find first (passes + 1) read (bufSize + 1) =
      if find <+: buf.drop read then .returned (some read)
      else if buf.drop read <+: find then searchLoop buf find first passes read (bufSize + 1)
      else searchLoop buf find first passes (read + 1) bufSize := by
  have bound : read < buf.length := by omega
  rw [searchLoop, List.getElem?_eq_getElem bound, List.drop_eq_getElem_cons bound]
  dsimp only
  have size : find.length - 1 = rest.length := by rw [needle]; rfl
  have tail : find.drop 1 = rest := by rw [needle]; rfl
  by_cases same : buf[read] = first
  · rw [if_pos same, size]
    have inFind : 1 + rest.length = find.length := by rw [needle, List.length_cons]; omega
    have both (left right : Bytes) : first :: left <+: first :: right <-> left <+: right := by
      rw [List.cons_prefix_cons]
      exact and_iff_right rfl
    have inTag : read + 1 + bufSize = buf.length := by omega
    have cases := compareTag_cases inTag inFind
    rw [tail] at cases
    rw [same]
    rcases cases with ⟨inside, result⟩ | ⟨outside, short, left, result⟩ | ⟨outside, different, left, result⟩
    · rw [result, if_pos (by rw [needle, both]; exact inside)]
      rfl
    · rw [result, if_neg (by rw [needle, both]; exact outside), if_pos (by rw [needle, both]; exact short)]
      rfl
    · rw [result, if_neg (by rw [needle, both]; exact outside), if_neg (by rw [needle, both]; exact different)]
      rfl
  · rw [if_neg same, if_neg, if_neg]
    · rw [needle, List.cons_prefix_cons]
      exact fun inside => same inside.1
    · rw [needle, List.cons_prefix_cons]
      exact fun inside => same inside.1.symm

end Pass

/-! ## Whole searches -/

section Searches

variable {buf find rest : Bytes} {first : UInt8}

/-- The needle does not begin in front of its first place, and the buffer does not
end inside it there. -/
theorem searchLoop_found (needle : find = first :: rest) {position : Nat} (earliest : Earliest find buf position)
    {read bufSize : Nat} (inBuf : read + bufSize = buf.length) (before : read ≤ position) :
    searchLoop buf find first (position + 1 - read) read bufSize = .returned (some position) := by
  have fits : find.length ≤ buf.length - position := by
    have length := earliest.1.length_le
    rwa [List.length_drop] at length
  have positive : 0 < find.length := by
    rw [needle]
    exact Nat.succ_pos _
  induction bufSize generalizing read with
  | zero => omega
  | succ bufSize inductionHypothesis =>
      have passes : position + 1 - read = position - read + 1 := by omega
      rw [passes, searchLoop_pass needle inBuf]
      rcases Nat.eq_or_lt_of_le before with same | less
      · subst same
        rw [if_pos earliest.1]
      · have longer : ¬ buf.drop read <+: find := by
          intro inside
          have length := inside.length_le
          rw [List.length_drop] at length
          omega
        rw [if_neg (earliest.2 read less), if_neg longer]
        have fewer : position - read = position + 1 - (read + 1) := by omega
        rw [fewer]
        exact inductionHypothesis (by omega) less

/-- Without the needle in the buffer the search ends, if no end of the buffer is a
beginning of the needle. -/
theorem searchLoop_absent (needle : find = first :: rest) (absent : forall position, ¬ find <+: buf.drop position)
    {read bufSize : Nat} (inBuf : read + bufSize = buf.length)
    (clear : forall place, read ≤ place -> place < buf.length -> ¬ buf.drop place <+: find) :
    searchLoop buf find first bufSize read bufSize = .returned none := by
  induction bufSize generalizing read with
  | zero => rfl
  | succ bufSize inductionHypothesis =>
      rw [searchLoop_pass needle inBuf, if_neg (absent read), if_neg (clear read (Nat.le_refl _) (by omega))]
      exact inductionHypothesis (by omega) fun place after => clear place (by omega)

/-- Otherwise it does not come past that end of the buffer. -/
theorem searchLoop_stuck (needle : find = first :: rest) (absent : forall position, ¬ find <+: buf.drop position)
    {place : Nat} (inside : place < buf.length) (begins : buf.drop place <+: find) (passes : Nat) {read bufSize : Nat}
    (inBuf : read + bufSize = buf.length) (before : read ≤ place) :
    searchLoop buf find first passes read bufSize = .running := by
  induction passes generalizing read bufSize with
  | zero =>
      rcases bufSize with _ | bufSize
      · omega
      · rfl
  | succ passes inductionHypothesis =>
      rcases bufSize with _ | bufSize
      · omega
      rw [searchLoop_pass needle inBuf, if_neg (absent read)]
      split
      next => exact inductionHypothesis inBuf before
      next differs =>
        have different : read ≠ place := fun same => differs (same ▸ begins)
        exact inductionHypothesis (by omega) (by omega)

theorem searchLoop_not_wild (needle : find = first :: rest) (passes : Nat) {read bufSize : Nat}
    (inBuf : read + bufSize = buf.length) : searchLoop buf find first passes read bufSize ≠ .wild := by
  induction passes generalizing read bufSize with
  | zero => cases bufSize <;> exact Search.noConfusion
  | succ passes inductionHypothesis =>
      rcases bufSize with _ | bufSize
      · exact Search.noConfusion
      rw [searchLoop_pass needle inBuf]
      split
      next => exact Search.noConfusion
      next =>
        split
        next => exact inductionHypothesis inBuf
        next => exact inductionHypothesis (by omega)

end Searches

/-- The result of a search: the first place of the needle, or nothing if it has
none. -/
def RightResult (buf find : Bytes) : Option Nat -> Prop
  | some position => Earliest find buf position
  | none => forall position, ¬ find <+: buf.drop position

/-- The search ends with the right result, and reads only inside of the buffer and
of the needle. -/
structure Searches (buf find : Bytes) : Prop where
  returns : exists passes position, memmem_P buf find passes = .returned position ∧ RightResult buf find position
  inside : forall passes, memmem_P buf find passes ≠ .wild

/-- The search does what it should if and only if the needle is in the buffer, or
no end of the buffer is a beginning of the needle. -/
theorem memmem_P_searches_iff {buf find : Bytes} (some : find ≠ []) :
    Searches buf find <->
      (exists position, find <+: buf.drop position) ∨
        forall place, place < buf.length -> ¬ buf.drop place <+: find := by
  rcases find with _ | ⟨first, rest⟩
  · exact absurd rfl some
  have whole : 0 + buf.length = buf.length := Nat.zero_add _
  have inside (passes : Nat) : memmem_P buf (first :: rest) passes ≠ .wild := searchLoop_not_wild rfl passes whole
  constructor
  · rintro ⟨⟨passes, position, ended, _⟩, _⟩
    by_contra neither
    simp only [not_or, not_exists, not_forall, not_not] at neither
    rcases neither with ⟨absent, place, within, begins⟩
    have stuck : memmem_P buf (first :: rest) passes = .running :=
      searchLoop_stuck rfl absent within begins passes whole (Nat.zero_le _)
    rw [stuck] at ended
    cases ended
  · intro either
    by_cases occurs : exists position, first :: rest <+: buf.drop position
    · rcases occurs with ⟨position, here⟩
      rcases exists_earliest here with ⟨position, earliest⟩
      exact ⟨⟨_, _, searchLoop_found rfl earliest whole (Nat.zero_le _), earliest⟩, inside⟩
    · have clear := either.resolve_left occurs
      have absent (position : Nat) : ¬ first :: rest <+: buf.drop position := fun here => occurs ⟨position, here⟩
      exact ⟨⟨_, _, searchLoop_absent rfl absent whole fun place _ => clear place, absent⟩, inside⟩

/-- A needle in the middle, behind a beginning of it. -/
theorem memmem_P_searches_middle : Searches [0x61, 0x61, 0x62, 0x63] [0x61, 0x62] :=
  (memmem_P_searches_iff (by decide)).mpr (Or.inl ⟨1, by decide⟩)

/-- The buffer ends with the first byte of a needle of two. -/
theorem memmem_P_never_ends :
    (forall passes, memmem_P [0x61] [0x61, 0x62] passes = .running) ∧ ¬ Searches [0x61] [0x61, 0x62] := by
  have absent (position : Nat) : ¬ [0x61, 0x62] <+: ([0x61] : Bytes).drop position := by
    intro inside
    have length := inside.length_le
    simp only [List.length_drop, List.length_cons, List.length_nil] at length
    omega
  have running (passes : Nat) : memmem_P [0x61] [0x61, 0x62] passes = .running :=
    searchLoop_stuck rfl absent (by decide : 0 < 1) (by decide) passes rfl (Nat.le_refl _)
  refine ⟨running, ?_⟩
  rintro ⟨⟨passes, position, ended, _⟩, _⟩
  rw [running passes] at ended
  cases ended

end Core
end DevKit
