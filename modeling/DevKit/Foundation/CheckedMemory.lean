import DevKit.Foundation.Procedure

namespace DevKit

/-!
# C functions over checked memory

A C function returns from the middle of its body, and it has no meaning at all
when it leaves the bounds of an object.  `Leaving` is the early exit of such a
function: a return, or undefined behaviour.  `Procedure.call` gives the
returned value to the caller and hands undefined behaviour on.

A pointer is the part of its object that starts where it points, and the null
pointer is `none`.  Every read and every write goes through `fetch` and
`store`, which are defined inside the object only, so a proof that a function
returns is at the same time a proof that it stays inside its objects.
-/

/-- How a C function ends before its last statement. -/
inductive Leaving (Value : Type) where
  | returned (value : Value)
  | undefined
deriving Repr, DecidableEq

/-- A function returned with the postcondition, or what is known of undefined
behaviour holds. -/
def Leaving.Meets {State Value : Type} (post : Value -> State -> Prop) (wild : State -> Prop) :
    Leaving Value -> State -> Prop
  | .returned value => post value
  | .undefined => wild

namespace Procedure

variable {State Value Other Result Item : Type}

/-- `return value;` from inside the body. -/
def leave (value : Value) : Procedure State (Leaving Value) Result :=
  exit (.returned value)

/-- Undefined behaviour unless the value exists. -/
def defined (outcome : Option Result) : Procedure State (Leaving Value) Result :=
  match outcome with
  | some result => pure result
  | none => exit .undefined

/-- Call a function. -/
def call (body : Procedure State (Leaving Value) Value) : Procedure State (Leaving Other) Value :=
  fun state =>
    match body state with
    | (.ok value, reached) => (.ok value, reached)
    | (.error (.returned value), reached) => (.ok value, reached)
    | (.error .undefined, reached) => (.error .undefined, reached)

/-- The value a function returns and the state it leaves, if it is defined. -/
def run (body : Procedure State (Leaving Value) Value) (state : State) : Option (Value × State) :=
  match body state with
  | (.ok value, reached) => some (value, reached)
  | (.error (.returned value), reached) => some (value, reached)
  | (.error .undefined, _) => none

/-- Every run from a state in `pre` returns, early or at its end, with the
postcondition. -/
abbrev Returns (pre : State -> Prop) (body : Procedure State (Leaving Value) Value)
    (post : Value -> State -> Prop) : Prop :=
  Triple pre body post (Leaving.Meets post fun _ => False)

namespace Triple

variable {pre : State -> Prop}

theorem call {body : Procedure State (Leaving Value) Value} {post : Value -> State -> Prop}
    {exited : Leaving Other -> State -> Prop}
    (triple : Triple pre body post (Leaving.Meets post (exited .undefined))) :
    Triple pre (Procedure.call body) post exited := by
  intro state initial
  have both := triple state initial
  unfold Procedure.call
  cases ended : body state with
  | mk outcome reached =>
      rcases outcome with (value | _) | value
      · refine ⟨fun other final same => ?_, fun reason final impossible => (nomatch impossible)⟩
        cases same
        exact both.2 _ _ ended
      · refine ⟨fun other final impossible => (nomatch impossible), fun reason final same => ?_⟩
        cases same
        exact both.2 _ _ ended
      · refine ⟨fun other final same => ?_, fun reason final impossible => (nomatch impossible)⟩
        cases same
        exact both.1 _ _ ended

theorem run {body : Procedure State (Leaving Value) Value} {post : Value -> State -> Prop}
    {wild : State -> Prop} (triple : Triple pre body post (Leaving.Meets post wild)) {state reached : State}
    {value : Value} (initial : pre state) (ended : Procedure.run body state = some (value, reached)) :
    post value reached := by
  have both := triple state initial
  unfold Procedure.run at ended
  cases outcome : body state with
  | mk result final =>
      rw [outcome] at ended
      rcases result with (other | _) | other
      · cases ended
        exact both.2 _ _ outcome
      · cases ended
      · cases ended
        exact both.1 _ _ outcome

/-- A function that cannot become undefined ends with a value. -/
theorem run_eq {body : Procedure State (Leaving Value) Value} {post : Value -> State -> Prop}
    (triple : Returns pre body post) {state : State} (initial : pre state) :
    exists value reached, Procedure.run body state = some (value, reached) ∧ post value reached := by
  cases ended : Procedure.run body state with
  | some answer => exact ⟨answer.1, answer.2, rfl, triple.run initial ended⟩
  | none =>
      unfold Procedure.run at ended
      cases outcome : body state with
      | mk result final =>
          rw [outcome] at ended
          rcases result with (other | _) | other
          · cases ended
          · exact ((triple state initial).2 _ _ outcome).elim
          · cases ended

/-- Behind an access that is defined, its value is known. -/
theorem defined {outcome : Option Item} {value : Item} {next : Item -> Procedure State (Leaving Value) Result}
    {post : Result -> State -> Prop} {exited : Leaving Value -> State -> Prop} (exact : outcome = some value)
    (after : Triple pre (next value) post exited) :
    Triple pre (Procedure.defined outcome >>= next) post exited := by
  subst exact
  intro state initial
  rw [bind_apply_ok (rfl : Procedure.defined (some value) state = (.ok value, state))]
  exact after state initial

end Triple

/-- A function that returns can be called anywhere. -/
theorem Returns.call {pre : State -> Prop} {body : Procedure State (Leaving Value) Value}
    {post : Value -> State -> Prop} {exited : Leaving Other -> State -> Prop} (returns : Returns pre body post) :
    Triple pre (Procedure.call body) post exited := by
  refine Triple.call (returns.weaken (fun _ initial => initial) (fun _ _ ended => ended) ?_)
  rintro (value | _) state left
  · exact left
  · exact left.elim

/-- The values of the counter in `for (int i = 0; i * stride < limit; i++)`. -/
def strides (stride limit : Nat) : List Nat :=
  List.range ((limit + stride - 1) / stride)

theorem getElem?_strides {stride limit index item : Nat} (positive : 0 < stride)
    (found : (strides stride limit)[index]? = some item) : item = index ∧ index * stride < limit := by
  rcases List.getElem?_eq_some_iff.mp found with ⟨short, same⟩
  rw [strides, List.length_range, Nat.lt_div_iff_mul_lt positive] at short
  rw [← same]
  refine ⟨?_, by omega⟩
  simp only [strides, List.getElem_range]

theorem lt_length_strides {stride limit index : Nat} (positive : 0 < stride) :
    index < (strides stride limit).length <-> index * stride < limit := by
  rw [strides, List.length_range, Nat.lt_div_iff_mul_lt positive]
  omega

end Procedure

/-! ## Objects and pointers -/

/-- What lies from a pointer to the end of its object. -/
abbrev Pointer := Option Bytes

/-- A region after bytes have been copied into it. -/
def splice (region : Bytes) (offset : Nat) (data : Bytes) : Bytes :=
  region.take offset ++ data ++ region.drop (offset + data.length)

/-- Read `size` bytes behind a pointer. -/
def fetch (source : Pointer) (offset size : Nat) : Option (Buffer size) :=
  source.bind fun region =>
    if within : offset + size ≤ region.length then
      some ⟨slice region offset size, length_slice region offset size within⟩
    else none

/-- Write bytes behind a pointer. -/
def store (target : Pointer) (offset : Nat) (data : Bytes) : Option Pointer :=
  target.bind fun region =>
    if offset + data.length ≤ region.length then some (some (splice region offset data)) else none

theorem fetch_some {region : Bytes} {offset size : Nat} (within : offset + size ≤ region.length) :
    fetch (some region) offset size =
      some ⟨slice region offset size, length_slice region offset size within⟩ := by
  rw [fetch, Option.bind_some, dif_pos within]

theorem store_some {region : Bytes} {offset : Nat} {data : Bytes} (within : offset + data.length ≤ region.length) :
    store (some region) offset data = some (some (splice region offset data)) := by
  rw [store, Option.bind_some, if_pos within]

theorem length_splice {region : Bytes} {offset : Nat} {data : Bytes}
    (within : offset + data.length ≤ region.length) : (splice region offset data).length = region.length := by
  simp only [splice, List.length_append, List.length_take, List.length_drop]
  omega

/-- The bytes up to the end of a copy are the old front and the copied bytes. -/
theorem take_splice {region : Bytes} {offset : Nat} {data : Bytes}
    (within : offset + data.length ≤ region.length) :
    (splice region offset data).take (offset + data.length) = region.take offset ++ data := by
  rw [splice, List.take_append_of_le_length, List.take_of_length_le]
  all_goals
    simp only [List.length_append, List.length_take]
    omega

theorem drop_splice {region : Bytes} {offset : Nat} {data : Bytes} (within : offset + data.length ≤ region.length)
    (more : Nat) :
    (splice region offset data).drop (offset + data.length + more) = region.drop (offset + data.length + more) := by
  have front : (region.take offset ++ data).length = offset + data.length := by
    rw [List.length_append, List.length_take]
    omega
  rw [splice, ← front, List.drop_append, front, List.drop_of_length_le (by omega), List.nil_append, List.drop_drop]
  congr 1
  omega

/-- Two copies, one behind the other. -/
theorem splice_splice {region : Bytes} {offset : Nat} {first second : Bytes}
    (within : offset + first.length ≤ region.length) :
    splice (splice region offset first) (offset + first.length) second = splice region offset (first ++ second) := by
  rw [splice, take_splice within, drop_splice within, splice, List.length_append, ← List.append_assoc, Nat.add_assoc]

/-- The bytes before a copy are kept. -/
theorem take_splice_front {region : Bytes} {offset : Nat} (within : offset ≤ region.length) (data : Bytes) :
    (splice region offset data).take offset = region.take offset := by
  rw [splice, List.append_assoc, List.take_append_of_le_length, List.take_take, Nat.min_self]
  rw [List.length_take]
  omega

/-- A byte that was written. -/
theorem getElem?_splice_singleton {region : Bytes} {offset : Nat} (within : offset ≤ region.length) (byte : UInt8) :
    (splice region offset [byte])[offset]? = some byte := by
  have front : (region.take offset).length = offset := by
    rw [List.length_take]
    omega
  rw [splice, List.append_assoc, List.getElem?_append_right (Nat.le_of_eq front), front, Nat.sub_self]
  rfl

/-- A copy behind what has been written. -/
theorem splice_append (written tail data : Bytes) :
    splice (written ++ tail) written.length data = written ++ (data ++ tail.drop data.length) := by
  rw [splice, List.take_left, List.drop_length_add_append, List.append_assoc]

theorem splice_zero (region data : Bytes) : splice region 0 data = data ++ region.drop data.length := by
  rw [splice, List.take_zero, List.nil_append, Nat.zero_add]

/-- `array[index]` -/
def loadAt (array : Bytes) (index : Int) : Option UInt8 :=
  if 0 ≤ index then array[index.toNat]? else none

theorem loadAt_natCast (array : Bytes) (index : Nat) : loadAt array index = array[index]? := by
  rw [loadAt, if_pos (Int.natCast_nonneg index), Int.toNat_natCast]

end DevKit
