import DevKit.Foundation.Bytes

namespace DevKit

/-!
# Stateful procedures with an early exit

A C function that returns an error code from the middle of its body is a
state transformer with two ways to end: a value, or an early exit.  The state
reached before an exit is kept, because a failing function does not undo its
assignments.

`Triple` is the usual pre- and postcondition judgement with a second
postcondition for the early exit.  The rules below follow the constructors of
the program text, so a proof about a procedure has the procedure's own shape:
the exit condition is fixed once and only the normal path is threaded from
statement to statement.  Loops over consecutive blocks of a range share one
definition, `blockwise`, and one invariant rule.
-/

/-- A procedure over a state, with an early exit. -/
def Procedure (State Exit Value : Type) : Type :=
  State -> Except Exit Value × State

namespace Procedure

variable {State Exit Value Result : Type}

instance : Monad (Procedure State Exit) where
  pure value := fun state => (.ok value, state)
  bind first next := fun state =>
    match first state with
    | (.ok value, reached) => next value reached
    | (.error exit, reached) => (.error exit, reached)

/-- Leave the procedure early. -/
def exit (reason : Exit) : Procedure State Exit Value :=
  fun state => (.error reason, state)

/-- Read the whole state. -/
def read : Procedure State Exit State :=
  fun state => (.ok state, state)

/-- Replace the state by its image. -/
def update (change : State -> State) : Procedure State Exit Unit :=
  fun state => (.ok (), change state)

/-- A pure check that may leave the procedure. -/
def check (outcome : Except Exit Value) : Procedure State Exit Value :=
  fun state => (outcome, state)

/-- Leave the procedure early when a condition holds. -/
def reject (condition : Prop) [Decidable condition] (reason : Exit) : Procedure State Exit Unit :=
  if condition then exit reason else pure ()

theorem bind_apply_ok {first : Procedure State Exit Value}
    {next : Value -> Procedure State Exit Result} {state reached : State} {value : Value}
    (ended : first state = (.ok value, reached)) : (first >>= next) state = next value reached := by
  change (match first state with
    | (.ok value, reached) => next value reached
    | (.error exit, reached) => (.error exit, reached)) = _
  rw [ended]

theorem bind_apply_error {first : Procedure State Exit Value}
    {next : Value -> Procedure State Exit Result} {state reached : State} {reason : Exit}
    (ended : first state = (.error reason, reached)) :
    (first >>= next) state = (.error reason, reached) := by
  change (match first state with
    | (.ok value, reached) => next value reached
    | (.error exit, reached) => (.error exit, reached)) = _
  rw [ended]

/-- A run that is known to end with a value. -/
theorem eq_of_ok {procedure : Procedure State Exit Value} {state : State} {value : Value}
    (ended : (procedure state).1 = .ok value) : procedure state = (.ok value, (procedure state).2) :=
  Prod.ext ended rfl

/-- Every run from a state in `pre` ends with a value and a state in `post`,
or leaves early with a reason and a state in `exited`. -/
def Triple (pre : State -> Prop) (procedure : Procedure State Exit Value)
    (post : Value -> State -> Prop) (exited : Exit -> State -> Prop) : Prop :=
  forall state, pre state ->
    (forall value reached, procedure state = (.ok value, reached) -> post value reached) ∧
    (forall reason reached, procedure state = (.error reason, reached) -> exited reason reached)

namespace Triple

variable {pre : State -> Prop} {exited : Exit -> State -> Prop}

theorem value {procedure : Procedure State Exit Value} {post : Value -> State -> Prop}
    (triple : Triple pre procedure post exited) {state reached : State} {value : Value}
    (holds : pre state) (ended : procedure state = (.ok value, reached)) : post value reached :=
  (triple state holds).1 value reached ended

theorem early {procedure : Procedure State Exit Value} {post : Value -> State -> Prop}
    (triple : Triple pre procedure post exited) {state reached : State} {reason : Exit}
    (holds : pre state) (ended : procedure state = (.error reason, reached)) :
    exited reason reached :=
  (triple state holds).2 reason reached ended

/-- A procedure that cannot leave early ends with a value. -/
theorem ends {procedure : Procedure State Exit Value} {post : Value -> State -> Prop}
    (triple : Triple pre procedure post (fun _ _ => False)) {state : State} (holds : pre state) :
    exists value reached, procedure state = (.ok value, reached) ∧ post value reached := by
  cases ended : procedure state with
  | mk outcome reached =>
      cases outcome with
      | ok value => exact ⟨value, reached, rfl, triple.value holds ended⟩
      | error reason => exact (triple.early holds ended).elim

theorem weaken {procedure : Procedure State Exit Value} {pre' : State -> Prop}
    {post post' : Value -> State -> Prop} {exited' : Exit -> State -> Prop}
    (triple : Triple pre procedure post exited) (stronger : forall state, pre' state -> pre state)
    (weaker : forall value state, post value state -> post' value state)
    (weakerExit : forall reason state, exited reason state -> exited' reason state) :
    Triple pre' procedure post' exited' := by
  intro state holds
  have both := triple state (stronger state holds)
  exact ⟨fun value reached ended => weaker value reached (both.1 value reached ended),
    fun reason reached ended => weakerExit reason reached (both.2 reason reached ended)⟩

theorem strengthen {procedure : Procedure State Exit Value} {pre' : State -> Prop}
    {post : Value -> State -> Prop} (triple : Triple pre procedure post exited)
    (stronger : forall state, pre' state -> pre state) : Triple pre' procedure post exited :=
  triple.weaken stronger (fun _ _ holds => holds) (fun _ _ holds => holds)

/-- A procedure that cannot leave early meets any exit condition. -/
theorem certain {procedure : Procedure State Exit Value} {post : Value -> State -> Prop}
    (triple : Triple pre procedure post (fun _ _ => False)) : Triple pre procedure post exited :=
  triple.weaken (fun _ holds => holds) (fun _ _ holds => holds) (fun _ _ impossible => impossible.elim)

/-- Two triples about one procedure. -/
theorem both {procedure : Procedure State Exit Value} {post post' : Value -> State -> Prop}
    {exited' : Exit -> State -> Prop} (one : Triple pre procedure post exited)
    (two : Triple pre procedure post' exited') :
    Triple pre procedure (fun value state => post value state ∧ post' value state)
      (fun reason state => exited reason state ∧ exited' reason state) :=
  fun _ holds => ⟨fun _ _ ended => ⟨one.value holds ended, two.value holds ended⟩,
    fun _ _ ended => ⟨one.early holds ended, two.early holds ended⟩⟩

/-- A triple for one known initial state. -/
theorem start {procedure : Procedure State Exit Value} {post : Value -> State -> Prop} {current : State}
    (triple : Triple pre procedure post exited) (holds : pre current) :
    Triple (fun state => state = current) procedure post exited := by
  rintro state rfl
  exact triple state holds

/-- A triple may be proved one initial state at a time. -/
theorem fix {procedure : Procedure State Exit Value} {post : Value -> State -> Prop}
    (each : forall current, pre current -> Triple (fun state => state = current) procedure post exited) :
    Triple pre procedure post exited :=
  fun state holds => each state holds state rfl

theorem pure {value : Value} {post : Value -> State -> Prop}
    (holds : forall state, pre state -> post value state) :
    Triple pre (Pure.pure value) post exited := by
  intro state initial
  refine ⟨fun value reached ended => ?_, fun reason reached ended => ?_⟩
  · cases ended
    exact holds state initial
  · cases ended

theorem pureBind {value : Value} {next : Value -> Procedure State Exit Result}
    {post : Result -> State -> Prop} (after : Triple pre (next value) post exited) :
    Triple pre (Pure.pure value >>= next) post exited :=
  after

theorem bind {first : Procedure State Exit Value} {next : Value -> Procedure State Exit Result}
    {middle : Value -> State -> Prop} {post : Result -> State -> Prop}
    (before : Triple pre first middle exited)
    (after : forall value, Triple (middle value) (next value) post exited) :
    Triple pre (first >>= next) post exited := by
  intro state initial
  cases ended : first state with
  | mk outcome reached =>
      cases outcome with
      | ok value =>
          rw [bind_apply_ok ended]
          exact after value reached (before.value initial ended)
      | error reason =>
          rw [bind_apply_error ended]
          refine ⟨fun value final impossible => ?_, fun final last same => ?_⟩
          · cases impossible
          · cases same
            exact before.early initial ended

/-- Behind a part that ends in a known state, that state is known. -/
theorem bindKnown {start reached : State} {first : Procedure State Exit Value}
    {next : Value -> Procedure State Exit Result} {ended : Value -> Prop} {post : Result -> State -> Prop}
    (before : Triple (fun state => state = start) first (fun value state => ended value ∧ state = reached) exited)
    (after : forall value, ended value -> Triple (fun state => state = reached) (next value) post exited) :
    Triple (fun state => state = start) (first >>= next) post exited :=
  before.bind fun value => Triple.fix fun _ ⟨known, same⟩ => same ▸ after value known

theorem exit {reason : Exit} {post : Value -> State -> Prop}
    (holds : forall state, pre state -> exited reason state) :
    Triple pre (Procedure.exit reason : Procedure State Exit Value) post exited := by
  intro state initial
  refine ⟨fun value reached impossible => ?_, fun final reached same => ?_⟩
  · cases impossible
  · cases same
    exact holds state initial

/-- Reading the state names it for the rest of the procedure. -/
theorem read {next : State -> Procedure State Exit Value} {post : Value -> State -> Prop}
    (after : forall current, pre current ->
      Triple (fun state => state = current) (next current) post exited) :
    Triple pre (Procedure.read >>= next) post exited := by
  intro state initial
  rw [bind_apply_ok (rfl : Procedure.read state = (.ok state, state))]
  exact after state initial state rfl

theorem update {change : State -> State} {post : Unit -> State -> Prop}
    (holds : forall state, pre state -> post () (change state)) :
    Triple pre (Procedure.update change) post exited := by
  intro state initial
  refine ⟨fun value reached ended => ?_, fun reason reached impossible => ?_⟩
  · cases ended
    exact holds state initial
  · cases impossible

/-- Behind an assignment in a known state, the new state is known. -/
theorem assign {change : State -> State} {current : State} {next : Unit -> Procedure State Exit Value}
    {post : Value -> State -> Prop}
    (after : Triple (fun state => state = change current) (next ()) post exited) :
    Triple (fun state => state = current) (Procedure.update change >>= next) post exited := by
  rintro state rfl
  rw [bind_apply_ok (rfl : Procedure.update change state = (.ok (), change state))]
  exact after _ rfl

theorem ite {condition : Prop} [Decidable condition] {left right : Procedure State Exit Value}
    {post : Value -> State -> Prop} (yes : condition -> Triple pre left post exited)
    (no : ¬ condition -> Triple pre right post exited) :
    Triple pre (if condition then left else right) post exited := by
  by_cases holds : condition
  · rw [if_pos holds]
    exact yes holds
  · rw [if_neg holds]
    exact no holds

theorem reject {condition : Prop} [Decidable condition] {reason : Exit} {post : Unit -> State -> Prop}
    (leave : condition -> forall state, pre state -> exited reason state)
    (stay : ¬ condition -> forall state, pre state -> post () state) :
    Triple pre (Procedure.reject condition reason) post exited :=
  Triple.ite (fun holds => Triple.exit (leave holds)) (fun fails => Triple.pure (stay fails))

/-- Behind a check that did not leave, its condition is known to fail. -/
theorem guard {condition : Prop} [Decidable condition] {reason : Exit}
    {next : Unit -> Procedure State Exit Value} {post : Value -> State -> Prop}
    (leave : condition -> forall state, pre state -> exited reason state)
    (stay : ¬ condition -> Triple pre (next ()) post exited) :
    Triple pre (Procedure.reject condition reason >>= next) post exited := by
  by_cases holds : condition
  · have left : Triple pre (Procedure.reject condition reason) (fun _ _ => False) exited :=
      Triple.reject leave (fun fails => absurd holds fails)
    refine left.bind (fun _ state impossible => ?_)
    exact impossible.elim
  · refine Triple.bind (Triple.reject leave (fun _ state initial => ?_)) (fun _ => stay holds)
    exact initial

/-- Behind a pure check that succeeded, its value is known. -/
theorem require {outcome : Except Exit Value} {next : Value -> Procedure State Exit Result}
    {post : Result -> State -> Prop}
    (leave : forall reason, outcome = .error reason -> forall state, pre state -> exited reason state)
    (stay : forall value, outcome = .ok value -> Triple pre (next value) post exited) :
    Triple pre (Procedure.check outcome >>= next) post exited := by
  cases ended : outcome with
  | ok value =>
      intro state initial
      rw [bind_apply_ok (rfl : Procedure.check (.ok value) state = (.ok value, state))]
      exact stay value ended state initial
  | error reason =>
      intro state initial
      rw [bind_apply_error (rfl : Procedure.check (.error reason) state = (.error reason, state))]
      refine ⟨fun value reached impossible => ?_, fun other reached same => ?_⟩
      · cases impossible
      · cases same
        exact leave reason ended state initial

/-! ## Loops over lists -/

section Lists

variable {Item Accumulator : Type}

/-- A loop over a list keeps an invariant of the number of passes. -/
theorem foldlM {items : List Item} {body : Accumulator -> Item -> Procedure State Exit Accumulator}
    {exited : Exit -> State -> Prop} (invariant : Nat -> Accumulator -> State -> Prop)
    (step : forall index item accumulator, items[index]? = some item ->
      Triple (invariant index accumulator) (body accumulator item) (invariant (index + 1)) exited)
    (accumulator : Accumulator) :
    Triple (invariant 0 accumulator) (items.foldlM body accumulator) (invariant items.length) exited := by
  induction items generalizing invariant accumulator with
  | nil => exact Triple.pure fun _ holds => holds
  | cons item items inductionHypothesis =>
      rw [List.foldlM_cons]
      refine Triple.bind (step 0 item accumulator rfl) fun next => ?_
      exact inductionHypothesis (fun index => invariant (index + 1))
        (fun index other accumulator found => step (index + 1) other accumulator found) next

end Lists
end Triple

/-! ## Properties of the reached state -/

/-- The procedure keeps a property, however it ends. -/
def Keeps (property : State -> Prop) (procedure : Procedure State Exit Value) : Prop :=
  Triple property procedure (fun _ => property) (fun _ => property)

theorem Keeps.reached {property : State -> Prop} {procedure : Procedure State Exit Value}
    (keeps : Keeps property procedure) {start : State} (holds : property start) : property (procedure start).2 := by
  cases ended : procedure start with
  | mk outcome reached =>
      cases outcome with
      | ok value => exact keeps.value holds ended
      | error reason => exact keeps.early holds ended

/-- The procedure leaves what is observed of the state alone, however it ends. -/
def Unchanged {Observation : Type} (observe : State -> Observation) (procedure : Procedure State Exit Value) : Prop :=
  forall known, Keeps (fun state => observe state = known) procedure

namespace Unchanged

variable {Observation : Type} {observe : State -> Observation}

theorem keeps {procedure : Procedure State Exit Value} (unchanged : Unchanged observe procedure)
    (property : Observation -> Prop) : Keeps (fun state => property (observe state)) procedure := by
  intro state holds
  have kept := unchanged (observe state) state rfl
  refine ⟨fun value reached ended => ?_, fun reason reached ended => ?_⟩
  · exact (congrArg property (kept.1 value reached ended)).mpr holds
  · exact (congrArg property (kept.2 reason reached ended)).mpr holds

theorem pure (value : Value) : Unchanged observe (Pure.pure value : Procedure State Exit Value) :=
  fun _ => Triple.pure fun _ same => same

theorem exit (reason : Exit) : Unchanged observe (Procedure.exit reason : Procedure State Exit Value) :=
  fun _ => Triple.exit fun _ same => same

theorem bind {first : Procedure State Exit Value} {next : Value -> Procedure State Exit Result}
    (before : Unchanged observe first) (after : forall value, Unchanged observe (next value)) :
    Unchanged observe (first >>= next) :=
  fun known => (before known).bind fun value => after value known

theorem read {next : State -> Procedure State Exit Value} (after : forall state, Unchanged observe (next state)) :
    Unchanged observe (Procedure.read >>= next) :=
  fun known => Triple.read fun current same => Triple.start (after current known) same

theorem update {change : State -> State} (same : forall state, observe (change state) = observe state) :
    Unchanged observe (Procedure.update change : Procedure State Exit Unit) :=
  fun _ => Triple.update fun state known => (same state).trans known

theorem ite {condition : Prop} [Decidable condition] {left right : Procedure State Exit Value}
    (yes : Unchanged observe left) (no : Unchanged observe right) :
    Unchanged observe (if condition then left else right) :=
  fun known => Triple.ite (fun _ => yes known) fun _ => no known

end Unchanged

section Reached

variable {property : State -> Prop} {first : Procedure State Exit Value} {next : Value -> Procedure State Exit Result}

theorem reached_bind_iff (start : State) :
    property ((first >>= next) start).2 <->
      (forall reason reached, first start = (.error reason, reached) -> property reached) ∧
        forall value reached, first start = (.ok value, reached) -> property (next value reached).2 := by
  cases ended : first start with
  | mk outcome reached =>
      cases outcome with
      | error reason =>
          rw [bind_apply_error ended]
          refine ⟨fun holds => ⟨?_, fun _ _ impossible => ?_⟩, fun holds => holds.1 reason reached rfl⟩
          · rintro _ _ same
            cases same
            exact holds
          · cases impossible
      | ok value =>
          rw [bind_apply_ok ended]
          refine ⟨fun holds => ⟨fun _ _ impossible => ?_, ?_⟩, fun holds => holds.2 value reached rfl⟩
          · cases impossible
          · rintro _ _ same
            cases same
            exact holds

/-- Behind a part that keeps the property, only what follows decides. -/
theorem reached_bind_of_keeps (kept : Keeps property first) {start : State} (holds : property start) :
    property ((first >>= next) start).2 <->
      forall value reached, first start = (.ok value, reached) -> property (next value reached).2 := by
  refine (reached_bind_iff start).trans ?_
  exact and_iff_right fun _ _ ended => kept.early holds ended

end Reached

/-! ## Loops over consecutive blocks -/

/-- Visit `[offset, limit)` in consecutive blocks of at most `block` positions
and thread an accumulator through the body. -/
def blockwise {Accumulator : Type} (block : Nat) (positive : 0 < block) (limit : Nat)
    (body : (offset size : Nat) -> Accumulator -> Procedure State Exit Accumulator)
    (offset : Nat) (accumulator : Accumulator) : Procedure State Exit Accumulator :=
  if offset < limit then do
    let accumulator <- body offset (min (limit - offset) block) accumulator
    blockwise block positive limit body (offset + min (limit - offset) block) accumulator
  else
    pure accumulator
termination_by limit - offset
decreasing_by omega

/-- An invariant of the current offset and accumulator that every block keeps
holds at the end of the range. -/
theorem Triple.blockwise {Accumulator : Type} {block limit : Nat} {positive : 0 < block}
    {body : (offset size : Nat) -> Accumulator -> Procedure State Exit Accumulator}
    {exited : Exit -> State -> Prop} (invariant : Nat -> Accumulator -> State -> Prop)
    (step : forall offset accumulator, offset < limit ->
      Triple (invariant offset accumulator) (body offset (min (limit - offset) block) accumulator)
        (invariant (offset + min (limit - offset) block)) exited)
    (offset : Nat) (accumulator : Accumulator) (within : offset ≤ limit) :
    Triple (invariant offset accumulator)
      (Procedure.blockwise block positive limit body offset accumulator) (invariant limit) exited := by
  induction remaining : limit - offset using Nat.strongRecOn generalizing offset accumulator with
  | _ remaining inductionHypothesis =>
      rw [Procedure.blockwise]
      by_cases more : offset < limit
      · rw [if_pos more]
        refine Triple.bind (step offset accumulator more) (fun next => ?_)
        exact inductionHypothesis _ (by omega) _ next (by omega) rfl
      · rw [if_neg more]
        have finished : offset = limit := by omega
        subst finished
        exact Triple.pure (fun _ holds => holds)

end Procedure
end DevKit
