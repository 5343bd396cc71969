import DevKit.Console.Privacy

namespace DevKit
namespace Console

/-!
# Quoted arguments

An argument is written between quotes, with a backslash in front of each quote in
it, or as it is if it is a plain word.  A line is such arguments with blanks between
and around them.  The tokenizer undoes the writing: it calls the command with the
arguments of the line.

A closing quote and the blank behind a word become terminators.  Where a backslash
is removed, the rest of the line moves to the left, and the arguments that have been
stored lie in front of it.  It is moved with `memcpy`, over itself, and this has a
meaning only if no argument has a quote in it.
-/

/-! ## The call -/

/-- The texts that `argv` points to, in the buffer that the loop leaves. -/
def argumentsOf (tokens : Tokens) (rest : Bytes) : Option (List Bytes) :=
  tokens.argv.mapM fun offset => textOf ((tokens.front.reverse ++ rest ++ [0]).drop offset)

/-- The command that `handle_input` calls, with its arguments. -/
def callOf (text : Bytes) : Option (ConfigurationCommand × List Bytes) := do
  let (tokens, rest) <- Tokens.start.scan text
  let name <- firstArgument tokens rest
  let command <- commandNamed name
  let argv <- argumentsOf tokens rest
  some (command, argv)

/-- The same, where the language defines it. -/
def definedCall (text : Bytes) : Option (Option (ConfigurationCommand × List Bytes)) :=
  if Tokens.start.overlaps text = true then none else some (callOf text)

/-- A call is what `handle_input` runs. -/
theorem handleInput_of_callOf {text : Bytes} {command : ConfigurationCommand} {argv : List Bytes}
    (called : callOf text = some (command, argv)) : handleInput text = .ran command := by
  unfold callOf at called
  rcases Option.bind_eq_some_iff.mp called with ⟨⟨tokens, rest⟩, scanned, named⟩
  rcases Option.bind_eq_some_iff.mp named with ⟨name, first, found⟩
  rcases Option.bind_eq_some_iff.mp found with ⟨same, known, rest⟩
  rcases Option.bind_eq_some_iff.mp rest with ⟨_, _, pair⟩
  rcases Prod.mk.inj (Option.some.inj pair) with ⟨rfl, _⟩
  simp only [handleInput, scanned, first, known]

/-! ## Lines -/

/-- The characters of a quoted argument. -/
def escape (argument : Bytes) : Bytes :=
  argument.flatMap fun c => if c = quote then [backslash, quote] else [c]

/-- A backslash for each quote. -/
theorem length_escape (argument : Bytes) : (escape argument).length = argument.length + argument.count quote := by
  induction argument with
  | nil => rfl
  | cons c argument inductionHypothesis =>
      rw [escape, List.flatMap_cons, ← escape, List.length_append, inductionHypothesis, List.length_cons,
        List.count_cons]
      by_cases quoted : c = quote
      · rw [if_pos quoted, quoted, if_pos (beq_self_eq_true quote), List.length_cons, List.length_singleton]
        omega
      · rw [if_neg quoted, if_neg (by simpa using quoted), List.length_singleton]
        omega

/-- How an argument may be written. -/
inductive Written (argument : Bytes) : Bytes -> Prop
  | quoted : Written argument (quote :: (escape argument ++ [quote]))
  | bare : argument ≠ [] -> (forall c, c ∈ argument -> c ≠ space ∧ c ≠ quote ∧ c ≠ backslash) ->
      Written argument argument

/-- Arguments with blanks between them and behind the last one. -/
inductive Spelled : List Bytes -> Bytes -> Prop
  | last {argument written : Bytes} (blanks : Nat) : Written argument written ->
      Spelled [argument] (written ++ List.replicate blanks space)
  | more {argument written text : Bytes} {arguments : List Bytes} (blanks : Nat) : Written argument written ->
      Spelled arguments text ->
      Spelled (argument :: arguments) (written ++ (List.replicate (blanks + 1) space ++ text))

/-! ## One argument -/

namespace Tokens

theorem steps_blanks (tokens : Tokens) (outside : tokens.inArg = false) (blanks : Nat) :
    (List.replicate blanks space).foldlM step tokens =
      some { tokens with front := List.replicate blanks space ++ tokens.front } := by
  induction blanks generalizing tokens with
  | zero => rfl
  | succ blanks inductionHypothesis =>
      have stepped : tokens.step space = some (tokens.push space) := by
        have plain : ¬ tokens.Escaped := fun escaped => Bool.false_ne_true (outside.symm.trans escaped.2)
        rw [step, if_neg (by decide), if_pos rfl, if_neg plain,
          if_neg (fun both => Bool.false_ne_true (outside.symm.trans both.2))]
      have same : List.replicate (blanks + 1) space ++ tokens.front =
          List.replicate blanks space ++ (tokens.push space).front := by
        rw [List.replicate_succ', List.append_assoc]
        rfl
      rw [same, List.replicate_succ, List.foldlM_cons, stepped, Option.bind_eq_bind, Option.bind_some]
      exact inductionHypothesis (tokens.push space) outside

/-- The inside of a quoted argument is read without its backslashes. -/
theorem steps_escape {front argument : Bytes} (argv : List Nat) (plain : backslash ∉ argument)
    (begun : front.head? ≠ some backslash) :
    (escape argument).foldlM step ⟨front, true, true, argv⟩ = some ⟨argument.reverse ++ front, true, true, argv⟩ := by
  induction argument generalizing front with
  | nil => rfl
  | cons c argument inductionHypothesis =>
      have other : c ≠ backslash := fun same => plain (same ▸ List.mem_cons_self)
      have rest := inductionHypothesis (fun member => plain (List.mem_cons_of_mem _ member))
        (show (c :: front).head? ≠ some backslash from fun same => other (Option.some.inj same))
      have reversed : (c :: argument).reverse ++ front = argument.reverse ++ c :: front := by
        rw [List.reverse_cons, List.append_assoc, List.singleton_append]
      rw [escape, List.flatMap_cons, ← escape, reversed]
      by_cases quoted : c = quote
      · have pushed : step ⟨front, true, true, argv⟩ backslash = some ⟨backslash :: front, true, true, argv⟩ := by
          rw [step, if_neg (by decide), if_neg (by decide), if_neg (fun same => Bool.false_ne_true same.symm)]
          rfl
        have moved : step ⟨backslash :: front, true, true, argv⟩ quote = some ⟨quote :: front, true, true, argv⟩ := by
          rw [step, if_pos rfl, if_pos ⟨rfl, rfl⟩]
          rfl
        rw [if_pos quoted, List.cons_append, List.singleton_append, List.foldlM_cons, pushed, Option.bind_eq_bind,
          Option.bind_some, List.foldlM_cons, moved, Option.bind_eq_bind, Option.bind_some, ← quoted]
        exact rest
      · have plainStep : ¬ Escaped ⟨front, true, true, argv⟩ := fun escaped => begun escaped.1
        have pushed : step ⟨front, true, true, argv⟩ c = some ⟨c :: front, true, true, argv⟩ := by
          rw [step, if_neg quoted]
          by_cases blank : c = space
          · rw [if_pos blank, if_neg plainStep, if_neg (fun both => Bool.false_ne_true both.1.symm)]
            rfl
          · rw [if_neg blank, if_neg (fun same => Bool.false_ne_true same.symm)]
            rfl
        rw [if_neg quoted, List.singleton_append, List.foldlM_cons, pushed, Option.bind_eq_bind, Option.bind_some]
        exact rest

/-- A quoted argument ends with a terminator in the place of the closing quote. -/
theorem steps_quoted {argument : Bytes} (front : Bytes) (argv : List Nat) (plain : backslash ∉ argument) :
    (quote :: (escape argument ++ [quote])).foldlM step ⟨front, false, false, argv⟩ =
      some ⟨0 :: (argument.reverse ++ quote :: front), false, false, argv ++ [front.length + 1]⟩ := by
  have opened : step ⟨front, false, false, argv⟩ quote =
      some ⟨quote :: front, true, true, argv ++ [front.length + 1]⟩ := by
    rw [step, if_pos rfl, if_neg (fun escaped => Bool.false_ne_true escaped.2)]
    rfl
  have last : (argument.reverse ++ quote :: front).head? ≠ some backslash := by
    rcases reversed : argument.reverse with _ | ⟨c, others⟩
    · exact fun same => absurd (Option.some.inj same) (by decide)
    · intro same
      have member : c ∈ argument := List.mem_reverse.mp (reversed ▸ List.mem_cons_self)
      exact plain (Option.some.inj same ▸ member)
  have closed : step ⟨argument.reverse ++ quote :: front, true, true, argv ++ [front.length + 1]⟩ quote =
      some ⟨0 :: (argument.reverse ++ quote :: front), false, false, argv ++ [front.length + 1]⟩ := by
    rw [step, if_pos rfl, if_neg (fun escaped => last escaped.1)]
    rfl
  have opening : (quote :: front).head? ≠ some backslash := fun same => absurd (Option.some.inj same) (by decide)
  rw [List.foldlM_cons, opened, Option.bind_eq_bind, Option.bind_some, List.foldlM_append,
    steps_escape _ plain opening, Option.bind_eq_bind, Option.bind_some, List.foldlM_cons, closed]
  rfl

/-- A word is read as it is. -/
theorem steps_word {argument : Bytes} (front : Bytes) (argv : List Nat)
    (ordinary : forall c, c ∈ argument -> c ≠ space ∧ c ≠ quote) :
    argument.foldlM step ⟨front, true, false, argv⟩ = some ⟨argument.reverse ++ front, true, false, argv⟩ := by
  induction argument generalizing front with
  | nil => rfl
  | cons c argument inductionHypothesis =>
      have first := ordinary c List.mem_cons_self
      have pushed : step ⟨front, true, false, argv⟩ c = some ⟨c :: front, true, false, argv⟩ := by
        rw [step, if_neg first.2, if_neg first.1, if_neg (fun same => Bool.false_ne_true same.symm)]
        rfl
      rw [List.foldlM_cons, pushed, Option.bind_eq_bind, Option.bind_some, List.reverse_cons, List.append_assoc]
      exact inductionHypothesis (c :: front) fun d member => ordinary d (List.mem_cons_of_mem _ member)

theorem steps_bare {argument : Bytes} (front : Bytes) (argv : List Nat) (nonempty : argument ≠ [])
    (ordinary : forall c, c ∈ argument -> c ≠ space ∧ c ≠ quote ∧ c ≠ backslash) :
    argument.foldlM step ⟨front, false, false, argv⟩ =
      some ⟨argument.reverse ++ front, true, false, argv ++ [front.length]⟩ := by
  rcases argument with _ | ⟨c, argument⟩
  · exact absurd rfl nonempty
  have first := ordinary c List.mem_cons_self
  have begun : step ⟨front, false, false, argv⟩ c = some ⟨c :: front, true, false, argv ++ [front.length]⟩ := by
    rw [step, if_neg first.2.1, if_neg first.1, if_pos rfl]
    rfl
  rw [List.foldlM_cons, begun, Option.bind_eq_bind, Option.bind_some, List.reverse_cons, List.append_assoc]
  exact steps_word (c :: front) _ fun d member =>
    ⟨(ordinary d (List.mem_cons_of_mem _ member)).1, (ordinary d (List.mem_cons_of_mem _ member)).2.1⟩

/-- The blank behind a word ends it. -/
theorem step_behind {argument front : Bytes} (argv : List Nat) (nonempty : argument ≠ [])
    (plain : backslash ∉ argument) :
    step ⟨argument.reverse ++ front, true, false, argv⟩ space =
      some ⟨0 :: (argument.reverse ++ front), false, false, argv⟩ := by
  have last : (argument.reverse ++ front).head? ≠ some backslash := by
    rcases reversed : argument.reverse with _ | ⟨c, others⟩
    · exact absurd (List.reverse_eq_nil_iff.mp reversed) nonempty
    · intro same
      have member : c ∈ argument := List.mem_reverse.mp (reversed ▸ List.mem_cons_self)
      exact plain (Option.some.inj same ▸ member)
  rw [step, if_neg (by decide), if_pos rfl, if_neg (fun escaped => last escaped.1), if_pos ⟨rfl, rfl⟩]
  rfl

end Tokens

/-! ## A line -/

/-- An argument, with its terminator, at a place in front of the cursor. -/
def Stored (front : Bytes) (offset : Nat) (argument : Bytes) : Prop :=
  argument ++ [0] <+: front.reverse.drop offset

theorem Stored.mono {front argument : Bytes} {offset : Nat} (stored : Stored front offset argument) (later : Bytes) :
    Stored (later ++ front) offset argument := by
  refine stored.trans ?_
  rw [List.reverse_append]
  exact (List.prefix_append _ _).drop _

theorem stored_last (argument front : Bytes) : Stored (0 :: (argument.reverse ++ front)) front.length argument := by
  rw [Stored, List.reverse_cons, List.reverse_append, List.reverse_reverse, List.append_assoc, ← List.length_reverse,
    List.drop_left]

theorem Stored.textOf {front argument : Bytes} {offset : Nat} (stored : Stored front offset argument)
    (plain : 0 ∉ argument) : textOf (front.reverse.drop offset) = some argument := by
  rcases stored with ⟨rest, region⟩
  rw [← region, List.append_assoc, List.singleton_append]
  exact Text.textOf_region ⟨argument, rest, plain⟩

section Arguments

variable {argument written : Bytes}

/-- The place of a backslash that has been removed is missing in the buffer. -/
theorem steps_argument (spelling : Written argument written) (plain : backslash ∉ argument) (front : Bytes)
    (argv : List Nat) (blanks : Nat) :
    exists later offset,
      (written ++ List.replicate (blanks + 1) space).foldlM Tokens.step ⟨front, false, false, argv⟩ =
        some ⟨later ++ front, false, false, argv ++ [offset]⟩ ∧ Stored (later ++ front) offset argument ∧
      later.length + argument.count quote = (written ++ List.replicate (blanks + 1) space).length := by
  cases spelling with
  | quoted =>
      refine ⟨List.replicate (blanks + 1) space ++ 0 :: (argument.reverse ++ [quote]), front.length + 1, ?_, ?_, ?_⟩
      · rw [List.foldlM_append, Tokens.steps_quoted front argv plain, Option.bind_eq_bind, Option.bind_some,
          Tokens.steps_blanks _ rfl]
        simp only [List.append_assoc, List.cons_append, List.nil_append]
      · have stored := (stored_last argument (quote :: front)).mono (List.replicate (blanks + 1) space)
        simp only [List.append_assoc, List.cons_append, List.nil_append]
        exact stored
      · simp only [List.length_append, List.length_cons, List.length_reverse, List.length_replicate, length_escape,
          List.length_nil]
        omega
  | bare nonempty ordinary =>
      refine ⟨List.replicate blanks space ++ 0 :: argument.reverse, front.length, ?_, ?_, ?_⟩
      · rw [List.foldlM_append, Tokens.steps_bare front argv nonempty ordinary, Option.bind_eq_bind, Option.bind_some,
          List.replicate_succ, List.foldlM_cons, Tokens.step_behind _ nonempty plain, Option.bind_eq_bind,
          Option.bind_some, Tokens.steps_blanks _ rfl]
        simp only [List.append_assoc, List.cons_append]
      · have stored := (stored_last argument front).mono (List.replicate blanks space)
        simp only [List.append_assoc, List.cons_append]
        exact stored
      · have none : argument.count quote = 0 := List.count_eq_zero.mpr fun member => (ordinary quote member).2.1 rfl
        simp only [List.length_append, List.length_cons, List.length_reverse, List.length_replicate, none]
        omega

/-- The last argument of a line, which the end of the line may terminate. -/
theorem steps_last (spelling : Written argument written) (plain : backslash ∉ argument) (front : Bytes)
    (argv : List Nat) (blanks : Nat) :
    exists later inArg offset,
      (written ++ List.replicate blanks space).foldlM Tokens.step ⟨front, false, false, argv⟩ =
        some ⟨later ++ front, inArg, false, argv ++ [offset]⟩ ∧ Stored (0 :: (later ++ front)) offset argument ∧
      later.length + argument.count quote = (written ++ List.replicate blanks space).length := by
  rcases blanks with _ | blanks
  · rw [List.replicate_zero, List.append_nil]
    cases spelling with
    | quoted =>
        refine ⟨0 :: (argument.reverse ++ [quote]), false, front.length + 1, ?_, ?_, ?_⟩
        · rw [Tokens.steps_quoted front argv plain]
          simp only [List.append_assoc, List.cons_append, List.nil_append]
        · have stored := (stored_last argument (quote :: front)).mono [0]
          simp only [List.append_assoc, List.cons_append, List.nil_append]
          exact stored
        · simp only [List.length_append, List.length_cons, List.length_reverse, length_escape, List.length_nil]
          omega
    | bare nonempty ordinary =>
        have none : argument.count quote = 0 := List.count_eq_zero.mpr fun member => (ordinary quote member).2.1 rfl
        refine ⟨argument.reverse, true, front.length, Tokens.steps_bare front argv nonempty ordinary,
          stored_last argument front, ?_⟩
        rw [List.length_reverse, none, Nat.add_zero]
  · rcases steps_argument spelling plain front argv blanks with ⟨later, offset, reached, stored, length⟩
    exact ⟨later, false, offset, reached, stored.mono [0], length⟩

end Arguments

/-- A pass that copies does not lengthen the buffer in front of the cursor, and every
other one does. -/
theorem step_front {tokens next : Tokens} {c : UInt8} (stepped : tokens.step c = some next) :
    next.front.length =
      if (c = quote ∨ c = space) ∧ tokens.Escaped then tokens.front.length else tokens.front.length + 1 := by
  have unescaped (escaped : tokens.Escaped) : (tokens.unescape c).front.length = tokens.front.length := by
    rcases List.head?_eq_some_iff.mp escaped.1 with ⟨rest, front⟩
    rw [Tokens.unescape, front, List.tail_cons, List.length_cons, List.length_cons]
  rw [Tokens.step] at stepped
  by_cases escaped : tokens.Escaped
  · by_cases quoted : c = quote
    · rw [if_pos quoted, if_pos escaped] at stepped
      cases stepped
      rw [if_pos ⟨Or.inl quoted, escaped⟩, unescaped escaped]
    · rw [if_neg quoted] at stepped
      by_cases blank : c = space
      · rw [if_pos blank, if_pos escaped] at stepped
        cases stepped
        rw [if_pos ⟨Or.inr blank, escaped⟩, unescaped escaped]
      · rw [if_neg blank] at stepped
        rw [if_neg fun both => both.1.elim quoted blank]
        split at stepped <;> cases stepped <;> rfl
  · rw [if_neg fun both => escaped both.2]
    rw [if_neg escaped, if_neg escaped] at stepped
    repeat' split at stepped
    all_goals cases stepped
    all_goals rfl

/-- The loop copies exactly if the buffer has become shorter than the line. -/
theorem overlaps_iff {tokens last : Tokens} {text : Bytes} (reached : text.foldlM Tokens.step tokens = some last)
    (short : tokens.front.length + text.length < inbufSize) (few : last.argv.length ≤ maxCmdArg) :
    last.front.length ≤ tokens.front.length + text.length ∧
      (tokens.overlaps text = true <-> last.front.length < tokens.front.length + text.length) := by
  induction text generalizing tokens with
  | nil =>
      cases reached
      simp [Tokens.overlaps]
  | cons c text inductionHypothesis =>
      rw [List.foldlM_cons] at reached
      rcases Option.bind_eq_some_iff.mp reached with ⟨next, stepped, after⟩
      have front := step_front stepped
      have grown := (step_grows stepped).1
      rw [List.length_cons] at short ⊢
      have rest := inductionHypothesis after (by omega)
      have continues : next.front.length < inbufSize ∧ next.argv.length ≤ maxCmdArg :=
        ⟨by omega, Nat.le_trans (steps_argv after) few⟩
      refine ⟨by omega, ?_⟩
      rw [Tokens.overlaps]
      by_cases copied : (c = quote ∨ c = space) ∧ tokens.Escaped
      · rw [if_pos copied] at front ⊢
        exact ⟨fun _ => by omega, fun _ => rfl⟩
      · rw [if_neg copied] at front ⊢
        rw [stepped]
        dsimp only
        rw [if_pos continues, rest.2, front]
        omega

/-- The number of quotes in the arguments. -/
def quotes (arguments : List Bytes) : Nat :=
  (arguments.map fun argument => argument.count quote).sum

theorem quotes_cons (argument : Bytes) (arguments : List Bytes) :
    quotes (argument :: arguments) = argument.count quote + quotes arguments := by
  rw [quotes, List.map_cons, List.sum_cons, ← quotes]

theorem quotes_eq_zero_iff {arguments : List Bytes} :
    quotes arguments = 0 <-> forall argument, argument ∈ arguments -> quote ∉ argument := by
  simp only [quotes, List.sum_eq_zero_iff, List.forall_mem_map, List.count_eq_zero]

/-- The arguments of a line are stored one behind the other. -/
theorem steps_spelled {arguments : List Bytes} {text : Bytes} (spelled : Spelled arguments text)
    (plain : forall argument, argument ∈ arguments -> backslash ∉ argument) (front : Bytes) (argv : List Nat) :
    exists later inArg offsets,
      text.foldlM Tokens.step ⟨front, false, false, argv⟩ = some ⟨later ++ front, inArg, false, argv ++ offsets⟩ ∧
      List.Forall₂ (Stored (0 :: (later ++ front))) offsets arguments ∧
      later.length + quotes arguments = text.length := by
  induction spelled generalizing front argv with
  | last blanks spelling =>
      rcases steps_last spelling (plain _ (List.mem_singleton_self _)) front argv blanks with
        ⟨later, inArg, offset, reached, stored, length⟩
      exact ⟨later, inArg, [offset], reached, List.Forall₂.cons stored List.Forall₂.nil, length⟩
  | more blanks spelling rest inductionHypothesis =>
      rcases steps_argument spelling (plain _ List.mem_cons_self) front argv blanks with
        ⟨later, offset, reached, stored, length⟩
      rcases inductionHypothesis (fun argument member => plain argument (List.mem_cons_of_mem _ member))
        (later ++ front) (argv ++ [offset]) with ⟨more, inArg, offsets, scanned, others, lengths⟩
      refine ⟨more ++ later, inArg, offset :: offsets, ?_, ?_, ?_⟩
      · rw [← List.append_assoc, List.foldlM_append, reached, Option.bind_eq_bind, Option.bind_some, scanned]
        simp only [List.append_assoc, List.singleton_append]
      · rw [List.append_assoc]
        exact List.Forall₂.cons ((stored.mono more).mono [0]) others
      · simp only [quotes_cons, List.length_append] at length ⊢
        omega

/-- The buffer is read where the arguments are stored. -/
theorem arguments_read {front : Bytes} {offsets : List Nat} {arguments : List Bytes}
    (stored : List.Forall₂ (Stored (0 :: front)) offsets arguments)
    (plain : forall argument, argument ∈ arguments -> 0 ∉ argument) :
    (offsets.mapM fun offset => textOf ((front.reverse ++ [] ++ [0]).drop offset)) = some arguments := by
  induction stored with
  | nil => rfl
  | cons first rest inductionHypothesis =>
      have read := first.textOf (plain _ List.mem_cons_self)
      rw [List.reverse_cons] at read
      rw [List.mapM_cons, List.append_nil, read]
      rw [List.append_nil] at inductionHypothesis
      rw [inductionHypothesis fun argument member => plain argument (List.mem_cons_of_mem _ member)]
      rfl

/-- The tokenizer inverts quoting: for one to four arguments, of which the first names
a command, every line that spells them calls the command with these arguments.  The
call is defined exactly if none of them has a quote in it, and otherwise it is the one
that a `memcpy` gives that copies forwards. -/
theorem spelled_called {arguments : List Bytes} {text : Bytes} {command : ConfigurationCommand} (leading : Nat)
    (spelled : Spelled arguments text) (few : arguments.length ≤ 4)
    (plain : forall argument, argument ∈ arguments -> 0 ∉ argument ∧ backslash ∉ argument)
    (named : arguments.head?.bind commandNamed = some command)
    (short : (List.replicate leading space ++ text).length < 1024) :
    definedCall (List.replicate leading space ++ text) =
        (if forall argument, argument ∈ arguments -> quote ∉ argument then some (some (command, arguments)) else none) ∧
      callOf (List.replicate leading space ++ text) = some (command, arguments) ∧
      handleInput (List.replicate leading space ++ text) = .ran command := by
  rcases steps_spelled spelled (fun argument member => (plain argument member).2) (List.replicate leading space) [] with
    ⟨later, inArg, offsets, spelledSteps, stored, length⟩
  have reached : (List.replicate leading space ++ text).foldlM Tokens.step Tokens.start =
      some ⟨later ++ List.replicate leading space, inArg, false, offsets⟩ := by
    have blanks := Tokens.steps_blanks Tokens.start rfl leading
    rw [Tokens.start, List.append_nil] at blanks
    rw [List.foldlM_append, Tokens.start, blanks, Option.bind_eq_bind, Option.bind_some]
    exact spelledSteps
  have fewOffsets : offsets.length ≤ maxCmdArg := stored.length_eq ▸ few
  have within : Tokens.start.front.length + (List.replicate leading space ++ text).length < inbufSize := by
    rw [Tokens.start, List.length_nil, Nat.zero_add]
    exact short
  have whole : Tokens.start.scan (List.replicate leading space ++ text) =
      some (⟨later ++ List.replicate leading space, inArg, false, offsets⟩, []) := by
    have scanned := scan_append reached within fewOffsets []
    rw [List.append_nil] at scanned
    rw [scanned]
    rfl
  have read := arguments_read stored fun argument member => (plain argument member).1
  have first : firstArgument ⟨later ++ List.replicate leading space, inArg, false, offsets⟩ [] = arguments.head? := by
    cases stored with
    | nil => rfl
    | cons one others =>
        rw [List.mapM_cons] at read
        rcases Option.bind_eq_some_iff.mp read with ⟨argument, text, rest⟩
        rcases Option.bind_eq_some_iff.mp rest with ⟨_, _, same⟩
        rw [firstArgument, List.head?_cons, Option.bind_some, text, List.head?_cons]
        exact congrArg some (List.cons.inj (Option.some.inj same)).1
  have called : callOf (List.replicate leading space ++ text) = some (command, arguments) := by
    rcases Option.bind_eq_some_iff.mp named with ⟨name, head, known⟩
    simp only [callOf, whole, first, head, known, argumentsOf, read, Option.bind_eq_bind, Option.bind_some]
  have copies : Tokens.start.overlaps (List.replicate leading space ++ text) = true <-> ¬ quotes arguments = 0 := by
    rw [(overlaps_iff reached within fewOffsets).2, Tokens.start, List.length_append, List.length_append, List.length_nil]
    omega
  refine ⟨?_, called, handleInput_of_callOf called⟩
  rw [definedCall, called]
  by_cases none : quotes arguments = 0
  · rw [if_neg fun copied => copies.mp copied none, if_pos (quotes_eq_zero_iff.mp none)]
  · rw [if_pos (copies.mpr none), if_neg fun all => none (quotes_eq_zero_iff.mpr all)]

/-- A word, and a quoted argument with a blank in it. -/
theorem spelled_called_ssid :
    definedCall (literal "  set_wifissid  \"my net\" ") =
        some (some (⟨literal "set_wifissid", false⟩, [literal "set_wifissid", literal "my net"])) := by
  have line : literal "  set_wifissid  \"my net\" " = List.replicate 2 space ++ (literal "set_wifissid" ++
      (List.replicate 2 space ++ ((quote :: (escape (literal "my net") ++ [quote])) ++ List.replicate 1 space))) := by
    decide +kernel
  have named : [literal "set_wifissid", literal "my net"].head?.bind commandNamed =
      some ⟨literal "set_wifissid", false⟩ := by
    decide +kernel
  rw [line]
  refine (spelled_called 2 (.more 1 (.bare (by decide) (by decide +kernel)) (.last 1 .quoted)) (by decide)
    (by decide +kernel) named (by decide +kernel)).1.trans ?_
  exact if_pos (by decide +kernel)

/-- A quoted argument with a quote in it, for which nothing is defined. -/
theorem quoted_quote_undefined :
    Spelled [literal "set_wifissid", literal "my\"net"] (literal "set_wifissid \"my\\\"net\"") ∧
      definedCall (literal "set_wifissid \"my\\\"net\"") = none := by
  constructor
  · have line : literal "set_wifissid \"my\\\"net\"" = literal "set_wifissid" ++
        (List.replicate 1 space ++ ((quote :: (escape (literal "my\"net") ++ [quote])) ++ List.replicate 0 space)) := by
      decide +kernel
    rw [line]
    exact .more 0 (.bare (by decide) (by decide +kernel)) (.last 0 .quoted)
  · decide +kernel

end Console
end DevKit
