import DevKit.Console.Terminal

namespace DevKit
namespace Console

/-!
# What the echo of a private command tells

Two lines that begin with the same command and differ in their arguments must
not be told apart by their echo.  The echo of a line is decided by the text in
front of its first blank; the command that runs is decided by the tokenizer.
They agree on a line that begins with the command, and on no other one: a
blank or a quote in front of the name hides it from the echo, and the
tokenizer still finds it.
-/

/-! ## The echo -/

/-- A key that is neither a control key nor an erase key. -/
def TextKey (key : UInt8) : Prop :=
  key = tab ∨ space ≤ key ∧ key ≠ del

theorem TextKey.typeKey {key : UInt8} (printable : TextKey key) (text : Bytes) :
    key ≠ carriageReturn ∧
      typeKey text key = (text ++ [shown key], [if isPrivacyCmd text = true then star else shown key]) := by
  have facts : key ≠ carriageReturn ∧ ¬ (key = backspace ∨ key = del) ∧ ¬ shown key < space := by
    rcases printable with rfl | ⟨large, other⟩
    · decide
    · have below {small : UInt8} (less : ¬ space ≤ small) : key ≠ small := fun same => less (same ▸ large)
      refine ⟨below (by decide), fun erase => erase.elim (below (by decide)) other, ?_⟩
      rw [shown, if_neg (below (by decide))]
      exact UInt8.not_lt.mpr large
  refine ⟨facts.1, ?_⟩
  rw [Console.typeKey, if_neg facts.2.1, if_neg facts.2.2]

theorem isPrivacyFrom_append {text : Bytes} (blank : space ∈ text) (cmdName more : Bytes) :
    isPrivacyFrom cmdName (text ++ more) = isPrivacyFrom cmdName text := by
  induction text generalizing cmdName with
  | nil => exact absurd blank List.not_mem_nil
  | cons c text inductionHypothesis =>
      rw [List.cons_append, isPrivacyFrom, isPrivacyFrom]
      split
      next => rfl
      next other =>
        refine inductionHypothesis ?_ _
        rcases List.mem_cons.mp blank with same | later
        · exact absurd same.symm other
        · exact later

/-- The echo of further characters behind a blank. -/
def mask (secret : Bool) (keys : List UInt8) : Bytes :=
  keys.map fun key => if secret = true then star else shown key

theorem getInput_keys {text : Bytes} (blank : space ∈ text) (keys : List UInt8)
    (printable : forall key, key ∈ keys -> TextKey key) (short : text.length + keys.length < inbufSize) :
    getInput text (keys ++ [carriageReturn]) = (mask (isPrivacyCmd text) keys, .line (text ++ keys.map shown)) := by
  induction keys generalizing text with
  | nil =>
      rw [List.map_nil, List.append_nil]
      rfl
  | cons key keys inductionHypothesis =>
      rcases (printable key List.mem_cons_self).typeKey text with ⟨other, typed⟩
      have same : isPrivacyCmd (text ++ [shown key]) = isPrivacyCmd text := isPrivacyFrom_append blank _ _
      rw [List.length_cons] at short
      have longer : (text ++ [shown key]).length + keys.length < inbufSize := by
        rw [List.length_append, List.length_singleton]
        omega
      have rest := inductionHypothesis (List.mem_append_left [shown key] blank)
        (fun key member => printable key (List.mem_cons_of_mem _ member)) longer
      rw [List.cons_append, getInput, if_neg other, typed]
      dsimp only
      rw [if_neg (by rw [List.length_append, List.length_singleton]; omega), rest, same, List.append_assoc]
      rfl

/-- Typing in two parts. -/
theorem getInput_append {text reached : Bytes} {first : List UInt8} {echo : Bytes}
    (typed : getInput text first = (echo, .waiting reached)) (second : List UInt8) :
    getInput text (first ++ second) = (echo ++ (getInput reached second).1, (getInput reached second).2) := by
  induction first generalizing text echo with
  | nil =>
      cases typed
      rfl
  | cons key keys inductionHypothesis =>
      rw [getInput] at typed
      rw [List.cons_append, getInput]
      split at typed
      next => cases typed
      next other =>
        rw [if_neg other]
        dsimp only at typed ⊢
        split at typed
        next => cases typed
        next short =>
          rw [if_neg short]
          rcases Prod.mk.inj typed with ⟨rfl, ending⟩
          have rest := inductionHypothesis (Prod.ext rfl ending)
          rw [rest, List.append_assoc]

/-! ## The tokenizer -/

/-- A character that the name of a command does not have. -/
def Special (c : UInt8) : Prop :=
  c = space ∨ c = quote

/-- The buffer keeps its first bytes, and an argument begins behind them. -/
def Keeps (fixed : Bytes) (first : Nat) (tokens : Tokens) : Prop :=
  fixed <+: tokens.front.reverse ∧ (tokens.inArg = true -> fixed.length < tokens.front.length) ∧
    tokens.argv.head? = some first

theorem Keeps.push {fixed : Bytes} {first : Nat} {tokens : Tokens} (keeps : Keeps fixed first tokens) (c : UInt8) :
    fixed <+: (c :: tokens.front).reverse ∧ fixed.length < (c :: tokens.front).length := by
  have whole := keeps.1.length_le
  rw [List.length_reverse] at whole
  rw [List.reverse_cons]
  exact ⟨keeps.1.trans (List.prefix_append _ _), Nat.lt_succ_of_le whole⟩

theorem Keeps.unescape {fixed : Bytes} {first : Nat} {tokens : Tokens} (keeps : Keeps fixed first tokens)
    (escaped : tokens.Escaped) (c : UInt8) : Keeps fixed first (tokens.unescape c) := by
  rcases keeps with ⟨inside, later, argv⟩
  have long := later escaped.2
  cases front : tokens.front with
  | nil =>
      rw [front] at long
      exact absurd long (Nat.not_lt_zero _)
  | cons last front' =>
      rw [front, List.reverse_cons] at inside
      rw [front, List.length_cons] at long
      have before : fixed <+: front'.reverse := by
        refine List.prefix_of_prefix_length_le inside (List.prefix_append _ _) ?_
        rw [List.length_reverse]
        omega
      refine ⟨?_, fun _ => ?_, argv⟩
      · rw [Tokens.unescape, front, List.tail_cons, List.reverse_cons]
        exact before.trans (List.prefix_append _ _)
      · rw [Tokens.unescape, front, List.tail_cons, List.length_cons]
        exact long

theorem Keeps.step {fixed : Bytes} {first : Nat} {tokens next : Tokens} {c : UInt8} (keeps : Keeps fixed first tokens)
    (stepped : tokens.step c = some next) : Keeps fixed first next := by
  have pushed := keeps.push
  have argv := keeps.2.2
  have longer (offset : Nat) : (tokens.argv ++ [offset]).head? = some first := by
    rw [List.head?_append, argv]
    rfl
  rw [Tokens.step] at stepped
  split at stepped
  next =>
    split at stepped
    next escaped =>
      cases stepped
      exact keeps.unescape escaped c
    next =>
      split at stepped
      next => cases stepped; exact ⟨(pushed c).1, fun _ => (pushed c).2, argv⟩
      next => cases stepped
      next => cases stepped; exact ⟨(pushed c).1, fun _ => (pushed c).2, longer _⟩
      next => cases stepped; exact ⟨(pushed 0).1, fun _ => (pushed 0).2, argv⟩
  next =>
    split at stepped
    next =>
      split at stepped
      next escaped =>
        cases stepped
        exact keeps.unescape escaped c
      next =>
        split at stepped
        next => cases stepped; exact ⟨(pushed 0).1, fun _ => (pushed 0).2, argv⟩
        next => cases stepped; exact ⟨(pushed c).1, fun _ => (pushed c).2, argv⟩
    next =>
      split at stepped
      next => cases stepped; exact ⟨(pushed c).1, fun _ => (pushed c).2, longer _⟩
      next => cases stepped; exact ⟨(pushed c).1, fun _ => (pushed c).2, argv⟩

/-- The rest of a line does not touch what the buffer begins with. -/
theorem Keeps.scan {fixed rest : Bytes} {first : Nat} {tokens : Tokens} {last : Tokens × Bytes}
    (keeps : Keeps fixed first tokens) (scanned : tokens.scan rest = some last) : Keeps fixed first last.1 := by
  induction rest generalizing tokens with
  | nil =>
      rw [Tokens.scan] at scanned
      split at scanned
      next => cases scanned
      next => cases scanned; exact keeps
  | cons c rest inductionHypothesis =>
      rw [Tokens.scan] at scanned
      cases stepped : tokens.step c with
      | none =>
          rw [stepped] at scanned
          cases scanned
      | some next =>
          rw [stepped] at scanned
          dsimp only at scanned
          split at scanned
          next => exact inductionHypothesis (keeps.step stepped) scanned
          next =>
            split at scanned
            next => cases scanned
            next => cases scanned; exact keeps.step stepped

/-- A step adds at most one byte, and it does not forget an argument. -/
theorem step_grows {tokens next : Tokens} {c : UInt8} (stepped : tokens.step c = some next) :
    next.front.length ≤ tokens.front.length + 1 ∧ tokens.argv.length ≤ next.argv.length := by
  have unescaped : (tokens.unescape c).front.length ≤ tokens.front.length + 1 := by
    rw [Tokens.unescape, List.length_cons, List.length_tail]
    omega
  rw [Tokens.step] at stepped
  repeat' split at stepped
  all_goals cases stepped
  all_goals simp only [Tokens.unescape, Tokens.push, List.length_append, List.length_cons] at unescaped ⊢
  all_goals omega

theorem steps_argv {tokens last : Tokens} {text : Bytes} (reached : text.foldlM Tokens.step tokens = some last) :
    tokens.argv.length ≤ last.argv.length := by
  induction text generalizing tokens with
  | nil =>
      cases reached
      exact Nat.le_refl _
  | cons c text inductionHypothesis =>
      rw [List.foldlM_cons] at reached
      rcases Option.bind_eq_some_iff.mp reached with ⟨next, stepped, after⟩
      exact Nat.le_trans (step_grows stepped).2 (inductionHypothesis after)

/-- The loop over a part of the line that does not end it. -/
theorem scan_append {tokens last : Tokens} {text : Bytes} (reached : text.foldlM Tokens.step tokens = some last)
    (short : tokens.front.length + text.length < inbufSize) (few : last.argv.length ≤ maxCmdArg) (rest : Bytes) :
    tokens.scan (text ++ rest) = last.scan rest := by
  induction text generalizing tokens with
  | nil =>
      cases reached
      rfl
  | cons c text inductionHypothesis =>
      rw [List.foldlM_cons] at reached
      rcases Option.bind_eq_some_iff.mp reached with ⟨next, stepped, after⟩
      have grown := (step_grows stepped).1
      rw [List.length_cons] at short
      rw [List.cons_append, Tokens.scan, stepped]
      dsimp only
      rw [if_pos ⟨by omega, Nat.le_trans (steps_argv after) few⟩]
      exact inductionHypothesis after (by omega)

theorem Keeps.steps {fixed text : Bytes} {first : Nat} {tokens last : Tokens} (keeps : Keeps fixed first tokens)
    (reached : text.foldlM Tokens.step tokens = some last) : Keeps fixed first last := by
  induction text generalizing tokens with
  | nil =>
      cases reached
      exact keeps
  | cons c text inductionHypothesis =>
      rw [List.foldlM_cons] at reached
      rcases Option.bind_eq_some_iff.mp reached with ⟨next, stepped, after⟩
      exact inductionHypothesis (keeps.step stepped) after

/-- The first argument of a line that begins with it: the text in front of the
first blank, or a text with a blank or a quote in it. -/
structure Word (front rest : Bytes) (last : Tokens) (word : Bytes) : Prop where
  keeps : Keeps (word ++ [0]) 0 last
  plain : 0 ∉ word
  marked : (exists c, c ∈ front ∧ Special c) -> exists c, c ∈ word ∧ Special c
  raw : (exists c, c ∈ word ∧ Special c) ∨ exists after, front.reverse ++ rest = word ++ space :: after

theorem Word.special {front front' rest rest' : Bytes} {last : Tokens} {word : Bytes}
    (found : Word (front' : Bytes) rest' last word) {c : UInt8} (special : Special c) (inside : c ∈ front') :
    Word front rest last word :=
  have marked := found.marked ⟨c, inside, special⟩
  ⟨found.keeps, found.plain, fun _ => marked, Or.inl marked⟩

theorem exists_word {front rest : Bytes} {last : Tokens} (plainFront : 0 ∉ front) (plainRest : 0 ∉ rest)
    (reached : rest.foldlM Tokens.step ⟨front, true, false, [0]⟩ = some last) (ended : last.inArg = false) :
    exists word, Word front rest last word := by
  induction rest generalizing front with
  | nil =>
      cases reached
      cases ended
  | cons c rest inductionHypothesis =>
      rw [List.foldlM_cons] at reached
      rcases Option.bind_eq_some_iff.mp reached with ⟨next, stepped, after⟩
      have nonzero : 0 ≠ c := fun same => plainRest (same ▸ List.mem_cons_self)
      have plainAfter : 0 ∉ rest := fun member => plainRest (List.mem_cons_of_mem _ member)
      have plainPush : 0 ∉ c :: front := fun member => (List.mem_cons.mp member).elim nonzero plainFront
      have plainPop : 0 ∉ c :: front.tail := fun member =>
        (List.mem_cons.mp member).elim nonzero fun inside => plainFront (List.mem_of_mem_tail inside)
      rw [Tokens.step] at stepped
      split at stepped
      next quoted =>
        -- A quote stays in the argument, whether it is escaped or not.
        split at stepped
        next =>
          cases stepped
          rcases inductionHypothesis plainPop plainAfter after with ⟨word, found⟩
          exact ⟨word, found.special (Or.inr quoted) List.mem_cons_self⟩
        next =>
          cases stepped
          rcases inductionHypothesis plainPush plainAfter after with ⟨word, found⟩
          exact ⟨word, found.special (Or.inr quoted) List.mem_cons_self⟩
      next other =>
        split at stepped
        next blank =>
          split at stepped
          next =>
            cases stepped
            rcases inductionHypothesis plainPop plainAfter after with ⟨word, found⟩
            exact ⟨word, found.special (Or.inl blank) List.mem_cons_self⟩
          next =>
            cases stepped
            have keeps : Keeps (front.reverse ++ [0]) 0 ⟨0 :: front, false, false, [0]⟩ := by
              refine ⟨?_, fun impossible => (nomatch impossible), rfl⟩
              rw [List.reverse_cons]
            refine ⟨front.reverse, keeps.steps after, fun member => plainFront (List.mem_reverse.mp member), ?_, ?_⟩
            · rintro ⟨c, inside, special⟩
              exact ⟨c, List.mem_reverse.mpr inside, special⟩
            · rw [blank]
              exact Or.inr ⟨rest, rfl⟩
        next =>
          cases stepped
          rcases inductionHypothesis plainPush plainAfter after with ⟨word, found⟩
          refine ⟨word, found.keeps, found.plain, ?_, ?_⟩
          · rintro ⟨d, inside, special⟩
            exact found.marked ⟨d, List.mem_cons_of_mem _ inside, special⟩
          · have raw := found.raw
            rw [List.reverse_cons, List.append_assoc] at raw
            exact raw

/-! ## The two lookups -/

theorem commandNamed_name {name : Bytes} {command : ConfigurationCommand} (found : commandNamed name = some command) :
    command ∈ commands ∧ command.name = name := by
  have same := List.find?_some found
  exact ⟨List.mem_of_find?_eq_some found, of_decide_eq_true same⟩

/-- The names of the table are words. -/
theorem commands_plain : forall command, command ∈ commands ->
    command.name ≠ [] ∧ space ∉ command.name ∧ quote ∉ command.name := by
  decide +kernel

theorem not_special_of_named {name : Bytes} {command : ConfigurationCommand} (found : commandNamed name = some command) :
    ¬ exists c, c ∈ name ∧ Special c := by
  rcases commandNamed_name found with ⟨member, rfl⟩
  rcases commands_plain command member with ⟨_, noBlank, noQuote⟩
  rintro ⟨c, inside, rfl | rfl⟩
  · exact noBlank inside
  · exact noQuote inside

theorem isPrivacyFrom_word {word : Bytes} (noBlank : space ∉ word) (cmdName after : Bytes) :
    isPrivacyFrom cmdName (word ++ space :: after) =
      (commandNamed (cmdName ++ word)).elim false ConfigurationCommand.isPrivacy := by
  induction word generalizing cmdName with
  | nil => rw [List.append_nil, List.nil_append, isPrivacyFrom, if_pos rfl]
  | cons c word inductionHypothesis =>
      have other : c ≠ space := fun same => noBlank (same ▸ List.mem_cons_self)
      rw [List.cons_append, isPrivacyFrom, if_neg other,
        inductionHypothesis fun member => noBlank (List.mem_cons_of_mem _ member), List.append_assoc]
      rfl

/-- A name that has a quote in it is not in the table. -/
theorem isPrivacyFrom_quote {cmdName : Bytes} (quoted : quote ∈ cmdName) (text : Bytes) :
    isPrivacyFrom cmdName text = false := by
  induction text generalizing cmdName with
  | nil => rfl
  | cons c text inductionHypothesis =>
      rw [isPrivacyFrom]
      split
      next =>
        cases found : commandNamed cmdName with
        | none => rfl
        | some command => exact absurd ⟨quote, quoted, Or.inr rfl⟩ (not_special_of_named found)
      next => exact inductionHypothesis (List.mem_append_left _ quoted)

/-- A line that begins with a blank or a quote is echoed. -/
theorem isPrivacyCmd_of_special {c : UInt8} (special : Special c) (text : Bytes) : isPrivacyCmd (c :: text) = false := by
  rcases special with rfl | rfl
  · have nameless : commandNamed [] = none := by decide +kernel
    rw [isPrivacyCmd, isPrivacyFrom, if_pos rfl, nameless, Option.elim_none]
  · rw [isPrivacyCmd, isPrivacyFrom, if_neg (by decide)]
    exact isPrivacyFrom_quote List.mem_cons_self text

/-- Typing has reached the blank behind the command. -/
structure CommandTyped (text : Bytes) : Prop where
  blank : text.getLast? = some space
  word : exists tokens, text.foldlM Tokens.step Tokens.start = some tokens ∧ tokens.argv.length = 1 ∧
    tokens.inArg = false

/-- On a line that begins with the command, the echo finds the command that
the tokenizer runs. -/
theorem isPrivacyCmd_of_ran {c : UInt8} {text rest : Bytes} (plain : 0 ∉ c :: text) (ordinary : ¬ Special c)
    (typed : CommandTyped (c :: text)) (short : (c :: text).length < inbufSize) {command : ConfigurationCommand}
    (ran : handleInput (c :: text ++ rest) = .ran command) : isPrivacyCmd (c :: text) = command.isPrivacy := by
  rcases typed.word with ⟨tokens, reached, single, ended⟩
  have few : tokens.argv.length ≤ maxCmdArg := single ▸ (by decide)
  have first : Tokens.start.step c = some ⟨[c], true, false, [0]⟩ := by
    rw [Tokens.step, if_neg fun same => ordinary (Or.inr same), if_neg fun same => ordinary (Or.inl same)]
    rfl
  have scanned := scan_append reached (by rw [Tokens.start, List.length_nil]; omega) few rest
  rw [List.foldlM_cons, first] at reached
  rcases exists_word (fun member => plain (List.mem_singleton.mp member ▸ List.mem_cons_self))
    (fun member => plain (List.mem_cons_of_mem _ member)) reached ended with ⟨word, found⟩
  rw [handleInput, scanned] at ran
  cases finished : tokens.scan rest with
  | none =>
      rw [finished] at ran
      cases ran
  | some last =>
      rcases last with ⟨last, left⟩
      rcases found.keeps.scan finished with ⟨⟨more, buffer⟩, _, argv⟩
      have argument : firstArgument last left = some word := by
        rw [firstArgument, argv, Option.bind_some, List.drop_zero, ← buffer]
        refine textOf_eq_some_iff.mpr ⟨found.plain, more ++ left ++ [0], ?_⟩
        simp only [List.append_assoc, List.cons_append, List.nil_append]
      rw [finished] at ran
      dsimp only at ran
      rw [argument] at ran
      dsimp only at ran
      cases named : commandNamed word with
      | none =>
          rw [named] at ran
          cases ran
      | some other =>
          rw [named] at ran
          cases ran
          have words := not_special_of_named named
          rcases found.raw with special | ⟨after, split⟩
          · exact absurd special words
          · have whole : c :: text = word ++ space :: after := split
            rw [whole, isPrivacyCmd, isPrivacyFrom_word fun blank => words ⟨space, blank, Or.inl rfl⟩, List.nil_append,
              named, Option.elim_some]

theorem typeKey_plain {text : Bytes} (plain : 0 ∉ text) (key : UInt8) : 0 ∉ (typeKey text key).1 := by
  rw [typeKey]
  split
  next =>
    split
    next => exact fun member => plain (List.mem_of_mem_dropLast member)
    next => exact plain
  next =>
    split
    next => exact plain
    next printable =>
      rw [List.mem_append, List.mem_singleton, not_or]
      exact ⟨plain, fun zero => printable (zero ▸ (by decide))⟩

/-- A line has no zero byte in it. -/
theorem getInput_plain {text reached : Bytes} {keys : List UInt8} {echo : Bytes} (plain : 0 ∉ text)
    (typed : getInput text keys = (echo, .waiting reached)) : 0 ∉ reached := by
  induction keys generalizing text echo with
  | nil =>
      cases typed
      exact plain
  | cons key keys inductionHypothesis =>
      rw [getInput] at typed
      split at typed
      next => cases typed
      next =>
        dsimp only at typed
        split at typed
        next => cases typed
        next => exact inductionHypothesis (typeKey_plain plain key) (Prod.ext rfl (Prod.mk.inj typed).2)

/-- The command that a line of keys runs. -/
def ranBy (keys : List UInt8) : Option ConfigurationCommand :=
  match (getInput [] (keys ++ [carriageReturn])).2 with
  | .line text =>
      match handleInput text with
      | .ran command => some command
      | _ => none
  | _ => none

/-- The echo of a line of keys. -/
def echoOf (keys : List UInt8) : Bytes :=
  (getInput [] (keys ++ [carriageReturn])).1

/-- Two lines that begin with the same private command, and have arguments of
one length, have the same echo exactly when the line begins with the command
itself, without a blank or a quote in front, or the arguments are the same. -/
theorem echo_of_private_iff {opening first second : List UInt8} {echo text : Bytes}
    (typed : getInput [] opening = (echo, .waiting text)) (begun : CommandTyped text)
    (printable : forall key, key ∈ first ++ second -> TextKey key) (length : first.length = second.length)
    (short : text.length + first.length ≤ 1023) {command : ConfigurationCommand}
    (ran : ranBy (opening ++ first) = some command) (secret : command.isPrivacy = true) :
    echoOf (opening ++ first) = echoOf (opening ++ second) <->
      (forall c, text.head? = some c -> ¬ Special c) ∨ first.map shown = second.map shown := by
  have blank : space ∈ text := List.mem_of_getLast? begun.blank
  have plain := getInput_plain List.not_mem_nil typed
  have typing (keys : List UInt8) (inside : forall key, key ∈ keys -> TextKey key) (same : keys.length = first.length) :
      getInput [] (opening ++ keys ++ [carriageReturn]) =
        (echo ++ mask (isPrivacyCmd text) keys, .line (text ++ keys.map shown)) := by
    rw [List.append_assoc, getInput_append typed, getInput_keys blank keys inside (by rw [inbufSize]; omega)]
  have one := typing first (fun key member => printable key (List.mem_append_left _ member)) rfl
  have two := typing second (fun key member => printable key (List.mem_append_right _ member)) length.symm
  have runs : handleInput (text ++ first.map shown) = .ran command := by
    rw [ranBy, one] at ran
    dsimp only at ran
    split at ran
    next same => rw [same, Option.some_inj.mp ran]
    next => cases ran
  rw [echoOf, echoOf, one, two, List.append_cancel_left_eq]
  cases text with
  | nil => exact absurd blank List.not_mem_nil
  | cons c text =>
      have whole : (c :: text).length < inbufSize := by
        rw [inbufSize]
        omega
      by_cases special : Special c
      · -- The name is not seen, and every key is echoed as it is.
        rw [isPrivacyCmd_of_special special]
        refine ⟨Or.inr, fun condition => condition.elim (fun ordinary => absurd special (ordinary c rfl)) id⟩
      · have stars (keys : List UInt8) : mask true keys = List.replicate keys.length star := List.map_const' ..
        rw [isPrivacyCmd_of_ran plain special begun whole runs, secret, stars, stars, length]
        refine ⟨fun _ => Or.inl fun d same => ?_, fun _ => rfl⟩
        cases same
        exact special

def wifiPwdKeys : List UInt8 :=
  literal "set_wifipwd"

/-- A password behind the command is echoed as stars. -/
theorem echo_of_private_command :
    echoOf (wifiPwdKeys ++ [space] ++ [120]) = echoOf (wifiPwdKeys ++ [space] ++ [121]) := by
  have typed : getInput [] (wifiPwdKeys ++ [space]) = (wifiPwdKeys ++ [space], .waiting (wifiPwdKeys ++ [space])) := by
    decide +kernel
  have begun : CommandTyped (wifiPwdKeys ++ [space]) :=
    ⟨by decide +kernel, ⟨0 :: wifiPwdKeys.reverse, false, false, [0]⟩, by decide +kernel⟩
  have ran : ranBy (wifiPwdKeys ++ [space] ++ [120]) = some ⟨wifiPwdKeys, true⟩ := by decide +kernel
  refine (echo_of_private_iff typed begun ?_ rfl (by decide) ran rfl).mpr (Or.inl ?_)
  · rintro key (_ | ⟨_, _ | ⟨_, impossible⟩⟩)
    · exact Or.inr (by decide)
    · exact Or.inr (by decide)
    · cases impossible
  · rintro c ⟨⟩
    unfold Special
    decide

/-- With a blank in front of the command, the password is echoed. -/
theorem echo_shows_password_behind_blank :
    ranBy ([space] ++ wifiPwdKeys ++ [space] ++ [120]) = some ⟨wifiPwdKeys, true⟩ ∧
    ranBy ([space] ++ wifiPwdKeys ++ [space] ++ [121]) = some ⟨wifiPwdKeys, true⟩ ∧
    echoOf ([space] ++ wifiPwdKeys ++ [space] ++ [120]) ≠ echoOf ([space] ++ wifiPwdKeys ++ [space] ++ [121]) := by
  decide +kernel

end Console
end DevKit
