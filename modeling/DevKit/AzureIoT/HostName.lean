import DevKit.Foundation.CString

namespace DevKit
namespace AzureIoT

/-!
# The host name in a connection string

A connection string is a sequence of pairs `key=value;`.  The function that looks for the
host name scans it once.  At every `=` that ends a key it compares eight characters from
the beginning of the key, and remembers whether they have ever been `HostName`.

A position in the string is what lies from there to the terminator, as for pointers, and
a read behind the terminator has no result.  A library may compare all eight characters
or stop at the first difference, and the heap may be empty; both are parameters.
-/

/-! ## The function -/

/-- Compare with a word, up to the first difference. -/
def sameBytes : (position word : Bytes) -> Option Bool
  | _, [] => some true
  | [], _ :: _ => none
  | byte :: position, letter :: word => if byte = letter then sameBytes position word else some false

/-- `memcmp(position, word, strlen(word)) == 0`; an eager library reads all of the bytes. -/
def memcmp (eager : Bool) (position word : Bytes) : Option Bool :=
  if eager = true ∧ position.length < word.length then none else sameBytes position word

/-- The loop over a value. -/
def valueEnd : (cur : Bytes) -> Option Bytes
  | [] => none
  | byte :: rest =>
    if byte > 0 then
      if byte = 59 then some (byte :: rest) else valueEnd rest
    else some (byte :: rest)

/-- `malloc(size + 1)`, the copy of a value and its terminator. -/
def copyValue (granted : Bool) (start : Bytes) (size : Nat) : Option Bytes :=
  if granted = true then some (start.take size ++ [0]) else none

/-- The loop over the string, with a bound on its turns. -/
def scan (eager granted : Bool) : (turns : Nat) -> (start cur : Bytes) -> (find : Bool) -> Option Pointer
  | 0, _, _, _ => none
  | _ + 1, _, [], _ => none
  | turns + 1, start, byte :: rest, find =>
    if byte > 0 then
      if byte = 61 then do
        let same <- memcmp eager start (literal "HostName")
        let find := find || same
        let start := rest
        let cur <- valueEnd rest
        if find = true ∧ start.length - cur.length > 0 then
          (copyValue granted start (start.length - cur.length)).map some
        else scan eager granted turns (cur.drop 1) (cur.drop 1) find
      else scan eager granted turns start rest find
    else some none

/-- `GetHostNameFromConnectionString` -/
def getHostNameFromConnectionString (eager granted : Bool) : (connectionString : Pointer) -> Option Pointer
  | none => some none
  | some connectionString =>
    scan eager granted (connectionString.length + 1) connectionString connectionString false

/-! ## Connection strings -/

/-- A pair of a connection string. -/
structure Pair where
  key : Bytes
  value : Bytes
  plain_key : 0 ∉ key ∧ 61 ∉ key ∧ 59 ∉ key
  plain_value : 0 ∉ value ∧ 59 ∉ value

/-- The text of some pairs, with or without a semicolon behind the last one. -/
def render (closed : Bool) : List Pair -> Bytes
  | [] => []
  | pair :: pairs =>
    pair.key ++ 61 :: (pair.value ++ if pairs.isEmpty && !closed then [] else 59 :: render closed pairs)

/-- The host name of a connection string: the value of the first pair with that key, unless it is empty. -/
def hostName (pairs : List Pair) : Option Bytes :=
  ((pairs.find? fun pair => pair.key == literal "HostName").map Pair.value).filter fun value => value != []

/-- The first pair with a value, from the first key on that begins with the word. -/
def found (find : Bool) (pairs : List Pair) : Option Pair :=
  (if find = true then pairs
    else pairs.dropWhile fun pair => !(literal "HostName").isPrefixOf pair.key).find? fun pair => pair.value != []

/-- There are enough characters behind every key that is compared. -/
def Long (closed find : Bool) (pairs : List Pair) : Prop :=
  forall before pair after, pairs = before ++ pair :: after -> found find before = none ->
    7 ≤ (render closed (pair :: after)).length

/-- The scan finds the host name. -/
structure Extractable (eager granted closed : Bool) (pairs : List Pair) : Prop where
  /-- What it takes for the host name is the host name. -/
  right : forall pair, found false pairs = some pair -> hostName pairs = some pair.value ∧ granted = true
  /-- It does not come to the end of a value at the end of the string. -/
  ended : found false pairs = none -> pairs = [] ∨ closed = true
  /-- Behind every key that it compares there are enough characters. -/
  long : eager = true -> Long closed false pairs

/-! ## The scan over the pairs -/

section Scan

variable {eager granted closed find : Bool}

/-- The scan, pair by pair. -/
def walk (eager granted closed : Bool) : Bool -> List Pair -> Option Pointer
  | _, [] => some none
  | find, pair :: pairs =>
    if eager = true ∧ (render closed (pair :: pairs)).length < 7 then none
    else if (find || (literal "HostName").isPrefixOf pair.key) = true ∧ pair.value ≠ [] then
      if granted = true then some (some (pair.value ++ [0])) else none
    else if pairs = [] ∧ closed = false then none
    else walk eager granted closed (find || (literal "HostName").isPrefixOf pair.key) pairs

/-- A key is compared up to its end at most. -/
theorem sameBytes_key {word key : Bytes} (plain : 61 ∉ word) (more : Bytes) :
    sameBytes (key ++ 61 :: more) word = some (word.isPrefixOf key) := by
  induction word generalizing key with
  | nil => simp [sameBytes]
  | cons letter word inductionHypothesis =>
      rw [List.mem_cons, not_or] at plain
      cases key with
      | nil => simp [sameBytes, plain.1]
      | cons byte key =>
          rw [List.cons_append, sameBytes, inductionHypothesis plain.2]
          by_cases same : byte = letter
          · simp [same]
          · simp [same, List.isPrefixOf, Ne.symm same]

/-- The characters of a key are passed over. -/
theorem scan_key {key : Bytes} (plain : 0 ∉ key ∧ 61 ∉ key) (turns : Nat) (start more : Bytes) :
    scan eager granted (turns + key.length) start (key ++ more) find = scan eager granted turns start more find := by
  induction key with
  | nil => rfl
  | cons byte key inductionHypothesis =>
      simp only [List.mem_cons, not_or] at plain
      have positive : byte > 0 := UInt8.pos_iff_ne_zero.mpr (Ne.symm plain.1.1)
      rw [List.length_cons, ← Nat.add_assoc, List.cons_append, scan, if_pos positive, if_neg (Ne.symm plain.2.1)]
      exact inductionHypothesis ⟨plain.1.2, plain.2.2⟩

/-- A value ends at a semicolon or at the terminator. -/
theorem valueEnd_value {value : Bytes} (plain : 0 ∉ value ∧ 59 ∉ value) {byte : UInt8} (ends : byte = 0 ∨ byte = 59)
    (more : Bytes) : valueEnd (value ++ byte :: more) = some (byte :: more) := by
  induction value with
  | nil => rcases ends with rfl | rfl <;> simp [valueEnd]
  | cons letter value inductionHypothesis =>
      simp only [List.mem_cons, not_or] at plain
      have positive : letter > 0 := UInt8.pos_iff_ne_zero.mpr (Ne.symm plain.1.1)
      rw [List.cons_append, valueEnd, if_pos positive, if_neg (Ne.symm plain.2.1)]
      exact inductionHypothesis ⟨plain.1.2, plain.2.2⟩

theorem scan_outside (turns : Nat) (start : Bytes) : scan eager granted turns start [] find = none := by
  cases turns <;> rfl

/-- The end of a key and the value behind it. -/
theorem scan_value (pair : Pair) {byte : UInt8} (ends : byte = 0 ∨ byte = 59) (turns : Nat) (more : Bytes) :
    scan eager granted (turns + 1) (pair.key ++ 61 :: (pair.value ++ byte :: more))
        (61 :: (pair.value ++ byte :: more)) find =
      if eager = true ∧ (pair.key ++ 61 :: (pair.value ++ byte :: more)).length < 8 then none
      else if (find || (literal "HostName").isPrefixOf pair.key) = true ∧ pair.value ≠ [] then
        if granted = true then some (some (pair.value ++ [0])) else none
      else scan eager granted turns more more (find || (literal "HostName").isPrefixOf pair.key) := by
  have size : (pair.value ++ byte :: more).length - (byte :: more).length = pair.value.length := by
    rw [List.length_append, Nat.add_sub_cancel]
  have copied : (pair.value ++ byte :: more).take pair.value.length = pair.value := List.take_left
  rw [scan, if_pos (by decide), if_pos rfl, memcmp]
  by_cases short : eager = true ∧ (pair.key ++ 61 :: (pair.value ++ byte :: more)).length < 8
  · rw [if_pos short, if_pos (by simpa [literal] using short)]
    rfl
  · rw [if_neg short, if_neg (by simpa [literal] using short), sameBytes_key (by decide)]
    simp only [Option.bind_eq_bind, Option.bind_some, valueEnd_value pair.plain_value ends, size, copied, copyValue,
      List.drop_one, List.tail_cons, gt_iff_lt, List.length_pos_iff]
    split
    · split <;> rfl
    · rfl

/-- The scan goes over the pairs. -/
theorem scan_pairs (pairs : List Pair) {turns : Nat} (enough : (render closed pairs ++ [0]).length < turns) :
    scan eager granted turns (render closed pairs ++ [0]) (render closed pairs ++ [0]) find =
      walk eager granted closed find pairs := by
  induction pairs generalizing turns find with
  | nil =>
      cases turns with
      | zero => cases enough
      | succ turns => rfl
  | cons pair pairs inductionHypothesis =>
      -- The character behind the value, and what follows it.
      have tail : exists byte more, (byte = 0 ∨ byte = 59) ∧
          render closed (pair :: pairs) ++ [0] = pair.key ++ 61 :: (pair.value ++ byte :: more) ∧
          (if pairs = [] ∧ closed = false then more = [] else more = render closed pairs ++ [0]) := by
        by_cases last : pairs = [] ∧ closed = false
        · refine ⟨0, [], Or.inl rfl, ?_, by rw [if_pos last]⟩
          simp [render, last]
        · refine ⟨59, render closed pairs ++ [0], Or.inr rfl, ?_, by rw [if_neg last]⟩
          have more : ¬ (pairs.isEmpty && !closed) = true := by simpa using last
          rw [render, if_neg more]
          simp
      rcases tail with ⟨byte, more, ends, text, following⟩
      have length : (render closed (pair :: pairs)).length < 7 <->
          (pair.key ++ 61 :: (pair.value ++ byte :: more)).length < 8 := by
        rw [← text, List.length_append, List.length_singleton]
        omega
      have size : (render closed (pair :: pairs) ++ [0]).length =
          pair.key.length + (pair.value.length + more.length + 2) := by
        rw [text]
        simp
        omega
      obtain ⟨left, rfl⟩ : exists left, turns = left + 1 + pair.key.length := ⟨turns - pair.key.length - 1, by omega⟩
      rw [walk]
      simp only [length]
      rw [text, scan_key ⟨pair.plain_key.1, pair.plain_key.2.1⟩, scan_value pair ends]
      by_cases last : pairs = [] ∧ closed = false
      · rw [if_pos last] at following
        rw [if_pos last, following, scan_outside]
      · rw [if_neg last] at following
        rw [if_neg last, following, inductionHypothesis]
        rw [← following]
        omega

theorem found_cons (find : Bool) (pair : Pair) (pairs : List Pair) :
    found find (pair :: pairs) =
      if (find || (literal "HostName").isPrefixOf pair.key) = true ∧ pair.value ≠ [] then some pair
      else found (find || (literal "HostName").isPrefixOf pair.key) pairs := by
  cases find with
  | true => by_cases empty : pair.value = [] <;> simp [found, empty]
  | false =>
      cases begins : (literal "HostName").isPrefixOf pair.key with
      | true => by_cases empty : pair.value = [] <;> simp [found, begins, empty]
      | false => simp [found, begins]

theorem long_cons {pair : Pair} {pairs : List Pair} :
    Long closed find (pair :: pairs) <->
      7 ≤ (render closed (pair :: pairs)).length ∧
        (¬ ((find || (literal "HostName").isPrefixOf pair.key) = true ∧ pair.value ≠ []) ->
          Long closed (find || (literal "HostName").isPrefixOf pair.key) pairs) := by
  constructor
  · intro long
    refine ⟨long [] pair pairs rfl (by simp [found]), ?_⟩
    intro passed before next after split nothing
    apply long (pair :: before) next after (by rw [split, List.cons_append])
    rw [found_cons, if_neg passed]
    exact nothing
  · rintro ⟨first, later⟩ before next after split nothing
    cases before with
    | nil =>
        cases split
        exact first
    | cons other before =>
        cases split
        rw [found_cons] at nothing
        by_cases passed : (find || (literal "HostName").isPrefixOf pair.key) = true ∧ pair.value ≠ []
        · rw [if_pos passed] at nothing
          cases nothing
        · rw [if_neg passed] at nothing
          exact later passed before next after rfl nothing

/-- What the scan returns. -/
theorem walk_eq_some_iff (pairs : List Pair) (outcome : Pointer) :
    walk eager granted closed find pairs = some outcome <->
      (eager = true -> Long closed find pairs) ∧
        ((exists pair, found find pairs = some pair ∧ granted = true ∧ outcome = some (pair.value ++ [0])) ∨
          (found find pairs = none ∧ (pairs = [] ∨ closed = true) ∧ outcome = none)) := by
  induction pairs generalizing find with
  | nil =>
      have long : Long closed find [] := by
        intro before pair after split
        cases before <;> cases split
      have nothing : found find [] = none := by simp [found]
      simp [walk, long, nothing, eq_comm]
  | cons pair pairs inductionHypothesis =>
      rw [walk, found_cons, long_cons]
      by_cases short : eager = true ∧ (render closed (pair :: pairs)).length < 7
      · rw [if_pos short]
        constructor
        · intro impossible
          cases impossible
        · rintro ⟨long, -⟩
          exact absurd (long short.1).1 (Nat.not_le.mpr short.2)
      · have enough : eager = true -> 7 ≤ (render closed (pair :: pairs)).length := by
          intro reads
          by_contra less
          exact short ⟨reads, Nat.not_le.mp less⟩
        rw [if_neg short]
        by_cases taken : (find || (literal "HostName").isPrefixOf pair.key) = true ∧ pair.value ≠ []
        · simp only [if_pos taken]
          have long : eager = true -> 7 ≤ (render closed (pair :: pairs)).length ∧
              (¬ ((find || (literal "HostName").isPrefixOf pair.key) = true ∧ pair.value ≠ []) ->
                Long closed (find || (literal "HostName").isPrefixOf pair.key) pairs) :=
            fun reads => ⟨enough reads, fun passed => absurd taken passed⟩
          have copy : (if granted = true then some (some (pair.value ++ [0])) else none) = some outcome <->
              granted = true ∧ outcome = some (pair.value ++ [0]) := by
            cases granted with
            | false => simp
            | true => simpa using eq_comm
          rw [copy]
          constructor
          · intro copied
            exact ⟨long, Or.inl ⟨pair, rfl, copied⟩⟩
          · rintro ⟨-, ⟨other, same, copied⟩ | ⟨impossible, -⟩⟩
            · cases same
              exact copied
            · cases impossible
        · simp only [if_neg taken]
          by_cases last : pairs = [] ∧ closed = false
          · rw [if_pos last]
            simp [last, found]
          · have closing : pairs = [] ∨ closed = true <-> closed = true := by
              refine ⟨fun either => ?_, Or.inr⟩
              rcases either with empty | semicolon
              · simpa [empty] using last
              · exact semicolon
            have long : (eager = true -> 7 ≤ (render closed (pair :: pairs)).length ∧
                (¬ ((find || (literal "HostName").isPrefixOf pair.key) = true ∧ pair.value ≠ []) ->
                  Long closed (find || (literal "HostName").isPrefixOf pair.key) pairs)) <->
                (eager = true -> Long closed (find || (literal "HostName").isPrefixOf pair.key) pairs) :=
              ⟨fun long reads => (long reads).2 taken, fun long reads => ⟨enough reads, fun _ => long reads⟩⟩
            rw [if_neg last, inductionHypothesis, closing, long]
            simp

/-- The host name is one of the values that may be found. -/
theorem found_of_hostName {pairs : List Pair} {value : Bytes} (known : hostName pairs = some value) (find : Bool) :
    found find pairs ≠ none := by
  induction pairs generalizing find with
  | nil => simp [hostName] at known
  | cons pair pairs inductionHypothesis =>
      rw [found_cons]
      by_cases taken : (find || (literal "HostName").isPrefixOf pair.key) = true ∧ pair.value ≠ []
      · rw [if_pos taken]
        exact Option.some_ne_none pair
      · rw [if_neg taken]
        apply inductionHypothesis
        rw [← known]
        by_cases exact' : pair.key = literal "HostName"
        · have begins : (literal "HostName").isPrefixOf pair.key = true := by
            rw [exact']
            decide
          have empty : pair.value = [] := by simpa [begins] using taken
          simp [hostName, exact', empty] at known
        · simp [hostName, exact']

/-- When the host name of a connection string is found. -/
theorem host_name_iff (eager granted closed : Bool) (pairs : List Pair) :
    getHostNameFromConnectionString eager granted (some (render closed pairs ++ [0])) =
        some ((hostName pairs).map fun value => value ++ [0]) <->
      Extractable eager granted closed pairs := by
  rw [getHostNameFromConnectionString, scan_pairs pairs (Nat.lt_succ_self _), walk_eq_some_iff]
  constructor
  · rintro ⟨long, ⟨pair, known, allocated, copy⟩ | ⟨nothing, ending, -⟩⟩
    · refine ⟨fun other same => ?_, fun nothing => ?_, long⟩
      · rw [known] at same
        cases same
        refine ⟨?_, allocated⟩
        rcases Option.map_eq_some_iff.mp copy with ⟨value, host, same⟩
        rw [host, List.append_cancel_right same]
      · rw [known] at nothing
        cases nothing
    · refine ⟨fun pair known => ?_, fun _ => ending, long⟩
      rw [nothing] at known
      cases known
  · rintro ⟨right, ending, long⟩
    refine ⟨long, ?_⟩
    cases known : found false pairs with
    | some pair =>
        rcases right pair known with ⟨host, allocated⟩
        exact Or.inl ⟨pair, rfl, allocated, by rw [host, Option.map_some]⟩
    | none =>
        refine Or.inr ⟨rfl, ending known, ?_⟩
        cases host : hostName pairs with
        | none => rfl
        | some value => exact absurd known (found_of_hostName host false)

/-- A connection string as the service issues it. -/
theorem host_name_of_device :
    Extractable true true false
      [⟨literal "HostName", literal "hub.example", by decide, by decide⟩,
        ⟨literal "DeviceId", literal "board", by decide, by decide⟩] :=
  (host_name_iff _ _ _ _).mp (by decide +kernel)

/-- An empty host name lets the next value pass for it, a key may only begin with the word, and without a host name
the string is read behind its terminator. -/
theorem host_name_mistaken :
    getHostNameFromConnectionString false true (some (literal "HostName=;DeviceId=board" ++ [0])) =
        some (some (literal "board" ++ [0])) ∧
      getHostNameFromConnectionString false true (some (literal "HostNameSuffix=a;HostName=b" ++ [0])) =
        some (some (literal "a" ++ [0])) ∧
      getHostNameFromConnectionString false true (some (literal "DeviceId=board" ++ [0])) = none := by
  decide +kernel

end Scan

end AzureIoT
end DevKit
