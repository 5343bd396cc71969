import DevKit.Foundation.CString

namespace DevKit
namespace Web

/-!
# Fields of a url-encoded form

`httpd_get_tag_from_post_data` walks over `tag1=value1&tag2=value2` with one
cursor.  It decodes a key and compares it with the tag on the way, copies the
decoded value behind a key that matches, and goes on behind the next `&`.

A pointer into the body is the rest of the body from there on, and the outer
option of each result is undefined behaviour: a read behind the end of a
string or a write behind the end of the buffer.  Characters are unsigned, as
on the processor of the board.
-/

def ampersand : UInt8 := 38

def equals : UInt8 := 61

def percent : UInt8 := 37

def plus : UInt8 := 43

def space : UInt8 := 32

def char2nibble (c : UInt8) : Int :=
  if 48 ≤ c ∧ c ≤ 57 then c.toNat - 48
  else if 65 ≤ c ∧ c ≤ 70 then c.toNat - 65 + 10
  else if 97 ≤ c ∧ c ≤ 102 then c.toNat - 97 + 10
  else -1

/-- `(c1 << 4) | c2` for two nibbles. -/
def joinNibbles (c1 c2 : Int) : Nat :=
  c1.toNat * 16 + c2.toNat

/-- How the comparison of a key with the tag ends: the function returns, it
goes on behind the next `&`, or the key is the tag. -/
inductive Comparison where
  | ended
  | different (ptr : Bytes)
  | found (ptr : Bytes)
deriving Repr, DecidableEq

/-- The first loop of `httpd_parse_msgbody`. -/
def compareTag : Bytes -> Bytes -> Option Comparison
  | [], _ => none
  | c :: rest, tag =>
      if c = 0 then some .ended
      else if c = equals then
        match tag with
        | [] => none
        | t :: _ => if t ≠ 0 then some (.different (c :: rest)) else some (.found (c :: rest))
      else if c = percent then
        match rest with
        | d1 :: d2 :: rest =>
            if char2nibble d1 = -1 ∨ char2nibble d2 = -1 then some .ended
            else
              match tag with
              | [] => none
              | t :: tag =>
                  if t.toNat ≠ joinNibbles (char2nibble d1) (char2nibble d2) then some (.different rest)
                  else compareTag rest tag
        | _ => none
      else if c = plus then
        match tag with
        | [] => none
        | t :: tag => if t ≠ space then some (.different (c :: rest)) else compareTag rest tag
      else
        match tag with
        | [] => none
        | t :: tag => if t ≠ c then some (.different (c :: rest)) else compareTag rest tag

/-- How the copy of a value ends: the function returns, or the loop ends at an
index with the cursor at some place. -/
inductive Copy where
  | ended (val : Pointer)
  | stopped (index : Nat) (ptr : Bytes) (val : Pointer)
deriving Repr, DecidableEq

/-- The second loop of `httpd_parse_msgbody`. -/
def copyValue (limit : Int) : Bytes -> Nat -> Pointer -> Option Copy
  | [], index, val => if index < limit then none else some (.stopped index [] val)
  | c :: rest, index, val =>
      if index < limit then
        if c = ampersand ∨ c = 0 then (store val index [0]).map fun val => .stopped index (c :: rest) val
        else if c = percent then
          match rest with
          | d1 :: d2 :: rest =>
              if char2nibble d1 = -1 ∨ char2nibble d2 = -1 then some (.ended val)
              else (store val index [UInt8.ofNat (joinNibbles (char2nibble d1) (char2nibble d2))]).bind
                fun val => copyValue limit rest (index + 1) val
          | _ => none
        else if c = plus then (store val index [space]).bind fun val => copyValue limit rest (index + 1) val
        else (store val index [c]).bind fun val => copyValue limit rest (index + 1) val
      else some (.stopped index (c :: rest) val)

/-- What `httpd_parse_msgbody` returns, with `found` and the buffer afterwards. -/
structure Parsed where
  next : Pointer
  found : Bool
  val : Pointer
deriving Repr, DecidableEq

/-- The label `next_token`. -/
def nextToken (ptr : Bytes) (found : Bool) (val : Pointer) : Option Parsed :=
  (strchr ptr ampersand).map fun next => ⟨next.map List.tail, found, val⟩

/-- From the value of the tag on. -/
def parseValue (ptr : Bytes) (val : Pointer) (valLen : Nat) : Option Parsed :=
  (copyValue (castInt valLen) ptr 0 val).bind fun copy =>
    match copy with
    | .ended val => some ⟨none, true, val⟩
    | .stopped index ptr val =>
        if index = castInt valLen then
          (store val valLen [0]).bind fun val =>
            match ptr with
            | [] => none
            | c :: _ =>
                if c ≠ ampersand ∧ c ≠ 0 then (store val 0 [0]).map fun val => ⟨none, true, val⟩
                else nextToken ptr true val
        else nextToken ptr true val

def httpdParseMsgbody (data tag : Bytes) (val : Pointer) (valLen : Nat) : Option Parsed :=
  match data with
  | [] => none
  | first :: _ =>
      if first = 0 then some ⟨none, false, val⟩
      else
        (compareTag data tag).bind fun comparison =>
          match comparison with
          | .ended => some ⟨none, false, val⟩
          | .different ptr => nextToken ptr false val
          | .found ptr =>
              (strchr ptr equals).bind fun ptr =>
                match ptr with
                | none => some ⟨none, true, val⟩
                | some ptr => parseValue ptr.tail val valLen

/-! ## The cursor only moves forward -/

def Comparison.rest : Comparison -> Bytes
  | .ended => []
  | .different ptr => ptr
  | .found ptr => ptr

theorem compareTag_length {data tag : Bytes} {comparison : Comparison} (same : compareTag data tag = some comparison) :
    comparison.rest.length ≤ data.length := by
  fun_induction compareTag data tag
  case case9 inductionHypothesis =>
    exact (inductionHypothesis same).trans (Nat.le_add_right _ 3)
  case case13 inductionHypothesis | case16 inductionHypothesis =>
    exact (inductionHypothesis same).trans (Nat.le_succ _)
  all_goals cases same
  all_goals
    simp only [Comparison.rest, List.length_nil, List.length_cons]
    omega

def Copy.rest : Copy -> Bytes
  | .ended _ => []
  | .stopped _ ptr _ => ptr

theorem copyValue_length {limit : Int} {data : Bytes} {index : Nat} {val : Pointer} {copy : Copy}
    (same : copyValue limit data index val = some copy) : copy.rest.length ≤ data.length := by
  fun_induction copyValue limit data index val
  case case3 =>
    rcases Option.map_eq_some_iff.mp same with ⟨_, _, rfl⟩
    exact Nat.le_refl _
  case case5 inductionHypothesis =>
    rcases Option.bind_eq_some_iff.mp same with ⟨val, _, copied⟩
    exact (inductionHypothesis val copied).trans (Nat.le_add_right _ 3)
  case case7 inductionHypothesis | case8 inductionHypothesis =>
    rcases Option.bind_eq_some_iff.mp same with ⟨val, _, copied⟩
    exact (inductionHypothesis val copied).trans (Nat.le_succ _)
  all_goals cases same
  all_goals
    simp only [Copy.rest, List.length_nil, List.length_cons]
    omega

theorem nextToken_length {ptr rest : Bytes} {found : Bool} {val : Pointer} {parsed : Parsed}
    (same : nextToken ptr found val = some parsed) (next : parsed.next = some rest) : rest.length < ptr.length := by
  rcases Option.map_eq_some_iff.mp same with ⟨place, searched, rfl⟩
  rcases Option.map_eq_some_iff.mp next with ⟨token, rfl, rfl⟩
  rcases strchr_found searched with ⟨shorter, tail, rfl⟩
  exact shorter

theorem parseValue_length {ptr rest : Bytes} {val : Pointer} {valLen : Nat} {parsed : Parsed}
    (same : parseValue ptr val valLen = some parsed) (next : parsed.next = some rest) : rest.length < ptr.length := by
  rcases Option.bind_eq_some_iff.mp same with ⟨copy, copied, after⟩
  have shorter := copyValue_length copied
  cases copy with
  | ended val =>
      cases after
      cases next
  | stopped index place val =>
      dsimp only at after
      split at after
      · rcases Option.bind_eq_some_iff.mp after with ⟨val, _, after⟩
        cases place with
        | nil => cases after
        | cons c place =>
            dsimp only at after
            split at after
            · rcases Option.map_eq_some_iff.mp after with ⟨_, _, rfl⟩
              cases next
            · exact (nextToken_length after next).trans_le shorter
      · exact (nextToken_length after next).trans_le shorter

/-- Each call of the parser makes progress. -/
theorem httpdParseMsgbody_length {data tag rest : Bytes} {val : Pointer} {valLen : Nat} {parsed : Parsed}
    (same : httpdParseMsgbody data tag val valLen = some parsed) (next : parsed.next = some rest) :
    rest.length < data.length := by
  unfold httpdParseMsgbody at same
  cases data with
  | nil => cases same
  | cons first data =>
      dsimp only at same
      split at same
      · cases same
        cases next
      · rcases Option.bind_eq_some_iff.mp same with ⟨comparison, compared, after⟩
        have shorter := compareTag_length compared
        cases comparison with
        | ended =>
            cases after
            cases next
        | different ptr => exact (nextToken_length after next).trans_le shorter
        | found ptr =>
            rcases Option.bind_eq_some_iff.mp after with ⟨place, searched, after⟩
            cases place with
            | none =>
                cases after
                cases next
            | some place =>
                rcases strchr_found searched with ⟨again, tail, rfl⟩
                exact (parseValue_length after next).trans (Nat.lt_of_lt_of_le (Nat.lt_succ_self _) (again.trans shorter))

/-- `-kInProgressErr` -/
def inProgressErr : Int := -1

/-- The loop over the pairs: the code, and the buffer afterwards. -/
def parseAllTags (inbuf tag : Bytes) (val : Pointer) (valLen : Nat) : Option (Int × Pointer) :=
  match _known : httpdParseMsgbody inbuf tag val valLen with
  | none => none
  | some parsed =>
      match _more : parsed.next with
      | none => some (inProgressErr, parsed.val)
      | some rest => if parsed.found = true then some (0, parsed.val) else parseAllTags rest tag parsed.val valLen
termination_by inbuf.length
decreasing_by exact httpdParseMsgbody_length _known _more

theorem parseAllTags_eq {inbuf tag : Bytes} {val : Pointer} {valLen : Nat} {parsed : Parsed}
    (known : httpdParseMsgbody inbuf tag val valLen = some parsed) :
    parseAllTags inbuf tag val valLen =
      match parsed.next with
      | none => some (inProgressErr, parsed.val)
      | some rest =>
          if parsed.found = true then some (0, parsed.val) else parseAllTags rest tag parsed.val valLen := by
  rw [parseAllTags]
  split
  · rename_i absent
    rw [known] at absent
    cases absent
  · rename_i other same
    cases known.symm.trans same
    split
    · rename_i ended
      rw [ended]
    · rename_i rest more
      rw [more]

def httpdGetTagFromPostData (inbuf tag : Bytes) (val : Pointer) (valLen : Nat) : Option (Int × Pointer) :=
  if valLen ≤ 0 then some (inProgressErr, val)
  else (store val 0 [0]).bind fun val => parseAllTags inbuf tag val valLen

end Web
end DevKit
