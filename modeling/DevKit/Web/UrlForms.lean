import DevKit.Web.UrlEncoded

namespace DevKit
namespace Web

/-!
# The lookup on well-formed forms

A form is a list of pairs, each with one of the many ways to write it.  The
comparison of keys and the copy of values are followed along `Encodes`, one
written byte after the other, and the loop over the pairs along the list.

The parser reports a pair together with the place behind the next `&`, and
the loop takes a missing place for a failure.  So the last pair of a form is
never found (`httpdGetTagFromPostData_correct_iff`).
-/

/-- Ways to write a text: bytes that stand for themselves, `+` for a space, and
`%` with two hexadecimal digits of either case.  Reserved bytes do not stand
for themselves. -/
inductive Encodes (reserved : List UInt8) : Bytes -> Bytes -> Prop where
  | nil : Encodes reserved [] []
  | literal {byte : UInt8} {text wire : Bytes} (plain : byte ∉ reserved) (rest : Encodes reserved text wire) :
      Encodes reserved (byte :: text) (byte :: wire)
  | plus {text wire : Bytes} (rest : Encodes reserved text wire) : Encodes reserved (space :: text) (plus :: wire)
  | escape {byte high low : UInt8} {text wire : Bytes} (plain : byte ≠ 0)
      (first : char2nibble high = (byte.toNat / 16 : Nat)) (second : char2nibble low = (byte.toNat % 16 : Nat))
      (rest : Encodes reserved text wire) : Encodes reserved (byte :: text) (percent :: high :: low :: wire)

def valueReserved : List UInt8 := [0, ampersand, percent, plus]

def keyReserved : List UInt8 := equals :: valueReserved

/-- A pair with one way to write it. -/
structure Field where
  key : Bytes
  value : Bytes
  keyWire : Bytes
  valueWire : Bytes
  encodesKey : Encodes keyReserved key keyWire
  encodesValue : Encodes valueReserved value valueWire

def Field.wire (field : Field) : Bytes :=
  field.keyWire ++ equals :: field.valueWire

/-- The form with its terminator. -/
def formBody : List Field -> Bytes
  | [] => [0]
  | [field] => field.wire ++ [0]
  | field :: next :: fields => field.wire ++ ampersand :: formBody (next :: fields)

section Encoding

variable {reserved : List UInt8} {text wire : Bytes}

theorem char2nibble_digit {digit : UInt8} {value : Nat} (known : char2nibble digit = value) :
    digit ≠ ampersand ∧ digit ≠ 0 := by
  constructor
  · rintro rfl
    cases known
  · rintro rfl
    cases known

/-- Neither a separator nor a terminator is written. -/
theorem Encodes.clean (encodes : Encodes reserved text wire) (separators : ampersand ∈ reserved ∧ 0 ∈ reserved) :
    forall byte, byte ∈ wire -> byte ≠ ampersand ∧ byte ≠ 0 := by
  induction encodes with
  | nil => exact fun _ impossible => (nomatch impossible)
  | literal plain _ inductionHypothesis =>
      refine List.forall_mem_cons.mpr ⟨⟨?_, ?_⟩, inductionHypothesis⟩
      · rintro rfl
        exact plain separators.1
      · rintro rfl
        exact plain separators.2
  | plus _ inductionHypothesis => exact List.forall_mem_cons.mpr ⟨by decide, inductionHypothesis⟩
  | escape _ first second _ inductionHypothesis =>
      refine List.forall_mem_cons.mpr ⟨by decide, List.forall_mem_cons.mpr ⟨char2nibble_digit first, ?_⟩⟩
      exact List.forall_mem_cons.mpr ⟨char2nibble_digit second, inductionHypothesis⟩

theorem joinNibbles_digits {byte : UInt8} {c1 c2 : Int} (first : c1 = (byte.toNat / 16 : Nat))
    (second : c2 = (byte.toNat % 16 : Nat)) : joinNibbles c1 c2 = byte.toNat := by
  rw [joinNibbles, first, second, Int.toNat_natCast, Int.toNat_natCast]
  omega

theorem nibble_ne {digit : UInt8} {value : Nat} (known : char2nibble digit = value) : char2nibble digit ≠ -1 := by
  rw [known]
  omega

end Encoding

/-! ## Keys -/

theorem compareTag_equals (rest : Bytes) (t : UInt8) (tag : Bytes) :
    compareTag (equals :: rest) (t :: tag) =
      if t ≠ 0 then some (.different (equals :: rest)) else some (.found (equals :: rest)) := by
  unfold compareTag
  rw [if_neg (by decide), if_pos rfl]

theorem compareTag_plus (rest : Bytes) (t : UInt8) (tag : Bytes) :
    compareTag (plus :: rest) (t :: tag) =
      if t ≠ space then some (.different (plus :: rest)) else compareTag rest tag := by
  conv_lhs => unfold compareTag
  rw [if_neg (by decide), if_neg (by decide), if_neg (by decide), if_pos rfl]

theorem compareTag_escape {d1 d2 : UInt8} (first : char2nibble d1 ≠ -1) (second : char2nibble d2 ≠ -1) (rest : Bytes)
    (t : UInt8) (tag : Bytes) :
    compareTag (percent :: d1 :: d2 :: rest) (t :: tag) =
      if t.toNat ≠ joinNibbles (char2nibble d1) (char2nibble d2) then some (.different rest)
      else compareTag rest tag := by
  conv_lhs => unfold compareTag
  rw [if_neg (by decide), if_neg (by decide), if_pos rfl]
  dsimp only
  rw [if_neg (not_or.mpr ⟨first, second⟩)]

theorem compareTag_literal {c : UInt8} (plain : c ∉ keyReserved) (rest : Bytes) (t : UInt8) (tag : Bytes) :
    compareTag (c :: rest) (t :: tag) =
      if t ≠ c then some (.different (c :: rest)) else compareTag rest tag := by
  conv_lhs => unfold compareTag
  simp only [keyReserved, valueReserved, List.mem_cons, not_or] at plain
  rcases plain with ⟨notEquals, notZero, _, notPercent, notPlus, _⟩
  rw [if_neg notZero, if_neg notEquals, if_neg notPercent, if_neg notPlus]

/-- The comparison of a written key with a tag, when something follows the key.
Where they differ, the cursor is still in front of the next separator. -/
def Compares (key wire rest tag : Bytes) : Prop :=
  (key = tag -> compareTag (wire ++ equals :: rest) (tag ++ [0]) = some (.found (equals :: rest))) ∧
  (key ≠ tag -> exists front, front <:+ wire ∧
    compareTag (wire ++ equals :: rest) (tag ++ [0]) = some (.different (front ++ equals :: rest)))

/-- One more byte in front, however it is written. -/
theorem Compares.cons {byte : UInt8} {text wire rest front whole : Bytes} (nonzero : byte ≠ 0)
    (inside : front <:+ whole) (shorter : wire <:+ whole)
    (step : forall t tag, compareTag (whole ++ equals :: rest) (t :: tag) =
      if t ≠ byte then some (.different (front ++ equals :: rest)) else compareTag (wire ++ equals :: rest) tag)
    (compares : forall tag, 0 ∉ tag -> Compares text wire rest tag) (tag : Bytes) (plain : 0 ∉ tag) :
    Compares (byte :: text) whole rest tag := by
  cases tag with
  | nil =>
      refine ⟨fun impossible => (nomatch impossible), fun _ => ⟨front, inside, ?_⟩⟩
      rw [List.nil_append, step, if_pos nonzero.symm]
  | cons t tag =>
      rcases compares tag (fun zero => plain (List.mem_cons_of_mem _ zero)) with ⟨equal, unequal⟩
      rw [Compares, List.cons_append, step]
      by_cases same : t = byte
      · subst same
        rw [if_neg (not_not.mpr rfl)]
        refine ⟨fun both => equal (List.cons.inj both).2, fun different => ?_⟩
        rcases unequal fun both => different (congrArg (t :: ·) both) with ⟨other, ends, found⟩
        exact ⟨other, ends.trans shorter, found⟩
      · rw [if_pos same]
        exact ⟨fun both => absurd (List.cons.inj both).1.symm same, fun _ => ⟨front, inside, rfl⟩⟩

theorem compareTag_key {key wire : Bytes} (encodes : Encodes keyReserved key wire) (rest tag : Bytes)
    (plain : 0 ∉ tag) : Compares key wire rest tag := by
  induction encodes generalizing tag with
  | nil =>
      rw [Compares, List.nil_append]
      cases tag with
      | nil =>
          refine ⟨fun _ => ?_, fun different => absurd rfl different⟩
          rw [List.nil_append, compareTag_equals]
          rfl
      | cons t tag =>
          have nonzero : t ≠ 0 := fun zero => plain (zero ▸ List.mem_cons_self)
          refine ⟨fun impossible => (nomatch impossible), fun _ => ⟨[], List.suffix_refl _, ?_⟩⟩
          rw [List.cons_append, compareTag_equals, if_pos nonzero, List.nil_append]
  | @literal byte text wire unreserved _ inductionHypothesis =>
      refine Compares.cons ?_ (List.suffix_refl _) (List.suffix_cons _ _) (fun t tag => ?_) inductionHypothesis tag plain
      · rintro rfl
        exact unreserved (by decide)
      · rw [List.cons_append, compareTag_literal unreserved]
  | @plus text wire _ inductionHypothesis =>
      refine Compares.cons (by decide) (List.suffix_refl _) (List.suffix_cons _ _) (fun t tag => ?_) inductionHypothesis
        tag plain
      rw [List.cons_append, compareTag_plus]
  | @escape byte high low text wire nonzero first second _ inductionHypothesis =>
      have ending : wire <:+ percent :: high :: low :: wire := ⟨[percent, high, low], rfl⟩
      refine Compares.cons nonzero ending ending (fun t tag => ?_) inductionHypothesis tag plain
      rw [List.cons_append, List.cons_append, List.cons_append,
        compareTag_escape (nibble_ne first) (nibble_ne second), joinNibbles_digits first second]
      simp only [ne_eq, UInt8.toNat_inj]

/-! ## Values -/

section Values

variable {limit : Int}

/-- One byte of a value is copied, however it is written. -/
theorem copyValue_cons (limit : Int) {byte : UInt8} {text wire : Bytes}
    (encodes : Encodes valueReserved (byte :: text) wire) :
    exists next, Encodes valueReserved text next ∧ forall rest (index : Nat) val, index < limit ->
      copyValue limit (wire ++ rest) index val =
        (store val index [byte]).bind fun val => copyValue limit (next ++ rest) (index + 1) val := by
  cases encodes with
  | @literal _ _ wire plain encodes =>
      refine ⟨wire, encodes, fun rest index val small => ?_⟩
      simp only [valueReserved, List.mem_cons, not_or] at plain
      rcases plain with ⟨notZero, notAmpersand, notPercent, notPlus, _⟩
      rw [List.cons_append]
      conv_lhs => unfold copyValue
      rw [if_pos small, if_neg (not_or.mpr ⟨notAmpersand, notZero⟩), if_neg notPercent, if_neg notPlus]
  | @plus _ wire encodes =>
      refine ⟨wire, encodes, fun rest index val small => ?_⟩
      rw [List.cons_append]
      conv_lhs => unfold copyValue
      rw [if_pos small, if_neg (by decide), if_neg (by decide), if_pos rfl]
  | @escape _ high low _ wire nonzero first second encodes =>
      refine ⟨wire, encodes, fun rest index val small => ?_⟩
      rw [List.cons_append, List.cons_append, List.cons_append]
      conv_lhs => unfold copyValue
      rw [if_pos small, if_neg (by decide), if_pos rfl]
      dsimp only
      rw [if_neg (not_or.mpr ⟨nibble_ne first, nibble_ne second⟩), joinNibbles_digits first second, UInt8.ofNat_toNat]

/-- The copy of a value for which there is room. -/
theorem copyValue_fits {text wire : Bytes} (encodes : Encodes valueReserved text wire) {stop : UInt8}
    (stops : stop = ampersand ∨ stop = 0) (rest : Bytes) (index : Nat) (region : Bytes)
    (small : (index + text.length : Nat) < limit) (room : index + text.length < region.length) :
    copyValue limit (wire ++ stop :: rest) index (some region) =
      some (.stopped (index + text.length) (stop :: rest) (some (splice region index (text ++ [0])))) := by
  induction text generalizing wire index region with
  | nil =>
      cases encodes
      rw [List.length_nil, Nat.add_zero] at small room
      rw [List.nil_append, List.nil_append]
      conv_lhs => unfold copyValue
      rw [if_pos small, if_pos stops, store_some room]
      rfl
  | cons byte text inductionHypothesis =>
      rw [List.length_cons] at small room
      rcases copyValue_cons limit encodes with ⟨next, encodes, step⟩
      have written : index + [byte].length ≤ region.length := by
        rw [List.length_singleton]
        omega
      rw [step _ _ _ (by omega), store_some written, Option.bind_some,
        inductionHypothesis encodes (index + 1) _ (by omega) (by rw [length_splice written]; omega)]
      have joined : splice (splice region index [byte]) (index + 1) (text ++ [0]) =
          splice region index ([byte] ++ (text ++ [0])) := splice_splice written
      rw [joined, List.length_cons, Nat.add_assoc, Nat.add_comm 1]
      rfl

/-- The copy of a value that fills the room. -/
theorem copyValue_fills (limit : Int) {text wire : Bytes} (encodes : Encodes valueReserved text wire) (stop : UInt8)
    (rest : Bytes) (index : Nat) (region : Bytes) (full : (index + text.length : Nat) = limit)
    (room : index + text.length ≤ region.length) :
    copyValue limit (wire ++ stop :: rest) index (some region) =
      some (.stopped (index + text.length) (stop :: rest) (some (splice region index text))) := by
  induction text generalizing wire index region with
  | nil =>
      cases encodes
      rw [List.nil_append]
      conv_lhs => unfold copyValue
      rw [if_neg (by rw [← full]; exact Int.lt_irrefl _)]
      rw [splice, List.append_nil, List.length_nil, Nat.add_zero, List.take_append_drop]
  | cons byte text inductionHypothesis =>
      rw [List.length_cons] at full room
      rcases copyValue_cons limit encodes with ⟨next, encodes, step⟩
      have written : index + [byte].length ≤ region.length := by
        rw [List.length_singleton]
        omega
      rw [step _ _ _ (by omega), store_some written, Option.bind_some,
        inductionHypothesis encodes (index + 1) _ (by omega) (by rw [length_splice written]; omega)]
      have joined : splice (splice region index [byte]) (index + 1) text = splice region index ([byte] ++ text) :=
        splice_splice written
      rw [joined, List.length_cons, Nat.add_assoc, Nat.add_comm 1]
      rfl

/-- A byte of a value is written with a first byte that does not end the value. -/
theorem Encodes.first {byte : UInt8} {text wire : Bytes} (encodes : Encodes valueReserved (byte :: text) wire) :
    exists first after, wire = first :: after ∧ first ≠ ampersand ∧ first ≠ 0 := by
  have clean := encodes.clean (by decide)
  cases encodes with
  | literal => exact ⟨_, _, rfl, clean _ List.mem_cons_self⟩
  | plus => exact ⟨_, _, rfl, clean _ List.mem_cons_self⟩
  | escape => exact ⟨_, _, rfl, clean _ List.mem_cons_self⟩

/-- The copy of a value for which there is not enough room stops inside the value. -/
theorem copyValue_overflows (limit : Int) {text wire : Bytes} (encodes : Encodes valueReserved text wire)
    (rest : Bytes) (index : Nat) (region : Bytes) (much : limit < (index + text.length : Nat)) (start : index ≤ limit)
    (room : limit ≤ region.length) :
    exists ptr filled, copyValue limit (wire ++ rest) index (some region) =
      some (.stopped limit.toNat ptr (some filled)) ∧ filled.length = region.length ∧
      exists first after, ptr = first :: after ∧ first ≠ ampersand ∧ first ≠ 0 := by
  induction text generalizing wire index region with
  | nil =>
      rw [List.length_nil, Nat.add_zero] at much
      omega
  | cons byte text inductionHypothesis =>
      rw [List.length_cons] at much
      by_cases small : index < limit
      · rcases copyValue_cons limit encodes with ⟨next, encodes, step⟩
        have written : index + [byte].length ≤ region.length := by
          rw [List.length_singleton]
          omega
        have length := length_splice written
        rcases inductionHypothesis encodes (index + 1) (splice region index [byte]) (by omega) (by omega) (by omega) with
          ⟨ptr, filled, copied, same, inside⟩
        refine ⟨ptr, filled, ?_, same.trans length, inside⟩
        rw [step _ _ _ small, store_some written, Option.bind_some, copied]
      · rcases encodes.first with ⟨first, after, rfl, inside⟩
        refine ⟨first :: after ++ rest, region, ?_, rfl, first, after ++ rest, rfl, inside⟩
        rw [List.cons_append]
        conv_lhs => unfold copyValue
        rw [if_neg small]
        congr 2
        omega

end Values

/-! ## Pairs -/

/-- What follows a pair: the next pairs behind a separator, or the terminator. -/
def ending : Pointer -> Bytes
  | none => [0]
  | some rest => ampersand :: rest

/-- The pairs behind a pair. -/
def following (fields : List Field) : Pointer :=
  if fields.isEmpty = true then none else some (formBody fields)

theorem formBody_cons (field : Field) (fields : List Field) :
    formBody (field :: fields) = field.wire ++ ending (following fields) := by
  cases fields with
  | nil => rfl
  | cons next fields => rfl

theorem nextToken_ending (front : Bytes) (clean : forall byte, byte ∈ front -> byte ≠ ampersand ∧ byte ≠ 0)
    (more : Pointer) (found : Bool) (val : Pointer) :
    nextToken (front ++ ending more) found val = some ⟨more, found, val⟩ := by
  rw [nextToken, strchr_append clean]
  cases more with
  | none => rfl
  | some rest =>
      rw [ending, strchr, if_pos rfl]
      rfl

theorem ending_stop (more : Pointer) : exists stop rest, ending more = stop :: rest ∧ (stop = ampersand ∨ stop = 0) := by
  cases more with
  | none => exact ⟨0, [], rfl, Or.inr rfl⟩
  | some rest => exact ⟨ampersand, rest, rfl, Or.inl rfl⟩

section Pairs

variable (field : Field) (more : Pointer) {region : Bytes} {valLen : Nat}

/-- A value that fits is copied with a terminator. -/
theorem parseValue_fits (small : valLen < 2 ^ 31) (fits : field.value.length ≤ valLen)
    (room : region.length = valLen + 1) :
    parseValue (field.valueWire ++ ending more) (some region) valLen =
      some ⟨more, true, some (splice region 0 (field.value ++ [0]))⟩ := by
  have cast : castInt valLen = valLen := castInt_eq small
  have next : forall val, nextToken (ending more) true val = some ⟨more, true, val⟩ :=
    nextToken_ending [] (fun _ impossible => (nomatch impossible)) more true
  rcases ending_stop more with ⟨stop, rest, ends, stops⟩
  rw [parseValue, cast]
  rcases Nat.lt_or_eq_of_le fits with shorter | full
  · rw [ends, copyValue_fits field.encodesValue stops rest 0 region (by omega) (by omega), Option.bind_some]
    dsimp only
    rw [if_neg (by omega), ← ends, next]
  · have copied := copyValue_fills valLen field.encodesValue stop rest 0 region (by omega) (by omega)
    have terminated : splice (splice region 0 field.value) valLen [0] = splice region 0 (field.value ++ [0]) := by
      rw [← splice_splice (by omega), Nat.zero_add, full]
    have inside : valLen + ([0] : Bytes).length ≤ (splice region 0 field.value).length := by
      rw [length_splice (by omega), List.length_singleton]
      omega
    have proper : ¬ (stop ≠ ampersand ∧ stop ≠ 0) := fun other => stops.elim other.1 other.2
    rw [ends, copied, Option.bind_some]
    dsimp only
    rw [if_pos (by omega), store_some inside, Option.bind_some, if_neg proper, ← ends, next, terminated]

/-- A value that does not fit is an error, and the buffer is emptied. -/
theorem parseValue_overflows (small : valLen < 2 ^ 31) (much : valLen < field.value.length)
    (room : region.length = valLen + 1) :
    exists val, parseValue (field.valueWire ++ ending more) (some region) valLen = some ⟨none, true, some val⟩ ∧
      val.length = region.length := by
  have cast : castInt valLen = valLen := castInt_eq small
  rcases copyValue_overflows valLen field.encodesValue (ending more) 0 region (by omega) (by omega)
    (by omega) with ⟨_, filled, copied, length, first, after, rfl, inside⟩
  have last : valLen + ([0] : Bytes).length ≤ filled.length := by
    rw [List.length_singleton]
    omega
  have front : 0 + ([0] : Bytes).length ≤ (splice filled valLen [0]).length := by
    rw [length_splice last, List.length_singleton]
    omega
  refine ⟨splice (splice filled valLen [0]) 0 [0], ?_, ?_⟩
  · rw [parseValue, cast, copied, Option.bind_some]
    dsimp only
    rw [if_pos (by omega), store_some last, Option.bind_some, if_pos inside, store_some front]
    rfl
  · rw [length_splice front, length_splice last, length]

/-- A length that does not fit into an `int` copies nothing. -/
theorem parseValue_cast (large : 2 ^ 31 ≤ valLen) (unsigned : valLen < 2 ^ 32) :
    parseValue (field.valueWire ++ ending more) (some region) valLen = some ⟨more, true, some region⟩ := by
  have cast : castInt valLen = valLen - 2 ^ 32 := by
    unfold castInt
    omega
  have stopped : copyValue (castInt valLen) (field.valueWire ++ ending more) 0 (some region) =
      some (.stopped 0 (field.valueWire ++ ending more) (some region)) := by
    rcases ending_stop more with ⟨stop, rest, ends, _⟩
    rw [cast]
    cases known : field.valueWire ++ ending more with
    | nil =>
        rw [ends] at known
        exact absurd known (List.append_ne_nil_of_right_ne_nil _ (List.cons_ne_nil _ _))
    | cons first after =>
        conv_lhs => unfold copyValue
        rw [if_neg (by omega)]
  rw [parseValue, stopped, Option.bind_some]
  dsimp only
  rw [if_neg (by omega), nextToken_ending _ (field.encodesValue.clean (by decide))]

end Pairs

/-! ## Forms as a whole -/

/-- The first pair with a key, and whether another pair follows it. -/
def firstMatch : List Field -> Bytes -> Option (Field × Bool)
  | [], _ => none
  | field :: fields, tag => if field.key = tag then some (field, !fields.isEmpty) else firstMatch fields tag

theorem map_fst_firstMatch (fields : List Field) (tag : Bytes) :
    (firstMatch fields tag).map Prod.fst = fields.find? fun field => field.key = tag := by
  induction fields with
  | nil => rfl
  | cons field fields inductionHypothesis =>
      rw [firstMatch, List.find?_cons]
      by_cases same : field.key = tag
      · rw [if_pos same, decide_eq_true same]
        rfl
      · rw [if_neg same, decide_eq_false same, inductionHypothesis]

/-- What the lookup does, for the first pair with the tag as its key. -/
def Answers (region : Bytes) (valLen : Nat) (found : Option (Field × Bool)) (code : Int) (val : Bytes) : Prop :=
  match found with
  | none => code = inProgressErr
  | some (field, more) =>
      if 2 ^ 31 ≤ valLen then val = region ∧ code = if more = true then 0 else inProgressErr
      else if field.value.length ≤ valLen then
        val = splice region 0 (field.value ++ [0]) ∧ code = if more = true then 0 else inProgressErr
      else code = inProgressErr

section Forms

variable {fields : List Field} {tag region : Bytes} {valLen : Nat}

theorem wire_first (field : Field) (rest : Bytes) :
    exists first after, field.wire ++ rest = first :: after ∧ first ≠ 0 := by
  have clean := field.encodesKey.clean (by decide)
  rw [Field.wire]
  cases known : field.keyWire with
  | nil => exact ⟨equals, field.valueWire ++ rest, rfl, by decide⟩
  | cons first after =>
      rw [known] at clean
      exact ⟨first, after ++ equals :: field.valueWire ++ rest, rfl, (clean first List.mem_cons_self).2⟩

/-- The parser passes over a pair with another key. -/
theorem httpdParseMsgbody_different (field : Field) (more : Pointer) (plain : 0 ∉ tag) (different : field.key ≠ tag)
    (val : Pointer) :
    httpdParseMsgbody (field.wire ++ ending more) (tag ++ [0]) val valLen = some ⟨more, false, val⟩ := by
  rcases wire_first field (ending more) with ⟨first, after, split, nonzero⟩
  rcases (compareTag_key field.encodesKey (field.valueWire ++ ending more) tag plain).2 different with
    ⟨front, inside, compared⟩
  have clean : forall byte, byte ∈ front ++ equals :: field.valueWire -> byte ≠ ampersand ∧ byte ≠ 0 := by
    intro byte member
    rcases List.mem_append.mp member with early | late
    · exact field.encodesKey.clean (by decide) byte (inside.mem early)
    · rcases List.mem_cons.mp late with rfl | late
      · decide
      · exact field.encodesValue.clean (by decide) byte late
  have whole : field.wire ++ ending more = field.keyWire ++ equals :: (field.valueWire ++ ending more) := by
    rw [Field.wire, List.append_assoc]
    rfl
  unfold httpdParseMsgbody
  rw [split]
  dsimp only
  rw [if_neg nonzero, ← split, whole, compared, Option.bind_some]
  dsimp only
  have next := nextToken_ending _ clean more false val
  rw [List.append_assoc] at next
  exact next

/-- The parser takes the value of a pair with the tag as its key. -/
theorem httpdParseMsgbody_same (valLen : Nat) (field : Field) (more : Pointer) (plain : 0 ∉ tag)
    (same : field.key = tag) (val : Pointer) :
    httpdParseMsgbody (field.wire ++ ending more) (tag ++ [0]) val valLen =
      parseValue (field.valueWire ++ ending more) val valLen := by
  rcases wire_first field (ending more) with ⟨first, after, split, nonzero⟩
  have compared := (compareTag_key field.encodesKey (field.valueWire ++ ending more) tag plain).1 same
  have whole : field.wire ++ ending more = field.keyWire ++ equals :: (field.valueWire ++ ending more) := by
    rw [Field.wire, List.append_assoc]
    rfl
  unfold httpdParseMsgbody
  rw [split]
  dsimp only
  rw [if_neg nonzero, ← split, whole, compared, Option.bind_some]
  dsimp only
  rw [strchr, if_pos rfl, Option.bind_some]
  rfl

theorem following_cases (fields : List Field) :
    following fields = none ∧ fields = [] ∨ following fields = some (formBody fields) ∧ fields ≠ [] := by
  cases fields with
  | nil => exact Or.inl ⟨rfl, rfl⟩
  | cons field fields => exact Or.inr ⟨rfl, List.cons_ne_nil _ _⟩

/-- Behind a pair with the tag, the code says whether another pair follows. -/
theorem parseAllTags_found {inbuf : Bytes} {val val' : Pointer}
    (known : httpdParseMsgbody inbuf tag val valLen = some ⟨following fields, true, val'⟩) :
    parseAllTags inbuf tag val valLen = some (if (!fields.isEmpty) = true then 0 else inProgressErr, val') := by
  rw [parseAllTags_eq known]
  rcases following_cases fields with ⟨last, rfl⟩ | ⟨more, nonempty⟩
  · rfl
  · rw [if_pos (by rw [List.isEmpty_eq_false_iff.mpr nonempty]; rfl)]
    dsimp only
    rw [more]
    rfl

theorem parseAllTags_form (fields : List Field) (plain : 0 ∉ tag) (unsigned : valLen < 2 ^ 32)
    (room : region.length = valLen + 1) :
    exists code val, parseAllTags (formBody fields) (tag ++ [0]) (some region) valLen = some (code, some val) ∧
      val.length = region.length ∧ Answers region valLen (firstMatch fields tag) code val := by
  induction fields with
  | nil =>
      have ended : httpdParseMsgbody (formBody []) (tag ++ [0]) (some region) valLen =
          some ⟨none, false, some region⟩ := rfl
      exact ⟨inProgressErr, region, parseAllTags_eq ended, rfl, rfl⟩
  | cons field fields inductionHypothesis =>
      rw [formBody_cons, firstMatch]
      by_cases same : field.key = tag
      · have parsed := httpdParseMsgbody_same valLen field (following fields) plain same (some region)
        rw [if_pos same]
        unfold Answers
        dsimp only
        by_cases large : 2 ^ 31 ≤ valLen
        · rw [parseValue_cast field _ large unsigned] at parsed
          refine ⟨_, region, parseAllTags_found parsed, rfl, ?_⟩
          rw [if_pos large]
          exact ⟨rfl, rfl⟩
        · by_cases fits : field.value.length ≤ valLen
          · rw [parseValue_fits field _ (by omega) fits room] at parsed
            refine ⟨_, splice region 0 (field.value ++ [0]), parseAllTags_found parsed, length_splice ?_, ?_⟩
            · rw [List.length_append, List.length_singleton]
              omega
            · rw [if_neg large, if_pos fits]
              exact ⟨rfl, rfl⟩
          · rcases parseValue_overflows field (following fields) (by omega) (by omega) room with ⟨val, over', length⟩
            rw [over'] at parsed
            refine ⟨inProgressErr, val, parseAllTags_eq parsed, length, ?_⟩
            rw [if_neg large, if_neg fits]
      · rw [if_neg same, parseAllTags_eq (httpdParseMsgbody_different field (following fields) plain same _)]
        dsimp only
        rcases following_cases fields with ⟨last, rfl⟩ | ⟨more, _⟩
        · exact ⟨inProgressErr, region, rfl, rfl, rfl⟩
        · rw [more]
          exact inductionHypothesis

end Forms

/-- The lookup as it should be: the value of the first pair with the tag as its
key, if it fits, and an error otherwise. -/
def Correct (fields : List Field) (tag : Bytes) (valLen : Nat) (code : Int) (val : Bytes) : Prop :=
  match fields.find? fun field => field.key = tag with
  | none => code ≠ 0
  | some field => if field.value.length ≤ valLen then code = 0 ∧ textOf val = some field.value else code ≠ 0

/-- When the lookup is correct: the first pair with the tag is not the last pair
of the form, unless its value is too long anyway. -/
def Findable (fields : List Field) (tag : Bytes) (valLen : Nat) : Prop :=
  forall field more, firstMatch fields tag = some (field, more) ->
    if more = true then valLen < 2 ^ 31 ∨ field.value = [] else valLen < field.value.length

theorem Encodes.plain {text wire : Bytes} (encodes : Encodes valueReserved text wire) : 0 ∉ text := by
  induction encodes with
  | nil => exact List.not_mem_nil
  | literal unreserved _ inductionHypothesis =>
      refine List.not_mem_cons_of_ne_of_not_mem (fun zero => ?_) inductionHypothesis
      rw [← zero] at unreserved
      exact unreserved List.mem_cons_self
  | plus _ inductionHypothesis => exact List.not_mem_cons_of_ne_of_not_mem (by decide) inductionHypothesis
  | escape nonzero _ _ _ inductionHypothesis =>
      exact List.not_mem_cons_of_ne_of_not_mem nonzero.symm inductionHypothesis

/-- A copied value is what the buffer holds. -/
theorem Answers.correct_iff {region val : Bytes} {valLen : Nat} {field : Field} {more : Bool} {code : Int}
    (answers : Answers region valLen (some (field, more)) code val) (emptied : textOf region = some []) :
    (if field.value.length ≤ valLen then code = 0 ∧ textOf val = some field.value else code ≠ 0) <->
      if more = true then valLen < 2 ^ 31 ∨ field.value = [] else valLen < field.value.length := by
  have failure : inProgressErr ≠ 0 := by decide
  rw [Answers] at answers
  cases more with
  | false =>
      have failed : code ≠ 0 := by
        split at answers
        · rw [answers.2]
          exact failure
        · split at answers
          · rw [answers.2]
            exact failure
          · rw [answers]
            exact failure
      rw [if_neg Bool.false_ne_true]
      by_cases fits : field.value.length ≤ valLen
      · rw [if_pos fits]
        exact ⟨fun both => absurd both.1 failed, fun much => absurd fits (Nat.not_le.mpr much)⟩
      · rw [if_neg fits]
        exact ⟨fun _ => Nat.not_le.mp fits, fun _ => failed⟩
  | true =>
      rw [if_pos rfl]
      by_cases large : 2 ^ 31 ≤ valLen
      · rw [if_pos large] at answers
        rcases answers with ⟨rfl, rfl⟩
        by_cases fits : field.value.length ≤ valLen
        · rw [if_pos fits, emptied]
          constructor
          · rintro ⟨_, same⟩
            exact Or.inr (Option.some_inj.mp same).symm
          · rintro (small | empty)
            · omega
            · exact ⟨rfl, congrArg some empty.symm⟩
        · rw [if_neg fits]
          constructor
          · exact fun impossible => absurd rfl impossible
          · rintro (small | empty)
            · omega
            · rw [empty] at fits
              exact absurd (Nat.zero_le _) fits
      · rw [if_neg large] at answers
        refine ⟨fun _ => Or.inl (Nat.not_le.mp large), fun _ => ?_⟩
        by_cases fits : field.value.length ≤ valLen
        · rw [if_pos fits] at answers ⊢
          rw [answers.1]
          exact ⟨answers.2, textOf_splice_zero field.encodesValue.plain⟩
        · rw [if_neg fits] at answers ⊢
          rw [answers]
          exact failure

/-- The lookup never leaves the form, the tag or the buffer, and it is correct
exactly when the pair it looks for is not the last one. -/
theorem httpdGetTagFromPostData_correct_iff (fields : List Field) (tag : Bytes) (plain : 0 ∉ tag) (valLen : Nat)
    (positive : 1 ≤ valLen) (unsigned : valLen < 2 ^ 32) (buffer : Bytes) (room : buffer.length = valLen + 1) :
    exists code val, httpdGetTagFromPostData (formBody fields) (tag ++ [0]) (some buffer) valLen =
        some (code, some val) ∧ val.length = buffer.length ∧
      (Correct fields tag valLen code val <-> Findable fields tag valLen) := by
  have first : 0 + ([0] : Bytes).length ≤ buffer.length := by
    rw [List.length_singleton]
    omega
  have length := length_splice first
  rcases parseAllTags_form fields plain unsigned (length.trans room) with
    ⟨code, val, ended, same, answers⟩
  refine ⟨code, val, ?_, same.trans length, ?_⟩
  · rw [httpdGetTagFromPostData, if_neg (by omega), store_some first, Option.bind_some, ended]
  rw [Correct, ← map_fst_firstMatch, Findable]
  have failure : inProgressErr ≠ 0 := by decide
  cases known : firstMatch fields tag with
  | none =>
      rw [known] at answers
      have failed : code = inProgressErr := answers
      rw [failed]
      exact ⟨fun _ _ _ impossible => (nomatch impossible), fun _ => failure⟩
  | some found =>
      rcases found with ⟨field, more⟩
      have condition : (forall other last, some (field, more) = some (other, last) ->
            if last = true then valLen < 2 ^ 31 ∨ other.value = [] else valLen < other.value.length) <->
          if more = true then valLen < 2 ^ 31 ∨ field.value = [] else valLen < field.value.length := by
        refine ⟨fun all => all field more rfl, fun holds other last same => ?_⟩
        cases same
        exact holds
      rw [known] at answers
      rw [condition, Option.map_some]
      exact answers.correct_iff (textOf_splice_zero List.not_mem_nil)

/-- `a=x`, written as it is. -/
def fieldA : Field where
  key := [97]
  value := [120]
  keyWire := [97]
  valueWire := [120]
  encodesKey := .literal (by decide) .nil
  encodesValue := .literal (by decide) .nil

theorem httpdGetTagFromPostData_correct_followed :
    exists code val, httpdGetTagFromPostData (formBody [fieldA, fieldA]) ([97] ++ [0]) (some [9, 9]) 1 =
        some (code, some val) ∧ Correct [fieldA, fieldA] [97] 1 code val := by
  rcases httpdGetTagFromPostData_correct_iff [fieldA, fieldA] [97] (by decide) 1 (by decide) (by decide) [9, 9] rfl with
    ⟨code, val, ended, _, correct⟩
  refine ⟨code, val, ended, correct.mpr fun field more known => ?_⟩
  cases known
  exact Or.inl (by decide)

/-- The only field of a form is not found. -/
theorem httpdGetTagFromPostData_loses_last :
    exists code val, httpdGetTagFromPostData (formBody [fieldA]) ([97] ++ [0]) (some [9, 9]) 1 =
        some (code, some val) ∧ ¬ Correct [fieldA] [97] 1 code val := by
  have parsed : httpdParseMsgbody (formBody [fieldA]) ([97] ++ [0]) (some (splice [9, 9] 0 [0])) 1 =
      some ⟨none, true, some [120, 0]⟩ := by decide
  refine ⟨inProgressErr, [120, 0], ?_, fun correct => ?_⟩
  · exact parseAllTags_eq parsed
  · exact absurd correct.1 (by decide)

end Web
end DevKit
