import DevKit.Foundation.CheckedMemory

namespace DevKit
namespace Http

/-!
# The response object

The HTTP parser reports a response in callbacks.  It calls back with the bytes
that have arrived, so each text of the response may come in several pieces, and
the response object is to put them together.

Texts are kept as blocks on the heap with their terminator, and a pointer may be
`NULL`.  A callback that would follow a `NULL` pointer has no result.
-/

/-- `malloc`, `memcpy` and the terminator. -/
def copyOf (text : Bytes) : Bytes :=
  text ++ [0]

structure KeyValue where
  key : Pointer
  value : Pointer
deriving Repr, DecidableEq

/-- The list of headers begins with the most recent one. -/
structure HttpResponse where
  statusCode : Int
  statusMessage : Pointer
  headers : List KeyValue
  concatHeaderField : Bool
  concatHeaderValue : Bool
  isMessageCompleted : Bool
  body : Pointer
  bodyLength : Int32
deriving DecidableEq

namespace HttpResponse

def fresh : HttpResponse where
  statusCode := 0
  statusMessage := none
  headers := []
  concatHeaderField := false
  concatHeaderValue := false
  isMessageCompleted := false
  body := none
  bodyLength := 0

def setStatus (response : HttpResponse) (code : Int) (message : Bytes) : HttpResponse :=
  { response with
    statusCode := code
    statusMessage := if message = [] then response.statusMessage else some (copyOf message) }

/-- Change the most recent header, or add one in front. -/
def putHeader (concat : Bool) (headers : List KeyValue) (change : KeyValue -> KeyValue) (new : KeyValue) :
    Option (List KeyValue) :=
  if concat then
    match headers with
    | [] => none
    | header :: rest => some (change header :: rest)
  else some (new :: headers)

def setHeaderField (response : HttpResponse) (field : Bytes) : Option HttpResponse :=
  if field = [] then some response
  else do
    let headers <- putHeader response.concatHeaderField response.headers
      (fun header => { header with key := some (copyOf field) }) ⟨some (copyOf field), none⟩
    some { response with headers, concatHeaderValue := false, concatHeaderField := true }

def setHeaderValue (response : HttpResponse) (value : Bytes) : Option HttpResponse :=
  if value = [] then some response
  else do
    let headers <- putHeader response.concatHeaderValue response.headers
      (fun header => { header with value := some (copyOf value) }) ⟨none, some (copyOf value)⟩
    some { response with headers, concatHeaderField := false, concatHeaderValue := true }

/-- The length as a `size_t`. -/
def bodySize (response : HttpResponse) : Nat :=
  (response.bodyLength.toInt % 2 ^ 32).toNat

def setBody (response : HttpResponse) (piece : Bytes) : HttpResponse :=
  if piece = [] then response
  else
    match response.body with
    | some block =>
        { response with
          body := some (copyOf (block.take response.bodySize ++ piece))
          bodyLength := Int32.ofInt (response.bodyLength.toInt + piece.length) }
    | none => { response with body := some (copyOf piece), bodyLength := Int32.ofInt piece.length }

def getBodyLength (response : HttpResponse) : Int :=
  response.bodyLength.toInt

end HttpResponse

/-- What the parser reports. -/
inductive Callback where
  | messageBegin
  | status (code : Int) (piece : Bytes)
  | headerField (piece : Bytes)
  | headerValue (piece : Bytes)
  | headersComplete
  | chunkHeader
  | body (piece : Bytes)
  | chunkComplete
  | messageComplete
deriving Repr, DecidableEq

/-- The response object, and the pieces of the body that went to the caller's
own callback. -/
structure HttpResponseParser where
  response : HttpResponse
  handed : List Bytes
deriving DecidableEq

namespace HttpResponseParser

def fresh : HttpResponseParser where
  response := HttpResponse.fresh
  handed := []

/-- One callback; `bodyCallback` says whether the caller gave one. -/
def on (bodyCallback : Bool) (parser : HttpResponseParser) : Callback -> Option HttpResponseParser
  | .status code piece => some { parser with response := parser.response.setStatus code piece }
  | .headerField piece => do
      let response <- parser.response.setHeaderField piece
      some { parser with response }
  | .headerValue piece => do
      let response <- parser.response.setHeaderValue piece
      some { parser with response }
  | .body piece =>
      if bodyCallback then some { parser with handed := parser.handed ++ [piece] }
      else some { parser with response := parser.response.setBody piece }
  | .messageComplete => some { parser with response.isMessageCompleted := true }
  | .messageBegin => some parser
  | .headersComplete => some parser
  | .chunkHeader => some parser
  | .chunkComplete => some parser

def run (bodyCallback : Bool) (parser : HttpResponseParser) (callbacks : List Callback) : Option HttpResponseParser :=
  callbacks.foldlM (on bodyCallback) parser

end HttpResponseParser

/-! ## A response in pieces -/

/-- The pieces of a header field and of its value, none of them empty.  Only the
value may have no pieces. -/
structure HeaderPieces where
  field : List Bytes
  value : List Bytes
  named : field ≠ []
  fieldPieces : [] ∉ field
  valuePieces : [] ∉ value

/-- A response as it arrives. -/
structure Fragments where
  code : Int
  reason : List Bytes
  headers : List HeaderPieces
  body : List Bytes
  reasonPieces : [] ∉ reason
  bodyPieces : [] ∉ body

def HeaderPieces.callbacks (header : HeaderPieces) : List Callback :=
  header.field.map .headerField ++ header.value.map .headerValue

def Fragments.callbacks (fragments : Fragments) : List Callback :=
  [.messageBegin] ++ fragments.reason.map (.status fragments.code) ++
    fragments.headers.flatMap HeaderPieces.callbacks ++ [.headersComplete] ++ fragments.body.map .body ++
    [.messageComplete]

/-- The pointer shows the text; no text may be shown by `NULL`. -/
def Shows (pointer : Pointer) (text : Bytes) : Prop :=
  pointer = some (copyOf text) ∨ (pointer = none ∧ text = [])

/-- An entry has the full field name as key and the full value. -/
def ShowsHeader (entry : KeyValue) (header : HeaderPieces) : Prop :=
  Shows entry.key header.field.flatten ∧ Shows entry.value header.value.flatten

/-- The object shows the whole response: the headers with the most recent one
first, the reason and the body. -/
structure Faithful (fragments : Fragments) (response : HttpResponse) : Prop where
  headers : List.Forall₂ ShowsHeader response.headers fragments.headers.reverse
  reason : Shows response.statusMessage fragments.reason.flatten
  body : Shows response.body fragments.body.flatten
  bodyLength : response.getBodyLength = fragments.body.flatten.length

/-- No header, or a single one that came in one piece and has no value. -/
def Plain (headers : List HeaderPieces) : Prop :=
  headers = [] ∨ exists header, headers = [header] ∧ header.field.length = 1 ∧ header.value = []

/-! ## One text in pieces -/

/-- The copy of the last piece, or an older pointer when there is no piece. -/
def lastCopy (pieces : List Bytes) (old : Pointer) : Pointer :=
  (pieces.getLast?.map copyOf).or old

theorem lastCopy_cons (piece : Bytes) (pieces : List Bytes) (old : Pointer) :
    lastCopy (piece :: pieces) old = lastCopy pieces (some (copyOf piece)) := by
  unfold lastCopy
  rw [List.getLast?_cons]
  cases pieces.getLast? <;> rfl

/-- The last piece shows the whole text only if there is no other piece. -/
theorem shows_lastCopy_iff {pieces : List Bytes} (nonempty : [] ∉ pieces) :
    Shows (lastCopy pieces none) pieces.flatten <-> pieces.length ≤ 1 := by
  rcases List.eq_nil_or_concat' pieces with rfl | ⟨before, last, rfl⟩
  · exact ⟨fun _ => Nat.zero_le _, fun _ => Or.inr ⟨rfl, rfl⟩⟩
  have known : lastCopy (before ++ [last]) none = some (copyOf last) := by
    rw [lastCopy, List.getLast?_concat, Option.map_some, Option.some_or]
  rw [known, List.flatten_append, List.flatten_singleton, List.length_append, List.length_singleton]
  constructor
  · rintro (same | ⟨impossible, _⟩)
    · have shown : last = before.flatten ++ last := List.append_cancel_right (Option.some.inj same)
      have lengths := congrArg List.length shown
      rw [List.length_append] at lengths
      have nothing : before.flatten = [] := List.length_eq_zero_iff.mp (by omega)
      cases before with
      | nil => exact Nat.le_refl 1
      | cons piece before =>
          rw [List.flatten_cons, List.append_eq_nil_iff] at nothing
          exact absurd (by rw [nothing.1]; exact List.mem_cons_self) nonempty
    · cases impossible
  · intro single
    have alone : before = [] := List.length_eq_zero_iff.mp (by omega)
    rw [alone]
    exact Or.inl rfl

namespace HttpResponseParser

variable {bodyCallback : Bool}

theorem run_append {parser middle : HttpResponseParser} {first second : List Callback}
    (ran : run bodyCallback parser first = some middle) :
    run bodyCallback parser (first ++ second) = run bodyCallback middle second := by
  unfold run at ran ⊢
  rw [List.foldlM_append, ran]
  rfl

theorem run_cons {parser middle : HttpResponseParser} {callback : Callback} {rest : List Callback}
    (ran : on bodyCallback parser callback = some middle) :
    run bodyCallback parser (callback :: rest) = run bodyCallback middle rest := by
  unfold run
  rw [List.foldlM_cons, ran]
  rfl

/-! ## The status -/

theorem run_status (code : Int) {pieces : List Bytes} (nonempty : [] ∉ pieces) (parser : HttpResponseParser) :
    exists statusCode, run bodyCallback parser (pieces.map (.status code)) = some { parser with
      response.statusCode := statusCode
      response.statusMessage := lastCopy pieces parser.response.statusMessage } := by
  induction pieces generalizing parser with
  | nil => exact ⟨_, rfl⟩
  | cons piece pieces inductionHypothesis =>
      rw [List.mem_cons, not_or] at nonempty
      have first : on bodyCallback parser (.status code piece) = some { parser with
          response.statusCode := code, response.statusMessage := some (copyOf piece) } := by
        simp only [on, HttpResponse.setStatus, if_neg (Ne.symm nonempty.1)]
      rw [List.map_cons, run_cons first, lastCopy_cons]
      exact inductionHypothesis nonempty.2 _

/-! ## The headers -/

/-- Further pieces of a field replace its key. -/
theorem run_fields_open {pieces : List Bytes} (nonempty : [] ∉ pieces) {parser : HttpResponseParser}
    {key value : Pointer} {rest : List KeyValue} (fieldFlag : parser.response.concatHeaderField = true)
    (valueFlag : parser.response.concatHeaderValue = false) (first : parser.response.headers = ⟨key, value⟩ :: rest) :
    run bodyCallback parser (pieces.map .headerField) = some { parser with
      response.headers := ⟨lastCopy pieces key, value⟩ :: rest } := by
  induction pieces generalizing parser key with
  | nil =>
      rw [List.map_nil, lastCopy, List.getLast?_nil]
      change some parser = _
      rw [Option.map_none, Option.none_or, ← first]
  | cons piece pieces inductionHypothesis =>
      rw [List.mem_cons, not_or] at nonempty
      have step : on bodyCallback parser (.headerField piece) = some { parser with
          response.headers := ⟨some (copyOf piece), value⟩ :: rest } := by
        simp only [on, HttpResponse.setHeaderField, HttpResponse.putHeader, if_neg (Ne.symm nonempty.1), fieldFlag, first,
          if_true, Option.bind_eq_bind, Option.bind_some, ← valueFlag]
      rw [List.map_cons, run_cons step, lastCopy_cons]
      refine inductionHypothesis nonempty.2 ?_ ?_ ?_
      exacts [fieldFlag, valueFlag, rfl]

/-- Further pieces of a value replace it. -/
theorem run_values_open {pieces : List Bytes} (nonempty : [] ∉ pieces) {parser : HttpResponseParser}
    {key value : Pointer} {rest : List KeyValue} (fieldFlag : parser.response.concatHeaderField = false)
    (valueFlag : parser.response.concatHeaderValue = true) (first : parser.response.headers = ⟨key, value⟩ :: rest) :
    run bodyCallback parser (pieces.map .headerValue) = some { parser with
      response.headers := ⟨key, lastCopy pieces value⟩ :: rest } := by
  induction pieces generalizing parser value with
  | nil =>
      rw [List.map_nil, lastCopy, List.getLast?_nil]
      change some parser = _
      rw [Option.map_none, Option.none_or, ← first]
  | cons piece pieces inductionHypothesis =>
      rw [List.mem_cons, not_or] at nonempty
      have step : on bodyCallback parser (.headerValue piece) = some { parser with
          response.headers := ⟨key, some (copyOf piece)⟩ :: rest } := by
        simp only [on, HttpResponse.setHeaderValue, HttpResponse.putHeader, if_neg (Ne.symm nonempty.1), valueFlag, first,
          if_true, Option.bind_eq_bind, Option.bind_some, ← fieldFlag]
      rw [List.map_cons, run_cons step, lastCopy_cons]
      refine inductionHypothesis nonempty.2 ?_ ?_ ?_
      exacts [fieldFlag, valueFlag, rfl]

end HttpResponseParser

/-! ## The list of headers -/

/-- The entries behind one more header, and whether the next field would go on
with the most recent key: a value gets an entry of its own, and a field behind a
header without a value replaces that header's key. -/
def HeaderPieces.collect (header : HeaderPieces) (entries : List KeyValue) (isOpen : Bool) : List KeyValue × Bool :=
  let keyed := ⟨lastCopy header.field none, none⟩ :: (if isOpen then entries.tail else entries)
  if header.value = [] then (keyed, true) else (⟨none, lastCopy header.value none⟩ :: keyed, false)

def collected (headers : List HeaderPieces) : List KeyValue × Bool :=
  headers.foldl (fun reached header => header.collect reached.1 reached.2) ([], false)

theorem collected_concat (headers : List HeaderPieces) (header : HeaderPieces) :
    collected (headers ++ [header]) = header.collect (collected headers).1 (collected headers).2 := by
  rw [collected, List.foldl_concat]
  rfl

/-- The part of the response object that the headers set. -/
structure Standing (response : HttpResponse) (entries : List KeyValue) (isOpen : Bool) : Prop where
  headers : response.headers = entries
  field : response.concatHeaderField = isOpen
  first : isOpen = true -> response.concatHeaderValue = false ∧ exists key rest, entries = ⟨key, none⟩ :: rest

theorem HeaderPieces.lastCopy_field (header : HeaderPieces) : exists text, lastCopy header.field none = some text := by
  rcases List.eq_nil_or_concat' header.field with empty | ⟨before, last, same⟩
  · exact absurd empty header.named
  · exact ⟨copyOf last, by rw [lastCopy, same, List.getLast?_concat, Option.map_some, Option.some_or]⟩

/-- What one header leaves alone. -/
def SameRest (before after : HttpResponse) : Prop :=
  after.statusMessage = before.statusMessage ∧ after.body = before.body ∧ after.bodyLength = before.bodyLength

namespace HttpResponseParser

variable {bodyCallback : Bool}

/-- The pieces of a field, whether they begin a header or not. -/
theorem run_fields {pieces : List Bytes} (named : pieces ≠ []) (nonempty : [] ∉ pieces) {parser : HttpResponseParser}
    {entries : List KeyValue} {isOpen : Bool} (standing : Standing parser.response entries isOpen) :
    run bodyCallback parser (pieces.map .headerField) = some { parser with
      response.headers := ⟨lastCopy pieces none, none⟩ :: (if isOpen then entries.tail else entries)
      response.concatHeaderField := true
      response.concatHeaderValue := false } := by
  cases pieces with
  | nil => exact absurd rfl named
  | cons piece pieces =>
      rw [List.mem_cons, not_or] at nonempty
      have step : on bodyCallback parser (.headerField piece) = some { parser with
          response.headers := ⟨some (copyOf piece), none⟩ :: (if isOpen then entries.tail else entries)
          response.concatHeaderField := true
          response.concatHeaderValue := false } := by
        simp only [on, HttpResponse.setHeaderField, HttpResponse.putHeader, if_neg (Ne.symm nonempty.1)]
        rw [standing.headers, standing.field]
        cases isOpen with
        | false => rfl
        | true =>
            rcases (standing.first rfl).2 with ⟨key, rest, rfl⟩
            rfl
      rw [List.map_cons, run_cons step, lastCopy_cons]
      refine run_fields_open nonempty.2 ?_ ?_ ?_ <;> rfl

/-- The pieces of a value never join the entry of their field. -/
theorem run_values {pieces : List Bytes} (some : pieces ≠ []) (nonempty : [] ∉ pieces) {parser : HttpResponseParser}
    (flag : parser.response.concatHeaderValue = false) :
    run bodyCallback parser (pieces.map .headerValue) = .some { parser with
      response.headers := ⟨none, lastCopy pieces none⟩ :: parser.response.headers
      response.concatHeaderField := false
      response.concatHeaderValue := true } := by
  cases pieces with
  | nil => exact absurd rfl some
  | cons piece pieces =>
      rw [List.mem_cons, not_or] at nonempty
      have step : on bodyCallback parser (.headerValue piece) = .some { parser with
          response.headers := ⟨none, .some (copyOf piece)⟩ :: parser.response.headers
          response.concatHeaderField := false
          response.concatHeaderValue := true } := by
        simp only [on, HttpResponse.setHeaderValue, HttpResponse.putHeader, if_neg (Ne.symm nonempty.1), flag]
        rfl
      rw [List.map_cons, run_cons step, lastCopy_cons]
      refine run_values_open nonempty.2 ?_ ?_ ?_ <;> rfl

theorem run_header (header : HeaderPieces) {parser : HttpResponseParser} {entries : List KeyValue} {isOpen : Bool}
    (standing : Standing parser.response entries isOpen) :
    exists response, run bodyCallback parser header.callbacks = some { parser with response } ∧
      Standing response (header.collect entries isOpen).1 (header.collect entries isOpen).2 ∧
      SameRest parser.response response := by
  unfold HeaderPieces.callbacks HeaderPieces.collect
  rw [run_append (run_fields header.named header.fieldPieces standing)]
  by_cases empty : header.value = []
  · rw [if_pos empty, empty]
    exact ⟨_, rfl, ⟨rfl, rfl, fun _ => ⟨rfl, _, _, rfl⟩⟩, rfl, rfl, rfl⟩
  · rw [if_neg empty, run_values empty header.valuePieces rfl]
    exact ⟨_, rfl, ⟨rfl, rfl, fun impossible => by cases impossible⟩, rfl, rfl, rfl⟩

theorem run_headers (headers : List HeaderPieces) {parser : HttpResponseParser} {reached : List KeyValue × Bool}
    (standing : Standing parser.response reached.1 reached.2) :
    exists response, run bodyCallback parser (headers.flatMap HeaderPieces.callbacks) = some { parser with response } ∧
      Standing response (headers.foldl (fun reached header => header.collect reached.1 reached.2) reached).1
        (headers.foldl (fun reached header => header.collect reached.1 reached.2) reached).2 ∧
      SameRest parser.response response := by
  induction headers generalizing parser reached with
  | nil => exact ⟨_, rfl, standing, rfl, rfl, rfl⟩
  | cons header headers inductionHypothesis =>
      rcases run_header header standing with ⟨response, ran, next, message, body, length⟩
      rw [List.flatMap_cons, run_append ran, List.foldl_cons]
      have start : Standing (HttpResponseParser.mk response parser.handed).response _ _ := next
      rcases inductionHypothesis start with ⟨final, finished, last, finalMessage, finalBody, finalLength⟩
      exact ⟨final, finished, last, finalMessage.trans message, finalBody.trans body, finalLength.trans length⟩

/-! ## The body -/

theorem run_body (pieces : List Bytes) (parser : HttpResponseParser) :
    run false parser (pieces.map .body) = some { parser with
      response := pieces.foldl HttpResponse.setBody parser.response } := by
  induction pieces generalizing parser with
  | nil => rfl
  | cons piece pieces inductionHypothesis =>
      rw [List.map_cons, List.foldl_cons]
      exact (run_cons rfl).trans (inductionHypothesis _)

end HttpResponseParser

namespace HttpResponse

theorem setBody_headers (response : HttpResponse) (piece : Bytes) :
    (response.setBody piece).headers = response.headers ∧
      (response.setBody piece).statusMessage = response.statusMessage := by
  unfold setBody
  split
  · exact ⟨rfl, rfl⟩
  · cases response.body <;> exact ⟨rfl, rfl⟩

theorem foldl_setBody_headers (pieces : List Bytes) (response : HttpResponse) :
    (pieces.foldl setBody response).headers = response.headers ∧
      (pieces.foldl setBody response).statusMessage = response.statusMessage := by
  induction pieces generalizing response with
  | nil => exact ⟨rfl, rfl⟩
  | cons piece pieces inductionHypothesis =>
      rw [List.foldl_cons]
      have first := response.setBody_headers piece
      have rest := inductionHypothesis (response.setBody piece)
      exact ⟨rest.1.trans first.1, rest.2.trans first.2⟩

/-- The body object holds the text, and the length is its length. -/
def Holds (response : HttpResponse) (text : Bytes) : Prop :=
  Shows response.body text ∧ response.getBodyLength = text.length

theorem setBody_holds {response : HttpResponse} {text : Bytes} (holds : response.Holds text) {piece : Bytes}
    (some : piece ≠ []) (small : (text ++ piece).length < 2 ^ 31) : (response.setBody piece).Holds (text ++ piece) := by
  rw [List.length_append] at small
  have fits (length : Int) (lower : 0 ≤ length) (upper : length < 2 ^ 31) : (Int32.ofInt length).toInt = length :=
    Int32.toInt_ofInt_of_le (by omega) upper
  unfold setBody
  rw [if_neg some]
  rcases holds with ⟨shown | ⟨null, rfl⟩, length⟩
  · have same : response.bodyLength.toInt = text.length := length
    have size : response.bodySize = text.length := by
      rw [bodySize, same]
      omega
    rw [shown]
    refine ⟨Or.inl ?_, ?_⟩
    · dsimp only
      rw [size, copyOf, copyOf, copyOf, List.take_left]
    · rw [getBodyLength, same, fits _ (by omega) (by omega), List.length_append]
      omega
  · rw [null]
    refine ⟨Or.inl rfl, ?_⟩
    rw [getBodyLength, fits _ (by omega) (by omega), List.nil_append]

theorem foldl_setBody_holds {pieces : List Bytes} (nonempty : [] ∉ pieces) {response : HttpResponse} {text : Bytes}
    (holds : response.Holds text) (small : (text ++ pieces.flatten).length < 2 ^ 31) :
    (pieces.foldl setBody response).Holds (text ++ pieces.flatten) := by
  induction pieces generalizing response text with
  | nil => simpa using holds
  | cons piece pieces inductionHypothesis =>
      rw [List.mem_cons, not_or] at nonempty
      rw [List.flatten_cons, ← List.append_assoc] at small ⊢
      have next := setBody_holds holds (Ne.symm nonempty.1) (by rw [List.length_append] at small; omega)
      exact inductionHypothesis nonempty.2 next small

end HttpResponse

/-! ## Which responses are shown -/

theorem collected_open (headers : List HeaderPieces) (isOpen : (collected headers).2 = true) :
    exists key rest, (collected headers).1 = ⟨some key, none⟩ :: rest := by
  rcases List.eq_nil_or_concat' headers with rfl | ⟨before, header, rfl⟩
  · cases isOpen
  · rcases header.lastCopy_field with ⟨key, known⟩
    rw [collected_concat, HeaderPieces.collect] at isOpen ⊢
    by_cases empty : header.value = []
    · rw [if_pos empty, known]
      exact ⟨key, _, rfl⟩
    · rw [if_neg empty] at isOpen
      cases isOpen

/-- A header with a value leaves an entry without a key. -/
theorem exists_keyless {headers : List HeaderPieces} {header : HeaderPieces} (listed : header ∈ headers)
    (value : header.value ≠ []) : exists entry, entry ∈ (collected headers).1 ∧ entry.key = none := by
  induction headers using List.reverseRecOn with
  | nil => cases listed
  | append_singleton before last inductionHypothesis =>
      rw [collected_concat, HeaderPieces.collect]
      by_cases empty : last.value = []
      · rw [if_pos empty]
        have earlier : header ∈ before := by
          rcases List.mem_append.mp listed with earlier | here
          · exact earlier
          · exact absurd (List.mem_singleton.mp here ▸ empty) value
        rcases inductionHypothesis earlier with ⟨entry, found, keyless⟩
        refine ⟨entry, List.mem_cons_of_mem _ ?_, keyless⟩
        split
        · rename_i isOpen
          rcases collected_open before isOpen with ⟨key, rest, same⟩
          rw [same] at found ⊢
          rcases List.mem_cons.mp found with rfl | later
          · cases keyless
          · exact later
        · exact found
      · rw [if_neg empty]
        exact ⟨_, List.mem_cons_self, rfl⟩

/-- Headers without values share one entry. -/
theorem collected_valueless {headers : List HeaderPieces} (some : headers ≠ [])
    (valueless : forall header, header ∈ headers -> header.value = []) :
    exists last, last ∈ headers ∧ collected headers = ([⟨lastCopy last.field none, none⟩], true) := by
  induction headers using List.reverseRecOn with
  | nil => exact absurd rfl some
  | append_singleton before last inductionHypothesis =>
      refine ⟨last, List.mem_concat_self, ?_⟩
      have empty := valueless last List.mem_concat_self
      rw [collected_concat, HeaderPieces.collect, if_pos empty]
      by_cases first : before = []
      · rw [first]
        rfl
      · rcases inductionHypothesis first fun header found => valueless header (List.mem_append_left _ found) with
          ⟨other, _, known⟩
        rw [known]
        rfl

theorem HeaderPieces.flatten_ne_nil (header : HeaderPieces) : header.field.flatten ≠ [] := by
  intro nothing
  rcases List.exists_mem_of_ne_nil _ header.named with ⟨piece, listed⟩
  rw [List.flatten_eq_nil_iff] at nothing
  exact header.fieldPieces (nothing piece listed ▸ listed)

theorem ShowsHeader.key_ne_none {entry : KeyValue} {header : HeaderPieces} (shown : ShowsHeader entry header) :
    entry.key ≠ none := by
  rcases shown.1 with some | ⟨_, empty⟩
  · rw [some]
    exact Option.some_ne_none _
  · exact absurd empty header.flatten_ne_nil

/-- The entries show the headers only if there is nothing to put together. -/
theorem collected_shows_iff (headers : List HeaderPieces) :
    List.Forall₂ ShowsHeader (collected headers).1 headers.reverse <-> Plain headers := by
  constructor
  · intro shown
    have keyed : forall entry, entry ∈ (collected headers).1 -> entry.key ≠ none :=
      ((List.forall₂_and_left _ _).mp (shown.imp fun _ _ both => ⟨both.key_ne_none, both⟩)).1
    have valueless (header : HeaderPieces) (listed : header ∈ headers) : header.value = [] := by
      by_contra value
      rcases exists_keyless listed value with ⟨entry, found, keyless⟩
      exact keyed entry found keyless
    by_cases some : headers = []
    · exact Or.inl some
    · rcases collected_valueless some valueless with ⟨last, listed, known⟩
      rw [known] at shown
      have one : headers.length = 1 := by
        rw [← List.length_reverse]
        exact shown.length_eq.symm
      rcases List.length_eq_one_iff.mp one with ⟨header, rfl⟩
      have same : last = header := List.mem_singleton.mp listed
      rw [same] at shown
      have pieces := (shows_lastCopy_iff header.fieldPieces).mp (List.forall₂_cons.mp shown).1.1
      have positive := List.length_pos_iff.mpr header.named
      exact Or.inr ⟨header, rfl, by omega, valueless header List.mem_cons_self⟩
  · rintro (rfl | ⟨header, rfl, single, valueless⟩)
    · exact List.Forall₂.nil
    · have entry : (collected [header]).1 = [⟨lastCopy header.field none, none⟩] := by
        rw [← List.nil_append [header], collected_concat, HeaderPieces.collect, if_pos valueless]
        rfl
      rw [entry, List.reverse_singleton]
      refine List.Forall₂.cons ⟨(shows_lastCopy_iff header.fieldPieces).mpr (by omega), Or.inr ⟨rfl, ?_⟩⟩ .nil
      rw [valueless]
      rfl

/-- The callbacks of a response always have a result.  The response object then
shows the whole response exactly when it has no header, or one header that came
in one piece and has no value, the reason came in at most one piece, and the
length of the body fits into an `int`. -/
theorem response_faithful_iff (fragments : Fragments) :
    exists parser, HttpResponseParser.run false HttpResponseParser.fresh fragments.callbacks = some parser ∧
      (Faithful fragments parser.response <->
        Plain fragments.headers ∧ fragments.reason.length ≤ 1 ∧ fragments.body.flatten.length < 2 ^ 31) := by
  have ranStatus : exists statusCode, HttpResponseParser.run false HttpResponseParser.fresh
      (fragments.reason.map (.status fragments.code)) = some ⟨{ HttpResponse.fresh with
        statusCode, statusMessage := lastCopy fragments.reason none }, []⟩ :=
    HttpResponseParser.run_status fragments.code fragments.reasonPieces HttpResponseParser.fresh
  rcases ranStatus with ⟨statusCode, ranStatus⟩
  have start : Standing (HttpResponseParser.mk { HttpResponse.fresh with
      statusCode, statusMessage := lastCopy fragments.reason none } []).response
      (([], false) : List KeyValue × Bool).1 (([], false) : List KeyValue × Bool).2 :=
    ⟨rfl, rfl, fun impossible => by cases impossible⟩
  rcases HttpResponseParser.run_headers fragments.headers start with
    ⟨headed, ranHeaders, standing, message, body, length⟩
  have received := HttpResponse.foldl_setBody_headers fragments.body headed
  refine ⟨⟨{ fragments.body.foldl HttpResponse.setBody headed with isMessageCompleted := true }, []⟩, ?_, ?_⟩
  · unfold Fragments.callbacks
    have begun : HttpResponseParser.run false HttpResponseParser.fresh [.messageBegin] =
      some HttpResponseParser.fresh := rfl
    have complete (parser : HttpResponseParser) : HttpResponseParser.run false parser [.headersComplete] = some parser :=
      rfl
    simp only [List.append_assoc]
    rw [HttpResponseParser.run_append begun, HttpResponseParser.run_append ranStatus,
      HttpResponseParser.run_append ranHeaders, HttpResponseParser.run_append (complete _),
      HttpResponseParser.run_append (HttpResponseParser.run_body fragments.body _)]
    rfl
  · constructor
    · intro faithful
      have headers := faithful.headers
      have reason := faithful.reason
      have counted : (fragments.body.foldl HttpResponse.setBody headed).bodyLength.toInt = _ := faithful.bodyLength
      dsimp only at headers reason
      rw [received.1, standing.headers] at headers
      rw [received.2, message] at reason
      refine ⟨(collected_shows_iff _).mp headers, (shows_lastCopy_iff fragments.reasonPieces).mp reason, ?_⟩
      have bound := Int32.toInt_lt (fragments.body.foldl HttpResponse.setBody headed).bodyLength
      omega
    · rintro ⟨plain, single, small⟩
      have empty : headed.Holds [] := ⟨Or.inr ⟨body, rfl⟩, by rw [HttpResponse.getBodyLength, length]; rfl⟩
      have held := HttpResponse.foldl_setBody_holds fragments.bodyPieces empty small
      refine ⟨?_, ?_, held.1, held.2⟩
      · dsimp only
        rw [received.1, standing.headers]
        exact (collected_shows_iff _).mpr plain
      · dsimp only
        rw [received.2, message]
        exact (shows_lastCopy_iff fragments.reasonPieces).mpr single

/-- The header `A: b`, with nothing cut. -/
def oneHeader : HeaderPieces where
  field := [[0x41]]
  value := [[0x62]]
  named := by decide
  fieldPieces := by decide
  valuePieces := by decide

/-- The response `OK` with that header and no body. -/
def oneHeaderResponse : Fragments where
  code := 200
  reason := [[0x4f, 0x4b]]
  headers := [oneHeader]
  body := []
  reasonPieces := by decide
  bodyPieces := by decide

/-- The value gets an entry of its own, without a key, in front of the entry of
its field. -/
theorem response_separates_value :
    (HttpResponseParser.run false HttpResponseParser.fresh oneHeaderResponse.callbacks).map
        (fun parser => parser.response.headers) =
      some [⟨none, some [0x62, 0]⟩, ⟨some [0x41, 0], none⟩] := by
  decide

end Http
end DevKit
