import DevKit.Foundation.CheckedMemory
import DevKit.Foundation.Memory
import Mathlib.Algebra.BigOperators.Group.List.Basic

namespace DevKit
namespace Web

open Procedure

/-!
# Reading the body of a request

`httpd_get_data` fills a buffer with the next part of the body.  The socket
hands the stream over in pieces of its own choosing, so the function calls
`recv` until it has what it asked for, and it keeps the number of unread
bytes in the request, from call to call.

A client decides everything that the server sees: the bytes of the stream, the
result of every `recv`, and what the headers say.
-/

/-- The fields of the request that the handlers read.  `contentType` is the
whole array. -/
structure Request where
  hdrParsed : Bool
  chunked : Bool
  bodyNbytes : Int
  remainingBytes : Int
  contentType : Bytes
deriving Repr, DecidableEq

/-- A request with the number of stream bytes taken from the socket and the
number of `recv` calls made so far. -/
structure Connection where
  request : Request
  consumed : Nat
  receives : Nat
deriving Repr, DecidableEq

/-- The other end of the connection.  `parseHdrTags` is the status and the
connection that the header parser leaves, and `headerBuffer` says whether its
buffer can be allocated. -/
structure Client where
  stream : Nat -> UInt8
  recv : Nat -> Int
  headerBuffer : Bool
  parseHdrTags : Connection -> Int × Connection

/-- `WM_E_HTTPD_DATA_RD` -/
def dataRd : Int := 4

section Functions

variable (client : Client) {Value : Type}

/-- One `recv` into a buffer, behind the bytes that are there.  A result that is
larger than the room does not mean that more bytes were written. -/
def httpdRecv (content : Pointer) (received room : Nat) : Procedure Connection (Leaving Value) (Int × Pointer) := do
  let connection <- Procedure.read
  let count := client.recv connection.receives
  let taken := min count.toNat room
  let content <- defined (store content received (load client.stream connection.consumed taken))
  update fun state => { state with consumed := state.consumed + taken, receives := state.receives + 1 }
  pure (count, content)

/-- The loop of `httpd_get_data`. -/
def receiveBody (content : Pointer) (received requested : Nat) :
    Procedure Connection (Leaving (Int × Pointer)) Pointer :=
  if _more : received < requested then do
    let answer <- httpdRecv client content received (requested - received)
    if _bad : answer.1 ≤ 0 ∨ answer.1 > (requested - received : Nat) then do
      let content <- defined (store answer.2 0 [0])
      leave (-dataRd, content)
    else do
      update fun state =>
        { state with request.remainingBytes := state.request.remainingBytes - answer.1 }
      receiveBody answer.2 (received + answer.1.toNat) requested
  else pure content
termination_by requested - received

/-- The headers are parsed by the first call. -/
def parseHeaders (content : Pointer) : Procedure Connection (Leaving (Int × Pointer)) Unit := do
  let connection <- Procedure.read
  if connection.request.hdrParsed = true then pure ()
  else do
    reject (client.headerBuffer = false) (.returned (-dataRd, content))
    let parsed := client.parseHdrTags connection
    update fun _ => parsed.2
    reject (parsed.1 ≠ 0) (.returned (-dataRd, content))
    update fun state => { state with request.hdrParsed := true }

/-- The result and the buffer afterwards. -/
def httpdGetData (content : Pointer) (length : Int) :
    Procedure Connection (Leaving (Int × Pointer)) (Int × Pointer) := do
  reject (content = none ∨ length ≤ 0) (.returned (-dataRd, content))
  let content <- defined (store content 0 [0])
  parseHeaders client content
  let connection <- Procedure.read
  let request := connection.request
  reject (request.chunked = true ∨ request.bodyNbytes < 0 ∨ request.remainingBytes < 0 ∨
    request.remainingBytes > request.bodyNbytes) (.returned (-dataRd, content))
  let requested := if request.remainingBytes < length then request.remainingBytes else length
  let content <- receiveBody client content 0 requested.toNat
  let content <- defined (store content requested.toNat [0])
  let connection <- Procedure.read
  pure (connection.request.remainingBytes, content)

end Functions

/-! ## Pieces of the stream -/

section Pieces

variable (client : Client)

/-- What is left to receive after some results of `recv`. -/
def left (room first : Nat) : Nat -> Int
  | 0 => room
  | count + 1 => left room first count - client.recv (first + count)

/-- A result that ends the loop: an error, the end of the stream, or more than
was asked for. -/
def Bad (room first count : Nat) : Prop :=
  client.recv (first + count) ≤ 0 ∨ client.recv (first + count) > left client room first count

/-- After one good result the same loop goes on with what is left. -/
theorem left_succ {room first : Nat} {taken : Nat} (result : client.recv first = taken) (fits : taken ≤ room)
    (count : Nat) : left client room first (count + 1) = left client (room - taken) (first + 1) count := by
  induction count with
  | zero =>
      simp only [left, Nat.add_zero, result]
      omega
  | succ count inductionHypothesis =>
      rw [left, inductionHypothesis, left, Nat.add_right_comm first 1 count, Nat.add_assoc first count 1]

theorem bad_succ {room first : Nat} {taken : Nat} (result : client.recv first = taken) (fits : taken ≤ room)
    (count : Nat) : Bad client room first (count + 1) <-> Bad client (room - taken) (first + 1) count := by
  rw [Bad, Bad, left_succ client result fits, Nat.add_right_comm first 1 count, Nat.add_assoc first count 1]

end Pieces

/-! ## The loop -/

/-- The connection after some more of the body. -/
def Connection.advance (connection : Connection) (amount receives : Nat) : Connection where
  request := { connection.request with remainingBytes := connection.request.remainingBytes - amount }
  consumed := connection.consumed + amount
  receives := connection.receives + receives

theorem Connection.advance_zero (connection : Connection) : connection.advance 0 0 = connection := by
  simp only [advance, Int.natCast_zero, Int.sub_zero, Nat.add_zero]

theorem Connection.advance_advance (connection : Connection) (amount receives more further : Nat) :
    (connection.advance amount receives).advance more further =
      connection.advance (amount + more) (receives + further) := by
  simp only [advance, Int.natCast_add, Int.sub_sub, Nat.add_assoc]

/-- The body of the loop was read into a region that held some of it already. -/
structure Filled (client : Client) (start : Connection) (region : Bytes) (received requested : Nat) (content : Pointer)
    (after : Connection) : Prop where
  content : exists filled, content = some filled ∧ filled.length = region.length ∧
    filled.take requested = region.take received ++ load client.stream start.consumed (requested - received)
  after : exists receives, after = start.advance (requested - received) receives ∧
    forall count, count < receives -> ¬ Bad client (requested - received) start.receives count

/-- A bad result of `recv` left an empty string. -/
structure Failed (client : Client) (start : Connection) (length room : Nat) (content : Pointer)
    (after : Connection) : Prop where
  content : exists emptied, content = some emptied ∧ emptied.length = length ∧ emptied[0]? = some 0
  cause : exists count, count < after.receives - start.receives ∧ Bad client room start.receives count
  limit : after.consumed ≤ start.consumed + room
  request : exists amount, amount ≤ room ∧
    after.request = { start.request with remainingBytes := start.request.remainingBytes - amount }

section Loop

variable {client : Client} {start : Connection} {region : Bytes} {received requested : Nat}

theorem httpdRecv_triple {Value : Type} {room : Nat} (within : received + room ≤ region.length) :
    Triple (fun state => state = start) (httpdRecv client (some region) received room)
      (fun answer state =>
        answer = (client.recv start.receives, some (splice region received
          (load client.stream start.consumed (min (client.recv start.receives).toNat room)))) ∧
        state = { start with
          consumed := start.consumed + min (client.recv start.receives).toNat room
          receives := start.receives + 1 })
      (fun (_ : Leaving Value) _ => False) := by
  refine Triple.read ?_
  rintro connection rfl
  refine Triple.defined (store_some ?_) (Triple.assign (Triple.pure ?_))
  · rw [length_load]
    omega
  · rintro state rfl
    exact ⟨rfl, rfl⟩

/-- The string is emptied in a buffer that has room for at least one byte. -/
theorem empty_splice (region : Bytes) (nonempty : 0 < region.length) :
    (splice region 0 [0]).length = region.length ∧ (splice region 0 [0])[0]? = some 0 := by
  refine ⟨length_splice (by rw [List.length_singleton]; omega), ?_⟩
  rw [splice_zero]
  rfl

/-- A piece in front of the rest of the body. -/
theorem Filled.prepend {taken : Nat} {content : Pointer} {after : Connection} (within : requested ≤ region.length)
    (result : client.recv start.receives = taken) (positive : 0 < taken) (fits : received + taken ≤ requested)
    (filled : Filled client (start.advance taken 1) (splice region received (load client.stream start.consumed taken))
      (received + taken) requested content after) : Filled client start region received requested content after := by
  rcases filled with ⟨⟨bytes, same, length, front⟩, receives, reached, fine⟩
  have piece : received + (load client.stream start.consumed taken).length ≤ region.length := by
    rw [length_load]
    omega
  have rest : requested - received = taken + (requested - (received + taken)) := by omega
  refine ⟨⟨bytes, same, length.trans (length_splice piece), ?_⟩, 1 + receives, ?_, fun count small => ?_⟩
  · have copied := take_splice piece
    rw [length_load] at copied
    rw [front, copied, rest, load_add, List.append_assoc]
    rfl
  · rw [reached, Connection.advance_advance, ← rest]
  · cases count with
    | zero =>
        rintro (none | much)
        · rw [Nat.add_zero, result] at none
          omega
        · rw [Nat.add_zero, result, left] at much
          omega
    | succ count =>
        rw [bad_succ client result (by omega), Nat.sub_sub]
        exact fine count (by omega)

theorem Failed.prepend {taken length room : Nat} {content : Pointer} {after : Connection}
    (result : client.recv start.receives = taken) (fits : taken ≤ room)
    (failed : Failed client (start.advance taken 1) length (room - taken) content after) :
    Failed client start length room content after := by
  rcases failed with ⟨emptied, ⟨count, early, bad⟩, limit, amount, small, request⟩
  simp only [Connection.advance] at early bad limit request
  refine ⟨emptied, ⟨count + 1, by omega, (bad_succ client result fits count).mpr bad⟩, by omega, taken + amount,
    by omega, ?_⟩
  rw [request, Int.natCast_add, Int.sub_sub]

theorem receiveBody_triple (client : Client) (start : Connection) (within : requested < region.length)
    (order : received ≤ requested) :
    Triple (fun state => state = start) (receiveBody client (some region) received requested)
      (Filled client start region received requested)
      (Leaving.Meets (fun answer after => answer.1 = -dataRd ∧
        Failed client start region.length (requested - received) answer.2 after) fun _ => False) := by
  induction known : requested - received using Nat.strong_induction_on generalizing region received start with
  | _ room inductionHypothesis =>
      rw [receiveBody]
      by_cases more : received < requested
      · rw [dif_pos more]
        refine Triple.bind ((httpdRecv_triple (by omega)).weaken (fun _ same => same) (fun _ _ ended => ended)
          fun _ _ impossible => impossible.elim) fun answer => Triple.fix ?_
        rintro state ⟨rfl, rfl⟩
        have length : (splice region received
            (load client.stream start.consumed (min (client.recv start.receives).toNat (requested - received)))).length =
            region.length := length_splice (by rw [length_load]; omega)
        by_cases bad : client.recv start.receives ≤ 0 ∨ client.recv start.receives > (requested - received : Nat)
        · rw [dif_pos bad]
          have empty := empty_splice (splice region received
            (load client.stream start.consumed (min (client.recv start.receives).toNat (requested - received)))) (by omega)
          refine Triple.defined (store_some ?_) (Triple.exit ?_)
          · rw [List.length_singleton]
            omega
          · rintro state rfl
            refine ⟨rfl, ⟨_, rfl, empty.1.trans length, empty.2⟩, ⟨0, ?_, ?_⟩, ?_, 0, Nat.zero_le _, ?_⟩
            · change 0 < start.receives + 1 - start.receives
              omega
            · rw [← known]
              exact bad
            · change start.consumed + min _ _ ≤ _
              omega
            · rw [Int.natCast_zero, Int.sub_zero]
        · rw [dif_neg bad]
          obtain ⟨taken, counted⟩ := Int.eq_ofNat_of_zero_le (show 0 ≤ client.recv start.receives by omega)
          have short : min taken (requested - received) = taken := by omega
          rw [counted, Int.toNat_natCast, short] at length ⊢
          have next : Triple (fun state => state = start.advance taken 1)
              (receiveBody client (some (splice region received (load client.stream start.consumed taken)))
                (received + taken) requested)
              (Filled client start region received requested)
              (Leaving.Meets (fun answer after => answer.1 = -dataRd ∧
                Failed client start region.length room answer.2 after) fun _ => False) := by
            refine (inductionHypothesis (requested - (received + taken)) (by omega) _ (by omega) (by omega) rfl).weaken
              (fun _ same => same) (fun _ _ filled => filled.prepend (by omega) counted (by omega) (by omega)) ?_
            rintro (answer | _) state left
            · rw [length, ← Nat.sub_sub, known] at left
              exact ⟨left.1, left.2.prepend counted (by omega)⟩
            · exact left
          exact Triple.assign next
      · rw [dif_neg more]
        refine Triple.pure ?_
        rintro state rfl
        have same : received = requested := by omega
        subst same
        refine ⟨⟨region, rfl, rfl, ?_⟩, 0, ?_, fun _ impossible => absurd impossible (Nat.not_lt_zero _)⟩
        · rw [Nat.sub_self]
          exact (List.append_nil _).symm
        · rw [Nat.sub_self, Connection.advance_zero]

end Loop

/-! ## One call -/

/-- The arguments of a call: a positive length, and a buffer that holds one more byte. -/
structure Call where
  content : Bytes
  length : Nat
  positive : 0 < length
  room : length < content.length

/-- The headers are parsed, and the body is not chunked. -/
def Ready (connection : Connection) : Prop :=
  connection.request.hdrParsed = true ∧ connection.request.chunked = false ∧
    0 ≤ connection.request.remainingBytes ∧ connection.request.remainingBytes ≤ connection.request.bodyNbytes

/-- A call and how it ended. -/
structure Exchange where
  call : Call
  before : Connection
  result : Int
  content : Bytes
  after : Connection

namespace Exchange

variable (client : Client) (exchange : Exchange)

/-- The number of bytes that a call should deliver. -/
def amount : Nat :=
  min exchange.call.length exchange.before.request.remainingBytes.toNat

/-- The string that the call delivered. -/
def delivered : Bytes :=
  exchange.content.take exchange.amount

/-- A bad result of `recv` during the call. -/
def Interrupted : Prop :=
  exists count, count < exchange.after.receives - exchange.before.receives ∧
    Bad client exchange.amount exchange.before.receives count

/-- The call delivers the next bytes of the stream with a terminator, and
returns the number of bytes that are still unread. -/
structure Delivers : Prop where
  smooth : ¬ exchange.Interrupted client
  result : exchange.result = exchange.before.request.remainingBytes - exchange.amount
  unread : exchange.after.request.remainingBytes = exchange.result
  delivered : exchange.delivered = load client.stream exchange.before.consumed exchange.amount
  terminated : exchange.content[exchange.amount]? = some 0
  consumed : exchange.after.consumed = exchange.before.consumed + exchange.amount

/-- The call returns an error and an empty string. -/
structure Refuses : Prop where
  interrupted : exchange.Interrupted client
  result : exchange.result < 0
  empty : exchange.content[0]? = some 0
  consumed : exchange.after.consumed ≤ exchange.before.consumed + exchange.amount

def Meets : Prop :=
  exchange.content.length = exchange.call.content.length ∧
    (exchange.Delivers client ∨ exchange.Refuses client)

end Exchange

theorem Ready.advance {connection : Connection} (ready : Ready connection) {amount : Nat} {after : Connection}
    (small : amount ≤ connection.request.remainingBytes.toNat)
    (same : after.request =
      { connection.request with remainingBytes := connection.request.remainingBytes - amount }) : Ready after := by
  rcases ready with ⟨parsed, plain, nonnegative, within⟩
  rw [Ready, same]
  dsimp only
  exact ⟨parsed, plain, by omega, by omega⟩

/-- What the call does behind its checks. -/
def CallEnded (client : Client) (call : Call) (before : Connection) (answer : Int × Pointer) (after : Connection) : Prop :=
  Ready after ∧ after.request.contentType = before.request.contentType ∧
    exists content, answer.2 = some content ∧ Exchange.Meets client ⟨call, before, answer.1, content, after⟩

/-- The loop and the terminator, in a buffer whose first byte was cleared. -/
theorem receiveRest_triple (client : Client) (call : Call) {before : Connection} (ready : Ready before) :
    Returns (fun state => state = before)
      (do
        let content <- receiveBody client (some (splice call.content 0 [0])) 0
          (if before.request.remainingBytes < (call.length : Int) then before.request.remainingBytes
            else call.length).toNat
        let content <- defined (store content (if before.request.remainingBytes < (call.length : Int) then
          before.request.remainingBytes else call.length).toNat [0])
        let connection <- Procedure.read
        pure (connection.request.remainingBytes, content))
      (CallEnded client call before) := by
  have positive := call.positive
  have room := call.room
  have cleared : (splice call.content 0 [0]).length = call.content.length :=
    length_splice (by rw [List.length_singleton]; omega)
  have requested : (if before.request.remainingBytes < (call.length : Int) then before.request.remainingBytes
      else call.length).toNat = min call.length before.request.remainingBytes.toNat := by
    split <;> omega
  rw [requested]
  have short : min call.length before.request.remainingBytes.toNat < (splice call.content 0 [0]).length := by omega
  have body := receiveBody_triple client before short (Nat.zero_le _)
  refine Triple.bind (body.weaken (fun _ same => same) (fun _ _ filled => filled) ?_) fun content => Triple.fix ?_
  · rintro (answer | _) after left
    · rcases left with ⟨code, ⟨emptied, same, length, zero⟩, cause, limit, amount, small, request⟩
      refine ⟨ready.advance (by omega) request, by rw [request], emptied, same, length.trans cleared,
        Or.inr ⟨cause, ?_, zero, limit⟩⟩
      rw [code]
      exact Int.negSucc_lt_zero 3
    · exact left
  · rintro after ⟨⟨filled, rfl, length, front⟩, receives, rfl, fine⟩
    have end' : min call.length before.request.remainingBytes.toNat + ([0] : Bytes).length ≤ filled.length := by
      rw [List.length_singleton]
      omega
    refine Triple.defined (store_some end') (Triple.read ?_)
    rintro current rfl
    refine Triple.pure ?_
    rintro state rfl
    rw [Nat.sub_zero] at front fine
    rw [← length] at short
    refine ⟨ready.advance (by omega) rfl, rfl, _, rfl, (length_splice end').trans (length.trans cleared),
      Or.inl ⟨?_, rfl, rfl, ?_, getElem?_splice_singleton short.le 0, rfl⟩⟩
    · rintro ⟨count, small, bad⟩
      exact fine count (by rwa [Connection.advance, Nat.add_sub_cancel_left] at small) bad
    · exact (take_splice_front short.le _).trans front

/-- The connection behind the headers. -/
def Client.headed (client : Client) (start : Connection) : Connection :=
  if start.request.hdrParsed = true then start
  else
    { (client.parseHdrTags start).2 with
      request := { (client.parseHdrTags start).2.request with hdrParsed := true } }

/-- A call in any state: it is refused by one of the checks, with an empty
string, or the body is read behind the headers. -/
theorem httpdGetData_ended (client : Client) (call : Call) (start : Connection) :
    Returns (fun state => state = start) (httpdGetData client (some call.content) call.length)
      (fun answer after => answer = (-dataRd, some (splice call.content 0 [0])) ∧
          (start.request.hdrParsed = true -> ¬ Ready start) ∨
        Ready (client.headed start) ∧ CallEnded client call (client.headed start) answer after) := by
  have positive := call.positive
  have room := call.room
  refine Triple.guard ?_ fun _ => Triple.defined (store_some (by rw [List.length_singleton]; omega)) ?_
  · rintro (null | empty)
    · cases null
    · omega
  have headers : Triple (fun state => state = start) (parseHeaders client (some (splice call.content 0 [0])))
      (fun _ state => (client.headed start).request.hdrParsed = true ∧ state = client.headed start)
      (Leaving.Meets (fun answer after => answer = (-dataRd, some (splice call.content 0 [0])) ∧
          (start.request.hdrParsed = true -> ¬ Ready start) ∨
        Ready (client.headed start) ∧ CallEnded client call (client.headed start) answer after) fun _ => False) := by
    refine Triple.read ?_
    rintro connection rfl
    refine Triple.ite (fun parsed => Triple.pure ?_) fun unparsed => ?_
    · rintro state rfl
      rw [Client.headed, if_pos parsed]
      exact ⟨parsed, rfl⟩
    · refine Triple.guard (fun _ _ _ => Or.inl ⟨rfl, fun parsed => absurd parsed unparsed⟩) fun _ => Triple.assign ?_
      refine Triple.guard (fun _ _ _ => Or.inl ⟨rfl, fun parsed => absurd parsed unparsed⟩) fun _ => Triple.update ?_
      rintro state rfl
      rw [Client.headed, if_neg unparsed]
      exact ⟨rfl, rfl⟩
  refine Triple.bind headers fun _ => Triple.read ?_
  rintro connection ⟨parsed, rfl⟩
  refine Triple.guard (fun bad state same => Or.inl ⟨rfl, fun already => ?_⟩) fun fine => ?_
  · rw [Client.headed, if_pos already] at bad
    rintro ⟨_, plain, nonnegative, within⟩
    rcases bad with chunked | negative | negative | much
    · rw [plain] at chunked
      cases chunked
    · omega
    · omega
    · omega
  · rw [not_or, not_or, not_or] at fine
    have ready : Ready (client.headed start) :=
      ⟨parsed, Bool.eq_false_of_not_eq_true fine.1, Int.not_lt.mp fine.2.2.1, Int.not_lt.mp fine.2.2.2⟩
    refine (receiveRest_triple client call ready).weaken (fun _ same => same) (fun _ _ ended => Or.inr ⟨ready, ended⟩) ?_
    rintro (answer | _) state left
    · exact Or.inr ⟨ready, left⟩
    · exact left

theorem httpdGetData_returns (client : Client) (call : Call) {start : Connection} (ready : Ready start) :
    Returns (fun state => state = start) (httpdGetData client (some call.content) call.length)
      (CallEnded client call start) := by
  have known (answer : Int × Pointer) (after : Connection)
      (ended : answer = (-dataRd, some (splice call.content 0 [0])) ∧ (start.request.hdrParsed = true -> ¬ Ready start) ∨
        Ready (client.headed start) ∧ CallEnded client call (client.headed start) answer after) :
      CallEnded client call start answer after := by
    rcases ended with ⟨_, refused⟩ | ⟨_, ended⟩
    · exact absurd ready (refused ready.1)
    · rw [Client.headed, if_pos ready.1] at ended
      exact ended
  refine (httpdGetData_ended client call start).weaken (fun _ same => same) known ?_
  rintro (answer | _) state left
  · exact known answer state left
  · exact left

/-! ## Sequences of calls -/

/-- All calls of a handler, one after the other. -/
def exchanges (client : Client) : List Call -> Connection -> Option (List Exchange)
  | [], _ => some []
  | call :: calls, before =>
      match run (httpdGetData client (some call.content) call.length) before with
      | some ((result, some content), after) =>
          (exchanges client calls after).map (⟨call, before, result, content, after⟩ :: ·)
      | _ => none

/-- A call that succeeds delivers. -/
theorem Exchange.Meets.delivers {client : Client} {exchange : Exchange} (meets : exchange.Meets client)
    (success : 0 ≤ exchange.result) : exchange.Delivers client := by
  rcases meets.2 with delivers | refuses
  · exact delivers
  · have failed := refuses.result
    omega

/-- Every call of every sequence is defined and does what it should.  As long as
the calls succeed, they deliver the stream without gaps and take nothing that
lies behind the body. -/
theorem httpdGetData_delivers_body (client : Client) (calls : List Call) (connection : Connection)
    (ready : Ready connection) :
    exists log, exchanges client calls connection = some log ∧ log.map Exchange.call = calls ∧
      (forall exchange, exchange ∈ log -> exchange.Meets client) ∧
      ((forall exchange, exchange ∈ log -> 0 ≤ exchange.result) ->
        log.flatMap Exchange.delivered = load client.stream connection.consumed (log.map Exchange.amount).sum ∧
        (log.map Exchange.amount).sum ≤ connection.request.remainingBytes) := by
  induction calls generalizing connection with
  | nil =>
      refine ⟨[], rfl, rfl, fun _ impossible => (nomatch impossible), fun _ => ⟨rfl, ?_⟩⟩
      exact ready.2.2.1
  | cons call calls inductionHypothesis =>
      rcases (httpdGetData_returns client call ready).run_eq rfl with
        ⟨⟨result, _⟩, after, ended, again, _, content, rfl, meets⟩
      rcases inductionHypothesis after again with ⟨log, rest, same, all, whole⟩
      refine ⟨⟨call, connection, result, content, after⟩ :: log, ?_, ?_, ?_, fun success => ?_⟩
      · rw [exchanges, ended]
        dsimp only
        rw [rest, Option.map_some]
      · rw [List.map_cons, same]
      · exact List.forall_mem_cons.mpr ⟨meets, all⟩
      · rw [List.forall_mem_cons] at success
        rcases whole success.2 with ⟨joined, within⟩
        have delivers := meets.delivers success.1
        rw [List.flatMap_cons, List.map_cons, List.sum_cons, joined, load_add, delivers.delivered]
        have unread := delivers.unread
        have left := delivers.result
        refine ⟨?_, ?_⟩
        · rw [delivers.consumed]
        · rw [Int.natCast_add]
          change after.request.remainingBytes = result at unread
          change result = connection.request.remainingBytes -
            (Exchange.amount ⟨call, connection, result, content, after⟩ : Int) at left
          omega

/-- A stream that counts, in a piece of two bytes and single bytes. -/
def countingClient : Client where
  stream index := UInt8.ofNat index
  recv index := if index = 0 then 2 else 1
  headerBuffer := true
  parseHdrTags connection := (0, connection)

/-- A body of three bytes. -/
def shortBody : Connection where
  request := { hdrParsed := true, chunked := false, bodyNbytes := 3, remainingBytes := 3, contentType := [0] }
  consumed := 0
  receives := 0

theorem httpdGetData_delivers_shortBody :
    Ready shortBody ∧ exists log, exchanges countingClient
      [⟨[9, 9, 9], 2, by decide, by decide⟩, ⟨[9, 9, 9], 2, by decide, by decide⟩] shortBody = some log ∧
      log.map Exchange.result = [1, 0] ∧
      log.flatMap Exchange.delivered = load countingClient.stream 0 (log.map Exchange.amount).sum := by
  have ready : Ready shortBody := ⟨rfl, rfl, by decide, by decide⟩
  rcases httpdGetData_delivers_body countingClient
    [⟨[9, 9, 9], 2, by decide, by decide⟩, ⟨[9, 9, 9], 2, by decide, by decide⟩] shortBody ready with
    ⟨log, ended, _, _, whole⟩
  have results : (exchanges countingClient
      [⟨[9, 9, 9], 2, by decide, by decide⟩, ⟨[9, 9, 9], 2, by decide, by decide⟩] shortBody).map
        (List.map Exchange.result) = some [1, 0] := by decide +kernel
  rw [ended, Option.map_some, Option.some.injEq] at results
  refine ⟨ready, log, ended, results, (whole fun exchange member => ?_).1⟩
  have answered := List.mem_map_of_mem member (f := Exchange.result)
  rw [results] at answered
  simp only [List.mem_cons, List.not_mem_nil, or_false] at answered
  omega

end Web
end DevKit
