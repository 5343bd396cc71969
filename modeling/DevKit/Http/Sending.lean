import DevKit.Foundation.Procedure
import Mathlib.Algebra.BigOperators.Group.List.Basic

namespace DevKit
namespace Http

open Procedure

/-!
# Sending a request

`HttpsRequest::send` writes the head that the header builder made, the body in
chunks of 4000 bytes, and a line end.  `TLSSocket::send` hands a chunk to the
TCP socket, through a callback that retries, or to the TLS layer.  Both may take
less than they are offered.

The environment answers every call with any number.  The state records what it
accepted and what was asked of it, so that the bytes which the program counts as
sent can be compared with those that left.
-/

/-- `NSAPI_ERROR_WOULD_BLOCK` -/
def wouldBlock : Int := -3001

/-- `NSAPI_ERROR_NO_SOCKET` -/
def noSocket : Int := -3005

/-- One call of `TCPSocket::send` or `mbedtls_ssl_write`: the number of bytes
offered, and the result. -/
inductive Call where
  | tcp (offered : Nat) (result : Int)
  | ssl (offered : Nat) (result : Int)
deriving Repr, DecidableEq

/-- The object's error field, the bytes accepted by the TCP socket or as
plaintext by the TLS layer, the calls, and whether the socket was closed. -/
structure Line where
  error : Int
  accepted : Bytes
  calls : List Call
  closed : Bool
deriving Repr, DecidableEq

def Line.fresh : Line where
  error := 0
  accepted := []
  calls := []
  closed := false

/-- The socket object and what its environment answers: the outcome of the
connection with its handshake, and the results of the calls, by number. -/
structure TLSSocket where
  hasSocket : Bool
  hasCertificate : Bool
  connect : Int
  tcp : Nat -> Int32
  ssl : Nat -> Int32

namespace TLSSocket

variable (socket : TLSSocket) {Exit : Type}

/-- No call accepts more than it is offered. -/
def tcpSend (data : Bytes) : Procedure Line Exit Int := fun line =>
  let result := min (socket.tcp line.calls.length).toInt data.length
  (.ok result, { line with
    accepted := line.accepted ++ data.take result.toNat, calls := line.calls ++ [.tcp data.length result] })

def sslWrite (data : Bytes) : Procedure Line Exit Int := fun line =>
  let result := min (socket.ssl line.calls.length).toInt data.length
  (.ok result, { line with
    accepted := line.accepted ++ data.take result.toNat, calls := line.calls ++ [.ssl data.length result] })

/-- A call that sends nothing is repeated. -/
def trySend (data : Bytes) : Nat -> Procedure Line Exit Int
  | 0 => pure 0
  | tries + 1 => do
      let size <- tcpSend socket data
      if size ≠ 0 then pure size else trySend data tries

/-- The callback claims that a call which would block has sent everything. -/
def sslSend (data : Bytes) : Procedure Line Exit Int := do
  let size <- trySend socket data 5
  pure (if size = wouldBlock then data.length else if size ≤ 0 then -1 else size)

/-- The loop without TLS, with the number of bytes to report.  Nothing is ever
sent of no bytes, so the second condition does not stop the loop. -/
def sendPlain (size : Nat) (data : Bytes) : Procedure Line Exit Int := do
  let result <- sslSend socket data
  if _more : 0 < result ∧ data ≠ [] then
    if data.drop result.toNat = [] then pure size else sendPlain size (data.drop result.toNat)
  else pure result
termination_by data.length
decreasing_by
  have nonempty : 0 < data.length := List.length_pos_iff.mpr _more.2
  rw [List.length_drop]
  omega

def send (data : Bytes) : Procedure Line Exit Int :=
  if socket.hasSocket = false then pure noSocket
  else if socket.hasCertificate = false then sendPlain socket data.length data
  else sslWrite socket data

def connectResult : Int :=
  if socket.hasSocket = false then noSocket else socket.connect

end TLSSocket

/-- The conversion of a result to `size_t`. -/
def toSize (result : Int) : Nat :=
  (result % 2 ^ 32).toNat

/-- A string on the heap of the target. -/
structure Block where
  bytes : Bytes
  fits : bytes.length < 2 ^ 31

/-! ## `HttpsRequest::send` up to the response -/

section Request

variable (socket : TLSSocket)

/-- The socket is closed, and the request returns `NULL`. -/
def giveUp {Value : Type} : Procedure Line Unit Value := do
  update fun line => { line with closed := true }
  exit ()

/-- Hand over one part, and note the result in the object. -/
def sendPart (data : Bytes) : Procedure Line Unit Int := do
  let result <- socket.send data
  update fun line => { line with error := result }
  pure result

def sendHead (head : Block) : Procedure Line Unit Unit := do
  let result <- sendPart socket head.bytes
  if toSize result ≠ head.bytes.length then giveUp else pure ()

def sendChunk (data : Bytes) : Procedure Line Unit Unit := do
  let result <- sendPart socket data
  if result < 0 then giveUp else pure ()

def sendBody (body : Bytes) : Procedure Line Unit Unit :=
  blockwise 4000 (by decide) body.length (fun offset size _ => sendChunk socket (slice body offset size)) 0 ()

/-- The line end behind the body. -/
def ending : Bytes := [0x0d, 0x0a]

/-- The part of `HttpsRequest::send` in front of the response.  The header
builder makes the head for the size of the body. -/
def sendRequest (build : Nat -> Block) (body : Option Bytes) : Procedure Line Unit Unit := do
  update fun line => { line with error := socket.connectResult }
  reject (socket.connectResult ≠ 0) ()
  sendHead socket (build (body.getD []).length)
  sendBody socket (body.getD [])
  sendChunk socket ending

end Request

/-! ## What was lost -/

/-- The bytes of a call that the program counts as sent although they were not
accepted. -/
def Call.lost : Call -> Nat
  | .tcp offered result => if result = wouldBlock then offered else 0
  | .ssl offered result => offered - result.toNat

def Line.lost (line : Line) : Nat :=
  (line.calls.map Call.lost).sum

/-- Of the bytes that count as sent, all were accepted in order, or some were
lost. -/
structure Delivered (data : Bytes) (line : Line) : Prop where
  counted : line.accepted.length + line.lost = data.length
  intact : line.lost = 0 -> line.accepted = data

theorem Delivered.accepted_eq_iff {data : Bytes} {line : Line} (delivered : Delivered data line) :
    line.accepted = data <-> forall call, call ∈ line.calls -> call.lost = 0 := by
  have none : line.lost = 0 <-> forall call, call ∈ line.calls -> call.lost = 0 := by
    rw [Line.lost, List.sum_eq_zero_iff]
    simp only [List.mem_map, forall_exists_index, and_imp, forall_apply_eq_imp_iff₂]
  rw [← none]
  refine ⟨fun same => ?_, delivered.intact⟩
  have counted := delivered.counted
  rw [same] at counted
  omega

theorem delivered_fresh : Delivered [] Line.fresh :=
  ⟨rfl, fun _ => rfl⟩

/-- The next call accepts the first part of what it is offered, and the program
counts more as sent. -/
theorem Delivered.call {before : Bytes} {line : Line} (delivered : Delivered before line) (data : Bytes) (call : Call)
    {taken counted : Nat} (balance : taken + call.lost = counted) (within : counted ≤ data.length) :
    Delivered (before ++ data.take counted)
      { line with accepted := line.accepted ++ data.take taken, calls := line.calls ++ [call] } := by
  have lost : Line.lost { line with accepted := line.accepted ++ data.take taken, calls := line.calls ++ [call] } =
      line.lost + call.lost := by
    simp only [Line.lost, List.map_append, List.sum_append, List.map_cons, List.map_nil, List.sum_singleton]
  have whole := delivered.counted
  constructor
  · rw [lost]
    simp only [List.length_append, List.length_take]
    omega
  · rw [lost]
    intro nothing
    have same : taken = counted := by omega
    rw [delivered.intact (by omega), same]

/-! ## The calls -/

section Calls

variable {socket : TLSSocket} {Exit : Type} {exited : Exit -> Line -> Prop} {before data : Bytes}

open TLSSocket

theorem Delivered.line {line : Line} (delivered : Delivered before line) (error : Int) (closed : Bool) :
    Delivered before { line with error, closed } :=
  ⟨delivered.counted, delivered.intact⟩

/-- A result of the TCP socket is a number of bytes that it took or an error.
An error that says that the call would block loses the whole offer, as the
callback will count it. -/
theorem tcpSend_triple :
    Triple (Delivered before) (tcpSend socket data)
      (fun result line => result ≤ data.length ∧
        (result = wouldBlock -> Delivered (before ++ data) line) ∧
        (result ≠ wouldBlock -> Delivered (before ++ data.take result.toNat) line)) exited := by
  intro line delivered
  refine ⟨fun result reached ended => ?_, fun _ _ impossible => by cases impossible⟩
  cases ended
  refine ⟨min_le_right _ _, fun blocked => ?_, fun other => ?_⟩
  · have nothing : (min (socket.tcp line.calls.length).toInt data.length).toNat = 0 := by
      rw [blocked]
      rfl
    have balance : (min (socket.tcp line.calls.length).toInt data.length).toNat +
        (Call.tcp data.length (min (socket.tcp line.calls.length).toInt data.length)).lost = data.length := by
      rw [Call.lost, if_pos blocked, nothing, Nat.zero_add]
    have whole := delivered.call data _ balance le_rfl
    rwa [List.take_length] at whole
  · refine delivered.call data _ ?_ (by omega)
    rw [Call.lost, if_neg other, Nat.add_zero]

theorem trySend_triple (tries : Nat) :
    Triple (Delivered before) (trySend socket data tries)
      (fun result line => result ≤ data.length ∧
        (result = wouldBlock -> Delivered (before ++ data) line) ∧
        (result ≠ wouldBlock -> Delivered (before ++ data.take result.toNat) line)) exited := by
  induction tries with
  | zero =>
      refine Triple.pure fun line delivered => ⟨by omega, fun blocked => absurd blocked (by decide), fun _ => ?_⟩
      simpa using delivered
  | succ tries inductionHypothesis =>
      refine tcpSend_triple.bind fun size => Triple.ite (fun _ => Triple.pure fun _ ended => ended) fun zero => ?_
      have nothing : size = 0 := Classical.not_not.mp zero
      subst nothing
      refine inductionHypothesis.strengthen fun line ended => ?_
      simpa using ended.2.2 (by decide)

/-- What the callback reports as sent counts as sent. -/
theorem sslSend_triple :
    Triple (Delivered before) (sslSend socket data)
      (fun result line => -1 ≤ result ∧ result ≤ data.length ∧ (result = 0 -> data = []) ∧
        (0 ≤ result -> Delivered (before ++ data.take result.toNat) line)) exited := by
  refine (trySend_triple 5).bind fun size => Triple.pure fun line ended => ?_
  rcases ended with ⟨bound, blocked, other⟩
  by_cases block : size = wouldBlock
  · rw [if_pos block]
    refine ⟨by omega, le_rfl, fun zero => List.length_eq_zero_iff.mp (by omega), fun _ => ?_⟩
    simpa using blocked block
  rw [if_neg block]
  by_cases failed : size ≤ 0
  · rw [if_pos failed]
    exact ⟨le_rfl, by omega, fun zero => by omega, fun positive => by omega⟩
  · rw [if_neg failed]
    exact ⟨by omega, bound, fun zero => by omega, fun _ => other block⟩

/-- The loop reports the whole size or fails. -/
theorem sendPlain_triple (size : Nat) (small : data.length ≤ size) :
    Triple (Delivered before) (sendPlain socket size data)
      (fun result line => -1 ≤ result ∧ (0 ≤ result -> Delivered (before ++ data) line)) exited := by
  induction length : data.length using Nat.strongRecOn generalizing before data with
  | _ _ inductionHypothesis =>
      rw [sendPlain]
      refine sslSend_triple.bind fun result => ?_
      split
      case isTrue more =>
        have nonempty : 0 < data.length := List.length_pos_iff.mpr more.2
        refine Triple.ite (fun finished => Triple.pure fun line ended => ⟨by omega, fun _ => ?_⟩) fun unfinished => ?_
        · have delivered := ended.2.2.2 (by omega)
          rwa [List.take_of_length_le (List.drop_eq_nil_iff.mp finished)] at delivered
        · have shorter : (data.drop result.toNat).length < data.length := by
            rw [List.length_drop]
            omega
          have rest : Triple (Delivered (before ++ data.take result.toNat))
              (sendPlain socket size (data.drop result.toNat))
              (fun final line => -1 ≤ final ∧
                (0 ≤ final -> Delivered (before ++ data.take result.toNat ++ data.drop result.toNat) line)) exited :=
            inductionHypothesis _ (length ▸ shorter) (by omega) rfl
          rw [List.append_assoc, List.take_append_drop] at rest
          exact rest.strengthen fun line ended => ended.2.2.2 (by omega)
      case isFalse stopped =>
        refine Triple.pure fun line ended => ⟨ended.1, fun success => ?_⟩
        have empty : data = [] := by
          by_contra nonempty
          have zero : result = 0 := by
            have : ¬ 0 < result := fun positive => stopped ⟨positive, nonempty⟩
            omega
          exact nonempty (ended.2.2.1 zero)
        have delivered := ended.2.2.2 success
        rwa [empty, List.take_nil, ← empty] at delivered

theorem sslWrite_triple :
    Triple (Delivered before) (sslWrite socket data)
      (fun result line => -2 ^ 31 ≤ result ∧ (0 ≤ result -> Delivered (before ++ data) line)) exited := by
  intro line delivered
  refine ⟨fun result reached ended => ?_, fun _ _ impossible => by cases impossible⟩
  cases ended
  have lower := Int32.le_toInt (socket.ssl line.calls.length)
  refine ⟨by omega, fun success => ?_⟩
  have balance : (min (socket.ssl line.calls.length).toInt data.length).toNat +
      (Call.ssl data.length (min (socket.ssl line.calls.length).toInt data.length)).lost = data.length := by
    rw [Call.lost]
    omega
  have whole := delivered.call data _ balance le_rfl
  rwa [List.take_length] at whole

/-- A result that is not negative says that the whole offer counts as sent. -/
theorem send_triple :
    Triple (Delivered before) (send socket data)
      (fun result line => -2 ^ 31 ≤ result ∧ (0 ≤ result -> Delivered (before ++ data) line)) exited := by
  refine Triple.ite (fun _ => Triple.pure fun line _ => ?_) fun _ => Triple.ite (fun _ => ?_) fun _ => sslWrite_triple
  · exact ⟨by decide, fun impossible => absurd impossible (by decide)⟩
  · exact (sendPlain_triple data.length le_rfl).weaken (fun _ holds => holds)
      (fun result line ended => ⟨by omega, ended.2⟩) (fun _ _ left => left)

end Calls

/-! ## The request -/

section Outcome

variable {socket : TLSSocket} {before data : Bytes}

theorem sendPart_triple :
    Triple (Delivered before) (sendPart socket data)
      (fun result line => -2 ^ 31 ≤ result ∧ (0 ≤ result -> Delivered (before ++ data) line))
      (fun _ _ => True) := by
  refine send_triple.bind fun result => ?_
  have noted : Triple (fun line => -2 ^ 31 ≤ result ∧ (0 ≤ result -> Delivered (before ++ data) line))
      (update fun line => { line with error := result })
      (fun _ line => -2 ^ 31 ≤ result ∧ (0 ≤ result -> Delivered (before ++ data) line)) (fun (_ : Unit) _ => True) :=
    Triple.update fun line ended => ⟨ended.1, fun success => (ended.2 success).line result line.closed⟩
  exact noted.bind fun _ => Triple.pure fun _ ended => ended

theorem giveUp_triple {Value : Type} {pre : Line -> Prop} {post : Value -> Line -> Prop} :
    Triple pre giveUp post (fun _ _ => True) :=
  Triple.bind (Triple.fix fun _ _ => Triple.update fun _ _ => trivial)
    fun _ => Triple.exit fun (_ : Line) (_ : True) => trivial

theorem sendChunk_triple :
    Triple (Delivered before) (sendChunk socket data) (fun _ => Delivered (before ++ data)) (fun _ _ => True) :=
  sendPart_triple.bind fun _ => Triple.ite (fun _ => giveUp_triple) fun fine =>
    Triple.pure fun _ ended => ended.2 (by omega)

/-- The head counts as sent when its size comes back: a negative result is no
size of a string. -/
theorem sendHead_triple {head : Block} :
    Triple (Delivered before) (sendHead socket head) (fun _ => Delivered (before ++ head.bytes)) (fun _ _ => True) := by
  refine sendPart_triple.bind fun result => Triple.ite (fun _ => giveUp_triple) fun same => ?_
  refine Triple.pure fun line ended => ended.2 ?_
  have fits := head.fits
  have size : toSize result = head.bytes.length := Classical.not_not.mp same
  unfold toSize at size
  omega

theorem sendBody_triple {body : Bytes} :
    Triple (Delivered before) (sendBody socket body) (fun _ => Delivered (before ++ body)) (fun _ _ => True) := by
  refine (Triple.blockwise (fun offset (_ : Unit) => Delivered (before ++ body.take offset))
    (fun offset _ _ => ?_) 0 () (Nat.zero_le _)).weaken (fun line holds => ?_) (fun _ line ended => ?_)
    (fun _ _ left => left)
  · have chunk : Triple (Delivered (before ++ body.take offset))
        (sendChunk socket (slice body offset (min (body.length - offset) 4000)))
        (fun _ => Delivered (before ++ body.take offset ++ slice body offset (min (body.length - offset) 4000)))
        (fun _ _ => True) := sendChunk_triple
    rw [List.append_assoc, slice, ← List.take_add] at chunk
    exact chunk
  · rwa [List.take_zero, List.append_nil]
  · rwa [List.take_length] at ended

/-- A request that gets past the sending phase has handed over exactly its head,
its body and the line end if and only if no call lost anything: no call of the
TCP socket answered that it would block while there was something to send, and
the TLS layer took everything that it was offered. -/
theorem sendRequest_intact_iff (socket : TLSSocket) (build : Nat -> Block) (body : Option Bytes) {reached : Line}
    (passed : sendRequest socket build body Line.fresh = (.ok (), reached)) :
    reached.accepted = (build (body.getD []).length).bytes ++ body.getD [] ++ ending <->
      forall call, call ∈ reached.calls -> call.lost = 0 := by
  have sent : Triple (Delivered []) (sendRequest socket build body)
      (fun _ => Delivered ([] ++ (build (body.getD []).length).bytes ++ body.getD [] ++ ending)) (fun _ _ => True) := by
    have noted : Triple (Delivered []) (update fun line => { line with error := socket.connectResult })
        (fun _ => Delivered []) (fun (_ : Unit) _ => True) :=
      Triple.update fun line delivered => delivered.line socket.connectResult line.closed
    refine noted.bind fun _ => Triple.guard (fun _ _ _ => trivial) fun _ => ?_
    exact sendHead_triple.bind fun _ => sendBody_triple.bind fun _ => sendChunk_triple
  exact (sent.value delivered_fresh passed).accepted_eq_iff

end Outcome

/-- A socket that is connected and accepts everything. -/
def willing (hasCertificate : Bool) : TLSSocket where
  hasSocket := true
  hasCertificate
  connect := 0
  tcp _ := 4000
  ssl _ := 4000

/-- The head `GET`, for any body. -/
def shortHead : Block where
  bytes := [0x47, 0x45, 0x54]
  fits := by decide

/-- The body `ab` through TLS. -/
theorem sendRequest_intact_willing :
    exists reached, sendRequest (willing true) (fun _ => shortHead) (some [0x61, 0x62]) Line.fresh =
        (.ok (), reached) ∧
      reached.accepted = [0x47, 0x45, 0x54, 0x61, 0x62, 0x0d, 0x0a] := by
  have passed : sendRequest (willing true) (fun _ => shortHead) (some [0x61, 0x62]) Line.fresh = (.ok (),
      ⟨2, [0x47, 0x45, 0x54, 0x61, 0x62, 0x0d, 0x0a], [.ssl 3 3, .ssl 2 2, .ssl 2 2], false⟩) := by
    decide +kernel
  exact ⟨_, passed, (sendRequest_intact_iff (willing true) (fun _ => shortHead) (some [0x61, 0x62]) passed).mpr
    (by decide)⟩

/-- The plain socket would block when it is offered the body: the request goes
on without it. -/
theorem sendRequest_loses_blocked_body :
    exists reached, sendRequest
        { willing false with tcp := fun call => if call = 1 then -3001 else 4000 } (fun _ => shortHead)
        (some [0x61, 0x62]) Line.fresh = (.ok (), reached) ∧
      reached.accepted = [0x47, 0x45, 0x54, 0x0d, 0x0a] := by
  refine ⟨⟨2, [0x47, 0x45, 0x54, 0x0d, 0x0a], [.tcp 3 3, .tcp 2 (-3001), .tcp 2 2], false⟩, ?_, rfl⟩
  decide +kernel

end Http
end DevKit
