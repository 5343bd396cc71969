import DevKit.Udp.Multicast

namespace DevKit
namespace Udp

variable {World : Type}

/-!
# What the multicast transport sends

The packet under composition is a function of the history: the writes since the
last `beginPacket`.  While the object is active and has not overflowed, its send
buffer holds exactly these bytes, so what `endPacket` hands to lwIP is what was
composed.  The same induction shows that `failed` remembers every failure since
the last restart and that sockets are opened and closed in pairs.
-/

/-! ## Reading a history -/

def Record.beginsPacket (record : Record) : Bool :=
  match record.call with
  | .beginPacket _ _ => true
  | _ => false

def Record.target (record : Record) : Option (IPAddress × UInt16) :=
  match record.call with
  | .beginPacket address port => some (address, port)
  | _ => none

/-- `stop` and `beginMulticast` start afresh. -/
def Record.restarts (record : Record) : Bool :=
  match record.call with
  | .stop => true
  | .beginMulticast _ _ => true
  | _ => false

/-- The bytes given to a `write`. -/
def Record.data (record : Record) : Bytes :=
  match record.call with
  | .write (some data) => data
  | _ => []

def Record.rejected (record : Record) : Bool :=
  decide (record.answer = .written none)

def Exchange.isSent : Exchange -> Bool
  | .sent _ _ _ _ => true
  | _ => false

def Record.sends (record : Record) : Bool :=
  record.exchanges.any Exchange.isSent

/-- A receive error other than would-block, or a datagram that does not fit. -/
def Exchange.faulty : Exchange -> Bool
  | .received (.failure wouldBlock _) => !wouldBlock
  | .received (.datagram payload _) => decide (rxCapacity < payload.length)
  | _ => false

/-- A rejected write, an `endPacket` that returned 0, or a faulty receive. -/
def Record.failure (record : Record) : Bool :=
  record.rejected || decide (record.call = .endPacket ∧ record.answer = .flag false) ||
    record.exchanges.any Exchange.faulty

/-- The calls since the last `beginPacket`. -/
def packetLog (history : List Record) : List Record :=
  since Record.beginsPacket history

/-- The bytes of all writes since the last `beginPacket`. -/
def composed (history : List Record) : Bytes :=
  (packetLog history).flatMap Record.data

/-- The calls since the last `stop` or `beginMulticast`. -/
def restartLog (history : List Record) : List Record :=
  since Record.restarts history

def Exchange.concernsSocket : Exchange -> Bool
  | .opened _ => true
  | .closed _ => true
  | _ => false

/-- The openings and closings of sockets, in order. -/
def socketLog (history : List Record) : List Exchange :=
  (history.flatMap Record.exchanges).filter Exchange.concernsSocket

/-! ## The packet under composition -/

/-- The object while a packet is active. -/
structure Composing (object : AZ3166MulticastUDP) (history : List Record) : Prop where
  target : latest Record.target history = some (object.destination, object.destinationPort)
  quiet : forall record, record ∈ packetLog history -> record.sends = false
  accepted : object.overflow = false -> forall record, record ∈ packetLog history -> record.rejected = false
  length : object.overflow = false -> object.sendLength = (composed history).length
  bounded : object.overflow = false -> object.sendLength ≤ txCapacity
  buffer : object.overflow = false ->
    object.sendBuffer.bytes.take object.sendLength = composed history

/-- The part of the object that sending depends on. -/
def AZ3166MulticastUDP.packet (object : AZ3166MulticastUDP) :
    IPAddress × UInt16 × Nat × Bool × Bool × Buffer txCapacity :=
  (object.destination, object.destinationPort, object.sendLength, object.packetActive, object.overflow,
    object.sendBuffer)

theorem packetLog_concat {history : List Record} {record : Record} (within : record.beginsPacket = false) :
    packetLog (history ++ [record]) = packetLog history ++ [record] :=
  since_concat_unmarked within

theorem composed_concat {history : List Record} {record : Record} (within : record.beginsPacket = false) :
    composed (history ++ [record]) = composed history ++ record.data := by
  rw [composed, packetLog_concat within, List.flatMap_append, List.flatMap_singleton, composed]

theorem target_of_within {record : Record} (within : record.beginsPacket = false) : record.target = none := by
  rcases record with ⟨call, exchanges, answer⟩
  cases call with
  | beginPacket address port => cases within
  | _ => rfl

theorem forall_mem_concat {holds : Record -> Prop} {records : List Record} {record : Record}
    (earlier : forall other, other ∈ records -> holds other) (last : holds record) :
    forall other, other ∈ records ++ [record] -> holds other := by
  intro other member
  rcases List.mem_append.mp member with inside | final
  · exact earlier other inside
  · rw [List.mem_singleton.mp final]
    exact last

/-- A call that neither composes nor sends leaves the packet as it is. -/
theorem Composing.aside {object later : AZ3166MulticastUDP} {history : List Record} {record : Record}
    (composing : Composing object history) (same : later.packet = object.packet)
    (within : record.beginsPacket = false) (quiet : record.sends = false) (accepted : record.rejected = false)
    (nothing : record.data = []) : Composing later (history ++ [record]) := by
  simp only [AZ3166MulticastUDP.packet, Prod.mk.injEq] at same
  rcases same with ⟨destination, port, length, _, overflow, buffer⟩
  have unchanged : composed (history ++ [record]) = composed history := by
    rw [composed_concat within, nothing, List.append_nil]
  refine ⟨?_, ?_, ?_, ?_, ?_, ?_⟩
  · rw [latest_concat_none (target_of_within within), composing.target, destination, port]
  · rw [packetLog_concat within]
    exact forall_mem_concat composing.quiet quiet
  · rw [overflow, packetLog_concat within]
    exact fun clean => forall_mem_concat (composing.accepted clean) accepted
  · rw [overflow, length, unchanged]
    exact composing.length
  · rw [overflow, length]
    exact composing.bounded
  · rw [overflow, length, buffer, unchanged]
    exact composing.buffer

/-- An accepted write extends the packet by its bytes. -/
theorem Composing.written {object : AZ3166MulticastUDP} {history : List Record} {data : Bytes}
    (composing : Composing object history) (clean : object.overflow = false)
    (fits : data.length ≤ txCapacity - object.sendLength) :
    Composing { object with
      sendBuffer := object.sendBuffer.memcpy object.sendLength data
      sendLength := object.sendLength + data.length }
      (history ++ [⟨.write (some data), [], .written (some data.length)⟩]) := by
  have bounded := composing.bounded clean
  have room : object.sendLength + data.length ≤ txCapacity := by omega
  refine ⟨?_, ?_, ?_, ?_, ?_, ?_⟩
  · rw [latest_concat_none rfl]
    exact composing.target
  · rw [packetLog_concat rfl]
    exact forall_mem_concat composing.quiet rfl
  · intro _
    rw [packetLog_concat rfl]
    exact forall_mem_concat (composing.accepted clean) rfl
  · intro _
    rw [composed_concat rfl, List.length_append, ← composing.length clean]
    rfl
  · exact fun _ => room
  · intro _
    rw [composed_concat rfl, ← composing.buffer clean]
    exact object.sendBuffer.take_memcpy object.sendLength data room

/-- A rejected write marks the packet, which can then no longer be sent. -/
theorem Composing.rejected {object : AZ3166MulticastUDP} {history : List Record} {buffer : Option Bytes}
    (composing : Composing object history) :
    Composing { object with overflow := true, failed := true }
      (history ++ [⟨.write buffer, [], .written none⟩]) := by
  refine ⟨?_, ?_, nofun, nofun, nofun, nofun⟩
  · rw [latest_concat_none rfl]
    exact composing.target
  · rw [packetLog_concat rfl]
    exact forall_mem_concat composing.quiet rfl

theorem Composing.began (object : AZ3166MulticastUDP) (history : List Record) (address : IPAddress)
    (port : UInt16) (active : Bool) :
    Composing { object with
      destination := address, destinationPort := port, sendLength := 0, packetActive := active, overflow := false }
      (history ++ [⟨.beginPacket address port, [], .flag active⟩]) := by
  have fresh : packetLog (history ++ [⟨.beginPacket address port, [], .flag active⟩]) = [] :=
    since_concat_marked rfl
  refine ⟨latest_concat_some rfl, ?_, ?_, ?_, ?_, ?_⟩
  · rw [fresh]
    exact fun record member => absurd member List.not_mem_nil
  · rw [fresh]
    exact fun _ record member => absurd member List.not_mem_nil
  · rw [composed, fresh]
    exact fun _ => rfl
  · exact fun _ => Nat.zero_le _
  · rw [composed, fresh]
    exact fun _ => List.take_zero

theorem composing_step {object later : AZ3166MulticastUDP} {history : List Record} {call : Call}
    {exchanges : List Exchange} {answer : Answer}
    (composing : object.packetActive = true -> Composing object history)
    (effect : Effect object call exchanges answer later) (active : later.packetActive = true) :
    Composing later (history ++ [⟨call, exchanges, answer⟩]) := by
  cases effect with
  | localAddress address => exact (composing active).aside rfl rfl rfl rfl rfl
  | invalid address port => cases active
  | refused address port result negative => cases active
  | opened address port socket valid setup plain => cases active
  | abandoned address port socket valid setup plain => cases active
  | stopped => cases active
  | began address port wanted decision => exact Composing.began object history address port wanted
  | rejected buffer refusal => exact (composing active).rejected
  | written data _ clean fits => exact (composing active).written clean fits
  | dropped unsendable => cases active
  | lost _ clean nonempty result short => cases active
  | sent _ clean nonempty => cases active
  | unopened => exact (composing active).aside rfl rfl rfl rfl rfl
  | unreceived wouldBlock overwritten => exact (composing active).aside rfl rfl rfl rfl rfl
  | empty sender => exact (composing active).aside rfl rfl rfl rfl rfl
  | oversize payload sender long => exact (composing active).aside rfl rfl rfl rfl rfl
  | arrived payload sender positive fits => exact (composing active).aside rfl rfl rfl rfl rfl
  | unread size => exact (composing active).aside rfl rfl rfl rfl rfl
  | read size count amount => exact (composing active).aside rfl rfl rfl rfl rfl
  | flushed => exact (composing active).aside rfl rfl rfl rfl rfl

/-! ## The failure flag -/

theorem failed_of_effect {object later : AZ3166MulticastUDP} {call : Call} {exchanges : List Exchange}
    {answer : Answer} (effect : Effect object call exchanges answer later)
    (continues : Record.restarts ⟨call, exchanges, answer⟩ = false) :
    later.failed = (object.failed || Record.failure ⟨call, exchanges, answer⟩) := by
  cases effect with
  | localAddress address => exact (Bool.or_false _).symm
  | invalid address port => cases continues
  | refused address port result negative => cases continues
  | opened address port socket valid setup plain => cases continues
  | abandoned address port socket valid setup plain => cases continues
  | stopped => cases continues
  | began address port active decision => exact (Bool.or_false _).symm
  | rejected buffer refusal => exact (Bool.or_true _).symm
  | written data active clean fits => exact (Bool.or_false _).symm
  | dropped unsendable => exact (Bool.or_true _).symm
  | lost active clean nonempty result short => exact (Bool.or_true _).symm
  | sent active clean nonempty => exact (Bool.or_false _).symm
  | unopened => exact (Bool.or_false _).symm
  | unreceived wouldBlock overwritten =>
      cases wouldBlock with
      | false => rfl
      | true => rfl
  | empty sender => exact (Bool.or_false _).symm
  | oversize payload sender long =>
      have faulty : Record.failure ⟨.parsePacket, [.received (.datagram payload sender)], .available 0⟩ = true := by
        change (false || false || (decide (rxCapacity < payload.length) || false)) = true
        rw [decide_eq_true long]
        rfl
      rw [faulty, Bool.or_true]
  | arrived payload sender positive fits =>
      have fine : Record.failure ⟨.parsePacket, [.received (.datagram payload sender)],
          .available payload.length⟩ = false := by
        change (false || false || (decide (rxCapacity < payload.length) || false)) = false
        rw [decide_eq_false (Nat.not_lt.mpr fits)]
        rfl
      rw [fine, Bool.or_false]
  | unread size => exact (Bool.or_false _).symm
  | read size count amount => exact (Bool.or_false _).symm
  | flushed => exact (Bool.or_false _).symm

theorem failed_of_restart {object later : AZ3166MulticastUDP} {call : Call} {exchanges : List Exchange}
    {answer : Answer} (effect : Effect object call exchanges answer later)
    (restarts : Record.restarts ⟨call, exchanges, answer⟩ = true) : later.failed = false := by
  cases effect <;> first | rfl | cases restarts

theorem failed_step {object later : AZ3166MulticastUDP} {history : List Record} {call : Call}
    {exchanges : List Exchange} {answer : Answer}
    (remembers : object.failed = true <-> exists record, record ∈ restartLog history ∧ record.failure = true)
    (effect : Effect object call exchanges answer later) :
    later.failed = true <-> exists record, record ∈ restartLog (history ++ [⟨call, exchanges, answer⟩]) ∧
      record.failure = true := by
  cases mark : Record.restarts ⟨call, exchanges, answer⟩ with
  | true =>
      rw [failed_of_restart effect mark, restartLog, since_concat_marked mark]
      constructor
      · intro impossible
        cases impossible
      · rintro ⟨record, member, _⟩
        exact absurd member List.not_mem_nil
  | false =>
      have longer : restartLog (history ++ [⟨call, exchanges, answer⟩]) =
          restartLog history ++ [⟨call, exchanges, answer⟩] := since_concat_unmarked mark
      rw [failed_of_effect effect mark, Bool.or_eq_true, remembers, longer]
      constructor
      · rintro (⟨record, member, failure⟩ | failure)
        · exact ⟨record, List.mem_append_left _ member, failure⟩
        · exact ⟨_, List.mem_append_right _ (List.mem_singleton_self _), failure⟩
      · rintro ⟨record, member, failure⟩
        rcases List.mem_append.mp member with inside | last
        · exact Or.inl ⟨record, inside, failure⟩
        · rw [List.mem_singleton.mp last] at failure
          exact Or.inr failure

/-! ## Sockets -/

/-- One socket, opened and closed. -/
def openedAndClosed (socket : Int) : List Exchange :=
  [.opened socket, .closed socket]

/-- The opening of the socket that the object still holds. -/
def AZ3166MulticastUDP.holding (object : AZ3166MulticastUDP) : List Exchange :=
  if 0 ≤ object.socket then [.opened object.socket] else []

/-- Every socket of the history has been closed, except the one held. -/
def Paired (object : AZ3166MulticastUDP) (history : List Record) : Prop :=
  exists sockets, socketLog history = List.flatMap openedAndClosed sockets ++ object.holding

theorem holding_closing (object : AZ3166MulticastUDP) :
    exists sockets, object.holding ++ object.closing = List.flatMap openedAndClosed sockets := by
  rw [AZ3166MulticastUDP.holding, AZ3166MulticastUDP.closing]
  split
  · exact ⟨[object.socket], rfl⟩
  · exact ⟨[], rfl⟩

theorem holding_of_negative {object : AZ3166MulticastUDP} (negative : object.socket < 0) : object.holding = [] :=
  if_neg (Int.not_le.mpr negative)

theorem holding_of_valid {object : AZ3166MulticastUDP} (valid : 0 ≤ object.socket) :
    object.holding = [.opened object.socket] :=
  if_pos valid

theorem socketLog_concat (history : List Record) (record : Record) :
    socketLog (history ++ [record]) = socketLog history ++ record.exchanges.filter Exchange.concernsSocket := by
  rw [socketLog, List.flatMap_append, List.filter_append, List.flatMap_singleton, socketLog]

theorem filter_closing (object : AZ3166MulticastUDP) :
    object.closing.filter Exchange.concernsSocket = object.closing := by
  rw [AZ3166MulticastUDP.closing]
  split <;> rfl

theorem filter_setup {setup : List Exchange}
    (plain : forall exchange, exchange ∈ setup -> exists step result, exchange = .configured step result) :
    setup.filter Exchange.concernsSocket = [] := by
  rw [List.filter_eq_nil_iff]
  intro exchange member
  rcases plain exchange member with ⟨step, result, rfl⟩
  exact Bool.false_ne_true

/-- A call that leaves the socket alone. -/
theorem Paired.aside {object later : AZ3166MulticastUDP} {history : List Record} {record : Record}
    (paired : Paired object history) (same : later.socket = object.socket)
    (plain : record.exchanges.filter Exchange.concernsSocket = []) : Paired later (history ++ [record]) := by
  rcases paired with ⟨sockets, split⟩
  refine ⟨sockets, ?_⟩
  rw [socketLog_concat, plain, List.append_nil, split, AZ3166MulticastUDP.holding, AZ3166MulticastUDP.holding, same]

/-- A call that gives up the socket, opens and closes `tried` and keeps what
`later` holds. -/
theorem Paired.reopened {object later : AZ3166MulticastUDP} {history : List Record} {record : Record}
    (paired : Paired object history) (tried : List Int)
    (exchanges : record.exchanges.filter Exchange.concernsSocket =
      object.closing ++ (List.flatMap openedAndClosed tried ++ later.holding)) :
    Paired later (history ++ [record]) := by
  rcases paired with ⟨sockets, split⟩
  rcases holding_closing object with ⟨given, closed⟩
  refine ⟨sockets ++ (given ++ tried), ?_⟩
  calc
    socketLog (history ++ [record])
        = List.flatMap openedAndClosed sockets ++ (object.holding ++ object.closing) ++
            (List.flatMap openedAndClosed tried ++ later.holding) := by
          rw [socketLog_concat, split, exchanges]
          simp only [List.append_assoc]
    _ = List.flatMap openedAndClosed (sockets ++ (given ++ tried)) ++ later.holding := by
          rw [closed]
          simp only [List.flatMap_append, List.append_assoc]

theorem paired_step {object later : AZ3166MulticastUDP} {history : List Record} {call : Call}
    {exchanges : List Exchange} {answer : Answer} (paired : Paired object history)
    (effect : Effect object call exchanges answer later) :
    Paired later (history ++ [⟨call, exchanges, answer⟩]) := by
  cases effect with
  | localAddress address => exact paired.aside rfl rfl
  | invalid address port =>
      apply paired.reopened []
      rw [filter_closing]
      exact (List.append_nil _).symm
  | refused address port result negative =>
      apply paired.reopened []
      rw [List.filter_append, filter_closing, holding_of_negative negative]
      rfl
  | opened address port socket valid setup plain =>
      apply paired.reopened []
      rw [List.filter_append, filter_closing, holding_of_valid valid, List.filter_cons_of_pos rfl, filter_setup plain]
      rfl
  | abandoned address port socket valid setup plain =>
      apply paired.reopened [socket]
      rw [List.filter_append, filter_closing, List.filter_cons_of_pos rfl, List.filter_append, filter_setup plain]
      rfl
  | stopped =>
      apply paired.reopened []
      rw [filter_closing]
      exact (List.append_nil _).symm
  | began address port active decision => exact paired.aside rfl rfl
  | rejected buffer refusal => exact paired.aside rfl rfl
  | written data active clean fits => exact paired.aside rfl rfl
  | dropped unsendable => exact paired.aside rfl rfl
  | lost active clean nonempty result short => exact paired.aside rfl rfl
  | sent active clean nonempty => exact paired.aside rfl rfl
  | unopened => exact paired.aside rfl rfl
  | unreceived wouldBlock overwritten => exact paired.aside rfl rfl
  | empty sender => exact paired.aside rfl rfl
  | oversize payload sender long => exact paired.aside rfl rfl
  | arrived payload sender positive fits => exact paired.aside rfl rfl
  | unread size => exact paired.aside rfl rfl
  | read size count amount => exact paired.aside rfl rfl
  | flushed => exact paired.aside rfl rfl

/-! ## What is sent -/

/-- What a call sends, given the calls before it. -/
structure SendRule (before : List Record) (record : Record) : Prop where
  sent : forall socket data destination result, .sent socket data destination result ∈ record.exchanges ->
    record.call = .endPacket ∧ record.exchanges = [.sent socket data destination result] ∧
      (exists address port, latest Record.target before = some (address, port) ∧
        destination = socketAddress address port) ∧
      data = composed before ∧ 1 ≤ data.length ∧ data.length ≤ txCapacity
  once : record.sends = true -> forall earlier, earlier ∈ packetLog before -> earlier.sends = false
  rejected : (exists earlier, earlier ∈ packetLog before ∧ earlier.rejected = true) -> record.sends = false
  answered : record.call = .endPacket ->
    (record.answer = .flag true ∨ record.answer = .flag false) ∧
      (record.answer = .flag true <->
        exists socket data destination, record.exchanges = [.sent socket data destination data.length])

/-- A call other than `endPacket` hands no datagram to lwIP. -/
theorem SendRule.silent {before : List Record} {record : Record} (silent : record.sends = false)
    (other : record.call ≠ .endPacket) : SendRule before record := by
  refine ⟨?_, ?_, fun _ => silent, fun ending => absurd ending other⟩
  · intro socket data destination result member
    have sends : record.sends = true := List.any_eq_true.mpr ⟨_, member, rfl⟩
    rw [silent] at sends
    cases sends
  · rw [silent]
    exact nofun

/-- `endPacket` hands over the composed packet. -/
theorem SendRule.ended {object : AZ3166MulticastUDP} {before : List Record} {result : Int} {value : Bool}
    (composing : Composing object before) (clean : object.overflow = false) (nonempty : object.sendLength ≠ 0)
    (decision : value = true <-> result = (object.sendLength : Int)) :
    SendRule before ⟨.endPacket, [.sent object.socket (object.sendBuffer.bytes.take object.sendLength)
      (socketAddress object.destination object.destinationPort) result], .flag value⟩ := by
  have whole := composing.buffer clean
  have length := composing.length clean
  have bounded := composing.bounded clean
  refine ⟨?_, fun _ => composing.quiet, ?_, fun _ => ⟨?_, ?_⟩⟩
  · intro socket data destination outcome member
    cases List.mem_singleton.mp member
    refine ⟨rfl, rfl, ⟨_, _, composing.target, rfl⟩, whole, ?_, ?_⟩
    · rw [whole, ← length]
      exact Nat.one_le_iff_ne_zero.mpr nonempty
    · rw [whole, ← length]
      exact bounded
  · rintro ⟨earlier, member, rejected⟩
    rw [composing.accepted clean earlier member] at rejected
    cases rejected
  · cases value with
    | true => exact Or.inl rfl
    | false => exact Or.inr rfl
  · constructor
    · intro success
      cases success
      refine ⟨object.socket, composed before, socketAddress object.destination object.destinationPort, ?_⟩
      rw [whole, ← length, decision.mp rfl]
    · rintro ⟨socket, data, destination, same⟩
      simp only [List.cons.injEq, Exchange.sent.injEq, and_true] at same
      rcases same with ⟨_, rfl, _, counted⟩
      rw [whole, ← length] at counted
      rw [decision.mpr counted]

theorem sendRule_step {object later : AZ3166MulticastUDP} {history : List Record} {call : Call}
    {exchanges : List Exchange} {answer : Answer}
    (composing : object.packetActive = true -> Composing object history)
    (effect : Effect object call exchanges answer later) : SendRule history ⟨call, exchanges, answer⟩ := by
  have quietClosing : object.closing.any Exchange.isSent = false := by
    rw [AZ3166MulticastUDP.closing]
    split <;> rfl
  have quietSetup {setup : List Exchange}
      (plain : forall exchange, exchange ∈ setup -> exists step result, exchange = .configured step result) :
      setup.any Exchange.isSent = false := by
    rw [List.any_eq_false]
    intro exchange member
    rcases plain exchange member with ⟨step, result, rfl⟩
    exact Bool.false_ne_true
  cases effect with
  | localAddress address => exact .silent rfl (by rintro ⟨⟩)
  | invalid address port => exact .silent quietClosing (by rintro ⟨⟩)
  | refused address port result negative =>
      refine .silent ?_ (by rintro ⟨⟩)
      rw [Record.sends, List.any_append, quietClosing]
      rfl
  | opened address port socket valid setup plain =>
      refine .silent ?_ (by rintro ⟨⟩)
      rw [Record.sends, List.any_append, quietClosing, List.any_cons, quietSetup plain]
      rfl
  | abandoned address port socket valid setup plain =>
      refine .silent ?_ (by rintro ⟨⟩)
      rw [Record.sends, List.any_append, quietClosing, List.any_cons, List.any_append, quietSetup plain]
      rfl
  | stopped => exact .silent quietClosing (by rintro ⟨⟩)
  | began address port active decision => exact .silent rfl (by rintro ⟨⟩)
  | rejected buffer refusal => exact .silent rfl (by rintro ⟨⟩)
  | written data active clean fits => exact .silent rfl (by rintro ⟨⟩)
  | dropped unsendable =>
      refine ⟨fun socket data destination result member => absurd member List.not_mem_nil, by rintro ⟨⟩,
        fun _ => rfl, fun _ => ⟨Or.inr rfl, by rintro ⟨⟩, ?_⟩⟩
      rintro ⟨socket, data, destination, impossible⟩
      cases impossible
  | lost active clean nonempty result short =>
      exact .ended (composing active) clean nonempty ⟨by rintro ⟨⟩, fun whole => absurd whole short⟩
  | sent active clean nonempty => exact .ended (composing active) clean nonempty ⟨fun _ => rfl, fun _ => rfl⟩
  | unopened => exact .silent rfl (by rintro ⟨⟩)
  | unreceived wouldBlock overwritten => exact .silent rfl (by rintro ⟨⟩)
  | empty sender => exact .silent rfl (by rintro ⟨⟩)
  | oversize payload sender long => exact .silent rfl (by rintro ⟨⟩)
  | arrived payload sender positive fits => exact .silent rfl (by rintro ⟨⟩)
  | unread size => exact .silent rfl (by rintro ⟨⟩)
  | read size count amount => exact .silent rfl (by rintro ⟨⟩)
  | flushed => exact .silent rfl (by rintro ⟨⟩)

/-! ## Whole sessions -/

/-- What holds between the calls of a session. -/
structure Sending (session : Session World) : Prop where
  composing : session.object.packetActive = true -> Composing session.object session.history
  failed : session.object.failed = true <->
    exists record, record ∈ restartLog session.history ∧ record.failure = true
  paired : Paired session.object session.history
  rules : Always SendRule session.history

theorem sending_start (receiveBuffer : Buffer (rxCapacity + 1)) (sendBuffer : Buffer txCapacity) (world : World) :
    Sending (Session.start receiveBuffer sendBuffer world) := by
  refine ⟨nofun, ⟨nofun, ?_⟩, ⟨[], rfl⟩, always_nil SendRule⟩
  rintro ⟨record, member, _⟩
  exact absurd member List.not_mem_nil

theorem Sending.step {session : Session World} (sending : Sending session) (lwip : Lwip World) (call : Call) :
    Sending (session.step lwip call) := by
  have effect := effect_perform lwip call session.object session.world
  exact ⟨composing_step sending.composing effect, failed_step sending.failed effect,
    paired_step sending.paired effect,
    always_concat.mpr ⟨sending.rules, sendRule_step sending.composing effect⟩⟩

theorem Sending.run {session : Session World} (sending : Sending session) (lwip : Lwip World)
    (calls : List Call) : Sending (session.run lwip calls) := by
  induction calls generalizing session with
  | nil => exact sending
  | cons call calls inductionHypothesis => exact inductionHypothesis (sending.step lwip call)

/-- Over every session, on every network: a call sends what the packet rule
allows, the failure flag is the failures since the last restart, and sockets are
closed once each before the next is opened, the last one by the destructor. -/
theorem multicast_sends_composed (lwip : Lwip World) (receiveBuffer : Buffer (rxCapacity + 1))
    (sendBuffer : Buffer txCapacity) (world : World) (calls : List Call) :
    let session := (Session.start receiveBuffer sendBuffer world).run lwip calls
    (forall before record after, session.history = before ++ record :: after -> SendRule before record) ∧
      (session.object.failed = true <->
        exists record, record ∈ restartLog session.history ∧ record.failure = true) ∧
      (exists sockets, socketLog session.history =
        List.flatMap openedAndClosed sockets ++ session.object.holding) ∧
      exists sockets, socketLog (session.destroy lwip).history = List.flatMap openedAndClosed sockets := by
  intro session
  have sending : Sending session := (sending_start receiveBuffer sendBuffer world).run lwip calls
  refine ⟨sending.rules, sending.failed, sending.paired, ?_⟩
  rcases (sending.step lwip .stop).paired with ⟨sockets, split⟩
  refine ⟨sockets, split.trans ?_⟩
  have released : (session.step lwip .stop).object.holding = [] := by
    apply holding_of_negative
    change (stop lwip _).object.socket < 0
    rw [stop_object]
    exact Int.negSucc_lt_zero 0
  rw [released, List.append_nil]

/-- A network on which every operation succeeds and nothing arrives. -/
def sampleNetwork : Lwip Unit where
  socket _ := (3, ())
  configure _ _ _ := (0, ())
  sendto _ data _ _ := (data.length, ())
  recvfrom _ _ _ := (.failure true [], ())
  close _ _ := ()

def samplePacket : List Call :=
  [.setLocalIPv4Address ⟨192, 168, 0, 2⟩, .beginMulticast ⟨224, 0, 0, 251⟩ 5353,
    .beginPacket ⟨224, 0, 0, 251⟩ 5353, .write (some [1, 2]), .write (some [3]), .endPacket]

theorem multicast_sends_samplePacket :
    let session := (Session.start (Buffer.zero _) (Buffer.zero _) ()).run sampleNetwork samplePacket
    exists before record, session.history = before ++ [record] ∧
      record.exchanges = [.sent 3 [1, 2, 3] (socketAddress ⟨224, 0, 0, 251⟩ 5353) 3] ∧
      SendRule before record ∧ session.object.failed = false := by
  intro session
  have rules := multicast_sends_composed sampleNetwork (Buffer.zero _) (Buffer.zero _) () samplePacket
  have split : session.history = session.history.take 5 ++
      [⟨.endPacket, [.sent 3 [1, 2, 3] (socketAddress ⟨224, 0, 0, 251⟩ 5353) 3], .flag true⟩] := by
    decide +kernel
  exact ⟨_, _, split, rfl, rules.1 _ _ [] split, by decide +kernel⟩

end Udp
end DevKit
