import DevKit.Udp.Multicast

namespace DevKit
namespace Udp

variable {World : Type}

/-!
# What the multicast transport delivers

Every `parsePacket`, `flush`, `stop` and `beginMulticast` installs a new current
datagram: the one that arrived, if it has between 1 and 1536 bytes, and nothing
otherwise.  The reads since then deliver its bytes from the front.  The receive
buffer may hold anything behind the current datagram; no read reaches it.
-/

/-! ## Reading a history -/

/-- The datagram that a call installs for reading, with its sender. -/
def Record.arrival (record : Record) : Option (Bytes × SocketAddressIn) :=
  match record.exchanges with
  | [.received (.datagram payload sender)] =>
      if 1 ≤ payload.length ∧ payload.length ≤ rxCapacity then some (payload, sender) else none
  | _ => none

/-- The calls that discard what was left to read. -/
def Record.discards (record : Record) : Bool :=
  match record.call with
  | .parsePacket => true
  | .flush => true
  | .stop => true
  | .beginMulticast _ _ => true
  | _ => false

/-- The contents that a discarding call leaves for reading. -/
def Record.installs (record : Record) : Option Bytes :=
  if record.discards then some ((record.arrival.map Prod.fst).getD []) else none

/-- The bytes returned by a `read`. -/
def Record.delivered (record : Record) : Bytes :=
  match record.answer with
  | .delivered data => data
  | _ => []

/-- The number of bytes asked for by a `read` into a buffer. -/
def Record.requested (record : Record) : Nat :=
  match record.call with
  | .read true size => size
  | _ => 0

/-- The datagram that reads are served from. -/
def current (history : List Record) : Bytes :=
  (latest Record.installs history).getD []

/-- The calls since the current datagram was installed. -/
def readLog (history : List Record) : List Record :=
  since Record.discards history

def requestedSince (history : List Record) : Nat :=
  ((readLog history).map Record.requested).sum

/-- The reads so far are the front of the current datagram. -/
def Delivered (history : List Record) : Prop :=
  (readLog history).flatMap Record.delivered = (current history).take (requestedSince history)

/-- The sender of the last datagram that was installed. -/
def lastSender (history : List Record) : Option SocketAddressIn :=
  (latest Record.arrival history).map Prod.snd

/-! ## The receive buffer -/

/-- The object's receive fields in terms of the history. -/
structure Serving (object : AZ3166MulticastUDP) (history : List Record) : Prop where
  length : object.receiveLength = (current history).length
  bounded : object.receiveLength ≤ rxCapacity
  offset : object.receiveOffset = min (requestedSince history) object.receiveLength
  buffer : object.receiveBuffer.bytes.take object.receiveLength = current history
  delivered : Delivered history
  remote : (object.remoteAddress, object.remotePort) =
    ((lastSender history).map remoteOf).getD (IPAddress.none, 0)

/-- The part of the object that receiving depends on. -/
def AZ3166MulticastUDP.inbox (object : AZ3166MulticastUDP) :
    IPAddress × UInt16 × Nat × Nat × Buffer (rxCapacity + 1) :=
  (object.remoteAddress, object.remotePort, object.receiveLength, object.receiveOffset, object.receiveBuffer)

theorem current_concat_keeping {history : List Record} {record : Record} (keeps : record.discards = false) :
    current (history ++ [record]) = current history := by
  have skipped : record.installs = none := by
    rw [Record.installs, keeps]
    rfl
  rw [current, latest_concat_none skipped, current]

theorem current_concat_discarding {history : List Record} {record : Record} (discards : record.discards = true) :
    current (history ++ [record]) = (record.arrival.map Prod.fst).getD [] := by
  have installed : record.installs = some ((record.arrival.map Prod.fst).getD []) := by
    rw [Record.installs, discards]
    rfl
  rw [current, latest_concat_some installed]
  rfl

theorem readLog_concat_keeping {history : List Record} {record : Record} (keeps : record.discards = false) :
    readLog (history ++ [record]) = readLog history ++ [record] :=
  since_concat_unmarked keeps

theorem requestedSince_concat {history : List Record} {record : Record} (keeps : record.discards = false) :
    requestedSince (history ++ [record]) = requestedSince history + record.requested := by
  rw [requestedSince, readLog_concat_keeping keeps, List.map_append, List.sum_append, requestedSince]
  rfl

theorem lastSender_concat_none {history : List Record} {record : Record} (nothing : record.arrival = none) :
    lastSender (history ++ [record]) = lastSender history := by
  rw [lastSender, latest_concat_none nothing, lastSender]

/-- A call that neither receives nor reads. -/
theorem Serving.aside {object later : AZ3166MulticastUDP} {history : List Record} {record : Record}
    (serving : Serving object history) (same : later.inbox = object.inbox) (keeps : record.discards = false)
    (nothing : record.arrival = none) (silent : record.delivered = []) (idle : record.requested = 0) :
    Serving later (history ++ [record]) := by
  simp only [AZ3166MulticastUDP.inbox, Prod.mk.injEq] at same
  rcases same with ⟨address, port, length, offset, buffer⟩
  have requests : requestedSince (history ++ [record]) = requestedSince history := by
    rw [requestedSince_concat keeps, idle, Nat.add_zero]
  refine ⟨?_, ?_, ?_, ?_, ?_, ?_⟩
  · rw [current_concat_keeping keeps, length, serving.length]
  · rw [length]
    exact serving.bounded
  · rw [requests, length, offset]
    exact serving.offset
  · rw [current_concat_keeping keeps, length, buffer]
    exact serving.buffer
  · rw [Delivered, readLog_concat_keeping keeps, List.flatMap_append, List.flatMap_singleton, silent,
      List.append_nil, current_concat_keeping keeps, requests]
    exact serving.delivered
  · rw [lastSender_concat_none nothing, address, port]
    exact serving.remote

/-- A discarding call that installs nothing. -/
theorem Serving.emptied {object later : AZ3166MulticastUDP} {history : List Record} {record : Record}
    (serving : Serving object history) (discards : record.discards = true) (nothing : record.arrival = none)
    (length : later.receiveLength = 0) (offset : later.receiveOffset = 0)
    (remote : (later.remoteAddress, later.remotePort) = (object.remoteAddress, object.remotePort)) :
    Serving later (history ++ [record]) := by
  have gone : current (history ++ [record]) = [] := by
    rw [current_concat_discarding discards, nothing]
    rfl
  have fresh : readLog (history ++ [record]) = [] := since_concat_marked discards
  refine ⟨?_, ?_, ?_, ?_, ?_, ?_⟩
  · rw [gone, length]
    rfl
  · rw [length]
    exact Nat.zero_le _
  · rw [offset, length, Nat.min_zero]
  · rw [gone, length, List.take_zero]
  · rw [Delivered, fresh, gone, List.take_nil]
    rfl
  · rw [lastSender_concat_none nothing, remote]
    exact serving.remote

/-- A `parsePacket` that installs a datagram. -/
theorem Serving.arrived (object : AZ3166MulticastUDP) (history : List Record) {payload : Bytes}
    {sender : SocketAddressIn} (positive : 0 < payload.length) (fits : payload.length ≤ rxCapacity) :
    Serving { object with
      receiveOffset := 0, receiveBuffer := object.receiveBuffer.memcpy 0 payload,
      remoteAddress := (remoteOf sender).1, remotePort := (remoteOf sender).2, receiveLength := payload.length }
      (history ++ [⟨.parsePacket, [.received (.datagram payload sender)], .available payload.length⟩]) := by
  have arrival : Record.arrival ⟨.parsePacket, [.received (.datagram payload sender)],
      .available payload.length⟩ = some (payload, sender) :=
    if_pos ⟨positive, fits⟩
  have installed : current (history ++ [⟨.parsePacket, [.received (.datagram payload sender)],
      .available payload.length⟩]) = payload := by
    rw [current_concat_discarding rfl, arrival]
    rfl
  have fresh : readLog (history ++ [⟨.parsePacket, [.received (.datagram payload sender)],
      .available payload.length⟩]) = [] := since_concat_marked rfl
  refine ⟨?_, fits, ?_, ?_, ?_, ?_⟩
  · rw [installed]
  · rw [requestedSince, fresh]
    exact (Nat.zero_min _).symm
  · rw [installed]
    have copied := object.receiveBuffer.take_memcpy 0 payload (by omega)
    rw [Nat.zero_add, List.take_zero, List.nil_append] at copied
    exact copied
  · rw [Delivered, requestedSince, fresh]
    exact List.take_zero.symm
  · rw [lastSender, latest_concat_some arrival]
    rfl

/-- A read takes the next bytes of the current datagram. -/
theorem Serving.read {object : AZ3166MulticastUDP} {history : List Record} (serving : Serving object history)
    {size count : Nat} (amount : count = min size (object.receiveLength - object.receiveOffset)) :
    Serving { object with receiveOffset := object.receiveOffset + count }
      (history ++ [⟨.read true size, [],
        .delivered (slice object.receiveBuffer.bytes object.receiveOffset count)⟩]) := by
  have offset := serving.offset
  have length := serving.length
  have requests : requestedSince (history ++ [⟨.read true size, [],
      .delivered (slice object.receiveBuffer.bytes object.receiveOffset count)⟩]) =
        requestedSince history + size := requestedSince_concat rfl
  have piece : slice object.receiveBuffer.bytes object.receiveOffset count =
      slice (current history) object.receiveOffset count := by
    rw [← serving.buffer, slice_take _ _ _ _ (by omega)]
  refine ⟨?_, serving.bounded, ?_, ?_, ?_, ?_⟩
  · rw [current_concat_keeping rfl]
    exact length
  · rw [requests]
    change object.receiveOffset + count = min (requestedSince history + size) object.receiveLength
    omega
  · rw [current_concat_keeping rfl]
    exact serving.buffer
  · rw [Delivered, readLog_concat_keeping rfl, List.flatMap_append, List.flatMap_singleton,
      current_concat_keeping rfl, requests, serving.delivered]
    change _ ++ slice object.receiveBuffer.bytes object.receiveOffset count = _
    have front : (current history).take (requestedSince history) =
        (current history).take object.receiveOffset := by
      rw [List.take_eq_take_iff]
      omega
    have whole : (current history).take (requestedSince history + size) =
        (current history).take (object.receiveOffset + count) := by
      rw [List.take_eq_take_iff]
      omega
    rw [piece, front, whole, List.take_add]
    rfl
  · rw [lastSender_concat_none rfl]
    exact serving.remote

theorem arrival_closing (object : AZ3166MulticastUDP) (tail : List Exchange) (call : Call) (answer : Answer)
    (plain : tail = [] ∨ exists first rest, tail = first :: rest ∧
      forall payload sender, first ≠ .received (.datagram payload sender)) :
    Record.arrival ⟨call, object.closing ++ tail, answer⟩ = none := by
  rw [AZ3166MulticastUDP.closing]
  split
  · rfl
  · rcases plain with rfl | ⟨first, rest, rfl, other⟩
    · rfl
    · cases first with
      | received reception =>
          cases reception with
          | failure wouldBlock overwritten => rfl
          | datagram payload sender => exact absurd rfl (other payload sender)
      | _ => rfl

theorem serving_step {object later : AZ3166MulticastUDP} {history : List Record} {call : Call}
    {exchanges : List Exchange} {answer : Answer} (serving : Serving object history)
    (effect : Effect object call exchanges answer later) :
    Serving later (history ++ [⟨call, exchanges, answer⟩]) := by
  have unreceived (answer : Answer) (call : Call) :
      Record.arrival ⟨call, object.closing, answer⟩ = none := by
    have plain := arrival_closing object [] call answer (Or.inl rfl)
    rw [List.append_nil] at plain
    exact plain
  cases effect with
  | localAddress address => exact serving.aside rfl rfl rfl rfl rfl
  | invalid address port => exact serving.emptied rfl (unreceived _ _) rfl rfl rfl
  | refused address port result negative =>
      exact serving.emptied rfl (arrival_closing _ _ _ _ (Or.inr ⟨_, _, rfl, nofun⟩)) rfl rfl rfl
  | opened address port socket valid setup plain =>
      exact serving.emptied rfl (arrival_closing _ _ _ _ (Or.inr ⟨_, _, rfl, nofun⟩)) rfl rfl rfl
  | abandoned address port socket valid setup plain =>
      exact serving.emptied rfl (arrival_closing _ _ _ _ (Or.inr ⟨_, _, rfl, nofun⟩)) rfl rfl rfl
  | stopped => exact serving.emptied rfl (unreceived _ _) rfl rfl rfl
  | began address port active decision => exact serving.aside rfl rfl rfl rfl rfl
  | rejected buffer refusal => exact serving.aside rfl rfl rfl rfl rfl
  | written data active clean fits => exact serving.aside rfl rfl rfl rfl rfl
  | dropped unsendable => exact serving.aside rfl rfl rfl rfl rfl
  | lost active clean nonempty result short => exact serving.aside rfl rfl rfl rfl rfl
  | sent active clean nonempty => exact serving.aside rfl rfl rfl rfl rfl
  | unopened => exact serving.emptied rfl rfl rfl rfl rfl
  | unreceived wouldBlock overwritten => exact serving.emptied rfl rfl rfl rfl rfl
  | empty sender => exact serving.emptied rfl rfl rfl rfl rfl
  | oversize payload sender long =>
      exact serving.emptied rfl (if_neg fun fits => absurd fits.2 (Nat.not_le.mpr long)) rfl rfl rfl
  | arrived payload sender positive fits => exact Serving.arrived object history positive fits
  | unread size => exact serving.aside rfl rfl rfl rfl rfl
  | read size count amount => exact serving.read amount
  | flushed => exact serving.emptied rfl rfl rfl rfl rfl

/-! ## What `parsePacket` answers -/

/-- The answer is the length of the datagram installed, and zero without one. -/
def ParseRule (record : Record) : Prop :=
  record.call = .parsePacket -> record.answer = .available ((record.arrival.map Prod.fst).getD []).length

theorem parseRule_of_effect {object later : AZ3166MulticastUDP} {call : Call} {exchanges : List Exchange}
    {answer : Answer} (effect : Effect object call exchanges answer later) :
    ParseRule ⟨call, exchanges, answer⟩ := by
  intro parses
  cases effect with
  | unopened => rfl
  | unreceived wouldBlock overwritten => rfl
  | empty sender => rfl
  | oversize payload sender long =>
      have refused : Record.arrival ⟨.parsePacket, [.received (.datagram payload sender)], .available 0⟩ = none :=
        if_neg fun fits => absurd fits.2 (Nat.not_le.mpr long)
      rw [refused]
      rfl
  | arrived payload sender positive fits =>
      have arrival : Record.arrival ⟨.parsePacket, [.received (.datagram payload sender)],
          .available payload.length⟩ = some (payload, sender) := if_pos ⟨positive, fits⟩
      rw [arrival]
      rfl
  | _ => cases parses

/-! ## Whole sessions -/

structure Receiving (session : Session World) : Prop where
  serving : Serving session.object session.history
  delivered : Throughout Delivered session.history
  parses : Always (fun _ => ParseRule) session.history

theorem receiving_start (receiveBuffer : Buffer (rxCapacity + 1)) (sendBuffer : Buffer txCapacity)
    (world : World) : Receiving (Session.start receiveBuffer sendBuffer world) :=
  ⟨⟨rfl, Nat.zero_le _, rfl, List.take_zero, rfl, rfl⟩, throughout_nil rfl, always_nil _⟩

theorem Receiving.step {session : Session World} (receiving : Receiving session) (lwip : Lwip World)
    (call : Call) : Receiving (session.step lwip call) := by
  have effect := effect_perform lwip call session.object session.world
  have serving := serving_step receiving.serving effect
  exact ⟨serving, throughout_concat receiving.delivered serving.delivered,
    always_concat.mpr ⟨receiving.parses, parseRule_of_effect effect⟩⟩

theorem Receiving.run {session : Session World} (receiving : Receiving session) (lwip : Lwip World)
    (calls : List Call) : Receiving (session.run lwip calls) := by
  induction calls generalizing session with
  | nil => exact receiving
  | cons call calls inductionHypothesis => exact inductionHypothesis (receiving.step lwip call)

/-- The calls after a discarding one read what it installed. -/
theorem Receiving.reads {session : Session World} (receiving : Receiving session) {before reads rest : List Record}
    {record : Record} (split : session.history = before ++ record :: (reads ++ rest))
    (discards : record.discards = true) (keep : forall other, other ∈ reads -> other.discards = false) :
    reads.flatMap Record.delivered =
      ((record.arrival.map Prod.fst).getD []).take (reads.map Record.requested).sum := by
  have inside : (before ++ [record]) ++ reads <+: session.history := by
    rw [split]
    refine ⟨rest, ?_⟩
    simp only [List.append_assoc, List.cons_append, List.nil_append]
  have log : readLog ((before ++ [record]) ++ reads) = reads := by
    rw [readLog, since_append_unmarked keep, since_concat_marked discards, List.nil_append]
  have installed : current ((before ++ [record]) ++ reads) = current (before ++ [record]) := by
    rw [current, latest_append_none, current]
    intro other member
    rw [Record.installs, keep other member]
    rfl
  have delivered := receiving.delivered _ inside
  rw [Delivered, requestedSince, log, installed, current_concat_discarding discards] at delivered
  exact delivered

theorem Receiving.reads_unopened {session : Session World} (receiving : Receiving session)
    {reads rest : List Record} (split : session.history = reads ++ rest)
    (keep : forall other, other ∈ reads -> other.discards = false) : reads.flatMap Record.delivered = [] := by
  have delivered := receiving.delivered reads ⟨rest, split.symm⟩
  have log : readLog ([] ++ reads) = readLog [] ++ reads := since_append_unmarked keep
  have nothing : current reads = [] := by
    have whole : latest Record.installs ([] ++ reads) = latest Record.installs [] := by
      apply latest_append_none
      intro other member
      rw [Record.installs, keep other member]
      rfl
    rw [current]
    exact congrArg (Option.getD · []) whole
  rw [Delivered, nothing, List.take_nil] at delivered
  rw [List.nil_append] at log
  rw [log] at delivered
  exact delivered

theorem arrival_eq_some {record : Record} {payload : Bytes} {sender : SocketAddressIn} :
    record.arrival = some (payload, sender) <->
      record.exchanges = [.received (.datagram payload sender)] ∧ 1 ≤ payload.length ∧
        payload.length ≤ rxCapacity := by
  rw [Record.arrival]
  constructor
  · intro arrives
    split at arrives
    · rename_i found origin exchanges
      split at arrives
      · rename_i fits
        cases arrives
        exact ⟨exchanges, fits⟩
      · cases arrives
    · cases arrives
  · rintro ⟨exchanges, fits⟩
    rw [exchanges]
    exact if_pos fits

/-- Over every session, on every network: the receive offsets stay in bounds; a
`parsePacket` answers the length of the datagram that arrived, if it has between
1 and 1536 bytes, and zero otherwise; the reads up to the next discarding call
deliver that datagram from the front, completely once enough was requested;
after any other discarding call, and before the first one, reads deliver
nothing; and the remote endpoint is the sender of the last datagram installed. -/
theorem multicast_delivers_datagrams (lwip : Lwip World) (receiveBuffer : Buffer (rxCapacity + 1))
    (sendBuffer : Buffer txCapacity) (world : World) (calls : List Call) :
    let session := (Session.start receiveBuffer sendBuffer world).run lwip calls
    (session.object.receiveOffset ≤ session.object.receiveLength ∧ session.object.receiveLength ≤ rxCapacity) ∧
      (forall before record after, session.history = before ++ record :: after -> record.call = .parsePacket ->
        exists count, record.answer = .available count ∧
          (0 < count <-> exists payload sender, record.exchanges = [.received (.datagram payload sender)] ∧
            1 ≤ payload.length ∧ payload.length ≤ rxCapacity) ∧
          forall payload sender, record.exchanges = [.received (.datagram payload sender)] -> 0 < count ->
            count = payload.length ∧
              forall reads rest, after = reads ++ rest ->
                (forall other, other ∈ reads -> other.discards = false) ->
                  reads.flatMap Record.delivered <+: payload ∧
                    (count ≤ (reads.map Record.requested).sum -> reads.flatMap Record.delivered = payload)) ∧
      (forall before record reads rest, session.history = before ++ record :: (reads ++ rest) ->
        record.discards = true ->
        (forall payload sender, record.exchanges = [.received (.datagram payload sender)] ->
          payload.length = 0 ∨ rxCapacity < payload.length) ->
        (forall other, other ∈ reads -> other.discards = false) -> reads.flatMap Record.delivered = []) ∧
      (forall reads rest, session.history = reads ++ rest ->
        (forall other, other ∈ reads -> other.discards = false) -> reads.flatMap Record.delivered = []) ∧
      (forall payload sender, latest Record.arrival session.history = some (payload, sender) ->
        socketAddress session.object.remoteAddress session.object.remotePort = sender) := by
  intro session
  have receiving : Receiving session := (receiving_start receiveBuffer sendBuffer world).run lwip calls
  refine ⟨⟨?_, receiving.serving.bounded⟩, ?_, ?_, ?_, ?_⟩
  · rw [receiving.serving.offset]
    exact Nat.min_le_right _ _
  · intro before record after split parses
    have discards : record.discards = true := by
      rw [Record.discards, parses]
    refine ⟨_, receiving.parses before record after split parses, ⟨?_, ?_⟩, ?_⟩
    · intro positive
      cases arrival : record.arrival with
      | none =>
          rw [arrival] at positive
          exact absurd positive (Nat.lt_irrefl 0)
      | some found =>
          rcases found with ⟨payload, sender⟩
          exact ⟨payload, sender, arrival_eq_some.mp arrival⟩
    · rintro ⟨payload, sender, arrived⟩
      rw [arrival_eq_some.mpr arrived]
      exact arrived.2.1
    · intro payload sender exchanges positive
      have arrival : record.arrival = some (payload, sender) := by
        cases found : record.arrival with
        | none =>
            rw [found] at positive
            exact absurd positive (Nat.lt_irrefl 0)
        | some other =>
            rcases other with ⟨otherPayload, otherSender⟩
            have same := (arrival_eq_some.mp found).1
            rw [exchanges] at same
            cases same
            rfl
      rw [arrival]
      refine ⟨rfl, fun reads rest continuation keep => ?_⟩
      subst continuation
      have delivered := receiving.reads split discards keep
      rw [arrival] at delivered
      change _ = payload.take _ at delivered
      rw [delivered]
      exact ⟨List.take_prefix _ _, fun enough => List.take_of_length_le enough⟩
  · intro before record reads rest split discards unfit keep
    have nothing : record.arrival = none := by
      cases found : record.arrival with
      | none => rfl
      | some other =>
          rcases other with ⟨payload, sender⟩
          rcases arrival_eq_some.mp found with ⟨exchanges, positive, fits⟩
          rcases unfit payload sender exchanges with empty | long
          · omega
          · omega
    have delivered := receiving.reads split discards keep
    rw [nothing] at delivered
    exact delivered.trans List.take_nil
  · intro reads rest split keep
    exact receiving.reads_unopened split keep
  · intro payload sender last
    have remote := receiving.serving.remote
    rw [lastSender, last] at remote
    change (session.object.remoteAddress, session.object.remotePort) = remoteOf sender at remote
    have inverse := socketAddress_remoteOf sender
    rw [← remote] at inverse
    exact inverse

/-- A network that delivers the datagrams of its world in order. -/
def deliveringNetwork : Lwip (List Reception) where
  socket world := (3, world)
  configure _ _ world := (0, world)
  sendto _ data _ world := (data.length, world)
  recvfrom _ _ world := (world.headD (.failure true []), world.tail)
  close _ world := world

def sampleReads : List Call :=
  [.setLocalIPv4Address ⟨192, 168, 0, 2⟩, .beginMulticast ⟨224, 0, 0, 251⟩ 5353, .parsePacket, .read true 2,
    .read true 8]

theorem multicast_delivers_sampleDatagram :
    let sender := socketAddress ⟨192, 168, 0, 9⟩ 5353
    let session := (Session.start (Buffer.zero _) (Buffer.zero _) [.datagram [1, 2, 3] sender]).run
      deliveringNetwork sampleReads
    exists before record reads, session.history = before ++ record :: (reads ++ []) ∧
      record.exchanges = [.received (.datagram [1, 2, 3] sender)] ∧
      (reads.map Record.requested).sum = 10 ∧ reads.flatMap Record.delivered = [1, 2, 3] ∧
      socketAddress session.object.remoteAddress session.object.remotePort = sender := by
  intro sender session
  have rules := multicast_delivers_datagrams deliveringNetwork (Buffer.zero _) (Buffer.zero _)
    [.datagram [1, 2, 3] sender] sampleReads
  have split : session.history = session.history.take 2 ++
      ⟨.parsePacket, [.received (.datagram [1, 2, 3] sender)], .available 3⟩ :: (session.history.drop 3 ++ []) := by
    decide +kernel
  have requested : ((session.history.drop 3).map Record.requested).sum = 10 := by
    decide +kernel
  have keep : forall other, other ∈ session.history.drop 3 -> other.discards = false := by
    decide +kernel
  have last : latest Record.arrival session.history = some ([1, 2, 3], sender) := by
    decide +kernel
  rcases rules with ⟨_, parses, _, _, remote⟩
  rcases parses _ _ _ split rfl with ⟨count, answer, arrived, whole⟩
  have positive := arrived.mpr ⟨[1, 2, 3], sender, rfl, by decide, by decide⟩
  rcases whole [1, 2, 3] sender rfl positive with ⟨length, reads⟩
  refine ⟨_, _, _, split, rfl, requested, (reads _ [] rfl keep).2 ?_, remote _ _ last⟩
  rw [requested, length]
  decide

end Udp
end DevKit
