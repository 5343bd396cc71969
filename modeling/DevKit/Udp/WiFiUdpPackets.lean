import DevKit.Udp.WiFiUdpEndpoints

namespace DevKit
namespace Udp
namespace WiFiUdp

variable {World : Type}

/-!
# Packets and datagrams of WiFiUDP

`write` hands its bytes to the socket at once, so a packet is one datagram only
if it is written by one call.  `recvfrom` drops what does not fit into the
caller's buffer, so the bytes that reads return are those that arrived only if
no read after a short one returns anything.  Both conditions are shown to be
what the promises of the class come down to.
-/

/-! ## Sending -/

/-- The bytes that a composing call hands over. -/
def Call.data : Call -> Option Bytes
  | .write data => some data
  | .writeByte byte => some [byte]
  | _ => none

/-- The datagram that a `sendto` put on the network. -/
def Exchange.datagram : Exchange -> Option Bytes
  | .sent _ data result => if 0 ≤ result then some (data.take result.toNat) else none
  | _ => none

def datagrams (records : List Record) : List Bytes :=
  (records.flatMap Record.exchanges).filterMap Exchange.datagram

/-- `sendto` reports no more bytes than it was given. -/
def Network.Honest (network : Network World) : Prop :=
  forall destination data world, (network.sendto destination data world).1 ≤ data.length

/-- Every packet written by these calls is one datagram when `endPacket` returns
1, and no datagram carries it when `endPacket` returns 0. -/
def OneDatagram (writes : List Call) : Prop :=
  forall (World : Type) (network : Network World) (session : Session World) (ip : IPAddress) (port : UInt16),
    network.Honest ->
    let begun := session.step network (.beginPacket ip port)
    (exists exchanges, begun.history = session.history ++ [⟨.beginPacket ip port, exchanges, .flag true⟩]) ->
    let written := begun.run network writes
    exists packet, written.history = begun.history ++ packet ∧
      exists value, (written.step network .endPacket).history = written.history ++ [⟨.endPacket, [], .flag value⟩] ∧
        (value = true -> datagrams packet = [(writes.filterMap Call.data).flatten]) ∧
        (value = false -> (writes.filterMap Call.data).flatten ∉ datagrams packet)

/-- The object between a successful `beginPacket` and its `endPacket`. -/
structure Open (object : WiFiUDP) (destination : SocketAddress) : Prop where
  initialized : object.isInitialized = true
  address : object.address = some destination
  active : object.packetActive = true

/-- The object after writing `data` into an open packet with this result. -/
def WiFiUDP.wrote (object : WiFiUDP) (data : Bytes) (result : Int) : WiFiUDP :=
  { object with packetSendFailed := object.packetSendFailed || decide (result ≠ castInt data.length) }

theorem write_open (network : Network World) {object : WiFiUDP} {destination : SocketAddress}
    (opened : Open object destination) (data : Bytes) (world : World) :
    write network data ⟨object, world, []⟩ =
      ((network.sendto destination data world).1.toNat,
        ⟨object.wrote data (network.sendto destination data world).1, (network.sendto destination data world).2,
          [.sent destination data (network.sendto destination data world).1]⟩) := by
  rcases object with ⟨address, port, initialized, active, failed⟩
  rcases opened with ⟨initializedTrue, addressSome, activeTrue⟩
  simp only at initializedTrue addressSome activeTrue
  subst initializedTrue addressSome activeTrue
  rfl

theorem Open.wrote {object : WiFiUDP} {destination : SocketAddress} (opened : Open object destination)
    (data : Bytes) (result : Int) : Open (object.wrote data result) destination :=
  ⟨opened.initialized, opened.address, opened.active⟩

/-- One composing call on an open packet. -/
theorem step_open (network : Network World) {session : Session World} {destination : SocketAddress}
    (opened : Open session.object destination) {call : Call} {data : Bytes} (composing : call.data = some data) :
    session.step network call =
      ⟨session.object.wrote data (network.sendto destination data session.world).1,
        (network.sendto destination data session.world).2,
        session.history ++ [⟨call, [.sent destination data (network.sendto destination data session.world).1],
          .written (network.sendto destination data session.world).1.toNat⟩]⟩ := by
  have written := write_open network opened data session.world
  cases call with
  | write bytes =>
      cases composing
      rw [Session.step]
      simp only [perform, written]
  | writeByte byte =>
      cases composing
      rw [Session.step]
      simp only [perform, writeByte, written]
  | _ => cases composing

/-- A successful `beginPacket` opens a packet that has not failed. -/
theorem open_of_begun (network : Network World) (session : Session World) (ip : IPAddress) (port : UInt16)
    {exchanges : List Exchange}
    (success : (session.step network (.beginPacket ip port)).history =
      session.history ++ [⟨.beginPacket ip port, exchanges, .flag true⟩]) :
    (session.step network (.beginPacket ip port)).object = session.object.addressed ⟨ip, port⟩ := by
  have last := List.append_cancel_left success
  simp only [List.cons.injEq, Record.mk.injEq, and_true] at last
  have answered := last.2.2
  rcases beginPacket_cases network ip port ⟨session.object, session.world, []⟩ with
    ⟨failure, _⟩ | ⟨_, addressed, _⟩
  · rw [failure] at answered
    cases answered
  · exact addressed

theorem addressed_open (object : WiFiUDP) (target : SocketAddress) : Open (object.addressed target) target :=
  ⟨rfl, rfl, rfl⟩

theorem step_endPacket (network : Network World) {session : Session World} {destination : SocketAddress}
    (opened : Open session.object destination) :
    (session.step network .endPacket).history =
      session.history ++ [⟨.endPacket, [], .flag (!session.object.packetSendFailed)⟩] := by
  have active : ¬ session.object.packetActive = false := by
    rw [opened.active]
    exact nofun
  rw [Session.step]
  simp only [perform, endPacket, if_neg active]

/-! ### Packets of one write -/

/-- A packet of one write that fits an `int`. -/
theorem oneDatagram_of_single {call : Call} {data : Bytes} (composing : call.data = some data)
    (small : data.length < 0x80000000) : OneDatagram [call] := by
  intro World network session ip port honest begun success
  rcases success with ⟨exchanges, success⟩
  have object := open_of_begun network session ip port success
  have opened : Open begun.object ⟨ip, port⟩ := by
    rw [object]
    exact addressed_open _ _
  have bounded := honest ⟨ip, port⟩ data begun.world
  have step := step_open network opened composing
  have clean : begun.object.packetSendFailed = false := by
    rw [object]
    rfl
  have flat : ([call].filterMap Call.data).flatten = data := by
    rw [List.filterMap_cons_some composing, List.filterMap_nil, List.flatten_singleton]
  intro written
  have reached : written = begun.step network call := rfl
  generalize (network.sendto ⟨ip, port⟩ data begun.world).1 = result at bounded step
  rw [reached, step, flat]
  refine ⟨_, rfl, _, step_endPacket network (opened.wrote data result), ?_, ?_⟩
  · intro complete
    change (!(begun.object.packetSendFailed || decide (result ≠ castInt data.length))) = true at complete
    rw [clean, Bool.false_or, Bool.not_eq_true', decide_eq_false_iff_not, not_not, castInt_eq small] at complete
    subst complete
    have sent : Exchange.datagram (.sent ⟨ip, port⟩ data data.length) = some data := by
      rw [Exchange.datagram, if_pos (Int.natCast_nonneg _), Int.toNat_natCast, List.take_length]
    change List.filterMap Exchange.datagram [.sent ⟨ip, port⟩ data data.length] = _
    rw [List.filterMap_cons_some sent, List.filterMap_nil]
  · intro incomplete member
    change (!(begun.object.packetSendFailed || decide (result ≠ castInt data.length))) = false at incomplete
    rw [clean, Bool.false_or, Bool.not_eq_false', decide_eq_true_iff, castInt_eq small] at incomplete
    change data ∈ List.filterMap Exchange.datagram [.sent ⟨ip, port⟩ data result] at member
    rcases List.mem_filterMap.mp member with ⟨exchange, inside, sent⟩
    rw [List.mem_singleton.mp inside, Exchange.datagram] at sent
    split at sent
    · rename_i positive
      have same := congrArg List.length (Option.some.inj sent)
      rw [List.length_take] at same
      omega
    · cases sent

/-! ### Packets of several writes -/

/-- `sendto` always reports what `write` takes for success. -/
def Network.Reports (network : Network World) : Prop :=
  forall destination data world, (network.sendto destination data world).1 = castInt data.length

/-- The datagram that such a network sends for a write. -/
def reported (data : Bytes) : Option Bytes :=
  if 0 ≤ castInt data.length then some (data.take (castInt data.length).toNat) else none

theorem reported_of_small {data : Bytes} (small : data.length < 0x80000000) : reported data = some data := by
  rw [reported, castInt_eq small, if_pos (Int.natCast_nonneg _), Int.toNat_natCast, List.take_length]

/-- A write that does not fit an `int` is not sent whole. -/
theorem length_reported_of_large {data : Bytes} (large : 0x80000000 ≤ data.length) :
    ((reported data).getD []).length < data.length := by
  have less := castInt_lt large
  rw [reported]
  split
  · rw [Option.getD_some, List.length_take]
    omega
  · rw [Option.getD_none, List.length_nil]
    omega

theorem length_flatten_reported (pieces : List Bytes) :
    (pieces.filterMap reported).flatten.length ≤ pieces.flatten.length ∧
      ((pieces.filterMap reported).flatten.length = pieces.flatten.length ->
        forall data, data ∈ pieces -> data.length < 0x80000000) := by
  induction pieces with
  | nil => exact ⟨Nat.le_refl _, fun _ data member => absurd member List.not_mem_nil⟩
  | cons first rest inductionHypothesis =>
      rcases inductionHypothesis with ⟨shorter, whole⟩
      have split : ((first :: rest).filterMap reported).flatten =
          (reported first).getD [] ++ (rest.filterMap reported).flatten := by
        rw [List.filterMap_cons]
        cases reported first with
        | none => rfl
        | some piece => rfl
      rw [split, List.flatten_cons, List.length_append, List.length_append]
      by_cases small : first.length < 0x80000000
      · rw [reported_of_small small, Option.getD_some]
        refine ⟨Nat.add_le_add_left shorter _, fun same data member => ?_⟩
        rcases List.mem_cons.mp member with rfl | later
        · exact small
        · exact whole (Nat.add_left_cancel same) data later
      · have lost := length_reported_of_large (Nat.not_lt.mp small)
        exact ⟨by omega, fun same => by omega⟩

theorem reports_run {network : Network World} (reports : network.Reports) {session : Session World}
    {destination : SocketAddress} (writes : List Call)
    (composing : forall call, call ∈ writes -> call.data.isSome = true) (opened : Open session.object destination)
    (clean : session.object.packetSendFailed = false) :
    exists packet, (session.run network writes).history = session.history ++ packet ∧
      Open (session.run network writes).object destination ∧
      (session.run network writes).object.packetSendFailed = false ∧
      datagrams packet = (writes.filterMap Call.data).filterMap reported := by
  induction writes generalizing session with
  | nil => exact ⟨[], (List.append_nil _).symm, opened, clean, rfl⟩
  | cons call rest inductionHypothesis =>
      rcases Option.isSome_iff_exists.mp (composing call List.mem_cons_self) with ⟨data, found⟩
      have step := step_open network opened found
      rw [reports destination data session.world] at step
      have others : forall other, other ∈ rest -> other.data.isSome = true :=
        fun other member => composing other (List.mem_cons_of_mem _ member)
      have stillOpen : Open (session.step network call).object destination := by
        rw [step]
        exact opened.wrote data _
      have stillClean : (session.step network call).object.packetSendFailed = false := by
        rw [step]
        simp only [WiFiUDP.wrote, clean, ne_eq, not_true_eq_false, decide_false, Bool.or_self]
      rcases inductionHypothesis others stillOpen stillClean with ⟨packet, history, opening, cleaning, sent⟩
      refine ⟨⟨call, [.sent destination data (castInt data.length)],
        .written (castInt data.length).toNat⟩ :: packet, ?_, opening, cleaning, ?_⟩
      · refine history.trans ?_
        rw [step, List.append_assoc]
        rfl
      · have first : Exchange.datagram (.sent destination data (castInt data.length)) = reported data := rfl
        rw [datagrams] at sent
        rw [List.filterMap_cons_some found, List.filterMap_cons, ← sent, ← first, datagrams, List.flatMap_cons,
          List.singleton_append, List.filterMap_cons]

/-- A network on which every write looks like a success. -/
def modularNetwork : Network Unit where
  openSocket _ := (0, ())
  bind _ _ := (0, ())
  close _ := ()
  sendto _ data _ := (castInt data.length, ())
  recvfrom _ _ := (.failure (-3001), ())
  gethostbyname _ _ := (none, ())

theorem single_of_oneDatagram {writes : List Call}
    (composing : forall call, call ∈ writes -> call.data.isSome = true) (one : OneDatagram writes) :
    exists call data, writes = [call] ∧ call.data = some data ∧ data.length < 0x80000000 := by
  have reports : modularNetwork.Reports := fun _ _ _ => rfl
  have honest : modularNetwork.Honest := fun _ data _ => castInt_le data.length
  have begun := one Unit modularNetwork (Session.start ()) IPAddress.none 1 honest ⟨[.opened 0], rfl⟩
  have opening : Open ((Session.start ()).step modularNetwork (.beginPacket IPAddress.none 1)).object
      ⟨IPAddress.none, 1⟩ := addressed_open WiFiUDP.new _
  rcases begun with ⟨packet, history, value, ended, whole, _⟩
  rcases reports_run reports writes composing opening rfl with ⟨other, otherHistory, stillOpen, clean, sent⟩
  have same : other = packet := List.append_cancel_left (otherHistory.symm.trans history)
  subst same
  have success : value = true := by
    have last := List.append_cancel_left (ended.symm.trans (step_endPacket modularNetwork stillOpen))
    simp only [clean, Bool.not_false, List.cons.injEq, Record.mk.injEq, Answer.flag.injEq, and_true,
      true_and] at last
    exact last
  have pieces := sent.symm.trans (whole success)
  have lengths := congrArg (fun found => found.flatten.length) pieces
  rw [List.flatten_singleton] at lengths
  have small := (length_flatten_reported (writes.filterMap Call.data)).2 lengths
  have kept : (writes.filterMap Call.data).filterMap reported = writes.filterMap Call.data := by
    calc
      (writes.filterMap Call.data).filterMap reported = (writes.filterMap Call.data).filterMap some :=
        List.filterMap_congr fun data member => reported_of_small (small data member)
      _ = writes.filterMap Call.data := List.filterMap_some
  rw [kept] at pieces
  cases writes with
  | nil => cases pieces
  | cons call rest =>
      rcases Option.isSome_iff_exists.mp (composing call List.mem_cons_self) with ⟨data, found⟩
      cases rest with
      | nil =>
          refine ⟨call, data, rfl, found, small data ?_⟩
          rw [List.filterMap_cons_some found]
          exact List.mem_cons_self
      | cons next others =>
          rcases Option.isSome_iff_exists.mp
            (composing next (List.mem_cons_of_mem _ List.mem_cons_self)) with ⟨more, alsoFound⟩
          rw [List.filterMap_cons_some found, List.filterMap_cons_some alsoFound] at pieces
          exact absurd (List.cons.inj pieces).2 (List.cons_ne_nil _ _)

/-- A packet is one datagram, whatever the socket does, exactly when it is
written by one call with fewer than 2^31 bytes. -/
theorem oneDatagram_iff (writes : List Call)
    (composing : forall call, call ∈ writes -> call.data.isSome = true) :
    OneDatagram writes <->
      exists call data, writes = [call] ∧ call.data = some data ∧ data.length < 0x80000000 := by
  constructor
  · exact single_of_oneDatagram composing
  · rintro ⟨call, data, rfl, found, small⟩
    exact oneDatagram_of_single found small

/-- Two writes are two datagrams, and `endPacket` returns 1. -/
theorem twoWrites_not_oneDatagram : ¬ OneDatagram [.write [1, 2], .write [3]] := by
  intro one
  have honest : scriptedNetwork.Honest := fun _ _ _ => Int.le_refl _
  have begun := one (List Reception) scriptedNetwork (Session.start []) sampleDestination.address
    sampleDestination.port honest ⟨[.opened 0], rfl⟩
  rcases begun with ⟨packet, history, value, ended, whole, _⟩
  have written : packet =
      [⟨.write [1, 2], [.sent sampleDestination [1, 2] 2], .written 2⟩,
        ⟨.write [3], [.sent sampleDestination [3] 1], .written 1⟩] := by
    apply List.append_cancel_left (history.symm.trans _)
    decide +kernel
  have success : value = true := by
    have last : ((((Session.start []).step scriptedNetwork (.beginPacket sampleDestination.address
        sampleDestination.port)).run scriptedNetwork [.write [1, 2], .write [3]]).step scriptedNetwork
          .endPacket).history.getLast? = some ⟨.endPacket, [], .flag true⟩ := by
      decide +kernel
    rw [ended, List.getLast?_concat] at last
    cases last
    rfl
  have datagram := whole success
  rw [written] at datagram
  exact absurd datagram (by decide)

theorem singleWrite_oneDatagram : OneDatagram [.write [1, 2, 3]] :=
  (oneDatagram_iff [.write [1, 2, 3]] (by decide)).mpr ⟨_, _, rfl, rfl, by decide⟩

/-! ## Receiving -/

/-- The bytes of a datagram; an error brings none. -/
def Reception.payload : Reception -> Bytes
  | .failure _ => []
  | .datagram payload _ => payload

/-- The bytes that a read returned. -/
def Record.delivered (record : Record) : Bytes :=
  match record.answer with
  | .delivered data => data
  | _ => []

def Call.reads (call : Call) : Prop :=
  call = .readByte ∨ exists size, call = .read size

/-- The number of bytes that a read asks for. -/
def Call.size : Call -> Nat
  | .read size => size
  | .readByte => 1
  | _ => 0

/-! ### Datagrams that are cut off -/

/-- After a read that asks for less than its datagram has, no read that asks for
bytes meets a datagram with bytes in it. -/
def Whole (sizes lengths : List Nat) : Prop :=
  (sizes.zip lengths).Pairwise fun earlier later => earlier.1 < earlier.2 -> later.1 = 0 ∨ later.2 = 0

/-- What reads of these sizes take of the datagrams. -/
def pieces (sizes : List Nat) (payloads : List Bytes) : Bytes :=
  (List.zipWith (fun size payload => payload.take size) sizes payloads).flatten

theorem pieces_cons (size : Nat) (sizes : List Nat) (payload : Bytes) (payloads : List Bytes) :
    pieces (size :: sizes) (payload :: payloads) = payload.take size ++ pieces sizes payloads :=
  rfl

theorem whole_cons_iff {size length : Nat} {sizes lengths : List Nat} :
    Whole (size :: sizes) (length :: lengths) <->
      (size < length -> forall later, later ∈ sizes.zip lengths -> later.1 = 0 ∨ later.2 = 0) ∧ Whole sizes lengths := by
  rw [Whole, List.zip_cons_cons, List.pairwise_cons]
  exact and_congr_left fun _ => ⟨fun all short later member => all later member short,
    fun all later member short => all short later member⟩

theorem pieces_eq_nil {sizes : List Nat} {payloads : List Bytes}
    (none : forall later, later ∈ sizes.zip (payloads.map List.length) -> later.1 = 0 ∨ later.2 = 0) :
    pieces sizes payloads = [] := by
  induction sizes generalizing payloads with
  | nil => rfl
  | cons size sizes inductionHypothesis =>
      cases payloads with
      | nil => rfl
      | cons payload payloads =>
          have first : payload.take size = [] := by
            rcases none (size, payload.length) List.mem_cons_self with zero | empty
            · exact List.take_eq_nil_iff.mpr (Or.inl zero)
            · exact List.take_eq_nil_iff.mpr (Or.inr (List.length_eq_zero_iff.mp empty))
          rw [pieces_cons, first, List.nil_append]
          exact inductionHypothesis fun later member => none later (List.mem_cons_of_mem _ member)

theorem pieces_prefix {sizes : List Nat} {payloads : List Bytes} (whole : Whole sizes (payloads.map List.length)) :
    pieces sizes payloads <+: payloads.flatten := by
  induction sizes generalizing payloads with
  | nil => exact List.nil_prefix
  | cons size sizes inductionHypothesis =>
      cases payloads with
      | nil => exact List.nil_prefix
      | cons payload payloads =>
          rcases whole_cons_iff.mp whole with ⟨ends, rest⟩
          rw [pieces_cons, List.flatten_cons]
          by_cases short : size < payload.length
          · rw [pieces_eq_nil (ends short), List.append_nil]
            exact (List.take_prefix size payload).trans (List.prefix_append _ _)
          · rw [List.take_of_length_le (Nat.not_lt.mp short), List.prefix_append_right_inj]
            exact inductionHypothesis rest

/-- Datagrams of ones: a piece of them that is not empty begins with a one. -/
theorem pieces_ones {sizes lengths : List Nat} {pair : Nat × Nat} (member : pair ∈ sizes.zip lengths)
    (asked : pair.1 ≠ 0) (some : pair.2 ≠ 0) :
    (pieces sizes (lengths.map fun length => List.replicate length 1)).head? = Option.some 1 := by
  induction sizes generalizing lengths with
  | nil => cases member
  | cons size sizes inductionHypothesis =>
      cases lengths with
      | nil => cases member
      | cons length lengths =>
          rw [List.map_cons, pieces_cons, List.take_replicate, List.head?_append]
          rcases Nat.eq_zero_or_pos (min size length) with zero | positive
          · rw [zero, List.replicate_zero, List.head?_nil, Option.none_or]
            rcases List.mem_cons.mp member with rfl | later
            · dsimp only at asked some
              omega
            · exact inductionHypothesis later
          · rw [List.head?_replicate, if_neg (Nat.ne_of_gt positive), Option.some_or]

/-- A read that was too short for its datagram, and a later one that gets bytes:
zeros in the first datagram and ones behind it show the gap. -/
theorem not_pieces_prefix {size length : Nat} {sizes lengths : List Nat} (short : size < length)
    {pair : Nat × Nat} (member : pair ∈ sizes.zip lengths) (asked : pair.1 ≠ 0) (some : pair.2 ≠ 0) :
    ¬ pieces (size :: sizes) (List.replicate length 0 :: lengths.map fun length => List.replicate length 1) <+:
      (List.replicate length 0 :: lengths.map fun length => List.replicate length 1).flatten := by
  intro inside
  rw [pieces_cons, List.take_replicate, Nat.min_eq_left (Nat.le_of_lt short), List.flatten_cons] at inside
  have first := pieces_ones member asked some
  rcases List.head?_eq_some_iff.mp first with ⟨rest, begins⟩
  rw [begins] at inside
  have one : (List.replicate size (0 : UInt8) ++ 1 :: rest)[size]? = Option.some 1 := by
    rw [List.getElem?_append_right (Nat.le_of_eq List.length_replicate), List.length_replicate, Nat.sub_self]
    rfl
  have zero : (List.replicate length (0 : UInt8) ++
      (lengths.map fun length => List.replicate length 1).flatten)[size]? = Option.some 0 := by
    rw [List.getElem?_append_left (by rw [List.length_replicate]; exact short), List.getElem?_replicate, if_pos short]
  rcases inside with ⟨more, same⟩
  rw [← same, List.getElem?_append_left (by simp), one] at zero
  exact absurd zero (by decide)

/-- The condition is needed, for some contents of the datagrams. -/
theorem whole_of_pieces_prefix {sizes lengths : List Nat}
    (fits : forall payloads : List Bytes, payloads.map List.length = lengths ->
      pieces sizes payloads <+: payloads.flatten) : Whole sizes lengths := by
  induction sizes generalizing lengths with
  | nil => exact List.Pairwise.nil
  | cons size sizes inductionHypothesis =>
      cases lengths with
      | nil => exact List.Pairwise.nil
      | cons length lengths =>
          have ends (short : size < length) (later : Nat × Nat) (member : later ∈ sizes.zip lengths) :
              later.1 = 0 ∨ later.2 = 0 := by
            by_contra both
            rw [not_or] at both
            refine not_pieces_prefix short member both.1 both.2 (fits _ ?_)
            simp [Function.comp_def]
          refine whole_cons_iff.mpr ⟨ends, ?_⟩
          by_cases short : size < length
          · exact List.pairwise_of_forall_mem_list fun earlier _ later member _ => ends short later member
          · apply inductionHypothesis
            intro payloads same
            have fit := fits (List.replicate length 0 :: payloads) (by simp [same])
            rw [pieces_cons, List.take_of_length_le (by simpa using short), List.flatten_cons,
              List.prefix_append_right_inj] at fit
            exact fit

/-! ### Reads -/

/-- A read takes the front of the datagram that arrives. -/
theorem step_read {session : Session (List Reception)} (initialized : session.object.isInitialized = true)
    {call : Call} (reading : call.reads) :
    exists record, (session.step scriptedNetwork call).history = session.history ++ [record] ∧
      record.delivered = (session.world.headD (.failure (-3001))).payload.take call.size ∧
      (session.step scriptedNetwork call).world = session.world.tail ∧
      (session.step scriptedNetwork call).object.isInitialized = true := by
  rcases session with ⟨⟨address, port, begun, active, failed⟩, world, history⟩
  dsimp only at initialized
  subst initialized
  refine ⟨_, rfl, ?_⟩
  rcases reading with rfl | ⟨size, rfl⟩
  all_goals
    rcases world with _ | ⟨_ | ⟨payload, sender⟩, world⟩
    all_goals refine ⟨?_, rfl, rfl⟩
  · rfl
  · rfl
  · cases payload <;> rfl
  · exact List.take_nil.symm
  · exact List.take_nil.symm
  · rfl

theorem run_reads {session : Session (List Reception)} (initialized : session.object.isInitialized = true)
    (reads : List Call) (reading : forall call, call ∈ reads -> call.reads) :
    exists log, (session.run scriptedNetwork reads).history = session.history ++ log ∧
      log.flatMap Record.delivered = pieces (reads.map Call.size) (session.world.map Reception.payload) := by
  induction reads generalizing session with
  | nil => exact ⟨[], (List.append_nil _).symm, rfl⟩
  | cons call reads inductionHypothesis =>
      rcases step_read initialized (reading call List.mem_cons_self) with ⟨record, history, bytes, world, kept⟩
      rcases inductionHypothesis kept (fun other member => reading other (List.mem_cons_of_mem _ member)) with
        ⟨log, rest, delivered⟩
      refine ⟨record :: log, rest.trans (by rw [history, List.append_assoc, List.singleton_append]), ?_⟩
      rw [List.flatMap_cons, bytes, delivered, world]
      cases session.world with
      | nil => simp [pieces, Reception.payload]
      | cons arrival arrivals => rfl

/-- Reads deliver the arriving bytes in order and without gaps, whatever the bytes are,
exactly if no read gets bytes of a datagram after one that was too short for its own. -/
theorem reads_deliver_prefix_iff {object : WiFiUDP} (initialized : object.isInitialized = true)
    (history : List Record) (reads : List Call) (reading : forall call, call ∈ reads -> call.reads)
    (lengths : List Nat) :
    (forall arrivals : List Reception, (arrivals.map fun arrival => arrival.payload.length) = lengths ->
      exists log, ((Session.mk object arrivals history).run scriptedNetwork reads).history = history ++ log ∧
        log.flatMap Record.delivered <+: arrivals.flatMap Reception.payload) <->
    Whole (reads.map Call.size) lengths := by
  have run (arrivals : List Reception) :
      exists log, ((Session.mk object arrivals history).run scriptedNetwork reads).history = history ++ log ∧
        log.flatMap Record.delivered = pieces (reads.map Call.size) (arrivals.map Reception.payload) :=
    @run_reads ⟨object, arrivals, history⟩ initialized reads reading
  constructor
  · intro delivers
    apply whole_of_pieces_prefix
    intro payloads same
    have sent : (payloads.map fun payload => Reception.datagram payload SocketAddress.none).map Reception.payload =
        payloads := by
      rw [List.map_map]
      exact List.map_id payloads
    rcases delivers (payloads.map fun payload => .datagram payload SocketAddress.none)
      (by rw [← same, List.map_map]; rfl) with ⟨log, appended, inside⟩
    rcases run (payloads.map fun payload => .datagram payload SocketAddress.none) with ⟨other, alsoAppended, bytes⟩
    rw [List.append_cancel_left (alsoAppended.symm.trans appended), sent] at bytes
    rw [bytes, List.flatMap_def, sent] at inside
    exact inside
  · intro whole arrivals same
    rcases run arrivals with ⟨log, appended, bytes⟩
    refine ⟨log, appended, ?_⟩
    rw [bytes, List.flatMap_def]
    apply pieces_prefix
    rw [List.map_map]
    exact same.symm ▸ whole

/-- A datagram of two bytes is read with room for eight, and one of a single byte as
a byte. -/
theorem wholeReads_deliver :
    let session := (Session.start [.datagram [1, 2] sampleSender, .datagram [3] sampleSender]).run
      scriptedNetwork [.begin 5353]
    exists log, (session.run scriptedNetwork [.read 8, .readByte]).history = session.history ++ log ∧
      log.flatMap Record.delivered <+: [1, 2, 3] := by
  intro session
  have reading : forall call, call ∈ [Call.read 8, Call.readByte] -> call.reads := by
    intro call member
    rcases List.mem_cons.mp member with rfl | later
    · exact Or.inr ⟨8, rfl⟩
    · exact Or.inl (List.mem_singleton.mp later)
  have whole : Whole ([Call.read 8, Call.readByte].map Call.size) [2, 1] := by
    unfold Whole
    decide
  exact (@reads_deliver_prefix_iff session.object rfl session.history [.read 8, .readByte] reading [2, 1]).mpr
    whole session.world rfl

/-- Reading two bytes one at a time loses the second. -/
theorem shortReads_skip :
    let session := (Session.start [.datagram [1, 2] sampleSender, .datagram [3] sampleSender]).run
      scriptedNetwork [.begin 5353]
    let log := (session.run scriptedNetwork [.read 1, .readByte]).history.drop session.history.length
    log.flatMap Record.delivered = [1, 3] ∧ session.world.flatMap Reception.payload = [1, 2, 3] ∧
      ¬ log.flatMap Record.delivered <+: session.world.flatMap Reception.payload := by
  decide +kernel

end WiFiUdp
end Udp
end DevKit
