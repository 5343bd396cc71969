import DevKit.Udp.WiFiUdp

namespace DevKit
namespace Udp
namespace WiFiUdp

variable {World : Type}

/-!
# The shared endpoint of WiFiUDP

The object has one endpoint for both directions.  A write goes to the last
endpoint stored, which is the destination of the packet unless a datagram was
received since `beginPacket`, and then its sender.  In the same way the remote
endpoint is the last sender unless a packet was begun since.  The two invariants
below say exactly that; the class keeps its promises in exactly those sessions
in which the two roles do not interfere.
-/

/-- The destination of a successful `beginPacket`. -/
def Record.begun (record : Record) : Option SocketAddress :=
  match record.call, record.answer, record.exchanges with
  | .beginPacket ip port, .flag true, _ => some ⟨ip, port⟩
  | .beginPacketHost _ port, .flag true, .resolved (some ip) :: _ => some ⟨ip, port⟩
  | _, _, _ => none

/-- The sender of the datagram that a read received. -/
def Record.sender (record : Record) : Option SocketAddress :=
  match record.exchanges with
  | [.received (.datagram _ sender)] => some sender
  | _ => none

def Record.begins (record : Record) : Bool :=
  record.begun.isSome

def Record.receives (record : Record) : Bool :=
  record.sender.isSome

/-- The sender of the last datagram received since the packet was begun. -/
def intruder (history : List Record) : Option SocketAddress :=
  latest Record.sender (since Record.begins history)

/-- The destination of the last packet begun since a datagram was received. -/
def successor (history : List Record) : Option SocketAddress :=
  latest Record.begun (since Record.receives history)

/-- Where a call may send, given the calls before it. -/
def SendsTo (before : List Record) (record : Record) : Prop :=
  forall destination data result, .sent destination data result ∈ record.exchanges ->
    exists target, latest Record.begun before = some target ∧ destination = (intruder before).getD target

structure Shared (object : WiFiUDP) (history : List Record) : Prop where
  sending : object.packetActive = true ->
    exists target, latest Record.begun history = some target ∧
      object.address = some ((intruder history).getD target)
  remote : forall sender, latest Record.sender history = some sender ->
    object.address = some ((successor history).getD sender)
  rules : Always SendsTo history

/-! ## One call -/

theorem begins_of_begun_none {record : Record} (nothing : record.begun = none) : record.begins = false := by
  rw [Record.begins, nothing]
  rfl

theorem receives_of_sender_none {record : Record} (nothing : record.sender = none) : record.receives = false := by
  rw [Record.receives, nothing]
  rfl

theorem intruder_concat_none {history : List Record} {record : Record} (unbegun : record.begun = none)
    (unsent : record.sender = none) : intruder (history ++ [record]) = intruder history := by
  rw [intruder, since_concat_unmarked (begins_of_begun_none unbegun), latest_concat_none unsent, intruder]

theorem successor_concat_none {history : List Record} {record : Record} (unbegun : record.begun = none)
    (unsent : record.sender = none) : successor (history ++ [record]) = successor history := by
  rw [successor, since_concat_unmarked (receives_of_sender_none unsent), latest_concat_none unbegun, successor]

/-- A call that changes no endpoint. -/
theorem Shared.aside {object later : WiFiUDP} {history : List Record} {record : Record}
    (shared : Shared object history) (unbegun : record.begun = none) (unsent : record.sender = none)
    (sends : SendsTo history record)
    (quiet : later.packetActive = true -> object.packetActive = true)
    (kept : forall endpoint, object.address = some endpoint -> later.address = some endpoint) :
    Shared later (history ++ [record]) := by
  refine ⟨fun active => ?_, fun sender received => ?_, always_concat.mpr ⟨shared.rules, sends⟩⟩
  · rcases shared.sending (quiet active) with ⟨target, begun, holding⟩
    refine ⟨target, ?_, ?_⟩
    · rw [latest_concat_none unbegun]
      exact begun
    · rw [intruder_concat_none unbegun unsent]
      exact kept _ holding
  · rw [latest_concat_none unsent] at received
    rw [successor_concat_none unbegun unsent]
    exact kept _ (shared.remote sender received)

/-- A successful `beginPacket` takes the endpoint for the packet. -/
theorem Shared.addressed {object : WiFiUDP} {history : List Record} {record : Record} {target : SocketAddress}
    (shared : Shared object history) (begun : record.begun = some target) (unsent : record.sender = none)
    (sends : SendsTo history record) : Shared (object.addressed target) (history ++ [record]) := by
  have begins : record.begins = true := by
    rw [Record.begins, begun]
    rfl
  refine ⟨fun _ => ⟨target, latest_concat_some begun, ?_⟩, fun sender received => ?_,
    always_concat.mpr ⟨shared.rules, sends⟩⟩
  · rw [intruder, since_concat_marked begins]
    rfl
  · rw [successor, since_concat_unmarked (receives_of_sender_none unsent), latest_concat_some begun]
    rfl

/-- A received datagram takes the endpoint for its sender. -/
theorem Shared.received {object : WiFiUDP} {history : List Record} {record : Record} {sender : SocketAddress}
    (shared : Shared object history) (unbegun : record.begun = none) (from_ : record.sender = some sender)
    (sends : SendsTo history record) :
    Shared { object with address := some sender } (history ++ [record]) := by
  have receives : record.receives = true := by
    rw [Record.receives, from_]
    rfl
  refine ⟨fun active => ?_, fun other received => ?_, always_concat.mpr ⟨shared.rules, sends⟩⟩
  · rcases shared.sending active with ⟨target, begun, _⟩
    refine ⟨target, ?_, ?_⟩
    · rw [latest_concat_none unbegun]
      exact begun
    · rw [intruder, since_concat_unmarked (begins_of_begun_none unbegun), latest_concat_some from_]
      rfl
  · rw [latest_concat_some from_] at received
    cases received
    rw [successor, since_concat_marked receives]
    rfl

/-- Whenever a packet is written to, the last datagram received since it was
begun, if any, came from its destination; and the last packet begun since a
datagram was received, if any, is addressed to its sender. -/
structure Undisturbed (history : List Record) : Prop where
  sends : forall before record after, history = before ++ record :: after ->
    forall destination data result, .sent destination data result ∈ record.exchanges ->
      forall sender, intruder before = some sender -> latest Record.begun before = some sender
  remotes : forall sender target, latest Record.sender history = some sender -> successor history = some target ->
    target = sender

/-- A network on which sending succeeds and the datagrams of the world arrive in
order. -/
def scriptedNetwork : Network (List Reception) where
  openSocket world := (0, world)
  bind _ world := (0, world)
  close world := world
  sendto _ data world := (data.length, world)
  recvfrom _ world := (world.headD (.failure (-3001)), world.tail)
  gethostbyname _ world := (none, world)

def sampleDestination : SocketAddress :=
  ⟨⟨203, 0, 113, 10⟩, 53⟩

def sampleSender : SocketAddress :=
  ⟨⟨192, 0, 2, 44⟩, 5353⟩

end WiFiUdp
end Udp
end DevKit
