import DevKit.Foundation.History
import DevKit.Udp.Address

namespace DevKit
namespace Udp
namespace WiFiUdp

/-!
# The WiFiUDP class

`WiFiUDP` over the UDP socket of mbed OS, which is a parameter: a table of
operations on an arbitrary world.  A `SocketAddress` is an address and a port;
the text form in which the class hands addresses to mbed and back is left out.
`recvfrom` follows its documented contract: it fails and leaves the address
alone, or it takes one datagram, stores the sender and the requested number of
bytes, and drops the rest.

The class keeps one `_address` for both directions.  `beginPacket` replaces it
by the destination, `recvfrom` by the sender, and `write` sends to whatever it
holds.  The operator `new` does not return a null pointer, so the branches that
test its result are not modelled.
-/

structure SocketAddress where
  address : IPAddress
  port : UInt16
deriving DecidableEq

/-- The constructor without arguments. -/
def SocketAddress.none : SocketAddress :=
  ⟨IPAddress.none, 0⟩

inductive Reception where
  | failure (code : Int)
  | datagram (payload : Bytes) (sender : SocketAddress)
deriving DecidableEq

/-- What the class uses of `UDPSocket` and of the network interface. -/
structure Network (World : Type) where
  openSocket : World -> Int × World
  bind : UInt16 -> World -> Int × World
  close : World -> World
  sendto : SocketAddress -> Bytes -> World -> Int × World
  recvfrom : Nat -> World -> Reception × World
  gethostbyname : List UInt8 -> World -> Option IPAddress × World

inductive Exchange where
  | opened (result : Int)
  | bound (port : UInt16) (result : Int)
  | closed
  | sent (destination : SocketAddress) (data : Bytes) (result : Int)
  | received (reception : Reception)
  | resolved (answer : Option IPAddress)
deriving DecidableEq

/-- The fields of the class; the pointer `_address` is an option. -/
structure WiFiUDP where
  address : Option SocketAddress
  localPort : UInt16
  isInitialized : Bool
  packetActive : Bool
  packetSendFailed : Bool
deriving DecidableEq

def WiFiUDP.new : WiFiUDP :=
  ⟨none, 0, false, false, false⟩

structure Device (World : Type) where
  object : WiFiUDP
  world : World
  exchanges : List Exchange

variable {World : Type}

namespace Device

def openSocket (network : Network World) (device : Device World) : Int × Device World :=
  match network.openSocket device.world with
  | (result, world) => (result, { device with world := world, exchanges := device.exchanges ++ [.opened result] })

def bind (network : Network World) (port : UInt16) (device : Device World) : Int × Device World :=
  match network.bind port device.world with
  | (result, world) => (result, { device with world := world, exchanges := device.exchanges ++ [.bound port result] })

def close (network : Network World) (device : Device World) : Device World :=
  { device with world := network.close device.world, exchanges := device.exchanges ++ [.closed] }

def sendto (network : Network World) (destination : SocketAddress) (data : Bytes) (device : Device World) :
    Int × Device World :=
  match network.sendto destination data device.world with
  | (result, world) =>
      (result, { device with world := world, exchanges := device.exchanges ++ [.sent destination data result] })

def recvfrom (network : Network World) (size : Nat) (device : Device World) : Reception × Device World :=
  match network.recvfrom size device.world with
  | (reception, world) =>
      (reception, { device with world := world, exchanges := device.exchanges ++ [.received reception] })

def gethostbyname (network : Network World) (host : List UInt8) (device : Device World) :
    Option IPAddress × Device World :=
  match network.gethostbyname host device.world with
  | (answer, world) => (answer, { device with world := world, exchanges := device.exchanges ++ [.resolved answer] })

end Device

/-! ## The methods -/

def stop (network : Network World) (device : Device World) : Device World :=
  let object := { device.object with localPort := 0, packetActive := false, packetSendFailed := false }
  if object.isInitialized = false then { device with object := object }
  else { device.close network with object := { object with isInitialized := false } }

def begin (network : Network World) (port : UInt16) (device : Device World) : Bool × Device World :=
  let ready := if device.object.isInitialized then stop network device else device
  match ready.openSocket network with
  | (failure, opened) =>
      if failure ≠ 0 then (false, opened)
      else
        let initialized := { opened with object := { opened.object with isInitialized := true } }
        match initialized.bind network port with
        | (refused, bound) =>
            if refused ≠ 0 then (false, stop network bound)
            else (true, { bound with object := { bound.object with localPort := port } })

/-- The assignments at the start of both versions of `beginPacket`. -/
def WiFiUDP.idle (object : WiFiUDP) : WiFiUDP :=
  { object with packetActive := false, packetSendFailed := false }

/-- The assignments at the end of `beginPacket`. -/
def WiFiUDP.addressed (object : WiFiUDP) (target : SocketAddress) : WiFiUDP :=
  { object with address := some target, isInitialized := true, packetActive := true, packetSendFailed := false }

def beginPacket (network : Network World) (ip : IPAddress) (port : UInt16) (device : Device World) :
    Bool × Device World :=
  let idle := { device with object := device.object.idle }
  if idle.object.isInitialized = false then
    match idle.openSocket network with
    | (failure, opened) =>
        if failure ≠ 0 then (false, opened)
        else (true, { opened with object := opened.object.addressed ⟨ip, port⟩ })
  else (true, { idle with object := idle.object.addressed ⟨ip, port⟩ })

def beginPacketHost (network : Network World) (host : List UInt8) (port : UInt16) (device : Device World) :
    Bool × Device World :=
  match { device with object := device.object.idle }.gethostbyname network host with
  | (none, resolved) => (false, resolved)
  | (some remote, resolved) => beginPacket network remote port resolved

def endPacket (device : Device World) : Bool × Device World :=
  if device.object.packetActive = false then (false, device)
  else (!device.object.packetSendFailed, { device with object := device.object.idle })

def write (network : Network World) (data : Bytes) (device : Device World) : Nat × Device World :=
  if device.object.isInitialized = false then (0, device)
  else
    match device.object.address with
    | none => (0, device)
    | some destination =>
        if device.object.packetActive = false then (0, device)
        else
          match device.sendto network destination data with
          | (result, sent) =>
              let failed := sent.object.packetSendFailed || decide (result ≠ castInt data.length)
              (result.toNat, { sent with object := { sent.object with packetSendFailed := failed } })

def writeByte (network : Network World) (byte : UInt8) (device : Device World) : Nat × Device World :=
  write network [byte] device

/-- `recvfrom` into `_address` and a buffer of `size` bytes: what reached the
buffer, or `none` when the socket reports an error. -/
def receive (network : Network World) (size : Nat) (device : Device World) : Option Bytes × Device World :=
  let holding := device.object.address.getD SocketAddress.none
  let prepared := { device with object := { device.object with address := some holding } }
  match prepared.recvfrom network size with
  | (.failure _, received) => (none, received)
  | (.datagram payload sender, received) =>
      (some (payload.take size), { received with object := { received.object with address := some sender } })

/-- The bytes copied into the caller's buffer; their number is returned. -/
def read (network : Network World) (size : Nat) (device : Device World) : Bytes × Device World :=
  if device.object.isInitialized = false then ([], device)
  else
    match receive network size device with
    | (received, later) => (received.getD [], later)

/-- `none` stands for the result -1. -/
def readByte (network : Network World) (device : Device World) : Option UInt8 × Device World :=
  if device.object.isInitialized = false then (none, device)
  else
    match receive network 1 device with
    | (received, later) => ((received.getD []).head?, later)

def remotePort (object : WiFiUDP) : UInt16 :=
  match object.address with
  | none => 0
  | some endpoint => endpoint.port

/-! ## Sessions -/

inductive Call where
  | begin (port : UInt16)
  | stop
  | beginPacket (ip : IPAddress) (port : UInt16)
  | beginPacketHost (host : List UInt8) (port : UInt16)
  | endPacket
  | write (data : Bytes)
  | writeByte (byte : UInt8)
  | read (size : Nat)
  | readByte
  | flush
deriving DecidableEq

inductive Answer where
  | done
  | flag (value : Bool)
  | written (count : Nat)
  | delivered (data : Bytes)
deriving DecidableEq

def perform (network : Network World) (call : Call) (device : Device World) : Answer × Device World :=
  match call with
  | .begin port => (.flag (begin network port device).1, (begin network port device).2)
  | .stop => (.done, stop network device)
  | .beginPacket ip port => (.flag (beginPacket network ip port device).1, (beginPacket network ip port device).2)
  | .beginPacketHost host port =>
      (.flag (beginPacketHost network host port device).1, (beginPacketHost network host port device).2)
  | .endPacket => (.flag (endPacket device).1, (endPacket device).2)
  | .write data => (.written (write network data device).1, (write network data device).2)
  | .writeByte byte => (.written (writeByte network byte device).1, (writeByte network byte device).2)
  | .read size => (.delivered (read network size device).1, (read network size device).2)
  | .readByte => (.delivered (readByte network device).1.toList, (readByte network device).2)
  | .flush => (.done, device)

/-! ## What a call can do -/

/-- An exchange that neither sends nor receives. -/
def Exchange.administrative : Exchange -> Bool
  | .sent _ _ _ => false
  | .received _ => false
  | _ => true

/-- The exchanges of a call, its answer and the object it leaves. -/
inductive Effect (object : WiFiUDP) : Call -> List Exchange -> Answer -> WiFiUDP -> Prop where
  | maintained (call : Call) (exchanges : List Exchange) (answer : Answer) (later : WiFiUDP)
      (plain : exchanges.all Exchange.administrative = true) (kept : later.address = object.address)
      (quiet : later.packetActive = true -> object.packetActive = true)
      (failing : forall ip port, call = .beginPacket ip port -> answer = .flag false)
      (failingHost : forall host port, call = .beginPacketHost host port -> answer = .flag false)
      (silent : forall data, answer = .delivered data -> data = []) :
      Effect object call exchanges answer later
  | addressed (ip : IPAddress) (port : UInt16) (exchanges : List Exchange)
      (plain : exchanges.all Exchange.administrative = true) :
      Effect object (.beginPacket ip port) exchanges (.flag true) (object.addressed ⟨ip, port⟩)
  | addressedHost (host : List UInt8) (ip : IPAddress) (port : UInt16) (exchanges : List Exchange)
      (plain : exchanges.all Exchange.administrative = true) :
      Effect object (.beginPacketHost host port) (.resolved (some ip) :: exchanges) (.flag true)
        (object.addressed ⟨ip, port⟩)
  | sent (call : Call) (destination : SocketAddress) (data : Bytes) (result : Int)
      (composing : call = .write data ∨ exists byte, call = .writeByte byte ∧ data = [byte])
      (holding : object.address = some destination) (active : object.packetActive = true) :
      Effect object call [.sent destination data result] (.written result.toNat)
        { object with packetSendFailed := object.packetSendFailed || decide (result ≠ castInt data.length) }
  | unreceived (call : Call) (code : Int) (reading : call = .readByte ∨ exists size, call = .read size) :
      Effect object call [.received (.failure code)] (.delivered [])
        { object with address := some (object.address.getD SocketAddress.none) }
  | received (call : Call) (size : Nat) (payload : Bytes) (sender : SocketAddress)
      (reading : call = .readByte ∧ size = 1 ∨ call = .read size) :
      Effect object call [.received (.datagram payload sender)] (.delivered (payload.take size))
        { object with address := some sender }

/-- A step that keeps the endpoint, starts no packet and neither sends nor
receives. -/
structure Maintains (device later : Device World) : Prop where
  address : later.object.address = device.object.address
  quiet : later.object.packetActive = true -> device.object.packetActive = true
  exchanges : exists extra, later.exchanges = device.exchanges ++ extra ∧
    extra.all Exchange.administrative = true

theorem Maintains.still {device later : Device World} (address : later.object.address = device.object.address)
    (quiet : later.object.packetActive = true -> device.object.packetActive = true)
    (same : later.exchanges = device.exchanges) : Maintains device later :=
  ⟨address, quiet, [], same.trans (List.append_nil _).symm, rfl⟩

theorem Maintains.trans {device middle later : Device World} (first : Maintains device middle)
    (second : Maintains middle later) : Maintains device later := by
  rcases first.exchanges with ⟨before, early, plainBefore⟩
  rcases second.exchanges with ⟨after, late, plainAfter⟩
  refine ⟨second.address.trans first.address, fun active => first.quiet (second.quiet active),
    before ++ after, ?_, ?_⟩
  · rw [late, early, List.append_assoc]
  · rw [List.all_append, plainBefore, plainAfter]
    rfl

theorem openSocket_maintains (network : Network World) (device : Device World) :
    Maintains device (device.openSocket network).2 :=
  ⟨rfl, id, [_], rfl, rfl⟩

theorem stop_maintains (network : Network World) (device : Device World) :
    Maintains device (stop network device) := by
  rw [stop]
  split
  · exact .still rfl nofun rfl
  · exact ⟨rfl, nofun, [.closed], rfl, rfl⟩

theorem begin_maintains (network : Network World) (port : UInt16) (device : Device World) :
    Maintains device (begin network port device).2 := by
  have ready : Maintains device (if device.object.isInitialized then stop network device else device) := by
    split
    · exact stop_maintains network device
    · exact .still rfl id rfl
  simp only [begin]
  generalize (if device.object.isInitialized then stop network device else device) = start at ready ⊢
  have opened := ready.trans (openSocket_maintains network start)
  generalize start.openSocket network = outcome at opened ⊢
  by_cases failure : outcome.1 ≠ 0
  · rw [if_pos failure]
    exact opened
  · rw [if_neg failure]
    have bound : Maintains outcome.2
        (Device.bind network port ⟨{ outcome.2.object with isInitialized := true }, outcome.2.world,
          outcome.2.exchanges⟩).2 := ⟨rfl, id, [_], rfl, rfl⟩
    generalize Device.bind network port _ = answer at bound ⊢
    by_cases refused : answer.1 ≠ 0
    · rw [if_pos refused]
      exact opened.trans (bound.trans (stop_maintains network answer.2))
    · rw [if_neg refused]
      exact opened.trans (bound.trans (.still rfl id rfl))

/-- `beginPacket` fails and keeps everything, or addresses the packet. -/
theorem beginPacket_cases (network : Network World) (ip : IPAddress) (port : UInt16) (device : Device World) :
    ((beginPacket network ip port device).1 = false ∧ Maintains device (beginPacket network ip port device).2) ∨
      ((beginPacket network ip port device).1 = true ∧
        (beginPacket network ip port device).2.object = device.object.addressed ⟨ip, port⟩ ∧
        exists extra, (beginPacket network ip port device).2.exchanges = device.exchanges ++ extra ∧
          extra.all Exchange.administrative = true) := by
  have idle : Maintains device { device with object := device.object.idle } := .still rfl nofun rfl
  simp only [beginPacket]
  split
  · have opened := openSocket_maintains network { device with object := device.object.idle }
    by_cases failure : (Device.openSocket network { device with object := device.object.idle }).1 ≠ 0
    · rw [if_pos failure]
      exact Or.inl ⟨rfl, idle.trans opened⟩
    · rw [if_neg failure]
      exact Or.inr ⟨rfl, rfl, [_], rfl, rfl⟩
  · exact Or.inr ⟨rfl, rfl, [], (List.append_nil _).symm, rfl⟩

theorem effect_maintained {call : Call} {object : WiFiUDP} (world : World)
    {later : Device World} {answer : Answer} (maintains : Maintains ⟨object, world, []⟩ later)
    (failing : forall ip port, call = .beginPacket ip port -> answer = .flag false)
    (failingHost : forall host port, call = .beginPacketHost host port -> answer = .flag false)
    (silent : forall data, answer = .delivered data -> data = []) :
    Effect object call later.exchanges answer later.object := by
  rcases maintains.exchanges with ⟨extra, same, plain⟩
  refine .maintained call _ answer _ ?_ maintains.address maintains.quiet failing failingHost silent
  rw [same]
  exact plain

theorem effect_beginPacket (network : Network World) (ip : IPAddress) (port : UInt16) (object : WiFiUDP)
    (world : World) :
    Effect object (.beginPacket ip port) (beginPacket network ip port ⟨object, world, []⟩).2.exchanges
      (.flag (beginPacket network ip port ⟨object, world, []⟩).1)
      (beginPacket network ip port ⟨object, world, []⟩).2.object := by
  rcases beginPacket_cases network ip port ⟨object, world, []⟩ with
    ⟨failure, maintains⟩ | ⟨success, addressed, extra, exchanges, plain⟩
  · rw [failure]
    exact effect_maintained world maintains (fun _ _ _ => rfl) nofun nofun
  · rw [success, addressed, exchanges]
    exact .addressed ip port extra plain

theorem effect_beginPacketHost (network : Network World) (host : List UInt8) (port : UInt16) (object : WiFiUDP)
    (world : World) :
    Effect object (.beginPacketHost host port) (beginPacketHost network host port ⟨object, world, []⟩).2.exchanges
      (.flag (beginPacketHost network host port ⟨object, world, []⟩).1)
      (beginPacketHost network host port ⟨object, world, []⟩).2.object := by
  simp only [beginPacketHost]
  have exchanges : (Device.gethostbyname network host ⟨object.idle, world, []⟩).2.exchanges =
      [.resolved (Device.gethostbyname network host ⟨object.idle, world, []⟩).1] := rfl
  have same : (Device.gethostbyname network host ⟨object.idle, world, []⟩).2.object = object.idle := rfl
  generalize Device.gethostbyname network host ⟨object.idle, world, []⟩ = outcome at exchanges same ⊢
  rcases outcome with ⟨answer, resolved⟩
  simp only at exchanges same
  cases answer with
  | none =>
      refine effect_maintained world ⟨?_, ?_, [.resolved none], exchanges, rfl⟩ nofun (fun _ _ _ => rfl) nofun
      · rw [same]
        rfl
      · rw [same]
        exact nofun
  | some ip =>
      simp only
      rcases beginPacket_cases network ip port resolved with
        ⟨failure, maintains⟩ | ⟨success, addressed, extra, later, plain⟩
      · have resolving : Maintains ⟨object, world, []⟩ resolved := by
          refine ⟨?_, ?_, [.resolved (some ip)], exchanges, rfl⟩
          · rw [same]
            rfl
          · rw [same]
            exact nofun
        rw [failure]
        exact effect_maintained world (resolving.trans maintains) nofun (fun _ _ _ => rfl) nofun
      · rw [success, addressed, later, exchanges, same]
        exact .addressedHost host ip port extra plain

theorem effect_write (network : Network World) (call : Call) (data : Bytes) (object : WiFiUDP) (world : World)
    (composing : call = .write data ∨ exists byte, call = .writeByte byte ∧ data = [byte]) :
    Effect object call (write network data ⟨object, world, []⟩).2.exchanges
      (.written (write network data ⟨object, world, []⟩).1) (write network data ⟨object, world, []⟩).2.object := by
  have other : Effect object call [] (.written 0) object := by
    refine .maintained call [] (.written 0) object rfl rfl id ?_ ?_ nofun
    · rintro ip port rfl
      rcases composing with impossible | ⟨byte, impossible, _⟩ <;> cases impossible
    · rintro host port rfl
      rcases composing with impossible | ⟨byte, impossible, _⟩ <;> cases impossible
  simp only [write]
  split
  · exact other
  · cases holding : object.address with
    | none => exact other
    | some destination =>
        simp only
        split
        · exact other
        · rename_i active
          exact .sent call destination data _ composing holding (Bool.of_not_eq_false active)

/-- What `receive` leaves, for either kind of read. -/
theorem receive_cases (network : Network World) (size : Nat) (object : WiFiUDP) (world : World) :
    (exists code, (receive network size ⟨object, world, []⟩).1 = none ∧
      (receive network size ⟨object, world, []⟩).2.exchanges = [.received (.failure code)] ∧
      (receive network size ⟨object, world, []⟩).2.object =
        { object with address := some (object.address.getD SocketAddress.none) }) ∨
    (exists payload sender, (receive network size ⟨object, world, []⟩).1 = some (payload.take size) ∧
      (receive network size ⟨object, world, []⟩).2.exchanges = [.received (.datagram payload sender)] ∧
      (receive network size ⟨object, world, []⟩).2.object = { object with address := some sender }) := by
  have exchanges : (Device.recvfrom network size
      ⟨{ object with address := some (object.address.getD SocketAddress.none) }, world, []⟩).2.exchanges =
        [.received (Device.recvfrom network size
          ⟨{ object with address := some (object.address.getD SocketAddress.none) }, world, []⟩).1] := rfl
  have same : (Device.recvfrom network size
      ⟨{ object with address := some (object.address.getD SocketAddress.none) }, world, []⟩).2.object =
        { object with address := some (object.address.getD SocketAddress.none) } := rfl
  simp only [receive]
  generalize Device.recvfrom network size _ = outcome at exchanges same ⊢
  rcases outcome with ⟨reception, later⟩
  simp only at exchanges same
  cases reception with
  | failure code => exact Or.inl ⟨code, rfl, exchanges, same⟩
  | datagram payload sender =>
      refine Or.inr ⟨payload, sender, rfl, exchanges, ?_⟩
      simp only [same]

theorem head?_toList_take_one (payload : Bytes) : (payload.take 1).head?.toList = payload.take 1 := by
  cases payload <;> rfl

theorem effect_read (network : Network World) (size : Nat) (object : WiFiUDP) (world : World) :
    Effect object (.read size) (read network size ⟨object, world, []⟩).2.exchanges
      (.delivered (read network size ⟨object, world, []⟩).1) (read network size ⟨object, world, []⟩).2.object := by
  simp only [read]
  split
  · refine .maintained (.read size) [] (.delivered []) object rfl rfl id nofun nofun ?_
    intro data same
    exact (Answer.delivered.inj same).symm
  · rcases receive_cases network size object world with
      ⟨code, result, exchanges, later⟩ | ⟨payload, sender, result, exchanges, later⟩
    · rw [result, exchanges, later]
      exact .unreceived (.read size) code (Or.inr ⟨size, rfl⟩)
    · rw [result, exchanges, later]
      exact .received (.read size) size payload sender (Or.inr rfl)

theorem effect_readByte (network : Network World) (object : WiFiUDP) (world : World) :
    Effect object .readByte (readByte network ⟨object, world, []⟩).2.exchanges
      (.delivered (readByte network ⟨object, world, []⟩).1.toList)
      (readByte network ⟨object, world, []⟩).2.object := by
  simp only [readByte]
  split
  · refine .maintained .readByte [] (.delivered []) object rfl rfl id nofun nofun ?_
    intro data same
    exact (Answer.delivered.inj same).symm
  · rcases receive_cases network 1 object world with
      ⟨code, result, exchanges, later⟩ | ⟨payload, sender, result, exchanges, later⟩
    · rw [result, exchanges, later]
      exact .unreceived .readByte code (Or.inl rfl)
    · rw [result, exchanges, later]
      change Effect _ _ _ (.delivered (payload.take 1).head?.toList) _
      rw [head?_toList_take_one]
      exact .received .readByte 1 payload sender (Or.inl ⟨rfl, rfl⟩)

theorem effect_perform (network : Network World) (call : Call) (object : WiFiUDP) (world : World) :
    Effect object call (perform network call ⟨object, world, []⟩).2.exchanges
      (perform network call ⟨object, world, []⟩).1 (perform network call ⟨object, world, []⟩).2.object := by
  cases call with
  | begin port => exact effect_maintained world (begin_maintains network port ⟨object, world, []⟩) nofun nofun nofun
  | stop => exact effect_maintained world (stop_maintains network ⟨object, world, []⟩) nofun nofun nofun
  | beginPacket ip port => exact effect_beginPacket network ip port object world
  | beginPacketHost host port => exact effect_beginPacketHost network host port object world
  | endPacket =>
      refine effect_maintained world (?_ : Maintains _ (endPacket ⟨object, world, []⟩).2) nofun nofun
        nofun
      rw [endPacket]
      split
      · exact .still rfl id rfl
      · exact .still rfl nofun rfl
  | write data => exact effect_write network (.write data) data object world (Or.inl rfl)
  | writeByte byte => exact effect_write network (.writeByte byte) [byte] object world (Or.inr ⟨byte, rfl, rfl⟩)
  | read size => exact effect_read network size object world
  | readByte => exact effect_readByte network object world
  | flush => exact .maintained .flush [] .done object rfl rfl id nofun nofun nofun

structure Record where
  call : Call
  exchanges : List Exchange
  answer : Answer
deriving DecidableEq

structure Session (World : Type) where
  object : WiFiUDP
  world : World
  history : List Record

def Session.step (network : Network World) (session : Session World) (call : Call) : Session World :=
  match perform network call ⟨session.object, session.world, []⟩ with
  | (answer, device) => ⟨device.object, device.world, session.history ++ [⟨call, device.exchanges, answer⟩]⟩

def Session.run (network : Network World) (session : Session World) (calls : List Call) : Session World :=
  calls.foldl (Session.step network) session

def Session.start (world : World) : Session World :=
  ⟨WiFiUDP.new, world, []⟩

end WiFiUdp
end Udp
end DevKit
