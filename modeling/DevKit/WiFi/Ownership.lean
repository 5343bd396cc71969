import Mathlib.Logic.Function.Basic

namespace DevKit
namespace WiFi

/-!
# Who owns a socket

A `WiFiClient` holds a pointer to a socket.  A client that has connected by itself has
allocated the socket, and deletes it when it is stopped or destroyed.  A client that
comes from a server points to the socket inside the server, and only closes it.

The class declares neither a copy constructor nor an assignment, so the compiler's own
ones copy the pointer.  Passing a client by value is a copy that is destroyed when the
call ends; a client that is returned by `available` is built in its place.

An allocated socket keeps its number for ever, so that a second `delete` of it is seen.
Steps about objects that do not exist are no steps of a program and change nothing.
-/

/-- A socket: one that `connect` has allocated, or the one inside a server. -/
inductive Socket where
  | own (number : Nat)
  | server (number : Nat)
deriving Repr, DecidableEq

/-- `WiFiClient` -/
structure WiFiClient where
  pTcpSocket : Option Socket
  useServerSocket : Bool
deriving Repr, DecidableEq

/-- `WiFiClient()` -/
def WiFiClient.fresh : WiFiClient := ⟨none, false⟩

/-- `WiFiClient(socket)` -/
def WiFiClient.ofServer (number : Nat) : WiFiClient := ⟨some (.server number), true⟩

/-- The live clients, and what has happened to the sockets. -/
structure World where
  clients : Nat -> Option WiFiClient
  allocated : Nat
  deletions : Nat -> Nat
  isOpen : Socket -> Bool

namespace World

/-- Nothing has happened yet. -/
def initial : World := ⟨fun _ => none, 0, fun _ => 0, fun _ => false⟩

/-- A client is built, changed or gone. -/
def set (world : World) (object : Nat) (client : Option WiFiClient) : World :=
  { world with clients := Function.update world.clients object client }

/-- Any use of a socket; the sockets inside the servers are there. -/
def touch (world : World) : Socket -> Option World
  | .own number => if world.deletions number = 0 then some world else none
  | .server _ => some world

/-- `socket->close()` -/
def close (world : World) (socket : Socket) : Option World :=
  (world.touch socket).map fun world => { world with isOpen := Function.update world.isOpen socket false }

/-- `delete socket` -/
def delete (world : World) : Socket -> Option World
  | .own number =>
    (world.touch (.own number)).map fun world =>
      { world with deletions := Function.update world.deletions number (world.deletions number + 1) }
  | .server _ => none

/-- `stop` -/
def stop (world : World) (object : Nat) (client : WiFiClient) : Option World :=
  match client.pTcpSocket with
  | none => some world
  | some socket => do
    let world <- world.close socket
    if client.useServerSocket = false then do
      let world <- world.delete socket
      return world.set object (some { client with pTcpSocket := none })
    else return world

/-- `connect`; whether there is memory for the socket, and whether it can be opened and connected. -/
def connect (world : World) (object : Nat) (client : WiFiClient) (granted opened : Bool) : Option World :=
  if client.pTcpSocket ≠ none then some world
  else if granted = false then some world
  else
    let socket := Socket.own world.allocated
    let world := { world with allocated := world.allocated + 1 }
    if opened = false then world.delete socket
    else
      some ({ world with isOpen := Function.update world.isOpen socket true }.set object
        (some { client with pTcpSocket := some socket }))

/-- `write`, `connected`, `available` and the `read` of a buffer. -/
def use (world : World) (client : WiFiClient) : Option World :=
  match client.pTcpSocket with
  | none => some world
  | some socket => world.touch socket

/-- The `read` of a character, which stops the client when the connection has ended. -/
def read (world : World) (object : Nat) (client : WiFiClient) (ended : Bool) : Option World := do
  let world <- world.use client
  if client.pTcpSocket ≠ none ∧ ended = true then world.stop object client else return world

end World

/-- What a program does with clients. -/
inductive Step where
  | construct (object : Nat)
  | copy (object source : Nat)
  | assign (target source : Nat)
  | available (object server : Nat) (accepted : Bool)
  | connect (object : Nat) (granted opened : Bool)
  | use (object : Nat)
  | read (object : Nat) (ended : Bool)
  | stop (object : Nat)
  | destroy (object : Nat)
deriving Repr, DecidableEq

namespace World

/-- A new object. -/
def build (world : World) (object : Nat) (made : World) : World :=
  if world.clients object = none then made else world

/-- A step with a live client. -/
def live (world : World) (object : Nat) (action : WiFiClient -> Option World) : Option World :=
  match world.clients object with
  | none => some world
  | some client => action client

/-- One step; `none` is the use of a socket that has been deleted. -/
def perform (world : World) : Step -> Option World
  | .construct object => some (world.build object (world.set object (some .fresh)))
  | .copy object source => world.live source fun client => some (world.build object (world.set object (some client)))
  | .assign target source =>
    world.live source fun client => world.live target fun _ => some (world.set target (some client))
  | .available object server accepted =>
    some (world.build object
      (if accepted = true then
        { world with isOpen := Function.update world.isOpen (.server server) true }.set object (some (.ofServer server))
      else world.set object (some .fresh)))
  | .connect object granted opened => world.live object fun client => world.connect object client granted opened
  | .use object => world.live object fun client => world.use client
  | .read object ended => world.live object fun client => world.read object client ended
  | .stop object => world.live object fun client => world.stop object client
  | .destroy object =>
    world.live object fun client => (world.stop object client).map fun world => world.set object none

/-- A run. -/
def run (world : World) (steps : List Step) : Option World :=
  steps.foldlM perform world

/-- The socket of a live client. -/
def socketOf (world : World) (object : Nat) : Option Socket :=
  (world.clients object).bind WiFiClient.pTcpSocket

end World

/-! ## Single owners -/

/-- Every allocated socket has been deleted once, or is the socket of one live client and not deleted. -/
def OwnedOnce (world : World) : Prop :=
  forall number, number < world.allocated ->
    (world.deletions number = 1 ∧ forall object, world.socketOf object ≠ some (.own number)) ∨
      (world.deletions number = 0 ∧ exists owner, forall object,
        world.socketOf object = some (.own number) <-> object = owner)

/-- The end of one client does not close the connection of another. -/
def KeepsConnections (world reached : World) : Step -> Prop
  | .destroy object =>
    forall other, other ≠ object -> forall socket, world.socketOf other = some socket ->
      world.isOpen socket = true -> reached.isOpen socket = true
  | _ => True

/-- A client without a connection. -/
def Idle (world : World) (object : Nat) : Prop :=
  forall socket, world.socketOf object = some socket -> world.isOpen socket = false

/-- A step that makes no second holder of a connection: only clients without a connection are copied, nothing is
assigned to a client with a socket of its own, and a server accepts when no live client has its socket. -/
def Careful (world : World) : Step -> Prop
  | .copy _ source => Idle world source
  | .assign target source =>
    target ≠ source -> Idle world source ∧ forall number, world.socketOf target ≠ some (.own number)
  | .available _ server accepted =>
    accepted = true -> forall object, world.socketOf object ≠ some (.server server)
  | _ => True

/-- All steps of a run are careful. -/
def CarefulRun (world : World) : List Step -> Prop
  | [] => True
  | step :: steps => Careful world step ∧ forall reached, world.perform step = some reached -> CarefulRun reached steps

/-! ## The invariant -/

/-- What careful steps keep. -/
structure Owned (world : World) : Prop where
  modes :
    forall object client, world.clients object = some client ->
      (client.useServerSocket = true <-> exists number, client.pTcpSocket = some (.server number))
  alive :
    forall object number, world.socketOf object = some (.own number) ->
      world.deletions number = 0 ∧ world.isOpen (.own number) = true
  unique :
    forall object other socket, world.socketOf object = some socket -> world.socketOf other = some socket ->
      world.isOpen socket = true -> object = other
  covered :
    forall number, number < world.allocated ->
      world.deletions number = 1 ∨ exists object, world.socketOf object = some (.own number)
  beyond :
    forall number, world.allocated ≤ number -> world.deletions number = 0 ∧ world.isOpen (.own number) = false

section Steps

variable {world reached : World} {object number : Nat} {client : WiFiClient}

theorem clients_set_self (world : World) (object : Nat) (client : Option WiFiClient) :
    (world.set object client).clients object = client := by
  simp [World.set]

theorem clients_set_of_ne {other : Nat} (different : other ≠ object) (client : Option WiFiClient) :
    (world.set object client).clients other = world.clients other := by
  simp [World.set, different]

theorem socketOf_set_self (world : World) (object : Nat) (client : Option WiFiClient) :
    (world.set object client).socketOf object = client.bind WiFiClient.pTcpSocket := by
  rw [World.socketOf, clients_set_self]

theorem socketOf_set_of_ne {other : Nat} (different : other ≠ object) (client : Option WiFiClient) :
    (world.set object client).socketOf other = world.socketOf other := by
  rw [World.socketOf, clients_set_of_ne different, World.socketOf]

theorem socketOf_eq (known : world.clients object = some client) : world.socketOf object = client.pTcpSocket := by
  rw [World.socketOf, known, Option.bind_some]

namespace Owned

/-- A socket that is held has been allocated. -/
theorem lt_allocated (owned : Owned world) (held : world.socketOf object = some (.own number)) :
    number < world.allocated := by
  by_contra outside
  have unopened := (owned.beyond number (Nat.not_lt.mp outside)).2
  rw [(owned.alive object number held).2] at unopened
  cases unopened

theorem ownedOnce (owned : Owned world) : OwnedOnce world := by
  intro number allocated
  rcases owned.covered number allocated with deleted | ⟨owner, held⟩
  · refine Or.inl ⟨deleted, fun object held => ?_⟩
    rw [(owned.alive object number held).1] at deleted
    cases deleted
  · have live := owned.alive owner number held
    refine Or.inr ⟨live.1, owner, fun object => ⟨fun same => ?_, fun same => same ▸ held⟩⟩
    exact owned.unique object owner _ same held live.2

/-- A client without a socket of its own is replaced by one without a connection, or goes. -/
theorem set (owned : Owned world) {made : Option WiFiClient}
    (free : forall number, world.socketOf object ≠ some (.own number))
    (mode : forall client, made = some client ->
      (client.useServerSocket = true <-> exists number, client.pTcpSocket = some (.server number)))
    (idle : forall socket, made.bind WiFiClient.pTcpSocket = some socket ->
      world.isOpen socket = false ∧ forall number, socket ≠ .own number) :
    Owned (world.set object made) where
  modes := by
    intro other client known
    by_cases same : other = object
    · subst same
      rw [clients_set_self] at known
      exact mode client known
    · rw [clients_set_of_ne same] at known
      exact owned.modes other client known
  alive := by
    intro other number held
    by_cases same : other = object
    · subst same
      rw [socketOf_set_self] at held
      exact absurd rfl ((idle _ held).2 number)
    · rw [socketOf_set_of_ne same] at held
      exact owned.alive other number held
  unique := by
    intro first second socket one two opened
    have settled : forall other, (world.set object made).socketOf other = some socket ->
        other ≠ object ∧ world.socketOf other = some socket := by
      intro other held
      by_cases same : other = object
      · subst same
        rw [socketOf_set_self] at held
        have closed := (idle socket held).1
        rw [show world.isOpen socket = true from opened] at closed
        cases closed
      · rw [socketOf_set_of_ne same] at held
        exact ⟨same, held⟩
    exact owned.unique first second socket (settled first one).2 (settled second two).2 opened
  covered := by
    intro number allocated
    rcases owned.covered number allocated with deleted | ⟨owner, held⟩
    · exact Or.inl deleted
    · refine Or.inr ⟨owner, ?_⟩
      have different : owner ≠ object := by
        intro same
        subst same
        exact free number held
      rw [socketOf_set_of_ne different]
      exact held
  beyond := owned.beyond

/-- A socket inside a server is closed. -/
theorem closeServer (owned : Owned world) (number : Nat) :
    Owned { world with isOpen := Function.update world.isOpen (.server number) false } where
  modes := owned.modes
  alive := by
    intro object other held
    have live := owned.alive object other held
    refine ⟨live.1, ?_⟩
    change Function.update world.isOpen (.server number) false (.own other) = true
    rw [Function.update_of_ne (fun same => by cases same)]
    exact live.2
  unique := by
    intro first second socket one two opened
    change Function.update world.isOpen (.server number) false socket = true at opened
    by_cases same : socket = .server number
    · rw [same, Function.update_self] at opened
      cases opened
    · rw [Function.update_of_ne same] at opened
      exact owned.unique first second socket one two opened
  covered := owned.covered
  beyond := by
    intro other outside
    refine ⟨(owned.beyond other outside).1, ?_⟩
    change Function.update world.isOpen (.server number) false (.own other) = false
    rw [Function.update_of_ne (fun same => by cases same)]
    exact (owned.beyond other outside).2

/-- The owner of a socket closes and deletes it. -/
theorem deleteOwn (owned : Owned world) (known : world.clients object = some client)
    (held : client.pTcpSocket = some (.own number)) :
    Owned (World.set
      { world with
        isOpen := Function.update world.isOpen (.own number) false
        deletions := Function.update world.deletions number (world.deletions number + 1) }
      object (some { client with pTcpSocket := none })) := by
  have holder : world.socketOf object = some (.own number) := (socketOf_eq known).trans held
  have live := owned.alive object number holder
  -- No other client has this socket.
  have settled : forall other socket, (World.set { world with
        isOpen := Function.update world.isOpen (.own number) false
        deletions := Function.update world.deletions number (world.deletions number + 1) }
      object (some { client with pTcpSocket := none })).socketOf other = some socket ->
      world.socketOf other = some socket ∧ socket ≠ .own number := by
    intro other socket has
    by_cases same : other = object
    · subst same
      rw [socketOf_set_self] at has
      cases has
    · rw [socketOf_set_of_ne same] at has
      refine ⟨has, fun shared => same ?_⟩
      subst shared
      exact owned.unique other object _ has holder live.2
  exact {
    modes := by
      intro other changed found
      by_cases same : other = object
      · subst same
        rw [clients_set_self] at found
        cases found
        have mode := owned.modes other client known
        rw [held] at mode
        simpa using mode
      · rw [clients_set_of_ne same] at found
        exact owned.modes other changed found
    alive := by
      intro other own has
      rcases settled other _ has with ⟨before, different⟩
      have different' : own ≠ number := fun same => different (congrArg Socket.own same)
      have kept := owned.alive other own before
      refine ⟨?_, ?_⟩
      · exact (Function.update_of_ne different' _ _).trans kept.1
      · exact (Function.update_of_ne different _ _).trans kept.2
    unique := by
      intro first second socket one two opened
      rcases settled first socket one with ⟨before, different⟩
      exact owned.unique first second socket before (settled second socket two).1
        ((Function.update_of_ne different _ _).symm.trans opened)
    covered := by
      intro own allocated
      by_cases same : own = number
      · refine Or.inl ?_
        subst same
        refine (Function.update_self _ _ _).trans ?_
        rw [live.1]
      · rcases owned.covered own allocated with deleted | ⟨owner, has⟩
        · exact Or.inl ((Function.update_of_ne same _ _).trans deleted)
        · refine Or.inr ⟨owner, ?_⟩
          have different : owner ≠ object := by
            intro shared
            subst shared
            rw [holder] at has
            cases has
            exact same rfl
          rw [socketOf_set_of_ne different]
          exact has
    beyond := by
      intro own outside
      have different : own ≠ number := by
        intro same
        subst same
        exact absurd (owned.lt_allocated holder) (Nat.not_lt.mpr outside)
      have before := owned.beyond own outside
      refine ⟨(Function.update_of_ne different _ _).trans before.1, ?_⟩
      exact (Function.update_of_ne (fun same => different (Socket.own.inj same)) _ _).trans before.2 }

/-- What a stopped client leaves behind. -/
structure Stopped (world : World) (object : Nat) (reached : World) : Prop where
  owned : Owned reached
  free : forall number, reached.socketOf object ≠ some (.own number)
  kept : forall socket, world.socketOf object ≠ some socket -> reached.isOpen socket = world.isOpen socket

theorem stop (owned : Owned world) (known : world.clients object = some client) :
    exists reached, world.stop object client = some reached ∧ Stopped world object reached := by
  have mode := owned.modes object client known
  have socket := socketOf_eq known
  cases held : client.pTcpSocket with
  | none =>
      rw [held] at socket
      refine ⟨world, by rw [World.stop, held], owned, fun number has => ?_, fun _ _ => rfl⟩
      rw [socket] at has
      cases has
  | some pointer =>
      rw [held] at socket mode
      cases pointer with
      | own number =>
          have own : client.useServerSocket = false := by simpa using mode
          have live := (owned.alive object number socket).1
          refine ⟨_, ?_, owned.deleteOwn known held, fun other has => ?_, fun other different => ?_⟩
          · simp [World.stop, World.close, World.delete, World.touch, held, own, live]
          · rw [socketOf_set_self] at has
            cases has
          · refine Function.update_of_ne (fun same => different ?_) _ _
            rw [same]
            exact socket
      | server number =>
          have server : client.useServerSocket = true := mode.mpr ⟨number, rfl⟩
          refine ⟨_, ?_, owned.closeServer number, fun other has => ?_, fun other different => ?_⟩
          · simp [World.stop, World.close, World.touch, held, server]
          · cases socket.symm.trans has
          · refine Function.update_of_ne (fun same => different ?_) _ _
            rw [same]
            exact socket

/-- The use of a socket by a live client. -/
theorem use (owned : Owned world) (known : world.clients object = some client) : world.use client = some world := by
  have socket := socketOf_eq known
  unfold World.use
  cases held : client.pTcpSocket with
  | none => rfl
  | some pointer =>
      rw [held] at socket
      cases pointer with
      | own number => simp [World.touch, (owned.alive object number socket).1]
      | server number => rfl

theorem read (owned : Owned world) (known : world.clients object = some client) (ended : Bool) :
    exists reached, world.read object client ended = some reached ∧ Owned reached := by
  rw [World.read, owned.use known]
  simp only [Option.bind_eq_bind, Option.bind_some]
  split
  · rcases owned.stop known with ⟨reached, stopped, after⟩
    exact ⟨reached, stopped, after.owned⟩
  · exact ⟨world, rfl, owned⟩

/-- A socket is allocated and deleted at once. -/
theorem connectFailed (owned : Owned world) :
    Owned { world with
      allocated := world.allocated + 1
      deletions := Function.update world.deletions world.allocated (world.deletions world.allocated + 1) } where
  modes := owned.modes
  alive := by
    intro other number held
    have live := owned.alive other number held
    have different : number ≠ world.allocated := Nat.ne_of_lt (owned.lt_allocated held)
    exact ⟨(Function.update_of_ne different _ _).trans live.1, live.2⟩
  unique := owned.unique
  covered := by
    intro number allocated
    by_cases same : number = world.allocated
    · subst same
      refine Or.inl ((Function.update_self _ _ _).trans ?_)
      rw [(owned.beyond _ (Nat.le_refl _)).1]
    · rcases owned.covered number (by change number < world.allocated + 1 at allocated; omega) with deleted | held
      · exact Or.inl ((Function.update_of_ne same _ _).trans deleted)
      · exact Or.inr held
  beyond := by
    intro number outside
    have behind : world.allocated < number := outside
    have before := owned.beyond number (Nat.le_of_lt behind)
    exact ⟨(Function.update_of_ne (Nat.ne_of_gt behind) _ _).trans before.1, before.2⟩

/-- A client without a socket of its own gets one that nobody has, and it is opened. -/
theorem give (owned : Owned world) {pointer : Socket} {allocated : Nat} {made : WiFiClient}
    (pointing : made.pTcpSocket = some pointer)
    (mode : made.useServerSocket = true <-> exists number, made.pTcpSocket = some (.server number))
    (free : forall number, world.socketOf object ≠ some (.own number))
    (unheld : forall other, world.socketOf other ≠ some pointer)
    (undeleted : forall number, pointer = .own number -> world.deletions number = 0)
    (more : forall number, number < allocated -> number < world.allocated ∨ pointer = .own number)
    (less : forall number, allocated ≤ number -> world.allocated ≤ number ∧ .own number ≠ pointer) :
    Owned (World.set
      { world with allocated := allocated, isOpen := Function.update world.isOpen pointer true } object
      (some made)) := by
  -- The socket is held by this client, and every other one as before.
  have settled : forall other socket, (World.set
      { world with allocated := allocated, isOpen := Function.update world.isOpen pointer true } object
      (some made)).socketOf other = some socket ->
      other = object ∧ socket = pointer ∨ world.socketOf other = some socket ∧ socket ≠ pointer := by
    intro other socket has
    by_cases same : other = object
    · subst same
      rw [socketOf_set_self, Option.bind_some, pointing] at has
      exact Or.inl ⟨rfl, (Option.some.inj has).symm⟩
    · rw [socketOf_set_of_ne same] at has
      exact Or.inr ⟨has, fun new => unheld other (has.trans (congrArg some new))⟩
  exact {
    modes := by
      intro other changed found
      by_cases same : other = object
      · subst same
        rw [clients_set_self] at found
        cases found
        exact mode
      · rw [clients_set_of_ne same] at found
        exact owned.modes other changed found
    alive := by
      intro other number has
      change world.deletions number = 0 ∧ Function.update world.isOpen pointer true (.own number) = true
      rcases settled other _ has with ⟨-, new⟩ | ⟨before, old⟩
      · rw [new, Function.update_self]
        exact ⟨undeleted number new.symm, rfl⟩
      · rw [Function.update_of_ne old]
        exact owned.alive other number before
    unique := by
      intro first second socket one two opened
      change Function.update world.isOpen pointer true socket = true at opened
      rcases settled first socket one with ⟨here, new⟩ | ⟨before, old⟩
      · rcases settled second socket two with ⟨too, -⟩ | ⟨-, old⟩
        · exact here.trans too.symm
        · exact absurd new old
      · rcases settled second socket two with ⟨-, new⟩ | ⟨also, -⟩
        · exact absurd new old
        · rw [Function.update_of_ne old] at opened
          exact owned.unique first second socket before also opened
    covered := by
      intro number within
      rcases more number within with old | new
      · rcases owned.covered number old with deleted | ⟨owner, has⟩
        · exact Or.inl deleted
        · refine Or.inr ⟨owner, ?_⟩
          have different : owner ≠ object := by
            intro shared
            subst shared
            exact free number has
          rw [socketOf_set_of_ne different]
          exact has
      · refine Or.inr ⟨object, ?_⟩
        rw [socketOf_set_self, Option.bind_some, pointing, new]
    beyond := by
      intro number outside
      rcases less number outside with ⟨old, different⟩
      have before := owned.beyond number old
      change world.deletions number = 0 ∧ Function.update world.isOpen pointer true (.own number) = false
      rw [Function.update_of_ne different]
      exact before }

/-- A socket is allocated for a client without one. -/
theorem connected (owned : Owned world) (known : world.clients object = some client)
    (unheld : client.pTcpSocket = none) :
    Owned (World.set
      { world with
        allocated := world.allocated + 1
        isOpen := Function.update world.isOpen (.own world.allocated) true }
      object (some { client with pTcpSocket := some (.own world.allocated) })) := by
  have mode := owned.modes object client known
  rw [unheld] at mode
  have socket := (socketOf_eq known).trans unheld
  apply owned.give rfl
  · simpa using mode
  · intro number has
    cases socket.symm.trans has
  · exact fun other held => Nat.lt_irrefl _ (owned.lt_allocated held)
  · intro number same
    rw [← Socket.own.inj same]
    exact (owned.beyond _ (Nat.le_refl _)).1
  · intro number within
    rcases Nat.lt_succ_iff_lt_or_eq.mp within with old | new
    · exact Or.inl old
    · exact Or.inr (congrArg Socket.own new.symm)
  · intro number outside
    refine ⟨Nat.le_of_lt outside, fun same => ?_⟩
    rw [Socket.own.inj same] at outside
    exact Nat.lt_irrefl _ outside

/-- A server hands out its socket, which nobody has. -/
theorem accepted (owned : Owned world) (absent : world.clients object = none)
    (unheld : forall other, world.socketOf other ≠ some (.server number)) :
    Owned (World.set { world with isOpen := Function.update world.isOpen (.server number) true } object
      (some (.ofServer number))) := by
  apply owned.give rfl
  · simp [WiFiClient.ofServer]
  · intro other has
    rw [World.socketOf, absent] at has
    cases has
  · exact unheld
  · intro other impossible
    cases impossible
  · exact fun other within => Or.inl within
  · exact fun other outside => ⟨outside, by simp⟩

theorem connect (owned : Owned world) (known : world.clients object = some client) (granted opened : Bool) :
    exists reached, world.connect object client granted opened = some reached ∧ Owned reached := by
  unfold World.connect
  by_cases held : client.pTcpSocket ≠ none
  · exact ⟨world, if_pos held, owned⟩
  · rw [if_neg held]
    rw [not_not] at held
    cases granted with
    | false => exact ⟨world, rfl, owned⟩
    | true =>
        cases opened with
        | false =>
            refine ⟨_, ?_, owned.connectFailed⟩
            simp [World.delete, World.touch, (owned.beyond _ (Nat.le_refl _)).1]
        | true => exact ⟨_, rfl, owned.connected known held⟩

end Owned

/-! ## Steps and runs -/

/-- A step with a client: there is none, or the client takes it. -/
theorem live_of {action : WiFiClient -> Option World} {good : World -> Prop} (absent : good world)
    (present : forall client, world.clients object = some client ->
      exists reached, action client = some reached ∧ good reached) :
    exists reached, world.live object action = some reached ∧ good reached := by
  rw [World.live]
  cases known : world.clients object with
  | none => exact ⟨world, rfl, absent⟩
  | some client => exact present client known

namespace Owned

/-- A client without a connection has no socket of its own. -/
theorem idle_socket (owned : Owned world) (known : world.clients object = some client) (idle : Idle world object)
    {socket : Socket} (has : client.pTcpSocket = some socket) :
    world.isOpen socket = false ∧ forall number, socket ≠ .own number := by
  have held := (socketOf_eq known).trans has
  have closed := idle socket held
  refine ⟨closed, fun number same => ?_⟩
  subst same
  rw [(owned.alive object number held).2] at closed
  cases closed

/-- A new client without a connection. -/
theorem build (owned : Owned world) {made : WiFiClient}
    (mode : made.useServerSocket = true <-> exists number, made.pTcpSocket = some (.server number))
    (idle : forall socket, made.pTcpSocket = some socket ->
      world.isOpen socket = false ∧ forall number, socket ≠ .own number) :
    Owned (world.build object (world.set object (some made))) := by
  unfold World.build
  split
  next absent =>
      apply owned.set
      · simp [World.socketOf, absent]
      · rintro _ ⟨⟩
        exact mode
      · exact idle
  next => exact owned

theorem build_fresh (owned : Owned world) (object : Nat) :
    Owned (world.build object (world.set object (some .fresh))) := by
  apply owned.build
  · simp [WiFiClient.fresh]
  · simp [WiFiClient.fresh]

theorem assign (owned : Owned world) {target source : Nat} (known : world.clients source = some client)
    (careful : Careful world (.assign target source)) : Owned (world.set target (some client)) := by
  by_cases same : target = source
  · subst same
    have unchanged : world.set target (some client) = world := by
      rw [World.set, ← known, Function.update_eq_self]
    rw [unchanged]
    exact owned
  · rcases careful same with ⟨idle, free⟩
    apply owned.set free
    · rintro _ ⟨⟩
      exact owned.modes source client known
    · exact fun _ => owned.idle_socket known idle

theorem destroy (owned : Owned world) (known : world.clients object = some client) :
    exists reached, ((world.stop object client).map fun world => world.set object none) = some reached ∧
      Owned reached ∧ KeepsConnections world reached (.destroy object) := by
  rcases owned.stop known with ⟨reached, stops, after⟩
  refine ⟨reached.set object none, by rw [stops, Option.map_some], ?_, ?_⟩
  · apply after.owned.set after.free
    · intro client impossible
      cases impossible
    · intro socket impossible
      cases impossible
  · intro other different socket has opened
    refine (after.kept socket fun same => different ?_).trans opened
    exact owned.unique other object socket has same opened

/-- A careful step is defined and keeps the invariant. -/
theorem perform (owned : Owned world) {step : Step} (careful : Careful world step) :
    exists reached, world.perform step = some reached ∧ Owned reached ∧ KeepsConnections world reached step := by
  cases step with
  | construct object => exact ⟨_, rfl, owned.build_fresh object, trivial⟩
  | copy object source =>
      apply live_of ⟨owned, trivial⟩
      intro client known
      exact ⟨_, rfl, owned.build (owned.modes source client known) fun _ => owned.idle_socket known careful, trivial⟩
  | assign target source =>
      apply live_of ⟨owned, trivial⟩
      intro client known
      apply live_of ⟨owned, trivial⟩
      intro other there
      exact ⟨_, rfl, owned.assign known careful, trivial⟩
  | available object server accepted =>
      refine ⟨_, rfl, ?_, trivial⟩
      cases accepted with
      | false => exact owned.build_fresh object
      | true =>
          simp only [if_true]
          unfold World.build
          split
          next absent => exact owned.accepted absent (careful rfl)
          next => exact owned
  | connect object granted opened =>
      apply live_of ⟨owned, trivial⟩
      intro client known
      rcases owned.connect known granted opened with ⟨reached, connects, after⟩
      exact ⟨reached, connects, after, trivial⟩
  | use object =>
      apply live_of ⟨owned, trivial⟩
      intro client known
      exact ⟨world, owned.use known, owned, trivial⟩
  | read object ended =>
      apply live_of ⟨owned, trivial⟩
      intro client known
      rcases owned.read known ended with ⟨reached, reads, after⟩
      exact ⟨reached, reads, after, trivial⟩
  | stop object =>
      apply live_of ⟨owned, trivial⟩
      intro client known
      rcases owned.stop known with ⟨reached, stops, after⟩
      exact ⟨reached, stops, after.owned, trivial⟩
  | destroy object =>
      apply live_of ⟨owned, fun _ _ _ _ opened => opened⟩
      intro client known
      exact owned.destroy known

end Owned

/-- Every state of a careful run, and every step between two of them. -/
theorem Owned.run (owned : Owned world) (steps : List Step) (careful : CarefulRun world steps) :
    exists reached, world.run steps = some reached ∧ Owned reached ∧
      forall before step after, steps = before ++ step :: after ->
        exists here next, world.run before = some here ∧ Owned here ∧ here.perform step = some next ∧
          KeepsConnections here next step := by
  induction steps generalizing world with
  | nil =>
      refine ⟨world, rfl, owned, fun before step after split => ?_⟩
      cases before <;> cases split
  | cons first steps inductionHypothesis =>
      rcases owned.perform careful.1 with ⟨next, performed, after, kept⟩
      rcases inductionHypothesis after (careful.2 next performed) with ⟨reached, runs, last, between⟩
      have begins (later : List Step) : world.run (first :: later) = next.run later := by
        rw [World.run, List.foldlM_cons, performed]
        rfl
      refine ⟨reached, (begins steps).trans runs, last, fun before step rest split => ?_⟩
      cases before with
      | nil =>
          cases split
          exact ⟨world, next, rfl, owned, performed, kept⟩
      | cons other before =>
          cases split
          rcases between before step rest rfl with ⟨here, there, runs, middle⟩
          exact ⟨here, there, (begins before).trans runs, middle⟩

theorem owned_initial : Owned World.initial where
  modes := fun _ _ impossible => by cases impossible
  alive := fun _ _ impossible => by cases impossible
  unique := fun _ _ _ impossible => by cases impossible
  covered := fun _ impossible => absurd impossible (Nat.not_lt_zero _)
  beyond := fun _ _ => ⟨rfl, rfl⟩

/-- In a careful run no socket is used behind its deletion, every allocated socket has one owner until it is deleted
once, and the end of a client leaves the connections of the others open. -/
theorem careful_clients_own_once (steps : List Step) (careful : CarefulRun World.initial steps) :
    exists reached, World.initial.run steps = some reached ∧ OwnedOnce reached ∧
      ((forall object, reached.clients object = none) ->
        forall number, number < reached.allocated -> reached.deletions number = 1) ∧
      forall before step after, steps = before ++ step :: after ->
        exists here next, World.initial.run before = some here ∧ OwnedOnce here ∧ here.perform step = some next ∧
          KeepsConnections here next step := by
  rcases owned_initial.run steps careful with ⟨reached, runs, owned, between⟩
  refine ⟨reached, runs, owned.ownedOnce, fun gone number allocated => ?_, fun before step after split => ?_⟩
  · rcases owned.covered number allocated with deleted | ⟨object, held⟩
    · exact deleted
    · rw [World.socketOf, gone object] at held
      cases held
  · rcases between before step after split with ⟨here, next, begins, middle, performed, kept⟩
    exact ⟨here, next, begins, middle.ownedOnce, performed, kept⟩

theorem CarefulRun.cons {world reached : World} {step : Step} {steps : List Step} (careful : Careful world step)
    (performed : world.perform step = some reached) (later : CarefulRun reached steps) :
    CarefulRun world (step :: steps) := by
  refine ⟨careful, fun other same => ?_⟩
  rw [performed, Option.some.injEq] at same
  rw [← same]
  exact later

/-- A client of a server is stopped and copied; the copy is overwritten by a fresh client and connects by itself. -/
def reuse : List Step :=
  [.available 0 0 true, .stop 0, .copy 1 0, .destroy 0, .construct 2, .assign 1 2, .connect 1 true true, .use 1,
    .destroy 2, .destroy 1]

theorem careful_clients_reuse :
    exists reached, World.initial.run reuse = some reached ∧ OwnedOnce reached ∧ reached.deletions 0 = 1 ∧
      forall before step after, reuse = before ++ step :: after ->
        exists here next, World.initial.run before = some here ∧ OwnedOnce here ∧ here.perform step = some next ∧
          KeepsConnections here next step := by
  have careful : CarefulRun World.initial reuse := by
    refine .cons ?_ rfl (.cons trivial rfl (.cons ?_ rfl (.cons trivial rfl (.cons trivial rfl (.cons ?_ rfl
      (.cons trivial rfl (.cons trivial rfl (.cons trivial rfl (.cons trivial rfl trivial)))))))))
    · intro _ object held
      cases held
    · intro socket held
      cases held
      rfl
    · refine fun _ => ⟨fun socket held => ?_, fun number held => ?_⟩
      · cases held
      · cases held
  rcases careful_clients_own_once reuse careful with ⟨reached, runs, once, _, between⟩
  refine ⟨reached, runs, once, ?_, between⟩
  cases runs
  rfl

/-- The copy of a connected client deletes the socket a second time; the copy of a client that a server has handed
out closes the connection of the original; an assignment loses a socket. -/
theorem copied_clients_share :
    World.initial.run [.construct 0, .connect 0 true true, .copy 1 0, .destroy 1, .destroy 0] = none ∧
      (exists here next,
        World.initial.run [.available 0 0 true, .copy 1 0] = some here ∧ here.perform (.destroy 1) = some next ∧
          ¬ KeepsConnections here next (.destroy 1)) ∧
      exists lost, World.initial.run [.construct 0, .connect 0 true true, .construct 1, .assign 0 1, .destroy 0,
          .destroy 1] = some lost ∧ ¬ OwnedOnce lost := by
  refine ⟨rfl, ⟨_, _, rfl, rfl, ?_⟩, ⟨_, rfl, ?_⟩⟩
  · intro keeps
    have still := keeps 0 (by decide) (.server 0) rfl rfl
    cases still
  · intro once
    rcases once 0 (by decide) with ⟨deleted, -⟩ | ⟨-, owner, holders⟩
    · cases deleted
    · have held := (holders owner).mpr rfl
      by_cases second : owner = 1
      · subst second
        cases held
      · by_cases first : owner = 0
        · subst first
          cases held
        · simp [World.socketOf, World.set, World.build, World.initial, first, second] at held

end Steps

end WiFi
end DevKit
