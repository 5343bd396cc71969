import DevKit.Foundation.CString

namespace DevKit
namespace Httpd

/-!
# The table of handlers

The server keeps pointers to its handlers in an array of 32 slots.  A handler is
registered in the first empty slot, unless the table has its URI already, and an
unregistered handler leaves an empty slot.

The loop that looks for both remembers the first empty slot and compares the URI of
every other one.  A second empty slot in front of the URI is compared, too, and there
is nothing that could be compared: this is undefined behaviour, which is `none` here.

A handler is known by its address; what is stored there does not change.
-/

abbrev Address := Nat

/-- `struct httpd_wsgi_call`, as far as the matching reads it. -/
structure WsgiCall where
  uri : Option Bytes
deriving Repr, DecidableEq

def maxWsgiHandlers : Nat := 32

inductive Status where
  | noErr
  | inProgressErr
deriving Repr, DecidableEq

/-- `all_wsgi_calls` -/
structure Table where
  slots : List (Option Address)
  size : slots.length = maxWsgiHandlers

namespace Table

def store (table : Table) (index : Nat) (slot : Option Address) : Table :=
  ⟨table.slots.set index slot, by rw [List.length_set, table.size]⟩

end Table

/-- `httpd_wsgi_init` -/
def httpdWsgiInit : Table :=
  ⟨List.replicate maxWsgiHandlers none, List.length_replicate⟩

/-- How the loop of a registration ends. -/
inductive Search where
  | found
  | free (storeIndex : Option Nat)
deriving Repr, DecidableEq

section Functions

variable (calls : Address -> WsgiCall)

/-- The loop over the slots, from an index on. -/
def search (uri : Bytes) : (index : Nat) -> (storeIndex : Option Nat) -> List (Option Address) -> Option Search
  | _, storeIndex, [] => some (.free storeIndex)
  | index, none, none :: slots => search uri (index + 1) (some index) slots
  | _, some _, none :: _ => none
  | index, storeIndex, some address :: slots =>
      (calls address).uri.bind fun other =>
        if other = uri then some .found else search uri (index + 1) storeIndex slots

def httpdRegisterWsgiHandler (table : Table) (address : Address) : Option (Status × Table) :=
  match (calls address).uri with
  | none => some (.noErr, table)
  | some uri =>
      (search calls uri 0 none table.slots).map fun
        | .found => (.noErr, table)
        | .free none => (.inProgressErr, table)
        | .free (some index) => (.noErr, table.store index (some address))

end Functions

/-- The first slot with the pointer becomes empty. -/
def httpdUnregisterWsgiHandler (table : Table) (address : Address) : Table :=
  match table.slots.findIdx? fun slot => decide (slot = some address) with
  | none => table
  | some index => table.store index none

/-! ## Keys -/

section Keys

variable (calls : Address -> WsgiCall)

/-- A slot with a handler for the URI. -/
def Serves (uri : Bytes) (slot : Option Address) : Prop :=
  slot.bind (fun address => (calls address).uri) = some uri

instance (uri : Bytes) (slot : Option Address) : Decidable (Serves calls uri slot) :=
  inferInstanceAs (Decidable (_ = _))

/-- The handlers have URIs, and no two of them have the same one. -/
structure Keyed (table : Table) : Prop where
  named : forall address, some address ∈ table.slots -> (calls address).uri ≠ none
  distinct : forall {uri : Bytes} {first second : Nat} {one two : Option Address},
    table.slots[first]? = some one -> table.slots[second]? = some two -> Serves calls uri one -> Serves calls uri two ->
      first = second

/-- The slots that are compared with a URI before the search ends. -/
def compared (uri : Bytes) (slots : List (Option Address)) : List (Option Address) :=
  slots.takeWhile fun slot => decide (¬ Serves calls uri slot)

variable {calls} {uri : Bytes} {slots : List (Option Address)}

theorem compared_cons (slot : Option Address) (slots : List (Option Address)) :
    compared calls uri (slot :: slots) = if Serves calls uri slot then [] else slot :: compared calls uri slots := by
  by_cases serves : Serves calls uri slot <;> simp [compared, serves]

theorem length_toList_le (storeIndex : Option Nat) : storeIndex.toList.length ≤ 1 := by
  cases storeIndex <;> simp

/-- The search is defined if it meets at most one empty slot. -/
theorem search_isSome (named : forall address, some address ∈ slots -> (calls address).uri ≠ none) (index : Nat)
    (storeIndex : Option Nat) :
    (search calls uri index storeIndex slots).isSome = true <->
      (compared calls uri slots).count none + storeIndex.toList.length ≤ 1 := by
  induction slots generalizing index storeIndex with
  | nil =>
      have defined : (search calls uri index storeIndex []).isSome = true := by cases storeIndex <;> rfl
      have few : (compared calls uri []).count none + storeIndex.toList.length ≤ 1 := by
        rw [compared, List.takeWhile_nil, List.count_nil, Nat.zero_add]
        exact length_toList_le storeIndex
      exact iff_of_true defined few
  | cons slot slots inductionHypothesis =>
      have later := inductionHypothesis fun address member => named address (List.mem_cons_of_mem _ member)
      rw [compared_cons]
      cases slot with
      | none =>
          have other : ¬ Serves calls uri none := nofun
          rw [if_neg other, List.count_cons_self]
          cases storeIndex with
          | none =>
              rw [search, later]
              simp
          | some index =>
              refine iff_of_false (fun defined => Bool.false_ne_true defined) ?_
              simp
      | some address =>
          rcases Option.ne_none_iff_exists'.mp (named address List.mem_cons_self) with ⟨text, known⟩
          have serves : Serves calls uri (some address) <-> text = uri := by
            rw [Serves, Option.bind_some, known, Option.some.injEq]
          rw [search, known, Option.bind_some]
          simp only [serves]
          split
          · refine iff_of_true rfl ?_
            rw [List.count_nil, Nat.zero_add]
            exact length_toList_le storeIndex
          · rw [later, List.count_cons_of_ne (by simp)]

/-- Where a URI is registered, the search finds it. -/
theorem search_found {index : Nat} {storeIndex : Option Nat} {result : Search}
    (searched : search calls uri index storeIndex slots = some result) :
    result = .found <-> exists slot, slot ∈ slots ∧ Serves calls uri slot := by
  induction slots generalizing index storeIndex with
  | nil =>
      have free : result = .free storeIndex := by
        cases storeIndex <;> exact (Option.some.inj searched).symm
      rw [free]
      simp
  | cons slot slots inductionHypothesis =>
      cases slot with
      | none =>
          cases storeIndex with
          | none =>
              rw [inductionHypothesis searched]
              simp [Serves]
          | some index => cases searched
      | some address =>
          rw [search] at searched
          rcases Option.bind_eq_some_iff.mp searched with ⟨text, known, rest⟩
          have serves : Serves calls uri (some address) <-> text = uri := by
            rw [Serves, Option.bind_some, known, Option.some.injEq]
          split at rest
          next same =>
            exact iff_of_true (Option.some.inj rest).symm ⟨_, List.mem_cons_self, serves.mpr same⟩
          next other =>
            rw [inductionHypothesis rest]
            simp [serves, other]

/-- Otherwise it gives the first empty slot. -/
theorem search_free {index : Nat} {storeIndex place : Option Nat}
    (searched : search calls uri index storeIndex slots = some (.free place)) :
    place = storeIndex.or ((slots.findIdx? fun slot => decide (slot = none)).map (index + ·)) := by
  induction slots generalizing index storeIndex with
  | nil =>
      cases storeIndex with
      | none =>
          cases searched
          rfl
      | some index =>
          cases searched
          rfl
  | cons slot slots inductionHypothesis =>
      cases slot with
      | none =>
          cases storeIndex with
          | none =>
              rw [inductionHypothesis searched]
              simp [List.findIdx?_cons]
          | some index => cases searched
      | some address =>
          rw [search] at searched
          rcases Option.bind_eq_some_iff.mp searched with ⟨text, _, rest⟩
          split at rest
          next => cases rest
          next =>
            rw [inductionHypothesis rest, List.findIdx?_cons]
            simp [Option.map_map, Function.comp_def, Nat.add_comm, Nat.add_left_comm]

end Keys

/-! ## Requests -/

inductive Request where
  | register (address : Address)
  | unregister (address : Address)
deriving Repr, DecidableEq

section Requests

variable (calls : Address -> WsgiCall)

def perform (table : Table) : Request -> Option (Status × Table)
  | .register address => httpdRegisterWsgiHandler calls table address
  | .unregister address => some (.noErr, httpdUnregisterWsgiHandler table address)

/-- How many handlers are registered. -/
def Table.registered (table : Table) : Nat :=
  table.slots.countP Option.isSome

/-- What a registration does to a table that is keyed by URI. -/
structure Registered (table next : Table) (address : Address) (uri : Bytes) (status : Status) : Prop where
  existing : (exists slot, slot ∈ table.slots ∧ Serves calls uri slot) -> status = .noErr ∧ next = table
  succeeds : (forall slot, slot ∈ table.slots -> ¬ Serves calls uri slot) ->
    (status = .noErr <-> table.registered < maxWsgiHandlers)
  stored : (forall slot, slot ∈ table.slots -> ¬ Serves calls uri slot) -> status = .noErr ->
    exists index, table.slots[index]? = some none ∧ next.slots = table.slots.set index (some address)
  refused : status ≠ .noErr -> next = table

/-- What a request does to a table that is keyed by URI. -/
def Does (table : Table) (request : Request) (status : Status) (next : Table) : Prop :=
  match request with
  | .register address =>
      ((calls address).uri = none -> next = table) ∧
        forall uri, (calls address).uri = some uri -> Registered calls table next address uri status
  | .unregister address =>
      next.slots = table.slots.map fun slot => if slot = some address then none else slot

/-- At most one empty slot stands in front of the URI. -/
def Clear (table : Table) : Request -> Prop
  | .register address =>
      forall uri, (calls address).uri = some uri -> (compared calls uri table.slots).count none ≤ 1
  | .unregister _ => True

variable {calls} {table : Table}

theorem registered_lt_iff : table.registered < maxWsgiHandlers <-> none ∈ table.slots := by
  rw [Table.registered, ← table.size, List.countP_lt_length_iff]
  constructor
  · rintro ⟨slot, member, empty⟩
    cases slot with
    | none => exact member
    | some address => cases empty
  · exact fun member => ⟨none, member, rfl⟩

/-- A handler with a new URI may take an empty slot. -/
theorem Keyed.store (keyed : Keyed calls table) {index : Nat} (empty : table.slots[index]? = some none) {address : Address}
    {uri : Bytes} (known : (calls address).uri = some uri)
    (fresh : forall slot, slot ∈ table.slots -> ¬ Serves calls uri slot) :
    Keyed calls (table.store index (some address)) := by
  have serves {other : Bytes} : Serves calls other (some address) <-> uri = other := by
    rw [Serves, Option.bind_some, known, Option.some.injEq]
  have bound : index < table.slots.length := (List.getElem?_eq_some_iff.mp empty).1
  have at_place (place : Nat) : (table.store index (some address)).slots[place]? =
      if index = place then some (some address) else table.slots[place]? := by
    rw [Table.store, List.getElem?_set, if_pos bound]
  constructor
  · intro other member
    rcases List.mem_or_eq_of_mem_set member with old | new
    · exact keyed.named other old
    · rw [Option.some.inj new, known]
      exact Option.some_ne_none uri
  · intro other first second one two atFirst atSecond servesOne servesTwo
    rw [at_place] at atFirst atSecond
    split at atFirst
    next here =>
      split at atSecond
      next there => exact here.symm.trans there
      next =>
        rw [← Option.some.inj atFirst, serves] at servesOne
        exact absurd (servesOne ▸ servesTwo) (fresh two (List.mem_of_getElem? atSecond))
    next =>
      split at atSecond
      next there =>
        rw [← Option.some.inj atSecond, serves] at servesTwo
        exact absurd (servesTwo ▸ servesOne) (fresh one (List.mem_of_getElem? atFirst))
      next => exact keyed.distinct atFirst atSecond servesOne servesTwo

/-- Emptied slots leave the others as they are. -/
theorem Keyed.empty (keyed : Keyed calls table) {next : Table} {address : Address}
    (emptied : next.slots = table.slots.map fun slot => if slot = some address then none else slot) :
    Keyed calls next := by
  have old {place : Nat} {uri : Bytes} {slot : Option Address} (there : next.slots[place]? = some slot)
      (serves : Serves calls uri slot) : table.slots[place]? = some slot := by
    rw [emptied, List.getElem?_map] at there
    rcases Option.map_eq_some_iff.mp there with ⟨before, known, same⟩
    split at same
    next =>
      rw [← same] at serves
      cases serves
    next => rw [known, same]
  constructor
  · intro other member
    rw [emptied] at member
    rcases List.mem_map.mp member with ⟨before, known, same⟩
    split at same
    next => cases same
    next => exact keyed.named other (same ▸ known)
  · intro uri first second one two atFirst atSecond servesOne servesTwo
    exact keyed.distinct (old atFirst servesOne) (old atSecond servesTwo) servesOne servesTwo

/-- A handler is in one slot. -/
theorem Keyed.unique (keyed : Keyed calls table) {address : Address} {first second : Nat}
    (atFirst : table.slots[first]? = some (some address)) (atSecond : table.slots[second]? = some (some address)) :
    first = second := by
  rcases Option.ne_none_iff_exists'.mp (keyed.named address (List.mem_of_getElem? atFirst)) with ⟨uri, known⟩
  exact keyed.distinct atFirst atSecond known known

theorem unregister_slots (keyed : Keyed calls table) (address : Address) :
    (httpdUnregisterWsgiHandler table address).slots =
      table.slots.map fun slot => if slot = some address then none else slot := by
  unfold httpdUnregisterWsgiHandler
  apply List.ext_getElem?
  intro place
  rw [List.getElem?_map]
  split
  next absent =>
    have other := List.findIdx?_eq_none_iff.mp absent
    cases there : table.slots[place]? with
    | none => rfl
    | some slot =>
        have different : slot ≠ some address := by simpa using other slot (List.mem_of_getElem? there)
        rw [Option.map_some, if_neg different]
  next index found =>
    rcases List.findIdx?_eq_some_iff_getElem.mp found with ⟨bound, here, _⟩
    have known : table.slots[index]? = some (some address) := by
      rw [List.getElem?_eq_getElem bound, of_decide_eq_true here]
    rw [Table.store, List.getElem?_set, if_pos bound]
    split
    next same => rw [← same, known, Option.map_some, if_pos rfl]
    next other =>
      cases there : table.slots[place]? with
      | none => rfl
      | some slot =>
          have different : slot ≠ some address := fun same => other (keyed.unique known (same ▸ there))
          rw [Option.map_some, if_neg different]

/-- A registration that meets at most one empty slot does what it should. -/
theorem register_does (keyed : Keyed calls table) {address : Address} {uri : Bytes} (known : (calls address).uri = some uri)
    (clear : (compared calls uri table.slots).count none ≤ 1) :
    exists status next, httpdRegisterWsgiHandler calls table address = some (status, next) ∧
      Registered calls table next address uri status ∧ Keyed calls next := by
  rcases Option.isSome_iff_exists.mp ((search_isSome keyed.named 0 none).mpr clear) with ⟨result, searched⟩
  have found := search_found searched
  unfold httpdRegisterWsgiHandler
  rw [known]
  dsimp only
  rw [searched, Option.map_some]
  cases result with
  | found =>
      have there := found.mp rfl
      have absurdity {claim : Prop} (fresh : forall slot, slot ∈ table.slots -> ¬ Serves calls uri slot) : claim := by
        rcases there with ⟨slot, member, serves⟩
        exact absurd serves (fresh slot member)
      exact ⟨.noErr, table, rfl, ⟨fun _ => ⟨rfl, rfl⟩, fun fresh => absurdity fresh, fun fresh => absurdity fresh,
        fun different => absurd rfl different⟩, keyed⟩
  | free place =>
      have fresh : forall slot, slot ∈ table.slots -> ¬ Serves calls uri slot := fun slot member serves =>
        Search.noConfusion (found.mpr ⟨slot, member, serves⟩)
      have absent {claim : Prop} (there : exists slot, slot ∈ table.slots ∧ Serves calls uri slot) : claim := by
        rcases there with ⟨slot, member, serves⟩
        exact absurd serves (fresh slot member)
      have first := search_free searched
      rw [Option.none_or] at first
      cases scanned : table.slots.findIdx? fun slot => decide (slot = none) with
      | none =>
          have full : none ∉ table.slots := fun member => by
            simpa using List.findIdx?_eq_none_iff.mp scanned none member
          rw [scanned] at first
          subst first
          exact ⟨.inProgressErr, table, rfl, ⟨fun there => absent there,
            fun _ => iff_of_false (by decide) fun less => full (registered_lt_iff.mp less),
            fun _ same => Status.noConfusion same, fun _ => rfl⟩, keyed⟩
      | some index =>
          rcases List.findIdx?_eq_some_iff_getElem.mp scanned with ⟨bound, here, _⟩
          have empty : table.slots[index]? = some none := by
            rw [List.getElem?_eq_getElem bound, of_decide_eq_true here]
          rw [scanned, Option.map_some, Nat.zero_add] at first
          subst first
          exact ⟨.noErr, table.store index (some address), rfl, ⟨fun there => absent there,
            fun _ => iff_of_true rfl (registered_lt_iff.mpr (List.mem_of_getElem? empty)),
            fun _ _ => ⟨index, empty, rfl⟩, fun different => absurd rfl different⟩, keyed.store empty known fresh⟩

/-- A request is served as it should be if it meets at most one empty slot. -/
theorem does_iff (keyed : Keyed calls table) (request : Request) :
    (exists status next, perform calls table request = some (status, next) ∧ Does calls table request status next ∧
      Keyed calls next) <-> Clear calls table request := by
  cases request with
  | register address =>
      cases known : (calls address).uri with
      | none =>
          refine iff_of_true ⟨.noErr, table, ?_, ⟨fun _ => rfl, fun uri named => ?_⟩, keyed⟩ fun uri named => ?_
          · rw [perform, httpdRegisterWsgiHandler, known]
          · cases known.symm.trans named
          · cases known.symm.trans named
      | some uri =>
          constructor
          · rintro ⟨status, next, performed, _⟩ other named
            rw [← Option.some.inj (known.symm.trans named)]
            rw [perform, httpdRegisterWsgiHandler, known] at performed
            rcases Option.map_eq_some_iff.mp performed with ⟨result, searched, _⟩
            exact (search_isSome keyed.named 0 none).mp (Option.isSome_iff_exists.mpr ⟨result, searched⟩)
          · intro clear
            rcases register_does keyed known (clear uri known) with ⟨status, next, performed, registered, keyedNext⟩
            refine ⟨status, next, performed, ⟨fun none => ?_, fun other named => ?_⟩, keyedNext⟩
            · cases known.symm.trans none
            · rw [← Option.some.inj (known.symm.trans named)]
              exact registered
  | unregister address =>
      have slots := unregister_slots keyed address
      exact iff_of_true ⟨.noErr, _, rfl, slots, keyed.empty slots⟩ trivial

variable (calls) in
/-- Every request of a sequence is served as it should be. -/
def Follows : Table -> List Request -> Prop
  | _, [] => True
  | table, request :: requests =>
      exists status next, perform calls table request = some (status, next) ∧ Does calls table request status next ∧
        Keyed calls next ∧ Follows next requests

variable (calls) in
/-- Every request of a sequence meets at most one empty slot. -/
def AlwaysClear : Table -> List Request -> Prop
  | _, [] => True
  | table, request :: requests =>
      Clear calls table request ∧
        forall status next, perform calls table request = some (status, next) -> AlwaysClear next requests

/-- The table is a set of handlers that is keyed by URI, along every sequence of
requests that never meets two empty slots, and along no other one. -/
theorem keyed_by_uri_iff (keyed : Keyed calls table) (requests : List Request) :
    Follows calls table requests <-> AlwaysClear calls table requests := by
  induction requests generalizing table with
  | nil => exact Iff.rfl
  | cons request requests inductionHypothesis =>
      constructor
      · rintro ⟨status, next, performed, does, keyedNext, rest⟩
        refine ⟨(does_iff keyed request).mp ⟨status, next, performed, does, keyedNext⟩, fun other reached same => ?_⟩
        rw [performed, Option.some.injEq, Prod.mk.injEq] at same
        rw [← same.2]
        exact (inductionHypothesis keyedNext).mp rest
      · rintro ⟨clear, later⟩
        rcases (does_iff keyed request).mpr clear with ⟨status, next, performed, does, keyedNext⟩
        exact ⟨status, next, performed, does, keyedNext, (inductionHypothesis keyedNext).mpr (later status next performed)⟩

/-! ### After the initialisation -/

theorem getElem?_httpdWsgiInit {index : Nat} {slot : Option Address}
    (there : httpdWsgiInit.slots[index]? = some slot) : slot = none :=
  List.eq_of_mem_replicate (List.mem_of_getElem? there)

theorem httpdWsgiInit_keyed : Keyed calls httpdWsgiInit where
  named := by
    intro address member
    cases List.eq_of_mem_replicate member
  distinct := by
    intro uri first second one two atFirst _ serves _
    rw [getElem?_httpdWsgiInit atFirst] at serves
    cases serves

/-- Every slot is empty, so there is nothing that a registration with a URI could be
compared with. -/
theorem clear_httpdWsgiInit_iff (request : Request) :
    Clear calls httpdWsgiInit request <-> forall address, request = .register address -> (calls address).uri = none := by
  cases request with
  | unregister address => exact iff_of_true trivial (fun _ impossible => by cases impossible)
  | register address =>
      have all (uri : Bytes) : compared calls uri httpdWsgiInit.slots = httpdWsgiInit.slots := by
        refine List.takeWhile_eq_self_iff.mpr fun slot member => ?_
        rw [List.eq_of_mem_replicate member]
        rfl
      constructor
      · intro clear other same
        cases same
        refine Option.eq_none_iff_forall_ne_some.mpr fun uri known => ?_
        have few := clear uri known
        rw [all uri, httpdWsgiInit, List.count_replicate_self] at few
        exact absurd few (by decide)
      · intro unnamed uri known
        rw [unnamed address rfl] at known
        cases known

theorem perform_httpdWsgiInit {request : Request} (clear : Clear calls httpdWsgiInit request) :
    perform calls httpdWsgiInit request = some (.noErr, httpdWsgiInit) := by
  have unnamed := (clear_httpdWsgiInit_iff request).mp clear
  cases request with
  | register address => rw [perform, httpdRegisterWsgiHandler, unnamed address rfl]
  | unregister address =>
      have absent : httpdWsgiInit.slots.findIdx? (fun slot => decide (slot = some address)) = none := by
        rw [List.findIdx?_eq_none_iff]
        intro slot member
        rw [List.eq_of_mem_replicate member]
        rfl
      rw [perform, httpdUnregisterWsgiHandler, absent]

/-- No run after the initialisation registers a handler with a URI. -/
theorem follows_httpdWsgiInit_iff (requests : List Request) :
    Follows calls httpdWsgiInit requests <->
      forall address, Request.register address ∈ requests -> (calls address).uri = none := by
  induction requests with
  | nil => exact iff_of_true trivial (fun _ member => absurd member List.not_mem_nil)
  | cons request requests inductionHypothesis =>
      constructor
      · rintro ⟨status, next, performed, does, keyed, rest⟩ address member
        have clear := (does_iff httpdWsgiInit_keyed request).mp ⟨status, next, performed, does, keyed⟩
        rcases List.mem_cons.mp member with same | later
        · exact (clear_httpdWsgiInit_iff request).mp clear address same.symm
        · cases (perform_httpdWsgiInit clear).symm.trans performed
          exact inductionHypothesis.mp rest address later
      · intro unnamed
        have clear := (clear_httpdWsgiInit_iff request).mpr fun address same =>
          unnamed address (same ▸ List.mem_cons_self)
        rcases (does_iff httpdWsgiInit_keyed request).mpr clear with ⟨status, next, performed, does, keyed⟩
        cases (perform_httpdWsgiInit clear).symm.trans performed
        refine ⟨_, _, performed, does, keyed, inductionHypothesis.mpr fun address member => ?_⟩
        exact unnamed address (List.mem_cons_of_mem _ member)

end Requests

/-- A handler for each address, with the address as its URI. -/
def numbered (address : Address) : WsgiCall :=
  ⟨some [UInt8.ofNat address]⟩

/-- A table with one empty slot. -/
def nearlyFull : Table :=
  ⟨(List.range 31).map some ++ [none], by simp [maxWsgiHandlers]⟩

theorem nearlyFull_at {place : Nat} {address : Address} (there : nearlyFull.slots[place]? = some (some address)) :
    place = address ∧ address < 31 := by
  rw [nearlyFull, List.getElem?_append] at there
  split at there
  next inside =>
    rw [List.length_map, List.length_range] at inside
    rw [List.getElem?_map, List.getElem?_range inside, Option.map_some, Option.some.injEq, Option.some.injEq] at there
    exact ⟨there, there ▸ inside⟩
  next =>
    have member := List.mem_singleton.mp (List.mem_of_getElem? there)
    cases member

theorem nearlyFull_keyed : Keyed numbered nearlyFull := by
  refine ⟨fun address _ => Option.some_ne_none _,
    fun {uri first second one two} atFirst atSecond servesOne servesTwo => ?_⟩
  rcases Option.bind_eq_some_iff.mp servesOne with ⟨a, rfl, uriA⟩
  rcases Option.bind_eq_some_iff.mp servesTwo with ⟨b, rfl, uriB⟩
  have same : UInt8.ofNat a = UInt8.ofNat b := (List.cons.inj (Option.some.inj (uriA.trans uriB.symm))).1
  have values := congrArg UInt8.toNat same
  rw [UInt8.toNat_ofNat', UInt8.toNat_ofNat'] at values
  rcases nearlyFull_at atFirst with ⟨placeA, smallA⟩
  rcases nearlyFull_at atSecond with ⟨placeB, smallB⟩
  rw [placeA, placeB]
  have short (address : Nat) (small : address < 31) : address % 2 ^ 8 = address :=
    Nat.mod_eq_of_lt (Nat.lt_of_lt_of_le small (by decide))
  rw [short a smallA, short b smallB] at values
  exact values

theorem keyed_by_uri_last : Follows numbered nearlyFull [.register 31, .unregister 4] := by
  refine (keyed_by_uri_iff nearlyFull_keyed _).mpr ⟨fun uri known => ?_, fun _ _ _ => ⟨trivial, fun _ _ _ => trivial⟩⟩
  rw [← Option.some.inj known]
  decide

/-- After the initialisation every slot is empty, and the first registration meets
the second one. -/
theorem first_registration_undefined :
    httpdRegisterWsgiHandler numbered httpdWsgiInit 0 = none ∧ ¬ Follows numbered httpdWsgiInit [.register 0] := by
  have undefined : httpdRegisterWsgiHandler numbered httpdWsgiInit 0 = none := by decide
  refine ⟨undefined, ?_⟩
  rintro ⟨status, next, performed, _⟩
  rw [perform, undefined] at performed
  cases performed

end Httpd
end DevKit
