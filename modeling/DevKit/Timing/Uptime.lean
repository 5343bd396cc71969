import DevKit.Foundation.Critical
import DevKit.Foundation.History
import Mathlib.Data.List.Chain

namespace DevKit
namespace Timing

open Critical

/-!
# The uptime counters

The board has one hardware counter of microseconds, of which only the low 32
bits can be read.  `SystemTickCounter` adds up the differences of readings
that are less than one wrap apart: an interrupt samples the counter every
second, and each call samples it as well.  Threads and the interrupt share the
sum, so each of them works inside a critical section, and the section of a
call contains the section of its sample.

`millis` divides the low 32 bits themselves.
-/

/-- The low 32 bits of the hardware time. -/
def usTickerRead (time : Nat) : UInt32 :=
  UInt32.ofNat time

/-- What happens to the counter: the reading that starts it, the reading of a
sample, and the result of a call with the time at which the call sampled. -/
inductive Event where
  | started (time : Nat)
  | sampled (time : Nat)
  | read (sampledAt : Option Nat) (result : UInt64)
deriving Repr, DecidableEq

/-- The static variables, whether the sampler is attached to the ticker, and
what has happened. -/
structure Counter where
  previousTick : UInt32
  elapsedMicroseconds : UInt64
  initialized : Bool
  attached : Bool
  history : List Event

def Counter.record (counter : Counter) (event : Event) : Counter :=
  { counter with history := counter.history ++ [event] }

/-- The local variables, and when the call sampled. -/
structure Frame where
  currentTick : UInt32
  sampledAt : Option Nat
  result : UInt64

abbrev Program := Code Frame Counter

def sampleTickCounter (next : Program) : Program :=
  .enter <|
  .act (fun time frame counter =>
    ({ frame with currentTick := usTickerRead time, sampledAt := some time }, counter.record (.sampled time))) <|
  .act (fun _ frame counter =>
    (frame, { counter with
      elapsedMicroseconds := counter.elapsedMicroseconds + (frame.currentTick - counter.previousTick).toUInt64 })) <|
  .act (fun _ frame counter => (frame, { counter with previousTick := frame.currentTick })) <|
  .exit next

def systemTickCounterInit : Program :=
  .enter <|
  .test (fun counter => !counter.initialized)
    (.act (fun time frame counter =>
      (frame, { counter.record (.started time) with previousTick := usTickerRead time })) <|
    .act (fun _ frame counter => (frame, { counter with elapsedMicroseconds := 0 })) <|
    .act (fun _ frame counter => (frame, { counter with initialized := true })) <|
    .act (fun _ frame counter => (frame, { counter with attached := true })) <|
    .exit .done)
    (.exit .done)

/-- The result is recorded where it is computed. -/
def takeResult : Program :=
  .act (fun _ frame counter =>
    ({ frame with result := counter.elapsedMicroseconds / 1000 },
      counter.record (.read frame.sampledAt (counter.elapsedMicroseconds / 1000)))) <|
  .exit .done

def systemTickCounterRead : Program :=
  .enter <|
  .test (fun counter => counter.initialized) (sampleTickCounter takeResult) takeResult

/-! ## Interleavings -/

def Frame.empty : Frame where
  currentTick := 0
  sampledAt := none
  result := 0

/-- The interrupt runs the sampler once it is attached; threads call the two
functions. -/
def calls {Thread : Type} (agent : Option Thread) (counter : Counter) (call : Program × Frame) : Prop :=
  match agent with
  | none => counter.attached = true ∧ call = (sampleTickCounter .done, Frame.empty)
  | some _ => call = (systemTickCounterInit, Frame.empty) ∨ call = (systemTickCounterRead, Frame.empty)

/-- The system when it is switched on. -/
def booted {Thread : Type} (time : Nat) : System (Option Thread) Frame Counter where
  time
  shared :=
    { previousTick := 0, elapsedMicroseconds := 0, initialized := false, attached := false, history := [] }
  threads _ := none
  depth := 0
  holder := none

/-! ## What the results should be -/

def Event.tick? : Event -> Option Nat
  | .started time => some time
  | .sampled time => some time
  | .read _ _ => none

/-- The times at which the hardware counter was read. -/
def ticks (history : List Event) : List Nat :=
  history.filterMap Event.tick?

def Event.result? : Event -> Option UInt64
  | .read _ result => some result
  | .started _ => none
  | .sampled _ => none

def results (history : List Event) : List UInt64 :=
  history.filterMap Event.result?

/-- Consecutive readings are less than one wrap apart, and time has 64 bits. -/
def Regular (history : List Event) : Prop :=
  (ticks history).IsChain (fun earlier later => later - earlier < 2 ^ 32) ∧
    forall tick, tick ∈ ticks history -> tick < 2 ^ 64

/-- The counter is started once, sampled afterwards in the order of time, and a
call returns the whole milliseconds between the start and its own sample, or
0 when the counter has not been started. -/
def Exact (before : List Event) : Event -> Prop
  | .started _ => ticks before = []
  | .sampled time => ticks before ≠ [] ∧ forall tick, tick ∈ ticks before -> tick ≤ time
  | .read sampledAt result =>
      (ticks before = [] -> sampledAt = none ∧ result = 0) ∧
      forall origin, (ticks before).head? = some origin -> exists time, sampledAt = some time ∧
        (ticks before).getLast? = some time ∧ result.toNat = (time - origin) / 1000

/-! ## One call -/

section Ticks

variable {history : List Event} {event : Event} {time : Nat}

theorem ticks_record (isTick : event.tick? = some time) : ticks (history ++ [event]) = ticks history ++ [time] :=
  filterMap_concat_some isTick

theorem ticks_read {sampledAt : Option Nat} {result : UInt64} :
    ticks (history ++ [.read sampledAt result]) = ticks history := by
  simp only [ticks, List.filterMap_append, List.filterMap_cons, Event.tick?, List.filterMap_nil, List.append_nil]

theorem Regular.earlier (regular : Regular (history ++ [event])) : Regular history := by
  have split : ticks (history ++ [event]) = ticks history ++ ticks [event] := List.filterMap_append
  rw [Regular, split] at regular
  exact ⟨regular.1.left_of_append, fun tick member => regular.2 tick (List.mem_append_left _ member)⟩

/-- A reading and the one before it. -/
theorem Regular.apart (regular : Regular (history ++ [event])) (isTick : event.tick? = some time) {latest : Nat}
    (last : (ticks history).getLast? = some latest) : time - latest < 2 ^ 32 ∧ time < 2 ^ 64 := by
  rw [Regular, ticks_record isTick] at regular
  refine ⟨?_, regular.2 time (List.mem_append_right _ (List.mem_singleton_self time))⟩
  exact (List.isChain_append.mp regular.1).2.2 latest last time rfl

end Ticks

/-- The sum of the differences is the time between the first and the last reading. -/
structure Balanced (time : Nat) (counter : Counter) : Prop where
  exact : Always Exact counter.history
  past : forall tick, tick ∈ ticks counter.history -> tick ≤ time
  idle : counter.initialized = false -> counter.elapsedMicroseconds = 0 ∧ ticks counter.history = []
  running : counter.initialized = true -> exists origin latest, (ticks counter.history).head? = some origin ∧
    (ticks counter.history).getLast? = some latest ∧ origin ≤ latest ∧
    counter.previousTick = usTickerRead latest ∧ counter.elapsedMicroseconds.toNat = latest - origin

/-- What holds while nobody is inside the critical section. -/
def Invariant (time : Nat) (counter : Counter) : Prop :=
  (counter.attached = true -> counter.initialized = true) ∧ (Regular counter.history -> Balanced time counter)

def Truthful (history : List Event) : Prop :=
  Regular history -> Always Exact history

/-- The counter stays initialized, and its history stays exact. -/
def Rely (counter current : Counter) : Prop :=
  (counter.initialized = true -> current.initialized = true) ∧
    (Truthful counter.history -> Truthful current.history)

theorem Balanced.later {time later : Nat} {counter : Counter} (balanced : Balanced time counter)
    (passed : time ≤ later) : Balanced later counter :=
  { balanced with past := fun tick member => (balanced.past tick member).trans passed }

theorem discipline : Discipline Invariant Rely where
  mono passed holds := ⟨holds.1, fun regular => (holds.2 regular).later passed⟩
  refl _ := ⟨fun on => on, fun truthful => truthful⟩
  trans one two := ⟨fun on => two.1 (one.1 on), fun truthful => two.2 (one.2 truthful)⟩

/-- A change that records nothing. -/
theorem rely_silent {counter current : Counter} (on : counter.initialized = true -> current.initialized = true)
    (same : current.history = counter.history) : Rely counter current :=
  ⟨on, fun truthful => same ▸ truthful⟩

/-- A change that records an event. -/
theorem rely_record {counter current : Counter} {event : Event}
    (on : counter.initialized = true -> current.initialized = true)
    (recorded : current.history = counter.history ++ [event])
    (exact : Regular (counter.history ++ [event]) -> Exact counter.history event) : Rely counter current := by
  refine ⟨on, fun truthful => ?_⟩
  rw [recorded]
  exact fun regular => always_concat.mpr ⟨truthful regular.earlier, exact regular⟩

section Sampling

variable {time later : Nat} {counter : Counter}

/-- The readings of two moments that are less than one wrap apart. -/
theorem usTickerRead_sub {latest : Nat} (order : latest ≤ time) (apart : time - latest < 2 ^ 32) :
    (usTickerRead time - usTickerRead latest).toNat = time - latest := by
  rw [UInt32.toNat_sub, usTickerRead, usTickerRead, UInt32.toNat_ofNat', UInt32.toNat_ofNat']
  omega

theorem Balanced.sampled_exact (balanced : Balanced time counter) (on : counter.initialized = true)
    (passed : time ≤ later) : Exact counter.history (.sampled later) := by
  rcases balanced.running on with ⟨origin, latest, first, _⟩
  refine ⟨fun empty => ?_, fun tick member => (balanced.past tick member).trans passed⟩
  rw [empty] at first
  cases first

/-- A sample brings the counter up to date. -/
theorem Balanced.sample (balanced : Balanced time counter) (on : counter.initialized = true) (passed : time ≤ later)
    (regular : Regular (counter.history ++ [.sampled later])) :
    Balanced later { counter with
      previousTick := usTickerRead later
      elapsedMicroseconds :=
        counter.elapsedMicroseconds + (usTickerRead later - counter.previousTick).toUInt64
      history := counter.history ++ [.sampled later] } := by
  have exact := balanced.sampled_exact on passed
  have appended : ticks (counter.history ++ [.sampled later]) = ticks counter.history ++ [later] := ticks_record rfl
  refine ⟨always_concat.mpr ⟨balanced.exact, exact⟩, fun tick member => ?_, fun off => ?_, fun _ => ?_⟩
  · rw [appended, List.mem_append, List.mem_singleton] at member
    rcases member with earlier | same
    · exact exact.2 tick earlier
    · exact Nat.le_of_eq same
  · rw [on] at off
    cases off
  · rcases balanced.running on with ⟨origin, latest, first, last, order, previous, elapsed⟩
    have apart := regular.apart rfl last
    have recent := exact.2 latest (List.mem_of_getLast? last)
    refine ⟨origin, later, ?_, ?_, order.trans recent, rfl, ?_⟩
    · rw [appended, List.head?_append, first]
      rfl
    · rw [appended, List.getLast?_concat]
    · rw [UInt64.toNat_add, elapsed, UInt32.toNat_toUInt64, previous, usTickerRead_sub recent apart.1]
      omega

/-- What a call returns that has sampled the running counter, or found that it
is not running. -/
theorem Balanced.read_exact (balanced : Balanced time counter) {sampledAt : Option Nat}
    (sample : counter.initialized = true -> sampledAt = (ticks counter.history).getLast?)
    (none : counter.initialized = false -> sampledAt = none) :
    Exact counter.history (.read sampledAt (counter.elapsedMicroseconds / 1000)) := by
  cases on : counter.initialized with
  | false =>
      rcases balanced.idle on with ⟨zero, empty⟩
      refine ⟨fun _ => ⟨none on, ?_⟩, fun origin first => ?_⟩
      · rw [zero]
        rfl
      · rw [empty] at first
        cases first
  | true =>
      rcases balanced.running on with ⟨origin, latest, first, last, _, _, elapsed⟩
      refine ⟨fun empty => ?_, fun other same => ⟨latest, (sample on).trans last, last, ?_⟩⟩
      · rw [empty] at first
        cases first
      · cases first.symm.trans same
        rw [UInt64.toNat_div, elapsed]
        rfl

theorem Balanced.read (balanced : Balanced time counter) {sampledAt : Option Nat} {result : UInt64}
    (exact : Exact counter.history (.read sampledAt result)) :
    Balanced time (counter.record (.read sampledAt result)) := by
  refine ⟨always_concat.mpr ⟨balanced.exact, exact⟩, ?_, ?_, ?_⟩
  · rw [Counter.record, ticks_read]
    exact balanced.past
  · rw [Counter.record, ticks_read]
    exact balanced.idle
  · rw [Counter.record, ticks_read]
    exact balanced.running

/-- The reading that starts the counter. -/
theorem Balanced.start (balanced : Balanced time counter) (off : counter.initialized = false) (later : Nat) :
    Balanced later { counter with
      previousTick := usTickerRead later
      elapsedMicroseconds := 0
      initialized := true
      attached := true
      history := counter.history ++ [.started later] } := by
  have empty := (balanced.idle off).2
  have appended : ticks (counter.history ++ [.started later]) = [later] := by
    rw [ticks_record rfl, empty]
    rfl
  refine ⟨always_concat.mpr ⟨balanced.exact, empty⟩, fun tick member => ?_, fun impossible => (nomatch impossible),
    fun _ => ⟨later, later, ?_, ?_, Nat.le_refl _, rfl, ?_⟩⟩
  · rw [appended, List.mem_singleton] at member
    exact Nat.le_of_eq member
  · rw [appended]
    rfl
  · rw [appended]
    rfl
  · rw [Nat.sub_self]
    rfl

end Sampling

section Programs

variable {time : Nat} {frame : Frame} {counter : Counter}

/-- A sample inside the section, at any depth. -/
theorem sampleTickCounter_safe {next body : Program} {depth : Nat} (entered : sampleTickCounter next = .enter body)
    (holds : Invariant time counter) (on : counter.initialized = true)
    (resume : forall later frame counter, Invariant later counter -> counter.initialized = true ->
      frame.sampledAt = (ticks counter.history).getLast? ->
      Safe Invariant Rely (.exit next) (depth + 1) later frame counter) :
    Safe Invariant Rely body (depth + 1) time frame counter := by
  cases entered
  intro sampled reached
  refine ⟨rely_record (fun on => on) rfl fun regular => (holds.2 regular.earlier).sampled_exact on reached, ?_⟩
  intro added passed
  refine ⟨rely_silent (fun on => on) rfl, fun stored waited => ⟨rely_silent (fun on => on) rfl, ?_⟩⟩
  refine resume stored _ _ ⟨fun _ => on, fun regular => ?_⟩ on ?_
  · exact ((holds.2 regular.earlier).sample on reached regular).later (passed.trans waited)
  · change some sampled = (ticks (counter.history ++ [.sampled sampled])).getLast?
    rw [ticks_record rfl, List.getLast?_concat]

theorem takeResult_safe (holds : Invariant time counter)
    (sample : counter.initialized = true -> frame.sampledAt = (ticks counter.history).getLast?)
    (none : counter.initialized = false -> frame.sampledAt = none) :
    Safe Invariant Rely takeResult 1 time frame counter := by
  intro taken passed
  refine ⟨rely_record (fun on => on) rfl fun regular => (holds.2 regular.earlier).read_exact sample none, ?_⟩
  intro left waited
  refine ⟨⟨holds.1, fun regular => ?_⟩, rfl⟩
  have balanced := holds.2 regular.earlier
  exact (balanced.read (balanced.read_exact sample none)).later (passed.trans waited)

theorem systemTickCounterRead_safe :
    Safe Invariant Rely systemTickCounterRead 0 time Frame.empty counter := by
  intro entered current _ _ holds tested passed
  have here := discipline.mono passed holds
  refine ⟨fun on again waited => ?_, fun off => ?_⟩
  · refine sampleTickCounter_safe rfl (discipline.mono waited here) on fun later frame counter holds on sampled => ?_
    intro left waited
    refine takeResult_safe (discipline.mono waited holds) (fun _ => sampled) fun off => ?_
    rw [on] at off
    cases off
  · have stopped : current.initialized = false := off
    refine takeResult_safe here (fun on => ?_) fun _ => rfl
    rw [stopped] at on
    cases on

theorem systemTickCounterInit_safe :
    Safe Invariant Rely systemTickCounterInit 0 time Frame.empty counter := by
  intro entered current _ _ holds tested passed
  have here := discipline.mono passed holds
  refine ⟨fun off started waited => ?_, fun _ left waited => ⟨discipline.mono waited here, rfl⟩⟩
  have stopped : current.initialized = false := Bool.not_eq_true' _ ▸ off
  refine ⟨rely_record (fun on => on) rfl fun regular => ((here.2 regular.earlier).idle stopped).2, ?_⟩
  intro cleared afterClear
  refine ⟨rely_silent (fun on => on) rfl, fun marked afterMark => ⟨rely_silent (fun _ => rfl) rfl, ?_⟩⟩
  intro attached afterAttach
  refine ⟨rely_silent (fun _ => rfl) rfl, fun left afterLeave => ⟨⟨fun _ => rfl, fun regular => ?_⟩, rfl⟩⟩
  have balanced := (here.2 regular.earlier).start stopped started
  exact balanced.later (afterClear.trans (afterMark.trans (afterAttach.trans afterLeave)))

/-- Every call keeps its obligation. -/
theorem calls_safe {Thread : Type} {agent : Option Thread} {call : Program × Frame} (holds : Invariant time counter)
    (made : calls agent counter call) : Safe Invariant Rely call.1 0 time call.2 counter := by
  cases agent with
  | none =>
      rcases made with ⟨attached, rfl⟩
      intro entered current _ relied here
      refine sampleTickCounter_safe rfl here (relied.1 (holds.1 attached)) fun later frame counter holds _ _ => ?_
      exact fun left waited => ⟨discipline.mono waited holds, rfl⟩
  | some thread =>
      rcases made with rfl | rfl
      · exact systemTickCounterInit_safe
      · exact systemTickCounterRead_safe

end Programs

/-! ## Every interleaving -/

/-- The milliseconds between the first and the last reading. -/
def uptime (history : List Event) : Nat :=
  match (ticks history).head?, (ticks history).getLast? with
  | some origin, some latest => (latest - origin) / 1000
  | _, _ => 0

theorem uptime_le_record {history : List Event} {event : Event} (exact : Exact history event) :
    uptime history ≤ uptime (history ++ [event]) := by
  cases event with
  | started time =>
      have empty : ticks history = [] := exact
      rw [uptime, empty]
      exact Nat.zero_le _
  | sampled time =>
      have appended : ticks (history ++ [.sampled time]) = ticks history ++ [time] := ticks_record rfl
      rcases exact with ⟨nonempty, past⟩
      have first := List.head?_eq_some_head nonempty
      have last := List.getLast?_eq_some_getLast nonempty
      have order := past _ (List.mem_of_getLast? last)
      simp only [uptime, appended, List.head?_append, first, last, Option.some_or, List.getLast?_concat]
      omega
  | read sampledAt result => rw [uptime, uptime, ticks_read]

theorem result_eq_uptime {history : List Event} {sampledAt : Option Nat} {result : UInt64}
    (exact : Exact history (.read sampledAt result)) : result.toNat = uptime history := by
  unfold uptime
  cases first : (ticks history).head? with
  | none =>
      rw [(exact.1 (List.head?_eq_none_iff.mp first)).2]
      rfl
  | some origin =>
      rcases exact.2 origin first with ⟨time, _, last, same⟩
      rw [last]
      exact same

/-- Results never decrease. -/
theorem results_monotone {history : List Event} (exact : Always Exact history) :
    (results history).Pairwise (· ≤ ·) ∧ forall result, result ∈ results history -> result.toNat ≤ uptime history := by
  induction history using List.reverseRecOn with
  | nil => exact ⟨List.Pairwise.nil, fun _ impossible => (nomatch impossible)⟩
  | append_singleton earlier event inductionHypothesis =>
      rcases always_concat.mp exact with ⟨before, now⟩
      rcases inductionHypothesis before with ⟨ordered, bounded⟩
      have grown := uptime_le_record now
      have split : results (earlier ++ [event]) = results earlier ++ event.result?.toList := by
        cases event <;> simp [results, Event.result?]
      rw [split]
      cases event with
      | read sampledAt result =>
          have same := result_eq_uptime now
          refine ⟨List.pairwise_append.mpr ⟨ordered, List.pairwise_singleton _ _, ?_⟩, fun other member => ?_⟩
          · intro other member last here
            rw [List.mem_singleton.mp here, UInt64.le_iff_toNat_le, same]
            exact bounded other member
          · rcases List.mem_append.mp member with old | here
            · exact (bounded other old).trans grown
            · rw [List.mem_singleton.mp here, same]
              exact grown
      | started time =>
          rw [Event.result?, Option.toList_none, List.append_nil]
          exact ⟨ordered, fun other member => (bounded other member).trans grown⟩
      | sampled time =>
          rw [Event.result?, Option.toList_none, List.append_nil]
          exact ⟨ordered, fun other member => (bounded other member).trans grown⟩

/-- In every interleaving, every call returns the exact uptime at its sample. -/
theorem systemTickCounter_exact {Thread : Type} [DecidableEq Thread] (time : Nat)
    (final : System (Option Thread) Frame Counter) (reachable : Reachable calls (booted time) final)
    (regular : Regular final.shared.history) :
    Always Exact final.shared.history ∧ (results final.shared.history).Pairwise (· ≤ ·) := by
  have initially : Invariant time (booted time : System (Option Thread) Frame Counter).shared := by
    refine ⟨fun impossible => (nomatch impossible), fun _ => ⟨always_nil _, fun _ impossible => (nomatch impossible),
      fun _ => ⟨rfl, rfl⟩, fun impossible => (nomatch impossible)⟩⟩
  have relied := (reachable.sound discipline calls_safe (fun _ => rfl) rfl initially).2
  have exact := relied.2 (fun _ => always_nil _) regular
  exact ⟨exact, (results_monotone exact).1⟩

/-! ## Schedules -/

/-- A choice of what happens next. -/
inductive Move (Thread : Type) where
  | wait (microseconds : Nat)
  | interrupt
  | init (thread : Thread)
  | read (thread : Thread)
  | proceed (agent : Option Thread)

section Schedules

variable {Thread : Type} [DecidableEq Thread]

/-- Start a call, if the agent is idle and may run. -/
def start (system : System (Option Thread) Frame Counter) (agent : Option Thread) (program : Program) :
    System (Option Thread) Frame Counter :=
  if (system.threads agent).isNone = true ∧ system.depth = 0 then system.become agent (some (program, Frame.empty))
  else system

/-- Follow a choice, where it is possible. -/
def perform (system : System (Option Thread) Frame Counter) : Move Thread -> System (Option Thread) Frame Counter
  | .wait microseconds => { system with time := system.time + microseconds }
  | .interrupt => if system.shared.attached = true then start system none (sampleTickCounter .done) else system
  | .init thread => start system (some thread) systemTickCounterInit
  | .read thread => start system (some thread) systemTickCounterRead
  | .proceed agent =>
      match system.threads agent with
      | some thread => if system.depth = 0 ∨ system.holder = some agent then system.proceed agent thread else system
      | none => system

theorem reachable_start {system : System (Option Thread) Frame Counter} {agent : Option Thread} {program : Program}
    (allowed : calls agent system.shared (program, Frame.empty)) :
    Reachable calls system (start system agent program) := by
  by_cases free : (system.threads agent).isNone = true ∧ system.depth = 0
  · rw [start, if_pos free]
    exact Relation.ReflTransGen.single (Step.call (Option.isNone_iff_eq_none.mp free.1) (Or.inl free.2) allowed)
  · rw [start, if_neg free]
    exact Relation.ReflTransGen.refl

theorem reachable_perform (system : System (Option Thread) Frame Counter) (move : Move Thread) :
    Reachable calls system (perform system move) := by
  cases move with
  | wait microseconds => exact Relation.ReflTransGen.single (Step.advance (Nat.le_add_right _ _))
  | interrupt =>
      by_cases attached : system.shared.attached = true
      · have allowed : calls (none : Option Thread) system.shared (sampleTickCounter .done, Frame.empty) := ⟨attached, rfl⟩
        rw [perform, if_pos attached]
        exact reachable_start allowed
      · rw [perform, if_neg attached]
        exact Relation.ReflTransGen.refl
  | init thread => exact reachable_start (Or.inl rfl)
  | read thread => exact reachable_start (Or.inr rfl)
  | proceed agent =>
      rw [perform]
      cases running : system.threads agent with
      | none => exact Relation.ReflTransGen.refl
      | some thread =>
          dsimp only
          by_cases free : system.depth = 0 ∨ system.holder = some agent
          · rw [if_pos free]
            exact Relation.ReflTransGen.single (Step.proceed running free)
          · rw [if_neg free]
            exact Relation.ReflTransGen.refl

/-- Every schedule is an interleaving. -/
theorem reachable_schedule (moves : List (Move Thread)) (system : System (Option Thread) Frame Counter) :
    Reachable calls system (moves.foldl perform system) := by
  induction moves generalizing system with
  | nil => exact Relation.ReflTransGen.refl
  | cons move moves inductionHypothesis => exact (reachable_perform system move).trans (inductionHypothesis _)

end Schedules

/-- Two threads and the interrupt around a wrap of the hardware counter: the
second thread and the interrupt are held up while the first one is inside. -/
def crossingWrap : List (Move Bool) :=
  [.read true] ++ List.replicate 5 (.proceed (some true)) ++ [.init true] ++ List.replicate 8 (.proceed (some true)) ++
  [.read true, .read false, .interrupt, .proceed (some true), .wait 5000, .proceed (some false), .proceed none] ++
  List.replicate 9 (.proceed (some true)) ++ List.replicate 6 (.proceed none) ++ [.wait 1500] ++
  List.replicate 10 (.proceed (some false))

theorem systemTickCounter_exact_crossingWrap :
    results (crossingWrap.foldl perform (booted 4294966296)).shared.history = [0, 5, 6] ∧
    Always Exact (crossingWrap.foldl perform (booted 4294966296)).shared.history := by
  have history : (crossingWrap.foldl perform (booted 4294966296)).shared.history =
      [.read none 0, .started 4294966296, .sampled 4294971296, .read (some 4294971296) 5, .sampled 4294971296,
        .sampled 4294972796, .read (some 4294972796) 6] := by
    rfl
  refine ⟨?_, (systemTickCounter_exact _ _ (reachable_schedule crossingWrap _) ?_).1⟩
  · rw [history]
    rfl
  · rw [history]
    exact ⟨by decide, by decide⟩

/-! ## millis -/

def millis (time : Nat) : UInt32 :=
  usTickerRead time / 1000

/-- The difference of two answers of `millis` is right up to one millisecond. -/
def IntervalKept (first second : Nat) : Prop :=
  ((millis second - millis first).toNat * 1000 : Int) - ((second : Int) - first) ≤ 1000 ∧
    ((second : Int) - first) - (millis second - millis first).toNat * 1000 ≤ 1000

theorem toNat_millis (time : Nat) : (millis time).toNat = time % 2 ^ 32 / 1000 := by
  rw [millis, usTickerRead, UInt32.toNat_div, UInt32.toNat_ofNat']
  rfl

theorem toNat_millis_sub (first second : Nat) : (millis second - millis first).toNat =
    (2 ^ 32 - first % 2 ^ 32 / 1000 + second % 2 ^ 32 / 1000) % 2 ^ 32 := by
  rw [UInt32.toNat_sub, toNat_millis, toNat_millis]

/-- Intervals shorter than 2^31 milliseconds are measured right exactly when
the 32 bits of the hardware counter do not wrap in between. -/
theorem millis_interval_iff (first second : Nat) (order : first ≤ second)
    (short : second - first < 2 ^ 31 * 1000) :
    IntervalKept first second <-> first / 2 ^ 32 = second / 2 ^ 32 := by
  have firstSplit := Nat.div_add_mod first (2 ^ 32)
  have secondSplit := Nat.div_add_mod second (2 ^ 32)
  have firstLow := Nat.mod_lt first (Nat.two_pow_pos 32)
  have secondLow := Nat.mod_lt second (Nat.two_pow_pos 32)
  have wraps : first / 2 ^ 32 ≤ second / 2 ^ 32 := Nat.div_le_div_right order
  unfold IntervalKept
  rw [toNat_millis_sub]
  -- With k wraps in between, the difference is off by k * 2^32 microseconds, and k is at most 500.
  generalize first / 2 ^ 32 = high at *
  generalize second / 2 ^ 32 = high' at *
  generalize first % 2 ^ 32 = low at *
  generalize second % 2 ^ 32 = low' at *
  constructor
  · rintro ⟨above, below⟩
    by_contra different
    rcases Nat.lt_or_ge (low' / 1000) (low / 1000) with smaller | larger
    · have wrapped : (2 ^ 32 - low / 1000 + low' / 1000) % 2 ^ 32 = 2 ^ 32 - low / 1000 + low' / 1000 :=
        Nat.mod_eq_of_lt (by omega)
      rw [wrapped] at above
      omega
    · have plain : (2 ^ 32 - low / 1000 + low' / 1000) % 2 ^ 32 = low' / 1000 - low / 1000 := by omega
      rw [plain] at below
      omega
  · intro same
    have plain : (2 ^ 32 - low / 1000 + low' / 1000) % 2 ^ 32 = low' / 1000 - low / 1000 := by omega
    rw [plain]
    omega

theorem millis_interval_oneSecond : IntervalKept 5000000 6000000 :=
  (millis_interval_iff 5000000 6000000 (by decide) (by decide)).mpr (by decide)

/-- One microsecond across the wrap. -/
theorem millis_interval_wrap_lost : ¬ IntervalKept (2 ^ 32 - 1) (2 ^ 32) := by
  unfold IntervalKept
  rw [toNat_millis_sub]
  decide

end Timing
end DevKit
