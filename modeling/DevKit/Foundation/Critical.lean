import Mathlib.Logic.Function.Basic
import Mathlib.Logic.Relation

namespace DevKit
namespace Critical

/-!
# Threads with a nested critical section

Threads and interrupt handlers share a state.  Between any two statements
another of them may run and time may pass, except that nobody else runs while
one of them is inside the critical section.  The section is counted: leaving
an inner one does not leave the outer one.

`Safe` is the proof obligation of a single thread: everything that it does to
the shared state happens inside the section, where it may assume the invariant
when it enters and has to restore it when it leaves.  `Reachable.sound`
says that this is enough for every interleaving.
-/

/-- What a thread still has to do.  An action sees the time at which it takes
place. -/
inductive Code (Local Shared : Type) where
  | done
  | enter (next : Code Local Shared)
  | exit (next : Code Local Shared)
  | act (effect : Nat -> Local -> Shared -> Local × Shared) (next : Code Local Shared)
  | test (condition : Shared -> Bool) (yes no : Code Local Shared)

/-- All threads with what they share. -/
structure System (Agent Local Shared : Type) where
  time : Nat
  shared : Shared
  threads : Agent -> Option (Code Local Shared × Local)
  depth : Nat
  holder : Option Agent

variable {Agent Local Shared : Type}

namespace System

/-- A thread may run while nobody else is inside the section. -/
def Free (system : System Agent Local Shared) (agent : Agent) : Prop :=
  system.depth = 0 ∨ system.holder = some agent

section Statements

variable [DecidableEq Agent]

def become (system : System Agent Local Shared) (agent : Agent) (thread : Option (Code Local Shared × Local)) :
    System Agent Local Shared :=
  { system with threads := Function.update system.threads agent thread }

/-- A thread executes its next statement. -/
def proceed (system : System Agent Local Shared) (agent : Agent) :
    Code Local Shared × Local -> System Agent Local Shared
  | (.done, _) => system.become agent none
  | (.enter next, frame) =>
      { system.become agent (some (next, frame)) with depth := system.depth + 1, holder := some agent }
  | (.exit next, frame) => { system.become agent (some (next, frame)) with depth := system.depth - 1 }
  | (.act effect next, frame) =>
      let after := effect system.time frame system.shared
      { system.become agent (some (next, after.1)) with shared := after.2 }
  | (.test condition yes no, frame) =>
      system.become agent (some (if condition system.shared = true then yes else no, frame))

end Statements
end System

/-- Time passes, an idle agent makes a call, or a thread executes a statement. -/
inductive Step [DecidableEq Agent] (calls : Agent -> Shared -> Code Local Shared × Local -> Prop) :
    System Agent Local Shared -> System Agent Local Shared -> Prop where
  | advance {system : System Agent Local Shared} {later : Nat} (after : system.time ≤ later) :
      Step calls system { system with time := later }
  | call {system : System Agent Local Shared} {agent : Agent} {thread : Code Local Shared × Local}
      (idle : system.threads agent = none) (free : system.Free agent) (made : calls agent system.shared thread) :
      Step calls system (system.become agent (some thread))
  | proceed {system : System Agent Local Shared} {agent : Agent} {thread : Code Local Shared × Local}
      (running : system.threads agent = some thread) (free : system.Free agent) :
      Step calls system (system.proceed agent thread)

/-- Everything that an interleaving can lead to. -/
def Reachable [DecidableEq Agent] (calls : Agent -> Shared -> Code Local Shared × Local -> Prop) :
    System Agent Local Shared -> System Agent Local Shared -> Prop :=
  Relation.ReflTransGen (Step calls)

/-! ## One thread -/

/-- What a thread has to do for the invariant, at a nesting depth.  Outside the
section it relies on others changing the shared state in agreement with
`rely` only. -/
def Safe (invariant : Nat -> Shared -> Prop) (rely : Shared -> Shared -> Prop) :
    Code Local Shared -> Nat -> Nat -> Local -> Shared -> Prop
  | .done, depth, _, _, _ => depth = 0
  | .enter next, 0, time, frame, shared =>
      forall later current, time ≤ later -> rely shared current -> invariant later current ->
        Safe invariant rely next 1 later frame current
  | .enter next, depth + 1, time, frame, shared =>
      forall later, time ≤ later -> Safe invariant rely next (depth + 2) later frame shared
  | .exit _, 0, _, _, _ => False
  | .exit next, 1, time, frame, shared =>
      forall later, time ≤ later -> invariant later shared ∧ Safe invariant rely next 0 later frame shared
  | .exit next, depth + 2, time, frame, shared =>
      forall later, time ≤ later -> Safe invariant rely next (depth + 1) later frame shared
  | .act _ _, 0, _, _, _ => False
  | .act effect next, depth + 1, time, frame, shared =>
      forall later, time ≤ later -> rely shared (effect later frame shared).2 ∧
        Safe invariant rely next (depth + 1) later (effect later frame shared).1 (effect later frame shared).2
  | .test _ _ _, 0, _, _, _ => False
  | .test condition yes no, depth + 1, time, frame, shared =>
      forall later, time ≤ later ->
        (condition shared = true -> Safe invariant rely yes (depth + 1) later frame shared) ∧
        (condition shared = false -> Safe invariant rely no (depth + 1) later frame shared)

/-- Time does not break the invariant, and changes that can be relied on add up. -/
structure Discipline (invariant : Nat -> Shared -> Prop) (rely : Shared -> Shared -> Prop) : Prop where
  mono : forall {time later shared}, time ≤ later -> invariant time shared -> invariant later shared
  refl : forall shared, rely shared shared
  trans : forall {one two three}, rely one two -> rely two three -> rely one three

section Safe

variable {invariant : Nat -> Shared -> Prop} {rely : Shared -> Shared -> Prop} {code : Code Local Shared}
  {time later : Nat} {frame : Local} {shared current : Shared}

/-- Time may pass inside the section. -/
theorem Safe.wait {depth : Nat} (safe : Safe invariant rely code (depth + 1) time frame shared)
    (after : time ≤ later) : Safe invariant rely code (depth + 1) later frame shared := by
  cases code with
  | done => exact safe
  | enter next => exact fun moment passed => safe moment (Nat.le_trans after passed)
  | «exit» next =>
      cases depth with
      | zero => exact fun moment passed => safe moment (Nat.le_trans after passed)
      | succ depth => exact fun moment passed => safe moment (Nat.le_trans after passed)
  | act effect next => exact fun moment passed => safe moment (Nat.le_trans after passed)
  | test condition yes no => exact fun moment passed => safe moment (Nat.le_trans after passed)

/-- Outside the section, others may run. -/
theorem Safe.outside (discipline : Discipline invariant rely)
    (safe : Safe invariant rely code 0 time frame shared) (after : time ≤ later) (changed : rely shared current) :
    Safe invariant rely code 0 later frame current := by
  cases code with
  | done => exact safe
  | enter next =>
      exact fun moment state passed relied =>
        safe moment state (Nat.le_trans after passed) (discipline.trans changed relied)
  | «exit» next => exact safe.elim
  | act effect next => exact safe.elim
  | test condition yes no => exact safe.elim

end Safe

/-! ## All threads -/

/-- The invariant and the obligations of all threads. -/
structure Sound (invariant : Nat -> Shared -> Prop) (rely : Shared -> Shared -> Prop)
    (system : System Agent Local Shared) : Prop where
  outside : forall agent thread, system.threads agent = some thread ->
    (0 < system.depth -> system.holder ≠ some agent) ->
    Safe invariant rely thread.1 0 system.time thread.2 system.shared
  free : system.depth = 0 -> invariant system.time system.shared
  inside : 0 < system.depth -> exists agent thread, system.holder = some agent ∧
    system.threads agent = some thread ∧ Safe invariant rely thread.1 system.depth system.time thread.2 system.shared

section Rules

variable {invariant : Nat -> Shared -> Prop} {rely : Shared -> Shared -> Prop} (discipline : Discipline invariant rely)
  {system : System Agent Local Shared} {agent other : Agent} {thread : Code Local Shared × Local}

include discipline in
theorem Sound.advance (sound : Sound invariant rely system) {later : Nat} (passed : system.time ≤ later) :
    Sound invariant rely { system with time := later } := by
  refine ⟨fun agent thread running away => ?_, fun idle => discipline.mono passed (sound.free idle), fun busy => ?_⟩
  · exact (sound.outside agent thread running away).outside discipline passed (discipline.refl _)
  · rcases sound.inside busy with ⟨agent, thread, held, running, safe⟩
    refine ⟨agent, thread, held, running, ?_⟩
    obtain ⟨depth, known⟩ := Nat.exists_eq_succ_of_ne_zero (Nat.ne_of_gt busy)
    change Safe invariant rely thread.1 system.depth later thread.2 system.shared
    rw [known] at safe ⊢
    exact safe.wait passed

include discipline in
/-- The other threads see a change that they rely on. -/
theorem Sound.others (sound : Sound invariant rely system) (free : system.Free agent) {current : Shared}
    (changed : rely system.shared current) (different : other ≠ agent)
    (running : system.threads other = some thread) :
    Safe invariant rely thread.1 0 system.time thread.2 current := by
  refine (sound.outside other thread running fun busy held => ?_).outside discipline (Nat.le_refl _) changed
  rcases free with none | mine
  · omega
  · exact different (Option.some_inj.mp (held.symm.trans mine))

omit discipline in
/-- The obligation of a thread that may run. -/
theorem Sound.current (sound : Sound invariant rely system) (free : system.Free agent)
    (running : system.threads agent = some thread) :
    Safe invariant rely thread.1 system.depth system.time thread.2 system.shared := by
  rcases Nat.eq_zero_or_pos system.depth with idle | busy
  · rw [idle]
    exact sound.outside agent thread running fun busy => absurd idle (Nat.ne_of_gt busy)
  · rcases sound.inside busy with ⟨other, _, held, found, safe⟩
    cases (free.resolve_left (Nat.ne_of_gt busy)).symm.trans held
    cases running.symm.trans found
    exact safe

variable [DecidableEq Agent]

include discipline in
/-- A thread that moves to other code, at another depth, with its obligation. -/
theorem Sound.move (sound : Sound invariant rely system) (free : system.Free agent) {next : Code Local Shared}
    {frame : Local} {current : Shared} {depth : Nat} {holder : Option Agent} (changed : rely system.shared current)
    (held : 0 < depth -> holder = some agent) (idle : depth = 0 -> invariant system.time current)
    (safe : Safe invariant rely next depth system.time frame current) :
    Sound invariant rely
      { system.become agent (some (next, frame)) with shared := current, depth := depth, holder := holder } := by
  have self : (system.become agent (some (next, frame))).threads agent = some (next, frame) :=
    Function.update_self _ _ _
  refine ⟨fun other thread running away => ?_, idle, fun busy => ⟨agent, _, held busy, self, safe⟩⟩
  by_cases same : other = agent
  · subst same
    cases self.symm.trans running
    have none : depth = 0 := Nat.eq_zero_of_not_pos fun busy => away busy (held busy)
    rw [none] at safe
    exact safe
  · have unchanged : (system.become agent (some (next, frame))).threads other = system.threads other :=
      Function.update_of_ne same _ _
    exact sound.others discipline free changed same (unchanged.symm.trans running)

include discipline in
theorem Sound.proceed (sound : Sound invariant rely system) (free : system.Free agent)
    (running : system.threads agent = some thread) : Sound invariant rely (system.proceed agent thread) := by
  rcases thread with ⟨code, frame⟩
  have now := Nat.le_refl system.time
  have safe := sound.current free running
  by_cases idle : system.depth = 0
  · rw [idle] at safe
    cases code with
    | done =>
        refine ⟨fun other thread running away => ?_, fun _ => sound.free idle,
          fun busy => absurd idle (Nat.ne_of_gt busy)⟩
        by_cases same : other = agent
        · subst same
          cases (Function.update_self _ _ _).symm.trans running
        · exact sound.others discipline free (discipline.refl _) same
            ((Function.update_of_ne same _ _).symm.trans running)
    | enter next =>
        refine sound.move discipline free (discipline.refl _) (fun _ => rfl)
          (fun impossible => absurd impossible (Nat.succ_ne_zero _)) ?_
        rw [idle]
        exact safe system.time system.shared now (discipline.refl _) (sound.free idle)
    | «exit» next => exact safe.elim
    | act effect next => exact safe.elim
    | test condition yes no => exact safe.elim
  · obtain ⟨depth, known⟩ := Nat.exists_eq_succ_of_ne_zero idle
    have mine : system.holder = some agent := free.resolve_left idle
    rw [known] at safe
    cases code with
    | done => exact absurd safe (Nat.succ_ne_zero _)
    | enter next =>
        refine sound.move discipline free (discipline.refl _) (fun _ => rfl)
          (fun impossible => absurd impossible (Nat.succ_ne_zero _)) ?_
        rw [known]
        exact safe system.time now
    | «exit» next =>
        have moved : Sound invariant rely
            { system.become agent (some (next, frame)) with shared := system.shared, depth := depth
                                                            holder := system.holder } := by
          cases depth with
          | zero =>
              refine sound.move discipline free (discipline.refl _)
                (fun impossible => absurd impossible (Nat.lt_irrefl 0)) ?_ ?_
              · exact fun _ => (safe system.time now).1
              · exact (safe system.time now).2
          | succ depth =>
              exact sound.move discipline free (discipline.refl _) (fun _ => mine)
                (fun impossible => absurd impossible (Nat.succ_ne_zero _)) (safe system.time now)
        change Sound invariant rely { system.become agent (some (next, frame)) with depth := system.depth - 1 }
        rw [known]
        exact moved
    | act effect next =>
        refine sound.move discipline free (safe system.time now).1 (fun _ => mine)
          (fun impossible => absurd impossible idle) ?_
        change Safe invariant rely next system.depth _ _ _
        rw [known]
        exact (safe system.time now).2
    | test condition yes no =>
        refine sound.move discipline free (discipline.refl _) (fun _ => mine)
          (fun impossible => absurd impossible idle) ?_
        rw [known]
        by_cases holds : condition system.shared = true
        · rw [if_pos holds]
          exact (safe system.time now).1 holds
        · rw [if_neg holds]
          exact (safe system.time now).2 (Bool.not_eq_true _ ▸ holds)

variable {calls : Agent -> Shared -> Code Local Shared × Local -> Prop}
  (started : forall {agent time shared thread}, invariant time shared -> calls agent shared thread ->
    Safe invariant rely thread.1 0 time thread.2 shared)

include discipline started in
theorem Sound.step {after : System Agent Local Shared} (sound : Sound invariant rely system)
    (step : Step calls system after) : Sound invariant rely after := by
  cases step with
  | advance passed => exact sound.advance discipline passed
  | proceed running free => exact sound.proceed discipline free running
  | @call agent thread idle free made =>
      have outside : system.depth = 0 := by
        rcases Nat.eq_zero_or_pos system.depth with none | busy
        · exact none
        · have held := free.resolve_left (Nat.ne_of_gt busy)
          rcases sound.inside busy with ⟨other, thread, holding, running, _⟩
          cases held.symm.trans holding
          rw [idle] at running
          cases running
      have known := sound.free outside
      refine sound.move discipline free (discipline.refl _) (fun busy => absurd outside (Nat.ne_of_gt busy))
        (fun _ => known) ?_
      rw [outside]
      exact started known made

include discipline in
/-- Others can rely on every step. -/
theorem Sound.relied {after : System Agent Local Shared} (sound : Sound invariant rely system)
    (step : Step calls system after) : rely system.shared after.shared := by
  cases step with
  | advance passed => exact discipline.refl _
  | call idle free made => exact discipline.refl _
  | @proceed agent thread running free =>
      have safe := sound.current free running
      rcases thread with ⟨code, frame⟩
      cases code with
      | act effect next =>
          cases known : system.depth with
          | zero =>
              rw [known] at safe
              exact safe.elim
          | succ depth =>
              rw [known] at safe
              exact (safe system.time (Nat.le_refl _)).1
      | done => exact discipline.refl _
      | enter next => exact discipline.refl _
      | «exit» next => exact discipline.refl _
      | test condition yes no => exact discipline.refl _

include discipline started in
/-- In every reachable state the threads are as they should be, and the shared
state has changed in agreement with `rely`. -/
theorem Reachable.sound {after : System Agent Local Shared} (reachable : Reachable calls system after)
    (idle : forall agent, system.threads agent = none) (outside : system.depth = 0)
    (initial : invariant system.time system.shared) :
    Sound invariant rely after ∧ rely system.shared after.shared := by
  induction reachable with
  | refl =>
      refine ⟨⟨fun agent thread running => ?_, fun _ => initial, fun busy => absurd outside (Nat.ne_of_gt busy)⟩,
        discipline.refl _⟩
      rw [idle agent] at running
      cases running
  | tail _ step inductionHypothesis =>
      exact ⟨inductionHypothesis.1.step discipline started step,
        discipline.trans inductionHypothesis.2 (inductionHypothesis.1.relied discipline step)⟩

end Rules

end Critical
end DevKit
