import DevKit.Ota.Digest

namespace DevKit
namespace Ota

/-!
# Contexts in memory

The digest functions work on contexts that their callers keep: one in the
session, copies of it, and others on the stack.  Here a program initialises,
feeds, copies and finishes contexts in any order.  A context holds a stream
from its initialisation until it is finished; what `sha256Finish` leaves in a
context and what memory held before are arbitrary.
-/

/-- `sha256Init`.  The block buffer keeps what lies in it. -/
def sha256InitIn (context : Sha256Context) : Sha256Context :=
  { sha256Init with block := context.block }

/-- A call on the contexts in memory, which are numbered. -/
inductive ContextCall where
  | init (slot : Nat)
  | update (slot : Nat) (data : Bytes)
  | copy (source target : Nat)
  | finish (slot : Nat)
deriving Repr, DecidableEq

/-- The digests that a program computes.  `leftover` is what finishing leaves
in a context. -/
def digests (leftover : Sha256Context -> Sha256Context) : (Nat -> Sha256Context) -> List ContextCall -> List Bytes
  | _, [] => []
  | memory, .init slot :: calls =>
      digests leftover (Function.update memory slot (sha256InitIn (memory slot))) calls
  | memory, .update slot data :: calls =>
      digests leftover (Function.update memory slot (sha256Update (memory slot) data)) calls
  | memory, .copy source target :: calls =>
      digests leftover (Function.update memory target (memory source)) calls
  | memory, .finish slot :: calls =>
      sha256Finish (memory slot) :: digests leftover (Function.update memory slot (leftover (memory slot))) calls

/-- The streams that a program finishes.  A context that was not initialised, or
was finished, has none. -/
def finished : (Nat -> Option Bytes) -> List ContextCall -> List (Option Bytes)
  | _, [] => []
  | streams, .init slot :: calls => finished (Function.update streams slot (some [])) calls
  | streams, .update slot data :: calls =>
      finished (Function.update streams slot ((streams slot).map (· ++ data))) calls
  | streams, .copy source target :: calls => finished (Function.update streams target (streams source)) calls
  | streams, .finish slot :: calls => streams slot :: finished (Function.update streams slot none) calls

/-- The contexts of a program and their streams. -/
def Tracks (memory : Nat -> Sha256Context) (streams : Nat -> Option Bytes) : Prop :=
  forall slot stream, streams slot = some stream -> (memory slot).Streams stream

theorem streams_sha256InitIn (context : Sha256Context) : (sha256InitIn context).Streams [] where
  pending := Prod.ext sha256Init_state rfl
  bits := rfl

/-- One context that changes leaves the others alone. -/
theorem Tracks.set {memory : Nat -> Sha256Context} {streams : Nat -> Option Bytes} (tracks : Tracks memory streams)
    {slot : Nat} {context : Sha256Context} {next : Option Bytes}
    (changed : forall stream, next = some stream -> context.Streams stream) :
    Tracks (Function.update memory slot context) (Function.update streams slot next) := by
  intro other stream known
  by_cases same : other = slot
  · subst same
    rw [Function.update_self] at known ⊢
    exact changed stream known
  · rw [Function.update_of_ne same] at known ⊢
    exact tracks other stream known

/-- Every digest of a run is the digest of the stream that was finished. -/
theorem digests_of_tracks (leftover : Sha256Context -> Sha256Context) (calls : List ContextCall)
    {memory : Nat -> Sha256Context} {streams : Nat -> Option Bytes} (tracks : Tracks memory streams) :
    List.Forall₂ (fun stream digest => forall message, stream = some message -> digest = Sha256.hash message)
      (finished streams calls) (digests leftover memory calls) := by
  induction calls generalizing memory streams with
  | nil => exact List.Forall₂.nil
  | cons call calls inductionHypothesis =>
      cases call with
      | init slot =>
          refine inductionHypothesis (tracks.set fun stream known => ?_)
          cases known
          exact streams_sha256InitIn _
      | update slot data =>
          refine inductionHypothesis (tracks.set fun stream known => ?_)
          rcases Option.map_eq_some_iff.mp known with ⟨earlier, before, rfl⟩
          exact (tracks slot earlier before).update data
      | copy source target => exact inductionHypothesis (tracks.set (tracks source))
      | finish slot =>
          refine List.Forall₂.cons (fun message known => (tracks slot message known).finish) ?_
          exact inductionHypothesis (tracks.set fun stream impossible => by cases impossible)

theorem Sha256Context.Streams.foldl_update {context : Sha256Context} {stream : Bytes} (streams : context.Streams stream)
    (chunks : List Bytes) : (chunks.foldl sha256Update context).Streams (stream ++ chunks.flatten) := by
  induction chunks generalizing context stream with
  | nil =>
      rw [List.flatten_nil, List.append_nil]
      exact streams
  | cons chunk chunks inductionHypothesis =>
      rw [List.flatten_cons, ← List.append_assoc]
      exact inductionHypothesis (streams.update chunk)

/-- The digest of a stream that is fed in chunks is SHA-256 of the whole, and so
it is for every context of a program that copies and finishes contexts: the
copy and the original go on independently. -/
theorem streaming_sha256 :
    (forall (memory : Sha256Context) (chunks : List Bytes),
      sha256Finish (chunks.foldl sha256Update (sha256InitIn memory)) = Sha256.hash chunks.flatten) ∧
    forall (leftover : Sha256Context -> Sha256Context) (memory : Nat -> Sha256Context) (calls : List ContextCall),
      List.Forall₂ (fun stream digest => forall message, stream = some message -> digest = Sha256.hash message)
        (finished (fun _ => none) calls) (digests leftover memory calls) := by
  refine ⟨fun memory chunks => ?_, fun leftover memory calls => ?_⟩
  · exact ((streams_sha256InitIn memory).foldl_update chunks).finish
  · exact digests_of_tracks leftover calls fun slot stream impossible => by cases impossible

/-- Two bytes, a copy that is finished, and one more byte in the original. -/
theorem streaming_sha256_copy :
    finished (fun _ => none) [.init 0, .update 0 [97, 98], .copy 0 1, .finish 1, .update 0 [99], .finish 0] =
      [some [97, 98], some [97, 98, 99]] ∧
    digests (fun context => context) (fun _ => sha256Init)
        [.init 0, .update 0 [97, 98], .copy 0 1, .finish 1, .update 0 [99], .finish 0] =
      [Sha256.hash [97, 98], Sha256.hash [97, 98, 99]] := by
  have streams : finished (fun _ => none)
      [.init 0, .update 0 [97, 98], .copy 0 1, .finish 1, .update 0 [99], .finish 0] =
        [some [97, 98], some [97, 98, 99]] := by decide
  refine ⟨streams, ?_⟩
  have run := streaming_sha256.2 (fun context => context) (fun _ => sha256Init)
    [.init 0, .update 0 [97, 98], .copy 0 1, .finish 1, .update 0 [99], .finish 0]
  rw [streams] at run
  generalize digests _ _ _ = computed at run ⊢
  cases run with
  | cons first rest =>
      cases rest with
      | cons second none =>
          cases none
          rw [first _ rfl, second _ rfl]

end Ota
end DevKit
