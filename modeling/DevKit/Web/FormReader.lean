import DevKit.Web.Assembly
import DevKit.Web.Multipart

namespace DevKit
namespace Web

open Procedure Eeprom

/-!
# The reader of the submitted form

`read_form_field` looks a field up in the body, as a multipart form or as a
url-encoded one.  A body is any string at all, so the lookups have to be
followed on strings that are no forms.

The url decoder does not always stop at a terminator.  It reads both
characters behind a `%`, so that it can read the one byte behind the buffer;
and a key that contains `%00` takes it behind the end of the tag.  What lies
there is a parameter: whatever it is, the reader keeps its contract.
-/

/-- A string that is followed by at least one byte. -/
def Ended (data : Bytes) : Prop :=
  0 ∈ data.dropLast

theorem Ended.tail {c : UInt8} {rest : Bytes} (ended : Ended (c :: rest)) (nonzero : c ≠ 0) : Ended rest := by
  cases rest with
  | nil => exact absurd ended List.not_mem_nil
  | cons d rest =>
      rcases List.mem_cons.mp ended with same | later
      · exact absurd same.symm nonzero
      · exact later

theorem Ended.two {c : UInt8} {rest : Bytes} (ended : Ended (c :: rest)) (nonzero : c ≠ 0) :
    exists d1 d2 after, rest = d1 :: d2 :: after := by
  have tail := ended.tail nonzero
  match rest, tail with
  | [], tail => exact absurd tail List.not_mem_nil
  | [d], tail => exact absurd tail List.not_mem_nil
  | d1 :: d2 :: after, _ => exact ⟨d1, d2, after, rfl⟩

theorem char2nibble_nonzero {c : UInt8} (digit : char2nibble c ≠ -1) : c ≠ 0 := by
  rintro rfl
  exact digit rfl

/-- Behind an escape with two digits the string goes on. -/
theorem Ended.escape {d1 d2 : UInt8} {rest : Bytes} (ended : Ended (percent :: d1 :: d2 :: rest))
    (digits : ¬ (char2nibble d1 = -1 ∨ char2nibble d2 = -1)) : Ended rest :=
  ((ended.tail (by decide)).tail (char2nibble_nonzero fun bad => digits (Or.inl bad))).tail
    (char2nibble_nonzero fun bad => digits (Or.inr bad))

/-! ## The url decoder -/

/-- A buffer that was changed in its first bytes only. -/
def Within (region : Bytes) (capacity : Nat) (val : Pointer) : Prop :=
  exists value, val = some value ∧ value.length = region.length ∧ value.drop capacity = region.drop capacity

theorem Within.refl (region : Bytes) (capacity : Nat) : Within region capacity (some region) :=
  ⟨region, rfl, rfl, rfl⟩

/-- One more byte in the first bytes. -/
theorem Within.store {region : Bytes} {capacity position : Nat} {val : Pointer} (held : Within region capacity val)
    (inside : position < capacity) (room : capacity ≤ region.length) (byte : UInt8) :
    exists value, val = some value ∧ store val position [byte] = some (some (splice value position [byte])) ∧
      capacity ≤ value.length ∧ Within region capacity (some (splice value position [byte])) := by
  rcases held with ⟨value, rfl, length, rest⟩
  have within : position + ([byte] : Bytes).length ≤ value.length := by
    rw [List.length_singleton]
    omega
  refine ⟨value, rfl, store_some within, by omega, _, rfl, (length_splice within).trans length, ?_⟩
  obtain ⟨more, rfl⟩ : exists more, capacity = position + ([byte] : Bytes).length + more :=
    ⟨capacity - (position + 1), by rw [List.length_singleton]; omega⟩
  exact (drop_splice within more).trans rest

section Decoder

variable {data tag region : Bytes} {valLen : Nat}

end Decoder

/-! ## The reader -/

/-- What lies in the memory behind a name and behind the buffer of the body. -/
structure Surroundings where
  behindName : Bytes -> Nat -> UInt8
  behindBody : UInt8

/-- A name with some of the memory behind it. -/
def Surroundings.name (surroundings : Surroundings) (name : Bytes) (size : Nat) : Bytes :=
  name ++ (List.range size).map (surroundings.behindName name)

/-- `boundary` is the null pointer for a url-encoded body.  The decoder has no
more use of the memory behind a name than the body is long. -/
def readFormField (surroundings : Surroundings) (body : Bytes) (boundary : Pointer) (name : Bytes) (value : Pointer)
    (capacity : Nat) : Option (Int × Pointer) :=
  if capacity = 0 then some (paramErr, value)
  else
    match boundary with
    | some boundary => httpdGetTagFromMultipartForm body boundary name value capacity
    | none =>
        httpdGetTagFromPostData (body ++ [surroundings.behindBody]) (surroundings.name name (body.length + 1)) value
          (capacity - 1)

def webForm (surroundings : Surroundings) (body : Bytes) (boundary : Pointer) : Form where
  read _ := readFormField surroundings body boundary

end Web
end DevKit
