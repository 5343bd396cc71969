import DevKit.Foundation.Bytes

namespace DevKit

/-!
# Ranges and memories

A memory is a function of the address.  `overlay` stores a list at an offset
and `load` reads a range back.  `Tiles` says that a list of ranges covers an
interval without gap or overlap, in order; `blocksFrom` is the particular
tiling that a loop over blocks of one size walks through.
-/

/-- The ranges cover `[start, stop)` exactly once, in order, and none of them
is empty. -/
def Tiles : (start : Nat) -> (ranges : List (Nat × Nat)) -> (stop : Nat) -> Prop
  | start, [], stop => start = stop
  | start, (offset, size) :: ranges, stop => offset = start ∧ 0 < size ∧ Tiles (start + size) ranges stop

theorem tiles_append {start middle stop : Nat} {first second : List (Nat × Nat)}
    (before : Tiles start first middle) (after : Tiles middle second stop) :
    Tiles start (first ++ second) stop := by
  induction first generalizing start with
  | nil =>
      cases (before : start = middle)
      exact after
  | cons range ranges inductionHypothesis =>
      exact ⟨before.1, before.2.1, inductionHypothesis before.2.2⟩

theorem tiles_concat {start stop size : Nat} {ranges : List (Nat × Nat)} (before : Tiles start ranges stop)
    (positive : 0 < size) : Tiles start (ranges ++ [(stop, size)]) (stop + size) :=
  tiles_append before ⟨rfl, positive, rfl⟩

/-- Every place of a tiled range is in one of the tiles. -/
theorem tiles_covers {start stop address : Nat} {ranges : List (Nat × Nat)} (tiles : Tiles start ranges stop)
    (above : start ≤ address) (below : address < stop) :
    exists range, range ∈ ranges ∧ range.1 ≤ address ∧ address < range.1 + range.2 := by
  induction ranges generalizing start with
  | nil =>
      cases (tiles : start = stop)
      omega
  | cons range ranges inductionHypothesis =>
      rcases tiles with ⟨first, _, others⟩
      by_cases inside : address < start + range.2
      · exact ⟨range, List.mem_cons_self, by omega, by omega⟩
      · rcases inductionHypothesis others (by omega) with ⟨other, member, found⟩
        exact ⟨other, List.mem_cons_of_mem _ member, found⟩

theorem tiles_sum {start stop : Nat} {ranges : List (Nat × Nat)} (tiles : Tiles start ranges stop) :
    start + (ranges.map Prod.snd).sum = stop := by
  induction ranges generalizing start with
  | nil => exact tiles
  | cons range ranges inductionHypothesis =>
      rw [List.map_cons, List.sum_cons, ← inductionHypothesis tiles.2.2]
      omega

/-- The blocks of at most `block` positions that a loop visits in
`[offset, limit)`. -/
def blocksFrom (block : Nat) (positive : 0 < block) (limit offset : Nat) : List (Nat × Nat) :=
  if offset < limit then
    (offset, min (limit - offset) block) ::
      blocksFrom block positive limit (offset + min (limit - offset) block)
  else []
termination_by limit - offset
decreasing_by omega

theorem blocksFrom_of_lt {block limit offset : Nat} {positive : 0 < block} (more : offset < limit) :
    blocksFrom block positive limit offset = (offset, min (limit - offset) block) ::
      blocksFrom block positive limit (offset + min (limit - offset) block) := by
  rw [blocksFrom, if_pos more]

theorem blocksFrom_limit (block limit : Nat) (positive : 0 < block) :
    blocksFrom block positive limit limit = [] := by
  rw [blocksFrom, if_neg (Nat.lt_irrefl limit)]

/-! ## Memories -/

variable {Cell : Type}

/-- Store a list at an offset. -/
def overlay (memory : Nat -> Cell) (offset : Nat) (data : List Cell) : Nat -> Cell :=
  fun address => if offset ≤ address then (data[address - offset]?).getD (memory address) else memory address

/-- Read a range. -/
def load (memory : Nat -> Cell) (offset size : Nat) : List Cell :=
  (List.range size).map fun index => memory (offset + index)

theorem length_load (memory : Nat -> Cell) (offset size : Nat) : (load memory offset size).length = size := by
  rw [load, List.length_map, List.length_range]

theorem overlay_nil (memory : Nat -> Cell) (offset : Nat) : overlay memory offset [] = memory := by
  funext address
  simp only [overlay, List.getElem?_nil, Option.getD_none, ite_self]

theorem overlay_inside (memory : Nat -> Cell) {offset address : Nat} {data : List Cell} {cell : Cell}
    (reached : offset ≤ address) (found : data[address - offset]? = some cell) :
    overlay memory offset data address = cell := by
  rw [overlay, if_pos reached, found, Option.getD_some]

theorem overlay_outside (memory : Nat -> Cell) {offset address : Nat} {data : List Cell}
    (outside : address < offset ∨ offset + data.length ≤ address) :
    overlay memory offset data address = memory address := by
  unfold overlay
  split
  · rw [List.getElem?_eq_none (by omega), Option.getD_none]
  · rfl

theorem load_congr {one other : Nat -> Cell} {offset size : Nat}
    (same : forall index, index < size -> one (offset + index) = other (offset + index)) :
    load one offset size = load other offset size := by
  unfold load
  exact List.map_congr_left fun index member => same index (List.mem_range.mp member)

theorem getElem?_load (memory : Nat -> Cell) (offset size index : Nat) :
    (load memory offset size)[index]? = if index < size then some (memory (offset + index)) else none := by
  unfold load
  rw [List.getElem?_map]
  split
  · rw [List.getElem?_range (by assumption), Option.map_some]
  · rw [List.getElem?_eq_none (by rw [List.length_range]; omega), Option.map_none]

/-- Storing a list is storing its parts one behind the other. -/
theorem overlay_append (memory : Nat -> Cell) (offset : Nat) (first second : List Cell) :
    overlay memory offset (first ++ second) =
      overlay (overlay memory offset first) (offset + first.length) second := by
  funext address
  simp only [overlay]
  by_cases inside : offset ≤ address
  · by_cases past : offset + first.length ≤ address
    · have left : first[address - offset]? = none := List.getElem?_eq_none (by omega)
      rw [if_pos inside, if_pos past, if_pos inside, left, Option.getD_none,
        List.getElem?_append_right (by omega), Nat.sub_add_eq]
    · rw [if_pos inside, if_neg past, if_pos inside, List.getElem?_append_left (by omega)]
  · rw [if_neg inside, if_neg (by omega), if_neg inside]

/-- A read inside a stored list returns the corresponding part of it. -/
theorem load_overlay (memory : Nat -> Cell) (base offset size : Nat) (data : List Cell)
    (within : offset + size ≤ data.length) :
    load (overlay memory base data) (base + offset) size = slice data offset size := by
  apply List.ext_getElem
  · rw [length_load, length_slice data offset size within]
  · intro index short _
    rw [length_load] at short
    have position : base + offset + index - base = offset + index := by omega
    have present : offset + index < data.length := by omega
    simp only [load, overlay, slice, List.getElem_map, List.getElem_range, List.getElem_take,
      List.getElem_drop]
    rw [if_pos (by omega), position, List.getElem?_eq_getElem present, Option.getD_some]

theorem load_add (memory : Nat -> Cell) (offset first second : Nat) :
    load memory offset (first + second) =
      load memory offset first ++ load memory (offset + first) second := by
  simp only [load, List.range_add, List.map_append, List.map_map, Function.comp_def, Nat.add_assoc]

/-- Blocks that tile a range and agree with a memory make up that range. -/
theorem flatMap_of_tiles {memory : Nat -> Cell} {blocks : List (Nat × List Cell)} {start stop : Nat}
    (tiles : Tiles start (blocks.map fun block => (block.1, block.2.length)) stop)
    (agree : forall block, block ∈ blocks -> block.2 = load memory block.1 block.2.length) :
    blocks.flatMap Prod.snd = load memory start (stop - start) := by
  induction blocks generalizing start with
  | nil =>
      cases (tiles : start = stop)
      rw [Nat.sub_self]
      rfl
  | cons block blocks inductionHypothesis =>
      rcases tiles with ⟨first, _, others⟩
      have reach := tiles_sum others
      have later := inductionHypothesis others fun other member => agree other (List.mem_cons_of_mem _ member)
      have size : stop - start = block.2.length + (stop - (start + block.2.length)) := by omega
      have here := agree block List.mem_cons_self
      rw [List.flatMap_cons, later, size, load_add, ← first, ← here]

/-- Where a memory of known cells agrees with the real one, it still does after
both have stored the same list. -/
theorem overlay_some {known : Nat -> Option Cell} {memory : Nat -> Cell} (offset : Nat) (data : List Cell)
    (agree : forall address cell, known address = some cell -> memory address = cell) (address : Nat)
    (cell : Cell) (found : overlay known offset (data.map some) address = some cell) :
    overlay memory offset data address = cell := by
  simp only [overlay] at found ⊢
  by_cases inside : offset ≤ address
  · rw [if_pos inside, List.getElem?_map] at found
    rw [if_pos inside]
    cases stored : data[address - offset]? with
    | none =>
        rw [stored] at found
        exact agree address cell found
    | some byte =>
        rw [stored] at found
        exact Option.some_inj.mp found
  · rw [if_neg inside] at found
    rw [if_neg inside]
    exact agree address cell found

/-- A memory whose cells are known over a range holds the known list there. -/
theorem load_eq_of_known {known : Nat -> Option Cell} {memory : Nat -> Cell} {data : List Cell}
    (agree : forall address cell, known address = some cell -> memory address = cell)
    (stored : forall index cell, data[index]? = some cell -> known index = some cell) :
    load memory 0 data.length = data := by
  apply List.ext_getElem
  · exact length_load memory 0 data.length
  · intro index short present
    simp only [load, List.getElem_map, List.getElem_range, Nat.zero_add]
    exact agree index _ (stored index _ (List.getElem?_eq_getElem present))

end DevKit
