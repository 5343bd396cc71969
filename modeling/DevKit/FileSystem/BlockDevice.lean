import DevKit.Foundation.Memory
import DevKit.Foundation.CheckedMemory

namespace DevKit
namespace FileSystem

/-!
# The serial flash as a block device

The file system reads and programs blocks of 512 bytes.  The flash below erases
whole sectors of 4096 bytes, and a write can only clear bits, so a block that is
not blank is programmed by reading its sector, erasing it and writing it back.

The flash operations are taken to succeed.  The abstract device of the second
part is a memory in which programming stores and reading loads.
-/

/-- The contents of the file system partition. -/
abbrev Flash := Nat -> UInt8

/-- The bytes, and the offset behind them. -/
def micoFlashRead (flash : Flash) (offset size : Nat) : Bytes × Nat :=
  (load flash offset size, offset + size)

/-- A write clears bits; the offset moves behind the data. -/
def micoFlashWrite (flash : Flash) (offset : Nat) (data : Bytes) : Flash × Nat :=
  (fun address =>
    if offset ≤ address then (data[address - offset]?).elim (flash address) (flash address &&& ·) else flash address,
    offset + data.length)

/-- The whole sectors that cover a range become blank. -/
def micoFlashErase (flash : Flash) (offset size : Nat) : Flash := fun address =>
  if offset / 4096 ≤ address / 4096 ∧ address / 4096 ≤ (offset + size - 1) / 4096 then 0xff else flash address

/-- The caller does not use the advanced offset. -/
def micoFlashEraseWrite (flash : Flash) (offset : Nat) (data : Bytes) : Flash :=
  let fSector := offset >>> 12
  let sSector := offset &&& 0x0f00
  let (buffer, fAddr) := micoFlashRead flash (fSector <<< 12) 4096
  if (slice buffer sSector data.length).all (· == 0xff) = false then
    let fAddr := fAddr - 4096
    let erased := micoFlashErase flash fAddr data.length
    (micoFlashWrite erased fAddr (splice buffer sSector data)).1
  else (micoFlashWrite flash offset data).1

/-- The loop of the write over sectors of the device. -/
def sflashdiskWrite (flash : Flash) (data : Bytes) (sector : Nat) : (count : Nat) -> Flash
  | 0 => flash
  | count + 1 =>
      let written := micoFlashEraseWrite flash (sector * 512 % 2 ^ 32) (data.take 512)
      sflashdiskWrite written (data.drop 512) ((sector + 1) % 2 ^ 32) count

/-- The loop of the read; the bytes of the buffer behind the last sector that is
read keep their values. -/
def sflashdiskRead (flash : Flash) (buffer : Bytes) (sector : Nat) : (count : Nat) -> Bytes
  | 0 => buffer
  | count + 1 =>
      (micoFlashRead flash (sector * 512 % 2 ^ 32) 512).1 ++
        sflashdiskRead flash (buffer.drop 512) ((sector + 1) % 2 ^ 32) count

/-- A request of the file system with its buffer. -/
inductive Request where
  | read (buffer : Bytes) (addr : Nat)
  | program (buffer : Bytes) (addr : Nat)
deriving Repr, DecidableEq

namespace Request

def addr : Request -> Nat
  | .read _ addr => addr
  | .program _ addr => addr

def size : Request -> Nat
  | .read buffer _ => buffer.length
  | .program buffer _ => buffer.length

/-- Address and size are whole blocks inside the partition. -/
structure Valid (partition : Nat) (request : Request) : Prop where
  addr : 512 ∣ request.addr
  size : 512 ∣ request.size
  inside : request.addr + request.size ≤ partition

end Request

/-- The sector is a `DWORD` and the number of blocks a `BYTE`.  A read returns the
buffer. -/
def serve (flash : Flash) : Request -> Flash × Option Bytes
  | .read buffer addr =>
      (flash, some (sflashdiskRead flash buffer (addr / 512 % 2 ^ 32) (buffer.length / 512 % 2 ^ 8)))
  | .program buffer addr =>
      (sflashdiskWrite flash buffer (addr / 512 % 2 ^ 32) (buffer.length / 512 % 2 ^ 8), none)

/-- The flash after some requests. -/
def after (flash : Flash) (requests : List Request) : Flash :=
  requests.foldl (fun reached request => (serve reached request).1) flash

/-! ## The block store -/

/-- The byte that a request programs at an address. -/
def Request.programs (address : Nat) : Request -> Option UInt8
  | .read _ _ => none
  | .program buffer addr => if addr ≤ address then buffer[address - addr]? else none

/-- The value last programmed at an address, or the initial one. -/
def lastProgrammed (initial : Flash) (history : List Request) (address : Nat) : UInt8 :=
  (history.reverse.findSome? (Request.programs address)).getD (initial address)

theorem lastProgrammed_concat (initial : Flash) (history : List Request) (request : Request) (address : Nat) :
    lastProgrammed initial (history ++ [request]) address =
      (request.programs address).getD (lastProgrammed initial history address) := by
  unfold lastProgrammed
  rw [List.reverse_append, List.reverse_singleton, List.singleton_append, List.findSome?_cons]
  cases request.programs address <;> rfl

/-! ## One block -/

theorem shiftLeft_shiftRight_sector (offset : Nat) : offset >>> 12 <<< 12 = offset / 4096 * 4096 := by
  rw [Nat.shiftLeft_eq, Nat.shiftRight_eq_div_pow]

/-- The mask leaves the position of a block inside its sector. -/
theorem and_sector_mask {offset : Nat} (block : 512 ∣ offset) : offset &&& 0x0f00 = offset % 4096 := by
  have small : offset &&& 0x0f00 < 2 ^ 12 := Nat.and_lt_two_pow _ (by decide)
  have reduced : offset &&& 0x0f00 = offset % 2 ^ 12 &&& 0x0f00 := by
    rw [← Nat.mod_eq_of_lt small, Nat.and_mod_two_pow]
  have position : offset % 4096 = 512 * (offset / 512 % 8) := by omega
  have masked : forall part, part < 8 -> 512 * part &&& 0x0f00 = 512 * part := by decide
  rw [reduced]
  change offset % 4096 &&& 0x0f00 = offset % 4096
  rw [position]
  exact masked _ (Nat.mod_lt _ (by decide))

/-- Copying data into what was read is reading what the data are stored in. -/
theorem splice_load (flash : Flash) (base position : Nat) {size : Nat} {data : Bytes}
    (within : position + data.length ≤ size) :
    splice (load flash base size) position data = load (overlay flash (base + position) data) base size := by
  rcases Nat.exists_eq_add_of_le within with ⟨rest, rfl⟩
  have front : load (overlay flash (base + position) data) base position = load flash base position :=
    load_congr fun index small => overlay_outside flash (Or.inl (by omega))
  have middle : load (overlay flash (base + position) data) (base + position) data.length = data := by
    rw [← Nat.add_zero (base + position), load_overlay flash _ 0 _ data (by omega)]
    exact slice_zero_length data _ rfl
  have back : load (overlay flash (base + position) data) (base + (position + data.length)) rest =
      load flash (base + (position + data.length)) rest :=
    load_congr fun index small => overlay_outside flash (Or.inr (by omega))
  have begin : (load flash base (position + data.length + rest)).take position = load flash base position := by
    rw [load_add, load_add, List.append_assoc, List.take_left' (length_load flash base position)]
  have finish : (load flash base (position + data.length + rest)).drop (position + data.length) =
      load flash (base + (position + data.length)) rest := by
    rw [load_add, List.drop_left' (length_load flash base _)]
  rw [splice, begin, finish, load_add, load_add, front, middle, back]

theorem and_blank (byte : UInt8) : 0xff &&& byte = byte := by
  rw [UInt8.and_comm]
  exact UInt8.and_neg_one

/-- A write onto blank cells stores its data. -/
theorem micoFlashWrite_blank {flash : Flash} {offset : Nat} {data : Bytes}
    (blank : forall index, index < data.length -> flash (offset + index) = 0xff) :
    (micoFlashWrite flash offset data).1 = overlay flash offset data := by
  funext address
  unfold micoFlashWrite
  dsimp only
  by_cases reached : offset ≤ address
  · rw [if_pos reached]
    by_cases inside : address - offset < data.length
    · have found := List.getElem?_eq_getElem inside
      have cell := blank _ inside
      rw [Nat.add_sub_cancel' reached] at cell
      rw [found, overlay_inside flash reached found, Option.elim_some, cell, and_blank]
    · rw [List.getElem?_eq_none (by omega), overlay_outside flash (Or.inr (by omega))]
      rfl
  · rw [if_neg reached, overlay_outside flash (Or.inl (by omega))]

/-- Erasing a sector and writing it from a memory gives that memory where it
differs only inside the sector. -/
theorem write_erased {flash memory : Flash} {sector size : Nat} (positive : 0 < size) (small : size ≤ 4096)
    (same : forall address, address / 4096 ≠ sector -> memory address = flash address) :
    (micoFlashWrite (micoFlashErase flash (sector * 4096) size) (sector * 4096)
      (load memory (sector * 4096) 4096)).1 = memory := by
  have erased (address : Nat) : micoFlashErase flash (sector * 4096) size address =
      if address / 4096 = sector then 0xff else flash address := by
    unfold micoFlashErase
    have first : sector * 4096 / 4096 = sector := Nat.mul_div_cancel _ (by decide)
    have last : (sector * 4096 + size - 1) / 4096 = sector := by omega
    rw [first, last]
    split <;> split <;> first | rfl | omega
  rw [micoFlashWrite_blank]
  · funext address
    by_cases here : address / 4096 = sector
    · refine overlay_inside _ (by omega) ?_
      rw [getElem?_load, if_pos (by omega), Nat.add_sub_cancel' (by omega)]
    · rw [overlay_outside _ (by rw [length_load]; omega), erased, if_neg here, same address here]
  · intro index inside
    rw [length_load] at inside
    rw [erased, if_pos (by omega)]

/-- A block is programmed without touching the rest of its sector. -/
theorem micoFlashEraseWrite_eq (flash : Flash) {offset : Nat} (block : 512 ∣ offset) {data : Bytes}
    (sized : data.length = 512) : micoFlashEraseWrite flash offset data = overlay flash offset data := by
  have aligned : offset % 4096 + 512 ≤ 4096 := by omega
  have whole : offset / 4096 * 4096 + offset % 4096 = offset := by omega
  unfold micoFlashEraseWrite micoFlashRead
  dsimp only
  rw [shiftLeft_shiftRight_sector, and_sector_mask block, sized, Nat.add_sub_cancel]
  split
  case isTrue =>
    rw [splice_load flash _ _ (by omega), whole]
    refine write_erased (by decide) (by decide) fun address elsewhere => ?_
    exact overlay_outside flash (by omega)
  case isFalse blank =>
    rw [Bool.not_eq_false, List.all_eq_true] at blank
    refine micoFlashWrite_blank fun index inside => ?_
    have cell : (slice (load flash (offset / 4096 * 4096) 4096) (offset % 4096) 512)[index]? =
        some (flash (offset + index)) := by
      rw [slice, List.getElem?_take_of_lt (by omega), List.getElem?_drop, getElem?_load, if_pos (by omega),
        ← Nat.add_assoc, whole]
    exact eq_of_beq (blank _ (List.mem_of_getElem? cell))

/-! ## The loops -/

theorem sflashdiskWrite_eq (flash : Flash) {data : Bytes} {sector count : Nat} (full : 512 * count ≤ data.length)
    (fits : sector + count ≤ 2 ^ 23) :
    sflashdiskWrite flash data sector count = overlay flash (sector * 512) (data.take (512 * count)) := by
  induction count generalizing flash data sector with
  | zero => rw [sflashdiskWrite, Nat.mul_zero, List.take_zero, overlay_nil]
  | succ count inductionHypothesis =>
      have sized : (data.take 512).length = 512 := by
        rw [List.length_take]
        omega
      have fitsNext : sector + 1 + count ≤ 2 ^ 23 := by omega
      have position : sector * 512 % 2 ^ 32 = sector * 512 := Nat.mod_eq_of_lt (by omega)
      have next : (sector + 1) % 2 ^ 32 = sector + 1 := Nat.mod_eq_of_lt (by omega)
      have following : (sector + 1) * 512 = sector * 512 + 512 := by omega
      have more : 512 * (count + 1) = 512 + 512 * count := by omega
      have parts : data.take (512 * (count + 1)) = data.take 512 ++ (data.drop 512).take (512 * count) := by
        rw [more, List.take_add]
      have rest : 512 * count ≤ (data.drop 512).length := by
        rw [List.length_drop]
        omega
      rw [sflashdiskWrite, position, next, micoFlashEraseWrite_eq flash (Nat.dvd_mul_left 512 sector) sized,
        inductionHypothesis _ rest fitsNext, parts, overlay_append, sized, following]

theorem sflashdiskRead_eq (flash : Flash) (buffer : Bytes) {sector count : Nat} (fits : sector + count ≤ 2 ^ 23) :
    sflashdiskRead flash buffer sector count =
      load flash (sector * 512) (512 * count) ++ buffer.drop (512 * count) := by
  induction count generalizing buffer sector with
  | zero => rfl
  | succ count inductionHypothesis =>
      have fitsNext : sector + 1 + count ≤ 2 ^ 23 := by omega
      have position : sector * 512 % 2 ^ 32 = sector * 512 := Nat.mod_eq_of_lt (by omega)
      have next : (sector + 1) % 2 ^ 32 = sector + 1 := Nat.mod_eq_of_lt (by omega)
      have following : (sector + 1) * 512 = sector * 512 + 512 := by omega
      have more : 512 * (count + 1) = 512 + 512 * count := by omega
      rw [sflashdiskRead, position, next, inductionHypothesis _ fitsNext, micoFlashRead, more, load_add,
        List.append_assoc, List.drop_drop, following]

/-! ## Requests -/

/-- The number of blocks fits into its byte. -/
def Request.Short (request : Request) : Prop :=
  request.size < 131072

theorem serve_program {partition : Nat} (small : partition ≤ 2 ^ 32) (flash : Flash) {buffer : Bytes} {addr : Nat}
    (valid : (Request.program buffer addr).Valid partition) (short : (Request.program buffer addr).Short) :
    serve flash (.program buffer addr) = (overlay flash addr buffer, none) := by
  have blocks : 512 ∣ buffer.length := valid.size
  have inside : addr + buffer.length ≤ partition := valid.inside
  have few : buffer.length < 131072 := short
  have count : buffer.length / 512 % 2 ^ 8 = buffer.length / 512 := Nat.mod_eq_of_lt (by omega)
  have sector : addr / 512 % 2 ^ 32 = addr / 512 := Nat.mod_eq_of_lt (by omega)
  have total : 512 * (buffer.length / 512) = buffer.length := Nat.mul_div_cancel' blocks
  have start : addr / 512 * 512 = addr := Nat.div_mul_cancel valid.addr
  rw [serve, count, sector, sflashdiskWrite_eq flash (by omega) (by omega), total, start, List.take_length]

theorem serve_read {partition : Nat} (small : partition ≤ 2 ^ 32) (flash : Flash) {buffer : Bytes} {addr : Nat}
    (valid : (Request.read buffer addr).Valid partition) (short : (Request.read buffer addr).Short) :
    serve flash (.read buffer addr) = (flash, some (load flash addr buffer.length)) := by
  have blocks : 512 ∣ buffer.length := valid.size
  have inside : addr + buffer.length ≤ partition := valid.inside
  have few : buffer.length < 131072 := short
  have count : buffer.length / 512 % 2 ^ 8 = buffer.length / 512 := Nat.mod_eq_of_lt (by omega)
  have sector : addr / 512 % 2 ^ 32 = addr / 512 := Nat.mod_eq_of_lt (by omega)
  have total : 512 * (buffer.length / 512) = buffer.length := Nat.mul_div_cancel' blocks
  have start : addr / 512 * 512 = addr := Nat.div_mul_cancel valid.addr
  rw [serve, count, sector, sflashdiskRead_eq flash buffer (by omega), total, start, List.drop_length, List.append_nil]

theorem overlay_programs (flash : Flash) (buffer : Bytes) (addr address : Nat) :
    overlay flash addr buffer address = ((Request.program buffer addr).programs address).getD (flash address) := by
  unfold overlay Request.programs
  dsimp only
  split <;> rfl

/-- The flash shows what was last programmed, request by request. -/
theorem serve_eq_lastProgrammed {partition : Nat} (small : partition ≤ 2 ^ 32) {flash initial : Flash}
    {history : List Request} (holds : flash = lastProgrammed initial history) {request : Request}
    (valid : request.Valid partition) (short : request.Short) :
    (serve flash request).1 = lastProgrammed initial (history ++ [request]) := by
  funext address
  rw [lastProgrammed_concat, ← holds]
  cases request with
  | read buffer addr =>
      rw [serve_read small flash valid short]
      rfl
  | program buffer addr =>
      rw [serve_program small flash valid short]
      exact overlay_programs flash buffer addr address

theorem after_eq_lastProgrammed {partition : Nat} (small : partition ≤ 2 ^ 32) (initial : Flash)
    {requests : List Request}
    (valid : forall request, request ∈ requests -> request.Valid partition ∧ request.Short) :
    after initial requests = lastProgrammed initial requests := by
  induction requests using List.reverseRecOn with
  | nil => rfl
  | append_singleton before request inductionHypothesis =>
      have holds := inductionHypothesis fun other member => valid other (List.mem_append_left _ member)
      have last := valid request List.mem_concat_self
      have step := serve_eq_lastProgrammed small holds last.1 last.2
      rw [← step, after, List.foldl_concat]
      rfl

/-- In every sequence of requests for whole blocks inside the partition, none of
them for 256 blocks or more, each read returns for every byte the value that was
last programmed there, and a request changes only the bytes that it programs. -/
theorem blockDevice_faithful {partition : Nat} (small : partition ≤ 2 ^ 32) (initial : Flash)
    {before : List Request} {request : Request}
    (valid : forall other, other ∈ before ++ [request] -> other.Valid partition ∧ other.Short) :
    (forall buffer addr, request = .read buffer addr -> (serve (after initial before) request).2 =
      some ((List.range buffer.length).map fun index => lastProgrammed initial before (addr + index))) ∧
    (forall address, (address < request.addr ∨ request.addr + request.size ≤ address) ->
      (serve (after initial before) request).1 address = after initial before address) := by
  have earlier := after_eq_lastProgrammed small initial fun other member =>
    valid other (List.mem_append_left _ member)
  have here := valid request (List.mem_append_right _ (List.mem_singleton_self request))
  constructor
  · rintro buffer addr rfl
    rw [serve_read small _ here.1 here.2, earlier]
    rfl
  · intro address outside
    cases request with
    | read buffer addr => rfl
    | program buffer addr =>
        rw [serve_program small _ here.1 here.2]
        exact overlay_outside _ outside

/-- One block of zeros over a flash of sixteens, and the block in front of it read
back. -/
theorem blockDevice_faithful_blocks :
    (serve (after (fun _ => 16) [.program (List.replicate 512 0) 512]) (.read (List.replicate 512 1) 0)).2 =
      some ((List.range (List.replicate 512 (1 : UInt8)).length).map fun index =>
        lastProgrammed (fun _ => 16) [.program (List.replicate 512 0) 512] (0 + index)) := by
  have valid (other : Request) (member : other ∈ [Request.program (List.replicate 512 0) 512] ++
      [Request.read (List.replicate 512 1) 0]) : other.Valid 1048576 ∧ other.Short := by
    rcases List.mem_cons.mp member with rfl | last
    · refine ⟨⟨by decide, ?_, ?_⟩, ?_⟩ <;>
        simp only [Request.Short, Request.size, Request.addr, List.length_replicate] <;> decide
    · rw [List.mem_singleton.mp last]
      refine ⟨⟨by decide, ?_, ?_⟩, ?_⟩ <;>
        simp only [Request.Short, Request.size, Request.addr, List.length_replicate] <;> decide
  exact (blockDevice_faithful (by decide) (fun _ => 16) valid).1 _ _ rfl

/-- A request for 256 blocks programs nothing: its number of blocks is 0 as a
byte. -/
theorem blockDevice_drops_large_program :
    let request := Request.program (List.replicate 131072 0) 0
    request.Valid 1048576 ∧ after (fun _ => 0xff) [request] 0 = 0xff ∧
      lastProgrammed (fun _ => 0xff) [request] 0 = 0 := by
  refine ⟨⟨by decide, ?_, ?_⟩, ?_, ?_⟩
  · simp only [Request.size, List.length_replicate]
    decide
  · simp only [Request.size, Request.addr, List.length_replicate]
    decide
  · simp only [after, List.foldl_cons, List.foldl_nil, serve, List.length_replicate]
    rfl
  · have first : (List.replicate 131072 (0 : UInt8))[0]? = some 0 := by
      rw [List.getElem?_replicate, if_pos (by decide)]
    rw [← List.nil_append [_], lastProgrammed_concat, Request.programs, if_pos (Nat.le_refl 0), Nat.sub_self, first,
      Option.getD_some]

end FileSystem
end DevKit
