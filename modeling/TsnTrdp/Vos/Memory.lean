import TsnTrdp.Lib.Memory

/-! The memory area of the TRDP stack. `vos_memInit` divides it into blocks of fifteen sizes as they
are asked for; a block that is freed goes to the list of its size, and is handed out again from there.
The headers of the blocks, and the links of the lists, lie in the area itself.
-/

namespace TsnTrdp.Vos

open TsnTrdp.Memory

abbrev U32 : Type := BitVec 32

def vosMemMaxPreallocate : Nat := 10
def vosMemNBlockSizes : Nat := 15

/-- `VOS_MEM_BLOCKSIZES`, with `MD_SUPPORT`. -/
def vosMemBlockSizes : List U32 :=
  [48, 72, 128, 180, 256, 512, 1024, 1480, 2048, 4096, 11520, 16384, 32768, 65536, 131072]

/-- `VOS_MEM_PREALLOCATE`, with `MD_SUPPORT`. -/
def vosMemPreallocate : List U32 := [0, 0, 0, 0, 0, 0, 0, 10, 0, 2, 1, 0, 2, 0, 0]

/-- `blockSize[i]` of `vos_memInit`. -/
def blockSize (i : Nat) : U32 := vosMemBlockSizes.getD i 0

/-- `sizeof(MEM_BLOCK_T)`: the size at offset 0, and the pointer at offset 8. -/
def sizeofMemBlock : Nat := 16

/-- `pBlock->size`. -/
def sizeOf (mem : Bytes) (pBlock : Nat) : U32 := BitVec.ofNat 32 (read mem pBlock 4)

/-- `pBlock->pNext`, with `NULL` as 0. -/
def pNext (mem : Bytes) (pBlock : Nat) : Nat := read mem (pBlock + 8) 8

/-- `pBlock->size = size`. -/
def setSize (mem : Bytes) (pBlock : Nat) (size : U32) : Bytes := write mem pBlock 4 size.toNat

/-- `pBlock->pNext = next`. -/
def setPNext (mem : Bytes) (pBlock next : Nat) : Bytes := write mem (pBlock + 8) 8 next

/-- An entry of `freeBlock`. -/
structure FreeBlock where
  size : U32
  pFirst : Nat

/-- `MEM_STATISTIC_T`; its arrays by their index. -/
structure MemStatistic where
  freeSize : U32
  minFreeSize : U32
  allocCnt : U32
  allocErrCnt : U32
  freeErrCnt : U32
  blockCnt : Nat → U32
  preAlloc : Nat → U32

/-- `MEM_CONTROL_T`; `freeBlock` by its index. -/
structure MemControl where
  pArea : Nat
  pFreeArea : Nat
  memSize : U32
  allocSize : U32
  noOfBlocks : U32
  wasMalloced : Bool
  freeBlock : Nat → FreeBlock
  memCnt : MemStatistic

/-- What `gMem` is initialised with. -/
def MemControl.initial : MemControl where
  pArea := 0
  pFreeArea := 0
  memSize := 0
  allocSize := 0
  noOfBlocks := 0
  wasMalloced := false
  freeBlock := fun _ => ⟨0, 0⟩
  memCnt := ⟨0, 0, 0, 0, 0, fun _ => 0, fun i => vosMemPreallocate.getD i 0⟩

/-- `gMem` and the memory of the process. -/
structure Process where
  gMem : MemControl
  mem : Bytes

/-- What the system answers to a call: whether `vos_mutexLock` gets the mutex, and the pointer that
`malloc` returns.
-/
structure Env where
  lock : Bool
  malloc : Nat

variable (env : Env) (s : Process)

/-- `gMem.memCnt.allocErrCnt++`. -/
def Process.countAllocErr : Process :=
  { s with gMem.memCnt.allocErrCnt := s.gMem.memCnt.allocErrCnt + 1 }

/-- `gMem.memCnt.freeErrCnt++`. -/
def Process.countFreeErr : Process :=
  { s with gMem.memCnt.freeErrCnt := s.gMem.memCnt.freeErrCnt + 1 }

/-- `gMem.memSize == 0 && gMem.pArea == NULL`: the calls go to the heap of the C library. -/
def Process.StandardHeap : Prop := s.gMem.memSize = 0 ∧ s.gMem.pArea = 0

instance : Decidable s.StandardHeap := inferInstanceAs (Decidable (_ ∧ _))

-----------------------------------------------------------------------------------------
-- vos_memAlloc
-----------------------------------------------------------------------------------------

/-- The next multiple of `sizeof(UINT32)`, which is computed as a `size_t` and stored as a `UINT32`. -/
def adjustSize (size : U32) : U32 := BitVec.ofNat 32 ((size.toNat + 4 - 1) / 4 * 4)

/-- The first index with a block size that meets the test; `noOfBlocks` if there is none. -/
def MemControl.findSize (g : MemControl) (test : U32 → Bool) : Nat :=
  ((List.range g.noOfBlocks.toNat).find? fun i => test (g.freeBlock i).size).getD
    g.noOfBlocks.toNat

/-- The first index after `i` with a free block. -/
def MemControl.findBigger (g : MemControl) (i : Nat) : Option Nat :=
  (List.range g.noOfBlocks.toNat).find? fun j => i < j ∧ (g.freeBlock j).pFirst ≠ 0

/-- The area has room for another block of the `i`th size. -/
def MemControl.HasRoom (g : MemControl) (i : Nat) : Prop :=
  (g.allocSize + (g.freeBlock i).size).toNat + sizeofMemBlock < g.memSize.toNat

instance (g : MemControl) (i : Nat) : Decidable (g.HasRoom i) :=
  inferInstanceAs (Decidable (_ < _))

/-- Takes the first free block of the `i`th size out of its list. -/
def Process.unlink (i : Nat) : Process :=
  { s with
    gMem.freeBlock := Function.update s.gMem.freeBlock i
      { s.gMem.freeBlock i with pFirst := pNext s.mem (s.gMem.freeBlock i).pFirst } }

/-- Makes a block of the `i`th size from the start of the free area. -/
def Process.carve (i : Nat) : Process :=
  let blockSize := (s.gMem.freeBlock i).size
  { s with
    gMem.pFreeArea := s.gMem.pFreeArea + (sizeofMemBlock + blockSize.toNat)
    gMem.allocSize := s.gMem.allocSize + (blockSize + BitVec.ofNat 32 sizeofMemBlock)
    gMem.memCnt.blockCnt :=
      Function.update s.gMem.memCnt.blockCnt i (s.gMem.memCnt.blockCnt i + 1) }

/-- What `vos_memAlloc` does under the mutex: the block of the `i`th size, or of a bigger one, with
the size that it is; none if there is not enough memory.
-/
def Process.takeBlock (i : Nat) : Option (Nat × U32) × Process :=
  let block := s.gMem.freeBlock i
  if block.pFirst ≠ 0 then
    (some (block.pFirst, block.size), s.unlink i)
  else if s.gMem.HasRoom i then
    (some (s.gMem.pFreeArea, block.size), s.carve i)
  else
    match s.gMem.findBigger i with
    | some j => (some ((s.gMem.freeBlock j).pFirst, (s.gMem.freeBlock j).size), s.unlink j)
    | none => (none, s)

/-- What it does with the block afterwards: its header, the counters, and the cleared data. -/
def Process.handOut (pBlock : Nat) (blockSize : U32) : Nat × Process :=
  let freeSize := s.gMem.memCnt.freeSize - (blockSize + BitVec.ofNat 32 sizeofMemBlock)
  let minFreeSize := s.gMem.memCnt.minFreeSize
  (pBlock + sizeofMemBlock,
    { s with
      gMem.memCnt.freeSize := freeSize
      gMem.memCnt.minFreeSize := if freeSize < minFreeSize then freeSize else minFreeSize
      gMem.memCnt.allocCnt := s.gMem.memCnt.allocCnt + 1
      mem := fill (setSize s.mem pBlock blockSize) (pBlock + sizeofMemBlock) blockSize.toNat 0 })

/-- `vos_memAlloc`; the pointer is 0 for `NULL`. -/
def vosMemAlloc (size : U32) : Nat × Process :=
  if size = 0 then
    (0, s.countAllocErr)
  else if s.StandardHeap then
    (env.malloc, if env.malloc ≠ 0 then { s with mem := fill s.mem env.malloc size.toNat 0 } else s)
  else
    let i := s.gMem.findSize (adjustSize size ≤ ·)
    if i ≥ s.gMem.noOfBlocks.toNat then
      (0, s.countAllocErr)
    else if env.lock = false then
      (0, s.countAllocErr)
    else
      match s.takeBlock i with
      | (some (pBlock, blockSize), taken) => taken.handOut pBlock blockSize
      | (none, taken) => (0, taken.countAllocErr)

-----------------------------------------------------------------------------------------
-- vos_memFree
-----------------------------------------------------------------------------------------

/-- Puts a block first into the list of the `i`th size, and destroys the size in its header. -/
def Process.giveBack (i pBlock : Nat) : Process :=
  let blockSize := sizeOf s.mem pBlock
  { s with
    gMem.memCnt.freeSize :=
      s.gMem.memCnt.freeSize + (blockSize + BitVec.ofNat 32 sizeofMemBlock)
    gMem.memCnt.allocCnt := s.gMem.memCnt.allocCnt - 1
    gMem.freeBlock :=
      Function.update s.gMem.freeBlock i { s.gMem.freeBlock i with pFirst := pBlock }
    mem := setSize (setPNext s.mem pBlock (s.gMem.freeBlock i).pFirst) pBlock 0 }

/-- `vos_memFree`. -/
def vosMemFree (pMemBlock : Nat) : Process :=
  if pMemBlock = 0 then
    s.countFreeErr
  else if s.StandardHeap then
    s
  else if pMemBlock < s.gMem.pArea ∨ pMemBlock ≥ s.gMem.pArea + s.gMem.memSize.toNat then
    s.countFreeErr
  else if env.lock = false then
    s.countFreeErr
  else
    let pBlock := pMemBlock - sizeofMemBlock
    let i := s.gMem.findSize (sizeOf s.mem pBlock = ·)
    if i ≥ s.gMem.noOfBlocks.toNat then s.countFreeErr else s.giveBack i pBlock

-----------------------------------------------------------------------------------------
-- vos_memInit, vos_memCount
-----------------------------------------------------------------------------------------

/-- `VOS_ERR_T`, as far as these functions return it. -/
inductive VosErr
  | noErr
  | mutexErr
  | memErr
  | paramErr
  deriving DecidableEq, Repr

/-- Allocates blocks of one size into `p[j]`, `p[j + 1]` and so on, up to `count` of them; the first
failure ends it.
-/
def preAllocate (size : U32) : Nat → Nat → (Nat → Nat) × Process → (Nat → Nat) × Process
  | 0, _, state => state
  | count + 1, j, (p, s) =>
      let (pointer, allocated) := vosMemAlloc env s size
      let p := Function.update p j pointer
      if pointer = 0 then (p, allocated) else preAllocate size count (j + 1) (p, allocated)

/-- Frees `p[0]` to `p[max - 1]`, as far as they are set. -/
def freeAll (max : Nat) (p : Nat → Nat) : Process :=
  (List.range max).foldl (fun s j => if p j ≠ 0 then vosMemFree env s (p j) else s) s

/-- Prepares the list of the `i`th block size. The pointers `p` are those of all sizes before. -/
def initBlocks (state : (Nat → Nat) × Process) (i : Nat) : (Nat → Nat) × Process :=
  let (p, s) := state
  let s :=
    { s with gMem.freeBlock := Function.update s.gMem.freeBlock i ⟨blockSize i, 0⟩ }
  let max := min (s.gMem.memCnt.preAlloc i).toNat vosMemMaxPreallocate
  let (p, s) := preAllocate env (blockSize i) max 0 (p, s)
  (p, freeAll env s max p)

/-- The counters as `vos_memInit` starts with them. -/
def MemControl.restart (g : MemControl) (size : U32) : MemControl :=
  { g with
    memSize := size
    allocSize := 0
    noOfBlocks := 0
    memCnt.freeSize := size
    memCnt.minFreeSize := size
    memCnt.allocCnt := 0
    memCnt.allocErrCnt := 0
    memCnt.freeErrCnt := 0 }

/-- The blocks to allocate ahead, and the memory that they take, if `fragMem` asks for any. -/
def fragment (preAlloc : Nat → U32) : Option (Nat → U32) → (Nat → U32) × U32
  | none => (preAlloc, 0)
  | some fragMem =>
      if ∀ i ∈ List.range vosMemNBlockSizes, fragMem i = 0 then
        (preAlloc, 0)
      else
        (fun i => if i < vosMemNBlockSizes then fragMem i else preAlloc i,
          (List.range vosMemNBlockSizes).foldl (fun sum i => sum + fragMem i * blockSize i) 0)

/-- The empty area. No blocks are allocated ahead if they would take more than half of it. -/
def Process.emptyArea (pArea : Nat) (size minSize : U32) : Process :=
  { s with
    gMem.pArea := pArea
    gMem.pFreeArea := pArea
    gMem.noOfBlocks := BitVec.ofNat 32 vosMemNBlockSizes
    gMem.memSize := size
    gMem.memCnt.preAlloc := fun i =>
      if minSize > size / 2 ∧ i < vosMemNBlockSizes then 0 else s.gMem.memCnt.preAlloc i }

/-- The last part of `vos_memInit`: the empty area, and the blocks that are allocated ahead. -/
def Process.prepare (pArea : Nat) (size minSize : U32) : Process :=
  ((List.range vosMemNBlockSizes).foldl (initBlocks env)
    (fun _ => 0, s.emptyArea pArea size minSize)).2

/-- `vos_memInit`; `mutex` is whether the mutex is created. -/
def vosMemInit (mutex : Bool) (pMemoryArea : Nat) (size : U32) (fragMem : Option (Nat → U32))
    : VosErr × Process :=
  let s := { s with gMem := s.gMem.restart size }
  if mutex = false then
    (.mutexErr, s)
  else
    let (preAlloc, minSize) := fragment s.gMem.memCnt.preAlloc fragMem
    let s := { s with gMem.memCnt.preAlloc := preAlloc }
    if pMemoryArea = 0 ∧ size = 0 then
      (.noErr, { s with gMem.noOfBlocks := 0, gMem.memSize := 0, gMem.pArea := 0 })
    else if size = 0 then
      (.paramErr, s)
    else if pMemoryArea ≠ 0 then
      (.noErr, s.prepare env pMemoryArea size minSize)
    else if env.malloc = 0 then
      (.memErr, { s with gMem.pArea := 0 })
    else
      (.noErr, { s with gMem.wasMalloced := true }.prepare env env.malloc size minSize)

/-- `vos_memDelete`, whatever pointer it is given: `gMem` is cleared, also `preAlloc`. -/
def vosMemDelete : Process :=
  { s with gMem := { MemControl.initial with memCnt := ⟨0, 0, 0, 0, 0, fun _ => 0, fun _ => 0⟩ } }

/-- What `vos_memCount` returns. -/
structure MemCount where
  allocatedMemory : U32
  freeMemory : U32
  minFree : U32
  numAllocBlocks : U32
  numAllocErr : U32
  numFreeErr : U32
  blockSize : List U32
  usedBlockSize : List U32
  deriving DecidableEq, Repr

/-- `vos_memCount`. It stores the counters also where it has stored zeros before. -/
def vosMemCount : MemCount where
  allocatedMemory := s.gMem.memSize
  freeMemory := s.gMem.memCnt.freeSize
  minFree := s.gMem.memCnt.minFreeSize
  numAllocBlocks := s.gMem.memCnt.allocCnt
  numAllocErr := s.gMem.memCnt.allocErrCnt
  numFreeErr := s.gMem.memCnt.freeErrCnt
  blockSize := (List.range vosMemNBlockSizes).map fun i => (s.gMem.freeBlock i).size
  usedBlockSize := (List.range vosMemNBlockSizes).map s.gMem.memCnt.blockCnt

end TsnTrdp.Vos
