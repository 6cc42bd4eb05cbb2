import Mathlib.Algebra.BigOperators.Group.List.Basic
import TsnTrdp.Lib.Chains
import TsnTrdp.Vos.Memory

/-! The blocks that the memory area is divided into, those that are handed out and those in the
lists, and the invariant that ties the headers and links in the area to them.
-/

namespace TsnTrdp.Vos

open TsnTrdp.Memory TsnTrdp.Chains
open scoped List

/-- A block of the area: where its header is, and the index of its size. -/
structure Block where
  addr : Nat
  cls : Nat
  deriving DecidableEq, Repr

namespace Block

def size (b : Block) : Nat := (blockSize b.cls).toNat

/-- The pointer that a caller gets. -/
def data (b : Block) : Nat := b.addr + sizeofMemBlock

/-- The bytes of the block, with its header. -/
def extent (b : Block) : Nat := sizeofMemBlock + b.size

/-- Two blocks do not overlap. -/
def Apart (b c : Block) : Prop := Memory.Apart b.addr b.extent c.addr c.extent

theorem Apart.symm {b c : Block} (apart : b.Apart c) : c.Apart b := Memory.Apart.symm apart

end Block

/-- The blocks that are handed out, and the lists of the others by their size. -/
structure Heap where
  live : List Block
  free : Nat → List Block

namespace Heap

/-- All blocks. -/
def blocks (heap : Heap) : List Block := heap.live ++ entries vosMemNBlockSizes heap.free

/-- A block is taken from the front of its list. -/
def unlink (heap : Heap) (b : Block) (rest : List Block) : Heap :=
  { heap with free := Function.update heap.free b.cls rest }

/-- A block is handed out. -/
def add (heap : Heap) (b : Block) : Heap := { heap with live := b :: heap.live }

/-- A block comes back. -/
def release (heap : Heap) (b : Block) : Heap where
  live := heap.live.erase b
  free := push heap.free b.cls b

variable {heap : Heap} {b : Block} {rest : List Block}

@[simp] theorem blocks_add : (heap.add b).blocks = b :: heap.blocks := rfl

theorem blocks_unlink (first : heap.free b.cls = b :: rest) (bound : b.cls < vosMemNBlockSizes)
    : (b :: (heap.unlink b rest).blocks).Perm heap.blocks := by
  have back : push (heap.unlink b rest).free b.cls b = heap.free := by
    simp [push, unlink, first.symm]
  have listed : (entries vosMemNBlockSizes (push (heap.unlink b rest).free b.cls b)).Perm
      (b :: entries vosMemNBlockSizes (heap.unlink b rest).free) := entries_push bound
  rw [back] at listed
  calc b :: (heap.unlink b rest).blocks
    _ ~ heap.live ++ b :: entries vosMemNBlockSizes (heap.unlink b rest).free :=
        List.perm_middle.symm
    _ ~ heap.blocks := List.Perm.append_left _ listed.symm

theorem blocks_release (live : b ∈ heap.live) (bound : b.cls < vosMemNBlockSizes)
    : (heap.release b).blocks.Perm heap.blocks := by
  have listed : (entries vosMemNBlockSizes (push heap.free b.cls b)).Perm
      (b :: entries vosMemNBlockSizes heap.free) := entries_push bound
  calc (heap.release b).blocks
    _ ~ heap.live.erase b ++ b :: entries vosMemNBlockSizes heap.free :=
        List.Perm.append_left _ listed
    _ ~ b :: (heap.live.erase b ++ entries vosMemNBlockSizes heap.free) := List.perm_middle
    _ ~ heap.blocks := (List.perm_cons_erase live).symm.append_right _

end Heap

/-- The blocks are in the area, and their headers and links are those of the lists. Of the block
sizes, the first `n` have been set up.
-/
structure Inv (n : Nat) (s : Process) (heap : Heap) : Prop where
  noOfBlocks : s.gMem.noOfBlocks.toNat = vosMemNBlockSizes
  pArea : s.gMem.pArea ≠ 0
  space : s.gMem.pArea + s.gMem.memSize.toNat ≤ 2 ^ 64
  memSize : s.gMem.memSize.toNat + 131072 < 2 ^ 32
  bound : n ≤ vosMemNBlockSizes
  size : ∀ i < vosMemNBlockSizes, (s.gMem.freeBlock i).size = if i < n then blockSize i else 0
  cls : ∀ b ∈ heap.live, b.cls < n
  placed : ∀ i, ∀ b ∈ heap.free i, b.cls = i ∧ i < n
  linked
    : ∀ i < vosMemNBlockSizes,
        Linked (pNext s.mem) (s.gMem.freeBlock i).pFirst ((heap.free i).map (·.addr))
  apart : heap.blocks.Pairwise Block.Apart
  low : ∀ b ∈ heap.blocks, s.gMem.pArea ≤ b.addr
  high : ∀ b ∈ heap.blocks, b.addr + b.extent ≤ s.gMem.pFreeArea
  pFreeArea : s.gMem.pFreeArea = s.gMem.pArea + s.gMem.allocSize.toNat
  room : s.gMem.allocSize.toNat ≤ s.gMem.memSize.toNat
  header : ∀ b ∈ heap.live, read s.mem b.addr 4 = b.size
  destroyed : ∀ i, ∀ b ∈ heap.free i, read s.mem b.addr 4 = 0

-----------------------------------------------------------------------------------------
-- Block sizes
-----------------------------------------------------------------------------------------

theorem blockSize_bounds : ∀ i < vosMemNBlockSizes, 0 < (blockSize i).toNat
    ∧ (blockSize i).toNat ≤ 131072 := by
  decide

/-- The block sizes grow. -/
theorem blockSize_lt : ∀ i < vosMemNBlockSizes, ∀ j < i, (blockSize j).toNat < (blockSize i).toNat := by
  decide

variable {n : Nat} {env : Env} {s : Process} {heap : Heap} {b c : Block} {rest : List Block}
  {size : U32} {i j : Nat}

/-- What the search for a size finds. -/
theorem findSize_lt {g : MemControl} {test : U32 → Bool}
    (found : g.findSize test < g.noOfBlocks.toNat)
    : test (g.freeBlock (g.findSize test)).size
      ∧ ∀ j < g.findSize test, ¬ test (g.freeBlock j).size := by
  unfold MemControl.findSize at *
  cases first : (List.range g.noOfBlocks.toNat).find? fun i => test (g.freeBlock i).size with
  | none => simp [first] at found
  | some i =>
      obtain ⟨meets, -, earlier⟩ := List.find?_range_eq_some.mp first
      exact ⟨by simpa using meets, fun j less => by simpa using earlier j less⟩

/-- The search finds a size if there is one. -/
theorem findSize_lt_iff {g : MemControl} {test : U32 → Bool}
    : g.findSize test < g.noOfBlocks.toNat
      ↔ ∃ i < g.noOfBlocks.toNat, test (g.freeBlock i).size := by
  unfold MemControl.findSize
  cases first : (List.range g.noOfBlocks.toNat).find? fun i => test (g.freeBlock i).size with
  | none =>
      have none_meets := List.find?_range_eq_none.mp first
      simp only [Option.getD_none, lt_irrefl, false_iff, not_exists, not_and]
      intro i bound
      simpa using none_meets i bound
  | some i =>
      obtain ⟨meets, bound, -⟩ := List.find?_range_eq_some.mp first
      have bound := List.mem_range.mp bound
      exact iff_of_true bound ⟨i, bound, by simpa using meets⟩

namespace Inv

/-- The search for the size of a block finds its index. -/
theorem findSize_eq (inv : Inv n s heap) (less : i < n)
    : s.gMem.findSize (blockSize i = ·) = i := by
  have all := inv.bound
  have there : s.gMem.findSize (blockSize i = ·) < s.gMem.noOfBlocks.toNat := by
    refine findSize_lt_iff.mpr ⟨i, by rw [inv.noOfBlocks]; omega, ?_⟩
    simp [inv.size i (by omega), less]
  have found := (findSize_lt there).1
  rw [inv.noOfBlocks] at there
  have eq : blockSize i = if s.gMem.findSize (blockSize i = ·) < n
      then blockSize (s.gMem.findSize (blockSize i = ·)) else 0 := by
    simpa [inv.size _ there] using found
  set j := s.gMem.findSize (blockSize i = ·)
  by_cases within : j < n
  · rw [if_pos within] at eq
    rcases lt_trichotomy i j with below | same | above
    · exact absurd (congrArg BitVec.toNat eq) (blockSize_lt j there i below).ne
    · exact same.symm
    · exact absurd (congrArg BitVec.toNat eq) (blockSize_lt i (by omega) j above).ne'
  · rw [if_neg within] at eq
    exact absurd (congrArg BitVec.toNat eq) (blockSize_bounds i (by omega)).1.ne'

theorem not_standardHeap (inv : Inv n s heap) : ¬ s.StandardHeap := fun both => inv.pArea both.2

/-- A sum of block sizes and the area does not wrap. -/
theorem allocSize_add (inv : Inv n s heap) (bound : i < vosMemNBlockSizes)
    : (s.gMem.allocSize + blockSize i).toNat = s.gMem.allocSize.toNat + (blockSize i).toNat := by
  have small := (blockSize_bounds i bound).2
  have fits := inv.memSize
  have room := inv.room
  rw [BitVec.toNat_add, Nat.mod_eq_of_lt]
  omega

-----------------------------------------------------------------------------------------
-- Blocks in memory
-----------------------------------------------------------------------------------------

/-- The list of a size starts with a block of it. -/
theorem free_of_pFirst (inv : Inv n s heap) (bound : i < vosMemNBlockSizes)
    (real : (s.gMem.freeBlock i).pFirst ≠ 0)
    : ∃ b rest, heap.free i = b :: rest ∧ b.cls = i ∧ i < n
        ∧ (s.gMem.freeBlock i).pFirst = b.addr := by
  obtain ⟨nodes, listed, -⟩ := (inv.linked i bound).eq_cons real
  cases blocks : heap.free i with
  | nil => simp [blocks] at listed
  | cons b rest =>
      obtain ⟨cls, less⟩ := inv.placed i b (by simp [blocks])
      rw [blocks, List.map_cons] at listed
      exact ⟨b, rest, rfl, cls, less, (List.cons.inj listed).1.symm⟩

/-- The list of a size is empty where it has no first block. -/
theorem free_eq_nil (inv : Inv n s heap) (bound : i < vosMemNBlockSizes)
    (null : (s.gMem.freeBlock i).pFirst = 0)
    : heap.free i = [] := by
  have linked := inv.linked i bound
  rw [null] at linked
  exact List.map_eq_nil_iff.mp linked.eq_nil

theorem mem_blocks_of_free (inv : Inv n s heap) (member : b ∈ heap.free i) : b ∈ heap.blocks := by
  obtain ⟨-, less⟩ := inv.placed i b member
  have all := inv.bound
  exact List.mem_append_right _ (mem_entries.mpr ⟨i, by omega, member⟩)

theorem mem_blocks_of_live (member : b ∈ heap.live) : b ∈ heap.blocks :=
  List.mem_append_left _ member

theorem addr_ne_zero (inv : Inv n s heap) (member : b ∈ heap.blocks) : b.addr ≠ 0 := by
  have real := inv.pArea
  have low := inv.low b member
  omega

end Inv

/-- A block keeps its header and its link where another block is written to. -/
theorem read_of_apart {mem mem' : Bytes} (same : ∀ x, ¬ In b.addr b.extent x → mem' x = mem x)
    (apart : b.Apart c)
    : read mem' c.addr 4 = read mem c.addr 4 ∧ pNext mem' c.addr = pNext mem c.addr := by
  have other : ∀ x, In c.addr sizeofMemBlock x → mem' x = mem x := by
    intro x inside
    refine same x (Memory.Apart.not_in apart ?_)
    unfold In Block.extent at *
    omega
  unfold pNext
  constructor
  all_goals
    refine read_congr fun x inside => other x ?_
    unfold In sizeofMemBlock at *
    omega

/-- Handing out a block writes to the block only. -/
theorem handOut_mem {x : Nat} (outside : ¬ In b.addr b.extent x)
    : (s.handOut b.addr (blockSize b.cls)).2.mem x = s.mem x := by
  have data : ¬ In (b.addr + sizeofMemBlock) (blockSize b.cls).toNat x := by
    unfold In Block.extent Block.size at *
    omega
  have size : ¬ In b.addr 4 x := by
    unfold In Block.extent sizeofMemBlock at *
    omega
  simp only [Process.handOut, fill_of_not_in data, setSize, write_of_not_in size]

/-- Giving a block back writes to its header only. -/
theorem giveBack_mem {x : Nat} (outside : ¬ In b.addr sizeofMemBlock x)
    : (s.giveBack i b.addr).mem x = s.mem x := by
  have size : ¬ In b.addr 4 x := by
    unfold In sizeofMemBlock at *
    omega
  have next : ¬ In (b.addr + 8) 8 x := by
    unfold In sizeofMemBlock at *
    omega
  simp only [Process.giveBack, setSize, setPNext, write_of_not_in size, write_of_not_in next]

/-- The header of a block that is handed out. -/
theorem handOut_header : read (s.handOut b.addr (blockSize b.cls)).2.mem b.addr 4 = b.size := by
  have apart : Memory.Apart (b.addr + sizeofMemBlock) (blockSize b.cls).toNat b.addr 4 := by
    unfold Memory.Apart sizeofMemBlock
    omega
  simp only [Process.handOut, read_fill_apart apart, setSize]
  exact read_write (blockSize b.cls).isLt

theorem giveBack_header
    : read (s.giveBack i b.addr).mem b.addr 4 = 0 := by
  simp only [Process.giveBack, setSize]
  exact read_write (by decide)

theorem giveBack_pNext (fits : (s.gMem.freeBlock i).pFirst < 2 ^ 64)
    : pNext (s.giveBack i b.addr).mem b.addr = (s.gMem.freeBlock i).pFirst := by
  have apart : Memory.Apart b.addr 4 (b.addr + 8) 8 := by
    unfold Memory.Apart
    omega
  simp only [pNext, Process.giveBack, setSize, read_write_apart apart, setPNext]
  exact read_write fits

-----------------------------------------------------------------------------------------
-- The steps of the calls keep the invariant
-----------------------------------------------------------------------------------------

namespace Inv

/-- The first block of a list is taken out of it. -/
theorem unlink (inv : Inv n s heap) (first : heap.free b.cls = b :: rest)
    : Inv n (s.unlink b.cls) (heap.unlink b rest) := by
  have member : b ∈ heap.free b.cls := by simp [first]
  have all := inv.bound
  have bound : b.cls < vosMemNBlockSizes := by
    have less := (inv.placed b.cls b member).2
    omega
  have perm := Heap.blocks_unlink first bound
  have kept : ∀ c ∈ (heap.unlink b rest).blocks, c ∈ heap.blocks := fun c inside =>
    perm.subset (List.mem_cons_of_mem b inside)
  have shorter : ∀ i, ∀ c ∈ (heap.unlink b rest).free i, c ∈ heap.free i := by
    intro i c inside
    by_cases same : i = b.cls
    · subst same
      rw [first]
      exact List.mem_cons_of_mem b (by simpa [Heap.unlink] using inside)
    · simpa [Heap.unlink, same] using inside
  have pairwise := (perm.pairwise_iff Block.Apart.symm).mpr inv.apart
  exact {
    noOfBlocks := inv.noOfBlocks
    pArea := inv.pArea
    space := inv.space
    memSize := inv.memSize
    bound := inv.bound
    size := by
      intro i less
      by_cases same : i = b.cls
      · subst same
        simpa [Process.unlink] using inv.size b.cls less
      · simpa [Process.unlink, same] using inv.size i less
    cls := inv.cls
    placed := fun i c inside => inv.placed i c (shorter i c inside)
    linked := by
      intro i less
      have linked := inv.linked i less
      by_cases same : i = b.cls
      · subst same
        rw [first, List.map_cons] at linked
        obtain ⟨nodes, eq, tail⟩ := linked.eq_cons fun null => by
          rw [null] at linked
          exact absurd linked.eq_nil (by simp)
        obtain ⟨-, rfl⟩ := List.cons.inj eq
        simpa [Process.unlink, Heap.unlink] using tail
      · simpa [Process.unlink, Heap.unlink, same] using linked
    apart := (List.pairwise_cons.mp pairwise).2
    low := fun c inside => inv.low c (kept c inside)
    high := fun c inside => inv.high c (kept c inside)
    pFreeArea := inv.pFreeArea
    room := inv.room
    header := inv.header
    destroyed := fun i c inside => inv.destroyed i c (shorter i c inside) }

/-- A block is made in the free area. -/
theorem carve (inv : Inv n s heap) (less : i < n) (room : s.gMem.HasRoom i)
    : Inv n (s.carve i) heap := by
  have all := inv.bound
  have size := inv.size i (by omega)
  rw [if_pos less] at size
  have sum := inv.allocSize_add (i := i) (by omega)
  unfold MemControl.HasRoom at room
  rw [size, sum] at room
  have fits := inv.memSize
  have allocSize : (s.carve i).gMem.allocSize.toNat
      = s.gMem.allocSize.toNat + ((blockSize i).toNat + sizeofMemBlock) := by
    simp only [Process.carve, size, BitVec.toNat_add, BitVec.toNat_ofNat]
    unfold sizeofMemBlock at *
    omega
  have pFreeArea : (s.carve i).gMem.pFreeArea
      = s.gMem.pFreeArea + (sizeofMemBlock + (blockSize i).toNat) := by
    simp only [Process.carve, size]
  exact { inv with
    high := fun c inside => by
      have high := inv.high c inside
      omega
    pFreeArea := by
      have start := inv.pFreeArea
      have area : (s.carve i).gMem.pArea = s.gMem.pArea := rfl
      omega
    room := by
      have area : (s.carve i).gMem.memSize = s.gMem.memSize := rfl
      rw [allocSize, area]
      omega }

/-- A block that is taken, or made, is handed out. -/
theorem handOut (inv : Inv n s heap) (less : b.cls < n) (apart : ∀ c ∈ heap.blocks, b.Apart c)
    (low : s.gMem.pArea ≤ b.addr) (high : b.addr + b.extent ≤ s.gMem.pFreeArea)
    : Inv n (s.handOut b.addr (blockSize b.cls)).2 (heap.add b) := by
  have kept : ∀ c ∈ heap.blocks, _ := fun c inside =>
    read_of_apart (fun x => handOut_mem (s := s) (b := b) (x := x)) (apart c inside)
  exact { inv with
    cls := by
      intro c inside
      rcases List.mem_cons.mp inside with rfl | old
      · exact less
      · exact inv.cls c old
    linked := by
      intro i bound
      refine (inv.linked i bound).congr fun node inside => ?_
      obtain ⟨c, member, rfl⟩ := List.mem_map.mp inside
      exact (kept c (inv.mem_blocks_of_free member)).2
    apart := List.pairwise_cons.mpr ⟨apart, inv.apart⟩
    low := by
      intro c inside
      rcases List.mem_cons.mp inside with rfl | old
      · exact low
      · exact inv.low c old
    high := by
      intro c inside
      rcases List.mem_cons.mp inside with rfl | old
      · exact high
      · exact inv.high c old
    header := by
      intro c inside
      rcases List.mem_cons.mp inside with rfl | old
      · exact handOut_header
      · rw [(kept c (mem_blocks_of_live old)).1]
        exact inv.header c old
    destroyed := by
      intro i c inside
      rw [(kept c (inv.mem_blocks_of_free inside)).1]
      exact inv.destroyed i c inside }

/-- A block comes back: it becomes the first of its list. -/
theorem giveBack (inv : Inv n s heap) (live : b ∈ heap.live)
    : Inv n (s.giveBack b.cls b.addr) (heap.release b) := by
  have all := inv.bound
  have less := inv.cls b live
  have bound : b.cls < vosMemNBlockSizes := by omega
  have perm := Heap.blocks_release live bound
  have placed : ∀ i, ∀ c ∈ (heap.release b).free i, i = b.cls ∧ c = b ∨ c ∈ heap.free i :=
    fun i c inside => mem_push.mp inside
  have pairwise := ((List.perm_cons_erase live).append_right
    (entries vosMemNBlockSizes heap.free)).pairwise_iff Block.Apart.symm |>.mp inv.apart
  have apart : ∀ c ∈ heap.live.erase b ++ entries vosMemNBlockSizes heap.free, b.Apart c :=
    (List.pairwise_cons.mp pairwise).1
  have kept : ∀ c, b.Apart c → _ := fun c apart => read_of_apart
    (fun x outside => giveBack_mem (s := s) (b := b) (i := b.cls) (x := x) fun inside =>
      outside (by unfold In Block.extent at *; omega)) apart
  have listed : ∀ i, ∀ c ∈ heap.free i, b.Apart c := by
    intro i c member
    obtain ⟨-, below⟩ := inv.placed i c member
    exact apart c (List.mem_append_right _ (mem_entries.mpr ⟨i, by omega, member⟩))
  exact { inv with
    size := by
      intro i below
      by_cases same : i = b.cls
      · subst same
        simpa [Process.giveBack] using inv.size b.cls below
      · simpa [Process.giveBack, same] using inv.size i below
    cls := fun c inside => inv.cls c (List.mem_of_mem_erase inside)
    placed := by
      intro i c inside
      rcases placed i c inside with ⟨rfl, rfl⟩ | old
      · exact ⟨rfl, less⟩
      · exact inv.placed i c old
    linked := by
      intro i below
      have linked := inv.linked i below
      by_cases same : i = b.cls
      · subst same
        have first : (s.gMem.freeBlock b.cls).pFirst < 2 ^ 64 := by
          by_cases null : (s.gMem.freeBlock b.cls).pFirst = 0
          · omega
          · obtain ⟨c, rest, eq, -, -, addr⟩ := inv.free_of_pFirst below null
            have high := inv.high c (inv.mem_blocks_of_free (i := b.cls) (by simp [eq]))
            have area := inv.pFreeArea
            have room := inv.room
            have space := inv.space
            unfold Block.extent sizeofMemBlock at high
            omega
        have real := inv.addr_ne_zero (mem_blocks_of_live live)
        have pushed := linked.push real (giveBack_pNext first) fun node inside => by
          obtain ⟨c, member, rfl⟩ := List.mem_map.mp inside
          exact (kept c (listed _ c member)).2
        simpa [Process.giveBack, Heap.release, push] using pushed
      · have same_list : Linked (pNext (s.giveBack b.cls b.addr).mem)
            (s.gMem.freeBlock i).pFirst ((heap.free i).map (·.addr)) :=
          linked.congr fun node inside => by
            obtain ⟨c, member, rfl⟩ := List.mem_map.mp inside
            exact (kept c (listed _ c member)).2
        simpa [Process.giveBack, Heap.release, push, same] using same_list
    apart := (perm.pairwise_iff Block.Apart.symm).mpr inv.apart
    low := fun c inside => inv.low c (perm.subset inside)
    high := fun c inside => inv.high c (perm.subset inside)
    header := by
      intro c inside
      rw [(kept c (apart c (List.mem_append_left _ inside))).1]
      exact inv.header c (List.mem_of_mem_erase inside)
    destroyed := by
      intro i c inside
      rcases placed i c inside with ⟨rfl, rfl⟩ | old
      · exact giveBack_header
      · rw [(kept c (listed i c old)).1]
        exact inv.destroyed i c old }

end Inv

-----------------------------------------------------------------------------------------
-- The calls
-----------------------------------------------------------------------------------------

/-- `vos_memAlloc` gets a block from the list of its size, or makes it in the free area. -/
inductive Taken (s : Process) (heap : Heap) (b : Block) : Process → Heap → Prop
  | listed {rest : List Block} (first : heap.free b.cls = b :: rest)
    : Taken s heap b (s.unlink b.cls) (heap.unlink b rest)
  | carved (empty : heap.free b.cls = []) (room : s.gMem.HasRoom b.cls)
    (addr : b.addr = s.gMem.pFreeArea)
    : Taken s heap b (s.carve b.cls) heap

/-- Nothing is left for a request of the size: neither free blocks nor room for one. -/
def Exhausted (n : Nat) (s : Process) (heap : Heap) (size : U32) : Prop :=
  ∀ i < n, (adjustSize size).toNat ≤ (blockSize i).toNat
    → heap.free i = [] ∧ ¬ s.gMem.HasRoom i

namespace Inv

variable {taken : Process} {kept : Heap}

/-- Room for a block is room for every smaller one. -/
theorem hasRoom_of_le (inv : Inv n s heap) (less : j < n) (le : i ≤ j) (room : s.gMem.HasRoom j)
    : s.gMem.HasRoom i := by
  have all := inv.bound
  have sizes : ∀ k ≤ j, (s.gMem.freeBlock k).size = blockSize k := fun k below => by
    rw [inv.size k (by omega), if_pos (by omega)]
  unfold MemControl.HasRoom at *
  rw [sizes i le, inv.allocSize_add (by omega)]
  rw [sizes j le_rfl, inv.allocSize_add (by omega)] at room
  rcases le.eq_or_lt with rfl | below
  · exact room
  · have smaller := blockSize_lt j (by omega) i below
    omega

/-- What is done under the mutex. -/
theorem takeBlock_cases (inv : Inv n s heap) (less : i < n)
    : (∃ b taken kept, i ≤ b.cls ∧ b.cls < n ∧ Taken s heap b taken kept
        ∧ s.takeBlock i = (some (b.addr, blockSize b.cls), taken))
      ∨ ((∀ j, i ≤ j → j < n → heap.free j = [] ∧ ¬ s.gMem.HasRoom j)
        ∧ s.takeBlock i = (none, s)) := by
  have all := inv.bound
  have size : ∀ j < n, (s.gMem.freeBlock j).size = blockSize j := fun j below => by
    rw [inv.size j (by omega), if_pos below]
  unfold Process.takeBlock
  by_cases listed : (s.gMem.freeBlock i).pFirst = 0
  · have empty := inv.free_eq_nil (by omega) listed
    by_cases room : s.gMem.HasRoom i
    · refine .inl ⟨⟨s.gMem.pFreeArea, i⟩, _, _, le_rfl, less, .carved empty room rfl, ?_⟩
      simp [listed, room, size i less]
    · cases bigger : s.gMem.findBigger i with
      | some j =>
          obtain ⟨meets, bound, -⟩ := List.find?_range_eq_some.mp bigger
          have bound := List.mem_range.mp bound
          rw [inv.noOfBlocks] at bound
          simp only [decide_eq_true_eq] at meets
          obtain ⟨b, rest, first, rfl, below, addr⟩ := inv.free_of_pFirst bound meets.2
          refine .inl ⟨b, _, _, meets.1.le, below, .listed first, ?_⟩
          simp [listed, room, addr, size b.cls below]
      | none =>
          have none_free := List.find?_range_eq_none.mp bigger
          refine .inr ⟨fun j le below => ⟨?_, fun more => room (inv.hasRoom_of_le below le more)⟩,
            by simp [listed, room]⟩
          rcases le.eq_or_lt with rfl | above
          · exact empty
          · have null := none_free j (by rw [inv.noOfBlocks]; omega)
            exact inv.free_eq_nil (by omega) (by simpa [above] using null)
  · obtain ⟨b, rest, first, rfl, below, addr⟩ := inv.free_of_pFirst (by omega) listed
    refine .inl ⟨b, _, _, le_rfl, below, .listed first, ?_⟩
    rw [if_pos listed, addr, size b.cls below]

/-- `vos_memAlloc` returns `NULL` and counts an error, or hands out a block that is big enough. -/
theorem vosMemAlloc_cases (inv : Inv n s heap) (pos : 0 < n) (env : Env) (size : U32)
    : ((size = 0 ∨ env.lock = false ∨ Exhausted n s heap size)
        ∧ vosMemAlloc env s size = (0, s.countAllocErr))
      ∨ (size ≠ 0 ∧ env.lock = true ∧ ∃ b taken kept, b.cls < n
        ∧ (adjustSize size).toNat ≤ b.size ∧ Taken s heap b taken kept
        ∧ vosMemAlloc env s size = taken.handOut b.addr (blockSize b.cls)) := by
  have all := inv.bound
  unfold vosMemAlloc
  by_cases zero : size = 0
  · exact .inl ⟨.inl zero, by simp [zero]⟩
  simp only [zero, inv.not_standardHeap, if_false]
  have sizes : ∀ j < n, (s.gMem.freeBlock j).size = blockSize j := fun j below => by
    rw [inv.size j (by omega), if_pos below]
  by_cases found : s.gMem.findSize (adjustSize size ≤ ·) < s.gMem.noOfBlocks.toNat
  · simp only [ge_iff_le, not_le.mpr found, if_false]
    obtain ⟨meets, earlier⟩ := findSize_lt found
    simp only [decide_eq_true_eq, BitVec.le_def] at meets earlier
    rw [inv.noOfBlocks] at found
    generalize s.gMem.findSize (adjustSize size ≤ ·) = i at *
    have less : i < n := by
      by_contra beyond
      rw [inv.size i found, if_neg beyond] at meets
      exact earlier 0 (by omega) (meets.trans (Nat.zero_le _))
    rw [sizes i less] at meets
    cases lock : env.lock with
    | false => exact .inl ⟨.inr (.inl rfl), by simp⟩
    | true =>
        simp only [Bool.true_eq_false, if_false]
        rcases inv.takeBlock_cases less with ⟨b, taken, kept, le, below, taking, eq⟩ | ⟨none_left, eq⟩
        · rw [eq]
          refine .inr ⟨zero, trivial, b, taken, kept, below, meets.trans ?_, taking, rfl⟩
          rcases le.eq_or_lt with rfl | above
          · exact le_rfl
          · exact (blockSize_lt b.cls (by omega) i above).le
        · rw [eq]
          refine .inl ⟨.inr (.inr fun j below fits => none_left j ?_ below), rfl⟩
          by_contra smaller
          exact earlier j (by omega) (by rwa [sizes j below])
  · refine .inl ⟨.inr (.inr fun j below fits => ?_), by simp [not_lt.mp found]⟩
    refine absurd (findSize_lt_iff.mpr ⟨j, by rw [inv.noOfBlocks]; omega, ?_⟩) found
    rw [sizes j below, decide_eq_true_eq]
    exact fits

/-- A block that is taken is apart from the others, and can be handed out. -/
theorem handOut_taken (inv : Inv n s heap) (less : b.cls < n) (taking : Taken s heap b taken kept)
    : Inv n (taken.handOut b.addr (blockSize b.cls)).2 (kept.add b) := by
  have all := inv.bound
  cases taking with
  | listed first =>
      have member := inv.mem_blocks_of_free (b := b) (i := b.cls) (by simp [first])
      have pairwise := ((Heap.blocks_unlink first (by omega)).pairwise_iff Block.Apart.symm).mpr
        inv.apart
      exact (inv.unlink first).handOut less (List.pairwise_cons.mp pairwise).1 (inv.low b member)
        (inv.high b member)
  | carved empty room addr =>
      have size := inv.size b.cls (by omega)
      rw [if_pos less] at size
      have area := inv.pFreeArea
      refine (inv.carve less room).handOut less (fun c member => ?_) ?_ ?_
      · have high := inv.high c member
        exact .inr (by rw [addr]; exact high)
      · rw [addr, area]
        exact Nat.le_add_right _ _
      · simp only [Process.carve, size, addr, Block.extent, Block.size]
        exact le_rfl

/-- The data of a block that is handed out lie in the area. -/
theorem data_bounds (inv : Inv n s heap) (member : b ∈ heap.blocks) (less : b.cls < n)
    : s.gMem.pArea + sizeofMemBlock ≤ b.data ∧ b.data < s.gMem.pArea + s.gMem.memSize.toNat
      ∧ b.data + b.size ≤ s.gMem.pArea + s.gMem.memSize.toNat := by
  have all := inv.bound
  have low := inv.low b member
  have high := inv.high b member
  have area := inv.pFreeArea
  have room := inv.room
  have positive := (blockSize_bounds b.cls (by omega)).1
  unfold Block.extent Block.size at high
  unfold Block.data Block.size
  omega

/-- The size in the header of a block that is handed out. -/
theorem sizeOf_live (inv : Inv n s heap) (live : b ∈ heap.live)
    : sizeOf s.mem b.addr = blockSize b.cls := by
  rw [sizeOf, inv.header b live]
  exact BitVec.ofNat_toNat ..

/-- `vos_memFree` gives a block back that is handed out. -/
theorem vosMemFree_live (inv : Inv n s heap) (live : b ∈ heap.live)
    : vosMemFree env s b.data
      = if env.lock = true then s.giveBack b.cls b.addr else s.countFreeErr := by
  have all := inv.bound
  have less := inv.cls b live
  obtain ⟨low, high, -⟩ := inv.data_bounds (mem_blocks_of_live live) less
  have real := inv.pArea
  have size := inv.sizeOf_live live
  have found : ¬ b.cls ≥ s.gMem.noOfBlocks.toNat := by
    rw [inv.noOfBlocks]
    omega
  have outside : ¬ (b.data < s.gMem.pArea ∨ b.data ≥ s.gMem.pArea + s.gMem.memSize.toNat) := by
    omega
  have null : b.data ≠ 0 := by omega
  have addr : b.data - sizeofMemBlock = b.addr := Nat.add_sub_cancel _ _
  unfold vosMemFree
  rw [if_neg null, if_neg inv.not_standardHeap, if_neg outside, addr]
  simp only [size, inv.findSize_eq less, if_neg found]
  cases env.lock <;> rfl

/-- A block that has been freed is refused, once all sizes are set up. -/
theorem vosMemFree_free (inv : Inv vosMemNBlockSizes s heap) (free : b ∈ heap.free i)
    : vosMemFree env s b.data = s.countFreeErr := by
  obtain ⟨low, high, -⟩ := inv.data_bounds (inv.mem_blocks_of_free free)
    (by obtain ⟨cls, less⟩ := inv.placed i b free; omega)
  have real := inv.pArea
  have addr : b.data - sizeofMemBlock = b.addr := Nat.add_sub_cancel _ _
  have none_found : s.gMem.findSize (sizeOf s.mem b.addr = ·) ≥ s.gMem.noOfBlocks.toNat := by
    refine not_lt.mp fun found => ?_
    obtain ⟨j, below, same⟩ := findSize_lt_iff.mp found
    rw [inv.noOfBlocks] at below
    rw [inv.size j below, if_pos below, sizeOf, inv.destroyed i b free] at same
    have positive := (blockSize_bounds j below).1
    have zero := congrArg BitVec.toNat (of_decide_eq_true same)
    rw [BitVec.toNat_ofNat] at zero
    omega
  have outside : ¬ (b.data < s.gMem.pArea ∨ b.data ≥ s.gMem.pArea + s.gMem.memSize.toNat) := by
    omega
  have null : b.data ≠ 0 := by omega
  unfold vosMemFree
  rw [if_neg null, if_neg inv.not_standardHeap, if_neg outside, addr]
  simp only [none_found, if_true, ite_self]

/-- A pointer to somewhere outside the area is counted as an error. -/
theorem vosMemFree_foreign (inv : Inv n s heap) {p : Nat}
    (foreign : p < s.gMem.pArea ∨ s.gMem.pArea + s.gMem.memSize.toNat ≤ p)
    : vosMemFree env s p = s.countFreeErr := by
  unfold vosMemFree
  rw [if_neg inv.not_standardHeap, if_pos foreign, ite_self]

end Inv

end TsnTrdp.Vos
