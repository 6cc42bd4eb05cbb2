import TsnTrdp.Vos.HeapCounters

/-! `vos_memInit` leaves an area that is divided soundly, with no block handed out. -/

namespace TsnTrdp.Vos

open TsnTrdp.Memory TsnTrdp.Chains

variable {n : Nat} {env : Env} {s : Process} {heap : Heap} {p : Nat → Nat} {i j count : Nat}

/-- How many blocks of a size are allocated ahead. -/
def ahead (preAlloc : Nat → U32) (i : Nat) : Nat := min (preAlloc i).toNat vosMemMaxPreallocate

/-- The bytes that a block of the `i`th size takes. -/
def blockBytes (i : Nat) : Nat := sizeofMemBlock + (blockSize i).toNat

/-- The bytes that the blocks of the first `n` sizes take that are allocated ahead. -/
def aheadBytes (preAlloc : Nat → U32) : Nat → Nat
  | 0 => 0
  | n + 1 => aheadBytes preAlloc n + ahead preAlloc n * blockBytes n

/-- What the allocations ahead leave alone: the setting, and the errors counted so far. -/
structure SameSetting (s s' : Process) : Prop where
  memSize : s'.gMem.memSize = s.gMem.memSize
  preAlloc : s'.gMem.memCnt.preAlloc = s.gMem.memCnt.preAlloc
  allocErrCnt : s'.gMem.memCnt.allocErrCnt = s.gMem.memCnt.allocErrCnt
  freeErrCnt : s'.gMem.memCnt.freeErrCnt = s.gMem.memCnt.freeErrCnt

theorem SameSetting.refl (s : Process) : SameSetting s s := ⟨rfl, rfl, rfl, rfl⟩

theorem SameSetting.trans {s s' s'' : Process} (first : SameSetting s s')
    (second : SameSetting s' s'')
    : SameSetting s s'' where
  memSize := second.memSize.trans first.memSize
  preAlloc := second.preAlloc.trans first.preAlloc
  allocErrCnt := second.allocErrCnt.trans first.allocErrCnt
  freeErrCnt := second.freeErrCnt.trans first.freeErrCnt

theorem adjustSize_blockSize : ∀ i < vosMemNBlockSizes, adjustSize (blockSize i) = blockSize i := by
  decide

/-- A block of the last size that is set up is made in the free area, if there is room. -/
theorem vosMemAlloc_last (sound : Sound (i + 1) s heap) (lock : env.lock = true)
    (empty : heap.free i = [])
    (room : s.gMem.allocSize.toNat + blockBytes i < s.gMem.memSize.toNat)
    : vosMemAlloc env s (blockSize i) = (s.carve i).handOut s.gMem.pFreeArea (blockSize i)
      ∧ Taken s heap ⟨s.gMem.pFreeArea, i⟩ (s.carve i) heap := by
  have all := sound.bound
  have bound : i < vosMemNBlockSizes := by omega
  have hasRoom : s.gMem.HasRoom i := by
    have size := sound.size i bound
    rw [if_pos (Nat.lt_succ_self i)] at size
    unfold MemControl.HasRoom
    rw [size, sound.toInv.allocSize_add bound]
    unfold blockBytes at room
    omega
  have fits := adjustSize_blockSize i bound
  refine ⟨?_, .carved empty hasRoom rfl⟩
  rcases sound.toInv.vosMemAlloc_cases (Nat.succ_pos i) env (blockSize i) with ⟨why, -⟩
      | ⟨-, -, b, taken, kept, less, big, taking, eq⟩
  · rcases why with zero | unlocked | exhausted
    · exact absurd (congrArg BitVec.toNat zero) (blockSize_bounds i bound).1.ne'
    · rw [lock] at unlocked
      cases unlocked
    · exact absurd hasRoom (exhausted i (Nat.lt_succ_self i) (by rw [fits])).2
  · have same : b.cls = i := by
      rw [fits] at big
      by_contra other
      exact absurd big (not_le.mpr (blockSize_lt i bound b.cls (by omega)))
    rw [eq]
    cases taking with
    | listed first =>
        rw [same, empty] at first
        cases first
    | carved empty room addr => rw [same, addr]

/-- Blocks of one size are allocated, one after the other, from an empty list. By induction on their
number: each is made in the free area.
-/
theorem preAllocate_spec (sound : Sound (i + 1) s heap) (lock : env.lock = true)
    (empty : heap.free i = [])
    (room : s.gMem.allocSize.toNat + count * blockBytes i < s.gMem.memSize.toNat)
    : ∃ added : List Block,
        Sound (i + 1) (preAllocate env (blockSize i) count j (p, s)).2
          { heap with live := added ++ heap.live }
        ∧ added.map Block.data = ((List.range' j count).map
            (preAllocate env (blockSize i) count j (p, s)).1).reverse
        ∧ (∀ k < j, (preAllocate env (blockSize i) count j (p, s)).1 k = p k)
        ∧ SameSetting s (preAllocate env (blockSize i) count j (p, s)).2
        ∧ (preAllocate env (blockSize i) count j (p, s)).2.gMem.allocSize.toNat
          = s.gMem.allocSize.toNat + count * blockBytes i := by
  induction count generalizing j s heap p with
  | zero => exact ⟨[], sound, rfl, fun k _ => rfl, .refl s, by simp [preAllocate]⟩
  | succ count ih =>
      rw [Nat.succ_mul] at room
      obtain ⟨eq, taking⟩ := vosMemAlloc_last sound lock empty (by omega)
      have next := sound.handOut_taken (b := ⟨s.gMem.pFreeArea, i⟩) (Nat.lt_succ_self i) taking
      have bytes : ((s.carve i).handOut s.gMem.pFreeArea (blockSize i)).2.gMem.allocSize.toNat
          = s.gMem.allocSize.toNat + blockBytes i := by
        have before := sound.total
        have after := next.total
        rw [Heap.blocks_add, extents_cons, before] at after
        exact after.symm.trans (Nat.add_comm _ _)
      have real : s.gMem.pFreeArea + sizeofMemBlock ≠ 0 := by
        unfold sizeofMemBlock
        omega
      obtain ⟨added, sound', pointers, earlier, setting, allocSize⟩ :=
        ih (j := j + 1) (p := Function.update p j (s.gMem.pFreeArea + sizeofMemBlock)) next empty
          (by
            rw [bytes]
            change _ < s.gMem.memSize.toNat
            omega)
      have step : preAllocate env (blockSize i) (count + 1) j (p, s)
          = preAllocate env (blockSize i) count (j + 1)
            (Function.update p j (s.gMem.pFreeArea + sizeofMemBlock),
              ((s.carve i).handOut s.gMem.pFreeArea (blockSize i)).2) := by
        rw [preAllocate, eq]
        exact if_neg real
      rw [step]
      have first : SameSetting s ((s.carve i).handOut s.gMem.pFreeArea (blockSize i)).2 :=
        ⟨rfl, rfl, rfl, rfl⟩
      refine ⟨added ++ [⟨s.gMem.pFreeArea, i⟩], ?_, ?_, ?_, first.trans setting, ?_⟩
      · rw [List.append_assoc]
        exact sound'
      · have here := earlier j (Nat.lt_succ_self j)
        rw [Function.update_self] at here
        rw [List.map_append, pointers, List.range'_succ]
        simp only [List.map_cons, List.map_nil, List.reverse_cons, here]
        rfl
      · intro k below
        rw [earlier k (by omega), Function.update_of_ne (by omega)]
      · rw [allocSize, bytes, Nat.succ_mul]
        omega

/-- The blocks that are handed out are given back, by their pointers. By induction on these. -/
theorem foldl_free_spec {pointers : List Nat} (sound : Sound n s heap) (lock : env.lock = true)
    (handed : (heap.live.map Block.data).Perm pointers)
    : ∃ free, Sound n (pointers.foldl (fun s p => if p ≠ 0 then vosMemFree env s p else s) s)
          ⟨[], free⟩
        ∧ SameSetting s (pointers.foldl (fun s p => if p ≠ 0 then vosMemFree env s p else s) s)
        ∧ (pointers.foldl (fun s p => if p ≠ 0 then vosMemFree env s p else s) s).gMem.allocSize
          = s.gMem.allocSize := by
  induction pointers generalizing s heap with
  | nil =>
      have none_live : heap.live = [] := List.map_eq_nil_iff.mp handed.eq_nil
      exact ⟨heap.free, none_live ▸ sound, .refl s, rfl⟩
  | cons pointer rest ih =>
      obtain ⟨b, live, rfl⟩ := List.mem_map.mp (handed.symm.subset List.mem_cons_self)
      have real : b.data ≠ 0 := by
        unfold Block.data sizeofMemBlock
        omega
      have freed : vosMemFree env s b.data = s.giveBack b.cls b.addr := by
        rw [sound.toInv.vosMemFree_live live, if_pos lock]
      have others : ((heap.release b).live.map Block.data).Perm rest := by
        have split := ((List.perm_cons_erase live).map Block.data).symm.trans handed
        exact List.Perm.cons_inv split
      rw [List.foldl_cons, if_pos real, freed]
      obtain ⟨free, sound', setting, allocSize⟩ := ih (sound.giveBack live) others
      have first : SameSetting s (s.giveBack b.cls b.addr) := ⟨rfl, rfl, rfl, rfl⟩
      exact ⟨free, sound', first.trans setting, allocSize⟩

/-- The list of the next size is empty. -/
theorem Inv.free_eq_nil_of_le (inv : Inv n s heap) (above : n ≤ i) : heap.free i = [] := by
  cases listed : heap.free i with
  | nil => rfl
  | cons b rest =>
      obtain ⟨-, less⟩ := inv.placed i b (by simp [listed])
      omega

/-- The next size is set up: its blocks are allocated and freed. -/
theorem initBlocks_spec {free : Nat → List Block} (sound : Sound i s ⟨[], free⟩)
    (lock : env.lock = true) (bound : i < vosMemNBlockSizes)
    (room : s.gMem.allocSize.toNat + ahead s.gMem.memCnt.preAlloc i * blockBytes i
      < s.gMem.memSize.toNat)
    : ∃ free', Sound (i + 1) (initBlocks env (p, s) i).2 ⟨[], free'⟩
        ∧ SameSetting s (initBlocks env (p, s) i).2
        ∧ (initBlocks env (p, s) i).2.gMem.allocSize.toNat
          = s.gMem.allocSize.toNat + ahead s.gMem.memCnt.preAlloc i * blockBytes i := by
  have empty : free i = [] := sound.toInv.free_eq_nil_of_le le_rfl
  set start : Process :=
    { s with gMem.freeBlock := Function.update s.gMem.freeBlock i ⟨blockSize i, 0⟩ } with start_eq
  have started : Sound (i + 1) start ⟨[], free⟩ := { sound with
    bound := bound
    size := by
      intro k less
      by_cases same : k = i
      · subst same
        simp [start]
      · have before := sound.size k less
        have order : k < i + 1 ↔ k < i := by omega
        simpa [start, same, order] using before
    cls := fun b member => by cases member
    placed := fun k b member => by
      obtain ⟨cls, less⟩ := sound.placed k b member
      exact ⟨cls, by omega⟩
    linked := by
      intro k less
      by_cases same : k = i
      · subst same
        simp only [start, Function.update_self, empty, List.map_nil]
        exact .nil
      · simpa [start, same] using sound.linked k less }
  obtain ⟨added, allocated, pointers, -, setting, allocSize⟩ :=
    preAllocate_spec (j := 0) (p := p) started lock empty room
  have handed : ((added ++ []).map Block.data).Perm ((List.range (ahead s.gMem.memCnt.preAlloc i)).map
      (preAllocate env (blockSize i) (ahead s.gMem.memCnt.preAlloc i) 0 (p, start)).1) := by
    rw [List.append_nil, pointers, List.range_eq_range']
    exact List.reverse_perm _
  obtain ⟨free', freed, setting', allocSize'⟩ := foldl_free_spec allocated lock handed
  rw [List.foldl_map] at freed setting' allocSize'
  have first : SameSetting s start := ⟨rfl, rfl, rfl, rfl⟩
  refine ⟨free', freed, (first.trans setting).trans setting', ?_⟩
  exact (congrArg BitVec.toNat allocSize').trans allocSize

/-- The sizes are set up one after the other. By induction on their number. -/
theorem foldl_initBlocks_spec {preAlloc : Nat → U32} (sound : Sound 0 s ⟨[], fun _ => []⟩)
    (lock : env.lock = true) (asked : s.gMem.memCnt.preAlloc = preAlloc)
    (start : s.gMem.allocSize = 0)
    (room : aheadBytes preAlloc vosMemNBlockSizes < s.gMem.memSize.toNat)
    (bound : n ≤ vosMemNBlockSizes)
    : ∃ free, Sound n ((List.range n).foldl (initBlocks env) (p, s)).2 ⟨[], free⟩
        ∧ SameSetting s ((List.range n).foldl (initBlocks env) (p, s)).2
        ∧ ((List.range n).foldl (initBlocks env) (p, s)).2.gMem.allocSize.toNat
          = aheadBytes preAlloc n := by
  have grows : ∀ k ≤ vosMemNBlockSizes,
      aheadBytes preAlloc k ≤ aheadBytes preAlloc vosMemNBlockSizes :=
    fun k le => monotone_nat_of_le_succ (fun _ => Nat.le_add_right _ _) le
  induction n with
  | zero => exact ⟨_, sound, .refl s, by simp [start, aheadBytes]⟩
  | succ n ih =>
      obtain ⟨free, before, setting, allocSize⟩ := ih (by omega)
      have preAlloc_eq := setting.preAlloc.trans asked
      rw [List.range_succ, List.foldl_append]
      have next := grows (n + 1) bound
      obtain ⟨free', after, setting', allocSize'⟩ := initBlocks_spec
        (p := ((List.range n).foldl (initBlocks env) (p, s)).1) before lock (by omega)
        (by
          rw [preAlloc_eq, allocSize, setting.memSize]
          exact lt_of_le_of_lt next room)
      rw [preAlloc_eq, allocSize] at allocSize'
      exact ⟨free', after, setting.trans setting', allocSize'⟩

/-- `gMem` as it is before `vos_memInit`, at first and after `vos_memDelete`: no lists, no blocks. -/
structure Untouched (g : MemControl) : Prop where
  freeBlock : ∀ i < vosMemNBlockSizes, g.freeBlock i = ⟨0, 0⟩
  blockCnt : ∀ i < vosMemNBlockSizes, g.memCnt.blockCnt i = 0

theorem vosMemDelete_untouched (s : Process) : Untouched (vosMemDelete s).gMem :=
  ⟨fun _ _ => rfl, fun _ _ => rfl⟩

/-- The blocks that `vos_memInit` allocates ahead: those of `fragMem`, or of `gMem` if it asks for
none, unless they would take more than half of the memory.
-/
def preAllocOf (g : MemControl) (size : U32) (fragMem : Option (Nat → U32)) (i : Nat) : U32 :=
  let (preAlloc, minSize) := fragment g.memCnt.preAlloc fragMem
  if minSize > size / 2 ∧ i < vosMemNBlockSizes then 0 else preAlloc i

/-- The memory that `vos_memInit` is given, or gets from the heap of the C library. -/
def areaOf (env : Env) (pMemoryArea : Nat) : Nat :=
  if pMemoryArea = 0 then env.malloc else pMemoryArea

/-- What a call of `vos_memInit` relies on: the memory is there and of less than 4 GB, `gMem` has not
been used, and there is room for the blocks that are allocated ahead.
-/
structure InitFits (env : Env) (g : MemControl) (pMemoryArea : Nat) (size : U32)
    (fragMem : Option (Nat → U32))
    : Prop where
  lock : env.lock = true
  area : areaOf env pMemoryArea ≠ 0
  space : areaOf env pMemoryArea + size.toNat ≤ 2 ^ 64
  small : size.toNat + 131072 < 2 ^ 32
  untouched : Untouched g
  ahead : aheadBytes (preAllocOf g size fragMem) vosMemNBlockSizes < size.toNat

/-- An empty area, with the counters as `vos_memInit` starts them. -/
structure Restarted (s : Process) (size : U32) : Prop where
  untouched : Untouched s.gMem
  allocSize : s.gMem.allocSize = 0
  freeSize : s.gMem.memCnt.freeSize = size
  minFreeSize : s.gMem.memCnt.minFreeSize = size
  allocCnt : s.gMem.memCnt.allocCnt = 0
  allocErrCnt : s.gMem.memCnt.allocErrCnt = 0
  freeErrCnt : s.gMem.memCnt.freeErrCnt = 0

theorem restarted_of_untouched {g : MemControl} (untouched : Untouched g) (size : U32)
    (preAlloc : Nat → U32) (mem : Bytes) (wasMalloced : Bool)
    : Restarted
        ⟨{ g.restart size with wasMalloced, memCnt.preAlloc := preAlloc }, mem⟩ size where
  untouched := ⟨untouched.freeBlock, untouched.blockCnt⟩
  allocSize := rfl
  freeSize := rfl
  minFreeSize := rfl
  allocCnt := rfl
  allocErrCnt := rfl
  freeErrCnt := rfl

/-- The area as `vos_memInit` leaves it: divided soundly, with no block handed out, and no error counted.
-/
structure Initialised (s : Process) (size : U32) : Prop where
  sound : ∃ free, Sound vosMemNBlockSizes s ⟨[], free⟩
  memSize : s.gMem.memSize = size
  allocErrCnt : s.gMem.memCnt.allocErrCnt = 0
  freeErrCnt : s.gMem.memCnt.freeErrCnt = 0

/-- From there on the area is divided soundly. -/
theorem prepare_sound {pArea : Nat} {size minSize : U32} (restarted : Restarted s size)
    (lock : env.lock = true) (area : pArea ≠ 0) (space : pArea + size.toNat ≤ 2 ^ 64)
    (small : size.toNat + 131072 < 2 ^ 32)
    (fits : aheadBytes (fun i => if minSize > size / 2 ∧ i < vosMemNBlockSizes then 0
      else s.gMem.memCnt.preAlloc i) vosMemNBlockSizes < size.toNat)
    : Initialised (s.prepare env pArea size minSize) size := by
  have no_blocks : (⟨[], fun _ => []⟩ : Heap).blocks = [] := by simp [Heap.blocks, entries]
  have sound : Sound 0 (s.emptyArea pArea size minSize) ⟨[], fun _ => []⟩ := {
    noOfBlocks := rfl
    pArea := area
    space := space
    memSize := small
    bound := Nat.zero_le _
    size := fun i less => by
      simp only [Process.emptyArea, restarted.untouched.freeBlock i less, Nat.not_lt_zero, if_false]
    cls := fun b member => by cases member
    placed := fun i b member => by cases member
    linked := fun i less => by
      simp only [Process.emptyArea, restarted.untouched.freeBlock i less, List.map_nil]
      exact .nil
    apart := by
      rw [no_blocks]
      exact .nil
    low := fun b member => by simp [no_blocks] at member
    high := fun b member => by simp [no_blocks] at member
    pFreeArea := by simp [Process.emptyArea, restarted.allocSize]
    room := by simp [Process.emptyArea, restarted.allocSize]
    header := fun b member => by cases member
    destroyed := fun i b member => by cases member
    total := by simp [Process.emptyArea, no_blocks, restarted.allocSize]
    freeSize := by simp [Process.emptyArea, restarted.freeSize]
    minFreeSize := by simp [Process.emptyArea, restarted.freeSize, restarted.minFreeSize]
    allocCnt := by simp [Process.emptyArea, restarted.allocCnt]
    blockCnt := fun i less => by
      simp [Process.emptyArea, no_blocks, countOf, restarted.untouched.blockCnt i less] }
  obtain ⟨free, final, setting, -⟩ := foldl_initBlocks_spec (p := fun _ => 0) sound lock rfl
    restarted.allocSize fits le_rfl
  unfold Process.prepare
  exact ⟨⟨free, final⟩, setting.memSize, setting.allocErrCnt.trans restarted.allocErrCnt,
    setting.freeErrCnt.trans restarted.freeErrCnt⟩

/-- `vos_memInit` ends with no error. -/
theorem vosMemInit_sound {pMemoryArea : Nat} {size : U32} {fragMem : Option (Nat → U32)}
    (fits : InitFits env s.gMem pMemoryArea size fragMem)
    : (vosMemInit env s true pMemoryArea size fragMem).1 = .noErr
      ∧ Initialised (vosMemInit env s true pMemoryArea size fragMem).2 size := by
  have positive : size ≠ 0 := by
    rintro rfl
    exact absurd fits.ahead (Nat.not_lt_zero _)
  have real := fits.area
  have space := fits.space
  have ahead := fits.ahead
  rcases asked : fragment s.gMem.memCnt.preAlloc fragMem with ⟨preAlloc, minSize⟩
  have asked_restarted : fragment (s.gMem.restart size).memCnt.preAlloc fragMem
      = (preAlloc, minSize) := asked
  have restarted := restarted_of_untouched fits.untouched size preAlloc s.mem
  unfold preAllocOf at ahead
  unfold areaOf at real space
  unfold vosMemInit
  rw [asked] at ahead
  by_cases given : pMemoryArea = 0
  · rw [if_pos given] at real space
    simp only [given, positive, real, asked_restarted, Bool.true_eq_false, and_false, if_false, ne_eq,
      not_true_eq_false]
    exact ⟨trivial, prepare_sound (restarted true) fits.lock real space fits.small ahead⟩
  · rw [if_neg given] at real space
    simp only [given, positive, asked_restarted, Bool.true_eq_false, and_false, if_false, ne_eq,
      not_false_eq_true, if_true]
    exact ⟨trivial, prepare_sound (restarted s.gMem.wasMalloced) fits.lock given space fits.small
      ahead⟩

end TsnTrdp.Vos
