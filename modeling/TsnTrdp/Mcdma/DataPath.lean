import Mathlib.Data.List.Perm.Basic
import TsnTrdp.Mcdma.RingMemory

/-! Opening and closing the data path: who owns the memory of the descriptor rings.
An open to which the kernel grants everything builds each queue's ring from blocks that no
other queue owns, and closing frees what the queues own, each block once.
-/

namespace TsnTrdp.Mcdma.Rings

open TsnTrdp.Run TsnTrdp.Blocks

/-- A queue's ring in one direction. -/
inductive Part
  | tx (q : Nat)
  | rx (q : Nat)
  deriving DecidableEq, Repr

def AxienetLocal.parts (lp : AxienetLocal) : List Part :=
  (List.range lp.numTxQueues).map .tx ++ (List.range lp.numRxQueues).map .rx

/-- The blocks that a part's pointers lead to, in the order in which they are freed. -/
def AxienetLocal.owned (lp : AxienetLocal) : Part → List Nat
  | .tx q => (lp.dq q).txqBdV.toList ++ (lp.dq q).txBufs.toList
  | .rx q =>
      match (lp.dq q).rxqBdV with
      | some ring => ((ringBds lp.heap ring).elim [] ringSkbs) ++ [ring]
      | none => []

/-- The ring is allocated: with its copy buffers where the hardware needs them, or with a
mapped socket buffer in every descriptor.
-/
def AxienetLocal.Ready (lp : AxienetLocal) : Part → Prop
  | .tx q =>
      ∃ ring, (lp.dq q).txqBdV = some ring ∧ lp.heap.block ring = some .txRing
        ∧ if (lp.dq q).ethHasdre then (lp.dq q).txBufs = none
          else ∃ bufs, (lp.dq q).txBufs = some bufs ∧ lp.heap.block bufs = some .txBufs
  | .rx q =>
      ∃ ring bds, (lp.dq q).rxqBdV = some ring ∧ lp.heap.block ring = some (.rxRing bds)
        ∧ ∀ i < rxBdNum, ∃ skb, bds i = ⟨some skb, some skb⟩ ∧ lp.heap.block skb = some .skb

/-- Every queue has a complete ring, and no two share a block. -/
structure AxienetLocal.Complete (lp : AxienetLocal) : Prop where
  ready : ∀ part ∈ lp.parts, lp.Ready part
  nodup : (lp.parts.flatMap lp.owned).Nodup

-----------------------------------------------------------------------------------------
-- Freeing what the queues own
-----------------------------------------------------------------------------------------

theorem ringBds_eq {heap : Heap Block} {ring : Nat} {bds : Nat → RingBd}
    (found : heap.block ring = some (.rxRing bds))
    : ringBds heap ring = some bds := by
  simp [ringBds, found]

theorem mem_ringSkbs {bds : Nat → RingBd} {a : Nat}
    : a ∈ ringSkbs bds ↔ ∃ i < rxBdNum, (bds i).swIdOffset = some a := by
  simp [ringSkbs]

theorem AxienetLocal.owned_rx {lp : AxienetLocal} {q ring : Nat} {bds : Nat → RingBd}
    (pointer : (lp.dq q).rxqBdV = some ring) (found : lp.heap.block ring = some (.rxRing bds))
    : lp.owned (.rx q) = ringSkbs bds ++ [ring] := by
  simp [owned, pointer, ringBds_eq found]

/-- What a complete ring owns is allocated. -/
theorem AxienetLocal.Ready.allocated {lp : AxienetLocal} {part : Part} (ready : lp.Ready part)
    : ∀ a ∈ lp.owned part, (lp.heap.block a).isSome := by
  intro a member
  cases part with
  | tx q =>
      obtain ⟨ring, pointer, found, bufs⟩ := ready
      rcases List.mem_append.mp member with isRing | isBufs
      · rw [pointer] at isRing
        rw [List.mem_singleton.mp isRing, found]
        rfl
      · split at bufs
        · rw [bufs] at isBufs
          cases isBufs
        · obtain ⟨copies, pointer, found⟩ := bufs
          rw [pointer] at isBufs
          rw [List.mem_singleton.mp isBufs, found]
          rfl
  | rx q =>
      obtain ⟨ring, bds, pointer, found, full⟩ := ready
      rw [owned_rx pointer found] at member
      rcases List.mem_append.mp member with isSkb | isRing
      · obtain ⟨i, inRing, held⟩ := mem_ringSkbs.mp isSkb
        obtain ⟨skb, filled, found⟩ := full i inRing
        rw [filled] at held
        rw [← Option.some.inj held, found]
        rfl
      · rw [List.mem_singleton.mp isRing, found]
        rfl

/-- The pointers of a part are what they were. -/
def SamePointers (lp next : AxienetLocal) : Part → Prop
  | .tx q =>
      (next.dq q).txqBdV = (lp.dq q).txqBdV ∧ (next.dq q).txBufs = (lp.dq q).txBufs
        ∧ (next.dq q).ethHasdre = (lp.dq q).ethHasdre
  | .rx q => (next.dq q).rxqBdV = (lp.dq q).rxqBdV

theorem samePointers_heap (lp : AxienetLocal) (heap : Heap Block) (part : Part)
    : SamePointers lp { lp with heap } part := by
  cases part with
  | tx q => exact ⟨rfl, rfl, rfl⟩
  | rx q => rfl

/-- A complete ring whose pointers and blocks are what they were is what it was. -/
theorem AxienetLocal.Ready.frame {lp next : AxienetLocal} {part : Part} (ready : lp.Ready part)
    (same : SamePointers lp next part)
    (kept : ∀ a ∈ lp.owned part, next.heap.block a = lp.heap.block a)
    : next.Ready part ∧ next.owned part = lp.owned part := by
  cases part with
  | tx q =>
      obtain ⟨ring, pointer, found, bufs⟩ := ready
      obtain ⟨sameRing, sameBufs, sameDre⟩ := same
      have ringKept := kept ring (by simp [owned, pointer])
      refine ⟨⟨ring, sameRing.trans pointer, ringKept.trans found, ?_⟩, ?_⟩
      · rw [sameDre, sameBufs]
        split at bufs
        · rw [if_pos ‹_›]
          exact bufs
        · obtain ⟨copies, pointer, found⟩ := bufs
          rw [if_neg ‹_›]
          exact ⟨copies, pointer, (kept copies (by simp [owned, pointer])).trans found⟩
      · simp only [owned, sameRing, sameBufs]
  | rx q =>
      obtain ⟨ring, bds, pointer, found, full⟩ := ready
      rw [owned_rx pointer found] at kept ⊢
      have pointer' : (next.dq q).rxqBdV = some ring := same.trans pointer
      have found' : next.heap.block ring = some (.rxRing bds) :=
        (kept ring (by simp)).trans found
      refine ⟨⟨ring, bds, pointer', found', fun i inRing => ?_⟩, owned_rx pointer' found'⟩
      obtain ⟨skb, filled, found⟩ := full i inRing
      have member : skb ∈ ringSkbs bds := mem_ringSkbs.mpr ⟨i, inRing, by rw [filled]⟩
      exact ⟨skb, filled, (kept skb (List.mem_append_left _ member)).trans found⟩

def freePart (lp : AxienetLocal) : Part → Option AxienetLocal
  | .tx q => axienetMcdmaTxBdFree lp q
  | .rx q => axienetMcdmaRxBdFree lp q

/-- Freeing a complete ring frees what it owns. -/
theorem freePart_ready {lp : AxienetLocal} {part : Part} (ready : lp.Ready part)
    (nodup : (lp.owned part).Nodup)
    : freePart lp part = some { lp with heap := lp.heap.without (lp.owned part) } := by
  have freed := Heap.freeAll_of_nodup nodup ready.allocated
  cases part with
  | tx q =>
      rw [AxienetLocal.owned, Heap.freeAll_append] at freed
      obtain ⟨first, ringFreed, bufsFreed⟩ := Option.bind_eq_some_iff.mp freed
      simp [freePart, axienetMcdmaTxBdFree, ringFreed, bufsFreed, AxienetLocal.owned]
  | rx q =>
      obtain ⟨ring, bds, pointer, found, -⟩ := ready
      rw [AxienetLocal.owned_rx pointer found] at freed ⊢
      rw [Heap.freeAll_append] at freed
      obtain ⟨first, skbsFreed, ringFreed⟩ := Option.bind_eq_some_iff.mp freed
      have ringFreed : first.free ring = some (lp.heap.without (ringSkbs bds ++ [ring])) := by
        simpa [Heap.freeAll] using ringFreed
      simp [freePart, axienetMcdmaRxBdFree, pointer, ringBds_eq found, skbsFreed, ringFreed]

/-- Freeing complete rings that share no block frees what they own, by induction on them: a
later ring is still complete once the first has been freed.
-/
theorem freeParts_ready {lp : AxienetLocal} {parts : List Part}
    (ready : ∀ part ∈ parts, lp.Ready part) (nodup : (parts.flatMap lp.owned).Nodup)
    : parts.foldlM freePart lp
      = some { lp with heap := lp.heap.without (parts.flatMap lp.owned) } := by
  induction parts generalizing lp with
  | nil =>
      rw [List.flatMap_nil, Heap.without_nil]
      rfl
  | cons part rest ih =>
      rw [List.flatMap_cons] at nodup ⊢
      obtain ⟨here, later, apart⟩ := List.nodup_append.mp nodup
      let next : AxienetLocal := { lp with heap := lp.heap.without (lp.owned part) }
      have first : freePart lp part = some next :=
        freePart_ready (ready part List.mem_cons_self) here
      have frame : ∀ other ∈ rest, next.Ready other ∧ next.owned other = lp.owned other := by
        intro other member
        refine (ready other (List.mem_cons_of_mem _ member)).frame
          (samePointers_heap lp _ other) fun a mine => ?_
        have elsewhere : a ∉ lp.owned part := fun theirs =>
          apart a theirs a (List.mem_flatMap.mpr ⟨other, member, mine⟩) rfl
        rw [Heap.block_without, if_neg elsewhere]
      have same : rest.flatMap next.owned = rest.flatMap lp.owned :=
        List.flatMap_congr fun other member => (frame other member).2
      have remaining := ih (fun other member => (frame other member).1) (same ▸ later)
      rw [same] at remaining
      rw [List.foldlM_cons, first, Option.bind_eq_bind, Option.bind_some, remaining]
      simp [next, Heap.without_append]

/-- Closing a data path whose rings are complete frees what they own, each block once. -/
theorem tsnDataPathClose_complete {lp : AxienetLocal} (complete : lp.Complete)
    : tsnDataPathClose lp
      = some { lp with heap := lp.heap.without (lp.parts.flatMap lp.owned) } := by
  have all := freeParts_ready complete.ready complete.nodup
  have nodup := complete.nodup
  rw [AxienetLocal.parts, List.flatMap_append] at nodup
  have tx := freeParts_ready
    (fun part member => complete.ready part (List.mem_append_left _ member))
    (List.nodup_append.mp nodup).1
  rw [AxienetLocal.parts, List.foldlM_append, tx] at all
  rw [List.foldlM_map] at tx
  have txFreed : freeTxQueues lp = _ := tx
  have rxFreed := (List.foldlM_map ..).symm.trans all
  rw [tsnDataPathClose, axienetDmaBdRelease, txFreed]
  exact rxFreed

-----------------------------------------------------------------------------------------
-- Building the rings
-----------------------------------------------------------------------------------------

/-- What no call changes of a device: the numbers of its queues and their hardware, and that
queues which need no copy buffers have none.
-/
structure SameDevice (lp next : AxienetLocal) : Prop where
  numTx : next.numTxQueues = lp.numTxQueues
  numRx : next.numRxQueues = lp.numRxQueues
  hasdre : ∀ q, (next.dq q).ethHasdre = (lp.dq q).ethHasdre
  noBufs : ∀ q, (lp.dq q).ethHasdre → (lp.dq q).txBufs = none → (next.dq q).txBufs = none

theorem SameDevice.refl (lp : AxienetLocal) : SameDevice lp lp :=
  ⟨rfl, rfl, fun _ => rfl, fun _ _ none => none⟩

theorem SameDevice.trans {lp next last : AxienetLocal} (first : SameDevice lp next)
    (second : SameDevice next last)
    : SameDevice lp last where
  numTx := second.numTx.trans first.numTx
  numRx := second.numRx.trans first.numRx
  hasdre := fun q => (second.hasdre q).trans (first.hasdre q)
  noBufs := fun q hasdre none =>
    second.noBufs q ((first.hasdre q).trans hasdre) (first.noBufs q hasdre none)

/-- A call builds a part from new blocks and leaves the other parts and the old blocks alone. -/
structure Builds (lp next : AxienetLocal) (part : Part) : Prop where
  device : SameDevice lp next
  grows : lp.heap.Extends next.heap
  others : ∀ other, other ≠ part → SamePointers lp next other
  ready : next.Ready part
  nodup : (next.owned part).Nodup
  fresh : ∀ a, lp.heap.next ≤ a → ((next.heap.block a).isSome ↔ a ∈ next.owned part)
  new : ∀ a ∈ next.owned part, lp.heap.next ≤ a

/-- Some parts have been built since a start: they are complete and share no block, and they own
what has been allocated since then.
-/
structure Building (start lp : AxienetLocal) (parts : List Part) : Prop where
  device : SameDevice start lp
  grows : start.heap.Extends lp.heap
  ready : ∀ part ∈ parts, lp.Ready part
  nodup : (parts.flatMap lp.owned).Nodup
  fresh : ∀ a, start.heap.next ≤ a → ((lp.heap.block a).isSome ↔ a ∈ parts.flatMap lp.owned)
  new : ∀ a ∈ parts.flatMap lp.owned, start.heap.next ≤ a

theorem Building.nil (start : AxienetLocal) : Building start start [] where
  device := .refl start
  grows := .refl _
  ready := by simp
  nodup := by simp
  fresh := by
    intro a beyond
    simp [start.heap.unused a beyond]
  new := by simp

/-- Building one more part leaves those built before as they were. -/
theorem Building.snoc {start lp next : AxienetLocal} {parts : List Part} {part : Part}
    (building : Building start lp parts) (builds : Builds lp next part) (absent : part ∉ parts)
    : Building start next (parts ++ [part]) := by
  have old : ∀ other ∈ parts, ∀ a ∈ lp.owned other, a < lp.heap.next :=
    fun other member a mine => Heap.lt_next ((building.ready other member).allocated a mine)
  have frame : ∀ other ∈ parts, next.Ready other ∧ next.owned other = lp.owned other := by
    intro other member
    have different : other ≠ part := fun same => absent (same ▸ member)
    exact (building.ready other member).frame (builds.others other different)
      fun a mine => builds.grows.kept a (old other member a mine)
  have same : (parts ++ [part]).flatMap next.owned
      = parts.flatMap lp.owned ++ next.owned part := by
    rw [List.flatMap_append, List.flatMap_congr fun other member => (frame other member).2]
    simp
  refine
    {
      device := building.device.trans builds.device
      grows := building.grows.trans builds.grows
      ready := ?_
      nodup := ?_
      fresh := ?_
      new := ?_
    }
  · intro other member
    rcases List.mem_append.mp member with before | last
    · exact (frame other before).1
    · rw [List.mem_singleton.mp last]
      exact builds.ready
  · rw [same]
    refine List.nodup_append.mpr ⟨building.nodup, builds.nodup, fun a before b last same => ?_⟩
    obtain ⟨other, member, mine⟩ := List.mem_flatMap.mp before
    have below := old other member a mine
    have above := builds.new b last
    omega
  · intro a since
    rw [same, List.mem_append]
    by_cases beyond : lp.heap.next ≤ a
    · have unowned : a ∉ parts.flatMap lp.owned := by
        rw [← building.fresh a since, lp.heap.unused a beyond]
        simp
      simp only [builds.fresh a beyond, unowned, false_or]
    · have unowned : a ∉ next.owned part := fun mine => beyond (builds.new a mine)
      rw [builds.grows.kept a (by omega), building.fresh a since]
      simp only [unowned, or_false]
  · intro a member
    rw [same] at member
    rcases List.mem_append.mp member with before | last
    · exact building.new a before
    · exact Nat.le_trans building.grows.next (builds.new a last)

/-- Granted all its buffers, the loop fills the descriptors with mapped ones, by induction on
those that remain; the buffers are the blocks from the heap's end on.
-/
theorem fillRing_granted {answers : Answers} {q ring i n : Nat} {heap : Heap Block}
    {bds : Nat → RingBd}
    (granted : ∀ j, i ≤ j → j < i + n → answers.skb q j ∧ answers.mapped q j)
    (found : heap.block ring = some (.rxRing bds))
    : ∃ filled bds', fillRing answers q ring (List.range' i n) heap = (true, filled)
        ∧ filled.next = heap.next + n
        ∧ filled.block ring = some (.rxRing bds')
        ∧ (∀ j, j < i → bds' j = bds j)
        ∧ (∀ k < n, bds' (i + k) = ⟨some (heap.next + k), some (heap.next + k)⟩
          ∧ filled.block (heap.next + k) = some .skb)
        ∧ ∀ a < heap.next, a ≠ ring → filled.block a = heap.block a := by
  induction n generalizing i heap bds with
  | zero => exact ⟨heap, bds, rfl, rfl, found, fun _ _ => rfl, by simp, fun _ _ _ => rfl⟩
  | succ n ih =>
      obtain ⟨skb, mapped⟩ := granted i (by omega) (by omega)
      have old : ring < heap.next := Heap.lt_next (by rw [found]; rfl)
      let bd : RingBd := ⟨some heap.next, some heap.next⟩
      let next := ((heap.alloc .skb).modify ring (Block.setBd i ⟨some heap.next, none⟩)).modify
        ring (Block.setBd i bd)
      have nextFound : next.block ring = some (.rxRing (Function.update bds i bd)) := by
        simp [next, found, Nat.ne_of_lt old, Block.setBd]
      obtain ⟨filled, bds', rest, length, ringAt, before, held, kept⟩ :=
        ih (i := i + 1) (fun j low high => granted j (by omega) (by omega)) nextFound
      have nextNext : next.next = heap.next + 1 := rfl
      rw [nextNext] at length held kept
      refine ⟨filled, bds', ?_, by omega, ringAt, ?_, ?_, ?_⟩
      · rw [List.range'_succ, fillRing]
        simpa [skb, mapped] using rest
      · intro j low
        rw [before j (by omega), Function.update_of_ne (by omega)]
      · intro k inRing
        cases k with
        | zero =>
            refine ⟨(before i (by omega)).trans (by simp [bd]), ?_⟩
            rw [Nat.add_zero, kept heap.next (by omega) (by omega)]
            simp [next, Nat.ne_of_gt old]
        | succ k =>
            have later := held k (by omega)
            rwa [Nat.add_assoc, Nat.add_comm 1 k, Nat.add_assoc, Nat.add_comm 1 k] at later
      · intro a below other
        rw [kept a (by omega) other]
        simp [next, other, Nat.ne_of_lt below]

/-- The kernel grants the queue's ring a mapped buffer for every descriptor. -/
structure Answers.RxGranted (answers : Answers) (q : Nat) : Prop where
  ring : answers.rxRing q
  buffers : ∀ i < rxBdNum, answers.skb q i ∧ answers.mapped q i
  irq : answers.rxIrq q = 0

/-- The kernel grants the queue's ring, and its copy buffers where they are needed. -/
structure Answers.TxGranted (answers : Answers) (ethHasdre : Bool) (q : Nat) : Prop where
  ring : answers.txRing q
  bufs : ethHasdre = false → answers.txBufs q
  irq : answers.txIrq q = 0

/-- Setting a queue's pointers changes nothing else of the device. -/
theorem sameDevice_setQueue {lp : AxienetLocal} {q : Nat} {queue : DmaQ} (heap : Heap Block)
    (hasdre : queue.ethHasdre = (lp.dq q).ethHasdre)
    (noBufs : (lp.dq q).ethHasdre → (lp.dq q).txBufs = none → queue.txBufs = none)
    : SameDevice lp { lp.setQueue q queue with heap } where
  numTx := rfl
  numRx := rfl
  hasdre := by
    intro other
    by_cases same : other = q
    · subst same
      simpa [AxienetLocal.setQueue] using hasdre
    · simp [AxienetLocal.setQueue, same]
  noBufs := by
    intro other
    by_cases same : other = q
    · subst same
      simpa [AxienetLocal.setQueue] using noBufs
    · simp [AxienetLocal.setQueue, same]

/-- Setting the receive pointer of a queue leaves the other parts' pointers as they were. -/
theorem samePointers_setRx {lp : AxienetLocal} {q : Nat} {rxqBdV : Option Nat}
    (heap : Heap Block) (other : Part) (different : other ≠ .rx q)
    : SamePointers lp { lp.setQueue q { lp.dq q with rxqBdV } with heap } other := by
  cases other with
  | tx q' =>
      by_cases same : q' = q
      · subst same
        simp [SamePointers, AxienetLocal.setQueue]
      · simp [SamePointers, AxienetLocal.setQueue, same]
  | rx q' =>
      have apart : q' ≠ q := fun same => different (congrArg Part.rx same)
      simp [SamePointers, AxienetLocal.setQueue, apart]

/-- Setting the transmit pointers of a queue leaves the other parts' pointers as they were. -/
theorem samePointers_setTx {lp : AxienetLocal} {q : Nat} {queue : DmaQ} (heap : Heap Block)
    (rx : queue.rxqBdV = (lp.dq q).rxqBdV) (other : Part) (different : other ≠ .tx q)
    : SamePointers lp { lp.setQueue q queue with heap } other := by
  cases other with
  | tx q' =>
      have apart : q' ≠ q := fun same => different (congrArg Part.tx same)
      simp [SamePointers, AxienetLocal.setQueue, apart]
  | rx q' =>
      by_cases same : q' = q
      · subst same
        simpa [SamePointers, AxienetLocal.setQueue] using rx
      · simp [SamePointers, AxienetLocal.setQueue, same]

/-- A ring whose buffers follow it owns the blocks from its own on. -/
theorem owned_filled {lp : AxienetLocal} {q ring : Nat} {bds : Nat → RingBd}
    (pointer : (lp.dq q).rxqBdV = some ring) (found : lp.heap.block ring = some (.rxRing bds))
    (held : ∀ i < rxBdNum, (bds i).swIdOffset = some (ring + 1 + i))
    : lp.owned (.rx q) = List.range' (ring + 1) rxBdNum ++ [ring] := by
  rw [AxienetLocal.owned_rx pointer found, ringSkbs, List.range'_eq_map_range,
    ← List.filterMap_eq_map]
  congr 1
  refine List.filterMap_congr fun i member => ?_
  rw [held i (List.mem_range.mp member)]
  rfl

theorem mem_range'_ring {ring n a : Nat}
    : a ∈ List.range' (ring + 1) n ++ [ring] ↔ ring ≤ a ∧ a < ring + 1 + n := by
  rw [List.mem_append, List.mem_range'_1, List.mem_singleton]
  omega

theorem nodup_range'_ring (ring n : Nat) : (List.range' (ring + 1) n ++ [ring]).Nodup := by
  refine List.nodup_append.mpr ⟨List.nodup_range', by simp, fun a inSkbs b isRing => ?_⟩
  have above := (List.mem_range'_1.mp inSkbs).1
  have last := List.mem_singleton.mp isRing
  omega

theorem axienetMcdmaRxQInit_granted {answers : Answers} {lp : AxienetLocal} {q : Nat}
    (granted : answers.RxGranted q)
    : ∃ next, axienetMcdmaRxQInit answers lp q = some (0, next) ∧ Builds lp next (.rx q) := by
  let empty : Block := .rxRing fun _ => ⟨none, none⟩
  obtain ⟨filled, bds, fills, length, found, -, held, kept⟩ := fillRing_granted (q := q) (i := 0)
    (n := rxBdNum) (fun i _ inRing => granted.buffers i (by omega))
    (show (lp.heap.alloc empty).block lp.heap.next = some empty by simp)
  rw [← List.range_eq_range'] at fills
  simp only [Heap.next_alloc, Nat.zero_add] at length held kept
  let next : AxienetLocal :=
    { lp.setQueue q { lp.dq q with rxqBdV := some lp.heap.next } with heap := filled }
  have init : axienetMcdmaRxQInit answers lp q = some (0, next) := by
    simp [axienetMcdmaRxQInit, granted.ring, AxienetLocal.setQueue, next, empty, fills]
  have pointer : (next.dq q).rxqBdV = some lp.heap.next := by simp [next, AxienetLocal.setQueue]
  have ready : next.Ready (.rx q) :=
    ⟨lp.heap.next, bds, pointer, found, fun i inRing => ⟨_, held i inRing⟩⟩
  have owns : next.owned (.rx q) = List.range' (lp.heap.next + 1) rxBdNum ++ [lp.heap.next] :=
    owned_filled pointer found fun i inRing => by rw [(held i inRing).1]
  have mem_owned : ∀ a, a ∈ next.owned (.rx q) ↔ lp.heap.next ≤ a ∧ a < filled.next := by
    intro a
    rw [owns, mem_range'_ring, length]
  refine ⟨next, init, ?_⟩
  exact
    {
      device := sameDevice_setQueue filled rfl fun _ none => none
      grows :=
        ⟨by simp only [next]; omega, fun a old => by
          rw [kept a (by omega) (by omega), Heap.block_alloc, if_neg (by omega)]⟩
      others := samePointers_setRx filled
      ready
      nodup := owns ▸ nodup_range'_ring _ _
      fresh := fun a beyond =>
        ⟨fun allocated => (mem_owned a).mpr ⟨beyond, Heap.lt_next allocated⟩, ready.allocated a⟩
      new := fun a mine => ((mem_owned a).mp mine).1
    }

/-- A transmit ring that needs no copy buffers. -/
theorem builds_txRing {lp : AxienetLocal} {q : Nat} (hasdre : (lp.dq q).ethHasdre = true)
    (noBufs : (lp.dq q).txBufs = none)
    : Builds lp
        { lp.setQueue q { lp.dq q with txqBdV := some lp.heap.next } with
          heap := lp.heap.alloc .txRing }
        (.tx q) := by
  let queue : DmaQ := { lp.dq q with txqBdV := some lp.heap.next }
  let next : AxienetLocal := { lp.setQueue q queue with heap := lp.heap.alloc .txRing }
  have owns : next.owned (.tx q) = [lp.heap.next] := by
    simp [AxienetLocal.owned, next, queue, AxienetLocal.setQueue, noBufs]
  have ready : next.Ready (.tx q) := by
    refine ⟨lp.heap.next, by simp [next, queue, AxienetLocal.setQueue], by simp [next], ?_⟩
    simp [next, queue, AxienetLocal.setQueue, hasdre, noBufs]
  have fresh : ∀ a, lp.heap.next ≤ a → ((next.heap.block a).isSome ↔ a ∈ next.owned (.tx q)) := by
    intro a beyond
    refine ⟨fun allocated => ?_, ready.allocated a⟩
    have below : a < lp.heap.next + 1 := Heap.lt_next allocated
    rw [owns, List.mem_singleton]
    omega
  exact
    {
      device := sameDevice_setQueue _ rfl fun _ none => none
      grows := Heap.extends_alloc _
      others := samePointers_setTx _ rfl
      ready
      nodup := by simp [owns, next, queue]
      fresh
      new := by simp [owns, next, queue]
    }

/-- A transmit ring with its copy buffers. -/
theorem builds_txBufs {lp : AxienetLocal} {q : Nat} (hasdre : (lp.dq q).ethHasdre = false)
    : Builds lp
        { lp.setQueue q
            { lp.dq q with txqBdV := some lp.heap.next, txBufs := some (lp.heap.next + 1) } with
          heap := (lp.heap.alloc .txRing).alloc .txBufs }
        (.tx q) := by
  let ring := lp.heap.next
  let queue : DmaQ := { lp.dq q with txqBdV := some ring, txBufs := some (ring + 1) }
  let next : AxienetLocal :=
    { lp.setQueue q queue with heap := (lp.heap.alloc .txRing).alloc .txBufs }
  have owns : next.owned (.tx q) = [ring, ring + 1] := by
    simp [AxienetLocal.owned, next, queue, AxienetLocal.setQueue]
  have ready : next.Ready (.tx q) := by
    refine ⟨ring, by simp [next, queue, AxienetLocal.setQueue], by simp [next, ring], ?_⟩
    simp [next, queue, AxienetLocal.setQueue, hasdre, ring]
  have fresh : ∀ a, lp.heap.next ≤ a → ((next.heap.block a).isSome ↔ a ∈ next.owned (.tx q)) := by
    intro a beyond
    refine ⟨fun allocated => ?_, ready.allocated a⟩
    have below : a < lp.heap.next + 1 + 1 := Heap.lt_next allocated
    rw [owns]
    simp only [List.mem_cons, List.not_mem_nil, or_false, ring]
    omega
  exact
    {
      device := sameDevice_setQueue _ rfl fun needless => absurd hasdre (by simp [needless])
      grows := (Heap.extends_alloc _).trans (Heap.extends_alloc _)
      others := samePointers_setTx _ rfl
      ready
      nodup := by simp [owns, next, queue, ring]
      fresh
      new := by simp [owns, next, queue, ring]
    }

theorem axienetMcdmaTxQInit_granted {answers : Answers} {lp : AxienetLocal} {q : Nat}
    (granted : answers.TxGranted (lp.dq q).ethHasdre q)
    (noBufs : (lp.dq q).ethHasdre → (lp.dq q).txBufs = none)
    : ∃ next, axienetMcdmaTxQInit answers lp q = some (0, next) ∧ Builds lp next (.tx q) := by
  cases hasdre : (lp.dq q).ethHasdre with
  | true =>
      refine ⟨_, ?_, builds_txRing hasdre (noBufs hasdre)⟩
      simp [axienetMcdmaTxQInit, granted.ring, hasdre]
  | false =>
      refine ⟨_, ?_, builds_txBufs hasdre⟩
      simp [axienetMcdmaTxQInit, granted.ring, granted.bufs hasdre, hasdre]

/-- Where each queue's initialiser builds its part and its interrupt is granted, the loop builds
them all, by induction on the queues that remain.
-/
theorem openQueues_granted {init : AxienetLocal → Nat → Option (Int × AxienetLocal)}
    {requestIrq : Nat → Int} {part : Nat → Part} {start : AxienetLocal} {queues : List Nat}
    (inits : ∀ q ∈ queues, ∀ lp, SameDevice start lp
      → ∃ next, init lp q = some (0, next) ∧ Builds lp next (part q))
    (irqs : ∀ q ∈ queues, requestIrq q = 0)
    {lp : AxienetLocal} {done : List Part} (building : Building start lp done)
    (nodup : (done ++ queues.map part).Nodup)
    : ∃ last calls, openQueues init requestIrq queues lp = some ⟨0, last, calls⟩
        ∧ (∀ call ∈ calls, call.ret = 0)
        ∧ Building start last (done ++ queues.map part) := by
  induction queues generalizing lp done with
  | nil => exact ⟨lp, [], rfl, by simp, by simpa using building⟩
  | cons q rest ih =>
      obtain ⟨next, initialised, builds⟩ := inits q List.mem_cons_self lp building.device
      have absent : part q ∉ done := by
        rw [List.map_cons, List.nodup_append] at nodup
        exact fun member => nodup.2.2 _ member _ List.mem_cons_self rfl
      have split : done ++ (q :: rest).map part = done ++ [part q] ++ rest.map part := by simp
      rw [split] at nodup ⊢
      obtain ⟨last, calls, opened, zero, built⟩ := ih
        (fun q member => inits q (List.mem_cons_of_mem _ member))
        (fun q member => irqs q (List.mem_cons_of_mem _ member))
        (building.snoc builds absent) nodup
      refine ⟨last, ⟨lp.heap, 0, next.heap⟩ :: calls, ?_, by simpa using zero, built⟩
      simp [openQueues, initialised, irqs q List.mem_cons_self, opened]

-----------------------------------------------------------------------------------------
-- Opens and closes
-----------------------------------------------------------------------------------------

/-- The kernel grants all that an open asks it for. Where the device has no queues, the TADMA may
fail to open.
-/
structure Answers.Granted (answers : Answers) (lp : AxienetLocal) : Prop where
  rx : ∀ q < lp.numRxQueues, answers.RxGranted q
  tx : ∀ q < lp.numTxQueues, answers.TxGranted (lp.dq q).ethHasdre q
  tadma : answers.tadmaOpen = 0 ∨ lp.numTxQueues = 0 ∧ lp.numRxQueues = 0

/-- The parts in the order in which they are built. -/
def AxienetLocal.buildOrder (lp : AxienetLocal) : List Part :=
  (List.range lp.numRxQueues).map .rx ++ (List.range lp.numTxQueues).map .tx

theorem AxienetLocal.buildOrder_nodup (lp : AxienetLocal) : lp.buildOrder.Nodup := by
  refine List.nodup_append.mpr ⟨?_, ?_, ?_⟩
  · exact List.nodup_range.map fun q q' same => by simpa using same
  · exact List.nodup_range.map fun q q' same => by simpa using same
  · simp

/-- An open to which everything is granted builds every part. -/
theorem tsnDataPathOpen_granted {answers : Answers} {lp : AxienetLocal}
    (granted : answers.Granted lp)
    (noBufs : ∀ q, (lp.dq q).ethHasdre → (lp.dq q).txBufs = none)
    : ∃ next calls, tsnDataPathOpen answers lp = some ⟨answers.tadmaOpen, next, calls⟩
        ∧ (∀ call ∈ calls, call.ret = 0)
        ∧ Building lp next lp.buildOrder := by
  have nodup := lp.buildOrder_nodup
  have rxInits : ∀ q ∈ List.range lp.numRxQueues, ∀ device, SameDevice lp device
      → ∃ next, axienetMcdmaRxQInit answers device q = some (0, next)
        ∧ Builds device next (.rx q) :=
    fun q member _ _ => axienetMcdmaRxQInit_granted (granted.rx q (List.mem_range.mp member))
  have txInits : ∀ q ∈ List.range lp.numTxQueues, ∀ device, SameDevice lp device
      → ∃ next, axienetMcdmaTxQInit answers device q = some (0, next)
        ∧ Builds device next (.tx q) := by
    intro q member device same
    refine axienetMcdmaTxQInit_granted ?_ fun needless => ?_
    · rw [same.hasdre]
      exact granted.tx q (List.mem_range.mp member)
    · rw [same.hasdre] at needless
      exact same.noBufs q needless (noBufs q needless)
  obtain ⟨mid, rxCalls, rxOpened, rxZero, rxBuilt⟩ := openQueues_granted rxInits
    (fun q member => (granted.rx q (List.mem_range.mp member)).irq) (.nil lp)
    (by simpa using (List.nodup_append.mp nodup).1)
  obtain ⟨last, txCalls, txOpened, txZero, built⟩ := openQueues_granted txInits
    (fun q member => (granted.tx q (List.mem_range.mp member)).irq) rxBuilt
    (by simpa [AxienetLocal.buildOrder] using nodup)
  refine ⟨last, rxCalls ++ txCalls, ?_, ?_, by simpa [AxienetLocal.buildOrder] using built⟩
  · simp [tsnDataPathOpen, rxOpened, rxBuilt.device.numTx, txOpened]
  · intro call member
    exact (List.mem_append.mp member).elim (rxZero call) (txZero call)

/-- What an open owes: it returns 0 only with a complete ring for every queue, an error leaves
nothing allocated, and an initialiser that fails frees nothing that was there before it. On a
device that had nothing allocated, what is allocated afterwards belongs to a queue.
-/
structure OpenRight (before : AxienetLocal) (opened : Opened) : Prop where
  complete : opened.ret = 0 → opened.lp.Complete
  unwound : opened.ret ≠ 0 → ∀ a, opened.lp.heap.block a = none
  others
    : ∀ call ∈ opened.calls, call.ret ≠ 0
      → ∀ a, (call.before.block a).isSome → (call.after.block a).isSome
  owned
    : opened.ret = 0 → (∀ a, before.heap.block a = none)
      → ∀ a, (opened.lp.heap.block a).isSome → a ∈ opened.lp.parts.flatMap opened.lp.owned

/-- A call of the data path does not fault, in particular by freeing what is not allocated, and
does what it owes: an open as above, a close frees what the queues own and nothing else.
-/
def CallRight (path : DataPath) : DataPathCall → Prop
  | .open answers =>
      ∃ opened, tsnDataPathOpen answers path.lp = some opened ∧ OpenRight path.lp opened
  | .close =>
      ∃ lp, tsnDataPathClose path.lp = some lp
        ∧ lp.heap = path.lp.heap.without (path.lp.parts.flatMap path.lp.owned)

/-- Only an opened data path is closed. -/
def ClosesOpened (path : DataPath) : DataPathCall → Prop
  | .open _ => True
  | .close => path.opened

/-- The kernel grants all that an open asks it for. -/
def AllGranted (path : DataPath) : DataPathCall → Prop
  | .open answers => answers.Granted path.lp
  | .close => True

/-- An opened data path has complete rings. -/
structure PathInv (path : DataPath) : Prop where
  noBufs : ∀ q, (path.lp.dq q).ethHasdre → (path.lp.dq q).txBufs = none
  idle
    : path.lp.numTxQueues = 0 → path.lp.numRxQueues = 0
      → ∀ a, path.lp.heap.block a = none
  complete : path.opened → path.lp.Complete

theorem pathInv_probed (numTxQueues numRxQueues : Nat) (ethHasdre : Nat → Bool)
    : PathInv (.probed numTxQueues numRxQueues ethHasdre) where
  noBufs := fun _ _ => rfl
  idle := fun _ _ _ => rfl
  complete := by simp [DataPath.probed]

theorem AxienetLocal.buildOrder_perm (lp : AxienetLocal) : lp.buildOrder.Perm lp.parts :=
  List.perm_append_comm

/-- The parts that an open has built are those of the device. -/
theorem Building.perm {start lp : AxienetLocal} (building : Building start lp start.buildOrder)
    : start.buildOrder.Perm lp.parts := by
  have same : lp.buildOrder = start.buildOrder := by
    rw [AxienetLocal.buildOrder, building.device.numTx, building.device.numRx]
    rfl
  exact same ▸ lp.buildOrder_perm

theorem Building.complete {start lp : AxienetLocal}
    (building : Building start lp start.buildOrder)
    : lp.Complete where
  ready := fun part member => building.ready part (building.perm.mem_iff.mpr member)
  nodup := (building.perm.flatMap_right _).nodup_iff.mp building.nodup

/-- On a device that had nothing allocated, what is allocated belongs to a part. -/
theorem Building.owned {start lp : AxienetLocal}
    (building : Building start lp start.buildOrder)
    (nothing : ∀ a, start.heap.block a = none) {a : Nat} (allocated : (lp.heap.block a).isSome)
    : a ∈ lp.parts.flatMap lp.owned := by
  refine (building.perm.flatMap_right _).mem_iff.mp ?_
  by_cases since : start.heap.next ≤ a
  · exact (building.fresh a since).mp allocated
  · rw [building.grows.kept a (by omega), nothing a] at allocated
    cases allocated

/-- A device without queues has nothing allocated after an open, if it had nothing before. -/
theorem Building.idle {start lp : AxienetLocal} (building : Building start lp start.buildOrder)
    (noTx : start.numTxQueues = 0) (noRx : start.numRxQueues = 0)
    (nothing : ∀ a, start.heap.block a = none) (a : Nat)
    : lp.heap.block a = none := by
  have noParts : lp.parts = [] := by
    simp [AxienetLocal.parts, building.device.numTx, building.device.numRx, noTx, noRx]
  rw [← Option.not_isSome_iff_eq_none]
  intro allocated
  have member := building.owned nothing allocated
  simp [noParts] at member

theorem dataPathStep_keeps {path next : DataPath} {call : DataPathCall} (inv : PathInv path)
    (closes : ClosesOpened path call) (granted : AllGranted path call)
    (stepped : dataPathStep path call = some next)
    : PathInv next := by
  cases call with
  | «open» answers =>
      obtain ⟨lp, calls, opened, -, built⟩ := tsnDataPathOpen_granted granted inv.noBufs
      obtain rfl : (⟨lp, answers.tadmaOpen = 0⟩ : DataPath) = next := by
        simpa [dataPathStep, opened] using stepped
      refine
        {
          noBufs := fun q needless => ?_
          idle := fun noTx noRx => ?_
          complete := fun _ => built.complete
        }
      · have needless := (built.device.hasdre q).symm.trans needless
        exact built.device.noBufs q needless (inv.noBufs q needless)
      · have noTx := built.device.numTx.symm.trans noTx
        have noRx := built.device.numRx.symm.trans noRx
        exact built.idle noTx noRx (inv.idle noTx noRx)
  | close =>
      have closed := tsnDataPathClose_complete (inv.complete closes)
      simp only [dataPathStep, closed, Option.map_some, Option.some.injEq] at stepped
      subst stepped
      refine ⟨inv.noBufs, fun noTx noRx a => ?_, by simp⟩
      rw [Heap.block_without, inv.idle noTx noRx a, ite_self]

theorem callRight_of_granted {path : DataPath} {call : DataPathCall} (inv : PathInv path)
    (closes : ClosesOpened path call) (granted : AllGranted path call)
    : CallRight path call := by
  cases call with
  | «open» answers =>
      obtain ⟨lp, calls, opened, zero, built⟩ := tsnDataPathOpen_granted granted inv.noBufs
      refine ⟨_, opened, ?_⟩
      refine
        {
          complete := fun _ => built.complete
          unwound := fun failed => ?_
          others := fun call member failed => absurd (zero call member) failed
          owned := fun _ nothing a => built.owned nothing
        }
      rcases granted.tadma with works | ⟨noTx, noRx⟩
      · exact absurd works failed
      · exact built.idle noTx noRx (inv.idle noTx noRx)
  | close => exact ⟨_, tsnDataPathClose_complete (inv.complete closes), rfl⟩

/-- A run of opens and closes owns every ring once and frees it once, as long as the kernel
grants every open what it asks for.
-/
theorem data_path_owned_once (numTxQueues numRxQueues : Nat) (ethHasdre : Nat → Bool)
    (calls : List DataPathCall)
    (closes
      : Along (faulting dataPathStep) (BeforeFault ClosesOpened)
          (some (.probed numTxQueues numRxQueues ethHasdre)) calls)
    (granted
      : Along (faulting dataPathStep) (BeforeFault AllGranted)
          (some (.probed numTxQueues numRxQueues ethHasdre)) calls)
    : Along (faulting dataPathStep) (BeforeFault CallRight)
        (some (.probed numTxQueues numRxQueues ethHasdre)) calls := by
  have conds : Along (faulting dataPathStep)
      (BeforeFault fun path call => ClosesOpened path call ∧ AllGranted path call)
      (some (.probed numTxQueues numRxQueues ethHasdre)) calls :=
    (closes.and granted).imp fun _ _ both path known => ⟨both.1 path known, both.2 path known⟩
  exact Along.of_faulting
    (fun path call next inv cond stepped => dataPathStep_keeps inv cond.1 cond.2 stepped)
    (fun path call inv cond => callRight_of_granted inv cond.1 cond.2)
    (pathInv_probed numTxQueues numRxQueues ethHasdre) conds

instance ClosesOpened.decidable (path : DataPath)
    : (call : DataPathCall) → Decidable (ClosesOpened path call)
  | .open _ => .isTrue trivial
  | .close => inferInstanceAs (Decidable (path.opened = true))

/-- A kernel that grants everything. -/
def grantAll : Answers where
  rxRing := fun _ => true
  skb := fun _ _ => true
  mapped := fun _ _ => true
  rxIrq := fun _ => 0
  txRing := fun _ => true
  txBufs := fun _ => true
  txIrq := fun _ => 0
  tadmaOpen := 0

/-- Two transmit queues, one with copy buffers, and two receive queues: opened, closed and opened
again.
-/
theorem data_path_owned_once_reopened
    : Along (faulting dataPathStep) (BeforeFault CallRight) (some (.probed 2 2 (· == 0)))
        [.open grantAll, .close, .open grantAll] := by
  have granted : ∀ path, AllGranted path (.open grantAll) := fun path =>
    ⟨fun _ _ => ⟨rfl, fun _ _ => ⟨rfl, rfl⟩, rfl⟩, fun _ _ => ⟨rfl, fun _ => rfl, rfl⟩, .inl rfl⟩
  have opened : BeforeFault ClosesOpened
      (faulting dataPathStep (some (.probed 2 2 (· == 0))) (.open grantAll)) .close := by
    decide +kernel
  refine data_path_owned_once 2 2 (· == 0) _ ⟨?_, opened, ?_, trivial⟩ ⟨?_, ?_, ?_, trivial⟩
  · exact fun _ _ => trivial
  · exact fun _ _ => trivial
  · exact fun path _ => granted path
  · exact fun _ _ => trivial
  · exact fun path _ => granted path

/-- There is no buffer for the first descriptor of receive queue 0. -/
def noBuffer : Answers := { grantAll with skb := fun q i => q ≠ 0 || i ≠ 0 }

/-- The initialiser frees the ring and fails, but the open returns 0; closing the data path
then reads the ring that has been freed.
-/
theorem data_path_ring_lost
    : Along (faulting dataPathStep) (BeforeFault ClosesOpened)
        (some (.probed 1 1 fun _ => true)) [.open noBuffer, .close]
      ∧ (∃ opened, tsnDataPathOpen noBuffer (.probed 1 1 fun _ => true) = some opened
          ∧ opened.ret = 0 ∧ ¬ opened.lp.Complete)
      ∧ (run (faulting dataPathStep) (some (.probed 1 1 fun _ => true))
          [.open noBuffer, .close]).isNone
      ∧ ¬ Along (faulting dataPathStep) (BeforeFault CallRight)
          (some (.probed 1 1 fun _ => true)) [.open noBuffer, .close] := by
  have evaluated : (tsnDataPathOpen noBuffer (.probed 1 1 fun _ => true)).map (fun opened =>
      (opened.ret, opened.lp.numRxQueues,
        (opened.lp.dq 0).rxqBdV.map fun ring => (opened.lp.heap.block ring).isSome))
      = some (0, 1, some false) := by decide +kernel
  obtain ⟨opened, call, eq⟩ := Option.map_eq_some_iff.mp evaluated
  simp only [Prod.mk.injEq] at eq
  obtain ⟨ret, queues, freed⟩ := eq
  have incomplete : ¬ opened.lp.Complete := by
    intro complete
    obtain ⟨ring, bds, pointer, found, -⟩ :=
      complete.ready (.rx 0) (by simp [AxienetLocal.parts, queues])
    rw [pointer, Option.map_some, found] at freed
    cases freed
  refine ⟨by decide +kernel, ⟨opened, call, ret, incomplete⟩, by decide +kernel, ?_⟩
  rintro ⟨right, -⟩
  obtain ⟨result, called, right⟩ := right _ rfl
  obtain rfl : opened = result := Option.some.inj (call.symm.trans called)
  exact incomplete (right.complete ret)

end TsnTrdp.Mcdma.Rings
