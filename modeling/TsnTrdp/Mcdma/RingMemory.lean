import TsnTrdp.Lib.Run
import TsnTrdp.Lib.Blocks
import TsnTrdp.Mcdma.RxQueue

/-! The memory of the data path's descriptor rings: what opening the data path allocates for
each queue, and what its failure paths and closing it free. Reading memory that is not
allocated is a fault, as freeing it is.
-/

namespace TsnTrdp.Mcdma.Rings

open TsnTrdp.Blocks

/-- `-ENOMEM` is this, negated. -/
def enomem : Int := 12

/-- The fields of a receive descriptor that own memory: the buffer that `sw_id_offset` holds,
and the buffer whose mapping `phys` holds. Both are zero at first.
-/
structure RingBd where
  swIdOffset : Option Nat
  phys : Option Nat
  deriving DecidableEq, Repr

/-- What the data path allocates: transmit rings with their copy buffers, receive rings and
socket buffers.
-/
inductive Block
  | txRing
  | txBufs
  | rxRing (bds : Nat → RingBd)
  | skb

def Block.setBd (i : Nat) (bd : RingBd) : Block → Block
  | .rxRing bds => .rxRing (Function.update bds i bd)
  | other => other

/-- The pointers of `struct axienet_dma_q` to its rings; null is `none`. -/
structure DmaQ where
  ethHasdre : Bool
  txqBdV : Option Nat
  txBufs : Option Nat
  rxqBdV : Option Nat

structure AxienetLocal where
  numTxQueues : Nat
  numRxQueues : Nat
  dq : Nat → DmaQ
  heap : Heap Block

/-- What the kernel answers the calls of one open: which allocations and mappings it grants,
by queue and descriptor, and what requesting the interrupts and opening the TADMA return.
-/
structure Answers where
  rxRing : Nat → Bool
  skb : Nat → Nat → Bool
  mapped : Nat → Nat → Bool
  rxIrq : Nat → Int
  txRing : Nat → Bool
  txBufs : Nat → Bool
  txIrq : Nat → Int
  tadmaOpen : Int

/-- The device as it is probed, with its queues zeroed. -/
def AxienetLocal.probed (numTxQueues numRxQueues : Nat) (ethHasdre : Nat → Bool)
    : AxienetLocal where
  numTxQueues := numTxQueues
  numRxQueues := numRxQueues
  dq := fun q => ⟨ethHasdre q, none, none, none⟩
  heap := .empty

def AxienetLocal.setQueue (lp : AxienetLocal) (q : Nat) (queue : DmaQ) : AxienetLocal :=
  { lp with dq := Function.update lp.dq q queue }

/-- The descriptors at an address, if a receive ring is allocated there. -/
def ringBds (heap : Heap Block) (ring : Nat) : Option (Nat → RingBd) :=
  match heap.block ring with
  | some (.rxRing bds) => some bds
  | _ => none

/-- The socket buffers in a ring's descriptors. -/
def ringSkbs (bds : Nat → RingBd) : List Nat :=
  (List.range rxBdNum).filterMap fun i => (bds i).swIdOffset

/-- Frees the ring and the copy buffers, each unless the pointer is null. The pointers keep
their values.
-/
def axienetMcdmaTxBdFree (lp : AxienetLocal) (q : Nat) : Option AxienetLocal := do
  let heap ← lp.heap.freeAll (lp.dq q).txqBdV.toList
  let heap ← heap.freeAll (lp.dq q).txBufs.toList
  some { lp with heap }

/-- Frees the socket buffers and the ring that they are read from. The descriptors are read
before the pointer is compared with null. Unmapping frees nothing.
-/
def axienetMcdmaRxBdFree (lp : AxienetLocal) (q : Nat) : Option AxienetLocal := do
  let ring ← (lp.dq q).rxqBdV
  let bds ← ringBds lp.heap ring
  let heap ← lp.heap.freeAll (ringSkbs bds)
  let heap ← heap.free ring
  some { lp with heap }

def freeTxQueues (lp : AxienetLocal) : Option AxienetLocal :=
  (List.range lp.numTxQueues).foldlM axienetMcdmaTxBdFree lp

def freeRxQueues (lp : AxienetLocal) : Option AxienetLocal :=
  (List.range lp.numRxQueues).foldlM axienetMcdmaRxBdFree lp

def axienetDmaBdRelease (lp : AxienetLocal) : Option AxienetLocal := do
  let lp ← freeTxQueues lp
  freeRxQueues lp

/-- A queue's initialiser: its return value and what it leaves, unless it faults. On failure
it frees every queue of its direction.
-/
def axienetMcdmaTxQInit (answers : Answers) (lp : AxienetLocal) (q : Nat)
    : Option (Int × AxienetLocal) :=
  let queue := lp.dq q
  if answers.txRing q then
    let ring := lp.heap.next
    let heap := lp.heap.alloc .txRing
    if queue.ethHasdre then
      some (0, { lp.setQueue q { queue with txqBdV := some ring } with heap })
    else if answers.txBufs q then
      let bufs := heap.next
      let heap := heap.alloc .txBufs
      some (0, { lp.setQueue q { queue with txqBdV := some ring, txBufs := some bufs } with heap })
    else
      (freeTxQueues
          { lp.setQueue q { queue with txqBdV := some ring, txBufs := none } with heap }).map
        (-enomem, ·)
  else
    (freeTxQueues (lp.setQueue q { queue with txqBdV := none })).map (-enomem, ·)

/-- The loop that gives each descriptor a mapped socket buffer, and whether it got to the end.
The buffer is stored before it is mapped.
-/
def fillRing (answers : Answers) (q ring : Nat) : List Nat → Heap Block → Bool × Heap Block
  | [], heap => (true, heap)
  | i :: rest, heap =>
      if !answers.skb q i then
        (false, heap)
      else
        let skb := heap.next
        let heap := (heap.alloc .skb).modify ring (Block.setBd i ⟨some skb, none⟩)
        if !answers.mapped q i then
          (false, heap)
        else
          fillRing answers q ring rest (heap.modify ring (Block.setBd i ⟨some skb, some skb⟩))

def axienetMcdmaRxQInit (answers : Answers) (lp : AxienetLocal) (q : Nat)
    : Option (Int × AxienetLocal) :=
  let queue := lp.dq q
  if answers.rxRing q then
    let ring := lp.heap.next
    let lp := lp.setQueue q { queue with rxqBdV := some ring }
    let filled := fillRing answers q ring (List.range rxBdNum)
      (lp.heap.alloc (.rxRing fun _ => ⟨none, none⟩))
    if filled.1 then
      some (0, { lp with heap := filled.2 })
    else
      (freeRxQueues { lp with heap := filled.2 }).map (-enomem, ·)
  else
    (freeRxQueues (lp.setQueue q { queue with rxqBdV := none })).map (-enomem, ·)

/-- A call of a queue's initialiser: the memory before it and after it, and what it returned. -/
structure InitCall where
  before : Heap Block
  ret : Int
  after : Heap Block

/-- How an open ends, with the calls of the initialisers that it made. -/
structure Opened where
  ret : Int
  lp : AxienetLocal
  calls : List InitCall

/-- The loops of `tsn_data_path_open` over the queues: the result of requesting the interrupt
takes the place of the initialiser's.
-/
def openQueues (init : AxienetLocal → Nat → Option (Int × AxienetLocal)) (requestIrq : Nat → Int)
    : List Nat → AxienetLocal → Option Opened
  | [], lp => some ⟨0, lp, []⟩
  | q :: rest, lp => do
      let (ret, next) ← init lp q
      let call := ⟨lp.heap, ret, next.heap⟩
      let ret := requestIrq q
      if ret ≠ 0 then
        some ⟨ret, next, [call]⟩
      else
        let opened ← openQueues init requestIrq rest next
        some { opened with calls := call :: opened.calls }

/-- The error paths only free interrupts. -/
def tsnDataPathOpen (answers : Answers) (lp : AxienetLocal) : Option Opened := do
  let rx ← openQueues (axienetMcdmaRxQInit answers) answers.rxIrq (List.range lp.numRxQueues) lp
  if rx.ret ≠ 0 then
    some rx
  else
    let tx ← openQueues (axienetMcdmaTxQInit answers) answers.txIrq
      (List.range rx.lp.numTxQueues) rx.lp
    let calls := rx.calls ++ tx.calls
    if tx.ret ≠ 0 then
      some { tx with calls }
    else
      some ⟨answers.tadmaOpen, tx.lp, calls⟩

def tsnDataPathClose (lp : AxienetLocal) : Option AxienetLocal :=
  axienetDmaBdRelease lp

/-- The device, and whether the last open succeeded and has not been closed since. -/
structure DataPath where
  lp : AxienetLocal
  opened : Bool

def DataPath.probed (numTxQueues numRxQueues : Nat) (ethHasdre : Nat → Bool) : DataPath :=
  ⟨.probed numTxQueues numRxQueues ethHasdre, false⟩

inductive DataPathCall
  | open (answers : Answers)
  | close

def dataPathStep (path : DataPath) : DataPathCall → Option DataPath
  | .open answers =>
      (tsnDataPathOpen answers path.lp).map fun opened => ⟨opened.lp, opened.ret = 0⟩
  | .close => (tsnDataPathClose path.lp).map fun lp => ⟨lp, false⟩

end TsnTrdp.Mcdma.Rings
