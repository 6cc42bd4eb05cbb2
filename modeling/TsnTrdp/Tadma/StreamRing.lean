import TsnTrdp.Tadma.Registers
import Mathlib.Logic.Function.Iterate

/-! The transmit ring of one stream: the driver's `tx_bd` entries and cursors, the
stream's address-length slots and its pointer word. A transmit is the list of stores it
makes once its space tests pass, so that the same stores can be run in one go or one by
one between the steps of the interrupt and of the engine.
-/

namespace TsnTrdp.Tadma

/-- `DESC_DMA_MAP_SINGLE` and `DESC_DMA_MAP_PAGE`. -/
inductive DescDmaMap
  | single
  | page
  deriving DecidableEq, Repr

/-- One page fragment of a socket buffer, with the address that mapping it yields. -/
structure SkbFrag where
  size : U32
  dma : BitVec 64
  deriving DecidableEq, Repr

/-- What a transmit reads of a socket buffer: its address, its linear length, the address
that mapping the linear part yields (`none` is a mapping error) and its fragments.
-/
structure SkBuff where
  addr : Nat
  headlen : U32
  dma : Option (BitVec 64)
  frags : List SkbFrag
  deriving DecidableEq, Repr

/-- `struct axitadma_bd`; a null `tx_skb` is `none`. -/
structure AxitadmaBd where
  phys : U32
  txSkb : Option Nat
  txDescMapping : DescDmaMap
  numFrag : Nat
  len : U32
  deriving DecidableEq, Repr

/-- The per-stream part of the driver and of the engine. A `tx_bd` entry is `none` from
its allocation until a transmit stores it.
-/
structure StreamRing where
  txBd : Nat → Option AxitadmaBd
  txBdHead : Nat
  txBdTail : Nat
  txBdRd : Nat
  alm : Nat → AlmEntry
  pm : U32

/-- The slot that the driver writes for the write pointer `wr`. -/
def almSlot (n wr : Nat) : Nat := (wr + n - 1) &&& (n - 1)

/-- `tadma_stream_alm_offset`: where a transmit writes for the write pointer `wr`. -/
def tadmaStreamAlmOffset (n sid wr : Nat) : Nat :=
  xtadmaAlmOffset + sid * entrySize * n + almSlot n wr * entrySize

/-- `tadma_stream_alm_offset_irq`: where the interrupt polls for the ring index `rd`. -/
def tadmaStreamAlmOffsetIrq (n sid rd : Nat) : Nat :=
  xtadmaAlmOffset + sid * entrySize * n + rd * entrySize

/-- The step of the write pointer. -/
def pmNext (n wr : Nat) : Nat := (wr + 1) &&& (n - 1)

/-- Replace the fetch size field of a configuration word. -/
def putFetchSz (cfg len : U32) : U32 :=
  (cfg &&& ~~~xtadmaAlmFetchSzMask) ||| ((len <<< xtadmaAlmFetchSzShift) &&& xtadmaAlmFetchSzMask)

/-- `tot_len`: the linear part and every fragment. -/
def SkBuff.totLen (skb : SkBuff) : U32 :=
  skb.frags.foldl (fun total frag => total + frag.size) skb.headlen

/-- The ring entry of the linear part; a packet without fragments ends here. -/
def headBd (skb : SkBuff) (phys : BitVec 64) : AxitadmaBd where
  phys := phys.setWidth 32
  txSkb := if skb.frags.isEmpty then some skb.addr else none
  txDescMapping := .single
  numFrag := skb.frags.length + 1
  len := skb.headlen

/-- `alm_fframe`: the slot of the linear part, with the packet's total size. -/
def almFframe (skb : SkBuff) (phys : BitVec 64) : AlmEntry :=
  let cfg : U32 := (phys >>> 32).setWidth 32
  let cfg := if skb.frags.isEmpty then cfg ||| (xtadmaAlmSop ||| xtadmaAlmEop)
    else cfg ||| xtadmaAlmSop
  let cfg := putFetchSz cfg skb.headlen
  let totSz8 := skb.totLen / 8 + 1
  let cfg := (cfg &&& ~~~xtadmaAlmTotPktSzBy8Mask)
    ||| ((totSz8 <<< xtadmaAlmTotPktSzBy8Shift) &&& xtadmaAlmTotPktSzBy8Mask)
  ⟨phys.setWidth 32, cfg ||| xtadmaAlmUff⟩

/-- The ring entry of a fragment; the last one carries the packet. -/
def fragBd (addr : Nat) (frag : SkbFrag) (last : Bool) : AxitadmaBd where
  phys := frag.dma.setWidth 32
  txSkb := if last then some addr else none
  txDescMapping := .page
  numFrag := 0
  len := frag.size

/-- The slot of a fragment. -/
def almFrag (frag : SkbFrag) (last : Bool) : AlmEntry :=
  let cfg : U32 := (frag.dma >>> 32).setWidth 32
  let cfg := if last then cfg ||| xtadmaAlmEop else cfg
  ⟨frag.dma.setWidth 32, putFetchSz cfg frag.size ||| xtadmaAlmUff⟩

/-- One store of a transmit. Ring entries are stored at the current head. -/
inductive TxWrite
  | txBd (bd : AxitadmaBd)
  | txBdHead
  | almAddr (slot : Nat) (addr : U32)
  | almCfg (slot : Nat) (cfg : U32)
  | pmWr (wr : Nat)
  deriving DecidableEq, Repr

/-- The effect of one store. The read pointer field of the pointer word is the engine's:
storing the word changes its write pointer only.
-/
def StreamRing.store (n : Nat) (ring : StreamRing) : TxWrite → StreamRing
  | .txBd bd => { ring with txBd := Function.update ring.txBd ring.txBdHead (some bd) }
  | .txBdHead => { ring with txBdHead := (ring.txBdHead + 1) % n }
  | .almAddr slot addr =>
      { ring with alm := Function.update ring.alm slot { ring.alm slot with addr } }
  | .almCfg slot cfg =>
      { ring with alm := Function.update ring.alm slot { ring.alm slot with cfg } }
  | .pmWr wr => { ring with pm := setPmWr ring.pm wr }

/-- The fragment loop: each fragment publishes its ring entry and then writes its slot. -/
def fragWrites (n addr : Nat) : Nat → List SkbFrag → List TxWrite
  | _, [] => []
  | wr, frag :: rest =>
      let next := pmNext n wr
      let alm := almFrag frag rest.isEmpty
      .txBd (fragBd addr frag rest.isEmpty) :: .txBdHead
        :: .almAddr (almSlot n next) alm.addr :: .almCfg (almSlot n next) alm.cfg
        :: fragWrites n addr next rest

/-- All stores of an accepted transmit: the linear part's slot is written after those of
the fragments, and the write pointer last.
-/
def txWrites (n : Nat) (skb : SkBuff) (phys : BitVec 64) (wr : Nat) : List TxWrite :=
  let fframe := almFframe skb phys
  .txBd (headBd skb phys) :: .txBdHead
    :: (fragWrites n skb.addr wr skb.frags
      ++ [.almAddr (almSlot n wr) fframe.addr, .almCfg (almSlot n wr) fframe.cfg,
        .pmWr ((pmNext n)^[skb.frags.length + 1] wr)])

/-- `axienet_check_pm_space`. -/
def axienetCheckPmSpace (numFrag wr rd total : Nat) : Bool :=
  let avail : Int := (rd : Int) - wr
  let avail := if avail < 0 then total + avail else avail
  decide (avail ≥ numFrag)

/-- The tests of a transmit under the lock: the stores it goes on to make, or `none` for
`NETDEV_TX_BUSY`.
-/
def xmitAccept (n : Nat) (ring : StreamRing) (skb : SkBuff) : Option (List TxWrite) :=
  let numFrag := skb.frags.length
  if !axienetCheckPmSpace (numFrag + 1) (pmWr ring.pm) (pmRd ring.pm) n then none
  else if (ring.txBdHead + (numFrag + 1)) % n = ring.txBdTail then none
  else skb.dma.map fun phys => txWrites n skb phys (pmWr ring.pm)

/-- The results of `axienet_tadma_xmit`. -/
inductive NetdevTx
  | ok
  | busy
  deriving DecidableEq, Repr

/-- `axienet_tadma_xmit` on the ring of the packet's stream, under the lock throughout. -/
def tadmaXmitRing (n : Nat) (ring : StreamRing) (skb : SkBuff) : NetdevTx × StreamRing :=
  match xmitAccept n ring skb with
  | none => (.busy, ring)
  | some writes => (.ok, writes.foldl (StreamRing.store n) ring)

/-- The loop of `tadma_xmit_done`: at most `cnt` entries from the tail, returned in the
order in which they are unmapped and, where `tx_skb` is set, freed.
-/
def tadmaXmitDone (n : Nat) : Nat → StreamRing → StreamRing × List (Option AxitadmaBd)
  | 0, ring => (ring, [])
  | cnt + 1, ring =>
      if ring.txBdHead = ring.txBdTail then (ring, [])
      else
        let after := tadmaXmitDone n cnt { ring with txBdTail := (ring.txBdTail + 1) % n }
        (after.1, ring.txBd ring.txBdTail :: after.2)

/-- The polling loop of `tadma_irq` with `left` of its `num_tadma_buffers` rounds to go:
the slots it counts as completed.
-/
def tadmaIrqScan (n : Nat) : Nat → StreamRing → StreamRing × List Nat
  | 0, ring => (ring, [])
  | left + 1, ring =>
      if UffClear (ring.alm ring.txBdRd).cfg ∧ ring.txBdRd ≠ ring.txBdHead then
        let after := tadmaIrqScan n left { ring with txBdRd := (ring.txBdRd + 1) % n }
        (after.1, ring.txBdRd :: after.2)
      else (ring, [])

/-- The engine has a slot to fetch: its read pointer is not yet at the slot before the
write pointer.
-/
def StreamRing.Fetchable (n : Nat) (ring : StreamRing) : Prop :=
  (pmRd ring.pm + 1) % n ≠ pmWr ring.pm % n

instance (n : Nat) (ring : StreamRing) : Decidable (ring.Fetchable n) :=
  inferInstanceAs (Decidable (¬ _))

/-- The engine has fetched the slot at its read pointer and clears the slot's flag. -/
def StreamRing.fetchSlot (ring : StreamRing) : StreamRing :=
  { ring with
    alm := Function.update ring.alm (pmRd ring.pm) (ring.alm (pmRd ring.pm)).fetched }

/-- The engine then advances its read pointer. -/
def StreamRing.fetchNext (n : Nat) (ring : StreamRing) : StreamRing :=
  { ring with pm := setPmRd ring.pm ((pmRd ring.pm + 1) % n) }

end TsnTrdp.Tadma
