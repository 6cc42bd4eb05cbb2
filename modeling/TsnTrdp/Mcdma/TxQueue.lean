import TsnTrdp.Tadma.StreamRing

/-! The transmit queue of one MCDMA channel: its ring of buffer descriptors, the driver's
transmit, completion and error recovery, and the channel's engine. The driver is that of a
TSN device, which takes no time stamps here.
-/

namespace TsnTrdp.Mcdma

open TsnTrdp.Tadma (U32 SkbFrag DescDmaMap NetdevTx)

/-- `TX_BD_NUM`. -/
def txBdNum : Nat := 64

def xmcdmaBdCtrlTxsofMask : U32 := 0x80000000
def xmcdmaBdCtrlTxeofMask : U32 := 0x40000000
def xmcdmaBdStsAllMask : U32 := 0xF0000000
def xaxidmaBdStsCompleteMask : U32 := 0x80000000
def xaeFeaturePartialRxCsum : U32 := 1 <<< 0
def xaeFeatureFullTxCsum : U32 := 1 <<< 3
def xxvMacMinPktLen : U32 := 64
def xaeMaxPktLen : Nat := 8192

inductive AxienetIpType
  | xaxienet1G
  | xaxienet25G
  | xaxienetLegacy10G
  | xaxienet10G25G
  deriving DecidableEq, Repr

inductive IpSummed
  | checksumNone
  | checksumUnnecessary
  | checksumComplete
  | checksumPartial
  deriving DecidableEq, Repr

/-- What a transmit reads of the device and of the queue's set-up: `txBufsDma` is the copy
buffer that is there without a data realignment engine.
-/
structure TxConfig where
  mactype : AxienetIpType
  features : U32
  ethHasnobuf : Bool
  ethHasdre : Bool
  txBufsDma : BitVec 64
  deriving DecidableEq, Repr

/-- What a transmit reads of a socket buffer; `dma` is the address that mapping the linear
part yields.
-/
structure SkBuff where
  addr : Nat
  data : BitVec 64
  headlen : U32
  dma : BitVec 64
  frags : List SkbFrag
  ipSummed : IpSummed
  transportOffset : U32
  csumOffset : U32
  deriving DecidableEq, Repr

/-- `skb->len` and `skb_pagelen`, which agree on packets without a fragment list. -/
def SkBuff.len (skb : SkBuff) : U32 :=
  skb.frags.foldl (fun total frag => total + frag.size) skb.headlen

/-- The fields of `struct aximcdma_bd` that transmit uses. -/
structure AximcdmaBd where
  phys : BitVec 64
  cntrl : U32
  sbandStats : U32
  app0 : U32
  app1 : U32
  txSkb : Option Nat
  txDescMapping : DescDmaMap
  deriving DecidableEq, Repr

/-- The queue with its channel: the descriptor that the engine processes next, and the tail
descriptor that it was given.
-/
structure TxQueue where
  txqBdV : Nat → AximcdmaBd
  txBdCi : Nat
  txBdTail : Nat
  curDesc : Nat
  tailDesc : Option Nat

/-- A descriptor of zeroed memory. -/
def AximcdmaBd.zero : AximcdmaBd := ⟨0, 0, 0, 0, 0, none, .single⟩

/-- The queue after `axienet_mcdma_tx_q_init`. -/
def TxQueue.init : TxQueue where
  txqBdV := fun _ => .zero
  txBdCi := 0
  txBdTail := 0
  curDesc := 0
  tailDesc := none

/-- `CIRC_CNT`. -/
def circCnt (head tail size : Nat) : U32 :=
  (BitVec.ofNat 32 head - BitVec.ofNat 32 tail) &&& BitVec.ofNat 32 (size - 1)

/-- `CIRC_SPACE`. -/
def circSpace (head tail size : Nat) : U32 := circCnt tail (head + 1) size

/-- `axienet_check_tx_bd_space`. -/
def axienetCheckTxBdSpace (q : TxQueue) (numFrag : Nat) : NetdevTx :=
  if (circSpace q.txBdTail q.txBdCi txBdNum).toNat < numFrag + 1 then .busy
  else if (q.txqBdV ((q.txBdTail + numFrag) % txBdNum)).sbandStats &&& xmcdmaBdStsAllMask ≠ 0 then
    .busy
  else .ok

/-- The checksum fields of the first descriptor. -/
def csumBd (cfg : TxConfig) (skb : SkBuff) (cur : AximcdmaBd) : AximcdmaBd :=
  if skb.ipSummed = .checksumPartial ∧ !cfg.ethHasnobuf ∧ cfg.mactype = .xaxienet1G then
    if cfg.features &&& xaeFeatureFullTxCsum ≠ 0 then { cur with app0 := cur.app0 ||| 2 }
    else if cfg.features &&& xaeFeaturePartialRxCsum ≠ 0 then
      { cur with
        app0 := cur.app0 ||| 1
        app1 := (skb.transportOffset <<< 16) ||| (skb.transportOffset + skb.csumOffset) }
    else cur
  else if skb.ipSummed = .checksumUnnecessary ∧ !cfg.ethHasnobuf ∧ cfg.mactype = .xaxienet1G then
    { cur with app0 := cur.app0 ||| 2 }
  else cur

/-- The padding that the 10G MAC needs. -/
def SkBuff.pad (cfg : TxConfig) (skb : SkBuff) : U32 :=
  if skb.len < xxvMacMinPktLen ∧ cfg.mactype = .xaxienet10G25G then xxvMacMinPktLen - skb.len
  else 0

/-- The packet is copied into one buffer of the queue: without a realignment engine, where
its data is not aligned or it has fragments.
-/
def SkBuff.copied (cfg : TxConfig) (skb : SkBuff) : Bool :=
  !cfg.ethHasdre && (skb.data &&& 0x3 ≠ 0 || skb.frags.length > 0)

/-- The first descriptor of a packet, in ring entry `tail`. -/
def headBd (cfg : TxConfig) (skb : SkBuff) (tail : Nat) (cur : AximcdmaBd) : AximcdmaBd :=
  let cur := csumBd cfg skb cur
  if skb.copied cfg then
    { cur with
      phys := cfg.txBufsDma + BitVec.ofNat 64 (tail * xaeMaxPktLen)
      cntrl := skb.len ||| xmcdmaBdCtrlTxsofMask }
  else
    let pad := if skb.frags.length = 0 then skb.pad cfg else 0
    { cur with
      phys := skb.dma
      cntrl := (skb.headlen ||| xmcdmaBdCtrlTxsofMask) + pad
      txDescMapping := .single }

/-- The fragments that get a descriptor of their own. -/
def SkBuff.mapped (cfg : TxConfig) (skb : SkBuff) : List SkbFrag :=
  if skb.copied cfg then [] else skb.frags

/-- The descriptor of a fragment, padded at the end of the packet. -/
def fragBd (pad : U32) (frag : SkbFrag) (last : Bool) (cur : AximcdmaBd) : AximcdmaBd :=
  { cur with
    phys := frag.dma
    cntrl := if last then frag.size + pad else frag.size
    txDescMapping := .page }

/-- The loop over the fragments: each takes the next descriptor. -/
def fragBds (pad : U32) : List SkbFrag → Nat → (Nat → AximcdmaBd) → Nat × (Nat → AximcdmaBd)
  | [], tail, bds => (tail, bds)
  | frag :: rest, tail, bds =>
      let next := (tail + 1) % txBdNum
      fragBds pad rest next (Function.update bds next (fragBd pad frag rest.isEmpty (bds next)))

/-- The last descriptor of a packet is marked and carries it. -/
def lastBd (skb : SkBuff) (cur : AximcdmaBd) : AximcdmaBd :=
  { cur with
    cntrl := cur.cntrl ||| xmcdmaBdCtrlTxeofMask
    txSkb := some skb.addr }

/-- `axienet_queue_xmit`. -/
def axienetQueueXmit (cfg : TxConfig) (q : TxQueue) (skb : SkBuff) : NetdevTx × TxQueue :=
  match axienetCheckTxBdSpace q skb.frags.length with
  | .busy => (.busy, q)
  | .ok =>
      let first := headBd cfg skb q.txBdTail (q.txqBdV q.txBdTail)
      let filled := fragBds (skb.pad cfg) (skb.mapped cfg) q.txBdTail
        (Function.update q.txqBdV q.txBdTail first)
      let tail := filled.1
      (.ok,
        { q with
          txqBdV := Function.update filled.2 tail (lastBd skb (filled.2 tail))
          txBdTail := (tail + 1) % txBdNum
          tailDesc := some tail })

/-- The descriptor's status says that it is complete. -/
def AximcdmaBd.Complete (bd : AximcdmaBd) : Prop := bd.sbandStats &&& xaxidmaBdStsCompleteMask ≠ 0

instance (bd : AximcdmaBd) : Decidable bd.Complete := inferInstanceAs (Decidable (_ ≠ _))

/-- What completion leaves of a descriptor. -/
def AximcdmaBd.reaped (bd : AximcdmaBd) : AximcdmaBd :=
  { bd with
    app0 := 0
    app1 := 0
    txSkb := none
    sbandStats := 0 }

/-- The loop of `axienet_start_xmit_done` for at most `fuel` descriptors, with those that it
unmaps and whose packets it frees.
-/
def xmitDoneLoop : Nat → TxQueue → TxQueue × List AximcdmaBd
  | 0, q => (q, [])
  | fuel + 1, q =>
      let cur := q.txqBdV q.txBdCi
      if cur.Complete then
        let after := xmitDoneLoop fuel
          { q with
            txqBdV := Function.update q.txqBdV q.txBdCi cur.reaped
            txBdCi := (q.txBdCi + 1) % txBdNum }
        (after.1, cur :: after.2)
      else (q, [])

/-- `axienet_start_xmit_done`. Each round clears the status that it has found, so the loop
ends within one lap.
-/
def axienetStartXmitDone (q : TxQueue) : TxQueue × List AximcdmaBd := xmitDoneLoop txBdNum q

/-- What recovery leaves of a descriptor. -/
def AximcdmaBd.recovered (bd : AximcdmaBd) : AximcdmaBd :=
  { bd with
    phys := 0
    cntrl := 0
    app0 := 0
    app1 := 0
    txSkb := none }

/-- `axienet_mcdma_err_handler`, with the descriptors that it unmaps and whose packets it
frees. The channel is reset first and set up at the end with the ring's first descriptor.
-/
def axienetMcdmaErrHandler (q : TxQueue) : TxQueue × List AximcdmaBd :=
  ({ txqBdV := fun i => (q.txqBdV i).recovered
     txBdCi := 0
     txBdTail := 0
     curDesc := 0
     tailDesc := none },
    (List.range txBdNum).map q.txqBdV)

/-- The engine has a descriptor to process: it has not passed the tail descriptor. -/
def TxQueue.Busy (q : TxQueue) : Prop :=
  ∃ tail ∈ q.tailDesc, q.curDesc ≠ (tail + 1) % txBdNum

instance (q : TxQueue) : Decidable q.Busy :=
  inferInstanceAs (Decidable (∃ tail ∈ q.tailDesc, _))

/-- The engine completes its descriptor with a status. -/
def TxQueue.complete (q : TxQueue) (status : U32) : TxQueue :=
  { q with
    txqBdV := Function.update q.txqBdV q.curDesc
      { q.txqBdV q.curDesc with sbandStats := status ||| xaxidmaBdStsCompleteMask }
    curDesc := (q.curDesc + 1) % txBdNum }

theorem not_complete_reaped (bd : AximcdmaBd) : ¬ bd.reaped.Complete := by
  simp [AximcdmaBd.Complete, AximcdmaBd.reaped]

/-- The loop does not run out of rounds: it stops at a descriptor that is not complete.
Induction on the rounds, which are at least the complete descriptors.
-/
theorem xmitDoneLoop_stops {fuel : Nat} {q : TxQueue} (range : q.txBdCi < txBdNum)
    (enough : ((Finset.range txBdNum).filter fun i => (q.txqBdV i).Complete).card ≤ fuel)
    : ¬ ((xmitDoneLoop fuel q).1.txqBdV (xmitDoneLoop fuel q).1.txBdCi).Complete := by
  induction fuel generalizing q with
  | zero =>
      intro complete
      have none := Finset.card_eq_zero.mp (Nat.le_zero.mp enough)
      have member : q.txBdCi ∈ (Finset.range txBdNum).filter fun i => (q.txqBdV i).Complete :=
        Finset.mem_filter.mpr ⟨Finset.mem_range.mpr range, complete⟩
      rw [none] at member
      cases member
  | succ fuel ih =>
      by_cases complete : (q.txqBdV q.txBdCi).Complete
      · simp only [xmitDoneLoop, if_pos complete]
        refine ih (Nat.mod_lt _ (by decide)) ?_
        apply Nat.le_of_lt_succ
        refine Nat.lt_of_lt_of_le (Finset.card_lt_card ?_) enough
        refine Finset.ssubset_iff_of_subset ?_ |>.mpr ⟨q.txBdCi, ?_, ?_⟩
        · intro i member
          obtain ⟨bound, still⟩ := Finset.mem_filter.mp member
          refine Finset.mem_filter.mpr ⟨bound, ?_⟩
          by_cases same : i = q.txBdCi
          · exact same ▸ complete
          · simpa [Function.update_of_ne same] using still
        · exact Finset.mem_filter.mpr ⟨Finset.mem_range.mpr range, complete⟩
        · intro member
          have still := (Finset.mem_filter.mp member).2
          simp only [Function.update_self] at still
          exact not_complete_reaped _ still
      · simpa only [xmitDoneLoop, if_neg complete] using complete

theorem axienetStartXmitDone_stops {q : TxQueue} (range : q.txBdCi < txBdNum)
    : ¬ ((axienetStartXmitDone q).1.txqBdV (axienetStartXmitDone q).1.txBdCi).Complete := by
  apply xmitDoneLoop_stops range
  exact (Finset.card_filter_le _ _).trans_eq (Finset.card_range _)

end TsnTrdp.Mcdma
