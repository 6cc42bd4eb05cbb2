import TsnTrdp.Mcdma.TxQueue

/-! The receive ring of one MCDMA channel: its set-up, the engine that fills it and the
driver's receive loop. The driver is that of a TSN device, which takes no time stamps here.
-/

namespace TsnTrdp.Mcdma

open TsnTrdp.Tadma (U32)

/-- `RX_BD_NUM`. -/
def rxBdNum : Nat := 128

def xaxidmaBdStsActualLenMask : U32 := 0x007FFFFF
def xaeFeatureFullRxCsum : U32 := 1 <<< 2
def xaeFullCsumStatusMask : U32 := 0x00000038
def xaeIpUdpCsumValidated : U32 := 3
def xaeIpTcpCsumValidated : U32 := 2
def xmcdmaBdSdStsAllMask : U32 := 0x00000030
def xmcdmaBdSdStsTuserEp : U32 := 0x00000000
def xmcdmaBdSdStsTuserMac1 : U32 := 0x00000010
def xmcdmaBdSdStsTuserMac2 : U32 := 0x00000020
def xmcdmaBdSdStsTuserExEp : U32 := 0x00000030
def mcdmaMgmtChan : U32 := 1 <<< 0
def mcdmaEpExChan : U32 := 1 <<< 1
def ethHlen : U32 := 14
def ethPIp : BitVec 16 := 0x0800

/-- What a receive reads of the device and of the queue's set-up. Network devices are
numbers; `dma` is the address that mapping a buffer yields.
-/
structure RxConfig where
  mactype : AxienetIpType
  features : U32
  ethHasnobuf : Bool
  maxFrmSize : U32
  flags : U32
  ndev : Nat
  slaves : Nat → Option Nat
  exEp : Option Nat
  netifRunning : Nat → Bool
  dma : Nat → BitVec 64

/-- The fields of `struct aximcdma_bd` that receive uses. -/
structure RxBd where
  phys : BitVec 64
  cntrl : U32
  status : U32
  sbandStats : U32
  app2 : U32
  app3 : U32
  app4 : U32
  swIdOffset : Nat
  deriving DecidableEq, Repr

/-- The queue with its channel: the descriptor that the engine fills next, the tail
descriptor that it was given, and whether it has yet to fill that one. `skbs` counts the
buffers allocated so far, which names the next; `etherType` is what they received.
-/
structure RxQueue where
  rxqBdV : Nat → RxBd
  rxBdCi : Nat
  curDesc : Nat
  tailDesc : Nat
  running : Bool
  skbs : Nat
  etherType : Nat → BitVec 16

/-- A received frame: its buffer and length, what is known of its checksum, and the network
device that it was given to, if it was not dropped.
-/
structure RxFrame where
  skb : Nat
  length : U32
  ipSummed : IpSummed
  csum : U32
  dev : Option Nat
  deriving DecidableEq, Repr

/-- The descriptor's status says that it is complete. -/
def RxBd.Complete (bd : RxBd) : Prop := bd.status &&& xaxidmaBdStsCompleteMask ≠ 0

instance (bd : RxBd) : Decidable bd.Complete := inferInstanceAs (Decidable (_ ≠ _))

/-- A descriptor with a new buffer. -/
def RxBd.armed (cfg : RxConfig) (bd : RxBd) (skb : Nat) : RxBd :=
  { bd with
    phys := cfg.dma skb
    cntrl := cfg.maxFrmSize
    status := 0
    swIdOffset := skb }

/-- A descriptor of zeroed memory. -/
def RxBd.zero : RxBd := ⟨0, 0, 0, 0, 0, 0, 0, 0⟩

/-- One round of the loop of `axienet_mcdma_rx_q_init`: an allocation and a mapping. -/
def rxBdInit (cfg : RxConfig) (allocated mapped : Nat → Bool) (bds : Nat → RxBd) (i : Nat)
    : Option (Nat → RxBd) :=
  if allocated i && mapped i then some (Function.update bds i ((bds i).armed cfg i))
  else none

/-- `axienet_mcdma_rx_q_init`; `none` is `-ENOMEM`. The engine is started with the ring's
last descriptor as tail.
-/
def axienetMcdmaRxQInit (cfg : RxConfig) (allocated mapped : Nat → Bool)
    (etherType : Nat → BitVec 16)
    : Option RxQueue := do
  let bds ← (List.range rxBdNum).foldlM (rxBdInit cfg allocated mapped) (fun _ => .zero)
  return {
    rxqBdV := bds
    rxBdCi := 0
    curDesc := 0
    tailDesc := rxBdNum - 1
    running := true
    skbs := rxBdNum
    etherType }

/-- `be32_to_cpu` on a little-endian machine. -/
def be32ToCpu (x : U32) : U32 :=
  x.extractLsb' 0 8 ++ x.extractLsb' 8 8 ++ x.extractLsb' 16 8 ++ x.extractLsb' 24 8

/-- The length of the frame that a descriptor holds. -/
def rxLength (cfg : RxConfig) (cur : RxBd) : U32 :=
  if cfg.ethHasnobuf ∨ cfg.mactype ≠ .xaxienet1G then cur.status &&& xaxidmaBdStsActualLenMask
  else cur.app4 &&& 0x0000FFFF

/-- The checksum fields of the frame; `len` is its length without the Ethernet header. -/
def rxCsum (cfg : RxConfig) (cur : RxBd) (protocol : BitVec 16) (len : U32) : IpSummed × U32 :=
  if cfg.features &&& xaeFeatureFullRxCsum ≠ 0 ∧ cfg.mactype = .xaxienet1G ∧ !cfg.ethHasnobuf then
    let csumstatus := (cur.app2 &&& xaeFullCsumStatusMask) >>> 3
    if csumstatus = xaeIpTcpCsumValidated ∨ csumstatus = xaeIpUdpCsumValidated then
      (.checksumUnnecessary, 0)
    else (.checksumNone, 0)
  else if cfg.features &&& xaeFeaturePartialRxCsum ≠ 0 ∧ protocol = ethPIp ∧ 64 < len
      ∧ !cfg.ethHasnobuf ∧ cfg.mactype = .xaxienet1G then
    (.checksumComplete, be32ToCpu (cur.app3 &&& 0xFFFF))
  else (.checksumNone, 0)

/-- The network device of a frame on the management channel, by the sideband status that was
read before the loop; where it names none, the last frame's device stays.
-/
def mgmtNdev (cfg : RxConfig) (sbandStatus : U32) (tempNdev : Option Nat) : Option Nat :=
  let tuser := sbandStatus &&& xmcdmaBdSdStsAllMask
  if tuser = xmcdmaBdSdStsTuserMac1 then cfg.slaves 0
  else if tuser = xmcdmaBdSdStsTuserMac2 then cfg.slaves 1
  else if tuser = xmcdmaBdSdStsTuserEp then some cfg.ndev
  else if cfg.exEp.isSome ∧ tuser = xmcdmaBdSdStsTuserExEp then cfg.exEp
  else tempNdev

/-- The value of `temp_ndev` after a frame. -/
def rxTempNdev (cfg : RxConfig) (sbandStatus : U32) (tempNdev : Option Nat) : Option Nat :=
  if cfg.flags &&& mcdmaMgmtChan ≠ 0 then mgmtNdev cfg sbandStatus tempNdev
  else if cfg.flags &&& mcdmaEpExChan ≠ 0 then cfg.exEp
  else tempNdev

/-- The device that a frame is given to; `none` is a frame that is freed. -/
def rxDev (cfg : RxConfig) (tempNdev : Option Nat) : Option Nat :=
  if cfg.flags &&& (mcdmaMgmtChan ||| mcdmaEpExChan) ≠ 0 then
    tempNdev.filter fun dev => cfg.netifRunning dev
  else some cfg.ndev

/-- The frame that a descriptor holds, as it leaves the driver. -/
def rxFrame (cfg : RxConfig) (q : RxQueue) (cur : RxBd) (tempNdev : Option Nat) : RxFrame :=
  let length := rxLength cfg cur
  let csum := rxCsum cfg cur (q.etherType cur.swIdOffset) (length - ethHlen)
  { skb := cur.swIdOffset
    length
    ipSummed := csum.1
    csum := csum.2
    dev := rxDev cfg tempNdev }

/-- The locals of `axienet_recv`: the frames passed on, the descriptors given back, the
descriptor that `tail_p` names, and `temp_ndev`.
-/
structure RxPass where
  q : RxQueue
  frames : List RxFrame
  numbdfree : Nat
  tailP : Option Nat
  tempNdev : Option Nat

/-- The loop of `axienet_recv` for at most `fuel` more descriptors. The `k`-th
`netdev_alloc_skb` of the call succeeds if `allocated k`. Where it fails, the frame has been
passed on and the loop is left before the descriptor is renewed.
-/
def recvLoop (cfg : RxConfig) (sbandStatus : U32) (allocated : Nat → Bool)
    : Nat → RxPass → RxPass
  | 0, pass => pass
  | fuel + 1, pass =>
      let ci := pass.q.rxBdCi
      let cur := pass.q.rxqBdV ci
      if cur.Complete then
        let tempNdev := rxTempNdev cfg sbandStatus pass.tempNdev
        let frames := pass.frames ++ [rxFrame cfg pass.q cur tempNdev]
        if allocated pass.numbdfree then
          recvLoop cfg sbandStatus allocated fuel {
            q := { pass.q with
              rxqBdV := Function.update pass.q.rxqBdV ci (cur.armed cfg pass.q.skbs)
              rxBdCi := (ci + 1) % rxBdNum
              skbs := pass.q.skbs + 1 }
            frames
            numbdfree := pass.numbdfree + 1
            tailP := some ci
            tempNdev }
        else { pass with frames, tailP := some ci, tempNdev }
      else pass

/-- Writing the tail descriptor has the engine run up to it. -/
def RxQueue.writeTail (q : RxQueue) : Option Nat → RxQueue
  | some tail => { q with tailDesc := tail, running := true }
  | none => q

/-- `axienet_recv`, with the frames that it passes on; it returns the number of descriptors
given back.
-/
def axienetRecv (cfg : RxConfig) (q : RxQueue) (budget : U32) (allocated : Nat → Bool)
    : Nat × RxQueue × List RxFrame :=
  let pass := recvLoop cfg (q.rxqBdV q.rxBdCi).sbandStats allocated budget.toNat
    ⟨q, [], 0, none, none⟩
  (pass.numbdfree, pass.q.writeTail pass.tailP, pass.frames)

/-- What the engine writes into a descriptor that it has filled. -/
structure RxCompletion where
  status : U32
  sbandStats : U32
  app2 : U32
  app3 : U32
  app4 : U32
  etherType : BitVec 16
  deriving DecidableEq, Repr

/-- The engine fills the buffer of its descriptor, and stops behind the tail descriptor. -/
def RxQueue.complete (q : RxQueue) (done : RxCompletion) : RxQueue :=
  let cur := q.rxqBdV q.curDesc
  { q with
    rxqBdV := Function.update q.rxqBdV q.curDesc
      { cur with
        status := done.status ||| xaxidmaBdStsCompleteMask
        sbandStats := done.sbandStats
        app2 := done.app2
        app3 := done.app3
        app4 := done.app4 }
    curDesc := (q.curDesc + 1) % rxBdNum
    running := q.curDesc ≠ q.tailDesc
    etherType := Function.update q.etherType cur.swIdOffset done.etherType }

/-- The ring is set up with one new buffer in each descriptor. Induction on the rounds. -/
theorem rxBdInit_fold {cfg : RxConfig} {allocated mapped : Nat → Bool} {n : Nat}
    {bds : Nat → RxBd}
    (done : (List.range n).foldlM (rxBdInit cfg allocated mapped) (fun _ => .zero) = some bds)
    : ∀ i < n, ¬ (bds i).Complete ∧ (bds i).swIdOffset = i := by
  induction n generalizing bds with
  | zero => exact fun i low => absurd low (Nat.not_lt_zero i)
  | succ n ih =>
      rw [List.range_succ, List.foldlM_append] at done
      obtain ⟨before, earlier, last⟩ := Option.bind_eq_some_iff.mp done
      simp only [List.foldlM_cons, List.foldlM_nil] at last
      obtain ⟨after, filled, same⟩ := Option.bind_eq_some_iff.mp last
      obtain rfl : after = bds := Option.some.inj same
      have slots := ih earlier
      rw [rxBdInit] at filled
      split at filled
      · cases filled
        intro i low
        rcases Nat.lt_or_eq_of_le (Nat.le_of_lt_succ low) with old | rfl
        · rw [Function.update_of_ne (Nat.ne_of_lt old)]
          exact slots i old
        · rw [Function.update_self]
          exact ⟨by simp [RxBd.Complete, RxBd.armed], rfl⟩
      · cases filled

/-- What a successful set-up leaves. -/
theorem axienetMcdmaRxQInit_armed {cfg : RxConfig} {allocated mapped : Nat → Bool}
    {etherType : Nat → BitVec 16} {q : RxQueue}
    (done : axienetMcdmaRxQInit cfg allocated mapped etherType = some q)
    : (∀ i < rxBdNum, ¬ (q.rxqBdV i).Complete ∧ (q.rxqBdV i).swIdOffset = i)
      ∧ q.rxBdCi = 0 ∧ q.curDesc = 0 ∧ q.tailDesc = rxBdNum - 1 ∧ q.running
      ∧ q.skbs = rxBdNum := by
  obtain ⟨bds, filled, same⟩ := Option.bind_eq_some_iff.mp done
  obtain rfl := Option.some.inj same
  exact ⟨rxBdInit_fold filled, rfl, rfl, rfl, rfl, rfl⟩

end TsnTrdp.Mcdma
