import TsnTrdp.Trdp.Frame
import TsnTrdp.Lib.Field
import TsnTrdp.Lib.Queue

/-! A session of the process data stack: its publishers and subscriptions, the queues that
hold them, and the counters of the senders that a subscription has heard.
-/

namespace TsnTrdp.Trdp

open TsnTrdp.Queue

def trdpTimerGranularity : Nat := 10000
def trdpTimerForever : U32 := 0xffffffff
def trdpSeqCntStartArraySize : Nat := 64
def trdpInvalidSocketIndex : Int := -1
def trdpStatisticsPullComid : U32 := 31
def trdpGlobalStatisticsComid : U32 := 35

def trdpMcJoint : U8 := 0x1
def trdpTimedOut : U8 := 0x2
def trdpInvalidData : U8 := 0x4
def trdpReq2bSent : U8 := 0x8
def trdpRedundant : U8 := 0x20

def trdpFlagsDefault : U8 := 0
def trdpFlagsMarshall : U8 := 0x02
def trdpFlagsCallback : U8 := 0x04
def trdpFlagsForceCb : U8 := 0x10

/-- Some bit of `flag` is set. -/
def Has (flags flag : U8) : Prop := flags &&& flag ≠ 0

instance (flags flag : U8) : Decidable (Has flags flag) := inferInstanceAs (Decidable (_ ≠ _))

/-- The flags with `flag` cleared. -/
def without (flags flag : U8) : U8 := flags &&& ~~~flag

variable {flags flag other : U8}

@[simp] theorem not_has_without : ¬ Has (without flags flag) flag :=
  fun has => has Field.clear_and_self

theorem has_without_of_disjoint (apart : Field.Disjoint flag other)
    : Has (without flags flag) other ↔ Has flags other := by
  unfold Has without
  rw [Field.clear_and apart]

theorem has_or_self (some : flag ≠ 0) : Has (flags ||| flag) flag := by
  unfold Has
  rwa [Field.or_and_self]

theorem has_or_of_disjoint (apart : Field.Disjoint flag other)
    : Has (flags ||| flag) other ↔ Has flags other := by
  unfold Has
  rw [Field.or_and apart]

/-- `TRDP_SEQ_CNT_ENTRY_T`. -/
structure SeqCntEntry where
  lastSeqCnt : U32
  srcIpAddr : U32
  msgType : U16
  deriving DecidableEq, Repr

/-- `TRDP_SEQ_CNT_LIST_T`; `curNoOfEntries` is the length of `seq`. -/
structure SeqCntList where
  maxNoOfEntries : U16
  seq : List SeqCntEntry
  deriving DecidableEq, Repr

def SeqCntList.curNoOfEntries (list : SeqCntList) : U16 := BitVec.ofNat 16 list.seq.length

/-- The entry of a sender. -/
def SeqCntEntry.isOf (srcIp : U32) (msgType : U16) (entry : SeqCntEntry) : Bool :=
  srcIp = entry.srcIpAddr ∧ msgType = entry.msgType

/-- `trdp_resetSequenceCounter`. -/
def trdpResetSequenceCounter (list : Option SeqCntList) (srcIp : U32) (msgType : U16)
    : Option SeqCntList :=
  list.map fun list =>
    { list with
      seq := list.seq.map fun entry =>
        if entry.isOf srcIp msgType then { entry with lastSeqCnt := 0 } else entry }

/-- The results 0, 1 and -1 of `trdp_checkSequenceCounter`. -/
inductive SeqCheck
  | fresh
  | duplicate
  | memory
  deriving DecidableEq, Repr

/-- The list with room for another entry, or `none` where it cannot be had. Copying the old list
into a smaller one overruns it, which is a fault.
-/
def growSeqCnt (alloc : Bool) (list : SeqCntList) : Option (Option SeqCntList) :=
  if list.curNoOfEntries < list.maxNoOfEntries then some (some list)
  else if !alloc then some none
  else if 2 * list.curNoOfEntries < list.maxNoOfEntries then none
  else some (some { list with maxNoOfEntries := 2 * list.curNoOfEntries })

/-- `trdp_checkSequenceCounter`, where `alloc` tells whether an allocation succeeds. -/
def trdpCheckSequenceCounter (alloc : Bool) (pSeqCntList : Option SeqCntList)
    (sequenceCounter srcIp : U32) (msgType : U16)
    : Option (SeqCheck × Option SeqCntList) :=
  match pSeqCntList.orElse fun _ =>
    if alloc then some ⟨BitVec.ofNat 16 trdpSeqCntStartArraySize, []⟩ else none with
  | none => some (.memory, none)
  | some list =>
      match list.seq.find? (SeqCntEntry.isOf srcIp msgType) with
      | some entry =>
          if entry.lastSeqCnt = 0 ∨ sequenceCounter ≠ entry.lastSeqCnt then
            some (.fresh, some { list with
              seq := modifyFirst (SeqCntEntry.isOf srcIp msgType)
                (fun entry => { entry with lastSeqCnt := sequenceCounter }) list.seq })
          else some (.duplicate, some list)
      | none =>
          match growSeqCnt alloc list with
          | none => none
          | some none => some (.memory, some list)
          | some (some list) =>
              some (.fresh, some { list with
                seq := list.seq ++ [⟨sequenceCounter, srcIp, msgType⟩] })

/-- `TRDP_ADDRESSES_T`. -/
structure TrdpAddresses where
  comId : U32
  srcIpAddr : U32
  destIpAddr : U32
  mcGroup : U32
  etbTopoCnt : U32
  opTrnTopoCnt : U32
  deriving DecidableEq, Repr

inductive TrdpToBehavior
  | default
  | setToZero
  | keepLastValue
  deriving DecidableEq, Repr

/-- `PD_ELE_T`. `handle` is the address of the element, by which the application names it. -/
structure PdEle where
  handle : Nat
  addr : TrdpAddresses
  lastSrcIp : U32
  pullIpAddress : U32
  redId : U32
  curSeqCnt : U32
  curSeqCnt4Pull : U32
  pSeqCntList : Option SeqCntList
  numRxTx : U32
  updPkts : U32
  getPkts : U32
  numMissed : U32
  lastErr : TrdpErr
  privFlags : U8
  pktFlags : U8
  interval : TrdpTime
  timeToGo : TrdpTime
  toBehavior : TrdpToBehavior
  dataSize : U32
  grossSize : U32
  sendSize : U32
  socketIdx : Int
  pUserRef : Nat
  pfCbFunction : Option Nat
  pFrame : PdPacket
  deriving DecidableEq, Repr

/-- An element of zeroed memory. -/
def PdEle.zero (handle : Nat) : PdEle where
  handle
  addr := ⟨0, 0, 0, 0, 0, 0⟩
  lastSrcIp := 0
  pullIpAddress := 0
  redId := 0
  curSeqCnt := 0
  curSeqCnt4Pull := 0
  pSeqCntList := none
  numRxTx := 0
  updPkts := 0
  getPkts := 0
  numMissed := 0
  lastErr := .noErr
  privFlags := 0
  pktFlags := 0
  interval := .cleared
  timeToGo := .cleared
  toBehavior := .default
  dataSize := 0
  grossSize := 0
  sendSize := 0
  socketIdx := 0
  pUserRef := 0
  pfCbFunction := none
  pFrame := .zero 0

/-- The element that the application names. -/
def PdEle.isAt (handle : Nat) (ele : PdEle) : Bool := ele.handle = handle

/-- The test of `trdp_queueFindComId`. -/
def PdEle.matchesComId (comId : U32) (ele : PdEle) : Bool := ele.addr.comId = comId

/-- The test of `trdp_queueFindPubAddr`. -/
def PdEle.matchesPubAddr (addr : TrdpAddresses) (ele : PdEle) : Bool :=
  ele.addr.comId = addr.comId
  ∧ (ele.addr.srcIpAddr = 0 ∨ ele.addr.srcIpAddr = addr.srcIpAddr)
  ∧ (ele.addr.destIpAddr = 0 ∨ ele.addr.destIpAddr = addr.destIpAddr)
  ∧ (ele.addr.mcGroup = 0 ∨ ele.addr.mcGroup = addr.mcGroup)

/-- The test of `trdp_queueFindSubAddr`. -/
def PdEle.matchesSubAddr (addr : TrdpAddresses) (ele : PdEle) : Bool :=
  ele.addr.comId = addr.comId
  ∧ (ele.addr.srcIpAddr = 0 ∨ ele.addr.srcIpAddr = addr.srcIpAddr)
  ∧ (ele.addr.destIpAddr = 0 ∨ ele.addr.destIpAddr = addr.destIpAddr)

def trdpQueueFindComId (queue : List PdEle) (comId : U32) : Option PdEle :=
  queue.find? (PdEle.matchesComId comId)

def trdpQueueFindPubAddr (queue : List PdEle) (addr : TrdpAddresses) : Option PdEle :=
  queue.find? (PdEle.matchesPubAddr addr)

def trdpQueueFindSubAddr (queue : List PdEle) (addr : TrdpAddresses) : Option PdEle :=
  queue.find? (PdEle.matchesSubAddr addr)

/-- `trdp_validTopoCounters`. -/
def trdpValidTopoCounters (_etbTopoCnt _opTrnTopoCnt _etbTopoCntFilter _opTrnTopoCntFilter : U32)
    : Bool :=
  true

/-- `trdp_pdInit`. -/
def trdpPdInit (ele : PdEle) (type : U16) (etbTopoCnt opTrnTopoCnt replyComId replyIpAddress : U32)
    : PdEle :=
  { ele with
    pFrame :=
      { ele.pFrame with
        frameHead :=
          { ele.pFrame.frameHead with
            protocolVersion := trdpProtoVer
            etbTopoCnt
            opTrnTopoCnt
            comId := ele.addr.comId
            msgType := type
            datasetLength := ele.dataSize
            reserved := 0
            replyComId
            replyIpAddress } } }

/-- A marshalling function: for a comId and data, its result, the bytes that it writes and the
size that it reports.
-/
abbrev TrdpMarshall : Type := U32 → List U8 → TrdpErr × List U8 × U32

/-- `TRDP_PD_CONFIG_T`. -/
structure PdConfig where
  pfCbFunction : Option Nat
  flags : U8
  timeout : U32
  toBehavior : TrdpToBehavior
  deriving DecidableEq, Repr

/-- The process data counters of the session's statistics. -/
structure PdStatistics where
  numRcv : U32
  numCrcErr : U32
  numProtErr : U32
  numTopoErr : U32
  numTimeout : U32
  numSend : U32
  deriving DecidableEq, Repr

/-- `TRDP_SESSION_T`; `blocking` and `trafficShaping` are the bits of `option`. -/
structure TrdpSession where
  realIp : U32
  etbTopoCnt : U32
  opTrnTopoCnt : U32
  nextJob : TrdpTime
  marshall : Option TrdpMarshall
  unmarshall : Option TrdpMarshall
  pdDefault : PdConfig
  blocking : Bool
  trafficShaping : Bool
  pSndQueue : List PdEle
  pRcvQueue : List PdEle
  pNewFrame : PdPacket
  stats : PdStatistics

/-- A session that has just been opened. -/
def TrdpSession.opened (realIp : U32) (pdDefault : PdConfig) (blocking trafficShaping : Bool)
    : TrdpSession where
  realIp
  etbTopoCnt := 0
  opTrnTopoCnt := 0
  nextJob := .cleared
  marshall := none
  unmarshall := none
  pdDefault
  blocking
  trafficShaping
  pSndQueue := []
  pRcvQueue := []
  pNewFrame := .zero trdpMaxPdDataSize
  stats := ⟨0, 0, 0, 0, 0, 0⟩

end TsnTrdp.Trdp
