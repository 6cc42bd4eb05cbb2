import TsnTrdp.Trdp.Publish

/-! Receiving process data: one datagram from the socket through the header check, the pull
requests, the subscriptions and the sequence counters to the application; reading the data of a
subscription; and the scan for subscriptions that are late.
-/

namespace TsnTrdp.Trdp

open TsnTrdp.Queue

/-- What a read of the socket finds: `recvmsg` with its result, or no socket at all. -/
inductive Recvmsg
  | datagram (bytes : List U8) (srcIpAddr destIpAddr : U32)
  | wouldBlock
  | connReset
  | failed
  | noSocket
  deriving DecidableEq, Repr

/-- A datagram in the receive buffer. -/
structure Datagram where
  bytes : List U8
  srcIpAddr : U32
  destIpAddr : U32
  deriving DecidableEq, Repr

/-- `vos_sockReceiveUDP`, with a buffer of the maximum packet size. -/
def vosSockReceiveUdp : Recvmsg → Except TrdpErr Datagram
  | .datagram bytes srcIpAddr destIpAddr =>
      if bytes = [] then .error .nodataErr
      else .ok ⟨bytes.take trdpMaxPdPacketSize, srcIpAddr, destIpAddr⟩
  | .wouldBlock => .error .blockErr
  | .connReset => .ok ⟨[], 0, 0⟩
  | .failed => .error .ioErr
  | .noSocket => .error .paramErr

/-- `TRDP_PD_INFO_T`. -/
structure PdInfo where
  comId : U32
  srcIpAddr : U32
  destIpAddr : U32
  etbTopoCnt : U32
  opTrnTopoCnt : U32
  msgType : U16
  seqCount : U32
  protVersion : U16
  replyComId : U32
  replyIpAddr : U32
  pUserRef : Nat
  resultCode : TrdpErr
  deriving DecidableEq, Repr

/-- A call of a callback function for the element `handle`. -/
structure PdCallback where
  function : Nat
  handle : Nat
  message : PdInfo
  data : List U8
  deriving DecidableEq, Repr

/-- The comId that a pull request asks for. -/
def PdHeader.pulledComId (head : PdHeader) : U32 :=
  if head.comId = trdpStatisticsPullComid then trdpGlobalStatisticsComid
  else if head.replyComId = 0 then head.comId
  else head.replyComId

/-- The address that a pull request wants its answer sent to. -/
def PdHeader.pullAddress (head : PdHeader) (srcIpAddr : U32) : U32 :=
  if head.replyIpAddress ≠ 0 then head.replyIpAddress else srcIpAddr

/-- The statistics publisher is prepared for a request: `trdp_pdInit` and `trdp_pdPrepareStats`,
which writes the `statistics` to its frame.
-/
def pdPrepareStats (etbTopoCnt opTrnTopoCnt : U32) (statistics : List U8) (head : PdHeader)
    (ele : PdEle)
    : PdEle :=
  let ele :=
    { ele with
      addr :=
        { ele.addr with
          comId := trdpGlobalStatisticsComid
          destIpAddr := head.replyIpAddress } }
  let ele := trdpPdInit ele trdpMsgPp etbTopoCnt opTrnTopoCnt 0 0
  { ele with
    pFrame := { ele.pFrame with data := memcpy ele.pFrame.data statistics }
    dataSize := BitVec.ofNat 32 statistics.length
    privFlags := without ele.privFlags trdpInvalidData }

/-- The pulled element is to be sent at once. -/
def PdEle.pulled (pullIpAddress : U32) (ele : PdEle) : PdEle :=
  { ele with pullIpAddress, privFlags := ele.privFlags ||| trdpReq2bSent }

/-- `trdp_pdReceive`: a pull request marks the element that it asks for, if there is one. -/
def pdPullRequest (statistics : List U8) (head : PdHeader) (srcIpAddr : U32)
    (session : TrdpSession)
    : Option TrdpSession :=
  (trdpQueueFindComId session.pSndQueue head.pulledComId).map fun _ =>
    { session with
      pSndQueue :=
        modifyFirst (PdEle.matchesComId head.pulledComId)
          (fun ele =>
            (if head.comId = trdpStatisticsPullComid then
              pdPrepareStats session.etbTopoCnt session.opTrnTopoCnt statistics head ele
            else ele).pulled (head.pullAddress srcIpAddr))
          session.pSndQueue }

/-- What a reception meets: whether an allocation succeeds, the clock, what sending the answers
to a pull request meets, and the statistics to be sent.
-/
structure RecvEnv where
  alloc : Bool
  clock : Clock
  send : SendEnv
  statistics : List U8

/-- What a reception does: its result, the session, the telegrams it sends, the callbacks it
makes, the subscription that it finds for the datagram, and whether that accepts it.
-/
structure RecvResult where
  err : TrdpErr
  session : TrdpSession
  telegrams : List Telegram
  callbacks : List PdCallback
  routed : Option Nat
  accepted : Bool

/-- The statistics count the result of the header check. -/
def PdStatistics.count (stats : PdStatistics) : TrdpErr → PdStatistics
  | .noErr => { stats with numRcv := stats.numRcv + 1 }
  | .crcErr => { stats with numCrcErr := stats.numCrcErr + 1 }
  | .wireErr => { stats with numProtErr := stats.numProtErr + 1 }
  | _ => stats

/-- The telegrams missed before one with the counter `newSeqCnt`. -/
def missedBefore (curSeqCnt newSeqCnt : U32) : U32 :=
  if 0 < newSeqCnt ∧ curSeqCnt + 1 < newSeqCnt then newSeqCnt - curSeqCnt - 1
  else if newSeqCnt < curSeqCnt then 0xffffffff - curSeqCnt + newSeqCnt
  else 0

/-- Whether the application is informed of a frame. -/
def informsUser (ele : PdEle) (newFrame : PdPacket) : Prop :=
  Has ele.pktFlags trdpFlagsCallback
  ∧ (Has ele.pktFlags trdpFlagsForceCb ∨ Has ele.privFlags trdpTimedOut
    ∨ newFrame.data.take newFrame.frameHead.datasetLength.toNat
      ≠ ele.pFrame.data.take newFrame.frameHead.datasetLength.toNat)

instance (ele : PdEle) (newFrame : PdPacket) : Decidable (informsUser ele newFrame) :=
  inferInstanceAs (Decidable (_ ∧ _))

/-- The subscription with the frame that it accepts. -/
def PdEle.accept (ele : PdEle) (now : TrdpTime) (newFrame : PdPacket) : PdEle :=
  { ele with
    numMissed := ele.numMissed + missedBefore ele.curSeqCnt newFrame.frameHead.sequenceCounter
    curSeqCnt := newFrame.frameHead.sequenceCounter
    dataSize := newFrame.frameHead.datasetLength
    grossSize := trdpPacketSizePd newFrame.frameHead.datasetLength
    timeToGo := vosAddTime now ele.interval
    numRxTx := ele.numRxTx + 1
    lastErr := .noErr
    privFlags := without (without ele.privFlags trdpTimedOut) trdpInvalidData
    pFrame := newFrame }

/-- The callback for a subscription, where it has one. -/
def receiveCallback (destIpAddr : U32) (err : TrdpErr) (ele : PdEle) : List PdCallback :=
  if Has ele.pktFlags trdpFlagsCallback then
    ele.pfCbFunction.toList.map fun function =>
      { function
        handle := ele.handle
        message :=
          { comId := ele.addr.comId
            srcIpAddr := ele.lastSrcIp
            destIpAddr
            etbTopoCnt := ele.pFrame.frameHead.etbTopoCnt
            opTrnTopoCnt := ele.pFrame.frameHead.opTrnTopoCnt
            msgType := ele.pFrame.frameHead.msgType
            seqCount := ele.curSeqCnt
            protVersion := ele.pFrame.frameHead.protocolVersion
            replyComId := ele.pFrame.frameHead.replyComId
            replyIpAddr := ele.pFrame.frameHead.replyIpAddress
            pUserRef := ele.pUserRef
            resultCode := err }
        data := ele.pFrame.data.take ele.pFrame.frameHead.datasetLength.toNat }
  else []

/-- The subscription as every datagram that it is found for leaves it, accepted or not. -/
def PdEle.heard (ele : PdEle) (head : PdHeader) (srcIpAddr destIpAddr : U32) : PdEle :=
  { ele with
    lastSrcIp := srcIpAddr
    addr := { ele.addr with destIpAddr }
    pSeqCntList :=
      if head.sequenceCounter = 0 then
        trdpResetSequenceCounter ele.pSeqCntList srcIpAddr head.msgType
      else ele.pSeqCntList }

/-- What a subscription does with a datagram that it is found for: the result, the subscription,
the frame that is kept for the next datagram, the callbacks, and whether it accepts the datagram.
-/
structure Handled where
  err : TrdpErr
  ele : PdEle
  pNewFrame : PdPacket
  callbacks : List PdCallback
  accepted : Bool
  deriving DecidableEq, Repr

/-- `trdp_pdReceive`: a datagram for the subscription `ele`, whose topography counters match.
`informUser` is set where it was a pull request with an answer.
-/
def pdHandle (alloc informUser : Bool) (now : TrdpTime) (newFrame : PdPacket)
    (srcIpAddr destIpAddr : U32) (ele : PdEle)
    : Option Handled :=
  let head := newFrame.frameHead
  let ele := ele.heard head srcIpAddr destIpAddr
  (trdpCheckSequenceCounter alloc ele.pSeqCntList head.sequenceCounter srcIpAddr
      head.msgType).map fun
    | (.memory, list) => ⟨.memErr, { ele with pSeqCntList := list }, newFrame, [], false⟩
    | (.duplicate, list) => ⟨.noErr, { ele with pSeqCntList := list }, newFrame, [], false⟩
    | (.fresh, list) =>
        let ele := { ele with pSeqCntList := list }
        let inform := informUser || informsUser ele newFrame
        let accepted := ele.accept now newFrame
        ⟨.noErr, accepted, ele.pFrame,
          if inform then receiveCallback destIpAddr .noErr accepted else [], true⟩

/-- `trdp_pdReceive`: a datagram for a subscription whose topography counters do not match. -/
def pdHandleTopoErr (newFrame : PdPacket) (destIpAddr : U32) (ele : PdEle) : Handled :=
  let ele := { ele with lastErr := .topoErr }
  ⟨.topoErr, ele, newFrame, receiveCallback destIpAddr .topoErr ele, false⟩

/-- The addresses by which the subscription of a datagram is found. -/
def Datagram.addr (datagram : Datagram) (head : PdHeader) : TrdpAddresses where
  comId := head.comId
  srcIpAddr := datagram.srcIpAddr
  destIpAddr := datagram.destIpAddr
  mcGroup := 0
  etbTopoCnt := head.etbTopoCnt
  opTrnTopoCnt := head.opTrnTopoCnt

/-- `trdp_pdReceive`: the subscriptions are searched for the datagram in `pNewFrame`. -/
def pdDeliver (env : RecvEnv) (informUser : Bool) (datagram : Datagram) (session : TrdpSession)
    (telegrams : List Telegram)
    : Option RecvResult :=
  let newFrame := session.pNewFrame
  let addr := datagram.addr newFrame.frameHead
  match trdpQueueFindSubAddr session.pRcvQueue addr with
  | none => some ⟨.nosubErr, session, telegrams, [], none, false⟩
  | some ele =>
      let valid :=
        addr.etbTopoCnt = 0 ∧ addr.opTrnTopoCnt = 0
        ∨ trdpValidTopoCounters addr.etbTopoCnt addr.opTrnTopoCnt ele.addr.etbTopoCnt
          ele.addr.opTrnTopoCnt
      (if valid then
        pdHandle env.alloc informUser env.clock.time newFrame datagram.srcIpAddr
          datagram.destIpAddr ele
      else some (pdHandleTopoErr newFrame datagram.destIpAddr ele)).map fun handled =>
        { err := handled.err
          session :=
            { session with
              pRcvQueue :=
                modifyFirst (PdEle.matchesSubAddr addr) (fun _ => handled.ele) session.pRcvQueue
              pNewFrame := handled.pNewFrame
              stats :=
                if valid then session.stats
                else { session.stats with numTopoErr := session.stats.numTopoErr + 1 } }
          telegrams
          callbacks := handled.callbacks
          routed := some ele.handle
          accepted := handled.accepted }

/-- `trdp_pdReceive`. -/
def trdpPdReceive (env : RecvEnv) (found : Recvmsg) (session : TrdpSession) : Option RecvResult :=
  match vosSockReceiveUdp found with
  | .error err => some ⟨err, session, [], [], none, false⟩
  | .ok datagram =>
      let session := { session with pNewFrame := session.pNewFrame.store datagram.bytes }
      let head := session.pNewFrame.frameHead
      let checked := trdpPdCheck head datagram.bytes.length
      let session := { session with stats := session.stats.count checked }
      if checked ≠ .noErr then some ⟨checked, session, [], [], none, false⟩
      else if
        !trdpValidTopoCounters session.etbTopoCnt session.opTrnTopoCnt head.etbTopoCnt
          head.opTrnTopoCnt then
        some ⟨.topoErr,
          { session with
            stats := { session.stats with numTopoErr := session.stats.numTopoErr + 1 } },
          [], [], none, false⟩
      else
        match
          (if head.msgType = trdpMsgPr then
            pdPullRequest env.statistics head datagram.srcIpAddr session
          else none) with
        | none => pdDeliver env false datagram session []
        | some session =>
            let (_, session, telegrams) := trdpPdSendQueued env.send session
            pdDeliver env true datagram session telegrams

/-- `trdp_pdGet`: the result, the element, and the data with their size, where they are read.
`pDataSize` is the size of the caller's buffer, if there is one.
-/
def trdpPdGet (unmarshall : Option TrdpMarshall) (pDataSize : Option U32) (ele : PdEle)
    : TrdpErr × PdEle × Option (List U8 × U32) :=
  let ele := { ele with getPkts := ele.getPkts + 1 }
  if Has ele.privFlags trdpInvalidData then (.nodataErr, ele, none)
  else if Has ele.privFlags trdpTimedOut then (.timeoutErr, ele, none)
  else
    match pDataSize with
    | none => (.noErr, ele, none)
    | some size =>
        match (if Has ele.pktFlags trdpFlagsMarshall then unmarshall else none) with
        | none =>
            if ele.dataSize ≤ size then
              (.noErr, ele, some (ele.pFrame.data.take ele.dataSize.toNat, ele.dataSize))
            else (.paramErr, ele, none)
        | some unmarshall =>
            match unmarshall ele.addr.comId
                (ele.pFrame.data.take ele.pFrame.frameHead.datasetLength.toNat) with
            | (err, read) => (err, ele, some read)

/-- A subscription that is late and has not been reported. -/
def PdEle.Late (now : TrdpTime) (ele : PdEle) : Prop :=
  ele.interval.IsSet ∧ ele.timeToGo.IsSet ∧ ¬ ele.timeToGo.After now
  ∧ ¬ Has ele.privFlags trdpTimedOut ∧ ele.addr.comId ≠ trdpStatisticsPullComid

instance (now : TrdpTime) (ele : PdEle) : Decidable (ele.Late now) :=
  inferInstanceAs (Decidable (_ ∧ _))

/-- A late subscription is marked. -/
def PdEle.timeOut (ele : PdEle) : PdEle :=
  { ele with lastErr := .timeoutErr, privFlags := ele.privFlags ||| trdpTimedOut }

/-- The callback that reports a late subscription, where it has one. -/
def timeOutCallback (ele : PdEle) : List PdCallback :=
  ele.pfCbFunction.toList.map fun function =>
    { function
      handle := ele.handle
      message :=
        { comId := ele.addr.comId
          srcIpAddr := ele.addr.srcIpAddr
          destIpAddr := ele.addr.destIpAddr
          etbTopoCnt := ele.pFrame.frameHead.etbTopoCnt
          opTrnTopoCnt := ele.pFrame.frameHead.opTrnTopoCnt
          msgType := ele.pFrame.frameHead.msgType
          seqCount := ele.pFrame.frameHead.sequenceCounter
          protVersion := ele.pFrame.frameHead.protocolVersion
          replyComId := ele.pFrame.frameHead.replyComId
          replyIpAddr := ele.pFrame.frameHead.replyIpAddress
          pUserRef := ele.pUserRef
          resultCode := .timeoutErr }
      data := ele.pFrame.data.take ele.dataSize.toNat }

/-- `trdp_pdHandleTimeOuts`. -/
def trdpPdHandleTimeOuts (clock : Clock) (session : TrdpSession)
    : TrdpSession × List PdCallback :=
  let late := session.pRcvQueue.filter fun ele => ele.Late clock.time
  ( { session with
      pRcvQueue := session.pRcvQueue.map fun ele =>
        if ele.Late clock.time then ele.timeOut else ele
      stats :=
        { session.stats with
          numTimeout := session.stats.numTimeout + BitVec.ofNat 32 late.length } },
    late.flatMap timeOutCallback )

end TsnTrdp.Trdp
