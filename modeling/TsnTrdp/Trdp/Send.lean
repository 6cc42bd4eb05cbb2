import TsnTrdp.Trdp.Session

/-! Sending process data: one pass over the send queue, and what the application does to a
publisher between two passes.
-/

namespace TsnTrdp.Trdp

open TrdpTime

/-- What the socket does with a frame: whether the call succeeds, and the size that it sent. -/
structure UdpSend where
  ok : Bool
  size : U32
  deriving DecidableEq, Repr

/-- A frame that was handed to a socket: the element it is from, and the time read for that. -/
structure Telegram where
  handle : Nat
  time : TrdpTime
  destIp : U32
  size : U32
  frame : PdPacket
  deriving DecidableEq, Repr

/-- What a pass over the send queue meets: the clock and the socket, for each element in turn. -/
structure SendEnv where
  clock : Nat → Clock
  udp : Nat → UdpSend

/-- The message type of the element's frame. -/
def PdEle.msgType (ele : PdEle) : U16 := ele.pFrame.frameHead.msgType

def PdEle.setMsgType (ele : PdEle) (type : U16) : PdEle :=
  { ele with
    pFrame := { ele.pFrame with frameHead := { ele.pFrame.frameHead with msgType := type } } }

/-- The frame with this sequence counter and its check sum. -/
def PdPacket.number (frame : PdPacket) (sequenceCounter : U32) : PdPacket :=
  { frame with
    frameHead :=
      { frame.frameHead with
        sequenceCounter
        frameCheckSum := { frame.frameHead with sequenceCounter : PdHeader }.fcs } }

/-- `trdp_pdUpdate`. -/
def trdpPdUpdate (ele : PdEle) : PdEle :=
  if ele.msgType = trdpMsgPp then
    { ele with
      curSeqCnt4Pull := ele.curSeqCnt4Pull + 1
      pFrame := ele.pFrame.number (ele.curSeqCnt4Pull + 1) }
  else
    { ele with
      curSeqCnt := ele.curSeqCnt + 1
      pFrame := ele.pFrame.number (ele.curSeqCnt + 1) }

/-- The address that `trdp_pdSend` sends to. -/
def PdEle.sendAddress (ele : PdEle) : U32 :=
  if ele.pullIpAddress ≠ 0 then ele.pullIpAddress else ele.addr.destIpAddr

/-- `trdp_pdSend`. -/
def trdpPdSend (udp : UdpSend) (ele : PdEle) : TrdpErr × PdEle :=
  let ele := { ele with pullIpAddress := 0, sendSize := udp.size }
  if !udp.ok then (.ioErr, ele)
  else if ele.sendSize ≠ ele.grossSize then (.ioErr, ele)
  else (.noErr, ele)

/-- What a pass does with one element: the element, unless it is removed, the telegram, if one is
sent, and the error, if there is one.
-/
structure SendTurn where
  ele : Option PdEle
  telegram : Option Telegram
  err : Option TrdpErr
  deriving DecidableEq, Repr

/-- The element as it is prepared for sending: a pulled one is sent as a pull reply. -/
def pdPrepare (ele : PdEle) : PdEle :=
  trdpPdUpdate
    (if Has ele.privFlags trdpReq2bSent ∧ ele.msgType = trdpMsgPd then ele.setMsgType trdpMsgPp
      else ele)

/-- `trdp_pdSendQueued`: sending an element that has something to send. -/
def pdTransmit (etbTopoCnt opTrnTopoCnt : U32) (now : TrdpTime) (udp : UdpSend) (ele : PdEle)
    : PdEle × Option Telegram × Option TrdpErr :=
  if Has ele.privFlags trdpInvalidData then (ele, none, none)
  else
    let ele := pdPrepare ele
    if !trdpValidTopoCounters etbTopoCnt opTrnTopoCnt ele.pFrame.frameHead.etbTopoCnt
        ele.pFrame.frameHead.opTrnTopoCnt then
      (ele, none, some .topoErr)
    else if ele.socketIdx = trdpInvalidSocketIndex then (ele, none, none)
    else if Has ele.privFlags trdpRedundant then (ele, none, none)
    else
      let telegram : Telegram := ⟨ele.handle, now, ele.sendAddress, ele.grossSize, ele.pFrame⟩
      match trdpPdSend udp ele with
      | (.noErr, ele) => ({ ele with numRxTx := ele.numRxTx + 1 }, some telegram, none)
      | (err, ele) => (ele, some telegram, some err)

/-- The time after `timeToGo` at which a cyclic element is due again. -/
def nextTimeToGo (timeToGo interval now : TrdpTime) : TrdpTime :=
  let next := vosAddTime timeToGo interval
  if vosCmpTime next now ≤ 0 then
    let late := vosAddTime now interval
    { late with tvUsec := late.tvUsec - Int.tmod late.tvUsec 10000 }
  else next

/-- `trdp_pdSendQueued`: the timer of an element that had its turn, and its request flag. -/
def pdReschedule (now : TrdpTime) (ele : PdEle) : PdEle :=
  let ele :=
    if Has ele.privFlags trdpReq2bSent ∧ ele.msgType = trdpMsgPp then ele.setMsgType trdpMsgPd
    else if ele.interval.IsSet then
      { ele with timeToGo := nextTimeToGo ele.timeToGo ele.interval now }
    else ele
  { ele with privFlags := without ele.privFlags trdpReq2bSent }

/-- A cyclic element whose time has come. -/
def PdEle.Due (now : TrdpTime) (ele : PdEle) : Prop :=
  ele.interval.IsSet ∧ ¬ ele.timeToGo.After now

instance (now : TrdpTime) (ele : PdEle) : Decidable (ele.Due now) :=
  inferInstanceAs (Decidable (_ ∧ _))

/-- `trdp_pdSendQueued`: the turn of one element. -/
def pdSendTurn (etbTopoCnt opTrnTopoCnt : U32) (now : TrdpTime) (udp : UdpSend) (ele : PdEle)
    : SendTurn :=
  if ele.Due now ∨ Has ele.privFlags trdpReq2bSent then
    let (ele, telegram, err) := pdTransmit etbTopoCnt opTrnTopoCnt now udp ele
    let ele := pdReschedule now ele
    if ele.msgType = trdpMsgPr then ⟨none, telegram, err⟩ else ⟨some ele, telegram, err⟩
  else ⟨some ele, none, none⟩

/-- The turns of a pass, one for each element. -/
def pdSendTurns (etbTopoCnt opTrnTopoCnt : U32) (env : SendEnv) (queue : List PdEle)
    : List SendTurn :=
  queue.zipIdx.map fun (ele, k) =>
    pdSendTurn etbTopoCnt opTrnTopoCnt (env.clock k).time (env.udp k) ele

/-- `trdp_pdSendQueued`: the last error, the session, and the telegrams in the order sent. -/
def trdpPdSendQueued (env : SendEnv) (session : TrdpSession)
    : TrdpErr × TrdpSession × List Telegram :=
  let turns := pdSendTurns session.etbTopoCnt session.opTrnTopoCnt env session.pSndQueue
  let sent := turns.countP fun turn => turn.telegram.isSome && turn.err.isNone
  ( (turns.filterMap SendTurn.err).getLast?.getD .noErr,
    { session with
      nextJob := .cleared
      pSndQueue := turns.filterMap SendTurn.ele
      stats := { session.stats with numSend := session.stats.numSend + BitVec.ofNat 32 sent } },
    turns.filterMap SendTurn.telegram )

end TsnTrdp.Trdp
