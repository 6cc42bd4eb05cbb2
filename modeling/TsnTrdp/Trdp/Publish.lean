import TsnTrdp.Trdp.SendTurn

/-! What the application does to the send queue: it publishes, puts data, asks for data of
others, and changes between leader and follower.
-/

namespace TsnTrdp.Trdp

open TsnTrdp.Queue

/-- `vos_isMulticast`. -/
def vosIsMulticast (ipAddress : U32) : Bool := ipAddress &&& 0xf0000000 = 0xe0000000

def multicastGroup (ipAddress : U32) : U32 := if vosIsMulticast ipAddress then ipAddress else 0

/-- `trdp_pdPut`: the element with a frame for its first data, where one can be allocated. -/
def pdEnlarge (alloc : Bool) (dataSize : U32) (ele : PdEle) : Bool × PdEle :=
  if ele.dataSize = 0 then
    let ele := { ele with dataSize, grossSize := trdpPacketSizePd dataSize }
    if !alloc then (false, ele)
    else
      (true, { ele with
        pFrame :=
          { frameHead := { ele.pFrame.frameHead with datasetLength := dataSize }
            data := .replicate ((trdpPacketSizePd dataSize).toNat - trdpMinPdHeaderSize) 0 } })
  else (true, ele)

/-- `memcpy` to the start of a buffer. More bytes than the buffer has room for make the list longer,
where the code writes over what lies behind the buffer: the runs that hold such copies end there.
-/
def memcpy (buffer bytes : List U8) : List U8 := bytes ++ buffer.drop bytes.length

theorem length_memcpy (buffer bytes : List U8)
    : (memcpy buffer bytes).length = max bytes.length buffer.length := by
  rw [memcpy, List.length_append, List.length_drop]
  omega

/-- The data have been set valid. -/
def PdEle.setValid (ele : PdEle) : PdEle :=
  { ele with
    privFlags := without ele.privFlags trdpInvalidData
    updPkts := ele.updPkts + 1 }

/-- `trdp_pdPut`; `alloc` tells whether a larger frame can be allocated. -/
def trdpPdPut (marshall : Option TrdpMarshall) (alloc : Bool) (pData : Option (List U8))
    (dataSize : U32) (ele : PdEle)
    : TrdpErr × PdEle :=
  if ele.dataSize = 0 ∧ dataSize = 0 then (.noErr, ele.setValid)
  else
    match pData with
    | none => (.noErr, ele)
    | some bytes =>
        if dataSize = 0 then (.noErr, ele)
        else
          match pdEnlarge alloc dataSize ele with
          | (false, ele) => (.memErr, ele)
          | (true, ele) =>
              match (if Has ele.pktFlags trdpFlagsMarshall then marshall else none) with
              | none =>
                  if trdpMaxPdDataSize < dataSize.toNat then (.paramErr, ele)
                  else
                    (.noErr,
                      { ele with
                        pFrame :=
                          { ele.pFrame with
                            data := memcpy ele.pFrame.data (bytes.take dataSize.toNat) } }.setValid)
              | some marshall =>
                  match marshall ele.addr.comId (bytes.take dataSize.toNat) with
                  | (err, written, dataSize) =>
                      let ele :=
                        { ele with
                          pFrame := { ele.pFrame with data := memcpy ele.pFrame.data written } }
                      if trdpMaxPdDataSize < dataSize.toNat then (.paramErr, ele)
                      else
                        let ele :=
                          { ele with
                            dataSize
                            grossSize := trdpPacketSizePd dataSize
                            pFrame :=
                              { ele.pFrame with
                                frameHead :=
                                  { ele.pFrame.frameHead with datasetLength := dataSize } } }
                        if err = .noErr then (.noErr, ele.setValid) else (err, ele)

/-- What putting data leaves alone. -/
structure PutKeeps (ele ele' : PdEle) : Prop where
  same : SameElement ele ele'
  timeToGo : ele'.timeToGo = ele.timeToGo
  msgType : ele'.msgType = ele.msgType
  pullIpAddress : ele'.pullIpAddress = ele.pullIpAddress
  flags
    : ∀ flag, Field.Disjoint trdpInvalidData flag
      → (Has ele'.privFlags flag ↔ Has ele.privFlags flag)

theorem PutKeeps.refl (ele : PdEle) : PutKeeps ele ele :=
  ⟨.refl ele, rfl, rfl, rfl, fun _ _ => Iff.rfl⟩

theorem PutKeeps.trans {a b c : PdEle} (first : PutKeeps a b) (second : PutKeeps b c)
    : PutKeeps a c where
  same := first.same.trans second.same
  timeToGo := second.timeToGo.trans first.timeToGo
  msgType := second.msgType.trans first.msgType
  pullIpAddress := second.pullIpAddress.trans first.pullIpAddress
  flags flag apart := (second.flags flag apart).trans (first.flags flag apart)

theorem PutKeeps.setValid (ele : PdEle) : PutKeeps ele ele.setValid :=
  ⟨⟨rfl, rfl, rfl, rfl, rfl⟩, rfl, rfl, rfl, fun _ => has_without_of_disjoint⟩

theorem pdEnlarge_keeps (alloc : Bool) (dataSize : U32) (ele : PdEle)
    : PutKeeps ele (pdEnlarge alloc dataSize ele).2 := by
  unfold pdEnlarge
  dsimp only
  repeat' split
  all_goals exact ⟨⟨rfl, rfl, rfl, rfl, rfl⟩, rfl, rfl, rfl, fun _ _ => Iff.rfl⟩

theorem trdpPdPut_keeps (marshall : Option TrdpMarshall) (alloc : Bool) (pData : Option (List U8))
    (dataSize : U32) (ele : PdEle)
    : PutKeeps ele (trdpPdPut marshall alloc pData dataSize ele).2 := by
  have same := PutKeeps.refl ele
  have large := pdEnlarge_keeps alloc dataSize ele
  unfold trdpPdPut
  split
  · exact .setValid ele
  cases pData with
  | none => exact same
  | some bytes =>
      dsimp only
      split
      · exact same
      generalize pdEnlarge alloc dataSize ele = result at large ⊢
      obtain ⟨enlarged, ele'⟩ := result
      cases enlarged with
      | false => exact large
      | true =>
          have written : ∀ frame size gross, frame.frameHead.msgType = ele'.msgType
              → PutKeeps ele { ele' with
                  pFrame := frame, dataSize := size, grossSize := gross } := by
            intro frame size gross type
            exact large.trans ⟨⟨rfl, rfl, rfl, rfl, rfl⟩, rfl, type, rfl, fun _ _ => Iff.rfl⟩
          have valid : ∀ frame size gross, frame.frameHead.msgType = ele'.msgType
              → PutKeeps ele (PdEle.setValid { ele' with
                  pFrame := frame, dataSize := size, grossSize := gross }) := by
            intro frame size gross type
            exact (written frame size gross type).trans (.setValid _)
          dsimp only
          repeat' split
          · exact large
          · exact valid _ _ _ rfl
          · exact written _ _ _ rfl
          · exact valid _ _ _ rfl
          · exact written _ _ _ rfl

/-- `tlp_put`. -/
def tlpPut (handle : Nat) (alloc : Bool) (pData : Option (List U8)) (dataSize : U32)
    (session : TrdpSession)
    : TrdpErr × TrdpSession :=
  match session.pSndQueue.find? (PdEle.isAt handle) with
  | none => (.nopubErr, session)
  | some ele =>
      ((trdpPdPut session.marshall alloc pData dataSize ele).1,
        { session with
          pSndQueue :=
            modifyFirst (PdEle.isAt handle)
              (fun ele => (trdpPdPut session.marshall alloc pData dataSize ele).2)
              session.pSndQueue })

/-- The elements that `tlp_setRedundant` changes. -/
def PdEle.inGroup (redId : U32) (ele : PdEle) : Bool :=
  ele.redId = redId ∨ ele.redId ≠ 0 ∧ redId = 0

/-- `tlp_setRedundant`. -/
def tlpSetRedundant (redId : U32) (leader : Bool) (session : TrdpSession) : TrdpErr × TrdpSession :=
  (if session.pSndQueue.any (PdEle.inGroup redId) then .noErr else .paramErr,
    { session with
      pSndQueue := session.pSndQueue.map fun ele =>
        if ele.inGroup redId then
          { ele with
            privFlags :=
              if leader then without ele.privFlags trdpRedundant
              else ele.privFlags ||| trdpRedundant }
        else ele })

/-- `tlp_getRedundant`: whether the first element of the group is a leader. -/
def tlpGetRedundant (redId : U32) (session : TrdpSession) : Option Bool :=
  (session.pSndQueue.find? fun ele => ele.redId = redId).map fun ele =>
    decide ¬ Has ele.privFlags trdpRedundant

/-- What a new element meets: whether its two allocations and that of a larger frame succeed, the
result of `trdp_requestSocket`, the element's address, the clock, the send queues of all sessions,
and `trdp_pdDistribute`, which sessions with traffic shaping call.
-/
structure PublishEnv where
  allocEle : Bool
  allocFrame : Bool
  allocLate : Bool
  socket : Except TrdpErr Int
  handle : Nat
  clock : Clock
  sndQueues : List (List PdEle)
  trdpPdDistribute : List PdEle → TrdpErr × List PdEle

/-- The arguments of `tlp_publish`. -/
structure PublishArgs where
  comId : U32
  etbTopoCnt : U32
  opTrnTopoCnt : U32
  srcIpAddr : U32
  destIpAddr : U32
  interval : U32
  redId : U32
  pktFlags : U8
  pData : Option (List U8)
  dataSize : U32
  deriving DecidableEq, Repr

/-- `trdp_getSeqCnt`. -/
def trdpGetSeqCnt (sndQueues : List (List PdEle)) (comId srcIpAddr : U32) : U32 :=
  if comId = 0 then 0
  else
    match sndQueues.flatten.find? fun ele =>
      ele.addr.comId = comId ∧ (srcIpAddr = 0 ∨ ele.addr.srcIpAddr ≠ srcIpAddr) with
    | some ele => ele.curSeqCnt
    | none => 0

/-- The time at which a new publisher is due first. -/
def firstTimeToGo (comId : U32) (now : TrdpTime) : TrdpTime where
  tvSec := now.tvSec + (2 + comId.toNat % 128 / 100 : Nat)
  tvUsec := (comId.toNat % 100 * 10000 : Nat)

/-- The addresses of a publisher. Its topography counters are left unset, and nothing reads them. -/
def PublishArgs.addr (args : PublishArgs) (realIp : U32) : TrdpAddresses where
  comId := args.comId
  srcIpAddr := if args.srcIpAddr = 0 then realIp else args.srcIpAddr
  destIpAddr := args.destIpAddr
  mcGroup := multicastGroup args.destIpAddr
  etbTopoCnt := 0
  opTrnTopoCnt := 0

/-- `tlp_publish`: the new element, before data are put. -/
def newPublisher (env : PublishEnv) (args : PublishArgs) (session : TrdpSession) (socketIdx : Int)
    : PdEle :=
  let addr := args.addr session.realIp
  let follower := args.redId ≠ 0 ∧ tlpGetRedundant args.redId session = some false
  let ele : PdEle :=
    { PdEle.zero env.handle with
      addr
      redId := args.redId
      curSeqCnt := trdpGetSeqCnt env.sndQueues addr.comId addr.srcIpAddr - 1
      curSeqCnt4Pull := trdpGetSeqCnt env.sndQueues addr.comId addr.srcIpAddr - 1
      privFlags := if follower then trdpInvalidData ||| trdpRedundant else trdpInvalidData
      pktFlags :=
        if args.pktFlags = trdpFlagsDefault then session.pdDefault.flags else args.pktFlags
      interval := if args.interval = 0 then .cleared else .ofUsecs args.interval.toNat
      timeToGo :=
        if args.interval = 0 then .cleared else firstTimeToGo args.comId env.clock.time
      dataSize := args.dataSize
      grossSize := trdpPacketSizePd args.dataSize
      socketIdx
      pFrame := .zero ((trdpPacketSizePd args.dataSize).toNat - trdpMinPdHeaderSize) }
  trdpPdInit ele trdpMsgPd args.etbTopoCnt args.opTrnTopoCnt 0 0

/-- `tlp_publish`. Without memory for the frame it reports no error. -/
def tlpPublish (env : PublishEnv) (args : PublishArgs) (session : TrdpSession)
    : TrdpErr × TrdpSession :=
  if args.interval ≠ 0 ∧ args.interval.toNat < trdpTimerGranularity then (.paramErr, session)
  else if (trdpQueueFindPubAddr session.pSndQueue (args.addr session.realIp)).isSome then
    (.nopubErr, session)
  else if !env.allocEle then (.memErr, session)
  else
    match env.socket with
    | .error err => (err, session)
    | .ok socketIdx =>
        if !env.allocFrame then (.noErr, session)
        else
          let ele := newPublisher env args session socketIdx
          let (ret, ele) :=
            if args.dataSize ≠ 0 then
              trdpPdPut session.marshall env.allocLate args.pData args.dataSize ele
            else (.noErr, ele)
          let queue := session.pSndQueue ++ [ele]
          if ret = .noErr ∧ session.trafficShaping then
            let (ret, queue) := env.trdpPdDistribute queue
            (ret, { session with pSndQueue := queue })
          else (ret, { session with pSndQueue := queue })

/-- In a session that does not shape its traffic, a publication adds the new element with its first
data to the queue, or nothing.
-/
theorem tlpPublish_queue (env : PublishEnv) (args : PublishArgs) (session : TrdpSession)
    (unshaped : session.trafficShaping = false)
    : (tlpPublish env args session).2.pSndQueue = session.pSndQueue
      ∨ (args.interval ≠ 0 → trdpTimerGranularity ≤ args.interval.toNat)
        ∧ ∃ socketIdx ele,
          PutKeeps (newPublisher env args session socketIdx) ele
          ∧ (tlpPublish env args session).2.pSndQueue = session.pSndQueue ++ [ele] := by
  unfold tlpPublish
  split
  · exact Or.inl rfl
  rename_i accepted
  split
  · exact Or.inl rfl
  split
  · exact Or.inl rfl
  cases env.socket with
  | error err => exact Or.inl rfl
  | ok socketIdx =>
      dsimp only
      split
      · exact Or.inl rfl
      refine Or.inr ⟨fun cyclic => not_lt.mp fun short => accepted ⟨cyclic, short⟩, socketIdx, ?_⟩
      simp only [unshaped, Bool.false_eq_true, and_false, if_false]
      split
      · exact ⟨_, trdpPdPut_keeps .., rfl⟩
      · exact ⟨_, .refl _, rfl⟩

/-- The arguments of `tlp_request`; `subHandle` names the subscription. -/
structure RequestArgs where
  subHandle : Nat
  comId : U32
  etbTopoCnt : U32
  opTrnTopoCnt : U32
  srcIpAddr : U32
  destIpAddr : U32
  pktFlags : U8
  pData : Option (List U8)
  dataSize : U32
  replyComId : U32
  replyIpAddr : U32
  deriving DecidableEq, Repr

/-- `tlp_request`: the new element, before data are put. -/
def newRequest (env : PublishEnv) (args : RequestArgs) (session : TrdpSession) (sub : PdEle)
    (socketIdx : Int)
    : PdEle :=
  let srcIpAddr := if args.srcIpAddr = 0 then session.realIp else args.srcIpAddr
  let ele : PdEle :=
    { PdEle.zero env.handle with
      addr := ⟨args.comId, srcIpAddr, args.destIpAddr, multicastGroup args.destIpAddr, 0, 0⟩
      curSeqCnt := trdpGetSeqCnt env.sndQueues args.comId srcIpAddr - 1
      pktFlags :=
        if args.pktFlags = trdpFlagsDefault then session.pdDefault.flags else args.pktFlags
      dataSize := args.dataSize
      grossSize := trdpPacketSizePd args.dataSize
      socketIdx
      pFrame := .zero ((trdpPacketSizePd args.dataSize).toNat - trdpMinPdHeaderSize) }
  trdpPdInit ele trdpMsgPr args.etbTopoCnt args.opTrnTopoCnt
    (if args.replyComId = 0 then sub.addr.comId else args.replyComId) args.replyIpAddr

/-- The subscription of a request waits for the answer from `now` on. -/
def PdEle.startTimer (now : TrdpTime) (sub : PdEle) : PdEle :=
  if sub.interval.IsSet then
    { sub with
      timeToGo := vosAddTime now sub.interval
      privFlags := without sub.privFlags trdpTimedOut }
  else sub

/-- `tlp_request`. Without memory for the frame it reports no error. -/
def tlpRequest (env : PublishEnv) (args : RequestArgs) (session : TrdpSession)
    : TrdpErr × TrdpSession :=
  if args.comId = 0 ∧ args.replyComId = 0 ∨ args.destIpAddr = 0 then (.paramErr, session)
  else
    match session.pRcvQueue.find? (PdEle.isAt args.subHandle) with
    | none => (.nosubErr, session)
    | some sub =>
        if !env.allocEle then (.memErr, session)
        else if !env.allocFrame then (.noErr, session)
        else
          match env.socket with
          | .error err => (err, session)
          | .ok socketIdx =>
              let ele := newRequest env args session sub socketIdx
              let (ret, ele) :=
                if args.pData.isSome ∧ 0 < args.dataSize then
                  trdpPdPut session.marshall env.allocLate args.pData args.dataSize ele
                else (.noErr, ele)
              let ele := { ele with privFlags := ele.privFlags ||| trdpReq2bSent }
              (ret,
                { session with
                  pSndQueue := ele :: session.pSndQueue
                  pRcvQueue :=
                    modifyFirst (PdEle.isAt args.subHandle) (PdEle.startTimer env.clock.time)
                      session.pRcvQueue })

end TsnTrdp.Trdp
