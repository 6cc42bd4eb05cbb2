import TsnTrdp.Trdp.Receive

/-! What the application does to the receive queue: it subscribes, and it polls. -/

namespace TsnTrdp.Trdp

open TsnTrdp.Queue

/-- What a new subscription meets: the result of `trdp_requestSocket`, whether its allocations
succeed, its address, and the clock.
-/
structure SubscribeEnv where
  socket : Except TrdpErr Int
  fails : socket ≠ .error .noErr
  allocEle : Bool
  allocFrame : Bool
  handle : Nat
  clock : Clock

/-- The arguments of `tlp_subscribe`. The topography counters that it takes are not stored. -/
structure SubscribeArgs where
  pUserRef : Nat
  pfCbFunction : Option Nat
  comId : U32
  srcIpAddr : U32
  destIpAddr : U32
  pktFlags : U8
  timeout : U32
  toBehavior : TrdpToBehavior
  deriving DecidableEq, Repr

/-- The timeout that a subscription gets. -/
def SubscribeArgs.period (args : SubscribeArgs) (pdDefault : PdConfig) : U32 :=
  if args.timeout = 0 then pdDefault.timeout
  else if args.timeout.toNat < trdpTimerGranularity then BitVec.ofNat 32 trdpTimerGranularity
  else args.timeout

/-- The addresses of a subscription. -/
def SubscribeArgs.addr (args : SubscribeArgs) : TrdpAddresses where
  comId := args.comId
  srcIpAddr := args.srcIpAddr
  destIpAddr := args.destIpAddr
  mcGroup := multicastGroup args.destIpAddr
  etbTopoCnt := 0
  opTrnTopoCnt := 0

/-- `tlp_subscribe`: the new element. -/
def newSubscription (env : SubscribeEnv) (args : SubscribeArgs) (session : TrdpSession)
    (socketIdx : Int)
    : PdEle :=
  let timeout := args.period session.pdDefault
  let interval : TrdpTime := if timeout = trdpTimerForever then .cleared else .ofUsecs timeout.toNat
  { PdEle.zero env.handle with
    addr := args.addr
    privFlags :=
      if vosIsMulticast args.destIpAddr then trdpMcJoint ||| trdpInvalidData else trdpInvalidData
    pktFlags := if args.pktFlags = trdpFlagsDefault then session.pdDefault.flags else args.pktFlags
    interval
    timeToGo :=
      if timeout = trdpTimerForever then .cleared else vosAddTime env.clock.time interval
    toBehavior :=
      if args.toBehavior = .default then session.pdDefault.toBehavior else args.toBehavior
    grossSize := BitVec.ofNat 32 trdpMaxPdPacketSize
    socketIdx
    pUserRef := args.pUserRef
    pfCbFunction := args.pfCbFunction.orElse fun _ => session.pdDefault.pfCbFunction
    pFrame := .zero trdpMaxPdDataSize }

/-- `tlp_subscribe`. -/
def tlpSubscribe (env : SubscribeEnv) (args : SubscribeArgs) (session : TrdpSession)
    : TrdpErr × TrdpSession :=
  if (trdpQueueFindSubAddr session.pRcvQueue args.addr).isSome then (.nosubErr, session)
  else
    match env.socket with
    | .error err => (err, session)
    | .ok socketIdx =>
        if !env.allocEle then (.memErr, session)
        else if !env.allocFrame then (.memErr, session)
        else
          (.noErr,
            { session with
              pRcvQueue := session.pRcvQueue ++ [newSubscription env args session socketIdx] })

/-- A subscription is refused, which changes nothing, or it is the last of the receive queue. -/
theorem tlpSubscribe_cases (env : SubscribeEnv) (args : SubscribeArgs) (session : TrdpSession)
    : (∃ err, tlpSubscribe env args session = (err, session) ∧ err ≠ .noErr)
      ∨ ∃ socketIdx, tlpSubscribe env args session
        = (.noErr,
          { session with
            pRcvQueue := session.pRcvQueue ++ [newSubscription env args session socketIdx] }) := by
  unfold tlpSubscribe
  split
  · exact Or.inl ⟨.nosubErr, rfl, by decide⟩
  cases requested : env.socket with
  | error err =>
      refine Or.inl ⟨err, rfl, ?_⟩
      rintro rfl
      exact env.fails requested
  | ok socketIdx =>
      dsimp only
      split
      · exact Or.inl ⟨.memErr, rfl, by decide⟩
      split
      · exact Or.inl ⟨.memErr, rfl, by decide⟩
      exact Or.inr ⟨socketIdx, rfl⟩

/-- A subscription that is not refused is the last of the receive queue. -/
theorem tlpSubscribe_done {env : SubscribeEnv} {args : SubscribeArgs}
    {session subscribed : TrdpSession}
    (subscribes : tlpSubscribe env args session = (.noErr, subscribed))
    : ∃ socketIdx, subscribed
      = { session with
          pRcvQueue := session.pRcvQueue ++ [newSubscription env args session socketIdx] } := by
  rcases tlpSubscribe_cases env args session with ⟨err, refused, failed⟩ | ⟨socketIdx, done⟩
  · exact absurd (Prod.mk.inj (refused.symm.trans subscribes)).1 failed
  · exact ⟨socketIdx, (Prod.mk.inj (done.symm.trans subscribes)).2.symm⟩

/-- What reading a socket until an error does: the session, the telegrams and callbacks, and what
is left in the socket.
-/
structure Drained where
  session : TrdpSession
  telegrams : List Telegram
  callbacks : List PdCallback
  left : List Recvmsg

/-- The loop of `tlp_get` over what waits in the socket: it goes on while `trdp_pdReceive` reports
no error. An empty socket would block.
-/
def drain (recv : Nat → RecvEnv) (k : Nat) (waiting : List Recvmsg) (session : TrdpSession)
    : Option Drained :=
  match waiting with
  | [] =>
      (trdpPdReceive (recv k) .wouldBlock session).map fun result =>
        ⟨result.session, result.telegrams, result.callbacks, []⟩
  | found :: rest =>
      (trdpPdReceive (recv k) found session).bind fun result =>
        if result.err = .noErr then
          (drain recv (k + 1) rest result.session).map fun drained =>
            { drained with
              telegrams := result.telegrams ++ drained.telegrams
              callbacks := result.callbacks ++ drained.callbacks }
        else some ⟨result.session, result.telegrams, result.callbacks, rest⟩

/-- What `tlp_get` returns and leaves: `data` with its size, where the caller's buffer is written,
and `pPdInfo`.
-/
structure GetResult where
  err : TrdpErr
  data : Option (List U8 × U32)
  info : PdInfo
  session : TrdpSession
  left : List Recvmsg

/-- What `tlp_get` reports of the element. -/
def PdEle.info (ele : PdEle) (resultCode : TrdpErr) : PdInfo where
  comId := ele.addr.comId
  srcIpAddr := ele.lastSrcIp
  destIpAddr := ele.addr.destIpAddr
  etbTopoCnt := ele.pFrame.frameHead.etbTopoCnt
  opTrnTopoCnt := ele.pFrame.frameHead.opTrnTopoCnt
  msgType := ele.pFrame.frameHead.msgType
  seqCount := ele.curSeqCnt
  protVersion := ele.pFrame.frameHead.protocolVersion
  replyComId := ele.pFrame.frameHead.replyComId
  replyIpAddr := ele.pFrame.frameHead.replyIpAddress
  pUserRef := ele.pUserRef
  resultCode

/-- `tlp_get`: the element is read, or found late. -/
def pdRead (unmarshall : Option TrdpMarshall) (now : TrdpTime) (pDataSize : Option U32)
    (ele : PdEle)
    : TrdpErr × PdEle × Option (List U8 × U32) :=
  if ele.interval.IsSet ∧ now.After ele.timeToGo then
    (.timeoutErr, ele,
      if ele.toBehavior = .setToZero then
        pDataSize.map fun size => (.replicate size.toNat 0, size)
      else none)
  else trdpPdGet unmarshall pDataSize ele

/-- `tlp_get`, with what waits in the subscription's socket. -/
def tlpGet (handle : Nat) (recv : Nat → RecvEnv) (clock : Clock) (pDataSize : Option U32)
    (waiting : List Recvmsg) (session : TrdpSession)
    : Option GetResult :=
  (if session.blocking then some ⟨session, [], [], waiting⟩
    else drain recv 0 waiting session).bind fun drained =>
      (drained.session.pRcvQueue.find? (PdEle.isAt handle)).map fun ele =>
        match pdRead session.unmarshall clock.time pDataSize ele with
        | (err, ele, data) =>
            { err
              data
              info := ele.info err
              session :=
                { drained.session with
                  pRcvQueue :=
                    modifyFirst (PdEle.isAt handle) (fun _ => ele) drained.session.pRcvQueue }
              left := drained.left }

end TsnTrdp.Trdp
