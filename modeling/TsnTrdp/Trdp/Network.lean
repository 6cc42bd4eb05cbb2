import TsnTrdp.Lib.Provenance
import TsnTrdp.Trdp.Delivery
import TsnTrdp.Trdp.HeaderErrors
import TsnTrdp.Trdp.PullAddress
import TsnTrdp.Trdp.PutFrames
import TsnTrdp.Trdp.Withdraw

/-! Devices on a network: each has a session, and their telegrams are lost, repeated, delayed, damaged
and delivered in any order. What a device reads or is called back with is what some device was given
for that comId.
-/

namespace TsnTrdp.Trdp

open TsnTrdp.Queue TsnTrdp.Run TsnTrdp.Provenance

/-- What an application is given: the result, the comId, and the data. -/
structure PdDelivery where
  resultCode : TrdpErr
  comId : U32
  data : List U8
  deriving DecidableEq, Repr

def PdCallback.delivery (callback : PdCallback) : PdDelivery :=
  ⟨callback.message.resultCode, callback.message.comId, callback.data⟩

/-- What `tlp_get` delivers, where it reports no error. -/
def GetResult.delivery (result : GetResult) : List PdDelivery :=
  if result.err = .noErr then
    result.data.toList.map fun (data, _) => ⟨.noErr, result.info.comId, data⟩
  else []

/-- The datagram of a telegram: so much of the frame as the size says. -/
def Telegram.wire (telegram : Telegram) : List U8 :=
  (telegram.frame.frameHead.bytes ++ telegram.frame.data).take telegram.size.toNat

/-- The calls of a session: those of the application, and those of its process threads. -/
inductive DeviceCall
  | publish (env : PublishEnv) (args : PublishArgs)
  | republish (handle : Nat) (etbTopoCnt opTrnTopoCnt srcIpAddr destIpAddr : U32)
  | unpublish (handle : Nat)
  | put (handle : Nat) (alloc : Bool) (pData : Option (List U8)) (dataSize : U32)
  | setRedundant (redId : U32) (leader : Bool)
  | request (env : PublishEnv) (args : RequestArgs)
  | subscribe (env : SubscribeEnv) (args : SubscribeArgs)
  | resubscribe (socket : Except TrdpErr Int) (handle : Nat) (args : ResubscribeArgs)
  | unsubscribe (handle : Nat)
  | get (handle : Nat) (recv : Nat → RecvEnv) (clock : Clock) (pDataSize : Option U32)
    (waiting : List Recvmsg)
  | sendQueued (env : SendEnv)
  | receive (env : RecvEnv) (found : Recvmsg)
  | handleTimeOuts (clock : Clock)

/-- Data of a size, where there are any. -/
def givenData (pData : Option (List U8)) (dataSize : U32) : Option (List U8) :=
  if dataSize = 0 then some [] else pData.map fun bytes => bytes.take dataSize.toNat

/-- Data that a call takes for a comId, unless it reports an error. -/
def takenData (err : TrdpErr) (comId : U32) (data : Option (List U8)) : List (U32 × List U8) :=
  if err = .noErr then data.toList.map (comId, ·) else []

/-- What `tlp_get` finds the session to be: sessions that do not block read their sockets first. -/
def pdDrain (recv : Nat → RecvEnv) (waiting : List Recvmsg) (session : TrdpSession)
    : Option Drained :=
  if session.blocking then some ⟨session, [], [], waiting⟩ else drain recv 0 waiting session

/-- A call of a device: datagrams are its messages, and it is given data for comIds. -/
def deviceStep (call : DeviceCall) (session : TrdpSession)
    : Option (Output TrdpSession (List U8) (U32 × List U8) PdDelivery) :=
  match call with
  | .publish env args =>
      let (err, published) := tlpPublish env args session
      some ⟨published, [],
        if args.dataSize = 0 then []
        else takenData err args.comId (givenData args.pData args.dataSize), []⟩
  | .republish handle etbTopoCnt opTrnTopoCnt srcIpAddr destIpAddr =>
      some ⟨(tlpRepublish handle etbTopoCnt opTrnTopoCnt srcIpAddr destIpAddr session).2, [], [], []⟩
  | .unpublish handle => some ⟨(tlpUnpublish handle session).2, [], [], []⟩
  | .put handle alloc pData dataSize =>
      let (err, put) := tlpPut handle alloc pData dataSize session
      some ⟨put, [],
        (session.pSndQueue.find? (PdEle.isAt handle)).toList.flatMap fun ele =>
          takenData err ele.addr.comId (givenData pData dataSize), []⟩
  | .setRedundant redId leader => some ⟨(tlpSetRedundant redId leader session).2, [], [], []⟩
  | .request env args =>
      let (err, requested) := tlpRequest env args session
      some ⟨requested, [], takenData err args.comId (givenData args.pData args.dataSize), []⟩
  | .subscribe env args => some ⟨(tlpSubscribe env args session).2, [], [], []⟩
  | .resubscribe socket handle args =>
      some ⟨(tlpResubscribe socket handle args session).2, [], [], []⟩
  | .unsubscribe handle => some ⟨(tlpUnsubscribe handle session).2, [], [], []⟩
  | .get handle recv clock pDataSize waiting =>
      (pdDrain recv waiting session).bind fun drained =>
        (tlpGet handle recv clock pDataSize waiting session).map fun result =>
          ⟨result.session, drained.telegrams.map Telegram.wire, [],
            drained.callbacks.map PdCallback.delivery ++ result.delivery⟩
  | .sendQueued env =>
      let (_, sent, telegrams) := trdpPdSendQueued env session
      some ⟨sent, telegrams.map Telegram.wire, [], []⟩
  | .receive env found =>
      (trdpPdReceive env found session).map fun result =>
        ⟨result.session, result.telegrams.map Telegram.wire, [],
          result.callbacks.map PdCallback.delivery⟩
  | .handleTimeOuts clock =>
      let (session, callbacks) := trdpPdHandleTimeOuts clock session
      some ⟨session, [], [], callbacks.map PdCallback.delivery⟩

/-- What a socket may find on a network that has carried `wires`: one of them, from anywhere and as it
was sent; or one that was damaged, in its header in a way that the check sum tells; or nothing.
-/
inductive Carries (wires : List (List U8)) : Recvmsg → Prop
  | whole (bytes : List U8) (sent : bytes ∈ wires) (srcIpAddr destIpAddr : U32)
    : Carries wires (.datagram bytes srcIpAddr destIpAddr)
  | damaged (bytes error : List U8) (sent : bytes ∈ wires) (same : error.length = bytes.length)
    (detectable : Detectable (error.take trdpMinPdHeaderSize)) (srcIpAddr destIpAddr : U32)
    : Carries wires (.datagram (List.zipWith (· ^^^ ·) bytes error) srcIpAddr destIpAddr)
  | nothing (found : Recvmsg) (quiet : ∀ bytes src dest, found ≠ .datagram bytes src dest)
    : Carries wires found

/-- There are as many data as the size says. -/
def Enough (pData : Option (List U8)) (dataSize : U32) : Prop :=
  ∀ bytes ∈ pData, dataSize.toNat ≤ bytes.length

/-- The statistics fit the frame of each publisher that can be asked for them. -/
def StatisticsFit (statistics : List U8) (session : TrdpSession) : Prop :=
  ∀ ele ∈ session.pSndQueue,
    ele.addr.comId = trdpGlobalStatisticsComid → statistics.length ≤ ele.pFrame.data.length

/-- What is required of the calls: as many data as their size says; those that are put are of the size
of the publisher, or its first, and get memory; a request without data has size 0; the sockets find
what the network carries; and the statistics fit their frames.
-/
def Callable (wires : List (List U8)) (session : TrdpSession) : DeviceCall → Prop
  | .publish env args => env.trdpPdDistribute = trdpPdDistribute ∧ Enough args.pData args.dataSize
  | .put handle alloc pData dataSize =>
      Enough pData dataSize
      ∧ ∀ ele ∈ session.pSndQueue.find? (PdEle.isAt handle),
          dataSize = ele.dataSize ∨ ele.dataSize = 0 ∧ alloc = true
  | .request _ args => Enough args.pData args.dataSize ∧ (args.pData = none → args.dataSize = 0)
  | .get _ recv _ _ waiting =>
      (∀ found ∈ waiting, Carries wires found) ∧ ∀ k, StatisticsFit (recv k).statistics session
  | .receive env found => Carries wires found ∧ StatisticsFit env.statistics session
  | _ => True

/-- Devices whose sessions have just been opened. -/
structure DeviceConfig where
  realIp : U32
  pdDefault : PdConfig
  blocking : Bool
  trafficShaping : Bool

def DeviceConfig.session (config : DeviceConfig) : TrdpSession :=
  .opened config.realIp config.pdDefault config.blocking config.trafficShaping

/-- What is delivered was given for its comId, or it is the notice that a subscription which has never
received anything is late. The stack itself fills in the statistics.
-/
def PdDelivery.Genuine (given : List (U32 × List U8)) (delivery : PdDelivery) : Prop :=
  delivery.comId ≠ trdpGlobalStatisticsComid
  → (delivery.comId, delivery.data) ∈ given
    ∨ delivery.resultCode = .timeoutErr ∧ delivery.data = []

end TsnTrdp.Trdp
