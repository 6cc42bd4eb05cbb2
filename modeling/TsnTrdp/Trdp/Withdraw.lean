import TsnTrdp.Trdp.Publish
import TsnTrdp.Trdp.Subscribe

/-! What the application does to elements that are queued: it takes publishers and subscriptions
back and gives them other addresses. A session that shapes its traffic spreads its publishers anew
when one comes or goes.
-/

namespace TsnTrdp.Trdp

open TsnTrdp.Queue TrdpTime

/-- `vos_divTime`. The microseconds of the remainder are computed in 32 bits. -/
def vosDivTime (time : TrdpTime) (divisor : U32) : TrdpTime :=
  if divisor = 0 then time
  else
    let temp := BitVec.ofInt 32 time.tvSec % divisor
    { tvSec := Int.tdiv time.tvSec divisor.toNat
      tvUsec := Int.tdiv (time.tvUsec + (temp * 1000000 : U32).toNat) divisor.toNat }

/-- `vos_mulTime`. -/
def vosMulTime (time : TrdpTime) (mul : U32) : TrdpTime :=
  let tvSec := time.tvSec * mul.toNat
  let tvUsec := time.tvUsec * mul.toNat
  if tvUsec ≥ 1000000 then ⟨tvSec + tvUsec / 1000000, tvUsec % 1000000⟩ else ⟨tvSec, tvUsec⟩

/-- `trdp_pdDistribute`: the smallest interval, the latest time, and the number of the cyclic
publishers.
-/
def pdSpread (queue : List PdEle) : TrdpTime × TrdpTime × U32 :=
  let cyclic := queue.filter fun ele => ele.interval.IsSet
  ( cyclic.foldl
      (fun deltaTmax ele =>
        if vosCmpTime deltaTmax ele.interval > 0 then ele.interval else deltaTmax)
      ⟨1000, 0⟩,
    cyclic.foldl
      (fun tNull ele => if vosCmpTime tNull ele.timeToGo < 0 then ele.timeToGo else tNull) ⟨0, 0⟩,
    BitVec.ofNat 32 cyclic.length )

/-- `trdp_pdDistribute`: the publishers from the one numbered `packetIndex` on, until as many as
were counted have been dealt with.
-/
def pdRetime (deltaTmax tNull : TrdpTime) (noOfPackets packetIndex : U32) : List PdEle → List PdEle
  | [] => []
  | ele :: rest =>
      if packetIndex < noOfPackets then
        if ele.interval.IsSet then
          let temp := vosMulTime deltaTmax packetIndex
          let nextTime2Go := vosAddTime tNull temp
          (if vosCmpTime (vosMulTime temp 2) ele.interval > 0 then ele
            else { ele with timeToGo := nextTime2Go })
            :: pdRetime deltaTmax tNull noOfPackets (packetIndex + 1) rest
        else ele :: pdRetime deltaTmax tNull noOfPackets packetIndex rest
      else ele :: rest

/-- `trdp_pdDistribute`. -/
def trdpPdDistribute (queue : List PdEle) : TrdpErr × List PdEle :=
  match queue with
  | [] => (.paramErr, [])
  | [ele] => (.noErr, [ele])
  | queue =>
      let (deltaTmax, tNull, noOfPackets) := pdSpread queue
      if vosCmpTime deltaTmax .cleared = 0 ∨ noOfPackets = 0 then (.noErr, queue)
      else (.noErr, pdRetime (vosDivTime deltaTmax noOfPackets) tNull noOfPackets 0 queue)

/-- The queue after a publisher came or went. -/
def pdReshape (trafficShaping : Bool) (queue : List PdEle) : TrdpErr × List PdEle :=
  if trafficShaping then trdpPdDistribute queue else (.noErr, queue)

/-- The publisher with other addresses. Its socket stays. -/
def PdEle.republished (etbTopoCnt opTrnTopoCnt srcIpAddr destIpAddr : U32) (ele : PdEle) : PdEle :=
  trdpPdInit
    { ele with
      addr :=
        { ele.addr with
          srcIpAddr
          destIpAddr
          etbTopoCnt
          opTrnTopoCnt
          mcGroup := multicastGroup destIpAddr } }
    trdpMsgPd etbTopoCnt opTrnTopoCnt 0 0

/-- `tlp_republish`. -/
def tlpRepublish (handle : Nat) (etbTopoCnt opTrnTopoCnt srcIpAddr destIpAddr : U32)
    (session : TrdpSession)
    : TrdpErr × TrdpSession :=
  if (session.pSndQueue.find? (PdEle.isAt handle)).isNone then (.nosubErr, session)
  else
    (.noErr,
      { session with
        pSndQueue :=
          modifyFirst (PdEle.isAt handle)
            (PdEle.republished etbTopoCnt opTrnTopoCnt srcIpAddr destIpAddr) session.pSndQueue })

/-- `tlp_unpublish`. -/
def tlpUnpublish (handle : Nat) (session : TrdpSession) : TrdpErr × TrdpSession :=
  if (session.pSndQueue.find? (PdEle.isAt handle)).isNone then (.nopubErr, session)
  else
    let (ret, pSndQueue) :=
      pdReshape session.trafficShaping (session.pSndQueue.eraseP (PdEle.isAt handle))
    (ret, { session with pSndQueue })

/-- `tlp_unsubscribe`. -/
def tlpUnsubscribe (handle : Nat) (session : TrdpSession) : TrdpErr × TrdpSession :=
  if (session.pRcvQueue.find? (PdEle.isAt handle)).isNone then (.nosubErr, session)
  else
    (.noErr,
      { session with pRcvQueue := session.pRcvQueue.eraseP (PdEle.isAt handle) })

/-- The arguments of `tlp_resubscribe` besides the handle. -/
structure ResubscribeArgs where
  etbTopoCnt : U32
  opTrnTopoCnt : U32
  srcIpAddr : U32
  destIpAddr : U32
  deriving DecidableEq, Repr

/-- The subscription is to join another group, for which it gets a socket. -/
def PdEle.regroups (destIpAddr : U32) (ele : PdEle) : Bool :=
  vosIsMulticast destIpAddr && ele.addr.mcGroup ≠ destIpAddr

/-- The subscription with other addresses. -/
def PdEle.resubscribed (args : ResubscribeArgs) (socketIdx : Int) (ele : PdEle) : PdEle :=
  { ele with
    addr :=
      { ele.addr with
        srcIpAddr := args.srcIpAddr
        destIpAddr := args.destIpAddr
        etbTopoCnt := args.etbTopoCnt
        opTrnTopoCnt := args.opTrnTopoCnt
        mcGroup := multicastGroup args.destIpAddr }
    socketIdx }

/-- `tlp_resubscribe`, where `socket` is the result of `trdp_requestSocket`, if it is called.
Without a socket the subscription is taken back.
-/
def tlpResubscribe (socket : Except TrdpErr Int) (handle : Nat) (args : ResubscribeArgs)
    (session : TrdpSession)
    : TrdpErr × TrdpSession :=
  match session.pRcvQueue.find? (PdEle.isAt handle) with
  | none => (.nosubErr, session)
  | some ele =>
      if ele.regroups args.destIpAddr then
        match socket with
        | .error err => (err, (tlpUnsubscribe handle session).2)
        | .ok socketIdx =>
            (.noErr,
              { session with
                pRcvQueue :=
                  modifyFirst (PdEle.isAt handle) (PdEle.resubscribed args socketIdx)
                    session.pRcvQueue })
      else
        (.noErr,
          { session with
            pRcvQueue :=
              modifyFirst (PdEle.isAt handle) (PdEle.resubscribed args ele.socketIdx)
                session.pRcvQueue })

/-- The same queue but for the times of its elements. -/
def Retimed (queue queue' : List PdEle) : Prop :=
  List.Forall₂ (fun ele ele' => ele' = { ele with timeToGo := ele'.timeToGo }) queue queue'

variable {queue queue' : List PdEle} {β : Type*} {g : PdEle → β}

theorem Retimed.refl (queue : List PdEle) : Retimed queue queue :=
  List.forall₂_same.mpr fun _ _ => rfl

/-- What does not look at the times sees the same queue. -/
theorem Retimed.map_eq (retimed : Retimed queue queue')
    (keeps : ∀ ele time, g { ele with timeToGo := time } = g ele)
    : queue'.map g = queue.map g := by
  induction retimed with
  | nil => rfl
  | cons same _ ih => rw [List.map_cons, List.map_cons, ih, same, keeps]

theorem pdRetime_retimed (deltaTmax tNull : TrdpTime) (noOfPackets packetIndex : U32)
    (queue : List PdEle)
    : Retimed queue (pdRetime deltaTmax tNull noOfPackets packetIndex queue) := by
  induction queue generalizing packetIndex with
  | nil => exact .nil
  | cons ele rest ih =>
      unfold pdRetime
      split
      · split
        · refine .cons ?_ (ih _)
          split <;> rfl
        · exact .cons rfl (ih _)
      · exact .refl _

theorem trdpPdDistribute_retimed (queue : List PdEle)
    : Retimed queue (trdpPdDistribute queue).2 := by
  unfold trdpPdDistribute
  split
  · exact .nil
  · exact .refl _
  · dsimp only
    split
    · exact .refl _
    · exact pdRetime_retimed _ _ _ _ _

/-- Spreading a queue fails only if there is none. -/
theorem trdpPdDistribute_noErr (some : queue ≠ []) : (trdpPdDistribute queue).1 = .noErr := by
  unfold trdpPdDistribute
  split
  · exact absurd rfl some
  · rfl
  · dsimp only
    split <;> rfl

theorem pdReshape_retimed (trafficShaping : Bool) (queue : List PdEle)
    : Retimed queue (pdReshape trafficShaping queue).2 := by
  unfold pdReshape
  split
  · exact trdpPdDistribute_retimed queue
  · exact .refl queue

/-- `tlp_publish` comes to its request for a socket. -/
def PublishAsks (env : PublishEnv) (args : PublishArgs) (session : TrdpSession) : Prop :=
  ¬ (args.interval ≠ 0 ∧ args.interval.toNat < trdpTimerGranularity)
  ∧ (trdpQueueFindPubAddr session.pSndQueue (args.addr session.realIp)).isSome = false
  ∧ env.allocEle = true

instance (env : PublishEnv) (args : PublishArgs) (session : TrdpSession)
    : Decidable (PublishAsks env args session) :=
  inferInstanceAs (Decidable (_ ∧ _))

/-- A publication that adds its element, with its first data, as the last of the queue. -/
structure Publishes (env : PublishEnv) (args : PublishArgs) (session : TrdpSession)
    (socketIdx : Int) (ele : PdEle) (queue : List PdEle)
    : Prop where
  asks : PublishAsks env args session
  socket : env.socket = .ok socketIdx
  allocFrame : env.allocFrame = true
  keeps : PutKeeps (newPublisher env args session socketIdx) ele
  retimed : Retimed (session.pSndQueue ++ [ele]) queue
  unshaped : session.trafficShaping = false → queue = session.pSndQueue ++ [ele]
  eq : (tlpPublish env args session).2 = { session with pSndQueue := queue }

variable {env : PublishEnv} {args : PublishArgs} {session : TrdpSession} {socketIdx : Int}

/-- A publication that makes no request fails. -/
theorem tlpPublish_unasked (unasked : ¬ PublishAsks env args session)
    : ∃ err, err ≠ .noErr ∧ tlpPublish env args session = (err, session) := by
  unfold tlpPublish
  split
  · exact ⟨.paramErr, by decide, rfl⟩
  next accepted =>
    split
    · exact ⟨.nopubErr, by decide, rfl⟩
    next unknown =>
      split
      · exact ⟨.memErr, by decide, rfl⟩
      next alloc =>
        refine absurd ⟨accepted, Bool.eq_false_iff.mpr unknown, ?_⟩ unasked
        simpa using alloc

theorem tlpPublish_refused (asks : PublishAsks env args session) {err : TrdpErr}
    (socket : env.socket = .error err)
    : tlpPublish env args session = (err, session) := by
  obtain ⟨accepted, unknown, alloc⟩ := asks
  simp only [tlpPublish, if_neg accepted, unknown, alloc, socket, Bool.false_eq_true,
    Bool.not_true, if_false]

/-- Without memory for its frame a publication adds nothing, and does not fail. -/
theorem tlpPublish_unframed (asks : PublishAsks env args session)
    (socket : env.socket = .ok socketIdx) (allocFrame : env.allocFrame = false)
    : tlpPublish env args session = (.noErr, session) := by
  obtain ⟨accepted, unknown, alloc⟩ := asks
  simp only [tlpPublish, if_neg accepted, unknown, alloc, socket, allocFrame, Bool.false_eq_true,
    Bool.not_true, Bool.not_false, if_false, if_true]

/-- The new element with its first data. -/
def publishedEle (env : PublishEnv) (args : PublishArgs) (session : TrdpSession)
    (socketIdx : Int)
    : TrdpErr × PdEle :=
  let ele := newPublisher env args session socketIdx
  if args.dataSize ≠ 0 then
    trdpPdPut session.marshall env.allocLate args.pData args.dataSize ele
  else (.noErr, ele)

theorem publishedEle_keeps (env : PublishEnv) (args : PublishArgs) (session : TrdpSession)
    (socketIdx : Int)
    : PutKeeps (newPublisher env args session socketIdx)
        (publishedEle env args session socketIdx).2 := by
  unfold publishedEle
  dsimp only
  split
  · exact trdpPdPut_keeps _ _ _ _ _
  · exact .refl _

/-- A publication with a socket and a frame adds its element, whether its data can be put or not. -/
theorem tlpPublish_queued (asks : PublishAsks env args session)
    (socket : env.socket = .ok socketIdx) (allocFrame : env.allocFrame = true)
    (distributes : env.trdpPdDistribute = trdpPdDistribute)
    : let put := publishedEle env args session socketIdx
      ∃ queue, Retimed (session.pSndQueue ++ [put.2]) queue
        ∧ (session.trafficShaping = false → queue = session.pSndQueue ++ [put.2])
        ∧ tlpPublish env args session = (put.1, { session with pSndQueue := queue }) := by
  obtain ⟨accepted, unknown, alloc⟩ := asks
  intro put
  let queue := session.pSndQueue ++ [put.2]
  have eq : tlpPublish env args session
      = if put.1 = .noErr ∧ session.trafficShaping then
          ((trdpPdDistribute queue).1, { session with pSndQueue := (trdpPdDistribute queue).2 })
        else (put.1, { session with pSndQueue := queue }) := by
    simp only [tlpPublish, if_neg accepted, unknown, alloc, socket, allocFrame, distributes,
      Bool.false_eq_true, Bool.not_true, if_false]
    rfl
  by_cases shaped : put.1 = .noErr ∧ session.trafficShaping
  · rw [if_pos shaped, trdpPdDistribute_noErr (by simp [queue]), ← shaped.1] at eq
    exact ⟨_, trdpPdDistribute_retimed queue, fun plain =>
      absurd (plain.symm.trans shaped.2) Bool.false_ne_true, eq⟩
  · rw [if_neg shaped] at eq
    exact ⟨_, .refl _, fun _ => rfl, eq⟩

/-- A publication is refused, which changes nothing, or it adds its element. -/
theorem tlpPublish_cases (env : PublishEnv) (args : PublishArgs) (session : TrdpSession)
    (distributes : env.trdpPdDistribute = trdpPdDistribute)
    : (¬ (PublishAsks env args session ∧ (∃ socketIdx, env.socket = .ok socketIdx)
          ∧ env.allocFrame = true)
        ∧ (tlpPublish env args session).2 = session)
      ∨ ∃ socketIdx ele queue, Publishes env args session socketIdx ele queue := by
  by_cases asks : PublishAsks env args session
  · cases socket : env.socket with
    | error err =>
        refine .inl ⟨?_, congrArg Prod.snd (tlpPublish_refused asks socket)⟩
        rintro ⟨-, ⟨_, ok⟩, -⟩
        cases ok
    | ok socketIdx =>
        cases allocFrame : env.allocFrame with
        | false =>
            refine .inl ⟨fun all => Bool.false_ne_true all.2.2, ?_⟩
            exact congrArg Prod.snd (tlpPublish_unframed asks socket allocFrame)
        | true =>
            obtain ⟨queue, retimed, unshaped, eq⟩ :=
              tlpPublish_queued asks socket allocFrame distributes
            exact .inr ⟨socketIdx, _, queue, asks, socket, allocFrame,
              publishedEle_keeps _ _ _ _, retimed, unshaped, congrArg Prod.snd eq⟩
  · obtain ⟨err, -, eq⟩ := tlpPublish_unasked asks
    exact .inl ⟨fun all => asks all.1, congrArg Prod.snd eq⟩

end TsnTrdp.Trdp
