import TsnTrdp.Trdp.Subscribe
import TsnTrdp.Trdp.SendSchedule

/-! What a reception can do, said once: a datagram is refused by the socket or the header check,
or it goes to the first subscription that matches, which ignores it, cannot record it, or accepts
it.
-/

namespace TsnTrdp.Trdp

open TsnTrdp.Queue

variable {env : RecvEnv} {found : Recvmsg} {session : TrdpSession} {result : RecvResult}

/-- The header of a datagram, if it is long enough for one, and what comes after it. -/
def Datagram.head (datagram : Datagram) : PdHeader :=
  .ofBytes (datagram.bytes.take trdpMinPdHeaderSize)

def Datagram.payload (datagram : Datagram) : List U8 := datagram.bytes.drop trdpMinPdHeaderSize

/-- The datagram passes the header check. -/
def Datagram.Valid (datagram : Datagram) : Prop :=
  trdpPdCheck datagram.head datagram.bytes.length = .noErr

instance (datagram : Datagram) : Decidable datagram.Valid :=
  inferInstanceAs (Decidable (_ = _))

/-- The datagram that passes the header check, and the frame that holds it. -/
def sane (found : Recvmsg) (session : TrdpSession) : Option (Datagram × PdPacket) :=
  match vosSockReceiveUdp found with
  | .error _ => none
  | .ok datagram =>
      let frame := session.pNewFrame.store datagram.bytes
      if trdpPdCheck frame.frameHead datagram.bytes.length = .noErr then some (datagram, frame)
      else none

theorem PdHeader.length_bytes (head : PdHeader) : head.bytes.length = trdpMinPdHeaderSize := rfl

/-- A datagram that is long enough leaves nothing of the header that was in the frame. -/
theorem PdPacket.store_frameHead {datagram : Datagram}
    (long : trdpMinPdHeaderSize ≤ datagram.bytes.length) (frame : PdPacket)
    : (frame.store datagram.bytes).frameHead = datagram.head := by
  have gone : frame.frameHead.bytes.drop datagram.bytes.length = [] :=
    List.drop_eq_nil_of_le (frame.frameHead.length_bytes.trans_le long)
  simp only [PdPacket.store, gone, List.append_nil, Datagram.head]

/-- What the header check lets pass has a header, and no more data than fit. -/
theorem trdpPdCheck_noErr {head : PdHeader} {packetSize : Nat}
    (passed : trdpPdCheck head packetSize = .noErr)
    : trdpMinPdHeaderSize ≤ packetSize ∧ head.datasetLength.toNat ≤ trdpMaxPdDataSize := by
  unfold trdpPdCheck at passed
  split at passed
  · cases passed
  split at passed
  · cases passed
  split at passed
  · cases passed
  omega

theorem trdpPdCheck_store {datagram : Datagram} (frame : PdPacket)
    : trdpPdCheck (frame.store datagram.bytes).frameHead datagram.bytes.length = .noErr
      ↔ datagram.Valid := by
  by_cases long : trdpMinPdHeaderSize ≤ datagram.bytes.length
  · rw [frame.store_frameHead long]
    exact Iff.rfl
  · exact iff_of_false (fun passed => long (trdpPdCheck_noErr passed).1)
      (fun passed => long (trdpPdCheck_noErr passed).1)

/-- Whether a datagram is sane does not depend on the session. -/
theorem sane_eq_some {datagram : Datagram} {frame : PdPacket}
    : sane found session = some (datagram, frame)
      ↔ vosSockReceiveUdp found = .ok datagram ∧ datagram.Valid
        ∧ frame = session.pNewFrame.store datagram.bytes := by
  unfold sane
  cases vosSockReceiveUdp found with
  | error err => simp
  | ok received =>
      simp only [Except.ok.injEq, trdpPdCheck_store]
      constructor
      · intro passed
        split at passed
        · rename_i valid
          obtain ⟨rfl, rfl⟩ := Prod.mk.inj (Option.some.inj passed)
          exact ⟨rfl, valid, rfl⟩
        · cases passed
      · rintro ⟨rfl, valid, rfl⟩
        rw [if_pos valid]

theorem sane_eq_none
    : sane found session = none
      ↔ ∀ datagram, vosSockReceiveUdp found = .ok datagram → ¬ datagram.Valid := by
  rw [Option.eq_none_iff_forall_ne_some]
  constructor
  · intro none datagram socket valid
    exact none (datagram, _) (sane_eq_some.mpr ⟨socket, valid, rfl⟩)
  · intro none ⟨datagram, frame⟩ arrives
    obtain ⟨socket, valid, -⟩ := sane_eq_some.mp arrives
    exact none datagram socket valid

/-- The frame that holds a sane datagram: its header, and its payload over what was there. -/
theorem sane_frame {datagram : Datagram} {frame : PdPacket}
    (arrives : sane found session = some (datagram, frame))
    : frame.frameHead = datagram.head
      ∧ frame.data
        = datagram.payload ++ session.pNewFrame.data.drop datagram.payload.length := by
  obtain ⟨-, valid, rfl⟩ := sane_eq_some.mp arrives
  refine ⟨session.pNewFrame.store_frameHead (trdpPdCheck_noErr valid).1, ?_⟩
  rw [Datagram.payload, List.length_drop]
  rfl

/-- A reception that is refused: nothing but the receive buffer and the statistics change. -/
structure Refused (found : Recvmsg) (session : TrdpSession) (result : RecvResult) : Prop where
  err : result.err ≠ .noErr
  pSndQueue : result.session.pSndQueue = session.pSndQueue
  pRcvQueue : result.session.pRcvQueue = session.pRcvQueue
  pNewFrame
    : ∀ datagram, vosSockReceiveUdp found = .ok datagram
        → result.session.pNewFrame = session.pNewFrame.store datagram.bytes
  telegrams : result.telegrams = []
  callbacks : result.callbacks = []
  routed : result.routed = none
  accepted : result.accepted = false

theorem vosSockReceiveUdp_error {err : TrdpErr} (failed : vosSockReceiveUdp found = .error err)
    : err ≠ .noErr := by
  rintro rfl
  cases found with
  | datagram bytes srcIpAddr destIpAddr =>
      dsimp only [vosSockReceiveUdp] at failed
      split at failed
      · exact absurd (Except.error.inj failed) (by decide)
      · cases failed
  | wouldBlock | connReset | failed | noSocket => cases failed

theorem trdpPdReceive_refused (env : RecvEnv) (refused : sane found session = none)
    : ∃ result, trdpPdReceive env found session = some result
        ∧ Refused found session result := by
  unfold sane at refused
  unfold trdpPdReceive
  cases socket : vosSockReceiveUdp found with
  | error err =>
      exact ⟨_, rfl, vosSockReceiveUdp_error socket, rfl, rfl,
        fun datagram received => absurd (socket.symm.trans received) nofun, rfl, rfl, rfl, rfl⟩
  | ok datagram =>
      rw [socket] at refused
      dsimp only at refused ⊢
      split at refused
      · cases refused
      · rename_i failed
        rw [if_pos failed]
        exact ⟨_, rfl, failed, rfl, rfl,
          fun received same => Except.ok.inj (socket.symm.trans same) ▸ rfl, rfl, rfl, rfl, rfl⟩

/-- A pull request leaves the receive side alone. -/
structure SameReceive (session session' : TrdpSession) : Prop where
  pRcvQueue : session'.pRcvQueue = session.pRcvQueue
  pNewFrame : session'.pNewFrame = session.pNewFrame

theorem pdPullRequest_receive {statistics : List U8} {head : PdHeader} {srcIpAddr : U32}
    {session' : TrdpSession}
    (pulled : pdPullRequest statistics head srcIpAddr session = some session')
    : SameReceive session session' := by
  obtain ⟨ele, -, rfl⟩ := Option.map_eq_some_iff.mp pulled
  exact ⟨rfl, rfl⟩

/-- A pull request for which there is a publisher. -/
def PdHeader.Answered (session : TrdpSession) (head : PdHeader) : Prop :=
  head.msgType = trdpMsgPr
  ∧ (trdpQueueFindComId session.pSndQueue head.pulledComId).isSome = true

/-- A sane datagram goes to the subscriptions, with the frame that holds it. -/
theorem trdpPdReceive_sane (env : RecvEnv) {datagram : Datagram} {frame : PdPacket}
    (arrives : sane found session = some (datagram, frame))
    : ∃ session' informUser telegrams, session'.pRcvQueue = session.pRcvQueue
        ∧ session'.pNewFrame = frame
        ∧ (informUser = true ↔ frame.frameHead.Answered session)
        ∧ trdpPdReceive env found session
          = pdDeliver env informUser datagram session' telegrams := by
  unfold sane at arrives
  unfold trdpPdReceive
  cases socket : vosSockReceiveUdp found with
  | error err =>
      rw [socket] at arrives
      cases arrives
  | ok received =>
      rw [socket] at arrives
      dsimp only at arrives ⊢
      split at arrives
      · rename_i passed
        obtain ⟨rfl, rfl⟩ := Prod.mk.inj (Option.some.inj arrives)
        simp only [passed, trdpValidTopoCounters, Bool.not_true, ne_eq, not_true_eq_false,
          if_false, Bool.false_eq_true]
        split
        · rename_i unanswered
          have silent : ¬ (session.pNewFrame.store received.bytes).frameHead.Answered session := by
            rintro ⟨pulls, publisher⟩
            rw [if_pos pulls] at unanswered
            rw [Option.map_eq_none_iff.mp unanswered] at publisher
            cases publisher
          exact
            ⟨{ session with
                pNewFrame := session.pNewFrame.store received.bytes
                stats := session.stats.count .noErr },
              false, [], rfl, rfl, iff_of_false Bool.false_ne_true silent, rfl⟩
        · rename_i answered pulled
          split at pulled
          · rename_i pulls
            have same := pdPullRequest_receive pulled
            obtain ⟨publisher, found, -⟩ := Option.map_eq_some_iff.mp pulled
            exact ⟨(trdpPdSendQueued env.send answered).2.1, true,
              (trdpPdSendQueued env.send answered).2.2, same.pRcvQueue, same.pNewFrame,
              iff_of_true rfl ⟨pulls, Option.isSome_of_eq_some found⟩, rfl⟩
          · cases pulled
      · cases arrives

/-- A datagram that no subscription matches. -/
theorem pdDeliver_none {informUser : Bool} {datagram : Datagram} {telegrams : List Telegram}
    (none' : trdpQueueFindSubAddr session.pRcvQueue (datagram.addr session.pNewFrame.frameHead)
      = none)
    : pdDeliver env informUser datagram session telegrams
      = some ⟨.nosubErr, session, telegrams, [], none, false⟩ := by
  unfold pdDeliver
  dsimp only
  rw [none']

/-- A datagram that is found a subscription: the topography counters always match. -/
theorem pdDeliver_some {informUser : Bool} {datagram : Datagram} {telegrams : List Telegram}
    {ele : PdEle}
    (matched : trdpQueueFindSubAddr session.pRcvQueue (datagram.addr session.pNewFrame.frameHead)
      = some ele)
    : pdDeliver env informUser datagram session telegrams
      = (pdHandle env.alloc informUser env.clock.time session.pNewFrame datagram.srcIpAddr
          datagram.destIpAddr ele).map fun handled =>
        { err := handled.err
          session :=
            { session with
              pRcvQueue :=
                modifyFirst
                  (PdEle.matchesSubAddr (datagram.addr session.pNewFrame.frameHead))
                  (fun _ => handled.ele) session.pRcvQueue
              pNewFrame := handled.pNewFrame }
          telegrams
          callbacks := handled.callbacks
          routed := some ele.handle
          accepted := handled.accepted } := by
  unfold pdDeliver
  dsimp only
  rw [matched]
  simp [trdpValidTopoCounters]

/-- The subscription accepts the datagram, with the sequence counters `list`. -/
structure Accepted (informUser : Bool) (now : TrdpTime) (newFrame : PdPacket)
    (destIpAddr : U32) (heard : PdEle) (list : Option SeqCntList) (handled : Handled)
    : Prop where
  err : handled.err = .noErr
  ele : handled.ele = PdEle.accept { heard with pSeqCntList := list } now newFrame
  pNewFrame : handled.pNewFrame = heard.pFrame
  callbacks
    : handled.callbacks
      = if informUser || informsUser { heard with pSeqCntList := list } newFrame then
          receiveCallback destIpAddr .noErr handled.ele
        else []
  accepted : handled.accepted = true

/-- It does not, for the reason `check`. -/
structure Ignored (newFrame : PdPacket) (heard : PdEle) (check : SeqCheck)
    (list : Option SeqCntList) (handled : Handled)
    : Prop where
  err : handled.err = .noErr ↔ check = .duplicate
  ele : handled.ele = { heard with pSeqCntList := list }
  pNewFrame : handled.pNewFrame = newFrame
  callbacks : handled.callbacks = []
  accepted : handled.accepted = false

/-- The sequence counter decides whether a subscription accepts a datagram. -/
theorem pdHandle_cases {alloc informUser : Bool} {now : TrdpTime} {newFrame : PdPacket}
    {srcIpAddr destIpAddr : U32} {ele : PdEle} {handled : Handled}
    (handles : pdHandle alloc informUser now newFrame srcIpAddr destIpAddr ele = some handled)
    : ∃ check list,
        trdpCheckSequenceCounter alloc
          (ele.heard newFrame.frameHead srcIpAddr destIpAddr).pSeqCntList
          newFrame.frameHead.sequenceCounter srcIpAddr newFrame.frameHead.msgType
          = some (check, list)
        ∧ (check = .fresh
            ∧ Accepted informUser now newFrame destIpAddr
              (ele.heard newFrame.frameHead srcIpAddr destIpAddr) list handled
          ∨ check ≠ .fresh
            ∧ Ignored newFrame (ele.heard newFrame.frameHead srcIpAddr destIpAddr) check list
              handled) := by
  obtain ⟨⟨check, list⟩, checked, rfl⟩ := Option.map_eq_some_iff.mp handles
  refine ⟨check, list, checked, ?_⟩
  cases check with
  | fresh => exact Or.inl ⟨rfl, rfl, rfl, rfl, rfl, rfl⟩
  | duplicate => exact Or.inr ⟨nofun, ⟨fun _ => rfl, fun _ => rfl⟩, rfl, rfl, rfl, rfl⟩
  | memory => exact Or.inr ⟨nofun, ⟨nofun, nofun⟩, rfl, rfl, rfl, rfl⟩

/-- What every datagram leaves of the subscription that it is found for. -/
structure HeardFrom (destIpAddr : U32) (ele ele' : PdEle) : Prop where
  handle : ele'.handle = ele.handle
  comId : ele'.addr.comId = ele.addr.comId
  srcIpAddr : ele'.addr.srcIpAddr = ele.addr.srcIpAddr
  destIpAddr : ele'.addr.destIpAddr = destIpAddr
  interval : ele'.interval = ele.interval
  pktFlags : ele'.pktFlags = ele.pktFlags
  pfCbFunction : ele'.pfCbFunction = ele.pfCbFunction

theorem pdHandle_heardFrom {alloc informUser : Bool} {now : TrdpTime} {newFrame : PdPacket}
    {srcIpAddr destIpAddr : U32} {ele : PdEle} {handled : Handled}
    (handles : pdHandle alloc informUser now newFrame srcIpAddr destIpAddr ele = some handled)
    : HeardFrom destIpAddr ele handled.ele := by
  obtain ⟨⟨check, list⟩, -, rfl⟩ := Option.map_eq_some_iff.mp handles
  cases check with
  | fresh | duplicate | memory => exact ⟨rfl, rfl, rfl, rfl, rfl, rfl, rfl⟩

/-- What a reception does to the receive queue: nothing, or it reaches the first subscription
that the datagram matches.
-/
inductive Reception (env : RecvEnv) (found : Recvmsg) (session : TrdpSession) (result : RecvResult)
    : Prop
  | refused (insane : sane found session = none) (refused : Refused found session result)
  | unsubscribed (datagram : Datagram) (frame : PdPacket)
    (arrives : sane found session = some (datagram, frame))
    (unmatched
      : trdpQueueFindSubAddr session.pRcvQueue (datagram.addr frame.frameHead) = none)
    (err : result.err = .nosubErr)
    (pRcvQueue : result.session.pRcvQueue = session.pRcvQueue)
    (callbacks : result.callbacks = [])
    (routed : result.routed = none)
    (accepted : result.accepted = false)
  | routed (datagram : Datagram) (frame : PdPacket) (ele : PdEle) (informUser : Bool)
    (handled : Handled)
    (arrives : sane found session = some (datagram, frame))
    (matched
      : trdpQueueFindSubAddr session.pRcvQueue (datagram.addr frame.frameHead) = some ele)
    (handles
      : pdHandle env.alloc informUser env.clock.time frame datagram.srcIpAddr
        datagram.destIpAddr ele = some handled)
    (err : result.err = handled.err)
    (pRcvQueue
      : result.session.pRcvQueue
        = modifyFirst (PdEle.matchesSubAddr (datagram.addr frame.frameHead))
          (fun _ => handled.ele) session.pRcvQueue)
    (callbacks : result.callbacks = handled.callbacks)
    (routed : result.routed = some ele.handle)
    (accepted : result.accepted = handled.accepted)

theorem trdpPdReceive_cases (received : trdpPdReceive env found session = some result)
    : Reception env found session result := by
  cases arrives : sane found session with
  | none =>
      obtain ⟨refusal, returns, refused⟩ := trdpPdReceive_refused env arrives
      obtain rfl := Option.some.inj (received.symm.trans returns)
      exact .refused arrives refused
  | some arrival =>
      obtain ⟨datagram, frame⟩ := arrival
      obtain ⟨session', informUser, telegrams, queue, newFrame, -, delivers⟩ :=
        trdpPdReceive_sane env arrives
      rw [delivers] at received
      cases matched : trdpQueueFindSubAddr session'.pRcvQueue
          (datagram.addr session'.pNewFrame.frameHead) with
      | none =>
          rw [pdDeliver_none matched] at received
          obtain rfl := Option.some.inj received
          rw [queue, newFrame] at matched
          exact .unsubscribed datagram frame arrives matched rfl queue rfl rfl rfl
      | some ele =>
          rw [pdDeliver_some matched] at received
          obtain ⟨handled, handles, rfl⟩ := Option.map_eq_some_iff.mp received
          rw [newFrame] at handles
          rw [queue, newFrame] at matched
          refine .routed datagram frame ele informUser handled arrives matched handles rfl ?_ rfl
            rfl rfl
          dsimp only
          rw [queue, newFrame]

/-- A reception leaves every element at its address. -/
theorem trdpPdReceive_handles (received : trdpPdReceive env found session = some result)
    : result.session.pRcvQueue.map PdEle.handle = session.pRcvQueue.map PdEle.handle := by
  cases trdpPdReceive_cases received with
  | refused _ refused => rw [refused.pRcvQueue]
  | unsubscribed _ _ _ _ _ pRcvQueue _ _ _ => rw [pRcvQueue]
  | routed _ _ _ _ _ _ matched handles _ pRcvQueue _ _ _ =>
      rw [pRcvQueue]
      exact map_modifyFirst_of_find? matched (pdHandle_heardFrom handles).handle

/-- The elements of the receive queue are at different addresses. -/
def DistinctHandles (session : TrdpSession) : Prop := (session.pRcvQueue.map PdEle.handle).Nodup

theorem DistinctHandles.received (distinct : DistinctHandles session)
    (received : trdpPdReceive env found session = some result)
    : DistinctHandles result.session := by
  unfold DistinctHandles
  rwa [trdpPdReceive_handles received]

/-- A subscription at an address of its own keeps the addresses different. -/
theorem DistinctHandles.subscribed (distinct : DistinctHandles session) {ele : PdEle}
    (fresh : ∀ other ∈ session.pRcvQueue, other.handle ≠ ele.handle)
    : DistinctHandles { session with pRcvQueue := session.pRcvQueue ++ [ele] } := by
  unfold DistinctHandles
  rw [List.map_append, List.nodup_append]
  refine ⟨distinct, List.nodup_singleton _, ?_⟩
  intro handle taken new is same
  obtain ⟨other, member, rfl⟩ := List.mem_map.mp taken
  exact fresh other member (same.trans (List.mem_singleton.mp is))

-----------------------------------------------------------------------------------------
-- One subscription
-----------------------------------------------------------------------------------------

/-- What a reception that a subscription does not accept leaves of it. -/
structure SameData (ele ele' : PdEle) : Prop where
  handle : ele'.handle = ele.handle
  comId : ele'.addr.comId = ele.addr.comId
  curSeqCnt : ele'.curSeqCnt = ele.curSeqCnt
  dataSize : ele'.dataSize = ele.dataSize
  privFlags : ele'.privFlags = ele.privFlags
  pktFlags : ele'.pktFlags = ele.pktFlags
  interval : ele'.interval = ele.interval
  timeToGo : ele'.timeToGo = ele.timeToGo
  pfCbFunction : ele'.pfCbFunction = ele.pfCbFunction
  pFrame : ele'.pFrame = ele.pFrame

theorem SameData.refl (ele : PdEle) : SameData ele ele :=
  ⟨rfl, rfl, rfl, rfl, rfl, rfl, rfl, rfl, rfl, rfl⟩

theorem SameData.trans {a b c : PdEle} (first : SameData a b) (second : SameData b c)
    : SameData a c where
  handle := second.handle.trans first.handle
  comId := second.comId.trans first.comId
  curSeqCnt := second.curSeqCnt.trans first.curSeqCnt
  dataSize := second.dataSize.trans first.dataSize
  privFlags := second.privFlags.trans first.privFlags
  pktFlags := second.pktFlags.trans first.pktFlags
  interval := second.interval.trans first.interval
  timeToGo := second.timeToGo.trans first.timeToGo
  pfCbFunction := second.pfCbFunction.trans first.pfCbFunction
  pFrame := second.pFrame.trans first.pFrame

/-- What one that it accepts makes of it, at the time `now`. -/
structure Refreshed (now : TrdpTime) (ele ele' : PdEle) : Prop where
  handle : ele'.handle = ele.handle
  comId : ele'.addr.comId = ele.addr.comId
  privFlags
    : ele'.privFlags = without (without ele.privFlags trdpTimedOut) trdpInvalidData
  interval : ele'.interval = ele.interval
  timeToGo : ele'.timeToGo = vosAddTime now ele.interval
  pfCbFunction : ele'.pfCbFunction = ele.pfCbFunction

/-- The subscription at `handle` accepts the datagram. -/
def RecvResult.AcceptedBy (handle : Nat) (result : RecvResult) : Prop :=
  result.routed = some handle ∧ result.accepted = true

instance (handle : Nat) (result : RecvResult) : Decidable (result.AcceptedBy handle) :=
  inferInstanceAs (Decidable (_ ∧ _))

/-- A subscription after a reception. -/
theorem trdpPdReceive_element (distinct : DistinctHandles session)
    (received : trdpPdReceive env found session = some result) {ele : PdEle}
    (member : ele ∈ session.pRcvQueue)
    : ∃ ele' ∈ result.session.pRcvQueue,
        result.AcceptedBy ele.handle ∧ Refreshed env.clock.time ele ele'
        ∨ ¬ result.AcceptedBy ele.handle ∧ SameData ele ele' := by
  cases trdpPdReceive_cases received with
  | refused _ refused =>
      refine ⟨ele, refused.pRcvQueue ▸ member, Or.inr ⟨fun accepted => ?_, .refl ele⟩⟩
      cases refused.routed.symm.trans accepted.1
  | unsubscribed _ _ _ _ _ pRcvQueue _ routed _ =>
      refine ⟨ele, pRcvQueue ▸ member, Or.inr ⟨fun accepted => ?_, .refl ele⟩⟩
      cases routed.symm.trans accepted.1
  | routed datagram frame other _ handled _ matched handles _ pRcvQueue _ routed accepted =>
      rw [pRcvQueue]
      by_cases own : ele = other
      · subst own
        refine ⟨handled.ele, mem_modifyFirst_of_find? matched, ?_⟩
        obtain ⟨check, list, -, ⟨-, accepts⟩ | ⟨-, ignored⟩⟩ := pdHandle_cases handles
        · refine Or.inl ⟨⟨routed, accepted.trans accepts.accepted⟩, ?_⟩
          rw [accepts.ele]
          exact ⟨rfl, rfl, rfl, rfl, rfl, rfl⟩
        · refine Or.inr ⟨fun both => ?_, ?_⟩
          · cases (both.2.symm.trans accepted).trans ignored.accepted
          · rw [ignored.ele]
            exact ⟨rfl, rfl, rfl, rfl, rfl, rfl, rfl, rfl, rfl, rfl⟩
      · refine ⟨ele, mem_modifyFirst_of_ne matched member own, Or.inr ⟨fun both => ?_, .refl ele⟩⟩
        exact own (List.inj_on_of_nodup_map distinct member (List.mem_of_find?_eq_some matched)
          (Option.some.inj (both.1.symm.trans routed)))

/-- What is accepted is received without an error. -/
theorem noErr_of_accepted (received : trdpPdReceive env found session = some result)
    (accepted : result.accepted = true)
    : result.err = .noErr := by
  cases trdpPdReceive_cases received with
  | refused _ refused => cases refused.accepted.symm.trans accepted
  | unsubscribed _ _ _ _ _ _ _ _ unaccepted => cases unaccepted.symm.trans accepted
  | routed _ _ _ _ handled _ _ handles err _ _ _ accepted' =>
      obtain ⟨check, list, -, ⟨-, accepts⟩ | ⟨-, ignored⟩⟩ := pdHandle_cases handles
      · exact err.trans accepts.err
      · cases (accepted.symm.trans accepted').trans ignored.accepted

/-- The one element at an address. -/
theorem find?_isAt (distinct : DistinctHandles session) {ele : PdEle}
    (member : ele ∈ session.pRcvQueue)
    : session.pRcvQueue.find? (PdEle.isAt ele.handle) = some ele := by
  cases found : session.pRcvQueue.find? (PdEle.isAt ele.handle) with
  | none =>
      have misses := List.find?_eq_none.mp found ele member
      exact absurd (decide_eq_true rfl) misses
  | some other =>
      have isAt : PdEle.isAt ele.handle other := List.find?_some found
      have same : other.handle = ele.handle := of_decide_eq_true isAt
      exact congrArg some (List.inj_on_of_nodup_map distinct (List.mem_of_find?_eq_some found)
        member same)

-----------------------------------------------------------------------------------------
-- Telegrams and subscriptions to receive them
-----------------------------------------------------------------------------------------

/-- A telegram with its check sum. -/
def telegramBytes (msgType : U16) (comId sequenceCounter : U32) (data : List U8) : List U8 :=
  let head : PdHeader :=
    { sequenceCounter
      protocolVersion := trdpProtoVer
      msgType
      comId
      etbTopoCnt := 0
      opTrnTopoCnt := 0
      datasetLength := BitVec.ofNat 32 data.length
      reserved := 0
      replyComId := 0
      replyIpAddress := 0
      frameCheckSum := 0 }
  { head with frameCheckSum := head.fcs }.bytes ++ data

/-- A reception at which no allocation fails. -/
def receiveAt (clock : Clock) : RecvEnv where
  alloc := true
  clock
  send := ⟨fun _ => clock, fun _ => ⟨true, 0⟩⟩
  statistics := []

/-- A subscription at which nothing fails. -/
def subscribeAt (clock : Clock) (handle : Nat) : SubscribeEnv where
  socket := .ok 0
  fails := nofun
  allocEle := true
  allocFrame := true
  handle
  clock

/-- A subscription of comId 1000 that is polled every 100 ms. -/
def polled (srcIpAddr destIpAddr : U32) : SubscribeArgs where
  pUserRef := 0
  pfCbFunction := none
  comId := 1000
  srcIpAddr
  destIpAddr
  pktFlags := trdpFlagsDefault
  timeout := 100000
  toBehavior := .keepLastValue

/-- A session with one such subscription, of any source and destination. -/
def polledSession : TrdpSession :=
  (tlpSubscribe (subscribeAt (clockAt 0) 1) (polled 0 0) openedSession).2

theorem polledSession_distinct : DistinctHandles polledSession := List.nodup_singleton 1

end TsnTrdp.Trdp
