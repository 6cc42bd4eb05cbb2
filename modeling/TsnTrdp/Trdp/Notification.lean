import TsnTrdp.Trdp.Outages

/-! What a subscription with a function to call is told. It compares the data of a datagram with
what the frame before it holds, over the length of the new data, whatever length the old ones had.
-/

namespace TsnTrdp.Trdp

open TsnTrdp.Run TsnTrdp.Queue

/-- What a frame delivers: its length and so many data. -/
def PdPacket.dataset (frame : PdPacket) : U32 × List U8 :=
  (frame.frameHead.datasetLength, frame.data.take frame.frameHead.datasetLength.toNat)

/-- A session, with the dataset that one of its subscriptions accepted last. -/
structure Noticed where
  session : TrdpSession
  delivered : Option (U32 × List U8)

def noticeStep (handle : Nat) (s : Noticed) : TimedEvent → Option Noticed
  | .receive env found =>
      (trdpPdReceive env found s.session).map fun result =>
        { session := result.session
          delivered :=
            if result.AcceptedBy handle then
              (sane found s.session).map fun arrival => arrival.2.dataset
            else s.delivered }
  | .scan clock => some { s with session := (trdpPdHandleTimeOuts clock s.session).1 }

/-- The subscription `ele` at `handle` accepts what is received, which is in `frame`. -/
structure Accepts (handle : Nat) (session : TrdpSession) (env : RecvEnv) (found : Recvmsg)
    (result : RecvResult) (frame : PdPacket) (ele : PdEle)
    : Prop where
  received : trdpPdReceive env found session = some result
  accepted : result.AcceptedBy handle
  arrives : ∃ datagram, sane found session = some (datagram, frame)
  subscribed : ele ∈ session.pRcvQueue
  handle : ele.handle = handle

/-- The application is to be told of each datagram, or was told that there was none, or the datagram
asks for data and gets them.
-/
def Urgent (session : TrdpSession) (frame : PdPacket) (ele : PdEle) : Prop :=
  Has ele.pktFlags trdpFlagsForceCb ∨ Has ele.privFlags trdpTimedOut
  ∨ frame.frameHead.Answered session

/-- The function is called for an accepted datagram exactly if it is urgent, or its dataset is not
the one before it.
-/
def NoticeRight (handle : Nat) (s : Noticed) : TimedEvent → Prop
  | .receive env found =>
      ∀ result frame ele, Accepts handle s.session env found result frame ele
      → ((∃ call ∈ result.callbacks, call.handle = handle)
        ↔ Urgent s.session frame ele ∨ s.delivered ≠ some frame.dataset)
  | .scan _ => True

/-- An accepted datagram is urgent, or its dataset is as long as the one before, or it differs from
what the old frame holds within its own length.
-/
def NoticeFits (handle : Nat) (s : Noticed) : TimedEvent → Prop
  | .receive env found =>
      ∀ result frame ele, Accepts handle s.session env found result frame ele
      → Urgent s.session frame ele
        ∨ s.delivered.map Prod.fst = some frame.frameHead.datasetLength
        ∨ frame.dataset.2 ≠ ele.pFrame.data.take frame.frameHead.datasetLength.toNat
  | .scan _ => True

/-- A subscription with a function to call, whose frame holds what it accepted last. -/
structure Notifies (s : Noticed) (ele : PdEle) : Prop where
  pktFlags : Has ele.pktFlags trdpFlagsCallback
  pfCbFunction : ele.pfCbFunction.isSome = true
  delivered : ∀ dataset ∈ s.delivered, ele.pFrame.dataset = dataset

structure NoticeInv (handle : Nat) (s : Noticed) : Prop where
  distinct : DistinctHandles s.session
  element : ∃ ele ∈ s.session.pRcvQueue, ele.handle = handle ∧ Notifies s ele

variable {session : TrdpSession} {env : RecvEnv} {found : Recvmsg} {result : RecvResult}
  {frame : PdPacket} {ele : PdEle} {handle : Nat} {s : Noticed} {clock : Clock}

/-- What a subscription does with a datagram that is found it. -/
theorem trdpPdReceive_matched {datagram : Datagram}
    (received : trdpPdReceive env found session = some result)
    (arrives : sane found session = some (datagram, frame))
    (matched
      : trdpQueueFindSubAddr session.pRcvQueue (datagram.addr frame.frameHead) = some ele)
    : ∃ informUser handled,
        (informUser = true ↔ frame.frameHead.Answered session)
        ∧ pdHandle env.alloc informUser env.clock.time frame datagram.srcIpAddr
            datagram.destIpAddr ele = some handled
        ∧ handled.ele ∈ result.session.pRcvQueue
        ∧ result.callbacks = handled.callbacks
        ∧ result.accepted = handled.accepted := by
  obtain ⟨session', informUser, telegrams, queue, newFrame, answered, delivers⟩ :=
    trdpPdReceive_sane env arrives
  rw [← queue, ← newFrame] at matched
  rw [delivers, pdDeliver_some matched] at received
  obtain ⟨handled, handles, rfl⟩ := Option.map_eq_some_iff.mp received
  rw [newFrame] at handles
  exact ⟨informUser, handled, answered, handles, mem_modifyFirst_of_find? matched, rfl, rfl⟩

/-- An accepted datagram is for the one subscription at its address. -/
theorem Accepts.matched (accepts : Accepts handle session env found result frame ele)
    (distinct : DistinctHandles session)
    : ∃ datagram,
        sane found session = some (datagram, frame)
        ∧ trdpQueueFindSubAddr session.pRcvQueue (datagram.addr frame.frameHead) = some ele := by
  obtain ⟨datagram, arrives⟩ := accepts.arrives
  refine ⟨datagram, arrives, ?_⟩
  cases trdpPdReceive_cases accepts.received with
  | refused insane _ => cases insane.symm.trans arrives
  | unsubscribed _ _ _ _ _ _ _ routed _ => cases routed.symm.trans accepts.accepted.1
  | routed _ _ other _ _ arrives' matched _ _ _ _ routed _ =>
      obtain ⟨rfl, rfl⟩ := Prod.mk.inj (Option.some.inj (arrives'.symm.trans arrives))
      have handles : other.handle = ele.handle :=
        (Option.some.inj (routed.symm.trans accepts.accepted.1)).trans accepts.handle.symm
      obtain rfl := List.inj_on_of_nodup_map distinct (List.mem_of_find?_eq_some matched)
        accepts.subscribed handles
      exact matched

/-- The call of a subscription with a function. -/
theorem receiveCallback_calls (destIpAddr : U32) (err : TrdpErr)
    (pktFlags : Has ele.pktFlags trdpFlagsCallback) (function : ele.pfCbFunction.isSome = true)
    : ∃ call ∈ receiveCallback destIpAddr err ele, call.handle = ele.handle := by
  obtain ⟨number, same⟩ := Option.isSome_iff_exists.mp function
  rw [receiveCallback, if_pos pktFlags, same]
  exact ⟨_, List.mem_singleton_self _, rfl⟩

/-- What an accepted datagram does: the function is called if it is urgent or differs from the start
of the old frame, and the subscription has its frame.
-/
theorem Accepts.calls (accepts : Accepts handle session env found result frame ele)
    (distinct : DistinctHandles session) (pktFlags : Has ele.pktFlags trdpFlagsCallback)
    (function : ele.pfCbFunction.isSome = true)
    : ((∃ call ∈ result.callbacks, call.handle = handle)
        ↔ Urgent session frame ele
          ∨ frame.dataset.2 ≠ ele.pFrame.data.take frame.frameHead.datasetLength.toNat)
      ∧ ∃ ele' ∈ result.session.pRcvQueue,
        ele'.handle = handle ∧ ele'.pktFlags = ele.pktFlags
        ∧ ele'.pfCbFunction = ele.pfCbFunction ∧ ele'.pFrame = frame := by
  obtain ⟨datagram, arrives, matched⟩ := accepts.matched distinct
  obtain ⟨informUser, handled, answered, handles, member, callbacks, accepted⟩ :=
    trdpPdReceive_matched accepts.received arrives matched
  have heard := pdHandle_heardFrom handles
  obtain ⟨check, list, -, ⟨-, taken⟩ | ⟨-, ignored⟩⟩ := pdHandle_cases handles
  · have own := heard.handle.trans accepts.handle
    have told : (informUser
          || informsUser
            { ele.heard frame.frameHead datagram.srcIpAddr datagram.destIpAddr with
              pSeqCntList := list } frame) = true
        ↔ Urgent session frame ele
          ∨ frame.dataset.2 ≠ ele.pFrame.data.take frame.frameHead.datasetLength.toNat := by
      rw [Bool.or_eq_true, answered, decide_eq_true_iff]
      unfold informsUser Urgent PdPacket.dataset
      simp only [PdEle.heard, pktFlags, true_and]
      tauto
    refine ⟨?_, handled.ele, member, own, heard.pktFlags, heard.pfCbFunction, ?_⟩
    · rw [callbacks, taken.callbacks, ← told]
      split
      · next informs =>
          refine iff_of_true ?_ informs
          obtain ⟨call, calls, same⟩ := receiveCallback_calls datagram.destIpAddr .noErr
            (heard.pktFlags ▸ pktFlags) (heard.pfCbFunction ▸ function)
          exact ⟨call, calls, same.trans own⟩
      · next silent => exact iff_of_false (by simp) silent
    · rw [taken.ele]
      rfl
  · cases (accepts.accepted.2.symm.trans accepted).trans ignored.accepted

/-- Where the data are the same over the length of the new ones, the datasets are the same exactly
if their lengths are.
-/
theorem delivered_iff_length (holds : ∀ dataset ∈ s.delivered, ele.pFrame.dataset = dataset)
    (same : frame.dataset.2 = ele.pFrame.data.take frame.frameHead.datasetLength.toNat)
    : s.delivered = some frame.dataset
      ↔ s.delivered.map Prod.fst = some frame.frameHead.datasetLength := by
  constructor
  · intro delivered
    rw [delivered]
    rfl
  · intro length
    obtain ⟨dataset, delivered, length⟩ := Option.map_eq_some_iff.mp length
    have held := holds dataset delivered
    have old : ele.pFrame.frameHead.datasetLength = frame.frameHead.datasetLength := by
      rw [← length, ← held]
      rfl
    rw [delivered, ← held, PdPacket.dataset, old, ← same]
    rfl

/-- One event, from a subscription whose frame holds what it accepted last. -/
theorem noticeRight_iff (inv : NoticeInv handle s) (event : TimedEvent)
    : NoticeRight handle s event ↔ NoticeFits handle s event := by
  cases event with
  | scan clock => exact Iff.rfl
  | receive env found =>
      refine forall_congr' fun result => forall_congr' fun frame => forall_congr' fun ele =>
        forall_congr' fun accepts => ?_
      obtain ⟨own, member, at_, notifies⟩ := inv.element
      obtain rfl := List.inj_on_of_nodup_map inv.distinct member accepts.subscribed
        (at_.trans accepts.handle.symm)
      rw [(accepts.calls inv.distinct notifies.pktFlags notifies.pfCbFunction).1]
      -- what decides is the frame's old data over the new length, not the old dataset
      by_cases urgent : Urgent s.session frame own
      · simp only [urgent, true_or]
      · by_cases same
            : frame.dataset.2 = own.pFrame.data.take frame.frameHead.datasetLength.toNat
        · have length := delivered_iff_length notifies.delivered same
          simp only [urgent, false_or, ne_eq, same, not_true_eq_false, or_false, false_iff,
            not_not]
          exact length
        · have differs : s.delivered ≠ some frame.dataset := by
            intro delivered
            have held := notifies.delivered _ delivered
            have length := congrArg Prod.fst held
            have data := congrArg Prod.snd held
            simp only [PdPacket.dataset] at length data same
            rw [length] at data
            exact same data.symm
          simp only [urgent, ne_eq, same, not_false_eq_true, or_true, differs]

/-- A scan changes the flags of a late subscription. -/
theorem Notifies.scanned (notifies : Notifies s ele) (session : TrdpSession) (now : TrdpTime)
    : Notifies { s with session } (ele.scanned now) := by
  unfold PdEle.scanned
  split
  · exact ⟨notifies.pktFlags, notifies.pfCbFunction, notifies.delivered⟩
  · exact ⟨notifies.pktFlags, notifies.pfCbFunction, notifies.delivered⟩

/-- Every event keeps the invariant: what is accepted is what the frame then holds. -/
theorem noticeStep_keeps (event : TimedEvent) (next : Noticed) (inv : NoticeInv handle s)
    (stepped : noticeStep handle s event = some next)
    : NoticeInv handle next := by
  obtain ⟨ele, member, at_, notifies⟩ := inv.element
  cases event with
  | scan clock =>
      obtain rfl := Option.some.inj stepped
      exact ⟨inv.distinct.scanned clock, ele.scanned clock.time, trdpPdHandleTimeOuts_mem member,
        ele.scanned_handle.trans at_, notifies.scanned _ _⟩
  | receive env found =>
      obtain ⟨result, received, rfl⟩ := Option.map_eq_some_iff.mp stepped
      refine ⟨inv.distinct.received received, ?_⟩
      by_cases accepted : result.AcceptedBy handle
      · obtain ⟨⟨datagram, frame⟩, arrives⟩ : ∃ arrival, sane found s.session = some arrival := by
          cases trdpPdReceive_cases received with
          | refused _ refused => cases refused.routed.symm.trans accepted.1
          | unsubscribed _ _ arrives _ _ _ _ _ _ => exact ⟨_, arrives⟩
          | routed _ _ _ _ _ arrives _ _ _ _ _ _ _ => exact ⟨_, arrives⟩
        have accepts : Accepts handle s.session env found result frame ele :=
          ⟨received, accepted, ⟨datagram, arrives⟩, member, at_⟩
        obtain ⟨-, ele', member', at', pktFlags, function, holds⟩ :=
          accepts.calls inv.distinct notifies.pktFlags notifies.pfCbFunction
        refine ⟨ele', member', at', pktFlags ▸ notifies.pktFlags,
          function ▸ notifies.pfCbFunction, ?_⟩
        dsimp only
        -- the frame now holds the new header, and so the length that the dataset has
        rw [if_pos accepted, arrives, holds]
        rintro dataset ⟨⟩
        rfl
      · obtain ⟨ele', member', ⟨taken, -⟩ | ⟨-, kept⟩⟩ :=
          trdpPdReceive_element inv.distinct received member
        · exact absurd (at_ ▸ taken) accepted
        · refine ⟨ele', member', kept.handle.trans at_, kept.pktFlags ▸ notifies.pktFlags,
            kept.pfCbFunction ▸ notifies.pfCbFunction, ?_⟩
          dsimp only
          rw [if_neg accepted, kept.pFrame]
          exact notifies.delivered

variable {subscribe : SubscribeEnv} {args : SubscribeArgs} {subscribed : TrdpSession}

/-- A new subscription has accepted nothing. -/
theorem newSubscription_notified (distinct : DistinctHandles session)
    (fresh : ∀ ele ∈ session.pRcvQueue, ele.handle ≠ subscribe.handle)
    (subscribes : tlpSubscribe subscribe args session = (.noErr, subscribed))
    (informed
      : ∀ ele ∈ subscribed.pRcvQueue, ele.handle = subscribe.handle
        → Has ele.pktFlags trdpFlagsCallback ∧ ele.pfCbFunction.isSome = true)
    : NoticeInv subscribe.handle ⟨subscribed, none⟩ := by
  obtain ⟨socketIdx, rfl⟩ := tlpSubscribe_done subscribes
  have member : newSubscription subscribe args session socketIdx
      ∈ session.pRcvQueue ++ [newSubscription subscribe args session socketIdx] :=
    List.mem_append_right _ (List.mem_singleton_self _)
  exact ⟨distinct.subscribed fresh, _, member, rfl, (informed _ member rfl).1,
    (informed _ member rfl).2, nofun⟩

/-- From a subscription with a function to call on, in every run of receptions and scans, the
function is called for an accepted datagram exactly if this is urgent or has another dataset than
the one accepted before, as long as each accepted datagram fits; and only then.
-/
theorem notification_exact (distinct : DistinctHandles session)
    (fresh : ∀ ele ∈ session.pRcvQueue, ele.handle ≠ subscribe.handle)
    (subscribes : tlpSubscribe subscribe args session = (.noErr, subscribed))
    (informed
      : ∀ ele ∈ subscribed.pRcvQueue, ele.handle = subscribe.handle
        → Has ele.pktFlags trdpFlagsCallback ∧ ele.pfCbFunction.isSome = true)
    (events : List TimedEvent)
    : Along (faulting (noticeStep subscribe.handle)) (BeforeFault (NoticeRight subscribe.handle))
        (some ⟨subscribed, none⟩) events
      ↔ Along (faulting (noticeStep subscribe.handle)) (BeforeFault (NoticeFits subscribe.handle))
        (some ⟨subscribed, none⟩) events := by
  have keeps : ∀ s event next, NoticeInv subscribe.handle s → NoticeFits subscribe.handle s event
      → noticeStep subscribe.handle s event = some next → NoticeInv subscribe.handle next :=
    fun s event next inv _ stepped => noticeStep_keeps event next inv stepped
  exact faulting_iff keeps (fun s event inv => noticeRight_iff inv event)
    (newSubscription_notified distinct fresh subscribes informed) events

/-- A subscription of comId 1000 with a function to call on changes. -/
def informedArgs : SubscribeArgs :=
  { polled 0 0 with pktFlags := trdpFlagsCallback, pfCbFunction := some 1 }

/-- The session with it. -/
def informedSubscription : TrdpSession :=
  (tlpSubscribe (subscribeAt (clockAt 0) 1) informedArgs openedSession).2

/-- A telegram for it. -/
def dataTelegram (sequenceCounter : U32) (data : List U8) : Recvmsg :=
  .datagram (telegramBytes trdpMsgPd 1000 sequenceCounter data) 0x0a000002 0x0a000001

def dataEvent (sequenceCounter : U32) (data : List U8) : TimedEvent :=
  .receive (receiveAt (clockAt 1)) (dataTelegram sequenceCounter data)

theorem informedSubscription_informed
    : ∀ ele ∈ informedSubscription.pRcvQueue, ele.handle = (subscribeAt (clockAt 0) 1).handle
      → Has ele.pktFlags trdpFlagsCallback ∧ ele.pfCbFunction.isSome = true := by
  intro ele member _
  obtain rfl := List.mem_singleton.mp member
  decide

theorem notification_exact_first
    : Along (faulting (noticeStep 1)) (BeforeFault (NoticeRight 1))
        (some ⟨informedSubscription, none⟩) [dataEvent 1 [1, 2, 3, 4]] := by
  have subscribes : tlpSubscribe (subscribeAt (clockAt 0) 1) informedArgs openedSession
      = (.noErr, informedSubscription) := Prod.ext (by decide +kernel) rfl
  have distinct : DistinctHandles openedSession := List.nodup_nil
  refine (notification_exact distinct (fun _ member => absurd member List.not_mem_nil)
    subscribes informedSubscription_informed _).mpr ⟨?_, trivial⟩
  rintro s ⟨⟩ result frame ele accepts
  obtain ⟨datagram, arrives⟩ := accepts.arrives
  have holds : ∀ arrival ∈ sane (dataTelegram 1 [1, 2, 3, 4]) informedSubscription,
      arrival.2.dataset = (4, [1, 2, 3, 4]) := by
    decide +kernel
  have dataset := holds _ arrives
  have length : frame.frameHead.datasetLength = 4 := congrArg Prod.fst dataset
  obtain rfl := List.mem_singleton.mp accepts.subscribed
  refine .inr (.inr ?_)
  rw [congrArg Prod.snd dataset, length]
  decide

/-- After four bytes their first two are accepted, and the function is not called. -/
theorem shorter_dataset_unnoticed
    : ((noticeStep 1 ⟨informedSubscription, none⟩ (dataEvent 1 [1, 2, 3, 4])).bind fun s =>
          (trdpPdReceive (receiveAt (clockAt 1)) (dataTelegram 2 [1, 2]) s.session).map
            fun result => (result.accepted, result.callbacks))
        = some (true, [])
      ∧ ¬ Along (faulting (noticeStep 1)) (BeforeFault (NoticeRight 1))
        (some ⟨informedSubscription, none⟩)
        [dataEvent 1 [1, 2, 3, 4], dataEvent 2 [1, 2]] := by
  refine ⟨by decide +kernel, ?_⟩
  rintro ⟨-, right, -⟩
  have computed :
      ∀ s ∈ noticeStep 1 ⟨informedSubscription, none⟩ (dataEvent 1 [1, 2, 3, 4]),
        s.delivered = some (4, [1, 2, 3, 4])
        ∧ ((sane (dataTelegram 2 [1, 2]) s.session).map fun arrival => arrival.2.dataset)
          = some (2, [1, 2])
        ∧ s.session.pRcvQueue.map PdEle.handle = [1]
        ∧ ((trdpPdReceive (receiveAt (clockAt 1)) (dataTelegram 2 [1, 2]) s.session).map
            fun result => (result.routed, result.accepted, result.callbacks))
          = some (some 1, true, []) := by
    decide +kernel
  obtain ⟨s, first⟩ :
      ∃ s, noticeStep 1 ⟨informedSubscription, none⟩ (dataEvent 1 [1, 2, 3, 4]) = some s := by
    refine Option.isSome_iff_exists.mp ?_
    decide +kernel
  obtain ⟨delivered, arrives, handles, received⟩ := computed s first
  obtain ⟨⟨datagram, frame⟩, arrives, dataset⟩ := Option.map_eq_some_iff.mp arrives
  obtain ⟨result, received, outcome⟩ := Option.map_eq_some_iff.mp received
  obtain ⟨ele, subscribed, handle⟩ := List.mem_map.mp (handles ▸ List.mem_singleton_self 1)
  obtain ⟨routed, accepted, silent⟩ : result.routed = some 1 ∧ result.accepted = true
      ∧ result.callbacks = [] :=
    ⟨congrArg Prod.fst outcome, congrArg (fun parts => parts.2.1) outcome,
      congrArg (fun parts => parts.2.2) outcome⟩
  have known : s ∈ faulting (noticeStep 1) (some ⟨informedSubscription, none⟩)
      (dataEvent 1 [1, 2, 3, 4]) := by
    rw [faulting, Option.bind_some]
    exact first
  have calls := right s known result frame ele
    ⟨received, ⟨routed, accepted⟩, ⟨datagram, arrives⟩, subscribed, handle⟩
  have differs : s.delivered ≠ some frame.dataset := by
    rw [delivered, dataset]
    decide
  obtain ⟨call, member, -⟩ := calls.mpr (.inr differs)
  rw [silent] at member
  cases member

end TsnTrdp.Trdp
