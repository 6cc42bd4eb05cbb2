import TsnTrdp.Trdp.Reception
import TsnTrdp.Lib.Run

/-! Where delivered data come from. A datagram is stored over what the receive buffer held, and
its data are as long as its header says, so they are its own only as far as they arrived.
-/

namespace TsnTrdp.Trdp

open TsnTrdp.Queue TsnTrdp.Run

/-- One reception of earlier traffic. -/
def recvStep (session : TrdpSession) (event : RecvEnv × Recvmsg) : Option TrdpSession :=
  (trdpPdReceive event.1 event.2 session).map RecvResult.session

/-- An accepted datagram delivers `data`: to the callback, or to a read of its subscription. -/
def Delivers (result : RecvResult) (data : List U8) : Prop :=
  result.accepted = true
  ∧ ((∃ callback ∈ result.callbacks, callback.data = data)
    ∨ ∃ ele ∈ result.session.pRcvQueue,
        result.routed = some ele.handle
        ∧ ∃ now pDataSize after size,
            pdRead none now pDataSize ele = (.noErr, after, some (data, size)))

/-- After the traffic `earlier`, the datagram `found` delivers `data`. -/
def DeliveredAfter (session : TrdpSession) (earlier : List (RecvEnv × Recvmsg)) (env : RecvEnv)
    (found : Recvmsg) (data : List U8)
    : Prop :=
  ∃ s result,
    run (faulting recvStep) (some session) earlier = some s
    ∧ trdpPdReceive env found s = some result
    ∧ Delivers result data

/-- A datagram delivers the start of its payload, the same after any earlier traffic. -/
structure DeliversOwn (found : Recvmsg) : Prop where
  payload
    : ∀ session earlier env data,
        DistinctHandles session
        → DeliveredAfter session earlier env found data
        → ∃ datagram, vosSockReceiveUdp found = .ok datagram ∧ data <+: datagram.payload
  same
    : ∀ session earlier₁ earlier₂ env data₁ data₂,
        DistinctHandles session
        → DeliveredAfter session earlier₁ env found data₁
        → DeliveredAfter session earlier₂ env found data₂
        → data₁ = data₂

/-- A datagram that passes the header check carries the data that its header announces. -/
def PayloadCovers (found : Recvmsg) : Prop :=
  ∀ datagram, vosSockReceiveUdp found = .ok datagram
    → datagram.Valid
    → datagram.head.datasetLength.toNat ≤ datagram.payload.length

variable {session s : TrdpSession} {env : RecvEnv} {found : Recvmsg} {result : RecvResult}
  {data : List U8} {datagram : Datagram} {frame : PdPacket}

theorem distinctHandles_after (distinct : DistinctHandles session)
    {earlier : List (RecvEnv × Recvmsg)}
    (reached : run (faulting recvStep) (some session) earlier = some s)
    : DistinctHandles s := by
  refine faulting_reaches ?_ distinct reached
  intro before event after distinct stepped
  obtain ⟨result, received, rfl⟩ := Option.map_eq_some_iff.mp stepped
  exact DistinctHandles.received distinct received

/-- A read that succeeds copies the data out of the frame. -/
theorem pdRead_data {now : TrdpTime} {pDataSize : Option U32} {ele after : PdEle} {size : U32}
    (read : pdRead none now pDataSize ele = (.noErr, after, some (data, size)))
    : data = ele.pFrame.data.take ele.dataSize.toNat := by
  unfold pdRead trdpPdGet at read
  simp only [ite_self] at read
  split at read
  · cases read
  split at read
  · cases read
  split at read
  · cases read
  cases pDataSize with
  | none => cases read
  | some available =>
      dsimp only at read
      split at read
      · cases read
        rfl
      · cases read

/-- Data that were just accepted can be read into a buffer of their size. -/
theorem pdRead_accept (ele : PdEle) (now : TrdpTime) (frame : PdPacket)
    : ∃ after,
        pdRead none (ele.accept now frame).timeToGo (some frame.frameHead.datasetLength)
          (ele.accept now frame)
          = (.noErr, after,
            some (frame.data.take frame.frameHead.datasetLength.toNat,
              frame.frameHead.datasetLength)) := by
  have valid : ¬ Has (ele.accept now frame).privFlags trdpInvalidData := not_has_without
  have timely : ¬ Has (ele.accept now frame).privFlags trdpTimedOut := by
    exact mt (has_without_of_disjoint (by decide)).mp not_has_without
  refine ⟨{ ele.accept now frame with getPkts := ele.getPkts + 1 }, ?_⟩
  unfold pdRead trdpPdGet
  rw [if_neg (fun late => TrdpTime.not_after_self late.2)]
  dsimp only
  rw [if_neg valid, if_neg timely, ite_self]
  exact if_pos (BitVec.le_refl _)

theorem receiveCallback_data {destIpAddr : U32} {err : TrdpErr} {ele : PdEle}
    {callback : PdCallback} (member : callback ∈ receiveCallback destIpAddr err ele)
    : callback.data = ele.pFrame.data.take ele.pFrame.frameHead.datasetLength.toNat := by
  unfold receiveCallback at member
  split at member
  · obtain ⟨function, -, rfl⟩ := List.mem_map.mp member
    rfl
  · cases member

/-- What is delivered is the start of the frame that holds the datagram, of the announced length. -/
theorem delivers_data (distinct : DistinctHandles s)
    (received : trdpPdReceive env found s = some result) (delivers : Delivers result data)
    : ∃ datagram frame,
        sane found s = some (datagram, frame)
        ∧ data = frame.data.take frame.frameHead.datasetLength.toNat := by
  obtain ⟨accepted, data'⟩ := delivers
  have distinct' := distinct.received received
  cases trdpPdReceive_cases received with
  | refused _ refused => cases refused.accepted.symm.trans accepted
  | unsubscribed _ _ _ _ _ _ _ _ unaccepted => cases unaccepted.symm.trans accepted
  | routed datagram frame ele _ handled arrives matched handles _ pRcvQueue callbacks routed
      accepted' =>
      refine ⟨datagram, frame, arrives, ?_⟩
      obtain ⟨check, list, -, ⟨-, accepts⟩ | ⟨-, ignored⟩⟩ := pdHandle_cases handles
      · have holds : handled.ele.pFrame = frame
            ∧ handled.ele.dataSize = frame.frameHead.datasetLength := by
          rw [accepts.ele]
          exact ⟨rfl, rfl⟩
        rcases data' with ⟨callback, member, rfl⟩ | ⟨stored, member, handle, _, _, _, _, read⟩
        · rw [callbacks, accepts.callbacks] at member
          split at member
          · rw [receiveCallback_data member, holds.1]
          · cases member
        · have present : handled.ele ∈ result.session.pRcvQueue := by
            rw [pRcvQueue]
            exact mem_modifyFirst_of_find? matched
          have sameHandle : stored.handle = handled.ele.handle := by
            rw [(pdHandle_heardFrom handles).handle]
            exact Option.some.inj (handle.symm.trans routed)
          obtain rfl := List.inj_on_of_nodup_map distinct' member present sameHandle
          rw [pdRead_data read, holds.1, holds.2]
      · cases (accepted'.trans ignored.accepted).symm.trans accepted

/-- Where the payload covers the announced data, they are its start. -/
theorem delivered_own (covers : PayloadCovers found) (distinct : DistinctHandles session)
    {earlier : List (RecvEnv × Recvmsg)}
    (delivered : DeliveredAfter session earlier env found data)
    : ∃ datagram,
        vosSockReceiveUdp found = .ok datagram
        ∧ data = datagram.payload.take datagram.head.datasetLength.toNat := by
  obtain ⟨s, result, reached, received, delivers⟩ := delivered
  obtain ⟨datagram, frame, arrives, rfl⟩ :=
    delivers_data (distinctHandles_after distinct reached) received delivers
  obtain ⟨socket, valid, -⟩ := sane_eq_some.mp arrives
  obtain ⟨head, stored⟩ := sane_frame arrives
  refine ⟨datagram, socket, ?_⟩
  rw [head, stored, List.take_append_of_le_length (covers datagram socket valid)]

/-- A session that listens to one comId from anywhere. -/
def listening (comId : U32) : TrdpSession :=
  { openedSession with
    pRcvQueue :=
      [newSubscription (subscribeAt (clockAt 0) 1) { polled 0 0 with comId } openedSession 0] }

/-- Traffic that fills the receive buffer and is refused. -/
def filler : Recvmsg := .datagram (.replicate trdpMaxPdPacketSize 0xff) 0 0

def fillerDatagram : Datagram := ⟨.replicate trdpMaxPdPacketSize 0xff, 0, 0⟩

theorem listening_delivers (queue : s.pRcvQueue = (listening datagram.head.comId).pRcvQueue)
    (arrives : sane found s = some (datagram, frame))
    : ∃ result,
        trdpPdReceive (receiveAt (clockAt 1)) found s = some result
        ∧ Delivers result (frame.data.take datagram.head.datasetLength.toNat) := by
  obtain ⟨head, -⟩ := sane_frame arrives
  obtain ⟨session', informUser, telegrams, queue', newFrame, -, receives⟩ :=
    trdpPdReceive_sane (receiveAt (clockAt 1)) arrives
  let ele := newSubscription (subscribeAt (clockAt 0) 1)
    { polled 0 0 with comId := datagram.head.comId } openedSession 0
  have one : session'.pRcvQueue = [ele] := queue'.trans queue
  have matches' : ele.matchesSubAddr (datagram.addr frame.frameHead) := by
    rw [head]
    exact decide_eq_true ⟨rfl, Or.inl rfl, Or.inl rfl⟩
  have matched : trdpQueueFindSubAddr session'.pRcvQueue
      (datagram.addr session'.pNewFrame.frameHead) = some ele := by
    rw [one, newFrame]
    exact List.find?_cons_of_pos matches'
  have unheard : (ele.heard frame.frameHead datagram.srcIpAddr datagram.destIpAddr).pSeqCntList
      = none := by
    dsimp only [PdEle.heard]
    split <;> rfl
  obtain ⟨handled, handles⟩ : ∃ handled, pdHandle true informUser (clockAt 1).time frame
      datagram.srcIpAddr datagram.destIpAddr ele = some handled := by
    unfold pdHandle
    dsimp only
    rw [unheard]
    exact ⟨_, rfl⟩
  obtain ⟨check, list, checked, ⟨-, accepts⟩ | ⟨stale, -⟩⟩ := pdHandle_cases handles
  · rw [pdDeliver_some matched, newFrame, one] at receives
    simp only [modifyFirst, matches', if_true] at receives
    have returns := receives.trans (congrArg _ handles)
    refine ⟨_, returns, accepts.accepted, Or.inr ⟨handled.ele, List.mem_singleton_self _, ?_⟩⟩
    refine ⟨congrArg some (pdHandle_heardFrom handles).handle.symm, handled.ele.timeToGo,
      some frame.frameHead.datasetLength, ?_⟩
    rw [accepts.ele, ← head]
    obtain ⟨after, read⟩ := pdRead_accept
      { ele.heard frame.frameHead datagram.srcIpAddr datagram.destIpAddr with pSeqCntList := list }
      (clockAt 1).time frame
    exact ⟨after, _, read⟩
  · rw [unheard] at checked
    obtain ⟨rfl, -⟩ := Prod.mk.inj (Option.some.inj checked)
    exact absurd rfl stale

/-- Where a datagram announces more data than it carries, the frame's old content shows. -/
theorem take_padded_ne {n length : Nat} {payload : List U8} {a b : U8} (apart : a ≠ b)
    (short : payload.length < length) (fits : length ≤ n)
    : (payload ++ (List.replicate n a).drop payload.length).take length
      ≠ (payload ++ (List.replicate n b).drop payload.length).take length := by
  intro same
  have room : 0 < n - payload.length := by omega
  have at' := congrArg (·[payload.length]?) same
  simp only [List.getElem?_take_of_lt short, List.getElem?_append_right le_rfl, Nat.sub_self,
    List.drop_replicate, List.getElem?_replicate, room, if_true, Option.some.injEq] at at'
  exact apart at'

/-- The filler is refused and stays in the receive buffer. -/
theorem after_filler (session : TrdpSession)
    (size : session.pNewFrame.data.length = trdpMaxPdDataSize)
    : ∃ s,
        run (faulting recvStep) (some session) [(receiveAt (clockAt 0), filler)] = some s
        ∧ s.pRcvQueue = session.pRcvQueue
        ∧ s.pNewFrame.data = .replicate trdpMaxPdDataSize 0xff := by
  have socket : vosSockReceiveUdp filler = .ok fillerDatagram := by decide +kernel
  have insane : sane filler session = none := by
    rw [sane_eq_none]
    intro other same
    obtain rfl := Except.ok.inj (socket.symm.trans same)
    decide +kernel
  obtain ⟨result, received, refused⟩ := trdpPdReceive_refused (receiveAt (clockAt 0)) insane
  refine ⟨result.session, ?_, refused.pRcvQueue, ?_⟩
  · rw [run_cons, run_nil, faulting, Option.bind_some, recvStep, received]
    rfl
  · rw [refused.pNewFrame fillerDatagram socket]
    have whole : fillerDatagram.bytes.length - trdpMinPdHeaderSize = trdpMaxPdDataSize := by
      rw [fillerDatagram, List.length_replicate]
      rfl
    have gone : session.pNewFrame.data.drop trdpMaxPdDataSize = [] :=
      List.drop_eq_nil_of_le size.le
    unfold PdPacket.store
    rw [whole, gone, List.append_nil]
    exact List.drop_replicate

/-- What a datagram delivers is its own, whatever came before it, exactly if it carries the data
that its header announces, or fails the header check.
-/
theorem delivery_own (found : Recvmsg) : DeliversOwn found ↔ PayloadCovers found := by
  constructor
  · intro own datagram socket valid
    by_contra short
    have size := (trdpPdCheck_noErr valid).2
    have arrives : ∀ s : TrdpSession,
        sane found s = some (datagram, s.pNewFrame.store datagram.bytes) :=
      fun _ => sane_eq_some.mpr ⟨socket, valid, rfl⟩
    let session := listening datagram.head.comId
    obtain ⟨s, filled, queue, full⟩ := after_filler session List.length_replicate
    obtain ⟨result₁, received₁, delivers₁⟩ := listening_delivers rfl (arrives session)
    obtain ⟨result₂, received₂, delivers₂⟩ := listening_delivers queue (arrives s)
    rw [(sane_frame (arrives session)).2] at delivers₁
    rw [(sane_frame (arrives s)).2, full] at delivers₂
    have same := own.same session [] _ (receiveAt (clockAt 1)) _ _ (List.nodup_singleton 1)
      ⟨session, result₁, rfl, received₁, delivers₁⟩ ⟨s, result₂, filled, received₂, delivers₂⟩
    exact take_padded_ne (by decide) (by omega) size same
  · intro covers
    constructor
    · intro session earlier env data distinct delivered
      obtain ⟨datagram, socket, rfl⟩ := delivered_own covers distinct delivered
      exact ⟨datagram, socket, List.take_prefix _ _⟩
    · intro session earlier₁ earlier₂ env data₁ data₂ distinct first second
      obtain ⟨datagram₁, socket₁, rfl⟩ := delivered_own covers distinct first
      obtain ⟨datagram₂, socket₂, rfl⟩ := delivered_own covers distinct second
      rw [Except.ok.inj (socket₁.symm.trans socket₂)]

/-- A session with a subscription whose callback is called for every datagram. -/
def informedSession : TrdpSession :=
  (tlpSubscribe (subscribeAt (clockAt 0) 1)
    { polled 0 0 with
      pfCbFunction := some 1
      pktFlags := trdpFlagsCallback ||| trdpFlagsForceCb }
    openedSession).2

/-- The header of a telegram of four bytes, without them. -/
def headerOnly : Recvmsg :=
  .datagram ((telegramBytes trdpMsgPd 1000 1 [1, 2, 3, 4]).take trdpMinPdHeaderSize)
    0x0a000002 0x0a000001

/-- A telegram of another comId, that nobody subscribed. -/
def unsubscribedTelegram : Recvmsg :=
  .datagram (telegramBytes trdpMsgPd 2000 1 [0xaa, 0xbb, 0xcc, 0xdd]) 0x0a000003 0x0a000001

/-- The callback is handed the data of a telegram that nobody subscribed. -/
theorem delivery_own_headerOnly : ¬ DeliversOwn headerOnly := by
  intro own
  have hands : ∀ earlier data,
      ((run (faulting recvStep) (some informedSession) earlier).bind fun s =>
        (trdpPdReceive (receiveAt (clockAt 2)) headerOnly s).map fun result =>
          (result.accepted, result.callbacks.map PdCallback.data)) = some (true, [data])
      → DeliveredAfter informedSession earlier (receiveAt (clockAt 2)) headerOnly data := by
    intro earlier data computed
    obtain ⟨s, reached, rest⟩ := Option.bind_eq_some_iff.mp computed
    obtain ⟨result, received, outcome⟩ := Option.map_eq_some_iff.mp rest
    obtain ⟨accepted, calls⟩ := Prod.mk.inj outcome
    have called : data ∈ result.callbacks.map PdCallback.data := calls ▸ List.mem_singleton_self _
    exact ⟨s, result, reached, received, accepted, Or.inl (List.mem_map.mp called)⟩
  have silent := hands [] [0, 0, 0, 0] (by decide +kernel)
  have after := hands [(receiveAt (clockAt 1), unsubscribedTelegram)] [0xaa, 0xbb, 0xcc, 0xdd]
    (by decide +kernel)
  have distinct : DistinctHandles informedSession := by
    unfold DistinctHandles
    decide +kernel
  exact absurd (own.same _ _ _ _ _ _ distinct silent after) (by decide)

end TsnTrdp.Trdp
