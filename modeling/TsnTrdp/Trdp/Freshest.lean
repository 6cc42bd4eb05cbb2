import TsnTrdp.Trdp.Reception

/-! Polling. Reading a subscription first drains its socket, but only up to the first datagram
that is refused or that nobody subscribed, so that fresher data behind it are not returned.
-/

namespace TsnTrdp.Trdp

open TsnTrdp.Queue

/-- The receptions of all that waits, one after the other, up to one that writes beyond its memory,
if there is one.
-/
def receptions (recv : Nat → RecvEnv) (k : Nat) (waiting : List Recvmsg) (session : TrdpSession)
    : List RecvResult :=
  match waiting with
  | [] => []
  | found :: rest =>
      match trdpPdReceive (recv k) found session with
      | none => []
      | some result => result :: receptions recv (k + 1) rest result.session

/-- The receptions before the first one with an error, and the others. -/
def inFront (results : List RecvResult) : List RecvResult :=
  results.takeWhile fun result => result.err = .noErr

def behind (results : List RecvResult) : List RecvResult :=
  results.dropWhile fun result => result.err = .noErr

/-- The last reception that the subscription accepts. -/
def lastAccepted (handle : Nat) (results : List RecvResult) : Option RecvResult :=
  (results.filter fun result => result.AcceptedBy handle).getLast?

/-- The subscription as the last datagram that it accepts leaves it, or as it is stored. -/
def freshest (handle : Nat) (results : List RecvResult) (stored : TrdpSession) : Option PdEle :=
  match lastAccepted handle results with
  | some result => result.session.pRcvQueue.find? (PdEle.isAt handle)
  | none => stored.pRcvQueue.find? (PdEle.isAt handle)

/-- The sequence counter and the data that a read of the subscription returns. -/
def PdEle.content (unmarshall : Option TrdpMarshall) (pDataSize : Option U32) (ele : PdEle)
    : U32 × Option (List U8 × U32) :=
  (ele.curSeqCnt, (trdpPdGet unmarshall pDataSize ele).2.2)

def GetResult.content (got : GetResult) : U32 × Option (List U8 × U32) :=
  (got.info.seqCount, got.data)

/-- What is returned is of the last datagram of all that the subscription accepts. -/
def ReturnsFreshest (handle : Nat) (pDataSize : Option U32) (session : TrdpSession)
    (results : List RecvResult) (got : GetResult)
    : Prop :=
  (freshest handle results session).map (PdEle.content session.unmarshall pDataSize)
    = some got.content

/-- Nothing that the subscription accepts waits behind the first datagram that is received with an
error, or the last of it repeats the counter and the data of what it accepts in front.
-/
def NothingFresherBehind (handle : Nat) (pDataSize : Option U32) (session : TrdpSession)
    (results : List RecvResult)
    : Prop :=
  ∀ last, lastAccepted handle (behind results) = some last →
    (last.session.pRcvQueue.find? (PdEle.isAt handle)).map
        (PdEle.content session.unmarshall pDataSize)
      = (freshest handle (inFront results) session).map
        (PdEle.content session.unmarshall pDataSize)

variable {handle k : Nat} {recv : Nat → RecvEnv} {waiting : List Recvmsg}
  {session stored : TrdpSession} {drained : Drained}
  {unmarshall : Option TrdpMarshall} {pDataSize : Option U32} {ele ele' sub : PdEle}

theorem SameData.content (same : SameData ele ele')
    : ele'.content unmarshall pDataSize = ele.content unmarshall pDataSize := by
  unfold PdEle.content trdpPdGet
  dsimp only
  rw [same.curSeqCnt, same.privFlags, same.pktFlags, same.dataSize, same.pFrame, same.comId]
  by_cases invalid : Has ele.privFlags trdpInvalidData
  · rw [if_pos invalid, if_pos invalid]
  rw [if_neg invalid, if_neg invalid]
  by_cases timedOut : Has ele.privFlags trdpTimedOut
  · rw [if_pos timedOut, if_pos timedOut]
  rw [if_neg timedOut, if_neg timedOut]
  cases pDataSize with
  | none => rfl
  | some size =>
      dsimp only
      cases (if Has ele.pktFlags trdpFlagsMarshall then unmarshall else none) with
      | some unmarshall => rfl
      | none =>
          dsimp only
          by_cases fits : ele.dataSize ≤ size
          · rw [if_pos fits, if_pos fits]
          · rw [if_neg fits, if_neg fits]

/-- An accepted reception takes the place of what is stored. -/
theorem freshest_cons (result : RecvResult) (results : List RecvResult)
    : freshest handle (result :: results) stored
      = freshest handle results (if result.AcceptedBy handle then result.session else stored) := by
  unfold freshest lastAccepted
  by_cases accepted : result.AcceptedBy handle
  · rw [List.filter_cons_of_pos (by simpa using accepted), List.getLast?_cons, if_pos accepted]
    cases (results.filter fun result => result.AcceptedBy handle).getLast? with
    | none => rfl
    | some last => rfl
  · rw [List.filter_cons_of_neg (by simpa using accepted), if_neg accepted]

/-- The loop leaves the subscription with what it accepted in front of the first error. Induction
on what waits; `stored` holds what the subscription accepted last.
-/
theorem drain_freshest (distinct : DistinctHandles session) (member : ele ∈ session.pRcvQueue)
    (old : stored.pRcvQueue.find? (PdEle.isAt ele.handle) = some sub) (same : SameData sub ele)
    (drains : drain recv k waiting session = some drained)
    : DistinctHandles drained.session
      ∧ ∃ ele' ∈ drained.session.pRcvQueue, ele'.handle = ele.handle
        ∧ ∃ new, freshest ele.handle (inFront (receptions recv k waiting session)) stored = some new
          ∧ SameData new ele' := by
  induction waiting generalizing k session stored ele sub drained with
  | nil =>
      obtain ⟨result, received, rfl⟩ := Option.map_eq_some_iff.mp drains
      have insane : sane .wouldBlock session = none := rfl
      obtain ⟨refusal, returns, refused⟩ := trdpPdReceive_refused (recv k) insane
      obtain rfl := Option.some.inj (received.symm.trans returns)
      exact ⟨distinct.received received, ele, refused.pRcvQueue ▸ member, rfl, sub, old, same⟩
  | cons found rest ih =>
      obtain ⟨result, received, goes⟩ := Option.bind_eq_some_iff.mp drains
      unfold receptions
      rw [received]
      dsimp only
      generalize others : receptions recv (k + 1) rest result.session = results
      have distinct' := distinct.received received
      obtain ⟨ele', member', outcome⟩ := trdpPdReceive_element distinct received member
      by_cases goesOn : result.err = .noErr
      · rw [if_pos goesOn] at goes
        obtain ⟨later, drainsRest, rfl⟩ := Option.map_eq_some_iff.mp goes
        have front : inFront (result :: results) = result :: inFront results := by
          simp [inFront, goesOn]
        rw [front, freshest_cons]
        rcases outcome with ⟨accepted, refreshed⟩ | ⟨ignored, kept⟩
        · rw [if_pos accepted, ← refreshed.handle]
          have left := ih distinct' member' (find?_isAt distinct' member') (.refl ele') drainsRest
          rw [others] at left
          exact left
        · rw [if_neg ignored, ← kept.handle]
          have left := ih distinct' member' (kept.handle ▸ old) (same.trans kept) drainsRest
          rw [others] at left
          exact left
      · rw [if_neg goesOn] at goes
        obtain rfl := Option.some.inj goes
        have front : inFront (result :: results) = [] := by
          simp [inFront, goesOn]
        rcases outcome with ⟨accepted, -⟩ | ⟨-, kept⟩
        · exact absurd (noErr_of_accepted received accepted.2) goesOn
        · rw [front]
          exact ⟨distinct', ele', member', kept.handle, sub, old, same.trans kept⟩

/-- The last that is accepted is behind the first error, if anything there is accepted. -/
theorem lastAccepted_behind (handle : Nat) (results : List RecvResult)
    : lastAccepted handle results
      = (lastAccepted handle (behind results)).or (lastAccepted handle (inFront results)) := by
  have whole : inFront results ++ behind results = results := List.takeWhile_append_dropWhile
  unfold lastAccepted
  rw [← List.getLast?_append, ← List.filter_append, whole]

/-- A read that reports no error returns the content of the element. -/
theorem pdRead_content {now : TrdpTime} {data : Option (List U8 × U32)}
    (read : pdRead unmarshall now pDataSize ele = (.noErr, ele', data))
    : ele.content unmarshall pDataSize = (ele'.curSeqCnt, data) := by
  unfold pdRead at read
  split at read
  · cases read
  have counter : (trdpPdGet unmarshall pDataSize ele).2.1.curSeqCnt = ele.curSeqCnt := by
    unfold trdpPdGet
    dsimp only
    repeat' split
    all_goals rfl
  unfold PdEle.content
  rw [read] at counter ⊢
  exact congrArg (·, data) counter.symm

/-- What `tlp_get` returns without an error is what the subscription accepted in front of the
first error.
-/
theorem tlpGet_inFront (distinct : DistinctHandles session) (polls : session.blocking = false)
    (member : sub ∈ session.pRcvQueue) {clock : Clock} {got : GetResult}
    (returns : tlpGet sub.handle recv clock pDataSize waiting session = some got)
    (ok : got.err = .noErr)
    : (freshest sub.handle (inFront (receptions recv 0 waiting session)) session).map
          (PdEle.content session.unmarshall pDataSize) = some got.content := by
  unfold tlpGet at returns
  rw [polls] at returns
  obtain ⟨drained, drains, reads⟩ := Option.bind_eq_some_iff.mp returns
  obtain ⟨ele, found, rfl⟩ := Option.map_eq_some_iff.mp reads
  obtain ⟨distinct', ele', member', handle, new, fresh, kept⟩ :=
    drain_freshest distinct member (find?_isAt distinct member) (.refl sub) drains
  rw [← handle, find?_isAt distinct' member'] at found
  obtain rfl := Option.some.inj found
  rw [fresh, Option.map_some, ← kept.content]
  dsimp only at ok ⊢
  generalize read : pdRead session.unmarshall clock.time pDataSize ele' = outcome at ok ⊢
  obtain ⟨err, after, data⟩ := outcome
  obtain rfl : err = .noErr := ok
  exact congrArg some (pdRead_content read)

/-- A read that reports no error returns the last of all waiting data that the subscription
accepts exactly if no fresher ones wait behind the first datagram that is received with an error.
-/
theorem get_freshest (distinct : DistinctHandles session) (polls : session.blocking = false)
    (member : sub ∈ session.pRcvQueue) {clock : Clock} {got : GetResult}
    (returns : tlpGet sub.handle recv clock pDataSize waiting session = some got)
    (ok : got.err = .noErr)
    : ReturnsFreshest sub.handle pDataSize session (receptions recv 0 waiting session) got
      ↔ NothingFresherBehind sub.handle pDataSize session (receptions recv 0 waiting session) := by
  have front := tlpGet_inFront distinct polls member returns ok
  unfold ReturnsFreshest NothingFresherBehind
  rw [← front]
  generalize receptions recv 0 waiting session = results
  cases later : lastAccepted sub.handle (behind results) with
  | none =>
      refine iff_of_true ?_ fun last is => absurd is (Option.some_ne_none last).symm
      unfold freshest
      rw [lastAccepted_behind, later, Option.none_or]
  | some last =>
      have fresh : freshest sub.handle results session
          = last.session.pRcvQueue.find? (PdEle.isAt sub.handle) := by
        unfold freshest
        rw [lastAccepted_behind, later, Option.some_or]
      rw [fresh]
      constructor
      · rintro same last' is
        obtain rfl := Option.some.inj is
        exact same
      · intro same
        exact same last rfl

/-- A telegram with this counter, one byte of data, and a comId. -/
def waitingTelegram (comId sequenceCounter : U32) (data : U8) : Recvmsg :=
  .datagram (telegramBytes trdpMsgPd comId sequenceCounter [data]) 0x0a000002 0x0a000001

/-- Two telegrams of comId 1000 wait, with one of another comId behind or between them. -/
def unsubscribedLast : List Recvmsg :=
  [waitingTelegram 1000 1 7, waitingTelegram 1000 2 8, waitingTelegram 2000 1 9]

def unsubscribedBetween : List Recvmsg :=
  [waitingTelegram 1000 1 7, waitingTelegram 2000 1 9, waitingTelegram 1000 2 8]

theorem polledSession_member : ∃ sub ∈ polledSession.pRcvQueue, sub.handle = 1 :=
  ⟨polledSession.pRcvQueue.head (by decide +kernel), List.head_mem _, by decide +kernel⟩

theorem get_freshest_last
    : ∃ got,
        tlpGet 1 (fun _ => receiveAt (clockAt 10)) (clockAt 20) (some 4)
          unsubscribedLast polledSession = some got
        ∧ got.info.seqCount = 2
        ∧ ReturnsFreshest 1 (some 4) polledSession
          (receptions (fun _ => receiveAt (clockAt 10)) 0 unsubscribedLast polledSession) got := by
  have computed :
      (tlpGet 1 (fun _ => receiveAt (clockAt 10)) (clockAt 20) (some 4)
        unsubscribedLast polledSession).map (fun got => (got.err, got.info.seqCount))
        = some (.noErr, 2) := by
    decide +kernel
  have silent :
      (lastAccepted 1 (behind (receptions (fun _ => receiveAt (clockAt 10)) 0
        unsubscribedLast polledSession))).isNone := by
    decide +kernel
  obtain ⟨got, returns, outcome⟩ := Option.map_eq_some_iff.mp computed
  obtain ⟨ok, counter⟩ := Prod.mk.inj outcome
  obtain ⟨sub, member, handle⟩ := polledSession_member
  refine ⟨got, returns, counter, ?_⟩
  rw [← handle] at returns silent ⊢
  refine (get_freshest polledSession_distinct rfl member returns ok).mpr ?_
  intro last is
  rw [is] at silent
  cases silent

/-- A telegram that nobody subscribed keeps a fresher one in the socket. -/
theorem get_freshest_unsubscribed
    : ∃ got,
        tlpGet 1 (fun _ => receiveAt (clockAt 10)) (clockAt 20) (some 4)
          unsubscribedBetween polledSession = some got
        ∧ got.err = .noErr
        ∧ ¬ ReturnsFreshest 1 (some 4) polledSession
          (receptions (fun _ => receiveAt (clockAt 10)) 0 unsubscribedBetween polledSession)
          got := by
  have computed :
      (tlpGet 1 (fun _ => receiveAt (clockAt 10)) (clockAt 20) (some 4)
        unsubscribedBetween polledSession).map (fun got => (got.err, got.info.seqCount))
        = some (.noErr, 1) := by
    decide +kernel
  have fresh :
      (freshest 1 (receptions (fun _ => receiveAt (clockAt 10)) 0
        unsubscribedBetween polledSession) polledSession).map PdEle.curSeqCnt = some 2 := by
    decide +kernel
  obtain ⟨got, returns, outcome⟩ := Option.map_eq_some_iff.mp computed
  obtain ⟨ok, counter⟩ := Prod.mk.inj outcome
  refine ⟨got, returns, ok, fun same => ?_⟩
  obtain ⟨ele, last, content⟩ := Option.map_eq_some_iff.mp same
  have returned : ele.curSeqCnt = got.info.seqCount := congrArg Prod.fst content
  rw [last, Option.map_some, returned, counter] at fresh
  exact absurd (Option.some.inj fresh) (by decide)

end TsnTrdp.Trdp
