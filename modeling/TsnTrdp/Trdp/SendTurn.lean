import TsnTrdp.Trdp.Send

/-! What one turn of the send pass does to an element, said once: which telegram it sends, where
it goes, and how the timer, the message type and the flags stand afterwards.
-/

namespace TsnTrdp.Trdp

open TrdpTime

variable {etbTopoCnt opTrnTopoCnt : U32} {now : TrdpTime} {udp : UdpSend} {ele : PdEle}

/-- An element that its turn hands to the socket. -/
def PdEle.Sendable (ele : PdEle) : Prop :=
  ¬ Has ele.privFlags trdpInvalidData ∧ ele.socketIdx ≠ trdpInvalidSocketIndex
  ∧ ¬ Has ele.privFlags trdpRedundant

instance (ele : PdEle) : Decidable ele.Sendable := inferInstanceAs (Decidable (_ ∧ _))

/-- An element that its turn treats as the answer to a pull request. -/
def PdEle.Answers (ele : PdEle) : Prop :=
  Has ele.privFlags trdpReq2bSent
  ∧ (ele.msgType = trdpMsgPp
    ∨ ele.msgType = trdpMsgPd ∧ ¬ Has ele.privFlags trdpInvalidData)

instance (ele : PdEle) : Decidable ele.Answers := inferInstanceAs (Decidable (_ ∧ _))

@[simp] theorem PdEle.msgType_setMsgType (ele : PdEle) (type : U16)
    : (ele.setMsgType type).msgType = type := rfl

/-- What sending and rescheduling leave alone. -/
structure SameElement (ele ele' : PdEle) : Prop where
  handle : ele'.handle = ele.handle
  addr : ele'.addr = ele.addr
  redId : ele'.redId = ele.redId
  interval : ele'.interval = ele.interval
  socketIdx : ele'.socketIdx = ele.socketIdx

theorem SameElement.refl (ele : PdEle) : SameElement ele ele := ⟨rfl, rfl, rfl, rfl, rfl⟩

theorem SameElement.trans {a b c : PdEle} (first : SameElement a b) (second : SameElement b c)
    : SameElement a c where
  handle := second.handle.trans first.handle
  addr := second.addr.trans first.addr
  redId := second.redId.trans first.redId
  interval := second.interval.trans first.interval
  socketIdx := second.socketIdx.trans first.socketIdx

/-- An element before and after it was numbered or sent. -/
structure SameTimer (ele ele' : PdEle) : Prop where
  same : SameElement ele ele'
  timeToGo : ele'.timeToGo = ele.timeToGo
  privFlags : ele'.privFlags = ele.privFlags

theorem trdpPdUpdate_same (ele : PdEle)
    : SameTimer ele (trdpPdUpdate ele) ∧ (trdpPdUpdate ele).msgType = ele.msgType
      ∧ (trdpPdUpdate ele).pullIpAddress = ele.pullIpAddress := by
  unfold trdpPdUpdate
  split
  · exact ⟨⟨⟨rfl, rfl, rfl, rfl, rfl⟩, rfl, rfl⟩, rfl, rfl⟩
  · exact ⟨⟨⟨rfl, rfl, rfl, rfl, rfl⟩, rfl, rfl⟩, rfl, rfl⟩

theorem pdPrepare_same (ele : PdEle)
    : SameTimer ele (pdPrepare ele)
      ∧ (pdPrepare ele).msgType
        = (if Has ele.privFlags trdpReq2bSent ∧ ele.msgType = trdpMsgPd then trdpMsgPp
          else ele.msgType)
      ∧ (pdPrepare ele).pullIpAddress = ele.pullIpAddress := by
  unfold pdPrepare
  split
  · obtain ⟨⟨⟨handle, addr, redId, interval, socketIdx⟩, timeToGo, privFlags⟩, type, pull⟩ :=
      trdpPdUpdate_same (ele.setMsgType trdpMsgPp)
    exact ⟨⟨⟨handle, addr, redId, interval, socketIdx⟩, timeToGo, privFlags⟩, type, pull⟩
  · exact trdpPdUpdate_same ele

theorem trdpPdSend_same (udp : UdpSend) (ele : PdEle)
    : SameTimer ele (trdpPdSend udp ele).2 ∧ (trdpPdSend udp ele).2.msgType = ele.msgType
      ∧ (trdpPdSend udp ele).2.pullIpAddress = 0 := by
  unfold trdpPdSend
  dsimp only
  repeat' split
  all_goals exact ⟨⟨⟨rfl, rfl, rfl, rfl, rfl⟩, rfl, rfl⟩, rfl, rfl⟩

/-- What is handed to the socket in the turn of `ele`. -/
structure SentFor (now : TrdpTime) (ele : PdEle) (telegram : Telegram) : Prop where
  handle : telegram.handle = ele.handle
  time : telegram.time = now
  destIp : telegram.destIp = ele.sendAddress
  msgType
    : telegram.frame.frameHead.msgType
      = if Has ele.privFlags trdpReq2bSent ∧ ele.msgType = trdpMsgPd then trdpMsgPp
        else ele.msgType

/-- The part of a turn that sends. -/
structure Transmits (now : TrdpTime) (ele ele' : PdEle) (telegram : Option Telegram) : Prop where
  same : SameTimer ele ele'
  msgType
    : ele'.msgType
      = if ¬ Has ele.privFlags trdpInvalidData ∧ Has ele.privFlags trdpReq2bSent
          ∧ ele.msgType = trdpMsgPd then
          trdpMsgPp
        else ele.msgType
  pullIpAddress : ele'.pullIpAddress = if ele.Sendable then 0 else ele.pullIpAddress
  sends : telegram.isSome ↔ ele.Sendable
  telegram : ∀ sent ∈ telegram, SentFor now ele sent

theorem pdTransmit_spec (etbTopoCnt opTrnTopoCnt : U32) (now : TrdpTime) (udp : UdpSend)
    (ele : PdEle)
    : Transmits now ele (pdTransmit etbTopoCnt opTrnTopoCnt now udp ele).1
        (pdTransmit etbTopoCnt opTrnTopoCnt now udp ele).2.1 := by
  unfold pdTransmit
  by_cases invalid : Has ele.privFlags trdpInvalidData
  · rw [if_pos invalid]
    refine ⟨⟨.refl ele, rfl, rfl⟩, ?_, ?_, ?_, ?_⟩
    · simp [invalid]
    · simp [PdEle.Sendable, invalid]
    · simp [PdEle.Sendable, invalid]
    · simp
  rw [if_neg invalid]
  obtain ⟨same, type, pull⟩ := pdPrepare_same ele
  have type' : (pdPrepare ele).msgType
      = if ¬ Has ele.privFlags trdpInvalidData ∧ Has ele.privFlags trdpReq2bSent
          ∧ ele.msgType = trdpMsgPd then
          trdpMsgPp
        else ele.msgType := by
    simpa [invalid] using type
  simp only [trdpValidTopoCounters, Bool.not_true, Bool.false_eq_true, if_false]
  by_cases noSocket : (pdPrepare ele).socketIdx = trdpInvalidSocketIndex
  · rw [if_pos noSocket]
    have unsent : ¬ ele.Sendable := by
      rintro ⟨-, socket, -⟩
      exact socket (same.same.socketIdx ▸ noSocket)
    exact ⟨same, type', by simp [unsent, pull], by simp [unsent], by simp⟩
  rw [if_neg noSocket]
  by_cases follower : Has (pdPrepare ele).privFlags trdpRedundant
  · rw [if_pos follower]
    have unsent : ¬ ele.Sendable := by
      rintro ⟨-, -, leader⟩
      exact leader (same.privFlags ▸ follower)
    exact ⟨same, type', by simp [unsent, pull], by simp [unsent], by simp⟩
  rw [if_neg follower]
  have sendable : ele.Sendable :=
    ⟨invalid, same.same.socketIdx ▸ noSocket, same.privFlags ▸ follower⟩
  obtain ⟨⟨sent, timer, flags⟩, sentType, sentPull⟩ := trdpPdSend_same udp (pdPrepare ele)
  have telegram : SentFor now ele
      ⟨(pdPrepare ele).handle, now, (pdPrepare ele).sendAddress, (pdPrepare ele).grossSize,
        (pdPrepare ele).pFrame⟩ := by
    refine ⟨same.same.handle, rfl, ?_, type⟩
    simp only [PdEle.sendAddress, pull, same.same.addr]
  have transmits : Transmits now ele (trdpPdSend udp (pdPrepare ele)).2
      (some ⟨(pdPrepare ele).handle, now, (pdPrepare ele).sendAddress, (pdPrepare ele).grossSize,
        (pdPrepare ele).pFrame⟩) := {
    same := ⟨same.same.trans sent, timer.trans same.timeToGo, flags.trans same.privFlags⟩
    msgType := sentType.trans type'
    pullIpAddress := by simpa [sendable] using sentPull
    sends := by simp [sendable]
    telegram := by
      rintro _ ⟨⟩
      exact telegram
  }
  split
  · rename_i ele' result
    rw [result] at transmits
    -- Counting the telegram changes no field that the turn is about.
    exact { transmits with same := { transmits.same with same := { transmits.same.same with } } }
  · rename_i err ele' _ result
    rw [result] at transmits
    exact transmits

/-- The next time keeps the period, and a late one is rounded down by less than one granule, so
that it stays behind the time read for it.
-/
theorem nextTimeToGo_spec {timeToGo interval now : TrdpTime} (timer : timeToGo.Normal)
    (period : interval.Normal) (clock : now.Normal) (granule : 10000 ≤ interval.usecs)
    : (nextTimeToGo timeToGo interval now).Normal
      ∧ timeToGo.usecs + interval.usecs ≤ (nextTimeToGo timeToGo interval now).usecs
      ∧ (¬ timeToGo.After now
        → now.usecs < (nextTimeToGo timeToGo interval now).usecs
          ∧ (nextTimeToGo timeToGo interval now).usecs ≤ now.usecs + interval.usecs) := by
  have next := normal_vosAddTime timer period
  have due : ¬ timeToGo.After now → timeToGo.usecs ≤ now.usecs := by
    rw [after_iff timer clock]
    exact not_lt.mp
  unfold nextTimeToGo
  dsimp only
  by_cases late : vosCmpTime (vosAddTime timeToGo interval) now ≤ 0
  · have missed := (vosCmpTime_nonpos_iff next clock).mp late
    rw [usecs_vosAddTime] at missed
    obtain ⟨sec, usec, carry⟩ := normal_vosAddTime clock period
    have total := usecs_vosAddTime now interval
    have round : Int.tmod (vosAddTime now interval).tvUsec 10000
        = (vosAddTime now interval).tvUsec % 10000 := Int.tmod_eq_emod_of_nonneg usec
    rw [if_pos late, round]
    unfold usecs at total ⊢
    unfold usecs at missed granule due
    refine ⟨⟨sec, ?_, ?_⟩, ?_, fun _ => ⟨?_, ?_⟩⟩ <;> dsimp only <;> omega
  · have ahead := mt (vosCmpTime_nonpos_iff next clock).mpr late
    rw [usecs_vosAddTime] at ahead
    rw [if_neg late, usecs_vosAddTime]
    refine ⟨next, le_rfl, fun passed => ?_⟩
    have := due passed
    omega

/-- An element before and after a turn in which it had something to do. -/
structure Rescheduled (now : TrdpTime) (ele ele' : PdEle) : Prop where
  same : SameElement ele ele'
  privFlags : ele'.privFlags = without ele.privFlags trdpReq2bSent
  msgType : ele'.msgType = if ele.Answers then trdpMsgPd else ele.msgType
  timeToGo
    : ele'.timeToGo
      = if ele.Answers then ele.timeToGo
        else if ele.interval.IsSet then nextTimeToGo ele.timeToGo ele.interval now
        else ele.timeToGo
  pullIpAddress : ele'.pullIpAddress = if ele.Sendable then 0 else ele.pullIpAddress

theorem pdReschedule_spec {ele' : PdEle} {telegram : Option Telegram}
    (sent : Transmits now ele ele' telegram)
    : Rescheduled now ele (pdReschedule now ele') := by
  obtain ⟨⟨⟨handle, addr, redId, interval, socketIdx⟩, timeToGo, privFlags⟩, type, pull, -, -⟩ :=
    sent
  have notBoth : trdpMsgPd ≠ trdpMsgPp := by decide
  have answers : (Has ele'.privFlags trdpReq2bSent ∧ ele'.msgType = trdpMsgPp) ↔ ele.Answers := by
    rw [privFlags, type]
    unfold PdEle.Answers
    refine and_congr_right fun flagged => ?_
    split
    · rename_i pulled
      exact ⟨fun _ => Or.inr ⟨pulled.2.2, pulled.1⟩, fun _ => rfl⟩
    · rename_i plain
      refine ⟨Or.inl, ?_⟩
      rintro (reply | ⟨data, valid⟩)
      · exact reply
      · exact absurd ⟨valid, flagged, data⟩ plain
  have kept : ¬ ele.Answers → ele'.msgType = ele.msgType := by
    intro other
    rw [type, if_neg]
    rintro ⟨valid, flagged, data⟩
    exact other ⟨flagged, Or.inr ⟨data, valid⟩⟩
  unfold pdReschedule
  by_cases answered : ele.Answers
  · rw [if_pos (answers.mpr answered)]
    refine ⟨⟨handle, addr, redId, interval, socketIdx⟩, ?_, ?_, ?_, pull⟩
    · exact congrArg (without · trdpReq2bSent) privFlags
    · rw [if_pos answered]
      rfl
    · rw [if_pos answered]
      exact timeToGo
  · rw [if_neg (mt answers.mp answered)]
    by_cases cyclic : ele.interval.IsSet
    · rw [if_pos (interval ▸ cyclic)]
      refine ⟨⟨handle, addr, redId, interval, socketIdx⟩, ?_, ?_, ?_, pull⟩
      · exact congrArg (without · trdpReq2bSent) privFlags
      · rw [if_neg answered]
        exact kept answered
      · rw [if_neg answered, if_pos cyclic]
        dsimp only
        rw [timeToGo, interval]
    · rw [if_neg (interval ▸ cyclic)]
      refine ⟨⟨handle, addr, redId, interval, socketIdx⟩, ?_, ?_, ?_, pull⟩
      · exact congrArg (without · trdpReq2bSent) privFlags
      · rw [if_neg answered]
        exact kept answered
      · rw [if_neg answered, if_neg cyclic]
        exact timeToGo

/-- An element that is neither due nor requested is left as it is. -/
theorem pdSendTurn_idle (idle : ¬ (ele.Due now ∨ Has ele.privFlags trdpReq2bSent))
    : pdSendTurn etbTopoCnt opTrnTopoCnt now udp ele = ⟨some ele, none, none⟩ := if_neg idle

/-- An element that is due or requested: what it becomes, and what is sent for it. -/
theorem pdSendTurn_acts (etbTopoCnt opTrnTopoCnt : U32) (udp : UdpSend)
    (acts : ele.Due now ∨ Has ele.privFlags trdpReq2bSent)
    : ∃ ele', Rescheduled now ele ele'
        ∧ (pdSendTurn etbTopoCnt opTrnTopoCnt now udp ele).ele
          = (if ele'.msgType = trdpMsgPr then none else some ele')
        ∧ ((pdSendTurn etbTopoCnt opTrnTopoCnt now udp ele).telegram.isSome ↔ ele.Sendable)
        ∧ ∀ sent ∈ (pdSendTurn etbTopoCnt opTrnTopoCnt now udp ele).telegram,
          SentFor now ele sent := by
  have transmits := pdTransmit_spec etbTopoCnt opTrnTopoCnt now udp ele
  unfold pdSendTurn
  rw [if_pos acts]
  generalize pdTransmit etbTopoCnt opTrnTopoCnt now udp ele = result at transmits ⊢
  obtain ⟨ele', telegram, err⟩ := result
  refine ⟨pdReschedule now ele', pdReschedule_spec transmits, ?_⟩
  dsimp only
  split
  · exact ⟨rfl, transmits.sends, transmits.telegram⟩
  · exact ⟨rfl, transmits.sends, transmits.telegram⟩

/-- What a turn sends, it sends for an element that is due or requested, and that can be sent. -/
theorem pdSendTurn_telegram {telegram : Telegram}
    (sent : (pdSendTurn etbTopoCnt opTrnTopoCnt now udp ele).telegram = some telegram)
    : SentFor now ele telegram ∧ (ele.Due now ∨ Has ele.privFlags trdpReq2bSent)
      ∧ ele.Sendable := by
  by_cases acts : ele.Due now ∨ Has ele.privFlags trdpReq2bSent
  · obtain ⟨ele', -, -, sends, sentFor⟩ := pdSendTurn_acts etbTopoCnt opTrnTopoCnt udp acts
    exact ⟨sentFor telegram sent, acts, sends.mp (by rw [sent]; rfl)⟩
  · rw [pdSendTurn_idle acts] at sent
    cases sent

variable {env : SendEnv} {queue : List PdEle}

theorem mem_pdSendTurns {turn : SendTurn}
    : turn ∈ pdSendTurns etbTopoCnt opTrnTopoCnt env queue
      ↔ ∃ k ele, queue[k]? = some ele
        ∧ turn = pdSendTurn etbTopoCnt opTrnTopoCnt (env.clock k).time (env.udp k) ele := by
  unfold pdSendTurns
  rw [List.mem_map]
  constructor
  · rintro ⟨⟨ele, k⟩, member, rfl⟩
    exact ⟨k, ele, List.mem_zipIdx_iff_getElem?.mp member, rfl⟩
  · rintro ⟨k, ele, found, rfl⟩
    exact ⟨(ele, k), List.mem_zipIdx_iff_getElem?.mpr found, rfl⟩

/-- The queue after a pass holds what the turns leave. -/
theorem mem_trdpPdSendQueued {session : TrdpSession} {ele' : PdEle}
    : ele' ∈ (trdpPdSendQueued env session).2.1.pSndQueue
      ↔ ∃ k ele, session.pSndQueue[k]? = some ele
        ∧ (pdSendTurn session.etbTopoCnt session.opTrnTopoCnt (env.clock k).time (env.udp k)
          ele).ele = some ele' := by
  unfold trdpPdSendQueued
  rw [List.mem_filterMap]
  constructor
  · rintro ⟨turn, member, left⟩
    obtain ⟨k, ele, found, rfl⟩ := mem_pdSendTurns.mp member
    exact ⟨k, ele, found, left⟩
  · rintro ⟨k, ele, found, left⟩
    exact ⟨_, mem_pdSendTurns.mpr ⟨k, ele, found, rfl⟩, left⟩

/-- The telegrams of a pass are what the turns send. -/
theorem mem_telegrams {session : TrdpSession} {telegram : Telegram}
    : telegram ∈ (trdpPdSendQueued env session).2.2
      ↔ ∃ k ele, session.pSndQueue[k]? = some ele
        ∧ (pdSendTurn session.etbTopoCnt session.opTrnTopoCnt (env.clock k).time (env.udp k)
          ele).telegram = some telegram := by
  unfold trdpPdSendQueued
  rw [List.mem_filterMap]
  constructor
  · rintro ⟨turn, member, sent⟩
    obtain ⟨k, ele, found, rfl⟩ := mem_pdSendTurns.mp member
    exact ⟨k, ele, found, sent⟩
  · rintro ⟨k, ele, found, sent⟩
    exact ⟨_, mem_pdSendTurns.mpr ⟨k, ele, found, rfl⟩, sent⟩

/-- Each element sends at most once in a pass, in queue order. Induction on the queue. -/
theorem telegrams_sublist (etbTopoCnt opTrnTopoCnt : U32) (env : SendEnv) (queue : List PdEle)
    (n : Nat)
    : List.Sublist
        (((queue.zipIdx n).map fun (ele, k) =>
            pdSendTurn etbTopoCnt opTrnTopoCnt (env.clock k).time (env.udp k) ele).filterMap
              SendTurn.telegram |>.map Telegram.handle)
        (queue.map PdEle.handle) := by
  induction queue generalizing n with
  | nil => exact List.Sublist.slnil
  | cons ele rest ih =>
      rw [List.zipIdx_cons, List.map_cons, List.filterMap_cons]
      cases sent : (pdSendTurn etbTopoCnt opTrnTopoCnt (env.clock n).time (env.udp n)
          ele).telegram with
      | none => exact (ih (n + 1)).cons _
      | some telegram =>
          have handle := (pdSendTurn_telegram sent).1.handle
          simp only [List.map_cons, handle]
          exact (ih (n + 1)).cons_cons _

end TsnTrdp.Trdp
