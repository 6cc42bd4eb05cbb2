import TsnTrdp.Trdp.Reception

/-! Where telegrams go: cyclic ones to the destination that was published, pull replies to the
requester. A pull leaves its address in the publisher until something is sent, so that one which
cannot be answered at once redirects a later cyclic telegram.
-/

namespace TsnTrdp.Trdp

open TsnTrdp.Queue TsnTrdp.Run

/-- What happens to the publishers, in order: pull requests for them, with the address to answer,
and telegrams that are sent.
-/
inductive LogEntry
  | pulled (handle : Nat) (address : U32)
  | sent (telegram : Telegram)

/-- The pull requests that wait for an answer: the latest of each publisher. -/
def pendingStep (pending : Nat → Option U32) : LogEntry → Nat → Option U32
  | .pulled handle address => Function.update pending handle (some address)
  | .sent telegram =>
      if telegram.frame.frameHead.msgType = trdpMsgPp then
        Function.update pending telegram.handle none
      else pending

/-- A cyclic telegram goes to the destination that was published; a pull reply goes to the address
of the latest pull request, which nothing has answered yet.
-/
structure TelegramRight (session : TrdpSession) (pending : Nat → Option U32) (telegram : Telegram)
    : Prop where
  cyclic
    : telegram.frame.frameHead.msgType = trdpMsgPd
      → ∃ ele ∈ session.pSndQueue,
          ele.handle = telegram.handle ∧ telegram.destIp = ele.addr.destIpAddr
  reply
    : telegram.frame.frameHead.msgType = trdpMsgPp
      → pending telegram.handle = some telegram.destIp

instance (session : TrdpSession) (pending : Nat → Option U32) (telegram : Telegram)
    : Decidable (TelegramRight session pending telegram) :=
  decidable_of_iff
    ((telegram.frame.frameHead.msgType = trdpMsgPd
        → ∃ ele ∈ session.pSndQueue,
            ele.handle = telegram.handle ∧ telegram.destIp = ele.addr.destIpAddr)
      ∧ (telegram.frame.frameHead.msgType = trdpMsgPp
        → pending telegram.handle = some telegram.destIp))
    ⟨fun ⟨cyclic, reply⟩ => ⟨cyclic, reply⟩, fun ⟨cyclic, reply⟩ => ⟨cyclic, reply⟩⟩

def EntryRight (session : TrdpSession) (pending : Nat → Option U32) : LogEntry → Prop
  | .pulled _ _ => True
  | .sent telegram => TelegramRight session pending telegram

instance (session : TrdpSession) (pending : Nat → Option U32)
    : (entry : LogEntry) → Decidable (EntryRight session pending entry)
  | .pulled _ _ => inferInstanceAs (Decidable True)
  | .sent telegram => inferInstanceAs (Decidable (TelegramRight session pending telegram))

/-- Every telegram of the log is right, for the publishers of `session`. -/
def LogRight (session : TrdpSession) (log : List LogEntry) : Prop :=
  Along pendingStep (EntryRight session) (fun _ => none) log

instance (session : TrdpSession) (log : List LogEntry) : Decidable (LogRight session log) :=
  inferInstanceAs (Decidable (Along _ _ _ _))

/-- A session with the log of its publishers. -/
structure PullSys where
  session : TrdpSession
  log : List LogEntry

def PullSys.start (session : TrdpSession) : PullSys := ⟨session, []⟩

inductive PullEvent
  | receive (env : RecvEnv) (found : Recvmsg)
  | sendQueued (env : SendEnv)
  | put (handle : Nat) (alloc : Bool) (pData : Option (List U8)) (dataSize : U32)
  | setRedundant (redId : U32) (leader : Bool)

/-- The publisher that a datagram pulls, if it is a pull request for one, and its header. -/
def pulledBy (session : TrdpSession) (found : Recvmsg) : Option (PdEle × PdHeader × U32) :=
  (sane found session).bind fun (datagram, frame) =>
    if frame.frameHead.msgType = trdpMsgPr then
      (trdpQueueFindComId session.pSndQueue frame.frameHead.pulledComId).map fun ele =>
        (ele, frame.frameHead, datagram.srcIpAddr)
    else none

/-- The pull request as it is logged. -/
def pullEntry (session : TrdpSession) (found : Recvmsg) : List LogEntry :=
  (pulledBy session found).toList.map fun (ele, head, srcIpAddr) =>
    .pulled ele.handle (head.pullAddress srcIpAddr)

/-- The statistics that a datagram asks for, if it does, stay within the frame of their publisher. -/
def ReceiveWithin (env : RecvEnv) (found : Recvmsg) (session : TrdpSession) : Prop :=
  ∀ pulled ∈ pulledBy session found, PullWithin env.statistics pulled.2.1 session

instance (env : RecvEnv) (found : Recvmsg) (session : TrdpSession)
    : Decidable (ReceiveWithin env found session) :=
  inferInstanceAs (Decidable (∀ pulled ∈ pulledBy session found, _))

/-- One step. A copy that runs over its frame is a fault, as is a counter behind the end of its list.
-/
def pullStep (s : PullSys) : PullEvent → Option PullSys
  | .receive env found =>
      if ReceiveWithin env found s.session then
        (trdpPdReceive env found s.session).map fun result =>
          { session := result.session
            log := s.log ++ pullEntry s.session found ++ result.telegrams.map .sent }
      else none
  | .sendQueued env =>
      some
        { session := (trdpPdSendQueued env s.session).2.1
          log := s.log ++ (trdpPdSendQueued env s.session).2.2.map .sent }
  | .put handle alloc pData dataSize =>
      if TlpPutWithin handle alloc pData dataSize s.session then
        some { s with session := (tlpPut handle alloc pData dataSize s.session).2 }
      else none
  | .setRedundant redId leader =>
      some { s with session := (tlpSetRedundant redId leader s.session).2 }

/-- A publisher as `tlp_publish` queues it. -/
structure AsPublished (ele : PdEle) : Prop where
  msgType : ele.msgType = trdpMsgPd
  unpulled : ¬ Has ele.privFlags trdpReq2bSent
  pullIpAddress : ele.pullIpAddress = 0

/-- A session whose send queue holds publishers, each at its own address. -/
structure Published (session : TrdpSession) : Prop where
  all : ∀ ele ∈ session.pSndQueue, AsPublished ele
  handles : (session.pSndQueue.map PdEle.handle).Nodup

/-- The element can be sent when it is pulled; for the statistics, the pull writes valid data. -/
def PdEle.SendableFor (head : PdHeader) (ele : PdEle) : Prop :=
  (¬ Has ele.privFlags trdpInvalidData ∨ head.comId = trdpStatisticsPullComid)
  ∧ ele.socketIdx ≠ trdpInvalidSocketIndex ∧ ¬ Has ele.privFlags trdpRedundant

instance (head : PdHeader) (ele : PdEle) : Decidable (ele.SendableFor head) :=
  inferInstanceAs (Decidable (_ ∧ _))

/-- The pull request of `srcIpAddr` leaves nothing behind in the publisher: an answer has an
address to go to, and a cyclic publisher is not left with one that is not its own.
-/
structure Answerable (head : PdHeader) (srcIpAddr : U32) (ele : PdEle) : Prop where
  address : ele.SendableFor head → head.pullAddress srcIpAddr ≠ 0
  answered
    : ele.interval.IsSet
      → ele.SendableFor head ∨ head.pullAddress srcIpAddr = 0
        ∨ head.pullAddress srcIpAddr = ele.addr.destIpAddr
  statistics
    : ele.interval.IsSet
      → head.comId = trdpStatisticsPullComid
      → head.replyIpAddress = ele.addr.destIpAddr

instance (head : PdHeader) (srcIpAddr : U32) (ele : PdEle)
    : Decidable (Answerable head srcIpAddr ele) :=
  decidable_of_iff
    ((ele.SendableFor head → head.pullAddress srcIpAddr ≠ 0)
      ∧ (ele.interval.IsSet
        → ele.SendableFor head ∨ head.pullAddress srcIpAddr = 0
          ∨ head.pullAddress srcIpAddr = ele.addr.destIpAddr)
      ∧ (ele.interval.IsSet
        → head.comId = trdpStatisticsPullComid
        → head.replyIpAddress = ele.addr.destIpAddr))
    ⟨fun ⟨address, answered, statistics⟩ => ⟨address, answered, statistics⟩,
      fun ⟨address, answered, statistics⟩ => ⟨address, answered, statistics⟩⟩

/-- A step that receives no pull request that is left unanswered. -/
def PullAnswerable (s : PullSys) : PullEvent → Prop
  | .receive _ found =>
      ∀ pulled ∈ pulledBy s.session found, Answerable pulled.2.1 pulled.2.2 pulled.1
  | .sendQueued _ | .put _ _ _ _ | .setRedundant _ _ => True

instance (s : PullSys) : (event : PullEvent) → Decidable (PullAnswerable s event)
  | .receive _ found => inferInstanceAs (Decidable (∀ _ ∈ pulledBy s.session found, _))
  | .sendQueued _ | .put _ _ _ _ | .setRedundant _ _ => inferInstanceAs (Decidable True)

/-- A publisher between passes, beside itself as it was published. -/
structure Resting (ele ele' : PdEle) : Prop where
  handle : ele'.handle = ele.handle
  interval : ele'.interval = ele.interval
  msgType : ele'.msgType = trdpMsgPd
  unpulled : ¬ Has ele'.privFlags trdpReq2bSent
  destIpAddr : ele.interval.IsSet → ele'.addr.destIpAddr = ele.addr.destIpAddr
  pullIpAddress
    : ele.interval.IsSet
      → ele'.pullIpAddress = 0 ∨ ele'.pullIpAddress = ele.addr.destIpAddr

/-- A publisher that waits to answer a pull request to `address`. -/
structure Pulled (address : U32) (ele ele' : PdEle) : Prop where
  handle : ele'.handle = ele.handle
  interval : ele'.interval = ele.interval
  msgType : ele'.msgType = trdpMsgPd ∨ ele'.msgType = trdpMsgPp
  flagged : Has ele'.privFlags trdpReq2bSent
  destIpAddr : ele.interval.IsSet → ele'.addr.destIpAddr = ele.addr.destIpAddr
  pullIpAddress : ele'.pullIpAddress = address
  answers : ele'.Sendable → address ≠ 0
  answered : ele.interval.IsSet → ele'.Sendable ∨ address = 0 ∨ address = ele.addr.destIpAddr

variable {session session₀ : TrdpSession} {before ele ele' : PdEle} {now : TrdpTime}
  {etbTopoCnt opTrnTopoCnt : U32} {udp : UdpSend} {telegram : Telegram} {address : U32}

/-- What is no request stays in the queue. -/
theorem stays_of_msgType (type : ele'.msgType = trdpMsgPd)
    : (if ele'.msgType = trdpMsgPr then none else some ele') = some ele' := by
  rw [if_neg]
  rw [type]
  decide

theorem Resting.turn (rests : Resting before ele) (now : TrdpTime) (udp : UdpSend)
    : ∃ ele',
        (pdSendTurn etbTopoCnt opTrnTopoCnt now udp ele).ele = some ele' ∧ Resting before ele' := by
  by_cases acts : ele.Due now ∨ Has ele.privFlags trdpReq2bSent
  · obtain ⟨ele', after, left, -⟩ := pdSendTurn_acts etbTopoCnt opTrnTopoCnt udp acts
    have type : ele'.msgType = trdpMsgPd := by
      rw [after.msgType, if_neg fun answers => rests.unpulled answers.1]
      exact rests.msgType
    refine ⟨ele', left.trans (stays_of_msgType type), after.same.handle.trans rests.handle,
      after.same.interval.trans rests.interval, type, ?_, ?_, ?_⟩
    · rw [after.privFlags]
      exact not_has_without
    · rw [after.same.addr]
      exact rests.destIpAddr
    · intro cyclic
      rw [after.pullIpAddress]
      split
      · exact Or.inl rfl
      · exact rests.pullIpAddress cyclic
  · rw [pdSendTurn_idle acts]
    exact ⟨ele, rfl, rests⟩

/-- What a publisher sends that is not pulled is cyclic, and goes where it was published to. -/
theorem Resting.sends (rests : Resting before ele)
    (sent : (pdSendTurn etbTopoCnt opTrnTopoCnt now udp ele).telegram = some telegram)
    : telegram.frame.frameHead.msgType = trdpMsgPd ∧ telegram.destIp = before.addr.destIpAddr := by
  obtain ⟨sentFor, acts, -⟩ := pdSendTurn_telegram sent
  have due := acts.resolve_right rests.unpulled
  have cyclic : before.interval.IsSet := rests.interval ▸ due.1
  refine ⟨?_, ?_⟩
  · rw [sentFor.msgType, if_neg fun pulled => rests.unpulled pulled.1]
    exact rests.msgType
  · rw [sentFor.destIp, PdEle.sendAddress]
    rcases rests.pullIpAddress cyclic with none | own
    · rw [none, if_neg fun some => some rfl]
      exact rests.destIpAddr cyclic
    · split
      · exact own
      · exact rests.destIpAddr cyclic

theorem Pulled.turn (pulled : Pulled address before ele) (now : TrdpTime) (udp : UdpSend)
    : ∃ ele',
        (pdSendTurn etbTopoCnt opTrnTopoCnt now udp ele).ele = some ele' ∧ Resting before ele' := by
  have acts : ele.Due now ∨ Has ele.privFlags trdpReq2bSent := Or.inr pulled.flagged
  obtain ⟨ele', after, left, -⟩ := pdSendTurn_acts etbTopoCnt opTrnTopoCnt udp acts
  have type : ele'.msgType = trdpMsgPd := by
    rw [after.msgType]
    split
    · rfl
    · rename_i other
      exact pulled.msgType.resolve_right fun reply => other ⟨pulled.flagged, Or.inl reply⟩
  refine ⟨ele', left.trans (stays_of_msgType type), after.same.handle.trans pulled.handle,
    after.same.interval.trans pulled.interval, type, ?_, ?_, ?_⟩
  · rw [after.privFlags]
    exact not_has_without
  · rw [after.same.addr]
    exact pulled.destIpAddr
  · intro cyclic
    rw [after.pullIpAddress, pulled.pullIpAddress]
    split
    · exact Or.inl rfl
    · rename_i unsent
      exact (pulled.answered cyclic).resolve_left unsent

/-- What a pulled publisher sends is the answer, and goes where the request wants it. -/
theorem Pulled.sends (pulled : Pulled address before ele)
    (sent : (pdSendTurn etbTopoCnt opTrnTopoCnt now udp ele).telegram = some telegram)
    : telegram.frame.frameHead.msgType = trdpMsgPp ∧ telegram.destIp = address := by
  obtain ⟨sentFor, -, sendable⟩ := pdSendTurn_telegram sent
  refine ⟨?_, ?_⟩
  · rw [sentFor.msgType]
    split
    · rfl
    · rename_i other
      exact pulled.msgType.resolve_left fun plain => other ⟨pulled.flagged, plain⟩
  · rw [sentFor.destIp, PdEle.sendAddress, pulled.pullIpAddress,
      if_pos (pulled.answers sendable)]

-----------------------------------------------------------------------------------------
-- Passes
-----------------------------------------------------------------------------------------

/-- A publisher before a pass: it rests, or it is the one that is pulled. -/
def Ready (pending : Nat → Option U32) (before ele : PdEle) : Prop :=
  Resting before ele
  ∨ ∃ address, pending before.handle = some address ∧ Pulled address before ele

variable {pending : Nat → Option U32} {queue₀ queue : List PdEle} {env : SendEnv}

/-- After the turns of a pass all publishers rest. Induction on the queues. -/
theorem turns_rest (ready : List.Forall₂ (Ready pending) queue₀ queue) (n : Nat)
    : List.Forall₂ Resting queue₀
        (((queue.zipIdx n).map fun (ele, k) =>
          pdSendTurn etbTopoCnt opTrnTopoCnt (env.clock k).time (env.udp k) ele).filterMap
            SendTurn.ele) := by
  induction ready generalizing n with
  | nil => exact .nil
  | @cons before ele queue₀ rest head tail ih =>
      have turned : ∃ ele', (pdSendTurn etbTopoCnt opTrnTopoCnt (env.clock n).time (env.udp n)
          ele).ele = some ele' ∧ Resting before ele' := by
        rcases head with rests | ⟨address, -, pulled⟩
        · exact rests.turn _ _
        · exact pulled.turn _ _
      obtain ⟨ele', left, rests⟩ := turned
      simp only [List.zipIdx_cons, List.map_cons, List.filterMap_cons, left]
      exact .cons rests (ih (n + 1))

theorem pass_telegrams (ready : List.Forall₂ (Ready pending) session₀.pSndQueue session.pSndQueue)
    (sent : telegram ∈ (trdpPdSendQueued env session).2.2)
    : TelegramRight session₀ pending telegram := by
  obtain ⟨k, ele, found, sent⟩ := mem_telegrams.mp sent
  obtain ⟨before, member, ready⟩ := exists_of_mem ready (List.mem_of_getElem? found)
  have handle := (pdSendTurn_telegram sent).1.handle
  rcases ready with rests | ⟨address, waits, pulled⟩
  · obtain ⟨type, dest⟩ := rests.sends sent
    refine ⟨fun _ => ⟨before, member, rests.handle.symm.trans handle.symm, dest⟩, fun reply => ?_⟩
    rw [type] at reply
    cases reply
  · obtain ⟨type, dest⟩ := pulled.sends sent
    refine ⟨fun cyclic => ?_, fun _ => ?_⟩
    · rw [type] at cyclic
      cases cyclic
    · rw [handle, pulled.handle, waits, dest]

/-- Telegrams of different publishers are right together if each is. Induction on the telegrams. -/
theorem telegrams_right {telegrams : List Telegram} (once : (telegrams.map Telegram.handle).Nodup)
    (right : ∀ telegram ∈ telegrams, TelegramRight session₀ pending telegram)
    : Along pendingStep (EntryRight session₀) pending (telegrams.map .sent) := by
  induction telegrams generalizing pending with
  | nil => trivial
  | cons first rest ih =>
      obtain ⟨fresh, once⟩ := List.nodup_cons.mp once
      refine ⟨right first List.mem_cons_self, ih once ?_⟩
      intro telegram member
      have other : telegram.handle ≠ first.handle :=
        fun same => fresh (same ▸ List.mem_map_of_mem member)
      obtain ⟨cyclic, reply⟩ := right telegram (List.mem_cons_of_mem first member)
      refine ⟨cyclic, fun type => ?_⟩
      dsimp only [pendingStep]
      split
      · rw [Function.update_of_ne other]
        exact reply type
      · exact reply type

/-- A pass over publishers that rest or are pulled leaves them at rest and the log right. -/
theorem pass_right (published : Published session₀) {log : List LogEntry}
    (right : LogRight session₀ log)
    (ready
      : List.Forall₂ (Ready (run pendingStep (fun _ => none) log)) session₀.pSndQueue
          session.pSndQueue)
    (env : SendEnv)
    : List.Forall₂ Resting session₀.pSndQueue (trdpPdSendQueued env session).2.1.pSndQueue
      ∧ LogRight session₀ (log ++ (trdpPdSendQueued env session).2.2.map .sent) := by
  refine ⟨turns_rest ready 0, (along_append _ _).mpr ⟨right, telegrams_right ?_ ?_⟩⟩
  · have names : ∀ before ele, Ready (run pendingStep (fun _ => none) log) before ele
        → ele.handle = before.handle := by
      rintro before ele (rests | ⟨_, -, pulled⟩)
      · exact rests.handle
      · exact pulled.handle
    have handles := map_of_forall₂ ready names
    have distinct : (session.pSndQueue.map PdEle.handle).Nodup := handles ▸ published.handles
    exact distinct.sublist (telegrams_sublist session.etbTopoCnt session.opTrnTopoCnt env
      session.pSndQueue 0)
  · exact fun telegram member => pass_telegrams ready member

-----------------------------------------------------------------------------------------
-- Pull requests
-----------------------------------------------------------------------------------------

/-- The publisher that a pull request marks, before it is marked. -/
def PdEle.statisticsFor (session : TrdpSession) (statistics : List U8) (head : PdHeader)
    (ele : PdEle)
    : PdEle :=
  if head.comId = trdpStatisticsPullComid then
    pdPrepareStats session.etbTopoCnt session.opTrnTopoCnt statistics head ele
  else ele

variable {head : PdHeader} {statistics : List U8} {srcIpAddr : U32}

theorem sendable_pulled
    : ((ele.statisticsFor session statistics head).pulled address).Sendable
      ↔ ele.SendableFor head := by
  have invalid : Field.Disjoint trdpReq2bSent trdpInvalidData := by decide
  have redundant : Field.Disjoint trdpReq2bSent trdpRedundant := by decide
  have apart : Field.Disjoint trdpInvalidData trdpRedundant := by decide
  unfold PdEle.Sendable PdEle.SendableFor PdEle.pulled
  dsimp only
  rw [has_or_of_disjoint invalid, has_or_of_disjoint redundant]
  unfold PdEle.statisticsFor
  split
  · rename_i statistics
    simp [statistics, pdPrepareStats, trdpPdInit, has_without_of_disjoint apart]
  · rename_i other
    simp [other]

/-- An answerable request makes a resting publisher the pulled one. -/
theorem Resting.pulled (rests : Resting before ele) (answerable : Answerable head srcIpAddr ele)
    (session : TrdpSession) (statistics : List U8)
    : Pulled (head.pullAddress srcIpAddr) before
        ((ele.statisticsFor session statistics head).pulled (head.pullAddress srcIpAddr)) where
  handle := by
    unfold PdEle.statisticsFor
    split <;> exact rests.handle
  interval := by
    unfold PdEle.statisticsFor
    split <;> exact rests.interval
  msgType := by
    unfold PdEle.statisticsFor
    split
    · exact Or.inr rfl
    · exact Or.inl rests.msgType
  flagged := has_or_self (by decide)
  destIpAddr cyclic := by
    unfold PdEle.statisticsFor
    split
    · rename_i statistics
      exact (answerable.statistics (rests.interval ▸ cyclic) statistics).trans
        (rests.destIpAddr cyclic)
    · exact rests.destIpAddr cyclic
  pullIpAddress := rfl
  answers sendable := answerable.address (sendable_pulled.mp sendable)
  answered cyclic := by
    rw [sendable_pulled, ← rests.destIpAddr cyclic]
    exact answerable.answered (rests.interval ▸ cyclic)

/-- The subscriptions neither send nor change the publishers. -/
theorem pdDeliver_sends {recv : RecvEnv} {informUser : Bool} {datagram : Datagram}
    {telegrams : List Telegram} {result : RecvResult}
    (delivers : pdDeliver recv informUser datagram session telegrams = some result)
    : result.session.pSndQueue = session.pSndQueue ∧ result.telegrams = telegrams := by
  cases matched : trdpQueueFindSubAddr session.pRcvQueue
      (datagram.addr session.pNewFrame.frameHead) with
  | none =>
      rw [pdDeliver_none matched] at delivers
      obtain rfl := Option.some.inj delivers
      exact ⟨rfl, rfl⟩
  | some sub =>
      rw [pdDeliver_some matched] at delivers
      obtain ⟨handled, -, rfl⟩ := Option.map_eq_some_iff.mp delivers
      exact ⟨rfl, rfl⟩

/-- What a reception does to the publishers: nothing, or it marks the one that is pulled, and a
pass follows.
-/
theorem trdpPdReceive_sends {recv : RecvEnv} {found : Recvmsg} {result : RecvResult}
    (received : trdpPdReceive recv found session = some result)
    : pulledBy session found = none
        ∧ result.session.pSndQueue = session.pSndQueue
        ∧ result.telegrams = []
      ∨ ∃ ele head srcIpAddr marked,
        pulledBy session found = some (ele, head, srcIpAddr)
        ∧ trdpQueueFindComId session.pSndQueue head.pulledComId = some ele
        ∧ marked.pSndQueue
          = modifyFirst (PdEle.matchesComId head.pulledComId)
            (fun ele => (ele.statisticsFor session recv.statistics head).pulled
              (head.pullAddress srcIpAddr))
            session.pSndQueue
        ∧ result.session.pSndQueue = (trdpPdSendQueued recv.send marked).2.1.pSndQueue
        ∧ result.telegrams = (trdpPdSendQueued recv.send marked).2.2 := by
  unfold pulledBy
  cases arrives : sane found session with
  | none =>
      obtain ⟨refusal, returns, refused⟩ := trdpPdReceive_refused recv arrives
      obtain rfl := Option.some.inj (received.symm.trans returns)
      exact Or.inl ⟨rfl, refused.pSndQueue, refused.telegrams⟩
  | some arrival =>
      obtain ⟨datagram, frame⟩ := arrival
      obtain ⟨socket, valid, stored⟩ := sane_eq_some.mp arrives
      have passed := (trdpPdCheck_store session.pNewFrame).mpr valid
      unfold trdpPdReceive at received
      rw [socket] at received
      dsimp only at received
      rw [← stored] at received passed
      simp only [passed, trdpValidTopoCounters, Bool.not_true, ne_eq, not_true_eq_false, if_false,
        Bool.false_eq_true] at received
      rw [Option.bind_some]
      dsimp only
      by_cases request : frame.frameHead.msgType = trdpMsgPr
      · rw [if_pos request] at received ⊢
        unfold pdPullRequest at received
        cases found' : trdpQueueFindComId session.pSndQueue frame.frameHead.pulledComId with
        | none =>
            rw [found'] at received
            obtain ⟨queue, telegrams⟩ := pdDeliver_sends received
            exact Or.inl ⟨rfl, queue, telegrams⟩
        | some ele =>
            rw [found'] at received
            obtain ⟨queue, telegrams⟩ := pdDeliver_sends received
            exact Or.inr ⟨ele, frame.frameHead, datagram.srcIpAddr, _, rfl, found', rfl, queue,
              telegrams⟩
      · rw [if_neg request] at received ⊢
        obtain ⟨queue, telegrams⟩ := pdDeliver_sends received
        exact Or.inl ⟨rfl, queue, telegrams⟩

-----------------------------------------------------------------------------------------
-- Runs
-----------------------------------------------------------------------------------------

/-- Between the steps all publishers rest, and what was sent is right. -/
structure PullInv (session₀ : TrdpSession) (s : PullSys) : Prop where
  rests : List.Forall₂ Resting session₀.pSndQueue s.session.pSndQueue
  log : LogRight session₀ s.log

variable {s next : PullSys}

/-- What putting data keeps of an element, a publisher at rest needs no more of. -/
theorem Resting.put (rests : Resting before ele) (kept : PutKeeps ele ele')
    : Resting before ele' where
  handle := kept.same.handle.trans rests.handle
  interval := kept.same.interval.trans rests.interval
  msgType := kept.msgType.trans rests.msgType
  unpulled := by
    rw [kept.flags trdpReq2bSent (by decide)]
    exact rests.unpulled
  destIpAddr := kept.same.addr ▸ rests.destIpAddr
  pullIpAddress := kept.pullIpAddress ▸ rests.pullIpAddress

theorem Resting.setRedundant (rests : Resting before ele) (redId : U32) (leader : Bool)
    : Resting before
        (if ele.inGroup redId then
          { ele with
            privFlags :=
              if leader then without ele.privFlags trdpRedundant
              else ele.privFlags ||| trdpRedundant }
        else ele) := by
  have apart : Field.Disjoint trdpRedundant trdpReq2bSent := by decide
  split
  · refine ⟨rests.handle, rests.interval, rests.msgType, ?_, rests.destIpAddr,
      rests.pullIpAddress⟩
    dsimp only
    split
    · rw [has_without_of_disjoint apart]
      exact rests.unpulled
    · rw [has_or_of_disjoint apart]
      exact rests.unpulled
  · exact rests

theorem PullInv.put (inv : PullInv session₀ s) (handle : Nat) (alloc : Bool)
    (pData : Option (List U8)) (dataSize : U32)
    : PullInv session₀
        { s with session := (tlpPut handle alloc pData dataSize s.session).2 } := by
  refine ⟨?_, inv.log⟩
  dsimp only [tlpPut]
  cases found : s.session.pSndQueue.find? (PdEle.isAt handle) with
  | none => exact inv.rests
  | some ele =>
      exact forall₂_modifyFirst inv.rests found (fun _ _ rests => rests)
        fun before rests => rests.put (trdpPdPut_keeps ..)

theorem PullInv.setRedundant (inv : PullInv session₀ s) (redId : U32) (leader : Bool)
    : PullInv session₀
        { s with session := (tlpSetRedundant redId leader s.session).2 } :=
  ⟨List.forall₂_map_right_iff.mpr (inv.rests.imp fun _ _ rests => rests.setRedundant redId leader),
    inv.log⟩

/-- A reception is a pass over the publishers, one of them pulled, or leaves them alone. -/
theorem PullInv.receive (published : Published session₀) (inv : PullInv session₀ s)
    {recv : RecvEnv} {found : Recvmsg} {result : RecvResult}
    (answerable : ∀ pulled ∈ pulledBy s.session found, Answerable pulled.2.1 pulled.2.2 pulled.1)
    (received : trdpPdReceive recv found s.session = some result)
    : PullInv session₀
        { session := result.session
          log := s.log ++ pullEntry s.session found ++ result.telegrams.map .sent } := by
  unfold pullEntry
  rcases trdpPdReceive_sends received with ⟨none, queue, telegrams⟩
      | ⟨ele, head, srcIpAddr, marked, pulled, matched, marks, queue, telegrams⟩
  · rw [none, telegrams]
    refine ⟨?_, ?_⟩
    · rw [queue]
      exact inv.rests
    · simpa using inv.log
  · rw [pulled] at answerable ⊢
    obtain ⟨before, asked, rests⟩ := exists_of_mem inv.rests (List.mem_of_find?_eq_some matched)
    let entry : LogEntry := .pulled ele.handle (head.pullAddress srcIpAddr)
    have right : LogRight session₀ (s.log ++ [entry]) :=
      (along_append _ _).mpr ⟨inv.log, trivial, trivial⟩
    have waits : run pendingStep (fun _ => none) (s.log ++ [entry]) ele.handle
        = some (head.pullAddress srcIpAddr) := by
      simp [run, entry, pendingStep]
    have ready : List.Forall₂ (Ready (run pendingStep (fun _ => none) (s.log ++ [entry])))
        session₀.pSndQueue marked.pSndQueue := by
      rw [marks]
      refine forall₂_modifyFirst inv.rests matched (fun _ _ rests => Or.inl rests) ?_
      intro before rests
      refine Or.inr ⟨head.pullAddress srcIpAddr, ?_, rests.pulled (answerable _ rfl) _ _⟩
      rw [← rests.handle]
      exact waits
    obtain ⟨rests', right'⟩ := pass_right published right ready recv.send
    refine ⟨?_, ?_⟩
    · rw [queue]
      exact rests'
    · rw [telegrams]
      exact right'

theorem pullStep_keeps (published : Published session₀) (event : PullEvent)
    (inv : PullInv session₀ s) (answerable : PullAnswerable s event)
    (stepped : pullStep s event = some next)
    : PullInv session₀ next := by
  cases event with
  | receive recv found =>
      obtain ⟨-, stepped⟩ := Option.ite_none_right_eq_some.mp stepped
      obtain ⟨result, received, rfl⟩ := Option.map_eq_some_iff.mp stepped
      exact inv.receive published answerable received
  | sendQueued env =>
      obtain rfl := Option.some.inj stepped
      obtain ⟨rests, log⟩ :=
        pass_right published inv.log (inv.rests.imp fun _ _ rests => Or.inl rests) env
      exact ⟨rests, log⟩
  | put handle alloc pData dataSize =>
      obtain ⟨-, stepped⟩ := Option.ite_none_right_eq_some.mp stepped
      obtain rfl := Option.some.inj stepped
      exact inv.put handle alloc pData dataSize
  | setRedundant redId leader =>
      obtain rfl := Option.some.inj stepped
      exact inv.setRedundant redId leader

theorem Published.start (published : Published session) : PullInv session (.start session) := by
  refine ⟨List.forall₂_same.mpr fun ele member => ?_, trivial⟩
  have asPublished := published.all ele member
  exact ⟨rfl, rfl, asPublished.msgType, asPublished.unpulled, fun _ => rfl,
    fun _ => Or.inl asPublished.pullIpAddress⟩

/-- In every run of receptions, passes and calls of the application, up to a fault, in which each pull
request is answerable, cyclic telegrams go to the published destination and each pull reply to the address
of the latest pull request, which it alone answers.
-/
theorem pull_address (published : Published session) {events : List PullEvent}
    (answerable
      : Along (faulting pullStep) (BeforeFault PullAnswerable) (some (.start session)) events)
    (reached : run (faulting pullStep) (some (.start session)) events = some s)
    : LogRight session s.log := by
  have inv := faulting_invariant
    (fun _ event _ inv answerable stepped => pullStep_keeps published event inv answerable stepped)
    published.start answerable reached
  exact inv.log

/-- What `tlp_publish` adds to a session that does not shape its traffic is a publisher. -/
theorem tlpPublish_published (published : Published session) {env : PublishEnv}
    (fresh : env.handle ∉ session.pSndQueue.map PdEle.handle) (args : PublishArgs)
    (unshaped : session.trafficShaping = false)
    : Published (tlpPublish env args session).2 := by
  rcases tlpPublish_queue env args session unshaped with same | ⟨-, socketIdx, ele, kept, added⟩
  · exact ⟨same ▸ published.all, same ▸ published.handles⟩
  have new : AsPublished (newPublisher env args session socketIdx) := by
    refine ⟨rfl, ?_, rfl⟩
    dsimp only [newPublisher, trdpPdInit]
    split <;> decide
  have asPublished : AsPublished ele := by
    refine ⟨kept.msgType.trans new.msgType, ?_, kept.pullIpAddress.trans new.pullIpAddress⟩
    rw [kept.flags trdpReq2bSent (by decide)]
    exact new.unpulled
  have handle : ele.handle = env.handle := kept.same.handle
  constructor
  · rw [added]
    intro other member
    rcases List.mem_append.mp member with old | last
    · exact published.all other old
    · exact List.mem_singleton.mp last ▸ asPublished
  · rw [added, List.map_append, List.map_singleton, handle]
    exact published.handles.append (List.nodup_singleton _) (List.disjoint_singleton.mpr fresh)

theorem publishedSession_published (pData : Option (List U8))
    : Published (publishedSession pData) := by
  have empty : Published openedSession :=
    ⟨fun _ member => absurd member List.not_mem_nil, List.nodup_nil⟩
  exact tlpPublish_published empty List.not_mem_nil (cyclicPublisher pData) rfl

/-- A pull request for comId 1000 from 10.0.0.9. -/
def pullTelegram : Recvmsg :=
  .datagram (telegramBytes trdpMsgPr 1000 0 []) 0x0a000009 0x0a000001

theorem pull_address_answered
    : ∃ s,
        run (faulting pullStep) (some (.start (publishedSession (some [1, 2, 3, 4]))))
          [.receive (receiveAt (clockAt 5500)) pullTelegram, .sendQueued (passAt 8333 44)] = some s
        ∧ s.log.length = 3
        ∧ LogRight (publishedSession (some [1, 2, 3, 4])) s.log := by
  have computed :
      ((run (faulting pullStep) (some (.start (publishedSession (some [1, 2, 3, 4]))))
        [.receive (receiveAt (clockAt 5500)) pullTelegram, .sendQueued (passAt 8333 44)]).map
          fun s => s.log.length) = some 3 := by
    decide +kernel
  obtain ⟨s, reached, entries⟩ := Option.map_eq_some_iff.mp computed
  exact ⟨s, reached, entries,
    pull_address (publishedSession_published _) (by decide +kernel) reached⟩

/-- A publisher that is pulled before it has data sends its next cyclic telegram to whoever
pulled it.
-/
theorem pull_address_redirected
    : ∃ s,
        run (faulting pullStep) (some (.start (publishedSession none)))
          [.receive (receiveAt (clockAt 5500)) pullTelegram, .put 1 true (some [5, 6, 7, 8]) 4,
            .sendQueued (passAt 8333 44)] = some s
        ∧ ¬ LogRight (publishedSession none) s.log := by
  have computed :
      ((run (faulting pullStep) (some (.start (publishedSession none)))
        [.receive (receiveAt (clockAt 5500)) pullTelegram, .put 1 true (some [5, 6, 7, 8]) 4,
          .sendQueued (passAt 8333 44)]).map
            fun s => decide (LogRight (publishedSession none) s.log)) = some false := by
    decide +kernel
  obtain ⟨s, reached, wrong⟩ := Option.map_eq_some_iff.mp computed
  exact ⟨s, reached, of_decide_eq_false wrong⟩

end TsnTrdp.Trdp
