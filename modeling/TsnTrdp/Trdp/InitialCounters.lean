import TsnTrdp.Trdp.SendGrid

/-! The sequence counters with which new elements start. An element that is redundant to others,
with their comId but another source address, is to go on where they are; what it is given is the
counter that one of them has used last, of whatever kind of telegram.
-/

namespace TsnTrdp.Trdp

open TsnTrdp.Run TsnTrdp.Queue

def Telegram.isOf (handle : Nat) (kind : U16) (telegram : Telegram) : Bool :=
  telegram.handle = handle ∧ telegram.frame.frameHead.msgType = kind

/-- The counters of the telegrams of one kind that an element has sent, in order. -/
def countersOf (handle : Nat) (kind : U16) (log : List Telegram) : List U32 :=
  (log.filter (Telegram.isOf handle kind)).map fun telegram =>
    telegram.frame.frameHead.sequenceCounter

/-- The counter that the element puts into its next telegram of a kind. -/
def PdEle.nextCounter (kind : U16) (ele : PdEle) : U32 :=
  if kind = trdpMsgPp then ele.curSeqCnt4Pull + 1 else ele.curSeqCnt + 1

-----------------------------------------------------------------------------------------
-- Sessions and what they send
-----------------------------------------------------------------------------------------

/-- The calls that queue a new element. -/
inductive NewCall
  | publish (env : PublishEnv) (args : PublishArgs)
  | request (env : PublishEnv) (args : RequestArgs)

namespace NewCall

def handle : NewCall → Nat
  | publish env _ | request env _ => env.handle

/-- The kinds of telegrams that the element is made for. -/
def kinds : NewCall → List U16
  | publish _ _ => [trdpMsgPd, trdpMsgPp]
  | request _ _ => [trdpMsgPr]

def comId : NewCall → U32
  | publish _ args => args.comId
  | request _ args => args.comId

/-- The source address of the element. -/
def srcIpAddr (session : TrdpSession) : NewCall → U32
  | publish _ args => if args.srcIpAddr = 0 then session.realIp else args.srcIpAddr
  | request _ args => if args.srcIpAddr = 0 then session.realIp else args.srcIpAddr

/-- The call, with the send queues that `trdp_getSeqCnt` goes through. -/
def apply (sndQueues : List (List PdEle)) (session : TrdpSession) : NewCall → TrdpSession
  | publish env args =>
      (tlpPublish { env with sndQueues, trdpPdDistribute } args session).2
  | request env args => (tlpRequest { env with sndQueues, trdpPdDistribute } args session).2

/-- The call copies its data within the frame of the new element. -/
def Within (sndQueues : List (List PdEle)) (session : TrdpSession) : NewCall → Prop
  | publish env args => TlpPublishWithin { env with sndQueues, trdpPdDistribute } args session
  | request env args => TlpRequestWithin { env with sndQueues, trdpPdDistribute } args session

instance (sndQueues : List (List PdEle)) (session : TrdpSession)
    : (call : NewCall) → Decidable (call.Within sndQueues session)
  | publish _ _ => inferInstanceAs (Decidable (TlpPublishWithin _ _ _))
  | request _ _ => inferInstanceAs (Decidable (TlpRequestWithin _ _ _))

end NewCall

/-- A session with the telegrams that it has sent. -/
structure QueueSys where
  session : TrdpSession
  log : List Telegram

def QueueSys.start (session : TrdpSession) : QueueSys := ⟨session, []⟩

inductive QueueEvent
  | enter (sndQueues : List (List PdEle)) (call : NewCall)
  | unpublish (handle : Nat)
  | put (handle : Nat) (alloc : Bool) (pData : Option (List U8)) (dataSize : U32)
  | setRedundant (redId : U32) (leader : Bool)
  | receive (env : RecvEnv) (found : Recvmsg)
  | sendQueued (env : SendEnv)

/-- What a step copies stays within the frame that it is copied to. -/
def QueueEvent.Within (session : TrdpSession) : QueueEvent → Prop
  | .enter sndQueues call => call.Within sndQueues session
  | .put handle alloc pData dataSize => TlpPutWithin handle alloc pData dataSize session
  | .receive env found => ReceiveWithin env found session
  | .unpublish _ | .setRedundant _ _ | .sendQueued _ => True

instance (session : TrdpSession) : (event : QueueEvent) → Decidable (event.Within session)
  | .enter sndQueues call => inferInstanceAs (Decidable (call.Within sndQueues session))
  | .put handle alloc pData dataSize =>
      inferInstanceAs (Decidable (TlpPutWithin handle alloc pData dataSize session))
  | .receive env found => inferInstanceAs (Decidable (ReceiveWithin env found session))
  | .unpublish _ | .setRedundant _ _ | .sendQueued _ => inferInstanceAs (Decidable True)

/-- One step, where nothing runs over a frame. -/
def queueAct (s : QueueSys) : QueueEvent → Option QueueSys
  | .enter sndQueues call => some { s with session := call.apply sndQueues s.session }
  | .unpublish handle => some { s with session := (tlpUnpublish handle s.session).2 }
  | .put handle alloc pData dataSize =>
      some { s with session := (tlpPut handle alloc pData dataSize s.session).2 }
  | .setRedundant redId leader =>
      some { s with session := (tlpSetRedundant redId leader s.session).2 }
  | .receive env found =>
      (trdpPdReceive env found s.session).map fun result =>
        { session := result.session, log := s.log ++ result.telegrams }
  | .sendQueued env =>
      some
        { session := (trdpPdSendQueued env s.session).2.1
          log := s.log ++ (trdpPdSendQueued env s.session).2.2 }

/-- A copy that runs over its frame is a fault, since it may write over the counters of any element.
-/
def queueStep (s : QueueSys) (event : QueueEvent) : Option QueueSys :=
  if event.Within s.session then queueAct s event else none

/-- The element is no follower, and has its socket. -/
def PdEle.Leads (ele : PdEle) : Prop :=
  ele.socketIdx ≠ trdpInvalidSocketIndex ∧ ¬ Has ele.privFlags trdpRedundant

instance (ele : PdEle) : Decidable ele.Leads := inferInstanceAs (Decidable (_ ∧ _))

/-- The socket takes the whole frame of the element. -/
def UdpSend.Takes (udp : UdpSend) (ele : PdEle) : Prop :=
  udp.ok ∧ udp.size = ele.grossSize

instance UdpSend.decidableTakes (udp : UdpSend) (ele : PdEle) : Decidable (udp.Takes ele) :=
  inferInstanceAs (Decidable (_ ∧ _))

/-- The element at `handle` can be sent in a pass, and its socket takes what it is given. -/
def SendsIn (handle : Nat) (session : TrdpSession) (env : SendEnv) : Prop :=
  ∀ place ∈ session.pSndQueue.zipIdx,
    place.1.handle = handle → place.1.Leads ∧ (env.udp place.2).Takes place.1

instance (handle : Nat) (session : TrdpSession) (env : SendEnv)
    : Decidable (SendsIn handle session env) :=
  inferInstanceAs (Decidable (∀ place ∈ _, _ → PdEle.Leads _ ∧ UdpSend.Takes _ _))

/-- The element at `handle` sends wherever it has its turn with valid data, and no other element
is given its address, or that of another.
-/
def KeepsSending (handle : Nat) (s : QueueSys) : QueueEvent → Prop
  | .enter _ call => call.handle ≠ handle ∧ call.handle ∉ s.session.pSndQueue.map PdEle.handle
  | .receive env _ => SendsIn handle s.session env.send
  | .sendQueued env => SendsIn handle s.session env
  | .unpublish _ | .put _ _ _ _ | .setRedundant _ _ => True

instance (handle : Nat) (s : QueueSys)
    : (event : QueueEvent) → Decidable (KeepsSending handle s event)
  | .enter _ _ => inferInstanceAs (Decidable (_ ∧ _))
  | .receive _ _ | .sendQueued _ => inferInstanceAs (Decidable (SendsIn _ _ _))
  | .unpublish _ | .put _ _ _ _ | .setRedundant _ _ => inferInstanceAs (Decidable True)

/-- A run of one session from which the element at `handle` sends in every cycle, and the
telegrams that the session sends in it.
-/
structure Sends (handle : Nat) (session : TrdpSession) (events : List QueueEvent)
    (log : List Telegram)
    : Prop where
  keepsSending
    : Along (faulting queueStep) (BeforeFault (KeepsSending handle)) (some (.start session)) events
  reached : ∃ s, run (faulting queueStep) (some (.start session)) events = some s ∧ s.log = log

/-- The call copies within the frame of its element, which sends in every cycle from then on. -/
structure NewCall.SendsAfter (call : NewCall) (sndQueues : List (List PdEle))
    (session : TrdpSession) (events : List QueueEvent) (log : List Telegram)
    : Prop where
  within : call.Within sndQueues session
  sends : Sends call.handle (call.apply sndQueues session) events log

-----------------------------------------------------------------------------------------
-- What the counters of a new element are to be
-----------------------------------------------------------------------------------------

/-- The open sessions, and the telegrams that their elements have sent so far. -/
structure SessionsSys where
  sessions : List TrdpSession
  past : List Telegram

namespace SessionsSys

def sndQueues (sys : SessionsSys) : List (List PdEle) := sys.sessions.map TrdpSession.pSndQueue

/-- The sessions after the call. -/
def after (sys : SessionsSys) (i : Nat) (call : NewCall) : List TrdpSession :=
  sys.sessions.modify i fun session => call.apply sys.sndQueues session

/-- An element of session `j` with this comId and another source address, that has sent a
telegram of the kind.
-/
structure Ahead (sys : SessionsSys) (comId srcIpAddr : U32) (kind : U16) (j : Nat) (other : PdEle)
    : Prop where
  queued : ∃ session, sys.sessions[j]? = some session ∧ other ∈ session.pSndQueue
  comId : other.addr.comId = comId
  srcIpAddr : other.addr.srcIpAddr ≠ srcIpAddr
  sent : countersOf other.handle kind sys.past ≠ []

def SomeAhead (sys : SessionsSys) (comId srcIpAddr : U32) (kind : U16) : Prop :=
  ∃ j other, sys.Ahead comId srcIpAddr kind j other

/-- The element at `handle` and another of session `j` count in step as long as both
send in every cycle.
-/
def InStep (sessions : List TrdpSession) (later : Nat → List QueueEvent) (kind : U16)
    (log : List Telegram) (handle j otherHandle : Nat)
    : Prop :=
  ∀ session otherLog,
    sessions[j]? = some session
    → Sends otherHandle session (later j) otherLog
    → ∀ (n : Nat) (counter otherCounter : U32),
        (countersOf handle kind log)[n]? = some counter
        → (countersOf otherHandle kind otherLog)[n]? = some otherCounter
        → counter = otherCounter

/-- What is asked of the telegrams that the new element sends after its call. -/
structure CountersRight (sys : SessionsSys) (comId srcIpAddr : U32) (handle : Nat)
    (sessions : List TrdpSession) (later : Nat → List QueueEvent) (log : List Telegram) (kind : U16)
    : Prop where
  alone
    : ¬ sys.SomeAhead comId srcIpAddr kind
      → ∀ first ∈ (countersOf handle kind log).head?, first = 0
  redundant
    : sys.SomeAhead comId srcIpAddr kind
      → ∀ first ∈ (countersOf handle kind log).head?,
          ∃ j other, sys.Ahead comId srcIpAddr kind j other
            ∧ other.nextCounter kind = first
            ∧ InStep sessions later kind log handle j other.handle

end SessionsSys

/-- `trdp_getSeqCnt` can take the counter of the element: it has the comId, and another source. -/
def PdEle.Lends (comId srcIpAddr : U32) (ele : PdEle) : Prop :=
  ele.addr.comId = comId ∧ (srcIpAddr = 0 ∨ ele.addr.srcIpAddr ≠ srcIpAddr)

instance (comId srcIpAddr : U32) (ele : PdEle) : Decidable (ele.Lends comId srcIpAddr) :=
  inferInstanceAs (Decidable (_ ∧ _))

/-- The element whose counter `trdp_getSeqCnt` returns. -/
def seqCntSource (sndQueues : List (List PdEle)) (comId srcIpAddr : U32) : Option PdEle :=
  if comId = 0 then none else sndQueues.flatten.find? fun ele => ele.Lends comId srcIpAddr

/-- There is no counter to be copied: no element can lend its own. Elements of comId 0 are not looked
for, so none of them must have sent a telegram of these kinds.
-/
def SessionsSys.NothingToCopy (sys : SessionsSys) (comId srcIpAddr : U32) (kinds : List U16)
    : Prop :=
  (comId ≠ 0 → ∀ ele ∈ sys.sndQueues.flatten, ¬ ele.Lends comId srcIpAddr)
  ∧ (comId = 0 → ∀ kind ∈ kinds, ¬ sys.SomeAhead comId srcIpAddr kind)

/-- No element that can lend its counter is by chance where a new one is to start: at 0 while nobody
has sent a telegram of the kind, or one further than somebody who has.
-/
structure SessionsSys.NoneInPlace (sys : SessionsSys) (comId srcIpAddr : U32) (kind : U16) : Prop where
  first
    : ¬ sys.SomeAhead comId srcIpAddr kind
      → ∀ ele ∈ sys.sndQueues.flatten, ele.Lends comId srcIpAddr → ele.curSeqCnt ≠ 0
  next
    : ∀ j other,
      sys.Ahead comId srcIpAddr kind j other
      → ∀ ele ∈ sys.sndQueues.flatten,
        ele.Lends comId srcIpAddr → ele.curSeqCnt ≠ other.nextCounter kind

theorem trdpGetSeqCnt_eq (sndQueues : List (List PdEle)) (comId srcIpAddr : U32)
    : trdpGetSeqCnt sndQueues comId srcIpAddr
      = ((seqCntSource sndQueues comId srcIpAddr).map PdEle.curSeqCnt).getD 0 := by
  unfold trdpGetSeqCnt seqCntSource
  split
  · rfl
  · have same : (sndQueues.flatten.find? fun ele =>
          ele.addr.comId = comId ∧ (srcIpAddr = 0 ∨ ele.addr.srcIpAddr ≠ srcIpAddr))
        = sndQueues.flatten.find? fun ele => ele.Lends comId srcIpAddr := rfl
    rw [same]
    cases sndQueues.flatten.find? _ with
    | none => rfl
    | some source => rfl

-----------------------------------------------------------------------------------------
-- What a turn does to the counters
-----------------------------------------------------------------------------------------

/-- A publisher, whose telegrams are of its own kind or pull replies; or a request, which is not
cyclic, so that its are as well.
-/
def PdEle.Makes (own : U16) (ele : PdEle) : Prop :=
  own = trdpMsgPd ∧ (ele.msgType = trdpMsgPd ∨ ele.msgType = trdpMsgPp)
  ∨ own = trdpMsgPr ∧ ¬ ele.interval.IsSet
    ∧ (ele.msgType = trdpMsgPr ∨ ele.msgType = trdpMsgPd ∨ ele.msgType = trdpMsgPp)

/-- An element before and after something that is no turn of it. -/
structure Carried (ele ele' : PdEle) : Prop where
  handle : ele'.handle = ele.handle
  curSeqCnt : ele'.curSeqCnt = ele.curSeqCnt
  curSeqCnt4Pull : ele'.curSeqCnt4Pull = ele.curSeqCnt4Pull
  makes : ∀ own, ele.Makes own → ele'.Makes own

theorem Carried.refl (ele : PdEle) : Carried ele ele := ⟨rfl, rfl, rfl, fun _ => id⟩

theorem Carried.trans {a b c : PdEle} (first : Carried a b) (second : Carried b c)
    : Carried a c where
  handle := second.handle.trans first.handle
  curSeqCnt := second.curSeqCnt.trans first.curSeqCnt
  curSeqCnt4Pull := second.curSeqCnt4Pull.trans first.curSeqCnt4Pull
  makes own makes := second.makes own (first.makes own makes)

variable {ele ele' : PdEle} {own kind : U16}

theorem Carried.nextCounter (carried : Carried ele ele') (kind : U16)
    : ele'.nextCounter kind = ele.nextCounter kind := by
  simp only [PdEle.nextCounter, carried.curSeqCnt, carried.curSeqCnt4Pull]

/-- What does not look at the message type and the interval makes the same telegrams. -/
theorem PdEle.Makes.same (makes : ele.Makes own) (msgType : ele'.msgType = ele.msgType)
    (interval : ele'.interval = ele.interval)
    : ele'.Makes own := by
  unfold PdEle.Makes
  rw [msgType, interval]
  exact makes

/-- The kind of telegram that the element sends in its turn. -/
def PdEle.turnKind (ele : PdEle) : U16 :=
  if Has ele.privFlags trdpReq2bSent ∧ ele.msgType = trdpMsgPd then trdpMsgPp else ele.msgType

theorem pdPrepare_counters (ele : PdEle)
    : (pdPrepare ele).pFrame.frameHead.sequenceCounter = ele.nextCounter ele.turnKind
      ∧ (pdPrepare ele).curSeqCnt
        = (if ele.turnKind = trdpMsgPp then ele.curSeqCnt else ele.curSeqCnt + 1)
      ∧ (pdPrepare ele).curSeqCnt4Pull
        = (if ele.turnKind = trdpMsgPp then ele.curSeqCnt4Pull + 1 else ele.curSeqCnt4Pull) := by
  have update : ∀ ele : PdEle,
      (trdpPdUpdate ele).pFrame.frameHead.sequenceCounter = ele.nextCounter ele.msgType
      ∧ (trdpPdUpdate ele).curSeqCnt
        = (if ele.msgType = trdpMsgPp then ele.curSeqCnt else ele.curSeqCnt + 1)
      ∧ (trdpPdUpdate ele).curSeqCnt4Pull
        = (if ele.msgType = trdpMsgPp then ele.curSeqCnt4Pull + 1 else ele.curSeqCnt4Pull) := by
    intro ele
    unfold trdpPdUpdate PdEle.nextCounter
    by_cases reply : ele.msgType = trdpMsgPp
    · simp only [if_pos reply]
      exact ⟨rfl, trivial, trivial⟩
    · simp only [if_neg reply]
      exact ⟨rfl, trivial, trivial⟩
  unfold pdPrepare PdEle.turnKind
  split
  · exact update (ele.setMsgType trdpMsgPp)
  · exact update ele

/-- Counters and frame as the turn prepares them. -/
structure Prepared (ele ele' : PdEle) (telegram : Telegram) : Prop where
  frame : telegram.frame = (pdPrepare ele).pFrame
  curSeqCnt : ele'.curSeqCnt = (pdPrepare ele).curSeqCnt
  curSeqCnt4Pull : ele'.curSeqCnt4Pull = (pdPrepare ele).curSeqCnt4Pull

/-- A leader with valid data sends what it has prepared. -/
theorem pdTransmit_prepared (leads : ele.Leads) (valid : ¬ Has ele.privFlags trdpInvalidData)
    (etbTopoCnt opTrnTopoCnt : U32) (now : TrdpTime) (udp : UdpSend)
    : ∃ telegram,
        (pdTransmit etbTopoCnt opTrnTopoCnt now udp ele).2.1 = some telegram
        ∧ Prepared ele (pdTransmit etbTopoCnt opTrnTopoCnt now udp ele).1 telegram := by
  obtain ⟨same, -, -⟩ := pdPrepare_same ele
  have socket : (pdPrepare ele).socketIdx ≠ trdpInvalidSocketIndex :=
    same.same.socketIdx ▸ leads.1
  have leader : ¬ Has (pdPrepare ele).privFlags trdpRedundant := same.privFlags ▸ leads.2
  have sent : ∀ ele, (trdpPdSend udp ele).2.curSeqCnt = ele.curSeqCnt
      ∧ (trdpPdSend udp ele).2.curSeqCnt4Pull = ele.curSeqCnt4Pull := by
    intro ele
    unfold trdpPdSend
    dsimp only
    repeat' split
    all_goals exact ⟨rfl, rfl⟩
  obtain ⟨curSeqCnt, curSeqCnt4Pull⟩ := sent (pdPrepare ele)
  unfold pdTransmit
  simp only [if_neg valid, trdpValidTopoCounters, Bool.not_true, Bool.false_eq_true, if_false,
    if_neg socket, if_neg leader]
  split
  · rename_i ele' result
    rw [result] at curSeqCnt curSeqCnt4Pull
    exact ⟨_, rfl, rfl, curSeqCnt, curSeqCnt4Pull⟩
  · rename_i err ele' _ result
    rw [result] at curSeqCnt curSeqCnt4Pull
    exact ⟨_, rfl, rfl, curSeqCnt, curSeqCnt4Pull⟩

/-- What a turn sends has the next counter of its kind, and the element counts it. -/
structure TurnCounts (own : U16) (ele : PdEle) (turn : SendTurn) : Prop where
  handle : ∀ telegram ∈ turn.telegram, telegram.handle = ele.handle
  kind
    : ∀ telegram ∈ turn.telegram,
        telegram.frame.frameHead.msgType = own ∨ telegram.frame.frameHead.msgType = trdpMsgPp
  counter
    : ∀ telegram ∈ turn.telegram,
        telegram.frame.frameHead.sequenceCounter
          = ele.nextCounter telegram.frame.frameHead.msgType
  makes : ∀ ele' ∈ turn.ele, ele'.Makes own
  next
    : ∀ ele' ∈ turn.ele,
      ∀ kind,
      kind = own ∨ kind = trdpMsgPp
      → ele'.nextCounter kind
        = ele.nextCounter kind
          + BitVec.ofNat 32 (countersOf ele.handle kind turn.telegram.toList).length

/-- A turn without a telegram leaves the counters. -/
theorem TurnCounts.of_quiet {turn : SendTurn} (quiet : turn.telegram = none)
    (makes : ∀ ele' ∈ turn.ele, ele'.Makes own)
    (same : ∀ ele' ∈ turn.ele, ∀ kind, ele'.nextCounter kind = ele.nextCounter kind)
    : TurnCounts own ele turn where
  handle := by simp [quiet]
  kind := by simp [quiet]
  counter := by simp [quiet]
  makes
  next ele' left kind _ := by
    rw [quiet, same ele' left kind]
    simp [countersOf]

/-- An element that acts sends its own kind, or a pull reply. -/
theorem PdEle.Makes.turnKind {now : TrdpTime} (makes : ele.Makes own)
    (acts : ele.Due now ∨ Has ele.privFlags trdpReq2bSent)
    : ele.turnKind = own ∨ ele.turnKind = trdpMsgPp := by
  unfold PdEle.turnKind
  split
  · exact .inr rfl
  · rename_i plain
    rcases makes with ⟨rfl, type⟩ | ⟨rfl, pull, type⟩
    · exact type
    · rcases type with request | data | reply
      · exact .inl request
      · -- a request that has become a reply is only sent when it is pulled
        have flagged := acts.resolve_left fun due => pull due.1
        exact absurd ⟨flagged, data⟩ plain
      · exact .inr reply

theorem PdEle.Makes.own_ne (makes : ele.Makes own) : own ≠ trdpMsgPp := by
  rcases makes with ⟨rfl, -⟩ | ⟨rfl, -⟩ <;> decide

theorem PdEle.Makes.rescheduled {now : TrdpTime} (makes : ele.Makes own)
    (after : Rescheduled now ele ele')
    : ele'.Makes own := by
  have interval := after.same.interval
  have msgType : ele'.msgType = trdpMsgPd ∨ ele'.msgType = ele.msgType := by
    rw [after.msgType]
    split
    · exact .inl rfl
    · exact .inr rfl
  rcases msgType with data | same
  · rcases makes with ⟨rfl, -⟩ | ⟨rfl, pull, -⟩
    · exact .inl ⟨rfl, .inl data⟩
    · exact .inr ⟨rfl, interval ▸ pull, .inr (.inl data)⟩
  · exact makes.same same interval

theorem pdReschedule_counters (now : TrdpTime) (ele : PdEle)
    : (pdReschedule now ele).curSeqCnt = ele.curSeqCnt
      ∧ (pdReschedule now ele).curSeqCnt4Pull = ele.curSeqCnt4Pull := by
  unfold pdReschedule
  dsimp only
  repeat' split
  all_goals exact ⟨rfl, rfl⟩

/-- A turn that acts sends what it transmits, and leaves that with its timer set. -/
theorem pdSendTurn_eq {now : TrdpTime} (acts : ele.Due now ∨ Has ele.privFlags trdpReq2bSent)
    (etbTopoCnt opTrnTopoCnt : U32) (udp : UdpSend)
    : (pdSendTurn etbTopoCnt opTrnTopoCnt now udp ele).telegram
        = (pdTransmit etbTopoCnt opTrnTopoCnt now udp ele).2.1
      ∧ ∀ ele' ∈ (pdSendTurn etbTopoCnt opTrnTopoCnt now udp ele).ele,
          ele' = pdReschedule now (pdTransmit etbTopoCnt opTrnTopoCnt now udp ele).1 := by
  unfold pdSendTurn
  rw [if_pos acts]
  dsimp only
  split
  · exact ⟨rfl, fun _ left => by cases left⟩
  · refine ⟨rfl, ?_⟩
    rintro _ ⟨⟩
    rfl

/-- The next counters of an element that was sent. -/
theorem Prepared.nextCounter {telegram : Telegram} {ele'' : PdEle}
    (prepared : Prepared ele ele' telegram)
    (kept : ele''.curSeqCnt = ele'.curSeqCnt ∧ ele''.curSeqCnt4Pull = ele'.curSeqCnt4Pull)
    (kind : U16)
    : ele''.nextCounter kind
      = ele.nextCounter kind
        + if kind = trdpMsgPp ↔ ele.turnKind = trdpMsgPp then 1 else 0 := by
  obtain ⟨-, curSeqCnt, curSeqCnt4Pull⟩ := pdPrepare_counters ele
  unfold PdEle.nextCounter
  rw [kept.1, kept.2, prepared.curSeqCnt, prepared.curSeqCnt4Pull, curSeqCnt, curSeqCnt4Pull]
  by_cases asked : kind = trdpMsgPp
  · by_cases reply : ele.turnKind = trdpMsgPp <;> simp [asked, reply]
  · by_cases reply : ele.turnKind = trdpMsgPp <;> simp [asked, reply]

theorem turn_counts (makes : ele.Makes own) (leads : ele.Leads) (etbTopoCnt opTrnTopoCnt : U32)
    (now : TrdpTime) (udp : UdpSend)
    : TurnCounts own ele (pdSendTurn etbTopoCnt opTrnTopoCnt now udp ele) := by
  by_cases acts : ele.Due now ∨ Has ele.privFlags trdpReq2bSent
  · obtain ⟨after, rescheduled, left, -, sentFor⟩ :=
      pdSendTurn_acts etbTopoCnt opTrnTopoCnt udp acts
    obtain ⟨sends, leaves⟩ := pdSendTurn_eq acts etbTopoCnt opTrnTopoCnt udp
    have makes' : ∀ ele' ∈ (pdSendTurn etbTopoCnt opTrnTopoCnt now udp ele).ele,
        ele'.Makes own := by
      intro ele' stays
      rw [left] at stays
      obtain ⟨-, same⟩ := Option.ite_none_left_eq_some.mp stays
      exact Option.some.inj same ▸ makes.rescheduled rescheduled
    by_cases invalid : Has ele.privFlags trdpInvalidData
    · have quiet : pdTransmit etbTopoCnt opTrnTopoCnt now udp ele = (ele, none, none) :=
        if_pos invalid
      rw [quiet] at sends leaves
      refine .of_quiet sends makes' fun ele' stays kind => ?_
      obtain ⟨curSeqCnt, curSeqCnt4Pull⟩ := pdReschedule_counters now ele
      rw [leaves ele' stays, PdEle.nextCounter, curSeqCnt, curSeqCnt4Pull, PdEle.nextCounter]
    · obtain ⟨telegram, sent, prepared⟩ :=
        pdTransmit_prepared leads invalid etbTopoCnt opTrnTopoCnt now udp
      rw [sent] at sends
      have isFor := sentFor telegram sends
      have kind : telegram.frame.frameHead.msgType = ele.turnKind := isFor.msgType
      have counter : telegram.frame.frameHead.sequenceCounter
          = ele.nextCounter telegram.frame.frameHead.msgType := by
        rw [kind, prepared.frame]
        exact (pdPrepare_counters ele).1
      have turnKind := makes.turnKind acts
      refine ⟨?_, ?_, ?_, makes', ?_⟩
      · simpa [sends] using isFor.handle
      · simpa [sends, kind] using turnKind
      · simpa [sends] using counter
      · intro ele' stays kind' counted
        have shares : (kind' = trdpMsgPp ↔ ele.turnKind = trdpMsgPp) ↔ ele.turnKind = kind' := by
          have plain := makes.own_ne
          rcases counted with rfl | rfl <;> rcases turnKind with turned | turned <;>
            simp [turned, plain, Ne.symm plain]
        rw [leaves ele' stays, prepared.nextCounter (pdReschedule_counters now _), sends,
          if_congr shares rfl rfl]
        by_cases same : ele.turnKind = kind'
        · simp [countersOf, Telegram.isOf, isFor.handle, kind, same]
        · simp [countersOf, Telegram.isOf, kind, same]
  · rw [pdSendTurn_idle acts]
    refine .of_quiet rfl ?_ ?_
    · rintro _ ⟨⟩
      exact makes
    · rintro _ ⟨⟩ kind
      rfl

-----------------------------------------------------------------------------------------
-- What a run does to them
-----------------------------------------------------------------------------------------

/-- A pull request leaves a leader one. -/
theorem PdEle.Leads.marked (leads : ele.Leads) (session : TrdpSession) (statistics : List U8)
    (head : PdHeader) (address : U32)
    : ((ele.statisticsFor session statistics head).pulled address).Leads := by
  have requested : Field.Disjoint trdpReq2bSent trdpRedundant := by decide
  have invalid : Field.Disjoint trdpInvalidData trdpRedundant := by decide
  unfold PdEle.statisticsFor
  split
  · refine ⟨leads.1, ?_⟩
    rw [PdEle.pulled, has_or_of_disjoint requested]
    exact mt (has_without_of_disjoint invalid).mp leads.2
  · refine ⟨leads.1, ?_⟩
    rw [PdEle.pulled, has_or_of_disjoint requested]
    exact leads.2

/-- What the element of `start` has sent since is numbered without a gap, and so is what it sends
next.
-/
structure Numbered (own : U16) (start : PdEle) (s : QueueSys) : Prop where
  distinct : (s.session.pSndQueue.map PdEle.handle).Nodup
  makes : ∀ ele ∈ s.session.pSndQueue, ele.handle = start.handle → ele.Makes own
  kinds
    : ∀ telegram ∈ s.log,
      telegram.handle = start.handle
      → telegram.frame.frameHead.msgType = own ∨ telegram.frame.frameHead.msgType = trdpMsgPp
  counters
    : ∀ kind,
      kind = own ∨ kind = trdpMsgPp
      → countersOf start.handle kind s.log
        = (List.range (countersOf start.handle kind s.log).length).map fun n =>
            start.nextCounter kind + BitVec.ofNat 32 n
  next
    : ∀ ele ∈ s.session.pSndQueue,
      ele.handle = start.handle
      → ∀ kind,
        kind = own ∨ kind = trdpMsgPp
        → ele.nextCounter kind
          = start.nextCounter kind
            + BitVec.ofNat 32 (countersOf start.handle kind s.log).length

variable {start : PdEle} {s next : QueueSys} {session : TrdpSession} {log : List Telegram}
  {env : SendEnv} {handle : Nat}

theorem countersOf_append (handle : Nat) (kind : U16) (log telegrams : List Telegram)
    : countersOf handle kind (log ++ telegrams)
      = countersOf handle kind log ++ countersOf handle kind telegrams := by
  simp [countersOf]

/-- What an element sends in a pass, it sends in its turn. -/
theorem countersOf_pass (distinct : (session.pSndQueue.map PdEle.handle).Nodup) {k : Nat}
    (found : session.pSndQueue[k]? = some ele) (kind : U16)
    : countersOf ele.handle kind (trdpPdSendQueued env session).2.2
      = countersOf ele.handle kind
          (pdSendTurn session.etbTopoCnt session.opTrnTopoCnt (env.clock k).time (env.udp k)
            ele).telegram.toList := by
  let sent (place : PdEle × Nat) : Option Telegram :=
    (pdSendTurn session.etbTopoCnt session.opTrnTopoCnt (env.clock place.2).time (env.udp place.2)
      place.1).telegram.filter (Telegram.isOf ele.handle kind)
  have only : ∀ (j : Nat) (place : PdEle × Nat), session.pSndQueue.zipIdx[j]? = some place
      → j ≠ k → sent place = none := by
    intro j place at_ apart
    rw [List.getElem?_zipIdx] at at_
    obtain ⟨other, found', rfl⟩ := Option.map_eq_some_iff.mp at_
    refine Option.filter_eq_none_iff.mpr fun telegram sends isOf => apart ?_
    have own : other.handle = ele.handle :=
      (pdSendTurn_telegram sends).1.handle.symm.trans (of_decide_eq_true isOf).1
    have bound : j < (session.pSndQueue.map PdEle.handle).length := by
      rw [List.length_map]
      exact (List.getElem?_eq_some_iff.mp found').1
    refine (List.getElem?_inj bound distinct).mp ?_
    rw [List.getElem?_map, List.getElem?_map, found', found, Option.map_some, Option.map_some, own]
  have place : session.pSndQueue.zipIdx[k]? = some (ele, k) := by
    rw [List.getElem?_zipIdx, found, Option.map_some, Nat.zero_add]
  have single := filterMap_eq_toList place only
  have turns : ((trdpPdSendQueued env session).2.2).filter (Telegram.isOf ele.handle kind)
      = session.pSndQueue.zipIdx.filterMap sent := by
    rw [trdpPdSendQueued, List.filter_filterMap, pdSendTurns, List.filterMap_map]
    rfl
  rw [countersOf, turns, single, countersOf, Option.toList_filter]

/-- An element that is not queued sends nothing in a pass. -/
theorem countersOf_pass_absent (absent : ∀ ele ∈ session.pSndQueue, ele.handle ≠ handle)
    (kind : U16)
    : countersOf handle kind (trdpPdSendQueued env session).2.2 = [] := by
  rw [countersOf, List.map_eq_nil_iff, List.filter_eq_nil_iff]
  intro telegram member isOf
  obtain ⟨k, ele, found, sent⟩ := mem_telegrams.mp member
  refine absent ele (List.mem_of_getElem? found) ?_
  exact (pdSendTurn_telegram sent).1.handle.symm.trans (of_decide_eq_true isOf).1

/-- A row of numbers goes on. -/
theorem numbered_concat (first : U32) (m n : Nat)
    : ((List.range (m + n)).map fun k => first + BitVec.ofNat 32 k)
      = ((List.range m).map fun k => first + BitVec.ofNat 32 k)
        ++ (List.range n).map fun k => first + BitVec.ofNat 32 m + BitVec.ofNat 32 k := by
  rw [List.range_add, List.map_append, List.map_map]
  refine congrArg _ (List.map_congr_left fun k _ => ?_)
  rw [Function.comp_apply, BitVec.ofNat_add, BitVec.add_assoc]

/-- A turn leaves an element where it is, if it leaves it. -/
theorem pdSendTurn_handle {etbTopoCnt opTrnTopoCnt : U32} {now : TrdpTime} {udp : UdpSend}
    (left : (pdSendTurn etbTopoCnt opTrnTopoCnt now udp ele).ele = some ele')
    : ele'.handle = ele.handle := by
  by_cases acts : ele.Due now ∨ Has ele.privFlags trdpReq2bSent
  · obtain ⟨after, rescheduled, stays, -, -⟩ := pdSendTurn_acts etbTopoCnt opTrnTopoCnt udp acts
    rw [stays] at left
    obtain ⟨-, same⟩ := Option.ite_none_left_eq_some.mp left
    exact Option.some.inj same ▸ rescheduled.same.handle
  · rw [pdSendTurn_idle acts] at left
    exact Option.some.inj left ▸ rfl

theorem pass_handles (env : SendEnv) (session : TrdpSession)
    : List.Sublist ((trdpPdSendQueued env session).2.1.pSndQueue.map PdEle.handle)
        (session.pSndQueue.map PdEle.handle) := by
  have places : session.pSndQueue.map PdEle.handle
      = session.pSndQueue.zipIdx.map fun place => place.1.handle := by
    conv_lhs => rw [← List.zipIdx_map_fst 0 session.pSndQueue, List.map_map]
    rfl
  let left (place : PdEle × Nat) : Option PdEle :=
    (pdSendTurn session.etbTopoCnt session.opTrnTopoCnt (env.clock place.2).time (env.udp place.2)
      place.1).ele
  have queue : (trdpPdSendQueued env session).2.1.pSndQueue
      = session.pSndQueue.zipIdx.filterMap left := List.filterMap_map ..
  rw [places, queue]
  exact map_filterMap_sublist fun place _ ele stays => pdSendTurn_handle stays

/-- The telegram of a turn, if it is of the kind, has the next counter. -/
theorem TurnCounts.counters {turn : SendTurn} (turned : TurnCounts own ele turn) (kind : U16)
    : countersOf ele.handle kind turn.telegram.toList
      = (List.range (countersOf ele.handle kind turn.telegram.toList).length).map fun n =>
          ele.nextCounter kind + BitVec.ofNat 32 n := by
  cases sent : turn.telegram with
  | none => rfl
  | some telegram =>
      have counter := turned.counter telegram sent
      by_cases isOf : telegram.isOf ele.handle kind
      · obtain ⟨-, rfl⟩ := of_decide_eq_true isOf
        simp [countersOf, isOf, counter]
      · simp [countersOf, isOf]

/-- A pass keeps the numbering, while the element leads. -/
theorem Numbered.pass (inv : Numbered own start ⟨session, log⟩)
    (leads : ∀ ele ∈ session.pSndQueue, ele.handle = start.handle → ele.Leads) (env : SendEnv)
    : Numbered own start
        ⟨(trdpPdSendQueued env session).2.1, log ++ (trdpPdSendQueued env session).2.2⟩ := by
  have turns : ∀ ele ∈ session.pSndQueue, ele.handle = start.handle → ∀ now udp,
      TurnCounts own ele (pdSendTurn session.etbTopoCnt session.opTrnTopoCnt now udp ele) :=
    fun ele member at_ now udp =>
      turn_counts (inv.makes ele member at_) (leads ele member at_) _ _ now udp
  refine ⟨inv.distinct.sublist (pass_handles env session), ?_, ?_, ?_, ?_⟩
  · intro ele' member at_
    obtain ⟨k, ele, found, left⟩ := mem_trdpPdSendQueued.mp member
    have at' : ele.handle = start.handle := (pdSendTurn_handle left).symm.trans at_
    exact (turns ele (List.mem_of_getElem? found) at' _ _).makes ele' left
  · intro telegram member at_
    rcases List.mem_append.mp member with earlier | now
    · exact inv.kinds telegram earlier at_
    · obtain ⟨k, ele, found, sent⟩ := mem_telegrams.mp now
      have at' : ele.handle = start.handle := (pdSendTurn_telegram sent).1.handle.symm.trans at_
      exact (turns ele (List.mem_of_getElem? found) at' _ _).kind telegram sent
  · intro kind counted
    have more : ∀ first : U32,
        (∀ ele ∈ session.pSndQueue, ele.handle = start.handle → ele.nextCounter kind = first)
        → countersOf start.handle kind (trdpPdSendQueued env session).2.2
          = (List.range
              (countersOf start.handle kind (trdpPdSendQueued env session).2.2).length).map fun n =>
                first + BitVec.ofNat 32 n := by
      intro first next
      by_cases absent : ∀ ele ∈ session.pSndQueue, ele.handle ≠ start.handle
      · rw [countersOf_pass_absent absent]
        rfl
      · push Not at absent
        obtain ⟨ele, member, at_⟩ := absent
        obtain ⟨k, found⟩ := List.getElem?_of_mem member
        rw [← next ele member at_, ← at_, countersOf_pass inv.distinct found]
        exact (turns ele member at_ _ _).counters kind
    rw [countersOf_append, List.length_append, numbered_concat]
    exact congrArg₂ (· ++ ·) (inv.counters kind counted)
      (more _ fun ele member at_ => inv.next ele member at_ kind counted)
  · intro ele' member at_ kind counted
    obtain ⟨k, ele, found, left⟩ := mem_trdpPdSendQueued.mp member
    have at' : ele.handle = start.handle := (pdSendTurn_handle left).symm.trans at_
    have turn := turns ele (List.mem_of_getElem? found) at' (env.clock k).time (env.udp k)
    have before := inv.next ele (List.mem_of_getElem? found) at' kind counted
    rw [turn.next ele' left kind counted, before, countersOf_append, ← at',
      countersOf_pass inv.distinct found, List.length_append, BitVec.ofNat_add, BitVec.add_assoc]

-----------------------------------------------------------------------------------------
-- What the calls leave of it
-----------------------------------------------------------------------------------------

/-- A queue before and after something that is no pass over it, and that puts no element at
`handle`.
-/
structure CarriesOver (handle : Nat) (queue queue' : List PdEle) : Prop where
  distinct : (queue.map PdEle.handle).Nodup → (queue'.map PdEle.handle).Nodup
  carried : ∀ ele' ∈ queue', ele'.handle = handle → ∃ ele ∈ queue, Carried ele ele'

variable {queue queue' : List PdEle}

theorem CarriesOver.refl (handle : Nat) (queue : List PdEle) : CarriesOver handle queue queue :=
  ⟨id, fun ele member _ => ⟨ele, member, .refl ele⟩⟩

theorem CarriesOver.trans {queue'' : List PdEle} (first : CarriesOver handle queue queue')
    (second : CarriesOver handle queue' queue'')
    : CarriesOver handle queue queue'' := by
  refine ⟨fun distinct => second.distinct (first.distinct distinct), fun ele'' member at_ => ?_⟩
  obtain ⟨ele', among', carried'⟩ := second.carried ele'' member at_
  obtain ⟨ele, among, carried⟩ := first.carried ele' among' (carried'.handle.symm.trans at_)
  exact ⟨ele, among, carried.trans carried'⟩

/-- A queue with the same elements in another order, each of them carried over. -/
theorem CarriesOver.of_forall₂ (handle : Nat) {between : List PdEle} (perm : queue.Perm between)
    (each : List.Forall₂ Carried between queue')
    : CarriesOver handle queue queue' := by
  have handles : queue'.map PdEle.handle = between.map PdEle.handle :=
    map_of_forall₂ each fun _ _ carried => carried.handle
  refine ⟨fun distinct => ?_, fun ele' member _ => ?_⟩
  · rw [handles]
    exact (perm.map _).nodup_iff.mp distinct
  · obtain ⟨ele, among, carried⟩ := exists_of_mem each member
    exact ⟨ele, perm.mem_iff.mpr among, carried⟩

theorem Retimed.carried (retimed : Retimed queue queue') : List.Forall₂ Carried queue queue' := by
  refine retimed.imp fun ele ele' same => ?_
  rw [same]
  exact ⟨rfl, rfl, rfl, fun _ makes => makes.same rfl rfl⟩

theorem carried_modifyFirst {p : PdEle → Bool} {f : PdEle → PdEle}
    (carried : ∀ ele, Carried ele (f ele))
    : List.Forall₂ Carried queue (modifyFirst p f queue) := by
  induction queue with
  | nil => exact .nil
  | cons ele rest ih =>
      unfold modifyFirst
      split
      · exact .cons (carried ele) (List.forall₂_same.mpr fun other _ => .refl other)
      · exact .cons (.refl ele) ih

theorem trdpPdPut_carried (marshall : Option TrdpMarshall) (alloc : Bool)
    (pData : Option (List U8)) (dataSize : U32) (ele : PdEle)
    : Carried ele (trdpPdPut marshall alloc pData dataSize ele).2 := by
  have keeps := trdpPdPut_keeps marshall alloc pData dataSize ele
  have counters : (trdpPdPut marshall alloc pData dataSize ele).2.curSeqCnt = ele.curSeqCnt
      ∧ (trdpPdPut marshall alloc pData dataSize ele).2.curSeqCnt4Pull = ele.curSeqCnt4Pull := by
    have enlarged : (pdEnlarge alloc dataSize ele).2.curSeqCnt = ele.curSeqCnt
        ∧ (pdEnlarge alloc dataSize ele).2.curSeqCnt4Pull = ele.curSeqCnt4Pull := by
      unfold pdEnlarge
      dsimp only
      repeat' split
      all_goals exact ⟨rfl, rfl⟩
    unfold trdpPdPut
    split
    · exact ⟨rfl, rfl⟩
    cases pData with
    | none => exact ⟨rfl, rfl⟩
    | some bytes =>
        dsimp only
        split
        · exact ⟨rfl, rfl⟩
        generalize pdEnlarge alloc dataSize ele = result at enlarged ⊢
        obtain ⟨grown, ele'⟩ := result
        cases grown with
        | false => exact enlarged
        | true =>
            dsimp only
            repeat' split
            all_goals exact enlarged
  exact ⟨keeps.same.handle, counters.1, counters.2,
    fun _ makes => makes.same keeps.msgType keeps.same.interval⟩

theorem publishedEle_carried (env : PublishEnv) (args : PublishArgs) (session : TrdpSession)
    (socketIdx : Int)
    : Carried (newPublisher env args session socketIdx)
        (publishedEle env args session socketIdx).2 := by
  unfold publishedEle
  dsimp only
  split
  · exact trdpPdPut_carried ..
  · exact .refl _

theorem tlpPut_carriesOver (at_ : Nat) (alloc : Bool) (pData : Option (List U8)) (dataSize : U32)
    (session : TrdpSession)
    : CarriesOver handle session.pSndQueue
        (tlpPut at_ alloc pData dataSize session).2.pSndQueue := by
  unfold tlpPut
  cases session.pSndQueue.find? (PdEle.isAt at_) with
  | none => exact .refl handle _
  | some _ =>
      exact .of_forall₂ _ (.refl _) (carried_modifyFirst fun ele => trdpPdPut_carried _ _ _ _ ele)

theorem tlpSetRedundant_carriesOver (redId : U32) (leader : Bool) (session : TrdpSession)
    : CarriesOver handle session.pSndQueue
        (tlpSetRedundant redId leader session).2.pSndQueue := by
  refine .of_forall₂ _ (.refl _) (List.forall₂_map_right_iff.mpr ?_)
  refine List.forall₂_same.mpr fun ele _ => ?_
  split
  · exact ⟨rfl, rfl, rfl, fun _ makes => makes.same rfl rfl⟩
  · exact .refl ele

theorem tlpUnpublish_carriesOver (at_ : Nat) (session : TrdpSession)
    : CarriesOver handle session.pSndQueue (tlpUnpublish at_ session).2.pSndQueue := by
  unfold tlpUnpublish
  split
  · exact .refl handle _
  · have erased : CarriesOver handle session.pSndQueue
        (session.pSndQueue.eraseP (PdEle.isAt at_)) :=
      ⟨fun distinct => distinct.sublist (List.eraseP_sublist.map _),
        fun ele member _ => ⟨ele, List.mem_of_mem_eraseP member, .refl ele⟩⟩
    exact erased.trans (.of_forall₂ _ (.refl _) (pdReshape_retimed _ _).carried)

/-- A pull request changes only what its publisher is to send. -/
theorem marked_carried (session : TrdpSession) (statistics : List U8) (head : PdHeader)
    (address : U32) (ele : PdEle)
    : Carried ele ((ele.statisticsFor session statistics head).pulled address) := by
  unfold PdEle.statisticsFor
  split
  · refine ⟨rfl, rfl, rfl, fun own makes => ?_⟩
    rcases makes with ⟨rfl, -⟩ | ⟨rfl, pull, -⟩
    · exact .inl ⟨rfl, .inr rfl⟩
    · exact .inr ⟨rfl, pull, .inr (.inr rfl)⟩
  · exact ⟨rfl, rfl, rfl, fun _ makes => makes.same rfl rfl⟩

/-- The kind of telegram that the new element sends unasked. -/
def NewCall.ownKind : NewCall → U16
  | .publish _ _ => trdpMsgPd
  | .request _ _ => trdpMsgPr

theorem NewCall.ownKind_mem (call : NewCall) : call.ownKind ∈ call.kinds := by
  cases call with
  | publish env args => exact List.mem_cons_self
  | request env args => exact List.mem_cons_self

/-- A new element: it goes on with the counter that `trdp_getSeqCnt` returns. -/
structure NewCall.Made (call : NewCall) (sndQueues : List (List PdEle)) (session : TrdpSession)
    (new : PdEle)
    : Prop where
  handle : new.handle = call.handle
  makes : new.Makes call.ownKind
  counters
    : ∀ kind ∈ call.kinds,
        new.nextCounter kind
          = trdpGetSeqCnt sndQueues call.comId (call.srcIpAddr session)

variable {call : NewCall} {sndQueues : List (List PdEle)}

theorem NewCall.Made.carried {new : PdEle} (made : call.Made sndQueues session new)
    (carried : Carried new ele)
    : call.Made sndQueues session ele where
  handle := carried.handle.trans made.handle
  makes := carried.makes _ made.makes
  counters kind member := (carried.nextCounter kind).trans (made.counters kind member)

theorem newPublisher_made (env : PublishEnv) (args : PublishArgs) (session : TrdpSession)
    (socketIdx : Int)
    : (NewCall.publish env args).Made sndQueues session
        (newPublisher { env with sndQueues, trdpPdDistribute } args session socketIdx) where
  handle := rfl
  makes := .inl ⟨rfl, .inl rfl⟩
  counters kind _ := by
    have counter : ∀ cur : U32, cur - 1 + 1 = cur := fun cur => BitVec.sub_add_cancel cur 1
    unfold PdEle.nextCounter
    split
    · exact counter _
    · exact counter _

theorem newRequest_made (env : PublishEnv) (args : RequestArgs) (session : TrdpSession)
    (sub : PdEle) (socketIdx : Int)
    : (NewCall.request env args).Made sndQueues session
        (newRequest { env with sndQueues, trdpPdDistribute } args session sub socketIdx) where
  handle := rfl
  makes :=
    have pull : ¬ TrdpTime.IsSet .cleared := by decide
    .inr ⟨rfl, pull, .inl rfl⟩
  counters kind member := by
    obtain rfl := List.mem_singleton.mp member
    have counter : ∀ cur : U32, cur - 1 + 1 = cur := fun cur => BitVec.sub_add_cancel cur 1
    exact counter _

/-- A request enters the queue as its first element, or not at all. -/
theorem tlpRequest_enters (env : PublishEnv) (args : RequestArgs) (session : TrdpSession)
    : (tlpRequest env args session).2.pSndQueue = session.pSndQueue
      ∨ ∃ sub socketIdx ele,
        Carried (newRequest env args session sub socketIdx) ele
        ∧ (tlpRequest env args session).2.pSndQueue = ele :: session.pSndQueue := by
  unfold tlpRequest
  split
  · exact .inl rfl
  cases session.pRcvQueue.find? (PdEle.isAt args.subHandle) with
  | none => exact .inl rfl
  | some sub =>
      dsimp only
      split
      · exact .inl rfl
      split
      · exact .inl rfl
      cases env.socket with
      | error err => exact .inl rfl
      | ok socketIdx =>
          have flagged : ∀ ele : PdEle,
              Carried ele { ele with privFlags := ele.privFlags ||| trdpReq2bSent } :=
            fun ele => ⟨rfl, rfl, rfl, fun _ makes => makes.same rfl rfl⟩
          refine .inr ⟨sub, socketIdx, _, ?_, rfl⟩
          split
          · exact (trdpPdPut_carried ..).trans (flagged _)
          · exact flagged _

/-- A call that succeeds puts its element to the queue, one that does not leaves it. -/
theorem NewCall.apply_cases (call : NewCall) (sndQueues : List (List PdEle))
    (session : TrdpSession)
    : (call.apply sndQueues session).pSndQueue = session.pSndQueue
      ∨ ∃ new between,
        call.Made sndQueues session new
        ∧ (new :: session.pSndQueue).Perm between
        ∧ List.Forall₂ Carried between (call.apply sndQueues session).pSndQueue := by
  cases call with
  | publish env args =>
      rcases tlpPublish_cases { env with sndQueues, trdpPdDistribute } args session rfl with
        ⟨-, same⟩ | ⟨socketIdx, _, _, publishes⟩
      · exact .inl (congrArg TrdpSession.pSndQueue same)
      · obtain ⟨queue, retimed, -, eq⟩ :=
          tlpPublish_queued publishes.asks publishes.socket publishes.allocFrame rfl
        refine .inr ⟨_, _,
          (newPublisher_made env args session socketIdx).carried (publishedEle_carried ..),
          (List.perm_append_singleton _ _).symm, ?_⟩
        have shaped : (tlpPublish { env with sndQueues, trdpPdDistribute } args session).2.pSndQueue
            = queue := congrArg (fun result => result.2.pSndQueue) eq
        exact shaped ▸ retimed.carried
  | request env args =>
      rcases tlpRequest_enters { env with sndQueues, trdpPdDistribute } args session with
        same | ⟨sub, socketIdx, ele, carried, queued⟩
      · exact .inl same
      · refine .inr ⟨ele, _, (newRequest_made env args session sub socketIdx).carried carried,
          .refl _, ?_⟩
        exact queued ▸ List.forall₂_same.mpr fun other _ => .refl other

/-- Another element that comes leaves the one at `handle`. -/
theorem NewCall.apply_carriesOver (other : call.handle ≠ handle)
    (fresh : call.handle ∉ session.pSndQueue.map PdEle.handle)
    : CarriesOver handle session.pSndQueue (call.apply sndQueues session).pSndQueue := by
  rcases call.apply_cases sndQueues session with same | ⟨new, between, made, perm, carried⟩
  · rw [same]
    exact .refl handle _
  · have kept := CarriesOver.of_forall₂ handle perm carried
    refine ⟨fun distinct => kept.distinct ?_, fun ele' member at_ => ?_⟩
    · rw [List.map_cons, List.nodup_cons, made.handle]
      exact ⟨fresh, distinct⟩
    · obtain ⟨ele, among, carried'⟩ := kept.carried ele' member at_
      rcases List.mem_cons.mp among with rfl | old
      · exact absurd (made.handle.symm.trans (carried'.handle.symm.trans at_)) other
      · exact ⟨ele, old, carried'⟩

theorem Numbered.carry (inv : Numbered own start s)
    (kept : CarriesOver start.handle s.session.pSndQueue session.pSndQueue)
    : Numbered own start { s with session } where
  distinct := kept.distinct inv.distinct
  makes ele' member at_ := by
    obtain ⟨ele, among, carried⟩ := kept.carried ele' member at_
    exact carried.makes own (inv.makes ele among (carried.handle.symm.trans at_))
  kinds := inv.kinds
  counters := inv.counters
  next ele' member at_ kind counted := by
    obtain ⟨ele, among, carried⟩ := kept.carried ele' member at_
    rw [carried.nextCounter kind]
    exact inv.next ele among (carried.handle.symm.trans at_) kind counted

/-- A reception is a pass kept the publishers, one of them marked, or leaves them alone. -/
theorem Numbered.receive (inv : Numbered own start s)
    (leads : ∀ ele ∈ s.session.pSndQueue, ele.handle = start.handle → ele.Leads)
    {recv : RecvEnv} {found : Recvmsg} {result : RecvResult}
    (received : trdpPdReceive recv found s.session = some result)
    : Numbered own start ⟨result.session, s.log ++ result.telegrams⟩ := by
  rcases trdpPdReceive_sends received with ⟨-, same, quiet⟩
      | ⟨ele, head, srcIpAddr, marked, -, -, marks, queue, telegrams⟩
  · rw [quiet, List.append_nil]
    exact inv.carry (same ▸ .refl _ _)
  · have kept : CarriesOver start.handle s.session.pSndQueue marked.pSndQueue := by
      rw [marks]
      exact .of_forall₂ _ (.refl _) (carried_modifyFirst fun ele => marked_carried _ _ _ _ ele)
    have leads' : ∀ ele ∈ marked.pSndQueue, ele.handle = start.handle → ele.Leads := by
      rw [marks]
      refine forall_modifyFirst leads fun ele leads at_ => ?_
      exact (leads ((marked_carried ..).handle.symm.trans at_)).marked _ _ _ _
    have passed := Numbered.pass (inv.carry kept) leads' recv.send
    rw [telegrams]
    exact passed.carry (queue ▸ .refl _ _)

theorem SendsIn.leads (sends : SendsIn handle session env)
    : ∀ ele ∈ session.pSndQueue, ele.handle = handle → ele.Leads := by
  intro ele member at_
  obtain ⟨k, found⟩ := List.getElem?_of_mem member
  exact (sends (ele, k) (List.mk_mem_zipIdx_iff_getElem?.mpr found) at_).1

theorem Numbered.step (inv : Numbered own start s) {event : QueueEvent}
    (sends : KeepsSending start.handle s event) (stepped : queueStep s event = some next)
    : Numbered own start next := by
  have stepped : queueAct s event = some next := (Option.ite_none_right_eq_some.mp stepped).2
  cases event with
  | enter sndQueues call =>
      obtain rfl := Option.some.inj stepped
      exact inv.carry (call.apply_carriesOver sends.1 sends.2)
  | unpublish handle =>
      obtain rfl := Option.some.inj stepped
      exact inv.carry (tlpUnpublish_carriesOver ..)
  | put handle alloc pData dataSize =>
      obtain rfl := Option.some.inj stepped
      exact inv.carry (tlpPut_carriesOver ..)
  | setRedundant redId leader =>
      obtain rfl := Option.some.inj stepped
      exact inv.carry (tlpSetRedundant_carriesOver ..)
  | receive env found =>
      obtain ⟨result, received, rfl⟩ := Option.map_eq_some_iff.mp stepped
      exact inv.receive sends.leads received
  | sendQueued env =>
      obtain rfl := Option.some.inj stepped
      exact inv.pass sends.leads env

/-- The element of `start` is that of its address in the session. -/
structure StartsAs (own : U16) (start : PdEle) (session : TrdpSession) : Prop where
  distinct : (session.pSndQueue.map PdEle.handle).Nodup
  carried : ∀ ele ∈ session.pSndQueue, ele.handle = start.handle → Carried start ele
  makes : start.Makes own

theorem StartsAs.numbered (starts : StartsAs own start session)
    : Numbered own start (.start session) where
  distinct := starts.distinct
  makes ele member at_ := (starts.carried ele member at_).makes own starts.makes
  kinds telegram member _ := absurd member List.not_mem_nil
  counters kind _ := rfl
  next ele member at_ kind _ := by
    rw [(starts.carried ele member at_).nextCounter kind]
    exact (BitVec.add_zero _).symm

variable {sys : SessionsSys} {events : List QueueEvent} {later : Nat → List QueueEvent} {i j : Nat}
  {other : PdEle} {comId srcIpAddr : U32}

/-- In a run of a session from which an element sends in every cycle, its telegrams of each kind are
numbered one by one from its next counter on.
-/
theorem Sends.numbered (sends : Sends start.handle session events log)
    (starts : StartsAs own start session)
    : ∃ s, Numbered own start s ∧ s.log = log := by
  obtain ⟨s, reached, rfl⟩ := sends.reached
  refine ⟨s, ?_, rfl⟩
  exact faulting_invariant (fun _ _ _ inv keeps stepped => inv.step keeps stepped)
    starts.numbered sends.keepsSending reached

theorem Sends.counter (sends : Sends start.handle session events log)
    (starts : StartsAs own start session) {n : Nat} {counter : U32}
    (sent : (countersOf start.handle kind log)[n]? = some counter)
    : counter = start.nextCounter kind + BitVec.ofNat 32 n := by
  obtain ⟨s, inv, rfl⟩ := sends.numbered starts
  by_cases counted : kind = own ∨ kind = trdpMsgPp
  · rw [inv.counters kind counted, List.getElem?_map] at sent
    obtain ⟨m, at_, rfl⟩ := Option.map_eq_some_iff.mp sent
    obtain ⟨-, rfl⟩ := List.getElem?_eq_some_iff.mp at_
    rw [List.getElem_range]
  · -- it sends no telegrams of another kind
    have member := List.mem_of_getElem? sent
    obtain ⟨telegram, isOf, -⟩ := List.mem_map.mp member
    obtain ⟨among, isOf⟩ := List.mem_filter.mp isOf
    obtain ⟨at_, rfl⟩ := of_decide_eq_true isOf
    exact absurd (inv.kinds telegram among at_) counted

-----------------------------------------------------------------------------------------
-- The counters of the new element
-----------------------------------------------------------------------------------------

/-- The elements of each session are at addresses of their own, and each is a publisher, or a
request.
-/
structure SessionsSys.WellFormed (sys : SessionsSys) : Prop where
  distinct : ∀ session ∈ sys.sessions, (session.pSndQueue.map PdEle.handle).Nodup
  made
    : ∀ session ∈ sys.sessions,
      ∀ ele ∈ session.pSndQueue,
        ele.msgType = trdpMsgPd ∨ ele.msgType = trdpMsgPr ∧ ¬ ele.interval.IsSet

/-- The new element starts with the counter that `trdp_getSeqCnt` returns. -/
theorem exists_startsAs (sndQueues : List (List PdEle))
    (distinct : (session.pSndQueue.map PdEle.handle).Nodup)
    (fresh : call.handle ∉ session.pSndQueue.map PdEle.handle)
    : ∃ new, call.Made sndQueues session new
        ∧ StartsAs call.ownKind new (call.apply sndQueues session) := by
  rcases call.apply_cases sndQueues session with same | ⟨new, between, made, perm, carried⟩
  · -- nothing is queued: any element of that address and counter will do
    let cur := trdpGetSeqCnt sndQueues call.comId (call.srcIpAddr session)
    let new : PdEle :=
      { (PdEle.zero call.handle).setMsgType call.ownKind with
        curSeqCnt := cur - 1
        curSeqCnt4Pull := cur - 1 }
    have pull : ¬ TrdpTime.IsSet .cleared := by decide
    have made : call.Made sndQueues session new := by
      refine ⟨rfl, ?_, fun kind _ => ?_⟩
      · cases call with
        | publish env args => exact .inl ⟨rfl, .inl rfl⟩
        | request env args => exact .inr ⟨rfl, pull, .inl rfl⟩
      · unfold PdEle.nextCounter
        split
        · exact BitVec.sub_add_cancel cur 1
        · exact BitVec.sub_add_cancel cur 1
    refine ⟨new, made, same ▸ distinct, fun ele member at_ => ?_, made.makes⟩
    rw [same] at member
    have taken : ele.handle = call.handle := at_
    exact absurd (List.mem_map_of_mem member) (taken ▸ fresh)
  · have kept := CarriesOver.of_forall₂ new.handle perm carried
    refine ⟨new, made, kept.distinct ?_, fun ele' member at_ => ?_, made.makes⟩
    · rw [List.map_cons, List.nodup_cons, made.handle]
      exact ⟨fresh, distinct⟩
    · obtain ⟨ele, among, carried'⟩ := kept.carried ele' member at_
      rcases List.mem_cons.mp among with rfl | old
      · exact carried'
      · have taken : ele.handle = call.handle :=
          carried'.handle.symm.trans (at_.trans made.handle)
        exact absurd (List.mem_map_of_mem old) (taken ▸ fresh)

/-- The other elements go on from where they are. -/
theorem startsAs_of_queued (wellFormed : sys.WellFormed)
    (fresh : ∀ session ∈ sys.sessions, call.handle ∉ session.pSndQueue.map PdEle.handle)
    (queued : ∃ session, sys.sessions[j]? = some session ∧ other ∈ session.pSndQueue)
    (afterwards : (sys.after i call)[j]? = some session)
    : ∃ own, StartsAs own other session := by
  obtain ⟨before, at_, member⟩ := queued
  have among := List.mem_of_getElem? at_
  have distinct := wellFormed.distinct before among
  have elsewhere : call.handle ≠ other.handle := fun same =>
    fresh before among (same ▸ List.mem_map_of_mem member)
  have kept : CarriesOver other.handle before.pSndQueue session.pSndQueue := by
    rw [SessionsSys.after, List.getElem?_modify, at_] at afterwards
    obtain rfl := Option.some.inj afterwards
    split
    · exact NewCall.apply_carriesOver elsewhere (fresh before among)
    · exact .refl _ _
  have carried : ∀ ele ∈ session.pSndQueue, ele.handle = other.handle → Carried other ele := by
    intro ele member' same
    obtain ⟨ele', among', carried'⟩ := kept.carried ele member' same
    have unique := List.inj_on_of_nodup_map distinct among' member
      (carried'.handle.symm.trans same)
    exact unique ▸ carried'
  rcases wellFormed.made before among other member with data | ⟨request, pull⟩
  · exact ⟨trdpMsgPd, kept.distinct distinct, carried, .inl ⟨rfl, .inl data⟩⟩
  · exact ⟨trdpMsgPr, kept.distinct distinct, carried, .inr ⟨rfl, pull, .inl request⟩⟩

/-- Without an element to take the counter from, nobody is ahead of one with a comId. -/
theorem not_ahead_of_none (named : comId ≠ 0)
    (none : seqCntSource sys.sndQueues comId srcIpAddr = none)
    : ¬ sys.Ahead comId srcIpAddr kind j other := by
  rintro ⟨⟨session, at_, member⟩, same, apart, -⟩
  rw [seqCntSource, if_neg named, List.find?_eq_none] at none
  refine none other (List.mem_flatten.mpr ⟨session.pSndQueue, ?_, member⟩) ?_
  · exact List.mem_map_of_mem (List.mem_of_getElem? at_)
  · exact decide_eq_true (show other.Lends comId srcIpAddr from ⟨same, .inr apart⟩)

/-- Nothing is copied of an element with a comId exactly if there is none to copy from. -/
theorem nothingToCopy_iff (named : comId ≠ 0) {kinds : List U16}
    : sys.NothingToCopy comId srcIpAddr kinds
      ↔ seqCntSource sys.sndQueues comId srcIpAddr = none := by
  rw [seqCntSource, if_neg named, List.find?_eq_none]
  simp only [SessionsSys.NothingToCopy, ne_eq, named, not_false_eq_true, forall_const,
    false_implies, and_true, decide_eq_true_eq]

/-- Where nothing is to be copied, the counter is 0 and nobody is ahead. -/
theorem SessionsSys.NothingToCopy.alone {kinds : List U16}
    (nothing : sys.NothingToCopy comId srcIpAddr kinds) (member : kind ∈ kinds)
    : trdpGetSeqCnt sys.sndQueues comId srcIpAddr = 0 ∧ ¬ sys.SomeAhead comId srcIpAddr kind := by
  rw [trdpGetSeqCnt_eq]
  by_cases named : comId = 0
  · rw [seqCntSource, if_pos named]
    exact ⟨rfl, nothing.2 named kind member⟩
  · have none := (nothingToCopy_iff named).mp nothing
    rw [none]
    exact ⟨rfl, fun ⟨j, other, ahead⟩ => not_ahead_of_none named none ahead⟩

/-- A copied counter stays one behind that of the element that it is copied from, telegram by telegram
of the kind that both send unasked.
-/
theorem copied_counter_behind (wellFormed : sys.WellFormed)
    (opened : sys.sessions[i]? = some session)
    (fresh : ∀ session ∈ sys.sessions, call.handle ∉ session.pSndQueue.map PdEle.handle)
    (source : seqCntSource sys.sndQueues call.comId (call.srcIpAddr session) = some other)
    (queued : ∃ before, sys.sessions[j]? = some before ∧ other ∈ before.pSndQueue)
    {session' : TrdpSession} (afterwards : (sys.after i call)[j]? = some session')
    (sends : Sends call.handle (call.apply sys.sndQueues session) (later i) log)
    {otherLog : List Telegram} (otherSends : Sends other.handle session' (later j) otherLog)
    {n : Nat} {counter otherCounter : U32}
    (sent : (countersOf call.handle call.ownKind log)[n]? = some counter)
    (otherSent : (countersOf other.handle call.ownKind otherLog)[n]? = some otherCounter)
    : otherCounter = counter + 1 := by
  have among := List.mem_of_getElem? opened
  obtain ⟨new, made, starts⟩ :=
    exists_startsAs sys.sndQueues (wellFormed.distinct session among) (fresh session among)
  obtain ⟨own', otherStarts⟩ := startsAs_of_queued wellFormed fresh queued afterwards
  rw [← made.handle] at sends sent
  rw [sends.counter starts sent, otherSends.counter otherStarts otherSent,
    made.counters _ call.ownKind_mem, trdpGetSeqCnt_eq, source, PdEle.nextCounter,
    if_neg made.makes.own_ne]
  dsimp only [Option.map_some, Option.getD_some]
  ac_rfl

/-- The first telegrams of a new element, and all after them, are numbered right where there is no
counter to be copied. Where there is one, they are right only by chance: if no element that could lend
it is in place, the first telegram of the kind that the new element sends unasked is not.
-/
theorem initial_counters_right (wellFormed : sys.WellFormed)
    (opened : sys.sessions[i]? = some session)
    (fresh : ∀ session ∈ sys.sessions, call.handle ∉ session.pSndQueue.map PdEle.handle)
    (sends : call.SendsAfter sys.sndQueues session (later i) log)
    : let right := ∀ kind ∈ call.kinds,
        sys.CountersRight call.comId (call.srcIpAddr session) call.handle (sys.after i call) later
          log kind
      let nothing := sys.NothingToCopy call.comId (call.srcIpAddr session) call.kinds
      (nothing → right)
      ∧ (call.comId ≠ 0
        → sys.NoneInPlace call.comId (call.srcIpAddr session) call.ownKind
        → countersOf call.handle call.ownKind log ≠ []
        → (right ↔ nothing)) := by
  intro right nothing
  have among := List.mem_of_getElem? opened
  obtain ⟨new, made, starts⟩ :=
    exists_startsAs sys.sndQueues (wellFormed.distinct session among) (fresh session among)
  have first : ∀ kind ∈ call.kinds, ∀ counter ∈ (countersOf call.handle kind log).head?,
      counter = trdpGetSeqCnt sys.sndQueues call.comId (call.srcIpAddr session) := by
    have sends := sends.sends
    rw [← made.handle] at sends ⊢
    intro kind member counter isFirst
    rw [List.head?_eq_getElem?] at isFirst
    rw [sends.counter starts isFirst, made.counters kind member]
    exact BitVec.add_zero _
  have enough : nothing → right := by
    intro copiesNothing kind member
    obtain ⟨zero, nobody⟩ := copiesNothing.alone member
    refine ⟨fun _ counter isFirst => ?_, fun ahead => absurd ahead nobody⟩
    exact (first kind member counter isFirst).trans zero
  refine ⟨enough, fun named unplaced sent => ⟨fun correct => ?_, enough⟩⟩
  refine (nothingToCopy_iff named).mpr (by_contra fun copies => ?_)
  obtain ⟨source, found⟩ := Option.ne_none_iff_exists'.mp copies
  have copied : trdpGetSeqCnt sys.sndQueues call.comId (call.srcIpAddr session)
      = source.curSeqCnt := by
    rw [trdpGetSeqCnt_eq, found]
    rfl
  rw [seqCntSource, if_neg named] at found
  have queued := List.mem_of_find?_eq_some found
  have lends : source.Lends call.comId (call.srcIpAddr session) := by
    simpa using List.find?_some found
  obtain ⟨counter, rest, list⟩ := List.exists_cons_of_ne_nil sent
  have isFirst : counter ∈ (countersOf call.handle call.ownKind log).head? := by
    rw [list]
    rfl
  have starts' := (first call.ownKind call.ownKind_mem counter isFirst).trans copied
  have correct := correct call.ownKind call.ownKind_mem
  by_cases ahead : sys.SomeAhead call.comId (call.srcIpAddr session) call.ownKind
  · obtain ⟨j, other, isAhead, goesOn, -⟩ := correct.redundant ahead counter isFirst
    exact unplaced.next j other isAhead source queued lends (starts'.symm.trans goesOn.symm)
  · have zero := correct.alone ahead counter isFirst
    exact unplaced.first ahead source queued lends (starts'.symm.trans zero)

/-- A session of another device. -/
def backupSession : TrdpSession :=
  .opened 0x0a000101 ⟨none, 0, 1000000, .keepLastValue⟩ false false

/-- A publisher of comId 1000 that has sent its first telegram, and a backup that was opened. -/
def startedSessions : SessionsSys where
  sessions :=
    [(trdpPdSendQueued (passAt 8000 44) (publishedSession (some [1, 2, 3, 4]))).2.1, backupSession]
  past := (trdpPdSendQueued (passAt 8000 44) (publishedSession (some [1, 2, 3, 4]))).2.2

theorem startedSessions_wellFormed : startedSessions.WellFormed :=
  ⟨by decide +kernel, by decide +kernel⟩

/-- What the backup publishes, and its next pass. -/
def backupCall (comId : U32) : NewCall :=
  .publish (publishEnv 2) { cyclicPublisher (some [1, 2, 3, 4]) with comId }

def backupPass (_ : Nat) : List QueueEvent := [.sendQueued (passAt 9000 44)]

def backupLog (comId : U32) : List Telegram :=
  (trdpPdSendQueued (passAt 9000 44)
    ((backupCall comId).apply startedSessions.sndQueues backupSession)).2.2

theorem initial_counters_right_other
    : countersOf 2 trdpMsgPd (backupLog 1001) = [0]
      ∧ ∀ kind ∈ (backupCall 1001).kinds,
          startedSessions.CountersRight 1001 0x0a000101 2
            (startedSessions.after 1 (backupCall 1001)) backupPass (backupLog 1001) kind := by
  have opened : startedSessions.sessions[1]? = some backupSession := rfl
  have fresh : ∀ session ∈ startedSessions.sessions,
      (backupCall 1001).handle ∉ session.pSndQueue.map PdEle.handle := by
    decide +kernel
  have sends : (backupCall 1001).SendsAfter startedSessions.sndQueues backupSession (backupPass 1)
      (backupLog 1001) :=
    ⟨by decide +kernel, by decide +kernel, _, rfl, rfl⟩
  refine ⟨by decide +kernel, ?_⟩
  refine (initial_counters_right startedSessions_wellFormed opened fresh sends).1 ⟨?_, ?_⟩
  · have others : ∀ ele ∈ startedSessions.sndQueues.flatten, ele.addr.comId ≠ 1001 := by
      decide +kernel
    exact fun _ ele member lends => others ele member lends.1
  · exact fun unnamed => absurd unnamed (by decide)

/-- The backup begins with 0, where the other goes on with 1. -/
theorem backup_repeats_counter
    : ¬ ∀ kind ∈ (backupCall 1000).kinds,
        startedSessions.CountersRight 1000 0x0a000101 2 (startedSessions.after 1 (backupCall 1000))
          backupPass (backupLog 1000) kind := by
  intro right
  have data : trdpMsgPd ∈ (backupCall 1000).kinds := List.mem_cons_self
  have first : (0 : U32) ∈ (countersOf 2 trdpMsgPd (backupLog 1000)).head? := by decide +kernel
  have all : ∀ other ∈ startedSessions.sndQueues.flatten, other.nextCounter trdpMsgPd = 1 := by
    decide +kernel
  have sent : ∃ other ∈ (startedSessions.sessions.headD backupSession).pSndQueue,
      other.addr.comId = 1000 ∧ other.addr.srcIpAddr ≠ 0x0a000101
      ∧ countersOf other.handle trdpMsgPd startedSessions.past ≠ [] := by
    decide +kernel
  obtain ⟨other, member, comId, srcIpAddr, sent⟩ := sent
  obtain ⟨j, ahead, ⟨⟨session, at_, queued⟩, -, -, -⟩, next, -⟩ :=
    (right trdpMsgPd data).redundant ⟨0, other, ⟨_, rfl, member⟩, comId, srcIpAddr, sent⟩ 0 first
  have one := all ahead (List.mem_flatten.mpr
    ⟨session.pSndQueue, List.mem_map_of_mem (List.mem_of_getElem? at_), queued⟩)
  rw [one] at next
  cases next

end TsnTrdp.Trdp
