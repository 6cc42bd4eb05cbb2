import TsnTrdp.Trdp.Overrun
import TsnTrdp.Lib.Paced
import TsnTrdp.Lib.Run

/-! The send schedule. Passes over the send queue, pull requests and the application's calls
come in any order, until a copy runs over a frame; every element keeps to its schedule in exactly
the runs in which none does, and no pass finds a cyclic publisher pulled while its data are invalid.
-/

namespace TsnTrdp.Trdp

open TsnTrdp.Run TsnTrdp.Queue TsnTrdp.Pace

/-- The session, and the telegrams that its passes have sent. -/
structure SendSys where
  session : TrdpSession
  telegrams : List Telegram

/-- A session before its first pass. -/
def SendSys.start (session : TrdpSession) : SendSys := ⟨session, []⟩

inductive SendEvent
  | sendQueued (env : SendEnv)
  | pullRequest (statistics : List U8) (head : PdHeader) (srcIpAddr : U32)
  | put (handle : Nat) (alloc : Bool) (pData : Option (List U8)) (dataSize : U32)
  | setRedundant (redId : U32) (leader : Bool)
  | request (env : PublishEnv) (args : RequestArgs)

/-- One step. A pull request is the part of `trdp_pdReceive` that marks the publisher; the pass
that answers it follows as a step of its own. An allocation returns no address that is in use.
-/
def sendStep (s : SendSys) : SendEvent → SendSys
  | .sendQueued env =>
      { session := (trdpPdSendQueued env s.session).2.1
        telegrams := s.telegrams ++ (trdpPdSendQueued env s.session).2.2 }
  | .pullRequest statistics head srcIpAddr =>
      { s with
        session := (pdPullRequest statistics head srcIpAddr s.session).getD s.session }
  | .put handle alloc pData dataSize =>
      { s with session := (tlpPut handle alloc pData dataSize s.session).2 }
  | .setRedundant redId leader =>
      { s with session := (tlpSetRedundant redId leader s.session).2 }
  | .request env args =>
      if env.handle ∈ s.session.pSndQueue.map PdEle.handle then s
      else { s with session := (tlpRequest env args s.session).2 }

/-- What a step copies stays within the frame that it is copied to. -/
def CopiesWithin (s : SendSys) : SendEvent → Prop
  | .sendQueued _ | .setRedundant _ _ => True
  | .pullRequest statistics head _ => PullWithin statistics head s.session
  | .put handle alloc pData dataSize => TlpPutWithin handle alloc pData dataSize s.session
  | .request env args => TlpRequestWithin env args s.session

instance (s : SendSys) : (event : SendEvent) → Decidable (CopiesWithin s event)
  | .sendQueued _ | .setRedundant _ _ => inferInstanceAs (Decidable True)
  | .pullRequest statistics head _ => inferInstanceAs (Decidable (PullWithin statistics head _))
  | .put handle alloc pData dataSize =>
      inferInstanceAs (Decidable (TlpPutWithin handle alloc pData dataSize _))
  | .request env args => inferInstanceAs (Decidable (TlpRequestWithin env args _))

/-- The run ends in a fault where a copy runs over a frame, since what it writes over then may be
any element of the queue.
-/
def sendRun : Option SendSys → SendEvent → Option SendSys :=
  faulting (guarded sendStep CopiesWithin)

-----------------------------------------------------------------------------------------
-- What is asked of a pass, and of a run
-----------------------------------------------------------------------------------------

/-- A request element that is sent once and removed. -/
def PdEle.OneShot (ele : PdEle) : Prop :=
  ele.msgType = trdpMsgPr ∧ Has ele.privFlags trdpReq2bSent

instance (ele : PdEle) : Decidable ele.OneShot := inferInstanceAs (Decidable (_ ∧ _))

/-- What is asked of a pass: no element sends twice; a cyclic element without a pending pull is
due again within its interval if it was due, and is left alone if not; a pulled element keeps its
time and is a plain publisher again; and only one-shot elements leave the queue.
-/
structure PassRight (env : SendEnv) (session : TrdpSession) : Prop where
  once : ((trdpPdSendQueued env session).2.2.map Telegram.handle).Nodup
  due
    : ∀ k ele, session.pSndQueue[k]? = some ele → ¬ Has ele.privFlags trdpReq2bSent
      → ele.Due (env.clock k).time
      → ∃ ele' ∈ (trdpPdSendQueued env session).2.1.pSndQueue, ele'.handle = ele.handle
        ∧ (env.clock k).time.usecs < ele'.timeToGo.usecs
        ∧ ele'.timeToGo.usecs ≤ (env.clock k).time.usecs + ele.interval.usecs
  idle
    : ∀ k ele, session.pSndQueue[k]? = some ele → ¬ Has ele.privFlags trdpReq2bSent
      → ¬ ele.Due (env.clock k).time
      → ele ∈ (trdpPdSendQueued env session).2.1.pSndQueue
        ∧ ∀ telegram ∈ (trdpPdSendQueued env session).2.2, telegram.handle ≠ ele.handle
  pulled
    : ∀ ele ∈ session.pSndQueue, Has ele.privFlags trdpReq2bSent → ele.msgType ≠ trdpMsgPr
      → ∃ ele' ∈ (trdpPdSendQueued env session).2.1.pSndQueue, ele'.handle = ele.handle
        ∧ ele'.timeToGo = ele.timeToGo ∧ ¬ Has ele'.privFlags trdpReq2bSent
        ∧ ele'.msgType = trdpMsgPd
  leaves
    : (trdpPdSendQueued env session).2.1.pSndQueue.map PdEle.handle
      = (session.pSndQueue.filter fun ele => ¬ ele.OneShot).map PdEle.handle

/-- What is asked of a step: if it is a pass, that it is right. -/
def SendStepRight (s : SendSys) : SendEvent → Prop
  | .sendQueued env => PassRight env s.session
  | .pullRequest .. | .put .. | .setRedundant .. | .request .. => True

/-- The times at which a publisher has sent its cyclic telegrams. -/
def SendSys.cyclicTimes (s : SendSys) (handle : Nat) : List Int :=
  (s.telegrams.filter fun telegram =>
    telegram.handle = handle ∧ telegram.frame.frameHead.msgType = trdpMsgPd).map
      (·.time.usecs)

/-- The cyclic telegrams of a publisher up to any time keep to its interval, counted from the
time at which it was due first.
-/
def CountBounded (ele : PdEle) (s : SendSys) : Prop :=
  ∀ time : Int,
    (time < ele.timeToGo.usecs → (s.cyclicTimes ele.handle).countP (· ≤ time) = 0)
    ∧ (ele.timeToGo.usecs ≤ time
      → ((s.cyclicTimes ele.handle).countP (· ≤ time) : Int)
        ≤ 1 + (time - ele.timeToGo.usecs) / ele.interval.usecs)

/-- A run keeps the send schedule, and does not end in a fault. -/
structure ScheduleKept (session : TrdpSession) (events : List SendEvent) : Prop where
  passes : Along sendRun (BeforeFault SendStepRight) (some (.start session)) events
  count
    : ∃ s,
        run sendRun (some (.start session)) events = some s
        ∧ ∀ ele ∈ session.pSndQueue, ele.interval.IsSet → CountBounded ele s

/-- A pass finds no cyclic publisher pulled while its data are invalid. -/
def PullsValid (s : SendSys) : SendEvent → Prop
  | .sendQueued _ =>
      ∀ ele ∈ s.session.pSndQueue, Has ele.privFlags trdpReq2bSent
        → ele.msgType = trdpMsgPd → ele.interval.IsSet → ¬ Has ele.privFlags trdpInvalidData
  | .pullRequest .. | .put .. | .setRedundant .. | .request .. => True

instance (s : SendSys) : (event : SendEvent) → Decidable (PullsValid s event)
  | .sendQueued _ => inferInstanceAs (Decidable (∀ ele ∈ _, _))
  | .pullRequest .. | .put .. | .setRedundant .. | .request .. =>
      inferInstanceAs (Decidable True)

-----------------------------------------------------------------------------------------
-- Elements as the application queues them
-----------------------------------------------------------------------------------------

/-- An element as `tlp_publish` and `tlp_request` queue it and passes and pull requests leave it:
its times are normalised, its interval is none or a granule at least, and it is a publisher, a
publisher that answers a pull request, or a request.
-/
structure Scheduled (ele : PdEle) : Prop where
  interval : ele.interval.Normal
  granule : ele.interval.IsSet → 10000 ≤ ele.interval.usecs
  timeToGo : ele.timeToGo.Normal
  kind
    : ele.msgType = trdpMsgPd
      ∨ ele.msgType = trdpMsgPp ∧ Has ele.privFlags trdpReq2bSent
      ∨ ele.msgType = trdpMsgPr ∧ ¬ ele.interval.IsSet

/-- A send queue of such elements, each at its own address. -/
structure QueueScheduled (queue : List PdEle) : Prop where
  all : ∀ ele ∈ queue, Scheduled ele
  handles : (queue.map PdEle.handle).Nodup

variable {now : TrdpTime} {ele ele' : PdEle} {env : SendEnv} {session : TrdpSession} {s : SendSys}

/-- A scheduled element before and after a turn that it stays for. -/
structure Turned (now : TrdpTime) (ele ele' : PdEle) : Prop where
  same : SameElement ele ele'
  scheduled : Scheduled ele'
  idle : ¬ (ele.Due now ∨ Has ele.privFlags trdpReq2bSent) → ele' = ele
  acts
    : ele.Due now ∨ Has ele.privFlags trdpReq2bSent
      → Rescheduled now ele ele' ∧ ele'.msgType = trdpMsgPd

/-- After its turn a publisher has its type of the publication again, and a request its own. -/
theorem Scheduled.rescheduled_msgType (scheduled : Scheduled ele)
    (acts : ele.Due now ∨ Has ele.privFlags trdpReq2bSent) (after : Rescheduled now ele ele')
    : ele'.msgType = if ele.OneShot then trdpMsgPr else trdpMsgPd := by
  have apart : trdpMsgPd ≠ trdpMsgPr ∧ trdpMsgPp ≠ trdpMsgPr ∧ trdpMsgPr ≠ trdpMsgPp := by decide
  rw [after.msgType]
  rcases scheduled.kind with plain | ⟨reply, flagged⟩ | ⟨request, once⟩
  · have notRequest : ¬ ele.OneShot := fun shot => apart.1 (plain.symm.trans shot.1)
    rw [if_neg notRequest, plain, ite_self]
  · have notRequest : ¬ ele.OneShot := fun shot => apart.2.1 (reply.symm.trans shot.1)
    rw [if_neg notRequest, if_pos ⟨flagged, Or.inl reply⟩]
  · have flagged : Has ele.privFlags trdpReq2bSent := acts.resolve_left fun due => once due.1
    have notAnswer : ¬ ele.Answers := by
      rintro ⟨-, reply | ⟨plain, -⟩⟩
      · exact apart.2.2 (request.symm.trans reply)
      · exact apart.1 (plain.symm.trans request)
    rw [if_neg notAnswer, if_pos ⟨request, flagged⟩, request]

/-- The time of an element stays normalised in its turn. -/
theorem Scheduled.rescheduled_timeToGo (scheduled : Scheduled ele) (clock : now.Normal)
    (after : Rescheduled now ele ele')
    : ele'.timeToGo.Normal := by
  rw [after.timeToGo]
  split
  · exact scheduled.timeToGo
  split
  · rename_i cyclic
    exact (nextTimeToGo_spec scheduled.timeToGo scheduled.interval clock
      (scheduled.granule cyclic)).1
  · exact scheduled.timeToGo

/-- A request leaves with its turn; every other element stays, scheduled as before. Cases on
whether the element acts.
-/
theorem Scheduled.turn (scheduled : Scheduled ele) (clock : now.Normal)
    (etbTopoCnt opTrnTopoCnt : U32) (udp : UdpSend)
    : (ele.OneShot → (pdSendTurn etbTopoCnt opTrnTopoCnt now udp ele).ele = none)
      ∧ (¬ ele.OneShot
        → ∃ ele', (pdSendTurn etbTopoCnt opTrnTopoCnt now udp ele).ele = some ele'
          ∧ Turned now ele ele') := by
  by_cases acts : ele.Due now ∨ Has ele.privFlags trdpReq2bSent
  · obtain ⟨ele', after, left, -, -⟩ := pdSendTurn_acts etbTopoCnt opTrnTopoCnt udp acts
    have type := scheduled.rescheduled_msgType acts after
    refine ⟨?_, ?_⟩
    · intro shot
      rw [if_pos shot] at type
      rw [left, if_pos type]
    · intro stays
      rw [if_neg stays] at type
      have notRequest : ele'.msgType ≠ trdpMsgPr := by
        rw [type]
        decide
      have scheduled' : Scheduled ele' := {
        interval := after.same.interval ▸ scheduled.interval
        granule := after.same.interval ▸ scheduled.granule
        timeToGo := scheduled.rescheduled_timeToGo clock after
        kind := Or.inl type
      }
      refine ⟨ele', by rw [left, if_neg notRequest], after.same, scheduled', ?_, ?_⟩
      · exact fun idle => absurd acts idle
      · exact fun _ => ⟨after, type⟩
  · rw [pdSendTurn_idle acts]
    refine ⟨fun shot => absurd (Or.inr shot.2) acts,
      fun _ => ⟨ele, rfl, .refl ele, scheduled, ?_, ?_⟩⟩
    · exact fun _ => rfl
    · exact fun act => absurd act acts

/-- An element that is not a request has its successor in the queue after a pass. -/
theorem QueueScheduled.turned (queue : QueueScheduled session.pSndQueue) (env : SendEnv) {k : Nat}
    (found : session.pSndQueue[k]? = some ele) (stays : ¬ ele.OneShot)
    : ∃ ele' ∈ (trdpPdSendQueued env session).2.1.pSndQueue,
        Turned (env.clock k).time ele ele' := by
  have scheduled := queue.all ele (List.mem_of_getElem? found)
  obtain ⟨ele', left, turned⟩ := (scheduled.turn (env.clock k).normal session.etbTopoCnt
    session.opTrnTopoCnt (env.udp k)).2 stays
  exact ⟨ele', mem_trdpPdSendQueued.mpr ⟨k, ele, found, left⟩, turned⟩

/-- The elements after a pass are those before it without the requests sent, in order. Induction
on the queue.
-/
theorem handles_after (etbTopoCnt opTrnTopoCnt : U32) (env : SendEnv) {queue : List PdEle}
    (all : ∀ ele ∈ queue, Scheduled ele) (n : Nat)
    : (((queue.zipIdx n).map fun (ele, k) =>
          pdSendTurn etbTopoCnt opTrnTopoCnt (env.clock k).time (env.udp k) ele).filterMap
            SendTurn.ele |>.map PdEle.handle)
      = (queue.filter fun ele => ¬ ele.OneShot).map PdEle.handle := by
  induction queue generalizing n with
  | nil => rfl
  | cons ele rest ih =>
      have later := ih (fun ele member => all ele (List.mem_cons_of_mem _ member)) (n + 1)
      obtain ⟨leaves, stays⟩ := (all ele List.mem_cons_self).turn (env.clock n).normal
        etbTopoCnt opTrnTopoCnt (env.udp n)
      rw [List.zipIdx_cons, List.map_cons, List.filterMap_cons]
      by_cases shot : ele.OneShot
      · simp only [leaves shot, List.filter_cons, shot, not_true_eq_false, decide_false]
        exact later
      · obtain ⟨ele', left, turned⟩ := stays shot
        simp only [left, List.filter_cons, shot, not_false_eq_true, decide_true, if_true,
          List.map_cons, turned.same.handle, later]

theorem QueueScheduled.pass (queue : QueueScheduled session.pSndQueue) (env : SendEnv)
    : QueueScheduled (trdpPdSendQueued env session).2.1.pSndQueue := by
  constructor
  · intro ele' member
    obtain ⟨k, ele, found, left⟩ := mem_trdpPdSendQueued.mp member
    have scheduled := queue.all ele (List.mem_of_getElem? found)
    obtain ⟨leaves, stays⟩ := scheduled.turn (env.clock k).normal session.etbTopoCnt
      session.opTrnTopoCnt (env.udp k)
    by_cases shot : ele.OneShot
    · rw [leaves shot] at left
      cases left
    · obtain ⟨ele'', left', turned⟩ := stays shot
      obtain rfl := Option.some.inj (left.symm.trans left')
      exact turned.scheduled
  · have handles := handles_after session.etbTopoCnt session.opTrnTopoCnt env queue.all 0
    have sub : List.Sublist ((trdpPdSendQueued env session).2.1.pSndQueue.map PdEle.handle)
        (session.pSndQueue.map PdEle.handle) := by
      rw [show (trdpPdSendQueued env session).2.1.pSndQueue.map PdEle.handle = _ from handles]
      exact List.filter_sublist.map PdEle.handle
    exact queue.handles.sublist sub

-----------------------------------------------------------------------------------------
-- One pass
-----------------------------------------------------------------------------------------

/-- Elements at one address are one element, at one place of the queue. -/
theorem QueueScheduled.place_inj {queue : List PdEle} (scheduled : QueueScheduled queue)
    {other : PdEle} {i j : Nat} (first : queue[i]? = some ele) (second : queue[j]? = some other)
    (same : other.handle = ele.handle)
    : i = j ∧ other = ele := by
  have low : i < queue.length := (List.getElem?_eq_some_iff.mp first).1
  have place : i = j := by
    refine (List.getElem?_inj (by rwa [List.length_map]) scheduled.handles).mp ?_
    rw [List.getElem?_map, List.getElem?_map, first, second, Option.map_some, Option.map_some, same]
  subst place
  exact ⟨rfl, Option.some.inj (second.symm.trans first)⟩

/-- What a pull leaves of the timer, where it does not find invalid data. -/
theorem Rescheduled.pulled_timer (after : Rescheduled now ele ele') (scheduled : Scheduled ele)
    (flagged : Has ele.privFlags trdpReq2bSent) (publisher : ele.msgType ≠ trdpMsgPr)
    (valid : ele.msgType = trdpMsgPd → ele.interval.IsSet → ¬ Has ele.privFlags trdpInvalidData)
    : ele'.timeToGo = ele.timeToGo := by
  rw [after.timeToGo]
  split
  · rfl
  rename_i other
  rcases scheduled.kind with plain | ⟨reply, -⟩ | ⟨request, -⟩
  · have once : ¬ ele.interval.IsSet := fun cyclic =>
      other ⟨flagged, Or.inr ⟨plain, valid plain cyclic⟩⟩
    rw [if_neg once]
  · exact absurd ⟨flagged, Or.inl reply⟩ other
  · exact absurd request publisher

/-- A cyclic element that is pulled while its data are invalid has its timer advanced. -/
theorem Rescheduled.invalid_timer (after : Rescheduled now ele ele') (scheduled : Scheduled ele)
    (clock : now.Normal) (plain : ele.msgType = trdpMsgPd) (cyclic : ele.interval.IsSet)
    (invalid : Has ele.privFlags trdpInvalidData)
    : ele'.timeToGo ≠ ele.timeToGo := by
  have other : ¬ ele.Answers := by
    rintro ⟨-, reply | ⟨-, valid⟩⟩
    · rw [plain] at reply
      cases reply
    · exact valid invalid
  rw [after.timeToGo, if_neg other, if_pos cyclic]
  obtain ⟨-, later, -⟩ := nextTimeToGo_spec scheduled.timeToGo scheduled.interval clock
    (scheduled.granule cyclic)
  have granule := scheduled.granule cyclic
  intro same
  rw [same] at later
  omega

theorem QueueScheduled.passRight (queue : QueueScheduled session.pSndQueue) (env : SendEnv)
    (valid
      : ∀ ele ∈ session.pSndQueue, Has ele.privFlags trdpReq2bSent → ele.msgType = trdpMsgPd
        → ele.interval.IsSet → ¬ Has ele.privFlags trdpInvalidData)
    : PassRight env session where
  once := queue.handles.sublist (telegrams_sublist session.etbTopoCnt session.opTrnTopoCnt env
    session.pSndQueue 0)
  due k ele found unpulled due := by
    obtain ⟨ele', member, turned⟩ := queue.turned env found fun shot => unpulled shot.2
    have scheduled := queue.all ele (List.mem_of_getElem? found)
    have other : ¬ ele.Answers := fun answers => unpulled answers.1
    obtain ⟨after, -⟩ := turned.acts (Or.inl due)
    obtain ⟨-, -, bounds⟩ := nextTimeToGo_spec scheduled.timeToGo scheduled.interval
      (env.clock k).normal (scheduled.granule due.1)
    refine ⟨ele', member, turned.same.handle, ?_⟩
    rw [after.timeToGo, if_neg other, if_pos due.1]
    exact bounds due.2
  idle k ele found unpulled early := by
    have idle : ¬ (ele.Due (env.clock k).time ∨ Has ele.privFlags trdpReq2bSent) := by
      rintro (due | pulled)
      · exact early due
      · exact unpulled pulled
    obtain ⟨ele', member, turned⟩ := queue.turned env found fun shot => unpulled shot.2
    refine ⟨turned.idle idle ▸ member, ?_⟩
    intro telegram sent same
    obtain ⟨j, other, found', sent⟩ := mem_telegrams.mp sent
    obtain ⟨sentFor, acts, -⟩ := pdSendTurn_telegram sent
    obtain ⟨rfl, rfl⟩ := queue.place_inj found found' (sentFor.handle.symm.trans same)
    exact idle acts
  pulled ele member flagged publisher := by
    obtain ⟨k, found⟩ := List.mem_iff_getElem?.mp member
    obtain ⟨ele', member', turned⟩ := queue.turned env found fun shot => publisher shot.1
    obtain ⟨after, plain⟩ := turned.acts (Or.inr flagged)
    refine ⟨ele', member', turned.same.handle, ?_, ?_, plain⟩
    · exact after.pulled_timer (queue.all ele member) flagged publisher
        fun data cyclic => valid ele member flagged data cyclic
    · rw [after.privFlags]
      exact not_has_without
  leaves := handles_after session.etbTopoCnt session.opTrnTopoCnt env queue.all 0

/-- A pass is right exactly if it finds no cyclic publisher pulled while its data are invalid. -/
theorem QueueScheduled.passRight_iff (queue : QueueScheduled session.pSndQueue) (env : SendEnv)
    : PassRight env session
      ↔ ∀ ele ∈ session.pSndQueue, Has ele.privFlags trdpReq2bSent → ele.msgType = trdpMsgPd
        → ele.interval.IsSet → ¬ Has ele.privFlags trdpInvalidData := by
  refine ⟨?_, queue.passRight env⟩
  intro right ele member flagged plain cyclic invalid
  have publisher : ele.msgType ≠ trdpMsgPr := by
    rw [plain]
    decide
  obtain ⟨kept, keptMember, keptHandle, timer, -⟩ := right.pulled ele member flagged publisher
  obtain ⟨k, found⟩ := List.mem_iff_getElem?.mp member
  obtain ⟨ele', member', turned⟩ := queue.turned env found fun shot => publisher shot.1
  have same : ele' = kept := List.inj_on_of_nodup_map (queue.pass env).handles member' keptMember
    (turned.same.handle.trans keptHandle.symm)
  subst same
  exact (turned.acts (Or.inr flagged)).1.invalid_timer (queue.all ele member)
    (env.clock k).normal plain cyclic invalid timer

/-- What identifies an element and times it. -/
def PdEle.timer (ele : PdEle) : Nat × TrdpTime × TrdpTime :=
  (ele.handle, ele.interval, ele.timeToGo)

/-- A change of an element that leaves its timer alone and keeps it scheduled. -/
structure KeepsTimer (change : PdEle → PdEle) : Prop where
  timer : ∀ ele, (change ele).timer = ele.timer
  scheduled : ∀ ele, Scheduled ele → Scheduled (change ele)

/-- A change of the queue that leaves the timers alone and keeps it scheduled. -/
structure KeepsTimers (queue queue' : List PdEle) : Prop where
  timers : queue'.map PdEle.timer = queue.map PdEle.timer
  all : (∀ ele ∈ queue, Scheduled ele) → ∀ ele ∈ queue', Scheduled ele

theorem KeepsTimer.modifyFirst {change : PdEle → PdEle} (keeps : KeepsTimer change)
    (test : PdEle → Bool) (queue : List PdEle)
    : KeepsTimers queue (modifyFirst test change queue) :=
  ⟨map_modifyFirst fun ele _ => keeps.timer ele, fun all => forall_modifyFirst all keeps.scheduled⟩

theorem KeepsTimers.refl (queue : List PdEle) : KeepsTimers queue queue := ⟨rfl, fun all => all⟩

theorem KeepsTimers.queueScheduled {queue queue' : List PdEle} (keeps : KeepsTimers queue queue')
    (scheduled : QueueScheduled queue)
    : QueueScheduled queue' := by
  refine ⟨keeps.all scheduled.all, ?_⟩
  have handles := congrArg (List.map Prod.fst) keeps.timers
  simp only [List.map_map] at handles
  rw [show queue'.map PdEle.handle = queue.map PdEle.handle from handles]
  exact scheduled.handles

/-- Putting data keeps an element scheduled. -/
theorem Scheduled.put (scheduled : Scheduled ele) (kept : PutKeeps ele ele') : Scheduled ele' := by
  have flagged := kept.flags trdpReq2bSent (by decide)
  refine ⟨kept.same.interval ▸ scheduled.interval, kept.same.interval ▸ scheduled.granule,
    kept.timeToGo ▸ scheduled.timeToGo, ?_⟩
  rw [kept.msgType, kept.same.interval, flagged]
  exact scheduled.kind

theorem trdpPdPut_keepsTimer (marshall : Option TrdpMarshall) (alloc : Bool)
    (pData : Option (List U8)) (dataSize : U32)
    : KeepsTimer fun ele => (trdpPdPut marshall alloc pData dataSize ele).2 := by
  constructor
  · intro ele
    have kept := trdpPdPut_keeps marshall alloc pData dataSize ele
    simp only [PdEle.timer, kept.same.handle, kept.same.interval, kept.timeToGo]
  · exact fun ele scheduled => scheduled.put (trdpPdPut_keeps marshall alloc pData dataSize ele)

theorem setRedundant_keepsTimer (redId : U32) (leader : Bool)
    : KeepsTimer fun ele =>
        if ele.inGroup redId then
          { ele with
            privFlags :=
              if leader then without ele.privFlags trdpRedundant
              else ele.privFlags ||| trdpRedundant }
        else ele := by
  constructor
  · intro ele
    split <;> rfl
  · intro ele scheduled
    split
    · refine ⟨scheduled.interval, scheduled.granule, scheduled.timeToGo, ?_⟩
      rcases scheduled.kind with plain | ⟨reply, flagged⟩ | request
      · exact Or.inl plain
      · refine Or.inr (Or.inl ⟨reply, ?_⟩)
        dsimp only
        split
        · exact (has_without_of_disjoint (by decide)).mpr flagged
        · exact (has_or_of_disjoint (by decide)).mpr flagged
      · exact Or.inr (Or.inr request)
    · exact scheduled

theorem pulled_scheduled (scheduled : Scheduled ele) (pullIpAddress : U32)
    : Scheduled (ele.pulled pullIpAddress) := by
  refine ⟨scheduled.interval, scheduled.granule, scheduled.timeToGo, ?_⟩
  rcases scheduled.kind with plain | ⟨reply, -⟩ | request
  · exact Or.inl plain
  · exact Or.inr (Or.inl ⟨reply, has_or_self (by decide)⟩)
  · exact Or.inr (Or.inr request)

theorem pullRequest_keepsTimer (etbTopoCnt opTrnTopoCnt : U32) (statistics : List U8)
    (head : PdHeader) (srcIpAddr : U32)
    : KeepsTimer fun ele =>
        (if head.comId = trdpStatisticsPullComid then
          pdPrepareStats etbTopoCnt opTrnTopoCnt statistics head ele
        else ele).pulled (head.pullAddress srcIpAddr) := by
  constructor
  · intro ele
    split <;> rfl
  · intro ele scheduled
    split
    · exact ⟨scheduled.interval, scheduled.granule, scheduled.timeToGo,
        Or.inr (Or.inl ⟨rfl, has_or_self (by decide)⟩)⟩
    · exact pulled_scheduled scheduled _

theorem pdPullRequest_keeps (statistics : List U8) (head : PdHeader) (srcIpAddr : U32)
    (session : TrdpSession)
    : KeepsTimers session.pSndQueue
        ((pdPullRequest statistics head srcIpAddr session).getD session).pSndQueue := by
  unfold pdPullRequest
  cases trdpQueueFindComId session.pSndQueue head.pulledComId with
  | none => exact .refl _
  | some _ => exact (pullRequest_keepsTimer ..).modifyFirst ..

theorem tlpPut_keeps (handle : Nat) (alloc : Bool) (pData : Option (List U8)) (dataSize : U32)
    (session : TrdpSession)
    : KeepsTimers session.pSndQueue
        (tlpPut handle alloc pData dataSize session).2.pSndQueue := by
  unfold tlpPut
  cases session.pSndQueue.find? (PdEle.isAt handle) with
  | none => exact .refl _
  | some _ => exact (trdpPdPut_keepsTimer ..).modifyFirst ..

theorem tlpSetRedundant_keeps (redId : U32) (leader : Bool) (session : TrdpSession)
    : KeepsTimers session.pSndQueue (tlpSetRedundant redId leader session).2.pSndQueue := by
  have keeps := setRedundant_keepsTimer redId leader
  constructor
  · rw [tlpSetRedundant, List.map_map]
    exact List.map_congr_left fun ele _ => keeps.timer ele
  · intro all ele member
    obtain ⟨before, old, rfl⟩ := List.mem_map.mp member
    exact keeps.scheduled before (all before old)

/-- A request adds a scheduled element at its address, or nothing. -/
theorem tlpRequest_queue (env : PublishEnv) (args : RequestArgs) (session : TrdpSession)
    : (tlpRequest env args session).2.pSndQueue = session.pSndQueue
      ∨ ∃ ele, (tlpRequest env args session).2.pSndQueue = ele :: session.pSndQueue
        ∧ ele.handle = env.handle ∧ Scheduled ele := by
  have none : ¬ TrdpTime.cleared.IsSet := by decide
  have new : ∀ sub socketIdx, Scheduled (newRequest env args session sub socketIdx) :=
    fun sub socketIdx => ⟨TrdpTime.normal_cleared, fun set => absurd set none,
      TrdpTime.normal_cleared, Or.inr (Or.inr ⟨rfl, none⟩)⟩
  have sent : ∀ ele, Scheduled ele
      → Scheduled { ele with privFlags := ele.privFlags ||| trdpReq2bSent } := by
    intro ele scheduled
    exact pulled_scheduled scheduled ele.pullIpAddress
  unfold tlpRequest
  split
  · exact Or.inl rfl
  cases session.pRcvQueue.find? (PdEle.isAt args.subHandle) with
  | none => exact Or.inl rfl
  | some sub =>
      dsimp only
      split
      · exact Or.inl rfl
      split
      · exact Or.inl rfl
      cases env.socket with
      | error err => exact Or.inl rfl
      | ok socketIdx =>
          have keeps := trdpPdPut_keepsTimer session.marshall env.allocLate args.pData
            args.dataSize
          right
          dsimp only
          split
          · refine ⟨_, rfl, ?_, sent _ (keeps.scheduled _ (new sub socketIdx))⟩
            exact congrArg Prod.fst (keeps.timer (newRequest env args session sub socketIdx))
          · exact ⟨_, rfl, rfl, sent _ (new sub socketIdx)⟩

-----------------------------------------------------------------------------------------
-- Runs
-----------------------------------------------------------------------------------------

/-- Whatever happens between the passes, the elements queued keep their timers. -/
theorem sendStep_keeps (queue : QueueScheduled s.session.pSndQueue) (event : SendEvent)
    : QueueScheduled (sendStep s event).session.pSndQueue := by
  cases event with
  | sendQueued env => exact queue.pass env
  | pullRequest statistics head srcIpAddr =>
      exact (pdPullRequest_keeps statistics head srcIpAddr s.session).queueScheduled queue
  | put handle alloc pData dataSize =>
      exact (tlpPut_keeps handle alloc pData dataSize s.session).queueScheduled queue
  | setRedundant redId leader =>
      exact (tlpSetRedundant_keeps redId leader s.session).queueScheduled queue
  | request env args =>
      dsimp only [sendStep]
      split
      · exact queue
      rename_i fresh
      rcases tlpRequest_queue env args s.session with same | ⟨ele, added, handle, scheduled⟩
      · rwa [same]
      · rw [added]
        constructor
        · intro other member
          rcases List.mem_cons.mp member with rfl | old
          · exact scheduled
          · exact queue.all other old
        · rw [List.map_cons, handle]
          exact List.nodup_cons.mpr ⟨fresh, queue.handles⟩

/-- The cyclic telegrams of `first` so far, and where its timer stands: the next one is not due
before its place in the schedule.
-/
structure CyclicInv (first : PdEle) (s : SendSys) : Prop where
  queue : QueueScheduled s.session.pSndQueue
  present
    : ∃ ele ∈ s.session.pSndQueue, ele.handle = first.handle ∧ ele.interval = first.interval
      ∧ first.timeToGo.usecs + (s.cyclicTimes first.handle).length * first.interval.usecs
        ≤ ele.timeToGo.usecs
  paced : Paced first.timeToGo.usecs first.interval.usecs (s.cyclicTimes first.handle)

variable {first : PdEle}

/-- A change that leaves the timers alone and sends nothing keeps the invariant. -/
theorem CyclicInv.keeps (inv : CyclicInv first s) {session' : TrdpSession}
    (keeps : KeepsTimers s.session.pSndQueue session'.pSndQueue)
    : CyclicInv first { s with session := session' } := by
  refine ⟨keeps.queueScheduled inv.queue, ?_, inv.paced⟩
  obtain ⟨ele, member, handle, interval, bound⟩ := inv.present
  have timer : ele.timer ∈ session'.pSndQueue.map PdEle.timer := by
    rw [keeps.timers]
    exact List.mem_map_of_mem member
  obtain ⟨ele', member', same⟩ := List.mem_map.mp timer
  obtain ⟨handle', rest⟩ := Prod.mk.inj same
  obtain ⟨interval', timeToGo'⟩ := Prod.mk.inj rest
  refine ⟨ele', member', handle'.trans handle, interval'.trans interval, ?_⟩
  rw [timeToGo']
  exact bound

/-- A list without repeated handles holds one telegram of a handle at most. -/
theorem filter_handle {telegrams : List Telegram} (nodup : (telegrams.map Telegram.handle).Nodup)
    (test : Telegram → Bool) (handle : Nat) (only : ∀ t, test t → t.handle = handle)
    : telegrams.filter test = [] ∨ ∃ telegram ∈ telegrams, test telegram
        ∧ telegrams.filter test = [telegram] := by
  have nodup' : ((telegrams.filter test).map Telegram.handle).Nodup :=
    nodup.sublist (List.filter_sublist.map Telegram.handle)
  cases kept : telegrams.filter test with
  | nil => exact Or.inl rfl
  | cons telegram rest =>
      have member : telegram ∈ telegrams.filter test := kept ▸ List.mem_cons_self
      obtain ⟨present, meets⟩ := List.mem_filter.mp member
      refine Or.inr ⟨telegram, present, meets, ?_⟩
      cases rest with
      | nil => rfl
      | cons second rest =>
          have member' : second ∈ telegrams.filter test := by
            rw [kept]
            exact List.mem_cons_of_mem _ List.mem_cons_self
          have same := (only second (List.mem_filter.mp member').2).trans (only telegram meets).symm
          rw [kept] at nodup'
          simp [same] at nodup'

/-- A cyclic element stays in the queue. -/
theorem Scheduled.not_oneShot (scheduled : Scheduled ele) (cyclic : ele.interval.IsSet)
    : ¬ ele.OneShot := by
  rintro ⟨request, -⟩
  rcases scheduled.kind with plain | ⟨reply, -⟩ | ⟨-, once⟩
  · rw [plain] at request
    cases request
  · rw [reply] at request
    cases request
  · exact once cyclic

/-- The timer of a cyclic element does not go back in its turn. -/
theorem Turned.later (turned : Turned now ele ele') (scheduled : Scheduled ele)
    (cyclic : ele.interval.IsSet) (clock : now.Normal)
    : ele.timeToGo.usecs ≤ ele'.timeToGo.usecs := by
  obtain ⟨-, step, -⟩ := nextTimeToGo_spec scheduled.timeToGo scheduled.interval clock
    (scheduled.granule cyclic)
  have granule := scheduled.granule cyclic
  by_cases acts : ele.Due now ∨ Has ele.privFlags trdpReq2bSent
  · rw [(turned.acts acts).1.timeToGo, if_pos cyclic]
    split
    · exact le_rfl
    · omega
  · rw [turned.idle acts]

/-- A cyclic telegram is one of a due element, whose timer moves on by its interval at least. -/
theorem Turned.sends (turned : Turned now ele ele') (scheduled : Scheduled ele)
    (cyclic : ele.interval.IsSet) (clock : now.Normal) {telegram : Telegram}
    {etbTopoCnt opTrnTopoCnt : U32} {udp : UdpSend}
    (sent : (pdSendTurn etbTopoCnt opTrnTopoCnt now udp ele).telegram = some telegram)
    (type : telegram.frame.frameHead.msgType = trdpMsgPd)
    : ele.timeToGo.usecs ≤ telegram.time.usecs
      ∧ ele.timeToGo.usecs + ele.interval.usecs ≤ ele'.timeToGo.usecs := by
  obtain ⟨-, step, -⟩ := nextTimeToGo_spec scheduled.timeToGo scheduled.interval clock
    (scheduled.granule cyclic)
  obtain ⟨sentFor, acts, -⟩ := pdSendTurn_telegram sent
  have unpulled : ¬ Has ele.privFlags trdpReq2bSent := by
    intro flagged
    rw [sentFor.msgType] at type
    split at type
    · cases type
    · next apart => exact apart ⟨flagged, type⟩
  have due := acts.resolve_right unpulled
  have unanswered : ¬ ele.Answers := fun answers => unpulled answers.1
  constructor
  · have timer := mt (TrdpTime.after_iff scheduled.timeToGo clock).mpr due.2
    rw [sentFor.time]
    omega
  · rw [(turned.acts acts).1.timeToGo, if_neg unanswered, if_pos cyclic]
    exact step

/-- A pass sends at most one cyclic telegram for a handle. -/
theorem cyclicTimes_pass (queue : QueueScheduled s.session.pSndQueue) (env : SendEnv)
    (handle : Nat)
    : (sendStep s (.sendQueued env)).cyclicTimes handle = s.cyclicTimes handle
      ∨ ∃ telegram ∈ (trdpPdSendQueued env s.session).2.2, telegram.handle = handle
        ∧ telegram.frame.frameHead.msgType = trdpMsgPd
        ∧ (sendStep s (.sendQueued env)).cyclicTimes handle
          = s.cyclicTimes handle ++ [telegram.time.usecs] := by
  have once := queue.handles.sublist (telegrams_sublist s.session.etbTopoCnt
    s.session.opTrnTopoCnt env s.session.pSndQueue 0)
  have log : (sendStep s (.sendQueued env)).cyclicTimes handle
      = s.cyclicTimes handle
        ++ ((trdpPdSendQueued env s.session).2.2.filter fun telegram =>
            telegram.handle = handle
            ∧ telegram.frame.frameHead.msgType = trdpMsgPd).map (·.time.usecs) := by
    simp only [SendSys.cyclicTimes, sendStep, List.filter_append, List.map_append]
  rcases filter_handle once (fun telegram => telegram.handle = handle
      ∧ telegram.frame.frameHead.msgType = trdpMsgPd) handle
      (fun t meets => (of_decide_eq_true meets).1) with none | ⟨telegram, sent, meets, one⟩
  · left
    rw [log, show (trdpPdSendQueued env s.session).2.2.filter _ = [] from none]
    simp
  · obtain ⟨sentBy, type⟩ := of_decide_eq_true meets
    refine .inr ⟨telegram, sent, sentBy, type, ?_⟩
    rw [log, show (trdpPdSendQueued env s.session).2.2.filter _ = [telegram] from one]
    rfl

/-- A pass sends a cyclic telegram of an element only where it is due, and then moves its timer
on by an interval at least; otherwise the timer does not go back.
-/
theorem CyclicInv.pass (inv : CyclicInv first s) (cyclic : first.interval.IsSet) (env : SendEnv)
    : CyclicInv first (sendStep s (.sendQueued env)) := by
  obtain ⟨ele, member, handle, interval, bound⟩ := inv.present
  obtain ⟨k, found⟩ := List.mem_iff_getElem?.mp member
  have scheduled := inv.queue.all ele member
  rw [← interval] at cyclic
  obtain ⟨ele', member', turned⟩ := inv.queue.turned env found (scheduled.not_oneShot cyclic)
  have present : first.timeToGo.usecs
        + ((sendStep s (.sendQueued env)).cyclicTimes first.handle).length
          * first.interval.usecs ≤ ele'.timeToGo.usecs
      → ∃ ele ∈ (sendStep s (.sendQueued env)).session.pSndQueue, ele.handle = first.handle
        ∧ ele.interval = first.interval
        ∧ first.timeToGo.usecs
          + ((sendStep s (.sendQueued env)).cyclicTimes first.handle).length
            * first.interval.usecs ≤ ele.timeToGo.usecs :=
    fun bound' => ⟨ele', member', turned.same.handle.trans handle,
      turned.same.interval.trans interval, bound'⟩
  rcases cyclicTimes_pass inv.queue env first.handle with
    same | ⟨telegram, sent, sentBy, type, same⟩
  · have later := turned.later scheduled cyclic (env.clock k).normal
    refine ⟨inv.queue.pass env, present ?_, by rw [same]; exact inv.paced⟩
    rw [same]
    omega
  · obtain ⟨j, other, found', sent⟩ := mem_telegrams.mp sent
    obtain ⟨sentFor, -, -⟩ := pdSendTurn_telegram sent
    obtain ⟨rfl, rfl⟩ := inv.queue.place_inj found found'
      (sentFor.handle.symm.trans (sentBy.trans handle.symm))
    obtain ⟨due, moved⟩ := turned.sends scheduled cyclic (env.clock k).normal sent type
    rw [interval] at moved
    refine ⟨inv.queue.pass env, present ?_, ?_⟩
    · rw [same, List.length_append, List.length_singleton]
      push_cast
      linarith
    · rw [same]
      exact inv.paced.snoc (by omega)

theorem CyclicInv.step (cyclic : first.interval.IsSet) (event : SendEvent)
    (inv : CyclicInv first s)
    : CyclicInv first (sendStep s event) := by
  cases event with
  | sendQueued env => exact inv.pass cyclic env
  | pullRequest statistics head srcIpAddr => exact inv.keeps (pdPullRequest_keeps ..)
  | put handle alloc pData dataSize => exact inv.keeps (tlpPut_keeps ..)
  | setRedundant redId leader => exact inv.keeps (tlpSetRedundant_keeps ..)
  | request env args =>
      have queue := sendStep_keeps inv.queue (.request env args)
      obtain ⟨ele, member, rest⟩ := inv.present
      dsimp only [sendStep] at queue ⊢
      split
      · exact inv
      rename_i fresh
      rw [if_neg fresh] at queue
      refine ⟨queue, ⟨ele, ?_, rest⟩, inv.paced⟩
      rcases tlpRequest_queue env args s.session with same | ⟨new, added, -⟩
      · exact same ▸ member
      · exact added ▸ List.mem_cons_of_mem new member

theorem CyclicInv.start (queue : QueueScheduled session.pSndQueue)
    (member : first ∈ session.pSndQueue)
    : CyclicInv first (.start session) :=
  ⟨queue, ⟨first, member, rfl, rfl, by simp [SendSys.start, SendSys.cyclicTimes]⟩, paced_nil⟩

/-- What `tlp_publish` adds to a queue of scheduled elements is scheduled, in a session that does
not shape its traffic.
-/
theorem tlpPublish_scheduled (queue : QueueScheduled session.pSndQueue) {env : PublishEnv}
    (fresh : env.handle ∉ session.pSndQueue.map PdEle.handle) (args : PublishArgs)
    (unshaped : session.trafficShaping = false)
    : QueueScheduled (tlpPublish env args session).2.pSndQueue := by
  rcases tlpPublish_queue env args session unshaped with same | ⟨long, socketIdx, ele, kept, added⟩
  · rwa [same]
  have idle : ¬ TrdpTime.cleared.IsSet := by decide
  obtain ⟨sec, usec, carry⟩ := env.clock.normal
  have new : Scheduled (newPublisher env args session socketIdx) := by
    refine ⟨?_, ?_, ?_, Or.inl rfl⟩
    · dsimp only [newPublisher, trdpPdInit]
      split
      · exact TrdpTime.normal_cleared
      · exact TrdpTime.normal_ofUsecs _
    · dsimp only [newPublisher, trdpPdInit]
      split
      · exact fun set => absurd set idle
      · rename_i cyclic
        intro _
        have granule := long cyclic
        rw [TrdpTime.usecs_ofUsecs]
        unfold trdpTimerGranularity at granule
        omega
    · dsimp only [newPublisher, trdpPdInit]
      split
      · exact TrdpTime.normal_cleared
      · dsimp only [firstTimeToGo]
        refine ⟨?_, ?_, ?_⟩ <;> dsimp only <;> omega
  have handle : ele.handle = env.handle := kept.same.handle
  rw [added]
  constructor
  · intro other member
    rcases List.mem_append.mp member with old | last
    · exact queue.all other old
    · exact List.mem_singleton.mp last ▸ new.put kept
  · rw [List.map_append, List.map_singleton, handle]
    exact queue.handles.append (List.nodup_singleton _) (List.disjoint_singleton.mpr fresh)

/-- A plain run keeps each pass right exactly if none finds a cyclic publisher pulled while its data
are invalid.
-/
theorem passes_right_iff (queue : QueueScheduled session.pSndQueue) (events : List SendEvent)
    : Along sendStep SendStepRight (.start session) events
      ↔ Along sendStep PullsValid (.start session) events := by
  have keeps : ∀ s event, QueueScheduled s.session.pSndQueue → PullsValid s event
      → QueueScheduled (sendStep s event).session.pSndQueue :=
    fun _ event queue _ => sendStep_keeps queue event
  have same : ∀ s event, QueueScheduled s.session.pSndQueue
      → (SendStepRight s event ↔ PullsValid s event) := by
    intro s event queue
    cases event with
    | sendQueued env => exact queue.passRight_iff env
    | pullRequest _ _ _ | put _ _ _ _ | setRedundant _ _ | request _ _ => exact Iff.rfl
  exact Along.iff_of_invariant keeps same queue events

/-- In a plain run the telegrams of a cyclic element keep to its interval. -/
theorem countBounded_run (queue : QueueScheduled session.pSndQueue)
    (member : first ∈ session.pSndQueue) (cyclic : first.interval.IsSet) (events : List SendEvent)
    : CountBounded first (run sendStep (.start session) events) := by
  intro time
  have inv := Along.invariant (fun _ event inv _ => CyclicInv.step cyclic event inv)
    (CyclicInv.start queue member) (Along.all (P := fun _ _ => True) (fun _ _ => trivial) _ events)
  have granule := (queue.all first member).granule cyclic
  exact inv.paced.count_le (by omega) time

/-- From a send queue as the application builds it, every run of passes, pull requests and calls
of the application keeps the send schedule exactly if no step copies beyond a frame, and no pass
finds a cyclic publisher pulled while its data are invalid.
-/
theorem send_schedule {session : TrdpSession} (queue : QueueScheduled session.pSndQueue)
    (events : List SendEvent)
    : ScheduleKept session events
      ↔ Along sendRun (BeforeFault fun s event => CopiesWithin s event ∧ PullsValid s event)
          (some (.start session)) events := by
  rw [sendRun, along_guarded_safe, ← passes_right_iff queue]
  constructor
  · rintro ⟨passes, s, reached, -⟩
    obtain ⟨within, -⟩ := run_guarded.mp reached
    exact ⟨within, (along_guarded within).mp passes⟩
  · rintro ⟨within, passes⟩
    refine ⟨(along_guarded within).mpr passes, _, run_guarded.mpr ⟨within, rfl⟩, ?_⟩
    exact fun ele member cyclic => countBounded_run queue member cyclic events

/-- A clock reading of whole milliseconds. -/
def clockAt (ms : Nat) : Clock := ⟨.ofUsecs (ms * 1000), TrdpTime.normal_ofUsecs _⟩

/-- A pass at which all telegrams of up to 64 bytes are sent. -/
def passAt (ms size : Nat) : SendEnv := ⟨fun _ => clockAt ms, fun _ => ⟨true, BitVec.ofNat 32 size⟩⟩

def openedSession : TrdpSession :=
  .opened 0x0a000001 ⟨none, 0, 1000000, .keepLastValue⟩ false false

/-- A new element at `handle`, for which nothing fails. -/
def publishEnv (handle : Nat) : PublishEnv where
  allocEle := true
  allocFrame := true
  allocLate := true
  socket := .ok 0
  handle
  clock := clockAt 5000
  sndQueues := []
  trdpPdDistribute := fun queue => (.noErr, queue)

/-- A publisher of comId 1000 every 100 ms. -/
def cyclicPublisher (pData : Option (List U8)) : PublishArgs where
  comId := 1000
  etbTopoCnt := 0
  opTrnTopoCnt := 0
  srcIpAddr := 0
  destIpAddr := 0xef000001
  interval := 100000
  redId := 0
  pktFlags := 1
  pData
  dataSize := BitVec.ofNat 32 (pData.getD []).length

/-- A request for comId 1000, answered to 10.0.0.9. -/
def pullHead : PdHeader where
  sequenceCounter := 0
  protocolVersion := trdpProtoVer
  msgType := trdpMsgPr
  comId := 1000
  etbTopoCnt := 0
  opTrnTopoCnt := 0
  datasetLength := 0
  reserved := 0
  replyComId := 1000
  replyIpAddress := 0x0a000009
  frameCheckSum := 0

/-- The session after the publisher's data were given or not. -/
def publishedSession (pData : Option (List U8)) : TrdpSession :=
  (tlpPublish (publishEnv 1) (cyclicPublisher pData) openedSession).2

theorem publishedSession_scheduled (pData : Option (List U8))
    : QueueScheduled (publishedSession pData).pSndQueue := by
  have empty : QueueScheduled openedSession.pSndQueue :=
    ⟨fun _ member => absurd member List.not_mem_nil, List.nodup_nil⟩
  exact tlpPublish_scheduled empty List.not_mem_nil (cyclicPublisher pData) rfl

theorem send_schedule_pulled
    : ScheduleKept (publishedSession (some [1, 2, 3, 4]))
        [.sendQueued (passAt 8000 44), .pullRequest [] pullHead 0x0a000009,
          .sendQueued (passAt 8050 44), .put 1 true (some [5, 6, 7, 8]) 4,
          .sendQueued (passAt 8333 44)] :=
  (send_schedule (publishedSession_scheduled _) _).mpr (by decide +kernel)

/-- A publisher without data that is pulled has its next send time advanced. -/
theorem send_schedule_shifted
    : ¬ ScheduleKept (publishedSession none)
        [.pullRequest [] pullHead 0x0a000009, .sendQueued (passAt 5500 40)] := by
  rintro ⟨passes, -⟩
  have within : Along sendStep CopiesWithin (.start (publishedSession none))
      [.pullRequest [] pullHead 0x0a000009, .sendQueued (passAt 5500 40)] := by
    decide +kernel
  obtain ⟨-, pass, -⟩ := (along_guarded within).mp passes
  have queue := (pdPullRequest_keeps [] pullHead 0x0a000009 (publishedSession none)).queueScheduled
    (publishedSession_scheduled none)
  have valid := (queue.passRight_iff (passAt 5500 40)).mp pass
  revert valid
  decide +kernel

end TsnTrdp.Trdp
