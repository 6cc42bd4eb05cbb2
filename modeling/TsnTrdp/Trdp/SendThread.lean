import TsnTrdp.Trdp.SendSchedule

/-! The thread that sends. It asks the session how long it may sleep, sleeps, and makes a pass
over the send queue; its rounds are timely in exactly the runs in which the time value left on
its stack happens to fit the publishers.
-/

namespace TsnTrdp.Trdp

open TsnTrdp.Run TrdpTime

-----------------------------------------------------------------------------------------
-- Asking the session
-----------------------------------------------------------------------------------------

/-- A set of descriptors and the highest of them, as `select` takes them. -/
structure FileDescs where
  pFileDesc : List Int
  noDesc : Int
  deriving DecidableEq, Repr

/-- `FD_SET`, and the highest descriptor. -/
def FileDescs.add (sock : Int) (descs : FileDescs) : FileDescs where
  pFileDesc := descs.pFileDesc ++ [sock]
  noDesc := if sock > descs.noDesc then sock else descs.noDesc

/-- `trdp_pdCheckPending`: the earlier of the next job and the element's time. -/
def nextJobOf (nextJob : TrdpTime) (ele : PdEle) : TrdpTime :=
  if ele.interval.IsSet ∧ (nextJob.After ele.timeToGo ∨ ¬ nextJob.IsSet) then ele.timeToGo
  else nextJob

/-- `trdp_pdCheckPending`: the descriptor of an element, if it is not in the set. -/
def pdAddDesc (iface : Int → Int) (descs : FileDescs) (ele : PdEle) : FileDescs :=
  if ele.socketIdx ≠ trdpInvalidSocketIndex ∧ iface ele.socketIdx ≠ -1
      ∧ iface ele.socketIdx ∉ descs.pFileDesc then
    descs.add (iface ele.socketIdx)
  else descs

/-- `trdp_pdCheckPending`, where `iface` has the descriptor of each slot. -/
def trdpPdCheckPending (iface : Int → Int) (descs : FileDescs) (session : TrdpSession)
    : FileDescs × TrdpSession :=
  let pending := session.pRcvQueue.filter fun ele => ¬ Has ele.privFlags trdpTimedOut
  ( session.pRcvQueue.foldl (pdAddDesc iface) descs,
    { session with nextJob := (pending ++ session.pSndQueue).foldl nextJobOf .cleared } )

/-- What `tlc_getInterval` meets. The descriptors of the message data follow those of the process
data.
-/
structure IntervalEnv where
  isValidSession : Bool
  mutexLock : TrdpErr
  clock : Clock
  iface : Int → Int
  trdpMdCheckPending : FileDescs → FileDescs

/-- `tlc_getInterval`: the result, the session, and what the pointers point to afterwards. -/
def tlcGetInterval (env : IntervalEnv) (pInterval : Option TrdpTime)
    (pFileDesc : Option (List Int)) (pNoDesc : Option Int) (session : TrdpSession)
    : TrdpErr × TrdpSession × Option TrdpTime × Option (List Int) × Option Int :=
  if !env.isValidSession then (.noinitErr, session, pInterval, pFileDesc, pNoDesc)
  else
    match pInterval, pFileDesc, pNoDesc with
    | some interval, some fileDesc, some noDesc =>
        if env.mutexLock ≠ .noErr then
          (env.mutexLock, session, some interval, some fileDesc, some noDesc)
        else
          let now := env.clock.time
          let (descs, session) := trdpPdCheckPending env.iface ⟨fileDesc, noDesc⟩ session
          let descs := env.trdpMdCheckPending descs
          if session.nextJob.IsSet ∧ session.nextJob.After now then
            let nextJob := vosSubTime session.nextJob now
            ( .noErr, { session with nextJob }, some nextJob, some descs.pFileDesc,
              some descs.noDesc )
          else if session.nextJob.IsSet then
            (.noErr, session, some ⟨0, 0⟩, some descs.pFileDesc, some descs.noDesc)
          else (.noErr, session, some ⟨1000, 0⟩, some descs.pFileDesc, some descs.noDesc)
    | _, _, _ => (.paramErr, session, pInterval, pFileDesc, pNoDesc)

/-- What `tlc_process_send` meets. The queues of the message data are not those of the session
here, and only the result of sending them counts.
-/
structure ProcessEnv where
  isValidSession : Bool
  mutexLock : TrdpErr
  send : SendEnv
  trdpMdSend : TrdpErr

/-- `tlc_process_send`. -/
def tlcProcessSend (env : ProcessEnv) (session : TrdpSession)
    : TrdpErr × TrdpSession × List Telegram :=
  if !env.isValidSession then (.noinitErr, session, [])
  else if env.mutexLock ≠ .noErr then (.noinitErr, session, [])
  else
    let (err, session, telegrams) :=
      trdpPdSendQueued env.send { session with nextJob := .cleared }
    if env.trdpMdSend ≠ .noErr ∧ env.trdpMdSend ≠ .ioErr then (env.trdpMdSend, session, telegrams)
    else (err, session, telegrams)

-----------------------------------------------------------------------------------------
-- Rounds of the thread
-----------------------------------------------------------------------------------------

def maxTv : TrdpTime := ⟨0, 100000⟩
def minTv : TrdpTime := ⟨0, 1000⟩

/-- A time value between the two limits of the thread. -/
def limitTv (tv : TrdpTime) : TrdpTime :=
  if vosCmpTime tv maxTv > 0 then maxTv
  else if vosCmpTime tv minTv < 0 then minTv
  else tv

/-- The session, and `tv` as it is on the thread's stack. -/
structure SendThread where
  session : TrdpSession
  tv : TrdpTime

/-- What a round meets: the two calls, and what the other threads do to the session while this
one sleeps.
-/
structure SendRound where
  getInterval : IntervalEnv
  others : TrdpSession → TrdpSession
  process : ProcessEnv

/-- `thread_process_pdSend`: up to the delay of a round. -/
def pdSendSleep (env : IntervalEnv) (s : SendThread) : SendThread :=
  let (_, session, tv, _, _) := tlcGetInterval env (some s.tv) none none s.session
  ⟨session, limitTv (tv.getD s.tv)⟩

/-- `thread_process_pdSend`: the microseconds that a round sleeps. -/
def pdSendDelay (env : IntervalEnv) (s : SendThread) : U32 :=
  BitVec.ofInt 32 (pdSendSleep env s).tv.tvUsec

/-- `thread_process_pdSend`: one round. -/
def threadProcessPdSend (s : SendThread) (round : SendRound) : SendThread :=
  let slept := pdSendSleep round.getInterval s
  { slept with session := (tlcProcessSend round.process (round.others slept.session)).2.1 }

/-- What is asked of a round that begins at `now`: it sleeps for at most 100 ms, and for at most
1 ms or until the first cyclic publisher is due; a publisher that is not due when the round begins
is not kept waiting for more than 1 ms.
-/
structure RoundTimely (s : SendThread) (round : SendRound) : Prop where
  bounded : (pdSendDelay round.getInterval s).toNat ≤ 100000
  wakes
    : ∀ ele ∈ s.session.pSndQueue, ele.interval.IsSet
      → ((pdSendDelay round.getInterval s).toNat : Int)
        ≤ max 1000 (ele.timeToGo.usecs - round.getInterval.clock.time.usecs)
  onTime
    : ∀ ele ∈ s.session.pSndQueue, ele.interval.IsSet → 10000 ≤ ele.interval.usecs
      → round.getInterval.clock.time.usecs ≤ ele.timeToGo.usecs
      → round.getInterval.clock.time.usecs + (pdSendDelay round.getInterval s).toNat
        ≤ ele.timeToGo.usecs + 1000

/-- The time value on the stack fits the publishers: it is at most 1 ms, or every cyclic publisher
has at least that time to go, or 100 ms.
-/
def StackFits (s : SendThread) (round : SendRound) : Prop :=
  ¬ s.tv.After minTv
  ∨ ∀ ele ∈ s.session.pSndQueue, ele.interval.IsSet
      → round.getInterval.clock.time.usecs + maxTv.usecs ≤ ele.timeToGo.usecs
        ∨ (¬ s.tv.After maxTv
          ∧ round.getInterval.clock.time.usecs + s.tv.usecs ≤ ele.timeToGo.usecs)

instance (s : SendThread) (round : SendRound) : Decidable (StackFits s round) :=
  inferInstanceAs (Decidable (_ ∨ _))

-----------------------------------------------------------------------------------------
-- What the two calls do
-----------------------------------------------------------------------------------------

variable {env : IntervalEnv} {session : TrdpSession} {s : SendThread} {tv : TrdpTime}

/-- Without a set of descriptors, `tlc_getInterval` returns before it writes anything. -/
theorem tlcGetInterval_null (env : IntervalEnv) (tv : TrdpTime) (session : TrdpSession)
    : ∃ err, err ≠ .noErr
      ∧ tlcGetInterval env (some tv) none none session = (err, session, some tv, none, none) := by
  unfold tlcGetInterval
  split
  · exact ⟨.noinitErr, by decide, rfl⟩
  · exact ⟨.paramErr, by decide, rfl⟩

theorem pdSendSleep_eq (env : IntervalEnv) (s : SendThread)
    : pdSendSleep env s = ⟨s.session, limitTv s.tv⟩ := by
  obtain ⟨err, -, eq⟩ := tlcGetInterval_null env s.tv s.session
  simp only [pdSendSleep, eq, Option.getD_some]

/-- What the limits make of a time value: its seconds are gone, and its microseconds are between
1 ms and 100 ms.
-/
theorem limitTv_cases (tv : TrdpTime)
    : (tv.After minTv ∧ tv.After maxTv ∧ limitTv tv = maxTv)
      ∨ (¬ tv.After minTv ∧ limitTv tv = minTv)
      ∨ (tv.After minTv ∧ ¬ tv.After maxTv ∧ limitTv tv = tv ∧ tv.tvSec = 0
        ∧ 1000 < tv.tvUsec ∧ tv.tvUsec ≤ 100000) := by
  have above : tv.After maxTv → tv.After minTv := by
    simp only [after_lex, maxTv, minTv]
    omega
  simp only [limitTv, vosCmpTime_pos_iff, vosCmpTime_neg_iff]
  by_cases high : tv.After maxTv
  · exact .inl ⟨above high, high, if_pos high⟩
  by_cases low : tv.After minTv
  · refine .inr (.inr ⟨low, high, ?_, ?_⟩)
    · have notBelow : ¬ minTv.After tv := by
        simp only [after_lex] at low ⊢
        omega
      rw [if_neg high, if_neg notBelow]
    · simp only [after_lex, maxTv, minTv] at high low
      omega
  · refine .inr (.inl ⟨low, ?_⟩)
    rw [if_neg high]
    split
    · rfl
    · next notBelow =>
        obtain ⟨sec, usec⟩ := tv
        simp only [after_lex, minTv] at low notBelow
        simp only [minTv, TrdpTime.mk.injEq]
        omega

/-- The thread sleeps for what its time value is limited to. -/
theorem pdSendDelay_toNat (env : IntervalEnv) (s : SendThread)
    : ((pdSendDelay env s).toNat : Int) = (limitTv s.tv).usecs := by
  have small : 0 ≤ (limitTv s.tv).tvUsec ∧ (limitTv s.tv).tvUsec < 4294967296
      ∧ (limitTv s.tv).usecs = (limitTv s.tv).tvUsec := by
    rcases limitTv_cases s.tv with ⟨-, -, eq⟩ | ⟨-, eq⟩ | ⟨-, -, eq, sec, low, high⟩
    · rw [eq]
      decide
    · rw [eq]
      decide
    · rw [eq]
      unfold usecs
      omega
  rw [pdSendDelay, pdSendSleep_eq, BitVec.toNat_ofInt]
  dsimp only
  omega

/-- A round that wakes early enough is timely. -/
theorem RoundTimely.of_wakes {round : SendRound}
    (wakes
      : ∀ ele ∈ s.session.pSndQueue, ele.interval.IsSet
        → ((pdSendDelay round.getInterval s).toNat : Int)
          ≤ max 1000 (ele.timeToGo.usecs - round.getInterval.clock.time.usecs))
    : RoundTimely s round := by
  have delay := pdSendDelay_toNat round.getInterval s
  refine ⟨?_, wakes, ?_⟩
  · have most : maxTv.usecs = 100000 := rfl
    have least : minTv.usecs = 1000 := rfl
    rcases limitTv_cases s.tv with ⟨-, -, eq⟩ | ⟨-, eq⟩ | ⟨-, -, eq, sec, -, below⟩
    · rw [eq] at delay
      omega
    · rw [eq] at delay
      omega
    · rw [eq, usecs, sec] at delay
      omega
  · intro ele member cyclic _ notDue
    have early := wakes ele member cyclic
    omega

/-- A round is timely exactly if the time value on the stack fits the publishers. -/
theorem roundTimely_iff (s : SendThread) (round : SendRound)
    : RoundTimely s round ↔ StackFits s round := by
  have delay := pdSendDelay_toNat round.getInterval s
  have most : maxTv.usecs = 100000 := rfl
  rcases limitTv_cases s.tv with ⟨low, high, eq⟩ | ⟨low, eq⟩ | ⟨low, high, eq, sec, above, below⟩
  · -- the value is above the limit: 100 ms
    rw [eq] at delay
    constructor
    · refine fun timely => .inr fun ele member cyclic => .inl ?_
      have wakes := timely.wakes ele member cyclic
      omega
    · refine fun fits => .of_wakes fun ele member cyclic => ?_
      rcases fits.resolve_left (not_not_intro low) ele member cyclic with late | ⟨notHigh, -⟩
      · omega
      · exact absurd high notHigh
  · -- it is at most 1 ms
    have least : minTv.usecs = 1000 := rfl
    rw [eq] at delay
    exact ⟨fun _ => .inl low, fun _ => .of_wakes fun _ _ _ => by omega⟩
  · -- it is slept for as it is
    rw [eq] at delay
    have long : 1000 < s.tv.usecs := by
      unfold usecs
      omega
    constructor
    · refine fun timely => .inr fun ele member cyclic => .inr ⟨high, ?_⟩
      have wakes := timely.wakes ele member cyclic
      omega
    · refine fun fits => .of_wakes fun ele member cyclic => ?_
      rcases fits.resolve_left (not_not_intro low) ele member cyclic with late | ⟨-, within⟩
      · have small : s.tv.usecs ≤ maxTv.usecs := by
          rw [most, usecs, sec]
          omega
        omega
      · omega

/-- The rounds of a run are timely exactly as far as the time value on the stack fits the
publishers.
-/
theorem send_thread_timely (s : SendThread) (rounds : List SendRound)
    : Along threadProcessPdSend RoundTimely s rounds
      ↔ Along threadProcessPdSend StackFits s rounds := by
  have same : ∀ s round, True → (RoundTimely s round ↔ StackFits s round) :=
    fun s round _ => roundTimely_iff s round
  exact Along.iff_of_invariant (fun _ _ _ _ => trivial) same trivial rounds

/-- A round that sleeps for the 50 ms that are on the stack, 10 ms before the publisher is due. -/
def lateRound : SendRound where
  getInterval :=
    { isValidSession := true
      mutexLock := .noErr
      clock := clockAt 7990
      iface := fun _ => 3
      trdpMdCheckPending := id }
  others := id
  process := ⟨true, .noErr, passAt 8040 44, .noErr⟩

theorem send_thread_late
    : ¬ Along threadProcessPdSend RoundTimely ⟨publishedSession (some [1, 2, 3, 4]), ⟨0, 50000⟩⟩
        [lateRound] := by
  rintro ⟨timely, -⟩
  have fits := (roundTimely_iff _ _).mp timely
  revert fits
  decide +kernel

-----------------------------------------------------------------------------------------
-- Where the time value comes from
-----------------------------------------------------------------------------------------

theorem limitTv_limitTv (tv : TrdpTime) : limitTv (limitTv tv) = limitTv tv := by
  rcases limitTv_cases tv with ⟨-, -, eq⟩ | ⟨-, eq⟩ | ⟨-, -, eq, -⟩
  · rw [eq]
    decide
  · rw [eq]
    decide
  · rw [eq, eq]

/-- No round writes anything but the limits to the time value: the thread sleeps for the same time
in all rounds, whatever happens to the session.
-/
theorem limitTv_run (s : SendThread) (rounds : List SendRound)
    : limitTv (run threadProcessPdSend s rounds).tv = limitTv s.tv := by
  induction rounds generalizing s with
  | nil => rfl
  | cons round rest ih =>
      have once : (threadProcessPdSend s round).tv = limitTv s.tv := by
        simp only [threadProcessPdSend, pdSendSleep_eq]
      rw [run_cons, ih, once, limitTv_limitTv]

/-- The search for the next job finds no later one than it began with, nor than that of any
element with an interval. Induction on the queue: a job that is set is only replaced by an earlier.
-/
theorem foldl_nextJobOf {queue : List PdEle} {nextJob : TrdpTime} (normal : nextJob.Normal)
    (timed : ∀ ele ∈ queue, ele.interval.IsSet → ele.timeToGo.Normal ∧ ele.timeToGo.IsSet)
    : (queue.foldl nextJobOf nextJob).Normal
      ∧ (nextJob.IsSet → (queue.foldl nextJobOf nextJob).IsSet
          ∧ (queue.foldl nextJobOf nextJob).usecs ≤ nextJob.usecs)
      ∧ ∀ ele ∈ queue, ele.interval.IsSet
          → (queue.foldl nextJobOf nextJob).IsSet
            ∧ (queue.foldl nextJobOf nextJob).usecs ≤ ele.timeToGo.usecs := by
  induction queue generalizing nextJob with
  | nil => exact ⟨normal, fun set => ⟨set, le_rfl⟩, fun _ member => absurd member List.not_mem_nil⟩
  | cons ele rest ih =>
      have restTimed := fun ele member => timed ele (List.mem_cons_of_mem _ member)
      have headTimed := timed ele List.mem_cons_self
      rw [List.foldl_cons]
      by_cases taken : ele.interval.IsSet ∧ (nextJob.After ele.timeToGo ∨ ¬ nextJob.IsSet)
      · obtain ⟨eleNormal, eleSet⟩ := headTimed taken.1
        rw [nextJobOf, if_pos taken]
        obtain ⟨resNormal, resEarlier, resAll⟩ := ih eleNormal restTimed
        refine ⟨resNormal, fun set => ⟨(resEarlier eleSet).1, ?_⟩, ?_⟩
        · have later := (after_iff normal eleNormal).mp (taken.2.resolve_right (not_not_intro set))
          have earlier := (resEarlier eleSet).2
          omega
        · intro other member cyclic
          rcases List.mem_cons.mp member with same | later
          · rw [same]
            exact resEarlier eleSet
          · exact resAll other later cyclic
      · rw [nextJobOf, if_neg taken]
        obtain ⟨resNormal, resEarlier, resAll⟩ := ih normal restTimed
        refine ⟨resNormal, resEarlier, ?_⟩
        intro other member cyclic
        rcases List.mem_cons.mp member with same | later
        · subst same
          obtain ⟨eleNormal, -⟩ := headTimed cyclic
          obtain ⟨notLater, set⟩ := not_or.mp (fun either => taken ⟨cyclic, either⟩)
          have set := not_not.mp set
          have earlier := (resEarlier set).2
          have order := mt (after_iff normal eleNormal).mpr notLater
          exact ⟨(resEarlier set).1, by omega⟩
        · exact resAll other later cyclic

/-- An element of the session whose time the session waits for. -/
def TrdpSession.Awaits (session : TrdpSession) (ele : PdEle) : Prop :=
  ele.interval.IsSet
  ∧ (ele ∈ session.pSndQueue ∨ (ele ∈ session.pRcvQueue ∧ ¬ Has ele.privFlags trdpTimedOut))

/-- Given descriptors, as the receiving thread gives them, `tlc_getInterval` returns no more than
the time until the first of the awaited elements is due.
-/
theorem tlcGetInterval_descs {env : IntervalEnv} (valid : env.isValidSession = true)
    (locked : env.mutexLock = .noErr) (tv : TrdpTime) (fileDesc : List Int) (noDesc : Int)
    (timed : ∀ ele, session.Awaits ele → ele.timeToGo.Normal ∧ ele.timeToGo.IsSet)
    : ∃ interval,
        (tlcGetInterval env (some tv) (some fileDesc) (some noDesc) session).2.2.1 = some interval
        ∧ ∀ ele, session.Awaits ele
          → interval.usecs ≤ max 0 (ele.timeToGo.usecs - env.clock.time.usecs) := by
  let queue := (session.pRcvQueue.filter fun ele => ¬ Has ele.privFlags trdpTimedOut)
    ++ session.pSndQueue
  have awaited : ∀ ele, session.Awaits ele ↔ ele.interval.IsSet ∧ ele ∈ queue := by
    intro ele
    simp only [TrdpSession.Awaits, queue, List.mem_append, List.mem_filter, decide_eq_true_eq]
    exact and_congr_right fun _ => Or.comm
  obtain ⟨normal, -, all⟩ := foldl_nextJobOf normal_cleared
    fun ele member cyclic => timed ele ((awaited ele).mpr ⟨cyclic, member⟩)
  have job : (trdpPdCheckPending env.iface ⟨fileDesc, noDesc⟩ session).2.nextJob
      = queue.foldl nextJobOf .cleared := rfl
  generalize queue.foldl nextJobOf .cleared = nextJob at normal all job
  have clock := after_iff normal env.clock.normal
  simp only [tlcGetInterval, valid, locked, job, Bool.not_true, Bool.false_eq_true, if_false,
    ne_eq, not_true_eq_false]
  by_cases set : nextJob.IsSet
  · by_cases later : nextJob.After env.clock.time
    · rw [if_pos ⟨set, later⟩]
      refine ⟨_, rfl, fun ele awaits => ?_⟩
      obtain ⟨cyclic, member⟩ := (awaited ele).mp awaits
      have earliest := (all ele member cyclic).2
      rw [usecs_vosSubTime]
      omega
    · rw [if_neg (fun both => later both.2), if_pos set]
      refine ⟨_, rfl, fun ele _ => ?_⟩
      exact le_max_left 0 _
  · rw [if_neg (fun both => set both.1), if_neg set]
    refine ⟨_, rfl, fun ele awaits => ?_⟩
    obtain ⟨cyclic, member⟩ := (awaited ele).mp awaits
    exact absurd (all ele member cyclic).1 set

end TsnTrdp.Trdp
