import TsnTrdp.Trdp.Reception
import TsnTrdp.Lib.Run

/-! Outages. A subscription with an interval is counted and reported late once, at the first scan
at or after its deadline, until it accepts a telegram again.
-/

namespace TsnTrdp.Trdp

open TsnTrdp.Run

/-- What happens to the receive queue: a datagram is received, or it is scanned. -/
inductive TimedEvent
  | receive (env : RecvEnv) (found : Recvmsg)
  | scan (clock : Clock)

/-- A session, with what one of its subscriptions went through since `armed`, the time at which it
last accepted a telegram, if it has `accepted` one, or was subscribed: when it was scanned, and how
often it was counted and reported late.
-/
structure Watched where
  session : TrdpSession
  armed : TrdpTime
  accepted : Bool
  scans : List TrdpTime
  counted : Nat
  reported : Nat

def Watched.start (session : TrdpSession) (armed : TrdpTime) : Watched :=
  ⟨session, armed, false, [], 0, 0⟩

/-- The subscriptions at `handle` that a scan counts late. -/
def lateAt (handle : Nat) (now : TrdpTime) (session : TrdpSession) : Nat :=
  ((session.pRcvQueue.filter fun ele => ele.Late now).filter (PdEle.isAt handle)).length

/-- The callbacks that report the subscription at `handle` late. -/
def reportsOf (handle : Nat) (callbacks : List PdCallback) : Nat :=
  (callbacks.filter fun call =>
    call.handle = handle ∧ call.message.resultCode = .timeoutErr).length

def watchStep (handle : Nat) (s : Watched) : TimedEvent → Option Watched
  | .receive env found =>
      (trdpPdReceive env found s.session).map fun result =>
        if result.AcceptedBy handle then
          ⟨result.session, env.clock.time, true, [], 0, reportsOf handle result.callbacks⟩
        else
          { s with
            session := result.session
            reported := s.reported + reportsOf handle result.callbacks }
  | .scan clock =>
      some
        { s with
          session := (trdpPdHandleTimeOuts clock s.session).1
          scans := s.scans ++ [clock.time]
          counted := s.counted + lateAt handle clock.time s.session
          reported := s.reported + reportsOf handle (trdpPdHandleTimeOuts clock s.session).2 }

/-- What a step adds to the timeouts of the statistics: one for each subscription that it counts
late.
-/
def countedBy (session : TrdpSession) : TimedEvent → Nat
  | .receive _ _ => 0
  | .scan clock =>
      (session.pRcvQueue.map fun ele => lateAt ele.handle clock.time session).sum

/-- Some scan was at or after the deadline. -/
def Watched.Out (interval : TrdpTime) (s : Watched) : Prop :=
  ∃ now ∈ s.scans, s.armed.usecs + interval.usecs ≤ now.usecs

instance (interval : TrdpTime) (s : Watched) : Decidable (s.Out interval) :=
  inferInstanceAs (Decidable (∃ _ ∈ s.scans, _))

/-- What is asked of a subscription in every state: it was counted once, and reported as often as
`calls` says, if it is out, and not at all otherwise; reading it tells so.
-/
structure OncePerOutage (handle : Nat) (interval : TrdpTime) (calls : Nat) (s : Watched)
    : Prop where
  counted : s.counted = if s.Out interval then 1 else 0
  reported : s.reported = if s.Out interval then calls else 0
  statistics
    : ∀ event next, watchStep handle s event = some next
        → next.session.stats.numTimeout
          = s.session.stats.numTimeout + BitVec.ofNat 32 (countedBy s.session event)
  subscribed : ∃ ele ∈ s.session.pRcvQueue, ele.handle = handle
  out
    : s.Out interval
      → ∀ ele ∈ s.session.pRcvQueue, ele.handle = handle
      → ∀ unmarshall pDataSize,
        (trdpPdGet unmarshall pDataSize ele).1 = .nodataErr
        ∨ (trdpPdGet unmarshall pDataSize ele).1 = .timeoutErr
  cleared
    : ¬ s.Out interval
      → s.accepted = true
      → ∀ ele ∈ s.session.pRcvQueue, ele.handle = handle
      → ∀ unmarshall, (trdpPdGet unmarshall none ele).1 = .noErr

variable {session : TrdpSession} {ele : PdEle} {clock : Clock} {now period : TrdpTime}
  {handle : Nat} {function : Option Nat} {s : Watched}

/-- The element after a scan. -/
def PdEle.scanned (now : TrdpTime) (ele : PdEle) : PdEle :=
  if ele.Late now then ele.timeOut else ele

@[simp] theorem PdEle.scanned_handle : (ele.scanned now).handle = ele.handle := by
  unfold PdEle.scanned
  split <;> rfl

theorem DistinctHandles.scanned (distinct : DistinctHandles session) (clock : Clock)
    : DistinctHandles (trdpPdHandleTimeOuts clock session).1 := by
  have handles : (trdpPdHandleTimeOuts clock session).1.pRcvQueue.map PdEle.handle
      = session.pRcvQueue.map PdEle.handle := by
    unfold trdpPdHandleTimeOuts
    rw [List.map_map]
    exact List.map_congr_left fun ele _ => PdEle.scanned_handle
  unfold DistinctHandles
  rwa [handles]

theorem trdpPdHandleTimeOuts_mem (member : ele ∈ session.pRcvQueue)
    : ele.scanned clock.time ∈ (trdpPdHandleTimeOuts clock session).1.pRcvQueue :=
  List.mem_map_of_mem member

/-- The other elements are at other addresses. -/
theorem split_of_distinct (distinct : DistinctHandles session)
    (member : ele ∈ session.pRcvQueue)
    : ∃ before after, session.pRcvQueue = before ++ ele :: after
        ∧ (∀ other ∈ before, other.handle ≠ ele.handle)
        ∧ ∀ other ∈ after, other.handle ≠ ele.handle := by
  obtain ⟨before, after, whole⟩ := List.append_of_mem member
  unfold DistinctHandles at distinct
  rw [whole, List.map_append, List.map_cons, List.nodup_middle, List.nodup_cons,
    List.mem_append] at distinct
  obtain ⟨apart, -⟩ := distinct
  refine ⟨before, after, whole, fun other is same => apart (Or.inl ?_),
    fun other is same => apart (Or.inr ?_)⟩
  · exact same ▸ List.mem_map_of_mem is
  · exact same ▸ List.mem_map_of_mem is

/-- Nothing is counted or reported at an address that no element has. -/
theorem filter_late_isAt {others : List PdEle} (apart : ∀ other ∈ others, other.handle ≠ handle)
    : (others.filter fun ele => ele.Late now).filter (PdEle.isAt handle) = [] := by
  rw [List.filter_eq_nil_iff]
  intro other late
  have misses := apart other (List.mem_of_mem_filter late)
  simpa [PdEle.isAt] using misses

theorem timeOutCallback_handle {call : PdCallback} (calls : call ∈ timeOutCallback ele)
    : call.handle = ele.handle ∧ call.message.resultCode = .timeoutErr := by
  obtain ⟨function, -, rfl⟩ := List.mem_map.mp calls
  exact ⟨rfl, rfl⟩

theorem reportsOf_apart {others : List PdEle} (apart : ∀ other ∈ others, other.handle ≠ handle)
    : reportsOf handle ((others.filter fun ele => ele.Late now).flatMap timeOutCallback) = 0 := by
  unfold reportsOf
  rw [List.length_eq_zero_iff, List.filter_eq_nil_iff]
  intro call calls
  obtain ⟨other, late, calls⟩ := List.mem_flatMap.mp calls
  have misses := apart other (List.mem_of_mem_filter late)
  rw [← (timeOutCallback_handle calls).1] at misses
  simp [misses]

@[simp] theorem reportsOf_append (first second : List PdCallback)
    : reportsOf handle (first ++ second) = reportsOf handle first + reportsOf handle second := by
  simp [reportsOf]

theorem reportsOf_timeOutCallback
    : reportsOf ele.handle (timeOutCallback ele) = ele.pfCbFunction.isSome.toNat := by
  unfold reportsOf
  rw [List.filter_eq_self.mpr fun call calls => decide_eq_true (timeOutCallback_handle calls)]
  unfold timeOutCallback
  cases ele.pfCbFunction with
  | none => rfl
  | some function => rfl

/-- A scan counts a late subscription once. -/
theorem lateAt_eq (distinct : DistinctHandles session) (member : ele ∈ session.pRcvQueue)
    : lateAt ele.handle now session = if ele.Late now then 1 else 0 := by
  obtain ⟨before, after, whole, apartBefore, apartAfter⟩ := split_of_distinct distinct member
  unfold lateAt
  rw [whole, List.filter_append, List.filter_append, filter_late_isAt apartBefore,
    List.nil_append, List.filter_cons]
  by_cases late : ele.Late now
  · simp [late, PdEle.isAt, filter_late_isAt apartAfter]
  · simp [late, filter_late_isAt apartAfter]

/-- A scan reports it once, if there is a function to call. -/
theorem reportsOf_scan (distinct : DistinctHandles session) (member : ele ∈ session.pRcvQueue)
    : reportsOf ele.handle (trdpPdHandleTimeOuts clock session).2
      = if ele.Late clock.time then ele.pfCbFunction.isSome.toNat else 0 := by
  obtain ⟨before, after, whole, apartBefore, apartAfter⟩ := split_of_distinct distinct member
  unfold trdpPdHandleTimeOuts
  dsimp only
  rw [whole, List.filter_append, List.flatMap_append, reportsOf_append,
    reportsOf_apart apartBefore, Nat.zero_add, List.filter_cons]
  by_cases late : ele.Late clock.time
  · simp [late, reportsOf_timeOutCallback, reportsOf_apart apartAfter]
  · simp [late, reportsOf_apart apartAfter]

/-- The late subscriptions of a scan, counted one by one. -/
theorem countedBy_scan (distinct : DistinctHandles session)
    : countedBy session (.scan clock)
      = (session.pRcvQueue.filter fun ele => ele.Late clock.time).length := by
  have each : session.pRcvQueue.map (fun ele => lateAt ele.handle clock.time session)
      = session.pRcvQueue.map fun ele => if ele.Late clock.time then 1 else 0 :=
    List.map_congr_left fun ele member => lateAt_eq distinct member
  dsimp only [countedBy]
  rw [each]
  induction session.pRcvQueue with
  | nil => rfl
  | cons head rest ih =>
      rw [List.map_cons, List.sum_cons, ih, List.filter_cons]
      by_cases late : head.Late clock.time
      · simp [late, Nat.add_comm]
      · simp [late]

variable {env : RecvEnv} {found : Recvmsg} {result : RecvResult}

/-- No callback of a reception reports a timeout. -/
theorem reportsOf_reception (received : trdpPdReceive env found session = some result)
    : reportsOf handle result.callbacks = 0 := by
  have silent : ∀ call ∈ result.callbacks, call.message.resultCode = .noErr := by
    intro call calls
    cases trdpPdReceive_cases received with
    | refused _ refused =>
        rw [refused.callbacks] at calls
        cases calls
    | unsubscribed _ _ _ _ _ _ none _ _ =>
        rw [none] at calls
        cases calls
    | routed _ _ _ _ handled _ _ handles _ _ made _ _ =>
        rw [made] at calls
        obtain ⟨check, list, -, ⟨-, accepts⟩ | ⟨-, ignored⟩⟩ := pdHandle_cases handles
        · rw [accepts.callbacks] at calls
          split at calls
          · unfold receiveCallback at calls
            split at calls
            · obtain ⟨function, -, rfl⟩ := List.mem_map.mp calls
              rfl
            · cases calls
          · cases calls
        · rw [ignored.callbacks] at calls
          cases calls
  unfold reportsOf
  rw [List.length_eq_zero_iff, List.filter_eq_nil_iff]
  intro call calls
  simp [silent call calls]

theorem pdDeliver_numTimeout {informUser : Bool} {datagram : Datagram} {telegrams : List Telegram}
    (delivers : pdDeliver env informUser datagram session telegrams = some result)
    : result.session.stats.numTimeout = session.stats.numTimeout := by
  cases matched : trdpQueueFindSubAddr session.pRcvQueue
      (datagram.addr session.pNewFrame.frameHead) with
  | none =>
      rw [pdDeliver_none matched] at delivers
      obtain rfl := Option.some.inj delivers
      rfl
  | some ele =>
      rw [pdDeliver_some matched] at delivers
      obtain ⟨handled, -, rfl⟩ := Option.map_eq_some_iff.mp delivers
      rfl

theorem PdStatistics.count_numTimeout (stats : PdStatistics) (err : TrdpErr)
    : (stats.count err).numTimeout = stats.numTimeout := by
  cases err <;> rfl

/-- No reception counts a timeout. -/
theorem trdpPdReceive_numTimeout (received : trdpPdReceive env found session = some result)
    : result.session.stats.numTimeout = session.stats.numTimeout := by
  unfold trdpPdReceive at received
  split at received
  · obtain rfl := Option.some.inj received
    rfl
  dsimp only at received
  split at received
  · obtain rfl := Option.some.inj received
    exact PdStatistics.count_numTimeout _ _
  split at received
  · obtain rfl := Option.some.inj received
    exact PdStatistics.count_numTimeout _ _
  split at received
  · rw [pdDeliver_numTimeout received]
    exact PdStatistics.count_numTimeout _ _
  · rename_i answered pulled
    rw [pdDeliver_numTimeout received]
    split at pulled
    · obtain ⟨ele, -, rfl⟩ := Option.map_eq_some_iff.mp pulled
      exact PdStatistics.count_numTimeout _ _
    · cases pulled

-----------------------------------------------------------------------------------------
-- Runs
-----------------------------------------------------------------------------------------

/-- The subscription holds its deadline, and is flagged late once it is out. -/
structure Watching (period : TrdpTime) (function : Option Nat) (s : Watched) (ele : PdEle)
    : Prop where
  comId : ele.addr.comId ≠ trdpStatisticsPullComid
  interval : ele.interval = period
  timeToGo : ele.timeToGo = vosAddTime s.armed period
  pfCbFunction : ele.pfCbFunction = function
  timedOut : Has ele.privFlags trdpTimedOut ↔ s.Out period
  valid : s.accepted = true → ¬ Has ele.privFlags trdpInvalidData

structure WatchInv (handle : Nat) (period : TrdpTime) (function : Option Nat) (s : Watched)
    : Prop where
  distinct : DistinctHandles s.session
  normal : s.armed.Normal
  element
    : ∃ ele ∈ s.session.pRcvQueue, ele.handle = handle ∧ Watching period function s ele
  counted : s.counted = if s.Out period then 1 else 0
  reported : s.reported = if s.Out period then function.isSome.toNat else 0

/-- The subscription is late from its deadline on, until it is flagged. -/
theorem Watching.late_iff (watching : Watching period function s ele) (set : period.IsSet)
    (armed : s.armed.Normal) (carries : period.Normal) (normal : now.Normal)
    : ele.Late now ↔ s.armed.usecs + period.usecs ≤ now.usecs ∧ ¬ s.Out period := by
  have deadline := normal_vosAddTime armed carries
  have positive := (TrdpTime.isSet_iff carries).mp set
  have some : (vosAddTime s.armed period).IsSet := by
    rw [TrdpTime.isSet_iff deadline, usecs_vosAddTime]
    have nonneg : 0 ≤ s.armed.usecs := by
      obtain ⟨sec, usec, -⟩ := armed
      unfold TrdpTime.usecs
      omega
    omega
  unfold PdEle.Late
  rw [watching.interval, watching.timeToGo, watching.timedOut,
    TrdpTime.after_iff deadline normal, usecs_vosAddTime, not_lt]
  constructor
  · rintro ⟨-, -, due, still, -⟩
    exact ⟨due, still⟩
  · rintro ⟨due, still⟩
    exact ⟨set, some, due, still, watching.comId⟩

/-- A scan flags a subscription that is late, and changes nothing else that is watched. -/
theorem PdEle.scanned_timedOut (ele : PdEle) (now : TrdpTime)
    : Has (ele.scanned now).privFlags trdpTimedOut
      ↔ Has ele.privFlags trdpTimedOut ∨ ele.Late now := by
  unfold PdEle.scanned
  by_cases late : ele.Late now
  · rw [if_pos late]
    exact iff_of_true (has_or_self (by decide)) (Or.inr late)
  · rw [if_neg late]
    exact (or_iff_left late).symm

theorem Watching.scan (watching : Watching period function s ele) {s' : Watched}
    (armed : s'.armed = s.armed) (accepted : s'.accepted = s.accepted)
    (out : s'.Out period ↔ s.Out period ∨ ele.Late now)
    : Watching period function s' (ele.scanned now) := by
  have flagged : Has (ele.scanned now).privFlags trdpTimedOut ↔ s'.Out period :=
    (ele.scanned_timedOut now).trans ((or_congr_left watching.timedOut).trans out.symm)
  unfold PdEle.scanned at flagged ⊢
  by_cases late : ele.Late now
  · rw [if_pos late] at flagged ⊢
    refine ⟨watching.comId, watching.interval, watching.timeToGo.trans (by rw [armed]),
      watching.pfCbFunction, flagged, fun valid => ?_⟩
    rw [accepted] at valid
    exact mt (has_or_of_disjoint (by decide)).mp (watching.valid valid)
  · rw [if_neg late] at flagged ⊢
    refine ⟨watching.comId, watching.interval, watching.timeToGo.trans (by rw [armed]),
      watching.pfCbFunction, flagged, fun valid => ?_⟩
    rw [accepted] at valid
    exact watching.valid valid

/-- What happens when something becomes true happens once. -/
theorem ite_once {p q : Prop} [Decidable p] [Decidable q] (amount : Nat)
    : (if p then amount else 0) + (if q ∧ ¬ p then amount else 0)
      = if p ∨ q then amount else 0 := by
  by_cases already : p
  · simp [already]
  · simp [already]

section

variable (set : period.IsSet) (carries : period.Normal)
include set carries

/-- A scan keeps the invariant: the subscription is counted and reported when it goes out. -/
theorem scan_keeps (inv : WatchInv handle period function s) {next : Watched}
    (stepped : watchStep handle s (.scan clock) = some next)
    : WatchInv handle period function next := by
  obtain rfl := Option.some.inj stepped
  obtain ⟨ele, member, rfl, watching⟩ := inv.element
  have late := watching.late_iff set inv.normal carries clock.normal
  let next : Watched :=
    { s with
      session := (trdpPdHandleTimeOuts clock s.session).1
      scans := s.scans ++ [clock.time]
      counted := s.counted + lateAt ele.handle clock.time s.session
      reported := s.reported + reportsOf ele.handle (trdpPdHandleTimeOuts clock s.session).2 }
  have goesOut : next.Out period ↔ s.Out period
      ∨ s.armed.usecs + period.usecs ≤ clock.time.usecs := by
    simp [next, Watched.Out, or_and_right, exists_or]
  refine ⟨inv.distinct.scanned clock, inv.normal,
    ⟨ele.scanned clock.time, trdpPdHandleTimeOuts_mem member, ele.scanned_handle,
      watching.scan rfl rfl ?_⟩, ?_, ?_⟩
  · rw [goesOut, late]
    tauto
  · show s.counted + lateAt ele.handle clock.time s.session = if next.Out period then 1 else 0
    simp only [inv.counted, lateAt_eq inv.distinct member, late, ite_once, goesOut]
  · show s.reported + reportsOf ele.handle (trdpPdHandleTimeOuts clock s.session).2
      = if next.Out period then function.isSome.toNat else 0
    simp only [inv.reported, reportsOf_scan inv.distinct member, watching.pfCbFunction, late,
      ite_once, goesOut]

omit set carries in
/-- What a subscription accepts arms it again; nothing else that is received touches it. -/
theorem receive_keeps (inv : WatchInv handle period function s) {next : Watched}
    (stepped : watchStep handle s (.receive env found) = some next)
    : WatchInv handle period function next := by
  obtain ⟨result, received, rfl⟩ := Option.map_eq_some_iff.mp stepped
  obtain ⟨ele, member, rfl, watching⟩ := inv.element
  have distinct := inv.distinct.received received
  have silent : reportsOf ele.handle result.callbacks = 0 := reportsOf_reception received
  obtain ⟨ele', member', ⟨accepted, refreshed⟩ | ⟨ignored, kept⟩⟩ :=
    trdpPdReceive_element inv.distinct received member
  · rw [if_pos accepted, silent]
    refine ⟨distinct, env.clock.normal, ⟨ele', member', refreshed.handle, ?_⟩, ?_, ?_⟩
    · have unflagged : ¬ Has ele'.privFlags trdpTimedOut := by
        rw [refreshed.privFlags, has_without_of_disjoint (by decide)]
        exact not_has_without
      refine ⟨refreshed.comId ▸ watching.comId, refreshed.interval.trans watching.interval, ?_,
        refreshed.pfCbFunction.trans watching.pfCbFunction, ?_, fun _ => ?_⟩
      · rw [refreshed.timeToGo, watching.interval]
      · exact iff_of_false unflagged (by simp [Watched.Out])
      · rw [refreshed.privFlags]
        exact not_has_without
    · simp [Watched.Out]
    · simp [Watched.Out]
  · rw [if_neg ignored, silent, Nat.add_zero]
    refine ⟨distinct, inv.normal, ⟨ele', member', kept.handle, ?_⟩, inv.counted, inv.reported⟩
    exact
      { comId := kept.comId ▸ watching.comId
        interval := kept.interval.trans watching.interval
        timeToGo := kept.timeToGo.trans watching.timeToGo
        pfCbFunction := kept.pfCbFunction.trans watching.pfCbFunction
        timedOut := kept.privFlags ▸ watching.timedOut
        valid := kept.privFlags ▸ watching.valid }

theorem watchStep_keeps (event : TimedEvent) (next : Watched)
    (inv : WatchInv handle period function s) (stepped : watchStep handle s event = some next)
    : WatchInv handle period function next := by
  cases event with
  | receive env found => exact receive_keeps inv stepped
  | scan clock => exact scan_keeps set carries inv stepped

end

theorem watchStep_numTimeout (distinct : DistinctHandles s.session) (event : TimedEvent)
    (next : Watched) (stepped : watchStep handle s event = some next)
    : next.session.stats.numTimeout
      = s.session.stats.numTimeout + BitVec.ofNat 32 (countedBy s.session event) := by
  cases event with
  | receive env found =>
      obtain ⟨result, received, rfl⟩ := Option.map_eq_some_iff.mp stepped
      have same := trdpPdReceive_numTimeout received
      dsimp only [countedBy]
      split
      · simpa using same
      · simpa using same
  | scan clock =>
      obtain rfl := Option.some.inj stepped
      rw [countedBy_scan distinct]
      rfl

/-- Reading a subscription that is flagged late fails. -/
theorem trdpPdGet_err (unmarshall : Option TrdpMarshall) (pDataSize : Option U32)
    (flagged : Has ele.privFlags trdpTimedOut)
    : (trdpPdGet unmarshall pDataSize ele).1 = .nodataErr
      ∨ (trdpPdGet unmarshall pDataSize ele).1 = .timeoutErr := by
  unfold trdpPdGet
  dsimp only
  by_cases invalid : Has ele.privFlags trdpInvalidData
  · rw [if_pos invalid]
    exact Or.inl rfl
  · rw [if_neg invalid, if_pos flagged]
    exact Or.inr rfl

theorem trdpPdGet_noErr (unmarshall : Option TrdpMarshall)
    (timely : ¬ Has ele.privFlags trdpTimedOut) (valid : ¬ Has ele.privFlags trdpInvalidData)
    : (trdpPdGet unmarshall none ele).1 = .noErr := by
  unfold trdpPdGet
  dsimp only
  rw [if_neg valid, if_neg timely]

/-- A state in which the invariant holds is as asked. -/
theorem WatchInv.once (inv : WatchInv handle period function s)
    : OncePerOutage handle period function.isSome.toNat s := by
  obtain ⟨ele, member, own, watching⟩ := inv.element
  have unique : ∀ other ∈ s.session.pRcvQueue, other.handle = handle → other = ele :=
    fun other is same => List.inj_on_of_nodup_map inv.distinct is member (same.trans own.symm)
  refine
    ⟨inv.counted, inv.reported, watchStep_numTimeout inv.distinct, ⟨ele, member, own⟩, ?_, ?_⟩
  · intro out other is same unmarshall pDataSize
    obtain rfl := unique other is same
    exact trdpPdGet_err unmarshall pDataSize (watching.timedOut.mpr out)
  · intro still accepted other is same unmarshall
    obtain rfl := unique other is same
    exact trdpPdGet_noErr unmarshall (mt watching.timedOut.mp still) (watching.valid accepted)

-----------------------------------------------------------------------------------------
-- From the subscription on
-----------------------------------------------------------------------------------------

variable {subscribe : SubscribeEnv} {args : SubscribeArgs} {subscribed : TrdpSession}

/-- The timeout of a subscription is not 0 where the default one is not. -/
theorem SubscribeArgs.period_ne_zero {pdDefault : PdConfig} (configured : pdDefault.timeout ≠ 0)
    : args.period pdDefault ≠ 0 := by
  unfold SubscribeArgs.period
  split
  · exact configured
  · rename_i given
    split
    · decide
    · exact given

/-- A new subscription is watched from its deadline on. -/
theorem newSubscription_inv (distinct : DistinctHandles session)
    (fresh : ∀ ele ∈ session.pRcvQueue, ele.handle ≠ subscribe.handle)
    (finite : args.period session.pdDefault ≠ trdpTimerForever)
    (supervised : args.comId ≠ trdpStatisticsPullComid)
    (subscribes : tlpSubscribe subscribe args session = (.noErr, subscribed))
    : WatchInv subscribe.handle (.ofUsecs (args.period session.pdDefault).toNat)
        (args.pfCbFunction.orElse fun _ => session.pdDefault.pfCbFunction)
        (.start subscribed subscribe.clock.time) := by
  obtain ⟨socketIdx, rfl⟩ := tlpSubscribe_done subscribes
  refine ⟨distinct.subscribed fresh, subscribe.clock.normal,
    ⟨newSubscription subscribe args session socketIdx, ?_, rfl, ?_⟩, ?_, ?_⟩
  · exact List.mem_append_right _ (List.mem_singleton_self _)
  · refine ⟨supervised, if_neg finite, ?_, rfl, ?_, nofun⟩
    · exact (if_neg finite).trans (congrArg (vosAddTime _) (if_neg finite))
    · refine iff_of_false ?_ (by simp [Watched.start, Watched.Out])
      dsimp only [newSubscription]
      split
      · decide
      · decide
  · simp [Watched.start, Watched.Out]
  · simp [Watched.start, Watched.Out]

/-- In every run of receptions and scans from a subscription on, the subscription is counted once
per outage, reported once per outage if there is a function to call, and read as timed out until it
accepts a telegram again.
-/
theorem timeouts_once (distinct : DistinctHandles session)
    (fresh : ∀ ele ∈ session.pRcvQueue, ele.handle ≠ subscribe.handle)
    (configured : session.pdDefault.timeout ≠ 0)
    (finite : args.period session.pdDefault ≠ trdpTimerForever)
    (supervised : args.comId ≠ trdpStatisticsPullComid)
    (subscribes : tlpSubscribe subscribe args session = (.noErr, subscribed))
    (events : List TimedEvent)
    (reached
      : run (faulting (watchStep subscribe.handle)) (some (.start subscribed subscribe.clock.time))
        events = some s)
    : OncePerOutage subscribe.handle (.ofUsecs (args.period session.pdDefault).toNat)
        (args.pfCbFunction.orElse fun _ => session.pdDefault.pfCbFunction).isSome.toNat s := by
  have carries := TrdpTime.normal_ofUsecs (args.period session.pdDefault).toNat
  have set : (TrdpTime.ofUsecs (args.period session.pdDefault).toNat).IsSet := by
    rw [TrdpTime.isSet_iff carries, TrdpTime.usecs_ofUsecs]
    have nonzero : args.period session.pdDefault ≠ 0 := SubscribeArgs.period_ne_zero configured
    exact Int.natCast_pos.mpr (Nat.pos_of_ne_zero (BitVec.toNat_ne.mp nonzero))
  have start := newSubscription_inv distinct fresh finite supervised subscribes
  exact (faulting_reaches (fun _ event next => watchStep_keeps set carries event next) start
    reached).once

/-- A subscription of comId 1000 with a function to call, that is out after 100 ms. -/
def supervisedArgs : SubscribeArgs := { polled 0 0 with pfCbFunction := some 1 }

/-- A telegram at 10 ms, and scans before, at and after the deadline of 110 ms. -/
def outage : List TimedEvent :=
  [.receive (receiveAt (clockAt 10))
    (.datagram (telegramBytes trdpMsgPd 1000 1 [1, 2, 3, 4]) 0x0a000002 0x0a000001),
    .scan (clockAt 109), .scan (clockAt 110), .scan (clockAt 200)]

theorem timeouts_once_outage
    : ∃ s,
        run (faulting (watchStep 1))
          (some (.start (tlpSubscribe (subscribeAt (clockAt 0) 1) supervisedArgs openedSession).2
            (clockAt 0).time)) outage = some s
        ∧ s.reported = 1
        ∧ OncePerOutage 1 (.ofUsecs 100000) 1 s := by
  have computed :
      (run (faulting (watchStep 1))
        (some (.start (tlpSubscribe (subscribeAt (clockAt 0) 1) supervisedArgs openedSession).2
          (clockAt 0).time)) outage).map Watched.reported = some 1 := by
    decide +kernel
  obtain ⟨s, reached, reported⟩ := Option.map_eq_some_iff.mp computed
  have subscribes : tlpSubscribe (subscribeAt (clockAt 0) 1) supervisedArgs openedSession
      = (.noErr, (tlpSubscribe (subscribeAt (clockAt 0) 1) supervisedArgs openedSession).2) :=
    Prod.ext (by decide +kernel) rfl
  have distinct : DistinctHandles openedSession := List.nodup_nil
  have fresh : ∀ ele ∈ openedSession.pRcvQueue, ele.handle ≠ 1 :=
    fun ele none => absurd none List.not_mem_nil
  exact ⟨s, reached, reported, timeouts_once distinct fresh (by decide) (by decide) (by decide)
    subscribes outage reached⟩

end TsnTrdp.Trdp
