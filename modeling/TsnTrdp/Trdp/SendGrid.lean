import TsnTrdp.Trdp.PullAddress
import TsnTrdp.Trdp.Withdraw

/-! The grid of the send times. A publisher starts at a multiple of ten milliseconds that its comId
gives, its interval leads from one such time to the next, and a time that has passed is taken up
again from the clock, rounded down.
-/

namespace TsnTrdp.Trdp

open TsnTrdp.Run TsnTrdp.Queue TrdpTime

/-- A normalised time that is a multiple of ten milliseconds. -/
structure OnGrid (t : TrdpTime) : Prop where
  usec : 0 ≤ t.tvUsec
  carry : t.tvUsec < 1000000
  multiple : t.tvUsec % 10000 = 0

instance (t : TrdpTime) : Decidable (OnGrid t) :=
  decidable_of_iff (_ ∧ _ ∧ _)
    ⟨fun ⟨usec, carry, multiple⟩ => ⟨usec, carry, multiple⟩,
      fun grid => ⟨grid.usec, grid.carry, grid.multiple⟩⟩

variable {a b timeToGo interval now : TrdpTime}

/-- A second is a multiple as well, so that the carry stays on the grid. -/
theorem OnGrid.vosAddTime (first : OnGrid a) (second : OnGrid b) : OnGrid (vosAddTime a b) := by
  obtain ⟨aUsec, aCarry, aMultiple⟩ := first
  obtain ⟨bUsec, bCarry, bMultiple⟩ := second
  unfold Trdp.vosAddTime timeradd
  dsimp only
  split
  · refine ⟨?_, ?_, ?_⟩ <;> dsimp only <;> omega
  · refine ⟨?_, ?_, ?_⟩ <;> dsimp only <;> omega

/-- The sum of a clock reading and an interval has no grid, but it is normalised. -/
theorem onGrid_nextTimeToGo (timer : OnGrid timeToGo) (period : OnGrid interval)
    (clock : now.Normal)
    : OnGrid (nextTimeToGo timeToGo interval now) := by
  unfold nextTimeToGo
  dsimp only
  split
  · have sum : 0 ≤ (Trdp.vosAddTime now interval).tvUsec
        ∧ (Trdp.vosAddTime now interval).tvUsec < 1000000 := by
      obtain ⟨-, usec, carry⟩ := clock
      obtain ⟨usec', carry', -⟩ := period
      unfold Trdp.vosAddTime timeradd
      dsimp only
      split <;> dsimp only <;> omega
    have round := Int.tmod_eq_emod_of_nonneg (b := 10000) sum.1
    refine ⟨?_, ?_, ?_⟩ <;> dsimp only <;> omega
  · exact timer.vosAddTime period

theorem onGrid_firstTimeToGo (comId : U32) (now : TrdpTime) : OnGrid (firstTimeToGo comId now) := by
  unfold firstTimeToGo
  refine ⟨?_, ?_, ?_⟩ <;> dsimp only <;> omega

theorem onGrid_ofUsecs {count : Nat} (multiple : count % 10000 = 0) : OnGrid (.ofUsecs count) := by
  unfold ofUsecs
  refine ⟨?_, ?_, ?_⟩ <;> dsimp only <;> omega

/-- A publisher whose next time is on the grid, if it is cyclic, with an interval that keeps it
there.
-/
structure PdEle.Gridded (ele : PdEle) : Prop where
  interval : ele.interval.IsSet → OnGrid ele.interval
  timeToGo : ele.interval.IsSet → OnGrid ele.timeToGo

variable {ele ele' : PdEle} {env : SendEnv} {session next : TrdpSession}

theorem PdEle.Gridded.same (gridded : ele.Gridded) (interval : ele'.interval = ele.interval)
    (timeToGo : ele'.timeToGo = ele.timeToGo)
    : ele'.Gridded where
  interval cyclic := interval ▸ gridded.interval (interval ▸ cyclic)
  timeToGo cyclic := timeToGo ▸ gridded.timeToGo (interval ▸ cyclic)

/-- A turn moves the time by `nextTimeToGo` or not at all. -/
theorem PdEle.Gridded.turn (gridded : ele.Gridded) (clock : now.Normal)
    (etbTopoCnt opTrnTopoCnt : U32) (udp : UdpSend)
    (left : (pdSendTurn etbTopoCnt opTrnTopoCnt now udp ele).ele = some ele')
    : ele'.Gridded := by
  by_cases acts : ele.Due now ∨ Has ele.privFlags trdpReq2bSent
  · obtain ⟨after, rescheduled, stays, -, -⟩ :=
      pdSendTurn_acts etbTopoCnt opTrnTopoCnt udp acts
    rw [stays] at left
    obtain ⟨-, same⟩ := Option.ite_none_left_eq_some.mp left
    obtain rfl := Option.some.inj same
    have period := rescheduled.same.interval
    refine ⟨fun cyclic => period ▸ gridded.interval (period ▸ cyclic), fun cyclic => ?_⟩
    have timer := gridded.timeToGo (period ▸ cyclic)
    rw [rescheduled.timeToGo]
    split
    · exact timer
    split
    · rename_i set
      exact onGrid_nextTimeToGo timer (gridded.interval set) clock
    · exact timer
  · rw [pdSendTurn_idle acts] at left
    obtain rfl := Option.some.inj left
    exact gridded

/-- What `tlp_publish` makes of an interval of whole multiples. -/
theorem newPublisher_gridded (env : PublishEnv) {args : PublishArgs} (session : TrdpSession)
    (socketIdx : Int) (multiple : args.interval.toNat % 10000 = 0)
    : (newPublisher env args session socketIdx).Gridded := by
  by_cases pull : args.interval = 0
  · have unset : ¬ (newPublisher env args session socketIdx).interval.IsSet := by
      have cleared : (newPublisher env args session socketIdx).interval = .cleared := if_pos pull
      rw [cleared]
      decide
    exact ⟨fun cyclic => absurd cyclic unset, fun cyclic => absurd cyclic unset⟩
  · have interval : (newPublisher env args session socketIdx).interval
        = .ofUsecs args.interval.toNat := if_neg pull
    have timeToGo : (newPublisher env args session socketIdx).timeToGo
        = firstTimeToGo args.comId env.clock.time := if_neg pull
    exact ⟨fun _ => interval ▸ onGrid_ofUsecs multiple,
      fun _ => timeToGo ▸ onGrid_firstTimeToGo _ _⟩

inductive GridEvent
  | publish (env : PublishEnv) (args : PublishArgs)
  | unpublish (handle : Nat)
  | put (handle : Nat) (alloc : Bool) (pData : Option (List U8)) (dataSize : U32)
  | receive (env : RecvEnv) (found : Recvmsg)
  | sendQueued (env : SendEnv)

/-- What a step copies stays within the frame that it is copied to. -/
def GridEvent.Within (session : TrdpSession) : GridEvent → Prop
  | .publish env args => TlpPublishWithin env args session
  | .put handle alloc pData dataSize => TlpPutWithin handle alloc pData dataSize session
  | .receive env found => ReceiveWithin env found session
  | .unpublish _ | .sendQueued _ => True

instance (session : TrdpSession) : (event : GridEvent) → Decidable (event.Within session)
  | .publish env args => inferInstanceAs (Decidable (TlpPublishWithin env args session))
  | .put handle alloc pData dataSize =>
      inferInstanceAs (Decidable (TlpPutWithin handle alloc pData dataSize session))
  | .receive env found => inferInstanceAs (Decidable (ReceiveWithin env found session))
  | .unpublish _ | .sendQueued _ => inferInstanceAs (Decidable True)

/-- One step, where nothing runs over a frame. A pull request is received like any datagram, and
answered with a pass.
-/
def gridAct (session : TrdpSession) : GridEvent → Option TrdpSession
  | .publish env args => some (tlpPublish env args session).2
  | .unpublish handle => some (tlpUnpublish handle session).2
  | .put handle alloc pData dataSize => some (tlpPut handle alloc pData dataSize session).2
  | .receive env found => (trdpPdReceive env found session).map RecvResult.session
  | .sendQueued env => some (trdpPdSendQueued env session).2.1

/-- A copy that runs over its frame is a fault, since it may write over the times of any publisher. -/
def gridStep (session : TrdpSession) (event : GridEvent) : Option TrdpSession :=
  if event.Within session then gridAct session event else none

/-- Intervals are zero or multiples of ten milliseconds. -/
def GridEvent.Multiple : GridEvent → Prop
  | .publish _ args => args.interval.toNat % 10000 = 0
  | .unpublish _ | .put _ _ _ _ | .receive _ _ | .sendQueued _ => True

instance : (event : GridEvent) → Decidable event.Multiple
  | .publish _ args => inferInstanceAs (Decidable (args.interval.toNat % 10000 = 0))
  | .unpublish _ | .put _ _ _ _ | .receive _ _ | .sendQueued _ => inferInstanceAs (Decidable True)

/-- Every cyclic publisher is due at a time of the grid. -/
def SendsOnGrid (session : TrdpSession) : Prop :=
  ∀ ele ∈ session.pSndQueue, ele.interval.IsSet → OnGrid ele.timeToGo

/-- A run keeps the send times on the grid: at every point of it they are, and no copy runs over a
frame.
-/
structure StaysOnGrid (session : TrdpSession) (events : List GridEvent) : Prop where
  along
    : Along (faulting gridStep) (BeforeFault fun s event => SendsOnGrid s ∧ event.Within s)
        (some session) events
  reached
    : ∀ next, run (faulting gridStep) (some session) events = some next → SendsOnGrid next

/-- What runs keep: the session does not shape its traffic, and its publishers keep to the grid. -/
structure GridInv (session : TrdpSession) : Prop where
  unshaped : session.trafficShaping = false
  gridded : ∀ ele ∈ session.pSndQueue, ele.Gridded

theorem GridInv.pass (inv : GridInv session) (env : SendEnv)
    : GridInv (trdpPdSendQueued env session).2.1 := by
  refine ⟨inv.unshaped, fun ele' member => ?_⟩
  obtain ⟨k, ele, found, left⟩ := mem_trdpPdSendQueued.mp member
  exact (inv.gridded ele (List.mem_of_getElem? found)).turn (env.clock k).normal _ _ _ left

theorem GridInv.put (inv : GridInv session) (handle : Nat) (alloc : Bool)
    (pData : Option (List U8)) (dataSize : U32)
    : GridInv (tlpPut handle alloc pData dataSize session).2 := by
  unfold tlpPut
  cases session.pSndQueue.find? (PdEle.isAt handle) with
  | none => exact inv
  | some _ =>
      refine ⟨inv.unshaped, forall_modifyFirst inv.gridded fun ele gridded => ?_⟩
      have keeps := trdpPdPut_keeps session.marshall alloc pData dataSize ele
      exact gridded.same keeps.same.interval keeps.timeToGo

theorem GridInv.unpublish (inv : GridInv session) (handle : Nat)
    : GridInv (tlpUnpublish handle session).2 := by
  unfold tlpUnpublish
  split
  · exact inv
  · refine ⟨inv.unshaped, fun ele member => ?_⟩
    have reshaped : (pdReshape session.trafficShaping
        (session.pSndQueue.eraseP (PdEle.isAt handle))).2
      = session.pSndQueue.eraseP (PdEle.isAt handle) := by
      rw [pdReshape, inv.unshaped]
      rfl
    dsimp only at member
    rw [reshaped] at member
    exact inv.gridded ele (List.mem_of_mem_eraseP member)

theorem tlpPublish_trafficShaping (env : PublishEnv) (args : PublishArgs) (session : TrdpSession)
    : (tlpPublish env args session).2.trafficShaping = session.trafficShaping := by
  unfold tlpPublish
  dsimp only
  repeat' split
  all_goals rfl

theorem GridInv.publish (inv : GridInv session) (env : PublishEnv) {args : PublishArgs}
    (multiple : args.interval.toNat % 10000 = 0)
    : GridInv (tlpPublish env args session).2 := by
  refine ⟨(tlpPublish_trafficShaping env args session).trans inv.unshaped, ?_⟩
  rcases tlpPublish_queue env args session inv.unshaped with same | ⟨-, socketIdx, ele, put, added⟩
  · rw [same]
    exact inv.gridded
  · intro other member
    rw [added] at member
    rcases List.mem_append.mp member with old | new
    · exact inv.gridded other old
    · obtain rfl := List.mem_singleton.mp new
      exact (newPublisher_gridded env session socketIdx multiple).same put.same.interval
        put.timeToGo

theorem pdDeliver_trafficShaping {recv : RecvEnv} {informUser : Bool} {datagram : Datagram}
    {telegrams : List Telegram} {result : RecvResult}
    (delivers : pdDeliver recv informUser datagram session telegrams = some result)
    : result.session.trafficShaping = session.trafficShaping := by
  cases matched : trdpQueueFindSubAddr session.pRcvQueue
      (datagram.addr session.pNewFrame.frameHead) with
  | none =>
      rw [pdDeliver_none matched] at delivers
      obtain rfl := Option.some.inj delivers
      rfl
  | some sub =>
      rw [pdDeliver_some matched] at delivers
      obtain ⟨handled, -, rfl⟩ := Option.map_eq_some_iff.mp delivers
      rfl

theorem trdpPdReceive_trafficShaping {recv : RecvEnv} {found : Recvmsg} {result : RecvResult}
    (received : trdpPdReceive recv found session = some result)
    : result.session.trafficShaping = session.trafficShaping := by
  unfold trdpPdReceive at received
  split at received
  · obtain rfl := Option.some.inj received
    rfl
  dsimp only at received
  split at received
  · obtain rfl := Option.some.inj received
    rfl
  split at received
  · obtain rfl := Option.some.inj received
    rfl
  split at received
  · rw [pdDeliver_trafficShaping received]
  · rename_i answered pulled
    rw [pdDeliver_trafficShaping received]
    split at pulled
    · obtain ⟨ele, -, rfl⟩ := Option.map_eq_some_iff.mp pulled
      rfl
    · cases pulled

/-- A pull request marks its publisher, and leaves the times to the pass that follows. -/
theorem GridInv.receive (inv : GridInv session) {recv : RecvEnv} {found : Recvmsg}
    {result : RecvResult} (received : trdpPdReceive recv found session = some result)
    : GridInv result.session := by
  refine ⟨(trdpPdReceive_trafficShaping received).trans inv.unshaped, ?_⟩
  rcases trdpPdReceive_sends received with
    ⟨-, same, -⟩ | ⟨ele, head, srcIpAddr, marked, -, -, pulled, passed, -⟩
  · rw [same]
    exact inv.gridded
  · have gridded : ∀ ele ∈ marked.pSndQueue, ele.Gridded := by
      rw [pulled]
      refine forall_modifyFirst inv.gridded fun ele gridded => ?_
      have kept : (ele.statisticsFor session recv.statistics head).interval = ele.interval
          ∧ (ele.statisticsFor session recv.statistics head).timeToGo = ele.timeToGo := by
        unfold PdEle.statisticsFor
        split
        · exact ⟨rfl, rfl⟩
        · exact ⟨rfl, rfl⟩
      exact gridded.same kept.1 kept.2
    rw [passed]
    intro ele' member
    obtain ⟨k, ele, found, left⟩ := mem_trdpPdSendQueued.mp member
    exact (gridded ele (List.mem_of_getElem? found)).turn (recv.send.clock k).normal _ _ _ left

theorem GridInv.step (inv : GridInv session) {event : GridEvent} (multiple : event.Multiple)
    (step : gridStep session event = some next)
    : GridInv next := by
  obtain ⟨-, step⟩ := Option.ite_none_right_eq_some.mp step
  cases event with
  | publish env args =>
      obtain rfl := Option.some.inj step
      exact inv.publish env multiple
  | unpublish handle =>
      obtain rfl := Option.some.inj step
      exact inv.unpublish handle
  | put handle alloc pData dataSize =>
      obtain rfl := Option.some.inj step
      exact inv.put handle alloc pData dataSize
  | receive env found =>
      obtain ⟨result, received, rfl⟩ := Option.map_eq_some_iff.mp step
      exact inv.receive received
  | sendQueued env =>
      obtain rfl := Option.some.inj step
      exact inv.pass env

theorem GridInv.sendsOnGrid (inv : GridInv session) : SendsOnGrid session :=
  fun ele member => (inv.gridded ele member).timeToGo

theorem GridInv.start (unshaped : session.trafficShaping = false)
    (pulls : ∀ ele ∈ session.pSndQueue, ¬ ele.interval.IsSet)
    : GridInv session :=
  ⟨unshaped, fun ele member => ⟨fun cyclic => absurd cyclic (pulls ele member),
    fun cyclic => absurd cyclic (pulls ele member)⟩⟩

/-- Every run of a session that does not shape its traffic and starts without cyclic publishers, with
intervals of whole multiples of ten milliseconds, keeps all cyclic publishers due on the grid
exactly if no step copies beyond a frame.
-/
theorem send_times_on_grid (unshaped : session.trafficShaping = false)
    (pulls : ∀ ele ∈ session.pSndQueue, ¬ ele.interval.IsSet) {events : List GridEvent}
    (multiples : ∀ event ∈ events, event.Multiple)
    : StaysOnGrid session events
      ↔ Along (faulting gridStep) (BeforeFault fun s event => event.Within s) (some session)
          events := by
  have keeps : ∀ s (event : GridEvent) next, GridInv s → event.Multiple
      → gridStep s event = some next → GridInv next :=
    fun _ _ _ inv multiple step => inv.step multiple step
  have conds : Along (faulting gridStep) (BeforeFault fun _ event => event.Multiple)
      (some session) events :=
    Along.of_events (fun event member _ _ _ => multiples event member) _
  have start := GridInv.start unshaped pulls
  constructor
  · exact fun stays => stays.along.imp fun _ _ both s known => (both s known).2
  · intro within
    have grid : Along (faulting gridStep) (BeforeFault fun s _ => SendsOnGrid s) (some session)
        events :=
      Along.of_faulting keeps (fun _ _ inv _ => inv.sendsOnGrid) start conds
    refine ⟨(grid.and within).imp fun _ _ both s known => ⟨both.1 s known, both.2 s known⟩, ?_⟩
    exact fun next reached => (faulting_invariant keeps start conds reached).sendsOnGrid

/-- Two publishers, passes of which the second is late, a pull request, data, and one taken back. -/
def gridEvents : List GridEvent :=
  [.publish (publishEnv 1) (cyclicPublisher (some [1, 2, 3, 4])),
    .publish (publishEnv 2) { cyclicPublisher none with comId := 1077, interval := 1230000 },
    .sendQueued (passAt 8000 44), .sendQueued (passAt 12347 44),
    .receive (receiveAt (clockAt 12400)) pullTelegram, .put 2 true (some [5, 6, 7, 8]) 4,
    .unpublish 1, .sendQueued (passAt 20001 44)]

theorem send_times_on_grid_late
    : StaysOnGrid openedSession gridEvents
      ∧ ((run (faulting gridStep) (some openedSession) gridEvents).map
          fun session => session.pSndQueue.map PdEle.timeToGo) = some [⟨21, 230000⟩] := by
  refine ⟨?_, by decide +kernel⟩
  refine (send_times_on_grid rfl ?_ ?_).mpr ?_
  · exact fun ele member => absurd member List.not_mem_nil
  · decide
  · decide +kernel

/-- A put of the largest data to a publisher of four bytes, beside another publisher. -/
def largePut : List GridEvent :=
  [.publish (publishEnv 1) (cyclicPublisher (some [1, 2, 3, 4])),
    .publish (publishEnv 2) { cyclicPublisher none with comId := 1077 },
    .put 1 true (some (List.replicate 1432 7)) 1432]

/-- It writes 1428 bytes behind the frame. -/
theorem large_put_leaves_grid
    : run (faulting gridStep) (some openedSession) largePut = none
      ∧ ¬ StaysOnGrid openedSession largePut := by
  refine ⟨by decide +kernel, fun stays => ?_⟩
  have within : Along (faulting gridStep) (BeforeFault fun s event => event.Within s)
      (some openedSession) largePut :=
    stays.along.imp fun _ _ both s known => (both s known).2
  revert within
  decide +kernel

end TsnTrdp.Trdp
