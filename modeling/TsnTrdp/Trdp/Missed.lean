import TsnTrdp.Trdp.Outages
import TsnTrdp.Trdp.StaleTelegrams

/-! The telegrams that a subscription counts as missed. It compares every counter with the one that
it accepted last, of whatever sender, and takes a restart for a wrap-around.
-/

namespace TsnTrdp.Trdp

open TsnTrdp.Run TsnTrdp.Queue

/-- The telegrams missed between the last counter of a sender, if there is one, and the next; none
where the sender restarts.
-/
def gapBefore (last : Option U32) (new : U32) : U32 :=
  if new = 0 then 0 else last.elim 0 fun last => new - last - 1

/-- The sender and the counter of a datagram that the subscription `handle` accepts. -/
def acceptedCounter (handle : Nat) (found : Recvmsg) (session : TrdpSession) (result : RecvResult)
    : Option ((U32 × U16) × U32) :=
  if result.AcceptedBy handle then
    (sane found session).map fun (datagram, frame) =>
      ((datagram.srcIpAddr, frame.frameHead.msgType), frame.frameHead.sequenceCounter)
  else none

/-- A session, with the last counter that one of its subscriptions accepted of each sender, and the
telegrams missed between the counters of each.
-/
structure MissedSys where
  session : TrdpSession
  last : U32 × U16 → Option U32
  missed : U32

def MissedSys.start (session : TrdpSession) : MissedSys := ⟨session, fun _ => none, 0⟩

/-- A sender's counter is accepted. -/
def MissedSys.count (s : MissedSys) (sender : U32 × U16) (new : U32) : MissedSys :=
  { s with
    last := Function.update s.last sender (some new)
    missed := s.missed + gapBefore (s.last sender) new }

def missedStep (handle : Nat) (s : MissedSys) : TimedEvent → Option MissedSys
  | .receive env found =>
      (trdpPdReceive env found s.session).map fun result =>
        match acceptedCounter handle found s.session result with
        | some (sender, new) => { s.count sender new with session := result.session }
        | none => { s with session := result.session }
  | .scan clock => some { s with session := (trdpPdHandleTimeOuts clock s.session).1 }

/-- The subscription has counted the missed telegrams. -/
def MissedSys.Counted (handle : Nat) (s : MissedSys) : Prop :=
  ∀ ele ∈ s.session.pRcvQueue, ele.handle = handle → ele.numMissed = s.missed

/-- What is asked of a step. -/
def MissedRight (handle : Nat) (s : MissedSys) (event : TimedEvent) : Prop :=
  ∀ next ∈ missedStep handle s event, next.Counted handle

/-- The counter `new` after `cur`, the last one accepted of any sender, where `last` is the last of
its own: a restart comes after 0 or the largest counter; the first of a sender comes one after
`cur`, or repeats it; another follows its own last, or repeats `cur` where this comes one after its
own last. Only the largest counter is not to be repeated.
-/
def NextCounterFits (cur : U32) (last : Option U32) (new : U32) : Prop :=
  if new = 0 then cur = 0 ∨ cur = 0xffffffff
  else
    match last with
    | none => new = cur + 1 ∨ new = cur ∧ cur ≠ 0xffffffff
    | some last => cur = last ∨ new = cur ∧ cur ≠ 0xffffffff ∧ new = last + 1

instance (cur new : U32) : (last : Option U32) → Decidable (NextCounterFits cur last new)
  | none =>
      inferInstanceAs (Decidable (if new = 0 then _ else new = cur + 1 ∨ new = cur ∧ _))
  | some last =>
      inferInstanceAs (Decidable (if new = 0 then _ else cur = last ∨ new = cur ∧ _ ∧ _))

/-- The counters of the accepted datagrams fit. -/
def MissedFits (handle : Nat) (s : MissedSys) : TimedEvent → Prop
  | .receive env found =>
      ∀ result ∈ trdpPdReceive env found s.session,
        ∀ accepted ∈ acceptedCounter handle found s.session result,
        ∀ ele ∈ s.session.pRcvQueue, ele.handle = handle
          → NextCounterFits ele.curSeqCnt (s.last accepted.1) accepted.2
  | .scan _ => True

instance (handle : Nat) (s : MissedSys)
    : (event : TimedEvent) → Decidable (MissedFits handle s event)
  | .receive env found =>
      -- decided over what is accepted, not over every sender and counter
      have accepted (result : RecvResult) := @Option.decidableForallMem _
        (fun accepted : (U32 × U16) × U32 => ∀ ele ∈ s.session.pRcvQueue, ele.handle = handle
          → NextCounterFits ele.curSeqCnt (s.last accepted.1) accepted.2) _
        (acceptedCounter handle found s.session result)
      @Option.decidableForallMem _ _ accepted (trdpPdReceive env found s.session)
  | .scan _ => .isTrue trivial

/-- What the code adds for a counter is the gap to `cur`, or nothing for `cur` again. -/
theorem missedBefore_eq (cur new : U32)
    : missedBefore cur new
      = if new = cur ∧ cur ≠ 0xffffffff then 0 else new - cur - 1 := by
  unfold missedBefore
  by_cases gap : 0 < new ∧ cur + 1 < new
  · have other : ¬ (new = cur ∧ cur ≠ 0xffffffff) := by bv_omega
    rw [if_pos gap, if_neg other]
  rw [if_neg gap]
  by_cases below : new < cur
  · have other : ¬ (new = cur ∧ cur ≠ 0xffffffff) := by bv_omega
    rw [if_pos below, if_neg other]
    bv_omega
  rw [if_neg below]
  by_cases same : new = cur
  · subst same
    have small : new ≠ 0xffffffff := by
      rintro rfl
      exact gap (by decide)
    rw [if_pos ⟨rfl, small⟩]
  · rw [if_neg fun both => same both.1]
    bv_omega

/-- The code adds the sender's own gap exactly if the counters fit, unless it is the sender's last
counter again.
-/
theorem missedBefore_eq_gap_iff {cur new : U32} {last : Option U32}
    (fresh : ∀ own ∈ last, new = 0 ∨ new ≠ own)
    : missedBefore cur new = gapBefore last new ↔ NextCounterFits cur last new := by
  rw [missedBefore_eq]
  unfold gapBefore NextCounterFits
  by_cases restart : new = 0
  · subst restart
    rw [if_pos rfl, if_pos rfl]
    split
    · next both => exact iff_of_true rfl (.inl both.1.symm)
    · constructor <;> bv_omega
  rw [if_neg restart, if_neg restart]
  cases last with
  | none =>
      dsimp only [Option.elim_none]
      split
      · next both => exact iff_of_true rfl (.inr both)
      · constructor <;> bv_omega
  | some own =>
      have other := (fresh own rfl).resolve_left restart
      dsimp only [Option.elim_some]
      split
      · constructor <;> bv_omega
      · constructor <;> bv_omega

variable {handle : Nat} {env : RecvEnv} {found : Recvmsg} {session : TrdpSession}
  {result : RecvResult} {s : MissedSys} {ele ele' : PdEle} {sender : U32 × U16} {new : U32}

/-- The subscription counts a datagram of a sender. -/
structure CountsFrom (sender : U32 × U16) (new : U32) (ele ele' : PdEle) : Prop where
  numMissed : ele'.numMissed = ele.numMissed + missedBefore ele.curSeqCnt new
  curSeqCnt : ele'.curSeqCnt = new
  stored
    : Counted ele.pSeqCntList new sender.1 sender.2 .fresh ele'.pSeqCntList

/-- It leaves what it counts with alone. -/
structure CountsNothing (ele ele' : PdEle) : Prop where
  numMissed : ele'.numMissed = ele.numMissed
  curSeqCnt : ele'.curSeqCnt = ele.curSeqCnt
  stored
    : ∀ srcIp msgType,
        storedSeqCnt ele'.pSeqCntList srcIp msgType = storedSeqCnt ele.pSeqCntList srcIp msgType

theorem acceptedCounter_of_not (other : ¬ result.AcceptedBy handle)
    : acceptedCounter handle found session result = none :=
  if_neg other

/-- A subscription after a reception, by what it has accepted. -/
theorem trdpPdReceive_counts (distinct : DistinctHandles session)
    (received : trdpPdReceive env found session = some result)
    (member : ele ∈ session.pRcvQueue)
    : ∃ ele' ∈ result.session.pRcvQueue, ele'.handle = ele.handle
        ∧ ((∃ sender new,
              acceptedCounter ele.handle found session result = some (sender, new)
              ∧ CountsFrom sender new ele ele')
          ∨ acceptedCounter ele.handle found session result = none ∧ CountsNothing ele ele') := by
  have left : CountsNothing ele ele := ⟨rfl, rfl, fun _ _ => rfl⟩
  cases trdpPdReceive_cases received with
  | refused _ refused =>
      refine ⟨ele, refused.pRcvQueue ▸ member, rfl, .inr ⟨acceptedCounter_of_not ?_, left⟩⟩
      exact fun accepted => Option.some_ne_none _ (accepted.1.symm.trans refused.routed)
  | unsubscribed _ _ _ _ _ pRcvQueue _ routed _ =>
      refine ⟨ele, pRcvQueue ▸ member, rfl, .inr ⟨acceptedCounter_of_not ?_, left⟩⟩
      exact fun accepted => Option.some_ne_none _ (accepted.1.symm.trans routed)
  | routed datagram frame other _ handled arrives matched handles _ pRcvQueue _ routed accepted =>
      rw [pRcvQueue]
      by_cases own : ele = other
      · subst own
        have heard := pdHandle_heardFrom handles
        refine ⟨handled.ele, mem_modifyFirst_of_find? matched, heard.handle, ?_⟩
        obtain ⟨check, list, checked, ⟨rfl, accepts⟩ | ⟨stale, ignored⟩⟩ := pdHandle_cases handles
        · have counted := heardSeqCnt_spec checked
          refine .inl ⟨(datagram.srcIpAddr, frame.frameHead.msgType),
            frame.frameHead.sequenceCounter, ?_, ?_⟩
          · rw [acceptedCounter, if_pos ⟨routed, accepted.trans accepts.accepted⟩, arrives]
            rfl
          · rw [accepts.ele]
            exact ⟨rfl, rfl, counted⟩
        · have counted := heardSeqCnt_spec checked
          refine .inr ⟨acceptedCounter_of_not fun both => ?_, ?_⟩
          · cases (both.2.symm.trans accepted).trans ignored.accepted
          · rw [ignored.ele]
            exact ⟨rfl, rfl, counted.stale stale⟩
      · refine ⟨ele, mem_modifyFirst_of_ne matched member own, rfl,
          .inr ⟨acceptedCounter_of_not fun both => ?_, left⟩⟩
        exact own (List.inj_on_of_nodup_map distinct member (List.mem_of_find?_eq_some matched)
          (Option.some.inj (both.1.symm.trans routed)))

/-- The subscription has counted the missed telegrams, and keeps the last counter of each sender. -/
structure Counts (s : MissedSys) (ele : PdEle) : Prop where
  numMissed : ele.numMissed = s.missed
  stored
    : ∀ srcIp msgType, storedSeqCnt ele.pSeqCntList srcIp msgType = s.last (srcIp, msgType)

structure MissedInv (handle : Nat) (s : MissedSys) : Prop where
  distinct : DistinctHandles s.session
  element : ∃ ele ∈ s.session.pRcvQueue, ele.handle = handle ∧ Counts s ele

/-- The one element at the address decides whether the subscription has counted right. -/
theorem MissedSys.counted_iff (distinct : DistinctHandles s.session)
    (member : ele ∈ s.session.pRcvQueue) (own : ele.handle = handle)
    : s.Counted handle ↔ ele.numMissed = s.missed := by
  constructor
  · exact fun counted => counted ele member own
  · intro same other member' own'
    obtain rfl := List.inj_on_of_nodup_map distinct member' member (own'.trans own.symm)
    exact same

/-- A counter that is accepted is a restart, or another than the sender's last. -/
theorem Counts.fresh (counts : Counts s ele) (from' : CountsFrom sender new ele ele')
    : ∀ own ∈ s.last sender, new = 0 ∨ new ≠ own := by
  intro own last
  exact (from'.stored.known own ((counts.stored _ _).trans last)).mp rfl

/-- What a datagram that is accepted adds is right exactly if its counter fits. -/
theorem Counts.count_iff (counts : Counts s ele) (from' : CountsFrom sender new ele ele')
    : ele'.numMissed = (s.count sender new).missed
      ↔ NextCounterFits ele.curSeqCnt (s.last sender) new := by
  rw [from'.numMissed, counts.numMissed, MissedSys.count, ← missedBefore_eq_gap_iff
    (counts.fresh from')]
  exact BitVec.add_right_inj s.missed

/-- A scan changes the flags of a late subscription. -/
theorem PdEle.scanned_counts (ele : PdEle) (now : TrdpTime)
    : CountsNothing ele (ele.scanned now) := by
  unfold PdEle.scanned
  split
  · exact ⟨rfl, rfl, fun _ _ => rfl⟩
  · exact ⟨rfl, rfl, fun _ _ => rfl⟩

theorem Counts.keep (counts : Counts s ele) (nothing : CountsNothing ele ele')
    (session : TrdpSession)
    : Counts { s with session } ele' where
  numMissed := nothing.numMissed.trans counts.numMissed
  stored srcIp msgType := (nothing.stored srcIp msgType).trans (counts.stored srcIp msgType)

theorem Counts.count (counts : Counts s ele) (from' : CountsFrom sender new ele ele')
    (fits : NextCounterFits ele.curSeqCnt (s.last sender) new) (session : TrdpSession)
    : Counts { s.count sender new with session } ele' where
  numMissed := (counts.count_iff from').mpr fits
  stored srcIp msgType := by
    rw [from'.stored.fresh rfl, counts.stored]
    simp only [MissedSys.count, Function.update_apply, Prod.ext_iff]

/-- A reception counts right exactly if the counter that it accepts, if there is one, fits. -/
theorem receive_counted_iff (inv : MissedInv handle s)
    (received : trdpPdReceive env found s.session = some result) {next : MissedSys}
    (stepped : missedStep handle s (.receive env found) = some next)
    : (next.Counted handle
        ↔ ∀ accepted ∈ acceptedCounter handle found s.session result,
          ∀ ele ∈ s.session.pRcvQueue, ele.handle = handle
            → NextCounterFits ele.curSeqCnt (s.last accepted.1) accepted.2)
      ∧ (next.Counted handle → MissedInv handle next) := by
  obtain ⟨ele, member, rfl, counts⟩ := inv.element
  have distinct := inv.distinct.received received
  obtain ⟨ele', member', own, outcome⟩ := trdpPdReceive_counts inv.distinct received member
  rw [missedStep, received, Option.map_some, Option.some.injEq] at stepped
  rcases outcome with ⟨sender, new, accepted, from'⟩ | ⟨nothing, kept⟩
  · rw [accepted] at stepped ⊢
    obtain rfl := stepped
    have right : MissedSys.Counted ele.handle { s.count sender new with session := result.session }
        ↔ NextCounterFits ele.curSeqCnt (s.last sender) new :=
      (MissedSys.counted_iff distinct member' own).trans (counts.count_iff from')
    refine ⟨right.trans ⟨?_, ?_⟩, fun counted => ?_⟩
    · rintro fits _ ⟨⟩ other member'' same
      obtain rfl := List.inj_on_of_nodup_map inv.distinct member'' member same
      exact fits
    · exact fun all => all _ rfl ele member rfl
    · exact ⟨distinct, ele', member', own, counts.count from' (right.mp counted) _⟩
  · rw [nothing] at stepped ⊢
    obtain rfl := stepped
    have right := counts.keep kept result.session
    refine ⟨iff_of_true ?_ nofun, fun _ => ⟨distinct, ele', member', own, right⟩⟩
    exact (MissedSys.counted_iff distinct member' own).mpr right.numMissed

theorem scan_counted (inv : MissedInv handle s) (clock : Clock)
    : MissedInv handle { s with session := (trdpPdHandleTimeOuts clock s.session).1 } := by
  obtain ⟨ele, member, own, counts⟩ := inv.element
  exact ⟨inv.distinct.scanned clock, ele.scanned clock.time, trdpPdHandleTimeOuts_mem member,
    ele.scanned_handle.trans own, counts.keep (ele.scanned_counts _) _⟩

theorem MissedInv.counted (inv : MissedInv handle s) : s.Counted handle := by
  obtain ⟨ele, member, own, counts⟩ := inv.element
  exact (MissedSys.counted_iff inv.distinct member own).mpr counts.numMissed

/-- One event, from a subscription that has counted right. -/
theorem missedRight_iff (inv : MissedInv handle s) (event : TimedEvent)
    : MissedRight handle s event ↔ MissedFits handle s event := by
  cases event with
  | scan clock =>
      refine iff_of_true ?_ trivial
      rintro next ⟨⟩
      exact (scan_counted inv clock).counted
  | receive env found =>
      constructor
      · intro right result received
        obtain ⟨next, stepped⟩ : ∃ next, missedStep handle s (.receive env found) = some next :=
          ⟨_, Option.map_eq_some_iff.mpr ⟨result, received, rfl⟩⟩
        exact (receive_counted_iff inv received stepped).1.mp (right next stepped)
      · intro fits next stepped
        obtain ⟨result, received, -⟩ := Option.map_eq_some_iff.mp stepped
        exact (receive_counted_iff inv received stepped).1.mpr (fits result received)

theorem missedStep_keeps (inv : MissedInv handle s) (event : TimedEvent) {next : MissedSys}
    (fits : MissedFits handle s event) (stepped : missedStep handle s event = some next)
    : MissedInv handle next := by
  cases event with
  | scan clock =>
      obtain rfl := Option.some.inj stepped
      exact scan_counted inv clock
  | receive env found =>
      obtain ⟨result, received, -⟩ := Option.map_eq_some_iff.mp stepped
      obtain ⟨right, keeps⟩ := receive_counted_iff inv received stepped
      exact keeps (right.mpr (fits result received))

variable {subscribe : SubscribeEnv} {args : SubscribeArgs} {subscribed : TrdpSession}

/-- A new subscription has missed nothing. -/
theorem newSubscription_missed (distinct : DistinctHandles session)
    (fresh : ∀ ele ∈ session.pRcvQueue, ele.handle ≠ subscribe.handle)
    (subscribes : tlpSubscribe subscribe args session = (.noErr, subscribed))
    : MissedInv subscribe.handle (.start subscribed) := by
  obtain ⟨socketIdx, rfl⟩ := tlpSubscribe_done subscribes
  exact ⟨distinct.subscribed fresh, _,
    List.mem_append_right _ (List.mem_singleton_self _), rfl, rfl, fun _ _ => rfl⟩

/-- The run rule for the counters. -/
theorem MissedInv.along_iff (inv : MissedInv handle s) (events : List TimedEvent)
    : Along (faulting (missedStep handle)) (BeforeFault (MissedRight handle)) (some s) events
      ↔ Along (faulting (missedStep handle)) (BeforeFault (MissedFits handle)) (some s) events :=
  faulting_iff (fun _ event _ inv fits stepped => missedStep_keeps inv event fits stepped)
    (fun _ event inv => missedRight_iff inv event) inv events

/-- From a new subscription on, in every run of receptions and scans, the subscription has counted
the telegrams missed of each of its senders, modulo 2^32, in all states exactly if the counters of
all datagrams that it accepts fit.
-/
theorem missed_telegrams_counted (distinct : DistinctHandles session)
    (fresh : ∀ ele ∈ session.pRcvQueue, ele.handle ≠ subscribe.handle)
    (subscribes : tlpSubscribe subscribe args session = (.noErr, subscribed))
    (events : List TimedEvent)
    : Along (faulting (missedStep subscribe.handle)) (BeforeFault (MissedRight subscribe.handle))
        (some (.start subscribed)) events
      ↔ Along (faulting (missedStep subscribe.handle)) (BeforeFault (MissedFits subscribe.handle))
        (some (.start subscribed)) events :=
  (newSubscription_missed distinct fresh subscribes).along_iff events

theorem polledSession_subscribed
    : tlpSubscribe (subscribeAt (clockAt 0) 1) (polled 0 0) openedSession
      = (.noErr, polledSession) :=
  Prod.ext (by decide +kernel) rfl

theorem openedSession_distinct : DistinctHandles openedSession := List.nodup_nil

/-- A telegram of comId 1000 with this counter. -/
def numberedEvent (sequenceCounter : U32) : TimedEvent :=
  .receive (numbered sequenceCounter).1 (numbered sequenceCounter).2

theorem missed_telegrams_counted_gap
    : Along (faulting (missedStep 1)) (BeforeFault (MissedRight 1)) (some (.start polledSession))
        [numberedEvent 1, numberedEvent 2, numberedEvent 5, numberedEvent 5, numberedEvent 6] :=
  (missed_telegrams_counted openedSession_distinct
    (fun _ member => absurd member List.not_mem_nil) polledSession_subscribed _).mpr
    (by decide +kernel)

/-- A sender that restarts after two telegrams is counted to have missed almost 2^32. -/
theorem restart_counted_missed
    : (run (faulting (missedStep 1)) (some (.start polledSession))
          [numberedEvent 1, numberedEvent 2, numberedEvent 0]).map
        (fun s => (s.session.pRcvQueue.map PdEle.numMissed, s.missed))
        = some ([0xfffffffd], 0)
      ∧ ¬ Along (faulting (missedStep 1)) (BeforeFault (MissedRight 1))
        (some (.start polledSession)) [numberedEvent 1, numberedEvent 2, numberedEvent 0] := by
  refine ⟨by decide +kernel, fun right => ?_⟩
  have start : MissedInv 1 (.start polledSession) :=
    newSubscription_missed openedSession_distinct
      (fun _ member => absurd member List.not_mem_nil) polledSession_subscribed
  have fits := (start.along_iff _).mp right
  revert fits
  decide +kernel

end TsnTrdp.Trdp
