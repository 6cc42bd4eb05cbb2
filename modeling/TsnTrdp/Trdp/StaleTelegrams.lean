import TsnTrdp.Trdp.Reception
import TsnTrdp.Trdp.SeqCnt
import TsnTrdp.Lib.Run

/-! Which telegrams a subscription accepts. Of each sender it keeps the last counter only, and
accepts every other one, so that what is older than that is delivered too.
-/

namespace TsnTrdp.Trdp

open TsnTrdp.Queue TsnTrdp.Run

/-- A telegram that a subscription was found for, and whether it was delivered. -/
structure Heard where
  srcIpAddr : U32
  msgType : U16
  sequenceCounter : U32
  delivered : Bool
  deriving DecidableEq, Repr

/-- The telegram is of this sender. -/
def Heard.IsOf (srcIp : U32) (msgType : U16) (d : Heard) : Prop :=
  d.srcIpAddr = srcIp ∧ d.msgType = msgType

instance (srcIp : U32) (msgType : U16) (d : Heard) : Decidable (d.IsOf srcIp msgType) :=
  inferInstanceAs (Decidable (_ ∧ _))

/-- A session, with what one of its subscriptions has heard. -/
structure HeardSys where
  session : TrdpSession
  heard : List Heard

def HeardSys.start (session : TrdpSession) : HeardSys := ⟨session, []⟩

/-- What the subscription `handle` hears of a reception. -/
def heardOf (handle : Nat) (found : Recvmsg) (session : TrdpSession) (result : RecvResult)
    : List Heard :=
  (sane found session).toList.flatMap fun (datagram, frame) =>
    if result.routed = some handle then
      [⟨datagram.srcIpAddr, frame.frameHead.msgType, frame.frameHead.sequenceCounter,
        result.accepted⟩]
    else []

def heardStep (handle : Nat) (s : HeardSys) (event : RecvEnv × Recvmsg) : Option HeardSys :=
  (trdpPdReceive event.1 event.2 s.session).map fun result =>
    { session := result.session
      heard := s.heard ++ heardOf handle event.2 s.session result }

/-- The telegram `d` is treated as what came before it asks for: it is not delivered if its counter
is in 1..c for a `c` that was delivered since the sender was restarted, and it is delivered if its
counter is above that of the last one delivered.
-/
structure CounterRight (heard : List Heard) (d : Heard) : Prop where
  stale
    : ∀ before e between,
        heard = before ++ e :: between
        → e.IsOf d.srcIpAddr d.msgType
        → e.delivered = true
        → (∀ x ∈ between, x.IsOf d.srcIpAddr d.msgType → x.sequenceCounter ≠ 0)
        → d.sequenceCounter ≠ 0
        → d.sequenceCounter ≤ e.sequenceCounter
        → d.delivered = false
  newer
    : ∀ before e between,
        heard = before ++ e :: between
        → e.IsOf d.srcIpAddr d.msgType
        → e.delivered = true
        → (∀ x ∈ between, x.IsOf d.srcIpAddr d.msgType → x.delivered = false)
        → e.sequenceCounter < d.sequenceCounter
        → d.delivered = true

/-- What a reception does to the subscription `handle`: its data, its counter and its timer, and
the callbacks.
-/
structure Outcome (handle : Nat) (env : RecvEnv) (frame : PdPacket) (session : TrdpSession)
    (result : RecvResult)
    : Prop where
  delivered
    : result.accepted = true
      → ∀ ele ∈ session.pRcvQueue, ele.handle = handle
      → ∃ ele' ∈ result.session.pRcvQueue,
          ele'.handle = handle ∧ ele'.pFrame = frame
          ∧ ele'.dataSize = frame.frameHead.datasetLength
          ∧ ele'.curSeqCnt = frame.frameHead.sequenceCounter
          ∧ ele'.timeToGo = vosAddTime env.clock.time ele.interval
  undelivered
    : result.accepted = false
      → result.callbacks = []
        ∧ ∀ ele ∈ session.pRcvQueue, ele.handle = handle
          → ∃ ele' ∈ result.session.pRcvQueue,
              ele'.handle = handle ∧ ele'.pFrame = ele.pFrame ∧ ele'.dataSize = ele.dataSize
              ∧ ele'.curSeqCnt = ele.curSeqCnt ∧ ele'.timeToGo = ele.timeToGo

/-- What is asked of a reception that the subscription `handle` is found for. -/
def HeardRight (handle : Nat) (s : HeardSys) (event : RecvEnv × Recvmsg) : Prop :=
  ∀ result ∈ trdpPdReceive event.1 event.2 s.session,
    ∀ arrival ∈ sane event.2 s.session,
      result.routed = some handle
      → CounterRight s.heard
          ⟨arrival.1.srcIpAddr, arrival.2.frameHead.msgType, arrival.2.frameHead.sequenceCounter,
            result.accepted⟩
        ∧ Outcome handle event.1 arrival.2 s.session result

/-- A counter that is not below the one stored, if there is one. -/
def NotBelow (stored : Option U32) (sequenceCounter : U32) : Prop :=
  ∀ last ∈ stored, last ≤ sequenceCounter

-- Given by name: the instance that a search finds runs through all 32-bit counters.
instance (stored : Option U32) (sequenceCounter : U32)
    : Decidable (NotBelow stored sequenceCounter) :=
  stored.decidableForallMem

/-- The subscription `handle` is not found for a telegram whose counter is behind the one that it
keeps of the sender, unless it is 0.
-/
def NotBehind (handle : Nat) (s : HeardSys) (event : RecvEnv × Recvmsg) : Prop :=
  ∀ arrival ∈ sane event.2 s.session,
    ∀ ele ∈ trdpQueueFindSubAddr s.session.pRcvQueue (arrival.1.addr arrival.2.frameHead),
      ele.handle = handle
      → arrival.2.frameHead.sequenceCounter = 0
        ∨ NotBelow
            (storedSeqCnt ele.pSeqCntList arrival.1.srcIpAddr arrival.2.frameHead.msgType)
            arrival.2.frameHead.sequenceCounter

instance (handle : Nat) (s : HeardSys) (event : RecvEnv × Recvmsg)
    : Decidable (NotBehind handle s event) :=
  inferInstanceAs (Decidable (∀ _ ∈ sane event.2 s.session, _))

-----------------------------------------------------------------------------------------
-- What is stored of a sender, and what was heard of it
-----------------------------------------------------------------------------------------

/-- The counter stored of a sender, beside what was heard of it. -/
structure Known (srcIp : U32) (msgType : U16) (heard : List Heard) (stored : Option U32)
    : Prop where
  never : stored = none → ∀ e ∈ heard, e.IsOf srcIp msgType → e.delivered = false
  last
    : ∀ before e between,
        heard = before ++ e :: between
        → e.IsOf srcIp msgType
        → e.delivered = true
        → (∀ x ∈ between, x.IsOf srcIp msgType → x.delivered = false)
        → stored = some e.sequenceCounter
  present
    : ∀ last, stored = some last
      → ∃ before e between,
          heard = before ++ e :: between ∧ e.IsOf srcIp msgType ∧ e.delivered = true
          ∧ e.sequenceCounter = last
          ∧ ∀ x ∈ between, x.IsOf srcIp msgType → x.sequenceCounter ≠ 0
  rising
    : ∀ before e between,
        heard = before ++ e :: between
        → e.IsOf srcIp msgType
        → e.delivered = true
        → (∀ x ∈ between, x.IsOf srcIp msgType → x.sequenceCounter ≠ 0)
        → ∀ last, stored = some last → e.sequenceCounter ≤ last

variable {srcIp : U32} {msgType : U16} {heard : List Heard} {stored : Option U32} {d : Heard}

theorem known_nil (srcIp : U32) (msgType : U16) : Known srcIp msgType [] none where
  never _ _ member := absurd member List.not_mem_nil
  last _ _ _ split := absurd split.symm (by simp)
  present _ known := nomatch known
  rising _ _ _ split := absurd split.symm (by simp)

/-- An element of a longer log is the new one, or it is followed by the new one. -/
theorem split_snoc {before between : List Heard} {e : Heard}
    (split : heard ++ [d] = before ++ e :: between)
    : heard = before ∧ d = e ∧ between = []
      ∨ ∃ between', between = between' ++ [d] ∧ heard = before ++ e :: between' := by
  rcases List.eq_nil_or_concat between with rfl | ⟨between', x, rfl⟩
  · obtain ⟨same, last⟩ := List.append_inj' split rfl
    exact Or.inl ⟨same, List.singleton_inj.mp last, rfl⟩
  · rw [List.concat_eq_append, ← List.cons_append, ← List.append_assoc] at split
    obtain ⟨same, last⟩ := List.append_inj' split rfl
    obtain rfl := List.singleton_inj.mp last
    exact Or.inr ⟨between', List.concat_eq_append, same⟩

theorem mem_snoc_left {between : List Heard} {p : Heard → Prop}
    (all : ∀ x ∈ between ++ [d], p x)
    : (∀ x ∈ between, p x) ∧ p d :=
  ⟨fun x member => all x (List.mem_append_left _ member),
    all d (List.mem_append_right _ (List.mem_singleton_self d))⟩

theorem mem_snoc {between : List Heard} {p : Heard → Prop} (earlier : ∀ x ∈ between, p x)
    (new : p d)
    : ∀ x ∈ between ++ [d], p x := by
  intro x member
  rcases List.mem_append.mp member with old | last
  · exact earlier x old
  · exact List.mem_singleton.mp last ▸ new

/-- A telegram that is not delivered, or of another sender, changes nothing. -/
theorem Known.pass (known : Known srcIp msgType heard stored)
    (other : d.IsOf srcIp msgType → d.delivered = false ∧ (stored.isSome → d.sequenceCounter ≠ 0))
    : Known srcIp msgType (heard ++ [d]) stored where
  never unknown := mem_snoc (known.never unknown) fun isOf => (other isOf).1
  last before e between split isOf delivered silent := by
    rcases split_snoc split with ⟨-, rfl, -⟩ | ⟨between', rfl, earlier⟩
    · cases (other isOf).1.symm.trans delivered
    · exact known.last before e between' earlier isOf delivered (mem_snoc_left silent).1
  present last stored' := by
    obtain ⟨before, e, between, split, isOf, delivered, counter, running⟩ :=
      known.present last stored'
    refine ⟨before, e, between ++ [d], by rw [split]; simp, isOf, delivered, counter, ?_⟩
    exact mem_snoc running fun isOf => (other isOf).2 (by rw [stored']; rfl)
  rising before e between split isOf delivered running last stored' := by
    rcases split_snoc split with ⟨-, rfl, -⟩ | ⟨between', rfl, earlier⟩
    · cases (other isOf).1.symm.trans delivered
    · exact known.rising before e between' earlier isOf delivered (mem_snoc_left running).1 last
        stored'

/-- A telegram that is delivered is stored. -/
theorem Known.deliver (known : Known srcIp msgType heard stored) (isOf : d.IsOf srcIp msgType)
    (delivered : d.delivered = true)
    (ahead : d.sequenceCounter = 0 ∨ NotBelow stored d.sequenceCounter)
    : Known srcIp msgType (heard ++ [d]) (some d.sequenceCounter) where
  never unknown := nomatch unknown
  last before e between split _ _ silent := by
    rcases split_snoc split with ⟨-, rfl, -⟩ | ⟨between', rfl, -⟩
    · rfl
    · cases ((mem_snoc_left silent).2 isOf).symm.trans delivered
  present last same := by
    refine ⟨heard, d, [], rfl, isOf, delivered, Option.some.inj same, ?_⟩
    exact fun x member => absurd member List.not_mem_nil
  rising before e between split isOf' delivered' running last same := by
    obtain rfl := Option.some.inj same
    rcases split_snoc split with ⟨-, rfl, -⟩ | ⟨between', rfl, earlier⟩
    · exact BitVec.le_refl _
    · obtain ⟨running, current⟩ := mem_snoc_left running
      cases stored' : stored with
      | none =>
          have member : e ∈ heard := by
            rw [earlier]
            exact List.mem_append_right _ List.mem_cons_self
          cases (known.never stored' e member isOf').symm.trans delivered'
      | some highest =>
          have below :=
            known.rising before e between' earlier isOf' delivered' running highest stored'
          exact BitVec.le_trans below ((ahead.resolve_left (current isOf)) highest stored')

/-- A telegram is treated right exactly if it is not behind what is stored of its sender. -/
theorem Known.counterRight_iff (known : Known d.srcIpAddr d.msgType heard stored)
    (counted
      : ∀ last, stored = some last
        → (d.delivered = true ↔ d.sequenceCounter = 0 ∨ d.sequenceCounter ≠ last))
    : CounterRight heard d
      ↔ d.sequenceCounter = 0 ∨ NotBelow stored d.sequenceCounter := by
  constructor
  · intro right
    by_contra behind
    obtain ⟨restart, behind⟩ := not_or.mp behind
    unfold NotBelow at behind
    push Not at behind
    obtain ⟨last, stored', behind⟩ := behind
    obtain ⟨before, e, between, split, isOf, delivered, rfl, running⟩ := known.present last stored'
    have below : d.sequenceCounter < e.sequenceCounter := BitVec.not_le.mp behind
    have differs : d.sequenceCounter ≠ e.sequenceCounter := BitVec.ne_of_lt below
    have fresh := (counted _ stored').mpr (Or.inr differs)
    have refused := right.stale before e between split isOf delivered running restart
      (BitVec.le_of_lt below)
    cases refused.symm.trans fresh
  · intro ahead
    constructor
    · intro before e between split isOf delivered running restart below
      cases stored' : stored with
      | none =>
          have member : e ∈ heard := by
            rw [split]
            exact List.mem_append_right _ List.mem_cons_self
          cases (known.never stored' e member isOf).symm.trans delivered
      | some last =>
          have rises := known.rising before e between split isOf delivered running last stored'
          have equal : d.sequenceCounter = last := by
            have above := ahead.resolve_left restart last stored'
            exact BitVec.le_antisymm (BitVec.le_trans below rises) above
          refine Bool.eq_false_iff.mpr fun fresh => ?_
          exact ((counted last stored').mp fresh).elim restart fun differs => differs equal
    · intro before e between split isOf delivered silent above
      have stored' := known.last before e between split isOf delivered silent
      exact (counted _ stored').mpr (Or.inr (BitVec.ne_of_lt above).symm)

variable {handle : Nat} {env : RecvEnv} {found : Recvmsg} {session : TrdpSession}
  {result : RecvResult} {datagram : Datagram} {frame : PdPacket} {ele : PdEle} {s : HeardSys}

/-- What the element `ele` makes of a datagram, and where that is kept. -/
structure RoutedTo (env : RecvEnv) (datagram : Datagram) (frame : PdPacket) (session : TrdpSession)
    (result : RecvResult) (ele : PdEle) (handled : Handled) (check : SeqCheck)
    : Prop where
  member : ele ∈ session.pRcvQueue
  stays : handled.ele ∈ result.session.pRcvQueue
  handle : handled.ele.handle = ele.handle
  counted
    : Counted ele.pSeqCntList frame.frameHead.sequenceCounter datagram.srcIpAddr
        frame.frameHead.msgType check handled.ele.pSeqCntList
  callbacks : result.callbacks = handled.callbacks
  accepted : result.accepted = true ↔ check = .fresh
  fresh
    : check = .fresh
      → handled.ele.pFrame = frame
        ∧ handled.ele.dataSize = frame.frameHead.datasetLength
        ∧ handled.ele.curSeqCnt = frame.frameHead.sequenceCounter
        ∧ handled.ele.timeToGo = vosAddTime env.clock.time ele.interval
  stale
    : check ≠ .fresh
      → result.callbacks = []
        ∧ handled.ele.pFrame = ele.pFrame
        ∧ handled.ele.dataSize = ele.dataSize
        ∧ handled.ele.curSeqCnt = ele.curSeqCnt
        ∧ handled.ele.timeToGo = ele.timeToGo

/-- A datagram that is found a subscription is handled by it. -/
theorem routedTo (received : trdpPdReceive env found session = some result)
    (arrives : sane found session = some (datagram, frame))
    (routed : result.routed = some handle)
    : ∃ ele handled check,
        trdpQueueFindSubAddr session.pRcvQueue (datagram.addr frame.frameHead) = some ele
        ∧ ele.handle = handle
        ∧ RoutedTo env datagram frame session result ele handled check := by
  cases trdpPdReceive_cases received with
  | refused insane _ => cases insane.symm.trans arrives
  | unsubscribed _ _ _ _ _ _ _ unrouted _ => cases unrouted.symm.trans routed
  | routed datagram' frame' ele informUser handled arrives' matched handles _ pRcvQueue callbacks
      routed' accepted =>
      obtain ⟨rfl, rfl⟩ := Prod.mk.inj (Option.some.inj (arrives'.symm.trans arrives))
      obtain ⟨check, list, checked, outcome⟩ := pdHandle_cases handles
      have counted := heardSeqCnt_spec checked
      have stays : handled.ele ∈ result.session.pRcvQueue := by
        rw [pRcvQueue]
        exact mem_modifyFirst_of_find? matched
      refine ⟨ele, handled, check, matched, Option.some.inj (routed'.symm.trans routed), ?_⟩
      have member := List.mem_of_find?_eq_some matched
      have heard := pdHandle_heardFrom handles
      rcases outcome with ⟨fresh, accepts⟩ | ⟨stale, ignored⟩
      · have keeps : handled.ele.pSeqCntList = list := by
          rw [accepts.ele]
          rfl
        refine ⟨member, stays, heard.handle, keeps ▸ counted, callbacks, ?_, fun _ => ?_,
          fun stale => absurd fresh stale⟩
        · exact iff_of_true (accepted.trans accepts.accepted) fresh
        · rw [accepts.ele]
          exact ⟨rfl, rfl, rfl, rfl⟩
      · have keeps : handled.ele.pSeqCntList = list := by
          rw [ignored.ele]
        refine ⟨member, stays, heard.handle, keeps ▸ counted, callbacks, ?_,
          fun fresh => absurd fresh stale, fun _ => ⟨callbacks.trans ignored.callbacks, ?_⟩⟩
        · refine iff_of_false ?_ stale
          rw [accepted, ignored.accepted]
          exact Bool.false_ne_true
        · rw [ignored.ele]
          exact ⟨rfl, rfl, rfl, rfl⟩

/-- The other elements of the queue are left alone. -/
theorem unrouted_mem (received : trdpPdReceive env found session = some result)
    (unrouted : result.routed ≠ some handle) {ele : PdEle}
    (member : ele ∈ result.session.pRcvQueue) (own : ele.handle = handle)
    : ele ∈ session.pRcvQueue := by
  cases trdpPdReceive_cases received with
  | refused _ refused => exact refused.pRcvQueue ▸ member
  | unsubscribed _ _ _ _ _ pRcvQueue _ _ _ => exact pRcvQueue ▸ member
  | routed _ _ other _ handled _ matched handles _ pRcvQueue _ routed _ =>
      rw [pRcvQueue] at member
      rcases mem_modifyFirst member with old | ⟨_, _, rfl⟩
      · exact old
      · have same := (pdHandle_heardFrom handles).handle.symm.trans own
        exact absurd (routed.trans (congrArg some same)) unrouted

theorem heardOf_unrouted (unrouted : result.routed ≠ some handle)
    : heardOf handle found session result = [] := by
  unfold heardOf
  simp [unrouted]

theorem heardOf_routed (arrives : sane found session = some (datagram, frame))
    (routed : result.routed = some handle)
    : heardOf handle found session result
      = [⟨datagram.srcIpAddr, frame.frameHead.msgType, frame.frameHead.sequenceCounter,
          result.accepted⟩] := by
  unfold heardOf
  simp [arrives, routed]

/-- What is routed is sane. -/
theorem sane_of_routed (received : trdpPdReceive env found session = some result)
    (routed : result.routed = some handle)
    : ∃ datagram frame, sane found session = some (datagram, frame) := by
  cases trdpPdReceive_cases received with
  | refused _ refused => cases refused.routed.symm.trans routed
  | unsubscribed datagram frame arrives _ _ _ _ _ _ => exact ⟨datagram, frame, arrives⟩
  | routed datagram frame _ _ _ arrives _ _ _ _ _ _ _ => exact ⟨datagram, frame, arrives⟩

/-- A telegram of a known sender is received without a fault. -/
theorem received_of_known (arrives : sane found session = some (datagram, frame))
    (matched
      : trdpQueueFindSubAddr session.pRcvQueue (datagram.addr frame.frameHead) = some ele)
    {last : U32}
    (known
      : storedSeqCnt ele.pSeqCntList datagram.srcIpAddr frame.frameHead.msgType = some last)
    (env : RecvEnv)
    : ∃ result, trdpPdReceive env found session = some result
        ∧ result.routed = some ele.handle := by
  obtain ⟨session', informUser, telegrams, queue, newFrame, -, delivers⟩ :=
    trdpPdReceive_sane env arrives
  have matched' : trdpQueueFindSubAddr session'.pRcvQueue
      (datagram.addr session'.pNewFrame.frameHead) = some ele := by
    rw [queue, newFrame]
    exact matched
  obtain ⟨check, list, checked⟩ :
      ∃ check list, trdpCheckSequenceCounter env.alloc
        (ele.heard frame.frameHead datagram.srcIpAddr datagram.destIpAddr).pSeqCntList
        frame.frameHead.sequenceCounter datagram.srcIpAddr frame.frameHead.msgType
        = some (check, list) := heardSeqCnt_known known
  rw [delivers, pdDeliver_some matched', newFrame]
  unfold pdHandle
  dsimp only
  rw [checked]
  exact ⟨_, rfl, rfl⟩

-----------------------------------------------------------------------------------------
-- Runs
-----------------------------------------------------------------------------------------

/-- The subscription keeps of every sender what it heard of it. -/
structure HeardInv (handle : Nat) (s : HeardSys) : Prop where
  distinct : DistinctHandles s.session
  known
    : ∀ ele ∈ s.session.pRcvQueue,
        ele.handle = handle
        → ∀ srcIp msgType,
            Known srcIp msgType s.heard (storedSeqCnt ele.pSeqCntList srcIp msgType)

theorem heardRight_iff (inv : HeardInv handle s) (event : RecvEnv × Recvmsg)
    : HeardRight handle s event ↔ NotBehind handle s event := by
  obtain ⟨env, found⟩ := event
  constructor
  · rintro right ⟨datagram, frame⟩ arrives ele matched own
    by_contra behind
    obtain ⟨restart, behind⟩ := not_or.mp behind
    unfold NotBelow at behind
    push Not at behind
    obtain ⟨last, known, below⟩ := behind
    obtain ⟨result, received, routed⟩ := received_of_known arrives matched known env
    rw [own] at routed
    obtain ⟨ele', handled, check, matched', -, handles⟩ := routedTo received arrives routed
    obtain rfl := Option.some.inj (matched.symm.trans matched')
    have counted := (inv.known ele handles.member own _ _).counterRight_iff
      (d := ⟨datagram.srcIpAddr, frame.frameHead.msgType, frame.frameHead.sequenceCounter,
        result.accepted⟩)
      fun last known => handles.accepted.trans (handles.counted.known last known)
    have ahead := counted.mp (right result received (datagram, frame) arrives routed).1
    exact below ((ahead.resolve_left restart) last known)
  · rintro ahead result received ⟨datagram, frame⟩ arrives routed
    obtain ⟨ele, handled, check, matched, own, handles⟩ := routedTo received arrives routed
    have counted := (inv.known ele handles.member own _ _).counterRight_iff
      (d := ⟨datagram.srcIpAddr, frame.frameHead.msgType, frame.frameHead.sequenceCounter,
        result.accepted⟩)
      fun last known => handles.accepted.trans (handles.counted.known last known)
    refine ⟨counted.mpr (ahead (datagram, frame) arrives ele matched own), ?_, ?_⟩
    · intro accepted other member same
      obtain rfl := List.inj_on_of_nodup_map inv.distinct member handles.member
        (same.trans own.symm)
      exact ⟨handled.ele, handles.stays, handles.handle.trans own,
        handles.fresh (handles.accepted.mp accepted)⟩
    · intro refused
      have stale : check ≠ .fresh := by
        intro fresh
        cases refused.symm.trans (handles.accepted.mpr fresh)
      obtain ⟨silent, kept⟩ := handles.stale stale
      refine ⟨silent, fun other member same => ?_⟩
      obtain rfl := List.inj_on_of_nodup_map inv.distinct member handles.member
        (same.trans own.symm)
      exact ⟨handled.ele, handles.stays, handles.handle.trans own, kept⟩

theorem heardStep_keeps (inv : HeardInv handle s) (event : RecvEnv × Recvmsg) {next : HeardSys}
    (ahead : NotBehind handle s event) (stepped : heardStep handle s event = some next)
    : HeardInv handle next := by
  obtain ⟨env, found⟩ := event
  obtain ⟨result, received, rfl⟩ := Option.map_eq_some_iff.mp stepped
  have distinct := inv.distinct.received received
  refine ⟨distinct, ?_⟩
  dsimp only
  by_cases routed : result.routed = some handle
  · obtain ⟨datagram, frame, arrives⟩ := sane_of_routed received routed
    obtain ⟨ele, handled, check, matched, own, handles⟩ := routedTo received arrives routed
    rw [heardOf_routed arrives routed]
    intro ele' member same srcIp msgType
    obtain rfl := List.inj_on_of_nodup_map distinct member handles.stays
      (same.trans (handles.handle.trans own).symm)
    have known := inv.known ele handles.member own srcIp msgType
    by_cases fresh : check = .fresh
    · rw [handles.counted.fresh fresh]
      split
      · rename_i isOf
        obtain ⟨rfl, rfl⟩ := isOf
        exact known.deliver ⟨rfl, rfl⟩ (handles.accepted.mpr fresh)
          (ahead (datagram, frame) arrives ele matched own)
      · rename_i other
        exact known.pass fun isOf => absurd ⟨isOf.1.symm, isOf.2.symm⟩ other
    · rw [handles.counted.stale fresh]
      refine known.pass fun isOf => ⟨?_, ?_⟩
      · exact Bool.eq_false_iff.mpr fun accepted => fresh (handles.accepted.mp accepted)
      · intro stored restart
        obtain ⟨last, stored⟩ := Option.isSome_iff_exists.mp stored
        obtain ⟨rfl, rfl⟩ := isOf
        exact fresh ((handles.counted.known last stored).mpr (Or.inl restart))
  · rw [heardOf_unrouted routed, List.append_nil]
    intro ele' member same
    exact inv.known ele' (unrouted_mem received routed member same) same

/-- From a subscription that has heard nothing, every run of receptions treats each telegram that
the subscription is found for as the sequence counters ask exactly if none is behind the counter
that is kept of its sender.
-/
theorem stale_undelivered (distinct : DistinctHandles session)
    (unheard : ∀ ele ∈ session.pRcvQueue, ele.handle = handle → ele.pSeqCntList = none)
    (events : List (RecvEnv × Recvmsg))
    : Along (faulting (heardStep handle)) (BeforeFault (HeardRight handle))
        (some (.start session)) events
      ↔ Along (faulting (heardStep handle)) (BeforeFault (NotBehind handle))
        (some (.start session)) events := by
  have start : HeardInv handle (.start session) := by
    refine ⟨distinct, fun ele member own srcIp msgType => ?_⟩
    dsimp only [HeardSys.start] at member ⊢
    rw [unheard ele member own]
    exact known_nil srcIp msgType
  exact faulting_iff (fun _ event _ inv ahead stepped => heardStep_keeps inv event ahead stepped)
    (fun _ event inv => heardRight_iff inv event) start events

/-- A telegram of comId 1000 with this counter. -/
def numbered (sequenceCounter : U32) : RecvEnv × Recvmsg :=
  (receiveAt (clockAt 10),
    .datagram (telegramBytes trdpMsgPd 1000 sequenceCounter [1, 2, 3, 4]) 0x0a000002 0x0a000001)

theorem stale_undelivered_restarted
    : Along (faulting (heardStep 1)) (BeforeFault (HeardRight 1)) (some (.start polledSession))
        [numbered 5, numbered 6, numbered 6, numbered 0, numbered 5] := by
  refine (stale_undelivered polledSession_distinct ?_ _).mpr (by decide +kernel)
  intro ele member _
  have unheard : polledSession.pRcvQueue.map PdEle.pSeqCntList = [none] := by decide +kernel
  exact List.mem_singleton.mp (unheard ▸ List.mem_map_of_mem member)

/-- A telegram that is older than the last one is delivered. -/
theorem stale_undelivered_late
    : ¬ Along (faulting (heardStep 1)) (BeforeFault (HeardRight 1)) (some (.start polledSession))
        [numbered 5, numbered 3] := by
  rintro ⟨-, second, -⟩
  have computed :
      ((faulting (heardStep 1) (some (.start polledSession)) (numbered 5)).bind fun s =>
        (trdpPdReceive (numbered 3).1 (numbered 3).2 s.session).bind fun result =>
          (sane (numbered 3).2 s.session).map fun arrival =>
            (s.heard, result.routed, arrival.1.srcIpAddr, arrival.2.frameHead.msgType,
              arrival.2.frameHead.sequenceCounter, result.accepted))
        = some ([⟨0x0a000002, trdpMsgPd, 5, true⟩], some 1, 0x0a000002, trdpMsgPd, 3, true) := by
    decide +kernel
  obtain ⟨s, reached, rest⟩ := Option.bind_eq_some_iff.mp computed
  obtain ⟨result, received, rest⟩ := Option.bind_eq_some_iff.mp rest
  obtain ⟨arrival, arrives, same⟩ := Option.map_eq_some_iff.mp rest
  simp only [Prod.mk.injEq] at same
  obtain ⟨heard, routed, src, type, counter, accepted⟩ := same
  obtain ⟨right, -⟩ := second s reached result received arrival arrives routed
  rw [heard, src, type, counter, accepted] at right
  have refused := right.stale [] ⟨0x0a000002, trdpMsgPd, 5, true⟩ [] rfl ⟨rfl, rfl⟩ rfl
    (fun x member => absurd member List.not_mem_nil) (by decide) (by decide)
  cases refused

end TsnTrdp.Trdp
