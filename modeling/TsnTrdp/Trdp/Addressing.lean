import TsnTrdp.Lib.Run
import TsnTrdp.Trdp.Withdraw
import TsnTrdp.Trdp.SendSchedule
import TsnTrdp.Trdp.Reception

/-! Addresses of a session. What is published or subscribed is checked against what is queued, but
what gets other addresses is not; a session has no duplicates exactly as long as nothing is given
the addresses of another.
-/

namespace TsnTrdp.Trdp

open TsnTrdp.Run TsnTrdp.Queue

/-- What tells elements of one queue apart. -/
def PdEle.addressing (ele : PdEle) : U32 × U32 × U32 :=
  (ele.addr.comId, ele.addr.srcIpAddr, ele.addr.destIpAddr)

/-- The calls that add elements, remove them, and give them other addresses. `socket` is the result
of the request that a subscription to another group makes.
-/
inductive AddrCall
  | publish (env : PublishEnv) (args : PublishArgs)
  | republish (handle : Nat) (etbTopoCnt opTrnTopoCnt srcIpAddr destIpAddr : U32)
  | unpublish (handle : Nat)
  | subscribe (env : SubscribeEnv) (args : SubscribeArgs)
  | resubscribe (socket : Except TrdpErr Int) (handle : Nat) (args : ResubscribeArgs)
  | unsubscribe (handle : Nat)

def addrStep (session : TrdpSession) : AddrCall → TrdpSession
  | .publish env args =>
      (tlpPublish { env with trdpPdDistribute := trdpPdDistribute } args session).2
  | .republish handle etbTopoCnt opTrnTopoCnt srcIpAddr destIpAddr =>
      (tlpRepublish handle etbTopoCnt opTrnTopoCnt srcIpAddr destIpAddr session).2
  | .unpublish handle => (tlpUnpublish handle session).2
  | .subscribe env args => (tlpSubscribe env args session).2
  | .resubscribe socket handle args => (tlpResubscribe socket handle args session).2
  | .unsubscribe handle => (tlpUnsubscribe handle session).2

/-- No two publishers and no two subscriptions have the same addresses. -/
structure Unduplicated (session : TrdpSession) : Prop where
  publishers : (session.pSndQueue.map PdEle.addressing).Nodup
  subscriptions : (session.pRcvQueue.map PdEle.addressing).Nodup

/-- The element at `handle` is the only one of the queue with the addresses that it gets. -/
def AddressesFree (queue : List PdEle) (handle : Nat) (srcIpAddr destIpAddr : U32) (ele : PdEle)
    : Prop :=
  ∀ other ∈ queue.eraseP (PdEle.isAt handle),
    other.addressing ≠ (ele.addr.comId, srcIpAddr, destIpAddr)

instance (queue : List PdEle) (handle : Nat) (srcIpAddr destIpAddr : U32) (ele : PdEle)
    : Decidable (AddressesFree queue handle srcIpAddr destIpAddr ele) :=
  inferInstanceAs (Decidable (∀ other ∈ _, _))

/-- No queued element gets the addresses of another. A subscription that gets no socket for its new
group gets no addresses.
-/
def AddressesKept (session : TrdpSession) : AddrCall → Prop
  | .republish handle _ _ srcIpAddr destIpAddr =>
      ∀ ele ∈ session.pSndQueue.find? (PdEle.isAt handle),
        AddressesFree session.pSndQueue handle srcIpAddr destIpAddr ele
  | .resubscribe socket handle args =>
      ∀ ele ∈ session.pRcvQueue.find? (PdEle.isAt handle),
        (ele.regroups args.destIpAddr = true → ∃ socketIdx, socket = .ok socketIdx)
          → AddressesFree session.pRcvQueue handle args.srcIpAddr args.destIpAddr ele
  | .publish .. | .unpublish _ | .subscribe .. | .unsubscribe _ => True

variable {session : TrdpSession} {call : AddrCall} {queue queue' : List PdEle} {ele : PdEle}
  {handle : Nat} {f : PdEle → PdEle}

theorem nodup_concat (distinct : (queue.map PdEle.addressing).Nodup)
    (fresh : ∀ old ∈ queue, old.addressing ≠ ele.addressing)
    : ((queue ++ [ele]).map PdEle.addressing).Nodup := by
  rw [((List.perm_append_singleton ele queue).map _).nodup_iff, List.map_cons, List.nodup_cons]
  refine ⟨fun member => ?_, distinct⟩
  obtain ⟨old, among, same⟩ := List.mem_map.mp member
  exact fresh old among same

theorem nodup_eraseP (distinct : (queue.map PdEle.addressing).Nodup)
    : ((queue.eraseP (PdEle.isAt handle)).map PdEle.addressing).Nodup :=
  distinct.sublist (List.eraseP_sublist.map _)

/-- A queue with one element changed has no duplicates if no other element has the addresses that
the change gives.
-/
theorem nodup_modifyFirst_iff (distinct : (queue.map PdEle.addressing).Nodup)
    {srcIpAddr destIpAddr : U32} (found : queue.find? (PdEle.isAt handle) = some ele)
    (gives : (f ele).addressing = (ele.addr.comId, srcIpAddr, destIpAddr))
    : ((modifyFirst (PdEle.isAt handle) f queue).map PdEle.addressing).Nodup
      ↔ AddressesFree queue handle srcIpAddr destIpAddr ele := by
  rw [((modifyFirst_perm found).map _).nodup_iff, List.map_cons, List.nodup_cons, gives,
    and_iff_left (nodup_eraseP distinct), List.mem_map, AddressesFree]
  constructor
  · exact fun fresh other member same => fresh ⟨other, member, same⟩
  · rintro free ⟨other, member, same⟩
    exact free other member same

/-- The invariant: no duplicates, and each publisher's group is that of its destination. -/
structure AddrInv (session : TrdpSession) : Prop where
  unduplicated : Unduplicated session
  groups : ∀ ele ∈ session.pSndQueue, ele.addr.mcGroup = multicastGroup ele.addr.destIpAddr

/-- A publication that is accepted has addresses of its own. The group decides nothing, since it
is that of the destination.
-/
theorem AddrInv.publish (inv : AddrInv session) (env : PublishEnv) (args : PublishArgs)
    : AddrInv (addrStep session (.publish env args)) := by
  simp only [addrStep]
  rcases tlpPublish_cases { env with trdpPdDistribute := trdpPdDistribute } args session rfl with
    ⟨-, same⟩ | ⟨socketIdx, new, queue, publishes⟩
  · rw [same]
    exact inv
  · have addr : new.addr = args.addr session.realIp := publishes.keeps.same.addr
    have group : new.addr.mcGroup = multicastGroup new.addr.destIpAddr := by
      rw [addr]
      rfl
    have fresh : ∀ old ∈ session.pSndQueue, old.addressing ≠ new.addressing := by
      intro old member same
      have missed := List.find?_eq_none.mp
        (Option.isSome_eq_false_iff.mp publishes.asks.2.1 |> Option.isNone_iff_eq_none.mp)
        old member
      simp only [PdEle.addressing, Prod.mk.injEq] at same
      obtain ⟨comId, src, dest⟩ := same
      have mc : old.addr.mcGroup = new.addr.mcGroup := by
        rw [inv.groups old member, group, dest]
      rw [addr] at comId src dest mc
      exact missed (decide_eq_true ⟨comId, .inr src, .inr dest, .inr mc⟩)
    have addresses : queue.map PdEle.addressing
        = (session.pSndQueue ++ [new]).map PdEle.addressing :=
      publishes.retimed.map_eq fun _ _ => rfl
    rw [publishes.eq]
    refine ⟨⟨?_, inv.unduplicated.subscriptions⟩, fun ele member => ?_⟩
    · show (queue.map PdEle.addressing).Nodup
      rw [addresses]
      exact nodup_concat inv.unduplicated.publishers fresh
    · obtain ⟨old, among, same⟩ := exists_of_mem publishes.retimed member
      rw [same]
      rcases List.mem_append.mp among with earlier | added
      · exact inv.groups old earlier
      · exact List.mem_singleton.mp added ▸ group

theorem AddrInv.unpublish (inv : AddrInv session) (handle : Nat)
    : AddrInv (addrStep session (.unpublish handle)) := by
  simp only [addrStep, tlpUnpublish]
  split
  · exact inv
  · have retimed := pdReshape_retimed session.trafficShaping
      (session.pSndQueue.eraseP (PdEle.isAt handle))
    refine ⟨⟨?_, inv.unduplicated.subscriptions⟩, fun ele member => ?_⟩
    · have addresses := retimed.map_eq (g := PdEle.addressing) fun _ _ => rfl
      dsimp only
      rw [addresses]
      exact nodup_eraseP inv.unduplicated.publishers
    · obtain ⟨old, among, same⟩ := exists_of_mem retimed member
      rw [same]
      exact inv.groups old (List.mem_of_mem_eraseP among)

theorem AddrInv.unsubscribe (inv : AddrInv session) (handle : Nat)
    : AddrInv (tlpUnsubscribe handle session).2 := by
  unfold tlpUnsubscribe
  split
  · exact inv
  · exact ⟨⟨inv.unduplicated.publishers, nodup_eraseP inv.unduplicated.subscriptions⟩, inv.groups⟩

theorem AddrInv.subscribe (inv : AddrInv session) (env : SubscribeEnv) (args : SubscribeArgs)
    : AddrInv (addrStep session (.subscribe env args)) := by
  simp only [addrStep]
  cases known : trdpQueueFindSubAddr session.pRcvQueue args.addr with
  | some old =>
      have refused : tlpSubscribe env args session = (.nosubErr, session) := by
        simp only [tlpSubscribe, known, Option.isSome_some, if_true]
      rw [refused]
      exact inv
  | none =>
      rcases tlpSubscribe_cases env args session with ⟨_, same, -⟩ | ⟨socketIdx, added⟩
      · rw [same]
        exact inv
      · rw [added]
        refine ⟨⟨inv.unduplicated.publishers, nodup_concat inv.unduplicated.subscriptions ?_⟩,
          inv.groups⟩
        intro old member same
        have missed := List.find?_eq_none.mp known old member
        simp only [PdEle.addressing, Prod.mk.injEq] at same
        obtain ⟨comId, src, dest⟩ := same
        exact missed (decide_eq_true ⟨comId, .inr src, .inr dest⟩)

theorem republished_addressing (etbTopoCnt opTrnTopoCnt srcIpAddr destIpAddr : U32) (ele : PdEle)
    : (ele.republished etbTopoCnt opTrnTopoCnt srcIpAddr destIpAddr).addressing
      = (ele.addr.comId, srcIpAddr, destIpAddr) := rfl

theorem resubscribed_addressing (args : ResubscribeArgs) (socketIdx : Int) (ele : PdEle)
    : (ele.resubscribed args socketIdx).addressing
      = (ele.addr.comId, args.srcIpAddr, args.destIpAddr) := rfl

/-- A publisher that gets other addresses is alone with them exactly if they are free. -/
theorem AddrInv.republish_iff (inv : AddrInv session)
    (etbTopoCnt opTrnTopoCnt srcIpAddr destIpAddr : U32)
    : Unduplicated (tlpRepublish handle etbTopoCnt opTrnTopoCnt srcIpAddr destIpAddr session).2
      ↔ ∀ ele ∈ session.pSndQueue.find? (PdEle.isAt handle),
        AddressesFree session.pSndQueue handle srcIpAddr destIpAddr ele := by
  unfold tlpRepublish
  cases found : session.pSndQueue.find? (PdEle.isAt handle) with
  | none =>
      simp only [Option.isNone_none, if_true]
      exact iff_of_true inv.unduplicated fun _ member => absurd member (Option.not_mem_none _)
  | some ele =>
      simp only [Option.isNone_some, Bool.false_eq_true, if_false, Option.mem_some_iff,
        forall_eq']
      rw [← nodup_modifyFirst_iff inv.unduplicated.publishers found
        (republished_addressing etbTopoCnt opTrnTopoCnt srcIpAddr destIpAddr ele)]
      constructor
      · exact fun distinct => distinct.publishers
      · exact fun distinct => ⟨distinct, inv.unduplicated.subscriptions⟩

/-- A subscription that gets other addresses is alone with them exactly if they are free; without a
socket for its new group it is taken back.
-/
theorem AddrInv.resubscribe_iff (inv : AddrInv session) (socket : Except TrdpErr Int)
    (args : ResubscribeArgs)
    : Unduplicated (tlpResubscribe socket handle args session).2
      ↔ ∀ ele ∈ session.pRcvQueue.find? (PdEle.isAt handle),
        (ele.regroups args.destIpAddr = true → ∃ socketIdx, socket = .ok socketIdx)
          → AddressesFree session.pRcvQueue handle args.srcIpAddr args.destIpAddr ele := by
  unfold tlpResubscribe
  cases found : session.pRcvQueue.find? (PdEle.isAt handle) with
  | none =>
      exact iff_of_true inv.unduplicated fun _ member => absurd member (Option.not_mem_none _)
  | some ele =>
      have changed : ∀ socketIdx,
          Unduplicated
              { session with
                pRcvQueue :=
                  modifyFirst (PdEle.isAt handle) (PdEle.resubscribed args socketIdx)
                    session.pRcvQueue }
            ↔ AddressesFree session.pRcvQueue handle args.srcIpAddr args.destIpAddr ele := by
        intro socketIdx
        rw [← nodup_modifyFirst_iff inv.unduplicated.subscriptions found
          (resubscribed_addressing args socketIdx ele)]
        constructor
        · exact fun distinct => distinct.subscriptions
        · exact fun distinct => ⟨inv.unduplicated.publishers, distinct⟩
      simp only [Option.mem_some_iff, forall_eq']
      cases regroups : ele.regroups args.destIpAddr with
      | false =>
          simp only [Bool.false_eq_true, if_false, false_imp_iff, true_imp_iff]
          exact changed ele.socketIdx
      | true =>
          simp only [if_true, true_imp_iff]
          cases socket with
          | error err =>
              refine iff_of_true (inv.unsubscribe handle).unduplicated ?_
              rintro ⟨_, ok⟩
              cases ok
          | ok socketIdx =>
              refine (changed socketIdx).trans ⟨fun free _ => free, fun free => free ⟨_, rfl⟩⟩

/-- A call leaves the session without duplicates exactly if it gives no element the addresses of
another.
-/
theorem AddrInv.unduplicated_iff (inv : AddrInv session) (call : AddrCall)
    : Unduplicated (addrStep session call) ↔ AddressesKept session call := by
  cases call with
  | publish env args => exact iff_of_true (inv.publish env args).unduplicated trivial
  | republish handle etb opTrn src dest => exact inv.republish_iff etb opTrn src dest
  | unpublish handle => exact iff_of_true (inv.unpublish handle).unduplicated trivial
  | subscribe env args => exact iff_of_true (inv.subscribe env args).unduplicated trivial
  | resubscribe socket handle args => exact inv.resubscribe_iff socket args
  | unsubscribe handle => exact iff_of_true (inv.unsubscribe handle).unduplicated trivial

/-- Every call leaves the publishers' groups right. -/
theorem AddrInv.groups_step (inv : AddrInv session) (call : AddrCall)
    : ∀ ele ∈ (addrStep session call).pSndQueue,
      ele.addr.mcGroup = multicastGroup ele.addr.destIpAddr := by
  cases call with
  | publish env args => exact (inv.publish env args).groups
  | republish handle etb opTrn src dest =>
      simp only [addrStep, tlpRepublish]
      split
      · exact inv.groups
      · intro ele member
        rcases mem_modifyFirst member with old | ⟨changed, -, rfl⟩
        · exact inv.groups ele old
        · rfl
  | unpublish handle => exact (inv.unpublish handle).groups
  | subscribe env args => exact (inv.subscribe env args).groups
  | resubscribe socket handle args =>
      have same : (tlpResubscribe socket handle args session).2.pSndQueue = session.pSndQueue := by
        unfold tlpResubscribe tlpUnsubscribe
        repeat' split
        all_goals rfl
      simp only [addrStep, same]
      exact inv.groups
  | unsubscribe handle => exact (inv.unsubscribe handle).groups

/-- From empty queues, a session has no duplicates after each call of a run exactly as far as no
call gives an element the addresses of another.
-/
theorem addresses_unduplicated (noPublisher : session.pSndQueue = [])
    (noSubscription : session.pRcvQueue = []) (calls : List AddrCall)
    : Along addrStep (fun session call => Unduplicated (addrStep session call)) session calls
      ↔ Along addrStep AddressesKept session calls := by
  have start : AddrInv session := by
    refine ⟨⟨?_, ?_⟩, fun ele member => ?_⟩
    · rw [noPublisher]
      exact List.nodup_nil
    · rw [noSubscription]
      exact List.nodup_nil
    · rw [noPublisher] at member
      cases member
  have keeps : ∀ session call, AddrInv session → AddressesKept session call
      → AddrInv (addrStep session call) :=
    fun _ call inv kept => ⟨(inv.unduplicated_iff call).mpr kept, inv.groups_step call⟩
  have same : ∀ session call, AddrInv session
      → (Unduplicated (addrStep session call) ↔ AddressesKept session call) :=
    fun _ call inv => inv.unduplicated_iff call
  exact Along.iff_of_invariant keeps same start calls

/-- A publisher to one of the groups 239.0.0.1 and on. -/
def groupPublisher (handle : Nat) (group : U32) : AddrCall :=
  .publish (publishEnv handle) { cyclicPublisher none with destIpAddr := 0xef000000 + group }

/-- A publisher moves to a group that no other publishes to. -/
theorem addresses_unduplicated_moved
    : Along addrStep (fun session call => Unduplicated (addrStep session call)) openedSession
        [groupPublisher 1 1, groupPublisher 2 2, .republish 1 0 0 0x0a000001 0xef000003] := by
  refine (addresses_unduplicated rfl rfl _).mpr ⟨trivial, trivial, ?_, trivial⟩
  show ∀ ele ∈ _, AddressesFree _ _ _ _ ele
  decide +kernel

/-- A publisher moves to the group of another. -/
theorem addresses_unduplicated_doubled
    : ¬ Along addrStep (fun session call => Unduplicated (addrStep session call)) openedSession
        [groupPublisher 1 1, groupPublisher 2 2, .republish 1 0 0 0x0a000001 0xef000002] := by
  rintro ⟨-, -, ⟨distinct, -⟩, -⟩
  revert distinct
  decide +kernel

end TsnTrdp.Trdp
