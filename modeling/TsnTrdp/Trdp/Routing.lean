import TsnTrdp.Trdp.Reception
import TsnTrdp.Lib.Run

/-! Which subscription a datagram goes to. A subscription keeps the destination of the last
datagram that it was found for where it keeps the destination that it was subscribed with, so it
is found for the datagrams that it was subscribed for only while the two agree.
-/

namespace TsnTrdp.Trdp

open TsnTrdp.Queue TsnTrdp.Run

/-- The filters that a subscription was given let the addresses of a datagram pass. -/
def TrdpAddresses.accepts (filters addr : TrdpAddresses) : Bool :=
  filters.comId = addr.comId
  ∧ (filters.srcIpAddr = 0 ∨ filters.srcIpAddr = addr.srcIpAddr)
  ∧ (filters.destIpAddr = 0 ∨ filters.destIpAddr = addr.destIpAddr)

/-- A session with its subscriptions as they were made: the handle and the filters of each. -/
structure RouteSys where
  session : TrdpSession
  subscribed : List (Nat × TrdpAddresses)

def RouteSys.start (session : TrdpSession) : RouteSys := ⟨session, []⟩

/-- The application subscribes, or a datagram is processed. -/
inductive RouteEvent
  | subscribe (env : SubscribeEnv) (args : SubscribeArgs)
  | receive (env : RecvEnv) (found : Recvmsg)

/-- A step; a new element has the address of no other. -/
def routeStep (s : RouteSys) : RouteEvent → Option RouteSys
  | .subscribe env args =>
      if env.handle ∈ s.session.pRcvQueue.map PdEle.handle then some s
      else
        match tlpSubscribe env args s.session with
        | (.noErr, session) => some ⟨session, s.subscribed ++ [(env.handle, args.addr)]⟩
        | (_, session) => some { s with session }
  | .receive env found =>
      (trdpPdReceive env found s.session).map fun result => { s with session := result.session }

/-- The first subscription that was made for such a datagram. -/
def RouteSys.firstFor (s : RouteSys) (addr : TrdpAddresses) : Option (Nat × TrdpAddresses) :=
  s.subscribed.find? fun sub => sub.2.accepts addr

/-- The subscription that a datagram is meant for; one that fails the header check is meant for
none.
-/
def RouteSys.subscribedRoute (s : RouteSys) (found : Recvmsg) : Option Nat :=
  (sane found s.session).bind fun (datagram, frame) =>
    (s.firstFor (datagram.addr frame.frameHead)).map Prod.fst

/-- The subscription that the datagram is meant for holds the destination 0, or the datagram's. -/
def RouteSys.FilterKept (s : RouteSys) (found : Recvmsg) : Prop :=
  ∀ arrival ∈ sane found s.session,
    ∀ sub ∈ s.firstFor (arrival.1.addr arrival.2.frameHead),
      ∀ ele ∈ s.session.pRcvQueue,
        ele.handle = sub.1
        → ele.addr.destIpAddr = 0 ∨ ele.addr.destIpAddr = arrival.1.destIpAddr

instance (s : RouteSys) (found : Recvmsg) : Decidable (s.FilterKept found) :=
  inferInstanceAs (Decidable (∀ _ ∈ sane found s.session, _))

/-- What an element keeps of its subscription. -/
structure AsSubscribed (sub : Nat × TrdpAddresses) (ele : PdEle) : Prop where
  handle : ele.handle = sub.1
  comId : ele.addr.comId = sub.2.comId
  srcIpAddr : ele.addr.srcIpAddr = sub.2.srcIpAddr
  destIpAddr : sub.2.destIpAddr = 0 ∨ ele.addr.destIpAddr = sub.2.destIpAddr

structure RouteInv (s : RouteSys) : Prop where
  queue : List.Forall₂ AsSubscribed s.subscribed s.session.pRcvQueue
  handles : (s.subscribed.map Prod.fst).Nodup

variable {env : RecvEnv} {found : Recvmsg} {result : RecvResult} {s : RouteSys}
  {sub : Nat × TrdpAddresses} {ele : PdEle} {addr : TrdpAddresses}

/-- An element matches nothing that its subscription was not made for. -/
theorem AsSubscribed.accepts (kept : AsSubscribed sub ele) (matched : ele.matchesSubAddr addr)
    : sub.2.accepts addr := by
  obtain ⟨comId, src, dest⟩ := of_decide_eq_true matched
  rw [kept.comId] at comId
  rw [kept.srcIpAddr] at src
  refine decide_eq_true ⟨comId, src, ?_⟩
  rcases kept.destIpAddr with any | same
  · exact Or.inl any
  · rwa [same] at dest

/-- It matches what its subscription was made for if its destination allows it. -/
theorem AsSubscribed.matches_iff (kept : AsSubscribed sub ele) (accepts : sub.2.accepts addr)
    : ele.matchesSubAddr addr
      ↔ ele.addr.destIpAddr = 0 ∨ ele.addr.destIpAddr = addr.destIpAddr := by
  obtain ⟨comId, src, -⟩ := of_decide_eq_true accepts
  rw [← kept.comId] at comId
  rw [← kept.srcIpAddr] at src
  exact ⟨fun matched => (of_decide_eq_true matched).2.2,
    fun dest => decide_eq_true ⟨comId, src, dest⟩⟩

/-- A datagram that the element matches leaves what it keeps: the destination changes only where
any was subscribed.
-/
theorem AsSubscribed.heard (kept : AsSubscribed sub ele) {ele' : PdEle}
    (matched : ele.matchesSubAddr addr) (heard : HeardFrom addr.destIpAddr ele ele')
    : AsSubscribed sub ele' := by
  refine ⟨heard.handle.trans kept.handle, heard.comId.trans kept.comId,
    heard.srcIpAddr.trans kept.srcIpAddr, ?_⟩
  by_cases any : sub.2.destIpAddr = 0
  · exact Or.inl any
  have same := kept.destIpAddr.resolve_left any
  rcases (of_decide_eq_true matched).2.2 with zero | dest
  · exact absurd (same.symm.trans zero) any
  · exact Or.inr (heard.destIpAddr.trans (dest.symm.trans same))

theorem RouteInv.receive (inv : RouteInv s)
    (received : trdpPdReceive env found s.session = some result)
    : RouteInv { s with session := result.session } := by
  refine ⟨?_, inv.handles⟩
  cases trdpPdReceive_cases received with
  | refused _ refused => rw [refused.pRcvQueue]; exact inv.queue
  | unsubscribed _ _ _ _ _ pRcvQueue _ _ _ => rw [pRcvQueue]; exact inv.queue
  | routed datagram frame ele _ handled _ matched handles _ pRcvQueue _ _ _ =>
      rw [pRcvQueue]
      have heard := pdHandle_heardFrom handles
      have meets := List.find?_some matched
      exact forall₂_modifyFirst inv.queue matched (fun _ _ kept => kept)
        fun sub kept => kept.heard meets heard

theorem routeStep_keeps (event : RouteEvent) {next : RouteSys} (inv : RouteInv s)
    (stepped : routeStep s event = some next)
    : RouteInv next := by
  cases event with
  | receive env found =>
      obtain ⟨result, received, rfl⟩ := Option.map_eq_some_iff.mp stepped
      exact inv.receive received
  | subscribe env args =>
      dsimp only [routeStep] at stepped
      split at stepped
      · obtain rfl := Option.some.inj stepped
        exact inv
      rename_i fresh
      rcases tlpSubscribe_cases env args s.session with ⟨err, refused, failed⟩ | ⟨socketIdx, made⟩
      · rw [refused] at stepped
        cases err with
        | noErr => exact absurd rfl failed
        | _ =>
            obtain rfl := Option.some.inj stepped
            exact inv
      · rw [made] at stepped
        obtain rfl := Option.some.inj stepped
        have names := map_of_forall₂ inv.queue fun _ _ kept => kept.handle
        refine ⟨?_, ?_⟩
        · exact List.rel_append inv.queue (.cons ⟨rfl, rfl, rfl, Or.inr rfl⟩ .nil)
        · rw [names] at fresh
          rw [List.map_append, List.map_singleton]
          exact inv.handles.append (List.nodup_singleton _) (List.disjoint_singleton.mpr fresh)

/-- A reception hands the datagram to the first element that matches it. -/
theorem routed_eq (received : trdpPdReceive env found s.session = some result)
    : result.routed
      = (sane found s.session).bind fun (datagram, frame) =>
          (s.session.pRcvQueue.find?
            (PdEle.matchesSubAddr (datagram.addr frame.frameHead))).map PdEle.handle := by
  cases trdpPdReceive_cases received with
  | refused insane refused => rw [insane, refused.routed]; rfl
  | unsubscribed _ _ arrives unmatched _ _ _ routed _ =>
      rw [arrives, routed, Option.bind_some]
      exact (congrArg (Option.map PdEle.handle) unmatched).symm
  | routed _ _ _ _ _ arrives matched _ _ _ _ routed _ =>
      rw [arrives, routed, Option.bind_some]
      exact (congrArg (Option.map PdEle.handle) matched).symm

theorem RouteInv.routed_iff (inv : RouteInv s)
    (received : trdpPdReceive env found s.session = some result)
    : result.routed = s.subscribedRoute found ↔ s.FilterKept found := by
  rw [routed_eq received]
  unfold RouteSys.subscribedRoute RouteSys.FilterKept
  cases sane found s.session with
  | none => simp
  | some arrival =>
      obtain ⟨datagram, frame⟩ := arrival
      have names : ∀ sub ele, AsSubscribed sub ele → ele.handle = sub.1 :=
        fun _ _ kept => kept.handle
      simp only [Option.bind_some, Option.mem_def, Option.some.injEq, forall_eq']
      refine (find?_forall₂ inv.queue names (fun _ _ kept matched => kept.accepts matched)
        inv.handles).trans ?_
      refine forall₂_congr fun sub first => forall₃_congr fun ele member same => ?_
      have kept := related_of_name inv.queue names inv.handles
        (List.mem_of_find?_eq_some first) member same
      have accepts := List.find?_some (p := fun sub : Nat × TrdpAddresses =>
        sub.2.accepts (datagram.addr frame.frameHead)) first
      exact kept.matches_iff accepts

/-- After every run of subscriptions and datagrams from an empty receive queue, a datagram goes
to the first subscription that was made for it exactly if that subscription still holds the
destination 0 or the datagram's.
-/
theorem subscription_routing {session : TrdpSession} (empty : session.pRcvQueue = [])
    {events : List RouteEvent}
    (reached : run (faulting routeStep) (some (.start session)) events = some s)
    (received : trdpPdReceive env found s.session = some result)
    : result.routed = s.subscribedRoute found ↔ s.FilterKept found := by
  have start : RouteInv (.start session) := by
    refine ⟨?_, List.nodup_nil⟩
    dsimp only [RouteSys.start]
    rw [empty]
    exact .nil
  have inv := faulting_reaches (fun _ event _ inv => routeStep_keeps event inv) start reached
  exact inv.routed_iff received

/-- A subscription of comId 1000 to any destination, and what was sent to a group. -/
def anyDestination : RouteEvent := .subscribe (subscribeAt (clockAt 0) 1) (polled 0 0)

def sentTo (destIpAddr sequenceCounter : U32) : Recvmsg :=
  .datagram (telegramBytes trdpMsgPd 1000 sequenceCounter [1, 2, 3, 4]) 0x0a000002 destIpAddr

theorem subscription_routing_same_group
    : ∃ s result,
        run (faulting routeStep) (some (.start openedSession))
          [anyDestination, .receive (receiveAt (clockAt 10)) (sentTo 0xef000001 1)] = some s
        ∧ trdpPdReceive (receiveAt (clockAt 20)) (sentTo 0xef000001 2) s.session = some result
        ∧ result.routed = s.subscribedRoute (sentTo 0xef000001 2) := by
  have computed :
      ((run (faulting routeStep) (some (.start openedSession))
        [anyDestination, .receive (receiveAt (clockAt 10)) (sentTo 0xef000001 1)]).bind fun s =>
          (trdpPdReceive (receiveAt (clockAt 20)) (sentTo 0xef000001 2) s.session).map fun _ =>
            decide (s.FilterKept (sentTo 0xef000001 2))) = some true := by
    decide +kernel
  obtain ⟨s, reached, rest⟩ := Option.bind_eq_some_iff.mp computed
  obtain ⟨result, received, filterKept⟩ := Option.map_eq_some_iff.mp rest
  have routes := subscription_routing rfl reached received
  exact ⟨s, result, reached, received, routes.mpr (of_decide_eq_true filterKept)⟩

/-- The first datagram to a subscription of any destination narrows it to its own. -/
theorem subscription_routing_narrowed
    : ∃ s result,
        run (faulting routeStep) (some (.start openedSession))
          [anyDestination, .receive (receiveAt (clockAt 10)) (sentTo 0xef000001 1)] = some s
        ∧ trdpPdReceive (receiveAt (clockAt 20)) (sentTo 0xef000002 1) s.session = some result
        ∧ result.routed = none ∧ s.subscribedRoute (sentTo 0xef000002 1) = some 1 := by
  have computed :
      ((run (faulting routeStep) (some (.start openedSession))
        [anyDestination, .receive (receiveAt (clockAt 10)) (sentTo 0xef000001 1)]).bind fun s =>
          (trdpPdReceive (receiveAt (clockAt 20)) (sentTo 0xef000002 1) s.session).map
            fun result => (result.routed, s.subscribedRoute (sentTo 0xef000002 1)))
        = some (none, some 1) := by
    decide +kernel
  obtain ⟨s, reached, rest⟩ := Option.bind_eq_some_iff.mp computed
  obtain ⟨result, received, routes⟩ := Option.map_eq_some_iff.mp rest
  obtain ⟨missed, meant⟩ := Prod.mk.inj routes
  exact ⟨s, result, reached, received, missed, meant⟩

end TsnTrdp.Trdp
