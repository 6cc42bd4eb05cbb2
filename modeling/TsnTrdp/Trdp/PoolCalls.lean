import TsnTrdp.Trdp.SocketPool
import TsnTrdp.Trdp.Withdraw
import TsnTrdp.Trdp.SendSchedule
import TsnTrdp.Trdp.Reception

/-! The calls that take and release sockets. In every run of them in which no call reaches one of
the branches that forget a release or release twice, every slot counts the queued elements that
use it, and has the socket that they need.
-/

namespace TsnTrdp.Trdp

open TsnTrdp.Run TsnTrdp.Queue

-----------------------------------------------------------------------------------------
-- The calls
-----------------------------------------------------------------------------------------

/-- The session with its pool. `defaultParam` are the send parameters of its configuration, and
`asked` those that each publisher was published with, which no element stores.
-/
structure PoolSys where
  session : TrdpSession
  pool : SocketPool
  defaultParam : SendParam
  asked : Nat → SendParam

/-- The elements of both queues. -/
def PoolSys.queued (s : PoolSys) : List PdEle := s.session.pSndQueue ++ s.session.pRcvQueue

/-- An address that an allocation returns is not in use. -/
def PoolSys.Fresh (s : PoolSys) (handle : Nat) : Prop := handle ∉ s.queued.map PdEle.handle

instance (s : PoolSys) (handle : Nat) : Decidable (s.Fresh handle) :=
  inferInstanceAs (Decidable (_ ∉ _))

/-- A call, with what it meets; `env.socket` of a publication or subscription is not read. Another
session may raise the mark at any time.
-/
inductive PoolCall
  | publish (env : PublishEnv) (sock : SockEnv) (args : PublishArgs) (pSendParam : Option SendParam)
  | unpublish (handle : Nat)
  | subscribe (env : SubscribeEnv) (sock : SockEnv) (args : SubscribeArgs)
  | resubscribe (sock : SockEnv) (handle : Nat) (args : ResubscribeArgs)
  | unsubscribe (handle : Nat)
  | otherSession (sCurrentMaxSocketCnt : Nat)

/-- What a call leaves: its result, the slots whose sockets it closed, and the request that it made,
with the pool that the request found.
-/
structure CallResult where
  err : TrdpErr
  sys : PoolSys
  closed : List Nat
  request : Option (SockEnv × SocketRequest × SocketPool)

/-- The request of a publisher. -/
def PublishArgs.request (args : PublishArgs) (realIp : U32) (params : SendParam)
    : SocketRequest where
  params
  srcIp := (args.addr realIp).srcIpAddr
  mcGroup := 0
  usage := .pd
  rcvMostly := false
  useSocket := vosInvalidSocket
  cornerIp := 0

/-- The request of a subscription to this destination. -/
def subscriptionRequest (realIp : U32) (params : SendParam) (destIpAddr : U32) : SocketRequest where
  params
  srcIp := realIp
  mcGroup := multicastGroup destIpAddr
  usage := .pd
  rcvMostly := true
  useSocket := vosInvalidSocket
  cornerIp := 0

/-- The result of a request, as its caller takes it; `old` is what `pIndex` points to. -/
def SocketResult.socket (result : SocketResult) (old : Int) : Except TrdpErr Int :=
  if result.err = .noErr then .ok (result.pIndex.getD old) else .error result.err

theorem SocketResult.socket_ne (result : SocketResult) (old : Int)
    : result.socket old ≠ .error .noErr := by
  unfold SocketResult.socket
  split
  · nofun
  · next failed => exact fun same => failed (Except.error.inj same)

/-- `tlp_publish` with its request. -/
def poolPublish (env : PublishEnv) (sock : SockEnv) (args : PublishArgs)
    (pSendParam : Option SendParam) (s : PoolSys)
    : CallResult :=
  let params := pSendParam.getD s.defaultParam
  let env := { env with trdpPdDistribute := trdpPdDistribute }
  if PublishAsks env args s.session then
    let req := args.request s.session.realIp params
    let result := trdpRequestSocket sock req s.pool
    let (err, session) := tlpPublish { env with socket := result.socket 0 } args s.session
    { err
      sys :=
        { s with
          session
          pool := result.pool
          asked := fun handle => if handle = env.handle then params else s.asked handle }
      closed := result.closed
      request := some (sock, req, s.pool) }
  else
    let (err, session) := tlpPublish env args s.session
    ⟨err, { s with session }, [], none⟩

/-- `tlp_subscribe` comes to its request. -/
def SubscribeAsks (args : SubscribeArgs) (session : TrdpSession) : Prop :=
  (trdpQueueFindSubAddr session.pRcvQueue args.addr).isSome = false

instance (args : SubscribeArgs) (session : TrdpSession) : Decidable (SubscribeAsks args session) :=
  inferInstanceAs (Decidable (_ = _))

/-- `tlp_subscribe` with its request. Without memory for the element the socket is released. -/
def poolSubscribe (env : SubscribeEnv) (sock : SockEnv) (args : SubscribeArgs) (s : PoolSys)
    : Option CallResult :=
  if SubscribeAsks args s.session then
    let req := subscriptionRequest s.session.realIp s.defaultParam args.destIpAddr
    let result := trdpRequestSocket sock req s.pool
    let (err, session) :=
      tlpSubscribe { env with socket := result.socket 0, fails := result.socket_ne 0 } args
        s.session
    if result.err = .noErr ∧ env.allocEle = false then
      (trdpReleaseSocket .cleared 0 (result.pIndex.getD 0) result.pool).map fun (pool, closed) =>
        ⟨err, { s with session, pool }, closed, some (sock, req, s.pool)⟩
    else
      some ⟨err, { s with session, pool := result.pool }, result.closed, some (sock, req, s.pool)⟩
  else
    let (err, session) := tlpSubscribe env args s.session
    some ⟨err, { s with session }, [], none⟩

/-- `tlp_resubscribe` with its request. Without a socket the subscription is taken back, which
releases what `socketIdx` says then.
-/
def poolResubscribe (sock : SockEnv) (handle : Nat) (args : ResubscribeArgs) (s : PoolSys)
    : Option CallResult :=
  match s.session.pRcvQueue.find? (PdEle.isAt handle) with
  | none => some ⟨.nosubErr, s, [], none⟩
  | some ele =>
      if ele.regroups args.destIpAddr then
        (trdpReleaseSocket .cleared 0 ele.socketIdx s.pool).bind fun (pool, closed) =>
          let req := subscriptionRequest s.session.realIp s.defaultParam args.destIpAddr
          let result := trdpRequestSocket sock req pool
          let (err, session) :=
            tlpResubscribe (result.socket ele.socketIdx) handle args s.session
          if result.err = .noErr then
            some ⟨err, { s with session, pool := result.pool }, closed ++ result.closed,
              some (sock, req, pool)⟩
          else
            (trdpReleaseSocket .cleared 0 (result.pIndex.getD ele.socketIdx) result.pool).map
              fun (pool', closed') =>
                ⟨err, { s with session, pool := pool' }, closed ++ result.closed ++ closed',
                  some (sock, req, pool)⟩
      else
        let (err, session) := tlpResubscribe (.ok ele.socketIdx) handle args s.session
        some ⟨err, { s with session }, [], none⟩

/-- A release with the removal of the element that `found` is. -/
def poolWithdraw (found : Option PdEle) (result : TrdpErr × TrdpSession) (s : PoolSys)
    : Option CallResult :=
  match found with
  | none => some ⟨result.1, { s with session := result.2 }, [], none⟩
  | some ele =>
      (trdpReleaseSocket .cleared 0 ele.socketIdx s.pool).map fun (pool, closed) =>
        ⟨result.1, { s with session := result.2, pool }, closed, none⟩

/-- One call. It may read a slot outside of the pool, which is a fault. -/
def poolCall (s : PoolSys) : PoolCall → Option CallResult
  | .publish env sock args pSendParam =>
      if s.Fresh env.handle then some (poolPublish env sock args pSendParam s)
      else some ⟨.noErr, s, [], none⟩
  | .unpublish handle =>
      poolWithdraw (s.session.pSndQueue.find? (PdEle.isAt handle)) (tlpUnpublish handle s.session) s
  | .subscribe env sock args =>
      if s.Fresh env.handle then poolSubscribe env sock args s
      else some ⟨.noErr, s, [], none⟩
  | .resubscribe sock handle args => poolResubscribe sock handle args s
  | .unsubscribe handle =>
      poolWithdraw (s.session.pRcvQueue.find? (PdEle.isAt handle)) (tlpUnsubscribe handle s.session)
        s
  | .otherSession sCurrentMaxSocketCnt =>
      let mark := max s.pool.sCurrentMaxSocketCnt (min sCurrentMaxSocketCnt vosMaxSocketCnt)
      some ⟨.noErr, { s with pool := { s.pool with sCurrentMaxSocketCnt := mark } }, [], none⟩

def poolStep (s : PoolSys) (call : PoolCall) : Option PoolSys :=
  (poolCall s call).map CallResult.sys

-----------------------------------------------------------------------------------------
-- What is asked of a call
-----------------------------------------------------------------------------------------

/-- The number of elements of a queue that use slot `k`. -/
def usersOf (queue : List PdEle) (k : Nat) : Nat :=
  queue.countP fun ele => ele.socketIdx = (k : Int)

/-- The number of queued elements that use a slot. -/
def PoolSys.users (s : PoolSys) : Nat → Nat := usersOf s.queued

/-- What a publisher needs of its socket. -/
def PoolSys.publisherNeed (s : PoolSys) (ele : PdEle) : SocketNeed where
  bindAddr := vosDetermineBindAddr ele.addr.srcIpAddr 0 false
  sendParam := s.asked ele.handle
  mcGroup := 0

/-- What a subscription needs of its socket. -/
def PoolSys.subscriptionNeed (s : PoolSys) (ele : PdEle) : SocketNeed where
  bindAddr := vosDetermineBindAddr s.session.realIp ele.addr.mcGroup true
  sendParam := s.defaultParam
  mcGroup := ele.addr.mcGroup

/-- The slot of an element has what it needs. -/
def SocketPool.Seats (pool : SocketPool) (ele : PdEle) (need : SocketNeed) : Prop :=
  ∃ k : Nat, ele.socketIdx = k ∧ pool.ServesAt k need

/-- Every queued element has what it needs. -/
structure Served (s : PoolSys) : Prop where
  publishers : ∀ ele ∈ s.session.pSndQueue, s.pool.Seats ele (s.publisherNeed ele)
  subscriptions : ∀ ele ∈ s.session.pRcvQueue, s.pool.Seats ele (s.subscriptionNeed ele)

/-- Every slot counts its users and is open as long as it has any, and every queued element has
what it needs.
-/
structure PoolRight (s : PoolSys) : Prop where
  usage : ∀ k slot, s.pool.iface[k]? = some slot → slot.usage.toInt = (s.users k : Int)
  opened
    : ∀ k slot, s.pool.iface[k]? = some slot → (slot.sock ≠ vosInvalidSocket ↔ 0 < s.users k)
  served : Served s

/-- The element that gives its socket up in a call. -/
def PoolSys.leaver (s : PoolSys) : PoolCall → Option PdEle
  | .unpublish handle => s.session.pSndQueue.find? (PdEle.isAt handle)
  | .unsubscribe handle => s.session.pRcvQueue.find? (PdEle.isAt handle)
  | .resubscribe _ handle args =>
      (s.session.pRcvQueue.find? (PdEle.isAt handle)).filter (PdEle.regroups args.destIpAddr)
  | .publish .. | .subscribe .. | .otherSession .. => none

/-- What is asked of a call: the pool is right afterwards; an open socket is closed exactly if the
last user of its slot leaves; and a request finds no memory only if all slots are in use.
-/
structure CallRight (s : PoolSys) (call : PoolCall) (result : CallResult) : Prop where
  pool : PoolRight result.sys
  closed
    : ∀ k slot, s.pool.iface[k]? = some slot → slot.sock ≠ vosInvalidSocket
      → (k ∈ result.closed
        ↔ ∃ ele, s.leaver call = some ele ∧ ele.socketIdx = k ∧ s.users k = 1)
  memErr
    : ∀ sock req pool, result.request = some (sock, req, pool)
      → (trdpRequestSocket sock req pool).err = .memErr
      → ∀ slot ∈ pool.iface, slot.sock ≠ vosInvalidSocket

/-- A call ends, and is right. -/
def PoolStepRight (s : PoolSys) (call : PoolCall) : Prop :=
  ∃ result, poolCall s call = some result ∧ CallRight s call result

/-- A request that takes no slot, with the mark at the limit, finds all slots in use. -/
def MarkFits (sock : SockEnv) (req : SocketRequest) (pool : SocketPool) : Prop :=
  NoneTaken sock req 0 pool.searched → vosMaxSocketCnt ≤ pool.sCurrentMaxSocketCnt
    → ∀ slot ∈ pool.iface, slot.sock ≠ vosInvalidSocket

/-- Below its limit, the mark fits every request. -/
theorem markFits_of_room {sock : SockEnv} {req : SocketRequest} {pool : SocketPool}
    (room : pool.sCurrentMaxSocketCnt < vosMaxSocketCnt)
    : MarkFits sock req pool :=
  fun _ full => absurd full (not_le.mpr room)

/-- What must hold of a call. A request finds the mark as it should be, and the counter of the slot
that it takes can count on; a publication or subscription that gets a socket gets memory for its
frame; a subscription that changes its group gets a socket, once it has left its slot; and none
goes from a group to a single address, unless it is bound to any address anyway.
-/
def CallFits (s : PoolSys) : PoolCall → Prop
  | .publish env sock args pSendParam =>
      let req := args.request s.session.realIp (pSendParam.getD s.defaultParam)
      s.Fresh env.handle → PublishAsks env args s.session
        → MarkFits sock req s.pool
          ∧ (Granted sock req s.pool → env.allocFrame = true ∧ UsageRoom sock req s.pool)
  | .subscribe env sock args =>
      let req := subscriptionRequest s.session.realIp s.defaultParam args.destIpAddr
      s.Fresh env.handle → SubscribeAsks args s.session
        → MarkFits sock req s.pool
          ∧ (Granted sock req s.pool → env.allocEle = true
            → env.allocFrame = true ∧ UsageRoom sock req s.pool)
  | .resubscribe sock handle args =>
      ∀ ele ∈ s.session.pRcvQueue.find? (PdEle.isAt handle),
        if ele.regroups args.destIpAddr then
          let req := subscriptionRequest s.session.realIp s.defaultParam args.destIpAddr
          let k := ele.socketIdx.toNat
          let pool := s.pool.left (s.users k) k
          Granted sock req pool ∧ UsageRoom sock req pool
        else
          vosIsMulticast args.destIpAddr ∨ ele.addr.mcGroup = 0 ∨ s.session.realIp = 0
  | .unpublish _ | .unsubscribe _ | .otherSession _ => True

-----------------------------------------------------------------------------------------
-- Counting users
-----------------------------------------------------------------------------------------

variable {queue queue' : List PdEle} {ele : PdEle} {k : Nat} {s s' : PoolSys} {call : PoolCall}

theorem usersOf_perm (perm : queue.Perm queue') : usersOf queue = usersOf queue' :=
  funext fun _ => perm.countP_eq _

/-- Users are counted by their slots alone. -/
theorem usersOf_map (same : queue.map PdEle.socketIdx = queue'.map PdEle.socketIdx)
    : usersOf queue = usersOf queue' := by
  funext k
  have slots : ∀ queue : List PdEle,
      usersOf queue k = (queue.map PdEle.socketIdx).countP fun idx => idx = (k : Int) := by
    intro queue
    rw [List.countP_map]
    rfl
  rw [slots, slots, same]

theorem usersOf_cons (uses : ele.socketIdx = (k : Int))
    : usersOf (ele :: queue) = addUser (usersOf queue) k := by
  funext j
  have same : (ele.socketIdx = (j : Int)) ↔ j = k := by omega
  simp only [usersOf, List.countP_cons, addUser, decide_eq_true_eq, same]

theorem dropUser_addUser (users : Nat → Nat) (k : Nat) : dropUser (addUser users k) k = users := by
  funext j
  simp only [dropUser, addUser]
  omega

/-- The invariant of the calls. -/
structure PoolInv (s : PoolSys) : Prop where
  fits : PoolFits s.users s.pool
  served : Served s

theorem PoolInv.right (inv : PoolInv s) : PoolRight s where
  usage k slot at_ := (inv.fits.slots k slot at_).usage
  opened k slot at_ := (inv.fits.slots k slot at_).opened
  served := inv.served

/-- The state before the first call. -/
def PoolSys.start (session : TrdpSession) (sCurrentMaxSocketCnt : Nat) (defaultParam : SendParam)
    (asked : Nat → SendParam)
    : PoolSys where
  session
  pool := .init sCurrentMaxSocketCnt
  defaultParam
  asked

theorem poolInv_start {session : TrdpSession} {mark : Nat} (low : mark ≤ vosMaxSocketCnt)
    (noPublisher : session.pSndQueue = []) (noSubscription : session.pRcvQueue = [])
    (defaultParam : SendParam) (asked : Nat → SendParam)
    : PoolInv (.start session mark defaultParam asked) := by
  have none : (PoolSys.start session mark defaultParam asked).users = fun _ => 0 := by
    funext k
    simp [PoolSys.users, usersOf, PoolSys.queued, PoolSys.start, noPublisher, noSubscription]
  refine ⟨none ▸ .init low, fun ele member => ?_, fun ele member => ?_⟩
  · rw [PoolSys.start, noPublisher] at member
    cases member
  · rw [PoolSys.start, noSubscription] at member
    cases member

/-- A socket that was open had users. -/
theorem PoolInv.open_used (inv : PoolInv s) {slot : TrdpSockets}
    (at_ : s.pool.iface[k]? = some slot) (opened : slot.sock ≠ vosInvalidSocket)
    : 0 < s.users k :=
  (inv.fits.slots k slot at_).opened.mp opened

theorem SocketPool.Seats.mono {pool pool' : SocketPool} {need : SocketNeed}
    (seats : pool.Seats ele need) (keeps : ∀ j, pool.ServesAt j need → pool'.ServesAt j need)
    : pool'.Seats ele need := by
  obtain ⟨k, uses, serves⟩ := seats
  exact ⟨k, uses, keeps k serves⟩

/-- A pool that serves everyone as before, with the same queues, keeps everyone served. -/
theorem Served.mono (served : Served s) {pool : SocketPool} {asked : Nat → SendParam}
    (keeps : ∀ j need, s.pool.ServesAt j need → pool.ServesAt j need)
    (params : ∀ ele ∈ s.session.pSndQueue, asked ele.handle = s.asked ele.handle)
    : Served { s with pool, asked } where
  publishers ele member := by
    have need : ({ s with pool, asked } : PoolSys).publisherNeed ele = s.publisherNeed ele := by
      simp only [PoolSys.publisherNeed, params ele member]
    rw [need]
    exact (served.publishers ele member).mono fun j => keeps j _
  subscriptions ele member := (served.subscriptions ele member).mono fun j => keeps j _

-----------------------------------------------------------------------------------------
-- Publishing
-----------------------------------------------------------------------------------------

theorem isPdRequest_publisher (args : PublishArgs) (realIp : U32) (params : SendParam)
    : IsPdRequest (args.request realIp params) :=
  ⟨rfl, rfl, fun _ => rfl⟩

theorem isPdRequest_subscription (realIp : U32) (params : SendParam) (destIpAddr : U32)
    : IsPdRequest (subscriptionRequest realIp params destIpAddr) :=
  ⟨rfl, rfl, nofun⟩

/-- A request that finds no memory is one for which the mark is at the limit. -/
theorem memErr_of_markFits {sock : SockEnv} {req : SocketRequest} {users : Nat → Nat}
    {pool : SocketPool} (pd : IsPdRequest req) (fits : PoolFits users pool)
    (mark : MarkFits sock req pool)
    : ∀ sock' req' pool', some (sock, req, pool) = some (sock', req', pool')
      → (trdpRequestSocket sock' req' pool').err = .memErr
      → ∀ slot ∈ pool'.iface, slot.sock ≠ vosInvalidSocket := by
  rintro _ _ _ ⟨⟩ refused
  rcases trdpRequestSocket_cases pd sock fits.entriesFree with
    ⟨_, _, _, _, taken, -⟩ | ⟨-, -, ⟨-, notMem⟩, -⟩ | ⟨none, full, -⟩
  · exact absurd (taken.result ▸ refused) (slotMulticastIf_ne _ _)
  · exact absurd refused notMem
  · exact mark none full

theorem SocketResult.socket_ok {result : SocketResult} (granted : result.err = .noErr)
    (pIndex : result.pIndex = some (k : Int)) (old : Int)
    : result.socket old = .ok (k : Int) := by
  rw [SocketResult.socket, if_pos granted, pIndex, Option.getD_some]

theorem SocketResult.socket_error {result : SocketResult} (refused : result.err ≠ .noErr)
    (old : Int)
    : result.socket old = .error result.err :=
  if_neg refused

/-- A request that is granted gives its caller a slot. -/
theorem request_granted {sock : SockEnv} {req : SocketRequest} {users : Nat → Nat}
    {pool : SocketPool} (pd : IsPdRequest req) (fits : PoolFits users pool)
    (granted : Granted sock req pool) (room : UsageRoom sock req pool) (old : Int)
    : ∃ k : Nat, (trdpRequestSocket sock req pool).err = .noErr
        ∧ (trdpRequestSocket sock req pool).socket old = .ok (k : Int)
        ∧ Grants req users pool (trdpRequestSocket sock req pool) k := by
  have done := (trdpRequestSocket_granted_iff pd sock fits.entriesFree).mpr granted
  obtain ⟨k, grants⟩ := trdpRequestSocket_grants pd fits granted room
  exact ⟨k, done, SocketResult.socket_ok done grants.pIndex old, grants⟩

/-- A request that is not granted gives its caller an error. -/
theorem request_refused {sock : SockEnv} {req : SocketRequest} {users : Nat → Nat}
    {pool : SocketPool} (pd : IsPdRequest req) (fits : PoolFits users pool)
    (refused : ¬ Granted sock req pool) (old : Int)
    : (trdpRequestSocket sock req pool).err ≠ .noErr
      ∧ (trdpRequestSocket sock req pool).socket old
        = .error (trdpRequestSocket sock req pool).err
      ∧ Refuses users pool (trdpRequestSocket sock req pool) := by
  have failed := mt (trdpRequestSocket_granted_iff pd sock fits.entriesFree).mp refused
  exact ⟨failed, SocketResult.socket_error failed old, trdpRequestSocket_refuses pd fits refused⟩

/-- A call that closes no socket in use, and in which nobody leaves. -/
theorem CallRight.of_stay {result : CallResult} (inv : PoolInv s) (after : PoolInv result.sys)
    (closed : ∀ j ∈ result.closed, s.users j = 0) (stays : s.leaver call = none)
    (memErr
      : ∀ sock req pool, result.request = some (sock, req, pool)
        → (trdpRequestSocket sock req pool).err = .memErr
        → ∀ slot ∈ pool.iface, slot.sock ≠ vosInvalidSocket)
    : CallRight s call result := by
  refine ⟨after.right, fun k slot at_ opened => iff_of_false (fun member => ?_) ?_, memErr⟩
  · have used := inv.open_used at_ opened
    have unused := closed k member
    omega
  · rintro ⟨_, leaves, -⟩
    rw [stays] at leaves
    cases leaves

/-- A call that neither requests nor closes a socket, and in which nobody leaves. -/
theorem CallRight.of_quiet {result : CallResult} (inv : PoolInv s) (after : PoolInv result.sys)
    (closed : result.closed = []) (request : result.request = none)
    (stays : s.leaver call = none)
    : CallRight s call result :=
  .of_stay inv after (by simp [closed]) stays (by simp [request])

/-- A publisher that got slot `k` is one user more, and is served like all others. -/
theorem poolInv_published (inv : PoolInv s) {env : PublishEnv} {args : PublishArgs}
    {req : SocketRequest} {result : SocketResult} {params : SendParam}
    (publishes : Publishes env args s.session k ele queue) (fresh : s.Fresh env.handle)
    (asksFor : req = args.request s.session.realIp params)
    (grants : Grants req s.users s.pool result k)
    : PoolInv
        { s with
          session := { s.session with pSndQueue := queue }
          pool := result.pool
          asked := fun handle => if handle = env.handle then params else s.asked handle } := by
  have uses : ele.socketIdx = (k : Int) := publishes.keeps.same.socketIdx
  have name : ele.handle = env.handle := publishes.keeps.same.handle
  have address : ele.addr = args.addr s.session.realIp := publishes.keeps.same.addr
  refine ⟨?_, ?_, ?_⟩
  · have slots : queue.map PdEle.socketIdx = (s.session.pSndQueue ++ [ele]).map PdEle.socketIdx :=
      publishes.retimed.map_eq fun _ _ => rfl
    have count : usersOf (queue ++ s.session.pRcvQueue) = addUser s.users k := by
      calc usersOf (queue ++ s.session.pRcvQueue)
          = usersOf ((s.session.pSndQueue ++ [ele]) ++ s.session.pRcvQueue) :=
            usersOf_map (by rw [List.map_append, slots, ← List.map_append])
        _ = usersOf (ele :: s.queued) := by
            rw [List.append_assoc]
            exact usersOf_perm List.perm_middle
        _ = addUser s.users k := usersOf_cons uses
    show PoolFits (usersOf (queue ++ s.session.pRcvQueue)) result.pool
    rw [count]
    exact grants.fits
  · intro ele' member
    obtain ⟨old, among, same⟩ := exists_of_mem publishes.retimed member
    have seat : ele'.socketIdx = old.socketIdx ∧ ele'.handle = old.handle
        ∧ ele'.addr = old.addr := by
      rw [same]
      exact ⟨rfl, rfl, rfl⟩
    rcases List.mem_append.mp among with earlier | new
    · have other : old.handle ≠ env.handle := by
        intro eq
        exact fresh (eq ▸ List.mem_map_of_mem (List.mem_append_left _ earlier))
      obtain ⟨j, sits, serves⟩ := inv.served.publishers old earlier
      refine ⟨j, seat.1.trans sits, ?_⟩
      simp only [PoolSys.publisherNeed, seat.2.1, seat.2.2, if_neg other]
      exact grants.keeps j _ serves
    · obtain rfl := List.mem_singleton.mp new
      refine ⟨k, seat.1.trans uses, ?_⟩
      simp only [PoolSys.publisherNeed, seat.2.1, seat.2.2, if_pos name, address]
      have serves := grants.serves
      rw [asksFor] at serves
      exact serves
  · exact fun ele member => (inv.served.subscriptions ele member).mono fun j => grants.keeps j _

/-- What a publication that makes a request ends with. -/
theorem poolPublish_asked {env : PublishEnv} {sock : SockEnv} {args : PublishArgs}
    {pSendParam : Option SendParam} (asks : PublishAsks env args s.session)
    : let req := args.request s.session.realIp (pSendParam.getD s.defaultParam)
      let result := trdpRequestSocket sock req s.pool
      let env' := { env with trdpPdDistribute := trdpPdDistribute, socket := result.socket 0 }
      poolPublish env sock args pSendParam s
        = { err := (tlpPublish env' args s.session).1
            sys :=
              { s with
                session := (tlpPublish env' args s.session).2
                pool := result.pool
                asked := fun handle =>
                  if handle = env.handle then pSendParam.getD s.defaultParam else s.asked handle }
            closed := result.closed
            request := some (sock, req, s.pool) } := by
  have asks : PublishAsks { env with trdpPdDistribute := trdpPdDistribute } args s.session := asks
  unfold poolPublish
  exact if_pos asks

/-- A publication that gets its socket and its frame. -/
theorem poolPublish_granted (inv : PoolInv s) {env : PublishEnv} {sock : SockEnv}
    {args : PublishArgs} {pSendParam : Option SendParam} (fresh : s.Fresh env.handle)
    (asks : PublishAsks env args s.session)
    (mark : MarkFits sock (args.request s.session.realIp (pSendParam.getD s.defaultParam)) s.pool)
    (granted : Granted sock (args.request s.session.realIp (pSendParam.getD s.defaultParam)) s.pool)
    (allocFrame : env.allocFrame = true)
    (room : UsageRoom sock (args.request s.session.realIp (pSendParam.getD s.defaultParam)) s.pool)
    : PoolInv (poolPublish env sock args pSendParam s).sys
      ∧ CallRight s (.publish env sock args pSendParam)
          (poolPublish env sock args pSendParam s) := by
  have pd := isPdRequest_publisher args s.session.realIp (pSendParam.getD s.defaultParam)
  have memErr := memErr_of_markFits pd inv.fits mark
  obtain ⟨k, -, socket, grants⟩ := request_granted pd inv.fits granted room 0
  rw [poolPublish_asked asks]
  let env' : PublishEnv :=
    { env with trdpPdDistribute := trdpPdDistribute, socket := .ok (k : Int) }
  rcases tlpPublish_cases env' args s.session rfl with ⟨refused, -⟩ | ⟨idx, ele, queue, publishes⟩
  · exact absurd ⟨asks, ⟨_, rfl⟩, allocFrame⟩ refused
  · obtain rfl : idx = (k : Int) := Except.ok.inj publishes.socket.symm
    have after := poolInv_published inv publishes fresh rfl grants
    rw [← publishes.eq] at after
    simp only [socket]
    exact ⟨after, .of_stay inv after (by simp [grants.closed]) rfl memErr⟩

/-- A publication that gets no socket changes nothing but the pool. -/
theorem poolPublish_refused (inv : PoolInv s) {env : PublishEnv} {sock : SockEnv}
    {args : PublishArgs} {pSendParam : Option SendParam} (fresh : s.Fresh env.handle)
    (asks : PublishAsks env args s.session)
    (mark : MarkFits sock (args.request s.session.realIp (pSendParam.getD s.defaultParam)) s.pool)
    (refused
      : ¬ Granted sock (args.request s.session.realIp (pSendParam.getD s.defaultParam)) s.pool)
    : PoolInv (poolPublish env sock args pSendParam s).sys
      ∧ CallRight s (.publish env sock args pSendParam)
          (poolPublish env sock args pSendParam s) := by
  have pd := isPdRequest_publisher args s.session.realIp (pSendParam.getD s.defaultParam)
  have memErr := memErr_of_markFits pd inv.fits mark
  obtain ⟨-, socket, refuses⟩ := request_refused pd inv.fits refused 0
  rw [poolPublish_asked asks]
  simp only [socket]
  let env' : PublishEnv :=
    { env with
      trdpPdDistribute := trdpPdDistribute
      socket := .error (trdpRequestSocket sock
        (args.request s.session.realIp (pSendParam.getD s.defaultParam)) s.pool).err }
  rcases tlpPublish_cases env' args s.session rfl with ⟨-, same⟩ | ⟨idx, ele, queue, publishes⟩
  · have others : ∀ ele ∈ s.session.pSndQueue, ele.handle ≠ env.handle := fun ele member eq =>
      fresh (eq ▸ List.mem_map_of_mem (List.mem_append_left _ member))
    rw [same]
    let asked := fun handle =>
      if handle = env.handle then pSendParam.getD s.defaultParam else s.asked handle
    let pool := (trdpRequestSocket sock
      (args.request s.session.realIp (pSendParam.getD s.defaultParam)) s.pool).pool
    have served : Served { s with pool, asked } :=
      inv.served.mono refuses.keeps fun ele member => if_neg (others ele member)
    have after : PoolInv { s with pool, asked } := ⟨refuses.fits, served⟩
    exact ⟨after, .of_stay inv after refuses.closed rfl memErr⟩
  · cases publishes.socket

/-- What a publication that makes no request ends with. -/
theorem poolPublish_unasked {env : PublishEnv} {sock : SockEnv} {args : PublishArgs}
    {pSendParam : Option SendParam} (unasked : ¬ PublishAsks env args s.session)
    : let env' := { env with trdpPdDistribute := trdpPdDistribute }
      poolPublish env sock args pSendParam s
        = ⟨(tlpPublish env' args s.session).1, s, [], none⟩ := by
  let env' : PublishEnv := { env with trdpPdDistribute := trdpPdDistribute }
  have unasked : ¬ PublishAsks env' args s.session := unasked
  have unchanged : (tlpPublish env' args s.session).2 = s.session := by
    rcases tlpPublish_cases env' args s.session rfl with ⟨-, same⟩ | ⟨_, _, _, publishes⟩
    · rw [same]
    · exact absurd publishes.asks unasked
  have eq : poolPublish env sock args pSendParam s
      = ⟨(tlpPublish env' args s.session).1,
        { s with session := (tlpPublish env' args s.session).2 }, [], none⟩ := by
    unfold poolPublish
    exact if_neg unasked
  rw [unchanged] at eq
  exact eq

theorem poolPublish_right (inv : PoolInv s) {env : PublishEnv} {sock : SockEnv}
    {args : PublishArgs} {pSendParam : Option SendParam}
    (fits : CallFits s (.publish env sock args pSendParam)) (fresh : s.Fresh env.handle)
    : PoolInv (poolPublish env sock args pSendParam s).sys
      ∧ CallRight s (.publish env sock args pSendParam)
          (poolPublish env sock args pSendParam s) := by
  by_cases asks : PublishAsks env args s.session
  · obtain ⟨mark, enough⟩ := fits fresh asks
    by_cases granted
      : Granted sock (args.request s.session.realIp (pSendParam.getD s.defaultParam)) s.pool
    · obtain ⟨allocFrame, room⟩ := enough granted
      exact poolPublish_granted inv fresh asks mark granted allocFrame room
    · exact poolPublish_refused inv fresh asks mark granted
  · rw [poolPublish_unasked asks]
    exact ⟨inv, .of_quiet inv inv rfl rfl rfl⟩

-----------------------------------------------------------------------------------------
-- Subscribing
-----------------------------------------------------------------------------------------

theorem poolInv_subscribed (inv : PoolInv s) (env : SubscribeEnv) {args : SubscribeArgs}
    {result : SocketResult}
    (grants
      : Grants (subscriptionRequest s.session.realIp s.defaultParam args.destIpAddr) s.users s.pool
          result k)
    : PoolInv
        { s with
          session :=
            { s.session with
              pRcvQueue := s.session.pRcvQueue ++ [newSubscription env args s.session k] }
          pool := result.pool } := by
  refine ⟨?_, ?_, ?_⟩
  · let ele := newSubscription env args s.session k
    have count : usersOf (s.session.pSndQueue ++ (s.session.pRcvQueue ++ [ele]))
        = addUser s.users k := by
      rw [← List.append_assoc]
      calc usersOf (s.queued ++ [ele])
          = usersOf (ele :: s.queued) := usersOf_perm (List.perm_append_singleton _ _)
        _ = addUser s.users k := usersOf_cons rfl
    show PoolFits (usersOf (s.session.pSndQueue ++ (s.session.pRcvQueue ++ [ele]))) result.pool
    rw [count]
    exact grants.fits
  · exact fun ele member => (inv.served.publishers ele member).mono fun j => grants.keeps j _
  · intro ele member
    rcases List.mem_append.mp member with earlier | new
    · exact (inv.served.subscriptions ele earlier).mono fun j => grants.keeps j _
    · obtain rfl := List.mem_singleton.mp new
      exact ⟨k, rfl, grants.serves⟩

/-- A pool that serves everyone as before. -/
theorem PoolInv.refused (inv : PoolInv s) {result : SocketResult}
    (refuses : Refuses s.users s.pool result)
    : PoolInv { s with pool := result.pool } :=
  ⟨refuses.fits, inv.served.mono refuses.keeps fun _ _ => rfl⟩

/-- What a subscription that makes a request ends with. -/
theorem poolSubscribe_asked {env : SubscribeEnv} {sock : SockEnv} {args : SubscribeArgs}
    (asks : SubscribeAsks args s.session)
    : let req := subscriptionRequest s.session.realIp s.defaultParam args.destIpAddr
      let result := trdpRequestSocket sock req s.pool
      let env' := { env with socket := result.socket 0, fails := result.socket_ne 0 }
      poolSubscribe env sock args s
        = if result.err = .noErr ∧ env.allocEle = false then
            (trdpReleaseSocket .cleared 0 (result.pIndex.getD 0) result.pool).map
              fun (pool, closed) =>
                ⟨(tlpSubscribe env' args s.session).1,
                  { s with session := (tlpSubscribe env' args s.session).2, pool }, closed,
                  some (sock, req, s.pool)⟩
          else
            some
              ⟨(tlpSubscribe env' args s.session).1,
                { s with session := (tlpSubscribe env' args s.session).2, pool := result.pool },
                result.closed, some (sock, req, s.pool)⟩ := by
  unfold poolSubscribe
  exact if_pos asks

section
variable {env : SubscribeEnv} {sock : SockEnv} {args : SubscribeArgs}

/-- What a subscription that makes no request ends with. -/
theorem poolSubscribe_unasked (unasked : ¬ SubscribeAsks args s.session)
    : poolSubscribe env sock args s = some ⟨.nosubErr, s, [], none⟩ := by
  have known : (trdpQueueFindSubAddr s.session.pRcvQueue args.addr).isSome = true :=
    Bool.not_eq_false _ |>.mp unasked
  simp only [poolSubscribe, if_neg unasked, tlpSubscribe, known, if_true]

/-- A subscription that gets no socket. -/
theorem poolSubscribe_failed (asks : SubscribeAsks args s.session)
    : let req := subscriptionRequest s.session.realIp s.defaultParam args.destIpAddr
      let result := trdpRequestSocket sock req s.pool
      result.err ≠ .noErr
        → poolSubscribe env sock args s
          = some ⟨result.err, { s with pool := result.pool }, result.closed,
              some (sock, req, s.pool)⟩ := by
  intro req result failed
  have unknown : (trdpQueueFindSubAddr s.session.pRcvQueue args.addr).isSome = false := asks
  have socket : result.socket 0 = .error result.err := SocketResult.socket_error failed 0
  have eq : poolSubscribe env sock args s = _ := poolSubscribe_asked asks
  rw [if_neg (fun both => failed both.1)] at eq
  simp only [req, result, tlpSubscribe, unknown, socket, Bool.false_eq_true, if_false] at eq
  exact eq

/-- A subscription that gets a socket, but no element. -/
theorem poolSubscribe_unallocated (asks : SubscribeAsks args s.session)
    (allocEle : env.allocEle = false)
    : let req := subscriptionRequest s.session.realIp s.defaultParam args.destIpAddr
      let result := trdpRequestSocket sock req s.pool
      result.err = .noErr
        → poolSubscribe env sock args s
          = (trdpReleaseSocket .cleared 0 (result.pIndex.getD 0) result.pool).map
              fun (pool, closed) =>
                ⟨.memErr, { s with pool }, closed, some (sock, req, s.pool)⟩ := by
  intro req result done
  have unknown : (trdpQueueFindSubAddr s.session.pRcvQueue args.addr).isSome = false := asks
  have socket : result.socket 0 = .ok (result.pIndex.getD 0) := if_pos done
  have eq : poolSubscribe env sock args s = _ := poolSubscribe_asked asks
  rw [if_pos ⟨done, allocEle⟩] at eq
  simp only [req, result, tlpSubscribe, unknown, socket, allocEle, Bool.not_false,
    Bool.false_eq_true, if_false, if_true] at eq
  exact eq

/-- A subscription that gets a socket and an element, but perhaps no frame. -/
theorem poolSubscribe_allocated (asks : SubscribeAsks args s.session)
    (allocEle : env.allocEle = true)
    : let req := subscriptionRequest s.session.realIp s.defaultParam args.destIpAddr
      let result := trdpRequestSocket sock req s.pool
      result.err = .noErr
        → poolSubscribe env sock args s
          = if env.allocFrame = true then
              some
                { err := .noErr
                  sys :=
                    { s with
                      session :=
                        { s.session with
                          pRcvQueue :=
                            s.session.pRcvQueue
                              ++ [newSubscription env args s.session (result.pIndex.getD 0)] }
                      pool := result.pool }
                  closed := result.closed
                  request := some (sock, req, s.pool) }
            else
              some ⟨.memErr, { s with pool := result.pool }, result.closed,
                some (sock, req, s.pool)⟩ := by
  intro req result done
  have unknown : (trdpQueueFindSubAddr s.session.pRcvQueue args.addr).isSome = false := asks
  have socket : result.socket 0 = .ok (result.pIndex.getD 0) := if_pos done
  have eq : poolSubscribe env sock args s = _ := poolSubscribe_asked asks
  rw [if_neg (by rw [allocEle]; exact fun both => nomatch both.2)] at eq
  cases allocFrame : env.allocFrame
  all_goals
    simp only [req, result, tlpSubscribe, unknown, socket, allocEle, allocFrame, Bool.not_true,
      Bool.not_false, Bool.false_eq_true, if_false, if_true] at eq
    exact eq

end

/-- A subscription that gets its socket, its element and its frame. -/
theorem poolSubscribe_granted (inv : PoolInv s) {env : SubscribeEnv} {sock : SockEnv}
    {args : SubscribeArgs} (asks : SubscribeAsks args s.session)
    (mark
      : MarkFits sock (subscriptionRequest s.session.realIp s.defaultParam args.destIpAddr) s.pool)
    (granted
      : Granted sock (subscriptionRequest s.session.realIp s.defaultParam args.destIpAddr) s.pool)
    (allocEle : env.allocEle = true) (allocFrame : env.allocFrame = true)
    (room
      : UsageRoom sock (subscriptionRequest s.session.realIp s.defaultParam args.destIpAddr) s.pool)
    : ∃ result, poolSubscribe env sock args s = some result ∧ PoolInv result.sys
      ∧ CallRight s (.subscribe env sock args) result := by
  have pd := isPdRequest_subscription s.session.realIp s.defaultParam args.destIpAddr
  have memErr := memErr_of_markFits pd inv.fits mark
  obtain ⟨k, done, -, grants⟩ := request_granted pd inv.fits granted room 0
  have eq := poolSubscribe_allocated asks allocEle done
  rw [if_pos allocFrame, grants.pIndex, Option.getD_some] at eq
  have after := poolInv_subscribed inv env grants
  exact ⟨_, eq, after, .of_stay inv after (by simp [grants.closed]) rfl memErr⟩

/-- A subscription that gets a socket but no element releases the socket again. -/
theorem poolSubscribe_released (inv : PoolInv s) {env : SubscribeEnv} {sock : SockEnv}
    {args : SubscribeArgs} (asks : SubscribeAsks args s.session)
    (mark
      : MarkFits sock (subscriptionRequest s.session.realIp s.defaultParam args.destIpAddr) s.pool)
    (granted
      : Granted sock (subscriptionRequest s.session.realIp s.defaultParam args.destIpAddr) s.pool)
    (allocEle : env.allocEle = false)
    : ∃ result, poolSubscribe env sock args s = some result ∧ PoolInv result.sys
      ∧ CallRight s (.subscribe env sock args) result := by
  have pd := isPdRequest_subscription s.session.realIp s.defaultParam args.destIpAddr
  have memErr := memErr_of_markFits pd inv.fits mark
  have done := (trdpRequestSocket_granted_iff pd sock inv.fits.entriesFree).mpr granted
  obtain ⟨k, pIndex, pool', closed, released, refuses⟩ :=
    trdpReleaseSocket_granted .cleared 0 pd inv.fits granted
  have eq := poolSubscribe_unallocated asks allocEle done
  rw [pIndex, Option.getD_some, released, Option.map_some] at eq
  have after := inv.refused refuses
  exact ⟨_, eq, after, .of_stay inv after refuses.closed rfl memErr⟩

/-- A subscription that gets no socket changes nothing but the pool. -/
theorem poolSubscribe_refused (inv : PoolInv s) {env : SubscribeEnv} {sock : SockEnv}
    {args : SubscribeArgs} (asks : SubscribeAsks args s.session)
    (mark
      : MarkFits sock (subscriptionRequest s.session.realIp s.defaultParam args.destIpAddr) s.pool)
    (refused
      : ¬ Granted sock (subscriptionRequest s.session.realIp s.defaultParam args.destIpAddr) s.pool)
    : ∃ result, poolSubscribe env sock args s = some result ∧ PoolInv result.sys
      ∧ CallRight s (.subscribe env sock args) result := by
  have pd := isPdRequest_subscription s.session.realIp s.defaultParam args.destIpAddr
  have memErr := memErr_of_markFits pd inv.fits mark
  obtain ⟨failed, -, refuses⟩ := request_refused pd inv.fits refused 0
  have after := inv.refused refuses
  exact ⟨_, poolSubscribe_failed asks failed, after,
    .of_stay inv after refuses.closed rfl memErr⟩

theorem poolSubscribe_right (inv : PoolInv s) {env : SubscribeEnv} {sock : SockEnv}
    {args : SubscribeArgs} (fits : CallFits s (.subscribe env sock args))
    (fresh : s.Fresh env.handle)
    : ∃ result, poolSubscribe env sock args s = some result ∧ PoolInv result.sys
      ∧ CallRight s (.subscribe env sock args) result := by
  by_cases asks : SubscribeAsks args s.session
  · obtain ⟨mark, enough⟩ := fits fresh asks
    by_cases granted
      : Granted sock (subscriptionRequest s.session.realIp s.defaultParam args.destIpAddr) s.pool
    · cases allocEle : env.allocEle with
      | true =>
          obtain ⟨allocFrame, room⟩ := enough granted allocEle
          exact poolSubscribe_granted inv asks mark granted allocEle allocFrame room
      | false => exact poolSubscribe_released inv asks mark granted allocEle
    · exact poolSubscribe_refused inv asks mark granted
  · exact ⟨_, poolSubscribe_unasked asks, inv, .of_quiet inv inv rfl rfl rfl⟩

-----------------------------------------------------------------------------------------
-- Leaving a slot
-----------------------------------------------------------------------------------------

theorem usersOf_pos {other : PdEle} (member : other ∈ queue) (uses : other.socketIdx = (k : Int))
    : 0 < usersOf queue k :=
  List.countP_pos_iff.mpr ⟨other, member, decide_eq_true uses⟩

/-- What a queued element leaves behind when it gives its socket up: a pool that the `rest` of the
elements use and are served by.
-/
structure Leaves (s : PoolSys) (ele : PdEle) (rest : List PdEle) (pool : SocketPool)
    (closed : List Nat)
    : Prop where
  released : trdpReleaseSocket .cleared 0 ele.socketIdx s.pool = some (pool, closed)
  left : pool = s.pool.left (s.users ele.socketIdx.toNat) ele.socketIdx.toNat
  fits : PoolFits (usersOf rest) pool
  keeps : ∀ other ∈ rest, ∀ need, s.pool.Seats other need → pool.Seats other need
  closed : ∀ j, j ∈ closed ↔ ele.socketIdx = j ∧ s.users j = 1

theorem PoolInv.leaves (inv : PoolInv s) {rest : List PdEle} {need : SocketNeed}
    (seats : s.pool.Seats ele need) (perm : s.queued.Perm (ele :: rest))
    : ∃ pool closed, Leaves s ele rest pool closed := by
  obtain ⟨k, uses, -⟩ := seats
  have count : s.users = addUser (usersOf rest) k := by
    rw [PoolSys.users, usersOf_perm perm, usersOf_cons uses]
  have here : s.users k = usersOf rest k + 1 := by
    rw [count]
    simp [addUser]
  have used : 0 < s.users k := here ▸ Nat.succ_pos _
  obtain ⟨pool, closed, released, drops⟩ := trdpReleaseSocket_drops .cleared 0 inv.fits used
  have slot : ele.socketIdx.toNat = k := by
    rw [uses]
    rfl
  refine ⟨pool, closed, uses ▸ released, slot.symm ▸ drops.left, ?_, ?_, ?_⟩
  · have fits := drops.fits
    rw [count, dropUser_addUser] at fits
    exact fits
  · rintro other member need ⟨j, sits, serves⟩
    refine ⟨j, sits, drops.keeps j need (fun same => ?_) serves⟩
    subst same
    have stays := usersOf_pos member sits
    omega
  · intro j
    rw [drops.closed]
    constructor
    · intro member
      split at member
      · next last =>
          obtain rfl := List.mem_singleton.mp member
          exact ⟨uses, last⟩
      · cases member
    · rintro ⟨same, last⟩
      obtain rfl : j = k := by
        have both := same.symm.trans uses
        omega
      rw [if_pos last]
      exact List.mem_singleton_self j

/-- A call in which `ele` gives its socket up, and that makes no request without memory. -/
theorem CallRight.of_leaves {result : CallResult} (after : PoolInv result.sys)
    (leaver : s.leaver call = some ele)
    (closed : ∀ j, j ∈ result.closed ↔ ele.socketIdx = j ∧ s.users j = 1)
    (memErr
      : ∀ sock req pool, result.request = some (sock, req, pool)
        → (trdpRequestSocket sock req pool).err ≠ .memErr)
    : CallRight s call result := by
  refine ⟨after.right, fun k slot _ _ => ?_, fun sock req pool asks failed =>
    absurd failed (memErr sock req pool asks)⟩
  rw [leaver, closed k]
  constructor
  · exact fun both => ⟨ele, rfl, both⟩
  · rintro ⟨_, ⟨⟩, both⟩
    exact both

-----------------------------------------------------------------------------------------
-- Taking back
-----------------------------------------------------------------------------------------

theorem poolUnpublish_right (inv : PoolInv s) (handle : Nat)
    : ∃ result, poolCall s (.unpublish handle) = some result ∧ PoolInv result.sys
      ∧ CallRight s (.unpublish handle) result := by
  simp only [poolCall]
  cases found : s.session.pSndQueue.find? (PdEle.isAt handle) with
  | none =>
      have unchanged : tlpUnpublish handle s.session = (.nopubErr, s.session) := by
        simp only [tlpUnpublish, found, Option.isNone_none, if_true]
      rw [unchanged]
      exact ⟨_, rfl, inv, .of_quiet inv inv rfl rfl found⟩
  | some ele =>
      let rest := s.session.pSndQueue.eraseP (PdEle.isAt handle)
      let queue := (pdReshape s.session.trafficShaping rest).2
      have retimed : Retimed rest queue := pdReshape_retimed _ _
      have seats := inv.served.publishers ele (List.mem_of_find?_eq_some found)
      have perm : s.queued.Perm (ele :: (rest ++ s.session.pRcvQueue)) :=
        (perm_eraseP found).append_right _
      obtain ⟨pool, closed, leaves⟩ := inv.leaves seats perm
      have removed : tlpUnpublish handle s.session
          = ((pdReshape s.session.trafficShaping rest).1,
            { s.session with pSndQueue := queue }) := by
        simp only [tlpUnpublish, found, Option.isNone_some, Bool.false_eq_true, if_false]
        rfl
      have after : PoolInv { s with session := { s.session with pSndQueue := queue }, pool } := by
        refine ⟨?_, ?_, ?_⟩
        · have slots : queue.map PdEle.socketIdx = rest.map PdEle.socketIdx :=
            retimed.map_eq fun _ _ => rfl
          have count : usersOf (queue ++ s.session.pRcvQueue)
              = usersOf (rest ++ s.session.pRcvQueue) :=
            usersOf_map (by rw [List.map_append, slots, ← List.map_append])
          show PoolFits (usersOf (queue ++ s.session.pRcvQueue)) pool
          rw [count]
          exact leaves.fits
        · intro ele' member
          obtain ⟨old, among, same⟩ := exists_of_mem retimed member
          have stays := leaves.keeps old (List.mem_append_left _ among) _
            (inv.served.publishers old (List.mem_of_mem_eraseP among))
          rw [same]
          exact stays
        · exact fun ele member => leaves.keeps ele (List.mem_append_right _ member) _
            (inv.served.subscriptions ele member)
      rw [removed]
      simp only [poolWithdraw, leaves.released, Option.map_some]
      exact ⟨_, rfl, after, .of_leaves after found leaves.closed (by simp)⟩

/-- The receive queue without one of its elements. -/
theorem perm_queued_unsubscribed {p : PdEle → Bool} (found : s.session.pRcvQueue.find? p = some ele)
    : s.queued.Perm (ele :: (s.session.pSndQueue ++ s.session.pRcvQueue.eraseP p)) :=
  ((perm_eraseP found).append_left _).trans List.perm_middle

theorem poolUnsubscribe_right (inv : PoolInv s) (handle : Nat)
    : ∃ result, poolCall s (.unsubscribe handle) = some result ∧ PoolInv result.sys
      ∧ CallRight s (.unsubscribe handle) result := by
  simp only [poolCall]
  cases found : s.session.pRcvQueue.find? (PdEle.isAt handle) with
  | none =>
      have unchanged : tlpUnsubscribe handle s.session = (.nosubErr, s.session) := by
        simp only [tlpUnsubscribe, found, Option.isNone_none, if_true]
      rw [unchanged]
      exact ⟨_, rfl, inv, .of_quiet inv inv rfl rfl found⟩
  | some ele =>
      let rest := s.session.pRcvQueue.eraseP (PdEle.isAt handle)
      have seats := inv.served.subscriptions ele (List.mem_of_find?_eq_some found)
      obtain ⟨pool, closed, leaves⟩ := inv.leaves seats (perm_queued_unsubscribed found)
      have removed : tlpUnsubscribe handle s.session
          = (.noErr, { s.session with pRcvQueue := rest }) := by
        simp only [tlpUnsubscribe, found, Option.isNone_some, Bool.false_eq_true, if_false]
        rfl
      have after : PoolInv { s with session := { s.session with pRcvQueue := rest }, pool } := by
        refine ⟨leaves.fits, ?_, ?_⟩
        · exact fun ele member => leaves.keeps ele (List.mem_append_left _ member) _
            (inv.served.publishers ele member)
        · exact fun ele member => leaves.keeps ele (List.mem_append_right _ member) _
            (inv.served.subscriptions ele (List.mem_of_mem_eraseP member))
      rw [removed]
      simp only [poolWithdraw, leaves.released, Option.map_some]
      exact ⟨_, rfl, after, .of_leaves after found leaves.closed (by simp)⟩

-----------------------------------------------------------------------------------------
-- Resubscribing
-----------------------------------------------------------------------------------------

/-- Another address of the same group, or of no group, leaves a slot right that fits. -/
theorem serves_resubscribed {pool : SocketPool} {args : ResubscribeArgs} (idx : Int)
    (kept : ele.regroups args.destIpAddr = false)
    (fits : vosIsMulticast args.destIpAddr ∨ ele.addr.mcGroup = 0 ∨ s.session.realIp = 0)
    (serves : pool.ServesAt k (s.subscriptionNeed ele))
    : pool.ServesAt k (s.subscriptionNeed (ele.resubscribed args idx)) := by
  obtain ⟨slot, at_, opened, type, bindAddr, sendParam, joined⟩ := serves
  refine ⟨slot, at_, opened, type, ?_, sendParam, ?_⟩
  all_goals simp only [PoolSys.subscriptionNeed, PdEle.resubscribed] at *
  · rw [bindAddr]
    by_cases multicast : vosIsMulticast args.destIpAddr = true
    · have group : ele.addr.mcGroup = args.destIpAddr := by
        simpa [PdEle.regroups, multicast] using kept
      rw [group, multicastGroup, if_pos multicast]
    · rw [multicastGroup, if_neg multicast]
      rcases fits.resolve_left multicast with none | any
      · rw [none]
      · simp [vosDetermineBindAddr, any]
  · by_cases multicast : vosIsMulticast args.destIpAddr = true
    · have group : ele.addr.mcGroup = args.destIpAddr := by
        simpa [PdEle.regroups, multicast] using kept
      rw [multicastGroup, if_pos multicast, ← group]
      exact joined
    · rw [multicastGroup, if_neg multicast]
      exact .inl rfl

/-- A subscription that got slot `k` for its new addresses, after it had left its old one. -/
theorem poolInv_regrouped (inv : PoolInv s) {p : PdEle → Bool} {args : ResubscribeArgs}
    {pool : SocketPool} {closed : List Nat} {result : SocketResult}
    (found : s.session.pRcvQueue.find? p = some ele)
    (leaves : Leaves s ele (s.session.pSndQueue ++ s.session.pRcvQueue.eraseP p) pool closed)
    (grants
      : Grants (subscriptionRequest s.session.realIp s.defaultParam args.destIpAddr)
          (usersOf (s.session.pSndQueue ++ s.session.pRcvQueue.eraseP p)) pool result k)
    : PoolInv
        { s with
          session :=
            { s.session with
              pRcvQueue := modifyFirst p (PdEle.resubscribed args k) s.session.pRcvQueue }
          pool := result.pool } := by
  let queue := modifyFirst p (PdEle.resubscribed args k) s.session.pRcvQueue
  have perm : queue.Perm (ele.resubscribed args k :: s.session.pRcvQueue.eraseP p) :=
    modifyFirst_perm found
  refine ⟨?_, ?_, ?_⟩
  · have count : usersOf (s.session.pSndQueue ++ queue)
        = addUser (usersOf (s.session.pSndQueue ++ s.session.pRcvQueue.eraseP p)) k := by
      rw [usersOf_perm ((perm.append_left _).trans List.perm_middle)]
      exact usersOf_cons rfl
    show PoolFits (usersOf (s.session.pSndQueue ++ queue)) result.pool
    rw [count]
    exact grants.fits
  · intro ele member
    have stays := leaves.keeps ele (List.mem_append_left _ member) _
      (inv.served.publishers ele member)
    exact stays.mono fun j => grants.keeps j _
  · intro ele' member
    rcases List.mem_cons.mp (perm.mem_iff.mp member) with new | other
    · rw [new]
      exact ⟨k, rfl, grants.serves⟩
    · have stays := leaves.keeps ele' (List.mem_append_right _ other) _
        (inv.served.subscriptions ele' (List.mem_of_mem_eraseP other))
      exact stays.mono fun j => grants.keeps j _

/-- A subscription that goes to another group gets a slot for it, once it has left its own. -/
theorem poolResubscribe_regroups (inv : PoolInv s) {sock : SockEnv} {handle : Nat}
    {args : ResubscribeArgs} (fits : CallFits s (.resubscribe sock handle args))
    (found : s.session.pRcvQueue.find? (PdEle.isAt handle) = some ele)
    (regroups : ele.regroups args.destIpAddr = true)
    : ∃ result, poolResubscribe sock handle args s = some result ∧ PoolInv result.sys
      ∧ CallRight s (.resubscribe sock handle args) result := by
  have fits := fits ele found
  have pd := isPdRequest_subscription s.session.realIp s.defaultParam args.destIpAddr
  have seats := inv.served.subscriptions ele (List.mem_of_find?_eq_some found)
  obtain ⟨pool, closed, leaves⟩ := inv.leaves seats (perm_queued_unsubscribed found)
  rw [if_pos regroups] at fits
  obtain ⟨granted, room⟩ := fits
  rw [← leaves.left] at granted room
  obtain ⟨j, done, socket, grants⟩ := request_granted pd leaves.fits granted room ele.socketIdx
  have moved : tlpResubscribe (.ok (j : Int)) handle args s.session
      = (.noErr,
        { s.session with
          pRcvQueue :=
            modifyFirst (PdEle.isAt handle) (PdEle.resubscribed args j) s.session.pRcvQueue }) := by
    simp only [tlpResubscribe, found, regroups, if_true]
  have after := poolInv_regrouped inv found leaves grants
  have leaver : s.leaver (.resubscribe sock handle args) = some ele := by
    rw [PoolSys.leaver, found, Option.filter_some, if_pos regroups]
  simp only [poolResubscribe, found, regroups, if_true, leaves.released, Option.bind_some, socket,
    moved, done, grants.closed, List.append_nil]
  refine ⟨_, rfl, after, .of_leaves after leaver leaves.closed ?_⟩
  rintro _ _ _ ⟨⟩
  rw [done]
  decide

/-- A subscription that stays in its group keeps its slot. -/
theorem poolResubscribe_stays (inv : PoolInv s) {sock : SockEnv} {handle : Nat}
    {args : ResubscribeArgs} (fits : CallFits s (.resubscribe sock handle args))
    (found : s.session.pRcvQueue.find? (PdEle.isAt handle) = some ele)
    (regroups : ele.regroups args.destIpAddr = false)
    : ∃ result, poolResubscribe sock handle args s = some result ∧ PoolInv result.sys
      ∧ CallRight s (.resubscribe sock handle args) result := by
  have fits := fits ele found
  rw [if_neg (by rw [regroups]; decide)] at fits
  obtain ⟨k, uses, serves⟩ :=
    inv.served.subscriptions ele (List.mem_of_find?_eq_some found)
  let queue :=
    modifyFirst (PdEle.isAt handle) (PdEle.resubscribed args ele.socketIdx) s.session.pRcvQueue
  have moved : tlpResubscribe (.ok ele.socketIdx) handle args s.session
      = (.noErr, { s.session with pRcvQueue := queue }) := by
    simp only [tlpResubscribe, found, regroups, Bool.false_eq_true, if_false]
    rfl
  have slots : queue.map PdEle.socketIdx = s.session.pRcvQueue.map PdEle.socketIdx :=
    map_modifyFirst_of_find? found rfl
  have count : usersOf (s.session.pSndQueue ++ queue) = s.users :=
    usersOf_map (by rw [List.map_append, slots, ← List.map_append]; rfl)
  have pool : PoolFits (usersOf (s.session.pSndQueue ++ queue)) s.pool := by
    rw [count]
    exact inv.fits
  have after : PoolInv { s with session := { s.session with pRcvQueue := queue } } := by
    refine ⟨pool, inv.served.publishers, fun ele' member => ?_⟩
    rcases mem_modifyFirst member with old | ⟨changed, same, eq⟩
    · exact inv.served.subscriptions ele' old
    · obtain rfl : ele = changed := Option.some.inj (found.symm.trans same)
      rw [eq]
      exact ⟨k, uses, serves_resubscribed _ regroups fits serves⟩
  have stays : s.leaver (.resubscribe sock handle args) = none := by
    rw [PoolSys.leaver, found, Option.filter_some, if_neg (by rw [regroups]; decide)]
  simp only [poolResubscribe, found, regroups, Bool.false_eq_true, if_false, moved]
  exact ⟨_, rfl, after, .of_quiet inv after rfl rfl stays⟩

theorem poolResubscribe_right (inv : PoolInv s) {sock : SockEnv} {handle : Nat}
    {args : ResubscribeArgs} (fits : CallFits s (.resubscribe sock handle args))
    : ∃ result, poolResubscribe sock handle args s = some result ∧ PoolInv result.sys
      ∧ CallRight s (.resubscribe sock handle args) result := by
  cases found : s.session.pRcvQueue.find? (PdEle.isAt handle) with
  | none =>
      have stays : s.leaver (.resubscribe sock handle args) = none := by
        rw [PoolSys.leaver, found]
        rfl
      simp only [poolResubscribe, found]
      exact ⟨_, rfl, inv, .of_quiet inv inv rfl rfl stays⟩
  | some ele =>
      cases regroups : ele.regroups args.destIpAddr with
      | true => exact poolResubscribe_regroups inv fits found regroups
      | false => exact poolResubscribe_stays inv fits found regroups

-----------------------------------------------------------------------------------------
-- Runs
-----------------------------------------------------------------------------------------

/-- Every call that fits is right, and keeps the invariant. -/
theorem PoolInv.call_right (inv : PoolInv s) {call : PoolCall} (fits : CallFits s call)
    : ∃ result, poolCall s call = some result ∧ PoolInv result.sys ∧ CallRight s call result := by
  cases call with
  | publish env sock args pSendParam =>
      by_cases fresh : s.Fresh env.handle
      · have eq : poolCall s (.publish env sock args pSendParam)
            = some (poolPublish env sock args pSendParam s) := if_pos fresh
        obtain ⟨after, right⟩ := poolPublish_right inv fits fresh
        exact ⟨_, eq, after, right⟩
      · rw [poolCall, if_neg fresh]
        exact ⟨_, rfl, inv, .of_quiet inv inv rfl rfl rfl⟩
  | unpublish handle => exact poolUnpublish_right inv handle
  | subscribe env sock args =>
      by_cases fresh : s.Fresh env.handle
      · rw [poolCall, if_pos fresh]
        exact poolSubscribe_right inv fits fresh
      · rw [poolCall, if_neg fresh]
        exact ⟨_, rfl, inv, .of_quiet inv inv rfl rfl rfl⟩
  | resubscribe sock handle args => exact poolResubscribe_right inv fits
  | unsubscribe handle => exact poolUnsubscribe_right inv handle
  | otherSession mark =>
      have low := inv.fits.mark
      have raised : PoolInv
          { s with
            pool :=
              { s.pool with
                sCurrentMaxSocketCnt :=
                  max s.pool.sCurrentMaxSocketCnt (min mark vosMaxSocketCnt) } } := by
        refine ⟨⟨inv.fits.length, by dsimp only; omega, inv.fits.slots, fun k beyond => ?_⟩,
          inv.served.publishers, inv.served.subscriptions⟩
        exact inv.fits.beyond k (le_trans (le_max_left _ _) beyond)
      exact ⟨_, rfl, raised, .of_quiet inv raised rfl rfl rfl⟩

/-- From empty queues, every run of calls that fit ends without a fault, and all its calls are
right.
-/
theorem socket_pool_accounting {session : TrdpSession} {mark : Nat} (low : mark ≤ vosMaxSocketCnt)
    (noPublisher : session.pSndQueue = []) (noSubscription : session.pRcvQueue = [])
    (defaultParam : SendParam) (asked : Nat → SendParam) {calls : List PoolCall}
    (fits
      : Along (faulting poolStep) (BeforeFault CallFits)
          (some (.start session mark defaultParam asked)) calls)
    : Along (faulting poolStep) (BeforeFault PoolStepRight)
        (some (.start session mark defaultParam asked)) calls := by
  have keeps : ∀ state call next, PoolInv state → CallFits state call
      → poolStep state call = some next → PoolInv next := by
    intro state call next inv cond stepped
    obtain ⟨result, called, after, -⟩ := inv.call_right cond
    rw [poolStep, called] at stepped
    obtain rfl := Option.some.inj stepped
    exact after
  have safe : ∀ state call, PoolInv state → CallFits state call → PoolStepRight state call := by
    intro state call inv cond
    obtain ⟨result, called, -, right⟩ := inv.call_right cond
    exact ⟨result, called, right⟩
  exact Along.of_faulting keeps safe (poolInv_start low noPublisher noSubscription defaultParam
    asked) fits

/-- Socket calls that all succeed. -/
def openSockEnv : SockEnv where
  sockOpen := .ok 3
  sockBind := none
  sockJoinMc := fun _ => none
  sockJoinNew := none
  sockSetMulticastIf := none

/-- A publication of comId 1000, which gets a socket. -/
def publishCall (allocFrame : Bool) : PoolCall :=
  .publish { publishEnv 1 with allocFrame } openSockEnv (cyclicPublisher none) none

/-- The first process data session of a program. -/
def firstPoolSys : PoolSys := .start openedSession 0 ⟨5, 64⟩ fun _ => ⟨5, 64⟩

/-- A publisher that comes and goes. -/
theorem socket_pool_accounting_published
    : Along (faulting poolStep) (BeforeFault PoolStepRight) (some firstPoolSys)
        [publishCall true, .unpublish 1] := by
  refine socket_pool_accounting (Nat.zero_le _) rfl rfl _ _ ⟨?_, ?_, trivial⟩
  · rintro s ⟨⟩ - -
    refine ⟨fun _ full => absurd full (by decide), fun _ => ⟨rfl, fun k slot first => ?_⟩⟩
    exact absurd first.here.symm (Option.some_ne_none _)
  · exact fun _ _ => trivial

/-- Without memory for its frame the publisher is not queued, but slot 0 has a user. -/
theorem socket_pool_accounting_lost
    : ¬ Along (faulting poolStep) (BeforeFault PoolStepRight) (some firstPoolSys)
        [publishCall false] := by
  rintro ⟨right, -⟩
  obtain ⟨result, called, right⟩ := right _ rfl
  have lost : ∀ result ∈ poolCall firstPoolSys (publishCall false),
      (result.sys.pool.iface[0]?).map TrdpSockets.usage = some 1 ∧ result.sys.users 0 = 0 := by
    decide +kernel
  obtain ⟨usage, users⟩ := lost result called
  obtain ⟨slot, at_, one⟩ := Option.map_eq_some_iff.mp usage
  have counts := right.pool.usage 0 slot at_
  rw [one, users] at counts
  exact absurd counts (by decide)

end TsnTrdp.Trdp
