import TsnTrdp.Trdp.PoolCalls
import TsnTrdp.Trdp.PutFrames

/-! Publishing, subscribing and requesting as a whole. A call that reports no error has added one
element as it was asked for, and one that reports an error has left the queues, the caller's handle
and the users of the sockets as they were, but for the branches that are stated one by one.
-/

namespace TsnTrdp.Trdp

open TsnTrdp.Run TsnTrdp.Queue

-----------------------------------------------------------------------------------------
-- The calls
-----------------------------------------------------------------------------------------

/-- `tlp_request` comes to the allocation of its frame. -/
def RequestAsks (env : PublishEnv) (args : RequestArgs) (session : TrdpSession) : Prop :=
  ¬ (args.comId = 0 ∧ args.replyComId = 0 ∨ args.destIpAddr = 0)
  ∧ (session.pRcvQueue.find? (PdEle.isAt args.subHandle)).isSome = true
  ∧ env.allocEle = true

instance (env : PublishEnv) (args : RequestArgs) (session : TrdpSession)
    : Decidable (RequestAsks env args session) :=
  inferInstanceAs (Decidable (_ ∧ _))

/-- The addresses of a request. -/
def RequestArgs.addr (args : RequestArgs) (realIp : U32) : TrdpAddresses where
  comId := args.comId
  srcIpAddr := if args.srcIpAddr = 0 then realIp else args.srcIpAddr
  destIpAddr := args.destIpAddr
  mcGroup := multicastGroup args.destIpAddr
  etbTopoCnt := 0
  opTrnTopoCnt := 0

/-- The socket that a request asks for. -/
def RequestArgs.request (args : RequestArgs) (realIp : U32) (params : SendParam)
    : SocketRequest where
  params
  srcIp := (args.addr realIp).srcIpAddr
  mcGroup := 0
  usage := .pd
  rcvMostly := false
  useSocket := vosInvalidSocket
  cornerIp := 0

/-- `tlp_request` with its request for a socket, which it makes once it has its frame. -/
def poolRequest (env : PublishEnv) (sock : SockEnv) (args : RequestArgs)
    (pSendParam : Option SendParam) (s : PoolSys)
    : TrdpErr × PoolSys :=
  let params := pSendParam.getD s.defaultParam
  if RequestAsks env args s.session ∧ env.allocFrame = true then
    let result := trdpRequestSocket sock (args.request s.session.realIp params) s.pool
    let (err, session) := tlpRequest { env with socket := result.socket 0 } args s.session
    ( err,
      { s with
        session
        pool := result.pool
        asked := fun handle => if handle = env.handle then params else s.asked handle } )
  else
    let (err, session) := tlpRequest env args s.session
    (err, { s with session })

/-- `tlp_publish` writes the caller's handle where it queues the element. -/
def publishHandle (env : PublishEnv) (socket : Except TrdpErr Int) (args : PublishArgs)
    (session : TrdpSession) (pPubHandle : Nat)
    : Nat :=
  if PublishAsks env args session ∧ socket.isOk = true ∧ env.allocFrame = true then env.handle
  else pPubHandle

/-- `tlp_subscribe` writes the caller's handle where it queues the element. -/
def subscribeHandle (env : SubscribeEnv) (socket : Except TrdpErr Int) (args : SubscribeArgs)
    (session : TrdpSession) (pSubHandle : Nat)
    : Nat :=
  if SubscribeAsks args session ∧ socket.isOk = true ∧ env.allocEle = true
      ∧ env.allocFrame = true then
    env.handle
  else pSubHandle

/-- A call that is to add an element. `pPubHandle` and `pSubHandle` are what the caller's variable
holds, and nothing where the caller gives none.
-/
inductive Acquire
  | publish (pPubHandle : Option Nat) (env : PublishEnv) (sock : SockEnv) (args : PublishArgs)
      (pSendParam : Option SendParam)
  | subscribe (pSubHandle : Option Nat) (env : SubscribeEnv) (sock : SockEnv)
      (args : SubscribeArgs)
  | request (env : PublishEnv) (sock : SockEnv) (args : RequestArgs)
      (pSendParam : Option SendParam)

/-- What a call leaves, with the caller's variable. -/
structure Acquired where
  err : TrdpErr
  sys : PoolSys
  handle : Option Nat

/-- One call. -/
def acquire (s : PoolSys) : Acquire → Option Acquired
  | .publish none .. | .subscribe none .. => some ⟨.paramErr, s, none⟩
  | .publish (some pPubHandle) env sock args pSendParam =>
      let req := args.request s.session.realIp (pSendParam.getD s.defaultParam)
      let socket := (trdpRequestSocket sock req s.pool).socket 0
      let result := poolPublish env sock args pSendParam s
      some
        ⟨result.err, result.sys, some (publishHandle env socket args s.session pPubHandle)⟩
  | .subscribe (some pSubHandle) env sock args =>
      let req := subscriptionRequest s.session.realIp s.defaultParam args.destIpAddr
      let socket := (trdpRequestSocket sock req s.pool).socket 0
      (poolSubscribe env sock args s).map fun result =>
        ⟨result.err, result.sys, some (subscribeHandle env socket args s.session pSubHandle)⟩
  | .request env sock args pSendParam =>
      let (err, sys) := poolRequest env sock args pSendParam s
      some ⟨err, sys, none⟩

/-- The address that the call gets for its element. -/
def Acquire.handle : Acquire → Nat
  | .publish _ env _ _ _ => env.handle
  | .subscribe _ env _ _ => env.handle
  | .request env _ _ _ => env.handle

/-- What happens to a session: one of the three calls; a call that gives a socket up, or that of
another session; and anything else that changes the session but not the pool, as sending and
receiving do.
-/
inductive SessionEvent
  | acquire (call : Acquire)
  | call (call : PoolCall)
  | change (session : TrdpSession)

def sessionStep (s : PoolSys) : SessionEvent → Option PoolSys
  | .acquire call =>
      if s.Fresh call.handle then (acquire s call).map Acquired.sys else some s
  | .call call => poolStep s call
  | .change session => some { s with session }

-----------------------------------------------------------------------------------------
-- What is asked of a call
-----------------------------------------------------------------------------------------

/-- The number of users of an open socket. -/
def TrdpSockets.count (slot : TrdpSockets) : Option U16 :=
  if slot.sock = vosInvalidSocket then none else some slot.usage

/-- The numbers of users of the open sockets. -/
def SocketPool.usages (pool : SocketPool) : List (Option U16) :=
  pool.iface.map TrdpSockets.count

/-- The first data of a new element, with the marshalling function that they go through. -/
structure FirstData where
  marshall : Option TrdpMarshall
  comId : U32
  pData : Option (List U8)
  dataSize : U32

/-- The data that are put, if any. -/
def FirstData.bytes (data : FirstData) : Option (List U8) :=
  if data.dataSize = 0 then none else data.pData.map fun bytes => bytes.take data.dataSize.toNat

/-- Whether the data can be marshalled, and the size of what is sent. -/
def FirstData.sent (data : FirstData) : TrdpErr × U32 :=
  match data.bytes, data.marshall with
  | some bytes, some marshall =>
      let (err, _, dataSize) := marshall data.comId bytes
      (err, dataSize)
  | _, _ => (.noErr, data.dataSize)

/-- The data can be put. -/
def FirstData.Fits (data : FirstData) : Prop :=
  data.bytes.isSome = true → data.sent.1 = .noErr ∧ data.sent.2.toNat ≤ trdpMaxPdDataSize

/-- The marshalling function of a new element. -/
def TrdpSession.marshallFor (session : TrdpSession) (pktFlags : U8) : Option TrdpMarshall :=
  let pktFlags := if pktFlags = trdpFlagsDefault then session.pdDefault.flags else pktFlags
  if Has pktFlags trdpFlagsMarshall then session.marshall else none

def PublishArgs.firstData (args : PublishArgs) (session : TrdpSession) : FirstData where
  marshall := session.marshallFor args.pktFlags
  comId := args.comId
  pData := args.pData
  dataSize := args.dataSize

def RequestArgs.firstData (args : RequestArgs) (session : TrdpSession) : FirstData where
  marshall := session.marshallFor args.pktFlags
  comId := args.comId
  pData := args.pData
  dataSize := args.dataSize

/-- The addressing, interval and frame size of an element. -/
structure Terms where
  addr : TrdpAddresses
  interval : TrdpTime
  grossSize : U32
  deriving DecidableEq, Repr

def PdEle.terms (ele : PdEle) : Terms := ⟨ele.addr, ele.interval, ele.grossSize⟩

/-- What a publisher is published with. Its frame is that of the data as they are sent. -/
def PublishArgs.terms (args : PublishArgs) (session : TrdpSession) : Terms where
  addr := args.addr session.realIp
  interval := if args.interval = 0 then .cleared else .ofUsecs args.interval.toNat
  grossSize := trdpPacketSizePd (args.firstData session).sent.2

/-- What a subscription is made with. Its frame is as large as any. -/
def SubscribeArgs.terms (args : SubscribeArgs) (session : TrdpSession) : Terms where
  addr := args.addr
  interval :=
    let timeout := args.period session.pdDefault
    if timeout = trdpTimerForever then .cleared else .ofUsecs timeout.toNat
  grossSize := BitVec.ofNat 32 trdpMaxPdPacketSize

/-- What a request is made with. It is sent once. -/
def RequestArgs.terms (args : RequestArgs) (session : TrdpSession) : Terms where
  addr := args.addr session.realIp
  interval := .cleared
  grossSize := trdpPacketSizePd (args.firstData session).sent.2

/-- What the element of a call has to be like. -/
def Acquire.terms (session : TrdpSession) : Acquire → Terms
  | .publish _ _ _ args _ => args.terms session
  | .subscribe _ _ _ args => args.terms session
  | .request _ _ args _ => args.terms session

/-- The queue that the element of a call belongs to. -/
def Acquire.queue (session : TrdpSession) : Acquire → List PdEle
  | .publish .. | .request .. => session.pSndQueue
  | .subscribe .. => session.pRcvQueue

/-- What the caller's variable holds. -/
def Acquire.given : Acquire → Option Nat
  | .publish pPubHandle .. => pPubHandle
  | .subscribe pSubHandle .. => pSubHandle
  | .request .. => none

/-- `ele` is new in a queue; the other elements are the old ones, if at other times. -/
def OneMore (old new : List PdEle) (ele : PdEle) : Prop :=
  ∃ others, Retimed old others ∧ new.Perm (ele :: others)

/-- All that was asked for: an element is new in the queue, and the handle of a caller that has one
denotes it.
-/
def Added (s : PoolSys) (call : Acquire) (result : Acquired) : Prop :=
  ∃ ele, ele.terms = call.terms s.session
    ∧ OneMore (call.queue s.session) (call.queue result.sys.session) ele
    ∧ (call.given.isSome = true
      → ∃ handle, result.handle = some handle
        ∧ (call.queue result.sys.session).find? (PdEle.isAt handle) = some ele)

/-- Nothing has changed. -/
structure Untouched (s : PoolSys) (call : Acquire) (result : Acquired) : Prop where
  sndQueue : result.sys.session.pSndQueue = s.session.pSndQueue
  rcvQueue : result.sys.session.pRcvQueue = s.session.pRcvQueue
  handle : result.handle = call.given
  usages : result.sys.pool.usages = s.pool.usages

/-- What is asked of a call. -/
structure AllOrNothing (s : PoolSys) (call : Acquire) (result : Acquired) : Prop where
  all : result.err = .noErr → Added s call result
  nothing : result.err ≠ .noErr → Untouched s call result

/-- What must hold of a call. A publication that gets a socket gets memory for its frame, and its
first data can be put; a subscription that gets a socket gets memory for its frame, or it gets none
for its element and shares a slot, if any, of which the counter has not overflowed; a request gets
memory for its frame, and its data can be put if it gets a socket.
-/
def Acquire.Completes (s : PoolSys) : Acquire → Prop
  | .publish pPubHandle env sock args pSendParam =>
      let req := args.request s.session.realIp (pSendParam.getD s.defaultParam)
      pPubHandle.isSome = true → PublishAsks env args s.session → Granted sock req s.pool
        → env.allocFrame = true ∧ (args.firstData s.session).Fits
  | .subscribe pSubHandle env sock args =>
      let req := subscriptionRequest s.session.realIp s.defaultParam args.destIpAddr
      pSubHandle.isSome = true → SubscribeAsks args s.session → Granted sock req s.pool
        → if env.allocEle = true then env.allocFrame = true
          else ∀ k slot, FirstTaken sock req 0 s.pool.searched k slot → 0 < slot.usage.toInt
  | .request env sock args pSendParam =>
      let req := args.request s.session.realIp (pSendParam.getD s.defaultParam)
      RequestAsks env args s.session
        → env.allocFrame = true
          ∧ (Granted sock req s.pool → (args.firstData s.session).Fits)

-----------------------------------------------------------------------------------------
-- The pool in every run
-----------------------------------------------------------------------------------------

/-- The slots from the mark on have never been opened. -/
structure PoolShape (pool : SocketPool) : Prop where
  length : pool.iface.length = vosMaxSocketCnt
  mark : pool.sCurrentMaxSocketCnt ≤ vosMaxSocketCnt
  beyond
    : ∀ k slot, pool.sCurrentMaxSocketCnt ≤ k → pool.iface[k]? = some slot
      → slot.sock = vosInvalidSocket

/-- One user for every open socket. -/
def SocketPool.openAt (pool : SocketPool) (k : Nat) : Nat :=
  if (pool.iface[k]?.bind TrdpSockets.count).isSome then 1 else 0

variable {pool pool' : SocketPool} {slot slot' : TrdpSockets} {sock : SockEnv}
  {req : SocketRequest} {k mark : Nat} {now : TrdpTime} {connectTimeout : U32} {closed : List Nat}
  {s : PoolSys}

theorem TrdpSockets.count_closed (closed : slot.sock = vosInvalidSocket) : slot.count = none :=
  if_pos closed

theorem TrdpSockets.count_open (opened : slot.sock ≠ vosInvalidSocket)
    : slot.count = some slot.usage :=
  if_neg opened

theorem count_of_openAt (at_ : pool.iface[k]? = some slot) (unused : pool.openAt k = 0)
    : slot.count = none := by
  rw [SocketPool.openAt, at_, Option.bind_some] at unused
  cases count : slot.count with
  | none => rfl
  | some usage =>
      rw [count] at unused
      exact absurd unused Nat.one_ne_zero

theorem PoolShape.entriesFree (shape : PoolShape pool) : EntriesFree pool.openAt pool where
  length := shape.length
  mark := shape.mark
  closed k slot at_ closed := by
    rw [SocketPool.openAt, at_, Option.bind_some, TrdpSockets.count_closed closed]
    rfl
  beyond k above := by
    cases at_ : pool.iface[k]? with
    | none => rw [SocketPool.openAt, at_]; rfl
    | some slot =>
        have closed := shape.beyond k slot above at_
        rw [SocketPool.openAt, at_, Option.bind_some, TrdpSockets.count_closed closed]
        rfl

theorem PoolShape.init (low : mark ≤ vosMaxSocketCnt) : PoolShape (.init mark) where
  length := List.length_replicate
  mark := low
  beyond k slot _ at_ := by
    obtain rfl := List.eq_of_mem_replicate (List.mem_of_getElem? at_)
    rfl

/-- A slot below the mark may become anything. -/
theorem PoolShape.set (shape : PoolShape pool) (below : k < mark)
    (up : pool.sCurrentMaxSocketCnt ≤ mark) (low : mark ≤ vosMaxSocketCnt)
    : PoolShape ⟨pool.iface.set k slot, mark⟩ where
  length := by rw [List.length_set, shape.length]
  mark := low
  beyond j other above at_ := by
    have apart : k ≠ j := by
      have above : mark ≤ j := above
      omega
    rw [List.getElem?_set_ne apart] at at_
    exact shape.beyond j other (le_trans up above) at_

/-- A slot may become one that is as closed as it was. -/
theorem PoolShape.set_at (shape : PoolShape pool) (at_ : pool.iface[k]? = some slot)
    (stays : slot.sock = vosInvalidSocket → slot'.sock = vosInvalidSocket)
    : PoolShape { pool with iface := pool.iface.set k slot' } where
  length := by rw [List.length_set, shape.length]
  mark := shape.mark
  beyond j other above there := by
    by_cases same : k = j
    · subst same
      have inside := (List.getElem?_eq_some_iff.mp at_).1
      rw [List.getElem?_set_self inside] at there
      obtain rfl := Option.some.inj there
      exact stays (shape.beyond k slot above at_)
    · rw [List.getElem?_set_ne same] at there
      exact shape.beyond j other above there

theorem trdpRequestSocket_shape (pd : IsPdRequest req) (shape : PoolShape pool)
    : PoolShape (trdpRequestSocket sock req pool).pool := by
  rcases trdpRequestSocket_cases pd sock shape.entriesFree with
    ⟨k, slot, first, slot', -, eq⟩ | creates | exhausted
  · obtain ⟨-, below, -⟩ := first.inPool shape.entriesFree
    rw [eq]
    exact shape.set below le_rfl shape.mark
  · obtain ⟨k, mark, slot, -, below, up, low, eq, -⟩ := creates.after
    rw [eq]
    exact shape.set below up low
  · rw [exhausted.eq]
    exact shape

theorem trdpReleaseSocket_shape {lIndex : Int} (shape : PoolShape pool)
    (released : trdpReleaseSocket now connectTimeout lIndex pool = some (pool', closed))
    : PoolShape pool' := by
  unfold trdpReleaseSocket at released
  split at released
  · cases released
  obtain ⟨slot, at_, eq⟩ := Option.map_eq_some_iff.mp released
  have same := congrArg Prod.fst eq
  dsimp only at same
  repeat' split at same
  all_goals subst same
  · exact shape.set_at at_ fun _ => rfl
  · exact shape.set_at at_ id
  · exact shape.set_at at_ id
  · exact shape.set_at at_ id
  · exact shape

theorem poolPublish_shape (env : PublishEnv) (sock : SockEnv) (args : PublishArgs)
    (pSendParam : Option SendParam) (shape : PoolShape s.pool)
    : PoolShape (poolPublish env sock args pSendParam s).sys.pool := by
  unfold poolPublish
  dsimp only
  split
  · exact trdpRequestSocket_shape (isPdRequest_publisher _ _ _) shape
  · exact shape

theorem poolSubscribe_shape {env : SubscribeEnv} {args : SubscribeArgs} {result : CallResult}
    (shape : PoolShape s.pool) (called : poolSubscribe env sock args s = some result)
    : PoolShape result.sys.pool := by
  let req := subscriptionRequest s.session.realIp s.defaultParam args.destIpAddr
  have requested : PoolShape (trdpRequestSocket sock req s.pool).pool :=
    trdpRequestSocket_shape (isPdRequest_subscription _ _ _) shape
  unfold poolSubscribe at called
  dsimp only at called
  split at called
  · split at called
    · obtain ⟨⟨pool, closed⟩, released, rfl⟩ := Option.map_eq_some_iff.mp called
      exact trdpReleaseSocket_shape requested released
    · obtain rfl := Option.some.inj called
      exact requested
  · obtain rfl := Option.some.inj called
    exact shape

theorem poolResubscribe_shape {handle : Nat} {args : ResubscribeArgs} {result : CallResult}
    (shape : PoolShape s.pool) (called : poolResubscribe sock handle args s = some result)
    : PoolShape result.sys.pool := by
  unfold poolResubscribe at called
  split at called
  · obtain rfl := Option.some.inj called
    exact shape
  split at called
  · obtain ⟨⟨pool, closed⟩, released, called⟩ := Option.bind_eq_some_iff.mp called
    let req := subscriptionRequest s.session.realIp s.defaultParam args.destIpAddr
    have requested : PoolShape (trdpRequestSocket sock req pool).pool :=
      trdpRequestSocket_shape (isPdRequest_subscription _ _ _)
        (trdpReleaseSocket_shape shape released)
    dsimp only at called
    split at called
    · obtain rfl := Option.some.inj called
      exact requested
    · obtain ⟨⟨pool', closed'⟩, again, rfl⟩ := Option.map_eq_some_iff.mp called
      exact trdpReleaseSocket_shape requested again
  · obtain rfl := Option.some.inj called
    exact shape

/-- No call opens a slot from the mark on. -/
theorem poolCall_shape {call : PoolCall} {result : CallResult} (shape : PoolShape s.pool)
    (called : poolCall s call = some result)
    : PoolShape result.sys.pool := by
  have withdraws : ∀ found outcome, poolWithdraw found outcome s = some result
      → PoolShape result.sys.pool := by
    intro found outcome called
    cases found with
    | none =>
        obtain rfl := Option.some.inj called
        exact shape
    | some ele =>
        obtain ⟨⟨pool, closed⟩, released, rfl⟩ := Option.map_eq_some_iff.mp called
        exact trdpReleaseSocket_shape shape released
  cases call with
  | publish env sock args pSendParam =>
      rw [poolCall] at called
      split at called
      · obtain rfl := Option.some.inj called
        exact poolPublish_shape env sock args pSendParam shape
      · obtain rfl := Option.some.inj called
        exact shape
  | subscribe env sock args =>
      rw [poolCall] at called
      split at called
      · exact poolSubscribe_shape shape called
      · obtain rfl := Option.some.inj called
        exact shape
  | resubscribe sock handle args => exact poolResubscribe_shape shape called
  | unpublish handle => exact withdraws _ _ called
  | unsubscribe handle => exact withdraws _ _ called
  | otherSession mark =>
      obtain rfl := Option.some.inj called
      have low := shape.mark
      refine ⟨shape.length, by dsimp only; omega, fun k slot above => ?_⟩
      exact shape.beyond k slot (le_trans (le_max_left _ _) above)

-----------------------------------------------------------------------------------------
-- The users of the sockets
-----------------------------------------------------------------------------------------

/-- What is put into one slot shows exactly if its socket or its number of users is another. -/
theorem usages_set (at_ : pool.iface[k]? = some slot)
    : (⟨pool.iface.set k slot', mark⟩ : SocketPool).usages = pool.usages
      ↔ slot'.count = slot.count := by
  have here : pool.usages[k]? = some slot.count := by
    rw [SocketPool.usages, List.getElem?_map, at_, Option.map_some]
  have set : (⟨pool.iface.set k slot', mark⟩ : SocketPool).usages
      = pool.usages.set k slot'.count := List.map_set
  rw [set]
  obtain ⟨inside, same⟩ := List.getElem?_eq_some_iff.mp here
  constructor
  · intro unchanged
    have there := List.getElem?_set_self (a := slot'.count) inside
    rw [unchanged, here] at there
    exact (Option.some.inj there).symm
  · intro counts
    rw [counts, ← same, List.set_getElem_self]

/-- A slot that is taken is open, and has another user exactly if it is ready. -/
theorem Taken.count {err : TrdpErr} (taken : Taken sock req slot slot' err)
    (takes : Takes sock req k slot)
    : slot.count = some slot.usage
      ∧ slot'.count = some (if err = .noErr then slot.usage + 1 else slot.usage) := by
  have opened : slot.sock ≠ vosInvalidSocket := (of_decide_eq_true takes.1).1
  refine ⟨TrdpSockets.count_open opened, ?_⟩
  rw [TrdpSockets.count_open (taken.kept.1 ▸ opened), taken.usage]

/-- A request that fails changes no number of users. -/
theorem usages_refused (pd : IsPdRequest req) (shape : PoolShape pool)
    (refused : ¬ Granted sock req pool)
    : (trdpRequestSocket sock req pool).pool.usages = pool.usages := by
  have free := shape.entriesFree
  have failed := mt (trdpRequestSocket_granted_iff pd sock free).mp refused
  rcases trdpRequestSocket_cases pd sock free with
    ⟨k, slot, first, slot', taken, eq⟩ | creates | exhausted
  · obtain ⟨at_, -⟩ := first.inPool free
    obtain ⟨before, after⟩ := taken.count first.takes
    rw [eq]
    exact (usages_set at_).mpr (by rw [before, after, if_neg failed])
  · obtain ⟨k, mark, slot, unused, below, -, low, eq, -, refuse⟩ := creates.after
    obtain ⟨-, -, closed, -⟩ := refuse failed
    obtain ⟨old, at_⟩ : ∃ old, pool.iface[k]? = some old :=
      ⟨_, List.getElem?_eq_getElem (shape.length ▸ lt_of_lt_of_le below low)⟩
    rw [eq]
    exact (usages_set at_).mpr
      ((TrdpSockets.count_closed closed).trans (count_of_openAt at_ unused).symm)
  · rw [exhausted.eq]

theorem usage_succ_ne (usage : U16) : usage + 1 ≠ usage := by
  intro same
  have values := congrArg BitVec.toNat same
  rw [BitVec.toNat_add] at values
  have bound := usage.isLt
  have one : (1 : U16).toNat = 1 := rfl
  omega

/-- A request that is granted gives a slot another user. -/
theorem usages_granted (pd : IsPdRequest req) (shape : PoolShape pool)
    (granted : Granted sock req pool)
    : (trdpRequestSocket sock req pool).pool.usages ≠ pool.usages := by
  have free := shape.entriesFree
  have done := (trdpRequestSocket_granted_iff pd sock free).mpr granted
  intro same
  rcases trdpRequestSocket_cases pd sock free with
    ⟨k, slot, first, slot', taken, eq⟩ | creates | exhausted
  · obtain ⟨at_, -⟩ := first.inPool free
    obtain ⟨before, after⟩ := taken.count first.takes
    rw [eq, usages_set at_, before, after, if_pos done] at same
    exact usage_succ_ne slot.usage (Option.some.inj same)
  · obtain ⟨k, mark, slot, unused, below, -, low, eq, grant, -⟩ := creates.after
    obtain ⟨-, -, serves, -⟩ := grant done
    obtain ⟨old, at_⟩ : ∃ old, pool.iface[k]? = some old :=
      ⟨_, List.getElem?_eq_getElem (shape.length ▸ lt_of_lt_of_le below low)⟩
    rw [eq, usages_set at_, count_of_openAt at_ unused, TrdpSockets.count_open serves.opened]
      at same
    cases same
  · exact absurd done exhausted.ne

/-- After a release right after its request every slot has the users that it had, unless the counter
of the slot that was shared had overflowed, so that its socket is closed.
-/
theorem released_granted (pd : IsPdRequest req) (shape : PoolShape pool)
    (granted : Granted sock req pool)
    : ∃ (k : Nat) (pool' : SocketPool) (closed : List Nat),
      (trdpRequestSocket sock req pool).pIndex = some (k : Int)
      ∧ trdpReleaseSocket now connectTimeout k (trdpRequestSocket sock req pool).pool
        = some (pool', closed)
      ∧ (pool'.usages = pool.usages
        ↔ ∀ j slot, FirstTaken sock req 0 pool.searched j slot → 0 < slot.usage.toInt) := by
  have free := shape.entriesFree
  have done := (trdpRequestSocket_granted_iff pd sock free).mpr granted
  rcases trdpRequestSocket_cases pd sock free with ⟨k, slot, shares⟩ | creates | exhausted
  · -- the counter is back where it was, and was positive unless it had overflowed
    have first := shares.first
    obtain ⟨at_, -⟩ := first.inPool free
    obtain ⟨slot', taken, pIndex, released⟩ :=
      shares.releases now connectTimeout pd free done
    obtain ⟨before, -⟩ := taken.count first.takes
    have opened : slot.sock ≠ vosInvalidSocket := (of_decide_eq_true first.takes.1).1
    have only : (∀ j slot, FirstTaken sock req 0 pool.searched j slot → 0 < slot.usage.toInt)
        ↔ 0 < slot.usage.toInt := by
      refine ⟨fun all => all k slot first, fun holds j other second => ?_⟩
      obtain rfl := first.unique second
      exact Option.some.inj (first.here.symm.trans second.here) ▸ holds
    rw [only]
    by_cases last : slot.usage.toInt ≤ 0
    · rw [if_pos last] at released
      refine ⟨k, _, _, pIndex, released, ?_⟩
      rw [usages_set at_, before, TrdpSockets.count_closed rfl]
      exact iff_of_false (Option.some_ne_none _).symm (not_lt.mpr last)
    · rw [if_neg last] at released
      refine ⟨k, _, _, pIndex, released, ?_⟩
      rw [usages_set at_, before, TrdpSockets.count_open (taken.kept.1 ▸ opened)]
      exact iff_of_true rfl (not_le.mp last)
  · -- the new socket was the only user of its entry, and is closed again
    obtain ⟨k, mark, slot, unused, -, -, inside, -, pIndex, released⟩ :=
      creates.releases now connectTimeout free done
    obtain ⟨old, at_⟩ : ∃ old, pool.iface[k]? = some old :=
      ⟨_, List.getElem?_eq_getElem (shape.length ▸ inside)⟩
    refine ⟨k, _, _, pIndex, released, ?_⟩
    rw [usages_set at_, count_of_openAt at_ unused]
    exact iff_of_true (TrdpSockets.count_closed rfl) fun j other first =>
      absurd creates.none first.not_none
  · exact absurd done exhausted.ne

-----------------------------------------------------------------------------------------
-- First data
-----------------------------------------------------------------------------------------

variable {marshall : Option TrdpMarshall} {alloc : Bool} {data : FirstData} {ele : PdEle}

/-- What a new element gets before it is queued. -/
def FirstData.put (data : FirstData) (marshall : Option TrdpMarshall) (alloc : Bool) (ele : PdEle)
    : TrdpErr × PdEle :=
  if data.dataSize ≠ 0 then trdpPdPut marshall alloc data.pData data.dataSize ele
  else (.noErr, ele)

/-- A new element that the data are put into. -/
structure FirstData.Enters (data : FirstData) (marshall : Option TrdpMarshall) (ele : PdEle)
    : Prop where
  marshall : (if Has ele.pktFlags trdpFlagsMarshall then marshall else none) = data.marshall
  comId : ele.addr.comId = data.comId
  dataSize : ele.dataSize = data.dataSize
  grossSize : ele.grossSize = trdpPacketSizePd data.dataSize

theorem FirstData.put_keeps (data : FirstData) (marshall : Option TrdpMarshall) (alloc : Bool)
    (ele : PdEle)
    : PutKeeps ele (data.put marshall alloc ele).2 := by
  unfold FirstData.put
  split
  · exact trdpPdPut_keeps _ _ _ _ _
  · exact .refl ele

/-- Without data a new element stays as it is. -/
theorem FirstData.put_none (empty : data.bytes = none)
    : data.put marshall alloc ele = (.noErr, ele) := by
  unfold FirstData.put
  by_cases zero : data.dataSize = 0
  · exact if_neg (not_not_intro zero)
  · have none := (sizedData_none empty).resolve_left zero
    rw [if_pos zero, none, trdpPdPut, if_neg fun both => zero both.2]

/-- Data are put exactly if they are sent without an error and are not too many. -/
theorem FirstData.put_some {bytes : List U8} (enters : data.Enters marshall ele)
    (given : data.bytes = some bytes)
    : ((data.put marshall alloc ele).1 = .noErr
        ↔ data.sent.1 = .noErr ∧ data.sent.2.toNat ≤ trdpMaxPdDataSize)
      ∧ (data.sent.2.toNat ≤ trdpMaxPdDataSize
        → (data.put marshall alloc ele).2.grossSize = trdpPacketSizePd data.sent.2) := by
  obtain ⟨sized, all, pData, rfl⟩ := sizedData_some given
  have large : pdEnlarge alloc data.dataSize ele = (true, ele) := by
    rw [pdEnlarge, if_neg (by rw [enters.dataSize]; exact sized)]
  have used := enters.marshall
  unfold FirstData.put FirstData.sent
  rw [if_pos sized, pData, given]
  cases marshaller : data.marshall with
  | none =>
      rw [marshaller] at used
      rw [trdpPdPut_plain sized large used]
      by_cases long : trdpMaxPdDataSize < data.dataSize.toNat
      · rw [if_pos long]
        exact ⟨iff_of_false TrdpErr.noConfusion fun both => absurd both.2 (not_le.mpr long),
          fun short => absurd short (not_le.mpr long)⟩
      · rw [if_neg long]
        exact ⟨iff_of_true rfl ⟨rfl, not_lt.mp long⟩, fun _ => enters.grossSize⟩
  | some marshall =>
      rw [marshaller] at used
      rcases result : marshall data.comId (all.take data.dataSize.toNat) with
        ⟨err, written, size⟩
      rw [← enters.comId] at result
      rw [trdpPdPut_marshalled sized large used result, ← enters.comId]
      simp only [result]
      by_cases long : trdpMaxPdDataSize < size.toNat
      · rw [if_pos long]
        exact ⟨iff_of_false TrdpErr.noConfusion fun both => absurd both.2 (not_le.mpr long),
          fun short => absurd short (not_le.mpr long)⟩
      · rw [if_neg long]
        by_cases done : err = .noErr
        · rw [if_pos done]
          exact ⟨iff_of_true rfl ⟨done, not_lt.mp long⟩, fun _ => rfl⟩
        · rw [if_neg done]
          exact ⟨iff_of_false done fun both => done both.1, fun _ => rfl⟩

/-- The data are put exactly if they fit, and the frame is then as large as what is sent. -/
theorem FirstData.put_outcome (enters : data.Enters marshall ele)
    : ((data.put marshall alloc ele).1 = .noErr ↔ data.Fits)
      ∧ (data.Fits
        → (data.put marshall alloc ele).2.grossSize = trdpPacketSizePd data.sent.2) := by
  cases bytes : data.bytes with
  | none =>
      have sent : data.sent = (.noErr, data.dataSize) := by rw [FirstData.sent, bytes]
      have fits : data.Fits := by
        intro given
        rw [bytes] at given
        exact absurd given Bool.false_ne_true
      rw [FirstData.put_none bytes, sent]
      exact ⟨iff_of_true rfl fits, fun _ => enters.grossSize⟩
  | some bytes' =>
      have given : data.bytes.isSome = true := by
        rw [bytes]
        rfl
      obtain ⟨done, size⟩ := FirstData.put_some enters bytes
      exact ⟨done.trans ⟨fun both _ => both, fun fits => fits given⟩,
        fun fits => size (fits given).2⟩

-----------------------------------------------------------------------------------------
-- One element more
-----------------------------------------------------------------------------------------

variable {old new : List PdEle} {call : Acquire} {result : Acquired}

theorem OneMore.length (more : OneMore old new ele) : new.length = old.length + 1 := by
  obtain ⟨others, retimed, perm⟩ := more
  rw [perm.length_eq, List.length_cons, retimed.length_eq]

/-- The new element is found at its address, which no old one has. -/
theorem OneMore.find? (more : OneMore old new ele)
    (fresh : ele.handle ∉ old.map PdEle.handle)
    : new.find? (PdEle.isAt ele.handle) = some ele := by
  obtain ⟨others, retimed, perm⟩ := more
  have names : others.map PdEle.handle = old.map PdEle.handle :=
    retimed.map_eq fun _ _ => rfl
  have here : ele ∈ new := perm.mem_iff.mpr List.mem_cons_self
  cases found : new.find? (PdEle.isAt ele.handle) with
  | none => exact absurd (decide_eq_true rfl) (List.find?_eq_none.mp found ele here)
  | some other =>
      have member := perm.mem_iff.mp (List.mem_of_find?_eq_some found)
      rcases List.mem_cons.mp member with same | among
      · rw [same]
      · have name : other.handle = ele.handle := by
          have named : PdEle.isAt ele.handle other = true := List.find?_some found
          exact of_decide_eq_true named
        exact absurd (names ▸ name ▸ List.mem_map_of_mem among) fresh

/-- Of an element that was appended, a queue at other times has one more. -/
theorem oneMore_of_retimed (retimed : Retimed (old ++ [ele]) new)
    : ∃ ele', ele'.terms = ele.terms ∧ ele'.handle = ele.handle ∧ OneMore old new ele' := by
  induction old generalizing new with
  | nil =>
      rcases retimed with _ | ⟨same, _ | _⟩
      exact ⟨_, by rw [same]; rfl, by rw [same], [], .nil, .refl _⟩
  | cons first rest ih =>
      rcases retimed with _ | ⟨same, later⟩
      obtain ⟨ele', terms, name, others, retimed, perm⟩ := ih later
      exact ⟨ele', terms, name, _ :: others, .cons same retimed,
        (perm.cons _).trans (List.Perm.swap _ _ _)⟩

theorem Untouched.queue (untouched : Untouched s call result)
    : call.queue result.sys.session = call.queue s.session := by
  cases call with
  | publish => exact untouched.sndQueue
  | subscribe => exact untouched.rcvQueue
  | request => exact untouched.sndQueue

/-- A call that fails and changes nothing. -/
theorem AllOrNothing.failed (err : result.err ≠ .noErr) (untouched : Untouched s call result)
    : AllOrNothing s call result :=
  ⟨fun done => absurd done err, fun _ => untouched⟩

/-- A call that fails with the session that it found. -/
theorem AllOrNothing.kept {outcome : TrdpErr × TrdpSession} {err : TrdpErr}
    (eq : outcome = (err, s.session)) (failed : err ≠ .noErr) (reports : result.err = outcome.1)
    (session : result.sys.session = outcome.2) (handle : result.handle = call.given)
    (usages : result.sys.pool.usages = s.pool.usages)
    : AllOrNothing s call result := by
  subst eq
  refine .failed (by rw [reports]; exact failed) ⟨?_, ?_, handle, usages⟩
  · rw [session]
  · rw [session]

theorem AllOrNothing.done (err : result.err = .noErr) (added : Added s call result)
    : AllOrNothing s call result :=
  ⟨fun _ => added, fun failed => absurd err failed⟩

/-- A call that reports no error, but adds nothing. -/
theorem not_allOrNothing_idle (err : result.err = .noErr)
    (same : call.queue result.sys.session = call.queue s.session)
    : ¬ AllOrNothing s call result := by
  intro whole
  obtain ⟨ele, -, more, -⟩ := whole.all err
  rw [same] at more
  exact absurd more.length (by omega)

/-- A call that reports an error, but has added an element. -/
theorem not_allOrNothing_left (err : result.err ≠ .noErr)
    (more : OneMore (call.queue s.session) (call.queue result.sys.session) ele)
    : ¬ AllOrNothing s call result := by
  intro whole
  have same := (whole.nothing err).queue
  rw [same] at more
  exact absurd more.length (by omega)

/-- The handle of the caller denotes the new element. -/
theorem added_of_more (terms : ele.terms = call.terms s.session)
    (more : OneMore (call.queue s.session) (call.queue result.sys.session) ele)
    (fresh : s.Fresh call.handle) (name : ele.handle = call.handle)
    (written : call.given.isSome = true → result.handle = some call.handle)
    : Added s call result := by
  refine ⟨ele, terms, more, fun given => ⟨call.handle, written given, ?_⟩⟩
  have unused : ele.handle ∉ (call.queue s.session).map PdEle.handle := by
    rw [name]
    intro member
    refine fresh ?_
    rw [PoolSys.queued, List.map_append]
    cases call with
    | publish => exact List.mem_append_left _ member
    | subscribe => exact List.mem_append_right _ member
    | request => exact List.mem_append_left _ member
  rw [← name]
  exact more.find? unused

/-- A call that has added its element is all or nothing exactly if it reports no error. -/
theorem allOrNothing_queued {P : Prop} (err : result.err = .noErr ↔ P)
    (terms : P → ele.terms = call.terms s.session)
    (more : OneMore (call.queue s.session) (call.queue result.sys.session) ele)
    (fresh : s.Fresh call.handle) (name : ele.handle = call.handle)
    (written : call.given.isSome = true → result.handle = some call.handle)
    : AllOrNothing s call result ↔ P := by
  by_cases done : P
  · exact iff_of_true (.done (err.mpr done) (added_of_more (terms done) more fresh name written))
      done
  · exact iff_of_false (not_allOrNothing_left (mt err.mp done) more) done

theorem exists_acquired_iff {P : Acquired → Prop} (called : acquire s call = some result)
    : (∃ result, acquire s call = some result ∧ P result) ↔ P result := by
  rw [called]
  constructor
  · rintro ⟨_, ⟨⟩, holds⟩
    exact holds
  · exact fun holds => ⟨result, rfl, holds⟩

-----------------------------------------------------------------------------------------
-- Publishing
-----------------------------------------------------------------------------------------

variable {env : PublishEnv} {args : PublishArgs} {session : TrdpSession} {socketIdx : Int}

theorem newPublisher_enters (env : PublishEnv) (args : PublishArgs) (session : TrdpSession)
    (socketIdx : Int)
    : (args.firstData session).Enters session.marshall
        (newPublisher env args session socketIdx) :=
  ⟨rfl, rfl, rfl, rfl⟩

/-- The new element is as it was asked for, if its first data can be put. -/
theorem publishedEle_terms (fits : (args.firstData session).Fits)
    : (publishedEle env args session socketIdx).2.terms = args.terms session := by
  have keeps := publishedEle_keeps env args session socketIdx
  have size : (publishedEle env args session socketIdx).2.grossSize = _ :=
    (FirstData.put_outcome (newPublisher_enters env args session socketIdx)).2 fits
  simp only [PdEle.terms, PublishArgs.terms, Terms.mk.injEq]
  exact ⟨keeps.same.addr, keeps.same.interval, size⟩

/-- What the call of an element meets once its socket has been requested. -/
def requestedEnv (env : PublishEnv) (sock : SockEnv) (req : SocketRequest) (pool : SocketPool)
    : PublishEnv :=
  { env with trdpPdDistribute, socket := (trdpRequestSocket sock req pool).socket 0 }

/-- What a call leaves that has requested a socket. -/
def PoolSys.requested (s : PoolSys) (handle : Nat) (params : SendParam) (sock : SockEnv)
    (req : SocketRequest) (session : TrdpSession)
    : PoolSys :=
  { s with
    session
    pool := (trdpRequestSocket sock req s.pool).pool
    asked := fun asking => if asking = handle then params else s.asked asking }

theorem acquire_publish_asked {pPubHandle : Nat} {pSendParam : Option SendParam}
    (asks : PublishAsks env args s.session)
    : let params := pSendParam.getD s.defaultParam
      let req := args.request s.session.realIp params
      let env' := requestedEnv env sock req s.pool
      acquire s (.publish (some pPubHandle) env sock args pSendParam)
        = some
          { err := (tlpPublish env' args s.session).1
            sys := s.requested env.handle params sock req (tlpPublish env' args s.session).2
            handle := some (publishHandle env env'.socket args s.session pPubHandle) } := by
  simp only [acquire, poolPublish_asked asks]
  rfl

/-- A publication that makes no request changes nothing. -/
theorem publish_unasked {pPubHandle : Nat} {pSendParam : Option SendParam}
    (unasked : ¬ PublishAsks env args s.session)
    : ∃ result,
      acquire s (.publish (some pPubHandle) env sock args pSendParam) = some result
      ∧ AllOrNothing s (.publish (some pPubHandle) env sock args pSendParam) result := by
  let env' : PublishEnv := { env with trdpPdDistribute := trdpPdDistribute }
  have unasked' : ¬ PublishAsks env' args s.session := unasked
  obtain ⟨err, failed, eq⟩ := tlpPublish_unasked unasked'
  have published : poolPublish env sock args pSendParam s = ⟨err, s, [], none⟩ := by
    rw [poolPublish_unasked unasked, eq]
  let socket := (trdpRequestSocket sock
    (args.request s.session.realIp (pSendParam.getD s.defaultParam)) s.pool).socket 0
  have kept : publishHandle env socket args s.session pPubHandle = pPubHandle :=
    if_neg fun all => unasked all.1
  refine ⟨⟨err, s, some pPubHandle⟩, ?_, .failed failed ⟨rfl, rfl, rfl, rfl⟩⟩
  rw [acquire, published, kept]

/-- A publication that gets no socket changes nothing. -/
theorem publish_refused (shape : PoolShape s.pool) {pPubHandle : Nat}
    {pSendParam : Option SendParam} (asks : PublishAsks env args s.session)
    (refused
      : ¬ Granted sock (args.request s.session.realIp (pSendParam.getD s.defaultParam)) s.pool)
    : ∃ result,
      acquire s (.publish (some pPubHandle) env sock args pSendParam) = some result
      ∧ AllOrNothing s (.publish (some pPubHandle) env sock args pSendParam) result := by
  let req := args.request s.session.realIp (pSendParam.getD s.defaultParam)
  let env' := requestedEnv env sock req s.pool
  have pd := isPdRequest_publisher args s.session.realIp (pSendParam.getD s.defaultParam)
  have failed := mt (trdpRequestSocket_granted_iff pd sock shape.entriesFree).mp refused
  have socket : env'.socket = .error (trdpRequestSocket sock req s.pool).err :=
    SocketResult.socket_error failed 0
  have asks' : PublishAsks env' args s.session := asks
  have eq := tlpPublish_refused asks' socket
  have kept : publishHandle env env'.socket args s.session pPubHandle = pPubHandle :=
    if_neg fun all => by
      rw [socket] at all
      exact Bool.false_ne_true all.2.1
  exact ⟨_, acquire_publish_asked asks, .kept eq failed rfl rfl (congrArg some kept)
    (usages_refused pd shape refused)⟩

/-- A publication that gets its socket is all or nothing exactly if it gets its frame, and its data
can be put.
-/
theorem publish_granted (shape : PoolShape s.pool) (fresh : s.Fresh env.handle)
    {pPubHandle : Nat} {pSendParam : Option SendParam} (asks : PublishAsks env args s.session)
    (granted
      : Granted sock (args.request s.session.realIp (pSendParam.getD s.defaultParam)) s.pool)
    : ∃ result,
      acquire s (.publish (some pPubHandle) env sock args pSendParam) = some result
      ∧ (AllOrNothing s (.publish (some pPubHandle) env sock args pSendParam) result
        ↔ env.allocFrame = true ∧ (args.firstData s.session).Fits) := by
  let req := args.request s.session.realIp (pSendParam.getD s.defaultParam)
  let env' := requestedEnv env sock req s.pool
  have pd := isPdRequest_publisher args s.session.realIp (pSendParam.getD s.defaultParam)
  have done := (trdpRequestSocket_granted_iff pd sock shape.entriesFree).mpr granted
  have asks' : PublishAsks env' args s.session := asks
  let idx := (trdpRequestSocket sock req s.pool).pIndex.getD 0
  have socket : env'.socket = .ok idx := if_pos done
  refine ⟨_, acquire_publish_asked asks, ?_⟩
  cases allocFrame : env.allocFrame with
  | false =>
      -- `ret` is still that of the request for the socket
      have eq := tlpPublish_unframed asks' socket allocFrame
      refine iff_of_false (not_allOrNothing_idle ?_ ?_) fun all => absurd all.1 Bool.false_ne_true
      · exact congrArg (·.1) eq
      · exact congrArg (·.2.pSndQueue) eq
  | true =>
      obtain ⟨queue, retimed, -, eq⟩ := tlpPublish_queued asks' socket allocFrame rfl
      obtain ⟨ele, terms, name, more⟩ := oneMore_of_retimed retimed
      have fits : (publishedEle env' args s.session idx).1 = .noErr
          ↔ (args.firstData s.session).Fits :=
        (FirstData.put_outcome (newPublisher_enters env' args s.session idx)).1
      have keeps := publishedEle_keeps env' args s.session idx
      have err : (tlpPublish env' args s.session).1 = _ := congrArg (·.1) eq
      have after : (tlpPublish env' args s.session).2.pSndQueue = queue :=
        congrArg (·.2.pSndQueue) eq
      have written : publishHandle env env'.socket args s.session pPubHandle = env.handle :=
        if_pos ⟨asks, by rw [socket]; rfl, allocFrame⟩
      rw [← after] at more
      rw [eq_self, true_and]
      exact allOrNothing_queued (err ▸ fits) (fun fits => terms.trans (publishedEle_terms fits))
        more fresh (name.trans keeps.same.handle) fun _ => congrArg some written

theorem acquire_publish_iff (shape : PoolShape s.pool) (fresh : s.Fresh env.handle)
    (pPubHandle : Option Nat) (pSendParam : Option SendParam)
    : (∃ result, acquire s (.publish pPubHandle env sock args pSendParam) = some result
        ∧ AllOrNothing s (.publish pPubHandle env sock args pSendParam) result)
      ↔ (Acquire.publish pPubHandle env sock args pSendParam).Completes s := by
  cases pPubHandle with
  | none =>
      refine iff_of_true ⟨_, rfl, .failed TrdpErr.noConfusion ⟨rfl, rfl, rfl, rfl⟩⟩ ?_
      exact fun given => absurd given Bool.false_ne_true
  | some pPubHandle =>
      by_cases asks : PublishAsks env args s.session
      · by_cases granted
          : Granted sock (args.request s.session.realIp (pSendParam.getD s.defaultParam)) s.pool
        · obtain ⟨result, called, whole⟩ := publish_granted shape fresh asks granted
          rw [exists_acquired_iff called, whole]
          exact ⟨fun holds _ _ _ => holds, fun holds => holds rfl asks granted⟩
        · exact iff_of_true (publish_refused shape asks granted)
            fun _ _ grant => absurd grant granted
      · exact iff_of_true (publish_unasked asks) fun _ asked => absurd asked asks

-----------------------------------------------------------------------------------------
-- Subscribing
-----------------------------------------------------------------------------------------

/-- A subscription that makes no request changes nothing, and nor does one without a socket. -/
theorem subscribe_refused (shape : PoolShape s.pool) {env : SubscribeEnv} {args : SubscribeArgs}
    {pSubHandle : Nat}
    (refused
      : SubscribeAsks args s.session
        → ¬ Granted sock (subscriptionRequest s.session.realIp s.defaultParam args.destIpAddr)
          s.pool)
    : ∃ result, acquire s (.subscribe (some pSubHandle) env sock args) = some result
        ∧ AllOrNothing s (.subscribe (some pSubHandle) env sock args) result := by
  let req := subscriptionRequest s.session.realIp s.defaultParam args.destIpAddr
  let socket := (trdpRequestSocket sock req s.pool).socket 0
  have pd := isPdRequest_subscription s.session.realIp s.defaultParam args.destIpAddr
  by_cases asks : SubscribeAsks args s.session
  · have failed := mt (trdpRequestSocket_granted_iff pd sock shape.entriesFree).mp (refused asks)
    have none : socket = .error _ := SocketResult.socket_error failed 0
    have kept : subscribeHandle env socket args s.session pSubHandle = pSubHandle :=
      if_neg fun all => by
        rw [none] at all
        exact Bool.false_ne_true all.2.1
    refine ⟨_, congrArg (Option.map _) (poolSubscribe_failed asks failed), .failed failed ?_⟩
    exact ⟨rfl, rfl, congrArg some kept, usages_refused pd shape (refused asks)⟩
  · have kept : subscribeHandle env socket args s.session pSubHandle = pSubHandle :=
      if_neg fun all => asks all.1
    refine ⟨_, congrArg (Option.map _) (poolSubscribe_unasked asks),
      .failed TrdpErr.noConfusion ?_⟩
    exact ⟨rfl, rfl, congrArg some kept, rfl⟩

/-- A subscription that gets a socket, but no element, is nothing exactly if the socket it releases
stays open where it was.
-/
theorem subscribe_unallocated (shape : PoolShape s.pool) {env : SubscribeEnv}
    {args : SubscribeArgs} {pSubHandle : Nat} (asks : SubscribeAsks args s.session)
    (granted
      : Granted sock (subscriptionRequest s.session.realIp s.defaultParam args.destIpAddr) s.pool)
    (allocEle : env.allocEle = false)
    : ∃ result, acquire s (.subscribe (some pSubHandle) env sock args) = some result
        ∧ (AllOrNothing s (.subscribe (some pSubHandle) env sock args) result
          ↔ ∀ k slot,
            FirstTaken sock (subscriptionRequest s.session.realIp s.defaultParam args.destIpAddr) 0
              s.pool.searched k slot
            → 0 < slot.usage.toInt) := by
  let req := subscriptionRequest s.session.realIp s.defaultParam args.destIpAddr
  let socket := (trdpRequestSocket sock req s.pool).socket 0
  have pd := isPdRequest_subscription s.session.realIp s.defaultParam args.destIpAddr
  have done := (trdpRequestSocket_granted_iff pd sock shape.entriesFree).mpr granted
  have kept : subscribeHandle env socket args s.session pSubHandle = pSubHandle :=
    if_neg fun all => Bool.false_ne_true (allocEle.symm.trans all.2.2.1)
  obtain ⟨k, pool', closed, pIndex, released, usages⟩ := released_granted pd shape granted
  have eq := poolSubscribe_unallocated asks allocEle done
  rw [pIndex, Option.getD_some, released, Option.map_some] at eq
  refine ⟨_, congrArg (Option.map _) eq, ?_⟩
  rw [← usages]
  constructor
  · exact fun whole => (whole.nothing TrdpErr.noConfusion).usages
  · exact fun same => .failed TrdpErr.noConfusion ⟨rfl, rfl, congrArg some kept, same⟩

/-- A subscription that gets a socket and an element is all or nothing exactly if it gets its frame.
-/
theorem subscribe_allocated (shape : PoolShape s.pool) {env : SubscribeEnv}
    {args : SubscribeArgs} (fresh : s.Fresh env.handle) {pSubHandle : Nat}
    (asks : SubscribeAsks args s.session)
    (granted
      : Granted sock (subscriptionRequest s.session.realIp s.defaultParam args.destIpAddr) s.pool)
    (allocEle : env.allocEle = true)
    : ∃ result, acquire s (.subscribe (some pSubHandle) env sock args) = some result
        ∧ (AllOrNothing s (.subscribe (some pSubHandle) env sock args) result
          ↔ env.allocFrame = true) := by
  let req := subscriptionRequest s.session.realIp s.defaultParam args.destIpAddr
  let socket := (trdpRequestSocket sock req s.pool).socket 0
  have pd := isPdRequest_subscription s.session.realIp s.defaultParam args.destIpAddr
  have done := (trdpRequestSocket_granted_iff pd sock shape.entriesFree).mpr granted
  have eq := poolSubscribe_allocated asks allocEle done
  by_cases allocFrame : env.allocFrame = true
  · rw [if_pos allocFrame] at eq
    have ok : socket = .ok _ := if_pos done
    have written : subscribeHandle env socket args s.session pSubHandle = env.handle :=
      if_pos ⟨asks, by rw [ok]; rfl, allocEle, allocFrame⟩
    refine ⟨_, congrArg (Option.map _) eq, iff_of_true (.done rfl ?_) allocFrame⟩
    have more (ele : PdEle)
        : OneMore s.session.pRcvQueue (s.session.pRcvQueue ++ [ele]) ele :=
      ⟨_, .refl _, List.perm_append_singleton _ _⟩
    exact added_of_more rfl (more _) fresh rfl fun _ => congrArg some written
  · -- the socket is not released here, and its slot keeps the user
    rw [if_neg allocFrame] at eq
    refine ⟨_, congrArg (Option.map _) eq, iff_of_false (fun whole => ?_) allocFrame⟩
    exact usages_granted pd shape granted (whole.nothing TrdpErr.noConfusion).usages

theorem acquire_subscribe_iff (shape : PoolShape s.pool) {env : SubscribeEnv}
    {args : SubscribeArgs} (fresh : s.Fresh env.handle) (pSubHandle : Option Nat)
    : (∃ result, acquire s (.subscribe pSubHandle env sock args) = some result
        ∧ AllOrNothing s (.subscribe pSubHandle env sock args) result)
      ↔ (Acquire.subscribe pSubHandle env sock args).Completes s := by
  cases pSubHandle with
  | none =>
      refine iff_of_true ⟨_, rfl, .failed TrdpErr.noConfusion ⟨rfl, rfl, rfl, rfl⟩⟩ ?_
      exact fun given => absurd given Bool.false_ne_true
  | some pSubHandle =>
      by_cases comes
        : SubscribeAsks args s.session
          ∧ Granted sock (subscriptionRequest s.session.realIp s.defaultParam args.destIpAddr)
            s.pool
      · obtain ⟨asks, granted⟩ := comes
        cases allocEle : env.allocEle with
        | true =>
            obtain ⟨result, called, whole⟩ :=
              subscribe_allocated shape fresh asks granted allocEle
            rw [exists_acquired_iff called, whole]
            exact ⟨fun framed _ _ _ => (if_pos allocEle).mpr framed,
              fun holds => (if_pos allocEle).mp (holds rfl asks granted)⟩
        | false =>
            obtain ⟨result, called, whole⟩ := subscribe_unallocated shape asks granted allocEle
            have none : ¬ env.allocEle = true := Bool.eq_false_iff.mp allocEle
            rw [exists_acquired_iff called, whole]
            exact ⟨fun counts _ _ _ => (if_neg none).mpr counts,
              fun holds => (if_neg none).mp (holds rfl asks granted)⟩
      · refine iff_of_true (subscribe_refused shape fun asks granted => comes ⟨asks, granted⟩) ?_
        exact fun _ asks granted => absurd ⟨asks, granted⟩ comes

-----------------------------------------------------------------------------------------
-- Requesting
-----------------------------------------------------------------------------------------

section
variable {args : RequestArgs} {sub : PdEle}

theorem isPdRequest_request (args : RequestArgs) (realIp : U32) (params : SendParam)
    : IsPdRequest (args.request realIp params) :=
  ⟨rfl, rfl, fun _ => rfl⟩

/-- `tlp_request` puts data only if there are any, which makes no difference. -/
theorem FirstData.put_eq (data : FirstData) (marshall : Option TrdpMarshall) (alloc : Bool)
    (ele : PdEle)
    : data.put marshall alloc ele
      = if data.pData.isSome = true ∧ 0 < data.dataSize then
          trdpPdPut marshall alloc data.pData data.dataSize ele
        else (.noErr, ele) := by
  have some : 0 < data.dataSize ↔ data.dataSize ≠ 0 := BitVec.pos_iff_ne_zero _
  by_cases both : data.pData.isSome = true ∧ 0 < data.dataSize
  · rw [if_pos both]
    exact if_pos (some.mp both.2)
  · rw [if_neg both]
    refine FirstData.put_none ?_
    by_cases empty : data.dataSize = 0
    · exact if_pos empty
    · have none := Option.not_isSome_iff_eq_none.mp fun given => both ⟨given, some.mpr empty⟩
      rw [FirstData.bytes, if_neg empty, none, Option.map_none]

/-- A request without what it needs fails. -/
theorem tlpRequest_unasked (unasked : ¬ RequestAsks env args session)
    : ∃ err, err ≠ .noErr ∧ tlpRequest env args session = (err, session) := by
  unfold tlpRequest
  split
  · exact ⟨.paramErr, by decide, rfl⟩
  next accepted =>
    cases found : session.pRcvQueue.find? (PdEle.isAt args.subHandle) with
    | none => exact ⟨.nosubErr, by decide, rfl⟩
    | some sub =>
        have alloc : env.allocEle = false := by
          refine Bool.eq_false_iff.mpr fun alloc => unasked ⟨accepted, ?_, alloc⟩
          rw [found]
          rfl
        exact ⟨.memErr, by decide, by simp only [alloc, Bool.not_false, if_true]⟩

/-- Without memory for its frame a request adds nothing, and does not fail. -/
theorem tlpRequest_unframed (asks : RequestAsks env args session)
    (allocFrame : env.allocFrame = false)
    : tlpRequest env args session = (.noErr, session) := by
  obtain ⟨accepted, known, alloc⟩ := asks
  obtain ⟨sub, found⟩ := Option.isSome_iff_exists.mp known
  simp only [tlpRequest, if_neg accepted, found, alloc, allocFrame, Bool.not_true, Bool.not_false,
    Bool.false_eq_true, if_false, if_true]

theorem tlpRequest_refused (asks : RequestAsks env args session)
    (allocFrame : env.allocFrame = true) {err : TrdpErr} (socket : env.socket = .error err)
    : tlpRequest env args session = (err, session) := by
  obtain ⟨accepted, known, alloc⟩ := asks
  obtain ⟨sub, found⟩ := Option.isSome_iff_exists.mp known
  simp only [tlpRequest, if_neg accepted, found, alloc, allocFrame, socket, Bool.not_true,
    Bool.false_eq_true, if_false]

/-- The new element with its data. -/
def requestedEle (env : PublishEnv) (args : RequestArgs) (session : TrdpSession) (sub : PdEle)
    (socketIdx : Int)
    : TrdpErr × PdEle :=
  (args.firstData session).put session.marshall env.allocLate
    (newRequest env args session sub socketIdx)

theorem newRequest_enters (env : PublishEnv) (args : RequestArgs) (session : TrdpSession)
    (sub : PdEle) (socketIdx : Int)
    : (args.firstData session).Enters session.marshall
        (newRequest env args session sub socketIdx) :=
  ⟨rfl, rfl, rfl, rfl⟩

/-- A request with a frame and a socket adds its element, whether its data can be put or not. -/
theorem tlpRequest_queued (asks : RequestAsks env args session) (allocFrame : env.allocFrame = true)
    (socket : env.socket = .ok socketIdx)
    : ∃ sub ele,
      ele.terms = (requestedEle env args session sub socketIdx).2.terms
      ∧ ele.handle = (requestedEle env args session sub socketIdx).2.handle
      ∧ (tlpRequest env args session).1 = (requestedEle env args session sub socketIdx).1
      ∧ (tlpRequest env args session).2.pSndQueue = ele :: session.pSndQueue := by
  obtain ⟨accepted, known, alloc⟩ := asks
  obtain ⟨sub, found⟩ := Option.isSome_iff_exists.mp known
  have put : requestedEle env args session sub socketIdx = _ :=
    (args.firstData session).put_eq session.marshall env.allocLate _
  refine ⟨sub, { (requestedEle env args session sub socketIdx).2 with
    privFlags := (requestedEle env args session sub socketIdx).2.privFlags ||| trdpReq2bSent },
    rfl, rfl, ?_, ?_⟩
  all_goals
    rw [put]
    simp only [tlpRequest, if_neg accepted, found, alloc, allocFrame, socket, Bool.not_true,
      Bool.false_eq_true, if_false]
    rfl

/-- The new element is as it was asked for, if its data can be put. -/
theorem requestedEle_terms (fits : (args.firstData session).Fits)
    : (requestedEle env args session sub socketIdx).2.terms = args.terms session := by
  have keeps : PutKeeps _ (requestedEle env args session sub socketIdx).2 :=
    FirstData.put_keeps _ _ _ _
  have size : (requestedEle env args session sub socketIdx).2.grossSize = _ :=
    (FirstData.put_outcome (newRequest_enters env args session sub socketIdx)).2 fits
  simp only [PdEle.terms, RequestArgs.terms, Terms.mk.injEq]
  exact ⟨keeps.same.addr, keeps.same.interval, size⟩

/-- The call of a request that makes its request for a socket. -/
theorem acquire_request_framed {pSendParam : Option SendParam}
    (asks : RequestAsks env args s.session) (allocFrame : env.allocFrame = true)
    : let params := pSendParam.getD s.defaultParam
      let req := args.request s.session.realIp params
      let env' := { env with socket := (trdpRequestSocket sock req s.pool).socket 0 }
      acquire s (.request env sock args pSendParam)
        = some
          { err := (tlpRequest env' args s.session).1
            sys := s.requested env.handle params sock req (tlpRequest env' args s.session).2
            handle := none } := by
  simp only [acquire, poolRequest, if_pos (And.intro asks allocFrame)]
  rfl

theorem acquire_request_unframed {pSendParam : Option SendParam}
    (unframed : ¬ (RequestAsks env args s.session ∧ env.allocFrame = true))
    : acquire s (.request env sock args pSendParam)
      = some
        ⟨(tlpRequest env args s.session).1,
          { s with session := (tlpRequest env args s.session).2 }, none⟩ := by
  simp only [acquire, poolRequest, if_neg unframed]

theorem request_unasked {pSendParam : Option SendParam}
    (unasked : ¬ RequestAsks env args s.session)
    : ∃ result, acquire s (.request env sock args pSendParam) = some result
        ∧ AllOrNothing s (.request env sock args pSendParam) result := by
  obtain ⟨err, failed, eq⟩ := tlpRequest_unasked unasked
  exact ⟨_, acquire_request_unframed fun both => unasked both.1,
    .kept eq failed rfl rfl rfl rfl⟩

/-- A request that gets no frame reports no error, but adds nothing. -/
theorem request_unframed {pSendParam : Option SendParam}
    (asks : RequestAsks env args s.session) (allocFrame : env.allocFrame = false)
    : ∃ result, acquire s (.request env sock args pSendParam) = some result
        ∧ ¬ AllOrNothing s (.request env sock args pSendParam) result := by
  have eq := tlpRequest_unframed asks allocFrame
  have none : ¬ env.allocFrame = true := Bool.eq_false_iff.mp allocFrame
  refine ⟨_, acquire_request_unframed fun both => none both.2, not_allOrNothing_idle ?_ ?_⟩
  · exact congrArg (·.1) eq
  · exact congrArg (·.2.pSndQueue) eq

/-- A request that gets no socket changes nothing. -/
theorem request_denied (shape : PoolShape s.pool) {pSendParam : Option SendParam}
    (asks : RequestAsks env args s.session) (allocFrame : env.allocFrame = true)
    (refused
      : ¬ Granted sock (args.request s.session.realIp (pSendParam.getD s.defaultParam)) s.pool)
    : ∃ result, acquire s (.request env sock args pSendParam) = some result
        ∧ AllOrNothing s (.request env sock args pSendParam) result := by
  let req := args.request s.session.realIp (pSendParam.getD s.defaultParam)
  let env' : PublishEnv := { env with socket := (trdpRequestSocket sock req s.pool).socket 0 }
  have pd := isPdRequest_request args s.session.realIp (pSendParam.getD s.defaultParam)
  have failed := mt (trdpRequestSocket_granted_iff pd sock shape.entriesFree).mp refused
  have socket : env'.socket = .error (trdpRequestSocket sock req s.pool).err :=
    SocketResult.socket_error failed 0
  have asks' : RequestAsks env' args s.session := asks
  have eq := tlpRequest_refused asks' allocFrame socket
  exact ⟨_, acquire_request_framed asks allocFrame, .kept eq failed rfl rfl rfl
    (usages_refused pd shape refused)⟩

/-- A request that gets its frame and its socket is all or nothing exactly if its data can be put.
-/
theorem request_granted_iff (shape : PoolShape s.pool) (fresh : s.Fresh env.handle)
    {pSendParam : Option SendParam} (asks : RequestAsks env args s.session)
    (allocFrame : env.allocFrame = true)
    (granted
      : Granted sock (args.request s.session.realIp (pSendParam.getD s.defaultParam)) s.pool)
    : ∃ result, acquire s (.request env sock args pSendParam) = some result
        ∧ (AllOrNothing s (.request env sock args pSendParam) result
          ↔ (args.firstData s.session).Fits) := by
  let req := args.request s.session.realIp (pSendParam.getD s.defaultParam)
  let env' : PublishEnv := { env with socket := (trdpRequestSocket sock req s.pool).socket 0 }
  have pd := isPdRequest_request args s.session.realIp (pSendParam.getD s.defaultParam)
  have done := (trdpRequestSocket_granted_iff pd sock shape.entriesFree).mpr granted
  have asks' : RequestAsks env' args s.session := asks
  let idx := (trdpRequestSocket sock req s.pool).pIndex.getD 0
  have socket : env'.socket = .ok idx := if_pos done
  obtain ⟨sub, ele, terms, name, err, queue⟩ := tlpRequest_queued asks' allocFrame socket
  have fits : (requestedEle env' args s.session sub idx).1 = .noErr
      ↔ (args.firstData s.session).Fits :=
    (FirstData.put_outcome (newRequest_enters env' args s.session sub idx)).1
  have keeps : PutKeeps (newRequest env' args s.session sub idx)
      (requestedEle env' args s.session sub idx).2 := FirstData.put_keeps _ _ _ _
  have more : OneMore s.session.pSndQueue (tlpRequest env' args s.session).2.pSndQueue ele :=
    ⟨_, .refl _, .of_eq queue⟩
  refine ⟨_, acquire_request_framed asks allocFrame, ?_⟩
  exact allOrNothing_queued (err ▸ fits) (fun fits => terms.trans (requestedEle_terms fits)) more
    fresh (name.trans keeps.same.handle) fun given => absurd given Bool.false_ne_true

theorem acquire_request_iff (shape : PoolShape s.pool) (fresh : s.Fresh env.handle)
    (pSendParam : Option SendParam)
    : (∃ result, acquire s (.request env sock args pSendParam) = some result
        ∧ AllOrNothing s (.request env sock args pSendParam) result)
      ↔ (Acquire.request env sock args pSendParam).Completes s := by
  by_cases asks : RequestAsks env args s.session
  · cases allocFrame : env.allocFrame with
    | false =>
        have none : ¬ env.allocFrame = true := Bool.eq_false_iff.mp allocFrame
        obtain ⟨result, called, fails⟩ := request_unframed asks allocFrame
        rw [exists_acquired_iff called]
        exact iff_of_false fails fun holds => none (holds asks).1
    | true =>
        by_cases granted
          : Granted sock (args.request s.session.realIp (pSendParam.getD s.defaultParam)) s.pool
        · obtain ⟨result, called, whole⟩ :=
            request_granted_iff shape fresh asks allocFrame granted
          rw [exists_acquired_iff called, whole]
          exact ⟨fun fits _ => ⟨allocFrame, fun _ => fits⟩, fun holds => (holds asks).2 granted⟩
        · exact iff_of_true (request_denied shape asks allocFrame granted)
            fun _ => ⟨allocFrame, fun grant => absurd grant granted⟩
  · exact iff_of_true (request_unasked asks) fun asked => absurd asked asks

end

-----------------------------------------------------------------------------------------
-- Runs
-----------------------------------------------------------------------------------------

theorem acquire_shape {call : Acquire} {result : Acquired} (shape : PoolShape s.pool)
    (called : acquire s call = some result)
    : PoolShape result.sys.pool := by
  cases call with
  | publish pPubHandle env sock args pSendParam =>
      cases pPubHandle with
      | none =>
          obtain rfl := Option.some.inj called
          exact shape
      | some pPubHandle =>
          obtain rfl := Option.some.inj called
          exact poolPublish_shape env sock args pSendParam shape
  | subscribe pSubHandle env sock args =>
      cases pSubHandle with
      | none =>
          obtain rfl := Option.some.inj called
          exact shape
      | some pSubHandle =>
          obtain ⟨result, subscribed, rfl⟩ := Option.map_eq_some_iff.mp called
          exact poolSubscribe_shape shape subscribed
  | request env sock args pSendParam =>
      by_cases framed : RequestAsks env args s.session ∧ env.allocFrame = true
      · rw [acquire_request_framed framed.1 framed.2] at called
        obtain rfl := Option.some.inj called
        exact trdpRequestSocket_shape (isPdRequest_request _ _ _) shape
      · rw [acquire_request_unframed framed] at called
        obtain rfl := Option.some.inj called
        exact shape

/-- No event opens a slot from the mark on. -/
theorem sessionStep_shape (s : PoolSys) (event : SessionEvent) (s' : PoolSys)
    (shape : PoolShape s.pool) (stepped : sessionStep s event = some s')
    : PoolShape s'.pool := by
  cases event with
  | acquire call =>
      unfold sessionStep at stepped
      dsimp only at stepped
      split at stepped
      · obtain ⟨result, called, rfl⟩ := Option.map_eq_some_iff.mp stepped
        exact acquire_shape shape called
      · obtain rfl := Option.some.inj stepped
        exact shape
  | call call =>
      obtain ⟨result, called, rfl⟩ := Option.map_eq_some_iff.mp stepped
      exact poolCall_shape shape called
  | change session =>
      obtain rfl := Option.some.inj stepped
      exact shape

/-- In every state that a run reaches, a call is all or nothing exactly if it meets its condition.
-/
theorem acquire_all_or_nothing {session : TrdpSession} {mark : Nat} (low : mark ≤ vosMaxSocketCnt)
    (defaultParam : SendParam) (asked : Nat → SendParam) {events : List SessionEvent}
    (reached
      : run (faulting sessionStep) (some (.start session mark defaultParam asked)) events = some s)
    {call : Acquire} (fresh : s.Fresh call.handle)
    : (∃ result, acquire s call = some result ∧ AllOrNothing s call result)
      ↔ call.Completes s := by
  have start : PoolShape (PoolSys.start session mark defaultParam asked).pool := .init low
  have shape : PoolShape s.pool := faulting_reaches sessionStep_shape start reached
  cases call with
  | publish pPubHandle env sock args pSendParam =>
      exact acquire_publish_iff shape fresh pPubHandle pSendParam
  | subscribe pSubHandle env sock args => exact acquire_subscribe_iff shape fresh pSubHandle
  | request env sock args pSendParam => exact acquire_request_iff shape fresh pSendParam

/-- The publication of comId 1000 of a caller whose handle holds nothing yet. -/
def acquirePublish (allocFrame : Bool) : Acquire :=
  .publish (some 0) { publishEnv 1 with allocFrame } openSockEnv (cyclicPublisher none) none

/-- The first publication of a session, which gets its frame, is all that was asked for. -/
theorem acquire_all_or_nothing_published
    : ∃ result, acquire firstPoolSys (acquirePublish true) = some result
        ∧ AllOrNothing firstPoolSys (acquirePublish true) result := by
  have reached : run (faulting sessionStep) (some firstPoolSys) [] = some firstPoolSys := rfl
  refine (acquire_all_or_nothing (Nat.zero_le _) _ _ reached (by decide)).mpr ?_
  exact fun _ _ _ => ⟨rfl, fun given => absurd given (by decide)⟩

/-- Without memory for its frame it reports no error, but there is no new element. -/
theorem publication_lost
    : ¬ ∃ result, acquire firstPoolSys (acquirePublish false) = some result
        ∧ AllOrNothing firstPoolSys (acquirePublish false) result := by
  rintro ⟨result, called, whole⟩
  have lost : ∀ result ∈ acquire firstPoolSys (acquirePublish false),
      result.err = .noErr ∧ result.sys.session.pSndQueue = [] := by
    decide +kernel
  obtain ⟨done, empty⟩ := lost result called
  obtain ⟨ele, -, more, -⟩ := whole.all done
  have length := more.length
  rw [show (acquirePublish false).queue result.sys.session = [] from empty] at length
  cases length

end TsnTrdp.Trdp
