import TsnTrdp.Trdp.Publish

/-! The socket pool of a session. Elements with the same needs share a slot; a slot counts its
users, and its socket is closed when the last of them releases it.
-/

namespace TsnTrdp.Trdp

open TsnTrdp.Queue

def vosMaxSocketCnt : Nat := 80
def vosMaxMulticastCnt : Nat := 20
def vosInvalidSocket : Int := -1

/-- `TRDP_SEND_PARAM_T`, as far as sockets have it. -/
structure SendParam where
  qos : U8
  ttl : U8
  deriving DecidableEq, Repr

/-- `TRDP_SOCK_TYPE_T`. -/
inductive SockType
  | pd
  | mdUdp
  | mdTcp
  deriving DecidableEq, Repr

/-- `TRDP_SOCKET_TCP_T`. -/
structure SocketTcp where
  cornerIp : U32
  notSend : Bool
  connectionTimeout : TrdpTime
  sendNotOk : Bool
  sendingTimeout : TrdpTime
  addFileDesc : Bool
  morituri : Bool
  deriving DecidableEq, Repr

/-- `TRDP_SOCKETS_T`; `usage` is an `INT16`. -/
structure TrdpSockets where
  sock : Int
  bindAddr : U32
  sendParam : SendParam
  type : SockType
  rcvMostly : Bool
  usage : U16
  tcpParams : SocketTcp
  mcGroups : List U32
  deriving DecidableEq, Repr

/-- A slot of a new session: zeroed memory after `trdp_initSockets`. -/
def TrdpSockets.unused : TrdpSockets where
  sock := vosInvalidSocket
  bindAddr := 0
  sendParam := ⟨0, 0⟩
  type := .pd
  rcvMostly := false
  usage := 0
  tcpParams := ⟨0, false, .cleared, false, .cleared, false, false⟩
  mcGroups := .replicate vosMaxMulticastCnt 0

/-- The slots of a session, and the high-water mark that all sessions share. -/
structure SocketPool where
  iface : List TrdpSockets
  sCurrentMaxSocketCnt : Nat
  deriving DecidableEq, Repr

/-- The pool of a new session. -/
def SocketPool.init (sCurrentMaxSocketCnt : Nat) : SocketPool where
  iface := .replicate vosMaxSocketCnt .unused
  sCurrentMaxSocketCnt

-----------------------------------------------------------------------------------------
-- Multicast groups of a socket
-----------------------------------------------------------------------------------------

/-- `trdp_SockIsJoined`. -/
def trdpSockIsJoined (mcList : List U32) (mcGroup : U32) : Bool := mcList.any (· = mcGroup)

/-- An entry that is free or has the group. -/
def groupRoom (mcGroup entry : U32) : Bool := 0 = entry ∨ mcGroup = entry

/-- `trdp_SockAddJoin`: the list with the group, if it has room. -/
def trdpSockAddJoin (mcList : List U32) (mcGroup : U32) : Option (List U32) :=
  if mcList.any (groupRoom mcGroup) then
    some (modifyFirst (groupRoom mcGroup) (fun _ => mcGroup) mcList)
  else none

/-- `trdp_SockDelJoin`. -/
def trdpSockDelJoin (mcList : List U32) (mcGroup : U32) : List U32 :=
  modifyFirst (fun entry => mcGroup = entry) (fun _ => 0) mcList

-----------------------------------------------------------------------------------------
-- Requesting
-----------------------------------------------------------------------------------------

/-- What a socket call that fails returns. -/
inductive SockErr
  | paramErr
  | sockErr
  deriving DecidableEq, Repr

def SockErr.toTrdp : SockErr → TrdpErr
  | .paramErr => .paramErr
  | .sockErr => .sockErr

/-- The result of a socket call. -/
def sockResult (failure : Option SockErr) : TrdpErr := (failure.map SockErr.toTrdp).getD .noErr

/-- What the socket calls of a request do: opening gives a descriptor, and a join is one of the
socket in a slot or of the new one.
-/
structure SockEnv where
  sockOpen : Except SockErr Nat
  sockBind : Option SockErr
  sockJoinMc : Nat → Option SockErr
  sockJoinNew : Option SockErr
  sockSetMulticastIf : Option SockErr

/-- The arguments of `trdp_requestSocket`, besides those that only the socket calls see. -/
structure SocketRequest where
  params : SendParam
  srcIp : U32
  mcGroup : U32
  usage : SockType
  rcvMostly : Bool
  useSocket : Int
  cornerIp : U32
  deriving DecidableEq, Repr

/-- `vos_determineBindAddr`. -/
def vosDetermineBindAddr (srcIp mcGroup : U32) (rcvMostly : Bool) : U32 :=
  if vosIsMulticast mcGroup ∧ rcvMostly then 0 else srcIp

def SocketRequest.bindAddr (req : SocketRequest) : U32 :=
  vosDetermineBindAddr req.srcIp req.mcGroup req.rcvMostly

/-- An open slot with the wanted options. -/
def TrdpSockets.suits (req : SocketRequest) (slot : TrdpSockets) : Bool :=
  slot.sock ≠ vosInvalidSocket
  ∧ slot.bindAddr = req.bindAddr
  ∧ slot.type = req.usage
  ∧ slot.sendParam = req.params
  ∧ slot.rcvMostly = req.rcvMostly
  ∧ (req.usage ≠ .mdTcp ∨ slot.tcpParams.cornerIp = req.cornerIp)

/-- `trdp_requestSocket`: whether the slot has joined the group or can join it, and the slot. -/
def slotJoin (env : SockEnv) (k : Nat) (mcGroup : U32) (slot : TrdpSockets) : Bool × TrdpSockets :=
  if mcGroup ≠ 0 ∧ !trdpSockIsJoined slot.mcGroups mcGroup then
    match trdpSockAddJoin slot.mcGroups mcGroup with
    | none => (false, slot)
    | some mcGroups =>
        if (env.sockJoinMc k).isSome then
          (false, { slot with mcGroups := trdpSockDelJoin mcGroups mcGroup })
        else (true, { slot with mcGroups })
  else (true, slot)

/-- `trdp_requestSocket`: the interface of outgoing multicast traffic. -/
def slotMulticastIf (env : SockEnv) (slot : TrdpSockets) : TrdpErr :=
  if slot.bindAddr ≠ 0 ∧ !vosIsMulticast slot.bindAddr then sockResult env.sockSetMulticastIf
  else .noErr

/-- `trdp_requestSocket`: what the search does with slot `k`, and the result if it takes it. -/
def slotTry (env : SockEnv) (req : SocketRequest) (k : Nat) (slot : TrdpSockets)
    : Option TrdpErr × TrdpSockets :=
  if req.useSocket ≠ vosInvalidSocket ∧ req.useSocket = slot.sock then
    (some .noErr, { slot with usage := slot.usage + 1 })
  else if slot.suits req then
    match slotJoin env k req.mcGroup slot with
    | (false, slot) => (none, slot)
    | (true, slot) =>
        let err := if req.usage ≠ .mdTcp then slotMulticastIf env slot else .noErr
        (some err, if err = .noErr then { slot with usage := slot.usage + 1 } else slot)
  else (none, slot)

/-- `trdp_requestSocket`: the search through the slots from number `k` on, with the first empty one
so far. It ends at the first slot that is taken.
-/
def slotSearch (env : SockEnv) (req : SocketRequest) (k : Nat) (emptySock : Option Nat)
    : List TrdpSockets → Option (Nat × TrdpErr) × Option Nat × List TrdpSockets
  | [] => (none, emptySock, [])
  | slot :: rest =>
      match slotTry env req k slot with
      | (some err, slot') => (some (k, err), emptySock, slot' :: rest)
      | (none, slot') =>
          let emptySock :=
            if slot.sock = vosInvalidSocket ∧ emptySock.isNone then some k else emptySock
          let (found, emptySock, rest) := slotSearch env req (k + 1) emptySock rest
          (found, emptySock, slot' :: rest)

/-- `trdp_requestSocket`: a new entry. -/
def newSlot (req : SocketRequest) : TrdpSockets where
  sock := vosInvalidSocket
  bindAddr := req.bindAddr
  sendParam := req.params
  type := req.usage
  rcvMostly := req.rcvMostly
  usage := 0
  tcpParams := ⟨req.cornerIp, false, .cleared, false, .cleared, req.rcvMostly, false⟩
  mcGroups := .replicate vosMaxMulticastCnt 0

/-- `trdp_requestSocket`: the socket of a new entry. A sender's result of binding is ignored. -/
def slotOpen (env : SockEnv) (req : SocketRequest) : TrdpErr × TrdpSockets :=
  match env.sockOpen with
  | .error err => (err.toTrdp, newSlot req)
  | .ok sock =>
      let slot := { newSlot req with sock, usage := 1 }
      match req.usage with
      | .mdTcp => (.noErr, slot)
      | .pd | .mdUdp =>
          if !req.rcvMostly then (slotMulticastIf env slot, slot)
          else
            match env.sockBind with
            | some err => (err.toTrdp, slot)
            | none =>
                if req.mcGroup = 0 then (slotMulticastIf env slot, slot)
                else
                  match env.sockJoinNew with
                  | some err => (err.toTrdp, slot)
                  | none =>
                      let slot :=
                        { slot with
                          mcGroups :=
                            (trdpSockAddJoin slot.mcGroups req.mcGroup).getD slot.mcGroups }
                      (slotMulticastIf env slot, slot)

/-- `trdp_releaseSocket` of one socket: the pool, and the slots whose sockets it closed. There is no
slot outside of the pool. A TCP socket gets a timeout instead.
-/
def trdpReleaseSocket (now : TrdpTime) (connectTimeout : U32) (lIndex : Int) (pool : SocketPool)
    : Option (SocketPool × List Nat) :=
  if lIndex < 0 then none
  else
    let k := lIndex.toNat
    pool.iface[k]?.map fun slot =>
      if slot.sock ≠ vosInvalidSocket ∧ (slot.type = .mdUdp ∨ slot.type = .pd) then
        let usage := slot.usage - 1
        if usage.toInt ≤ 0 then
          ({ pool with iface := pool.iface.set k { slot with usage, sock := vosInvalidSocket } },
            [k])
        else ({ pool with iface := pool.iface.set k { slot with usage } }, [])
      else if slot.sock ≠ vosInvalidSocket ∧ slot.rcvMostly = false then
        let usage := slot.usage - 1
        if usage.toInt ≤ 0 then
          let connectionTimeout := vosAddTime now (.ofUsecs connectTimeout.toNat)
          ( { pool with
              iface := pool.iface.set k
                { slot with usage := 0, tcpParams := { slot.tcpParams with connectionTimeout } } },
            [] )
        else ({ pool with iface := pool.iface.set k { slot with usage } }, [])
      else (pool, [])

/-- The result of a request: `pIndex`, where it is written, and the slots whose sockets it
closed.
-/
structure SocketResult where
  err : TrdpErr
  pIndex : Option Int
  pool : SocketPool
  closed : List Nat
  deriving DecidableEq, Repr

/-- `trdp_requestSocket`: the entry that a new socket is put into, and the mark. -/
def newEntry (emptySock : Option Nat) (sCurrentMaxSocketCnt : Nat) : Nat × Nat :=
  match emptySock with
  | some k => (k, sCurrentMaxSocketCnt)
  | none => (sCurrentMaxSocketCnt, sCurrentMaxSocketCnt + 1)

/-- `trdp_requestSocket`. A socket that fails is released without a timeout. -/
def trdpRequestSocket (env : SockEnv) (req : SocketRequest) (pool : SocketPool) : SocketResult :=
  let (found, emptySock, front) :=
    slotSearch env req 0 none (pool.iface.take pool.sCurrentMaxSocketCnt)
  let pool := { pool with iface := front ++ pool.iface.drop pool.sCurrentMaxSocketCnt }
  match found with
  | some (k, err) => ⟨err, some k, pool, []⟩
  | none =>
      if pool.sCurrentMaxSocketCnt < vosMaxSocketCnt then
        let (k, sCurrentMaxSocketCnt) := newEntry emptySock pool.sCurrentMaxSocketCnt
        if req.useSocket ≠ vosInvalidSocket then
          let slot := { newSlot req with sock := req.useSocket, usage := 1 }
          ⟨.noErr, some k, ⟨pool.iface.set k slot, sCurrentMaxSocketCnt⟩, []⟩
        else
          let (err, slot) := slotOpen env req
          let pool : SocketPool := ⟨pool.iface.set k slot, sCurrentMaxSocketCnt⟩
          if err = .noErr then ⟨.noErr, some k, pool, []⟩
          else
            let (pool, closed) := (trdpReleaseSocket .cleared 0 k pool).getD (pool, [])
            ⟨err, some trdpInvalidSocketIndex, pool, closed⟩
      else ⟨.memErr, none, pool, []⟩

-----------------------------------------------------------------------------------------
-- Multicast groups
-----------------------------------------------------------------------------------------

variable {mcList mcList' : List U32} {mcGroup other : U32}

theorem mem_trdpSockAddJoin (added : trdpSockAddJoin mcList mcGroup = some mcList')
    : mcGroup ∈ mcList' ∧ ∀ other ∈ mcList, other ≠ 0 → other ∈ mcList' := by
  unfold trdpSockAddJoin at added
  split at added
  · next room =>
      obtain rfl := Option.some.inj added
      obtain ⟨entry, found⟩ := List.find?_isSome.mpr (List.any_eq_true.mp room)
        |> Option.isSome_iff_exists.mp
      refine ⟨mem_modifyFirst_of_find? found, fun other member used => ?_⟩
      by_cases same : other = entry
      · have isRoom : groupRoom mcGroup entry = true := List.find?_some found
        rcases of_decide_eq_true isRoom with free | isGroup
        · exact absurd (same.trans free.symm) used
        · rw [same, ← isGroup]
          exact mem_modifyFirst_of_find? found
      · exact mem_modifyFirst_of_ne found member same
  · exact absurd added.symm (Option.some_ne_none _)

/-- A group that was not joined is deleted again without a trace. -/
theorem trdpSockDelJoin_trdpSockAddJoin (fresh : trdpSockIsJoined mcList mcGroup = false)
    (added : trdpSockAddJoin mcList mcGroup = some mcList')
    : trdpSockDelJoin mcList' mcGroup = mcList := by
  have absent : ∀ entry ∈ mcList, mcGroup ≠ entry := by
    intro entry member same
    have hit := List.any_eq_false.mp fresh entry member
    exact hit (decide_eq_true same.symm)
  unfold trdpSockAddJoin at added
  split at added
  · next room =>
      obtain rfl := Option.some.inj added
      clear fresh added
      unfold trdpSockDelJoin
      induction mcList with
      | nil => rfl
      | cons entry rest ih =>
          have apart := absent entry List.mem_cons_self
          by_cases free : groupRoom mcGroup entry = true
          · have zero : 0 = entry := (of_decide_eq_true free).resolve_right apart
            simp [modifyFirst, free, zero]
          · have later : rest.any (groupRoom mcGroup) = true := by
              simpa [free] using room
            simp only [modifyFirst, free, apart, decide_false, Bool.false_eq_true, if_false]
            rw [ih (fun other member => absent other (List.mem_cons_of_mem _ member)) later]
  · exact absurd added.symm (Option.some_ne_none _)

-----------------------------------------------------------------------------------------
-- What the search does with a slot
-----------------------------------------------------------------------------------------

variable {env : SockEnv} {req : SocketRequest} {k : Nat} {slot slot' : TrdpSockets}

/-- A request for a process data socket. A sender joins no group. -/
structure IsPdRequest (req : SocketRequest) : Prop where
  usage : req.usage = .pd
  useSocket : req.useSocket = vosInvalidSocket
  joins : req.rcvMostly = false → req.mcGroup = 0

/-- The slot is one that the search takes: it has the wanted options, and it has joined the group,
or has room for it and joins it.
-/
def Takes (env : SockEnv) (req : SocketRequest) (k : Nat) (slot : TrdpSockets) : Prop :=
  slot.suits req = true
  ∧ (req.mcGroup = 0 ∨ trdpSockIsJoined slot.mcGroups req.mcGroup = true
    ∨ (trdpSockAddJoin slot.mcGroups req.mcGroup).isSome = true ∧ env.sockJoinMc k = none)

instance (env : SockEnv) (req : SocketRequest) (k : Nat) (slot : TrdpSockets)
    : Decidable (Takes env req k slot) :=
  inferInstanceAs (Decidable (_ ∧ _))

/-- The slot has joined more groups, if any. -/
structure Joins (slot slot' : TrdpSockets) : Prop where
  same : slot' = { slot with mcGroups := slot'.mcGroups }
  groups : ∀ group ∈ slot.mcGroups, group ≠ 0 → group ∈ slot'.mcGroups

theorem slotJoin_cases (env : SockEnv) (k : Nat) (mcGroup : U32) (slot : TrdpSockets)
    : ((mcGroup = 0 ∨ trdpSockIsJoined slot.mcGroups mcGroup = true
          ∨ (trdpSockAddJoin slot.mcGroups mcGroup).isSome = true ∧ env.sockJoinMc k = none)
        ∧ ∃ slot', slotJoin env k mcGroup slot = (true, slot') ∧ Joins slot slot'
          ∧ (mcGroup = 0 ∨ mcGroup ∈ slot'.mcGroups))
      ∨ (¬ (mcGroup = 0 ∨ trdpSockIsJoined slot.mcGroups mcGroup = true
          ∨ (trdpSockAddJoin slot.mcGroups mcGroup).isSome = true ∧ env.sockJoinMc k = none)
        ∧ slotJoin env k mcGroup slot = (false, slot)) := by
  unfold slotJoin
  by_cases none : mcGroup = 0
  · refine .inl ⟨.inl none, slot, if_neg fun joins => joins.1 none,
      ⟨rfl, fun _ member _ => member⟩, .inl none⟩
  by_cases joined : trdpSockIsJoined slot.mcGroups mcGroup = true
  · refine .inl ⟨.inr (.inl joined), slot, by simp [joined], ⟨rfl, fun _ member _ => member⟩, ?_⟩
    obtain ⟨entry, member, same⟩ := List.any_eq_true.mp joined
    exact .inr (of_decide_eq_true same ▸ member)
  have fresh : trdpSockIsJoined slot.mcGroups mcGroup = false := Bool.eq_false_iff.mpr joined
  rw [if_pos ⟨none, by rw [fresh]; rfl⟩]
  cases added : trdpSockAddJoin slot.mcGroups mcGroup with
  | none =>
      refine .inr ⟨?_, rfl⟩
      rintro (zero | hit | ⟨room, -⟩)
      · exact none zero
      · exact joined hit
      · exact Bool.false_ne_true room
  | some mcGroups =>
      cases call : env.sockJoinMc k with
      | none =>
          obtain ⟨member, kept⟩ := mem_trdpSockAddJoin added
          exact .inl ⟨.inr (.inr ⟨rfl, rfl⟩), { slot with mcGroups }, rfl, ⟨rfl, kept⟩, .inr member⟩
      | some err =>
          refine .inr ⟨?_, ?_⟩
          · rintro (zero | hit | ⟨-, done⟩)
            · exact none zero
            · exact joined hit
            · exact absurd done (Option.some_ne_none _)
          · simp only [Option.isSome_some, if_true, trdpSockDelJoin_trdpSockAddJoin fresh added]

/-- What the search does with a slot that it takes. -/
structure Taken (env : SockEnv) (req : SocketRequest) (slot slot' : TrdpSockets) (err : TrdpErr)
    : Prop where
  result : err = slotMulticastIf env slot
  joins : Joins slot { slot' with usage := slot.usage }
  usage : slot'.usage = if err = .noErr then slot.usage + 1 else slot.usage
  group : req.mcGroup = 0 ∨ req.mcGroup ∈ slot'.mcGroups

theorem slotTry_cases (pd : IsPdRequest req) (env : SockEnv) (k : Nat) (slot : TrdpSockets)
    : (Takes env req k slot
        ∧ ∃ err slot', slotTry env req k slot = (some err, slot') ∧ Taken env req slot slot' err)
      ∨ (¬ Takes env req k slot ∧ slotTry env req k slot = (none, slot)) := by
  have own : ¬ (req.useSocket ≠ vosInvalidSocket ∧ req.useSocket = slot.sock) :=
    fun both => both.1 pd.useSocket
  have udp : req.usage ≠ .mdTcp := by
    rw [pd.usage]
    decide
  unfold slotTry Takes
  rw [if_neg own]
  by_cases suits : slot.suits req = true
  · rw [if_pos suits]
    rcases slotJoin_cases env k req.mcGroup slot with ⟨can, joined, eq, joins, group⟩ | ⟨cannot, eq⟩
    · obtain ⟨same, groups⟩ := joins
      generalize joined.mcGroups = mcGroups at same groups group
      subst same
      refine .inl ⟨⟨suits, can⟩, slotMulticastIf env slot,
        if slotMulticastIf env slot = .noErr then { slot with mcGroups, usage := slot.usage + 1 }
          else { slot with mcGroups }, ?_, rfl, ⟨?_, ?_⟩, ?_, ?_⟩
      · simp only [eq, if_pos udp]
        rfl
      · split <;> rfl
      · split <;> exact groups
      · split <;> rfl
      · split <;> exact group
    · refine .inr ⟨fun takes => cannot takes.2, ?_⟩
      rw [eq]
  · rw [if_neg suits]
    exact .inr ⟨fun takes => suits takes.1, rfl⟩

-----------------------------------------------------------------------------------------
-- The search
-----------------------------------------------------------------------------------------

/-- The first slot that the search takes, among those from number `k` on. -/
structure FirstTaken (env : SockEnv) (req : SocketRequest) (k : Nat) (slots : List TrdpSockets)
    (i : Nat) (slot : TrdpSockets)
    : Prop where
  here : slots[i]? = some slot
  takes : Takes env req (k + i) slot
  before : ∀ j < i, ∀ other, slots[j]? = some other → ¬ Takes env req (k + j) other

/-- The search takes no slot. -/
def NoneTaken (env : SockEnv) (req : SocketRequest) (k : Nat) (slots : List TrdpSockets) : Prop :=
  ∀ j other, slots[j]? = some other → ¬ Takes env req (k + j) other

/-- The first empty slot. -/
def firstEmpty (k : Nat) (slots : List TrdpSockets) : Option Nat :=
  (slots.findIdx? fun slot => slot.sock = vosInvalidSocket).map (k + ·)

/-- The search ends at the first slot that it takes, or it finds the first empty one. Induction on
the slots.
-/
theorem slotSearch_cases (pd : IsPdRequest req) (env : SockEnv) (k : Nat)
    (emptySock : Option Nat) (slots : List TrdpSockets)
    : (∃ i slot err slot' emptySock', FirstTaken env req k slots i slot
          ∧ Taken env req slot slot' err
          ∧ slotSearch env req k emptySock slots
            = (some (k + i, err), emptySock', slots.set i slot'))
      ∨ (NoneTaken env req k slots
        ∧ slotSearch env req k emptySock slots
          = (none, emptySock.or (firstEmpty k slots), slots)) := by
  induction slots generalizing k emptySock with
  | nil =>
      refine .inr ⟨fun _ _ none => absurd none.symm (Option.some_ne_none _), ?_⟩
      simp [slotSearch, firstEmpty]
  | cons slot rest ih =>
      have shift : ∀ j, k + 1 + j = k + (j + 1) := fun j => by omega
      rcases slotTry_cases pd env k slot with ⟨takes, err, slot', eq, taken⟩ | ⟨passes, eq⟩
      · refine .inl ⟨0, slot, err, slot', emptySock, ⟨rfl, takes, ?_⟩, taken, ?_⟩
        · exact fun _ below => absurd below (Nat.not_lt_zero _)
        · simp only [slotSearch, eq]
          rfl
      · rcases ih (k + 1)
            (if slot.sock = vosInvalidSocket ∧ emptySock.isNone then some k else emptySock) with
          ⟨i, later, err, slot', emptySock', first, taken, found⟩ | ⟨none, missed⟩
        · refine .inl ⟨i + 1, later, err, slot', emptySock', ⟨first.here, ?_, ?_⟩, taken, ?_⟩
          · exact shift i ▸ first.takes
          · intro j below other at_
            cases j with
            | zero =>
                obtain rfl := Option.some.inj at_
                exact passes
            | succ j =>
                exact shift j ▸ first.before j (Nat.lt_of_succ_lt_succ below) other at_
          · simp only [slotSearch, eq, found, List.set_cons_succ, shift]
        · refine .inr ⟨?_, ?_⟩
          · intro j other at_
            cases j with
            | zero =>
                obtain rfl := Option.some.inj at_
                exact passes
            | succ j =>
                exact shift j ▸ none j other at_
          · simp only [slotSearch, eq, missed, firstEmpty, List.findIdx?_cons]
            by_cases closed : slot.sock = vosInvalidSocket
            · cases emptySock <;> simp [closed]
            · simp [closed, Function.comp_def, shift]

-----------------------------------------------------------------------------------------
-- Users of the slots
-----------------------------------------------------------------------------------------

/-- A slot counts its users, and is open as long as it has any. -/
structure SlotFits (users : Nat) (slot : TrdpSockets) : Prop where
  type : slot.type = .pd
  usage : slot.usage.toInt = users
  opened : slot.sock ≠ vosInvalidSocket ↔ 0 < users

/-- The pool as the numbers of users of its slots describe it. -/
structure PoolFits (users : Nat → Nat) (pool : SocketPool) : Prop where
  length : pool.iface.length = vosMaxSocketCnt
  mark : pool.sCurrentMaxSocketCnt ≤ vosMaxSocketCnt
  slots : ∀ k slot, pool.iface[k]? = some slot → SlotFits (users k) slot
  beyond : ∀ k, pool.sCurrentMaxSocketCnt ≤ k → users k = 0

/-- What an element needs of its socket. -/
structure SocketNeed where
  bindAddr : U32
  sendParam : SendParam
  mcGroup : U32
  deriving DecidableEq, Repr

/-- An open process data socket that meets the need. -/
structure Serves (need : SocketNeed) (slot : TrdpSockets) : Prop where
  opened : slot.sock ≠ vosInvalidSocket
  type : slot.type = .pd
  bindAddr : slot.bindAddr = need.bindAddr
  sendParam : slot.sendParam = need.sendParam
  joined : need.mcGroup = 0 ∨ need.mcGroup ∈ slot.mcGroups

/-- The need of a request. -/
def SocketRequest.need (req : SocketRequest) : SocketNeed where
  bindAddr := req.bindAddr
  sendParam := req.params
  mcGroup := req.mcGroup

/-- Slot `k` meets the need. -/
def SocketPool.ServesAt (pool : SocketPool) (k : Nat) (need : SocketNeed) : Prop :=
  ∃ slot, pool.iface[k]? = some slot ∧ Serves need slot

variable {users : Nat → Nat} {pool pool' : SocketPool} {need : SocketNeed}
  {slots : List TrdpSockets}

theorem PoolFits.init {mark : Nat} (low : mark ≤ vosMaxSocketCnt)
    : PoolFits (fun _ => 0) (.init mark) where
  length := List.length_replicate
  mark := low
  slots k slot at_ := by
    obtain rfl := List.eq_of_mem_replicate (List.mem_of_getElem? at_)
    exact ⟨rfl, rfl, iff_of_false (not_not_intro rfl) (Nat.lt_irrefl 0)⟩
  beyond _ _ := rfl

/-- Only the users of one slot may change. -/
theorem PoolFits.set (fits : PoolFits users pool) {users' : Nat → Nat} {mark' : Nat}
    (low : mark' ≤ vosMaxSocketCnt) (inside : k < vosMaxSocketCnt)
    (slotFits : SlotFits (users' k) slot) (others : ∀ j, j ≠ k → users' j = users j)
    (beyond : ∀ j, mark' ≤ j → users' j = 0)
    : PoolFits users' ⟨pool.iface.set k slot, mark'⟩ where
  length := by rw [List.length_set, fits.length]
  mark := low
  slots j other at_ := by
    rw [List.getElem?_set, fits.length] at at_
    by_cases same : k = j
    · subst same
      rw [if_pos rfl, if_pos inside] at at_
      obtain rfl := Option.some.inj at_
      exact slotFits
    · rw [if_neg same] at at_
      rw [others j (Ne.symm same)]
      exact fits.slots j other at_
  beyond := beyond

theorem SocketPool.ServesAt.set {j mark' : Nat} (serves : pool.ServesAt j need)
    (here : j = k → Serves need slot)
    : (⟨pool.iface.set k slot, mark'⟩ : SocketPool).ServesAt j need := by
  obtain ⟨old, at_, meets⟩ := serves
  by_cases same : k = j
  · subst same
    have inside := (List.getElem?_eq_some_iff.mp at_).1
    exact ⟨slot, List.getElem?_set_self inside, here rfl⟩
  · exact ⟨old, by simp only [List.getElem?_set, if_neg same, at_], meets⟩

/-- A slot that still meets what it met, put in the place of the old one, takes nothing away. -/
theorem SocketPool.ServesAt.set_at {j mark' : Nat} {slot' : TrdpSockets}
    (serves : pool.ServesAt j need) (at_ : pool.iface[k]? = some slot)
    (keeps : Serves need slot → Serves need slot')
    : (⟨pool.iface.set k slot', mark'⟩ : SocketPool).ServesAt j need := by
  refine serves.set fun same => ?_
  obtain ⟨old, oldAt, meets⟩ := serves
  obtain rfl := Option.some.inj (at_.symm.trans (same ▸ oldAt))
  exact keeps meets

/-- Nobody is served by a slot without users. -/
theorem SocketPool.ServesAt.set_unused {j mark' : Nat} (serves : pool.ServesAt j need)
    (fits : PoolFits users pool) (unused : users k = 0)
    : (⟨pool.iface.set k slot, mark'⟩ : SocketPool).ServesAt j need := by
  refine serves.set fun same => ?_
  obtain ⟨other, at_, meets⟩ := serves
  subst same
  have used := (fits.slots j other at_).opened.mp meets.opened
  omega

theorem Joins.serves {slot slot' : TrdpSockets} (joins : Joins slot slot')
    (serves : Serves need slot)
    : Serves need slot' := by
  obtain ⟨opened, type, bindAddr, sendParam, joined⟩ := serves
  rw [joins.same]
  refine ⟨opened, type, bindAddr, sendParam, ?_⟩
  by_cases none : need.mcGroup = 0
  · exact .inl none
  · exact .inr (joins.groups _ (joined.resolve_left none) none)

-----------------------------------------------------------------------------------------
-- New sockets
-----------------------------------------------------------------------------------------

theorem SockErr.toTrdp_ne (err : SockErr) : err.toTrdp ≠ .memErr ∧ err.toTrdp ≠ .noErr := by
  cases err <;> exact ⟨by decide, by decide⟩

theorem slotMulticastIf_ne (env : SockEnv) (slot : TrdpSockets)
    : slotMulticastIf env slot ≠ .memErr := by
  unfold slotMulticastIf sockResult
  split
  · cases env.sockSetMulticastIf with
    | none => decide
    | some err => exact err.toTrdp_ne.1
  · decide

/-- A new entry gets a socket that meets the need, or it has none when the request ends. -/
theorem slotOpen_cases (pd : IsPdRequest req) (env : SockEnv)
    : ∃ err slot, slotOpen env req = (err, slot) ∧ err ≠ .memErr ∧ slot.type = .pd
      ∧ ((err ≠ .noErr ∧ slot.sock = vosInvalidSocket ∧ slot.usage = 0)
        ∨ slot.sock ≠ vosInvalidSocket ∧ slot.usage = 1
          ∧ (err = .noErr → Serves req.need slot)) := by
  unfold slotOpen
  cases env.sockOpen with
  | error err =>
      exact ⟨_, _, rfl, err.toTrdp_ne.1, pd.usage, .inl ⟨err.toTrdp_ne.2, rfl, rfl⟩⟩
  | ok sock =>
      have opened : (sock : Int) ≠ vosInvalidSocket := by
        unfold vosInvalidSocket
        omega
      have serves : ∀ mcGroups : List U32, (req.mcGroup = 0 ∨ req.mcGroup ∈ mcGroups)
          → Serves req.need { newSlot req with sock, usage := 1, mcGroups } :=
        fun mcGroups joined => ⟨opened, pd.usage, rfl, rfl, joined⟩
      simp only [pd.usage]
      split
      · next sends =>
          have none : req.mcGroup = 0 := pd.joins (by simpa using sends)
          exact ⟨_, _, rfl, slotMulticastIf_ne _ _, pd.usage, .inr ⟨opened, rfl,
            fun _ => serves _ (.inl none)⟩⟩
      cases env.sockBind with
      | some err =>
          exact ⟨_, _, rfl, err.toTrdp_ne.1, pd.usage, .inr ⟨opened, rfl,
            fun done => absurd done err.toTrdp_ne.2⟩⟩
      | none =>
          dsimp only
          split
          · next none =>
              exact ⟨_, _, rfl, slotMulticastIf_ne _ _, pd.usage, .inr ⟨opened, rfl,
                fun _ => serves _ (.inl none)⟩⟩
          cases env.sockJoinNew with
          | some err =>
              exact ⟨_, _, rfl, err.toTrdp_ne.1, pd.usage, .inr ⟨opened, rfl,
                fun done => absurd done err.toTrdp_ne.2⟩⟩
          | none =>
              have free : (newSlot req).mcGroups.any (groupRoom req.mcGroup) = true :=
                List.any_eq_true.mpr ⟨0, List.mem_replicate.mpr ⟨by decide, rfl⟩,
                  decide_eq_true (.inl rfl)⟩
              have added : trdpSockAddJoin (newSlot req).mcGroups req.mcGroup = some _ :=
                if_pos free
              refine ⟨_, _, rfl, slotMulticastIf_ne _ _, pd.usage, .inr ⟨opened, rfl, fun _ => ?_⟩⟩
              refine serves _ (.inr ?_)
              rw [added]
              exact (mem_trdpSockAddJoin added).1

-----------------------------------------------------------------------------------------
-- Releasing
-----------------------------------------------------------------------------------------

variable {now : TrdpTime} {connectTimeout : U32}

theorem trdpReleaseSocket_closed (at_ : pool.iface[k]? = some slot)
    (closed : slot.sock = vosInvalidSocket)
    : trdpReleaseSocket now connectTimeout k pool = some (pool, []) := by
  unfold trdpReleaseSocket
  rw [if_neg (by omega)]
  simp [at_, closed]

theorem trdpReleaseSocket_open (at_ : pool.iface[k]? = some slot)
    (opened : slot.sock ≠ vosInvalidSocket) (type : slot.type = .pd)
    : trdpReleaseSocket now connectTimeout k pool
      = some (if (slot.usage - 1).toInt ≤ 0 then
          ( { pool with
              iface := pool.iface.set k
                { slot with usage := slot.usage - 1, sock := vosInvalidSocket } },
            [k] )
        else
          ({ pool with iface := pool.iface.set k { slot with usage := slot.usage - 1 } }, [])) := by
  unfold trdpReleaseSocket
  rw [if_neg (by omega)]
  simp [at_, opened, type]

-----------------------------------------------------------------------------------------
-- The outcome of a request
-----------------------------------------------------------------------------------------

/-- The slots that the search goes through. -/
def SocketPool.searched (pool : SocketPool) : List TrdpSockets :=
  pool.iface.take pool.sCurrentMaxSocketCnt

/-- A request that takes a slot of the pool. -/
structure Shares (env : SockEnv) (req : SocketRequest) (pool : SocketPool) (k : Nat)
    (slot : TrdpSockets) (result : SocketResult)
    : Prop where
  first : FirstTaken env req 0 pool.searched k slot
  after
    : ∃ slot', Taken env req slot slot' result.err
      ∧ result = ⟨result.err, some k, { pool with iface := pool.iface.set k slot' }, []⟩

/-- A request that puts a new socket into an entry. The socket is closed again if it fails. -/
structure Creates (env : SockEnv) (req : SocketRequest) (users : Nat → Nat) (pool : SocketPool)
    (result : SocketResult)
    : Prop where
  none : NoneTaken env req 0 pool.searched
  room : pool.sCurrentMaxSocketCnt < vosMaxSocketCnt
  err : result.err = (slotOpen env req).1 ∧ result.err ≠ .memErr
  after
    : ∃ k mark slot, users k = 0 ∧ k < mark ∧ pool.sCurrentMaxSocketCnt ≤ mark
      ∧ mark ≤ vosMaxSocketCnt ∧ result.pool = ⟨pool.iface.set k slot, mark⟩
      ∧ (result.err = .noErr → result.pIndex = some (k : Int) ∧ result.closed = []
          ∧ Serves req.need slot ∧ slot.usage = 1)
      ∧ (result.err ≠ .noErr → (∀ j ∈ result.closed, j = k) ∧ slot.type = .pd
          ∧ slot.sock = vosInvalidSocket ∧ slot.usage = 0)

/-- A request that finds neither. -/
structure Exhausted (env : SockEnv) (req : SocketRequest) (pool : SocketPool)
    (result : SocketResult)
    : Prop where
  none : NoneTaken env req 0 pool.searched
  full : vosMaxSocketCnt ≤ pool.sCurrentMaxSocketCnt
  eq : result = ⟨.memErr, Option.none, pool, []⟩

/-- What the choice of an entry relies on: a closed slot has no users, and nor has one from the mark
on.
-/
structure EntriesFree (users : Nat → Nat) (pool : SocketPool) : Prop where
  length : pool.iface.length = vosMaxSocketCnt
  mark : pool.sCurrentMaxSocketCnt ≤ vosMaxSocketCnt
  closed : ∀ k slot, pool.iface[k]? = some slot → slot.sock = vosInvalidSocket → users k = 0
  beyond : ∀ k, pool.sCurrentMaxSocketCnt ≤ k → users k = 0

theorem PoolFits.entriesFree (fits : PoolFits users pool) : EntriesFree users pool where
  length := fits.length
  mark := fits.mark
  closed k slot at_ closed := by
    have unused := (fits.slots k slot at_).opened.mpr.mt (not_not_intro closed)
    exact Nat.eq_zero_of_not_pos unused
  beyond := fits.beyond

theorem newEntry_free (free : EntriesFree users pool)
    (room : pool.sCurrentMaxSocketCnt < vosMaxSocketCnt)
    : ∃ k mark, newEntry (firstEmpty 0 pool.searched) pool.sCurrentMaxSocketCnt = (k, mark)
      ∧ users k = 0 ∧ k < mark ∧ pool.sCurrentMaxSocketCnt ≤ mark ∧ mark ≤ vosMaxSocketCnt := by
  cases empty : firstEmpty 0 pool.searched with
  | none =>
      exact ⟨_, _, rfl, free.beyond _ le_rfl, Nat.lt_succ_self _, Nat.le_succ _, room⟩
  | some k =>
      obtain ⟨i, found, eq⟩ := Option.map_eq_some_iff.mp empty
      obtain rfl : i = k := (Nat.zero_add i).symm.trans eq
      obtain ⟨inside, closed, -⟩ := List.findIdx?_eq_some_iff_getElem.mp found
      have inMark : i < pool.sCurrentMaxSocketCnt :=
        lt_of_lt_of_le inside (List.length_take_le _ _)
      refine ⟨_, _, rfl, ?_, inMark, le_rfl, free.mark⟩
      have at_ : pool.iface[i]? = some (pool.searched.get ⟨i, inside⟩) := by
        rw [← List.getElem?_take_of_lt inMark]
        exact List.getElem?_eq_getElem inside
      exact free.closed i _ at_ (of_decide_eq_true closed)

/-- A search that takes a slot is the whole request. -/
theorem trdpRequestSocket_shares {emptySock' : Option Nat} {err : TrdpErr}
    (first : FirstTaken env req 0 pool.searched k slot) (taken : Taken env req slot slot' err)
    (found
      : slotSearch env req 0 none pool.searched
        = (some (0 + k, err), emptySock', pool.searched.set k slot'))
    : Shares env req pool k slot (trdpRequestSocket env req pool) := by
  have whole : pool.searched ++ pool.iface.drop pool.sCurrentMaxSocketCnt = pool.iface :=
    List.take_append_drop _ _
  have inside : k < pool.searched.length := (List.getElem?_eq_some_iff.mp first.here).1
  have eq : trdpRequestSocket env req pool
      = ⟨err, some k, { pool with iface := pool.iface.set k slot' }, []⟩ := by
    unfold trdpRequestSocket
    rw [SocketPool.searched] at found whole inside
    simp only [found, Nat.zero_add]
    rw [← List.set_append_left _ _ inside, whole]
  rw [eq]
  exact ⟨first, slot', taken, rfl⟩

/-- A search that takes no slot puts a new socket into an entry, as long as there is one. -/
theorem trdpRequestSocket_creates (pd : IsPdRequest req) (free : EntriesFree users pool)
    (none : NoneTaken env req 0 pool.searched)
    (missed
      : slotSearch env req 0 Option.none pool.searched
        = (Option.none, Option.none.or (firstEmpty 0 pool.searched), pool.searched))
    (room : pool.sCurrentMaxSocketCnt < vosMaxSocketCnt)
    : Creates env req users pool (trdpRequestSocket env req pool) := by
  have whole : pool.searched ++ pool.iface.drop pool.sCurrentMaxSocketCnt = pool.iface :=
    List.take_append_drop _ _
  obtain ⟨k, mark, entry, unused, below, up, low⟩ := newEntry_free free room
  obtain ⟨err, slot, opens, notMem, type, outcome⟩ := slotOpen_cases pd env
  have inside : k < pool.iface.length := free.length ▸ lt_of_lt_of_le below low
  have here : (pool.iface.set k slot)[k]? = some slot := List.getElem?_set_self inside
  have eq : trdpRequestSocket env req pool
      = if err = .noErr then ⟨.noErr, some k, ⟨pool.iface.set k slot, mark⟩, []⟩
        else
          let (pool, closed) :=
            (trdpReleaseSocket .cleared 0 k ⟨pool.iface.set k slot, mark⟩).getD
              (⟨pool.iface.set k slot, mark⟩, [])
          ⟨err, some trdpInvalidSocketIndex, pool, closed⟩ := by
    unfold trdpRequestSocket
    rw [SocketPool.searched] at missed whole entry
    simp only [missed, whole, if_pos room, Option.none_or, entry, pd.useSocket, ne_eq,
      not_true_eq_false, if_false, opens]
  rw [eq]
  by_cases granted : err = .noErr
  · rw [if_pos granted]
    rcases outcome with ⟨failed, -⟩ | ⟨-, usage, serves⟩
    · exact absurd granted failed
    · exact ⟨none, room, ⟨by rw [opens, granted], nofun⟩, k, mark, slot, unused, below, up,
        low, rfl, fun _ => ⟨rfl, rfl, serves granted, usage⟩, fun failed => absurd rfl failed⟩
  · rw [if_neg granted]
    rcases outcome with ⟨-, closed, usage⟩ | ⟨opened, usage, -⟩
    · rw [trdpReleaseSocket_closed here closed]
      exact ⟨none, room, ⟨by rw [opens], notMem⟩, k, mark, slot, unused, below, up, low,
        rfl, fun done => absurd done granted,
        fun _ => ⟨fun _ member => absurd member List.not_mem_nil, type, closed, usage⟩⟩
    · have last : (slot.usage - 1).toInt ≤ 0 := by
        rw [usage]
        decide
      rw [trdpReleaseSocket_open here opened type, if_pos last]
      refine ⟨none, room, ⟨by rw [opens], notMem⟩, k, mark,
        { slot with usage := slot.usage - 1, sock := vosInvalidSocket }, unused, below, up, low,
        ?_, fun done => absurd done granted,
        fun _ => ⟨fun _ member => List.mem_singleton.mp member, type, rfl, ?_⟩⟩
      · simp only [Option.getD_some, List.set_set]
      · dsimp only
        rw [usage]
        decide

theorem trdpRequestSocket_cases (pd : IsPdRequest req) (env : SockEnv)
    (free : EntriesFree users pool)
    : (∃ k slot, Shares env req pool k slot (trdpRequestSocket env req pool))
      ∨ Creates env req users pool (trdpRequestSocket env req pool)
      ∨ Exhausted env req pool (trdpRequestSocket env req pool) := by
  rcases slotSearch_cases pd env 0 none pool.searched with
    ⟨k, slot, err, slot', emptySock', first, taken, found⟩ | ⟨none, missed⟩
  · exact .inl ⟨k, slot, trdpRequestSocket_shares first taken found⟩
  · refine .inr ?_
    by_cases room : pool.sCurrentMaxSocketCnt < vosMaxSocketCnt
    · exact .inl (trdpRequestSocket_creates pd free none missed room)
    · refine .inr ⟨none, Nat.le_of_not_lt room, ?_⟩
      have whole : pool.searched ++ pool.iface.drop pool.sCurrentMaxSocketCnt = pool.iface :=
        List.take_append_drop _ _
      unfold trdpRequestSocket
      rw [SocketPool.searched] at missed whole
      simp only [missed, whole, if_neg room]

/-- The request gets a socket: the first slot that it takes is ready, or it takes none, there is an
entry below the limit, and the new socket is opened.
-/
def Granted (env : SockEnv) (req : SocketRequest) (pool : SocketPool) : Prop :=
  (∃ k slot, FirstTaken env req 0 pool.searched k slot ∧ slotMulticastIf env slot = .noErr)
  ∨ NoneTaken env req 0 pool.searched ∧ pool.sCurrentMaxSocketCnt < vosMaxSocketCnt
    ∧ (slotOpen env req).1 = .noErr

/-- The counter of the slot that the request takes can count another user. -/
def UsageRoom (env : SockEnv) (req : SocketRequest) (pool : SocketPool) : Prop :=
  ∀ k slot, FirstTaken env req 0 pool.searched k slot → slot.usage.toInt < 32767

theorem FirstTaken.unique {i j : Nat} {slot other : TrdpSockets}
    (first : FirstTaken env req k slots i slot) (second : FirstTaken env req k slots j other)
    : i = j := by
  rcases Nat.lt_trichotomy i j with below | same | above
  · exact absurd first.takes (second.before i below slot first.here)
  · exact same
  · exact absurd second.takes (first.before j above other second.here)

theorem FirstTaken.not_none {i : Nat} (first : FirstTaken env req k slots i slot)
    : ¬ NoneTaken env req k slots :=
  fun none => none i slot first.here first.takes

theorem trdpRequestSocket_granted_iff (pd : IsPdRequest req) (env : SockEnv)
    (free : EntriesFree users pool)
    : (trdpRequestSocket env req pool).err = .noErr ↔ Granted env req pool := by
  rcases trdpRequestSocket_cases pd env free with
    ⟨k, slot, first, slot', taken, -⟩ | ⟨none, room, ⟨err, -⟩, -⟩ | ⟨none, full, eq⟩
  · rw [taken.result]
    constructor
    · exact fun ready => .inl ⟨k, slot, first, ready⟩
    · rintro (⟨j, other, second, ready⟩ | ⟨none, -⟩)
      · obtain rfl := first.unique second
        exact Option.some.inj (first.here.symm.trans second.here) ▸ ready
      · exact absurd none first.not_none
  · rw [err]
    constructor
    · exact fun opens => .inr ⟨none, room, opens⟩
    · rintro (⟨_, _, first, -⟩ | ⟨-, -, opens⟩)
      · exact absurd none first.not_none
      · exact opens
  · rw [eq]
    refine iff_of_false (fun done => TrdpErr.noConfusion done) ?_
    rintro (⟨_, _, first, -⟩ | ⟨-, room, -⟩)
    · exact first.not_none none
    · exact absurd room (Nat.not_lt.mpr full)

/-- The users with one more of slot `k`. -/
def addUser (users : Nat → Nat) (k : Nat) : Nat → Nat := fun j => users j + if j = k then 1 else 0

theorem addUser_same (users : Nat → Nat) (k : Nat) : addUser users k k = users k + 1 := by
  simp [addUser]

theorem addUser_of_ne {j : Nat} (users : Nat → Nat) (other : j ≠ k)
    : addUser users k j = users j := by
  simp [addUser, other]

/-- The users with one less of slot `k`. -/
def dropUser (users : Nat → Nat) (k : Nat) : Nat → Nat := fun j => users j - if j = k then 1 else 0

theorem toInt_usage_succ {usage : U16} {n : Nat} (counts : usage.toInt = n) (room : n < 32767)
    : (usage + 1).toInt = (n + 1 : Nat) := by
  rw [BitVec.toInt_eq_toNat_cond] at counts ⊢
  rw [BitVec.toNat_add]
  have one : (1 : U16).toNat = 1 := rfl
  rw [one]
  split at counts <;> split <;> omega

theorem toInt_usage_pred {usage : U16} {n : Nat} (counts : usage.toInt = n) (some : 0 < n)
    : (usage - 1).toInt = (n - 1 : Nat) := by
  rw [BitVec.toInt_eq_toNat_cond] at counts ⊢
  rw [BitVec.toNat_sub]
  have one : (1 : U16).toNat = 1 := rfl
  rw [one]
  split at counts <;> split <;> omega

/-- What a request that gets a socket does: the slot has one user more and meets the need, and no
element loses what it needs.
-/
structure Grants (req : SocketRequest) (users : Nat → Nat) (pool : SocketPool)
    (result : SocketResult) (k : Nat)
    : Prop where
  pIndex : result.pIndex = some (k : Int)
  closed : result.closed = []
  fits : PoolFits (addUser users k) result.pool
  keeps : ∀ j need, pool.ServesAt j need → result.pool.ServesAt j need
  serves : result.pool.ServesAt k req.need

/-- What a request that gets none does: nobody loses a user or what it needs, and a socket that it
closes is that of a slot without users.
-/
structure Refuses (users : Nat → Nat) (pool : SocketPool) (result : SocketResult) : Prop where
  fits : PoolFits users result.pool
  keeps : ∀ j need, pool.ServesAt j need → result.pool.ServesAt j need
  closed : ∀ j ∈ result.closed, users j = 0

/-- A slot that is taken keeps its socket and its options. -/
theorem Taken.kept {err : TrdpErr} (taken : Taken env req slot slot' err)
    : slot'.sock = slot.sock ∧ slot'.type = slot.type ∧ slot'.bindAddr = slot.bindAddr
      ∧ slot'.sendParam = slot.sendParam := by
  have same := taken.joins.same
  simp only [TrdpSockets.mk.injEq] at same
  exact ⟨same.1, same.2.2.2.1, same.2.1, same.2.2.1⟩

theorem Taken.serves {err : TrdpErr} (taken : Taken env req slot slot' err)
    (serves : Serves need slot)
    : Serves need slot' := by
  obtain ⟨opened, type, bindAddr, sendParam, joined⟩ := taken.joins.serves serves
  exact ⟨opened, type, bindAddr, sendParam, joined⟩

theorem Taken.meets {err : TrdpErr} (pd : IsPdRequest req) (taken : Taken env req slot slot' err)
    (suits : slot.suits req = true)
    : Serves req.need slot' := by
  obtain ⟨sock, type, bindAddr, sendParam⟩ := taken.kept
  obtain ⟨opened, sameAddr, sameType, sameParam, -⟩ := of_decide_eq_true suits
  exact ⟨sock ▸ opened, type.trans (sameType.trans pd.usage), bindAddr.trans sameAddr,
    sendParam.trans sameParam, taken.group⟩

/-- The slot that a request takes is one of the pool. -/
theorem FirstTaken.inPool (first : FirstTaken env req 0 pool.searched k slot)
    (free : EntriesFree users pool)
    : pool.iface[k]? = some slot ∧ k < pool.sCurrentMaxSocketCnt ∧ k < vosMaxSocketCnt := by
  have inside := (List.getElem?_eq_some_iff.mp first.here).1
  have below : k < pool.sCurrentMaxSocketCnt := lt_of_lt_of_le inside (List.length_take_le _ _)
  refine ⟨?_, below, lt_of_lt_of_le below free.mark⟩
  rw [← List.getElem?_take_of_lt below]
  exact first.here

theorem Shares.grants {result : SocketResult} (pd : IsPdRequest req) (fits : PoolFits users pool)
    (shares : Shares env req pool k slot result) (done : result.err = .noErr)
    (room : slot.usage.toInt < 32767)
    : Grants req users pool result k := by
  obtain ⟨first, slot', taken, eq⟩ := shares
  obtain ⟨at_, below, inside⟩ := first.inPool fits.entriesFree
  rw [done] at eq taken
  have counts := fits.slots k slot at_
  obtain ⟨sock, type, -⟩ := taken.kept
  have slotFits : SlotFits (addUser users k k) slot' := by
    rw [addUser_same]
    refine ⟨type.trans counts.type, ?_, ?_⟩
    · rw [counts.usage] at room
      rw [taken.usage, if_pos rfl]
      exact toInt_usage_succ counts.usage (by omega)
    · have opened := (of_decide_eq_true first.takes.1).1
      exact iff_of_true (sock ▸ opened) (Nat.succ_pos _)
  rw [eq]
  refine ⟨rfl, rfl, fits.set fits.mark inside slotFits (fun j => addUser_of_ne users) ?_, ?_, ?_⟩
  · intro j beyond
    rw [addUser_of_ne users (by omega), fits.beyond j beyond]
  · exact fun j need serves => serves.set_at at_ taken.serves
  · exact ⟨slot', List.getElem?_set_self (fits.length ▸ inside), taken.meets pd first.takes.1⟩

theorem Creates.grants {result : SocketResult} (fits : PoolFits users pool)
    (creates : Creates env req users pool result) (done : result.err = .noErr)
    : ∃ k, Grants req users pool result k := by
  obtain ⟨none, low, -, k, mark, slot, unused, below, up, inside, after, grant, -⟩ := creates
  obtain ⟨pIndex, closed, serves, usage⟩ := grant done
  have insidePool : k < vosMaxSocketCnt := lt_of_lt_of_le below inside
  have slotFits : SlotFits (addUser users k k) slot := by
    rw [addUser_same, unused]
    exact ⟨serves.type, by rw [usage]; decide, iff_of_true serves.opened Nat.one_pos⟩
  refine ⟨k, pIndex, closed, ?_, ?_, ?_⟩
  all_goals rw [after]
  · refine fits.set inside insidePool slotFits (fun j => addUser_of_ne users) fun j beyond => ?_
    rw [addUser_of_ne users (by omega), fits.beyond j (le_trans up beyond)]
  · exact fun j need old => old.set_unused fits unused
  · exact ⟨slot, List.getElem?_set_self (fits.length ▸ insidePool), serves⟩

theorem Exhausted.ne {result : SocketResult} (exhausted : Exhausted env req pool result)
    : result.err ≠ .noErr := by
  rw [exhausted.eq]
  exact TrdpErr.noConfusion

theorem trdpRequestSocket_grants (pd : IsPdRequest req) (fits : PoolFits users pool)
    (granted : Granted env req pool) (room : UsageRoom env req pool)
    : ∃ k, Grants req users pool (trdpRequestSocket env req pool) k := by
  have done := (trdpRequestSocket_granted_iff pd env fits.entriesFree).mpr granted
  rcases trdpRequestSocket_cases pd env fits.entriesFree with
    ⟨k, slot, shares⟩ | creates | exhausted
  · exact ⟨k, shares.grants pd fits done (room k slot shares.first)⟩
  · exact creates.grants fits done
  · exact absurd done exhausted.ne

theorem Shares.refuses {result : SocketResult} (fits : PoolFits users pool)
    (shares : Shares env req pool k slot result) (failed : result.err ≠ .noErr)
    : Refuses users pool result := by
  obtain ⟨first, slot', taken, eq⟩ := shares
  obtain ⟨at_, below, inside⟩ := first.inPool fits.entriesFree
  have counts := fits.slots k slot at_
  obtain ⟨sock, type, -⟩ := taken.kept
  have slotFits : SlotFits (users k) slot' := by
    refine ⟨type.trans counts.type, ?_, sock ▸ counts.opened⟩
    rw [taken.usage, if_neg failed]
    exact counts.usage
  rw [eq]
  refine ⟨fits.set fits.mark inside slotFits (fun _ _ => rfl) fits.beyond, ?_, by simp⟩
  exact fun j need serves => serves.set_at at_ taken.serves

theorem Creates.refuses {result : SocketResult} (fits : PoolFits users pool)
    (creates : Creates env req users pool result) (failed : result.err ≠ .noErr)
    : Refuses users pool result := by
  obtain ⟨none, low, -, k, mark, slot, unused, below, up, inside, after, -, refuse⟩ := creates
  obtain ⟨closed, type, sock, usage⟩ := refuse failed
  have slotFits : SlotFits (users k) slot := by
    rw [unused]
    exact ⟨type, by rw [usage]; decide, iff_of_false (not_not_intro sock) (Nat.lt_irrefl 0)⟩
  refine ⟨?_, ?_, fun j member => closed j member ▸ unused⟩
  all_goals rw [after]
  · exact fits.set inside (lt_of_lt_of_le below inside) slotFits (fun _ _ => rfl)
      fun j beyond => fits.beyond j (le_trans up beyond)
  · exact fun j need old => old.set_unused fits unused

theorem trdpRequestSocket_refuses (pd : IsPdRequest req) (fits : PoolFits users pool)
    (refused : ¬ Granted env req pool)
    : Refuses users pool (trdpRequestSocket env req pool) := by
  have failed := mt (trdpRequestSocket_granted_iff pd env fits.entriesFree).mp refused
  rcases trdpRequestSocket_cases pd env fits.entriesFree with
    ⟨k, slot, shares⟩ | creates | exhausted
  · exact shares.refuses fits failed
  · exact creates.refuses fits failed
  · rw [exhausted.eq]
    exact ⟨fits, fun _ _ serves => serves, by simp⟩

/-- The pool after one of the `users` of slot `k` has left. -/
def SocketPool.left (pool : SocketPool) (users k : Nat) : SocketPool :=
  { pool with
    iface :=
      pool.iface.modify k fun slot =>
        { slot with
          usage := slot.usage - 1
          sock := if users = 1 then vosInvalidSocket else slot.sock } }

/-- What a release does: the slot has one user less, and is closed if that was the last; nobody else
loses what it needs.
-/
structure Drops (users : Nat → Nat) (pool pool' : SocketPool) (closed : List Nat) (k : Nat)
    : Prop where
  left : pool' = pool.left (users k) k
  fits : PoolFits (dropUser users k) pool'
  keeps : ∀ j need, (j = k → 1 < users k) → pool.ServesAt j need → pool'.ServesAt j need
  closed : closed = if users k = 1 then [k] else []

theorem trdpReleaseSocket_drops (now : TrdpTime) (connectTimeout : U32)
    (fits : PoolFits users pool) (used : 0 < users k)
    : ∃ pool' closed, trdpReleaseSocket now connectTimeout k pool = some (pool', closed)
      ∧ Drops users pool pool' closed k := by
  have below : k < pool.sCurrentMaxSocketCnt := by
    by_contra beyond
    have unused := fits.beyond k (Nat.le_of_not_lt beyond)
    omega
  have inside : k < vosMaxSocketCnt := lt_of_lt_of_le below fits.mark
  obtain ⟨slot, at_⟩ : ∃ slot, pool.iface[k]? = some slot :=
    ⟨_, List.getElem?_eq_getElem (fits.length ▸ inside)⟩
  obtain ⟨type, counts, opened⟩ := fits.slots k slot at_
  have less := toInt_usage_pred counts used
  have dropped : dropUser users k k = users k - 1 := by simp [dropUser]
  have others : ∀ j, j ≠ k → dropUser users k j = users j := fun j other => by
    simp [dropUser, other]
  have beyond : ∀ j, pool.sCurrentMaxSocketCnt ≤ j → dropUser users k j = 0 := fun j beyond => by
    simp [dropUser, fits.beyond j beyond]
  have modified : ∀ f, pool.iface.modify k f = pool.iface.set k (f slot) := fun f => by
    rw [List.modify_eq_set_getElem?, at_]
    rfl
  rw [trdpReleaseSocket_open at_ (opened.mpr used) type]
  by_cases last : users k = 1
  · rw [if_pos (by omega)]
    refine ⟨_, _, rfl, ?_,
      fits.set fits.mark inside ⟨type, less.trans ?_, ?_⟩ others beyond, ?_, ?_⟩
    · rw [SocketPool.left, modified, if_pos last]
    · rw [dropped]
    · rw [dropped, last]
      exact iff_of_false (not_not_intro rfl) (Nat.lt_irrefl 0)
    · intro j need more serves
      exact serves.set fun same => absurd (more same) (by omega)
    · rw [if_pos last]
  · rw [if_neg (by omega)]
    refine ⟨_, _, rfl, ?_,
      fits.set fits.mark inside ⟨type, less.trans ?_, ?_⟩ others beyond, ?_, ?_⟩
    · rw [SocketPool.left, modified, if_neg last]
    · rw [dropped]
    · rw [dropped]
      exact iff_of_true (opened.mpr used) (by omega)
    · exact fun j need _ serves => serves.set_at at_ fun meets =>
        ⟨meets.opened, meets.type, meets.bindAddr, meets.sendParam, meets.joined⟩
    · rw [if_neg last]

/-- A socket that is released right after its request leaves the users as they were. -/
def ReleasedAgain (now : TrdpTime) (connectTimeout : U32) (users : Nat → Nat) (pool : SocketPool)
    (result : SocketResult)
    : Prop :=
  ∃ k : Nat, result.pIndex = some (k : Int)
    ∧ ∃ pool' closed,
      trdpReleaseSocket now connectTimeout k result.pool = some (pool', closed)
      ∧ Refuses users pool { result with pool := pool', closed }

/-- A release right after its request: the counter of the slot that was shared is back where it was,
and the socket is closed if that is not positive.
-/
theorem Shares.releases {result : SocketResult} (now : TrdpTime) (connectTimeout : U32)
    (pd : IsPdRequest req) (free : EntriesFree users pool)
    (shares : Shares env req pool k slot result) (done : result.err = .noErr)
    : ∃ slot', Taken env req slot slot' .noErr ∧ result.pIndex = some (k : Int)
      ∧ trdpReleaseSocket now connectTimeout k result.pool
        = some (if slot.usage.toInt ≤ 0 then
            ( { pool with
                iface := pool.iface.set k
                  { slot' with usage := slot.usage, sock := vosInvalidSocket } },
              [k] )
          else
            ({ pool with iface := pool.iface.set k { slot' with usage := slot.usage } }, [])) := by
  obtain ⟨first, slot', taken, eq⟩ := shares
  obtain ⟨-, -, inside⟩ := first.inPool free
  rw [done] at eq taken
  obtain ⟨opened, -, sameType, -⟩ := of_decide_eq_true first.takes.1
  obtain ⟨sock, type, -⟩ := taken.kept
  have back : slot'.usage - 1 = slot.usage := by
    rw [taken.usage, if_pos rfl, BitVec.add_sub_cancel]
  have here : (pool.iface.set k slot')[k]? = some slot' :=
    List.getElem?_set_self (free.length ▸ inside)
  refine ⟨slot', taken, ?_, ?_⟩
  · rw [eq]
  · rw [eq, trdpReleaseSocket_open here (sock ▸ opened) (type.trans (sameType.trans pd.usage)),
      back]
    simp only [List.set_set]

/-- A release right after its request closes the new socket. -/
theorem Creates.releases {result : SocketResult} (now : TrdpTime) (connectTimeout : U32)
    (free : EntriesFree users pool) (creates : Creates env req users pool result)
    (done : result.err = .noErr)
    : ∃ (k mark : Nat) (slot : TrdpSockets), users k = 0 ∧ pool.sCurrentMaxSocketCnt ≤ mark
      ∧ mark ≤ vosMaxSocketCnt ∧ k < vosMaxSocketCnt ∧ slot.type = .pd
      ∧ result.pIndex = some (k : Int)
      ∧ trdpReleaseSocket now connectTimeout k result.pool
        = some (⟨pool.iface.set k { slot with usage := 0, sock := vosInvalidSocket }, mark⟩,
            [k]) := by
  obtain ⟨-, -, -, k, mark, slot, unused, below, up, inside, after, grant, -⟩ := creates
  obtain ⟨pIndex, -, serves, usage⟩ := grant done
  have insidePool : k < vosMaxSocketCnt := lt_of_lt_of_le below inside
  have here : (pool.iface.set k slot)[k]? = some slot :=
    List.getElem?_set_self (free.length ▸ insidePool)
  have last : (slot.usage - 1).toInt ≤ 0 := by
    rw [usage]
    decide
  refine ⟨k, mark, slot, unused, up, inside, insidePool, serves.type, pIndex, ?_⟩
  rw [after, trdpReleaseSocket_open here serves.opened serves.type, if_pos last, usage]
  simp only [List.set_set]
  rfl

/-- The counter of the slot is back where it was, also if it could not count on. -/
theorem Shares.released {result : SocketResult} (now : TrdpTime) (connectTimeout : U32)
    (pd : IsPdRequest req) (fits : PoolFits users pool)
    (shares : Shares env req pool k slot result) (done : result.err = .noErr)
    : ReleasedAgain now connectTimeout users pool result := by
  obtain ⟨slot', taken, pIndex, released⟩ :=
    shares.releases now connectTimeout pd fits.entriesFree done
  obtain ⟨at_, below, inside⟩ := shares.first.inPool fits.entriesFree
  have counts := fits.slots k slot at_
  obtain ⟨sock, type, -⟩ := taken.kept
  have opened : slot.sock ≠ vosInvalidSocket := (of_decide_eq_true shares.first.takes.1).1
  have used := counts.opened.mp opened
  rw [counts.usage, if_neg (by omega)] at released
  refine ⟨k, pIndex, _, _, released,
    fits.set fits.mark inside ⟨type.trans counts.type, counts.usage, ?_⟩ (fun _ _ => rfl)
      fits.beyond, ?_, by simp⟩
  · exact sock ▸ counts.opened
  · exact fun j need serves => serves.set_at at_ taken.joins.serves

/-- The new socket is closed. -/
theorem Creates.released {result : SocketResult} (now : TrdpTime) (connectTimeout : U32)
    (fits : PoolFits users pool) (creates : Creates env req users pool result)
    (done : result.err = .noErr)
    : ReleasedAgain now connectTimeout users pool result := by
  obtain ⟨k, mark, slot, unused, up, inside, insidePool, type, pIndex, released⟩ :=
    creates.releases now connectTimeout fits.entriesFree done
  refine ⟨k, pIndex, _, _, released, ?_, ?_, fun j member =>
    List.mem_singleton.mp member ▸ unused⟩
  · refine fits.set inside insidePool ⟨type, ?_, ?_⟩ (fun _ _ => rfl) fun j beyond =>
      fits.beyond j (le_trans up beyond)
    · rw [unused]
      rfl
    · rw [unused]
      exact iff_of_false (not_not_intro rfl) (Nat.lt_irrefl 0)
  · exact fun j need old => old.set_unused fits unused

theorem trdpReleaseSocket_granted (now : TrdpTime) (connectTimeout : U32) (pd : IsPdRequest req)
    (fits : PoolFits users pool) (granted : Granted env req pool)
    : ReleasedAgain now connectTimeout users pool (trdpRequestSocket env req pool) := by
  have done := (trdpRequestSocket_granted_iff pd env fits.entriesFree).mpr granted
  rcases trdpRequestSocket_cases pd env fits.entriesFree with
    ⟨k, slot, shares⟩ | creates | exhausted
  · exact shares.released now connectTimeout pd fits done
  · exact creates.released now connectTimeout fits done
  · exact absurd done exhausted.ne

end TsnTrdp.Trdp
