import TsnTrdp.Trdp.Reception

/-! The application's ports and the thread that polls them. A pass goes through the port list
with one buffer size and one table of counters; every port that is due is read as it should be
in exactly the runs that avoid the end of the list, a shrunken size, a wrapped clock and a counter
without a last value.
-/

namespace TsnTrdp.Trdp

open TsnTrdp.Run

-----------------------------------------------------------------------------------------
-- The port list
-----------------------------------------------------------------------------------------

/-- `PORT_ELE_T`. -/
structure PortEle where
  index : U16
  subHandle : Nat
  cycle : U32
  timeout : U32
  lastGetTime : TrdpTime
  deriving DecidableEq, Repr

/-- What `port_subscribe` meets. -/
structure PortEnv where
  appHandle : Bool
  isValidSession : Bool
  mutexLock : Bool
  alloc : Bool
  subscribe : SubscribeEnv

structure PortArgs where
  index : U16
  comId : U32
  srcIpAddr : U32
  destIpAddr : U32
  cycle : U32
  timeout : U32
  deriving DecidableEq, Repr

/-- `port_subscribe`: the subscription that it asks for. -/
def PortArgs.subscription (args : PortArgs) : SubscribeArgs where
  pUserRef := 0
  pfCbFunction := none
  comId := args.comId
  srcIpAddr := args.srcIpAddr
  destIpAddr := args.destIpAddr
  pktFlags := trdpFlagsDefault
  timeout := args.timeout
  toBehavior := .setToZero

/-- `port_subscribe`: the new port. -/
def newPort (env : PortEnv) (args : PortArgs) : PortEle where
  index := args.index
  subHandle := env.subscribe.handle
  cycle := args.cycle
  timeout := args.timeout
  lastGetTime := .cleared

/-- `port_subscribe`. -/
def portSubscribe (env : PortEnv) (args : PortArgs) (portList : List PortEle)
    (session : TrdpSession)
    : TrdpErr × List PortEle × TrdpSession :=
  if !env.appHandle then (.paramErr, portList, session)
  else if !env.isValidSession then (.noinitErr, portList, session)
  else if !env.mutexLock then (.noinitErr, portList, session)
  else if !env.alloc then (.memErr, portList, session)
  else
    match tlpSubscribe env.subscribe args.subscription session with
    | (.noErr, session) => (.noErr, portList ++ [newPort env args], session)
    | (err, session) => (err, portList, session)

/-- A call of `port_subscribe`, with the session as it is then. -/
structure PortCall where
  env : PortEnv
  args : PortArgs
  session : TrdpSession

/-- The list after these calls. -/
def portsOf (calls : List PortCall) : List PortEle :=
  calls.foldl (fun ports call => (portSubscribe call.env call.args ports call.session).2.1) []

/-- The ports have counters of their own in the table. -/
structure OwnCounters (ports : List PortEle) : Prop where
  distinct : (ports.map PortEle.index).Nodup
  within : ∀ port ∈ ports, port.index.toNat < 256

-----------------------------------------------------------------------------------------
-- Polling
-----------------------------------------------------------------------------------------

/-- What a call of `tlp_get` finds: the result of its checks and of the lock, the time, and the
subscription as it is when it is read. The sessions have no unmarshalling.
-/
structure PortGet where
  entry : TrdpErr
  clock : Clock
  ele : PdEle

/-- `tlp_get` with a buffer of this size: the result, the size afterwards, and the counter. -/
def PortGet.read (get : PortGet) (receivedSize : U32) : TrdpErr × U32 × U32 :=
  if get.entry ≠ .noErr then (get.entry, receivedSize, 0)
  else
    match pdRead none get.clock.time (some receivedSize) get.ele with
    | (err, _, data) => (err, (data.map Prod.snd).getD receivedSize, (get.ele.info err).seqCount)

/-- One poll of a port: the size that `tlp_get` was given, the counter, where there were data, and
whether a dropped telegram was reported.
-/
structure PortRead where
  index : U16
  bufferSize : U32
  seqCount : Option U32
  dropped : Bool
  deriving DecidableEq, Repr

/-- The variables that the polls of a pass share. -/
structure GetVars where
  receivedSize : U32
  lastSeqCnt : List U32
  deriving DecidableEq, Repr

/-- `elapseTime`. -/
def PortEle.elapseTime (now : TrdpTime) (port : PortEle) : U32 :=
  BitVec.ofInt 32
    (1000000 * (now.tvSec - port.lastGetTime.tvSec) + now.tvUsec - port.lastGetTime.tvUsec)

/-- The test of the elapsed time against half the cycle. -/
def PortEle.Polled (now : TrdpTime) (port : PortEle) : Prop :=
  port.cycle.toNat < 2 * (port.elapseTime now).toNat

instance (now : TrdpTime) (port : PortEle) : Decidable (port.Polled now) :=
  inferInstanceAs (Decidable (_ < _))

/-- `thread_process_pdGet`: what is reported of a read, and the variables after it. -/
def portPoll (get : PortGet) (port : PortEle) (vars : GetVars) : PortRead × GetVars :=
  let (ret, receivedSize, seqCount) := get.read vars.receivedSize
  if ret = .noErr ∧ receivedSize > 0 then
    let last := vars.lastSeqCnt[port.index.toNat]?.getD 0
    ( { index := port.index
        bufferSize := vars.receivedSize
        seqCount := some seqCount
        dropped := seqCount ≠ 0 ∧ seqCount > last + 1 },
      ⟨receivedSize, vars.lastSeqCnt.set port.index.toNat seqCount⟩ )
  else
    ( { index := port.index
        bufferSize := vars.receivedSize
        seqCount := none
        dropped := false },
      ⟨receivedSize, vars.lastSeqCnt⟩ )

/-- `thread_process_pdGet`: the loop of a pass from `iterPH`, the port number `k` of the list,
with those behind it.
-/
def portLoop (now : TrdpTime) (get : Nat → PortGet) (k : Nat) (iterPH : PortEle)
    : (next : List PortEle) → GetVars → (PortEle × List PortEle) × List PortRead × GetVars
  | [], vars => ((iterPH, []), [], vars)
  | port :: next, vars =>
      if iterPH.Polled now then
        let (read, vars) := portPoll (get k) iterPH vars
        let ((port, next), reads, vars) := portLoop now get (k + 1) port next vars
        (({ iterPH with lastGetTime := now }, port :: next), read :: reads, vars)
      else
        let ((port, next), reads, vars) := portLoop now get (k + 1) port next vars
        ((iterPH, port :: next), reads, vars)

/-- The thread: its list, its variables, and what it has read. -/
structure GetThread where
  handle : PortEle
  next : List PortEle
  vars : GetVars
  reads : List PortRead
  deriving DecidableEq, Repr

def GetThread.ports (s : GetThread) : List PortEle := s.handle :: s.next

def pdGetBufferSize : U32 := 1432

/-- `thread_process_pdGet` before its first pass. -/
def GetThread.start (handle : PortEle) (next : List PortEle) : GetThread where
  handle
  next
  vars := ⟨pdGetBufferSize, .replicate 256 0⟩
  reads := []

/-- What a pass meets: the time that it begins, and what its calls find. -/
structure GetPass where
  now : Clock
  get : Nat → PortGet

/-- The polls of a pass. -/
def pdGetReads (s : GetThread) (pass : GetPass) : List PortRead :=
  (portLoop pass.now.time pass.get 0 s.handle s.next s.vars).2.1

/-- `thread_process_pdGet`: one pass. -/
def threadProcessPdGet (s : GetThread) (pass : GetPass) : GetThread :=
  let ((handle, next), reads, vars) := portLoop pass.now.time pass.get 0 s.handle s.next s.vars
  ⟨handle, next, vars, s.reads ++ reads⟩

-----------------------------------------------------------------------------------------
-- What is asked of a pass
-----------------------------------------------------------------------------------------

/-- More than half the cycle has elapsed since the port was read, or since time 0 if it was not. -/
def PortEle.Due (now : TrdpTime) (port : PortEle) : Prop :=
  (port.cycle.toNat : Int) < 2 * (now.usecs - port.lastGetTime.usecs)

instance (now : TrdpTime) (port : PortEle) : Decidable (port.Due now) :=
  inferInstanceAs (Decidable (_ < _))

/-- The counter of the port's last successful read. -/
def lastCounter (reads : List PortRead) (index : U16) : Option U32 :=
  ((reads.filter fun read => read.index = index).filterMap PortRead.seqCount).getLast?

/-- The counter of a read is more than one above that of the last successful one. -/
def PortRead.Jumped (reads : List PortRead) (read : PortRead) : Prop :=
  ∃ seqCount last, read.seqCount = some seqCount ∧ lastCounter reads read.index = some last
    ∧ last.toNat + 1 < seqCount.toNat

/-- What is asked of a pass: every port of the list that is due is read with the full buffer, and
reported exactly if its counter jumped.
-/
def PollRight (s : GetThread) (pass : GetPass) : Prop :=
  ∀ port ∈ s.ports, port.Due pass.now.time
    → ∃ read ∈ pdGetReads s pass, read.index = port.index ∧ read.bufferSize = pdGetBufferSize
      ∧ (read.dropped = true ↔ read.Jumped s.reads)

/-- The call reads a dataset that fits into `size`. -/
def PortGet.Delivers (get : PortGet) (size : U32) : Prop :=
  get.entry = .noErr
  ∧ ¬ (get.ele.interval.IsSet ∧ get.clock.time.After get.ele.timeToGo)
  ∧ ¬ Has get.ele.privFlags trdpInvalidData
  ∧ ¬ Has get.ele.privFlags trdpTimedOut
  ∧ get.ele.dataSize ≤ size

instance (get : PortGet) (size : U32) : Decidable (get.Delivers size) :=
  inferInstanceAs (Decidable (_ ∧ _))

/-- The counter of a port's first read is at most 1, and after the highest counter comes 0. -/
def CounterFits (reads : List PortRead) (port : PortEle) (seqCount : U32) : Prop :=
  match lastCounter reads port.index with
  | none => seqCount.toNat ≤ 1
  | some last => last = 0xffffffff → seqCount = 0

instance (reads : List PortRead) (port : PortEle) (seqCount : U32)
    : Decidable (CounterFits reads port seqCount) := by
  unfold CounterFits
  split <;> infer_instance

/-- What must hold of a pass: a port that is due is not the last of the list, its elapsed time
does not wrap below half its cycle; the size is still that of the buffer, and each port that is
polled before it delivers nothing or a dataset as large as the buffer; and its counter fits.
-/
def PollFits (s : GetThread) (pass : GetPass) : Prop :=
  ∀ k port, s.ports[k]? = some port → port.Due pass.now.time
    → k < s.next.length ∧ port.Polled pass.now.time
      ∧ s.vars.receivedSize = pdGetBufferSize
      ∧ (∀ j < k, ∀ other, s.ports[j]? = some other → other.Polled pass.now.time
          → (pass.get j).Delivers pdGetBufferSize → (pass.get j).ele.dataSize = pdGetBufferSize)
      ∧ ((pass.get k).Delivers pdGetBufferSize → (pass.get k).ele.dataSize > 0
          → CounterFits s.reads port (pass.get k).ele.curSeqCnt)

-----------------------------------------------------------------------------------------
-- One poll
-----------------------------------------------------------------------------------------

variable {get : PortGet} {port : PortEle} {vars : GetVars} {size : U32} {now : TrdpTime}
  {reads : List PortRead} {calls : Nat → PortGet} {ports next : List PortEle} {k : Nat}

theorem PortGet.read_of_delivers (delivers : get.Delivers size)
    : get.read size = (.noErr, get.ele.dataSize, get.ele.curSeqCnt) := by
  obtain ⟨entered, inTime, valid, heard, small⟩ := delivers
  simp [PortGet.read, pdRead, trdpPdGet, PdEle.info, entered, inTime, valid, heard, small]

theorem PortGet.read_of_not_delivers (fails : ¬ get.Delivers size)
    : ∃ err seqCount, err ≠ .noErr ∧ get.read size = (err, size, seqCount) := by
  by_cases entered : get.entry = .noErr
  · by_cases late : get.ele.interval.IsSet ∧ get.clock.time.After get.ele.timeToGo
    · refine ⟨.timeoutErr, get.ele.curSeqCnt, by decide, ?_⟩
      by_cases zeroed : get.ele.toBehavior = .setToZero
      · simp [PortGet.read, pdRead, PdEle.info, entered, late, zeroed]
      · simp [PortGet.read, pdRead, PdEle.info, entered, late, zeroed]
    by_cases invalid : Has get.ele.privFlags trdpInvalidData
    · refine ⟨.nodataErr, get.ele.curSeqCnt, by decide, ?_⟩
      simp [PortGet.read, pdRead, trdpPdGet, PdEle.info, entered, late, invalid]
    by_cases timedOut : Has get.ele.privFlags trdpTimedOut
    · refine ⟨.timeoutErr, get.ele.curSeqCnt, by decide, ?_⟩
      simp [PortGet.read, pdRead, trdpPdGet, PdEle.info, entered, late, invalid, timedOut]
    have large : ¬ get.ele.dataSize ≤ size :=
      fun small => fails ⟨entered, late, invalid, timedOut, small⟩
    refine ⟨.paramErr, get.ele.curSeqCnt, by decide, ?_⟩
    simp [PortGet.read, pdRead, trdpPdGet, PdEle.info, entered, late, invalid, timedOut, large]
  · exact ⟨get.entry, 0, entered, by simp [PortGet.read, entered]⟩

/-- The size that a call leaves. -/
def PortGet.left (get : PortGet) (size : U32) : U32 :=
  if get.Delivers size then get.ele.dataSize else size

theorem PortGet.left_le (get : PortGet) (size : U32) : get.left size ≤ size := by
  unfold PortGet.left
  split
  · next delivers => exact delivers.2.2.2.2
  · exact BitVec.le_refl size

/-- A full buffer stays full exactly if nothing smaller is delivered into it. -/
theorem PortGet.left_eq_iff {full : U32} (small : size ≤ full)
    : get.left size = full
      ↔ size = full ∧ (get.Delivers full → get.ele.dataSize = full) := by
  unfold PortGet.left
  split
  · next delivers =>
      constructor
      · intro same
        have fits := delivers.2.2.2.2
        have eq : size = full := BitVec.le_antisymm small (same ▸ fits)
        exact ⟨eq, fun _ => same⟩
      · rintro ⟨eq, delivered⟩
        exact delivered (eq ▸ delivers)
  · next fails =>
      refine ⟨fun eq => ⟨eq, fun delivers => ?_⟩, And.left⟩
      exact absurd (eq ▸ delivers) fails

/-- What a poll reports, and what it leaves. -/
structure Polls (get : PortGet) (port : PortEle) (vars : GetVars) (read : PortRead)
    (after : GetVars)
    : Prop where
  index : read.index = port.index
  bufferSize : read.bufferSize = vars.receivedSize
  left : after.receivedSize = get.left vars.receivedSize
  data
    : get.Delivers vars.receivedSize → get.ele.dataSize > 0
      → read.seqCount = some get.ele.curSeqCnt
        ∧ (read.dropped = true
          ↔ get.ele.curSeqCnt ≠ 0
            ∧ get.ele.curSeqCnt > vars.lastSeqCnt[port.index.toNat]?.getD 0 + 1)
        ∧ after.lastSeqCnt = vars.lastSeqCnt.set port.index.toNat get.ele.curSeqCnt
  noData
    : ¬ (get.Delivers vars.receivedSize ∧ get.ele.dataSize > 0)
      → read.seqCount = none ∧ read.dropped = false ∧ after.lastSeqCnt = vars.lastSeqCnt

theorem portPoll_polls (get : PortGet) (port : PortEle) (vars : GetVars)
    : Polls get port vars (portPoll get port vars).1 (portPoll get port vars).2 := by
  by_cases delivers : get.Delivers vars.receivedSize
  · by_cases some : get.ele.dataSize > 0
    · simp only [portPoll, PortGet.read_of_delivers delivers, some, and_self, if_true]
      refine ⟨rfl, rfl, (if_pos delivers).symm, fun _ _ => ⟨rfl, by simp, rfl⟩, fun none => ?_⟩
      exact absurd ⟨delivers, some⟩ none
    · simp only [portPoll, PortGet.read_of_delivers delivers, some, and_false, if_false]
      exact ⟨rfl, rfl, (if_pos delivers).symm, fun _ data => absurd data some,
        fun _ => ⟨rfl, rfl, rfl⟩⟩
  · obtain ⟨err, seqCount, failed, eq⟩ := PortGet.read_of_not_delivers delivers
    simp only [portPoll, eq, failed, false_and, if_false]
    exact ⟨rfl, rfl, (if_neg delivers).symm, fun data => absurd data delivers,
      fun _ => ⟨rfl, rfl, rfl⟩⟩

/-- A poll reports nothing of the table but what it holds for its own port. -/
theorem portPoll_congr {counters counters' : List U32}
    (same : counters[port.index.toNat]? = counters'[port.index.toNat]?)
    : (portPoll get port ⟨size, counters⟩).1 = (portPoll get port ⟨size, counters'⟩).1 := by
  simp only [portPoll, same]
  split <;> rfl

theorem lastCounter_append (reads : List PortRead) (read : PortRead) (index : U16)
    : lastCounter (reads ++ [read]) index
      = if read.index = index then read.seqCount.or (lastCounter reads index)
        else lastCounter reads index := by
  unfold lastCounter
  rw [List.filter_append, List.filterMap_append, List.getLast?_append]
  by_cases same : read.index = index
  · cases found : read.seqCount with
    | none => simp [same, found]
    | some seqCount => simp [same, found]
  · simp [same]

/-- The size is at most that of the buffer, and the table holds the last counters of the reads. -/
structure VarsSound (reads : List PortRead) (vars : GetVars) : Prop where
  small : vars.receivedSize ≤ pdGetBufferSize
  length : vars.lastSeqCnt.length = 256
  counters
    : ∀ index : U16, index.toNat < 256
      → vars.lastSeqCnt[index.toNat]? = some ((lastCounter reads index).getD 0)

theorem VarsSound.poll (sound : VarsSound reads vars) (get : PortGet)
    (within : port.index.toNat < 256)
    : VarsSound (reads ++ [(portPoll get port vars).1]) (portPoll get port vars).2 := by
  have polls := portPoll_polls get port vars
  generalize (portPoll get port vars).1 = read at polls
  generalize (portPoll get port vars).2 = after at polls
  have small : after.receivedSize ≤ pdGetBufferSize := by
    rw [polls.left]
    exact BitVec.le_trans (get.left_le _) sound.small
  by_cases data : get.Delivers vars.receivedSize ∧ get.ele.dataSize > 0
  · obtain ⟨counter, -, set⟩ := polls.data data.1 data.2
    refine ⟨small, by rw [set, List.length_set, sound.length], fun index inside => ?_⟩
    rw [set, List.getElem?_set, lastCounter_append, polls.index, counter, sound.length]
    by_cases same : port.index = index
    · subst same
      simp [within]
    · have apart : port.index.toNat ≠ index.toNat := fun eq => same (BitVec.eq_of_toNat_eq eq)
      rw [if_neg apart, if_neg same]
      exact sound.counters index inside
  · obtain ⟨none, -, kept⟩ := polls.noData data
    refine ⟨small, by rw [kept, sound.length], fun index inside => ?_⟩
    rw [kept, lastCounter_append, none, Option.none_or, ite_self]
    exact sound.counters index inside

/-- The counter of a delivered dataset is reported rightly exactly if it fits. -/
theorem VarsSound.reported_iff {read : PortRead} {after : GetVars} (sound : VarsSound reads vars)
    (within : port.index.toNat < 256) (polls : Polls get port vars read after)
    : (read.dropped = true ↔ read.Jumped reads)
      ↔ (get.Delivers vars.receivedSize → get.ele.dataSize > 0
          → CounterFits reads port get.ele.curSeqCnt) := by
  by_cases data : get.Delivers vars.receivedSize ∧ get.ele.dataSize > 0
  · obtain ⟨counter, dropped, -⟩ := polls.data data.1 data.2
    rw [sound.counters _ within, Option.getD_some] at dropped
    have jumped : read.Jumped reads
        ↔ ∃ last, lastCounter reads port.index = some last
          ∧ last.toNat + 1 < get.ele.curSeqCnt.toNat := by
      unfold PortRead.Jumped
      rw [counter, polls.index]
      constructor
      · rintro ⟨seqCount, last, same, known, above⟩
        rw [Option.some.inj same]
        exact ⟨last, known, above⟩
      · rintro ⟨last, known, above⟩
        exact ⟨get.ele.curSeqCnt, last, rfl, known, above⟩
    rw [dropped, jumped, forall_prop_of_true data.1, forall_prop_of_true data.2]
    generalize get.ele.curSeqCnt = seqCount
    unfold CounterFits
    cases known : lastCounter reads port.index with
    | none =>
        simp only [reduceCtorEq, false_and, exists_const, iff_false, Option.getD_none]
        bv_omega
    | some last =>
        simp only [Option.some.injEq, exists_eq_left', Option.getD_some]
        -- the code adds one to the last counter in 32 bits
        by_cases highest : last = 0xffffffff
        · subst highest
          simp only [forall_const]
          bv_omega
        · simp only [highest, false_implies, iff_true]
          bv_omega
  · obtain ⟨counter, dropped, -⟩ := polls.noData data
    have notJumped : ¬ read.Jumped reads := by
      rintro ⟨_, _, some, _⟩
      rw [counter] at some
      exact absurd some.symm (Option.some_ne_none _)
    refine iff_of_true ?_ fun delivers large => absurd ⟨delivers, large⟩ data
    rw [dropped]
    exact iff_of_false Bool.false_ne_true notJumped

-----------------------------------------------------------------------------------------
-- The loop of a pass
-----------------------------------------------------------------------------------------

/-- The size that the polls of the first `i` of these ports leave. -/
def sizeBefore (now : TrdpTime) (calls : Nat → PortGet) (k : Nat)
    : List PortEle → U32 → Nat → U32
  | _, size, 0 => size
  | [], size, _ + 1 => size
  | port :: ports, size, i + 1 =>
      sizeBefore now calls (k + 1) ports
        (if port.Polled now then (calls k).left size else size) i

/-- The size is still full exactly if it was, and nothing smaller was delivered. Induction on the
number of ports.
-/
theorem sizeBefore_eq_iff (now : TrdpTime) (calls : Nat → PortGet) (k : Nat)
    (ports : List PortEle) {full : U32} (small : size ≤ full) (i : Nat)
    : sizeBefore now calls k ports size i = full
      ↔ size = full ∧ ∀ j < i, ∀ other, ports[j]? = some other → other.Polled now
          → (calls (k + j)).Delivers full → (calls (k + j)).ele.dataSize = full := by
  induction i generalizing k ports size with
  | zero => simp [sizeBefore]
  | succ i ih =>
      cases ports with
      | nil => simp [sizeBefore]
      | cons port ports =>
          have head : (if port.Polled now then (calls k).left size else size) = full
              ↔ size = full ∧ (port.Polled now → (calls k).Delivers full
                → (calls k).ele.dataSize = full) := by
            by_cases polled : port.Polled now
            · rw [if_pos polled, PortGet.left_eq_iff small, forall_prop_of_true polled]
            · rw [if_neg polled]
              exact (and_iff_left fun is => absurd is polled).symm
          have smaller : (if port.Polled now then (calls k).left size else size) ≤ full := by
            split
            · exact BitVec.le_trans ((calls k).left_le size) small
            · exact small
          simp only [sizeBefore, ih _ _ smaller, head, Nat.forall_lt_succ_left,
            List.getElem?_cons_zero, List.getElem?_cons_succ, Option.some.injEq, forall_eq',
            Nat.add_zero, and_assoc, Nat.add_comm, Nat.add_left_comm]

/-- The variables after the turn of a port that has another behind it. -/
def varsAfter (now : TrdpTime) (get : PortGet) (iterPH : PortEle) (vars : GetVars) : GetVars :=
  if iterPH.Polled now then (portPoll get iterPH vars).2 else vars

theorem portLoop_cons (iterPH : PortEle)
    : portLoop now calls k iterPH (port :: next) vars
      = ( (if iterPH.Polled now then { iterPH with lastGetTime := now } else iterPH,
            (portLoop now calls (k + 1) port next (varsAfter now (calls k) iterPH vars)).1.1
            :: (portLoop now calls (k + 1) port next (varsAfter now (calls k) iterPH vars)).1.2),
          (if iterPH.Polled now then [(portPoll (calls k) iterPH vars).1] else [])
            ++ (portLoop now calls (k + 1) port next (varsAfter now (calls k) iterPH vars)).2.1,
          (portLoop now calls (k + 1) port next (varsAfter now (calls k) iterPH vars)).2.2 ) := by
  rw [portLoop, varsAfter]
  split <;> rfl

theorem varsAfter_left (get : PortGet) (iterPH : PortEle) (vars : GetVars)
    : (varsAfter now get iterPH vars).receivedSize
      = if iterPH.Polled now then get.left vars.receivedSize else vars.receivedSize := by
  unfold varsAfter
  split
  · exact (portPoll_polls get iterPH vars).left
  · rfl

/-- A turn leaves the counters of the other ports. -/
theorem varsAfter_counter (get : PortGet) (iterPH : PortEle) (vars : GetVars)
    (apart : iterPH.index ≠ port.index)
    : (varsAfter now get iterPH vars).lastSeqCnt[port.index.toNat]?
      = vars.lastSeqCnt[port.index.toNat]? := by
  unfold varsAfter
  split
  · have polls := portPoll_polls get iterPH vars
    by_cases data : get.Delivers vars.receivedSize ∧ get.ele.dataSize > 0
    · have other : iterPH.index.toNat ≠ port.index.toNat :=
        fun eq => apart (BitVec.eq_of_toNat_eq eq)
      rw [(polls.data data.1 data.2).2.2, List.getElem?_set, if_neg other]
    · rw [(polls.noData data).2.2]
  · rfl

/-- A poll of the loop is one of a port that is polled and has another behind it, with the size
that the polls before it leave. Induction on the ports behind the first.
-/
theorem mem_portLoop (iterPH : PortEle) {read : PortRead}
    (distinct : ((iterPH :: next).map PortEle.index).Nodup)
    : read ∈ (portLoop now calls k iterPH next vars).2.1
      ↔ ∃ i port, (iterPH :: next)[i]? = some port ∧ i < next.length ∧ port.Polled now
        ∧ read = (portPoll (calls (k + i)) port
          ⟨sizeBefore now calls k (iterPH :: next) vars.receivedSize i, vars.lastSeqCnt⟩).1 := by
  induction next generalizing k iterPH vars with
  | nil => simp [portLoop]
  | cons port next ih =>
      obtain ⟨apart, rest⟩ := List.nodup_cons.mp distinct
      have first : read ∈ (if iterPH.Polled now then [(portPoll (calls k) iterPH vars).1] else [])
          ↔ iterPH.Polled now ∧ read = (portPoll (calls k) iterPH vars).1 := by
        split <;> simp [*]
      rw [portLoop_cons, List.mem_append, first, ih port rest]
      constructor
      · rintro (⟨polled, eq⟩ | ⟨i, other, at_, inside, polled, eq⟩)
        · exact ⟨0, iterPH, rfl, Nat.succ_pos _, polled, eq⟩
        · refine ⟨i + 1, other, at_, Nat.succ_lt_succ inside, polled, ?_⟩
          have distant : iterPH.index ≠ other.index := fun same =>
            apart (List.mem_map.mpr ⟨other, List.mem_of_getElem? at_, same.symm⟩)
          rw [eq, sizeBefore, varsAfter_left, Nat.add_right_comm, Nat.add_assoc]
          exact portPoll_congr (varsAfter_counter (calls k) iterPH vars distant)
      · rintro ⟨i, other, at_, inside, polled, eq⟩
        cases i with
        | zero =>
            obtain rfl := Option.some.inj at_
            exact .inl ⟨polled, eq⟩
        | succ i =>
            refine .inr ⟨i, other, at_, Nat.lt_of_succ_lt_succ inside, polled, ?_⟩
            have distant : iterPH.index ≠ other.index := fun same =>
              apart (List.mem_map.mpr ⟨other, List.mem_of_getElem? at_, same.symm⟩)
            rw [eq, sizeBefore, varsAfter_left, Nat.add_right_comm, Nat.add_assoc]
            exact (portPoll_congr (varsAfter_counter (calls k) iterPH vars distant)).symm

/-- The loop keeps the counters of the ports, and what the variables say of the reads. -/
theorem portLoop_sound (now : TrdpTime) (calls : Nat → PortGet) (k : Nat) (iterPH : PortEle)
    (sound : VarsSound reads vars)
    (within : ∀ port ∈ iterPH :: next, port.index.toNat < 256)
    : VarsSound (reads ++ (portLoop now calls k iterPH next vars).2.1)
        (portLoop now calls k iterPH next vars).2.2
      ∧ ((portLoop now calls k iterPH next vars).1.1
          :: (portLoop now calls k iterPH next vars).1.2).map PortEle.index
        = (iterPH :: next).map PortEle.index := by
  induction next generalizing k iterPH vars reads with
  | nil => exact ⟨by simpa [portLoop] using sound, rfl⟩
  | cons port next ih =>
      have turn : VarsSound
          (reads ++ if iterPH.Polled now then [(portPoll (calls k) iterPH vars).1] else [])
          (varsAfter now (calls k) iterPH vars) := by
        unfold varsAfter
        split
        · exact sound.poll (calls k) (within iterPH List.mem_cons_self)
        · simpa using sound
      obtain ⟨after, indices⟩ :=
        ih (k + 1) port turn fun other member => within other (List.mem_cons_of_mem _ member)
      rw [portLoop_cons, ← List.append_assoc]
      refine ⟨after, ?_⟩
      rw [List.map_cons, indices, List.map_cons ]
      split <;> rfl

-----------------------------------------------------------------------------------------
-- Passes of the thread
-----------------------------------------------------------------------------------------

/-- The thread as its passes leave it. -/
structure GetSound (s : GetThread) : Prop where
  own : OwnCounters s.ports
  vars : VarsSound s.reads s.vars

theorem OwnCounters.of_map {others : List PortEle} (own : OwnCounters ports)
    (same : others.map PortEle.index = ports.map PortEle.index)
    : OwnCounters others := by
  refine ⟨same ▸ own.distinct, fun port member => ?_⟩
  have index : port.index ∈ ports.map PortEle.index := same ▸ List.mem_map_of_mem member
  obtain ⟨other, otherMember, eq⟩ := List.mem_map.mp index
  exact eq ▸ own.within other otherMember

theorem getSound_start {handle : PortEle} (own : OwnCounters (handle :: next))
    : GetSound (.start handle next) := by
  refine ⟨own, BitVec.le_refl _, List.length_replicate, fun index inside => ?_⟩
  exact (List.getElem?_replicate_of_lt inside).trans rfl

theorem GetSound.step {s : GetThread} (sound : GetSound s) (pass : GetPass)
    : GetSound (threadProcessPdGet s pass) := by
  obtain ⟨vars, indices⟩ :=
    portLoop_sound pass.now.time pass.get 0 s.handle sound.vars sound.own.within
  exact ⟨sound.own.of_map indices, vars⟩

/-- The poll of a port in a pass, if there is one, is that of its place in the list. -/
theorem pdGetReads_iff {s : GetThread} (sound : GetSound s) (pass : GetPass)
    (place : s.ports[k]? = some port) {read : PortRead}
    : read ∈ pdGetReads s pass ∧ read.index = port.index
      ↔ k < s.next.length ∧ port.Polled pass.now.time
        ∧ read = (portPoll (pass.get k) port
          ⟨sizeBefore pass.now.time pass.get 0 s.ports s.vars.receivedSize k,
            s.vars.lastSeqCnt⟩).1 := by
  unfold pdGetReads
  rw [mem_portLoop s.handle sound.own.distinct]
  constructor
  · rintro ⟨⟨i, other, at_, inside, polled, eq⟩, index⟩
    rw [Nat.zero_add] at eq
    have same : i = k := by
      have here : (s.ports.map PortEle.index)[i]? = some port.index := by
        rw [List.getElem?_map, show s.ports[i]? = some other from at_, ← index, eq]
        exact congrArg some (portPoll_polls _ other _).index.symm
      have there : (s.ports.map PortEle.index)[k]? = some port.index := by
        rw [List.getElem?_map, place, Option.map_some]
      exact (List.getElem?_inj (List.getElem?_eq_some_iff.mp here).1 sound.own.distinct).mp
        (here.trans there.symm)
    subst same
    obtain rfl := Option.some.inj (at_.symm.trans place)
    exact ⟨inside, polled, eq⟩
  · rintro ⟨inside, polled, eq⟩
    refine ⟨⟨k, port, place, inside, polled, ?_⟩, ?_⟩
    · rw [Nat.zero_add]
      exact eq
    rw [eq]
    exact (portPoll_polls _ port _).index

/-- A port is read as it should be in a pass exactly if it has another behind it, is polled, the
size is still full, and its counter fits.
-/
theorem readRight_iff {s : GetThread} (sound : GetSound s) (pass : GetPass)
    (place : s.ports[k]? = some port)
    : (∃ read ∈ pdGetReads s pass, read.index = port.index ∧ read.bufferSize = pdGetBufferSize
        ∧ (read.dropped = true ↔ read.Jumped s.reads))
      ↔ k < s.next.length ∧ port.Polled pass.now.time
        ∧ sizeBefore pass.now.time pass.get 0 s.ports s.vars.receivedSize k = pdGetBufferSize
        ∧ ((pass.get k).Delivers pdGetBufferSize → (pass.get k).ele.dataSize > 0
            → CounterFits s.reads port (pass.get k).ele.curSeqCnt) := by
  have within := sound.own.within port (List.mem_of_getElem? place)
  have reported {size : U32} (full : size = pdGetBufferSize) :=
    have vars : VarsSound s.reads ⟨size, s.vars.lastSeqCnt⟩ :=
      ⟨BitVec.le_of_eq full, sound.vars.length, sound.vars.counters⟩
    vars.reported_iff within (portPoll_polls (pass.get k) port ⟨size, s.vars.lastSeqCnt⟩)
  constructor
  · rintro ⟨read, member, index, full, right⟩
    obtain ⟨inside, polled, eq⟩ := (pdGetReads_iff sound pass place).mp ⟨member, index⟩
    rw [eq] at full right
    rw [(portPoll_polls _ _ _).bufferSize] at full
    have fits := (reported full).mp right
    rw [full] at fits
    exact ⟨inside, polled, full, fits⟩
  · rintro ⟨inside, polled, full, fits⟩
    obtain ⟨member, index⟩ := (pdGetReads_iff sound pass place).mpr ⟨inside, polled, rfl⟩
    refine ⟨_, member, index, (portPoll_polls _ _ _).bufferSize.trans full, ?_⟩
    refine (reported full).mpr ?_
    rw [full]
    exact fits

/-- A pass is right exactly if it fits. -/
theorem GetSound.pollRight_iff {s : GetThread} (sound : GetSound s) (pass : GetPass)
    : PollRight s pass ↔ PollFits s pass := by
  have full := fun k => sizeBefore_eq_iff pass.now.time pass.get 0 s.ports sound.vars.small k
  simp only [Nat.zero_add] at full
  constructor
  · intro right k port place due
    obtain ⟨inside, polled, size, counter⟩ :=
      (readRight_iff sound pass place).mp (right port (List.mem_of_getElem? place) due)
    obtain ⟨start, before⟩ := (full k).mp size
    exact ⟨inside, polled, start, before, counter⟩
  · intro fits port member due
    obtain ⟨k, place⟩ := List.getElem?_of_mem member
    obtain ⟨inside, polled, start, before, counter⟩ := fits k port place due
    exact (readRight_iff sound pass place).mpr
      ⟨inside, polled, (full k).mpr ⟨start, before⟩, counter⟩

/-- For every port list that `port_subscribe` built, with a counter for each port, the passes of
the polling thread read and report rightly exactly as far as they fit.
-/
theorem port_polling {calls : List PortCall} {handle : PortEle}
    (built : portsOf calls = handle :: next) (own : OwnCounters (portsOf calls))
    (passes : List GetPass)
    : Along threadProcessPdGet PollRight (.start handle next) passes
      ↔ Along threadProcessPdGet PollFits (.start handle next) passes := by
  have keeps : ∀ s pass, GetSound s → PollFits s pass → GetSound (threadProcessPdGet s pass) :=
    fun _ pass sound _ => sound.step pass
  have same : ∀ s pass, GetSound s → (PollRight s pass ↔ PollFits s pass) :=
    fun _ pass sound => sound.pollRight_iff pass
  exact Along.iff_of_invariant keeps same (getSound_start (built ▸ own)) passes

/-- A subscription to comId 1000 + `index` for port `index`, for which nothing fails. -/
def portCall (index : Nat) (cycle : U32) : PortCall where
  env :=
    { appHandle := true
      isValidSession := true
      mutexLock := true
      alloc := true
      subscribe := subscribeAt (clockAt 0) (index + 1) }
  args :=
    { index := BitVec.ofNat 16 index
      comId := BitVec.ofNat 32 (1000 + index)
      srcIpAddr := 0
      destIpAddr := 0x0a000001
      cycle
      timeout := 150000 }
  session := openedSession

/-- The port that the call adds. -/
def portAt (index : Nat) (cycle : U32) : PortEle :=
  newPort (portCall index cycle).env (portCall index cycle).args

/-- A pass in which every call finds a dataset of 1432 bytes, numbered 1. -/
def pollAt (ms : Nat) : GetPass where
  now := clockAt ms
  get := fun k =>
    { entry := .noErr
      clock := clockAt ms
      ele := { PdEle.zero (k + 1) with curSeqCnt := 1, dataSize := 1432 } }

/-- The first of two ports is read, while the second is not due. -/
theorem port_polling_first
    : Along threadProcessPdGet PollRight (.start (portAt 0 10000) [portAt 1 100000])
        [pollAt 10] := by
  have built
      : portsOf [portCall 0 10000, portCall 1 100000] = [portAt 0 10000, portAt 1 100000] := by
    decide +kernel
  have own : OwnCounters (portsOf [portCall 0 10000, portCall 1 100000]) := by
    rw [built]
    exact ⟨by decide +kernel, by decide +kernel⟩
  refine (port_polling built own _).mpr ⟨?_, trivial⟩
  intro k port place due
  match k, place with
  | 0, place =>
      obtain rfl := Option.some.inj place
      refine ⟨by decide, by decide +kernel, rfl, fun _ none => absurd none (Nat.not_lt_zero _), ?_⟩
      exact fun _ _ => by decide +kernel
  | 1, place =>
      obtain rfl := Option.some.inj place
      revert due
      decide +kernel
  | _ + 2, place => exact absurd place.symm (Option.some_ne_none _)

/-- The only port of a list is due and is not read. -/
theorem port_polling_last
    : portsOf [portCall 0 30000] = [portAt 0 30000]
      ∧ ¬ Along threadProcessPdGet PollRight (.start (portAt 0 30000) []) [pollAt 1000] := by
  refine ⟨by decide +kernel, ?_⟩
  rintro ⟨right, -⟩
  obtain ⟨_, member, -⟩ := right (portAt 0 30000) List.mem_cons_self (by decide +kernel)
  exact absurd member List.not_mem_nil

end TsnTrdp.Trdp
