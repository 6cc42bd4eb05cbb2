import TsnTrdp.Tadma.Lifecycle
import TsnTrdp.Tadma.Reconfiguration

/-! The driver that is stopped and opened again, against one that was opened for the first time.
Opening starts the table and the rings anew, but the counters of the streams, the fetch entries and
the packets that still wait keep what they had.
-/

namespace TsnTrdp.Tadma

open TsnTrdp Run Slots

variable {lp : TadmaLocal} {n k : Nat}

-----------------------------------------------------------------------------------------
-- The driver
-----------------------------------------------------------------------------------------

/-- The table and the rings. A packet without a stream is freed on the spot. -/
structure TadmaDriver (lp : TadmaLocal) where
  table : TadmaState
  device : TadmaDevice lp.numStreams
  dropped : List Nat

inductive DriverEvent (m : Nat)
  | ioctl (op : TadmaIoctl)
  | xmit (packet : TrdpPacket) (skb : SkBuff)
  | fetchSlot (sid : Fin m)
  | fetchNext (sid : Fin m)
  | irq (status : U32)
  deriving DecidableEq

/-- One step. `axienet_tadma_xmit` has no result for a stream id that no ring has. -/
def driverStep (lp : TadmaLocal) (n : Nat) (d : TadmaDriver lp)
    : DriverEvent lp.numStreams → Option (TadmaDriver lp)
  | .ioctl op => (tadmaStep lp d.table op).map fun table => { d with table }
  | .xmit packet skb =>
      (tadmaGetStrid lp d.table packet).bind fun sid =>
        if sid < 0 then some { d with dropped := d.dropped ++ [skb.addr] }
        else if bound : sid.toNat < lp.numStreams then
          some { d with device := deviceStep n d.device (.tadmaXmit (some ⟨sid.toNat, bound⟩) skb) }
        else none
  | .fetchSlot sid => some { d with device := deviceStep n d.device (.fetchSlot sid) }
  | .fetchNext sid => some { d with device := deviceStep n d.device (.fetchNext sid) }
  | .irq status => some { d with device := deviceStep n d.device (.tadmaIrq status) }

/-- After the very first open, with the rings as it leaves them. -/
def TadmaDriver.first (lp : TadmaLocal) (rings : Fin lp.numStreams → StreamRing)
    : TadmaDriver lp where
  table := openStreamTable .loaded
  device :=
    { opened := true
      irqRequested := true
      streams := fun sid => (StreamRace.start (rings sid)).toStreamSys }
  dropped := []

/-- `axienet_tadma_open` does not look at the result of `tadma_sfm_hash_init`: without memory for a
table the one before stays.
-/
def reopenStreamTable (hashInit : Bool) (st : TadmaState) : TadmaState :=
  if hashInit then openStreamTable st
  else { openStreamTable st with streamHash := st.streamHash }

/-- `axienet_tadma_stop`, and then `axienet_tadma_open` with its interrupt and all its rings. -/
def TadmaDriver.reopen (hashInit : Bool) (d : TadmaDriver lp) : TadmaDriver lp :=
  { d with
    table := reopenStreamTable hashInit d.table
    device := d.device.axienetTadmaStop.axienetTadmaOpen true (lp.numStreams + 1) }

-----------------------------------------------------------------------------------------
-- What is asked
-----------------------------------------------------------------------------------------

/-- The results of a sequence of `axienet_tadma_add_stream`. -/
def addResults (lp : TadmaLocal)
    : TadmaState → List AddRequest → List (Option (Except Errno Unit))
  | _, [] => []
  | st, request :: rest =>
      match axienetTadmaAddStream lp st request with
      | none => [none]
      | some (result, st) => some result :: addResults lp st rest

/-- The packets for which a transmission has returned `NETDEV_TX_OK`. -/
def TadmaDriver.accepted (d : TadmaDriver lp) : List Nat :=
  d.dropped
  ++ (List.finRange lp.numStreams).flatMap fun sid => (d.device.streams sid).queued.map SkBuff.addr

def TadmaDriver.freed (d : TadmaDriver lp) : List Nat :=
  d.dropped ++ (List.finRange lp.numStreams).flatMap fun sid => (d.device.streams sid).freed

/-- No fetch entry is valid but that of the best effort. -/
def OnlyBestEffort (lp : TadmaLocal) (active : Sfm) (regs : Nat → U32) : Prop :=
  ∀ slot ∈ sfmSlots lp, slot ≠ stridBe → (sfmRead active regs slot).cfg &&& xtadmaStrEntryValid = 0

instance (lp : TadmaLocal) (active : Sfm) (regs : Nat → U32)
    : Decidable (OnlyBestEffort lp active regs) :=
  inferInstanceAs (Decidable (∀ slot ∈ _, _))

/-- The driver is as after the very first open: each packet goes where it went then, no other fetch
entry is valid, every packet accepted has been freed as often as it was, and adds return what they
returned then.
-/
structure LikeFirst (lp : TadmaLocal) (d : TadmaDriver lp) : Prop where
  strid
    : ∀ packet, tadmaGetStrid lp d.table packet = tadmaGetStrid lp (openStreamTable .loaded) packet
  fetch : OnlyBestEffort lp d.table.activeSfm d.table.regs
  freed : d.freed.Perm d.accepted
  adds
    : ∀ requests, addResults lp d.table requests
        = addResults lp (openStreamTable .loaded) requests

/-- The packet has room in the ring that it is put into. -/
def RoomForXmit (n : Nat) (d : TadmaDriver lp) : DriverEvent lp.numStreams → Prop
  | .xmit packet skb =>
      ∀ sid : Fin lp.numStreams, tadmaGetStrid lp d.table packet = some (sid.val : Int)
        → HasRoom n (d.device.streams sid).ring skb
  | _ => True

instance (n : Nat) (d : TadmaDriver lp)
    : (event : DriverEvent lp.numStreams) → Decidable (RoomForXmit n d event)
  | .xmit _ _ => inferInstanceAs (Decidable (∀ _ : Fin _, _))
  | .ioctl _ | .fetchSlot _ | .fetchNext _ | .irq _ => inferInstanceAs (Decidable True)

/-- When it is stopped the driver has nothing left that opening does not start anew: both counters
are at zero, the rings are empty, and the upper memory holds no other valid fetch entry. Without
memory for a new table there is nothing in the old one.
-/
structure Quiet (lp : TadmaLocal) (hashInit : Bool) (d : TadmaDriver lp) : Prop where
  table : hashInit = true ∨ d.table.entries lp = []
  sid : d.table.getSid = 0
  sfm : d.table.getSfm = 0
  fetch : OnlyBestEffort lp .upper d.table.regs
  drained
    : ∀ sid, (d.device.streams sid).ring.txBdTail = (d.device.streams sid).ring.txBdHead

-----------------------------------------------------------------------------------------
-- The table
-----------------------------------------------------------------------------------------

variable {st st' : TadmaState}

/-- What runs keep of the table: its entries were requests, and the slots are counted within their
bound, by requests whose pair has a chain.
-/
structure TableInv (lp : TadmaLocal) (st : TadmaState) : Prop where
  consistent : Consistent lp st
  count : ∀ i, ∀ e ∈ st.streamHash i, e.count ≤ maxTrigCount
  bound : st.getSfm.toNat ≤ lp.numEntries
  chain : st.getSfm ≠ 0 → ∃ key : StreamKey, ∃ i, tadmaBucket lp key.hashTag = some i

theorem TableInv.first : TableInv lp (openStreamTable .loaded) where
  consistent := Consistent.empty fun _ => rfl
  count := fun _ _ member => absurd member List.not_mem_nil
  bound := Nat.zero_le _
  chain := fun counted => absurd rfl counted

theorem TableInv.start (inv : TableInv lp st) (start : Byte)
    : (startCounters st start).getSfm.toNat ≤ lp.numEntries
      ∧ ((startCounters st start).getSfm ≠ 0
        → ∃ key : StreamKey, ∃ i, tadmaBucket lp key.hashTag = some i) := by
  unfold startCounters
  split
  · exact ⟨Nat.zero_le _, fun counted => absurd rfl counted⟩
  · exact ⟨inv.bound, inv.chain⟩

theorem TableInv.add (inv : TableInv lp st) {request : AddRequest} {result : Except Errno Unit}
    (step : axienetTadmaAddStream lp st request = some (result, st'))
    : TableInv lp st' := by
  have consistent : Consistent lp st' := by
    have done : tadmaIoctl lp st (.strAdd request) = some (result, st') := step
    exact tadmaIoctl_consistent inv.consistent done
  obtain ⟨⟨outcome, counted⟩, entry, done⟩ := Option.map_eq_some_iff.mp step
  rcases newStreamEntry_cases entry with ⟨err, rfl, rfl⟩ | ⟨stream, idx, found, reaches, outcome⟩
  · cases done
    exact inv
  · obtain ⟨bound, chain⟩ := inv.start stream.start
    rcases outcome with ⟨err, rfl, rfl⟩ | ⟨adds, rfl, rfl⟩
    · cases done
      refine ⟨consistent, ?_, ?_, ?_⟩
      · simpa using inv.count
      · simpa using bound
      · simpa using chain
    · cases done
      refine ⟨consistent, ?_, ?_, fun _ => ⟨stream.key, idx, reaches.bucket⟩⟩
      · intro i e member
        simp only [countSid_streamHash, startCounters_streamHash, Chains.mem_push] at member
        rcases member with ⟨-, rfl⟩ | earlier
        · exact reaches.count
        · exact inv.count i e earlier
      · have more := counter_more adds.sfm lp.numEntries_lt
        have below := adds.sfm
        simp only [counter_succ more]
        omega

theorem TableInv.step (inv : TableInv lp st) {op : TadmaIoctl}
    (step : tadmaStep lp st op = some st')
    : TableInv lp st' := by
  obtain ⟨⟨result, st'⟩, done, rfl⟩ := Option.map_eq_some_iff.mp step
  cases op with
  | strAdd request => exact inv.add done
  | progAll | off =>
      cases done
      exact ⟨inv.consistent.same rfl, inv.count, inv.bound, inv.chain⟩
  | strFlush =>
      cases done
      have nothing := flush_empty inv.consistent.chained
      refine ⟨Consistent.empty nothing, fun i e member => ?_, inv.bound, inv.chain⟩
      rw [nothing i] at member
      exact absurd member List.not_mem_nil

-----------------------------------------------------------------------------------------
-- Adds after opening again
-----------------------------------------------------------------------------------------

/-- A request that reaches its chain is added exactly if it passes the tests behind the lookup. -/
theorem addStream_ok_iff {request : AddRequest} {stream : TadmaStream} {idx : Nat}
    {found : Option StreamEntry} (reaches : AddReaches lp st request stream idx found)
    : (∃ next, axienetTadmaAddStream lp st request = some (.ok (), next))
      ↔ Adds lp st request stream found := by
  constructor
  · rintro ⟨next, step⟩
    obtain ⟨⟨outcome, counted⟩, entry, done⟩ := Option.map_eq_some_iff.mp step
    rcases newStreamEntry_cases entry with ⟨err, rfl, rfl⟩ | ⟨stream', idx', found', reaches', ends⟩
    · cases done
    · obtain rfl := Option.some.inj (reaches.copied.symm.trans reaches'.copied)
      obtain rfl := Option.some.inj (reaches.bucket.symm.trans reaches'.bucket)
      obtain rfl := reaches.lookup.symm.trans reaches'.lookup
      rcases ends with ⟨err, rfl, rfl⟩ | ⟨adds, -, -⟩
      · cases done
      · exact adds
  · intro adds
    rw [axienetTadmaAddStream, newStreamEntry_adds reaches adds]
    exact ⟨_, rfl⟩

theorem startCounters_regs (st : TadmaState) (regs : Nat → U32) (start : Byte)
    : startCounters { st with regs } start = { startCounters st start with regs } := by
  unfold startCounters
  split <;> rfl

theorem countSid_regs (found : Option StreamEntry) (st : TadmaState) (regs : Nat → U32)
    : countSid found { st with regs } = { countSid found st with regs } := by
  cases found <;> rfl

theorem newStreamEntry_regs (st : TadmaState) (regs : Nat → U32) (request : AddRequest)
    : newStreamEntry lp { st with regs } request
      = (newStreamEntry lp st request).map fun out => (out.1, { out.2 with regs }) := by
  unfold newStreamEntry
  cases request.stream with
  | none => rfl
  | some stream =>
      by_cases count : stream.count > maxTrigCount
      · simp only [if_pos count, Option.map_some]
      · simp only [if_neg count, startCounters_regs]
        generalize startCounters st stream.start = st
        cases tadmaBucket lp stream.key.hashTag with
        | none => rfl
        | some idx =>
            have sid : ∀ found, entrySid found { st with regs } = entrySid found st := by
              intro found
              cases found <;> rfl
            simp only [Option.map_some, countSid_regs, sid]
            generalize tadmaHashLookupStream (st.streamHash idx) stream.key.hashTag = found
            split_ifs <;> rfl

/-- The registers have no part in an add. -/
theorem addStream_regs (st : TadmaState) (regs : Nat → U32) (request : AddRequest)
    : axienetTadmaAddStream lp { st with regs } request
      = (axienetTadmaAddStream lp st request).map fun out => (out.1, { out.2 with regs }) := by
  unfold axienetTadmaAddStream
  rw [newStreamEntry_regs, Option.map_map, Option.map_map]
  congr 1
  funext ⟨outcome, counted⟩
  cases outcome <;> rfl

theorem addResults_regs (st : TadmaState) (regs : Nat → U32) (requests : List AddRequest)
    : addResults lp { st with regs } requests = addResults lp st requests := by
  induction requests generalizing st with
  | nil => rfl
  | cons request rest ih =>
      unfold addResults
      rw [addStream_regs]
      cases axienetTadmaAddStream lp st request with
      | none => rfl
      | some out => exact congrArg (_ :: ·) (ih out.2)

/-- Results that begin with a success are those of a first request that is added. -/
theorem addResults_head {st : TadmaState} {request : AddRequest} {rest : List AddRequest}
    {others : List (Option (Except Errno Unit))}
    (same : addResults lp st (request :: rest) = some (.ok ()) :: others)
    : ∃ next, axienetTadmaAddStream lp st request = some (.ok (), next) := by
  unfold addResults at same
  cases step : axienetTadmaAddStream lp st request with
  | none =>
      rw [step] at same
      cases (List.cons.inj same).1
  | some out =>
      obtain ⟨result, next⟩ := out
      rw [step] at same
      cases (List.cons.inj same).1
      exact ⟨next, rfl⟩

/-- The next of a row of requests for one pair: another trigger each time. -/
def anotherTrigger (key : StreamKey) (i : Nat) : AddRequest :=
  .of ⟨key.ip, key.comId, BitVec.ofNat 32 i, 0, 0⟩

/-- The next request is for the first stream id, and not for what was added last. -/
def TakesFirst (st : TadmaState) (idx : Nat) (tag : HashTag) (i : Nat) : Prop :=
  tadmaHashLookupStream (st.streamHash idx) tag = none ∧ st.getSid = 0
  ∨ ∃ e, tadmaHashLookupStream (st.streamHash idx) tag = some e
    ∧ e.sid = 0 ∧ e.tticks ≠ BitVec.ofNat 32 i

theorem numStreams_pos : 0 < lp.numStreams := by
  rcases Nat.eq_zero_or_pos lp.numStreams with none | some
  · have bit := lp.lowestBit.1
    rw [none, Nat.zero_testBit] at bit
    cases bit
  · exact some

/-- Such a request is added exactly if there is a slot, and then the one behind it is such a request
as well.
-/
theorem takesFirst_add {key : StreamKey} {idx i : Nat}
    (bucket : tadmaBucket lp key.hashTag = some idx) (takes : TakesFirst st idx key.hashTag i)
    : ((∃ next, axienetTadmaAddStream lp st (anotherTrigger key i) = some (.ok (), next))
        ↔ st.getSfm.toNat < lp.numEntries)
      ∧ ∀ next, axienetTadmaAddStream lp st (anotherTrigger key i) = some (.ok (), next)
        → TakesFirst next idx key.hashTag (i + 1)
          ∧ next.getSfm.toNat = st.getSfm.toNat + 1 := by
  let stream : TadmaStream := ⟨key.ip, key.comId, BitVec.ofNat 32 i, 0, 0⟩
  let found := tadmaHashLookupStream (st.streamHash idx) key.hashTag
  have reaches : AddReaches lp st (anotherTrigger key i) stream idx found :=
    ⟨rfl, (by decide : (0 : U32) ≤ maxTrigCount), bucket, rfl⟩
  have start : startCounters st stream.start = st := if_neg (fun differ => differ rfl)
  have sid : entrySid found st = 0 := by
    rcases takes with ⟨none, fresh⟩ | ⟨e, looked, zero, -⟩
    · simp only [found, none, entrySid, fresh]
      rfl
    · simp only [found, looked, entrySid, zero]
  have new : (found.any fun e => e.count == stream.count && e.tticks == stream.trigger)
      = false := by
    rcases takes with ⟨none, -⟩ | ⟨e, looked, -, differ⟩
    · simp only [found, none, Option.any_none]
    · simp [found, looked, stream, differ]
  have adds : Adds lp st (anotherTrigger key i) stream found ↔ st.getSfm.toNat < lp.numEntries := by
    constructor
    · intro adds
      have sfm := adds.sfm
      rwa [start] at sfm
    · intro room
      refine ⟨rfl, new, ?_, ?_⟩
      · rw [start, sid]
        exact numStreams_pos
      · rwa [start]
  refine ⟨(addStream_ok_iff reaches).trans adds, fun next step => ?_⟩
  have room := adds.mp ((addStream_ok_iff reaches).mp ⟨next, step⟩)
  rw [axienetTadmaAddStream, newStreamEntry_adds reaches (adds.mpr room), start] at step
  obtain rfl := (Prod.mk.inj (Option.some.inj step)).2
  refine ⟨Or.inr ⟨stream.entry found st, ?_, sid, ?_⟩,
    counter_succ (counter_more room lp.numEntries_lt)⟩
  · simp [tadmaHashLookupStream, Chains.push, TadmaStream.entry, stream, TadmaStream.key,
      hashTagEqual_refl]
  · simp [TadmaStream.entry, stream, BitVec.ofNat_add]

/-- A row of requests is added exactly if there are slots for all of them, by induction on it. -/
theorem addResults_row {key : StreamKey} {idx : Nat}
    (bucket : tadmaBucket lp key.hashTag = some idx) (first len : Nat)
    (takes : TakesFirst st idx key.hashTag first) (bound : st.getSfm.toNat ≤ lp.numEntries)
    : addResults lp st ((List.range' first len).map (anotherTrigger key))
        = List.replicate len (some (.ok ()))
      ↔ st.getSfm.toNat + len ≤ lp.numEntries := by
  induction len generalizing st first with
  | zero => simpa [addResults] using bound
  | succ len ih =>
      obtain ⟨added, rest⟩ := takesFirst_add bucket takes
      simp only [List.range'_succ, List.map_cons, List.replicate_succ, addResults]
      by_cases room : st.getSfm.toNat < lp.numEntries
      · obtain ⟨next, step⟩ := added.mpr room
        obtain ⟨again, counted⟩ := rest next step
        simp only [step, List.cons.injEq, true_and]
        rw [ih (first + 1) again (by omega), counted]
        omega
      · refine iff_of_false (fun same => room (added.mp ?_)) (by omega)
        exact addResults_head same

/-- What is left in an old table shows in an add of it: opened for the first time the driver takes
it for new.
-/
theorem addResults_left (inv : TableInv lp st) (left : st.entries lp ≠ [])
    : ∃ request, (∃ next, axienetTadmaAddStream lp (openStreamTable .loaded) request
          = some (.ok (), next))
        ∧ ∀ getSid getSfm active regs next, axienetTadmaAddStream lp
            { streamHash := st.streamHash, getSid, getSfm, activeSfm := active, regs } request
          ≠ some (.ok (), next) := by
  obtain ⟨e, live⟩ := List.exists_mem_of_ne_nil _ left
  obtain ⟨idx, member⟩ := inv.consistent.chained.mem_entries.mp live
  -- The lookup meets the head of the chain first, and finds it for its own tag.
  obtain ⟨head, rest, chain⟩ := List.exists_cons_of_ne_nil (List.ne_nil_of_mem member)
  have first : head ∈ st.streamHash idx := by
    rw [chain]
    exact List.mem_cons_self
  obtain ⟨key, tag⟩ := inv.consistent.tagged idx head first
  have bucket : tadmaBucket lp key.hashTag = some idx := tag ▸ inv.consistent.chained.bucket first
  have found : tadmaHashLookupStream (st.streamHash idx) key.hashTag = some head := by
    rw [tadmaHashLookupStream, chain, ← tag]
    exact List.find?_cons_of_pos (hashTagEqual_refl _)
  let stream : TadmaStream := ⟨key.ip, key.comId, head.tticks, head.count, 0⟩
  have start : ∀ st, startCounters st stream.start = st := fun _ => if_neg fun differ => differ rfl
  refine ⟨.of stream, ?_, ?_⟩
  · have reaches : AddReaches lp (openStreamTable .loaded) (.of stream) stream idx none :=
      ⟨rfl, inv.count idx head first, bucket, rfl⟩
    refine (addStream_ok_iff reaches).mpr ⟨rfl, rfl, ?_, ?_⟩
    · rw [start]
      exact numStreams_pos
    · rw [start]
      exact Nat.zero_lt_of_lt (tadmaBucket_lt bucket)
  · intro getSid getSfm active regs next step
    have reaches : AddReaches lp
        { streamHash := st.streamHash, getSid, getSfm, activeSfm := active, regs } (.of stream)
        stream idx (some head) :=
      ⟨rfl, inv.count idx head first, bucket, found⟩
    have new := ((addStream_ok_iff reaches).mp ⟨next, step⟩).new
    simp [stream] at new

-----------------------------------------------------------------------------------------
-- The table after opening again
-----------------------------------------------------------------------------------------

theorem openStreamTable_fetch (st : TadmaState)
    : OnlyBestEffort lp (openStreamTable st).activeSfm (openStreamTable st).regs
      ↔ OnlyBestEffort lp .upper st.regs := by
  have kept : ∀ slot, slot ≠ stridBe
      → sfmRead .upper (openStreamTable st).regs slot = sfmRead .upper st.regs slot := by
    intro slot other
    let regs := tadmaIow st.regs xtadmaIntEnOffset intEnable
    have written : sfmRead .upper (tadmaSfmProgram .upper regs stridBe nsecPerMsec 0) slot
        = sfmRead .upper regs slot :=
      (sfm_independent .upper).other _ _ _ _ (Ne.symm other)
    rw [openStreamTable, sfmRead_iow (by decide)]
    exact written.trans (sfmRead_iow (by decide))
  refine forall₂_congr fun slot _ => ⟨fun clear other => ?_, fun clear other => ?_⟩
  · rw [← kept slot other]
    exact clear other
  · exact (congrArg (·.cfg &&& xtadmaStrEntryValid) (kept slot other)).trans (clear other)

theorem reopenStreamTable_fetch (hashInit : Bool) (st : TadmaState)
    : OnlyBestEffort lp (reopenStreamTable hashInit st).activeSfm
        (reopenStreamTable hashInit st).regs
      ↔ OnlyBestEffort lp .upper st.regs := by
  rw [← openStreamTable_fetch]
  cases hashInit <;> rfl

/-- An empty table is as good as a new one. -/
theorem TableInv.reopened (inv : TableInv lp st) {hashInit : Bool}
    (table : hashInit = true ∨ st.entries lp = [])
    : reopenStreamTable hashInit st = openStreamTable st := by
  unfold reopenStreamTable
  split
  · rfl
  · rename_i kept
    have nothing : st.streamHash = fun _ => [] := by
      funext i
      refine List.eq_nil_iff_forall_not_mem.mpr fun e member => ?_
      have live := inv.consistent.chained.mem_entries.mpr ⟨i, member⟩
      rw [table.resolve_left kept] at live
      exact absurd live List.not_mem_nil
    rw [nothing]
    rfl

theorem TableInv.no_old_table (inv : TableInv lp st) {hashInit : Bool}
    (adds : ∀ requests, addResults lp (reopenStreamTable hashInit st) requests
      = addResults lp (openStreamTable .loaded) requests)
    : hashInit = true ∨ st.entries lp = [] := by
  by_contra old
  obtain ⟨kept, left⟩ := not_or.mp old
  obtain ⟨request, ⟨next, fresh⟩, refused⟩ := addResults_left inv left
  have same := adds [request]
  rw [reopenStreamTable, if_neg kept] at same
  have first : addResults lp (openStreamTable .loaded) [request] = [some (.ok ())] := by
    simp only [addResults, fresh]
  rw [first] at same
  obtain ⟨next, step⟩ := addResults_head same
  exact refused _ _ _ _ next step

theorem first_strid (packet : TrdpPacket)
    : tadmaGetStrid lp (openStreamTable .loaded) packet = some 0 :=
  if_pos rfl

/-- Opening leaves the stream ids alone exactly if there are none: in a new table no other is found.
-/
theorem opened_strid_iff (st : TadmaState)
    : (∀ packet, tadmaGetStrid lp (openStreamTable st) packet
        = tadmaGetStrid lp (openStreamTable .loaded) packet)
      ↔ st.getSid = 0 := by
  refine ⟨fun same => ?_, fun zero packet => (if_pos zero).trans (first_strid packet).symm⟩
  by_contra counted
  have answer := same ⟨groupIp, #v[0, 0, 0, 0]⟩
  have counts : (openStreamTable st).getSid ≠ 0 := counted
  rw [tadmaGetStrid, if_neg counts, first_strid] at answer
  obtain ⟨idx, -, answer⟩ := Option.map_eq_some_iff.mp answer
  exact Int.noConfusion answer

/-- Without stream ids a new table takes as many adds as after the first open exactly if no slot is
counted.
-/
theorem TableInv.opened_adds_iff (inv : TableInv lp st) (zero : st.getSid = 0)
    : (∀ requests, addResults lp (openStreamTable st) requests
        = addResults lp (openStreamTable .loaded) requests)
      ↔ st.getSfm = 0 := by
  constructor
  · intro same
    by_contra counted
    obtain ⟨key, idx, bucket⟩ := inv.chain counted
    have fresh : TakesFirst (openStreamTable .loaded) idx key.hashTag 0 := .inl ⟨rfl, rfl⟩
    have again : TakesFirst (openStreamTable st) idx key.hashTag 0 := .inl ⟨rfl, zero⟩
    have row := same ((List.range' 0 lp.numEntries).map (anotherTrigger key))
    rw [(addResults_row bucket 0 _ fresh (Nat.zero_le _)).mpr (Nat.zero_add _).le] at row
    have full : st.getSfm.toNat + lp.numEntries ≤ lp.numEntries :=
      (addResults_row bucket 0 _ again inv.bound).mp row
    have none : st.getSfm.toNat = 0 := by omega
    exact counted (BitVec.eq_of_toNat_eq none)
  · intro none requests
    have cleared : openStreamTable st
        = { openStreamTable .loaded with regs := (openStreamTable st).regs } := by
      simp only [openStreamTable, tadmaSfmHashInit, tadmaSfmInit, zero, none, TadmaState.loaded]
    rw [cleared]
    exact addResults_regs _ _ requests

-----------------------------------------------------------------------------------------
-- The rings
-----------------------------------------------------------------------------------------

variable {s : StreamSys} {d next : TadmaDriver lp}

/-- All packets of a ring are freed exactly if it is empty. -/
theorem RingRight.freed_iff (right : RingRight n s.atRest)
    : (s.freed.length ≤ s.queued.length)
      ∧ (s.freed.length = s.queued.length ↔ s.ring.txBdTail = s.ring.txBdHead)
      ∧ (s.ring.txBdTail = s.ring.txBdHead → s.freed = s.queued.map SkBuff.addr) := by
  obtain ⟨ent, pub, vis, rd, inv⟩ := right
  obtain ⟨count, bound, freed, fits, most⟩ := inv.freed
  obtain ⟨-, published, -⟩ := inv.total rfl
  have reaped := inv.doneCounted
  have counted := inv.countedFetched
  have fetched := inv.fetchedVis
  have visible := inv.visPub
  have used := inv.used
  have head := inv.head
  have tail := inv.tail
  simp only [StreamSys.atRest] at *
  have length : s.freed.length = count := by
    rw [freed, List.length_map, List.length_take, Nat.min_eq_left bound]
  have whole : (s.queued.take s.queued.length).flatMap SkBuff.descs = s.descs := by
    rw [List.take_length, StreamSys.descs]
  have all : s.ring.txBdTail = s.ring.txBdHead → count = s.queued.length := by
    intro empty
    rw [empty, Nat.add_sub_cancel_left, Nat.mod_self] at used
    refine Nat.le_antisymm bound (most _ (Nat.le_refl _) ?_)
    rw [whole]
    omega
  refine ⟨length ▸ bound, ⟨fun same => ?_, fun empty => length.trans (all empty)⟩, fun empty => ?_⟩
  · rw [← length, same, whole] at fits
    rw [head, tail]
    congr 1
    omega
  · rw [freed, all empty, List.take_length]

/-- What runs keep of the driver. -/
structure DriverInv (n : Nat) (d : TadmaDriver lp) : Prop where
  table : TableInv lp d.table
  rings : ∀ sid, RingRight n (d.device.streams sid).atRest

theorem DriverInv.ring (inv : DriverInv n d) (pow : n = 2 ^ k) (small : n ≤ 256)
    {sid : Fin lp.numStreams} {event : RingEvent}
    (room : RoomForPacket n (d.device.streams sid) event)
    : DriverInv n
        { d with
          device := { d.device with
            streams := interleave (ringStep n) d.device.streams (sid, event) } } where
  table := inv.table
  rings :=
    interleave_invariant (ringStep_keeps pow small) _ (sid, event) inv.rings room

theorem DriverInv.step (inv : DriverInv n d) (pow : n = 2 ^ k) (small : n ≤ 256)
    {event : DriverEvent lp.numStreams} (room : RoomForXmit n d event)
    (step : driverStep lp n d event = some next)
    : DriverInv n next := by
  cases event with
  | ioctl op =>
      obtain ⟨table, done, rfl⟩ := Option.map_eq_some_iff.mp step
      exact ⟨inv.table.step done, inv.rings⟩
  | xmit packet skb =>
      obtain ⟨sid, found, step⟩ := Option.bind_eq_some_iff.mp step
      split at step
      · obtain rfl := Option.some.inj step
        exact ⟨inv.table, inv.rings⟩
      · split at step
        · rename_i bound
          obtain rfl := Option.some.inj step
          have named : ((sid.toNat : Nat) : Int) = sid := Int.toNat_of_nonneg (by omega)
          have fits := room ⟨sid.toNat, bound⟩ (found.trans (congrArg some named.symm))
          unfold deviceStep
          dsimp only
          split
          · exact inv.ring pow small fits
          · exact inv
        · cases step
  | fetchSlot sid =>
      obtain rfl := Option.some.inj step
      exact inv.ring pow small trivial
  | fetchNext sid =>
      obtain rfl := Option.some.inj step
      exact inv.ring pow small trivial
  | irq status =>
      obtain rfl := Option.some.inj step
      refine ⟨inv.table, fun sid => ?_⟩
      unfold deviceStep
      dsimp only
      split
      · exact ringStep_keeps pow small _ (.irq status) (inv.rings sid) trivial
      · exact inv.rings sid

/-- Everything accepted has been freed exactly if all rings are empty. -/
theorem DriverInv.freed_iff (inv : DriverInv n d)
    : d.freed.Perm d.accepted
      ↔ ∀ sid, (d.device.streams sid).ring.txBdTail = (d.device.streams sid).ring.txBdHead := by
  constructor
  · intro perm sid
    have total := perm.length_eq
    simp only [TadmaDriver.freed, TadmaDriver.accepted, List.length_append, List.length_flatMap,
      List.length_map, Nat.add_left_cancel_iff, ← Fin.sum_univ_def] at total
    have each := (Finset.sum_eq_sum_iff_of_le fun sid _ => (inv.rings sid).freed_iff.1).mp total
    exact (inv.rings sid).freed_iff.2.1.mp (each sid (Finset.mem_univ sid))
  · intro empty
    have same : ∀ sid, (d.device.streams sid).freed
        = (d.device.streams sid).queued.map SkBuff.addr :=
      fun sid => (inv.rings sid).freed_iff.2.2 (empty sid)
    simp only [TadmaDriver.freed, TadmaDriver.accepted, same]
    exact List.Perm.refl _

/-- Stopping and opening frees nothing. -/
theorem reopen_packets (hashInit : Bool) (d : TadmaDriver lp)
    : (d.reopen hashInit).freed = d.freed ∧ (d.reopen hashInit).accepted = d.accepted := by
  have reached : ∀ sid : Fin lp.numStreams, sid.val < lp.numStreams + 1 := fun sid => by omega
  simp only [TadmaDriver.freed, TadmaDriver.accepted, TadmaDriver.reopen,
    TadmaDevice.axienetTadmaOpen, TadmaDevice.axienetTadmaStop, if_true, reached, StreamSys.freed,
    true_and]

/-- After every run from the first open in which each transmission has room, the driver that is
stopped and opened again is as after the first open exactly if it was quiet.
-/
theorem reopening_like_first (pow : n = 2 ^ k) (small : n ≤ 256)
    {rings : Fin lp.numStreams → StreamRing} (opened : ∀ sid, (rings sid).Opened)
    {events : List (DriverEvent lp.numStreams)}
    (room : Along (faulting (driverStep lp n)) (BeforeFault (RoomForXmit n))
      (some (.first lp rings)) events)
    (reached : run (faulting (driverStep lp n)) (some (.first lp rings)) events = some d)
    (hashInit : Bool)
    : LikeFirst lp (d.reopen hashInit) ↔ Quiet lp hashInit d := by
  have pos : 0 < n := pow ▸ Nat.two_pow_pos k
  have start : DriverInv n (.first lp rings) :=
    ⟨.first, fun sid => ⟨0, 0, 0, 0, RaceInv.start (opened sid) pos⟩⟩
  have inv : DriverInv n d :=
    faulting_invariant (fun _ _ _ inv room step => inv.step pow small room step) start room reached
  obtain ⟨freed, accepted⟩ := reopen_packets hashInit d
  have table : hashInit = true ∨ d.table.entries lp = []
      → (d.reopen hashInit).table = openStreamTable d.table := inv.table.reopened
  constructor
  · intro like
    have old := inv.table.no_old_table like.adds
    have sid := (opened_strid_iff d.table).mp (table old ▸ like.strid)
    have sfm := (inv.table.opened_adds_iff sid).mp (table old ▸ like.adds)
    refine ⟨old, sid, sfm, (reopenStreamTable_fetch hashInit d.table).mp like.fetch, ?_⟩
    apply inv.freed_iff.mp
    rw [← freed, ← accepted]
    exact like.freed
  · intro quiet
    refine ⟨?_, (reopenStreamTable_fetch hashInit d.table).mpr quiet.fetch, ?_, ?_⟩
    · rw [table quiet.table]
      exact (opened_strid_iff d.table).mpr quiet.sid
    · rw [freed, accepted]
      exact inv.freed_iff.mpr quiet.drained
    · rw [table quiet.table]
      exact (inv.table.opened_adds_iff quiet.sid).mpr quiet.sfm

def firstDriver : TadmaDriver defaultLocal := .first defaultLocal fun _ => freshRing

def driverAfter (events : List (DriverEvent defaultLocal.numStreams)) : TadmaDriver defaultLocal :=
  (run (faulting (driverStep defaultLocal 4)) (some firstDriver) events).getD firstDriver

/-- A packet that is sent and reaped, an add that gets no memory, and the schedule turned off. -/
def leftQuiet : List (DriverEvent defaultLocal.numStreams) :=
  [.xmit packet1000 (smallSkb 7), .fetchSlot ⟨0, by decide⟩, .fetchNext ⟨0, by decide⟩, .irq 1,
    .ioctl (.strAdd ⟨some ⟨groupIp, 1000, 100000, 1, 1⟩, false⟩), .ioctl .off]

theorem leftQuiet_reached
    : run (faulting (driverStep defaultLocal 4)) (some firstDriver) leftQuiet
      = some (driverAfter leftQuiet) := rfl

theorem reopening_like_first_quiet
    : LikeFirst defaultLocal ((driverAfter leftQuiet).reopen true) := by
  have room : Along (faulting (driverStep defaultLocal 4)) (BeforeFault (RoomForXmit 4))
      (some firstDriver) leftQuiet := by
    decide +kernel
  refine (reopening_like_first (k := 2) rfl (by decide) (fun _ => freshRing_opened) room
    leftQuiet_reached true).mpr ⟨.inl rfl, ?_, ?_, ?_, ?_⟩ <;> decide +kernel

/-- Two streams under a schedule, and a packet that is not fetched. -/
def leftScheduled : List (DriverEvent defaultLocal.numStreams) :=
  [.ioctl (.strAdd (addAt 1000 100000 1)), .ioctl (.strAdd (addAt 1001 200000 0)), .ioctl .progAll,
    .xmit packet1000 (smallSkb 7)]

/-- After that packets of no table are dropped, the second stream is still fetched, the packet is
never freed, and the seventh of a row of adds is refused.
-/
theorem reopening_unlike_first
    : run (faulting (driverStep defaultLocal 4)) (some firstDriver) leftScheduled
        = some (driverAfter leftScheduled)
      ∧ let d := (driverAfter leftScheduled).reopen true
        ¬ LikeFirst defaultLocal d
        ∧ tadmaGetStrid defaultLocal d.table packet1000 = some (-1)
        ∧ ¬ OnlyBestEffort defaultLocal d.table.activeSfm d.table.regs
        ∧ d.accepted = [7] ∧ d.freed = []
        ∧ (addResults defaultLocal d.table
            ((List.range' 0 7).map (anotherTrigger ⟨groupIp, 1000⟩))).getLast?
          = some (some (.error .einval)) := by
  refine ⟨rfl, fun like => ?_, ?_, ?_, ?_, ?_, ?_⟩
  · have same := like.strid packet1000
    revert same
    decide +kernel
  all_goals decide +kernel

end TsnTrdp.Tadma
