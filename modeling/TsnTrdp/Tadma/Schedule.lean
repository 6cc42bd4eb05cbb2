import TsnTrdp.Tadma.Classification
import TsnTrdp.Lib.Slots

/-! The schedule that `axienet_tadma_program` writes into the fetch memory, against the
streams that packets are queued into. A fetch entry carries its own slot number as stream
id, so the two agree as long as every stream id handed out is that of its slot.
-/

namespace TsnTrdp.Tadma

open TsnTrdp Run Slots

variable {lp : TadmaLocal} {st st' : TadmaState}

/-- The fetch entry of a slot. -/
def sfmRead (active : Sfm) (regs : Nat → U32) (slot : Nat) : SfmEntry :=
  ⟨regs (sfmEntryOffset active slot), regs (sfmEntryOffset active slot + 4)⟩

def sfmWrite (active : Sfm) (regs : Nat → U32) (slot : Nat) (sfm : SfmEntry) : Nat → U32 :=
  tadmaIow (tadmaIow regs (sfmEntryOffset active slot) sfm.tticks)
    (sfmEntryOffset active slot + 4) sfm.cfg

theorem sfm_independent (active : Sfm) : Independent (sfmRead active) (sfmWrite active) where
  same := by
    intro regs slot sfm
    simp [sfmRead, sfmWrite, tadmaIow]
  other := by
    intro regs slot other sfm differ
    have apart : sfmEntryOffset active other ≠ sfmEntryOffset active slot
        ∧ sfmEntryOffset active other ≠ sfmEntryOffset active slot + 4
        ∧ sfmEntryOffset active other + 4 ≠ sfmEntryOffset active slot := by
      cases active <;> simp only [sfmEntryOffset, entrySize] <;> omega
    obtain ⟨same, high, low⟩ := apart
    simp [sfmRead, sfmWrite, tadmaIow, same, high, low]

/-- Control registers lie below the fetch memory. -/
theorem sfmRead_iow {active : Sfm} {regs : Nat → U32} {slot offset : Nat} {value : U32}
    (control : offset < xtadmaUsfmOffset)
    : sfmRead active (tadmaIow regs offset value) slot = sfmRead active regs slot := by
  have apart : sfmEntryOffset active slot ≠ offset ∧ sfmEntryOffset active slot + 4 ≠ offset := by
    cases active <;> simp only [sfmEntryOffset, xtadmaUsfmOffset, xtadmaLsfmOffset] at * <;> omega
  simp [sfmRead, tadmaIow, apart.1, apart.2]

variable {sid : Nat} {tticks count : U32}

/-- The configuration word of a fetch entry, field by field. -/
theorem sfmWords_cfg (sid : Nat) (tticks count : U32)
    : (sfmWords sid tticks count).cfg
      = (if count ≠ 0 then (BitVec.ofNat 32 sid &&& xtadmaStrIdMask) &&& ~~~xtadmaStrContFetchEn
          else (BitVec.ofNat 32 sid &&& xtadmaStrIdMask) ||| xtadmaStrContFetchEn)
        ||| xtadmaStrEntryValid
        ||| (((if count > 0 then count - 1 else count) <<< xtadmaStrNumFrmShift)
          &&& xtadmaStrNumFrmMask) := by
  simp only [sfmWords, xtadmaStrIdShift, qtSt, BitVec.ofNat_eq_ofNat, BitVec.zero_and,
    BitVec.zero_or, BitVec.shiftLeft_zero, BitVec.zero_shiftLeft, BitVec.or_zero]

theorem sfmWords_strId
    : (sfmWords sid tticks count).cfg &&& xtadmaStrIdMask
      = BitVec.ofNat 32 sid &&& xtadmaStrIdMask := by
  rw [sfmWords_cfg, Field.or_and (Field.masked_disjoint (by decide)), Field.or_and (by decide)]
  split
  · rw [Field.clear_and (by decide), BitVec.and_assoc, BitVec.and_self]
  · rw [Field.or_and (by decide), BitVec.and_assoc, BitVec.and_self]

/-- The stream id that the words carry is the low byte of the number. -/
theorem sfmWords_sid
    : (((sfmWords sid tticks count).cfg &&& xtadmaStrIdMask) >>> xtadmaStrIdShift).toNat
      = sid % 256 := by
  rw [sfmWords_strId]
  simp only [xtadmaStrIdShift, xtadmaStrIdMask, BitVec.ushiftRight_zero, BitVec.toNat_and,
    BitVec.toNat_ofNat]
  rw [show (0xFF : U32).toNat = 2 ^ 8 - 1 by decide, Nat.and_two_pow_sub_one_eq_mod]
  omega

theorem sfmWords_valid : (sfmWords sid tticks count).cfg &&& xtadmaStrEntryValid ≠ 0 := by
  rw [sfmWords_cfg, Field.or_and (Field.masked_disjoint (by decide)), Field.or_and_self]
  decide

theorem sfmWords_continuous
    : (sfmWords sid tticks count).cfg &&& xtadmaStrContFetchEn ≠ 0 ↔ count = 0 := by
  rw [sfmWords_cfg, Field.or_and (Field.masked_disjoint (by decide)), Field.or_and (by decide)]
  by_cases none : count = 0
  · rw [if_neg (by simpa using none), Field.or_and_self]
    simp [none, xtadmaStrContFetchEn]
  · rw [if_pos none, Field.clear_and_self]
    exact iff_of_false (fun set => set rfl) none

theorem sfmWords_frames (small : count ≤ maxTrigCount) (some : count ≠ 0)
    : ((sfmWords sid tticks count).cfg &&& xtadmaStrNumFrmMask) >>> xtadmaStrNumFrmShift
      = count - 1 := by
  have below : Field.Disjoint ((if count ≠ 0
        then (BitVec.ofNat 32 sid &&& xtadmaStrIdMask) &&& ~~~xtadmaStrContFetchEn
        else (BitVec.ofNat 32 sid &&& xtadmaStrIdMask) ||| xtadmaStrContFetchEn)
        ||| xtadmaStrEntryValid) xtadmaStrNumFrmMask := by
    unfold Field.Disjoint
    rw [Field.or_and (by decide), if_pos some, Field.clear_and (by decide)]
    exact Field.masked_disjoint (by decide)
  rw [sfmWords_cfg, BitVec.or_comm, Field.or_and below, BitVec.and_assoc, BitVec.and_self]
  have values : count = 1 ∨ count = 2 ∨ count = 3 ∨ count = 4 := by
    simp only [maxTrigCount] at small
    bv_omega
  rcases values with rfl | rfl | rfl | rfl <;> decide

/-- What is asked of the fetch entry of a live table entry. -/
structure FetchesFor (sfm : SfmEntry) (e : StreamEntry) : Prop where
  valid : sfm.cfg &&& xtadmaStrEntryValid ≠ 0
  strId : ((sfm.cfg &&& xtadmaStrIdMask) >>> xtadmaStrIdShift).toNat = e.sid
  tticks : sfm.tticks = e.tticks / 8
  continuous : sfm.cfg &&& xtadmaStrContFetchEn ≠ 0 ↔ e.count = 0
  frames
    : e.count ≠ 0
      → (sfm.cfg &&& xtadmaStrNumFrmMask) >>> xtadmaStrNumFrmShift = e.count - 1

theorem fetchesFor_words {e : StreamEntry} (small : e.count ≤ maxTrigCount)
    (inStep : e.sid = e.sfm % 256)
    : FetchesFor (sfmWords e.sfm e.tticks e.count) e := by
  exact ⟨sfmWords_valid, sfmWords_sid.trans inStep.symm, rfl, sfmWords_continuous,
    sfmWords_frames small⟩

/-- A flush leaves every fetch entry cleared. -/
theorem flush_clear {slot : Nat} (bound : slot < lp.numEntries)
    : sfmRead (axienetTadmaFlushStream lp st).activeSfm (axienetTadmaFlushStream lp st).regs slot
      = ⟨0, 0⟩ := by
  have nodup : ((List.range lp.numEntries).map id).Nodup := by
    rw [List.map_id]
    exact List.nodup_range
  have cleared
      : sfmRead st.activeSfm
          (writeAll (sfmWrite st.activeSfm) id (fun _ => ⟨0, 0⟩)
            (tadmaIow st.regs xtadmaCrOffset 0) (List.range lp.numEntries))
          (id slot)
        = ⟨0, 0⟩ :=
    (sfm_independent st.activeSfm).writeAll_same nodup (List.mem_range.mpr bound)
  exact cleared

/-- What is asked of a programmed driver: each live entry's slot fetches the stream that
packets of its pair are queued into, as the entry says, and each valid slot is that of
exactly one live entry.
-/
structure Scheduled (lp : TadmaLocal) (st : TadmaState) : Prop where
  fetches
    : ∀ e ∈ st.entries lp,
        e.sfm < lp.numEntries ∧ FetchesFor (sfmRead st.activeSfm st.regs e.sfm) e
  queues
    : ∀ e ∈ st.entries lp, ∀ packet : TrdpPacket, packet.key.hashTag = e.hashtag
      → tadmaGetStrid lp st packet = some (e.sid : Int)
  owned
    : ∀ slot < lp.numEntries,
        (sfmRead st.activeSfm st.regs slot).cfg &&& xtadmaStrEntryValid ≠ 0
        → (st.entries lp).countP (·.sfm == slot) = 1

/-- Each add that stores an entry takes the stream id that is the low byte of its slot; the
counters are reset, or `get_sid` runs over, only while the table is empty.
-/
def AddInStep (lp : TadmaLocal) (st : TadmaState) (request : AddRequest) : Prop :=
  ∀ stream ∈ request.stream, stream.count ≤ maxTrigCount
    → (stream.start ≠ 0 → st.entries lp = [])
      ∧ ∀ i ∈ tadmaBucket lp stream.key.hashTag,
        (tadmaHashLookupStream (st.streamHash i) stream.key.hashTag = none
          → st.getSid + 1 = 0 → st.entries lp = [])
        ∧ (Adds lp st request stream
            (tadmaHashLookupStream (st.streamHash i) stream.key.hashTag)
          → entrySid (tadmaHashLookupStream (st.streamHash i) stream.key.hashTag)
              (startCounters st stream.start)
            = (startCounters st stream.start).getSfm.toNat % 256)

instance (lp : TadmaLocal) (st : TadmaState) (request : AddRequest)
    : Decidable (AddInStep lp st request) :=
  inferInstanceAs (Decidable (∀ stream ∈ request.stream, _))

/-- Between the flush and the programming: stream ids are in step with the slots, the slots
are distinct and behind the counter, and the fetch memory is still clear.
-/
structure ScheduleInv (lp : TadmaLocal) (st : TadmaState) : Prop extends
    Consistent lp st where
  active : st.entries lp ≠ [] → st.getSid ≠ 0
  inStep : ∀ e ∈ st.entries lp, e.sid = e.sfm % 256
  counts : ∀ e ∈ st.entries lp, e.count ≤ maxTrigCount
  sfms : ((st.entries lp).map StreamEntry.sfm).Nodup
  behind : ∀ e ∈ st.entries lp, e.sfm < st.getSfm.toNat ∧ e.sfm < lp.numEntries
  clear : ∀ slot < lp.numEntries, sfmRead st.activeSfm st.regs slot = ⟨0, 0⟩

theorem ScheduleInv.flushed (consistent : Consistent lp st)
    : ScheduleInv lp (axienetTadmaFlushStream lp st) := by
  have nothing := flush_empty consistent.chained
  have none : (axienetTadmaFlushStream lp st).entries lp = [] := by
    simp [TadmaState.entries, Chains.entries, nothing]
  exact {
    toConsistent := Consistent.empty nothing
    active := fun some => absurd none some
    inStep := by simp [none]
    counts := by simp [none]
    sfms := by simp [none]
    behind := by simp [none]
    clear := fun slot bound => flush_clear bound }

/-- A step that keeps the table and the fetch memory keeps the invariant, unless it sets a
counter back while there are entries.
-/
theorem ScheduleInv.recount (inv : ScheduleInv lp st)
    (table : st'.streamHash = st.streamHash)
    (memory : st'.activeSfm = st.activeSfm ∧ st'.regs = st.regs)
    (forward : st.entries lp ≠ [] → st'.getSid ≠ 0 ∧ st.getSfm.toNat ≤ st'.getSfm.toNat)
    : ScheduleInv lp st' := by
  have same : st'.entries lp = st.entries lp := by
    rw [TadmaState.entries, table]
    rfl
  refine ⟨inv.toConsistent.same table, ?_, ?_, ?_, ?_, ?_, ?_⟩
  · rw [same]
    exact fun some => (forward some).1
  · simpa only [same] using inv.inStep
  · simpa only [same] using inv.counts
  · simpa only [same] using inv.sfms
  · intro e live
    rw [same] at live
    obtain ⟨behind, inRange⟩ := inv.behind e live
    exact ⟨Nat.lt_of_lt_of_le behind (forward (List.ne_nil_of_mem live)).2, inRange⟩
  · rw [memory.1, memory.2]
    exact inv.clear

theorem ScheduleInv.start (inv : ScheduleInv lp st) {start : Byte}
    (reset : start ≠ 0 → st.entries lp = [])
    : ScheduleInv lp (startCounters st start) := by
  by_cases set : start ≠ 0
  · rw [startCounters, if_pos set]
    exact inv.recount rfl ⟨rfl, rfl⟩ fun some => absurd (reset set) some
  · rw [startCounters, if_neg set]
    exact inv

theorem ScheduleInv.added (inv : ScheduleInv lp st) {request : AddRequest}
    {stream : TadmaStream} {idx : Nat} {found : Option StreamEntry}
    (reaches : AddReaches lp st request stream idx found)
    (sid : entrySid found st < lp.numStreams) (sfm : st.getSfm.toNat < lp.numEntries)
    (inStep : entrySid found st = st.getSfm.toNat % 256)
    (table : st'.streamHash = Chains.push st.streamHash idx (stream.entry found st))
    (memory : st'.activeSfm = st.activeSfm ∧ st'.regs = st.regs)
    (counters : st'.getSid = (countSid found st).getSid ∧ st'.getSfm = st.getSfm + 1)
    : ScheduleInv lp st' := by
  have members := mem_entries_push reaches.bucket table
  have slots : st'.getSfm.toNat = st.getSfm.toNat + 1 := by
    rw [counters.2, counter_succ (counter_more sfm lp.numEntries_lt)]
  refine ⟨inv.toConsistent.added st reaches table, ?_, ?_, ?_, ?_, ?_, ?_⟩
  · intro _
    rw [counters.1]
    cases found with
    | none => exact counter_more sid lp.numStreams_lt
    | some e =>
        obtain ⟨member, -⟩ := lookup_some reaches.lookup
        exact inv.active (List.ne_nil_of_mem (inv.chained.mem_entries.mpr ⟨idx, member⟩))
  · intro e live
    rcases (members e).mp live with rfl | live
    · exact inStep
    · exact inv.inStep e live
  · intro e live
    rcases (members e).mp live with rfl | live
    · exact reaches.count
    · exact inv.counts e live
  · exact nodup_sfms_push reaches.bucket table inv.sfms fun e live =>
      Nat.ne_of_lt (inv.behind e live).1
  · intro e live
    rcases (members e).mp live with rfl | live
    · exact ⟨by rw [slots]; exact Nat.lt_succ_self _, sfm⟩
    · obtain ⟨behind, inRange⟩ := inv.behind e live
      exact ⟨by omega, inRange⟩
  · rw [memory.1, memory.2]
    exact inv.clear

/-- Every add in step keeps the invariant, by cases on what it does. -/
theorem addStep_schedules (inv : ScheduleInv lp st) {request : AddRequest}
    (inStep : AddInStep lp st request) (step : addStep lp st request = some st')
    : ScheduleInv lp st' := by
  obtain ⟨out, done, rfl⟩ := Option.map_eq_some_iff.mp step
  obtain ⟨⟨result, next⟩, entry, rfl⟩ := Option.map_eq_some_iff.mp done
  rcases newStreamEntry_cases entry with ⟨err, rfl, rfl⟩ | ⟨stream, idx, found, reaches, outcome⟩
  · exact inv
  · obtain ⟨reset, later⟩ := inStep stream reaches.copied reaches.count
    obtain ⟨runsOver, taken⟩ := later idx reaches.bucket
    rw [reaches.lookup] at runsOver taken
    have started := inv.start reset
    have reaches' : AddReaches lp (startCounters st stream.start) request stream idx found :=
      { reaches with lookup := by rw [startCounters_streamHash]; exact reaches.lookup }
    rcases outcome with ⟨err, rfl, rfl⟩ | ⟨adds, rfl, rfl⟩
    · refine started.recount (countSid_streamHash _ _) ?_ ?_
      · cases found <;> exact ⟨rfl, rfl⟩
      · intro some
        have active := started.active some
        rw [TadmaState.entries, startCounters_streamHash] at some
        have plain : startCounters st stream.start = st :=
          if_neg fun set => some (reset set)
        rw [plain] at active ⊢
        cases found with
        | some e => exact ⟨active, Nat.le_refl _⟩
        | none => exact ⟨fun last => some (runsOver rfl last), Nat.le_refl _⟩
    · refine started.added reaches' adds.sid adds.sfm (taken adds) ?_ ?_ ⟨rfl, rfl⟩
      · simp
      · cases found <;> exact ⟨rfl, rfl⟩

/-- The fetch memory after `axienet_tadma_program`: the live entries' words, each in its
slot.
-/
theorem program_memory (slot : Nat)
    : sfmRead st.activeSfm (axienetTadmaProgram lp st).regs slot
      = sfmRead st.activeSfm
          (writeAll (sfmWrite st.activeSfm) StreamEntry.sfm
            (fun e => sfmWords e.sfm e.tticks e.count) st.regs (st.entries lp))
          slot :=
  (sfmRead_iow (by decide)).trans (sfmRead_iow (by decide))

theorem ScheduleInv.scheduled (inv : ScheduleInv lp st)
    : Scheduled lp (axienetTadmaProgram lp st) := by
  have slots := sfm_independent st.activeSfm
  refine ⟨?_, ?_, ?_⟩
  · intro e live
    change e ∈ st.entries lp at live
    refine ⟨(inv.behind e live).2, ?_⟩
    have words := (program_memory e.sfm).trans (slots.writeAll_same inv.sfms live)
    rw [show (axienetTadmaProgram lp st).activeSfm = st.activeSfm from rfl, words]
    exact fetchesFor_words (inv.counts e live) (inv.inStep e live)
  · intro e live packet tag
    change e ∈ st.entries lp at live
    obtain ⟨i, member⟩ := inv.chained.mem_entries.mp live
    have same : tadmaGetStrid lp (axienetTadmaProgram lp st) packet = tadmaGetStrid lp st packet :=
      rfl
    rw [same]
    exact inv.toConsistent.answers (inv.active (List.ne_nil_of_mem live)) member tag.symm
  · intro slot bound valid
    change (st.entries lp).countP (·.sfm == slot) = 1
    rw [show (axienetTadmaProgram lp st).activeSfm = st.activeSfm from rfl, program_memory] at valid
    by_cases owner : ∃ e ∈ st.entries lp, e.sfm = slot
    · have count : ((st.entries lp).map StreamEntry.sfm).count slot = 1 :=
        List.count_eq_one_of_mem inv.sfms (List.mem_map.mpr owner)
      rw [List.count, List.countP_map] at count
      exact count
    · have unowned : ∀ e ∈ st.entries lp, e.sfm ≠ slot := fun e live same =>
        owner ⟨e, live, same⟩
      rw [slots.writeAll_other unowned, inv.clear slot bound] at valid
      exact absurd rfl valid

/-- Reachable tables are consistent. -/
theorem reached_consistent {ops : List TadmaIoctl}
    (reached : run (faulting (tadmaStep lp)) (some (openStreamTable st)) ops = some st')
    : Consistent lp st' := by
  have keeps : ∀ st op next, Consistent lp st → True → tadmaStep lp st op = some next
      → Consistent lp next := by
    intro st op next inv _ step
    obtain ⟨⟨result, next'⟩, done, rfl⟩ := Option.map_eq_some_iff.mp step
    exact tadmaIoctl_consistent inv done
  exact faulting_invariant keeps (Consistent.empty fun _ => rfl)
    (Along.all (fun _ _ _ _ => trivial) _ _) reached

/-- In every reachable state, after a flush, adds that are each in step, and programming,
the schedule matches the classifier. Witness: the schedule invariant along the adds.
-/
theorem schedule_matches {prior final : TadmaState} {ops : List TadmaIoctl}
    {requests : List AddRequest}
    (before : run (faulting (tadmaStep lp)) (some (openStreamTable st)) ops = some prior)
    (inStep
      : Along (faulting (addStep lp)) (BeforeFault (AddInStep lp))
          (some (axienetTadmaFlushStream lp prior)) requests)
    (reached
      : run (faulting (addStep lp)) (some (axienetTadmaFlushStream lp prior)) requests
        = some final)
    : Scheduled lp (axienetTadmaProgram lp final) := by
  have start := ScheduleInv.flushed (reached_consistent before)
  have inv := faulting_invariant (fun _ _ _ inv cond step => addStep_schedules inv cond step)
    start inStep reached
  exact inv.scheduled

/-- The driver, freshly opened and flushed, after some adds. -/
def addedAfterFlush (requests : List AddRequest) : TadmaState :=
  (run (faulting (addStep defaultLocal))
    (some (axienetTadmaFlushStream defaultLocal (openStreamTable .loaded))) requests).getD .loaded

/-- Two streams with a trigger each. -/
def oneTriggerEach : List AddRequest := [addAt 1000 100000 1, addAt 1001 200000 0]

theorem oneTriggerEach_reached
    : run (faulting (addStep defaultLocal))
        (some (axienetTadmaFlushStream defaultLocal (openStreamTable .loaded))) oneTriggerEach
      = some (addedAfterFlush oneTriggerEach) := rfl

theorem schedule_matches_one_trigger
    : Scheduled defaultLocal
        (axienetTadmaProgram defaultLocal (addedAfterFlush oneTriggerEach)) := by
  refine schedule_matches (run_nil _ _) ?_ oneTriggerEach_reached
  decide

/-- One stream with two triggers. -/
def twoTriggers : List AddRequest := [addAt 1000 100000 1, addAt 1000 200000 0]

/-- The stream's second entry is in slot 1, whose fetch entry names stream 1, while its
packets are queued into stream 0.
-/
theorem schedule_mismatch
    : run (faulting (addStep defaultLocal))
          (some (axienetTadmaFlushStream defaultLocal (openStreamTable .loaded))) twoTriggers
        = some (addedAfterFlush twoTriggers)
      ∧ ¬ Scheduled defaultLocal
        (axienetTadmaProgram defaultLocal (addedAfterFlush twoTriggers)) := by
  refine ⟨rfl, ?_⟩
  intro scheduled
  have fetches : ∀ e ∈ (axienetTadmaProgram defaultLocal (addedAfterFlush twoTriggers)).entries
        defaultLocal,
      (((sfmRead .upper (axienetTadmaProgram defaultLocal (addedAfterFlush twoTriggers)).regs
        e.sfm).cfg &&& xtadmaStrIdMask) >>> xtadmaStrIdShift).toNat = e.sid :=
    fun e live => (scheduled.fetches e live).2.strId
  revert fetches
  decide

end TsnTrdp.Tadma
