import TsnTrdp.Tadma.StreamTable

/-! The stream ids and fetch slots that adding streams hands out. They stay unique as long
as the counters are reset, or run over, only while the table is empty, and as long as the
tag comparison finds no entry of another pair.
-/

namespace TsnTrdp.Tadma

open TsnTrdp Run

variable {lp : TadmaLocal} {st st' : TadmaState}

/-- What is asked of a table: one stream id for each pair, one fetch slot for each entry,
and all of them in range.
-/
structure Allocated (lp : TadmaLocal) (st : TadmaState) : Prop where
  sids
    : ∀ e ∈ st.entries lp, ∀ e' ∈ st.entries lp, e.hashtag = e'.hashtag ↔ e.sid = e'.sid
  sfms : ((st.entries lp).map StreamEntry.sfm).Nodup
  inRange : ∀ e ∈ st.entries lp, e.sid < lp.numStreams ∧ e.sfm < lp.numEntries

/-- No entry of the chain compares equal to the tag without having it. -/
def NoLookalike (lp : TadmaLocal) (st : TadmaState) (tag : HashTag) : Prop :=
  ∀ i ∈ tadmaBucket lp tag, ∀ e ∈ st.streamHash i,
    hashTagEqual e.hashtag tag = true → e.hashtag = tag

/-- The counters are reset, by a start flag or by switching off, only while the table is
empty, and `get_sid` does not run over while it is not; no other pair is taken for the
one that is added.
-/
def CountersApart (lp : TadmaLocal) (st : TadmaState) : TadmaIoctl → Prop
  | .strAdd request =>
      ∀ stream ∈ request.stream, stream.count ≤ maxTrigCount
        → (stream.start ≠ 0 → st.entries lp = [])
          ∧ (∀ i ∈ tadmaBucket lp stream.key.hashTag,
            tadmaHashLookupStream (st.streamHash i) stream.key.hashTag = none
            → st.getSid + 1 = 0 → st.entries lp = [])
          ∧ NoLookalike lp st stream.key.hashTag
  | .off => st.entries lp = []
  | .progAll | .strFlush => True

instance (lp : TadmaLocal) (st : TadmaState) (tag : HashTag) : Decidable (NoLookalike lp st tag) :=
  inferInstanceAs (Decidable (∀ i ∈ tadmaBucket lp tag, _))

instance (lp : TadmaLocal) (st : TadmaState)
    : (op : TadmaIoctl) → Decidable (CountersApart lp st op)
  | .strAdd request => inferInstanceAs (Decidable (∀ stream ∈ request.stream, _))
  | .off => inferInstanceAs (Decidable (_ = _))
  | .progAll | .strFlush => inferInstanceAs (Decidable True)

/-- Every entry is in its chain and lies behind the counters. -/
structure AllocationInv (lp : TadmaLocal) (st : TadmaState) : Prop extends Allocated lp st where
  chained : Chained lp st
  behind : ∀ e ∈ st.entries lp, e.sid < st.getSid.toNat ∧ e.sfm < st.getSfm.toNat

theorem AllocationInv.empty (nothing : ∀ i, st.streamHash i = [])
    : AllocationInv lp st := by
  have none : st.entries lp = [] := by
    simp [TadmaState.entries, Chains.entries, nothing]
  exact {
    sids := by simp [none]
    sfms := by simp [none]
    inRange := by simp [none]
    chained := fun i e member => by simp [nothing i] at member
    behind := by simp [none] }

/-- A step that keeps the table keeps the invariant, unless it sets a counter back while
there are entries.
-/
theorem AllocationInv.recount (inv : AllocationInv lp st)
    (table : st'.streamHash = st.streamHash)
    (forward : st.entries lp ≠ []
      → st.getSid.toNat ≤ st'.getSid.toNat ∧ st.getSfm.toNat ≤ st'.getSfm.toNat)
    : AllocationInv lp st' := by
  have same : st'.entries lp = st.entries lp := by
    rw [TadmaState.entries, table]
    rfl
  refine ⟨⟨?_, ?_, ?_⟩, ?_, ?_⟩
  · simpa only [same] using inv.sids
  · simpa only [same] using inv.sfms
  · simpa only [same] using inv.inRange
  · simpa only [Chained, table] using inv.chained
  · intro e live
    rw [same] at live
    obtain ⟨sid, sfm⟩ := forward (List.ne_nil_of_mem live)
    obtain ⟨sid', sfm'⟩ := inv.behind e live
    exact ⟨Nat.lt_of_lt_of_le sid' sid, Nat.lt_of_lt_of_le sfm' sfm⟩

theorem AllocationInv.start (inv : AllocationInv lp st) {start : Byte}
    (reset : start ≠ 0 → st.entries lp = [])
    : AllocationInv lp (startCounters st start) := by
  refine inv.recount (startCounters_streamHash st start) ?_
  intro some
  by_cases set : start ≠ 0
  · exact absurd (reset set) some
  · rw [startCounters, if_neg set]
    exact ⟨Nat.le_refl _, Nat.le_refl _⟩

/-- An entry of the pair that is added is the one that the lookup finds, or has its stream
id; where the lookup finds none there is no entry of the pair.
-/
theorem AllocationInv.sid_iff (inv : AllocationInv lp st) {request : AddRequest}
    {stream : TadmaStream} {idx : Nat} {found : Option StreamEntry}
    (reaches : AddReaches lp st request stream idx found)
    (noLookalike : NoLookalike lp st stream.key.hashTag) {e : StreamEntry}
    (live : e ∈ st.entries lp)
    : e.hashtag = stream.key.hashTag ↔ e.sid = entrySid found st := by
  cases found with
  | none =>
      constructor
      · intro tag
        have member := inv.chained.member live (tag ▸ reaches.bucket)
        have apart := lookup_none.mp reaches.lookup e member
        rw [tag, hashTagEqual_refl] at apart
        cases apart
      · intro sid
        exact absurd sid (Nat.ne_of_lt (inv.behind e live).1)
  | some e' =>
      obtain ⟨member, equal⟩ := lookup_some reaches.lookup
      have live' : e' ∈ st.entries lp := inv.chained.mem_entries.mpr ⟨idx, member⟩
      rw [← noLookalike idx reaches.bucket e' member equal]
      exact inv.sids e live e' live'

theorem AllocationInv.added (inv : AllocationInv lp st) {request : AddRequest}
    {stream : TadmaStream} {idx : Nat} {found : Option StreamEntry}
    (reaches : AddReaches lp st request stream idx found)
    (noLookalike : NoLookalike lp st stream.key.hashTag)
    (sid : entrySid found st < lp.numStreams) (sfm : st.getSfm.toNat < lp.numEntries)
    (table : st'.streamHash = Chains.push st.streamHash idx (stream.entry found st))
    (counters : st'.getSid = (countSid found st).getSid ∧ st'.getSfm = st.getSfm + 1)
    : AllocationInv lp st' := by
  have members := mem_entries_push reaches.bucket table
  have pair : ∀ e ∈ st.entries lp,
      e.hashtag = (stream.entry found st).hashtag ↔ e.sid = (stream.entry found st).sid :=
    fun e live => inv.sid_iff reaches noLookalike live
  have slots : st'.getSfm.toNat = st.getSfm.toNat + 1 := by
    rw [counters.2, counter_succ (counter_more sfm lp.numEntries_lt)]
  have streams : st.getSid.toNat ≤ st'.getSid.toNat ∧ entrySid found st < st'.getSid.toNat := by
    rw [counters.1]
    cases found with
    | none =>
        simp only [entrySid, countSid] at sid ⊢
        rw [counter_succ (counter_more sid lp.numStreams_lt)]
        omega
    | some e =>
        obtain ⟨member, -⟩ := lookup_some reaches.lookup
        exact ⟨Nat.le_refl _, (inv.behind e (inv.chained.mem_entries.mpr ⟨idx, member⟩)).1⟩
  refine ⟨⟨?_, ?_, ?_⟩, ?_, ?_⟩
  · intro e live e' live'
    rcases (members e).mp live with rfl | live
    · rcases (members e').mp live' with rfl | live'
      · exact iff_of_true rfl rfl
      · exact eq_comm.trans ((pair e' live').trans eq_comm)
    · rcases (members e').mp live' with rfl | live'
      · exact pair e live
      · exact inv.sids e live e' live'
  · exact nodup_sfms_push reaches.bucket table inv.sfms fun e live =>
      Nat.ne_of_lt (inv.behind e live).2
  · intro e live
    rcases (members e).mp live with rfl | live
    · exact ⟨sid, sfm⟩
    · exact inv.inRange e live
  · rw [Chained, table]
    exact inv.chained.push reaches.bucket
  · intro e live
    rcases (members e).mp live with rfl | live
    · exact ⟨streams.2, by rw [slots]; exact Nat.lt_succ_self _⟩
    · obtain ⟨before, slot⟩ := inv.behind e live
      omega

/-- Every request keeps the allocation, by cases on what it does to table and counters. -/
theorem tadmaStep_allocates (inv : AllocationInv lp st) {op : TadmaIoctl}
    (apart : CountersApart lp st op) (step : tadmaStep lp st op = some st')
    : AllocationInv lp st' := by
  obtain ⟨out, done, rfl⟩ := Option.map_eq_some_iff.mp step
  cases op with
  | strAdd request =>
      obtain ⟨⟨result, next⟩, entry, rfl⟩ := Option.map_eq_some_iff.mp done
      rcases newStreamEntry_cases entry with
        ⟨err, rfl, rfl⟩ | ⟨stream, idx, found, reaches, outcome⟩
      · exact inv
      · obtain ⟨reset, runsOver, noLookalike⟩ := apart stream reaches.copied reaches.count
        have started := inv.start reset
        have reaches' : AddReaches lp (startCounters st stream.start) request stream idx found :=
          { reaches with lookup := by rw [startCounters_streamHash]; exact reaches.lookup }
        rcases outcome with ⟨err, rfl, rfl⟩ | ⟨adds, rfl, rfl⟩
        · refine started.recount (countSid_streamHash _ _) ?_
          intro some
          rw [TadmaState.entries, startCounters_streamHash] at some
          have plain : startCounters st stream.start = st :=
            if_neg fun set => some (reset set)
          rw [plain]
          cases found with
          | some e => exact ⟨Nat.le_refl _, Nat.le_refl _⟩
          | none =>
              have more : st.getSid + 1 ≠ 0 := fun last =>
                some (runsOver idx reaches.bucket reaches.lookup last)
              exact ⟨(counter_succ more).ge.trans' (Nat.le_succ _), Nat.le_refl _⟩
        · refine started.added reaches' ?_ adds.sid adds.sfm ?_ ⟨rfl, rfl⟩
          · simpa only [NoLookalike, startCounters_streamHash] using noLookalike
          · simp
  | progAll =>
      cases done
      exact inv.recount rfl fun _ => ⟨Nat.le_refl _, Nat.le_refl _⟩
  | strFlush =>
      cases done
      exact AllocationInv.empty (flush_empty inv.chained)
  | off =>
      cases done
      exact inv.recount rfl fun some => absurd apart some

/-- In every run whose steps keep the counters apart from the live entries, from
`axienet_tadma_open` with any counters on, every state reached is allocated. Witness: the
invariant that entries lie behind the counters.
-/
theorem streams_allocated {ops : List TadmaIoctl}
    (apart
      : Along (faulting (tadmaStep lp)) (BeforeFault (CountersApart lp))
          (some (openStreamTable st)) ops)
    (reached : run (faulting (tadmaStep lp)) (some (openStreamTable st)) ops = some st')
    : Allocated lp st' := by
  have start : AllocationInv lp (openStreamTable st) := AllocationInv.empty fun _ => rfl
  have inv := faulting_invariant (fun _ _ _ inv cond step => tadmaStep_allocates inv cond step)
    start apart reached
  exact inv.toAllocated

/-- Two streams, of which the second has two triggers. -/
def threeAdds : List TadmaIoctl :=
  [.strFlush, .strAdd (addAt 1000 100000 1), .strAdd (addAt 1001 200000 0),
    .strAdd (addAt 1001 300000 0)]

def tableAfter (ops : List TadmaIoctl) : TadmaState :=
  (run (faulting (tadmaStep defaultLocal)) (some (openStreamTable .loaded)) ops).getD .loaded

theorem threeAdds_reached
    : run (faulting (tadmaStep defaultLocal)) (some (openStreamTable .loaded)) threeAdds
      = some (tableAfter threeAdds) := rfl

theorem streams_allocated_three : Allocated defaultLocal (tableAfter threeAdds) := by
  refine streams_allocated ?_ threeAdds_reached
  decide

/-- The comparison takes the pair with communication id 132072 for that with 1000. -/
def lookalikeAdds : List TadmaIoctl :=
  [.strAdd (addAt 1000 100000 1), .strAdd (addAt 132072 200000 0)]

/-- A start flag on a table that is not empty. -/
def restartAdds : List TadmaIoctl :=
  [.strAdd (addAt 1000 100000 1), .strAdd (addAt 1001 200000 1)]

/-- Both pairs get stream id 0 in the first run, and both entries fetch slot 0 in the
second.
-/
theorem streams_shared
    : (run (faulting (tadmaStep defaultLocal)) (some (openStreamTable .loaded)) lookalikeAdds
          = some (tableAfter lookalikeAdds)
        ∧ ¬ Allocated defaultLocal (tableAfter lookalikeAdds))
      ∧ run (faulting (tadmaStep defaultLocal)) (some (openStreamTable .loaded)) restartAdds
          = some (tableAfter restartAdds)
        ∧ ¬ Allocated defaultLocal (tableAfter restartAdds) := by
  refine ⟨⟨rfl, ?_⟩, rfl, ?_⟩
  · intro allocated
    have shared := allocated.sids
    revert shared
    decide
  · intro allocated
    have slots := allocated.sfms
    revert slots
    decide

end TsnTrdp.Tadma
