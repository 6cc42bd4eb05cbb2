import TsnTrdp.Tadma.Reopening

/-! Which add requests the driver takes for duplicates. The lookup stops at the newest entry of the
chain that compares equal, and the request is compared with that entry alone.
-/

namespace TsnTrdp.Tadma

open TsnTrdp Run

/-- The entry is for the pair, the trigger and the count of a request. -/
def StreamEntry.Is (e : StreamEntry) (stream : TadmaStream) : Prop :=
  e.hashtag = stream.key.hashTag ∧ e.tticks = stream.trigger ∧ e.count = stream.count

/-- What makes two entries identical. -/
def StreamEntry.identity (e : StreamEntry) : HashTag × U32 × U32 := (e.hashtag, e.tticks, e.count)

/-- No two entries of the table are identical. -/
def Distinct (lp : TadmaLocal) (st : TadmaState) : Prop :=
  ((st.entries lp).map StreamEntry.identity).Nodup

/-- An add request that is copied and passes the test of its count is a duplicate exactly if an
identical entry is in the table.
-/
def DuplicateExact (lp : TadmaLocal) (st : TadmaState) : TadmaIoctl → Prop
  | .strAdd request =>
      ∀ stream, request.stream = some stream → stream.count ≤ maxTrigCount
        → ((axienetTadmaAddStream lp st request).map Prod.fst = some (.error .eexist)
          ↔ ∃ e ∈ st.entries lp, e.Is stream)
  | _ => True

/-- Duplicates are found, and the table stays without any. -/
def NoDuplicates (lp : TadmaLocal) (st : TadmaState) (op : TadmaIoctl) : Prop :=
  DuplicateExact lp st op ∧ ∀ next, tadmaStep lp st op = some next → Distinct lp next

/-- The entry has the address and the low half of the communication id of a request: the first six
bytes of the tag.
-/
def StreamEntry.LooksLike (e : StreamEntry) (stream : TadmaStream) : Prop :=
  ∀ i : Fin 6, e.hashtag.get (i.castLE (by decide)) = stream.key.hashTag.get (i.castLE (by decide))

instance (e : StreamEntry) (stream : TadmaStream) : Decidable (e.LooksLike stream) :=
  inferInstanceAs (Decidable (∀ _ : Fin 6, _))

/-- Nothing in a chain stands before the entries of a request: no identical entry has a newer one that
looks like the request, and the newest that does is no other pair's if it has the trigger and the
count of the request.
-/
structure Unhidden (chain : List StreamEntry) (stream : TadmaStream) : Prop where
  newest : chain.Pairwise fun newer e => e.Is stream → ¬ newer.LooksLike stream
  ownPair
    : ∀ e ∈ chain.find? fun e => e.LooksLike stream,
        e.tticks = stream.trigger → e.count = stream.count → e.hashtag = stream.key.hashTag

/-- Where an identical entry is in a chain, no other pair's that looks like the request has its trigger
and its count.
-/
def Unambiguous (chain : List StreamEntry) (stream : TadmaStream) : Prop :=
  (∃ e ∈ chain, e.Is stream)
  → ∀ e ∈ chain,
      e.LooksLike stream
      → e.tticks = stream.trigger
      → e.count = stream.count
      → e.hashtag = stream.key.hashTag

/-- What is said of the chain of an add request that is copied and passes the test of its count. -/
def InChain (Says : List StreamEntry → TadmaStream → Prop) (lp : TadmaLocal) (st : TadmaState)
    : TadmaIoctl → Prop
  | .strAdd request =>
      ∀ stream ∈ request.stream,
        stream.count ≤ maxTrigCount
        → ∀ idx ∈ tadmaBucket lp stream.key.hashTag, Says (st.streamHash idx) stream
  | .progAll | .strFlush | .off => True

variable {lp : TadmaLocal} {st next : TadmaState} {request : AddRequest} {stream : TadmaStream}
  {idx : Nat} {found : Option StreamEntry} {e : StreamEntry}

instance (e : StreamEntry) (stream : TadmaStream) : Decidable (e.Is stream) :=
  inferInstanceAs (Decidable (_ ∧ _ ∧ _))

instance (lp : TadmaLocal) (st : TadmaState) : Decidable (Distinct lp st) :=
  inferInstanceAs (Decidable (List.Nodup _))

instance (chain : List StreamEntry) (stream : TadmaStream) : Decidable (Unhidden chain stream) :=
  decidable_of_iff
    ((chain.Pairwise fun newer e => e.Is stream → ¬ newer.LooksLike stream)
      ∧ ∀ e ∈ chain.find? fun e => e.LooksLike stream,
          e.tticks = stream.trigger → e.count = stream.count → e.hashtag = stream.key.hashTag)
    ⟨fun ⟨newest, ownPair⟩ => ⟨newest, ownPair⟩,
      fun unhidden => ⟨unhidden.newest, unhidden.ownPair⟩⟩

instance (Says : List StreamEntry → TadmaStream → Prop)
    [∀ chain stream, Decidable (Says chain stream)] (lp : TadmaLocal) (st : TadmaState)
    : (op : TadmaIoctl) → Decidable (InChain Says lp st op)
  | .strAdd request => inferInstanceAs (Decidable (∀ stream ∈ request.stream, _))
  | .progAll | .strFlush | .off => inferInstanceAs (Decidable True)

/-- The lookup compares the six bytes. -/
theorem hashTagEqual_iff_looksLike
    : hashTagEqual e.hashtag stream.key.hashTag = true ↔ e.LooksLike stream := by
  have word (i : Fin 4)
      : tagWord e.hashtag i = tagWord stream.key.hashTag i
        ↔ e.hashtag.get ⟨2 * i + 1, by omega⟩ = stream.key.hashTag.get ⟨2 * i + 1, by omega⟩
          ∧ e.hashtag.get ⟨2 * i, by omega⟩ = stream.key.hashTag.get ⟨2 * i, by omega⟩ :=
    append_inj
  rw [hashTagEqual_words, word, word, word]
  constructor
  · rintro ⟨⟨one, zero⟩, ⟨three, two⟩, ⟨five, four⟩⟩ i
    fin_cases i <;> assumption
  · exact fun looks => ⟨⟨looks 1, looks 0⟩, ⟨looks 3, looks 2⟩, ⟨looks 5, looks 4⟩⟩

/-- It finds the newest entry that looks like the request. -/
theorem lookup_eq_newest (chain : List StreamEntry) (stream : TadmaStream)
    : tadmaHashLookupStream chain stream.key.hashTag
      = chain.find? fun e => e.LooksLike stream := by
  refine congrArg (chain.find? ·) (funext fun e => ?_)
  rw [Bool.eq_iff_iff, decide_eq_true_iff]
  exact hashTagEqual_iff_looksLike

theorem StreamEntry.Is.looksLike (same : e.Is stream) : e.LooksLike stream :=
  fun i => congrArg (fun tag => Vector.get tag (i.castLE (by decide))) same.1

theorem is_iff : e.Is stream ↔ e.identity
    = (stream.key.hashTag, stream.trigger, stream.count) := by
  simp [StreamEntry.Is, StreamEntry.identity]

/-- A request that gets to its chain is compared with what the lookup finds there. -/
theorem addStream_eexist_iff (reaches : AddReaches lp st request stream idx found)
    : (axienetTadmaAddStream lp st request).map Prod.fst = some (.error .eexist)
      ↔ ∃ e, found = some e ∧ e.tticks = stream.trigger ∧ e.count = stream.count := by
  have count : ¬ stream.count > maxTrigCount := BitVec.not_lt.mpr reaches.count
  have duplicate
      : (found.any fun e => e.count == stream.count && e.tticks == stream.trigger) = true
        ↔ ∃ e, found = some e ∧ e.tticks = stream.trigger ∧ e.count = stream.count := by
    cases found with
    | none => simp
    | some e => simp [and_comm]
  rw [← duplicate, axienetTadmaAddStream]
  simp only [newStreamEntry, reaches.copied, if_neg count, reaches.bucket, Option.map_some,
    startCounters_streamHash, reaches.lookup, countSid_getSfm]
  by_cases old : (found.any fun e => e.count == stream.count && e.tticks == stream.trigger) = true
  · simp only [old, if_true]
  · simp only [old, Bool.false_eq_true, if_false, iff_false]
    by_cases sid : entrySid found (startCounters st stream.start) ≥ lp.numStreams
    · rw [if_pos sid]
      simp
    · rw [if_neg sid]
      by_cases sfm : (startCounters st stream.start).getSfm.toNat ≥ lp.numEntries
      · rw [if_pos sfm]
        simp
      · rw [if_neg sfm]
        cases request.kzalloc <;> simp

/-- Identical entries are in the chain of the request. -/
theorem Chained.identical (chained : Chained lp st)
    (bucket : tadmaBucket lp stream.key.hashTag = some idx)
    : (∃ e ∈ st.entries lp, e.Is stream) ↔ ∃ e ∈ st.streamHash idx, e.Is stream := by
  constructor
  · rintro ⟨e, live, same⟩
    exact ⟨e, chained.member live (same.1 ▸ bucket), same⟩
  · rintro ⟨e, member, same⟩
    exact ⟨e, chained.mem_entries.mpr ⟨idx, member⟩, same⟩

/-- A request that gets to no chain is answered with a fault. -/
theorem addStream_unbucketed (copied : request.stream = some stream)
    (count : stream.count ≤ maxTrigCount) (bucket : tadmaBucket lp stream.key.hashTag = none)
    : axienetTadmaAddStream lp st request = none := by
  rw [axienetTadmaAddStream, newStreamEntry]
  simp [copied, BitVec.not_lt.mpr count, bucket]

/-- A request that gets to no chain has no duplicate. -/
theorem Chained.not_is_of_unbucketed (chained : Chained lp st)
    (bucket : tadmaBucket lp stream.key.hashTag = none)
    : ¬ ∃ e ∈ st.entries lp, e.Is stream := by
  rintro ⟨e, live, same⟩
  obtain ⟨i, member⟩ := chained.mem_entries.mp live
  rw [← same.1, chained.bucket member] at bucket
  cases bucket

/-- Where nothing is hidden, an identical entry is the newest that looks like the request. -/
theorem Unhidden.find_is {chain : List StreamEntry} (unhidden : Unhidden chain stream)
    (member : e ∈ chain) (same : e.Is stream)
    : (chain.find? fun e => e.LooksLike stream) = some e := by
  obtain ⟨newer, older, rfl⟩ := List.append_of_mem member
  have ordered := (List.pairwise_append.mp unhidden.newest).2.2
  rw [List.find?_eq_some_iff_append]
  refine ⟨decide_eq_true same.looksLike, newer, older, rfl, fun other before => ?_⟩
  have apart := ordered other before e List.mem_cons_self same
  simpa using apart

/-- Where nothing is hidden, duplicates are told from others. -/
theorem duplicateExact_of_unhidden (chained : Chained lp st)
    (unhidden : InChain Unhidden lp st (.strAdd request))
    : DuplicateExact lp st (.strAdd request) := by
  intro stream copied count
  cases bucket : tadmaBucket lp stream.key.hashTag with
  | none =>
      rw [addStream_unbucketed copied count bucket]
      exact iff_of_false (Option.some_ne_none _).symm (chained.not_is_of_unbucketed bucket)
  | some idx =>
      have unhidden := unhidden stream copied count idx bucket
      have reaches : AddReaches lp st request stream idx _ := ⟨copied, count, bucket, rfl⟩
      rw [addStream_eexist_iff reaches, chained.identical bucket, lookup_eq_newest]
      constructor
      · rintro ⟨e, found, trigger, count'⟩
        exact ⟨e, List.mem_of_find?_eq_some found,
          unhidden.ownPair e found trigger count', trigger, count'⟩
      · rintro ⟨e, member, same⟩
        exact ⟨e, unhidden.find_is member same, same.2⟩

/-- No two entries of a chain are identical. -/
theorem Distinct.chain (distinct : Distinct lp st) (bound : idx < lp.numEntries)
    : ((st.streamHash idx).map StreamEntry.identity).Nodup :=
  distinct.sublist ((Chains.chain_sublist_entries bound).map _)

/-- Where duplicates are told from others by entries of their own pair, nothing is hidden. -/
theorem unhidden_of_duplicateExact (chained : Chained lp st) (distinct : Distinct lp st)
    (clear : InChain Unambiguous lp st (.strAdd request))
    (exact' : DuplicateExact lp st (.strAdd request))
    : InChain Unhidden lp st (.strAdd request) := by
  intro stream copied count idx bucket
  have clear := clear stream copied count idx bucket
  have reaches : AddReaches lp st request stream idx _ := ⟨copied, count, bucket, rfl⟩
  have decides := exact' stream copied count
  rw [addStream_eexist_iff reaches, chained.identical bucket, lookup_eq_newest] at decides
  constructor
  · by_cases held : ∃ e ∈ st.streamHash idx, e.Is stream
    · -- the newest entry is the identical one, which is the only one
      obtain ⟨e, found, asked⟩ := decides.mpr held
      obtain ⟨looks, newer, older, split, apart⟩ := List.find?_eq_some_iff_append.mp found
      have own := clear held e (List.mem_of_find?_eq_some found) (of_decide_eq_true looks) asked.1
        asked.2
      have nodup := distinct.chain (tadmaBucket_lt bucket)
      rw [split, List.map_append, List.map_cons, List.nodup_append, List.nodup_cons] at nodup
      have alone : ∀ other ∈ older, ¬ other.Is stream := by
        intro other member same
        refine nodup.2.1.1 (List.mem_map.mpr ⟨other, member, ?_⟩)
        exact (is_iff.mp same).trans (is_iff.mp ⟨own, asked⟩).symm
      have unlike : ∀ other ∈ newer, ¬ other.LooksLike stream := by
        intro other member
        simpa using apart other member
      rw [split, List.pairwise_append, List.pairwise_cons]
      refine ⟨?_, ⟨fun other member same => absurd same (alone other member), ?_⟩, ?_⟩
      · exact List.pairwise_of_forall_mem_list fun other member _ _ _ => unlike other member
      · exact List.pairwise_of_forall_mem_list fun _ _ other member same =>
          absurd same (alone other member)
      · exact fun other member _ _ _ => unlike other member
    · refine List.pairwise_of_forall_mem_list fun _ _ e member same => ?_
      exact absurd ⟨e, member, same⟩ held
  · intro e found trigger count'
    have held := decides.mp ⟨e, found, trigger, count'⟩
    have looks : e.LooksLike stream := by
      simpa using List.find?_some found
    exact clear held e (List.mem_of_find?_eq_some found) looks trigger count'

/-- Entries are in their chains, and no two are identical. -/
structure DistinctInv (lp : TadmaLocal) (st : TadmaState) : Prop where
  consistent : Consistent lp st
  distinct : Distinct lp st

theorem Distinct.empty (nothing : ∀ i, st.streamHash i = []) : Distinct lp st := by
  have none : st.entries lp = [] := List.flatMap_eq_nil_iff.mpr fun i _ => nothing i
  rw [Distinct, none]
  exact List.nodup_nil

theorem Distinct.same (distinct : Distinct lp st) (table : next.streamHash = st.streamHash)
    : Distinct lp next := by
  rw [Distinct, TadmaState.entries, table]
  exact distinct

/-- An entry that is identical to none is added. -/
theorem Distinct.added (distinct : Distinct lp st) (counters : TadmaState)
    (reaches : AddReaches lp st request stream idx found)
    (table : next.streamHash = Chains.push st.streamHash idx (stream.entry found counters))
    (new : ¬ ∃ e ∈ st.entries lp, e.Is stream)
    : Distinct lp next := by
  have pushed := (entries_push reaches.bucket table).map StreamEntry.identity
  rw [Distinct, pushed.nodup_iff, List.map_cons, List.nodup_cons]
  refine ⟨fun taken => new ?_, distinct⟩
  obtain ⟨e, live, same⟩ := List.mem_map.mp taken
  exact ⟨e, live, is_iff.mpr same⟩

/-- Where duplicates are told from others, an added entry is not identical to any. -/
theorem Distinct.step (inv : DistinctInv lp st) {op : TadmaIoctl} (exact : DuplicateExact lp st op)
    (done : tadmaStep lp st op = some next)
    : Distinct lp next := by
  obtain ⟨⟨result, after⟩, step, rfl⟩ := Option.map_eq_some_iff.mp done
  cases op with
  | strAdd request =>
      have answered : (axienetTadmaAddStream lp st request).map Prod.fst = some result :=
        congrArg (Option.map Prod.fst) step
      obtain ⟨⟨outcome, st'⟩, entry, same⟩ := Option.map_eq_some_iff.mp step
      rcases newStreamEntry_cases entry with ⟨err, rfl, rfl⟩ | ⟨stream, idx, found, reaches, cases⟩
      · cases same
        exact inv.distinct
      · rcases cases with ⟨err, rfl, rfl⟩ | ⟨-, rfl, rfl⟩
        · cases same
          exact inv.distinct.same (by simp)
        · cases same
          have new : ¬ ∃ e ∈ st.entries lp, e.Is stream := by
            rw [← exact stream reaches.copied reaches.count, answered]
            simp
          exact inv.distinct.added (startCounters st stream.start) reaches (by simp) new
  | progAll =>
      cases step
      exact inv.distinct.same rfl
  | strFlush =>
      cases step
      exact Distinct.empty (flush_empty inv.consistent.chained)
  | off =>
      cases step
      exact inv.distinct.same rfl

/-- The step: where nothing is hidden, no duplicates get in, and none is made out of nothing. -/
theorem noDuplicates_of_unhidden (inv : DistinctInv lp st) {op : TadmaIoctl}
    (unhidden : InChain Unhidden lp st op)
    : NoDuplicates lp st op := by
  have exact : DuplicateExact lp st op := by
    cases op with
    | strAdd request => exact duplicateExact_of_unhidden inv.consistent.chained unhidden
    | progAll | strFlush | off => trivial
  exact ⟨exact, fun next done => Distinct.step inv exact done⟩

theorem unhidden_iff (inv : DistinctInv lp st) {op : TadmaIoctl}
    (clear : InChain Unambiguous lp st op)
    : NoDuplicates lp st op ↔ InChain Unhidden lp st op := by
  refine ⟨fun safe => ?_, noDuplicates_of_unhidden inv⟩
  cases op with
  | strAdd request =>
      exact unhidden_of_duplicateExact inv.consistent.chained inv.distinct clear safe.1
  | progAll | strFlush | off => trivial

theorem DistinctInv.step {op : TadmaIoctl} (inv : DistinctInv lp st)
    (unhidden : InChain Unhidden lp st op) (done : tadmaStep lp st op = some next)
    : DistinctInv lp next where
  consistent := by
    obtain ⟨⟨result, after⟩, request, rfl⟩ := Option.map_eq_some_iff.mp done
    exact tadmaIoctl_consistent inv.consistent request
  distinct := (noDuplicates_of_unhidden inv unhidden).2 next done

/-- In every run of requests on a table that has been opened in which no add request meets a hidden
entry, add requests are answered as duplicates exactly if an identical entry is there, and no two
entries are ever identical. Where no other pair's entry stands in for an identical one, they are so in
no other run.
-/
theorem duplicates_exact (lp : TadmaLocal) (st : TadmaState) (ops : List TadmaIoctl)
    : let along (P : TadmaState → TadmaIoctl → Prop) :=
        Along (faulting (tadmaStep lp)) (BeforeFault P) (some (openStreamTable st)) ops
      (along (InChain Unhidden lp) → along (NoDuplicates lp))
      ∧ (along (InChain Unambiguous lp)
        → (along (NoDuplicates lp) ↔ along (InChain Unhidden lp))) := by
  intro along
  have start : DistinctInv lp (openStreamTable st) :=
    ⟨Consistent.empty fun _ => rfl, Distinct.empty fun _ => rfl⟩
  have keeps : ∀ state op next, DistinctInv lp state → InChain Unhidden lp state op
      → tadmaStep lp state op = some next → DistinctInv lp next :=
    fun _ _ _ inv unhidden done => inv.step unhidden done
  constructor
  · exact Along.of_faulting keeps (fun _ _ inv unhidden => noDuplicates_of_unhidden inv unhidden)
      start
  · exact faulting_iff_given (fun state op next inv _ => keeps state op next inv)
      (fun _ _ inv clear => unhidden_iff inv clear) start

/-- Two pairs, the second with two triggers, and the newer of these again. -/
def shownAdds : List TadmaIoctl :=
  [.strAdd (addAt 1000 100000 1), .strAdd (addAt 1001 100000 0), .strAdd (addAt 1001 200000 0),
    .strAdd (addAt 1001 200000 0)]

theorem duplicates_exact_shown
    : Along (faulting (tadmaStep defaultLocal)) (BeforeFault (NoDuplicates defaultLocal))
        (some (openStreamTable .loaded)) shownAdds :=
  (duplicates_exact defaultLocal .loaded shownAdds).1 (by decide +kernel)

/-- One pair with two triggers, and the first of them again. -/
def hiddenAdds : List TadmaIoctl :=
  [.strAdd (addAt 1000 100000 1), .strAdd (addAt 1000 200000 0), .strAdd (addAt 1000 100000 0)]

/-- The entry of the second trigger hides that of the first, which is added once more. -/
theorem hidden_duplicate
    : ∃ st next,
        run (faulting (tadmaStep defaultLocal)) (some (openStreamTable .loaded))
          (hiddenAdds.take 2) = some st
        ∧ (∃ e ∈ st.entries defaultLocal, e.Is ⟨groupIp, 1000, 100000, 1, 0⟩)
        ∧ axienetTadmaAddStream defaultLocal st (addAt 1000 100000 0) = some (.ok (), next)
        ∧ ¬ Distinct defaultLocal next := by
  refine ⟨_, _, rfl, ?_, rfl, ?_⟩
  · decide
  · decide

end TsnTrdp.Tadma
