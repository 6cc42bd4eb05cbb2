import TsnTrdp.Config.TadmaProg

/-! The tool's loop of adds, evaluated: in an order that starts with the marked request, every
request is added, and the entries number their streams and slots in that order.
-/

namespace TsnTrdp.Config

open TsnTrdp Run Tadma Slots

variable {lp : TadmaLocal} {st : TadmaState} {order done : List TadmaStream}

/-- The entry of the request that is added as number `i`. -/
def entryAt (i : Nat) (stream : TadmaStream) : StreamEntry :=
  ⟨stream.key.hashTag, stream.trigger, i, i, stream.count⟩

/-- Requests that can be added one after the other. -/
structure Orderly (lp : TadmaLocal) (order : List TadmaStream) : Prop where
  counts : ∀ a ∈ order, a.count ≤ maxTrigCount
  chained : ∀ a ∈ order, (tadmaBucket lp a.key.hashTag).isSome = true
  distinct : (order.map TadmaStream.key).Nodup
  apart
    : ∀ a ∈ order, ∀ b ∈ order, tadmaBucket lp a.key.hashTag = tadmaBucket lp b.key.hashTag
      → a.key.SameLow b.key → a.key = b.key
  fits : order.length ≤ lp.numStreams ∧ order.length ≤ lp.numEntries
  marked : ∀ (i : Nat) (a : TadmaStream), order[i]? = some a → (a.start ≠ (0 : Byte) ↔ i = 0)

/-- Entries stay in the chains of their tags, as far as the table goes. -/
def InChains (lp : TadmaLocal) (st : TadmaState) : Prop :=
  ∀ i < lp.numEntries, ∀ e ∈ st.streamHash i, tadmaBucket lp e.hashtag = some i

theorem InChains.push (inChains : InChains lp st) {st' : TadmaState} {idx : Nat}
    {entry : StreamEntry} (bucket : tadmaBucket lp entry.hashtag = some idx)
    (table : st'.streamHash = Chains.push st.streamHash idx entry)
    : InChains lp st' := by
  intro i bound e member
  rw [table] at member
  rcases Chains.mem_push.mp member with ⟨rfl, rfl⟩ | member
  · exact bucket
  · exact inChains i bound e member

/-- The state after the requests of `done`. -/
structure Added (lp : TadmaLocal) (done : List TadmaStream) (st : TadmaState) : Prop where
  inChains : InChains lp st
  entries : (st.entries lp).Perm (done.mapIdx entryAt)
  counters : done ≠ [] → st.getSid.toNat = done.length ∧ st.getSfm.toNat = done.length

/-- The next request finds no entry that compares equal to it. -/
theorem Added.lookup (added : Added lp done st) {stream : TadmaStream} {rest : List TadmaStream}
    (orderly : Orderly lp (done ++ stream :: rest)) {idx : Nat}
    (bucket : tadmaBucket lp stream.key.hashTag = some idx)
    : tadmaHashLookupStream (st.streamHash idx) stream.key.hashTag = none := by
  apply lookup_none.mpr
  intro e member
  have live : e ∈ st.entries lp := Chains.mem_entries.mpr ⟨idx, tadmaBucket_lt bucket, member⟩
  have place := added.inChains idx (tadmaBucket_lt bucket) e member
  obtain ⟨i, bound, rfl⟩ := List.mem_mapIdx.mp (added.entries.mem_iff.mp live)
  have old : done[i] ∈ done := List.getElem_mem bound
  rw [Bool.eq_false_iff, Ne, show (entryAt i done[i]).hashtag = done[i].key.hashTag from rfl,
    hashTagEqual_iff]
  intro low
  have same := orderly.apart done[i] (List.mem_append_left _ old) stream
    (List.mem_append_right _ List.mem_cons_self) (place.trans bucket.symm) low
  have distinct := orderly.distinct
  rw [List.map_append, List.map_cons] at distinct
  have fresh := (List.nodup_append.mp distinct).2.2 _ (List.mem_map_of_mem old) _
    List.mem_cons_self
  exact fresh same

/-- The counters that the next request is numbered with. -/
theorem Added.numbers (added : Added lp done st) {stream : TadmaStream}
    {rest : List TadmaStream} (orderly : Orderly lp (done ++ stream :: rest))
    : (startCounters st stream.start).getSid.toNat = done.length
      ∧ (startCounters st stream.start).getSfm.toNat = done.length := by
  have mark := orderly.marked done.length stream (by simp)
  by_cases first : done.length = 0
  · rw [startCounters, if_pos (mark.mpr first), first]
    exact ⟨rfl, rfl⟩
  · rw [startCounters, if_neg fun set => first (mark.mp set)]
    exact added.counters (by rintro rfl; exact first rfl)

/-- Adding the next request succeeds and numbers it next. -/
theorem Added.next (added : Added lp done st) {stream : TadmaStream} {rest : List TadmaStream}
    (orderly : Orderly lp (done ++ stream :: rest))
    : ∃ st', axienetTadmaAddStream lp st (.of stream) = some (.ok (), st')
      ∧ Added lp (done ++ [stream]) st' := by
  have within : stream ∈ done ++ stream :: rest := List.mem_append_right _ List.mem_cons_self
  have room := orderly.fits
  rw [List.length_append, List.length_cons] at room
  obtain ⟨idx, bucket⟩ := Option.isSome_iff_exists.mp (orderly.chained stream within)
  obtain ⟨sid, sfm⟩ := added.numbers orderly
  have reaches : AddReaches lp st (.of stream) stream idx none :=
    ⟨rfl, orderly.counts stream within, bucket, added.lookup orderly bucket⟩
  have adds : Adds lp st (.of stream) stream none :=
    ⟨rfl, rfl, by rw [entrySid, sid]; omega, by rw [sfm]; omega⟩
  have entry : stream.entry none (startCounters st stream.start) = entryAt done.length stream := by
    rw [TadmaStream.entry, entrySid, sid, sfm]
    rfl
  refine ⟨_, by rw [axienetTadmaAddStream, newStreamEntry_adds reaches adds]; rfl, ?_, ?_, ?_⟩
  · have placed : tadmaBucket lp (entryAt done.length stream).hashtag = some idx := bucket
    exact added.inChains.push placed (by simp [entry])
  · have pushed : (Chains.entries lp.numEntries (Chains.push st.streamHash idx
        (entryAt done.length stream))).Perm (entryAt done.length stream :: st.entries lp) :=
      Chains.entries_push (tadmaBucket_lt bucket)
    simp only [TadmaState.entries, countSid_streamHash, startCounters_streamHash, entry,
      List.mapIdx_concat]
    exact (pushed.trans (added.entries.cons _)).trans (List.perm_append_singleton _ _).symm
  · intro _
    simp only [countSid, List.length_append, List.length_singleton]
    rw [counter_succ, counter_succ, sid, sfm]
    · exact ⟨rfl, rfl⟩
    · exact counter_more (by rw [sfm]; omega) lp.numEntries_lt
    · exact counter_more (by rw [sid]; omega) lp.numStreams_lt

/-- The loop adds every request. Induction on the requests still to go. -/
theorem Added.all (added : Added lp done st) {rest : List TadmaStream}
    {results : List (Except Errno Unit)} (orderly : Orderly lp (done ++ rest))
    : ∃ st', run (faulting (progAdd lp)) (some (results, st)) rest
        = some (results ++ List.replicate rest.length (.ok ()), st')
      ∧ Added lp (done ++ rest) st' := by
  induction rest generalizing done st results with
  | nil => exact ⟨st, by simp, by simpa using added⟩
  | cons stream rest ih =>
      obtain ⟨st', ok, added'⟩ := added.next orderly
      have orderly' : Orderly lp ((done ++ [stream]) ++ rest) := by
        simpa only [List.append_assoc, List.singleton_append] using orderly
      obtain ⟨final, reached, addedAll⟩ := ih added' orderly'
      refine ⟨final, ?_, by simpa only [List.append_assoc, List.singleton_append] using addedAll⟩
      have step : faulting (progAdd lp) (some (results, st)) stream
          = some (results ++ [.ok ()], st') := by
        simp only [faulting, Option.bind_some, progAdd, ok, Option.map_some]
      rw [run_cons, step, reached, List.append_assoc]
      rfl

end TsnTrdp.Config
