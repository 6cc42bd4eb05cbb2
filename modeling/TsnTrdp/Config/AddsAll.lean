import TsnTrdp.Config.TadmaProgRun

/-! What the tool's requests must look like where the driver adds all of them and the stream
ids and fetch slots that it hands out are distinct.
-/

namespace TsnTrdp.Config

open TsnTrdp Run Tadma

variable {lp : TadmaLocal} {st st' final : TadmaState} {stream : TadmaStream}
  {order : List TadmaStream} {results results' : List (Except Errno Unit)}

/-- The requests are added one after the other, all of them with success. -/
inductive AddsAll (lp : TadmaLocal) : TadmaState → List TadmaStream → TadmaState → Prop
  | nil {st : TadmaState} : AddsAll lp st [] st
  | cons {st st' final : TadmaState} {stream : TadmaStream} {rest : List TadmaStream}
    (ok : axienetTadmaAddStream lp st (.of stream) = some (.ok (), st'))
    (later : AddsAll lp st' rest final)
    : AddsAll lp st (stream :: rest) final

/-- The loop adds its results behind those that it starts with, one for each request. -/
theorem progAdd_results
    (reached : run (faulting (progAdd lp)) (some (results, st)) order = some (results', final))
    : ∃ later, results' = results ++ later ∧ later.length = order.length := by
  induction order generalizing results st with
  | nil =>
      cases reached
      exact ⟨[], by simp⟩
  | cons stream rest ih =>
      obtain ⟨⟨before, next⟩, step, reached⟩ := faulting_cons reached
      obtain ⟨out, -, same⟩ := Option.map_eq_some_iff.mp step
      cases same
      obtain ⟨later, rfl, length⟩ := ih reached
      exact ⟨out.1 :: later, by simp, by simp [length]⟩

/-- A loop of which all results are good adds every request. -/
theorem progAdd_addsAll
    (reached
      : run (faulting (progAdd lp)) (some (results, st)) order
        = some (results ++ List.replicate order.length (.ok ()), final))
    : AddsAll lp st order final := by
  induction order generalizing results st with
  | nil =>
      obtain ⟨-, rfl⟩ := Prod.mk.inj (Option.some.inj reached)
      exact .nil
  | cons stream rest ih =>
      obtain ⟨⟨before, next⟩, step, reached⟩ := faulting_cons reached
      obtain ⟨⟨result, state⟩, add, same⟩ := Option.map_eq_some_iff.mp step
      cases same
      obtain ⟨later, same, -⟩ := progAdd_results reached
      have heads : result :: later = .ok () :: List.replicate rest.length (.ok ()) := by
        simpa [List.replicate_succ] using same.symm
      obtain ⟨rfl, rfl⟩ := List.cons.inj heads
      rw [same] at reached
      exact .cons add (ih reached)

/-- What a successful add has done. -/
theorem add_ok (ok : axienetTadmaAddStream lp st (.of stream) = some (.ok (), st'))
    : ∃ idx found, AddReaches lp st (.of stream) stream idx found
        ∧ entrySid found (startCounters st stream.start) < lp.numStreams
        ∧ st'.streamHash = Chains.push st.streamHash idx
            (stream.entry found (startCounters st stream.start))
        ∧ (st'.entries lp).Perm
            (stream.entry found (startCounters st stream.start) :: st.entries lp) := by
  obtain ⟨⟨result, next⟩, entry, same⟩ := Option.map_eq_some_iff.mp ok
  rcases newStreamEntry_cases entry with
    ⟨err, rfl, -⟩ | ⟨stream', idx, found, reaches, ⟨err, rfl, -⟩ | ⟨adds, rfl, rfl⟩⟩
  · cases same
  · cases same
  · cases same
    obtain rfl : stream = stream' := Option.some.inj reaches.copied
    refine ⟨idx, found, reaches, adds.sid, by simp, entries_push reaches.bucket (by simp)⟩

theorem InChains.add_ok (inChains : InChains lp st)
    (ok : axienetTadmaAddStream lp st (.of stream) = some (.ok (), st'))
    : InChains lp st' := by
  obtain ⟨idx, found, reaches, -, table, -⟩ := Config.add_ok ok
  have placed : tadmaBucket lp
      (stream.entry found (startCounters st stream.start)).hashtag = some idx :=
    reaches.bucket
  exact inChains.push placed table

/-- Entries stay. -/
theorem AddsAll.grows (all : AddsAll lp st order final)
    : (st.entries lp).Subperm (final.entries lp) := by
  induction all with
  | nil => exact .refl _
  | cons ok later ih =>
      obtain ⟨idx, found, -, -, -, joined⟩ := add_ok ok
      have kept := (List.sublist_cons_self _ _).subperm.trans joined.symm.subperm
      exact kept.trans ih

/-- Every entry has a stream id and a fetch slot of its own. -/
structure Separate (lp : TadmaLocal) (st : TadmaState) : Prop where
  sids : ((st.entries lp).map StreamEntry.sid).Nodup
  sfms : ((st.entries lp).map StreamEntry.sfm).Nodup

theorem Separate.before (separate : Separate lp final) (all : AddsAll lp st order final)
    : Separate lp st := by
  obtain ⟨kept, perm, sub⟩ := all.grows
  constructor
  · exact (perm.map _).nodup_iff.mp (separate.sids.sublist (sub.map _))
  · exact (perm.map _).nodup_iff.mp (separate.sfms.sublist (sub.map _))

/-- A request may follow one of the tag `tag`: the lookup tells them apart. -/
def ToldApart (lp : TadmaLocal) (tag : HashTag) (later : TadmaStream) : Prop :=
  tadmaBucket lp tag = tadmaBucket lp later.key.hashTag
    → hashTagEqual tag later.key.hashTag = false

/-- The request of a successful add is told apart from the entries, and is not marked where
one of them has the first fetch slot.
-/
theorem Separate.add_ok (separate : Separate lp st') (inChains : InChains lp st)
    (ok : axienetTadmaAddStream lp st (.of stream) = some (.ok (), st')) {e : StreamEntry}
    (live : e ∈ st.entries lp)
    : (e.sfm = 0 → stream.start = 0) ∧ ToldApart lp e.hashtag stream := by
  obtain ⟨idx, found, reaches, -, -, joined⟩ := Config.add_ok ok
  have sids := (joined.map _).nodup_iff.mp separate.sids
  have sfms := (joined.map _).nodup_iff.mp separate.sfms
  rw [List.map_cons, List.nodup_cons] at sids sfms
  constructor
  · intro first
    by_contra marked
    have again : (stream.entry found (startCounters st stream.start)).sfm = e.sfm := by
      rw [first, TadmaStream.entry, startCounters, if_pos marked]
      rfl
    exact sfms.1 (again ▸ List.mem_map_of_mem live)
  · intro bucket
    obtain ⟨i, bound, member⟩ := Chains.mem_entries.mp live
    have place := inChains i bound e member
    obtain rfl : i = idx := Option.some.inj (place.symm.trans (bucket.trans reaches.bucket))
    cases found with
    | none => exact lookup_none.mp reaches.lookup e member
    | some e' =>
        have live' : e' ∈ st.entries lp :=
          Chains.mem_entries.mpr ⟨i, bound, (lookup_some reaches.lookup).1⟩
        exact absurd (List.mem_map_of_mem live') sids.1

/-- What the requests must look like, given the entries that are there before them. -/
theorem AddsAll.separate (all : AddsAll lp st order final) (separate : Separate lp final)
    (inChains : InChains lp st)
    : (∀ stream ∈ order, (tadmaBucket lp stream.key.hashTag).isSome = true)
      ∧ (∀ e ∈ st.entries lp, ∀ stream ∈ order,
          (e.sfm = 0 → stream.start = 0) ∧ ToldApart lp e.hashtag stream)
      ∧ order.Pairwise fun a b =>
          (a.start ≠ 0 → b.start = 0) ∧ ToldApart lp a.key.hashTag b := by
  induction all with
  | nil => simp
  | @cons st st' final stream rest ok later ih =>
      obtain ⟨buckets, entries, pairs⟩ := ih separate (inChains.add_ok ok)
      obtain ⟨idx, found, reaches, -, -, joined⟩ := add_ok ok
      refine ⟨?_, ?_, ?_⟩
      · rintro a (_ | ⟨_, member⟩)
        · exact Option.isSome_iff_exists.mpr ⟨idx, reaches.bucket⟩
        · exact buckets a member
      · rintro e live a (_ | ⟨_, member⟩)
        · exact (separate.before later).add_ok inChains ok live
        · exact entries e (joined.mem_iff.mpr (List.mem_cons_of_mem _ live)) a member
      · refine List.pairwise_cons.mpr ⟨?_, pairs⟩
        intro b member
        obtain ⟨marks, apart⟩ := entries _ (joined.mem_iff.mpr List.mem_cons_self) b member
        refine ⟨fun marked => marks ?_, apart⟩
        rw [TadmaStream.entry, startCounters, if_pos marked]
        rfl

/-- With the counter of stream ids at its limit, the first request to be added is marked. -/
theorem AddsAll.marked (all : AddsAll lp st (stream :: order) final)
    (nothing : st.entries lp = []) (stale : lp.numStreams ≤ st.getSid.toNat)
    : stream.start ≠ 0 := by
  intro plain
  cases all with
  | cons ok later =>
      obtain ⟨idx, found, reaches, sid, -, -⟩ := add_ok ok
      rw [startCounters, if_neg fun marked => marked plain] at sid
      cases found with
      | none => exact absurd sid (Nat.not_lt.mpr stale)
      | some e =>
          have live : e ∈ st.entries lp := Chains.mem_entries.mpr
            ⟨idx, tadmaBucket_lt reaches.bucket, (lookup_some reaches.lookup).1⟩
          rw [nothing] at live
          cases live

/-- Successful adds in an orderly order leave what the loop leaves. -/
theorem AddsAll.added {done rest : List TadmaStream} (all : AddsAll lp st rest final)
    (orderly : Orderly lp (done ++ rest)) (added : Added lp done st)
    : Added lp (done ++ rest) final := by
  induction all generalizing done with
  | nil => simpa using added
  | cons ok later ih =>
      obtain ⟨next, ok', added'⟩ := added.next orderly
      cases ok.symm.trans ok'
      simpa using ih (by simpa using orderly) added'

end TsnTrdp.Config
