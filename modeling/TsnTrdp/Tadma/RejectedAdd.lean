import TsnTrdp.Tadma.Reopening

/-! What an add request that is turned down leaves behind. The start flag is looked at, and a stream
id used up, before the tests that follow.
-/

namespace TsnTrdp.Tadma

open TsnTrdp Run

/-- The counters and the table are as before, and packets go where they went before. -/
structure Unchanged (lp : TadmaLocal) (st next : TadmaState) : Prop where
  getSid : next.getSid = st.getSid
  getSfm : next.getSfm = st.getSfm
  table : next.streamHash = st.streamHash
  routed : ∀ packet, tadmaGetStrid lp next packet = tadmaGetStrid lp st packet

/-- An add request that is answered by an error changes nothing. -/
def RejectedUnchanged (lp : TadmaLocal) (st : TadmaState) : TadmaIoctl → Prop
  | .strAdd request =>
      ∀ err next, axienetTadmaAddStream lp st request = some (.error err, next)
        → Unchanged lp st next
  | _ => True

/-- What is done to the counters before the tests makes no difference: with an entry of the tag
there, the start flag is clear or the counters are zero; without one, the flag is set and the
counters are what it and the new stream id make of them.
-/
def CountersAgree (st : TadmaState) (stream : TadmaStream) : Option StreamEntry → Prop
  | some _ => stream.start = 0 ∨ (st.getSid = 0 ∧ st.getSfm = 0)
  | none => stream.start ≠ 0 ∧ st.getSid = 1 ∧ st.getSfm = 0

/-- A request that gets to its chain is added, or what is done before makes no difference. -/
def AddedOrAgrees (lp : TadmaLocal) (st : TadmaState) : TadmaIoctl → Prop
  | .strAdd request =>
      ∀ stream idx found, AddReaches lp st request stream idx found
        → Adds lp st request stream found ∨ CountersAgree st stream found
  | _ => True

variable {lp : TadmaLocal} {st next : TadmaState} {request : AddRequest} {stream : TadmaStream}
  {idx : Nat} {found : Option StreamEntry}

/-- The tests after the lookup, where one of them fails. -/
theorem newStreamEntry_rejects (reaches : AddReaches lp st request stream idx found)
    (rejected : ¬ Adds lp st request stream found)
    : ∃ err, newStreamEntry lp st request
        = some (.error err, countSid found (startCounters st stream.start)) := by
  have count : ¬ stream.count > maxTrigCount := BitVec.not_lt.mpr reaches.count
  simp only [newStreamEntry, reaches.copied, if_neg count, reaches.bucket, Option.map_some,
    startCounters_streamHash, reaches.lookup, countSid_getSfm]
  by_cases old : (found.any fun e => e.count == stream.count && e.tticks == stream.trigger) = true
  · cases found with
    | none => cases old
    | some e => exact ⟨.eexist, by rw [if_pos old]; rfl⟩
  · rw [if_neg old]
    by_cases sid : entrySid found (startCounters st stream.start) ≥ lp.numStreams
    · exact ⟨.einval, by rw [if_pos sid]⟩
    · rw [if_neg sid]
      by_cases sfm : (startCounters st stream.start).getSfm.toNat ≥ lp.numEntries
      · exact ⟨.einval, by rw [if_pos sfm]⟩
      · rw [if_neg sfm]
        cases alloc : request.kzalloc with
        | false => exact ⟨.enomem, rfl⟩
        | true =>
            have adds : Adds lp st request stream found :=
              ⟨alloc, Bool.eq_false_iff.mpr old, Nat.lt_of_not_le sid, Nat.lt_of_not_le sfm⟩
            exact absurd adds rejected

/-- A request that gets to its chain and is not added is answered by an error. -/
theorem addStream_rejects (reaches : AddReaches lp st request stream idx found)
    (rejected : ¬ Adds lp st request stream found)
    : ∃ err, axienetTadmaAddStream lp st request
        = some (.error err, countSid found (startCounters st stream.start)) := by
  obtain ⟨err, step⟩ := newStreamEntry_rejects reaches rejected
  exact ⟨err, by rw [axienetTadmaAddStream, step]; rfl⟩

/-- An error comes before the chain is looked for, with nothing done, or from one of the tests. -/
theorem addStream_error_cases {err : Errno}
    (step : axienetTadmaAddStream lp st request = some (.error err, next))
    : next = st
      ∨ ∃ stream idx found, AddReaches lp st request stream idx found
        ∧ ¬ Adds lp st request stream found
        ∧ next = countSid found (startCounters st stream.start) := by
  obtain ⟨⟨outcome, counted⟩, entry, done⟩ := Option.map_eq_some_iff.mp step
  rcases newStreamEntry_cases entry with ⟨err', rfl, rfl⟩ | ⟨stream, idx, found, reaches, ends⟩
  · cases done
    exact .inl rfl
  · rcases ends with ⟨err', rfl, rfl⟩ | ⟨-, rfl, -⟩
    · cases done
      refine .inr ⟨stream, idx, found, reaches, ?_, rfl⟩
      intro adds
      obtain ⟨added, ok⟩ := (addStream_ok_iff reaches).mpr adds
      rw [step] at ok
      cases ok
    · cases done

/-- The counters agree exactly if they end as they began. -/
theorem countersAgree_iff
    : CountersAgree st stream found
      ↔ (countSid found (startCounters st stream.start)).getSid = st.getSid
        ∧ (countSid found (startCounters st stream.start)).getSfm = st.getSfm := by
  by_cases clear : stream.start = 0
  · have same : startCounters st stream.start = st := if_neg (not_not_intro clear)
    rw [same]
    cases found with
    | none => simp [CountersAgree, countSid, clear]
    | some e => simp [CountersAgree, countSid, clear]
  · have reset : startCounters st stream.start = { st with getSid := 0, getSfm := 0 } :=
      if_pos clear
    rw [reset]
    cases found with
    | none =>
        constructor
        · rintro ⟨-, sid, sfm⟩
          exact ⟨sid.symm, sfm.symm⟩
        · rintro ⟨sid, sfm⟩
          exact ⟨clear, sid.symm, sfm.symm⟩
    | some e =>
        constructor
        · intro agree
          obtain ⟨sid, sfm⟩ := agree.resolve_left clear
          exact ⟨sid.symm, sfm.symm⟩
        · rintro ⟨sid, sfm⟩
          exact .inr ⟨sid.symm, sfm.symm⟩

/-- With the counters and the table as before, so is the stream of each packet. -/
theorem Unchanged.of_counters (sid : next.getSid = st.getSid) (sfm : next.getSfm = st.getSfm)
    (table : next.streamHash = st.streamHash)
    : Unchanged lp st next where
  getSid := sid
  getSfm := sfm
  table := table
  routed := fun packet => by rw [tadmaGetStrid, tadmaGetStrid, sid, table]

/-- The step: an error changes nothing exactly if the counters agree where the tests fail. -/
theorem rejectedUnchanged_iff (lp : TadmaLocal) (st : TadmaState) (op : TadmaIoctl)
    : RejectedUnchanged lp st op ↔ AddedOrAgrees lp st op := by
  cases op with
  | strAdd request =>
      constructor
      · intro unchanged stream idx found reaches
        by_cases adds : Adds lp st request stream found
        · exact .inl adds
        · obtain ⟨err, step⟩ := addStream_rejects reaches adds
          have kept := unchanged err _ step
          exact .inr (countersAgree_iff.mpr ⟨kept.getSid, kept.getSfm⟩)
      · intro agrees err next step
        rcases addStream_error_cases step with rfl | ⟨stream, idx, found, reaches, rejected, rfl⟩
        · exact .of_counters rfl rfl rfl
        · have counters := (agrees stream idx found reaches).resolve_left rejected
          obtain ⟨sid, sfm⟩ := countersAgree_iff.mp counters
          exact .of_counters sid sfm (by simp)
  | progAll => exact Iff.rfl
  | strFlush => exact Iff.rfl
  | off => exact Iff.rfl

/-- In every run of requests, from any state of the driver, the add requests that are turned down
change nothing exactly if each of them fails before its chain is looked for, or finds the counters
such that what is done before the tests makes no difference.
-/
theorem rejected_adds_unchanged (lp : TadmaLocal) (st : TadmaState) (ops : List TadmaIoctl)
    : Along (faulting (tadmaStep lp)) (BeforeFault (RejectedUnchanged lp)) (some st) ops
      ↔ Along (faulting (tadmaStep lp)) (BeforeFault (AddedOrAgrees lp)) (some st) ops := by
  have anyState : ∀ state op next, True → AddedOrAgrees lp state op
      → tadmaStep lp state op = some next → True :=
    fun _ _ _ _ _ _ => trivial
  exact faulting_iff anyState (fun state op _ => rejectedUnchanged_iff lp state op) trivial ops

/-- A request that is made twice, with the start flag set. -/
def repeatedAdds : List TadmaIoctl :=
  [.strAdd (addAt 1000 100000 1), .strAdd (addAt 1000 100000 1)]

/-- The second is turned down as a duplicate, but has set the counters to zero: packets of its pair
and of all others go to the best-effort stream again.
-/
theorem rejected_adds_unchanged_repeated
    : ¬ Along (faulting (tadmaStep defaultLocal)) (BeforeFault (RejectedUnchanged defaultLocal))
        (some (openStreamTable .loaded)) repeatedAdds := by
  rintro ⟨-, second, -⟩
  have kept := (second _ rfl .eexist _ rfl).getSid
  exact absurd kept (by decide)

end TsnTrdp.Tadma
