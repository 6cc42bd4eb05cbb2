import TsnTrdp.Lib.Run
import TsnTrdp.Trdp.Withdraw
import TsnTrdp.Trdp.SendSchedule

/-! Redundancy groups. Their leadership is kept in a flag of each publisher alone, yet after every
run of calls the flags tell for each group what the last call that named it was; as long as no
follower call for all groups meets a publisher of no group.
-/

namespace TsnTrdp.Trdp

open TsnTrdp.Run TsnTrdp.Queue

/-- The publisher does not send. -/
def PdEle.Suppressed (ele : PdEle) : Prop := Has ele.privFlags trdpRedundant

instance (ele : PdEle) : Decidable ele.Suppressed := inferInstanceAs (Decidable (Has _ _))

/-- The calls that the flags depend on. -/
inductive RedCall
  | publish (env : PublishEnv) (args : PublishArgs)
  | unpublish (handle : Nat)
  | setRedundant (redId : U32) (leader : Bool)

def redStep (session : TrdpSession) : RedCall → TrdpSession
  | .publish env args =>
      (tlpPublish { env with trdpPdDistribute := trdpPdDistribute } args session).2
  | .unpublish handle => (tlpUnpublish handle session).2
  | .setRedundant redId leader => (tlpSetRedundant redId leader session).2

/-- The call sets the leadership of the group. -/
def RedCall.Names (redId : U32) : RedCall → Prop
  | .setRedundant named _ => named = redId ∨ named = 0
  | .publish .. | .unpublish _ => False

/-- The group has a publisher. -/
def TrdpSession.HasGroup (redId : U32) (session : TrdpSession) : Prop :=
  ∃ ele ∈ session.pSndQueue, ele.redId = redId

/-- The last call that named the group, since it became non-empty last, was a follower call. -/
def FollowsLast (session : TrdpSession) (calls : List RedCall) (redId : U32) : Prop :=
  ∃ named,
    IsLastSince redStep (TrdpSession.HasGroup redId) (RedCall.Names redId) session calls
      (.setRedundant named false)

/-- The flags are as the calls want them. -/
structure RedundancyRight (session : TrdpSession) (calls : List RedCall) : Prop where
  single : ∀ ele ∈ (run redStep session calls).pSndQueue, ele.redId = 0 → ¬ ele.Suppressed
  together
    : ∀ ele ∈ (run redStep session calls).pSndQueue,
      ∀ other ∈ (run redStep session calls).pSndQueue,
      ele.redId ≠ 0 → other.redId = ele.redId → (other.Suppressed ↔ ele.Suppressed)
  groups
    : ∀ ele ∈ (run redStep session calls).pSndQueue,
      ele.redId ≠ 0 → (ele.Suppressed ↔ FollowsLast session calls ele.redId)
  reported
    : ∀ ele ∈ (run redStep session calls).pSndQueue,
      tlpGetRedundant ele.redId (run redStep session calls) = some (decide ¬ ele.Suppressed)

/-- No follower call for all groups while a publisher of no group is queued. -/
def SparesSingles (session : TrdpSession) (call : RedCall) : Prop :=
  call = .setRedundant 0 false → ∀ ele ∈ session.pSndQueue, ele.redId ≠ 0

/-- The element is suppressed as its group was last told to be; an element of no group is not. -/
def PdEle.FlagRight (session : TrdpSession) (calls : List RedCall) (ele : PdEle) : Prop :=
  ele.Suppressed ↔ ele.redId ≠ 0 ∧ FollowsLast session calls ele.redId

/-- All flags are right after the calls. -/
def FlagsRight (session : TrdpSession) (calls : List RedCall) : Prop :=
  ∀ ele ∈ (run redStep session calls).pSndQueue, ele.FlagRight session calls

variable {session : TrdpSession} {calls : List RedCall} {call : RedCall} {redId : U32} {ele : PdEle}

theorem not_hasGroup_of_none (none : tlpGetRedundant redId session = none)
    : ¬ session.HasGroup redId := by
  rintro ⟨ele, member, same⟩
  have missed := List.find?_eq_none.mp (Option.map_eq_none_iff.mp none) ele member
  exact missed (decide_eq_true same)

/-- Where the flags are right, the first publisher of a group speaks for all. -/
theorem FlagsRight.tlpGetRedundant_iff (right : FlagsRight session calls) (group : redId ≠ 0)
    : tlpGetRedundant redId (run redStep session calls) = some false
      ↔ FollowsLast session calls redId := by
  cases found : (run redStep session calls).pSndQueue.find? fun ele => ele.redId = redId with
  | none =>
      have none : tlpGetRedundant redId (run redStep session calls) = none := by
        rw [tlpGetRedundant, found]
        rfl
      refine iff_of_false ?_ ?_
      · rw [none]
        exact (Option.some_ne_none _).symm
      · rintro ⟨_, since⟩
        exact not_hasGroup_of_none none since.holds
  | some ele =>
      have flag := right ele (List.mem_of_find?_eq_some found)
      have same : ele.redId = redId := by simpa using List.find?_some found
      have told : tlpGetRedundant redId (run redStep session calls)
          = some (decide ¬ ele.Suppressed) := by
        rw [tlpGetRedundant, found]
        rfl
      rw [told, Option.some.injEq, decide_eq_false_iff_not, not_not]
      rw [PdEle.FlagRight, same] at flag
      exact flag.trans (and_iff_right group)

/-- A call that does not name its group leaves an element right that is flagged as the group was
told before.
-/
theorem flagRight_concat_of_not (other : ¬ call.Names ele.redId)
    (member : ele ∈ (run redStep session (calls ++ [call])).pSndQueue)
    (flag : ele.Suppressed ↔ ele.redId ≠ 0 ∧ FollowsLast session calls ele.redId)
    : ele.FlagRight session (calls ++ [call]) := by
  have stays : FollowsLast session (calls ++ [call]) ele.redId
      ↔ FollowsLast session calls ele.redId := by
    refine exists_congr fun named => ?_
    rw [isLastSince_concat_of_not other]
    exact and_iff_left ⟨ele, member, rfl⟩
  exact flag.trans (and_congr_right fun _ => stays.symm)

/-- A new publisher is a follower exactly if its group was told to follow. -/
theorem newPublisher_suppressed_iff (env : PublishEnv) (args : PublishArgs)
    (session : TrdpSession) (socketIdx : Int)
    : (newPublisher env args session socketIdx).Suppressed
      ↔ args.redId ≠ 0 ∧ tlpGetRedundant args.redId session = some false := by
  have flags : (newPublisher env args session socketIdx).privFlags
      = if args.redId ≠ 0 ∧ tlpGetRedundant args.redId session = some false then
          trdpInvalidData ||| trdpRedundant
        else trdpInvalidData := rfl
  rw [PdEle.Suppressed, flags]
  split
  · next follower => exact iff_of_true (has_or_self (by decide)) follower
  · next leader => exact iff_of_false (by decide) leader

theorem FlagsRight.publish (right : FlagsRight session calls) (env : PublishEnv)
    (args : PublishArgs)
    : FlagsRight session (calls ++ [.publish env args]) := by
  intro ele member
  refine flagRight_concat_of_not (fun names => names) member ?_
  rw [run_append] at member
  change ele ∈ (tlpPublish { env with trdpPdDistribute := trdpPdDistribute } args
    (run redStep session calls)).2.pSndQueue at member
  rcases tlpPublish_cases { env with trdpPdDistribute := trdpPdDistribute } args
      (run redStep session calls) rfl with ⟨-, same⟩ | ⟨socketIdx, new, queue, publishes⟩
  · rw [same] at member
    exact right ele member
  · rw [publishes.eq] at member
    obtain ⟨old, among, same⟩ := exists_of_mem publishes.retimed member
    have flag : old.Suppressed ↔ old.redId ≠ 0 ∧ FollowsLast session calls old.redId := by
      rcases List.mem_append.mp among with earlier | added
      · exact right old earlier
      · obtain rfl := List.mem_singleton.mp added
        have group : old.redId = args.redId := publishes.keeps.same.redId
        have flag := publishes.keeps.flags trdpRedundant (by decide)
        rw [PdEle.Suppressed, flag, group]
        refine (newPublisher_suppressed_iff _ args _ socketIdx).trans (and_congr_right ?_)
        exact right.tlpGetRedundant_iff
    rw [same]
    exact flag

theorem FlagsRight.unpublish (right : FlagsRight session calls) (handle : Nat)
    : FlagsRight session (calls ++ [.unpublish handle]) := by
  intro ele member
  refine flagRight_concat_of_not (fun names => names) member ?_
  rw [run_append] at member
  change ele ∈ (tlpUnpublish handle (run redStep session calls)).2.pSndQueue at member
  unfold tlpUnpublish at member
  split at member
  · exact right ele member
  · obtain ⟨old, among, same⟩ := exists_of_mem (pdReshape_retimed _ _) member
    rw [same]
    exact right old (List.mem_of_mem_eraseP among)

/-- `tlp_setRedundant`: what it does with an element. -/
def PdEle.led (redId : U32) (leader : Bool) (ele : PdEle) : PdEle :=
  if ele.inGroup redId then
    { ele with
      privFlags :=
        if leader then without ele.privFlags trdpRedundant else ele.privFlags ||| trdpRedundant }
  else ele

theorem led_redId (redId : U32) (leader : Bool) (ele : PdEle)
    : (ele.led redId leader).redId = ele.redId := by
  unfold PdEle.led
  split <;> rfl

theorem led_suppressed_iff (redId : U32) (leader : Bool) (ele : PdEle)
    : (ele.led redId leader).Suppressed
      ↔ if ele.inGroup redId then leader = false else ele.Suppressed := by
  unfold PdEle.led
  split
  · cases leader with
    | true => exact iff_of_false not_has_without (by decide)
    | false => exact iff_of_true (has_or_self (by decide)) rfl
  · exact Iff.rfl

/-- The elements that `tlp_setRedundant` changes are those of the groups that it names, and those of
no group if it names all.
-/
theorem inGroup_iff (named : U32) (leader : Bool) (ele : PdEle)
    : ele.inGroup named = true ↔ (RedCall.setRedundant named leader).Names ele.redId := by
  simp only [PdEle.inGroup, decide_eq_true_eq, RedCall.Names]
  constructor
  · rintro (same | ⟨-, all⟩)
    · exact .inl same.symm
    · exact .inr all
  · rintro (same | all)
    · exact .inl same.symm
    · by_cases single : ele.redId = 0
      · exact .inl (single.trans all.symm)
      · exact .inr ⟨single, all⟩

theorem FlagsRight.setRedundant (right : FlagsRight session calls) (named : U32) (leader : Bool)
    (spares : SparesSingles (run redStep session calls) (.setRedundant named leader))
    : FlagsRight session (calls ++ [.setRedundant named leader]) := by
  intro ele member
  have after : ele ∈ (run redStep session calls).pSndQueue.map (PdEle.led named leader) := by
    rw [run_append] at member
    exact member
  obtain ⟨old, among, rfl⟩ := List.mem_map.mp after
  by_cases hit : old.inGroup named = true
  · have names := (inGroup_iff named leader old).mp hit
    have before : (run redStep session calls).HasGroup old.redId := ⟨old, among, rfl⟩
    have present : (run redStep session (calls ++ [.setRedundant named leader])).HasGroup
        old.redId := ⟨_, member, led_redId named leader old⟩
    have last : FollowsLast session (calls ++ [.setRedundant named leader]) old.redId
        ↔ leader = false := by
      unfold FollowsLast
      simp only [isLastSince_concat names, RedCall.setRedundant.injEq, and_iff_left present,
        and_iff_left before]
      exact ⟨fun ⟨_, _, same⟩ => same.symm, fun same => ⟨named, rfl, same.symm⟩⟩
    rw [PdEle.FlagRight, led_suppressed_iff, if_pos hit, led_redId, last]
    refine ⟨fun follower => ⟨fun single => ?_, follower⟩, And.right⟩
    have all : named = 0 := by
      rcases names with same | all
      · exact same.trans single
      · exact all
    exact spares (by rw [all, follower]) old among single
  · have other := mt (inGroup_iff named leader old).mpr hit
    have redId := led_redId named leader old
    refine flagRight_concat_of_not (redId ▸ other) member ?_
    rw [led_suppressed_iff, if_neg hit, redId]
    exact right old among

theorem FlagsRight.concat (right : FlagsRight session calls)
    (spares : SparesSingles (run redStep session calls) call)
    : FlagsRight session (calls ++ [call]) := by
  cases call with
  | publish env args => exact right.publish env args
  | unpublish handle => exact right.unpublish handle
  | setRedundant named leader => exact right.setRedundant named leader spares

/-- What is asked of the flags follows when each is right. -/
theorem FlagsRight.redundancyRight (right : FlagsRight session calls)
    : RedundancyRight session calls where
  single ele member none suppressed := ((right ele member).mp suppressed).1 none
  together ele member other among group same := by
    have first := right ele member
    have second := right other among
    rw [PdEle.FlagRight, same] at second
    exact second.trans first.symm
  groups ele member group := (right ele member).trans (and_iff_right group)
  reported ele member := by
    cases found : (run redStep session calls).pSndQueue.find? fun other =>
        other.redId = ele.redId with
    | none => exact absurd (decide_eq_true rfl) (List.find?_eq_none.mp found ele member)
    | some other =>
        have same : other.redId = ele.redId := by simpa using List.find?_some found
        have flag := right other (List.mem_of_find?_eq_some found)
        rw [PdEle.FlagRight, same] at flag
        have told : other.Suppressed ↔ ele.Suppressed := flag.trans (right ele member).symm
        have reported : tlpGetRedundant ele.redId (run redStep session calls)
            = some (decide ¬ other.Suppressed) := by
          rw [tlpGetRedundant, found]
          rfl
        rw [reported, decide_eq_decide.mpr (not_congr told)]

/-- Induction on the calls, the last one split off. -/
theorem flagsRight_of_spares (active : ∀ ele ∈ session.pSndQueue, ¬ ele.Suppressed)
    (spares : Along redStep SparesSingles session calls)
    : FlagsRight session calls := by
  induction calls using List.reverseRecOn with
  | nil =>
      intro ele member
      refine iff_of_false (active ele member) ?_
      rintro ⟨-, _, since⟩
      exact not_isLastSince_nil since
  | append_singleton calls call ih =>
      obtain ⟨earlier, last, -⟩ := (along_append calls [call]).mp spares
      exact FlagsRight.concat (ih earlier) last

/-- From a session without suppressed publishers, the flags are right after each call of a run
exactly as far as the run has no follower call for all groups that meets a publisher of no group.
-/
theorem redundancy_follows_last_call (active : ∀ ele ∈ session.pSndQueue, ¬ ele.Suppressed)
    (calls : List RedCall)
    : (∀ n, RedundancyRight session (calls.take n))
      ↔ Along redStep SparesSingles session calls := by
  constructor
  · intro right
    rw [along_iff_split]
    rintro before _ after rfl rfl ele member single
    have now := right (before.length + 1)
    have front : (before ++ RedCall.setRedundant 0 false :: after).take (before.length + 1)
        = before ++ [.setRedundant 0 false] := by
      rw [List.take_append, List.take_of_length_le (Nat.le_succ _)]
      simp
    rw [front] at now
    have changed : ele.led 0 false
        ∈ (run redStep session (before ++ [.setRedundant 0 false])).pSndQueue := by
      rw [run_append]
      exact List.mem_map_of_mem member
    refine now.single _ changed ((led_redId 0 false ele).trans single) ?_
    rw [led_suppressed_iff, if_pos ((inGroup_iff 0 false ele).mpr (.inr rfl))]
  · intro spares n
    have whole := spares
    rw [← List.take_append_drop n calls] at whole
    exact (flagsRight_of_spares active ((along_append _ _).mp whole).1).redundancyRight

/-- A publisher of a group, or of none. -/
def groupMember (handle : Nat) (comId redId : U32) : RedCall :=
  .publish (publishEnv handle) { cyclicPublisher none with comId, redId }

/-- A second publisher joins a group that follows. -/
theorem redundancy_follows_last_call_joined
    : RedundancyRight openedSession
        [groupMember 1 1000 7, .setRedundant 7 false, groupMember 2 1001 7] := by
  let calls := [groupMember 1 1000 7, .setRedundant 7 false, groupMember 2 1001 7]
  refine (redundancy_follows_last_call ?_ calls).mpr ⟨nofun, nofun, nofun, trivial⟩ 3
  exact fun ele member => absurd member List.not_mem_nil

/-- A follower call for all groups silences a publisher of no group. -/
theorem redundancy_follows_last_call_silenced
    : ¬ ∀ n, RedundancyRight openedSession
        ([groupMember 1 1000 0, .setRedundant 0 false].take n) := by
  intro right
  have silenced : ∃ ele ∈ (run redStep openedSession
      [groupMember 1 1000 0, .setRedundant 0 false]).pSndQueue,
      ele.redId = 0 ∧ ele.Suppressed := by
    decide +kernel
  obtain ⟨ele, member, single, suppressed⟩ := silenced
  exact (right 2).single ele member single suppressed

end TsnTrdp.Trdp
