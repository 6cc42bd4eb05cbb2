import TsnTrdp.Trdp.SendThread

/-! What `tlc_getInterval` tells a caller that is to select: the time to the first job of the
session, and its descriptors. A job at time zero passes for none at all, and a descriptor that the
set has already does not count for the highest one.
-/

namespace TsnTrdp.Trdp

open TrdpTime

-----------------------------------------------------------------------------------------
-- The times of the jobs
-----------------------------------------------------------------------------------------

/-- The times of the jobs that a session waits for, in the order in which they are looked at. -/
def TrdpSession.jobs (session : TrdpSession) : List TrdpTime :=
  (((session.pRcvQueue.filter fun ele => ¬ Has ele.privFlags trdpTimedOut)
    ++ session.pSndQueue).filter fun ele => ele.interval.IsSet).map PdEle.timeToGo

/-- The microseconds until the first of these times, but none if it has passed, and 1000 s if there
is no time.
-/
def usecsToFirst (times : List TrdpTime) (now : TrdpTime) : Int :=
  match (times.map usecs).min? with
  | none => 1000 * 1000000
  | some first => max 0 (first - now.usecs)

/-- After every time zero there is another time, not zero, that has passed. -/
def ZerosFollowed (now : TrdpTime) : List TrdpTime → Prop
  | [] => True
  | t :: rest =>
      (t.IsSet ∨ ∃ next ∈ rest, next.IsSet ∧ next.usecs ≤ now.usecs) ∧ ZerosFollowed now rest

instance (now : TrdpTime) : (times : List TrdpTime) → Decidable (ZerosFollowed now times)
  | [] => inferInstanceAs (Decidable True)
  | t :: rest =>
      have := instDecidableZerosFollowed now rest
      inferInstanceAs (Decidable ((t.IsSet ∨ ∃ next ∈ rest, _) ∧ ZerosFollowed now rest))

/-- `tlc_getInterval`: what is told if this is the time of the next job. -/
def waitFor (nextJob now : TrdpTime) : TrdpTime :=
  if nextJob.IsSet ∧ nextJob.After now then vosSubTime nextJob now
  else if nextJob.IsSet then ⟨0, 0⟩ else ⟨1000, 0⟩

/-- `trdp_pdCheckPending`: the earlier of two times, where the first may be unset. -/
def earlier (nextJob t : TrdpTime) : TrdpTime :=
  if nextJob.After t ∨ ¬ nextJob.IsSet then t else nextJob

variable {now nextJob t : TrdpTime} {times : List TrdpTime} {session : TrdpSession}

/-- The search takes the times of the jobs one by one. -/
theorem foldl_nextJobOf_eq (queue : List PdEle) (nextJob : TrdpTime)
    : queue.foldl nextJobOf nextJob
      = ((queue.filter fun ele => ele.interval.IsSet).map PdEle.timeToGo).foldl earlier
          nextJob := by
  induction queue generalizing nextJob with
  | nil => rfl
  | cons ele rest ih =>
      rw [List.foldl_cons, ih]
      by_cases cyclic : ele.interval.IsSet
      · simp only [nextJobOf, earlier, cyclic, true_and, decide_true, List.filter_cons_of_pos,
          List.map_cons, List.foldl_cons]
      · simp only [nextJobOf, cyclic, false_and, if_false, decide_false, List.filter_cons,
          Bool.false_eq_true]

theorem usecs_waitFor_of_set (normal : nextJob.Normal) (clock : now.Normal) (set : nextJob.IsSet)
    : (waitFor nextJob now).usecs = max 0 (nextJob.usecs - now.usecs) := by
  have later := after_iff normal clock
  unfold waitFor
  by_cases ahead : nextJob.After now
  · rw [if_pos ⟨set, ahead⟩, usecs_vosSubTime]
    have := later.mp ahead
    omega
  · rw [if_neg (fun both => ahead both.2), if_pos set]
    have := mt later.mpr ahead
    change (0 : Int) = _
    omega

theorem usecs_waitFor_unset (now : TrdpTime) : (waitFor .cleared now).usecs = 1000 * 1000000 := by
  rfl

theorem eq_cleared_of_not_isSet (unset : ¬ t.IsSet) : t = .cleared := by
  obtain ⟨sec, usec⟩ := t
  simp only [IsSet, not_or, not_not] at unset
  obtain ⟨rfl, rfl⟩ := unset
  rfl

/-- A time that is set is only exchanged for an earlier one. -/
theorem earlier_of_set (normal : nextJob.Normal) (timed : t.Normal) (set : nextJob.IsSet)
    : earlier nextJob t = (if t.usecs < nextJob.usecs then t else nextJob) := by
  have order := after_iff normal timed
  unfold earlier
  simp only [set, not_true_eq_false, or_false, order]

/-- What the search ends with is one of the times, if it is not what it began with. -/
theorem foldl_earlier_mem (times : List TrdpTime) (nextJob : TrdpTime)
    : times.foldl earlier nextJob = nextJob ∨ times.foldl earlier nextJob ∈ times := by
  induction times generalizing nextJob with
  | nil => exact .inl rfl
  | cons t rest ih =>
      rw [List.foldl_cons]
      rcases ih (earlier nextJob t) with same | member
      · rw [same, earlier]
        split
        · exact .inr List.mem_cons_self
        · exact .inl rfl
      · exact .inr (List.mem_cons_of_mem _ member)

/-- The wait for the first of these times, told as it is if `nextJob` is the one found. -/
def Told (now : TrdpTime) (times : List TrdpTime) (nextJob : TrdpTime) : Prop :=
  (waitFor nextJob now).usecs = usecsToFirst times now

theorem usecsToFirst_cons (t : TrdpTime) (times : List TrdpTime) (now : TrdpTime)
    : usecsToFirst (t :: times) now
      = max 0 ((times.map usecs).foldl min t.usecs - now.usecs) := by
  rfl

/-- No time is before zero, so that a zero among the times is the first of them. -/
theorem foldl_min_zero {start : Int} (nonneg : 0 ≤ start) (normal : ∀ t ∈ times, t.Normal)
    (zero : start = 0 ∨ ∃ t ∈ times, t.usecs = 0)
    : (times.map usecs).foldl min start = 0 := by
  induction times generalizing start with
  | nil => exact zero.resolve_right (by simp)
  | cons t rest ih =>
      have timed := normal t List.mem_cons_self
      have here : 0 ≤ t.usecs := by
        obtain ⟨sec, usec, -⟩ := timed
        unfold usecs
        omega
      rw [List.map_cons, List.foldl_cons]
      refine ih (by omega) (fun other member => normal other (List.mem_cons_of_mem _ member)) ?_
      rcases zero with rfl | ⟨other, member, zero⟩
      · exact .inl (by omega)
      rcases List.mem_cons.mp member with rfl | later
      · exact .inl (by omega)
      · exact .inr ⟨other, later, zero⟩

/-- A time that has passed leaves nothing to wait for. -/
theorem usecsToFirst_of_passed {passed : TrdpTime} (member : passed ∈ times)
    (early : passed.usecs ≤ now.usecs)
    : usecsToFirst times now = 0 := by
  have first : ∃ first, (times.map usecs).min? = some first ∧ first ≤ passed.usecs := by
    have listed := List.mem_map_of_mem (f := usecs) member
    obtain ⟨first, found⟩ := Option.ne_none_iff_exists'.mp
      (mt List.min?_eq_none_iff.mp (List.ne_nil_of_mem listed))
    exact ⟨first, found, (List.min?_eq_some_iff.mp found).2 _ listed⟩
  obtain ⟨first, found, earlier⟩ := first
  rw [usecsToFirst, found]
  dsimp only
  omega

/-- After a zero nothing is waited for exactly if a time that has passed follows, and the search
tells the wait for what follows.
-/
theorem waitFor_after_zero (clock : now.Normal) (timed : ∀ t ∈ times, t.Normal)
    : (waitFor (times.foldl earlier .cleared) now).usecs = 0
      ↔ (∃ next ∈ times, next.IsSet ∧ next.usecs ≤ now.usecs)
        ∧ Told now times (times.foldl earlier .cleared) := by
  constructor
  · intro none
    have found := foldl_earlier_mem times .cleared
    generalize times.foldl earlier .cleared = first at none found ⊢
    have set : first.IsSet := by
      by_contra unset
      rw [eq_cleared_of_not_isSet unset, usecs_waitFor_unset] at none
      omega
    have member : first ∈ times := by
      refine found.resolve_left fun same => ?_
      rw [same] at set
      revert set
      decide
    have wait := usecs_waitFor_of_set (timed first member) clock set
    have passed : first.usecs ≤ now.usecs := by omega
    exact ⟨⟨first, member, set, passed⟩, none.trans (usecsToFirst_of_passed member passed).symm⟩
  · rintro ⟨⟨next, member, -, passed⟩, told⟩
    exact told.trans (usecsToFirst_of_passed member passed)

/-- The search, from a time that is set as well as from none, tells the wait exactly if zeros are
followed. Induction on the times: a zero leads to the search from none.
-/
theorem told_iff (clock : now.Normal) (timed : ∀ t ∈ times, t.Normal)
    : (∀ start : TrdpTime, start.Normal → start.IsSet
        → (Told now (start :: times) (times.foldl earlier start) ↔ ZerosFollowed now times))
      ∧ (Told now times (times.foldl earlier .cleared) ↔ ZerosFollowed now times) := by
  induction times with
  | nil =>
      refine ⟨fun start normal set => ?_, ?_⟩
      · exact iff_of_true (usecs_waitFor_of_set normal clock set) trivial
      · exact iff_of_true (usecs_waitFor_unset now) trivial
  | cons t rest ih =>
      have normal := timed t List.mem_cons_self
      have restTimed := fun other member => timed other (List.mem_cons_of_mem t member)
      obtain ⟨fromSet, fromNone⟩ := ih restTimed
      have zero : ¬ t.IsSet → (ZerosFollowed now (t :: rest)
          ↔ (waitFor (rest.foldl earlier .cleared) now).usecs = 0) := by
        intro unset
        rw [waitFor_after_zero clock restTimed, fromNone]
        simp only [ZerosFollowed, unset, false_or]
      have follows : t.IsSet → (ZerosFollowed now (t :: rest) ↔ ZerosFollowed now rest) := by
        intro here
        simp only [ZerosFollowed, here, true_or, true_and]
      have late : 0 ≤ now.usecs := by
        obtain ⟨sec, usec, -⟩ := clock
        unfold usecs
        omega
      have still : ¬ t.IsSet → earlier .cleared t = .cleared := by
        intro unset
        rw [eq_cleared_of_not_isSet unset]
        rfl
      constructor
      · intro start startNormal set
        have positive := (isSet_iff startNormal).mp set
        have least := usecsToFirst_cons start (t :: rest) now
        have exchange := earlier_of_set startNormal normal set
        rw [List.foldl_cons]
        by_cases here : t.IsSet
        · rw [List.map_cons, List.foldl_cons] at least
          rw [follows here, exchange]
          split
          · rename_i before
            rw [← fromSet t normal here, Told, Told, least, usecsToFirst_cons,
              min_eq_right before.le]
          · rename_i notBefore
            rw [← fromSet start startNormal set, Told, Told, least, usecsToFirst_cons,
              min_eq_left (not_lt.mp notBefore)]
        · have unsetNow : earlier start t = .cleared := by
            rw [exchange, eq_cleared_of_not_isSet here]
            exact if_pos positive
          rw [foldl_min_zero positive.le timed
            (.inr ⟨t, List.mem_cons_self, by rw [eq_cleared_of_not_isSet here]; rfl⟩)] at least
          rw [zero here, unsetNow, Told, least]
          omega
      · rw [List.foldl_cons]
        by_cases here : t.IsSet
        · have taken : earlier .cleared t = t := if_pos (.inr (by decide))
          rw [taken, follows here]
          exact fromSet t normal here
        · have least := usecsToFirst_cons t rest now
          rw [foldl_min_zero (by rw [eq_cleared_of_not_isSet here]; decide) restTimed
            (.inl (by rw [eq_cleared_of_not_isSet here]; rfl))] at least
          rw [zero here, still here, Told, least]
          omega

-----------------------------------------------------------------------------------------
-- The descriptors
-----------------------------------------------------------------------------------------

/-- The open sockets of the subscriptions. -/
def openSocks (iface : Int → Int) (queue : List PdEle) : List Int :=
  (queue.filter fun ele => ele.socketIdx ≠ trdpInvalidSocketIndex ∧ iface ele.socketIdx ≠ -1).map
    fun ele => iface ele.socketIdx

/-- `trdp_mdCheckPending` where the queues of the message data are empty: the listening socket and
the connections, which count for the highest descriptor in any case.
-/
def mdCheckTcp (tcpSocks : List Int) (descs : FileDescs) : FileDescs :=
  tcpSocks.foldl (fun descs sock => descs.add sock) descs

/-- Descriptors come into a set, where those that it did not have count for the highest one. -/
structure FdsAdded (socks : List Int) (descs descs' : FileDescs) : Prop where
  mem : ∀ sock, sock ∈ descs'.pFileDesc ↔ sock ∈ descs.pFileDesc ∨ sock ∈ socks
  le : descs.noDesc ≤ descs'.noDesc
  new : ∀ sock ∈ socks, sock ∉ descs.pFileDesc → sock ≤ descs'.noDesc
  highest
    : descs'.noDesc = descs.noDesc
      ∨ (descs'.noDesc ∈ socks ∧ descs'.noDesc ∉ descs.pFileDesc)

variable {socks socks' : List Int} {descs descs' descs'' : FileDescs} {iface : Int → Int}

theorem FdsAdded.refl (descs : FileDescs) : FdsAdded [] descs descs where
  mem _ := by simp
  le := le_rfl
  new _ member := absurd member List.not_mem_nil
  highest := .inl rfl

theorem FdsAdded.trans (first : FdsAdded socks descs descs')
    (second : FdsAdded socks' descs' descs'')
    : FdsAdded (socks ++ socks') descs descs'' where
  mem sock := by rw [second.mem, first.mem, List.mem_append, or_assoc]
  le := first.le.trans second.le
  new sock member absent := by
    rcases List.mem_append.mp member with early | late
    · exact (first.new sock early absent).trans second.le
    · by_cases present : sock ∈ descs'.pFileDesc
      · have early := ((first.mem sock).mp present).resolve_left absent
        exact (first.new sock early absent).trans second.le
      · exact second.new sock late present
  highest := by
    rcases second.highest with same | ⟨late, absent⟩
    · rw [same]
      exact first.highest.imp_right fun ⟨early, absent⟩ => ⟨List.mem_append_left _ early, absent⟩
    · refine .inr ⟨List.mem_append_right _ late, fun present => absent ?_⟩
      exact (first.mem _).mpr (.inl present)

theorem FdsAdded.pdAddDesc (iface : Int → Int) (descs : FileDescs) (ele : PdEle)
    : FdsAdded (openSocks iface [ele]) descs (Trdp.pdAddDesc iface descs ele) := by
  by_cases isOpen : ele.socketIdx ≠ trdpInvalidSocketIndex ∧ iface ele.socketIdx ≠ -1
  · have socks : openSocks iface [ele] = [iface ele.socketIdx] := by
      simp only [openSocks, List.filter_cons, isOpen, ne_eq, not_false_eq_true, and_self,
        decide_true, if_true, List.filter_nil, List.map_cons, List.map_nil]
    rw [socks]
    by_cases present : iface ele.socketIdx ∈ descs.pFileDesc
    · have same : Trdp.pdAddDesc iface descs ele = descs := if_neg fun all => all.2.2 present
      rw [same]
      refine ⟨fun sock => ?_, le_rfl, ?_, .inl rfl⟩
      · rw [List.mem_singleton, or_iff_left_of_imp]
        rintro rfl
        exact present
      · intro sock member absent
        obtain rfl := List.mem_singleton.mp member
        exact absurd present absent
    · have added : Trdp.pdAddDesc iface descs ele = descs.add (iface ele.socketIdx) :=
        if_pos ⟨isOpen.1, isOpen.2, present⟩
      rw [added, FileDescs.add]
      refine ⟨fun sock => by rw [List.mem_append], ?_, ?_, ?_⟩
      · dsimp only
        split <;> omega
      · intro sock member _
        obtain rfl := List.mem_singleton.mp member
        dsimp only
        split <;> omega
      · dsimp only
        split
        · exact .inr ⟨List.mem_singleton_self _, present⟩
        · exact .inl rfl
  · have none : openSocks iface [ele] = [] := by
      simp only [openSocks, List.filter_cons, isOpen, decide_false, Bool.false_eq_true, if_false,
        List.filter_nil, List.map_nil]
    have same : Trdp.pdAddDesc iface descs ele = descs :=
      if_neg fun all => isOpen ⟨all.1, all.2.1⟩
    rw [none, same]
    exact .refl descs

theorem openSocks_cons (iface : Int → Int) (ele : PdEle) (queue : List PdEle)
    : openSocks iface (ele :: queue) = openSocks iface [ele] ++ openSocks iface queue := by
  unfold openSocks
  rw [← List.map_append, ← List.filter_append, List.singleton_append]

theorem FdsAdded.foldl_pdAddDesc (iface : Int → Int) (queue : List PdEle) (descs : FileDescs)
    : FdsAdded (openSocks iface queue) descs (queue.foldl (Trdp.pdAddDesc iface) descs) := by
  induction queue generalizing descs with
  | nil => exact .refl descs
  | cons ele rest ih =>
      rw [openSocks_cons]
      exact (FdsAdded.pdAddDesc iface descs ele).trans (ih _)

/-- The connections come into the set, and all of them count for the highest descriptor. -/
theorem mdCheckTcp_spec (tcpSocks : List Int) (descs : FileDescs)
    : (∀ sock, sock ∈ (mdCheckTcp tcpSocks descs).pFileDesc
          ↔ sock ∈ descs.pFileDesc ∨ sock ∈ tcpSocks)
      ∧ ∀ sock, sock ≤ (mdCheckTcp tcpSocks descs).noDesc
          ↔ sock ≤ descs.noDesc ∨ ∃ other ∈ tcpSocks, sock ≤ other := by
  induction tcpSocks generalizing descs with
  | nil => simp [mdCheckTcp]
  | cons tcp rest ih =>
      obtain ⟨mem, le⟩ := ih (descs.add tcp)
      have once : mdCheckTcp (tcp :: rest) descs = mdCheckTcp rest (descs.add tcp) := rfl
      rw [once]
      constructor
      · intro sock
        rw [mem, FileDescs.add, List.mem_append, List.mem_singleton, List.mem_cons, or_assoc]
      · intro sock
        have step : sock ≤ (descs.add tcp).noDesc ↔ sock ≤ descs.noDesc ∨ sock ≤ tcp := by
          rw [FileDescs.add]
          dsimp only
          split <;> omega
        rw [le, step, or_assoc, List.exists_mem_cons_iff]

-----------------------------------------------------------------------------------------
-- The result
-----------------------------------------------------------------------------------------

theorem mem_jobs : t ∈ session.jobs ↔ ∃ ele, session.Awaits ele ∧ ele.timeToGo = t := by
  simp only [TrdpSession.jobs, TrdpSession.Awaits, List.mem_map, List.mem_filter, List.mem_append,
    decide_eq_true_eq]
  refine exists_congr fun ele => and_congr_left fun _ => ?_
  rw [and_comm, or_comm]

/-- A caller with a set of descriptors, in a session without message data but for these TCP
sockets.
-/
def selectEnv (clock : Clock) (iface : Int → Int) (tcpSocks : List Int) : IntervalEnv where
  isValidSession := true
  mutexLock := .noErr
  clock
  iface
  trdpMdCheckPending := mdCheckTcp tcpSocks

variable {clock : Clock} {tcpSocks fileDesc : List Int} {noDesc : Int} {tv : TrdpTime}

/-- What `tlc_getInterval` does for such a caller. -/
theorem tlcGetInterval_select (clock : Clock) (iface : Int → Int) (tcpSocks : List Int)
    (tv : TrdpTime) (fileDesc : List Int) (noDesc : Int) (session : TrdpSession)
    : let descs :=
        mdCheckTcp tcpSocks (session.pRcvQueue.foldl (pdAddDesc iface) ⟨fileDesc, noDesc⟩)
      ∃ session', tlcGetInterval (selectEnv clock iface tcpSocks) (some tv) (some fileDesc)
          (some noDesc) session
        = (.noErr, session', some (waitFor (session.jobs.foldl earlier .cleared) clock.time),
          some descs.pFileDesc, some descs.noDesc) := by
  have job : (trdpPdCheckPending iface ⟨fileDesc, noDesc⟩ session).2.nextJob
      = session.jobs.foldl earlier .cleared := foldl_nextJobOf_eq _ _
  intro descs
  simp only [tlcGetInterval, selectEnv, job, Bool.not_true, Bool.false_eq_true, if_false, ne_eq,
    not_true_eq_false, waitFor]
  split
  · exact ⟨_, rfl⟩
  · split
    · exact ⟨_, rfl⟩
    · exact ⟨_, rfl⟩

/-- The caller is told the time to the next job, gets the sockets of the subscriptions into its set,
beside those of the message data, and a highest descriptor that none of them is above.
-/
def IntervalRight (clock : Clock) (iface : Int → Int) (tcpSocks : List Int) (tv : TrdpTime)
    (fileDesc : List Int) (noDesc : Int) (session : TrdpSession)
    : Prop :=
  ∃ session' interval fileDesc' noDesc',
    tlcGetInterval (selectEnv clock iface tcpSocks) (some tv) (some fileDesc) (some noDesc) session
      = (.noErr, session', some interval, some fileDesc', some noDesc')
    ∧ interval.usecs = usecsToFirst session.jobs clock.time
    ∧ (∀ sock, sock ∈ fileDesc'
      ↔ sock ∈ fileDesc ∨ sock ∈ openSocks iface session.pRcvQueue ∨ sock ∈ tcpSocks)
    ∧ noDesc ≤ noDesc'
    ∧ ∀ sock ∈ openSocks iface session.pRcvQueue, sock ≤ noDesc'

/-- Jobs at time zero are followed by others that are due, and a socket that the set has already is
not above the highest descriptor that the caller gives, or above all those that come in.
-/
structure IntervalFits (clock : Clock) (iface : Int → Int) (tcpSocks fileDesc : List Int)
    (noDesc : Int) (session : TrdpSession)
    : Prop where
  zeros : ZerosFollowed clock.time session.jobs
  covered
    : ∀ sock ∈ openSocks iface session.pRcvQueue, sock ∈ fileDesc
      → sock ≤ noDesc
        ∨ (∃ other ∈ openSocks iface session.pRcvQueue, other ∉ fileDesc ∧ sock ≤ other)
        ∨ ∃ other ∈ tcpSocks, sock ≤ other

instance
    : Decidable (IntervalFits clock iface tcpSocks fileDesc noDesc session) :=
  decidable_of_iff (_ ∧ _)
    ⟨fun ⟨zeros, covered⟩ => ⟨zeros, covered⟩, fun fits => ⟨fits.zeros, fits.covered⟩⟩

/-- For every session with normalised times, every time and every set of descriptors, the caller is
told right exactly if the jobs and the set fit.
-/
theorem interval_right_iff (clock : Clock) (iface : Int → Int) (tcpSocks : List Int)
    (tv : TrdpTime) (fileDesc : List Int) (noDesc : Int) {session : TrdpSession}
    (timed : ∀ ele, session.Awaits ele → ele.timeToGo.Normal)
    : IntervalRight clock iface tcpSocks tv fileDesc noDesc session
      ↔ IntervalFits clock iface tcpSocks fileDesc noDesc session := by
  have normal : ∀ t ∈ session.jobs, t.Normal := by
    intro t member
    obtain ⟨ele, awaits, rfl⟩ := mem_jobs.mp member
    exact timed ele awaits
  have told := (told_iff clock.normal normal).2
  have added := FdsAdded.foldl_pdAddDesc iface session.pRcvQueue ⟨fileDesc, noDesc⟩
  obtain ⟨session', result⟩ :=
    tlcGetInterval_select clock iface tcpSocks tv fileDesc noDesc session
  generalize session.pRcvQueue.foldl (pdAddDesc iface) ⟨fileDesc, noDesc⟩ = descs at added result
  obtain ⟨tcpMem, tcpLe⟩ := mdCheckTcp_spec tcpSocks descs
  constructor
  · rintro ⟨_, interval, fileDesc', noDesc', returned, wait, -, -, above⟩
    rw [result] at returned
    simp only [Prod.mk.injEq, Option.some.injEq, true_and] at returned
    obtain ⟨-, rfl, -, rfl⟩ := returned
    refine ⟨told.mp wait, fun sock isOpen present => ?_⟩
    rcases (tcpLe sock).mp (above sock isOpen) with low | tcp
    · rcases added.highest with same | ⟨new, absent⟩
      · exact .inl (low.trans_eq same)
      · exact .inr (.inl ⟨_, new, absent, low⟩)
    · exact .inr (.inr tcp)
  · rintro ⟨zeros, covered⟩
    refine ⟨_, _, _, _, result, told.mpr zeros, fun sock => ?_, ?_, fun sock isOpen => ?_⟩
    · rw [tcpMem, added.mem, or_assoc]
    · exact (tcpLe _).mpr (.inl added.le)
    · refine (tcpLe sock).mpr ?_
      by_cases present : sock ∈ fileDesc
      · rcases covered sock isOpen present with low | ⟨other, new, absent, low⟩ | tcp
        · exact .inl (low.trans added.le)
        · exact .inl (low.trans (added.new other new absent))
        · exact .inr tcp
      · exact .inl (added.new sock isOpen present)

/-- A subscription that times out at 6 s, with the socket in the first slot. -/
def awaitedSub : PdEle :=
  { PdEle.zero 1 with
    socketIdx := 0
    interval := .ofUsecs 100000
    timeToGo := .ofUsecs 6000000 }

def awaitingSession : TrdpSession := { openedSession with pRcvQueue := [awaitedSub] }

theorem awaitingSession_timed (ele : PdEle) (awaits : awaitingSession.Awaits ele)
    : ele.timeToGo.Normal := by
  rcases awaits.2 with sent | ⟨received, -⟩
  · exact absurd sent List.not_mem_nil
  · obtain rfl := List.mem_singleton.mp received
    exact normal_ofUsecs _

theorem interval_right_cleared
    : IntervalRight (clockAt 5990) (fun _ => 3) [] ⟨0, 0⟩ [] 0 awaitingSession :=
  (interval_right_iff _ _ _ _ _ _ awaitingSession_timed).mpr (by decide)

/-- The set has the socket of the subscription already, and the highest descriptor is begun anew. -/
theorem present_socket_not_counted
    : ¬ IntervalRight (clockAt 5990) (fun _ => 3) [] ⟨0, 0⟩ [3] 0 awaitingSession := by
  rintro ⟨session', interval, fileDesc', noDesc', returned, -, -, -, above⟩
  have highest : (tlcGetInterval (selectEnv (clockAt 5990) (fun _ => 3) []) (some ⟨0, 0⟩)
      (some [3]) (some 0) awaitingSession).2.2.2.2 = some 0 := by
    decide
  rw [returned] at highest
  obtain rfl := Option.some.inj highest
  exact absurd (above 3 (by decide)) (by decide)

end TsnTrdp.Trdp
