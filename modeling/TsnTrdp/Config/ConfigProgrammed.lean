import TsnTrdp.Config.ProgramAll

/-! The files that the configuration tool programs are exactly the programmable ones: on any
other file an unhelpful `qsort`, which is still a correct one, and a stale counter of stream
ids make it fail.
-/

namespace TsnTrdp.Config

open TsnTrdp Run Tadma Slots Qsort

variable {lp : TadmaLocal} {prior st final : TadmaState} {settings : List StreamSetting}
  {order : List TadmaStream} {results : List (Except Errno Unit)}

/-- A driver without streams that has used up its stream ids. -/
def staleState : TadmaState := { TadmaState.loaded with getSid := 0x80000000 }

/-- Where the tool programs all settings it has added every request. -/
theorem Configured.adds (configured : Configured lp settings)
    {qsort : (TadmaStream → TadmaStream → Int) → List TadmaStream → List TadmaStream}
    (perm : (qsort sortbytrigger (settings.mapIdx requestOf)).Perm (settings.mapIdx requestOf))
    (done : tadmaProg lp qsort prior settings = some (results, final))
    (programs : ProgramsAll lp settings results final)
    : ∃ st, final = axienetTadmaProgram lp st ∧ Separate lp st
        ∧ AddsAll lp (axienetTadmaFlushStream lp prior)
            (qsort sortbytrigger (settings.mapIdx requestOf)) st := by
  rw [configured.prog] at done
  obtain ⟨⟨all, st⟩, reached, same⟩ := Option.map_eq_some_iff.mp done
  obtain ⟨rfl, rfl⟩ := Prod.mk.inj same
  refine ⟨st, rfl, ⟨programs.sids, programs.sfms⟩, ?_⟩
  have good : all = [] ++ List.replicate
      (qsort sortbytrigger (settings.mapIdx requestOf)).length (.ok ()) := by
    rw [perm.length_eq, List.length_mapIdx, List.nil_append]
    exact programs.succeeds
  rw [good] at reached
  exact progAdd_addsAll reached

/-- Requests that are all added to a driver with a stale counter are in an order in which
the loop runs as intended.
-/
theorem Configured.orderly_of_adds (configured : Configured lp settings)
    (perm : order.Perm (settings.mapIdx requestOf)) (separate : Separate lp st)
    (all : AddsAll lp (axienetTadmaFlushStream lp staleState) order st)
    : Orderly lp order := by
  obtain ⟨chained, -, pairs⟩ := all.separate separate Added.flushed.inChains
  refine configured.orderly perm chained ?_ ?_
  · intro a first b second bucket low
    by_contra other
    have apart : order.Pairwise fun a b =>
        tadmaBucket lp a.key.hashTag = tadmaBucket lp b.key.hashTag → ¬ a.key.SameLow b.key := by
      apply pairs.imp
      rintro a b ⟨-, told⟩ bucket low
      exact Bool.false_ne_true ((told bucket).symm.trans (hashTagEqual_iff.mpr low))
    have symmetric : Std.Symm fun a b : TadmaStream =>
        tadmaBucket lp a.key.hashTag = tadmaBucket lp b.key.hashTag → ¬ a.key.SameLow b.key :=
      ⟨fun _ _ apart bucket low => apart bucket.symm ⟨low.1.symm, low.2.symm⟩⟩
    exact apart.forall first second (fun same => other (congrArg _ same)) bucket low
  · cases order with
    | nil => simp
    | cons head later =>
        have marked := all.marked flushed_entries
          (Nat.le_of_lt lp.numStreams_lt : lp.numStreams ≤ staleState.getSid.toNat)
        exact marked_head marked fun request member =>
          ((List.pairwise_cons.mp pairs).1 request member).1 marked

/-- An orderly order starts with the request of the first setting, which is the only one
that is marked.
-/
theorem Orderly.head (orderly : Orderly lp order)
    (perm : order.Perm (settings.mapIdx requestOf)) {first : StreamSetting}
    {rest : List StreamSetting} (split : settings = first :: rest)
    : ∃ later, order = requestOf 0 first :: later ∧ ∀ request ∈ later, request.start = 0 := by
  subst split
  have member : requestOf 0 first ∈ order := perm.mem_iff.mpr (by simp)
  obtain ⟨i, bound, at'⟩ := List.getElem_of_mem member
  obtain rfl : i = 0 := (orderly.marked i _ (List.getElem?_eq_some_iff.mpr ⟨bound, at'⟩)).mp
    (by simp [requestOf])
  cases order with
  | nil => cases member
  | cons head later =>
      obtain rfl : head = requestOf 0 first := at'
      refine ⟨later, rfl, ?_⟩
      intro request member
      by_contra marked
      obtain ⟨i, bound, rfl⟩ := List.getElem_of_mem member
      have place : (requestOf 0 first :: later)[i + 1]? = some later[i] := by simp [bound]
      exact absurd ((orderly.marked (i + 1) _ place).mp marked) (Nat.succ_ne_zero i)

/-- There is no second mark, so the file is short. -/
theorem Orderly.short (orderly : Orderly lp order)
    (perm : order.Perm (settings.mapIdx requestOf))
    : settings.length ≤ 256 := by
  by_contra long
  have bound : 256 < settings.length := Nat.lt_of_not_le long
  obtain ⟨first, rest, rfl⟩ := List.exists_cons_of_ne_nil 
    (List.ne_nil_of_length_pos (Nat.zero_lt_of_lt bound))
  obtain ⟨later, rfl, unmarked⟩ := orderly.head perm rfl
  rw [List.mapIdx_cons] at perm
  have bound : 255 < rest.length := Nat.lt_of_succ_lt_succ bound
  have again : requestOf 256 rest[255] ∈ later :=
    ((List.perm_cons _).mp perm).mem_iff.mpr (List.mem_mapIdx.mpr ⟨255, bound, rfl⟩)
  exact absurd (unmarked _ again) (by simp [requestOf])

/-- Unless the comparator is consistent on the requests, the adversary moves the mark away
from the head.
-/
theorem Orderly.consistent
    (orderly : Orderly lp (adversary sortbytrigger (settings.mapIdx requestOf)))
    {first : StreamSetting} {rest : List StreamSetting} (split : settings = first :: rest)
    : Consistent sortbytrigger (settings.mapIdx requestOf) := by
  by_contra inconsistent
  obtain ⟨later, shape, -⟩ := orderly.head (adversary_correct.perm _ _) split
  subst split
  rw [adversary, if_neg inconsistent, List.mapIdx_cons, List.rotate_cons_succ,
    List.rotate_zero] at shape
  cases rest with
  | nil =>
      apply inconsistent
      apply sortbytrigger_consistent
      simp
  | cons second rest =>
      rw [List.mapIdx_cons] at shape
      have start := congrArg TadmaStream.start (List.cons.inj shape).1
      simp [requestOf] at start

/-- Programmed slots of non-decreasing triggers leave no pair of triggers far apart, as the
comparator would have put such a pair the wrong way round.
-/
theorem Added.close (added : Added lp order st)
    (perm : order.Perm (settings.mapIdx requestOf))
    (consistent : Consistent sortbytrigger (settings.mapIdx requestOf))
    (sorted : order.Pairwise fun a b => sortbytrigger a b ≤ 0)
    (programs : ProgramsAll lp settings results (axienetTadmaProgram lp st))
    : ∀ a ∈ settings, ∀ b ∈ settings, b.trigger.toNat < a.trigger.toNat + 2 ^ 31 := by
  obtain ⟨slots, slotsPerm, ascending, slot⟩ := programs.slots
  have same : order.map (fun request => request.trigger / 8)
      = slots.map fun setting => setting.trigger / 8 := by
    have lengths : order.length = slots.length := by
      rw [perm.length_eq, slotsPerm.length_eq, List.length_mapIdx]
    apply List.ext_getElem
    · rw [List.length_map, List.length_map, lengths]
    · intro i bound bound'
      rw [List.length_map] at bound bound'
      have one := added.slots (List.getElem?_eq_getElem bound)
      have other := (slot i _ (List.getElem?_eq_getElem bound')).2
      rw [one] at other
      simpa [sfmWords] using other
  have ordered : order.Pairwise fun a b => a.trigger / 8 ≤ b.trigger / 8 := by
    have programmed := List.pairwise_map.mpr (ascending.imp
      fun {a b : StreamSetting} (le : a.trigger ≤ b.trigger) =>
        (BitVec.le_def.mpr (Nat.div_le_div_right (BitVec.le_def.mp le))
          : a.trigger / 8 ≤ b.trigger / 8))
    rw [← same] at programmed
    exact List.pairwise_map.mp programmed
  -- The pair may stand either way round in the order, so the relation is made symmetric.
  have upward : order.Pairwise fun a b =>
      (a.trigger.toNat + 2 ^ 31 ≤ b.trigger.toNat → sortbytrigger a b ≤ 0)
        ∧ (b.trigger.toNat + 2 ^ 31 ≤ a.trigger.toNat → sortbytrigger b a ≤ 0) := by
    apply (sorted.and ordered).imp
    rintro a b ⟨before, slots⟩
    refine ⟨fun _ => before, fun far => ?_⟩
    have numbers : a.trigger.toNat / 8 ≤ b.trigger.toNat / 8 := by
      simpa [BitVec.le_def] using slots
    omega
  have symmetric : Std.Symm fun a b : TadmaStream =>
      (a.trigger.toNat + 2 ^ 31 ≤ b.trigger.toNat → sortbytrigger a b ≤ 0)
        ∧ (b.trigger.toNat + 2 ^ 31 ≤ a.trigger.toNat → sortbytrigger b a ≤ 0) :=
    ⟨fun _ _ pair => ⟨pair.2, pair.1⟩⟩
  intro a first b second
  obtain ⟨ra, member, rfl⟩ := mem_settings.mp first
  obtain ⟨rb, member', rfl⟩ := mem_settings.mp second
  by_contra wide
  have far : ra.trigger.toNat + 2 ^ 31 ≤ rb.trigger.toNat := Nat.le_of_not_lt wide
  have distinct : ra ≠ rb := by
    rintro rfl
    omega
  have before := (upward.forall (perm.mem_iff.mpr member) (perm.mem_iff.mpr member') distinct).1 far
  have sign := consistent.sign rb member' ra member
  rcases sortbytrigger_far far with after | ⟨both, both'⟩ <;> omega

/-- The adversary would put a setting whose trigger is not larger before the first one. -/
theorem Orderly.first
    (orderly : Orderly lp (adversary sortbytrigger (settings.mapIdx requestOf)))
    (consistent : Consistent sortbytrigger (settings.mapIdx requestOf))
    (close : ∀ a ∈ settings, ∀ b ∈ settings, b.trigger.toNat < a.trigger.toNat + 2 ^ 31)
    : ∀ a ∈ settings.head?, ∀ b ∈ settings.tail, a.trigger < b.trigger := by
  intro first head b member
  obtain ⟨rest, split⟩ : ∃ rest, settings = first :: rest :=
    ⟨settings.tail, List.eq_cons_of_mem_head? head⟩
  obtain ⟨later, shape, unmarked⟩ := orderly.head (adversary_correct.perm _ _) split
  subst split
  rw [List.tail_cons] at member
  obtain ⟨i, bound, rfl⟩ := List.getElem_of_mem member
  by_contra above
  have pair : [requestOf 0 first, requestOf (i + 1) rest[i]].Sublist
      ((first :: rest).mapIdx requestOf) := by
    rw [List.mapIdx_cons]
    exact List.Sublist.cons_cons _
      (List.singleton_sublist.mpr (List.mem_mapIdx.mpr ⟨i, bound, rfl⟩))
  have may : sortbytrigger (requestOf (i + 1) rest[i]) (requestOf 0 first) ≤ 0 := by
    have ab := close first List.mem_cons_self rest[i] (List.mem_cons_of_mem _ member)
    have ba := close rest[i] (List.mem_cons_of_mem _ member) first List.mem_cons_self
    have le := BitVec.le_def.mp (BitVec.not_lt.mp above)
    rw [sortbytrigger_close]
    all_goals
      simp only [requestOf] at *
      omega
  have turned := consistent.reverseTies_turns pair may
  rw [adversary, if_pos consistent] at shape
  rw [shape] at turned
  have behind : requestOf 0 first ∈ later := List.singleton_sublist.mp turned.tail
  exact absurd (unmarked _ behind) (by simp [requestOf])

theorem Programmable.of_programs (configured : Configured lp settings)
    (programs
      : ∃ results final, tadmaProg lp adversary staleState settings = some (results, final)
        ∧ ProgramsAll lp settings results final)
    : Programmable lp settings := by
  obtain ⟨results, final, done, programs⟩ := programs
  have perm := adversary_correct.perm sortbytrigger (settings.mapIdx requestOf)
  obtain ⟨st, rfl, separate, all⟩ := configured.adds perm done programs
  have orderly := configured.orderly_of_adds perm separate all
  obtain ⟨first, rest, split⟩ := List.exists_cons_of_ne_nil configured.nonempty
  have consistent := orderly.consistent split
  have sorted := adversary_correct.sorted sortbytrigger _ consistent
  have added := all.added orderly Added.flushed
  have close := added.close perm consistent sorted programs
  exact {
    short := orderly.short perm
    first := orderly.first consistent close
    close := close
    chained := by
      intro a setting
      obtain ⟨request, member, rfl⟩ := mem_settings.mp setting
      exact orderly.chained request (perm.mem_iff.mpr member)
    apart := by
      intro a setting b setting'
      obtain ⟨request, member, rfl⟩ := mem_settings.mp setting
      obtain ⟨other, member', rfl⟩ := mem_settings.mp setting'
      exact orderly.apart request (perm.mem_iff.mpr member) other (perm.mem_iff.mpr member') }

/-- For settings within the limits, in any order: the tool programs them all, on every
correct `qsort` and from every state of the driver, exactly if the file is programmable.
-/
theorem config_programmed (configured : Configured lp settings)
    : (∀ qsort, Correct qsort → ∀ prior, ∃ results final,
          tadmaProg lp qsort prior settings = some (results, final)
            ∧ ProgramsAll lp settings results final)
      ↔ Programmable lp settings := by
  constructor
  · intro programs
    exact .of_programs configured (programs adversary adversary_correct staleState)
  · intro file qsort correct prior
    exact file.programs configured correct prior

/-- A setting for one communication id at 239.0.0.1, with one frame at `trigger`. -/
def settingAt (comid trigger : U32) : StreamSetting := ⟨groupIp, comid, trigger, 1⟩

/-- A file that lists its settings in the order of their triggers. -/
def inOrder : List StreamSetting :=
  [settingAt 1000 100000, settingAt 1001 200000, settingAt 1002 200000]

theorem inOrder_configured : Configured defaultLocal inOrder where
  nonempty := by decide
  distinct := by decide
  counts := by decide
  fits := by decide

theorem config_programmed_in_order
    : ∃ results final,
        tadmaProg defaultLocal adversary .loaded inOrder = some (results, final)
          ∧ ProgramsAll defaultLocal inOrder results final := by
  refine (config_programmed inOrder_configured).mpr ⟨?_, ?_, ?_, ?_, ?_⟩ adversary
    adversary_correct .loaded
  all_goals decide

/-- A file that lists its first trigger last. -/
def lastFirst : List StreamSetting := [settingAt 1000 200000, settingAt 1001 100000]

def lastFirstFinal : TadmaState :=
  ((tadmaProg defaultLocal (fun _ => List.reverse) .loaded lastFirst).getD ([], .loaded)).2

theorem lastFirst_sorted
    {qsort : (TadmaStream → TadmaStream → Int) → List TadmaStream → List TadmaStream}
    (correct : Correct qsort)
    : qsort sortbytrigger (lastFirst.mapIdx requestOf) = (lastFirst.mapIdx requestOf).reverse := by
  have perm := correct.perm sortbytrigger (lastFirst.mapIdx requestOf)
  have sorted := correct.sorted sortbytrigger (lastFirst.mapIdx requestOf)
    (sortbytrigger_consistent (by decide))
  generalize qsort sortbytrigger (lastFirst.mapIdx requestOf) = order at perm sorted
  match order, perm.length_eq with
  | [a, b], _ =>
      have orders : ∀ a ∈ lastFirst.mapIdx requestOf, ∀ b ∈ lastFirst.mapIdx requestOf,
          [a, b].Perm (lastFirst.mapIdx requestOf)
            → [a, b].Pairwise (fun a b => sortbytrigger a b ≤ 0)
            → [a, b] = (lastFirst.mapIdx requestOf).reverse := by
        decide
      exact orders a (perm.mem_iff.mp (by simp)) b (perm.mem_iff.mp (by simp)) perm sorted

/-- The mark is on the request that is added last: the counters start again and both streams
get stream id 0, on every correct `qsort` and a driver just loaded.
-/
theorem config_misprogrammed
    : Configured defaultLocal lastFirst
      ∧ ∀ qsort, Correct qsort
        → tadmaProg defaultLocal qsort .loaded lastFirst
            = some ([.ok (), .ok ()], lastFirstFinal)
          ∧ ∀ results, ¬ ProgramsAll defaultLocal lastFirst results lastFirstFinal := by
  refine ⟨⟨by decide, by decide, by decide, by decide⟩, ?_⟩
  intro qsort correct
  constructor
  · have same : tadmaProg defaultLocal qsort .loaded lastFirst
        = tadmaProg defaultLocal (fun _ => List.reverse) .loaded lastFirst := by
      simp only [tadmaProg, lastFirst_sorted correct]
    exact same
  · intro results programs
    have sids := programs.sids
    revert sids
    decide

end TsnTrdp.Config
