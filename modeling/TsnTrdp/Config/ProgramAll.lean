import TsnTrdp.Config.AddsAll

/-! When the configuration tool programs what its file says, whatever correct `qsort` it runs
on and whatever state it finds the driver in.
-/

namespace TsnTrdp.Config

open TsnTrdp Run Tadma Slots Qsort

variable {lp : TadmaLocal} {prior st final : TadmaState} {settings : List StreamSetting}
  {order : List TadmaStream} {results : List (Except Errno Unit)}

/-- What the tool is given: some settings, one for each pair, within the limits. -/
structure Configured (lp : TadmaLocal) (settings : List StreamSetting) : Prop where
  nonempty : settings ≠ []
  distinct : (settings.map StreamSetting.key).Nodup
  counts : ∀ setting ∈ settings, setting.count ≤ 4
  fits : settings.length ≤ min lp.numStreams lp.numEntries

/-- The setting that a request was made from. -/
def settingOf (request : TadmaStream) : StreamSetting :=
  ⟨request.ip, request.comid, request.trigger, request.count⟩

theorem requests_settings (settings : List StreamSetting)
    : (settings.mapIdx requestOf).map settingOf = settings := by
  apply List.ext_getElem
  · simp
  · intro i _ _
    simp [settingOf, requestOf]

theorem entries_numbered {number : StreamEntry → Nat} (numbers : ∀ i a, number (entryAt i a) = i)
    : (order.mapIdx entryAt).map number = List.range order.length := by
  apply List.ext_getElem
  · simp
  · intro i _ _
    simp [numbers]

theorem flushed_chain {i : Nat} (bound : i < lp.numEntries)
    : (axienetTadmaFlushStream lp prior).streamHash i = [] :=
  if_pos bound

theorem flushed_entries : (axienetTadmaFlushStream lp prior).entries lp = [] := by
  apply List.eq_nil_iff_forall_not_mem.mpr
  intro e member
  obtain ⟨i, bound, member⟩ := Chains.mem_entries.mp member
  rw [flushed_chain bound] at member
  cases member

theorem Added.flushed : Added lp [] (axienetTadmaFlushStream lp prior) where
  inChains := fun i bound e member => by simp [flushed_chain bound] at member
  entries := by simp [flushed_entries]
  counters := fun some => absurd rfl some

theorem Added.sfms (added : Added lp order st) : ((st.entries lp).map StreamEntry.sfm).Nodup := by
  rw [(added.entries.map _).nodup_iff, entries_numbered fun _ _ => rfl]
  exact List.nodup_range

theorem Added.sids (added : Added lp order st) : ((st.entries lp).map StreamEntry.sid).Nodup := by
  rw [(added.entries.map _).nodup_iff, entries_numbered fun _ _ => rfl]
  exact List.nodup_range

/-- Programming writes the requests into the slots in their order. -/
theorem Added.slots (added : Added lp order st) {i : Nat} {request : TadmaStream}
    (at' : order[i]? = some request)
    : sfmRead (axienetTadmaProgram lp st).activeSfm (axienetTadmaProgram lp st).regs i
      = sfmWords i request.trigger request.count := by
  obtain ⟨bound, rfl⟩ := List.getElem?_eq_some_iff.mp at'
  have live : entryAt i order[i] ∈ st.entries lp :=
    added.entries.mem_iff.mpr (List.mem_mapIdx.mpr ⟨i, bound, rfl⟩)
  exact (program_memory i).trans
    ((sfm_independent st.activeSfm).writeAll_same added.sfms live)

theorem Added.streams (added : Added lp order st)
    (perm : order.Perm (settings.mapIdx requestOf))
    : ((st.entries lp).map fun e => (e.hashtag, e.tticks, e.count)).Perm
        (settings.map fun setting => (setting.key.hashTag, setting.trigger, setting.count)) := by
  have data : (order.mapIdx entryAt).map (fun e => (e.hashtag, e.tticks, e.count))
      = (order.map settingOf).map
        fun setting => (setting.key.hashTag, setting.trigger, setting.count) := by
    apply List.ext_getElem
    · simp
    · intro i _ _
      simp only [List.getElem_map, List.getElem_mapIdx]
      rfl
  have settled := perm.map settingOf
  rw [requests_settings] at settled
  refine (added.entries.map _).trans ?_
  rw [data]
  exact settled.map _

/-- The tool programs all settings where it adds them in order and the order is that of the
triggers.
-/
theorem Added.programsAll (added : Added lp order st)
    (perm : order.Perm (settings.mapIdx requestOf))
    (ascending : order.Pairwise fun a b => a.trigger ≤ b.trigger)
    : ProgramsAll lp settings (List.replicate order.length (.ok ()))
        (axienetTadmaProgram lp st) := by
  have settled := perm.map settingOf
  rw [requests_settings] at settled
  refine ⟨?_, added.streams perm, added.sids, added.sfms, order.map settingOf, settled, ?_, ?_⟩
  · rw [perm.length_eq, List.length_mapIdx]
  · exact List.pairwise_map.mpr ascending
  · intro i setting at'
    rw [List.getElem?_map, Option.map_eq_some_iff] at at'
    obtain ⟨request, at', rfl⟩ := at'
    rw [added.slots at']
    exact ⟨sfmWords_valid, rfl⟩

/-- Triggers less than 2^31 apart compare as numbers. -/
theorem sortbytrigger_close {a b : TadmaStream} (below : a.trigger.toNat < b.trigger.toNat + 2 ^ 31)
    (above : b.trigger.toNat < a.trigger.toNat + 2 ^ 31)
    : sortbytrigger a b = (a.trigger.toNat : Int) - b.trigger.toNat := by
  have := a.trigger.isLt
  have := b.trigger.isLt
  rw [sortbytrigger, BitVec.toInt_eq_toNat_cond, BitVec.toNat_sub]
  split <;> omega

/-- Triggers at least 2^31 apart compare the wrong way round, or both ways. -/
theorem sortbytrigger_far {a b : TadmaStream} (far : a.trigger.toNat + 2 ^ 31 ≤ b.trigger.toNat)
    : 0 < sortbytrigger a b ∨ sortbytrigger a b < 0 ∧ sortbytrigger b a < 0 := by
  have := a.trigger.isLt
  have := b.trigger.isLt
  simp only [sortbytrigger, BitVec.toInt_eq_toNat_cond, BitVec.toNat_sub]
  split <;> split <;> omega

/-- On triggers less than 2^31 apart the comparator is an order. -/
theorem sortbytrigger_consistent {requests : List TadmaStream}
    (close : ∀ a ∈ requests, ∀ b ∈ requests, b.trigger.toNat < a.trigger.toNat + 2 ^ 31)
    : Consistent sortbytrigger requests where
  sign := by
    intro a first b second
    have ab := close a first b second
    have ba := close b second a first
    rw [sortbytrigger_close ba ab, sortbytrigger_close ab ba]
    omega
  trans := by
    intro a first b second c third
    have ab := close a first b second
    have ba := close b second a first
    have bc := close b second c third
    have cb := close c third b second
    rw [sortbytrigger_close ba ab, sortbytrigger_close cb bc,
      sortbytrigger_close (close c third a first) (close a first c third)]
    omega

theorem mem_settings {setting : StreamSetting}
    : setting ∈ settings ↔ ∃ request ∈ settings.mapIdx requestOf, settingOf request = setting := by
  rw [← List.mem_map, requests_settings]

theorem requests_keys (settings : List StreamSetting)
    : (settings.mapIdx requestOf).map TadmaStream.key = settings.map StreamSetting.key := by
  conv_rhs => rw [← requests_settings settings, List.map_map]
  rfl

/-- Behind the first setting there is no mark until number 256. -/
theorem requests_unmarked {first : StreamSetting} {rest : List StreamSetting}
    (short : (first :: rest).length ≤ 256) {request : TadmaStream}
    (member : request ∈ rest.mapIdx fun i => requestOf (i + 1))
    : request.start = 0 := by
  obtain ⟨i, bound, rfl⟩ := List.mem_mapIdx.mp member
  have index : BitVec.ofNat 8 (i + 1) ≠ 0 := by
    rw [List.length_cons] at short
    intro wraps
    have number := congrArg BitVec.toNat wraps
    rw [BitVec.toNat_ofNat] at number
    change (i + 1) % 2 ^ 8 = 0 at number
    omega
  exact if_pos index

/-- A mark on the first request alone is what the loop needs. -/
theorem marked_head {first : TadmaStream} {rest : List TadmaStream} (mark : first.start ≠ 0)
    (others : ∀ request ∈ rest, request.start = 0) (i : Nat) (request : TadmaStream)
    (at' : (first :: rest)[i]? = some request)
    : request.start ≠ (0 : Byte) ↔ i = 0 := by
  cases i with
  | zero =>
      obtain rfl : first = request := by simpa using at'
      exact iff_of_true mark rfl
  | succ i =>
      have later := others request (List.mem_of_getElem? at')
      exact iff_of_false (fun marked => marked later) (Nat.succ_ne_zero i)

/-- What an order of the requests needs beyond the settings being within the limits. -/
theorem Configured.orderly (configured : Configured lp settings)
    (perm : order.Perm (settings.mapIdx requestOf))
    (chained : ∀ a ∈ order, (tadmaBucket lp a.key.hashTag).isSome = true)
    (apart
      : ∀ a ∈ order, ∀ b ∈ order, tadmaBucket lp a.key.hashTag = tadmaBucket lp b.key.hashTag
        → a.key.SameLow b.key → a.key = b.key)
    (marked : ∀ (i : Nat) (a : TadmaStream), order[i]? = some a → (a.start ≠ (0 : Byte) ↔ i = 0))
    : Orderly lp order where
  counts := fun a member =>
    configured.counts _ (mem_settings.mpr ⟨a, perm.mem_iff.mp member, rfl⟩)
  chained := chained
  distinct := (perm.map _).nodup_iff.mpr (requests_keys settings ▸ configured.distinct)
  apart := apart
  fits := by
    have fits := configured.fits
    rw [perm.length_eq, List.length_mapIdx]
    omega
  marked := marked

theorem Configured.prog (configured : Configured lp settings)
    {qsort : (TadmaStream → TadmaStream → Int) → List TadmaStream → List TadmaStream}
    : tadmaProg lp qsort prior settings
      = (run (faulting (progAdd lp)) (some ([], axienetTadmaFlushStream lp prior))
          (qsort sortbytrigger (settings.mapIdx requestOf))).map
        fun out => (out.1, axienetTadmaProgram lp out.2) := by
  apply if_neg
  rintro (none | ⟨setting, member, large⟩)
  · exact configured.nonempty none
  · exact absurd large (BitVec.not_lt.mpr (configured.counts setting member))

/-- A sorted order of a programmable file starts with its first setting. -/
theorem Programmable.head (file : Programmable lp settings)
    (perm : order.Perm (settings.mapIdx requestOf))
    (sorted : order.Pairwise fun a b => sortbytrigger a b ≤ 0) {first : StreamSetting}
    {rest : List StreamSetting} (split : settings = first :: rest)
    : ∃ later, order = requestOf 0 first :: later ∧ ∀ request ∈ later, request.start = 0 := by
  subst split
  rw [List.mapIdx_cons] at perm
  obtain ⟨head, later, rfl⟩ := List.exists_cons_of_ne_nil
    (List.ne_nil_of_length_eq_add_one perm.length_eq)
  obtain rfl : head = requestOf 0 first := by
    by_contra other
    have later : head ∈ rest.mapIdx fun i => requestOf (i + 1) :=
      List.mem_of_ne_of_mem other (perm.mem_iff.mp List.mem_cons_self)
    have behind := List.mem_of_ne_of_mem (Ne.symm other)
      (perm.mem_iff.mpr List.mem_cons_self)
    have least := (List.pairwise_cons.mp sorted).1 _ behind
    obtain ⟨i, bound, rfl⟩ := List.mem_mapIdx.mp later
    have member : rest[i] ∈ rest := List.getElem_mem bound
    have below := file.first first rfl rest[i] member
    have close := file.close first List.mem_cons_self rest[i] (List.mem_cons_of_mem _ member)
    rw [sortbytrigger_close] at least
    all_goals
      simp only [requestOf] at *
      bv_omega
  exact ⟨later, rfl, fun request member => requests_unmarked file.short
    ((List.perm_cons _).mp perm |>.mem_iff.mp member)⟩

/-- The tool programs a programmable file on any correct `qsort`, from any state. -/
theorem Programmable.programs (file : Programmable lp settings)
    (configured : Configured lp settings)
    {qsort : (TadmaStream → TadmaStream → Int) → List TadmaStream → List TadmaStream}
    (correct : Correct qsort) (prior : TadmaState)
    : ∃ results final, tadmaProg lp qsort prior settings = some (results, final)
        ∧ ProgramsAll lp settings results final := by
  obtain ⟨first, rest, split⟩ := List.exists_cons_of_ne_nil configured.nonempty
  have close : ∀ a ∈ settings.mapIdx requestOf, ∀ b ∈ settings.mapIdx requestOf,
      b.trigger.toNat < a.trigger.toNat + 2 ^ 31 := fun a member b member' =>
    file.close (settingOf a) (mem_settings.mpr ⟨a, member, rfl⟩)
      (settingOf b) (mem_settings.mpr ⟨b, member', rfl⟩)
  have perm := correct.perm sortbytrigger (settings.mapIdx requestOf)
  have sorted := correct.sorted sortbytrigger _ (sortbytrigger_consistent close)
  obtain ⟨later, shape, unmarked⟩ := file.head perm sorted split
  generalize ordered : qsort sortbytrigger (settings.mapIdx requestOf) = order at perm sorted shape
  have within : ∀ a ∈ order, settingOf a ∈ settings := fun a member =>
    mem_settings.mpr ⟨a, perm.mem_iff.mp member, rfl⟩
  have orderly : Orderly lp ([] ++ order) := by
    refine configured.orderly perm (fun a member => file.chained (settingOf a) (within a member))
      (fun a member b member' => file.apart (settingOf a) (within a member)
        (settingOf b) (within b member')) ?_
    rw [shape]
    exact marked_head (by simp [requestOf]) unmarked
  obtain ⟨st, reached, added⟩ := Added.flushed.all orderly
  refine ⟨_, _, by rw [configured.prog, ordered, reached]; rfl, ?_⟩
  refine added.programsAll perm (sorted.imp_of_mem ?_)
  intro a b first second ascending
  have ab := close a (perm.mem_iff.mp first) b (perm.mem_iff.mp second)
  have ba := close b (perm.mem_iff.mp second) a (perm.mem_iff.mp first)
  rw [sortbytrigger_close ba ab] at ascending
  exact BitVec.le_def.mpr (by omega)

end TsnTrdp.Config
