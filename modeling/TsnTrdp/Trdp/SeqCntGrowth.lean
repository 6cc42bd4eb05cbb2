import TsnTrdp.Trdp.SeqCnt
import TsnTrdp.Trdp.Reception

/-! The list of the counters as it grows. A growth doubles a number of 16 bits: nine times it makes
room, and the tenth time it asks for none.
-/

namespace TsnTrdp.Trdp

open TsnTrdp.Run TsnTrdp.Queue

/-- The sender of an entry. -/
def SeqCntEntry.sender (entry : SeqCntEntry) : U32 × U16 := (entry.srcIpAddr, entry.msgType)

/-- A call of `trdp_checkSequenceCounter`. -/
structure SeqCntCall where
  alloc : Bool
  sequenceCounter : U32
  srcIp : U32
  msgType : U16
  deriving DecidableEq, Repr

def SeqCntCall.sender (call : SeqCntCall) : U32 × U16 := (call.srcIp, call.msgType)

/-- `trdp_checkSequenceCounter`. -/
def SeqCntCall.check (call : SeqCntCall) (list : Option SeqCntList)
    : Option (SeqCheck × Option SeqCntList) :=
  trdpCheckSequenceCounter call.alloc list call.sequenceCounter call.srcIp call.msgType

/-- The number of entries that a call asks for memory for, if it does, besides the entry that is
part of the list's type.
-/
def SeqCntCall.asks (call : SeqCntCall) : Option SeqCntList → Option Nat
  | none => some trdpSeqCntStartArraySize
  | some list =>
      if (list.seq.find? (SeqCntEntry.isOf call.srcIp call.msgType)).isSome
          ∨ list.curNoOfEntries < list.maxNoOfEntries then
        none
      else some (2 * list.curNoOfEntries).toNat

/-- The counters that a subscription keeps, the number of entries for which they have memory, and
the last counter that was accepted of each sender.
-/
structure SenderCounts where
  list : Option SeqCntList
  slots : Nat
  last : U32 × U16 → Option U32

/-- A subscription that has accepted nothing. -/
def SenderCounts.start (ele : PdEle) : SenderCounts := ⟨ele.pSeqCntList, 0, fun _ => none⟩

def seqCntStep (s : SenderCounts) (call : SeqCntCall) : Option SenderCounts :=
  (call.check s.list).map fun (check, list) =>
    { list
      slots := if call.alloc then (call.asks s.list).getD s.slots else s.slots
      last :=
        if check = .fresh then Function.update s.last call.sender (some call.sequenceCounter)
        else s.last }

/-- The list has no more entries than it has memory for, and counts them right. -/
structure SeqCntList.Within (list : SeqCntList) (slots : Nat) : Prop where
  counted : list.curNoOfEntries.toNat = list.seq.length
  room : list.curNoOfEntries ≤ list.maxNoOfEntries
  slots : list.maxNoOfEntries.toNat = slots

/-- Each sender of which a counter was accepted has one entry, with the last of them. -/
structure SenderCounts.Remembers (s : SenderCounts) : Prop where
  distinct : ∀ list ∈ s.list, (list.seq.map SeqCntEntry.sender).Nodup
  holds : ∀ srcIp msgType, storedSeqCnt s.list srcIp msgType = s.last (srcIp, msgType)

/-- What is asked of a call: it comes back, with a list that is within its memory and remembers the
senders, and where it fails with the list as it was.
-/
structure SeqCntRight (s : SenderCounts) (call : SeqCntCall) : Prop where
  returns
    : ∃ next, seqCntStep s call = some next
      ∧ (∀ list ∈ next.list, list.Within next.slots) ∧ next.Remembers
  failing : ∀ list, call.check s.list = some (.memory, list) → list = s.list

/-- The number of entries that the list can be made large enough for. -/
@[irreducible] def senderLimit : Nat := 32768

theorem senderLimit_eq : senderLimit = 32768 := by rw [senderLimit]

/-- The call does not add an entry to 32768 others. -/
def SeqCntFits (s : SenderCounts) (call : SeqCntCall) : Prop :=
  (∀ list ∈ s.list, list.seq.length < senderLimit) ∨ (s.last call.sender).isSome = true
  ∨ call.alloc = false

/-- The list has been grown `k` times. -/
structure SeqCntList.Grown (list : SeqCntList) (k : Nat) : Prop where
  times : k ≤ 9
  maxNoOfEntries : list.maxNoOfEntries.toNat = 64 * 2 ^ k
  length : list.seq.length ≤ 64 * 2 ^ k

/-- What holds in every state of a run. -/
structure SenderCountsInv (s : SenderCounts) : Prop where
  grown : ∀ list ∈ s.list, (∃ k, list.Grown k) ∧ list.maxNoOfEntries.toNat = s.slots
  remembers : s.Remembers

variable {s : SenderCounts} {call : SeqCntCall} {list : SeqCntList} {k : Nat}

theorem two_pow_le_of_grown (grown : list.Grown k) : 64 * 2 ^ k ≤ senderLimit := by
  rw [senderLimit_eq]
  have most : 2 ^ k ≤ 2 ^ 9 := Nat.pow_le_pow_right (by decide) grown.times
  omega

/-- The count is right, since the list has room for 32768 entries at most. -/
theorem SeqCntList.Grown.counted (grown : list.Grown k)
    : list.curNoOfEntries.toNat = list.seq.length := by
  have most := two_pow_le_of_grown grown
  have length := grown.length
  rw [senderLimit_eq] at most
  rw [SeqCntList.curNoOfEntries, BitVec.toNat_ofNat]
  omega

theorem SeqCntList.Grown.within (grown : list.Grown k)
    : list.Within list.maxNoOfEntries.toNat where
  counted := grown.counted
  room := by
    rw [BitVec.le_def, grown.counted, grown.maxNoOfEntries]
    exact grown.length
  slots := rfl

/-- A list that is full is doubled, but for the one that has been grown nine times: twice its
count is zero, and the copy overruns what is allocated.
-/
theorem growSeqCnt_grown (grown : list.Grown k) (alloc : Bool)
    : growSeqCnt alloc list
      = if list.seq.length < 64 * 2 ^ k then some (some list)
        else if !alloc then some none
        else if k = 9 then none
        else some (some { list with maxNoOfEntries := 2 * list.curNoOfEntries }) := by
  have counted := grown.counted
  have most := grown.maxNoOfEntries
  have length := grown.length
  have times := grown.times
  have room : list.curNoOfEntries < list.maxNoOfEntries ↔ list.seq.length < 64 * 2 ^ k := by
    rw [BitVec.lt_def, counted, most]
  unfold growSeqCnt
  by_cases small : list.seq.length < 64 * 2 ^ k
  · rw [if_pos small, if_pos (room.mpr small)]
  rw [if_neg small, if_neg (mt room.mp small)]
  have full : list.seq.length = 64 * 2 ^ k := by omega
  have doubled : (2 * list.curNoOfEntries).toNat = 2 * (64 * 2 ^ k) % 65536 := by
    rw [BitVec.toNat_mul, counted, full]
    rfl
  have overruns : 2 * list.curNoOfEntries < list.maxNoOfEntries ↔ k = 9 := by
    rw [BitVec.lt_def, doubled, most]
    interval_cases k <;> simp
  cases alloc with
  | false => rfl
  | true =>
      simp only [Bool.not_true, Bool.false_eq_true, if_false, overruns]

/-- A list that is doubled has room again. -/
theorem SeqCntList.Grown.doubled (grown : list.Grown k) (full : list.seq.length = 64 * 2 ^ k)
    (more : k ≠ 9)
    : { list with maxNoOfEntries := 2 * list.curNoOfEntries : SeqCntList }.Grown (k + 1)
      ∧ list.seq.length < 64 * 2 ^ (k + 1) := by
  have counted := grown.counted
  have times : k < 9 := lt_of_le_of_ne grown.times more
  have positive := Nat.two_pow_pos k
  have twice : 64 * 2 ^ (k + 1) = 2 * (64 * 2 ^ k) := by
    rw [pow_succ]
    omega
  refine ⟨⟨by omega, ?_, ?_⟩, by omega⟩
  · rw [BitVec.toNat_mul, counted, full, twice]
    interval_cases k <;> simp
  · dsimp only
    omega

theorem isOf_iff_sender {entry : SeqCntEntry} {srcIp : U32} {msgType : U16}
    : entry.isOf srcIp msgType ↔ entry.sender = (srcIp, msgType) := by
  rw [isOf_iff, SeqCntEntry.sender, Prod.mk.injEq]
  exact and_congr eq_comm eq_comm

/-- The entry that a call adds. -/
def SeqCntCall.entry (call : SeqCntCall) : SeqCntEntry :=
  ⟨call.sequenceCounter, call.srcIp, call.msgType⟩

/-- The sender of the call has an entry. -/
def SeqCntCall.Knows (call : SeqCntCall) (list : SeqCntList) : Prop :=
  (list.seq.find? (SeqCntEntry.isOf call.srcIp call.msgType)).isSome = true

/-- A call of a sender with an entry changes that entry at most. -/
theorem check_known (known : call.Knows list)
    : ∃ check seq, call.check (some list) = some (check, some { list with seq })
        ∧ check ≠ .memory ∧ seq.map SeqCntEntry.sender = list.seq.map SeqCntEntry.sender := by
  obtain ⟨entry, found⟩ := Option.isSome_iff_exists.mp known
  unfold SeqCntCall.check trdpCheckSequenceCounter
  simp only [Option.orElse_some, found]
  split
  · exact ⟨.fresh, _, rfl, by decide, map_modifyFirst fun _ _ => rfl⟩
  · exact ⟨.duplicate, _, rfl, by decide, rfl⟩

/-- A call of another sender adds an entry, where there is room for it. -/
theorem check_unknown (unknown : ¬ call.Knows list)
    : call.check (some list)
      = (growSeqCnt call.alloc list).map fun
        | none => (.memory, some list)
        | some list => (.fresh, some { list with seq := list.seq ++ [call.entry] }) := by
  have found := Option.not_isSome_iff_eq_none.mp unknown
  unfold SeqCntCall.check trdpCheckSequenceCounter
  simp only [Option.orElse_some, found]
  cases growSeqCnt call.alloc list with
  | none => rfl
  | some grown =>
      cases grown with
      | none => rfl
      | some list => rfl

/-- The first call allocates the list. -/
theorem check_first (call : SeqCntCall)
    : call.check none
      = some (if call.alloc then (.fresh, some ⟨64, [call.entry]⟩) else (.memory, none)) := by
  unfold SeqCntCall.check trdpCheckSequenceCounter
  cases call.alloc with
  | false => rfl
  | true => rfl

/-- A call that has room for its entry asks for no memory. -/
theorem asks_of_room (known : call.Knows list ∨ list.curNoOfEntries < list.maxNoOfEntries)
    : call.asks (some list) = none :=
  if_pos known

theorem asks_of_full (unknown : ¬ call.Knows list)
    (full : ¬ list.curNoOfEntries < list.maxNoOfEntries)
    : call.asks (some list) = some (2 * list.curNoOfEntries).toNat :=
  if_neg (not_or.mpr ⟨unknown, full⟩)

/-- A sender has an entry exactly if a counter of it was accepted. -/
theorem SenderCounts.Remembers.knows (remembers : s.Remembers) (call : SeqCntCall)
    (has : s.list = some list)
    : call.Knows list ↔ (s.last call.sender).isSome = true := by
  have holds := remembers.holds call.srcIp call.msgType
  rw [has, storedSeqCnt, Option.bind_some] at holds
  rw [SeqCntCall.Knows, SeqCntCall.sender, ← holds, Option.isSome_map]

/-- The counters after a call, whatever it does to the memory of the list. -/
theorem SenderCounts.Remembers.step {next : SenderCounts} (remembers : s.Remembers)
    (stepped : seqCntStep s call = some next)
    (distinct : ∀ list ∈ next.list, (list.seq.map SeqCntEntry.sender).Nodup)
    : next.Remembers := by
  refine ⟨distinct, fun srcIp msgType => ?_⟩
  obtain ⟨⟨check, list⟩, checks, rfl⟩ := Option.map_eq_some_iff.mp stepped
  obtain ⟨-, fresh, stale, -⟩ := trdpCheckSequenceCounter_spec checks
  dsimp only
  by_cases accepted : check = .fresh
  · rw [fresh accepted, if_pos accepted, Function.update_apply, SeqCntCall.sender, remembers.holds]
    simp only [Prod.mk.injEq]
  · rw [stale accepted, if_neg accepted, remembers.holds]

/-- A list that is known to be right, with its memory. -/
structure SeqCntList.Sound (list : SeqCntList) (slots : Nat) : Prop where
  grown : ∃ k, list.Grown k
  slots : list.maxNoOfEntries.toNat = slots
  distinct : (list.seq.map SeqCntEntry.sender).Nodup

theorem SenderCountsInv.sound (inv : SenderCountsInv s) (has : s.list = some list)
    : list.Sound s.slots where
  grown := (inv.grown list has).1
  slots := (inv.grown list has).2
  distinct := inv.remembers.distinct list has

/-- An entry of a new sender fits where there is room. -/
theorem SeqCntList.Sound.append {slots : Nat} (sound : list.Sound slots) (grown : list.Grown k)
    (room : list.seq.length < 64 * 2 ^ k) (unknown : ¬ call.Knows list)
    : { list with seq := list.seq ++ [call.entry] : SeqCntList }.Sound slots where
  grown := by
    refine ⟨k, grown.times, grown.maxNoOfEntries, ?_⟩
    simp only [List.length_append, List.length_cons, List.length_nil]
    omega
  slots := sound.slots
  distinct := by
    have found := Option.not_isSome_iff_eq_none.mp unknown
    rw [List.find?_eq_none] at found
    rw [List.map_append, List.map_singleton, ← List.concat_eq_append]
    refine sound.distinct.concat fun member => ?_
    obtain ⟨entry, old, same⟩ := List.mem_map.mp member
    exact found entry old (isOf_iff_sender.mpr same)

/-- What a call does to a list that is right: it comes back with a list that is right, or it has
overrun one of 32768 entries.
-/
theorem seqCntStep_some (call : SeqCntCall) (has : s.list = some list) (sound : list.Sound s.slots)
    : (seqCntStep s call = none ∧ ¬ call.Knows list ∧ call.alloc = true
        ∧ list.seq.length = senderLimit)
      ∨ (call.Knows list ∨ call.alloc = false ∨ list.seq.length < senderLimit)
        ∧ ∃ next list', seqCntStep s call = some next ∧ next.list = some list'
          ∧ list'.Sound next.slots
          ∧ (∀ same, call.check s.list = some (.memory, same) → same = s.list) := by
  obtain ⟨k, grown⟩ := sound.grown
  unfold seqCntStep
  rw [has]
  by_cases known : call.Knows list
  · -- its entry takes the counter, and no memory is asked for
    obtain ⟨check, seq, checks, fails, senders⟩ := check_known known
    refine .inr ⟨.inl known, _, { list with seq }, by rw [checks]; rfl, rfl, ?_, ?_⟩
    · have length := congrArg List.length senders
      rw [List.length_map, List.length_map] at length
      rw [asks_of_room (.inl known), Option.getD_none, ite_self]
      exact ⟨⟨k, grown.times, grown.maxNoOfEntries, length ▸ grown.length⟩, sound.slots,
        senders ▸ sound.distinct⟩
    · intro same failed
      exact absurd (Prod.mk.inj (Option.some.inj (checks.symm.trans failed))).1 fails
  · have room : list.curNoOfEntries < list.maxNoOfEntries ↔ list.seq.length < 64 * 2 ^ k := by
      rw [BitVec.lt_def, grown.counted, grown.maxNoOfEntries]
    have most := two_pow_le_of_grown grown
    rw [check_unknown known, growSeqCnt_grown grown]
    by_cases small : list.seq.length < 64 * 2 ^ k
    · refine .inr ⟨.inr (.inr (by omega)), _, _, by rw [if_pos small]; rfl, rfl, ?_, ?_⟩
      · rw [asks_of_room (.inr (room.mpr small)), Option.getD_none, ite_self]
        exact sound.append grown small known
      · intro same failed
        rw [if_pos small] at failed
        cases failed
    · have full : list.seq.length = 64 * 2 ^ k := by
        have length := grown.length
        omega
      rw [if_neg small]
      cases granted : call.alloc with
      | false =>
          refine .inr ⟨.inr (.inl rfl), _, list, rfl, rfl, sound, ?_⟩
          intro same failed
          exact (Prod.mk.inj (Option.some.inj failed)).2.symm
      | true =>
          by_cases last : k = 9
          · subst last
            exact .inl ⟨rfl, known, rfl, full.trans senderLimit_eq.symm⟩
          · obtain ⟨larger, below⟩ := grown.doubled full last
            refine .inr ⟨.inr (.inr ?_), _, _, by rw [if_neg last]; rfl, rfl, ?_, ?_⟩
            · have limit := two_pow_le_of_grown larger
              omega
            · rw [asks_of_full known (mt room.mp small)]
              have doubled : SeqCntList.Sound
                  { list with maxNoOfEntries := 2 * list.curNoOfEntries }
                  (2 * list.curNoOfEntries).toNat := ⟨⟨k + 1, larger⟩, rfl, sound.distinct⟩
              exact doubled.append larger below known
            · intro same failed
              rw [if_neg last] at failed
              cases failed

/-- The first call comes back with a list of one entry, or without memory. -/
theorem seqCntStep_none (call : SeqCntCall) (has : s.list = none)
    : ∃ next, seqCntStep s call = some next
        ∧ (∀ list ∈ next.list, list.Sound next.slots)
        ∧ (∀ same, call.check s.list = some (.memory, same) → same = s.list) := by
  unfold seqCntStep
  rw [has, check_first]
  cases granted : call.alloc with
  | false =>
      refine ⟨_, rfl, nofun, fun same failed => ?_⟩
      exact (Prod.mk.inj (Option.some.inj failed)).2.symm
  | true =>
      refine ⟨_, rfl, ?_, fun same failed => ?_⟩
      · rintro list ⟨⟩
        exact ⟨⟨0, by decide, rfl, by simp⟩, rfl, List.nodup_singleton _⟩
      · cases (Prod.mk.inj (Option.some.inj failed)).1

/-- Lists that are right keep the invariant. -/
theorem SenderCountsInv.step {next : SenderCounts} (inv : SenderCountsInv s)
    (stepped : seqCntStep s call = some next) (sound : ∀ list ∈ next.list, list.Sound next.slots)
    : SenderCountsInv next where
  grown list has := ⟨(sound list has).grown, (sound list has).slots⟩
  remembers := inv.remembers.step stepped fun list has => (sound list has).distinct

theorem SenderCountsInv.within (inv : SenderCountsInv s)
    : ∀ list ∈ s.list, list.Within s.slots := by
  intro list has
  obtain ⟨⟨k, grown⟩, slots⟩ := inv.grown list has
  exact slots ▸ grown.within

/-- Every call that comes back keeps the invariant. -/
theorem seqCntStep_keeps (inv : SenderCountsInv s) {next : SenderCounts}
    (stepped : seqCntStep s call = some next)
    : SenderCountsInv next := by
  cases has : s.list with
  | none =>
      obtain ⟨other, returns, sound, -⟩ := seqCntStep_none call has
      obtain rfl := Option.some.inj (returns.symm.trans stepped)
      exact inv.step stepped sound
  | some list =>
      rcases seqCntStep_some call has (inv.sound has) with
        ⟨overrun, -⟩ | ⟨-, other, list', returns, has', sound, -⟩
      · cases overrun.symm.trans stepped
      · obtain rfl := Option.some.inj (returns.symm.trans stepped)
        refine inv.step stepped fun list'' same => ?_
        obtain rfl := Option.some.inj (has'.symm.trans same)
        exact sound

/-- A call does what is asked of it exactly if it does not add an entry to 32768 others. -/
theorem seqCntRight_iff (inv : SenderCountsInv s) (call : SeqCntCall)
    : SeqCntRight s call ↔ SeqCntFits s call := by
  have right : ∀ next, seqCntStep s call = some next
      → (∀ same, call.check s.list = some (.memory, same) → same = s.list)
      → SeqCntRight s call := by
    intro next stepped failing
    have inv' := seqCntStep_keeps inv stepped
    exact ⟨⟨next, stepped, inv'.within, inv'.remembers⟩, failing⟩
  cases has : s.list with
  | none =>
      obtain ⟨next, stepped, -, failing⟩ := seqCntStep_none call has
      refine iff_of_true (right next stepped failing) (.inl ?_)
      rw [has]
      exact nofun
  | some list =>
      have knows := inv.remembers.knows call has
      rcases seqCntStep_some call has (inv.sound has) with
        ⟨overrun, unknown, granted, full⟩ | ⟨fits, next, -, stepped, -, -, failing⟩
      · refine iff_of_false ?_ ?_
        · rintro ⟨⟨next, stepped, -⟩, -⟩
          cases overrun.symm.trans stepped
        · rintro (small | known | refused)
          · exact absurd (small list has) (by omega)
          · exact unknown (knows.mpr known)
          · cases granted.symm.trans refused
      · refine iff_of_true (right next stepped failing) ?_
        rcases fits with known | refused | small
        · exact .inr (.inl (knows.mp known))
        · exact .inr (.inr refused)
        · refine .inl fun same has' => ?_
          obtain rfl := Option.some.inj (has.symm.trans has')
          exact small

/-- A subscription that has accepted nothing has no list. -/
theorem senderCounts_start {ele : PdEle} (new : ele.pSeqCntList = none)
    : SenderCountsInv (.start ele) where
  grown := by
    intro list has
    rw [SenderCounts.start, new] at has
    cases has
  remembers := by
    constructor
    · intro list has
      rw [SenderCounts.start, new] at has
      cases has
    · intro srcIp msgType
      rw [SenderCounts.start, new]
      rfl

/-- From a new subscription on, in every run of calls, all calls do what is asked of them exactly
if none of them adds an entry to 32768 others.
-/
theorem sender_counts_kept (env : SubscribeEnv) (args : SubscribeArgs) (session : TrdpSession)
    (socketIdx : Int) (calls : List SeqCntCall)
    : Along (faulting seqCntStep) (BeforeFault SeqCntRight)
        (some (.start (newSubscription env args session socketIdx))) calls
      ↔ Along (faulting seqCntStep) (BeforeFault SeqCntFits)
        (some (.start (newSubscription env args session socketIdx))) calls :=
  faulting_iff (fun _ _ _ inv _ stepped => seqCntStep_keeps inv stepped)
    (fun _ call inv => seqCntRight_iff inv call) (senderCounts_start rfl) calls

/-- The first telegram of the sender numbered `i`. -/
def firstCall (i : Nat) : SeqCntCall := ⟨true, 1, BitVec.ofNat 32 i, trdpMsgPd⟩

/-- `count` senders have been heard, each once. -/
structure HeardFirst (count : Nat) (s : SenderCounts) : Prop where
  inv : SenderCountsInv s
  length : (s.list.elim 0 fun list => list.seq.length) = count
  new : ∀ i, count ≤ i → i < 2 ^ 32 → s.last (firstCall i).sender = none

/-- A call of a new sender that comes back adds an entry, if memory is granted. -/
theorem seqCntStep_new {next : SenderCounts} (inv : SenderCountsInv s)
    (granted : call.alloc = true) (new : s.last call.sender = none)
    (stepped : seqCntStep s call = some next)
    : (next.list.elim 0 fun list => list.seq.length)
        = (s.list.elim 0 fun list => list.seq.length) + 1
      ∧ next.last = Function.update s.last call.sender (some call.sequenceCounter) := by
  obtain ⟨⟨check, list'⟩, checks, rfl⟩ := Option.map_eq_some_iff.mp stepped
  cases has : s.list with
  | none =>
      rw [has, check_first, granted, if_pos rfl] at checks
      obtain ⟨rfl, rfl⟩ := Prod.mk.inj (Option.some.inj checks)
      exact ⟨rfl, rfl⟩
  | some list =>
      have unknown : ¬ call.Knows list := by
        rw [inv.remembers.knows call has, new]
        exact Bool.false_ne_true
      rw [has, check_unknown unknown, granted] at checks
      obtain ⟨grown, grows, result⟩ := Option.map_eq_some_iff.mp checks
      cases grown with
      | none =>
          unfold growSeqCnt at grows
          repeat' split at grows
          all_goals simp_all
      | some grown =>
          obtain ⟨rfl, rfl⟩ := Prod.mk.inj result
          refine ⟨?_, rfl⟩
          simp only [Option.elim_some, growSeqCnt_seq grows, List.length_append,
            List.length_singleton]

theorem firstCall_sender_inj {i j : Nat} (small : i < 2 ^ 32) (small' : j < 2 ^ 32)
    (same : (firstCall i).sender = (firstCall j).sender)
    : i = j := by
  have words := congrArg BitVec.toNat (Prod.mk.inj same).1
  simp only [firstCall, BitVec.toNat_ofNat] at words
  omega

/-- A sender that is new adds its entry. -/
theorem HeardFirst.step {count : Nat} {next : SenderCounts} (heard : HeardFirst count s)
    (small : count < 2 ^ 32) (stepped : seqCntStep s (firstCall count) = some next)
    : HeardFirst (count + 1) next := by
  obtain ⟨length, last⟩ :=
    seqCntStep_new heard.inv rfl (heard.new count le_rfl small) stepped
  refine ⟨seqCntStep_keeps heard.inv stepped, length.trans (congrArg (· + 1) heard.length), ?_⟩
  intro i more small'
  have other : (firstCall i).sender ≠ (firstCall count).sender := by
    intro same
    have equal := firstCall_sender_inj small' small same
    omega
  rw [last, Function.update_of_ne other]
  exact heard.new i (by omega) small'

/-- So many senders are heard one after the other, by induction on their number. -/
theorem heardFirst_run {ele : PdEle} (new : ele.pSeqCntList = none) (count : Nat)
    (most : count ≤ senderLimit)
    : ∃ s, run (faulting seqCntStep) (some (.start ele)) ((List.range count).map firstCall) = some s
        ∧ HeardFirst count s := by
  induction count with
  | zero =>
      refine ⟨_, rfl, senderCounts_start new, ?_, fun _ _ _ => rfl⟩
      rw [SenderCounts.start, new]
      rfl
  | succ count ih =>
      obtain ⟨s, reached, heard⟩ := ih (by omega)
      have fits : SeqCntFits s (firstCall count) := by
        refine .inl fun list has => ?_
        have length := heard.length
        rw [has] at length
        exact length.trans_lt (by omega)
      obtain ⟨⟨next, stepped, -⟩, -⟩ := (seqCntRight_iff heard.inv _).mpr fits
      rw [senderLimit_eq] at most
      refine ⟨next, ?_, heard.step (by omega) stepped⟩
      rw [List.range_succ, List.map_append, run_append, reached]
      exact stepped

theorem HeardFirst.not_fits {count : Nat} (heard : HeardFirst count s) (many : senderLimit ≤ count)
    (small : count < 2 ^ 32)
    : ¬ SeqCntFits s (firstCall count) := by
  have length := heard.length
  rintro (room | known | refused)
  · cases has : s.list with
    | none =>
        rw [has, Option.elim_none] at length
        rw [senderLimit_eq] at many
        omega
    | some list =>
        rw [has, Option.elim_some] at length
        exact absurd (room list has) (by omega)
  · rw [heard.new count le_rfl small] at known
    cases known
  · cases refused

/-- One sender more is heard only where fewer than 32768 were. -/
theorem lt_of_heardFirst {ele : PdEle} (new : ele.pSeqCntList = none) {count : Nat}
    (most : count ≤ senderLimit)
    (along
      : Along (faulting seqCntStep) (BeforeFault SeqCntRight) (some (.start ele))
          ((List.range (count + 1)).map firstCall))
    : count < senderLimit := by
  obtain ⟨s, reached, heard⟩ := heardFirst_run new count most
  rw [List.range_succ, List.map_append, along_append, reached] at along
  have fits := (seqCntRight_iff heard.inv _).mp (along.2.1 s rfl)
  by_contra many
  rw [senderLimit_eq] at most many
  exact heard.not_fits (senderLimit_eq ▸ not_lt.mp many) (by omega) fits

/-- A subscription of comId 1000. -/
def polledEle : PdEle := newSubscription (subscribeAt (clockAt 0) 1) (polled 0 0) openedSession 0

/-- The sender after 32768 others is not recorded: its call copies their counters into a list that
has no room for them.
-/
theorem many_senders_overrun
    : ¬ Along (faulting seqCntStep) (BeforeFault SeqCntRight) (some (.start polledEle))
        ((List.range (senderLimit + 1)).map firstCall) :=
  fun along => lt_irrefl _ (lt_of_heardFirst rfl le_rfl along)

end TsnTrdp.Trdp
