import TsnTrdp.Trdp.Session

/-! The sequence counters that a subscription keeps of its senders: what resetting a sender and
checking a counter do to the counter that is stored for each sender and message type.
-/

namespace TsnTrdp.Trdp

open TsnTrdp.Queue

/-- The counter that is stored for a sender. -/
def storedSeqCnt (list : Option SeqCntList) (srcIp : U32) (msgType : U16) : Option U32 :=
  list.bind fun list =>
    (list.seq.find? (SeqCntEntry.isOf srcIp msgType)).map SeqCntEntry.lastSeqCnt

variable {list : Option SeqCntList} {srcIp srcIp' : U32} {msgType msgType' : U16}
  {entry : SeqCntEntry} {alloc : Bool} {sequenceCounter : U32}

theorem isOf_iff : entry.isOf srcIp msgType ↔ srcIp = entry.srcIpAddr ∧ msgType = entry.msgType :=
  decide_eq_true_iff

/-- An entry is of one sender. -/
theorem isOf_unique (other : ¬ (srcIp' = srcIp ∧ msgType' = msgType))
    (first : entry.isOf srcIp msgType)
    : ¬ entry.isOf srcIp' msgType' := by
  intro second
  rw [isOf_iff] at first second
  exact other ⟨second.1.trans first.1.symm, second.2.trans first.2.symm⟩

theorem isOf_lastSeqCnt (lastSeqCnt : U32)
    : SeqCntEntry.isOf srcIp msgType { entry with lastSeqCnt } = entry.isOf srcIp msgType := rfl

/-- Resetting a sender stores 0 for it, if anything is stored, and leaves the others. -/
theorem storedSeqCnt_reset
    : storedSeqCnt (trdpResetSequenceCounter list srcIp msgType) srcIp' msgType'
      = if srcIp' = srcIp ∧ msgType' = msgType then
          (storedSeqCnt list srcIp msgType).map fun _ => 0
        else storedSeqCnt list srcIp' msgType' := by
  unfold storedSeqCnt trdpResetSequenceCounter
  cases list with
  | none => simp
  | some list =>
      simp only [Option.map_some, Option.bind_some, List.find?_map]
      have keeps : (SeqCntEntry.isOf srcIp' msgType' ∘ fun entry : SeqCntEntry =>
          if entry.isOf srcIp msgType then { entry with lastSeqCnt := 0 } else entry)
          = SeqCntEntry.isOf srcIp' msgType' := by
        funext entry
        dsimp only [Function.comp]
        split <;> rfl
      rw [keeps]
      split
      · rename_i same
        obtain ⟨rfl, rfl⟩ := same
        cases found : list.seq.find? (SeqCntEntry.isOf srcIp' msgType') with
        | none => rfl
        | some entry =>
            have meets := List.find?_some found
            simp [meets]
      · rename_i other
        cases found : list.seq.find? (SeqCntEntry.isOf srcIp' msgType') with
        | none => rfl
        | some entry =>
            have meets := List.find?_some found
            have misses : ¬ entry.isOf srcIp msgType := fun first => isOf_unique other first meets
            simp [misses]

/-- What a check stores: the new counter for its sender if it is fresh, and nothing otherwise. -/
structure Checked (list : Option SeqCntList) (sequenceCounter srcIp : U32) (msgType : U16)
    (check : SeqCheck) (list' : Option SeqCntList)
    : Prop where
  known
    : ∀ last, storedSeqCnt list srcIp msgType = some last
      → (check = .fresh ↔ last = 0 ∨ sequenceCounter ≠ last)
  fresh
    : check = .fresh
      → ∀ srcIp' msgType', storedSeqCnt list' srcIp' msgType'
        = if srcIp' = srcIp ∧ msgType' = msgType then some sequenceCounter
          else storedSeqCnt list srcIp' msgType'
  stale
    : check ≠ .fresh
      → ∀ srcIp' msgType', storedSeqCnt list' srcIp' msgType' = storedSeqCnt list srcIp' msgType'
  duplicate : check = .duplicate → storedSeqCnt list srcIp msgType = some sequenceCounter

/-- The counters of a list that was made larger are the same. -/
theorem growSeqCnt_seq {list list' : SeqCntList}
    (grown : growSeqCnt alloc list = some (some list'))
    : list'.seq = list.seq := by
  unfold growSeqCnt at grown
  split at grown
  · cases grown
    rfl
  split at grown
  · cases grown
  split at grown
  · cases grown
  cases grown
  rfl

/-- A new entry at the end of the list stores its counter for its sender. -/
theorem storedSeqCnt_append {list list' : SeqCntList} (seq : list'.seq = list.seq)
    (unknown : list.seq.find? (SeqCntEntry.isOf srcIp msgType) = none)
    : storedSeqCnt (some { list' with seq := list'.seq ++ [⟨sequenceCounter, srcIp, msgType⟩] })
          srcIp' msgType'
      = if srcIp' = srcIp ∧ msgType' = msgType then some sequenceCounter
        else storedSeqCnt (some list) srcIp' msgType' := by
  unfold storedSeqCnt
  simp only [Option.bind_some, seq, List.find?_append]
  split
  · rename_i same
    obtain ⟨rfl, rfl⟩ := same
    have new : SeqCntEntry.isOf srcIp' msgType' ⟨sequenceCounter, srcIp', msgType'⟩ :=
      isOf_iff.mpr ⟨rfl, rfl⟩
    simp [unknown, new]
  · rename_i other
    have new : ¬ SeqCntEntry.isOf srcIp' msgType' ⟨sequenceCounter, srcIp, msgType⟩ :=
      isOf_unique other (isOf_iff.mpr ⟨rfl, rfl⟩)
    simp [new]

/-- Updating the entry of a sender stores the new counter for this sender. -/
theorem storedSeqCnt_modify {list : SeqCntList}
    (found : list.seq.find? (SeqCntEntry.isOf srcIp msgType) = some entry)
    : storedSeqCnt
          (some { list with
            seq := modifyFirst (SeqCntEntry.isOf srcIp msgType)
              (fun entry => { entry with lastSeqCnt := sequenceCounter }) list.seq })
          srcIp' msgType'
      = if srcIp' = srcIp ∧ msgType' = msgType then some sequenceCounter
        else storedSeqCnt (some list) srcIp' msgType' := by
  unfold storedSeqCnt
  simp only [Option.bind_some]
  split
  · rename_i same
    obtain ⟨rfl, rfl⟩ := same
    rw [find?_modifyFirst fun _ => isOf_lastSeqCnt _, found]
    rfl
  · rename_i other
    have apart : ∀ entry : SeqCntEntry, entry.isOf srcIp msgType → ¬ entry.isOf srcIp' msgType' :=
      fun _ => isOf_unique other
    exact congrArg (Option.map SeqCntEntry.lastSeqCnt) (find?_modifyFirst_of_apart apart apart)

/-- What a check stores depends on the counters that are stored before it only. -/
theorem Checked.of_same {start list' : Option SeqCntList} {check : SeqCheck}
    (same : ∀ srcIp msgType, storedSeqCnt start srcIp msgType = storedSeqCnt list srcIp msgType)
    (checked : Checked start sequenceCounter srcIp msgType check list')
    : Checked list sequenceCounter srcIp msgType check list' := by
  obtain ⟨known, fresh, stale, duplicate⟩ := checked
  simp only [same] at known fresh stale duplicate
  exact ⟨known, fresh, stale, duplicate⟩

/-- An allocated list stores as little as no list. -/
theorem storedSeqCnt_orElse (alloc : Bool) (srcIp : U32) (msgType : U16)
    : storedSeqCnt
          (list.orElse fun _ =>
            if alloc then some ⟨BitVec.ofNat 16 trdpSeqCntStartArraySize, []⟩ else none)
          srcIp msgType
      = storedSeqCnt list srcIp msgType := by
  cases list with
  | some list => rfl
  | none => cases alloc <;> rfl

theorem trdpCheckSequenceCounter_spec {check : SeqCheck} {list' : Option SeqCntList}
    (checks
      : trdpCheckSequenceCounter alloc list sequenceCounter srcIp msgType = some (check, list'))
    : Checked list sequenceCounter srcIp msgType check list' := by
  apply Checked.of_same (storedSeqCnt_orElse alloc)
  unfold trdpCheckSequenceCounter at checks
  generalize list.orElse _ = start at checks ⊢
  cases start with
  | none =>
      cases checks
      exact ⟨nofun, nofun, fun _ _ _ => rfl, nofun⟩
  | some start =>
      dsimp only at checks
      cases found : start.seq.find? (SeqCntEntry.isOf srcIp msgType) with
      | some entry =>
          rw [found] at checks
          dsimp only at checks
          have stored : storedSeqCnt (some start) srcIp msgType = some entry.lastSeqCnt := by
            simp [storedSeqCnt, found]
          split at checks
          · rename_i differs
            cases checks
            refine ⟨fun last known => ?_, fun _ srcIp' msgType' => ?_, nofun, nofun⟩
            · obtain rfl := Option.some.inj (stored.symm.trans known)
              exact iff_of_true rfl differs
            · exact storedSeqCnt_modify found
          · rename_i equal
            cases checks
            refine ⟨fun last known => ?_, nofun, fun _ _ _ => rfl, fun _ => ?_⟩
            · obtain rfl := Option.some.inj (stored.symm.trans known)
              exact iff_of_false nofun equal
            · rw [stored, not_not.mp (not_or.mp equal).2]
      | none =>
          rw [found] at checks
          dsimp only at checks
          have stored : storedSeqCnt (some start) srcIp msgType = none := by
            simp [storedSeqCnt, found]
          have unknown : ∀ last, storedSeqCnt (some start) srcIp msgType ≠ some last := by
            simp [stored]
          split at checks
          · cases checks
          · cases checks
            exact ⟨fun last known => absurd known (unknown last), nofun, fun _ _ _ => rfl, nofun⟩
          · rename_i grown
            cases checks
            refine ⟨fun last known => absurd known (unknown last), fun _ srcIp' msgType' => ?_,
              nofun, nofun⟩
            exact storedSeqCnt_append (growSeqCnt_seq grown) found

/-- A check for a sender that is known needs no memory. -/
theorem trdpCheckSequenceCounter_known {last : U32}
    (known : storedSeqCnt list srcIp msgType = some last)
    : ∃ check list',
        trdpCheckSequenceCounter alloc list sequenceCounter srcIp msgType
          = some (check, list') := by
  cases list with
  | none => cases known
  | some list =>
      obtain ⟨entry, found, -⟩ := Option.map_eq_some_iff.mp known
      unfold trdpCheckSequenceCounter
      simp only [Option.orElse_some, found]
      split
      · exact ⟨_, _, rfl⟩
      · exact ⟨_, _, rfl⟩

/-- The counters before a telegram is checked: one with the counter 0 resets its sender. -/
def heardSeqCnt (list : Option SeqCntList) (sequenceCounter srcIp : U32) (msgType : U16)
    : Option SeqCntList :=
  if sequenceCounter = 0 then trdpResetSequenceCounter list srcIp msgType else list

/-- What a telegram stores: its counter if it is fresh, as it is where it restarts its sender or
differs from the counter stored, and nothing otherwise.
-/
structure Counted (list : Option SeqCntList) (sequenceCounter srcIp : U32) (msgType : U16)
    (check : SeqCheck) (list' : Option SeqCntList)
    : Prop where
  known
    : ∀ last, storedSeqCnt list srcIp msgType = some last
      → (check = .fresh ↔ sequenceCounter = 0 ∨ sequenceCounter ≠ last)
  fresh
    : check = .fresh
      → ∀ srcIp' msgType', storedSeqCnt list' srcIp' msgType'
        = if srcIp' = srcIp ∧ msgType' = msgType then some sequenceCounter
          else storedSeqCnt list srcIp' msgType'
  stale
    : check ≠ .fresh
      → ∀ srcIp' msgType', storedSeqCnt list' srcIp' msgType' = storedSeqCnt list srcIp' msgType'

theorem heardSeqCnt_spec {check : SeqCheck} {list' : Option SeqCntList}
    (checks
      : trdpCheckSequenceCounter alloc (heardSeqCnt list sequenceCounter srcIp msgType)
          sequenceCounter srcIp msgType = some (check, list'))
    : Counted list sequenceCounter srcIp msgType check list' := by
  obtain ⟨known, fresh, stale, -⟩ := trdpCheckSequenceCounter_spec checks
  unfold heardSeqCnt at known fresh stale
  by_cases restart : sequenceCounter = 0
  · simp only [if_pos restart, storedSeqCnt_reset] at known fresh stale
    have known' : ∀ last, storedSeqCnt list srcIp msgType = some last → check = .fresh := by
      intro last stored
      exact (known 0 (by simp [stored])).mpr (Or.inl rfl)
    refine ⟨fun last stored => iff_of_true (known' last stored) (Or.inl restart), ?_, ?_⟩
    · intro checked srcIp' msgType'
      rw [fresh checked]
      split <;> rfl
    · intro checked srcIp' msgType'
      rw [stale checked]
      split
      · rename_i same
        obtain ⟨rfl, rfl⟩ := same
        cases stored : storedSeqCnt list srcIp' msgType' with
        | none => rfl
        | some last => exact absurd (known' last stored) checked
      · rfl
  · simp only [if_neg restart] at known fresh stale
    refine ⟨fun last stored => (known last stored).trans ?_, fresh, stale⟩
    constructor
    · rintro (zero | differs)
      · exact Or.inr fun same => restart (same.trans zero)
      · exact Or.inr differs
    · exact fun differs => Or.inr (differs.resolve_left restart)

/-- A telegram of a known sender is counted without memory. -/
theorem heardSeqCnt_known {last : U32} (known : storedSeqCnt list srcIp msgType = some last)
    : ∃ check list',
        trdpCheckSequenceCounter alloc (heardSeqCnt list sequenceCounter srcIp msgType)
          sequenceCounter srcIp msgType = some (check, list') := by
  have stored : ∃ last, storedSeqCnt (heardSeqCnt list sequenceCounter srcIp msgType) srcIp msgType
      = some last := by
    unfold heardSeqCnt
    split
    · exact ⟨0, by rw [storedSeqCnt_reset, if_pos ⟨rfl, rfl⟩, known]; rfl⟩
    · exact ⟨last, known⟩
  obtain ⟨last', stored⟩ := stored
  exact trdpCheckSequenceCounter_known stored

end TsnTrdp.Trdp
