import TsnTrdp.Marshall.WellFormed

/-! Marshalling writes to the destination only, and stops with an error where it is too small. -/

namespace TsnTrdp.Marshall

open TsnTrdp.Memory

/-- A step that writes the next `k` bytes of the destination, and nothing else. -/
structure Writes (k : Nat) (s s' : Info) : Prop where
  pSrcEnd : s'.pSrcEnd = s.pSrcEnd
  pDstEnd : s'.pDstEnd = s.pDstEnd
  pSrc : s.pSrc ≤ s'.pSrc
  pDst : s'.pDst = s.pDst + k
  frame : ∀ x, ¬ In s.pDst k x → s'.mem x = s.mem x

variable {s s' s'' : Info} {k l n : Nat} {width : Nat}

theorem Writes.refl (s : Info) : Writes 0 s s := ⟨rfl, rfl, le_rfl, rfl, fun _ _ => rfl⟩

theorem Writes.trans (first : Writes k s s') (second : Writes l s' s'') : Writes (k + l) s s'' where
  pSrcEnd := second.pSrcEnd.trans first.pSrcEnd
  pDstEnd := second.pDstEnd.trans first.pDstEnd
  pSrc := first.pSrc.trans second.pSrc
  pDst := by rw [second.pDst, first.pDst, Nat.add_assoc]
  frame := by
    intro x outside
    have place := first.pDst
    have early : ¬ In s.pDst k x := by
      unfold In at *
      omega
    have late : ¬ In s'.pDst l x := by
      unfold In at *
      omega
    rw [second.frame x late, first.frame x early]

/-- Past bytes of the source. -/
theorem Writes.of_pSrc {pSrc : Nat} (forward : s.pSrc ≤ pSrc) : Writes 0 s { s with pSrc } :=
  ⟨rfl, rfl, forward, rfl, fun _ _ => rfl⟩

theorem le_alignePtr (p : Nat) (pos : 0 < k) : p ≤ alignePtr p k := by
  have rounded := Nat.div_add_mod (p + (k - 1)) k
  have rest := Nat.mod_lt (p + (k - 1)) pos
  unfold alignePtr
  rw [Nat.mul_comm]
  omega

theorem Writes.of_aligned (pos : 0 < width)
    (writes : Writes k { s with pSrc := alignePtr s.pSrc width } s')
    : Writes k s s' := by
  have both := (Writes.of_pSrc (le_alignePtr s.pSrc pos)).trans writes
  rwa [Nat.zero_add] at both

theorem writes_put (width : Nat) (s : Info) : Writes width s (s.put width) :=
  ⟨rfl, rfl, Nat.le_add_right _ _, rfl, fun _ outside => writeNetwork_of_not_in outside⟩

theorem writes_putTimedate48 (s : Info) : Writes 6 s s.putTimedate48 := by
  have seconds := (Writes.of_pSrc (le_alignePtr (k := 4) s.pSrc (by decide))).trans
    (writes_put 4 { s with pSrc := alignePtr s.pSrc 4 })
  refine (seconds.trans (.trans (.of_pSrc (le_alignePtr (k := 2) _ (by decide)))
    (writes_put 2 _))).trans (.of_pSrc (Nat.le_add_right _ 2))

/-- Several items, each of them written in its own width. By induction on their number. -/
theorem writes_times {f : Info → Info} (each : ∀ s, Writes k s (f s)) (n : Nat) (s : Info)
    : Writes (n * k) s (times f n s) := by
  induction n generalizing s with
  | zero =>
      rw [Nat.zero_mul]
      exact .refl s
  | succ n ih =>
      rw [Nat.succ_mul, Nat.add_comm]
      exact (each s).trans (ih (f s))

/-- A step that stays within the destination. -/
structure Within (s s' : Info) : Prop where
  room : s.pDst ≤ s.pDstEnd → s'.pDst ≤ s.pDstEnd
  writes : ∃ k, Writes k s s'

/-- The bytes of the items, where they do not wrap. -/
theorem toNat_bytes {noOfItems : U32} (bytes : noOfItems.toNat * k < 2 ^ 32)
    : (noOfItems * BitVec.ofNat 32 k).toNat = noOfItems.toNat * k := by
  rcases Nat.eq_zero_or_pos noOfItems.toNat with none_asked | some_asked
  · have zero : noOfItems = 0 := BitVec.eq_of_toNat_eq none_asked
    simp [zero]
  · have small : k < 2 ^ 32 := lt_of_le_of_lt (Nat.le_mul_of_pos_left k some_asked) bytes
    rw [BitVec.toNat_mul, BitVec.toNat_ofNat, Nat.mod_eq_of_lt small, Nat.mod_eq_of_lt bytes]

/-- The items of an element are written where there is room. -/
theorem Writes.within {noOfItems : U32} (writes : Writes (noOfItems.toNat * k) s s')
    (bytes : noOfItems.toNat * k < 2 ^ 32) (fits : ¬ s.TooSmall noOfItems k)
    : Within s s' := by
  refine ⟨fun _ => ?_, _, writes⟩
  unfold Info.TooSmall at fits
  rw [toNat_bytes bytes] at fits
  rw [writes.pDst]
  omega

/-- Where the items of an element are packed to. -/
def Info.packed (n : Nat) (s : Info) : Kind → Info
  | .number width => times (Info.put width) n { s with pSrc := alignePtr s.pSrc width }
  | .wide => times (Info.put 8) n { s with pSrc := alignePtr s.pSrc 8 }
  | .timedate48 => times Info.putTimedate48 n s
  | .timedate64 => times (fun s => (s.put 4).put 4) n { s with pSrc := alignePtr s.pSrc 4 }
  | .unknown => s

/-- What `var_size` is after an element, from the first of its numbers. -/
def firstOr (varSize : U32) (mem : Bytes) (next : Nat) : Kind → U32
  | .number width => BitVec.ofNat 32 (read mem (alignePtr next width) width)
  | _ => varSize

/-- The items of an element, where there is room for them. -/
theorem marshallItems_eq {type noOfItems varSize : U32}
    (room : kindOf type ≠ .unknown → ¬ s.TooSmall noOfItems (kindOf type).wireWidth)
    : marshallItems type noOfItems varSize s
      = .ok (s.packed noOfItems.toNat (kindOf type), firstOr varSize s.mem s.pSrc (kindOf type)) := by
  unfold marshallItems
  cases kind : kindOf type with
  | number width => exact if_neg (by simpa [kind, Kind.wireWidth] using room)
  | wide => exact if_neg (by simpa [kind, Kind.wireWidth] using room)
  | timedate48 => exact if_neg (by simpa [kind, Kind.wireWidth] using room)
  | timedate64 => exact if_neg (by simpa [kind, Kind.wireWidth] using room)
  | unknown => rfl

/-- They fail before they write. -/
theorem marshallItems_tooSmall {type noOfItems varSize : U32} (known : kindOf type ≠ .unknown)
    (tooSmall : s.TooSmall noOfItems (kindOf type).wireWidth)
    : marshallItems type noOfItems varSize s = .error (.paramErr, s) := by
  unfold marshallItems
  cases kind : kindOf type with
  | number width => exact if_pos (by simpa [kind, Kind.wireWidth] using tooSmall)
  | wide => exact if_pos (by simpa [kind, Kind.wireWidth] using tooSmall)
  | timedate48 => exact if_pos (by simpa [kind, Kind.wireWidth] using tooSmall)
  | timedate64 => exact if_pos (by simpa [kind, Kind.wireWidth] using tooSmall)
  | unknown => exact absurd kind known

/-- What the items of an element can come to. -/
theorem marshallItems_cases (type noOfItems varSize : U32) (s : Info)
    : (kindOf type ≠ .unknown → ¬ s.TooSmall noOfItems (kindOf type).wireWidth)
        ∧ marshallItems type noOfItems varSize s
          = .ok (s.packed noOfItems.toNat (kindOf type),
              firstOr varSize s.mem s.pSrc (kindOf type))
      ∨ marshallItems type noOfItems varSize s = .error (.paramErr, s) := by
  by_cases room : kindOf type ≠ .unknown → ¬ s.TooSmall noOfItems (kindOf type).wireWidth
  · exact .inl ⟨room, marshallItems_eq room⟩
  · obtain ⟨known, tooSmall⟩ := Classical.not_imp.mp room
    exact .inr (marshallItems_tooSmall known (not_not.mp tooSmall))

theorem width_pos {type : U32} (number : kindOf type = .number width) : 0 < width := by
  rcases width_cases number with rfl | rfl | rfl <;> decide

theorem writes_packed (type : U32) (n : Nat) (s : Info)
    : Writes (n * (kindOf type).wireWidth) s (s.packed n (kindOf type)) := by
  cases kind : kindOf type with
  | number width =>
      exact .of_aligned (width_pos kind) (writes_times (writes_put width) n _)
  | wide => exact .of_aligned (by decide) (writes_times (writes_put 8) n _)
  | timedate48 => exact writes_times writes_putTimedate48 n s
  | timedate64 =>
      have each (s : Info) : Writes 8 s ((s.put 4).put 4) :=
        (writes_put 4 s).trans (writes_put 4 (s.put 4))
      exact .of_aligned (by decide) (writes_times each n _)
  | unknown => exact Writes.refl s

/-- `var_size` after an element is what a later array can have. -/
theorem tracks_firstOr {count : Option Nat} {element : Element} {v : U32} {mem : Bytes} {next : Nat}
    (tracks : Tracks count v)
    : Tracks (countAfter count element) (firstOr v mem next (kindOf element.type)) := by
  intro limit known
  unfold countAfter at known
  cases kind : kindOf element.type with
  | number width =>
      rw [kind] at known
      simp only at known
      split at known
      · obtain rfl := Option.some.inj known
        have fits : read mem (alignePtr next width) width < 256 ^ width := read_lt
        rw [firstOr, BitVec.toNat_ofNat]
        exact (Nat.mod_le _ _).trans (Nat.le_sub_one_of_lt fits)
      · cases known
  | wide => exact tracks limit (by simpa [kind] using known)
  | timedate48 => exact tracks limit (by simpa [kind] using known)
  | timedate64 => exact tracks limit (by simpa [kind] using known)
  | unknown => exact tracks limit (by simpa [kind] using known)

/-- The items of one element. -/
theorem marshallItems_within {type noOfItems varSize varSize' : U32}
    (bytes : noOfItems.toNat * (kindOf type).wireWidth < 2 ^ 32)
    (done : marshallItems type noOfItems varSize s = .ok (s', varSize'))
    : Within s s' := by
  rcases marshallItems_cases type noOfItems varSize s with ⟨room, packed⟩ | failed
  · obtain ⟨rfl, -⟩ := Prod.mk.inj (Except.ok.inj (done.symm.trans packed))
    have writes := writes_packed type noOfItems.toNat s
    by_cases known : kindOf type = .unknown
    · rw [known]
      exact ⟨id, 0, .refl s⟩
    · exact writes.within bytes (room known)
  · rw [failed] at done
    cases done

theorem marshallSteps : Steps marshallWalk Within where
  refl s := ⟨id, 0, .refl s⟩
  trans := by
    rintro s s' s'' ⟨room, k, first⟩ ⟨room', l, second⟩
    refine ⟨fun start => ?_, k + l, first.trans second⟩
    have end_eq := first.pDstEnd
    have there := room' (by rw [end_eq]; exact room start)
    rwa [end_eq] at there
  failed := by
    intro type n v s e s' _ failed
    rcases marshallItems_cases type n v s with ⟨-, packed⟩ | failed'
    · exact absurd (failed.symm.trans packed) (by simp)
    · obtain ⟨-, rfl⟩ := Prod.mk.inj (Except.error.inj (failed.symm.trans failed'))
      exact ⟨id, 0, .refl _⟩
  done bytes done := marshallItems_within bytes done
  tracks := by
    intro count element v s s' v' _ tracks done
    rcases marshallItems_cases element.type (itemsOf element v) v s with ⟨-, packed⟩ | failed
    · obtain ⟨-, rfl⟩ := Prod.mk.inj (Except.ok.inj (done.symm.trans packed))
      exact tracks_firstOr tracks
    · exact absurd (done.symm.trans failed) (by simp)

/-- The data sets of the tables are well-formed. -/
def Tables.Fit (tables : Tables) : Prop :=
  ∀ dataset ∈ tables.sDataSets, WellFormed (some 0) dataset.pElement

instance (tables : Tables) : Decidable tables.Fit :=
  inferInstanceAs (Decidable (∀ dataset ∈ tables.sDataSets, _))

variable {tables : Tables} {dataset : Dataset} {id : U32}

theorem Tables.findDs_mem (tables : Tables) (found : tables.findDs id = some dataset)
    : dataset ∈ tables.sDataSets :=
  List.mem_of_find?_eq_some found

theorem Tables.findDsFromComId_mem (tables : Tables)
    (found : tables.findDsFromComId id = some dataset)
    : dataset ∈ tables.sDataSets := by
  obtain ⟨entry, -, found⟩ := Option.bind_eq_some_iff.mp found
  exact tables.findDs_mem found

theorem Tables.Fit.datasets (fit : tables.Fit) (member : dataset ∈ tables.sDataSets)
    : DatasetsFit tables.findDs dataset :=
  ⟨fit dataset member, fun _ _ found => fit _ (tables.findDs_mem found)⟩

/-- A data set that a call can use: one of the tables, also where it was found before. -/
def Tables.Cached (tables : Tables) (ppDSPointer : Option (Option Dataset)) : Prop :=
  ∀ cached ∈ ppDSPointer, ∀ dataset ∈ cached, dataset ∈ tables.sDataSets

variable {found : Option Dataset} {pSrc pDest : Nat} {srcSize destSize : U32}
  {ppDSPointer : Option (Option Dataset)} {mem : Bytes}

/-- The data set that a call uses is one of the tables. -/
theorem Tables.Cached.used (cached : tables.Cached ppDSPointer)
    (known : ∀ dataset ∈ found, dataset ∈ tables.sDataSets)
    (used : (ppDSPointer.map fun cached => cached.or found).getD found = some dataset)
    : dataset ∈ tables.sDataSets := by
  cases ppDSPointer with
  | none => exact known dataset used
  | some pointer =>
      cases pointer with
      | none => exact known dataset used
      | some before =>
          obtain rfl := Option.some.inj used
          exact cached (some before) rfl before rfl

/-- A walk that stays within the destination stores no more there than it has. -/
theorem Within.stored {s : Info} (within : Within ⟨pSrc, pSrc + srcSize.toNat, pDest,
      pDest + destSize.toNat, mem⟩ s)
    : (∀ x, ¬ In pDest destSize.toNat x → s.mem x = mem x)
      ∧ (BitVec.ofNat 32 (s.pDst - pDest)).toNat ≤ destSize.toNat := by
  obtain ⟨room, k, writes⟩ := within
  have place := writes.pDst
  have fits := room (Nat.le_add_right _ _)
  simp only at place fits
  constructor
  · intro x outside
    refine writes.frame x fun inside => outside ?_
    unfold In at *
    simp only at inside
    omega
  · rw [BitVec.toNat_ofNat]
    exact (Nat.mod_le _ _).trans (by omega)

@[simp] theorem ofWalk_mem (result : Except (TrdpErr × Info) Info)
    : (Converted.ofWalk pDest ppDSPointer result).mem = (stateOf result).mem := by
  cases result <;> rfl

@[simp] theorem ofWalk_pDestSize (result : Except (TrdpErr × Info) Info)
    : (Converted.ofWalk pDest ppDSPointer result).pDestSize
      = some (BitVec.ofNat 32 ((stateOf result).pDst - pDest)) := by
  cases result <;> rfl

theorem convert_within (fit : tables.Fit) (known : ∀ dataset ∈ found, dataset ∈ tables.sDataSets)
    (cached : tables.Cached ppDSPointer)
    : let converted := tables.convert marshallWalk found id pSrc srcSize pDest (some destSize)
        ppDSPointer mem
      (∀ x, ¬ In pDest destSize.toNat x → converted.mem x = mem x)
      ∧ ∃ used ∈ converted.pDestSize, used.toNat ≤ destSize.toNat := by
  have unchanged : (∀ x, ¬ In pDest destSize.toNat x → mem x = mem x)
      ∧ ∃ used ∈ some destSize, used.toNat ≤ destSize.toNat :=
    ⟨fun _ _ => rfl, destSize, rfl, le_rfl⟩
  simp only [Tables.convert]
  split
  · exact unchanged
  · cases used : (ppDSPointer.map fun cached => cached.or found).getD found with
    | none => exact unchanged
    | some dataset =>
        have walked := marshallSteps.walkDs (fit.datasets (cached.used known used)) tauMaxDsLevel
          ⟨pSrc, pSrc + srcSize.toNat, pDest, pDest + destSize.toNat, mem⟩
        obtain ⟨frame, stored⟩ := Within.stored walked
        simp only [ofWalk_mem, ofWalk_pDestSize]
        exact ⟨frame, _, rfl, stored⟩

/-- Marshalling, whatever comes of it, writes to the destination only, and reports no more bytes than
it was given.
-/
theorem tauMarshall_within (fit : tables.Fit) (cached : tables.Cached ppDSPointer)
    : ∀ converted ∈
          [tables.tauMarshall id pSrc srcSize pDest (some destSize) ppDSPointer mem,
            tables.tauMarshallDs id pSrc srcSize pDest (some destSize) ppDSPointer mem],
        (∀ x, ¬ In pDest destSize.toNat x → converted.mem x = mem x)
        ∧ ∃ used ∈ converted.pDestSize, used.toNat ≤ destSize.toNat := by
  intro converted member
  rcases List.mem_cons.mp member with rfl | member
  · exact convert_within fit (fun _ found => tables.findDsFromComId_mem found) cached
  · obtain rfl := List.mem_singleton.mp member
    exact convert_within fit (fun _ found => tables.findDs_mem found) cached

/-- A data set with an array of others, of counted length, and two times. -/
def countedTables : Tables where
  sComIdDsIdMap := [⟨7, 1000⟩]
  sDataSets := [⟨1000, [⟨9, 1⟩, ⟨1001, 0⟩, ⟨15, 2⟩]⟩, ⟨1001, [⟨8, 1⟩, ⟨11, 1⟩]⟩]

/-- Two of the others, from address 8 on. -/
def countedMem : Bytes := fun x => if x = 8 then 2 else if x = 9 then 0 else BitVec.ofNat 8 x

/-- The 32 bytes do not fit 20. -/
theorem tauMarshall_within_counted
    : countedTables.Fit
      ∧ (countedTables.tauMarshall 7 8 48 100 (some 20) none countedMem).err = some .paramErr
      ∧ ∀ converted ∈
            [countedTables.tauMarshall 7 8 48 100 (some 20) none countedMem,
              countedTables.tauMarshallDs 7 8 48 100 (some 20) none countedMem],
          (∀ x, ¬ In 100 (20 : U32).toNat x → converted.mem x = countedMem x)
          ∧ ∃ used ∈ converted.pDestSize, used.toNat ≤ (20 : U32).toNat :=
  ⟨by decide, by decide, tauMarshall_within (by decide) (by simp [Tables.Cached])⟩

end TsnTrdp.Marshall
