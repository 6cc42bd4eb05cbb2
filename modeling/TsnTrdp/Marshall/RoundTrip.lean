import TsnTrdp.Marshall.Decoding

/-! A data set that is marshalled, sent and unmarshalled arrives as it was. -/

namespace TsnTrdp.Marshall

open TsnTrdp.Memory

variable {σ : Type*} {walk : Walk σ} {findDs : U32 → Option Dataset} {dataset : Dataset}
  {levels : Nat} {s s' : σ} {start : Info}

/-- A walk that is done did not read past its end. -/
theorem walkDs_pSrc_le (done : walkDs walk findDs levels dataset s = .ok s')
    : walk.pSrc s' ≤ walk.pSrcEnd s' := by
  cases levels with
  | zero => cases done
  | succ levels =>
      rw [walkDs] at done
      cases step : walkElements walk (nestedDs findDs (walkDs walk findDs levels))
          dataset.pElement 0 s with
      | error failure =>
          simp only [step] at done
          cases done
      | ok next =>
          simp only [step] at done
          change (if _ then _ else _) = _ at done
          split at done
          · cases done
          · obtain rfl := Except.ok.inj done
            exact Nat.not_lt.mp ‹_›

/-- `marshallDs` packs the wire of the data set. -/
theorem marshallDs_wire {packed : Info} (fits : DatasetsFit findDs dataset) (clear : Clear start)
    (room : Room start) (done : marshallDs findDs levels dataset start = .ok packed)
    : ∃ l, walkDs layoutWalk findDs levels dataset ⟨start.pSrc, start.pSrcEnd, start.mem, []⟩ = .ok l
        ∧ Room packed ∧ Packed start packed l := by
  have within := marshallSteps.walkDs fits levels start
  rw [show walkDs marshallWalk findDs levels dataset start = .ok packed from done] at within
  obtain ⟨stays, _, writes⟩ := within
  have dest := stays room.2
  rw [← writes.pDstEnd] at dest
  have roomy : Room packed := ⟨walkDs_pSrc_le done, dest⟩
  obtain ⟨-, follows⟩ := (follows_layout clear).walkDs fits start packed done roomy
  have nothing : Packed start start ⟨start.pSrc, start.pSrcEnd, start.mem, []⟩ :=
    ⟨rfl, rfl, rfl, rfl, rfl, le_rfl, rfl, trivial, fun _ _ => rfl⟩
  obtain ⟨l, laid, sends⟩ := follows _ fun _ => nothing
  exact ⟨l, laid, roomy, sends roomy⟩

/-- `unmarshallDs` restores the data set from its wire. -/
theorem unmarshallDs_wire (t : Transfer) {l : Layout} (fits : DatasetsFit findDs dataset)
    (laid : walkDs layoutWalk findDs levels dataset ⟨t.source, t.sourceEnd, t.sent, []⟩ = .ok l)
    (all : l.fields = t.fields)
    : ∃ u, unmarshallDs findDs levels dataset t.start = .ok u ∧ Unpacked t l u := by
  have good : t.Good l :=
    ⟨⟨all ▸ List.prefix_rfl, walkDs_pSrc_le laid⟩, fun _ => all⟩
  obtain ⟨-, follows⟩ := (follows_unmarshall t).walkDs fits _ l laid good
  have nothing : Unpacked t ⟨t.source, t.sourceEnd, t.sent, []⟩ t.start :=
    ⟨rfl, rfl, rfl, rfl, le_rfl, by simp, rfl, t.contains, by simp, fun _ _ => rfl⟩
  obtain ⟨u, done, related⟩ := follows t.start fun _ => ⟨nothing, .inl rfl⟩
  exact ⟨u, done, (related good).1⟩

-----------------------------------------------------------------------------------------
-- The calls
-----------------------------------------------------------------------------------------

/-- What was found before is what is found. -/
def SameCached (found : Option Dataset) (ppDSPointer : Option (Option Dataset)) : Prop :=
  ∀ cached ∈ ppDSPointer, ∀ dataset ∈ cached, found = some dataset

variable {tables : Tables} {found : Option Dataset} {id comId : U32} {pSrc pDest : Nat}
  {srcSize destSize : U32} {ppDSPointer : Option (Option Dataset)} {mem : Bytes}

theorem SameCached.used (same : SameCached found ppDSPointer)
    : (ppDSPointer.map fun cached => cached.or found).getD found = found := by
  cases ppDSPointer with
  | none => rfl
  | some pointer =>
      cases pointer with
      | none => rfl
      | some dataset => exact (same _ rfl dataset rfl).symm

/-- A call that finds its data set leaves what the walk over it leaves. -/
theorem convert_eq (tables : Tables) (walk : Walk Info) (srcSize : U32) (mem : Bytes)
    (same : SameCached (some dataset) ppDSPointer) (known : id ≠ 0) (source : pSrc ≠ 0)
    (dest : pDest ≠ 0) (sized : destSize ≠ 0)
    : ∃ pointer, tables.convert walk (some dataset) id pSrc srcSize pDest (some destSize) ppDSPointer mem
        = .ofWalk pDest pointer (walkDs walk tables.findDs tauMaxDsLevel dataset
            ⟨pSrc, pSrc + srcSize.toNat, pDest, pDest + destSize.toNat, mem⟩) := by
  refine ⟨ppDSPointer.map fun cached => cached.or (some dataset), ?_⟩
  simp only [Tables.convert, same.used]
  exact if_neg (not_or.mpr ⟨known, not_or.mpr ⟨source, not_or.mpr ⟨dest, sized⟩⟩⟩)

/-- A call that returns no error walked over its data set. -/
theorem convert_done {walk : Walk Info} (same : SameCached found ppDSPointer)
    (done : (tables.convert walk found id pSrc srcSize pDest (some destSize) ppDSPointer mem).err
      = none)
    : id ≠ 0 ∧ ∃ dataset s pointer, found = some dataset
        ∧ walkDs walk tables.findDs tauMaxDsLevel dataset
            ⟨pSrc, pSrc + srcSize.toNat, pDest, pDest + destSize.toNat, mem⟩ = .ok s
        ∧ tables.convert walk found id pSrc srcSize pDest (some destSize) ppDSPointer mem
            = .ofWalk pDest pointer (.ok s) := by
  by_cases params : id = 0 ∨ pSrc = 0 ∨ pDest = 0 ∨ destSize = 0
  · simp only [Tables.convert, if_pos params] at done
    cases done
  · simp only [not_or] at params
    obtain ⟨known, source, dest, sized⟩ := params
    refine ⟨known, ?_⟩
    cases used : found with
    | none =>
        rw [used] at same done
        simp only [Tables.convert, same.used] at done
        split at done <;> cases done
    | some dataset =>
        rw [used] at same done
        obtain ⟨pointer, left⟩ := convert_eq tables walk srcSize mem same known source dest sized
        rw [left] at done ⊢
        cases result : walkDs walk tables.findDs tauMaxDsLevel dataset
            ⟨pSrc, pSrc + srcSize.toNat, pDest, pDest + destSize.toNat, mem⟩ with
        | ok s => exact ⟨dataset, s, pointer, rfl, result, rfl⟩
        | error failure =>
            rw [result] at done
            cases done

/-- A data set that is marshalled is on the wire, in as many bytes as are reported. -/
theorem convert_wire (fit : tables.Fit) (known : ∀ dataset ∈ found, dataset ∈ tables.sDataSets)
    (same : SameCached found ppDSPointer) (clear : Apart pSrc srcSize.toNat pDest destSize.toNat)
    : let marshalled := tables.convert marshallWalk found id pSrc srcSize pDest (some destSize)
        ppDSPointer mem
      marshalled.err = none
        → ∃ dataset ∈ found, ∃ l,
            walkDs layoutWalk tables.findDs tauMaxDsLevel dataset
              ⟨pSrc, pSrc + srcSize.toNat, mem, []⟩ = .ok l
            ∧ ∃ used ∈ marshalled.pDestSize, used.toNat = (wire mem l.fields).length
            ∧ Contains marshalled.mem pDest (wire mem l.fields)
            ∧ ∀ x, ¬ In pDest used.toNat x → marshalled.mem x = mem x := by
  intro marshalled done
  obtain ⟨-, dataset, s, pointer, rfl, walked, left⟩ := convert_done same done
  have apart : Clear ⟨pSrc, pSrc + srcSize.toNat, pDest, pDest + destSize.toNat, mem⟩ := by
    unfold Clear
    simpa using clear
  obtain ⟨l, laid, room, packed⟩ := marshallDs_wire (fit.datasets (known dataset rfl)) apart
    ⟨Nat.le_add_right _ _, Nat.le_add_right _ _⟩ walked
  have place := packed.pDst
  have ends := packed.pDstEnd
  have fits := room.2
  simp only at place ends
  have length : (BitVec.ofNat 32 (s.pDst - pDest)).toNat = (wire mem l.fields).length := by
    have small := destSize.isLt
    rw [place, Nat.add_sub_cancel_left, BitVec.toNat_ofNat, Nat.mod_eq_of_lt (by omega)]
  refine ⟨dataset, rfl, l, laid, BitVec.ofNat 32 (s.pDst - pDest), ?_, length, ?_, ?_⟩
  · simp [marshalled, left, stateOf]
  · simpa [marshalled, left, stateOf] using packed.contains
  · rw [length]
    simpa [marshalled, left, stateOf] using packed.frame

/-- Marshalling writes the numbers of the data set, in network order and with nothing between them, and
nothing else.
-/
theorem tauMarshall_wire (fit : tables.Fit) (clear : Apart pSrc srcSize.toNat pDest destSize.toNat)
    : ∀ call ∈
          [(tables.findDsFromComId id,
              tables.tauMarshall id pSrc srcSize pDest (some destSize) ppDSPointer mem),
            (tables.findDs id,
              tables.tauMarshallDs id pSrc srcSize pDest (some destSize) ppDSPointer mem)],
        SameCached call.1 ppDSPointer → call.2.err = none
        → ∃ dataset ∈ call.1, ∃ fields,
            layoutDs tables.findDs dataset mem pSrc srcSize.toNat = some fields
            ∧ ∃ used ∈ call.2.pDestSize, used.toNat = (wire mem fields).length
            ∧ Contains call.2.mem pDest (wire mem fields)
            ∧ ∀ x, ¬ In pDest used.toNat x → call.2.mem x = mem x := by
  intro call member same done
  rcases List.mem_cons.mp member with rfl | member
  · obtain ⟨dataset, found, l, laid, rest⟩ :=
      convert_wire fit (fun _ found => tables.findDsFromComId_mem found) same clear done
    exact ⟨dataset, found, l.fields, by simp [layoutDs, laid], rest⟩
  · obtain rfl := List.mem_singleton.mp member
    obtain ⟨dataset, found, l, laid, rest⟩ :=
      convert_wire fit (fun _ found => tables.findDs_mem found) same clear done
    exact ⟨dataset, found, l.fields, by simp [layoutDs, laid], rest⟩

theorem tauMarshall_wire_counted
    : (countedTables.tauMarshall 7 8 48 100 (some 64) none countedMem).err = none
      ∧ ∃ dataset ∈ countedTables.findDsFromComId 7, ∃ fields,
          layoutDs countedTables.findDs dataset countedMem 8 (48 : U32).toNat = some fields
          ∧ ∃ used ∈ (countedTables.tauMarshall 7 8 48 100 (some 64) none countedMem).pDestSize,
            used.toNat = (wire countedMem fields).length
            ∧ Contains (countedTables.tauMarshall 7 8 48 100 (some 64) none countedMem).mem 100
                (wire countedMem fields)
            ∧ ∀ x, ¬ In 100 used.toNat x
                → (countedTables.tauMarshall 7 8 48 100 (some 64) none countedMem).mem x
                  = countedMem x :=
  ⟨by decide, @tauMarshall_wire countedTables 7 8 100 48 64 none countedMem (by decide)
    (.inl (by decide)) _ List.mem_cons_self (by simp [SameCached]) (by decide)⟩

/-- What is restored of a data set: every number is where it was, and the bytes between them stay what
they were at the receiver.
-/
def Restored (tables : Tables) (found : Option Dataset) (pSrc srcSize : Nat) (mem : Bytes)
    (pDest : Nat) (before : Bytes) (restored : Converted)
    : Prop :=
  restored.err = none
    ∧ ∃ dataset ∈ found, ∃ fields,
        layoutDs tables.findDs dataset mem pSrc srcSize = some fields
        ∧ (∀ field ∈ fields,
            read restored.mem (field.addr - pSrc + pDest) field.width
              = read mem field.addr field.width)
        ∧ ∀ x, (∀ field ∈ fields, ¬ In (field.addr - pSrc + pDest) field.width x)
            → restored.mem x = before x

section

variable {marshalled : Converted} {mem' : Bytes} {pSrc' pDest' : Nat} {wireSize destSize' : U32}
  {ppDSPointer' : Option (Option Dataset)}

theorem convert_restores (fit : tables.Fit) (known : ∀ dataset ∈ found, dataset ∈ tables.sDataSets)
    (same : SameCached found ppDSPointer) (clear : Apart pSrc srcSize.toNat pDest destSize.toNat)
    (marshals
      : tables.convert marshallWalk found id pSrc srcSize pDest (some destSize) ppDSPointer mem
        = marshalled)
    (done : marshalled.err = none) (size : marshalled.pDestSize = some wireSize)
    (received : ∀ i < wireSize.toNat, mem' (pSrc' + i) = marshalled.mem (pDest + i))
    (same' : SameCached found ppDSPointer')
    (clear' : Apart pSrc' wireSize.toNat pDest' destSize'.toNat)
    (source : pSrc' ≠ 0) (dest : pDest' ≠ 0) (sized : destSize' ≠ 0)
    (aligned : pDest' % 8 = pSrc % 8) (room : srcSize.toNat ≤ destSize'.toNat)
    : Restored tables found pSrc srcSize.toNat mem pDest' mem'
        (tables.convert unmarshallWalk found id pSrc' wireSize pDest' (some destSize') ppDSPointer'
          mem') := by
  subst marshals
  have real := (convert_done same done).1
  obtain ⟨dataset, found, l, laid, used, stored, length, contains, -⟩ :=
    convert_wire fit known same clear done
  obtain rfl : wireSize = used := Option.some.inj (size.symm.trans stored)
  have fits := fit.datasets (known dataset found)
  obtain ⟨more, grown, within⟩ := (walkDs_grows fits laid).fields
  let t : Transfer :=
    { source := pSrc
      sourceEnd := pSrc + srcSize.toNat
      sent := mem
      fields := l.fields
      start := ⟨pSrc', pSrc' + wireSize.toNat, pDest', pDest' + destSize'.toNat, mem'⟩
      wide := by
        intro field member
        rw [grown] at member
        exact (within field (by simpa using member)).2.2
      whole := by rw [length]
      contains := contains.copied (by rw [← length]; exact received)
      clear := by
        unfold Clear
        simpa using clear'
      aligned
      room := by
        simp only
        omega }
  obtain ⟨u, walked, unpacked⟩ := unmarshallDs_wire t fits laid rfl
  obtain rfl := Option.mem_def.mp found
  obtain ⟨pointer, left⟩ := convert_eq tables unmarshallWalk wireSize mem' same' real source dest
    sized
  rw [show walkDs unmarshallWalk tables.findDs tauMaxDsLevel dataset t.start = .ok u from walked] at left
  rw [left]
  exact ⟨rfl, dataset, rfl, l.fields, by simp [layoutDs, laid], unpacked.restored, unpacked.frame⟩

/-- A data set that is marshalled, received somewhere else, and unmarshalled there with as much room as
it had and at the same alignment, is restored.
-/
theorem tauUnmarshall_tauMarshall (fit : tables.Fit)
    (same : SameCached (tables.findDsFromComId comId) ppDSPointer)
    (clear : Apart pSrc srcSize.toNat pDest destSize.toNat)
    (marshals
      : tables.tauMarshall comId pSrc srcSize pDest (some destSize) ppDSPointer mem = marshalled)
    (done : marshalled.err = none) (size : marshalled.pDestSize = some wireSize)
    (received : ∀ i < wireSize.toNat, mem' (pSrc' + i) = marshalled.mem (pDest + i))
    (same' : SameCached (tables.findDsFromComId comId) ppDSPointer')
    (clear' : Apart pSrc' wireSize.toNat pDest' destSize'.toNat)
    (source : pSrc' ≠ 0) (dest : pDest' ≠ 0) (sized : destSize' ≠ 0)
    (aligned : pDest' % 8 = pSrc % 8) (room : srcSize.toNat ≤ destSize'.toNat)
    : Restored tables (tables.findDsFromComId comId) pSrc srcSize.toNat mem pDest' mem'
        (tables.tauUnmarshall comId pSrc' wireSize pDest' (some destSize') ppDSPointer' mem') :=
  convert_restores fit (fun _ found => tables.findDsFromComId_mem found) same clear marshals done
    size received same' clear' source dest sized aligned room

/-- A data set that is named by itself, marshalled, received, and unmarshalled at the same alignment is
restored.
-/
theorem tauUnmarshallDs_tauMarshallDs (fit : tables.Fit)
    (same : SameCached (tables.findDs id) ppDSPointer)
    (clear : Apart pSrc srcSize.toNat pDest destSize.toNat)
    (marshals
      : tables.tauMarshallDs id pSrc srcSize pDest (some destSize) ppDSPointer mem = marshalled)
    (done : marshalled.err = none) (size : marshalled.pDestSize = some wireSize)
    (received : ∀ i < wireSize.toNat, mem' (pSrc' + i) = marshalled.mem (pDest + i))
    (same' : SameCached (tables.findDs id) ppDSPointer')
    (clear' : Apart pSrc' wireSize.toNat pDest' destSize'.toNat)
    (source : pSrc' ≠ 0) (dest : pDest' ≠ 0) (sized : destSize' ≠ 0)
    (aligned : pDest' % 8 = pSrc % 8) (room : srcSize.toNat ≤ destSize'.toNat)
    : Restored tables (tables.findDs id) pSrc srcSize.toNat mem pDest' mem'
        (tables.tauUnmarshallDs id pSrc' wireSize pDest' (some destSize') ppDSPointer' mem') :=
  convert_restores fit (fun _ found => tables.findDs_mem found) same clear marshals done size received
    same' clear' source dest sized aligned room

end

/-- Received at 300, and unpacked to 1000. -/
theorem tauUnmarshall_tauMarshall_counted
    : let marshalled := countedTables.tauMarshall 7 8 48 100 (some 64) none countedMem
      let received : Bytes := fun x => marshalled.mem (x - 200)
      Restored countedTables (countedTables.findDsFromComId 7) 8 (48 : U32).toNat countedMem 1000
        received (countedTables.tauUnmarshall 7 300 32 1000 (some 48) none received) :=
  tauUnmarshall_tauMarshall (by decide) (by simp [SameCached]) (.inl (by decide)) rfl (by decide)
    (by decide) (fun i _ => congrArg _ (by omega)) (by simp [SameCached]) (.inl (by decide))
    (by decide) (by decide) (by decide) (by decide) (by decide)

end TsnTrdp.Marshall
