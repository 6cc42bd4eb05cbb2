import TsnTrdp.Marshall.Bounds

/-! What a data set is in the memory of the host: the numbers that the walks over it visit, and what
they are on the wire.
-/

namespace TsnTrdp.Marshall

open TsnTrdp.Memory

/-- A number in the memory of the host. -/
structure Field where
  addr : Nat
  width : Nat
  deriving DecidableEq, Repr

/-- The numbers laid out so far, and the next address. The memory tells the lengths of arrays. -/
structure Layout where
  next : Nat
  limit : Nat
  mem : Bytes
  fields : List Field

def Layout.align (k : Nat) (l : Layout) : Layout := { l with next := alignePtr l.next k }

def Layout.skip (k : Nat) (l : Layout) : Layout := { l with next := l.next + k }

/-- A number at the next address. -/
def Layout.field (width : Nat) (l : Layout) : Layout :=
  { l with next := l.next + width, fields := l.fields ++ [⟨l.next, width⟩] }

/-- Seconds and ticks, and the two bytes that end the structure. -/
def Layout.timedate48 (l : Layout) : Layout := ((((l.align 4).field 4).align 2).field 2).skip 2

/-- Seconds and microseconds. -/
def Layout.timedate64 (l : Layout) : Layout := (l.field 4).field 4

/-- The items of an element. -/
def Layout.laid (n : Nat) (l : Layout) : Kind → Layout
  | .number width => times (Layout.field width) n (l.align width)
  | .wide => times (Layout.field 8) n (l.align 8)
  | .timedate48 => times Layout.timedate48 n l
  | .timedate64 => times Layout.timedate64 n (l.align 4)
  | .unknown => l

/-- The first number of an element can be the length of a later array. -/
def layoutItems (type noOfItems varSize : U32) (l : Layout)
    : Except (TrdpErr × Layout) (Layout × U32) :=
  .ok (l.laid noOfItems.toNat (kindOf type), firstOr varSize l.mem l.next (kindOf type))

def layoutWalk : Walk Layout := ⟨layoutItems, Layout.next, Layout.limit⟩

/-- The numbers of a data set in some memory. -/
def layoutDs (findDs : U32 → Option Dataset) (dataset : Dataset) (mem : Bytes) (pSrc srcSize : Nat)
    : Option (List Field) :=
  match walkDs layoutWalk findDs tauMaxDsLevel dataset ⟨pSrc, pSrc + srcSize, mem, []⟩ with
  | .ok l => some l.fields
  | .error _ => none

example
    : (countedTables.findDs 1000).bind (layoutDs countedTables.findDs · countedMem 8 48)
      = some [⟨8, 2⟩, ⟨10, 1⟩, ⟨16, 8⟩, ⟨24, 1⟩, ⟨32, 8⟩, ⟨40, 4⟩, ⟨44, 2⟩, ⟨48, 4⟩, ⟨52, 2⟩] := by
  decide

/-- The numbers on the wire: one after the other in network order, with nothing between them. -/
def wire (mem : Bytes) (fields : List Field) : List (BitVec 8) :=
  fields.flatMap fun field => network (read mem field.addr field.width) field.width

variable {mem : Bytes} {fields more : List Field} {l l' l'' : Layout} {k width n : Nat}

theorem wire_append : wire mem (fields ++ more) = wire mem fields ++ wire mem more :=
  List.flatMap_append

theorem wire_field {field : Field}
    : wire mem [field] = network (read mem field.addr field.width) field.width := by
  simp [wire]

-----------------------------------------------------------------------------------------
-- The numbers are laid out one after the other
-----------------------------------------------------------------------------------------

/-- A step that lays out more numbers, from the next address on. -/
structure Grows (l l' : Layout) : Prop where
  mem : l'.mem = l.mem
  limit : l'.limit = l.limit
  next : l.next ≤ l'.next
  fields
    : ∃ more, l'.fields = l.fields ++ more
        ∧ ∀ field ∈ more, l.next ≤ field.addr ∧ field.addr + field.width ≤ l'.next ∧ 0 < field.width

theorem Grows.refl (l : Layout) : Grows l l := ⟨rfl, rfl, le_rfl, [], by simp⟩

theorem Grows.trans (first : Grows l l') (second : Grows l' l'') : Grows l l'' := by
  obtain ⟨more, grown, within⟩ := first.fields
  obtain ⟨more', grown', within'⟩ := second.fields
  refine ⟨second.mem.trans first.mem, second.limit.trans first.limit, first.next.trans second.next,
    more ++ more', by rw [grown', grown, List.append_assoc], fun field member => ?_⟩
  rcases List.mem_append.mp member with early | late
  · obtain ⟨above, below, wide⟩ := within field early
    exact ⟨above, below.trans second.next, wide⟩
  · obtain ⟨above, below, wide⟩ := within' field late
    exact ⟨first.next.trans above, below, wide⟩

theorem grows_align (pos : 0 < k) : Grows l (l.align k) :=
  ⟨rfl, rfl, le_alignePtr _ pos, [], by simp [Layout.align]⟩

theorem grows_skip : Grows l (l.skip k) :=
  ⟨rfl, rfl, Nat.le_add_right _ _, [], by simp [Layout.skip]⟩

theorem grows_field (pos : 0 < width) : Grows l (l.field width) := by
  refine ⟨rfl, rfl, Nat.le_add_right _ _, [⟨l.next, width⟩], rfl, fun field member => ?_⟩
  obtain rfl := List.mem_singleton.mp member
  exact ⟨le_rfl, le_rfl, pos⟩

theorem grows_timedate48 : Grows l l.timedate48 :=
  ((((grows_align (by decide)).trans (grows_field (by decide))).trans (grows_align (by decide))).trans
    (grows_field (by decide))).trans grows_skip

theorem grows_timedate64 : Grows l l.timedate64 :=
  (grows_field (by decide)).trans (grows_field (by decide))

theorem grows_times {f : Layout → Layout} (each : ∀ l, Grows l (f l)) : Grows l (times f n l) := by
  induction n generalizing l with
  | zero => exact .refl l
  | succ n ih => exact (each l).trans ih

theorem grows_laid (type : U32) (n : Nat) (l : Layout) : Grows l (l.laid n (kindOf type)) := by
  cases kind : kindOf type with
  | number width =>
      exact (grows_align (width_pos kind)).trans (grows_times fun l => grows_field (width_pos kind))
  | wide => exact (grows_align (by decide)).trans (grows_times fun l => grows_field (by decide))
  | timedate48 => exact grows_times fun l => grows_timedate48
  | timedate64 => exact (grows_align (by decide)).trans (grows_times fun l => grows_timedate64)
  | unknown => exact .refl l

theorem layoutSteps : Steps layoutWalk Grows where
  refl := .refl
  trans := .trans
  failed _ failed := absurd failed (by simp [layoutWalk, layoutItems])
  done := by
    intro type n v s s' v' _ done
    obtain ⟨rfl, -⟩ := Prod.mk.inj (Except.ok.inj done)
    exact grows_laid type n.toNat s
  tracks := by
    intro count element v s s' v' _ tracks done
    obtain ⟨-, rfl⟩ := Prod.mk.inj (Except.ok.inj done)
    exact tracks_firstOr tracks

/-- The numbers of a data set are laid out in its bytes. -/
theorem walkDs_grows {findDs : U32 → Option Dataset} {dataset : Dataset} {levels : Nat}
    (fits : DatasetsFit findDs dataset) (done : walkDs layoutWalk findDs levels dataset l = .ok l')
    : Grows l l' := by
  have grows := layoutSteps.walkDs fits levels l
  rwa [done] at grows

end TsnTrdp.Marshall
