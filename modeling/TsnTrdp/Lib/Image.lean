import Mathlib.Data.List.Nodup

/-! Structures in memory that are filled in field by field and then copied out whole. What is copied
is independent of what the memory held exactly if the fields that were assigned cover it.
-/

namespace TsnTrdp.Image

/-- An area of memory, bit by bit. -/
abbrev Bits := Nat → Bool

/-- A field that is assigned: its first bit in the area, and its value. -/
structure Assigned where
  start : Nat
  width : Nat
  value : BitVec width

/-- A field of whole bytes, by its offset. -/
def atByte {w : Nat} (offset : Nat) (value : BitVec w) : Assigned := ⟨8 * offset, w, value⟩

/-- The bit is one of the field's. -/
def Assigned.Covers (field : Assigned) (i : Nat) : Prop :=
  field.start ≤ i ∧ i < field.start + field.width

instance (field : Assigned) (i : Nat) : Decidable (field.Covers i) :=
  inferInstanceAs (Decidable (_ ∧ _))

def assign (area : Bits) (field : Assigned) : Bits := fun i =>
  if field.Covers i then field.value.getLsbD (i - field.start) else area i

/-- The area after some assignments, in their order. -/
def fill (fields : List Assigned) (area : Bits) : Bits := fields.foldl assign area

/-- The first `n` bits of the area. -/
def copyOut (n : Nat) (area : Bits) : List Bool := (List.range n).map area

variable {fields : List Assigned} {i n : Nat}

/-- A bit of no field is as it was. By induction on the fields. -/
theorem fill_of_not_covered (area : Bits) (bare : ∀ field ∈ fields, ¬ field.Covers i)
    : fill fields area i = area i := by
  induction fields generalizing area with
  | nil => rfl
  | cons field rest ih =>
      obtain ⟨first, later⟩ := List.forall_mem_cons.mp bare
      exact (ih (assign area field) later).trans (if_neg first)

/-- Assignments keep two areas in agreement on a bit. -/
theorem fill_congr {area other : Bits} (agree : area i = other i)
    : fill fields area i = fill fields other i := by
  induction fields generalizing area other with
  | nil => exact agree
  | cons field rest ih =>
      have kept : assign area field i = assign other field i :=
        congrArg (fun b => if field.Covers i then field.value.getLsbD (i - field.start) else b)
          agree
      exact ih kept

/-- A bit of some field does not depend on the area: two areas agree on it from the assignment to
that field on.
-/
theorem fill_of_covered (area other : Bits) (covered : ∃ field ∈ fields, field.Covers i)
    : fill fields area i = fill fields other i := by
  induction fields generalizing area other with
  | nil =>
      obtain ⟨field, member, -⟩ := covered
      cases member
  | cons field rest ih =>
      by_cases here : field.Covers i
      · have agree : assign area field i = assign other field i :=
          (if_pos here).trans (if_pos here).symm
        change fill rest (assign area field) i = fill rest (assign other field) i
        exact fill_congr agree
      · apply ih
        obtain ⟨later, member, covers⟩ := covered
        rcases List.mem_cons.mp member with rfl | member
        · exact absurd covers here
        · exact ⟨later, member, covers⟩

/-- What is copied out is independent of the area exactly if the fields cover it. -/
theorem copyOut_fill_iff
    : (∀ area other, copyOut n (fill fields area) = copyOut n (fill fields other))
      ↔ ∀ i < n, ∃ field ∈ fields, field.Covers i := by
  constructor
  · intro same i bound
    by_contra none
    have bare : ∀ field ∈ fields, ¬ field.Covers i := fun field member covers =>
      none ⟨field, member, covers⟩
    have bits := List.map_inj_left.mp (same (fun _ => false) (fun _ => true)) i
      (List.mem_range.mpr bound)
    rw [fill_of_not_covered _ bare, fill_of_not_covered _ bare] at bits
    cases bits
  · intro covered area other
    apply List.map_congr_left
    intro i member
    exact fill_of_covered area other (covered i (List.mem_range.mp member))

/-- Where the fields lie, without their values. -/
def extents (fields : List Assigned) : List (Nat × Nat) :=
  fields.map fun field => (field.start, field.width)

theorem covered_iff_extents
    : (∃ field ∈ fields, field.Covers i)
      ↔ ∃ extent ∈ extents fields, extent.1 ≤ i ∧ i < extent.1 + extent.2 := by
  constructor
  · rintro ⟨field, member, covers⟩
    exact ⟨(field.start, field.width), List.mem_map.mpr ⟨field, member, rfl⟩, covers⟩
  · rintro ⟨extent, member, covers⟩
    obtain ⟨field, known, rfl⟩ := List.mem_map.mp member
    exact ⟨field, known, covers⟩

end TsnTrdp.Image
