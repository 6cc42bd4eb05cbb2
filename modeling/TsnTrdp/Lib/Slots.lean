import Mathlib.Data.List.Nodup

/-! Memories of independent slots: storing into one slot leaves the others alone. A loop that
stores once into each of several slots can then be read back slot by slot.
-/

namespace TsnTrdp.Slots

variable {μ ι ν ε : Type*} {read : μ → ι → ν} {write : μ → ι → ν → μ}

/-- The slots are independent. -/
structure Independent (read : μ → ι → ν) (write : μ → ι → ν → μ) : Prop where
  same : ∀ mem i value, read (write mem i value) i = value
  other : ∀ mem i j value, i ≠ j → read (write mem i value) j = read mem j

/-- Store every entry into its slot, in order. -/
def writeAll (write : μ → ι → ν → μ) (slot : ε → ι) (value : ε → ν) (mem : μ)
    (entries : List ε)
    : μ :=
  entries.foldl (fun mem entry => write mem (slot entry) (value entry)) mem

variable {slot : ε → ι} {value : ε → ν} {mem : μ} {entries : List ε}

/-- A slot that no entry names keeps its contents, by induction on the entries. -/
theorem Independent.writeAll_other (slots : Independent read write) {i : ι}
    (absent : ∀ entry ∈ entries, slot entry ≠ i)
    : read (writeAll write slot value mem entries) i = read mem i := by
  induction entries generalizing mem with
  | nil => rfl
  | cons entry rest ih =>
      have first := slots.other mem _ i (value entry) (absent entry List.mem_cons_self)
      have later : ∀ e ∈ rest, slot e ≠ i := fun e member =>
        absent e (List.mem_cons_of_mem _ member)
      exact (ih later).trans first

/-- Entries of pairwise different slots are all read back, by induction on the entries. -/
theorem Independent.writeAll_same (slots : Independent read write)
    (nodup : (entries.map slot).Nodup) {entry : ε} (member : entry ∈ entries)
    : read (writeAll write slot value mem entries) (slot entry) = value entry := by
  induction entries generalizing mem with
  | nil => cases member
  | cons first rest ih =>
      obtain ⟨fresh, nodup⟩ := List.nodup_cons.mp nodup
      rcases List.mem_cons.mp member with rfl | later
      · have absent : ∀ e ∈ rest, slot e ≠ slot entry := by
          intro e member same
          apply fresh
          rw [← same]
          exact List.mem_map_of_mem member
        exact (slots.writeAll_other absent).trans (slots.same mem (slot entry) (value entry))
      · exact ih nodup later

end TsnTrdp.Slots
