import Mathlib.Data.List.Perm.Basic
import Mathlib.Data.List.Nodup
import Mathlib.Data.List.Range
import Mathlib.Logic.Function.Basic

/-! Hash tables with chaining, over any entries and any hash: an entry is pushed at the head
of its chain, and every entry stays in the chain of its hash.
-/

namespace TsnTrdp.Chains

variable {ε : Type*} {table : Nat → List ε} {i n : Nat} {entry e : ε}

/-- Push an entry at the head of chain `i`. -/
def push (table : Nat → List ε) (i : Nat) (entry : ε) : Nat → List ε :=
  Function.update table i (entry :: table i)

@[simp] theorem mem_push {j : Nat}
    : e ∈ push table i entry j ↔ j = i ∧ e = entry ∨ e ∈ table j := by
  unfold push
  by_cases same : j = i
  · subst same
    simp
  · simp [same]

/-- Every entry is in the chain of its hash. -/
def Placed (hash : ε → Option Nat) (table : Nat → List ε) : Prop :=
  ∀ i, ∀ e ∈ table i, hash e = some i

variable {hash : ε → Option Nat}

theorem Placed.push (placed : Placed hash table) (found : hash entry = some i)
    : Placed hash (push table i entry) := by
  intro j e member
  rcases mem_push.mp member with ⟨rfl, rfl⟩ | member
  · exact found
  · exact placed j e member

/-- The entries of the first `n` chains, chain by chain. -/
def entries (n : Nat) (table : Nat → List ε) : List ε := (List.range n).flatMap table

theorem mem_entries : e ∈ entries n table ↔ ∃ i < n, e ∈ table i := by
  simp [entries]

/-- The entries of a chain are among all, in their order. -/
theorem chain_sublist_entries (bound : i < n) : List.Sublist (table i) (entries n table) := by
  obtain ⟨before, after, split⟩ := List.append_of_mem (List.mem_range.mpr bound)
  rw [entries, split, List.flatMap_append, List.flatMap_cons]
  exact (List.sublist_append_left _ _).trans (List.sublist_append_right _ _)

/-- A pushed entry joins the others, in whatever place. Witness: the chains before and
after the chain that grows.
-/
theorem entries_push (bound : i < n)
    : (entries n (push table i entry)).Perm (entry :: entries n table) := by
  obtain ⟨before, after, split⟩ := List.append_of_mem (List.mem_range.mpr bound)
  have nodup := List.nodup_range (n := n)
  rw [split, List.nodup_middle, List.nodup_cons, List.mem_append, not_or] at nodup
  have others : ∀ chains : List Nat, i ∉ chains
      → chains.flatMap (push table i entry) = chains.flatMap table := by
    intro chains absent
    apply List.flatMap_congr
    intro j member
    exact Function.update_of_ne (by rintro rfl; exact absent member) _ _
  have chain : push table i entry i = entry :: table i := Function.update_self ..
  rw [entries, entries, split, List.flatMap_append, List.flatMap_cons, List.flatMap_append,
    List.flatMap_cons, others _ nodup.1.1, others _ nodup.1.2, chain]
  exact List.perm_middle

end TsnTrdp.Chains
