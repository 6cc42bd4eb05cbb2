import Mathlib.Data.List.Nodup

/-! A heap of blocks whose addresses are never given out twice. Freeing what is not allocated
is a fault, so that a free that succeeds releases its block for the first time.
-/

namespace TsnTrdp.Blocks

/-- What is allocated, by address; the addresses from `next` on have not been given out. -/
@[ext]
structure Heap (β : Type*) where
  block : Nat → Option β
  next : Nat
  unused : ∀ a, next ≤ a → block a = none

variable {β : Type*}

def Heap.empty : Heap β where
  block := fun _ => none
  next := 0
  unused := fun _ _ => rfl

/-- Allocates a block at the address `next`. -/
def Heap.alloc (heap : Heap β) (content : β) : Heap β where
  block := Function.update heap.block heap.next (some content)
  next := heap.next + 1
  unused := by
    intro a beyond
    rw [Function.update_of_ne (by omega)]
    exact heap.unused a (by omega)

/-- Changes the contents of a block, if it is allocated. -/
def Heap.modify (heap : Heap β) (a : Nat) (f : β → β) : Heap β where
  block := Function.update heap.block a ((heap.block a).map f)
  next := heap.next
  unused := by
    intro b beyond
    by_cases same : b = a
    · subst same
      simp [heap.unused b beyond]
    · rw [Function.update_of_ne same]
      exact heap.unused b beyond

/-- The heap without the blocks at some addresses. -/
def Heap.without (heap : Heap β) (addresses : List Nat) : Heap β where
  block := fun a => if a ∈ addresses then none else heap.block a
  next := heap.next
  unused := by
    intro a beyond
    rw [heap.unused a beyond, ite_self]

/-- Frees a block; `none` is the fault of freeing one that is not allocated. -/
def Heap.free (heap : Heap β) (a : Nat) : Option (Heap β) :=
  if (heap.block a).isSome then some (heap.without [a]) else none

/-- Frees several blocks, one after the other. -/
def Heap.freeAll (heap : Heap β) (addresses : List Nat) : Option (Heap β) :=
  addresses.foldlM Heap.free heap

variable {heap later : Heap β} {a : Nat}

theorem Heap.lt_next (allocated : (heap.block a).isSome) : a < heap.next := by
  by_contra beyond
  rw [heap.unused a (by omega)] at allocated
  cases allocated

@[simp] theorem Heap.next_alloc (content : β) : (heap.alloc content).next = heap.next + 1 := rfl

@[simp] theorem Heap.next_modify (f : β → β) : (heap.modify a f).next = heap.next := rfl

@[simp] theorem Heap.block_alloc (content : β) (b : Nat)
    : (heap.alloc content).block b
      = if b = heap.next then some content else heap.block b := by
  simp [alloc, Function.update_apply]

@[simp] theorem Heap.block_modify (f : β → β) (b : Nat)
    : (heap.modify a f).block b
      = if b = a then (heap.block a).map f else heap.block b := by
  simp [modify, Function.update_apply]

@[simp] theorem Heap.block_without (addresses : List Nat) (b : Nat)
    : (heap.without addresses).block b = if b ∈ addresses then none else heap.block b := rfl

/-- What is allocated can be freed. -/
theorem Heap.free_alloc (content : β)
    : (heap.alloc content).free heap.next = some ((heap.alloc content).without [heap.next]) :=
  if_pos (by simp)

/-- An allocation that is freed again leaves the blocks that there were. -/
theorem Heap.block_without_alloc (content : β)
    : ((heap.alloc content).without [heap.next]).block = heap.block := by
  funext a
  by_cases same : a = heap.next
  · subst same
    simp [heap.unused _ (Nat.le_refl _)]
  · simp [same]

theorem Heap.without_nil : heap.without [] = heap := by
  ext b <;> simp [without]

theorem Heap.without_append (first second : List Nat)
    : (heap.without first).without second = heap.without (first ++ second) := by
  have same : ∀ b, ((heap.without first).without second).block b
      = (heap.without (first ++ second)).block b := by
    intro b
    by_cases inSecond : b ∈ second <;> by_cases inFirst : b ∈ first <;>
      simp [inFirst, inSecond]
  exact Heap.ext (funext same) rfl

theorem Heap.freeAll_append (first second : List Nat)
    : heap.freeAll (first ++ second) = (heap.freeAll first).bind (·.freeAll second) := by
  simp [freeAll]

/-- Freeing different allocated blocks does not fault, and frees these. By induction on them:
the later ones are still allocated once the first has been freed.
-/
theorem Heap.freeAll_of_nodup {addresses : List Nat} (nodup : addresses.Nodup)
    (allocated : ∀ a ∈ addresses, (heap.block a).isSome)
    : heap.freeAll addresses = some (heap.without addresses) := by
  induction addresses generalizing heap with
  | nil => rw [without_nil]; rfl
  | cons a rest ih =>
      obtain ⟨fresh, nodup⟩ := List.nodup_cons.mp nodup
      have first : heap.free a = some (heap.without [a]) :=
        if_pos (allocated a List.mem_cons_self)
      have still : ∀ b ∈ rest, ((heap.without [a]).block b).isSome := by
        intro b member
        have other : b ∉ [a] := fun same => fresh (List.mem_singleton.mp same ▸ member)
        rw [block_without, if_neg other]
        exact allocated b (List.mem_cons_of_mem _ member)
      have rest := ih nodup still
      rw [freeAll, List.foldlM_cons, first]
      exact rest.trans (congrArg some (without_append [a] _))

/-- The later heap has what the earlier one had, at the same addresses. -/
structure Heap.Extends (heap later : Heap β) : Prop where
  next : heap.next ≤ later.next
  kept : ∀ a < heap.next, later.block a = heap.block a

theorem Heap.Extends.refl (heap : Heap β) : heap.Extends heap :=
  ⟨Nat.le_refl _, fun _ _ => rfl⟩

theorem Heap.Extends.trans {last : Heap β} (first : heap.Extends later)
    (second : later.Extends last)
    : heap.Extends last where
  next := Nat.le_trans first.next second.next
  kept := by
    intro a old
    rw [second.kept a (Nat.lt_of_lt_of_le old first.next), first.kept a old]

/-- A block of the earlier heap is in the later one. -/
theorem Heap.Extends.block {content : β} (grows : heap.Extends later)
    (allocated : heap.block a = some content)
    : later.block a = some content := by
  rw [grows.kept a (lt_next (by rw [allocated]; rfl)), allocated]

theorem Heap.extends_alloc (content : β) : heap.Extends (heap.alloc content) where
  next := Nat.le_succ _
  kept := by
    intro a old
    rw [block_alloc, if_neg (by omega)]

end TsnTrdp.Blocks
