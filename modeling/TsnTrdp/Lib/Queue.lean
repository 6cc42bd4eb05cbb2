import Mathlib.Data.List.Basic
import Mathlib.Data.List.Forall2

/-! Queues in which one element, the first that meets a test, is changed in place. -/

namespace TsnTrdp.Queue

variable {α β : Type*} {p q : α → Bool} {f : α → α} {g : α → β} {queue : List α} {a : α}

/-- Change the first element that meets `p`. -/
def modifyFirst (p : α → Bool) (f : α → α) : List α → List α
  | [] => []
  | a :: rest => if p a then f a :: rest else a :: modifyFirst p f rest

/-- What the change keeps, the queue keeps: its elements in order, seen through `g`. -/
theorem map_modifyFirst (keeps : ∀ a, p a → g (f a) = g a)
    : (modifyFirst p f queue).map g = queue.map g := by
  induction queue with
  | nil => rfl
  | cons a rest ih =>
      by_cases meets : p a
      · simp [modifyFirst, meets, keeps a meets]
      · simp [modifyFirst, meets, ih]

theorem map_modifyFirst_of_find? (found : queue.find? p = some a) (keeps : g (f a) = g a)
    : (modifyFirst p f queue).map g = queue.map g := by
  induction queue with
  | nil => rfl
  | cons b rest ih =>
      by_cases meets : p b
      · rw [List.find?_cons_of_pos meets] at found
        obtain rfl := Option.some.inj found
        simp [modifyFirst, meets, keeps]
      · rw [List.find?_cons_of_neg meets] at found
        simp [modifyFirst, meets, ih found]

theorem mem_modifyFirst_of_find? (found : queue.find? p = some a)
    : f a ∈ modifyFirst p f queue := by
  induction queue with
  | nil => cases found
  | cons b rest ih =>
      by_cases meets : p b
      · rw [List.find?_cons_of_pos meets] at found
        obtain rfl := Option.some.inj found
        simp [modifyFirst, meets]
      · rw [List.find?_cons_of_neg meets] at found
        simp [modifyFirst, meets, ih found]

theorem mem_modifyFirst_of_ne {b : α} (found : queue.find? p = some a) (member : b ∈ queue)
    (other : b ≠ a)
    : b ∈ modifyFirst p f queue := by
  induction queue with
  | nil => cases member
  | cons c rest ih =>
      by_cases meets : p c
      · rw [List.find?_cons_of_pos meets] at found
        obtain rfl := Option.some.inj found
        rcases List.mem_cons.mp member with rfl | later
        · exact absurd rfl other
        · simp [modifyFirst, meets, later]
      · rw [List.find?_cons_of_neg meets] at found
        rcases List.mem_cons.mp member with rfl | later
        · simp [modifyFirst, meets]
        · simp [modifyFirst, meets, ih found later]

/-- A change that keeps the test changes the element that is found by it. -/
theorem find?_modifyFirst (keeps : ∀ a, p (f a) = p a)
    : (modifyFirst p f queue).find? p = (queue.find? p).map f := by
  induction queue with
  | nil => rfl
  | cons a rest ih =>
      by_cases meets : p a
      · simp [modifyFirst, meets, keeps a]
      · simp [modifyFirst, meets, ih]

/-- It leaves what another test finds alone, if no element meets both. -/
theorem find?_modifyFirst_of_apart (apart : ∀ a, p a → ¬ q a) (keeps : ∀ a, p a → ¬ q (f a))
    : (modifyFirst p f queue).find? q = queue.find? q := by
  induction queue with
  | nil => rfl
  | cons a rest ih =>
      by_cases meets : p a
      · simp [modifyFirst, meets, apart a meets, keeps a meets]
      · simp [modifyFirst, meets, List.find?_cons, ih]

/-- An element of the changed queue is one of the old queue, or the changed one. -/
theorem mem_modifyFirst (member : a ∈ modifyFirst p f queue)
    : a ∈ queue ∨ ∃ b, queue.find? p = some b ∧ a = f b := by
  induction queue with
  | nil => cases member
  | cons b rest ih =>
      by_cases meets : p b
      · simp only [modifyFirst, meets, if_true] at member
        rcases List.mem_cons.mp member with rfl | later
        · exact Or.inr ⟨b, by simp [meets], rfl⟩
        · exact Or.inl (List.mem_cons_of_mem b later)
      · simp only [modifyFirst, meets] at member
        rcases List.mem_cons.mp member with rfl | later
        · exact Or.inl List.mem_cons_self
        · rcases ih later with old | ⟨c, found, same⟩
          · exact Or.inl (List.mem_cons_of_mem b old)
          · exact Or.inr ⟨c, by simp [meets, found], same⟩

/-- A property of all elements survives a change that keeps it. -/
theorem forall_modifyFirst {P : α → Prop} (all : ∀ a ∈ queue, P a) (keeps : ∀ a, P a → P (f a))
    : ∀ a ∈ modifyFirst p f queue, P a := by
  intro a member
  rcases mem_modifyFirst member with old | ⟨b, found, rfl⟩
  · exact all a old
  · exact keeps b (all b (List.mem_of_find?_eq_some found))

/-- Picking one of two all along a list picks one that stands in `R` to all. Induction on the list,
for every start.
-/
theorem foldl_pick {R : α → α → Prop} {pick : α → α → α} (refl : ∀ b, R b b)
    (trans : ∀ b c d, R b c → R c d → R b d)
    (picks : ∀ b c, pick b c = b ∧ R b c ∨ pick b c = c ∧ R c b) (start : α) (queue : List α)
    : (queue.foldl pick start = start ∨ queue.foldl pick start ∈ queue)
      ∧ R (queue.foldl pick start) start ∧ ∀ b ∈ queue, R (queue.foldl pick start) b := by
  induction queue generalizing start with
  | nil => exact ⟨.inl rfl, refl start, fun _ member => absurd member List.not_mem_nil⟩
  | cons c rest ih =>
      obtain ⟨among, first, others⟩ := ih (pick start c)
      rw [List.foldl_cons]
      rcases picks start c with ⟨same, before⟩ | ⟨same, before⟩
      · rw [same] at among first others ⊢
        refine ⟨among.imp_right (List.mem_cons_of_mem c), first, fun b member => ?_⟩
        rcases List.mem_cons.mp member with rfl | later
        · exact trans _ _ _ first before
        · exact others b later
      · rw [same] at among first others ⊢
        refine ⟨.inr ?_, trans _ _ _ first before, fun b member => ?_⟩
        · rcases among with own | later
          · rw [own]
            exact List.mem_cons_self
          · exact List.mem_cons_of_mem c later
        · rcases List.mem_cons.mp member with rfl | later
          · exact first
          · exact others b later

/-- What keeps the names of those that it takes, takes some of the names. Induction on the queue. -/
theorem map_filterMap_sublist {γ : Type*} {h : α → Option γ} {name : γ → β}
    (keeps : ∀ a ∈ queue, ∀ c ∈ h a, name c = g a)
    : List.Sublist ((queue.filterMap h).map name) (queue.map g) := by
  induction queue with
  | nil => exact List.Sublist.slnil
  | cons a rest ih =>
      obtain ⟨first, later⟩ := List.forall_mem_cons.mp keeps
      rw [List.filterMap_cons]
      cases taken : h a with
      | none => exact (ih later).cons _
      | some c =>
          simp only [List.map_cons, first c taken]
          exact (ih later).cons_cons _

/-- What only one place of a list is mapped to. Induction on the list. -/
theorem filterMap_eq_toList {γ : Type*} {h : α → Option γ} {k : Nat} (found : queue[k]? = some a)
    (only : ∀ (j : Nat) (b : α), queue[j]? = some b → j ≠ k → h b = none)
    : queue.filterMap h = (h a).toList := by
  induction queue generalizing k with
  | nil => cases found
  | cons b rest ih =>
      cases k with
      | zero =>
          obtain rfl := Option.some.inj found
          have others : rest.filterMap h = [] := by
            refine List.filterMap_eq_nil_iff.mpr fun c member => ?_
            obtain ⟨j, at_⟩ := List.getElem?_of_mem member
            exact only (j + 1) c at_ (Nat.succ_ne_zero j)
          rw [List.filterMap_cons, others]
          cases h b <;> rfl
      | succ k =>
          have first : h b = none := only 0 b rfl (Nat.succ_ne_zero k).symm
          rw [List.filterMap_cons_none first]
          refine ih found fun j c at_ other => only (j + 1) c at_ ?_
          omega

/-- A queue is the element that is found and the others, in some order. -/
theorem perm_eraseP (found : queue.find? p = some a) : queue.Perm (a :: queue.eraseP p) := by
  induction queue with
  | nil => cases found
  | cons b rest ih =>
      by_cases meets : p b
      · rw [List.find?_cons_of_pos meets] at found
        obtain rfl := Option.some.inj found
        rw [List.eraseP_cons_of_pos meets]
      · rw [List.find?_cons_of_neg meets] at found
        rw [List.eraseP_cons_of_neg meets]
        exact ((ih found).cons b).trans (.swap a b _)

/-- A queue with one element changed is the changed element and the others, in some order. -/
theorem modifyFirst_perm (found : queue.find? p = some a)
    : (modifyFirst p f queue).Perm (f a :: queue.eraseP p) := by
  induction queue with
  | nil => cases found
  | cons b rest ih =>
      by_cases meets : p b
      · rw [List.find?_cons_of_pos meets] at found
        obtain rfl := Option.some.inj found
        rw [List.eraseP_cons_of_pos meets, modifyFirst, if_pos meets]
      · rw [List.find?_cons_of_neg meets] at found
        rw [List.eraseP_cons_of_neg meets, modifyFirst, if_neg meets]
        exact ((ih found).cons b).trans (.swap (f a) b _)

variable {γ κ : Type*} {R : γ → α → Prop} {asked : List γ} {r : γ → Bool} {key : α → κ}
  {name : γ → κ}

theorem map_of_forall₂ (related : List.Forall₂ R asked queue)
    (names : ∀ c a, R c a → key a = name c)
    : queue.map key = asked.map name := by
  induction related with
  | nil => rfl
  | cons head _ ih => rw [List.map_cons, List.map_cons, names _ _ head, ih]

theorem exists_of_mem (related : List.Forall₂ R asked queue) (member : a ∈ queue)
    : ∃ c ∈ asked, R c a := by
  induction related with
  | nil => cases member
  | @cons c first asked rest head tail ih =>
      rcases List.mem_cons.mp member with rfl | later
      · exact ⟨c, List.mem_cons_self, head⟩
      · obtain ⟨d, asks, relates⟩ := ih later
        exact ⟨d, List.mem_cons_of_mem c asks, relates⟩

/-- A change of the first element that meets a test leaves the queues related by `S`, if that holds
of the changed element and follows of the others.
-/
theorem forall₂_modifyFirst {S : γ → α → Prop} (related : List.Forall₂ R asked queue)
    (found : queue.find? p = some a) (others : ∀ c b, R c b → S c b)
    (changed : ∀ c, R c a → S c (f a))
    : List.Forall₂ S asked (modifyFirst p f queue) := by
  induction related with
  | nil => cases found
  | @cons c first asked rest head tail ih =>
      by_cases meets : p first
      · rw [List.find?_cons_of_pos meets] at found
        obtain rfl := Option.some.inj found
        simp only [modifyFirst, meets, if_true]
        exact .cons (changed c head) (tail.imp others)
      · rw [List.find?_cons_of_neg meets] at found
        simp only [modifyFirst, meets]
        exact .cons (others c first head) (ih found)

/-- Under distinct names an element is related to its namesake. -/
theorem related_of_name {c : γ} (related : List.Forall₂ R asked queue)
    (names : ∀ c a, R c a → key a = name c) (distinct : (asked.map name).Nodup)
    (asks : c ∈ asked) (member : a ∈ queue) (same : key a = name c)
    : R c a := by
  induction related with
  | nil => cases asks
  | @cons c' first asked rest head tail ih =>
      have keys := map_of_forall₂ tail names
      obtain ⟨fresh, distinct⟩ := List.nodup_cons.mp distinct
      rcases List.mem_cons.mp asks with rfl | asks
      · rcases List.mem_cons.mp member with rfl | member
        · exact head
        · exact absurd (keys ▸ same ▸ List.mem_map_of_mem member) fresh
      · rcases List.mem_cons.mp member with rfl | member
        · exact absurd ((names _ _ head).symm.trans same ▸ List.mem_map_of_mem asks) fresh
        · exact ih distinct asks member

/-- Where a test `p` of the elements is as narrow as a test `r` of their counterparts, the first
element that meets `p` is the counterpart of the first that meets `r` exactly if that counterpart
meets `p`.
-/
theorem find?_forall₂ (related : List.Forall₂ R asked queue)
    (names : ∀ c a, R c a → key a = name c) (narrower : ∀ c a, R c a → p a → r c)
    (distinct : (asked.map name).Nodup)
    : (queue.find? p).map key = (asked.find? r).map name
      ↔ ∀ c ∈ asked.find? r, ∀ a ∈ queue, key a = name c → p a := by
  induction related with
  | nil => simp
  | @cons c first asked rest head tail ih =>
      have keys := map_of_forall₂ tail names
      obtain ⟨fresh, distinct⟩ := List.nodup_cons.mp distinct
      by_cases asks : r c
      · rw [List.find?_cons_of_pos asks]
        by_cases meets : p first
        · rw [List.find?_cons_of_pos meets, Option.map_some, Option.map_some, names _ _ head]
          refine iff_of_true rfl ?_
          rintro _ ⟨⟩ b member same
          rcases List.mem_cons.mp member with rfl | later
          · exact meets
          · exact absurd (keys ▸ same ▸ List.mem_map_of_mem later) fresh
        · rw [List.find?_cons_of_neg meets]
          refine iff_of_false ?_ ?_
          · intro same
            obtain ⟨b, found, same⟩ := Option.map_eq_some_iff.mp same
            exact fresh (keys ▸ same ▸ List.mem_map_of_mem (List.mem_of_find?_eq_some found))
          · intro all
            exact meets (all c rfl first List.mem_cons_self (names _ _ head))
      · have misses : ¬ p first := fun meets => asks (narrower _ _ head meets)
        rw [List.find?_cons_of_neg asks, List.find?_cons_of_neg misses, ih distinct]
        constructor
        · intro all d chosen b member same
          rcases List.mem_cons.mp member with rfl | later
          · have asks' := List.mem_map_of_mem (f := name) (List.mem_of_find?_eq_some chosen)
            exact absurd ((names _ _ head).symm.trans same ▸ asks') fresh
          · exact all d chosen b later same
        · intro all d chosen b member
          exact all d chosen b (List.mem_cons_of_mem first member)

end TsnTrdp.Queue
