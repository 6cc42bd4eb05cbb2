import Mathlib

/-! Picking one element of a queue, by comparing each with the one picked before. -/

namespace TsnTrdp.Queue

variable {α : Type*} {queue : List α} {a : α}

/-- The one that has been picked, or `a` where that one is better, or none has been picked. -/
def pickBy (better : α → α → Bool) (picked : Option α) (a : α) : Option α :=
  match picked with
  | none => some a
  | some b => if better a b then some a else some b

theorem foldl_pickBy_mem {better : α → α → Bool} {start : Option α}
    (picked : queue.foldl (pickBy better) start = some a)
    : start = some a ∨ a ∈ queue := by
  induction queue generalizing start with
  | nil => exact .inl picked
  | cons b rest ih =>
      rcases ih picked with first | later
      · cases start with
        | none => exact .inr (by simp_all [pickBy])
        | some c =>
            by_cases wins : better b c
            · exact .inr (by simp_all [pickBy])
            · exact .inl (by simpa [pickBy, wins] using first)
      · exact .inr (List.mem_cons_of_mem b later)

theorem foldl_pickBy_none {better : α → α → Bool} {start : Option α}
    : queue.foldl (pickBy better) start = none ↔ start = none ∧ queue = [] := by
  induction queue generalizing start with
  | nil => simp
  | cons b rest ih =>
      rw [List.foldl_cons, ih]
      cases start with
      | none => simp [pickBy]
      | some c => by_cases wins : better b c <;> simp [pickBy, wins]

/-- Where being better is to have a lower rank, the one that is picked has the lowest rank.
Induction on the queue, for every start.
-/
theorem foldl_pickBy_le {κ : Type*} [LinearOrder κ] (rank : α → κ) {better : α → α → Bool}
    {start : Option α}
    (agrees : ∀ b c, b ∈ queue → c ∈ start ∨ c ∈ queue → (better b c ↔ rank b < rank c))
    (picked : queue.foldl (pickBy better) start = some a)
    : ∀ b, b ∈ start ∨ b ∈ queue → rank a ≤ rank b := by
  induction queue generalizing start with
  | nil =>
      obtain rfl : start = some a := picked
      simp
  | cons c rest ih =>
      have next (b : α) (among : b ∈ pickBy better start c) : b ∈ start ∨ b = c := by
        cases start with
        | none => simp_all [pickBy]
        | some d => by_cases wins : better c d <;> simp_all [pickBy]
      have lowest :=
        ih (fun b d there here => agrees b d (List.mem_cons_of_mem c there) (by
          rcases here with first | later
          · exact (next d first).imp_right fun same => by simp [same]
          · exact .inr (List.mem_cons_of_mem c later))) picked
      have first : ∀ b, b ∈ start ∨ b = c → rank a ≤ rank b := by
        cases start with
        | none => simpa [pickBy] using lowest c
        | some d =>
            have iff := agrees c d List.mem_cons_self (.inl rfl)
            by_cases wins : better c d
            · have own := lowest c (.inl (by simp [pickBy, wins]))
              rintro b (there | rfl)
              · obtain rfl : d = b := by simpa using there
                exact own.trans (iff.mp wins).le
              · exact own
            · have own := lowest d (.inl (by simp [pickBy, wins]))
              rintro b (there | rfl)
              · obtain rfl : d = b := by simpa using there
                exact own
              · exact own.trans (not_lt.mp fun less => wins (iff.mpr less))
      rintro b (there | there)
      · exact first b (.inl there)
      · rcases List.mem_cons.mp there with rfl | later
        · exact first b (.inr rfl)
        · exact lowest b (.inr later)

end TsnTrdp.Queue
