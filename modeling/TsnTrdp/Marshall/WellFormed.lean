import TsnTrdp.Marshall.Marshall

/-! Data sets whose arrays can be marshalled: no number of bytes wraps, an array takes its length from a
single number, and there is one `TIMEDATE64` at a time.
-/

namespace TsnTrdp.Marshall

open TsnTrdp.Memory

/-- The bytes of an item on the wire. -/
def Kind.wireWidth : Kind → Nat
  | .number width => width
  | .wide => 8
  | .timedate48 => 6
  | .timedate64 => 8
  | .unknown => 0

/-- What `var_size` can be after an element; `none` where it is not the value of a single number. -/
def countAfter (count : Option Nat) (element : Element) : Option Nat :=
  match kindOf element.type with
  | .number width => if element.size = 1 then some (256 ^ width - 1) else none
  | _ => count

/-- The bytes of the element do not wrap, whatever `var_size` is. -/
structure ItemsFit (count : Option Nat) (element : Element) : Prop where
  fixed
    : element.size ≠ tdrpVarSize
        → element.size.toNat * (kindOf element.type).wireWidth < 2 ^ 32
  counted
    : element.size = tdrpVarSize
        → ∃ limit ∈ count, limit * (kindOf element.type).wireWidth < 2 ^ 32
  single : kindOf element.type = .timedate64 → element.size = 1

instance (count : Option Nat) (element : Element) : Decidable (ItemsFit count element) :=
  decidable_of_iff
    ((element.size ≠ tdrpVarSize
        → element.size.toNat * (kindOf element.type).wireWidth < 2 ^ 32)
      ∧ (element.size = tdrpVarSize
        → ∃ limit ∈ count, limit * (kindOf element.type).wireWidth < 2 ^ 32)
      ∧ (kindOf element.type = .timedate64 → element.size = 1))
    ⟨fun ⟨fixed, counted, single⟩ => ⟨fixed, counted, single⟩,
      fun fit => ⟨fit.fixed, fit.counted, fit.single⟩⟩

/-- The elements fit, one after the other. -/
def WellFormed : Option Nat → List Element → Prop
  | _, [] => True
  | count, element :: rest =>
      ItemsFit count element ∧ WellFormed (countAfter count element) rest

instance decidableWellFormed : ∀ count elements, Decidable (WellFormed count elements)
  | _, [] => isTrue trivial
  | count, element :: rest =>
      have := decidableWellFormed (countAfter count element) rest
      inferInstanceAs (Decidable (_ ∧ _))

/-- The value of `var_size` is as the elements so far allow. -/
def Tracks (count : Option Nat) (varSize : U32) : Prop := ∀ limit ∈ count, varSize.toNat ≤ limit

/-- The data set and all that it can name are well-formed. -/
structure DatasetsFit (findDs : U32 → Option Dataset) (dataset : Dataset) : Prop where
  top : WellFormed (some 0) dataset.pElement
  named : ∀ id dataset, findDs id = some dataset → WellFormed (some 0) dataset.pElement

variable {σ : Type*} {count : Option Nat} {element : Element} {varSize : U32} {n : Nat}
  {type noOfItems : U32} {findDs : U32 → Option Dataset} {dataset : Dataset} {walk : Walk σ}
  {s s' : σ} {elements : List Element} {levels : Nat}

/-- The number of items, as the walks have it. -/
def itemsOf (element : Element) (varSize : U32) : U32 :=
  if element.size = tdrpVarSize then varSize else element.size

theorem ItemsFit.bytes (fit : ItemsFit count element) (tracks : Tracks count varSize)
    : (itemsOf element varSize).toNat * (kindOf element.type).wireWidth < 2 ^ 32 := by
  unfold itemsOf
  by_cases counted : element.size = tdrpVarSize
  · obtain ⟨limit, known, bytes⟩ := fit.counted counted
    rw [if_pos counted]
    exact lt_of_le_of_lt (Nat.mul_le_mul_right _ (tracks limit known)) bytes
  · rw [if_neg counted]
    exact fit.fixed counted

/-- No data set is a type. -/
theorem kindOf_dataset (nested : type > trdpTypeMax) : kindOf type = .unknown := by
  have above : ∀ k : U32, k ≤ trdpTypeMax → type ≠ k := by
    rintro k below rfl
    exact absurd nested (BitVec.not_lt.mpr below)
  unfold kindOf
  simp only [above 1 (by decide), above 2 (by decide), above 3 (by decide), above 4 (by decide),
    above 5 (by decide), above 6 (by decide), above 7 (by decide), above 8 (by decide),
    above 9 (by decide), above 10 (by decide), above 11 (by decide), above 12 (by decide),
    above 13 (by decide), above 14 (by decide), above 15 (by decide), above 16 (by decide),
    or_self, if_false]

theorem countAfter_dataset (nested : element.type > trdpTypeMax)
    : countAfter count element = count := by
  rw [countAfter, kindOf_dataset nested]

/-- The widths of numbers. -/
theorem width_cases {width : Nat} (number : kindOf type = .number width)
    : width = 1 ∨ width = 2 ∨ width = 4 := by
  unfold kindOf at number
  split_ifs at number
  all_goals
    obtain rfl := Kind.number.inj number
    decide

-----------------------------------------------------------------------------------------
-- What every step of a walk does, the walk does
-----------------------------------------------------------------------------------------

/-- The state that a walk ends in, also one that fails. -/
def stateOf : Except (TrdpErr × σ) σ → σ
  | .ok s => s
  | .error (_, s) => s

/-- The rule for walks: a relation of states that the items of every element keep, with as many items
as the element allows, holds from the start of the walk to its end.
-/
structure Steps (walk : Walk σ) (Rel : σ → σ → Prop) : Prop where
  refl : ∀ s, Rel s s
  trans : ∀ {s s' s''}, Rel s s' → Rel s' s'' → Rel s s''
  failed
    : ∀ {type n v s e s'}, n.toNat * (kindOf type).wireWidth < 2 ^ 32
        → walk.items type n v s = .error (e, s') → Rel s s'
  done
    : ∀ {type n v s s' v'}, n.toNat * (kindOf type).wireWidth < 2 ^ 32
        → walk.items type n v s = .ok (s', v') → Rel s s'
  tracks
    : ∀ {count : Option Nat} {element v s s' v'}, ItemsFit count element → Tracks count v
        → walk.items element.type (itemsOf element v) v s = .ok (s', v')
        → Tracks (countAfter count element) v'

variable {Rel : σ → σ → Prop} {nested : U32 → σ → Except (TrdpErr × σ) σ}

theorem Steps.timesM (steps : Steps walk Rel) {f : σ → Except (TrdpErr × σ) σ}
    (each : ∀ s, Rel s (stateOf (f s))) (n : Nat) (s : σ)
    : Rel s (stateOf (timesM f n s)) := by
  induction n generalizing s with
  | zero => exact steps.refl s
  | succ n ih =>
      have first := each s
      rw [Marshall.timesM]
      cases result : f s with
      | error failure =>
          rw [result] at first
          exact first
      | ok next =>
          rw [result] at first
          exact steps.trans first (ih next)

/-- Along the elements, by induction on them. -/
theorem Steps.walkElements (steps : Steps walk Rel) (each : ∀ type s, Rel s (stateOf (nested type s)))
    (fits : WellFormed count elements) (tracks : Tracks count varSize)
    : Rel s (stateOf (walkElements walk nested elements varSize s)) := by
  induction elements generalizing count varSize s with
  | nil => exact steps.refl s
  | cons element rest ih =>
      obtain ⟨fit, fits⟩ := fits
      rw [Marshall.walkElements]
      split
      · change Rel s (stateOf (if element.type > trdpTypeMax then
          (Marshall.timesM (nested element.type) (itemsOf element varSize).toNat s).bind _
          else (walk.items element.type (itemsOf element varSize) varSize s).bind _))
        split
        · have first := steps.timesM (each element.type) (itemsOf element varSize).toNat s
          rw [countAfter_dataset ‹_›] at fits
          cases result : Marshall.timesM (nested element.type) (itemsOf element varSize).toNat s with
          | error failure =>
              rw [result] at first
              exact first
          | ok next =>
              rw [result] at first
              exact steps.trans first (ih fits tracks)
        · cases result : walk.items element.type (itemsOf element varSize) varSize s with
          | error failure => exact steps.failed (fit.bytes tracks) result
          | ok next =>
              exact steps.trans (steps.done (fit.bytes tracks) result)
                (ih fits (steps.tracks fit tracks result))
      · exact steps.refl s

/-- Along data sets that nest, by induction on the levels. -/
theorem Steps.walkDs (steps : Steps walk Rel) (fits : DatasetsFit findDs dataset) (levels : Nat)
    (s : σ)
    : Rel s (stateOf (walkDs walk findDs levels dataset s)) := by
  induction levels generalizing dataset s with
  | zero => exact steps.refl s
  | succ levels ih =>
      have each : ∀ type s,
          Rel s (stateOf (nestedDs findDs (Marshall.walkDs walk findDs levels) type s)) := by
        intro type s
        unfold nestedDs
        cases known : findDs type with
        | none => exact steps.refl s
        | some inner => exact ih ⟨fits.named type inner known, fits.named⟩ s
      have along : Rel s (stateOf (Marshall.walkElements walk
          (nestedDs findDs (Marshall.walkDs walk findDs levels)) dataset.pElement 0 s)) :=
        steps.walkElements each fits.top (by rintro limit ⟨⟩; exact le_rfl)
      rw [Marshall.walkDs]
      cases result : Marshall.walkElements walk _ dataset.pElement 0 s with
      | error failure =>
          rw [result] at along
          exact along
      | ok next =>
          rw [result] at along
          change Rel s (stateOf (if walk.pSrc next > walk.pSrcEnd next then _ else _))
          split <;> exact along

end TsnTrdp.Marshall
