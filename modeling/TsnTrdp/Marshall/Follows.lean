import TsnTrdp.Marshall.WellFormed

/-! Two walks over the same data set, of which the second follows the first and can stop before it. -/

namespace TsnTrdp.Marshall

variable {σ τ : Type*}

/-- What is so after the first of two runs was so before it, and the second run follows the first. -/
def Carried (Good : σ → Prop) (R : σ → τ → Prop) (first : σ → Except (TrdpErr × σ) σ)
    (second : τ → Except (TrdpErr × τ) τ)
    : Prop :=
  ∀ s s', first s = .ok s' → Good s' → Good s ∧ ∀ t, R s t → ∃ t', second t = .ok t' ∧ R s' t'

/-- The values of `var_size` agree where a later array can take its length from them. -/
def Agree (count : Option Nat) (varSize varSize' : U32) : Prop :=
  ∀ limit ∈ count, varSize.toNat ≤ limit ∧ varSize' = varSize

theorem Agree.tracks {count : Option Nat} {v w : U32} (agree : Agree count v w) : Tracks count v :=
  fun limit known => (agree limit known).1

theorem Tracks.agree {count : Option Nat} {v : U32} (tracks : Tracks count v) : Agree count v v :=
  fun limit known => ⟨tracks limit known, rfl⟩

/-- They agree after an element that is no single number as they did before. -/
theorem Agree.countAfter {count : Option Nat} {element : Element} {v w v' w' : U32}
    (agree : Agree count v w) (tracks : Tracks (Marshall.countAfter count element) v')
    (number : ∀ width, kindOf element.type = .number width → element.size = 1 → w' = v')
    (other : (∀ width, kindOf element.type ≠ .number width) → v' = v ∧ w' = w)
    : Agree (Marshall.countAfter count element) v' w' := by
  intro limit known
  refine ⟨tracks limit known, ?_⟩
  unfold Marshall.countAfter at known
  by_cases single : ∃ width, kindOf element.type = .number width
  · obtain ⟨width, kind⟩ := single
    rw [kind] at known
    simp only at known
    split at known
    · exact number width kind ‹_›
    · cases known
  · obtain ⟨rfl, rfl⟩ := other fun width kind => single ⟨width, kind⟩
    refine (agree limit ?_).2
    split at known
    · exact absurd ⟨_, ‹_›⟩ single
    · exact known

/-- The rule for two walks: what the items of one element keep, the walks keep. `Good` is about what is
to come, so it goes back from the end of a walk to its start. Where the second walk has reached the end
of its source, it stays there.
-/
structure Follows (first : Walk σ) (second : Walk τ) (Good : σ → Prop) (R : σ → τ → Prop)
    : Prop where
  tracks
    : ∀ {count : Option Nat} {element v s s' v'}, ItemsFit count element → Tracks count v
        → first.items element.type (itemsOf element v) v s = .ok (s', v')
        → Tracks (countAfter count element) v'
  good
    : ∀ {type n v s s' v'}, first.pSrc s < first.pSrcEnd s
        → first.items type n v s = .ok (s', v') → Good s' → Good s
  stops
    : ∀ {s t}, R s t → Good s → first.pSrcEnd s ≤ first.pSrc s
        → second.pSrcEnd t ≤ second.pSrc t
  stays
    : ∀ {type n v s s' v' t}, R s t → first.pSrc s < first.pSrcEnd s
        → second.pSrcEnd t ≤ second.pSrc t → first.items type n v s = .ok (s', v') → Good s' → R s' t
  items
    : ∀ {count : Option Nat} {element v w s s' v' t}, ItemsFit count element → Agree count v w
        → first.pSrc s < first.pSrcEnd s → second.pSrc t < second.pSrcEnd t → R s t
        → first.items element.type (itemsOf element v) v s = .ok (s', v') → Good s'
        → ∃ t' w', second.items element.type (itemsOf element v) w t = .ok (t', w')
            ∧ R s' t' ∧ Agree (countAfter count element) v' w'
  within : ∀ {s t}, R s t → Good s → second.pSrc t ≤ second.pSrcEnd t

variable {first : Walk σ} {second : Walk τ} {Good : σ → Prop} {R : σ → τ → Prop}
  {nested₁ : U32 → σ → Except (TrdpErr × σ) σ} {nested₂ : U32 → τ → Except (TrdpErr × τ) τ}
  {count : Option Nat} {element : Element} {elements : List Element} {v w : U32} {levels : Nat}
  {findDs : U32 → Option Dataset} {dataset : Dataset} {t t' : τ}

/-- Both walks have the same number of items. -/
theorem ItemsFit.itemsOf_eq (fit : ItemsFit count element) (agree : Agree count v w)
    : itemsOf element w = itemsOf element v := by
  unfold itemsOf
  split
  · obtain ⟨limit, known, -⟩ := fit.counted ‹_›
    exact (agree limit known).2
  · rfl

/-- By induction on the number of the items. -/
theorem Carried.timesM {f : σ → Except (TrdpErr × σ) σ} {g : τ → Except (TrdpErr × τ) τ}
    (each : Carried Good R f g) (n : Nat)
    : Carried Good R (timesM f n) (timesM g n) := by
  induction n with
  | zero =>
      rintro s s' ⟨⟩ good
      exact ⟨good, fun t related => ⟨t, rfl, related⟩⟩
  | succ n ih =>
      intro s s'' done good
      rw [Marshall.timesM] at done
      cases step : f s with
      | error failure =>
          rw [step] at done
          cases done
      | ok s' =>
          rw [step] at done
          obtain ⟨good, rest⟩ := ih s' s'' done good
          obtain ⟨good, one⟩ := each s s' step good
          refine ⟨good, fun t related => ?_⟩
          obtain ⟨t', done, related⟩ := one t related
          obtain ⟨t'', done', related⟩ := rest t' related
          refine ⟨t'', ?_, related⟩
          rw [Marshall.timesM, done]
          exact done'

-----------------------------------------------------------------------------------------
-- A walk at the end of its source
-----------------------------------------------------------------------------------------

theorem walkElements_exhausted (exhausted : second.pSrcEnd t ≤ second.pSrc t)
    : walkElements second nested₂ elements v t = .ok t := by
  cases elements with
  | nil => rfl
  | cons element rest => rw [walkElements, if_neg (Nat.not_lt.mpr exhausted)]

theorem timesM_still {f : τ → Except (TrdpErr × τ) τ} (still : ∀ t', f t = .ok t' → t' = t) {n : Nat}
    (done : timesM f n t = .ok t')
    : t' = t := by
  induction n with
  | zero => exact (Except.ok.inj done).symm
  | succ n ih =>
      rw [timesM] at done
      cases step : f t with
      | error failure =>
          rw [step] at done
          cases done
      | ok next =>
          obtain rfl := still next step
          rw [step] at done
          exact ih done

theorem nestedDs_still (exhausted : second.pSrcEnd t ≤ second.pSrc t) {type : U32}
    (done : nestedDs findDs (walkDs second findDs levels) type t = .ok t')
    : t' = t := by
  unfold nestedDs at done
  cases known : findDs type with
  | none =>
      rw [known] at done
      cases done
  | some dataset =>
      rw [known] at done
      cases levels with
      | zero => cases done
      | succ levels =>
          simp only [walkDs, walkElements_exhausted exhausted] at done
          change (if _ then _ else _) = _ at done
          split at done
          · cases done
          · exact (Except.ok.inj done).symm

-----------------------------------------------------------------------------------------
-- One walk follows the other
-----------------------------------------------------------------------------------------

/-- Along the elements, by induction on them. -/
theorem Follows.walkElements (follows : Follows first second Good R)
    (each : ∀ type, Carried Good R (nested₁ type) (nested₂ type))
    (still : ∀ type t t', second.pSrcEnd t ≤ second.pSrc t → nested₂ type t = .ok t' → t' = t)
    (fits : WellFormed count elements) (agree : Agree count v w)
    : Carried Good R (walkElements first nested₁ elements v)
        (walkElements second nested₂ elements w) := by
  induction elements generalizing count v w with
  | nil =>
      rintro s s' ⟨⟩ good
      exact ⟨good, fun t related => ⟨t, rfl, related⟩⟩
  | cons element rest ih =>
      obtain ⟨fit, fits⟩ := fits
      intro s s'' done good
      rw [Marshall.walkElements] at done
      split at done
      next more =>
        change (if element.type > trdpTypeMax then
          (Marshall.timesM (nested₁ element.type) (itemsOf element v).toNat s).bind _
          else (first.items element.type (itemsOf element v) v s).bind _) = _ at done
        split at done
        next composite =>
          rw [countAfter_dataset composite] at fits
          cases step : Marshall.timesM (nested₁ element.type) (itemsOf element v).toNat s with
          | error failure =>
              rw [step] at done
              cases done
          | ok s' =>
              rw [step] at done
              obtain ⟨good, after⟩ := ih fits agree s' s'' done good
              obtain ⟨good, items⟩ := (each element.type).timesM _ s s' step good
              refine ⟨good, fun t related => ?_⟩
              obtain ⟨t', step', related⟩ := items t related
              obtain ⟨t'', done', related⟩ := after t' related
              refine ⟨t'', ?_, related⟩
              by_cases exhausted : second.pSrcEnd t ≤ second.pSrc t
              · -- The second walk was at its end: its items left it there.
                obtain rfl := timesM_still (fun t' => still _ t t' exhausted) step'
                rwa [walkElements_exhausted exhausted] at done' ⊢
              · rw [Marshall.walkElements, if_pos (Nat.lt_of_not_le exhausted), if_pos composite]
                change (Marshall.timesM (nested₂ element.type) (itemsOf element w).toNat t).bind _ = _
                rw [fit.itemsOf_eq agree, step']
                exact done'
        next plain =>
          cases step : first.items element.type (itemsOf element v) v s with
          | error failure =>
              rw [step] at done
              cases done
          | ok next =>
              obtain ⟨s', v'⟩ := next
              rw [step] at done
              have tracks := follows.tracks fit agree.tracks step
              have goodNext := (ih fits tracks.agree s' s'' done good).1
              refine ⟨follows.good more step goodNext, fun t related => ?_⟩
              by_cases exhausted : second.pSrcEnd t ≤ second.pSrc t
              · have related := follows.stays related more exhausted step goodNext
                obtain ⟨t'', done', related⟩ := (ih fits tracks.agree s' s'' done good).2 t related
                rw [walkElements_exhausted exhausted] at done' ⊢
                exact ⟨t'', done', related⟩
              · have going := Nat.lt_of_not_le exhausted
                obtain ⟨t', w', step', related, agree'⟩ :=
                  follows.items fit agree more going related step goodNext
                obtain ⟨t'', done', related⟩ := (ih fits agree' s' s'' done good).2 t' related
                refine ⟨t'', ?_, related⟩
                rw [Marshall.walkElements, if_pos going, if_neg plain]
                change (second.items element.type (itemsOf element w) w t).bind _ = _
                rw [fit.itemsOf_eq agree, step']
                exact done'
      next stopped =>
        obtain rfl := Except.ok.inj done
        refine ⟨good, fun t related => ⟨t, ?_, related⟩⟩
        exact walkElements_exhausted (follows.stops related good (Nat.not_lt.mp stopped))

/-- Along data sets that nest, by induction on the levels. -/
theorem Follows.walkDs (follows : Follows first second Good R) (fits : DatasetsFit findDs dataset)
    : Carried Good R (walkDs first findDs levels dataset) (walkDs second findDs levels dataset) := by
  induction levels generalizing dataset with
  | zero =>
      intro s s' done
      cases done
  | succ levels ih =>
      have each : ∀ type, Carried Good R (nestedDs findDs (Marshall.walkDs first findDs levels) type)
          (nestedDs findDs (Marshall.walkDs second findDs levels) type) := by
        intro type
        unfold nestedDs
        cases known : findDs type with
        | none =>
            intro s s' done
            cases done
        | some inner => exact ih ⟨fits.named type inner known, fits.named⟩
      intro s s' done good
      rw [Marshall.walkDs] at done
      cases step : Marshall.walkElements first
          (nestedDs findDs (Marshall.walkDs first findDs levels)) dataset.pElement 0 s with
      | error failure =>
          simp only [step] at done
          cases done
      | ok next =>
          simp only [step] at done
          change (if _ then _ else _) = _ at done
          split at done
          · cases done
          · obtain rfl := Except.ok.inj done
            have start : Agree (some 0) 0 0 := by
              rintro limit ⟨⟩
              exact ⟨le_rfl, rfl⟩
            obtain ⟨before, walked⟩ := follows.walkElements each
              (fun type t t' exhausted => nestedDs_still exhausted) fits.top start s next step good
            refine ⟨before, fun t related => ?_⟩
            obtain ⟨t', done', related⟩ := walked t related
            refine ⟨t', ?_, related⟩
            simp only [Marshall.walkDs, done']
            exact if_neg (Nat.not_lt.mpr (follows.within related good))

end TsnTrdp.Marshall
