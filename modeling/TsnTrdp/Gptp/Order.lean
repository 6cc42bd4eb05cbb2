import TsnTrdp.Gptp.BestMaster

/-! The order in which data sets are better, and that a clock chooses the best one by it. -/

namespace TsnTrdp.Gptp

open TsnTrdp.Queue

/-- What a grandmaster is judged by, what counts most first. -/
def attributesOf (priority1 : U8) (quality : ClockQuality) (priority2 : U8)
    (identity : ClockIdentity)
    : ℕ ×ₗ ℕ ×ₗ ℕ ×ₗ ℕ ×ₗ ℕ ×ₗ ℕ :=
  toLex (priority1.toNat, toLex (quality.clockClass.toNat, toLex (quality.clockAccuracy.toNat,
    toLex (quality.offsetScaledLogVariance.toNat, toLex (priority2.toNat, identity.toNat)))))

theorem attributesOf_inj {p p' : U8} {q q' : ClockQuality} {r r' : U8} {id id' : ClockIdentity}
    : attributesOf p q r id = attributesOf p' q' r' id' ↔ p = p' ∧ q = q' ∧ r = r' ∧ id = id' := by
  rcases q with ⟨c, a, v⟩
  rcases q' with ⟨c', a', v'⟩
  simp only [attributesOf, EmbeddingLike.apply_eq_iff_eq, Prod.mk.injEq, ← BitVec.toNat_eq,
    ClockQuality.mk.injEq]
  tauto

def Dataset.attributes (d : Dataset) : ℕ ×ₗ ℕ ×ₗ ℕ ×ₗ ℕ ×ₗ ℕ ×ₗ ℕ :=
  attributesOf d.priority1 d.quality d.priority2 d.identity

/-- Where the data set comes from, the nearest first. -/
def Dataset.place (d : Dataset) : ℕ ×ₗ ℕ ×ₗ ℕ :=
  toLex (d.stepsRemoved.toNat, toLex (d.sender.octets.toNat, d.receiver.portNumber.toNat))

def Dataset.rank (d : Dataset) : (ℕ ×ₗ ℕ ×ₗ ℕ ×ₗ ℕ ×ₗ ℕ ×ₗ ℕ) ×ₗ ℕ ×ₗ ℕ ×ₗ ℕ :=
  toLex (d.attributes, d.place)

/-- Data sets of one grandmaster agree about it. -/
def Dataset.Coherent (a b : Dataset) : Prop := a.identity = b.identity → a.attributes = b.attributes

/-- A data set from further away comes from another port than the one that it came in by. -/
def Dataset.Apart (d : Dataset) : Prop :=
  d.stepsRemoved.toNat ≠ 0 → d.receiver.octets.toNat ≠ d.sender.octets.toNat

section Compare

variable {a b : Dataset}

theorem orElseBy_pos {w : ℕ} {x y : BitVec w} {rest : Int}
    : orElseBy x y rest > 0 ↔ x.toNat < y.toNat ∨ x.toNat = y.toNat ∧ rest > 0 := by
  unfold orElseBy aBetter bBetter
  simp only [gt_iff_lt, BitVec.lt_def]
  split_ifs <;> omega

theorem orElseBy_ne_topo {w : ℕ} {x y : BitVec w} {rest : Int} (other : rest ≠ aBetterTopo)
    : orElseBy x y rest ≠ aBetterTopo := by
  unfold orElseBy
  split_ifs
  · decide
  · decide
  · exact other

theorem memcmp_neg {w : ℕ} {x y : BitVec w} : memcmp x y < 0 ↔ x.toNat < y.toNat := by
  unfold memcmp
  simp only [BitVec.lt_def]
  split_ifs <;> omega

theorem memcmp_pos {w : ℕ} {x y : BitVec w} : memcmp x y > 0 ↔ y.toNat < x.toNat := by
  unfold memcmp
  simp only [BitVec.lt_def, gt_iff_lt]
  split_ifs <;> omega

theorem memcmp_eq_zero {w : ℕ} {x y : BitVec w} : memcmp x y = 0 ↔ x = y := by
  have less := memcmp_neg (x := x) (y := y)
  have more := memcmp_pos (x := x) (y := y)
  rw [BitVec.toNat_eq]
  omega

theorem dscmp2_pos (apart : b.Apart) : dscmp2 a b > 0 ↔ a.place < b.place := by
  unfold Dataset.Apart at apart
  unfold dscmp2 aBetter aBetterTopo bBetter bBetterTopo Dataset.place
  simp only [Prod.Lex.toLex_lt_toLex, memcmp_neg, memcmp_pos, BitVec.lt_def, gt_iff_lt]
  split_ifs <;> omega

theorem dscmp2_topo
    : dscmp2 a b = aBetterTopo
      ↔ a.stepsRemoved.toNat + 1 = b.stepsRemoved.toNat
          ∧ b.sender.octets.toNat < b.receiver.octets.toNat
        ∨ a.stepsRemoved.toNat = b.stepsRemoved.toNat ∧ a.place < b.place := by
  unfold dscmp2 aBetter aBetterTopo bBetter bBetterTopo Dataset.place
  simp only [Prod.Lex.toLex_lt_toLex, memcmp_neg, memcmp_pos, BitVec.lt_def, gt_iff_lt]
  split_ifs <;> simp <;> omega

/-- Being better is to have the lower rank. -/
theorem compareDatasets_pos (coherent : a.Coherent b) (apart : b.Apart)
    : compareDatasets a b > 0 ↔ a.rank < b.rank := by
  rw [Dataset.rank, Dataset.rank, Prod.Lex.toLex_lt_toLex]
  by_cases same : a.identity = b.identity
  · have level := coherent same
    rw [compareDatasets, if_pos (memcmp_eq_zero.mpr same), dscmp2_pos apart]
    simp [level]
  · have other : a.attributes ≠ b.attributes := fun level =>
      same (attributesOf_inj.mp level).2.2.2
    have last : (if memcmp a.identity b.identity < 0 then aBetter else bBetter) > 0
        ↔ a.identity.toNat < b.identity.toNat := by
      rw [← memcmp_neg]
      by_cases less : memcmp a.identity b.identity < 0
      · simp [less, aBetter]
      · simp [less, bBetter]
    rw [compareDatasets, if_neg (memcmp_eq_zero.not.mpr same)]
    simp only [orElseBy_pos, last, other, false_and, or_false]
    simp only [Dataset.attributes, attributesOf, Prod.Lex.toLex_lt_toLex]

/-- One is better by the topology only if both are of one grandmaster. -/
theorem compareDatasets_topo
    : compareDatasets a b = aBetterTopo
      ↔ a.identity = b.identity ∧ dscmp2 a b = aBetterTopo := by
  by_cases same : a.identity = b.identity
  · rw [compareDatasets, if_pos (memcmp_eq_zero.mpr same)]
    simp [same]
  · have last : (if memcmp a.identity b.identity < 0 then aBetter else bBetter) ≠ aBetterTopo := by
      split_ifs <;> decide
    rw [compareDatasets, if_neg (memcmp_eq_zero.not.mpr same)]
    refine iff_of_false ?_ fun both => same both.1
    exact orElseBy_ne_topo (orElseBy_ne_topo (orElseBy_ne_topo (orElseBy_ne_topo
      (orElseBy_ne_topo last))))

end Compare

/-- The foreign clocks that a clock chooses from can be compared. -/
def Clock.Comparable (now : Int) (c : Clock) : Prop :=
  ∀ p ∈ c.ports, ∀ q ∈ c.ports, ∀ fc ∈ p.qualified now, ∀ fc' ∈ q.qualified now,
    fc.dataset.Coherent fc'.dataset ∧ fc'.dataset.Apart

section Choice

variable {now : Int} {c : Clock} {p : Port} {i : ℕ} {best fc : ForeignClock}

theorem better_iff (coherent : fc.dataset.Coherent best.dataset) (apart : best.dataset.Apart)
    : ForeignClock.better dscmp fc best ↔ fc.dataset.rank < best.dataset.rank := by
  rw [← compareDatasets_pos coherent apart]
  simp [ForeignClock.better, dscmp, comparePointers]

/-- The best foreign clock of a port has the lowest rank of the qualified ones. -/
theorem portComputeBest_le {bound : U8} (comparable : c.Comparable now) (member : p ∈ c.ports)
    (registered : p.Registered bound)
    (chosen : (portComputeBest dscmp now p).bestClock = some best)
    : best ∈ p.qualified now ∧ ∀ fc ∈ p.qualified now, best.dataset.rank ≤ fc.dataset.rank := by
  rw [(portComputeBest_bestClock dscmp now registered).1] at chosen
  refine ⟨(foldl_pickBy_mem chosen).resolve_left (by simp), fun fc among => ?_⟩
  refine foldl_pickBy_le (fun fc => fc.dataset.rank) ?_ chosen fc (.inr among)
  intro b d first second
  have there := second.resolve_left (Option.not_mem_none _)
  obtain ⟨coherent, apart⟩ := comparable p member p member b first d there
  exact better_iff coherent apart

theorem portComputeBest_none {bound : U8} (registered : p.Registered bound)
    (none : (portComputeBest dscmp now p).bestClock = none)
    : p.qualified now = [] := by
  rw [(portComputeBest_bestClock dscmp now registered).1] at none
  exact (foldl_pickBy_none.mp none).2

/-- The best foreign clock of a clock has the lowest rank of the qualified ones of all its ports. -/
theorem Clock.computeBest_le (compared : c.dscmp = Gptp.dscmp) (comparable : c.Comparable now)
    (registered : ∀ p ∈ c.ports, p.Registered c.maxStepsRemoved)
    (chosen : (c.computeBest now).best = some (i, best)) (member : p ∈ c.ports)
    (among : fc ∈ p.qualified now)
    : best.dataset.rank ≤ fc.dataset.rank := by
  have own : ∀ {j : ℕ} {d : ForeignClock}, (j, d) ∈ c.candidates now → ∃ q ∈ c.ports,
      (portComputeBest Gptp.dscmp now q).bestClock = some d := by
    intro j d listed
    obtain ⟨q, placed, found⟩ := Clock.mem_candidates.mp listed
    exact ⟨q, List.mem_of_getElem? placed, compared ▸ found⟩
  cases found : (portComputeBest Gptp.dscmp now p).bestClock with
  | none =>
      rw [portComputeBest_none (registered p member) found] at among
      cases among
  | some first =>
      obtain ⟨j, placed⟩ := List.mem_iff_getElem?.mp member
      have listed : (j, first) ∈ c.candidates now :=
        Clock.mem_candidates.mpr ⟨p, placed, compared ▸ found⟩
      have lowest := (portComputeBest_le comparable member (registered p member) found).2 fc among
      rw [Clock.computeBest_best] at chosen
      refine le_trans ?_ lowest
      refine foldl_pickBy_le (fun fc : ℕ × ForeignClock => fc.2.dataset.rank) ?_ chosen
        (j, first) (.inr listed)
      rintro ⟨k, b⟩ ⟨l, d⟩ here there
      obtain ⟨q, first', found'⟩ := own here
      obtain ⟨r, second', found''⟩ := own (there.resolve_left (Option.not_mem_none _))
      have among := (portComputeBest_le comparable first' (registered q first') found').1
      have among' := (portComputeBest_le comparable second' (registered r second') found'').1
      obtain ⟨coherent, apart⟩ := comparable q first' r second' b among d among'
      rw [compared]
      exact better_iff coherent apart

end Choice

end TsnTrdp.Gptp
