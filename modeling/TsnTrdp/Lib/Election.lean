import Mathlib

/-! Nodes on shared segments that settle on the best one of them, by what their leading ports
announce: its rank, and how far away it is.
-/

namespace TsnTrdp.Election

variable {ι π σ ρ κ : Type*}

/-- Each node is its own root, or it is one step further from its root than another node. -/
structure Chosen (own : ι → ρ) (root : ι → ρ) (hops : ι → ℕ) (Hears : ι → ι → Prop) : Prop where
  chosen
    : ∀ i, root i = own i ∧ hops i = 0
        ∨ ∃ j, Hears i j ∧ root i = root j ∧ hops i = hops j + 1

section Chosen

variable {own root : ι → ρ} {hops : ι → ℕ} {Hears : ι → ι → Prop}

theorem Chosen.own_of_zero (settled : Chosen own root hops Hears) {i : ι} (near : hops i = 0)
    : root i = own i := by
  rcases settled.chosen i with ⟨same, _⟩ | ⟨j, _, _, further⟩
  · exact same
  · rw [near] at further
    cases further

/-- Following the parents ends at a node that is its own root. Induction on the steps. -/
theorem Chosen.exists_root (settled : Chosen own root hops Hears) (i : ι)
    : ∃ g, root i = own g ∧ root g = own g ∧ hops g = 0 := by
  induction far : hops i generalizing i with
  | zero =>
      have same := settled.own_of_zero far
      exact ⟨i, same, same, far⟩
  | succ n ih =>
      rcases settled.chosen i with ⟨_, near⟩ | ⟨j, _, same, further⟩
      · rw [near] at far
        cases far
      · obtain ⟨g, rooted, top, zero⟩ := ih j (by omega)
        exact ⟨g, same.trans rooted, top, zero⟩

/-- On the way there are nodes of every smaller distance. -/
theorem Chosen.exists_hops (settled : Chosen own root hops Hears) {n : ℕ} (i : ι)
    (near : n ≤ hops i)
    : ∃ j, hops j = n := by
  induction far : hops i generalizing i with
  | zero => exact ⟨i, by omega⟩
  | succ m ih =>
      by_cases here : n = hops i
      · exact ⟨i, here.symm⟩
      · rcases settled.chosen i with ⟨_, zero⟩ | ⟨j, _, _, further⟩
        · omega
        · exact ih j (by omega) (by omega)

/-- The nodes bound the distances. -/
theorem Chosen.hops_lt [Fintype ι] (settled : Chosen own root hops Hears) (i : ι)
    : hops i < Fintype.card ι := by
  have covered : Finset.range (hops i + 1) ⊆ Finset.univ.image hops := by
    intro n member
    obtain ⟨j, same⟩ :=
      settled.exists_hops i (Nat.lt_succ_iff.mp (Finset.mem_range.mp member))
    exact Finset.mem_image.mpr ⟨j, Finset.mem_univ j, same⟩
  have counted := (Finset.card_le_card covered).trans Finset.card_image_le
  rw [Finset.card_range, Finset.card_univ] at counted
  exact counted

end Chosen

/-- The port `p` of a node stands before another node's port `q`. -/
def Before [LT ρ] [LT κ] (owner : π → ι) (root : ι → ρ) (hops : ι → ℕ) (name : π → κ) (p q : π)
    : Prop :=
  root (owner p) < root (owner q)
  ∨ root (owner p) = root (owner q)
    ∧ (hops (owner p) < hops (owner q) ∨ hops (owner p) = hops (owner q) ∧ name p < name q)

/-- Another node's port on the same segment. -/
def Faces (owner : π → ι) (segment : π → σ) (p q : π) : Prop :=
  segment p = segment q ∧ owner p ≠ owner q

/-- Every node has settled on the best that it hears of, and every port on whether it leads. -/
structure Settled [LinearOrder ρ] [LinearOrder κ] (owner : π → ι) (segment : π → σ) (own : ι → ρ)
    (root : ι → ρ) (hops : ι → ℕ) (name : π → κ) (Leads : π → Prop)
    : Prop where
  chosen
    : Chosen own root hops fun i j =>
        ∃ p q, owner p = i ∧ owner q = j ∧ Faces owner segment p q
  own : ∀ i, root i ≤ own i
  heard
    : ∀ p q, Leads q → Faces owner segment p q
        → root (owner p) < root (owner q)
          ∨ root (owner p) = root (owner q) ∧ hops (owner p) ≤ hops (owner q) + 1
  stands : ∀ p q, Leads p → Leads q → Faces owner segment p q → Before owner root hops name p q
  yields
    : ∀ p, ¬ Leads p
        → ∃ q, Leads q ∧ Faces owner segment p q ∧ ¬ Before owner root hops name p q

/-- Two nodes that share a segment. -/
def neighbours (owner : π → ι) (segment : π → σ) : SimpleGraph ι :=
  SimpleGraph.fromRel fun i j => ∃ p q, owner p = i ∧ owner q = j ∧ segment p = segment q

theorem neighbours_adj {owner : π → ι} {segment : π → σ} {i j : ι}
    : (neighbours owner segment).Adj i j
      ↔ i ≠ j ∧ ∃ p q, owner p = i ∧ owner q = j ∧ segment p = segment q := by
  rw [neighbours, SimpleGraph.fromRel_adj]
  refine and_congr_right fun _ => ⟨fun either => ?_, .inl⟩
  rcases either with near | ⟨p, q, first, second, same⟩
  · exact near
  · exact ⟨q, p, second, first, same.symm⟩

section Settled

variable [LinearOrder ρ] [LinearOrder κ] {owner : π → ι} {segment : π → σ} {own root : ι → ρ}
  {hops : ι → ℕ} {name : π → κ} {Leads : π → Prop}

theorem Before.asymm {p q : π} (first : Before owner root hops name p q)
    : ¬ Before owner root hops name q p := by
  rintro (below | ⟨same, less | ⟨level, less⟩⟩)
  · rcases first with above | ⟨same, _⟩
    · exact absurd above (not_lt.mpr below.le)
    · exact absurd same.symm below.ne
  · rcases first with above | ⟨_, more | ⟨level, _⟩⟩
    · exact absurd same.symm above.ne
    · exact absurd more (not_lt.mpr less.le)
    · exact absurd level.symm less.ne
  · rcases first with above | ⟨_, more | ⟨_, more⟩⟩
    · exact absurd same.symm above.ne
    · exact absurd level.symm more.ne
    · exact absurd more (not_lt.mpr less.le)

/-- One node leads on each segment. -/
theorem Settled.leader_unique (settled : Settled owner segment own root hops name Leads) {p q : π}
    (first : Leads p) (second : Leads q) (same : segment p = segment q)
    : owner p = owner q := by
  by_contra other
  exact (settled.stands p q first second ⟨same, other⟩).asymm
    (settled.stands q p second first ⟨same.symm, Ne.symm other⟩)

/-- Every segment has a port that leads. Its node has the same root as every other node on the
segment, and is at most one step nearer.
-/
theorem Settled.exists_leader (settled : Settled owner segment own root hops name Leads) (p : π)
    : ∃ q,
        Leads q ∧ segment q = segment p ∧ root (owner q) = root (owner p)
        ∧ hops (owner q) ≤ hops (owner p) ∧ hops (owner p) ≤ hops (owner q) + 1 := by
  by_cases leads : Leads p
  · exact ⟨p, leads, rfl, rfl, le_refl _, Nat.le_succ _⟩
  · obtain ⟨q, leader, faces, after⟩ := settled.yields p leads
    obtain ⟨level, others⟩ := not_or.mp after
    rcases settled.heard p q leader faces with below | ⟨same, near⟩
    · exact absurd below level
    · have notNearer : ¬ hops (owner p) < hops (owner q) := fun less => others ⟨same, .inl less⟩
      exact ⟨q, leader, faces.1.symm, same.symm, not_lt.mp notNearer, near⟩

/-- Nodes on one segment have one root, and differ by one step at most. -/
theorem Settled.near (settled : Settled owner segment own root hops name Leads) {i j : ι}
    (adjacent : (neighbours owner segment).Adj i j)
    : root i = root j ∧ hops j ≤ hops i + 1 := by
  obtain ⟨_, p, q, rfl, rfl, same⟩ := neighbours_adj.mp adjacent
  obtain ⟨first, leads, here, rooted, nearer, _⟩ := settled.exists_leader p
  obtain ⟨second, leads', there, rooted', _, near⟩ := settled.exists_leader q
  have one := settled.leader_unique leads leads' (here.trans (same.trans there.symm))
  rw [← one] at rooted' near
  exact ⟨rooted.symm.trans rooted', near.trans (Nat.succ_le_succ nearer)⟩

/-- Nodes that are joined have one root. Induction on the walk between them. -/
theorem Settled.agree (settled : Settled owner segment own root hops name Leads) {i j : ι}
    (walk : (neighbours owner segment).Walk i j)
    : root i = root j ∧ hops j ≤ hops i + walk.length := by
  induction walk with
  | nil => exact ⟨rfl, le_refl _⟩
  | cons adjacent rest ih =>
      obtain ⟨same, near⟩ := settled.near adjacent
      rw [SimpleGraph.Walk.length_cons]
      exact ⟨same.trans ih.1, by omega⟩

/-- From every node its parents lead to its root, by as many steps as it is away. -/
theorem Settled.exists_walk (settled : Settled owner segment own root hops name Leads) (i : ι)
    : ∃ g, root i = own g ∧ root g = own g ∧ hops g = 0
        ∧ ∃ walk : (neighbours owner segment).Walk g i, walk.length = hops i := by
  induction far : hops i generalizing i with
  | zero =>
      have same := settled.chosen.own_of_zero far
      exact ⟨i, same, same, far, .nil, rfl⟩
  | succ n ih =>
      rcases settled.chosen.chosen i with ⟨_, near⟩ | ⟨j, ⟨p, q, rfl, rfl, faces⟩, same, further⟩
      · rw [near] at far
        cases far
      · obtain ⟨g, rooted, top, zero, walk, length⟩ := ih (owner q) (by omega)
        have adjacent : (neighbours owner segment).Adj (owner q) (owner p) :=
          neighbours_adj.mpr ⟨faces.2.symm, q, p, rfl, rfl, faces.1.symm⟩
        refine ⟨g, same.trans rooted, top, zero, walk.concat adjacent, ?_⟩
        rw [SimpleGraph.Walk.length_concat, length]

/-- Where no two nodes have one rank, those that are joined have settled on the best of them, and
each is as far from it as the segments between them make it.
-/
theorem Settled.best (settled : Settled owner segment own root hops name Leads)
    (distinct : Function.Injective own) (i : ι)
    : ∃ g,
        (neighbours owner segment).Reachable g i
        ∧ ∀ j, (neighbours owner segment).Reachable i j
          → root j = own g ∧ own g ≤ own j
            ∧ (neighbours owner segment).dist g j = hops j := by
  obtain ⟨g, rooted, top, zero, walk, _⟩ := settled.exists_walk i
  refine ⟨g, walk.reachable, fun j joined => ?_⟩
  obtain ⟨between⟩ := joined
  have same : root j = own g := (settled.agree between).1.symm.trans rooted
  refine ⟨same, same ▸ settled.own j, le_antisymm ?_ ?_⟩
  · obtain ⟨g', rooted', _, _, path, length⟩ := settled.exists_walk j
    obtain rfl : g' = g := distinct (rooted'.symm.trans same)
    exact length ▸ SimpleGraph.dist_le path
  · obtain ⟨shortest, length⟩ := (walk.reachable.trans ⟨between⟩).exists_walk_length_eq_dist
    have bound := (settled.agree shortest).2
    omega

end Settled

end TsnTrdp.Election
