import TsnTrdp.Tadma.RingRace

/-! The invariant of the interleaved ring. Free-running indices count descriptors: all
those of accepted packets, of which `ent` have their ring entry stored, `pub` are
published by `tx_bd_head`, `vis` are visible through the write pointer, and `rd` lie
behind the engine's read pointer. Every cursor and register is such an index modulo `n`.
-/

namespace TsnTrdp.Tadma

open TsnTrdp

/-- The remaining stores of a transmit complete the descriptors from `vis` on: each ring
entry is stored and then published, each published slot still gets its address and its
configuration word, and the write pointer comes last.
-/
def TxPlan (n : Nat) (descs : List Desc) (vis : Nat) : Nat → Nat → List TxWrite → Prop
  | ent, pub, [] => ent = descs.length ∧ pub = descs.length ∧ vis = descs.length
  | ent, pub, .txBd bd :: rest =>
      ent = pub ∧ (∃ desc, descs[ent]? = some desc ∧ bd = desc.1)
      ∧ TxPlan n descs vis (ent + 1) pub rest
  | ent, pub, .txBdHead :: rest =>
      ent = pub + 1 ∧ (∃ addr, .almAddr (pub % n) addr ∈ rest)
      ∧ (∃ cfg, .almCfg (pub % n) cfg ∈ rest)
      ∧ TxPlan n descs vis ent (pub + 1) rest
  | ent, pub, .almAddr slot addr :: rest =>
      ent = pub
      ∧ (∃ i desc, vis ≤ i ∧ i < pub ∧ slot = i % n ∧ descs[i]? = some desc
        ∧ addr = desc.2.addr)
      ∧ TxPlan n descs vis ent pub rest
  | ent, pub, .almCfg slot cfg :: rest =>
      ent = pub
      ∧ (∃ i desc, vis ≤ i ∧ i < pub ∧ slot = i % n ∧ descs[i]? = some desc
        ∧ cfg = desc.2.cfg)
      ∧ TxPlan n descs vis ent pub rest
  | ent, pub, .pmWr wr :: rest =>
      ent = pub ∧ pub = descs.length ∧ wr = (descs.length + 1) % n ∧ rest = []

variable {n : Nat} {descs : List Desc} {vis ent pub rd : Nat} {tx : List TxWrite}

theorem TxPlan.bounds (plan : TxPlan n descs vis ent pub tx)
    : pub ≤ ent ∧ ent ≤ descs.length := by
  induction tx generalizing ent pub with
  | nil =>
      obtain ⟨rfl, rfl, -⟩ := plan
      omega
  | cons write rest ih =>
      cases write with
      | txBd bd =>
          obtain ⟨rfl, -, later⟩ := plan
          have := ih later
          omega
      | txBdHead =>
          obtain ⟨rfl, -, -, later⟩ := plan
          have := ih later
          omega
      | almAddr slot addr =>
          obtain ⟨rfl, -, later⟩ := plan
          exact ih later
      | almCfg slot cfg =>
          obtain ⟨rfl, -, later⟩ := plan
          exact ih later
      | pmWr wr =>
          obtain ⟨rfl, rfl, -, -⟩ := plan
          omega

/-- A slot that a remaining store touches belongs to a descriptor from `vis` on. -/
theorem TxPlan.pending (plan : TxPlan n descs vis ent pub tx) {slot : Nat}
    (touches : (∃ addr, .almAddr slot addr ∈ tx) ∨ ∃ cfg, .almCfg slot cfg ∈ tx)
    : ∃ i, vis ≤ i ∧ i < descs.length ∧ slot = i % n := by
  induction tx generalizing ent pub with
  | nil => simp at touches
  | cons write rest ih =>
      have bounds := plan.bounds
      cases write with
      | txBd bd => exact ih plan.2.2 (by simpa using touches)
      | txBdHead => exact ih plan.2.2.2 (by simpa using touches)
      | almAddr slot' addr =>
          obtain ⟨-, ⟨i, desc, low, high, at', -, -⟩, later⟩ := plan
          by_cases same : slot = slot'
          · exact ⟨i, low, by omega, same.trans at'⟩
          · exact ih later (by simpa [same] using touches)
      | almCfg slot' cfg =>
          obtain ⟨-, ⟨i, desc, low, high, at', -, -⟩, later⟩ := plan
          by_cases same : slot = slot'
          · exact ⟨i, low, by omega, same.trans at'⟩
          · exact ih later (by simpa [same] using touches)
      | pmWr wr =>
          obtain ⟨-, -, -, rfl⟩ := plan
          simp at touches

theorem and_mask {k : Nat} (pow : n = 2 ^ k) (x : Nat) : x &&& (n - 1) = x % n := by
  rw [pow, Nat.and_two_pow_sub_one_eq_mod]

/-- The slot written for a write pointer is the one before it. -/
theorem almSlot_eq {k wr i : Nat} (pow : n = 2 ^ k) (ahead : wr % n = (i + 1) % n)
    : almSlot n wr = i % n := by
  have pos : 0 < n := pow ▸ Nat.two_pow_pos k
  have step : (wr + (n - 1)) % n = (i + 1 + (n - 1)) % n := Nat.ModEq.add_right _ ahead
  rw [almSlot, and_mask pow, Nat.add_sub_assoc (by omega), step,
    show i + 1 + (n - 1) = i + n by omega, Nat.add_mod_right]

theorem pmNext_mod {k wr i : Nat} (pow : n = 2 ^ k) (at' : wr % n = i % n)
    : pmNext n wr % n = (i + 1) % n := by
  rw [pmNext, and_mask pow, Nat.mod_mod]
  exact Nat.ModEq.add_right 1 at'

theorem pmNext_iterate {k wr i : Nat} (pow : n = 2 ^ k) (at' : wr % n = i % n) (count : Nat)
    : (pmNext n)^[count + 1] wr = (i + count + 1) % n := by
  induction count with
  | zero =>
      rw [Function.iterate_one, ← pmNext_mod pow at', pmNext, and_mask pow, Nat.mod_mod]
  | succ count ih =>
      rw [Function.iterate_succ_apply', ih, pmNext, and_mask pow, Nat.mod_add_mod]
      rfl

theorem fragDescs_length (addr : Nat) (frags : List SkbFrag)
    : (fragDescs addr frags).length = frags.length := by
  induction frags with
  | nil => rfl
  | cons frag rest ih => simp [fragDescs, ih]

@[simp] theorem SkBuff.descs_length (skb : SkBuff) : skb.descs.length = skb.frags.length + 1 := by
  simp [SkBuff.descs, fragDescs_length]

/-- The fragment loop follows the plan, by induction on the fragments still to go. -/
theorem fragWrites_plan {k addr wr : Nat} {frags : List SkbFrag} {pre : List Desc}
    {post : List TxWrite} (pow : n = 2 ^ k) (all : descs = pre ++ fragDescs addr frags)
    (low : vis < pre.length) (at' : wr % n = pre.length % n)
    (later : TxPlan n descs vis descs.length descs.length post)
    : TxPlan n descs vis pre.length pre.length (fragWrites n addr wr frags ++ post) := by
  induction frags generalizing pre wr with
  | nil =>
      have whole : descs.length = pre.length := by simp [all, fragDescs]
      simpa [fragWrites, whole] using later
  | cons frag rest ih =>
      have slot : almSlot n (pmNext n wr) = pre.length % n := almSlot_eq pow (pmNext_mod pow at')
      have here : descs[pre.length]?
          = some (fragBd addr frag rest.isEmpty, almFrag frag rest.isEmpty) := by
        simp [all, fragDescs]
      have all' : descs = (pre ++ [(fragBd addr frag rest.isEmpty, almFrag frag rest.isEmpty)])
          ++ fragDescs addr rest := by
        simp [all, fragDescs]
      have tail := ih all' (by simp; omega)
        (by simpa using pmNext_mod pow at' : pmNext n wr % n = _)
      simp only [List.length_append, List.length_singleton] at tail
      simp only [fragWrites, List.cons_append, TxPlan, slot]
      refine ⟨trivial, ⟨_, here, rfl⟩, trivial, ⟨_, List.mem_cons_self⟩,
        ⟨_, List.mem_cons_of_mem _ List.mem_cons_self⟩, trivial, ?_, trivial, ?_, tail⟩
      · exact ⟨pre.length, _, by omega, by omega, rfl, here, rfl⟩
      · exact ⟨pre.length, _, by omega, by omega, rfl, here, rfl⟩

/-- All stores of an accepted packet follow the plan that starts behind the descriptors
already there.
-/
theorem txWrites_plan {k wr : Nat} {skb : SkBuff} {phys : BitVec 64} {pre : List Desc}
    (pow : n = 2 ^ k) (mapped : skb.dma = some phys) (at' : wr % n = (pre.length + 1) % n)
    : TxPlan n (pre ++ skb.descs) pre.length pre.length pre.length (txWrites n skb phys wr) := by
  have slot : almSlot n wr = pre.length % n := almSlot_eq pow at'
  have here : (pre ++ skb.descs)[pre.length]? = some (headBd skb phys, almFframe skb phys) := by
    simp [SkBuff.descs, mapped]
  have total : (pre ++ skb.descs).length = pre.length + skb.frags.length + 1 := by
    simp [Nat.add_assoc]
  have post : TxPlan n (pre ++ skb.descs) pre.length (pre ++ skb.descs).length
      (pre ++ skb.descs).length
      [.almAddr (almSlot n wr) (almFframe skb phys).addr,
        .almCfg (almSlot n wr) (almFframe skb phys).cfg,
        .pmWr ((pmNext n)^[skb.frags.length + 1] wr)] := by
    simp only [TxPlan, slot, true_and, and_true]
    refine ⟨⟨pre.length, _, by omega, by omega, rfl, here, rfl⟩,
      ⟨pre.length, _, by omega, by omega, rfl, here, rfl⟩, ?_⟩
    rw [pmNext_iterate pow at', total]
    congr 1
    omega
  have all : pre ++ skb.descs
      = (pre ++ [(headBd skb phys, almFframe skb phys)]) ++ fragDescs skb.addr skb.frags := by
    simp [SkBuff.descs, mapped]
  have frags := fragWrites_plan pow all (by simp) (by simpa using at' : wr % n = _) post
  simp only [List.length_append, List.length_singleton] at frags
  simp only [txWrites, TxPlan, true_and]
  refine ⟨⟨_, here, rfl⟩, ⟨(almFframe skb phys).addr, ?_⟩, ⟨(almFframe skb phys).cfg, ?_⟩, frags⟩
  · rw [← slot]
    exact List.mem_append_right _ List.mem_cons_self
  · rw [← slot]
    exact List.mem_append_right _ (List.mem_cons_of_mem _ List.mem_cons_self)

/-- A slot holds its descriptor, but for the words that remaining stores still write; the
engine has cleared `UFF` of the first `fetchedCount` descriptors.
-/
def AlmRight (n : Nat) (descs : List Desc) (fetchedCount : Nat) (tx : List TxWrite) (i : Nat)
    (entry : AlmEntry)
    : Prop :=
  ∀ desc, descs[i]? = some desc →
    ((∀ addr, .almAddr (i % n) addr ∉ tx) → entry.addr = desc.2.addr)
    ∧ ((∀ cfg, .almCfg (i % n) cfg ∉ tx)
      → entry.cfg = if i < fetchedCount then desc.2.fetched.cfg else desc.2.cfg)

/-- The interrupt has counted `cnt` slots beyond those reaped; a cleared word that it holds
belongs to a fetched slot, or to one that is not published.
-/
def IrqRight (s : StreamRace) (pub : Nat) : Prop :=
  match s.irq with
  | .idle => s.counted.length = s.done.length
  | .read cnt => s.counted.length = s.done.length + cnt
  | .done cnt => s.counted.length = s.done.length + cnt
  | .test cnt cfg =>
      s.counted.length = s.done.length + cnt
      ∧ (UffClear cfg → s.counted.length < s.fetched.length ∨ s.counted.length = pub)

structure RaceInv (n : Nat) (s : StreamRace) (ent pub vis rd : Nat) : Prop where
  head : s.ring.txBdHead = pub % n
  tail : s.ring.txBdTail = s.done.length % n
  irqRd : s.ring.txBdRd = s.counted.length % n
  engineRd : pmRd s.ring.pm = rd % n
  engineWr : pmWr s.ring.pm % n = (vis + 1) % n
  engineWrLe : pmWr s.ring.pm ≤ n
  fetchedRd : s.fetched.length = rd + s.fetching.toNat
  doneCounted : s.done.length ≤ s.counted.length
  countedFetched : s.counted.length ≤ s.fetched.length
  fetchedVis : s.fetched.length ≤ vis
  visPub : vis ≤ pub
  tailRoom : s.descs.length < s.done.length + n
  engineRoom : s.descs.length < rd + n
  bds
    : Ring.Holds n s.ring.txBd
        (fun i bd => ∃ desc, s.descs[i]? = some desc ∧ bd = some desc.1) s.done.length ent
  alms
    : Ring.Holds n s.ring.alm (AlmRight n s.descs s.fetched.length s.tx)
        (s.descs.length - n) pub
  plan : TxPlan n s.descs vis ent pub s.tx
  irq : IrqRight s pub
  fetchedSlots : s.fetched.map Prod.fst = (List.range s.fetched.length).map (· % n)
  fetchedWords
    : s.fetched.map Prod.snd = (s.descs.take s.fetched.length).map Prod.snd
  countedSlots : s.counted = (List.range s.counted.length).map (· % n)
  doneBds : s.done = (s.descs.take s.done.length).map fun desc => some desc.1

/-- Every word that a packet submits has `UFF` set. -/
theorem descs_armed {s : StreamSys} {desc : Desc} (member : desc ∈ s.descs)
    : ¬ UffClear desc.2.cfg := by
  have frags : ∀ addr frags, desc ∈ fragDescs addr frags → ¬ UffClear desc.2.cfg := by
    intro addr frags
    induction frags with
    | nil => simp [fragDescs]
    | cons frag rest ih =>
        intro found
        rcases List.mem_cons.mp found with rfl | later
        · exact not_uffClear_or _
        · exact ih later
  obtain ⟨skb, -, found⟩ := List.mem_flatMap.mp member
  rcases List.mem_cons.mp found with rfl | later
  · exact not_uffClear_or _
  · exact frags _ _ later

/-- The invariant yields `CompletedAfterFetch`. -/
theorem RaceInv.completedAfterFetch {s : StreamRace} (inv : RaceInv n s ent pub vis rd)
    : CompletedAfterFetch s.toStreamSys := by
  have words := inv.fetchedWords
  refine ⟨?_, ?_, ?_, ?_⟩
  · rw [inv.fetchedSlots, inv.countedSlots]
    have first : List.range s.counted.length
        = (List.range s.fetched.length).take s.counted.length := by
      rw [List.take_range, Nat.min_eq_left inv.countedFetched]
    rw [first]
    exact (List.take_prefix _ _).map _
  · intro fetch member
    have found : fetch.2 ∈ (s.descs.take s.fetched.length).map Prod.snd := by
      rw [← words]
      exact List.mem_map_of_mem member
    obtain ⟨desc, taken, same⟩ := List.mem_map.mp found
    rw [← same]
    exact descs_armed (List.mem_of_mem_take taken)
  · rw [words]
    exact (List.take_prefix _ _).map _
  · rw [inv.doneBds]
    have short : s.done.length ≤ s.fetched.length :=
      Nat.le_trans inv.doneCounted inv.countedFetched
    exact (List.take_prefix_take_left short).map _

end TsnTrdp.Tadma
