import TsnTrdp.Tadma.RingSteps

/-! The engine's and the interrupt's steps keep the ring invariant, and with the stores of
the transmit every step of the interleaved stream does.
-/

namespace TsnTrdp.Tadma

open TsnTrdp

variable {n ent pub vis rd k : Nat} {s : StreamRace}

/-- A slot that the engine may still reach, or that the interrupt may poll, awaits no store
unless its descriptor is not visible yet.
-/
theorem RaceInv.settled (inv : RaceInv n s ent pub vis rd) {i : Nat} (low : rd ≤ i)
    (high : i < vis)
    : (∀ addr, .almAddr (i % n) addr ∉ s.tx) ∧ ∀ cfg, .almCfg (i % n) cfg ∉ s.tx := by
  have room := inv.engineRoom
  have apart : ¬ ∃ j, vis ≤ j ∧ j < s.descs.length ∧ i % n = j % n := by
    rintro ⟨j, visible, within, same⟩
    have := Ring.slot_inj low (by omega) (by omega : rd ≤ j) (by omega) same
    omega
  constructor
  · intro addr member
    exact apart (inv.plan.pending (Or.inl ⟨addr, member⟩))
  · intro cfg member
    exact apart (inv.plan.pending (Or.inr ⟨cfg, member⟩))

/-- A fetch takes the next visible descriptor, exactly as its packet submitted it. -/
theorem RaceInv.fetches (inv : RaceInv n s ent pub vis rd) (ready : s.fetching = false)
    (fetchable : s.ring.Fetchable n)
    : s.fetched.length = rd ∧ rd < vis ∧ pmRd s.ring.pm = rd % n
      ∧ ∃ desc, s.descs[rd]? = some desc ∧ s.ring.alm (rd % n) = desc.2 := by
  have entries := inv.entries
  have room := inv.engineRoom
  have published := inv.visPub
  have order := inv.fetchedVis
  have count : s.fetched.length = rd := by simpa [ready] using inv.fetchedRd
  have behind : rd < vis := by
    apply Nat.lt_of_le_of_ne (by omega)
    rintro rfl
    apply fetchable
    rw [inv.engineRd, inv.engineWr, Ring.advance]
  obtain ⟨desc, found⟩ : ∃ desc, s.descs[rd]? = some desc :=
    ⟨_, List.getElem?_eq_getElem (by omega)⟩
  obtain ⟨addr, cfg⟩ := inv.alms rd (by omega) (by omega) desc found
  obtain ⟨noAddr, noCfg⟩ := inv.settled (Nat.le_refl rd) behind
  refine ⟨count, behind, inv.engineRd, desc, found, ?_⟩
  have word := cfg noCfg
  rw [if_neg (by omega)] at word
  calc s.ring.alm (rd % n)
      = ⟨(s.ring.alm (rd % n)).addr, (s.ring.alm (rd % n)).cfg⟩ := rfl
    _ = desc.2 := by rw [addr noAddr, word]

theorem RaceInv.fetchSlot (inv : RaceInv n s ent pub vis rd)
    : RaceInv n { s with toStreamSys := s.toStreamSys.fetchSlot n } ent pub vis rd := by
  by_cases able : s.fetching = false ∧ s.ring.Fetchable n
  · obtain ⟨count, behind, cursor, desc, found, word⟩ := inv.fetches able.1 able.2
    have entries := inv.entries
    have room := inv.engineRoom
    have published := inv.visPub
    simp only [StreamSys.fetchSlot, able, and_self, if_true, cursor, word]
    refine { inv with
      engineRd := inv.engineRd
      fetchedRd := ?_
      countedFetched := ?_
      fetchedVis := ?_
      alms := ?_
      irq := ?_
      fetchedSlots := ?_
      fetchedWords := ?_ }
    · simp [count]
    · have := inv.countedFetched
      simp only [List.length_append, List.length_singleton]
      omega
    · simp only [List.length_append, List.length_singleton]
      omega
    · simp only [StreamRing.fetchSlot, cursor, word, List.length_append,
        List.length_singleton]
      refine inv.alms.set (by omega) (j := rd) (by omega) (by omega) ?_ ?_
      · intro other found'
        obtain rfl : desc = other := Option.some.inj (found.symm.trans found')
        exact ⟨fun _ => rfl, fun _ => by rw [if_pos (by omega)]⟩
      · intro i entry _ _ differ right desc' found'
        obtain ⟨addr, cfg⟩ := right desc' found'
        refine ⟨addr, ?_⟩
        intro settled
        rw [cfg settled]
        by_cases done : i < rd
        · rw [if_pos (by omega), if_pos (by omega)]
        · rw [if_neg (by omega), if_neg (by omega)]
    · have before := inv.irq
      unfold IrqRight at before ⊢
      cases position : s.irq with
      | test cnt word =>
          rw [position] at before
          refine ⟨before.1, ?_⟩
          intro clear
          simp only [List.length_append, List.length_singleton]
          exact (before.2 clear).imp_left Nat.lt_succ_of_lt
      | _ => simpa only [position] using before
    · simp only [List.map_append, inv.fetchedSlots, List.length_append, List.length_singleton,
        List.range_succ, count]
      rfl
    · have words := inv.fetchedWords
      change _ = (s.descs.take (s.fetched ++ [(rd % n, desc.2)]).length).map Prod.snd
      simp only [List.map_append, words, List.length_append, List.length_singleton, count,
        List.take_add_one, found]
      rfl
  · simpa only [StreamSys.fetchSlot, if_neg able] using inv

theorem RaceInv.fetchNext (inv : RaceInv n s ent pub vis rd) (small : n ≤ 256)
    : ∃ rd', RaceInv n { s with toStreamSys := s.toStreamSys.fetchNext n } ent pub vis rd' := by
  cases fetching : s.fetching with
  | false => exact ⟨rd, by simpa [StreamSys.fetchNext, fetching] using inv⟩
  | true =>
      have count : s.fetched.length = rd + 1 := by simpa [fetching] using inv.fetchedRd
      have entries := inv.entries
      have room := inv.engineRoom
      have order := inv.fetchedVis
      have published := inv.visPub
      have bound := Nat.mod_lt (rd + 1) (by omega : 0 < n)
      have byte : (rd + 1) % n < 256 := by omega
      have next : (pmRd s.ring.pm + 1) % n = (rd + 1) % n := by
        rw [inv.engineRd, Ring.advance]
      refine ⟨rd + 1, ?_⟩
      simp only [StreamSys.fetchNext, fetching, if_true, StreamRing.fetchNext, next]
      refine { inv with
        engineRd := pmRd_setPmRd byte
        engineWr := ?_
        engineWrLe := ?_
        fetchedRd := count
        engineRoom := ?_ }
      · exact (congrArg (· % n) (pmWr_setPmRd byte)).trans inv.engineWr
      · exact (pmWr_setPmRd byte).le.trans inv.engineWrLe
      · exact Nat.lt_of_lt_of_le room (by omega)

theorem RaceInv.irqEnter (inv : RaceInv n s ent pub vis rd) (idle : s.irq = .idle)
    : RaceInv n { s with irq := .read 0 } ent pub vis rd := by
  refine { inv with irq := ?_ }
  simpa [IrqRight, idle] using inv.irq

/-- A cleared word read from the interrupt's slot belongs to a fetched descriptor, or the
slot is not published, as long as a published slot is not read before it is written.
-/
theorem RaceInv.irqRead (inv : RaceInv n s ent pub vis rd) {cnt : Nat}
    (position : s.irq = .read cnt)
    (apart : s.ring.txBdRd ≠ s.ring.txBdHead → s.tx.any (·.isAlmCfg s.ring.txBdRd)
      → ¬ UffClear (s.ring.alm s.ring.txBdRd).cfg)
    : RaceInv n { s with irq := .test cnt (s.ring.alm s.ring.txBdRd).cfg } ent pub vis rd := by
  have before := inv.irq
  simp only [IrqRight, position] at before
  refine { inv with irq := ⟨before, ?_⟩ }
  intro clear
  have tailRoom := inv.tailRoom
  have entries := inv.entries
  have order := inv.doneCounted
  have order' := inv.countedFetched
  have order'' := inv.fetchedVis
  have order''' := inv.visPub
  rcases Nat.lt_or_eq_of_le order' with behind | level
  · exact Or.inl behind
  · refine Or.inr ?_
    change s.counted.length = pub
    by_contra unfinished
    have unmet : s.ring.txBdRd ≠ s.ring.txBdHead := fun meet =>
      unfinished (inv.rd_eq_head_iff.mp meet)
    have unwritten : ∀ cfg, .almCfg s.ring.txBdRd cfg ∉ s.tx := by
      intro cfg member
      refine apart unmet ?_ clear
      exact List.any_eq_true.mpr ⟨_, member, by simp [TxWrite.isAlmCfg]⟩
    rw [inv.irqRd] at unwritten clear
    have within : s.counted.length < s.descs.length := by omega
    have found := List.getElem?_eq_getElem within
    have word := (inv.alms _ (by omega) (by omega) _ found).2 unwritten
    rw [if_neg (by omega)] at word
    rw [word] at clear
    exact descs_armed (List.getElem_mem within) clear

theorem RaceInv.irqTest (inv : RaceInv n s ent pub vis rd) {cnt : Nat} {cfg : U32}
    (position : s.irq = .test cnt cfg)
    : RaceInv n (raceStep n s .irqTest) ent pub vis rd := by
  have before := inv.irq
  simp only [IrqRight, position] at before
  simp only [raceStep, position]
  by_cases completed : UffClear cfg ∧ cnt < n ∧ s.ring.txBdRd ≠ s.ring.txBdHead
  · have behind : s.counted.length < s.fetched.length := by
      apply (before.2 completed.1).resolve_right
      exact fun last => completed.2.2 (inv.rd_eq_head_iff.mpr last)
    have order := inv.doneCounted
    rw [if_pos completed]
    refine { inv with
      irqRd := ?_
      doneCounted := ?_
      countedFetched := ?_
      irq := ?_
      countedSlots := ?_ }
    · simp only [inv.irqRd, List.length_append, List.length_singleton]
      exact Ring.advance _ 1
    · simp only [List.length_append, List.length_singleton]
      omega
    · simp only [List.length_append, List.length_singleton]
      exact behind
    · simp only [IrqRight, List.length_append, List.length_singleton]
      omega
    · have slots := inv.countedSlots
      have cursor := inv.irqRd
      simp only [List.length_append, List.length_singleton, List.range_succ, List.map_append,
        ← slots, cursor]
      rfl
  · rw [if_neg completed]
    refine { inv with irq := ?_ }
    by_cases none : cnt = 0
    · simpa [IrqRight, none] using before.1
    · simpa [IrqRight, none] using before.1

/-- The completion loop reaps the entries that were counted, from the tail on. Induction on
the number of entries still to reap.
-/
theorem tadmaXmitDone_reaps {ring : StreamRing} {lo cnt hi : Nat}
    (tail : ring.txBdTail = lo % n) (head : ring.txBdHead = hi % n) (fits : lo + cnt ≤ hi)
    (room : hi < lo + n)
    : tadmaXmitDone n cnt ring
      = ({ ring with txBdTail := (lo + cnt) % n },
        (List.range' lo cnt).map fun i => ring.txBd (i % n)) := by
  induction cnt generalizing ring lo with
  | zero => simp [tadmaXmitDone, ← tail]
  | succ cnt ih =>
      have apart : ring.txBdHead ≠ ring.txBdTail := by
        rw [head, tail]
        intro meet
        have := (Ring.cursors_eq_iff (by omega) room).mp meet
        omega
      let next := { ring with txBdTail := (ring.txBdTail + 1) % n }
      have tail' : next.txBdTail = (lo + 1) % n := by simp only [next, tail, Ring.advance]
      have rest := ih tail' head (by omega) (by omega)
      rw [tadmaXmitDone, if_neg apart, rest, List.range'_succ, List.map_cons, tail,
        Nat.add_assoc, Nat.add_comm 1 cnt]

/-- The entries that the completion loop finds are those of the packets' descriptors. -/
theorem RaceInv.entries_between (inv : RaceInv n s ent pub vis rd) {cnt : Nat}
    (fits : s.done.length + cnt ≤ ent)
    : (List.range' s.done.length cnt).map (fun i => s.ring.txBd (i % n))
      = ((s.descs.drop s.done.length).take cnt).map fun desc => some desc.1 := by
  have entries := inv.entries
  apply List.ext_getElem
  · simp only [List.length_map, List.length_range', List.length_take, List.length_drop]
    omega
  · intro i bound bound'
    simp only [List.length_map, List.length_range'] at bound
    obtain ⟨desc, found, entry⟩ := inv.bds (s.done.length + i) (by omega) (by omega)
    have here := (List.getElem?_eq_some_iff.mp found).2
    simp only [List.getElem_map, List.getElem_range', Nat.one_mul, List.getElem_take,
      List.getElem_drop, entry, here]

theorem RaceInv.irqDone (inv : RaceInv n s ent pub vis rd) {cnt : Nat}
    (position : s.irq = .done cnt)
    : RaceInv n
        { s with
          ring := (tadmaXmitDone n cnt s.ring).1
          done := s.done ++ (tadmaXmitDone n cnt s.ring).2
          irq := .idle }
        ent pub vis rd := by
  have counted : s.counted.length = s.done.length + cnt := by
    simpa only [IrqRight, position] using inv.irq
  have tailRoom := inv.tailRoom
  have entries := inv.entries
  have order := inv.countedFetched
  have order' := inv.fetchedVis
  have order'' := inv.visPub
  have reaped : (tadmaXmitDone n cnt s.ring).2.length = cnt := by
    rw [tadmaXmitDone_reaps inv.tail inv.head (by omega) (by omega)]
    simp
  have total : (s.done ++ (tadmaXmitDone n cnt s.ring).2).length = s.done.length + cnt := by
    rw [List.length_append, reaped]
  have found := tadmaXmitDone_reaps inv.tail inv.head (by omega : s.done.length + cnt ≤ pub)
    (by omega)
  have cursors : (tadmaXmitDone n cnt s.ring).1
      = { s.ring with txBdTail := (s.done.length + cnt) % n } := by
    rw [found]
  have reads : (tadmaXmitDone n cnt s.ring).2
      = ((s.descs.drop s.done.length).take cnt).map fun desc => some desc.1 := by
    rw [found]
    exact inv.entries_between (by omega)
  rw [cursors]
  refine { inv with
    tail := ?_
    doneCounted := ?_
    tailRoom := ?_
    bds := ?_
    irq := ?_
    doneBds := ?_ }
  · simp only [total]
  · simp only [total]
    omega
  · simp only [total]
    exact Nat.lt_of_lt_of_le tailRoom (by omega)
  · simp only [total]
    exact inv.bds.imp (by omega) (Nat.le_refl _) fun _ _ _ _ right => right
  · simp only [IrqRight, total]
    exact counted
  · simp only [total]
    rw [reads]
    have before := inv.doneBds
    calc s.done ++ ((s.descs.drop s.done.length).take cnt).map (fun desc => some desc.1)
        = (s.descs.take s.done.length).map (fun desc => some desc.1)
          ++ ((s.descs.drop s.done.length).take cnt).map (fun desc => some desc.1) := by
          rw [← before]
      _ = (s.descs.take (s.done.length + cnt)).map (fun desc => some desc.1) := by
          rw [← List.map_append, ← List.take_add]

/-- The invariant at some indices. -/
def RingRight (n : Nat) (s : StreamRace) : Prop :=
  ∃ ent pub vis rd, RaceInv n s ent pub vis rd

theorem raceStep_keeps (pow : n = 2 ^ k) (small : n ≤ 256) (s : StreamRace)
    (event : RaceEvent) (right : RingRight n s) (apart : PollApart n s event)
    : RingRight n (raceStep n s event) := by
  obtain ⟨ent, pub, vis, rd, inv⟩ := right
  cases event with
  | xmit skb =>
      cases idle : s.tx with
      | nil =>
          cases accept : xmitAccept n s.ring skb with
          | none => simpa only [raceStep, idle, accept] using ⟨ent, pub, vis, rd, inv⟩
          | some writes =>
              simp only [raceStep, idle, accept]
              exact ⟨ent, pub, vis, rd, inv.xmit pow idle accept (apart idle)⟩
      | cons write rest => simpa only [raceStep, idle] using ⟨ent, pub, vis, rd, inv⟩
  | store =>
      cases next : s.tx with
      | nil => simpa only [raceStep, next] using ⟨ent, pub, vis, rd, inv⟩
      | cons write rest =>
          simp only [raceStep, next]
          cases write with
          | txBd bd => exact ⟨_, _, _, _, inv.storeTxBd next⟩
          | txBdHead =>
              exact ⟨_, _, _, _, inv.storeTxBdHead next (apart (by rw [next]; rfl))⟩
          | almAddr slot addr => exact ⟨_, _, _, _, inv.storeAlmAddr next⟩
          | almCfg slot cfg => exact ⟨_, _, _, _, inv.storeAlmCfg next⟩
          | pmWr wr => exact ⟨_, _, _, _, inv.storePmWr small next⟩
  | fetchSlot => exact ⟨ent, pub, vis, rd, inv.fetchSlot⟩
  | fetchNext =>
      obtain ⟨rd', inv'⟩ := inv.fetchNext small
      exact ⟨ent, pub, vis, rd', inv'⟩
  | irqEnter =>
      cases position : s.irq with
      | idle =>
          simp only [raceStep, position]
          exact ⟨_, _, _, _, inv.irqEnter position⟩
      | _ => simpa only [raceStep, position] using ⟨ent, pub, vis, rd, inv⟩
  | irqRead =>
      cases position : s.irq with
      | read cnt =>
          simp only [raceStep, position]
          exact ⟨_, _, _, _, inv.irqRead position (apart (by rw [position]; rfl))⟩
      | _ => simpa only [raceStep, position] using ⟨ent, pub, vis, rd, inv⟩
  | irqTest =>
      cases position : s.irq with
      | test cnt cfg => exact ⟨_, _, _, _, inv.irqTest position⟩
      | _ => simpa only [raceStep, position] using ⟨ent, pub, vis, rd, inv⟩
  | irqDone =>
      cases position : s.irq with
      | done cnt =>
          cases free : s.tx with
          | nil =>
              simp only [raceStep, position, free]
              have inv' := inv.irqDone position
              rw [← free]
              exact ⟨_, _, _, _, inv'⟩
          | cons write rest =>
              simpa only [raceStep, position, free] using ⟨ent, pub, vis, rd, inv⟩
      | _ => simpa only [raceStep, position] using ⟨ent, pub, vis, rd, inv⟩

end TsnTrdp.Tadma
