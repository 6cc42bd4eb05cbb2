import TsnTrdp.Tadma.RingInvariant

/-! Each step of the transmit, of the engine and of the interrupt keeps the ring
invariant. Only publishing a slot and reading an unwritten one need the schedule to keep
the parties apart, and only accepting a packet needs the ring to have room.
-/

namespace TsnTrdp.Tadma

open TsnTrdp

variable {n ent pub vis rd k : Nat} {s : StreamRace}

theorem RaceInv.entries (inv : RaceInv n s ent pub vis rd)
    : pub ≤ ent ∧ ent ≤ s.descs.length :=
  inv.plan.bounds

theorem RaceInv.total (inv : RaceInv n s ent pub vis rd) (idle : s.tx = [])
    : ent = s.descs.length ∧ pub = s.descs.length ∧ vis = s.descs.length := by
  simpa only [idle, TxPlan] using inv.plan

/-- The interrupt's cursor meets the head exactly at the last published slot. -/
theorem RaceInv.rd_eq_head_iff (inv : RaceInv n s ent pub vis rd)
    : s.ring.txBdRd = s.ring.txBdHead ↔ s.counted.length = pub := by
  have room := inv.tailRoom
  have := inv.doneCounted
  have := inv.countedFetched
  have := inv.fetchedVis
  have := inv.visPub
  have := inv.entries
  rw [inv.irqRd, inv.head, eq_comm, Ring.cursors_eq_iff (by omega) (by omega)]
  exact eq_comm

/-- The entries in use are those between the tail and the published head. -/
theorem RaceInv.used (inv : RaceInv n s ent pub vis rd)
    : (s.ring.txBdHead + n - s.ring.txBdTail) % n = pub - s.done.length := by
  have room := inv.tailRoom
  have := inv.doneCounted
  have := inv.countedFetched
  have := inv.fetchedVis
  have := inv.visPub
  have := inv.entries
  rw [inv.head, inv.tail, Ring.used_eq (by omega) (by omega)]

/-- What an accepted packet has passed, and the stores it goes on to make. -/
theorem xmitAccept_cases {ring : StreamRing} {skb : SkBuff} {writes : List TxWrite}
    (accept : xmitAccept n ring skb = some writes)
    : axienetCheckPmSpace (skb.frags.length + 1) (pmWr ring.pm) (pmRd ring.pm) n = true
      ∧ (ring.txBdHead + (skb.frags.length + 1)) % n ≠ ring.txBdTail
      ∧ ∃ phys, skb.dma = some phys ∧ writes = txWrites n skb phys (pmWr ring.pm) := by
  simp only [xmitAccept, Bool.not_eq_true'] at accept
  split at accept
  · cases accept
  · rename_i space
    split at accept
    · cases accept
    · rename_i full
      obtain ⟨phys, mapped, same⟩ := Option.map_eq_some_iff.mp accept
      exact ⟨by simpa using space, full, phys, mapped, same.symm⟩

/-- The pointer test leaves a slot free between the engine and the new descriptors. -/
theorem pmSpace_room {numFrag wr index engine : Nat}
    (space : axienetCheckPmSpace numFrag wr (engine % n) n = true)
    (ahead : wr % n = (index + 1) % n) (le : wr ≤ n) (order : engine ≤ index)
    (room : index < engine + n)
    : index + numFrag < engine + n := by
  obtain ⟨gap, rfl⟩ := Nat.exists_eq_add_of_le order
  have pos : 0 < n := by omega
  have low := Nat.mod_lt engine pos
  have reduced : (engine % n + gap + 1) % n = (engine + gap + 1) % n := by
    rw [Nat.add_assoc, Ring.advance, ← Nat.add_assoc]
  rw [← reduced] at ahead
  -- The pointers' difference, with the wrap that the driver adds to a negative one.
  have avail : engine % n < wr ∧ numFrag + wr ≤ n + engine % n
      ∨ wr ≤ engine % n ∧ numFrag + wr ≤ engine % n := by
    simp only [axienetCheckPmSpace, decide_eq_true_eq] at space
    generalize engine % n = at' at *
    split at space <;> omega
  have wrapped : wr % n = wr ∧ wr < n ∨ wr = n ∧ wr % n = 0 := by
    rcases Nat.lt_or_eq_of_le le with below | rfl
    · exact Or.inl ⟨Nat.mod_eq_of_lt below, below⟩
    · exact Or.inr ⟨rfl, Nat.mod_self wr⟩
  rcases Nat.lt_or_ge (engine % n + gap + 1) n with early | late
  · rw [Nat.mod_eq_of_lt early] at ahead
    omega
  · rw [Nat.mod_eq_sub_mod late,
      Nat.mod_eq_of_lt (by omega : engine % n + gap + 1 - n < n)] at ahead
    omega

theorem RaceInv.xmit (inv : RaceInv n s ent pub vis rd) (pow : n = 2 ^ k) {skb : SkBuff}
    {writes : List TxWrite} (idle : s.tx = [])
    (accept : xmitAccept n s.ring skb = some writes) (room : HasRoom n s.ring skb)
    : RaceInv n { s with queued := s.queued ++ [skb], tx := writes } ent pub vis rd := by
  obtain ⟨space, notFull, phys, mapped, rfl⟩ := xmitAccept_cases accept
  obtain ⟨rfl, rfl, rfl⟩ := inv.total idle
  have tailRoom := inv.tailRoom
  have engineRoom := inv.engineRoom
  have order := inv.doneCounted
  have order' := inv.countedFetched
  have order'' := inv.fetchedVis
  have engine := inv.fetchedRd
  have grown : ({ s with queued := s.queued ++ [skb], tx := txWrites n skb phys (pmWr s.ring.pm) }
      : StreamRace).descs
      = s.descs ++ skb.descs := by
    simp [StreamSys.descs]
  have size := skb.descs_length
  have fits := room (by rw [mapped]; rfl) space
  rw [inv.used] at fits
  have unfull : s.descs.length + (skb.frags.length + 1) ≠ s.done.length + n := by
    intro full
    apply notFull
    rw [inv.head, inv.tail, Ring.advance, full, Nat.add_mod_right]
  have free := pmSpace_room (inv.engineRd ▸ space) inv.engineWr inv.engineWrLe (by omega)
    engineRoom
  have same : ∀ i, i < s.descs.length → (s.descs ++ skb.descs)[i]? = s.descs[i]? := by
    intro i bound
    exact List.getElem?_append_left bound
  refine { inv with
    tailRoom := ?_
    engineRoom := ?_
    bds := ?_
    alms := ?_
    plan := ?_
    fetchedWords := ?_
    doneBds := ?_ }
  · simp only [grown, List.length_append]
    omega
  · simp only [grown, List.length_append]
    omega
  · rw [grown]
    refine inv.bds.imp (Nat.le_refl _) (Nat.le_refl _) ?_
    rintro i bd - bound ⟨desc, found, rfl⟩
    exact ⟨desc, (same i bound).trans found, rfl⟩
  · rw [grown]
    refine inv.alms.imp (by simp only [List.length_append]; omega) (Nat.le_refl _) ?_
    intro i entry _ bound right desc found
    obtain ⟨addr, cfg⟩ := right desc ((same i bound).symm.trans found)
    exact ⟨fun _ => addr (by simp [idle]), fun _ => cfg (by simp [idle])⟩
  · rw [grown]
    exact txWrites_plan pow mapped inv.engineWr
  · rw [grown, List.take_append_of_le_length (by simpa using order'')]
    exact inv.fetchedWords
  · rw [grown, List.take_append_of_le_length (by simp only; omega)]
    exact inv.doneBds

/-- The state after the transmit holding the lock has made its next store. -/
def StreamRace.stored (n : Nat) (s : StreamRace) (write : TxWrite) (rest : List TxWrite)
    : StreamRace :=
  { s with ring := s.ring.store n write, tx := rest }

@[simp] theorem StreamRace.stored_tx (write : TxWrite) (rest : List TxWrite)
    : (s.stored n write rest).tx = rest := rfl

@[simp] theorem StreamRace.stored_fetched (write : TxWrite) (rest : List TxWrite)
    : (s.stored n write rest).fetched = s.fetched := rfl

/-- A store of no address-length word of a slot leaves it as right as it was. -/
theorem AlmRight.drop {descs : List Desc} {count i : Nat} {entry : AlmEntry} {write : TxWrite}
    {rest : List TxWrite} (right : AlmRight n descs count (write :: rest) i entry)
    (noAddr : ∀ addr, write ≠ .almAddr (i % n) addr)
    (noCfg : ∀ cfg, write ≠ .almCfg (i % n) cfg)
    : AlmRight n descs count rest i entry := by
  intro desc found
  obtain ⟨addr, cfg⟩ := right desc found
  constructor
  · intro settled
    apply addr
    intro value member
    rcases List.mem_cons.mp member with same | later
    · exact noAddr _ same.symm
    · exact settled value later
  · intro settled
    apply cfg
    intro value member
    rcases List.mem_cons.mp member with same | later
    · exact noCfg _ same.symm
    · exact settled value later

theorem RaceInv.storeTxBd (inv : RaceInv n s ent pub vis rd) {bd : AxitadmaBd}
    {rest : List TxWrite} (next : s.tx = .txBd bd :: rest)
    : RaceInv n (s.stored n (.txBd bd) rest) (ent + 1) pub vis rd := by
  have plan := inv.plan
  rw [next] at plan
  obtain ⟨rfl, ⟨desc, found, rfl⟩, later⟩ := plan
  have within := (List.getElem?_eq_some_iff.mp found).1
  have tailRoom := inv.tailRoom
  have := inv.doneCounted
  have := inv.countedFetched
  have := inv.fetchedVis
  have := inv.visPub
  refine { inv with
    bds := ?_
    alms := ?_
    plan := later }
  · have pushed := inv.bds.push (by omega) (by omega) (x := some desc.1) ⟨desc, found, rfl⟩
    rwa [← inv.head] at pushed
  · refine inv.alms.imp (Nat.le_refl _) (Nat.le_refl _) ?_
    intro i entry _ _ right
    rw [next] at right
    exact right.drop (by simp) (by simp)

/-- Publishing a slot keeps the invariant while the interrupt holds no cleared word of it:
the slot's words are still to be stored.
-/
theorem RaceInv.storeTxBdHead (inv : RaceInv n s ent pub vis rd) {rest : List TxWrite}
    (next : s.tx = .txBdHead :: rest)
    (apart : s.irq.holdsClear → s.ring.txBdRd ≠ s.ring.txBdHead)
    : RaceInv n (s.stored n .txBdHead rest) ent (pub + 1) vis rd := by
  have plan := inv.plan
  rw [next] at plan
  obtain ⟨rfl, ⟨addr, addrLater⟩, ⟨cfg, cfgLater⟩, later⟩ := plan
  refine { inv with
    head := ?_
    visPub := Nat.le_succ_of_le inv.visPub
    alms := ?_
    plan := later
    irq := ?_ }
  · simp only [StreamRace.stored, StreamRing.store, inv.head]
    exact Ring.advance pub 1
  · intro i low high
    by_cases new : i = pub
    · subst new
      intro desc found
      exact ⟨fun settled => absurd addrLater (settled addr),
        fun settled => absurd cfgLater (settled cfg)⟩
    · have right := inv.alms i low (by omega)
      rw [next] at right
      exact right.drop (by simp) (by simp)
  · have before := inv.irq
    unfold IrqRight at before ⊢
    simp only [StreamRace.stored]
    cases position : s.irq with
    | test cnt word =>
        rw [position] at before
        refine ⟨before.1, ?_⟩
        intro clear
        rcases before.2 clear with fetched | last
        · exact Or.inl fetched
        · have holds : s.irq.holdsClear = true := by
            rw [position]
            exact decide_eq_true clear
          exact absurd (inv.rd_eq_head_iff.mpr last) (apart holds)
    | _ => simpa only [position] using before

theorem RaceInv.storeAlmAddr (inv : RaceInv n s ent pub vis rd) {slot : Nat} {addr : U32}
    {rest : List TxWrite} (next : s.tx = .almAddr slot addr :: rest)
    : RaceInv n (s.stored n (.almAddr slot addr) rest) ent pub vis rd := by
  have plan := inv.plan
  have engineRoom := inv.engineRoom
  have fetched := inv.fetchedRd
  have order := inv.fetchedVis
  have entries := inv.entries
  rw [next] at plan
  obtain ⟨rfl, ⟨j, desc, low, high, rfl, found, rfl⟩, later⟩ := plan
  refine { inv with
    alms := ?_
    plan := later }
  refine inv.alms.set (by omega) (j := j) (by omega) high ?_ ?_
  · intro other found'
    obtain rfl : desc = other := Option.some.inj (found.symm.trans found')
    have right := inv.alms j (by omega) high desc found
    refine ⟨fun _ => rfl, ?_⟩
    intro settled
    apply right.2
    simpa [next] using settled
  · intro i entry low' high' differ right
    have apart : j % n ≠ i % n := by
      intro clash
      exact differ (Ring.slot_inj low' (by omega) (by omega) (by omega) clash.symm)
    rw [next] at right
    exact right.drop (by simp [apart]) (by simp)

theorem RaceInv.storeAlmCfg (inv : RaceInv n s ent pub vis rd) {slot : Nat} {cfg : U32}
    {rest : List TxWrite} (next : s.tx = .almCfg slot cfg :: rest)
    : RaceInv n (s.stored n (.almCfg slot cfg) rest) ent pub vis rd := by
  have plan := inv.plan
  have engineRoom := inv.engineRoom
  have fetched := inv.fetchedRd
  have order := inv.fetchedVis
  have entries := inv.entries
  rw [next] at plan
  obtain ⟨rfl, ⟨j, desc, low, high, rfl, found, rfl⟩, later⟩ := plan
  refine { inv with
    alms := ?_
    plan := later }
  refine inv.alms.set (by omega) (j := j) (by omega) high ?_ ?_
  · intro other found'
    obtain rfl : desc = other := Option.some.inj (found.symm.trans found')
    have right := inv.alms j (by omega) high desc found
    refine ⟨?_, ?_⟩
    · intro settled
      apply right.1
      simpa [next] using settled
    · -- The engine has not reached this slot: its descriptor is not visible yet.
      intro _
      rw [StreamRace.stored_fetched, if_neg (by omega)]
  · intro i entry low' high' differ right
    have apart : j % n ≠ i % n := by
      intro clash
      exact differ (Ring.slot_inj low' (by omega) (by omega) (by omega) clash.symm)
    rw [next] at right
    exact right.drop (by simp) (by simp [apart])

theorem RaceInv.storePmWr (inv : RaceInv n s ent pub vis rd) (small : n ≤ 256) {wr : Nat}
    {rest : List TxWrite} (next : s.tx = .pmWr wr :: rest)
    : RaceInv n (s.stored n (.pmWr wr) rest) ent pub s.descs.length rd := by
  have plan := inv.plan
  have engineRoom := inv.engineRoom
  have fetched := inv.fetchedRd
  have order := inv.fetchedVis
  have order' := inv.visPub
  rw [next] at plan
  obtain ⟨rfl, rfl, rfl, rfl⟩ := plan
  have bound := Nat.mod_lt (s.descs.length + 1) (by omega : 0 < n)
  have byte : (s.descs.length + 1) % n < 256 := by omega
  refine { inv with
    engineRd := ?_
    engineWr := ?_
    engineWrLe := ?_
    fetchedVis := Nat.le_trans order order'
    visPub := Nat.le_refl _
    alms := ?_
    plan := ⟨rfl, rfl, rfl⟩ }
  · exact (pmRd_setPmWr byte).trans inv.engineRd
  · exact (congrArg (· % n) (pmWr_setPmWr byte)).trans (Nat.mod_mod _ _)
  · exact (pmWr_setPmWr byte).le.trans bound.le
  · refine inv.alms.imp (Nat.le_refl _) (Nat.le_refl _) ?_
    intro i entry _ _ right
    rw [next] at right
    exact right.drop (by simp) (by simp)

end TsnTrdp.Tadma
