import TsnTrdp.Lib.Field
import TsnTrdp.Lib.Run

/-! The multicast filter of the MAC: a bit that lets everything pass, and a table of four addresses.
Each branch of `axienet_set_multicast_list` updates one of the two and leaves the other as an
earlier branch made it, and the option word of a reset rewrites the bit.
-/

namespace TsnTrdp.Mac.Multicast

open TsnTrdp.Run TsnTrdp.Field

abbrev U8 : Type := BitVec 8
abbrev U32 : Type := BitVec 32

def xaeFmcPmMask : U32 := 0x80000000
def xaeFmcIndMask : U32 := 0x00000003
def xaeMulticastCamTableNum : Nat := 4

def xaeOptionPromisc : U32 := 1#32
def xaeOptionFlowControl : U32 := 1#32 <<< 4
def xaeOptionTxen : U32 := 1#32 <<< 11
def xaeOptionRxen : U32 := 1#32 <<< 12
def xaeOptionDefaults : U32 := xaeOptionTxen ||| xaeOptionFlowControl ||| xaeOptionRxen

-----------------------------------------------------------------------------------------
-- The filter
-----------------------------------------------------------------------------------------

/-- The frame filter control register, and the two address registers of each table entry. -/
structure FilterRegs where
  fmc : U32
  af : Fin 4 → U32 × U32

/-- The entry that the control register selects. -/
def FilterRegs.index (regs : FilterRegs) : Fin 4 :=
  ⟨regs.fmc.toNat % 4, Nat.mod_lt _ (by decide)⟩

def iowFmc (reg : U32) (regs : FilterRegs) : FilterRegs := { regs with fmc := reg }

def iowAf0 (reg : U32) (regs : FilterRegs) : FilterRegs :=
  { regs with af := Function.update regs.af regs.index (reg, (regs.af regs.index).2) }

def iowAf1 (reg : U32) (regs : FilterRegs) : FilterRegs :=
  { regs with af := Function.update regs.af regs.index ((regs.af regs.index).1, reg) }

/-- The octets of an address. -/
@[ext]
structure MacAddr where
  octet0 : U8
  octet1 : U8
  octet2 : U8
  octet3 : U8
  octet4 : U8
  octet5 : U8
  deriving DecidableEq

/-- The group bit. -/
def MacAddr.IsGroup (m : MacAddr) : Prop := m.octet0.getLsbD 0 = true

instance (m : MacAddr) : Decidable m.IsGroup := inferInstanceAs (Decidable (_ = _))

def af0reg (addr : MacAddr) : U32 :=
  addr.octet0.setWidth 32 ||| (addr.octet1.setWidth 32 <<< 8) ||| (addr.octet2.setWidth 32 <<< 16)
    ||| (addr.octet3.setWidth 32 <<< 24)

def af1reg (addr : MacAddr) : U32 := addr.octet4.setWidth 32 ||| (addr.octet5.setWidth 32 <<< 8)

/-- An address as the filter holds it. -/
def afOf (addr : MacAddr) : U32 × U32 := (af0reg addr, af1reg addr)

/-- The filter lets everything pass. -/
def FilterRegs.Promiscuous (regs : FilterRegs) : Prop := regs.fmc &&& xaeFmcPmMask ≠ 0

instance (regs : FilterRegs) : Decidable regs.Promiscuous :=
  inferInstanceAs (Decidable (_ ≠ _))

/-- A frame to this address passes the filter. -/
def FilterRegs.Accepts (regs : FilterRegs) (m : MacAddr) : Prop :=
  regs.Promiscuous ∨ ∃ i, regs.af i = afOf m

-----------------------------------------------------------------------------------------
-- The device and the driver
-----------------------------------------------------------------------------------------

/-- `struct net_device`: the two flags, how often they are asked for, and the list. -/
structure NetDevice where
  iffPromisc : Bool
  iffAllmulti : Bool
  promiscuity : Nat
  allmulti : Nat
  mc : List MacAddr

/-- What the kernel does to the device. -/
inductive RxChange
  | mc (list : List MacAddr)
  | promiscuity (more : Bool)
  | allmulti (more : Bool)

/-- The kernel asks for a flag, or asks once less; it clears the flag as the last request goes. -/
def countFlag (more : Bool) (count : Nat) (flag : Bool) : Nat × Bool :=
  match more, count with
  | true, count => (count + 1, true)
  | false, 0 => (0, flag)
  | false, 1 => (0, false)
  | false, count + 2 => (count + 1, true)

def NetDevice.change (ndev : NetDevice) : RxChange → NetDevice
  | .mc list => { ndev with mc := list }
  | .promiscuity more =>
      let (promiscuity, iffPromisc) := countFlag more ndev.promiscuity ndev.iffPromisc
      { ndev with promiscuity, iffPromisc }
  | .allmulti more =>
      let (allmulti, iffAllmulti) := countFlag more ndev.allmulti ndev.iffAllmulti
      { ndev with allmulti, iffAllmulti }

/-- `axienet_set_multicast_list` is to turn the filter off. -/
def NetDevice.Floods (ndev : NetDevice) : Prop :=
  ndev.iffAllmulti ∨ ndev.iffPromisc ∨ ndev.mc.length > xaeMulticastCamTableNum

instance (ndev : NetDevice) : Decidable ndev.Floods := inferInstanceAs (Decidable (_ ∨ _))

/-- `axienet_set_multicast_list`: one round of the loop over the list. -/
def setEntry (regs : FilterRegs) (entry : (U32 × U32) × Nat) : FilterRegs :=
  let regs := iowFmc ((regs.fmc &&& 0xFFFFFF00) ||| BitVec.ofNat 32 entry.2) regs
  iowAf1 entry.1.2 (iowAf0 entry.1.1 regs)

/-- `axienet_set_multicast_list`, on a 1G MAC that has its buffer. -/
def axienetSetMulticastList (ndev : NetDevice) (regs : FilterRegs) : NetDevice × FilterRegs :=
  if ndev.Floods then
    ({ ndev with iffPromisc := true }, iowFmc (regs.fmc ||| xaeFmcPmMask) regs)
  else if ndev.mc ≠ [] then
    (ndev, ((ndev.mc.take xaeMulticastCamTableNum).map afOf).zipIdx.foldl setEntry regs)
  else
    (ndev, ((List.replicate xaeMulticastCamTableNum (0, 0)).zipIdx.foldl setEntry
      (iowFmc (regs.fmc &&& ~~~xaeFmcPmMask) regs)))

/-- `axienet_setoptions`: the one option of the table that concerns the filter. -/
def axienetSetoptions (options : U32) (regs : FilterRegs) : FilterRegs :=
  let reg := regs.fmc &&& ~~~xaeFmcPmMask
  iowFmc (if options &&& xaeOptionPromisc ≠ 0 then reg ||| xaeFmcPmMask else reg) regs

/-- The device with `lp->options` and its filter. -/
structure FilterSys where
  ndev : NetDevice
  options : U32
  regs : FilterRegs

/-- What happens: the kernel has changed the device and has the list set, or the device is reset,
with its MAC or not.
-/
inductive FilterEvent
  | setRxMode (changes : List RxChange)
  | reset (withMac : Bool)

/-- One step. -/
def filterStep (s : FilterSys) : FilterEvent → FilterSys
  | .setRxMode changes =>
      let (ndev, regs) := axienetSetMulticastList (changes.foldl NetDevice.change s.ndev) s.regs
      { s with ndev, regs }
  | .reset withMac =>
      let regs : FilterRegs := if withMac then ⟨0, fun _ => (0, 0)⟩ else s.regs
      let regs := axienetSetoptions (s.options &&& ~~~(xaeOptionTxen ||| xaeOptionRxen)) regs
      let (ndev, regs) := axienetSetMulticastList s.ndev regs
      { s with ndev, regs := axienetSetoptions s.options regs }

/-- Everything is to pass. -/
def NetDevice.WantsAll (ndev : NetDevice) : Prop :=
  0 < ndev.promiscuity ∨ 0 < ndev.allmulti ∨ ndev.mc.length > 4

instance (ndev : NetDevice) : Decidable ndev.WantsAll := inferInstanceAs (Decidable (_ ∨ _))

/-- The filter lets those multicast addresses pass that the device wants. -/
def Follows (s : FilterSys) : Prop :=
  ∀ m : MacAddr, m.IsGroup → (s.regs.Accepts m ↔ m ∈ s.ndev.mc ∨ s.ndev.WantsAll)

/-- The entries that a list of these addresses leaves as they are have no other group address. -/
def FilterRegs.LeftIn (regs : FilterRegs) (mc : List MacAddr) : Prop :=
  ∀ i : Fin 4, mc.length ≤ i.val → ∀ m : MacAddr, m.IsGroup → regs.af i = afOf m → m ∈ mc

/-- A call that turns the filter off is one for which everything is to pass; one that sets a list
finds the filter on, and nothing in the entries behind the list but what the list has. A reset finds
the filter off only if the options say so, and a list like that of a call.
-/
def FilterFits (s : FilterSys) : FilterEvent → Prop
  | .setRxMode changes =>
      let ndev := changes.foldl NetDevice.change s.ndev
      (ndev.Floods → ndev.WantsAll)
        ∧ (ndev.Floods ∨ ndev.mc = [] ∨ ¬ s.regs.Promiscuous ∧ s.regs.LeftIn ndev.mc)
  | .reset withMac =>
      let regs : FilterRegs := if withMac then ⟨0, fun _ => (0, 0)⟩ else s.regs
      (s.options &&& xaeOptionPromisc ≠ 0 ↔ s.ndev.Floods)
        ∧ (s.ndev.Floods ∨ s.ndev.mc = [] ∨ regs.LeftIn s.ndev.mc)

-----------------------------------------------------------------------------------------
-- Addresses and entries
-----------------------------------------------------------------------------------------

theorem octets_afOf (m : MacAddr)
    : (af0reg m).setWidth 8 = m.octet0 ∧ (af0reg m >>> 8).setWidth 8 = m.octet1
      ∧ (af0reg m >>> 16).setWidth 8 = m.octet2 ∧ (af0reg m >>> 24).setWidth 8 = m.octet3
      ∧ (af1reg m).setWidth 8 = m.octet4 ∧ (af1reg m >>> 8).setWidth 8 = m.octet5 := by
  refine ⟨?_, ?_, ?_, ?_, ?_, ?_⟩
  all_goals
    apply BitVec.eq_of_getLsbD_eq
    intro i within
    interval_cases i <;> simp [af0reg, af1reg]

theorem afOf_injective : Function.Injective afOf := by
  intro m m' same
  obtain ⟨first, second⟩ := Prod.mk.inj same
  obtain ⟨m0, m1, m2, m3, m4, m5⟩ := octets_afOf m
  obtain ⟨n0, n1, n2, n3, n4, n5⟩ := octets_afOf m'
  apply MacAddr.ext
  · exact m0.symm.trans (first ▸ n0)
  · exact m1.symm.trans (first ▸ n1)
  · exact m2.symm.trans (first ▸ n2)
  · exact m3.symm.trans (first ▸ n3)
  · exact m4.symm.trans (second ▸ n4)
  · exact m5.symm.trans (second ▸ n5)

/-- No group address is held by an empty entry. -/
theorem afOf_ne_zero {m : MacAddr} (group : m.IsGroup) : afOf m ≠ (0, 0) := by
  intro zero
  have first := (octets_afOf m).1
  rw [(Prod.mk.inj zero).1] at first
  rw [MacAddr.IsGroup, ← first] at group
  revert group
  decide

/-- Five group addresses. -/
def groupAddr (k : Fin 5) : MacAddr := ⟨0x01, 0x00, 0x5e, 0x00, 0x00, BitVec.ofNat 8 k⟩

theorem exists_group_not_mem (entries : List (U32 × U32)) (short : entries.length ≤ 4)
    : ∃ m : MacAddr, m.IsGroup ∧ afOf m ∉ entries := by
  by_contra! all
  have distinct : ((List.finRange 5).map fun k => afOf (groupAddr k)).Nodup := by
    decide
  have within : ((List.finRange 5).map fun k => afOf (groupAddr k)) ⊆ entries := by
    intro entry member
    obtain ⟨k, -, rfl⟩ := List.mem_map.mp member
    exact all (groupAddr k) (by revert k; decide)
  have long := (List.subperm_of_subset distinct within).length_le
  rw [List.length_map, List.length_finRange] at long
  omega

-----------------------------------------------------------------------------------------
-- What a call does to the filter
-----------------------------------------------------------------------------------------

variable {regs regs' : FilterRegs} {s : FilterSys}

/-- A round of the loop writes its entry, and leaves the bit and the other entries. -/
theorem setEntry_spec (regs : FilterRegs) (entry : U32 × U32) (k : Fin 4)
    : ((setEntry regs (entry, k)).Promiscuous ↔ regs.Promiscuous)
      ∧ (setEntry regs (entry, k)).af = Function.update regs.af k entry := by
  have high : ∀ k : Fin 4, Field.Disjoint (BitVec.ofNat 32 k) xaeFmcPmMask := by decide
  have low : ∀ k : Fin 4, BitVec.ofNat 32 k &&& xaeFmcIndMask = BitVec.ofNat 32 k := by decide
  have apart : Field.Disjoint (regs.fmc &&& 0xFFFFFF00 : U32) xaeFmcIndMask :=
    masked_disjoint (by decide)
  let selected : FilterRegs := iowFmc ((regs.fmc &&& 0xFFFFFF00) ||| BitVec.ofNat 32 k) regs
  have index : selected.index = k := by
    have masked : selected.fmc &&& xaeFmcIndMask = BitVec.ofNat 32 k := by
      change ((regs.fmc &&& 0xFFFFFF00) ||| BitVec.ofNat 32 k) &&& xaeFmcIndMask = _
      rw [BitVec.or_comm, or_and apart, low]
    have value := congrArg BitVec.toNat masked
    rw [BitVec.toNat_and, BitVec.toNat_ofNat, Nat.mod_eq_of_lt (by omega)] at value
    refine Fin.ext (Eq.trans ?_ value)
    exact (Nat.and_two_pow_sub_one_eq_mod _ 2).symm
  have written : (setEntry regs (entry, k)).af = Function.update regs.af k entry := by
    change (iowAf1 entry.2 (iowAf0 entry.1 selected)).af = _
    have still : (iowAf0 entry.1 selected).index = k := index
    unfold iowAf1
    rw [still]
    unfold iowAf0
    rw [index]
    dsimp only
    rw [Function.update_self, Function.update_idem]
    rfl
  refine ⟨?_, written⟩
  have kept : (setEntry regs (entry, k)).fmc &&& xaeFmcPmMask = regs.fmc &&& xaeFmcPmMask := by
    change ((regs.fmc &&& 0xFFFFFF00) ||| BitVec.ofNat 32 k) &&& xaeFmcPmMask = _
    rw [or_and (high k), BitVec.and_assoc]
    rfl
  rw [FilterRegs.Promiscuous, kept, FilterRegs.Promiscuous]

/-- The loop writes the entries of the list from the first on. Induction on the list. -/
theorem foldl_setEntry (entries : List (U32 × U32)) (first : Nat)
    (short : first + entries.length ≤ 4) (regs : FilterRegs)
    : (((entries.zipIdx first).foldl setEntry regs).Promiscuous ↔ regs.Promiscuous)
      ∧ ∀ i : Fin 4, ((entries.zipIdx first).foldl setEntry regs).af i
        = if first ≤ i.val then (entries[i.val - first]?).getD (regs.af i) else regs.af i := by
  induction entries generalizing first regs with
  | nil => simp
  | cons entry rest ih =>
      rw [List.length_cons] at short
      rw [List.zipIdx_cons, List.foldl_cons]
      obtain ⟨same, written⟩ := setEntry_spec regs entry ⟨first, by omega⟩
      obtain ⟨restSame, restWritten⟩ := ih (first + 1) (by omega)
        (setEntry regs (entry, first))
      refine ⟨restSame.trans same, fun i => ?_⟩
      rw [restWritten, written]
      by_cases here : i.val = first
      · have eq : i = ⟨first, by omega⟩ := Fin.ext here
        simp [eq]
      · rw [Function.update_of_ne (fun eq => here (congrArg Fin.val eq))]
        by_cases after : first + 1 ≤ i.val
        · have behind : i.val - first = i.val - (first + 1) + 1 := by omega
          rw [if_pos after, if_pos (by omega), behind, List.getElem?_cons_succ]
        · rw [if_neg after, if_neg (by omega)]

/-- The first branch turns the filter off and notes that in the flags. -/
theorem axienetSetMulticastList_floods {ndev : NetDevice} (floods : ndev.Floods)
    (regs : FilterRegs)
    : (axienetSetMulticastList ndev regs).1 = { ndev with iffPromisc := true }
      ∧ (axienetSetMulticastList ndev regs).2.Promiscuous
      ∧ (axienetSetMulticastList ndev regs).2.af = regs.af := by
  have off : (regs.fmc ||| xaeFmcPmMask) &&& xaeFmcPmMask ≠ 0 := by
    rw [or_and_self]
    decide
  rw [axienetSetMulticastList, if_pos floods]
  exact ⟨rfl, off, rfl⟩

/-- The second branch writes the list to the table, and leaves the bit and the entries behind it. -/
theorem axienetSetMulticastList_list {ndev : NetDevice} (calm : ¬ ndev.Floods)
    (some : ndev.mc ≠ []) (regs : FilterRegs)
    : (axienetSetMulticastList ndev regs).1 = ndev
      ∧ ((axienetSetMulticastList ndev regs).2.Promiscuous ↔ regs.Promiscuous)
      ∧ ∀ i : Fin 4, (axienetSetMulticastList ndev regs).2.af i
        = ((ndev.mc.map afOf)[i.val]?).getD (regs.af i) := by
  have short : ndev.mc.length ≤ 4 := not_lt.mp fun long => calm (.inr (.inr long))
  have whole : ndev.mc.take xaeMulticastCamTableNum = ndev.mc := List.take_of_length_le short
  obtain ⟨same, written⟩ :=
    foldl_setEntry (ndev.mc.map afOf) 0 (by simpa using short) regs
  rw [axienetSetMulticastList, if_neg calm, if_pos some, whole]
  exact ⟨rfl, same, fun i => (written i).trans (if_pos (Nat.zero_le _))⟩

/-- The third branch turns the filter on and empties the table. -/
theorem axienetSetMulticastList_empty {ndev : NetDevice} (calm : ¬ ndev.Floods)
    (empty : ndev.mc = []) (regs : FilterRegs)
    : (axienetSetMulticastList ndev regs).1 = ndev
      ∧ ¬ (axienetSetMulticastList ndev regs).2.Promiscuous
      ∧ ∀ i : Fin 4, (axienetSetMulticastList ndev regs).2.af i = (0, 0) := by
  have on : ¬ (iowFmc (regs.fmc &&& ~~~xaeFmcPmMask) regs).Promiscuous :=
    not_not_intro clear_and_self
  obtain ⟨same, written⟩ :=
    foldl_setEntry (List.replicate 4 ((0, 0) : U32 × U32)) 0 (by decide)
      (iowFmc (regs.fmc &&& ~~~xaeFmcPmMask) regs)
  rw [axienetSetMulticastList, if_neg calm, if_neg (not_not_intro empty)]
  refine ⟨rfl, mt same.mp on, fun i => (written i).trans ?_⟩
  rw [if_pos (Nat.zero_le _), List.getElem?_replicate]
  simp

/-- The options rewrite the bit, and nothing else of the filter. -/
theorem axienetSetoptions_spec (options : U32) (regs : FilterRegs)
    : ((axienetSetoptions options regs).Promiscuous ↔ options &&& xaeOptionPromisc ≠ 0)
      ∧ (axienetSetoptions options regs).af = regs.af := by
  refine ⟨?_, rfl⟩
  unfold axienetSetoptions
  split
  · rename_i set
    refine iff_of_true ?_ set
    change (_ ||| xaeFmcPmMask) &&& xaeFmcPmMask ≠ 0
    rw [or_and_self]
    decide
  · rename_i clear
    exact iff_of_false (not_not_intro clear_and_self) clear

-----------------------------------------------------------------------------------------
-- When the filter follows
-----------------------------------------------------------------------------------------

/-- No list that the table could hold has all group addresses. -/
theorem exists_group_beyond {mc : List MacAddr} (short : mc.length ≤ 4)
    : ∃ m : MacAddr, m.IsGroup ∧ m ∉ mc := by
  obtain ⟨m, group, absent⟩ := exists_group_not_mem (mc.map afOf) (by simpa using short)
  exact ⟨m, group, fun member => absent (List.mem_map_of_mem member)⟩

/-- With the filter off, everything is to pass. -/
theorem follows_iff_of_promiscuous (off : s.regs.Promiscuous) : Follows s ↔ s.ndev.WantsAll := by
  constructor
  · intro follows
    by_contra few
    have short : s.ndev.mc.length ≤ 4 := not_lt.mp fun long => few (.inr (.inr long))
    obtain ⟨m, group, absent⟩ := exists_group_beyond short
    exact ((follows m group).mp (.inl off)).elim absent few
  · intro all m group
    exact iff_of_true (.inl off) (.inr all)

/-- With the filter on, not everything is to pass, and the table has what is. -/
theorem follows_iff_of_not_promiscuous (on : ¬ s.regs.Promiscuous)
    : Follows s ↔ ¬ s.ndev.WantsAll
        ∧ ∀ m : MacAddr, m.IsGroup → ((∃ i, s.regs.af i = afOf m) ↔ m ∈ s.ndev.mc) := by
  constructor
  · intro follows
    have few : ¬ s.ndev.WantsAll := by
      intro all
      obtain ⟨m, group, absent⟩ :=
        exists_group_not_mem (List.ofFn s.regs.af) (by simp)
      obtain ⟨i, held⟩ := ((follows m group).mpr (.inr all)).resolve_left on
      exact absent (held ▸ List.mem_ofFn.mpr ⟨i, rfl⟩)
    refine ⟨few, fun m group => ?_⟩
    exact ⟨fun held => ((follows m group).mp (.inr held)).resolve_right few,
      fun member => ((follows m group).mpr (.inl member)).resolve_left on⟩
  · rintro ⟨few, held⟩ m group
    exact ⟨fun accepts => .inl ((held m group).mp (accepts.resolve_left on)),
      fun wanted => .inr ((held m group).mpr (wanted.resolve_right few))⟩

/-- The flags are set while the kernel asks for them; that for everything may be set beyond that. -/
structure NetDevice.Asked (ndev : NetDevice) : Prop where
  promiscuity : 0 < ndev.promiscuity → ndev.iffPromisc = true
  allmulti : 0 < ndev.allmulti ↔ ndev.iffAllmulti = true

theorem countFlag_asked (more : Bool) {count : Nat} {flag : Bool} (asked : 0 < count → flag = true)
    : 0 < (countFlag more count flag).1 → (countFlag more count flag).2 = true := by
  unfold countFlag
  split <;> simp_all

theorem countFlag_asked_iff (more : Bool) {count : Nat} {flag : Bool}
    (asked : 0 < count ↔ flag = true)
    : 0 < (countFlag more count flag).1 ↔ (countFlag more count flag).2 = true := by
  unfold countFlag
  split <;> simp_all

theorem NetDevice.Asked.change {ndev : NetDevice} (asked : ndev.Asked) (change : RxChange)
    : (ndev.change change).Asked := by
  cases change with
  | mc list => exact ⟨asked.promiscuity, asked.allmulti⟩
  | promiscuity more => exact ⟨countFlag_asked more asked.promiscuity, asked.allmulti⟩
  | allmulti more => exact ⟨asked.promiscuity, countFlag_asked_iff more asked.allmulti⟩

theorem NetDevice.Asked.changes {ndev : NetDevice} (asked : ndev.Asked) (changes : List RxChange)
    : (changes.foldl NetDevice.change ndev).Asked := by
  induction changes generalizing ndev with
  | nil => exact asked
  | cons change rest ih => exact ih (asked.change change)

theorem NetDevice.Asked.floods {ndev : NetDevice} (asked : ndev.Asked) (all : ndev.WantsAll)
    : ndev.Floods := by
  rcases all with promisc | multi | long
  · exact .inr (.inl (asked.promiscuity promisc))
  · exact .inl (asked.allmulti.mp multi)
  · exact .inr (.inr long)

/-- After a call for a list that fits, the table has the list and nothing else exactly if the
entries behind it have nothing else.
-/
theorem held_iff {ndev : NetDevice} (calm : ¬ ndev.Floods) (regs : FilterRegs)
    : (∀ m : MacAddr, m.IsGroup
          → ((∃ i, (axienetSetMulticastList ndev regs).2.af i = afOf m) ↔ m ∈ ndev.mc))
      ↔ ndev.mc = [] ∨ regs.LeftIn ndev.mc := by
  by_cases empty : ndev.mc = []
  · obtain ⟨-, -, zeros⟩ := axienetSetMulticastList_empty calm empty regs
    refine iff_of_true (fun m group => ?_) (.inl empty)
    rw [empty]
    refine iff_of_false ?_ List.not_mem_nil
    rintro ⟨i, held⟩
    exact afOf_ne_zero group (held.symm.trans (zeros i))
  · obtain ⟨-, -, written⟩ := axienetSetMulticastList_list calm empty regs
    rw [or_iff_right empty]
    constructor
    · intro held i behind m group old
      refine (held m group).mp ⟨i, ?_⟩
      rw [written, List.getElem?_eq_none (by simpa using behind)]
      exact old
    · intro left m group
      constructor
      · rintro ⟨i, held⟩
        rw [written] at held
        by_cases within : i.val < ndev.mc.length
        · rw [List.getElem?_eq_getElem (by simpa using within), List.getElem_map] at held
          exact afOf_injective held ▸ List.getElem_mem within
        · rw [List.getElem?_eq_none (by simpa using within)] at held
          exact left i (not_lt.mp within) m group held
      · intro member
        obtain ⟨k, within, rfl⟩ := List.getElem_of_mem member
        have short : ndev.mc.length ≤ 4 := not_lt.mp fun long => calm (.inr (.inr long))
        refine ⟨⟨k, by omega⟩, ?_⟩
        rw [written, List.getElem?_eq_getElem (by simpa using within), List.getElem_map]
        rfl

/-- What runs keep as long as the filter follows: the flags are as the kernel asks, and the driver
has set none that is not wanted any more.
-/
structure FilterInv (s : FilterSys) : Prop where
  asked : s.ndev.Asked
  wanted : s.ndev.Floods → s.ndev.WantsAll

/-- A call leaves the device as it is, but for the flag. -/
theorem axienetSetMulticastList_ndev (ndev : NetDevice) (regs : FilterRegs)
    : (axienetSetMulticastList ndev regs).1 = ndev
      ∨ ndev.Floods
        ∧ (axienetSetMulticastList ndev regs).1 = { ndev with iffPromisc := true } := by
  by_cases floods : ndev.Floods
  · exact .inr ⟨floods, (axienetSetMulticastList_floods floods regs).1⟩
  by_cases empty : ndev.mc = []
  · exact .inl (axienetSetMulticastList_empty floods empty regs).1
  · exact .inl (axienetSetMulticastList_list floods empty regs).1

theorem FilterInv.of_call {ndev : NetDevice} (asked : ndev.Asked)
    (wanted : ndev.Floods → ndev.WantsAll) (options : U32) (regs regs' : FilterRegs)
    : FilterInv ⟨(axienetSetMulticastList ndev regs).1, options, regs'⟩ := by
  rcases axienetSetMulticastList_ndev ndev regs with same | ⟨floods, set⟩
  · rw [same]
    exact ⟨asked, wanted⟩
  · rw [set]
    exact ⟨⟨fun _ => rfl, asked.allmulti⟩, fun _ => wanted floods⟩

theorem FilterInv.step (inv : FilterInv s) {event : FilterEvent} (fits : FilterFits s event)
    : FilterInv (filterStep s event) := by
  cases event with
  | setRxMode changes => exact .of_call (inv.asked.changes changes) fits.1 _ _ _
  | reset withMac => exact .of_call inv.asked inv.wanted _ _ _

/-- After a call the filter follows exactly if the step fits. -/
theorem follows_call (asked : s.ndev.Asked) (changes : List RxChange)
    : Follows (filterStep s (.setRxMode changes)) ↔ FilterFits s (.setRxMode changes) := by
  have asked := asked.changes changes
  simp only [filterStep, FilterFits]
  generalize changes.foldl NetDevice.change s.ndev = ndev at asked ⊢
  by_cases floods : ndev.Floods
  · obtain ⟨set, off, -⟩ := axienetSetMulticastList_floods floods s.regs
    rw [follows_iff_of_promiscuous off, set]
    simp only [floods, true_implies, true_or, and_true]
    exact Iff.rfl
  have few := mt asked.floods floods
  simp only [floods, false_implies, true_and, false_or]
  by_cases empty : ndev.mc = []
  · obtain ⟨same, on, -⟩ := axienetSetMulticastList_empty floods empty s.regs
    rw [follows_iff_of_not_promiscuous on, same]
    exact iff_of_true ⟨few, (held_iff floods s.regs).mpr (.inl empty)⟩ (.inl empty)
  · obtain ⟨same, kept, -⟩ := axienetSetMulticastList_list floods empty s.regs
    rw [or_iff_right empty]
    by_cases off : s.regs.Promiscuous
    · rw [follows_iff_of_promiscuous (kept.mpr off), same]
      exact iff_of_false few fun both => both.1 off
    · rw [follows_iff_of_not_promiscuous (mt kept.mp off), same]
      have held := (held_iff floods s.regs).trans (or_iff_right empty)
      exact ⟨fun follows => ⟨off, held.mp follows.2⟩, fun fits => ⟨few, held.mpr fits.2⟩⟩

/-- After a reset likewise, where the last word on the bit is that of the options. -/
theorem follows_reset (inv : FilterInv s) (withMac : Bool)
    : Follows (filterStep s (.reset withMac)) ↔ FilterFits s (.reset withMac) := by
  have floods : s.ndev.Floods ↔ s.ndev.WantsAll := ⟨inv.wanted, inv.asked.floods⟩
  simp only [filterStep, FilterFits]
  generalize (if withMac then ⟨0, fun _ => (0, 0)⟩ else s.regs : FilterRegs) = regs
  have left : (axienetSetoptions (s.options &&& ~~~(xaeOptionTxen ||| xaeOptionRxen))
      regs).LeftIn s.ndev.mc ↔ regs.LeftIn s.ndev.mc := Iff.rfl
  generalize axienetSetoptions (s.options &&& ~~~(xaeOptionTxen ||| xaeOptionRxen)) regs = regs'
    at left ⊢
  have device := axienetSetMulticastList_ndev s.ndev regs'
  have held := fun calm : ¬ s.ndev.Floods => held_iff calm regs'
  generalize axienetSetMulticastList s.ndev regs' = called at device held ⊢
  have wants : called.1.WantsAll ↔ s.ndev.WantsAll := by
    rcases device with same | ⟨-, set⟩
    · rw [same]
    · rw [set]
      exact Iff.rfl
  have list : called.1.mc = s.ndev.mc := by
    rcases device with same | ⟨-, set⟩
    · rw [same]
    · rw [set]
  obtain ⟨bit, table⟩ := axienetSetoptions_spec s.options called.2
  by_cases option : s.options &&& xaeOptionPromisc ≠ 0
  · rw [follows_iff_of_promiscuous (bit.mpr option)]
    rw [wants, ← floods]
    exact ⟨fun flooded => ⟨iff_of_true option flooded, .inl flooded⟩, fun fits => fits.1.mp option⟩
  · rw [follows_iff_of_not_promiscuous (mt bit.mp option)]
    simp only [wants, ← floods, option, false_iff, list, table]
    refine and_congr_right fun calm => ?_
    rw [held calm, left, or_iff_right calm]

/-- A device for which nothing is asked, with this list. -/
def FilterSys.opened (options : U32) (mc : List MacAddr) (regs : FilterRegs) : FilterSys where
  ndev := ⟨false, false, 0, 0, mc⟩
  options
  regs

/-- In every run the filter follows after each step exactly if all steps fit. -/
theorem multicast_filter_follows (options : U32) (mc : List MacAddr) (regs : FilterRegs)
    (events : List FilterEvent)
    : Along filterStep (fun s event => Follows (filterStep s event)) (.opened options mc regs)
        events
      ↔ Along filterStep FilterFits (.opened options mc regs) events := by
  have start : FilterInv (.opened options mc regs) := by
    refine ⟨⟨fun positive => absurd positive (lt_irrefl 0), ?_⟩, ?_⟩
    · exact iff_of_false (lt_irrefl 0) Bool.false_ne_true
    · intro floods
      rcases floods with multi | promisc | long
      · exact absurd multi Bool.false_ne_true
      · exact absurd promisc Bool.false_ne_true
      · exact .inr (.inr long)
  have keeps : ∀ s event, FilterInv s → FilterFits s event → FilterInv (filterStep s event) :=
    fun _ _ inv fits => inv.step fits
  have same : ∀ s event, FilterInv s → (Follows (filterStep s event) ↔ FilterFits s event) := by
    intro s event inv
    cases event with
    | setRxMode changes => exact follows_call inv.asked changes
    | reset withMac => exact follows_reset inv withMac
  exact Along.iff_of_invariant keeps same start events


/-- Of two groups the second is left again, and stays in the table. -/
theorem left_group_accepted
    : ¬ Along filterStep (fun s event => Follows (filterStep s event))
        (.opened xaeOptionDefaults [] ⟨0, fun _ => (0, 0)⟩)
        [.setRxMode [.mc [groupAddr 0, groupAddr 1]], .setRxMode [.mc [groupAddr 0]]] := by
  rintro ⟨-, follows, -⟩
  let regs : FilterRegs := ⟨0, fun _ => (0, 0)⟩
  let both : NetDevice := ⟨false, false, 0, 0, [groupAddr 0, groupAddr 1]⟩
  let one : NetDevice := ⟨false, false, 0, 0, [groupAddr 0]⟩
  have joined : (axienetSetMulticastList both regs).2.af 1 = afOf (groupAddr 1) :=
    (axienetSetMulticastList_list (by decide) (List.cons_ne_nil _ _) regs).2.2 1
  have left : (axienetSetMulticastList one (axienetSetMulticastList both regs).2).2.af 1
      = afOf (groupAddr 1) :=
    ((axienetSetMulticastList_list (by decide) (List.cons_ne_nil _ _) _).2.2 1).trans joined
  have wanted := (follows (groupAddr 1) (by decide)).mp (.inr ⟨1, left⟩)
  revert wanted
  decide

end TsnTrdp.Mac.Multicast
