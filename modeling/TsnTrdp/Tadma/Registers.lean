import TsnTrdp.Lib.Field

/-! Registers and memories of the time-aware DMA engine: the pointer memory word of one
stream, the address-length entries of its slots and the stream fetch entries.
-/

namespace TsnTrdp.Tadma

open TsnTrdp

abbrev U32 := BitVec 32

def xtadmaUsfmOffset : Nat := 0x1000
def xtadmaLsfmOffset : Nat := 0x2000
def xtadmaAlmOffset : Nat := 0x40000

def xtadmaPmRdMask : U32 := 0xFF
def xtadmaPmWrMask : U32 := 0xFF0000
def xtadmaPmWrShift : Nat := 16

def xtadmaSchedEnable : U32 := 1 <<< 4
def xtadmaCfgDone : U32 := 1 <<< 0
def xtadmaIeIntEn : U32 := 1 <<< 11
def xtadmaFfiIntEn : U32 := 1 <<< 0

def xtadmaStrIdShift : Nat := 0
def xtadmaStrIdMask : U32 := 0xFF
def xtadmaStrNumFrmShift : Nat := 16
def xtadmaStrNumFrmMask : U32 := 0x30000
def xtadmaStrQueTypeShift : Nat := 20
def xtadmaStrQueTypeMask : U32 := 0x300000
def xtadmaStrContFetchEn : U32 := 1 <<< 22
def xtadmaStrEntryValid : U32 := 1 <<< 31

def xtadmaAlmTotPktSzBy8Shift : Nat := 8
def xtadmaAlmTotPktSzBy8Mask : U32 := 0xFF00
def xtadmaAlmFetchSzShift : Nat := 16
def xtadmaAlmFetchSzMask : U32 := 0xFFF0000
def xtadmaAlmUff : U32 := 1 <<< 28
def xtadmaAlmSop : U32 := 1 <<< 30
def xtadmaAlmEop : U32 := 1 <<< 31

/-- `struct alm_entry`: one address-length memory entry. -/
structure AlmEntry where
  addr : U32
  cfg : U32
  deriving DecidableEq, Repr

/-- `struct sfm_entry`: one stream fetch entry. -/
structure SfmEntry where
  tticks : U32
  cfg : U32
  deriving DecidableEq, Repr

/-- `sizeof(struct alm_entry)` and `sizeof(struct sfm_entry)`. -/
def entrySize : Nat := 8

/-- `pm & XTADMA_PM_RD_MASK`. -/
def pmRd (pm : U32) : Nat := (pm &&& xtadmaPmRdMask).toNat

/-- `(pm & XTADMA_PM_WR_MASK) >> XTADMA_PM_WR_SHIFT`. -/
def pmWr (pm : U32) : Nat := ((pm &&& xtadmaPmWrMask) >>> xtadmaPmWrShift).toNat

/-- The driver's update of the write pointer: clear the field, then or the new value in. -/
def setPmWr (pm : U32) (wr : Nat) : U32 :=
  (pm &&& ~~~xtadmaPmWrMask) ||| (BitVec.ofNat 32 wr <<< xtadmaPmWrShift)

/-- The engine's update of the read pointer field. -/
def setPmRd (pm : U32) (rd : Nat) : U32 :=
  (pm &&& ~~~xtadmaPmRdMask) ||| BitVec.ofNat 32 rd

/-- A byte shifted into the write field stays inside the field's mask. -/
theorem shifted_masked {wr : Nat} (small : wr < 256)
    : (BitVec.ofNat 32 wr <<< xtadmaPmWrShift) &&& xtadmaPmWrMask
      = BitVec.ofNat 32 wr <<< xtadmaPmWrShift := by
  apply BitVec.eq_of_toNat_eq
  have bound : wr <<< 16 < 2 ^ 32 := by rw [Nat.shiftLeft_eq]; omega
  simp only [xtadmaPmWrShift, xtadmaPmWrMask, BitVec.toNat_and, BitVec.toNat_shiftLeft,
    BitVec.toNat_ofNat, Nat.mod_eq_of_lt (by omega : wr < 2 ^ 32), Nat.mod_eq_of_lt bound]
  rw [show (0xFF0000 : U32).toNat = (2 ^ 8 - 1) <<< 16 by decide, ← Nat.shiftLeft_and_distrib,
    Nat.and_two_pow_sub_one_eq_mod, Nat.mod_eq_of_lt small]

@[simp] theorem pmWr_setPmWr {pm : U32} {wr : Nat} (small : wr < 256)
    : pmWr (setPmWr pm wr) = wr := by
  unfold pmWr setPmWr
  rw [← shifted_masked small, Field.put_and_self, shifted_masked small]
  simp only [xtadmaPmWrShift, BitVec.toNat_ushiftRight, BitVec.toNat_shiftLeft,
    BitVec.toNat_ofNat, Nat.shiftLeft_eq, Nat.shiftRight_eq_div_pow]
  omega

@[simp] theorem pmRd_setPmWr {pm : U32} {wr : Nat} (small : wr < 256)
    : pmRd (setPmWr pm wr) = pmRd pm := by
  unfold pmRd setPmWr
  rw [← shifted_masked small, Field.put_and (by decide)]

/-- A byte stays inside the read field's mask. -/
theorem byte_masked {rd : Nat} (small : rd < 256)
    : BitVec.ofNat 32 rd &&& xtadmaPmRdMask = BitVec.ofNat 32 rd := by
  apply BitVec.eq_of_toNat_eq
  simp only [xtadmaPmRdMask, BitVec.toNat_and, BitVec.toNat_ofNat,
    Nat.mod_eq_of_lt (by omega : rd < 2 ^ 32)]
  rw [show (0xFF : U32).toNat = 2 ^ 8 - 1 by decide, Nat.and_two_pow_sub_one_eq_mod,
    Nat.mod_eq_of_lt small]

@[simp] theorem pmRd_setPmRd {pm : U32} {rd : Nat} (small : rd < 256)
    : pmRd (setPmRd pm rd) = rd := by
  unfold pmRd setPmRd
  rw [← byte_masked small, Field.put_and_self, byte_masked small, BitVec.toNat_ofNat]
  omega

@[simp] theorem pmWr_setPmRd {pm : U32} {rd : Nat} (small : rd < 256)
    : pmWr (setPmRd pm rd) = pmWr pm := by
  unfold pmWr setPmRd
  rw [← byte_masked small, Field.put_and (by decide)]

/-- The entry as the engine leaves it after fetching the buffer: `UFF` cleared. -/
def AlmEntry.fetched (entry : AlmEntry) : AlmEntry :=
  { entry with cfg := entry.cfg &&& ~~~xtadmaAlmUff }

/-- The driver's completion test on a configuration word. -/
def UffClear (cfg : U32) : Prop := cfg &&& xtadmaAlmUff = 0

instance (cfg : U32) : Decidable (UffClear cfg) := inferInstanceAs (Decidable (_ = _))

/-- A word that the driver has armed fails the completion test. -/
theorem not_uffClear_or (cfg : U32) : ¬ UffClear (cfg ||| xtadmaAlmUff) := by
  unfold UffClear
  rw [Field.or_and_self]
  decide

@[simp] theorem uffClear_fetched (entry : AlmEntry) : UffClear entry.fetched.cfg :=
  Field.clear_and_self

end TsnTrdp.Tadma
