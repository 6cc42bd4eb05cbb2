import TsnTrdp.Lib.Slice
import TsnTrdp.Tadma.RingSafety

/-! What the address-length entries of a transmitted packet say, read by the fields of the header:
the pieces of the packet and its size. The size is stored in eighths, in eight bits.
-/

namespace TsnTrdp.Tadma

open TsnTrdp Run

-----------------------------------------------------------------------------------------
-- Reading an entry
-----------------------------------------------------------------------------------------

def xtadmaAlmAddrMsbShift : Nat := 0
def xtadmaAlmAddrMsbMask : U32 := 0xFF

/-- A field of a configuration word, by its mask and its shift. -/
def almField (cfg mask : U32) (shift : Nat) : Nat := ((cfg &&& mask) >>> shift).toNat

def AlmEntry.address (entry : AlmEntry) : Nat :=
  almField entry.cfg xtadmaAlmAddrMsbMask xtadmaAlmAddrMsbShift * 2 ^ 32 + entry.addr.toNat

def AlmEntry.fetchSz (entry : AlmEntry) : Nat :=
  almField entry.cfg xtadmaAlmFetchSzMask xtadmaAlmFetchSzShift

def AlmEntry.totPktSzBy8 (entry : AlmEntry) : Nat :=
  almField entry.cfg xtadmaAlmTotPktSzBy8Mask xtadmaAlmTotPktSzBy8Shift

def AlmEntry.Sop (entry : AlmEntry) : Prop := entry.cfg &&& xtadmaAlmSop ≠ 0
def AlmEntry.Eop (entry : AlmEntry) : Prop := entry.cfg &&& xtadmaAlmEop ≠ 0
def AlmEntry.Uff (entry : AlmEntry) : Prop := entry.cfg &&& xtadmaAlmUff ≠ 0

/-- The address and the length of the piece that the entry describes. -/
def AlmEntry.piece (entry : AlmEntry) : Nat × Nat := (entry.address, entry.fetchSz)

/-- The pieces of a packet: the linear part, as it was mapped, and the fragments. -/
def SkBuff.pieces (skb : SkBuff) : List (Nat × Nat) :=
  ((skb.dma.getD 0).toNat, skb.headlen.toNat)
    :: skb.frags.map fun frag => (frag.dma.toNat, frag.size.toNat)

/-- The length of a packet. -/
def SkBuff.length (skb : SkBuff) : Nat := (skb.pieces.map Prod.snd).sum

/-- Every DMA address has 40 bits. -/
def SkBuff.Addressable (skb : SkBuff) : Prop := ∀ piece ∈ skb.pieces, piece.1 < 2 ^ 40

instance (skb : SkBuff) : Decidable skb.Addressable :=
  inferInstanceAs (Decidable (∀ piece ∈ skb.pieces, piece.1 < 2 ^ 40))

/-- The entries written for a packet: those from the write pointer on, as many as it has pieces. -/
def almWritten (n : Nat) (before after : StreamRing) (skb : SkBuff) : List AlmEntry :=
  (List.range (skb.frags.length + 1)).map fun j =>
    after.alm (almSlot n ((pmNext n)^[j] (pmWr before.pm)))

/-- The entries describe the packet: its pieces in their order, the first and the last marked, all
of them for the engine to use, and the size right up to eight bytes.
-/
structure DescribesPacket (entries : List AlmEntry) (skb : SkBuff) : Prop where
  pieces : entries.map AlmEntry.piece = skb.pieces
  sop : ∀ i entry, entries[i]? = some entry → (entry.Sop ↔ i = 0)
  eop : ∀ i entry, entries[i]? = some entry → (entry.Eop ↔ i + 1 = entries.length)
  uff : ∀ entry ∈ entries, entry.Uff
  total
    : ∀ first ∈ entries.head?,
      skb.length ≤ 8 * first.totPktSzBy8 ∧ 8 * first.totPktSzBy8 ≤ skb.length + 8

variable {n k : Nat} {skb : SkBuff} {entry : AlmEntry} {base cfg len tot : U32}
  {dma phys : BitVec 64} {first last : Bool}

-----------------------------------------------------------------------------------------
-- The fields of one word
-----------------------------------------------------------------------------------------

theorem almField_eq {s m : Nat} (fits : s + m ≤ 32)
    : almField cfg (Slice.low 32 m <<< s) s = (cfg.extractLsb' s m).toNat := by
  rw [almField, Slice.masked_shift fits, BitVec.toNat_setWidth]
  have small := (cfg.extractLsb' s m).isLt
  have width : 2 ^ m ≤ 2 ^ 32 := Nat.pow_le_pow_right (by decide) (by omega)
  exact Nat.mod_eq_of_lt (by omega)

theorem addrMsb_eq (cfg : U32)
    : almField cfg xtadmaAlmAddrMsbMask xtadmaAlmAddrMsbShift = (cfg.extractLsb' 0 8).toNat := by
  have mask : xtadmaAlmAddrMsbMask = Slice.low 32 8 <<< 0 := by decide
  rw [mask, xtadmaAlmAddrMsbShift, almField_eq (by decide)]

theorem totPktSzBy8_eq (cfg : U32)
    : almField cfg xtadmaAlmTotPktSzBy8Mask xtadmaAlmTotPktSzBy8Shift
      = (cfg.extractLsb' 8 8).toNat := by
  have mask : xtadmaAlmTotPktSzBy8Mask = Slice.low 32 8 <<< 8 := by decide
  rw [mask, xtadmaAlmTotPktSzBy8Shift, almField_eq (by decide)]

theorem fetchSz_eq (cfg : U32)
    : almField cfg xtadmaAlmFetchSzMask xtadmaAlmFetchSzShift
      = (cfg.extractLsb' 16 12).toNat := by
  have mask : xtadmaAlmFetchSzMask = Slice.low 32 12 <<< 16 := by decide
  rw [mask, xtadmaAlmFetchSzShift, almField_eq (by decide)]

/-- The driver's update of the length is a store to the field. -/
theorem putFetchSz_eq (cfg len : U32) : putFetchSz cfg len = Slice.store cfg len 16 12 := by
  rw [Slice.store, BitVec.shiftLeft_and_distrib]
  rfl

/-- What a word keeps of the bits that it was made from, and what it says of the length. -/
structure WordTells (cfg base len : U32) : Prop where
  addrMsb : cfg.extractLsb' 0 8 = base.extractLsb' 0 8
  fetchSz : cfg.extractLsb' 16 12 = len.setWidth 12
  uff : cfg.getLsbD 28 = true
  sop : cfg.getLsbD 30 = base.getLsbD 30
  eop : cfg.getLsbD 31 = base.getLsbD 31

/-- A bit is a field of one bit. -/
theorem getLsbD_of_extract {x y : U32} {i : Nat} (same : x.extractLsb' i 1 = y.extractLsb' i 1)
    : x.getLsbD i = y.getLsbD i := by
  have bit := congrArg (fun b : BitVec 1 => b.getLsbD 0) same
  simpa using bit

/-- The flag of a word leaves its other fields as they are. -/
theorem extract_uff {s m : Nat} (apart : xtadmaAlmUff.extractLsb' s m = 0)
    : (cfg ||| xtadmaAlmUff).extractLsb' s m = cfg.extractLsb' s m :=
  Slice.extract_or_of_zero apart

/-- A word that agrees with the updated length's but for the size of the packet. -/
theorem WordTells.of_apart {word : U32}
    (keeps
      : ∀ s m, Slice.Apart s m 8 8 → word.extractLsb' s m = (putFetchSz base len).extractLsb' s m)
    : WordTells (word ||| xtadmaAlmUff) base len := by
  rw [putFetchSz_eq] at keeps
  constructor
  · rw [extract_uff (by decide), keeps _ _ (by decide), Slice.extract_store_other (by decide)]
  · rw [extract_uff (by decide), keeps _ _ (by decide), Slice.extract_store (by decide)]
  · simp [xtadmaAlmUff]
  · apply getLsbD_of_extract
    rw [extract_uff (by decide), keeps _ _ (by decide), Slice.extract_store_other (by decide)]
  · apply getLsbD_of_extract
    rw [extract_uff (by decide), keeps _ _ (by decide), Slice.extract_store_other (by decide)]

/-- The word of a fragment. -/
theorem wordTells_frag : WordTells (putFetchSz base len ||| xtadmaAlmUff) base len :=
  WordTells.of_apart fun _ _ _ => rfl

/-- The word of the linear part, with the size of the packet. -/
theorem wordTells_fframe
    : WordTells (Slice.store (putFetchSz base len) tot 8 8 ||| xtadmaAlmUff) base len :=
  WordTells.of_apart fun _ _ apart => Slice.extract_store_other apart

/-- What the words are made from: the upper part of the address, and the marks of the piece. -/
def almBase (dma : BitVec 64) (first last : Bool) : U32 :=
  (dma >>> 32).setWidth 32
    ||| ((if first then xtadmaAlmSop else 0) ||| (if last then xtadmaAlmEop else 0))

/-- The entry of a piece: what it says of its own part of the packet. -/
structure Tells (entry : AlmEntry) (dma : BitVec 64) (len : U32) (first last : Bool) : Prop where
  address : entry.address = dma.toNat
  fetchSz : entry.fetchSz = len.toNat % 2 ^ 12
  uff : entry.Uff
  sop : entry.Sop ↔ first
  eop : entry.Eop ↔ last

/-- The marks are above the address bits, and these below the marks. -/
theorem almBase_tells (narrow : dma.toNat < 2 ^ 40) (first last : Bool)
    : ((almBase dma first last).extractLsb' 0 8).toNat = dma.toNat / 2 ^ 32
      ∧ (almBase dma first last).getLsbD 30 = first
      ∧ (almBase dma first last).getLsbD 31 = last := by
  have high (i : Nat) (above : 8 ≤ i) : ((dma >>> 32).setWidth 32 : U32).getLsbD i = false := by
    have clear : dma.getLsbD (32 + i) = false := by
      apply Nat.testBit_lt_two_pow
      exact Nat.lt_of_lt_of_le narrow (Nat.pow_le_pow_right (by decide) (by omega))
    rw [BitVec.getLsbD_setWidth, BitVec.getLsbD_ushiftRight, clear, Bool.and_false]
  refine ⟨?_, ?_, ?_⟩
  · have marks
        : ((if first then xtadmaAlmSop else 0) ||| (if last then xtadmaAlmEop else 0)
            : U32).extractLsb' 0 8 = 0 := by
      cases first <;> cases last <;> decide
    rw [almBase, Slice.extract_or_of_zero marks, Slice.extract_low (by decide)]
    simp only [BitVec.toNat_setWidth, BitVec.toNat_ushiftRight, Nat.shiftRight_eq_div_pow]
    omega
  · rw [almBase, BitVec.getLsbD_or, high 30 (by decide)]
    cases first <;> cases last <;> decide
  · rw [almBase, BitVec.getLsbD_or, high 31 (by decide)]
    cases first <;> cases last <;> decide

/-- A flag is set in a word exactly if its bit is. -/
theorem flag_iff {flag : U32} {i : Nat} (bound : i < 32) (bit : flag = (1 : U32) <<< i)
    : cfg &&& flag ≠ 0 ↔ cfg.getLsbD i = true := by
  rw [bit, ne_eq, Slice.and_bit_eq_zero bound, Bool.not_eq_false]

/-- An entry whose word says this of its piece. -/
theorem WordTells.tells (word : WordTells entry.cfg (almBase dma first last) len)
    (addr : entry.addr = dma.setWidth 32) (narrow : dma.toNat < 2 ^ 40)
    : Tells entry dma len first last := by
  obtain ⟨high, sop, eop⟩ := almBase_tells narrow first last
  constructor
  · rw [AlmEntry.address, addrMsb_eq, word.addrMsb, high, addr, BitVec.toNat_setWidth]
    omega
  · rw [AlmEntry.fetchSz, fetchSz_eq, word.fetchSz, BitVec.toNat_setWidth]
  · exact (flag_iff (i := 28) (by decide) (by decide)).mpr word.uff
  · rw [AlmEntry.Sop, flag_iff (i := 30) (by decide) (by decide), word.sop, sop]
  · rw [AlmEntry.Eop, flag_iff (i := 31) (by decide) (by decide), word.eop, eop]

theorem almFrag_tells {frag : SkbFrag} (narrow : frag.dma.toNat < 2 ^ 40) (last : Bool)
    : Tells (almFrag frag last) frag.dma frag.size false last := by
  apply WordTells.tells _ rfl narrow
  have base : (if last then (frag.dma >>> 32).setWidth 32 ||| xtadmaAlmEop
      else (frag.dma >>> 32).setWidth 32) = almBase frag.dma false last := by
    cases last
    · exact (BitVec.or_zero).symm
    · simp [almBase]
  rw [almFrag, base]
  exact wordTells_frag

/-- `alm_fframe.cfg` as a store of the size into a word of this shape. -/
theorem almFframe_cfg (phys : BitVec 64)
    : (almFframe skb phys).cfg
      = Slice.store (putFetchSz (almBase phys true skb.frags.isEmpty) skb.headlen)
          (skb.totLen / 8 + 1) 8 8 ||| xtadmaAlmUff := by
  have base
      : (if skb.frags.isEmpty
          then (phys >>> 32).setWidth 32 ||| (xtadmaAlmSop ||| xtadmaAlmEop)
          else (phys >>> 32).setWidth 32 ||| xtadmaAlmSop)
        = almBase phys true skb.frags.isEmpty := by
    cases skb.frags.isEmpty <;> simp [almBase]
  rw [almFframe, base, Slice.store, BitVec.shiftLeft_and_distrib]
  rfl

theorem almFframe_tells (narrow : phys.toNat < 2 ^ 40)
    : Tells (almFframe skb phys) phys skb.headlen true skb.frags.isEmpty := by
  apply WordTells.tells _ rfl narrow
  rw [almFframe_cfg]
  exact wordTells_fframe

-----------------------------------------------------------------------------------------
-- The entries of a packet
-----------------------------------------------------------------------------------------

/-- `tot_len` is the packet's length, but for a carry out of the word. -/
theorem totLen_toNat (skb : SkBuff) : skb.totLen.toNat = skb.length % 2 ^ 32 := by
  have sum (frags : List SkbFrag) (start : U32)
      : (frags.foldl (fun total frag => total + frag.size) start).toNat
        = (start.toNat + (frags.map fun frag => frag.size.toNat).sum) % 2 ^ 32 := by
    induction frags generalizing start with
    | nil => simp [Nat.mod_eq_of_lt start.isLt]
    | cons frag rest ih =>
        rw [List.foldl_cons, ih, BitVec.toNat_add, List.map_cons, List.sum_cons, Nat.mod_add_mod,
          Nat.add_assoc]
  rw [SkBuff.totLen, sum, SkBuff.length, SkBuff.pieces, List.map_cons, List.sum_cons, List.map_map]
  rfl

/-- The size field of the linear part's entry. -/
theorem almFframe_totPktSzBy8 (phys : BitVec 64)
    : (almFframe skb phys).totPktSzBy8 = (skb.length % 2 ^ 32 / 8 + 1) % 2 ^ 8 := by
  rw [AlmEntry.totPktSzBy8, totPktSzBy8_eq, almFframe_cfg, extract_uff (by decide),
    Slice.extract_store (by decide), BitVec.toNat_setWidth, BitVec.toNat_add, BitVec.toNat_udiv,
    totLen_toNat]
  have eight : (8 : U32).toNat = 8 := rfl
  have one : (1 : U32).toNat = 1 := rfl
  rw [eight, one]
  omega

/-- The field has room for a size up to 255 times eight, and a packet's is stored plus one. -/
theorem total_iff (phys : BitVec 64)
    : skb.length ≤ 8 * (almFframe skb phys).totPktSzBy8
        ∧ 8 * (almFframe skb phys).totPktSzBy8 ≤ skb.length + 8
      ↔ skb.length ≤ 2039 := by
  rw [almFframe_totPktSzBy8]
  omega

/-- The entry of each fragment says what the fragment is. By induction on the fragments. -/
theorem fragDescs_tells {addr i : Nat} {frags : List SkbFrag}
    (narrow : ∀ frag ∈ frags, frag.dma.toNat < 2 ^ 40)
    (found : ((fragDescs addr frags).map Prod.snd)[i]? = some entry)
    : ∃ frag,
        frags[i]? = some frag
        ∧ Tells entry frag.dma frag.size false (decide (i + 1 = frags.length)) := by
  induction frags generalizing i with
  | nil => cases found
  | cons frag rest ih =>
      obtain ⟨head, later⟩ := List.forall_mem_cons.mp narrow
      cases i with
      | zero =>
          cases found
          have last : decide (0 + 1 = (frag :: rest).length) = rest.isEmpty := by
            cases rest <;> simp
          rw [last]
          exact ⟨frag, rfl, almFrag_tells head rest.isEmpty⟩
      | succ i =>
          obtain ⟨next, here, tells⟩ := ih later found
          have last
              : decide (i + 1 + 1 = (frag :: rest).length) = decide (i + 1 = rest.length) := by
            simp
          rw [last]
          exact ⟨next, here, tells⟩

/-- The pieces' lengths add up to the packet's. -/
theorem piece_le_length {piece : Nat × Nat} (member : piece ∈ skb.pieces)
    : piece.2 ≤ skb.length :=
  List.le_sum_of_mem (List.mem_map_of_mem member)

/-- The entry of each piece says what the piece is: the linear part's, then the fragments'. -/
theorem entry_tells (mapped : skb.dma = some phys) (addressable : skb.Addressable) {i : Nat}
    (found
      : (almFframe skb phys :: (fragDescs skb.addr skb.frags).map Prod.snd)[i]? = some entry)
    : ∃ (dma : BitVec 64) (len : U32),
        skb.pieces[i]? = some (dma.toNat, len.toNat)
        ∧ Tells entry dma len (decide (i = 0)) (decide (i = skb.frags.length)) := by
  obtain ⟨head, frags⟩ := List.forall_mem_cons.mp addressable
  cases i with
  | zero =>
      cases found
      have last : decide (0 = skb.frags.length) = skb.frags.isEmpty := by
        cases skb.frags <;> simp
      have first : skb.pieces[0]? = some (phys.toNat, skb.headlen.toNat) := by
        simp [SkBuff.pieces, mapped]
      rw [last]
      rw [mapped] at head
      exact ⟨phys, skb.headlen, first, almFframe_tells head⟩
  | succ i =>
      have narrow : ∀ frag ∈ skb.frags, frag.dma.toNat < 2 ^ 40 :=
        fun frag member => frags _ (List.mem_map_of_mem member)
      obtain ⟨frag, here, tells⟩ := fragDescs_tells narrow found
      have piece : skb.pieces[i + 1]? = some (frag.dma.toNat, frag.size.toNat) := by
        simp [SkBuff.pieces, here]
      exact ⟨frag.dma, frag.size, piece, tells⟩

/-- The entries of a packet describe it exactly if it has at most 2039 bytes. -/
theorem describes_iff (mapped : skb.dma = some phys) (addressable : skb.Addressable)
    : DescribesPacket (almFframe skb phys :: (fragDescs skb.addr skb.frags).map Prod.snd) skb
      ↔ skb.length ≤ 2039 := by
  have count : ((fragDescs skb.addr skb.frags).map Prod.snd).length = skb.frags.length := by
    rw [List.length_map, fragDescs_length]
  constructor
  · intro describes
    exact (total_iff phys).mp (describes.total _ rfl)
  · intro short
    constructor
    case pieces =>
      apply List.ext_getElem
      · simp [SkBuff.pieces, fragDescs_length]
      · intro i before _
        rw [List.length_map] at before
        obtain ⟨dma, len, here, tells⟩ :=
          entry_tells mapped addressable (List.getElem?_eq_getElem before)
        obtain ⟨inPieces, same⟩ := List.getElem?_eq_some_iff.mp here
        -- A piece is no longer than the packet, and the length's field has room for that.
        have part := piece_le_length (List.getElem_mem inPieces)
        rw [same] at part
        have fits : len.toNat < 2 ^ 12 := by omega
        rw [List.getElem_map, same, AlmEntry.piece, tells.address, tells.fetchSz,
          Nat.mod_eq_of_lt fits]
    case sop =>
      intro i entry found
      obtain ⟨dma, len, -, tells⟩ := entry_tells mapped addressable found
      rw [tells.sop, decide_eq_true_eq]
    case eop =>
      intro i entry found
      obtain ⟨dma, len, -, tells⟩ := entry_tells mapped addressable found
      rw [tells.eop, decide_eq_true_eq, List.length_cons, count, Nat.add_right_cancel_iff]
    case uff =>
      intro entry member
      obtain ⟨i, found⟩ := List.mem_iff_getElem?.mp member
      obtain ⟨dma, len, -, tells⟩ := entry_tells mapped addressable found
      exact tells.uff
    case total =>
      rintro first ⟨⟩
      exact (total_iff phys).mpr short

-----------------------------------------------------------------------------------------
-- The memory after a transmit
-----------------------------------------------------------------------------------------

/-- The slot of the `j`-th entry from a write pointer on. -/
def slotFrom (n wr j : Nat) : Nat := almSlot n ((pmNext n)^[j] wr)

theorem slotFrom_succ (n wr j : Nat) : slotFrom n wr (j + 1) = slotFrom n (pmNext n wr) j := rfl

theorem slotFrom_eq (pow : n = 2 ^ k) (wr j : Nat) : slotFrom n wr j = (wr + (n - 1) + j) % n := by
  have pos : 0 < n := pow ▸ Nat.two_pow_pos k
  induction j generalizing wr with
  | zero =>
      apply almSlot_eq pow
      change wr % n = (wr + (n - 1) + 0 + 1) % n
      have whole : wr + (n - 1) + 0 + 1 = wr + n := by omega
      rw [whole, Nat.add_mod_right]
  | succ j ih =>
      rw [slotFrom_succ, ih, pmNext, and_mask pow]
      have next : wr + (n - 1) + (j + 1) = wr + 1 + ((n - 1) + j) := by omega
      rw [next, Nat.add_assoc, Nat.mod_add_mod]

/-- Within one round of the ring the slots are apart. -/
theorem slotFrom_inj (pow : n = 2 ^ k) {wr i j : Nat} (first : i < n) (second : j < n)
    (same : slotFrom n wr i = slotFrom n wr j)
    : i = j := by
  rw [slotFrom_eq pow, slotFrom_eq pow] at same
  have indices : wr + (n - 1) + i = wr + (n - 1) + j :=
    Ring.slot_inj (Nat.le_add_right _ _) (by omega) (Nat.le_add_right _ _) (by omega) same
  exact Nat.add_left_cancel indices

/-- A slot's two stores. -/
theorem store_alm (ring : StreamRing) (slot : Nat) (entry : AlmEntry)
    : ((ring.store n (.almAddr slot entry.addr)).store n (.almCfg slot entry.cfg)).alm
      = Function.update ring.alm slot entry := by
  simp [StreamRing.store]

/-- The fragment loop stores the fragments' entries into the slots behind the first, and no others.
By induction on the fragments.
-/
theorem fragWrites_alm (pow : n = 2 ^ k) (addr : Nat) (frags : List SkbFrag) (ring : StreamRing)
    (wr : Nat) (room : frags.length < n)
    : (∀ i entry, ((fragDescs addr frags).map Prod.snd)[i]? = some entry
        → ((fragWrites n addr wr frags).foldl (StreamRing.store n) ring).alm
            (slotFrom n wr (i + 1)) = entry)
      ∧ ∀ slot, (∀ i < frags.length, slot ≠ slotFrom n wr (i + 1))
        → ((fragWrites n addr wr frags).foldl (StreamRing.store n) ring).alm slot
          = ring.alm slot := by
  induction frags generalizing ring wr with
  | nil =>
      refine ⟨?_, fun _ _ => rfl⟩
      intro i entry found
      cases found
  | cons frag rest ih =>
      have inRing : rest.length + 1 < n := room
      simp only [fragWrites, List.foldl_cons]
      refine ⟨?_, ?_⟩
      · intro i entry found
        cases i with
        | zero =>
            cases found
            have apart
                : ∀ j < rest.length, slotFrom n wr 1 ≠ slotFrom n (pmNext n wr) (j + 1) := by
              intro j low same
              rw [← slotFrom_succ] at same
              have equal := slotFrom_inj pow (by omega) (by omega) same
              omega
            -- The entry is stored first, and the fragments behind it have other slots.
            rw [(ih _ (pmNext n wr) (by omega)).2 _ apart]
            exact (congrFun (store_alm _ _ _) _).trans (Function.update_self _ _ _)
        | succ i => exact (ih _ (pmNext n wr) (by omega)).1 i entry found
      · intro slot outside
        have apart : slot ≠ slotFrom n wr 1 := outside 0 (Nat.zero_lt_succ _)
        rw [(ih _ (pmNext n wr) (by omega)).2 slot fun i low =>
          outside (i + 1) (Nat.succ_lt_succ low)]
        exact (congrFun (store_alm _ _ _) _).trans (Function.update_of_ne apart _ _)

/-- The pointer test lets no packet through that has more pieces than the ring has slots, since the
engine's pointer is one of these.
-/
theorem pieces_le_of_space {numFrag wr rd : Nat}
    (space : axienetCheckPmSpace numFrag wr rd n = true) (inRing : rd < n)
    : numFrag ≤ n := by
  simp only [axienetCheckPmSpace, decide_eq_true_eq] at space
  split at space <;> omega

/-- After a transmit the packet's slots hold its entries: those of the fragments, and the linear
part's, which is stored after them.
-/
theorem almWritten_eq (pow : n = 2 ^ k) {ring after : StreamRing} (inRing : pmRd ring.pm < n)
    (sent : tadmaXmitRing n ring skb = (.ok, after))
    : ∃ phys, skb.dma = some phys
        ∧ almWritten n ring after skb
          = almFframe skb phys :: (fragDescs skb.addr skb.frags).map Prod.snd := by
  cases accept : xmitAccept n ring skb with
  | none =>
      rw [tadmaXmitRing, accept] at sent
      cases sent
  | some writes =>
      rw [tadmaXmitRing, accept] at sent
      obtain ⟨space, -, phys, mapped, rfl⟩ := xmitAccept_cases accept
      cases sent
      refine ⟨phys, mapped, ?_⟩
      have room : skb.frags.length < n := pieces_le_of_space space inRing
      simp only [txWrites, List.foldl_cons, List.foldl_append, List.foldl_nil]
      generalize StreamRing.store n (StreamRing.store n ring _) _ = start
      obtain ⟨entries, -⟩ := fragWrites_alm pow skb.addr skb.frags start (pmWr ring.pm) room
      generalize (fragWrites n skb.addr (pmWr ring.pm) skb.frags).foldl (StreamRing.store n) start
        = fragsDone at entries ⊢
      generalize sent : StreamRing.store n (StreamRing.store n (StreamRing.store n fragsDone _) _) _
        = after
      have memory : after.alm
          = Function.update fragsDone.alm (slotFrom n (pmWr ring.pm) 0) (almFframe skb phys) := by
        rw [← sent]
        exact store_alm fragsDone _ _
      change (List.range (skb.frags.length + 1)).map
          (fun j => after.alm (slotFrom n (pmWr ring.pm) j)) = _
      rw [List.range_succ_eq_map, List.map_cons, memory, Function.update_self, List.map_map]
      congr 1
      apply List.ext_getElem
      · simp [fragDescs_length]
      · intro i before inEntries
        have low : i < skb.frags.length := by simpa using before
        have apart : slotFrom n (pmWr ring.pm) (i + 1) ≠ slotFrom n (pmWr ring.pm) 0 := by
          intro same
          have equal := slotFrom_inj pow (by omega) (by omega) same
          omega
        rw [List.getElem_map, List.getElem_range, Function.comp_apply, Function.update_of_ne apart]
        exact entries i _ (List.getElem?_eq_getElem inEntries)

-----------------------------------------------------------------------------------------
-- Every transmit of a stream
-----------------------------------------------------------------------------------------

/-- The engine's read pointer is one of the ring's slots. -/
def ReadInRing (n : Nat) (s : StreamSys) : Prop := pmRd s.ring.pm < n

/-- A transmit stores the write pointer's field only. -/
theorem foldl_store_pmRd {writes : List TxWrite}
    (small : ∀ wr, .pmWr wr ∈ writes → wr < 256) (ring : StreamRing)
    : pmRd (writes.foldl (StreamRing.store n) ring).pm = pmRd ring.pm := by
  induction writes generalizing ring with
  | nil => rfl
  | cons write rest ih =>
      rw [List.foldl_cons, ih fun wr member => small wr (List.mem_cons_of_mem _ member)]
      cases write with
      | pmWr wr => exact pmRd_setPmWr (small wr List.mem_cons_self)
      | _ => rfl

/-- The fragment loop does not store the write pointer. -/
theorem pmWr_not_mem_fragWrites {addr wr new : Nat} {frags : List SkbFrag}
    : .pmWr new ∉ fragWrites n addr wr frags := by
  induction frags generalizing wr with
  | nil => exact List.not_mem_nil
  | cons frag rest ih => simp [fragWrites, ih]

/-- The engine's pointer stays in the ring, whatever happens on the stream. -/
theorem ringStep_readInRing (pow : n = 2 ^ k) (small : n ≤ 256) (s : StreamSys) (event : RingEvent)
    (inRing : ReadInRing n s)
    : ReadInRing n (ringStep n s event) := by
  have pos : 0 < n := pow ▸ Nat.two_pow_pos k
  cases event with
  | xmit skb =>
      cases accept : xmitAccept n s.ring skb with
      | none => simpa only [ReadInRing, ringStep, tadmaXmitRing, accept] using inRing
      | some writes =>
          obtain ⟨-, -, phys, -, rfl⟩ := xmitAccept_cases accept
          simp only [ReadInRing, ringStep, tadmaXmitRing, accept]
          rw [foldl_store_pmRd]
          · exact inRing
          · intro wr member
            have last : wr = (pmNext n)^[skb.frags.length + 1] (pmWr s.ring.pm) := by
              simpa [txWrites, pmWr_not_mem_fragWrites] using member
            rw [last, pmNext_iterate pow rfl]
            exact Nat.lt_of_lt_of_le (Nat.mod_lt _ pos) small
  | fetchSlot =>
      simp only [ReadInRing, ringStep, StreamSys.fetchSlot]
      split
      · exact inRing
      · exact inRing
  | fetchNext =>
      simp only [ReadInRing, ringStep, StreamSys.fetchNext]
      split
      · have next := Nat.mod_lt (pmRd s.ring.pm + 1) pos
        simp only [StreamRing.fetchNext]
        rw [pmRd_setPmRd (by omega)]
        exact next
      · exact inRing
  | irq status =>
      simp only [ReadInRing, ringStep]
      split
      · exact inRing
      · obtain ⟨rd, tail, same⟩ := StreamSys.irqStream_frame (n := n) (s := s)
        rw [same]
        exact inRing

/-- A stream after a run from its opening. -/
def streamAfter (n : Nat) (ring : StreamRing) (events : List RingEvent) : StreamSys :=
  run (ringStep n) (StreamRace.start ring).toStreamSys events

/-- Whatever has happened on a stream, the entries written for a packet that it accepts describe the
packet exactly if this has at most 2039 bytes.
-/
theorem alm_describes (pow : n = 2 ^ k) (small : n ≤ 256) {ring after : StreamRing}
    (opened : ring.Opened) (events : List RingEvent) (addressable : skb.Addressable)
    (sent : tadmaXmitRing n (streamAfter n ring events).ring skb = (.ok, after))
    : DescribesPacket (almWritten n (streamAfter n ring events).ring after skb) skb
      ↔ skb.length ≤ 2039 := by
  have pos : 0 < n := pow ▸ Nat.two_pow_pos k
  have start : ReadInRing n (StreamRace.start ring).toStreamSys := by
    change pmRd ring.pm < n
    rw [opened.engineRd]
    exact pos
  have inRing : ReadInRing n (streamAfter n ring events) :=
    Along.invariant (fun s event inRing _ => ringStep_readInRing pow small s event inRing) start
      (Along.all (fun _ _ => trivial) _ events)
  obtain ⟨phys, mapped, written⟩ := almWritten_eq pow inRing sent
  rw [written]
  exact describes_iff mapped addressable

/-- A packet of three pieces on an opened stream. -/
theorem alm_describes_wide
    : DescribesPacket (almWritten 4 freshRing (tadmaXmitRing 4 freshRing (wideSkb 9)).2 (wideSkb 9))
        (wideSkb 9) :=
  (alm_describes (k := 2) (by decide) (by decide) freshRing_opened [] (by decide)
    (Prod.ext (by decide) rfl)).mpr (by decide)

/-- The range of MTUs of `tsn_ep_probe`, and the Ethernet header that comes on top. -/
def minMtu : Nat := 64
def xaeJumboMtu : Nat := 9000
def ethHlen : Nat := 14

/-- A packet that an interface with this MTU may be given. -/
def SkBuff.Admitted (mtu : Nat) (skb : SkBuff) : Prop :=
  minMtu ≤ mtu ∧ mtu ≤ xaeJumboMtu ∧ skb.length ≤ mtu + ethHlen

/-- A packet of one piece. -/
def jumboSkb : SkBuff := ⟨9, 2040, some 0x1000, []⟩

/-- Its size in eighths, plus one, has the low bits zero. -/
theorem alm_describes_jumbo
    : jumboSkb.Admitted xaeJumboMtu
      ∧ (tadmaXmitRing 4 freshRing jumboSkb).1 = .ok
      ∧ ¬ DescribesPacket (almWritten 4 freshRing (tadmaXmitRing 4 freshRing jumboSkb).2 jumboSkb)
          jumboSkb := by
  refine ⟨⟨by decide, by decide, by decide⟩, by decide, ?_⟩
  intro describes
  have total := describes.total (almFframe jumboSkb 0x1000) (by decide)
  exact absurd total.1 (by decide)

end TsnTrdp.Tadma
