import TsnTrdp.Tadma.Registers
import Mathlib.Tactic

/-! Stream keys and their hash tags: how the driver builds the eight bytes, hashes them into
a bucket and compares them, and what it reads of a packet to do so.
-/

namespace TsnTrdp.Tadma

abbrev Byte := BitVec 8

/-- An IP address in network order, as `stream.ip` and `iphdr->daddr` hold it. -/
abbrev IpBytes := Vector Byte 4

/-- `u8 hash_tag[8]`. -/
abbrev HashTag := Vector Byte 8

/-- The pair that identifies a stream. -/
@[ext]
structure StreamKey where
  ip : IpBytes
  comId : U32
  deriving DecidableEq, Repr

/-- The hash tag that `add_stream` and `tadma_get_strid` build: the address bytes, then the
communication id from its low byte up.
-/
def hashTag (ip : IpBytes) (comid : U32) : HashTag :=
  #v[ip[0], ip[1], ip[2], ip[3],
    (comid &&& 0xff).setWidth 8,
    ((comid >>> 8) &&& 0xff).setWidth 8,
    ((comid >>> 16) &&& 0xff).setWidth 8,
    ((comid >>> 24) &&& 0xff).setWidth 8]

def StreamKey.hashTag (key : StreamKey) : HashTag := Tadma.hashTag key.ip key.comId

/-- `get_unaligned((u64 *)addr)` on a little-endian machine. -/
def getUnaligned64 (tag : HashTag) : BitVec 64 :=
  tag[7] ++ tag[6] ++ tag[5] ++ tag[4] ++ tag[3] ++ tag[2] ++ tag[1] ++ tag[0]

/-- `GOLDEN_RATIO_64` of the kernel. -/
def goldenRatio64 : BitVec 64 := 0x61C8864680B583EB

/-- `hash_64`. -/
def hash64 (value : BitVec 64) (bits : Nat) : U32 :=
  ((value * goldenRatio64) >>> (64 - bits)).setWidth 32

/-- `tadma_hashtag_hash`. -/
def tadmaHashtagHash (bits : Nat) (tag : HashTag) : U32 := hash64 (getUnaligned64 tag) bits

/-- The 16-bit word `i` of a tag: `((const u16 *)addr)[i]`. -/
def tagWord (tag : HashTag) (i : Fin 4) : BitVec 16 :=
  tag.get ⟨2 * i + 1, by omega⟩ ++ tag.get ⟨2 * i, by omega⟩

/-- `hash_tag_equal`. The last term compares the word of `addr1` with itself. -/
def hashTagEqual (addr1 addr2 : HashTag) : Bool :=
  let a := tagWord addr1
  let b := tagWord addr2
  if (a 0 ^^^ b 0) ||| (a 1 ^^^ b 1) ||| (a 2 ^^^ b 2) ||| (a 3 ^^^ a 3) ≠ 0 then false else true

/-- Two keys that `hash_tag_equal` takes for one: the address and the low half of the
communication id agree.
-/
def StreamKey.SameLow (key other : StreamKey) : Prop :=
  key.ip = other.ip ∧ key.comId.setWidth 16 = other.comId.setWidth 16

instance (key other : StreamKey) : Decidable (key.SameLow other) :=
  inferInstanceAs (Decidable (_ ∧ _))

theorem hashTagEqual_words {a b : HashTag}
    : hashTagEqual a b = true
      ↔ tagWord a 0 = tagWord b 0 ∧ tagWord a 1 = tagWord b 1 ∧ tagWord a 2 = tagWord b 2 := by
  simp [hashTagEqual, BitVec.or_eq_zero_iff, BitVec.xor_eq_zero_iff, and_assoc]

theorem hashTagEqual_symm {a b : HashTag} (same : hashTagEqual a b = true)
    : hashTagEqual b a = true := by
  obtain ⟨zero, one, two⟩ := hashTagEqual_words.mp same
  exact hashTagEqual_words.mpr ⟨zero.symm, one.symm, two.symm⟩

theorem hashTagEqual_trans {a b c : HashTag} (first : hashTagEqual a b = true)
    (second : hashTagEqual b c = true)
    : hashTagEqual a c = true := by
  obtain ⟨zero, one, two⟩ := hashTagEqual_words.mp first
  obtain ⟨zero', one', two'⟩ := hashTagEqual_words.mp second
  exact hashTagEqual_words.mpr ⟨zero.trans zero', one.trans one', two.trans two'⟩

theorem hashTagEqual_refl (a : HashTag) : hashTagEqual a a = true :=
  hashTagEqual_words.mpr ⟨rfl, rfl, rfl⟩

theorem append_inj {v w : Nat} {a c : BitVec v} {b d : BitVec w}
    : a ++ b = c ++ d ↔ a = c ∧ b = d := by
  constructor
  · intro same
    have high := congrArg (BitVec.extractLsb' w v) same
    have low := congrArg (BitVec.extractLsb' 0 w) same
    rw [BitVec.extractLsb'_append_eq_left, BitVec.extractLsb'_append_eq_left] at high
    rw [BitVec.extractLsb'_append_eq_right, BitVec.extractLsb'_append_eq_right] at low
    exact ⟨high, low⟩
  · rintro ⟨rfl, rfl⟩
    rfl

/-- A byte taken by shift and mask. -/
theorem masked_byte (x : U32) (shift : Nat)
    : ((x >>> shift) &&& 0xff).setWidth 8 = x.extractLsb' shift 8 := by
  ext i hi
  have mask : (0xff : U32).getLsbD i = true := by
    interval_cases i <;> rfl
  simp only [BitVec.getElem_setWidth, BitVec.getLsbD_and, BitVec.getLsbD_ushiftRight,
    BitVec.getElem_extractLsb', mask, Bool.and_true]

theorem masked_low_byte (x : U32) : (x &&& 0xff).setWidth 8 = x.extractLsb' 0 8 :=
  masked_byte x 0

/-- Two neighbouring bytes are one 16-bit field. -/
theorem bytes_join (x : U32) (shift : Nat)
    : x.extractLsb' (shift + 8) 8 ++ x.extractLsb' shift 8 = x.extractLsb' shift 16 :=
  BitVec.extractLsb'_append_extractLsb'_eq_extractLsb' rfl

theorem tagWord_comId_low (key : StreamKey)
    : tagWord key.hashTag 2 = key.comId.setWidth 16 := by
  rw [BitVec.setWidth_eq_extractLsb' (by decide), ← bytes_join key.comId 0, ← masked_byte _ 8,
    ← masked_low_byte]
  rfl

theorem tagWords_ip {key other : StreamKey}
    : tagWord key.hashTag 0 = tagWord other.hashTag 0
        ∧ tagWord key.hashTag 1 = tagWord other.hashTag 1
      ↔ key.ip = other.ip := by
  have low : ∀ key : StreamKey, tagWord key.hashTag 0 = key.ip[1] ++ key.ip[0] := fun _ => rfl
  have high : ∀ key : StreamKey, tagWord key.hashTag 1 = key.ip[3] ++ key.ip[2] := fun _ => rfl
  rw [low, low, high, high, append_inj, append_inj]
  constructor
  · rintro ⟨⟨one, zero⟩, three, two⟩
    ext i hi : 1
    interval_cases i <;> assumption
  · intro same
    simp [same]

/-- The comparison misses the high half of the communication id. -/
theorem hashTagEqual_iff {key other : StreamKey}
    : hashTagEqual key.hashTag other.hashTag = true ↔ key.SameLow other := by
  rw [hashTagEqual_words, ← and_assoc, tagWords_ip, tagWord_comId_low, tagWord_comId_low]
  rfl

/-- What `tadma_get_strid` reads of a packet: `iphdr->daddr` and the four bytes of
`trdphdr->comId` on the wire.
-/
structure TrdpPacket where
  daddr : IpBytes
  comId : Vector Byte 4
  deriving DecidableEq, Repr

/-- The load of a 32-bit field on a little-endian machine. -/
def load32 (bytes : Vector Byte 4) : U32 := bytes[3] ++ bytes[2] ++ bytes[1] ++ bytes[0]

/-- `ntohl` on a little-endian machine. -/
def ntohl (x : U32) : U32 :=
  x.extractLsb' 0 8 ++ x.extractLsb' 8 8 ++ x.extractLsb' 16 8 ++ x.extractLsb' 24 8

/-- The destination and the communication id that the packet carries, the latter sent with
its high byte first.
-/
def TrdpPacket.key (packet : TrdpPacket) : StreamKey where
  ip := packet.daddr
  comId := packet.comId[0] ++ packet.comId[1] ++ packet.comId[2] ++ packet.comId[3]

theorem ntohl_load32 (bytes : Vector Byte 4)
    : ntohl (load32 bytes) = bytes[0] ++ bytes[1] ++ bytes[2] ++ bytes[3] := by
  have below : ∀ start, 8 ≤ start → ∀ {w : Nat} (high : BitVec w) (low : Byte),
      (high ++ low).extractLsb' start 8 = high.extractLsb' (start - 8) 8 :=
    fun start le _ _ _ => BitVec.extractLsb'_append_eq_of_le le
  simp only [ntohl, load32, below, BitVec.extractLsb'_append_eq_right, BitVec.extractLsb'_eq_self,
    Nat.reduceLeDiff, Nat.reduceSub, Nat.le_refl]

end TsnTrdp.Tadma
