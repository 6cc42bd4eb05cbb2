import TsnTrdp.Lib.Run
import TsnTrdp.Trdp.SendSchedule

/-! The frame of a publisher through its puts: its allocation, its three sizes and its data. A put
runs over the frame, or leaves sizes of other data, in cases that are stated one by one.
-/

namespace TsnTrdp.Trdp

open TsnTrdp.Run TsnTrdp.Queue

/-- A call of `tlp_put`: the session's marshalling function, whether a larger frame can be
allocated, and the data, of which there are as many as the size says.
-/
structure Put where
  marshall : Option TrdpMarshall
  alloc : Bool
  pData : Option (List U8)
  dataSize : U32
  enough : ∀ bytes ∈ pData, dataSize.toNat ≤ bytes.length

/-- `trdp_pdPut` for this call. -/
def Put.on (put : Put) (ele : PdEle) : TrdpErr × PdEle :=
  trdpPdPut put.marshall put.alloc put.pData put.dataSize ele

/-- The data that are put, if any. -/
def Put.bytes (put : Put) : Option (List U8) :=
  if put.dataSize = 0 then none else put.pData.map fun bytes => bytes.take put.dataSize.toNat

/-- What the marshalling function does with the data, where it is used. -/
def Put.marshalled (put : Put) (ele : PdEle) (bytes : List U8)
    : Option (TrdpErr × List U8 × U32) :=
  if Has ele.pktFlags trdpFlagsMarshall then
    put.marshall.map fun marshall => marshall ele.addr.comId bytes
  else none

/-- A publisher; how much was allocated for its frame; the size that it was published with, or that
of its first data; and the data of its last successful put with the size that they have. Before that
they have the published size.
-/
structure Publication where
  ele : PdEle
  allocated : Nat
  published : U32
  data : List U8
  size : U32

/-- A new publisher. -/
def Publication.created (ele : PdEle) : Publication :=
  ⟨ele, ele.grossSize.toNat, ele.dataSize, [], ele.dataSize⟩

/-- A put. The data that it sends are those that were given, or what the marshalling function wrote,
up to the size that this reports.
-/
def putStep (pub : Publication) (put : Put) : Publication :=
  let (err, ele) := put.on pub.ele
  match put.bytes with
  | none => { pub with ele }
  | some bytes =>
      let (_, written, size) := (put.marshalled pub.ele bytes).getD (.noErr, bytes, put.dataSize)
      { ele
        allocated :=
          if pub.ele.dataSize = 0 ∧ put.alloc then (trdpPacketSizePd put.dataSize).toNat
          else pub.allocated
        published := if err = .noErr ∧ pub.published = 0 then put.dataSize else pub.published
        data := if err = .noErr then written.take size.toNat else pub.data
        size := if err = .noErr then size else pub.size }

/-- The frame is as long as its allocation, so that no copy has run over it, and the sizes are those
of the last successful put, of which it has the data.
-/
structure Publication.Sound (pub : Publication) : Prop where
  fits : trdpMinPdHeaderSize + pub.ele.pFrame.data.length = pub.allocated
  dataSize : pub.ele.dataSize = pub.size
  datasetLength : pub.ele.pFrame.frameHead.datasetLength = pub.size
  grossSize : pub.ele.grossSize = trdpPacketSizePd pub.size
  within : pub.ele.grossSize.toNat ≤ pub.allocated
  data : pub.data <+: pub.ele.pFrame.data

/-- What will be sent: the header, how much of the frame, and so much of its data. -/
def PdEle.outgoing (ele : PdEle) : PdHeader × U32 × List U8 :=
  (ele.pFrame.frameHead, ele.grossSize,
    ele.pFrame.data.take (ele.grossSize.toNat - trdpMinPdHeaderSize))

/-- A put that may have another size: the first data of a publisher without data, or data that go
through the marshalling function.
-/
def Publication.MayResize (pub : Publication) (put : Put) : Prop :=
  ∃ bytes, put.bytes = some bytes
    ∧ (pub.published = 0 ∨ put.marshalled pub.ele bytes ≠ none)

/-- What a put has to do. -/
structure PutRight (pub : Publication) (put : Put) : Prop where
  sound : (putStep pub put).Sound
  refused
    : put.dataSize ≠ pub.published → ¬ pub.MayResize put → (put.on pub.ele).1 = .paramErr
  unchanged
    : (put.on pub.ele).1 ≠ .noErr → (put.on pub.ele).2.outgoing = pub.ele.outgoing

/-- How many data the frame has room for when they are copied: first data get a new frame. -/
def Publication.room (pub : Publication) (put : Put) : Nat :=
  if pub.ele.dataSize = 0 then (trdpPacketSizePd put.dataSize).toNat - trdpMinPdHeaderSize
  else pub.ele.pFrame.data.length

/-- What is written changes nothing that will be sent. -/
def Publication.Rewrites (pub : Publication) (written : List U8) : Prop :=
  written.take (pub.ele.grossSize.toNat - trdpMinPdHeaderSize) <+: pub.ele.pFrame.data

/-- Data that are copied: they are too many for any telegram, and not the first; or their size is
the published one, and that of the data before them unless they are the first, which have to get
memory.
-/
def PlainFits (pub : Publication) (put : Put) : Prop :=
  if trdpMaxPdDataSize < put.dataSize.toNat then pub.ele.dataSize ≠ 0
  else
    (pub.published = 0 ∨ put.dataSize = pub.published)
    ∧ if pub.ele.dataSize = 0 then put.alloc = true else put.dataSize = pub.ele.dataSize

/-- Data that go through the marshalling function: first data get memory, what is written fits the
frame, and so does the size that is reported; and a failure reports the size that the data before
had and rewrites them.
-/
def MarshalledFits (pub : Publication) (put : Put) (err : TrdpErr) (written : List U8) (size : U32)
    : Prop :=
  (pub.ele.dataSize = 0
    → put.alloc = true ∧ trdpMinPdHeaderSize ≤ (trdpPacketSizePd put.dataSize).toNat)
  ∧ written.length ≤ pub.room put
  ∧ if trdpMaxPdDataSize < size.toNat then pub.ele.dataSize ≠ 0 ∧ pub.Rewrites written
    else if err = .noErr then size.toNat ≤ pub.room put
    else size = pub.ele.dataSize ∧ pub.Rewrites written

/-- Without data the size is the published one. -/
def PutFits (pub : Publication) (put : Put) : Prop :=
  match put.bytes with
  | none => put.dataSize = pub.published
  | some bytes =>
      match put.marshalled pub.ele bytes with
      | none => PlainFits pub put
      | some (err, written, size) => MarshalledFits pub put err written size

/-- A sound publisher, of which the frame ends at a word. -/
structure PutInv (pub : Publication) : Prop where
  sound : pub.Sound
  aligned : pub.ele.pFrame.data.length % 4 = 0
  small : pub.size.toNat ≤ trdpMaxPdDataSize
  short : pub.data.length ≤ pub.size.toNat
  unpublished : pub.published = 0 → pub.size = 0

-----------------------------------------------------------------------------------------
-- Sizes
-----------------------------------------------------------------------------------------

/-- The size of a packet, padded to words. -/
theorem trdpPacketSizePd_toNat (dataSize : U32)
    : (trdpPacketSizePd dataSize).toNat = (40 + (dataSize.toNat + 3) / 4 * 4) % 2 ^ 32 := by
  have low : (dataSize &&& 3).toNat = dataSize.toNat % 4 := by
    rw [BitVec.toNat_and]
    exact Nat.and_two_pow_sub_one_eq_mod dataSize.toNat 2
  have bound := dataSize.isLt
  have header : (40 : U32).toNat = 40 := rfl
  have word : (4 : U32).toNat = 4 := rfl
  unfold trdpPacketSizePd
  by_cases none : dataSize = 0
  · rw [if_pos none, none]
    rfl
  · rw [if_neg none]
    by_cases odd : dataSize &&& 3 ≠ 0
    · have rest : dataSize.toNat % 4 ≠ 0 := by
        rw [← low]
        exact fun zero => odd (BitVec.eq_of_toNat_eq zero)
      have four : (4 - dataSize % 4).toNat = 4 - dataSize.toNat % 4 := by
        rw [BitVec.toNat_sub, BitVec.toNat_umod, word]
        omega
      rw [if_pos odd, BitVec.toNat_add, BitVec.toNat_add, four, header]
      omega
    · have rest : dataSize.toNat % 4 = 0 := by
        rw [← low, not_not.mp odd]
        rfl
      rw [if_neg odd, BitVec.toNat_add, header]
      omega

theorem trdpPacketSizePd_small {dataSize : U32} (small : dataSize.toNat ≤ trdpMaxPdDataSize)
    : (trdpPacketSizePd dataSize).toNat = 40 + (dataSize.toNat + 3) / 4 * 4 := by
  rw [trdpPacketSizePd_toNat]
  unfold trdpMaxPdDataSize at small
  omega

variable {buffer bytes written : List U8} {n : Nat}

theorem prefix_memcpy (buffer bytes : List U8) : bytes <+: memcpy buffer bytes :=
  List.prefix_append _ _

/-- Of the start of a buffer a copy leaves what it rewrites. -/
theorem take_memcpy
    : (memcpy buffer bytes).take n = buffer.take n ↔ bytes.take n <+: buffer := by
  constructor
  · intro same
    have start : bytes.take n <+: (memcpy buffer bytes).take n :=
      (prefix_memcpy buffer bytes).take n
    rw [same] at start
    exact start.trans (List.take_prefix n buffer)
  · rintro ⟨rest, same⟩
    by_cases long : n ≤ bytes.length
    · have count : (bytes.take n).length = n := by rw [List.length_take, Nat.min_eq_left long]
      rw [memcpy, List.take_append_of_le_length long, ← same, List.take_left' count]
    · rw [List.take_of_length_le (by omega)] at same
      rw [memcpy, ← same, List.drop_left]

-----------------------------------------------------------------------------------------
-- What a put does
-----------------------------------------------------------------------------------------

variable {ele : PdEle} {put : Put} {pub : Publication} {err : TrdpErr} {size : U32}

/-- The element with a frame for its first data. -/
def Put.enlarged (put : Put) (ele : PdEle) : PdEle := (pdEnlarge true put.dataSize ele).2

def PdEle.writeData (ele : PdEle) (written : List U8) : PdEle :=
  { ele with pFrame := { ele.pFrame with data := memcpy ele.pFrame.data written } }

/-- The sizes that a marshalling function reports. -/
def PdEle.resize (ele : PdEle) (dataSize : U32) : PdEle :=
  { ele with
    dataSize
    grossSize := trdpPacketSizePd dataSize
    pFrame :=
      { ele.pFrame with
        frameHead := { ele.pFrame.frameHead with datasetLength := dataSize } } }

/-- The element whose frame is replaced by one for its first data. -/
def PdEle.firstFrame (ele : PdEle) (dataSize : U32) : PdEle :=
  { ele with
    dataSize
    grossSize := trdpPacketSizePd dataSize
    pFrame :=
      { frameHead := { ele.pFrame.frameHead with datasetLength := dataSize }
        data := .replicate ((trdpPacketSizePd dataSize).toNat - trdpMinPdHeaderSize) 0 } }

theorem Put.enlarged_first (put : Put) (first : ele.dataSize = 0)
    : put.enlarged ele = ele.firstFrame put.dataSize := by
  rw [Put.enlarged, pdEnlarge, if_pos first]
  rfl

theorem Put.enlarged_later (put : Put) (later : ele.dataSize ≠ 0) : put.enlarged ele = ele := by
  rw [Put.enlarged, pdEnlarge, if_neg later]

theorem Put.enlarged_keeps (put : Put) (ele : PdEle)
    : (put.enlarged ele).pktFlags = ele.pktFlags ∧ (put.enlarged ele).addr = ele.addr := by
  by_cases first : ele.dataSize = 0
  · rw [put.enlarged_first first]
    exact ⟨rfl, rfl⟩
  · rw [put.enlarged_later first]
    exact ⟨rfl, rfl⟩

theorem pdEnlarge_allocated (alloc : ele.dataSize = 0 → put.alloc = true)
    : pdEnlarge put.alloc put.dataSize ele = (true, put.enlarged ele) := by
  by_cases first : ele.dataSize = 0
  · rw [put.enlarged_first first, pdEnlarge, if_pos first, alloc first]
    rfl
  · rw [put.enlarged_later first, pdEnlarge, if_neg first]

/-- Data of a size, if there are any. -/
theorem sizedData_some {pData : Option (List U8)} {dataSize : U32}
    (given
      : (if dataSize = 0 then none else pData.map fun bytes => bytes.take dataSize.toNat)
        = some bytes)
    : dataSize ≠ 0 ∧ ∃ all, pData = some all ∧ bytes = all.take dataSize.toNat := by
  split at given
  · cases given
  · next sized =>
      obtain ⟨all, data, same⟩ := Option.map_eq_some_iff.mp given
      exact ⟨sized, all, data, same.symm⟩

theorem sizedData_none {pData : Option (List U8)} {dataSize : U32}
    (empty
      : (if dataSize = 0 then none else pData.map fun bytes => bytes.take dataSize.toNat) = none)
    : dataSize = 0 ∨ pData = none := by
  split at empty
  · next zero => exact .inl zero
  · exact .inr (Option.map_eq_none_iff.mp empty)

theorem Put.bytes_some (given : put.bytes = some bytes)
    : put.dataSize ≠ 0
      ∧ ∃ all, put.pData = some all ∧ bytes = all.take put.dataSize.toNat :=
  sizedData_some given

theorem Put.length_bytes (given : put.bytes = some bytes)
    : bytes.length = put.dataSize.toNat := by
  obtain ⟨-, all, data, rfl⟩ := Put.bytes_some given
  rw [List.length_take, Nat.min_eq_left (put.enough all data)]

theorem Put.bytes_none (empty : put.bytes = none) : put.dataSize = 0 ∨ put.pData = none :=
  sizedData_none empty

/-- Without data. -/
theorem Put.on_none (ele : PdEle) (empty : put.bytes = none)
    : put.on ele = (.noErr, ele) ∨ put.on ele = (.noErr, ele.setValid) := by
  unfold Put.on trdpPdPut
  split
  · exact .inr rfl
  · rcases Put.bytes_none empty with zero | absent
    · cases put.pData with
      | none => exact .inl rfl
      | some bytes => exact .inl (if_pos zero)
    · rw [absent]
      exact .inl rfl

/-- First data that get no memory. -/
theorem Put.on_unallocated (given : put.bytes = some bytes) (first : ele.dataSize = 0)
    (alloc : put.alloc = false)
    : put.on ele
      = (.memErr,
        { ele with dataSize := put.dataSize, grossSize := trdpPacketSizePd put.dataSize }) := by
  obtain ⟨sized, all, data, -⟩ := Put.bytes_some given
  have enlarge : pdEnlarge put.alloc put.dataSize ele
      = (false,
        { ele with dataSize := put.dataSize, grossSize := trdpPacketSizePd put.dataSize }) := by
    rw [pdEnlarge, if_pos first, alloc]
    rfl
  unfold Put.on trdpPdPut
  rw [if_neg (fun both => sized both.2), data]
  dsimp only
  rw [if_neg sized, enlarge]

section
variable {marshall : Option TrdpMarshall} {alloc : Bool} {all : List U8} {dataSize : U32}
  {ele' : PdEle}

/-- `trdp_pdPut` of data that are copied. -/
theorem trdpPdPut_plain (sized : dataSize ≠ 0)
    (enlarged : pdEnlarge alloc dataSize ele = (true, ele'))
    (unused : (if Has ele'.pktFlags trdpFlagsMarshall then marshall else none) = none)
    : trdpPdPut marshall alloc (some all) dataSize ele
      = if trdpMaxPdDataSize < dataSize.toNat then (.paramErr, ele')
        else (.noErr, (ele'.writeData (all.take dataSize.toNat)).setValid) := by
  unfold trdpPdPut
  rw [if_neg (fun both => sized both.2)]
  dsimp only
  rw [if_neg sized, enlarged]
  dsimp only
  rw [unused]
  rfl

/-- `trdp_pdPut` of data that go through the marshalling function. -/
theorem trdpPdPut_marshalled {marshaller : TrdpMarshall} (sized : dataSize ≠ 0)
    (enlarged : pdEnlarge alloc dataSize ele = (true, ele'))
    (used : (if Has ele'.pktFlags trdpFlagsMarshall then marshall else none) = some marshaller)
    (result : marshaller ele'.addr.comId (all.take dataSize.toNat) = (err, written, size))
    : trdpPdPut marshall alloc (some all) dataSize ele
      = if trdpMaxPdDataSize < size.toNat then (.paramErr, ele'.writeData written)
        else if err = .noErr then (.noErr, ((ele'.writeData written).resize size).setValid)
        else (err, (ele'.writeData written).resize size) := by
  unfold trdpPdPut
  rw [if_neg (fun both => sized both.2)]
  dsimp only
  rw [if_neg sized, enlarged]
  dsimp only
  rw [used]
  dsimp only
  rw [result]
  rfl

end

/-- Data that are copied. -/
theorem Put.on_plain (given : put.bytes = some bytes) (alloc : ele.dataSize = 0 → put.alloc = true)
    (plain : put.marshalled ele bytes = none)
    : put.on ele
      = if trdpMaxPdDataSize < put.dataSize.toNat then (.paramErr, put.enlarged ele)
        else (.noErr, ((put.enlarged ele).writeData bytes).setValid) := by
  obtain ⟨sized, all, data, rfl⟩ := Put.bytes_some given
  have unused : (if Has (put.enlarged ele).pktFlags trdpFlagsMarshall then put.marshall else none)
      = none := by
    rw [(put.enlarged_keeps ele).1]
    unfold Put.marshalled at plain
    split at plain
    · next flagged => rw [if_pos flagged, Option.map_eq_none_iff.mp plain]
    · next flagged => rw [if_neg flagged]
  rw [Put.on, data]
  exact trdpPdPut_plain sized (pdEnlarge_allocated alloc) unused

/-- Data that go through the marshalling function. -/
theorem Put.on_marshalled (given : put.bytes = some bytes)
    (alloc : ele.dataSize = 0 → put.alloc = true)
    (marshalled : put.marshalled ele bytes = some (err, written, size))
    : put.on ele
      = if trdpMaxPdDataSize < size.toNat then
          (.paramErr, (put.enlarged ele).writeData written)
        else if err = .noErr then
          (.noErr, (((put.enlarged ele).writeData written).resize size).setValid)
        else (err, ((put.enlarged ele).writeData written).resize size) := by
  obtain ⟨sized, all, data, rfl⟩ := Put.bytes_some given
  obtain ⟨flags, addr⟩ := put.enlarged_keeps ele
  unfold Put.marshalled at marshalled
  split at marshalled
  · next flagged =>
      obtain ⟨marshall, used, result⟩ := Option.map_eq_some_iff.mp marshalled
      rw [← flags] at flagged
      rw [← addr] at result
      rw [Put.on, data]
      exact trdpPdPut_marshalled sized (pdEnlarge_allocated alloc) ((if_pos flagged).trans used)
        result
  · cases marshalled

-----------------------------------------------------------------------------------------
-- A publication after a put
-----------------------------------------------------------------------------------------

/-- What is allocated for the frame after a put with data. -/
def Publication.allocatedAfter (pub : Publication) (put : Put) : Nat :=
  if pub.ele.dataSize = 0 ∧ put.alloc then (trdpPacketSizePd put.dataSize).toNat
  else pub.allocated

theorem putStep_none (empty : put.bytes = none)
    : putStep pub put = { pub with ele := (put.on pub.ele).2 } := by
  simp only [putStep, empty]

theorem putStep_done (given : put.bytes = some bytes) (result : put.on pub.ele = (.noErr, ele))
    (reported
      : (put.marshalled pub.ele bytes).getD (.noErr, bytes, put.dataSize) = (err, written, size))
    : putStep pub put
      = ⟨ele, pub.allocatedAfter put, if pub.published = 0 then put.dataSize else pub.published,
          written.take size.toNat, size⟩ := by
  simp only [putStep, given, result, reported, if_true, true_and]
  rfl

theorem putStep_failed (given : put.bytes = some bytes) (result : put.on pub.ele = (err, ele))
    (failed : err ≠ .noErr)
    : putStep pub put = { pub with ele, allocated := pub.allocatedAfter put } := by
  simp only [putStep, given, result, failed, if_false, false_and]
  rfl

theorem length_enlarged (pub : Publication) (put : Put)
    : (put.enlarged pub.ele).pFrame.data.length = pub.room put := by
  unfold Publication.room
  by_cases first : pub.ele.dataSize = 0
  · rw [put.enlarged_first first, if_pos first]
    exact List.length_replicate
  · rw [put.enlarged_later first, if_neg first]

/-- A copy keeps within the frame exactly if there is room for its data; the allocation of a first
frame has to be one for its header.
-/
theorem write_fits (inv : PutInv pub) (alloc : pub.ele.dataSize = 0 → put.alloc = true)
    (written : List U8)
    : trdpMinPdHeaderSize + (memcpy (put.enlarged pub.ele).pFrame.data written).length
        = pub.allocatedAfter put
      ↔ (pub.ele.dataSize = 0 → trdpMinPdHeaderSize ≤ (trdpPacketSizePd put.dataSize).toNat)
        ∧ written.length ≤ pub.room put := by
  rw [length_memcpy, length_enlarged]
  unfold Publication.room Publication.allocatedAfter
  by_cases first : pub.ele.dataSize = 0
  · rw [if_pos first, if_pos ⟨first, alloc first⟩]
    simp only [first, true_implies]
    omega
  · have allocated := inv.sound.fits
    rw [if_neg first, if_neg (fun both => first both.1)]
    simp only [first, false_implies, true_and]
    omega

/-- What fits the frame unpadded fits it padded, since the frame ends at a word. -/
theorem size_fits (inv : PutInv pub) (alloc : pub.ele.dataSize = 0 → put.alloc = true)
    (header
      : pub.ele.dataSize = 0 → trdpMinPdHeaderSize ≤ (trdpPacketSizePd put.dataSize).toNat)
    (small : size.toNat ≤ trdpMaxPdDataSize)
    : (trdpPacketSizePd size).toNat ≤ pub.allocatedAfter put ↔ size.toNat ≤ pub.room put := by
  rw [trdpPacketSizePd_small small]
  unfold Publication.room Publication.allocatedAfter
  unfold trdpMinPdHeaderSize at *
  by_cases first : pub.ele.dataSize = 0
  · have padded := trdpPacketSizePd_toNat put.dataSize
    have header := header first
    rw [if_pos first, if_pos ⟨first, alloc first⟩]
    omega
  · have allocated := inv.sound.fits
    have aligned := inv.aligned
    unfold trdpMinPdHeaderSize at allocated
    rw [if_neg first, if_neg (fun both => first both.1)]
    omega

/-- What will be sent has room in the frame. -/
theorem PutInv.sent_within (inv : PutInv pub)
    : pub.ele.grossSize.toNat - trdpMinPdHeaderSize ≤ pub.ele.pFrame.data.length := by
  have fits := inv.sound.fits
  have within := inv.sound.within
  omega

/-- Data that are copied over others change what will be sent unless they rewrite it. -/
theorem outgoing_writeData (written : List U8)
    : (pub.ele.writeData written).outgoing = pub.ele.outgoing ↔ pub.Rewrites written := by
  rw [Publication.Rewrites, ← take_memcpy]
  simp only [PdEle.outgoing, PdEle.writeData, Prod.mk.injEq, true_and]

-----------------------------------------------------------------------------------------
-- Cases of a put
-----------------------------------------------------------------------------------------

theorem put_none_right (inv : PutInv pub) (empty : put.bytes = none)
    : PutRight pub put ↔ put.dataSize = pub.published := by
  have done : (put.on pub.ele).1 = .noErr := by
    rcases Put.on_none pub.ele empty with same | same <;> rw [same]
  have fixed : ¬ pub.MayResize put := by
    rintro ⟨bytes, given, -⟩
    rw [empty] at given
    cases given
  constructor
  · intro right
    by_contra other
    have refused := right.refused other fixed
    rw [done] at refused
    cases refused
  · intro same
    refine ⟨?_, fun other => absurd same other, fun failed => absurd done failed⟩
    rw [putStep_none empty]
    rcases Put.on_none pub.ele empty with result | result
    · rw [result]
      exact inv.sound
    · rw [result]
      exact ⟨inv.sound.fits, inv.sound.dataSize, inv.sound.datasetLength, inv.sound.grossSize,
        inv.sound.within, inv.sound.data⟩

/-- First data without memory leave the size of data that are not there. -/
theorem put_unallocated_wrong (inv : PutInv pub) (given : put.bytes = some bytes)
    (first : pub.ele.dataSize = 0) (alloc : put.alloc = false)
    : ¬ PutRight pub put := by
  intro right
  have size := right.sound.dataSize
  rw [putStep_failed given (Put.on_unallocated given first alloc) (by decide)] at size
  exact (Put.bytes_some given).1 (size.trans (inv.sound.dataSize.symm.trans first))

/-- What a put that fails has to keep. -/
theorem failed_right (inv : PutInv pub) (given : put.bytes = some bytes)
    (result : put.on pub.ele = (err, ele)) (failed : err ≠ .noErr)
    (answered : err = .paramErr ∨ pub.MayResize put)
    : PutRight pub put
      ↔ trdpMinPdHeaderSize + ele.pFrame.data.length = pub.allocatedAfter put
        ∧ ele.dataSize = pub.ele.dataSize ∧ ele.outgoing = pub.ele.outgoing := by
  have step := putStep_failed given result failed
  constructor
  · intro right
    have sound := right.sound
    have unchanged := right.unchanged
    rw [step] at sound
    rw [result] at unchanged
    exact ⟨sound.fits, sound.dataSize.trans inv.sound.dataSize.symm, unchanged failed⟩
  · rintro ⟨fits, dataSize, same⟩
    have parts := same
    simp only [PdEle.outgoing, Prod.mk.injEq] at parts
    obtain ⟨head, gross, data⟩ := parts
    rw [gross] at data
    have small := trdpPacketSizePd_small inv.small
    have sent := inv.sent_within
    have short := inv.short
    rw [inv.sound.grossSize, small] at data sent
    refine ⟨?_, fun _ fixed => ?_, fun _ => by rw [result]; exact same⟩
    · rw [step]
      refine ⟨fits, dataSize.trans inv.sound.dataSize, ?_, gross.trans inv.sound.grossSize, ?_, ?_⟩
      · rw [head]
        exact inv.sound.datasetLength
      · have length := congrArg List.length data
        simp only [List.length_take] at length
        rw [gross, inv.sound.grossSize, small]
        unfold trdpMinPdHeaderSize at *
        dsimp only
        omega
      · have start := List.prefix_take_iff.mpr ⟨inv.sound.data, short.trans
          (by unfold trdpMinPdHeaderSize; omega : pub.size.toNat
            ≤ 40 + (pub.size.toNat + 3) / 4 * 4 - trdpMinPdHeaderSize)⟩
        rw [← data] at start
        exact start.trans (List.take_prefix _ _)
    · rw [result]
      exact answered.resolve_right fixed

/-- The sizes of an element for which there is room. -/
theorem enlarged_sizes (inv : PutInv pub) (put : Put)
    : (put.enlarged pub.ele).pFrame.frameHead.datasetLength = (put.enlarged pub.ele).dataSize
      ∧ (put.enlarged pub.ele).grossSize
        = trdpPacketSizePd (put.enlarged pub.ele).dataSize := by
  by_cases first : pub.ele.dataSize = 0
  · rw [put.enlarged_first first]
    exact ⟨rfl, rfl⟩
  · rw [put.enlarged_later first, inv.sound.datasetLength, inv.sound.grossSize,
      inv.sound.dataSize]
    exact ⟨rfl, rfl⟩

theorem resize_same (length : ele.pFrame.frameHead.datasetLength = ele.dataSize)
    (gross : ele.grossSize = trdpPacketSizePd ele.dataSize)
    : ele.resize ele.dataSize = ele := by
  have head : { ele.pFrame.frameHead with datasetLength := ele.dataSize }
      = ele.pFrame.frameHead := by
    rw [← length]
  rw [PdEle.resize, head, ← gross]

/-- Data that are too many are refused, and the first data leave their size. -/
theorem put_large_right (inv : PutInv pub) (given : put.bytes = some bytes)
    (alloc : pub.ele.dataSize = 0 → put.alloc = true)
    (plain : put.marshalled pub.ele bytes = none)
    (large : trdpMaxPdDataSize < put.dataSize.toNat)
    : PutRight pub put ↔ pub.ele.dataSize ≠ 0 := by
  have result := Put.on_plain given alloc plain
  rw [if_pos large] at result
  rw [failed_right inv given result (by decide) (.inl rfl)]
  constructor
  · rintro ⟨-, size, -⟩ first
    rw [put.enlarged_first first] at size
    exact (Put.bytes_some given).1 (size.trans first)
  · intro later
    rw [put.enlarged_later later, Publication.allocatedAfter, if_neg (fun both => later both.1)]
    exact ⟨inv.sound.fits, rfl, rfl⟩

/-- Data of the size that the element has leave it sound when they are copied. -/
theorem copied_sound (inv : PutInv pub) (given : put.bytes = some bytes)
    (alloc : pub.ele.dataSize = 0 → put.alloc = true)
    (plain : put.marshalled pub.ele bytes = none)
    (small : put.dataSize.toNat ≤ trdpMaxPdDataSize)
    (size : (put.enlarged pub.ele).dataSize = put.dataSize)
    : (putStep pub put).Sound := by
  have result := Put.on_plain given alloc plain
  rw [if_neg (not_lt.mpr small)] at result
  obtain ⟨length, gross⟩ := enlarged_sizes inv put
  have header : pub.ele.dataSize = 0
      → trdpMinPdHeaderSize ≤ (trdpPacketSizePd put.dataSize).toNat := by
    intro
    rw [trdpPacketSizePd_small small, trdpMinPdHeaderSize]
    omega
  have within : (trdpPacketSizePd put.dataSize).toNat ≤ pub.allocatedAfter put := by
    unfold Publication.allocatedAfter
    by_cases first : pub.ele.dataSize = 0
    · rw [if_pos ⟨first, alloc first⟩]
    · rw [if_neg (fun both => first both.1), ← size, ← gross, put.enlarged_later first]
      exact inv.sound.within
  have room := (size_fits inv alloc header small).mp within
  rw [putStep_done given result (by rw [plain, Option.getD_none])]
  refine ⟨(write_fits inv alloc bytes).mpr ⟨header, ?_⟩, size, length.trans size, ?_, ?_, ?_⟩
  · rw [Put.length_bytes given]
    exact room
  · exact gross.trans (congrArg _ size)
  · refine le_trans (le_of_eq ?_) within
    exact congrArg BitVec.toNat (gross.trans (congrArg _ size))
  · exact (List.take_prefix _ _).trans (prefix_memcpy _ _)

/-- Data that are copied have to have the published size, and the one that the element has. -/
theorem put_copied_right (inv : PutInv pub) (given : put.bytes = some bytes)
    (alloc : pub.ele.dataSize = 0 → put.alloc = true)
    (plain : put.marshalled pub.ele bytes = none)
    (small : ¬ trdpMaxPdDataSize < put.dataSize.toNat)
    : PutRight pub put
      ↔ (pub.published = 0 ∨ put.dataSize = pub.published)
        ∧ (put.enlarged pub.ele).dataSize = put.dataSize := by
  have result := Put.on_plain given alloc plain
  rw [if_neg small] at result
  constructor
  · intro right
    have sound := right.sound
    rw [putStep_done given result (by rw [plain, Option.getD_none])] at sound
    refine ⟨?_, sound.dataSize⟩
    -- another size would have to be refused, but the data are copied and reported as put
    by_contra other
    obtain ⟨sized, differs⟩ := not_or.mp other
    have refused := right.refused differs fun ⟨_, same, resizes⟩ => by
      obtain rfl := Option.some.inj (given.symm.trans same)
      exact resizes.elim sized (fun used => used plain)
    rw [result] at refused
    cases refused
  · rintro ⟨published, size⟩
    refine ⟨copied_sound inv given alloc plain (not_lt.mp small) size, fun differs fixed => ?_,
      fun failed => ?_⟩
    · exact absurd (published.resolve_right differs) fun none => fixed ⟨bytes, given, .inl none⟩
    · rw [result] at failed
      exact absurd rfl failed

theorem put_plain_right (inv : PutInv pub) (given : put.bytes = some bytes)
    (alloc : pub.ele.dataSize = 0 → put.alloc = true)
    (plain : put.marshalled pub.ele bytes = none)
    : PutRight pub put ↔ PlainFits pub put := by
  unfold PlainFits
  by_cases large : trdpMaxPdDataSize < put.dataSize.toNat
  · rw [if_pos large]
    exact put_large_right inv given alloc plain large
  · rw [if_neg large, put_copied_right inv given alloc plain large]
    by_cases first : pub.ele.dataSize = 0
    · rw [if_pos first, put.enlarged_first first]
      exact and_congr_right fun _ => iff_of_true rfl (alloc first)
    · rw [if_neg first, put.enlarged_later first]
      exact and_congr_right fun _ => eq_comm

/-- Before its first data a publisher sends no data. -/
theorem rewrites_first (inv : PutInv pub) (first : pub.ele.dataSize = 0) (written : List U8)
    : pub.Rewrites written := by
  have none : pub.ele.grossSize.toNat - trdpMinPdHeaderSize = 0 := by
    rw [inv.sound.grossSize, ← inv.sound.dataSize, first]
    rfl
  rw [Publication.Rewrites, none]
  exact List.nil_prefix

/-- A size that no telegram can have is refused after the data were written. -/
theorem put_oversized_right (inv : PutInv pub) (given : put.bytes = some bytes)
    (alloc : pub.ele.dataSize = 0 → put.alloc = true)
    (marshalled : put.marshalled pub.ele bytes = some (err, written, size))
    (large : trdpMaxPdDataSize < size.toNat)
    : PutRight pub put
      ↔ written.length ≤ pub.room put ∧ pub.ele.dataSize ≠ 0 ∧ pub.Rewrites written := by
  have result := Put.on_marshalled given alloc marshalled
  rw [if_pos large] at result
  rw [failed_right inv given result (by decide) (.inl rfl)]
  constructor
  · rintro ⟨fits, same, unchanged⟩
    have later : pub.ele.dataSize ≠ 0 := by
      intro first
      rw [put.enlarged_first first] at same
      exact (Put.bytes_some given).1 (same.trans first)
    rw [put.enlarged_later later] at unchanged
    exact ⟨((write_fits inv alloc written).mp fits).2, later, (outgoing_writeData _).mp unchanged⟩
  · rintro ⟨room, later, rewrites⟩
    refine ⟨(write_fits inv alloc written).mpr ⟨fun first => absurd first later, room⟩, ?_⟩
    rw [put.enlarged_later later]
    exact ⟨rfl, (outgoing_writeData _).mpr rewrites⟩

/-- A failure of the marshalling function has to leave the size and the data. -/
theorem put_failed_right (inv : PutInv pub) (given : put.bytes = some bytes)
    (alloc : pub.ele.dataSize = 0 → put.alloc = true)
    (marshalled : put.marshalled pub.ele bytes = some (err, written, size))
    (small : ¬ trdpMaxPdDataSize < size.toNat) (failed : err ≠ .noErr)
    : PutRight pub put
      ↔ ((pub.ele.dataSize = 0 → trdpMinPdHeaderSize ≤ (trdpPacketSizePd put.dataSize).toNat)
          ∧ written.length ≤ pub.room put)
        ∧ size = pub.ele.dataSize ∧ pub.Rewrites written := by
  have result := Put.on_marshalled given alloc marshalled
  rw [if_neg small, if_neg failed] at result
  have resizes : pub.MayResize put :=
    ⟨bytes, given, .inr (by rw [marshalled]; exact Option.some_ne_none _)⟩
  rw [failed_right inv given result failed (.inr resizes)]
  refine and_congr (write_fits inv alloc written) (and_congr_right fun same => ?_)
  have same : size = pub.ele.dataSize := same
  by_cases first : pub.ele.dataSize = 0
  · refine iff_of_true ?_ (rewrites_first inv first written)
    have length : pub.ele.pFrame.frameHead.datasetLength = 0 :=
      inv.sound.datasetLength.trans (inv.sound.dataSize.symm.trans first)
    have gross : pub.ele.grossSize = trdpPacketSizePd 0 := by
      rw [inv.sound.grossSize, ← inv.sound.dataSize, first]
    have head : { pub.ele.pFrame.frameHead with datasetLength := 0 }
        = pub.ele.pFrame.frameHead := by
      rw [← length]
    have sent : (trdpPacketSizePd 0).toNat - trdpMinPdHeaderSize = 0 := rfl
    rw [put.enlarged_first first, same, first]
    simp only [PdEle.outgoing, PdEle.resize, PdEle.writeData, PdEle.firstFrame, gross, head, sent,
      List.take_zero]
  · rw [put.enlarged_later first, same]
    have kept : (pub.ele.writeData written).resize pub.ele.dataSize
        = pub.ele.writeData written :=
      resize_same (inv.sound.datasetLength.trans inv.sound.dataSize.symm)
        (inv.sound.grossSize.trans (congrArg _ inv.sound.dataSize.symm))
    rw [kept]
    exact outgoing_writeData written

/-- What the marshalling function makes of the data has to fit, as has the size it reports. -/
theorem put_done_right (inv : PutInv pub) (given : put.bytes = some bytes)
    (alloc : pub.ele.dataSize = 0 → put.alloc = true)
    (marshalled : put.marshalled pub.ele bytes = some (.noErr, written, size))
    (small : ¬ trdpMaxPdDataSize < size.toNat)
    : PutRight pub put
      ↔ ((pub.ele.dataSize = 0 → trdpMinPdHeaderSize ≤ (trdpPacketSizePd put.dataSize).toNat)
          ∧ written.length ≤ pub.room put)
        ∧ size.toNat ≤ pub.room put := by
  have result := Put.on_marshalled given alloc marshalled
  rw [if_neg small, if_pos rfl] at result
  have step := putStep_done given result (by rw [marshalled, Option.getD_some])
  constructor
  · intro right
    have sound := right.sound
    rw [step] at sound
    have fits := (write_fits inv alloc written).mp sound.fits
    exact ⟨fits, (size_fits inv alloc fits.1 (not_lt.mp small)).mp sound.within⟩
  · rintro ⟨fits, room⟩
    refine ⟨?_, fun _ fixed => ?_, fun failed => ?_⟩
    · rw [step]
      exact ⟨(write_fits inv alloc written).mpr fits, rfl, rfl, rfl,
        (size_fits inv alloc fits.1 (not_lt.mp small)).mpr room,
        (List.take_prefix _ _).trans (prefix_memcpy _ _)⟩
    · exact absurd ⟨bytes, given, .inr (by rw [marshalled]; exact Option.some_ne_none _)⟩ fixed
    · rw [result] at failed
      exact absurd rfl failed

theorem put_marshalled_right (inv : PutInv pub) (given : put.bytes = some bytes)
    (alloc : pub.ele.dataSize = 0 → put.alloc = true)
    (marshalled : put.marshalled pub.ele bytes = some (err, written, size))
    : PutRight pub put ↔ MarshalledFits pub put err written size := by
  have memory : (pub.ele.dataSize = 0
        → put.alloc = true ∧ trdpMinPdHeaderSize ≤ (trdpPacketSizePd put.dataSize).toNat)
      ↔ (pub.ele.dataSize = 0 → trdpMinPdHeaderSize ≤ (trdpPacketSizePd put.dataSize).toNat) :=
    forall_congr' fun first => and_iff_right (alloc first)
  unfold MarshalledFits
  rw [memory]
  by_cases large : trdpMaxPdDataSize < size.toNat
  · rw [if_pos large, put_oversized_right inv given alloc marshalled large]
    constructor
    · exact fun ⟨room, later, rewrites⟩ => ⟨fun first => absurd first later, room, later, rewrites⟩
    · exact fun fits => fits.2
  · rw [if_neg large, ← and_assoc]
    by_cases done : err = .noErr
    · rw [if_pos done]
      rw [done] at marshalled
      exact put_done_right inv given alloc marshalled large
    · rw [if_neg done]
      exact put_failed_right inv given alloc marshalled large done

/-- One put, from a sound publisher. -/
theorem put_right (inv : PutInv pub) (put : Put) : PutRight pub put ↔ PutFits pub put := by
  unfold PutFits
  cases given : put.bytes with
  | none => exact put_none_right inv given
  | some bytes =>
      dsimp only
      by_cases alloc : pub.ele.dataSize = 0 → put.alloc = true
      · cases marshalled : put.marshalled pub.ele bytes with
        | none => exact put_plain_right inv given alloc marshalled
        | some result =>
            obtain ⟨err, written, size⟩ := result
            exact put_marshalled_right inv given alloc marshalled
      · obtain ⟨first, none⟩ := Classical.not_imp.mp alloc
        refine iff_of_false
          (put_unallocated_wrong inv given first (Bool.eq_false_iff.mpr none)) ?_
        cases marshalled : put.marshalled pub.ele bytes with
        | none =>
            unfold PlainFits
            dsimp only
            rw [if_pos first]
            split
            · exact fun later => later first
            · exact fun fits => none fits.2
        | some result =>
            obtain ⟨err, written, size⟩ := result
            exact fun fits => none (fits.1 first).1

-----------------------------------------------------------------------------------------
-- Runs
-----------------------------------------------------------------------------------------

/-- A put that succeeds reports a size that a telegram can have. -/
theorem reported_small (given : put.bytes = some bytes) {ele' : PdEle}
    (result : put.on ele = (.noErr, ele'))
    (reported
      : (put.marshalled ele bytes).getD (.noErr, bytes, put.dataSize) = (err, written, size))
    : size.toNat ≤ trdpMaxPdDataSize := by
  by_cases alloc : ele.dataSize = 0 → put.alloc = true
  · by_contra large
    have large := not_le.mp large
    cases marshalled : put.marshalled ele bytes with
    | none =>
        rw [marshalled, Option.getD_none] at reported
        cases reported
        rw [Put.on_plain given alloc marshalled, if_pos large] at result
        cases result
    | some reports =>
        rw [marshalled, Option.getD_some] at reported
        rw [reported] at marshalled
        rw [Put.on_marshalled given alloc marshalled, if_pos large] at result
        cases result
  · obtain ⟨first, none⟩ := Classical.not_imp.mp alloc
    rw [Put.on_unallocated given first (Bool.eq_false_iff.mpr none)] at result
    cases result

theorem allocatedAfter_aligned (inv : PutInv pub) (put : Put)
    : pub.allocatedAfter put % 4 = 0 := by
  have fits := inv.sound.fits
  have aligned := inv.aligned
  have padded := trdpPacketSizePd_toNat put.dataSize
  unfold trdpMinPdHeaderSize at fits
  unfold Publication.allocatedAfter
  split
  · omega
  · omega

/-- A sound publisher with the data that it had. -/
theorem PutInv.of_same {pub' : Publication} (inv : PutInv pub) (sound : pub'.Sound)
    (aligned : pub'.ele.pFrame.data.length % 4 = 0) (data : pub'.data = pub.data)
    (size : pub'.size = pub.size) (published : pub'.published = pub.published)
    : PutInv pub' where
  sound := sound
  aligned := aligned
  small := size ▸ inv.small
  short := by
    rw [data, size]
    exact inv.short
  unpublished := by
    rw [published, size]
    exact inv.unpublished

/-- What is allocated for the frame ends at a word, as the frame does. -/
theorem aligned_putStep (inv : PutInv pub) (put : Put) (sound : (putStep pub put).Sound)
    : (putStep pub put).ele.pFrame.data.length % 4 = 0 := by
  have fits := sound.fits
  cases given : put.bytes with
  | none =>
      have before := inv.sound.fits
      have aligned := inv.aligned
      rw [putStep_none given] at fits ⊢
      dsimp only at fits ⊢
      omega
  | some bytes =>
      have allocated := allocatedAfter_aligned inv put
      have same : (putStep pub put).allocated = pub.allocatedAfter put := by
        simp only [putStep, given]
        rfl
      rw [same] at fits
      unfold trdpMinPdHeaderSize at fits
      omega

/-- A sound publisher stays one whose frame ends at a word. -/
theorem putInv_putStep (inv : PutInv pub) (put : Put) (sound : (putStep pub put).Sound)
    : PutInv (putStep pub put) := by
  have aligned := aligned_putStep inv put sound
  cases given : put.bytes with
  | none =>
      have step : putStep pub put = { pub with ele := (put.on pub.ele).2 } := putStep_none given
      exact inv.of_same sound aligned (by rw [step]) (by rw [step]) (by rw [step])
  | some bytes =>
      obtain ⟨⟨err, written, size⟩, reported⟩ :
          ∃ result, (put.marshalled pub.ele bytes).getD (.noErr, bytes, put.dataSize) = result :=
        ⟨_, rfl⟩
      obtain ⟨⟨ret, ele⟩, result⟩ : ∃ result, put.on pub.ele = result := ⟨_, rfl⟩
      by_cases done : ret = .noErr
      · rw [done] at result
        have step := putStep_done given result reported
        refine ⟨sound, aligned, ?_, ?_, ?_⟩
        · rw [step]
          exact reported_small given result reported
        · rw [step]
          exact List.length_take_le _ _
        · rw [step]
          dsimp only
          split
          · exact fun none => absurd none (Put.bytes_some given).1
          · next published => exact fun none => absurd none published
      · have step := putStep_failed given result done
        exact inv.of_same sound aligned (by rw [step]) (by rw [step]) (by rw [step])

theorem putInv_created (env : PublishEnv) (args : PublishArgs) (session : TrdpSession)
    (socketIdx : Int) (small : args.dataSize.toNat ≤ trdpMaxPdDataSize)
    : PutInv (.created (newPublisher env args session socketIdx)) := by
  have size := trdpPacketSizePd_small small
  have length : (newPublisher env args session socketIdx).pFrame.data.length
      = (trdpPacketSizePd args.dataSize).toNat - trdpMinPdHeaderSize := List.length_replicate
  refine ⟨⟨?_, rfl, rfl, rfl, le_rfl, List.nil_prefix⟩, ?_, small, Nat.zero_le _, id⟩
  · have gross : (Publication.created (newPublisher env args session socketIdx)).allocated
        = (trdpPacketSizePd args.dataSize).toNat := rfl
    rw [gross, Publication.created, length, size, trdpMinPdHeaderSize]
    omega
  · rw [Publication.created, length, size, trdpMinPdHeaderSize]
    omega

/-- For every publisher created with a size that a telegram can have, and all puts after that: each
leaves a sound publisher and is answered as it has to be, and a failed one leaves what will be sent,
exactly if each put fits.
-/
theorem puts_keep_frame (env : PublishEnv) (args : PublishArgs) (session : TrdpSession)
    (socketIdx : Int) (small : args.dataSize.toNat ≤ trdpMaxPdDataSize) (puts : List Put)
    : Along putStep PutRight (.created (newPublisher env args session socketIdx)) puts
      ↔ Along putStep PutFits (.created (newPublisher env args session socketIdx)) puts := by
  have keeps : ∀ pub put, PutInv pub → PutFits pub put → PutInv (putStep pub put) :=
    fun pub put inv fits => putInv_putStep inv put ((put_right inv put).mpr fits).sound
  exact Along.iff_of_invariant keeps (fun pub put inv => put_right inv put)
    (putInv_created env args session socketIdx small) puts

/-- What `tlp_put` does to the queue is a put of the element that it names. -/
theorem tlpPut_putStep {session : TrdpSession} {handle : Nat}
    (found : session.pSndQueue.find? (PdEle.isAt handle) = some pub.ele) (put : Put)
    (marshall : put.marshall = session.marshall)
    : (tlpPut handle put.alloc put.pData put.dataSize session).1 = (put.on pub.ele).1
      ∧ (tlpPut handle put.alloc put.pData put.dataSize session).2.pSndQueue.find?
          (PdEle.isAt handle)
        = some (putStep pub put).ele := by
  have same : (putStep pub put).ele = (put.on pub.ele).2 := by
    cases given : put.bytes with
    | none => rw [putStep_none given]
    | some bytes =>
        simp only [putStep, given]
  have handles : ∀ ele, (PdEle.isAt handle
        (trdpPdPut session.marshall put.alloc put.pData put.dataSize ele).2)
      = PdEle.isAt handle ele := by
    intro ele
    rw [PdEle.isAt, (trdpPdPut_keeps ..).same.handle, PdEle.isAt]
  unfold tlpPut
  rw [found]
  dsimp only
  rw [find?_modifyFirst handles, found, same, Put.on, marshall]
  exact ⟨rfl, rfl⟩

/-- A publisher of four bytes. -/
def fourBytes : Publication :=
  .created (newPublisher (publishEnv 1) (cyclicPublisher (some [1, 2, 3, 4])) openedSession 0)

/-- A put without a marshalling function, and without memory for another frame. -/
def plainPut (bytes : List U8) (small : bytes.length < 2 ^ 32) : Put where
  marshall := none
  alloc := false
  pData := some bytes
  dataSize := BitVec.ofNat 32 bytes.length
  enough := by
    intro data same
    cases same
    rw [BitVec.toNat_ofNat, Nat.mod_eq_of_lt small]

theorem puts_keep_frame_four
    : Along putStep PutRight fourBytes [plainPut [5, 6, 7, 8] (by decide)] :=
  (puts_keep_frame (publishEnv 1) (cyclicPublisher (some [1, 2, 3, 4])) openedSession 0
    (by decide) _).mpr ⟨⟨.inr rfl, rfl⟩, trivial⟩

/-- Eight bytes are copied into a frame for four, and no error is returned. -/
theorem larger_put_overruns
    : ((plainPut [1, 2, 3, 4, 5, 6, 7, 8] (by decide)).on fourBytes.ele).1 = .noErr
      ∧ ((plainPut [1, 2, 3, 4, 5, 6, 7, 8] (by decide)).on fourBytes.ele).2.pFrame.data.length = 8
      ∧ fourBytes.allocated = trdpMinPdHeaderSize + 4
      ∧ ¬ Along putStep PutRight fourBytes [plainPut [1, 2, 3, 4, 5, 6, 7, 8] (by decide)] := by
  refine ⟨by decide, by decide, by decide, fun right => ?_⟩
  have fits := right.1.sound.fits
  revert fits
  decide

end TsnTrdp.Trdp
