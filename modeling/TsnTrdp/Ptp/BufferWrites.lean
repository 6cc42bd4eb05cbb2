import TsnTrdp.Lib.Slots
import TsnTrdp.Ptp.Receive

/-! The words that a PTP transmission writes. What comes to the PTP queue is decided by two fields
of the frame; the frame is then copied whole to a buffer of 256 bytes, whose last eight take the
time stamp.
-/

namespace TsnTrdp.Ptp

open TsnTrdp.Slots
open TsnTrdp.Tadma (U32)

abbrev U16 : Type := BitVec 16

-----------------------------------------------------------------------------------------
-- Which frames come to the PTP queue
-----------------------------------------------------------------------------------------

def beQueueNumber : Nat := 0
def resQueueNumber : Nat := 1
def stQueueNumber : Nat := 2
def ptpQueueNumber : Nat := 3

def ethPIp : U16 := 0x0800
def ethP1588 : U16 := 0x88f7
def ipprotoUdp : U8 := 17

/-- What the transmit functions read of a socket buffer: the memory from `skb->data` on, of which
the frame has the first `len` bytes, and where the network and the transport header begin in it.
-/
structure FrameSkb where
  mem : Nat → U8
  len : U32
  networkHeader : Nat
  transportHeader : Nat

namespace FrameSkb

/-- A field of two bytes, in network order. -/
def field (skb : FrameSkb) (offset : Nat) : U16 := skb.mem offset ++ skb.mem (offset + 1)

def hProto (skb : FrameSkb) : U16 := skb.field 12
def udpDest (skb : FrameSkb) : U16 := skb.field (skb.transportHeader + 2)
def ipProtocol (skb : FrameSkb) : U8 := skb.mem (skb.networkHeader + 9)

/-- The frame. -/
def data (skb : FrameSkb) : List U8 := (List.range skb.len.toNat).map skb.mem

end FrameSkb

/-- What the driver's state says about PTP, and about the queues. -/
structure PtpLocal where
  ptpTsType : HwtstampTxType
  flagPtpV2Udp : Bool
  tsnBridgeepEponly : Bool
  hasTadma : Bool
  deriving DecidableEq, Repr

/-- `axienet_tsn_pcp_to_queue`. -/
def axienetTsnPcpToQueue (lp : PtpLocal) (skb : FrameSkb) : Nat :=
  if skb.hProto = ethPIp then
    if lp.hasTadma ∧ skb.ipProtocol = ipprotoUdp then stQueueNumber else resQueueNumber
  else beQueueNumber

/-- `axienet_tsn_select_queue`. -/
def axienetTsnSelectQueue (lp : PtpLocal) (skb : FrameSkb) : Nat :=
  if skb.hProto = ethP1588 ∨ lp.flagPtpV2Udp ∧ skb.hProto = ethPIp ∧ skb.udpDest = 0x013f then
    ptpQueueNumber
  else if lp.tsnBridgeepEponly then axienetTsnPcpToQueue lp skb
  else beQueueNumber

-----------------------------------------------------------------------------------------
-- The words
-----------------------------------------------------------------------------------------

def ptpTxControlOffset : Nat := 0x00012000
def ptpTxBufferOffset (index : Nat) : Nat := 0x00011000 + index * 0x100
def ptpTxCmdFieldLen : Nat := 8
def ptpTxBufferCmd2Field : Nat := 4

/-- A word of up to four bytes, stored little-endian. -/
def leWord (bytes : List U8) : U32 :=
  bytes.getD 3 0 ++ bytes.getD 2 0 ++ bytes.getD 1 0 ++ bytes.getD 0 0

/-- `memcpy_toio_32`: the words that are written. -/
def memcpyToio32 (offset : Nat) : List U8 → List (Nat × U32)
  | [] => []
  | b₀ :: b₁ :: b₂ :: b₃ :: rest =>
      (offset, leWord [b₀, b₁, b₂, b₃]) :: memcpyToio32 (offset + 4) rest
  | left => [(offset, leWord left)]

def FrameSkb.msgType (skb : FrameSkb) : U8 := skb.mem ethHlen

/-- `is_sync`. -/
def FrameSkb.isSync (skb : FrameSkb) : Bool := skb.msgType &&& 0xf = ptpTypeSync

/-- `axienet_ptp_xmit`: the words that are written for the frame. -/
def frameWrites (tsType : HwtstampTxType) (skb : FrameSkb) (freeIndex : Nat) : List (Nat × U32) :=
  let oneStep : Bool := tsType = .onestepSync ∧ skb.isSync
  [(ptpTxBufferOffset freeIndex, (if oneStep then ptpTxCmd1StepShift else 0) ||| skb.len),
    (ptpTxBufferOffset freeIndex + ptpTxBufferCmd2Field, if oneStep then ptpTodFieldOffset else 0)]
    ++ memcpyToio32 (ptpTxBufferOffset freeIndex + ptpTxCmdFieldLen) skb.data

/-- The words of the transmit block by their offsets, and its control register. -/
structure PtpRegs where
  mem : Nat → U32
  waiting : BitVec 8
  packet : BitVec 3

/-- The buffers of the block, as their words have them. -/
def PtpRegs.block (regs : PtpRegs) : Block where
  buffers i :=
    { cmd1 := regs.mem (ptpTxBufferOffset i)
      cmd2 := regs.mem (ptpTxBufferOffset i + ptpTxBufferCmd2Field)
      frame := none
      tstamp :=
        ⟨regs.mem (ptpTxBufferOffset i + ptpHwTstampOffset),
          regs.mem (ptpTxBufferOffset i + ptpHwTstampOffset + 4)⟩ }
  waiting := regs.waiting
  packet := regs.packet

/-- `axienet_iow`. A write to the control register adds waiting bits. -/
def PtpRegs.axienetIow (regs : PtpRegs) (write : Nat × U32) : PtpRegs :=
  if write.1 = ptpTxControlOffset then
    { regs with waiting := regs.waiting ||| write.2.setWidth 8 }
  else { regs with mem := Function.update regs.mem write.1 write.2 }

/-- `axienet_ptp_xmit`, as far as it concerns the block. -/
def axienetPtpXmit (tsType : HwtstampTxType) (skb : FrameSkb) (regs : PtpRegs) : PtpRegs :=
  let waiting := txFrameWaiting regs.block
  if waiting &&& (1 <<< 7) ≠ 0 then regs
  else
    ((frameWrites tsType skb (fls waiting)).foldl PtpRegs.axienetIow regs).axienetIow
      (ptpTxControlOffset, (1 : U32) <<< fls waiting)

/-- `axienet_tsn_xmit`, as far as it concerns the block. -/
def axienetTsnXmit (lp : PtpLocal) (skb : FrameSkb) (regs : PtpRegs) : PtpRegs :=
  if axienetTsnSelectQueue lp skb = ptpQueueNumber then axienetPtpXmit lp.ptpTsType skb regs
  else regs

/-- A byte of the words from `offset` on. -/
def byteAt (mem : Nat → U32) (offset k : Nat) : U8 :=
  (mem (offset + 4 * (k / 4)) >>> (8 * (k % 4))).setWidth 8

/-- The frame is a SYNC message: behind the Ethernet header, or behind that of UDP. -/
def FrameSkb.SyncFrame (skb : FrameSkb) : Prop :=
  let offset := if skb.hProto = ethP1588 then ethHlen else skb.transportHeader + 8
  offset < skb.len.toNat ∧ skb.mem offset &&& 0xf = ptpTypeSync

instance (skb : FrameSkb) : Decidable skb.SyncFrame := inferInstanceAs (Decidable (_ ∧ _))

/-- All buffers may be waiting: the last one is. -/
def PtpRegs.Full (regs : PtpRegs) : Prop := txFrameWaiting regs.block &&& (1 <<< 7) ≠ 0

instance (regs : PtpRegs) : Decidable regs.Full := inferInstanceAs (Decidable (_ ≠ _))

/-- A frame is put to buffer `i`: all its words are below the time stamp of the buffer, its length,
mode and bytes are there, and nothing else has changed but that the buffer waits.
-/
structure Contained (tsType : HwtstampTxType) (skb : FrameSkb) (i : Nat) (regs regs' : PtpRegs)
    : Prop where
  isFree : i < 8 ∧ regs.waiting.getLsbD i = false
  inBuffer
    : ∀ write ∈ frameWrites tsType skb i,
        ptpTxBufferOffset i ≤ write.1 ∧ write.1 + 4 ≤ ptpTxBufferOffset i + ptpHwTstampOffset
  length : (regs'.mem (ptpTxBufferOffset i)).toNat % 2 ^ 16 = skb.len.toNat
  oneStep
    : regs'.mem (ptpTxBufferOffset i) &&& ptpTxCmd1StepShift ≠ 0
      → tsType = .onestepSync ∧ skb.SyncFrame
  bytes
    : ∀ k < skb.len.toNat,
        byteAt regs'.mem (ptpTxBufferOffset i + ptpTxCmdFieldLen) k = skb.mem k
  others
    : ∀ offset,
        offset < ptpTxBufferOffset i ∨ ptpTxBufferOffset i + ptpHwTstampOffset ≤ offset
        → regs'.mem offset = regs.mem offset
  waiting : regs'.waiting = regs.waiting ||| ((1 : BitVec 8) <<< i)
  packet : regs'.packet = regs.packet

/-- A frame of the PTP queue is put to a buffer that is free, or to none if there is none. -/
def XmitContained (lp : PtpLocal) (skb : FrameSkb) (regs : PtpRegs) : Prop :=
  axienetTsnSelectQueue lp skb = ptpQueueNumber
  → if regs.Full then axienetTsnXmit lp skb regs = regs
    else
      Contained lp.ptpTsType skb (fls (txFrameWaiting regs.block)) regs (axienetTsnXmit lp skb regs)

/-- The frame has at most the 240 bytes between the command words and the time stamp, and what is
taken for a SYNC message where these are sent in one step is one.
-/
def SkbFits (lp : PtpLocal) (skb : FrameSkb) (regs : PtpRegs) : Prop :=
  axienetTsnSelectQueue lp skb = ptpQueueNumber
  → regs.Full
    ∨ skb.len.toNat ≤ 240 ∧ (lp.ptpTsType = .onestepSync → skb.isSync = true → skb.SyncFrame)

instance (lp : PtpLocal) (skb : FrameSkb) (regs : PtpRegs) : Decidable (SkbFits lp skb regs) :=
  inferInstanceAs (Decidable (_ → _ ∨ _))

-----------------------------------------------------------------------------------------
-- What is written
-----------------------------------------------------------------------------------------

/-- The loop writes the words of the data one after the other. Induction on the data, four bytes at
a time.
-/
theorem memcpyToio32_eq (offset : Nat) (data : List U8)
    : memcpyToio32 offset data
      = (List.range ((data.length + 3) / 4)).map fun j =>
          (offset + 4 * j, leWord (data.drop (4 * j))) := by
  induction offset, data using memcpyToio32.induct with
  | case1 offset => rfl
  | case2 offset b₀ b₁ b₂ b₃ rest ih =>
      have count : ((b₀ :: b₁ :: b₂ :: b₃ :: rest).length + 3) / 4 = (rest.length + 3) / 4 + 1 := by
        simp only [List.length_cons]
        omega
      rw [memcpyToio32, ih, count, List.range_succ_eq_map, List.map_cons, List.map_map]
      congr 1
      refine List.map_congr_left fun j _ => ?_
      have place : offset + 4 + 4 * j = offset + 4 * (j + 1) := by omega
      simp only [Function.comp_apply, Nat.succ_eq_add_one, place]
      rfl
  | case3 offset left nonempty short =>
      have count : (left.length + 3) / 4 = 1 := by
        match left, nonempty, short with
        | [], nonempty, _ => exact (nonempty rfl).elim
        | [_], _, _ | [_, _], _, _ | [_, _, _], _, _ => simp
        | b₀ :: b₁ :: b₂ :: b₃ :: rest, _, short => exact (short b₀ b₁ b₂ b₃ rest rfl).elim
      rw [count]
      simp [memcpyToio32]

/-- Byte `r` of a word. -/
theorem leWord_byte (bytes : List U8) {r : Nat} (small : r < 4)
    : (leWord bytes >>> (8 * r)).setWidth 8 = bytes.getD r 0 := by
  have joined : ∀ b₃ b₂ b₁ b₀ : U8, ∀ k,
      BitVec.getLsbD (w := 32) (b₃ ++ b₂ ++ b₁ ++ b₀) k
      = if k < 8 then b₀.getLsbD k else if k - 8 < 8 then b₁.getLsbD (k - 8)
        else if k - 8 - 8 < 8 then b₂.getLsbD (k - 8 - 8) else b₃.getLsbD (k - 8 - 8 - 8) := by
    intro b₃ b₂ b₁ b₀ k
    refine (BitVec.getLsbD_append ..).trans (if_congr Iff.rfl rfl ?_)
    refine (BitVec.getLsbD_append ..).trans (if_congr Iff.rfl rfl ?_)
    exact BitVec.getLsbD_append ..
  refine BitVec.eq_of_getLsbD_eq fun k bound => ?_
  rw [BitVec.getLsbD_setWidth, BitVec.getLsbD_ushiftRight, leWord, joined]
  match r, small with
  | 0, _ | 1, _ | 2, _ | 3, _ => grind

/-- How many words are written for the frame. -/
def FrameSkb.words (skb : FrameSkb) : Nat := 2 + (skb.len.toNat + 3) / 4

/-- The words are written one behind the other from the start of the buffer. -/
theorem frameWrites_offsets (tsType : HwtstampTxType) (skb : FrameSkb) (i : Nat)
    : (frameWrites tsType skb i).map Prod.fst
      = (List.range skb.words).map fun j => ptpTxBufferOffset i + 4 * j := by
  have length : skb.data.length = skb.len.toNat := by simp [FrameSkb.data]
  have behind : (memcpyToio32 (ptpTxBufferOffset i + ptpTxCmdFieldLen) skb.data).map Prod.fst
      = ((List.range ((skb.len.toNat + 3) / 4)).map (2 + ·)).map
          fun j => ptpTxBufferOffset i + 4 * j := by
    rw [memcpyToio32_eq, length, List.map_map, List.map_map]
    refine List.map_congr_left fun j _ => ?_
    simp only [Function.comp_apply, ptpTxCmdFieldLen]
    omega
  rw [FrameSkb.words, List.range_add, List.map_append, ← behind, frameWrites, List.map_append]
  rfl

theorem mem_frameWrites {tsType : HwtstampTxType} {skb : FrameSkb} {i : Nat} {write : Nat × U32}
    (member : write ∈ frameWrites tsType skb i)
    : ∃ j < skb.words, write.1 = ptpTxBufferOffset i + 4 * j := by
  have offset := List.mem_map_of_mem (f := Prod.fst) member
  rw [frameWrites_offsets] at offset
  obtain ⟨j, below, same⟩ := List.mem_map.mp offset
  exact ⟨j, List.mem_range.mp below, same.symm⟩

theorem frameWrites_nodup (tsType : HwtstampTxType) (skb : FrameSkb) (i : Nat)
    : ((frameWrites tsType skb i).map Prod.fst).Nodup := by
  rw [frameWrites_offsets]
  refine List.Nodup.map (fun j k same => ?_) List.nodup_range
  have offsets : ptpTxBufferOffset i + 4 * j = ptpTxBufferOffset i + 4 * k := same
  omega

/-- Word `j` of the frame is among those written. -/
theorem frame_word_written (tsType : HwtstampTxType) (skb : FrameSkb) (i : Nat) {j : Nat}
    (below : 4 * j < skb.len.toNat)
    : (ptpTxBufferOffset i + ptpTxCmdFieldLen + 4 * j, leWord (skb.data.drop (4 * j)))
      ∈ frameWrites tsType skb i := by
  have length : skb.data.length = skb.len.toNat := by simp [FrameSkb.data]
  have within : j < (skb.data.length + 3) / 4 := by omega
  refine List.mem_append_right _ ?_
  rw [memcpyToio32_eq]
  exact List.mem_map.mpr ⟨j, List.mem_range.mpr within, rfl⟩

/-- The words stay below the time stamp exactly if the frame has at most 240 bytes. -/
theorem inBuffer_iff (tsType : HwtstampTxType) (skb : FrameSkb) (i : Nat)
    : (∀ write ∈ frameWrites tsType skb i,
        ptpTxBufferOffset i ≤ write.1 ∧ write.1 + 4 ≤ ptpTxBufferOffset i + ptpHwTstampOffset)
      ↔ skb.len.toNat ≤ 240 := by
  constructor
  · intro inBuffer
    by_contra long
    have word := inBuffer _ (frame_word_written tsType skb i (j := 60) (by omega))
    simp only [ptpTxCmdFieldLen, ptpHwTstampOffset, ptpRxHwbufSize, ptpHwTstampSize] at word
    omega
  · intro short write member
    obtain ⟨j, below, offset⟩ := mem_frameWrites member
    simp only [FrameSkb.words] at below
    simp only [offset, ptpHwTstampOffset, ptpRxHwbufSize, ptpHwTstampSize]
    omega

-----------------------------------------------------------------------------------------
-- What the block holds then
-----------------------------------------------------------------------------------------

/-- The words of a memory, and a store of one. -/
theorem words_independent
    : Independent (fun (mem : Nat → U32) offset => mem offset) Function.update where
  same mem i value := Function.update_self i value mem
  other mem _ _ value apart := Function.update_of_ne (Ne.symm apart) value mem

/-- The memory after the words of the frame. -/
def PtpRegs.stored (regs : PtpRegs) (tsType : HwtstampTxType) (skb : FrameSkb) (i : Nat)
    : Nat → U32 :=
  writeAll Function.update Prod.fst Prod.snd regs.mem (frameWrites tsType skb i)

/-- Words away from the control register only change the memory. -/
theorem foldl_axienetIow {writes : List (Nat × U32)} (regs : PtpRegs)
    (away : ∀ write ∈ writes, write.1 ≠ ptpTxControlOffset)
    : writes.foldl PtpRegs.axienetIow regs
      = { regs with mem := writeAll Function.update Prod.fst Prod.snd regs.mem writes } := by
  induction writes generalizing regs with
  | nil => rfl
  | cons first rest ih =>
      have written : regs.axienetIow first
          = { regs with mem := Function.update regs.mem first.1 first.2 } :=
        if_neg (away first List.mem_cons_self)
      have later : ∀ write ∈ rest, write.1 ≠ ptpTxControlOffset := fun write member =>
        away write (List.mem_cons_of_mem _ member)
      rw [List.foldl_cons, written, ih _ later]
      rfl

/-- The chosen buffer is one of the eight, and does not wait. -/
theorem chosen_free {regs : PtpRegs} (free : ¬regs.Full)
    : fls (txFrameWaiting regs.block) < 8
      ∧ regs.waiting.getLsbD (fls (txFrameWaiting regs.block)) = false := by
  have waiting : txFrameWaiting regs.block = regs.waiting.toNat := txFrameWaiting_eq regs.block
  have last : regs.waiting.toNat &&& (1 <<< 7) = 0 := by
    rw [← waiting]
    exact not_not.mp free
  rw [waiting]
  refine ⟨fls_lt_eight regs.waiting.isLt last, ?_⟩
  by_contra bit
  have chosen := (BitVec.testBit_toNat regs.waiting).trans (Bool.not_eq_false _ ▸ bit)
  exact absurd (lt_fls chosen) (lt_irrefl _)

/-- A frame of at most 240 bytes leaves the control register alone, until its last write. -/
theorem axienetPtpXmit_stored {skb : FrameSkb} {regs : PtpRegs} (tsType : HwtstampTxType)
    (free : ¬regs.Full) (short : skb.len.toNat ≤ 240)
    : axienetPtpXmit tsType skb regs
      = { mem := regs.stored tsType skb (fls (txFrameWaiting regs.block))
          waiting := regs.waiting ||| ((1 : BitVec 8) <<< fls (txFrameWaiting regs.block))
          packet := regs.packet } := by
  have slot := (chosen_free free).1
  have away : ∀ write ∈ frameWrites tsType skb (fls (txFrameWaiting regs.block)),
      write.1 ≠ ptpTxControlOffset := by
    intro write member
    have bounds := (inBuffer_iff tsType skb _).mpr short write member
    simp only [ptpTxBufferOffset, ptpHwTstampOffset, ptpRxHwbufSize, ptpHwTstampSize] at bounds
    simp only [ptpTxControlOffset]
    omega
  have free' : ¬(txFrameWaiting regs.block &&& (1 <<< 7) ≠ 0) := free
  rw [axienetPtpXmit, if_neg free', foldl_axienetIow regs away, PtpRegs.axienetIow, if_pos rfl]
  congr 1
  exact congrArg (regs.waiting ||| ·) (BitVec.setWidth_shiftLeft_of_le (by decide))

theorem stored_same {tsType : HwtstampTxType} {skb : FrameSkb} {i : Nat} {write : Nat × U32}
    (regs : PtpRegs) (member : write ∈ frameWrites tsType skb i)
    : regs.stored tsType skb i write.1 = write.2 :=
  words_independent.writeAll_same (frameWrites_nodup tsType skb i) member

theorem stored_other {tsType : HwtstampTxType} {skb : FrameSkb} {regs : PtpRegs} {i offset : Nat}
    (short : skb.len.toNat ≤ 240)
    (outside : offset < ptpTxBufferOffset i ∨ ptpTxBufferOffset i + ptpHwTstampOffset ≤ offset)
    : regs.stored tsType skb i offset = regs.mem offset := by
  refine words_independent.writeAll_other fun write member same => ?_
  have bounds := (inBuffer_iff tsType skb i).mpr short write member
  omega

/-- The first word: the length, and the bit of a frame sent in one step. -/
theorem stored_cmd1 {tsType : HwtstampTxType} {skb : FrameSkb} {regs : PtpRegs} {i : Nat}
    : regs.stored tsType skb i (ptpTxBufferOffset i)
      = (if tsType = .onestepSync ∧ skb.isSync then ptpTxCmd1StepShift else 0) ||| skb.len := by
  have first := stored_same regs
    (List.mem_cons_self : _ ∈ frameWrites tsType skb i)
  simpa using first

/-- The second word: where the hardware puts the time of day. -/
theorem stored_cmd2 {tsType : HwtstampTxType} {skb : FrameSkb} {regs : PtpRegs} {i : Nat}
    : regs.stored tsType skb i (ptpTxBufferOffset i + ptpTxBufferCmd2Field)
      = if tsType = .onestepSync ∧ skb.isSync then ptpTodFieldOffset else 0 := by
  have second := stored_same regs
    (List.mem_cons_of_mem _ List.mem_cons_self : _ ∈ frameWrites tsType skb i)
  simpa using second

theorem stored_bytes {tsType : HwtstampTxType} {skb : FrameSkb} {regs : PtpRegs} {i k : Nat}
    (below : k < skb.len.toNat)
    : byteAt (regs.stored tsType skb i) (ptpTxBufferOffset i + ptpTxCmdFieldLen) k
      = skb.mem k := by
  have word := stored_same regs
    (frame_word_written tsType skb i (j := k / 4) (by omega))
  rw [byteAt, word, leWord_byte _ (Nat.mod_lt k (by decide)), List.getD_eq_getElem?_getD,
    List.getElem?_drop, Nat.div_add_mod, FrameSkb.data]
  simp [below]

/-- A length below 2¹⁶ beside the bit of one step. -/
theorem cmd1_fields {len : U32} (short : len.toNat ≤ 240) (oneStep : Bool)
    : ((bif oneStep then ptpTxCmd1StepShift else 0) ||| len).toNat % 2 ^ 16 = len.toNat
      ∧ (((bif oneStep then ptpTxCmd1StepShift else 0) ||| len) &&& ptpTxCmd1StepShift ≠ 0
        ↔ oneStep = true) := by
  have all : ∀ n ≤ 240, ∀ oneStep : Bool,
      ((bif oneStep then ptpTxCmd1StepShift else 0) ||| BitVec.ofNat 32 n).toNat % 2 ^ 16 = n
      ∧ (((bif oneStep then ptpTxCmd1StepShift else 0) ||| BitVec.ofNat 32 n)
            &&& ptpTxCmd1StepShift ≠ 0
          ↔ oneStep = true) := by
    decide +kernel
  have fields := all len.toNat short oneStep
  rwa [BitVec.ofNat_toNat, BitVec.setWidth_eq] at fields

theorem stored_cmd1_fields {skb : FrameSkb} (tsType : HwtstampTxType) (regs : PtpRegs) (i : Nat)
    (short : skb.len.toNat ≤ 240)
    : (regs.stored tsType skb i (ptpTxBufferOffset i)).toNat % 2 ^ 16 = skb.len.toNat
      ∧ (regs.stored tsType skb i (ptpTxBufferOffset i) &&& ptpTxCmd1StepShift ≠ 0
        ↔ tsType = .onestepSync ∧ skb.isSync = true) := by
  have fields := cmd1_fields short (decide (tsType = .onestepSync ∧ skb.isSync = true))
  rw [Bool.cond_decide, decide_eq_true_iff, ← stored_cmd1] at fields
  exact fields

-----------------------------------------------------------------------------------------
-- A frame that fits, and no other
-----------------------------------------------------------------------------------------

/-- A frame of at most 240 bytes is contained but for the meaning of the one-step bit. -/
theorem contained_iff {tsType : HwtstampTxType} {skb : FrameSkb} {regs : PtpRegs}
    (free : ¬regs.Full) (short : skb.len.toNat ≤ 240)
    : Contained tsType skb (fls (txFrameWaiting regs.block)) regs (axienetPtpXmit tsType skb regs)
      ↔ (tsType = .onestepSync → skb.isSync = true → skb.SyncFrame) := by
  have stored := axienetPtpXmit_stored tsType free short
  obtain ⟨length, bit⟩ := stored_cmd1_fields tsType regs (fls (txFrameWaiting regs.block)) short
  rw [stored]
  constructor
  · intro contained oneStep sync
    exact (contained.oneStep (bit.mpr ⟨oneStep, sync⟩)).2
  · intro meant
    exact
      { isFree := chosen_free free
        inBuffer := (inBuffer_iff tsType skb _).mpr short
        length
        oneStep := fun set => ⟨(bit.mp set).1, meant (bit.mp set).1 (bit.mp set).2⟩
        bytes := fun k below => stored_bytes below
        others := fun offset outside => stored_other short outside
        waiting := rfl
        packet := rfl }

/-- A longer frame is not: the word behind byte 240 is the time stamp's. -/
theorem not_contained_of_long {tsType : HwtstampTxType} {skb : FrameSkb} {regs regs' : PtpRegs}
    {i : Nat} (long : 240 < skb.len.toNat)
    : ¬Contained tsType skb i regs regs' := fun contained =>
  absurd ((inBuffer_iff tsType skb i).mp contained.inBuffer) (Nat.not_le_of_gt long)

/-- The block without the numbers that its model gives the frames. -/
def Block.unnumbered (block : Block) : Block :=
  { block with buffers := fun i => { block.buffers i with frame := none } }

/-- The words of a frame that fits simulate the transmit of the block's model. -/
theorem block_axienetPtpXmit {skb : FrameSkb} {regs : PtpRegs} {s : PtpSys}
    (tsType : HwtstampTxType) (hwTstamp : Bool) (view : regs.block = s.block.unnumbered)
    (free : ¬regs.Full) (short : skb.len.toNat ≤ 240)
    : ∃ next,
        xmitSend tsType ⟨skb.len, skb.msgType, hwTstamp⟩ (fls (txFrameWaiting regs.block)) s
          = some next
        ∧ (axienetPtpXmit tsType skb regs).block = next.block.unnumbered := by
  refine ⟨_, if_neg (Nat.not_lt.mpr short), ?_⟩
  generalize slot : fls (txFrameWaiting regs.block) = i
  have stored := axienetPtpXmit_stored tsType free short
  rw [slot] at stored
  have waiting : regs.waiting = s.block.waiting := congrArg Block.waiting view
  have packet : regs.packet = s.block.packet := congrArg Block.packet view
  have buffer := fun j => congrFun (congrArg Block.buffers view) j
  rw [stored, PtpRegs.block, Block.unnumbered]
  congr 1
  · funext j
    obtain ⟨cmd1, cmd2, -, tstamp⟩ := Buffer.mk.injEq .. ▸ buffer j
    have kept : ∀ offset,
        j ≠ i ∧ offset < 256 ∨ 248 ≤ offset ∧ offset < 256
        → regs.stored tsType skb i (ptpTxBufferOffset j + offset)
          = regs.mem (ptpTxBufferOffset j + offset) := by
      intro offset away
      refine stored_other short ?_
      simp only [ptpTxBufferOffset, ptpHwTstampOffset, ptpRxHwbufSize, ptpHwTstampSize]
      omega
    have sec := kept ptpHwTstampOffset (.inr (by decide))
    have ns := kept (ptpHwTstampOffset + 4) (.inr (by decide))
    rw [← Nat.add_assoc] at ns
    simp only [Block.writeControl, Block.setBuffer, sec, ns, tstamp]
    by_cases chosen : j = i
    · subst chosen
      simp [filled, oneStep, isSync, stored_cmd1, stored_cmd2, FrameSkb.isSync]
    · have first := kept 0 (.inl ⟨chosen, by decide⟩)
      have second := kept ptpTxBufferCmd2Field (.inl ⟨chosen, by decide⟩)
      rw [Nat.add_zero] at first
      simp [Function.update_of_ne chosen, first, second, cmd1, cmd2]
  · have bits : ∀ i < 8, (((1 <<< i : Nat) : U32)).setWidth 8 = (1 : BitVec 8) <<< i := by decide
    have below : i < 8 := slot ▸ (chosen_free free).1
    rw [Block.writeControl, bits i below]
    exact congrArg (· ||| _) waiting

/-- A PTP transmission stays inside its buffer exactly if its frame fits there. -/
theorem xmit_contained_iff (lp : PtpLocal) (skb : FrameSkb) (regs : PtpRegs)
    : XmitContained lp skb regs ↔ SkbFits lp skb regs := by
  refine imp_congr_right fun selected => ?_
  rw [axienetTsnXmit, if_pos selected]
  by_cases full : regs.Full
  · have stays : axienetPtpXmit lp.ptpTsType skb regs = regs := if_pos full
    rw [if_pos full]
    exact iff_of_true stays (.inl full)
  rw [if_neg full]
  by_cases short : skb.len.toNat ≤ 240
  · rw [contained_iff full short]
    simp [full, short]
  · exact iff_of_false (not_contained_of_long (not_le.mp short)) (by simp [full, short])

/-- A 1588 frame of 244 bytes, as one with a longer path trace has them. -/
def longPtpFrame : FrameSkb where
  mem offset := if offset = 12 then 0x88 else if offset = 13 then 0xf7 else 0
  len := 244
  networkHeader := 14
  transportHeader := 14

/-- No buffer waits. -/
def idlePtpRegs : PtpRegs := ⟨fun _ => 0, 0, 0⟩

/-- The last word of such a frame is written to the time stamp. -/
theorem long_frame_overruns
    : ¬XmitContained ⟨.on, false, false, false⟩ longPtpFrame idlePtpRegs := by
  intro contained
  have inBuffer := contained (by decide)
  rw [if_neg (by decide)] at inBuffer
  exact not_contained_of_long (by decide) inBuffer

end TsnTrdp.Ptp
