import TsnTrdp.Tadma.Registers

/-! The PTP transmit block and its driver: eight buffers that the hardware sends in index
order, `axienet_ptp_xmit`, which fills them, and `axienet_tx_tstamp`, which frees the frames
that were sent. A transmit call is taken in three parts and a work run in one part for each
frame, since the hardware and the other function run between them.
-/

namespace TsnTrdp.Ptp

open TsnTrdp.Tadma (U32)

abbrev U8 : Type := BitVec 8

/-- A 64-bit time stamp, as its seconds and nanoseconds words. -/
structure Tstamp where
  sec : U32
  ns : U32
  deriving DecidableEq, Repr

def ptpTxFrameWaitingMask : U32 := 0x0000ff00
def ptpTxFrameWaitingShift : Nat := 8
def ptpTxPacketFieldMask : U32 := 0x00070000
def ptpTxPacketFieldShift : Nat := 16
def ptpTxCmd1StepShift : U32 := 1 <<< 16
def ptpTodFieldOffset : U32 := 48
def ptpTypeSync : U8 := 0

inductive HwtstampTxType
  | off
  | on
  | onestepSync
  deriving DecidableEq, Repr

/-- What a transmit reads of a socket buffer; `msgType` is the first byte behind the Ethernet
header, and `hwTstamp` tells whether a time stamp was asked for.
-/
structure SkBuff where
  len : U32
  msgType : U8
  hwTstamp : Bool
  deriving DecidableEq, Repr

/-- One buffer of the block. `frame` numbers the accepted frame whose data it holds. -/
structure Buffer where
  cmd1 : U32
  cmd2 : U32
  frame : Option Nat
  tstamp : Tstamp
  deriving DecidableEq, Repr

/-- The transmit block: the waiting bits and the packet field of its control register. -/
structure Block where
  buffers : Nat → Buffer
  waiting : BitVec 8
  packet : BitVec 3

/-- The control register as it reads. -/
def Block.control (block : Block) : U32 :=
  (block.waiting.setWidth 32 <<< ptpTxFrameWaitingShift)
    ||| (block.packet.setWidth 32 <<< ptpTxPacketFieldShift)

/-- A write to the control register adds waiting bits. -/
def Block.writeControl (block : Block) (value : U32) : Block :=
  { block with waiting := block.waiting ||| value.setWidth 8 }

/-- The buffer that is sent next. -/
def Block.lowest (block : Block) : Option Nat := (List.range 8).find? block.waiting.getLsbD

/-- A frame of `ptp_txq`: `index` is `cb[0]`, and `inProgress` is its flag. -/
structure TxqEntry where
  number : Nat
  len : U32
  index : Nat
  inProgress : Bool
  deriving DecidableEq, Repr

/-- A frame that was freed, with the time stamp that was attached. -/
structure FreedSkb where
  entry : TxqEntry
  tstamp : Option Tstamp
  deriving DecidableEq, Repr

/-- Where a transmit call stands: it has chosen its slot, or has sent the frame and waits for
the lock of `ptp_txq`.
-/
inductive XmitCall
  | idle
  | chosen (skb : SkBuff) (freeIndex : Nat)
  | queueing (entry : TxqEntry)
  deriving DecidableEq, Repr

/-- The block, the driver's state, and what has happened: the number of frames accepted, the
frames freed, and the transmissions with their times. `work` is the packet field that a running
`axienet_tx_tstamp` has read.
-/
structure PtpSys where
  block : Block
  call : XmitCall
  ptpTxq : List TxqEntry
  work : Option Nat
  queueStopped : Bool
  accepted : Nat
  freed : List FreedSkb
  sent : List (Nat × Tstamp)

def Buffer.reset : Buffer := ⟨0, 0, none, ⟨0, 0⟩⟩

def PtpSys.reset : PtpSys where
  block := ⟨fun _ => .reset, 0, 0⟩
  call := .idle
  ptpTxq := []
  work := none
  queueStopped := false
  accepted := 0
  freed := []
  sent := []

/-- `fls`: the position of the last bit set, counted from one. -/
def fls (x : Nat) : Nat := if x = 0 then 0 else x.log2 + 1

def isSync (skb : SkBuff) : Bool := skb.msgType &&& 0xf = ptpTypeSync

/-- A frame that the hardware stamps on the wire. -/
def oneStep (tsType : HwtstampTxType) (skb : SkBuff) : Bool :=
  tsType = .onestepSync ∧ isSync skb

/-- The waiting bits, as `axienet_ptp_xmit` reads them. -/
def txFrameWaiting (block : Block) : Nat :=
  ((block.control &&& ptpTxFrameWaitingMask) >>> ptpTxFrameWaitingShift).toNat % 256

/-- The packet field, as `axienet_tx_tstamp` reads it. -/
def txPacket (block : Block) : Nat :=
  ((block.control &&& ptpTxPacketFieldMask) >>> ptpTxPacketFieldShift).toNat % 256

/-- `axienet_ptp_xmit` up to the choice of the slot. -/
def xmitChoose (skb : SkBuff) (s : PtpSys) : PtpSys :=
  if txFrameWaiting s.block &&& (1 <<< 7) ≠ 0 then { s with queueStopped := true }
  else { s with call := .chosen skb (fls (txFrameWaiting s.block)) }

/-- The buffer as a transmit writes it. -/
def filled (tsType : HwtstampTxType) (skb : SkBuff) (number : Nat) (buffer : Buffer) : Buffer :=
  { buffer with
    cmd1 := (if oneStep tsType skb then ptpTxCmd1StepShift else 0) ||| skb.len
    cmd2 := if oneStep tsType skb then ptpTodFieldOffset else 0
    frame := some number }

/-- A buffer of the block is written. -/
def Block.setBuffer (block : Block) (i : Nat) (buffer : Buffer) : Block :=
  { block with buffers := Function.update block.buffers i buffer }

/-- `axienet_ptp_xmit` from the chosen slot up to the lock: the frame is written and sent. One of more
than 240 bytes runs over the time stamp of its buffer and over what lies behind it, which is a fault.
-/
def xmitSend (tsType : HwtstampTxType) (skb : SkBuff) (freeIndex : Nat) (s : PtpSys)
    : Option PtpSys :=
  if 240 < skb.len.toNat then none
  else
    some
      { s with
        block :=
          (s.block.setBuffer freeIndex
            (filled tsType skb s.accepted (s.block.buffers freeIndex))).writeControl (1 <<< freeIndex)
        call :=
          if oneStep tsType skb then .idle
          else .queueing ⟨s.accepted, skb.len, freeIndex, skb.hwTstamp⟩
        accepted := s.accepted + 1 }

/-- The block after it sent buffer `i` at `time`. -/
def Block.sendBuffer (block : Block) (i : Nat) (time : Tstamp) : Block where
  buffers := Function.update block.buffers i { block.buffers i with tstamp := time }
  waiting := block.waiting &&& ~~~((1 : BitVec 8) <<< i)
  packet := BitVec.ofNat 3 i

/-- The hardware sends the lowest waiting buffer at `time`. -/
def transmit (time : Tstamp) (s : PtpSys) : PtpSys :=
  match s.block.lowest with
  | none => s
  | some i =>
      { s with
        block := s.block.sendBuffer i time
        sent := s.sent ++ ((s.block.buffers i).frame.map (·, time)).toList }

/-- `axienet_set_timestamp`, where the frame waits for one. -/
def axienetSetTimestamp (block : Block) (entry : TxqEntry) : Option Tstamp :=
  if entry.inProgress then some (block.buffers entry.index).tstamp else none

/-- One turn of the loop of `axienet_tx_tstamp`. -/
def txTstampNext (txPacket : Nat) (s : PtpSys) : PtpSys :=
  match s.ptpTxq with
  | [] => { s with work := none }
  | skb :: rest =>
      if txPacket < skb.index then { s with ptpTxq := rest ++ [skb], work := none }
      else
        { s with
          ptpTxq := rest
          freed := s.freed ++ [⟨skb, axienetSetTimestamp s.block skb⟩] }

inductive PtpEvent
  | xmit (skb : SkBuff)
  | send
  | queue
  | transmit (time : Tstamp)
  | irq
  | txTstamp
  | next
  deriving DecidableEq, Repr

/-- One step, unless it is a fault. Transmit calls exclude each other, and so do work runs;
`ptp_tx_lock` keeps a frame out of the queue while a work run is on.
-/
def ptpStep (tsType : HwtstampTxType) (s : PtpSys) : PtpEvent → Option PtpSys
  | .xmit skb =>
      match s.call with
      | .idle => some (xmitChoose skb s)
      | .chosen _ _ | .queueing _ => some s
  | .send =>
      match s.call with
      | .chosen skb freeIndex => xmitSend tsType skb freeIndex s
      | .idle | .queueing _ => some s
  | .queue =>
      match s.call, s.work with
      | .queueing entry, none => some { s with ptpTxq := s.ptpTxq ++ [entry], call := .idle }
      | .queueing _, some _ | .idle, _ | .chosen _ _, _ => some s
  | .transmit time => some (transmit time s)
  | .irq => some { s with queueStopped := false }
  | .txTstamp =>
      match s.work with
      | none => some { s with work := some (txPacket s.block) }
      | some _ => some s
  | .next =>
      match s.work with
      | none => some s
      | some txPacket => some (txTstampNext txPacket s)

theorem txFrameWaiting_eq (block : Block) : txFrameWaiting block = block.waiting.toNat := by
  have read : ∀ (waiting : BitVec 8) (packet : BitVec 3),
      (((waiting.setWidth 32 <<< ptpTxFrameWaitingShift
        ||| packet.setWidth 32 <<< ptpTxPacketFieldShift) &&& ptpTxFrameWaitingMask)
          >>> ptpTxFrameWaitingShift).toNat % 256 = waiting.toNat := by
    decide +kernel
  exact read block.waiting block.packet

theorem txPacket_eq (block : Block) : txPacket block = block.packet.toNat := by
  have read : ∀ (waiting : BitVec 8) (packet : BitVec 3),
      (((waiting.setWidth 32 <<< ptpTxFrameWaitingShift
        ||| packet.setWidth 32 <<< ptpTxPacketFieldShift) &&& ptpTxPacketFieldMask)
          >>> ptpTxPacketFieldShift).toNat % 256 = packet.toNat := by
    decide +kernel
  exact read block.waiting block.packet

/-- The slot that `fls` chooses lies above every waiting one. -/
theorem lt_fls {x i : Nat} (bit : x.testBit i) : i < fls x := by
  have large : 2 ^ i ≤ x := Nat.ge_two_pow_of_testBit bit
  have positive : x ≠ 0 := by
    have := Nat.two_pow_pos i
    omega
  rw [fls, if_neg positive]
  exact Nat.lt_succ_of_le ((Nat.le_log2 positive).mpr large)

/-- It is the one above the highest waiting one. -/
theorem testBit_fls {x : Nat} (waits : fls x ≠ 0) : x.testBit (fls x - 1) := by
  have positive : x ≠ 0 := by
    rintro rfl
    exact waits rfl
  rw [fls, if_neg positive, Nat.add_sub_cancel]
  exact Nat.testBit_log2 positive

/-- With the last slot free, the chosen slot is one of the eight. -/
theorem fls_lt_eight {x : Nat} (byte : x < 256) (last : x &&& (1 <<< 7) = 0) : fls x < 8 := by
  have all : ∀ x < 256, x &&& (1 <<< 7) = 0 → fls x < 8 := by decide +kernel
  exact all x byte last

end TsnTrdp.Ptp
