import TsnTrdp.Lib.Ring
import TsnTrdp.Lib.Run
import TsnTrdp.Ptp.Transmit

/-! PTP reception: sixteen buffers that the hardware fills in turn, and the interrupt handler that
passes their frames on. The hardware tells the number of the last buffer it filled; the driver
counts the buffers that it has read in a byte, and compares the two modulo sixteen.
-/

namespace TsnTrdp.Ptp

open TsnTrdp.Run
open TsnTrdp.Tadma (U32)

-----------------------------------------------------------------------------------------
-- A frame
-----------------------------------------------------------------------------------------

def ptpHwTstampSize : Nat := 8
def ptpRxHwbufSize : Nat := 256
def ptpRxFrameSize : Nat := 252
def ptpHwTstampOffset : Nat := ptpRxHwbufSize - ptpHwTstampSize
def ethHlen : Nat := 14
def ptpMsgTypeMask : U8 := 1 <<< 3
def ptpRxPacketFieldMask : U32 := 0x00000F00

/-- The bytes of a hardware buffer: the frame's, and the time stamp in the last eight. -/
abbrev HwBuf := Nat → U8

/-- A register of the buffer. The words are stored little-endian. -/
def HwBuf.word (buf : HwBuf) (offset : Nat) : U32 :=
  buf (offset + 3) ++ buf (offset + 2) ++ buf (offset + 1) ++ buf offset

/-- `memcpy_fromio_32`: whole words, and what is left of one. -/
def memcpyFromio32 (buf : HwBuf) (len : Nat) : List U8 := (List.range len).map buf

def ntohs (x : BitVec 16) : BitVec 16 := x.extractLsb' 0 8 ++ x.extractLsb' 8 8

/-- What is passed to `netif_rx`: the bytes that were copied, the length that `skb_put` was given,
and the time stamp of an event message.
-/
structure RxSkb where
  data : List U8
  len : Nat
  hwtstamps : Option Tstamp

/-- `axienet_set_timestamp`, for a receive buffer. -/
def HwBuf.axienetSetTimestamp (buf : HwBuf) (offset : Nat) : Tstamp where
  sec := buf.word offset
  ns := buf.word (offset + 4)

/-- The socket buffer that a round of `axienet_ptp_recv` makes of a hardware buffer. -/
def recvFrame (buf : HwBuf) : RxSkb :=
  let data := memcpyFromio32 buf ptpRxFrameSize
  let msgType := data.getD ethHlen 0 &&& 0xf
  let msgLen := data.getD (ethHlen + 3) 0 ++ data.getD (ethHlen + 2) 0
  { data
    len := (ntohs msgLen).toNat + ethHlen
    hwtstamps :=
      if msgType &&& ptpMsgTypeMask = 0 then some (buf.axienetSetTimestamp ptpHwTstampOffset)
      else none }

/-- The message length that a frame carries, big-endian behind its type. -/
def HwBuf.messageLength (buf : HwBuf) : Nat :=
  (buf (ethHlen + 2)).toNat * 256 + (buf (ethHlen + 3)).toNat

-----------------------------------------------------------------------------------------
-- The hardware and the handler
-----------------------------------------------------------------------------------------

/-- The variables of a running `axienet_ptp_recv`. -/
structure RecvVars where
  bytes : U32
  packets : U32
  deriving DecidableEq, Repr

/-- The buffers, the driver's state, and what has happened: the frames that arrived, how many had
when the last handler started, and the socket buffers that were passed on.
-/
structure RxSys where
  bufs : Nat → HwBuf
  hwPointer : U8
  swPointer : U8
  recv : Option RecvVars
  rxPackets : BitVec 64
  rxBytes : BitVec 64
  arrived : List HwBuf
  seen : Nat
  netif : List RxSkb

/-- After `axienet_tsn_open`, which clears the hardware's buffers. -/
def RxSys.opened (bufs : Nat → HwBuf) : RxSys where
  bufs := bufs
  hwPointer := 0
  swPointer := 0xff
  recv := none
  rxPackets := 0
  rxBytes := 0
  arrived := []
  seen := 0
  netif := []

/-- The receive control register, once a frame has arrived: its packet field is the number of the
buffer that was filled last.
-/
def RxSys.control (s : RxSys) : U32 := BitVec.ofNat 32 ((s.arrived.length - 1) % 16) <<< 8

inductive RxEvent
  /-- The hardware stores a frame. -/
  | arrive (frame : HwBuf)
  /-- The interrupt, which frames raise, is taken. -/
  | irq
  /-- The loop of `axienet_ptp_recv` gets to its test; `allocated` tells if there is memory for a
  socket buffer.
  -/
  | test (allocated : Bool)

/-- `axienet_ptp_rx_irq`, up to the loop. -/
def rxIrq (s : RxSys) : RxSys :=
  { s with
    hwPointer := ((s.control &&& ptpRxPacketFieldMask) >>> 8).setWidth 8
    recv := some ⟨0, 0⟩
    seen := s.arrived.length }

/-- The condition of the loop. -/
def RxSys.More (s : RxSys) : Prop := s.hwPointer &&& 0xf ≠ s.swPointer &&& 0xf

instance (s : RxSys) : Decidable s.More := inferInstanceAs (Decidable (_ ≠ _))

/-- A round of the loop. -/
def recvRound (vars : RecvVars) (s : RxSys) : RxSys :=
  let swPointer := s.swPointer + 1
  let skb := recvFrame (s.bufs (swPointer &&& 0xf).toNat)
  { s with
    swPointer
    recv := some ⟨vars.bytes + BitVec.ofNat 32 skb.len, vars.packets + 1⟩
    netif := s.netif ++ [skb] }

/-- The end of the loop. -/
def recvEnd (vars : RecvVars) (s : RxSys) : RxSys :=
  { s with
    recv := none
    rxPackets := s.rxPackets + vars.packets.setWidth 64
    rxBytes := s.rxBytes + vars.bytes.setWidth 64 }

/-- One step; `none` is a write through the null pointer of a socket buffer that there was no memory
for. A frame raises the interrupt, which is not taken while its handler runs.
-/
def rxStep (s : RxSys) : RxEvent → Option RxSys
  | .arrive frame =>
      some { s with
        bufs := Function.update s.bufs (s.arrived.length % 16) frame
        arrived := s.arrived ++ [frame] }
  | .irq => some (if s.recv = none ∧ s.arrived.length ≠ 0 then rxIrq s else s)
  | .test allocated =>
      match s.recv with
      | none => some s
      | some vars =>
          if s.More then if allocated then some (recvRound vars s) else none
          else some (recvEnd vars s)

-----------------------------------------------------------------------------------------
-- What is claimed, and when it holds
-----------------------------------------------------------------------------------------

/-- The frames passed on are the first that arrived, in their order; a handler makes at most fifteen
rounds, and has then passed on all that had arrived when it started; no length is over the bytes
that were allocated and copied.
-/
structure Received (s : RxSys) : Prop where
  inOrder : s.netif = (s.arrived.take s.netif.length).map recvFrame
  rounds : ∀ vars ∈ s.recv, vars.packets.toNat < 16
  complete : s.recv = none → s.netif.length = s.seen
  lengths : ∀ skb ∈ s.netif, skb.len ≤ ptpRxFrameSize

/-- A step is made, and leads to such a state. -/
def Receives (s : RxSys) (event : RxEvent) : Prop :=
  ∃ next, rxStep s event = some next ∧ Received next

/-- Fewer than sixteen frames are unread, also after this step. -/
def HasRoom (s : RxSys) : RxEvent → Prop
  | .arrive _ => s.arrived.length + 1 < s.netif.length + 16
  | _ => True

instance : (s : RxSys) → (event : RxEvent) → Decidable (HasRoom s event)
  | _, .arrive _ => inferInstanceAs (Decidable (_ < _))
  | _, .irq => inferInstanceAs (Decidable True)
  | _, .test _ => inferInstanceAs (Decidable True)

/-- If the loop makes a round now, then there is memory, and the oldest frame that is unread carries
a length that fits.
-/
def FrameFits (s : RxSys) : RxEvent → Prop
  | .test allocated =>
      s.recv.isSome → s.More
        → allocated = true
          ∧ ∀ frame ∈ s.arrived[s.netif.length]?, frame.messageLength + ethHlen ≤ ptpRxFrameSize
  | _ => True

instance : (s : RxSys) → (event : RxEvent) → Decidable (FrameFits s event)
  | _, .arrive _ => inferInstanceAs (Decidable True)
  | _, .irq => inferInstanceAs (Decidable True)
  | _, .test _ => inferInstanceAs (Decidable (_ → _ → _))

variable {s : RxSys} {frame : HwBuf} {vars : RecvVars}

/-- The length that `skb_put` is given is the message's and that of the Ethernet header. -/
theorem recvFrame_len (buf : HwBuf) : (recvFrame buf).len = buf.messageLength + ethHlen := by
  have byte (i : Nat) (low : i < ptpRxFrameSize)
      : (memcpyFromio32 buf ptpRxFrameSize).getD i 0 = buf i := by
    simp [memcpyFromio32, List.getD_eq_getElem?_getD, low]
  have swapped (low high : U8) : (ntohs (low ++ high)).toNat = high.toNat * 256 + low.toNat := by
    have bound := low.isLt
    have first : (low ++ high).extractLsb' 0 8 = high := BitVec.extractLsb'_append_eq_right
    have second : (low ++ high).extractLsb' 8 8 = low := BitVec.extractLsb'_append_eq_left
    rw [ntohs, first, second, BitVec.toNat_append, ← Nat.shiftLeft_add_eq_or_of_lt bound,
      Nat.shiftLeft_eq]
  simp only [recvFrame, byte (ethHlen + 2) (by decide), byte (ethHlen + 3) (by decide), swapped,
    HwBuf.messageLength]

/-- The lower half of a byte is the byte modulo sixteen. -/
theorem toNat_and_low (x : U8) : (x &&& 0xf).toNat = x.toNat % 16 := by
  rw [BitVec.toNat_and]
  exact Nat.and_two_pow_sub_one_eq_mod x.toNat 4

/-- The packet field, as the handler reads it. -/
theorem rxIrq_hwPointer (s : RxSys)
    : (rxIrq s).hwPointer = BitVec.ofNat 8 ((s.arrived.length - 1) % 16) := by
  have low := Nat.mod_lt (s.arrived.length - 1) (by decide : 0 < 16)
  generalize last : (s.arrived.length - 1) % 16 = k at low
  simp only [rxIrq, RxSys.control, last]
  interval_cases k <;> rfl

-----------------------------------------------------------------------------------------
-- The pointers
-----------------------------------------------------------------------------------------

/-- The software pointer counts the frames passed on, and the hardware pointer of a running handler
those that had arrived when it started. The buffers hold the frames that are unread, fewer than
there are buffers; a handler has made as many rounds as it counts, and has those to make that it has
seen.
-/
structure RxInv (s : RxSys) : Prop where
  swPointer : s.swPointer = BitVec.ofNat 8 (s.netif.length + 255)
  passed : s.netif.length ≤ s.seen
  stored : s.seen ≤ s.arrived.length
  room : s.arrived.length < s.netif.length + 16
  bufs
    : Ring.Holds 16 s.bufs (fun i buf => s.arrived[i]? = some buf) s.netif.length s.arrived.length
  hwPointer
    : s.recv.isSome → 0 < s.seen ∧ s.hwPointer = BitVec.ofNat 8 ((s.seen - 1) % 16)
  rounds : ∀ vars ∈ s.recv, vars.packets.toNat + (s.seen - s.netif.length) < 16
  idle : s.recv = none → s.netif.length = s.seen
  inOrder : s.netif = (s.arrived.take s.netif.length).map recvFrame
  lengths : ∀ skb ∈ s.netif, skb.len ≤ ptpRxFrameSize

theorem RxInv.opened (bufs : Nat → HwBuf) : RxInv (.opened bufs) where
  swPointer := rfl
  passed := Nat.le_refl 0
  stored := Nat.le_refl 0
  room := Nat.zero_lt_succ 15
  bufs := fun i _ before => absurd before (Nat.not_lt_zero i)
  hwPointer := fun running => by cases running
  rounds := fun vars running => by cases running
  idle := fun _ => rfl
  inOrder := rfl
  lengths := fun skb member => absurd member List.not_mem_nil

theorem RxInv.received (inv : RxInv s) : Received s where
  inOrder := inv.inOrder
  rounds := fun vars running => Nat.lt_of_le_of_lt (Nat.le_add_right _ _) (inv.rounds vars running)
  complete := inv.idle
  lengths := inv.lengths

/-- The handler's loop goes on exactly if frames that it has seen are unread: the pointers are apart
by their number, which is less than the number of buffers.
-/
theorem RxInv.more_iff (inv : RxInv s) (running : s.recv = some vars)
    : s.More ↔ s.netif.length < s.seen := by
  obtain ⟨some, pointer⟩ := inv.hwPointer (by rw [running]; rfl)
  have passed := inv.passed
  have stored := inv.stored
  have room := inv.room
  have meet : (s.seen + 255) % 16 = (s.netif.length + 255) % 16
      ↔ s.seen + 255 = s.netif.length + 255 :=
    Ring.cursors_eq_iff (by omega) (by omega)
  have hardware : (s.hwPointer &&& 0xf).toNat = (s.seen + 255) % 16 := by
    rw [toNat_and_low, pointer, BitVec.toNat_ofNat]
    omega
  have software : (s.swPointer &&& 0xf).toNat = (s.netif.length + 255) % 16 := by
    rw [toNat_and_low, inv.swPointer, BitVec.toNat_ofNat]
    omega
  rw [RxSys.More, ne_eq, ← BitVec.toNat_inj, hardware, software, meet]
  omega

/-- The buffer that a round reads is that of the oldest frame that is unread. -/
theorem RxInv.next_buf (inv : RxInv s) (more : s.netif.length < s.seen)
    : s.arrived[s.netif.length]? = some (s.bufs ((s.swPointer + 1) &&& 0xf).toNat) := by
  have index : ((s.swPointer + 1) &&& 0xf).toNat = s.netif.length % 16 := by
    rw [toNat_and_low, inv.swPointer, BitVec.toNat_add, BitVec.toNat_ofNat]
    have one : (1 : U8).toNat = 1 := rfl
    omega
  rw [index]
  exact inv.bufs s.netif.length (Nat.le_refl _) (Nat.lt_of_lt_of_le more inv.stored)

-----------------------------------------------------------------------------------------
-- The steps
-----------------------------------------------------------------------------------------

theorem RxInv.arrive (inv : RxInv s) (room : s.arrived.length + 1 < s.netif.length + 16)
    : RxInv { s with
        bufs := Function.update s.bufs (s.arrived.length % 16) frame
        arrived := s.arrived ++ [frame] } := by
  have passed := inv.passed.trans inv.stored
  refine
    { inv with
      stored := ?_
      room := ?_
      bufs := ?_
      inOrder := ?_ }
  · rw [List.length_append]
    exact inv.stored.trans (Nat.le_add_right _ _)
  · rw [List.length_append]
    exact room
  · rw [List.length_append]
    have others
        : Ring.Holds 16 s.bufs (fun i buf => (s.arrived ++ [frame])[i]? = some buf) s.netif.length
            s.arrived.length :=
      inv.bufs.imp (Nat.le_refl _) (Nat.le_refl _) fun i buf _ before held => by
        rw [List.getElem?_append_left before]
        exact held
    exact others.push passed inv.room (by simp)
  · rw [List.take_append_of_le_length passed]
    exact inv.inOrder

theorem RxInv.irq (inv : RxInv s) (raised : s.arrived.length ≠ 0) : RxInv (rxIrq s) := by
  have passed := inv.passed.trans inv.stored
  have room := inv.room
  refine
    { inv with
      passed := passed
      stored := Nat.le_refl _
      hwPointer := ?_
      rounds := ?_
      idle := ?_ }
  · exact fun _ => ⟨Nat.pos_of_ne_zero raised, rxIrq_hwPointer s⟩
  · rintro vars ⟨⟩
    change 0 + (s.arrived.length - s.netif.length) < 16
    omega
  · rintro ⟨⟩

/-- A round passes on the oldest frame that is unread. -/
theorem recvRound_netif (vars : RecvVars) (inv : RxInv s) (more : s.netif.length < s.seen)
    (next : s.arrived[s.netif.length]? = some frame)
    : (recvRound vars s).netif = s.netif ++ [recvFrame frame] := by
  have read := next.symm.trans (inv.next_buf more)
  rw [Option.some.inj read]
  rfl

theorem RxInv.round (inv : RxInv s) (running : s.recv = some vars) (more : s.netif.length < s.seen)
    (next : s.arrived[s.netif.length]? = some frame)
    (fits : frame.messageLength + ethHlen ≤ ptpRxFrameSize)
    : RxInv (recvRound vars s) := by
  have stored := inv.stored
  have room := inv.room
  have rounds := inv.rounds vars running
  have netif := recvRound_netif vars inv more next
  have count : (recvRound vars s).netif.length = s.netif.length + 1 := by
    rw [netif, List.length_append, List.length_singleton]
  constructor
  case swPointer =>
    rw [count]
    change s.swPointer + 1 = _
    rw [inv.swPointer, Nat.add_right_comm]
    exact (BitVec.ofNat_add _ _).symm
  case passed =>
    rw [count]
    exact more
  case stored => exact stored
  case room =>
    rw [count]
    exact Nat.lt_of_lt_of_le room (by omega)
  case bufs =>
    rw [count]
    exact inv.bufs.imp (Nat.le_succ _) (Nat.le_refl _) fun _ _ _ _ held => held
  case hwPointer =>
    have isSome : s.recv.isSome := by rw [running]; rfl
    exact fun _ => inv.hwPointer isSome
  case rounds =>
    rintro later ⟨⟩
    rw [count]
    have one : (vars.packets + 1).toNat = vars.packets.toNat + 1 := by
      rw [BitVec.toNat_add_of_lt]
      · rfl
      · change vars.packets.toNat + 1 < 2 ^ 32
        omega
    change (vars.packets + 1).toNat + (s.seen - (s.netif.length + 1)) < 16
    omega
  case idle => rintro ⟨⟩
  case inOrder =>
    rw [count]
    change (recvRound vars s).netif = (s.arrived.take (s.netif.length + 1)).map recvFrame
    rw [netif, List.take_add_one, next, List.map_append, ← inv.inOrder]
    rfl
  case lengths =>
    rw [netif]
    intro skb member
    rcases List.mem_append.mp member with earlier | new
    · exact inv.lengths skb earlier
    · rw [List.mem_singleton.mp new, recvFrame_len]
      exact fits

/-- The loop is over when all is passed on that the handler has seen. -/
theorem RxInv.finish (inv : RxInv s) (all : s.seen ≤ s.netif.length)
    : RxInv (recvEnd vars s) :=
  { inv with
    hwPointer := fun running => by cases running
    rounds := fun _ running => by cases running
    idle := fun _ => Nat.le_antisymm inv.passed all }

-----------------------------------------------------------------------------------------
-- Runs
-----------------------------------------------------------------------------------------

variable {event : RxEvent} {next : RxSys} {allocated : Bool}

/-- What the loop does at its test. -/
theorem rxStep_test (running : s.recv = some vars)
    : rxStep s (.test allocated)
      = if s.More then if allocated then some (recvRound vars s) else none
        else some (recvEnd vars s) := by
  rw [rxStep, running]

theorem RxInv.step (inv : RxInv s) (room : HasRoom s event) (fits : FrameFits s event)
    (stepped : rxStep s event = some next)
    : RxInv next := by
  cases event with
  | arrive frame =>
      cases stepped
      exact inv.arrive room
  | irq =>
      cases stepped
      split
      next taken => exact inv.irq taken.2
      next => exact inv
  | test allocated =>
      cases running : s.recv with
      | none =>
          rw [rxStep, running] at stepped
          cases stepped
          exact inv
      | some vars =>
          rw [rxStep_test running] at stepped
          have unread := inv.more_iff running
          by_cases more : s.More
          · obtain ⟨rfl, short⟩ := fits (by rw [running]; rfl) more
            rw [if_pos more, if_pos rfl] at stepped
            cases stepped
            have oldest := inv.next_buf (unread.mp more)
            exact inv.round running (unread.mp more) oldest (short _ oldest)
          · rw [if_neg more] at stepped
            cases stepped
            exact inv.finish (Nat.not_lt.mp (mt unread.mpr more))

/-- A step whose frame fits is made. -/
theorem rxStep_made (fits : FrameFits s event) : ∃ next, rxStep s event = some next := by
  cases event with
  | arrive frame => exact ⟨_, rfl⟩
  | irq => exact ⟨_, rfl⟩
  | test allocated =>
      cases running : s.recv with
      | none => exact ⟨s, by rw [rxStep, running]⟩
      | some vars =>
          rw [rxStep_test running]
          by_cases more : s.More
          · obtain ⟨rfl, -⟩ := fits (by rw [running]; rfl) more
            exact ⟨recvRound vars s, by rw [if_pos more, if_pos rfl]⟩
          · exact ⟨recvEnd vars s, if_neg more⟩

/-- A round that is right had memory for a frame that fits. -/
theorem FrameFits.of_receives (inv : RxInv s) (receives : Receives s event)
    : FrameFits s event := by
  obtain ⟨next, stepped, received⟩ := receives
  cases event with
  | arrive frame => trivial
  | irq => trivial
  | test allocated =>
      intro isSome more
      obtain ⟨vars, running⟩ := Option.isSome_iff_exists.mp isSome
      rw [rxStep_test running, if_pos more] at stepped
      cases allocated with
      | false => cases stepped
      | true =>
          cases stepped
          refine ⟨rfl, fun frame oldest => ?_⟩
          have netif := recvRound_netif vars inv ((inv.more_iff running).mp more) oldest
          have passed : recvFrame frame ∈ (recvRound vars s).netif := by
            rw [netif]
            exact List.mem_append_right _ List.mem_cons_self
          rw [← recvFrame_len]
          exact received.lengths _ passed

/-- A step is right exactly if its frame fits. -/
theorem receives_iff (inv : RxInv s) (room : HasRoom s event)
    : Receives s event ↔ FrameFits s event := by
  constructor
  · exact FrameFits.of_receives inv
  · intro fits
    obtain ⟨next, stepped⟩ := rxStep_made fits
    exact ⟨next, stepped, (inv.step room fits stepped).received⟩

/-- In a run with fewer than sixteen frames unread, every step is right exactly if every frame that
the loop comes to fits into the bytes that are allocated for it.
-/
theorem frames_received (bufs : Nat → HwBuf) {events : List RxEvent}
    (room : Along (faulting rxStep) (BeforeFault HasRoom) (some (.opened bufs)) events)
    : Along (faulting rxStep) (BeforeFault Receives) (some (.opened bufs)) events
      ↔ Along (faulting rxStep) (BeforeFault FrameFits) (some (.opened bufs)) events := by
  apply faulting_iff_given ?_ ?_ (RxInv.opened bufs) room
  · exact fun s event next inv room fits stepped => inv.step room fits stepped
  · exact fun s event inv room => receives_iff inv room

/-- A message of this length, the high byte first. -/
def frameOfLength (high low : U8) : HwBuf :=
  Function.update (Function.update (fun _ => 0) 16 high) 17 low

/-- Two frames arrive, one before and one after the interrupt that passes on the first. -/
theorem frames_received_two
    : Along (faulting rxStep) (BeforeFault Receives) (some (.opened fun _ _ => 0))
        [.arrive (frameOfLength 0 44), .irq, .arrive (frameOfLength 0 54), .test true, .test true,
          .irq, .test true, .test true] :=
  (frames_received (fun _ _ => 0) (by decide)).mpr (by decide)

/-- A frame that says that its message has 239 bytes makes 253 of the 252 that there are. -/
theorem frames_received_long
    : ¬ Along (faulting rxStep) (BeforeFault Receives) (some (.opened fun _ _ => 0))
        [.arrive (frameOfLength 0 239), .irq, .test true] := by
  rintro ⟨-, -, last, -⟩
  obtain ⟨next, stepped, received⟩ := last _ rfl
  cases stepped
  have short := received.lengths _ List.mem_cons_self
  rw [recvFrame_len] at short
  exact absurd short (by decide)

end TsnTrdp.Ptp
