import TsnTrdp.Tadma.RingSafety

/-! The device over its whole life: it is opened and stopped, and while it is open its
streams transmit and complete. Opening starts the driver's rings anew; the engine's
pointers and slots keep what they had.
-/

namespace TsnTrdp.Tadma

open TsnTrdp Run

variable {m n : Nat}

/-- The device with `m` streams. The interrupt handler can stay installed after an open that
failed.
-/
structure TadmaDevice (m : Nat) where
  opened : Bool
  irqRequested : Bool
  streams : Fin m → StreamSys

/-- A transmit names the stream that `tadma_get_strid` returned, if any. Opening comes with
the result of `request_irq` and the number of allocations that succeed before one fails.
-/
inductive TadmaEvent (m : Nat)
  | tadmaOpen (requestIrq : Bool) (allocs : Nat)
  | tadmaXmit (sid : Option (Fin m)) (skb : SkBuff)
  | fetchSlot (sid : Fin m)
  | fetchNext (sid : Fin m)
  | tadmaIrq (status : U32)
  | tadmaStop
  deriving DecidableEq

/-- What `axienet_tadma_open` does to the ring of a stream that its loop reaches. The soft
reset of the engine is commented out there.
-/
def StreamRing.openRing (ring : StreamRing) : StreamRing :=
  { ring with
    txBd := fun _ => none
    txBdHead := 0
    txBdTail := 0
    txBdRd := 0 }

/-- An open succeeds with the array of `tx_bd` and one ring for each stream. -/
def OpenSucceeds (m : Nat) (requestIrq : Bool) (allocs : Nat) : Prop :=
  requestIrq = true ∧ m + 1 ≤ allocs

instance (m : Nat) (requestIrq : Bool) (allocs : Nat)
    : Decidable (OpenSucceeds m requestIrq allocs) :=
  inferInstanceAs (Decidable (_ ∧ _))

/-- `axienet_tadma_open`. The loop has reset the cursors of a stream before the stream's
allocation, which is number `sid + 1` behind that of the array.
-/
def TadmaDevice.axienetTadmaOpen (d : TadmaDevice m) (requestIrq : Bool) (allocs : Nat)
    : TadmaDevice m :=
  if requestIrq then
    { opened := decide (m + 1 ≤ allocs)
      irqRequested := true
      streams := fun sid =>
        if sid < allocs then { d.streams sid with ring := (d.streams sid).ring.openRing }
        else d.streams sid }
  else d

/-- `axienet_tadma_stop`: the rings are freed. -/
def TadmaDevice.axienetTadmaStop (d : TadmaDevice m) : TadmaDevice m where
  opened := false
  irqRequested := false
  streams := fun sid =>
    { d.streams sid with ring := { (d.streams sid).ring with txBd := fun _ => none } }

/-- One step. The network core opens a stopped device, and stops or transmits on an open one;
the engine fetches at any time.
-/
def deviceStep (n : Nat) (d : TadmaDevice m) : TadmaEvent m → TadmaDevice m
  | .tadmaOpen requestIrq allocs =>
      if d.opened then d else d.axienetTadmaOpen requestIrq allocs
  | .tadmaXmit (some sid) skb =>
      if d.opened then { d with streams := interleave (ringStep n) d.streams (sid, .xmit skb) }
      else d
  | .tadmaXmit none _ => d
  | .fetchSlot sid => { d with streams := interleave (ringStep n) d.streams (sid, .fetchSlot) }
  | .fetchNext sid => { d with streams := interleave (ringStep n) d.streams (sid, .fetchNext) }
  | .tadmaIrq status =>
      if d.irqRequested then
        { d with streams := fun sid => ringStep n (d.streams sid) (.irq status) }
      else d
  | .tadmaStop => if d.opened then d.axienetTadmaStop else d

/-- A ring entry describes the buffer of a slot: its address and its fetch size. -/
structure Describes (bd : AxitadmaBd) (alm : AlmEntry) : Prop where
  addr : alm.addr = bd.phys
  fetchSz
    : alm.cfg &&& xtadmaAlmFetchSzMask
      = (bd.len <<< xtadmaAlmFetchSzShift) &&& xtadmaAlmFetchSzMask

/-- What is asked of a stream of an open device: the slot that the next transmit writes is
the one polled for `tx_bd_head`, and every ring entry describes the slot of its index.
-/
structure SlotAligned (n sid : Nat) (ring : StreamRing) : Prop where
  offset
    : tadmaStreamAlmOffset n sid (pmWr ring.pm) = tadmaStreamAlmOffsetIrq n sid ring.txBdHead
  cursor : ((pmWr ring.pm : Int) - 1) % n = ring.txBdHead
  described : ∀ k bd, ring.txBd k = some bd → Describes bd (ring.alm k)

def TadmaDevice.Aligned (n : Nat) (d : TadmaDevice m) : Prop :=
  d.opened = true → ∀ sid : Fin m, SlotAligned n sid (d.streams sid).ring

/-- An open that succeeds finds the write pointer of every stream where a reset leaves it. -/
def OpensAtReset (n : Nat) (d : TadmaDevice m) : TadmaEvent m → Prop
  | .tadmaOpen requestIrq allocs =>
      d.opened = false → OpenSucceeds m requestIrq allocs
        → ∀ sid, pmWr (d.streams sid).ring.pm % n = 1 % n
  | _ => True

instance (n : Nat) (d : TadmaDevice m) : (event : TadmaEvent m) → Decidable (OpensAtReset n d event)
  | .tadmaOpen _ _ => inferInstanceAs (Decidable (_ → _))
  | .tadmaXmit _ _ | .fetchSlot _ | .fetchNext _ | .tadmaIrq _ | .tadmaStop =>
      inferInstanceAs (Decidable True)

end TsnTrdp.Tadma
