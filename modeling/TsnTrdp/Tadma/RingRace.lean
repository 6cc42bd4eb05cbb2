import TsnTrdp.Tadma.StreamRing
import TsnTrdp.Lib.Run
import TsnTrdp.Lib.Ring
import TsnTrdp.Lib.Frames

/-! One stream's ring under a transmitting CPU, an interrupt CPU and the fetch engine that
interleave store by store. The interrupt polls without the lock; only its completion
loop, `tadma_xmit_done`, waits for the transmit to release it.
-/

namespace TsnTrdp.Tadma

open TsnTrdp

/-- Where `tadma_irq` is in its work on the stream: before reading the slot at `tx_bd_rd`,
holding the word it read before the loop test, or about to call `tadma_xmit_done`.
-/
inductive IrqPc
  | idle
  | read (cnt : Nat)
  | test (cnt : Nat) (cfg : U32)
  | done (cnt : Nat)
  deriving DecidableEq, Repr

/-- The stream and what has happened on it: the packets accepted, the slots the engine
fetched with the words it found there, the slots the interrupt counted as completed, and
the ring entries it unmapped (and freed, where they carry a packet).
-/
structure StreamSys where
  ring : StreamRing
  fetching : Bool
  queued : List SkBuff
  fetched : List (Nat × AlmEntry)
  counted : List Nat
  done : List (Option AxitadmaBd)

/-- The stream with the stores that the transmit holding the lock has still to make and
the position of the interrupt.
-/
structure StreamRace extends StreamSys where
  tx : List TxWrite
  irq : IrqPc

/-- One step of one of the three parties. -/
inductive RaceEvent
  | xmit (skb : SkBuff)
  | store
  | fetchSlot
  | fetchNext
  | irqEnter
  | irqRead
  | irqTest
  | irqDone
  deriving DecidableEq, Repr

/-- The packets freed so far, in order. -/
def StreamSys.freed (s : StreamSys) : List Nat :=
  s.done.filterMap fun bd => bd.bind AxitadmaBd.txSkb

/-- The engine's two steps on the stream. -/
def StreamSys.fetchSlot (n : Nat) (s : StreamSys) : StreamSys :=
  if s.fetching = false ∧ s.ring.Fetchable n then
    { s with
      ring := s.ring.fetchSlot
      fetching := true
      fetched := s.fetched ++ [(pmRd s.ring.pm, s.ring.alm (pmRd s.ring.pm))] }
  else s

def StreamSys.fetchNext (n : Nat) (s : StreamSys) : StreamSys :=
  if s.fetching then { s with ring := s.ring.fetchNext n, fetching := false } else s

/-- One interleaved step. A party that is not at the named point, or that waits for the
lock, does not move.
-/
def raceStep (n : Nat) (s : StreamRace) : RaceEvent → StreamRace
  | .xmit skb =>
      match s.tx, xmitAccept n s.ring skb with
      | [], some writes => { s with queued := s.queued ++ [skb], tx := writes }
      | _, _ => s
  | .store =>
      match s.tx with
      | [] => s
      | write :: rest => { s with ring := s.ring.store n write, tx := rest }
  | .fetchSlot => { s with toStreamSys := s.toStreamSys.fetchSlot n }
  | .fetchNext => { s with toStreamSys := s.toStreamSys.fetchNext n }
  | .irqEnter =>
      match s.irq with
      | .idle => { s with irq := .read 0 }
      | _ => s
  | .irqRead =>
      match s.irq with
      | .read cnt => { s with irq := .test cnt (s.ring.alm s.ring.txBdRd).cfg }
      | _ => s
  | .irqTest =>
      match s.irq with
      | .test cnt cfg =>
          if UffClear cfg ∧ cnt < n ∧ s.ring.txBdRd ≠ s.ring.txBdHead then
            { s with
              ring := { s.ring with txBdRd := (s.ring.txBdRd + 1) % n }
              counted := s.counted ++ [s.ring.txBdRd]
              irq := .read (cnt + 1) }
          else { s with irq := if cnt = 0 then .idle else .done cnt }
      | _ => s
  | .irqDone =>
      match s.irq, s.tx with
      | .done cnt, [] =>
          { s with
            ring := (tadmaXmitDone n cnt s.ring).1
            done := s.done ++ (tadmaXmitDone n cnt s.ring).2
            irq := .idle }
      | _, _ => s

/-- A descriptor: its ring entry and its address-length entry. -/
abbrev Desc := AxitadmaBd × AlmEntry

def fragDescs (addr : Nat) : List SkbFrag → List Desc
  | [] => []
  | frag :: rest =>
      (fragBd addr frag rest.isEmpty, almFrag frag rest.isEmpty) :: fragDescs addr rest

/-- The descriptors of a packet, in ring order. -/
def SkBuff.descs (skb : SkBuff) : List Desc :=
  (headBd skb (skb.dma.getD 0), almFframe skb (skb.dma.getD 0)) :: fragDescs skb.addr skb.frags

/-- The descriptors of every accepted packet, in ring order. -/
def StreamSys.descs (s : StreamSys) : List Desc := s.queued.flatMap SkBuff.descs

/-- Completion only after submission and fetch: the slots counted are, in order, slots that
the engine fetched; what it fetched are words of accepted packets with `UFF` set; and the
entries unmapped and freed are those of fetched descriptors.
-/
structure CompletedAfterFetch (s : StreamSys) : Prop where
  counted : s.counted.IsPrefix (s.fetched.map Prod.fst)
  armed : ∀ fetch ∈ s.fetched, ¬ UffClear fetch.2.cfg
  submitted : (s.fetched.map Prod.snd).IsPrefix (s.descs.map Prod.snd)
  done : s.done.IsPrefix ((s.descs.take s.fetched.length).map fun desc => some desc.1)

/-- The ring has room for a packet that can be mapped whenever the pointer test lets it
through: entries not yet reaped and the packet's own fit into the ring.
-/
def HasRoom (n : Nat) (ring : StreamRing) (skb : SkBuff) : Prop :=
  skb.dma.isSome = true
  → axienetCheckPmSpace (skb.frags.length + 1) (pmWr ring.pm) (pmRd ring.pm) n = true
  → (ring.txBdHead + n - ring.txBdTail) % n + (skb.frags.length + 1) ≤ n

instance (n : Nat) (ring : StreamRing) (skb : SkBuff) : Decidable (HasRoom n ring skb) :=
  inferInstanceAs (Decidable (_ → _))

/-- The interrupt is about to read a slot. -/
def IrqPc.isRead : IrqPc → Bool
  | .read _ => true
  | _ => false

/-- The interrupt holds a cleared word that it has read and not yet tested. -/
def IrqPc.holdsClear : IrqPc → Bool
  | .test _ cfg => decide (UffClear cfg)
  | _ => false

/-- A store of the configuration word of `slot`. -/
def TxWrite.isAlmCfg (slot : Nat) : TxWrite → Bool
  | .almCfg slot' _ => slot' == slot
  | _ => false

/-- The schedule keeps the interrupt's unlocked poll of a slot away from its publication:
`tx_bd_head` does not pass a slot while the interrupt holds a cleared word of it that it
read before, and the interrupt does not read a cleared word of a slot that has been
published but not yet written. Packets that pass the pointer test have room.
-/
def PollApart (n : Nat) (s : StreamRace) : RaceEvent → Prop
  | .xmit skb => s.tx = [] → HasRoom n s.ring skb
  | .store =>
      s.tx.head? = some .txBdHead → s.irq.holdsClear → s.ring.txBdRd ≠ s.ring.txBdHead
  | .irqRead =>
      s.irq.isRead → s.ring.txBdRd ≠ s.ring.txBdHead → s.tx.any (·.isAlmCfg s.ring.txBdRd)
      → ¬ UffClear (s.ring.alm s.ring.txBdRd).cfg
  | _ => True

instance (n : Nat) (s : StreamRace) : (event : RaceEvent) → Decidable (PollApart n s event)
  | .xmit _ => inferInstanceAs (Decidable (_ → _))
  | .store => inferInstanceAs (Decidable (_ → _))
  | .irqRead => inferInstanceAs (Decidable (_ → _))
  | .fetchSlot | .fetchNext | .irqEnter | .irqTest | .irqDone => inferInstanceAs (Decidable True)

end TsnTrdp.Tadma
