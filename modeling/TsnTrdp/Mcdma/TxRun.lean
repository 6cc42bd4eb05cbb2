import TsnTrdp.Mcdma.TxQueue
import TsnTrdp.Lib.Run
import TsnTrdp.Lib.Ring
import TsnTrdp.Lib.Frames

/-! The transmit queue in use: packets are queued, completed by the engine, reaped, and lost
to a recovery at any point. What is asked of it, and when it can be had.
-/

namespace TsnTrdp.Mcdma

open TsnTrdp Run
open TsnTrdp.Tadma (U32 NetdevTx)

/-- The queue and what has happened on it: the packets accepted and freed up to the last
recovery, and since then the packets accepted, the number of descriptors completed and the
descriptors reaped.
-/
structure TxSys where
  q : TxQueue
  past : List Nat
  pastFreed : List Nat
  queued : List SkBuff
  completed : Nat
  reaped : List AximcdmaBd

def TxSys.init : TxSys where
  q := .init
  past := []
  pastFreed := []
  queued := []
  completed := 0
  reaped := []

/-- The packets freed since the last recovery. -/
def TxSys.freed (s : TxSys) : List Nat := s.reaped.filterMap AximcdmaBd.txSkb

inductive TxEvent
  | queueXmit (skb : SkBuff)
  | complete (status : U32)
  | xmitDone
  | errHandler
  deriving DecidableEq, Repr

def txStep (cfg : TxConfig) (s : TxSys) : TxEvent → TxSys
  | .queueXmit skb =>
      match axienetQueueXmit cfg s.q skb with
      | (.ok, q) => { s with q, queued := s.queued ++ [skb] }
      | (.busy, q) => { s with q }
  | .complete status =>
      if s.q.Busy then { s with q := s.q.complete status, completed := s.completed + 1 }
      else s
  | .xmitDone =>
      { s with
        q := (axienetStartXmitDone s.q).1
        reaped := s.reaped ++ (axienetStartXmitDone s.q).2 }
  | .errHandler =>
      { q := (axienetMcdmaErrHandler s.q).1
        past := s.past ++ s.queued.map SkBuff.addr
        pastFreed := s.pastFreed ++ s.freed
          ++ (axienetMcdmaErrHandler s.q).2.filterMap AximcdmaBd.txSkb
        queued := []
        completed := 0
        reaped := [] }

/-- The descriptors of a packet; the last one carries it. -/
def SkBuff.descs (cfg : TxConfig) (skb : SkBuff) : List (Option Nat) :=
  List.replicate (skb.mapped cfg).length none ++ [some skb.addr]

/-- The descriptors of the packets accepted since the last recovery. -/
def TxSys.descs (cfg : TxConfig) (s : TxSys) : List (Option Nat) :=
  s.queued.flatMap (SkBuff.descs cfg)

/-- The descriptors that are neither reaped nor lost. -/
def TxSys.outstanding (cfg : TxConfig) (s : TxSys) : Nat := (s.descs cfg).length - s.reaped.length

/-- What is asked of a state. The cursors count the outstanding descriptors. What was accepted
before the last recovery has been freed, each packet once; since then the first packets
accepted have been freed, each once, and the engine has completed all their descriptors.
With nothing outstanding the queue accepts.
-/
structure TxRight (cfg : TxConfig) (s : TxSys) : Prop where
  window
    : (s.q.txBdTail + txBdNum - s.q.txBdCi) % txBdNum = s.outstanding cfg
      ∧ s.outstanding cfg ≤ txBdNum - 1
  past : s.pastFreed.Perm s.past
  freed
    : ∃ count ≤ s.queued.length,
        s.freed = (s.queued.take count).map SkBuff.addr
        ∧ ((s.queued.take count).flatMap (SkBuff.descs cfg)).length ≤ s.completed
  accepts
    : s.outstanding cfg = 0
      → ∀ skb : SkBuff, skb.frags.length < txBdNum - 1 → (axienetQueueXmit cfg s.q skb).1 = .ok

/-- What is asked of a step: the state after it is right, and a completion run frees every
packet of which all descriptors are complete.
-/
structure TxStepRight (cfg : TxConfig) (s : TxSys) (event : TxEvent) : Prop where
  right : TxRight cfg (txStep cfg s event)
  reaps
    : event = .xmitDone
      → ∀ count ≤ s.queued.length,
        ((s.queued.take count).flatMap (SkBuff.descs cfg)).length ≤ s.completed
        → count ≤ (txStep cfg s event).freed.length

/-- Recovery finds no status bit in any descriptor. -/
def RecoversClear (s : TxSys) : TxEvent → Prop
  | .errHandler => ∀ i < txBdNum, (s.q.txqBdV i).sbandStats &&& xmcdmaBdStsAllMask = 0
  | _ => True

instance (s : TxSys) : (event : TxEvent) → Decidable (RecoversClear s event)
  | .errHandler => inferInstanceAs (Decidable (∀ i < txBdNum, _))
  | .queueXmit _ | .complete _ | .xmitDone => inferInstanceAs (Decidable True)

/-- Two rings with the same status and the same packets. -/
def SameMarks (bds bds' : Nat → AximcdmaBd) : Prop :=
  ∀ i, (bds' i).sbandStats = (bds i).sbandStats ∧ (bds' i).txSkb = (bds i).txSkb

theorem SameMarks.trans {a b c : Nat → AximcdmaBd} (first : SameMarks a b) (second : SameMarks b c)
    : SameMarks a c :=
  fun i => ⟨(second i).1.trans (first i).1, (second i).2.trans (first i).2⟩

theorem SameMarks.update {bds : Nat → AximcdmaBd} {slot : Nat} {bd : AximcdmaBd}
    (status : bd.sbandStats = (bds slot).sbandStats) (packet : bd.txSkb = (bds slot).txSkb)
    : SameMarks bds (Function.update bds slot bd) := by
  intro i
  by_cases same : i = slot
  · subst same
    rw [Function.update_self]
    exact ⟨status, packet⟩
  · rw [Function.update_of_ne same]
    exact ⟨rfl, rfl⟩

theorem csumBd_marks (cfg : TxConfig) (skb : SkBuff) (cur : AximcdmaBd)
    : (csumBd cfg skb cur).sbandStats = cur.sbandStats
      ∧ (csumBd cfg skb cur).txSkb = cur.txSkb := by
  unfold csumBd
  split
  · split
    · exact ⟨rfl, rfl⟩
    · split <;> exact ⟨rfl, rfl⟩
  · split <;> exact ⟨rfl, rfl⟩

theorem headBd_marks (cfg : TxConfig) (skb : SkBuff) (tail : Nat) (cur : AximcdmaBd)
    : (headBd cfg skb tail cur).sbandStats = cur.sbandStats
      ∧ (headBd cfg skb tail cur).txSkb = cur.txSkb := by
  unfold headBd
  dsimp only
  split <;> exact csumBd_marks cfg skb cur

/-- The fragments take the descriptors behind `tail`. Induction on the fragments. -/
theorem fragBds_marks (pad : U32) (frags : List Tadma.SkbFrag) {tail : Nat}
    (bds : Nat → AximcdmaBd) (range : tail < txBdNum)
    : (fragBds pad frags tail bds).1 = (tail + frags.length) % txBdNum
      ∧ SameMarks bds (fragBds pad frags tail bds).2 := by
  induction frags generalizing tail bds with
  | nil => exact ⟨(Nat.mod_eq_of_lt range).symm, fun _ => ⟨rfl, rfl⟩⟩
  | cons frag rest ih =>
      have next : SameMarks bds (Function.update bds ((tail + 1) % txBdNum)
          (fragBd pad frag rest.isEmpty (bds ((tail + 1) % txBdNum)))) :=
        .update rfl rfl
      obtain ⟨last, marks⟩ := ih
        (Function.update bds ((tail + 1) % txBdNum)
          (fragBd pad frag rest.isEmpty (bds ((tail + 1) % txBdNum))))
        (Nat.mod_lt (tail + 1) (by decide))
      refine ⟨?_, next.trans marks⟩
      rw [fragBds, last, Nat.mod_add_mod, List.length_cons, Nat.add_assoc, Nat.add_comm 1]

/-- What an accepted packet leaves: its last descriptor, `last`, carries it, and no status has
changed.
-/
structure TxAccepted (cfg : TxConfig) (q : TxQueue) (skb : SkBuff) (q' : TxQueue) (last : Nat)
    : Prop where
  space : axienetCheckTxBdSpace q skb.frags.length = .ok
  at' : last = (q.txBdTail + (skb.mapped cfg).length) % txBdNum
  ci : q'.txBdCi = q.txBdCi
  tail : q'.txBdTail = (last + 1) % txBdNum
  curDesc : q'.curDesc = q.curDesc
  tailDesc : q'.tailDesc = some last
  status : ∀ i, (q'.txqBdV i).sbandStats = (q.txqBdV i).sbandStats
  carrier : (q'.txqBdV last).txSkb = some skb.addr
  others : ∀ i, i ≠ last → (q'.txqBdV i).txSkb = (q.txqBdV i).txSkb

theorem axienetQueueXmit_accepted {cfg : TxConfig} {q q' : TxQueue} {skb : SkBuff}
    (range : q.txBdTail < txBdNum) (ok : axienetQueueXmit cfg q skb = (.ok, q'))
    : ∃ last, TxAccepted cfg q skb q' last := by
  unfold axienetQueueXmit at ok
  cases space : axienetCheckTxBdSpace q skb.frags.length with
  | busy =>
      rw [space] at ok
      cases ok
  | ok =>
      rw [space] at ok
      obtain ⟨-, rfl⟩ := Prod.mk.inj ok
      have head : SameMarks q.txqBdV (Function.update q.txqBdV q.txBdTail
          (headBd cfg skb q.txBdTail (q.txqBdV q.txBdTail))) :=
        .update (headBd_marks ..).1 (headBd_marks ..).2
      obtain ⟨last, marks⟩ := fragBds_marks (skb.pad cfg) (skb.mapped cfg) (Function.update
        q.txqBdV q.txBdTail (headBd cfg skb q.txBdTail (q.txqBdV q.txBdTail))) range
      generalize fragBds (skb.pad cfg) (skb.mapped cfg) q.txBdTail _ = filled at last marks ⊢
      have all := head.trans marks
      refine ⟨filled.1, space, last, rfl, rfl, rfl, rfl, ?_, ?_, ?_⟩
      · intro i
        by_cases same : i = filled.1
        · subst same
          simp only [Function.update_self]
          exact (all filled.1).1
        · simpa only [Function.update_of_ne same] using (all i).1
      · simp only [Function.update_self]
        rfl
      · intro i other
        simpa only [Function.update_of_ne other] using (all i).2

end TsnTrdp.Mcdma
