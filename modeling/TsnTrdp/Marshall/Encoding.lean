import TsnTrdp.Marshall.Follows
import TsnTrdp.Marshall.Layout

/-! What is marshalled is the wire of the data set: its numbers in network order, and nothing else. -/

namespace TsnTrdp.Marshall

open TsnTrdp.Memory

/-- Nothing was read or written past an end. -/
def Room (s : Info) : Prop := s.pSrc ≤ s.pSrcEnd ∧ s.pDst ≤ s.pDstEnd

/-- The destination is no part of the source. -/
def Clear (s : Info) : Prop :=
  Apart s.pSrc (s.pSrcEnd - s.pSrc) s.pDst (s.pDstEnd - s.pDst)

/-- What is packed so far is the wire of what is laid out so far. -/
structure Packed (start s : Info) (l : Layout) : Prop where
  pSrcEnd : s.pSrcEnd = start.pSrcEnd
  pDstEnd : s.pDstEnd = start.pDstEnd
  next : l.next = s.pSrc
  limit : l.limit = start.pSrcEnd
  mem : l.mem = start.mem
  pSrc : start.pSrc ≤ s.pSrc
  pDst : s.pDst = start.pDst + (wire start.mem l.fields).length
  contains : Contains s.mem start.pDst (wire start.mem l.fields)
  frame : ∀ x, ¬ In start.pDst (wire start.mem l.fields).length x → s.mem x = start.mem x

variable {start s s' : Info} {l : Layout} {k width n : Nat}

theorem Writes.room (writes : Writes k s s') (room : Room s') : Room s := by
  obtain ⟨source, dest⟩ := room
  have ends := writes.pSrcEnd
  have ends' := writes.pDstEnd
  have forward := writes.pSrc
  have place := writes.pDst
  exact ⟨by omega, by omega⟩

/-- The source is as it was. -/
theorem Packed.read_source (packed : Packed start s l) (clear : Clear start) (room : Room s)
    {a : Nat} (low : start.pSrc ≤ a) (high : a + width ≤ start.pSrcEnd)
    : read s.mem a width = read start.mem a width := by
  refine read_of_not_in packed.frame ?_
  have place := packed.pDst
  have ends := packed.pDstEnd
  have fits := room.2
  unfold Clear Apart at *
  omega

theorem Packed.align {pSrc : Nat} (packed : Packed start s l) (forward : s.pSrc ≤ pSrc)
    : Packed start { s with pSrc } { l with next := pSrc } :=
  { packed with next := rfl, pSrc := packed.pSrc.trans forward }

/-- One more number. -/
theorem Packed.put (packed : Packed start s l) (clear : Clear start) (room : Room (s.put width))
    : Packed start (s.put width) (l.field width) := by
  have before := (writes_put width s).room room
  have source : s.pSrc + width ≤ start.pSrcEnd := by
    rw [← packed.pSrcEnd]
    exact room.1
  have value := packed.read_source clear before packed.pSrc source
  have longer : wire start.mem (l.field width).fields
      = wire start.mem l.fields ++ network (read s.mem s.pSrc width) width := by
    rw [Layout.field, wire_append, wire_field, packed.next, value]
  have length : (wire start.mem (l.field width).fields).length
      = (wire start.mem l.fields).length + width := by
    rw [longer, List.length_append, network_length]
  have place := packed.pDst
  refine { packed with
    next := ?_, pSrc := packed.pSrc.trans (Nat.le_add_right _ _), pDst := ?_, contains := ?_,
    frame := ?_ }
  · rw [Layout.field, packed.next]
    rfl
  · rw [length, ← Nat.add_assoc, ← place]
    rfl
  · rw [longer, contains_append, ← place]
    refine ⟨packed.contains.congr fun x inside => writeNetwork_of_not_in ?_, contains_writeNetwork⟩
    unfold In at *
    omega
  · intro x outside
    rw [length] at outside
    have first : ¬ In start.pDst (wire start.mem l.fields).length x := by
      unfold In at *
      omega
    have second : ¬ In s.pDst width x := by
      unfold In at *
      omega
    rw [← packed.frame x first]
    exact writeNetwork_of_not_in second

-----------------------------------------------------------------------------------------
-- The items of an element
-----------------------------------------------------------------------------------------

/-- As far as nothing went past an end. -/
def Sends (start s : Info) (l : Layout) : Prop := Room s → Packed start s l

theorem Sends.align (sends : Sends start s l) (pos : 0 < k)
    : Sends start { s with pSrc := alignePtr s.pSrc k } (l.align k) := by
  intro room
  have packed := sends ((Writes.of_pSrc (le_alignePtr s.pSrc pos)).room room)
  have aligned := packed.align (le_alignePtr s.pSrc pos)
  rwa [← packed.next] at aligned ⊢

theorem Sends.skip (sends : Sends start s l)
    : Sends start { s with pSrc := s.pSrc + k } (l.skip k) := by
  intro room
  have packed := sends ((Writes.of_pSrc (Nat.le_add_right _ k)).room room)
  have skipped := packed.align (Nat.le_add_right s.pSrc k)
  rwa [← packed.next] at skipped ⊢

theorem Sends.put (sends : Sends start s l) (clear : Clear start)
    : Sends start (s.put width) (l.field width) :=
  fun room => (sends ((writes_put width s).room room)).put clear room

theorem Sends.putTimedate48 (sends : Sends start s l) (clear : Clear start)
    : Sends start s.putTimedate48 l.timedate48 :=
  ((((sends.align (by decide)).put clear).align (by decide)).put clear).skip

/-- By induction on the number of the items. -/
theorem Sends.times {f : Info → Info} {g : Layout → Layout}
    (each : ∀ s l, Sends start s l → Sends start (f s) (g l)) (sends : Sends start s l)
    : Sends start (times f n s) (times g n l) := by
  induction n generalizing s l with
  | zero => exact sends
  | succ n ih => exact ih (each s l sends)

theorem Sends.packed {type : U32} (sends : Sends start s l) (clear : Clear start)
    : Sends start (s.packed n (kindOf type)) (l.laid n (kindOf type)) := by
  cases kind : kindOf type with
  | number width =>
      exact (sends.align (width_pos kind)).times fun s l sends => sends.put clear
  | wide => exact (sends.align (by decide)).times fun s l sends => sends.put clear
  | timedate48 => exact sends.times fun s l sends => sends.putTimedate48 clear
  | timedate64 =>
      exact (sends.align (by decide)).times fun s l sends => (sends.put clear).put clear
  | unknown => exact sends

-----------------------------------------------------------------------------------------
-- The layout follows the walk that packs
-----------------------------------------------------------------------------------------

theorem sends_firstOr {count : Option Nat} {element : Element} {v w : U32} (clear : Clear start)
    (sends : Sends start s l) (agree : Agree count v w)
    (room : Room (s.packed (itemsOf element v).toNat (kindOf element.type)))
    : Agree (countAfter count element) (firstOr v s.mem s.pSrc (kindOf element.type))
        (firstOr w l.mem l.next (kindOf element.type)) := by
  have before := (writes_packed element.type _ s).room room
  have packed := sends before
  refine agree.countAfter (tracks_firstOr agree.tracks) ?_ ?_
  · intro width number single
    have one : (itemsOf element v).toNat = 1 := by
      rw [itemsOf, single, if_neg (by decide)]
      rfl
    rw [one, number] at room
    have high : alignePtr s.pSrc width + width ≤ start.pSrcEnd := by
      rw [← packed.pSrcEnd]
      exact room.1
    have low := packed.pSrc.trans (le_alignePtr s.pSrc (width_pos number))
    rw [number, firstOr, firstOr, packed.mem, packed.next, packed.read_source clear before low high]
  · intro other
    cases kind : kindOf element.type with
    | number width => exact absurd kind (other width)
    | wide => exact ⟨rfl, rfl⟩
    | timedate48 => exact ⟨rfl, rfl⟩
    | timedate64 => exact ⟨rfl, rfl⟩
    | unknown => exact ⟨rfl, rfl⟩

theorem follows_layout (clear : Clear start)
    : Follows marshallWalk layoutWalk Room (Sends start) where
  tracks := marshallSteps.tracks
  good := by
    intro type n v s s' v' _ done room
    rcases marshallItems_cases type n v s with ⟨-, packed⟩ | failed
    · obtain ⟨rfl, -⟩ := Prod.mk.inj (Except.ok.inj (done.symm.trans packed))
      exact (writes_packed type n.toNat s).room room
    · exact absurd (done.symm.trans failed) (by simp)
  stops := by
    intro s l sends room stopped
    have packed := sends room
    change l.limit ≤ l.next
    rw [packed.limit, packed.next, ← packed.pSrcEnd]
    exact stopped
  stays := by
    intro type n v s s' v' l sends more exhausted done room
    rcases marshallItems_cases type n v s with ⟨-, packed⟩ | failed
    · obtain ⟨rfl, -⟩ := Prod.mk.inj (Except.ok.inj (done.symm.trans packed))
      have packed := sends ((writes_packed type n.toNat s).room room)
      change l.limit ≤ l.next at exhausted
      rw [packed.limit, packed.next, ← packed.pSrcEnd] at exhausted
      exact absurd more (Nat.not_lt.mpr exhausted)
    · exact absurd (done.symm.trans failed) (by simp)
  items := by
    intro count element v w s s' v' l fit agree _ _ sends done room
    rcases marshallItems_cases element.type (itemsOf element v) v s with ⟨-, packed⟩ | failed
    · obtain ⟨rfl, rfl⟩ := Prod.mk.inj (Except.ok.inj (done.symm.trans packed))
      exact ⟨_, _, rfl, sends.packed clear, sends_firstOr clear sends agree room⟩
    · exact absurd (done.symm.trans failed) (by simp)
  within := by
    intro s l sends room
    have packed := sends room
    change l.next ≤ l.limit
    rw [packed.limit, packed.next, ← packed.pSrcEnd]
    exact room.1

end TsnTrdp.Marshall
