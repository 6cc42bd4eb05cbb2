import TsnTrdp.Marshall.Encoding

/-! What is unmarshalled from the wire of a data set is the data set. -/

namespace TsnTrdp.Marshall

open TsnTrdp.Memory

/-- A data set that was sent, and the walk that starts to unpack it: its wire is received whole, and the
destination has room for what the source was, at an address of the same alignment.
-/
structure Transfer where
  source : Nat
  sourceEnd : Nat
  sent : Bytes
  fields : List Field
  start : Info
  wide : ∀ field ∈ fields, 0 < field.width
  whole : start.pSrcEnd = start.pSrc + (wire sent fields).length
  contains : Contains start.mem start.pSrc (wire sent fields)
  clear : Clear start
  aligned : start.pDst % 8 = source % 8
  room : start.pDst + sourceEnd ≤ start.pDstEnd + source

/-- Where a number of the source belongs at the receiver. -/
def Transfer.placeOf (t : Transfer) (field : Field) : Nat := field.addr - t.source + t.start.pDst

/-- What is laid out so far is the start of what was sent. -/
def Transfer.Ahead (t : Transfer) (l : Layout) : Prop :=
  l.fields <+: t.fields ∧ l.next ≤ l.limit

/-- What is laid out so far is unpacked so far. -/
structure Unpacked (t : Transfer) (l : Layout) (u : Info) : Prop where
  pSrcEnd : u.pSrcEnd = t.start.pSrcEnd
  pDstEnd : u.pDstEnd = t.start.pDstEnd
  mem : l.mem = t.sent
  limit : l.limit = t.sourceEnd
  next : t.source ≤ l.next
  below : ∀ field ∈ l.fields, t.source ≤ field.addr ∧ field.addr + field.width ≤ l.next
  pSrc : u.pSrc = t.start.pSrc + (wire t.sent l.fields).length
  contains : Contains u.mem t.start.pSrc (wire t.sent t.fields)
  restored
    : ∀ field ∈ l.fields,
        read u.mem (t.placeOf field) field.width = read t.sent field.addr field.width
  frame
    : ∀ x, (∀ field ∈ l.fields, ¬ In (t.placeOf field) field.width x) → u.mem x = t.start.mem x

/-- The destination is where the layout is. -/
def Transfer.InStep (t : Transfer) (l : Layout) (u : Info) : Prop :=
  u.pDst + t.source = t.start.pDst + l.next

variable {t : Transfer} {l l' : Layout} {u u' : Info} {k width n : Nat}

theorem Grows.fields_prefix (grows : Grows l l') : l.fields <+: l'.fields := by
  obtain ⟨more, grown, -⟩ := grows.fields
  exact ⟨more, grown.symm⟩

theorem Grows.ahead (grows : Grows l l') (ahead : t.Ahead l') : t.Ahead l := by
  refine ⟨grows.fields_prefix.trans ahead.1, grows.next.trans ?_⟩
  rw [← grows.limit]
  exact ahead.2

/-- The same place, as far as alignment goes, is aligned to the same place. -/
theorem alignePtr_inStep {a b x y : Nat} (powers : k = 1 ∨ k = 2 ∨ k = 4 ∨ k = 8)
    (aligned : a % 8 = b % 8) (inStep : x + b = a + y)
    : alignePtr x k + b = a + alignePtr y k := by
  unfold alignePtr
  rcases powers with rfl | rfl | rfl | rfl <;> omega

theorem Transfer.InStep.align (inStep : t.InStep l u) (powers : k = 1 ∨ k = 2 ∨ k = 4 ∨ k = 8)
    : t.InStep (l.align k) { u with pDst := alignePtr u.pDst k } :=
  alignePtr_inStep powers t.aligned inStep

/-- Padding moves the layout only. -/
theorem Unpacked.forward {next pDst : Nat} (unpacked : Unpacked t l u) (forward : l.next ≤ next)
    : Unpacked t { l with next } { u with pDst } :=
  { unpacked with
    next := unpacked.next.trans forward
    below := fun field member =>
      ⟨(unpacked.below field member).1, (unpacked.below field member).2.trans forward⟩ }

/-- The wire has the next number where the walk reads it. -/
theorem Unpacked.readNetwork (unpacked : Unpacked t l u) (ahead : t.Ahead (l.field width))
    : readNetwork u.mem u.pSrc width = read t.sent l.next width := by
  obtain ⟨rest, total⟩ := ahead.1
  have contains := unpacked.contains
  rw [← total, Layout.field, wire_append, wire_append, contains_append, contains_append, wire_field,
    ← unpacked.pSrc] at contains
  rw [contains.1.2.readNetwork, Nat.mod_eq_of_lt read_lt]

/-- One more number. -/
theorem Unpacked.get (unpacked : Unpacked t l u) (inStep : t.InStep l u)
    (ahead : t.Ahead (l.field width))
    : Unpacked t (l.field width) (u.get width) ∧ t.InStep (l.field width) (u.get width) := by
  have number := unpacked.readNetwork ahead
  have fits : l.next + width ≤ t.sourceEnd := by
    rw [← unpacked.limit]
    exact ahead.2
  have low := unpacked.next
  have room := t.room
  have clear := t.clear
  have step := inStep
  unfold Transfer.InStep at step
  -- The place of the number is where the walk writes it, past what is restored.
  have place : t.placeOf ⟨l.next, width⟩ = u.pDst := by
    unfold Transfer.placeOf
    simp only
    omega
  have others : ∀ field ∈ l.fields, Apart u.pDst width (t.placeOf field) field.width := by
    intro field member
    obtain ⟨above, below⟩ := unpacked.below field member
    unfold Apart Transfer.placeOf
    omega
  have wireApart
      : ∀ x, In t.start.pSrc (wire t.sent t.fields).length x → ¬ In u.pDst width x := by
    intro x inside
    have whole := t.whole
    unfold Clear Apart at clear
    unfold In at *
    omega
  refine ⟨{ unpacked with
    next := low.trans (Nat.le_add_right _ _), below := ?_, pSrc := ?_, contains := ?_,
    restored := ?_, frame := ?_ }, ?_⟩
  · intro field member
    rcases List.mem_append.mp member with early | new
    · obtain ⟨above, below⟩ := unpacked.below field early
      exact ⟨above, below.trans (Nat.le_add_right _ _)⟩
    · obtain rfl := List.mem_singleton.mp new
      exact ⟨low, le_rfl⟩
  · rw [Layout.field, wire_append, wire_field, List.length_append, network_length, ← Nat.add_assoc,
      ← unpacked.pSrc]
    rfl
  · exact unpacked.contains.congr fun x inside => write_of_not_in (wireApart x inside)
  · intro field member
    change read (write u.mem u.pDst width (Memory.readNetwork u.mem u.pSrc width)) _ _ = _
    rcases List.mem_append.mp member with early | new
    · rw [read_write_apart (others field early)]
      exact unpacked.restored field early
    · obtain rfl := List.mem_singleton.mp new
      rw [place, number, read_write read_lt]
  · intro x outside
    have new : ¬ In u.pDst width x := by
      rw [← place]
      exact outside ⟨l.next, width⟩ (List.mem_append_right _ List.mem_cons_self)
    rw [← unpacked.frame x fun field member => outside field (List.mem_append_left _ member)]
    exact write_of_not_in new
  · change u.pDst + width + t.source = t.start.pDst + (l.next + width)
    omega

-----------------------------------------------------------------------------------------
-- The items of an element
-----------------------------------------------------------------------------------------

/-- Both walks are at the same place, as far as there is something to unpack. -/
def Receives (t : Transfer) (l : Layout) (u : Info) : Prop :=
  t.Ahead l → Unpacked t l u ∧ t.InStep l u

theorem Receives.align (receives : Receives t l u) (powers : k = 1 ∨ k = 2 ∨ k = 4 ∨ k = 8)
    : Receives t (l.align k) { u with pDst := alignePtr u.pDst k } := by
  intro ahead
  have pos : 0 < k := by omega
  obtain ⟨unpacked, inStep⟩ := receives ((grows_align pos).ahead ahead)
  exact ⟨unpacked.forward (le_alignePtr _ pos), inStep.align powers⟩

theorem Receives.skip (receives : Receives t l u)
    : Receives t (l.skip k) { u with pDst := u.pDst + k } := by
  intro ahead
  obtain ⟨unpacked, inStep⟩ := receives (grows_skip.ahead ahead)
  refine ⟨unpacked.forward (Nat.le_add_right _ k), ?_⟩
  unfold Transfer.InStep Layout.skip at *
  simp only
  omega

theorem Receives.get (receives : Receives t l u) (pos : 0 < width)
    : Receives t (l.field width) (u.get width) := by
  intro ahead
  obtain ⟨unpacked, inStep⟩ := receives ((grows_field pos).ahead ahead)
  exact unpacked.get inStep ahead

theorem Receives.getTimedate48 (receives : Receives t l u)
    : Receives t l.timedate48 u.getTimedate48 :=
  ((((receives.align (by decide)).get (by decide)).align (by decide)).get (by decide)).skip

/-- What is aligned stays where it is. -/
theorem alignePtr_alignePtr (p : Nat) : alignePtr (alignePtr p 4 + 4) 4 = alignePtr p 4 + 4 := by
  unfold alignePtr
  omega

theorem getTimedate64_eq (u : Info)
    : getTimedate64 u.pDst u = ({ u with pDst := alignePtr u.pDst 4 }.get 4).get 4 := by
  have place : ({ u with pDst := alignePtr u.pDst 4 }.get 4).pDst = alignePtr u.pDst 4 + 4 := rfl
  simp only [getTimedate64, place, alignePtr_alignePtr]
  rfl

/-- By induction on the number of the items. -/
theorem Receives.times {f : Layout → Layout} {g : Info → Info}
    (each : ∀ l u, Receives t l u → Receives t (f l) (g u)) (receives : Receives t l u)
    : Receives t (times f n l) (times g n u) := by
  induction n generalizing l u with
  | zero => exact receives
  | succ n ih => exact ih (each l u receives)

/-- Where the items of an element are unpacked to. -/
def Info.unpacked (n : Nat) (s : Info) : Kind → Info
  | .number width => times (Info.get width) n { s with pDst := alignePtr s.pDst width }
  | .wide => times (Info.get 8) n { s with pDst := alignePtr s.pDst 8 }
  | .timedate48 => times Info.getTimedate48 n s
  | .timedate64 => times (getTimedate64 s.pDst) n s
  | .unknown => s

theorem Receives.unpacked {type : U32} (receives : Receives t l u)
    (single : kindOf type = .timedate64 → n = 1)
    : Receives t (l.laid n (kindOf type)) (u.unpacked n (kindOf type)) := by
  cases kind : kindOf type with
  | number width =>
      have powers : width = 1 ∨ width = 2 ∨ width = 4 ∨ width = 8 := by
        rcases width_cases kind with rfl | rfl | rfl <;> decide
      exact (receives.align powers).times fun l u receives => receives.get (width_pos kind)
  | wide => exact (receives.align (by decide)).times fun l u receives => receives.get (by decide)
  | timedate48 => exact receives.times fun l u receives => receives.getTimedate48
  | timedate64 =>
      obtain rfl := single kind
      change Receives t ((l.align 4).timedate64) (getTimedate64 u.pDst u)
      rw [getTimedate64_eq]
      exact ((receives.align (by decide)).get (by decide)).get (by decide)
  | unknown => exact receives

/-- What `var_size` is after an element, from the last of its numbers. -/
def lastOr (n : Nat) (varSize : U32) (s : Info) : Kind → U32
  | .number width => (times (getNumber width) n ({ s with pDst := alignePtr s.pDst width }, varSize)).2
  | _ => varSize

theorem times_getNumber (width n : Nat) (state : Info × U32)
    : (times (getNumber width) n state).1 = times (Info.get width) n state.1 := by
  induction n generalizing state with
  | zero => rfl
  | succ n ih => exact ih (getNumber width state)

theorem unmarshallItems_eq {type noOfItems varSize : U32} {s : Info}
    (room : kindOf type ≠ .unknown → ¬ s.TooSmall noOfItems (kindOf type).wireWidth)
    : unmarshallItems type noOfItems varSize s
      = .ok (s.unpacked noOfItems.toNat (kindOf type),
          lastOr noOfItems.toNat varSize s (kindOf type)) := by
  unfold unmarshallItems
  cases kind : kindOf type with
  | number width =>
      have fits : ¬ s.TooSmall noOfItems width := by simpa [kind, Kind.wireWidth] using room
      refine (if_neg fits).trans ?_
      exact congrArg Except.ok (Prod.ext (times_getNumber width _ _) rfl)
  | wide => exact if_neg (by simpa [kind, Kind.wireWidth] using room)
  | timedate48 => exact if_neg (by simpa [kind, Kind.wireWidth] using room)
  | timedate64 => exact if_neg (by simpa [kind, Kind.wireWidth] using room)
  | unknown => rfl

-----------------------------------------------------------------------------------------
-- The room for the items
-----------------------------------------------------------------------------------------

theorem next_le_times {f : Layout → Layout} (each : ∀ l, l.next + k ≤ (f l).next)
    : l.next + n * k ≤ (times f n l).next := by
  induction n generalizing l with
  | zero => simp [times]
  | succ n ih =>
      calc
        l.next + (n + 1) * k = l.next + k + n * k := by ring
        _ ≤ (f l).next + n * k := Nat.add_le_add_right (each l) _
        _ ≤ (times f n (f l)).next := ih

/-- The items of an element take at least what they take on the wire. -/
theorem next_le_laid (type : U32) (n : Nat) (l : Layout)
    : l.next + n * (kindOf type).wireWidth ≤ (l.laid n (kindOf type)).next := by
  cases kind : kindOf type with
  | number width =>
      exact (Nat.add_le_add_right (le_alignePtr l.next (width_pos kind)) _).trans
        (next_le_times (l := l.align width) fun l => le_rfl)
  | wide =>
      exact (Nat.add_le_add_right (le_alignePtr l.next (by decide)) _).trans
        (next_le_times (l := l.align 8) fun l => le_rfl)
  | timedate48 =>
      refine next_le_times fun l => ?_
      have aligned := le_alignePtr (k := 4) l.next (by decide)
      have again := le_alignePtr (k := 2) (alignePtr l.next 4 + 4) (by decide)
      change l.next + 6 ≤ alignePtr (alignePtr l.next 4 + 4) 2 + 2 + 2
      omega
  | timedate64 =>
      exact (Nat.add_le_add_right (le_alignePtr l.next (by decide)) _).trans
        (next_le_times (l := l.align 4) fun l => le_rfl)
  | unknown => exact le_rfl

/-- There is room for the items that are to come. -/
theorem Transfer.InStep.not_tooSmall {type noOfItems : U32} (inStep : t.InStep l u)
    (unpacked : Unpacked t l u) (bytes : noOfItems.toNat * (kindOf type).wireWidth < 2 ^ 32)
    (ahead : t.Ahead (l.laid noOfItems.toNat (kindOf type)))
    : ¬ u.TooSmall noOfItems (kindOf type).wireWidth := by
  have fits : (l.laid noOfItems.toNat (kindOf type)).next ≤ t.sourceEnd := by
    rw [← unpacked.limit, ← (grows_laid type noOfItems.toNat l).limit]
    exact ahead.2
  have longer := next_le_laid type noOfItems.toNat l
  have ends := unpacked.pDstEnd
  have room := t.room
  unfold Transfer.InStep at inStep
  unfold Info.TooSmall
  rw [toNat_bytes bytes]
  omega

-----------------------------------------------------------------------------------------
-- The walk that unpacks follows the layout
-----------------------------------------------------------------------------------------

/-- What is to come: where the source ends, everything is laid out. -/
def Transfer.Good (t : Transfer) (l : Layout) : Prop :=
  t.Ahead l ∧ (l.limit ≤ l.next → l.fields = t.fields)

/-- What is laid out is unpacked, and the walks are in step until the wire ends. -/
def Transfer.Related (t : Transfer) (l : Layout) (u : Info) : Prop :=
  t.Good l → Unpacked t l u ∧ (t.InStep l u ∨ l.fields = t.fields)

theorem wire_length (mem : Bytes) (fields : List Field)
    : (wire mem fields).length = (fields.map Field.width).sum := by
  simp [wire, List.length_flatMap]

/-- The wire ends with the last of the numbers. -/
theorem Unpacked.all (unpacked : Unpacked t l u) (ahead : t.Ahead l)
    (exhausted : u.pSrcEnd ≤ u.pSrc)
    : l.fields = t.fields := by
  obtain ⟨rest, total⟩ := ahead.1
  rw [unpacked.pSrcEnd, unpacked.pSrc, t.whole, ← total, wire_append, List.length_append] at exhausted
  cases rest with
  | nil => rwa [List.append_nil] at total
  | cons field rest =>
      have wide := t.wide field (total ▸ List.mem_append_right _ List.mem_cons_self)
      rw [wire_length t.sent (field :: rest), List.map_cons, List.sum_cons] at exhausted
      omega

theorem Unpacked.exhausted (unpacked : Unpacked t l u) (all : l.fields = t.fields)
    : u.pSrcEnd ≤ u.pSrc := by
  rw [unpacked.pSrcEnd, unpacked.pSrc, t.whole, all]

theorem Grows.good (grows : Grows l l') (more : l.next < l.limit) (good : t.Good l') : t.Good l :=
  ⟨grows.ahead good.1, fun stopped => absurd more (Nat.not_lt.mpr stopped)⟩

theorem receives_lastOr {count : Option Nat} {element : Element} {v w : U32} (agree : Agree count v w)
    (receives : Receives t l u)
    (ahead : t.Ahead (l.laid (itemsOf element v).toNat (kindOf element.type)))
    : Agree (countAfter count element) (firstOr v l.mem l.next (kindOf element.type))
        (lastOr (itemsOf element v).toNat w u (kindOf element.type)) := by
  refine agree.countAfter (tracks_firstOr agree.tracks) ?_ ?_
  · intro width number single
    have one : (itemsOf element v).toNat = 1 := by
      rw [itemsOf, single, if_neg (by decide)]
      rfl
    rw [one, number] at ahead
    have powers : width = 1 ∨ width = 2 ∨ width = 4 ∨ width = 8 := by
      rcases width_cases number with rfl | rfl | rfl <;> decide
    have before : t.Ahead (l.align width) := (grows_field (width_pos number)).ahead ahead
    obtain ⟨unpacked, -⟩ := receives.align powers before
    have value := unpacked.readNetwork ahead
    rw [number, one, firstOr, (receives ((grows_align (width_pos number)).ahead before)).1.mem]
    exact congrArg (BitVec.ofNat 32) value
  · intro other
    cases kind : kindOf element.type with
    | number width => exact absurd kind (other width)
    | wide => exact ⟨rfl, rfl⟩
    | timedate48 => exact ⟨rfl, rfl⟩
    | timedate64 => exact ⟨rfl, rfl⟩
    | unknown => exact ⟨rfl, rfl⟩

theorem follows_unmarshall (t : Transfer)
    : Follows layoutWalk unmarshallWalk t.Good t.Related where
  tracks := layoutSteps.tracks
  good := by
    intro type n v l l' v' more done good
    obtain ⟨rfl, -⟩ := Prod.mk.inj (Except.ok.inj done)
    exact (grows_laid type n.toNat l).good more good
  stops := by
    intro l u related good stopped
    exact (related good).1.exhausted (good.2 stopped)
  stays := by
    intro type n v l l' v' u related more exhausted done good
    obtain ⟨rfl, -⟩ := Prod.mk.inj (Except.ok.inj done)
    have grows := grows_laid type n.toNat l
    obtain ⟨unpacked, -⟩ := related (grows.good more good)
    have all := unpacked.all (grows.ahead good.1) exhausted
    have same : (l.laid n.toNat (kindOf type)).fields = l.fields :=
      (grows.fields_prefix.eq_of_length_le (all ▸ good.1.1.length_le)).symm
    intro _
    refine ⟨?_, .inr (same.trans all)⟩
    have still : Unpacked t { l with next := (l.laid n.toNat (kindOf type)).next } u :=
      unpacked.forward grows.next
    exact { still with
      mem := grows.mem.trans unpacked.mem, limit := grows.limit.trans unpacked.limit,
      below := by rw [same]; exact still.below, pSrc := by rw [same]; exact still.pSrc,
      restored := by rw [same]; exact still.restored, frame := by rw [same]; exact still.frame }
  items := by
    intro count element v w l l' v' u fit agree more going related done good
    obtain ⟨rfl, rfl⟩ := Prod.mk.inj (Except.ok.inj done)
    obtain ⟨unpacked, inStep | all⟩ := related ((grows_laid _ _ l).good more good)
    · have receives : Receives t l u := fun _ => ⟨unpacked, inStep⟩
      have room := inStep.not_tooSmall unpacked (fit.bytes agree.tracks) good.1
      have single (timedate : kindOf element.type = .timedate64) : (itemsOf element v).toNat = 1 := by
        rw [itemsOf, fit.single timedate, if_neg (by decide)]
        rfl
      refine ⟨_, _, unmarshallItems_eq fun _ => room, fun _ => ?_,
        receives_lastOr agree receives good.1⟩
      obtain ⟨unpacked, inStep⟩ := receives.unpacked single good.1
      exact ⟨unpacked, .inl inStep⟩
    · exact absurd going (Nat.not_lt.mpr (unpacked.exhausted all))
  within := by
    intro l u related good
    obtain ⟨unpacked, -⟩ := related good
    obtain ⟨rest, total⟩ := good.1.1
    change u.pSrc ≤ u.pSrcEnd
    rw [unpacked.pSrcEnd, unpacked.pSrc, t.whole, ← total, wire_append, List.length_append]
    omega

end TsnTrdp.Marshall
