import TsnTrdp.Lib.Queue
import TsnTrdp.Lib.Run
import TsnTrdp.Vos.MemInit

/-! What the blocks are to those who hold them: private memory. The account of the holders knows only
their own calls and stores; whatever the order of these, the memory is what the account says.
-/

namespace TsnTrdp.Vos

open TsnTrdp.Memory TsnTrdp.Chains TsnTrdp.Queue TsnTrdp.Run

/-- What is done with the memory: the calls, and a byte that a holder stores in its block. -/
inductive Use
  | alloc (env : Env) (size : U32)
  | free (env : Env) (p : Nat)
  | store (p offset : Nat) (value : BitVec 8)

/-- A use, with the pointer that it returns. -/
def Use.apply (s : Process) : Use → Nat × Process
  | .alloc env size => vosMemAlloc env s size
  | .free env p => (0, vosMemFree env s p)
  | .store p offset value => (0, { s with mem := Function.update s.mem (p + offset) value })

/-- A block as its holder sees it. -/
structure Private where
  pointer : Nat
  bytes : List (BitVec 8)

/-- The account of the holders: their blocks, and all pointers that have been returned. -/
structure Account where
  held : List Private
  returned : List Nat

def Account.empty : Account := ⟨[], []⟩

/-- An allocation is of zeros, a store is of its byte, and a block that is freed is nobody's. -/
def Account.after (account : Account) (pointer : Nat) : Use → Account
  | .alloc _ size =>
      if pointer = 0 then account
      else
        { held := ⟨pointer, .replicate size.toNat 0⟩ :: account.held
          returned := pointer :: account.returned }
  | .free env p =>
      if env.lock = true then { account with held := account.held.eraseP (·.pointer = p) }
      else account
  | .store p offset value =>
      { account with
        held := account.held.map fun block =>
          if block.pointer = p then { block with bytes := block.bytes.set offset value } else block }

/-- The memory and the account of it. -/
def use (state : Process × Account) (u : Use) : Process × Account :=
  ((u.apply state.1).2, state.2.after (u.apply state.1).1 u)

/-- The uses that the module is made for: a request that can be rounded up, a free of a pointer that
has been returned before or lies outside, and a store by a holder into its own block.
-/
def UseFits (state : Process × Account) : Use → Prop
  | .alloc _ size => size.toNat + 3 < 2 ^ 32
  | .free _ p =>
      p ∈ state.2.returned ∨ p < state.1.gMem.pArea
        ∨ state.1.gMem.pArea + state.1.gMem.memSize.toNat ≤ p
  | .store p offset _ => ∃ block ∈ state.2.held, block.pointer = p ∧ offset < block.bytes.length

instance UseFits.decidable (state : Process × Account) : (u : Use) → Decidable (UseFits state u)
  | .alloc .. => inferInstanceAs (Decidable (_ < _))
  | .free .. => inferInstanceAs (Decidable (_ ∨ _ ∨ _))
  | .store .. => inferInstanceAs (Decidable (∃ block ∈ state.2.held, _))

/-- The blocks that are held lie in the area with their headers, do not overlap, and contain what
their holders account for.
-/
structure IsPrivate (state : Process × Account) : Prop where
  inside
    : ∀ block ∈ state.2.held,
        state.1.gMem.pArea + sizeofMemBlock ≤ block.pointer
          ∧ block.pointer + block.bytes.length
            ≤ state.1.gMem.pArea + state.1.gMem.memSize.toNat
  apart
    : state.2.held.Pairwise fun block other =>
        Memory.Apart (block.pointer - sizeofMemBlock) (sizeofMemBlock + block.bytes.length)
          (other.pointer - sizeofMemBlock) (sizeofMemBlock + other.bytes.length)
  contents
    : ∀ block ∈ state.2.held, ∀ k byte, block.bytes[k]? = some byte
        → state.1.mem (block.pointer + k) = byte

/-- The account is one of the blocks that are handed out. -/
structure Agrees (heap : Heap) (state : Process × Account) : Prop where
  sound : Sound vosMemNBlockSizes state.1 heap
  held : (heap.live.map Block.data).Perm (state.2.held.map (·.pointer))
  fits
    : ∀ b ∈ heap.live, ∀ block ∈ state.2.held, b.data = block.pointer
        → block.bytes.length ≤ b.size
  contents
    : ∀ block ∈ state.2.held, ∀ k byte, block.bytes[k]? = some byte
        → state.1.mem (block.pointer + k) = byte
  returned : ∀ p ∈ state.2.returned, ∃ b ∈ heap.blocks, b.data = p

variable {s : Process} {heap : Heap} {b c : Block} {account : Account} {block : Private}
  {env : Env} {state : Process × Account} {n : Nat}

instance : Std.Symm Block.Apart := ⟨fun _ _ => Block.Apart.symm⟩

/-- A block overlaps itself. -/
theorem Block.Apart.ne_data (apart : b.Apart c) : b.data ≠ c.data := by
  unfold Block.Apart Memory.Apart Block.extent sizeofMemBlock at apart
  unfold Block.data
  omega

/-- The data of a block are no bytes of another one. -/
theorem Block.Apart.not_in_data {x : Nat} (apart : b.Apart c) (within : In b.data b.size x)
    : ¬ In c.addr c.extent x := by
  refine Memory.Apart.not_in (Memory.Apart.symm apart) ?_
  unfold In Block.data Block.extent at *
  omega

theorem Sound.nodup_data (sound : Sound n s heap) : (heap.blocks.map Block.data).Nodup :=
  List.pairwise_map.mpr (sound.apart.imp Block.Apart.ne_data)

/-- A store into the data of a block that is handed out is none into headers or links. -/
theorem Sound.store (sound : Sound n s heap) (live : b ∈ heap.live) {mem : Bytes}
    (same : ∀ x, ¬ In b.data b.size x → mem x = s.mem x)
    : Sound n { s with mem := mem } heap := by
  have kept : ∀ c ∈ heap.blocks,
      read mem c.addr 4 = read s.mem c.addr 4 ∧ pNext mem c.addr = pNext s.mem c.addr := by
    intro c member
    by_cases eq : c = b
    · subst eq
      have header : ∀ x, In c.addr sizeofMemBlock x → mem x = s.mem x := by
        intro x inside
        refine same x ?_
        unfold In Block.data sizeofMemBlock at *
        omega
      unfold pNext
      constructor
      all_goals
        refine read_congr fun x inside => header x ?_
        unfold In sizeofMemBlock at *
        omega
    · have apart := sound.apart.forall (Inv.mem_blocks_of_live live) member (Ne.symm eq)
      refine read_of_apart (fun x outside => same x fun inside => outside ?_) apart
      unfold In Block.data Block.extent at *
      omega
  exact { sound with
    linked := by
      intro i less
      refine (sound.linked i less).congr fun node inside => ?_
      obtain ⟨c, member, rfl⟩ := List.mem_map.mp inside
      exact (kept c (sound.toInv.mem_blocks_of_free member)).2
    header := fun c member => by
      rw [(kept c (Inv.mem_blocks_of_live member)).1]
      exact sound.header c member
    destroyed := fun i c member => by
      rw [(kept c (sound.toInv.mem_blocks_of_free member)).1]
      exact sound.destroyed i c member }

namespace Agrees

/-- What is held is a block that is handed out. -/
theorem block_of_held (agrees : Agrees heap state) (member : block ∈ state.2.held)
    : ∃ b ∈ heap.live, b.data = block.pointer ∧ block.bytes.length ≤ b.size := by
  obtain ⟨b, live, same⟩ := List.mem_map.mp
    (agrees.held.symm.subset (List.mem_map_of_mem (f := Private.pointer) member))
  exact ⟨b, live, same, agrees.fits b live block member same⟩

theorem nodup_held (agrees : Agrees heap state) : (state.2.held.map (·.pointer)).Nodup := by
  have nodup := agrees.sound.nodup_data
  rw [Heap.blocks, List.map_append] at nodup
  exact agrees.held.nodup_iff.mp (List.nodup_append.mp nodup).1

theorem isPrivate (agrees : Agrees heap state) : IsPrivate state where
  inside := by
    intro block member
    obtain ⟨b, live, same, fits⟩ := agrees.block_of_held member
    have bounds := agrees.sound.toInv.data_bounds (Inv.mem_blocks_of_live live)
      (agrees.sound.cls b live)
    omega
  apart := by
    have nodup := List.pairwise_map.mp agrees.nodup_held
    refine nodup.imp_of_mem fun {block other} left right ne => ?_
    obtain ⟨b, live, same, fits⟩ := agrees.block_of_held left
    obtain ⟨c, live', same', fits'⟩ := agrees.block_of_held right
    have apart := agrees.sound.apart.forall (Inv.mem_blocks_of_live live) (Inv.mem_blocks_of_live live')
      (by rintro rfl; exact ne (same.symm.trans same'))
    unfold Block.Apart Memory.Apart Block.extent at apart
    unfold Memory.Apart
    unfold Block.data at same same'
    omega
  contents := agrees.contents

/-- A call that changes counters only. -/
theorem counted (agrees : Agrees heap state) (sound : Sound vosMemNBlockSizes s heap)
    (same : s.mem = state.1.mem)
    : Agrees heap (s, state.2) where
  sound := sound
  held := agrees.held
  fits := agrees.fits
  contents := same ▸ agrees.contents
  returned := agrees.returned

/-- What a holder has in its block stays, if the block is apart from what is written to. -/
theorem contents_of_apart (agrees : Agrees heap state) {mem : Bytes} (member : block ∈ state.2.held)
    (same : ∀ c ∈ heap.live, c.data = block.pointer
      → ∀ x, In c.data c.size x → mem x = state.1.mem x)
    : ∀ k byte, block.bytes[k]? = some byte → mem (block.pointer + k) = byte := by
  intro k byte found
  obtain ⟨c, live, pointer, fits⟩ := agrees.block_of_held member
  obtain ⟨below, -⟩ := List.getElem?_eq_some_iff.mp found
  rw [same c live pointer _ ⟨by omega, by omega⟩]
  exact agrees.contents block member k byte found

/-- A block that is taken and handed out, with its data cleared. -/
theorem handOut (agrees : Agrees heap (s, account)) {taken : Process} {kept : Heap} {size : U32}
    (less : b.cls < vosMemNBlockSizes) (taking : Taken s heap b taken kept)
    (fits : size.toNat ≤ b.size)
    : Agrees (kept.add b) ((taken.handOut b.addr (blockSize b.cls)).2,
        { held := ⟨b.data, .replicate size.toNat 0⟩ :: account.held
          returned := b.data :: account.returned }) := by
  have sound := agrees.sound.handOut_taken less taking
  have live : kept.live = heap.live := by cases taking <;> rfl
  have mem : taken.mem = s.mem := by cases taking <;> rfl
  have blocks : ∀ c ∈ heap.blocks, c ∈ (kept.add b).blocks := by
    intro c member
    rw [Heap.blocks_add]
    cases taking with
    | listed first => exact (Heap.blocks_unlink first less).symm.subset member
    | carved empty room addr => exact List.mem_cons_of_mem _ member
  have fresh : ∀ c ∈ heap.live, b.Apart c := by
    intro c member
    refine (List.pairwise_cons.mp sound.apart).1 c (Inv.mem_blocks_of_live ?_)
    rw [live]
    exact member
  have held_fresh : ∀ block ∈ account.held, b.data ≠ block.pointer := by
    intro block member same
    obtain ⟨c, inside, pointer, -⟩ := agrees.block_of_held member
    exact (fresh c inside).ne_data (same.trans pointer.symm)
  exact {
    sound := sound
    held := by
      simp only [Heap.add, List.map_cons, live]
      exact agrees.held.cons _
    fits := by
      intro c inside block member same
      simp only [Heap.add, live, List.mem_cons] at inside
      rcases List.mem_cons.mp member with rfl | old
      · rcases inside with rfl | inside
        · simpa using fits
        · exact absurd same.symm (fresh c inside).ne_data
      · rcases inside with rfl | inside
        · exact absurd same (held_fresh block old)
        · exact agrees.fits c inside block old same
    contents := by
      intro block member
      rcases List.mem_cons.mp member with rfl | old
      · intro k byte found
        obtain ⟨below, eq⟩ := List.getElem?_eq_some_iff.mp found
        rw [List.length_replicate] at below
        rw [List.getElem_replicate] at eq
        rw [← eq]
        refine fill_of_in ⟨Nat.le_add_right _ _, ?_⟩
        exact Nat.add_lt_add_left (lt_of_lt_of_le below fits) b.data
      · refine agrees.contents_of_apart old fun c inside _ x within => ?_
        rw [handOut_mem ((fresh c inside).symm.not_in_data within), mem]
    returned := by
      intro p member
      rcases List.mem_cons.mp member with rfl | old
      · exact ⟨b, List.mem_cons_self, rfl⟩
      · obtain ⟨c, inside, same⟩ := agrees.returned p old
        exact ⟨c, blocks c inside, same⟩ }

/-- A block that comes back. -/
theorem giveBack (agrees : Agrees heap (s, account)) (live : b ∈ heap.live)
    : Agrees (heap.release b) (s.giveBack b.cls b.addr,
        { account with held := account.held.eraseP (·.pointer = b.data) }) := by
  have sound := agrees.sound.giveBack live
  have perm := Heap.blocks_release live (agrees.sound.cls b live)
  obtain ⟨block, found⟩ : ∃ block, account.held.find? (·.pointer = b.data) = some block := by
    refine Option.isSome_iff_exists.mp (List.find?_isSome.mpr ?_)
    obtain ⟨block, member, same⟩ := List.mem_map.mp
      (agrees.held.subset (List.mem_map_of_mem (f := Block.data) live))
    exact ⟨block, member, by simpa using same⟩
  have same : block.pointer = b.data := by simpa using List.find?_some found
  have split := (perm_eraseP found).map Private.pointer
  rw [List.map_cons, same] at split
  have kept : ∀ other ∈ account.held.eraseP (·.pointer = b.data), other ∈ account.held :=
    fun other member => List.mem_of_mem_eraseP member
  exact {
    sound := sound
    held := ((((List.perm_cons_erase live).map Block.data).symm.trans agrees.held).trans
      split).cons_inv
    fits := fun c inside other member =>
      agrees.fits c (List.mem_of_mem_erase inside) other (kept other member)
    contents := by
      intro other member
      refine agrees.contents_of_apart (kept other member) fun c inside pointer x within => ?_
      refine giveBack_mem fun header => ?_
      by_cases eq : c = b
      · subst eq
        unfold In Block.data at *
        omega
      · have apart := agrees.sound.apart.forall (Inv.mem_blocks_of_live inside)
          (Inv.mem_blocks_of_live live) eq
        refine apart.not_in_data within ?_
        unfold In Block.extent at *
        omega
    returned := by
      intro p member
      obtain ⟨c, inside, same⟩ := agrees.returned p member
      exact ⟨c, perm.symm.subset inside, same⟩ }

/-- A byte that a holder stores. -/
theorem store (agrees : Agrees heap (s, account)) {offset : Nat} {value : BitVec 8}
    (member : block ∈ account.held) (below : offset < block.bytes.length)
    : Agrees heap (({ s with mem := Function.update s.mem (block.pointer + offset) value } : Process),
        { account with
          held := account.held.map fun other =>
            if other.pointer = block.pointer then
              { other with bytes := other.bytes.set offset value }
            else other }) := by
  obtain ⟨b, live, pointer, fits⟩ := agrees.block_of_held member
  have other_byte : ∀ x, x ≠ block.pointer + offset
      → Function.update s.mem (block.pointer + offset) value x = s.mem x :=
    fun x ne => Function.update_of_ne ne _ _
  have outside : ∀ x, ¬ In b.data b.size x
      → Function.update s.mem (block.pointer + offset) value x = s.mem x := by
    intro x apart
    refine other_byte x ?_
    rintro rfl
    exact apart ⟨by omega, by omega⟩
  have seen : ∀ other ∈ account.held.map fun other =>
      if other.pointer = block.pointer then { other with bytes := other.bytes.set offset value }
      else other,
      ∃ old ∈ account.held, other.pointer = old.pointer
        ∧ other.bytes.length = old.bytes.length
        ∧ (old.pointer ≠ block.pointer → other = old)
        ∧ (old.pointer = block.pointer → other.bytes = old.bytes.set offset value) := by
    intro other inside
    obtain ⟨old, there, rfl⟩ := List.mem_map.mp inside
    refine ⟨old, there, ?_⟩
    by_cases same : old.pointer = block.pointer
    · simp [same]
    · simp [same]
  exact {
    sound := agrees.sound.store live outside
    held := by
      rw [List.map_map]
      refine agrees.held.trans (.of_eq (List.map_congr_left fun other _ => ?_))
      rw [Function.comp_apply]
      split <;> rfl
    fits := by
      intro c inside other there same
      obtain ⟨old, before, pointers, lengths, -⟩ := seen other there
      rw [lengths]
      exact agrees.fits c inside old before (same.trans pointers)
    contents := by
      intro other there k byte found
      obtain ⟨old, before, pointers, -, others, set⟩ := seen other there
      change Function.update s.mem (block.pointer + offset) value (other.pointer + k) = byte
      by_cases same : old.pointer = block.pointer
      · rw [set same, List.getElem?_set] at found
        rw [pointers, same]
        by_cases here : offset = k
        · subst here
          rw [if_pos rfl] at found
          split at found
          · rw [Function.update_self]
            exact Option.some.inj found
          · cases found
        · rw [if_neg here] at found
          rw [other_byte _ (by omega), ← same]
          exact agrees.contents old before k byte found
      · rw [others same] at found ⊢
        refine agrees.contents_of_apart before (fun c inside data x within => ?_) k byte found
        have ne : b ≠ c := by
          rintro rfl
          exact same (data.symm.trans pointer)
        have apart := agrees.sound.apart.forall (Inv.mem_blocks_of_live live)
          (Inv.mem_blocks_of_live inside) ne
        refine outside x fun within' => apart.not_in_data within' ?_
        unfold In Block.data Block.extent at *
        omega
    returned := agrees.returned }

end Agrees

/-- A request is rounded up. -/
theorem le_adjustSize {size : U32} (fits : size.toNat + 3 < 2 ^ 32)
    : size.toNat ≤ (adjustSize size).toNat := by
  rw [adjustSize, BitVec.toNat_ofNat]
  omega

/-- What a use can do to the memory, the blocks and the account. -/
inductive Outcome (heap : Heap) (s : Process) (account : Account)
    : Use → Process × Account → Heap → Prop
  | refused {env : Env} {size : U32} (why : size = 0 ∨ env.lock = false ∨ Exhausted vosMemNBlockSizes s heap size)
    (null : (vosMemAlloc env s size).1 = 0)
    : Outcome heap s account (.alloc env size) (s.countAllocErr, account) heap
  | handed {env : Env} {size : U32} {b : Block} {taken : Process} {kept : Heap}
    (less : b.cls < vosMemNBlockSizes)
    (fits : size.toNat ≤ b.size) (taking : Taken s heap b taken kept)
    (pointer : (vosMemAlloc env s size).1 = b.data)
    : Outcome heap s account (.alloc env size)
        ((taken.handOut b.addr (blockSize b.cls)).2,
          { held := ⟨b.data, .replicate size.toNat 0⟩ :: account.held
            returned := b.data :: account.returned })
        (kept.add b)
  | notFreed {env : Env} {p : Nat} (why : env.lock = false ∨ ∀ block ∈ account.held, block.pointer ≠ p)
    : Outcome heap s account (.free env p) (s.countFreeErr, account) heap
  | freed {env : Env} {b : Block} (lock : env.lock = true) (live : b ∈ heap.live)
    : Outcome heap s account (.free env b.data)
        (s.giveBack b.cls b.addr,
          { account with held := account.held.eraseP (·.pointer = b.data) })
        (heap.release b)
  | stored {block : Private} {offset : Nat} {value : BitVec 8} (member : block ∈ account.held)
    (below : offset < block.bytes.length)
    : Outcome heap s account (.store block.pointer offset value)
        ({ s with mem := Function.update s.mem (block.pointer + offset) value },
          { account with
            held := account.held.map fun other =>
              if other.pointer = block.pointer then
                { other with bytes := other.bytes.set offset value }
              else other })
        heap

/-- A free of a pointer that nobody holds changes nothing but the counter. -/
theorem use_free_refused {p : Nat} (freed : vosMemFree env s p = s.countFreeErr)
    (absent : ∀ block ∈ account.held, block.pointer ≠ p)
    : Outcome heap s account (.free env p) (use (s, account) (.free env p)) heap := by
  have erased : account.held.eraseP (·.pointer = p) = account.held :=
    List.eraseP_of_forall_not fun block member => by simpa using absent block member
  have after : use (s, account) (.free env p) = (s.countFreeErr, account) := by
    simp only [use, Use.apply, Account.after, freed, erased, ite_self]
  rw [after]
  exact .notFreed (.inr absent)

/-- Every use that fits has one of these outcomes. -/
theorem use_outcome (agrees : Agrees heap (s, account)) {u : Use} (fits : UseFits (s, account) u)
    : ∃ heap', Outcome heap s account u (use (s, account) u) heap' := by
  cases u with
  | alloc env size =>
      rcases agrees.sound.toInv.vosMemAlloc_cases (by decide) env size with ⟨why, eq⟩
          | ⟨-, -, b, taken, kept, less, big, taking, eq⟩
      · refine ⟨heap, ?_⟩
        simp only [use, Use.apply, eq, Account.after, if_true]
        exact .refused why (by rw [eq])
      · refine ⟨kept.add b, ?_⟩
        have real : b.data ≠ 0 := by
          unfold Block.data sizeofMemBlock
          omega
        have after : use (s, account) (.alloc env size)
            = ((taken.handOut b.addr (blockSize b.cls)).2,
              { held := ⟨b.data, .replicate size.toNat 0⟩ :: account.held
                returned := b.data :: account.returned }) := by
          simp only [use, Use.apply, eq, Account.after]
          rw [if_neg]
          · rfl
          · exact real
        rw [after]
        exact .handed less ((le_adjustSize fits).trans big) taking (by rw [eq]; rfl)
  | free env p =>
      rcases fits with returned | foreign
      · obtain ⟨b, member, rfl⟩ := agrees.returned p returned
        rcases List.mem_append.mp member with live | listed
        · have freed : vosMemFree env s b.data = _ := agrees.sound.toInv.vosMemFree_live live
          cases lock : env.lock with
          | false =>
              rw [lock, if_neg (by simp)] at freed
              refine ⟨heap, ?_⟩
              simp only [use, Use.apply, Account.after, freed, lock, Bool.false_eq_true, if_false]
              exact .notFreed (.inl lock)
          | true =>
              rw [lock, if_pos rfl] at freed
              refine ⟨heap.release b, ?_⟩
              simp only [use, Use.apply, Account.after, freed, lock, if_true]
              exact .freed lock live
        · obtain ⟨i, -, free⟩ := mem_entries.mp listed
          refine ⟨heap, use_free_refused (agrees.sound.toInv.vosMemFree_free free) ?_⟩
          intro block held same
          obtain ⟨c, live, pointer, -⟩ := agrees.block_of_held held
          have nodup := agrees.sound.nodup_data
          rw [Heap.blocks, List.map_append] at nodup
          exact (List.nodup_append.mp nodup).2.2 c.data (List.mem_map_of_mem live) b.data
            (List.mem_map_of_mem listed) (pointer.trans same)
      · refine ⟨heap, use_free_refused (agrees.sound.toInv.vosMemFree_foreign foreign) ?_⟩
        intro block held same
        obtain ⟨c, live, pointer, -⟩ := agrees.block_of_held held
        have bounds := agrees.sound.toInv.data_bounds (Inv.mem_blocks_of_live live)
          (agrees.sound.cls c live)
        change p < s.gMem.pArea ∨ s.gMem.pArea + s.gMem.memSize.toNat ≤ p at foreign
        change s.gMem.pArea + sizeofMemBlock ≤ c.data ∧ c.data < s.gMem.pArea + s.gMem.memSize.toNat
          ∧ _ at bounds
        omega
  | store p offset value =>
      obtain ⟨block, member, rfl, below⟩ := fits
      exact ⟨heap, .stored member below⟩

/-- Every outcome keeps the account. -/
theorem Outcome.agrees {u : Use} {state' : Process × Account} {heap' : Heap}
    (outcome : Outcome heap s account u state' heap') (before : Agrees heap (s, account))
    : Agrees heap' state' := by
  cases outcome with
  | refused why null => exact before.counted before.sound.countAllocErr rfl
  | handed less fits taking pointer => exact before.handOut less taking fits
  | notFreed why => exact before.counted before.sound.countFreeErr rfl
  | freed lock live => exact before.giveBack live
  | stored member below => exact before.store member below

/-- Every use keeps the account. -/
theorem use_agrees {u : Use} (state : Process × Account) (agrees : ∃ heap, Agrees heap state)
    (fits : UseFits state u)
    : ∃ heap, Agrees heap (use state u) := by
  obtain ⟨heap, agrees⟩ := agrees
  obtain ⟨heap', outcome⟩ := use_outcome agrees fits
  exact ⟨heap', outcome.agrees agrees⟩

variable {g : MemControl} {mem : Bytes} {pMemoryArea : Nat} {size : U32}
  {fragMem : Option (Nat → U32)}

/-- The state that `vos_memInit` leaves, with nothing held. -/
def initial (env : Env) (s : Process) (pMemoryArea : Nat) (size : U32)
    (fragMem : Option (Nat → U32))
    : Process × Account :=
  ((vosMemInit env s true pMemoryArea size fragMem).2, Account.empty)

theorem init_agrees (fits : InitFits env s.gMem pMemoryArea size fragMem)
    : ∃ heap, Agrees heap (initial env s pMemoryArea size fragMem) := by
  obtain ⟨free, sound⟩ := (vosMemInit_sound fits).2.sound
  exact ⟨_, sound, .nil, fun _ member => (nomatch member), fun _ member => (nomatch member),
    fun _ member => (nomatch member)⟩

/-- The account holds after every run. -/
theorem run_agrees (fits : InitFits env s.gMem pMemoryArea size fragMem) {uses : List Use}
    (good : Along use UseFits (initial env s pMemoryArea size fragMem) uses)
    : ∃ heap, Agrees heap (run use (initial env s pMemoryArea size fragMem) uses) :=
  Along.invariant (fun state _ => use_agrees state) (init_agrees fits) good

/-- Every block is private memory, whatever the order of the uses after `vos_memInit`: the blocks
that are held lie in the area and do not overlap, and they contain what their holders account for.
-/
theorem blocks_private (fits : InitFits env s.gMem pMemoryArea size fragMem) {uses : List Use}
    (good : Along use UseFits (initial env s pMemoryArea size fragMem) uses)
    : IsPrivate (run use (initial env s pMemoryArea size fragMem) uses) := by
  obtain ⟨heap, agrees⟩ := run_agrees fits good
  exact agrees.isPrivate

/-- A process that has not used its memory yet. -/
def unused : Process := ⟨.initial, fun _ => 0⟩

/-- Two of the smallest blocks are to be allocated ahead. -/
def twoSmall : Option (Nat → U32) := some fun i => if i = 0 then 2 else 0

/-- Two requests, a store, a free, the same free again, and one of `NULL`. -/
def sixUses : List Use :=
  [.alloc ⟨true, 0⟩ 40, .alloc ⟨true, 0⟩ 10, .store 4176 3 7, .free ⟨true, 0⟩ 4176,
    .free ⟨true, 0⟩ 4176, .free ⟨true, 0⟩ 0]

theorem unused_fits : InitFits ⟨true, 0⟩ unused.gMem 4096 4096 twoSmall :=
  ⟨rfl, by decide, by decide, by decide, ⟨fun _ _ => rfl, fun _ _ => rfl⟩, by decide⟩

theorem sixUses_fit : Along use UseFits (initial ⟨true, 0⟩ unused 4096 4096 twoSmall) sixUses := by
  decide

theorem blocks_private_sixUses
    : IsPrivate (run use (initial ⟨true, 0⟩ unused 4096 4096 twoSmall) sixUses) :=
  blocks_private unused_fits sixUses_fit

end TsnTrdp.Vos
