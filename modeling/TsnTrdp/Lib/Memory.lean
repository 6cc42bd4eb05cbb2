import Mathlib.Algebra.Order.Ring.Nat
import Mathlib.Data.List.Nodup
import Mathlib.Tactic.Ring

/-! Memory by byte addresses: little-endian words in it, the bytes that a write leaves alone, and
the lists that are linked through it.
-/

namespace TsnTrdp.Memory

/-- The byte at every address. -/
abbrev Bytes := Nat → BitVec 8

/-- The address is one of the `n` from `a`. -/
def In (a n x : Nat) : Prop := a ≤ x ∧ x < a + n

instance (a n x : Nat) : Decidable (In a n x) := inferInstanceAs (Decidable (_ ∧ _))

/-- Two areas have no byte in common. -/
def Apart (a n b k : Nat) : Prop := a + n ≤ b ∨ b + k ≤ a

variable {mem other : Bytes} {a b n k v x : Nat}

theorem Apart.symm (apart : Apart a n b k) : Apart b k a n := Or.symm apart

theorem Apart.not_in (apart : Apart a n b k) (at_b : In b k x) : ¬ In a n x := by
  unfold Apart In at *
  omega

/-- The number that the `n` bytes from `a` are, lowest byte first. -/
def read (mem : Bytes) (a : Nat) : Nat → Nat
  | 0 => 0
  | n + 1 => (mem a).toNat + 256 * read mem (a + 1) n

/-- Stores the low `n` bytes of a number at `a`, lowest byte first. -/
def write (mem : Bytes) (a : Nat) : Nat → Nat → Bytes
  | 0, _ => mem
  | n + 1, v => write (Function.update mem a (BitVec.ofNat 8 v)) (a + 1) n (v / 256)

/-- `memset`. -/
def fill (mem : Bytes) (a n : Nat) (value : BitVec 8) : Bytes := fun x =>
  if In a n x then value else mem x

theorem fill_of_in {value : BitVec 8} (inside : In a n x) : fill mem a n value x = value :=
  if_pos inside

theorem fill_of_not_in {value : BitVec 8} (outside : ¬ In a n x) : fill mem a n value x = mem x :=
  if_neg outside

/-- A number depends on its own bytes only. By induction on these. -/
theorem read_congr (same : ∀ x, In a n x → mem x = other x) : read mem a n = read other a n := by
  induction n generalizing a with
  | zero => rfl
  | succ n ih =>
      have rest : read mem (a + 1) n = read other (a + 1) n := by
        refine ih fun x inside => same x ?_
        unfold In at *
        omega
      rw [read, read, rest, same a ⟨le_rfl, by omega⟩]

/-- A write changes its own bytes only. By induction on these. -/
theorem write_of_not_in (outside : ¬ In a n x) : write mem a n v x = mem x := by
  induction n generalizing a v mem with
  | zero => rfl
  | succ n ih =>
      have rest : ¬ In (a + 1) n x := by
        unfold In at *
        omega
      have other : x ≠ a := by
        rintro rfl
        exact outside ⟨le_rfl, by omega⟩
      rw [write, ih rest, Function.update_of_ne other]

/-- What was written is read, as far as it fits. By induction on the bytes: those after the first are
written last.
-/
theorem read_write (fits : v < 256 ^ n) : read (write mem a n v) a n = v := by
  induction n generalizing a v mem with
  | zero =>
      have : v = 0 := by simpa using fits
      exact this.symm
  | succ n ih =>
      have high : v / 256 < 256 ^ n := Nat.div_lt_of_lt_mul (by rwa [pow_succ, mul_comm] at fits)
      have first : ¬ In (a + 1) n a := by
        unfold In
        omega
      rw [read, write, ih high, write_of_not_in first, Function.update_self]
      simp only [BitVec.toNat_ofNat]
      omega

/-- A number apart from what is written stays what it was. -/
theorem read_write_apart (apart : Apart a n b k) : read (write mem a n v) b k = read mem b k :=
  read_congr fun _ inside => write_of_not_in (apart.not_in inside)

theorem read_fill_apart {value : BitVec 8} (apart : Apart a n b k)
    : read (fill mem a n value) b k = read mem b k :=
  read_congr fun _ inside => fill_of_not_in (apart.not_in inside)

/-- What is written to and what is read can be anywhere, if they are apart. -/
theorem read_of_not_in (same : ∀ x, ¬ In a n x → mem x = other x) (apart : Apart a n b k)
    : read mem b k = read other b k :=
  read_congr fun x inside => same x (apart.not_in inside)

-----------------------------------------------------------------------------------------
-- Network byte order
-----------------------------------------------------------------------------------------

/-- The low `n` bytes of a number, highest first. -/
def network (v : Nat) : Nat → List (BitVec 8)
  | 0 => []
  | n + 1 => BitVec.ofNat 8 (v / 256 ^ n) :: network v n

/-- Stores the low `n` bytes of a number at `a`, highest byte first. -/
def writeNetwork (mem : Bytes) (a : Nat) : Nat → Nat → Bytes
  | 0, _ => mem
  | n + 1, v => writeNetwork (Function.update mem a (BitVec.ofNat 8 (v / 256 ^ n))) (a + 1) n v

/-- The number that the `n` bytes from `a` are, highest byte first. -/
def readNetwork (mem : Bytes) (a : Nat) : Nat → Nat
  | 0 => 0
  | n + 1 => (mem a).toNat * 256 ^ n + readNetwork mem (a + 1) n

/-- The memory from `a` on contains the bytes. -/
def Contains (mem : Bytes) : Nat → List (BitVec 8) → Prop
  | _, [] => True
  | a, byte :: rest => mem a = byte ∧ Contains mem (a + 1) rest

variable {bytes more : List (BitVec 8)}

@[simp] theorem network_length : (network v n).length = n := by
  induction n with
  | zero => rfl
  | succ n ih => rw [network, List.length_cons, ih]

theorem contains_append
    : Contains mem a (bytes ++ more)
      ↔ Contains mem a bytes ∧ Contains mem (a + bytes.length) more := by
  induction bytes generalizing a with
  | nil => simp [Contains]
  | cons byte rest ih =>
      simp only [List.cons_append, Contains, ih, List.length_cons, and_assoc]
      rw [Nat.add_right_comm, Nat.add_assoc]

/-- The bytes stay where they are as long as they are not written to. -/
theorem Contains.congr (contains : Contains mem a bytes)
    (same : ∀ x, In a bytes.length x → other x = mem x)
    : Contains other a bytes := by
  induction bytes generalizing a with
  | nil => trivial
  | cons byte rest ih =>
      refine ⟨(same a ⟨le_rfl, by simp⟩).trans contains.1, ih contains.2 fun x inside => same x ?_⟩
      unfold In at *
      rw [List.length_cons]
      omega

/-- Bytes that are copied are contained where the copy is. -/
theorem Contains.copied (contains : Contains mem a bytes)
    (same : ∀ i < bytes.length, other (b + i) = mem (a + i))
    : Contains other b bytes := by
  induction bytes generalizing a b with
  | nil => trivial
  | cons byte rest ih =>
      refine ⟨(same 0 (by simp)).trans contains.1, ih contains.2 fun i inside => ?_⟩
      have next := same (i + 1) (by simpa using inside)
      rwa [Nat.add_comm i 1, ← Nat.add_assoc, ← Nat.add_assoc] at next

theorem writeNetwork_of_not_in (outside : ¬ In a n x) : writeNetwork mem a n v x = mem x := by
  induction n generalizing a mem with
  | zero => rfl
  | succ n ih =>
      have rest : ¬ In (a + 1) n x := by
        unfold In at *
        omega
      have other : x ≠ a := by
        rintro rfl
        exact outside ⟨le_rfl, by omega⟩
      rw [writeNetwork, ih rest, Function.update_of_ne other]

theorem contains_writeNetwork : Contains (writeNetwork mem a n v) a (network v n) := by
  induction n generalizing a mem with
  | zero => trivial
  | succ n ih =>
      have first : ¬ In (a + 1) n a := by
        unfold In
        omega
      refine ⟨?_, ih⟩
      rw [writeNetwork, writeNetwork_of_not_in first, Function.update_self]

/-- The bytes of a number in network order are read as the number, as far as it fits. -/
theorem Contains.readNetwork (contains : Contains mem a (network v n))
    : readNetwork mem a n = v % 256 ^ n := by
  induction n generalizing a with
  | zero => simp [Memory.readNetwork, Nat.mod_one]
  | succ n ih =>
      rw [Memory.readNetwork, ih contains.2, contains.1, BitVec.toNat_ofNat, Nat.mod_pow_succ (b := 256),
        Nat.add_comm, Nat.mul_comm]

/-- A number of `n` bytes fits them. -/
theorem read_lt : read mem a n < 256 ^ n := by
  induction n generalizing a with
  | zero => simp [read]
  | succ n ih =>
      have rest := ih (a := a + 1)
      have byte := (mem a).isLt
      rw [read, pow_succ]
      omega

-----------------------------------------------------------------------------------------
-- Linked lists
-----------------------------------------------------------------------------------------

/-- The nodes of a list that starts at `head`, where `next` is the link of each node and 0 ends the
list.
-/
inductive Linked (next : Nat → Nat) : Nat → List Nat → Prop
  | nil : Linked next 0 []
  | cons {node : Nat} {rest : List Nat} (real : node ≠ 0) (tail : Linked next (next node) rest)
    : Linked next node (node :: rest)

variable {next next' : Nat → Nat} {head node : Nat} {nodes : List Nat}

/-- A list is there as long as its own links are. By induction on the list. -/
theorem Linked.congr (linked : Linked next head nodes) (same : ∀ node ∈ nodes, next' node = next node)
    : Linked next' head nodes := by
  induction linked with
  | nil => exact .nil
  | cons real _ ih =>
      refine .cons real ?_
      rw [same _ List.mem_cons_self]
      exact ih fun node member => same node (List.mem_cons_of_mem _ member)

/-- A list ends at once where its head is 0. -/
theorem Linked.eq_nil (linked : Linked next 0 nodes) : nodes = [] := by
  cases linked with
  | nil => rfl
  | cons real _ => exact absurd rfl real

/-- One that does not starts with its head, and goes on from the head's link. -/
theorem Linked.eq_cons (linked : Linked next head nodes) (real : head ≠ 0)
    : ∃ rest, nodes = head :: rest ∧ Linked next (next head) rest := by
  cases linked with
  | nil => exact absurd rfl real
  | cons _ tail => exact ⟨_, rfl, tail⟩

/-- A node that is put before a list, as no node of it. -/
theorem Linked.push (linked : Linked next head nodes) (real : node ≠ 0) (first : next' node = head)
    (same : ∀ other ∈ nodes, next' other = next other)
    : Linked next' node (node :: nodes) :=
  .cons real (first ▸ linked.congr same)

end TsnTrdp.Memory
