import Mathlib.Data.List.Basic
import Mathlib.Tactic.SplitIfs

/-! A ring of cells between one writer, who moves the head, and one reader, who moves the tail. One
cell always stays free, so that equal positions mean an empty ring. Its contents are the queue it
stands for. -/
namespace RingBuffer

variable {α : Type} {capacity : Nat}

/-- `ring_next`: the position after this one. -/
def ringNext (value capacity : Nat) : Nat :=
  if value + 1 = capacity then 0 else value + 1

theorem ringNext_lt {i : Nat} (inside : i < capacity) : ringNext i capacity < capacity := by
  unfold ringNext
  split_ifs <;> omega

/-- How many cells lie between two positions. -/
def span (capacity head tail : Nat) : Nat :=
  if head ≥ tail then head - tail else capacity - tail + head

structure Ring (α : Type) (capacity : Nat) where
  cells : Nat → α
  head : Nat
  tail : Nat
  head_lt : head < capacity
  tail_lt : tail < capacity

namespace Ring

variable (r : Ring α capacity)

def used : Nat := span capacity r.head r.tail

/-- The position some cells behind the tail. -/
def place (k : Nat) : Nat :=
  if r.tail + k < capacity then r.tail + k else r.tail + k - capacity

/-- The queue the ring stands for, oldest first. -/
def contents : List α := (List.range r.used).map fun k => r.cells (r.place k)

def isFull : Prop := ringNext r.head capacity = r.tail

instance : Decidable r.isFull := inferInstanceAs (Decidable (_ = _))

/-- The free cells that can be filled. -/
def free : Nat := capacity - 1 - r.used

@[simp] theorem contents_length : r.contents.length = r.used := by simp [contents]

theorem used_lt : r.used < capacity := by
  have head := r.head_lt
  have tail := r.tail_lt
  unfold used span
  split_ifs <;> omega

theorem contents_eq_nil_iff : r.contents = [] ↔ r.tail = r.head := by
  have head := r.head_lt
  have tail := r.tail_lt
  rw [← List.length_eq_zero_iff, contents_length]
  unfold used span
  split_ifs <;> omega

theorem isFull_iff : r.isFull ↔ r.free = 0 := by
  have head := r.head_lt
  have tail := r.tail_lt
  unfold isFull free used span ringNext
  split_ifs <;> omega

/-! ## The writer -/

/-- The writer fills the cell at the head; nobody can see it yet. -/
def store (value : α) : Ring α capacity :=
  { r with cells := fun i => if i = r.head then value else r.cells i }

/-- The writer moves the head over the cell it has filled. -/
def publish : Ring α capacity :=
  { r with head := ringNext r.head capacity, head_lt := ringNext_lt r.head_lt }

def push (value : α) : Ring α capacity := (r.store value).publish

/-- No cell of the contents lies at the head. -/
theorem place_ne_head {k : Nat} (inside : k < r.used) : r.place k ≠ r.head := by
  have head := r.head_lt
  have tail := r.tail_lt
  unfold used span at inside
  unfold place
  split_ifs at inside ⊢ <;> omega

theorem place_used : r.place r.used = r.head := by
  have head := r.head_lt
  have tail := r.tail_lt
  unfold place used span
  split_ifs <;> omega

@[simp] theorem contents_store (value : α) : (r.store value).contents = r.contents := by
  apply List.map_congr_left
  intro k member
  exact if_neg (r.place_ne_head (List.mem_range.mp member))

theorem used_publish (room : ¬ r.isFull) : r.publish.used = r.used + 1 := by
  have head := r.head_lt
  have tail := r.tail_lt
  unfold isFull ringNext at room
  unfold used span publish ringNext
  simp only
  split_ifs at room ⊢ <;> omega

/-- What is published is the cell at the head. -/
theorem contents_publish (room : ¬ r.isFull) :
    r.publish.contents = r.contents ++ [r.cells r.head] := by
  unfold contents
  rw [r.used_publish room, List.range_succ, List.map_append, List.map_singleton]
  have last : r.publish.place r.used = r.head := r.place_used
  rw [last]
  rfl

theorem contents_push (value : α) (room : ¬ r.isFull) :
    (r.push value).contents = r.contents ++ [value] := by
  have later : ¬ (r.store value).isFull := room
  rw [push, contents_publish _ later, contents_store]
  exact congrArg (r.contents ++ [·]) (if_pos rfl)

theorem free_publish (room : ¬ r.isFull) : r.publish.free + 1 = r.free := by
  have used := r.used_publish room
  have left := mt r.isFull_iff.mpr room
  unfold free at *
  omega

/-! ## The reader -/

/-- The oldest cell. -/
def oldest : α := r.cells r.tail

/-- The reader moves the tail over the oldest cell. -/
def advance : Ring α capacity :=
  { r with tail := ringNext r.tail capacity, tail_lt := ringNext_lt r.tail_lt }

theorem used_advance (some : r.tail ≠ r.head) : r.advance.used + 1 = r.used := by
  have head := r.head_lt
  have tail := r.tail_lt
  unfold used span advance ringNext
  simp only
  split_ifs <;> omega

theorem place_advance {k : Nat} (inside : k + 1 < capacity) :
    r.advance.place k = r.place (k + 1) := by
  have tail := r.tail_lt
  unfold place advance ringNext
  simp only
  split_ifs <;> omega

theorem contents_advance (some : r.tail ≠ r.head) :
    r.contents = r.oldest :: r.advance.contents := by
  have used := r.used_advance some
  have bound := r.used_lt
  have first : r.place 0 = r.tail := if_pos r.tail_lt
  unfold contents
  rw [← used, List.range_succ_eq_map, List.map_cons, List.map_map, first]
  refine congrArg (r.oldest :: ·) (List.map_congr_left ?_)
  intro k member
  have inside := List.mem_range.mp member
  exact congrArg r.cells (r.place_advance (by omega)).symm

theorem free_advance (some : r.tail ≠ r.head) : r.advance.free = r.free + 1 := by
  have used := r.used_advance some
  have bound := r.used_lt
  unfold free
  omega

end Ring

end RingBuffer
