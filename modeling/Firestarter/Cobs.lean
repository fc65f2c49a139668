import Mathlib.Data.List.Basic

/-! Consistent-overhead byte stuffing. A body without zeros stands for a byte string with zeros: it
splits into blocks, and a block that is not of the longest kind stands for a zero between itself
and the next. Nothing here names a device or a program that decodes. -/
namespace Cobs

abbrev Byte := BitVec 8

/-- A code and the bytes it announces. -/
structure Block where
  code : Byte
  bytes : List Byte
  fits : bytes.length + 1 = code.toNat

namespace Block

def wire (b : Block) : List Byte := b.code :: b.bytes

/-- A block of the longest kind stands for no zero after it. -/
def hasZero (b : Block) : Bool := b.code != 0xFF

end Block

def zeroIf (owed : Bool) : List Byte := if owed then [0] else []

def wire (blocks : List Block) : List Byte := blocks.flatMap Block.wire

/-- The blocks' bytes, joined with the zeros of the blocks that are not the last. -/
def decoded : List Block → List Byte
  | [] => []
  | [b] => b.bytes
  | b :: next :: rest => b.bytes ++ zeroIf b.hasZero ++ decoded (next :: rest)

/-- The body splits into blocks that stand for these bytes. -/
def Decodes (body out : List Byte) : Prop := ∃ blocks, wire blocks = body ∧ decoded blocks = out

/-! ## One pass -/

/-- What a decoder still puts out when `left` bytes of its block are to come and `owed` tells
whether a zero goes before the next block. -/
def remaining : (left : Nat) → (owed : Bool) → List Byte → Option (List Byte)
  | 0, _, [] => some []
  | _ + 1, _, [] => none
  | 0, owed, c :: body => (remaining (c.toNat - 1) (c != 0xFF) body).map (zeroIf owed ++ ·)
  | left + 1, owed, b :: body => (remaining left owed body).map (b :: ·)

/-- What blocks put out after a block that owed a zero, or did not. -/
def joined (owed : Bool) : List Block → List Byte
  | [] => []
  | b :: rest => zeroIf owed ++ b.bytes ++ joined b.hasZero rest

theorem decoded_cons (b : Block) (rest : List Block) :
    decoded (b :: rest) = b.bytes ++ joined b.hasZero rest := by
  induction rest generalizing b with
  | nil => simp [decoded, joined]
  | cons next rest ih => rw [decoded, ih, joined, List.append_assoc, List.append_assoc]

theorem joined_false (blocks : List Block) : joined false blocks = decoded blocks := by
  cases blocks with
  | nil => rfl
  | cons b rest => simp [joined, decoded_cons, zeroIf]

/-- Whether a zero goes before the next block once these blocks have gone out. -/
def owes : (owed : Bool) → List Block → Bool
  | owed, [] => owed
  | _, b :: rest => owes b.hasZero rest

theorem joined_append (owed : Bool) (blocks more : List Block) :
    joined owed (blocks ++ more) = joined owed blocks ++ joined (owes owed blocks) more := by
  induction blocks generalizing owed with
  | nil => rfl
  | cons b rest ih => simp [joined, owes, ih, List.append_assoc]

/-- Only the bytes of a block can put a zero on the wire. -/
theorem Block.zero_not_mem_wire {b : Block} (zeroFree : 0 ∉ b.bytes) : 0 ∉ b.wire := by
  intro member
  rcases List.mem_cons.mp member with code | bytes
  · have fits := b.fits
    rw [← code] at fits
    exact absurd fits (Nat.succ_ne_zero _)
  · exact zeroFree bytes

/-- Inside a block the pass copies, and then goes on between blocks. -/
theorem remaining_block (bytes body : List Byte) (owed : Bool) :
    remaining bytes.length owed (bytes ++ body) = (remaining 0 owed body).map (bytes ++ ·) := by
  induction bytes with
  | nil => simp
  | cons b bytes ih =>
    simp only [List.length_cons, List.cons_append, remaining, ih, Option.map_map]
    rfl

theorem remaining_short (left : Nat) (owed : Bool) (body : List Byte)
    (short : body.length < left) : remaining left owed body = none := by
  induction body generalizing left with
  | nil =>
    obtain ⟨n, rfl⟩ : ∃ n, left = n + 1 := ⟨left - 1, by simp at short; omega⟩
    rfl
  | cons b body ih =>
    obtain ⟨n, rfl⟩ : ∃ n, left = n + 1 := ⟨left - 1, by simp at short; omega⟩
    rw [remaining, ih n (by simpa using short), Option.map_none]

theorem remaining_wire (owed : Bool) (blocks : List Block) :
    remaining 0 owed (wire blocks) = some (joined owed blocks) := by
  induction blocks generalizing owed with
  | nil => rfl
  | cons b rest ih =>
    have length : b.code.toNat - 1 = b.bytes.length := by have := b.fits; omega
    simp only [wire, List.flatMap_cons, Block.wire, List.cons_append, remaining, length]
    rw [remaining_block]
    change ((remaining 0 b.hasZero (wire rest)).map _).map _ = _
    rw [ih, joined]
    simp

/-- What the pass puts out comes from a splitting into blocks. -/
theorem wire_of_remaining (owed : Bool) (body out : List Byte) (zeroFree : 0 ∉ body)
    (passed : remaining 0 owed body = some out) :
    ∃ blocks, wire blocks = body ∧ joined owed blocks = out := by
  induction h : body.length using Nat.strongRecOn generalizing body owed out with
  | _ n ih =>
    subst h
    cases body with
    | nil =>
      cases passed
      exact ⟨[], rfl, rfl⟩
    | cons c body =>
      rw [remaining, Option.map_eq_some_iff] at passed
      obtain ⟨out, passed, rfl⟩ := passed
      have positive : c.toNat ≠ 0 := fun zero =>
        zeroFree (by simp [BitVec.eq_of_toNat_eq (y := 0#8) zero])
      have long : c.toNat - 1 ≤ body.length := by
        by_contra short
        rw [remaining_short _ _ _ (by omega)] at passed
        cases passed
      let b : Block :=
        ⟨c, body.take (c.toNat - 1), by rw [List.length_take]; omega⟩
      have split := remaining_block b.bytes (body.drop (c.toNat - 1)) (c != 0xFF)
      have bytesLength : b.bytes.length = c.toNat - 1 := by simp [b, long]
      rw [bytesLength, List.take_append_drop, passed, eq_comm, Option.map_eq_some_iff] at split
      obtain ⟨rest, restPassed, rfl⟩ := split
      obtain ⟨blocks, onWire, joinedRest⟩ := ih _ (by rw [List.length_drop, List.length_cons]; omega) _ _ _
        (fun member => zeroFree (List.mem_cons_of_mem _ (List.mem_of_mem_drop member))) restPassed rfl
      refine ⟨b :: blocks, ?_, ?_⟩
      · simp only [wire, List.flatMap_cons] at onWire ⊢
        rw [onWire, Block.wire, List.cons_append, List.take_append_drop]
      · rw [joined, show b.hasZero = (c != 0xFF) from rfl, joinedRest, List.append_assoc]

/-- The pass from the start of a body decodes it. -/
theorem remaining_eq_some_iff {body out : List Byte} (zeroFree : 0 ∉ body) :
    remaining 0 false body = some out ↔ Decodes body out := by
  constructor
  · intro passed
    obtain ⟨blocks, onWire, out⟩ := wire_of_remaining false body out zeroFree passed
    exact ⟨blocks, onWire, by rw [← joined_false, out]⟩
  · rintro ⟨blocks, rfl, rfl⟩
    rw [remaining_wire, joined_false]

end Cobs
