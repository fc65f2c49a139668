import Mathlib.Data.List.Basic

/-! Streams of records without separators. A record tells by its own symbols where it ends, so a
stream of records is read back one record at a time, and in one way only. -/
namespace SelfDelimiting

variable {α β : Type*}

/-- A way to write a record, and a reader that takes exactly the written records off the front of
a stream. -/
structure Framing (α β : Type*) where
  write : α → List β
  /-- The records that are written at all. -/
  Fits : α → Prop
  read : List β → Option (α × List β)
  read_eq_some_iff : ∀ s a rest, read s = some (a, rest) ↔ Fits a ∧ s = write a ++ rest
  write_ne_nil : ∀ a, Fits a → write a ≠ []

namespace Framing

variable (F : Framing α β)

theorem read_shorter {s : List β} {a : α} {rest : List β} (found : F.read s = some (a, rest)) :
    rest.length < s.length := by
  obtain ⟨fits, rfl⟩ := (F.read_eq_some_iff s a rest).mp found
  have nonempty := List.length_pos_of_ne_nil (F.write_ne_nil a fits)
  rw [List.length_append]
  omega

/-- Read a whole stream; nothing may be left over. -/
def readAll : List β → Option (List α)
  | [] => some []
  | b :: s =>
    match found : F.read (b :: s) with
    | none => none
    | some (a, rest) =>
      have := F.read_shorter found
      (readAll rest).map (a :: ·)
termination_by s => s.length
decreasing_by exact F.read_shorter found

theorem readAll_nil : F.readAll [] = some [] := by
  rw [readAll]

theorem readAll_cons {a : α} (fits : F.Fits a) (rest : List β) :
    F.readAll (F.write a ++ rest) = (F.readAll rest).map (a :: ·) := by
  have found := (F.read_eq_some_iff _ a rest).mpr ⟨fits, rfl⟩
  rcases stream : F.write a ++ rest with _ | ⟨b, s⟩
  · exact absurd (List.append_eq_nil_iff.mp stream).1 (F.write_ne_nil a fits)
  · rw [stream] at found
    rw [readAll]
    split
    · rename_i missed
      cases missed.symm.trans found
    · rename_i a' rest' found'
      obtain ⟨rfl, rfl⟩ : a' = a ∧ rest' = rest := by simpa using found'.symm.trans found
      rfl

/-- Exactly the streams of written records are read, each as its own records. -/
theorem readAll_eq_some_iff {s : List β} {records : List α} :
    F.readAll s = some records ↔
      (∀ a ∈ records, F.Fits a) ∧ s = records.flatMap F.write := by
  constructor
  · intro read
    fun_induction readAll F s generalizing records with
    | case1 =>
      obtain rfl := Option.some.inj read
      simp
    | case2 => cases read
    | case3 b s a rest found shorter ih =>
      obtain ⟨fits, stream⟩ := (F.read_eq_some_iff _ a rest).mp found
      obtain ⟨later, readLater, rfl⟩ := Option.map_eq_some_iff.mp read
      obtain ⟨fitLater, streamLater⟩ := ih readLater
      refine ⟨?_, ?_⟩
      · rintro x (_ | ⟨_, member⟩)
        · exact fits
        · exact fitLater x member
      · rw [stream, streamLater, List.flatMap_cons]
  · rintro ⟨fit, rfl⟩
    induction records with
    | nil => exact F.readAll_nil
    | cons a records ih =>
      have later := ih fun x member => fit x (List.mem_cons_of_mem a member)
      rw [List.flatMap_cons, F.readAll_cons (fit a List.mem_cons_self), later, Option.map_some]

end Framing

end SelfDelimiting
