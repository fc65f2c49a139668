import Mathlib.Data.List.Basic
import Mathlib.Logic.Function.Basic
import Mathlib.Tactic.SplitIfs

/-! Memory parts as their command interfaces. A part sees cycles on its bus, and gives them a meaning
only in the orders it knows; what it then holds is what they asked for. No cell is ever worn, and no
operation fails: a part here says what it was told to do. -/
namespace MemoryPart

abbrev Byte := BitVec 8

/-- One cycle on the bus, or a pause that is longer than a part waits for the next byte. -/
inductive BusCycle (α : Type) where
  | read (address : α)
  | write (address : α) (data : Byte)
  | pause
  deriving DecidableEq

def BusCycle.isWrite {α : Type} : BusCycle α → Bool
  | .write .. => true
  | _ => false

/-- What each cycle makes of the state, and nothing where it has no meaning. -/
structure Device (α σ : Type) where
  array : σ → α → Byte
  take : σ → BusCycle α → Option σ
  /-- No command has begun, and a read gives the array. -/
  Rests : σ → Prop

variable {α σ : Type}

namespace Device

variable (P : Device α σ)

/-- The cycles of a run, one after another. -/
def run (s : σ) (cycles : List (BusCycle α)) : Option σ := cycles.foldlM P.take s

variable {P} {s s' s'' : σ} {cycle : BusCycle α} {cycles more : List (BusCycle α)}

@[simp] theorem run_nil : P.run s [] = some s := rfl

@[simp] theorem run_cons : P.run s (cycle :: cycles) = (P.take s cycle).bind (P.run · cycles) := rfl

@[simp] theorem run_append : P.run s (cycles ++ more) = (P.run s cycles).bind (P.run · more) :=
  List.foldlM_append

theorem run_trans (first : P.run s cycles = some s') (rest : P.run s' more = some s'') :
    P.run s (cycles ++ more) = some s'' := by
  rw [run_append, first]
  exact rest

/-- Reads that leave the part as it is. -/
theorem run_reads (still : ∀ address, P.take s (.read address) = some s)
    (reads : ∀ cycle ∈ cycles, ∃ address, cycle = .read address) : P.run s cycles = some s := by
  induction cycles with
  | nil => rfl
  | cons cycle cycles ih =>
    obtain ⟨address, rfl⟩ := reads cycle List.mem_cons_self
    rw [run_cons, still]
    exact ih fun cycle member => reads cycle (List.mem_cons_of_mem _ member)

end Device

/-! ## Contents -/

section
variable [DecidableEq α]

/-- An erased part. -/
def erased : α → Byte := fun _ => 0xFF

/-- A cell takes what becomes of its byte and the new one. -/
def overlaid (mix : Byte → Byte → Byte) (array : α → Byte) (cell : α × Byte) : α → Byte :=
  Function.update array cell.1 (mix (array cell.1) cell.2)

/-- A cell takes the byte. -/
def stored (array : α → Byte) (cell : α × Byte) : α → Byte := overlaid (fun _ byte => byte) array cell

/-- Programming clears bits of a cell and sets none. -/
def programmed (array : α → Byte) (cell : α × Byte) : α → Byte := overlaid (· &&& ·) array cell

variable {array array' : α → Byte} {cells : List (α × Byte)}

/-- The other cells are as they were. -/
theorem foldl_overlaid_apart {mix : Byte → Byte → Byte} {a : α} (apart : ∀ cell ∈ cells, cell.1 ≠ a) :
    cells.foldl (overlaid mix) array a = array a := by
  induction cells generalizing array with
  | nil => rfl
  | cons cell cells ih =>
    rw [List.foldl_cons, ih fun cell member => apart cell (List.mem_cons_of_mem _ member)]
    exact Function.update_of_ne (apart cell List.mem_cons_self).symm _ _

/-- Where no cell comes twice, each takes its own byte. -/
theorem foldl_overlaid_mem {mix : Byte → Byte → Byte} (once : (cells.map Prod.fst).Nodup)
    {cell : α × Byte} (member : cell ∈ cells) :
    cells.foldl (overlaid mix) array cell.1 = mix (array cell.1) cell.2 := by
  induction cells generalizing array with
  | nil => cases member
  | cons first cells ih =>
    obtain ⟨fresh, once⟩ := List.nodup_cons.mp once
    have apart (other : α × Byte) (here : other ∈ cells) : other.1 ≠ first.1 := fun same =>
      fresh (same ▸ List.mem_map_of_mem here)
    rw [List.foldl_cons]
    rcases List.mem_cons.mp member with rfl | later
    · rw [foldl_overlaid_apart apart]
      exact Function.update_self _ _ _
    · rw [ih once later]
      exact congrArg (mix · cell.2) (Function.update_of_ne (apart cell later) _ _)

/-- A cell that is stored to does not depend on what it held. -/
theorem foldl_stored_congr (same : ∀ b, (∀ cell ∈ cells, cell.1 ≠ b) → array b = array' b) :
    cells.foldl stored array = cells.foldl stored array' := by
  induction cells generalizing array array' with
  | nil => exact funext fun b => same b nofun
  | cons cell cells ih =>
    refine ih fun b apart => ?_
    by_cases here : cell.1 = b
    · rw [stored, stored, overlaid, overlaid, here, Function.update_self, Function.update_self]
    · rw [stored, stored, overlaid, overlaid, Function.update_of_ne (Ne.symm here),
        Function.update_of_ne (Ne.symm here)]
      refine same b fun other member => ?_
      rcases List.mem_cons.mp member with rfl | member
      · exact here
      · exact apart other member

end

/-! ## Parts unlocked at two addresses -/

namespace Unlocked

/-- What tells one of these parts from another. A part that programs pages takes the bytes of a page
one after another, erases the page, and stores them; the other kind programs byte by byte. -/
structure Family (α : Type) where
  first : α
  second : α
  sector : α → α → Bool
  page : α → α
  programsPages : Bool

inductive Phase (α : Type) where
  | ready | unlocked | opened | programming
  | loading (loads : List (α × Byte))
  | erasing | eraseUnlocked | eraseOpened

structure State (α : Type) where
  array : α → Byte
  identifies : Bool := false
  phase : Phase α := .ready

variable [DecidableEq α] (f : Family α)

/-- The page is erased, and then its loaded bytes are stored. -/
def Family.pageStored (array : α → Byte) (loads : List (α × Byte)) : α → Byte :=
  loads.foldl stored fun a =>
    if loads.any fun load => f.page load.1 == f.page a then 0xFF else array a

/-- The third byte of a sequence names the command. While the part identifies itself, it can only be
told to stop. -/
def Family.opens (s : State α) (data : Byte) : Option (State α) :=
  if data = 0xF0 then some { s with identifies := false, phase := .ready }
  else if s.identifies then none
  else if data = 0x90 then some { s with identifies := true, phase := .ready }
  else if data = 0xA0 then
    some { s with phase := if f.programsPages then .loading [] else .programming }
  else if data = 0x80 then some { s with phase := .erasing }
  else none

/-- A loaded page is stored when no further byte comes. -/
def Family.settle (s : State α) : Option (State α) :=
  match s.phase with
  | .ready => some s
  | .loading loads =>
    if loads.isEmpty then none
    else some { s with array := f.pageStored s.array loads, phase := .ready }
  | _ => none

def Family.write (s : State α) (a : α) (data : Byte) : Option (State α) :=
  match s.phase with
  | .ready => if a = f.first ∧ data = 0xAA then some { s with phase := .unlocked } else none
  | .unlocked => if a = f.second ∧ data = 0x55 then some { s with phase := .opened } else none
  | .opened => if a = f.first then f.opens s data else none
  | .programming => some { s with array := programmed s.array (a, data), phase := .ready }
  | .loading loads =>
    if loads.all fun load => f.page load.1 == f.page a then
      some { s with phase := .loading (loads ++ [(a, data)]) }
    else none
  | .erasing => if a = f.first ∧ data = 0xAA then some { s with phase := .eraseUnlocked } else none
  | .eraseUnlocked =>
    if a = f.second ∧ data = 0x55 then some { s with phase := .eraseOpened } else none
  | .eraseOpened =>
    if a = f.first ∧ data = 0x10 then some { s with array := erased, phase := .ready }
    else if data = 0x30 then
      some { s with array := fun b => if f.sector a b then 0xFF else s.array b, phase := .ready }
    else none

def Family.part : Device α (State α) where
  array := State.array
  take s
    | .read _ => f.settle s
    | .pause => f.settle s
    | .write a data => f.write s a data
  Rests s := s = { array := s.array }

section
variable {f} {m : α → Byte} {a : α} {cells more : List (α × Byte)}

/-- The two unlocking cycles, and the one that names a command. -/
def Family.command (f : Family α) (data : Byte) : List (BusCycle α) :=
  [.write f.first 0xAA, .write f.second 0x55, .write f.first data]

theorem take_read (s : State α) (a : α) (ready : s.phase = .ready) :
    f.part.take s (.read a) = some s := by
  simp [Family.part, Family.settle, ready]

theorem run_command (s : State α) (data : Byte) (ready : s.phase = .ready) :
    f.part.run s (f.command data) = f.opens { s with phase := .opened } data := by
  simp [Family.command, Family.part, Family.write, ready]

theorem run_identify :
    f.part.run { array := m } (f.command 0x90) = some { array := m, identifies := true } := by
  rw [run_command _ _ rfl]
  rfl

/-- The command that ends the identification does nothing to a part at rest. -/
theorem run_leave (identifies : Bool) :
    f.part.run { array := m, identifies } (f.command 0xF0) = some { array := m } := by
  rw [run_command _ _ rfl]
  rfl

theorem run_program (bytewise : f.programsPages = false) (a : α) (data : Byte) :
    f.part.run { array := m } (f.command 0xA0 ++ [.write a data]) =
      some { array := programmed m (a, data) } := by
  rw [Device.run_append, run_command _ _ rfl]
  simp [Family.opens, bytewise, Family.part, Family.write]

theorem run_eraseChip :
    f.part.run { array := m } (f.command 0x80 ++ f.command 0x10) = some { array := erased } := by
  rw [Device.run_append, run_command _ _ rfl]
  simp [Family.opens, Family.part, Family.write, Family.command]

theorem run_eraseSector (a : α) :
    f.part.run { array := m }
        (f.command 0x80 ++ [.write f.first 0xAA, .write f.second 0x55, .write a 0x30]) =
      some { array := fun b => if f.sector a b then 0xFF else m b } := by
  rw [Device.run_append, run_command _ _ rfl]
  simp [Family.opens, Family.part, Family.write]

theorem run_opened (pages : f.programsPages = true) :
    f.part.run { array := m } (f.command 0xA0) = some { array := m, phase := .loading [] } := by
  rw [run_command _ _ rfl]
  simp [Family.opens, pages]

/-- Bytes of one page are collected. -/
theorem run_loads {p : α} (onPage : ∀ cell ∈ cells ++ more, f.page cell.1 = p) :
    f.part.run { array := m, phase := .loading cells }
        (more.map fun cell => .write cell.1 cell.2) =
      some { array := m, phase := .loading (cells ++ more) } := by
  induction more generalizing cells with
  | nil => simp
  | cons cell more ih =>
    have together : cells.all (fun load => f.page load.1 == f.page cell.1) = true := by
      rw [List.all_eq_true]
      intro load member
      rw [beq_iff_eq, onPage load (List.mem_append_left _ member)]
      exact (onPage cell (by simp)).symm
    rw [List.map_cons, Device.run_cons]
    have taken : f.part.take { array := m, phase := .loading cells } (.write cell.1 cell.2) =
        some { array := m, phase := .loading (cells ++ [cell]) } := by
      simp only [Family.part, Family.write, together, if_true]
    rw [taken]
    refine (ih fun other member => onPage other (by simpa using member)).trans ?_
    rw [List.append_assoc]
    rfl

/-- A page of which every cell is loaded holds what was loaded, and no other page changes. -/
theorem pageStored_whole {p : α} (onPage : ∀ cell ∈ cells, f.page cell.1 = p)
    (whole : ∀ b, f.page b = p → ∃ cell ∈ cells, cell.1 = b) :
    f.pageStored m cells = cells.foldl stored m := by
  refine foldl_stored_congr fun b apart => if_neg fun loaded => ?_
  obtain ⟨load, member, same⟩ := List.any_eq_true.mp loaded
  obtain ⟨cell, member', here⟩ := whole b ((beq_iff_eq.mp same).symm.trans (onPage load member))
  exact apart cell member' here

/-- Nothing more is written to a part that is ready. -/
theorem run_quiet {s : State α} (ready : s.phase = .ready) {after : List (BusCycle α)}
    (quiet : ∀ cycle ∈ after, cycle.isWrite = false) : f.part.run s after = some s := by
  induction after with
  | nil => rfl
  | cons cycle after ih =>
    have taken : f.part.take s cycle = some s := by
      cases cycle with
      | write => cases quiet _ List.mem_cons_self
      | read | pause => simp [Family.part, Family.settle, ready]
    rw [Device.run_cons, taken]
    exact ih fun other member => quiet other (List.mem_cons_of_mem _ member)

/-- The cycles that load a page; it is stored at the first cycle after them. -/
theorem run_page {p : α} (pages : f.programsPages = true) (some' : cells ≠ [])
    (onPage : ∀ cell ∈ cells, f.page cell.1 = p)
    (whole : ∀ b, f.page b = p → ∃ cell ∈ cells, cell.1 = b) {after : List (BusCycle α)}
    (quiet : ∀ cycle ∈ after, cycle.isWrite = false) (settles : after ≠ []) :
    f.part.run { array := m }
        (f.command 0xA0 ++ cells.map (fun cell => .write cell.1 cell.2) ++ after) =
      some { array := cells.foldl stored m } := by
  have opened := run_opened (m := m) pages
  have collected : f.part.run { array := m, phase := .loading [] }
      (cells.map fun cell => .write cell.1 cell.2) =
        some { array := m, phase := .loading ([] ++ cells) } := run_loads onPage
  refine Device.run_trans (Device.run_trans opened collected) ?_
  cases after with
  | nil => exact (settles rfl).elim
  | cons cycle after =>
    have stored : f.part.take { array := m, phase := .loading ([] ++ cells) } cycle =
        some { array := cells.foldl stored m } := by
      cases cycle with
      | write => cases quiet _ List.mem_cons_self
      | read | pause => simp [Family.part, Family.settle, some', pageStored_whole onPage whole]
    rw [Device.run_cons, stored]
    exact run_quiet rfl fun other member => quiet other (List.mem_cons_of_mem _ member)

end

end Unlocked

/-! ## Parts with a command register -/

namespace Commanded

/-- Most writes go to the command register; the one after a program setup brings a byte for a
cell. -/
structure State (α : Type) where
  array : α → Byte
  /-- What the command register was given last. -/
  command : Option Byte := none
  programs : Bool := false

/-- A read gives the array, and neither the status nor the identifier. -/
def State.ReadsArray (s : State α) : Prop :=
  s.programs = false ∧ (s.command = none ∨ s.command = some 0xFF)

def blockErased (block : α → α → Bool) (a : α) (array : α → Byte) : α → Byte :=
  fun b => if block a b then 0xFF else array b

variable [DecidableEq α] (block : α → α → Bool)

/-- An erase takes its setup and its confirmation. -/
def write (s : State α) (a : α) (data : Byte) : Option (State α) :=
  if s.programs then some { s with array := programmed s.array (a, data), programs := false }
  else if data = 0x40 then some { s with command := some data, programs := true }
  else if data = 0xD0 then
    if s.command = some 0x20 then
      some { s with array := blockErased block a s.array, command := some data }
    else none
  else if data ∈ ([0x20, 0x50, 0x90, 0xFF] : List Byte) then some { s with command := some data }
  else none

def part : Device α (State α) where
  array := State.array
  take s
    | .write a data => write block s a data
    | .read _ | .pause => if s.programs then none else some s
  Rests := State.ReadsArray

/-- Between two commands. -/
def waiting (x : (α → Byte) × Option Byte) : State α := { array := x.1, command := x.2 }

section
variable (x : (α → Byte) × Option Byte) (a a' : α) {data : Byte}

theorem run_command (known : data ∈ ([0x20, 0x50, 0x90, 0xFF] : List Byte)) :
    (part block).run (waiting x) [.write a data] = some (waiting (x.1, some data)) := by
  have apart : data ≠ 0x40 ∧ data ≠ 0xD0 := by
    revert known data
    decide
  have free : (waiting x).programs = false := rfl
  show (write block (waiting x) a data).bind _ = _
  unfold write
  rw [free, if_neg Bool.false_ne_true, if_neg apart.1, if_neg apart.2, if_pos known]
  rfl

theorem run_program (data : Byte) :
    (part block).run (waiting x) [.write a 0x40, .write a' data] =
      some (waiting (programmed x.1 (a', data), some 0x40)) := rfl

end

end Commanded

end MemoryPart
