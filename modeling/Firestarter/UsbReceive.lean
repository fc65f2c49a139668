import Firestarter.RingBuffer
import Mathlib.Data.List.Induction

/-! The receive side of the PY32's USB port (`usb_cdc.c`). The interrupt copies each packet into a
ring and asks for the next one at once; the main loop takes bytes out one at a time, and the
interrupt can come between any two of its accesses. -/
namespace Firestarter.Usb

open RingBuffer

/-- The last step of a run. -/
theorem foldlM_snoc {σ α : Type} {step : σ → α → Option σ} {s s' : σ} {actions : List α} {a : α} :
    (actions ++ [a]).foldlM step s = some s' ↔ ∃ t, actions.foldlM step s = some t ∧ step t a = some s' := by
  rw [List.foldlM_append]
  simp [Option.bind_eq_some_iff]

def rxCapacity : Nat := 1024

def cdcMaxPacketSize : Nat := 64

/-- `firestarter_cdc_bulk_out`: what finds the ring full is dropped with all that follows it. -/
def firestarterCdcBulkOut : List (BitVec 8) → Ring (BitVec 8) rxCapacity → Ring (BitVec 8) rxCapacity
  | [], r => r
  | b :: rest, r => if r.isFull then r else firestarterCdcBulkOut rest (r.push b)

/-- Where the main loop stands in a call; `left` is how many bytes the call still wants. -/
inductive Reader
  | idle
  /-- `py32_usb_available` has taken the head. -/
  | counting (head : Nat)
  /-- `py32_usb_read` is about to compare the positions. -/
  | testing (left : Nat)
  | loading (left : Nat)
  | advancing (left : Nat) (value : BitVec 8)
  deriving DecidableEq, Repr

/-- The loop of `py32_usb_read_bytes`; one `py32_usb_read` is a loop for one byte. -/
def Reader.next (left : Nat) : Reader := if left = 0 then .idle else .testing left

structure Receive where
  ring : Ring (BitVec 8) rxCapacity
  reader : Reader := .idle
  /-- What the last `py32_usb_available` returned. -/
  counted : Nat := 0
  /-- The bytes of all packets so far. -/
  received : List (BitVec 8) := []
  /-- The bytes the main loop has been given so far. -/
  delivered : List (BitVec 8) := []

namespace Receive

/-- `rurp_communication_begin` -/
def begin (cells : Nat → BitVec 8) : Receive where
  ring := ⟨cells, 0, 0, by decide, by decide⟩

/-- The next access of the main loop. -/
def proceed (s : Receive) : Option Receive :=
  match s.reader with
  | .idle => none
  | .counting head =>
    some { s with reader := .idle, counted := span rxCapacity head s.ring.tail }
  | .testing left =>
    some { s with reader := if s.ring.tail = s.ring.head then .idle else .loading left }
  | .loading left => some { s with reader := .advancing left s.ring.oldest }
  | .advancing left value =>
    some { s with
      ring := s.ring.advance
      reader := .next (left - 1)
      delivered := s.delivered ++ [value] }

inductive Action
  | bulkOut (packet : List (BitVec 8))
  | available
  | readBytes (length : Nat)
  | proceed
  deriving DecidableEq, Repr

/-- The main loop is in one call at a time. -/
def act (s : Receive) : Action → Option Receive
  | .bulkOut packet =>
    some { s with
      ring := firestarterCdcBulkOut packet s.ring
      received := s.received ++ packet }
  | .available => if s.reader = .idle then some { s with reader := .counting s.ring.head } else none
  | .readBytes length => if s.reader = .idle then some { s with reader := .next length } else none
  | .proceed => s.proceed

/-- The state some actions lead to, where each of them can be taken. -/
def after (cells : Nat → BitVec 8) (actions : List Action) : Option Receive :=
  actions.foldlM act (begin cells)

/-- What was received is what the main loop was given, and what it will be given. -/
def Lossless (s : Receive) : Prop := s.delivered ++ s.ring.contents = s.received

/-- Every packet of a run found room when it came. -/
def AllFit (cells : Nat → BitVec 8) (actions : List Action) : Prop :=
  ∀ before packet later s, actions = before ++ .bulkOut packet :: later →
    after cells before = some s → packet.length ≤ s.ring.free

end Receive

/-! ## The interrupt -/

/-- A packet goes into the ring up to the free room. -/
theorem contents_bulkOut (packet : List (BitVec 8)) (r : Ring (BitVec 8) rxCapacity) :
    (firestarterCdcBulkOut packet r).contents = r.contents ++ packet.take r.free := by
  induction packet generalizing r with
  | nil => simp [firestarterCdcBulkOut]
  | cons b rest ih =>
    rw [firestarterCdcBulkOut]
    by_cases full : r.isFull
    · have none := r.isFull_iff.mp full
      simp [full, none]
    · have room := r.contents_push b full
      have left := (r.store b).free_publish full
      have same : (r.store b).free = r.free := rfl
      have left : (r.push b).free + 1 = r.free := left.trans same
      rw [if_neg full, ih, room, ← left, List.take_succ_cons, List.append_assoc, List.singleton_append]

/-- The interrupt moves the head only. -/
theorem tail_bulkOut (packet : List (BitVec 8)) (r : Ring (BitVec 8) rxCapacity) :
    (firestarterCdcBulkOut packet r).tail = r.tail := by
  induction packet generalizing r with
  | nil => rfl
  | cons b rest ih =>
    rw [firestarterCdcBulkOut]
    split
    · rfl
    · exact ih (r.push b)

/-! ## Every interleaving -/

namespace Receive

variable {cells : Nat → BitVec 8} {actions : List Action} {s s' : Receive}

/-- What the call in progress relies on, whatever the interrupt does in between. -/
def Sound (s : Receive) : Prop :=
  match s.reader with
  | .idle | .testing _ => True
  | .counting head => span rxCapacity head s.ring.tail ≤ s.ring.contents.length
  | .loading _ => s.ring.contents ≠ []
  | .advancing _ value => ∃ rest, s.ring.contents = value :: rest

theorem sound_bulkOut (sound : s.Sound) (packet : List (BitVec 8)) :
    Sound { s with ring := firestarterCdcBulkOut packet s.ring, received := s.received ++ packet } := by
  have contents := contents_bulkOut packet s.ring
  have tail := tail_bulkOut packet s.ring
  unfold Sound at *
  cases reader : s.reader with
  | idle => trivial
  | testing => trivial
  | counting head =>
    simp only [reader] at sound ⊢
    rw [tail, contents, List.length_append]
    omega
  | loading =>
    simp only [reader] at sound ⊢
    rw [contents]
    simp [sound]
  | advancing left value =>
    simp only [reader] at sound ⊢
    obtain ⟨rest, queue⟩ := sound
    exact ⟨rest ++ packet.take s.ring.free, by rw [contents, queue, List.cons_append]⟩

theorem sound_next {left : Nat} (next : s.reader = .next left) : s.Sound := by
  unfold Sound
  rw [next, Reader.next]
  by_cases done : left = 0
  · simp [done]
  · simp [done]

/-- An access of the main loop keeps what its call relies on, and what is delivered and what is in
the ring stay the same together. -/
theorem proceed_spec (sound : s.Sound) (step : s.proceed = some s') :
    s'.Sound ∧ s'.delivered ++ s'.ring.contents = s.delivered ++ s.ring.contents ∧
      s'.received = s.received := by
  unfold proceed at step
  unfold Sound at sound
  cases reader : s.reader with
  | idle => simp [reader] at step
  | counting head =>
    simp only [reader, Option.some.injEq] at step
    subst step
    exact ⟨trivial, rfl, rfl⟩
  | testing left =>
    simp only [reader, Option.some.injEq] at step
    subst step
    refine ⟨?_, rfl, rfl⟩
    by_cases empty : s.ring.tail = s.ring.head
    · simp [Sound, empty]
    · have some := mt s.ring.contents_eq_nil_iff.mp empty
      simp [Sound, empty, some]
  | loading left =>
    simp only [reader, Option.some.injEq] at step sound
    subst step
    have some := mt s.ring.contents_eq_nil_iff.mpr sound
    exact ⟨⟨_, s.ring.contents_advance some⟩, rfl, rfl⟩
  | advancing left value =>
    simp only [reader, Option.some.injEq] at step sound
    subst step
    obtain ⟨rest, queue⟩ := sound
    have some : s.ring.tail ≠ s.ring.head := by
      intro empty
      rw [s.ring.contents_eq_nil_iff.mpr empty] at queue
      cases queue
    have split := s.ring.contents_advance some
    rw [queue] at split
    obtain ⟨rfl, rfl⟩ := List.cons.inj split
    refine ⟨sound_next rfl, ?_, rfl⟩
    show s.delivered ++ [_] ++ s.ring.advance.contents = _
    rw [queue, List.append_assoc, List.singleton_append]

/-- One action: a packet is lost in part when it finds too little room, and nothing else is. -/
theorem act_spec {a : Action} (sound : s.Sound) (step : s.act a = some s') :
    s'.Sound ∧ ∃ packet, s'.received = s.received ++ packet ∧
      s'.delivered ++ s'.ring.contents = s.delivered ++ s.ring.contents ++ packet.take s.ring.free ∧
      (a = .bulkOut packet ∨ packet = [] ∧ ∀ other, a ≠ .bulkOut other) := by
  cases a with
  | bulkOut packet =>
    obtain rfl := Option.some.inj step
    refine ⟨sound_bulkOut sound packet, packet, rfl, ?_, .inl rfl⟩
    show s.delivered ++ (firestarterCdcBulkOut packet s.ring).contents = _
    rw [contents_bulkOut, List.append_assoc]
  | available =>
    obtain ⟨-, same⟩ := Option.ite_none_right_eq_some.mp step
    obtain rfl := Option.some.inj same
    have bound : span rxCapacity s.ring.head s.ring.tail ≤ s.ring.contents.length := by
      rw [s.ring.contents_length]
      exact Nat.le_refl _
    exact ⟨bound, [], by simp, by simp, .inr ⟨rfl, nofun⟩⟩
  | readBytes length =>
    obtain ⟨-, same⟩ := Option.ite_none_right_eq_some.mp step
    obtain rfl := Option.some.inj same
    exact ⟨sound_next rfl, [], by simp, by simp, .inr ⟨rfl, nofun⟩⟩
  | proceed =>
    obtain ⟨sound, kept, same⟩ := proceed_spec sound step
    exact ⟨sound, [], by simp [same], by simp [kept], .inr ⟨rfl, nofun⟩⟩

/-- A longer run adds one packet to look at, or none. -/
theorem allFit_snoc {a : Action} (ran : after cells actions = some s) :
    AllFit cells (actions ++ [a]) ↔
      AllFit cells actions ∧ ∀ packet, a = .bulkOut packet → packet.length ≤ s.ring.free := by
  constructor
  · intro fit
    constructor
    · intro before packet later t split
      refine fit before packet (later ++ [a]) t ?_
      rw [split, List.append_assoc, List.cons_append]
    · intro packet last
      exact fit actions packet [] s (by rw [last]) ran
  · rintro ⟨fit, last⟩ before packet later t split there
    rcases List.eq_nil_or_concat later with rfl | ⟨later, b, rfl⟩
    · obtain ⟨rfl, same⟩ := List.append_inj' split rfl
      obtain rfl := Option.some.inj (ran.symm.trans there)
      exact last packet (List.cons.inj same).1
    · rw [List.concat_eq_append, ← List.cons_append, ← List.append_assoc] at split
      exact fit before packet later t (List.append_inj' split rfl).1 there

/-- Over a whole run. -/
theorem after_spec (ran : after cells actions = some s) :
    s.Sound ∧ (s.delivered ++ s.ring.contents).length ≤ s.received.length ∧
      (s.Lossless ↔ AllFit cells actions) := by
  induction actions using List.reverseRecOn generalizing s with
  | nil =>
    obtain rfl := Option.some.inj ran
    have empty : (begin cells).ring.contents = [] := (Ring.contents_eq_nil_iff _).mpr rfl
    refine ⟨trivial, ?_, ?_⟩
    · rw [empty]
      exact Nat.le_refl 0
    · constructor
      · intro _ before packet later t split
        simp at split
      · intro _
        rw [Lossless, empty]
        rfl
  | append_singleton actions a ih =>
    obtain ⟨t, before, step⟩ := foldlM_snoc.mp ran
    obtain ⟨sound, bound, lossless⟩ := ih before
    obtain ⟨sound, packet, received, kept, which⟩ := act_spec sound step
    have fits : (∀ other, a = .bulkOut other → other.length ≤ t.ring.free) ↔
        packet.length ≤ t.ring.free := by
      rcases which with rfl | ⟨rfl, none⟩
      · constructor
        · intro fits
          exact fits packet rfl
        · intro fits other same
          obtain rfl := Action.bulkOut.inj same
          exact fits
      · constructor
        · intro _
          exact Nat.zero_le _
        · intro _ other same
          exact absurd same (none other)
    have taken : (packet.take t.ring.free).length ≤ packet.length := List.length_take_le' _ _
    have came : (t.received ++ packet).length = t.received.length + packet.length :=
      List.length_append
    refine ⟨sound, ?_, ?_⟩
    · rw [kept, received, List.length_append, came]
      omega
    · rw [allFit_snoc before, fits, ← lossless, Lossless, Lossless, kept, received]
      constructor
      · intro same
        have lengths := congrArg List.length same
        rw [List.length_append, came] at lengths
        obtain ⟨first, -⟩ := List.append_inj same (by omega)
        rw [List.length_take] at lengths taken
        exact ⟨first, by omega⟩
      · rintro ⟨first, room⟩
        rw [first, List.take_of_length_le room]

/-! ## Reading it all -/

theorem after_append {more : List Action} (ran : after cells actions = some s) :
    after cells (actions ++ more) = more.foldlM act s := by
  unfold after at *
  rw [List.foldlM_append, ran]
  rfl

/-- A call that wants all there is gets it when nothing comes in between. -/
theorem reads_out {left : Nat} (testing : s.reader = .testing left)
    (wants : s.ring.contents.length ≤ left) :
    ∃ n s', (List.replicate n Action.proceed).foldlM act s = some s' ∧ s'.reader = .idle ∧
      s'.delivered = s.delivered ++ s.ring.contents ∧ s'.received = s.received := by
  induction queue : s.ring.contents generalizing s left with
  | nil =>
    have empty := s.ring.contents_eq_nil_iff.mp queue
    refine ⟨1, { s with reader := .idle }, ?_, rfl, by simp, rfl⟩
    simp [act, proceed, testing, empty]
  | cons value rest ih =>
    have some : s.ring.tail ≠ s.ring.head := by
      intro empty
      rw [s.ring.contents_eq_nil_iff.mpr empty] at queue
      cases queue
    have split := s.ring.contents_advance some
    rw [queue] at split
    obtain ⟨rfl, rfl⟩ := List.cons.inj split
    let t : Receive := { s with
      ring := s.ring.advance, reader := .next (left - 1), delivered := s.delivered ++ [s.ring.oldest] }
    have three : (List.replicate 3 Action.proceed).foldlM act s = Option.some t := by
      simp [List.replicate, act, proceed, testing, some, t]
    rw [queue, List.length_cons] at wants
    by_cases done : left = 1
    · have empty : s.ring.advance.contents = [] := List.length_eq_zero_iff.mp (by omega)
      refine ⟨3, t, three, by simp [t, Reader.next, done], ?_, rfl⟩
      rw [empty]
    · have more : t.reader = .testing (left - 1) := if_neg (by omega)
      have wanted : t.ring.contents.length ≤ left - 1 := by
        show s.ring.advance.contents.length ≤ _
        omega
      obtain ⟨n, s', run, idle, delivered, received⟩ := ih more wanted rfl
      refine ⟨3 + n, s', ?_, idle, ?_, received⟩
      · rw [List.replicate_add, List.foldlM_append, three]
        exact run
      · rw [delivered]
        show s.delivered ++ [s.ring.oldest] ++ _ = _
        rw [List.append_assoc]
        rfl

/-- The reader gets every byte, in order, in exactly the runs in which every packet finds room; what
it does not have yet it gets by reading on. -/
theorem receive_lossless_iff (ran : after cells actions = some s) :
    (s.Lossless ↔ AllFit cells actions) ∧
      (AllFit cells actions → s.reader = .idle → ∃ n s',
        after cells (actions ++ .readBytes s.ring.contents.length :: List.replicate n .proceed) =
          some s' ∧ s'.delivered = s.received) := by
  obtain ⟨-, -, lossless⟩ := after_spec ran
  refine ⟨lossless, fun fit idle => ?_⟩
  have kept : s.delivered ++ s.ring.contents = s.received := lossless.mpr fit
  let t : Receive := { s with reader := .next s.ring.contents.length }
  have called : s.act (.readBytes s.ring.contents.length) = some t := if_pos idle
  by_cases empty : s.ring.contents.length = 0
  · refine ⟨0, t, ?_, ?_⟩
    · rw [after_append ran, List.foldlM_cons, called]
      rfl
    · rw [List.length_eq_zero_iff.mp empty, List.append_nil] at kept
      exact kept
  · have testing : t.reader = .testing s.ring.contents.length := if_neg empty
    obtain ⟨n, s', run, -, delivered, -⟩ := reads_out testing (Nat.le_refl _)
    refine ⟨n, s', ?_, delivered.trans kept⟩
    rw [after_append ran, List.foldlM_cons, called]
    exact run

/-- Two bytes come in one packet and are read. -/
theorem receive_lossless_two_bytes : ∃ s,
    after (fun _ => 0) (.bulkOut [0x4F, 0x4B] :: .readBytes 2 :: List.replicate 6 .proceed) = some s ∧
      s.delivered = [0x4F, 0x4B] ∧
      (s.Lossless ↔ AllFit (fun _ => 0)
        (.bulkOut [0x4F, 0x4B] :: .readBytes 2 :: List.replicate 6 .proceed)) := by
  have ran : ((after (fun _ => 0) (.bulkOut [0x4F, 0x4B] :: .readBytes 2 ::
      List.replicate 6 .proceed)).map delivered) = some [0x4F, 0x4B] := by
    decide
  obtain ⟨s, after, same⟩ := Option.map_eq_some_iff.mp ran
  exact ⟨s, after, same, (receive_lossless_iff after).1⟩

/-- Sixteen full packets come before the first is read; one byte finds no room. -/
theorem receive_loses_byte :
    ¬ ∀ cells actions s, after cells actions = some s → s.Lossless := by
  intro lossless
  have ran : ((after (fun _ => 0) (List.replicate 16 (.bulkOut (List.replicate 64 0)))).map
      fun s => (s.delivered.length + s.ring.used, s.received.length)) = some (1023, 1024) := by
    decide +kernel
  obtain ⟨s, after, same⟩ := Option.map_eq_some_iff.mp ran
  obtain ⟨there, came⟩ := Prod.mk.inj same
  have lengths := congrArg List.length (lossless _ _ s after)
  rw [List.length_append, Ring.contents_length, there, came] at lengths
  exact absurd lengths (by decide)

end Receive

end Firestarter.Usb
