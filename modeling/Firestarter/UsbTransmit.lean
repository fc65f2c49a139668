import Firestarter.UsbReceive

/-! The transmit side of the PY32's USB port (`usb_cdc.c`). The main loop fills a ring; the write
path, the completion interrupt and the configuration callback all start transfers out of it. A flag
says whether one is under way, and only a completion clears it. -/
namespace Firestarter.Usb

open RingBuffer

def txCapacity : Nat := 1024

/-- Where the main loop stands in `py32_usb_write`; `count` bytes of the buffer are in the ring. -/
inductive Writer
  | idle
  /-- About to look for room. -/
  | filling (buffer : List (BitVec 8)) (count : Nat)
  /-- There was none: a transfer is started, and the time is looked at. -/
  | full (buffer : List (BitVec 8)) (count : Nat)
  | storing (buffer : List (BitVec 8)) (count : Nat)
  | publishing (buffer : List (BitVec 8)) (count : Nat)
  | finishing (buffer : List (BitVec 8)) (count : Nat)
  deriving DecidableEq, Repr

/-- The bytes the call in progress has put into the ring. -/
def Writer.taken : Writer → List (BitVec 8)
  | .idle => []
  | .filling buffer count | .full buffer count | .storing buffer count | .publishing buffer count
  | .finishing buffer count => buffer.take count

structure Transmit where
  ring : Ring (BitVec 8) txCapacity
  txBusy : Bool := false
  /-- `usb_device_is_configured()` -/
  configured : Bool := false
  /-- The transfers started and neither completed nor cancelled, oldest first. -/
  inFlight : List (List (BitVec 8)) := []
  /-- The bytes given to the endpoint so far. -/
  handed : List (BitVec 8) := []
  writer : Writer := .idle
  /-- The bytes the finished calls reported as written. -/
  reported : List (BitVec 8) := []

namespace Transmit

/-- `rurp_communication_begin` -/
def begin (cells : Nat → BitVec 8) : Transmit where
  ring := ⟨cells, 0, 0, by decide, by decide⟩

/-- The bytes `py32_usb_write` has accepted: those reported, and those of the call in progress. -/
def accepted (s : Transmit) : List (BitVec 8) := s.reported ++ s.writer.taken

/-- `usbd_ep_start_write` -/
def startWrite (s : Transmit) (packet : List (BitVec 8)) : Transmit :=
  { s with inFlight := s.inFlight ++ [packet], handed := s.handed ++ packet }

/-- The loop that fills `cdc_in_packet`; `room` bytes still go into it. -/
def takePacket : (room : Nat) → Ring (BitVec 8) txCapacity →
    List (BitVec 8) × Ring (BitVec 8) txCapacity
  | 0, r => ([], r)
  | room + 1, r =>
    if r.tail ≠ r.head then
      let (packet, r') := takePacket room r.advance
      (r.oldest :: packet, r')
    else ([], r)

/-- `usb_start_next_transmit` -/
def usbStartNextTransmit (s : Transmit) : Transmit :=
  if s.txBusy || s.ring.head = s.ring.tail || !s.configured then s
  else
    let (packet, ring) := takePacket cdcMaxPacketSize s.ring
    startWrite { s with ring := ring, txBusy := true } packet

/-- `firestarter_cdc_bulk_in`: a transfer of full packets is ended by an empty one. -/
def firestarterCdcBulkIn (s : Transmit) (byteCount : Nat) : Transmit :=
  if byteCount ≠ 0 ∧ byteCount % cdcMaxPacketSize = 0 then s.startWrite []
  else usbStartNextTransmit { s with txBusy := false }

/-- The next access of the main loop; `late` says whether the deadline of a full ring is over. -/
def proceed (s : Transmit) (late : Bool) : Option Transmit :=
  match s.writer with
  | .idle => none
  | .filling buffer count =>
    some { s with writer :=
      if count < buffer.length then
        if s.ring.isFull then .full buffer count else .storing buffer count
      else .finishing buffer count }
  | .full buffer count =>
    some { s.usbStartNextTransmit with
      writer := if late then .finishing buffer count else .filling buffer count }
  | .storing buffer count =>
    some { s with ring := s.ring.store (buffer.getD count 0), writer := .publishing buffer count }
  | .publishing buffer count =>
    some { s with ring := s.ring.publish, writer := .filling buffer (count + 1) }
  | .finishing buffer count =>
    some { s.usbStartNextTransmit with writer := .idle, reported := s.reported ++ buffer.take count }

inductive Action
  /-- `py32_usb_write` -/
  | write (buffer : List (BitVec 8))
  | proceed (late : Bool)
  /-- The stack reports that the oldest transfer is over. -/
  | complete
  /-- A bus reset; it cancels a transfer without a word. -/
  | reset
  /-- `usbd_configure_done_callback` -/
  | configure
  deriving DecidableEq, Repr

/-- The main loop is in one call at a time, and a write before the configuration writes nothing. -/
def act (s : Transmit) : Action → Option Transmit
  | .write buffer =>
    if s.writer = .idle then
      some (if s.configured then { s with writer := .filling buffer 0 } else s)
    else none
  | .proceed late => s.proceed late
  | .complete =>
    match s.inFlight with
    | [] => none
    | packet :: later => some (firestarterCdcBulkIn { s with inFlight := later } packet.length)
  | .reset => some { s with inFlight := [], configured := false }
  | .configure => some (usbStartNextTransmit { s with configured := true })

def after (cells : Nat → BitVec 8) (actions : List Action) : Option Transmit :=
  actions.foldlM act (begin cells)

/-- No byte is lost or repeated, the flag tells whether the one transfer is under way, and bytes
that wait are on their way as soon as they can be. -/
structure Lossless (s : Transmit) : Prop where
  exact : s.handed ++ s.ring.contents = s.accepted
  single : s.inFlight.length ≤ 1
  busy : s.txBusy = true ↔ s.inFlight ≠ []
  awake : s.configured = true → s.writer = .idle → s.ring.contents ≠ [] → s.inFlight ≠ []

/-- No reset of a run came while a transfer was under way. -/
def ResetsQuiet (cells : Nat → BitVec 8) (actions : List Action) : Prop :=
  ∀ before later s, actions = before ++ .reset :: later → after cells before = some s →
    s.inFlight = []

end Transmit

/-! ## What is taken out -/

/-- The ring after bytes were taken out of it, as the writer sees it. -/
structure Drained (r r' : Ring (BitVec 8) txCapacity) : Prop where
  cells : r'.cells = r.cells
  head : r'.head = r.head
  room : ¬ r.isFull → ¬ r'.isFull

theorem Drained.refl (r : Ring (BitVec 8) txCapacity) : Drained r r := ⟨rfl, rfl, id⟩

theorem takePacket_spec (room : Nat) (r : Ring (BitVec 8) txCapacity) :
    (Transmit.takePacket room r).1 ++ (Transmit.takePacket room r).2.contents = r.contents ∧
      Drained r (Transmit.takePacket room r).2 := by
  induction room generalizing r with
  | zero => exact ⟨rfl, .refl r⟩
  | succ room ih =>
    rw [Transmit.takePacket]
    by_cases some : r.tail ≠ r.head
    · rw [if_pos some]
      obtain ⟨contents, drained⟩ := ih r.advance
      refine ⟨?_, drained.cells, drained.head, ?_⟩
      · rw [r.contents_advance some, ← contents]
        rfl
      · intro notFull
        apply drained.room
        have more := r.free_advance some
        rw [Ring.isFull_iff]
        omega
    · rw [if_neg some]
      exact ⟨rfl, .refl r⟩

namespace Transmit

variable {cells : Nat → BitVec 8} {actions : List Action} {s s' : Transmit}

/-- The flag and the transfers agree. -/
structure Agrees (s : Transmit) : Prop where
  single : s.inFlight.length ≤ 1
  busy : s.txBusy = true ↔ s.inFlight ≠ []

/-- What starting a transfer does, or leaves as it is. -/
structure Started (s s' : Transmit) : Prop where
  exact : s'.handed ++ s'.ring.contents = s.handed ++ s.ring.contents
  drained : Drained s.ring s'.ring
  writer : s'.writer = s.writer
  reported : s'.reported = s.reported
  configured : s'.configured = s.configured
  agrees : s.Agrees → s'.Agrees
  awake : s.Agrees → s.configured = true → s'.ring.contents ≠ [] → s'.inFlight ≠ []

theorem started_usbStartNextTransmit (s : Transmit) : Started s s.usbStartNextTransmit := by
  unfold usbStartNextTransmit
  by_cases stays : s.txBusy || s.ring.head = s.ring.tail || !s.configured
  · rw [if_pos stays]
    refine ⟨rfl, .refl _, rfl, rfl, rfl, id, ?_⟩
    intro agrees configured pending
    apply agrees.busy.mp
    have other : s.ring.head ≠ s.ring.tail := fun same =>
      pending (s.ring.contents_eq_nil_iff.mpr same.symm)
    simpa [other, configured] using stays
  · rw [if_neg stays]
    obtain ⟨contents, drained⟩ := takePacket_spec cdcMaxPacketSize s.ring
    have free : s.txBusy = false := by
      cases busy : s.txBusy with
      | false => rfl
      | true => simp [busy] at stays
    show Started s (startWrite { s with ring := (takePacket cdcMaxPacketSize s.ring).2, txBusy := true }
      (takePacket cdcMaxPacketSize s.ring).1)
    refine ⟨?_, drained, rfl, rfl, rfl, ?_, ?_⟩
    · dsimp only [startWrite]
      rw [List.append_assoc, contents]
    · intro agrees
      have none : s.inFlight = [] := by
        by_contra some
        rw [agrees.busy.mpr some] at free
        cases free
      constructor
      · show (s.inFlight ++ [_]).length ≤ 1
        rw [none]
        exact Nat.le_refl 1
      · simp [startWrite]
    · intro _ _ _
      simp [startWrite]

/-- A completion ends its transfer, and starts the next one or an empty one. -/
theorem started_firestarterCdcBulkIn {packet : List (BitVec 8)} {later : List (List (BitVec 8))}
    (oldest : s.inFlight = packet :: later) (byteCount : Nat) :
    Started s (firestarterCdcBulkIn { s with inFlight := later } byteCount) := by
  have last (agrees : s.Agrees) : later = [] := by
    have single := agrees.single
    rw [oldest, List.length_cons] at single
    exact List.length_eq_zero_iff.mp (by omega)
  unfold firestarterCdcBulkIn
  by_cases full : byteCount ≠ 0 ∧ byteCount % cdcMaxPacketSize = 0
  · rw [if_pos full]
    refine ⟨?_, .refl _, rfl, rfl, rfl, ?_, ?_⟩
    · simp [startWrite]
    · intro agrees
      constructor
      · show (later ++ [[]]).length ≤ 1
        rw [last agrees]
        exact Nat.le_refl 1
      · have busy : s.txBusy = true := agrees.busy.mpr (by simp [oldest])
        simp [startWrite, busy]
    · intro _ _ _
      simp [startWrite]
  · rw [if_neg full]
    have started := started_usbStartNextTransmit { s with inFlight := later, txBusy := false }
    have idle (agrees : s.Agrees) : Agrees { s with inFlight := later, txBusy := false } := by
      constructor
      · simp [last agrees]
      · simp [last agrees]
    exact ⟨started.exact, started.drained, started.writer, started.reported, started.configured,
      fun agrees => started.agrees (idle agrees), fun agrees => started.awake (idle agrees)⟩

/-! ## Every interleaving -/

/-- What the call in progress relies on, whatever the interrupts do in between. -/
def CallSound (s : Transmit) : Prop :=
  match s.writer with
  | .idle => True
  | .filling buffer count | .full buffer count | .finishing buffer count => count ≤ buffer.length
  | .storing buffer count => count < buffer.length ∧ ¬ s.ring.isFull
  | .publishing buffer count => count < buffer.length ∧ ¬ s.ring.isFull ∧
      s.ring.cells s.ring.head = buffer.getD count 0

/-- No byte is lost or repeated. -/
structure Sound (s : Transmit) : Prop where
  exact : s.handed ++ s.ring.contents = s.accepted
  call : s.CallSound

theorem CallSound.drained (sound : s.CallSound) (drained : Drained s.ring s'.ring)
    (writer : s'.writer = s.writer) : s'.CallSound := by
  unfold CallSound at *
  rw [writer]
  cases at_ : s.writer with
  | idle => trivial
  | filling => simpa [at_] using sound
  | full => simpa [at_] using sound
  | finishing => simpa [at_] using sound
  | storing buffer count =>
    simp only [at_] at sound ⊢
    exact ⟨sound.1, drained.room sound.2⟩
  | publishing buffer count =>
    simp only [at_] at sound ⊢
    refine ⟨sound.1, drained.room sound.2.1, ?_⟩
    rw [drained.cells, drained.head]
    exact sound.2.2

theorem Sound.started (sound : s.Sound) (started : Started s s') : s'.Sound where
  exact := by
    rw [started.exact, sound.exact, accepted, accepted, started.writer, started.reported]
  call := sound.call.drained started.drained started.writer

/-- What an access of the main loop does besides moving on in its call. -/
structure Proceeded (s s' : Transmit) : Prop where
  sound : s'.Sound
  agrees : s.Agrees → s'.Agrees
  awake : s.Agrees → s.configured = true → s'.writer = .idle → s'.ring.contents ≠ [] →
    s'.inFlight ≠ []
  configured : s'.configured = s.configured

/-- An access that touches neither the flag nor the transfers is within a call. -/
theorem Proceeded.inside (sound : s'.Sound) (busy : s'.txBusy = s.txBusy)
    (inFlight : s'.inFlight = s.inFlight) (configured : s'.configured = s.configured)
    (inCall : s'.writer ≠ .idle) : Proceeded s s' where
  sound := sound
  agrees agrees := ⟨inFlight ▸ agrees.single, by rw [busy, inFlight]; exact agrees.busy⟩
  awake _ _ idle := absurd idle inCall
  configured := configured

/-- A byte is accepted when it is published. -/
theorem proceeded {late : Bool} (sound : s.Sound) (step : s.proceed late = some s') :
    Proceeded s s' := by
  have exact := sound.exact
  have call := sound.call
  unfold proceed at step
  unfold CallSound at call
  unfold accepted at exact
  cases at_ : s.writer with
  | idle => simp [at_] at step
  | filling buffer count =>
    simp only [at_, Option.some.injEq] at step call exact
    subst step
    by_cases more : count < buffer.length
    · rw [if_pos more]
      by_cases full : s.ring.isFull
      · rw [if_pos full]
        exact .inside ⟨exact, call⟩ rfl rfl rfl nofun
      · rw [if_neg full]
        exact .inside ⟨exact, more, full⟩ rfl rfl rfl nofun
    · rw [if_neg more]
      exact .inside ⟨exact, call⟩ rfl rfl rfl nofun
  | full buffer count =>
    simp only [at_, Option.some.injEq] at step call exact
    subst step
    have started := started_usbStartNextTransmit s
    have agrees (agrees : s.Agrees) := started.agrees agrees
    refine ⟨⟨?_, ?_⟩, fun known => ⟨(agrees known).single, (agrees known).busy⟩, ?_, started.configured⟩
    · show _ = s.usbStartNextTransmit.reported ++ Writer.taken (if late then _ else _)
      rw [started.exact, exact, started.reported]
      cases late <;> rfl
    · cases late <;> exact call
    · intro agrees configured _ pending
      exact started.awake agrees configured pending
  | storing buffer count =>
    simp only [at_, Option.some.injEq] at step call exact
    subst step
    refine .inside ⟨?_, call.1, call.2, if_pos rfl⟩ rfl rfl rfl nofun
    show s.handed ++ (s.ring.store _).contents = _
    rw [Ring.contents_store]
    exact exact
  | publishing buffer count =>
    simp only [at_, Option.some.injEq] at step call exact
    subst step
    obtain ⟨more, room, stored⟩ := call
    refine .inside ⟨?_, more⟩ rfl rfl rfl nofun
    show s.handed ++ s.ring.publish.contents = s.reported ++ buffer.take (count + 1)
    rw [Ring.contents_publish _ room, stored, ← List.append_assoc, exact, List.append_assoc,
      List.take_add_one, List.getD_eq_getElem?_getD, List.getElem?_eq_getElem more]
    rfl
  | finishing buffer count =>
    simp only [at_, Option.some.injEq] at step call exact
    subst step
    have started := started_usbStartNextTransmit s
    have agrees (agrees : s.Agrees) := started.agrees agrees
    refine ⟨⟨?_, trivial⟩, fun known => ⟨(agrees known).single, (agrees known).busy⟩, ?_,
      started.configured⟩
    · show _ = s.reported ++ buffer.take count ++ []
      rw [started.exact, List.append_nil]
      exact exact
    · intro agrees configured _ pending
      exact started.awake agrees configured pending

theorem Lossless.of {s : Transmit} (sound : s.Sound) (agrees : s.Agrees)
    (awake : s.configured = true → s.writer = .idle → s.ring.contents ≠ [] → s.inFlight ≠ []) :
    s.Lossless := ⟨sound.exact, agrees.single, agrees.busy, awake⟩

theorem Lossless.agrees (lossless : s.Lossless) : s.Agrees := ⟨lossless.single, lossless.busy⟩

/-- One action: the bytes stay exact in any case, and the flag unless a reset cancels a transfer. -/
theorem act_spec {a : Action} (sound : s.Sound) (step : s.act a = some s') :
    s'.Sound ∧ ((a = .reset → s.inFlight = []) → s.Lossless → s'.Lossless) := by
  cases a with
  | write buffer =>
    obtain ⟨idle, same⟩ := Option.ite_none_right_eq_some.mp step
    obtain rfl := Option.some.inj same
    by_cases configured : s.configured = true
    · rw [if_pos configured]
      have exact := sound.exact
      unfold accepted at exact
      rw [idle] at exact
      have begun : Sound { s with writer := .filling buffer 0 } := ⟨exact, Nat.zero_le _⟩
      exact ⟨begun, fun _ lossless => .of begun ⟨lossless.single, lossless.busy⟩ nofun⟩
    · rw [if_neg configured]
      exact ⟨sound, fun _ lossless => lossless⟩
  | proceed late =>
    have went := proceeded sound step
    refine ⟨went.sound, fun _ lossless => .of went.sound (went.agrees lossless.agrees) ?_⟩
    intro configured
    exact went.awake lossless.agrees (went.configured.symm.trans configured)
  | complete =>
    unfold act at step
    cases oldest : s.inFlight with
    | nil => simp [oldest] at step
    | cons packet later =>
      simp only [oldest, Option.some.injEq] at step
      subst step
      have started := started_firestarterCdcBulkIn oldest packet.length
      have sound := sound.started started
      refine ⟨sound, fun _ lossless => .of sound (started.agrees lossless.agrees) ?_⟩
      intro configured _
      exact started.awake lossless.agrees (started.configured.symm.trans configured)
  | reset =>
    obtain rfl := Option.some.inj step
    have sound : Sound { s with inFlight := [], configured := false } := ⟨sound.exact, sound.call⟩
    refine ⟨sound, fun quiet lossless => .of sound ⟨Nat.zero_le _, ?_⟩ nofun⟩
    have busy := lossless.busy
    rw [quiet rfl] at busy
    exact busy
  | configure =>
    obtain rfl := Option.some.inj step
    have started := started_usbStartNextTransmit { s with configured := true }
    have known : Sound { s with configured := true } := ⟨sound.exact, sound.call⟩
    have sound := known.started started
    have agrees (lossless : s.Lossless) : Agrees { s with configured := true } :=
      ⟨lossless.single, lossless.busy⟩
    refine ⟨sound, fun _ lossless => .of sound (started.agrees (agrees lossless)) ?_⟩
    intro _ _
    exact started.awake (agrees lossless) rfl

theorem sound_begin (cells : Nat → BitVec 8) : (begin cells).Sound := by
  have empty : (begin cells).ring.contents = [] := (Ring.contents_eq_nil_iff _).mpr rfl
  refine ⟨?_, trivial⟩
  rw [empty]
  rfl

theorem ResetsQuiet.initial {later : List Action} (quiet : ResetsQuiet cells (actions ++ later)) :
    ResetsQuiet cells actions := by
  intro before rest t split
  refine quiet before (rest ++ later) t ?_
  rw [split, List.append_assoc, List.cons_append]

/-- Over a whole run. -/
theorem after_spec (ran : after cells actions = some s) :
    s.Sound ∧ (ResetsQuiet cells actions → s.Lossless) := by
  induction actions using List.reverseRecOn generalizing s with
  | nil =>
    obtain rfl := Option.some.inj ran
    refine ⟨sound_begin cells, fun _ => .of (sound_begin cells) ⟨Nat.zero_le _, ?_⟩ nofun⟩
    simp [begin]
  | append_singleton actions a ih =>
    obtain ⟨t, before, step⟩ := foldlM_snoc.mp ran
    obtain ⟨sound, lossless⟩ := ih before
    obtain ⟨sound, kept⟩ := act_spec sound step
    refine ⟨sound, fun quiet => kept ?_ (lossless quiet.initial)⟩
    rintro rfl
    exact quiet actions [] t rfl before

/-- In every state of a run nothing is lost, and each configuration sends again what waits. -/
structure LosslessRun (cells : Nat → BitVec 8) (actions : List Action) : Prop where
  states : ∀ before later s, actions = before ++ later → after cells before = some s → s.Lossless
  resends : ∀ before later s, actions = before ++ .configure :: later →
    after cells (before ++ [.configure]) = some s → s.ring.contents ≠ [] → s.inFlight ≠ []

/-- The transmit side is lossless in exactly the runs in which no reset cancels a transfer. -/
theorem transmit_lossless_iff (cells : Nat → BitVec 8) (actions : List Action) :
    LosslessRun cells actions ↔ ResetsQuiet cells actions := by
  constructor
  · intro lossless before later t split there
    by_contra outstanding
    have busy := (lossless.states before _ t split there).busy.mpr outstanding
    have reset : after cells (before ++ [.reset]) = some { t with inFlight := [], configured := false } :=
      foldlM_snoc.mpr ⟨t, there, rfl⟩
    have next : actions = (before ++ [.reset]) ++ later := by
      rw [split, List.append_assoc, List.singleton_append]
    exact (lossless.states _ _ _ next reset).busy.mp busy rfl
  · intro quiet
    constructor
    · rintro before later t rfl there
      exact (after_spec there).2 quiet.initial
    · rintro before later s rfl there
      obtain ⟨t, earlier, step⟩ := foldlM_snoc.mp there
      obtain rfl := Option.some.inj step
      have lossless := (after_spec earlier).2 quiet.initial
      exact (started_usbStartNextTransmit { t with configured := true }).awake
        ⟨lossless.single, lossless.busy⟩ rfl

/-- A byte is on its way when the bus is reset: the flag stays set for good, and the byte written
after the next configuration is never sent. -/
theorem transmit_wedges : ¬ ∀ cells actions, LosslessRun cells actions := by
  intro lossless
  have ran : (after (fun _ => 0) (.configure :: .write [1] :: List.replicate 5 (.proceed false) ++
      .reset :: .configure :: .write [2] :: List.replicate 5 (.proceed false))).map
        (fun s => (s.writer, s.txBusy, s.inFlight)) = some (.idle, true, []) := by
    decide
  obtain ⟨s, there, same⟩ := Option.map_eq_some_iff.mp ran
  obtain ⟨-, same⟩ := Prod.mk.inj same
  obtain ⟨busy, none⟩ := Prod.mk.inj same
  exact ((lossless _ _).states _ [] s (List.append_nil _).symm there).busy.mp busy none

end Transmit

end Firestarter.Usb
