import Firestarter.LinkFrames
import Firestarter.WatchedRuns
import Mathlib.Algebra.Group.Nat.Defs
import Mathlib.Data.Prod.Lex

/-! A clock that goes on and a host that has said all it will say. What the firmware reads of the
clock is its lower 32 bits; what is said here about waiting is about the time that has really
gone by. -/
namespace Firestarter

open Interactive Interactive.Prog

set_option synthInstance.maxSize 4000

/-- The same outside, watched for this many turns of every loop. -/
def Env.watched (env : Env) (turns : Nat) : Env := { env with turns := turns }

/-- The clock never stands still for good: whatever it shows, it has gone on once enough questions
have been asked. -/
def Env.ClockMoves (env : Env) : Prop :=
  ∀ t, ∃ n, ∀ w : World, w.now = t → n ≤ w.asked → 0 < env.elapse w

/-- And no look at it misses a wrap. -/
structure Env.ClockRuns (env : Env) : Prop where
  moves : env.ClockMoves
  steps : ∀ w, env.elapse w + timeoutMs.toNat ≤ 2 ^ 32

/-- After this many questions nothing more arrives. -/
class SilentFrom (env : Env) (quiet : Nat) : Prop where
  silent : ∀ w : World, quiet ≤ w.asked → env.arrive w = []

/-- The stream of the host is finite, whatever is in it and whenever it comes. -/
def Env.StreamEnds (env : Env) : Prop := ∃ quiet, SilentFrom env quiet

instance {env : Env} {quiet turns : Nat} [silent : SilentFrom env quiet] :
    SilentFrom (env.watched turns) quiet := ⟨silent.silent⟩

/-- An outside where nothing arrives and every look at the clock finds it a millisecond on. -/
def Env.ticking (build : Build) : Env := { Env.still build 0 with elapse := fun _ => 1 }

theorem Env.ticking_clockRuns (build : Build) : (Env.ticking build).ClockRuns where
  moves _ := ⟨0, fun _ _ _ => Nat.one_pos⟩
  steps _ := by
    show 1 + timeoutMs.toNat ≤ 2 ^ 32
    decide

theorem Env.ticking_streamEnds (build : Build) : (Env.ticking build).StreamEnds :=
  ⟨0, ⟨fun _ _ => rfl⟩⟩

/-- What looking at the clock does to the world. -/
def World.looked (env : Env) (w : World) : World :=
  { w with asked := w.asked + 1, now := w.now + env.elapse w }

variable {env : Env} {w w' v : World}

theorem returns_millis (env : Env) (w : World) :
    Returns env.watched millis w (BitVec.ofNat 32 (w.looked env).now) (w.looked env) :=
  .of_run fun _ => rfl

theorem returns_whileLoop {β α : Type} {body : β → Fw (β ⊕ α)} {b : β} {a : α}
    (loop : LoopReturns env.watched body b w a w') :
    Returns env.watched (whileLoop body b) w a w' := by
  obtain ⟨enough, loop⟩ := loop
  exact ⟨enough, fun n many => loop n many n many⟩

/-! ## The timer across the wrap -/

theorem toNat_sub_millis {started now : Nat} (later : started ≤ now) :
    (BitVec.ofNat 32 now - BitVec.ofNat 32 started).toNat = (now - started) % 2 ^ 32 := by
  rw [BitVec.toNat_sub, BitVec.toNat_ofNat, BitVec.toNat_ofNat]
  omega

/-- The timer runs out only once the time has really gone by, -/
theorem elapsed_of_expired {started now : Nat} {durationMs : U32} (later : started ≤ now)
    (expired : fsTimeoutExpired (BitVec.ofNat 32 started) durationMs (BitVec.ofNat 32 now) = true) :
    started + durationMs.toNat ≤ now := by
  unfold fsTimeoutExpired at expired
  rw [decide_eq_true_eq, BitVec.le_def, toNat_sub_millis later] at expired
  have := Nat.mod_le (now - started) (2 ^ 32)
  omega

/-- and at the first look after that, unless a whole turn of the clock has gone by too. -/
theorem not_elapsed_of_running {started now : Nat} {durationMs : U32} (later : started ≤ now)
    (running : fsTimeoutExpired (BitVec.ofNat 32 started) durationMs (BitVec.ofNat 32 now) = false)
    (turn : now < started + 2 ^ 32) : now < started + durationMs.toNat := by
  unfold fsTimeoutExpired at running
  rw [decide_eq_false_iff_not, BitVec.le_def, toNat_sub_millis later] at running
  rw [Nat.mod_eq_of_lt (by omega)] at running
  omega

/-! ## Time and the queue -/

/-- The clock and the count of questions do not go back. -/
structure Later (w w' : World) : Prop where
  now : w.now ≤ w'.now
  asked : w.asked ≤ w'.asked

/-- And once nothing arrives any more, the queue does not grow. -/
structure Onward (quiet : Nat) (w w' : World) : Prop extends Later w w' where
  rx : quiet ≤ w.asked → w'.rx.length ≤ w.rx.length

variable {quiet : Nat}

instance : IsPreorder World (Onward quiet) where
  refl _ := ⟨⟨Nat.le_refl _, Nat.le_refl _⟩, fun _ => Nat.le_refl _⟩
  trans _ _ _ first rest :=
    ⟨⟨first.now.trans rest.now, first.asked.trans rest.asked⟩, fun late =>
      (rest.rx (late.trans first.asked)).trans (first.rx late)⟩

/-- A change of something else. -/
theorem Onward.of_same (now : w'.now = w.now) (asked : w'.asked = w.asked) (rx : w'.rx = w.rx) :
    Onward quiet w w' :=
  ⟨⟨Nat.le_of_eq now.symm, Nat.le_of_eq asked.symm⟩, fun _ => Nat.le_of_eq (congrArg _ rx)⟩

theorem Onward.looked (env : Env) (w : World) : Onward quiet w (w.looked env) :=
  ⟨⟨Nat.le_add_right .., Nat.le_add_right ..⟩, fun _ => Nat.le_refl _⟩

/-- What is left of a wait for this time: the milliseconds to it, and at each of them the questions
until the clock moves. -/
def clockMeasure (moves : Nat → Nat) (limit : Nat) (w : World) : Nat ×ₗ Nat :=
  toLex (limit - w.now, moves w.now - w.asked)

/-- A look at the clock that still finds it below the limit brings the limit nearer. -/
theorem clock_nearer {moves : Nat → Nat} {limit : Nat}
    (goesOn : ∀ w : World, moves w.now ≤ w.asked → 0 < env.elapse w) (before : Later w v)
    (below : (v.looked env).now < limit) (after : Later (v.looked env) w') :
    clockMeasure moves limit w' < clockMeasure moves limit w := by
  have shown : (v.looked env).now = v.now + env.elapse v := rfl
  have asked : (v.looked env).asked = v.asked + 1 := rfl
  have beforeNow := before.now
  have beforeAsked := before.asked
  have afterNow := after.now
  have afterAsked := after.asked
  unfold clockMeasure
  rw [Prod.Lex.toLex_lt_toLex]
  by_cases moved : w.now < w'.now
  · exact Or.inl (by dsimp only; omega)
  · have still : w'.now = w.now := by omega
    have stood : v.now = w.now := by omega
    have early : ¬ moves v.now ≤ v.asked := fun late => by
      have := goesOn v late
      omega
    rw [stood] at early
    refine Or.inr ⟨by rw [still], ?_⟩
    rw [still]
    omega

/-- What is left of the stream: the questions until nothing more arrives, and then the queue. -/
def streamMeasure (quiet : Nat) (w : World) : Nat ×ₗ Nat := toLex (quiet - w.asked, w.rx.length)

/-- Taking a byte brings the end of the stream nearer. -/
theorem stream_nearer (asked : w.asked < w'.asked)
    (taken : quiet ≤ w.asked → w'.rx.length < w.rx.length) :
    streamMeasure quiet w' < streamMeasure quiet w := by
  unfold streamMeasure
  rw [Prod.Lex.toLex_lt_toLex]
  by_cases late : quiet ≤ w.asked
  · exact Or.inr ⟨by dsimp only; omega, taken late⟩
  · exact Or.inl (by dsimp only; omega)

section
variable {α : Type}

instance (f : Handle → Handle) : Within env (Onward quiet) (setHandle f) :=
  ⟨fun _ => .of_same rfl rfl rfl⟩

instance (e : Event) : Within env (Onward quiet) (note e) := ⟨fun _ => .of_same rfl rfl rfl⟩

instance : Within env (Onward quiet) millis := ⟨fun s => Onward.looked env s⟩

variable [SilentFrom env quiet]

instance : Within env (Onward quiet) receive := by
  refine ⟨fun s => ⟨⟨Nat.le_refl _, Nat.le_add_right ..⟩, fun late => ?_⟩⟩
  show (s.rx ++ env.arrive s).length ≤ s.rx.length
  rw [SilentFrom.silent s late, List.append_nil]

instance : Within env (Onward quiet) rurpCommunicationAvailable := by
  unfold rurpCommunicationAvailable
  infer_instance

instance : Within env (Onward quiet) rurpCommunicationPeak := by
  unfold rurpCommunicationPeak
  infer_instance

instance : Within env (Onward quiet) rurpCommunicationRead := by
  have : Within env (Onward quiet) (update fun w => { w with rx := w.rx.tail } : Fw Unit) :=
    ⟨fun s => ⟨⟨Nat.le_refl _, Nat.le_refl _⟩, fun _ => by
      show s.rx.tail.length ≤ s.rx.length
      rw [List.length_tail]
      omega⟩⟩
  unfold rurpCommunicationRead
  infer_instance

instance : Within env (Onward quiet) awaitByte := by
  unfold awaitByte awaitTurn whileLoop
  infer_instance

instance (waitOnSilence : Bool) : Within env (Onward quiet) (drainToDelimiter waitOnSilence) := by
  unfold drainToDelimiter drainTurn whileLoop
  infer_instance

instance (text : List U8) : Within env (Onward quiet) (takeText text) := by
  induction text with
  | nil =>
    unfold takeText
    infer_instance
  | cons c rest ih =>
    unfold takeText
    infer_instance

instance (cap : Nat) (d : Decoder) (b : U8) : Within env (Onward quiet) (pushDecoded cap d b) := by
  unfold pushDecoded
  infer_instance

instance (cap : Nat) (d : Decoder) (b : U8) : Within env (Onward quiet) (decodeByte cap d b) := by
  unfold decodeByte
  infer_instance

end

end Firestarter
