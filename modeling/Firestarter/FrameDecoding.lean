import Firestarter.Cobs
import Firestarter.Serial

/-! The streaming frame decoder against its reference: whatever the body before the delimiter is,
one call takes exactly the bytes through it, and the call succeeds on exactly the bodies that stand
for a payload and its CRC. -/
namespace Firestarter

open Interactive Interactive.Prog

/-! ## The receive queue -/

/-- No byte arrives that is not in the queue already. -/
def Quiet (env : Env) : Prop := ∀ w, env.arrive w = []

/-- `todo`, a delimiter and `after` are the next bytes of the queue, and what stands behind them has
arrived by now. -/
def Waiting (env : Env) (w : World) (todo after : List U8) : Prop :=
  ∃ arrived, (Quiet env → arrived = []) ∧ w.rx = todo ++ 0 :: (after ++ arrived)

/-- The delimiter has been taken and nothing after it. -/
def Resynced (w : World) (after : List U8) : Prop := ∃ arrived, w.rx = after ++ arrived

/-- And what stands behind that has arrived by now. -/
def ResyncedIn (env : Env) (w : World) (after : List U8) : Prop :=
  ∃ arrived, (Quiet env → arrived = []) ∧ w.rx = after ++ arrived

theorem ResyncedIn.resynced {env : Env} {w : World} {after : List U8}
    (resynced : ResyncedIn env w after) : Resynced w after := by
  obtain ⟨arrived, -, queue⟩ := resynced
  exact ⟨arrived, queue⟩

/-- What looking at the queue does to the world. -/
def World.received (env : Env) (w : World) : World :=
  { w with asked := w.asked + 1, rx := w.rx ++ env.arrive w }

theorem received_available (env : Env) (w : World) :
    Ends rurpCommunicationAvailable env w
      (fun n w' => n = (w.received env).rx.length ∧ w' = w.received env) fun _ => False :=
  ⟨rfl, rfl⟩

theorem received_peak (env : Env) (w : World) :
    Ends rurpCommunicationPeak env w
      (fun b w' => b = (w.received env).rx.head? ∧ w' = w.received env) fun _ => False :=
  ⟨rfl, rfl⟩

theorem received_read (env : Env) (w : World) :
    Ends rurpCommunicationRead env w
      (fun _ w' => w'.rx = (w.received env).rx.tail) fun _ => False := rfl

theorem Waiting.received {env : Env} {w : World} {todo after : List U8} (waiting : Waiting env w todo after)
    : Waiting env (w.received env) todo after := by
  obtain ⟨arrived, still, queue⟩ := waiting
  refine ⟨arrived ++ env.arrive w, fun quiet => ?_, by simp [World.received, queue]⟩
  rw [still quiet, quiet w, List.append_nil]

theorem available_ends (env : Env) (w : World) {todo after : List U8}
    (waiting : Waiting env w todo after) :
    Ends rurpCommunicationAvailable env w
      (fun n w' => n ≠ 0 ∧ Waiting env w' todo after ∧ w'.handle = w.handle) (fun _ => False) := by
  have kept := waiting.received
  refine ⟨?_, kept, rfl⟩
  obtain ⟨arrived, -, queue⟩ := kept
  change (w.received env).rx.length ≠ 0
  rw [queue]
  simp

theorem read_ends (env : Env) (w : World) {b : U8} {todo after : List U8}
    (waiting : Waiting env w (b :: todo) after) :
    Ends rurpCommunicationRead env w
      (fun r w' => r = some b ∧ Waiting env w' todo after ∧ w'.handle = w.handle)
      (fun _ => False) := by
  obtain ⟨arrived, still, queue⟩ := waiting.received
  exact ⟨congrArg List.head? queue, ⟨arrived, still, congrArg List.tail queue⟩, rfl⟩

theorem read_delimiter_ends (env : Env) (w : World) {after : List U8}
    (waiting : Waiting env w [] after) :
    Ends rurpCommunicationRead env w
      (fun r w' => r = some 0 ∧ ResyncedIn env w' after ∧ w'.handle = w.handle) (fun _ => False) := by
  obtain ⟨arrived, still, queue⟩ := waiting.received
  exact ⟨congrArg List.head? queue, ⟨arrived, still, congrArg List.tail queue⟩, rfl⟩

/-- Draining a queue that holds the delimiter waits for nothing and stops behind it. -/
theorem drain_ends (env : Env) (w : World) (wait : Bool) {todo after : List U8}
    (waiting : Waiting env w todo after) (zeroFree : 0 ∉ todo) (turns : todo.length < env.turns) :
    Ends (drainToDelimiter wait) env w
      (fun _ w' => ResyncedIn env w' after ∧ w'.handle = w.handle) (fun _ => False) := by
  unfold drainToDelimiter drainTurn whileLoop
  simp only [ends_bind, ends_outside]
  refine ends_repeatUntil_of_bound
    (fun n _ v => v.handle = w.handle ∧ ∃ rest, rest.length = n ∧ 0 ∉ rest ∧ Waiting env v rest after)
    ?_ _ todo.length _ _ ⟨rfl, todo, rfl, zeroFree, waiting⟩ turns
  rintro n _ v ⟨sameHandle, rest, rfl, free, waiting⟩
  simp only [ends_bind]
  refine (available_ends env v waiting).mono ?_ (fun _ h => h)
  rintro buffered v₁ ⟨ready, waiting, handle₁⟩
  simp only [bne_iff_ne, ne_eq, ready, not_false_eq_true, ↓reduceIte, ends_pure, ends_bind]
  cases rest with
  | nil =>
    refine (read_delimiter_ends env v₁ waiting).mono ?_ (fun _ h => h)
    rintro r v₂ ⟨rfl, resynced, handle₂⟩
    exact ⟨resynced, handle₂.trans (handle₁.trans sameHandle)⟩
  | cons b rest =>
    refine (read_ends env v₁ waiting).mono ?_ (fun _ h => h)
    rintro r v₂ ⟨rfl, waiting, handle₂⟩
    have nonzero : (some b == none || some b == some 0) = false := by
      simpa using fun zero : b = 0 => free (by simp [zero])
    simp only [nonzero, Bool.false_eq_true, ↓reduceIte, ends_pure]
    exact ⟨rest.length, by simp, handle₂.trans (handle₁.trans sameHandle), rest, rfl,
      fun member => free (List.mem_cons_of_mem _ member), waiting⟩

/-! ## Decoder state -/

/-- The bytes the decoder has put out so far are `out`: all but the last are in the buffer, and the
last is held back, for it may be the CRC. -/
def Holds (d : Decoder) (buffer : Nat → U8) (out : List U8) : Prop :=
  if d.hasLast then out = (List.range d.out).map buffer ++ [d.lastByte] else out = [] ∧ d.out = 0

/-- The decoder is `left` bytes away from the end of a block, and knows whether a zero goes before
the next one. -/
def Tracks (d : Decoder) (left : Nat) (owed : Bool) : Prop :=
  d.blockRemaining.toNat = left ∧ d.implicitZeroPending = (left == 0 && owed) ∧
    (left ≠ 0 → d.was254Run = !owed)

/-- Nothing at or above the capacity has been stored to. -/
def Untouched (cap : Nat) (before after : Nat → U8) : Prop := ∀ i, cap ≤ i → after i = before i

theorem holds_length {d : Decoder} {buffer : Nat → U8} {out : List U8}
    (holds : Holds d buffer out) (has : d.hasLast = true) : out.length = d.out + 1 := by
  simp only [Holds, has, ↓reduceIte] at holds
  simp [holds]

/-- Committing the byte held back appends it to what is in the buffer. -/
theorem committed_bytes (buffer : Nat → U8) (n : Nat) (b : U8) :
    (List.range (n + 1)).map (storeByte buffer n b) = (List.range n).map buffer ++ [b] := by
  rw [List.range_succ, List.map_append]
  congr 1
  · refine List.map_congr_left (fun i member => ?_)
    simp [storeByte, Nat.ne_of_lt (List.mem_range.mp member)]
  · simp [storeByte]

/-- One more byte goes out, or the buffer is too small for what is out already and the rest of the
frame is drained. -/
theorem push_ends (env : Env) (w : World) (cap : Nat) (d : Decoder) (b : U8)
    {todo after out : List U8} (waiting : Waiting env w todo after) (zeroFree : 0 ∉ todo)
    (turns : todo.length < env.turns) (holds : Holds d w.handle.dataBuffer out) :
    Ends (pushDecoded cap d b) env w
      (fun pushed w' => Untouched cap w.handle.dataBuffer w'.handle.dataBuffer ∧
        match pushed with
        | some d' => Waiting env w' todo after ∧ Holds d' w'.handle.dataBuffer (out ++ [b]) ∧
            out.length ≤ cap ∧
            d' = { d with out := d'.out, hasLast := d'.hasLast, lastByte := d'.lastByte }
        | none => ResyncedIn env w' after ∧ cap < out.length)
      (fun _ => False) := by
  unfold pushDecoded
  cases has : d.hasLast with
  | false =>
    simp only [Holds, has, Bool.false_eq_true, ↓reduceIte] at holds
    simp only [Bool.false_eq_true, ↓reduceIte, ends_pure]
    exact ⟨fun _ _ => rfl, waiting, by simp [Holds, holds], by simp [holds.1], trivial⟩
  | true =>
    have length := holds_length holds has
    simp only [↓reduceIte]
    by_cases full : d.out ≥ cap
    · simp only [full, ↓reduceIte, ends_bind, ends_pure]
      refine (drain_ends env w true waiting zeroFree turns).mono ?_ (fun _ h => h)
      rintro _ w' ⟨resynced, sameHandle⟩
      exact ⟨fun _ _ => by rw [sameHandle], resynced, by omega⟩
    · simp only [full, ↓reduceIte, ends_bind, ends_pure, setHandle, ends_update]
      refine ⟨fun i above => ?_, waiting, ?_, by omega, ?_⟩
      · have : i ≠ d.out := by omega
        simp [storeByte, this]
      · simp only [Holds, has, ↓reduceIte] at holds ⊢
        rw [committed_bytes, holds]
      · cases d
        simp_all

/-- What one byte of the body does: more goes out and the pass goes on behind it, or nothing that
the rest of the body can hold would fit the buffer. -/
def ByteTaken (env : Env) (cap : Nat) (left : Nat) (owed : Bool) (b : U8) (todo after out : List U8)
    (taken : Option Decoder) (w : World) : Prop :=
  match taken with
  | some d => Waiting env w todo after ∧ ∃ left' owed' more, Tracks d left' owed' ∧
      Holds d w.handle.dataBuffer (out ++ more) ∧ (out ++ more).length ≤ cap + 1 ∧
      Cobs.remaining left owed (b :: todo) = (Cobs.remaining left' owed' todo).map (more ++ ·)
  | none => ResyncedIn env w after ∧ ∀ tail, Cobs.remaining left owed (b :: todo) = some tail →
      cap + 1 < (out ++ tail).length

theorem decode_data_byte_ends (env : Env) (w : World) (cap : Nat) (d : Decoder) (b : U8)
    (left : Nat) (owed : Bool) {todo after out : List U8} (waiting : Waiting env w todo after)
    (zeroFree : 0 ∉ todo) (turns : todo.length < env.turns)
    (holds : Holds d w.handle.dataBuffer out) (tracks : Tracks d (left + 1) owed) :
    Ends (decodeByte cap d b) env w
      (fun taken w' => Untouched cap w.handle.dataBuffer w'.handle.dataBuffer ∧
        ByteTaken env cap (left + 1) owed b todo after out taken w') (fun _ => False) := by
  obtain ⟨remaining, pending, run⟩ := tracks
  have inside : d.blockRemaining > 0 := by
    rw [gt_iff_lt, BitVec.lt_def, remaining]
    simp
  unfold decodeByte
  simp only [inside, ↓reduceIte, ends_bind, ends_pure]
  refine (push_ends env w cap d b waiting zeroFree turns holds).mono ?_ (fun _ h => h)
  rintro pushed w' ⟨untouched, result⟩
  refine ⟨untouched, ?_⟩
  cases pushed with
  | none =>
    refine ⟨result.1, fun tail passed => ?_⟩
    rw [Cobs.remaining, Option.map_eq_some_iff] at passed
    obtain ⟨tail, -, rfl⟩ := passed
    have := result.2
    simp
    omega
  | some d' =>
    obtain ⟨waiting, holds, fits, same⟩ := result
    have sameRemaining : d'.blockRemaining = d.blockRemaining := by rw [same]
    have samePending : d'.implicitZeroPending = d.implicitZeroPending := by rw [same]
    have sameRun : d'.was254Run = d.was254Run := by rw [same]
    have lower : (d.blockRemaining - 1).toNat = left := by
      rw [BitVec.toNat_sub_of_le (by rw [BitVec.le_def, remaining]; simp), remaining]
      simp
    refine ⟨waiting, left, owed, [b], ⟨?_, ?_, fun _ => ?_⟩, ?_, by simp; omega, ?_⟩
    · simpa [sameRemaining] using lower
    · have zero : (d.blockRemaining - 1 == 0) = (left == 0) := by
        rw [Bool.eq_iff_iff, beq_iff_eq, beq_iff_eq, ← lower, BitVec.toNat_eq]
        simp
      simp only [samePending, sameRun, sameRemaining, pending, run (by simp), zero]
      simp
    · simpa [sameRun] using run (by simp)
    · simpa [Holds] using holds
    · rfl

theorem decode_code_byte_ends (env : Env) (w : World) (cap : Nat) (d : Decoder) (b : U8)
    (owed : Bool) {todo after out : List U8} (waiting : Waiting env w todo after) (nonzero : b ≠ 0)
    (zeroFree : 0 ∉ todo) (turns : todo.length < env.turns)
    (holds : Holds d w.handle.dataBuffer out) (tracks : Tracks d 0 owed)
    (fits : out.length ≤ cap + 1) :
    Ends (decodeByte cap d b) env w
      (fun taken w' => Untouched cap w.handle.dataBuffer w'.handle.dataBuffer ∧
        ByteTaken env cap 0 owed b todo after out taken w') (fun _ => False) := by
  obtain ⟨remaining, pending, -⟩ := tracks
  have between : ¬ d.blockRemaining > 0 := by
    rw [gt_iff_lt, BitVec.lt_def, remaining]
    simp
  have lower : (b - 1).toNat = b.toNat - 1 := by
    have positive : b.toNat ≠ 0 := fun zero => nonzero (BitVec.eq_of_toNat_eq zero)
    rw [BitVec.toNat_sub_of_le (by rw [BitVec.le_def]; simp; omega)]
    simp
  have next (d' : Decoder) : Tracks
      { d' with
        was254Run := b == 0xFF
        blockRemaining := b - 1
        implicitZeroPending := b - 1 == 0 && b != 0xFF } (b.toNat - 1) (b != 0xFF) := by
    refine ⟨lower, ?_, fun _ => by simp [bne]⟩
    have zero : (b - 1 == 0) = (b.toNat - 1 == 0) := by
      rw [Bool.eq_iff_iff, beq_iff_eq, beq_iff_eq, ← lower, BitVec.toNat_eq]
      simp
    simp only [zero]
  unfold decodeByte
  simp only [between, ↓reduceIte]
  cases owed with
  | false =>
    simp only [pending, beq_self_eq_true, Bool.and_false, Bool.false_eq_true, ↓reduceIte]
    exact ⟨fun _ _ => rfl, waiting, _, _, [], next d, by simpa [Holds] using holds,
      by simpa using fits, rfl⟩
  | true =>
    simp only [pending, beq_self_eq_true, Bool.and_self, ↓reduceIte, ends_bind, ends_pure]
    refine (push_ends env w cap d 0 waiting zeroFree turns holds).mono ?_ (fun _ h => h)
    rintro pushed w' ⟨untouched, result⟩
    refine ⟨untouched, ?_⟩
    cases pushed with
    | none =>
      refine ⟨result.1, fun tail passed => ?_⟩
      rw [Cobs.remaining, Option.map_eq_some_iff] at passed
      obtain ⟨tail, -, rfl⟩ := passed
      have := result.2
      simp [Cobs.zeroIf]
      omega
    | some d' =>
      obtain ⟨waiting, holds, fits, -⟩ := result
      exact ⟨waiting, _, _, [0], next d', by simpa [Holds] using holds, by simp; omega, rfl⟩

/-- The invariant of the decoder's loop: what went out so far and what the pass still makes of the
rest of the body are together what it makes of the whole body. -/
def Decoding (env : Env) (cap : Nat) (body after : List U8) (buffer : Nat → U8) (todo : List U8) (d : Decoder)
    (w : World) : Prop :=
  ∃ left owed out, Tracks d left owed ∧ Holds d w.handle.dataBuffer out ∧
    out.length ≤ cap + 1 ∧ 0 ∉ todo ∧ Waiting env w todo after ∧
    Untouched cap buffer w.handle.dataBuffer ∧
    Cobs.remaining 0 false body = (Cobs.remaining left owed todo).map (out ++ ·)

/-- How the loop is left: with the whole output, or because no output of the body is a payload that
fits and its CRC. -/
def DecodeEnded (env : Env) (cap : Nat) (body after : List U8) (buffer : Nat → U8) (result : Except Int Decoder)
    (w : World) : Prop :=
  ResyncedIn env w after ∧ Untouched cap buffer w.handle.dataBuffer ∧
    match result with
    | .ok d => ∃ out, Holds d w.handle.dataBuffer out ∧ out.length ≤ cap + 1 ∧
        Cobs.remaining 0 false body = some out
    | .error code => code < 0 ∧
        ∀ out, Cobs.remaining 0 false body = some out → cap + 1 < out.length

theorem decode_turn_ends (env : Env) (w : World) (cap : Nat) (d : Decoder)
    {body after todo : List U8} {buffer : Nat → U8}
    (decoding : Decoding env cap body after buffer todo d w) (turns : todo.length < env.turns) :
    Ends (decodeTurn cap d) env w
      (fun r w' => match r with
        | .inl d' => ∃ n < todo.length, ∃ rest, rest.length = n ∧
            Decoding env cap body after buffer rest d' w'
        | .inr result => DecodeEnded env cap body after buffer result w') (fun _ => False) := by
  obtain ⟨left, owed, out, tracks, holds, fits, zeroFree, waiting, untouched, whole⟩ := decoding
  unfold decodeTurn
  simp only [ends_bind]
  refine (available_ends env w waiting).mono ?_ (fun _ h => h)
  rintro buffered w₁ ⟨ready, waiting, handle₁⟩
  simp only [bne_iff_ne, ne_eq, ready, not_false_eq_true, ↓reduceIte, ends_pure, ends_bind]
  cases todo with
  | nil =>
    refine (read_delimiter_ends env w₁ waiting).mono ?_ (fun _ h => h)
    rintro r w₂ ⟨rfl, resynced, handle₂⟩
    have sameHandle : w₂.handle = w.handle := handle₂.trans handle₁
    cases left with
    | zero =>
      have closed : d.blockRemaining = 0 := BitVec.eq_of_toNat_eq tracks.1
      simp only [beq_self_eq_true, closed, not_true_eq_false, ↓reduceIte, ends_pure]
      exact ⟨resynced, sameHandle ▸ untouched, out, sameHandle ▸ holds, fits, by
        simpa [Cobs.remaining] using whole⟩
    | succ left =>
      have opened : ¬ d.blockRemaining = 0 := by
        intro zero
        have := tracks.1
        rw [zero] at this
        simp at this
      simp only [beq_self_eq_true, opened, not_false_eq_true, ↓reduceIte, ends_pure]
      exact ⟨resynced, sameHandle ▸ untouched, by omega, by simp [whole, Cobs.remaining]⟩
  | cons b todo =>
    refine (read_ends env w₁ waiting).mono ?_ (fun _ h => h)
    rintro r w₂ ⟨rfl, waiting, handle₂⟩
    have sameHandle : w₂.handle = w.handle := handle₂.trans handle₁
    have nonzero : b ≠ 0 := fun zero => zeroFree (by simp [zero])
    have free : 0 ∉ todo := fun member => zeroFree (List.mem_cons_of_mem _ member)
    have fewer : todo.length < env.turns := by simp at turns; omega
    have taken : Ends (decodeByte cap d b) env w₂
        (fun taken w' => Untouched cap w₂.handle.dataBuffer w'.handle.dataBuffer ∧
          ByteTaken env cap left owed b todo after out taken w') (fun _ => False) := by
      cases left with
      | zero =>
        exact decode_code_byte_ends env w₂ cap d b owed waiting nonzero free fewer
          (sameHandle ▸ holds) tracks fits
      | succ left =>
        exact decode_data_byte_ends env w₂ cap d b left owed waiting free fewer
          (sameHandle ▸ holds) tracks
    simp only [beq_iff_eq, nonzero, ↓reduceIte, ends_bind]
    refine taken.mono ?_ (fun _ h => h)
    rintro pushed w₃ ⟨untouched₃, result⟩
    have untouched : Untouched cap buffer w₃.handle.dataBuffer := fun i above => by
      rw [untouched₃ i above, sameHandle, untouched i above]
    cases pushed with
    | none =>
      refine ⟨result.1, untouched, by omega, fun whole' passed => ?_⟩
      rw [whole, Option.map_eq_some_iff] at passed
      obtain ⟨tail, passed, rfl⟩ := passed
      exact result.2 tail passed
    | some d' =>
      obtain ⟨waiting, left', owed', more, tracks, holds, fits, step⟩ := result
      refine ⟨todo.length, by simp, todo, rfl, left', owed', out ++ more, tracks, holds, fits, free,
        waiting, untouched, ?_⟩
      rw [whole, step, Option.map_map]
      congr 1
      funext tail
      simp

theorem decode_loop_ends (env : Env) (w : World) (cap : Nat) (body after : List U8)
    (zeroFree : 0 ∉ body) (waiting : w.rx = body ++ 0 :: after) (turns : body.length < env.turns) :
    Ends (whileLoop (decodeTurn cap) {}) env w
      (DecodeEnded env cap body after w.handle.dataBuffer) (fun _ => False) := by
  unfold whileLoop
  simp only [ends_bind, ends_outside]
  refine ends_repeatUntil_of_bound
    (fun n d v => n < env.turns ∧ ∃ todo, todo.length = n ∧
      Decoding env cap body after w.handle.dataBuffer todo d v)
    ?_ _ body.length _ _ ⟨turns, body, rfl, 0, false, [], ?_⟩ turns
  · rintro n d v ⟨turns, todo, rfl, decoding⟩
    refine (decode_turn_ends env v cap d decoding turns).mono ?_ (fun _ h => h)
    rintro (d' | result) v' ended
    · obtain ⟨m, fewer, rest⟩ := ended
      exact ⟨m, fewer, by omega, rest⟩
    · exact ended
  · refine ⟨⟨rfl, rfl, by simp⟩, by simp [Holds], by simp, zeroFree, ⟨[], fun _ => rfl, by simp [waiting]⟩,
      fun _ _ => rfl, ?_⟩
    simp

/-! ## The decoder and its reference -/

/-- What is made of the whole output: nothing of an empty one, and else its last byte has to be the
CRC of the bytes before it. -/
theorem payload_ends (env : Env) (w : World) (cap : Nat) (d : Decoder) {after out : List U8}
    {buffer : Nat → U8} (holds : Holds d w.handle.dataBuffer out) (fits : out.length ≤ cap + 1)
    (resynced : ResyncedIn env w after) (untouched : Untouched cap buffer w.handle.dataBuffer) :
    Ends (if d.hasLast then do
        let h ← getHandle
        if crc8 ((List.range d.out).map h.dataBuffer) == d.lastByte then return (d.out : Int)
        else return -4
      else return -1) env w
      (fun n w' => ResyncedIn env w' after ∧ Untouched cap buffer w'.handle.dataBuffer ∧
        ∀ p : List U8,
          (n = p.length ∧ (List.range p.length).map w'.handle.dataBuffer = p) ↔
            (out = p ++ [crc8 p] ∧ p.length ≤ cap)) (fun _ => False) := by
  cases has : d.hasLast with
  | false =>
    simp only [Holds, has, Bool.false_eq_true, ↓reduceIte] at holds ⊢
    refine ⟨resynced, untouched, fun p => ⟨?_, ?_⟩⟩
    · rintro ⟨count, -⟩
      omega
    · rintro ⟨empty, -⟩
      rw [holds.1] at empty
      simp at empty
  | true =>
    simp only [Holds, has, ↓reduceIte] at holds
    have length : out.length = d.out + 1 := by simp [holds]
    simp only [↓reduceIte, ends_bind, getHandle, ends_look, ends_pure]
    by_cases valid : crc8 ((List.range d.out).map w.handle.dataBuffer) = d.lastByte
    · simp only [valid, beq_self_eq_true, ↓reduceIte, ends_pure]
      refine ⟨resynced, untouched, fun p => ⟨?_, ?_⟩⟩
      · rintro ⟨count, stored⟩
        have count : d.out = p.length := by omega
        rw [count, stored] at holds valid
        exact ⟨by rw [holds, valid], by omega⟩
      · rintro ⟨whole, -⟩
        obtain ⟨stored, -⟩ := List.append_inj' (holds.symm.trans whole) rfl
        have count : d.out = p.length := by simpa using congrArg List.length stored
        exact ⟨by omega, by rw [← count, stored]⟩
    · simp only [beq_iff_eq, valid, ↓reduceIte, ends_pure]
      refine ⟨resynced, untouched, fun p => ⟨?_, ?_⟩⟩
      · rintro ⟨count, -⟩
        omega
      · rintro ⟨whole, -⟩
        obtain ⟨stored, crc⟩ := List.append_inj' (holds.symm.trans whole) rfl
        rw [stored] at valid
        exact absurd (by simpa using crc.symm) valid

/-- One call on a queue that holds a delimiter: it takes exactly the bytes through the first one, and
gives a count and a payload exactly when the body stands for that payload and its CRC. -/
theorem ends_readData (env : Env) (w : World) (cap : Nat) (body after : List U8)
    (zeroFree : 0 ∉ body) (waiting : w.rx = body ++ 0 :: after) (turns : body.length < env.turns) :
    Ends (rurpCommunicationReadData cap) env w
      (fun n w' => ResyncedIn env w' after ∧
        Untouched cap w.handle.dataBuffer w'.handle.dataBuffer ∧
        ∀ p : List U8,
          (n = p.length ∧ (List.range p.length).map w'.handle.dataBuffer = p) ↔
            (Cobs.Decodes body (p ++ [crc8 p]) ∧ p.length ≤ cap)) (fun _ => False) := by
  unfold rurpCommunicationReadData decodeEnd
  simp only [ends_bind]
  refine (decode_loop_ends env w cap body after zeroFree waiting turns).mono ?_ (fun _ h => h)
  rintro (code | d) w' ⟨resynced, untouched, ended⟩
  · refine ⟨resynced, untouched, fun p => ⟨?_, ?_⟩⟩
    · rintro ⟨count, -⟩
      have := ended.1
      omega
    · rintro ⟨decodes, fits⟩
      have := ended.2 _ ((Cobs.remaining_eq_some_iff zeroFree).mpr decodes)
      simp at this
      omega
  · obtain ⟨out, holds, fits, whole⟩ := ended
    have decodes_iff (p : List U8) : Cobs.Decodes body (p ++ [crc8 p]) ↔ out = p ++ [crc8 p] := by
      rw [← Cobs.remaining_eq_some_iff zeroFree, whole, Option.some.injEq]
    simp only [decodes_iff]
    exact payload_ends env w' cap d holds fits resynced untouched

/-- A count that names exactly the payloads a body stands for is negative when it stands for none. -/
theorem negative_of_no_payload {n : Int} {buffer : Nat → U8} {good : List U8 → Prop}
    (exact : ∀ p : List U8,
      (n = p.length ∧ (List.range p.length).map buffer = p) ↔ good p) (none : ¬ ∃ p, good p) :
    n < 0 := by
  by_contra nonnegative
  have count : n = (n.toNat : Int) := by omega
  refine none ⟨(List.range n.toNat).map buffer, (exact _).mp ⟨?_, ?_⟩⟩
  · rw [List.length_map, List.length_range]
    exact count
  · rw [List.length_map, List.length_range]

/-! ## Every count -/

section
variable {env : Env} {cap : Nat} {d : Decoder}

theorem ends_pushDecoded_fits (w : World) (b : U8) (fits : d.out ≤ cap) :
    Ends (pushDecoded cap d b) env w (fun pushed _ => ∀ d', pushed = some d' → d'.out ≤ cap)
      (fun _ => True) := by
  unfold pushDecoded
  split
  · split
    · rw [ends_bind]
      exact ends_any _ (fun _ _ => nofun) fun _ => trivial
    · rename_i room
      rw [ends_bind, ends_setHandle]
      rintro d' same
      obtain rfl := Option.some.inj same
      exact Nat.lt_of_not_ge room
  · rintro d' same
    obtain rfl := Option.some.inj same
    exact fits

theorem ends_decodeByte_fits (w : World) (byte : U8) (fits : d.out ≤ cap) :
    Ends (decodeByte cap d byte) env w (fun next _ => ∀ d', next = some d' → d'.out ≤ cap)
      (fun _ => True) := by
  have map {pushed : Option Decoder} {f : Decoder → Decoder} (same : ∀ d, (f d).out = d.out)
      (pushes : ∀ d', pushed = some d' → d'.out ≤ cap) :
      ∀ d', pushed.map f = some d' → d'.out ≤ cap := by
    rintro d' mapped
    obtain ⟨before, found, rfl⟩ := Option.map_eq_some_iff.mp mapped
    rw [same]
    exact pushes before found
  unfold decodeByte
  split
  · rw [ends_bind]
    exact (ends_pushDecoded_fits w byte fits).mono (fun _ _ pushes => map (fun _ => rfl) pushes)
      fun _ => id
  · rw [ends_bind]
    split
    · exact (ends_pushDecoded_fits w 0 fits).mono (fun _ _ pushes => map (fun _ => rfl) pushes)
        fun _ => id
    · refine map (fun _ => rfl) fun d' same => ?_
      obtain rfl := Option.some.inj same
      exact fits

theorem ends_decodeTurn_fits (w : World) (fits : d.out ≤ cap) :
    Ends (decodeTurn cap d) env w
      (fun r _ => match r with
        | .inl next => next.out ≤ cap
        | .inr (.ok d') => d'.out ≤ cap
        | .inr (.error code) => code < 0)
      (fun _ => True) := by
  unfold decodeTurn
  rw [ends_bind]
  refine ends_any _ (fun buffered w₁ => ?_) fun _ => trivial
  rw [ends_bind]
  refine ends_any _ (fun ready w₂ => ?_) fun _ => trivial
  split
  · rw [ends_bind]
    refine ends_any _ (fun taken w₃ => ?_) fun _ => trivial
    cases taken with
    | none =>
      rw [ends_bind]
      exact ends_any _ (fun _ _ => (by decide : (-1 : Int) < 0)) fun _ => trivial
    | some byte =>
      dsimp only
      split
      · split
        · exact (by decide : (-3 : Int) < 0)
        · exact fits
      · rw [ends_bind]
        refine (ends_decodeByte_fits w₃ byte fits).mono (fun next _ pushes => ?_) fun _ => id
        cases next with
        | none => exact (by decide : (-2 : Int) < 0)
        | some d' => exact pushes d' rfl
  · rw [ends_bind]
    exact ends_any _ (fun _ _ => (by decide : (-1 : Int) < 0)) fun _ => trivial

/-- Whatever is in the queue, no payload is longer than the buffer. -/
theorem ends_readData_fits (env : Env) (cap : Nat) (w : World) :
    Ends (rurpCommunicationReadData cap) env w (fun n _ => n ≤ cap) (fun _ => True) := by
  unfold rurpCommunicationReadData decodeEnd whileLoop
  rw [ends_bind, ends_bind, ends_outside]
  refine ends_repeatUntil (fun d _ => d.out ≤ cap) (fun d v fits => ?_) (fun _ _ _ => trivial) _ _ w
    (Nat.zero_le cap)
  refine (ends_decodeTurn_fits v fits).mono (fun r v' turned => ?_) fun _ => id
  cases r with
  | inl next => exact turned
  | inr ended =>
    cases ended with
    | error code =>
      have negative : code < 0 := turned
      show code ≤ cap
      omega
    | ok d' =>
      have count : d'.out ≤ cap := turned
      dsimp only
      split
      · rw [ends_bind, ends_getHandle]
        split
        · exact Int.ofNat_le.mpr count
        · show (-4 : Int) ≤ cap
          omega
      · show (-1 : Int) ≤ cap
        omega

end

/-- One call on a queue that holds a delimiter returns, takes exactly the bytes through the first
delimiter, stores nothing at or above the capacity, gives a count and a payload exactly when the
body stands for that payload and its CRC and the payload fits, and is negative otherwise. -/
theorem read_data_decodes (env : Env) (w : World) (cap : Nat) (body after : List U8)
    (zeroFree : 0 ∉ body) (waiting : w.rx = body ++ 0 :: after) (turns : body.length < env.turns) :
    ∃ n w', rurpCommunicationReadData cap env w = (some n, w') ∧ Resynced w' after ∧
      Untouched cap w.handle.dataBuffer w'.handle.dataBuffer ∧
      (∀ p : List U8,
        (n = p.length ∧ (List.range p.length).map w'.handle.dataBuffer = p) ↔
          (Cobs.Decodes body (p ++ [crc8 p]) ∧ p.length ≤ cap)) ∧
      ((¬ ∃ p : List U8, Cobs.Decodes body (p ++ [crc8 p]) ∧ p.length ≤ cap) → n < 0) := by
  have run := ends_readData env w cap body after zeroFree waiting turns
  obtain ⟨value, cutOff⟩ := ends_iff.mp run
  rcases ran : rurpCommunicationReadData cap env w with ⟨_ | n, w'⟩
  · exact (cutOff w' ran).elim
  · obtain ⟨resynced, untouched, exact⟩ := value n w' ran
    exact ⟨n, w', rfl, resynced.resynced, untouched, exact, negative_of_no_payload exact⟩

/-- The frame of the one byte 0x41. -/
theorem read_data_decodes_frame :
    ∃ n w', rurpCommunicationReadData 4 (Env.still ⟨.uno, false⟩ 8)
        { latches := ⟨0, 0, 0⟩, stored := none, rx := [3, 0x41, 0xC0, 0, 0x4F] } = (some n, w') ∧
      Resynced w' [0x4F] ∧
      ∀ p : List U8,
        (n = p.length ∧ (List.range p.length).map w'.handle.dataBuffer = p) ↔
          (Cobs.Decodes [3, 0x41, 0xC0] (p ++ [crc8 p]) ∧ p.length ≤ 4) := by
  obtain ⟨n, w', ran, resynced, -, exact, -⟩ := read_data_decodes (Env.still ⟨.uno, false⟩ 8)
    { latches := ⟨0, 0, 0⟩, stored := none, rx := [3, 0x41, 0xC0, 0, 0x4F] } 4 [3, 0x41, 0xC0]
    [0x4F] (by decide) rfl (by decide)
  exact ⟨n, w', ran, resynced, exact⟩

end Firestarter
