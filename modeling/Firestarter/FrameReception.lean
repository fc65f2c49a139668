import Firestarter.FrameDecoding
import Firestarter.RunningClock

/-! A frame that never ends is given up: on a clock that goes on, the decoder returns from every
finite stream, one silence is enough for it, and without a delimiter it gives no payload. -/
namespace Firestarter

open Interactive Interactive.Prog

variable {env : Env} {w w' v : World} {quiet : Nat}

/-! ## One byte -/

/-- The decoder's loop waits for a byte only when none is there. -/
def readyByte : Fw Bool := do
  let buffered ← rurpCommunicationAvailable
  if buffered != 0 then pure true else awaitByte

/-- The next byte as the decoder's loop waits for it, or none after a silence of `TIMEOUT_MS`. -/
def hearByte : Fw (Option U8) := do
  if ← readyByte then rurpCommunicationRead else return none

/-- The link was silent: nothing is there, and this long the clock has gone on without a byte. -/
def SilentFor (ms : Nat) (w w' : World) : Prop :=
  w'.rx = [] ∧ ∃ started, w.now ≤ started ∧ started + ms ≤ w'.now

theorem returns_awaitTurn (env : Env) (v : World) (start : U32) :
    ((v.received env).rx ≠ [] ∧
      Returns env.watched (awaitTurn start) v (.inr true) (v.received env)) ∨
    ((v.received env).rx = [] ∧ Returns env.watched (awaitTurn start) v
      (if fsTimeoutExpired start timeoutMs (BitVec.ofNat 32 ((v.received env).looked env).now) then
        .inr false else .inl ()) ((v.received env).looked env)) := by
  by_cases empty : (v.received env).rx = []
  · refine Or.inr ⟨empty, ?_⟩
    have found : Returns env.watched rurpCommunicationAvailable v 0 (v.received env) :=
      .of_run fun _ => by
        rw [← List.length_eq_zero_iff] at empty
        exact congrArg (fun k => (some k, v.received env)) empty
    refine found.bind ?_
    refine (returns_millis env _).bind ?_
    refine .of_run fun _ => ?_
    unfold fsTimeoutExpired
    by_cases expired : timeoutMs ≤ BitVec.ofNat 32 ((v.received env).looked env).now - start
    · simp [expired]
    · simp [expired]
  · refine Or.inl ⟨empty, ?_⟩
    have found : Returns env.watched rurpCommunicationAvailable v (v.received env).rx.length
        (v.received env) := .of_run fun _ => rfl
    refine found.bind (.of_run fun _ => ?_)
    have some : (v.received env).rx.length ≠ 0 := by simpa using empty
    simp [some]

/-- A turn that goes round again brings the deadline of the wait nearer. -/
theorem awaitTurn_nearer {moves : Nat → Nat} {started : Nat} (clock : env.ClockRuns)
    (goesOn : ∀ w : World, moves w.now ≤ w.asked → 0 < env.elapse w) (begun : w.now ≤ started)
    (running : started ≤ v.now ∧ v.now < started + timeoutMs.toNat) :
    ∃ r v', Returns env.watched (awaitTurn (BitVec.ofNat 32 started)) v r v' ∧
      Sum.elim
        (fun _ => (started ≤ v'.now ∧ v'.now < started + timeoutMs.toNat) ∧
          clockMeasure moves (started + timeoutMs.toNat) v' <
            clockMeasure moves (started + timeoutMs.toNat) v)
        (fun came => (came = true → v'.rx ≠ []) ∧
          (came = false → SilentFor timeoutMs.toNat w v')) r := by
  obtain ⟨later, before⟩ := running
  rcases returns_awaitTurn env v (BitVec.ofNat 32 started) with ⟨some, returns⟩ | ⟨none, returns⟩
  · exact ⟨_, _, returns, fun _ => some, nofun⟩
  · refine ⟨_, _, returns, ?_⟩
    have shown : ((v.received env).looked env).now = v.now + env.elapse (v.received env) := rfl
    have step := clock.steps (v.received env)
    have small : timeoutMs.toNat = 1000 := by decide
    rcases expired : fsTimeoutExpired (BitVec.ofNat 32 started) timeoutMs
      (BitVec.ofNat 32 ((v.received env).looked env).now) with _ | _
    · have below := not_elapsed_of_running (by omega) expired (by omega)
      refine ⟨⟨by omega, below⟩, ?_⟩
      have asking : Later v (v.received env) := ⟨Nat.le_refl _, Nat.le_add_right ..⟩
      exact clock_nearer goesOn asking below ⟨Nat.le_refl _, Nat.le_refl _⟩
    · have elapsed := elapsed_of_expired (by omega) expired
      exact ⟨nofun, fun _ => ⟨none, started, begun, elapsed⟩⟩

/-- The bounded wait ends with a byte in the queue or after a silence. -/
theorem returns_awaitByte (clock : env.ClockRuns) (w : World) :
    ∃ came w', Returns env.watched awaitByte w came w' ∧
      (came = true → w'.rx ≠ []) ∧ (came = false → SilentFor timeoutMs.toNat w w') := by
  obtain ⟨moves, goesOn⟩ := Classical.axiomOfChoice clock.moves
  have begun : w.now ≤ (w.looked env).now := Nat.le_add_right ..
  have early : (w.looked env).now < (w.looked env).now + timeoutMs.toNat :=
    Nat.lt_add_of_pos_right (by decide)
  obtain ⟨came, w', loop, ended⟩ := loopReturns_of_measure
    (fun _ v => clockMeasure moves ((w.looked env).now + timeoutMs.toNat) v) _
    (fun _ v running => awaitTurn_nearer clock (fun v => goesOn v.now v rfl) begun running) ()
    (w.looked env) ⟨Nat.le_refl _, early⟩
  refine ⟨came, w', ?_, ended⟩
  unfold awaitByte
  exact (returns_millis env w).bind (returns_whileLoop loop)

/-- A byte was taken off the stream. -/
structure TookByte (quiet : Nat) (w w' : World) : Prop where
  now : w.now ≤ w'.now
  asked : w.asked < w'.asked
  rx : quiet ≤ w.asked → w'.rx.length < w.rx.length

theorem TookByte.after (took : TookByte quiet v w') (onward : Onward quiet w v) :
    TookByte quiet w w' :=
  ⟨onward.now.trans took.now, onward.asked.trans_lt took.asked, fun late =>
    (took.rx (late.trans onward.asked)).trans_le (onward.rx late)⟩

theorem TookByte.onward (took : TookByte quiet w v) (onward : Onward quiet v w') :
    TookByte quiet w w' :=
  ⟨took.now.trans onward.now, took.asked.trans_le onward.asked, fun late =>
    (onward.rx (late.trans took.asked.le)).trans_lt (took.rx late)⟩

theorem TookByte.nearer (took : TookByte quiet w w') :
    streamMeasure quiet w' < streamMeasure quiet w :=
  stream_nearer took.asked took.rx

theorem returns_available (env : Env) (w : World) :
    Returns env.watched rurpCommunicationAvailable w (w.received env).rx.length (w.received env) :=
  .of_run fun _ => rfl

/-- A byte that waits is read. -/
theorem returns_read (env : Env) (quiet : Nat) [SilentFrom env quiet] (waits : w.rx ≠ []) :
    ∃ b w', Returns env.watched rurpCommunicationRead w (some b) w' ∧ w'.now = w.now ∧
      TookByte quiet w w' := by
  obtain ⟨b, rest, queue⟩ := List.exists_cons_of_ne_nil waits
  refine ⟨b, { w.received env with rx := (w.received env).rx.tail }, .of_run fun n => ?_, rfl,
    Nat.le_refl _, Nat.lt_succ_self _, fun late => ?_⟩
  · have head : (w.rx ++ env.arrive w).head? = some b := by rw [queue]; rfl
    exact congrArg (fun r => (some r, { w.received env with rx := (w.received env).rx.tail })) head
  · show (w.rx ++ env.arrive w).tail.length < w.rx.length
    rw [SilentFrom.silent w late, queue]
    simp

section
variable (quiet) [SilentFrom env quiet]

theorem Onward.received (w : World) : Onward quiet w (w.received env) := by
  have within : Within env (Onward quiet) receive := inferInstance
  exact within.moves w

/-- A byte is there, or the link was silent. -/
theorem returns_readyByte (clock : env.ClockRuns) (w : World) :
    ∃ ready w', Returns env.watched readyByte w ready w' ∧ Onward quiet w w' ∧
      (ready = true → w'.rx ≠ []) ∧ (ready = false → SilentFor timeoutMs.toNat w w') := by
  have onward : Onward quiet w (w.received env) := Onward.received quiet w
  have looked := returns_available env w
  by_cases empty : (w.received env).rx = []
  · have idle : ((w.received env).rx.length != 0) = false := by simp [empty]
    obtain ⟨came, w', waited, found, silence⟩ := returns_awaitByte clock (w.received env)
    have waiting : Onward quiet (w.received env) w' := waited.moved fun _ => inferInstance
    refine ⟨came, w', looked.bind ?_, trans_of _ onward waiting, found, fun none => ?_⟩
    · rw [idle]
      exact waited
    · obtain ⟨quietly, started, since, gone⟩ := silence none
      exact ⟨quietly, started, onward.now.trans since, gone⟩
  · have busy : ((w.received env).rx.length != 0) = true := by simp [empty]
    refine ⟨true, w.received env, looked.bind ?_, onward, fun _ => empty,
      fun never => Bool.noConfusion never⟩
    rw [busy]
    exact .of_run fun _ => rfl

/-! ## Draining -/

/-- Whether a turn of the drain finds a byte; without the wait it takes no time to tell. -/
theorem returns_drainReady (clock : env.ClockRuns) (wait : Bool) (w : World) :
    ∃ ready w', Onward quiet w w' ∧ (wait = false → w'.now = w.now) ∧ (ready = true → w'.rx ≠ []) ∧
      Returns env.watched (do
        let buffered ← rurpCommunicationAvailable
        if buffered != 0 then pure true else if wait then awaitByte else pure false)
        w ready w' := by
  cases wait with
  | true =>
    obtain ⟨ready, w', waited, onward, found, -⟩ := returns_readyByte quiet clock w
    exact ⟨ready, w', onward, fun never => Bool.noConfusion never, found, waited⟩
  | false =>
    have onward : Onward quiet w (w.received env) := Onward.received quiet w
    refine ⟨(w.received env).rx.length != 0, w.received env, onward, fun _ => rfl, ?_, ?_⟩
    · simp
    · refine (returns_available env w).bind (.of_run fun _ => ?_)
      cases (w.received env).rx.length != 0 <;> rfl

/-- Every turn that goes round again took a byte; without the wait it takes no time. -/
theorem returns_drainTurn (clock : env.ClockRuns) (wait : Bool) (w : World) :
    ∃ r w', Returns env.watched (drainTurn wait) w r w' ∧ (wait = false → w'.now = w.now) ∧
      Sum.elim (fun _ => TookByte quiet w w') (fun _ => True) r := by
  obtain ⟨ready, v, onward, still, found, waited⟩ :=
    returns_drainReady quiet clock wait w
  have turn {r : Unit ⊕ Unit} {w' : World} (rest : Returns env.watched (do
        if ready then
          let d ← rurpCommunicationRead
          if d == none || d == some 0 then return .inr () else return .inl ()
        else return .inr ()) v r w') : Returns env.watched (drainTurn wait) w r w' := by
    unfold drainTurn
    rw [← bind_assoc]
    exact waited.bind rest
  cases ready with
  | false => exact ⟨.inr (), v, turn (.of_run fun _ => rfl), still, trivial⟩
  | true =>
    obtain ⟨b, w', read, same, took⟩ := returns_read env quiet (found rfl)
    have still' (short : wait = false) : w'.now = w.now := same.trans (still short)
    by_cases zero : b = 0
    · exact ⟨.inr (), w', turn (read.bind (.of_run fun _ => by simp [zero])), still', trivial⟩
    · have more : (some b == none || some b == some 0) = false := by simpa using zero
      exact ⟨.inl (), w', turn (read.bind (.of_run fun _ => by rw [more]; rfl)), still',
        took.after onward⟩

/-- Draining returns; when it does not wait, no time goes by. -/
theorem returns_drain (clock : env.ClockRuns) (stream : env.StreamEnds) (wait : Bool) (w : World) :
    ∃ w', Returns env.watched (drainToDelimiter wait) w () w' ∧
      (wait = false → w'.now = w.now) := by
  obtain ⟨quiet, _⟩ := stream
  obtain ⟨r, w', loop, still⟩ := loopReturns_of_measure (fun _ v => streamMeasure quiet v)
    (fun _ v => wait = false → v.now = w.now) (fun _ v kept => by
      obtain ⟨r, v', turn, still, took⟩ := returns_drainTurn quiet clock wait v
      have kept' (short : wait = false) : v'.now = w.now := (still short).trans (kept short)
      refine ⟨r, v', turn, ?_⟩
      cases r with
      | inl _ => exact ⟨kept', took.nearer⟩
      | inr _ => exact kept') () w fun _ => rfl
  refine ⟨w', ?_, still⟩
  unfold drainToDelimiter
  exact returns_whileLoop loop

end

/-! ## The decoder's loop -/

/-- A turn of the decoder once it has its byte. -/
def decodeHeard (cap : Nat) (d : Decoder) (byte : U8) : Fw (Decoder ⊕ Except Int Decoder) := do
  if byte == 0 then
    if d.blockRemaining != 0 then return .inr (.error (-3)) else return .inr (.ok d)
  else
    match ← decodeByte cap d byte with
    | none => return .inr (.error (-2))
    | some d => return .inl d

variable {cap : Nat} {d : Decoder}

/-- A read that finds nothing is drained like an overflow. -/
def decodeTaken (cap : Nat) (d : Decoder) : Option U8 → Fw (Decoder ⊕ Except Int Decoder)
  | none => do
    drainToDelimiter true
    return .inr (.error (-1))
  | some byte => decodeHeard cap d byte

theorem decodeTurn_eq : decodeTurn cap d = (do
    if ← readyByte then decodeTaken cap d (← rurpCommunicationRead)
    else
      drainToDelimiter false
      return .inr (.error (-1))) := by
  unfold decodeTurn readyByte decodeTaken decodeHeard
  exact (bind_assoc _ _ _).symm

/-- What a turn makes of the byte it hears, or of the silence. -/
inductive DecodeTurned (env : Env) (quiet cap : Nat) (d : Decoder) (v : World) :
    (Decoder ⊕ Except Int Decoder) → World → Prop
  | byte {b : U8} {v₁ v' : World} {d' : Decoder} : Returns env.watched hearByte v (some b) v₁ →
      b ≠ 0 → TookByte quiet v v' → DecodeTurned env quiet cap d v (.inl d') v'
  | delimiter {v' : World} {r : Except Int Decoder} : Returns env.watched hearByte v (some 0) v' →
      r = .ok d ∨ r = .error (-3) → DecodeTurned env quiet cap d v (.inr r) v'
  | overflow {b : U8} {v₁ v' : World} : Returns env.watched hearByte v (some b) v₁ → b ≠ 0 →
      DecodeTurned env quiet cap d v (.inr (.error (-2))) v'
  | silence {v₁ v' : World} : Returns env.watched hearByte v none v₁ →
      SilentFor timeoutMs.toNat v v₁ → v'.now = v₁.now →
      DecodeTurned env quiet cap d v (.inr (.error (-1))) v'

theorem returns_pushDecoded (clock : env.ClockRuns) (stream : env.StreamEnds) (cap : Nat)
    (d : Decoder) (b : U8) (w : World) :
    ∃ next w', Returns env.watched (pushDecoded cap d b) w next w' := by
  unfold pushDecoded
  split
  · split
    · obtain ⟨w', drained, -⟩ := returns_drain clock stream true w
      exact ⟨none, w', drained.bind (.of_run fun _ => rfl)⟩
    · exact ⟨_, _, .of_run fun _ => rfl⟩
  · exact ⟨_, _, .of_run fun _ => rfl⟩

theorem returns_decodeByte (clock : env.ClockRuns) (stream : env.StreamEnds) (cap : Nat)
    (d : Decoder) (b : U8) (w : World) :
    ∃ next w', Returns env.watched (decodeByte cap d b) w next w' := by
  unfold decodeByte
  split
  · obtain ⟨next, w', pushed⟩ := returns_pushDecoded clock stream cap d b w
    exact ⟨_, w', pushed.bind (.of_run fun _ => rfl)⟩
  · split
    · obtain ⟨next, w', pushed⟩ := returns_pushDecoded clock stream cap d 0 w
      exact ⟨_, w', pushed.bind (.of_run fun _ => rfl)⟩
    · exact ⟨_, w, .of_run fun _ => rfl⟩

theorem returns_decodeHeard (clock : env.ClockRuns) (stream : env.StreamEnds) (cap : Nat)
    (d : Decoder) {b : U8} (nonzero : b ≠ 0) (w : World) :
    ∃ next w', Returns env.watched (decodeByte cap d b) w next w' ∧
      Returns env.watched (decodeHeard cap d b) w (next.elim (.inr (.error (-2))) .inl) w' := by
  obtain ⟨next, w', decoded⟩ := returns_decodeByte clock stream cap d b w
  refine ⟨next, w', decoded, ?_⟩
  have zero : (b == 0) = false := by simpa using nonzero
  unfold decodeHeard
  rw [zero]
  refine decoded.bind (.of_run fun _ => ?_)
  cases next <;> rfl

theorem returns_decodeTurn (quiet : Nat) [SilentFrom env quiet] (clock : env.ClockRuns) (cap : Nat)
    (d : Decoder) (v : World) :
    ∃ r v', Returns env.watched (decodeTurn cap d) v r v' ∧
      DecodeTurned env quiet cap d v r v' := by
  have stream : env.StreamEnds := ⟨quiet, inferInstance⟩
  obtain ⟨ready, v₁, waited, onward, found, silent⟩ :=
    returns_readyByte quiet clock v
  rw [decodeTurn_eq]
  cases ready with
  | false =>
    obtain ⟨v', drained, still⟩ := returns_drain clock stream false v₁
    exact ⟨_, v', waited.bind (drained.bind (.of_run fun _ => rfl)),
      .silence (waited.bind (.of_run fun _ => rfl)) (silent rfl) (still rfl)⟩
  | true =>
    obtain ⟨b, v₂, read, -, took⟩ := returns_read env quiet (found rfl)
    have took := took.after onward
    have heard : Returns env.watched hearByte v (some b) v₂ := waited.bind read
    by_cases zero : b = 0
    · subst zero
      by_cases inside : d.blockRemaining = 0
      · refine ⟨.inr (.ok d), v₂, waited.bind (read.bind (.of_run fun _ => ?_)),
          .delimiter heard (.inl rfl)⟩
        simp [decodeTaken, decodeHeard, inside]
      · refine ⟨.inr (.error (-3)), v₂, waited.bind (read.bind (.of_run fun _ => ?_)),
          .delimiter heard (.inr rfl)⟩
        have more : (d.blockRemaining != 0) = true := by simpa using inside
        unfold decodeTaken decodeHeard
        rw [more]
        rfl
    · obtain ⟨next, v', decoded, turned⟩ :=
        returns_decodeHeard clock stream cap d zero v₂
      have onward : Onward quiet v₂ v' := decoded.moved fun _ => inferInstance
      refine ⟨_, v', waited.bind (read.bind turned), ?_⟩
      cases next with
      | none => exact .overflow heard zero
      | some d' => exact .byte heard zero (took.onward onward)

/-! ## The whole frame -/

/-- The decoder has heard these bytes, none of them a delimiter, and no silence. -/
inductive DecodingSo (env : Env) (cap : Nat) (w : World) : List U8 → Decoder → World → Prop
  | begun : DecodingSo env cap w [] {} w
  | byte {heard : List U8} {d d' : Decoder} {v v₁ v' : World} {b : U8} :
      DecodingSo env cap w heard d v → Returns env.watched hearByte v (some b) v₁ → b ≠ 0 →
      Returns env.watched (decodeTurn cap d) v (.inl d') v' →
      DecodingSo env cap w (heard ++ [b]) d' v'

theorem DecodingSo.onward {heard : List U8} {r : Except Int Decoder}
    (hears : DecodingSo env cap w heard d v)
    (rest : LoopReturns env.watched (decodeTurn cap) d v r w') :
    LoopReturns env.watched (decodeTurn cap) {} w r w' := by
  induction hears with
  | begun => exact rest
  | byte _ _ _ turn ih => exact ih (rest.again turn)

/-- The decoder's loop is left after a delimiter, or with a failure. -/
theorem returns_decodeLoop (clock : env.ClockRuns) (stream : env.StreamEnds) (cap : Nat)
    (w : World) :
    ∃ r w', LoopReturns env.watched (decodeTurn cap) {} w r w' ∧
      ((∃ heard d v, DecodingSo env cap w heard d v ∧ Returns env.watched hearByte v (some 0) w') ∨
        ∃ code < 0, r = .error code) := by
  obtain ⟨quiet, _⟩ := stream
  refine loopReturns_of_measure (fun _ v => streamMeasure quiet v)
    (fun d v => ∃ heard, DecodingSo env cap w heard d v) (fun d v kept => ?_) {} w ⟨[], .begun⟩
  obtain ⟨heard, hears⟩ := kept
  obtain ⟨r, v', turn, turned⟩ := returns_decodeTurn quiet clock cap d v
  refine ⟨r, v', turn, ?_⟩
  cases turned with
  | byte byte nonzero took => exact ⟨⟨_, hears.byte byte nonzero turn⟩, took.nearer⟩
  | delimiter zero _ => exact Or.inl ⟨heard, d, v, hears, zero⟩
  | overflow => exact Or.inr ⟨-2, by decide, rfl⟩
  | silence => exact Or.inr ⟨-1, by decide, rfl⟩

/-- It changes nothing, and a failure of the loop is the result. -/
theorem returns_decodeEnd (env : Env) (r : Except Int Decoder) (w : World) :
    ∃ n, Returns env.watched (decodeEnd r) w n w ∧ ∀ code, r = .error code → n = code := by
  cases r with
  | error code =>
    refine ⟨code, .of_run fun _ => rfl, fun code' same => ?_⟩
    exact Except.error.inj same
  | ok d =>
    have other (n code : Int) (never : (.ok d : Except Int Decoder) = .error code) : n = code := by
      cases never
    unfold decodeEnd
    dsimp only
    split
    · have held : Returns env.watched getHandle w w.handle w := .of_run fun _ => rfl
      by_cases valid :
        (crc8 ((List.range d.out).map w.handle.dataBuffer) == d.lastByte) = true
      · refine ⟨d.out, held.bind ?_, other _⟩
        rw [if_pos valid]
        exact .of_run fun _ => rfl
      · refine ⟨-4, held.bind ?_, other _⟩
        rw [if_neg valid]
        exact .of_run fun _ => rfl
    · exact ⟨-1, .of_run fun _ => rfl, other _⟩

/-- The decoder returns what is made of its loop. -/
theorem returns_readData {r : Except Int Decoder}
    (loop : LoopReturns env.watched (decodeTurn cap) {} w r w') :
    ∃ n, Returns env.watched (rurpCommunicationReadData cap) w n w' ∧
      ∀ code, r = .error code → n = code := by
  obtain ⟨n, ended, failure⟩ := returns_decodeEnd env r w'
  refine ⟨n, ?_, failure⟩
  unfold rurpCommunicationReadData
  exact (returns_whileLoop loop).bind ended

/-- From every finite stream and on every clock that goes on, the decoder returns; what is no
failure came with a delimiter before any silence; and after one silence it waits no more. -/
theorem frame_reception_returns (clock : env.ClockRuns) (stream : env.StreamEnds) (cap : Nat)
    (w : World) :
    ∃ n w', Returns env.watched (rurpCommunicationReadData cap) w n w' ∧
      (0 ≤ n → ∃ heard d v, DecodingSo env cap w heard d v ∧
        Returns env.watched hearByte v (some 0) w') ∧
      ∀ heard d v v₁, DecodingSo env cap w heard d v → Returns env.watched hearByte v none v₁ →
        SilentFor timeoutMs.toNat v v₁ ∧ n = -1 ∧ w'.now = v₁.now := by
  obtain ⟨r, w', loop, ended⟩ := returns_decodeLoop clock stream cap w
  obtain ⟨n, returns, failure⟩ := returns_readData loop
  refine ⟨n, w', returns, fun payload => ?_, fun heard d v v₁ hears silent => ?_⟩
  · rcases ended with delimited | ⟨code, negative, failed⟩
    · exact delimited
    · have := failure code failed
      omega
  · obtain ⟨quiet, _⟩ := stream
    obtain ⟨r', v', turn, turned⟩ := returns_decodeTurn quiet clock cap d v
    have other {b : U8} {v₂ : World} (byte : Returns env.watched hearByte v (some b) v₂) : False :=
      Option.some_ne_none b (byte.unique silent).1
    cases turned with
    | byte byte => exact (other byte).elim
    | delimiter byte => exact (other byte).elim
    | overflow byte => exact (other byte).elim
    | silence silent' gone still =>
      obtain ⟨-, rfl⟩ := silent.unique silent'
      obtain ⟨n', returns', failure'⟩ := returns_readData (hears.onward (.leave turn))
      obtain ⟨rfl, rfl⟩ := returns.unique returns'
      exact ⟨gone, failure' _ rfl, still⟩

/-- A frame cut off inside its block, shortly before the clock wraps. -/
theorem frame_reception_returns_cut :
    ∃ n w', Returns (Env.ticking ⟨.uno, false⟩).watched (rurpCommunicationReadData 4)
        { latches := ⟨0, 0, 0⟩, stored := none, rx := [3, 0x41], now := 2 ^ 32 - 5 } n w' ∧
      (0 ≤ n → ∃ heard d v, DecodingSo (Env.ticking ⟨.uno, false⟩) 4
        { latches := ⟨0, 0, 0⟩, stored := none, rx := [3, 0x41], now := 2 ^ 32 - 5 } heard d v ∧
        Returns (Env.ticking ⟨.uno, false⟩).watched hearByte v (some 0) w') := by
  obtain ⟨n, w', returns, payload, -⟩ := frame_reception_returns
    (Env.ticking_clockRuns ⟨.uno, false⟩) (Env.ticking_streamEnds ⟨.uno, false⟩) 4
    { latches := ⟨0, 0, 0⟩, stored := none, rx := [3, 0x41], now := 2 ^ 32 - 5 }
  exact ⟨n, w', returns, payload⟩

end Firestarter
