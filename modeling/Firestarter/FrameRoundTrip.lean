import Firestarter.FrameDecoding

/-! The frame encoder against the decoder: the runs it writes are blocks that stand for the payload
and its CRC, so what is read back is what was written. -/
namespace Firestarter

open Interactive

/-! ## Runs as blocks -/

/-- The block of a run that is not yet full. -/
def runBlock (run : List U8) (short : run.length ≤ 254) : Cobs.Block where
  code := BitVec.ofNat 8 (run.length + 1)
  bytes := run
  fits := by
    rw [BitVec.toNat_ofNat, Nat.mod_eq_of_lt]
    omega

/-- Only the longest run stands for no zero. -/
theorem runBlock_hasZero {run : List U8} (short : run.length ≤ 253) :
    (runBlock run (by omega)).hasZero = true := by
  have code : BitVec.ofNat 8 (run.length + 1) ≠ 0xFF#8 := by
    intro full
    have full := congrArg BitVec.toNat full
    rw [BitVec.toNat_ofNat, Nat.mod_eq_of_lt (by omega)] at full
    change run.length + 1 = 255 at full
    omega
  exact bne_iff_ne.mpr code

theorem runBlock_full {run : List U8} (full : run.length = 254) :
    (runBlock run (by omega)).wire = 0xFF :: run ∧ (runBlock run (by omega)).hasZero = false := by
  have code : BitVec.ofNat 8 (run.length + 1) = 0xFF#8 := by rw [full]
  constructor
  · exact congrArg (· :: run) code
  · show (BitVec.ofNat 8 (run.length + 1) != 0xFF#8) = false
    rw [code]
    rfl

/-- What the run loop has written is made of blocks, and they and the run still open stand for the
bytes scanned. -/
structure RunsSpec (run rest written last : List U8) : Prop where
  zeroFree : 0 ∉ written
  lastZeroFree : 0 ∉ last
  lastShort : last.length ≤ 253
  blocks : ∃ blocks, Cobs.wire blocks = written ∧ ∀ owed,
    Cobs.joined owed blocks ++ Cobs.zeroIf (Cobs.owes owed blocks) ++ last =
      Cobs.zeroIf owed ++ run ++ rest

namespace RunsSpec

variable {run rest written last : List U8}

/-- The block of a run goes out before what is written later. -/
theorem cons {b : U8} (block : Cobs.Block) (before : List U8) (spec : RunsSpec [] rest written last)
    (zeroFree : 0 ∉ block.bytes)
    (stands : block.bytes ++ Cobs.zeroIf block.hasZero = before ++ [b]) :
    RunsSpec before (b :: rest) (block.wire ++ written) last where
  zeroFree := by
    intro member
    rcases List.mem_append.mp member with first | later
    · exact Cobs.Block.zero_not_mem_wire zeroFree first
    · exact spec.zeroFree later
  lastZeroFree := spec.lastZeroFree
  lastShort := spec.lastShort
  blocks := by
    obtain ⟨blocks, wire, joined⟩ := spec.blocks
    refine ⟨block :: blocks, ?_, fun owed => ?_⟩
    · rw [← wire]
      rfl
    · have later := joined block.hasZero
      calc Cobs.joined owed (block :: blocks) ++ Cobs.zeroIf (Cobs.owes owed (block :: blocks)) ++ last
        _ = Cobs.zeroIf owed ++ block.bytes ++
            (Cobs.joined block.hasZero blocks ++
              Cobs.zeroIf (Cobs.owes block.hasZero blocks) ++ last) := by
          simp only [Cobs.joined, Cobs.owes, List.append_assoc]
        _ = Cobs.zeroIf owed ++ (block.bytes ++ Cobs.zeroIf block.hasZero) ++ rest := by
          rw [later]
          simp only [List.append_nil, List.append_assoc]
        _ = Cobs.zeroIf owed ++ before ++ b :: rest := by
          rw [stands]
          simp only [List.append_assoc, List.cons_append, List.nil_append]

end RunsSpec

/-- A zero ends the run. -/
theorem encodeRuns_zero (run rest : List U8) :
    encodeRuns run (0 :: rest) =
      (BitVec.ofNat 8 (run.length + 1) :: run ++ (encodeRuns [] rest).1, (encodeRuns [] rest).2) :=
  rfl

/-- A full run ends without a zero. -/
theorem encodeRuns_full {b : U8} {run : List U8} (rest : List U8) (nonzero : b ≠ 0)
    (full : run.length + 1 = 254) :
    encodeRuns run (b :: rest) =
      (0xFF :: (run ++ [b]) ++ (encodeRuns [] rest).1, (encodeRuns [] rest).2) := by
  rw [encodeRuns, if_neg (by simpa using nonzero), if_pos (beq_iff_eq.mpr full)]
  simp

theorem encodeRuns_open {b : U8} {run : List U8} (rest : List U8) (nonzero : b ≠ 0)
    (short : run.length + 1 ≠ 254) :
    encodeRuns run (b :: rest) = encodeRuns (run ++ [b]) rest := by
  rw [encodeRuns, if_neg (by simpa using nonzero), if_neg (by simpa using short)]

theorem encodeRuns_spec (run rest : List U8) (short : run.length ≤ 253) (zeroFree : 0 ∉ run) :
    RunsSpec run rest (encodeRuns run rest).1 (encodeRuns run rest).2 := by
  induction rest generalizing run with
  | nil =>
    refine ⟨List.not_mem_nil, zeroFree, short, [], rfl, fun owed => ?_⟩
    simp [Cobs.joined, Cobs.owes, encodeRuns]
  | cons b rest ih =>
    have next := ih [] (Nat.zero_le _) List.not_mem_nil
    by_cases zero : b = 0
    · subst zero
      rw [encodeRuns_zero]
      refine next.cons (runBlock run (by omega)) run zeroFree ?_
      rw [runBlock_hasZero short]
      rfl
    · have added : 0 ∉ run ++ [b] := by
        intro member
        rcases List.mem_append.mp member with old | new
        · exact zeroFree old
        · exact zero (List.mem_singleton.mp new).symm
      have length : (run ++ [b]).length = run.length + 1 := by simp
      by_cases full : run.length + 1 = 254
      · rw [encodeRuns_full rest zero full]
        obtain ⟨wire, noZero⟩ := runBlock_full (length.trans full)
        rw [← wire]
        refine next.cons (runBlock (run ++ [b]) (by omega)) run added ?_
        rw [noZero]
        exact List.append_nil _
      · rw [encodeRuns_open rest zero full]
        have spec := ih (run ++ [b]) (by omega) added
        obtain ⟨blocks, wire, joined⟩ := spec.blocks
        exact ⟨spec.zeroFree, spec.lastZeroFree, spec.lastShort, blocks, wire,
          fun owed => by simpa using joined owed⟩

/-! ## The frame -/

/-- The bytes of a frame before its delimiter. -/
def frameBody (payload : List U8) : List U8 := (communicationFrame payload).dropLast

theorem communicationFrame_eq (payload : List U8) :
    communicationFrame payload = frameBody payload ++ [0] := by
  rw [frameBody]
  show _ = (_ ++ [0]).dropLast ++ [0]
  rw [List.dropLast_concat]
  rfl

/-- The CRC closes the last run, or opens one more when it is zero itself. -/
theorem tail_spec {run : List U8} (crc : U8) (short : run.length ≤ 253) (zeroFree : 0 ∉ run) :
    ∃ blocks, Cobs.wire blocks =
        (if crc == 0 then BitVec.ofNat 8 (run.length + 1) :: (run ++ [0x01])
          else BitVec.ofNat 8 (run.length + 2) :: (run ++ [crc])) ∧
      0 ∉ Cobs.wire blocks ∧
      ∀ owed, Cobs.joined owed blocks = Cobs.zeroIf owed ++ run ++ [crc] := by
  by_cases zero : crc = 0
  · subst zero
    have first := Cobs.Block.zero_not_mem_wire (b := runBlock run (by omega)) zeroFree
    have second := Cobs.Block.zero_not_mem_wire (b := runBlock [] (by simp)) List.not_mem_nil
    refine ⟨[runBlock run (by omega), runBlock [] (by simp)], rfl, ?_, fun owed => ?_⟩
    · intro member
      rw [Cobs.wire, List.flatMap_cons, List.flatMap_cons, List.flatMap_nil, List.append_nil] at member
      exact (List.mem_append.mp member).elim first second
    · rw [Cobs.joined, Cobs.joined, Cobs.joined, runBlock_hasZero short]
      rfl
  · have added : 0 ∉ run ++ [crc] := by
      intro member
      rcases List.mem_append.mp member with old | new
      · exact zeroFree old
      · exact zero (List.mem_singleton.mp new).symm
    have length : (run ++ [crc]).length = run.length + 1 := by simp
    have only := Cobs.Block.zero_not_mem_wire (b := runBlock (run ++ [crc]) (by omega)) added
    refine ⟨[runBlock (run ++ [crc]) (by omega)], ?_, ?_, fun owed => ?_⟩
    · rw [if_neg (by simpa using zero), Cobs.wire, List.flatMap_cons, List.flatMap_nil, List.append_nil]
      show BitVec.ofNat 8 ((run ++ [crc]).length + 1) :: (run ++ [crc]) = _
      rw [length]
    · rw [Cobs.wire, List.flatMap_cons, List.flatMap_nil, List.append_nil]
      exact only
    · rw [Cobs.joined, Cobs.joined, List.append_nil, List.append_assoc]
      rfl

/-- The body of a frame has no zero and stands for the payload and its CRC. -/
theorem frameBody_spec (payload : List U8) :
    0 ∉ frameBody payload ∧ Cobs.Decodes (frameBody payload) (payload ++ [crc8 payload]) := by
  have spec := encodeRuns_spec [] payload (Nat.zero_le _) List.not_mem_nil
  obtain ⟨blocks, written, joined⟩ := spec.blocks
  obtain ⟨last, onWire, zeroFree, closes⟩ :=
    tail_spec (crc8 payload) spec.lastShort spec.lastZeroFree
  have body : frameBody payload = Cobs.wire (blocks ++ last) := by
    have split : Cobs.wire (blocks ++ last) = Cobs.wire blocks ++ Cobs.wire last :=
      List.flatMap_append
    rw [split, written, onWire]
    exact List.dropLast_concat
  refine ⟨?_, blocks ++ last, body.symm, ?_⟩
  · have split : Cobs.wire (blocks ++ last) = Cobs.wire blocks ++ Cobs.wire last :=
      List.flatMap_append
    rw [body, split, written]
    intro member
    exact (List.mem_append.mp member).elim spec.zeroFree zeroFree
  · rw [← Cobs.joined_false, Cobs.joined_append, closes, ← List.append_assoc, ← List.append_assoc,
      joined]
    rfl

/-- What is sent for a payload has no zero but its last byte, and a receiver whose buffer holds the
payload reads exactly it and takes all that was sent. -/
theorem frame_round_trip (env receiver : Env) (sender w : World) (cap : Nat)
    (payload after : List U8) (fits : payload.length ≤ cap)
    (waiting : w.rx = communicationFrame payload ++ after)
    (turns : (communicationFrame payload).length ≤ receiver.turns) :
    rurpCommunicationWrite payload env sender =
        (some (), { sender with trace := .printed (communicationFrame payload) :: sender.trace }) ∧
      (∃ body, communicationFrame payload = body ++ [0] ∧ 0 ∉ body) ∧
      ∃ w', rurpCommunicationReadData cap receiver w = (some (payload.length : Int), w') ∧
        (List.range payload.length).map w'.handle.dataBuffer = payload ∧ Resynced w' after := by
  obtain ⟨zeroFree, decodes⟩ := frameBody_spec payload
  have shape := communicationFrame_eq payload
  have queue : w.rx = frameBody payload ++ 0 :: after := by
    rw [waiting, shape, List.append_assoc]
    rfl
  have short : (frameBody payload).length < receiver.turns := by
    rw [shape, List.length_append] at turns
    exact turns
  have read := ends_readData receiver w cap (frameBody payload) after zeroFree queue short
  refine ⟨rfl, ⟨_, shape, zeroFree⟩, ?_⟩
  unfold Ends at read
  rcases ran : rurpCommunicationReadData cap receiver w with ⟨_ | n, w'⟩ <;> rw [ran] at read
  · exact read.elim
  · obtain ⟨resynced, -, exact⟩ := read
    obtain ⟨rfl, stored⟩ := (exact payload).mpr ⟨decodes, fits⟩
    exact ⟨w', rfl, stored, resynced.resynced⟩

/-- The byte 0x41 and a zero, there and back. -/
theorem frame_round_trip_two_bytes :
    communicationFrame [0x41, 0] = [2, 0x41, 2, 0x4E, 0] ∧
      ∃ w', rurpCommunicationReadData 2 (Env.still ⟨.uno, false⟩ 8)
          { latches := ⟨0, 0, 0⟩, stored := none, rx := [2, 0x41, 2, 0x4E, 0, 0x4F] } =
            (some 2, w') ∧
        (List.range 2).map w'.handle.dataBuffer = [0x41, 0] ∧ Resynced w' [0x4F] := by
  have sent : communicationFrame [0x41, 0] = [2, 0x41, 2, 0x4E, 0] := by decide
  obtain ⟨-, -, received⟩ := frame_round_trip (Env.still ⟨.uno, false⟩ 8)
    (Env.still ⟨.uno, false⟩ 8) { latches := ⟨0, 0, 0⟩, stored := none }
    { latches := ⟨0, 0, 0⟩, stored := none, rx := [2, 0x41, 2, 0x4E, 0, 0x4F] } 2 [0x41, 0] [0x4F]
    (by decide) (by rw [sent]; rfl) (by rw [sent]; decide)
  exact ⟨sent, received⟩

end Firestarter
