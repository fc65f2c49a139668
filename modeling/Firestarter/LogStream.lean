import Firestarter.SelfDelimiting
import Firestarter.Serial

/-! The bytes of the log and response frames (`_firestarter_emit_frame_wide`), and the stream they
make: the length field alone says where a frame ends, whatever its parameters are. -/
namespace Firestarter

open Interactive SelfDelimiting

/-! ## The bytes of a frame -/

def magicPreamble : List U8 := [0xAA, 0x55, 0xAA, 0x55]

/-- What a sender hands to `_firestarter_emit_frame_wide`. -/
structure LogFrame where
  id : U8
  params : List U8

/-- Id, parameters and CRC, as the length field counts them; all in 16 bits. -/
def LogFrame.lenU16 (f : LogFrame) : U16 := BitVec.ofNat 16 (1 + f.params.length + 1)

/-- `_firestarter_emit_frame_wide`, byte by byte. -/
def LogFrame.bytes (f : LogFrame) : List U8 :=
  if f.params.length > 65533 then []
  else magicPreamble ++ bytes16 f.lenU16 ++ f.id :: f.params ++
    [(f.id :: f.params).foldl crc8Ccitt 0, 0x0A]

/-- What an event puts on the wire. -/
def Event.onWire : Event → List U8
  | .emitted id params => LogFrame.bytes ⟨id, params⟩
  | .printed text => text
  | _ => []

/-- All that has gone out on the wire, oldest first. -/
def World.wire (w : World) : List U8 := w.trace.reverse.flatMap Event.onWire

/-- An emission puts the bytes of its frame on the wire, which are none when it does not fit. -/
theorem ends_emit (env : Env) (w : World) (f : LogFrame) :
    Ends (firestarterEmitFrameWide f.id f.params) env w
      (fun _ w' => w'.wire = w.wire ++ f.bytes) (fun _ => False) := by
  unfold firestarterEmitFrameWide
  refine Ends.when (fun small => ?_) (fun large => ?_)
  · rw [ends_note]
    simp [World.wire, Event.onWire]
  · have long : f.params.length > 65533 := by simpa using large
    rw [LogFrame.bytes, if_pos long, List.append_nil]

/-! ## Reading a frame back -/

/-- The framing of the host: magic, length, then as many bytes as the length says, and the anchor. -/
def readLogFrame : List U8 → Option (LogFrame × List U8)
  | m₀ :: m₁ :: m₂ :: m₃ :: hi :: lo :: id :: s =>
    let length := hi.toNat * 256 + lo.toNat
    let params := s.take (length - 2)
    match s.drop (length - 2) with
    | crc :: anchor :: rest =>
      if [m₀, m₁, m₂, m₃] = magicPreamble ∧ 2 ≤ length ∧ crc8 (id :: params) = crc ∧ anchor = 0x0A
      then some (⟨id, params⟩, rest)
      else none
    | _ => none
  | _ => none

theorem bytes16_pair_iff (v : U16) (hi lo : U8) :
    bytes16 v = [hi, lo] ↔ v.toNat = hi.toNat * 256 + lo.toNat := by
  have high := hi.isLt
  have low := lo.isLt
  have small := v.isLt
  have top : ((v >>> 8).setWidth 8 : U8).toNat = v.toNat / 256 := by
    rw [BitVec.toNat_setWidth, BitVec.toNat_ushiftRight, Nat.shiftRight_eq_div_pow]
    omega
  have bottom : (v.setWidth 8 : U8).toNat = v.toNat % 256 := BitVec.toNat_setWidth ..
  unfold bytes16
  rw [List.cons.injEq, List.cons.injEq, ← BitVec.toNat_inj, ← BitVec.toNat_inj, top, bottom]
  simp only [and_true]
  omega

theorem toNat_lenU16 (f : LogFrame) (fits : f.params.length ≤ 65533) :
    f.lenU16.toNat = f.params.length + 2 := by
  unfold LogFrame.lenU16
  rw [BitVec.toNat_ofNat]
  omega

theorem LogFrame.bytes_of_fits (f : LogFrame) (fits : f.params.length ≤ 65533) :
    f.bytes = magicPreamble ++ bytes16 f.lenU16 ++
      f.id :: (f.params ++ [crc8 (f.id :: f.params), 0x0A]) := by
  unfold LogFrame.bytes
  rw [if_neg (Nat.not_lt.mpr fits), List.append_assoc, List.cons_append]
  rfl

/-- The reader takes the bytes of a frame, whatever stands after them, and nothing else. -/
theorem readLogFrame_eq_some_iff (s : List U8) (f : LogFrame) (rest : List U8) :
    readLogFrame s = some (f, rest) ↔ f.params.length ≤ 65533 ∧ s = f.bytes ++ rest := by
  constructor
  · intro read
    unfold readLogFrame at read
    split at read
    · rename_i m₀ m₁ m₂ m₃ hi lo id s
      dsimp only at read
      split at read
      · rename_i crc anchor rest' tail
        split at read
        · rename_i good
          obtain ⟨magic, wide, rfl, rfl⟩ := good
          obtain ⟨rfl, rfl⟩ := Prod.mk.inj (Option.some.inj read)
          have high := hi.isLt
          have low := lo.isLt
          have whole : (s.take (hi.toNat * 256 + lo.toNat - 2)).length =
              hi.toNat * 256 + lo.toNat - 2 := by
            have dropped := congrArg List.length tail
            simp only [List.length_drop, List.length_cons] at dropped
            rw [List.length_take]
            omega
          have fits : (s.take (hi.toNat * 256 + lo.toNat - 2)).length ≤ 65533 := by omega
          refine ⟨fits, ?_⟩
          have counted : bytes16 (LogFrame.lenU16 ⟨id, s.take (hi.toNat * 256 + lo.toNat - 2)⟩) =
              [hi, lo] := by
            rw [bytes16_pair_iff, toNat_lenU16 _ fits]
            dsimp only
            omega
          rw [LogFrame.bytes_of_fits _ fits, counted, ← magic]
          have split := List.take_append_drop (hi.toNat * 256 + lo.toNat - 2) s
          rw [tail] at split
          simp only [List.append_assoc, List.cons_append, List.nil_append, List.cons.injEq, true_and]
          exact split.symm
        · cases read
      · cases read
    · cases read
  · rintro ⟨fits, rfl⟩
    rcases bytes : bytes16 f.lenU16 with _ | ⟨hi, _ | ⟨lo, _ | _⟩⟩
    · cases bytes
    · cases bytes
    · have length := (bytes16_pair_iff _ hi lo).mp bytes
      rw [toNat_lenU16 f fits] at length
      rw [LogFrame.bytes_of_fits f fits, bytes]
      simp [readLogFrame, magicPreamble, ← length]
    · cases bytes

/-- The frames of the wire, as records that tell where they end. -/
def logFraming : Framing LogFrame U8 where
  write := LogFrame.bytes
  Fits f := f.params.length ≤ 65533
  read := readLogFrame
  read_eq_some_iff := readLogFrame_eq_some_iff
  write_ne_nil f fits := by
    rw [LogFrame.bytes_of_fits f fits]
    exact nofun

/-! ## The stream -/

/-- The emissions that do not fit leave no trace in the stream. -/
theorem flatMap_bytes_filter (emissions : List LogFrame) :
    emissions.flatMap LogFrame.bytes =
      (emissions.filter fun f => f.params.length ≤ 65533).flatMap LogFrame.bytes := by
  induction emissions with
  | nil => rfl
  | cons f emissions ih =>
    by_cases fits : f.params.length ≤ 65533
    · rw [List.filter_cons_of_pos (by simpa using fits), List.flatMap_cons, List.flatMap_cons, ih]
    · have none : f.bytes = [] := if_pos (Nat.lt_of_not_ge fits)
      rw [List.filter_cons_of_neg (by simpa using fits), List.flatMap_cons, none, ih]
      rfl

theorem ends_emissions (env : Env) (w : World) (emissions : List LogFrame) :
    Ends (emissions.forM fun f => firestarterEmitFrameWide f.id f.params) env w
      (fun _ w' => w'.wire = w.wire ++ emissions.flatMap LogFrame.bytes) (fun _ => False) := by
  induction emissions generalizing w with
  | nil => exact (List.append_nil w.wire).symm
  | cons f emissions ih =>
    refine (ends_bind _ _).mpr ?_
    refine (ends_emit env w f).mono (fun _ w₁ first => ?_) fun _ => id
    refine (ih w₁).mono (fun _ w₂ later => ?_) fun _ => id
    rw [later, first, List.flatMap_cons, List.append_assoc]

theorem readAll_emissions (emissions : List LogFrame) :
    logFraming.readAll (emissions.flatMap LogFrame.bytes) =
      some (emissions.filter fun f => f.params.length ≤ 65533) := by
  rw [Framing.readAll_eq_some_iff]
  refine ⟨fun f member => ?_, flatMap_bytes_filter emissions⟩
  have fits : f.params.length ≤ 65533 := by simpa using (List.mem_filter.mp member).2
  exact fits

/-- Any sequence of emissions puts a stream on the wire that reads back as exactly those of them
with at most 65533 parameter bytes, in their order; an emission with more puts nothing there. -/
theorem log_stream_self_delimiting (env : Env) (w : World) (emissions : List LogFrame) :
    Ends (emissions.forM fun f => firestarterEmitFrameWide f.id f.params) env w
      (fun _ w' => ∃ stream, w'.wire = w.wire ++ stream ∧
        stream = emissions.flatMap LogFrame.bytes ∧
        logFraming.readAll stream = some (emissions.filter fun f => f.params.length ≤ 65533))
      (fun _ => False) ∧
    ∀ f : LogFrame, 65533 < f.params.length →
      f.bytes = [] ∧ firestarterEmitFrameWide f.id f.params env w = (some (), w) := by
  refine ⟨?_, fun f long => ⟨if_pos long, ?_⟩⟩
  · refine (ends_emissions env w emissions).mono (fun _ w' sent => ?_) fun _ => id
    exact ⟨_, sent, rfl, readAll_emissions emissions⟩
  · have silent : decide (f.params.length ≤ 65533) = false := by simpa using long
    unfold firestarterEmitFrameWide
    rw [silent]
    rfl

/-- Parameters that look like a frame of their own are parameters all the same. -/
example :
    let inner : LogFrame := ⟨0x41, [0x0A]⟩
    (readLogFrame (LogFrame.bytes ⟨0xA0, inner.bytes⟩ ++ inner.bytes)).map
      (fun r => (r.1.params, r.2)) = some (inner.bytes, inner.bytes) := by decide

end Firestarter
