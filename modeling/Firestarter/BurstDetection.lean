import Firestarter.CyclicRedundancy
import Firestarter.FrameDecoding

/-! The CRC of a frame against damage: its table is division by `x^8 + x^2 + x + 1`, so no burst of
at most eight bits passes the check of the decoder, in a stream of any length and at any place. -/
namespace Firestarter

open CyclicRedundancy Polynomial Interactive

/-- The coefficients of `x^2 + x + 1`. -/
def crc8Low : U8 := 0x07

/-- An entry of the table is its index shifted through the register. -/
theorem crc8Table_entry : ∀ v : U8, crc8Table.getD v.toNat 0 = (shift crc8Low)^[8] v := by
  decide +kernel

theorem crc8_eq_remainder (bytes : List U8) : crc8 bytes = remainder crc8Low bytes := by
  unfold crc8 remainder
  congr 1
  funext crc b
  exact crc8Table_entry (crc ^^^ b)

theorem divisor_crc8Low : divisor crc8Low = X ^ 8 + X ^ 2 + X + 1 := by
  have bits : wordBits crc8Low = [false, false, false, false, false, true, true, true] := by decide
  unfold divisor ofWord
  rw [bits]
  simp [ofBits, coefficient]
  ring

/-- The altered stream has another last byte than the CRC of what is before it. -/
theorem crc8_ne_of_burst {payload rest : List U8} {last : U8}
    (burst : Burst 8 ((payload ++ [crc8 payload]).flatMap wordBits)
      ((rest ++ [last]).flatMap wordBits)) : crc8 rest ≠ last := by
  rw [crc8_eq_remainder] at burst ⊢
  exact remainder_ne_of_burst (by decide) rfl burst

/-- The CRC is the remainder of the payload, moved up by eight bits, by `x^8 + x^2 + x + 1`. A
payload with its CRC, altered inside any eight consecutive bits, never again ends in the CRC of what
is before its last byte, and a frame that decodes to the altered stream is given up as bad. -/
theorem crc8_detects_bursts (payload : List U8) :
    ofWord (crc8 payload) = (X ^ 8 * ofWords payload) %ₘ (X ^ 8 + X ^ 2 + X + 1) ∧
    ∀ altered : List U8,
      Burst 8 ((payload ++ [crc8 payload]).flatMap wordBits) (altered.flatMap wordBits) →
      (∀ rest last, altered = rest ++ [last] → crc8 rest ≠ last) ∧
      ∀ (env : Env) (w : World) (cap : Nat) (body after : List U8), 0 ∉ body →
        w.rx = body ++ 0 :: after → body.length < env.turns → Cobs.Decodes body altered →
        Ends (rurpCommunicationReadData cap) env w (fun n _ => n < 0) (fun _ => False) := by
  refine ⟨?_, fun altered burst => ?_⟩
  · rw [crc8_eq_remainder, ofWord_remainder, divisor_crc8Low]
  · have differs : ∀ rest last, altered = rest ++ [last] → crc8 rest ≠ last := by
      rintro rest last rfl
      exact crc8_ne_of_burst burst
    refine ⟨differs, fun env w cap body after zeroFree waiting turns decodes => ?_⟩
    refine (ends_readData env w cap body after zeroFree waiting turns).mono ?_ fun _ h => h
    rintro n w' ⟨-, -, exact⟩
    refine negative_of_no_payload exact ?_
    rintro ⟨p, decodes', -⟩
    rw [← Cobs.remaining_eq_some_iff zeroFree] at decodes decodes'
    have same : altered = p ++ [crc8 p] := Option.some.inj (decodes.symm.trans decodes')
    exact differs p (crc8 p) same rfl

/-- The payload 0x41 and its CRC 0xC0 with two bits of the payload turned over. -/
theorem crc8_detects_bursts_byte :
    Burst 8 (([0x41] ++ [crc8 [0x41]]).flatMap wordBits) (([0x5, 0xC0] : List U8).flatMap wordBits) ∧
    Ends (rurpCommunicationReadData 4) (Env.still ⟨.uno, false⟩ 8)
      { latches := ⟨0, 0, 0⟩, stored := none, rx := [3, 0x5, 0xC0, 0, 0x4F] }
      (fun n _ => n < 0) (fun _ => False) := by
  have burst : Burst 8 (([0x41] ++ [crc8 [0x41]]).flatMap wordBits)
      (([0x5, 0xC0] : List U8).flatMap wordBits) := by
    refine ⟨[false], [true, false, false, false, false], [false, false, false, false, true],
      [false, true] ++ wordBits (0xC0 : U8), ?_, ?_, ?_⟩
    · decide
    · decide
    · decide
  have decodes : Cobs.Decodes [3, 0x5, 0xC0] [0x5, 0xC0] := by
    rw [← Cobs.remaining_eq_some_iff (by decide)]
    decide
  refine ⟨burst, ?_⟩
  exact ((crc8_detects_bursts [0x41]).2 [0x5, 0xC0] burst).2 (Env.still ⟨.uno, false⟩ 8) _ 4
    [3, 0x5, 0xC0] [0x4F] (by decide) rfl (by decide) decodes

end Firestarter
