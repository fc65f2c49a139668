import Firestarter.FrameDecoding
import Firestarter.LinkFrames
import Firestarter.OperationUtils

/-! The next message of the host behind stray bytes. The scanner looks ahead by a few bytes only, so
a stray byte that begins a token may take bytes of the message with it: it does for one pair of
junk and message, and for no other. -/
namespace Firestarter

open Interactive Interactive.Prog

set_option synthInstance.maxSize 4000

/-! ## Messages and junk -/

/-- A message as the host sends it; a data frame is told with the payload its body stands for. -/
inductive HostMessage where
  | ok | done | data (body payload : List U8)
  deriving DecidableEq, Repr

namespace HostMessage

def kind : HostMessage → OpMessageType
  | ok => .ack
  | done => .done
  | data .. => .data

def bytes : HostMessage → List U8
  | ok => [asciiO, asciiK]
  | done => [asciiD, asciiO, 0x4E, 0x45]
  | data body _ => asciiHash :: (body ++ [0])

/-- A data frame carries its payload and the CRC, and the payload fits the buffer. -/
def WellFormed (b : Build) : HostMessage → Prop
  | data body payload =>
    0 ∉ body ∧ Cobs.Decodes body (payload ++ [crc8 payload]) ∧ payload.length ≤ b.dataBufferSize
  | _ => True

/-- The message has been taken and nothing behind it, and a payload is in the handle. -/
def TakenAt (message : HostMessage) (rest : List U8) (w : World) : Prop :=
  w.rx = rest ∧ ∀ body payload, message = data body payload → w.handle.payload = payload

end HostMessage

/-- Bytes without the start of a frame and without a whole token. -/
structure Junk (bytes : List U8) : Prop where
  noHash : asciiHash ∉ bytes
  noOk : ¬ [asciiO, asciiK] <:+: bytes
  noDone : ¬ [asciiD, asciiO, 0x4E, 0x45] <:+: bytes

theorem Junk.suffix {taken junk : List U8} (whole : Junk (taken ++ junk)) : Junk junk :=
  have inside := (List.suffix_append taken junk).isInfix
  ⟨fun member => whole.noHash (List.mem_append_right _ member),
    fun token => whole.noOk (token.trans inside), fun token => whole.noDone (token.trans inside)⟩

/-- Calls of `op_get_message` up to the first one that finds something. -/
inductive FirstMessage (env : Env) : World → OpMessageType → World → Prop
  | now {w w' : World} {kind : OpMessageType} (heard : opGetMessage env w = (some kind, w'))
      (whole : kind ≠ .incomplete) : FirstMessage env w kind w'
  | later {w w₁ w' : World} {kind : OpMessageType}
      (nothing : opGetMessage env w = (some .incomplete, w₁))
      (heard : FirstMessage env w₁ kind w') : FirstMessage env w kind w'

/-! ## The queue -/

variable {env : Env} {w : World}

theorem ends_available (quiet : Quiet env) (w : World) :
    Ends rurpCommunicationAvailable env w (fun n w' => n = w.rx.length ∧ w'.rx = w.rx)
      (fun _ => False) := by
  have same : w.rx ++ env.arrive w = w.rx := by rw [quiet w, List.append_nil]
  exact ⟨congrArg List.length same, same⟩

theorem ends_peak (quiet : Quiet env) (w : World) :
    Ends rurpCommunicationPeak env w (fun c w' => c = w.rx.head? ∧ w'.rx = w.rx)
      (fun _ => False) := by
  have same : w.rx ++ env.arrive w = w.rx := by rw [quiet w, List.append_nil]
  exact ⟨congrArg List.head? same, same⟩

theorem ends_read (quiet : Quiet env) (w : World) :
    Ends rurpCommunicationRead env w (fun c w' => c = w.rx.head? ∧ w'.rx = w.rx.tail)
      (fun _ => False) := by
  have same : w.rx ++ env.arrive w = w.rx := by rw [quiet w, List.append_nil]
  exact ⟨congrArg List.head? same, congrArg List.tail same⟩

/-- What of a text is taken: the longest beginning it shares with the queue. -/
theorem ends_takeText (quiet : Quiet env) (text : List U8) (w : World) :
    Ends (takeText text) env w
      (fun whole w' => ∃ taken left, text = taken ++ left ∧ w.rx = taken ++ w'.rx ∧
        (whole = true ↔ left = []) ∧ ∀ c more, left = c :: more → w'.rx.head? ≠ some c)
      (fun _ => False) := by
  induction text generalizing w with
  | nil => exact ⟨[], [], rfl, rfl, ⟨fun _ => rfl, fun _ => rfl⟩, nofun⟩
  | cons c text ih =>
    unfold takeText
    rw [ends_bind]
    refine (ends_peak quiet w).mono (fun next w₁ peaked => ?_) fun _ => id
    obtain ⟨rfl, same⟩ := peaked
    split
    · rename_i here
      have here : w.rx.head? = some c := beq_iff_eq.mp here
      rw [ends_bind]
      refine (ends_read quiet w₁).mono (fun _ w₂ read => ?_) fun _ => id
      refine (ih w₂).mono (fun whole w' done => ?_) fun _ => id
      obtain ⟨taken, left, split, queue, all, stops⟩ := done
      refine ⟨c :: taken, left, by rw [split]; rfl, ?_, all, stops⟩
      have queue' := read.2
      rw [same] at queue'
      obtain ⟨tail, whole⟩ := List.head?_eq_some_iff.mp here
      rw [whole] at queue' ⊢
      have queue' : w₂.rx = tail := queue'
      rw [← queue', queue]
      rfl
    · rename_i other
      refine ⟨[], c :: text, rfl, same.symm, ⟨nofun, nofun⟩, ?_⟩
      rintro d more shape here
      obtain ⟨rfl, -⟩ := List.cons.inj shape
      rw [same] at here
      exact other (beq_iff_eq.mpr here)

/-! ## A turn on the message -/

/-- The first byte of a message, and how much of it there is at least. -/
theorem HostMessage.bytes_head (message : HostMessage) :
    ∃ c more, message.bytes = c :: more ∧ more ≠ [] ∧
      (c = asciiO ∧ message = .ok ∧ more = [asciiK] ∨ c = asciiD ∨ c = asciiHash) := by
  cases message with
  | ok => exact ⟨asciiO, [asciiK], rfl, nofun, .inl ⟨rfl, rfl, rfl⟩⟩
  | done => exact ⟨asciiD, _, rfl, nofun, .inr (.inl rfl)⟩
  | data body payload =>
    exact ⟨asciiHash, body ++ [0], rfl, List.append_ne_nil_of_right_ne_nil _ nofun, .inr (.inr rfl)⟩

/-- Only an OK is shorter than three bytes. -/
theorem HostMessage.bytes_length {b : Build} {message : HostMessage}
    (formed : message.WellFormed b) :
    2 ≤ message.bytes.length ∧ (message ≠ .ok → 3 ≤ message.bytes.length) := by
  cases message with
  | ok => exact ⟨Nat.le_refl _, fun other => (other rfl).elim⟩
  | done => exact ⟨by decide, fun _ => by decide⟩
  | data body payload =>
    obtain ⟨-, ⟨blocks, wire, decoded⟩, -⟩ := formed
    have some : body ≠ [] := by
      rintro rfl
      cases blocks with
      | nil => exact List.append_ne_nil_of_right_ne_nil _ (List.cons_ne_nil _ _) decoded.symm
      | cons block more => cases wire
    have positive := List.length_pos_iff.mpr some
    simp only [HostMessage.bytes, List.length_cons, List.length_append, List.length_nil]
    omega

theorem ends_takeDataPacket_frame (quiet : Quiet env) {body payload rest : List U8}
    (formed : (HostMessage.data body payload).WellFormed env.build)
    (queue : w.rx = (HostMessage.data body payload).bytes ++ rest) (turns : w.rx.length < env.turns) :
    Ends takeDataPacket env w
      (fun r w' => r = .inr .data ∧ (HostMessage.data body payload).TakenAt rest w')
      (fun _ => False) := by
  obtain ⟨zeroFree, decodes, fits⟩ := formed
  have shape : w.rx = asciiHash :: (body ++ 0 :: rest) := by
    rw [queue, HostMessage.bytes, List.cons_append, List.append_assoc]
    rfl
  unfold takeDataPacket deliverFrame
  rw [ends_bind]
  refine (ends_read quiet w).mono (fun _ w₁ read => ?_) fun _ => id
  have queue₁ : w₁.rx = body ++ 0 :: rest := by
    rw [read.2, shape]
    rfl
  have short : body.length < env.turns := by
    rw [shape] at turns
    simp only [List.length_cons, List.length_append] at turns
    omega
  rw [ends_bind, ends_build, ends_bind]
  refine (ends_readData env w₁ env.build.dataBufferSize body rest zeroFree queue₁ short).mono
    (fun n w₂ decoded => ?_) fun _ => id
  obtain ⟨⟨arrived, still, queue₂⟩, -, exact⟩ := decoded
  obtain ⟨count, stored⟩ := (exact payload).mpr ⟨decodes, fits⟩
  rw [still quiet, List.append_nil] at queue₂
  have notNegative : ¬ n < 0 := by omega
  rw [if_neg notNegative, ends_bind, ends_setHandle, ends_bind, ends_getHandle]
  have size : (BitVec.ofInt 32 n).toNat = payload.length := by
    have small : env.build.dataBufferSize ≤ 1536 := by
      unfold Build.dataBufferSize
      split <;> decide
    rw [count, BitVec.ofInt_natCast, BitVec.toNat_ofNat, Nat.mod_eq_of_lt (by omega)]
  refine ⟨rfl, queue₂, fun body' payload' same => ?_⟩
  obtain ⟨-, rfl⟩ := HostMessage.data.inj same
  show (List.range (BitVec.ofInt 32 n).toNat).map w₂.handle.dataBuffer = payload
  rw [size]
  exact stored

/-- With the message at the front of the queue, the scanner takes it. -/
theorem ends_scanMessage_whole (quiet : Quiet env) {message : HostMessage} {rest : List U8}
    (formed : message.WellFormed env.build) (queue : w.rx = message.bytes ++ rest)
    (turns : w.rx.length < env.turns) :
    Ends scanMessage env w (fun r w' => r = .inr message.kind ∧ message.TakenAt rest w')
      (fun _ => False) := by
  have waiting : ¬ (w.rx.length == 0) = true := by
    have long := (HostMessage.bytes_length formed).1
    rw [queue, List.length_append, beq_iff_eq]
    omega
  unfold scanMessage scanAck scanDone
  rw [ends_bind]
  refine (ends_available quiet w).mono (fun n w₁ counted => ?_) fun _ => id
  obtain ⟨rfl, same₁⟩ := counted
  rw [if_neg waiting, ends_bind]
  refine (ends_peak quiet w₁).mono (fun c w₂ peaked => ?_) fun _ => id
  obtain ⟨rfl, same₂⟩ := peaked
  have queue₂ : w₂.rx = message.bytes ++ rest := by rw [same₂, same₁, queue]
  rw [same₁, queue]
  cases message with
  | ok =>
    have first : (HostMessage.ok.bytes ++ rest).head? = some asciiO := rfl
    rw [first, if_pos (by decide), ends_bind]
    refine (ends_available quiet w₂).mono (fun n w₃ counted => ?_) fun _ => id
    obtain ⟨rfl, same₃⟩ := counted
    have enough : ¬ w₂.rx.length < 2 := by
      rw [queue₂, List.length_append]
      exact Nat.not_lt.mpr (Nat.le_add_right 2 _)
    rw [if_neg enough, ends_bind]
    refine (ends_read quiet w₃).mono (fun _ w₄ read => ?_) fun _ => id
    rw [ends_bind]
    refine (ends_peak quiet w₄).mono (fun c w₅ peaked => ?_) fun _ => id
    obtain ⟨rfl, same₅⟩ := peaked
    have queue₄ : w₄.rx = asciiK :: rest := by
      rw [read.2, same₃, queue₂]
      rfl
    have next : (w₄.rx.head? == some asciiK) = true := by rw [queue₄]; rfl
    rw [if_pos next, ends_bind]
    refine (ends_read quiet w₅).mono (fun _ w₆ read => ?_) fun _ => id
    refine ⟨rfl, ?_, nofun⟩
    show w₆.rx = rest
    rw [read.2, same₅, queue₄]
    rfl
  | done =>
    have first : (HostMessage.done.bytes ++ rest).head? = some asciiD := rfl
    rw [first, if_neg (by decide), if_pos (by decide), ends_bind]
    refine (ends_available quiet w₂).mono (fun n w₃ counted => ?_) fun _ => id
    obtain ⟨rfl, same₃⟩ := counted
    have enough : ¬ w₂.rx.length < 4 := by
      rw [queue₂, List.length_append]
      exact Nat.not_lt.mpr (Nat.le_add_right 4 _)
    rw [if_neg enough, ends_bind]
    refine (ends_takeText quiet _ w₃).mono (fun whole w₄ taken => ?_) fun _ => id
    obtain ⟨taken, left, split, queue₃, all, stops⟩ := taken
    rw [same₃, queue₂] at queue₃
    have queue₃ : [asciiD, asciiO, 0x4E, 0x45] ++ rest = taken ++ w₄.rx := queue₃
    have none : left = [] := by
      cases left with
      | nil => rfl
      | cons c more =>
        rw [split, List.append_assoc] at queue₃
        have next := List.append_cancel_left queue₃
        exact absurd (congrArg List.head? next).symm (stops c more rfl)
    rw [none, List.append_nil] at split
    rw [← split] at queue₃
    have queue₄ : w₄.rx = rest := (List.append_cancel_left queue₃).symm
    rw [if_pos (all.mpr none)]
    exact ⟨rfl, queue₄, nofun⟩
  | data body payload =>
    have first : ((HostMessage.data body payload).bytes ++ rest).head? = some asciiHash := rfl
    rw [first, if_neg (by decide), if_neg (by decide), if_pos (by decide)]
    refine ends_takeDataPacket_frame quiet formed queue₂ ?_
    rw [queue₂, ← queue]
    exact turns

/-! ## A turn on junk -/

/-- What a turn leaves of junk before a message: less junk, and the message whole; or, when a `D` is
followed by an OK, the O of it is gone, or nothing happens for want of a fourth byte. -/
def JunkTurn (junk rest : List U8) (message : HostMessage) (w : World) (r : Unit ⊕ OpMessageType)
    (w' : World) : Prop :=
  (r = .inl () ∧ ∃ taken left, junk = taken ++ left ∧ taken ≠ [] ∧
    w'.rx = left ++ message.bytes ++ rest ∧
    (message = .ok → junk.getLast? = some asciiD → left.getLast? = some asciiD)) ∨
  message = .ok ∧ junk = [asciiD] ∧
    (r = .inl () ∧ w'.rx = asciiK :: rest ∨ r = .inr .incomplete ∧ w'.rx = w.rx)

/-- Dropping one byte of junk that is not its last `D`. -/
theorem JunkTurn.dropped {c : U8} {junk rest : List U8} {message : HostMessage} {w' : World}
    (queue : w'.rx = junk ++ message.bytes ++ rest) (other : c ≠ asciiD) :
    JunkTurn (c :: junk) rest message w (.inl ()) w' := by
  refine .inl ⟨rfl, [c], junk, rfl, List.cons_ne_nil _ _, queue, fun _ last => ?_⟩
  cases junk with
  | nil => exact absurd (Option.some.inj last) other
  | cons d junk => rwa [List.getLast?_cons_cons] at last

/-- What a text that is taken as far as it goes can take of junk behind a `D`. -/
theorem doneText_taken {junk rest taken left after : List U8} {message : HostMessage}
    (stray : Junk (asciiD :: junk)) (split : [asciiO, 0x4E, 0x45] = taken ++ left)
    (queue : junk ++ (message.bytes ++ rest) = taken ++ after)
    (stops : ∀ c more, left = c :: more → after.head? ≠ some c) :
    left ≠ [] ∧
      ((∃ keep, junk = taken ++ keep ∧ after = keep ++ message.bytes ++ rest ∧
        (message = .ok → (asciiD :: junk).getLast? = some asciiD →
          keep.getLast? = some asciiD)) ∨
      message = .ok ∧ junk = [] ∧ after = asciiK :: rest) := by
  have inside (keep : List U8) (whole : junk = taken ++ keep)
      (tail : after = keep ++ (message.bytes ++ rest)) :
      left ≠ [] ∧ ∃ keep, junk = taken ++ keep ∧ after = keep ++ message.bytes ++ rest ∧
        (message = .ok → (asciiD :: junk).getLast? = some asciiD →
          keep.getLast? = some asciiD) := by
    constructor
    · rintro rfl
      rw [List.append_nil] at split
      refine stray.noDone ⟨[], keep, ?_⟩
      rw [whole, ← split]
      rfl
    · refine ⟨keep, whole, by rw [tail, List.append_assoc], fun isOk last => ?_⟩
      cases keep with
      | cons c keep =>
        rw [whole, ← List.cons_append, List.getLast?_append_of_ne_nil _ (List.cons_ne_nil _ _)]
          at last
        exact last
      | nil =>
        -- With an OK right behind the `D` the text would have gone on.
        rw [List.append_nil] at whole
        subst isOk
        rcases taken with _ | ⟨b, taken⟩
        · exact absurd (by rw [tail]; rfl) (stops asciiO [0x4E, 0x45] split.symm)
        · have final : (asciiD :: junk).getLast? = (b :: taken).getLast? := by
            rw [whole]
            rfl
          have member := List.mem_of_getLast? (final ▸ last)
          have member : asciiD ∈ [asciiO, 0x4E, 0x45] := split ▸ List.mem_append_left _ member
          exact absurd member (by decide)
  rcases List.append_eq_append_iff.mp queue with ⟨more, longer, tail⟩ | ⟨keep, whole, tail⟩
  · cases more with
    | nil =>
      rw [List.append_nil] at longer
      obtain ⟨notWhole, keep⟩ := inside [] (by rw [longer, List.append_nil]) tail.symm
      exact ⟨notWhole, .inl keep⟩
    | cons c more =>
      obtain ⟨first, bytes, shape, -, kinds⟩ := message.bytes_head
      rw [shape] at tail
      obtain ⟨rfl, behind⟩ := List.cons.inj tail
      have behind : bytes ++ rest = more ++ after := behind
      rw [longer, List.append_assoc] at split
      have member : first ∈ [asciiO, 0x4E, 0x45] :=
        split ▸ List.mem_append_right _ List.mem_cons_self
      rcases kinds with ⟨rfl, isOk, rfl⟩ | rfl | rfl
      · have none : junk = [] := by
          cases junk with
          | nil => rfl
          | cons b junk =>
            have later : asciiO ∈ [(0x4E : U8), 0x45] := by
              rw [(List.cons.inj split).2]
              exact List.mem_append_right _ List.mem_cons_self
            exact absurd later (by decide)
        rw [none] at split
        have next := (List.cons.inj split).2
        cases more with
        | nil =>
          refine ⟨?_, .inr ⟨isOk, none, behind.symm⟩⟩
          rintro rfl
          cases next
        | cons d more =>
          have same := (List.cons.inj next).1.trans (List.cons.inj behind).1.symm
          exact absurd same (by decide)
      · exact absurd member (by decide)
      · exact absurd member (by decide)
  · obtain ⟨notWhole, keep⟩ := inside keep whole tail
    exact ⟨notWhole, .inl keep⟩

/-- A `D` and what is taken after it. -/
theorem ends_scanJunk_d (quiet : Quiet env) {junk rest : List U8} {message : HostMessage}
    {w₀ : World} (stray : Junk (asciiD :: junk))
    (queue : w.rx = asciiD :: junk ++ message.bytes ++ rest) :
    Ends (do
      if ← takeText [asciiD, asciiO, 0x4E, 0x45] then deliver .done [] else return .inl ()) env w
      (JunkTurn (asciiD :: junk) rest message w₀) (fun _ => False) := by
  rw [ends_bind]
  refine (ends_takeText quiet _ w).mono (fun whole w₁ done => ?_) fun _ => id
  obtain ⟨taken, left, split, after, all, stops⟩ := done
  rw [queue, List.append_assoc, List.cons_append] at after
  cases taken with
  | nil => exact absurd (congrArg List.head? after).symm (stops _ _ split.symm)
  | cons b taken =>
    obtain ⟨rfl, texts⟩ := List.cons.inj split
    obtain ⟨some, outcome⟩ := doneText_taken stray texts (List.cons.inj after).2 stops
    rw [if_neg fun isWhole => some (all.mp isWhole)]
    rcases outcome with ⟨keep, whole, tail, last⟩ | ⟨isOk, none, tail⟩
    · refine .inl ⟨rfl, asciiD :: taken, keep, ?_, List.cons_ne_nil _ _, tail, last⟩
      rw [whole]
      rfl
    · exact .inr ⟨isOk, by rw [none], .inl ⟨rfl, tail⟩⟩

theorem ends_scanJunk (quiet : Quiet env) {junk rest : List U8} {message : HostMessage}
    (stray : Junk junk) (some : junk ≠ []) (formed : message.WellFormed env.build)
    (queue : w.rx = junk ++ message.bytes ++ rest) :
    Ends scanMessage env w (JunkTurn junk rest message w) (fun _ => False) := by
  obtain ⟨c, junk, rfl⟩ := List.exists_cons_of_ne_nil some
  obtain ⟨long, longer⟩ := HostMessage.bytes_length formed
  have size : w.rx.length = 1 + junk.length + message.bytes.length + rest.length := by
    rw [queue]
    simp only [List.length_append, List.length_cons]
    omega
  have waiting : ¬ (w.rx.length == 0) = true := by
    rw [beq_iff_eq]
    omega
  unfold scanMessage scanAck scanDone
  rw [ends_bind]
  refine (ends_available quiet w).mono (fun n w₁ counted => ?_) fun _ => id
  obtain ⟨rfl, same₁⟩ := counted
  rw [if_neg waiting, ends_bind]
  refine (ends_peak quiet w₁).mono (fun next w₂ peaked => ?_) fun _ => id
  obtain ⟨rfl, same₂⟩ := peaked
  have first : w₁.rx.head? = Option.some c := by
    rw [same₁, queue]
    rfl
  have queue₂ : w₂.rx = c :: junk ++ message.bytes ++ rest := by rw [same₂, same₁, queue]
  rw [first]
  by_cases isO : c = asciiO
  · rw [isO, if_pos (beq_iff_eq.mpr rfl), ends_bind]
    refine (ends_available quiet w₂).mono (fun n w₃ counted => ?_) fun _ => id
    obtain ⟨rfl, same₃⟩ := counted
    have enough : ¬ w₂.rx.length < 2 := by
      rw [same₂, same₁]
      omega
    rw [if_neg enough, ends_bind]
    refine (ends_read quiet w₃).mono (fun _ w₄ read => ?_) fun _ => id
    rw [ends_bind]
    refine (ends_peak quiet w₄).mono (fun next w₅ peaked => ?_) fun _ => id
    obtain ⟨rfl, same₅⟩ := peaked
    have queue₄ : w₄.rx = junk ++ message.bytes ++ rest := by
      rw [read.2, same₃, queue₂]
      rfl
    -- Neither the junk nor a message goes on with the second letter of an OK.
    have other : ¬ (w₄.rx.head? == Option.some asciiK) = true := by
      rw [queue₄, beq_iff_eq]
      cases junk with
      | nil =>
        obtain ⟨d, more, shape, -, kinds⟩ := message.bytes_head
        rw [shape]
        intro isK
        have isK : d = asciiK := Option.some.inj isK
        rcases kinds with ⟨isO, -, -⟩ | isD | isHash
        · rw [isK] at isO
          cases isO
        · rw [isK] at isD
          cases isD
        · rw [isK] at isHash
          cases isHash
      | cons d junk =>
        intro isK
        have isK : d = asciiK := Option.some.inj isK
        exact stray.noOk ⟨[], junk, by rw [isO, isK]; rfl⟩
    rw [if_neg other]
    exact .dropped (by rw [same₅, queue₄]) (by decide)
  rw [if_neg fun here => isO (Option.some.inj (beq_iff_eq.mp here))]
  by_cases isD : c = asciiD
  · subst isD
    rw [if_pos (beq_iff_eq.mpr rfl), ends_bind]
    refine (ends_available quiet w₂).mono (fun n w₃ counted => ?_) fun _ => id
    obtain ⟨rfl, same₃⟩ := counted
    rw [same₂, same₁]
    split
    · rename_i few
      have isOk : message = .ok := by
        by_contra other
        have := longer other
        omega
      have none : junk = [] := List.length_eq_zero_iff.mp (by omega)
      refine .inr ⟨isOk, by rw [none], .inr ⟨rfl, ?_⟩⟩
      rw [same₃, same₂, same₁]
    · exact ends_scanJunk_d quiet stray (by rw [same₃, queue₂])
  rw [if_neg fun here => isD (Option.some.inj (beq_iff_eq.mp here))]
  have notHash : c ≠ asciiHash := fun isHash => stray.noHash (isHash ▸ List.mem_cons_self)
  rw [if_neg fun here => notHash (Option.some.inj (beq_iff_eq.mp here)), ends_bind]
  refine (ends_read quiet w₂).mono (fun _ w₃ read => ?_) fun _ => id
  refine .dropped ?_ isD
  rw [read.2, queue₂]
  rfl

/-! ## The message behind the junk -/

theorem ends_opGetMessage_stray (quiet : Quiet env) {junk rest : List U8} {message : HostMessage}
    (stray : Junk junk) (formed : message.WellFormed env.build)
    (queue : w.rx = junk ++ message.bytes ++ rest) (turns : w.rx.length < env.turns)
    (apart : ¬ (message = .ok ∧ junk.getLast? = some asciiD)) :
    Ends opGetMessage env w (fun kind w' => kind = message.kind ∧ message.TakenAt rest w')
      (fun _ => False) := by
  have some := (HostMessage.bytes_length formed).1
  unfold opGetMessage whileLoop
  rw [ends_bind]
  refine (ends_available quiet w).mono (fun n w₁ counted => ?_) fun _ => id
  obtain ⟨rfl, same⟩ := counted
  have waiting : ¬ (w.rx.length == 0) = true := by
    rw [beq_iff_eq, queue, List.length_append, List.length_append]
    omega
  rw [if_neg waiting, ends_bind, ends_outside]
  -- Every turn that goes round again has taken some of the junk.
  refine ends_repeatUntil_of_bound
    (fun n _ v => ∃ left, left.length = n ∧ Junk left ∧
      ¬ (message = .ok ∧ left.getLast? = Option.some asciiD) ∧
      v.rx = left ++ message.bytes ++ rest ∧ v.rx.length < env.turns)
    ?_ _ junk.length _ _ ⟨junk, rfl, stray, apart, same.trans queue, by rw [same]; exact turns⟩ ?_
  · rintro n _ v ⟨left, rfl, stray, apart, queue, turns⟩
    by_cases all : left = []
    · subst all
      refine (ends_scanMessage_whole quiet formed queue turns).mono (fun r v' heard => ?_)
        fun _ => id
      obtain ⟨rfl, taken⟩ := heard
      exact ⟨rfl, taken⟩
    · refine (ends_scanJunk quiet stray all formed queue).mono (fun r v' turned => ?_) fun _ => id
      rcases turned with ⟨rfl, taken, keep, whole, dropped, queue', -⟩ | ⟨isOk, whole, -⟩
      · subst whole
        have fewer := List.length_pos_iff.mpr dropped
        refine ⟨keep.length, ?_, keep, rfl, stray.suffix, fun ⟨isOk, last⟩ => apart ⟨isOk, ?_⟩,
          queue', ?_⟩
        · rw [List.length_append]
          omega
        · rw [List.getLast?_append, last]
          rfl
        · rw [queue] at turns
          rw [queue']
          simp only [List.length_append] at turns ⊢
          omega
      · exact absurd ⟨isOk, by rw [whole]; rfl⟩ apart
  · rw [queue, List.length_append, List.length_append] at turns
    omega

/-! ## An OK behind a `D` -/

/-- A step that leaves the queue no longer than it was. -/
abbrev Consumes (w w' : World) : Prop := w'.rx.length ≤ w.rx.length

instance : IsPreorder World Consumes where
  refl _ := Nat.le_refl _
  trans _ _ _ first second := Nat.le_trans second first

instance : BusFrame env Consumes where
  bus _ _ _ same := Nat.le_of_eq (congrArg (fun w => w.rx.length) same)

instance : BufferFrame Consumes := ⟨fun _ _ => Nat.le_refl _, fun _ _ => Nat.le_refl _⟩

instance : PrintFrame Consumes := ⟨fun _ _ _ => Nat.le_refl _, fun _ _ => Nat.le_refl _⟩

theorem Quiet.receiveFrame (quiet : Quiet env) : ReceiveFrame env Consumes where
  arrive w := Nat.le_of_eq (by rw [quiet w, List.append_nil])
  take w := by
    show w.rx.tail.length ≤ w.rx.length
    rw [List.length_tail]
    exact Nat.sub_le _ 1

theorem consumes_deliver (env : Env) (kind : OpMessageType) (payload : List U8) :
    Within env Consumes (deliver kind payload) := by
  have (e : Event) : Within env Consumes (note e) := Within.update _ fun _ => Nat.le_refl _
  unfold deliver
  infer_instance

theorem consumes_takeDataPacket (quiet : Quiet env) : Within env Consumes takeDataPacket := by
  have := quiet.receiveFrame
  have (kind : OpMessageType) (payload : List U8) := consumes_deliver env kind payload
  have (f : Handle → Handle) : Within env Consumes (setHandle f) :=
    Within.update _ fun _ => Nat.le_refl _
  unfold takeDataPacket deliverFrame
  infer_instance

theorem consumes_scanMessage (quiet : Quiet env) : Within env Consumes scanMessage := by
  have := quiet.receiveFrame
  have (kind : OpMessageType) (payload : List U8) := consumes_deliver env kind payload
  have := consumes_takeDataPacket quiet
  unfold scanMessage scanAck scanDone
  infer_instance

/-- A data packet is never an ACK. -/
theorem ends_takeDataPacket_other (w : World) :
    Ends takeDataPacket env w (fun r _ => r ≠ .inr .ack) (fun _ => True) := by
  have other {kind : OpMessageType} (differs : kind ≠ .ack) (payload : List U8) (v : World) :
      Ends (deliver kind payload) env v (fun r _ => r ≠ .inr .ack) (fun _ => True) :=
    fun same => differs (Sum.inr.inj same)
  unfold takeDataPacket deliverFrame
  rw [ends_bind]
  refine ends_any _ (fun _ w₁ => ?_) fun _ => trivial
  rw [ends_bind, ends_build, ends_bind]
  refine ends_any _ (fun res w₂ => ?_) fun _ => trivial
  split
  · rw [ends_bind]
    exact ends_any _ (fun _ w₃ => other (by decide) [] w₃) fun _ => trivial
  · rw [ends_bind, ends_setHandle, ends_bind, ends_getHandle]
    exact other (by decide) _ _

/-- An ACK takes the two bytes of an OK. -/
theorem ends_scanMessage_ack (quiet : Quiet env) (w : World) :
    Ends scanMessage env w
      (fun r w' => w'.rx.length ≤ w.rx.length ∧
        (r = .inr .ack → w'.rx.length + 2 ≤ w.rx.length))
      (fun _ => True) := by
  suffices taken : Ends scanMessage env w
      (fun r w' => r = .inr .ack → w'.rx.length + 2 ≤ w.rx.length) (fun _ => True) from
    ((consumes_scanMessage quiet).and_ends taken).mono (fun _ _ both => both) fun _ _ => trivial
  unfold scanMessage scanAck scanDone
  rw [ends_bind]
  refine (ends_available quiet w).mono (fun n w₁ counted => ?_) fun _ _ => trivial
  obtain ⟨rfl, same₁⟩ := counted
  split
  · exact nofun
  rw [ends_bind]
  refine (ends_peak quiet w₁).mono (fun c w₂ peaked => ?_) fun _ _ => trivial
  obtain ⟨rfl, same₂⟩ := peaked
  split
  · rename_i startsOk
    rw [ends_bind]
    refine (ends_available quiet w₂).mono (fun n w₃ counted => ?_) fun _ _ => trivial
    obtain ⟨rfl, same₃⟩ := counted
    split
    · exact nofun
    rename_i enough
    rw [ends_bind]
    refine (ends_read quiet w₃).mono (fun _ w₄ read => ?_) fun _ _ => trivial
    rw [ends_bind]
    refine (ends_peak quiet w₄).mono (fun c w₅ peaked => ?_) fun _ _ => trivial
    obtain ⟨rfl, same₅⟩ := peaked
    split
    · rw [ends_bind]
      refine (ends_read quiet w₅).mono (fun _ w₆ read' => ?_) fun _ _ => trivial
      intro _
      show w₆.rx.length + 2 ≤ w.rx.length
      rw [read'.2, same₅, read.2, same₃]
      rw [same₂, same₁] at enough ⊢
      rw [List.length_tail, List.length_tail]
      omega
    · exact nofun
  split
  · rw [ends_bind]
    refine (ends_available quiet w₂).mono (fun n w₃ counted => ?_) fun _ _ => trivial
    obtain ⟨rfl, same₃⟩ := counted
    split
    · exact nofun
    rw [ends_bind]
    refine ends_any _ (fun whole w₄ => ?_) fun _ => trivial
    split <;> exact nofun
  split
  · exact (ends_takeDataPacket_other w₂).mono (fun _ _ other isAck => (other isAck).elim)
      fun _ => id
  · rw [ends_bind]
    exact ends_any _ (fun _ _ => nofun) fun _ => trivial

/-- From here on the OK before `rest` is not delivered: some of it is gone, or a `D` stands
before it. -/
def Doomed (rest : List U8) (w : World) : Prop :=
  w.rx.length ≤ rest.length + 1 ∨
  ∃ junk, Junk junk ∧ junk.getLast? = some asciiD ∧ w.rx = junk ++ HostMessage.ok.bytes ++ rest

theorem Doomed.scan (quiet : Quiet env) {rest : List U8} (doomed : Doomed rest w) :
    Ends scanMessage env w
      (fun r w' => (r ≠ .inr .ack → Doomed rest w') ∧
        (r = .inr .ack → w'.rx.length < rest.length))
      (fun _ => True) := by
  rcases doomed with gone | ⟨junk, stray, last, queue⟩
  · refine (ends_scanMessage_ack quiet w).mono (fun r w' taken => ?_) fun _ => id
    obtain ⟨shorter, ack⟩ := taken
    refine ⟨fun _ => .inl (Nat.le_trans shorter gone), fun isAck => ?_⟩
    have := ack isAck
    omega
  · have some : junk ≠ [] := by
      rintro rfl
      cases last
    have scanned : Ends scanMessage env w (JunkTurn junk rest .ok w) (fun _ => False) :=
      ends_scanJunk quiet stray some trivial queue
    refine scanned.mono
      (fun r w' turned => ?_) fun _ => False.elim
    rcases turned with ⟨rfl, taken, keep, whole, -, queue', keeps⟩ | ⟨-, -, turned⟩
    · subst whole
      exact ⟨fun _ => .inr ⟨keep, stray.suffix, keeps rfl last, queue'⟩, nofun⟩
    · rcases turned with ⟨rfl, queue'⟩ | ⟨rfl, same⟩
      · exact ⟨fun _ => .inl (Nat.le_of_eq (congrArg List.length queue')), nofun⟩
      · exact ⟨fun _ => .inr ⟨junk, stray, last, same.trans queue⟩, nofun⟩

theorem Doomed.get (quiet : Quiet env) {rest : List U8} (doomed : Doomed rest w) :
    Ends opGetMessage env w
      (fun kind w' => (kind ≠ .ack → Doomed rest w') ∧
        (kind = .ack → w'.rx.length < rest.length))
      (fun _ => True) := by
  have same {v v' : World} (queue : v'.rx = v.rx) (doomed : Doomed rest v) : Doomed rest v' := by
    unfold Doomed
    rw [queue]
    exact doomed
  unfold opGetMessage whileLoop
  rw [ends_bind]
  refine (ends_available quiet w).mono (fun n w₁ counted => ?_) fun _ _ => trivial
  split
  · exact ⟨fun _ => same counted.2 doomed, nofun⟩
  rw [ends_bind, ends_outside]
  refine ends_repeatUntil (fun _ v => Doomed rest v) (fun _ v doomed => ?_)
    (fun _ _ _ => trivial) _ _ _ (same counted.2 doomed)
  refine (doomed.scan quiet).mono (fun r v' turned => ?_) fun _ => id
  cases r with
  | inl next => exact turned.1 nofun
  | inr kind =>
    exact ⟨fun other => turned.1 fun isAck => other (Sum.inr.inj isAck),
      fun isAck => turned.2 (congrArg Sum.inr isAck)⟩

/-- So the first message is not that OK. -/
theorem FirstMessage.doomed {rest : List U8} {w' : World} {kind : OpMessageType}
    (quiet : Quiet env) (doomed : Doomed rest w) (first : FirstMessage env w kind w')
    (isAck : kind = .ack) : w'.rx.length < rest.length := by
  induction first with
  | now heard whole => exact ((ends_iff.mp (doomed.get quiet)).1 _ _ heard).2 isAck
  | later nothing heard ih =>
    exact ih (((ends_iff.mp (doomed.get quiet)).1 _ _ nothing).1 (by decide)) isAck

/-- The message is the first one found, whole and with nothing behind it, except where it is an OK
and the last byte before it is a `D`. -/
theorem stray_bytes_iff (env : Env) (w : World) (junk rest : List U8) (message : HostMessage)
    (quiet : Quiet env) (stray : Junk junk) (formed : message.WellFormed env.build)
    (queue : w.rx = junk ++ message.bytes ++ rest) (turns : w.rx.length < env.turns) :
    (∃ w', FirstMessage env w message.kind w' ∧ message.TakenAt rest w') ↔
      ¬ (message = .ok ∧ junk.getLast? = some asciiD) := by
  constructor
  · rintro ⟨w', first, taken, -⟩ ⟨rfl, last⟩
    have shorter := first.doomed quiet (.inr ⟨junk, stray, last, queue⟩) rfl
    rw [taken] at shorter
    exact Nat.lt_irrefl _ shorter
  · intro apart
    have run := ends_opGetMessage_stray quiet stray formed queue turns apart
    rcases ran : opGetMessage env w with ⟨_ | kind, w'⟩
    · exact ((ends_iff.mp run).2 w' ran).elim
    · obtain ⟨rfl, taken⟩ := (ends_iff.mp run).1 kind w' ran
      exact ⟨w', .now ran (by cases message <;> exact nofun), taken⟩

/-- A `D` and one more byte before an OK. -/
theorem stray_bytes_iff_dx :
    ∃ w', FirstMessage (Env.still ⟨.uno, false⟩ 8)
        { latches := ⟨0, 0, 0⟩, stored := none, rx := [asciiD, 0x58, asciiO, asciiK, 0x41] } .ack w' ∧
      HostMessage.ok.TakenAt [0x41] w' :=
  (stray_bytes_iff (Env.still ⟨.uno, false⟩ 8)
    { latches := ⟨0, 0, 0⟩, stored := none, rx := [asciiD, 0x58, asciiO, asciiK, 0x41] }
    [asciiD, 0x58] [0x41] .ok (fun _ => rfl) ⟨by decide, by decide, by decide⟩ trivial rfl
    (by decide)).mpr (by decide)

/-- The three bytes `DOK` are waited on for ever. -/
theorem stray_d_hides_ok :
    ¬ ∀ (env : Env) (w : World) (junk rest : List U8) (message : HostMessage), Quiet env →
      Junk junk → message.WellFormed env.build → w.rx = junk ++ message.bytes ++ rest →
      w.rx.length < env.turns →
      ∃ w', FirstMessage env w message.kind w' ∧ message.TakenAt rest w' := by
  intro delivered
  have stray : Junk [asciiD] := ⟨by decide, by decide, by decide⟩
  obtain ⟨w', first, taken, -⟩ := delivered (Env.still ⟨.uno, false⟩ 8)
    { latches := ⟨0, 0, 0⟩, stored := none, rx := [asciiD, asciiO, asciiK] } [asciiD] [] .ok
    (fun _ => rfl) stray trivial rfl (by decide)
  have shorter := first.doomed (fun _ => rfl) (.inr ⟨[asciiD], stray, rfl, rfl⟩) rfl
  rw [taken] at shorter
  exact Nat.lt_irrefl _ shorter

end Firestarter
