import Firestarter.BriefRuns
import Firestarter.FrameReception

/-! Looking for a message of the host ends: every turn of the scanner that goes round again took a
byte of a stream that is finite. -/
namespace Firestarter

open Interactive Interactive.Prog

set_option synthInstance.maxSize 4000

variable {env : Env} {w w' v : World} {quiet : Nat}

instance (kind : OpMessageType) (payload : List U8) : Brief env (deliver kind payload) := by
  unfold deliver
  infer_instance

instance (kind : OpMessageType) (payload : List U8) :
    Within env (Onward quiet) (deliver kind payload) := by
  unfold deliver
  infer_instance

theorem returns_peak (env : Env) {b : U8} {rest : List U8} (queue : w.rx = b :: rest) :
    Returns env.watched rurpCommunicationPeak w (some b) (w.received env) := by
  refine .of_run fun _ => ?_
  have head : (w.rx ++ env.arrive w).head? = some b := by rw [queue]; rfl
  exact congrArg (fun r => (some r, w.received env)) head

theorem received_queue {b : U8} {rest : List U8} (env : Env) (queue : w.rx = b :: rest) :
    (w.received env).rx = b :: (rest ++ env.arrive w) := by
  show w.rx ++ env.arrive w = _
  rw [queue, List.cons_append]

/-- A text whose first byte waits takes at least that byte. -/
theorem returns_takeText (env : Env) (quiet : Nat) [SilentFrom env quiet] {c : U8} (text : List U8)
    {rest : List U8} (queue : w.rx = c :: rest) :
    ∃ whole w', Returns env.watched (takeText (c :: text)) w whole w' ∧ TookByte quiet w w' := by
  have queue₁ := received_queue env queue
  have waits : (w.received env).rx ≠ [] := by simp [queue₁]
  obtain ⟨b, v, read, -, took⟩ := returns_read env quiet waits
  have brief : Brief env (takeText text) := inferInstance
  obtain ⟨whole, w', taken, -⟩ := brief.returns v
  have onward : Onward quiet v w' := taken.moved fun _ => inferInstance
  refine ⟨whole, w', (returns_peak env queue).bind ?_,
    (took.after (Onward.received quiet w)).onward onward⟩
  rw [if_pos (by simp)]
  exact read.bind taken

/-- A frame that came, or did not, is a message. -/
theorem deliverFrame_message (res : Int) (env : Env) (w : World) :
    Ends (deliverFrame res) env w (fun r _ => ∃ kind, r = .inr kind) fun _ => True := by
  unfold deliverFrame deliver
  split
  · rw [ends_bind]
    exact ends_any _ (fun _ _ => ⟨.error, rfl⟩) fun _ => trivial
  · rw [ends_bind]
    exact ends_any _ (fun _ _ => ⟨.data, rfl⟩) fun _ => trivial

theorem returns_takeDataPacket (clock : env.ClockRuns) (stream : env.StreamEnds) (w : World) :
    ∃ kind w', Returns env.watched takeDataPacket w (.inr kind) w' := by
  have reading : Brief env rurpCommunicationRead := inferInstance
  obtain ⟨b, v, read, -⟩ := reading.returns w
  obtain ⟨r, v₁, loop, -⟩ := returns_decodeLoop clock stream env.build.dataBufferSize v
  obtain ⟨res, received, -⟩ := returns_readData loop
  have brief : Brief env (deliverFrame res) := by
    unfold deliverFrame
    infer_instance
  obtain ⟨r, w', delivered, -⟩ := brief.returns v₁
  obtain ⟨kind, rfl⟩ := delivered.ended fun n => deliverFrame_message res (env.watched n) v₁
  refine ⟨kind, w', ?_⟩
  unfold takeDataPacket
  have built : Returns env.watched build v env.build v := .of_run fun _ => rfl
  exact read.bind (built.bind (received.bind delivered))

/-! ## The scanner -/

/-- The turn of the scanner for the byte it sees. -/
def scanFirst (b : U8) : Fw (Unit ⊕ OpMessageType) := do
  if b == asciiO then scanAck
  else if b == asciiD then scanDone
  else if b == asciiHash then takeDataPacket
  else
    let _ ← rurpCommunicationRead
    return .inl ()

theorem returns_scanMessage_first {b : U8} {rest : List U8} {r : Unit ⊕ OpMessageType}
    (queue : (w.received env).rx = b :: rest)
    (scanned : Returns env.watched (scanFirst b) ((w.received env).received env) r w') :
    Returns env.watched scanMessage w r w' := by
  have busy : ((w.received env).rx.length == 0) = false := by simp [queue]
  refine (returns_available env w).bind ?_
  rw [busy]
  exact (returns_peak env queue).bind scanned

/-- An arm of the scanner finds a message, or nothing more, or takes a byte. -/
def ScansOn (env : Env) (quiet : Nat) (arm : Fw (Unit ⊕ OpMessageType)) (w : World) : Prop :=
  ∃ r w', Returns env.watched arm w r w' ∧
    Sum.elim (fun _ => TookByte quiet w w') (fun _ => True) r

/-- A byte is taken, and the rest has no loop of its own. -/
theorem scansOn_of_took {arm : Fw (Unit ⊕ OpMessageType)} (rest : Fw (Unit ⊕ OpMessageType))
    [brief : Brief env rest]
    [within : ∀ n, Within (env.watched n) (Onward quiet) rest] (took : TookByte quiet w v)
    (runs : ∀ r w', Returns env.watched rest v r w' → Returns env.watched arm w r w') :
    ScansOn env quiet arm w := by
  obtain ⟨r, w', returns, -⟩ := brief.returns v
  refine ⟨r, w', runs r w' returns, ?_⟩
  have onward : Onward quiet v w' := returns.moved within
  cases r with
  | inl _ => exact took.onward onward
  | inr _ => exact trivial

section
variable (quiet) [SilentFrom env quiet]

theorem scanAck_scansOn {b : U8} {rest : List U8} (queue : w.rx = b :: rest) :
    ScansOn env quiet scanAck w := by
  have queue₁ := received_queue env queue
  have looked := returns_available env w
  by_cases short : (w.received env).rx.length < 2
  · refine ⟨.inr .incomplete, w.received env, looked.bind ?_, trivial⟩
    rw [if_pos short]
    exact .of_run fun _ => rfl
  · have waits : (w.received env).rx ≠ [] := by simp [queue₁]
    obtain ⟨_, v, read, -, took⟩ := returns_read env quiet waits
    refine scansOn_of_took (do
      if (← rurpCommunicationPeak) == some asciiK then
        let _ ← rurpCommunicationRead
        deliver .ack []
      else return .inl ()) (took.after (Onward.received quiet w)) fun r w' rest => looked.bind ?_
    rw [if_neg short]
    exact read.bind rest

theorem scanDone_scansOn {rest : List U8} (queue : w.rx = asciiD :: rest) :
    ScansOn env quiet scanDone w := by
  have queue₁ := received_queue env queue
  have looked := returns_available env w
  by_cases short : (w.received env).rx.length < 4
  · refine ⟨.inr .incomplete, w.received env, looked.bind ?_, trivial⟩
    rw [if_pos short]
    exact .of_run fun _ => rfl
  · obtain ⟨whole, v, taken, took⟩ := returns_takeText env quiet [asciiO, 0x4E, 0x45] queue₁
    refine scansOn_of_took (if whole then deliver .done [] else return .inl ())
      (took.after (Onward.received quiet w)) fun r w' rest => looked.bind ?_
    rw [if_neg short]
    exact taken.bind rest

theorem scanFirst_scansOn (clock : env.ClockRuns) {b : U8} {rest : List U8}
    (queue : w.rx = b :: rest) : ScansOn env quiet (scanFirst b) w := by
  have stream : env.StreamEnds := ⟨quiet, inferInstance⟩
  unfold scanFirst
  split
  · exact scanAck_scansOn quiet queue
  · split
    · rename_i done
      rw [beq_iff_eq] at done
      exact scanDone_scansOn quiet (done ▸ queue)
    · split
      · obtain ⟨kind, w', returns⟩ := returns_takeDataPacket clock stream w
        exact ⟨.inr kind, w', returns, trivial⟩
      · have waits : w.rx ≠ [] := by simp [queue]
        obtain ⟨_, v, read, -, took⟩ := returns_read env quiet waits
        exact ⟨.inl (), v, read.bind (.of_run fun _ => rfl), took⟩

/-- A turn of the scanner finds a message, or nothing more, or takes a byte. -/
theorem scanMessage_scansOn (clock : env.ClockRuns) (w : World) :
    ScansOn env quiet scanMessage w := by
  have onward : Onward quiet w (w.received env) := Onward.received quiet w
  rcases queue : (w.received env).rx with _ | ⟨b, rest⟩
  · have none : ((w.received env).rx.length == 0) = true := by simp [queue]
    refine ⟨.inr .incomplete, w.received env, (returns_available env w).bind ?_, trivial⟩
    rw [none]
    exact .of_run fun _ => rfl
  · have onward₂ : Onward quiet w ((w.received env).received env) :=
      trans_of _ onward (Onward.received quiet _)
    obtain ⟨r, w', returns, took⟩ :=
      scanFirst_scansOn quiet clock (received_queue env queue)
    refine ⟨r, w', returns_scanMessage_first queue returns, ?_⟩
    cases r with
    | inl _ => exact TookByte.after took onward₂
    | inr _ => exact trivial

end

/-- Looking for a message returns. -/
theorem returns_opGetMessage (clock : env.ClockRuns) (stream : env.StreamEnds) (w : World) :
    ∃ kind w', Returns env.watched opGetMessage w kind w' := by
  obtain ⟨quiet, _⟩ := stream
  have looked := returns_available env w
  by_cases empty : (w.received env).rx = []
  · have none : ((w.received env).rx.length == 0) = true := by simp [empty]
    refine ⟨.incomplete, w.received env, looked.bind ?_⟩
    rw [none]
    exact .of_run fun _ => rfl
  · have some : ((w.received env).rx.length == 0) = false := by simp [empty]
    have rule : ∃ kind w', LoopReturns env.watched (fun _ => scanMessage) () (w.received env) kind
        w' ∧ True := by
      refine loopReturns_of_measure (fun _ v => streamMeasure quiet v) (fun _ _ => True)
        (fun _ v _ => ?_) () _ trivial
      obtain ⟨r, v', returns, took⟩ := scanMessage_scansOn quiet clock v
      refine ⟨r, v', returns, ?_⟩
      cases r with
      | inl _ => exact ⟨trivial, TookByte.nearer took⟩
      | inr _ => exact trivial
    obtain ⟨kind, w', loop, -⟩ := rule
    refine ⟨kind, w', looked.bind ?_⟩
    rw [some]
    exact returns_whileLoop loop

end Firestarter
