import Firestarter.CommandTurns
import Firestarter.CompletionPolls
import Firestarter.UnlockedSessions

/-! The session of the Intel driver. Its parts take their commands in a register and answer a read
with the array only after the command for it. A callback that fails gives that command itself; one
that succeeds leaves it to the END phase, which a command need not come to. -/
namespace Firestarter

open Interactive Interactive.Prog MemoryPart

set_option synthInstance.maxSize 4000

/-! ## The end of a session -/

namespace ChipSession

variable {env : Env} {h : Handle} {σ : Type} {K : PartContract σ} {w : World}

theorem Idle.ends_concluded (idle : Idle env h K w) (live : Live w) :
    Ends commandDone env w (fun _ w' => Idle env h K w') (Followed h K) := by
  obtain ⟨p, tracks, known⟩ := idle
  refine (ends_commandDone_untouched live).mono (fun _ w' done => ?_) fun w' both => ?_
  · obtain ⟨w₀, rfl, step, untouched⟩ := done
    exact ⟨p, (tracks.ended step untouched).note .finished rfl rfl rfl rfl, known⟩
  · exact ⟨p, tracks.ended both.1 both.2⟩

/-- The session as a rule of the command: when the command is over, no callback runs. -/
def rule (S : ChipSession env h K) : CommandRule env h where
  holds _ := Idle env h K
  closing := Idle env h K
  always := Followed h K
  safe idle := idle.followed
  settles idle := idle
  lingers idle link := idle.moves link
  onward followed _ link := followed.imp fun _ tracks => tracks.moves link
  waits idle link := idle.moves link
  hears _ idle heard := idle.delivered heard
  opens _ _ idle heard link := ((idle.delivered heard).moves link).inStage _
  lacks _ _ idle := idle
  serves settled _ found e idle :=
    (S.serves_phase settled found e idle).mono (fun _ _ idle => by split <;> exact idle) fun _ => id
  closes _ _ idle := (idle.note _ rfl rfl).inStage _
  pumps found known e idle := by
    refine (S.pumps idle known found e).mono (fun ok w' turns => ?_) fun _ => id
    obtain ⟨idle, so⟩ := turns
    cases ok with
    | false => exact ⟨so, idle⟩
    | true =>
      obtain ⟨st, listed, engaged⟩ := so
      exact ⟨st, listed, engaged, idle⟩
  ended := Idle env h K
  seen := Followed h K
  shows := id
  concludes live idle := idle.ends_concluded live
  rests idle link := idle.moves link
  remains idle := idle.followed

end ChipSession

/-! ## What each callback owes the part -/

/-- The write init erases first. -/
def Handle.erasesBlock (h : Handle) : Bool := h.isFlagSet flagCanErase && !h.isFlagSet flagSkipErase

/-- What a callback may make of the array, and the command it leaves in the register. A write that
gives up has programmed the first bytes of its chunk. -/
def intelServed (block : U32 → U32 → Bool) (callback : Callback) (entry : Handle) (code : U8)
    (s s' : Commanded.State U32) : Prop :=
  match callback with
  | .flashIntelWriteExecute => ∃ n ≤ entry.dataSize.toNat,
      s'.array = (entry.cells 0 n).foldl programmed s.array ∧
        (s'.command = some intelCmdReadArray ∧ code = responseCodeError ∨
          n = entry.dataSize.toNat ∧ code = entry.responseCode ∧
            s'.command = if n = 0 then s.command else some intelCmdProgramSetup)
  | .flashIntelEraseExecute => s'.array = Commanded.blockErased block 0 s.array ∧
      (s'.command = some intelCmdReadArray ∧ code = responseCodeError ∨
        s'.command = some intelCmdEraseConfirm ∧ code = entry.responseCode)
  | .flashIntelWriteInit =>
      (s'.array = s.array ∧ (s'.command = s.command ∨ s'.command = some intelCmdReadArray) ∧
        (code ≠ responseCodeError → entry.erasesBlock = false)) ∨
      (s'.array = Commanded.blockErased block 0 s.array ∧ entry.erasesBlock = true ∧
        (s'.command = some intelCmdReadArray ∧ code = responseCodeError ∨
          s'.command = some intelCmdEraseConfirm ∧ code ≠ responseCodeError))
  | .flashIntelCleanup | .flashIntelCheckChipId =>
      s'.array = s.array ∧ s'.command = some intelCmdReadArray
  | _ => s' = s

/-- Between two callbacks the part waits for a command. -/
def intelContract (block : U32 → U32 → Bool) (array : U32 → U8) :
    PartContract (Commanded.State U32) where
  part := Commanded.part block
  start := { array := array }
  between s := s.programs = false
  served := intelServed block

/-- What a run makes of the array and of the register. -/
abbrev Commands (block : U32 → U32 → Bool)
    (g : (U32 → U8) × Option U8 → (U32 → U8) × Option U8) : World → World → Prop :=
  Makes (Commanded.part block) Commanded.waiting g

/-- A run that may have been cut off between two commands. -/
def StopsBetween (block : U32 → U32 → Bool) (w w' : World) : Prop := ∃ g, Commands block g w w'

/-- A run that leaves the part as the callback may leave it. -/
def Treated (block : U32 → U32 → Bool) (callback : Callback) (w w' : World) : Prop :=
  ∃ g, Commands block g w w' ∧ ∀ x, intelServed block callback w.handle w'.handle.responseCode
    (Commanded.waiting x) (Commanded.waiting (g x))

variable {env : Env} {h : Handle} {block : U32 → U32 → Bool} {array : U32 → U8}
variable {w w' w₁ w₂ : World} {g g' : (U32 → U8) × Option U8 → (U32 → U8) × Option U8}
variable {callback : Callback}

theorem still_waiting : StillRead (Commanded.part block) Commanded.waiting := fun _ _ => rfl

theorem intel_between_iff (s : Commanded.State U32) :
    (intelContract block array).between s ↔ ∃ x, s = Commanded.waiting x := by
  constructor
  · intro free
    have free : s.programs = false := free
    refine ⟨(s.array, s.command), ?_⟩
    rw [Commanded.waiting, ← free]
  · rintro ⟨x, rfl⟩
    rfl

theorem Treated.serves (treated : Treated block callback w w') :
    (intelContract block array).Serves callback w w' := by
  obtain ⟨g, made, served⟩ := treated
  exact Makes.serves (K := intelContract block array) made intel_between_iff (fun _ => rfl) served

theorem StopsBetween.breaks (stopped : StopsBetween block w w') :
    (intelContract block array).Breaks w w' := by
  obtain ⟨g, made⟩ := stopped
  exact Makes.breaks (K := intelContract block array) made fun s => (intel_between_iff s).mp

theorem StopsBetween.after (made : Commands block g w w₁) (stopped : StopsBetween block w₁ w') :
    StopsBetween block w w' := by
  obtain ⟨g', stopped⟩ := stopped
  exact ⟨_, made.trans stopped⟩

theorem Reads.stops (reads : Reads w w') : StopsBetween block w w' :=
  ⟨_, reads.makes still_waiting⟩

/-! ## Commands -/

theorem Busy.reads {started : Nat} {statuses : List U8} (busy : Busy w started statuses w') :
    Reads w w' := by
  refine ⟨_, fun access member => ?_, Did.of_accesses busy.log⟩
  obtain ⟨sr, -, rfl⟩ := List.mem_map.mp member
  rfl

/-- A part that became ready has only been read. -/
theorem PolledSr.reads {timeoutMs : U32} {started : Nat}
    (polled : PolledSr timeoutMs w started none w') : Reads w w' ∧ w'.handle = w.handle := by
  cases polled with
  | ready busy _ _ read =>
    have last : Reads _ w' := Reads.of_polls (Polls.nil.read _) (.of_accesses read)
    exact ⟨trans_of Reads busy.reads last, read.handle.trans busy.log.handle⟩

/-- The part was left alone, or asked for its identifier. -/
def Asked (block : U32 → U32 → Bool) (w w' : World) : Prop :=
  ∃ c : Option U8 → Option U8, (∀ last, c last = last ∨ c last = some intelCmdReadArray) ∧
    Commands block (fun x => (x.1, c x.2)) w w'

/-- A write init that does not erase. -/
theorem Asked.treated (asked : Asked block w w')
    (excused : w'.handle.responseCode ≠ responseCodeError → w.handle.erasesBlock = false) :
    Treated block .flashIntelWriteInit w w' := by
  obtain ⟨c, keeps, made⟩ := asked
  exact ⟨_, made, fun x => .inl ⟨rfl, keeps x.2, excused⟩⟩

/-- The callbacks of the driver, and the generic one it leaves in place. -/
def intelCallbacks : List Callback :=
  [.memoryReadExecute, .flashIntelWriteInit, .flashIntelWriteExecute, .flashIntelEraseInit,
    .flashIntelEraseExecute, .flashIntelCheckChipId, .flashIntelCleanup]

/-- The callbacks of a handle are among these. -/
structure Handle.RunsFrom (h : Handle) (callbacks : List Callback) : Prop where
  init : ∀ callback, h.firestarterOperationInit = some callback → callback ∈ callbacks
  main : ∀ callback, h.firestarterOperationMain = some callback → callback ∈ callbacks
  finish : ∀ callback, h.firestarterOperationEnd = some callback → callback ∈ callbacks

theorem Driver.setUp_intel (b : Build) (hw : U8) (decoded : Handle) :
    (Driver.flashIntel.setUp b hw decoded).RunsFrom intelCallbacks := by
  have listed {named : Callback} (member : named ∈ intelCallbacks) (callback : Callback)
      (found : some named = some callback) : callback ∈ intelCallbacks :=
    Option.some.inj found ▸ member
  have none' (callback : Callback) (found : none = some callback) : callback ∈ intelCallbacks := by
    cases found
  have read (other : ¬(decoded.cmd == cmdWrite) = true) (callback : Callback)
      (found : (decoded.withoutCallbacks.withMemoryCallbacks.withReadHighMask b
        hw).firestarterOperationMain = some callback) : callback ∈ intelCallbacks := by
    have found : (if decoded.cmd == cmdRead then some Callback.memoryReadExecute
        else if decoded.cmd == cmdWrite then some .memoryWriteExecute else none) =
          some callback := found
    rw [if_neg other] at found
    split at found
    · exact listed (by decide) callback found
    · cases found
  unfold Driver.setUp Driver.configured
  dsimp only [Handle.withFlashIntelCallbacks]
  split_ifs with write
  · exact ⟨listed (by decide), listed (by decide), listed (by decide)⟩
  · exact ⟨listed (by decide), listed (by decide), listed (by decide)⟩
  · exact ⟨none', listed (by decide), none'⟩
  · exact ⟨none', read write, listed (by decide)⟩

theorem EnteredAs.intel (entered : EnteredAs env h callback w.handle)
    (memory : isMemoryCmd h.cmd = true) (found : driverFor h.protocol = some .flashIntel) :
    callback ∈ intelCallbacks := by
  obtain ⟨hw, decoded, same, -⟩ := entered.accepted.setUp memory found
  have runs := Driver.setUp_intel env.build hw decoded
  have init' := congrArg Handle.firestarterOperationInit same
  have main' := congrArg Handle.firestarterOperationMain same
  have finish' := congrArg Handle.firestarterOperationEnd same
  cases entered.enters with
  | chunk here => exact runs.main _ (Eq.trans main'.symm here)
  | step here => exact runs.main _ (Eq.trans main'.symm here)
  | @housekeeping st here =>
    cases st with
    | inInit => exact runs.init _ (Eq.trans init'.symm here)
    | inEnd => exact runs.finish _ (Eq.trans finish'.symm here)
    | _ => cases here

/-- The callback has found an error of its own. -/
def Handle.failsWith (entry : Handle) (code : U8) : Bool :=
  entry.responseCode != responseCodeError && code == responseCodeError

/-- Whether the part is still to be returned to its array: a callback that has programmed or erased
leaves that to the END phase, unless it fails. -/
def resetOwed (callback : Callback) (entry : Handle) (code : U8) (owed : Bool) : Bool :=
  match callback with
  | .flashIntelWriteExecute =>
    if entry.dataSize.toNat = 0 then owed else !entry.failsWith code
  | .flashIntelEraseExecute => !entry.failsWith code
  | .flashIntelWriteInit => owed || (entry.erasesBlock && code != responseCodeError)
  | .flashIntelCleanup | .flashIntelCheckChipId => false
  | _ => owed

/-- The part waits for a command, and reads its array if nothing is owed. -/
def Restored (owed : Bool) (s : Commanded.State U32) : Prop :=
  s.programs = false ∧ (owed = false → s.ReadsArray)

namespace Restored

variable {owed : Bool} {entry : Handle} {code : U8} {s s' : Commanded.State U32}

theorem of_reset (free : s.programs = false) (reset : s.command = some intelCmdReadArray) :
    Restored owed s := ⟨free, fun _ => ⟨free, .inr reset⟩⟩

theorem kept (restored : Restored owed s) (free : s'.programs = false)
    (command : s'.command = s.command) : Restored owed s' :=
  ⟨free, fun none => ⟨free, command ▸ (restored.2 none).2⟩⟩

/-- A callback without an error of its own has the reset still to come. -/
theorem of_good (free : s.programs = false) (good : code = entry.responseCode) :
    Restored (!entry.failsWith code) s := by
  have owed : (!entry.failsWith code) = true := by
    rw [good, Handle.failsWith, bne, Bool.not_and_self]
    rfl
  exact ⟨free, fun none => Bool.noConfusion (owed.symm.trans none)⟩

/-- What each callback owes fits what it makes of the part. -/
theorem served (restored : Restored owed s) (free : s'.programs = false)
    (served : intelServed block callback entry code s s') :
    Restored (resetOwed callback entry code owed) s' := by
  cases callback with
  | flashIntelWriteExecute =>
    obtain ⟨n, -, -, ⟨reset, -⟩ | ⟨all, good, command⟩⟩ := served
    · exact .of_reset free reset
    · show Restored (if entry.dataSize.toNat = 0 then owed else !entry.failsWith code) s'
      split
      · rename_i empty
        rw [if_pos (all.trans empty)] at command
        exact restored.kept free command
      · exact .of_good free good
  | flashIntelEraseExecute =>
    obtain ⟨-, ⟨reset, -⟩ | ⟨-, good⟩⟩ := served
    · exact .of_reset free reset
    · exact .of_good free good
  | flashIntelWriteInit =>
    rcases served with ⟨-, command | reset, -⟩ | ⟨-, erases, ⟨reset, -⟩ | ⟨-, good⟩⟩
    · refine ⟨free, fun none => ((restored.kept free command).2 ?_)⟩
      exact (Bool.or_eq_false_iff.mp none).1
    · exact .of_reset free reset
    · exact .of_reset free reset
    · refine ⟨free, fun none => ?_⟩
      have none := (Bool.or_eq_false_iff.mp none).2
      rw [erases, Bool.true_and] at none
      exact absurd (bne_eq_false_iff_eq.mp none) good
  | flashIntelCleanup => exact .of_reset free served.2
  | flashIntelCheckChipId => exact .of_reset free served.2
  | _ =>
    have same : s' = s := served
    exact restored.kept free (congrArg Commanded.State.command same)

end Restored

/-! ## Every command -/

end Firestarter
