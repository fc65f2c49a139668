import Firestarter.ChipSessions
import Firestarter.FirmwareFrames
import Firestarter.FlashPages

/-! The steps of a driver as the part sees them: what a piece of a callback does to the part is a
function on what the part holds, and pieces one after another are functions one after another. -/
namespace Firestarter

open Interactive Interactive.Prog MemoryPart

set_option synthInstance.maxSize 4000

variable {env : Env} {w w' w'' : World} {log log' : List Access}

/-! ## What a piece of a driver does -/

/-- A run with these accesses that leaves the command's parameters as they are. -/
structure Did (log : List Access) (w w' : World) : Prop where
  parameters : w'.handle.parameters = w.handle.parameters
  logged : Logged log w w'

theorem Did.of_accesses (done : Accesses log w w') : Did log w w' :=
  ⟨by rw [done.handle], done.logged⟩

theorem Did.of_quiet (parameters : w'.handle.parameters = w.handle.parameters)
    (trace : w'.trace = w.trace) : Did [] w w' := ⟨parameters, [], trace, rfl⟩

theorem Did.note (w : World) (e : Event) (other : e.access = none) :
    Did [] w { w with trace := e :: w.trace } :=
  ⟨rfl, [e], rfl, accessLog_quiet (by simpa using other)⟩

theorem Did.trans (first : Did log w w') (rest : Did log' w' w'') : Did (log ++ log') w w'' :=
  ⟨rest.parameters.trans first.parameters, first.logged.trans rest.logged⟩

theorem Did.setter (did : Did log w w') (setter : GenericSetter w) : GenericSetter w' := by
  have kept := congrArg Handle.firestarterSetControlRegister did.parameters
  exact Eq.trans kept setter

/-- Nothing is stored to the chip, however often it is read. -/
def Reads (w w' : World) : Prop := ∃ log, (∀ access ∈ log, access.isRead = true) ∧ Did log w w'

namespace Reads

theorem of_did (did : Did [] w w') : Reads w w' := ⟨[], nofun, did⟩

theorem of_silent (silent : Silent w w') : Reads w w' := of_did (Did.of_accesses silent)

theorem of_polls {address : U32} (all : Polls address log) (did : Did log w w') : Reads w w' := by
  refine ⟨log, fun access member => ?_, did⟩
  obtain ⟨data, rfl⟩ := all access member
  rfl

instance : HostFrame Reads where
  refl _ := of_did (Did.of_quiet rfl rfl)
  trans _ _ _ first rest := by
    obtain ⟨log, reads, did⟩ := first
    obtain ⟨log', reads', did'⟩ := rest
    refine ⟨log ++ log', fun access member => ?_, did.trans did'⟩
    exact (List.mem_append.mp member).elim (reads access) (reads' access)
  talk s s' talk := by
    have parameters := congrArg (fun w : World => w.handle.parameters) talk.kept
    obtain ⟨new, trace, heard⟩ := talk.adds
    refine of_did ⟨parameters, new, trace, accessLog_quiet fun e member => ?_⟩
    have heard := heard e member
    cases e <;> first | rfl | cases heard

instance : LatchFrame Reads where
  strobe s reg byte latches offAt := by
    have noted : Reads s { s with trace := .strobe reg byte :: s.trace } := of_did (Did.note _ _ rfl)
    refine trans_of Reads noted ?_
    exact of_did (Did.of_quiet rfl rfl)

instance : CacheFrame Reads where
  cache _ _ _ _ _ := of_did (Did.of_quiet rfl rfl)
  control s _ := of_did (Did.note s _ rfl)
  addressed s _ _ _ := of_did (Did.note s _ rfl)

instance : SenseFrame Reads where
  sense s e passive := by
    cases e with
    | read address data latches =>
      exact ⟨[.read address data], by simp [Access.isRead], rfl, [.read address data latches], rfl, rfl⟩
    | measured => exact of_did (Did.note s _ rfl)
    | _ => cases passive

theorem setHandle (env : Env) (f : Handle → Handle) (kept : ∀ h, (f h).parameters = h.parameters) :
    Within env Reads (setHandle f) :=
  Within.update _ fun w => of_did (Did.of_quiet (kept w.handle) rfl)

instance : Within env Reads memoryReadExecute := by
  have (i : Nat) (data : U8) := setHandle env
    (fun h => { h with dataBuffer := storeByte h.dataBuffer i data }) fun _ => rfl
  have (n : U32) := setHandle env (fun h => { h with dataSize := n }) fun _ => rfl
  unfold memoryReadExecute
  infer_instance

theorem setter (reads : Reads w w') (setter : GenericSetter w) : GenericSetter w' := by
  obtain ⟨log, -, did⟩ := reads
  exact did.setter setter

end Reads

/-! ## What it makes of the part -/

variable {σ μ : Type} {P : Device U32 σ} {rest : μ → σ} {g g' : μ → μ}

/-- A run that takes the part from rest to rest, and what it makes of what the part holds. -/
def Makes (P : Device U32 σ) (rest : μ → σ) (g : μ → μ) (w w' : World) : Prop :=
  ∃ log, Did log w w' ∧ ∀ x, P.run (rest x) (log.map Access.cycle) = some (rest (g x))

theorem Makes.trans (first : Makes P rest g w w') (later : Makes P rest g' w' w'') :
    Makes P rest (fun x => g' (g x)) w w'' := by
  obtain ⟨log, did, takes⟩ := first
  obtain ⟨log', did', takes'⟩ := later
  refine ⟨log ++ log', did.trans did', fun x => ?_⟩
  rw [List.map_append]
  exact Device.run_trans (takes x) (takes' (g x))

theorem Makes.setter (makes : Makes P rest g w w') (setter : GenericSetter w) : GenericSetter w' := by
  obtain ⟨log, did, -⟩ := makes
  exact did.setter setter

theorem Makes.parameters (makes : Makes P rest g w w') :
    w'.handle.parameters = w.handle.parameters := by
  obtain ⟨log, did, -⟩ := makes
  exact did.parameters

/-- A part at rest is not changed by reads. -/
def StillRead (P : Device U32 σ) (rest : μ → σ) : Prop :=
  ∀ x a, P.take (rest x) (.read a) = some (rest x)

theorem Reads.cycles {reads : List Access} (all : ∀ access ∈ reads, access.isRead = true) :
    ∀ cycle ∈ reads.map Access.cycle, ∃ a, cycle = .read a := by
  intro cycle member
  obtain ⟨access, read, rfl⟩ := List.mem_map.mp member
  cases access with
  | read address data => exact ⟨address, rfl⟩
  | _ => cases all _ read

theorem Makes.congr (makes : Makes P rest g w w') (same : ∀ x, g x = g' x) :
    Makes P rest g' w w' := by
  obtain ⟨log, did, takes⟩ := makes
  exact ⟨log, did, fun x => same x ▸ takes x⟩

theorem Reads.makes (still : StillRead P rest) (reads : Reads w w') : Makes P rest id w w' := by
  obtain ⟨log, all, did⟩ := reads
  exact ⟨log, did, fun x => Device.run_reads (still x) (Reads.cycles all)⟩

theorem Makes.after (still : StillRead P rest) (reads : Reads w w') (makes : Makes P rest g w' w'') :
    Makes P rest g w w'' := (reads.makes still).trans makes

theorem Makes.onward (still : StillRead P rest) (makes : Makes P rest g w w') (reads : Reads w' w'') :
    Makes P rest g w w'' := makes.trans (reads.makes still)

/-! ## Callbacks -/

/-- A callback that took the part from rest to rest has served it. -/
theorem Makes.serves {K : PartContract σ} {callback : Callback} (makes : Makes K.part rest g w w')
    (between : ∀ s, K.between s ↔ ∃ x, s = rest x)
    (pauses : ∀ x, K.part.take (rest x) .pause = some (rest x))
    (served : ∀ x, K.served callback w.handle w'.handle.responseCode (rest x) (rest (g x))) :
    K.Serves callback w w' := by
  obtain ⟨log, did, takes⟩ := makes
  refine ⟨log, did.logged, fun s here => ?_⟩
  obtain ⟨x, rfl⟩ := (between s).mp here
  refine ⟨rest (g x), ?_, (between _).mpr ⟨_, rfl⟩, served x⟩
  refine Device.run_trans (takes x) ?_
  rw [Device.run_cons, pauses]
  rfl

theorem Makes.breaks {K : PartContract σ} (makes : Makes K.part rest g w w')
    (between : ∀ s, K.between s → ∃ x, s = rest x) : K.Breaks w w' := by
  obtain ⟨log, did, takes⟩ := makes
  refine ⟨log, did.logged, fun s here => ?_⟩
  obtain ⟨x, rfl⟩ := between s here
  exact ⟨_, takes x⟩

end Firestarter
