import Firestarter.WriteContents

/-! What an erase leaves in the part. Once the host is told that the main phase is over, the part has
been erased, once, and nothing else has been done to its array since the phase began. -/
namespace Firestarter

set_option synthInstance.maxSize 256

open Interactive Interactive.Prog MemoryPart

/-! ## A command of one step, followed -/

/-- A contract whose main callback makes one thing of the array, in a command of a single step. -/
structure PartContract.Applies {σ : Type} (K : PartContract σ) (h : Handle)
    (g : Handle → (U32 → U8) → U32 → U8) : Prop where
  serves : ∀ {callback : Callback} {entry : Handle} {code : U8} {s s' : σ},
    h.firestarterOperationMain = some callback → K.served callback entry code s s' →
      K.part.array s' = g entry (K.part.array s)
  single : h.isSingleStep = true
  last : h.firestarterOperationEnd = none

section
variable {h : Handle} {σ : Type} {K : PartContract σ} {g : Handle → (U32 → U8) → U32 → U8}
variable {p p' : PartContract.View σ} {r r' : PhaseView} {es : List Event} {e : Event}

/-- Where the main phase stands that found `base` in the part, after the events `mid`. -/
structure SteppedFrom (h : Handle) (K : PartContract σ) (g : Handle → (U32 → U8) → U32 → U8)
    (base : U32 → U8) (mid : List Event) (p : PartContract.View σ) (r : PhaseView) : Prop where
  waiting : r.mainCalled = false → p.call = none ∧ K.part.array p.state = base
  running : ∀ callback entry found, p.call = some (callback, entry, found) →
    h.firestarterOperationMain = some callback ∧ .called callback entry ∈ mid ∧
      K.part.array found = base
  done : r.mainCalled = true → p.call = none →
    ∃ callback entry, h.firestarterOperationMain = some callback ∧
      .called callback entry ∈ mid ∧ K.part.array p.state = g entry base

/-- What the two observers of a single step know together. -/
structure StepKnown (h : Handle) (K : PartContract σ) (g : Handle → (U32 → U8) → U32 → U8)
    (es : List Event) (p : PartContract.View σ) (r : PhaseView) : Prop where
  early : r.number < 3 → r.mainCalled = false
  once : r.number = 3 → r.mainCalled = true → r.called = true
  main : 3 ≤ r.number → ∃ pre mid s, es = pre ++ .advanced 3 :: mid ∧ K.after pre = some s ∧
    SteppedFrom h K g (K.part.array s) mid p r

namespace StepKnown

theorem start : StepKnown h K g [] { state := K.start } {} where
  early _ := rfl
  once _ called := Bool.noConfusion called
  main late := absurd late (Nat.not_succ_le_zero 2)

/-- An event that is no part of the step. -/
theorem other (k : StepKnown h K g es p r) (number : r'.number = r.number)
    (mainCalled : r'.mainCalled = r.mainCalled) (called : r'.called = r.called)
    (call : p'.call = p.call) (state : p.call = none → p'.state = p.state) :
    StepKnown h K g (es ++ [e]) p' r' where
  early before := by
    rw [mainCalled]
    exact k.early (number ▸ before)
  once main done := by
    rw [called]
    exact k.once (number ▸ main) (mainCalled ▸ done)
  main late := by
    obtain ⟨pre, mid, s, rfl, here, m⟩ := k.main (number ▸ late)
    refine ⟨pre, mid ++ [e], s, by simp, here, fun waits => ?_, fun callback entry found runs => ?_,
      fun done idle => ?_⟩
    · obtain ⟨none, same⟩ := m.waiting (mainCalled ▸ waits)
      rw [call, state none]
      exact ⟨none, same⟩
    · obtain ⟨named, member, same⟩ := m.running callback entry found (call ▸ runs)
      exact ⟨named, List.mem_append_left _ member, same⟩
    · have none := call ▸ idle
      obtain ⟨callback, entry, named, member, same⟩ := m.done (mainCalled ▸ done) none
      rw [state none]
      exact ⟨callback, entry, named, List.mem_append_left _ member, same⟩

/-- The main phase begins with what the part then holds. -/
theorem advanced (k : StepKnown h K g es p r) {n : U8} (after : K.after es = some p.state)
    (idle : p.call = none) (next : n.toNat = r.number + 1) :
    StepKnown h K g (es ++ [.advanced n]) p
      { r with number := n.toNat, acked := false, called := false } where
  early before := by
    have before : n.toNat < 3 := before
    exact k.early (by omega)
  once main done := by
    have main : n.toNat = 3 := main
    exact Bool.noConfusion ((k.early (by omega)).symm.trans done)
  main late := by
    have late : 3 ≤ n.toNat := late
    by_cases enters : r.number = 2
    · have third : n = 3 := BitVec.eq_of_toNat_eq (by rw [next, enters]; rfl)
      have uncalled := k.early (by omega)
      refine ⟨es, [], p.state, by rw [third], after, fun _ => ⟨idle, rfl⟩, fun _ _ _ runs => ?_,
        fun done _ => Bool.noConfusion (uncalled.symm.trans done)⟩
      cases idle.symm.trans runs
    · obtain ⟨pre, mid, s, rfl, here, m⟩ := k.main (by omega)
      refine ⟨pre, mid ++ [.advanced n], s, by simp, here, m.waiting,
        fun callback entry found runs => ?_, fun done idle => ?_⟩
      · cases idle.symm.trans runs
      · obtain ⟨callback, entry, named, member, same⟩ := m.done done idle
        exact ⟨callback, entry, named, List.mem_append_left _ member, same⟩

/-- The callback of the main phase is entered at most once. -/
theorem called (k : StepKnown h K g es p r) (single : h.isSingleStep = true)
    (last : h.firestarterOperationEnd = none) {callback : Callback} {entry : Handle}
    (named : h.phaseCallback r.number = some callback)
    (again : r.called = true → r.number = 3 ∧ h.isSingleStep = false) :
    StepKnown h K g (es ++ [.called callback entry])
      { p with call := some (callback, entry, p.state) }
      { r with called := true, mainCalled := r.mainCalled || r.number == 3 } where
  early before := by
    have before : r.number < 3 := before
    have other : (r.number == 3) = false := beq_eq_false_iff_ne.mpr (Nat.ne_of_lt before)
    show (r.mainCalled || r.number == 3) = false
    rw [k.early before, other]
    rfl
  once _ _ := rfl
  main late := by
    have late : 3 ≤ r.number := late
    have third : r.number = 3 := by
      unfold Handle.phaseCallback at named
      by_contra other
      rw [if_neg (by omega), if_neg other, last] at named
      split at named <;> cases named
    have uncalled : r.mainCalled = false := by
      refine Bool.eq_false_iff.mpr fun done => ?_
      exact Bool.noConfusion (single.symm.trans (again (k.once third done)).2)
    obtain ⟨pre, mid, s, rfl, here, m⟩ := k.main late
    have main : h.firestarterOperationMain = some callback := by
      rw [third] at named
      exact named
    refine ⟨pre, mid ++ [.called callback entry], s, by simp, here, fun waits => ?_,
      fun callback' entry' found runs => ?_, fun _ idle => ?_⟩
    · have waits : (r.mainCalled || r.number == 3) = false := waits
      rw [third, Bool.or_eq_false_iff] at waits
      cases waits.2
    · cases runs
      exact ⟨main, List.mem_append_right _ (List.mem_singleton.mpr rfl), (m.waiting uncalled).2⟩
    · cases idle

/-- It comes back, with its work done on the array. -/
theorem returned (k : StepKnown h K g es p r) (applies : K.Applies h g)
    {callback callback' : Callback} {entry : Handle} {code : U8} {found left : σ}
    (call : p.call = some (callback', entry, found))
    (served : K.served callback' entry code found left) (failed : Bool) :
    StepKnown h K g (es ++ [.returned callback code]) { state := left }
      { r with failed := failed } where
  early := k.early
  once := k.once
  main late := by
    obtain ⟨pre, mid, s, rfl, here, m⟩ := k.main late
    obtain ⟨named, member, same⟩ := m.running _ _ _ call
    refine ⟨pre, mid ++ [.returned callback code], s, by simp, here, fun waits => ?_,
      fun _ _ _ runs => ?_, fun _ _ => ?_⟩
    · cases call.symm.trans (m.waiting waits).1
    · cases runs
    · refine ⟨callback', entry, named, List.mem_append_left _ member, ?_⟩
      rw [← same]
      exact applies.serves named served

/-- What one event tells the two. -/
theorem observe (k : StepKnown h K g es p r) (applies : K.Applies h g)
    (after : K.after es = some p.state) (heard : K.observer.observe p e = some p')
    (phase : r.observe h e = some r') : StepKnown h K g (es ++ [e]) p' r' := by
  cases e with
  | read | wrote | flipped =>
    obtain ⟨same, running⟩ := WriteKnown.call_of_touch rfl heard
    obtain rfl := Option.some.inj phase
    exact k.other rfl rfl rfl same fun none => absurd none running
  | advanced n =>
    have heard : p.observe K (.advanced n) = some p' := heard
    obtain ⟨idle, same⟩ := Option.ite_none_right_eq_some.mp heard
    obtain rfl := Option.some.inj same
    obtain ⟨⟨next, -⟩, same⟩ := Option.ite_none_right_eq_some.mp phase
    obtain rfl := Option.some.inj same
    exact k.advanced after idle next
  | called callback entry =>
    have heard : p.observe K (.called callback entry) = some p' := heard
    obtain ⟨-, same⟩ := Option.ite_none_right_eq_some.mp heard
    obtain rfl := Option.some.inj same
    obtain ⟨⟨-, named, -, again⟩, same⟩ := Option.ite_none_right_eq_some.mp phase
    obtain rfl := Option.some.inj same
    exact k.called applies.single applies.last named again
  | returned callback code =>
    have heard : p.observe K (.returned callback code) = some p' := heard
    dsimp only [PartContract.View.observe] at heard
    split at heard
    · cases heard
    rename_i callback' entry found call
    split at heard
    · cases heard
    obtain ⟨⟨-, served⟩, same⟩ := Option.ite_none_right_eq_some.mp heard
    obtain rfl := Option.some.inj same
    obtain rfl := Option.some.inj phase
    exact k.returned applies call served _
  | emitted id params =>
    have heard : p.observe K (.emitted id params) = some p' := heard
    have same : p = p' := by
      dsimp only [PartContract.View.observe] at heard
      split at heard
      · cases heard
      · exact Option.some.inj heard
    have kept : r'.number = r.number ∧ r'.mainCalled = r.mainCalled ∧ r'.called = r.called := by
      dsimp only [PhaseView.observe] at phase
      split_ifs at phase <;> obtain rfl := Option.some.inj phase <;> exact ⟨rfl, rfl, rfl⟩
    rw [← same]
    exact k.other kept.1 kept.2.1 kept.2.2 rfl fun _ => rfl
  | message kind payload =>
    have heard : p.observe K (.message kind payload) = some p' := heard
    obtain rfl := Option.some.inj heard
    have kept : r'.number = r.number ∧ r'.mainCalled = r.mainCalled ∧ r'.called = r.called := by
      cases kind <;> obtain rfl := Option.some.inj phase <;> exact ⟨rfl, rfl, rfl⟩
    exact k.other kept.1 kept.2.1 kept.2.2 rfl fun _ => rfl
  | _ =>
    have heard : p = p' := Option.some.inj heard
    obtain rfl := Option.some.inj phase
    rw [← heard]
    exact k.other rfl rfl rfl rfl fun _ => rfl

theorem of_follows (applies : K.Applies h g) (part : K.observer.Follows es p)
    (phases : (phaseObserver h).Follows es r) : StepKnown h K g es p r := by
  induction es using List.reverseRecOn generalizing p r with
  | nil =>
    rw [← Option.some.inj part, ← Option.some.inj phases]
    exact start
  | append_singleton es e ih =>
    obtain ⟨p₁, before, heard⟩ := K.observer.follows_snoc.mp part
    obtain ⟨r₁, r₂, orders, phase, same⟩ := (phaseObserver h).follows_split phases
    obtain rfl := Option.some.inj same
    exact (ih before orders).observe applies (PartContract.run_of_sees before).1 heard phase

end StepKnown

/-- What a single step has made of the part when the host is told that it is done. -/
theorem PartContract.stepped_of_follows (applies : K.Applies h g) {pre post : List Event}
    {params : List U8}
    (part : K.observer.Follows (pre ++ .emitted msgMainDone params :: post) p)
    (phases : (phaseObserver h).Follows (pre ++ .emitted msgMainDone params :: post) r) :
    ∃ before mid s s' callback entry, pre = before ++ .advanced 3 :: mid ∧
      K.after before = some s ∧ K.after pre = some s' ∧
      h.firestarterOperationMain = some callback ∧ .called callback entry ∈ mid ∧
      K.part.array s' = g entry (K.part.array s) := by
  obtain ⟨p₁, p₂, followed, heard, -⟩ := K.observer.follows_split part
  obtain ⟨r₁, r₂, phase, next, -⟩ := (phaseObserver h).follows_split phases
  have all := StepKnown.of_follows applies followed phase
  have heard : p₁.observe K (.emitted msgMainDone params) = some p₂ := heard
  have idle : p₁.call = none := by
    by_contra busy
    dsimp only [PartContract.View.observe] at heard
    rw [if_pos ⟨rfl, busy⟩] at heard
    cases heard
  have done : r₁.mainCalled = true := by
    have next : r₁.observe h (.emitted msgMainDone params) = some r₂ := next
    dsimp only [PhaseView.observe] at next
    rw [if_neg (by decide)] at next
    obtain ⟨init | last | main, -⟩ := Option.ite_none_right_eq_some.mp next
    · cases init.1
    · cases last.1
    · exact main.2.2 applies.single
  have late : 3 ≤ r₁.number := by
    by_contra before
    exact Bool.noConfusion ((all.early (by omega)).symm.trans done)
  obtain ⟨before, mid, s, split, here, m⟩ := all.main late
  obtain ⟨callback, entry, named, member, same⟩ := m.done done idle
  exact ⟨before, mid, s, p₁.state, callback, entry, split, here,
    (PartContract.run_of_sees followed).1, named, member, same⟩

end

/-! ## Parts that are unlocked -/

/-- What an erase makes of the array: a page part is always erased whole. -/
def Handle.clears (h : Handle) (sector : U32 → U32 → Bool) (entry : Handle) (array : U32 → U8) :
    U32 → U8 :=
  if driverFor h.protocol == some .flash5vPage then erased else entry.erasedFrom sector array

/-- The main callback of an erase. -/
theorem Driver.setUp_unlockedErase {driver : Driver} (b : Build) (hw : U8) {decoded : Handle}
    (erases : decoded.cmd = cmdErase) :
    (driver = .flashNorUnlock → (driver.setUp b hw decoded).firestarterOperationMain =
        some .flashNorUnlockEraseExecute) ∧
      (driver = .flash5vPage → (driver.setUp b hw decoded).firestarterOperationMain =
        some .flashUtilChipErase) := by
  have named : (decoded.withoutCallbacks.withMemoryCallbacks.withReadHighMask b hw).cmd = cmdErase :=
    erases
  constructor
  · rintro rfl
    unfold Driver.setUp Driver.configured
    dsimp only
    rw [Handle.withFlashNorUnlockCallbacks, named]
    rfl
  · rintro rfl
    unfold Driver.setUp Driver.configured
    dsimp only
    rw [Handle.withFlash5vPageCallbacks, named]
    rfl

theorem unlocked_applies {env : Env} {h : Handle} (accepted : h.AcceptedIn env)
    (erases : h.cmd = cmdErase) (unlocked : h.isUnlocked = true) (sector : U32 → U32 → Bool)
    (array : U32 → U8) : (unlockedContract h sector array).Applies h (h.clears sector) := by
  have single : h.isSingleStep = true := by
    rw [Handle.isSingleStep, erases]
    rfl
  obtain ⟨memory, drivers⟩ := Bool.and_eq_true_iff.mp unlocked
  rcases Bool.or_eq_true_iff.mp drivers with nor | page
  · have found := beq_iff_eq.mp nor
    obtain ⟨main, last⟩ := accepted.unlockedMain memory found (.inl rfl) fun hw _ cmd =>
      (Driver.setUp_unlockedErase env.build hw (cmd.trans erases)).1 rfl
    refine ⟨fun {callback entry code s s'} named served => ?_, single, last⟩
    cases main.symm.trans named
    have clears : h.clears sector entry = entry.erasedFrom sector := by
      funext held
      rw [Handle.clears, found]
      rfl
    rw [clears]
    exact served
  · have found := beq_iff_eq.mp page
    obtain ⟨main, last⟩ := accepted.unlockedMain memory found (.inr rfl) fun hw _ cmd =>
      (Driver.setUp_unlockedErase env.build hw (cmd.trans erases)).2 rfl
    refine ⟨fun {callback entry code s s'} named served => ?_, single, last⟩
    cases main.symm.trans named
    have clears : h.clears sector entry = fun _ => erased := by
      funext held
      rw [Handle.clears, found]
      rfl
    rw [clears]
    exact served

/-- When the host is told that the main phase of an erase is over, wherever the run is cut off later,
the part has been erased as the main callback was asked to, and has held everything else since the
phase began. -/
theorem erase_contents {env : Env} {w : World} (seen : Seen env w) {h : Handle} {es : List Event}
    (events : commandEvents w.trace = some (h, es)) (erases : h.cmd = cmdErase)
    (unlocked : h.isUnlocked = true) (sector : U32 → U32 → Bool) (array : U32 → U8)
    {pre post : List Event} {params : List U8}
    (told : es = pre ++ .emitted msgMainDone params :: post) :
    ∃ before mid found left callback entry, pre = before ++ .advanced 3 :: mid ∧
      (unlockedContract h sector array).after before = some found ∧
      (unlockedContract h sector array).after pre = some left ∧
      h.firestarterOperationMain = some callback ∧ .called callback entry ∈ mid ∧
      left.array = h.clears sector entry found.array := by
  have memory : isMemoryCmd h.cmd = true := by
    rw [erases]
    rfl
  subst told
  obtain ⟨p, part⟩ := follows_of_picked (fun h picked =>
    (show ChipSession env h _ from unlocked_session sector array picked).observation) seen
    events memory unlocked
  obtain ⟨r, phases⟩ := follows_of_seen (phaseObservation env) seen events memory
  have accepted : h.AcceptedIn env := law_of_seen (acceptedLaw env) seen events memory
  exact PartContract.stepped_of_follows (unlocked_applies accepted erases unlocked sector array) part
    phases

/-- The erase of a NOR part. -/
def norErase : Handle := { norWrite with cmd := cmdErase, regionEnd := 0 }

/-- A Leonardo whose host acknowledges every phase, for a part that holds zeros. -/
def norEraseEnv : Env :=
  { Env.still ⟨.leonardo, false⟩ 200 with chip := norErase.unlockedChip fun _ => 0 }.sends <|
    memoryFrame norErase ++ [asciiO, asciiK, asciiO, asciiK, asciiO, asciiK]

theorem split_at_mainDone {es : List Event} {k : Nat}
    (here : phaseFrames ((es.drop k).take 1) = [msgMainDone]) :
    ∃ params post, es = es.take k ++ .emitted msgMainDone params :: post := by
  have whole := List.take_append_drop k es
  cases rest : es.drop k with
  | nil =>
    rw [rest] at here
    cases here
  | cons e post =>
    rw [rest] at here whole
    cases e with
    | emitted id params =>
      have ends : (if id ∈ doneFrames then [id] else []) = [msgMainDone] := by
        rw [← here]
        by_cases done : id ∈ doneFrames <;> simp [phaseFrames, done]
      have same : id = msgMainDone := by
        split at ends
        · exact List.singleton_inj.mp ends
        · cases ends
      rw [same] at whole
      exact ⟨params, post, whole.symm⟩
    | _ => cases here

/-- The part held zeros, and is erased. -/
theorem erase_contents_norErase : ∃ (w : World) (h : Handle) (es pre : List Event)
    (params : List U8) (entry : Handle) (found left : U32 → U8),
    commandEvents w.trace = some (h, es) ∧ pre ++ [.emitted msgMainDone params] <+: es ∧
      [0, 1, 0xFFFF].map left = [0xFF, 0xFF, 0xFF] ∧
      left = h.clears (fun _ _ => false) entry found := by
  have ran : commandAfter norEraseEnv 4 (fun _ h es => (h.cmd, h.isUnlocked,
      phaseFrames ((es.drop 41).take 1),
      ((unlockedContract h (fun _ _ => false) fun _ => 0).after (es.take 41)).map fun s =>
        [0, 1, 0xFFFF].map s.array)) =
      some (cmdErase, true, [msgMainDone], some [0xFF, 0xFF, 0xFF]) := by
    decide +kernel
  obtain ⟨w, h, es, -, seen, events, ran⟩ := exists_of_commandAfter ran
  obtain ⟨erases, ran⟩ := Prod.mk.inj ran
  obtain ⟨unlocked, ran⟩ := Prod.mk.inj ran
  obtain ⟨here, after⟩ := Prod.mk.inj ran
  obtain ⟨params, post, told⟩ := split_at_mainDone here
  obtain ⟨before, mid, found, left, callback, entry, -, -, there, -, -, cleared⟩ :=
    erase_contents seen events erases unlocked (fun _ _ => false) (fun _ => 0) told
  rw [there] at after
  exact ⟨w, h, es, _, params, entry, found.array, left.array, events,
    ⟨post, by simpa using told.symm⟩, Option.some.inj after, cleared⟩

end Firestarter
