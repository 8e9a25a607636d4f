import Playthrough.Proofs.Session.Players
import Playthrough.Proofs.Session.Usage
import Playthrough.Proofs.Task.Conduct

/-!
Contract: where a play-through stands between two turns.

Owns: the situations of a play-through, what its state and its tasks are like in each of them, and
that operations which wait do not change that.

Does not own: how a play-through comes from one situation to another.

A situation says which drivers hold a task, which of these tasks goes on, and how the scenes and the
epilogue look. At most one task plays. Beside it there is at most the operation that has begun and not
completed, and a task that the operation has cancelled.
-/

namespace Playthrough.Session.Alone

/-- What an outline of the only play-through is made of. -/
abbrev Draft := Outline Alone Role SceneKind Reply

/-- The scenes of a play-through and its endings, which never change. -/
structure Scenes where
  text : Scenario
  encounter : Scenario
  endings : EndingTable
  text_kind : text.kind = .text
  encounter_kind : encounter.kind = .encounter

namespace Scenes

/-- The scene of a kind. -/
def scenario (scenes : Scenes) : SceneKind → Scenario
  | .text => scenes.text
  | .encounter => scenes.encounter

/-- The scenes that are played when some are given. -/
def given (textScene : Option TextScene) (encounterScene : Option EncounterScene) : Scenes :=
  { text := (textScene.getD .fallback).scenario
    encounter := (encounterScene.getD .fallback).scenario
    endings := (encounterScene.getD .fallback).endings
    text_kind := rfl
    encounter_kind := rfl }

/-- Whether a play-through is one of these scenes. -/
structure Of (scenes : Scenes) (session : Session) : Prop where
  scenario_eq : ∀ kind, (session.interpreter kind).scenario = scenes.scenario kind
  endings_eq : session.endings = scenes.endings

end Scenes

/-- An interpreter that has not played since it was made or reset. -/
structure Untouched (interpreter : Interpreter) : Prop where
  idle : interpreter.progress = .idle
  silent : interpreter.events = []
  nothingOffered : interpreter.choices = []
  notReady : interpreter.transitionReady = false

theorem untouched_reset (interpreter : Interpreter) : Untouched interpreter.reset :=
  ⟨rfl, rfl, rfl, rfl⟩

/-- Where a play-through stands. A driver that plays has so many waits ahead. -/
inductive Situation where
  /-- Nothing was begun. -/
  | fresh
  /-- A scene is played, or rests, at the stop that it comes to. -/
  | scene (kind : SceneKind) (id : TaskId) (halt : Halt) (ahead : Option Nat)
  /-- The text scene is being left. -/
  | leaving
  | transition
  /-- A choice at a place is being made. -/
  | claimed (kind : SceneKind) (index : Nat)
  /-- The epilogue is played, or was played. -/
  | epilogue (finished id : TaskId) (ahead : Option Nat)
  /-- A restart waits for the task of a driver. -/
  | clearing (stage : Role) (leaver : Option TaskId)
  /-- A restart waits for the task of the encounter while the epilogue still goes on. -/
  | fading (id : TaskId) (ahead : Option Nat)

namespace Situation

/-- The task in the slot of a driver. -/
def slot : Situation → Role → Option TaskId
  | .scene kind id _ _, role => if role = roleOf kind then some id else none
  | .epilogue finished _ _, .encounter => some finished
  | .epilogue _ id _, .epilogue => some id
  | .fading id _, .epilogue => some id
  | _, _ => none

/-- The driver that plays, and its task. -/
def performer : Situation → Option (Role × TaskId)
  | .scene kind id _ (some _) => some (roleOf kind, id)
  | .epilogue _ id (some _) => some (.epilogue, id)
  | .fading id (some _) => some (.epilogue, id)
  | _ => none

/-- The task that was cancelled and may still be there. -/
def leaver : Situation → Option TaskId
  | .clearing _ leaver => leaver
  | _ => none

/-- Whether no operation is in the middle of a change. -/
def Calm : Situation → Prop
  | .fresh => True
  | .scene _ _ _ _ => True
  | .transition => True
  | .epilogue _ _ _ => True
  | _ => False

/-- Whether nothing was begun. -/
def isFresh : Situation → Bool
  | .fresh => true
  | _ => false

/-- The phase of a situation. -/
def phase : Situation → Phase
  | .fresh => .textScene
  | .scene kind _ _ _ => phaseOf kind
  | .leaving => .textScene
  | .transition => .transition
  | .claimed kind _ => phaseOf kind
  | .epilogue _ _ _ => .epilogue
  | .clearing .text _ => .textScene
  | .clearing .encounter _ => .encounter
  | .clearing .epilogue _ => .epilogue
  | .fading _ _ => .epilogue

/-- The places at which choices may be offered from now on. -/
def MayOffer : Situation → SceneKind × Nat → Prop
  | .fresh, _ => True
  | .scene kind _ halt _, place =>
      (kind = .text ∧ place.1 = .encounter)
        ∨ (place.1 = kind ∧ ∃ index node, halt = .offering index node ∧ index ≤ place.2)
  | .leaving, place => place.1 = .encounter
  | .transition, place => place.1 = .encounter
  | .claimed kind index, place =>
      (kind = .text ∧ place.1 = .encounter) ∨ (place.1 = kind ∧ index ≤ place.2)
  | .epilogue _ _ _, _ => False
  | .clearing _ _, _ => True
  | .fading _ _, _ => True

/-- The place whose choices are on offer. -/
def offering? : Situation → Option (SceneKind × Nat)
  | .scene kind _ (.offering index _) none => some (kind, index)
  | _ => none

/-- The place whose choices are on offer or of which one is being made. -/
def showing? : Situation → Option (SceneKind × Nat)
  | .claimed kind index => some (kind, index)
  | situation => situation.offering?

/-- What a play-through of some scenes looks like in a situation. -/
def Looks (scenes : Scenes) : Situation → Session → Prop
  | .fresh, session =>
      session.phase = .textScene ∧ session.epilogue = .blank ∧ Untouched session.text
        ∧ Untouched session.encounter
  | .scene kind _ halt ahead, session =>
      Around kind session ∧ (kind = .text → Untouched session.encounter)
        ∧ halt.Fits (scenes.scenario kind) 0
        ∧ ∃ preferences, match ahead with
          | some _ =>
              Interpreter.InPlay (scenes.scenario kind) preferences (session.interpreter kind)
          | none =>
              AtStop (scenes.scenario kind) preferences halt (session.interpreter kind)
                ∧ (kind = .encounter → ∀ index, halt ≠ .ended index)
  | .leaving, session =>
      session.phase = .textScene ∧ session.epilogue = .blank ∧ Untouched session.encounter
        ∧ session.text.progress ∈ [.transitionReady, .terminal]
  | .transition, session =>
      session.phase = .transition ∧ session.epilogue = .blank ∧ Untouched session.encounter
        ∧ session.text.progress ∈ [.transitionReady, .terminal]
        ∧ session.preferences.pacing ≠ .fast
  | .claimed kind index, session =>
      (kind = .text → Untouched session.encounter)
        ∧ (session.interpreter kind).nodeIndex = index
        ∧ ∃ preferences, Playing kind (scenes.scenario kind) preferences session
  | .epilogue _ _ ahead, session =>
      session.phase = .epilogue ∧ session.encounter.progress = .terminal
        ∧ ComesTo (earnedEpilogue session) session.epilogue
        ∧ (ahead = none → session.epilogue = earnedEpilogue session)
  | .clearing .text _, session =>
      session.phase = .textScene ∧ session.epilogue = .blank ∧ Untouched session.encounter
  | .clearing .encounter _, session =>
      session.phase = .encounter ∧ Untouched session.text
        ∧ session.encounter.progress ∈ [.running, .awaitingChoice]
  | .clearing .epilogue _, session =>
      session.phase = .epilogue ∧ Untouched session.text ∧ Untouched session.encounter
  | .fading _ _, session =>
      session.phase = .epilogue ∧ Untouched session.text ∧ session.encounter.progress = .terminal
        ∧ ComesTo (earnedEpilogue session) session.epilogue

/-- The program of the driver that plays comes to its end. -/
def Underway (scenes : Scenes) :
    Situation → Plan → List (Frame Alone Role SceneKind Reply) → Alone → Prop
  | .scene kind _ halt (some ahead), program, frames, store =>
      (sceneSeat kind).Sheltered frames ∧ ∃ preferences, ∃ entries : List Unit,
        entries.length = ahead ∧ ∀ later : Alone, later.session = store.session →
          Runs machine tally (sceneTerms kind (scenes.scenario kind) preferences halt) program frames
            later entries
  | .epilogue _ _ (some ahead), program, frames, store =>
      frames = [] ∧ ∃ entries : List Unit,
        entries.length = ahead ∧ ∀ later : Alone, later.session.epilogue = store.session.epilogue →
          Runs machine tally (epilogueTerms (earnedEpilogue store.session)) program frames later
            entries
  | .fading _ (some ahead), program, frames, store =>
      frames = [] ∧ ∃ entries : List Unit,
        entries.length = ahead ∧ ∀ later : Alone, later.session.epilogue = store.session.epilogue →
          Runs machine tally (epilogueTerms (earnedEpilogue store.session)) program frames later
            entries
  | _, _, _, _ => False

end Situation

/-- What is around a program of a driver when it is cancelled. -/
def Retreats (stage : Role) (frames : List (Frame Alone Role SceneKind Reply)) : Prop :=
  frames = [] ∨ ∃ kind next, stage = roleOf kind ∧ frames = [.ensured (sceneSeat kind).unhold next]

/-- A play-through stands in a situation: its state, its drivers and its tasks are as the situation
has it. The bystanders are operations from outside. -/
structure Standing (scenes : Scenes) (situation : Situation) (bystanders : List TaskId)
    (outline : Draft) : Prop where
  scenes_of : scenes.Of outline.store.session
  looks : situation.Looks scenes outline.store.session
  slot_eq : ∀ role, (outline.holdings role).slot = situation.slot role
  within : ∀ role id, situation.slot role = some id → id < outline.count ∧ id ∉ bystanders
  apart : ∀ role other id, situation.slot role = some id → situation.slot other = some id →
    role = other
  bystands : ∀ id ∈ bystanders, id < outline.count
  performs : ∀ role id, situation.performer = some (role, id) →
    (outline.holdings role).live = some id ∧ ∃ task program, outline.tasks id = some task
      ∧ task.owner = some role ∧ task.control = .run program ∧ task.cancelPending = false
      ∧ id ∉ task.joiners ∧ situation.Underway scenes program task.frames outline.store
  leaves : ∀ stage id, situation = .clearing stage (some id) → id ∉ bystanders ∧
    ∀ task, outline.tasks id = some task →
      task.cancelPending = true ∧ id ∉ task.joiners ∧ Retreats stage task.frames
  only : ∀ id task, outline.tasks id = some task →
    id ∈ bystanders ∨ (∃ role, situation.performer = some (role, id)) ∨ situation.leaver = some id

variable {scenes : Scenes} {situation : Situation} {bystanders : List TaskId} {outline : Draft}

theorem offering?_of_phase {session : Session} {kind : SceneKind} (phase : session.phase = phaseOf kind) :
    session.offering? =
      if (session.interpreter kind).progress = .awaitingChoice then
        some (kind, (session.interpreter kind).nodeIndex)
      else none := by
  rw [offering?, place?, currentKind_eq_some.mpr phase]
  by_cases awaits : (session.interpreter kind).progress = .awaitingChoice <;> simp [awaits]

namespace Situation

/-- A play-through is in the phase of its situation. -/
theorem Looks.phase {session : Session} (looks : situation.Looks scenes session) :
    session.phase = situation.phase := by
  cases situation with
  | scene kind id halt ahead => exact looks.1.phase
  | claimed kind index =>
      obtain ⟨-, -, preferences, playing⟩ := looks
      exact playing.around.phase
  | clearing stage leaver => cases stage <;> exact looks.1
  | fresh => exact looks.1
  | leaving => exact looks.1
  | transition => exact looks.1
  | epilogue finished id ahead => exact looks.1
  | fading id ahead => exact looks.1

/-- An encounter that has not given way to the epilogue is running or awaits a choice. -/
theorem Looks.progress_of_encounter {id : TaskId} {halt : Halt} {ahead : Option Nat}
    {session : Session} (looks : Looks scenes (.scene .encounter id halt ahead) session) :
    session.encounter.progress ∈ [.running, .awaitingChoice] := by
  obtain ⟨-, -, fits, preferences, playing⟩ := looks
  cases ahead with
  | some ahead =>
      have running : session.encounter.progress = .running := playing.running
      simp [running]
  | none =>
      obtain ⟨⟨base, inPlay, -, -, stopped⟩, notEnded⟩ := playing
      have progress : session.encounter.progress = halt.progress := by
        rw [show session.encounter = base.halted halt from stopped]
        exact inPlay.progress_halted halt
      have neverReady := fits.neverReady scenes.encounter_kind
      rw [progress]
      cases halt with
      | offering index node => simp [Halt.progress]
      | ready index => exact absurd rfl (neverReady index)
      | ended index => exact absurd rfl (notEnded rfl index)
      | stuck index => simp [Halt.progress]

/-- Choices are on offer as the situation has it, unless they are being taken back. -/
theorem Looks.offering? {session : Session} (looks : situation.Looks scenes session)
    (notClearing : ∀ stage leaver, situation ≠ .clearing stage leaver) :
    session.offering? = situation.offering? := by
  cases situation with
  | fresh =>
      have idle : (session.interpreter .text).progress = .idle := looks.2.2.1.idle
      have phase : session.phase = phaseOf .text := looks.1
      rw [offering?_of_phase phase, idle]
      rfl
  | scene kind id halt ahead =>
      obtain ⟨around, -, -, preferences, playing⟩ := looks
      rw [offering?_of_phase around.phase]
      cases ahead with
      | some ahead =>
          rw [playing.running]
          cases halt <;> rfl
      | none =>
          obtain ⟨⟨base, inPlay, -, place, stopped⟩, -⟩ := playing
          rw [stopped, inPlay.progress_halted, Interpreter.nodeIndex_halted, place]
          cases halt <;> rfl
  | leaving =>
      have phase : session.phase = phaseOf .text := looks.1
      have stopped : (session.interpreter .text).progress ∈ [Progress.transitionReady, .terminal] :=
        looks.2.2.2
      rw [offering?_of_phase phase, if_neg]
      · rfl
      · intro awaits
        rw [awaits] at stopped
        simp at stopped
  | claimed kind index =>
      obtain ⟨-, -, preferences, playing⟩ := looks
      rw [offering?_of_phase playing.around.phase, playing.inPlay.running]
      rfl
  | transition => simp [Session.offering?, place?, currentKind?, looks.1, Situation.offering?]
  | epilogue _ _ _ => simp [Session.offering?, place?, currentKind?, looks.1, Situation.offering?]
  | fading _ _ => simp [Session.offering?, place?, currentKind?, looks.1, Situation.offering?]
  | clearing stage leaver => exact absurd rfl (notClearing stage leaver)

/-- Who plays is in the slot of its driver. -/
theorem slot_of_performer {role : Role} {id : TaskId} (performs : situation.performer = some (role, id)) :
    situation.slot role = some id := by
  cases situation with
  | scene kind task halt ahead =>
      cases ahead with
      | none => cases performs
      | some ahead =>
          cases performs
          simp [slot]
  | epilogue finished task ahead =>
      cases ahead with
      | none => cases performs
      | some ahead =>
          cases performs
          rfl
  | fading task ahead =>
      cases ahead with
      | none => cases performs
      | some ahead =>
          cases performs
          rfl
  | fresh => cases performs
  | leaving => cases performs
  | transition => cases performs
  | claimed kind index => cases performs
  | clearing stage leaver => cases performs

end Situation

namespace Standing

/-- A driver is active only where it plays. -/
theorem active_iff (standing : Standing scenes situation bystanders outline) (role : Role) :
    ((outline.holdings role).slot.bind outline.tasks).isSome = true ↔
      ∃ id, situation.performer = some (role, id) := by
  rw [standing.slot_eq]
  refine ⟨?_, ?_⟩
  · intro active
    obtain ⟨task, goesOn⟩ := Option.isSome_iff_exists.mp active
    obtain ⟨id, holding, found⟩ := Option.bind_eq_some_iff.mp goesOn
    rcases standing.only id task found with bystander | ⟨other, performs⟩ | leaves
    · exact absurd bystander (standing.within role id holding).2
    · have same := standing.apart role other id holding (Situation.slot_of_performer performs)
      exact ⟨id, same ▸ performs⟩
    · cases situation <;> simp_all [Situation.leaver, Situation.slot]
  · rintro ⟨id, performs⟩
    obtain ⟨-, task, program, found, -⟩ := standing.performs role id performs
    rw [Situation.slot_of_performer performs]
    exact Option.isSome_iff_exists.mpr ⟨task, found⟩

/-- At most one driver is active. -/
theorem active_unique (standing : Standing scenes situation bystanders outline) {role other : Role}
    (active : ((outline.holdings role).slot.bind outline.tasks).isSome = true)
    (otherActive : ((outline.holdings other).slot.bind outline.tasks).isSome = true) :
    role = other := by
  obtain ⟨id, performs⟩ := (standing.active_iff role).mp active
  obtain ⟨otherId, otherPerforms⟩ := (standing.active_iff other).mp otherActive
  rw [performs] at otherPerforms
  cases otherPerforms
  rfl

/-- A driver is inactive where it does not play. -/
theorem inactive {world : Setting} (standing : Standing scenes situation bystanders world.outline)
    {role : Role} (rests : ∀ id, situation.performer ≠ some (role, id)) : world.isActive role = false := by
  rw [← Bool.not_eq_true, World.isActive_eq]
  intro active
  obtain ⟨id, performs⟩ := (standing.active_iff role).mp active
  exact rests id performs

end Standing

/-! ## Bystanders -/

theorem Situation.underway_of_same {store later : Alone} {program : Plan}
    {frames : List (Frame Alone Role SceneKind Reply)} (same : later.session = store.session)
    (underway : situation.Underway scenes program frames store) :
    situation.Underway scenes program frames later := by
  cases situation with
  | scene kind id halt ahead =>
      cases ahead with
      | none => exact underway
      | some ahead =>
          simp only [Underway, same]
          exact underway
  | epilogue finished id ahead =>
      cases ahead with
      | none => exact underway
      | some ahead =>
          simp only [Underway, same]
          exact underway
  | fading id ahead =>
      cases ahead with
      | none => exact underway
      | some ahead =>
          simp only [Underway, same]
          exact underway
  | fresh => exact underway
  | leaving => exact underway
  | transition => exact underway
  | claimed kind index => exact underway
  | clearing stage leaver => exact underway

theorem Situation.Calm.no_leaver (calm : situation.Calm) : situation.leaver = none := by
  cases situation <;> first | rfl | exact absurd calm id

/-- A task is left as it was, or is joined by somebody else. -/
def Unmoved (id : TaskId) (before after : Option (Task Alone Role SceneKind Reply)) : Prop :=
  after = before ∨ ∃ task joiner, joiner ≠ id ∧ before = some task
    ∧ after = some { task with joiners := task.joiners ++ [joiner] }

namespace Standing

/-- What bystanders do among themselves, and whom they join, changes nothing about a calm situation. -/
theorem of_bystanders {others : List TaskId} {after : Draft} (calm : situation.Calm)
    (standing : Standing scenes situation bystanders outline)
    (sameSession : after.store.session = outline.store.session)
    (sameHoldings : after.holdings = outline.holdings) (more : outline.count ≤ after.count)
    (newcomers : ∀ id ∈ others, id < after.count ∧ ∀ role, situation.slot role ≠ some id)
    (kept : ∀ id, id ∉ bystanders → id ∉ others → Unmoved id (outline.tasks id) (after.tasks id))
    (gone : ∀ id ∈ bystanders, id ∉ others → after.tasks id = none) :
    Standing scenes situation others after where
  scenes_of := by
    rw [show after.store.session = _ from sameSession]
    exact standing.scenes_of
  looks := by
    rw [sameSession]
    exact standing.looks
  slot_eq role := by
    rw [sameHoldings]
    exact standing.slot_eq role
  within role id holding := by
    refine ⟨Nat.lt_of_lt_of_le (standing.within role id holding).1 more, ?_⟩
    intro member
    exact (newcomers id member).2 role holding
  apart := standing.apart
  bystands id member := (newcomers id member).1
  performs role id performs := by
    obtain ⟨live, task, program, found, owner, control, kept', nobody, underway⟩ :=
      standing.performs role id performs
    have holding := Situation.slot_of_performer performs
    have notNew : id ∉ others := fun member => (newcomers id member).2 role holding
    rw [sameHoldings]
    refine ⟨live, ?_⟩
    have still := Situation.underway_of_same sameSession underway
    rcases kept id (standing.within role id holding).2 notNew with same | ⟨old, joiner, other, was, now⟩
    · exact ⟨task, program, same.trans found, owner, control, kept', nobody, still⟩
    · rw [found] at was
      cases was
      refine ⟨_, program, now, owner, control, kept', ?_, still⟩
      simp only [List.mem_append, List.mem_singleton, not_or]
      exact ⟨nobody, Ne.symm other⟩
  leaves stage id same := by
    subst same
    exact absurd calm not_false
  only id task found := by
    by_cases new : id ∈ others
    · exact .inl new
    · by_cases old : id ∈ bystanders
      · rw [gone id old new] at found
        cases found
      · have was : ∃ before, outline.tasks id = some before := by
          rcases kept id old new with same | ⟨before, joiner, -, was, -⟩
          · exact ⟨task, same.symm.trans found⟩
          · exact ⟨before, was⟩
        obtain ⟨before, was⟩ := was
        rcases standing.only id before was with bystander | performs | leaves
        · exact absurd bystander old
        · exact .inr (.inl performs)
        · exact .inr (.inr leaves)

/-- No driver holds a bystander. -/
theorem newcomers (standing : Standing scenes situation bystanders outline) :
    ∀ id ∈ bystanders, id < outline.count ∧ ∀ role, situation.slot role ≠ some id := by
  intro id member
  refine ⟨standing.bystands id member, ?_⟩
  intro role holding
  exact (standing.within role id holding).2 member

/-- An operation that begins is a bystander. -/
theorem add (calm : situation.Calm) (standing : Standing scenes situation [] outline)
    (task : Task Alone Role SceneKind Reply) :
    Standing scenes situation [outline.count] (outline.add task) := by
  refine standing.of_bystanders calm rfl rfl (Nat.le_succ _) ?_ ?_ (by simp)
  · intro id member
    rw [List.mem_singleton.mp member]
    refine ⟨Nat.lt_succ_self _, ?_⟩
    intro role holding
    exact absurd (standing.within role _ holding).1 (Nat.lt_irrefl _)
  · intro id _ new
    exact .inl (Function.update_of_ne (by simpa using new) _ _)

/-- An operation that ends leaves everything as it is. -/
theorem close {id : TaskId} {store : Alone} (calm : situation.Calm)
    (standing : Standing scenes situation [id] outline)
    (sameSession : store.session = outline.store.session) (outcome : Outcome Reply) :
    Standing scenes situation [id] (outline.close id store outcome) := by
  refine standing.of_bystanders calm sameSession rfl (Nat.le_refl _) standing.newcomers ?_ ?_
  · intro other old _
    exact .inl (Function.update_of_ne (by simpa using old) _ _)
  · intro other member new
    exact absurd member new

/-- An operation that has ended is forgotten. -/
theorem dismiss {id : TaskId} (calm : situation.Calm)
    (standing : Standing scenes situation [id] outline) (gone : outline.tasks id = none) :
    Standing scenes situation [] outline := by
  refine standing.of_bystanders calm rfl rfl (Nat.le_refl _) (by simp) (fun _ _ _ => .inl rfl) ?_
  intro other member _
  rw [List.mem_singleton.mp member]
  exact gone

/-- An operation that joins a task leaves everything as it is. -/
theorem join {id held : TaskId} {store : Alone} (calm : situation.Calm)
    (standing : Standing scenes situation [id] outline)
    (sameSession : store.session = outline.store.session)
    (task : Task Alone Role SceneKind Reply) :
    Standing scenes situation [id] ((outline.rest id task store).join id held) := by
  refine standing.of_bystanders calm sameSession rfl (Nat.le_refl _) standing.newcomers ?_ ?_
  · intro other old _
    have different : other ≠ id := by simpa using old
    by_cases joined : other = held
    · subst joined
      have same : (outline.rest id task store).tasks other = outline.tasks other :=
        Function.update_of_ne different _ _
      have now : ((outline.rest id task store).join id other).tasks other =
          (outline.tasks other).map fun task => { task with joiners := task.joiners ++ [id] } := by
        rw [← same]
        exact Function.update_self _ _ _
      rw [now]
      cases outline.tasks other with
      | none => exact .inl rfl
      | some before => exact .inr ⟨before, id, Ne.symm different, rfl, rfl⟩
    · refine .inl ?_
      exact (Function.update_of_ne joined _ _).trans (Function.update_of_ne different _ _)
  · intro other member new
    exact absurd member new

end Standing

end Playthrough.Session.Alone
