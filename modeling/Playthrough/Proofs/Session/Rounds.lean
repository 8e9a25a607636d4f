import Playthrough.Proofs.Session.Settling

/-!
Contract: one round of a play-through, to the letter.

Owns: the play-through and the waits that come of a scene (`sceneEnd`, `scenePauses`), and what every
operation leads to where a play-through has settled (`Leads`).

Does not own: the order of operations.

What an operation leads to is seen once the play-through has settled again. Where nothing goes on,
nothing but the operation itself and the driver that it gives a task have a part in that.
-/

namespace Playthrough.Session.Alone

variable {scenes : Scenes} {situation : Situation} {kind : SceneKind} {recital : Recital}
variable {told : Role → List Pause} {world after : Setting} {outline : Draft} {id : TaskId}
variable {session final : Session} {store : Alone} {preferences : Preferences}

/-! ## What comes of a scene -/

/-- The play-through that comes of one in which a scene has a recital ahead. -/
def sceneEnd (kind : SceneKind) (recital : Recital) (session : Session) : Session :=
  settledAt kind recital.halt (stoppedAt kind recital session)

/-- The waits that come of it. -/
def scenePauses (kind : SceneKind) (recital : Recital) (session : Session) : Role → List Pause :=
  upcoming (roleOf kind) (Mark.waits recital.marks)
    (pausesBeyond kind recital.halt (stoppedAt kind recital session))

/-- Whether a program of a driver plays a recital to its end wherever a play-through is like this one. -/
def Performs (kind : SceneKind) (recital : Recital) (program : Plan) (session : Session) : Prop :=
  ∀ later : Alone, later.session = session →
    Runs machine (World.timer Alone)
      (exactly (Foresees (sceneEnd kind recital session)
        (pausesBeyond kind recital.halt (stoppedAt kind recital session))))
      program [] later (Mark.waits recital.marks)

/-- A scene that is opened plays its opening. -/
theorem performs_openScene {scenario : Scenario} (playing : Playing kind scenario preferences session)
    (first : (session.interpreter kind).nodeIndex = 0)
    (clear : (session.interpreter (rival kind)).suspended = false) :
    Performs kind (scenario.opening preferences) (sceneSeat kind).openScene session := by
  rintro later rfl
  refine runs_exactly playing clear ?_
  intro post
  exact Stage.recites_openScene ⟨playing.inPlay, playing.clear, later.session.interpreter kind,
    by cases kind <;> rfl⟩ first

/-- A scene that goes on after a choice plays what comes after it. -/
theorem performs_resume {scenario : Scenario} {index : Nat}
    (playing : Playing kind scenario preferences session)
    (place : (session.interpreter kind).nodeIndex = index)
    (clear : (session.interpreter (rival kind)).suspended = false) (choice : Option Choice) :
    Performs kind (scenario.continuation preferences index choice [])
      ((sceneSeat kind).resume choice) session := by
  subst place
  rintro later rfl
  refine runs_exactly playing clear ?_
  intro post
  exact Stage.recites_resume choice ⟨playing.inPlay, playing.clear, later.session.interpreter kind,
    by cases kind <;> rfl⟩

/-! ## After an operation -/

/-- Nobody goes on. -/
theorem Beside.of_over (isOver : ∀ id, outline.tasks id = none)
    (inside : ∀ role id, (outline.holdings role).slot = some id → id < outline.count) :
    Beside [] none outline := by
  refine ⟨by simp, inside, ?_, by simp, by simp, ?_⟩
  · intro role _
    cases slot : (outline.holdings role).slot with
    | none => rfl
    | some held => exact isOver held
  · intro id task found
    rw [isOver] at found
    cases found

/-- A driver goes on that an operation has given a task. -/
theorem Beside.of_install (deserted : Deserted id outline) (role : Role) (body : Plan)
    (outcome : Outcome Reply) :
    Beside [] (some (role, outline.count)) ((outline.install role body).close id store outcome) := by
  have held : ∀ other, other ≠ role →
      (((outline.install role body).close id store outcome).holdings other).slot = none := by
    intro other different
    exact (congrArg Holding.slot (Function.update_of_ne different _ _)).trans (deserted.slots other)
  refine ⟨?_, ?_, ?_, by simp, by simp, ?_⟩
  · intro other someone plays
    cases plays
    exact ⟨Outline.holdings_install_close, List.not_mem_nil⟩
  · intro other someone slot
    by_cases same : other = role
    · subst same
      rw [Outline.holdings_install_close] at slot
      cases slot
      exact Nat.lt_succ_self _
    · rw [held other same] at slot
      cases slot
  · intro other nobody
    have different : other ≠ role := by
      rintro rfl
      exact nobody _ rfl
    rw [held other different]
    rfl
  · intro someone task found
    refine .inr ⟨role, ?_⟩
    by_contra different
    have new : someone ≠ outline.count := by
      rintro rfl
      exact different rfl
    by_cases self : someone = id
    · subst self
      rw [Outline.tasks_close_self] at found
      cases found
    · have same : ((outline.install role body).close id store outcome).tasks someone =
          outline.tasks someone :=
        (Function.update_of_ne self _ _).trans (Function.update_of_ne new _ _)
      rw [same] at found
      exact self (deserted.only someone task found)

/-- An operation that is carried out leads to a foreseen play-through, and from there to another one,
with foreseen waits. -/
def Leads (world : Setting) (operation : Operation) (accepts : Bool) (next final : Session)
    (total : Role → List Pause) : Prop :=
  ∃ after, Carries world operation accepts after ∧ after.Balanced ∧ after.running = none
    ∧ after.store.session = next ∧ Comes [] final total after

/-- A play-through that has settled. -/
structure Rests (scenes : Scenes) (situation : Situation) (told : Role → List Pause) (world : Setting) :
    Prop where
  balanced : world.Balanced
  noTurn : world.running = none
  calm : situation.Calm
  standing : Standing scenes situation [] world.outline
  nobody : situation.performer = none
  noted : world.Noted told
  clear : ∀ kind, (world.store.session.interpreter kind).suspended = false

theorem Rests.isOver (rests : Rests scenes situation told world) (id : TaskId) :
    world.outline.tasks id = none :=
  rests.standing.isOver rests.nobody rests.calm.no_leaver id

theorem Rests.atRest (rests : Rests scenes situation told world) : world.AtRest :=
  ⟨rests.balanced, rests.noTurn, rests.isOver⟩

theorem Rests.inside (rests : Rests scenes situation told world) {role : Role}
    (slot : (world.outline.holdings role).slot = some id) : id < world.outline.count := by
  rw [rests.standing.slot_eq] at slot
  exact (rests.standing.within role id slot).1

section Ends

variable {accepts : Bool} {news : List Wait} (operation : Operation)

/-- An operation that has given a driver its task leads to where the driver plays. -/
theorem Leads.of_install {body : Plan} (rests : Rests scenes situation told world)
    (pursues : World.Pursues machine (world.begin operation.plan).1 (world.begin operation.plan).2 after)
    (stopped : after.running = none)
    (begins : World.Begins world.outline.count news (world.begin operation.plan).2 after)
    (deserted : Deserted world.outline.count outline)
    (reached : after.outline = (outline.install (roleOf kind) body).close world.outline.count store
      (.finished (operation.answer accepts)))
    (performs : Performs kind recital body store.session) :
    Leads world operation accepts store.session (sceneEnd kind recital store.session)
      (thereafter told (scenePauses kind recital store.session)) := by
  have answered : after.outcome? world.outline.count = some (.finished (operation.answer accepts)) := by
    show after.outline.outcomes _ = _
    rw [reached]
    exact Function.update_self _ _ _
  have balanced := pursues.balanced (rests.balanced.begin rests.noTurn operation.plan)
  have session_eq : after.store.session = store.session :=
    congrArg (fun outline => outline.store.session) reached
  refine ⟨after, .of_pursues pursues answered, balanced, stopped, session_eq, told, _,
    rests.noted.of_operation begins, ?_, rfl⟩
  have elsewhere : (((outline.install (roleOf kind) body).close world.outline.count store
      (.finished (operation.answer accepts))).holdings .epilogue).slot = none := by
    have different : Role.epilogue ≠ roleOf kind := by cases kind <;> simp [roleOf]
    exact (congrArg Holding.slot (Function.update_of_ne different _ _)).trans (deserted.slots .epilogue)
  rw [reached]
  exact .plays (.of_install deserted _ body _) (.inl elsewhere)
    (Outline.tasks_install_close deserted.inside) rfl rfl rfl performs fun _ _ foresees => foresees

/-- An operation after which nobody goes on leads to nothing else. -/
theorem Leads.of_close (rests : Rests scenes situation told world)
    (pursues : World.Pursues machine (world.begin operation.plan).1 (world.begin operation.plan).2 after)
    (stopped : after.running = none)
    (begins : World.Begins world.outline.count news (world.begin operation.plan).2 after)
    (isOver : ∀ id, after.outline.tasks id = none)
    (inside : ∀ role id, (after.outline.holdings role).slot = some id → id < after.outline.count)
    (answered : after.outcome? world.outline.count = some (.finished (operation.answer accepts))) :
    Leads world operation accepts after.store.session after.store.session told := by
  have balanced := pursues.balanced (rests.balanced.begin rests.noTurn operation.plan)
  refine ⟨after, .of_pursues pursues answered, balanced, stopped, rfl, told, _,
    rests.noted.of_operation begins, .rests (.of_over isOver inside) rfl, thereafter_nothing told⟩

end Ends

/-! ## Scenes from the top -/

/-- The play-through in which a scene is about to be opened. -/
def opensScene (kind : SceneKind) (preferences : Preferences) (session : Session) : Session :=
  withInterpreter kind
    (((session.interpreter kind).reset.begin preferences).heard
      ((session.interpreter kind).scenario.headerMarks preferences) 0) session

theorem session_opened (kind : SceneKind) (preferences : Preferences) (store : Alone)
    (clear : (store.session.interpreter (rival kind)).suspended = false) :
    (opened kind preferences store).session = opensScene kind preferences store.session := by
  let stage := timedStage kind (store.session.interpreter kind).scenario preferences store.session clear
    fun _ _ => True
  have around : stage.around (opened kind preferences store) :=
    stage.around_recordHeader _ (stage.around_modify _ (stage.around_modify _
      ⟨store.session.interpreter kind, by cases kind <;> rfl⟩))
  obtain ⟨interpreter, same⟩ := around
  have own : (opened kind preferences store).session.interpreter kind = interpreter := by
    rw [same]
    simp
  rw [interpreter_opened] at own
  rw [same, opensScene, own]

/-- Where a scene is opened, its driver plays it from the top. -/
theorem performs_opened (scenes_of : scenes.Of store.session) (around : Around kind store.session)
    (clear : (store.session.interpreter (rival kind)).suspended = false) :
    Performs kind ((scenes.scenario kind).opening preferences) (sceneSeat kind).openScene
      (opened kind preferences store).session := by
  refine performs_openScene (playing_opened preferences scenes_of around) ?_ ?_
  · rw [interpreter_opened]
    rfl
  · rw [(spares_opened kind preferences store).rival]
    exact clear

/-- A scene is opened by an operation. -/
theorem conducts_opening {answer : Option Reply} (empty : (outline.holdings (roleOf kind)).slot = none) :
    World.Conducts machine outline id ((sceneSeat kind).start preferences (.done answer)) store
      (· = ((outline.vacate (roleOf kind)).install (roleOf kind) (sceneSeat kind).openScene).close id
        (opened kind preferences store) (.finished answer)) := by
  have vacated : ((outline.vacate (roleOf kind)).holdings (roleOf kind)).slot = none := by
    rw [Outline.slot_vacate]
    exact if_pos rfl
  exact .cancel_empty empty (.update (.update (.update (.spawn vacated (.done rfl)))))

/-- An operation that has opened a scene leads to where the scene comes to. -/
theorem Leads.of_opening (operation : Operation) {accepts : Bool} {news : List Wait} (entered : Alone)
    (rests : Rests scenes situation told world)
    (pursues : World.Pursues machine (world.begin operation.plan).1 (world.begin operation.plan).2 after)
    (stopped : after.running = none)
    (begins : World.Begins world.outline.count news (world.begin operation.plan).2 after)
    (deserted : Deserted world.outline.count outline)
    (reached : after.outline =
      ((outline.vacate (roleOf kind)).install (roleOf kind) (sceneSeat kind).openScene).close
        world.outline.count (opened kind preferences entered) (.finished (operation.answer accepts)))
    (scenes_of : scenes.Of entered.session) (around : Around kind entered.session)
    (clear : (entered.session.interpreter (rival kind)).suspended = false) :
    Leads world operation accepts (opensScene kind preferences entered.session)
      (sceneEnd kind ((scenes.scenario kind).opening preferences)
        (opensScene kind preferences entered.session))
      (thereafter told (scenePauses kind ((scenes.scenario kind).opening preferences)
        (opensScene kind preferences entered.session))) := by
  rw [← session_opened kind preferences entered clear]
  exact .of_install operation rests pursues stopped begins (deserted.vacate _) reached
    (performs_opened scenes_of around clear)

namespace Rests

/-- Where nothing was begun, the text scene is played from the top. -/
theorem leads_begin (rests : Rests scenes .fresh told world) :
    let opening := opensScene .text world.store.session.preferences
      (world.store.session.enter .textScene)
    let recital := (scenes.scenario .text).opening world.store.session.preferences
    Leads world .begin true opening (sceneEnd .text recital opening)
      (thereafter told (scenePauses .text recital opening)) := by
  intro opening recital
  have slots : ∀ role, (world.outline.holdings role).slot = none := rests.standing.slot_eq
  obtain ⟨phase, blank, -⟩ := rests.standing.looks
  let entered : Alone :=
    { world.store with session := world.store.session.enter .textScene }
  let opens : Draft := world.outline.add (.fresh none begin)
  have begins : World.Conducts machine opens world.outline.count begin world.store
      (· = ((opens.vacate .text).install .text (sceneSeat .text).openScene).close world.outline.count
        (opened .text entered.session.preferences entered) (.finished none)) :=
    .update (.look (conducts_opening (slots .text)))
  obtain ⟨after, news, pursues, stopped, reached, waits⟩ := World.begins_of_conducts begins
  exact .of_opening .begin entered rests pursues stopped waits (.of_add slots rests.isOver) reached
    (rests.standing.scenes_of.enter .textScene) ⟨rfl, blank⟩ (rests.clear .encounter)

/-- On the transition screen, the encounter is played from the top. -/
theorem leads_beginEncounter (rests : Rests scenes .transition told world) :
    let opening := opensScene .encounter world.store.session.preferences
      (world.store.session.enter .encounter)
    let recital := (scenes.scenario .encounter).opening world.store.session.preferences
    Leads world .beginEncounter true opening (sceneEnd .encounter recital opening)
      (thereafter told (scenePauses .encounter recital opening)) := by
  intro opening recital
  have slots : ∀ role, (world.outline.holdings role).slot = none := rests.standing.slot_eq
  obtain ⟨phase, blank, -⟩ := rests.standing.looks
  let entered : Alone :=
    { world.store with session := world.store.session.enter .encounter }
  let opens : Draft := world.outline.add (.fresh none beginEncounter)
  have begins : World.Conducts machine opens world.outline.count beginEncounter world.store
      (· = ((opens.vacate .encounter).install .encounter (sceneSeat .encounter).openScene).close
        world.outline.count (opened .encounter entered.session.preferences entered)
        (.finished (some (.verdict true)))) := by
    refine .look ?_
    rw [if_pos (show (seat.get world.store).phase = .transition from phase)]
    exact .update (.look (conducts_opening (slots .encounter)))
  obtain ⟨after, news, pursues, stopped, reached, waits⟩ := World.begins_of_conducts begins
  exact .of_opening .beginEncounter entered rests pursues stopped waits (.of_add slots rests.isOver)
    reached (rests.standing.scenes_of.enter .encounter) ⟨rfl, blank⟩ (rests.clear .text)

/-! ## Leaving the text scene -/

section Leaving

variable (rests : Rests scenes situation told world)
variable (leavable : world.store.session.phase = .textScene
  ∧ world.store.session.text.transitionReady = true)

include rests leavable

/-- Fast pacing skips the transition screen. -/
theorem leads_skipping (fast : world.store.session.preferences.pacing = .fast) :
    let opening := opensScene .encounter world.store.session.preferences
      (world.store.session.enter .encounter)
    let recital := (scenes.scenario .encounter).opening world.store.session.preferences
    Leads world .triggerTransition true opening (sceneEnd .encounter recital opening)
      (thereafter told (scenePauses .encounter recital opening)) := by
  intro opening recital
  obtain ⟨-, slots, isOver⟩ := rests.standing.leavable rests.calm leavable
  have deserted : Deserted world.outline.count (leaving world.outline) := .of_await slots isOver
  obtain ⟨held, halt, rfl, -⟩ := rests.standing.stopped_of_leavable rests.calm leavable.1 leavable.2
  obtain ⟨around, -⟩ := rests.standing.looks
  obtain ⟨after, news, pursues, stopped, reached, waits⟩ := rests.atRest.carried_begins
    (conducts_leaving rests.calm rests.standing leavable) Outline.tasks_await deserted.only
    (conducts_toEncounter deserted.slots fast)
  let entered : Alone :=
    { world.store with session := world.store.session.enter .encounter }
  exact .of_opening .triggerTransition entered rests pursues stopped waits deserted reached
    (rests.standing.scenes_of.enter .encounter) ⟨rfl, around.epilogue⟩ (rests.clear .text)

/-- Otherwise the transition screen is shown. -/
theorem leads_toTransition (slow : world.store.session.preferences.pacing ≠ .fast) :
    let next := world.store.session.enter .transition
    Leads world .triggerTransition true next next told := by
  intro next
  obtain ⟨-, slots, isOver⟩ := rests.standing.leavable rests.calm leavable
  have deserted : Deserted world.outline.count (leaving world.outline) := .of_await slots isOver
  obtain ⟨after, news, pursues, stopped, reached, waits⟩ := rests.atRest.carried_begins
    (conducts_leaving rests.calm rests.standing leavable) Outline.tasks_await deserted.only
    (conducts_toTransition slow)
  have session_eq : after.store.session = next :=
    congrArg (fun outline => outline.store.session) reached
  rw [← session_eq]
  refine .of_close .triggerTransition rests pursues stopped waits ?_ ?_ ?_
  · rw [reached]
    exact deserted.over_close
  · intro role held slot
    rw [reached] at slot
    have empty := deserted.slots role
    rw [show ((leaving world.outline).holdings role).slot = some held from slot] at empty
    cases empty
  · show after.outline.outcomes _ = _
    rw [reached]
    exact Function.update_self _ _ _

end Leaving

/-! ## Choices -/

end Rests

/-- The play-through in which a choice has been made. -/
def answered (kind : SceneKind) (choice : Choice) (session : Session) : Session :=
  (session.modifyInterpreter kind fun interpreter =>
    interpreter.claim.record (playerLine kind choice session)).award choice.points

theorem playing_answered {index : Nat} {node : ChoiceNode} {choice : Choice}
    (looks : Situation.Looks scenes (.scene kind id (.offering index node) none) session) :
    Playing kind (scenes.scenario kind) (session.interpreter kind).preferences
        (answered kind choice session)
      ∧ ((answered kind choice session).interpreter kind).nodeIndex = index := by
  obtain ⟨around, -, -, preferences, ⟨base, inPlay, clear, place, same⟩, -⟩ := looks
  have voice : (session.interpreter kind).preferences = preferences := by
    rw [same, Interpreter.preferences_halted, inPlay.preferences_eq]
  have own : (answered kind choice session).interpreter kind =
      base.record (playerLine kind choice session) := by
    have claimed : (session.interpreter kind).claim = base := by
      rw [same]
      exact Interpreter.claim_offer inPlay node
    rw [← claimed]
    cases kind <;> rfl
  rw [voice]
  refine ⟨⟨?_, ?_, ?_⟩, ?_⟩
  · rw [own, Interpreter.record_eq_heard]
    exact inPlay.heard _ _
  · rw [own]
    exact clear
  · cases kind <;> exact ⟨around.phase, around.epilogue⟩
  · rw [own]
    exact place

namespace Rests

variable {tag : String}

/-- A choice that is on offer is made, and the scene goes on. -/
theorem leads_select (rests : Rests scenes situation told world)
    (accepted : (Operation.select tag).isAccepted world.store.session = true) :
    ∃ kind index node choice, OffersAt scenes kind index node world.store.session
      ∧ node.find? tag = some choice
      ∧ let recital := (scenes.scenario kind).continuation
          (world.store.session.interpreter kind).preferences index (some choice) []
        Leads world (.select tag) true (answered kind choice world.store.session)
          (sceneEnd kind recital (answered kind choice world.store.session))
          (thereafter told (scenePauses kind recital (answered kind choice world.store.session))) := by
  obtain ⟨kind, held, index, node, choice, rfl, found⟩ := rests.standing.offered rests.calm accepted
  have deserted : Deserted world.outline.count (claiming kind node choice tag world.outline) :=
    deserted_claiming rests.standing
  obtain ⟨after, news, pursues, stopped, reached, waits⟩ := rests.atRest.carried_begins
    (conducts_claiming rests.standing found) Outline.tasks_await deserted.only
    (conducts_honour deserted.slots)
  have told_eq : ((sceneSeat kind).applyChoice
      (choice.offer (world.store.session.interpreter kind).preferences.language) node.id (some choice)
      (claiming kind node choice tag world.outline).store).session =
        answered kind choice world.store.session := by
    rw [applyChoice_offer]
    cases kind <;> rfl
  have playing : Playing kind (scenes.scenario kind)
      (world.store.session.interpreter kind).preferences (answered kind choice world.store.session) :=
    (playing_answered rests.standing.looks).1
  have place : ((answered kind choice world.store.session).interpreter kind).nodeIndex = index :=
    (playing_answered rests.standing.looks).2
  have clear : ((answered kind choice world.store.session).interpreter (rival kind)).suspended =
      false := by
    cases kind with
    | text => exact rests.clear .encounter
    | encounter => exact rests.clear .text
  refine ⟨kind, index, node, choice, rests.standing.looks.offersAt, found, ?_⟩
  rw [← told_eq] at playing place clear ⊢
  exact .of_install (.select tag) rests pursues stopped waits deserted reached
    (performs_resume playing place clear (some choice))

/-- A choice that is not on offer is refused, and nothing else happens. -/
theorem refuses_select (rests : Rests scenes situation told world)
    (refused : (Operation.select tag).isAccepted world.store.session = false) :
    Leads world (.select tag) false world.store.session world.store.session told := by
  obtain ⟨choose, looks, turned⟩ := select_of_refused refused
  let closing : Draft → Prop := fun outline => ∃ warned : Alone,
    warned.session = world.store.session
      ∧ outline = (world.outline.add (.fresh none (select tag))).close world.outline.count warned
        (.finished (some (.verdict false)))
  have begins : World.Conducts machine (world.outline.add (.fresh none (select tag)))
      world.outline.count (select tag) world.store closing := by
    rw [looks]
    refine .look ?_
    rcases turned world.store rfl with silent | ⟨warning, warns⟩
    · rw [silent]
      exact .done ⟨world.store, rfl, by rw [looks]⟩
    · rw [warns]
      exact .update (.done ⟨seat.warn warning world.store, rfl, by rw [looks]⟩)
  obtain ⟨after, news, pursues, stopped, ⟨warned, same, reached⟩, waits⟩ :=
    World.begins_of_conducts begins
  have session_eq : after.store.session = world.store.session :=
    (congrArg (fun outline => outline.store.session) reached).trans same
  rw [← session_eq]
  refine .of_close (.select tag) rests pursues stopped waits ?_ ?_ ?_
  · intro someone
    rw [reached]
    by_cases self : someone = world.outline.count
    · rw [self]
      exact Outline.tasks_close_self
    · rw [Outline.tasks_close_other self]
      exact (Function.update_of_ne self _ _).trans (rests.isOver someone)
  · intro role held slot
    rw [reached] at slot ⊢
    exact Nat.lt_succ_of_lt (rests.inside slot)
  · show after.outline.outcomes _ = _
    rw [reached]
    exact Function.update_self _ _ _

end Rests

end Playthrough.Session.Alone
