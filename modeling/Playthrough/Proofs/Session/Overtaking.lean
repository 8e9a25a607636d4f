import Playthrough.Proofs.Session.Accounting
import Playthrough.Proofs.Session.Journey
import Playthrough.Proofs.Session.Lasting

/-!
Contract: a play-through of which two things are asked at the same time.

Owns: what is left of a restart that begins while a choice is being made or the text scene is being
left, and what the same operations come to one after the other.

Does not own: how one operation overtakes another one.

An operation that waits has looked at the play-through before its wait, and does not look again after
it. While it waits all slots are empty, so a restart does not wait at all.
-/

namespace Playthrough.Session.Alone

variable {scenes : Scenes} {history : History} {situation : Situation} {world after : Setting}
variable {outline : Draft} {id held : TaskId} {store : Alone} {other : Option Preferences}

/-! ## One after the other -/

/-- Nothing is left of a play-through before a restart, and no driver holds a task. -/
structure Clean (world : Setting) : Prop where
  score : world.store.session.score = 0
  phase : world.store.session.phase = .textScene
  untouched : ∀ kind, Untouched (world.store.session.interpreter kind)
  epilogue : world.store.session.epilogue = .blank
  vacant : ∀ role, (world.holdings role).slot = none

theorem Disregards.session_eq (disregards : Disregards world after) :
    after.store.session = world.store.session := by
  obtain ⟨warnings, task, rfl⟩ := disregards
  rfl

theorem Clean.of_disregards (clean : Clean world) (disregards : Disregards world after) :
    Clean after := by
  obtain ⟨warnings, task, rfl⟩ := disregards
  exact ⟨clean.score, clean.phase, clean.untouched, clean.epilogue, clean.vacant⟩

/-- Nothing is on offer after a restart. -/
theorem Clean.refuses_select (clean : Clean world) (tag : String) :
    (Operation.select tag).isAccepted world.store.session = false := by
  have current : world.store.session.currentKind? = some .text := currentKind_eq_some.mpr clean.phase
  have nothing := (clean.untouched .text).nothingOffered
  simp only [Operation.isAccepted, current, nothing, List.any_nil]

/-- The text scene cannot be left after a restart. -/
theorem Clean.refuses_transition (clean : Clean world) :
    Operation.triggerTransition.isAccepted world.store.session = false := by
  have notReady : world.store.session.text.transitionReady = false := (clean.untouched .text).notReady
  simp [Operation.isAccepted, notReady]

/-- Leaving the text scene where it cannot be left is refused, with a warning. -/
theorem triggerTransition_of_refused {session : Session}
    (refuses : Operation.triggerTransition.isAccepted session = false) :
    ∃ choose, triggerTransition = .look choose ∧ ∀ store : Alone, store.session = session →
      choose store = refused ∨ ∃ warning, choose store = .update (seat.warn warning) refused := by
  refine ⟨_, triggerTransition_eq, ?_⟩
  rintro store rfl
  have stays : ¬(store.session.phase = .textScene ∧ store.session.text.transitionReady = true) := by
    simpa [Operation.isAccepted] using refuses
  exact .inr ⟨_, if_neg stays⟩

section Operations

variable {textScene : Option TextScene} {encounterScene : Option EncounterScene}
variable {preferences : Preferences}

/-- A restart that nothing overtakes leaves nothing behind. -/
theorem clean_of_occurs (occurs : Occurs textScene encounterScene preferences history world)
    (noTurn : world.running = none) (free : history.flight = none) (other : Option Preferences) :
    ∃ later after, Occurs textScene encounterScene preferences later after
      ∧ Carries world (.restart other) true after ∧ after.running = none ∧ later.flight = none
      ∧ Clean after := by
  obtain ⟨later, situation, after, reaches, completes⟩ :=
    completes_of_occurs occurs noTurn free (.restart other) (by simp)
  have fresh : situation = .fresh := completes.concluded.restarted rfl
  subst fresh
  obtain ⟨chosen, collects⟩ := reaches.collects
  have completed := collects.complete completes.noTurn completes.inFlight completes.ended
  have accounts := completed.lands.reached completes.noTurn
  rw [Accounts, History.credited_of_free rfl] at accounts
  obtain ⟨phase, blank, text, encounter⟩ := completes.standing.looks
  refine ⟨_, after, completed.occurs, completes.carries, completes.noTurn, rfl,
    { score := accounts
      phase := phase
      untouched := ?_
      epilogue := blank
      vacant := completes.standing.slot_eq }⟩
  intro kind
  cases kind with
  | text => exact text
  | encounter => exact encounter

end Operations

/-! ## A restart that does not wait -/

/-- A play-through with nothing played. -/
def cleared (other : Option Preferences) (session : Session) : Session :=
  (((session.modifyInterpreter .text Interpreter.reset).modifyInterpreter .encounter
    Interpreter.reset).modifyEpilogue fun _ => .blank).restarted other

/-- The outline in which a restart has come to its end without a wait. -/
def restartedBeside (other : Option Preferences) (outline : Draft) : Draft :=
  ((((outline.add (.fresh none (restart other))).vacate .text).vacate .encounter).vacate .epilogue).close
    outline.count { outline.store with session := cleared other outline.store.session } (.finished none)

/-- Where no driver holds a task a restart does not wait. -/
theorem conducts_restartedBeside (slots : ∀ role, (outline.holdings role).slot = none)
    (other : Option Preferences) :
    World.Conducts machine (outline.add (.fresh none (restart other))) outline.count (restart other)
      outline.store (· = restartedBeside other outline) := by
  have text : (((outline.add (.fresh none (restart other))).vacate .text).holdings .encounter).slot =
      none := by
    rw [Outline.slot_vacate]
    exact slots .encounter
  have encounter : ((((outline.add (.fresh none (restart other))).vacate .text).vacate
      .encounter).holdings .epilogue).slot = none := by
    rw [Outline.slot_vacate, Outline.slot_vacate]
    exact slots .epilogue
  rw [restart_eq]
  exact .cancel_empty (slots .text) (.update (.cancel_empty text (.update (.cancel_empty encounter
    (.update (.update (.done rfl)))))))

theorem deserted_restartedBeside (deserted : Deserted id outline) (other : Option Preferences) :
    Deserted id (restartedBeside other outline) := by
  refine deserted.beside ?_ rfl rfl
  intro role
  rw [Outline.slot_vacate, Outline.slot_vacate, Outline.slot_vacate]
  cases role <;> rfl

theorem tasks_restartedBeside (inside : id < outline.count) (other : Option Preferences) :
    (restartedBeside other outline).tasks id = outline.tasks id :=
  Outline.tasks_beside inside rfl

/-! ## A choice that is overtaken by a restart -/

/-- What is left of a choice after a restart that overtook it: the player's line, the points and the task
that plays on are part of the new play-through, and stay there. -/
structure Leaks (kind : SceneKind) (choice : Choice) (other : Option Preferences)
    (before after : Setting) : Prop where
  session : after.store.session =
    ((cleared other before.store.session).modifyInterpreter kind fun interpreter =>
      interpreter.record (playerLine kind choice before.store.session)).award choice.points
  plays : ∃ id, after.holdings (roleOf kind) = { slot := some id, live := some id }
    ∧ after.outline.tasks id =
      some (.fresh (some (roleOf kind)) ((sceneSeat kind).resume (some choice)))
  lasts : ∀ later, World.Unattended machine after later →
    later.store.session.score = choice.points
      ∧ [playerLine kind choice before.store.session] <+:
        (later.store.session.interpreter kind).events

/-- Wherever a choice is accepted, a restart that begins while it waits is followed by it. -/
theorem leaks_of_overtaken {tag : String} (balanced : world.Balanced) (noTurn : world.running = none)
    (calm : situation.Calm) (standing : Standing scenes situation [] world.outline)
    (accepted : (Operation.select tag).isAccepted world.store.session = true)
    (other : Option Preferences) :
    ∃ kind choice waiting between after,
      scenes.choice? world.store.session.place? tag = some choice
        ∧ World.Overtaken machine world (select tag) (restart other) (some (.verdict true)) none waiting
          between after
        ∧ Leaks kind choice other world after := by
  obtain ⟨kind, held, index, node, choice, rfl, found⟩ := standing.offered calm accepted
  have offers : OffersAt scenes kind index node world.store.session := standing.looks.offersAt
  have atRest : world.AtRest := ⟨balanced, noTurn, standing.isOver rfl rfl⟩
  let waits : Draft := claiming kind node choice tag world.outline
  have deserted : Deserted world.outline.count waits := deserted_claiming standing
  have passed : Deserted world.outline.count (restartedBeside other waits) :=
    deserted_restartedBeside deserted other
  obtain ⟨waiting, between, after, overtaken, -, reached⟩ :=
    atRest.overtaken (conducts_claiming standing found) Outline.tasks_await
      (conducts_restartedBeside deserted.slots other) (Function.update_self _ _ _)
      ((tasks_restartedBeside deserted.inside other).trans Outline.tasks_await) passed.only
      (conducts_honour passed.slots) (Function.update_self _ _ _)
  have store_eq : after.store =
      (sceneSeat kind).applyChoice
        (choice.offer (world.store.session.interpreter kind).preferences.language) node.id (some choice)
        (restartedBeside other waits).store := congrArg Outline.store reached
  rw [applyChoice_offer] at store_eq
  have session_eq : after.store.session =
      ((cleared other world.store.session).modifyInterpreter kind fun interpreter =>
        interpreter.record (playerLine kind choice world.store.session)).award choice.points := by
    rw [store_eq]
    cases kind <;> rfl
  refine ⟨kind, choice, waiting, between, after, ?_, overtaken, session_eq,
    ⟨(restartedBeside other waits).count, ?_, ?_⟩, ?_⟩
  · rw [offers.place, Scenes.choice?, Option.bind_some, offers.here]
    exact found
  · show after.outline.holdings (roleOf kind) = _
    rw [reached]
    exact Outline.holdings_install_close
  · rw [reached]
    exact Outline.tasks_install_close passed.inside
  · intro later unattended
    have outlasts : Outlasts after.store later.store := by
      refine .of_unattended unattended (overtaken.balanced balanced noTurn) ?_
      intro id task goesOn
      rw [reached] at goesOn
      rw [passed.only_driver goesOn]
      exact .fresh ((keeps_sceneSeat kind).resume _) _
    rw [outlasts.score]
    refine ⟨?_, ?_⟩
    · rw [session_eq]
      cases kind <;> exact Int.zero_add _
    · refine List.IsPrefix.trans ?_ (outlasts.events kind)
      rw [session_eq]
      cases kind <;> exact List.prefix_rfl

section Choices

variable {textScene : Option TextScene} {encounterScene : Option EncounterScene}
variable {preferences : Preferences}

/-- A restart is clean after a choice and before one. Only a restart that begins while the choice waits is
not: the choice goes on after it, in the new play-through. -/
theorem clean_unless_overtaking {tag : String}
    (occurs : Occurs textScene encounterScene preferences history world)
    (noTurn : world.running = none) (free : history.flight = none)
    (accepted : (Operation.select tag).isAccepted world.store.session = true)
    (other : Option Preferences) :
    (∃ chosen after, Carries world (.select tag) true chosen ∧ Carries chosen (.restart other) true after
        ∧ Clean after)
      ∧ (∃ restarted after, Carries world (.restart other) true restarted
          ∧ Carries restarted (.select tag) false after ∧ Clean after)
      ∧ ∃ kind choice waiting between after,
          (Scenes.given textScene encounterScene).choice? world.store.session.place? tag = some choice
            ∧ World.Overtaken machine world (select tag) (restart other) (some (.verdict true)) none
              waiting between after
            ∧ Leaks kind choice other world after := by
  refine ⟨?_, ?_, ?_⟩
  · obtain ⟨later, chosen, chooses, carries, fulfils⟩ :=
      carries_of_occurs occurs noTurn free (.select tag) (by simp) rfl
    obtain ⟨_, after, -, restarts, -, -, clean⟩ :=
      clean_of_occurs chooses fulfils.noTurn fulfils.free other
    rw [accepted] at carries
    exact ⟨chosen, after, carries, restarts, clean⟩
  · obtain ⟨_, restarted, -, restarts, stopped, -, clean⟩ := clean_of_occurs occurs noTurn free other
    obtain ⟨choose, looks, turned⟩ := select_of_refused (clean.refuses_select tag)
    have plan : (Operation.select tag).plan = .look choose := looks
    obtain ⟨after, carries, disregards⟩ :=
      disregards_of_refused stopped plan rfl (turned restarted.store rfl)
    exact ⟨restarted, after, restarts, carries, clean.of_disregards disregards⟩
  · have sound := Sound.of_occurs occurs
    obtain ⟨situation, progressing, -⟩ := sound.moment noTurn
    cases progressing with
    | free _ calm _ standing => exact leaks_of_overtaken sound.balanced noTurn calm standing accepted other
    | engaged inFlight _ _ _ _ _ =>
        rw [free] at inFlight
        cases inFlight
    | closed inFlight _ _ _ _ =>
        rw [free] at inFlight
        cases inFlight

/-- A text scene that asks once, and a restart that overtakes the answer. -/
theorem clean_unless_overtaking_at_choice :
    ∃ (history : History) (world : Setting), Occurs (some asking) none .standard history world
      ∧ world.running = none ∧ history.flight = none
      ∧ (Operation.select "yes").isAccepted world.store.session = true
      ∧ ∃ kind choice waiting between after,
          World.Overtaken machine world (select "yes") (restart none) (some (.verdict true)) none waiting
            between after
          ∧ choice.points = 3 ∧ Leaks kind choice none world after := by
  have start : Occurs (some asking) none .standard .initial _ := .construct
  have begun := (start.begin .begin rfl rfl fun _ => rfl).stepped 20
  have rests : Occurs (some asking) none .standard
      (History.completed _ ⟨0, .begin, some (.text, 0), true⟩ (.finished none)) _ :=
    begun.complete rfl rfl rfl
  obtain ⟨-, -, kind, choice, waiting, between, after, found, overtaken, leaks⟩ :=
    clean_unless_overtaking rests rfl rfl (rfl : (Operation.select "yes").isAccepted _ = true) none
  refine ⟨_, _, rests, rfl, rfl, rfl, kind, choice, waiting, between, after, overtaken, ?_, leaks⟩
  cases found
  rfl

/-- Of a choice and a restart that are asked for together, the points and the player's line are in the
new play-through once nothing moves any more, and its text scene is idle and active. -/
theorem not_clean_at_choice :
    ∃ (history : History) (world : Setting), Occurs (some asking) none .standard history world
      ∧ world.running = none ∧ history.flight = none
      ∧ ∃ drained, drained = World.drain machine 30 (world.beginAll [select "yes", restart none]).2
        ∧ drained.isIdle = true
        ∧ (world.beginAll [select "yes", restart none]).1.map drained.outcome? =
          [some (.finished (some (.verdict true))), some (.finished none)]
        ∧ drained.store.session.score = 3 ∧ drained.store.session.text.events.length = 1
        ∧ drained.store.session.text.progress = .idle ∧ drained.isActive .text = true
        ∧ ¬Clean drained := by
  have start : Occurs (some asking) none .standard .initial _ := .construct
  have begun := (start.begin .begin rfl rfl fun _ => rfl).stepped 20
  have rests : Occurs (some asking) none .standard
      (History.completed _ ⟨0, .begin, some (.text, 0), true⟩ (.finished none)) _ :=
    begun.complete rfl rfl rfl
  refine ⟨_, _, rests, rfl, rfl, _, rfl, rfl, rfl, rfl, rfl, rfl, rfl, ?_⟩
  intro clean
  exact absurd clean.score (by decide)

end Choices

/-! ## The text scene that is left while somebody leaves it -/

/-- Where the text scene can be left, it has stopped and nothing goes on. -/
theorem Standing.leavable (calm : situation.Calm) (standing : Standing scenes situation [] outline)
    (leavable : outline.store.session.phase = .textScene
      ∧ outline.store.session.text.transitionReady = true) :
    (∃ held, (outline.holdings .text).slot = some held) ∧ (∀ role, role ≠ .text →
      (outline.holdings role).slot = none) ∧ ∀ id, outline.tasks id = none := by
  obtain ⟨held, halt, rfl, -⟩ := standing.stopped_of_leavable calm leavable.1 leavable.2
  refine ⟨⟨held, standing.slot_eq .text⟩, ?_, standing.isOver rfl rfl⟩
  intro role different
  rw [standing.slot_eq]
  exact if_neg different

/-- The outline in which the text scene is being left, by an operation that waits for a task that has
ended. -/
def leaving (outline : Draft) : Draft :=
  (outline.add (.fresh none triggerTransition)).await .text outline.count leaveText outline.store

theorem conducts_leaving (calm : situation.Calm) (standing : Standing scenes situation [] outline)
    (leavable : outline.store.session.phase = .textScene
      ∧ outline.store.session.text.transitionReady = true) :
    World.Conducts machine (outline.add (.fresh none triggerTransition)) outline.count triggerTransition
      outline.store (· = leaving outline) := by
  obtain ⟨⟨held, slot⟩, -, isOver⟩ := standing.leavable calm leavable
  have within : held < outline.count := (standing.within .text held ((standing.slot_eq .text).symm.trans slot)).1
  have different : held ≠ outline.count := Nat.ne_of_lt within
  rw [triggerTransition_eq]
  refine .look ?_
  rw [if_pos leavable]
  refine .cancel_ended slot different ?_ rfl
  exact (Function.update_of_ne different _ _).trans (isOver held)

/-- With a transition screen, leaving the text scene comes to its end there. -/
theorem conducts_toTransition (slow : store.session.preferences.pacing ≠ .fast) :
    World.Conducts machine outline id leaveText store
      (· = outline.close id { store with session := store.session.enter .transition }
        (.finished (some (.verdict true)))) := by
  refine .look ?_
  rw [if_neg slow]
  exact .update (.done rfl)

/-- Without a transition screen, leaving the text scene comes to its end when the encounter has begun. -/
theorem conducts_toEncounter (slots : ∀ role, (outline.holdings role).slot = none)
    (fast : store.session.preferences.pacing = .fast) :
    World.Conducts machine outline id leaveText store
      (· = ((outline.vacate .encounter).install .encounter (sceneSeat .encounter).openScene).close id
        (opened .encounter store.session.preferences
          { store with session := store.session.enter .encounter })
        (.finished (some (.verdict true)))) := by
  have vacated : ((outline.vacate .encounter).holdings .encounter).slot = none := by
    rw [Outline.slot_vacate]
    exact if_pos rfl
  refine .look ?_
  rw [if_pos fast]
  exact .update (.look (.cancel_empty (slots .encounter) (.update (.update (.update
    (.spawn vacated (.done rfl)))))))

/-- The outline in which the text scene was left without a wait, beside another operation. -/
def leftBeside (outline : Draft) : Draft :=
  ((outline.add (.fresh none triggerTransition)).vacate .text).close outline.count
    { outline.store with session := outline.store.session.enter .transition }
    (.finished (some (.verdict true)))

/-- Where no driver holds a task the text scene is left without a wait. -/
theorem conducts_leftBeside (slots : ∀ role, (outline.holdings role).slot = none)
    (leavable : outline.store.session.phase = .textScene
      ∧ outline.store.session.text.transitionReady = true)
    (slow : outline.store.session.preferences.pacing ≠ .fast) :
    World.Conducts machine (outline.add (.fresh none triggerTransition)) outline.count triggerTransition
      outline.store (· = leftBeside outline) := by
  rw [triggerTransition_eq]
  refine .look ?_
  rw [if_pos leavable]
  exact .cancel_empty (slots .text) (conducts_toTransition slow)

theorem deserted_leftBeside (deserted : Deserted id outline) : Deserted id (leftBeside outline) := by
  refine deserted.beside ?_ rfl rfl
  intro role
  rw [Outline.slot_vacate]
  split
  · rfl
  · exact deserted.slots role

theorem tasks_leftBeside (inside : id < outline.count) :
    (leftBeside outline).tasks id = outline.tasks id :=
  Outline.tasks_beside inside rfl

/-- Wherever the text scene can be left, and the transition screen is shown, it can be left a second time
while somebody leaves it. -/
theorem leaves_twice_of_overtaken (balanced : world.Balanced) (noTurn : world.running = none)
    (calm : situation.Calm) (standing : Standing scenes situation [] world.outline)
    (leavable : world.store.session.phase = .textScene
      ∧ world.store.session.text.transitionReady = true)
    (slow : world.store.session.preferences.pacing ≠ .fast) :
    ∃ waiting between after,
      World.Overtaken machine world triggerTransition triggerTransition (some (.verdict true))
          (some (.verdict true)) waiting between after
        ∧ between.store.session.phase = .transition ∧ after.store.session.phase = .transition := by
  obtain ⟨-, slots, isOver⟩ := standing.leavable calm leavable
  have atRest : world.AtRest := ⟨balanced, noTurn, isOver⟩
  have deserted : Deserted world.outline.count (leaving world.outline) := .of_await slots isOver
  have passed : Deserted world.outline.count (leftBeside (leaving world.outline)) :=
    deserted_leftBeside deserted
  obtain ⟨waiting, between, after, overtaken, passes, reached⟩ :=
    atRest.overtaken (conducts_leaving calm standing leavable) Outline.tasks_await
      (conducts_leftBeside deserted.slots leavable slow) (Function.update_self _ _ _)
      ((tasks_leftBeside deserted.inside).trans Outline.tasks_await) passed.only
      (conducts_toTransition slow) (Function.update_self _ _ _)
  refine ⟨waiting, between, after, overtaken, ?_, ?_⟩
  · show between.outline.store.session.phase = _
    rw [passes]
    rfl
  · show after.outline.store.session.phase = _
    rw [reached]
    rfl

/-- What is left of an operation that leaves the text scene after a restart that overtook it: the new
play-through is on the transition screen or in the encounter, and does not come back. -/
structure Strays (other : Option Preferences) (before after : Setting) : Prop where
  transition : (other.getD before.store.session.preferences).pacing ≠ .fast →
    after.store.session = (cleared other before.store.session).enter .transition
  encounter : (other.getD before.store.session.preferences).pacing = .fast →
    after.store.session.phase = .encounter ∧ ∃ id,
      after.holdings .encounter = { slot := some id, live := some id }
        ∧ after.outline.tasks id = some (.fresh (some .encounter) (sceneSeat .encounter).openScene)
  lasts : ∀ later, World.Unattended machine after later → later.store.session.phase ≠ .textScene

theorem Scenes.Of.cleared {session : Session} (of : scenes.Of session) (other : Option Preferences) :
    scenes.Of (cleared other session) := by
  refine ⟨?_, of.endings_eq⟩
  intro kind
  cases kind with
  | text => exact of.scenario_eq .text
  | encounter => exact of.scenario_eq .encounter

/-- The phase of a play-through whose drivers alone go on does not go back to the text scene. -/
theorem Outlasts.phase_ne {before after : Alone} (outlasts : Outlasts before after)
    (left : before.session.phase ≠ .textScene) : after.session.phase ≠ .textScene := by
  rcases outlasts.phase with same | epilogue
  · rw [same]
    exact left
  · rw [epilogue]
    simp

/-- Wherever the text scene can be left, a restart that begins while it is being left is followed by
that. -/
theorem strays_of_overtaken (balanced : world.Balanced) (noTurn : world.running = none)
    (calm : situation.Calm) (standing : Standing scenes situation [] world.outline)
    (leavable : world.store.session.phase = .textScene
      ∧ world.store.session.text.transitionReady = true) (other : Option Preferences) :
    ∃ waiting between after,
      World.Overtaken machine world triggerTransition (restart other) (some (.verdict true)) none waiting
          between after
        ∧ Strays other world after := by
  obtain ⟨-, slots, isOver⟩ := standing.leavable calm leavable
  have atRest : world.AtRest := ⟨balanced, noTurn, isOver⟩
  let waits : Draft := leaving world.outline
  have deserted : Deserted world.outline.count waits := .of_await slots isOver
  have passed : Deserted world.outline.count (restartedBeside other waits) :=
    deserted_restartedBeside deserted other
  have stillWaits : (restartedBeside other waits).tasks world.outline.count =
      some (.fresh none leaveText) := (tasks_restartedBeside deserted.inside other).trans Outline.tasks_await
  have begins := conducts_leaving calm standing leavable
  have overtakes := conducts_restartedBeside deserted.slots other
  by_cases fast : (other.getD world.store.session.preferences).pacing = .fast
  · obtain ⟨waiting, between, after, overtaken, -, reached⟩ :=
      atRest.overtaken begins Outline.tasks_await overtakes (Function.update_self _ _ _)
        stillWaits passed.only (conducts_toEncounter passed.slots fast) (Function.update_self _ _ _)
    have vacated : Deserted world.outline.count ((restartedBeside other waits).vacate .encounter) :=
      passed.vacate .encounter
    let entered : Alone :=
      { world.store with session := (cleared other world.store.session).enter .encounter }
    have playing : Playing .encounter (scenes.scenario .encounter)
        (other.getD world.store.session.preferences)
        (opened .encounter (other.getD world.store.session.preferences) entered).session :=
      playing_opened _ ((standing.scenes_of.cleared other).enter .encounter) ⟨rfl, rfl⟩
    have phase : after.store.session.phase = .encounter := by
      show after.outline.store.session.phase = _
      rw [reached]
      exact playing.around.phase
    refine ⟨waiting, between, after, overtaken, fun slow => absurd fast slow,
      fun _ => ⟨phase, (restartedBeside other waits).count, ?_, ?_⟩, ?_⟩
    · show after.outline.holdings .encounter = _
      rw [reached]
      exact Outline.holdings_install_close
    · rw [reached]
      exact Outline.tasks_install_close vacated.inside
    · intro later unattended
      refine (Outlasts.of_unattended unattended (overtaken.balanced balanced noTurn) ?_).phase_ne ?_
      · intro id task goesOn
        rw [reached] at goesOn
        rw [vacated.only_driver goesOn]
        exact .fresh (keeps_sceneSeat .encounter).openScene _
      · rw [phase]
        simp
  · obtain ⟨waiting, between, after, overtaken, -, reached⟩ :=
      atRest.overtaken begins Outline.tasks_await overtakes (Function.update_self _ _ _)
        stillWaits passed.only (conducts_toTransition fast) (Function.update_self _ _ _)
    have session_eq : after.store.session = (cleared other world.store.session).enter .transition := by
      show after.outline.store.session = _
      rw [reached]
      rfl
    refine ⟨waiting, between, after, overtaken, fun _ => session_eq, fun quick => absurd quick fast, ?_⟩
    intro later unattended
    refine (Outlasts.of_unattended unattended (overtaken.balanced balanced noTurn) ?_).phase_ne ?_
    · intro id task goesOn
      have gone : after.outline.tasks id = none := by
        rw [reached]
        exact passed.over_close id
      rw [gone] at goesOn
      cases goesOn
    · rw [session_eq]
      simp

section Leaving

variable {textScene : Option TextScene} {encounterScene : Option EncounterScene}
variable {preferences : Preferences}

/-- The text scene is left once, and not after a restart. Only an operation that begins while it is being
left finds that it can still be left, and is followed by the one that it has overtaken. -/
theorem left_once_unless_overtaking
    (occurs : Occurs textScene encounterScene preferences history world)
    (noTurn : world.running = none) (free : history.flight = none)
    (accepted : Operation.triggerTransition.isAccepted world.store.session = true) :
    (∃ left after, Carries world .triggerTransition true left
        ∧ Carries left .triggerTransition false after ∧ after.store.session = left.store.session)
      ∧ (∀ other, ∃ restarted after, Carries world (.restart other) true restarted
          ∧ Carries restarted .triggerTransition false after ∧ Clean after)
      ∧ (world.store.session.preferences.pacing ≠ .fast → ∃ waiting between after,
          World.Overtaken machine world triggerTransition triggerTransition (some (.verdict true))
              (some (.verdict true)) waiting between after
            ∧ between.store.session.phase = .transition ∧ after.store.session.phase = .transition)
      ∧ ∀ other, ∃ waiting between after,
          World.Overtaken machine world triggerTransition (restart other) (some (.verdict true)) none
              waiting between after
            ∧ Strays other world after := by
  have leavable : world.store.session.phase = .textScene
      ∧ world.store.session.text.transitionReady = true := by
    simpa [Operation.isAccepted] using accepted
  have refused : ∀ {between : Setting}, between.running = none →
      Operation.triggerTransition.isAccepted between.store.session = false →
      ∃ after, Carries between .triggerTransition false after ∧ Disregards between after := by
    intro between stopped refuses
    obtain ⟨choose, looks, turned⟩ := triggerTransition_of_refused refuses
    have plan : Operation.triggerTransition.plan = .look choose := looks
    exact disregards_of_refused stopped plan rfl (turned between.store rfl)
  have sound := Sound.of_occurs occurs
  obtain ⟨situation, progressing, -⟩ := sound.moment noTurn
  have stands : situation.Calm ∧ Standing (.given textScene encounterScene) situation [] world.outline := by
    cases progressing with
    | free _ calm _ standing => exact ⟨calm, standing⟩
    | engaged inFlight _ _ _ _ _ =>
        rw [free] at inFlight
        cases inFlight
    | closed inFlight _ _ _ _ =>
        rw [free] at inFlight
        cases inFlight
  obtain ⟨calm, standing⟩ := stands
  refine ⟨?_, ?_, ?_, ?_⟩
  · obtain ⟨later, left, -, carries, fulfils⟩ :=
      carries_of_occurs occurs noTurn free .triggerTransition (by simp) rfl
    have elsewhere := fulfils.moved .textScene rfl accepted
    obtain ⟨after, again, disregards⟩ := refused fulfils.noTurn (by simp [Operation.isAccepted, elsewhere])
    rw [accepted] at carries
    exact ⟨left, after, carries, again, disregards.session_eq⟩
  · intro other
    obtain ⟨_, restarted, -, restarts, stopped, -, clean⟩ := clean_of_occurs occurs noTurn free other
    obtain ⟨after, carries, disregards⟩ := refused stopped clean.refuses_transition
    exact ⟨restarted, after, restarts, carries, clean.of_disregards disregards⟩
  · exact leaves_twice_of_overtaken sound.balanced noTurn calm standing leavable
  · exact strays_of_overtaken sound.balanced noTurn calm standing leavable

/-- A text scene without nodes is left twice, and is left after a restart. -/
theorem left_once_unless_overtaking_at_empty_scene :
    ∃ (history : History) (world : Setting), Occurs none none .standard history world
      ∧ world.running = none ∧ history.flight = none
      ∧ Operation.triggerTransition.isAccepted world.store.session = true
      ∧ (∃ waiting between after,
          World.Overtaken machine world triggerTransition triggerTransition (some (.verdict true))
            (some (.verdict true)) waiting between after)
      ∧ ∃ waiting between after,
          World.Overtaken machine world triggerTransition (restart none) (some (.verdict true)) none waiting
              between after
            ∧ after.store.session.phase = .transition := by
  have start : Occurs none none .standard .initial _ := .construct
  have begun := (start.begin .begin rfl rfl fun _ => rfl).stepped 20
  have rests : Occurs none none .standard
      (History.completed _ ⟨0, .begin, some (.text, 0), true⟩ (.finished none)) _ :=
    begun.complete rfl rfl rfl
  obtain ⟨-, -, twice, strays⟩ := left_once_unless_overtaking rests rfl rfl rfl
  obtain ⟨waiting, between, after, overtaken, -, -⟩ := twice (by decide)
  obtain ⟨pausing, passing, late, follows, stray⟩ := strays none
  have session_eq := stray.transition (by decide)
  refine ⟨_, _, rests, rfl, rfl, rfl, ⟨waiting, between, after, overtaken⟩, pausing, passing, late,
    follows, ?_⟩
  rw [session_eq]
  rfl

/-- Of operations that are asked for together: the text scene is left twice, the play-through goes back
from the encounter to the transition screen, and it is on that screen after a restart. -/
theorem not_left_once_at_empty_scene :
    ∃ (history : History) (world : Setting), Occurs none none .standard history world
      ∧ world.running = none ∧ history.flight = none
      ∧ (∃ drained, drained = World.drain machine 30 (world.beginAll [triggerTransition, triggerTransition]).2
          ∧ drained.isIdle = true
          ∧ (world.beginAll [triggerTransition, triggerTransition]).1.map drained.outcome? =
            [some (.finished (some (.verdict true))), some (.finished (some (.verdict true)))])
      ∧ (∃ drained, drained =
            World.drain machine 40 (world.beginAll [triggerTransition, triggerTransition, beginEncounter]).2
          ∧ drained.isIdle = true ∧ drained.store.session.phase = .transition
          ∧ drained.store.session.encounter.progress = .running
          ∧ drained.isActive .encounter = true)
      ∧ ∃ drained, drained = World.drain machine 30 (world.beginAll [triggerTransition, restart none]).2
          ∧ drained.isIdle = true ∧ drained.store.session.phase = .transition := by
  have start : Occurs none none .standard .initial _ := .construct
  have begun := (start.begin .begin rfl rfl fun _ => rfl).stepped 20
  have rests : Occurs none none .standard
      (History.completed _ ⟨0, .begin, some (.text, 0), true⟩ (.finished none)) _ :=
    begun.complete rfl rfl rfl
  exact ⟨_, _, rests, rfl, rfl, ⟨_, rfl, rfl, rfl⟩, ⟨_, rfl, rfl, rfl, rfl, rfl⟩, _, rfl, rfl, rfl⟩

end Leaving

end Playthrough.Session.Alone
