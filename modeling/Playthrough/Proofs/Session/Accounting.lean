import Playthrough.Proofs.Session.Completion
import Playthrough.Proofs.Task.Overtaking

/-!
Contract: the score and the ending of a play-through are accounted for.

Owns: that the score is the sum of the points of the choices that count, what an accepted choice and a
refused one do to a play-through, and that the epilogue is the one that this sum has earned.

Does not own: the account that one turn keeps.

A choice is accepted only where nothing else goes on and no wait is held, so that no other turn comes
between its beginning and its end.
-/

namespace Playthrough

/-- The first tier, from the best on, whose threshold a score reaches, and bad if there is none. -/
def EndingTable.firstReached (table : EndingTable) (score : Int) : Tier :=
  (Tier.all.find? fun tier => (table.ending tier).threshold ≤ score).getD .bad

theorem EndingTable.earned_eq_firstReached (table : EndingTable) (score : Int) :
    table.earned score = table.firstReached score := by
  by_cases good : table.good.threshold ≤ score
  · simp [earned, firstReached, Tier.all, ending, good]
  · by_cases neutral : table.neutral.threshold ≤ score
    · simp [earned, firstReached, Tier.all, ending, good, neutral]
    · by_cases bad : table.bad.threshold ≤ score <;>
        simp [earned, firstReached, Tier.all, ending, good, neutral, bad]

/-- The epilogue that a score earns, when it was played to its end. -/
def EndingTable.epilogue (table : EndingTable) (language : Language) (score : Int) : Epilogue :=
  Session.Alone.wholeEpilogue language (table.ending (table.firstReached score))
    (table.firstReached score)

namespace Session.Alone

/-! ## What a choice does -/

/-- The line that the player says with a choice, in the language in which the scene is played. -/
def playerLine (kind : SceneKind) (choice : Choice) (session : Session) : SceneEvent :=
  .plain .player (choice.text.resolve (session.interpreter kind).preferences.language)

/-- What an accepted choice has made of a world: the player's line, the points and what is played next
are those of one and the same choice. -/
structure Honours (kind : SceneKind) (choice : Choice) (before after : Setting) : Prop where
  session : after.store.session =
    (before.store.session.modifyInterpreter kind fun interpreter =>
      interpreter.claim.record (playerLine kind choice before.store.session)).award choice.points
  deliveries : after.store.deliveries =
    before.store.deliveries ++ [(roleOf kind, playerLine kind choice before.store.session)]
  plays : ∃ id, after.holdings (roleOf kind) = { slot := some id, live := some id }
    ∧ after.outline.tasks id =
      some (.fresh (some (roleOf kind)) ((sceneSeat kind).resume (some choice)))

/-- What a refused operation has made of a world: at most one more warning was reported, and the operation
itself has ended. -/
def Disregards (before after : Setting) : Prop :=
  ∃ warnings task, after =
    { before with
      store := { before.store with warnings := warnings }
      tasks := before.tasks ++ [task] }

variable {scenes : Scenes} {history : History} {situation : Situation} {world : Setting}
variable {outline : Draft} {id held : TaskId} {chosen : List Choice}

/-- An offer that was made from a choice says the choice's line and gives its points. -/
theorem applyChoice_offer (kind : SceneKind) (choice : Choice) (language : Language) (nodeId : String)
    (store : Alone) :
    (sceneSeat kind).applyChoice (choice.offer language) nodeId (some choice) store =
      let line := SceneEvent.plain .player (choice.text.resolve language)
      { store with
        session := (store.session.modifyInterpreter kind fun interpreter =>
          interpreter.record line).award choice.points
        deliveries := store.deliveries ++ [(roleOf kind, line)] } := by
  cases kind <;> rfl

/-- No wait is held where no task goes on. -/
theorem waits_of_quiet (balanced : world.Balanced) (noTurn : world.running = none)
    (quiet : ∀ id, world.outline.tasks id = none) : world.waits = [] := by
  refine List.eq_nil_iff_forall_not_mem.mpr ?_
  intro wait member
  have orderly : world.Orderly none := by
    rw [← noTurn]
    exact balanced
  obtain ⟨task, there, sleeps⟩ := orderly.sleeping_of_wait member
  have goesOn : world.outline.tasks wait.task = some { task with status := .ready } := by
    simp [World.outline, there, Task.unended?, Task.isEnded, sleeps]
  rw [quiet] at goesOn
  cases goesOn

/-! ## Where nothing goes on -/

/-- Where no driver plays nothing goes on. -/
theorem Standing.isOver (standing : Standing scenes situation [] outline)
    (nobody : situation.performer = none) (noLeaver : situation.leaver = none) (id : TaskId) :
    outline.tasks id = none := by
  rw [← Option.not_isSome_iff_eq_none]
  intro goesOn
  obtain ⟨task, there⟩ := Option.isSome_iff_exists.mp goesOn
  rcases standing.only id task there with bystander | ⟨role, performs⟩ | leaves
  · cases bystander
  · rw [nobody] at performs
    cases performs
  · rw [noLeaver] at leaves
    cases leaves

/-- The outline in which a choice has been claimed, by an operation that waits for a task that has
ended. -/
def claiming (kind : SceneKind) (node : ChoiceNode) (choice : Choice) (tag : String) (outline : Draft) :
    Draft :=
  (outline.add (.fresh none (select tag))).await (roleOf kind) outline.count
    (answer kind (choice.offer (outline.store.session.interpreter kind).preferences.language) node.id
      (some choice)) (claimed kind outline.store)

/-- A choice is claimed where it is on offer. -/
theorem conducts_claiming {kind : SceneKind} {index : Nat} {node : ChoiceNode} {choice : Choice}
    {tag : String} (standing : Standing scenes (.scene kind held (.offering index node) none) [] outline)
    (found : node.find? tag = some choice) :
    World.Conducts machine (outline.add (.fresh none (select tag))) outline.count (select tag)
      outline.store (· = claiming kind node choice tag outline) := by
  have within := standing.within (roleOf kind) held (by simp [Situation.slot])
  have different : held ≠ outline.count := Nat.ne_of_lt within.1
  have ended : (outline.add (.fresh none (select tag))).tasks held = none :=
    (Function.update_of_ne different _ _).trans (standing.isOver rfl rfl held)
  have calm : (Situation.scene kind held (.offering index node) none).Calm := trivial
  refine conducts_claim (standing.add calm (.fresh none (select tag))) found ?_
  exact Outline.take_of_ended different ended

theorem deserted_claiming {kind : SceneKind} {index : Nat} {node : ChoiceNode} {choice : Choice}
    {tag : String} (standing : Standing scenes (.scene kind held (.offering index node) none) [] outline) :
    Deserted outline.count (claiming kind node choice tag outline) := by
  refine .of_await ?_ (standing.isOver rfl rfl)
  intro other different
  rw [standing.slot_eq]
  exact if_neg different

/-- Whoever has claimed a choice answers it, gives the driver its task and ends. -/
theorem conducts_honour {kind : SceneKind} {offer : Offer} {nodeId : String} {choice : Option Choice}
    {store : Alone} (slots : ∀ role, (outline.holdings role).slot = none) :
    World.Conducts machine outline id (answer kind offer nodeId choice) store
      (· = (outline.install (roleOf kind) ((sceneSeat kind).resume choice)).close id
        ((sceneSeat kind).applyChoice offer nodeId choice store) (.finished (some (.verdict true)))) :=
  .update (.spawn (slots _) (.done rfl))

/-- Where a choice is accepted no wait is held, and it is honoured. -/
theorem honours_of_accepted {tag : String} (balanced : world.Balanced) (noTurn : world.running = none)
    (calm : situation.Calm) (standing : Standing scenes situation [] world.outline)
    (accepted : (Operation.select tag).isAccepted world.store.session = true) :
    world.waits = [] ∧ ∃ kind choice after, scenes.choice? world.store.session.place? tag = some choice
      ∧ Carries world (.select tag) true after ∧ Honours kind choice world after := by
  obtain ⟨kind, held, index, node, choice, rfl, found⟩ := standing.offered calm accepted
  have offers : OffersAt scenes kind index node world.store.session := standing.looks.offersAt
  have isOver := standing.isOver rfl rfl
  -- The driver's task has ended, so only the operation goes on.
  have deserted : Deserted world.outline.count (claiming kind node choice tag world.outline) :=
    deserted_claiming standing
  obtain ⟨after, pursues, -, reached⟩ := World.AtRest.carried ⟨balanced, noTurn, isOver⟩
    (conducts_claiming standing found) Outline.tasks_await deserted.only (conducts_honour deserted.slots)
  have store_eq : after.store =
      (sceneSeat kind).applyChoice
        (choice.offer (world.store.session.interpreter kind).preferences.language) node.id (some choice)
        (claimed kind world.store) := congrArg Outline.store reached
  rw [applyChoice_offer] at store_eq
  refine ⟨waits_of_quiet balanced noTurn isOver, kind, choice, after, ?_, .of_pursues pursues ?_, ?_, ?_,
    (claiming kind node choice tag world.outline).count, ?_, ?_⟩
  · rw [offers.place, Scenes.choice?, Option.bind_some, offers.here]
    exact found
  · show after.outline.outcomes _ = _
    rw [reached]
    exact Function.update_self _ _ _
  · rw [store_eq]
    cases kind <;> rfl
  · rw [store_eq]
    rfl
  · show after.outline.holdings (roleOf kind) = _
    rw [reached]
    exact Outline.holdings_install_close
  · rw [reached]
    exact Outline.tasks_install_close deserted.inside

/-- An operation that is refused at once leaves nothing behind. -/
theorem disregards_of_refused {operation : Operation} {choose : Alone → Plan}
    (noTurn : world.running = none) (looks : operation.plan = .look choose)
    (refuses : operation.answer false = some (.verdict false))
    (turned : choose world.store = refused
      ∨ ∃ warning, choose world.store = .update (seat.warn warning) refused) :
    ∃ after, Carries world operation false after ∧ Disregards world after := by
  let begun : Setting := { world with tasks := world.tasks ++ [Task.fresh none (.look choose)] }
  let id := world.tasks.length
  have inside : id < begun.tasks.length := by simp [begun, id]
  have ends : ∀ (store : Alone) (warnings : List Warning),
      store = { world.store with warnings := warnings } →
      World.Lands machine
        (fun after => after.outcome? id = some (.finished (some (.verdict false)))
          ∧ Disregards world after)
        (begun.focus id ((Task.fresh none .stop).on (.run refused) []) store) := by
    rintro store warnings rfl
    let ended : Task Alone Role SceneKind Reply :=
      { (Task.fresh none .stop).on (.run refused) [] with
        status := .ended (.finished (some (.verdict false))) }
    refine .focus_last (World.step_done inside _) rfl ⟨?_, warnings, ended, ?_⟩
    · simp [World.closed, World.outcome?, Task.outcome?, begun, id]
    · simp [World.closed, begun, id, noTurn, ended, Task.fresh, Task.on, refused,
        Program.give]
  have lands : World.Lands machine
      (fun after => after.outcome? id = some (.finished (some (.verdict false)))
        ∧ Disregards world after) (world.begin operation.plan).2 := by
    have begins : (world.begin operation.plan).2 =
        begun.focus id ((Task.fresh none .stop).on (.run (.look choose)) []) world.store := by
      rw [looks]
      exact World.begin_eq_focus _
    rw [begins]
    refine .focus_step (World.step_look inside choose) ?_
    rcases turned with turned | ⟨warning, turned⟩
    · rw [turned]
      exact ends _ world.store.warnings rfl
    · rw [turned]
      refine .focus_step (World.step_update inside _) ?_
      exact ends _ _ rfl
  have unended : (world.begin operation.plan).2.outcome? id = none := by
    simp [World.outcome?, World.begin, id, Task.fresh, Task.outcome?]
  obtain ⟨after, pursues, -, answered, disregards⟩ := lands.pursues unended
  exact ⟨after, .of_pursues pursues (answered.trans (by rw [refuses])), disregards⟩

/-! ## Every play-through -/

section Operations

variable {textScene : Option TextScene} {encounterScene : Option EncounterScene}
variable {preferences : Preferences}

/-- Every turn ends with the score accounted for. -/
theorem Collects.lands
    (collects : Collects textScene encounterScene preferences history chosen world) :
    World.Lands machine
      (fun after => Accounts (.given textScene encounterScene) history chosen after.outline) world := by
  induction collects with
  | construct => exact .here rfl rfl
  | @begin history chosen world operation before noTurn free timely inductionHypothesis =>
      obtain ⟨situation, -, lands⟩ :=
        (Sound.of_occurs before.occurs).lands_begin noTurn free operation timely
      have accounts := inductionHypothesis.reached noTurn
      rw [Accounts, History.credited_of_free free] at accounts
      have unended : world.outline.outcomes world.tasks.length = none := by simp [World.outline]
      have added : Accounts (.given textScene encounterScene) (history.began operation world) chosen
          (world.outline.add (.fresh none operation.plan)) := by
        rw [Accounts, History.credited_of_unended rfl unended]
        exact accounts
      refine lands.mono ?_
      rintro after - ⟨next, -, -, -, accounted⟩
      exact accounted chosen added
  | @step history chosen world before inductionHypothesis =>
      simp only [Accounts.noted]
      cases running : world.running with
      | some id => exact inductionHypothesis.onward running
      | none =>
          have accounts := inductionHypothesis.reached running
          rcases (Sound.of_occurs before.occurs).lands_step running with
            ⟨noTurn, same⟩ | ⟨id, situation, -, -, lands⟩
          · refine .here noTurn ?_
            rw [same]
            exact accounts
          · refine lands.mono ?_
            rintro after - ⟨next, -, -, -, accounted⟩
            exact accounted chosen accounts
  | @release history chosen world released before noTurn position wait inductionHypothesis =>
      have orderly : world.Orderly none := by
        rw [← noTurn]
        exact (Sound.of_occurs before.occurs).balanced
      have stillNoTurn : released.running = none := by
        obtain ⟨-, -, rfl⟩ := World.release?_eq_some.mp wait
        exact noTurn
      refine .here stillNoTurn ?_
      rw [World.outline_release? orderly wait]
      exact inductionHypothesis.reached noTurn
  | @complete history chosen world flight outcome before noTurn inFlight ended inductionHypothesis =>
      have accounts := inductionHypothesis.reached noTurn
      have known : world.outline.outcomes flight.task = some outcome := ended
      rw [Accounts, History.credited_of_ended inFlight known] at accounts
      have free : (history.completed flight outcome).flight = none := by
        rw [History.completed]
        split
        · rfl
        · rfl
        · split <;> rfl
        · rfl
      refine .here noTurn ?_
      rw [Accounts, History.credited_of_free free]
      exact accounts

/-- The epilogue that is played is the one that the score has earned. -/
theorem comesTo_of_occurs (occurs : Occurs textScene encounterScene preferences history world)
    (noTurn : world.running = none) (phase : world.store.session.phase = .epilogue)
    (notRestarting : history.restarting = false) :
    ComesTo (earnedEpilogue world.store.session) world.store.session.epilogue := by
  obtain ⟨situation, progressing, -⟩ := (Sound.of_occurs occurs).moment noTurn
  have looks := progressing.looks
  have stands : situation.phase = .epilogue :=
    (show world.store.session.phase = situation.phase from looks.phase).symm.trans phase
  cases situation with
  | epilogue finished id ahead => exact looks.2.2.1
  | fading id ahead => exact looks.2.2.2
  | clearing stage leaver =>
      rw [progressing.restarting_of_clearing] at notRestarting
      cases notRestarting
  | scene kind _ _ _ => cases kind <;> cases stands
  | claimed kind _ => cases kind <;> cases stands
  | fresh => cases stands
  | leaving => cases stands
  | transition => cases stands

/-- What is accounted for in a play-through between two turns, in which some choices count among the
operations that have completed. -/
structure Accounted (scenes : Scenes) (history : History) (chosen : List Choice) (world : Setting) :
    Prop where
  score : world.store.session.score = pointsOf (history.credited scenes world.outcome? chosen)
  accepted : history.flight = none → ∀ id,
    (Operation.select id).isAccepted world.store.session = true →
      world.waits = [] ∧ ∃ kind choice after,
        scenes.choice? world.store.session.place? id = some choice
          ∧ Carries world (.select id) true after ∧ Honours kind choice world after
  refused : history.flight = none → ∀ id,
    (Operation.select id).isAccepted world.store.session = false →
      ∃ after, Carries world (.select id) false after ∧ Disregards world after
  ending : world.store.session.phase = .epilogue → history.restarting = false →
    ComesTo (scenes.endings.epilogue world.store.session.preferences.language
      (pointsOf (history.credited scenes world.outcome? chosen))) world.store.session.epilogue

/-- In every play-through the score is the sum of the points of the choices that were accepted since
the last restart, each of them counts as the option that it was, what is refused changes nothing, and
the epilogue is the one that the sum has earned. -/
theorem accounted_of_collects
    (collects : Collects textScene encounterScene preferences history chosen world)
    (noTurn : world.running = none) :
    Accounted (.given textScene encounterScene) history chosen world := by
  have occurs := collects.occurs
  have sound := Sound.of_occurs occurs
  have score : world.store.session.score =
      pointsOf (history.credited (.given textScene encounterScene) world.outcome? chosen) :=
    collects.lands.reached noTurn
  refine ⟨score, ?_, ?_, ?_⟩
  · intro free tag accepted
    obtain ⟨situation, progressing, -⟩ := sound.moment noTurn
    cases progressing with
    | free _ calm _ standing => exact honours_of_accepted sound.balanced noTurn calm standing accepted
    | engaged inFlight _ _ _ _ _ =>
        rw [free] at inFlight
        cases inFlight
    | closed inFlight _ _ _ _ =>
        rw [free] at inFlight
        cases inFlight
  · intro _ tag refuses
    obtain ⟨choose, looks, turned⟩ := select_of_refused refuses
    exact disregards_of_refused noTurn looks rfl (turned world.store rfl)
  · intro phase notRestarting
    obtain ⟨situation, progressing, -⟩ := sound.moment noTurn
    obtain ⟨bystanders, standing⟩ := progressing.standing
    have endings : world.store.session.endings = (Scenes.given textScene encounterScene).endings :=
      standing.scenes_of.endings_eq
    have comes := comesTo_of_occurs occurs noTurn phase notRestarting
    rw [← score, EndingTable.epilogue, ← EndingTable.earned_eq_firstReached, ← endings]
    exact comes

/-- A text scene that asks once, with two options of one id. -/
def askingTwice : TextScene :=
  { TextScene.fallback with
    nodes := [.choice ⟨"ask",
      some [⟨"yes", .blank, 3, none, none, none⟩, ⟨"yes", .blank, 5, none, none, none⟩]⟩] }

/-- The first of two options of one id was chosen: its points are the score. -/
theorem accounted_at_doubled_option :
    ∃ (history : History) (chosen : List Choice) (world : Setting),
      Collects (some askingTwice) none .standard history chosen world ∧ world.running = none
        ∧ history.flight = none ∧ chosen.map Choice.points = [3] ∧ world.store.session.score = 3
        ∧ Accounted (.given (some askingTwice) none) history chosen world := by
  have start : Collects (some askingTwice) none .standard .initial [] _ := .construct
  have begun := (start.begin .begin rfl rfl fun _ => rfl).stepped 20
  have rests : Collects (some askingTwice) none .standard
      (History.completed _ ⟨0, .begin, some (.text, 0), true⟩ (.finished none)) [] _ :=
    begun.complete rfl rfl rfl
  have selects := (rests.begin (.select "yes") rfl rfl (by simp)).stepped 12
  have chooses : Collects (some askingTwice) none .standard
      (History.completed _ ⟨2, .select "yes", some (.text, 0), true⟩ (.finished (some (.verdict true))))
      [⟨"yes", .blank, 3, none, none, none⟩] _ := selects.complete rfl rfl rfl
  have accounted := accounted_of_collects chooses rfl
  exact ⟨_, _, _, chooses, rfl, rfl, rfl, rfl, accounted⟩

end Operations

end Session.Alone

end Playthrough
