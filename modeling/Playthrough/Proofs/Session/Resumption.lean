import Playthrough.Proofs.Session.Handover

/-!
Contract: what a turn of an operation that has waited makes of a play-through, and the last turn of a
task that was cancelled.

Owns: the rest of every operation, from where it waited to its end or to the next wait.

Does not own: how operations begin.
-/

namespace Playthrough.Session.Alone

variable {scenes : Scenes} {history : History} {situation next : Situation}
variable {outline before : Draft} {flight : Flight} {store : Alone} {id : TaskId}
variable {nearer : TaskId → Situation → Draft → Prop}

/-! ## The task that was cancelled -/

theorem Engaged.restarts {place : Option (SceneKind × Nat)} {accepts : Bool} {operation : Operation}
    {stage : Role} {leaver : Option TaskId} {program : Plan}
    (engaged : Engaged scenes place accepts operation (.clearing stage leaver) program) :
    operation.isRestart = true := by
  cases engaged with
  | settling calm _ => exact calm.elim
  | clearing _ _ _ => rfl

theorem History.restarting_of_flight (inFlight : history.flight = some flight) :
    history.restarting = flight.operation.isRestart := by
  rw [History.restarting, inFlight]

theorem Progressing.clearing_of_leaver (progressing : Progressing scenes history outline situation)
    (leaves : situation.leaver = some id) : ∃ stage, situation = .clearing stage (some id) := by
  cases situation with
  | clearing stage leaver =>
      cases leaves
      exact ⟨stage, rfl⟩
  | fresh => cases leaves
  | scene _ _ _ _ => cases leaves
  | leaving => cases leaves
  | transition => cases leaves
  | claimed _ _ => cases leaves
  | epilogue _ _ _ => cases leaves
  | fading _ _ => cases leaves

/-- The task that was cancelled takes back what it showed, and ends. -/
theorem continues_leaver {base : Setting} {task : Task Alone Role SceneKind Reply}
    (progressing : Progressing scenes history outline situation)
    (leaves : situation.leaver = some id) (sameOutline : base.outline = outline)
    (found : outline.tasks id = some task) :
    World.Lands machine
      (fun after => Continues scenes history situation outline
        (fun someone => Nearer someone situation outline) after.outline)
      (base.focus id (World.atTurn task) outline.store) := by
  obtain ⟨stage, rfl⟩ := progressing.clearing_of_leaver leaves
  cases progressing with
  | free _ calm _ _ => exact calm.elim
  | closed _ _ _ _ concluded => exact concluded.calm.elim
  | @engaged flight program inFlight standing waits engaged same awaits =>
      subst sameOutline
      obtain ⟨outside, cancelled⟩ := standing.leaves stage id rfl
      obtain ⟨pending, -, retreats⟩ := cancelled task found
      have different : flight.task ≠ id := by
        intro sameTask
        exact outside (by simp [sameTask])
      have restarting : history.restarting = true :=
        (History.restarting_of_flight inFlight).trans engaged.restarts
      let post : Draft → Prop := fun after =>
        Continues scenes history (.clearing stage (some id)) base.outline
          (fun someone => Nearer someone (.clearing stage (some id)) base.outline) after
      have ended : ∀ final : Alone, scenes.Of final.session →
          Situation.Looks scenes (.clearing stage (some id)) final.session →
          final.session.score = base.outline.store.session.score →
          post (base.outline.close id final .cancelled) := by
        intro final scenes_of looks score
        refine ⟨_, .engaged inFlight (standing.close_leaver scenes_of looks _) ?_ engaged same ?_, ?_,
          ?_, fun _ accounts => accounts.of_kept inFlight (Function.update_of_ne different _ _) score⟩
        · exact (Function.update_of_ne different _ _).trans waits
        · intro leaver other leaves stillThere
          cases leaves
          have gone : (base.outline.close id final .cancelled).tasks id = none :=
            Function.update_self _ _ _
          rw [gone] at stillThere
          cases stillThere
        · intro notRestarting
          rw [restarting] at notRestarting
          cases notRestarting
        · intro _ _ _
          refine .gone ?_ (Function.update_self _ _ _)
          rw [found]
          rfl
      have inside := World.inside_of_found found
      rw [World.atTurn_of_cancelled pending]
      rcases retreats with bare | ⟨kind, following, rfl, around⟩
      · exact World.lands_of_cancelled post inside bare
          (ended _ standing.scenes_of standing.looks rfl)
      · refine World.lands_of_cancelled_ensured post inside around (ended _ ?_ ?_ ?_)
        · exact standing.scenes_of.of_spares (spares_modify kind (fun interpreter =>
            interpreter.setSuspended false) base.outline.store.session)
            ((congrArg Interpreter.scenario (interpreter_modifyInterpreter _ _ _)).trans
              (standing.scenes_of.scenario_eq kind))
        · have looks := standing.looks
          cases kind <;> exact looks
        · exact score_modifyInterpreter kind _ _

/-! ## A scene from the top -/

theorem Scenes.Of.enter {session : Session} (of : scenes.Of session) (phase : Phase) :
    scenes.Of (session.enter phase) := by
  refine ⟨?_, of.endings_eq⟩
  intro kind
  cases kind with
  | text => exact of.scenario_eq .text
  | encounter => exact of.scenario_eq .encounter

/-- The store in which a scene is given its task. -/
def opened (kind : SceneKind) (preferences : Preferences) (store : Alone) : Alone :=
  let forgotten := (sceneSeat kind).modify Interpreter.reset store
  let started := (sceneSeat kind).modify (fun interpreter => interpreter.begin preferences) forgotten
  (sceneSeat kind).recordHeader ((sceneSeat kind).get started) started

section Opening

variable {kind : SceneKind}

theorem interpreter_opened (kind : SceneKind) (preferences : Preferences) (store : Alone) :
    (opened kind preferences store).session.interpreter kind =
      ((store.session.interpreter kind).reset.begin preferences).heard
        ((store.session.interpreter kind).scenario.headerMarks preferences) 0 := by
  let started := (sceneSeat kind).modify (fun interpreter => interpreter.begin preferences)
    ((sceneSeat kind).modify Interpreter.reset store)
  let stage := sceneStage kind (store.session.interpreter kind).scenario preferences (.ended 0)
  have begun : started.session.interpreter kind =
      (store.session.interpreter kind).reset.begin preferences := by
    refine (interpreter_modifyInterpreter _ _ _).trans ?_
    exact congrArg (fun interpreter => interpreter.begin preferences)
      (interpreter_modifyInterpreter kind Interpreter.reset store.session)
  have headed : (opened kind preferences store).session.interpreter kind =
      (started.session.interpreter kind).heard _ (started.session.interpreter kind).nodeIndex :=
    stage.get_recordHeader (started.session.interpreter kind)
  rwa [begun] at headed

theorem spares_opened (kind : SceneKind) (preferences : Preferences) (store : Alone) :
    Spares kind store.session (opened kind preferences store).session := by
  let stage := sceneStage kind (store.session.interpreter kind).scenario preferences (.ended 0)
  let forgotten := (sceneSeat kind).modify Interpreter.reset store
  let started := (sceneSeat kind).modify (fun interpreter => interpreter.begin preferences) forgotten
  have forgets : Spares kind store.session forgotten.session := spares_modify _ _ _
  have starts : Spares kind forgotten.session started.session :=
    spares_modify kind (fun interpreter => interpreter.begin preferences) forgotten.session
  have heads : Spares kind started.session (opened kind preferences store).session :=
    stage.leaves_recordHeader ((sceneSeat kind).get started)
  exact stage.terms.leaves_trans forgets (stage.terms.leaves_trans starts heads)

theorem playing_opened (preferences : Preferences) (scenes_of : scenes.Of store.session)
    (around : Around kind store.session) :
    Playing kind (scenes.scenario kind) preferences (opened kind preferences store).session := by
  have same := interpreter_opened kind preferences store
  let stage := sceneStage kind (store.session.interpreter kind).scenario preferences (.ended 0)
  refine ⟨?_, ?_, ?_⟩
  · rw [same, ← scenes_of.scenario_eq kind]
    exact (Interpreter.inPlay_begin _ preferences).heard _ _
  · rw [same]
    rfl
  · exact stage.around_recordHeader _ (stage.around_modify _ (stage.around_modify _ around))

end Opening

/-- An operation plays a scene from the top and ends. -/
theorem conducts_start {kind : SceneKind} {answer : Option Reply} {post : Draft → Prop}
    (deserted : Deserted id outline) (scenes_of : scenes.Of store.session)
    (around : Around kind store.session) (untouched : kind = .text → Untouched store.session.encounter)
    (preferences : Preferences)
    (reached : ∀ (halt : Halt) (ahead : Nat) (final : Alone) (after : Draft),
      Standing scenes (.scene kind outline.count halt (some ahead)) [id]
        (after.close id final (.finished answer)) →
      final.session.preferences = store.session.preferences →
      final.session.score = store.session.score →
      post (after.close id final (.finished answer))) :
    World.Conducts machine outline id ((sceneSeat kind).start preferences (.done answer)) store post := by
  obtain ⟨halt, entries, fits, runs⟩ := runs_openScene kind (scenes.scenario kind) preferences
  have same := interpreter_opened kind preferences store
  have playing := playing_opened preferences scenes_of around
  have spares := spares_opened kind preferences store
  have vacated : Deserted id (outline.vacate (roleOf kind)) := deserted.vacate _
  refine .cancel_empty (deserted.slots _) (.update (.update (.update
    (.spawn (vacated.slots _) (.done ?_)))))
  refine reached halt entries.length (opened kind preferences store) _ ?_ spares.preferences
    spares.score
  refine vacated.spawn ?_ ?_ ?_ _
  · exact scenes_of.of_spares spares playing.inPlay.scenario_eq
  · exact ⟨playing.around, untouched_of_spares spares untouched, fits, preferences, playing.inPlay⟩
  · refine ⟨.inl rfl, preferences, entries, rfl, ?_⟩
    intro later sameSession
    refine runs later ?_ ?_
    · rw [sameSession]
      exact playing
    · rw [sameSession, same]
      rfl

/-- An operation plays the encounter from the top and ends. -/
theorem conducts_enterEncounter {answer : Option Reply} {post : Draft → Prop}
    (deserted : Deserted id outline) (scenes_of : scenes.Of store.session)
    (blank : store.session.epilogue = .blank)
    (reached : ∀ (halt : Halt) (ahead : Nat) (final : Alone) (after : Draft),
      Standing scenes (.scene .encounter outline.count halt (some ahead)) [id]
        (after.close id final (.finished answer)) →
      final.session.preferences = store.session.preferences →
      final.session.score = store.session.score →
      post (after.close id final (.finished answer))) :
    World.Conducts machine outline id (seat.enterEncounter (.done answer)) store post := by
  let entered : Alone := { store with session := store.session.enter .encounter }
  have around : Around .encounter entered.session := ⟨rfl, blank⟩
  have still : scenes.Of entered.session := scenes_of.enter .encounter
  refine .update (.look ?_)
  exact conducts_start deserted still around (by simp) _ reached

/-! ## Ends of operations -/

theorem Continues.ended {outcome : Outcome Reply} (inFlight : history.flight = some flight)
    (standing : Standing scenes next [flight.task] (outline.close flight.task store outcome))
    (concluded : Concluded scenes history flight next outcome)
    (onward : history.restarting = false →
      Onward before.store.session.preferences.pacing situation next
        ∧ store.session.preferences = before.store.session.preferences)
    (score : ∀ chosen, Accounts scenes history chosen before →
      store.session.score = pointsOf (flight.credited scenes chosen outcome)) :
    Continues scenes history situation before nearer
      (outline.close flight.task store outcome) := by
  refine ⟨next, .closed inFlight standing (Function.update_self _ _ _) (Function.update_self _ _ _)
    concluded, onward, ?_, ?_⟩
  · intro other same stillThere
    rw [inFlight] at same
    cases same
    have gone : (outline.close flight.task store outcome).tasks flight.task = none :=
      Function.update_self _ _ _
    rw [gone] at stillThere
    cases stillThere
  · intro chosen accounts
    have ended : (outline.close flight.task store outcome).outcomes flight.task = some outcome :=
      Function.update_self _ _ _
    rw [Accounts, History.credited_of_ended inFlight ended]
    exact score chosen accounts

theorem Operation.eq_restart {operation : Operation} (restarts : operation.isRestart = true) :
    ∃ preferences, operation = .restart preferences := by
  cases operation with
  | restart preferences => exact ⟨preferences, rfl⟩
  | begin => cases restarts
  | triggerTransition => cases restarts
  | beginEncounter => cases restarts
  | select _ => cases restarts
  | settle => cases restarts

theorem Concluded.of_restart (restarts : flight.operation.isRestart = true) :
    Concluded scenes history flight .fresh (.finished none) := by
  obtain ⟨task, operation, place, accepts⟩ := flight
  obtain ⟨preferences, rfl⟩ := Operation.eq_restart restarts
  refine ⟨trivial, ?_, fun _ => rfl, ?_, ?_, fun _ => rfl, ?_, rfl⟩
  · intro begins
    cases begins
  · intro _ notRestart
    cases notRestart
  · intro id selects
    cases selects
  · intro phase leaves
    cases leaves

/-! ## The rest of a restart -/

section Restart

variable {other : Option Preferences}

theorem conducts_forgetEpilogue (inFlight : history.flight = some flight)
    (restarts : flight.operation.isRestart = true) (deserted : Deserted flight.task outline)
    (scenes_of : scenes.Of store.session) (text : Untouched store.session.text)
    (encounter : Untouched store.session.encounter) :
    World.Conducts machine outline flight.task (forgetEpilogue other) store
      (Continues scenes history situation before nearer) := by
  let blanked := store.session.modifyEpilogue fun _ => .blank
  have still : scenes.Of (blanked.restarted other) := by
    refine ⟨?_, scenes_of.endings_eq⟩
    intro kind
    cases kind with
    | text => exact scenes_of.scenario_eq .text
    | encounter => exact scenes_of.scenario_eq .encounter
  have looks : Situation.Looks scenes .fresh (blanked.restarted other) := ⟨rfl, rfl, text, encounter⟩
  have vacant : Situation.fresh.Vacant := fun _ => rfl
  refine .update (.update (.done (.ended inFlight ?_ (.of_restart restarts) ?_ ?_)))
  · exact deserted.close vacant rfl still looks _
  · intro notRestarting
    rw [History.restarting_of_flight inFlight, restarts] at notRestarting
    cases notRestarting
  · intro chosen _
    rw [Flight.credited_of_restart restarts]
    rfl

theorem conducts_forgetEncounter (inFlight : history.flight = some flight)
    (restarts : flight.operation.isRestart = true) (deserted : Deserted flight.task outline)
    (scenes_of : scenes.Of store.session) (text : Untouched store.session.text) :
    World.Conducts machine outline flight.task (forgetEncounter other) store
      (Continues scenes history situation before nearer) := by
  refine .update (.cancel_empty (deserted.slots _) ?_)
  refine conducts_forgetEpilogue inFlight restarts (deserted.vacate _) ?_ text (untouched_reset _)
  exact scenes_of.of_spares (spares_modify .encounter _ _) (scenes_of.scenario_eq .encounter)

theorem conducts_forgetText (inFlight : history.flight = some flight)
    (restarts : flight.operation.isRestart = true) (deserted : Deserted flight.task outline)
    (scenes_of : scenes.Of store.session) :
    World.Conducts machine outline flight.task (forgetText other) store
      (Continues scenes history situation before nearer) := by
  refine .update (.cancel_empty (deserted.slots _) ?_)
  refine conducts_forgetEncounter inFlight restarts (deserted.vacate _) ?_ (untouched_reset _)
  exact scenes_of.of_spares (spares_modify .text _ _) (scenes_of.scenario_eq .text)

/-- A restart that waited for a cancelled task goes on once the task has ended. -/
theorem conducts_forget {stage : Role} {leaver : Option TaskId} (inFlight : history.flight = some flight)
    (restarts : flight.operation.isRestart = true) (deserted : Deserted flight.task outline)
    (scenes_of : scenes.Of store.session)
    (looks : Situation.Looks scenes (.clearing stage leaver) store.session) :
    World.Conducts machine outline flight.task (forget other stage) store
      (Continues scenes history situation before nearer) := by
  cases stage with
  | text => exact conducts_forgetText inFlight restarts deserted scenes_of
  | encounter => exact conducts_forgetEncounter inFlight restarts deserted scenes_of looks.2.1
  | epilogue =>
      exact conducts_forgetEpilogue inFlight restarts deserted scenes_of looks.2.1 looks.2.2

/-- A restart takes the task of the last driver that holds one, and waits for it. -/
theorem continues_taken {stage : Role} {held : TaskId} (inFlight : history.flight = some flight)
    (restarts : flight.operation = .restart other)
    (standing : Standing scenes situation [flight.task] outline) (noLeaver : situation.leaver = none)
    (holding : situation.slot stage = some held)
    (slots : ∀ role, role ≠ stage → situation.slot role = none)
    (scenes_of : scenes.Of store.session)
    (looks : Situation.Looks scenes (.clearing stage (some held)) store.session)
    (sameOutcomes : outline.outcomes = before.outcomes)
    (score : store.session.score = before.store.session.score)
    (waits : ∀ after, nearer flight.task (.clearing stage (some held)) after) :
    Continues scenes history next before nearer
      (taken outline stage held flight.task (forget other stage) store) := by
  have different : held ≠ flight.task := by
    intro same
    exact (standing.within stage held holding).2 (by simp [same])
  refine ⟨.clearing stage (some held), .engaged inFlight ?_ (tasks_taken_self different) ?_ ?_ ?_, ?_,
    ?_, fun _ accounts => accounts.of_kept inFlight (congrFun sameOutcomes flight.task) score⟩
  · refine standing.take noLeaver holding ?_ scenes_of looks ?_ ?_ ?_
    · intro role
      by_cases same : role = stage
      · rw [if_pos same]
        rfl
      · rw [if_neg same, slots role same]
        rfl
    · intro role someone performs
      cases performs
    · intro role someone performs
      have slot := Situation.slot_of_performer performs
      have same : role = stage := by
        by_contra elsewhere
        rw [slots role elsewhere] at slot
        cases slot
      rw [same, holding] at slot
      cases slot
      exact .inr rfl
    · intro role someone same
      cases same
      exact ⟨rfl, rfl⟩
  · rw [restarts]
    exact .clearing stage (some held) other
  · intro notRestart
    rw [restarts] at notRestart
    cases notRestart
  · intro leaver task leaves found
    cases leaves
    rw [tasks_taken_held different] at found
    obtain ⟨before, -, rfl⟩ := Option.map_eq_some_iff.mp found
    simp
  · intro notRestarting
    rw [History.restarting_of_flight inFlight, restarts] at notRestarting
    cases notRestarting
  · intro someone same _
    rw [inFlight] at same
    cases same
    exact waits _

end Restart

/-! ## The rest of the other operations -/

theorem conducts_settle (inFlight : history.flight = some flight)
    (settles : flight.operation = .settle) (calm : situation.Calm)
    (standing : Standing scenes situation [flight.task] outline)
    (unended : outline.outcomes flight.task = none) (same : situation.isFresh = history.fresh)
    (remaining : List Role)
    (joined : ∀ after : Draft,
      (∃ other task, after.tasks other = some task ∧ flight.task ∈ task.joiners) →
        nearer flight.task situation after) :
    World.Conducts machine outline flight.task (.settle seat.drivers remaining .stop) outline.store
      (Continues scenes history situation outline nearer) := by
  have outside : ∀ role, (outline.holdings role).slot ≠ some flight.task := by
    intro role
    rw [standing.slot_eq]
    exact (standing.newcomers flight.task (by simp)).2 role
  have onward : Onward outline.store.session.preferences.pacing situation situation := .refl _ _
  refine .settle remaining outside ?_ fun quiet => .done ?_
  · intro role held others holding unended
    have different : flight.task ≠ held := by
      intro same
      exact outside role (by rw [holding, same])
    have waits : ((outline.rest flight.task
        (.fresh none (.settle seat.drivers (role :: others) .stop)) outline.store).join flight.task
          held).tasks flight.task =
        some (.fresh none (.settle seat.drivers (role :: others) .stop)) :=
      (Function.update_of_ne different _ _).trans (Function.update_self _ _ _)
    refine ⟨situation, .engaged inFlight (standing.join calm rfl _) waits ?_ (fun _ => same) ?_,
      fun _ => ⟨onward, rfl⟩, ?_, fun _ accounts => accounts.of_kept inFlight rfl rfl⟩
    · rw [settles]
      exact .settling calm _
    · intro leaver task leaves
      rw [calm.no_leaver] at leaves
      cases leaves
    · intro someone sameFlight _
      rw [inFlight] at sameFlight
      cases sameFlight
      obtain ⟨task, found⟩ := Option.isSome_iff_exists.mp unended
      refine joined _ ⟨held, { task with joiners := task.joiners ++ [flight.task] }, ?_, by simp⟩
      have still : (outline.rest flight.task
          (.fresh none (.settle seat.drivers (role :: others) .stop)) outline.store).tasks held =
            some task := (Function.update_of_ne (Ne.symm different) _ _).trans found
      refine (Function.update_self _ _ _).trans ?_
      rw [still]
      rfl
  · have nobody : situation.performer = none := by
      cases performs : situation.performer with
      | none => rfl
      | some performer =>
          have active := (standing.active_iff performer.1).mpr ⟨performer.2, performs⟩
          rw [quiet performer.1 (by cases performer.1 <;> simp [Seat.drivers, Role.all, seat])] at active
          cases active
    have counts : ∀ chosen, flight.credited scenes chosen (.finished none) = chosen := by
      intro chosen
      exact Flight.credited_of_other (by rw [settles]; rfl) (by simp [settles])
    refine .ended inFlight (standing.close calm rfl _) ?_ (fun _ => ⟨onward, rfl⟩) fun chosen accounts =>
      accounts.of_other inFlight unended rfl (counts chosen)
    refine ⟨calm, ?_, ?_, fun _ _ => same, ?_, fun _ => nobody, ?_, ?_⟩
    · rw [settles]
      intro begins
      cases begins
    · rw [settles]
      intro restarts
      cases restarts
    · rw [settles]
      intro id selects
      cases selects
    · rw [settles]
      intro phase leaves
      cases leaves
    · rw [settles]
      rfl

/-- What an operation has come to that has left a phase. -/
theorem Concluded.of_confirmed (calm : situation.Calm) (notFresh : situation.isFresh = false)
    (confirms : flight.operation = .triggerTransition ∨ flight.operation = .beginEncounter)
    (begun : history.fresh = false) (accepts : flight.accepts = true)
    (moved : ∀ phase, flight.operation.leaves? = some phase → situation.phase ≠ phase) :
    Concluded scenes history flight situation (.finished (some (.verdict true))) := by
  obtain ⟨task, operation, place, accepts⟩ := flight
  simp only at accepts
  subst accepts
  rcases confirms with rfl | rfl
  · refine ⟨calm, fun _ => notFresh, ?_, fun _ _ => notFresh.trans begun.symm, ?_, ?_,
      fun phase leaves _ => moved phase leaves, rfl⟩
    · intro restarts
      cases restarts
    · intro id selects
      cases selects
    · intro settles
      cases settles
  · refine ⟨calm, fun _ => notFresh, ?_, fun _ _ => notFresh.trans begun.symm, ?_, ?_,
      fun phase leaves _ => moved phase leaves, rfl⟩
    · intro restarts
      cases restarts
    · intro id selects
      cases selects
    · intro settles
      cases settles

/-- Leaving a phase does not change what counts. -/
theorem credited_of_confirms {chosen : List Choice} {outcome : Outcome Reply}
    (confirms : flight.operation = .triggerTransition ∨ flight.operation = .beginEncounter) :
    flight.credited scenes chosen outcome = chosen := by
  refine Flight.credited_of_other ?_ ?_
  · rcases confirms with confirms | confirms <;> rw [confirms] <;> rfl
  · rcases confirms with confirms | confirms <;> simp [confirms]

theorem conducts_confirmed {stands : Situation} (inFlight : history.flight = some flight)
    (confirms : flight.operation = .triggerTransition ∨ flight.operation = .beginEncounter)
    (begun : history.fresh = false) (accepts : flight.accepts = true)
    (deserted : Deserted flight.task outline) (unended : outline.outcomes flight.task = none)
    (scenes_of : scenes.Of outline.store.session) (blank : outline.store.session.epilogue = .blank)
    (advance : Advance outline.store.session.preferences.pacing stands.phase .encounter)
    (offers : ∀ place, place.1 = .encounter → stands.MayOffer place)
    (silent : stands.showing? = none) :
    World.Conducts machine outline flight.task (seat.enterEncounter accepted) outline.store
      (Continues scenes history stands outline nearer) := by
  refine conducts_enterEncounter deserted scenes_of blank ?_
  intro halt ahead final after standing samePreferences sameScore
  refine .ended inFlight standing (.of_confirmed trivial rfl confirms begun accepts ?_)
    (fun _ => ⟨.of_silent silent advance ?_, samePreferences⟩) fun chosen accounts =>
      accounts.of_other inFlight unended sameScore (credited_of_confirms confirms)
  · intro phase leaves
    rcases confirms with trigger | begins
    · rw [trigger] at leaves
      cases leaves
      simp [Situation.phase, phaseOf]
    · rw [begins] at leaves
      cases leaves
      simp [Situation.phase, phaseOf]
  · intro place mayOffer
    refine offers place ?_
    rcases mayOffer with ⟨-, encounter⟩ | ⟨encounter, -⟩
    · exact encounter
    · exact encounter

theorem conducts_leaveText (inFlight : history.flight = some flight)
    (leaves : flight.operation = .triggerTransition) (begun : history.fresh = false)
    (accepts : flight.accepts = true) (deserted : Deserted flight.task outline)
    (unended : outline.outcomes flight.task = none) (scenes_of : scenes.Of outline.store.session)
    (looks : Situation.Looks scenes .leaving outline.store.session) :
    World.Conducts machine outline flight.task leaveText outline.store
      (Continues scenes history .leaving outline nearer) := by
  obtain ⟨phase, blank, untouched, stopped⟩ := looks
  refine .look ?_
  by_cases fast : outline.store.session.preferences.pacing = .fast
  · rw [if_pos fast]
    exact conducts_confirmed inFlight (.inl leaves) begun accepts deserted unended scenes_of blank
      (.skip fast) (fun _ encounter => encounter) rfl
  · rw [if_neg fast]
    have looks : Situation.Looks scenes .transition (outline.store.session.enter .transition) :=
      ⟨rfl, blank, untouched, stopped, fast⟩
    have vacant : Situation.transition.Vacant := fun _ => rfl
    have concluded : Concluded scenes history flight .transition (.finished (some (.verdict true))) := by
      refine .of_confirmed trivial rfl (.inl leaves) begun accepts ?_
      intro phase left
      rw [leaves] at left
      cases left
      simp [Situation.phase]
    refine .update (.done (.ended inFlight (deserted.close vacant rfl ?_ looks _) concluded ?_ ?_))
    · exact scenes_of.enter .transition
    · exact fun _ => ⟨.of_silent rfl (.reveal fast) fun _ encounter => encounter, rfl⟩
    · exact fun chosen accounts =>
        accounts.of_other inFlight unended rfl (credited_of_confirms (.inl leaves))

/-- What the player's line and the points of a choice do to a play-through. -/
structure Told (kind : SceneKind) (points : Int) (before after : Session) : Prop where
  heard : ∃ event, after.interpreter kind = (before.interpreter kind).record event
  elsewhere : after.interpreter (rival kind) = before.interpreter (rival kind)
  phase : after.phase = before.phase
  epilogue : after.epilogue = before.epilogue
  preferences : after.preferences = before.preferences
  endings : after.endings = before.endings
  score : after.score = before.score + points

theorem told_applyChoice (kind : SceneKind) (offer : Offer) (nodeId : String)
    (choice : Option Choice) (store : Alone) :
    Told kind offer.points store.session ((sceneSeat kind).applyChoice offer nodeId choice store).session := by
  have same : ((sceneSeat kind).applyChoice offer nodeId choice store).session =
      (store.session.modifyInterpreter kind fun interpreter =>
        interpreter.record (.plain .player offer.text)).award offer.points := by
    cases choice <;> rfl
  rw [same]
  cases kind with
  | text => exact ⟨⟨_, rfl⟩, rfl, rfl, rfl, rfl, rfl, rfl⟩
  | encounter => exact ⟨⟨_, rfl⟩, rfl, rfl, rfl, rfl, rfl, rfl⟩

namespace Told

variable {kind : SceneKind} {points : Int} {before after : Session}

theorem scenes_of (told : Told kind points before after) (of : scenes.Of before) : scenes.Of after := by
  obtain ⟨event, heard⟩ := told.heard
  have here : (after.interpreter kind).scenario = scenes.scenario kind := by
    rw [heard]
    exact of.scenario_eq kind
  have there : (after.interpreter (rival kind)).scenario = scenes.scenario (rival kind) := by
    rw [told.elsewhere]
    exact of.scenario_eq (rival kind)
  refine ⟨?_, told.endings.trans of.endings_eq⟩
  intro other
  cases kind <;> cases other <;> first | exact here | exact there

theorem playing {scenario : Scenario} {preferences : Preferences} (told : Told kind points before after)
    (playing : Playing kind scenario preferences before) :
    Playing kind scenario preferences after := by
  obtain ⟨event, heard⟩ := told.heard
  refine ⟨?_, ?_, ?_⟩
  · rw [heard, Interpreter.record_eq_heard]
    exact playing.inPlay.heard _ _
  · rw [heard]
    exact playing.clear
  · exact ⟨told.phase.trans playing.around.phase, told.epilogue.trans playing.around.epilogue⟩

theorem nodeIndex (told : Told kind points before after) :
    (after.interpreter kind).nodeIndex = (before.interpreter kind).nodeIndex := by
  obtain ⟨event, heard⟩ := told.heard
  rw [heard]
  rfl

theorem untouched (told : Told kind points before after) (untouched : kind = .text → Untouched before.encounter) :
    kind = .text → Untouched after.encounter := by
  intro text
  subst text
  rw [show after.encounter = before.encounter from told.elsewhere]
  exact untouched rfl

end Told

theorem conducts_answer {kind : SceneKind} {index : Nat} {node : ChoiceNode} {choice : Choice}
    {tag : String} (inFlight : history.flight = some flight) (selects : flight.operation = .select tag)
    (begun : history.fresh = false) (accepts : flight.accepts = true) (language : Language)
    (nodeId : String) (here : (scenes.scenario kind).nodes[index]? = some (.choice node))
    (found : node.find? tag = some choice) (placed : flight.place = some (kind, index))
    (new : (kind, index) ∉ history.taken) (deserted : Deserted flight.task outline)
    (unended : outline.outcomes flight.task = none) (scenes_of : scenes.Of outline.store.session)
    (looks : Situation.Looks scenes (.claimed kind index) outline.store.session) :
    World.Conducts machine outline flight.task
      (answer kind (choice.offer language) nodeId (some choice)) outline.store
      (Continues scenes history (.claimed kind index) outline nearer) := by
  obtain ⟨untouched, place, preferences, playing⟩ := looks
  obtain ⟨halt, entries, fits, runs⟩ := runs_resume kind preferences here tag
  rw [found] at runs
  let after := (sceneSeat kind).applyChoice (choice.offer language) nodeId (some choice) outline.store
  have told : Told kind choice.points outline.store.session after.session :=
    told_applyChoice kind (choice.offer language) nodeId _ outline.store
  have still := told.playing playing
  have standing : Standing scenes (.scene kind outline.count halt (some entries.length)) [flight.task]
      ((outline.install (roleOf kind) ((sceneSeat kind).resume (some choice))).close
        flight.task after (.finished (some (.verdict true)))) := by
    refine deserted.spawn (told.scenes_of scenes_of) ?_ ?_ _
    · exact ⟨still.around, told.untouched untouched, fits.lower (Nat.zero_le _), preferences,
        still.inPlay⟩
    · refine ⟨.inl rfl, preferences, entries, rfl, ?_⟩
      intro later same
      refine runs later ?_ ?_
      · rw [same]
        exact still
      · rw [same, told.nodeIndex]
        exact place
  -- The next stop is beyond the place of the choice, so this place never offers again.
  have beyond : ∀ place,
      (Situation.scene kind outline.count halt (some entries.length)).MayOffer place →
      (kind = .text ∧ place.1 = .encounter) ∨ (place.1 = kind ∧ index + 1 ≤ place.2) := by
    rintro place (elsewhere | ⟨samePlace, further, other, stops, reached⟩)
    · exact .inl elsewhere
    · have floor := (fits.offers further other stops).1
      exact .inr ⟨samePlace, Nat.le_trans floor reached⟩
  have passes : ¬ (Situation.scene kind outline.count halt (some entries.length)).MayOffer
      (kind, index) := by
    intro mayOffer
    rcases beyond _ mayOffer with ⟨text, encounter⟩ | ⟨-, further⟩
    · rw [text] at encounter
      cases encounter
    · exact absurd further (Nat.not_succ_le_self index)
  refine .update (.spawn (deserted.slots _) (.done (.ended inFlight standing ?_ ?_ ?_)))
  · refine ⟨trivial, fun _ => rfl, ?_, fun _ _ => begun.symm, ?_, ?_, ?_, ?_⟩
    · rw [selects]
      intro restarts
      cases restarts
    · intro _ _ _
      exact ⟨(kind, index), placed, ⟨node, here⟩, new, passes⟩
    · rw [selects]
      intro settles
      cases settles
    · rw [selects]
      intro phase leaves
      cases leaves
    · rw [selects, accepts]
      rfl
  · intro _
    refine ⟨⟨.stay _, ?_, ?_, ?_⟩, told.preferences⟩
    · intro place mayOffer
      rcases beyond place mayOffer with elsewhere | ⟨samePlace, further⟩
      · exact .inl elsewhere
      · exact .inr ⟨samePlace, Nat.le_of_succ_le further⟩
    · intro place shown
      cases shown
      exact .inr passes
    · intro place _ offered
      cases halt <;> cases offered
  · intro chosen accounts
    have offered : scenes.choice? flight.place tag = some choice := by
      rw [placed, Scenes.choice?, Option.bind_some, here]
      exact found
    rw [Flight.credited_of_select selects offered, pointsOf, List.map_append, List.sum_append,
      told.score, accounts.score_of_unended inFlight unended]
    simp [pointsOf]

/-! ## Any turn -/

/-- An operation that has waited goes on. -/
theorem conducts_waiting {operation : Operation} {place : Option (SceneKind × Nat)} {accepts : Bool}
    {program : Plan} (inFlight : history.flight = some ⟨id, operation, place, accepts⟩)
    (standing : Standing scenes situation [id] outline)
    (engaged : Engaged scenes place accepts operation situation program)
    (unended : outline.outcomes id = none)
    (unawaited : ∀ other task, outline.tasks other = some task → id ∉ task.joiners)
    (same : operation.isRestart = false → situation.isFresh = history.fresh)
    (gone : ∀ leaver, situation.leaver = some leaver → outline.tasks leaver = none)
    (passed : history.restarting = false → ∀ place ∈ history.taken, ¬ situation.MayOffer place) :
    World.Conducts machine outline id program outline.store
      (Continues scenes history situation outline
        (fun someone => Nearer someone situation outline)) := by
  cases engaged with
  | settling calm remaining =>
      exact conducts_settle inFlight rfl calm standing unended (same rfl) remaining fun _ joined =>
        .joins calm unawaited joined
  | leaving accepted =>
      have deserted := standing.deserted (fun _ => rfl) gone
      exact conducts_leaveText inFlight rfl (same rfl).symm accepted deserted unended
        standing.scenes_of standing.looks
  | @choosing kind index node choice tag language nodeId here found placed accepted =>
      have deserted := standing.deserted (fun _ => rfl) gone
      have new : (kind, index) ∉ history.taken := by
        intro taken
        refine passed ?_ _ taken (.inr ⟨rfl, Nat.le_refl index⟩)
        rw [History.restarting_of_flight inFlight]
        rfl
      exact conducts_answer inFlight rfl (same rfl).symm accepted language nodeId here found placed new
        deserted unended standing.scenes_of standing.looks
  | clearing stage leaver other =>
      have deserted := standing.deserted (fun _ => rfl) gone
      exact conducts_forget inFlight rfl deserted standing.scenes_of standing.looks
  | fading held ahead other =>
      have slot : (outline.holdings .epilogue).slot = some held := standing.slot_eq .epilogue
      have different : held ≠ id := by
        intro sameTask
        exact (standing.within .epilogue held rfl).2 (by simp [sameTask])
      refine .update (.cancel_held slot different ?_)
      refine continues_taken inFlight rfl standing rfl rfl ?_ ?_ ?_ rfl rfl fun _ => .fades
      · intro role elsewhere
        cases role with
        | text => rfl
        | encounter => rfl
        | epilogue => exact absurd rfl elsewhere
      · exact standing.scenes_of.of_spares (spares_modify .encounter _ _)
          (standing.scenes_of.scenario_eq .encounter)
      · exact ⟨standing.looks.1, standing.looks.2.1, untouched_reset _⟩

/-- Whoever has a turn, a play-through goes on. -/
theorem continues_turn {base : Setting} {task : Task Alone Role SceneKind Reply}
    (progressing : Progressing scenes history outline situation) (sameOutline : base.outline = outline)
    (found : outline.tasks id = some task)
    (unawaited : ∀ other someone, outline.tasks other = some someone → id ∉ someone.joiners)
    (passed : history.restarting = false → ∀ place ∈ history.taken, ¬ situation.MayOffer place) :
    World.Lands machine
      (fun after => Continues scenes history situation outline
        (fun someone => Nearer someone situation outline) after.outline)
      (base.focus id (World.atTurn task) outline.store) := by
  have others : ∀ bystanders : List TaskId, Standing scenes situation bystanders outline →
      id ∉ bystanders → World.Lands machine
        (fun after => Continues scenes history situation outline
        (fun someone => Nearer someone situation outline) after.outline)
        (base.focus id (World.atTurn task) outline.store) := by
    intro bystanders standing outside
    rcases standing.only id task found with bystander | ⟨role, performs⟩ | leaves
    · exact absurd bystander outside
    · exact continues_performer progressing performs sameOutline found
    · exact continues_leaver progressing leaves sameOutline found
  cases progressing with
  | free noFlight calm same standing => exact others [] standing (by simp)
  | @closed flight outcome inFlight standing gone ended concluded =>
      refine others [flight.task] standing ?_
      intro member
      rw [List.mem_singleton.mp member, gone] at found
      cases found
  | @engaged flight program inFlight standing waits engaged same awaits =>
      obtain ⟨waiting, operation, place, accepts⟩ := flight
      by_cases mine : id = waiting
      · subst mine
        rw [waits] at found
        cases found
        have unended : outline.outcomes id = none := by
          rw [← sameOutline] at waits ⊢
          exact World.no_outcome waits
        refine conducts_waiting inFlight standing engaged unended unawaited same ?_ passed base
          sameOutline ?_
        · intro leaver leaves
          cases there : outline.tasks leaver with
          | none => rfl
          | some someone => exact absurd (awaits leaver someone leaves there) (unawaited leaver _ there)
        · rw [waits]
          rfl
      · exact others [waiting] standing (by simpa using mine)

end Playthrough.Session.Alone
