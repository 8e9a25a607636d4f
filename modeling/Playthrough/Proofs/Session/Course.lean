import Playthrough.Proofs.Session.Playback
import Playthrough.Proofs.Session.Score

/-!
Contract: the course of a play-through.

Owns: what an operation that waits goes on with, what is true of a play-through and its history
between two turns (`Progressing`, `Chronicle`), and the direction in which everything moves
(`Onward`).

Does not own: that every turn keeps it.
-/

namespace Playthrough.Session.Alone

/-! ## What operations go on with -/

/-- The rest of a transition, once the driver of the text scene has stopped. -/
def leaveText : Plan :=
  .look fun store =>
    if store.session.preferences.pacing = .fast then seat.enterEncounter accepted
    else .update (seat.modify (enter .transition)) accepted

/-- The rest of a choice, once the driver of the scene has stopped. -/
def answer (kind : SceneKind) (offer : Offer) (nodeId : String) (choice : Option Choice) : Plan :=
  .update ((sceneSeat kind).applyChoice offer nodeId choice)
    (.spawn (roleOf kind) ((sceneSeat kind).resume choice) accepted)

/-- The rest of a restart, once all drivers have stopped. -/
def forgetEpilogue (preferences : Option Preferences) : Plan :=
  .update (seat.modify (modifyEpilogue fun _ => .blank))
    (.update (seat.modify (restarted preferences)) .stop)

/-- The rest of a restart, once the driver of the encounter has stopped. -/
def forgetEncounter (preferences : Option Preferences) : Plan :=
  .update (seat.modify (modifyInterpreter .encounter Interpreter.reset))
    (.cancel .epilogue (forgetEpilogue preferences))

/-- The rest of a restart, once the driver of the text scene has stopped. -/
def forgetText (preferences : Option Preferences) : Plan :=
  .update (seat.modify (modifyInterpreter .text Interpreter.reset))
    (.cancel .encounter (forgetEncounter preferences))

/-- The rest of a restart that waited for the driver of a role. -/
def forget (preferences : Option Preferences) : Role → Plan
  | .text => forgetText preferences
  | .encounter => forgetEncounter preferences
  | .epilogue => forgetEpilogue preferences

theorem restart_eq (preferences : Option Preferences) :
    restart preferences = .cancel .text (forgetText preferences) := rfl

/-- Whether a node of a scene offers choices at a place. -/
def Scenes.Offers (scenes : Scenes) (place : SceneKind × Nat) : Prop :=
  ∃ node, (scenes.scenario place.1).nodes[place.2]? = some (.choice node)

/-- What an operation that waits goes on with, and in which situation it waits. -/
inductive Engaged (scenes : Scenes) (place : Option (SceneKind × Nat)) (accepts : Bool) :
    Operation → Situation → Plan → Prop where
  | settling {situation : Situation} (calm : situation.Calm) (remaining : List Role) :
      Engaged scenes place accepts .settle situation (.settle seat.drivers remaining .stop)
  | leaving (accepted : accepts = true) :
      Engaged scenes place accepts .triggerTransition .leaving leaveText
  | choosing {kind : SceneKind} {index : Nat} {node : ChoiceNode} {choice : Choice} {id : String}
      (language : Language) (nodeId : String)
      (here : (scenes.scenario kind).nodes[index]? = some (.choice node))
      (found : node.find? id = some choice) (placed : place = some (kind, index))
      (accepted : accepts = true) :
      Engaged scenes place accepts (.select id) (.claimed kind index)
        (answer kind (choice.offer language) nodeId (some choice))
  | clearing (stage : Role) (leaver : Option TaskId) (preferences : Option Preferences) :
      Engaged scenes place accepts (.restart preferences) (.clearing stage leaver)
        (forget preferences stage)
  | fading (id : TaskId) (ahead : Option Nat) (preferences : Option Preferences) :
      Engaged scenes place accepts (.restart preferences) (.fading id ahead)
        (forgetEncounter preferences)

/-- What an operation that has ended has come to. -/
structure Concluded (scenes : Scenes) (history : History) (flight : Flight) (situation : Situation)
    (outcome : Outcome Reply) : Prop where
  calm : situation.Calm
  begun : flight.operation = .begin → situation.isFresh = false
  restarted : flight.operation.isRestart = true → situation = .fresh
  same : flight.operation ≠ .begin → flight.operation.isRestart = false →
    situation.isFresh = history.fresh
  took : ∀ id, flight.operation = .select id → outcome = .finished (some (.verdict true)) →
    ∃ place, flight.place = some place ∧ scenes.Offers place ∧ place ∉ history.taken
      ∧ ¬ situation.MayOffer place
  settled : flight.operation = .settle → situation.performer = none
  moved : ∀ phase, flight.operation.leaves? = some phase → flight.accepts = true →
    situation.phase ≠ phase
  answered : outcome = .finished (flight.operation.answer flight.accepts)

/-- Where a play-through with a history stands between two turns. -/
inductive Progressing (scenes : Scenes) (history : History) (outline : Draft) : Situation → Prop where
  | free {situation : Situation} (noFlight : history.flight = none) (calm : situation.Calm)
      (same : situation.isFresh = history.fresh) (standing : Standing scenes situation [] outline) :
      Progressing scenes history outline situation
  | engaged {situation : Situation} {flight : Flight} {program : Plan}
      (inFlight : history.flight = some flight)
      (standing : Standing scenes situation [flight.task] outline)
      (waits : outline.tasks flight.task = some (.fresh none program))
      (engaged : Engaged scenes flight.place flight.accepts flight.operation situation program)
      (same : flight.operation.isRestart = false → situation.isFresh = history.fresh)
      (awaits : ∀ id task, situation.leaver = some id → outline.tasks id = some task →
        flight.task ∈ task.joiners) :
      Progressing scenes history outline situation
  | closed {situation : Situation} {flight : Flight} {outcome : Outcome Reply}
      (inFlight : history.flight = some flight)
      (standing : Standing scenes situation [flight.task] outline)
      (gone : outline.tasks flight.task = none)
      (ended : outline.outcomes flight.task = some outcome)
      (concluded : Concluded scenes history flight situation outcome) :
      Progressing scenes history outline situation

/-! ## The direction -/

/-- The phases in order. Fast pacing skips the transition screen. -/
def route (pacing : Pacing) : List Phase :=
  if pacing = .fast then [.textScene, .encounter, .epilogue]
  else [.textScene, .transition, .encounter, .epilogue]

/-- From one phase to the same or the next one. -/
inductive Advance (pacing : Pacing) : Phase → Phase → Prop where
  | stay (phase : Phase) : Advance pacing phase phase
  | reveal (slow : pacing ≠ .fast) : Advance pacing .textScene .transition
  | skip (fast : pacing = .fast) : Advance pacing .textScene .encounter
  | confirm : Advance pacing .transition .encounter
  | finish : Advance pacing .encounter .epilogue

/-- From one situation to a later one. -/
structure Onward (pacing : Pacing) (before after : Situation) : Prop where
  phase : Advance pacing before.phase after.phase
  offers : ∀ place, after.MayOffer place → before.MayOffer place
  lasts : ∀ place, before.showing? = some place →
    after.showing? = some place ∨ ¬ after.MayOffer place
  stays : ∀ place, before.showing? = some place → after.offering? = some place →
    before.offering? = some place

/-- What was written down about a play-through agrees with where it stands. -/
structure Chronicle (scenes : Scenes) (history : History) (situation : Situation)
    (session : Session) : Prop where
  phase : session.phase = situation.phase
  offering : session.offering? = situation.offering?
  phases : history.phases <+: route session.preferences.pacing
  current : history.phases.getLast? = some session.phase
  showing : history.showing = session.offering?
  anew : history.offered.Nodup
  beyond : ∀ place ∈ history.offered, situation.showing? ≠ some place → ¬ situation.MayOffer place
  once : history.taken.Nodup
  choices : ∀ place ∈ history.taken, scenes.Offers place
  passed : ∀ place ∈ history.taken, ¬ situation.MayOffer place

/-- What a turn has made of a play-through. An operation that still waits is `nearer` to its end, and
account is kept of the score. -/
def Continues (scenes : Scenes) (history : History) (situation : Situation) (before : Draft)
    (nearer : TaskId → Situation → Draft → Prop) (after : Draft) : Prop :=
  ∃ next, Progressing scenes history after next ∧
    (history.restarting = false →
      Onward before.store.session.preferences.pacing situation next
        ∧ after.store.session.preferences = before.store.session.preferences) ∧
    (∀ flight, history.flight = some flight → (after.tasks flight.task).isSome = true →
      nearer flight.task next after) ∧
    ∀ chosen, Accounts scenes history chosen before → Accounts scenes history chosen after

/-- What brings an operation that waits nearer to its end. -/
inductive Nearer (id : TaskId) : Situation → Draft → Situation → Draft → Prop where
  | plays {situation next : Situation} {before after : Draft} (plays : situation.Plays next) :
      Nearer id situation before next after
  | gone {stage : Role} {leaver : TaskId} {before after : Draft}
      (there : (before.tasks leaver).isSome = true) (gone : after.tasks leaver = none) :
      Nearer id (.clearing stage (some leaver)) before (.clearing stage (some leaver)) after
  | fades {faded held : TaskId} {ahead : Option Nat} {before after : Draft} :
      Nearer id (.fading faded ahead) before (.clearing .epilogue (some held)) after
  | joins {situation : Situation} {before after : Draft} (calm : situation.Calm)
      (free : ∀ other task, before.tasks other = some task → id ∉ task.joiners)
      (joined : ∃ other task, after.tasks other = some task ∧ id ∈ task.joiners) :
      Nearer id situation before situation after

variable {scenes : Scenes} {history : History} {situation next : Situation} {outline after : Draft}
variable {pacing : Pacing}

theorem Onward.refl (pacing : Pacing) (situation : Situation) : Onward pacing situation situation where
  phase := .stay _
  offers _ offers := offers
  lasts _ shown := .inl shown
  stays _ _ offered := offered

/-- From a situation in which no choices are on offer. -/
theorem Onward.of_silent (silent : situation.showing? = none)
    (phase : Advance pacing situation.phase next.phase)
    (offers : ∀ place, next.MayOffer place → situation.MayOffer place) :
    Onward pacing situation next where
  phase := phase
  offers := offers
  lasts place shown := by
    rw [silent] at shown
    cases shown
  stays place shown := by
    rw [silent] at shown
    cases shown

theorem Situation.showing?_of_offering? {place : SceneKind × Nat}
    (offered : situation.offering? = some place) : situation.showing? = some place := by
  cases situation with
  | claimed kind index => cases offered
  | fresh => exact offered
  | scene _ _ _ _ => exact offered
  | leaving => exact offered
  | transition => exact offered
  | epilogue _ _ _ => exact offered
  | clearing _ _ => exact offered
  | fading _ _ => exact offered

/-- What is on offer now may be on offer from now on. -/
theorem Situation.mayOffer_of_offering? {place : SceneKind × Nat}
    (offered : situation.offering? = some place) : situation.MayOffer place := by
  cases situation with
  | scene kind id halt ahead =>
      cases halt with
      | offering index node =>
          cases ahead with
          | none =>
              cases offered
              exact .inr ⟨rfl, index, node, rfl, Nat.le_refl index⟩
          | some ahead => cases offered
      | ready index => cases offered
      | ended index => cases offered
      | stuck index => cases offered
  | fresh => cases offered
  | leaving => cases offered
  | transition => cases offered
  | claimed _ _ => cases offered
  | epilogue _ _ _ => cases offered
  | clearing _ _ => cases offered
  | fading _ _ => cases offered

/-- While a driver plays no choices are on offer. -/
theorem Situation.Plays.silent (plays : situation.Plays next) : situation.showing? = none := by
  cases plays with
  | @scene _ _ halt _ _ _ => cases halt <;> rfl
  | @sceneRests _ _ halt _ => cases halt <;> rfl
  | @givesWay _ _ halt _ _ => cases halt <;> rfl
  | epilogue _ => rfl
  | epilogueRests => rfl
  | fading _ => rfl
  | fadingRests => rfl

/-- The driver that plays takes a play-through onward. -/
theorem Situation.Plays.onward (plays : situation.Plays next) : Onward pacing situation next := by
  refine .of_silent plays.silent ?_ ?_
  · cases plays with
    | givesWay => exact .finish
    | scene _ => exact .stay _
    | sceneRests => exact .stay _
    | epilogue _ => exact .stay _
    | epilogueRests => exact .stay _
    | fading _ => exact .stay _
    | fadingRests => exact .stay _
  · intro place mayOffer
    cases plays with
    | givesWay => exact mayOffer.elim
    | scene _ => exact mayOffer
    | sceneRests => exact mayOffer
    | epilogue _ => exact mayOffer
    | epilogueRests => exact mayOffer
    | fading _ => exact mayOffer
    | fadingRests => exact mayOffer

theorem Situation.Plays.calm (plays : situation.Plays next) (calm : situation.Calm) : next.Calm := by
  cases plays <;> trivial

theorem Situation.Plays.isFresh (plays : situation.Plays next) :
    situation.isFresh = false ∧ next.isFresh = false := by
  cases plays <;> exact ⟨rfl, rfl⟩

/-- What has ended stays as it is while the situation moves on. -/
theorem Concluded.played {flight : Flight} {outcome : Outcome Reply}
    (concluded : Concluded scenes history flight situation outcome) (plays : situation.Plays next) :
    Concluded scenes history flight next outcome where
  calm := plays.calm concluded.calm
  begun _ := plays.isFresh.2
  restarted restarts := by
    have fresh := concluded.restarted restarts
    subst fresh
    cases plays
  same notBegin notRestart := by
    rw [plays.isFresh.2, ← plays.isFresh.1]
    exact concluded.same notBegin notRestart
  took id selects accepted := by
    obtain ⟨place, placed, offers, new, passed⟩ := concluded.took id selects accepted
    have onward : Onward .fast situation next := plays.onward
    exact ⟨place, placed, offers, new, fun still => passed (onward.offers place still)⟩
  settled settles := by
    have nobody := concluded.settled settles
    cases plays <;> cases nobody
  moved phase leaves accepted := by
    have moved := concluded.moved phase leaves accepted
    cases plays with
    | givesWay =>
        obtain ⟨task, operation, place, accepts⟩ := flight
        cases operation <;> cases leaves <;> simp [Situation.phase]
    | scene _ => exact moved
    | sceneRests => exact moved
    | epilogue _ => exact moved
    | epilogueRests => exact moved
    | fading _ => exact moved
    | fadingRests => exact moved
  answered := concluded.answered

/-- An operation that waits goes on waiting while the situation moves on. -/
theorem Engaged.played {operation : Operation} {place : Option (SceneKind × Nat)} {accepts : Bool}
    {program : Plan} (engaged : Engaged scenes place accepts operation situation program)
    (plays : situation.Plays next) : Engaged scenes place accepts operation next program := by
  cases engaged with
  | settling calm remaining => exact .settling (plays.calm calm) remaining
  | leaving _ => cases plays
  | choosing _ _ _ _ _ _ => cases plays
  | clearing _ _ _ => cases plays
  | fading _ _ preferences => cases plays <;> exact .fading _ _ preferences

variable {base : Setting} {role : Role} {id : TaskId} {task : Task Alone Role SceneKind Reply}

/-- A turn of the driver that plays, whatever operation waits meanwhile. -/
theorem continues_performer (progressing : Progressing scenes history outline situation)
    (performs : situation.performer = some (role, id)) (sameOutline : base.outline = outline)
    (found : outline.tasks id = some task) :
    World.Lands machine
      (fun after => Continues scenes history situation outline
        (fun someone => Nearer someone situation outline) after.outline)
      (base.focus id (World.atTurn task) outline.store) := by
  cases progressing with
  | free noFlight calm same standing =>
      refine (lands_performer standing performs sameOutline found).mono ?_
      rintro after - ⟨next, played⟩
      refine ⟨next, .free noFlight (played.plays.calm calm) ?_ played.standing, fun _ =>
        ⟨played.plays.onward, played.preferences⟩, fun _ _ _ => .plays played.plays,
        fun _ accounts => accounts.of_free noFlight played.score⟩
      rw [played.plays.isFresh.2, ← same, played.plays.isFresh.1]
  | @engaged flight program inFlight standing waits engaged same awaits =>
      refine (lands_performer standing performs sameOutline found).mono ?_
      rintro after - ⟨next, played⟩
      obtain ⟨sameTask, sameOutcome⟩ := played.bystands flight.task (by simp)
      have stillWaits : after.outline.tasks flight.task = some (.fresh none program) :=
        sameTask.trans waits
      have onward : Onward outline.store.session.preferences.pacing situation next :=
        played.plays.onward
      refine ⟨next, .engaged inFlight played.standing stillWaits (engaged.played played.plays) ?_ ?_,
        fun _ => ⟨onward, played.preferences⟩, fun _ _ _ => .plays played.plays,
        fun _ accounts => accounts.of_kept inFlight sameOutcome played.score⟩
      · intro notRestart
        rw [played.plays.isFresh.2, ← played.plays.isFresh.1]
        exact same notRestart
      · intro leaver someone leaves
        have plays := played.plays
        cases plays <;> cases leaves
  | @closed flight outcome inFlight standing gone ended concluded =>
      refine (lands_performer standing performs sameOutline found).mono ?_
      rintro after - ⟨next, played⟩
      obtain ⟨sameTask, sameOutcome⟩ := played.bystands flight.task (by simp)
      refine ⟨next, .closed inFlight played.standing (sameTask.trans gone) (sameOutcome.trans ended)
        (concluded.played played.plays), fun _ => ⟨played.plays.onward, played.preferences⟩,
        fun _ _ _ => .plays played.plays,
        fun _ accounts => accounts.of_kept inFlight sameOutcome played.score⟩

end Playthrough.Session.Alone
