import Mathlib.Algebra.Ring.Int.Defs
import Playthrough.Proofs.Session.Standing

/-!
Contract: the choices that count towards the score of a play-through.

Owns: the choice that is asked for by its id, what an operation that has ended does to the choices that
count, the play-throughs that occur together with the choices that count in them (`Collects`), and what
it is to keep account of the score.

Does not own: that the score is accounted for.

A choice counts as soon as the operation that made it has ended, whether or not the operation has
completed by then, and until a restart has ended.
-/

namespace Playthrough.Session.Alone

/-- The first choice of an id at a place. -/
def Scenes.choice? (scenes : Scenes) (place : Option (SceneKind × Nat)) (id : String) :
    Option Choice :=
  place.bind fun place =>
    match (scenes.scenario place.1).nodes[place.2]? with
    | some (.choice node) => node.find? id
    | _ => none

/-- The points of choices. -/
def pointsOf (chosen : List Choice) : Int := (chosen.map Choice.points).sum

theorem pointsOf_append (chosen more : List Choice) :
    pointsOf (chosen ++ more) = pointsOf chosen + pointsOf more := by
  simp [pointsOf]

/-- The choices that count after an operation has ended. -/
def Flight.credited (scenes : Scenes) (flight : Flight) (chosen : List Choice)
    (outcome : Outcome Reply) : List Choice :=
  match flight.operation with
  | .restart _ => []
  | .select id =>
      if outcome = .finished (some (.verdict true)) then
        chosen ++ (scenes.choice? flight.place id).toList
      else chosen
  | _ => chosen

/-- The choices that count, if so many did when the last operation completed. -/
def History.credited (history : History) (scenes : Scenes)
    (outcomes : TaskId → Option (Outcome Reply)) (chosen : List Choice) : List Choice :=
  match history.flight with
  | none => chosen
  | some flight =>
      match outcomes flight.task with
      | none => chosen
      | some outcome => flight.credited scenes chosen outcome

/-- The worlds that occur, with what was done and with the choices that count among the operations that
have completed. -/
inductive Collects (textScene : Option TextScene) (encounterScene : Option EncounterScene)
    (preferences : Preferences) : History → List Choice → Setting → Prop where
  | construct : Collects textScene encounterScene preferences .initial []
      (World.initial (initial textScene encounterScene preferences))
  | begin {history : History} {chosen : List Choice} {world : Setting} (operation : Operation)
      (before : Collects textScene encounterScene preferences history chosen world)
      (noTurn : world.running = none) (free : history.flight = none)
      (timely : operation = .begin → history.fresh = true) :
      Collects textScene encounterScene preferences (history.began operation world) chosen
        (world.begin operation.plan).2
  | step {history : History} {chosen : List Choice} {world : Setting}
      (before : Collects textScene encounterScene preferences history chosen world) :
      Collects textScene encounterScene preferences (history.noted (world.step machine)) chosen
        (world.step machine)
  | release {history : History} {chosen : List Choice} {world released : Setting}
      (before : Collects textScene encounterScene preferences history chosen world)
      (noTurn : world.running = none) (position : Nat)
      (wait : world.release? position = some released) :
      Collects textScene encounterScene preferences history chosen released
  | complete {history : History} {chosen : List Choice} {world : Setting} {flight : Flight}
      {outcome : Outcome Reply}
      (before : Collects textScene encounterScene preferences history chosen world)
      (noTurn : world.running = none) (inFlight : history.flight = some flight)
      (ended : world.outcome? flight.task = some outcome) :
      Collects textScene encounterScene preferences (history.completed flight outcome)
        (flight.credited (.given textScene encounterScene) chosen outcome) world

section Collects

variable {textScene : Option TextScene} {encounterScene : Option EncounterScene}
variable {preferences : Preferences} {history : History} {chosen : List Choice} {world : Setting}

theorem Collects.occurs
    (collects : Collects textScene encounterScene preferences history chosen world) :
    Occurs textScene encounterScene preferences history world := by
  induction collects with
  | construct => exact .construct
  | begin operation _ noTurn free timely inductionHypothesis =>
      exact inductionHypothesis.begin operation noTurn free timely
  | step _ inductionHypothesis => exact inductionHypothesis.step
  | release _ noTurn position wait inductionHypothesis =>
      exact inductionHypothesis.release noTurn position wait
  | complete _ noTurn inFlight ended inductionHypothesis =>
      exact inductionHypothesis.complete noTurn inFlight ended

/-- Nothing occurs without choices being collected. -/
theorem Occurs.collects (occurs : Occurs textScene encounterScene preferences history world) :
    ∃ chosen, Collects textScene encounterScene preferences history chosen world := by
  induction occurs with
  | construct => exact ⟨_, .construct⟩
  | begin operation _ noTurn free timely inductionHypothesis =>
      obtain ⟨chosen, collects⟩ := inductionHypothesis
      exact ⟨chosen, collects.begin operation noTurn free timely⟩
  | step _ inductionHypothesis =>
      obtain ⟨chosen, collects⟩ := inductionHypothesis
      exact ⟨chosen, collects.step⟩
  | release _ noTurn position wait inductionHypothesis =>
      obtain ⟨chosen, collects⟩ := inductionHypothesis
      exact ⟨chosen, collects.release noTurn position wait⟩
  | complete _ noTurn inFlight ended inductionHypothesis =>
      obtain ⟨chosen, collects⟩ := inductionHypothesis
      exact ⟨_, collects.complete noTurn inFlight ended⟩

/-- So many steps collect nothing. -/
theorem Collects.stepped
    (collects : Collects textScene encounterScene preferences history chosen world) (count : Nat) :
    Collects textScene encounterScene preferences (history.stepped count world).1 chosen
      (history.stepped count world).2 := by
  induction count generalizing history world with
  | zero => exact collects
  | succ count inductionHypothesis => exact inductionHypothesis collects.step

end Collects

/-! ## Keeping account -/

/-- The score is made of the points of the choices that count. -/
def Accounts (scenes : Scenes) (history : History) (chosen : List Choice) (outline : Draft) : Prop :=
  outline.store.session.score = pointsOf (history.credited scenes outline.outcomes chosen)

variable {scenes : Scenes} {history : History} {flight : Flight} {chosen : List Choice}
variable {before after outline : Draft} {outcome : Outcome Reply}

theorem History.credited_of_free (noFlight : history.flight = none)
    (outcomes : TaskId → Option (Outcome Reply)) :
    history.credited scenes outcomes chosen = chosen := by
  rw [credited, noFlight]

theorem History.credited_of_unended {outcomes : TaskId → Option (Outcome Reply)}
    (inFlight : history.flight = some flight) (unended : outcomes flight.task = none) :
    history.credited scenes outcomes chosen = chosen := by
  simp only [credited, inFlight, unended]

theorem History.credited_of_ended {outcomes : TaskId → Option (Outcome Reply)}
    (inFlight : history.flight = some flight) (ended : outcomes flight.task = some outcome) :
    history.credited scenes outcomes chosen = flight.credited scenes chosen outcome := by
  simp only [credited, inFlight, ended]

/-- A refused operation takes nothing from what counts and adds nothing to it. -/
theorem Flight.credited_of_refused (notRestart : flight.operation.isRestart = false) :
    flight.credited scenes chosen (.finished (some (.verdict false))) = chosen := by
  obtain ⟨task, operation, place, accepts⟩ := flight
  cases operation <;> first | rfl | cases notRestart

/-- Only choices and restarts change what counts. -/
theorem Flight.credited_of_other (notRestart : flight.operation.isRestart = false)
    (notSelect : ∀ id, flight.operation ≠ .select id) :
    flight.credited scenes chosen outcome = chosen := by
  obtain ⟨task, operation, place, accepts⟩ := flight
  cases operation with
  | select id => exact absurd rfl (notSelect id)
  | restart _ => cases notRestart
  | begin | triggerTransition | beginEncounter | settle => rfl

theorem Flight.credited_of_restart (restarts : flight.operation.isRestart = true) :
    flight.credited scenes chosen outcome = [] := by
  obtain ⟨task, operation, place, accepts⟩ := flight
  cases operation with
  | restart _ => rfl
  | begin | triggerTransition | beginEncounter | select _ | settle => cases restarts

/-- Only a restart takes anything from what counts. -/
theorem Flight.prefix_credited (notRestart : flight.operation.isRestart = false) :
    chosen <+: flight.credited scenes chosen outcome := by
  unfold Flight.credited
  cases operation : flight.operation with
  | restart again => rw [operation] at notRestart; cases notRestart
  | select id => dsimp only; split <;> simp
  | begin | triggerTransition | beginEncounter | settle => exact List.prefix_rfl

/-- An accepted choice counts. -/
theorem Flight.credited_of_select {id : String} {choice : Choice}
    (selects : flight.operation = .select id)
    (found : scenes.choice? flight.place id = some choice) :
    flight.credited scenes chosen (.finished (some (.verdict true))) = chosen ++ [choice] := by
  rw [credited, selects]
  simp [found]

namespace Accounts

/-- What is written down between two turns is no matter of account. -/
theorem noted {world : Setting} :
    Accounts scenes (history.noted world) chosen outline ↔ Accounts scenes history chosen outline := by
  rw [Accounts, Accounts, History.noted]
  split
  · simp only [History.notePhase, History.noteOffer]
    split <;> split <;> rfl
  · rfl

theorem score_of_unended (accounts : Accounts scenes history chosen outline)
    (inFlight : history.flight = some flight) (unended : outline.outcomes flight.task = none) :
    outline.store.session.score = pointsOf chosen := by
  rw [Accounts, History.credited_of_unended inFlight unended] at accounts
  exact accounts

/-- Where nothing is asked for, the score stays what it is. -/
theorem of_free (accounts : Accounts scenes history chosen before) (noFlight : history.flight = none)
    (score : after.store.session.score = before.store.session.score) :
    Accounts scenes history chosen after := by
  rw [Accounts, History.credited_of_free noFlight] at accounts ⊢
  exact score.trans accounts

/-- While an operation comes no nearer to its end, the score stays what it is. -/
theorem of_kept (accounts : Accounts scenes history chosen before)
    (inFlight : history.flight = some flight)
    (outcomes : after.outcomes flight.task = before.outcomes flight.task)
    (score : after.store.session.score = before.store.session.score) :
    Accounts scenes history chosen after := by
  rw [Accounts] at accounts ⊢
  rw [score, accounts]
  simp only [History.credited, inFlight, outcomes]

/-- An operation has ended that leaves the score alone, and what counts. -/
theorem of_other {store : Alone} (accounts : Accounts scenes history chosen outline)
    (inFlight : history.flight = some flight) (unended : outline.outcomes flight.task = none)
    (score : store.session.score = outline.store.session.score)
    (counts : flight.credited scenes chosen outcome = chosen) :
    store.session.score = pointsOf (flight.credited scenes chosen outcome) := by
  rw [counts, score]
  exact accounts.score_of_unended inFlight unended

end Accounts

end Playthrough.Session.Alone
