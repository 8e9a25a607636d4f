import Playthrough.Proofs.Task.Conduct
import Playthrough.Proofs.Task.Lasting

/-!
Contract: how a turn of a driver's task ends.

Owns: the ends of turns (`TurnEnd`), turns that end in one way in whichever world they are taken (`Turns`,
one rule for each instruction that the scripts of scenes are made of), and that programs which cannot
tell two stores apart take like turns in them.

Does not own: turns of operations, and when a turn comes.
-/

namespace Playthrough

variable {Store Driver Procedure Answer Entry : Type}

/-- How a turn of a driver's task ends: with a pause, or with the task. -/
inductive TurnEnd (Store Driver Procedure Answer : Type) where
  | pauses (next : Program Store Driver Procedure Answer)
      (frames : List (Frame Store Driver Procedure Answer)) (store : Store) (duration : Duration)
      (shown : List Indicator)
  | ends (control : Control Store Driver Procedure Answer)
      (frames : List (Frame Store Driver Procedure Answer)) (store : Store) (outcome : Outcome Answer)

namespace TurnEnd

/-- The world in which a turn ends. -/
def after (turnEnd : TurnEnd Store Driver Procedure Answer) (world : World Store Driver Procedure Answer)
    (id : TaskId) (task : Task Store Driver Procedure Answer) : World Store Driver Procedure Answer :=
  match turnEnd with
  | .pauses next frames store duration shown =>
      world.asleep id (task.on (.run (.check next)) frames) store
        { task := id, duration := duration, shown := shown }
  | .ends control frames store outcome => world.closed id (task.on control frames) store outcome

/-- What a turn makes of an outline. -/
def outline (turnEnd : TurnEnd Store Driver Procedure Answer)
    (before : Outline Store Driver Procedure Answer) (id : TaskId)
    (task : Task Store Driver Procedure Answer) : Outline Store Driver Procedure Answer :=
  match turnEnd with
  | .pauses next frames store _ _ =>
      before.rest id { task.on (.run (.check next)) frames with status := .ready } store
  | .ends _ _ store outcome => before.close id store outcome

/-- The store that a turn leaves. -/
def store : TurnEnd Store Driver Procedure Answer → Store
  | .pauses _ _ store _ _ => store
  | .ends _ _ store _ => store

/-- What a turn leaves of a task. -/
def residue? (turnEnd : TurnEnd Store Driver Procedure Answer)
    (task : Task Store Driver Procedure Answer) : Option (Task Store Driver Procedure Answer) :=
  match turnEnd with
  | .pauses next frames _ _ _ => some { task.on (.run (.check next)) frames with status := .ready }
  | .ends _ _ _ _ => none

/-- Two turns end in the same way, in stores that are alike. -/
inductive Like (like : Store → Store → Prop) :
    TurnEnd Store Driver Procedure Answer → TurnEnd Store Driver Procedure Answer → Prop where
  | pauses {next : Program Store Driver Procedure Answer}
      {frames : List (Frame Store Driver Procedure Answer)} {store other : Store} {duration : Duration}
      {shown otherShown : List Indicator} (alike : like store other) :
      Like like (.pauses next frames store duration shown) (.pauses next frames other duration otherShown)
  | ends {control : Control Store Driver Procedure Answer}
      {frames : List (Frame Store Driver Procedure Answer)} {store other : Store}
      {outcome : Outcome Answer} (alike : like store other) :
      Like like (.ends control frames store outcome) (.ends control frames other outcome)

theorem Like.store {like : Store → Store → Prop} {turnEnd otherEnd : TurnEnd Store Driver Procedure Answer}
    (same : turnEnd.Like like otherEnd) : like turnEnd.store otherEnd.store := by
  cases same with
  | pauses alike => exact alike
  | ends alike => exact alike

theorem Like.residue? {like : Store → Store → Prop}
    {turnEnd otherEnd : TurnEnd Store Driver Procedure Answer} (same : turnEnd.Like like otherEnd)
    (task : Task Store Driver Procedure Answer) : turnEnd.residue? task = otherEnd.residue? task := by
  cases same <;> rfl

variable {world : World Store Driver Procedure Answer} {id : TaskId}
variable {task : Task Store Driver Procedure Answer}

theorem store_outline (turnEnd : TurnEnd Store Driver Procedure Answer)
    (before : Outline Store Driver Procedure Answer) :
    (turnEnd.outline before id task).store = turnEnd.store := by
  cases turnEnd <;> rfl

theorem holdings_outline (turnEnd : TurnEnd Store Driver Procedure Answer)
    (before : Outline Store Driver Procedure Answer) :
    (turnEnd.outline before id task).holdings = before.holdings := by
  cases turnEnd <;> rfl

theorem tasks_outline_self (turnEnd : TurnEnd Store Driver Procedure Answer)
    (before : Outline Store Driver Procedure Answer) :
    (turnEnd.outline before id task).tasks id = turnEnd.residue? task := by
  cases turnEnd with
  | pauses next frames store duration shown => exact Function.update_self _ _ _
  | ends control frames store outcome => exact Function.update_self _ _ _

theorem outline_after (found : world.outline.tasks id = some task)
    (turnEnd : TurnEnd Store Driver Procedure Answer) :
    (turnEnd.after world id task).outline = turnEnd.outline world.outline id task := by
  cases turnEnd with
  | pauses next frames store duration shown => exact World.outline_asleep found _ _
  | ends control frames store outcome => exact World.outline_closed (World.inside_of_found found) _ _

theorem running_after (turnEnd : TurnEnd Store Driver Procedure Answer) :
    (turnEnd.after world id task).running = none := by
  cases turnEnd <;> rfl

/-- After the turn of the only task that goes on nobody has a turn. -/
theorem resting_after (turnEnd : TurnEnd Store Driver Procedure Answer) (inside : id < world.tasks.length)
    (only : ∀ other someone, world.outline.tasks other = some someone → other = id) (other : TaskId)
    (someone : Task Store Driver Procedure Answer)
    (found : (turnEnd.after world id task).tasks[other]? = some someone) :
    someone.status = .sleeping ∨ someone.isEnded = true := by
  by_cases mine : id = other
  · subst mine
    cases turnEnd with
    | pauses next frames store duration shown =>
        cases (List.getElem?_set_self inside).symm.trans found
        exact .inl rfl
    | ends control frames store outcome =>
        cases (List.getElem?_set_self inside).symm.trans found
        exact .inr rfl
  · have there : world.tasks[other]? = some someone := by
      cases turnEnd with
      | pauses next frames store duration shown => exact (List.getElem?_set_ne mine).symm.trans found
      | ends control frames store outcome => exact (List.getElem?_set_ne mine).symm.trans found
    cases ended : someone.isEnded with
    | true => exact .inr rfl
    | false =>
        have goesOn : world.outline.tasks other = some { someone with status := .ready } := by
          simp [World.outline, there, Task.unended?, ended]
        exact absurd (only other _ goesOn).symm mine

end TurnEnd

/-- Programs that cannot tell like stores apart, and that leave them alike. -/
def Manner.blind (like : Store → Store → Prop) : Manner Store Driver Procedure Answer where
  reads choose := ∀ store other, like store other → choose store = choose other
  writes change := ∀ store other, like store other → like (change store) (change other)
  reads_andThen second blind store other alike :=
    congrArg (fun program => program.andThen second) (blind store other alike)

namespace World

variable [DecidableEq Driver] {machine : Machine Store Driver Procedure Answer}

/-- Wherever its task may act, a turn that goes on with a program ends in one way. -/
def Turns (machine : Machine Store Driver Procedure Answer)
    (program : Program Store Driver Procedure Answer)
    (frames : List (Frame Store Driver Procedure Answer)) (store : Store)
    (turnEnd : TurnEnd Store Driver Procedure Answer) : Prop :=
  ∀ (world : World Store Driver Procedure Answer) (id : TaskId)
    (task : Task Store Driver Procedure Answer), id < world.tasks.length → world.mayAct id task = true →
      Lands machine (· = turnEnd.after world id task)
        (world.focus id (task.on (.run program) frames) store)

namespace Turns

variable {next body cleanup : Program Store Driver Procedure Answer} {store : Store}
variable {frames : List (Frame Store Driver Procedure Answer)}
variable {turnEnd : TurnEnd Store Driver Procedure Answer}

theorem done (answer : Option Answer) : Turns machine (.done answer) [] store
    (.ends (.run (.done answer)) [] store (.finished answer)) := by
  intro world id task inside _
  exact .focus_last (step_done inside answer) rfl rfl

theorem fail (fault : Fault) : Turns machine (.fail fault) [] store
    (.ends (.unwind (.fault fault)) [] store (.failed fault)) := by
  intro world id task inside _
  exact .focus_step (step_fail inside fault) (.focus_last (step_unwind inside (.fault fault)) rfl rfl)

theorem resume {answer : Option Answer}
    (rest : Turns machine (cleanup.andThen next) frames store turnEnd) :
    Turns machine (.done answer) (.ensured cleanup next :: frames) store turnEnd := by
  intro world id task inside allowed
  exact .focus_step (step_done_ensured inside answer cleanup) (rest world id task inside allowed)

theorem look {choose : Store → Program Store Driver Procedure Answer}
    (rest : Turns machine (choose store) frames store turnEnd) :
    Turns machine (.look choose) frames store turnEnd := by
  intro world id task inside allowed
  exact .focus_step (step_look inside choose) (rest world id task inside allowed)

theorem update {change : Store → Store} (rest : Turns machine next frames (change store) turnEnd) :
    Turns machine (.update change next) frames store turnEnd := by
  intro world id task inside allowed
  exact .focus_step (step_update inside change) (rest world id task inside allowed)

theorem call {procedure : Procedure}
    (rest : Turns machine ((machine.body procedure).andThen next) frames store turnEnd) :
    Turns machine (.call procedure next) frames store turnEnd := by
  intro world id task inside allowed
  exact .focus_step (step_call inside procedure) (rest world id task inside allowed)

theorem check (rest : Turns machine next frames store turnEnd) :
    Turns machine (.check next) frames store turnEnd := by
  intro world id task inside allowed
  exact .focus_step (step_check inside allowed) (rest world id task inside allowed)

theorem ensure (rest : Turns machine body (.ensured cleanup next :: frames) store turnEnd) :
    Turns machine (.ensure body cleanup next) frames store turnEnd := by
  intro world id task inside allowed
  exact .focus_step (step_ensure inside body cleanup) (rest world id task inside allowed)

theorem pause (duration : Duration) : Turns machine (.pause duration next) frames store
    (.pauses next frames store duration (machine.shown store)) := by
  intro world id task inside allowed
  exact .focus_last (step_pause inside allowed duration) rfl rfl

end Turns

/-- A program that runs to its end takes a turn, and one like it in a store that it cannot tell apart. -/
theorem turns_alike {observer : Observer Store Entry} {terms : Terms Store Driver Procedure Answer}
    {like : Store → Store → Prop} {program : Program Store Driver Procedure Answer}
    {frames : List (Frame Store Driver Procedure Answer)} {store other : Store} {entries : List Entry}
    (runs : Runs machine observer terms program frames store entries)
    (alone : ∀ final driver body, ¬terms.post final (.handedOver driver body))
    (machineBlind : machine.Follows (.blind like)) (blind : program.Follows (.blind like))
    (around : ∀ frame ∈ frames, frame.Follows (.blind like)) (alike : like store other) :
    ∃ turnEnd otherEnd, Turns machine program frames store turnEnd
      ∧ Turns machine program frames other otherEnd ∧ turnEnd.Like like otherEnd := by
  induction runs generalizing other with
  | done answer _ => exact ⟨_, _, .done answer, .done answer, .ends alike⟩
  | fail fault _ => exact ⟨_, _, .fail fault, .fail fault, .ends alike⟩
  | handOver driver body post => exact absurd post (alone _ driver body)
  | resume _ inductionHypothesis =>
      obtain ⟨inner, outer⟩ := List.forall_mem_cons.mp around
      obtain ⟨turnEnd, otherEnd, turns, otherTurns, same⟩ :=
        inductionHypothesis (inner.1.andThen inner.2) outer alike
      exact ⟨turnEnd, otherEnd, .resume turns, .resume otherTurns, same⟩
  | @look choose _ store _ _ inductionHypothesis =>
      obtain ⟨turnEnd, otherEnd, turns, otherTurns, same⟩ :=
        inductionHypothesis (blind.2 store) around alike
      rw [blind.1 store other alike] at otherTurns
      exact ⟨turnEnd, otherEnd, .look turns, .look otherTurns, same⟩
  | update _ _ inductionHypothesis =>
      obtain ⟨turnEnd, otherEnd, turns, otherTurns, same⟩ :=
        inductionHypothesis blind.2 around (blind.1 _ _ alike)
      exact ⟨turnEnd, otherEnd, .update turns, .update otherTurns, same⟩
  | @call procedure _ _ _ _ _ inductionHypothesis =>
      obtain ⟨turnEnd, otherEnd, turns, otherTurns, same⟩ :=
        inductionHypothesis ((machineBlind procedure).andThen blind) around alike
      exact ⟨turnEnd, otherEnd, .call turns, .call otherTurns, same⟩
  | check _ inductionHypothesis =>
      obtain ⟨turnEnd, otherEnd, turns, otherTurns, same⟩ := inductionHypothesis blind around alike
      exact ⟨turnEnd, otherEnd, .check turns, .check otherTurns, same⟩
  | ensure _ inductionHypothesis =>
      obtain ⟨turnEnd, otherEnd, turns, otherTurns, same⟩ :=
        inductionHypothesis blind.1 (List.forall_mem_cons.mpr ⟨blind.2, around⟩) alike
      exact ⟨turnEnd, otherEnd, .ensure turns, .ensure otherTurns, same⟩
  | @pause duration _ _ _ _ _ _ _ => exact ⟨_, _, .pause duration, .pause duration, .pauses alike⟩

end World

end Playthrough
