import Playthrough.Proofs.Task.Clearance

/-!
Contract: operations that overlap, looked at one at a time.

Owns: what an operation may go on with (`Program.Next`), properties of programs that operations have for as
long as they go on (`Habit`), and drivers that stay without a task because nobody gives them one
(`World.Vacant`).

Does not own: which operations there are.

An operation is told apart from the others by its program alone. What its program was in the beginning is
not remembered, so whatever is to be known of it later has to be a habit.
-/

namespace Playthrough

variable {Store Driver Procedure Answer Knowledge : Type}

/-- What an operation may go on with after one instruction, with the store as it is. -/
inductive Program.Next (machine : Machine Store Driver Procedure Answer) (store : Store) :
    Program Store Driver Procedure Answer → Program Store Driver Procedure Answer → Prop where
  | look (choose : Store → Program Store Driver Procedure Answer) :
      Next machine store (.look choose) (choose store)
  | update (change : Store → Store) (next : Program Store Driver Procedure Answer) :
      Next machine store (.update change next) next
  | call (procedure : Procedure) (next : Program Store Driver Procedure Answer) :
      Next machine store (.call procedure next) ((machine.body procedure).andThen next)
  | spawn (driver : Driver) (body next : Program Store Driver Procedure Answer) :
      Next machine store (.spawn driver body next) next
  | cancel (driver : Driver) (next : Program Store Driver Procedure Answer) :
      Next machine store (.cancel driver next) next
  | settled (drivers remaining : List Driver) (next : Program Store Driver Procedure Answer) :
      Next machine store (.settle drivers remaining next) next
  | settles (drivers remaining rest : List Driver) (next : Program Store Driver Procedure Answer) :
      Next machine store (.settle drivers remaining next) (.settle drivers rest next)

/-- A property of programs that operations keep as they go on. -/
structure Habit (machine : Machine Store Driver Procedure Answer)
    (etiquette : Etiquette Store Driver Procedure)
    (property : Program Store Driver Procedure Answer → Prop) : Prop where
  keeps : ∀ {program next store}, program.Decorous etiquette none → program.Next machine store next →
    property program → property next

namespace World

variable {etiquette : Etiquette Store Driver Procedure}
variable {pact : Pact Store Driver Procedure Answer Knowledge} {known : Knowledge}
variable {world after : World Store Driver Procedure Answer} {id : TaskId} {driver : Driver}
variable {program next : Program Store Driver Procedure Answer}

/-- An operation goes on with one program only. -/
theorem Asks.unique (asks : world.Asks id program) (other : world.Asks id next) : program = next := by
  have same := Option.some.inj (asks.program.symm.trans other.program)
  cases congrArg Task.control same
  rfl

/-- A driver has no task. -/
abbrev Vacant (world : World Store Driver Procedure Answer) (driver : Driver) : Prop :=
  world.holdings driver = { slot := none, live := none }

section Steps

variable [DecidableEq Driver] {machine : Machine Store Driver Procedure Answer}

omit [DecidableEq Driver] in
theorem vacant_join {held : TaskId} (vacant : world.Vacant driver) :
    (world.join id held).yieldTurn.Vacant driver := by
  show (world.join id held).holdings driver = _
  rw [holdings_join]
  exact vacant

/-- Emptying a slot gives nobody a task. -/
theorem vacant_vacate {other : Driver} (vacant : other ≠ driver → world.Vacant driver) :
    (world.setHolding other { slot := none, live := none }).Vacant driver := by
  simp only [Vacant, setHolding]
  split
  · rfl
  · next different => exact vacant (Ne.symm different)

/-- When it acts an operation ends or goes on with what comes next. -/
theorem Asks.goes_on (asks : world.Asks id program) (decorous : world.Decorous etiquette)
    (upholds : program.Upholds pact known world.store) (turn : world.running = some id) :
    (∃ answer, program = .done answer ∧ (world.step machine).outcome? id = some (.finished answer))
      ∨ ∃ next, program.Next machine world.store next ∧ (world.step machine).Asks id next := by
  cases program with
  | done answer =>
      obtain ⟨joiners, stepped⟩ := asks.step_done machine turn
      rw [stepped]
      exact .inl ⟨answer, rfl, asks.outcome?_finish joiners _⟩
  | look choose =>
      rw [asks.step_look machine turn]
      exact .inr ⟨_, .look choose, asks.proceed _ rfl⟩
  | update change next =>
      rw [asks.step_update machine turn]
      exact .inr ⟨_, .update change next, asks.proceed { world with store := change world.store } rfl⟩
  | call procedure next =>
      rw [asks.step_call machine turn]
      exact .inr ⟨_, .call procedure next, asks.proceed _ rfl⟩
  | spawn driver body next =>
      rw [asks.step_spawn machine turn]
      exact .inr ⟨_, .spawn driver body next, asks.spawn⟩
  | cancel driver next =>
      refine .inr ⟨_, .cancel driver next, ?_⟩
      cases holding : (world.holdings driver).slot with
      | none =>
          rw [asks.step_cancel machine turn holding]
          exact asks.proceed (world.setHolding driver _) rfl
      | some held =>
          rw [asks.step_cancel_held machine turn holding
            (asks.different (decorous.slots driver held holding))]
          exact asks.cancel held
  | settle drivers remaining next =>
      rcases asks.step_settle machine turn with ⟨goesOn, shape, stepped⟩ | ⟨held, stepped⟩
      · rw [stepped]
        rcases shape with rfl | ⟨rest, rfl⟩
        · exact .inr ⟨_, .settled drivers remaining _, asks.proceed _ rfl⟩
        · exact .inr ⟨_, .settles drivers remaining rest next, asks.proceed _ rfl⟩
      · rw [stepped]
        exact .inr ⟨_, .settles drivers remaining remaining next, asks.join held⟩
  | fail | check | revoke | pause | guard | ensure => exact upholds.elim

/-- What an operation changes it says in its program. -/
theorem Asks.store_step (asks : world.Asks id program) (decorous : world.Decorous etiquette)
    (upholds : program.Upholds pact known world.store) (turn : world.running = some id) :
    (world.step machine).store = world.store ∨ ∃ change next, program = .update change next
      ∧ (world.step machine).store = change world.store := by
  cases program with
  | done answer =>
      obtain ⟨joiners, stepped⟩ := asks.step_done machine turn
      exact .inl (by rw [stepped]; rfl)
  | look choose => exact .inl (by rw [asks.step_look machine turn]; rfl)
  | update change next => exact .inr ⟨change, next, rfl, congrArg World.store (asks.step_update machine turn)⟩
  | call procedure next => exact .inl (by rw [asks.step_call machine turn]; rfl)
  | spawn driver body next =>
      exact .inl ((congrArg World.store (asks.step_spawn machine turn)).trans (store_displace driver))
  | cancel driver next =>
      cases holding : (world.holdings driver).slot with
      | none => exact .inl (by rw [asks.step_cancel machine turn holding]; rfl)
      | some held =>
          rw [asks.step_cancel_held machine turn holding
            (asks.different (decorous.slots driver held holding))]
          exact .inl ((store_join _ _ _).trans (store_cancelTask _ _))
  | settle drivers remaining next =>
      rcases asks.step_settle machine turn with ⟨goesOn, -, stepped⟩ | ⟨held, stepped⟩
      · exact .inl (by rw [stepped]; rfl)
      · exact .inl ((congrArg World.store stepped).trans (store_join _ _ _))
  | fail | check | revoke | pause | guard | ensure => exact upholds.elim

/-- A driver without a task is given none by an operation that gives it none. -/
theorem Asks.vacant_step (asks : world.Asks id program) (decorous : world.Decorous etiquette)
    (upholds : program.Upholds pact known world.store) (turn : world.running = some id)
    (spared : ¬pact.lends driver) (vacant : world.Vacant driver) : (world.step machine).Vacant driver := by
  cases program with
  | done answer =>
      obtain ⟨joiners, stepped⟩ := asks.step_done machine turn
      rw [stepped]
      exact vacant
  | look choose => rw [asks.step_look machine turn]; exact vacant
  | update change next => rw [asks.step_update machine turn]; exact vacant
  | call procedure next => rw [asks.step_call machine turn]; exact vacant
  | spawn other body next =>
      have different : driver ≠ other := fun same => spared (same ▸ upholds.1)
      rw [asks.step_spawn machine turn]
      show ((world.displace other id).install other body).holdings driver = _
      simp only [install, enqueue, setHolding, different, if_false, holdings_displace]
      exact vacant
  | cancel other next =>
      cases holding : (world.holdings other).slot with
      | none =>
          rw [asks.step_cancel machine turn holding]
          exact vacant_vacate fun _ => vacant
      | some held =>
          rw [asks.step_cancel_held machine turn holding
            (asks.different (decorous.slots other held holding))]
          refine vacant_join ?_
          rw [Vacant, holdings_cancelTask]
          exact vacant_vacate fun _ => vacant
  | settle drivers remaining next =>
      rcases asks.step_settle machine turn with ⟨goesOn, -, stepped⟩ | ⟨held, stepped⟩
      · rw [stepped]; exact vacant
      · rw [stepped]
        exact vacant_join vacant
  | fail | check | revoke | pause | guard | ensure => exact upholds.elim

/-- After it has taken a driver's task from it, the driver has none. -/
theorem Asks.vacant_cancel (asks : world.Asks id (.cancel driver next)) (decorous : world.Decorous etiquette)
    (turn : world.running = some id) : (world.step machine).Vacant driver := by
  cases holding : (world.holdings driver).slot with
  | none =>
      rw [asks.step_cancel machine turn holding]
      exact vacant_vacate fun different => absurd rfl different
  | some held =>
      rw [asks.step_cancel_held machine turn holding (asks.different (decorous.slots driver held holding))]
      refine vacant_join ?_
      rw [Vacant, holdings_cancelTask]
      exact vacant_vacate fun different => absurd rfl different

/-- A driver without a task is given none by another driver, if those that could give it one have none
either. -/
theorem vacant_of_driver {other : Driver} (balanced : world.Balanced) (decorous : world.Decorous etiquette)
    (inOrder : world.InOrder) (machineDecorous : machine.Decorous etiquette)
    (turn : world.running = some id) (own : world.owners[id]? = some (some other))
    (above : etiquette.hands (some other) driver → world.Vacant other) (vacant : world.Vacant driver) :
    (world.step machine).Vacant driver := by
  have acting {someone : TaskId} {task : Task Store Driver Procedure Answer}
      (acts : world.running = some someone) (found : world.tasks[someone]? = some task) :
      task.owner = some other := by
    cases turn.symm.trans acts
    exact Option.some.inj ((owner_of_found found).symm.trans own)
  have advances := decorous.advances machineDecorous balanced
  generalize world.step machine = after at advances ⊢
  cases advances with
  | rests => exact vacant
  | goesOn | ends | sleeps => exact vacant
  | @hands someone task given body control acts found allowed new _ stays =>
      have owner := acting acts found
      by_cases same : driver = given
      · -- a task of a driver without a task is on its way out, and gives nothing to anybody
        rw [owner, ← same] at allowed
        have empty : (world.holdings other).slot = none := congrArg Holding.slot (above allowed)
        have serves : world.Serves other id := ⟨own, balanced.unended_of_turn turn⟩
        cases turn.symm.trans acts
        exact absurd ((inOrder.vacant other id empty serves).1.leaving turn found) stays
      · show ((world.displace given someone).install given body).holdings driver = _
        simp only [install, enqueue, setHolding, same, if_false, holdings_displace]
        exact vacant
  | passes acts found outside => rw [acting acts found] at outside; cases outside
  | cancels acts found outside => rw [acting acts found] at outside; cases outside
  | joins acts found outside => rw [acting acts found] at outside; cases outside
  | takes noTurn => rw [noTurn] at turn; cases turn
  | learns noTurn => rw [noTurn] at turn; cases turn

omit [DecidableEq Driver] in
/-- Where nothing moves, no task of a driver goes on that has none. -/
theorem ended_of_vacant (inOrder : world.InOrder) (idle : world.isIdle = true) (vacant : world.Vacant driver)
    (own : world.owners[id]? = some (some driver)) : world.isUnended id = false := by
  by_contra goesOn
  have serves : world.Serves driver id := ⟨own, by simpa using goesOn⟩
  have inLine := (inOrder.vacant driver id (congrArg Holding.slot vacant) serves).1.inLine
  simp only [isIdle, Bool.and_eq_true, Option.isNone_iff_eq_none, List.isEmpty_iff] at idle
  simp [line, idle] at inLine

end Steps

/-! ## Habits of operations that overlap -/

section Habits

variable [DecidableEq Driver] {machine : Machine Store Driver Procedure Answer}
variable {property : Program Store Driver Procedure Answer → Prop}
variable {terms : Pact Store Driver Procedure Answer Unit}

/-- All operations that go on have a habit. -/
def Habitual (property : Program Store Driver Procedure Answer → Prop)
    (world : World Store Driver Procedure Answer) : Prop :=
  ∀ id program, world.Asks id program → property program

namespace Habitual

omit [DecidableEq Driver] in
theorem begin {operation : Program Store Driver Procedure Answer} (habitual : world.Habitual property)
    (holds : property operation) : (world.begin operation).2.Habitual property := by
  intro id program asks
  rcases begin_cases asks.own with ⟨-, same⟩ | ⟨rfl, -⟩
  · refine habitual id program (asks.of_same ?_ ?_)
    · rw [World.bare, World.bare, List.getElem?_map, List.getElem?_map, same]
    · rw [isUnended, isUnended, same]
  · rw [asks.unique (.begin world operation)]
    exact holds

omit [DecidableEq Driver] in
theorem release? {position : Nat} {released : World Store Driver Procedure Answer}
    (habitual : world.Habitual property) (balanced : world.Balanced)
    (wait : world.release? position = some released) : released.Habitual property := by
  have bare := bare_release? wait
  exact fun id program asks => habitual id program
    (asks.of_same (congrArg (fun tasks => tasks[id]?) bare.symm) (isUnended_release? balanced wait).symm)

omit [DecidableEq Driver] in
theorem restore (habitual : world.Habitual property) (store : Store) :
    ({ world with store := store } : World Store Driver Procedure Answer).Habitual property :=
  fun id program asks => habitual id program (asks.of_same rfl rfl)

/-- Every step keeps the habits of operations. -/
theorem step (habitual : world.Habitual property) (habit : Habit machine etiquette property)
    (machineDecorous : machine.Decorous etiquette) (obliged : world.Obliged etiquette terms) :
    (world.step machine).Habitual property := by
  intro id program asks
  have leads := (obliged.decorous.advances machineDecorous obliged.balanced).leads
  have own := leads.outside_before asks.own
  by_cases turn : world.running = some id
  · obtain ⟨before, asksBefore, upholds, -⟩ :=
      obliged.commits id own (obliged.balanced.unended_of_turn turn)
    rcases asksBefore.goes_on obliged.decorous (upholds turn) turn with
      ⟨answer, -, isOver⟩ | ⟨next, goesOn, asksNext⟩
    · rw [asks.no_outcome] at isOver
      cases isOver
    · rw [asks.unique asksNext]
      exact habit.keeps (asksBefore.decorous obliged.decorous) goesOn (habitual id before asksBefore)
  · have inside : id < world.tasks.length := by
      rw [← length_owners]
      exact (List.getElem?_eq_some_iff.mp own).1
    have goesOn := (leads.unended id inside turn).symm.trans asks.goesOn
    obtain ⟨before, asksBefore, -⟩ := obliged.commits id own goesOn
    rw [asks.unique (asksBefore.of_leads obliged.decorous leads turn)]
    exact habitual id before asksBefore

end Habitual

end Habits

end World

end Playthrough
