import Playthrough.Proofs.Task.Pursuit
import Playthrough.Proofs.Task.Undertaking

/-!
Contract: what the only operation of a world comes to know of drivers.

Owns: drivers that hold no task and whose tasks have all ended (`World.Cleared`), terms whose knowledge is a
set of such drivers (`Pact.Clears`), and that an operation which nobody else asks for anything beside upholds
such terms to its end (`World.Fulfils`).

Does not own: which drivers an operation clears.

A driver stays cleared as long as nobody who goes on may make a task for it. An operation that takes a task
from its driver knows only that the driver has no other one; when its next turn comes, that task has ended,
and every task before it.
-/

namespace Playthrough

variable {Store Driver Procedure Answer : Type}
variable {etiquette : Etiquette Store Driver Procedure}

/-! ## Sets of drivers -/

/-- With a driver every one is in the set that may make a task for it. -/
def Etiquette.Closed (etiquette : Etiquette Store Driver Procedure) (drivers : Driver → Prop) : Prop :=
  ∀ driver other, drivers driver → etiquette.hands (some other) driver → drivers other

/-- The knowledge of a pact is a set of cleared drivers, and what other drivers do is no more than what it
reckons with. -/
structure Pact.Clears (pact : Pact Store Driver Procedure Answer (Driver → Prop))
    (etiquette : Etiquette Store Driver Procedure) : Prop where
  rests : ∀ store, pact.drift store store
  trans : ∀ {before between after}, pact.drift before between → pact.drift between after →
    pact.drift before after
  writes : ∀ {driver change}, etiquette.writes (some driver) change → ∀ store, pact.sane store →
    pact.drift store (change store) ∧ pact.sane (change store)
  lasts : ∀ {answer known store reached}, pact.good answer known store → pact.drift store reached →
    pact.good answer known reached
  spawned : ∀ {driver known other}, pact.spawned driver known other → known other ∧ other ≠ driver
  spawned_keeps : ∀ {driver known other}, pact.lends driver → ¬pact.lends other → known other →
    pact.spawned driver known other
  spawned_closed : ∀ driver {known}, etiquette.Closed known → etiquette.Closed (pact.spawned driver known)
  cancelled : ∀ {driver known other}, pact.cancelled driver known other → known other ∨ other = driver
  cancelled_keeps : ∀ driver {known other}, known other → pact.cancelled driver known other
  cancelled_above : ∀ driver {known other above}, etiquette.Closed known → pact.cancelled driver known other →
    etiquette.hands (some above) other → known above
  cancelled_closed : ∀ driver {known}, etiquette.Closed known → etiquette.Closed (pact.cancelled driver known)

namespace World

variable {world after : World Store Driver Procedure Answer} {id : TaskId} {flight : Option TaskId}
variable {driver : Driver} {program next : Program Store Driver Procedure Answer}

/-! ## Cleared drivers -/

/-- A driver holds no task, and none of its tasks goes on. -/
structure Cleared (world : World Store Driver Procedure Answer) (driver : Driver) : Prop where
  vacant : world.holdings driver = { slot := none, live := none }
  ended : ∀ id, world.owners[id]? = some (some driver) → world.isUnended id = false

namespace Cleared

theorem initial (store : Store) (driver : Driver) :
    (World.initial store : World Store Driver Procedure Answer).Cleared driver :=
  ⟨rfl, fun _ own => by cases own⟩

theorem of_same (cleared : world.Cleared driver) (holding : after.holdings driver = world.holdings driver)
    (owners : after.owners = world.owners)
    (unended : ∀ id, world.owners[id]? = some (some driver) → after.isUnended id = world.isUnended id) :
    after.Cleared driver where
  vacant := holding.trans cleared.vacant
  ended id own := by
    rw [owners] at own
    rw [unended id own, cleared.ended id own]

theorem proceed (cleared : world.Cleared driver) (store : Store)
    (control : Control Store Driver Procedure Answer) (frames : List (Frame Store Driver Procedure Answer)) :
    ({ world with store := store }.proceed id control frames).Cleared driver :=
  cleared.of_same rfl (owners_proceed _ _) fun _ _ => isUnended_proceed _ _

theorem finish (cleared : world.Cleared driver) (asks : world.Asks id program) (joiners : List TaskId)
    (outcome : Outcome Answer) : (world.finish id joiners outcome).Cleared driver := by
  refine cleared.of_same rfl (owners_of_bare (bare_finish _ _)) fun other own => ?_
  exact isUnended_of_change (tasks_modifyTask _ _ _) fun _ _ =>
    .ite fun same => absurd same.symm (asks.different own)

/-- The acting operation waits for a task. -/
theorem join (cleared : world.Cleared driver) (asks : world.Asks id program) (held : TaskId) :
    (world.join id held).yieldTurn.Cleared driver := by
  refine cleared.of_same ?_ (owners_of_bare (bare_yieldTurn.trans bare_join)) fun other own => ?_
  · rw [yieldTurn, holdings_join]
  · exact isUnended_join (asks.different own)

theorem cancelTask (cleared : world.Cleared driver) (held : TaskId) :
    (world.cancelTask held).Cleared driver :=
  cleared.of_same (congrFun holdings_cancelTask driver) (owners_of_bare bare_cancelTask)
    fun _ _ => isUnended_cancelTask

theorem notActive (cleared : world.Cleared driver) : world.isActive driver = false := by
  rw [isActive, cleared.vacant]

/-- The clock holds nobody that the driver made. -/
theorem noWait (cleared : world.Cleared driver) (balanced : world.Balanced) {wait : Wait}
    (held : wait ∈ world.waits) : world.owners[wait.task]? ≠ some (some driver) := by
  intro own
  obtain ⟨task, found, sleeping⟩ := balanced.sleeping_of_wait held
  have ended := cleared.ended _ own
  simp [isUnended, found, Task.isEnded, sleeping] at ended

/-- Whoever acts was not made by a cleared driver. -/
theorem not_acting (cleared : world.Cleared driver) (balanced : world.Balanced) {acting : TaskId}
    (turn : world.running = some acting) : world.owners[acting]? ≠ some (some driver) := by
  intro own
  have ended := cleared.ended _ own
  rw [balanced.unended_of_turn turn] at ended
  cases ended

end Cleared

/-- Nobody but drivers acts beside the only operation. -/
theorem Attended.driver_of_acting {acting : TaskId} {owner : Option Driver}
    (attended : world.Attended etiquette flight) (idle : world.running.isSome → world.running ≠ flight)
    (turn : world.running = some acting) (own : world.owners[acting]? = some owner) :
    ∃ driver, owner = some driver := by
  cases owner with
  | some driver => exact ⟨driver, rfl⟩
  | none =>
      have same := attended.sole acting own (attended.balanced.unended_of_turn turn)
      exact absurd (turn.trans same.symm) (idle (by simp [turn]))

/-- Nobody makes a task for a driver when all who may are cleared. -/
theorem Attended.not_hands (attended : world.Attended etiquette flight)
    (idle : world.running.isSome → world.running ≠ flight)
    (above : ∀ other, etiquette.hands (some other) driver → world.Cleared other) :
    ¬world.Hands etiquette driver := by
  rintro ⟨acting, owner, turn, own, allowed⟩
  obtain ⟨other, rfl⟩ := attended.driver_of_acting idle turn own
  exact (above other allowed).not_acting attended.balanced turn own

/-- A driver stays cleared while drivers move. -/
theorem Cleared.of_leads (cleared : world.Cleared driver) (attended : world.Attended etiquette flight)
    (leads : world.Leads etiquette after) (idle : world.running.isSome → world.running ≠ flight)
    (above : ∀ other, etiquette.hands (some other) driver → world.Cleared other) : after.Cleared driver := by
  have nobody := attended.not_hands idle above
  refine ⟨(leads.slots driver cleared.vacant).resolve_right nobody, ?_⟩
  intro other own
  have before : world.owners[other]? = some (some driver) := by
    rcases leads.owners with same | ⟨handed, hands, added⟩
    · rwa [same] at own
    · rw [added, List.getElem?_append] at own
      split at own
      · exact own
      · cases List.mem_singleton.mp (List.mem_of_getElem? own)
        exact absurd hands nobody
  have inside : other < world.tasks.length := by
    rw [← length_owners]
    exact (List.getElem?_eq_some_iff.mp before).1
  rw [leads.unended other inside, cleared.ended other before]
  intro turn
  exact cleared.not_acting attended.balanced turn before

theorem Cleared.release? {position : Nat} {released : World Store Driver Procedure Answer}
    (cleared : world.Cleared driver) (balanced : world.Balanced)
    (wait : world.release? position = some released) : released.Cleared driver := by
  refine cleared.of_same ?_ (owners_of_bare (bare_release? wait)) fun _ _ => isUnended_release? balanced wait
  obtain ⟨held, -, rfl⟩ := release?_eq_some.mp wait
  rfl

/-- When an operation acts that found the slot of a driver empty, the driver is cleared. -/
theorem Attended.cleared (attended : world.Attended etiquette (some id)) (turn : world.running = some id)
    (vacant : world.holdings driver = { slot := none, live := none }) : world.Cleared driver :=
  ⟨vacant, fun _ own => attended.ended_of_vacant turn (by rw [vacant]) own⟩

/-! ## Ends of tasks -/

theorem outcome?_modifyTask_of_ne {held : TaskId} (different : held ≠ id)
    (change : Task Store Driver Procedure Answer → Task Store Driver Procedure Answer) :
    (world.modifyTask held change).outcome? id = world.outcome? id := by
  simp [outcome?, modifyTask, different]

/-- A task that is ready, sleeps or joins others has no outcome. -/
theorem ne_of_ended {held : TaskId} {task : Task Store Driver Procedure Answer} {outcome : Outcome Answer}
    (isOver : world.outcome? id = some outcome) (found : world.tasks[held]? = some task)
    (goesOn : task.isEnded = false) : held ≠ id := by
  rintro rfl
  simp only [outcome?, found, Option.bind_some, outcome_of_unended goesOn] at isOver
  cases isOver

theorem outcome?_join {joiner joined : TaskId} (different : joiner ≠ id) :
    (world.join joiner joined).outcome? id = world.outcome? id := by
  have waiting : (world.modifyTask joiner fun task => { task with status := .joining 1 }).outcome? id =
      world.outcome? id := outcome?_modifyTask_of_ne different _
  simp only [join]
  split
  · refine Eq.trans ?_ waiting
    exact outcome?_modifyTask _ fun _ _ => rfl
  · exact waiting

theorem outcome?_noteJoined {held : TaskId} : (world.noteJoined held).outcome? id = world.outcome? id := by
  simp only [noteJoined]
  split
  · next found =>
      refine outcome?_modifyTask world fun task there => ?_
      rw [found] at there
      cases there
      rfl
  · next found =>
      refine outcome?_modifyTask world fun task there => ?_
      rw [found] at there
      cases there
      rfl
  · rfl

/-- A task that has ended has ended for good. -/
theorem Advances.outcome? [DecidableEq Driver] {machine : Machine Store Driver Procedure Answer}
    {outcome : Outcome Answer} (advances : Advances etiquette machine world after)
    (balanced : world.Balanced) (isOver : world.outcome? id = some outcome) :
    after.outcome? id = some outcome := by
  refine Eq.trans ?_ isOver
  have acting : ∀ {other : TaskId}, world.running = some other → other ≠ id := by
    intro other turn
    have orderly : world.Orderly (some other) := by
      rw [← turn]
      exact balanced
    obtain ⟨task, found, ready⟩ := orderly.acts
    exact ne_of_ended isOver found (by simp [Task.isEnded, ready])
  cases advances with
  | rests => rfl
  | goesOn turn => exact outcome?_proceed _ _ _
  | ends turn => exact outcome?_modifyTask_of_ne (acting turn) _
  | @sleeps other task duration next turn =>
      have slept : ((world.proceed other (.run (.check next)) task.frames).sleep machine other
          duration).outcome? id = (world.proceed other (.run (.check next)) task.frames).outcome? id :=
        outcome?_modifyTask_of_ne (acting turn) _
      exact slept.trans (outcome?_proceed _ _ _)
  | hands turn =>
      exact (outcome?_proceed _ _ _).trans ((outcome?_install _ _).trans (outcome?_displace _))
  | passes turn => exact outcome?_proceed _ _ _
  | cancels turn =>
      exact (outcome?_join (acting turn)).trans (outcome?_cancelTask.trans (outcome?_proceed _ _ _))
  | joins turn => exact outcome?_join (acting turn)
  | takes noTurn queued =>
      refine outcome?_modifyTask _ fun task _ => ?_
      split <;> rfl
  | learns noTurn queued => exact outcome?_noteJoined

theorem outcome?_release? {position : Nat} {released : World Store Driver Procedure Answer}
    (balanced : world.Balanced) (wait : world.release? position = some released) :
    released.outcome? id = world.outcome? id := by
  obtain ⟨held, found, rfl⟩ := release?_eq_some.mp wait
  obtain ⟨task, there, sleeping⟩ := balanced.sleeping_of_wait (List.mem_of_getElem? found)
  refine outcome?_modifyTask _ fun sleeper same => ?_
  have known : world.tasks[held.task]? = some sleeper := same
  rw [there] at known
  cases known
  simp [Task.outcome?, sleeping]

/-! ## An operation with nobody but drivers beside it -/

/-- An operation knows drivers that are cleared: with each one those that may make a task for it, and all
to which it gives none. -/
structure Knows (etiquette : Etiquette Store Driver Procedure)
    (pact : Pact Store Driver Procedure Answer (Driver → Prop)) (known : Driver → Prop)
    (world : World Store Driver Procedure Answer) : Prop where
  closed : etiquette.Closed known
  keeps : ∀ driver, ¬pact.lends driver → known driver
  cleared : ∀ driver, known driver → world.Cleared driver

/-- An operation acts and knows cleared drivers, or waits and knows who will be cleared, or has ended well.
-/
inductive Fulfils (etiquette : Etiquette Store Driver Procedure)
    (pact : Pact Store Driver Procedure Answer (Driver → Prop)) (id : TaskId)
    (world : World Store Driver Procedure Answer) : Prop where
  | acts (known : Driver → Prop) (program : Program Store Driver Procedure Answer)
      (turn : world.running = some id) (asks : world.Asks id program)
      (knows : world.Knows etiquette pact known) (upholds : program.Upholds pact known world.store)
  | waits (known awaited : Driver → Prop) (program : Program Store Driver Procedure Answer)
      (idle : world.running ≠ some id) (asks : world.Asks id program)
      (knows : world.Knows etiquette pact known) (closed : etiquette.Closed awaited)
      (more : ∀ driver, known driver → awaited driver)
      (vacant : ∀ driver, awaited driver → world.holdings driver = { slot := none, live := none })
      (above : ∀ driver other, awaited driver → etiquette.hands (some other) driver → known other)
      (upholds : ∀ reached, pact.sane reached → pact.drift world.store reached →
        program.Upholds pact awaited reached)
  | ended (known : Driver → Prop) (answer : Option Answer)
      (isOver : world.outcome? id = some (.finished answer)) (knows : world.Knows etiquette pact known)
      (good : pact.good answer known world.store)

/-- Whoever is cleared stays so. -/
theorem Knows.of_cleared {pact : Pact Store Driver Procedure Answer (Driver → Prop)} {known : Driver → Prop}
    (knows : world.Knows etiquette pact known)
    (stays : ∀ driver, known driver → world.Cleared driver → after.Cleared driver) :
    after.Knows etiquette pact known :=
  ⟨knows.closed, knows.keeps, fun driver before => stays driver before (knows.cleared driver before)⟩

/-- All the time everybody is cleared to whom the operation gives no task. -/
theorem Fulfils.cleared {pact : Pact Store Driver Procedure Answer (Driver → Prop)}
    (fulfils : world.Fulfils etiquette pact id) (spared : ¬pact.lends driver) : world.Cleared driver := by
  cases fulfils with
  | acts known program turn asks knows upholds => exact knows.cleared _ (knows.keeps _ spared)
  | waits known awaited program idle asks knows => exact knows.cleared _ (knows.keeps _ spared)
  | ended known answer isOver knows good => exact knows.cleared _ (knows.keeps _ spared)

section Steps

variable [DecidableEq Driver] {machine : Machine Store Driver Procedure Answer}
variable {pact : Pact Store Driver Procedure Answer (Driver → Prop)}
variable {known awaited : Driver → Prop} {body : Program Store Driver Procedure Answer}

namespace Cleared

/-- Another driver gets a task. -/
theorem spawn {other : Driver} (cleared : world.Cleared driver) (different : driver ≠ other) :
    (((world.displace other id).install other body).proceed id (.run next) []).Cleared driver := by
  refine ⟨?_, fun task own => ?_⟩
  · show ((world.displace other id).install other body).holdings driver = _
    simp only [install, enqueue, setHolding, different, if_false, holdings_displace]
    exact cleared.vacant
  · rw [owners_proceed, Decorous.owners_install, owners_of_bare (bare_displace other),
      List.getElem?_append] at own
    split at own
    · next inside =>
        rw [length_owners] at inside
        rw [isUnended_proceed, isUnended_install (by rwa [length_tasks_displace]), isUnended_displace]
        exact cleared.ended task own
    · cases List.mem_singleton.mp (List.mem_of_getElem? own)
      exact absurd rfl different

/-- A driver has no task to be taken. -/
theorem vacate (cleared : world.Cleared driver) (other : Driver) :
    (world.setHolding other { slot := none, live := none }).Cleared driver := by
  refine ⟨?_, cleared.ended⟩
  simp only [setHolding]
  split
  · rfl
  · exact cleared.vacant

end Cleared

namespace Fulfils

/-- A task is taken from a driver, or there is none. -/
theorem of_cancel (clears : pact.Clears etiquette) (attended : world.Attended etiquette (some id))
    (sane : pact.sane world.store) (turn : world.running = some id)
    (asks : world.Asks id (.cancel driver next)) (knows : world.Knows etiquette pact known)
    (upholds : (Program.cancel driver next).Upholds pact known world.store) :
    pact.sane (world.step machine).store ∧ (world.step machine).Fulfils etiquette pact id := by
  let taken := world.setHolding driver { slot := none, live := none }
  have vacant : taken.holdings driver = { slot := none, live := none } :=
    holdings_setHolding_self world driver _
  cases holding : (world.holdings driver).slot with
  | none =>
      rw [asks.step_cancel machine turn holding]
      have empty : taken.Cleared driver :=
        ⟨vacant, fun _ own => attended.ended_of_vacant turn holding own⟩
      refine ⟨sane, .acts _ next turn (asks.proceed _ rfl) ⟨clears.cancelled_closed driver knows.closed, ?_, ?_⟩
        (upholds _ sane (clears.rests _))⟩
      · exact fun other spared => clears.cancelled_keeps driver (knows.keeps other spared)
      · intro other known
        rcases clears.cancelled known with before | rfl
        · exact ((knows.cleared other before).vacate driver).proceed _ _ _
        · exact empty.proceed _ _ _
  | some held =>
      rw [asks.step_cancel_held machine turn holding (asks.different (attended.decorous.slots _ _ holding))]
      have store : ((((world.setHolding driver { slot := none, live := none }).proceed id (.run next)
          []).cancelTask held).join id held).yieldTurn.store = world.store := by
        rw [yieldTurn, store_join, store_cancelTask]
        rfl
      have goesOn : (taken.proceed id (.run next) []).Asks id next := asks.proceed _ rfl
      have marked : ((taken.proceed id (.run next) []).cancelTask held).Asks id next :=
        goesOn.of_same (by rw [bare_cancelTask]) isUnended_cancelTask
      have stays : ((((taken.proceed id (.run next) []).cancelTask held).join id held).yieldTurn).Knows
          etiquette pact known := knows.of_cleared fun other _ cleared =>
        (((cleared.vacate driver).proceed world.store _ _).cancelTask held).join marked held
      refine ⟨by rwa [store], .waits known _ next (Option.some_ne_none id).symm (asks.cancel held) stays
        (clears.cancelled_closed driver knows.closed) (fun _ => clears.cancelled_keeps driver) ?_
        (fun _ _ => clears.cancelled_above driver knows.closed) ?_⟩
      · intro other known
        rcases clears.cancelled known with before | rfl
        · exact (stays.cleared other before).vacant
        · rw [yieldTurn, holdings_join, holdings_cancelTask]
          exact vacant
      · intro reached safe drifts
        rw [store] at drifts
        exact upholds reached safe drifts

/-- Drivers are waited for, or nobody has to be waited for any more. -/
theorem of_settle {drivers remaining : List Driver} (clears : pact.Clears etiquette)
    (sane : pact.sane world.store) (turn : world.running = some id)
    (asks : world.Asks id (.settle drivers remaining next)) (knows : world.Knows etiquette pact known)
    (upholds : (Program.settle drivers remaining next).Upholds pact known world.store) :
    pact.sane (world.step machine).store ∧ (world.step machine).Fulfils etiquette pact id := by
  obtain ⟨later, same, stepped⟩ | ⟨held, stepped⟩ := asks.step_settle machine turn
  · rw [stepped]
    refine ⟨sane, .acts known later turn (asks.proceed _ rfl)
      (knows.of_cleared fun other _ cleared => cleared.proceed world.store _ _) ?_⟩
    rcases same with rfl | ⟨rest, rfl⟩
    · exact upholds _ sane (clears.rests _)
    · exact upholds
  · rw [stepped]
    have store : (world.join id held).yieldTurn.store = world.store := store_join _ _ _
    have stays : (world.join id held).yieldTurn.Knows etiquette pact known :=
      knows.of_cleared fun other _ cleared => cleared.join asks held
    refine ⟨by rwa [store],
      .waits known known _ (Option.some_ne_none id).symm (asks.join held) stays knows.closed (fun _ before => before)
      (fun other before => (stays.cleared other before).vacant) knows.closed ?_⟩
    intro reached safe drifts last lastSafe drifted
    rw [store] at drifts
    exact upholds last lastSafe (clears.trans drifts drifted)

/-- The operation acts. -/
theorem of_acts (clears : pact.Clears etiquette) (attended : world.Attended etiquette (some id))
    (honours : machine.Honours etiquette pact) (sane : pact.sane world.store) (turn : world.running = some id)
    (asks : world.Asks id program) (knows : world.Knows etiquette pact known)
    (upholds : program.Upholds pact known world.store) :
    pact.sane (world.step machine).store ∧ (world.step machine).Fulfils etiquette pact id := by
  have proceeds : ∀ {next : Program Store Driver Procedure Answer} {store : Store},
      next.Upholds pact known store →
      ({ world with store := store }.proceed id (.run next) []).Fulfils etiquette pact id :=
    fun goesOn => .acts known _ turn (asks.proceed _ rfl)
      (knows.of_cleared fun other _ cleared => cleared.proceed _ _ _) goesOn
  cases program with
  | done answer =>
      obtain ⟨joiners, stepped⟩ := asks.step_done machine turn
      rw [stepped]
      exact ⟨sane, .ended known answer (asks.outcome?_finish joiners _)
        (knows.of_cleared fun other _ cleared => cleared.finish asks joiners _) upholds⟩
  | look choose =>
      rw [asks.step_look machine turn]
      exact ⟨sane, proceeds upholds⟩
  | update change next =>
      rw [asks.step_update machine turn]
      exact ⟨upholds.1, proceeds upholds.2⟩
  | call procedure next =>
      rw [asks.step_call machine turn]
      have allowed := (asks.decorous attended.decorous).1
      exact ⟨sane, proceeds (honours procedure allowed next known _ sane upholds)⟩
  | spawn driver body next =>
      have store : (world.displace driver id).store = world.store := store_displace driver
      rw [asks.step_spawn machine turn]
      obtain ⟨lends, goesOn⟩ := upholds
      refine ⟨?_, .acts _ next ?_ asks.spawn ⟨clears.spawned_closed driver knows.closed, ?_, ?_⟩ ?_⟩
      · show pact.sane (world.displace driver id).store
        rwa [store]
      · show (world.displace driver id).running = some id
        rw [running_displace, turn]
      · exact fun other spared => clears.spawned_keeps lends spared (knows.keeps other spared)
      · intro other spawned
        obtain ⟨before, different⟩ := clears.spawned spawned
        exact (knows.cleared other before).spawn different
      · show next.Upholds pact _ (world.displace driver id).store
        rw [store]
        exact goesOn
  | cancel driver next => exact of_cancel clears attended sane turn asks knows upholds
  | settle drivers remaining next => exact of_settle clears sane turn asks knows upholds
  | fail fault => exact upholds.elim
  | check next => exact upholds.elim
  | revoke next => exact upholds.elim
  | pause duration next => exact upholds.elim
  | guard body next => exact upholds.elim
  | ensure body cleanup next => exact upholds.elim

omit [DecidableEq Driver] in
/-- Drivers leave the store within what is reckoned with. -/
theorem drifts_of_leads (clears : pact.Clears etiquette) (attended : world.Attended etiquette flight)
    (leads : world.Leads etiquette after) (idle : world.running.isSome → world.running ≠ flight)
    (sane : pact.sane world.store) : pact.drift world.store after.store ∧ pact.sane after.store := by
  rcases leads.store with same | ⟨acting, owner, change, turn, own, writes, changed⟩
  · rw [same]
    exact ⟨clears.rests _, sane⟩
  · obtain ⟨driver, rfl⟩ := attended.driver_of_acting idle turn own
    rw [changed]
    exact clears.writes writes _ sane

omit [DecidableEq Driver] in
/-- While the operation waits others move, until its turn comes. -/
theorem of_waits (clears : pact.Clears etiquette) (attended : world.Attended etiquette (some id))
    (leads : world.Leads etiquette after) (attendedAfter : after.Attended etiquette (some id))
    (sane : pact.sane world.store) (idle : world.running ≠ some id) (asks : world.Asks id program)
    (knows : world.Knows etiquette pact known) (closed : etiquette.Closed awaited)
    (more : ∀ driver, known driver → awaited driver)
    (vacant : ∀ driver, awaited driver → world.holdings driver = { slot := none, live := none })
    (above : ∀ driver other, awaited driver → etiquette.hands (some other) driver → known other)
    (upholds : ∀ reached, pact.sane reached → pact.drift world.store reached →
      program.Upholds pact awaited reached) :
    pact.sane after.store ∧ after.Fulfils etiquette pact id := by
  obtain ⟨drifts, safe⟩ := drifts_of_leads clears attended leads (fun _ => idle) sane
  have goesOn := asks.of_leads attended.decorous leads idle
  have stays : after.Knows etiquette pact known := knows.of_cleared fun driver before cleared =>
    cleared.of_leads attended leads (fun _ => idle) fun other hands =>
      knows.cleared other (knows.closed driver other before hands)
  have still : ∀ driver, awaited driver → after.holdings driver = { slot := none, live := none } :=
    fun driver waited => (leads.slots driver (vacant driver waited)).resolve_right
      (attended.not_hands (fun _ => idle) fun other hands =>
        knows.cleared other (above driver other waited hands))
  refine ⟨safe, ?_⟩
  by_cases turn : after.running = some id
  · exact .acts awaited program turn goesOn
      ⟨closed, fun driver spared => more driver (knows.keeps driver spared),
        fun driver waited => attendedAfter.cleared turn (still driver waited)⟩ (upholds _ safe drifts)
  · exact .waits known awaited program turn goesOn stays closed more still above fun reached sane drifted =>
      upholds reached sane (clears.trans drifts drifted)

omit [DecidableEq Driver] in
/-- After the operation has ended drivers move. -/
theorem of_ended (clears : pact.Clears etiquette) {answer : Option Answer}
    (attended : world.Attended etiquette (some id)) (leads : world.Leads etiquette after)
    (isOver : world.outcome? id = some (.finished answer)) (kept : after.outcome? id = world.outcome? id)
    (sane : pact.sane world.store) (knows : world.Knows etiquette pact known)
    (good : pact.good answer known world.store) :
    pact.sane after.store ∧ after.Fulfils etiquette pact id := by
  have alone := attended.complete isOver
  obtain ⟨drifts, safe⟩ := drifts_of_leads clears alone leads (fun some none => by simp [none] at some) sane
  refine ⟨safe, .ended known answer (kept.trans isOver) (knows.of_cleared ?_) (clears.lasts good drifts)⟩
  exact fun driver before cleared =>
    cleared.of_leads alone leads (fun some none => by simp [none] at some) fun other hands =>
      knows.cleared other (knows.closed driver other before hands)

omit [DecidableEq Driver] in
/-- An operation that begins knows of every driver that is cleared. -/
theorem begin (knows : world.Knows etiquette pact known)
    (upholds : program.Upholds pact known world.store) :
    (world.begin program).2.Fulfils etiquette pact world.tasks.length := by
  refine .acts known program rfl (.begin world program) (knows.of_cleared fun driver _ cleared => ?_) upholds
  refine ⟨cleared.vacant, fun other own => ?_⟩
  rcases begin_cases own with ⟨mine, same⟩ | ⟨-, impossible⟩
  · rw [isUnended, same]
    exact cleared.ended other mine
  · cases impossible

/-- A step goes on with what was undertaken. -/
theorem step (fulfils : world.Fulfils etiquette pact id) (clears : pact.Clears etiquette)
    (attended : world.Attended etiquette (some id)) (machineDecorous : machine.Decorous etiquette)
    (honours : machine.Honours etiquette pact) (sane : pact.sane world.store) :
    pact.sane (world.step machine).store ∧ (world.step machine).Fulfils etiquette pact id := by
  have leads := attended.leads machineDecorous
  cases fulfils with
  | acts known program turn asks knows upholds =>
      exact of_acts clears attended honours sane turn asks knows upholds
  | waits known awaited program idle asks knows closed more vacant above upholds =>
      exact of_waits clears attended leads (attended.step machineDecorous) sane idle asks knows closed more
        vacant above upholds
  | ended known answer isOver knows good =>
      have lasts := (attended.decorous.advances machineDecorous attended.balanced).outcome?
        attended.balanced isOver
      exact of_ended clears attended leads isOver (lasts.trans isOver.symm) sane knows good

omit [DecidableEq Driver] in
/-- So does the end of a wait. -/
theorem release? {position : Nat} {released : World Store Driver Procedure Answer}
    (fulfils : world.Fulfils etiquette pact id) (clears : pact.Clears etiquette)
    (attended : world.Attended etiquette (some id)) (noTurn : world.running = none)
    (wait : world.release? position = some released) (sane : pact.sane world.store) :
    pact.sane released.store ∧ released.Fulfils etiquette pact id := by
  have leads : world.Leads etiquette released := leads_of_release attended.balanced wait
  cases fulfils with
  | acts known program turn => exact absurd (noTurn.symm.trans turn) nofun
  | waits known awaited program idle asks knows closed more vacant above upholds =>
      exact of_waits clears attended leads (attended.release? wait) sane idle asks knows closed more vacant
        above upholds
  | ended known answer isOver knows good =>
      exact of_ended clears attended leads isOver (outcome?_release? attended.balanced wait) sane knows good

omit [DecidableEq Driver] in
/-- So does a change of the store from outside that is reckoned with. -/
theorem restore {store : Store} (fulfils : world.Fulfils etiquette pact id) (clears : pact.Clears etiquette)
    (noTurn : world.running = none) (drifts : pact.drift world.store store) :
    ({ world with store := store } : World Store Driver Procedure Answer).Fulfils etiquette pact id := by
  have stays : ∀ {known : Driver → Prop}, world.Knows etiquette pact known →
      ({ world with store := store } : World Store Driver Procedure Answer).Knows etiquette pact known :=
    fun knows => knows.of_cleared fun _ _ cleared => cleared.of_same rfl rfl fun _ _ => rfl
  cases fulfils with
  | acts known program turn => exact absurd (noTurn.symm.trans turn) nofun
  | waits known awaited program idle asks knows closed more vacant above upholds =>
      exact .waits known awaited program idle (asks.of_same rfl rfl) (stays knows) closed more vacant above
        fun reached sane drifted => upholds reached sane (clears.trans drifts drifted)
  | ended known answer isOver knows good =>
      exact .ended known answer isOver (stays knows) (clears.lasts good drifts)

end Fulfils

end Steps

end World

end Playthrough
