import Playthrough.Proofs.Task.Conduct

/-!
Contract: an operation with nobody beside it.

Owns: outlines in which no driver holds a task and nobody goes on but one operation
(`Outline.Deserted`), or that operation and the task that it has taken from its driver
(`Outline.Clearing`), how an operation comes to be alone, and what it leaves behind when it ends.

Does not own: worlds, and which operations there are.

Where nothing goes on, an operation only ever waits for a task that has ended, and nobody holds a task
from then on. Where a driver's task goes on, the operation waits until that task has unwound.
-/

namespace Playthrough.Outline

variable {Store Driver Procedure Answer : Type} [DecidableEq Driver]
variable {outline passed : Outline Store Driver Procedure Answer} {driver : Driver} {id held : TaskId}
variable {task : Task Store Driver Procedure Answer} {store : Store} {outcome : Outcome Answer}
variable {begun next body : Program Store Driver Procedure Answer}

theorem slot_vacate (other : Driver) :
    ((outline.vacate driver).holdings other).slot =
      if other = driver then none else (outline.holdings other).slot := by
  by_cases same : other = driver
  · subst same
    simp [vacate]
  · simp [vacate, same]

theorem holdings_vacate : (outline.vacate driver).holdings driver = { slot := none, live := none } :=
  Function.update_self _ _ _

omit [DecidableEq Driver] in
theorem tasks_close_self : (outline.close id store outcome).tasks id = none := Function.update_self _ _ _

omit [DecidableEq Driver] in
theorem tasks_close_other {other : TaskId} (different : other ≠ id) :
    (outline.close id store outcome).tasks other = outline.tasks other :=
  Function.update_of_ne different _ _

/-! ## An operation that waits for a task that has ended -/

/-- An operation takes a driver's slot and waits. -/
def await (outline : Outline Store Driver Procedure Answer) (driver : Driver) (id : TaskId)
    (next : Program Store Driver Procedure Answer) (store : Store) :
    Outline Store Driver Procedure Answer :=
  (outline.vacate driver).rest id (.fresh none next) store

/-- A task that has ended does not notice that it is cancelled and joined. -/
theorem take_of_ended (different : held ≠ id) (ended : outline.tasks held = none) :
    (((outline.vacate driver).cancel held).rest id (.fresh none next) store).join id held =
      outline.await driver id next store := by
  have uncancelled : (outline.vacate driver).cancel held = outline.vacate driver := by
    have gone : (outline.vacate driver).tasks held = none := ended
    simp only [cancel, gone, Option.map_none]
    rw [← gone, Function.update_eq_self]
  have gone : (outline.await driver id next store).tasks held = none :=
    (Function.update_of_ne different _ _).trans ended
  rw [uncancelled]
  show (outline.await driver id next store).join id held = outline.await driver id next store
  simp only [join, gone, Option.map_none]
  rw [← gone, Function.update_eq_self]

theorem tasks_await : (outline.await driver id next store).tasks id = some (.fresh none next) :=
  Function.update_self _ _ _

/-! ## Nobody but an operation -/

/-- No driver holds a task, and nobody goes on but one operation. -/
structure Deserted (id : TaskId) (outline : Outline Store Driver Procedure Answer) : Prop where
  slots : ∀ driver, (outline.holdings driver).slot = none
  only : ∀ other task, outline.tasks other = some task → other = id
  inside : id < outline.count

namespace Deserted

theorem vacate (deserted : Deserted id outline) (driver : Driver) :
    Deserted id (outline.vacate driver) where
  slots other := by
    rw [slot_vacate, deserted.slots]
    split <;> rfl
  only := deserted.only
  inside := deserted.inside

omit [DecidableEq Driver] in
/-- An operation that begins where nothing goes on is alone. -/
theorem of_add (slots : ∀ driver, (outline.holdings driver).slot = none)
    (isOver : ∀ id, outline.tasks id = none) : Deserted outline.count (outline.add (.fresh none begun)) where
  slots := slots
  only other task found := by
    by_contra different
    have same : (outline.add (.fresh none begun)).tasks other = outline.tasks other :=
      Function.update_of_ne different _ _
    rw [same, isOver] at found
    cases found
  inside := Nat.lt_succ_self _

/-- An operation that takes the only task that a driver holds is alone from then on. -/
theorem of_await (slots : ∀ other, other ≠ driver → (outline.holdings other).slot = none)
    (isOver : ∀ id, outline.tasks id = none) :
    Deserted outline.count ((outline.add (.fresh none begun)).await driver outline.count next store) where
  slots other := by
    have vacated : (((outline.add (.fresh none begun)).vacate driver).holdings other).slot = none := by
      rw [slot_vacate]
      split
      · rfl
      · next different => exact slots other different
    exact vacated
  only other task found := by
    by_contra different
    have same : ((outline.add (.fresh none begun)).await driver outline.count next store).tasks other =
        outline.tasks other :=
      (Function.update_of_ne different _ _).trans (Function.update_of_ne different _ _)
    rw [same, isOver] at found
    cases found
  inside := Nat.lt_succ_self _

omit [DecidableEq Driver] in
/-- Whoever waits is left alone by an operation that begins and ends beside it. -/
theorem beside (deserted : Deserted id outline) (slots : ∀ driver, (passed.holdings driver).slot = none)
    (sameTasks : passed.tasks = (outline.add task).tasks)
    (sameCount : passed.count = (outline.add task).count) :
    Deserted id (passed.close outline.count store outcome) where
  slots := slots
  only someone other found := by
    by_cases own : someone = outline.count
    · subst own
      rw [tasks_close_self] at found
      cases found
    · rw [tasks_close_other own, sameTasks] at found
      exact deserted.only someone other ((Function.update_of_ne own _ _).symm.trans found)
  inside := by
    show id < passed.count
    rw [sameCount]
    exact Nat.lt_succ_of_lt deserted.inside

omit [DecidableEq Driver] in
/-- Where an operation was alone, nobody goes on after it has ended. -/
theorem over_close (deserted : Deserted id outline) (someone : TaskId) :
    (outline.close id store outcome).tasks someone = none := by
  by_cases own : someone = id
  · subst own
    exact tasks_close_self
  · rw [tasks_close_other own]
    cases found : outline.tasks someone with
    | none => rfl
    | some task => exact absurd (deserted.only someone task found) own

end Deserted

omit [DecidableEq Driver] in
/-- Whoever waits goes on waiting for the same while an operation begins and ends beside it. -/
theorem tasks_beside (inside : id < outline.count) (sameTasks : passed.tasks = (outline.add task).tasks) :
    (passed.close outline.count store outcome).tasks id = outline.tasks id := by
  have different : id ≠ outline.count := Nat.ne_of_lt inside
  refine (Function.update_of_ne different _ _).trans ?_
  rw [sameTasks]
  exact Function.update_of_ne different _ _

/-! ## An operation that waits for a task to unwind -/

/-- An operation takes a task from its driver, cancels it and joins it. -/
def take (outline : Outline Store Driver Procedure Answer) (driver : Driver) (held id : TaskId)
    (next : Program Store Driver Procedure Answer) (store : Store) :
    Outline Store Driver Procedure Answer :=
  (((outline.vacate driver).cancel held).rest id (.fresh none next) store).join id held

theorem tasks_take_self (different : held ≠ id) :
    (outline.take driver held id next store).tasks id = some (.fresh none next) :=
  (Function.update_of_ne (Ne.symm different) _ _).trans (Function.update_self _ _ _)

theorem tasks_take_held (different : held ≠ id) :
    (outline.take driver held id next store).tasks held =
      (outline.tasks held).map fun task =>
        { task with cancelPending := true, joiners := task.joiners ++ [id] } := by
  have cancelled : (((outline.vacate driver).cancel held).rest id (.fresh none next) store).tasks held =
      (outline.tasks held).map fun task => { task with cancelPending := true } :=
    (Function.update_of_ne different _ _).trans (Function.update_self _ _ _)
  have joined : (outline.take driver held id next store).tasks held =
      ((((outline.vacate driver).cancel held).rest id (.fresh none next) store).tasks held).map
        fun task => { task with joiners := task.joiners ++ [id] } := Function.update_self _ _ _
  rw [joined, cancelled, Option.map_map]
  rfl

theorem tasks_take_other {other : TaskId} (notHeld : other ≠ held) (notSelf : other ≠ id) :
    (outline.take driver held id next store).tasks other = outline.tasks other :=
  (Function.update_of_ne notHeld _ _).trans
    ((Function.update_of_ne notSelf _ _).trans (Function.update_of_ne notHeld _ _))

/-- No driver holds a task, and nobody goes on but one operation and a task that was cancelled, which
the operation waits for. -/
structure Clearing (id held : TaskId) (outline : Outline Store Driver Procedure Answer) : Prop where
  slots : ∀ driver, (outline.holdings driver).slot = none
  only : ∀ other task, outline.tasks other = some task → other = id ∨ other = held
  inside : id < outline.count
  within : held < outline.count
  different : held ≠ id
  leaves : ∀ task, outline.tasks held = some task →
    task.cancelPending = true ∧ id ∈ task.joiners ∧ held ∉ task.joiners

/-- What a task leaves of a store when it unwinds, if it has only a change of the store to take back. -/
def unwound (change : Store → Store) (task : Task Store Driver Procedure Answer) (store : Store) : Store :=
  if task.frames.isEmpty then store else change store

/-- A task that was cancelled has unwound. -/
def settled (outline : Outline Store Driver Procedure Answer) (held : TaskId) (change : Store → Store) :
    Outline Store Driver Procedure Answer :=
  match outline.tasks held with
  | none => outline
  | some task => outline.close held (unwound change task outline.store) .cancelled

namespace Clearing

/-- An operation that takes the only task that goes on clears the way. -/
theorem of_take (slots : ∀ other, other ≠ driver → (outline.holdings other).slot = none)
    (inside : held < outline.count)
    (only : ∀ other task, outline.tasks other = some task → other = held ∧ held ∉ task.joiners) :
    Clearing outline.count held
      ((outline.add (.fresh none begun)).take driver held outline.count next store) := by
  have different : held ≠ outline.count := Nat.ne_of_lt inside
  have same : ∀ other, other ≠ outline.count →
      (outline.add (.fresh none begun)).tasks other = outline.tasks other :=
    fun other notSelf => Function.update_of_ne notSelf _ _
  refine ⟨?_, ?_, Nat.lt_succ_self _, Nat.lt_succ_of_lt inside, different, ?_⟩
  · intro other
    have vacated : (((outline.add (.fresh none begun)).vacate driver).holdings other).slot = none := by
      rw [slot_vacate]
      split
      · rfl
      · next different => exact slots other different
    exact vacated
  · intro other task found
    by_cases notSelf : other = outline.count
    · exact .inl notSelf
    · by_cases notHeld : other = held
      · exact .inr notHeld
      · rw [tasks_take_other notHeld notSelf, same other notSelf] at found
        exact .inr (only other task found).1
  · intro task found
    rw [tasks_take_held different, same held different] at found
    obtain ⟨before, was, rfl⟩ := Option.map_eq_some_iff.mp found
    refine ⟨rfl, by simp, ?_⟩
    simp only [List.mem_append, List.mem_singleton, not_or]
    exact ⟨(only held before was).2, different⟩

omit [DecidableEq Driver] in
/-- The way goes on being cleared while an operation begins and ends. -/
theorem beside (clearing : Clearing id held outline)
    (slots : ∀ driver, (passed.holdings driver).slot = none)
    (sameTasks : passed.tasks = (outline.add task).tasks)
    (sameCount : passed.count = (outline.add task).count) :
    Clearing id held (passed.close outline.count store outcome) := by
  have more : ∀ {someone}, someone < outline.count → someone < passed.count := by
    intro someone inside
    rw [sameCount]
    exact Nat.lt_succ_of_lt inside
  refine ⟨slots, ?_, more clearing.inside, more clearing.within, clearing.different, ?_⟩
  · intro someone other found
    by_cases own : someone = outline.count
    · subst own
      rw [tasks_close_self] at found
      cases found
    · rw [tasks_close_other own, sameTasks] at found
      exact clearing.only someone other ((Function.update_of_ne own _ _).symm.trans found)
  · intro other found
    rw [tasks_beside clearing.within sameTasks] at found
    exact clearing.leaves other found

omit [DecidableEq Driver] in
theorem tasks_settled (clearing : Clearing id held outline) (change : Store → Store) :
    (outline.settled held change).tasks id = outline.tasks id := by
  simp only [settled]
  split
  · rfl
  · exact Function.update_of_ne (Ne.symm clearing.different) _ _

omit [DecidableEq Driver] in
/-- Once the task has unwound the operation is alone. -/
theorem deserted (clearing : Clearing id held outline) (change : Store → Store) :
    Deserted id (outline.settled held change) := by
  simp only [settled]
  split
  · next isOver =>
      refine ⟨clearing.slots, ?_, clearing.inside⟩
      intro other task found
      rcases clearing.only other task found with own | leaver
      · exact own
      · rw [leaver, isOver] at found
        cases found
  · refine ⟨clearing.slots, ?_, clearing.inside⟩
    intro other task found
    by_cases leaver : other = held
    · subst leaver
      rw [tasks_close_self] at found
      cases found
    · rw [tasks_close_other leaver] at found
      rcases clearing.only other task found with own | same
      · exact own
      · exact absurd same leaver

end Clearing

/-! ## An operation that leaves a driver its task -/

/-- The task that a driver has got from an operation goes on after the operation has ended. -/
theorem tasks_install_close (inside : id < outline.count) :
    ((outline.install driver body).close id store outcome).tasks outline.count =
      some (.fresh (some driver) body) :=
  (Function.update_of_ne (Ne.symm (Nat.ne_of_lt inside)) _ _).trans (Function.update_self _ _ _)

theorem holdings_install_close :
    ((outline.install driver body).close id store outcome).holdings driver =
      { slot := some outline.count, live := some outline.count } :=
  Function.update_self _ _ _

/-- Where an operation was alone, only the driver goes on to which it has given a task. -/
theorem Deserted.only_driver {someone : TaskId} (deserted : Deserted id outline)
    (goesOn : ((outline.install driver body).close id store outcome).tasks someone = some task) :
    task = .fresh (some driver) body := by
  by_cases own : someone = id
  · subst own
    rw [tasks_close_self] at goesOn
    cases goesOn
  · by_cases new : someone = outline.count
    · subst new
      rw [tasks_install_close deserted.inside] at goesOn
      exact (Option.some.inj goesOn).symm
    · have same : ((outline.install driver body).close id store outcome).tasks someone =
          outline.tasks someone :=
        (Function.update_of_ne own _ _).trans (Function.update_of_ne new _ _)
      rw [same] at goesOn
      exact absurd (deserted.only someone task goesOn) own

end Playthrough.Outline
