import Playthrough.Proofs.Task.Succession

/-!
Contract: a world of decorous tasks that is used by one operation at a time.

Owns: what a step leaves of those whose turn it is not (`World.Leads`), the worlds in which at most one
operation goes on (`World.Attended`), that every move keeps them, and that no task of a driver goes on whose
slot the acting operation finds empty.

Does not own: which operations there are.

Only operations join tasks. While the only one acts it joins none, so nobody is told of the end of a task
that was taken from its driver: the last such task has ended, and with it all earlier ones.
-/

namespace Playthrough.World

variable {Store Driver Procedure Answer : Type}
variable {etiquette : Etiquette Store Driver Procedure}
variable {world after : World Store Driver Procedure Answer} {id held other : TaskId}
variable {task : Task Store Driver Procedure Answer} {driver : Driver}

/-! ## What a step leaves of the others -/

/-- The acting task may make one for a driver. -/
def Hands (etiquette : Etiquette Store Driver Procedure) (world : World Store Driver Procedure Answer)
    (driver : Driver) : Prop :=
  ∃ id owner, world.running = some id ∧ world.owners[id]? = some owner ∧ etiquette.hands owner driver

/-- What a move leaves of those whose turn it is not. -/
structure Leads (etiquette : Etiquette Store Driver Procedure)
    (world after : World Store Driver Procedure Answer) : Prop where
  store : after.store = world.store ∨ ∃ id owner change, world.running = some id
    ∧ world.owners[id]? = some owner ∧ etiquette.writes owner change ∧ after.store = change world.store
  owners : after.owners = world.owners
    ∨ ∃ driver, world.Hands etiquette driver ∧ after.owners = world.owners ++ [some driver]
  slots : ∀ driver, world.holdings driver = { slot := none, live := none } →
    after.holdings driver = { slot := none, live := none } ∨ world.Hands etiquette driver
  unended : ∀ id, id < world.tasks.length → world.running ≠ some id →
    after.isUnended id = world.isUnended id
  programs : ∀ id task, world.tasks[id]? = some task → world.running ≠ some id →
    task.cancelPending = false → after.bare[id]? = some task.bare

theorem isUnended_proceed (control : Control Store Driver Procedure Answer)
    (frames : List (Frame Store Driver Procedure Answer)) :
    (world.proceed id control frames).isUnended other = world.isUnended other :=
  isUnended_of_change (tasks_modifyTask _ _ _) fun _ _ =>
    .ite fun _ => ⟨rfl, fun pending => pending, fun joiners => joiners⟩

theorem isUnended_cancelTask : (world.cancelTask held).isUnended other = world.isUnended other := by
  obtain ⟨change, tasks, -, lasts⟩ := changes_cancelTask world held
  exact isUnended_of_change tasks (lasts other)

theorem isUnended_join (different : other ≠ id) :
    (world.join id held).isUnended other = world.isUnended other :=
  isUnended_of_change (tasks_join world id held) fun task _ => lasts_join different task

/-- Whoever joins a task goes on. -/
theorem isUnended_join_self (goesOn : world.isUnended id = true) :
    (world.join id held).isUnended id = true := by
  rw [← goesOn]
  refine isUnended_of_change (tasks_join world id held) fun task found => ?_
  have unended : task.isEnded = false := by simpa [isUnended, found] using goesOn
  have waits : Lasts task { task with status := .joining 1 } :=
    ⟨unended.symm, fun pending => pending, fun joiners => joiners⟩
  exact (Lasts.ite fun _ => waits).trans (.ite fun _ => ⟨rfl, fun pending => pending, fun _ => by simp⟩)

theorem isUnended_displace : (world.displace driver id).isUnended other = world.isUnended other := by
  simp only [displace]
  split
  · split
    · rfl
    · exact isUnended_cancelTask
  · rfl

theorem isUnended_noteJoined : (world.noteJoined id).isUnended other = world.isUnended other := by
  simp only [noteJoined]
  split
  · next found =>
      refine isUnended_of_change (tasks_modifyTask _ _ _) fun task there => .ite ?_
      rintro rfl
      rw [found] at there
      cases there
      exact ⟨rfl, fun pending => pending, fun joiners => joiners⟩
  · next found =>
      refine isUnended_of_change (tasks_modifyTask _ _ _) fun task there => .ite ?_
      rintro rfl
      rw [found] at there
      cases there
      exact ⟨rfl, fun pending => pending, fun joiners => joiners⟩
  · rfl

theorem bare_proceed_of_ne (different : other ≠ id) (control : Control Store Driver Procedure Answer)
    (frames : List (Frame Store Driver Procedure Answer)) :
    (world.proceed id control frames).bare[other]? = world.bare[other]? := by
  simp [bare_proceed, Ne.symm different]

section Steps

variable [DecidableEq Driver] {machine : Machine Store Driver Procedure Answer}

theorem isUnended_install {body : Program Store Driver Procedure Answer}
    (inside : other < world.tasks.length) :
    (world.install driver body).isUnended other = world.isUnended other := by
  have same : (world.install driver body).tasks[other]? = world.tasks[other]? :=
    List.getElem?_append_left inside
  simp only [isUnended, same]

theorem Advances.leads (advances : Advances etiquette machine world after) : world.Leads etiquette after := by
  have elsewhere : ∀ {id other : TaskId}, world.running = some id → world.running ≠ some other →
      other ≠ id := by
    rintro id other turn idle rfl
    exact idle turn
  cases advances with
  | rests =>
      exact ⟨.inl rfl, .inl rfl, fun _ empty => .inl empty, fun _ _ _ => rfl,
        fun _ _ found _ _ => bare_of_found found⟩
  | @goesOn id task store control frames turn found writes onward leaves =>
      refine ⟨?_, .inl (owners_proceed _ _), fun _ empty => .inl empty, ?_, ?_⟩
      · rcases writes with same | ⟨change, allowed, changed⟩
        · exact .inl same
        · exact .inr ⟨id, _, change, turn, owner_of_found found, allowed, changed⟩
      · exact fun other _ _ => isUnended_proceed control frames
      · intro other task there idle _
        rw [bare_proceed_of_ne (elsewhere turn idle)]
        exact bare_of_found there
  | @ends id task outcome turn found =>
      refine ⟨.inl rfl, .inl (owners_of_bare (bare_finish _ _)), fun _ empty => .inl empty, ?_, ?_⟩
      · intro other _ idle
        exact isUnended_of_change (tasks_modifyTask _ _ _) fun _ _ =>
          .ite fun same => absurd same.symm (elsewhere turn idle)
      · intro other task there _ _
        rw [bare_finish]
        exact bare_of_found there
  | @sleeps id task duration next turn found owned onward stays =>
      refine ⟨.inl rfl, .inl ?_, fun _ empty => .inl empty, ?_, ?_⟩
      · rw [owners_of_bare (bare_sleep machine duration), owners_proceed]
      · intro other _ idle
        have asleep := isUnended_of_change (tasks_modifyTask (world.proceed id (.run (.check next))
          task.frames) id fun task => { task with status := .sleeping }) fun _ _ =>
            .ite fun same => absurd same.symm (elsewhere turn idle)
        exact Eq.trans asleep (isUnended_proceed _ _)
      · intro other task there idle _
        rw [bare_sleep, bare_proceed_of_ne (elsewhere turn idle)]
        exact bare_of_found there
  | @hands id task driver body control turn found allowed new onward stays =>
      have handing : world.Hands etiquette driver := ⟨id, _, turn, owner_of_found found, allowed⟩
      refine ⟨.inl (store_displace driver), .inr ⟨driver, handing, ?_⟩, ?_, ?_, ?_⟩
      · rw [owners_proceed, Decorous.owners_install, owners_of_bare (bare_displace driver)]
      · intro other empty
        by_cases same : other = driver
        · subst same
          exact .inr handing
        · left
          show ((world.displace driver id).install driver body).holdings other = _
          simp only [install, enqueue, setHolding, same, if_false, holdings_displace]
          exact empty
      · intro other inside idle
        rw [isUnended_proceed, isUnended_install (by rwa [length_tasks_displace]), isUnended_displace]
      · intro other task there idle _
        have inside : other < world.bare.length := by
          rw [bare, List.length_map]
          exact (List.getElem?_eq_some_iff.mp there).1
        rw [bare_proceed_of_ne (elsewhere turn idle), bare_install, bare_displace,
          List.getElem?_append_left inside]
        exact bare_of_found there
  | @passes id task driver control turn found outside empty onward stays =>
      refine ⟨.inl rfl, .inl (owners_proceed _ _), ?_, ?_, ?_⟩
      · intro other vacant
        left
        show (world.setHolding driver { slot := none, live := none }).holdings other = _
        simp only [setHolding]
        split
        · rfl
        · exact vacant
      · exact fun other _ _ => isUnended_proceed control task.frames
      · intro other task there idle _
        rw [bare_proceed_of_ne (elsewhere turn idle)]
        exact bare_of_found there
  | @cancels id held task driver control turn found outside holding onward stays =>
      refine ⟨.inl ?_, .inl ?_, ?_, ?_, ?_⟩
      · exact (store_join _ _ _).trans (store_cancelTask _ _)
      · rw [owners_of_bare (bare_yieldTurn.trans (bare_join.trans bare_cancelTask)), owners_proceed]
        rfl
      · intro other vacant
        left
        rw [yieldTurn, holdings_join, holdings_cancelTask]
        show (world.setHolding driver { slot := none, live := none }).holdings other = _
        simp only [setHolding]
        split
        · rfl
        · exact vacant
      · intro other _ idle
        exact (isUnended_join (elsewhere turn idle)).trans
          (isUnended_cancelTask.trans (isUnended_proceed control task.frames))
      · intro other task there idle _
        rw [bare_yieldTurn, bare_join, bare_cancelTask, bare_proceed_of_ne (elsewhere turn idle)]
        exact bare_of_found there
  | @joins id held task driver turn found outside holding =>
      refine ⟨.inl (store_join _ _ _), .inl (owners_of_bare (bare_yieldTurn.trans bare_join)), ?_, ?_, ?_⟩
      · intro other vacant
        left
        rw [yieldTurn, holdings_join]
        exact vacant
      · intro other _ idle
        exact isUnended_join (elsewhere turn idle)
      · intro other task there _ _
        rw [bare_yieldTurn, bare_join]
        exact bare_of_found there
  | @takes id queue noTurn queued =>
      refine ⟨.inl rfl, .inl Decorous.owners_beginTurn, fun _ empty => .inl empty, ?_, ?_⟩
      · exact fun other _ _ => isUnended_beginTurn
      · intro other task there _ kept
        have begun := tasks_modifyTask ({ world with queue := queue, running := some id }) id
          (fun task => if task.cancelPending then
            { task with control := .unwind .cancelled, cancelPending := false } else task) other
        have before : ({ world with queue := queue, running := some id } :
            World Store Driver Procedure Answer).tasks[other]? = some task := there
        simp only [before, Option.map_some, kept, Bool.false_eq_true, if_false, ite_self] at begun
        exact bare_of_found begun
  | @learns id queue noTurn queued =>
      refine ⟨.inl store_noteJoined, .inl (owners_of_bare bare_noteJoined), ?_, ?_, ?_⟩
      · intro other vacant
        left
        rw [holdings_noteJoined]
        exact vacant
      · exact fun other _ _ => isUnended_noteJoined
      · intro other task there _ _
        rw [bare_noteJoined]
        exact bare_of_found there

/-- Whose turn it is keeps it, or nobody has a turn. -/
theorem Advances.running (advances : Advances etiquette machine world after)
    (turn : world.running = some id) : after.running = some id ∨ after.running = none := by
  cases advances with
  | rests => exact .inl turn
  | goesOn => exact .inl turn
  | ends => exact .inr rfl
  | sleeps => exact .inr rfl
  | hands => exact .inl ((running_displace _ _).trans turn)
  | passes => exact .inl turn
  | cancels => exact .inr rfl
  | joins => exact .inr rfl
  | takes noTurn => rw [noTurn] at turn; cases turn
  | learns noTurn => rw [noTurn] at turn; cases turn

end Steps

theorem isUnended_release? {position : Nat} {released : World Store Driver Procedure Answer}
    (balanced : world.Balanced) (wait : world.release? position = some released) :
    released.isUnended other = world.isUnended other := by
  obtain ⟨held, found, rfl⟩ := release?_eq_some.mp wait
  obtain ⟨sleeper, there, sleeping⟩ := balanced.sleeping_of_wait (List.mem_of_getElem? found)
  refine isUnended_of_change (tasks_modifyTask _ _ _) fun task known => .ite ?_
  rintro rfl
  have same : world.tasks[held.task]? = some task := known
  rw [there] at same
  cases same
  exact ⟨by simp [Task.isEnded, sleeping], fun pending => pending, fun joiners => joiners⟩

theorem leads_of_release {position : Nat} {released : World Store Driver Procedure Answer}
    (balanced : world.Balanced) (wait : world.release? position = some released) :
    world.Leads etiquette released := by
  have bare := bare_release? wait
  refine ⟨.inl ?_, .inl (owners_of_bare bare), ?_, fun _ _ _ => isUnended_release? balanced wait, ?_⟩
  · obtain ⟨held, -, rfl⟩ := release?_eq_some.mp wait
    rfl
  · obtain ⟨held, -, rfl⟩ := release?_eq_some.mp wait
    exact fun _ empty => .inl empty
  · intro other task known _ _
    rw [bare]
    exact bare_of_found known

/-- A task with an outcome has ended. -/
theorem isUnended_of_outcome {outcome : Outcome Answer} (isOver : world.outcome? id = some outcome) :
    world.isUnended id = false := by
  obtain ⟨task, found, ended⟩ := Option.bind_eq_some_iff.mp isOver
  simp only [isUnended, found]
  cases status : task.status <;> simp [Task.outcome?, Task.isEnded, status] at ended ⊢

/-- Whose turn it is has not ended. -/
theorem Balanced.unended_of_turn (balanced : world.Balanced) (turn : world.running = some id) :
    world.isUnended id = true := by
  have orderly : world.Orderly (some id) := by
    rw [← turn]
    exact balanced
  obtain ⟨task, found, ready⟩ := orderly.acts
  simp [isUnended, found, Task.isEnded, ready]

/-- Whoever made a task is not forgotten. -/
theorem Leads.owner_after {owner : Option Driver} (leads : world.Leads etiquette after)
    (own : world.owners[id]? = some owner) : after.owners[id]? = some owner := by
  rcases leads.owners with same | ⟨driver, -, added⟩
  · rwa [same]
  · rw [added, List.getElem?_append_left (List.getElem?_eq_some_iff.mp own).1]
    exact own

/-- No move makes an operation. -/
theorem Leads.outside_before (leads : world.Leads etiquette after) (own : after.owners[id]? = some none) :
    world.owners[id]? = some none := by
  rcases leads.owners with same | ⟨driver, -, added⟩
  · rwa [same] at own
  · rw [added, List.getElem?_append] at own
    split at own
    · exact own
    · cases List.mem_singleton.mp (List.mem_of_getElem? own)

/-- When an operation begins, the tasks are those that there were and its own. -/
theorem begin_cases {operation : Program Store Driver Procedure Answer} {owner : Option Driver}
    (own : (world.begin operation).2.owners[id]? = some owner) :
    (world.owners[id]? = some owner ∧ (world.begin operation).2.tasks[id]? = world.tasks[id]?)
      ∨ (id = world.tasks.length ∧ owner = none) := by
  have added : (world.begin operation).2.owners = world.owners ++ [none] := by
    simp [owners, bare, World.begin, Task.fresh, Task.bare]
  rw [added, List.getElem?_append] at own
  split at own
  · next inside =>
      rw [length_owners] at inside
      exact .inl ⟨own, List.getElem?_append_left inside⟩
  · next outside =>
      rw [length_owners] at outside own
      obtain ⟨last, same⟩ := List.getElem?_eq_some_iff.mp own
      rw [List.length_singleton] at last
      have upper : id ≤ world.tasks.length := Nat.le_of_sub_eq_zero (Nat.lt_one_iff.mp last)
      exact .inr ⟨Nat.le_antisymm upper (Nat.le_of_not_lt outside),
        (List.mem_singleton.mp (List.mem_of_getElem? own))⟩

/-- Tasks, turns and waits do not depend on the store. -/
theorem Balanced.restore (balanced : world.Balanced) (store : Store) :
    ({ world with store := store } : World Store Driver Procedure Answer).Balanced :=
  Orderly.of_same balanced rfl rfl rfl

/-- Neither do manners. -/
theorem Decorous.restore (decorous : world.Decorous etiquette) (store : Store) :
    ({ world with store := store } : World Store Driver Procedure Answer).Decorous etiquette :=
  ⟨decorous.programs, decorous.steady, decorous.slots⟩

/-! ## One operation at a time -/

/-- A balanced world of decorous tasks in order, in which no operation goes on but the one that was asked
for last. -/
structure Attended (etiquette : Etiquette Store Driver Procedure) (flight : Option TaskId)
    (world : World Store Driver Procedure Answer) : Prop where
  balanced : world.Balanced
  decorous : world.Decorous etiquette
  inOrder : world.InOrder
  sole : ∀ id, world.owners[id]? = some none → world.isUnended id = true → flight = some id

/-- Where every task has ended nothing is left to be done. -/
theorem Balanced.silent_of_ended (balanced : world.Balanced) (ended : ∀ id, world.isUnended id = false) :
    world.running = none ∧ world.queue = [] ∧ world.waits = [] := by
  have absurdity : ∀ {id : TaskId} {task : Task Store Driver Procedure Answer},
      world.tasks[id]? = some task → task.isEnded ≠ false := by
    intro id task found unended
    have isOver := ended id
    simp [isUnended, found, unended] at isOver
  refine ⟨?_, ?_, ?_⟩
  · cases turn : world.running with
    | none => rfl
    | some id =>
        have orderly : world.Orderly (some id) := by
          rw [← turn]
          exact balanced
        obtain ⟨task, found, ready⟩ := orderly.acts
        exact absurd (by simp [Task.isEnded, ready]) (absurdity found)
  · refine List.eq_nil_iff_forall_not_mem.mpr ?_
    intro turn queued
    cases turn with
    | run id =>
        obtain ⟨task, found, ready⟩ := balanced.ready_of_queued queued
        exact absurdity found (by simp [Task.isEnded, ready])
    | joined id =>
        obtain ⟨task, count, found, joining⟩ := balanced.joining_of_queued queued
        exact absurdity found (by simp [Task.isEnded, joining])
  · refine List.eq_nil_iff_forall_not_mem.mpr ?_
    intro wait held
    obtain ⟨task, found, sleeping⟩ := balanced.sleeping_of_wait held
    exact absurdity found (by simp [Task.isEnded, sleeping])

namespace Attended

variable {flight : Option TaskId}

theorem initial (store : Store) :
    (World.initial store : World Store Driver Procedure Answer).Attended etiquette none :=
  ⟨(orderly_initial store).balanced rfl, .initial store, .initial store, fun _ own => by cases own⟩

/-- Where a task goes on of a driver that holds none, the operation waits. -/
theorem waits_of_vacant (attended : world.Attended etiquette flight)
    (empty : (world.holdings driver).slot = none) (own : world.owners[other]? = some (some driver))
    (goesOn : world.isUnended other = true) :
    ∃ id waiter count, flight = some id ∧ world.tasks[id]? = some waiter
      ∧ waiter.status = .joining (count + 1) := by
  obtain ⟨-, last, -, serving, task, found, told⟩ := attended.inOrder.vacant driver other empty ⟨own, goesOn⟩
  obtain ⟨joiner, member⟩ := List.exists_mem_of_ne_nil _ told
  have unended : task.isEnded = false := by
    have goesOn := serving.unended
    simpa [isUnended, found] using goesOn
  obtain ⟨waiter, count, there, waits⟩ :=
    Orderly.joining_of_joiner attended.balanced found unended member
  -- whoever waits for it is an operation, and there is only one
  have outside : waiter.owner = none := by
    have steady := attended.decorous.steady waiter (List.mem_of_getElem? there)
    cases owner : waiter.owner with
    | none => rfl
    | some driver =>
        simp only [Task.Steady, owner] at steady
        exact absurd waits (steady (count + 1))
  exact ⟨joiner, waiter, count, attended.sole joiner (by rw [owner_of_found there, outside])
    (by simp [isUnended, there, Task.isEnded, waits]), there, waits⟩

/-- No task goes on of a driver whose slot the acting operation finds empty. -/
theorem ended_of_vacant (attended : world.Attended etiquette (some id)) (turn : world.running = some id)
    (empty : (world.holdings driver).slot = none) (own : world.owners[other]? = some (some driver)) :
    world.isUnended other = false := by
  by_contra goesOn
  obtain ⟨same, waiter, count, acting, there, waits⟩ :=
    attended.waits_of_vacant empty own (by simpa using goesOn)
  cases acting
  have orderly : world.Orderly (some id) := by
    rw [← turn]
    exact attended.balanced
  rw [orderly.ready_of_acting there] at waits
  cases waits

/-- Where no operation goes on and no driver holds a task, every task has ended. -/
theorem ended_of_free (attended : world.Attended etiquette none)
    (empty : ∀ driver, (world.holdings driver).slot = none) (id : TaskId) : world.isUnended id = false := by
  by_contra goesOn
  have unended : world.isUnended id = true := by simpa using goesOn
  obtain ⟨task, found⟩ : ∃ task, world.tasks[id]? = some task := by
    cases found : world.tasks[id]? with
    | none => simp [isUnended, found] at unended
    | some task => exact ⟨task, rfl⟩
  have own := owner_of_found found
  cases owner : task.owner with
  | none =>
      rw [owner] at own
      cases attended.sole id own unended
  | some driver =>
      rw [owner] at own
      obtain ⟨waiting, waiter, count, flight, -⟩ := attended.waits_of_vacant (empty driver) own unended
      cases flight

/-- Where no operation goes on, nothing moves and the clock holds nobody, every task has ended. -/
theorem ended_of_rest (attended : world.Attended etiquette none) (idle : world.isIdle = true)
    (silent : world.waits = []) (id : TaskId) : world.isUnended id = false := by
  by_contra goesOn
  have unended : world.isUnended id = true := by simpa using goesOn
  simp only [isIdle, Bool.and_eq_true, Option.isNone_iff_eq_none, List.isEmpty_iff] at idle
  have noLine : world.line = [] := by simp [line_of_noTurn idle.1, idle.2]
  cases found : world.tasks[id]? with
  | none => simp [isUnended, found] at unended
  | some task =>
      have own := owner_of_found found
      cases owner : task.owner with
      | none =>
          rw [owner] at own
          cases attended.sole id own unended
      | some driver =>
          rw [owner] at own
          cases status : task.status with
          | ended outcome => simp [isUnended, found, Task.isEnded, status] at unended
          | ready =>
              have inLine := attended.balanced.mem_line found status
              simp [noLine] at inLine
          | joining count =>
              have steady := attended.decorous.steady task (List.mem_of_getElem? found)
              simp only [Task.Steady, owner] at steady
              exact steady count status
          | sleeping =>
              have asleep := attended.balanced.sleeps id
              simp [silent, owed_of_found found, status, Status.sleeps] at asleep

theorem begin {operation : Program Store Driver Procedure Answer} (attended : world.Attended etiquette none)
    (noTurn : world.running = none) (allowed : operation.Decorous etiquette none) :
    (world.begin operation).2.Attended etiquette (some world.tasks.length) := by
  refine ⟨attended.balanced.begin noTurn operation, attended.decorous.begin allowed,
    attended.inOrder.begin noTurn, ?_⟩
  intro other own unended
  rcases begin_cases own with ⟨before, same⟩ | ⟨rfl, -⟩
  · rw [isUnended, same] at unended
    have noFlight := attended.sole other before unended
    cases noFlight
  · rfl

/-- An operation has ended. -/
theorem complete {outcome : Outcome Answer} (attended : world.Attended etiquette (some id))
    (ended : world.outcome? id = some outcome) : world.Attended etiquette none := by
  refine ⟨attended.balanced, attended.decorous, attended.inOrder, ?_⟩
  intro other own unended
  have same := attended.sole other own unended
  cases same
  obtain ⟨task, found, isOver⟩ := Option.bind_eq_some_iff.mp ended
  simp only [isUnended, found] at unended
  cases status : task.status <;> simp [Task.outcome?, Task.isEnded, status] at isOver unended

theorem of_leads (attended : world.Attended etiquette flight) (leads : world.Leads etiquette after)
    (balanced : after.Balanced) (decorous : after.Decorous etiquette) (inOrder : after.InOrder) :
    after.Attended etiquette flight := by
  refine ⟨balanced, decorous, inOrder, ?_⟩
  intro other own unended
  have before := leads.outside_before own
  refine attended.sole other before ?_
  have inside : other < world.tasks.length := by
    rw [← length_owners]
    exact (List.getElem?_eq_some_iff.mp before).1
  by_cases acting : world.running = some other
  · exact attended.balanced.unended_of_turn acting
  · rwa [← leads.unended other inside acting]

theorem release? {position : Nat} {released : World Store Driver Procedure Answer}
    (attended : world.Attended etiquette flight) (wait : world.release? position = some released) :
    released.Attended etiquette flight :=
  attended.of_leads (leads_of_release attended.balanced wait) (attended.balanced.release? wait)
    (attended.decorous.release? wait) (attended.inOrder.release? attended.balanced wait)

/-- The store is changed from outside. -/
theorem restore (attended : world.Attended etiquette flight) (store : Store) :
    ({ world with store := store } : World Store Driver Procedure Answer).Attended etiquette flight :=
  ⟨attended.balanced.restore store, attended.decorous.restore store, attended.inOrder.of_same rfl rfl rfl rfl,
    attended.sole⟩

section Steps

variable [DecidableEq Driver] {machine : Machine Store Driver Procedure Answer}

theorem leads (attended : world.Attended etiquette flight) (machineDecorous : machine.Decorous etiquette) :
    world.Leads etiquette (world.step machine) :=
  (attended.decorous.advances machineDecorous attended.balanced).leads

theorem step (attended : world.Attended etiquette flight) (machineDecorous : machine.Decorous etiquette) :
    (world.step machine).Attended etiquette flight := by
  have advances := attended.decorous.advances machineDecorous attended.balanced
  have balanced := attended.balanced.step machine
  exact attended.of_leads advances.leads balanced (attended.decorous.of_advances advances)
    (attended.inOrder.of_advances attended.balanced attended.decorous advances balanced)

end Steps

end Attended

end Playthrough.World
