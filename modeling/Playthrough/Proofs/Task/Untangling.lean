import Playthrough.Proofs.Task.Advance
import Playthrough.Proofs.Task.Attendance

/-!
Contract: tasks of a driver never wait for each other in a circle.

Owns: who joins whom (`Joins`), what a move of a driver's world does about it (`Leads`), and that whoever joins
another task was made before it (`Untangled`).

Does not own: when tasks end.

A task leaves the slot before it is joined by one that cancels it, and the slot holds the newest task. So a task
of the driver only joins a newer one, and the slot's task is joined by nobody but operations that wait for the
driver.
-/

namespace Playthrough.Script

variable {ledger later : Ledger} {world between after : Setting} {id held other : TaskId}
variable {task : Task Log Unit Empty Unit}

/-! ## Who joins whom -/

/-- A task that has not ended will tell another one of its end. -/
def Joins (world : Setting) (id other : TaskId) : Prop :=
  ∃ task, world.tasks[other]? = some task ∧ task.isEnded = false ∧ id ∈ task.joiners

/-- An operation from outside that waits for the driver's task. -/
def Awaits (world : Setting) (id : TaskId) : Prop :=
  ∃ task, world.tasks[id]? = some task ∧ task.owner = none
    ∧ ∃ drivers remaining next, task.control = .run (.settle drivers remaining next)

theorem Joins.unended (joins : Joins world id other) : world.isUnended other = true := by
  obtain ⟨task, found, unended, -⟩ := joins
  simp [World.isUnended, found, unended]

theorem Joins.inside (joins : Joins world id other) : other < world.owners.length := by
  obtain ⟨task, found, -⟩ := joins
  rw [World.length_owners]
  exact (List.getElem?_eq_some_iff.mp found).1

/-- Whoever joins another task waits for its end. -/
theorem Joins.joining {acting : Option TaskId} (joins : Joins world id other)
    (orderly : world.Orderly acting) :
    ∃ task count, world.tasks[id]? = some task ∧ task.status = .joining (count + 1) := by
  obtain ⟨task, found, unended, member⟩ := joins
  exact orderly.joining_of_joiner found unended member

theorem Joins.not_acting (joins : Joins world id other) (balanced : world.Balanced) :
    world.running ≠ some id := by
  intro turn
  have orderly : world.Orderly (some id) := by
    rw [← turn]
    exact balanced
  obtain ⟨task, count, found, status⟩ := joins.joining orderly
  rw [orderly.ready_of_acting found] at status
  cases status

/-! ## Changes after which nobody else is joined -/

/-- Nobody joins another task anew, and whoever joined one still does unless that one has ended. -/
structure Loosens (world after : Setting) : Prop where
  unended : ∀ id, id < world.tasks.length → after.isUnended id = true → world.isUnended id = true
  fewer : ∀ id other, Joins after id other → Joins world id other
  kept : ∀ id other, Joins world id other → after.isUnended other = true → Joins after id other

namespace Loosens

theorem trans (first : Loosens world between) (second : Loosens between after)
    (longer : world.tasks.length ≤ between.tasks.length) : Loosens world after := by
  refine ⟨?_, fun id other joins => first.fewer id other (second.fewer id other joins), ?_⟩
  · intro id inside unended
    exact first.unended id inside (second.unended id (Nat.lt_of_lt_of_le inside longer) unended)
  · intro id other joins unended
    have inside : other < between.tasks.length := by
      refine Nat.lt_of_lt_of_le ?_ longer
      rw [← World.length_owners]
      exact joins.inside
    exact second.kept id other (first.kept id other joins (second.unended other inside unended)) unended

theorem refl (world : Setting) : Loosens world world :=
  ⟨fun _ _ unended => unended, fun _ _ joins => joins, fun _ _ joins _ => joins⟩

theorem modifyTask {change : Task Log Unit Empty Unit → Task Log Unit Empty Unit}
    (joiners : ∀ task, (change task).joiners = task.joiners)
    (unended : ∀ task, world.tasks[id]? = some task → (change task).isEnded = false →
      task.isEnded = false) : Loosens world (world.modifyTask id change) := by
  have found : ∀ other, (world.modifyTask id change).tasks[other]? =
      world.tasks[other]?.map fun task => if id = other then change task else task :=
    World.tasks_modifyTask world id change
  have back : ∀ {other : TaskId} {task : Task Log Unit Empty Unit}, world.tasks[other]? = some task →
      (if id = other then change task else task).isEnded = false → task.isEnded = false := by
    intro other task there still
    split at still
    · next same => exact unended task (by rw [same]; exact there) still
    · exact still
  have same : ∀ (other : TaskId) (task : Task Log Unit Empty Unit),
      (if id = other then change task else task).joiners = task.joiners := by
    intro other task
    split
    · exact joiners task
    · rfl
  refine ⟨?_, ?_, ?_⟩
  · intro other inside still
    have there : world.tasks[other]? = some world.tasks[other] := List.getElem?_eq_getElem inside
    simp only [World.isUnended, found other, there, Option.map_some, Bool.not_eq_true'] at still
    simp [World.isUnended, there, back there still]
  · rintro joiner other ⟨task, there, still, member⟩
    rw [found other] at there
    obtain ⟨old, before, rfl⟩ := Option.map_eq_some_iff.mp there
    rw [same] at member
    exact ⟨old, before, back before still, member⟩
  · rintro joiner other ⟨task, before, -, member⟩ still
    refine ⟨_, by rw [found other, before]; rfl, ?_, by rw [same]; exact member⟩
    simpa [World.isUnended, found other, before] using still

/-- The acting task changes what it goes on with. -/
theorem proceed (world : Setting) (id : TaskId) (control : Control Log Unit Empty Unit)
    (frames : List (Frame Log Unit Empty Unit)) : Loosens world (world.proceed id control frames) :=
  modifyTask (fun _ => rfl) fun _ _ unended => unended

/-- A task that has not ended waits for something else. -/
theorem restatus {status : Status Unit} (unended : world.isUnended id = true) :
    Loosens world (world.modifyTask id fun task => { task with status := status }) := by
  refine modifyTask (fun _ => rfl) ?_
  intro task found _
  simpa [World.isUnended, found] using unended

theorem to_tasks (loosens : Loosens world between) (same : after.tasks = between.tasks) :
    Loosens world after := by
  have joins : ∀ id other, Joins after id other ↔ Joins between id other := by
    intro id other
    rw [Joins, Joins, same]
  have unended : ∀ id, after.isUnended id = between.isUnended id := by
    intro id
    rw [World.isUnended, World.isUnended, same]
  refine ⟨?_, ?_, ?_⟩
  · intro id inside still
    exact loosens.unended id inside (by rwa [unended] at still)
  · intro id other before
    exact loosens.fewer id other ((joins id other).mp before)
  · intro id other before still
    exact (joins id other).mpr (loosens.kept id other before (by rwa [unended] at still))

theorem wake (unended : world.isUnended id = true) : Loosens world (world.wake id) :=
  (restatus unended).to_tasks rfl

theorem cancelTask (world : Setting) (held : TaskId) : Loosens world (world.cancelTask held) := by
  have marks : ∀ marked : Setting,
      Loosens marked (marked.modifyTask held fun task => { task with cancelPending := true }) :=
    fun _ => modifyTask (fun _ => rfl) fun _ _ unended => unended
  simp only [World.cancelTask]
  split
  · exact refl world
  · next task found =>
      split
      · exact refl world
      · next sleeping =>
          have dropped : Loosens world (world.dropWait held) := (refl world).to_tasks rfl
          refine (dropped.trans (marks _) (Nat.le_refl _)).trans (wake ?_) ?_
          · simp [World.isUnended, World.modifyTask, World.dropWait, found, Task.isEnded, sleeping]
          · simp [World.modifyTask, World.dropWait]
      · exact marks world

theorem displace (world : Setting) (id : TaskId) : Loosens world (world.displace () id) := by
  simp only [World.displace]
  split
  · split
    · exact refl world
    · exact cancelTask world _
  · exact refl world

/-- Tasks are added that nobody joins. -/
theorem append {new : List (Task Log Unit Empty Unit)} (tasks : after.tasks = world.tasks ++ new)
    (unjoined : ∀ task ∈ new, task.joiners = []) : Loosens world after := by
  have before : ∀ other, other < world.tasks.length → after.tasks[other]? = world.tasks[other]? := by
    intro other inside
    rw [tasks, List.getElem?_append_left inside]
  refine ⟨?_, ?_, ?_⟩
  · intro other inside unended
    rwa [World.isUnended, before other inside] at unended
  · rintro joiner other ⟨task, found, unended, member⟩
    by_cases inside : other < world.tasks.length
    · exact ⟨task, by rw [← before other inside]; exact found, unended, member⟩
    · rw [tasks, List.getElem?_append_right (Nat.le_of_not_lt inside)] at found
      rw [unjoined task (List.mem_of_getElem? found)] at member
      cases member
  · rintro joiner other ⟨task, found, unended, member⟩ _
    have inside : other < world.tasks.length := (List.getElem?_eq_some_iff.mp found).1
    exact ⟨task, by rw [before other inside]; exact found, unended, member⟩

theorem install (world : Setting) (body : Plan) : Loosens world (world.install () body) := by
  have tasks : (world.install () body).tasks = world.tasks ++ [Task.fresh (some ()) body] := rfl
  refine append tasks ?_
  intro task member
  rw [List.mem_singleton.mp member]
  rfl

end Loosens

/-! ### One task joins another one -/

/-- Whoever is joined after a task has joined another one was joined before, or is that one. -/
theorem joins_of_join {joiner : TaskId} (unended : world.isUnended joiner = true)
    (joins : Joins (world.join joiner held) id other) :
    Joins world id other ∨ id = joiner ∧ other = held := by
  have waits : Loosens world (world.modifyTask joiner fun task => { task with status := .joining 1 }) :=
    .restatus unended
  simp only [World.join] at joins
  split at joins
  · obtain ⟨task, found, still, member⟩ := joins
    rw [World.tasks_modifyTask] at found
    obtain ⟨old, before, rfl⟩ := Option.map_eq_some_iff.mp found
    by_cases same : held = other
    · rw [if_pos same] at still member
      rcases List.mem_append.mp member with already | new
      · exact .inl (waits.fewer id other ⟨old, before, still, already⟩)
      · exact .inr ⟨List.mem_singleton.mp new, same.symm⟩
    · rw [if_neg same] at still member
      exact .inl (waits.fewer id other ⟨old, before, still, member⟩)
  · exact .inl (waits.fewer id other joins)

/-- Whoever joined another task still does after somebody else has joined one. -/
theorem joins_join {joiner : TaskId} (unended : world.isUnended joiner = true)
    (joins : Joins world id other) : Joins (world.join joiner held) id other := by
  have still : (world.modifyTask joiner fun task => { task with status := .joining 1 }).isUnended other =
      true := by
    refine Eq.trans (World.isUnended_of_change (World.tasks_modifyTask _ _ _) ?_) joins.unended
    intro task found
    refine .ite ?_
    rintro rfl
    have goesOn : task.isEnded = false := by simpa [World.isUnended, found] using unended
    exact ⟨goesOn.symm, fun pending => pending, fun joiners => joiners⟩
  have waits : Joins (world.modifyTask joiner fun task => { task with status := .joining 1 }) id other :=
    (Loosens.restatus unended).kept id other joins still
  simp only [World.join]
  split
  · obtain ⟨task, found, goesOn, member⟩ := waits
    refine ⟨_, by rw [World.tasks_modifyTask, found]; rfl, ?_, ?_⟩
    · split <;> exact goesOn
    · split
      · exact List.mem_append_left _ member
      · exact member
  · exact waits

/-- A task that has not ended is joined by the one that has just joined it. -/
theorem joins_join_self {joiner : TaskId} (different : held ≠ joiner)
    (unended : world.isUnended held = true) : Joins (world.join joiner held) joiner held := by
  have still : (world.modifyTask joiner fun task => { task with status := .joining 1 }).isUnended held =
      true := by
    rw [World.isUnended, World.found_modifyTask_of_ne (Ne.symm different)]
    exact unended
  simp only [World.join, still, if_true]
  simp only [World.isUnended] at unended
  split at unended
  · next task found =>
      have goesOn : task.isEnded = false := by simpa using unended
      refine ⟨{ task with joiners := task.joiners ++ [joiner] }, ?_, goesOn, by simp⟩
      rw [World.tasks_modifyTask, World.found_modifyTask_of_ne (Ne.symm different), found]
      simp
  · cases unended

/-! ## What a step does -/

/-- A task that nobody gives the turn to and nobody cancels goes on as before, though it may wait for something
else. -/
def Spares (id : TaskId) (world after : Setting) : Prop :=
  ∀ task, world.tasks[id]? = some task → ∃ status, after.tasks[id]? = some { task with status := status }
    ∧ ∀ outcome, status = .ended outcome ↔ task.status = .ended outcome

/-- An operation from outside that comes to its end and tells nothing, whatever happens to others. -/
structure Steady (task : Task Log Unit Empty Unit) : Prop where
  courteous : Courteous task
  kept : task.cancelPending = false
  ends : ∀ outcome, task.status = .ended outcome → outcome = .finished none

/-- What a step does to who joins whom, and to operations from outside. -/
structure Leads (world after : Setting) : Prop where
  owners : world.owners <+: after.owners
  old : ∀ id, after.owners[id]? = some none →
    id < world.owners.length ∨ ∃ task, after.tasks[id]? = some task ∧ Steady task
  made : ∀ id, after.owners[id]? = some (some ()) →
    id < world.owners.length ∨ (after.holdings ()).slot = some id
  slot : ∀ held, (after.holdings ()).slot = some held →
    (world.holdings ()).slot = some held
      ∨ held = world.owners.length ∧ after.owners[held]? = some (some ())
  unended : ∀ id, id < world.tasks.length → after.isUnended id = true → world.isUnended id = true
  joined : ∀ id other, Joins after id other → Joins world id other
    ∨ (world.running = some id ∧ (world.holdings ()).slot = some other ∧ other ≠ id
      ∧ ((after.holdings ()).slot = none ∨ Awaits after id))
  kept : ∀ id other, Joins world id other → after.isUnended other = true → Joins after id other
  spares : ∀ id, world.running ≠ some id → (world.holdings ()).slot ≠ some id →
    (∀ task, world.tasks[id]? = some task → task.cancelPending = false) → Spares id world after
  acts : ∀ id task, world.running = some id → world.tasks[id]? = some task → task.owner = none →
    Steady task → ∃ later, after.tasks[id]? = some later ∧ Steady later

theorem Spares.of_found (same : after.tasks[id]? = world.tasks[id]?) : Spares id world after := by
  intro task found
  exact ⟨task.status, by rw [same]; exact found, fun _ => Iff.rfl⟩

/-- A task waits for something else. -/
theorem Spares.restatus {status : Status Unit} (unended : world.isUnended id = true)
    (goesOn : ∀ outcome, status ≠ .ended outcome)
    (tasks : after.tasks = world.tasks.modify id fun task => { task with status := status }) :
    Spares id world after := by
  intro task found
  refine ⟨status, by rw [tasks, List.getElem?_modify_eq, found]; rfl, ?_⟩
  intro outcome
  refine ⟨fun ended => absurd ended (goesOn outcome), fun ended => ?_⟩
  simp [World.isUnended, found, Task.isEnded, ended] at unended

/-- A task that learns of the end of another one goes on waiting, or is ready. -/
theorem restatus_of_noteJoined {count : Nat} (found : world.tasks[id]? = some task)
    (waiting : task.status = .joining (count + 1)) :
    ∃ status : Status Unit, (∀ outcome, status ≠ .ended outcome) ∧ (world.noteJoined id).tasks =
      world.tasks.modify id fun task => { task with status := status } := by
  cases count with
  | zero =>
      refine ⟨.ready, nofun, ?_⟩
      rw [World.noteJoined_of_one found waiting, modify_eq_set found]
  | succ count =>
      refine ⟨.joining (count + 1), nofun, ?_⟩
      rw [World.noteJoined_of_more found waiting, modify_eq_set found]

/-- Tasks only change in what does not concern who joins whom. -/
theorem Leads.of_loosens (loosens : Loosens world after) (owners : after.owners = world.owners)
    (slot : ∀ held, (after.holdings ()).slot = some held → (world.holdings ()).slot = some held)
    (spares : ∀ id, world.running ≠ some id → (world.holdings ()).slot ≠ some id →
      (∀ task, world.tasks[id]? = some task → task.cancelPending = false) → Spares id world after)
    (acts : ∀ id task, world.running = some id → world.tasks[id]? = some task → task.owner = none →
      Steady task → ∃ later, after.tasks[id]? = some later ∧ Steady later) : Leads world after where
  owners := owners ▸ List.prefix_rfl
  old id own := by
    rw [owners] at own
    exact .inl (List.getElem?_eq_some_iff.mp own).1
  made id own := by
    rw [owners] at own
    exact .inl (List.getElem?_eq_some_iff.mp own).1
  slot held holding := .inl (slot held holding)
  unended := loosens.unended
  joined id other joins := .inl (loosens.fewer id other joins)
  kept := loosens.kept
  spares := spares
  acts := acts

/-- The acting operation goes on with the next program. -/
theorem Steady.next {program next : Plan} (steady : Steady task) (ready : task.status = .ready)
    (running : task.control = .run program) (goesOn : Unfailing program → Unfailing next) :
    Steady (task.on (.run next) task.frames) := by
  refine ⟨steady.courteous.proceed ?_, steady.kept, ?_⟩
  · intro other same
    rw [running] at same
    cases same
    exact goesOn
  · intro outcome ended
    rw [show task.status = .ended outcome from ended] at ready
    cases ready

/-- A turn in which nobody acts begins or is prepared: one task changes that then goes on. -/
theorem Leads.of_quiet (id : TaskId) {change : Task Log Unit Empty Unit → Task Log Unit Empty Unit}
    (noTurn : world.running = none) (unended : world.isUnended id = true)
    (tasks : after.tasks = world.tasks.modify id change) (holdings : after.holdings = world.holdings)
    (joiners : ∀ task, (change task).joiners = task.joiners)
    (owner : ∀ task, (change task).owner = task.owner)
    (own : (∀ task, world.tasks[id]? = some task → task.cancelPending = false) → Spares id world after) :
    Leads world after := by
  have loosens : Loosens world (world.modifyTask id change) := by
    refine .modifyTask joiners ?_
    intro task found _
    simpa [World.isUnended, found] using unended
  refine .of_loosens (loosens.to_tasks tasks) ?_ ?_ ?_ ?_
  · apply List.ext_getElem?
    intro place
    simp only [World.owners, World.bare, List.getElem?_map, tasks, List.getElem?_modify]
    cases world.tasks[place]? with
    | none => rfl
    | some task =>
        by_cases same : id = place
        · simp [same, Task.bare, owner task]
        · simp [same]
  · intro held holding
    rwa [holdings] at holding
  · intro other _ _ kept
    by_cases same : other = id
    · subst same
      exact own kept
    · refine .of_found ?_
      rw [tasks]
      simp [Ne.symm same]
  · intro other task turn
    rw [noTurn] at turn
    cases turn

/-- The acting task gives the driver a new one. -/
theorem Leads.of_spawn {body next : Plan} (turn : world.running = some id)
    (found : world.tasks[id]? = some task) (ready : task.status = .ready)
    (running : task.control = .run (.spawn () body next)) :
    Leads world (((world.displace () id).install () body).proceed id (.run next) task.frames) := by
  let displaced := world.displace () id
  have length : displaced.tasks.length = world.tasks.length := World.length_tasks_displace world () id
  have inside : id < displaced.tasks.length := by
    rw [length]
    exact (List.getElem?_eq_some_iff.mp found).1
  have owners : ((displaced.install () body).proceed id (.run next) task.frames).owners =
      world.owners ++ [some ()] := by
    rw [World.owners_proceed, World.owners, World.bare_install, World.bare_displace, List.map_append]
    rfl
  have slot : (((displaced.install () body).proceed id (.run next) task.frames).holdings ()).slot =
      some world.owners.length := by
    rw [World.length_owners, ← length]
    rfl
  have loosens : Loosens world ((displaced.install () body).proceed id (.run next) task.frames) := by
    refine ((Loosens.displace world id).trans (.install displaced body) (Nat.le_of_eq length.symm)).trans
      (.proceed _ _ _ _) ?_
    rw [World.length_tasks_install, length]
    exact Nat.le_succ _
  refine ⟨?_, ?_, ?_, ?_, loosens.unended, fun id other joins => .inl (loosens.fewer id other joins),
    loosens.kept, ?_, ?_⟩
  · rw [owners]
    exact List.prefix_append _ _
  · intro other own
    rw [owners, List.getElem?_append] at own
    split at own
    · next inside => exact .inl inside
    · cases List.mem_singleton.mp (List.mem_of_getElem? own)
  · intro other own
    by_cases inside : other < world.owners.length
    · exact .inl inside
    · have last : other = world.owners.length := by
        have bound := (List.getElem?_eq_some_iff.mp own).1
        rw [owners, List.length_append, List.length_singleton] at bound
        omega
      exact .inr (by rw [slot, last])
  · intro held holding
    have same : held = world.owners.length := by
      rw [slot] at holding
      exact (Option.some.inj holding).symm
    refine .inr ⟨same, ?_⟩
    rw [owners, same]
    exact List.getElem?_concat_length
  · intro other idle unheld _ someone there
    have different : id ≠ other := by
      rintro rfl
      exact idle turn
    have insideOther : other < displaced.tasks.length := by
      rw [length]
      exact (List.getElem?_eq_some_iff.mp there).1
    have others : ((displaced.install () body).proceed id (.run next) task.frames).tasks[other]? =
        (displaced.install () body).tasks[other]? := World.found_modifyTask_of_ne different _
    refine Spares.of_found ?_ someone there
    rw [others, World.found_install insideOther]
    exact World.found_displace_of_ne (.inr unheld)
  · intro other someone acting there _ steady
    cases turn.symm.trans acting
    cases found.symm.trans there
    refine ⟨_, World.found_proceed ?_ _ _, steady.next ready running fun unfailing => unfailing⟩
    rw [World.found_install inside, World.found_displace_of_ne (.inl rfl)]
    exact found

/-- The acting task takes another one from the driver, cancels it and joins it. -/
theorem Leads.of_cancel {next : Plan} (turn : world.running = some id)
    (found : world.tasks[id]? = some task) (ready : task.status = .ready)
    (running : task.control = .run (.cancel () next)) (holding : (world.holdings ()).slot = some held)
    (different : held ≠ id) :
    Leads world ((((world.setHolding () { slot := none, live := none }).proceed id (.run next)
      task.frames).cancelTask held).join id held).yieldTurn := by
  let emptied := world.setHolding () { slot := none, live := none }
  let cancelled := (emptied.proceed id (.run next) task.frames).cancelTask held
  have length : world.tasks.length ≤ (emptied.proceed id (.run next) task.frames).tasks.length := by
    simp [emptied, World.proceed, World.modifyTask, World.setHolding]
  have loosens : Loosens world cancelled := by
    have taken : Loosens world emptied := (Loosens.refl world).to_tasks rfl
    have proceeds := taken.trans (.proceed emptied id (.run next) task.frames) (Nat.le_refl _)
    exact proceeds.trans (.cancelTask _ held) length
  have there : cancelled.tasks[id]? = some (task.on (.run next) task.frames) := by
    rw [World.found_cancelTask_of_ne different]
    exact World.found_proceed found _ _
  have still : cancelled.isUnended id = true := by
    have awake : (task.on (.run next) task.frames).status = .ready := ready
    simp [World.isUnended, there, Task.isEnded, awake]
  have longer : world.tasks.length ≤ cancelled.tasks.length := by
    rw [World.length_tasks_cancelTask]
    exact length
  have slot : ((cancelled.join id held).yieldTurn.holdings ()).slot = none := by
    show ((cancelled.join id held).holdings ()).slot = none
    rw [World.holdings_join, World.holdings_cancelTask]
    rfl
  have owners : (cancelled.join id held).yieldTurn.owners = world.owners := by
    rw [World.owners_of_bare (World.bare_yieldTurn.trans (World.bare_join.trans World.bare_cancelTask))]
    exact World.owners_proceed _ _
  have sameUnended : ∀ other, (cancelled.join id held).yieldTurn.isUnended other =
      cancelled.isUnended other := by
    intro other
    by_cases same : other = id
    · subst same
      exact (World.isUnended_join_self still).trans still.symm
    · exact World.isUnended_join same
  refine ⟨owners ▸ List.prefix_rfl, ?_, ?_, ?_, ?_, ?_, ?_, ?_, ?_⟩
  · intro other own
    rw [owners] at own
    exact .inl (List.getElem?_eq_some_iff.mp own).1
  · intro other own
    rw [owners] at own
    exact .inl (List.getElem?_eq_some_iff.mp own).1
  · intro other holds
    rw [slot] at holds
    cases holds
  · intro other inside unended
    rw [sameUnended] at unended
    exact loosens.unended other inside unended
  · intro joiner other joins
    rcases joins_of_join still joins with before | ⟨rfl, rfl⟩
    · exact .inl (loosens.fewer joiner other before)
    · exact .inr ⟨turn, holding, different, .inl slot⟩
  · intro joiner other joins unended
    rw [sameUnended] at unended
    exact joins_join still (loosens.kept joiner other joins unended)
  · intro other idle unheld _
    have apart : id ≠ other := by
      rintro rfl
      exact idle turn
    have unlike : held ≠ other := by
      rintro rfl
      exact unheld holding
    refine .of_found ?_
    show (cancelled.join id held).tasks[other]? = _
    rw [World.found_join_of_ne apart unlike, World.found_cancelTask_of_ne unlike]
    exact World.found_modifyTask_of_ne apart _
  · intro other someone acting before _ steady
    cases turn.symm.trans acting
    cases found.symm.trans before
    refine ⟨_, World.found_join_self there different, ?_⟩
    have goesOn : Steady (task.on (.run next) task.frames) :=
      steady.next ready running fun unfailing => unfailing
    refine ⟨⟨goesOn.courteous.alone, goesOn.courteous.unfailing⟩, steady.kept, ?_⟩
    intro outcome ended
    cases ended

/-- An operation from outside joins the driver's task. -/
theorem Leads.of_join {drivers remaining : List Unit} {next : Plan} (turn : world.running = some id)
    (found : world.tasks[id]? = some task) (ready : task.status = .ready)
    (running : task.control = .run (.settle drivers remaining next)) (outside : task.owner = none)
    (holding : (world.holdings ()).slot = some held) (different : held ≠ id) :
    Leads world (world.join id held).yieldTurn := by
  have still : world.isUnended id = true := by
    simp [World.isUnended, found, Task.isEnded, ready]
  have owners : (world.join id held).yieldTurn.owners = world.owners :=
    World.owners_of_bare (World.bare_yieldTurn.trans World.bare_join)
  have slot : ((world.join id held).yieldTurn.holdings ()).slot = (world.holdings ()).slot := by
    show ((world.join id held).holdings ()).slot = _
    rw [World.holdings_join]
  have sameUnended : ∀ other, (world.join id held).yieldTurn.isUnended other = world.isUnended other := by
    intro other
    by_cases same : other = id
    · subst same
      exact (World.isUnended_join_self still).trans still.symm
    · exact World.isUnended_join same
  have there : (world.join id held).yieldTurn.tasks[id]? = some { task with status := .joining 1 } :=
    World.found_join_self found different
  refine ⟨owners ▸ List.prefix_rfl, ?_, ?_, ?_, ?_, ?_, ?_, ?_, ?_⟩
  · intro other own
    rw [owners] at own
    exact .inl (List.getElem?_eq_some_iff.mp own).1
  · intro other own
    rw [owners] at own
    exact .inl (List.getElem?_eq_some_iff.mp own).1
  · intro other holds
    rw [slot] at holds
    exact .inl holds
  · intro other _ unended
    rwa [sameUnended] at unended
  · intro joiner other joins
    rcases joins_of_join still joins with before | ⟨rfl, rfl⟩
    · exact .inl before
    · exact .inr ⟨turn, holding, different, .inr ⟨_, there, outside, drivers, remaining, next, running⟩⟩
  · intro joiner other joins _
    exact joins_join still joins
  · intro other idle unheld _
    have apart : id ≠ other := by
      rintro rfl
      exact idle turn
    have unlike : held ≠ other := by
      rintro rfl
      exact unheld holding
    exact .of_found (World.found_join_of_ne apart unlike)
  · intro other someone acting before _ steady
    cases turn.symm.trans acting
    cases found.symm.trans before
    refine ⟨_, there, ⟨steady.courteous.alone, steady.courteous.unfailing⟩, steady.kept, ?_⟩
    intro outcome ended
    cases ended

/-- Every step of a driver's world. -/
theorem Leads.of_advances (balanced : world.Balanced)
    (owned : ∀ held, (world.holdings ()).slot = some held → world.owners[held]? = some (some ()))
    (advances : Advances world after) : Leads world after := by
  have elsewhere : ∀ {id acting : TaskId}, world.running = some acting → world.running ≠ some id →
      acting ≠ id := by
    rintro id acting turn idle rfl
    exact idle turn
  have ready : ∀ {id : TaskId} {task : Task Log Unit Empty Unit}, world.running = some id →
      world.tasks[id]? = some task → task.status = .ready := by
    intro id task turn found
    have acting : world.Orderly (some id) := by
      rw [← turn]
      exact balanced
    exact acting.ready_of_acting found
  have goesOn : ∀ {id : TaskId} {task : Task Log Unit Empty Unit}, world.running = some id →
      world.tasks[id]? = some task → world.isUnended id = true := by
    intro id task turn found
    simp [World.isUnended, found, Task.isEnded, ready turn found]
  have only : ∀ {id other : TaskId} {task someone : Task Log Unit Empty Unit}, world.running = some id →
      world.tasks[id]? = some task → world.running = some other → world.tasks[other]? = some someone →
      other = id ∧ someone = task := by
    intro id other task someone turn found acting there
    cases turn.symm.trans acting
    cases found.symm.trans there
    exact ⟨rfl, rfl⟩
  cases advances with
  | rests idle =>
      refine .of_loosens (.refl world) rfl (fun _ same => same) (fun id _ _ _ => .of_found rfl) ?_
      intro id task turn found _ steady
      exact ⟨task, found, steady⟩
  | @goesOn log holdings id task control frames turn found sameSlot less courteous =>
      have changed : Loosens world ({ world with store := log, holdings := holdings } : Setting) :=
        (Loosens.refl world).to_tasks rfl
      refine .of_loosens (changed.trans (.proceed _ _ _ _) (Nat.le_refl _)) ?_ ?_ ?_ ?_
      · exact World.owners_proceed _ _
      · intro held holding
        rw [← sameSlot]
        exact holding
      · intro other idle _ _
        exact .of_found (World.found_modifyTask_of_ne (elsewhere turn idle) _)
      · intro other someone acting there _ steady
        obtain ⟨rfl, rfl⟩ := only turn found acting there
        refine ⟨_, World.found_proceed found _ _, courteous steady.courteous, steady.kept, ?_⟩
        exact steady.ends
  | @ends id task outcome turn found courteous =>
      have isOver : Loosens world (world.modifyTask id fun task => { task with status := .ended outcome }) :=
        .restatus (goesOn turn found)
      refine .of_loosens (isOver.to_tasks rfl) (World.owners_of_bare (World.bare_finish _ _))
        (fun _ same => same) ?_ ?_
      · intro other idle _ _
        exact .of_found (World.found_modifyTask_of_ne (elsewhere turn idle) _)
      · intro other someone acting there _ steady
        obtain ⟨rfl, rfl⟩ := only turn found acting there
        refine ⟨{ someone with status := .ended outcome }, ?_,
          ⟨steady.courteous.alone, steady.courteous.unfailing⟩, steady.kept, ?_⟩
        · show (world.tasks.modify other _)[other]? = _
          rw [List.getElem?_modify_eq, there]
          rfl
        · rintro _ ⟨⟩
          exact courteous steady.courteous
  | @sleeps id task duration next turn found running owned =>
      have proceeds := Loosens.proceed world id (.run (.check next)) task.frames
      have still : (world.proceed id (.run (.check next)) task.frames).isUnended id = true := by
        rw [World.isUnended_proceed]
        exact goesOn turn found
      have length : world.tasks.length ≤
          (world.proceed id (.run (.check next)) task.frames).tasks.length := by
        simp [World.proceed, World.modifyTask]
      have asleep : Loosens world ((world.proceed id (.run (.check next)) task.frames).modifyTask id
          fun task => { task with status := .sleeping }) := proceeds.trans (.restatus still) length
      refine .of_loosens (asleep.to_tasks rfl) ?_ (fun _ same => same) ?_ ?_
      · exact (World.owners_of_bare (World.bare_sleep machine duration)).trans (World.owners_proceed _ _)
      · intro other idle _ _
        refine .of_found ?_
        exact (World.found_modifyTask_of_ne (elsewhere turn idle) _).trans
          (World.found_modifyTask_of_ne (elsewhere turn idle) _)
      · intro other someone acting there outside _
        obtain ⟨rfl, rfl⟩ := only turn found acting there
        rw [owned] at outside
        cases outside
  | @spawns id task body next turn found running => exact .of_spawn turn found (ready turn found) running
  | @vacates id task next turn found running alone =>
      have changed : Loosens world (world.setHolding () { slot := none, live := none }) :=
        (Loosens.refl world).to_tasks rfl
      refine .of_loosens (changed.trans (.proceed _ _ _ _) (Nat.le_refl _)) ?_ ?_ ?_ ?_
      · exact World.owners_proceed _ _
      · intro held holding
        cases holding
      · intro other idle _ _
        exact .of_found (World.found_modifyTask_of_ne (elsewhere turn idle) _)
      · intro other someone acting there _ steady
        obtain ⟨rfl, rfl⟩ := only turn found acting there
        exact ⟨_, World.found_proceed found _ _,
          steady.next (ready turn found) running fun unfailing => unfailing⟩
  | @cancels id held task next turn found running holding different =>
      exact .of_cancel turn found (ready turn found) running holding different
  | @joins id held task drivers remaining next turn found running outside holding unended =>
      refine .of_join turn found (ready turn found) running outside holding ?_
      rintro rfl
      have inside := owned held holding
      rw [World.owner_of_found found, outside] at inside
      cases inside
  | @takes id queue noTurn queued =>
      obtain ⟨task, found, waiting⟩ := World.Orderly.ready_of_queued balanced
        (show Turn.run id ∈ world.queue by simp [queued])
      refine .of_quiet id noTurn ?_ rfl rfl ?_ ?_ ?_
      · simp [World.isUnended, found, Task.isEnded, waiting]
      · intro task
        split <;> rfl
      · intro task
        split <;> rfl
      · intro kept
        refine .of_found ?_
        simp [World.beginTurn, World.modifyTask, found, kept task found]
  | @learns id queue noTurn queued =>
      obtain ⟨task, count, found, waiting⟩ := World.Orderly.joining_of_queued balanced
        (show Turn.joined id ∈ world.queue by simp [queued])
      have unended : world.isUnended id = true := by
        simp [World.isUnended, found, Task.isEnded, waiting]
      have there : ({ world with queue := queue } : Setting).tasks[id]? = some task := found
      obtain ⟨status, goesOn, tasks⟩ := restatus_of_noteJoined there waiting
      refine .of_quiet _ noTurn unended tasks World.holdings_noteJoined (fun _ => rfl) (fun _ => rfl) ?_
      exact fun _ => .restatus unended goesOn tasks

/-- Operations begin. -/
theorem Leads.of_append {new : List (Task Log Unit Empty Unit)} (tasks : after.tasks = world.tasks ++ new)
    (holdings : after.holdings = world.holdings)
    (fresh : ∀ task ∈ new, task.joiners = [] ∧ task.owner = none ∧ Steady task) : Leads world after := by
  have loosens : Loosens world after := .append tasks fun task member => (fresh task member).1
  have before : ∀ {other : TaskId} {task : Task Log Unit Empty Unit}, world.tasks[other]? = some task →
      after.tasks[other]? = world.tasks[other]? := by
    intro other task found
    rw [tasks, List.getElem?_append_left (List.getElem?_eq_some_iff.mp found).1]
  have owners : after.owners = world.owners ++ new.map fun task => task.bare.owner := by
    simp [World.owners, World.bare, tasks]
  have newTask : ∀ {other : TaskId} {owner : Option Unit}, after.owners[other]? = some owner →
      ¬other < world.owners.length → ∃ task ∈ new, after.tasks[other]? = some task ∧ owner = task.owner := by
    intro other owner own outside
    have beyond := Nat.le_of_not_lt outside
    rw [owners, List.getElem?_append_right beyond, List.getElem?_map] at own
    obtain ⟨task, found, same⟩ := Option.map_eq_some_iff.mp own
    rw [World.length_owners] at beyond found
    refine ⟨task, List.mem_of_getElem? found, ?_, same.symm⟩
    rw [tasks, List.getElem?_append_right beyond]
    exact found
  refine ⟨owners ▸ List.prefix_append _ _, ?_, ?_, ?_, loosens.unended,
    fun id other joins => .inl (loosens.fewer id other joins), loosens.kept, ?_, ?_⟩
  · intro other own
    refine or_iff_not_imp_left.mpr fun outside => ?_
    obtain ⟨task, member, found, -⟩ := newTask own outside
    exact ⟨task, found, (fresh task member).2.2⟩
  · intro other own
    refine .inl (Decidable.byContradiction fun outside => ?_)
    obtain ⟨task, member, -, same⟩ := newTask own outside
    rw [(fresh task member).2.1] at same
    cases same
  · intro held holding
    rw [holdings] at holding
    exact .inl holding
  · intro other _ _ _ task found
    exact Spares.of_found (before found) task found
  · intro other task _ found _ steady
    exact ⟨task, by rw [before found]; exact found, steady⟩

theorem Request.steady_fresh (request : Request) : Steady (Task.fresh none request.plan) :=
  ⟨⟨rfl, request.plan, rfl, request.unfailing_plan⟩, rfl, nofun⟩

/-- Every move of a driver's world. -/
theorem Leads.of_moves (regular : Regular ledger world)
    (owned : ∀ held, (world.holdings ()).slot = some held → world.owners[held]? = some (some ()))
    (moves : Moves ledger world later after) : Leads world after := by
  cases moves with
  | begin noTurn request =>
      have tasks : (world.begin request.plan).2.tasks = world.tasks ++ [Task.fresh none request.plan] := rfl
      refine .of_append tasks rfl ?_
      intro task member
      rw [List.mem_singleton.mp member]
      exact ⟨rfl, rfl, request.steady_fresh⟩
  | beginAll noTurn requests =>
      have tasks : (world.beginAll (requests.map Request.plan)).2.tasks =
          world.tasks ++ (requests.map Request.plan).map (Task.fresh none) := by
        rw [World.beginAll_eq]
      refine .of_append tasks (by rw [World.beginAll_eq]) ?_
      intro task member
      obtain ⟨plan, asked, rfl⟩ := List.mem_map.mp member
      obtain ⟨request, -, rfl⟩ := List.mem_map.mp asked
      exact ⟨rfl, rfl, request.steady_fresh⟩
  | step => exact .of_advances regular.balanced owned regular.advances
  | release noTurn position wait =>
      obtain ⟨sleeper, held, rfl⟩ := World.release?_eq_some.mp wait
      obtain ⟨task, found, sleeping⟩ := regular.balanced.sleeping_of_wait (List.mem_of_getElem? held)
      have unended : world.isUnended sleeper.task = true := by
        simp [World.isUnended, found, Task.isEnded, sleeping]
      have awake : ∀ outcome, (.ready : Status Unit) ≠ .ended outcome := by simp
      exact .of_quiet _ noTurn unended rfl rfl (fun _ => rfl) (fun _ => rfl)
        fun _ => .restatus unended awake rfl

/-! ## Nobody waits in a circle -/

/-- Tasks of the driver join newer ones; the newest one is in the slot, if any is, and operations from outside
that join it wait for the driver; operations go on whatever happens. -/
structure Untangled (world : Setting) : Prop where
  owned : ∀ id other, Joins world id other → world.owners[other]? = some (some ())
  earlier : ∀ id other, Joins world id other → world.owners[id]? = some (some ()) → id < other
  slot : ∀ held, (world.holdings ()).slot = some held → world.owners[held]? = some (some ())
  newest : ∀ id held, (world.holdings ()).slot = some held → world.owners[id]? = some (some ()) → id ≤ held
  awaited : ∀ id held, (world.holdings ()).slot = some held → Joins world id held → Awaits world id
  outside : ∀ (id : TaskId) (task : Task Log Unit Empty Unit), world.tasks[id]? = some task →
    task.owner = none → Steady task

theorem Untangled.initial : Untangled Script.initial := by
  refine ⟨?_, ?_, nofun, nofun, nofun, nofun⟩
  · rintro id other ⟨task, found, -⟩
    cases found
  · rintro id other ⟨task, found, -⟩
    cases found

/-- Whoever made a task is not forgotten. -/
theorem Leads.owner_after {owner : Option Unit} (leads : Leads world after)
    (own : world.owners[id]? = some owner) : after.owners[id]? = some owner := by
  obtain ⟨more, same⟩ := leads.owners
  rw [← same, List.getElem?_append_left (List.getElem?_eq_some_iff.mp own).1]
  exact own

theorem Leads.owner_before {owner : Option Unit} (leads : Leads world after)
    (own : after.owners[id]? = some owner) (inside : id < world.owners.length) :
    world.owners[id]? = some owner := by
  obtain ⟨more, same⟩ := leads.owners
  rwa [← same, List.getElem?_append_left inside] at own

/-- An operation from outside that does not act is left alone. -/
theorem Untangled.spared (untangled : Untangled world) (leads : Leads world after)
    (found : world.tasks[id]? = some task) (outside : task.owner = none) (idle : world.running ≠ some id) :
    Spares id world after := by
  refine leads.spares id idle ?_ ?_
  · intro holding
    have own := untangled.slot id holding
    rw [World.owner_of_found found, outside] at own
    cases own
  · intro other there
    rw [found] at there
    cases there
    exact (untangled.outside id task found outside).kept

theorem Untangled.of_leads (untangled : Untangled world) (balanced : world.Balanced)
    (leads : Leads world after) : Untangled after := by
  have inside : ∀ {id : TaskId}, world.running = some id → id < world.owners.length := by
    intro id turn
    have orderly : world.Orderly (some id) := by
      rw [← turn]
      exact balanced
    obtain ⟨task, found, -⟩ := orderly.acts
    rw [World.length_owners]
    exact (List.getElem?_eq_some_iff.mp found).1
  have joining : ∀ {id other : TaskId}, Joins world id other → id < world.owners.length := by
    intro id other joins
    obtain ⟨task, count, found, -⟩ := joins.joining balanced
    rw [World.length_owners]
    exact (List.getElem?_eq_some_iff.mp found).1
  refine ⟨?_, ?_, ?_, ?_, ?_, ?_⟩
  · intro id other joins
    rcases leads.joined id other joins with before | ⟨-, holding, -, -⟩
    · exact leads.owner_after (untangled.owned id other before)
    · exact leads.owner_after (untangled.slot other holding)
  · intro id other joins own
    rcases leads.joined id other joins with before | ⟨turn, holding, different, -⟩
    · exact untangled.earlier id other before (leads.owner_before own (joining before))
    · have least := untangled.newest id other holding (leads.owner_before own (inside turn))
      exact Nat.lt_of_le_of_ne least (Ne.symm different)
  · intro held holding
    rcases leads.slot held holding with before | ⟨-, own⟩
    · exact leads.owner_after (untangled.slot held before)
    · exact own
  · intro id held holding own
    rcases leads.slot held holding with before | ⟨last, -⟩
    · rcases leads.made id own with old | new
      · exact untangled.newest id held before (leads.owner_before own old)
      · rw [holding] at new
        exact Nat.le_of_eq (Option.some.inj new).symm
    · rcases leads.made id own with old | new
      · rw [last]
        exact Nat.le_of_lt old
      · rw [holding] at new
        exact Nat.le_of_eq (Option.some.inj new).symm
  · intro id held holding joins
    rcases leads.joined id held joins with before | ⟨-, -, -, empty | awaits⟩
    · rcases leads.slot held holding with sameSlot | ⟨last, -⟩
      · obtain ⟨task, found, outside, waits⟩ := untangled.awaited id held sameSlot before
        obtain ⟨status, later, -⟩ := untangled.spared leads found outside
          (before.not_acting balanced) task found
        exact ⟨_, later, outside, waits⟩
      · have earlier := before.inside
        rw [last] at earlier
        exact absurd earlier (Nat.lt_irrefl _)
    · rw [holding] at empty
      cases empty
    · exact awaits
  · intro id task found outside
    have own : after.owners[id]? = some none := by
      rw [World.owner_of_found found, outside]
    rcases leads.old id own with old | ⟨later, there, steady⟩
    · have ownBefore := leads.owner_before own old
      rw [World.length_owners] at old
      have there : world.tasks[id]? = some world.tasks[id] := List.getElem?_eq_getElem old
      have outsideBefore : world.tasks[id].owner = none := by
        rw [World.owner_of_found there] at ownBefore
        exact Option.some.inj ownBefore
      have steady := untangled.outside id _ there outsideBefore
      by_cases turn : world.running = some id
      · obtain ⟨later, now, goesOn⟩ := leads.acts id _ turn there outsideBefore steady
        rw [found] at now
        cases now
        exact goesOn
      · obtain ⟨status, now, ends⟩ := untangled.spared leads there outsideBefore turn _ there
        rw [found] at now
        cases now
        refine ⟨⟨steady.courteous.alone, steady.courteous.unfailing⟩, steady.kept, ?_⟩
        intro outcome ended
        exact steady.ends outcome ((ends outcome).mp ended)
    · rw [found] at there
      cases there
      exact steady

theorem Untangled.of_moves (untangled : Untangled world) (regular : Regular ledger world)
    (moves : Moves ledger world later after) : Untangled after :=
  untangled.of_leads regular.balanced (.of_moves regular untangled.slot moves)

theorem Untangled.of_reaches (reaches : Reaches ledger world) : Untangled world := by
  induction reaches with
  | initial => exact initial
  | move before moves inductionHypothesis => exact inductionHypothesis.of_moves (.of_reaches before) moves

/-- In a driver's world at rest nobody that the driver made goes on but the task in the slot. The induction is
from the newest task to the oldest one: whoever waits for another task waits for a newer one. -/
theorem Untangled.held_of_idle (untangled : Untangled world) (regular : Regular ledger world)
    (idle : world.isIdle = true) (own : world.owners[id]? = some (some ()))
    (unended : world.isUnended id = true) : (world.holdings ()).slot = some id := by
  obtain ⟨noTurn, quiet⟩ : world.running = none ∧ world.queue = [] := by
    simpa [World.isIdle] using idle
  have orderly : world.Orderly none := by
    rw [← noTurn]
    exact regular.balanced
  induction older : world.owners.length - id using Nat.strongRecOn generalizing id with
  | ind _ inductionHypothesis =>
  by_cases asleep : ∃ wait ∈ world.waits, wait.task = id
  · obtain ⟨wait, member, rfl⟩ := asleep
    have permits := regular.accounted.waits wait member
    exact regular.accounted.slot _ ((regular.accounted.live _).mpr permits)
  · have awake : ∀ wait ∈ world.waits, wait.task ≠ id := fun wait member same =>
      asleep ⟨wait, member, same⟩
    have inside : id < world.tasks.length := by
      rw [← World.length_owners]
      exact (List.getElem?_eq_some_iff.mp own).1
    have found : world.tasks[id]? = some world.tasks[id] := List.getElem?_eq_getElem inside
    have goesOn : world.tasks[id].isEnded = false := by
      simpa [World.isUnended, found] using unended
    obtain ⟨other, someone, there, someoneGoesOn, member⟩ :=
      orderly.awaits_somebody quiet awake found goesOn
    have joins : Joins world id other := ⟨someone, there, someoneGoesOn, member⟩
    have newer := untangled.earlier id other joins own
    have holding : (world.holdings ()).slot = some other := by
      refine inductionHypothesis (world.owners.length - other) ?_ (untangled.owned id other joins)
        joins.unended rfl
      rw [← older]
      exact Nat.sub_lt_sub_left (Nat.lt_trans newer joins.inside) newer
    obtain ⟨waiting, known, outside, -⟩ := untangled.awaited id other holding joins
    rw [World.owner_of_found known, outside] at own
    cases own

end Playthrough.Script
