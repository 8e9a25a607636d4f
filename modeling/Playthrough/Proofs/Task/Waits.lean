import Playthrough.Proofs.Task.Bare
import Playthrough.Proofs.Task.Conduct

/-!
Contract: the waits that drivers have begun.

Owns: the waits of each driver, in order (`waitsOf`), what moves add to them (`Begins`), and the account
of them that whole turns keep (`Noted`).

Does not own: why anybody waits.

A wait belongs to the driver of the task that began it. Operations from outside belong to nobody, so
whatever they do, no driver's account changes.
-/

namespace Playthrough

/-- A wait as it is noted down: how long it lasts and what was shown when it began. -/
abbrev Pause := Duration × List Indicator

variable {Store Driver Procedure Answer : Type}

/-- The waits that the tasks of a driver have begun, the oldest first. -/
def World.waitsOf [DecidableEq Driver] (world : World Store Driver Procedure Answer) (driver : Driver) :
    List Pause :=
  world.begun.filterMap fun wait =>
    if world.owners[wait.task]? = some (some driver) then some (wait.duration, wait.shown) else none

/-- A wait, noted down. -/
def Wait.pause (wait : Wait) : Pause := (wait.duration, wait.shown)

namespace World

variable {machine : Machine Store Driver Procedure Answer}
variable {world before between after : World Store Driver Procedure Answer} {id held : TaskId}
variable {task : Task Store Driver Procedure Answer} {news more : List Wait}

/-! ## What moves add -/

/-- Beside new tasks, only waits of one task are added to a world. -/
structure Begins (id : TaskId) (news : List Wait) (before after : World Store Driver Procedure Answer) :
    Prop where
  owners : before.owners <+: after.owners
  begun : after.begun = before.begun ++ news
  mine : ∀ wait ∈ news, wait.task = id

namespace Begins

theorem nothing (owners : after.owners = before.owners) (begun : after.begun = before.begun) :
    Begins id [] before after :=
  ⟨owners ▸ List.prefix_rfl, by rw [begun, List.append_nil], by simp⟩

theorem refl (world : World Store Driver Procedure Answer) : Begins id [] world world :=
  nothing rfl rfl

theorem trans (begins : Begins id news before between) (also : Begins id more between after) :
    Begins id (news ++ more) before after where
  owners := begins.owners.trans also.owners
  begun := by rw [also.begun, begins.begun, List.append_assoc]
  mine wait member := by
    rcases List.mem_append.mp member with old | new
    · exact begins.mine wait old
    · exact also.mine wait new

/-- A task that goes on with another instruction begins no wait by that. -/
theorem proceed (begins : Begins id news before after) (control : Control Store Driver Procedure Answer)
    (frames : List (Frame Store Driver Procedure Answer)) :
    Begins id news before (after.proceed held control frames) := by
  have same : Begins id [] after (after.proceed held control frames) :=
    nothing (owners_proceed _ _) rfl
  have both := begins.trans same
  rwa [List.append_nil] at both

theorem of_bare (bare : after.bare = before.bare) (begun : after.begun = before.begun) :
    Begins id [] before after := nothing (owners_of_bare bare) begun

end Begins

variable [DecidableEq Driver]

/-- One instruction of a task begins at most a wait of that task, in the same turn or at its end. -/
theorem begins_execute (running : world.running = some id)
    (program : Program Store Driver Procedure Answer) :
    ((world.execute machine id task program).running = some id
        ∨ (world.execute machine id task program).running = none)
      ∧ ∃ news, Begins id news world (world.execute machine id task program) := by
  have stays : ∀ (control : Control Store Driver Procedure Answer)
      (frames : List (Frame Store Driver Procedure Answer)),
      ((world.proceed id control frames).running = some id
          ∨ (world.proceed id control frames).running = none)
        ∧ ∃ news, Begins id news world (world.proceed id control frames) := by
    intro control frames
    exact ⟨.inl running, [], (Begins.refl world).proceed control frames⟩
  cases program with
  | done answer =>
      simp only [execute]
      split
      · exact ⟨.inr rfl, [], .of_bare (bare_finish _ _) rfl⟩
      · exact stays _ _
      · exact stays _ _
      · exact stays _ _
  | fail fault => exact stays _ _
  | look choose => exact stays _ _
  | update change next =>
      exact ⟨.inl running, [], .nothing (owners_proceed (.run next) task.frames) rfl⟩
  | call procedure next => exact stays _ _
  | guard body next => exact stays _ _
  | ensure body cleanup next => exact stays _ _
  | check next =>
      simp only [execute]
      split <;> exact stays _ _
  | revoke next =>
      simp only [execute]
      split
      · split
        · next driver _ _ =>
            have revoked : Begins id [] world (world.revoke driver) := .nothing rfl rfl
            exact ⟨.inl running, [], revoked.proceed _ _⟩
        · exact stays _ _
      · exact stays _ _
  | pause duration next =>
      simp only [execute]
      split
      · let going := world.proceed id (.run (.check next)) task.frames
        have same : (going.sleep machine id duration).owners = world.owners :=
          (owners_of_bare (bare_sleep machine duration)).trans (owners_proceed _ _)
        refine ⟨.inr rfl, [⟨id, duration, machine.shown world.store⟩], ?_, rfl, by simp⟩
        exact same ▸ List.prefix_rfl
      · exact stays _ _
  | spawn driver body next =>
      refine ⟨.inl ?_, [], ?_⟩
      · simp only [execute]
        show (world.displace driver id).running = some id
        simp only [displace]
        split
        · split
          · exact running
          · rw [running_cancelTask, running]
        · exact running
      · simp only [execute]
        refine Begins.proceed ?_ _ _
        refine ⟨?_, ?_, by simp⟩
        · simp only [owners, bare_install, bare_displace, List.map_append]
          exact List.prefix_append _ _
        · rw [List.append_nil]
          exact begun_displace world driver id
  | cancel driver next =>
      have taken : ∀ frames, Begins id [] world
          ((world.setHolding driver { slot := none, live := none }).proceed id (.run next) frames) := by
        intro frames
        have emptied : Begins id [] world
            (world.setHolding driver { slot := none, live := none }) := .nothing rfl rfl
        exact emptied.proceed _ _
      simp only [execute]
      split
      · exact ⟨.inl running, [], taken _⟩
      · split
        · exact ⟨.inl running, [], taken _⟩
        · next other _ _ =>
            refine ⟨.inr rfl, [] ++ [], (taken task.frames).trans (.of_bare ?_ ?_)⟩
            · exact bare_yieldTurn.trans (bare_join.trans bare_cancelTask)
            · exact begun_join.trans begun_cancelTask
  | settle drivers remaining next =>
      cases remaining with
      | nil =>
          simp only [execute]
          split <;> exact stays _ _
      | cons driver remaining =>
          simp only [execute]
          split
          · split
            · exact ⟨.inr rfl, [], .of_bare (bare_yieldTurn.trans bare_join) begun_join⟩
            · exact stays _ _
          · exact stays _ _

/-- A step of a turn begins at most a wait of the task whose turn it is. -/
theorem begins_step (machine : Machine Store Driver Procedure Answer) (running : world.running = some id) :
    ((world.step machine).running = some id ∨ (world.step machine).running = none)
      ∧ ∃ news, Begins id news world (world.step machine) := by
  cases found : world.tasks[id]? with
  | none =>
      simp only [step, running, found]
      exact ⟨.inr rfl, [], .of_bare bare_yieldTurn rfl⟩
  | some task =>
      cases control : task.control with
      | run program =>
          simp only [step, running, found, control]
          exact begins_execute running program
      | unwind signal =>
          simp only [step, running, found, control, unwind]
          split
          · cases signal <;> exact ⟨.inr rfl, [], .of_bare (bare_finish _ _) rfl⟩
          · split <;> exact ⟨.inl running, [], (Begins.refl world).proceed _ _⟩
          · exact ⟨.inl running, [], (Begins.refl world).proceed _ _⟩
          · exact ⟨.inl running, [], (Begins.refl world).proceed _ _⟩

/-- Between two turns no wait begins. -/
theorem begins_between (noTurn : world.running = none) (id : TaskId) :
    Begins id [] world (world.step machine) := by
  cases queued : world.queue with
  | nil =>
      simp only [step, noTurn, queued]
      exact .refl world
  | cons turn queue =>
      cases turn with
      | run other =>
          simp only [step, noTurn, queued]
          refine .nothing ?_ rfl
          simp only [owners, bare, beginTurn, modifyTask, List.map_map]
          apply List.ext_getElem?
          intro place
          simp only [List.getElem?_map, List.getElem?_modify]
          cases world.tasks[place]? with
          | none => simp
          | some task =>
              by_cases here : other = place
              · by_cases cancelled : task.cancelPending = true <;> simp [here, cancelled, Task.bare]
              · simp [here]
      | joined other =>
          simp only [step, noTurn, queued]
          exact .of_bare bare_noteJoined begun_noteJoined

omit [DecidableEq Driver] in
theorem begins_release? {position : Nat} (oldest : world.release? position = some after) (id : TaskId) :
    Begins id [] world after := by
  have bare := bare_release? oldest
  obtain ⟨wait, -, rfl⟩ := release?_eq_some.mp oldest
  exact .of_bare bare rfl

omit [DecidableEq Driver] in
theorem begins_begin (world : World Store Driver Procedure Answer)
    (operation : Program Store Driver Procedure Answer) (id : TaskId) :
    Begins id [] world (world.begin operation).2 := by
  refine ⟨?_, (List.append_nil _).symm, by simp⟩
  simp only [owners, bare, begin, List.map_append]
  exact List.prefix_append _ _

/-! ## Turns -/

/-- A turn begins waits of its own task only. -/
theorem Lands.begins {post : World Store Driver Procedure Answer → Prop} (lands : Lands machine post world)
    (running : world.running = some id) :
    Lands machine (fun after => post after ∧ ∃ news, Begins id news world after) world := by
  induction lands with
  | here noTurn _ =>
      rw [noTurn] at running
      cases running
  | @step world other _ rest inductionHypothesis =>
      obtain ⟨turn, news, begins⟩ := begins_step machine running
      refine .step running ?_
      rcases turn with goesOn | ended
      · refine (inductionHypothesis goesOn).mono ?_
        rintro after - ⟨reached, more, also⟩
        exact ⟨reached, news ++ more, begins.trans also⟩
      · exact .here ended ⟨rest.reached ended, news, begins⟩

/-- Whoever writes down the waits that begin, and nothing else. -/
def timer (Store : Type) : Observer Store Pause where
  change _ _ := []
  wait duration shown := [(duration, shown)]
  change_self _ := rfl

/-- What is written down about a turn is the waits that its task begins. -/
theorem ToTurnEnd.begins {entries : List Pause} (way : ToTurnEnd machine (timer Store) before entries after)
    (running : before.running = some id) :
    ∃ news, Begins id news before after ∧ entries = news.map Wait.pause := by
  induction way with
  | here noTurn =>
      rw [noTurn] at running
      cases running
  | @step world after entries other _ rest inductionHypothesis =>
      obtain ⟨turn, news, begins⟩ := begins_step machine running
      have written : noticed (timer Store) world (world.step machine) = news.map Wait.pause := by
        rw [noticed, begins.begun, List.drop_left]
        exact (List.map_eq_flatMap).symm
      rcases turn with goesOn | ended
      · obtain ⟨more, also, rfl⟩ := inductionHypothesis goesOn
        exact ⟨news ++ more, begins.trans also, by rw [written, List.map_append]⟩
      · cases rest with
        | here _ => exact ⟨news, begins, by rw [written, List.append_nil]⟩
        | step goesOn _ =>
            rw [ended] at goesOn
            cases goesOn

/-- A turn of a program that runs to its end, with what is written down about its waits until then: it
ends in a wait, or it ends the program. -/
theorem lands_of_timed {terms : Terms Store Driver Procedure Answer}
    {program : Program Store Driver Procedure Answer}
    {frames : List (Frame Store Driver Procedure Answer)} {store : Store} {entries : List Pause}
    (post : World Store Driver Procedure Answer → Prop) (found : world.outline.tasks id = some task)
    (allowed : world.mayAct id task = true)
    (runs : Runs machine (timer Store) terms program frames store entries)
    (paused : ∀ after next around later news rest,
      after.outline =
        world.outline.rest id { task.on (.run (.check next)) around with status := .ready } later →
      Begins id news (world.focus id (task.on (.run program) frames) store) after →
      terms.leaves store later → terms.gate around later → entries = news.map Wait.pause ++ rest →
      (∀ drifted, terms.drift later drifted →
        Runs machine (timer Store) terms (.check next) around drifted rest) → post after)
    (ended : ∀ after outcome final finale news,
      after.outline = world.outline.close id final outcome →
      Begins id news (world.focus id (task.on (.run program) frames) store) after →
      terms.leaves store final → entries = news.map Wait.pause →
      (∀ driver body, finale ≠ .handedOver driver body) → terms.post final finale → post after)
    (handedOver : ∀ after driver body final news,
      after.outline = ((world.displace driver id).install driver body).outline.close id final
        (.finished none) →
      Begins id news (world.focus id (task.on (.run program) frames) store) after →
      terms.leaves store final → entries = news.map Wait.pause →
      terms.post final (.handedOver driver body) → post after) :
    Lands machine post (world.focus id (task.on (.run program) frames) store) := by
  have inside := inside_of_found found
  obtain ⟨first, after, way, reached⟩ := turn_of_runs inside allowed runs
  obtain ⟨news, begins, rfl⟩ := way.begins rfl
  refine .of_turn way ?_
  cases reached with
  | paused leaves waiting mine split last residue =>
      exact paused _ _ _ _ news _ (outline_asleep found _ _) begins leaves waiting split residue
  | finished leaves reached =>
      exact ended _ _ _ .done news (outline_closed inside _ _) begins leaves rfl (by simp) reached
  | @failed fault _ _ _ leaves reached =>
      exact ended _ _ _ (.failed fault) news (outline_closed inside _ _) begins leaves rfl (by simp)
        reached
  | @handedOver driver body control frames final leaves reached =>
      have stillInside : id < ((world.displace driver id).install driver body).tasks.length := by
        rw [length_tasks_install, length_tasks_displace]
        exact Nat.lt_succ_of_lt inside
      exact handedOver _ driver body final news (outline_closed stillInside _ _) begins leaves rfl
        reached

/-! ## The account of a world -/

/-- More waits of one driver. -/
def alsoWaits (told : Driver → List Pause) (driver : Driver) (more : List Pause) : Driver → List Pause :=
  Function.update told driver (told driver ++ more)

/-- The waits of every driver are as told. -/
structure Noted (world : World Store Driver Procedure Answer) (told : Driver → List Pause) : Prop where
  inside : ∀ wait ∈ world.begun, wait.task < world.tasks.length
  waits : ∀ driver, world.waitsOf driver = told driver

namespace Noted

variable {told : Driver → List Pause}

theorem initial (store : Store) :
    (World.initial store : World Store Driver Procedure Answer).Noted fun _ => [] :=
  ⟨fun _ member => absurd member List.not_mem_nil, fun _ => rfl⟩

/-- What was noted before is noted after more was added. -/
theorem kept (noted : world.Noted told) (begins : Begins id news world after) (driver : Driver) :
    (world.begun.filterMap fun wait =>
      if after.owners[wait.task]? = some (some driver) then some (wait.duration, wait.shown) else none) =
        told driver := by
  rw [← noted.waits driver]
  refine List.filterMap_congr ?_
  intro wait member
  have inside : wait.task < world.owners.length := by
    rw [length_owners]
    exact noted.inside wait member
  obtain ⟨rest, longer⟩ := begins.owners
  rw [← longer, List.getElem?_append_left inside]

theorem stillInside (noted : world.Noted told) (begins : Begins id news world after)
    (inside : id < world.tasks.length) : ∀ wait ∈ after.begun, wait.task < after.tasks.length := by
  have longer : world.tasks.length ≤ after.tasks.length := by
    rw [← length_owners, ← length_owners]
    exact begins.owners.length_le
  intro wait member
  rw [begins.begun] at member
  rcases List.mem_append.mp member with old | new
  · exact Nat.lt_of_lt_of_le (noted.inside wait old) longer
  · rw [begins.mine wait new]
    exact Nat.lt_of_lt_of_le inside longer

/-- The waits that a task begins are added to those of its driver, if it has one. -/
theorem waitsOf_begins {owner : Option Driver} (noted : world.Noted told)
    (begins : Begins id news world after) (owned : world.owners[id]? = some owner) (driver : Driver) :
    after.waitsOf driver =
      told driver ++ if owner = some driver then news.map Wait.pause else [] := by
  obtain ⟨inside, -⟩ := List.getElem?_eq_some_iff.mp owned
  obtain ⟨rest, longer⟩ := begins.owners
  have stillOwned : after.owners[id]? = some owner := by
    rw [← longer, List.getElem?_append_left inside, owned]
  rw [waitsOf, begins.begun, List.filterMap_append, noted.kept begins driver]
  congr 1
  have same : news.filterMap (fun wait =>
      if after.owners[wait.task]? = some (some driver) then some (wait.duration, wait.shown) else none) =
        news.filterMap fun wait => if owner = some driver then some wait.pause else none := by
    refine List.filterMap_congr ?_
    intro wait member
    rw [begins.mine wait member, stillOwned]
    simp [Wait.pause]
  rw [same]
  by_cases mine : owner = some driver <;> simp [mine]

theorem begins {driver : Driver} (noted : world.Noted told) (begins : Begins id news world after)
    (owned : world.owners[id]? = some (some driver)) :
    after.Noted (alsoWaits told driver (news.map Wait.pause)) := by
  obtain ⟨inside, -⟩ := List.getElem?_eq_some_iff.mp owned
  refine ⟨noted.stillInside begins (by rwa [length_owners] at inside), ?_⟩
  intro other
  rw [noted.waitsOf_begins begins owned]
  by_cases same : other = driver
  · simp [alsoWaits, same]
  · simp [alsoWaits, same, Ne.symm same]

/-- The waits of operations are nobody's. -/
theorem begins_of_operation (noted : world.Noted told) (begins : Begins id news world after)
    (owned : world.owners[id]? = some none) : after.Noted told := by
  obtain ⟨inside, -⟩ := List.getElem?_eq_some_iff.mp owned
  refine ⟨noted.stillInside begins (by rwa [length_owners] at inside), ?_⟩
  intro driver
  rw [noted.waitsOf_begins begins owned]
  simp

/-- Where no wait begins, nothing is added. -/
theorem quiet (noted : world.Noted told) (begins : Begins id [] world after) : after.Noted told where
  inside wait member := by
    have longer : world.tasks.length ≤ after.tasks.length := by
      rw [← length_owners, ← length_owners]
      exact begins.owners.length_le
    rw [begins.begun, List.append_nil] at member
    exact Nat.lt_of_lt_of_le (noted.inside wait member) longer
  waits driver := by
    rw [waitsOf, begins.begun, List.append_nil]
    exact noted.kept begins driver

/-- The waits of an operation that has begun are nobody's. -/
theorem of_operation {operation : Program Store Driver Procedure Answer} (noted : world.Noted told)
    (begins : Begins world.outline.count news (world.begin operation).2 after) : after.Noted told := by
  have begun := noted.quiet (begins_begin world operation world.outline.count)
  refine begun.begins_of_operation begins ?_
  simp [owners, bare, begin, outline, Task.bare, Task.fresh]

end Noted

end World

end Playthrough
