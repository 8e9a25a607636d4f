import Playthrough.Proofs.Session.Lodging
import Playthrough.Proofs.Task.Neighbours

/-!
Contract: operations that come to a lodger from outside.

Owns: the way of such an operation until it is one of the lodger's own (`Program.Enters`), worlds that hold a
smaller one while somebody is on that way (`World.Dwells`), and the first operation of all, with which the
smaller world begins (`World.Lodges.moves_in`).

Does not own: which operations come.

An operation from outside has to find the lodger before it acts for it. What it does until then the lodger does
not see; in the smaller world it looks and changes nothing, as often as it does so outside.
-/

namespace Playthrough

variable {Inner Room Errand Word Store Driver Procedure Answer : Type}

/-- From this store on a program is about to go on as one of the lodger's. -/
inductive Program.Enters (lodging : Lodging Inner Room Errand Word Store Driver Procedure Answer) :
    Program Store Driver Procedure Answer → Store → Program Inner Room Errand Word → Prop where
  | home (program : Program Inner Room Errand Word) (store : Store) :
      Enters lodging (program.lodged lodging) store program
  | look {choose : Store → Program Store Driver Procedure Answer} {store : Store}
      {program : Program Inner Room Errand Word} (rest : Enters lodging (choose store) store program) :
      Enters lodging (.look choose) store (.look fun _ => program)
  | update {change : Store → Store} {next : Program Store Driver Procedure Answer} {store : Store}
      {program : Program Inner Room Errand Word} (unseen : lodging.view (change store) = lodging.view store)
      (rest : Enters lodging next (change store) program) :
      Enters lodging (.update change next) store (.update (fun part => part) program)

namespace World

variable {lodging : Lodging Inner Room Errand Word Store Driver Procedure Answer}
variable {mine : TaskId → Prop} [DecidablePred mine]
variable {world : World Store Driver Procedure Answer} {inner : World Inner Room Errand Word}
variable {id other : TaskId} {program next : Program Store Driver Procedure Answer}

/-- A task that goes on twice goes on with the latter. -/
theorem proceed_proceed (control again : Control Store Driver Procedure Answer)
    (frames around : List (Frame Store Driver Procedure Answer)) :
    (world.proceed id control frames).proceed id again around = world.proceed id again around := by
  simp only [proceed, World.modifyTask, List.modify_modify_eq]
  rfl

/-- An operation goes on with what it is at. -/
theorem Asks.proceed_self (asks : world.Asks id program) : world.proceed id (.run program) [] = world := by
  obtain ⟨task, found, -, control, frames⟩ := asks.found
  have same : ({ task with control := .run program, frames := [] } : Task Store Driver Procedure Answer) =
      task := by rw [← control, ← frames]
  obtain ⟨inside, rfl⟩ := List.getElem?_eq_some_iff.mp found
  simp only [World.proceed, World.modifyTask, modify_eq_set found, same, List.set_getElem_self]

section Making

variable [DecidableEq Driver] {machine : Machine Store Driver Procedure Answer}

/-- Only by spawning a task is made. -/
theorem owners_execute (task : Task Store Driver Procedure Answer)
    (program : Program Store Driver Procedure Answer) :
    (world.execute machine id task program).owners = world.owners
      ∨ ∃ driver body next, program = .spawn driver body next
        ∧ (world.execute machine id task program).owners = world.owners ++ [some driver] := by
  cases program with
  | done answer =>
      refine .inl ?_
      simp only [execute]
      split
      · exact owners_of_bare (bare_finish _ _)
      all_goals exact owners_proceed _ _
  | fail | look | call | guard | ensure => exact .inl (owners_proceed _ _)
  | update change next => exact .inl ((owners_proceed _ _).trans rfl)
  | check next =>
      simp only [execute]
      split <;> exact .inl (owners_proceed _ _)
  | revoke next =>
      refine .inl ?_
      simp only [execute]
      split
      · split
        · exact (owners_proceed _ _).trans rfl
        · exact owners_proceed _ _
      · exact owners_proceed _ _
  | pause duration next =>
      simp only [execute]
      split
      · exact .inl ((owners_of_bare (bare_sleep machine duration)).trans (owners_proceed _ _))
      · exact .inl (owners_proceed _ _)
  | spawn driver body next =>
      refine .inr ⟨driver, body, next, rfl, ?_⟩
      simp only [execute]
      rw [owners_proceed, owners, bare_install, bare_displace, List.map_append]
      rfl
  | cancel driver next =>
      have vacated : ((world.setHolding driver { slot := none, live := none }).proceed id (.run next)
          task.frames).owners = world.owners := (owners_proceed _ _).trans rfl
      refine .inl ?_
      simp only [execute]
      split
      · exact vacated
      · split
        · exact vacated
        · rw [owners_of_bare (bare_yieldTurn.trans (bare_join.trans bare_cancelTask)), vacated]
  | settle drivers remaining next =>
      refine .inl ?_
      cases remaining with
      | nil =>
          simp only [execute]
          split <;> exact owners_proceed _ _
      | cons driver remaining =>
          simp only [execute]
          split
          · split
            · exact owners_of_bare (bare_yieldTurn.trans bare_join)
            · exact owners_proceed _ _
          · exact owners_proceed _ _

omit [DecidableEq Driver] in
theorem owners_unwind {task : Task Store Driver Procedure Answer} {signal : Signal} :
    (world.unwind id task signal).owners = world.owners := by
  simp only [unwind]
  split
  · cases signal <;> exact owners_of_bare (bare_finish _ _)
  · split <;> exact owners_proceed _ _
  all_goals exact owners_proceed _ _

theorem Lodges.owners_step (lodges : Lodges lodging mine world inner) (own : mine id)
    (turn : world.running = some id) :
    (world.step machine).owners = world.owners
      ∨ ∃ room, (world.step machine).owners = world.owners ++ [some (lodging.door room)] := by
  simp only [World.step, turn]
  cases there : inner.tasks[Nat.count mine id]? with
  | none =>
      rw [lodges.no_task own there]
      exact .inl rfl
  | some other =>
      obtain ⟨task, found, same⟩ := lodges.task own there
      have control : task.control = other.control.lodged lodging := congrArg Task.control same
      simp only [found, control]
      cases other.control with
      | unwind signal => exact .inl owners_unwind
      | run program =>
          rcases owners_execute task (program.lodged lodging) with kept | ⟨driver, body, next, spawns, added⟩
          · exact .inl kept
          · cases program <;> cases spawns
            exact .inr ⟨_, added⟩

end Making

/-- Who acts in the next step, if anybody does. -/
def actor? (world : World Store Driver Procedure Answer) : Option TaskId :=
  match world.running with
  | some id => some id
  | none => world.queue.head?.map Turn.task

theorem actor?_of_turn (turn : world.running = some id) : world.actor? = some id := by
  simp only [actor?, turn]

/-- Whoever acts has been made. -/
theorem inside_of_actor? (balanced : world.Balanced) (acts : world.actor? = some id) : id < world.tasks.length := by
  cases turn : world.running with
  | some acting =>
      cases (actor?_of_turn turn).symm.trans acts
      have orderly : world.Orderly (some id) := by
        rw [← turn]
        exact balanced
      obtain ⟨task, found, -⟩ := orderly.acts
      exact (List.getElem?_eq_some_iff.mp found).1
  | none =>
      cases queued : world.queue with
      | nil => simp [actor?, turn, queued] at acts
      | cons next queue =>
          have same : next.task = id := by simpa [actor?, turn, queued] using acts
          subst same
          cases next with
          | run other =>
              obtain ⟨task, found, -⟩ := balanced.ready_of_queued (queued ▸ List.mem_cons_self)
              exact (List.getElem?_eq_some_iff.mp found).1
          | joined other =>
              obtain ⟨task, count, found, -⟩ := balanced.joining_of_queued (queued ▸ List.mem_cons_self)
              exact (List.getElem?_eq_some_iff.mp found).1

/-! ## On the way to the lodger -/

/-- A world holds a smaller one, or will do so when the acting operation has come to the lodger. -/
inductive Dwells (lodging : Lodging Inner Room Errand Word Store Driver Procedure Answer)
    (mine : TaskId → Prop) [DecidablePred mine] (world : World Store Driver Procedure Answer)
    (inner : World Inner Room Errand Word) : Prop where
  | home (lodges : Lodges lodging mine world inner)
  | enters {id : TaskId} {program : Program Store Driver Procedure Answer}
      {next : Program Inner Room Errand Word} (own : mine id) (turn : world.running = some id)
      (asks : world.Asks id program) (enters : program.Enters lodging world.store next)
      (lodges : Lodges lodging mine (world.proceed id (.run (next.lodged lodging)) []) inner)

namespace Dwells

/-- While nobody of the lodger's acts nobody is on the way to it. -/
theorem at_home (dwells : Dwells lodging mine world inner)
    (foreign : ∀ id, world.running = some id → ¬mine id) : Lodges lodging mine world inner := by
  cases dwells with
  | home lodges => exact lodges
  | enters own turn => exact absurd own (foreign _ turn)

/-! ### What is seen in both -/

theorem length_eq (dwells : Dwells lodging mine world inner) :
    Nat.count mine world.tasks.length = inner.tasks.length := by
  cases dwells with
  | home lodges => exact lodges.length
  | enters _ _ _ _ lodges =>
      have same := lodges.length
      simp only [proceed, World.modifyTask, List.length_modify] at same
      exact same

theorem store_eq (dwells : Dwells lodging mine world inner) : lodging.view world.store = inner.store := by
  cases dwells with
  | home lodges => exact lodges.store
  | enters _ _ _ _ lodges => exact lodges.store

theorem running_eq (dwells : Dwells lodging mine world inner) :
    world.running.bind (place? mine) = inner.running := by
  cases dwells with
  | home lodges => exact lodges.running
  | enters _ _ _ _ lodges => exact lodges.running

theorem queue_eq (dwells : Dwells lodging mine world inner) :
    world.queue.filterMap (Turn.placed? mine) = inner.queue := by
  cases dwells with
  | home lodges => exact lodges.queue
  | enters _ _ _ _ lodges => exact lodges.queue

theorem begun_eq (dwells : Dwells lodging mine world inner) :
    world.begun.filterMap (Wait.placed? mine) = inner.begun := by
  cases dwells with
  | home lodges => exact lodges.begun
  | enters _ _ _ _ lodges => exact lodges.begun

/-- What the lodger's operations have ended with. -/
theorem outcome?_eq [DecidableEq Driver] (dwells : Dwells lodging mine world inner) (own : mine other) :
    world.outcome? other = (inner.outcome? (Nat.count mine other)).map (Outcome.told lodging.answer) := by
  cases dwells with
  | home lodges => exact lodges.outcome?_eq own
  | enters _ _ _ _ lodges => rw [← lodges.outcome?_eq own, outcome?_proceed]

/-! ### What the lodger's tasks do -/

/-- An operation sets out for the lodger. -/
theorem begin (lodges : Lodges lodging mine world inner) (own : mine world.tasks.length)
    {next : Program Inner Room Errand Word} (enters : program.Enters lodging world.store next) :
    Dwells lodging mine (world.begin program).2 (inner.begin next).2 := by
  refine .enters own rfl (.begin world program) enters ?_
  have same : (world.begin program).2.proceed world.tasks.length (.run (next.lodged lodging)) [] =
      (world.begin (next.lodged lodging)).2 := proceed_begin world program (next.lodged lodging)
  rw [same]
  exact lodges.begin own next

variable [DecidableEq Driver] [DecidableEq Room]
variable {machine : Machine Store Driver Procedure Answer} {innerMachine : Machine Inner Room Errand Word}

/-- When one of the lodger's tasks acts, it acts in the smaller world. -/
theorem step (dwells : Dwells lodging mine world inner) (carries : machine.Carries lodging innerMachine)
    (apart : Function.Injective lodging.door) (lawful : lodging.Lawful)
    (answers : ∀ change, lodging.view (lodging.amend change world.store) = change (lodging.view world.store))
    (own : mine id) (turn : world.running = some id)
    (added : (world.step machine).tasks.length ≠ world.tasks.length → mine world.tasks.length) :
    Dwells lodging mine (world.step machine) (inner.step innerMachine) := by
  cases dwells with
  | home lodges => exact .home (lodges.step carries apart answers own turn added)
  | @enters acting program next ownActing acts asks enters lodges =>
      cases acts.symm.trans turn
      cases enters with
      | home =>
          rw [asks.proceed_self] at lodges
          exact .home (lodges.step carries apart answers own turn added)
      | @look choose store next rest =>
          have onWay : (world.proceed id (.run (Program.lodged lodging (.look fun _ => next))) []).Asks id
              (.look fun _ => next.lodged lodging) := asks.proceed world rfl
          have stepped := onWay.step_look machine turn
          rw [proceed_proceed] at stepped
          have onward := lodges.step carries apart answers own turn (by
            rw [stepped]
            simp [proceed, World.modifyTask])
          rw [stepped] at onward
          rw [asks.step_look machine turn]
          refine .enters own turn (asks.proceed world rfl) rest ?_
          rw [proceed_proceed]
          exact onward
      | @update change goesOn store next unseen rest =>
          have onWay : (world.proceed id (.run (Program.lodged lodging (.update (fun part => part) next)))
              []).Asks id (.update (lodging.amend fun part => part) (next.lodged lodging)) :=
            asks.proceed world rfl
          have stepped := onWay.step_update machine turn
          have onward := lodges.step carries apart answers own turn (by
            rw [stepped]
            simp [proceed, World.modifyTask])
          rw [stepped, lawful.amend_same] at onward
          have asksNext : (({ world with store := change world.store } :
              World Store Driver Procedure Answer).proceed id (.run goesOn) []).Asks id goesOn :=
            asks.proceed { world with store := change world.store } rfl
          rw [asks.step_update machine turn]
          refine .enters own turn asksNext rest ?_
          rw [proceed_proceed, ← proceed_proceed (.run (Program.lodged lodging (.update (fun part => part) next)))
            (.run (next.lodged lodging)) [] []]
          exact onward.withStore_beside unseen

/-- When one of the lodger's tasks is the next to act, it is so in the smaller world. -/
theorem step_of_actor (dwells : Dwells lodging mine world inner) (carries : machine.Carries lodging innerMachine)
    (apart : Function.Injective lodging.door) (lawful : lodging.Lawful)
    (answers : ∀ change, lodging.view (lodging.amend change world.store) = change (lodging.view world.store))
    (own : mine id) (acts : world.actor? = some id)
    (added : (world.step machine).tasks.length ≠ world.tasks.length → mine world.tasks.length) :
    Dwells lodging mine (world.step machine) (inner.step innerMachine) := by
  cases turn : world.running with
  | some acting =>
      cases (actor?_of_turn turn).symm.trans acts
      exact dwells.step carries apart lawful answers own turn added
  | none =>
      have lodges := dwells.at_home fun _ running => by rw [turn] at running; cases running
      cases queued : world.queue with
      | nil => simp [actor?, turn, queued] at acts
      | cons next queue =>
          have same : next.task = id := by simpa [actor?, turn, queued] using acts
          have ownTurn : mine next.task := same ▸ own
          obtain ⟨place, placed⟩ := Turn.placed?_of_mine ownTurn
          exact .home (lodges.step_turn turn queued placed)

omit [DecidableEq Room] in
/-- Whatever task is made by one of the lodger's is that of a driver of the lodger. -/
theorem owners_step (machine : Machine Store Driver Procedure Answer) (dwells : Dwells lodging mine world inner)
    (own : mine id) (turn : world.running = some id) :
    (world.step machine).owners = world.owners
      ∨ ∃ room, (world.step machine).owners = world.owners ++ [some (lodging.door room)] := by
  cases dwells with
  | home lodges => exact lodges.owners_step own turn
  | @enters acting program next ownActing acts asks enters lodges =>
      cases acts.symm.trans turn
      cases enters with
      | home =>
          rw [asks.proceed_self] at lodges
          exact lodges.owners_step own turn
      | look =>
          rw [asks.step_look machine turn]
          exact .inl (owners_proceed _ _)
      | @update change =>
          rw [asks.step_update machine turn]
          exact .inl ((owners_proceed _ _).trans rfl)

end Dwells

/-! ## The first operation -/

/-- Every wait that was ever begun is that of a driver's task. -/
def Timed (world : World Store Driver Procedure Answer) : Prop :=
  ∀ wait ∈ world.begun, ∃ driver, world.owners[wait.task]? = some (some driver)

namespace Timed

variable {after : World Store Driver Procedure Answer} {etiquette : Etiquette Store Driver Procedure}

theorem initial (store : Store) : (World.initial store : World Store Driver Procedure Answer).Timed :=
  fun _ member => absurd member List.not_mem_nil

theorem of_prefix (timed : world.Timed) (begun : after.begun = world.begun)
    (owners : world.owners <+: after.owners) : after.Timed := by
  intro wait member
  rw [begun] at member
  obtain ⟨driver, own⟩ := timed wait member
  obtain ⟨inside, here⟩ := List.getElem?_eq_some_iff.mp own
  exact ⟨driver, here ▸ List.prefix_iff_getElem?.mp owners _ inside⟩

theorem begin (timed : world.Timed) (operation : Program Store Driver Procedure Answer) :
    (world.begin operation).2.Timed :=
  timed.of_prefix rfl ⟨[none], by simp [owners, bare, World.begin, Task.fresh, Task.bare]⟩

theorem release? {position : Nat} (timed : world.Timed) (wait : world.release? position = some after) :
    after.Timed := by
  have same := owners_of_bare (bare_release? wait)
  obtain ⟨_, -, rfl⟩ := release?_eq_some.mp wait
  exact timed.of_prefix rfl (same ▸ List.prefix_rfl)

/-- Operations wait for nothing but tasks. -/
theorem step [DecidableEq Driver] {machine : Machine Store Driver Procedure Answer} (timed : world.Timed)
    (balanced : world.Balanced) (decorous : world.Decorous etiquette)
    (machineDecorous : machine.Decorous etiquette) : (world.step machine).Timed := by
  have advances := decorous.advances machineDecorous balanced
  have leads := advances.leads
  have begun : ∀ wait ∈ (world.step machine).begun, wait ∈ world.begun
      ∨ ∃ driver, world.owners[wait.task]? = some (some driver) := by
    generalize world.step machine = after at advances
    intro wait member
    cases advances with
    | @sleeps id task duration next turn found owned =>
        rcases List.mem_append.mp (show wait ∈ world.begun ++ [_] from member) with before | last
        · exact .inl before
        · obtain ⟨driver, own⟩ := Option.ne_none_iff_exists'.mp owned
          obtain rfl := List.mem_singleton.mp last
          exact .inr ⟨driver, own ▸ owner_of_found found⟩
    | hands =>
        have displaced : wait ∈ (world.displace _ _).begun := member
        exact .inl (by rwa [begun_displace] at displaced)
    | cancels =>
        rw [yieldTurn, begun_join, begun_cancelTask] at member
        exact .inl member
    | joins =>
        rw [yieldTurn, begun_join] at member
        exact .inl member
    | learns =>
        rw [begun_noteJoined] at member
        exact .inl member
    | _ => exact .inl member
  intro wait member
  rcases begun wait member with before | ⟨driver, own⟩
  · obtain ⟨driver, own⟩ := timed wait before
    exact ⟨driver, leads.owner_after own⟩
  · exact ⟨driver, leads.owner_after own⟩

end Timed

/-- Of the tasks so far one alone is the lodger's. -/
theorem count_of_alone {id count : Nat} (alone : ∀ other < count, mine other ↔ other = id)
    (inside : id < count) :
    Nat.count mine id = 0 ∧ Nat.count mine count = 1 := by
  have before : Nat.count mine id = 0 := Nat.count_of_forall_not fun other earlier own =>
    Nat.ne_of_lt earlier ((alone other (Nat.lt_trans earlier inside)).mp own)
  refine ⟨before, ?_⟩
  obtain ⟨later, rfl⟩ := Nat.exists_eq_add_of_lt inside
  rw [Nat.add_right_comm] at alone ⊢
  rw [Nat.count_add, Nat.count_succ, before, if_pos ((alone id (by omega)).mpr rfl),
    Nat.count_of_forall_not fun other earlier own => ?_]
  have same : id + 1 + other = id := (alone (id + 1 + other) (Nat.add_lt_add_left earlier _)).mp own
  omega

/-- The smaller world begins with one operation, and with drivers that have never had a task. -/
theorem Lodges.moves_in {etiquette : Etiquette Store Driver Procedure} {part : Inner}
    {operation : Program Inner Room Errand Word} (balanced : world.Balanced)
    (decorous : world.Decorous etiquette) (timed : world.Timed)
    (vacant : ∀ room, world.Vacant (lodging.door room)) (turn : world.running = some id)
    (asks : world.Asks id (operation.lodged lodging)) (same : lodging.view world.store = part)
    (alone : ∀ other < world.tasks.length, mine other ↔ other = id) :
    Lodges lodging mine world ((World.initial part : World Inner Room Errand Word).begin operation).2 := by
  obtain ⟨before, count⟩ := count_of_alone alone asks.inside
  obtain ⟨task, found, owner, control, frames⟩ := asks.found
  have orderly : world.Orderly (some id) := turn ▸ balanced
  have ready : task.status = .ready := orderly.ready_of_acting found
  have own : mine id := (alone id asks.inside).mpr rfl
  -- nobody is to tell the acting task anything
  have untold : ∀ (held : TaskId) (other : Task Store Driver Procedure Answer),
      world.tasks[held]? = some other → other.isEnded = false → ∀ joiner ∈ other.joiners, ¬mine joiner := by
    intro held other there unended joiner member ownJoiner
    obtain ⟨waiting, number, known, joining⟩ := orderly.joining_of_joiner there unended member
    cases (alone joiner (List.getElem?_eq_some_iff.mp known).1).mp ownJoiner
    rw [Option.some.inj (found.symm.trans known), joining] at ready
    cases ready
  have foreign : ∀ other, other < world.tasks.length → other ≠ id → place? mine other = none :=
    fun other inside different => place?_of_not_mine fun ownOther => different ((alone other inside).mp ownOther)
  refine ⟨same, count, ?_, fun held other _ there => untold held other there, ?_, ?_, ?_, ?_, ?_, ?_⟩
  · intro other ownOther
    rcases Nat.lt_or_ge other world.tasks.length with inside | beyond
    · cases (alone other inside).mp ownOther
      have steady := decorous.steady task (List.mem_of_getElem? found)
      simp only [Task.Steady, owner] at steady
      have joiners : task.joiners.filterMap (place? mine) = [] :=
        List.filterMap_eq_nil_iff.mpr fun joiner member =>
          place?_of_not_mine (untold id task found (by simp [Task.isEnded, ready]) joiner member)
      simp [found, before, World.begin, World.initial, Task.placed, Task.lodged, Task.fresh, owner, control,
        frames, ready, steady, joiners, Control.lodged, Status.told]
    · have above : 1 ≤ Nat.count mine other := count ▸ Nat.count_monotone mine beyond
      rw [List.getElem?_eq_none beyond, List.getElem?_eq_none (by simpa [World.begin, World.initial] using above)]
      rfl
  · intro room
    rw [vacant room]
    rfl
  · intro room
    rw [vacant room]
    rfl
  · refine List.filterMap_eq_nil_iff.mpr fun queued member => ?_
    cases queued with
    | run other =>
        obtain ⟨asked, there, -⟩ := orderly.ready_of_queued member
        rw [Turn.placed?, foreign other (List.getElem?_eq_some_iff.mp there).1, Option.map_none]
        rintro rfl
        have present : 0 < world.queue.count (.run other) := List.count_pos_iff.mpr member
        have account := orderly.runs other
        rw [if_pos rfl, owed_of_found found, ready] at account
        simp only [Status.turns] at account
        omega
    | joined other =>
        obtain ⟨waiting, number, there, joining⟩ := orderly.joining_of_queued member
        rw [Turn.placed?, foreign other (List.getElem?_eq_some_iff.mp there).1, Option.map_none]
        rintro rfl
        rw [Option.some.inj (found.symm.trans there), joining] at ready
        cases ready
  · refine List.filterMap_eq_nil_iff.mpr fun wait member => ?_
    obtain ⟨sleeper, there, sleeping⟩ := orderly.sleeping_of_wait member
    rw [Wait.placed?, foreign wait.task (List.getElem?_eq_some_iff.mp there).1, Option.map_none]
    rintro same
    rw [same, found] at there
    rw [Option.some.inj there, sleeping] at ready
    cases ready
  · refine List.filterMap_eq_nil_iff.mpr fun wait member => ?_
    obtain ⟨driver, own⟩ := timed wait member
    have inside := (List.getElem?_eq_some_iff.mp own).1
    rw [length_owners] at inside
    rw [Wait.placed?, foreign wait.task inside, Option.map_none]
    rintro same
    rw [same, asks.own] at own
    cases own
  · rw [turn, Option.bind_some, place?_of_mine own, before]
    rfl

end World

end Playthrough
