import Playthrough.Proofs.Task.Habit
import Playthrough.Proofs.Task.Lodgers

/-!
Contract: others who leave a lodger alone.

Owns: programs that leave a lodger alone for as long as it stays (`Program.Shuns`), the worlds whose other
operations go on with such programs (`World.Shunned`), and that a step of somebody else is none for the lodger.

Does not own: which programs there are.

Others may take part in what all share, as long as the lodger's part of the store stays as it is and its
drivers are left alone. Whoever makes the lodger leave owes it nothing from then on. What an operation finds
after it has waited is whatever store the lodger can be found in.
-/

namespace Playthrough

variable {Inner Room Errand Word Store Driver Procedure Answer : Type}

/-- For how long a lodger stays. -/
structure Tenancy (Store : Type) where
  /-- The stores in which it can be found. -/
  stands : Store → Prop
  /-- It has not left meanwhile. -/
  stays : Store → Store → Prop
  /-- Nobody has taken away what will be its part. -/
  leaves : Store → Store → Prop

/-- From this store on a program leaves a lodger alone. -/
def Program.Shuns (lodging : Lodging Inner Room Errand Word Store Driver Procedure Answer)
    (tenancy : Tenancy Store) : Program Store Driver Procedure Answer → Store → Prop
  | .done _, _ => True
  | .look choose, store => (choose store).Shuns lodging tenancy store
  | .update change next, store => tenancy.leaves store (change store)
      ∧ (tenancy.stays store (change store) →
        lodging.view (change store) = lodging.view store ∧ next.Shuns lodging tenancy (change store))
  | .call _ next, _ => ∀ later, tenancy.stands later → next.Shuns lodging tenancy later
  | .spawn driver _ next, store =>
      (∀ room, lodging.door room ≠ driver) ∧ next.Shuns lodging tenancy store
  | .cancel driver next, _ => (∀ room, lodging.door room ≠ driver)
      ∧ ∀ later, tenancy.stands later → next.Shuns lodging tenancy later
  | .settle drivers remaining next, _ =>
      (∀ driver ∈ drivers ++ remaining, ∀ room, lodging.door room ≠ driver)
        ∧ ∀ later, tenancy.stands later → next.Shuns lodging tenancy later
  | .fail _, _ => False
  | .check _, _ => False
  | .revoke _, _ => False
  | .pause _ _, _ => False
  | .guard _ _, _ => False
  | .ensure _ _ _, _ => False

/-- What operations call leaves a lodger alone, if they do so afterwards. -/
def Machine.Respects (machine : Machine Store Driver Procedure Answer)
    (etiquette : Etiquette Store Driver Procedure)
    (lodging : Lodging Inner Room Errand Word Store Driver Procedure Answer) (tenancy : Tenancy Store) : Prop :=
  ∀ procedure, etiquette.calls none procedure → ∀ next store, tenancy.stands store →
    (∀ later, tenancy.stands later → next.Shuns lodging tenancy later) →
      ((machine.body procedure).andThen next).Shuns lodging tenancy store

namespace World

variable {lodging : Lodging Inner Room Errand Word Store Driver Procedure Answer}
variable {tenancy : Tenancy Store} {etiquette : Etiquette Store Driver Procedure}
variable {mine : TaskId → Prop} [DecidablePred mine]
variable {world : World Store Driver Procedure Answer} {inner : World Inner Room Errand Word}
variable {id held joined : TaskId} {driver : Driver} {program next : Program Store Driver Procedure Answer}

namespace Lodges

/-! ## What others change -/

theorem modifyTask_beside (lodges : Lodges lodging mine world inner) (foreign : ¬mine id)
    {change : Task Store Driver Procedure Answer → Task Store Driver Procedure Answer}
    (apart : ∀ task, world.tasks[id]? = some task →
      (task.isEnded = false → ∀ joiner ∈ task.joiners, ¬mine joiner) →
        (change task).isEnded = false → ∀ joiner ∈ (change task).joiners, ¬mine joiner) :
    Lodges lodging mine (world.modifyTask id change) inner :=
  { lodges with
    length := by
      simp only [World.modifyTask, List.length_modify]
      exact lodges.length
    tasks := by
      intro place own
      have different : id ≠ place := fun same => foreign (same ▸ own)
      simp only [World.modifyTask, List.getElem?_modify, different, if_false, id_map']
      exact lodges.tasks place own
    others := by
      intro place task foreignPlace found
      simp only [World.modifyTask, List.getElem?_modify, Option.map_eq_map, Option.map_eq_some_iff] at found
      obtain ⟨before, there, rfl⟩ := found
      have untold := lodges.others place before foreignPlace there
      split
      · next same => exact apart before (same ▸ there) untold
      · exact untold }

theorem proceed_beside (lodges : Lodges lodging mine world inner) (foreign : ¬mine id)
    (control : Control Store Driver Procedure Answer) (frames : List (Frame Store Driver Procedure Answer)) :
    Lodges lodging mine (world.proceed id control frames) inner :=
  lodges.modifyTask_beside foreign fun _ _ untold => untold

theorem restatus_beside (lodges : Lodges lodging mine world inner) (foreign : ¬mine id)
    (goesOn : world.isUnended id = true) (status : Status Answer) :
    Lodges lodging mine (world.modifyTask id fun task => { task with status := status }) inner :=
  lodges.modifyTask_beside foreign fun _ found untold _ => untold (by simpa [isUnended, found] using goesOn)

theorem enqueue_beside (lodges : Lodges lodging mine world inner) {turn : Turn}
    (foreign : turn.placed? mine = none) : Lodges lodging mine (world.enqueue turn) inner :=
  { lodges with
    queue := by
      show (world.queue ++ [turn]).filterMap _ = inner.queue
      rw [List.filterMap_append, lodges.queue, List.filterMap_cons_none foreign, List.filterMap_nil,
        List.append_nil] }

theorem withStore_beside (lodges : Lodges lodging mine world inner) {store : Store}
    (same : lodging.view store = lodging.view world.store) :
    Lodges lodging mine { world with store := store } inner :=
  { lodges with store := same.trans lodges.store }

/-- Somebody else gives up its turn. -/
theorem yieldTurn_beside (lodges : Lodges lodging mine world inner) (noTurn : inner.running = none) :
    Lodges lodging mine world.yieldTurn inner :=
  { lodges with running := noTurn.symm }

theorem wake_beside (lodges : Lodges lodging mine world inner) (foreign : ¬mine id)
    (goesOn : world.isUnended id = true) : Lodges lodging mine (world.wake id) inner :=
  (lodges.restatus_beside foreign goesOn .ready).enqueue_beside
    (by simp [Turn.placed?, place?_of_not_mine foreign])

theorem dropWait_beside (lodges : Lodges lodging mine world inner) (foreign : ¬mine id) :
    Lodges lodging mine (world.dropWait id) inner :=
  { lodges with
    waits := by
      show (world.waits.filter _).filterMap _ = inner.waits
      rw [List.filterMap_filter, ← lodges.waits]
      refine List.filterMap_congr fun wait _ => ?_
      split
      · rfl
      · next same =>
          have here : wait.task = id := by simpa using same
          simp [Wait.placed?, here, place?_of_not_mine foreign] }

theorem cancelTask_beside (lodges : Lodges lodging mine world inner) (foreign : ¬mine held) :
    Lodges lodging mine (world.cancelTask held) inner := by
  have marked : ∀ {before : World Store Driver Procedure Answer}, Lodges lodging mine before inner →
      Lodges lodging mine (before.modifyTask held fun task => { task with cancelPending := true }) inner :=
    fun before => before.modifyTask_beside foreign fun _ _ untold => untold
  simp only [World.cancelTask]
  cases found : world.tasks[held]? with
  | none => exact lodges
  | some task =>
      simp only
      cases status : task.status with
      | ended outcome => exact lodges
      | ready => exact marked lodges
      | joining count => exact marked lodges
      | sleeping =>
          have there : (world.dropWait held).tasks[held]? = some task := found
          refine (marked (lodges.dropWait_beside foreign)).wake_beside foreign ?_
          simp [isUnended, World.modifyTask, there, Task.isEnded, status]

theorem join_beside (lodges : Lodges lodging mine world inner) (foreign : ¬mine id)
    (goesOn : world.isUnended id = true) (foreignJoined : ¬mine joined) :
    Lodges lodging mine (world.join id joined) inner := by
  have waiting := lodges.restatus_beside foreign goesOn (.joining 1)
  simp only [World.join]
  split
  · refine waiting.modifyTask_beside foreignJoined fun task _ untold unended joiner member => ?_
    rcases List.mem_append.mp member with earlier | last
    · exact untold unended joiner earlier
    · rwa [List.mem_singleton.mp last]
  · exact waiting.enqueue_beside (by simp [Turn.placed?, place?_of_not_mine foreign])

theorem finish_beside (lodges : Lodges lodging mine world inner) (foreign : ¬mine id)
    (noTurn : inner.running = none) {joiners : List TaskId} (apart : ∀ joiner ∈ joiners, ¬mine joiner)
    (outcome : Outcome Answer) : Lodges lodging mine (world.finish id joiners outcome) inner := by
  have ended : Lodges lodging mine
      (world.modifyTask id fun task => { task with status := .ended outcome }) inner :=
    lodges.modifyTask_beside foreign fun _ _ _ impossible => by cases impossible
  refine { ended.yieldTurn_beside noTurn with queue := ?_ }
  have nobody : joiners.filterMap (place? mine) = [] :=
    List.filterMap_eq_nil_iff.mpr fun joiner member => place?_of_not_mine (apart joiner member)
  show (world.queue ++ joiners.map Turn.joined).filterMap _ = inner.queue
  rw [List.filterMap_append, lodges.queue, filterMap_joined, nobody, List.map_nil, List.append_nil]

theorem sleep_beside (lodges : Lodges lodging mine world inner) (foreign : ¬mine id)
    (goesOn : world.isUnended id = true) (noTurn : inner.running = none)
    (machine : Machine Store Driver Procedure Answer) (duration : Duration) :
    Lodges lodging mine (world.sleep machine id duration) inner := by
  have asleep := lodges.restatus_beside foreign goesOn .sleeping
  have unseen : ∀ waits : List Wait,
      (waits ++ [({ task := id, duration := duration, shown := machine.shown world.store } : Wait)]).filterMap
        (Wait.placed? mine) = waits.filterMap (Wait.placed? mine) := by
    intro waits
    simp [List.filterMap_append, Wait.placed?, place?_of_not_mine foreign]
  exact { asleep.yieldTurn_beside noTurn with
    waits := (unseen world.waits).trans lodges.waits
    begun := (unseen world.begun).trans lodges.begun }

theorem displace_beside (lodges : Lodges lodging mine world inner)
    (holding : ∀ held, (world.holdings driver).slot = some held → ¬mine held) (asking : TaskId) :
    Lodges lodging mine (world.displace driver asking) inner := by
  simp only [World.displace]
  split
  · next held there =>
      split
      · exact lodges
      · exact lodges.cancelTask_beside (holding held there)
  · exact lodges

theorem beginTurn_beside (lodges : Lodges lodging mine world inner) (foreign : ¬mine id)
    (noTurn : inner.running = none) : Lodges lodging mine (world.beginTurn id) inner := by
  have started : Lodges lodging mine { world with running := some id } inner :=
    { lodges with running := (place?_of_not_mine foreign).trans noTurn.symm }
  refine started.modifyTask_beside foreign fun task _ untold => ?_
  split <;> exact untold

theorem noteJoined_beside (lodges : Lodges lodging mine world inner) (foreign : ¬mine id) :
    Lodges lodging mine (world.noteJoined id) inner := by
  simp only [World.noteJoined]
  split
  · next found =>
      refine lodges.restatus_beside foreign ?_ _
      rw [isUnended, found]
      rfl
  · next found =>
      refine lodges.wake_beside foreign ?_
      rw [isUnended, found]
      rfl
  · exact lodges

/-- Somebody else's wait ends. -/
theorem release?_beside (lodges : Lodges lodging mine world inner) (balanced : world.Balanced)
    {released : World Store Driver Procedure Answer} {position : Nat} {wait : Wait}
    (found : world.waits[position]? = some wait) (foreign : ¬mine wait.task)
    (ends : world.release? position = some released) : Lodges lodging mine released inner := by
  have placed : wait.placed? mine = none := by simp [Wait.placed?, place?_of_not_mine foreign]
  obtain ⟨whole, rest⟩ := filterMap_split (Wait.placed? mine) found
  rw [placed, lodges.waits] at whole
  obtain ⟨_, there, rfl⟩ := release?_eq_some.mp ends
  cases found.symm.trans there
  have dropped : Lodges lodging mine { world with waits := world.waits.eraseIdx position } inner :=
    { lodges with
      waits := by
        show (world.waits.eraseIdx position).filterMap _ = _
        rw [rest, whole, Option.toList_none, List.append_nil] }
  obtain ⟨sleeper, asleep, sleeping⟩ := balanced.sleeping_of_wait (List.mem_of_getElem? found)
  refine dropped.wake_beside foreign ?_
  simp [isUnended, asleep, Task.isEnded, sleeping]

/-- A task is added that is not the lodger's. -/
theorem append_beside (lodges : Lodges lodging mine world inner) (foreign : ¬mine world.tasks.length)
    (owner : Option Driver) (program : Program Store Driver Procedure Answer) :
    Lodges lodging mine { world with tasks := world.tasks ++ [Task.fresh owner program] } inner :=
  { lodges with
    length := by
      rw [List.length_append, List.length_singleton, count_succ_of_not_mine foreign, lodges.length]
    tasks := by
      intro id own
      rcases Nat.lt_trichotomy id world.tasks.length with inside | rfl | beyond
      · rw [List.getElem?_append_left inside]
        exact lodges.tasks id own
      · exact absurd own foreign
      · have place : inner.tasks.length ≤ Nat.count mine id := by
          rw [← lodges.length]
          exact Nat.count_monotone _ (Nat.le_of_lt beyond)
        rw [List.getElem?_eq_none (by rwa [List.length_append]), List.getElem?_eq_none place]
        rfl
    others := by
      intro id task foreignId found goesOn
      rcases Nat.lt_trichotomy id world.tasks.length with inside | rfl | beyond
      · rw [List.getElem?_append_left inside] at found
        exact lodges.others id task foreignId found goesOn
      · rw [List.getElem?_concat_length] at found
        cases found
        exact fun _ member => absurd member (by simp [Task.fresh])
      · rw [List.getElem?_eq_none (by rwa [List.length_append])] at found
        cases found }

theorem begin_beside (lodges : Lodges lodging mine world inner) (foreign : ¬mine world.tasks.length)
    (noTurn : world.running = none) (operation : Program Store Driver Procedure Answer) :
    Lodges lodging mine (world.begin operation).2 inner :=
  { lodges.append_beside foreign none operation with
    running := (place?_of_not_mine foreign).trans (lodges.noTurn noTurn).symm }

/-- The drivers of others hold tasks of others. -/
theorem not_mine_of_slot (lodges : Lodges lodging mine world inner) (decorous : world.Decorous etiquette)
    (apart : ∀ room, lodging.door room ≠ driver) (holding : (world.holdings driver).slot = some held) :
    ¬mine held := by
  intro own
  have made := decorous.slots driver held holding
  simp only [owners, bare, List.getElem?_map, Option.map_eq_some_iff] at made
  obtain ⟨_, ⟨task, found, rfl⟩, owner⟩ := made
  have same := lodges.tasks held own
  rw [found] at same
  obtain ⟨other, -, alike⟩ := Option.map_eq_some_iff.mp same.symm
  have both : other.owner.map lodging.door = some driver := (congrArg Task.owner alike).trans owner
  obtain ⟨room, -, door⟩ := Option.map_eq_some_iff.mp both
  exact apart room door

section Drivers

variable [DecidableEq Driver]

theorem setHolding_beside (lodges : Lodges lodging mine world inner)
    (apart : ∀ room, lodging.door room ≠ driver) (holding : Holding) :
    Lodges lodging mine (world.setHolding driver holding) inner := by
  refine { lodges with slots := fun room => ?_, lives := fun room => ?_ }
  · rw [holdings_setHolding_of_ne _ _ (apart room)]
    exact lodges.slots room
  · rw [holdings_setHolding_of_ne _ _ (apart room)]
    exact lodges.lives room

theorem install_beside (lodges : Lodges lodging mine world inner)
    (apart : ∀ room, lodging.door room ≠ driver) (foreign : ¬mine world.tasks.length)
    (body : Program Store Driver Procedure Answer) : Lodges lodging mine (world.install driver body) inner :=
  ((lodges.append_beside foreign (some driver) body).setHolding_beside apart _).enqueue_beside
    (by simp [Turn.placed?, place?_of_not_mine foreign])

end Drivers

/-! ## Steps of others -/

section Steps

variable [DecidableEq Driver] {machine : Machine Store Driver Procedure Answer}

/-- A task of somebody else's driver acts. -/
theorem step_driver (lodges : Lodges lodging mine world inner) (balanced : world.Balanced)
    (decorous : world.Decorous etiquette) (machineDecorous : machine.Decorous etiquette) (foreign : ¬mine id)
    (turn : world.running = some id) (own : world.owners[id]? = some (some driver))
    (keeps : ∀ change, etiquette.writes (some driver) change →
      lodging.view (change world.store) = lodging.view world.store)
    (spares : ∀ other, etiquette.hands (some driver) other → ∀ room, lodging.door room ≠ other)
    (added : (world.step machine).tasks.length ≠ world.tasks.length → ¬mine world.tasks.length) :
    Lodges lodging mine (world.step machine) inner := by
  have noTurn := lodges.turn_of_other foreign turn
  have acting {someone : TaskId} {task : Task Store Driver Procedure Answer}
      (acts : world.running = some someone) (found : world.tasks[someone]? = some task) :
      someone = id ∧ task.owner = some driver := by
    cases turn.symm.trans acts
    exact ⟨rfl, Option.some.inj ((owner_of_found found).symm.trans own)⟩
  have goesOn := balanced.unended_of_turn turn
  have advances := decorous.advances machineDecorous balanced
  generalize world.step machine = after at advances added ⊢
  cases advances with
  | rests => exact lodges
  | @goesOn someone task store control frames acts found writes _ _ =>
      obtain ⟨rfl, owner⟩ := acting acts found
      have same : lodging.view store = lodging.view world.store := by
        rcases writes with rfl | ⟨change, allowed, rfl⟩
        · rfl
        · exact keeps change (owner ▸ allowed)
      exact (lodges.withStore_beside same).proceed_beside foreign control frames
  | @ends someone task outcome acts found =>
      obtain ⟨rfl, -⟩ := acting acts found
      refine lodges.finish_beside foreign noTurn (lodges.others someone task foreign found ?_) outcome
      simpa [isUnended, found] using goesOn
  | @sleeps someone task duration next acts found _ _ _ =>
      obtain ⟨rfl, -⟩ := acting acts found
      exact (lodges.proceed_beside foreign _ _).sleep_beside foreign
        ((isUnended_proceed _ _).trans goesOn) noTurn machine duration
  | @hands someone task given body control acts found allowed _ _ _ =>
      obtain ⟨rfl, owner⟩ := acting acts found
      rw [owner] at allowed
      have length : (world.displace given someone).tasks.length = world.tasks.length :=
        length_tasks_displace _ _ _
      have new : ¬mine world.tasks.length := by
        refine added ?_
        simp [World.proceed, World.modifyTask, World.install, World.enqueue, World.setHolding, length]
      have displaced := lodges.displace_beside
        (fun _ holding => lodges.not_mine_of_slot decorous (spares given allowed) holding) someone
      exact (displaced.install_beside (spares given allowed) (by rwa [length]) body).proceed_beside foreign
        control task.frames
  | passes acts found outside => rw [(acting acts found).2] at outside; cases outside
  | cancels acts found outside => rw [(acting acts found).2] at outside; cases outside
  | joins acts found outside => rw [(acting acts found).2] at outside; cases outside
  | takes noTurn => rw [noTurn] at turn; cases turn
  | learns noTurn => rw [noTurn] at turn; cases turn

/-- Somebody else's operation acts, and the lodger stays. -/
theorem step_operation (lodges : Lodges lodging mine world inner) (decorous : world.Decorous etiquette)
    (foreign : ¬mine id) (turn : world.running = some id) (asks : world.Asks id program)
    (shuns : program.Shuns lodging tenancy world.store)
    (stays : tenancy.stays world.store (world.step machine).store)
    (added : (world.step machine).tasks.length ≠ world.tasks.length → ¬mine world.tasks.length) :
    Lodges lodging mine (world.step machine) inner := by
  have noTurn := lodges.turn_of_other foreign turn
  cases program with
  | done answer =>
      obtain ⟨task, found, -, control, frames⟩ := asks.found
      have stepped : world.step machine = world.finish id task.joiners (.finished answer) := by
        simp only [World.step, turn, found, control, World.execute, frames]
      rw [stepped]
      refine lodges.finish_beside foreign noTurn (lodges.others id task foreign found ?_) _
      simpa [isUnended, found] using asks.goesOn
  | look choose =>
      rw [asks.step_look machine turn]
      exact lodges.proceed_beside foreign _ _
  | update change next =>
      rw [asks.step_update machine turn] at stays ⊢
      exact (lodges.withStore_beside (shuns.2 stays).1).proceed_beside foreign _ _
  | call procedure next =>
      rw [asks.step_call machine turn]
      exact lodges.proceed_beside foreign _ _
  | spawn driver body next =>
      have length : (world.displace driver id).tasks.length = world.tasks.length :=
        length_tasks_displace _ _ _
      rw [asks.step_spawn machine turn] at added ⊢
      have new : ¬mine world.tasks.length := by
        refine added ?_
        simp [World.proceed, World.modifyTask, World.install, World.enqueue, World.setHolding, length]
      have displaced := lodges.displace_beside
        (fun _ holding => lodges.not_mine_of_slot decorous shuns.1 holding) id
      exact (displaced.install_beside shuns.1 (by rwa [length]) body).proceed_beside foreign _ _
  | cancel driver next =>
      have vacated := lodges.setHolding_beside shuns.1 { slot := none, live := none }
      cases holding : (world.holdings driver).slot with
      | none =>
          rw [asks.step_cancel machine turn holding]
          exact vacated.proceed_beside foreign _ _
      | some held =>
          have heldByOther := lodges.not_mine_of_slot decorous shuns.1 holding
          rw [asks.step_cancel_held machine turn holding
            (asks.different (decorous.slots driver held holding))]
          have goesOn : ((world.setHolding driver { slot := none, live := none }).proceed id (.run next)
              []).isUnended id = true := (isUnended_proceed _ _).trans asks.goesOn
          exact (((vacated.proceed_beside foreign _ _).cancelTask_beside heldByOther).join_beside foreign
            (isUnended_cancelTask.trans goesOn) heldByOther).yieldTurn_beside noTurn
  | settle drivers remaining next =>
      obtain ⟨task, found, -, control, frames⟩ := asks.found
      simp only [World.step, turn, found, control]
      cases remaining with
      | nil =>
          simp only [World.execute]
          split <;> exact lodges.proceed_beside foreign _ _
      | cons driver remaining =>
          have apart : ∀ room, lodging.door room ≠ driver :=
            shuns.1 driver (List.mem_append_right _ List.mem_cons_self)
          simp only [World.execute]
          cases holding : (world.holdings driver).slot with
          | none => exact lodges.proceed_beside foreign _ _
          | some held =>
              simp only
              split
              · exact (lodges.join_beside foreign asks.goesOn
                  (lodges.not_mine_of_slot decorous apart holding)).yieldTurn_beside noTurn
              · exact lodges.proceed_beside foreign _ _
  | fail | check | revoke | pause | guard | ensure => exact shuns.elim

/-- A turn begins that somebody else has asked for. -/
theorem step_turn_beside (lodges : Lodges lodging mine world inner) {turn : Turn} {queue : List Turn}
    (noTurn : world.running = none) (queued : world.queue = turn :: queue)
    (foreign : turn.placed? mine = none) : Lodges lodging mine (world.step machine) inner := by
  have taken : Lodges lodging mine { world with queue := queue, running := none } inner :=
    { lodges with
      queue := by rw [← lodges.queue, queued, List.filterMap_cons_none foreign]
      running := (lodges.noTurn noTurn).symm }
  simp only [World.step, noTurn, queued]
  cases turn with
  | run id =>
      have other : ¬mine id := by simpa [Turn.placed?, place?] using foreign
      exact taken.beginTurn_beside other (lodges.noTurn noTurn)
  | joined id =>
      have other : ¬mine id := by simpa [Turn.placed?, place?] using foreign
      exact taken.noteJoined_beside other

end Steps

end Lodges

/-! ## Operations that leave a lodger alone -/

/-- All operations but the lodger's leave it alone: from the store as it is while they act, and from whatever
store it can be found in when their next turn comes. -/
def Shunned (lodging : Lodging Inner Room Errand Word Store Driver Procedure Answer) (tenancy : Tenancy Store)
    (mine : TaskId → Prop) (world : World Store Driver Procedure Answer) : Prop :=
  ∀ id program, ¬mine id → world.Asks id program →
    (world.running = some id → program.Shuns lodging tenancy world.store)
      ∧ (world.running ≠ some id → ∀ store, tenancy.stands store → program.Shuns lodging tenancy store)

namespace Shunned

variable {more : TaskId → Prop} {terms : Pact Store Driver Procedure Answer Unit}

omit [DecidablePred mine] in
theorem mono (shunned : world.Shunned lodging tenancy mine) (among : ∀ id, mine id → more id) :
    world.Shunned lodging tenancy more :=
  fun id program foreign asks => shunned id program (fun own => foreign (among id own)) asks

omit [DecidablePred mine] in
/-- Whatever begins that is not the lodger's has to leave it alone. -/
theorem begin {operation : Program Store Driver Procedure Answer}
    (shunned : world.Shunned lodging tenancy mine) (noTurn : world.running = none)
    (shuns : ¬mine world.tasks.length → operation.Shuns lodging tenancy world.store) :
    (world.begin operation).2.Shunned lodging tenancy mine := by
  intro id program foreign asks
  rcases begin_cases asks.own with ⟨own, same⟩ | ⟨rfl, -⟩
  · have inside : id < world.tasks.length := by
      rw [← length_owners]
      exact (List.getElem?_eq_some_iff.mp own).1
    have before : world.Asks id program := asks.of_same
      (by rw [World.bare, World.bare, List.getElem?_map, List.getElem?_map, same])
      (by rw [isUnended, isUnended, same])
    have waits := (shunned id program foreign before).2 (by simp [noTurn])
    refine ⟨fun turn => ?_, fun _ => waits⟩
    have last : world.tasks.length = id := Option.some.inj turn
    exact absurd last (Nat.ne_of_gt inside)
  · rw [asks.unique (.begin world operation)]
    exact ⟨fun _ => shuns foreign, fun idle => absurd rfl idle⟩

omit [DecidablePred mine] in
theorem release? {position : Nat} {released : World Store Driver Procedure Answer}
    (shunned : world.Shunned lodging tenancy mine) (balanced : world.Balanced)
    (noTurn : world.running = none) (wait : world.release? position = some released) :
    released.Shunned lodging tenancy mine := by
  have bare := bare_release? wait
  have running : released.running = none := by
    obtain ⟨_, -, rfl⟩ := release?_eq_some.mp wait
    exact noTurn
  intro id program foreign asks
  have before : world.Asks id program := asks.of_same (congrArg (fun tasks => tasks[id]?) bare.symm)
    (isUnended_release? balanced wait).symm
  exact ⟨fun turn => absurd turn (by simp [running]),
    fun _ => (shunned id program foreign before).2 (by simp [noTurn])⟩

omit [DecidablePred mine] in
theorem restore (shunned : world.Shunned lodging tenancy mine) (noTurn : world.running = none)
    (store : Store) :
    ({ world with store := store } : World Store Driver Procedure Answer).Shunned lodging tenancy mine := by
  intro id program foreign asks
  exact ⟨fun turn => absurd turn (by simp [noTurn]),
    fun _ => (shunned id program foreign (asks.of_same rfl rfl)).2 (by simp [noTurn])⟩

variable [DecidableEq Driver] {machine : Machine Store Driver Procedure Answer}

omit [DecidablePred mine] in
/-- What an acting operation goes on with leaves the lodger alone, if the lodger stays. -/
theorem goes_on (respects : machine.Respects etiquette lodging tenancy) (decorous : world.Decorous etiquette)
    (turn : world.running = some id) (asks : world.Asks id program)
    (shuns : program.Shuns lodging tenancy world.store)
    (stands : tenancy.stands (world.step machine).store)
    (stays : tenancy.stays world.store (world.step machine).store)
    (asksNext : (world.step machine).Asks id next) :
    next.Shuns lodging tenancy (world.step machine).store
      ∧ ((world.step machine).running ≠ some id →
        ∀ store, tenancy.stands store → next.Shuns lodging tenancy store) := by
  have proceeds : ∀ (changed : World Store Driver Procedure Answer)
      {goesOn : Program Store Driver Procedure Answer}, changed.tasks = world.tasks →
      changed.running = some id → world.step machine = changed.proceed id (.run goesOn) [] →
      goesOn.Shuns lodging tenancy changed.store →
      next.Shuns lodging tenancy (world.step machine).store
        ∧ ((world.step machine).running ≠ some id →
          ∀ store, tenancy.stands store → next.Shuns lodging tenancy store) := by
    intro changed goesOn same running stepped shunsNext
    rw [stepped] at asksNext ⊢
    rw [asksNext.unique (asks.proceed changed same)]
    exact ⟨shunsNext, fun idle => absurd running idle⟩
  cases program with
  | done answer =>
      obtain ⟨joiners, stepped⟩ := asks.step_done machine turn
      have isOver := asks.outcome?_finish joiners (.finished answer)
      rw [← stepped, asksNext.no_outcome] at isOver
      cases isOver
  | look choose => exact proceeds _ rfl turn (asks.step_look machine turn) shuns
  | update change later =>
      have stepped := asks.step_update machine turn
      rw [stepped] at stays
      exact proceeds { world with store := change world.store } rfl turn stepped (shuns.2 stays).2
  | call procedure later =>
      have stepped := asks.step_call machine turn
      rw [stepped] at stands
      exact proceeds _ rfl turn stepped (respects procedure (asks.decorous decorous).1 later _ stands shuns)
  | spawn driver body later =>
      have store : (world.displace driver id).store = world.store := store_displace driver
      have running : (world.displace driver id).running = some id := by rw [running_displace, turn]
      rw [asks.step_spawn machine turn] at asksNext ⊢
      rw [asksNext.unique asks.spawn]
      refine ⟨?_, fun idle => absurd running idle⟩
      show later.Shuns lodging tenancy (world.displace driver id).store
      rw [store]
      exact shuns.2
  | cancel driver later =>
      cases holding : (world.holdings driver).slot with
      | none =>
          have stepped := asks.step_cancel machine turn holding
          rw [stepped] at stands
          exact proceeds (world.setHolding driver _) rfl turn stepped (shuns.2 _ stands)
      | some held =>
          have stepped := asks.step_cancel_held machine turn holding
            (asks.different (decorous.slots driver held holding))
          rw [stepped] at asksNext stands ⊢
          rw [asksNext.unique (asks.cancel held)]
          exact ⟨shuns.2 _ stands, fun _ => shuns.2⟩
  | settle drivers remaining later =>
      obtain ⟨task, found, -, control, frames⟩ := asks.found
      have stepped : world.step machine = world.execute machine id task (.settle drivers remaining later) := by
        simp only [World.step, turn, found, control]
      have again : ∀ rest, (∀ driver ∈ rest, driver ∈ drivers ++ remaining) →
          ∀ store, (Program.settle drivers rest later).Shuns lodging tenancy store := fun rest among store =>
        ⟨fun driver member => by
          rcases List.mem_append.mp member with here | there
          · exact shuns.1 driver (List.mem_append_left _ here)
          · exact shuns.1 driver (among driver there), shuns.2⟩
      cases remaining with
      | nil =>
          simp only [World.execute, frames] at stepped
          split at stepped
          · exact proceeds _ rfl turn stepped (again drivers (fun _ => List.mem_append_left _) _)
          · rw [stepped] at stands
            exact proceeds _ rfl turn stepped (shuns.2 _ stands)
      | cons driver remaining =>
          have others : ∀ other ∈ remaining, other ∈ drivers ++ driver :: remaining := fun _ member =>
            List.mem_append_right _ (List.mem_cons_of_mem _ member)
          simp only [World.execute, frames] at stepped
          split at stepped
          · next held holding =>
              split at stepped
              · rw [stepped] at asksNext ⊢
                rw [asksNext.unique (asks.join held)]
                have same := again (driver :: remaining) fun _ => List.mem_append_right _
                exact ⟨same _, fun _ store _ => same store⟩
              · exact proceeds _ rfl turn stepped (again remaining others _)
          · exact proceeds _ rfl turn stepped (again remaining others _)
  | fail | check | revoke | pause | guard | ensure => exact shuns.elim

omit [DecidablePred mine] in
/-- What an operation changes takes nothing away that will be the lodger's. -/
theorem leaves_step (machine : Machine Store Driver Procedure Answer)
    (shunned : world.Shunned lodging tenancy mine) (obliged : world.Obliged etiquette terms) (turn : world.running = some id) (own : world.owners[id]? = some none) (foreign : ¬mine id) :
    (world.step machine).store = world.store ∨ tenancy.leaves world.store (world.step machine).store := by
  obtain ⟨program, asks, upholds, -⟩ := obliged.commits id own (obliged.balanced.unended_of_turn turn)
  have shuns := (shunned id program foreign asks).1 turn
  rcases asks.store_step obliged.decorous (upholds turn) turn with same | ⟨change, next, rfl, changed⟩
  · exact .inl same
  · rw [changed]
    exact .inr shuns.1

omit [DecidablePred mine] in
/-- A step keeps what operations leave alone, while the lodger can be found and stays. -/
theorem step (shunned : world.Shunned lodging tenancy mine) (obliged : world.Obliged etiquette terms)
    (machineDecorous : machine.Decorous etiquette) (respects : machine.Respects etiquette lodging tenancy)
    (among : ∀ id, mine id → more id) (stands : tenancy.stands (world.step machine).store)
    (stays : ∀ id, world.running = some id → ¬more id →
      tenancy.stays world.store (world.step machine).store) :
    (world.step machine).Shunned lodging tenancy more := by
  intro id program foreign asks
  have leads := (obliged.decorous.advances machineDecorous obliged.balanced).leads
  have own := leads.outside_before asks.own
  have foreignBefore : ¬mine id := fun own => foreign (among id own)
  by_cases turn : world.running = some id
  · obtain ⟨before, asksBefore, -⟩ :=
      obliged.commits id own (obliged.balanced.unended_of_turn turn)
    have shuns := (shunned id before foreignBefore asksBefore).1 turn
    obtain ⟨now, later⟩ := goes_on respects obliged.decorous turn asksBefore shuns stands
      (stays id turn foreign) asks
    exact ⟨fun _ => now, later⟩
  · have inside : id < world.tasks.length := by
      rw [← length_owners]
      exact (List.getElem?_eq_some_iff.mp own).1
    have goesOn := (leads.unended id inside turn).symm.trans asks.goesOn
    obtain ⟨before, asksBefore, -⟩ := obliged.commits id own goesOn
    have waits := (shunned id before foreignBefore asksBefore).2 turn
    rw [asks.unique (asksBefore.of_leads obliged.decorous leads turn)]
    exact ⟨fun _ => waits _ stands, fun _ => waits⟩

end Shunned

end World

end Playthrough
