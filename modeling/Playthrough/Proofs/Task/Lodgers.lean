import Mathlib.Logic.Function.Basic
import Playthrough.Proofs.Task.Exchange
import Playthrough.Proofs.Task.Lodging

/-!
Contract: a lodger in a world that others use as well.

Owns: when a world holds a smaller one among other things (`World.Lodges`), what the lodger's tasks change of
it, what the others leave of it, and that the lodger's part of every step is a step of the smaller world
(`World.Lodges.step`).

Does not own: why the others leave it alone.

The lodger's tasks, turns and waits stand among those of others, and are found there in their own order. Its
tasks join only each other, so nobody but they are told when one of them ends. Among those whom somebody else told of its end there may
be one that came to lodge later.
-/

namespace Playthrough

variable {Inner Room Errand Word Store Driver Procedure Answer : Type}

namespace World

/-- A world holds a smaller one, beside whatever else is in it. -/
structure Lodges (lodging : Lodging Inner Room Errand Word Store Driver Procedure Answer)
    (mine : TaskId → Prop) [DecidablePred mine] (world : World Store Driver Procedure Answer)
    (inner : World Inner Room Errand Word) : Prop where
  store : lodging.view world.store = inner.store
  length : Nat.count mine world.tasks.length = inner.tasks.length
  tasks : ∀ id, mine id →
    world.tasks[id]?.map (Task.placed mine) = inner.tasks[Nat.count mine id]?.map (Task.lodged lodging)
  others : ∀ id task, ¬mine id → world.tasks[id]? = some task → task.isEnded = false →
    ∀ joiner ∈ task.joiners, ¬mine joiner
  slots : ∀ room,
    (world.holdings (lodging.door room)).slot.map (place? mine) = (inner.holdings room).slot.map some
  lives : ∀ room,
    (world.holdings (lodging.door room)).live.map (place? mine) = (inner.holdings room).live.map some
  queue : world.queue.filterMap (Turn.placed? mine) = inner.queue
  waits : world.waits.filterMap (Wait.placed? mine) = inner.waits
  begun : world.begun.filterMap (Wait.placed? mine) = inner.begun
  running : world.running.bind (place? mine) = inner.running

variable {lodging : Lodging Inner Room Errand Word Store Driver Procedure Answer}
variable {mine : TaskId → Prop} [DecidablePred mine]
variable {world : World Store Driver Procedure Answer} {inner : World Inner Room Errand Word}
variable {id held joined : TaskId} {room : Room} {driver : Driver}

namespace Lodges

/-- Where nothing has been done yet, nothing has been done by the lodger. -/
theorem initial (lodging : Lodging Inner Room Errand Word Store Driver Procedure Answer) (mine : TaskId → Prop)
    [DecidablePred mine] (store : Store) :
    Lodges lodging mine (World.initial store) (World.initial (lodging.view store)) where
  store := rfl
  length := Nat.count_zero mine
  tasks _ _ := rfl
  others _ _ _ found := by cases found
  slots _ := rfl
  lives _ := rfl
  queue := rfl
  waits := rfl
  begun := rfl
  running := rfl

/-! ## What is seen in both -/

theorem no_task (lodges : Lodges lodging mine world inner) (own : mine id)
    (missing : inner.tasks[Nat.count mine id]? = none) : world.tasks[id]? = none := by
  have same := lodges.tasks id own
  rw [missing] at same
  exact Option.map_eq_none_iff.mp same

theorem task (lodges : Lodges lodging mine world inner) (own : mine id) {other : Task Inner Room Errand Word}
    (there : inner.tasks[Nat.count mine id]? = some other) :
    ∃ task, world.tasks[id]? = some task ∧ task.placed mine = other.lodged lodging := by
  have same := lodges.tasks id own
  rw [there] at same
  exact Option.map_eq_some_iff.mp same

theorem no_slot (lodges : Lodges lodging mine world inner) (empty : (inner.holdings room).slot = none) :
    (world.holdings (lodging.door room)).slot = none := by
  have same := lodges.slots room
  rw [empty] at same
  exact Option.map_eq_none_iff.mp same

/-- A driver that has never had a task there has had none here. -/
theorem vacant (lodges : Lodges lodging mine world inner)
    (empty : inner.holdings room = { slot := none, live := none }) :
    world.holdings (lodging.door room) = { slot := none, live := none } := by
  have slot := lodges.no_slot (congrArg Holding.slot empty)
  have live := lodges.lives room
  rw [empty] at live
  cases holding : world.holdings (lodging.door room) with
  | mk held allowed =>
      rw [holding] at slot live
      exact congrArg₂ Holding.mk slot (Option.map_eq_none_iff.mp live)

theorem slot (lodges : Lodges lodging mine world inner) {place : TaskId}
    (holding : (inner.holdings room).slot = some place) :
    ∃ held, (world.holdings (lodging.door room)).slot = some held ∧ mine held
      ∧ Nat.count mine held = place := by
  have same := lodges.slots room
  rw [holding] at same
  obtain ⟨held, there, placed⟩ := Option.map_eq_some_iff.mp same
  exact ⟨held, there, place?_eq_some.mp placed⟩

theorem isEnded_eq {task : Task Store Driver Procedure Answer} {other : Task Inner Room Errand Word}
    (same : task.placed mine = other.lodged lodging) : task.isEnded = other.isEnded := by
  have status : task.status = other.status.told lodging.answer := congrArg Task.status same
  simp only [Task.isEnded, status]
  cases other.status <;> rfl

theorem isUnended_eq (lodges : Lodges lodging mine world inner) (own : mine id) :
    world.isUnended id = inner.isUnended (Nat.count mine id) := by
  simp only [isUnended]
  cases there : inner.tasks[Nat.count mine id]? with
  | none => rw [lodges.no_task own there]
  | some other =>
      obtain ⟨task, found, same⟩ := lodges.task own there
      rw [found]
      exact congrArg not (isEnded_eq same)

/-- What the lodger's operation ended with. -/
theorem outcome?_eq (lodges : Lodges lodging mine world inner) (own : mine id) :
    world.outcome? id = (inner.outcome? (Nat.count mine id)).map (Outcome.told lodging.answer) := by
  simp only [outcome?]
  cases there : inner.tasks[Nat.count mine id]? with
  | none => rw [lodges.no_task own there]; rfl
  | some other =>
      obtain ⟨task, found, same⟩ := lodges.task own there
      have status : task.status = other.status.told lodging.answer := congrArg Task.status same
      simp only [found, Option.bind_some, Task.outcome?, status]
      cases other.status <;> rfl

theorem isActive_eq (lodges : Lodges lodging mine world inner) (room : Room) :
    world.isActive (lodging.door room) = inner.isActive room := by
  simp only [isActive]
  cases holding : (inner.holdings room).slot with
  | none => rw [lodges.no_slot holding]
  | some place =>
      obtain ⟨held, there, own, rfl⟩ := lodges.slot holding
      rw [there]
      exact lodges.isUnended_eq own

theorem any_isActive (lodges : Lodges lodging mine world inner) (rooms : List Room) :
    (rooms.map lodging.door).any world.isActive = rooms.any inner.isActive := by
  rw [List.any_map]
  exact congrArg (rooms.any ·) (funext lodges.isActive_eq)

theorem mayAct_eq (lodges : Lodges lodging mine world inner) (own : mine id)
    {task : Task Store Driver Procedure Answer} {other : Task Inner Room Errand Word}
    (same : task.placed mine = other.lodged lodging) :
    world.mayAct id task = inner.mayAct (Nat.count mine id) other := by
  have owner : task.owner = other.owner.map lodging.door := congrArg Task.owner same
  simp only [mayAct, owner]
  cases other.owner with
  | none => rfl
  | some room =>
      have live := lodges.lives room
      simp only [Option.map_some]
      cases holding : (inner.holdings room).live with
      | none =>
          rw [holding] at live
          rw [Option.map_eq_none_iff.mp live]
          rfl
      | some place =>
          rw [holding] at live
          obtain ⟨held, there, placed⟩ := Option.map_eq_some_iff.mp live
          obtain ⟨ownHeld, rfl⟩ := place?_eq_some.mp placed
          rw [there, Bool.eq_iff_iff, beq_iff_eq, beq_iff_eq, Option.some.injEq, Option.some.injEq]
          exact (count_inj ownHeld own).symm

/-- When it is the lodger's turn, it is the turn of one of its tasks. -/
theorem turn (lodges : Lodges lodging mine world inner) (own : mine id) (turn : world.running = some id) :
    inner.running = some (Nat.count mine id) := by
  rw [← lodges.running, turn, Option.bind_some, place?_of_mine own]

theorem noTurn (lodges : Lodges lodging mine world inner) (noTurn : world.running = none) :
    inner.running = none := by
  rw [← lodges.running, noTurn, Option.bind_none]

/-- While somebody else acts, nobody acts among the lodger's tasks. -/
theorem turn_of_other (lodges : Lodges lodging mine world inner) (foreign : ¬mine id)
    (turn : world.running = some id) : inner.running = none := by
  rw [← lodges.running, turn, Option.bind_some, place?_of_not_mine foreign]

/-! ## What the lodger's tasks change -/

theorem modifyTask (lodges : Lodges lodging mine world inner) (own : mine id)
    {change : Task Store Driver Procedure Answer → Task Store Driver Procedure Answer}
    {otherChange : Task Inner Room Errand Word → Task Inner Room Errand Word}
    (same : ∀ task other, task.placed mine = other.lodged lodging →
      (change task).placed mine = (otherChange other).lodged lodging) :
    Lodges lodging mine (world.modifyTask id change) (inner.modifyTask (Nat.count mine id) otherChange) :=
  { lodges with
    length := by
      simp only [World.modifyTask, List.length_modify]
      exact lodges.length
    tasks := by
      intro place ownPlace
      simp only [World.modifyTask, List.getElem?_modify, count_inj own ownPlace]
      have before := lodges.tasks place ownPlace
      by_cases here : id = place
      · subst here
        cases there : inner.tasks[Nat.count mine id]? with
        | none => simp [lodges.no_task own there]
        | some other =>
            obtain ⟨task, found, alike⟩ := lodges.task own there
            simp [found, same task other alike]
      · simpa [here] using before
    others := by
      intro place task foreign found
      have different : id ≠ place := fun same => foreign (same ▸ own)
      simp only [World.modifyTask, List.getElem?_modify, different, if_false, id_map'] at found
      exact lodges.others place task foreign found }

theorem proceed (lodges : Lodges lodging mine world inner) (own : mine id)
    (control : Control Inner Room Errand Word) (frames : List (Frame Inner Room Errand Word)) :
    Lodges lodging mine
      (world.proceed id (control.lodged lodging) (frames.map (Frame.lodged lodging)))
      (inner.proceed (Nat.count mine id) control frames) :=
  lodges.modifyTask own fun _ _ same => congrArg
    (fun task => { task with
      control := control.lodged lodging
      frames := frames.map (Frame.lodged lodging) }) same

theorem restatus (lodges : Lodges lodging mine world inner) (own : mine id) (status : Status Word) :
    Lodges lodging mine
      (world.modifyTask id fun task => { task with status := status.told lodging.answer })
      (inner.modifyTask (Nat.count mine id) fun task => { task with status := status }) :=
  lodges.modifyTask own fun _ _ same => congrArg
    (fun task => { task with status := status.told lodging.answer }) same

theorem enqueue (lodges : Lodges lodging mine world inner) (turn : Turn) {placed : Turn}
    (own : turn.placed? mine = some placed) :
    Lodges lodging mine (world.enqueue turn) (inner.enqueue placed) :=
  { lodges with
    queue := by
      show (world.queue ++ [turn]).filterMap _ = inner.queue ++ [placed]
      rw [List.filterMap_append, lodges.queue, List.filterMap_cons_some own]
      rfl }

theorem yieldTurn (lodges : Lodges lodging mine world inner) :
    Lodges lodging mine world.yieldTurn inner.yieldTurn :=
  { lodges with running := rfl }

/-- The store is changed, and with it the lodger's part of it. -/
theorem withStore (lodges : Lodges lodging mine world inner) {store : Store} {part : Inner}
    (same : lodging.view store = part) :
    Lodges lodging mine { world with store := store } { inner with store := part } :=
  { lodges with store := same }

theorem wake (lodges : Lodges lodging mine world inner) (own : mine id) :
    Lodges lodging mine (world.wake id) (inner.wake (Nat.count mine id)) :=
  (lodges.restatus own .ready).enqueue (.run id) (by simp [Turn.placed?, place?_of_mine own])

omit [DecidablePred mine] in
theorem filterMap_filter_of_mine [DecidablePred mine] (own : mine id) (waits : List Wait) :
    (waits.filter fun wait => wait.task != id).filterMap (Wait.placed? mine) =
      (waits.filterMap (Wait.placed? mine)).filter fun wait => wait.task != Nat.count mine id := by
  induction waits with
  | nil => rfl
  | cons wait waits inductionHypothesis =>
      by_cases ownWait : mine wait.task
      · have placed : wait.placed? mine = some { wait with task := Nat.count mine wait.task } := by
          simp [Wait.placed?, place?_of_mine ownWait]
        rw [List.filterMap_cons_some placed]
        by_cases same : wait.task = id
        · rw [List.filter_cons_of_neg (by simp [same]), List.filter_cons_of_neg (by simp [same])]
          exact inductionHypothesis
        · rw [List.filter_cons_of_pos (by simp [same]),
            List.filter_cons_of_pos (by simpa [count_inj ownWait own] using same),
            List.filterMap_cons_some placed, inductionHypothesis]
      · have placed : wait.placed? mine = none := by simp [Wait.placed?, place?_of_not_mine ownWait]
        have different : wait.task ≠ id := fun same => ownWait (same ▸ own)
        rw [List.filter_cons_of_pos (by simp [different]), List.filterMap_cons_none placed,
          List.filterMap_cons_none placed, inductionHypothesis]

theorem dropWait (lodges : Lodges lodging mine world inner) (own : mine id) :
    Lodges lodging mine (world.dropWait id) (inner.dropWait (Nat.count mine id)) :=
  { lodges with
    waits := by
      show (world.waits.filter _).filterMap _ = inner.waits.filter _
      rw [filterMap_filter_of_mine own, lodges.waits] }

theorem cancelTask (lodges : Lodges lodging mine world inner) (own : mine held) :
    Lodges lodging mine (world.cancelTask held) (inner.cancelTask (Nat.count mine held)) := by
  have marked : ∀ {before : World Store Driver Procedure Answer} {innerBefore : World Inner Room Errand Word},
      Lodges lodging mine before innerBefore →
      Lodges lodging mine
        (before.modifyTask held fun task => { task with cancelPending := true })
        (innerBefore.modifyTask (Nat.count mine held) fun task => { task with cancelPending := true }) :=
    fun before => before.modifyTask own fun _ _ same => congrArg
      (fun task => { task with cancelPending := true }) same
  simp only [World.cancelTask]
  cases there : inner.tasks[Nat.count mine held]? with
  | none =>
      rw [lodges.no_task own there]
      exact lodges
  | some other =>
      obtain ⟨task, found, same⟩ := lodges.task own there
      have status : task.status = other.status.told lodging.answer := congrArg Task.status same
      simp only [found, status]
      cases other.status with
      | ended outcome => exact lodges
      | ready => exact marked lodges
      | joining count => exact marked lodges
      | sleeping => exact (marked (lodges.dropWait own)).wake own

theorem join (lodges : Lodges lodging mine world inner) (own : mine id) (ownJoined : mine joined) :
    Lodges lodging mine (world.join id joined) (inner.join (Nat.count mine id) (Nat.count mine joined)) := by
  have waiting := lodges.restatus own (.joining 1)
  simp only [World.join]
  rw [show (Status.joining 1 : Status Answer) = (Status.joining 1 : Status Word).told lodging.answer from rfl,
    waiting.isUnended_eq ownJoined]
  split
  · refine waiting.modifyTask ownJoined fun task other same => ?_
    have joiners : task.joiners.filterMap (place? mine) = other.joiners := congrArg Task.joiners same
    have added : (task.joiners ++ [id]).filterMap (place? mine) = other.joiners ++ [Nat.count mine id] := by
      rw [List.filterMap_append, joiners, List.filterMap_cons_some (place?_of_mine own)]
      rfl
    have replaced := congrArg (fun task => { task with joiners := other.joiners ++ [Nat.count mine id] }) same
    simp only [Task.placed, added]
    exact replaced
  · exact waiting.enqueue (.joined id) (by simp [Turn.placed?, place?_of_mine own])

theorem filterMap_joined (joiners : List TaskId) :
    (joiners.map Turn.joined).filterMap (Turn.placed? mine) =
      (joiners.filterMap (place? mine)).map Turn.joined := by
  rw [List.filterMap_map, List.map_filterMap]
  rfl

theorem finish (lodges : Lodges lodging mine world inner) (own : mine id) {joiners places : List TaskId}
    (same : joiners.filterMap (place? mine) = places) (outcome : Outcome Word) :
    Lodges lodging mine (world.finish id joiners (outcome.told lodging.answer))
      (inner.finish (Nat.count mine id) places outcome) := by
  have ended := (lodges.restatus own (.ended outcome)).yieldTurn
  refine { ended with queue := ?_ }
  show (world.queue ++ joiners.map Turn.joined).filterMap _ = inner.queue ++ places.map Turn.joined
  rw [List.filterMap_append, lodges.queue, filterMap_joined, same]

theorem sleep {machine : Machine Store Driver Procedure Answer} {innerMachine : Machine Inner Room Errand Word}
    (lodges : Lodges lodging mine world inner) (carries : machine.Carries lodging innerMachine)
    (own : mine id) (duration : Duration) :
    Lodges lodging mine (world.sleep machine id duration)
      (inner.sleep innerMachine (Nat.count mine id) duration) := by
  have asleep := lodges.restatus own .sleeping
  have placed : Wait.placed? mine { task := id, duration := duration, shown := machine.shown world.store } =
      some { task := Nat.count mine id, duration := duration, shown := innerMachine.shown inner.store } := by
    simp [Wait.placed?, place?_of_mine own, carries.shown, lodges.store]
  refine { asleep.yieldTurn with waits := ?_, begun := ?_ }
  · show (world.waits ++ [_]).filterMap _ = inner.waits ++ [_]
    rw [List.filterMap_append, lodges.waits, List.filterMap_cons_some placed]
    rfl
  · show (world.begun ++ [_]).filterMap _ = inner.begun ++ [_]
    rw [List.filterMap_append, lodges.begun, List.filterMap_cons_some placed]
    rfl

theorem displace (lodges : Lodges lodging mine world inner) (own : mine id) (room : Room) :
    Lodges lodging mine (world.displace (lodging.door room) id) (inner.displace room (Nat.count mine id)) := by
  simp only [World.displace]
  cases holding : (inner.holdings room).slot with
  | none =>
      rw [lodges.no_slot holding]
      exact lodges
  | some place =>
      obtain ⟨held, there, ownHeld, rfl⟩ := lodges.slot holding
      simp only [there, count_inj ownHeld own]
      split
      · exact lodges
      · exact lodges.cancelTask ownHeld

theorem beginTurn (lodges : Lodges lodging mine world inner) (own : mine id) :
    Lodges lodging mine (world.beginTurn id) (inner.beginTurn (Nat.count mine id)) := by
  have started : Lodges lodging mine { world with running := some id }
      { inner with running := some (Nat.count mine id) } :=
    { lodges with running := place?_of_mine own }
  refine started.modifyTask own fun task other same => ?_
  have pending : task.cancelPending = other.cancelPending := congrArg Task.cancelPending same
  rw [pending]
  split
  · exact congrArg (fun task => { task with control := .unwind .cancelled, cancelPending := false }) same
  · exact same

theorem noteJoined (lodges : Lodges lodging mine world inner) (own : mine id) :
    Lodges lodging mine (world.noteJoined id) (inner.noteJoined (Nat.count mine id)) := by
  simp only [World.noteJoined]
  cases there : inner.tasks[Nat.count mine id]? with
  | none =>
      rw [lodges.no_task own there]
      exact lodges
  | some other =>
      obtain ⟨task, found, same⟩ := lodges.task own there
      obtain ⟨owner, control, frames, status, cancelPending, joiners⟩ := other
      obtain ⟨_, _, _, _, _, _⟩ := task
      have told := congrArg Task.status same
      simp only [Task.placed, Task.lodged] at told
      subst told
      rw [found]
      cases status with
      | ready => exact lodges
      | sleeping => exact lodges
      | ended outcome => exact lodges
      | joining count =>
          rcases count with _ | _ | count
          · exact lodges.wake own
          · exact lodges.wake own
          · exact lodges.restatus own (.joining (count + 1))

/-- A task is added to the lodger's. -/
theorem append (lodges : Lodges lodging mine world inner) (own : mine world.tasks.length)
    (owner : Option Room) (program : Program Inner Room Errand Word) :
    Lodges lodging mine
      { world with
        tasks := world.tasks ++ [Task.fresh (owner.map lodging.door) (program.lodged lodging)] }
      { inner with tasks := inner.tasks ++ [Task.fresh owner program] } :=
  { lodges with
    length := by
      rw [List.length_append, List.length_append, List.length_singleton, List.length_singleton,
        count_succ_of_mine own, lodges.length]
    tasks := by
      intro id ownId
      rcases Nat.lt_trichotomy id world.tasks.length with inside | rfl | beyond
      · have place : Nat.count mine id < inner.tasks.length := by
          rw [← lodges.length]
          exact Nat.count_strict_mono ownId inside
        rw [List.getElem?_append_left inside, List.getElem?_append_left place]
        exact lodges.tasks id ownId
      · rw [List.getElem?_append_right le_rfl, lodges.length, List.getElem?_append_right le_rfl]
        simp [Task.fresh, Task.placed, Task.lodged, Control.lodged, Status.told]
      · have place : inner.tasks.length + 1 ≤ Nat.count mine id := by
          rw [← lodges.length, ← count_succ_of_mine own]
          exact Nat.count_monotone _ beyond
        rw [List.getElem?_eq_none (by rwa [List.length_append]),
          List.getElem?_eq_none (by rwa [List.length_append])]
        rfl
    others := by
      intro id task foreign found goesOn
      rcases Nat.lt_trichotomy id world.tasks.length with inside | rfl | beyond
      · rw [List.getElem?_append_left inside] at found
        exact lodges.others id task foreign found goesOn
      · exact absurd own foreign
      · rw [List.getElem?_eq_none (by rwa [List.length_append])] at found
        cases found }

section Drivers

variable [DecidableEq Driver] [DecidableEq Room]

theorem setHolding (lodges : Lodges lodging mine world inner) (apart : Function.Injective lodging.door)
    (room : Room) (holding placed : Holding)
    (slot : holding.slot.map (place? mine) = placed.slot.map some)
    (live : holding.live.map (place? mine) = placed.live.map some) :
    Lodges lodging mine (world.setHolding (lodging.door room) holding) (inner.setHolding room placed) := by
  refine { lodges with slots := fun another => ?_, lives := fun another => ?_ }
  · simp only [World.setHolding, apart.eq_iff]
    split
    · exact slot
    · exact lodges.slots another
  · simp only [World.setHolding, apart.eq_iff]
    split
    · exact live
    · exact lodges.lives another

theorem vacate (lodges : Lodges lodging mine world inner) (apart : Function.Injective lodging.door)
    (room : Room) :
    Lodges lodging mine (world.setHolding (lodging.door room) { slot := none, live := none })
      (inner.setHolding room { slot := none, live := none }) :=
  lodges.setHolding apart room _ _ rfl rfl

theorem revoke (lodges : Lodges lodging mine world inner) (apart : Function.Injective lodging.door)
    (room : Room) : Lodges lodging mine (world.revoke (lodging.door room)) (inner.revoke room) :=
  lodges.setHolding apart room _ _ (lodges.slots room) rfl

theorem install (lodges : Lodges lodging mine world inner) (apart : Function.Injective lodging.door)
    (own : mine world.tasks.length) (room : Room) (body : Program Inner Room Errand Word) :
    Lodges lodging mine (world.install (lodging.door room) (body.lodged lodging))
      (inner.install room body) := by
  have added := lodges.append own (some room) body
  have placed : place? mine world.tasks.length = some inner.tasks.length := by
    rw [place?_of_mine own, lodges.length]
  have held := added.setHolding apart room { slot := some world.tasks.length, live := some world.tasks.length }
    { slot := some inner.tasks.length, live := some inner.tasks.length } (by simp [placed]) (by simp [placed])
  exact held.enqueue (.run world.tasks.length) (by simp [Turn.placed?, placed])

end Drivers

theorem begin (lodges : Lodges lodging mine world inner) (own : mine world.tasks.length)
    (operation : Program Inner Room Errand Word) :
    Lodges lodging mine (world.begin (operation.lodged lodging)).2 (inner.begin operation).2 :=
  { lodges.append own none operation with
    running := by
      show place? mine world.tasks.length = some inner.tasks.length
      rw [place?_of_mine own, lodges.length] }

/-! ## Waits that end -/

/-- Where an item stands among those that are picked, and what is picked without it. -/
theorem filterMap_split {α β : Type} {items : List α} {position : Nat} {item : α} (pick : α → Option β)
    (found : items[position]? = some item) :
    items.filterMap pick = (items.take position).filterMap pick ++ (pick item).toList
        ++ (items.drop (position + 1)).filterMap pick
      ∧ (items.eraseIdx position).filterMap pick =
        (items.take position).filterMap pick ++ (items.drop (position + 1)).filterMap pick := by
  obtain ⟨inside, rfl⟩ := List.getElem?_eq_some_iff.mp found
  refine ⟨?_, by rw [List.eraseIdx_eq_take_drop_succ, List.filterMap_append]⟩
  conv_lhs => rw [← List.take_append_drop position items, List.drop_eq_getElem_cons inside]
  rw [List.filterMap_append, List.append_assoc]
  congr 1
  cases picked : pick items[position] with
  | none => rw [List.filterMap_cons_none picked]; rfl
  | some other => rw [List.filterMap_cons_some picked]; rfl

/-- A wait of the lodger ends in the smaller world, as the one that it is among the lodger's own. -/
theorem release? (lodges : Lodges lodging mine world inner) {released : World Store Driver Procedure Answer}
    {position : Nat} {wait : Wait} (found : world.waits[position]? = some wait) (own : mine wait.task)
    (ends : world.release? position = some released) :
    ∃ innerReleased,
      inner.release? ((world.waits.take position).filterMap (Wait.placed? mine)).length = some innerReleased
        ∧ Lodges lodging mine released innerReleased := by
  have placed : wait.placed? mine = some { wait with task := Nat.count mine wait.task } := by
    simp [Wait.placed?, place?_of_mine own]
  obtain ⟨whole, rest⟩ := filterMap_split (Wait.placed? mine) found
  rw [placed, lodges.waits] at whole
  obtain ⟨_, there, rfl⟩ := release?_eq_some.mp ends
  cases found.symm.trans there
  have innerFound :
      inner.waits[((world.waits.take position).filterMap (Wait.placed? mine)).length]? =
        some { wait with task := Nat.count mine wait.task } := by
    rw [whole]
    simp
  refine ⟨_, release?_eq_some.mpr ⟨_, innerFound, rfl⟩, ?_⟩
  have dropped : Lodges lodging mine { world with waits := world.waits.eraseIdx position }
      { inner with
        waits := inner.waits.eraseIdx ((world.waits.take position).filterMap (Wait.placed? mine)).length } :=
    { lodges with
      waits := by
        show (world.waits.eraseIdx position).filterMap _ = _
        rw [rest, whole, List.append_assoc, List.eraseIdx_append_of_length_le le_rfl, Nat.sub_self]
        rfl }
  exact dropped.wake own

section Steps

variable [DecidableEq Driver] [DecidableEq Room]
variable {machine : Machine Store Driver Procedure Answer} {innerMachine : Machine Inner Room Errand Word}
variable {task : Task Store Driver Procedure Answer} {other : Task Inner Room Errand Word}

/-- An instruction of a lodger's task is carried out in the smaller world. -/
theorem execute (lodges : Lodges lodging mine world inner) (carries : machine.Carries lodging innerMachine)
    (apart : Function.Injective lodging.door)
    (answers : ∀ change, lodging.view (lodging.amend change world.store) = change (lodging.view world.store))
    (own : mine id) (same : task.placed mine = other.lodged lodging) (program : Program Inner Room Errand Word)
    (added : (world.execute machine id task (program.lodged lodging)).tasks.length ≠ world.tasks.length →
      mine world.tasks.length) :
    Lodges lodging mine (world.execute machine id task (program.lodged lodging))
      (inner.execute innerMachine (Nat.count mine id) other program) := by
  have around : task.frames = other.frames.map (Frame.lodged lodging) := congrArg Task.frames same
  have owner : task.owner = other.owner.map lodging.door := congrArg Task.owner same
  have joiners : task.joiners.filterMap (place? mine) = other.joiners := congrArg Task.joiners same
  have proceeds : ∀ control : Control Inner Room Errand Word,
      Lodges lodging mine (world.proceed id (control.lodged lodging) task.frames)
        (inner.proceed (Nat.count mine id) control other.frames) := fun control => by
    rw [around]
    exact lodges.proceed own control other.frames
  cases program with
  | done word =>
      simp only [Program.lodged, World.execute, around]
      cases other.frames with
      | nil => exact lodges.finish own joiners (.finished word)
      | cons frame frames =>
          cases frame with
          | guarded next => exact lodges.proceed own (.run next) frames
          | ensured cleanup next =>
              simp only [List.map_cons, Frame.lodged]
              rw [← Program.lodged_andThen]
              exact lodges.proceed own (.run (cleanup.andThen next)) frames
          | resumed signal => exact lodges.proceed own (.unwind signal) frames
  | fail fault => exact proceeds (.unwind (.fault fault))
  | look choose =>
      simp only [Program.lodged, World.execute, lodges.store]
      exact proceeds (.run (choose inner.store))
  | update change next =>
      have changed : lodging.view (lodging.amend change world.store) = change inner.store := by
        rw [answers, lodges.store]
      simp only [Program.lodged, World.execute, around]
      exact (lodges.withStore changed).proceed own (.run next) other.frames
  | call errand next =>
      simp only [Program.lodged, World.execute, carries.body]
      rw [← Program.lodged_andThen]
      exact proceeds (.run ((innerMachine.body errand).andThen next))
  | check next =>
      simp only [Program.lodged, World.execute, lodges.mayAct_eq own same]
      split
      · exact proceeds (.run next)
      · exact proceeds (.unwind .superseded)
  | revoke next =>
      simp only [Program.lodged, World.execute, lodges.mayAct_eq own same, owner]
      cases other.owner with
      | none => exact proceeds (.run next)
      | some room =>
          simp only [Option.map_some]
          split
          · rw [around]
            exact (lodges.revoke apart room).proceed own (.run next) other.frames
          · exact proceeds (.run next)
  | pause duration next =>
      simp only [Program.lodged, World.execute, lodges.mayAct_eq own same]
      split
      · have paused : Lodges lodging mine
            (world.proceed id (.run (.check (next.lodged lodging))) task.frames)
            (inner.proceed (Nat.count mine id) (.run (.check next)) other.frames) :=
          proceeds (.run (.check next))
        exact paused.sleep carries own duration
      · exact proceeds (.unwind .superseded)
  | spawn room body next =>
      have displaced := lodges.displace own room
      have length : (world.displace (lodging.door room) id).tasks.length = world.tasks.length :=
        length_tasks_displace _ _ _
      have new : mine (world.displace (lodging.door room) id).tasks.length := by
        rw [length]
        refine added ?_
        simp [Program.lodged, World.execute, World.proceed, World.modifyTask, World.install,
          World.enqueue, World.setHolding, length]
      simp only [Program.lodged, World.execute, around]
      exact (displaced.install apart new room body).proceed own (.run next) other.frames
  | cancel room next =>
      have taken := (lodges.vacate apart room).proceed own (.run next) other.frames
      simp only [Program.lodged, World.execute, around]
      cases holding : (inner.holdings room).slot with
      | none =>
          rw [lodges.no_slot holding]
          exact taken
      | some place =>
          obtain ⟨held, there, ownHeld, rfl⟩ := lodges.slot holding
          simp only [there, count_inj ownHeld own]
          split
          · exact taken
          · exact ((taken.cancelTask ownHeld).join own ownHeld).yieldTurn
  | settle rooms remaining next =>
      cases remaining with
      | nil =>
          simp only [Program.lodged, World.execute, List.map_nil, lodges.any_isActive]
          split
          · exact proceeds (.run (.settle rooms rooms next))
          · exact proceeds (.run next)
      | cons room remaining =>
          simp only [Program.lodged, World.execute, List.map_cons]
          cases holding : (inner.holdings room).slot with
          | none =>
              rw [lodges.no_slot holding]
              exact proceeds (.run (.settle rooms remaining next))
          | some place =>
              obtain ⟨held, there, ownHeld, rfl⟩ := lodges.slot holding
              simp only [there, lodges.isUnended_eq ownHeld]
              split
              · exact (lodges.join own ownHeld).yieldTurn
              · exact proceeds (.run (.settle rooms remaining next))
  | guard body next =>
      simp only [Program.lodged, World.execute, around]
      exact lodges.proceed own (.run body) (.guarded next :: other.frames)
  | ensure body cleanup next =>
      simp only [Program.lodged, World.execute, around]
      exact lodges.proceed own (.run body) (.ensured cleanup next :: other.frames)

omit [DecidableEq Driver] [DecidableEq Room] in
/-- A signal on its way out of a lodger's task is on its way out in the smaller world. -/
theorem unwind (lodges : Lodges lodging mine world inner) (own : mine id)
    (same : task.placed mine = other.lodged lodging) (signal : Signal) :
    Lodges lodging mine (world.unwind id task signal) (inner.unwind (Nat.count mine id) other signal) := by
  have around : task.frames = other.frames.map (Frame.lodged lodging) := congrArg Task.frames same
  have joiners : task.joiners.filterMap (place? mine) = other.joiners := congrArg Task.joiners same
  simp only [World.unwind, around]
  cases other.frames with
  | nil =>
      cases signal with
      | cancelled => exact lodges.finish own joiners .cancelled
      | superseded => exact lodges.finish own joiners (.finished none)
      | fault fault => exact lodges.finish own joiners (.failed fault)
  | cons frame frames =>
      cases frame with
      | guarded next =>
          simp only [List.map_cons, Frame.lodged]
          split
          · exact lodges.proceed own (.run next) frames
          · exact lodges.proceed own (.unwind signal) frames
      | ensured cleanup next => exact lodges.proceed own (.run cleanup) (.resumed signal :: frames)
      | resumed _ => exact lodges.proceed own (.unwind signal) frames

/-- When one of the lodger's tasks acts, it acts in the smaller world. -/
theorem step (lodges : Lodges lodging mine world inner) (carries : machine.Carries lodging innerMachine)
    (apart : Function.Injective lodging.door)
    (answers : ∀ change, lodging.view (lodging.amend change world.store) = change (lodging.view world.store))
    (own : mine id) (turn : world.running = some id)
    (added : (world.step machine).tasks.length ≠ world.tasks.length → mine world.tasks.length) :
    Lodges lodging mine (world.step machine) (inner.step innerMachine) := by
  have innerTurn := lodges.turn own turn
  simp only [World.step, turn, innerTurn] at added ⊢
  cases there : inner.tasks[Nat.count mine id]? with
  | none =>
      rw [lodges.no_task own there]
      exact lodges.yieldTurn
  | some other =>
      obtain ⟨task, found, same⟩ := lodges.task own there
      have control : task.control = other.control.lodged lodging := congrArg Task.control same
      simp only [found, control] at added ⊢
      cases running : other.control with
      | run program =>
          simp only [running, Control.lodged] at added ⊢
          exact lodges.execute carries apart answers own same program added
      | unwind signal => exact lodges.unwind own same signal

/-- A turn that one of the lodger's tasks has asked for begins in the smaller world. -/
theorem step_turn (lodges : Lodges lodging mine world inner) {turn placed : Turn} {queue : List Turn}
    (noTurn : world.running = none) (queued : world.queue = turn :: queue)
    (own : turn.placed? mine = some placed) :
    Lodges lodging mine (world.step machine) (inner.step innerMachine) := by
  have first : inner.queue = placed :: queue.filterMap (Turn.placed? mine) := by
    rw [← lodges.queue, queued, List.filterMap_cons_some own]
  have taken : Lodges lodging mine { world with queue := queue, running := none }
      { inner with queue := queue.filterMap (Turn.placed? mine), running := none } :=
    { lodges with queue := rfl, running := rfl }
  simp only [World.step, noTurn, queued, lodges.noTurn noTurn, first]
  cases turn with
  | run id =>
      obtain ⟨place, there, rfl⟩ := Option.map_eq_some_iff.mp own
      obtain ⟨mineId, rfl⟩ := place?_eq_some.mp there
      exact taken.beginTurn mineId
  | joined id =>
      obtain ⟨place, there, rfl⟩ := Option.map_eq_some_iff.mp own
      obtain ⟨mineId, rfl⟩ := place?_eq_some.mp there
      exact taken.noteJoined mineId

end Steps

end Lodges

end World

end Playthrough
