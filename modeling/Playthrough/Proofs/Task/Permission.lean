import Playthrough.Proofs.Task.Abiding

/-!
Contract: only the newest program of a driver acts, and only until it is cancelled.

Owns: the ledger of the programs that a driver was given, the ways in which a driver is used from
outside, and what every program has to do with its permission.

Does not own: drivers that play scenes.

The ledger is kept by reading the instructions that are carried out: it does not look at what the
driver holds. That the driver's own account of the live task agrees with it is part of what is kept
by every move.
-/

namespace Playthrough.Script

/-! ## The ledger -/

/-- What was done about the programs of a driver, as the instructions tell it. -/
structure Ledger where
  /-- The program that was spawned last. -/
  newest : Option TaskId
  /-- The programs that were cancelled. -/
  cancelled : List TaskId

namespace Ledger

/-- Before anything was spawned. -/
def empty : Ledger := { newest := none, cancelled := [] }

/-- Whether a program is the newest one and was not cancelled. -/
def Permits (ledger : Ledger) (id : TaskId) : Prop :=
  ledger.newest = some id ∧ id ∉ ledger.cancelled

/-- The program that was spawned last is cancelled, if there is one. -/
def cancelNewest (ledger : Ledger) : Ledger :=
  { ledger with cancelled := ledger.newest.toList ++ ledger.cancelled }

/-- Writes down the instruction that a world carries out next. The program of a task that is spawned
has the number of that task. -/
def noted (ledger : Ledger) (world : Setting) : Ledger :=
  match world.instruction? with
  | some (_, .spawn _ _ _) => { ledger.cancelNewest with newest := some world.tasks.length }
  | some (_, .cancel _ _) => ledger.cancelNewest
  | some (id, .revoke _) => { ledger with cancelled := id :: ledger.cancelled }
  | _ => ledger

end Ledger

variable {ledger : Ledger} {world after : Setting} {id : TaskId}
variable {task : Task Log Unit Empty Unit} {tasks : List (Task Log Unit Empty Unit)}

/-! ## The driver's own account -/

/-- What the driver holds, and what waits, agree with the ledger. -/
structure Accounted (ledger : Ledger) (world : Setting) : Prop where
  live : ∀ id, (world.holdings ()).live = some id ↔ ledger.Permits id
  slot : ∀ id, (world.holdings ()).live = some id → (world.holdings ()).slot = some id
  made : ∀ id, ledger.newest = some id → world.owners[id]? = some (some ())
  known : ∀ id ∈ ledger.cancelled, id < world.owners.length
  waits : ∀ wait ∈ world.waits, ledger.Permits wait.task

theorem Ledger.not_permits_cancelNewest (ledger : Ledger) (id : TaskId) :
    ¬ledger.cancelNewest.Permits id := by
  rintro ⟨newest, valid⟩
  refine valid (List.mem_append_left _ ?_)
  rw [show ledger.newest = some id from newest]
  exact List.mem_singleton_self id

namespace Accounted

/-- Tasks are added that the driver does not hold, or waits end. -/
theorem of_more (accounted : Accounted ledger world) (holdings : after.holdings = world.holdings)
    (owners : world.owners <+: after.owners) (waits : ∀ wait ∈ after.waits, wait ∈ world.waits) :
    Accounted ledger after := by
  refine ⟨by rw [holdings]; exact accounted.live, by rw [holdings]; exact accounted.slot, ?_, ?_, ?_⟩
  · intro id newest
    obtain ⟨rest, same⟩ := owners
    have made := accounted.made id newest
    rw [← same, List.getElem?_append_left (List.getElem?_eq_some_iff.mp made).1]
    exact made
  · intro id member
    exact Nat.lt_of_lt_of_le (accounted.known id member) owners.length_le
  · intro wait member
    exact accounted.waits wait (waits wait member)

theorem of_same (accounted : Accounted ledger world) (holdings : after.holdings = world.holdings)
    (owners : after.owners = world.owners) (waits : after.waits = world.waits) :
    Accounted ledger after :=
  accounted.of_more holdings (owners ▸ List.prefix_rfl)
    (by rw [waits]; exact fun _ member => member)

/-- The program that may act waits for nothing while it acts. -/
theorem no_wait_of_permits (accounted : Accounted ledger world) (orderly : world.Orderly (some id))
    (permits : ledger.Permits id) : world.waits = [] := by
  refine List.eq_nil_iff_forall_not_mem.mpr ?_
  intro wait member
  have same : some wait.task = some id := (accounted.waits wait member).1.symm.trans permits.1
  exact orderly.ne_of_wait member (Option.some.inj same)

/-- Once the task in the slot was cancelled, by itself or by another one, nothing waits. -/
theorem no_wait_of_taken {waits : List Wait} (accounted : Accounted ledger world)
    (orderly : world.Orderly (some id))
    (kept : ∀ wait ∈ waits, wait ∈ world.waits
      ∧ ∀ held, (world.holdings ()).slot = some held → held ≠ id → wait.task ≠ held) : waits = [] := by
  refine List.eq_nil_iff_forall_not_mem.mpr ?_
  intro wait member
  obtain ⟨before, others⟩ := kept wait member
  have slot := accounted.slot wait.task ((accounted.live wait.task).mpr (accounted.waits wait before))
  exact others wait.task slot (orderly.ne_of_wait before) rfl

/-- The driver is cancelled. -/
theorem cancel (accounted : Accounted ledger world) (owners : after.owners = world.owners)
    (holdings : after.holdings () = { slot := none, live := none }) (waits : after.waits = []) :
    Accounted ledger.cancelNewest after := by
  refine ⟨?_, ?_, ?_, ?_, by simp [waits]⟩
  · intro id
    rw [holdings]
    exact ⟨nofun, fun permits => absurd permits (ledger.not_permits_cancelNewest id)⟩
  · rw [holdings]
    exact fun _ => nofun
  · rw [owners]
    exact accounted.made
  · intro id member
    rw [owners]
    rcases List.mem_append.mp member with newest | before
    · exact (List.getElem?_eq_some_iff.mp (accounted.made id (Option.mem_toList.mp newest))).1
    · exact accounted.known id before

/-- A program is spawned. -/
theorem spawn (accounted : Accounted ledger world) (owners : after.owners = world.owners ++ [some ()])
    (holdings : after.holdings () =
      { slot := some world.owners.length, live := some world.owners.length })
    (waits : after.waits = []) :
    Accounted { ledger.cancelNewest with newest := some world.owners.length } after := by
  have cancelled : ∀ id ∈ ledger.cancelNewest.cancelled, id < world.owners.length := by
    intro id member
    rcases List.mem_append.mp member with newest | before
    · exact (List.getElem?_eq_some_iff.mp (accounted.made id (Option.mem_toList.mp newest))).1
    · exact accounted.known id before
  refine ⟨?_, ?_, ?_, ?_, by simp [waits]⟩
  · intro id
    rw [holdings]
    refine ⟨fun live => ⟨live, fun member => ?_⟩, fun permits => permits.1⟩
    have inside := cancelled id member
    rw [show id = world.owners.length from (Option.some.inj live).symm] at inside
    exact Nat.lt_irrefl _ inside
  · rw [holdings]
    exact fun _ live => live
  · rintro id ⟨⟩
    rw [owners]
    exact List.getElem?_concat_length
  · intro id member
    rw [owners, List.length_append]
    exact Nat.lt_add_right _ (cancelled id member)

/-- A program revokes its own permission, which it may have lost before. -/
theorem revoke (accounted : Accounted ledger world) (orderly : world.Orderly (some id))
    (inside : id < world.owners.length) (owners : after.owners = world.owners)
    (waits : after.waits = world.waits)
    (holdings : after.holdings () = if (world.holdings ()).live = some id then
      { world.holdings () with live := none } else world.holdings ()) :
    Accounted { ledger with cancelled := id :: ledger.cancelled } after := by
  have made : ∀ other, ledger.newest = some other → after.owners[other]? = some (some ()) := by
    rw [owners]
    exact accounted.made
  have known : ∀ other ∈ id :: ledger.cancelled, other < after.owners.length := by
    rw [owners]
    exact List.forall_mem_cons.mpr ⟨inside, accounted.known⟩
  by_cases live : (world.holdings ()).live = some id
  · have permits := (accounted.live id).mp live
    rw [if_pos live] at holdings
    refine ⟨?_, ?_, made, known, ?_⟩
    · intro other
      rw [holdings]
      refine ⟨nofun, ?_⟩
      rintro ⟨newest, valid⟩
      have same : some other = some id := newest.symm.trans permits.1
      exact absurd (List.mem_cons.mpr (.inl (Option.some.inj same))) valid
    · rw [holdings]
      exact fun _ => nofun
    · rw [waits, accounted.no_wait_of_permits orderly permits]
      simp
  · have others : ∀ other, ledger.Permits other →
        Ledger.Permits { ledger with cancelled := id :: ledger.cancelled } other := by
      rintro other permits
      refine ⟨permits.1, List.not_mem_cons_of_ne_of_not_mem ?_ permits.2⟩
      rintro rfl
      exact live ((accounted.live other).mpr permits)
    rw [if_neg live] at holdings
    refine ⟨?_, ?_, made, known, ?_⟩
    · intro other
      rw [holdings, accounted.live]
      exact ⟨others other, fun permits => ⟨permits.1, List.not_mem_of_not_mem_cons permits.2⟩⟩
    · rw [holdings]
      exact accounted.slot
    · rw [waits]
      exact fun wait member => others wait.task (accounted.waits wait member)

end Accounted

/-- A program of the driver that may act is permitted to. -/
theorem Accounted.permits_of_mayAct (accounted : Accounted ledger world)
    (owner : task.owner = some ()) (mayAct : world.mayAct id task = true) : ledger.Permits id := by
  refine (accounted.live id).mp ?_
  simpa [World.mayAct, owner] using mayAct

theorem instruction?_eq {program : Plan} (turn : world.running = some id)
    (found : world.tasks[id]? = some task) (running : task.control = .run program) :
    world.instruction? = some (id, program) := by
  simp [World.instruction?, turn, found, running]

/-- The program in the slot is displaced by another one. -/
theorem accounted_spawn (accounted : Accounted ledger world) (orderly : world.Orderly (some id))
    (driver : Unit) (body next : Plan) :
    Accounted { ledger.cancelNewest with newest := some world.tasks.length }
      (world.execute machine id task (.spawn driver body next)) := by
  have length : (world.displace driver id).tasks.length = world.owners.length :=
    (World.length_tasks_displace world driver id).trans World.length_owners.symm
  rw [← World.length_owners]
  refine accounted.spawn ?_ ?_ ?_
  · rw [World.execute, World.owners_proceed, World.owners, World.bare_install, World.bare_displace,
      List.map_append]
    rfl
  · rw [← length]
    exact World.holdings_setHolding_self
      { world.displace driver id with
        tasks := (world.displace driver id).tasks ++ [Task.fresh (some driver) body] } () _
  · refine accounted.no_wait_of_taken orderly ?_
    intro wait member
    have displaced : wait ∈ (world.displace driver id).waits := member
    simp only [World.displace] at displaced
    split at displaced
    · next other slot =>
        by_cases same : other = id
        · rw [if_pos same] at displaced
          refine ⟨displaced, ?_⟩
          intro held holds different
          exact absurd (Option.some.inj (holds.symm.trans slot)) (by rw [same]; exact different)
        · rw [if_neg same] at displaced
          obtain ⟨before, apart⟩ := orderly.wait_of_cancelTask displaced
          refine ⟨before, ?_⟩
          intro held holds _
          rwa [show held = other from Option.some.inj (holds.symm.trans slot)]
    · next empty =>
        refine ⟨displaced, ?_⟩
        intro held holds _
        rw [show (world.holdings ()).slot = none from empty] at holds
        cases holds

/-- The program in the slot is cancelled, be it the one that asks for it or another one. -/
theorem accounted_cancel (accounted : Accounted ledger world) (orderly : world.Orderly (some id))
    (driver : Unit) (next : Plan) :
    Accounted ledger.cancelNewest (world.execute machine id task (.cancel driver next)) := by
  let taken : Setting := (world.setHolding driver { slot := none, live := none }).proceed id
    (.run next) task.frames
  have takenOrderly : taken.Orderly (some id) := (orderly.setHolding driver _).proceed _ _
  have owners : taken.owners = world.owners := World.owners_proceed _ _
  have holdings : taken.holdings () = { slot := none, live := none } :=
    World.holdings_setHolding_self world () _
  simp only [World.execute]
  split
  · next empty =>
      refine accounted.cancel owners holdings (accounted.no_wait_of_taken orderly ?_)
      refine fun wait member => ⟨member, fun held holds _ => ?_⟩
      rw [show (world.holdings ()).slot = none from empty] at holds
      cases holds
  · next other slot =>
      by_cases same : other = id
      · rw [if_pos same]
        refine accounted.cancel owners holdings (accounted.no_wait_of_taken orderly ?_)
        refine fun wait member => ⟨member, fun held holds different => ?_⟩
        exact absurd (Option.some.inj (holds.symm.trans slot)) (by rw [same]; exact different)
      · rw [if_neg same]
        refine accounted.cancel ?_ ?_ ?_
        · rw [World.owners_of_bare (World.bare_yieldTurn.trans
            (World.bare_join.trans World.bare_cancelTask))]
          exact owners
        · rw [show ((taken.cancelTask other).join id other).yieldTurn.holdings =
              taken.holdings from World.holdings_join.trans World.holdings_cancelTask]
          exact holdings
        · refine accounted.no_wait_of_taken orderly ?_
          intro wait member
          have cancelled : wait ∈ (taken.cancelTask other).waits := by
            rw [← World.waits_join]
            exact member
          obtain ⟨before, apart⟩ := takenOrderly.wait_of_cancelTask cancelled
          refine ⟨before, ?_⟩
          intro held holds _
          rwa [show held = other from Option.some.inj (holds.symm.trans slot)]

/-- Every instruction leaves the driver's account in agreement with the ledger. -/
theorem accounted_execute {program : Plan} {stance : Stance} {permitted : Prop}
    (accounted : Accounted ledger world) (orderly : world.Orderly (some id))
    (turn : world.running = some id) (found : world.tasks[id]? = some task)
    (running : task.control = .run program) (keeps : Keeps permitted task stance)
    (abides : Abides stance program) :
    Accounted (ledger.noted world) (world.execute machine id task program) := by
  have inside : id < world.owners.length := by
    rw [World.length_owners]
    exact (List.getElem?_eq_some_iff.mp found).1
  have proceeds : ∀ control frames, Accounted ledger (world.proceed id control frames) :=
    fun control frames => accounted.of_same rfl (World.owners_proceed control frames) rfl
  rw [Ledger.noted, instruction?_eq turn found running]
  cases program with
  | look _ => exact abides.elim
  | call _ _ => exact abides.elim
  | done answer =>
      simp only [World.execute]
      split
      · exact accounted.of_same rfl (World.owners_of_bare (World.bare_finish _ _)) rfl
      · exact proceeds _ _
      · exact proceeds _ _
      · exact proceeds _ _
  | fail fault => exact proceeds _ _
  | update change next => exact (proceeds _ _).of_same rfl rfl rfl
  | guard body next => exact proceeds _ _
  | ensure body cleanup next => exact proceeds _ _
  | check next =>
      simp only [World.execute]
      split
      · exact proceeds _ _
      · exact proceeds _ _
  | settle drivers remaining next =>
      have joins : ∀ held, Accounted ledger (world.join id held).yieldTurn := fun held =>
        accounted.of_same World.holdings_join
          (World.owners_of_bare (World.bare_yieldTurn.trans World.bare_join)) World.waits_join
      cases remaining with
      | nil =>
          simp only [World.execute]
          split
          · exact proceeds _ _
          · exact proceeds _ _
      | cons driver remaining =>
          simp only [World.execute]
          split
          · split
            · exact joins _
            · exact proceeds _ _
          · exact proceeds _ _
  | pause duration next =>
      have owner : task.owner = some () := keeps.owned abides.1
      simp only [World.execute]
      split
      · next mayAct =>
          have permits := accounted.permits_of_mayAct owner mayAct
          have before := proceeds (.run (.check next)) task.frames
          refine ⟨before.live, before.slot, ?_, ?_, ?_⟩
          · rw [World.owners_of_bare (World.bare_sleep _ _)]
            exact before.made
          · rw [World.owners_of_bare (World.bare_sleep _ _)]
            exact before.known
          · intro wait member
            rcases List.mem_append.mp member with old | new
            · exact before.waits wait old
            · rw [List.mem_singleton.mp new]
              exact permits
      · exact proceeds _ _
  | revoke next =>
      have owner : task.owner = some () := keeps.owned abides.1
      simp only [World.execute, owner, World.mayAct]
      split
      · next live =>
          refine accounted.revoke orderly inside (World.owners_proceed _ _) rfl ?_
          rw [if_pos (by simpa using live)]
          exact World.holdings_setHolding_self world () _
      · next dead =>
          refine accounted.revoke orderly inside (World.owners_proceed _ _) rfl ?_
          rw [if_neg (by simpa using dead)]
          rfl
  | spawn driver body next => exact accounted_spawn accounted orderly driver body next
  | cancel driver next => exact accounted_cancel accounted orderly driver next

/-! ## What is done to a driver -/

/-- What is asked of a driver from outside. -/
inductive Request where
  | spawn (script : Script)
  | cancel
  | await
  | subscribe

namespace Request

/-- The program of a request. -/
def plan : Request → Plan
  | .spawn script => .spawn () script.toProgram .stop
  | .cancel => .cancel () .stop
  | .await => .await () .stop
  | .subscribe => .update Log.subscribe .stop

theorem abides_plan (request : Request) : Abides .outside request.plan := by
  cases request with
  | spawn script => exact ⟨abides_toProgram script, trivial⟩
  | cancel => trivial
  | await => exact ⟨rfl, rfl, trivial⟩
  | subscribe => exact ⟨Log.events_subscribe, trivial⟩

/-- The task of a request keeps to what is allowed from outside. -/
theorem keeps_fresh (request : Request) : Keeps False (Task.fresh none request.plan) .outside :=
  ⟨by simp [Task.fresh], nofun, request.abides_plan, by simp [Task.fresh]⟩

end Request

/-- One move of a driver's world, with what is written down about it. Requests begin between two
turns, at once or when their turn comes, and at any such moment any wait may end. -/
inductive Moves (ledger : Ledger) (world : Setting) : Ledger → Setting → Prop where
  | begin (noTurn : world.running = none) (request : Request) :
      Moves ledger world ledger (world.begin request.plan).2
  | beginAll (noTurn : world.running = none) (requests : List Request) :
      Moves ledger world ledger (world.beginAll (requests.map Request.plan)).2
  | step : Moves ledger world (ledger.noted world) (world.step machine)
  | release {released : Setting} (noTurn : world.running = none) (position : Nat)
      (wait : world.release? position = some released) : Moves ledger world ledger released

/-- The worlds that a driver comes to, with what was written down. -/
inductive Reaches : Ledger → Setting → Prop where
  | initial : Reaches .empty Script.initial
  | move {ledger later : Ledger} {world after : Setting} (before : Reaches ledger world)
      (moves : Moves ledger world later after) : Reaches later after

/-- What holds at every moment of a driver. -/
structure Regular (ledger : Ledger) (world : Setting) : Prop where
  balanced : world.Balanced
  keep : AllKeep (fun id => world.running = some id ∧ ledger.Permits id) world.bare
  accounted : Accounted ledger world

namespace Regular

variable {later : Ledger}

theorem initial : Regular .empty Script.initial := by
  refine ⟨World.orderly_initial _, ?_, ?_⟩
  · intro id task found
    cases found
  · refine ⟨?_, ?_, ?_, ?_, ?_⟩
    · exact fun id => ⟨nofun, fun permits => nomatch permits.1⟩
    · exact fun _ => nofun
    · exact fun _ => nofun
    · exact fun _ => nofun
    · exact fun _ => nofun

/-- Between two turns no task has just checked its permission. -/
theorem keep_between (regular : Regular ledger world) (noTurn : world.running = none)
    (permitted : TaskId → Prop) : AllKeep permitted world.bare := by
  refine regular.keep.mono fun id acting => ?_
  rw [noTurn] at acting
  cases acting.1

theorem begin (regular : Regular ledger world) (noTurn : world.running = none) (request : Request) :
    Regular ledger (world.begin request.plan).2 := by
  have bare : (world.begin request.plan).2.bare = world.bare ++ [Task.fresh none request.plan] := by
    rw [World.bare, World.begin, List.map_append]
    rfl
  refine ⟨regular.balanced.begin noTurn _, ?_, ?_⟩
  · rw [bare]
    exact (regular.keep_between noTurn _).append request.keeps_fresh
  · refine regular.accounted.of_more rfl ?_ fun _ member => member
    rw [World.owners, World.owners, bare, List.map_append]
    exact List.prefix_append _ _

theorem beginAll (regular : Regular ledger world) (requests : List Request) :
    Regular ledger (world.beginAll (requests.map Request.plan)).2 := by
  induction requests generalizing world with
  | nil => exact regular
  | cons request rest inductionHypothesis =>
      have bare : (world.beginAll [request.plan]).2.bare =
          world.bare ++ [Task.fresh none request.plan] := by
        simp only [World.bare, World.beginAll, World.enqueue, List.map_append]
        rfl
      have asked : Regular ledger (world.beginAll [request.plan]).2 := by
        refine ⟨regular.balanced.beginAll [request.plan], ?_, ?_⟩
        · rw [bare]
          exact regular.keep.append request.keeps_fresh
        · refine regular.accounted.of_more rfl ?_ fun _ member => member
          rw [World.owners, World.owners, bare, List.map_append]
          exact List.prefix_append _ _
      exact inductionHypothesis asked

theorem release {released : Setting} (regular : Regular ledger world)
    (noTurn : world.running = none) {position : Nat} (wait : world.release? position = some released) :
    Regular ledger released := by
  refine ⟨regular.balanced.release? wait, ?_, ?_⟩
  · rw [World.bare_release? wait]
    exact regular.keep_between noTurn _
  · obtain ⟨_, _, rfl⟩ := World.release?_eq_some.mp wait
    refine regular.accounted.of_more rfl ?_ ?_
    · rw [World.owners_of_bare World.bare_wake]
      exact List.prefix_rfl
    · intro other member
      exact List.mem_of_mem_eraseIdx member

/-- An instruction of the task whose turn it is. -/
theorem execute (regular : Regular ledger world) (turn : world.running = some id)
    (found : world.tasks[id]? = some task) {program : Plan} (running : task.control = .run program) :
    AllKeep (fun other => (world.execute machine id task program).running = some other
        ∧ (ledger.noted world).Permits other) (world.execute machine id task program).bare
      ∧ Accounted (ledger.noted world) (world.execute machine id task program) := by
  have orderly : world.Orderly (some id) := by
    rw [← turn]
    exact regular.balanced
  have alone : ∀ other, other ≠ id → ¬(world.running = some other ∧ ledger.Permits other) := by
    rintro other different ⟨acting, -⟩
    rw [turn] at acting
    exact different (Option.some.inj acting).symm
  obtain ⟨stance, keeps⟩ := regular.keep id _ (found_bare found)
  have abides : Abides stance program := by
    have abides := keeps.control
    rwa [show task.bare.control = .run program from running] at abides
  have account := accounted_execute regular.accounted orderly turn found running ⟨keeps.origin,
    keeps.checked, keeps.control, keeps.frames⟩ abides
  refine ⟨?_, account⟩
  by_cases checks : ∃ next, program = .check next
  · obtain ⟨next, rfl⟩ := checks
    have noted : ledger.noted world = ledger := by
      rw [Ledger.noted, instruction?_eq turn found running]
    by_cases mayAct : world.mayAct id task = true
    · rw [noted, World.execute, if_pos mayAct, World.bare_proceed]
      refine regular.keep.modify alone ?_
      intro other there
      rw [found_bare found] at there
      cases there
      refine ⟨_, keeps.onCheck (fun inside => ⟨turn, ?_⟩) abides⟩
      exact regular.accounted.permits_of_mayAct (keeps.owned inside) mayAct
    · rw [World.execute, if_neg mayAct, World.bare_proceed]
      exact regular.keep.on alone (found_bare found) keeps trivial keeps.frames
  · exact keep_execute regular.keep alone found running fun next same => checks ⟨next, same⟩

/-- A signal on its way out. -/
theorem unwind (regular : Regular ledger world) (turn : world.running = some id)
    (found : world.tasks[id]? = some task) {signal : Signal} (unwinding : task.control = .unwind signal) :
    AllKeep (fun other => (world.unwind id task signal).running = some other ∧ ledger.Permits other)
        (world.unwind id task signal).bare
      ∧ Accounted ledger (world.unwind id task signal) := by
  have alone : ∀ other, other ≠ id → ¬(world.running = some other ∧ ledger.Permits other) := by
    rintro other different ⟨acting, -⟩
    rw [turn] at acting
    exact different (Option.some.inj acting).symm
  have proceeds : ∀ control frames, Accounted ledger (world.proceed id control frames) :=
    fun control frames => regular.accounted.of_same rfl (World.owners_proceed control frames) rfl
  have finishes : ∀ outcome, Accounted ledger (world.finish id task.joiners outcome) :=
    fun outcome => regular.accounted.of_same rfl (World.owners_of_bare (World.bare_finish _ _)) rfl
  refine ⟨keep_unwind regular.keep alone found unwinding, ?_⟩
  simp only [World.unwind]
  split
  · cases signal with
    | cancelled => exact finishes _
    | superseded => exact finishes _
    | fault fault => exact finishes _
  · split
    · exact proceeds _ _
    · exact proceeds _ _
  · exact proceeds _ _
  · exact proceeds _ _

/-- A task begins its turn. -/
theorem beginTurn (regular : Regular ledger world) (noTurn : world.running = none) {queue : List Turn}
    (found : world.tasks[id]? = some task) :
    AllKeep (fun other => some id = some other ∧ ledger.Permits other)
        ({ world with queue := queue }.focus id (World.atTurn task) world.store).bare
      ∧ Accounted ledger ({ world with queue := queue }.focus id (World.atTurn task) world.store) := by
  have there := found_bare found
  obtain ⟨inside, -⟩ := List.getElem?_eq_some_iff.mp there
  have bare : ({ world with queue := queue }.focus id (World.atTurn task) world.store).bare =
      world.bare.set id (World.atTurn task).bare := List.map_set
  have turned : (World.atTurn task).bare = task.bare
      ∨ (World.atTurn task).bare = task.bare.on (.unwind .cancelled) task.bare.frames := by
    simp only [World.atTurn]
    split
    · exact .inr rfl
    · exact .inl rfl
  obtain ⟨stance, keeps⟩ := regular.keep_between noTurn (fun _ => False) id _ there
  refine ⟨?_, regular.accounted.of_same rfl ?_ rfl⟩
  · rw [bare]
    have nobody : ∀ other : TaskId, other ≠ id → ¬False := fun _ _ => not_false
    refine (regular.keep_between noTurn fun _ => False).of_others nobody ?_ ?_
    · intro other different
      rw [List.getElem?_set_ne (Ne.symm different)]
    · intro other now
      rw [List.getElem?_set_self inside] at now
      cases now
      rcases turned with same | cancelled
      · rw [same]
        exact ⟨stance, keeps.mono False.elim⟩
      · rw [cancelled]
        exact ⟨stance.after, keeps.on trivial keeps.frames⟩
  · have owner : (World.atTurn task).bare.owner = task.bare.owner := by
      rcases turned with same | cancelled
      · rw [same]
      · rw [cancelled]
        rfl
    have owns : world.owners[id]? = some task.bare.owner := by
      rw [World.owners, List.getElem?_map, there]
      rfl
    obtain ⟨within, same⟩ := List.getElem?_eq_some_iff.mp owns
    rw [World.owners, bare, List.map_set, owner, ← same]
    exact List.set_getElem_self within

theorem step (regular : Regular ledger world) :
    Regular (ledger.noted world) (world.step machine) := by
  have balanced := regular.balanced.step machine
  cases turn : world.running with
  | some id =>
      have orderly : world.Orderly (some id) := by
        rw [← turn]
        exact regular.balanced
      obtain ⟨task, found, -⟩ := orderly.acts
      cases control : task.control with
      | run program =>
          have stepped : world.step machine = world.execute machine id task program := by
            simp only [World.step, turn, found, control]
          obtain ⟨keep, accounted⟩ := regular.execute turn found control
          rw [stepped] at balanced ⊢
          exact ⟨balanced, keep, accounted⟩
      | unwind signal =>
          have stepped : world.step machine = world.unwind id task signal := by
            simp only [World.step, turn, found, control]
          have noted : ledger.noted world = ledger := by
            simp [Ledger.noted, World.instruction?, turn, found, control]
          obtain ⟨keep, accounted⟩ := regular.unwind turn found control
          rw [noted]
          rw [stepped] at balanced ⊢
          exact ⟨balanced, keep, accounted⟩
  | none =>
      have noted : ledger.noted world = ledger := by
        simp [Ledger.noted, World.instruction?, turn]
      rw [noted]
      cases queued : world.queue with
      | nil =>
          rw [World.step_of_isIdle machine (by simp [World.isIdle, turn, queued])]
          exact regular
      | cons next queue =>
          cases next with
          | run id =>
              obtain ⟨task, found, -⟩ := World.Orderly.ready_of_queued regular.balanced
                (show Turn.run id ∈ world.queue by simp [queued])
              obtain ⟨keep, accounted⟩ := regular.beginTurn turn found
              rw [World.step_run turn queued found] at balanced ⊢
              exact ⟨balanced, keep, accounted⟩
          | joined id =>
              have stepped : world.step machine = _ := World.step_joined turn queued
              rw [stepped] at balanced ⊢
              refine ⟨balanced, ?_, ?_⟩
              · rw [World.bare_noteJoined]
                exact regular.keep_between turn _
              · exact regular.accounted.of_same World.holdings_noteJoined
                  (World.owners_of_bare World.bare_noteJoined) World.waits_noteJoined

theorem of_moves (regular : Regular ledger world) (moves : Moves ledger world later after) :
    Regular later after := by
  cases moves with
  | begin noTurn request => exact regular.begin noTurn request
  | beginAll _ requests => exact regular.beginAll requests
  | step => exact regular.step
  | release noTurn _ wait => exact regular.release noTurn wait

theorem of_reaches (reaches : Reaches ledger world) : Regular ledger world := by
  induction reaches with
  | initial => exact initial
  | move _ moves inductionHypothesis => exact inductionHypothesis.of_moves moves

end Regular

/-! ## Only the newest program acts -/

/-- The program that was spawned last, not cancelled yet, has the turn. -/
def Acts (ledger : Ledger) (world : Setting) (id : TaskId) : Prop :=
  world.running = some id ∧ ledger.Permits id ∧ world.owners[id]? = some (some ())

/-- What a move adds: at most one event and at most one wait, each by the program that acts. -/
structure Additions (ledger : Ledger) (world after : Setting) : Prop where
  events : after.store.events = world.store.events
    ∨ ∃ id event, Acts ledger world id ∧ after.store.events = world.store.events ++ [event]
  waits : after.begun = world.begun
    ∨ ∃ id wait, Acts ledger world id ∧ wait.task = id ∧ after.begun = world.begun ++ [wait]

theorem Additions.none (events : after.store.events = world.store.events)
    (begun : after.begun = world.begun) : Additions ledger world after :=
  ⟨.inl events, .inl begun⟩

theorem Regular.acts (regular : Regular ledger world) (turn : world.running = some id)
    (permits : ledger.Permits id) : Acts ledger world id :=
  ⟨turn, permits, regular.accounted.made id permits.1⟩

theorem additions_execute (regular : Regular ledger world) (turn : world.running = some id)
    (found : world.tasks[id]? = some task) {program : Plan} (running : task.control = .run program) :
    Additions ledger world (world.execute machine id task program) := by
  obtain ⟨stance, keeps⟩ := regular.keep id _ (found_bare found)
  have abides : Abides stance program := by
    have abides := keeps.control
    rwa [show task.bare.control = .run program from running] at abides
  cases program with
  | look _ => exact abides.elim
  | call _ _ => exact abides.elim
  | fail _ | guard _ _ | ensure _ _ _ => exact .none rfl rfl
  | done answer =>
      simp only [World.execute]
      split <;> exact .none rfl rfl
  | check next =>
      simp only [World.execute]
      split <;> exact .none rfl rfl
  | update change next =>
      refine ⟨?_, .inl rfl⟩
      cases stance with
      | outside => exact .inl (abides.1 world.store)
      | unchecked => exact abides.1.elim
      | checked =>
          obtain ⟨event, same⟩ := abides.1
          refine .inr ⟨id, event, regular.acts turn (keeps.checked rfl).2, ?_⟩
          rw [World.execute, show change = fun log => log.record event from same]
          rfl
  | revoke next =>
      simp only [World.execute]
      split
      · split <;> exact .none rfl rfl
      · exact .none rfl rfl
  | pause duration next =>
      have owner : task.owner = some () := keeps.owned abides.1
      simp only [World.execute]
      split
      · next mayAct =>
          have permits := regular.accounted.permits_of_mayAct owner mayAct
          exact ⟨.inl rfl, .inr ⟨id, _, regular.acts turn permits, rfl, rfl⟩⟩
      · exact .none rfl rfl
  | spawn driver body next =>
      refine .none (congrArg Log.events ?_) ?_
      · exact World.store_displace driver
      · exact World.begun_displace world driver id
  | cancel driver next =>
      simp only [World.execute]
      split
      · exact .none rfl rfl
      · split
        · exact .none rfl rfl
        · refine .none (congrArg Log.events ?_) ?_
          · exact (World.store_join _ _ _).trans (World.store_cancelTask _ _)
          · exact World.begun_join.trans World.begun_cancelTask
  | settle drivers remaining next =>
      cases remaining with
      | nil =>
          simp only [World.execute]
          split <;> exact .none rfl rfl
      | cons driver remaining =>
          simp only [World.execute]
          split
          · split
            · exact .none (congrArg Log.events (World.store_join _ _ _)) World.begun_join
            · exact .none rfl rfl
          · exact .none rfl rfl

theorem additions_unwind (signal : Signal) :
    Additions ledger world (world.unwind id task signal) := by
  simp only [World.unwind]
  split
  · cases signal <;> exact .none rfl rfl
  · split <;> exact .none rfl rfl
  · exact .none rfl rfl
  · exact .none rfl rfl

theorem additions_step (regular : Regular ledger world) :
    Additions ledger world (world.step machine) := by
  cases turn : world.running with
  | some id =>
      cases found : world.tasks[id]? with
      | none =>
          rw [show world.step machine = world.yieldTurn by simp only [World.step, turn, found]]
          exact .none rfl rfl
      | some task =>
          cases control : task.control with
          | run program =>
              rw [show world.step machine = world.execute machine id task program by
                simp only [World.step, turn, found, control]]
              exact additions_execute regular turn found control
          | unwind signal =>
              rw [show world.step machine = world.unwind id task signal by
                simp only [World.step, turn, found, control]]
              exact additions_unwind signal
  | none =>
      cases queued : world.queue with
      | nil =>
          rw [World.step_of_isIdle machine (by simp [World.isIdle, turn, queued])]
          exact .none rfl rfl
      | cons next queue =>
          cases next with
          | run id =>
              rw [show world.step machine = ({ world with queue := queue } : Setting).beginTurn id by
                simp only [World.step, turn, queued]]
              exact .none rfl rfl
          | joined id =>
              rw [World.step_joined turn queued]
              exact .none (congrArg Log.events World.store_noteJoined) World.begun_noteJoined

theorem additions_beginAll (requests : List Request) :
    Additions ledger world (world.beginAll (requests.map Request.plan)).2 := by
  refine .none (congrArg Log.events ?_) ?_
  · induction requests generalizing world with
    | nil => rfl
    | cons _ _ inductionHypothesis => exact inductionHypothesis
  · induction requests generalizing world with
    | nil => rfl
    | cons _ _ inductionHypothesis => exact inductionHypothesis

theorem additions_of_moves (regular : Regular ledger world) {later : Ledger}
    (moves : Moves ledger world later after) : Additions ledger world after := by
  cases moves with
  | begin _ request => exact .none rfl rfl
  | beginAll _ requests => exact additions_beginAll requests
  | step => exact additions_step regular
  | release _ _ wait =>
      obtain ⟨_, _, rfl⟩ := World.release?_eq_some.mp wait
      exact .none rfl rfl

theorem owed_sleeps_le (tasks : List (Task Log Unit Empty Unit)) (id : TaskId) :
    owed tasks Status.sleeps id ≤ 1 := by
  unfold owed
  cases tasks[id]? with
  | none => exact Nat.zero_le _
  | some task =>
      change task.status.sleeps ≤ 1
      cases task.status <;> simp [Status.sleeps]

/-- A driver has one wait at most. -/
theorem Regular.length_waits_le (regular : Regular ledger world) : world.waits.length ≤ 1 := by
  cases waiting : world.waits with
  | nil => exact Nat.zero_le _
  | cons first rest =>
      have every : ∀ id ∈ world.waits.map Wait.task, first.task = id := by
        intro id member
        obtain ⟨wait, there, rfl⟩ := List.mem_map.mp member
        have newest := (regular.accounted.waits wait there).1
        have same := (regular.accounted.waits first (by simp [waiting])).1
        exact Option.some.inj (same.symm.trans newest)
      have account := regular.balanced.sleeps first.task
      have most := owed_sleeps_le world.tasks first.task
      rw [List.count_eq_length.mpr every, List.length_map] at account
      rw [← waiting]
      omega

/-- Every event that a driver writes and every wait that it begins is that of the program that was
spawned last, at a moment when that program was not cancelled; and there is never more than one wait. -/
theorem only_newest_acts (reaches : Reaches ledger world) :
    (∀ later after, Moves ledger world later after → Additions ledger world after)
      ∧ world.waits.length ≤ 1 := by
  have regular := Regular.of_reaches reaches
  exact ⟨fun _ _ moves => additions_of_moves regular moves, regular.length_waits_le⟩

/-- So many steps. -/
def Ledger.stepped : Nat → Ledger → Setting → Ledger × Setting
  | 0, ledger, world => (ledger, world)
  | count + 1, ledger, world => (ledger.noted world).stepped count (world.step machine)

theorem Reaches.stepped (reaches : Reaches ledger world) (count : Nat) :
    Reaches (ledger.stepped count world).1 (ledger.stepped count world).2 := by
  induction count generalizing ledger world with
  | zero => exact reaches
  | succ count inductionHypothesis => exact inductionHypothesis (reaches.move .step)

/-- A program that hands over to another one and then tries to go on. -/
def handOver : Script :=
  .emit "npc" "first" none
    (.spawn (.emit "npc" "second" none .stop) (.emit "npc" "late" none .stop))

/-- The program that was handed over to writes next, and the one before it is left out. -/
theorem only_newest_acts_at_hand_over :
    ∃ ledger world, Reaches ledger world ∧ ledger.newest = some 2
      ∧ (∀ later after, Moves ledger world later after → Additions ledger world after)
      ∧ (world.step machine).store.events.map SceneEvent.text = ["first", "second"] := by
  have spawned := Reaches.initial.move (.begin rfl (.spawn handOver))
  have reached := spawned.stepped 10
  exact ⟨_, _, reached, rfl, (only_newest_acts reached).1, rfl⟩

end Playthrough.Script
