import Playthrough.Proofs.Interpreter.Intervals
import Playthrough.Proofs.Interpreter.Regularity
import Playthrough.Proofs.Task.Pending

/-!
Contract: the waits of the only interpreter, one after the other.

Owns: the terms on which a part of a scene is played while its waits are written down, what is known
between two turns of the waits begun since the part began (`Keeps`), and that turns keep to it.

Does not own: calls.

A part of the scene is played by one task. The waits that it has begun and those that are still to
come are together the waits of the part, and what is shown while the clock holds the task is what was
shown when the wait began.
-/

namespace Playthrough.Interpreter.Alone

variable {scenario : Scenario} {preferences : Preferences} {store changed : Alone} {part : Part}
variable {world after : Setting} {id held : TaskId} {task : Task Alone Unit Unit Reply}
variable {bystanders : List TaskId}

/-! ## The terms -/

theorem sameInterpreter_refl (store : Alone) : store.interpreter = store.interpreter := rfl

/-- The terms on which a part is played: whoever is cancelled in a wait that is not shown has nothing to
take back, and in the end nothing is shown. -/
def timingTerms (scenario : Scenario) (preferences : Preferences) : Terms Alone Unit Unit Reply where
  leaves _ _ := True
  leaves_refl _ := trivial
  leaves_trans _ _ := trivial
  gate frames store := InPlay scenario preferences store.interpreter ∧ seat.Sheltered frames
    ∧ (frames = [] → store.interpreter.suspended = false)
  drift before after := after.interpreter = before.interpreter
  drift_refl := sameInterpreter_refl
  post final finale := final.interpreter.suspended = false ∧ ∀ driver body, finale ≠ .handedOver driver body

/-- Where a part is played and its waits are written down. -/
def timingStage (scenario : Scenario) (preferences : Preferences) : Stage Alone Unit Unit Reply Pause where
  seat := seat
  machine := machine
  observer := World.timer Alone
  terms := timingTerms scenario preferences
  around _ := True
  mark mark := mark.pause?.toList
  scenario := scenario
  preferences := preferences
  body := body_walk
  onFinish_andThen := onFinish_andThen
  get_modify := get_modify
  get_record := get_record
  get_warn := get_warn
  around_modify _ _ around := around
  around_record _ _ around := around
  around_warn _ _ around := around
  leaves_modify _ _ := trivial
  leaves_record _ _ := trivial
  leaves_warn _ _ := trivial
  change_modify _ _ := rfl
  change_record _ _ := rfl
  change_warn _ _ := rfl
  wait := by
    intro duration store _ same
    show [(duration, store.interpreter.shown)] = _
    have scenario_eq : store.interpreter.scenario = scenario := same
    rw [Interpreter.shown, scenario_eq]
    rfl
  get_drift drifted := drifted
  around_drift _ around := around
  gate_open _ inPlay sheltered clear := ⟨inPlay, sheltered, clear⟩

/-- The last instructions at a stop begin no wait, and in the end nothing is shown. -/
theorem plays_silently {halt : Halt} (isOpen : (timingStage scenario preferences).Open store) :
    (timingStage scenario preferences).Plays (seat.conclude halt) store [] := by
  by_cases isEnd : ∃ index, halt = .ended index
  · obtain ⟨index, rfl⟩ := isEnd
    refine Stage.plays_finish isOpen.inPlay.notFinished ?_
    refine .update trivial (.done none ⟨?_, by simp⟩)
    rw [interpreter_countFinish]
    exact isOpen.clear
  · refine Stage.plays_conclude trivial (fun index same => isEnd ⟨index, same⟩) ?_
    intro final finale halted _ alone
    refine ⟨?_, alone⟩
    rw [show final.interpreter = store.interpreter.halted halt from halted, suspended_halted]
    exact isOpen.clear

/-- A program that performs a part begins its waits. -/
theorem runs_of_part {program : Plan} (isOpen : (timingStage scenario preferences).Open store)
    (recites : (timingStage scenario preferences).Recites program store (part.recital scenario)) :
    Runs machine (World.timer Alone) (timingTerms scenario preferences) program [] store
      (Interval.pauses scenario.kind (part.intervals scenario)) := by
  have plays := recites [] fun reached place _ => plays_silently (isOpen.of_heard place trivial)
  rw [List.append_nil] at plays
  have waits : (part.recital scenario).marks.flatMap (timingStage scenario preferences).mark =
      Mark.pauses (part.recital scenario).marks := (List.filterMap_eq_flatMap_toList _ _).symm
  rw [waits, part.pauses_recital] at plays
  exact plays

/-- A scene that is opened plays its first part. -/
theorem runs_opening (inPlay : InPlay scenario preferences store.interpreter)
    (clear : store.interpreter.suspended = false) (first : store.interpreter.nodeIndex = 0) :
    Runs machine (World.timer Alone) (timingTerms scenario preferences) seat.openScene [] store
      (Interval.pauses scenario.kind ((Part.opening preferences).intervals scenario)) := by
  have isOpen : (timingStage scenario preferences).Open store := ⟨inPlay, clear, trivial⟩
  exact runs_of_part isOpen (Stage.recites_openScene isOpen first)

/-- A scene that goes on after a choice plays the part from there. -/
theorem runs_answer (inPlay : InPlay scenario preferences store.interpreter)
    (clear : store.interpreter.suspended = false) (choice : Option Choice) :
    Runs machine (World.timer Alone) (timingTerms scenario preferences) (seat.resume choice) [] store
      (Interval.pauses scenario.kind
        ((Part.answer preferences store.interpreter.nodeIndex choice).intervals scenario)) := by
  have isOpen : (timingStage scenario preferences).Open store := ⟨inPlay, clear, trivial⟩
  exact runs_of_part isOpen (Stage.recites_resume choice isOpen)

/-! ## Between two turns -/

/-- Which part was begun last, none before the first start, and how many waits had been begun by
then. -/
structure Chart where
  part? : Option Part
  begun : Nat

/-- The waits that were begun since the last part began. -/
def Chart.told (chart : Chart) (world : Setting) : List Pause := (world.waitsOf ()).drop chart.begun

/-- What the driver's task has begun of a part, and what it has still to do. -/
inductive Paces (scenario : Scenario) (chart : Chart) (told : List Pause) :
    Option (Task Alone Unit Unit Reply) → Alone → Prop where
  | rests {store : Alone} (clear : store.interpreter.suspended = false) :
      Paces scenario chart told none store
  | plays {part : Part} {preferences : Preferences} {task : Task Alone Unit Unit Reply} {program : Plan}
      {store : Alone} {ahead : List Pause} (begun : chart.part? = some part)
      (whole : Interval.pauses scenario.kind (part.intervals scenario) = told ++ ahead)
      (control : task.control = .run program)
      (gate : (timingTerms scenario preferences).gate task.frames store)
      (runs : ∀ later : Alone, later.interpreter = store.interpreter →
        Runs machine (World.timer Alone) (timingTerms scenario preferences) program task.frames later ahead) :
      Paces scenario chart told (some task) store

/-- The waits of the only interpreter between two turns. -/
structure Keeps (scenario : Scenario) (chart : Chart) (world : Setting) : Prop where
  logged : world.Logged
  since : (driverTask? world.outline).isSome = true → chart.begun ≤ (world.waitsOf ()).length
  paces : Paces scenario chart (chart.told world) (driverTask? world.outline) world.store
  pending : ∀ wait ∈ world.waits, (world.holdings ()).slot = some wait.task →
    (chart.told world).getLast? = some wait.pause ∧ wait.shown = machine.shown world.store

namespace Paces

variable {chart : Chart} {told : List Pause} {task? : Option (Task Alone Unit Unit Reply)}

theorem of_same (paces : Paces scenario chart told task? store)
    (same : changed.interpreter = store.interpreter) : Paces scenario chart told task? changed := by
  cases paces with
  | rests clear => exact .rests (by rw [same]; exact clear)
  | plays begun whole control gate runs =>
      refine .plays begun whole control ?_ fun later drifted => runs later (drifted.trans same)
      obtain ⟨inPlay, sheltered, clear⟩ := gate
      exact ⟨by rw [same]; exact inPlay, sheltered, fun bare => by rw [same]; exact clear bare⟩

/-- It does not matter who joins a task that goes on. -/
theorem rejoin (paces : Paces scenario chart told (some task) store) (joiners : List TaskId) :
    Paces scenario chart told (some { task with joiners := joiners }) store := by
  cases paces with
  | plays begun whole control gate runs => exact .plays begun whole control gate runs

end Paces

namespace Keeps

variable {chart : Chart}

/-- A move that does not show and begins no wait. -/
theorem of_same (keeps : Keeps scenario chart world) (same : after.outline = world.outline)
    (begins : World.Begins id [] world after) (waits : ∀ wait ∈ after.waits, wait ∈ world.waits) :
    Keeps scenario chart after := by
  have sameWaits : after.waitsOf () = world.waitsOf () := (keeps.logged.noted.quiet begins).waits ()
  have sameStore : after.store = world.store := congrArg Outline.store same
  have sameHoldings : after.holdings = world.holdings := congrArg Outline.holdings same
  refine ⟨keeps.logged.quiet begins, ?_, ?_, ?_⟩
  · rw [same, sameWaits]
    exact keeps.since
  · rw [same, sameStore, Chart.told, sameWaits]
    exact keeps.paces
  · rw [sameStore, sameHoldings, Chart.told, sameWaits]
    exact fun wait member => keeps.pending wait (waits wait member)

/-- What is known of the world in which a turn of the driver's task ends. -/
structure Lasts (scenario : Scenario) (chart : Chart) (told : List Pause) (id : TaskId) (base after : Setting) :
    Prop where
  holding : (after.holdings ()).slot = some id
  begins : ∃ news, World.Begins id news base after
    ∧ Paces scenario chart (told ++ news.map Wait.pause) (driverTask? after.outline) after.store

/-- A turn of the driver's task, as far as its program goes. -/
theorem lands_lasts {base : Setting} {told : List Pause}
    (paces : Paces scenario chart told (some task) base.store)
    (holding : (base.holdings ()).slot = some id) (found : base.outline.tasks id = some task)
    (kept : task.cancelPending = false) (allowed : base.mayAct id task = true) :
    World.Lands machine
      (Lasts scenario chart told id (base.focus id (World.atTurn task) base.store))
      (base.focus id (World.atTurn task) base.store) := by
  cases paces with
  | @plays part preferences _ program _ ahead begun whole control gate runs =>
      rw [World.atTurn_of_kept control kept]
      refine World.lands_of_timed _ found allowed (runs _ rfl) ?_ ?_ ?_
      · intro after next around later news rest same begins _ waiting split residue
        have sameStore : after.store = later := congrArg Outline.store same
        have goesOn : driverTask? after.outline =
            some { task.on (.run (.check next)) around with status := .ready } := by
          rw [same]
          refine (driverTask?_eq ?_).trans (Function.update_self _ _ _)
          exact holding
        refine ⟨?_, news, begins, ?_⟩
        · rw [show after.holdings = base.holdings from congrArg Outline.holdings same]
          exact holding
        · rw [goesOn, sameStore]
          refine .plays begun ?_ rfl waiting residue
          rw [whole, split, List.append_assoc]
      · intro after outcome final finale news same begins _ split alone reached
        have sameStore : after.store = final := congrArg Outline.store same
        have gone : driverTask? after.outline = none := by
          rw [same]
          refine (driverTask?_eq ?_).trans Outline.tasks_close_self
          exact holding
        refine ⟨?_, news, begins, ?_⟩
        · rw [show after.holdings = base.holdings from congrArg Outline.holdings same]
          exact holding
        · rw [gone, sameStore]
          exact .rests reached.1
      · intro after driver body final news same begins _ split reached
        exact absurd rfl (reached.2 driver body)

/-- A turn of the driver's task. -/
theorem lands_turn {base : Setting} (keeps : Keeps scenario chart world)
    (balanced : world.Balanced) (noTurn : world.running = none)
    (standing : Standing scenario bystanders world.outline)
    (holding : (world.outline.holdings ()).slot = some id) (found : world.outline.tasks id = some task)
    (same : base.outline = world.outline)
    (stepped : world.step machine = base.focus id (World.atTurn task) world.store) :
    World.Lands machine (Keeps scenario chart) (world.step machine) := by
  have sameStore : base.store = world.store := congrArg Outline.store same
  have sameHoldings : base.holdings = world.holdings := congrArg Outline.holdings same
  have performs := standing.performs id task holding found
  have driver : driverTask? world.outline = some task := (driverTask?_eq holding).trans found
  have allowed : base.mayAct id task = true := by
    have permitted : (base.holdings ()).live = some id := by
      rw [sameHoldings]
      exact standing.live_eq.trans holding
    simp [World.mayAct, performs.owner, permitted]
  have turn : (world.step machine).running = some id := by
    rw [stepped]
    rfl
  have owned : (world.step machine).owners[id]? = some (some ()) := by
    rw [← same] at found
    have inside := World.inside_of_found found
    rw [stepped]
    simp [World.owners, World.bare, World.focus, inside, Task.bare, World.atTurn, performs.kept,
      performs.owner]
  have between : World.Begins id [] world (world.step machine) := World.begins_between noTurn id
  have noted := keeps.logged.noted.quiet between
  have since := keeps.since (by rw [driver]; rfl)
  have paces := keeps.paces
  rw [driver, ← sameStore] at paces
  have lasts : World.Lands machine (Lasts scenario chart (chart.told world) id (world.step machine))
      (world.step machine) := by
    have turned := lands_lasts paces (by rw [sameHoldings]; exact holding) (by rw [same]; exact found)
      performs.kept allowed
    rwa [sameStore, ← stepped] at turned
  refine (lasts.pends turn).mono ?_
  rintro after - ⟨⟨stillHolding, news, begins, paces⟩, others, also, pending⟩
  obtain rfl : others = news := List.append_cancel_left (also.begun.symm.trans begins.begun)
  have waits : after.waitsOf () = world.waitsOf () ++ others.map Wait.pause := by
    rw [noted.waitsOf_begins begins owned]
    simp
  have told : chart.told after = chart.told world ++ others.map Wait.pause := by
    rw [Chart.told, waits, List.drop_append_of_le_length since]
    rfl
  refine ⟨(noted.begins begins owned).inside, ?_, ?_, ?_⟩
  · intro _
    rw [waits, List.length_append]
    exact Nat.le_add_right_of_le since
  · rw [told]
    exact paces
  · intro wait member mine
    obtain rfl : id = wait.task := Option.some.inj (stillHolding.symm.trans mine)
    rcases pending wait member with before | ⟨last, shown⟩
    · -- A task whose turn it is has no wait.
      have orderly : (world.step machine).Orderly (some wait.task) := by
        rw [← turn]
        exact balanced.step machine
      exact absurd rfl (orderly.ne_of_wait before)
    · refine ⟨?_, shown⟩
      rw [told, List.getLast?_append, List.getLast?_map, last]
      rfl

/-- A turn that leaves the driver's task and the interpreter alone, of a task that is not the driver's. -/
theorem of_bystander (keeps : Keeps scenario chart world) {between : Setting} {news : List Wait}
    (quiet : World.Begins id [] world between) (waits : ∀ wait ∈ between.waits, wait ∈ world.waits)
    (owned : between.owners[id]? = some none) (begins : World.Begins id news between after)
    (pending : ∀ wait ∈ after.waits, wait ∈ between.waits ∨ wait ∈ news)
    (sameInterpreter : after.store.interpreter = world.store.interpreter)
    (sameHoldings : after.holdings () = world.holdings ()) (elsewhere : (world.holdings ()).slot ≠ some id)
    (driver : driverTask? after.outline = driverTask? world.outline
      ∨ ∃ task joiners, driverTask? world.outline = some task
        ∧ driverTask? after.outline = some { task with joiners := joiners }) :
    Keeps scenario chart after := by
  have noted := keeps.logged.noted.quiet quiet
  have stillNoted := noted.begins_of_operation begins owned
  have told : chart.told after = chart.told world := by
    rw [Chart.told, stillNoted.waits]
    rfl
  refine ⟨stillNoted.inside, ?_, ?_, ?_⟩
  · intro goesOn
    rw [stillNoted.waits]
    refine keeps.since ?_
    rcases driver with same | ⟨task, joiners, before, -⟩
    · rwa [same] at goesOn
    · rw [before]
      rfl
  · have paces := keeps.paces.of_same sameInterpreter
    rw [told]
    rcases driver with same | ⟨task, joiners, before, now⟩
    · rw [same]
      exact paces
    · rw [before] at paces
      rw [now]
      exact paces.rejoin joiners
  · intro wait member mine
    rw [sameHoldings] at mine
    have shown : machine.shown after.store = machine.shown world.store := by
      show after.store.interpreter.shown = world.store.interpreter.shown
      rw [sameInterpreter]
    rw [told, shown]
    rcases pending wait member with before | new
    · exact keeps.pending wait (waits wait before) mine
    · rw [begins.mine wait new] at mine
      exact absurd mine elsewhere

end Keeps

end Playthrough.Interpreter.Alone
