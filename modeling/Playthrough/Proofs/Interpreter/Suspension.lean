import Playthrough.Proofs.Interpreter.Timing

/-!
Contract: when the only interpreter shows that it is held up.

Owns: what calls make of the waits that were begun since the part began, the histories of calls with
the part that was begun last (`Charted`), and the exactness of what is shown (`flags_exact`).

Does not own: calls that overlap.

The pending wait is the last that was begun, so its reason is that of the interval of the part at the
count of the waits since the part began.
-/

namespace Playthrough.Interpreter

/-- The flag that a scene of a kind uses to show that it is held up. -/
def Snapshot.flag (snapshot : Snapshot) : SceneKind → Bool
  | .text => snapshot.typing
  | .encounter => snapshot.thinking

/-- The flag that a scene of a kind does not use. -/
def Snapshot.unusedFlag (snapshot : Snapshot) : SceneKind → Bool
  | .text => snapshot.thinking
  | .encounter => snapshot.typing

theorem flag_snapshot (interpreter : Interpreter) :
    interpreter.snapshot.flag interpreter.scenario.kind = interpreter.suspended := by
  simp only [snapshot, Interpreter.shown, Scenario.indicator]
  cases interpreter.suspended <;> cases interpreter.scenario.kind <;> rfl

theorem unusedFlag_snapshot (interpreter : Interpreter) :
    interpreter.snapshot.unusedFlag interpreter.scenario.kind = false := by
  simp only [snapshot, Interpreter.shown, Scenario.indicator]
  cases interpreter.suspended <;> cases interpreter.scenario.kind <;> rfl

namespace Alone

variable {scenario : Scenario} {reporting : Bool} {store : Alone} {request : Request}
variable {world after : Setting} {outline : Draft} {id held : TaskId}
variable {task : Task Alone Unit Unit Reply} {chart : Chart}

/-! ## Operations that leave the interpreter alone -/

/-- An operation leaves the interpreter and the driver alone, but for who joins the driver's task. -/
structure Leaves (outline next : Draft) : Prop where
  interpreter_eq : next.store.interpreter = outline.store.interpreter
  holdings_eq : next.holdings () = outline.holdings ()
  driver : driverTask? next = driverTask? outline
    ∨ ∃ task joiners, driverTask? outline = some task
      ∧ driverTask? next = some { task with joiners := joiners }

/-- An operation that waits leaves the interpreter alone whenever it has a turn. -/
theorem conducts_await (outline : Draft)
    (outside : ∀ held, (outline.holdings ()).slot = some held → held ≠ id) :
    World.Conducts machine outline id Alone.await outline.store (Leaves outline) := by
  have apart : (outline.holdings ()).slot ≠ some id := fun holding => outside id holding rfl
  cases goesOn : driverTask? outline with
  | none =>
      refine .settle_skip goesOn apart (.settle_over (by simp) (fun _ => apart) (.done ⟨rfl, rfl, .inl ?_⟩))
      exact driverTask?_of_same rfl fun held holding => Outline.tasks_close_other (outside held holding)
  | some task =>
      obtain ⟨held, holding, found⟩ := Option.bind_eq_some_iff.mp goesOn
      have different := outside held holding
      refine .settle_join holding different (by rw [found]; rfl)
        ⟨rfl, rfl, .inr ⟨task, task.joiners ++ [id], goesOn, ?_⟩⟩
      show driverTask? (joining outline id held) = _
      rw [driverTask?_eq (show ((joining outline id held).holdings ()).slot = some held from holding),
        tasks_joining_held different, found]
      rfl

/-- An operation that waits leaves the interpreter alone from its beginning on. -/
theorem conducts_begin_await (standing : Standing scenario [] outline) :
    World.Conducts machine (outline.add (.fresh none Alone.await)) outline.count Alone.await outline.store
      (Leaves outline) := by
  have apart : ∀ held, (outline.holdings ()).slot = some held → held ≠ outline.count :=
    fun held holding => Nat.ne_of_lt (standing.within held holding).1
  have waits := conducts_await (outline.add (.fresh none Alone.await)) apart
  have driver : driverTask? (outline.add (.fresh none Alone.await)) = driverTask? outline :=
    driverTask?_of_same rfl fun held holding => Function.update_of_ne (apart held holding) _ _
  intro base same present
  refine (waits base same present).mono fun _ _ leaves => ?_
  exact ⟨leaves.interpreter_eq, leaves.holdings_eq, by rw [← driver]; exact leaves.driver⟩

namespace Keeps

/-- The first turn of an operation that leaves the interpreter alone. -/
theorem lands_begin {program : Plan} (keeps : Keeps scenario chart world)
    (standing : Standing scenario [] world.outline)
    (conducts : World.Conducts machine (world.outline.add (.fresh none program)) world.outline.count program
      world.store (Leaves world.outline)) :
    World.Lands machine (Keeps scenario chart) (world.begin program).2 := by
  have owned : (world.begin program).2.owners[world.outline.count]? = some none := by
    simp [World.owners, World.bare, World.begin, World.outline, Task.bare, Task.fresh]
  refine ((World.lands_begin _ conducts).pends rfl).mono ?_
  rintro after - ⟨leaves, news, begins, pending⟩
  refine keeps.of_bystander (World.begins_begin world program _) (fun _ member => member) owned begins ?_
    leaves.interpreter_eq leaves.holdings_eq ?_ leaves.driver
  · intro wait member
    exact (pending wait member).imp_right fun added => List.mem_of_getLast? added.1
  · intro holding
    exact Nat.lt_irrefl _ (standing.within _ holding).1

/-- A turn of an operation that waits. -/
theorem lands_await {base : Setting} (keeps : Keeps scenario chart world) (noTurn : world.running = none)
    (standing : Standing scenario [id] world.outline)
    (waits : world.outline.tasks id = some (.fresh none Alone.await)) (same : base.outline = world.outline)
    (stepped : world.step machine =
      base.focus id (World.atTurn (.fresh none Alone.await)) world.store) :
    World.Lands machine (Keeps scenario chart) (world.step machine) := by
  have outside : ∀ held, (world.outline.holdings ()).slot = some held → held ≠ id := by
    intro held holding
    simpa using (standing.within held holding).2
  have turn : World.Lands machine (fun after => Leaves world.outline after.outline)
      (world.step machine) := by
    rw [stepped]
    exact conducts_await _ outside base same (by rw [waits]; rfl)
  have owned : (world.step machine).owners[id]? = some none := by
    have inside := World.inside_of_found (same ▸ waits)
    rw [stepped]
    simp [World.owners, World.bare, World.focus, inside, Task.bare, World.atTurn, Task.fresh]
  have running : (world.step machine).running = some id := by
    rw [stepped]
    rfl
  refine (turn.pends running).mono ?_
  rintro after - ⟨leaves, news, begins, pending⟩
  refine keeps.of_bystander (World.begins_between noTurn id) ?_ owned begins ?_ leaves.interpreter_eq
    leaves.holdings_eq (fun holding => outside id holding rfl) leaves.driver
  · intro wait member
    rwa [World.waits_between noTurn] at member
  · intro wait member
    exact (pending wait member).imp_right fun added => List.mem_of_getLast? added.1

/-! ## Moves between calls -/

/-- The next step, and the turn that it may begin. -/
theorem lands_step {bystanders : List TaskId} (keeps : Keeps scenario chart world)
    (balanced : world.Balanced) (noTurn : world.running = none)
    (standing : Standing scenario bystanders world.outline)
    (waits : ∀ id ∈ bystanders, bystanders = [id]
      ∧ ∀ task, world.outline.tasks id = some task → task = .fresh none Alone.await) :
    World.Lands machine (Keeps scenario chart) (world.step machine) := by
  rcases World.step_cases machine balanced noTurn with
    ⟨stopped, same, -⟩ | ⟨id, task, base, found, same, stepped, -⟩
  · refine .here stopped (keeps.of_same same (World.begins_between noTurn 0) ?_)
    intro wait member
    rwa [World.waits_between noTurn] at member
  · rcases standing.only id task found with member | holding
    · obtain ⟨rfl, waiting⟩ := waits id member
      obtain rfl := waiting task found
      exact keeps.lands_await noTurn standing found same stepped
    · exact keeps.lands_turn balanced noTurn standing holding found same stepped

theorem release? {position : Nat} (keeps : Keeps scenario chart world) (balanced : world.Balanced)
    (noTurn : world.running = none) (wait : world.release? position = some after) :
    Keeps scenario chart after := by
  have orderly : world.Orderly none := by
    rw [← noTurn]
    exact balanced
  refine keeps.of_same (World.outline_release? orderly wait) (World.begins_release? wait 0) ?_
  obtain ⟨_, _, rfl⟩ := World.release?_eq_some.mp wait
  intro other member
  exact List.mem_of_mem_eraseIdx member

/-- While an operation waits, and when it has ended. -/
theorem pursues {record : Record} (attending : Attending scenario reporting record id world)
    (lands : World.Lands machine (Keeps scenario chart) world)
    (pursues : World.Pursues machine id world after) (ended : (after.outcome? id).isSome = true) :
    Keeps scenario chart after := by
  induction pursues with
  | here world => exact lands.reached (attending.quiet ended)
  | @step world after unended _ _ inductionHypothesis =>
      refine inductionHypothesis (attending.step unended) ?_ ended
      cases turn : world.running with
      | some other => exact lands.onward turn
      | none =>
          rcases attending.lands.reached turn with attends | attended
          · refine (lands.reached turn).lands_step attending.balanced turn attends.standing ?_
            intro other member
            obtain rfl := List.mem_singleton.mp member
            refine ⟨rfl, fun task found => ?_⟩
            rw [attends.waits] at found
            exact (Option.some.inj found).symm
          · have isOver : (world.outcome? id).isSome = true := attended.ended
            rw [unended] at isOver
            cases isOver
  | @release world released after _ idle oldest _ inductionHypothesis =>
      have noTurn := World.noTurn_of_isIdle idle
      have stillNoTurn : released.running = none := by
        obtain ⟨-, -, rfl⟩ := World.release?_eq_some.mp oldest
        exact noTurn
      exact inductionHypothesis (attending.release noTurn oldest)
        (.here stillNoTurn ((lands.reached noTurn).release? attending.balanced noTurn oldest)) ended

/-! ## Requests -/

/-- A part begins with no wait begun. -/
theorem of_fresh {part : Part} {preferences : Preferences} {body : Plan} (sound : Sound scenario after)
    (noTurn : after.running = none) (logged : after.Logged)
    (driver : driverTask? after.outline = some (.fresh (some ()) body)) (awake : ∀ next, body ≠ .check next)
    (inPlay : InPlay scenario preferences after.store.interpreter)
    (clear : after.store.interpreter.suspended = false)
    (runs : ∀ later : Alone, later.interpreter = after.store.interpreter →
      Runs machine (World.timer Alone) (timingTerms scenario preferences) body [] later
        (Interval.pauses scenario.kind (part.intervals scenario))) :
    Keeps scenario { part? := some part, begun := (after.waitsOf ()).length } after := by
  have told : Chart.told { part? := some part, begun := (after.waitsOf ()).length } after = [] :=
    List.drop_length
  obtain ⟨held, holding, found⟩ := Option.bind_eq_some_iff.mp driver
  have silent : after.waits = [] := by
    refine sound.paused.silent sound.balanced found ?_ rfl awake
    intro other someone there
    have holds := ((sound.standing noTurn).only other someone there).resolve_left List.not_mem_nil
    exact Option.some.inj (holds.symm.trans holding)
  refine ⟨logged, fun _ => Nat.le_refl _, ?_, by simp [silent]⟩
  rw [told, driver]
  exact .plays rfl rfl rfl ⟨inPlay, .inl rfl, fun _ => clear⟩ runs

/-- Where the driver is inactive and nothing is shown, nothing is pending. -/
theorem of_rest (sound : Sound scenario after) (logged : after.Logged)
    (driver : driverTask? after.outline = none) (clear : after.store.interpreter.suspended = false) :
    Keeps scenario chart after := by
  refine ⟨logged, by simp [driver], by rw [driver]; exact .rests clear, ?_⟩
  intro wait member holding
  obtain ⟨sleeper, there, asleep⟩ := sound.balanced.sleeping_of_wait member
  have unended : sleeper.isEnded = false := by simp [Task.isEnded, asleep]
  have goesOn : driverTask? after.outline = some { sleeper with status := .ready } := by
    refine (driverTask?_eq holding).trans ?_
    simp [World.outline, there, Task.unended?, unended]
  rw [driver] at goesOn
  cases goesOn

/-- A driver's task that unwinds takes back what is shown. -/
theorem clear_unwinding (keeps : Keeps scenario chart world) :
    (unwinding world.outline world.store).interpreter.suspended = false := by
  have paces := keeps.paces
  simp only [unwinding]
  cases driver : driverTask? world.outline with
  | none =>
      rw [driver] at paces
      cases paces with
      | rests clear => exact clear
  | some task =>
      rw [driver] at paces
      cases paces with
      | plays _ _ _ gate _ =>
          simp only [Outline.unwound]
          split
          · next bare => exact gate.2.2 (List.isEmpty_iff.mp bare)
          · rfl

end Keeps

/-! ## Histories of calls -/

/-- Which part was begun last, after a move from one world to another: a start or a choice that is made
begins one. -/
def Chart.next (chart : Chart) (world after : Setting) : Option Call → Chart
  | some (.ask (.start preferences)) =>
      { part? := some (.opening preferences), begun := (after.waitsOf ()).length }
  | some (.ask (.choose offer)) =>
      if world.store.interpreter.progress = .awaitingChoice then
        { part? := some (.answer world.store.interpreter.preferences world.store.interpreter.nodeIndex
            (Request.choice? world.store offer))
          begun := (after.waitsOf ()).length }
      else chart
  | _ => chart

/-- The worlds that occur when an interpreter is given one call after the other, each with the part
that was begun last. -/
inductive Charted (scenario : Scenario) (reporting : Bool) : Chart → Setting → Prop where
  | construct : Charted scenario reporting { part? := none, begun := 0 }
      (World.initial (initial scenario reporting))
  | move {chart : Chart} {call? : Option Call} {world after : Setting}
      (before : Charted scenario reporting chart world) (moves : Moves call? world after) :
      Charted scenario reporting (chart.next world after call?) after

theorem Charted.used (charted : Charted scenario reporting chart world) :
    ∃ record, Used scenario reporting record world := by
  induction charted with
  | construct => exact ⟨_, .construct⟩
  | move _ moves inductionHypothesis =>
      obtain ⟨record, used⟩ := inductionHypothesis
      exact ⟨_, used.move moves⟩

/-- A request that is not refused. -/
theorem Keeps.heeded (keeps : Keeps scenario chart world) (sound : Sound scenario world)
    (noTurn : world.running = none) (heeded : request.Heeded world.store)
    (carries : Carries request world request.answer after) :
    Keeps scenario (chart.next world after (some (.ask request))) after := by
  have comes := sound.comesTo noTurn heeded carries
  have stillSound := sound.carried noTurn carries
  have standing := sound.standing noTurn
  have logged : after.Logged := (keeps.logged.begin request.plan).pursues
    (sound.balanced.begin noTurn request.plan) carries.pursues
  have driver := comes.driver
  cases request with
  | start preferences =>
      obtain ⟨-, -, sameScenario, -⟩ := beside_unwinding world.outline world.store
      obtain ⟨inPlay, clear, first⟩ := started_inPlay world.store preferences
        (unwinding world.outline world.store)
      rw [sameScenario, show world.store.interpreter.scenario = scenario from standing.calm.scenario_eq]
        at inPlay
      have store_eq : after.store = (Request.start preferences).effect world.store
        (unwinding world.outline world.store) := comes.store_eq
      rw [← store_eq] at inPlay clear first
      have opening : (Request.start preferences).body? world.store = some _ := rfl
      refine .of_fresh stillSound carries.noTurn logged driver (blind_body _ opening).2 inPlay clear ?_
      intro later same
      exact runs_opening (by rw [same]; exact inPlay) (by rw [same]; exact clear) (by rw [same]; exact first)
  | reset =>
      refine .of_rest stillSound logged driver ?_
      rw [comes.store_eq]
      rfl
  | cancel =>
      refine .of_rest stillSound logged driver ?_
      rw [comes.store_eq]
      exact keeps.clear_unwinding
  | choose offer =>
      have awaits : world.store.interpreter.progress = .awaitingChoice := heeded
      obtain ⟨⟨preferences, inPlay⟩, clear⟩ := standing.calm.awaits awaits
      have same_preferences : world.store.interpreter.preferences = preferences := inPlay.preferences_eq
      have told : after.store.interpreter =
          world.store.interpreter.claim.record (.plain .player offer.text) := by
        rw [comes.store_eq, unwinding_of_over (standing.inactive_of_awaiting heeded)]
        exact interpreter_applyChoice _ _ _ _
      have inPlayThere : InPlay scenario preferences after.store.interpreter := by
        rw [told, record_eq_heard]
        exact inPlay.heard _ _
      have clearThere : after.store.interpreter.suspended = false := by
        rw [told]
        exact clear
      simp only [Chart.next, if_pos awaits]
      have resuming : (Request.choose offer).body? world.store = some _ := rfl
      refine .of_fresh stillSound carries.noTurn logged driver (blind_body _ resuming).2 inPlayThere
        clearThere ?_
      intro later same
      have place : later.interpreter.nodeIndex = world.store.interpreter.nodeIndex := by
        rw [same, told]
        rfl
      have runs := runs_answer (by rw [same]; exact inPlayThere) (by rw [same]; exact clearThere)
        (Request.choice? world.store offer)
      rw [place, ← same_preferences] at runs
      rw [← same_preferences]
      exact runs

/-- A choice where none is awaited. -/
theorem Keeps.refused {offer : Offer} (keeps : Keeps scenario chart world) (sound : Sound scenario world)
    (noTurn : world.running = none) (refuses : world.store.interpreter.progress ≠ .awaitingChoice)
    (pursues : World.Pursues machine (world.begin (choose offer)).1 (world.begin (choose offer)).2 after)
    (ended : (after.outcome? (world.begin (choose offer)).1).isSome = true) :
    Keeps scenario chart after := by
  have standing := sound.standing noTurn
  have conducts : World.Conducts machine (world.outline.add (.fresh none (choose offer)))
      world.outline.count (choose offer) world.store
      (fun next => Leaves world.outline next ∧ (next.outcomes world.outline.count).isSome = true) := by
    intro base same present
    refine (conducts_refused offer refuses base same present).mono ?_
    intro after _ reached
    rw [reached]
    refine ⟨⟨rfl, rfl, .inl standing.driverTask?_passes⟩, ?_⟩
    show (Function.update world.outline.outcomes world.outline.count _ world.outline.count).isSome = true
    rw [Function.update_self]
    rfl
  have leaves : World.Conducts machine (world.outline.add (.fresh none (choose offer)))
      world.outline.count (choose offer) world.store (Leaves world.outline) := by
    intro base same present
    exact (conducts base same present).mono fun _ _ reached => reached.1
  have ends := World.lands_begin _ conducts
  obtain ⟨last, alsoPursues, -, kept, reached⟩ :=
    ((keeps.lands_begin standing leaves).both ends).pursues (World.begin_unended (choose offer))
  have same := pursues.unique alsoPursues ended reached.2
  rwa [same]

/-- Whatever happens next to an interpreter keeps to its part. -/
theorem Keeps.move {record : Record} {call? : Option Call} (keeps : World.Lands machine (Keeps scenario chart) world)
    (regular : Regular scenario reporting record world) (moves : Moves call? world after) :
    World.Lands machine (Keeps scenario (chart.next world after call?)) after := by
  have sound := regular.sound
  have ends : after.running = none → Keeps scenario (chart.next world after call?) after →
      World.Lands machine (Keeps scenario (chart.next world after call?)) after := .here
  cases moves with
  | step _ =>
      cases turn : world.running with
      | some id => exact keeps.onward turn
      | none =>
          exact (keeps.reached turn).lands_step sound.balanced turn (sound.standing turn) fun _ member =>
            absurd member List.not_mem_nil
  | release noTurn position wait =>
      refine ends ?_ ((keeps.reached noTurn).release? sound.balanced noTurn wait)
      obtain ⟨-, -, rfl⟩ := World.release?_eq_some.mp wait
      exact noTurn
  | call call noTurn pursues ended =>
      have kept := keeps.reached noTurn
      have standing := sound.standing noTurn
      cases call with
      | await =>
          have attending := Attending.begin sound.balanced noTurn standing (regular.tells noTurn)
          exact ends (attending.ends pursues ended).1
            (Keeps.pursues attending (kept.lands_begin standing (conducts_begin_await standing)) pursues
              ended)
      | ask request =>
          have unique : ∀ {answer later}, Carries request world answer later → after = later :=
            fun carries => pursues.unique carries.pursues ended (congrArg Option.isSome carries.ended)
          by_cases heeds : request.Heeded world.store
          · obtain ⟨later, carries, -⟩ := carries_of_standing sound.balanced noTurn standing heeds
            obtain rfl := unique carries
            exact ends carries.noTurn (kept.heeded sound noTurn heeds carries)
          · cases request with
            | start _ => exact absurd trivial heeds
            | reset => exact absurd trivial heeds
            | cancel => exact absurd trivial heeds
            | choose offer =>
                obtain ⟨later, carries, -⟩ := refused_of_standing standing offer heeds
                obtain rfl := unique carries
                refine ends carries.noTurn ?_
                have refuses : ¬world.store.interpreter.progress = .awaitingChoice := heeds
                simp only [Chart.next, if_neg refuses]
                exact kept.refused sound noTurn refuses pursues ended

theorem Keeps.of_charted (charted : Charted scenario reporting chart world) :
    World.Lands machine (Keeps scenario chart) world := by
  induction charted with
  | construct =>
      exact .here rfl ⟨.initial _, by simp [driverTask?, World.outline, World.initial],
        .rests rfl, by simp [World.initial]⟩
  | move before moves inductionHypothesis =>
      obtain ⟨record, used⟩ := before.used
      exact Keeps.move inductionHypothesis (.of_used used) moves

/-! ## What is shown -/

/-- The interval of the wait that was begun last, in the part that was begun last. -/
def Chart.current? (chart : Chart) (scenario : Scenario) (world : Setting) : Option Interval :=
  chart.part?.bind fun part => ((part.intervals scenario).take (chart.told world).length).getLast?

/-- A pending wait holds the scene up, by its reason and its length. -/
def HeldUp (scenario : Scenario) (chart : Chart) (world : Setting) : Prop :=
  ∃ wait ∈ world.waits, ∃ reason, chart.current? scenario world = some ⟨reason, some wait.duration⟩
    ∧ reason.holdsUp wait.duration = true

/-- What an interpreter shows between two turns is exact. -/
structure Exact (scenario : Scenario) (chart : Chart) (world : Setting) : Prop where
  /-- Where nothing moves by itself, it shows that it is held up if and only if a pending wait holds it
  up. -/
  held : world.isIdle = true →
    (world.store.interpreter.snapshot.flag scenario.kind = true ↔ HeldUp scenario chart world)
  /-- At most one wait is pending, and it is the one that its part has come to. -/
  pending : world.isIdle = true → world.waits.length ≤ 1 ∧ ∀ wait ∈ world.waits, ∃ reason,
    chart.current? scenario world = some ⟨reason, some wait.duration⟩
  /-- It shows nothing unless it runs. -/
  resting : world.store.interpreter.snapshot.progress ≠ .running →
    world.store.interpreter.snapshot.flag scenario.kind = false
  /-- It shows nothing after a crash, and wherever it is inactive. -/
  inactive : (world.crash? ()).isSome = true ∨ world.isActive () = false →
    world.store.interpreter.snapshot.flag scenario.kind = false
  /-- It never shows what scenes of the other kind show. -/
  unused : world.store.interpreter.snapshot.unusedFlag scenario.kind = false

theorem inactive_of_crash (crashed : (world.crash? ()).isSome = true) : world.isActive () = false := by
  simp only [World.crash?, World.isActive] at crashed ⊢
  cases holding : (world.holdings ()).slot with
  | none => rfl
  | some held =>
      simp only [holding, Option.bind_some, World.outcome?] at crashed
      cases found : world.tasks[held]? with
      | none => simp [World.isUnended, found]
      | some task =>
          simp only [World.isUnended, found]
          cases status : task.status <;>
            simp_all [Task.outcome?, Task.isEnded]

namespace Keeps

variable (keeps : Keeps scenario chart world) (sound : Sound scenario world)
include keeps sound

omit sound in
/-- Nothing is shown where the driver is inactive. -/
theorem clear_of_inactive (inactive : driverTask? world.outline = none) :
    world.store.interpreter.suspended = false := by
  have paces := keeps.paces
  rw [inactive] at paces
  cases paces with
  | rests clear => exact clear

omit keeps in
/-- Whoever waits for the clock is the driver's task. -/
theorem holding_of_wait (noTurn : world.running = none) {wait : Wait} (member : wait ∈ world.waits) :
    (world.holdings ()).slot = some wait.task ∧ (driverTask? world.outline).isSome = true := by
  obtain ⟨sleeper, there, asleep⟩ := sound.balanced.sleeping_of_wait member
  have unended : sleeper.isEnded = false := by simp [Task.isEnded, asleep]
  have found : world.outline.tasks wait.task = some { sleeper with status := .ready } := by
    simp [World.outline, there, Task.unended?, unended]
  have holding := ((sound.standing noTurn).only _ _ found).resolve_left List.not_mem_nil
  refine ⟨holding, ?_⟩
  rw [driverTask?_eq holding, found]
  rfl

omit keeps in
/-- At most one wait is pending. -/
theorem single_wait (noTurn : world.running = none) : world.waits.length ≤ 1 := by
  cases holding : (world.holdings ()).slot with
  | none =>
      have silent : world.waits = [] := List.eq_nil_iff_forall_not_mem.mpr fun wait member => by
        have mine := (holding_of_wait sound noTurn member).1
        rw [holding] at mine
        cases mine
      simp [silent]
  | some held =>
      have same : ∀ id ∈ world.waits.map Wait.task, held = id := by
        intro id member
        obtain ⟨wait, waits, rfl⟩ := List.mem_map.mp member
        exact Option.some.inj (holding.symm.trans (holding_of_wait sound noTurn waits).1)
      have count := List.count_eq_length.mpr same
      rw [List.length_map] at count
      rw [← count, sound.balanced.sleeps held]
      simp only [owed]
      split
      · next task _ => cases task.status <;> simp [Status.sleeps]
      · exact Nat.zero_le 1

/-- A pending wait is the one that the part has come to, and its reason says what is shown. -/
theorem explains (noTurn : world.running = none) {wait : Wait} (member : wait ∈ world.waits) :
    ∃ reason, chart.current? scenario world = some ⟨reason, some wait.duration⟩
      ∧ world.store.interpreter.suspended = reason.holdsUp wait.duration := by
  obtain ⟨holding, goesOn⟩ := holding_of_wait sound noTurn member
  obtain ⟨last, shown⟩ := keeps.pending wait member holding
  obtain ⟨task, driver⟩ := Option.isSome_iff_exists.mp goesOn
  have paces := keeps.paces
  rw [driver] at paces
  cases paces with
  | plays begun whole _ gate _ =>
      obtain ⟨reason, there, indicated⟩ := Interval.last_of_pauses whole last
      refine ⟨reason, ?_, ?_⟩
      · simp only [Chart.current?, begun, Option.bind_some]
        exact there
      · have same : world.store.interpreter.shown =
            if reason.holdsUp wait.duration then [scenario.kind.indicator] else [] :=
          shown.symm.trans indicated
        simp only [Interpreter.shown] at same
        cases held : world.store.interpreter.suspended <;>
          cases holdsUp : reason.holdsUp wait.duration <;> simp_all

omit keeps in
/-- A task that goes on where nothing moves has a pending wait. -/
theorem waits_of_active (idle : world.isIdle = true) (goesOn : (driverTask? world.outline).isSome = true) :
    ∃ wait, wait ∈ world.waits := by
  have noTurn := World.noTurn_of_isIdle idle
  have standing := sound.standing noTurn
  refine List.exists_mem_of_ne_nil _ fun silent => ?_
  obtain ⟨task, driver⟩ := Option.isSome_iff_exists.mp goesOn
  obtain ⟨held, holding, found⟩ := Option.bind_eq_some_iff.mp driver
  obtain ⟨other, someone, there, member⟩ := World.awaits_somebody sound.balanced idle silent found
  have mine := (standing.only other someone there).resolve_left List.not_mem_nil
  exact List.not_mem_nil (standing.joined other someone mine there held member)

/-- What is shown between two turns is exact. -/
theorem isExact (noTurn : world.running = none) : Exact scenario chart world := by
  have standing := sound.standing noTurn
  have scenario_eq : world.store.interpreter.scenario = scenario := standing.calm.scenario_eq
  have flag : world.store.interpreter.snapshot.flag scenario.kind = world.store.interpreter.suspended := by
    rw [← scenario_eq]
    exact flag_snapshot _
  have clear : driverTask? world.outline = none →
      world.store.interpreter.snapshot.flag scenario.kind = false := fun inactive =>
    flag.trans (keeps.clear_of_inactive inactive)
  refine ⟨fun idle => ⟨fun shown => ?_, ?_⟩, fun idle => ⟨single_wait sound noTurn, ?_⟩, ?_, ?_, ?_⟩
  · cases driver : driverTask? world.outline with
    | none =>
        rw [clear driver] at shown
        cases shown
    | some task =>
        obtain ⟨wait, member⟩ := waits_of_active sound idle (by rw [driver]; rfl)
        obtain ⟨reason, current, same⟩ := keeps.explains sound noTurn member
        exact ⟨wait, member, reason, current, by rw [← same, ← flag]; exact shown⟩
  · rintro ⟨wait, member, reason, current, holdsUp⟩
    obtain ⟨why, explained, same⟩ := keeps.explains sound noTurn member
    rw [current] at explained
    cases explained
    rw [flag, same]
    exact holdsUp
  · intro wait member
    obtain ⟨reason, current, -⟩ := keeps.explains sound noTurn member
    exact ⟨reason, current⟩
  · intro elsewhere
    exact clear (standing.inactive elsewhere)
  · intro isOver
    have inactive : world.isActive () = false := isOver.elim inactive_of_crash fun inactive => inactive
    refine clear (Option.not_isSome_iff_eq_none.mp ?_)
    rw [driverTask?_isSome, inactive]
    simp
  · rw [← scenario_eq]
    exact unusedFlag_snapshot _

end Keeps

/-- A cancellation and a reset leave the driver inactive. -/
theorem inactive_after {record : Record} (regular : Regular scenario reporting record world)
    (ends : request = .cancel ∨ request = .reset) (moves : Moves (some (.ask request)) world after) :
    after.running = none ∧ driverTask? after.outline = none := by
  cases moves with
  | call _ noTurn pursues ended =>
      have heeded : request.Heeded world.store := by
        rcases ends with rfl | rfl <;> exact trivial
      obtain ⟨later, carries, -⟩ :=
        carries_of_standing regular.sound.balanced noTurn (regular.sound.standing noTurn) heeded
      obtain rfl := pursues.unique carries.pursues ended (congrArg Option.isSome carries.ended)
      refine ⟨carries.noTurn, ?_⟩
      rw [(regular.sound.comesTo noTurn heeded carries).driver]
      rcases ends with rfl | rfl <;> rfl

/-- Whatever an interpreter was given before, one call after the other, what it shows of its waits is
exact between two turns, and nothing is shown after a cancellation or a reset. -/
theorem flags_exact (charted : Charted scenario reporting chart world) :
    (world.running = none → Exact scenario chart world)
      ∧ ∀ request after, request = .cancel ∨ request = .reset → Moves (some (.ask request)) world after →
        after.running = none ∧ after.store.interpreter.snapshot.flag scenario.kind = false := by
  obtain ⟨record, used⟩ := charted.used
  have regular := Regular.of_used used
  refine ⟨fun noTurn => ((Keeps.of_charted charted).reached noTurn).isExact regular.sound noTurn, ?_⟩
  intro request after ends moves
  obtain ⟨noTurn, inactive⟩ := inactive_after regular ends moves
  have later := charted.move moves
  have sound := (Regular.of_used (used.move moves)).sound
  have isExact := ((Keeps.of_charted later).reached noTurn).isExact sound noTurn
  refine ⟨noTurn, isExact.inactive (.inr ?_)⟩
  rw [← driverTask?_isSome, inactive]
  rfl

/-- A text scene in which the other side types. -/
def typing : Scenario :=
  { kind := .text
    header := []
    nodes := [.messages ⟨"type", none, some [.blank], none, none⟩] }

theorem Charted.stepped (charted : Charted scenario reporting chart world) (count : Nat) :
    Charted scenario reporting chart ((World.step machine)^[count] world) := by
  induction count generalizing world with
  | zero => exact charted
  | succ count inductionHypothesis => exact inductionHypothesis (charted.move (.step world))

/-- While the other side types, a text scene says so. -/
theorem flags_exact_typing :
    ∃ (chart : Chart) (world : Setting), Charted typing true chart world ∧ world.isIdle = true
      ∧ world.store.interpreter.snapshot.typing = true ∧ HeldUp typing chart world := by
  have fresh : Charted typing true _ _ := .construct
  have started := fresh.move (.call (.ask (.start .standard)) rfl (.of_runUntilEnded 20 _) rfl)
  have types := started.stepped 20
  exact ⟨_, _, types, rfl, rfl, (((flags_exact types).1 rfl).held rfl).mp rfl⟩

end Alone

end Playthrough.Interpreter
