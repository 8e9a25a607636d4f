import Playthrough.Proofs.Interpreter.Standing
import Playthrough.Proofs.Task.Overtaking

/-!
Contract: what is asked of the only interpreter, one thing after the other.

Owns: the requests, what each of them does to the store and which task it gives to the driver, and that
every request is carried out, or refused, wherever the interpreter stands between two turns.

Does not own: requests that overlap.

A request that is not refused takes the driver's slot. If the slot holds a task, the request waits for
that task to unwind; what it does after the wait is done in one turn.
-/

namespace Playthrough.Interpreter.Alone

/-- What is asked of an interpreter. -/
inductive Request where
  | start (preferences : Preferences)
  | reset
  | cancel
  | choose (offer : Offer)

namespace Request

/-- The program of a request. -/
def plan : Request → Plan
  | .start preferences => Alone.start preferences
  | .reset => Alone.reset
  | .cancel => Alone.cancel
  | .choose offer => Alone.choose offer

/-- Whether a request is not refused. -/
def Heeded (store : Alone) : Request → Prop
  | .choose _ => store.interpreter.progress = .awaitingChoice
  | _ => True

/-- What a request answers that is not refused. -/
def answer : Request → Option Reply
  | .choose _ => some (.verdict true)
  | _ => none

/-- What a request does before it takes the driver's slot. -/
def prepare : Request → Alone → Alone
  | .choose _, store => modify claim store
  | _, store => store

/-- The choice that a request has found in the store that it has looked at. -/
def choice? (looked : Alone) (offer : Offer) : Option Choice :=
  Seat.chosen? looked.interpreter offer.tag

/-- What a request does after it has taken the driver's slot. The store that it has looked at before may
be another one by then. -/
def effect (looked : Alone) : Request → Alone → Alone
  | .start preferences, store =>
      let started := modify (fun interpreter => interpreter.begin preferences)
        (modify Interpreter.reset store)
      seat.recordHeader started.interpreter started
  | .reset, store => modify Interpreter.reset store
  | .cancel, store => store
  | .choose offer, store =>
      seat.applyChoice offer ((looked.interpreter.node?.map Node.id).getD "") (choice? looked offer) store

/-- The task that the driver gets. -/
def body? (looked : Alone) : Request → Option Plan
  | .start _ => some seat.openScene
  | .choose offer => some (seat.resume (choice? looked offer))
  | _ => none

/-- What a request goes on with after it has taken the driver's slot. -/
def rest (looked : Alone) : Request → Plan
  | .start preferences =>
      .update (modify Interpreter.reset)
        (.update (modify fun interpreter => interpreter.begin preferences)
          (.update (fun store => seat.recordHeader store.interpreter store)
            (.spawn () seat.openScene .stop)))
  | .reset => .update (modify Interpreter.reset) .stop
  | .cancel => .stop
  | .choose offer =>
      .update (seat.applyChoice offer ((looked.interpreter.node?.map Node.id).getD "")
          (choice? looked offer))
        (.spawn () (seat.resume (choice? looked offer)) (.give (.verdict true)))

/-- What a request relies on in the store that it goes on in. -/
def Meets (scenario : Scenario) : Request → Alone → Prop
  | .choose _, store => Playing scenario store
  | _, store => Calm scenario store

end Request

variable {scenario : Scenario} {request : Request} {store looked changed : Alone}
variable {outline : Draft} {id held : TaskId}

/-! ## What a request leaves -/

/-- Takes back that the scene is held up. -/
def unhold (store : Alone) : Alone := modify (fun interpreter => interpreter.setSuspended false) store

theorem Playing.unhold (playing : Playing scenario store) : Playing scenario (unhold store) := by
  obtain ⟨preferences, inPlay⟩ := playing.inPlay
  exact ⟨⟨preferences, inPlay.setSuspended false⟩, rfl⟩

theorem Calm.unhold (calm : Calm scenario store) : Calm scenario (unhold store) :=
  ⟨calm.scenario_eq, fun awaits => (calm.awaits awaits).unhold⟩

theorem Request.Meets.unhold (meets : request.Meets scenario store) :
    request.Meets scenario (Alone.unhold store) := by
  cases request with
  | start _ => exact Calm.unhold meets
  | reset => exact Calm.unhold meets
  | cancel => exact Calm.unhold meets
  | choose _ => exact Playing.unhold meets

/-- What a request does first keeps to what it relies on. -/
theorem meets_prepare (calm : Calm scenario store) (heeded : request.Heeded store) :
    request.Meets scenario (request.prepare store) := by
  cases request with
  | start _ => exact calm
  | reset => exact calm
  | cancel => exact calm
  | choose _ => exact calm.awaits heeded

/-- A scene that is started is at its beginning. -/
theorem started_inPlay (looked : Alone) (preferences : Preferences) (store : Alone) :
    InPlay store.interpreter.scenario preferences
        ((Request.start preferences).effect looked store).interpreter
      ∧ ((Request.start preferences).effect looked store).interpreter.suspended = false
      ∧ ((Request.start preferences).effect looked store).interpreter.nodeIndex = 0 := by
  let begun := store.interpreter.reset.begin preferences
  have headed : ((Request.start preferences).effect looked store).interpreter =
      begun.heard (begun.scenario.headerMarks preferences) 0 :=
    (openStage store.interpreter.scenario preferences).get_recordHeader begun
  rw [headed]
  exact ⟨(inPlay_begin _ preferences).heard _ _, rfl, rfl⟩

/-- A choice that is made goes on with the scene. -/
theorem Playing.applyChoice (playing : Playing scenario store) (offer : Offer) (nodeId : String)
    (choice : Option Choice) : Playing scenario (seat.applyChoice offer nodeId choice store) := by
  obtain ⟨preferences, inPlay⟩ := playing.inPlay
  refine ⟨⟨preferences, ?_⟩, ?_⟩
  · rw [interpreter_applyChoice, record_eq_heard]
    exact inPlay.heard _ _
  · rw [interpreter_applyChoice]
    exact playing.clear

theorem calm_effect (meets : request.Meets scenario store) : Calm scenario (request.effect looked store) := by
  cases request with
  | start preferences =>
      obtain ⟨inPlay, -, -⟩ := started_inPlay looked preferences store
      have calm : Calm scenario store := meets
      refine .of_progress (inPlay.scenario_eq.trans calm.scenario_eq) ?_
      rw [inPlay.running]
      simp
  | reset =>
      have calm : Calm scenario store := meets
      exact .of_progress calm.scenario_eq (by simp [Request.effect, Interpreter.reset, Interpreter.initial])
  | cancel => exact meets
  | choose offer =>
      obtain ⟨preferences, inPlay⟩ := (Playing.applyChoice meets offer
        ((looked.interpreter.node?.map Node.id).getD "") (Request.choice? looked offer)).inPlay
      refine .of_progress inPlay.scenario_eq ?_
      show (seat.applyChoice _ _ _ _).interpreter.progress ≠ _
      rw [inPlay.running]
      simp

/-- The task that the driver gets plays to the next stop. -/
theorem performs_body {body : Plan} (meets : request.Meets scenario store)
    (plays : request.body? looked = some body) :
    Performs scenario (.fresh (some ()) body) (request.effect looked store) := by
  suffices ends : ∃ preferences, InPlay scenario preferences (request.effect looked store).interpreter
      ∧ ∀ later : Alone, later.interpreter = (request.effect looked store).interpreter →
        Ends scenario preferences body [] later by
    obtain ⟨preferences, inPlay, ends⟩ := ends
    exact ⟨rfl, rfl, .inl rfl, body, preferences, rfl, inPlay, ends⟩
  cases request with
  | start preferences =>
      cases plays
      have calm : Calm scenario store := meets
      obtain ⟨inPlay, clear, first⟩ := started_inPlay looked preferences store
      rw [calm.scenario_eq] at inPlay
      refine ⟨preferences, inPlay, ?_⟩
      intro later same
      rw [← same] at inPlay clear first
      exact ends_openScene inPlay clear first
  | reset => cases plays
  | cancel => cases plays
  | choose offer =>
      cases plays
      obtain ⟨⟨preferences, inPlay⟩, clear⟩ := Playing.applyChoice meets offer
        ((looked.interpreter.node?.map Node.id).getD "") (Request.choice? looked offer)
      refine ⟨preferences, inPlay, ?_⟩
      intro later same
      have stillInPlay : InPlay scenario preferences later.interpreter := by
        rw [same]
        exact inPlay
      have stillClear : later.interpreter.suspended = false := by
        rw [same]
        exact clear
      exact ends_resume stillInPlay stillClear _

/-! ## Turns -/

/-- A request that is not refused takes the driver's slot. -/
theorem conducts_plan {post : Draft → Prop} (heeded : request.Heeded store)
    (takes : World.Conducts machine outline id (.cancel () (request.rest store)) (request.prepare store)
      post) : World.Conducts machine outline id request.plan store post := by
  cases request with
  | start _ => exact takes
  | reset => exact takes
  | cancel => exact takes
  | choose offer =>
      have awaits : (seat.get store).progress = .awaitingChoice := heeded
      refine .look ?_
      dsimp only
      rw [if_pos awaits]
      exact .update takes

/-- The outline in which a request has come to its end. -/
def concluded (request : Request) (looked : Alone) (outline : Draft) (id : TaskId) (store : Alone) :
    Draft :=
  match request.body? looked with
  | none => outline.close id (request.effect looked store) (.finished request.answer)
  | some body =>
      (outline.install () body).close id (request.effect looked store) (.finished request.answer)

theorem store_concluded :
    (concluded request looked outline id store).store = request.effect looked store := by
  simp only [concluded]
  split <;> rfl

theorem outcomes_concluded :
    (concluded request looked outline id store).outcomes id = some (.finished request.answer) := by
  simp only [concluded]
  split
  · exact Function.update_self _ _ _
  · exact Function.update_self _ _ _

/-- A request that has taken the driver's slot comes to its end. -/
theorem conducts_rest (empty : (outline.holdings ()).slot = none) :
    World.Conducts machine outline id (request.rest looked) store
      (· = concluded request looked outline id store) := by
  cases request with
  | start preferences => exact .update (.update (.update (.spawn empty (.done rfl))))
  | reset => exact .update (.done rfl)
  | cancel => exact .done rfl
  | choose offer => exact .update (.spawn empty (.done rfl))

/-- Where an operation that ends is alone, the interpreter stands as a request has left it. -/
theorem standing_concluded (deserted : outline.Deserted id)
    (vacant : outline.holdings () = { slot := none, live := none })
    (meets : request.Meets scenario store) :
    Standing scenario [] (concluded request looked outline id store) := by
  cases plays : request.body? looked with
  | none =>
      have same : concluded request looked outline id store =
          outline.close id (request.effect looked store) (.finished request.answer) := by
        simp only [concluded, plays]
      rw [same]
      refine ⟨calm_effect meets, ?_, ?_, ?_, ?_, ?_⟩
      · show (outline.holdings ()).live = (outline.holdings ()).slot
        rw [vacant]
      · intro held holding
        have empty : (outline.holdings ()).slot = some held := holding
        rw [vacant] at empty
        cases empty
      · intro other task found
        rw [deserted.over_close] at found
        cases found
      · intro held task _ found
        rw [deserted.over_close] at found
        cases found
      · intro held task _ found
        rw [deserted.over_close] at found
        cases found
  | some body =>
      have same : concluded request looked outline id store =
          (outline.install () body).close id (request.effect looked store)
            (.finished request.answer) := by
        simp only [concluded, plays]
      have holdings : (((outline.install () body).close id (request.effect looked store)
          (.finished request.answer)).holdings ()) =
            { slot := some outline.count, live := some outline.count } := Outline.holdings_install_close
      rw [same]
      refine ⟨calm_effect meets, ?_, ?_, ?_, ?_, ?_⟩
      · rw [holdings]
      · intro held holding
        rw [holdings] at holding
        cases holding
        exact ⟨Nat.lt_succ_self _, List.not_mem_nil⟩
      · intro other task found
        rw [holdings]
        by_cases own : other = id
        · subst own
          rw [Outline.tasks_close_self] at found
          cases found
        · by_cases new : other = outline.count
          · exact .inr (by rw [new])
          · rw [Outline.tasks_close_other own] at found
            have was : outline.tasks other = some task :=
              (Function.update_of_ne new _ _).symm.trans found
            exact absurd (deserted.only other task was) own
      · intro held task _ found
        rw [deserted.only_driver found]
        exact performs_body meets plays
      · intro held task _ found
        rw [deserted.only_driver found]
        simp [Task.fresh]

/-! ## The wait -/

/-- The outline in which a request waits for the driver's task. -/
def pausing (request : Request) (outline : Draft) (held : TaskId) : Draft :=
  (outline.add (.fresh none request.plan)).take () held outline.count (request.rest outline.store)
    (request.prepare outline.store)

/-- What the driver's task has still to do, none where the driver is inactive. -/
def driverTask? (outline : Draft) : Option (Task Alone Unit Unit Reply) :=
  (outline.holdings ()).slot.bind outline.tasks

/-- What the driver's task leaves of a store when it is cancelled. -/
def unwinding (outline : Draft) (store : Alone) : Alone :=
  match driverTask? outline with
  | none => store
  | some task => Outline.unwound unhold task store

/-- A task that unwinds keeps to what a request relies on. -/
theorem Request.Meets.unwinding (meets : request.Meets scenario store) (outline : Draft) :
    request.Meets scenario (Alone.unwinding outline store) := by
  simp only [Alone.unwinding]
  split
  · exact meets
  · simp only [Outline.unwound]
    split
    · exact meets
    · exact meets.unhold

/-- A request that is not refused waits for the task in the driver's slot. -/
theorem conducts_pausing (heeded : request.Heeded outline.store)
    (holding : (outline.holdings ()).slot = some held) (inside : held < outline.count) :
    World.Conducts machine (outline.add (.fresh none request.plan)) outline.count request.plan
      outline.store (· = pausing request outline held) :=
  conducts_plan heeded (.cancel_held holding (Nat.ne_of_lt inside) rfl)

theorem tasks_pausing_self (inside : held < outline.count) :
    (pausing request outline held).tasks outline.count =
      some (.fresh none (request.rest outline.store)) :=
  Outline.tasks_take_self (Nat.ne_of_lt inside)

theorem tasks_pausing_held (inside : held < outline.count) :
    (pausing request outline held).tasks held =
      (outline.tasks held).map fun task =>
        { task with cancelPending := true, joiners := task.joiners ++ [outline.count] } := by
  have different : held ≠ outline.count := Nat.ne_of_lt inside
  have same : (outline.add (.fresh none request.plan)).tasks held = outline.tasks held :=
    Function.update_of_ne different _ _
  rw [pausing, Outline.tasks_take_held different, same]

section Pausing

variable (standing : Standing scenario [] outline) (holding : (outline.holdings ()).slot = some held)
include standing holding

/-- While a request waits, nobody else goes on but the task that it waits for. -/
theorem clearing_pausing (request : Request) :
    (pausing request outline held).Clearing outline.count held := by
  refine .of_take (fun _ different => absurd rfl different) (standing.within held holding).1 ?_
  intro other task found
  rcases standing.only other task found with bystander | holds
  · cases bystander
  · have same : other = held := Option.some.inj (holds.symm.trans holding)
    subst same
    refine ⟨rfl, ?_⟩
    rw [standing.nobody holding found]
    exact List.not_mem_nil

/-- The task that a request waits for has at most to take back that the scene is held up. -/
theorem unwinds_pausing (request : Request) (task : Task Alone Unit Unit Reply)
    (found : (pausing request outline held).tasks held = some task) :
    task.frames = [] ∨ ∃ next, task.frames = [.ensured (.update unhold .stop) next] := by
  rw [tasks_pausing_held (standing.within held holding).1] at found
  obtain ⟨before, was, rfl⟩ := Option.map_eq_some_iff.mp found
  exact (standing.performs held before holding was).sheltered

/-- What the task that a request waits for leaves of a store. -/
theorem store_settled {passed : Draft}
    (sameLeaver : passed.tasks held = (pausing request outline held).tasks held) :
    (passed.settled held unhold).store = unwinding outline passed.store := by
  rw [tasks_pausing_held (standing.within held holding).1] at sameLeaver
  have driver : driverTask? outline = outline.tasks held := by
    rw [driverTask?, holding]
    rfl
  simp only [Outline.settled, unwinding, driver, sameLeaver]
  cases outline.tasks held with
  | none => rfl
  | some task => rfl

end Pausing

theorem vacant_pausing :
    (pausing request outline held).holdings () = { slot := none, live := none } := by
  show ((outline.add (.fresh none request.plan)).vacate ()).holdings () = _
  exact Outline.holdings_vacate

theorem holdings_settled (outline : Draft) : (outline.settled held unhold).holdings = outline.holdings := by
  simp only [Outline.settled]
  split <;> rfl

/-- A request that waits goes on once the task that it waits for has unwound. -/
theorem pursues_concluded {between : Setting} (balanced : between.Balanced)
    (noTurn : between.running = none) (clearing : between.outline.Clearing id held)
    (waits : between.outline.tasks id = some (.fresh none (request.rest looked)))
    (unwinds : ∀ task, between.outline.tasks held = some task →
      task.frames = [] ∨ ∃ next, task.frames = [.ensured (.update unhold .stop) next]) :
    ∃ after, World.Pursues machine id between after ∧ after.running = none
      ∧ after.outline = concluded request looked (between.outline.settled held unhold) id
          (between.outline.settled held unhold).store := by
  obtain ⟨alone, unwinding, stopped, same⟩ :=
    World.pursues_settled balanced noTurn clearing waits rfl unwinds
  have deserted : alone.outline.Deserted id := by
    rw [same]
    exact clearing.deserted unhold
  have stillWaits : alone.outline.tasks id = some (.fresh none (request.rest looked)) := by
    rw [same, clearing.tasks_settled]
    exact waits
  obtain ⟨after, goesOn, ended, reached⟩ :=
    World.pursues_alone (unwinding.balanced balanced) stopped stillWaits deserted.only
      (conducts_rest (deserted.slots ()))
  refine ⟨after, unwinding.trans goesOn, ended, ?_⟩
  rw [reached, show alone.store = alone.outline.store from rfl, same]

/-! ## Requests one after the other -/

variable {world after : Setting}

/-- A request is carried out, and gets an answer. -/
structure Carries (request : Request) (before : Setting) (answer : Option Reply) (after : Setting) :
    Prop where
  pursues : World.Pursues machine (before.begin request.plan).1 (before.begin request.plan).2 after
  noTurn : after.running = none
  ended : after.outcome? (before.begin request.plan).1 = some (.finished answer)

/-- What a request has come to that has looked at a store and has gone on in another one. -/
structure ComesTo (request : Request) (looked store : Alone) (after : Setting) : Prop where
  store_eq : after.store = request.effect looked store
  driver : driverTask? after.outline = (request.body? looked).map (Task.fresh (some ()))
  vacant : request.body? looked = none → (after.outline.holdings ()).slot = none
  only : ∀ id task, after.outline.tasks id = some task → driverTask? after.outline = some task

theorem comesTo_of_concluded (deserted : outline.Deserted id)
    (reached : after.outline = concluded request looked outline id store) :
    ComesTo request looked store after := by
  have store_eq : after.store = request.effect looked store := by
    show after.outline.store = _
    rw [reached, store_concluded]
  cases plays : request.body? looked with
  | none =>
      have ended : after.outline =
          outline.close id (request.effect looked store) (.finished request.answer) := by
        rw [reached]
        simp only [concluded, plays]
      refine ⟨store_eq, ?_, fun _ => ?_, ?_⟩
      · rw [ended, plays]
        show (outline.holdings ()).slot.bind _ = none
        rw [deserted.slots]
        rfl
      · rw [ended]
        exact deserted.slots ()
      · intro other task found
        rw [ended, deserted.over_close] at found
        cases found
  | some body =>
      have ended : after.outline =
          (outline.install () body).close id (request.effect looked store) (.finished request.answer) := by
        rw [reached]
        simp only [concluded, plays]
      have driver : driverTask? after.outline = some (.fresh (some ()) body) := by
        rw [ended]
        simp only [driverTask?, Outline.holdings_install_close]
        exact Outline.tasks_install_close deserted.inside
      refine ⟨store_eq, by rw [driver, plays]; rfl, fun none => ?_, ?_⟩
      · rw [plays] at none
        cases none
      intro other task found
      rw [ended] at found
      rw [driver, deserted.only_driver found]

/-- A request that is not refused is carried out, wherever the interpreter stands. -/
theorem carries_of_standing (balanced : world.Balanced) (noTurn : world.running = none)
    (standing : Standing scenario [] world.outline) (heeded : request.Heeded world.store) :
    ∃ after, Carries request world request.answer after
      ∧ ComesTo request world.store (unwinding world.outline (request.prepare world.store)) after
      ∧ Standing scenario [] after.outline := by
  have meets : request.Meets scenario (request.prepare world.store) := meets_prepare standing.calm heeded
  cases holding : (world.outline.holdings ()).slot with
  | none =>
      let vacated : Draft := (world.outline.add (.fresh none request.plan)).vacate ()
      have vacant : vacated.holdings () = { slot := none, live := none } := Outline.holdings_vacate
      have deserted : vacated.Deserted world.outline.count := by
        refine ⟨fun _ => by rw [vacant], ?_, Nat.lt_succ_self _⟩
        intro other task found
        by_contra different
        have was : world.outline.tasks other = some task :=
          (Function.update_of_ne different _ _).symm.trans found
        rcases standing.only other task was with bystander | holds
        · cases bystander
        · rw [holding] at holds
          cases holds
      have conducts : World.Conducts machine (world.outline.add (.fresh none request.plan))
          world.outline.count request.plan world.store
          (· = concluded request world.store vacated world.outline.count
            (request.prepare world.store)) :=
        conducts_plan heeded (.cancel_empty holding (conducts_rest (deserted.slots ())))
      obtain ⟨after, pursues, stopped, reached⟩ := World.pursues_begin conducts
      have inactive : unwinding world.outline (request.prepare world.store) =
          request.prepare world.store := by
        simp only [unwinding, driverTask?, holding, Option.bind_none]
      rw [inactive]
      refine ⟨after, ⟨pursues, stopped, ?_⟩, comesTo_of_concluded deserted reached, ?_⟩
      · show after.outline.outcomes world.outline.count = _
        rw [reached]
        exact outcomes_concluded
      · rw [reached]
        exact standing_concluded deserted vacant meets
  | some held =>
      have inside := (standing.within held holding).1
      have clearing := clearing_pausing standing holding request
      let settled : Draft := (pausing request world.outline held).settled held unhold
      have deserted : settled.Deserted world.outline.count := clearing.deserted unhold
      have vacant : settled.holdings () = { slot := none, live := none } := by
        rw [holdings_settled]
        exact vacant_pausing
      have store_eq : settled.store = unwinding world.outline (request.prepare world.store) :=
        store_settled standing holding rfl
      have goesOn : ∀ waiting : Setting, waiting.Balanced → waiting.running = none →
          waiting.outline = pausing request world.outline held →
          ∃ after, World.Pursues machine world.outline.count waiting after ∧ after.running = none
            ∧ after.outline =
              concluded request world.store settled world.outline.count settled.store := by
        intro waiting waitingBalanced stopped same
        have waits : (pausing request world.outline held).tasks world.outline.count =
            some (.fresh none (request.rest world.store)) := tasks_pausing_self inside
        have unwinds := unwinds_pausing standing holding request
        simp only [settled]
        rw [← same] at clearing waits unwinds ⊢
        exact pursues_concluded waitingBalanced stopped clearing waits unwinds
      obtain ⟨after, pursues, stopped, reached⟩ :=
        World.carried_of_conducts balanced noTurn (conducts_pausing heeded holding inside) goesOn
      refine ⟨after, ⟨pursues, stopped, ?_⟩, ?_, ?_⟩
      · show after.outline.outcomes world.outline.count = _
        rw [reached]
        exact outcomes_concluded
      · rw [← store_eq]
        exact comesTo_of_concluded deserted reached
      · rw [reached]
        refine standing_concluded deserted vacant ?_
        rw [store_eq]
        exact meets.unwinding world.outline

/-- The driver is inactive wherever no scene is being played. -/
theorem Standing.inactive {bystanders : List TaskId} (standing : Standing scenario bystanders outline)
    (elsewhere : outline.store.interpreter.progress ≠ .running) : driverTask? outline = none := by
  rw [driverTask?]
  cases holding : (outline.holdings ()).slot with
  | none => rfl
  | some held =>
      cases goesOn : outline.tasks held with
      | none => exact goesOn
      | some task =>
          obtain ⟨_, _, -, inPlay, -⟩ := (standing.performs held task holding goesOn).runs
          exact absurd inPlay.running elsewhere

/-! ## Refusals -/

/-- The store in which a choice was refused. -/
def refusal (offer : Offer) (store : Alone) : Alone :=
  warn (.choiceIgnored store.interpreter.scenario.kind offer.tag store.interpreter.progress) store

/-- A choice where none is awaited is refused at once, and nothing but a warning is left of it. -/
theorem conducts_refused (offer : Offer) (refuses : store.interpreter.progress ≠ .awaitingChoice) :
    World.Conducts machine outline id (choose offer) store
      (· = outline.close id (refusal offer store) (.finished (some (.verdict false)))) := by
  have elsewhere : (seat.get store).progress ≠ .awaitingChoice := refuses
  refine .look ?_
  dsimp only
  rw [if_neg elsewhere]
  exact .update (.done rfl)

/-- The interpreter stands as before when an operation comes and goes that leaves it alone. -/
theorem Standing.passes {program : Plan} {outcome : Outcome Reply}
    (standing : Standing scenario [] outline) (same : store.interpreter = outline.store.interpreter) :
    Standing scenario [] ((outline.add (.fresh none program)).close outline.count store outcome) := by
  have was : ∀ {other task},
      ((outline.add (.fresh none program)).close outline.count store outcome).tasks other = some task →
        outline.tasks other = some task := by
    intro other task found
    by_cases new : other = outline.count
    · subst new
      rw [Outline.tasks_close_self] at found
      cases found
    · rw [Outline.tasks_close_other new] at found
      exact (Function.update_of_ne new _ _).symm.trans found
  refine ⟨standing.calm.of_same same, standing.live_eq, ?_, ?_, ?_, ?_⟩
  · intro held holding
    have within := standing.within held holding
    exact ⟨Nat.lt_succ_of_lt within.1, within.2⟩
  · intro other task found
    exact standing.only other task (was found)
  · intro held task holding found
    have performs := standing.performs held task holding (was found)
    obtain ⟨program, preferences, control, inPlay, ends⟩ := performs.runs
    have stillInPlay : InPlay scenario preferences store.interpreter := by
      rw [same]
      exact inPlay
    exact
      { owner := performs.owner
        kept := performs.kept
        sheltered := performs.sheltered
        runs := ⟨program, preferences, control, stillInPlay, fun later sameLater =>
          ends later (sameLater.trans same)⟩ }
  · intro held task holding found
    exact standing.joined held task holding (was found)

/-- The driver goes on as before when an operation comes and goes that leaves it alone. -/
theorem Standing.driverTask?_passes {program : Plan} {outcome : Outcome Reply}
    (standing : Standing scenario [] outline) :
    driverTask? ((outline.add (.fresh none program)).close outline.count store outcome) =
      driverTask? outline := by
  show (outline.holdings ()).slot.bind _ = (outline.holdings ()).slot.bind _
  cases holding : (outline.holdings ()).slot with
  | none => rfl
  | some held =>
      have different : held ≠ outline.count := Nat.ne_of_lt (standing.within held holding).1
      exact (Outline.tasks_close_other different).trans (Function.update_of_ne different _ _)

/-- A choice where none is awaited is carried out as a refusal. -/
theorem refused_of_standing (standing : Standing scenario [] world.outline) (offer : Offer)
    (refuses : world.store.interpreter.progress ≠ .awaitingChoice) :
    ∃ after, Carries (.choose offer) world (some (.verdict false)) after
      ∧ after.store = refusal offer world.store ∧ driverTask? after.outline = driverTask? world.outline
      ∧ Standing scenario [] after.outline := by
  obtain ⟨after, pursues, stopped, reached⟩ := World.pursues_begin (conducts_refused offer refuses)
  refine ⟨after, ⟨pursues, stopped, ?_⟩, ?_, ?_, ?_⟩
  · show after.outline.outcomes world.outline.count = _
    rw [reached]
    exact Function.update_self _ _ _
  · show after.outline.store = _
    rw [reached]
    rfl
  · rw [reached]
    exact standing.driverTask?_passes
  · rw [reached]
    exact standing.passes rfl

end Playthrough.Interpreter.Alone
