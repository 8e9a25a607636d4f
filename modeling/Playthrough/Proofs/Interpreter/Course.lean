import Playthrough.Proofs.Interpreter.Lasting
import Playthrough.Proofs.Interpreter.Requests
import Playthrough.Proofs.Interpreter.Stops

/-!
Contract: what the only interpreter shows in the course of a run.

Owns: the terms on which a run keeps count of its end, what is shown of an interpreter between two turns
(`Tells`), and that turns and requests keep to it.

Does not own: which requests are made, and when.

What is shown depends on the last start and on how often the end had been reported by then, which is kept
in a record beside the world. A run that a request has cut short stays where it was; every other run that
is over has come to a stop of its scene.
-/

namespace Playthrough

/-- How often the end of a scene is reported at a stop. -/
def Halt.reports (reporting : Bool) (halt : Halt) : Nat :=
  if reporting = true ∧ halt.progress = .terminal then 1 else 0

namespace Interpreter.Alone

/-- What is remembered of the requests. -/
structure Record where
  /-- What the last start was asked for with, none before the first one. -/
  preferences : Option Preferences
  /-- How often the end had been reported when the last start or reset was asked for. -/
  finishes : Nat

/-- What is kept beside an interpreter. -/
structure Beside (reporting : Bool) (finishes : Nat) (store : Alone) : Prop where
  reporting_eq : store.reporting = reporting
  finishes_eq : store.finishes = finishes

/-- A change that reports nothing. -/
structure Mute (before after : Alone) : Prop where
  interpreter_eq : after.interpreter = before.interpreter
  reporting_eq : after.reporting = before.reporting
  finishes_eq : after.finishes = before.finishes

theorem Mute.refl (store : Alone) : Mute store store := ⟨rfl, rfl, rfl⟩

/-- The interpreter has come to a stop of its scene. -/
structure Stopped (scenario : Scenario) (preferences : Preferences) (reporting : Bool) (finishes : Nat)
    (halt : Halt) (store : Alone) : Prop where
  fits : halt.Fits scenario 0
  inside : halt.index ≤ scenario.nodes.length
  stopped : ∃ base, InPlay scenario preferences base ∧ base.suspended = false
    ∧ base.nodeIndex = halt.index ∧ store.interpreter = base.halted halt
  beside : Beside reporting (finishes + halt.reports reporting) store

variable {scenario : Scenario} {preferences : Preferences} {reporting : Bool} {finishes : Nat}
variable {record : Record} {store changed looked : Alone} {halt : Halt}

theorem Beside.of_mute (beside : Beside reporting finishes store) (mute : Mute store changed) :
    Beside reporting finishes changed :=
  ⟨mute.reporting_eq.trans beside.reporting_eq, mute.finishes_eq.trans beside.finishes_eq⟩

theorem Stopped.of_mute (stopped : Stopped scenario preferences reporting finishes halt store)
    (mute : Mute store changed) : Stopped scenario preferences reporting finishes halt changed := by
  obtain ⟨base, inPlay, clear, place, same⟩ := stopped.stopped
  exact ⟨stopped.fits, stopped.inside, ⟨base, inPlay, clear, place, mute.interpreter_eq.trans same⟩,
    stopped.beside.of_mute mute⟩

/-! ## The terms -/

/-- The terms on which a run keeps count of its end: nobody else reports it, and the run comes to a stop
of its scene. -/
def courseTerms (scenario : Scenario) (preferences : Preferences) (reporting : Bool) (finishes : Nat) :
    Terms Alone Unit Unit Reply where
  leaves _ _ := True
  leaves_refl _ := trivial
  leaves_trans _ _ := trivial
  gate _ store := InPlay scenario preferences store.interpreter ∧ Beside reporting finishes store
  drift := Mute
  drift_refl := .refl
  post final finale :=
    (∃ halt, Stopped scenario preferences reporting finishes halt final)
      ∧ ∀ driver body, finale ≠ .handedOver driver body

/-- Where a scene is played and the count of its ends is kept. -/
def courseStage (scenario : Scenario) (preferences : Preferences) (reporting : Bool) (finishes : Nat) :
    Stage Alone Unit Unit Reply Empty where
  seat := seat
  machine := machine
  observer := .blind Alone
  terms := courseTerms scenario preferences reporting finishes
  around := Beside reporting finishes
  mark _ := []
  scenario := scenario
  preferences := preferences
  body := body_walk
  onFinish_andThen := onFinish_andThen
  get_modify := get_modify
  get_record := get_record
  get_warn := get_warn
  around_modify _ _ around := ⟨around.reporting_eq, around.finishes_eq⟩
  around_record _ _ around := ⟨around.reporting_eq, around.finishes_eq⟩
  around_warn _ _ around := ⟨around.reporting_eq, around.finishes_eq⟩
  leaves_modify _ _ := trivial
  leaves_record _ _ := trivial
  leaves_warn _ _ := trivial
  change_modify := unseen_modify
  change_record := unseen_record
  change_warn := unseen_warn
  wait _ _ _ _ := rfl
  get_drift drifted := drifted.interpreter_eq
  around_drift drifted around := around.of_mute drifted
  gate_open around inPlay _ _ := ⟨inPlay, around⟩

/-- A program that nobody stops comes to a stop of its scene from a store on. -/
def Heads (scenario : Scenario) (preferences : Preferences) (reporting : Bool) (finishes : Nat)
    (program : Plan) (frames : List (Frame Alone Unit Unit Reply)) (store : Alone) : Prop :=
  ∃ entries, Runs machine (.blind Alone) (courseTerms scenario preferences reporting finishes) program
    frames store entries

theorem beside_applyChoice (offer : Offer) (nodeId : String) (choice : Option Choice) (store : Alone) :
    (seat.applyChoice offer nodeId choice store).reporting = store.reporting
      ∧ (seat.applyChoice offer nodeId choice store).finishes = store.finishes := by
  obtain ⟨interpreter, reporting, points, finishes, deliveries, warnings⟩ := store
  cases choice <;> cases reporting <;> exact ⟨rfl, rfl⟩

theorem beside_countFinish (beside : Beside reporting finishes store) (index : Nat) :
    Beside reporting (finishes + (Halt.ended index).reports reporting) (countFinish store) := by
  obtain ⟨same, count⟩ := beside
  refine ⟨(reporting_countFinish store).trans same, ?_⟩
  subst same
  cases reported : store.reporting <;> simp [countFinish, Halt.reports, Halt.progress, reported, count]

/-- The last instructions at a stop end the run there. -/
theorem plays_to_stop
    (isOpen : (courseStage scenario preferences reporting finishes).Open store)
    (fits : halt.Fits scenario 0) (inside : halt.index ≤ scenario.nodes.length)
    (place : store.interpreter.nodeIndex = halt.index) :
    (courseStage scenario preferences reporting finishes).Plays (seat.conclude halt) store [] := by
  by_cases isEnd : ∃ index, halt = .ended index
  · obtain ⟨index, rfl⟩ := isEnd
    let reached := (courseStage scenario preferences reporting finishes).ended store
    have halted : (countFinish reached).interpreter = store.interpreter.halted (.ended index) := by
      rw [interpreter_countFinish]
      rfl
    have around : Beside reporting finishes reached :=
      ⟨isOpen.around.reporting_eq, isOpen.around.finishes_eq⟩
    refine Stage.plays_finish isOpen.inPlay.notFinished ?_
    refine .update trivial (.done none ⟨⟨.ended index, fits, inside, ?_, beside_countFinish around index⟩,
      by simp⟩)
    exact ⟨store.interpreter, isOpen.inPlay, isOpen.clear, place, halted⟩
  · refine Stage.plays_conclude isOpen.around (fun index same => isEnd ⟨index, same⟩) ?_
    intro final finale halted around alone
    have unreported : halt.reports reporting = 0 := by
      cases halt with
      | ended index => exact absurd ⟨index, rfl⟩ isEnd
      | offering _ _ => simp [Halt.reports, Halt.progress]
      | ready _ => simp [Halt.reports, Halt.progress]
      | stuck _ => simp [Halt.reports, Halt.progress]
    refine ⟨⟨halt, fits, inside, ⟨store.interpreter, isOpen.inPlay, isOpen.clear, place, halted⟩, ?_⟩, alone⟩
    rw [unreported]
    exact around

/-- A program that performs a recital comes to the stop of the recital. -/
theorem heads_of_recites {program : Plan} {recital : Recital}
    (isOpen : (courseStage scenario preferences reporting finishes).Open store)
    (fits : recital.halt.Fits scenario 0) (inside : recital.halt.index ≤ scenario.nodes.length)
    (recites : (courseStage scenario preferences reporting finishes).Recites program store recital) :
    Heads scenario preferences reporting finishes program [] store := by
  refine ⟨_, recites [] fun reached place around => ?_⟩
  have same : reached.interpreter =
      store.interpreter.heard recital.marks recital.halt.index := place
  exact plays_to_stop (isOpen.of_heard place around) fits inside (by rw [same]; rfl)

/-- A scene that is opened comes to its first stop. -/
theorem heads_openScene (isOpen : (courseStage scenario preferences reporting finishes).Open store)
    (first : store.interpreter.nodeIndex = 0) :
    Heads scenario preferences reporting finishes seat.openScene [] store := by
  refine heads_of_recites isOpen ?_ ?_ (Stage.recites_openScene isOpen first)
  · exact fits_recital
  · exact index_recital_le

/-- A scene that goes on after a choice comes to its next stop. -/
theorem heads_resume {index : Nat} {node : ChoiceNode} (tag : String)
    (isOpen : (courseStage scenario preferences reporting finishes).Open store)
    (place : store.interpreter.nodeIndex = index)
    (here : scenario.nodes[index]? = some (.choice node)) :
    Heads scenario preferences reporting finishes (seat.resume (node.find? tag)) [] store := by
  subst place
  have inside : store.interpreter.nodeIndex < scenario.nodes.length :=
    (List.getElem?_eq_some_iff.mp here).1
  exact heads_of_recites isOpen ((fits_continuation here tag).lower (Nat.zero_le _))
    (index_continuation_le _ inside) (Stage.recites_resume _ isOpen)

/-! ## No way back -/

/-- Nobody goes back to an earlier node. -/
def Forward (before after : Alone) : Prop :=
  before.interpreter.nodeIndex ≤ after.interpreter.nodeIndex

theorem Forward.refl (store : Alone) : Forward store store := Nat.le_refl _

theorem Forward.trans (first second third : Alone) (former : Forward first second)
    (latter : Forward second third) : Forward first third :=
  Nat.le_trans former latter

theorem keeps_forward : seat.Keeps (.within Forward) where
  look _ _ := trivial
  record _ _ := Nat.le_refl _
  modify _ onward store := onward.place store.interpreter
  warn _ _ := Nat.le_refl _
  onFinish := by
    refine ⟨?_, trivial⟩
    intro store
    show store.interpreter.nodeIndex ≤ (countFinish store).interpreter.nodeIndex
    exact Nat.le_of_eq (by rw [interpreter_countFinish])

theorem within_machine : machine.Follows (.within Forward) := fun _ => keeps_forward.walkBody

/-- A run that comes to a stop of its scene is at one of its nodes or after the last, if it does not go
back. -/
theorem Heads.inside {program : Plan} {frames : List (Frame Alone Unit Unit Reply)}
    (heads : Heads scenario preferences reporting finishes program frames store)
    (follows : program.Follows (.within Forward)) (around : ∀ frame ∈ frames, frame.Follows (.within Forward)) :
    store.interpreter.nodeIndex ≤ scenario.nodes.length := by
  obtain ⟨entries, runs⟩ := heads
  obtain ⟨final, finale, ⟨⟨halt, stopped⟩, -⟩, forward⟩ :=
    World.finale_of_runs Forward.refl Forward.trans within_machine runs follows around
  obtain ⟨base, -, -, place, same⟩ := stopped.stopped
  have bound := stopped.inside
  rw [Forward, same, nodeIndex_halted, place] at forward
  omega

/-! ## What is shown -/

/-- What is shown of an interpreter between two turns, and what its task has still to do. -/
inductive Tells (scenario : Scenario) (reporting : Bool) (record : Record) :
    Option (Task Alone Unit Unit Reply) → Alone → Prop where
  /-- Nothing was started since the last reset. -/
  | idle {store : Alone} (scenario_eq : store.interpreter.scenario = scenario)
      (untouched : store.interpreter.reset = store.interpreter)
      (beside : Beside reporting record.finishes store) : Tells scenario reporting record none store
  /-- The run has come to a stop of the scene. -/
  | stopped {preferences : Preferences} {halt : Halt} {store : Alone}
      (started : record.preferences = some preferences)
      (stopped : Stopped scenario preferences reporting record.finishes halt store) :
      Tells scenario reporting record none store
  /-- The run was cut short. -/
  | cut {preferences : Preferences} {store : Alone} (started : record.preferences = some preferences)
      (inPlay : InPlay scenario preferences store.interpreter)
      (inside : store.interpreter.nodeIndex ≤ scenario.nodes.length)
      (beside : Beside reporting record.finishes store) : Tells scenario reporting record none store
  /-- The run goes on. -/
  | plays {preferences : Preferences} {task : Task Alone Unit Unit Reply} {program : Plan} {store : Alone}
      (started : record.preferences = some preferences) (control : task.control = .run program)
      (inPlay : InPlay scenario preferences store.interpreter)
      (beside : Beside reporting record.finishes store)
      (heads : ∀ later, Mute store later →
        Heads scenario preferences reporting record.finishes program task.frames later) :
      Tells scenario reporting record (some task) store

/-- A task that unwinds leaves alone what is beside the interpreter, and where the interpreter is. -/
theorem beside_unwinding (outline : Draft) (store : Alone) :
    (unwinding outline store).reporting = store.reporting
      ∧ (unwinding outline store).finishes = store.finishes
      ∧ (unwinding outline store).interpreter.scenario = store.interpreter.scenario
      ∧ (unwinding outline store).interpreter.nodeIndex = store.interpreter.nodeIndex := by
  simp only [unwinding]
  split
  · exact ⟨rfl, rfl, rfl, rfl⟩
  · simp only [Outline.unwound]
    split <;> exact ⟨rfl, rfl, rfl, rfl⟩

namespace Tells

variable {task : Task Alone Unit Unit Reply} {task? : Option (Task Alone Unit Unit Reply)}

theorem of_mute (tells : Tells scenario reporting record task? store) (mute : Mute store changed) :
    Tells scenario reporting record task? changed := by
  cases tells with
  | idle scenario_eq untouched beside =>
      refine .idle ?_ ?_ (beside.of_mute mute)
      · rw [mute.interpreter_eq]
        exact scenario_eq
      · rw [mute.interpreter_eq]
        exact untouched
  | stopped started stopped => exact .stopped started (stopped.of_mute mute)
  | cut started inPlay inside beside =>
      rw [← mute.interpreter_eq] at inPlay inside
      exact .cut started inPlay inside (beside.of_mute mute)
  | plays started control inPlay beside heads =>
      rw [← mute.interpreter_eq] at inPlay
      refine .plays started control inPlay (beside.of_mute mute) ?_
      intro later drifted
      exact heads later ⟨drifted.interpreter_eq.trans mute.interpreter_eq,
        drifted.reporting_eq.trans mute.reporting_eq, drifted.finishes_eq.trans mute.finishes_eq⟩

/-- A run that goes on can be cut short wherever it is. -/
theorem cut_of_plays (tells : Tells scenario reporting record (some task) store)
    (follows : task.Follows (.within Forward))
    (same : changed.interpreter = store.interpreter.setSuspended changed.interpreter.suspended)
    (beside : ∀ {finishes}, Beside reporting finishes store → Beside reporting finishes changed) :
    Tells scenario reporting record none changed := by
  cases tells with
  | plays started control inPlay besides heads =>
      have control_follows := follows.control
      rw [control] at control_follows
      have inside := (heads store (.refl store)).inside control_follows follows.frames
      refine .cut started ?_ ?_ (beside besides)
      · rw [same]
        exact inPlay.setSuspended _
      · rw [same]
        exact inside

/-- A turn of the driver's task. -/
theorem lands_turn {outline : Draft} {base : Setting} {id : TaskId}
    (tells : Tells scenario reporting record (driverTask? outline) outline.store)
    (sameOutline : base.outline = outline) (holding : (outline.holdings ()).slot = some id)
    (found : outline.tasks id = some task) (kept : task.cancelPending = false)
    (allowed : base.mayAct id task = true) :
    World.Lands machine (fun after => (after.outline.holdings ()).slot = some id
        ∧ (∀ other, other ≠ id → after.outline.tasks other = outline.tasks other)
        ∧ Tells scenario reporting record (driverTask? after.outline) after.outline.store)
      (base.focus id (World.atTurn task) outline.store) := by
  subst sameOutline
  have driver : driverTask? base.outline = some task := by
    rw [driverTask?, holding]
    exact found
  rw [driver] at tells
  cases tells with
  | plays started control inPlay beside heads =>
      obtain ⟨entries, runs⟩ := heads _ (.refl _)
      have gone : ∀ final outcome, driverTask? (base.outline.close id final outcome) = none := by
        intro final outcome
        show (base.outline.holdings ()).slot.bind _ = none
        rw [holding]
        exact Outline.tasks_close_self
      rw [World.atTurn_of_kept control kept]
      refine World.lands_of_runs (fun after => (after.holdings ()).slot = some id
        ∧ (∀ other, other ≠ id → after.tasks other = base.outline.tasks other)
        ∧ Tells scenario reporting record (driverTask? after) after.store) found allowed runs ?_ ?_ ?_ ?_
      · intro next frames later first rest duration shown _ gate _ residue
        refine ⟨holding, fun other different => Function.update_of_ne different _ _, ?_⟩
        have goesOn : driverTask? (base.outline.rest id
            { task.on (.run (.check next)) frames with status := .ready } later) =
              some { task.on (.run (.check next)) frames with status := .ready } := by
          show (base.outline.holdings ()).slot.bind _ = _
          rw [holding]
          exact Function.update_self _ _ _
        rw [goesOn]
        exact .plays started rfl gate.1 gate.2 fun drifted mute => ⟨rest, residue drifted mute⟩
      · intro answer final _ post
        obtain ⟨⟨halt, stopped⟩, -⟩ := post
        refine ⟨holding, fun other different => Outline.tasks_close_other different, ?_⟩
        rw [gone]
        exact .stopped started stopped
      · intro fault final _ post
        obtain ⟨⟨halt, stopped⟩, -⟩ := post
        refine ⟨holding, fun other different => Outline.tasks_close_other different, ?_⟩
        rw [gone]
        exact .stopped started stopped
      · intro driver body final _ post
        exact absurd rfl (post.2 driver body)

/-- It is known to whom the end is reported, and that is nobody's to change. -/
theorem reporting_eq (tells : Tells scenario reporting record task? store) : store.reporting = reporting := by
  cases tells with
  | idle _ _ beside => exact beside.reporting_eq
  | stopped _ stopped => exact stopped.beside.reporting_eq
  | cut _ _ _ beside => exact beside.reporting_eq
  | plays _ _ _ beside _ => exact beside.reporting_eq

theorem scenario_eq (tells : Tells scenario reporting record task? store) :
    store.interpreter.scenario = scenario := by
  cases tells with
  | idle scenario_eq _ _ => exact scenario_eq
  | stopped _ stopped =>
      obtain ⟨base, inPlay, -, -, same⟩ := stopped.stopped
      rw [same, scenario_halted]
      exact inPlay.scenario_eq
  | cut _ inPlay _ _ => exact inPlay.scenario_eq
  | plays _ _ inPlay _ _ => exact inPlay.scenario_eq

/-! ### Requests -/

/-- A scene that was started goes on with its opening. -/
theorem of_start {after : Setting} (scenario_eq : store.interpreter.scenario = scenario)
    (beside : Beside reporting finishes store)
    (comes : ComesTo (.start preferences) looked store after) :
    Tells scenario reporting { preferences := some preferences, finishes := finishes }
      (driverTask? after.outline) after.store := by
  obtain ⟨inPlay, clear, first⟩ := started_inPlay looked preferences store
  rw [scenario_eq] at inPlay
  have around : Beside reporting finishes ((Request.start preferences).effect looked store) :=
    (courseStage scenario preferences reporting finishes).around_recordHeader _
      ⟨beside.reporting_eq, beside.finishes_eq⟩
  have driver := comes.driver
  rw [driver, comes.store_eq]
  refine .plays rfl rfl inPlay around ?_
  intro later mute
  refine heads_openScene ⟨?_, ?_, around.of_mute mute⟩ ?_
  · show InPlay scenario preferences later.interpreter
    rw [mute.interpreter_eq]
    exact inPlay
  · show later.interpreter.suspended = false
    rw [mute.interpreter_eq]
    exact clear
  · rw [mute.interpreter_eq]
    exact first

/-- A scene that was reset is as if it had never been started. -/
theorem of_reset {after : Setting} (scenario_eq : store.interpreter.scenario = scenario)
    (beside : Beside reporting finishes store) (comes : ComesTo .reset looked store after) :
    Tells scenario reporting { record with finishes := finishes } (driverTask? after.outline)
      after.store := by
  rw [comes.driver, comes.store_eq]
  exact .idle scenario_eq rfl ⟨beside.reporting_eq, beside.finishes_eq⟩

/-- A scene that was cancelled stays where it was. -/
theorem of_cancel {outline : Draft} {after : Setting}
    (tells : Tells scenario reporting record (driverTask? outline) store)
    (follows : ∀ task, driverTask? outline = some task → task.Follows (.within Forward))
    (comes : ComesTo .cancel looked (unwinding outline store) after) :
    Tells scenario reporting record (driverTask? after.outline) after.store := by
  have store_eq : after.store = unwinding outline store := comes.store_eq
  have driver : driverTask? after.outline = none := comes.driver
  rw [driver, store_eq]
  cases goesOn : driverTask? outline with
  | none =>
      rw [goesOn] at tells
      simp only [unwinding, goesOn]
      exact tells
  | some task =>
      rw [goesOn] at tells
      refine tells.cut_of_plays (follows task goesOn) ?_ ?_
      · simp only [unwinding, goesOn, Outline.unwound]
        split <;> rfl
      · intro finishes beside
        obtain ⟨sameReporting, sameFinishes, -, -⟩ := beside_unwinding outline store
        exact ⟨sameReporting.trans beside.reporting_eq, sameFinishes.trans beside.finishes_eq⟩

/-- A scene in which a choice was made goes on after it. -/
theorem of_choose {after : Setting} {offer : Offer} (tells : Tells scenario reporting record task? store)
    (awaits : store.interpreter.progress = .awaitingChoice)
    (comes : ComesTo (.choose offer) store (modify claim store) after) :
    task? = none ∧ Tells scenario reporting record (driverTask? after.outline) after.store := by
  cases tells with
  | idle _ untouched _ =>
      rw [← untouched] at awaits
      cases awaits
  | cut _ inPlay _ _ =>
      rw [inPlay.running] at awaits
      cases awaits
  | plays _ _ inPlay _ _ =>
      rw [inPlay.running] at awaits
      cases awaits
  | @stopped preferences halt _ started stopped =>
      refine ⟨rfl, ?_⟩
      obtain ⟨base, inPlay, clear, place, same⟩ := stopped.stopped
      rw [same, inPlay.progress_halted] at awaits
      cases halt with
      | ready index => cases awaits
      | ended index => cases awaits
      | stuck index => cases awaits
      | offering index node =>
          obtain ⟨-, here, -⟩ := stopped.fits.offers index node rfl
          have claimed : (modify claim store).interpreter = base := by
            rw [interpreter_modify, same]
            exact claim_offer inPlay node
          have chosen : Request.choice? store offer = node.find? offer.tag := by
            have there : store.interpreter.node? = some (.choice node) := by
              rw [same, node?, scenario_halted, nodeIndex_halted, inPlay.scenario_eq, place]
              exact here
            simp only [Request.choice?, Seat.chosen?, there]
          have told : after.store.interpreter = base.record (.plain .player offer.text) := by
            rw [comes.store_eq]
            refine (interpreter_applyChoice _ _ _ _).trans ?_
            rw [claimed]
          have around : Beside reporting record.finishes after.store := by
            obtain ⟨sameReporting, sameFinishes⟩ := beside_applyChoice offer
              ((store.interpreter.node?.map Node.id).getD "") (Request.choice? store offer)
              (modify claim store)
            have unreported : record.finishes + (Halt.offering index node).reports reporting =
                record.finishes := by simp [Halt.reports, Halt.progress]
            rw [comes.store_eq]
            exact ⟨sameReporting.trans stopped.beside.reporting_eq,
              sameFinishes.trans (stopped.beside.finishes_eq.trans unreported)⟩
          have inPlayThere : InPlay scenario preferences after.store.interpreter := by
            rw [told, record_eq_heard]
            exact inPlay.heard _ _
          have driver := comes.driver
          rw [driver]
          refine .plays started rfl inPlayThere around ?_
          intro later mute
          simp only [chosen]
          refine heads_resume offer.tag ⟨?_, ?_, around.of_mute mute⟩ ?_ here
          · show InPlay scenario preferences later.interpreter
            rw [mute.interpreter_eq]
            exact inPlayThere
          · show later.interpreter.suspended = false
            rw [mute.interpreter_eq, told]
            exact clear
          · rw [mute.interpreter_eq, told]
            exact place

end Tells

end Interpreter.Alone

end Playthrough
