import Playthrough.Proofs.Interpreter.Awaiting
import Playthrough.Proofs.Interpreter.Overtaking

/-!
Contract: what is consistent in whatever the only interpreter shows.

Owns: the calls that an interpreter is given one after the other, what is remembered of them beside the
world, what has to be consistent between two turns (`Consistent`), and that it is.

Does not own: calls that overlap.

How often the end was reported is counted from the last start or reset on, because a reset forgets the end
of the scene but not that it was reported.
-/

namespace Playthrough.Interpreter.Alone

/-! ## Calls -/

/-- What an interpreter is given: a request, or that somebody waits for it. -/
inductive Call where
  | ask (request : Request)
  | await

namespace Call

/-- The program of a call. -/
def plan : Call → Plan
  | .ask request => request.plan
  | .await => Alone.await

/-- Whether a call takes the interpreter back to the beginning. -/
def restarts : Call → Bool
  | .ask (.start _) => true
  | .ask .reset => true
  | _ => false

end Call

/-- What is remembered after a call that was made in a store. -/
def Record.after (record : Record) (store : Alone) : Option Call → Record
  | some (.ask (.start preferences)) => { preferences := some preferences, finishes := store.finishes }
  | some (.ask .reset) => { record with finishes := store.finishes }
  | _ => record

/-- What happens to an interpreter next: a step, the end of a wait, or a call that is carried out. -/
inductive Moves : Option Call → Setting → Setting → Prop where
  | step (world : Setting) : Moves none world (world.step machine)
  | release {world released : Setting} (noTurn : world.running = none) (position : Nat)
      (wait : world.release? position = some released) : Moves none world released
  | call {world after : Setting} (call : Call) (noTurn : world.running = none)
      (pursues : World.Pursues machine (world.begin call.plan).1 (world.begin call.plan).2 after)
      (ended : (after.outcome? (world.begin call.plan).1).isSome = true) : Moves (some call) world after

/-- The worlds that occur when an interpreter is given one call after the other, each with what is
remembered. -/
inductive Used (scenario : Scenario) (reporting : Bool) : Record → Setting → Prop where
  | construct : Used scenario reporting { preferences := none, finishes := 0 }
      (World.initial (initial scenario reporting))
  | move {record : Record} {call? : Option Call} {world after : Setting}
      (before : Used scenario reporting record world) (moves : Moves call? world after) :
      Used scenario reporting (record.after world.store call?) after

/-- What an interpreter shows between two turns is consistent. -/
structure Consistent (scenario : Scenario) (reporting : Bool) (record : Record) (world : Setting) : Prop where
  /-- It is at one of its nodes or after the last. -/
  inside : 0 ≤ world.store.interpreter.snapshot.nodeIndex
    ∧ world.store.interpreter.snapshot.nodeIndex ≤ scenario.nodes.length
  /-- It offers something where it awaits a choice, and nowhere else. -/
  offering : world.store.interpreter.snapshot.choices ≠ []
    ↔ world.store.interpreter.snapshot.progress = .awaitingChoice
  /-- It offers the options of the node that it is at, in the language of the last start, and is inactive. -/
  offers : world.store.interpreter.snapshot.progress = .awaitingChoice →
    ∃ preferences node, record.preferences = some preferences
      ∧ scenario.nodes[world.store.interpreter.snapshot.nodeIndex.toNat]? = some (.choice node)
      ∧ node.options ≠ []
      ∧ world.store.interpreter.snapshot.choices =
        node.options.map (fun choice => choice.offer preferences.language)
      ∧ world.isActive () = false
  /-- It is active only while it runs. -/
  active : world.isActive () = true → world.store.interpreter.snapshot.progress = .running
  /-- An idle one shows nothing. -/
  idle : world.store.interpreter.snapshot.progress = .idle →
    world.store.interpreter.snapshot.events = [] ∧ world.store.interpreter.snapshot.nodeIndex = 0
  /-- A text scene can be left at the transition and at its end, an encounter never. -/
  leavable : world.store.interpreter.snapshot.transitionReady = true
    ↔ scenario.kind = .text ∧ (world.store.interpreter.snapshot.progress = .transitionReady
      ∨ world.store.interpreter.snapshot.progress = .terminal)
  /-- The end was reported once if it is there, and not at all if it is not. -/
  reported : world.store.finishes = record.finishes +
    if reporting = true ∧ world.store.interpreter.snapshot.progress = .terminal then 1 else 0

variable {scenario : Scenario} {preferences : Preferences} {reporting : Bool} {record : Record}
variable {world after : Setting} {store : Alone} {task? : Option (Task Alone Unit Unit Reply)}

/-! ## What is shown is consistent -/

/-- What the driver's task has still to do follows what everybody follows. -/
theorem follows_driver {manner : Manner Alone Unit Unit Reply} {task : Task Alone Unit Unit Reply}
    (follows : world.Follows manner) (driver : driverTask? world.outline = some task) :
    task.Follows manner := by
  obtain ⟨held, -, found⟩ := Option.bind_eq_some_iff.mp driver
  obtain ⟨last, there, unended, rfl⟩ := World.task_of_found found
  have keeps := follows held last there unended
  exact ⟨keeps.control, keeps.frames⟩

theorem driverTask?_isSome : (driverTask? world.outline).isSome = world.isActive () :=
  (World.isActive_eq ()).symm

/-- What is shown where nothing was started. -/
theorem consistent_of_untouched
    (untouched : world.store.interpreter.reset = world.store.interpreter)
    (beside : Beside reporting record.finishes world.store) (inactive : world.isActive () = false) :
    Consistent scenario reporting record world := by
  have progress_eq : world.store.interpreter.progress = .idle := by
    rw [← untouched]
    rfl
  have place : world.store.interpreter.nodeIndex = 0 := by
    rw [← untouched]
    rfl
  have events_eq : world.store.interpreter.events = [] := by
    rw [← untouched]
    rfl
  have choices_eq : world.store.interpreter.choices = [] := by
    rw [← untouched]
    rfl
  have leavable_eq : world.store.interpreter.transitionReady = false := by
    rw [← untouched]
    rfl
  exact
    { inside := by simp [snapshot, place]
      offering := by simp [snapshot, choices_eq, progress_eq]
      offers := by simp [snapshot, progress_eq]
      active := by simp [inactive]
      idle := by simp [snapshot, events_eq, place]
      leavable := by simp [snapshot, leavable_eq, progress_eq]
      reported := by simp [snapshot, progress_eq, beside.finishes_eq] }

/-- What is shown in the middle of a scene. -/
theorem consistent_of_inPlay (inPlay : InPlay scenario preferences world.store.interpreter)
    (inside : world.store.interpreter.nodeIndex ≤ scenario.nodes.length)
    (beside : Beside reporting record.finishes world.store) :
    Consistent scenario reporting record world where
  inside := ⟨Int.natCast_nonneg _, Int.ofNat_le.mpr inside⟩
  offering := by simp [snapshot, inPlay.nothingOffered, inPlay.running]
  offers awaits := by simp [snapshot, inPlay.running] at awaits
  active _ := inPlay.running
  idle isIdle := by simp [snapshot, inPlay.running] at isIdle
  leavable := by simp [snapshot, inPlay.notReady, inPlay.running]
  reported := by simp [snapshot, inPlay.running, beside.finishes_eq]

/-- What is shown at a stop. -/
theorem consistent_of_stopped {halt : Halt} (started : record.preferences = some preferences)
    (stopped : Stopped scenario preferences reporting record.finishes halt world.store)
    (inactive : world.isActive () = false) : Consistent scenario reporting record world := by
  obtain ⟨base, inPlay, clear, place, same⟩ := stopped.stopped
  have index_eq : world.store.interpreter.nodeIndex = halt.index := by
    rw [same, nodeIndex_halted, place]
  have progress_eq : world.store.interpreter.progress = halt.progress := by
    rw [same, inPlay.progress_halted]
  have choices_eq : world.store.interpreter.choices = halt.offers preferences.language := by
    rw [same, inPlay.choices_halted]
  have leavable_eq : world.store.interpreter.transitionReady = halt.leavable scenario.kind := by
    rw [same, inPlay.transitionReady_halted]
  refine ⟨⟨Int.natCast_nonneg _, ?_⟩, ?_, ?_, ?_, ?_, ?_, ?_⟩
  · show (world.store.interpreter.nodeIndex : Int) ≤ scenario.nodes.length
    rw [index_eq]
    exact Int.ofNat_le.mpr stopped.inside
  · simp only [snapshot, choices_eq, progress_eq]
    cases halt with
    | offering index node =>
        have nonempty := (stopped.fits.offers index node rfl).2.2
        simpa [Halt.offers, Halt.progress] using nonempty
    | ready index => simp [Halt.offers, Halt.progress]
    | ended index => simp [Halt.offers, Halt.progress]
    | stuck index => simp [Halt.offers, Halt.progress]
  · intro awaits
    have awaitsThere : halt.progress = .awaitingChoice := progress_eq.symm.trans awaits
    cases halt with
    | offering index node =>
        obtain ⟨-, there, nonempty⟩ := stopped.fits.offers index node rfl
        refine ⟨preferences, node, started, ?_, ?_, choices_eq, inactive⟩
        · show scenario.nodes[world.store.interpreter.nodeIndex]? = some (.choice node)
          rw [index_eq]
          exact there
        · simpa using nonempty
    | ready index => cases awaitsThere
    | ended index => cases awaitsThere
    | stuck index => cases awaitsThere
  · intro active
    rw [inactive] at active
    cases active
  · intro isIdle
    have idleThere : halt.progress = .idle := progress_eq.symm.trans isIdle
    cases halt <;> cases idleThere
  · simp only [snapshot, leavable_eq, progress_eq]
    cases halt with
    | ready index =>
        have text : scenario.kind = .text :=
          scenario.kind.text_or_encounter.resolve_right fun encounter =>
            stopped.fits.neverReady encounter index rfl
        simp [Halt.leavable, Halt.progress, text]
    | ended index => simp [Halt.leavable, Halt.progress]
    | offering index node => simp [Halt.leavable, Halt.progress]
    | stuck index => simp [Halt.leavable, Halt.progress]
  · show world.store.finishes = _
    rw [stopped.beside.finishes_eq, Halt.reports]
    simp only [snapshot, progress_eq]

/-- Whatever an interpreter shows that keeps to the scene is consistent. -/
theorem Tells.consistent (tells : Tells scenario reporting record (driverTask? world.outline) world.store)
    (follows : world.Follows (.within Forward)) : Consistent scenario reporting record world := by
  have activity : (driverTask? world.outline).isSome = world.isActive () := driverTask?_isSome
  cases driver : driverTask? world.outline with
  | some task =>
      rw [driver] at tells
      cases tells with
      | plays started control inPlay beside heads =>
          have acts : task.Follows (.within Forward) := follows_driver follows driver
          have program_follows := acts.control
          rw [control] at program_follows
          exact consistent_of_inPlay inPlay ((heads _ (.refl _)).inside program_follows acts.frames) beside
  | none =>
      rw [driver] at tells activity
      cases tells with
      | idle _ untouched beside =>
          exact consistent_of_untouched untouched beside activity.symm
      | stopped started stopped => exact consistent_of_stopped started stopped activity.symm
      | cut started inPlay inside beside => exact consistent_of_inPlay inPlay inside beside

/-! ## One call after the other -/

/-- An interpreter between two calls: it stands as it should, what it shows keeps to the scene, and nobody
goes back. -/
structure Regular (scenario : Scenario) (reporting : Bool) (record : Record) (world : Setting) : Prop where
  sound : Sound scenario world
  lands : World.Lands machine
    (fun after => Tells scenario reporting record (driverTask? after.outline) after.outline.store) world
  follows : world.Follows (.within Forward)

/-- What a call comes to: the interpreter is between two calls again, and unless the call takes it back to the
beginning it has not gone back. -/
structure Goes (scenario : Scenario) (reporting : Bool) (record : Record) (call? : Option Call)
    (world after : Setting) : Prop where
  regular : Regular scenario reporting (record.after world.store call?) after
  forward : (∀ call, call? = some call → call.restarts = false) → Forward world.store after.store

namespace Regular

variable {request : Request}

theorem tells (regular : Regular scenario reporting record world) (noTurn : world.running = none) :
    Tells scenario reporting record (driverTask? world.outline) world.store :=
  regular.lands.reached noTurn

theorem consistent (regular : Regular scenario reporting record world) (noTurn : world.running = none) :
    Consistent scenario reporting record world :=
  (regular.tells noTurn).consistent regular.follows

theorem construct (scenario : Scenario) (reporting : Bool) :
    Regular scenario reporting { preferences := none, finishes := 0 }
      (World.initial (initial scenario reporting)) :=
  ⟨.construct scenario reporting, .here rfl (.idle rfl rfl ⟨rfl, rfl⟩), fun _ _ found => by cases found⟩

theorem step (regular : Regular scenario reporting record world) :
    Goes scenario reporting record none world (world.step machine) := by
  have balanced := regular.sound.balanced
  refine ⟨⟨regular.sound.step, ?_, regular.follows.step within_machine balanced⟩, fun _ =>
    World.kept_step Forward.refl balanced regular.follows⟩
  cases turn : world.running with
  | some id => exact regular.lands.onward turn
  | none =>
      have standing := regular.sound.standing turn
      have tells := regular.tells turn
      rcases World.step_cases machine balanced turn with
        ⟨stopped, same, -⟩ | ⟨id, task, base, found, same, stepped, -⟩
      · refine .here stopped ?_
        rw [same]
        exact tells
      · have holding := (standing.only id task found).resolve_left List.not_mem_nil
        have performs := standing.performs id task holding found
        have allowed : base.mayAct id task = true := by
          have permitted : (base.holdings ()).live = some id := by
            have sameHoldings : base.holdings = world.holdings := congrArg Outline.holdings same
            rw [sameHoldings]
            exact standing.live_eq.trans holding
          simp [World.mayAct, performs.owner, permitted]
        rw [stepped]
        exact (tells.lands_turn same holding found performs.kept allowed).mono fun _ _ shown => shown.2.2

theorem release {position : Nat} {released : Setting} (regular : Regular scenario reporting record world)
    (noTurn : world.running = none) (wait : world.release? position = some released) :
    Goes scenario reporting record none world released := by
  have balanced := regular.sound.balanced
  have orderly : world.Orderly none := by
    rw [← noTurn]
    exact balanced
  have same := World.outline_release? orderly wait
  have stillNoTurn : released.running = none := by
    obtain ⟨-, -, rfl⟩ := World.release?_eq_some.mp wait
    exact noTurn
  have stillSame : released.store = world.store := congrArg Outline.store same
  refine ⟨⟨regular.sound.release noTurn wait, .here stillNoTurn ?_, regular.follows.release? balanced wait⟩,
    fun _ => ?_⟩
  · rw [same]
    exact regular.tells noTurn
  · rw [stillSame]
    exact Forward.refl _

/-- An interpreter whose driver has got at most one task is between two calls again. -/
theorem of_comesTo {looked : Alone} (sound : Sound scenario after) (noTurn : after.running = none)
    (comes : ComesTo request looked store after)
    (tells : Tells scenario reporting record (driverTask? after.outline) after.store) :
    Regular scenario reporting record after := by
  refine ⟨sound, .here noTurn tells, .of_outline ?_⟩
  intro id task found
  have driver := (comes.only id task found).symm.trans comes.driver
  obtain ⟨body, plays, rfl⟩ := Option.map_eq_some_iff.mp driver.symm
  cases request with
  | start preferences =>
      cases plays
      exact .fresh keeps_forward.openScene _
  | reset => cases plays
  | cancel => cases plays
  | choose offer =>
      cases plays
      exact .fresh (keeps_forward.resume _) _

/-- A request that is not refused. -/
theorem heeded (regular : Regular scenario reporting record world) (noTurn : world.running = none)
    (heeded : request.Heeded world.store) (carries : Carries request world request.answer after) :
    Goes scenario reporting record (some (.ask request)) world after := by
  have comes := regular.sound.comesTo noTurn heeded carries
  have sound := regular.sound.carried noTurn carries
  have tells := regular.tells noTurn
  let unwound : Alone := unwinding world.outline (request.prepare world.store)
  obtain ⟨sameReporting, sameFinishes, sameScenario, samePlace⟩ :=
    beside_unwinding world.outline (request.prepare world.store)
  cases request with
  | start preferences =>
      have beside : Beside reporting world.store.finishes unwound :=
        ⟨sameReporting.trans tells.reporting_eq, sameFinishes⟩
      refine ⟨.of_comesTo sound carries.noTurn comes ?_, fun onward => ?_⟩
      · exact Tells.of_start (sameScenario.trans tells.scenario_eq) beside comes
      · cases onward _ rfl
  | reset =>
      have beside : Beside reporting world.store.finishes unwound :=
        ⟨sameReporting.trans tells.reporting_eq, sameFinishes⟩
      refine ⟨.of_comesTo sound carries.noTurn comes ?_, fun onward => ?_⟩
      · exact Tells.of_reset (sameScenario.trans tells.scenario_eq) beside comes
      · cases onward _ rfl
  | cancel =>
      refine ⟨.of_comesTo sound carries.noTurn comes ?_, fun _ => ?_⟩
      · exact tells.of_cancel (fun _ goesOn => follows_driver regular.follows goesOn) comes
      · rw [comes.store_eq]
        exact Nat.le_of_eq samePlace.symm
  | choose offer =>
      have inactive := (regular.sound.standing noTurn).inactive_of_awaiting heeded
      have unhindered : unwinding world.outline ((Request.choose offer).prepare world.store) =
          modify claim world.store := unwinding_of_over inactive _
      rw [unhindered] at comes
      refine ⟨.of_comesTo sound carries.noTurn comes (tells.of_choose heeded comes).2, fun _ => ?_⟩
      rw [comes.store_eq]
      refine Nat.le_of_eq ?_
      show _ = (seat.applyChoice _ _ _ _).interpreter.nodeIndex
      rw [interpreter_applyChoice]
      rfl

/-- A choice where none is awaited. -/
theorem refused (regular : Regular scenario reporting record world) (noTurn : world.running = none)
    {offer : Offer} {answer : Option Reply} (carries : Carries (.choose offer) world answer after)
    (left : after.store = refusal offer world.store)
    (driver : driverTask? after.outline = driverTask? world.outline)
    (stands : Standing scenario [] after.outline) :
    Goes scenario reporting record (some (.ask (.choose offer))) world after := by
  refine ⟨⟨regular.sound.carried noTurn carries, .here carries.noTurn ?_, .of_outline ?_⟩, fun _ => ?_⟩
  · show Tells scenario reporting record (driverTask? after.outline) after.store
    rw [driver, left]
    exact (regular.tells noTurn).of_mute ⟨rfl, rfl, rfl⟩
  · intro id task found
    refine follows_driver regular.follows ?_
    rw [← driver]
    exact stands.only_driver found
  · rw [left]
    exact Forward.refl _

theorem asked (regular : Regular scenario reporting record world) (noTurn : world.running = none)
    (pursues : World.Pursues machine (world.begin request.plan).1 (world.begin request.plan).2 after)
    (ended : (after.outcome? (world.begin request.plan).1).isSome = true) :
    Goes scenario reporting record (some (.ask request)) world after := by
  have balanced := regular.sound.balanced
  have standing := regular.sound.standing noTurn
  have unique : ∀ {answer later}, Carries request world answer later → after = later :=
    fun carries => pursues.unique carries.pursues ended (by rw [carries.ended]; rfl)
  by_cases heeds : request.Heeded world.store
  · obtain ⟨later, carries, -⟩ := carries_of_standing balanced noTurn standing heeds
    rw [unique carries]
    exact regular.heeded noTurn heeds carries
  · cases request with
    | start _ => exact absurd trivial heeds
    | reset => exact absurd trivial heeds
    | cancel => exact absurd trivial heeds
    | choose offer =>
        obtain ⟨later, carries, left, driver, stands⟩ := refused_of_standing standing offer heeds
        rw [unique carries]
        exact regular.refused noTurn carries left driver stands

/-- Waiting until the interpreter has stopped. -/
theorem awaited (regular : Regular scenario reporting record world) (noTurn : world.running = none)
    (pursues : World.Pursues machine (world.begin Alone.await).1 (world.begin Alone.await).2 after)
    (ended : (after.outcome? (world.begin Alone.await).1).isSome = true) :
    Goes scenario reporting record (some .await) world after := by
  have balanced := regular.sound.balanced
  have begun := balanced.begin noTurn Alone.await
  have attending := Attending.begin balanced noTurn (regular.sound.standing noTurn) (regular.tells noTurn)
  obtain ⟨stillNoTurn, attended⟩ := attending.ends pursues ended
  have follows : (world.begin Alone.await).2.Follows (.within Forward) := regular.follows.begin trivial
  have stillFollows := pursues.unattended.follows within_machine begun follows
  have forward := pursues.unattended.stays Forward.refl Forward.trans within_machine begun follows
  have paused := (regular.sound.paused.begin balanced noTurn Alone.await).pursues begun pursues
  exact ⟨⟨.of_standing (pursues.balanced begun) paused stillNoTurn attended.standing,
    .here stillNoTurn attended.tells, stillFollows⟩, fun _ => forward⟩

theorem move {call? : Option Call} (regular : Regular scenario reporting record world)
    (moves : Moves call? world after) : Goes scenario reporting record call? world after := by
  cases moves with
  | step _ => exact regular.step
  | release noTurn position wait => exact regular.release noTurn wait
  | call call noTurn pursues ended =>
      cases call with
      | await => exact regular.awaited noTurn pursues ended
      | ask request => exact regular.asked noTurn pursues ended

theorem of_used (used : Used scenario reporting record world) : Regular scenario reporting record world := by
  induction used with
  | construct => exact .construct scenario reporting
  | move _ moves inductionHypothesis => exact (inductionHypothesis.move moves).regular

end Regular

theorem Used.stepped (used : Used scenario reporting record world) (count : Nat) :
    Used scenario reporting record ((World.step machine)^[count] world) := by
  induction count generalizing world with
  | zero => exact used
  | succ count inductionHypothesis => exact inductionHypothesis (used.move (.step world))

/-- Whatever an interpreter shows between two turns is consistent, whatever it was given before, and
nothing but a start or a reset takes it back to an earlier node. -/
theorem consistent_of_used (used : Used scenario reporting record world) :
    (world.running = none → Consistent scenario reporting record world)
      ∧ ∀ call? after, Moves call? world after → (∀ call, call? = some call → call.restarts = false) →
        world.store.interpreter.snapshot.nodeIndex ≤ after.store.interpreter.snapshot.nodeIndex := by
  have regular := Regular.of_used used
  refine ⟨regular.consistent, ?_⟩
  intro call? after moves onward
  exact Int.ofNat_le.mpr ((regular.move moves).forward onward)

/-- Where a scene asks, what is offered is consistent, and the choice that is made leads on. -/
theorem consistent_at_choice :
    ∃ (record : Record) (world after : Setting), Used asking true record world ∧ world.running = none
      ∧ world.store.interpreter.snapshot.progress = .awaitingChoice
      ∧ Moves (some (.ask (.choose ⟨"yes", "", 3⟩))) world after
      ∧ Consistent asking true record world
      ∧ world.store.interpreter.snapshot.nodeIndex ≤ after.store.interpreter.snapshot.nodeIndex := by
  have fresh : Used asking true _ _ := .construct
  have started := fresh.move (.call (.ask (.start .standard)) rfl (.of_runUntilEnded 20 _) rfl)
  have asks := started.stepped 20
  obtain ⟨consistent, onward⟩ := consistent_of_used asks
  refine ⟨_, _, _, asks, rfl, rfl, .call _ rfl (.of_runUntilEnded 20 _) rfl, consistent rfl, ?_⟩
  exact onward _ _ (.call (.ask (.choose ⟨"yes", "", 3⟩)) rfl (.of_runUntilEnded 20 _) rfl)
    (by rintro _ ⟨⟩; rfl)

/-- A text scene that is over at once. -/
def empty : Scenario := { kind := .text, header := [], nodes := [] }

/-- An interpreter is idle after a reset although the end was reported since the last start. -/
theorem reported_before_reset :
    ∃ (begun ended last : Setting),
      Moves (some (.ask (.start .standard))) (World.initial (initial empty true)) begun
        ∧ ended = (World.step machine)^[20] begun
        ∧ ended.store.interpreter.snapshot.progress = .terminal
        ∧ Moves (some (.ask .reset)) ended last ∧ last.running = none
        ∧ last.store.interpreter.snapshot.progress = .idle
        ∧ last.store.finishes = (initial empty true).finishes + 1 := by
  refine ⟨_, _, _, .call (.ask (.start .standard)) rfl (.of_runUntilEnded 20 _) rfl, rfl, rfl,
    .call (.ask .reset) rfl (.of_runUntilEnded 20 _) rfl, rfl, rfl, rfl⟩

end Playthrough.Interpreter.Alone
