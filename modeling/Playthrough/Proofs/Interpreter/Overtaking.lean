import Playthrough.Proofs.Interpreter.Likeness

/-!
Contract: an interpreter of which two things are asked at the same time.

Owns: what comes of a request that is overtaken while it waits, that this is what the two come to one
after the other as long as the second gives the driver no task, and where it is not.

Does not own: how one operation overtakes another one.

While a request waits, the driver's slot is empty, so another one does not wait at all. What the first
has read before the wait is not read again after it.
-/

namespace Playthrough.Interpreter.Alone

variable {scenario : Scenario} {reporting : Bool} {first second : Request} {store looked : Alone}
variable {outline passed : Draft} {id held : TaskId} {world after : Setting}

/-! ## Requests that give the driver no task -/

namespace Request

/-- Whether a request that finds the driver's slot empty leaves it empty. -/
def Spares (store : Alone) : Request → Prop
  | .start _ => False
  | .choose _ => store.interpreter.progress ≠ .awaitingChoice
  | _ => True

/-- What a request answers that leaves the slot empty. -/
def spared : Request → Option Reply
  | .choose _ => some (.verdict false)
  | _ => none

/-- What a request does to the store that leaves the slot empty. -/
def passing (store : Alone) : Request → Alone
  | .reset => modify Interpreter.reset store
  | .choose offer => refusal offer store
  | _ => store

end Request

/-! ## What a request has looked at -/

namespace Request

/-- Whether what a request does depends on nothing that it has looked at before. -/
def Blind : Request → Prop
  | .choose _ => False
  | _ => True

variable {request : Request} (blind : request.Blind)
include blind

theorem Blind.prepare_eq : request.prepare store = store := by
  cases request with
  | choose _ => exact blind.elim
  | _ => rfl

theorem Blind.effect_eq (other : Alone) : request.effect looked store = request.effect other store := by
  cases request with
  | choose _ => exact blind.elim
  | _ => rfl

theorem Blind.body?_eq (other : Alone) : request.body? looked = request.body? other := by
  cases request with
  | choose _ => exact blind.elim
  | _ => rfl

theorem Blind.heeded : request.Heeded store := by
  cases request with
  | choose _ => exact blind.elim
  | _ => trivial

end Request

/-! ## The wait -/

/-- What a request that leaves the slot empty makes of an outline in which another one waits. -/
structure Passes (second : Request) (outline passed : Draft) : Prop where
  conducts : World.Conducts machine (outline.add (.fresh none second.plan)) outline.count second.plan
    outline.store (· = passed)
  ended : passed.outcomes outline.count = some (.finished second.spared)
  clearing : ∀ {id held}, outline.Clearing id held → passed.Clearing id held
  tasks_eq : ∀ {id}, id < outline.count → passed.tasks id = outline.tasks id
  vacant : passed.holdings () = { slot := none, live := none }
  store_eq : passed.store = second.passing outline.store

theorem passes_of_spares (vacant : outline.holdings () = { slot := none, live := none })
    (spares : second.Spares outline.store) : ∃ passed, Passes second outline passed := by
  let vacated : Draft := (outline.add (.fresh none second.plan)).vacate ()
  have stillVacant : vacated.holdings () = { slot := none, live := none } := Outline.holdings_vacate
  have empty : (outline.holdings ()).slot = none := by rw [vacant]
  have stillEmpty : ∀ driver, (vacated.holdings driver).slot = none := fun _ => by rw [stillVacant]
  cases second with
  | start _ => exact spares.elim
  | reset =>
      exact ⟨_,
        { conducts := .cancel_empty empty (.update (.done rfl))
          ended := Function.update_self _ _ _
          clearing := fun clearing => clearing.beside stillEmpty rfl rfl
          tasks_eq := fun inside => Outline.tasks_beside inside rfl
          vacant := stillVacant
          store_eq := rfl }⟩
  | cancel =>
      exact ⟨_,
        { conducts := .cancel_empty empty (.done rfl)
          ended := Function.update_self _ _ _
          clearing := fun clearing => clearing.beside stillEmpty rfl rfl
          tasks_eq := fun inside => Outline.tasks_beside inside rfl
          vacant := stillVacant
          store_eq := rfl }⟩
  | choose offer =>
      exact ⟨_,
        { conducts := conducts_refused offer spares
          ended := Function.update_self _ _ _
          clearing := fun clearing => clearing.beside (fun _ => empty) rfl rfl
          tasks_eq := fun inside => Outline.tasks_beside inside rfl
          vacant := vacant
          store_eq := rfl }⟩

/-- What a request relies on survives one that leaves the slot empty, unless a choice is forgotten. -/
theorem meets_passing (meets : first.Meets scenario store) (apart : second = .reset → first.Blind) :
    first.Meets scenario (second.passing store) := by
  cases second with
  | start _ => exact meets
  | cancel => exact meets
  | choose offer =>
      cases first with
      | choose _ => exact Playing.of_same meets rfl
      | _ => exact Calm.of_same meets rfl
  | reset =>
      have forgets : ∀ calm : Calm scenario store, Calm scenario (modify Interpreter.reset store) :=
        fun calm => .of_progress calm.scenario_eq (by simp [Interpreter.reset, Interpreter.initial])
      cases first with
      | choose _ => exact (apart rfl).elim
      | _ => exact forgets meets

/-- A request that waits is overtaken by one that gives the driver no task, and goes on in the store
that the other one has left. -/
theorem overtaken_of_spares (sound : Sound scenario world) (noTurn : world.running = none)
    (holding : (world.holdings ()).slot = some held) (heeded : first.Heeded world.store)
    (spares : second.Spares (first.prepare world.store)) :
    ∃ waiting between after,
      World.Overtaken machine world first.plan second.plan first.answer second.spared waiting between
          after
        ∧ ComesTo first world.store
            (unwinding world.outline (second.passing (first.prepare world.store))) after
        ∧ ((second = .reset → first.Blind) → Sound scenario after) := by
  have standing := sound.standing noTurn
  have inside := (standing.within held holding).1
  have clearing := clearing_pausing standing holding first
  obtain ⟨passed, passes⟩ : ∃ passed, Passes second (pausing first world.outline held) passed :=
    passes_of_spares vacant_pausing spares
  have waits : (pausing first world.outline held).tasks world.outline.count =
      some (.fresh none (first.rest world.store)) := tasks_pausing_self inside
  have stillClearing := passes.clearing clearing
  have stillWaits : passed.tasks world.outline.count = some (.fresh none (first.rest world.store)) :=
    (passes.tasks_eq clearing.inside).trans waits
  have sameLeaver : passed.tasks held = (pausing first world.outline held).tasks held :=
    passes.tasks_eq clearing.within
  have unwinds : ∀ task, passed.tasks held = some task →
      task.frames = [] ∨ ∃ next, task.frames = [.ensured (.update unhold .stop) next] := by
    rw [sameLeaver]
    exact unwinds_pausing standing holding first
  let settled : Draft := passed.settled held unhold
  have goesOn : ∀ between : Setting, between.Balanced → between.running = none →
      between.outline = passed → ∃ after, World.Pursues machine world.outline.count between after
        ∧ after.running = none
        ∧ after.outline = concluded first world.store settled world.outline.count settled.store := by
    intro between betweenBalanced stopped same
    simp only [settled]
    rw [← same] at stillClearing stillWaits unwinds ⊢
    exact pursues_concluded betweenBalanced stopped stillClearing stillWaits unwinds
  obtain ⟨waiting, between, after, overtaken, -, reached⟩ :=
    World.overtaken_of_conducts sound.balanced noTurn (conducts_pausing heeded holding inside) waits
      passes.conducts passes.ended stillWaits goesOn outcomes_concluded
  have store_eq : settled.store =
      unwinding world.outline (second.passing (first.prepare world.store)) := by
    rw [← show passed.store = second.passing (first.prepare world.store) from passes.store_eq]
    exact store_settled standing holding sameLeaver
  have deserted : settled.Deserted world.outline.count := stillClearing.deserted unhold
  refine ⟨waiting, between, after, overtaken, ?_, ?_⟩
  · rw [← store_eq]
    exact comesTo_of_concluded deserted reached
  · intro apart
    refine .of_standing (overtaken.balanced sound.balanced noTurn)
      (overtaken.paused sound.paused sound.balanced noTurn) overtaken.firstEnds.1 ?_
    rw [reached]
    refine standing_concluded deserted ?_ ?_
    · rw [holdings_settled]
      exact passes.vacant
    · rw [store_eq]
      exact (meets_passing (meets_prepare standing.calm heeded) apart).unwinding world.outline

/-! ## One after the other -/

/-- Two requests are carried out one after the other, in one of the two orders. In between everything
may be let run. -/
inductive InTurn (first second : Request) (firstAnswer secondAnswer : Option Reply) (world last : Setting) :
    Prop where
  | firstThenSecond {passed : Setting} (fuel : Nat) (former : Carries first world firstAnswer passed)
      (drained : (passed.drain machine fuel).running = none)
      (latter : Carries second (passed.drain machine fuel) secondAnswer last)
  | secondThenFirst {passed : Setting} (fuel : Nat) (former : Carries second world secondAnswer passed)
      (drained : (passed.drain machine fuel).running = none)
      (latter : Carries first (passed.drain machine fuel) firstAnswer last)

theorem same_unwinding (outline : Draft) (offer : Offer) (store : Alone) :
    Same (unwinding outline (refusal offer store)) (unwinding outline store) := by
  simp only [unwinding]
  split
  · rfl
  · simp only [Outline.unwound]
    split <;> rfl

theorem unwinding_of_over (isOver : driverTask? outline = none) (store : Alone) :
    unwinding outline store = store := by
  simp only [unwinding, isOver]

/-- A task that unwinds does not show once everything is forgotten. -/
theorem reset_unwinding (outline : Draft) (store : Alone) :
    modify Interpreter.reset (unwinding outline store) = modify Interpreter.reset store := by
  simp only [unwinding]
  split
  · rfl
  · simp only [Outline.unwound]
    split <;> rfl

/-- Where everything is forgotten there is nothing to take back. -/
theorem unwinding_reset (outline : Draft) (store : Alone) :
    unwinding outline (modify Interpreter.reset store) = modify Interpreter.reset store := by
  simp only [unwinding]
  split
  · rfl
  · simp only [Outline.unwound]
    split <;> rfl

theorem progress_unwinding (outline : Draft) (store : Alone) :
    (unwinding outline store).interpreter.progress = store.interpreter.progress := by
  simp only [unwinding]
  split
  · rfl
  · simp only [Outline.unwound]
    split <;> rfl

/-- A request that goes on where no choice is awaited leaves none awaited. -/
theorem progress_effect (request : Request) (elsewhere : store.interpreter.progress ≠ .awaitingChoice) :
    (request.effect looked store).interpreter.progress ≠ .awaitingChoice := by
  cases request with
  | start preferences =>
      rw [(started_inPlay looked preferences store).1.running]
      simp
  | reset => simp [Request.effect, Interpreter.reset, Interpreter.initial]
  | cancel => exact elsewhere
  | choose offer =>
      simp only [Request.effect, interpreter_applyChoice]
      exact elsewhere

/-- Where a choice is awaited the driver is inactive. -/
theorem Standing.inactive_of_awaiting (standing : Standing scenario [] outline)
    (awaiting : outline.store.interpreter.progress = .awaitingChoice) : driverTask? outline = none := by
  refine standing.inactive ?_
  rw [awaiting]
  simp

theorem InTurn.sound {firstAnswer secondAnswer : Option Reply} {last : Setting}
    (sound : Sound scenario world) (noTurn : world.running = none)
    (inTurn : InTurn first second firstAnswer secondAnswer world last) :
    Sound scenario last ∧ last.running = none := by
  cases inTurn with
  | firstThenSecond fuel former drained latter =>
      exact ⟨((sound.carried noTurn former).drain fuel).carried drained latter, latter.noTurn⟩
  | secondThenFirst fuel former drained latter =>
      exact ⟨((sound.carried noTurn former).drain fuel).carried drained latter, latter.noTurn⟩

/-! ### The order -/

section Order

variable (sound : Sound scenario world) (noTurn : world.running = none)
include sound noTurn

/-- After a request that clears the driver's slot another one goes on without a wait. -/
theorem carries_after {passed : Setting} (former : Carries second world second.answer passed)
    (isOver : driverTask? passed.outline = none) (heeded : first.Heeded passed.store) :
    ∃ last, InTurn first second first.answer second.answer world last
      ∧ ComesTo first passed.store (first.prepare passed.store) last := by
  have passes := sound.carried noTurn former
  obtain ⟨last, latter, comes, -⟩ := carries_of_standing passes.balanced former.noTurn
    (passes.standing former.noTurn) heeded
  rw [unwinding_of_over isOver] at comes
  exact ⟨last, .secondThenFirst 0 former former.noTurn latter, comes⟩

/-- What a request is that is overtaken by one that gives the driver no task: it is what the two come to
one after the other, unless a choice is overtaken by a reset. -/
theorem inTurn_of_comesTo (heeded : first.Heeded world.store)
    (spares : second.Spares (first.prepare world.store)) (apart : second = .reset → first.Blind)
    (comes : ComesTo first world.store
      (unwinding world.outline (second.passing (first.prepare world.store))) after) :
    ∃ last, InTurn first second first.answer second.spared world last ∧ Same after.store last.store
      ∧ driverTask? after.outline = driverTask? last.outline := by
  have standing := sound.standing noTurn
  cases second with
  | start _ => exact spares.elim
  | reset =>
      have blind := apart rfl
      have resets : Request.reset.Heeded world.store := trivial
      obtain ⟨passed, former, cleared, -⟩ :=
        carries_of_standing sound.balanced noTurn standing resets
      obtain ⟨last, inTurn, later⟩ := carries_after sound noTurn former cleared.driver blind.heeded
      have beside : unwinding world.outline (Request.reset.passing (first.prepare world.store)) =
          modify Interpreter.reset world.store := by
        rw [blind.prepare_eq]
        exact unwinding_reset _ _
      have before : passed.store = modify Interpreter.reset world.store :=
        cleared.store_eq.trans (reset_unwinding _ _)
      have same : after.store = last.store := by
        rw [comes.store_eq, beside, later.store_eq, blind.prepare_eq, before,
          blind.effect_eq (modify Interpreter.reset world.store)]
      refine ⟨last, inTurn, congrArg silenced same, ?_⟩
      rw [comes.driver, later.driver, blind.body?_eq]
  | cancel =>
      have cancels : Request.cancel.Heeded world.store := trivial
      obtain ⟨passed, former, cleared, -⟩ :=
        carries_of_standing sound.balanced noTurn standing cancels
      have before : passed.store = unwinding world.outline world.store := cleared.store_eq
      have stillHeeded : first.Heeded passed.store := by
        cases first with
        | choose offer =>
            show passed.store.interpreter.progress = _
            rw [before, progress_unwinding]
            exact heeded
        | _ => trivial
      obtain ⟨last, inTurn, later⟩ := carries_after sound noTurn former cleared.driver stillHeeded
      have same : after.store = last.store ∧ first.body? world.store = first.body? passed.store := by
        rw [comes.store_eq, later.store_eq]
        cases first with
        | choose offer =>
            have isOver := standing.inactive_of_awaiting heeded
            rw [before, unwinding_of_over isOver, unwinding_of_over isOver]
            exact ⟨rfl, rfl⟩
        | _ =>
            rw [before]
            exact ⟨rfl, rfl⟩
      refine ⟨last, inTurn, congrArg silenced same.1, ?_⟩
      rw [comes.driver, later.driver, same.2]
  | choose offer =>
      obtain ⟨passed, former, comesFirst, stands⟩ :=
        carries_of_standing sound.balanced noTurn standing heeded
      have refuses : passed.store.interpreter.progress ≠ .awaitingChoice := by
        rw [comesFirst.store_eq]
        refine progress_effect first ?_
        rw [progress_unwinding]
        exact spares
      obtain ⟨last, latter, left, driver, -⟩ := refused_of_standing stands offer refuses
      refine ⟨last, .firstThenSecond 0 former former.noTurn latter, ?_, ?_⟩
      · rw [comes.store_eq, left]
        show silenced _ = silenced _
        rw [silenced_refusal, comesFirst.store_eq]
        exact (same_unwinding world.outline offer _).effect first
      · rw [comes.driver, driver, comesFirst.driver]

end Order

/-! ## A choice that is overtaken by a reset -/

/-- What is left of a choice after the reset that overtook it: the interpreter is idle, and yet the line
of the choice stands in its log, its points were reported and its branch is played. -/
structure Leaks (offer : Offer) (before after : Setting) : Prop where
  interpreter : after.store.interpreter =
    before.store.interpreter.reset.record (.plain .player offer.text)
  points : after.store.points =
    if before.store.reporting then before.store.points ++ [offer.points] else before.store.points
  driver : driverTask? after.outline =
    some (.fresh (some ()) (seat.resume (Request.choice? before.store offer)))
  lasts : ∀ later, World.Unattended machine after later →
    [.plain .player offer.text] <+: later.store.interpreter.events

/-- The log is only added to. -/
def Grows (before after : Alone) : Prop := before.interpreter.events <+: after.interpreter.events

theorem keeps_seat : seat.Keeps (.within Grows) where
  look _ _ := trivial
  record _ _ := List.prefix_append _ _
  modify change onward store := by
    show store.interpreter.events <+: (change store.interpreter).events
    exact (onward.events store.interpreter).symm ▸ List.prefix_rfl
  warn _ _ := List.prefix_rfl
  onFinish := by
    refine ⟨?_, trivial⟩
    intro store
    show store.interpreter.events <+: (countFinish store).interpreter.events
    exact (interpreter_countFinish store).symm ▸ List.prefix_rfl

theorem points_applyChoice (offer : Offer) (nodeId : String) (choice : Option Choice) (store : Alone) :
    (seat.applyChoice offer nodeId choice store).points =
      if store.reporting then store.points ++ [offer.points] else store.points := by
  obtain ⟨interpreter, reporting, points, finishes, deliveries, warnings⟩ := store
  cases choice <;> cases reporting <;> rfl

theorem leaks_of_comesTo {offer : Offer} (balanced : after.Balanced)
    (comes : ComesTo (.choose offer) world.store
      (unwinding outline (Request.reset.passing ((Request.choose offer).prepare world.store))) after) :
    Leaks offer world after := by
  have cleared : unwinding outline (Request.reset.passing ((Request.choose offer).prepare world.store)) =
      modify Interpreter.reset world.store := unwinding_reset _ _
  have store_eq := comes.store_eq
  rw [cleared] at store_eq
  have interpreter_eq : after.store.interpreter =
      world.store.interpreter.reset.record (.plain .player offer.text) := by
    rw [store_eq]
    exact interpreter_applyChoice _ _ _ _
  refine ⟨interpreter_eq, ?_, comes.driver, ?_⟩
  · rw [store_eq]
    exact points_applyChoice _ _ _ _
  · intro later unattended
    have within : after.Follows (.within Grows) := by
      refine .of_outline ?_
      intro id task found
      have driver := comes.only id task found
      rw [comes.driver] at driver
      cases driver
      exact .fresh (keeps_seat.resume _) _
    have grows : Grows after.store later.store :=
      unattended.stays (fun _ => List.prefix_rfl) (fun _ _ _ => List.IsPrefix.trans)
        (fun _ => keeps_seat.walkBody) balanced within
    rwa [Grows, interpreter_eq] at grows

/-- Nothing is left of a choice and a reset that are carried out one after the other, and nothing goes
on. -/
theorem InTurn.silent {offer : Offer} {firstAnswer secondAnswer : Option Reply} {last : Setting}
    (sound : Sound scenario world) (noTurn : world.running = none)
    (inTurn : InTurn (.choose offer) .reset firstAnswer secondAnswer world last) :
    last.store.interpreter.events = [] ∧ driverTask? last.outline = none := by
  have resets : ∀ store, Request.reset.Heeded store := fun _ => trivial
  cases inTurn with
  | firstThenSecond fuel former drained latter =>
      have comes := ((sound.carried noTurn former).drain fuel).comesTo drained (resets _) latter
      refine ⟨?_, comes.driver⟩
      rw [comes.store_eq]
      rfl
  | @secondThenFirst passed fuel former drained latter =>
      have comes := sound.comesTo noTurn (resets _) former
      have passes := sound.carried noTurn former
      obtain ⟨-, same⟩ := (passes.atRest former.noTurn comes.driver).drain fuel
      have cleared : (passed.drain machine fuel).store.interpreter =
          ((unwinding world.outline world.store).interpreter).reset := by
        rw [show (passed.drain machine fuel).store = passed.store from congrArg Outline.store same,
          comes.store_eq]
        rfl
      have refuses : (passed.drain machine fuel).store.interpreter.progress ≠ .awaitingChoice := by
        rw [cleared]
        simp [Interpreter.reset, Interpreter.initial]
      obtain ⟨later, refused, left, driver, -⟩ :=
        refused_of_standing ((passes.drain fuel).standing drained) offer refuses
      have unique : last = later :=
        latter.pursues.unique refused.pursues (by rw [latter.ended]; rfl) (by rw [refused.ended]; rfl)
      rw [unique]
      refine ⟨?_, ?_⟩
      · rw [left]
        show (passed.drain machine fuel).store.interpreter.events = []
        rw [cleared]
        rfl
      · rw [driver, same]
        exact comes.driver

/-- What leaks is not what a choice and a reset come to one after the other. -/
theorem Leaks.not_alike {offer : Offer} {firstAnswer secondAnswer : Option Reply} {last : Setting}
    (leaks : Leaks offer world after) (sound : Sound scenario world) (noTurn : world.running = none)
    (inTurn : InTurn (.choose offer) .reset firstAnswer secondAnswer world last) (fuel lastFuel : Nat) :
    ¬Alike (after.drain machine fuel) (last.drain machine lastFuel) := by
  intro alike
  obtain ⟨silent, inactive⟩ := inTurn.silent sound noTurn
  obtain ⟨stillSound, stopped⟩ := inTurn.sound sound noTurn
  obtain ⟨-, same⟩ := (stillSound.atRest stopped inactive).drain lastFuel
  have sameStore : (last.drain machine lastFuel).store = last.store := congrArg Outline.store same
  have line := leaks.lasts _ (World.unattended_drain fuel after)
  rw [alike.same.interpreter_eq, sameStore, silent] at line
  cases List.prefix_nil.mp line

/-! ## Overlapping requests -/

/-- A request that finds the driver's slot empty, or that is refused, comes to its end at once. -/
theorem lands_at_once (request : Request)
    (atOnce : (world.holdings ()).slot = none ∨ ¬request.Heeded world.store) :
    World.Lands machine (fun after => (after.outcome? (world.begin request.plan).1).isSome = true)
      (world.begin request.plan).2 := by
  by_cases heeded : request.Heeded world.store
  · have empty : (world.outline.holdings ()).slot = none :=
      atOnce.resolve_right fun refused => refused heeded
    let vacated : Draft := (world.outline.add (.fresh none request.plan)).vacate ()
    have vacant : vacated.holdings () = { slot := none, live := none } := Outline.holdings_vacate
    have stillEmpty : (vacated.holdings ()).slot = none := by rw [vacant]
    refine (World.lands_begin _
      (conducts_plan heeded (.cancel_empty empty (conducts_rest stillEmpty)))).mono ?_
    intro after _ reached
    show (after.outline.outcomes world.outline.count).isSome = true
    rw [show after.outline = _ from reached, outcomes_concluded]
    rfl
  · cases request with
    | choose offer =>
        refine (World.lands_begin _ (conducts_refused offer heeded)).mono ?_
        intro after _ reached
        have ended : after.outline.outcomes world.outline.count =
            some (.finished (some (.verdict false))) := by
          rw [show after.outline = _ from reached]
          exact Function.update_self _ _ _
        show (after.outline.outcomes world.outline.count).isSome = true
        rw [ended]
        rfl
    | _ => exact absurd trivial heeded

section Overlapping

variable {reporting : Bool}

/-- A request that does not wait is over before another one can begin. One that waits, and is overtaken
by one that gives the driver no task, comes with it to what they come to one after the other, once
everything was let run, unless a choice is overtaken by a reset: then the choice is made after it. -/
theorem in_turn_unless_overtaking (occurs : Occurs scenario reporting world)
    (noTurn : world.running = none) :
    (∀ first : Request, (world.holdings ()).slot = none ∨ ¬first.Heeded world.store →
        World.Lands machine (fun after => (after.outcome? (world.begin first.plan).1).isSome = true)
          (world.begin first.plan).2)
      ∧ (∀ first second : Request, (world.holdings ()).slot ≠ none → first.Heeded world.store →
          second.Spares (first.prepare world.store) → (second = .reset → first.Blind) →
          ∃ waiting between after last fuel lastFuel,
            World.Overtaken machine world first.plan second.plan first.answer second.spared waiting
                between after
              ∧ InTurn first second first.answer second.spared world last
              ∧ (after.drain machine fuel).isIdle = true ∧ (last.drain machine lastFuel).isIdle = true
              ∧ Alike (after.drain machine fuel) (last.drain machine lastFuel)
              ∧ ((after.drain machine fuel).store.interpreter.progress = .idle →
                (after.drain machine fuel).isActive () = false))
      ∧ ∀ offer : Offer, (world.holdings ()).slot ≠ none →
          world.store.interpreter.progress = .awaitingChoice →
          ∃ waiting between after,
            World.Overtaken machine world (Request.choose offer).plan Request.reset.plan
                (some (.verdict true)) none waiting between after
              ∧ Leaks offer world after
              ∧ ∀ firstAnswer secondAnswer last,
                  InTurn (.choose offer) .reset firstAnswer secondAnswer world last →
                    ∀ fuel lastFuel, ¬Alike (after.drain machine fuel) (last.drain machine lastFuel) := by
  have sound := Sound.of_occurs occurs
  refine ⟨lands_at_once, ?_, ?_⟩
  · intro first second held heeded spares apart
    obtain ⟨held, holding⟩ := Option.ne_none_iff_exists'.mp held
    obtain ⟨waiting, between, after, overtaken, comes, stands⟩ :=
      overtaken_of_spares sound noTurn holding heeded spares
    have stillSound := stands apart
    have stopped := overtaken.firstEnds.1
    obtain ⟨last, inTurn, same, driver⟩ := inTurn_of_comesTo sound noTurn heeded spares apart comes
    obtain ⟨lastSound, lastStopped⟩ := inTurn.sound sound noTurn
    obtain ⟨fuel, lastFuel, idle, lastIdle, alike⟩ :=
      (Alike.of_sound stillSound lastSound stopped lastStopped same driver).drains stillSound lastSound
        stopped lastStopped comes.driver
    exact ⟨waiting, between, after, last, fuel, lastFuel, overtaken, inTurn, idle, lastIdle, alike,
      (stillSound.drain fuel).inactive_of_idle (World.noTurn_of_isIdle idle)⟩
  · intro offer held awaiting
    obtain ⟨held, holding⟩ := Option.ne_none_iff_exists'.mp held
    have heeded : (Request.choose offer).Heeded world.store := awaiting
    have spares : Request.reset.Spares ((Request.choose offer).prepare world.store) := trivial
    obtain ⟨waiting, between, after, overtaken, comes, -⟩ :=
      overtaken_of_spares sound noTurn holding heeded spares
    have leaks := leaks_of_comesTo (overtaken.balanced sound.balanced noTurn) comes
    refine ⟨waiting, between, after, overtaken, leaks, ?_⟩
    intro firstAnswer secondAnswer last inTurn
    exact leaks.not_alike sound noTurn inTurn

/-- A text scene that asks once. -/
def asking : Scenario :=
  { kind := .text
    header := []
    nodes := [.choice ⟨"ask", some [⟨"yes", .blank, 3, none, none, none⟩]⟩] }

/-- A text scene that tells something. -/
def telling : Scenario :=
  { kind := .text
    header := []
    nodes := [.narrative ⟨"tell", some .blank⟩] }

/-- Where a scene asks, a start that a cancellation overtakes is carried out after it, and a choice that a
reset overtakes goes on after it. -/
theorem in_turn_unless_overtaking_at_choice :
    ∃ world : Setting, Occurs asking true world ∧ world.running = none
      ∧ (∃ waiting between after last fuel lastFuel,
          World.Overtaken machine world (start .standard) cancel none none waiting between after
            ∧ InTurn (.start .standard) .cancel none none world last
            ∧ Alike (after.drain machine fuel) (last.drain machine lastFuel))
      ∧ ∃ waiting between after,
          World.Overtaken machine world (choose ⟨"yes", "", 3⟩) reset (some (.verdict true)) none waiting
              between after
            ∧ after.store.interpreter.progress = .idle ∧ after.store.points = [3] := by
  have fresh : Occurs asking true _ := .construct
  have started := fresh.ask (.start .standard) rfl (.of_runUntilEnded 20 _) rfl
  have asks := started.stepped 20
  obtain ⟨-, sparing, leaking⟩ := in_turn_unless_overtaking asks rfl
  obtain ⟨waiting, between, after, last, fuel, lastFuel, overtaken, inTurn, -, -, alike, -⟩ :=
    sparing (.start .standard) .cancel (Option.some_ne_none 1) trivial trivial (by simp)
  obtain ⟨pausing, passing, late, follows, leaks, -⟩ := leaking ⟨"yes", "", 3⟩ (Option.some_ne_none 1) rfl
  refine ⟨_, asks, rfl, ⟨waiting, between, after, last, fuel, lastFuel, overtaken, inTurn, alike⟩,
    pausing, passing, late, follows, ?_, ?_⟩
  · rw [leaks.interpreter]
    rfl
  · rw [leaks.points]
    rfl

/-- Of a reset and a start that are asked for together, the interpreter is idle and active once nothing
moves any more, which it is not when they are asked for one after the other. -/
theorem not_in_turn_at_narration :
    ∃ world : Setting, Occurs telling true world ∧ world.running = none
      ∧ ∃ drained, drained = World.drain machine 30 (world.beginAll [reset, start .standard]).2
        ∧ drained.isIdle = true
        ∧ (world.beginAll [reset, start .standard]).1.map drained.outcome? =
          [some (.finished none), some (.finished none)]
        ∧ drained.store.interpreter.progress = .idle ∧ drained.isActive () = true
        ∧ ∀ last, Occurs telling true last → last.running = none →
          last.store.interpreter.progress = .idle → last.isActive () = false := by
  have fresh : Occurs telling true _ := .construct
  have started := fresh.ask (.start .standard) rfl (.of_runUntilEnded 20 _) rfl
  have tells := started.stepped 20
  refine ⟨_, tells, rfl, _, rfl, rfl, rfl, rfl, rfl, ?_⟩
  intro last occurs noTurn idle
  exact (Sound.of_occurs occurs).inactive_of_idle noTurn idle

end Overlapping

end Playthrough.Interpreter.Alone
