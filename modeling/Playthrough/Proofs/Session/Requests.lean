import Playthrough.Proofs.Session.Resumption

/-!
Contract: what the first turn of an operation makes of a play-through.

Owns: every operation, from its beginning to its end or to where it waits first.

Does not own: the rest of operations that wait.
-/

namespace Playthrough.Session.Alone

variable {scenes : Scenes} {history : History} {situation next : Situation} {outline : Draft}
variable {flight : Flight} {store : Alone} {id held : TaskId}
variable {nearer : TaskId → Situation → Draft → Prop}

theorem Situation.eq_fresh (isFresh : situation.isFresh = true) : situation = .fresh := by
  cases situation with
  | fresh => rfl
  | scene _ _ _ _ => cases isFresh
  | leaving => cases isFresh
  | transition => cases isFresh
  | claimed _ _ => cases isFresh
  | epilogue _ _ _ => cases isFresh
  | clearing _ _ => cases isFresh
  | fading _ _ => cases isFresh

/-- An operation that is refused changes nothing. -/
theorem conducts_refused (inFlight : history.flight = some flight) (calm : situation.Calm)
    (standing : Standing scenes situation [flight.task] outline)
    (unended : outline.outcomes flight.task = none) (same : situation.isFresh = history.fresh)
    (refuses : flight.operation.answer flight.accepts = some (.verdict false))
    (sameSession : store.session = outline.store.session) :
    World.Conducts machine outline flight.task refused store
      (Continues scenes history situation outline nearer) := by
  have counts : ∀ chosen : List Choice,
      flight.credited scenes chosen (.finished (some (.verdict false))) = chosen := by
    intro chosen
    refine Flight.credited_of_refused ?_
    cases asked : flight.operation <;> first | rfl | (rw [asked] at refuses; cases refuses)
  refine .done (.ended inFlight (standing.close calm sameSession _) ?_ ?_ fun chosen accounts =>
    accounts.of_other inFlight unended (by rw [sameSession]) (counts chosen))
  · obtain ⟨task, operation, place, accepts⟩ := flight
    refine ⟨calm, ?_, ?_, fun _ _ => same, ?_, ?_, ?_, ?_⟩
    · rintro rfl
      cases refuses
    · intro restarts
      obtain ⟨preferences, rfl⟩ := Operation.eq_restart restarts
      cases refuses
    · intro _ _ accepted
      cases accepted
    · rintro rfl
      cases refuses
    · intro phase leaves accepted
      simp only at accepted
      subst accepted
      cases operation <;> cases refuses
    · exact congrArg Outcome.finished refuses.symm
  · exact fun _ => ⟨.refl _ _, by rw [sameSession]⟩

/-! ## What operations look at first -/

theorem triggerTransition_eq :
    triggerTransition = .look fun store =>
      if store.session.phase = .textScene ∧ store.session.text.transitionReady = true then
        .cancel .text leaveText
      else
        .update (seat.warn
          (.transitionIgnored store.session.phase store.session.text.transitionReady)) refused := rfl

theorem beginEncounter_eq :
    beginEncounter = .look fun store =>
      if store.session.phase = .transition then seat.enterEncounter accepted
      else .update (seat.warn (.encounterIgnored store.session.phase)) refused := rfl

theorem choose_eq (kind : SceneKind) (offer : Offer) :
    ((sceneSeat kind).select offer refused accepted : Plan) =
      .look fun store =>
        if (store.session.interpreter kind).progress = .awaitingChoice then
          .update ((sceneSeat kind).modify Interpreter.claim)
            (.cancel (roleOf kind)
              (answer kind offer (((store.session.interpreter kind).node?.map Node.id).getD "")
                (Seat.chosen? (store.session.interpreter kind) offer.tag)))
        else
          .update ((sceneSeat kind).warn
            (.choiceIgnored (store.session.interpreter kind).scenario.kind offer.tag
              (store.session.interpreter kind).progress)) refused := rfl

theorem select_eq (tag : String) :
    select tag = .look fun store =>
      match store.session.currentKind? with
      | none => refused
      | some kind =>
          match (store.session.interpreter kind).choices.find? fun offer => offer.tag == tag with
          | some offer => (sceneSeat kind).select offer refused accepted
          | none => .update (seat.warn (.optionNotOffered tag store.session.phase)) refused := rfl

/-! ## Where something can be done -/

/-- The text scene can be left where it has stopped. -/
theorem Standing.stopped_of_leavable {bystanders : List TaskId} (calm : situation.Calm)
    (standing : Standing scenes situation bystanders outline)
    (phase : outline.store.session.phase = .textScene)
    (ready : outline.store.session.text.transitionReady = true) :
    ∃ id halt, situation = .scene .text id halt none
      ∧ outline.store.session.text.progress ∈ [Progress.transitionReady, .terminal] := by
  have looks := standing.looks
  cases situation with
  | fresh =>
      rw [looks.2.2.1.notReady] at ready
      cases ready
  | scene kind id halt ahead =>
      obtain ⟨around, -, -, preferences, playing⟩ := looks
      cases phaseOf_injective (around.phase.symm.trans phase : phaseOf kind = phaseOf .text)
      cases ahead with
      | some ahead =>
          have notReady : outline.store.session.text.transitionReady = false := playing.notReady
          rw [notReady] at ready
          cases ready
      | none =>
          obtain ⟨⟨base, inPlay, -, -, same⟩, -⟩ := playing
          have here : outline.store.session.text = base.halted halt := same
          rw [here, inPlay.transitionReady_halted] at ready
          refine ⟨id, halt, rfl, ?_⟩
          rw [here, inPlay.progress_halted]
          cases halt <;> simp_all [Halt.leavable, Halt.progress]
  | transition =>
      rw [looks.1] at phase
      cases phase
  | epilogue _ _ _ =>
      rw [looks.1] at phase
      cases phase
  | leaving => exact calm.elim
  | claimed _ _ => exact calm.elim
  | clearing _ _ => exact calm.elim
  | fading _ _ => exact calm.elim

/-- Choices are on offer where a scene has stopped at them. -/
theorem Standing.stopped_of_offered {bystanders : List TaskId} {kind : SceneKind} {offer : Offer}
    (calm : situation.Calm) (standing : Standing scenes situation bystanders outline)
    (phase : outline.store.session.phase = phaseOf kind)
    (offered : offer ∈ (outline.store.session.interpreter kind).choices) :
    ∃ id index node, situation = .scene kind id (.offering index node) none := by
  have looks := standing.looks
  cases situation with
  | fresh =>
      have text : kind = .text := phaseOf_injective (phase.symm.trans looks.1 : _ = phaseOf .text)
      subst text
      have nothing : (outline.store.session.interpreter .text).choices = [] :=
        looks.2.2.1.nothingOffered
      rw [nothing] at offered
      cases offered
  | scene other id halt ahead =>
      obtain ⟨around, -, -, preferences, playing⟩ := looks
      cases phaseOf_injective (around.phase.symm.trans phase)
      cases ahead with
      | some ahead =>
          have nothing := playing.nothingOffered
          rw [nothing] at offered
          cases offered
      | none =>
          obtain ⟨⟨base, inPlay, -, -, same⟩, -⟩ := playing
          rw [same, inPlay.choices_halted] at offered
          cases halt with
          | offering index node => exact ⟨id, index, node, rfl⟩
          | ready _ => cases offered
          | ended _ => cases offered
          | stuck _ => cases offered
  | transition =>
      rw [looks.1] at phase
      cases kind <;> cases phase
  | epilogue _ _ _ =>
      rw [looks.1] at phase
      cases kind <;> cases phase
  | leaving => exact calm.elim
  | claimed _ _ => exact calm.elim
  | clearing _ _ => exact calm.elim
  | fading _ _ => exact calm.elim

/-! ## Beginning, and confirming the transition -/

theorem conducts_begin (inFlight : history.flight = some flight) (begins : flight.operation = .begin)
    (standing : Standing scenes .fresh [flight.task] outline)
    (unended : outline.outcomes flight.task = none) :
    World.Conducts machine outline flight.task begin outline.store
      (Continues scenes history .fresh outline nearer) := by
  obtain ⟨phase, blank, text, encounter⟩ := standing.looks
  have deserted := standing.deserted (fun _ => rfl) (by simp [Situation.leaver])
  let entered : Alone :=
    { outline.store with session := outline.store.session.enter .textScene }
  have around : Around .text entered.session := ⟨rfl, blank⟩
  have still : scenes.Of entered.session := standing.scenes_of.enter .textScene
  refine .update (.look (conducts_start deserted still around (fun _ => encounter) _ ?_))
  intro halt ahead final after stands samePreferences sameScore
  have counts : ∀ chosen, flight.credited scenes chosen (.finished none) = chosen := by
    intro chosen
    exact Flight.credited_of_other (by rw [begins]; rfl) (by simp [begins])
  refine .ended inFlight stands ?_
    (fun _ => ⟨.of_silent rfl (.stay _) fun _ _ => trivial, samePreferences⟩) fun chosen accounts =>
      accounts.of_other inFlight unended sameScore (counts chosen)
  refine ⟨trivial, fun _ => rfl, ?_, fun notBegin => absurd begins notBegin, ?_, ?_, ?_, ?_⟩
  · rw [begins]
    intro restarts
    cases restarts
  · rw [begins]
    intro tag selects
    cases selects
  · rw [begins]
    intro settles
    cases settles
  · rw [begins]
    intro phase leaves
    cases leaves
  · rw [begins]
    rfl

theorem conducts_beginEncounter (inFlight : history.flight = some flight)
    (confirms : flight.operation = .beginEncounter)
    (accepts : flight.accepts = flight.operation.isAccepted outline.store.session)
    (calm : situation.Calm) (same : situation.isFresh = history.fresh)
    (standing : Standing scenes situation [flight.task] outline)
    (unended : outline.outcomes flight.task = none) :
    World.Conducts machine outline flight.task beginEncounter outline.store
      (Continues scenes history situation outline nearer) := by
  rw [beginEncounter_eq]
  refine .look ?_
  by_cases transition : outline.store.session.phase = .transition
  · have stands : situation = .transition := by
      have looks := standing.looks
      cases situation with
      | transition => rfl
      | fresh =>
          rw [looks.1] at transition
          cases transition
      | scene kind _ _ _ =>
          rw [looks.1.phase] at transition
          cases kind <;> cases transition
      | epilogue _ _ _ =>
          rw [looks.1] at transition
          cases transition
      | leaving => exact calm.elim
      | claimed _ _ => exact calm.elim
      | clearing _ _ => exact calm.elim
      | fading _ _ => exact calm.elim
    subst stands
    obtain ⟨-, blank, -⟩ := standing.looks
    have deserted := standing.deserted (fun _ => rfl) (by simp [Situation.leaver])
    rw [if_pos transition]
    have accepted : flight.accepts = true := by
      rw [accepts, confirms]
      simp [Operation.isAccepted, transition]
    exact conducts_confirmed inFlight (.inr confirms) same.symm accepted deserted unended
      standing.scenes_of blank .confirm (fun _ encounter => encounter) rfl
  · rw [if_neg transition]
    refine .update (conducts_refused inFlight calm standing unended same ?_ rfl)
    rw [accepts, confirms]
    simp [Operation.isAccepted, Operation.answer, transition]

/-! ## Leaving the text scene -/

theorem conducts_triggerTransition (inFlight : history.flight = some flight)
    (leaves : flight.operation = .triggerTransition)
    (accepts : flight.accepts = flight.operation.isAccepted outline.store.session)
    (calm : situation.Calm) (same : situation.isFresh = history.fresh)
    (standing : Standing scenes situation [flight.task] outline)
    (unended : outline.outcomes flight.task = none) :
    World.Conducts machine outline flight.task triggerTransition outline.store
      (Continues scenes history situation outline fun _ _ _ => True) := by
  rw [triggerTransition_eq]
  refine .look ?_
  by_cases leavable : outline.store.session.phase = .textScene
      ∧ outline.store.session.text.transitionReady = true
  · rw [if_pos leavable]
    obtain ⟨held, halt, rfl, stopped⟩ := standing.stopped_of_leavable calm leavable.1 leavable.2
    obtain ⟨around, untouched, -⟩ := standing.looks
    have slot : (outline.holdings .text).slot = some held := standing.slot_eq .text
    have different : held ≠ flight.task := by
      intro sameTask
      exact (standing.within .text held rfl).2 (by simp [sameTask])
    have stands : Standing scenes .leaving [flight.task]
        (taken outline .text held flight.task leaveText outline.store) := by
      refine standing.take rfl rfl ?_ standing.scenes_of
        ⟨around.phase, around.epilogue, untouched rfl, stopped⟩ ?_ ?_ ?_
      · intro role
        cases role <;> rfl
      · intro role someone performs
        cases performs
      · intro role someone performs
        cases performs
      · intro stage someone clears
        cases clears
    have accepted : flight.accepts = true := by
      rw [accepts, leaves]
      simp [Operation.isAccepted, leavable.1, leavable.2]
    refine .cancel_held slot different
      ⟨.leaving, .engaged inFlight stands (tasks_taken_self different) ?_ (fun _ => same) ?_, ?_,
        fun _ _ _ => trivial, fun _ accounts => accounts.of_kept inFlight rfl rfl⟩
    · rw [leaves]
      exact .leaving accepted
    · intro leaver task gone
      cases gone
    · refine fun _ => ⟨⟨.stay _, fun _ encounter => .inl ⟨rfl, encounter⟩, ?_, ?_⟩, rfl⟩
      · rintro place shown
        refine .inr ?_
        intro encounter
        cases halt <;> cases shown
        cases encounter
      · intro place _ offered
        cases offered
  · rw [if_neg leavable]
    refine .update (conducts_refused inFlight calm standing unended same ?_ rfl)
    have refuses : flight.accepts = false := by
      rw [accepts, leaves]
      simp only [Operation.isAccepted]
      by_contra accepted
      refine leavable ?_
      simpa using accepted
    rw [refuses, leaves]
    rfl

/-! ## Choosing -/

/-- A play-through in which the choices of a node are on offer. -/
structure OffersAt (scenes : Scenes) (kind : SceneKind) (index : Nat) (node : ChoiceNode)
    (session : Session) : Prop where
  phase : session.phase = phaseOf kind
  here : (scenes.scenario kind).nodes[index]? = some (.choice node)
  place : session.place? = some (kind, index)
  awaits : (session.interpreter kind).progress = .awaitingChoice
  there : (session.interpreter kind).node? = some (.choice node)
  choices : (session.interpreter kind).choices =
    node.options.map fun choice => choice.offer (session.interpreter kind).preferences.language

theorem Situation.Looks.offersAt {kind : SceneKind} {index : Nat} {node : ChoiceNode}
    {session : Session}
    (looks : Situation.Looks scenes (.scene kind id (.offering index node) none) session) :
    OffersAt scenes kind index node session := by
  obtain ⟨around, -, fits, preferences, ⟨base, inPlay, -, place, stopped⟩, -⟩ := looks
  obtain ⟨-, here, -⟩ := fits.offers index node rfl
  refine ⟨around.phase, here, ?_, ?_, ?_, ?_⟩
  · rw [place?, currentKind_eq_some.mpr around.phase, Option.map_some, stopped,
      Interpreter.nodeIndex_halted, place]
    rfl
  · rw [stopped]
    rfl
  · rw [stopped, Interpreter.node?, Interpreter.scenario_halted, Interpreter.nodeIndex_halted, place,
      inPlay.scenario_eq]
    exact here
  · rw [stopped, inPlay.choices_halted, Interpreter.preferences_halted, inPlay.preferences_eq]
    rfl

/-- What is found on offer by its tag is the offer of the first choice of that id. -/
theorem OffersAt.find?_choices {kind : SceneKind} {index : Nat} {node : ChoiceNode}
    {session : Session} (offers : OffersAt scenes kind index node session) (tag : String) :
    ((session.interpreter kind).choices.find? fun offer => offer.tag == tag) =
      (node.find? tag).map fun choice =>
        choice.offer (session.interpreter kind).preferences.language := by
  rw [offers.choices, List.find?_map]
  rfl

/-- A choice is accepted where its node has come on offer. -/
theorem Standing.offered {bystanders : List TaskId} {tag : String} (calm : situation.Calm)
    (standing : Standing scenes situation bystanders outline)
    (accepted : (Operation.select tag).isAccepted outline.store.session = true) :
    ∃ kind id index node choice, situation = .scene kind id (.offering index node) none
      ∧ node.find? tag = some choice := by
  simp only [Operation.isAccepted] at accepted
  cases current : outline.store.session.currentKind? with
  | none => simp [current] at accepted
  | some kind =>
      simp only [current, List.any_eq_true] at accepted
      obtain ⟨offer, offered, tagged⟩ := accepted
      obtain ⟨id, index, node, rfl⟩ :=
        standing.stopped_of_offered calm (currentKind_eq_some.mp current) offered
      have found : (((outline.store.session.interpreter kind).choices.find? fun offer =>
          offer.tag == tag)).isSome = true := List.find?_isSome.mpr ⟨offer, offered, tagged⟩
      rw [standing.looks.offersAt.find?_choices, Option.isSome_map] at found
      obtain ⟨choice, first⟩ := Option.isSome_iff_exists.mp found
      exact ⟨kind, id, index, node, choice, rfl, first⟩

/-- The store in which a choice has been claimed. -/
def claimed (kind : SceneKind) (store : Alone) : Alone :=
  (sceneSeat kind).modify Interpreter.claim store

/-- The driver of a scene loses its task to an operation that has claimed a choice. -/
theorem Standing.claim {kind : SceneKind} {index : Nat} {node : ChoiceNode}
    (standing : Standing scenes (.scene kind held (.offering index node) none) [id] outline)
    (program : Plan) :
    Standing scenes (.claimed kind index) [id]
      (taken outline (roleOf kind) held id program (claimed kind outline.store)) := by
  obtain ⟨around, untouched, -, preferences, ⟨base, inPlay, clear, place, stopped⟩, -⟩ :=
    standing.looks
  have back : (claimed kind outline.store).session.interpreter kind = base := by
    refine (interpreter_modifyInterpreter _ _ _).trans ?_
    rw [stopped]
    exact Interpreter.claim_offer inPlay node
  have spares : Spares kind outline.store.session (claimed kind outline.store).session :=
    spares_modify _ _ _
  have looks : Situation.Looks scenes (.claimed kind index) (claimed kind outline.store).session := by
    refine ⟨untouched_of_spares spares untouched, ?_, preferences, ?_, ?_, ?_⟩
    · rw [back]
      exact place
    · rw [back]
      exact inPlay
    · rw [back]
      exact clear
    · cases kind <;> exact ⟨around.phase, around.epilogue⟩
  refine standing.take rfl (by simp [Situation.slot]) ?_ ?_ looks ?_ ?_ ?_
  · intro role
    simp only [Situation.slot]
    split <;> rfl
  · exact standing.scenes_of.of_spares spares (by rw [back]; exact inPlay.scenario_eq)
  · intro role someone performs
    cases performs
  · intro role someone performs
    cases performs
  · intro stage someone clears
    cases clears

/-- A choice that is on offer is claimed, and the driver of the scene is waited for. -/
theorem conducts_claim {kind : SceneKind} {index : Nat} {node : ChoiceNode} {choice : Choice}
    {tag : String} {post : Draft → Prop}
    (standing : Standing scenes (.scene kind held (.offering index node) none) [id] outline)
    (found : node.find? tag = some choice)
    (reached : post (taken outline (roleOf kind) held id
      (answer kind (choice.offer (outline.store.session.interpreter kind).preferences.language) node.id
        (some choice)) (claimed kind outline.store))) :
    World.Conducts machine outline id (select tag) outline.store post := by
  have offers := standing.looks.offersAt
  have slot : (outline.holdings (roleOf kind)).slot = some held := by
    rw [standing.slot_eq]
    simp [Situation.slot]
  have different : held ≠ id := by
    intro sameTask
    have outside := (standing.within (roleOf kind) held (by simp [Situation.slot])).2
    exact outside (by simp [sameTask])
  have chosen : Seat.chosen? (outline.store.session.interpreter kind) choice.id = some choice := by
    rw [Seat.chosen?, offers.there, ChoiceNode.id_of_find? found]
    exact found
  rw [select_eq]
  refine .look ?_
  simp only [currentKind_eq_some.mpr offers.phase, offers.find?_choices, found, Option.map_some]
  rw [choose_eq]
  refine .look ?_
  rw [if_pos offers.awaits, Choice.tag_offer, chosen, offers.there]
  exact .update (.cancel_held slot different reached)

theorem conducts_choice {kind : SceneKind} {index : Nat} {node : ChoiceNode} {choice : Choice}
    {tag : String} (inFlight : history.flight = some flight) (selects : flight.operation = .select tag)
    (placed : flight.place = outline.store.session.place?)
    (same : (Situation.scene kind held (.offering index node) none).isFresh = history.fresh)
    (standing : Standing scenes (.scene kind held (.offering index node) none) [flight.task] outline)
    (agrees : flight.accepts = true) (found : node.find? tag = some choice) :
    World.Conducts machine outline flight.task (select tag) outline.store
      (Continues scenes history (.scene kind held (.offering index node) none) outline
        fun _ _ _ => True) := by
  have offers := standing.looks.offersAt
  have different : held ≠ flight.task := by
    intro sameTask
    have outside := (standing.within (roleOf kind) held (by simp [Situation.slot])).2
    exact outside (by simp [sameTask])
  have spares : Spares kind outline.store.session (claimed kind outline.store).session :=
    spares_modify _ _ _
  refine conducts_claim standing found ⟨.claimed kind index,
    .engaged inFlight (standing.claim _) (tasks_taken_self different) ?_ (fun _ => same) ?_, ?_,
    fun _ _ _ => trivial, fun _ accounts => accounts.of_kept inFlight rfl spares.score⟩
  · rw [selects]
    exact .choosing _ node.id offers.here found (placed.trans offers.place) agrees
  · intro leaver task gone
    cases gone
  · intro _
    refine ⟨⟨.stay _, ?_, fun _ shown => .inl shown, by simp [Situation.offering?]⟩, spares.preferences⟩
    rintro somewhere (elsewhere | ⟨samePlace, further⟩)
    · exact .inl elsewhere
    · exact .inr ⟨samePlace, index, node, rfl, further⟩

/-- A choice that is not accepted is refused, with or without a warning. -/
theorem select_of_refused {tag : String} {session : Session}
    (refuses : (Operation.select tag).isAccepted session = false) :
    ∃ choose, select tag = .look choose ∧ ∀ store : Alone, store.session = session →
      choose store = refused ∨ ∃ warning, choose store = .update (seat.warn warning) refused := by
  refine ⟨_, select_eq tag, ?_⟩
  rintro store rfl
  simp only [Operation.isAccepted] at refuses
  cases current : store.session.currentKind? with
  | none => exact .inl rfl
  | some kind =>
      simp only [current] at refuses
      have nothing : ((store.session.interpreter kind).choices.find? fun offer =>
          offer.tag == tag) = none := by
        rw [List.find?_eq_none]
        simpa using refuses
      simp only [nothing]
      exact .inr ⟨_, rfl⟩

theorem conducts_select {tag : String} (inFlight : history.flight = some flight)
    (selects : flight.operation = .select tag)
    (placed : flight.place = outline.store.session.place?)
    (accepts : flight.accepts = flight.operation.isAccepted outline.store.session)
    (calm : situation.Calm) (same : situation.isFresh = history.fresh)
    (standing : Standing scenes situation [flight.task] outline)
    (unended : outline.outcomes flight.task = none) :
    World.Conducts machine outline flight.task (select tag) outline.store
      (Continues scenes history situation outline fun _ _ _ => True) := by
  rw [selects] at accepts
  cases verdict : (Operation.select tag).isAccepted outline.store.session with
  | true =>
      obtain ⟨kind, held, index, node, choice, rfl, found⟩ := standing.offered calm verdict
      exact conducts_choice inFlight selects placed same standing (accepts.trans verdict) found
  | false =>
      have refuses : flight.operation.answer flight.accepts = some (.verdict false) := by
        rw [selects, accepts, verdict]
        rfl
      obtain ⟨choose, looks, turns⟩ := select_of_refused verdict
      rw [looks]
      refine .look ?_
      rcases turns outline.store rfl with turned | ⟨warning, turned⟩
      · rw [turned]
        exact conducts_refused inFlight calm standing unended same refuses rfl
      · rw [turned]
        exact .update (conducts_refused inFlight calm standing unended same refuses rfl)

/-! ## Restarting -/

/-- A restart from where a scene is played, or has stopped. -/
theorem conducts_restart_scene {kind : SceneKind} {halt : Halt} {ahead : Option Nat}
    {other : Option Preferences} (inFlight : history.flight = some flight)
    (restarts : flight.operation = .restart other)
    (standing : Standing scenes (.scene kind held halt ahead) [flight.task] outline) :
    World.Conducts machine outline flight.task (restart other) outline.store
      (Continues scenes history next outline fun _ _ _ => True) := by
  have different : held ≠ flight.task := by
    intro sameTask
    have outside := (standing.within (roleOf kind) held (by simp [Situation.slot])).2
    exact outside (by simp [sameTask])
  obtain ⟨around, untouched, -⟩ := standing.looks
  rw [restart_eq]
  cases kind with
  | text =>
      have slot : (outline.holdings .text).slot = some held := standing.slot_eq .text
      refine .cancel_held slot different ?_
      refine continues_taken inFlight restarts standing rfl rfl ?_ standing.scenes_of ?_ rfl rfl
        fun _ => trivial
      · intro role elsewhere
        exact if_neg elsewhere
      · exact ⟨around.phase, around.epilogue, untouched rfl⟩
  | encounter =>
      have empty : (outline.holdings .text).slot = none := standing.slot_eq .text
      have slot : ((outline.vacate .text).holdings .encounter).slot = some held := by
        rw [Outline.slot_vacate]
        exact standing.slot_eq .encounter
      have vacated : Standing scenes (.scene .encounter held halt ahead) [flight.task]
          (outline.vacate .text) := standing.vacate rfl
      refine .cancel_empty empty (.update (.cancel_held slot different ?_))
      refine continues_taken inFlight restarts vacated rfl rfl ?_ ?_ ?_ rfl rfl fun _ => trivial
      · intro role elsewhere
        exact if_neg elsewhere
      · exact standing.scenes_of.of_spares (spares_modify .text _ _)
          (standing.scenes_of.scenario_eq .text)
      · exact ⟨around.phase, untouched_reset _, standing.looks.progress_of_encounter⟩

/-- A restart from the epilogue waits for the task of the encounter, although it has ended, while the
epilogue goes on. -/
theorem conducts_restart_epilogue {finished : TaskId} {ahead : Option Nat} {other : Option Preferences}
    (inFlight : history.flight = some flight)
    (restarts : flight.operation = .restart other)
    (standing : Standing scenes (.epilogue finished id ahead) [flight.task] outline) :
    World.Conducts machine outline flight.task (restart other) outline.store
      (Continues scenes history next outline fun _ _ _ => True) := by
  have different : finished ≠ flight.task := by
    intro sameTask
    exact (standing.within .encounter finished rfl).2 (by simp [sameTask])
  obtain ⟨phase, terminal, earned, -⟩ := standing.looks
  have empty : (outline.holdings .text).slot = none := standing.slot_eq .text
  have slot : ((outline.vacate .text).holdings .encounter).slot = some finished := by
    rw [Outline.slot_vacate]
    exact standing.slot_eq .encounter
  have vacated : Standing scenes (.epilogue finished id ahead) [flight.task] (outline.vacate .text) :=
    standing.vacate rfl
  let forgotten : Alone := (sceneSeat .text).modify Interpreter.reset outline.store
  have stands : Standing scenes (.fading id ahead) [flight.task]
      (taken (outline.vacate .text) .encounter finished flight.task (forgetEncounter other)
        forgotten) := by
    refine vacated.take rfl rfl ?_ ?_ ⟨phase, untouched_reset _, terminal, earned⟩ ?_ ?_ ?_
    · intro role
      cases role <;> rfl
    · exact standing.scenes_of.of_spares (spares_modify .text _ _)
        (standing.scenes_of.scenario_eq .text)
    · intro role someone performs
      cases ahead with
      | none => cases performs
      | some ahead =>
          cases performs
          refine ⟨by simp, rfl, ?_⟩
          rintro following frames ⟨bare, entries, length, runs⟩
          exact ⟨bare, entries, length, runs⟩
    · intro role someone performs
      cases ahead with
      | none => cases performs
      | some ahead => exact .inl performs
    · intro stage someone clears
      cases clears
  rw [restart_eq]
  refine .cancel_empty empty (.update (.cancel_held slot different ⟨.fading id ahead,
    .engaged inFlight stands (tasks_taken_self different) ?_ ?_ ?_, ?_, fun _ _ _ => trivial,
    fun _ accounts => accounts.of_kept inFlight rfl rfl⟩))
  · rw [restarts]
    exact .fading id ahead other
  · intro notRestart
    rw [restarts] at notRestart
    cases notRestart
  · intro leaver task gone
    cases gone
  · intro notRestarting
    rw [History.restarting_of_flight inFlight, restarts] at notRestarting
    cases notRestarting

theorem conducts_restart {other : Option Preferences} (inFlight : history.flight = some flight) (restarts : flight.operation = .restart other)
    (calm : situation.Calm) (standing : Standing scenes situation [flight.task] outline) :
    World.Conducts machine outline flight.task (restart other) outline.store
      (Continues scenes history next outline fun _ _ _ => True) := by
  have isRestart : flight.operation.isRestart = true := by
    rw [restarts]
    rfl
  have bare : situation.Vacant → World.Conducts machine outline flight.task (restart other)
      outline.store (Continues scenes history next outline fun _ _ _ => True) := by
    intro vacant
    have deserted := standing.deserted vacant (by simp [calm.no_leaver])
    rw [restart_eq]
    refine .cancel_empty (deserted.slots _) ?_
    exact conducts_forgetText inFlight isRestart (deserted.vacate _) standing.scenes_of
  cases situation with
  | fresh => exact bare fun _ => rfl
  | transition => exact bare fun _ => rfl
  | scene kind held halt ahead => exact conducts_restart_scene inFlight restarts standing
  | epilogue finished id ahead => exact conducts_restart_epilogue inFlight restarts standing
  | leaving => exact calm.elim
  | claimed _ _ => exact calm.elim
  | clearing _ _ => exact calm.elim
  | fading _ _ => exact calm.elim

/-! ## Any operation -/

/-- Whatever is asked for, a play-through goes on. -/
theorem conducts_plan (inFlight : history.flight = some flight)
    (placed : flight.place = outline.store.session.place?)
    (accepts : flight.accepts = flight.operation.isAccepted outline.store.session)
    (timely : flight.operation = .begin → history.fresh = true) (calm : situation.Calm)
    (same : situation.isFresh = history.fresh)
    (standing : Standing scenes situation [flight.task] outline)
    (unended : outline.outcomes flight.task = none) :
    World.Conducts machine outline flight.task flight.operation.plan outline.store
      (Continues scenes history situation outline fun _ _ _ => True) := by
  cases asked : flight.operation with
  | begin =>
      have fresh := Situation.eq_fresh (same.trans (timely asked))
      subst fresh
      exact conducts_begin inFlight asked standing unended
  | triggerTransition =>
      exact conducts_triggerTransition inFlight asked accepts calm same standing unended
  | beginEncounter => exact conducts_beginEncounter inFlight asked accepts calm same standing unended
  | select tag => exact conducts_select inFlight asked placed accepts calm same standing unended
  | restart other => exact conducts_restart inFlight asked calm standing
  | settle => exact conducts_settle inFlight asked calm standing unended same [] fun _ _ => trivial

end Playthrough.Session.Alone
