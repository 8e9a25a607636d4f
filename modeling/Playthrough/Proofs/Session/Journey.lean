import Mathlib.Data.List.Nodup
import Playthrough.Proofs.Session.Completion

/-!
Contract: no play-through comes to a dead end.

Owns: the next step of a play-through that has settled (`HasNextStep`), the choice nodes of its scenes,
and that it comes to the end of its epilogue however the player goes on (`Finishes`).

Does not own: that single operations complete.

A choice node is chosen at once, so what remains of a play-through is bounded by the choice nodes that
were not chosen at yet and by the phases that were not entered yet. Every accepted move uses up one of
them.
-/

namespace Playthrough

/-- Whether a node is a choice node, with options or without. -/
def Node.isChoice : Node → Bool
  | .choice _ => true
  | _ => false

/-- How many choice nodes a scenario has. -/
def Scenario.choiceCount (scenario : Scenario) : Nat :=
  scenario.nodes.countP Node.isChoice

namespace Session.Alone

variable {scenes : Scenes} {history later : History} {situation : Situation}
variable {world settled after : Setting} {operation : Operation}

/-! ## Choice nodes -/

namespace Scenes

/-- The places of the choice nodes of a scene. -/
def choicePlaces (scenes : Scenes) (kind : SceneKind) : List (SceneKind × Nat) :=
  ((scenes.scenario kind).nodes.zipIdx.filter fun entry => entry.1.isChoice).map fun entry =>
    (kind, entry.2)

/-- How many choice nodes both scenes have together. -/
def choiceCount (scenes : Scenes) : Nat :=
  scenes.text.choiceCount + scenes.encounter.choiceCount

theorem length_choicePlaces (scenes : Scenes) (kind : SceneKind) :
    (scenes.choicePlaces kind).length = (scenes.scenario kind).choiceCount := by
  rw [choicePlaces, List.length_map, ← List.countP_eq_length_filter, Scenario.choiceCount]
  conv_rhs => rw [← List.zipIdx_map_fst 0 (scenes.scenario kind).nodes, List.countP_map]
  rfl

theorem mem_choicePlaces {place : SceneKind × Nat} (offers : scenes.Offers place) :
    place ∈ scenes.choicePlaces place.1 := by
  obtain ⟨node, here⟩ := offers
  refine List.mem_map.mpr ⟨(.choice node, place.2), List.mem_filter.mpr ⟨?_, rfl⟩, rfl⟩
  exact List.mem_zipIdx_iff_getElem?.mpr here

end Scenes

/-- No more choices are made than there are choice nodes. -/
theorem Chronicle.length_taken_le {session : Session}
    (chronicle : Chronicle scenes history situation session) :
    history.taken.length ≤ scenes.choiceCount := by
  have covered : history.taken ⊆ scenes.choicePlaces .text ++ scenes.choicePlaces .encounter := by
    intro place member
    have there := Scenes.mem_choicePlaces (chronicle.choices place member)
    obtain ⟨kind, index⟩ := place
    cases kind with
    | text => exact List.mem_append_left _ there
    | encounter => exact List.mem_append_right _ there
  have fewer := (List.subperm_of_subset chronicle.once covered).length_le
  rw [List.length_append, Scenes.length_choicePlaces, Scenes.length_choicePlaces] at fewer
  exact fewer

/-! ## The next step -/

/-- An operation is carried out and is accepted. -/
def Accepts (world : Setting) (operation : Operation) : Prop :=
  ∃ after, Carries world operation true after

/-- The next step of a play-through that has settled. -/
def HasNextStep (world : Setting) : Prop :=
  match world.store.session.phase with
  | .textScene =>
      (world.store.session.text.progress = .awaitingChoice
        ∧ ∃ offer ∈ world.store.session.text.choices, Accepts world (.select offer.tag))
      ∨ Accepts world .triggerTransition
  | .transition => Accepts world .beginEncounter
  | .encounter => ∃ offer ∈ world.store.session.encounter.choices, Accepts world (.select offer.tag)
  | .epilogue => world.store.session.epilogue.restartReady = true

/-- A scene that has stopped offers a choice, or can be left. -/
theorem Situation.Looks.stop_of_scene {kind : SceneKind} {id : TaskId} {halt : Halt}
    {session : Session} (looks : Situation.Looks scenes (.scene kind id halt none) session)
    (fit : (scenes.scenario kind).HintsFit) :
    (∃ offer, (session.interpreter kind).choices.head? = some offer
        ∧ (session.interpreter kind).progress = .awaitingChoice)
      ∨ kind = .text ∧ session.text.transitionReady = true := by
  obtain ⟨around, -, fits, preferences, ⟨base, inPlay, -, place, stopped⟩, notEnded⟩ := looks
  have leavable : (session.interpreter kind).transitionReady =
      halt.leavable (scenes.scenario kind).kind := by
    rw [stopped, inPlay.transitionReady_halted]
  have left : kind = .text → halt.leavable .text = true → kind = .text
      ∧ session.text.transitionReady = true := by
    rintro rfl proper
    refine ⟨rfl, leavable.trans ?_⟩
    rwa [show (scenes.scenario .text).kind = .text from scenes.text_kind]
  cases halt with
  | offering index node =>
      refine .inl ?_
      obtain ⟨-, -, nonempty⟩ := fits.offers index node rfl
      rw [stopped, inPlay.choices_halted, inPlay.progress_halted]
      cases options : node.options with
      | nil => simp [options] at nonempty
      | cons choice rest =>
          exact ⟨choice.offer preferences.language, by simp [Halt.offers, options], rfl⟩
  | stuck index => exact absurd rfl (fits.flows fit.holds index)
  | ready index =>
      refine .inr (left ?_ rfl)
      cases kind with
      | text => rfl
      | encounter => exact absurd rfl (fits.neverReady scenes.encounter_kind index)
  | ended index =>
      refine .inr (left ?_ rfl)
      cases kind with
      | text => rfl
      | encounter => exact absurd rfl (notEnded rfl index)

/-- An operation that would be accepted goes on from a settled play-through. -/
theorem isAccepted_select {kind : SceneKind} {session : Session} {offer : Offer}
    (phase : session.phase = phaseOf kind) (offered : offer ∈ (session.interpreter kind).choices) :
    (Operation.select offer.tag).isAccepted session = true := by
  simp only [Operation.isAccepted, currentKind_eq_some.mpr phase]
  exact List.any_eq_true.mpr ⟨offer, offered, beq_self_eq_true _⟩

section Operations

variable {textScene : Option TextScene} {encounterScene : Option EncounterScene}
variable {preferences : Preferences}

theorem accepts_of_occurs (occurs : Occurs textScene encounterScene preferences history world)
    (noTurn : world.running = none) (free : history.flight = none) (notBegin : operation ≠ .begin)
    (notRestart : operation.isRestart = false)
    (accepted : operation.isAccepted world.store.session = true) : Accepts world operation := by
  obtain ⟨-, after, -, carries, -⟩ := carries_of_occurs occurs noTurn free operation notBegin notRestart
  rw [accepted] at carries
  exact ⟨after, carries⟩

/-- A play-through that has settled has a next step. -/
theorem hasNextStep_of_quiet
    (fit : ∀ kind, ((Scenes.given textScene encounterScene).scenario kind).HintsFit)
    (occurs : Occurs textScene encounterScene preferences history world)
    (noTurn : world.running = none) (free : history.flight = none) (begun : history.fresh = false)
    (quiet : ∀ role, world.isActive role = false) : HasNextStep world := by
  obtain ⟨situation, progressing, -⟩ := (Sound.of_occurs occurs).moment noTurn
  cases progressing with
  | engaged inFlight _ _ _ _ _ =>
      rw [free] at inFlight
      cases inFlight
  | closed inFlight _ _ _ _ =>
      rw [free] at inFlight
      cases inFlight
  | free _ calm same standing =>
      have nobody : ∀ role id, situation.performer ≠ some (role, id) := by
        intro role id performs
        have active := (standing.active_iff role).mpr ⟨id, performs⟩
        have inactive := quiet role
        rw [World.isActive_eq] at inactive
        rw [show ((world.holdings role).slot.bind world.outline.tasks).isSome = true from active]
          at inactive
        cases inactive
      have looks := standing.looks
      have selects : ∀ {kind offer}, world.store.session.phase = phaseOf kind →
          (world.store.session.interpreter kind).choices.head? = some offer →
          offer ∈ (world.store.session.interpreter kind).choices
            ∧ Accepts world (.select offer.tag) := by
        intro kind offer phase first
        have offered := List.mem_of_head? first
        exact ⟨offered, accepts_of_occurs occurs noTurn free (by simp) rfl
          (isAccepted_select phase offered)⟩
      cases situation with
      | fresh =>
          rw [begun] at same
          cases same
      | scene kind id halt ahead =>
          cases ahead with
          | some ahead => exact absurd rfl (nobody (roleOf kind) id)
          | none =>
              have phase : world.store.session.phase = phaseOf kind := looks.1.phase
              rcases looks.stop_of_scene (fit kind) with ⟨offer, first, awaits⟩ | ⟨rfl, ready⟩
              · obtain ⟨offered, accepts⟩ := selects phase first
                simp only [HasNextStep, phase]
                cases kind with
                | text => exact .inl ⟨awaits, offer, offered, accepts⟩
                | encounter => exact ⟨offer, offered, accepts⟩
              · simp only [HasNextStep, phase]
                refine .inr (accepts_of_occurs occurs noTurn free (by simp) rfl ?_)
                have left : world.store.session.text.transitionReady = true := ready
                simp [Operation.isAccepted, phase, phaseOf, left]
      | transition =>
          have phase : world.store.session.phase = .transition := looks.1
          simp only [HasNextStep, phase]
          refine accepts_of_occurs occurs noTurn free (by simp) rfl ?_
          simp [Operation.isAccepted, phase]
      | epilogue finished id ahead =>
          cases ahead with
          | some ahead => exact absurd rfl (nobody .epilogue id)
          | none =>
              have phase : world.store.session.phase = .epilogue := looks.1
              simp only [HasNextStep, phase]
              have isOver : world.store.session.epilogue = earnedEpilogue world.store.session :=
                looks.2.2.2 rfl
              rw [isOver]
              rfl
      | leaving => exact calm.elim
      | claimed _ _ => exact calm.elim
      | clearing _ _ => exact calm.elim
      | fading _ _ => exact calm.elim

end Operations

/-! ## However the player goes on -/

namespace Operation

/-- Whether an operation is a move of the player that takes a play-through on. -/
def isMove : Operation → Bool
  | .triggerTransition => true
  | .beginEncounter => true
  | .select _ => true
  | _ => false

/-- How many choices an operation makes when it is accepted. -/
def choices : Operation → Nat
  | .select _ => 1
  | _ => 0

/-- A move answers whether it was accepted. -/
theorem answer_injective {accepts otherwise : Bool} (move : operation.isMove = true)
    (same : operation.answer accepts = operation.answer otherwise) : accepts = otherwise := by
  cases operation with
  | triggerTransition | beginEncounter | select _ =>
      simpa only [answer, Option.some.injEq, Reply.verdict.injEq] using same
  | begin | restart _ | settle => cases move

end Operation

/-- Whatever accepted moves the player makes, each after the play-through has settled, the epilogue is
played to its end, and no more choices are made until then than the count says. -/
inductive Finishes : Nat → Setting → Prop where
  | ended {count : Nat} {world settled : Setting} (settles : Carries world .settle true settled)
      (phase : settled.store.session.phase = .epilogue)
      (ready : settled.store.session.epilogue.restartReady = true) : Finishes count world
  | onward {count : Nat} {world settled : Setting} (settles : Carries world .settle true settled)
      (possible : ∃ operation : Operation, operation.isMove = true ∧ Accepts settled operation)
      (within : ∀ operation : Operation, operation.isMove = true → Accepts settled operation →
        operation.choices ≤ count)
      (rest : ∀ (operation : Operation) (after : Setting), operation.isMove = true →
        Carries settled operation true after → Finishes (count - operation.choices) after) :
      Finishes count world

/-- Whoever has a next step and is not at the end of the epilogue can make a move. -/
theorem HasNextStep.possible (next : HasNextStep world) :
    (world.store.session.phase = .epilogue ∧ world.store.session.epilogue.restartReady = true)
      ∨ ∃ operation : Operation, operation.isMove = true ∧ Accepts world operation := by
  cases phase : world.store.session.phase with
  | textScene =>
      simp only [HasNextStep, phase] at next
      rcases next with ⟨-, offer, -, accepts⟩ | accepts
      · exact .inr ⟨_, rfl, accepts⟩
      · exact .inr ⟨_, rfl, accepts⟩
  | transition =>
      simp only [HasNextStep, phase] at next
      exact .inr ⟨_, rfl, next⟩
  | encounter =>
      simp only [HasNextStep, phase] at next
      obtain ⟨offer, -, accepts⟩ := next
      exact .inr ⟨_, rfl, accepts⟩
  | epilogue =>
      simp only [HasNextStep, phase] at next
      exact .inl ⟨rfl, next⟩

/-- An operation is carried out in one way only. -/
theorem Carries.unique {accepts otherwise : Bool} (carries : Carries world operation accepts after)
    (also : Carries world operation otherwise settled) :
    after = settled ∧ operation.answer accepts = operation.answer otherwise := by
  obtain ⟨first, rfl, firstAnswer⟩ := carries
  obtain ⟨second, rfl, secondAnswer⟩ := also
  have same : World.runUntilEnded machine _ first _ = World.runUntilEnded machine _ second _ :=
    World.Pursues.runUntilEnded_unique (by rw [firstAnswer]; rfl) (by rw [secondAnswer]; rfl)
  refine ⟨same, ?_⟩
  rw [same, secondAnswer] at firstAnswer
  simpa using firstAnswer.symm

/-- Phases that were added to, with another one last, have become more. -/
theorem length_lt_of_prefix {first second : List Phase} (grows : first <+: second)
    (changed : second.getLast? ≠ first.getLast?) : first.length < second.length := by
  refine Nat.lt_of_le_of_ne grows.length_le fun same => changed ?_
  rw [grows.eq_of_length same]

theorem length_route_le (pacing : Pacing) : (route pacing).length ≤ 4 := by
  cases pacing <;> decide

section Operations

variable {textScene : Option TextScene} {encounterScene : Option EncounterScene}
variable {preferences : Preferences}

/-- What is written down about a play-through at rest. -/
theorem Occurs.chronicle (occurs : Occurs textScene encounterScene preferences history world)
    (noTurn : world.running = none) (free : history.flight = none) :
    ∃ situation, Chronicle (.given textScene encounterScene) history situation world.store.session := by
  obtain ⟨situation, -, chronicle⟩ := (Sound.of_occurs occurs).moment noTurn
  refine ⟨situation, chronicle ?_⟩
  rw [History.restarting, free]

/-- An accepted move uses up a choice node or enters a phase. -/
theorem Fulfils.uses (occurs : Occurs textScene encounterScene preferences history world)
    (noTurn : world.running = none) (free : history.flight = none)
    (reaches : Occurs textScene encounterScene preferences later after)
    (fulfils : Fulfils history world operation later after) (move : operation.isMove = true)
    (accepted : operation.isAccepted world.store.session = true) :
    later.taken.length = history.taken.length + operation.choices
      ∧ history.taken.length + history.phases.length < later.taken.length + later.phases.length := by
  have grows := fulfils.phases.length_le
  have enters : ∀ phase, operation.leaves? = some phase → world.store.session.phase = phase →
      history.phases.length < later.phases.length := by
    intro phase leaves here
    obtain ⟨_, before⟩ := occurs.chronicle noTurn free
    obtain ⟨_, now⟩ := reaches.chronicle fulfils.noTurn fulfils.free
    refine length_lt_of_prefix fulfils.phases ?_
    rw [before.current, now.current, here]
    simpa using fulfils.moved phase leaves accepted
  cases operation with
  | select tag =>
      have more := fulfils.chosen tag rfl accepted
      exact ⟨more, by omega⟩
  | triggerTransition =>
      have same := fulfils.kept (by simp)
      have here : world.store.session.phase = .textScene := by
        simp only [Operation.isAccepted, Bool.and_eq_true, beq_iff_eq] at accepted
        exact accepted.1
      have more := enters .textScene rfl here
      refine ⟨by rw [same]; rfl, ?_⟩
      rw [same]
      omega
  | beginEncounter =>
      have same := fulfils.kept (by simp)
      have here : world.store.session.phase = .transition := by
        simpa [Operation.isAccepted] using accepted
      have more := enters .transition rfl here
      refine ⟨by rw [same]; rfl, ?_⟩
      rw [same]
      omega
  | begin => cases move
  | restart _ => cases move
  | settle => cases move

/-- However the player goes on, the play-through comes to the end of its epilogue. -/
theorem finishes_of_occurs
    (fit : ∀ kind, ((Scenes.given textScene encounterScene).scenario kind).HintsFit)
    (occurs : Occurs textScene encounterScene preferences history world)
    (noTurn : world.running = none) (free : history.flight = none) (begun : history.fresh = false) :
    Finishes ((Scenes.given textScene encounterScene).choiceCount - history.taken.length) world := by
  -- What remains: choice nodes that were not chosen at, and phases that were not entered.
  induction remains : (Scenes.given textScene encounterScene).choiceCount + 4
      - (history.taken.length + history.phases.length) using Nat.strong_induction_on
      generalizing history world with
  | h _ inductionHypothesis =>
  subst remains
  obtain ⟨rested, settled, restedOccurs, settles, fulfils⟩ :=
    carries_of_occurs occurs noTurn free .settle (by simp) rfl
  have sameTaken : rested.taken = history.taken := fulfils.kept (by simp)
  have stillBegun : rested.fresh = false := fulfils.fresh.trans begun
  have next : HasNextStep settled := hasNextStep_of_quiet fit restedOccurs fulfils.noTurn
    fulfils.free stillBegun (fulfils.quiet rfl)
  -- What becomes of every accepted move.
  have moves : ∀ (operation : Operation) (after : Setting), operation.isMove = true →
      Carries settled operation true after →
      ∃ later, Occurs textScene encounterScene preferences later after
        ∧ Fulfils rested settled operation later after
        ∧ later.taken.length = history.taken.length + operation.choices
        ∧ rested.taken.length + rested.phases.length < later.taken.length + later.phases.length := by
    intro operation after move carries
    obtain ⟨later, reached, reaches, carried, moved⟩ := carries_of_occurs restedOccurs fulfils.noTurn
      fulfils.free operation (by rintro rfl; cases move)
      (by cases operation <;> first | rfl | cases move)
    obtain ⟨rfl, sameAnswer⟩ := carries.unique carried
    have accepted : operation.isAccepted settled.store.session = true :=
      (Operation.answer_injective move sameAnswer).symm
    obtain ⟨taken, uses⟩ := moved.uses restedOccurs fulfils.noTurn fulfils.free reaches move accepted
    exact ⟨later, reaches, moved, by rw [taken, sameTaken], uses⟩
  have bounded : ∀ {later : History} {after : Setting},
      Occurs textScene encounterScene preferences later after → after.running = none →
      later.flight = none →
      later.taken.length ≤ (Scenes.given textScene encounterScene).choiceCount
        ∧ later.phases.length ≤ 4 := by
    intro later after reaches stopped idle
    obtain ⟨_, chronicle⟩ := reaches.chronicle stopped idle
    exact ⟨chronicle.length_taken_le,
      Nat.le_trans chronicle.phases.length_le (length_route_le _)⟩
  rcases next.possible with ⟨phase, ready⟩ | possible
  · exact .ended settles phase ready
  · refine .onward settles possible ?_ ?_
    · rintro operation move ⟨after, carries⟩
      obtain ⟨later, reaches, moved, taken, -⟩ := moves operation after move carries
      have few := (bounded reaches moved.noTurn moved.free).1
      omega
    · intro operation after move carries
      obtain ⟨later, reaches, moved, taken, uses⟩ := moves operation after move carries
      obtain ⟨few, short⟩ := bounded reaches moved.noTurn moved.free
      have grown := fulfils.phases.length_le
      have finishes := inductionHypothesis _ (by rw [sameTaken] at uses; omega) reaches moved.noTurn
        moved.free (moved.fresh.trans stillBegun) rfl
      rw [taken, ← Nat.sub_sub] at finishes
      exact finishes

/-- A play-through of scenes with hints that the clock can hold never comes to a dead end: it settles,
it has a next step then, no choice node comes on offer twice, and however the player goes on it comes
to the end of its epilogue. -/
theorem never_stranded
    (fit : ∀ kind, ((Scenes.given textScene encounterScene).scenario kind).HintsFit)
    (occurs : Occurs textScene encounterScene preferences history world)
    (noTurn : world.running = none) (free : history.flight = none) (begun : history.fresh = false) :
    (∃ settled, Carries world .settle true settled ∧ (∀ role, settled.isActive role = false)
        ∧ HasNextStep settled)
      ∧ history.offered.Nodup ∧ history.taken.length ≤ (Scenes.given textScene encounterScene).choiceCount
      ∧ Finishes ((Scenes.given textScene encounterScene).choiceCount - history.taken.length)
          world := by
  obtain ⟨rested, settled, restedOccurs, settles, fulfils⟩ :=
    carries_of_occurs occurs noTurn free .settle (by simp) rfl
  obtain ⟨situation, chronicle⟩ := occurs.chronicle noTurn free
  refine ⟨⟨settled, settles, fulfils.quiet rfl, ?_⟩, chronicle.anew, chronicle.length_taken_le,
    finishes_of_occurs fit occurs noTurn free begun⟩
  exact hasNextStep_of_quiet fit restedOccurs fulfils.noTurn fulfils.free
    (fulfils.fresh.trans begun) (fulfils.quiet rfl)

end Operations

/-- A text scene that asks once. -/
def asking : TextScene :=
  { TextScene.fallback with
    nodes := [.choice ⟨"ask", some [⟨"yes", .blank, 3, none, none, none⟩]⟩] }

/-- A text scene that asks, and an encounter without nodes: one choice leads to the end. -/
theorem never_stranded_at_choice :
    ∃ (history : History) (world : Setting),
      (∀ kind, ((Scenes.given (some asking) none).scenario kind).HintsFit)
        ∧ Occurs (some asking) none .standard history world
        ∧ world.running = none ∧ history.flight = none ∧ history.fresh = false
        ∧ world.store.session.text.progress = .awaitingChoice
        ∧ (∃ settled, Carries world .settle true settled ∧ HasNextStep settled)
        ∧ history.offered = [(.text, 0)] ∧ Finishes 1 world := by
  have fit : ∀ kind, ((Scenes.given (some asking) none).scenario kind).HintsFit := by
    intro kind hint member
    cases kind with
    | text =>
        obtain rfl : hint = none := List.mem_singleton.mp member
        intro milliseconds held
        cases held
    | encounter => cases member
  have start : Occurs (some asking) none .standard .initial _ := .construct
  have begun := (start.begin .begin rfl rfl fun _ => rfl).stepped 20
  have rests : Occurs (some asking) none .standard
      (History.completed _ ⟨0, .begin, some (.text, 0), true⟩ (.finished none)) _ :=
    begun.complete rfl rfl rfl
  obtain ⟨⟨settled, settles, -, next⟩, -, -, finishes⟩ := never_stranded fit rests rfl rfl rfl
  exact ⟨_, _, fit, rests, rfl, rfl, rfl, rfl, ⟨settled, settles, next⟩, rfl, finishes⟩

end Session.Alone

end Playthrough
