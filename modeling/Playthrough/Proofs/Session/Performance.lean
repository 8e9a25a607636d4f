import Playthrough.Proofs.Interpreter.Presentation
import Playthrough.Proofs.Session.Overtaking

/-!
Contract: what a scene of a play-through comes to, to the letter.

Owns: the play-through in which a scene has stopped (`settledAt`), the waits of an epilogue, and that the
programs of scenes and of the epilogue lead there with exactly the waits of their marks.

Does not own: who waits for a scene, and what is done to a play-through from outside.

The terms of `Players` leave open how a scene is played. Here the play-through at the end is foreseen
as a whole: nothing but the interpreter of the scene changes, until an encounter at its end gives way to
the epilogue.
-/

namespace Playthrough.Session.Alone

variable {kind : SceneKind} {scenario : Scenario} {preferences : Preferences} {halt : Halt}
variable {store : Alone} {session final : Session} {beyond : List Pause}

/-! ## Where a scene comes to -/

/-- The play-through that comes of one in which a scene has stopped. An encounter at its end gives way
to the epilogue, which is played to its end. -/
def settledAt (kind : SceneKind) (halt : Halt) (stopped : Session) : Session :=
  match kind, halt with
  | .encounter, .ended _ => { stopped with phase := .epilogue, epilogue := earnedEpilogue stopped }
  | _, _ => stopped

/-- The waits of an epilogue: after its label, before each of its texts and after the last one. -/
def epiloguePauses (preferences : Preferences) (ending : Ending) : List Pause :=
  (preferences.pacing.epilogue, [])
    :: (ending.texts.map fun text =>
        (preferences.pacing.forText (text.resolve preferences.language).length, []))
      ++ [(Epilogue.closingBeat, [])]

/-- The waits that come after those of a scene that has stopped. -/
def pausesBeyond (kind : SceneKind) (halt : Halt) (stopped : Session) : List Pause :=
  match kind, halt with
  | .encounter, .ended _ => epiloguePauses stopped.preferences stopped.earnedEnding
  | _, _ => []

theorem settledAt_of_rest (rests : kind = .encounter → ∀ index, halt ≠ .ended index) :
    settledAt kind halt session = session ∧ pausesBeyond kind halt session = [] := by
  cases kind with
  | text => exact ⟨rfl, rfl⟩
  | encounter =>
      cases halt with
      | ended index => exact absurd rfl (rests rfl index)
      | offering _ _ | ready _ | stuck _ => exact ⟨rfl, rfl⟩

/-! ## Terms -/

/-- The terms of a program that is left alone with the play-through and ends it as foreseen. -/
def exactly (post : Session → Finale Alone Role SceneKind Reply → Prop) :
    Terms Alone Role SceneKind Reply where
  leaves _ _ := True
  leaves_refl _ := trivial
  leaves_trans _ _ := trivial
  gate _ _ := True
  drift before after := after.session = before.session
  drift_refl := sameSession_refl
  post store finale := post store.session finale

/-- The play-through is as foreseen, and nobody takes over. -/
def Closes (final session : Session) (finale : Finale Alone Role SceneKind Reply) : Prop :=
  session = final ∧ ∀ driver body, finale ≠ .handedOver driver body

/-- The play-through is as foreseen, or the epilogue takes over and leads there with more waits. -/
def Foresees (final : Session) (beyond : List Pause) (session : Session) :
    Finale Alone Role SceneKind Reply → Prop
  | .handedOver driver body => driver = .epilogue ∧ ∀ store : Alone, store.session = session →
      Runs machine (World.timer Alone) (exactly (Closes final)) body [] store beyond
  | _ => session = final ∧ beyond = []

theorem Closes.foresees {finale : Finale Alone Role SceneKind Reply}
    (closes : Closes final session finale) : Foresees final [] session finale := by
  cases finale with
  | handedOver driver body => exact absurd rfl (closes.2 driver body)
  | done => exact ⟨closes.1, rfl⟩
  | failed fault => exact ⟨closes.1, rfl⟩

/-! ## The epilogue -/

section Epilogue

variable {missing : List SceneEvent} {epilogue : Epilogue} {next : Plan} {entries : List Pause}

/-- A wait of the epilogue, while no scene is held up. -/
theorem runs_timedPause {duration : Duration} (nothingShown : final.shown = [])
    (same : store.session = { final with epilogue := epilogue })
    (goesOn : ∀ later : Alone, later.session = { final with epilogue := epilogue } →
      Runs machine (World.timer Alone) (exactly (Closes final)) next [] later entries) :
    Runs machine (World.timer Alone) (exactly (Closes final)) (.pause duration next) [] store
      ((duration, []) :: entries) := by
  have shown : machine.shown store = [] := by
    show store.session.shown = []
    rw [same]
    exact nothingShown
  have runs : Runs machine (World.timer Alone) (exactly (Closes final)) (.pause duration next) [] store
      ((World.timer Alone).wait duration (machine.shown store) ++ entries) := by
    refine .pause trivial ?_
    intro later drifted
    exact goesOn later ((show later.session = store.session from drifted).trans same)
  rwa [shown] at runs

/-- The texts of an epilogue are shown one after the other, each after its wait. -/
theorem runs_timedTexts (nothingShown : final.shown = []) (preferences : Preferences) (tier : Tier)
    {last : List Pause}
    (goesOn : ∀ (store : Alone) (epilogue : Epilogue), Lacks final.epilogue [] epilogue →
      store.session = { final with epilogue := epilogue } →
      Runs machine (World.timer Alone) (exactly (Closes final)) next [] store last)
    (texts : List Localized) (store : Alone) (epilogue : Epilogue)
    (lacks : Lacks final.epilogue (texts.map (endingEvent preferences.language tier)) epilogue)
    (same : store.session = { final with epilogue := epilogue }) :
    Runs machine (World.timer Alone) (exactly (Closes final))
      (seat.epilogue.playTexts preferences (some tier) next texts) [] store
      ((texts.map fun text =>
        (preferences.pacing.forText (text.resolve preferences.language).length, [])) ++ last) := by
  induction texts generalizing store epilogue with
  | nil => exact goesOn store epilogue lacks same
  | cons text rest inductionHypothesis =>
      refine runs_timedPause nothingShown same ?_
      intro later still
      refine .check (.update trivial (inductionHypothesis _ _ lacks.record ?_))
      show later.session.modifyEpilogue (fun epilogue =>
        epilogue.record (endingEvent preferences.language tier text)) = _
      rw [still]
      rfl

/-- The script of an epilogue leads to its end. -/
theorem runs_timedScript (nothingShown : final.shown = []) (session : Session)
    (earned : final.epilogue = earnedEpilogue session) (store : Alone) (epilogue : Epilogue)
    (lacks : Lacks (earnedEpilogue session) (earnedTexts session) epilogue)
    (same : store.session = { final with epilogue := epilogue }) :
    Runs machine (World.timer Alone) (exactly (Closes final))
      (seat.epilogue.script session.preferences session.earnedEnding (some session.tier)) [] store
      (epiloguePauses session.preferences session.earnedEnding) := by
  rw [← earned] at lacks
  have closes : ∀ (store : Alone) (epilogue : Epilogue), Lacks final.epilogue [] epilogue →
      store.session = { final with epilogue := epilogue } →
      Runs machine (World.timer Alone) (exactly (Closes final))
        (.pause Epilogue.closingBeat (.update (seat.epilogue.modify Epilogue.complete) .stop)) [] store
        [(Epilogue.closingBeat, [])] := by
    intro store epilogue lacks same
    refine runs_timedPause nothingShown same ?_
    intro later still
    refine .update trivial (.done none ⟨?_, by simp⟩)
    show later.session.modifyEpilogue Epilogue.complete = final
    have complete : epilogue.complete = final.epilogue :=
      lacks.complete (by rw [earned]; rfl)
    rw [still, modifyEpilogue, complete]
  refine runs_timedPause nothingShown same ?_
  intro later still
  exact runs_timedTexts nothingShown session.preferences session.tier closes session.earnedEnding.texts
    later epilogue lacks still

end Epilogue

/-! ## Scenes -/

/-- A play-through in which one interpreter is another one. -/
def withInterpreter (kind : SceneKind) (interpreter : Interpreter) (session : Session) : Session :=
  session.modifyInterpreter kind fun _ => interpreter

@[simp] theorem interpreter_withInterpreter (kind : SceneKind) (interpreter : Interpreter)
    (session : Session) : (withInterpreter kind interpreter session).interpreter kind = interpreter :=
  interpreter_modifyInterpreter _ _ _

/-- Where a scene of a play-through is played that is otherwise left as it is. The other scene is not
held up. -/
def timedStage (kind : SceneKind) (scenario : Scenario) (preferences : Preferences) (base : Session)
    (clear : (base.interpreter (rival kind)).suspended = false)
    (post : Session → Finale Alone Role SceneKind Reply → Prop) :
    Stage Alone Role SceneKind Reply Pause where
  seat := sceneSeat kind
  machine := machine
  observer := World.timer Alone
  terms := exactly post
  around store := ∃ interpreter, store.session = withInterpreter kind interpreter base
  mark mark := mark.wait?.toList
  scenario := scenario
  preferences := preferences
  body := body_walk kind
  onFinish_andThen := onFinish_andThen kind
  get_modify := get_modify kind
  get_record := get_record kind
  get_warn := get_warn kind
  around_modify change store := by
    rintro ⟨interpreter, same⟩
    refine ⟨change interpreter, ?_⟩
    show store.session.modifyInterpreter kind change = _
    rw [same]
    cases kind <;> rfl
  around_record event store := by
    rintro ⟨interpreter, same⟩
    refine ⟨interpreter.record event, ?_⟩
    show store.session.modifyInterpreter kind (fun interpreter => interpreter.record event) = _
    rw [same]
    cases kind <;> rfl
  around_warn _ _ around := around
  leaves_modify _ _ := trivial
  leaves_record _ _ := trivial
  leaves_warn _ _ := trivial
  change_modify _ _ := rfl
  change_record _ _ := rfl
  change_warn _ _ := rfl
  wait := by
    rintro duration store ⟨interpreter, same⟩ scenario_eq
    have own : store.session.interpreter kind = interpreter := by rw [same]; simp
    have alike : machine.shown store = interpreter.shown := by
      show store.session.shown = _
      have hidden : (base.interpreter (rival kind)).shown = [] := by rw [Interpreter.shown, clear]; rfl
      rw [same]
      cases kind with
      | text => exact (congrArg (interpreter.shown ++ ·) hidden).trans (List.append_nil _)
      | encounter => exact congrArg (· ++ interpreter.shown) hidden
    have same_scenario : interpreter.scenario = scenario := by rw [← own]; exact scenario_eq
    show [(duration, machine.shown store)] = _
    rw [alike, Interpreter.shown, same_scenario,
      show (sceneSeat kind).get store = interpreter from own]
    rfl
  get_drift drifted := congrArg (fun session => Session.interpreter session kind) drifted
  around_drift := by
    rintro store later drifted ⟨interpreter, same⟩
    exact ⟨interpreter, (show later.session = store.session from drifted).trans same⟩
  gate_open _ _ _ _ := trivial

/-- The play-through in which a scene has stopped after a recital. -/
def stoppedAt (kind : SceneKind) (recital : Recital) (session : Session) : Session :=
  session.modifyInterpreter kind fun interpreter =>
    (interpreter.heard recital.marks recital.halt.index).halted recital.halt

theorem shown_of_clear (clear : session.text.suspended = false)
    (alsoClear : session.encounter.suspended = false) : session.shown = [] := by
  simp [Session.shown, Interpreter.shown, clear, alsoClear]

/-- The last instructions of an encounter at its end give way to the epilogue. -/
theorem plays_givesWay {base : Session} {index : Nat} {interpreter : Interpreter}
    {clear : (base.interpreter (rival .encounter)).suspended = false}
    (alsoClear : interpreter.suspended = false)
    (same : store.session = withInterpreter .encounter interpreter base) :
    (timedStage .encounter scenario preferences base clear
      (Foresees (settledAt .encounter (.ended index) store.session)
        (pausesBeyond .encounter (.ended index) store.session))).Plays
      (sceneSeat .encounter).onFinish store [] := by
  have nothingShown : (settledAt .encounter (.ended index) store.session).shown = [] := by
    refine shown_of_clear ?_ ?_
    · show store.session.text.suspended = false
      rw [same]
      exact clear
    · show store.session.encounter.suspended = false
      rw [same]
      exact alsoClear
  have script : ∀ (later : Alone) (epilogue : Epilogue),
      Lacks (earnedEpilogue store.session) (earnedTexts store.session) epilogue →
      later.session = { settledAt .encounter (.ended index) store.session with epilogue := epilogue } →
      Runs machine (World.timer Alone)
        (exactly (Closes (settledAt .encounter (.ended index) store.session)))
        (seat.epilogue.script store.session.preferences store.session.earnedEnding
          (some store.session.tier)) [] later
        (pausesBeyond .encounter (.ended index) store.session) := by
    intro later epilogue lacks stands
    exact runs_timedScript nothingShown store.session rfl later epilogue lacks stands
  refine .look (.update trivial (.update trivial (.update trivial (.handOver _ _ ⟨rfl, ?_⟩))))
  intro later stands
  let ending := store.session.earnedEnding
  let label : SceneEvent := .plain .system (ending.label.resolve store.session.preferences.language)
  exact script later ((store.session.epilogue.begin (some store.session.tier)).record label)
    ⟨rfl, rfl, rfl⟩ stands

/-- The last instructions at a stop lead to where the scene then comes to. -/
theorem plays_exactly {base : Session} {interpreter : Interpreter}
    {clear : (base.interpreter (rival kind)).suspended = false}
    (inPlay : interpreter.InPlay scenario preferences) (alsoClear : interpreter.suspended = false)
    (same : store.session = withInterpreter kind interpreter base) :
    (timedStage kind scenario preferences base clear
      (Foresees (settledAt kind halt (withInterpreter kind (interpreter.halted halt) base))
        (pausesBeyond kind halt (withInterpreter kind (interpreter.halted halt) base)))).Plays
      ((sceneSeat kind).conclude halt) store [] := by
  have own : (sceneSeat kind).get store = interpreter := by
    show store.session.interpreter kind = interpreter
    rw [same]
    simp
  have notFinished : ((sceneSeat kind).get store).finished = false := by
    rw [own]
    exact inPlay.notFinished
  by_cases isEnd : kind = .encounter ∧ ∃ index, halt = .ended index
  · obtain ⟨rfl, index, rfl⟩ := isEnd
    let post := Foresees
      (settledAt .encounter (.ended index)
        (withInterpreter .encounter (interpreter.halted (.ended index)) base))
      (pausesBeyond .encounter (.ended index)
        (withInterpreter .encounter (interpreter.halted (.ended index)) base))
    let stage := timedStage .encounter scenario preferences base clear post
    have ended : (stage.ended store).session =
        withInterpreter .encounter (interpreter.halted (.ended index)) base := by
      show (store.session.modifyInterpreter .encounter Interpreter.terminate).modifyInterpreter
        .encounter Interpreter.reportEnd = _
      rw [same]
      rfl
    have stillClear : (interpreter.halted (.ended index)).suspended = false := alsoClear
    have givesWay : (timedStage .encounter scenario preferences base clear
        (Foresees (settledAt .encounter (.ended index) (stage.ended store).session)
          (pausesBeyond .encounter (.ended index) (stage.ended store).session))).Plays
        (sceneSeat .encounter).onFinish (stage.ended store) [] := plays_givesWay stillClear ended
    rw [ended] at givesWay
    exact Stage.plays_finish notFinished givesWay
  · have rests : kind = .encounter → ∀ index, halt ≠ .ended index := by
      intro encounter index same
      exact isEnd ⟨encounter, index, same⟩
    obtain ⟨settled, nothing⟩ := @settledAt_of_rest kind halt
      (withInterpreter kind (interpreter.halted halt) base) rests
    rw [settled, nothing]
    let post := Foresees (withInterpreter kind (interpreter.halted halt) base) []
    let stage := timedStage kind scenario preferences base clear post
    have stopped : ∀ (final : Alone) (finale : Finale Alone Role SceneKind Reply),
        final.session.interpreter kind = ((sceneSeat kind).get store).halted halt →
        (∃ other, final.session = withInterpreter kind other base) →
        (∀ driver body, finale ≠ .handedOver driver body) → post final.session finale := by
      rintro final finale halts ⟨other, around⟩ alone
      have same : final.session = withInterpreter kind (interpreter.halted halt) base := by
        rw [around] at halts ⊢
        rw [interpreter_withInterpreter, own] at halts
        rw [halts]
      exact Closes.foresees ⟨same, alone⟩
    by_cases proper : ∃ index, halt = .ended index
    · obtain ⟨index, rfl⟩ := proper
      cases kind with
      | encounter => exact absurd rfl (rests rfl index)
      | text =>
          have around : ∃ other, (stage.ended store).session = withInterpreter .text other base :=
            stage.around_ended ⟨interpreter, same⟩
          have ends : post (stage.ended store).session .done :=
            stopped _ .done stage.get_ended around (by simp)
          exact Stage.plays_finish notFinished (.done none ends)
    · exact Stage.plays_conclude ⟨interpreter, same⟩ (fun index same => proper ⟨index, same⟩) stopped

/-- A program that performs a recital takes a play-through to where the scene then comes to, with the
waits of the recital. -/
theorem runs_exactly {program : Plan} {recital : Recital}
    (playing : Playing kind scenario preferences store.session)
    (clear : (store.session.interpreter (rival kind)).suspended = false)
    (recites : ∀ post, (timedStage kind scenario preferences store.session clear post).Recites program
      store recital) :
    Runs machine (World.timer Alone)
      (exactly (Foresees (settledAt kind recital.halt (stoppedAt kind recital store.session))
        (pausesBeyond kind recital.halt (stoppedAt kind recital store.session)))) program [] store
      (Mark.waits recital.marks) := by
  have whole := recites (Foresees (settledAt kind recital.halt (stoppedAt kind recital store.session))
    (pausesBeyond kind recital.halt (stoppedAt kind recital store.session))) [] ?_
  · rw [List.append_nil] at whole
    have waits : Mark.waits recital.marks = recital.marks.flatMap fun mark => mark.wait?.toList := by
      rw [Mark.waits, List.filterMap_eq_flatMap_toList]
    rw [waits]
    exact whole
  · rintro reached place ⟨interpreter, around⟩
    have heard : interpreter =
        (store.session.interpreter kind).heard recital.marks recital.halt.index := by
      have own : reached.session.interpreter kind = interpreter := by rw [around]; simp
      rw [← own]
      exact place
    have stops : stoppedAt kind recital store.session =
        withInterpreter kind (interpreter.halted recital.halt) store.session := by
      rw [heard]
      cases kind <;> rfl
    rw [stops]
    refine plays_exactly ?_ ?_ around
    · rw [heard]
      exact playing.inPlay.heard _ _
    · rw [heard]
      exact playing.clear

end Playthrough.Session.Alone
