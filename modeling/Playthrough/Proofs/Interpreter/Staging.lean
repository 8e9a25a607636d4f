import Playthrough.Proofs.Interpreter.Voice
import Playthrough.Proofs.Task.Solo

/-!
Contract: programs that perform recitals.

Owns: the stage on which a scenario is played (a seat, its machine and whoever watches, with the laws
that they fulfil), the relation between a program and the recital that it performs, and the recitals
of scripts.

Does not own: the walk from node to node, tasks and turns. A program is left to itself here.

A program performs a recital when it takes the interpreter to the stop of the recital, and whatever
the last instructions at that stop do, the program does after the marks of the recital.
-/

namespace Playthrough

variable {Store Driver Procedure Answer Entry : Type}

/-! ## Interpreters in the middle of a scene -/

/-- An interpreter in the middle of its scene. -/
structure Interpreter.InPlay (scenario : Scenario) (preferences : Preferences)
    (interpreter : Interpreter) : Prop where
  scenario_eq : interpreter.scenario = scenario
  preferences_eq : interpreter.preferences = preferences
  running : interpreter.progress = .running
  nothingOffered : interpreter.choices = []
  notReady : interpreter.transitionReady = false
  notFinished : interpreter.finished = false

/-- An interpreter after marks, at a place. -/
def Interpreter.heard (interpreter : Interpreter) (marks : List Mark) (index : Nat) : Interpreter :=
  { interpreter with events := interpreter.events ++ Mark.events marks, nodeIndex := index }

/-- An interpreter at a stop of its scene. -/
def Interpreter.halted (interpreter : Interpreter) : Halt → Interpreter
  | .offering _ node => interpreter.offer node
  | .ready _ => interpreter.becomeReady
  | .ended _ => interpreter.terminate.reportEnd
  | .stuck _ => interpreter

namespace Interpreter

variable {scenario : Scenario} {preferences : Preferences} {interpreter : Interpreter}

theorem InPlay.heard (inPlay : InPlay scenario preferences interpreter) (marks : List Mark)
    (index : Nat) : InPlay scenario preferences (interpreter.heard marks index) :=
  ⟨inPlay.scenario_eq, inPlay.preferences_eq, inPlay.running, inPlay.nothingOffered,
    inPlay.notReady, inPlay.notFinished⟩

theorem InPlay.setSuspended (inPlay : InPlay scenario preferences interpreter) (held : Bool) :
    InPlay scenario preferences (interpreter.setSuspended held) :=
  ⟨inPlay.scenario_eq, inPlay.preferences_eq, inPlay.running, inPlay.nothingOffered,
    inPlay.notReady, inPlay.notFinished⟩

@[simp] theorem heard_nil (index : Nat) :
    interpreter.heard [] index = { interpreter with nodeIndex := index } := by
  simp [Interpreter.heard, Mark.events]

theorem heard_record (event : SceneEvent) (marks : List Mark) (index : Nat) :
    (interpreter.record event).heard marks index =
      interpreter.heard (.shown event :: marks) index := by
  simp [Interpreter.heard, Interpreter.record, Mark.events, Mark.event?]

theorem record_eq_heard (event : SceneEvent) :
    interpreter.record event = interpreter.heard [.shown event] interpreter.nodeIndex := rfl

theorem advance_eq_heard : interpreter.advance = interpreter.heard [] (interpreter.nodeIndex + 1) := by
  rw [heard_nil]
  rfl

/-- Starting anew leaves an interpreter at the beginning of its scene. -/
theorem inPlay_begin (interpreter : Interpreter) (preferences : Preferences) :
    InPlay interpreter.scenario preferences (interpreter.reset.begin preferences) :=
  ⟨rfl, rfl, rfl, rfl, rfl, rfl⟩

/-- Making a choice takes an interpreter back to where it offered the choices. -/
theorem claim_offer (inPlay : InPlay scenario preferences interpreter) (node : ChoiceNode) :
    (interpreter.offer node).claim = interpreter := by
  have running := inPlay.running
  have nothingOffered := inPlay.nothingOffered
  cases interpreter
  simp only at running nothingOffered
  subst running nothingOffered
  rfl

@[simp] theorem suspended_setSuspended (held : Bool) :
    (interpreter.setSuspended held).suspended = held := rfl

/-- Showing and taking back that a scene is held up leaves it as it was. -/
theorem setSuspended_setSuspended (clear : interpreter.suspended = false) (held : Bool) :
    (interpreter.setSuspended held).setSuspended false = interpreter := by
  cases interpreter
  simp only at clear
  subst clear
  rfl

/-! ### At a stop -/

@[simp] theorem scenario_halted (halt : Halt) :
    (interpreter.halted halt).scenario = interpreter.scenario := by
  cases halt <;> rfl

@[simp] theorem preferences_halted (halt : Halt) :
    (interpreter.halted halt).preferences = interpreter.preferences := by
  cases halt <;> rfl

@[simp] theorem nodeIndex_halted (halt : Halt) :
    (interpreter.halted halt).nodeIndex = interpreter.nodeIndex := by
  cases halt <;> rfl

@[simp] theorem events_halted (halt : Halt) :
    (interpreter.halted halt).events = interpreter.events := by
  cases halt <;> rfl

@[simp] theorem suspended_halted (halt : Halt) :
    (interpreter.halted halt).suspended = interpreter.suspended := by
  cases halt <;> rfl

theorem InPlay.progress_halted (inPlay : InPlay scenario preferences interpreter) (halt : Halt) :
    (interpreter.halted halt).progress = halt.progress := by
  cases halt with
  | stuck index => exact inPlay.running
  | offering index node => rfl
  | ready index => rfl
  | ended index => rfl

theorem InPlay.choices_halted (inPlay : InPlay scenario preferences interpreter) (halt : Halt) :
    (interpreter.halted halt).choices = halt.offers preferences.language := by
  cases halt with
  | offering index node =>
      rw [← inPlay.preferences_eq]
      rfl
  | ready index => exact inPlay.nothingOffered
  | ended index => exact inPlay.nothingOffered
  | stuck index => exact inPlay.nothingOffered

theorem InPlay.transitionReady_halted (inPlay : InPlay scenario preferences interpreter)
    (halt : Halt) : (interpreter.halted halt).transitionReady = halt.leavable scenario.kind := by
  cases halt with
  | offering index node => exact inPlay.notReady
  | ready index => rfl
  | ended index =>
      show (interpreter.transitionReady || interpreter.scenario.stopsAtMarker) = _
      rw [inPlay.notReady, inPlay.scenario_eq]
      rfl
  | stuck index => exact inPlay.notReady

/-- What is seen of an interpreter at a stop. -/
theorem InPlay.snapshot_halted (inPlay : InPlay scenario preferences interpreter)
    (clear : interpreter.suspended = false) {recital : Recital}
    (place : interpreter.nodeIndex = recital.halt.index)
    (heard : interpreter.events = Mark.events recital.marks) :
    (interpreter.halted recital.halt).snapshot =
      recital.snapshot scenario.kind preferences.language := by
  have shown : (interpreter.halted recital.halt).shown = [] := by
    rw [Interpreter.shown, suspended_halted, clear]
    rfl
  simp only [Interpreter.snapshot, Recital.snapshot, shown, inPlay.progress_halted,
    inPlay.choices_halted, inPlay.transitionReady_halted, nodeIndex_halted, events_halted, place,
    heard]
  rfl

end Interpreter

/-! ## The stage -/

/-- What is around a program of a seat while it waits: nothing, or the end of a wait that is shown. -/
def Seat.Sheltered (seat : Seat Store Driver Procedure Answer)
    (frames : List (Frame Store Driver Procedure Answer)) : Prop :=
  frames = [] ∨ ∃ next, frames = [.ensured seat.unhold next]

/-- Where a scenario is played and watched. -/
structure Stage (Store Driver Procedure Answer Entry : Type) where
  seat : Seat Store Driver Procedure Answer
  machine : Machine Store Driver Procedure Answer
  observer : Observer Store Entry
  terms : Terms Store Driver Procedure Answer
  /-- What holds beside the interpreter while the scene is played. -/
  around : Store → Prop
  /-- What is written down about a mark. -/
  mark : Mark → List Entry
  scenario : Scenario
  preferences : Preferences
  body : machine.body seat.walk = seat.walkBody
  onFinish_andThen : seat.onFinish.andThen .stop = seat.onFinish
  get_modify : ∀ change store, seat.get (seat.modify change store) = change (seat.get store)
  get_record : ∀ event store, seat.get (seat.record event store) = (seat.get store).record event
  get_warn : ∀ warning store, seat.get (seat.warn warning store) = seat.get store
  around_modify : ∀ change {store}, around store → around (seat.modify change store)
  around_record : ∀ event {store}, around store → around (seat.record event store)
  around_warn : ∀ warning {store}, around store → around (seat.warn warning store)
  leaves_modify : ∀ change store, terms.leaves store (seat.modify change store)
  leaves_record : ∀ event store, terms.leaves store (seat.record event store)
  leaves_warn : ∀ warning store, terms.leaves store (seat.warn warning store)
  change_modify : ∀ change store, observer.change store (seat.modify change store) = []
  change_record : ∀ event store,
    observer.change store (seat.record event store) = mark (.shown event)
  change_warn : ∀ warning store, observer.change store (seat.warn warning store) = []
  wait : ∀ duration store, around store → (seat.get store).scenario = scenario →
    observer.wait duration (machine.shown store) =
      mark (.waited duration
        (if (seat.get store).suspended then [scenario.kind.indicator] else []))
  get_drift : ∀ {store later}, terms.drift store later → seat.get later = seat.get store
  around_drift : ∀ {store later}, terms.drift store later → around store → around later
  gate_open : ∀ {frames store}, around store →
    Interpreter.InPlay scenario preferences (seat.get store) → seat.Sheltered frames →
      (frames = [] → (seat.get store).suspended = false) → terms.gate frames store

/-- The last instructions at a stop. -/
def Seat.conclude (seat : Seat Store Driver Procedure Answer) :
    Halt → Program Store Driver Procedure Answer
  | .offering _ node => .update (seat.modify fun interpreter => interpreter.offer node) .stop
  | .ready _ => .update (seat.modify Interpreter.becomeReady) .stop
  | .ended _ => seat.finish
  | .stuck _ => .fail .overflow

namespace Stage

/-- What a program does that nobody stops on the stage, with nothing around it. -/
def Plays (stage : Stage Store Driver Procedure Answer Entry)
    (program : Program Store Driver Procedure Answer) (store : Store) (entries : List Entry) : Prop :=
  Runs stage.machine stage.observer stage.terms program [] store entries

/-- A program performs a recital from a store on: it takes the interpreter to the stop of the recital,
and what the last instructions do there, it does after the marks. -/
def Recites (stage : Stage Store Driver Procedure Answer Entry)
    (program : Program Store Driver Procedure Answer) (store : Store) (recital : Recital) : Prop :=
  ∀ entries,
    (∀ reached, stage.seat.get reached =
        (stage.seat.get store).heard recital.marks recital.halt.index →
      stage.around reached → stage.Plays (stage.seat.conclude recital.halt) reached entries) →
    stage.Plays program store (recital.marks.flatMap stage.mark ++ entries)

/-- A store in which the scene is being played and is not held up. -/
structure Open (stage : Stage Store Driver Procedure Answer Entry) (store : Store) : Prop where
  inPlay : Interpreter.InPlay stage.scenario stage.preferences (stage.seat.get store)
  clear : (stage.seat.get store).suspended = false
  around : stage.around store

variable {stage : Stage Store Driver Procedure Answer Entry}
variable {next : Program Store Driver Procedure Answer} {store changed : Store}
variable {recital : Recital}

/-- A change that is only heard leaves the stage open. -/
theorem Open.of_heard (isOpen : stage.Open store) {marks : List Mark} {index : Nat}
    (same : stage.seat.get changed = (stage.seat.get store).heard marks index)
    (around : stage.around changed) : stage.Open changed := by
  refine ⟨?_, ?_, around⟩
  · rw [same]
    exact isOpen.inPlay.heard marks index
  · rw [same]
    exact isOpen.clear

theorem Open.of_same (isOpen : stage.Open store)
    (same : stage.seat.get changed = stage.seat.get store) (around : stage.around changed) :
    stage.Open changed :=
  ⟨by rw [same]; exact isOpen.inPlay, by rw [same]; exact isOpen.clear, around⟩

theorem Open.drift (isOpen : stage.Open store) (drifted : stage.terms.drift store changed) :
    stage.Open changed :=
  isOpen.of_same (stage.get_drift drifted) (stage.around_drift drifted isOpen.around)

theorem Open.record (isOpen : stage.Open store) (event : SceneEvent) :
    stage.Open (stage.seat.record event store) :=
  isOpen.of_heard ((stage.get_record event store).trans (Interpreter.record_eq_heard event))
    (stage.around_record event isOpen.around)

theorem Open.advance (isOpen : stage.Open store) :
    stage.Open (stage.seat.modify Interpreter.advance store) :=
  isOpen.of_heard ((stage.get_modify _ store).trans Interpreter.advance_eq_heard)
    (stage.around_modify _ isOpen.around)

theorem Open.warn (isOpen : stage.Open store) (warning : Warning) :
    stage.Open (stage.seat.warn warning store) :=
  isOpen.of_same (stage.get_warn warning store) (stage.around_warn warning isOpen.around)

/-! ## Steps before a recital -/

/-- The last instructions alone perform the recital of which nothing is heard. -/
theorem recites_conclude (halt : Halt) (isOpen : stage.Open store)
    (here : halt.index = (stage.seat.get store).nodeIndex) :
    stage.Recites (stage.seat.conclude halt) store (.silent halt) := by
  intro entries concluded
  refine concluded store ?_ isOpen.around
  simp only [Recital.silent, Interpreter.heard_nil, here]

/-- Marks before a recital, made by the steps that lead to its program. -/
theorem recites_after {program : Program Store Driver Procedure Answer} {marks : List Mark}
    (same : ∀ more index, (stage.seat.get changed).heard more index =
      (stage.seat.get store).heard (marks ++ more) index)
    (steps : ∀ entries, stage.Plays next changed entries →
      stage.Plays program store (marks.flatMap stage.mark ++ entries))
    (recites : stage.Recites next changed recital) :
    stage.Recites program store (recital.after marks) := by
  intro entries concluded
  have played := steps _ (recites entries fun reached place around =>
    concluded reached (by rw [place, same]; rfl) around)
  rwa [← List.append_assoc, ← List.flatMap_append] at played

/-- Steps that nobody hears, before a program. -/
theorem recites_of_steps {program : Program Store Driver Procedure Answer}
    (same : ∀ more index, (stage.seat.get changed).heard more index =
      (stage.seat.get store).heard more index)
    (steps : ∀ entries, stage.Plays next changed entries → stage.Plays program store entries)
    (recites : stage.Recites next changed recital) : stage.Recites program store recital := by
  have recited : stage.Recites program store (recital.after []) :=
    recites_after same steps recites
  exact recited

theorem recites_of_look {choose : Store → Program Store Driver Procedure Answer}
    (recites : stage.Recites (choose store) store recital) :
    stage.Recites (.look choose) store recital :=
  recites_of_steps (fun _ _ => rfl) (fun _ plays => .look plays) recites

theorem recites_of_check (recites : stage.Recites next store recital) :
    stage.Recites (.check next) store recital :=
  recites_of_steps (fun _ _ => rfl) (fun _ plays => .check plays) recites

theorem plays_update {change : Interpreter → Interpreter} {entries : List Entry}
    (plays : stage.Plays next (stage.seat.modify change store) entries) :
    stage.Plays (.update (stage.seat.modify change) next) store entries := by
  have updated : stage.Plays (.update (stage.seat.modify change) next) store
      (stage.observer.change store (stage.seat.modify change store) ++ entries) :=
    .update (stage.leaves_modify change store) plays
  rwa [stage.change_modify] at updated

/-! ## Scripts -/

/-- A wait that is not shown. Others may change the store meanwhile. -/
theorem recites_pause (isOpen : stage.Open store) (duration : Duration)
    (recites : ∀ later, stage.Open later → stage.seat.get later = stage.seat.get store →
      stage.Recites next later recital) :
    stage.Recites (.pause duration next) store (recital.after [.waited duration []]) := by
  intro entries concluded
  have written := stage.wait duration store isOpen.around isOpen.inPlay.scenario_eq
  rw [isOpen.clear] at written
  have waiting : stage.terms.gate [] store :=
    stage.gate_open isOpen.around isOpen.inPlay (.inl rfl) fun _ => isOpen.clear
  have paused : stage.Plays (.pause duration next) store
      (stage.observer.wait duration (stage.machine.shown store)
        ++ (recital.marks.flatMap stage.mark ++ entries)) := by
    refine .pause waiting fun later drifted => ?_
    have same := stage.get_drift drifted
    refine recites later (isOpen.drift drifted) same entries ?_
    intro reached place around
    rw [same] at place
    exact concluded reached place around
  rw [written] at paused
  simpa [Recital.after] using paused

/-- A wait that is shown, taken back at its end. -/
theorem recites_held (isOpen : stage.Open store) (duration : Duration)
    (recites : ∀ later, stage.Open later → stage.seat.get later = stage.seat.get store →
      stage.Recites next later recital) :
    stage.Recites
      (.update (stage.seat.modify fun interpreter => interpreter.setSuspended true)
        (.ensure (.pause duration .stop) stage.seat.unhold next)) store
      (recital.after [.waited duration [stage.scenario.kind.indicator]]) := by
  intro entries concluded
  let holding := stage.seat.modify (fun interpreter => interpreter.setSuspended true) store
  have heldUp : stage.seat.get holding = (stage.seat.get store).setSuspended true :=
    stage.get_modify _ _
  have around : stage.around holding := stage.around_modify _ isOpen.around
  have written := stage.wait duration holding around (by rw [heldUp]; exact isOpen.inPlay.scenario_eq)
  have waiting : stage.terms.gate [.ensured stage.seat.unhold next] holding := by
    refine stage.gate_open around ?_ (.inr ⟨next, rfl⟩) (by simp)
    rw [heldUp]
    exact isOpen.inPlay.setSuspended true
  have held : stage.Plays (.ensure (.pause duration .stop) stage.seat.unhold next) holding
      (stage.observer.wait duration (stage.machine.shown holding)
        ++ (recital.marks.flatMap stage.mark ++ entries)) := by
    refine .ensure (.pause waiting fun later drifted => .resume ?_)
    let taken := stage.seat.modify (fun interpreter => interpreter.setSuspended false) later
    have back : stage.seat.get taken = stage.seat.get store := by
      rw [stage.get_modify, stage.get_drift drifted, heldUp]
      exact Interpreter.setSuspended_setSuspended isOpen.clear true
    have takenAround : stage.around taken :=
      stage.around_modify _ (stage.around_drift drifted around)
    refine plays_update (recites taken (isOpen.of_same back takenAround) back entries ?_)
    intro reached place reachedAround
    rw [back] at place
    exact concluded reached place reachedAround
  have shown : stage.Plays
      (.update (stage.seat.modify fun interpreter => interpreter.setSuspended true)
        (.ensure (.pause duration .stop) stage.seat.unhold next)) store _ := plays_update held
  rw [written, heldUp] at shown
  simpa [Recital.after] using shown

/-- An event that is shown. -/
theorem recites_event (event : SceneEvent)
    (recites : stage.Recites next (stage.seat.record event store) recital) :
    stage.Recites (.check (.update (stage.seat.record event) next)) store
      (recital.after [.shown event]) := by
  refine recites_after ?_ ?_ recites
  · intro more index
    rw [stage.get_record]
    exact Interpreter.heard_record event more index
  · intro entries plays
    have shown : stage.Plays (.check (.update (stage.seat.record event) next)) store
        (stage.observer.change store (stage.seat.record event store) ++ entries) :=
      .check (.update (stage.leaves_record event store) plays)
    rw [stage.change_record] at shown
    simpa using shown

/-- The voice of a script performs the script, and then whatever the program after it performs. -/
theorem recites_voice {index : Nat} (cues : List Cue) (isOpen : stage.Open store)
    (place : (stage.seat.get store).nodeIndex = index)
    (recites : ∀ later, stage.Open later → (stage.seat.get later).nodeIndex = index →
      stage.Recites next later recital) :
    stage.Recites (stage.seat.voice cues next) store
      (Recital.perform stage.scenario.kind index recital cues) := by
  induction cues generalizing store with
  | nil => exact recites store isOpen place
  | cons cue cues inductionHypothesis =>
      cases cue with
      | event event =>
          refine recites_event event (inductionHypothesis (isOpen.record event) ?_)
          rw [stage.get_record]
          exact place
      | wait duration held =>
          cases duration with
          | none => exact recites_conclude (.stuck index) isOpen place.symm
          | some duration =>
              have onward : ∀ later, stage.Open later →
                  stage.seat.get later = stage.seat.get store →
                    stage.Recites (stage.seat.voice cues next) later
                      (Recital.perform stage.scenario.kind index recital cues) := by
                intro later laterOpen same
                exact inductionHypothesis laterOpen (by rw [same]; exact place)
              cases held with
              | false => exact recites_pause isOpen duration onward
              | true => exact recites_held isOpen duration onward

end Stage

end Playthrough
