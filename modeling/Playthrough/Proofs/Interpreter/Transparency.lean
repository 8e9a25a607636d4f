import Playthrough.Proofs.Interpreter.Padding
import Playthrough.Proofs.Interpreter.Performance

/-!
Contract: nodes that play nothing are not noticed by whoever watches an interpreter.

Owns: the run of a scene with any selections, made where a choice is awaited and where none is, its equality
with the recital, and the comparison of a scene with the same scene padded with nodes that play nothing.

Does not own: the comparison of the two recitals; that is in `Interpreter.Padding`.
-/

namespace Playthrough.Interpreter.Alone

variable {scenario : Scenario} {preferences : Preferences}

/-! ## Selections, awaited or not -/

/-- Makes selections one after the other, whether a choice is awaited or not; after each everything is let
run and every wait ends. -/
def selectOn (fuel : Nat) : List Offer → Setting → List Mark × Setting
  | [], world => ([], world)
  | offer :: later, world =>
      let (marks, reached) := World.watch machine watcher fuel (world.begin (choose offer)).2
      let (more, ended) := selectOn fuel later reached
      (marks ++ more, ended)

/-- Starts a scene and makes selections. The first of the pair is the transcript: what the listener is
given, the points that are reported and the waits that begin, each with what is shown meanwhile. -/
def playSelecting (fuel : Nat) (scenario : Scenario) (preferences : Preferences)
    (selections : List Offer) : List Mark × Setting :=
  let fresh : Setting := World.initial (initial scenario true)
  let (marks, reached) := World.watch machine watcher fuel (fresh.begin (start preferences)).2
  let (more, ended) := selectOn fuel selections reached
  (marks ++ more, ended)

/-- A selection where no choice is awaited: it is refused, and nothing is heard of it. -/
theorem toRest_refused {world : Setting} {marks : List Mark} {halt : Halt}
    (atHalt : AtHalt scenario preferences marks halt world)
    (elsewhere : world.store.interpreter.progress ≠ .awaitingChoice) (offer : Offer) :
    ∃ after : Setting,
      World.ToRest machine watcher (world.begin (choose offer)).2 [] after
        ∧ AtHalt scenario preferences marks halt after := by
  obtain ⟨held, holding, heldInside, isEnded⟩ := atHalt.slot
  let id := world.tasks.length
  let task : Task Alone Unit Unit Reply := Task.fresh none (choose offer)
  let begun : Setting := { world with tasks := world.tasks ++ [task] }
  let warning : Warning := .choiceIgnored world.store.interpreter.scenario.kind offer.tag
    world.store.interpreter.progress
  let told := warn warning world.store
  have inside : id < begun.tasks.length := by simp [id, begun]
  have rested := World.rested_closed inside
    (show (task.on (.run (.give (.verdict false))) []).joiners = [] from rfl) atHalt.quiet atHalt.silent
    told (.finished (some (.verdict false)))
  have different : held ≠ id := Nat.ne_of_lt heldInside
  refine ⟨_, ?_, ⟨rested.noTurn, rested.nothingQueued, rested.nothingWaits, ?_, ?_, ?_, ?_⟩⟩
  · have refuses : World.ToRest machine watcher
        (begun.focus id (task.on (.run (.update (seat.warn warning) (.give (.verdict false)))) [])
          world.store) (watcher.change world.store told ++ ([] ++ [])) _ :=
      .focus_step (World.step_update inside _) rfl
        (.of_turn (.focus_last (World.step_done inside _) rfl rfl rfl) rested.toRest)
    rw [change_warn] at refuses
    rw [World.begin_eq_focus]
    show World.ToRest machine watcher
      (begun.focus id (task.on (.run (choose offer)) []) world.store) _ _
    refine .focus_skip (World.step_look inside _) rfl ?_
    simp only [seat, elsewhere, if_false]
    exact refuses
  · refine ⟨held, by rw [rested.sameHoldings]; exact holding, ?_, ?_⟩
    · rw [rested.sameLength]
      exact Nat.lt_of_lt_of_le heldInside (by simp [begun])
    · refine Eq.trans ?_ isEnded
      rw [World.isUnended, World.isUnended, rested.others held different,
        List.getElem?_append_left heldInside]
  · rw [rested.store_eq]
    exact atHalt.reporting
  · rw [rested.store_eq]
    exact atHalt.finishes
  · rw [rested.store_eq]
    exact atHalt.interpreter

/-- A scene awaits a choice exactly at a stop that offers one. -/
theorem AtHalt.elsewhere {world : Setting} {marks : List Mark} {halt : Halt}
    (atHalt : AtHalt scenario preferences marks halt world)
    (elsewhere : ∀ place node, halt ≠ .offering place node) :
    world.store.interpreter.progress ≠ .awaitingChoice := by
  obtain ⟨base, inPlay, -, -, -, same⟩ := atHalt.interpreter
  rw [same, inPlay.progress_halted]
  cases halt with
  | offering place node => exact absurd rfl (elsewhere place node)
  | ready index => simp [Halt.progress]
  | ended index => simp [Halt.progress]
  | stuck index => simp [Halt.progress]

/-- Selections that are made one after the other go on with the recital from stop to stop. -/
theorem selectOn_eq_recital (selections : List Offer) {recital : List Offer → Recital}
    (unfolds : Unfolds scenario preferences recital) {world : Setting} {earlier : List Mark}
    (atHalt : AtHalt scenario preferences (earlier ++ (recital []).marks) (recital []).halt world) :
    ∃ enough, ∀ fuel, enough ≤ fuel →
      (recital selections).marks = (recital []).marks ++ (selectOn fuel selections world).1
        ∧ AtHalt scenario preferences (earlier ++ (recital selections).marks) (recital selections).halt
            (selectOn fuel selections world).2 := by
  induction selections generalizing recital world earlier with
  | nil =>
      refine ⟨0, ?_⟩
      intro fuel _
      simpa [selectOn] using atHalt
  | cons offer later inductionHypothesis =>
      by_cases stops : ∃ place node, (recital []).halt = .offering place node
      · obtain ⟨place, node, stops⟩ := stops
        rw [stops] at atHalt
        obtain ⟨reached, way, next⟩ := toRest_choose atHalt (unfolds.node place node stops) offer
        obtain ⟨patience, watched⟩ := World.watch_of_toRest way
        rw [List.append_assoc earlier] at next
        obtain ⟨enough, selected⟩ :=
          inductionHypothesis (unfolds_continuation place (node.find? offer.tag)) next
        refine ⟨max patience enough, ?_⟩
        intro fuel large
        obtain ⟨heard, halts⟩ := selected fuel (by omega)
        simp only [selectOn, watched fuel (by omega)]
        rw [unfolds.offered place node stops, Recital.marks_after, Recital.halt_after, heard]
        refine ⟨by simp only [List.append_assoc], ?_⟩
        rw [heard] at halts
        simpa only [List.append_assoc] using halts
      · have elsewhere : ∀ place node, (recital []).halt ≠ .offering place node := by
          intro place node same
          exact stops ⟨place, node, same⟩
        obtain ⟨reached, way, next⟩ := toRest_refused atHalt (atHalt.elsewhere elsewhere) offer
        obtain ⟨patience, watched⟩ := World.watch_of_toRest way
        have same : Unfolds scenario preferences fun _ => recital [] := unfolds_constant elsewhere
        obtain ⟨enough, selected⟩ := inductionHypothesis same next
        refine ⟨max patience enough, ?_⟩
        intro fuel large
        obtain ⟨heard, halts⟩ := selected fuel (by omega)
        simp only [selectOn, watched fuel (by omega), unfolds.elsewhere _ elsewhere, List.nil_append]
        exact ⟨heard, halts⟩

/-- A scene that is started and given selections comes to rest where its recital stops, and is heard as
its recital. -/
theorem playSelecting_eq_recital (scenario : Scenario) (preferences : Preferences)
    (selections : List Offer) :
    ∃ enough, ∀ fuel, enough ≤ fuel →
      (playSelecting fuel scenario preferences selections).1 =
          (scenario.recital preferences selections).marks
        ∧ AtHalt scenario preferences (scenario.recital preferences selections).marks
            (scenario.recital preferences selections).halt
            (playSelecting fuel scenario preferences selections).2 := by
  obtain ⟨reached, way, atHalt⟩ := toRest_start scenario preferences
  obtain ⟨patience, watched⟩ := World.watch_of_toRest way
  obtain ⟨enough, selected⟩ := selectOn_eq_recital selections unfolds_recital
    (show AtHalt scenario preferences ([] ++ (scenario.recital preferences []).marks) _ _ from atHalt)
  refine ⟨max patience enough, ?_⟩
  intro fuel large
  obtain ⟨heard, halts⟩ := selected fuel (by omega)
  simp only [playSelecting, watched fuel (by omega)]
  exact ⟨heard.symm, halts⟩

/-! ## The comparison -/

/-- How often the end of a scene is reported that stops somewhere. -/
def reports : Halt → Nat
  | .ended _ => 1
  | _ => 0

/-- The end of a scene is reported where it is reached, and once. -/
theorem AtHalt.finishes_eq {world : Setting} {marks : List Mark} {halt : Halt}
    (atHalt : AtHalt scenario preferences marks halt world) : world.store.finishes = reports halt := by
  obtain ⟨base, inPlay, -, -, -, same⟩ := atHalt.interpreter
  have unreported : base.finished.toNat = 0 := by
    rw [inPlay.notFinished]
    rfl
  rw [atHalt.finishes, same]
  cases halt with
  | ended index => rfl
  | offering index node => exact unreported
  | ready index => exact unreported
  | stuck index => exact unreported

theorem reports_moved (shift : Nat → Nat) (halt : Halt) : reports (halt.moved shift) = reports halt := by
  cases halt <;> rfl

/-- Of a recital that stops at another place the outside sees only that place. -/
theorem snapshot_moved (recital : Recital) (shift : Nat → Nat) (kind : SceneKind) (language : Language) :
    (recital.moved shift).snapshot kind language =
      { recital.snapshot kind language with nodeIndex := shift recital.halt.index } := by
  obtain ⟨marks, halt⟩ := recital
  cases halt <;> rfl

/-- Nodes that play nothing, put anywhere but right between a choice and a block with the marker, change
nothing but the place: whatever selections are made, the listener is given the same, the same points are
reported, the same waits begin and show the same, the end is reported as often, and the interpreter comes to
rest alike, as many places further as nodes were put before it. -/
theorem padding_unnoticed (scenario : Scenario) (padding : Padding)
    (same : padding.plain = scenario.nodes) (apart : padding.splits scenario.kind = false)
    (preferences : Preferences) (selections : List Offer) :
    ∃ enough, ∀ fuel, enough ≤ fuel →
      let original := playSelecting fuel scenario preferences selections
      let altered := playSelecting fuel (scenario.padded padding) preferences selections
      altered.1 = original.1
        ∧ altered.2.store.interpreter.snapshot =
            { original.2.store.interpreter.snapshot with
              nodeIndex := original.2.store.interpreter.nodeIndex
                + padding.before original.2.store.interpreter.nodeIndex }
        ∧ altered.2.store.finishes = original.2.store.finishes
        ∧ original.2.isIdle = true ∧ original.2.waits = []
        ∧ altered.2.isIdle = true ∧ altered.2.waits = [] := by
  obtain ⟨enough, plays⟩ := playSelecting_eq_recital scenario preferences selections
  obtain ⟨more, playsPadded⟩ :=
    playSelecting_eq_recital (scenario.padded padding) preferences selections
  refine ⟨max enough more, ?_⟩
  intro fuel large original altered
  obtain ⟨heard, halts⟩ : original.1 = _ ∧ AtHalt _ _ _ _ original.2 := plays fuel (by omega)
  obtain ⟨heardPadded, haltsPadded⟩ : altered.1 = _ ∧ AtHalt _ _ _ _ altered.2 :=
    playsPadded fuel (by omega)
  have shifted := scenario.recital_padded preferences same apart selections
  rw [shifted] at heardPadded haltsPadded
  have seen := snapshot_of_atHalt halts
  have index : original.2.store.interpreter.nodeIndex =
      (scenario.recital preferences selections).halt.index :=
    Int.ofNat_inj.mp (congrArg Interpreter.Snapshot.nodeIndex seen)
  refine ⟨heardPadded.trans heard.symm, ?_, ?_, ?_, halts.silent, ?_, haltsPadded.silent⟩
  · rw [snapshot_of_atHalt haltsPadded, snapshot_moved, seen, index]
    rfl
  · rw [haltsPadded.finishes_eq, halts.finishes_eq]
    exact reports_moved _ _
  · simp [World.isIdle, halts.noTurn, halts.quiet]
  · simp [World.isIdle, haltsPadded.noTurn, haltsPadded.quiet]

/-- A text scene with one choice. -/
def choosing : Scenario :=
  { kind := .text
    header := []
    nodes := [.choice ⟨"ask", some [⟨"yes", .blank, 3, none, none, none⟩]⟩] }

/-- Nodes that play nothing, before and after that choice. -/
def aroundChoice : Padding :=
  [ .extra (.foreign ⟨"unknown", "puzzle", []⟩) rfl,
    .own (.choice ⟨"ask", some [⟨"yes", .blank, 3, none, none, none⟩]⟩),
    .extra (.choice ⟨"nothing", none⟩) rfl,
    .extra (.narrative ⟨"silent", none⟩) rfl ]

/-- A choice between nodes that play nothing is offered one place further, and once it is made the scene
ends three places further. -/
theorem padding_unnoticed_around_choice :
    aroundChoice.plain = choosing.nodes ∧ aroundChoice.splits choosing.kind = false
      ∧ aroundChoice.before 0 = 1 ∧ aroundChoice.before 1 = 3
      ∧ ∃ enough, ∀ fuel, enough ≤ fuel →
        let original := playSelecting fuel choosing .standard [⟨"yes", "", 3⟩]
        let altered := playSelecting fuel (choosing.padded aroundChoice) .standard [⟨"yes", "", 3⟩]
        altered.1 = original.1 ∧ altered.2.store.finishes = original.2.store.finishes := by
  refine ⟨rfl, rfl, rfl, rfl, ?_⟩
  obtain ⟨enough, unnoticed⟩ := padding_unnoticed choosing aroundChoice rfl rfl .standard [⟨"yes", "", 3⟩]
  refine ⟨enough, ?_⟩
  intro fuel large
  obtain ⟨heard, -, finishes, -⟩ := unnoticed fuel large
  exact ⟨heard, finishes⟩

end Playthrough.Interpreter.Alone
