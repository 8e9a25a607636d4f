import Playthrough.Proofs.Session.Soundness

/-!
Contract: the phases of a play-through.

Owns: what holds of the three drivers in each phase, and the order of the phases.

Does not own: the invariant that this follows from.

A restart takes back the text scene, the encounter and the epilogue one after the other and the phase
last, so for as long as it waits for the epilogue the phase is ahead of the encounter.
-/

namespace Playthrough.Session.Alone

/-- What holds in a phase of a play-through between two turns. -/
def PhaseHolds (history : History) (world : Setting) : Phase → Prop
  | .textScene =>
      world.store.session.encounter.progress = .idle ∧ world.store.session.encounter.events = []
        ∧ world.store.session.epilogue.tier = none ∧ world.store.session.epilogue.events = []
  | .transition =>
      (∀ role, world.isActive role = false) ∧ world.store.session.encounter.progress = .idle
        ∧ world.store.session.text.progress ∈ [.transitionReady, .terminal]
        ∧ world.store.session.preferences.pacing ≠ .fast
  | .encounter =>
      world.isActive .text = false
        ∧ world.store.session.encounter.progress ∈ [.running, .awaitingChoice]
  | .epilogue =>
      history.restarting = false →
        world.store.session.encounter.progress = .terminal
          ∧ world.store.session.epilogue.tier = some world.store.session.tier

/-- What the phases of a play-through promise between two turns. -/
structure Phased (history : History) (world : Setting) : Prop where
  holds : PhaseHolds history world world.store.session.phase
  oneActive : ∀ role other, world.isActive role = true → world.isActive other = true → role = other
  onRoute : history.restarting = false →
    history.phases <+: route world.store.session.preferences.pacing
      ∧ history.phases.getLast? = some world.store.session.phase

variable {textScene : Option TextScene} {encounterScene : Option EncounterScene}
variable {preferences : Preferences} {history : History} {world : Setting}
variable {scenes : Scenes}

theorem Moment.phaseHolds (moment : Moment scenes history world.outline) :
    PhaseHolds history world world.store.session.phase := by
  obtain ⟨situation, progressing, -⟩ := moment
  obtain ⟨bystanders, standing⟩ := progressing.standing
  have looks := standing.looks
  have phase : world.store.session.phase = situation.phase := looks.phase
  rw [phase]
  have untouched : Untouched world.store.session.encounter → world.store.session.epilogue = .blank →
      PhaseHolds history world .textScene := by
    intro encounter blank
    refine ⟨encounter.idle, encounter.silent, ?_⟩
    rw [blank]
    exact ⟨rfl, rfl⟩
  cases situation with
  | fresh => exact untouched looks.2.2.2 looks.2.1
  | leaving => exact untouched looks.2.2.1 looks.2.1
  | scene kind id halt ahead =>
      cases kind with
      | text => exact untouched (looks.2.1 rfl) looks.1.epilogue
      | encounter =>
          refine ⟨standing.inactive ?_, looks.progress_of_encounter⟩
          intro other performs
          cases ahead <;> cases performs
  | claimed kind index =>
      obtain ⟨encounter, -, preferences, playing⟩ := looks
      cases kind with
      | text => exact untouched (encounter rfl) playing.around.epilogue
      | encounter =>
          have running : world.store.session.encounter.progress = .running := playing.inPlay.running
          refine ⟨standing.inactive ?_, ?_⟩
          · intro other performs
            cases performs
          · rw [running]
            exact List.mem_cons_self
  | transition =>
      obtain ⟨-, -, encounter, stopped, slow⟩ := looks
      refine ⟨fun role => standing.inactive ?_, encounter.idle, stopped, slow⟩
      intro other performs
      cases performs
  | epilogue finished id ahead => exact fun _ => ⟨looks.2.1, looks.2.2.1.tier⟩
  | fading id ahead => exact fun _ => ⟨looks.2.2.1, looks.2.2.2.tier⟩
  | clearing stage leaver =>
      cases stage with
      | text => exact untouched looks.2.2 looks.2.1
      | encounter =>
          refine ⟨standing.inactive ?_, looks.2.2⟩
          intro other performs
          cases performs
      | epilogue =>
          intro notRestarting
          rw [progressing.restarting_of_clearing] at notRestarting
          cases notRestarting

/-- Between two turns every play-through that occurs keeps what its phases promise. -/
theorem phased_of_occurs (occurs : Occurs textScene encounterScene preferences history world)
    (noTurn : world.running = none) : Phased history world := by
  have moment := (Sound.of_occurs occurs).moment noTurn
  have holds := moment.phaseHolds
  obtain ⟨situation, progressing, chronicle⟩ := moment
  obtain ⟨bystanders, standing⟩ := progressing.standing
  refine ⟨holds, ?_, ?_⟩
  · intro role other active otherActive
    rw [World.isActive_eq] at active otherActive
    exact standing.active_unique active otherActive
  · intro notRestarting
    exact ⟨(chronicle notRestarting).phases, (chronicle notRestarting).current⟩

/-- Two scenes without nodes, on the transition screen. -/
theorem phased_at_transition :
    ∃ (history : History) (world : Setting), Occurs none none .standard history world
      ∧ world.running = none ∧ world.store.session.phase = .transition ∧ Phased history world := by
  have start : Occurs none none .standard .initial _ := .construct
  have begun := (start.begin .begin rfl rfl fun _ => rfl).stepped 20
  have rests : Occurs none none .standard
      (History.completed _ ⟨0, .begin, some (.text, 0), true⟩ (.finished none)) _ :=
    begun.complete rfl rfl rfl
  have leaves := (rests.begin .triggerTransition rfl rfl (by simp)).stepped 20
  exact ⟨_, _, leaves, rfl, rfl, phased_of_occurs leaves rfl⟩

end Playthrough.Session.Alone
