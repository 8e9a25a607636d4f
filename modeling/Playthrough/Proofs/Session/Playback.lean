import Playthrough.Proofs.Session.Standing

/-!
Contract: what a turn of the driver that plays makes of a play-through.

Owns: the situations that such a turn leads to (`Plays`), and that it leads to one of them, whatever
operation waits meanwhile.

Does not own: operations.

A turn of a scene ends in a wait, at the stop of the scene, or in the epilogue that the encounter has
given way to. With every wait there is less ahead.
-/

namespace Playthrough.Session.Alone

variable {scenes : Scenes} {situation next : Situation} {bystanders : List TaskId} {outline : Draft}

/-- What a turn of the driver that plays leads to. -/
inductive Situation.Plays : Situation → Situation → Prop where
  | scene {kind : SceneKind} {id : TaskId} {halt : Halt} {ahead less : Nat} (shorter : less < ahead) :
      Plays (.scene kind id halt (some ahead)) (.scene kind id halt (some less))
  | sceneRests {kind : SceneKind} {id : TaskId} {halt : Halt} {ahead : Nat} :
      Plays (.scene kind id halt (some ahead)) (.scene kind id halt none)
  | givesWay {id new : TaskId} {halt : Halt} {ahead length : Nat} :
      Plays (.scene .encounter id halt (some ahead)) (.epilogue id new (some length))
  | epilogue {finished id : TaskId} {ahead less : Nat} (shorter : less < ahead) :
      Plays (.epilogue finished id (some ahead)) (.epilogue finished id (some less))
  | epilogueRests {finished id : TaskId} {ahead : Nat} :
      Plays (.epilogue finished id (some ahead)) (.epilogue finished id none)
  | fading {id : TaskId} {ahead less : Nat} (shorter : less < ahead) :
      Plays (.fading id (some ahead)) (.fading id (some less))
  | fadingRests {id : TaskId} {ahead : Nat} : Plays (.fading id (some ahead)) (.fading id none)

namespace Standing

variable {role : Role} {id : TaskId} {store : Alone}

/-- The driver that plays goes to sleep. -/
theorem rest_performer {task : Task Alone Role SceneKind Reply} {program : Plan}
    (standing : Standing scenes situation bystanders outline)
    (performs : situation.performer = some (role, id)) (sameSlots : next.slot = situation.slot)
    (still : next.performer = some (role, id)) (noLeaver : next.leaver = none)
    (scenes_of : scenes.Of store.session) (looks : next.Looks scenes store.session)
    (owner : task.owner = some role) (control : task.control = .run program)
    (kept : task.cancelPending = false) (nobody : id ∉ task.joiners)
    (underway : next.Underway scenes program task.frames store) :
    Standing scenes next bystanders (outline.rest id task store) where
  scenes_of := scenes_of
  looks := looks
  slot_eq := by
    rw [sameSlots]
    exact standing.slot_eq
  within := by
    rw [sameSlots]
    exact standing.within
  apart := by
    rw [sameSlots]
    exact standing.apart
  bystands := standing.bystands
  performs other someone plays := by
    rw [still] at plays
    cases plays
    obtain ⟨live, -⟩ := standing.performs role id performs
    exact ⟨live, task, program, Function.update_self _ _ _, owner, control, kept, nobody, underway⟩
  leaves stage someone clears := by
    subst clears
    cases noLeaver
  only someone other found := by
    by_cases same : someone = id
    · subst same
      exact .inr (.inl ⟨role, still⟩)
    · have was : outline.tasks someone = some other := by
        rw [← found]
        exact (Function.update_of_ne same _ _).symm
      rcases standing.only someone other was with bystander | ⟨elsewhere, plays⟩ | leaves
      · exact .inl bystander
      · rw [performs] at plays
        cases plays
        exact absurd rfl same
      · cases situation <;> simp_all [Situation.leaver, Situation.performer]

/-- The driver that plays comes to its end. -/
theorem close_performer (standing : Standing scenes situation bystanders outline)
    (performs : situation.performer = some (role, id)) (sameSlots : next.slot = situation.slot)
    (nobody : next.performer = none) (noLeaver : next.leaver = none)
    (scenes_of : scenes.Of store.session) (looks : next.Looks scenes store.session)
    (outcome : Outcome Reply) :
    Standing scenes next bystanders (outline.close id store outcome) where
  scenes_of := scenes_of
  looks := looks
  slot_eq := by
    rw [sameSlots]
    exact standing.slot_eq
  within := by
    rw [sameSlots]
    exact standing.within
  apart := by
    rw [sameSlots]
    exact standing.apart
  bystands := standing.bystands
  performs other someone plays := by
    rw [nobody] at plays
    cases plays
  leaves stage someone clears := by
    subst clears
    cases noLeaver
  only someone other found := by
    by_cases same : someone = id
    · subst same
      have gone : (outline.close someone store outcome).tasks someone = none :=
        Function.update_self _ _ _
      rw [gone] at found
      cases found
    · have was : outline.tasks someone = some other := by
        rw [← found]
        exact (Function.update_of_ne same _ _).symm
      rcases standing.only someone other was with bystander | ⟨elsewhere, plays⟩ | leaves
      · exact .inl bystander
      · rw [performs] at plays
        cases plays
        exact absurd rfl same
      · cases situation <;> simp_all [Situation.leaver, Situation.performer]

/-- The encounter's task ends and gives way to the epilogue's. -/
theorem close_encounter {halt : Halt} {ahead length : Nat} {body : Plan}
    (standing : Standing scenes (.scene .encounter id halt (some ahead)) bystanders outline)
    (scenes_of : scenes.Of store.session)
    (looks : Situation.Looks scenes (.epilogue id outline.count (some length)) store.session)
    (underway : Situation.Underway scenes (.epilogue id outline.count (some length)) body [] store)
    (outcome : Outcome Reply) :
    Standing scenes (.epilogue id outline.count (some length)) bystanders
      ((outline.install .epilogue body).close id store outcome) := by
  have inside := standing.within .encounter id rfl
  have different : id ≠ outline.count := Nat.ne_of_lt inside.1
  refine ⟨scenes_of, looks, ?_, ?_, ?_, ?_, ?_, ?_, ?_⟩
  · intro role
    have before := standing.slot_eq role
    cases role with
    | text => exact before
    | encounter => exact before
    | epilogue => rfl
  · intro role other holding
    cases role with
    | text => cases holding
    | encounter =>
        cases holding
        exact ⟨Nat.lt_succ_of_lt inside.1, inside.2⟩
    | epilogue =>
        cases holding
        refine ⟨Nat.lt_succ_self _, ?_⟩
        intro member
        exact absurd (standing.bystands _ member) (Nat.lt_irrefl _)
  · intro role other someone holding otherHolding
    cases role <;> cases other <;> simp_all [Situation.slot]
  · intro other member
    exact Nat.lt_succ_of_lt (standing.bystands other member)
  · intro role other performs
    cases performs
    refine ⟨rfl, Task.fresh (some .epilogue) body, body, ?_, rfl, rfl, rfl, by simp [Task.fresh], underway⟩
    exact (Function.update_of_ne (Ne.symm different) _ _).trans (Function.update_self _ _ _)
  · intro stage other clears
    cases clears
  · intro someone other found
    by_cases same : someone = id
    · subst same
      have gone : ((outline.install .epilogue body).close someone store outcome).tasks someone =
          none := Function.update_self _ _ _
      rw [gone] at found
      cases found
    · by_cases new : someone = outline.count
      · subst new
        exact .inr (.inl ⟨.epilogue, rfl⟩)
      · have was : outline.tasks someone = some other := by
          rw [← found]
          exact ((Function.update_of_ne same _ _).trans (Function.update_of_ne new _ _)).symm
        rcases standing.only someone other was with bystander | ⟨elsewhere, plays⟩ | leaves
        · exact .inl bystander
        · cases plays
          exact absurd rfl same
        · cases leaves

end Standing

/-! ## The turn -/

/-- What a turn of the driver that plays has made of an outline. -/
structure Played (scenes : Scenes) (situation next : Situation) (bystanders : List TaskId)
    (before after : Draft) : Prop where
  plays : situation.Plays next
  standing : Standing scenes next bystanders after
  preferences : after.store.session.preferences = before.store.session.preferences
  score : after.store.session.score = before.store.session.score
  bystands : ∀ id ∈ bystanders,
    after.tasks id = before.tasks id ∧ after.outcomes id = before.outcomes id

theorem Played.of_rest {id : TaskId} {task : Task Alone Role SceneKind Reply} {store : Alone}
    (plays : situation.Plays next) (outside : id ∉ bystanders)
    (preferences : store.session.preferences = outline.store.session.preferences)
    (score : store.session.score = outline.store.session.score)
    (standing : Standing scenes next bystanders (outline.rest id task store)) :
    Played scenes situation next bystanders outline (outline.rest id task store) := by
  refine ⟨plays, standing, preferences, score, ?_⟩
  intro other member
  have different : other ≠ id := fun same => outside (same ▸ member)
  exact ⟨Function.update_of_ne different _ _, rfl⟩

theorem Played.of_close {id : TaskId} {store : Alone} {outcome : Outcome Reply}
    (plays : situation.Plays next) (outside : id ∉ bystanders)
    (preferences : store.session.preferences = outline.store.session.preferences)
    (score : store.session.score = outline.store.session.score)
    (standing : Standing scenes next bystanders (outline.close id store outcome)) :
    Played scenes situation next bystanders outline (outline.close id store outcome) := by
  refine ⟨plays, standing, preferences, score, ?_⟩
  intro other member
  have different : other ≠ id := fun same => outside (same ▸ member)
  exact ⟨Function.update_of_ne different _ _, Function.update_of_ne different _ _⟩

/-- What a scene has left alone still belongs to the play-through. -/
theorem Scenes.Of.of_spares {kind : SceneKind} {before after : Session} (of : scenes.Of before)
    (spares : Spares kind before after)
    (same : (after.interpreter kind).scenario = scenes.scenario kind) : scenes.Of after := by
  refine ⟨?_, spares.endings.trans of.endings_eq⟩
  have other : (after.interpreter (rival kind)).scenario = scenes.scenario (rival kind) := by
    rw [spares.rival]
    exact of.scenario_eq _
  intro some
  cases kind <;> cases some <;> first | exact same | exact other

theorem scenario_of_atStop {scenario : Scenario} {preferences : Preferences} {halt : Halt}
    {interpreter : Interpreter} (stops : AtStop scenario preferences halt interpreter) :
    interpreter.scenario = scenario := by
  obtain ⟨base, inPlay, -, -, rfl⟩ := stops
  rw [Interpreter.scenario_halted]
  exact inPlay.scenario_eq

/-- An encounter that is not touched by the text scene stays untouched. -/
theorem untouched_of_spares {kind : SceneKind} {before after : Session}
    (spares : Spares kind before after) (untouched : kind = .text → Untouched before.encounter) :
    kind = .text → Untouched after.encounter := by
  intro text
  subst text
  rw [show after.encounter = before.encounter from spares.rival]
  exact untouched rfl

variable {base : Setting} {role : Role} {id : TaskId} {task : Task Alone Role SceneKind Reply}

/-- A turn of a scene. -/
theorem lands_scene {kind : SceneKind} {halt : Halt} {ahead : Nat}
    (standing : Standing scenes (.scene kind id halt (some ahead)) bystanders outline)
    (sameOutline : base.outline = outline) (found : outline.tasks id = some task) :
    World.Lands machine
      (fun after => ∃ next,
        Played scenes (.scene kind id halt (some ahead)) next bystanders outline after.outline)
      (base.focus id (World.atTurn task) outline.store) := by
  obtain ⟨live, same, program, found', owner, control, kept, nobody, sheltered, preferences, entries,
    length, runs⟩ := standing.performs (roleOf kind) id rfl
  rw [found] at found'
  cases found'
  subst sameOutline
  have outside : id ∉ bystanders :=
    (standing.within (roleOf kind) id (by simp [Situation.slot])).2
  obtain ⟨around, untouched, fits, -⟩ := standing.looks
  have allowed : base.mayAct id task = true := by
    have permitted : (base.holdings (roleOf kind)).live = some id := live
    simp [World.mayAct, owner, permitted]
  have stopped : ∀ (final : Alone) (outcome : Outcome Reply),
      Spares kind base.outline.store.session final.session → Around kind final.session →
      AtStop (scenes.scenario kind) preferences halt (final.session.interpreter kind) →
      (kind = .encounter → ∀ index, halt ≠ .ended index) →
      ∃ next, Played scenes (.scene kind id halt (some ahead)) next bystanders base.outline
        (base.outline.close id final outcome) := by
    intro final outcome spares finalAround stops notEnded
    refine ⟨.scene kind id halt none, .of_close .sceneRests outside spares.preferences spares.score
      ?_⟩
    refine standing.close_performer rfl (by rfl) rfl rfl ?_ ?_ outcome
    · exact standing.scenes_of.of_spares spares (scenario_of_atStop stops)
    · exact ⟨finalAround, untouched_of_spares spares untouched, fits, preferences, stops, notEnded⟩
  let post : Draft → Prop := fun after =>
    ∃ next, Played scenes (.scene kind id halt (some ahead)) next bystanders base.outline after
  rw [World.atTurn_of_kept control kept]
  refine World.lands_of_runs post found allowed (runs _ rfl) ?_ ?_ ?_ ?_
  · intro following frames later first rest duration shown spares gate split residue
    obtain ⟨laterAround, inPlay, laterSheltered⟩ := gate
    have shorter : rest.length < ahead := by
      have counts : entries.length = first.length + 1 + rest.length := by
        rw [split]
        simp [tally]
        omega
      omega
    refine ⟨.scene kind id halt (some rest.length), .of_rest (.scene shorter) outside
      spares.preferences spares.score ?_⟩
    refine standing.rest_performer rfl rfl rfl rfl ?_ ?_ owner rfl kept nobody ?_
    · exact standing.scenes_of.of_spares spares inPlay.scenario_eq
    · exact ⟨laterAround, untouched_of_spares spares untouched, fits, preferences, inPlay⟩
    · exact ⟨laterSheltered, preferences, rest, rfl, residue⟩
  · intro answer final spares ends
    exact stopped final _ spares ends.1 ends.2.1 ends.2.2
  · intro fault final spares ends
    exact stopped final _ spares ends.1 ends.2.1 ends.2.2
  · intro driver body final spares ends
    obtain ⟨rfl, -, scenario_eq, rfl, phase, terminal, lacks, rfl⟩ := ends
    have vacant : (base.holdings .epilogue).slot = none := standing.slot_eq .epilogue
    obtain ⟨length, script⟩ := runs_script final.session
    rw [World.displace_of_vacant vacant, World.outline_install]
    refine ⟨.epilogue id base.outline.count (some length.length), .givesWay, ?_, spares.preferences,
      spares.score, ?_⟩
    · refine standing.close_encounter ?_ ⟨phase, terminal, lacks.comesTo, by simp⟩ ?_ _
      · exact standing.scenes_of.of_spares spares scenario_eq
      · refine ⟨rfl, length, rfl, ?_⟩
        intro later same
        refine script later ?_
        rw [same]
        exact lacks
    · intro other member
      have different : other ≠ id := fun same => outside (same ▸ member)
      have notNew : other ≠ base.outline.count := Nat.ne_of_lt (standing.bystands other member)
      exact ⟨(Function.update_of_ne different _ _).trans (Function.update_of_ne notNew _ _),
        Function.update_of_ne different _ _⟩

/-- What the epilogue has left alone still belongs to the play-through. -/
theorem Scenes.Of.of_epilogue {before after : Session} (of : scenes.Of before)
    (spares : after = { before with epilogue := after.epilogue }) : scenes.Of after := by
  rw [spares]
  refine ⟨?_, of.endings_eq⟩
  intro kind
  have same := of.scenario_eq kind
  cases kind <;> exact same

/-- What the epilogue shows in the end does not depend on how far it has come. -/
theorem earnedEpilogue_of_spares {before after : Session}
    (spares : after = { before with epilogue := after.epilogue }) :
    earnedEpilogue after = earnedEpilogue before := by
  rw [spares]
  rfl

/-- The situations in which the epilogue is played, as functions of what is ahead of it. -/
inductive Situation.PlaysEpilogue (id : TaskId) : (Option Nat → Situation) → Prop where
  | last (finished : TaskId) : PlaysEpilogue id fun left => .epilogue finished id left
  | fading : PlaysEpilogue id fun left => .fading id left

namespace Situation.PlaysEpilogue

variable {stands : Option Nat → Situation} {ahead less : Nat}

theorem plays (epilogue : PlaysEpilogue id stands) (shorter : less < ahead) :
    (stands (some ahead)).Plays (stands (some less)) := by
  cases epilogue with
  | last finished => exact .epilogue shorter
  | fading => exact .fading shorter

theorem rests (epilogue : PlaysEpilogue id stands) : (stands (some ahead)).Plays (stands none) := by
  cases epilogue with
  | last finished => exact .epilogueRests
  | fading => exact .fadingRests

theorem performs (epilogue : PlaysEpilogue id stands) :
    (stands (some ahead)).performer = some (.epilogue, id) := by
  cases epilogue <;> rfl

theorem nobody (epilogue : PlaysEpilogue id stands) : (stands none).performer = none := by
  cases epilogue <;> rfl

theorem slots (epilogue : PlaysEpilogue id stands) (left other : Option Nat) :
    (stands left).slot = (stands other).slot ∧ (stands left).leaver = none := by
  cases epilogue with
  | last finished =>
      refine ⟨?_, rfl⟩
      funext role
      cases role <;> rfl
  | fading =>
      refine ⟨?_, rfl⟩
      funext role
      cases role <;> rfl

theorem looks {left : Option Nat} {before after : Session} (epilogue : PlaysEpilogue id stands)
    (looks : (stands (some ahead)).Looks scenes before)
    (spares : after = { before with epilogue := after.epilogue })
    (comes : ComesTo (earnedEpilogue before) after.epilogue)
    (isOver : left = none → after.epilogue = earnedEpilogue before) :
    (stands left).Looks scenes after := by
  rw [← earnedEpilogue_of_spares spares] at comes isOver
  cases epilogue with
  | last finished =>
      obtain ⟨phase, terminal, -⟩ := looks
      refine ⟨?_, ?_, comes, isOver⟩
      · rw [spares]
        exact phase
      · rw [spares]
        exact terminal
  | fading =>
      obtain ⟨phase, untouched, terminal, -⟩ := looks
      refine ⟨?_, ?_, ?_, comes⟩
      · rw [spares]
        exact phase
      · rw [spares]
        exact untouched
      · rw [spares]
        exact terminal

theorem underway_iff {program : Plan} {frames : List (Frame Alone Role SceneKind Reply)} {store : Alone}
    (epilogue : PlaysEpilogue id stands) :
    (stands (some ahead)).Underway scenes program frames store ↔
      frames = [] ∧ ∃ entries : List Unit, entries.length = ahead ∧
        ∀ later : Alone, later.session.epilogue = store.session.epilogue →
          Runs machine tally (epilogueTerms (earnedEpilogue store.session)) program frames later
            entries := by
  cases epilogue <;> exact Iff.rfl

end Situation.PlaysEpilogue

/-- A turn of the epilogue, in whatever situation it is played. -/
theorem lands_epilogue {stands : Option Nat → Situation} {ahead : Nat}
    (epilogue : Situation.PlaysEpilogue id stands)
    (standing : Standing scenes (stands (some ahead)) bystanders outline)
    (sameOutline : base.outline = outline) (found : outline.tasks id = some task) :
    World.Lands machine
      (fun after => ∃ next, Played scenes (stands (some ahead)) next bystanders outline after.outline)
      (base.focus id (World.atTurn task) outline.store) := by
  subst sameOutline
  have performs := (epilogue.performs : (stands (some ahead)).performer = _)
  obtain ⟨live, same, program, found', owner, control, kept, nobody, underway⟩ :=
    standing.performs .epilogue id performs
  rw [found] at found'
  cases found'
  obtain ⟨bare, entries, length, runs⟩ := epilogue.underway_iff.mp underway
  have outside : id ∉ bystanders :=
    (standing.within .epilogue id (Situation.slot_of_performer performs)).2
  have allowed : base.mayAct id task = true := by
    have permitted : (base.holdings .epilogue).live = some id := live
    simp [World.mayAct, owner, permitted]
  let post : Draft → Prop := fun after =>
    ∃ next, Played scenes (stands (some ahead)) next bystanders base.outline after
  rw [bare] at runs
  rw [World.atTurn_of_kept control kept, bare]
  refine World.lands_of_runs post found allowed (runs _ rfl) ?_ ?_ ?_ ?_
  · intro following frames later first rest duration shown spares gate split residue
    obtain ⟨rfl, comes⟩ := gate
    have shorter : rest.length < ahead := by
      have counts : entries.length = first.length + 1 + rest.length := by
        rw [split]
        simp [tally]
        omega
      omega
    refine ⟨_, .of_rest (epilogue.plays shorter) outside ?_ ?_ ?_⟩
    · rw [show later.session = _ from spares]
    · rw [show later.session = _ from spares]
    · obtain ⟨slots, noLeaver⟩ := epilogue.slots (some rest.length) (some ahead)
      refine standing.rest_performer performs slots epilogue.performs noLeaver ?_ ?_ owner rfl kept
        nobody ?_
      · exact standing.scenes_of.of_epilogue spares
      · exact epilogue.looks standing.looks spares comes (by simp)
      · refine epilogue.underway_iff.mpr ⟨rfl, rest, rfl, ?_⟩
        rw [earnedEpilogue_of_spares spares]
        exact residue
  · intro answer final spares ended
    obtain ⟨isOver, -⟩ := ended
    refine ⟨_, .of_close epilogue.rests outside ?_ ?_ ?_⟩
    · rw [show final.session = _ from spares]
    · rw [show final.session = _ from spares]
    · obtain ⟨slots, noLeaver⟩ := epilogue.slots none (some ahead)
      refine standing.close_performer performs slots epilogue.nobody noLeaver ?_ ?_ _
      · exact standing.scenes_of.of_epilogue spares
      · exact epilogue.looks standing.looks spares (.of_over isOver) fun _ => isOver
  · intro fault final spares ended
    cases ended.2
  · intro driver body final spares ended
    cases ended.2

/-- A turn of the driver that plays. -/
theorem lands_performer (standing : Standing scenes situation bystanders outline)
    (performs : situation.performer = some (role, id)) (sameOutline : base.outline = outline)
    (found : outline.tasks id = some task) :
    World.Lands machine
      (fun after => ∃ next, Played scenes situation next bystanders outline after.outline)
      (base.focus id (World.atTurn task) outline.store) := by
  cases situation with
  | scene kind someone halt ahead =>
      cases ahead with
      | none => cases performs
      | some ahead =>
          cases performs
          exact lands_scene standing sameOutline found
  | epilogue finished someone ahead =>
      cases ahead with
      | none => cases performs
      | some ahead =>
          cases performs
          have epilogue : Situation.PlaysEpilogue id fun left => .epilogue finished id left :=
            .last finished
          exact lands_epilogue epilogue standing sameOutline found
  | fading someone ahead =>
      cases ahead with
      | none => cases performs
      | some ahead =>
          cases performs
          have epilogue : Situation.PlaysEpilogue id fun left => .fading id left := .fading
          exact lands_epilogue epilogue standing sameOutline found
  | fresh => cases performs
  | leaving => cases performs
  | transition => cases performs
  | claimed kind index => cases performs
  | clearing stage leaver => cases performs

end Playthrough.Session.Alone
