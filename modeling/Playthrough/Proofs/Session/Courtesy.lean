import Playthrough.Proofs.Interpreter.Composition
import Playthrough.Proofs.Session.Alteration
import Playthrough.Proofs.Task.Decorum

/-!
Contract: what the programs of a play-through are composed of, in whichever world it lives.

Owns: the instructions that operations are composed of (`Seat.Composes`) and that a property of programs
which these keep is a property of all operations; the worlds whose manners admit a play-through
(`Seat.Courteous`), and that all of its programs keep to these manners.

Does not own: the manners of a world.
-/

namespace Playthrough.Session

variable {Store Driver Procedure Answer : Type}

/-! ## What operations are composed of -/

/-- What a driver is given to play: a scene from where it is, what comes after a choice, or an ending. -/
inductive Seat.Performs (seat : Seat Store Driver Procedure) :
    Role → Program Store Driver Procedure Answer → Prop where
  | scene (kind : SceneKind) : Performs seat (roleOf kind) (seat.interpreter kind).openScene
  | branch (kind : SceneKind) (choice : Option Choice) :
      Performs seat (roleOf kind) ((seat.interpreter kind).resume choice)
  | ending (preferences : Preferences) (ending : Ending) (tier : Option Tier) :
      Performs seat .epilogue (seat.epilogue.script preferences ending tier)

/-- The instructions that operations are composed of keep a property of programs. -/
structure Seat.Composes (seat : Seat Store Driver Procedure)
    (property : Program Store Driver Procedure Answer → Prop) : Prop where
  look : ∀ choose : Store → Program Store Driver Procedure Answer,
    (∀ store, property (choose store)) → property (.look choose)
  update : ∀ change {next}, (∀ store, seat.Alters none store (change store)) → property next →
    property (.update change next)
  cancel : ∀ role {next}, property next → property (.cancel (seat.driver role) next)
  settle : ∀ {next}, property next → property (.settleAll seat.drivers next)
  spawn : ∀ {role body next}, seat.Performs role body → property next →
    property (.spawn (seat.driver role) body next)

namespace Seat.Composes

variable {seat : Seat Store Driver Procedure}
variable {property : Program Store Driver Procedure Answer → Prop}
variable {next refused accepted : Program Store Driver Procedure Answer}

theorem modify (composes : seat.Composes property) {change : Session → Session}
    (permits : ∀ session, Permits none session (change session)) (goesOn : property next) :
    property (.update (seat.modify change) next) :=
  composes.update _ (fun store => (Alters.refl store).modify permits) goesOn

theorem interpreter (composes : seat.Composes property) (kind : SceneKind)
    {change : Interpreter → Interpreter}
    (same : ∀ interpreter, (change interpreter).scenario = interpreter.scenario) (goesOn : property next) :
    property (.update
      ((seat.interpreter kind : Playthrough.Seat Store Driver Procedure Answer).modify change) next) :=
  composes.modify (fun _ => .modifyInterpreter same (reaches_outside _)) goesOn

theorem warn (composes : seat.Composes property) (warning : Warning) (goesOn : property next) :
    property (.update (seat.warn warning) next) :=
  composes.update _ (fun store => (Alters.refl store).warn warning) goesOn

theorem reset (composes : seat.Composes property) (kind : SceneKind) (goesOn : property next) :
    property ((seat.interpreter kind).reset next) :=
  composes.cancel (roleOf kind) (composes.interpreter kind (fun _ => rfl) goesOn)

theorem start (composes : seat.Composes property) (kind : SceneKind) (preferences : Preferences)
    (goesOn : property next) : property ((seat.interpreter kind).start preferences next) := by
  refine composes.reset kind (composes.interpreter kind (fun _ => rfl) (composes.update _ ?_ ?_))
  · exact fun store => .recordHeader kind _ store
  · exact composes.spawn (.scene kind) goesOn

theorem begin (composes : seat.Composes property) (goesOn : property next) : property (seat.begin next) :=
  composes.modify (fun _ => .enter _) (composes.look _ fun _ => composes.start .text _ goesOn)

theorem enterEncounter (composes : seat.Composes property) (goesOn : property next) :
    property (seat.enterEncounter next) :=
  composes.modify (fun _ => .enter _) (composes.look _ fun _ => composes.start .encounter _ goesOn)

/-- Leaving a text scene that can be left. -/
theorem leaveText (composes : seat.Composes property) (goesOn : property next) :
    property (.cancel (seat.driver .text)
      (.look fun store =>
        if (seat.get store).preferences.pacing = .fast then seat.enterEncounter next
        else .update (seat.modify (Session.enter .transition)) next)) := by
  refine composes.cancel .text (composes.look _ fun store => ?_)
  split
  · exact composes.enterEncounter goesOn
  · exact composes.modify (fun _ => .enter _) goesOn

theorem triggerTransition (composes : seat.Composes property) (declines : property refused)
    (goesOn : property accepted) : property (seat.triggerTransition refused accepted) := by
  refine composes.look _ fun store => ?_
  dsimp only
  split
  · exact composes.leaveText goesOn
  · exact composes.warn _ declines

theorem beginEncounter (composes : seat.Composes property) (declines : property refused)
    (goesOn : property accepted) : property (seat.beginEncounter refused accepted) := by
  refine composes.look _ fun store => ?_
  dsimp only
  split
  · exact composes.enterEncounter goesOn
  · exact composes.warn _ declines

theorem resetEpilogue (composes : seat.Composes property) (goesOn : property next) :
    property (seat.epilogue.reset next) :=
  composes.cancel .epilogue (composes.modify (fun _ => .modifyEpilogue _ (reaches_outside _)) goesOn)

theorem restart (composes : seat.Composes property) (preferences : Option Preferences)
    (goesOn : property next) : property (seat.restart preferences next) :=
  composes.reset .text (composes.reset .encounter
    (composes.resetEpilogue (composes.modify (fun _ => .restarted preferences) goesOn)))

/-- Making a choice that is awaited. -/
theorem claimOffer (composes : seat.Composes property) (kind : SceneKind) (offer : Offer) (nodeId : String)
    (choice : Option Choice) (goesOn : property next) :
    property (.update ((seat.interpreter kind : Playthrough.Seat Store Driver Procedure Answer).modify
        Interpreter.claim)
      (.cancel (seat.interpreter kind : Playthrough.Seat Store Driver Procedure Answer).driver
        (.update ((seat.interpreter kind : Playthrough.Seat Store Driver Procedure Answer).applyChoice offer
            nodeId choice)
          (.spawn (seat.interpreter kind : Playthrough.Seat Store Driver Procedure Answer).driver
            ((seat.interpreter kind).resume choice) next)))) := by
  refine composes.interpreter kind (fun _ => rfl) (composes.cancel _ (composes.update _ ?_ ?_))
  · exact fun store => .applyChoice kind offer nodeId choice store
  · exact composes.spawn (.branch kind choice) goesOn

theorem selectOffer (composes : seat.Composes property) (kind : SceneKind) (offer : Offer)
    (declines : property refused) (goesOn : property accepted) :
    property ((seat.interpreter kind).select offer refused accepted) := by
  refine composes.look _ fun store => ?_
  dsimp only
  split
  · exact composes.claimOffer kind offer _ _ goesOn
  · exact composes.warn _ declines

theorem select (composes : seat.Composes property) (id : String) (declines : property refused)
    (goesOn : property accepted) : property (seat.select id refused accepted) := by
  refine composes.look _ fun store => ?_
  dsimp only
  split
  · exact declines
  · split
    · exact composes.selectOffer _ _ declines goesOn
    · exact composes.warn _ declines

theorem close (composes : seat.Composes property) (goesOn : property next) : property (seat.close next) :=
  composes.cancel .text (composes.cancel .encounter (composes.cancel .epilogue goesOn))

theorem finishEncounter (composes : seat.Composes property) (goesOn : property next) :
    property (seat.finishEncounter next) := by
  refine composes.look _ fun store => composes.modify (fun _ => .enter _) ?_
  refine composes.modify (fun _ => .modifyEpilogue _ (reaches_outside _)) (composes.update _ ?_ ?_)
  · exact fun store => (Alters.refl store).recordEpilogue _ (reaches_outside _)
  · exact composes.spawn (.ending _ _ _) goesOn

end Seat.Composes

/-! ## Worlds that admit a play-through -/

/-- The manners of a world admit the programs of a play-through. -/
structure Seat.Courteous (seat : Seat Store Driver Procedure)
    (etiquette : Etiquette Store Driver Procedure) : Prop where
  writes : ∀ {owner : Option Role} {change : Store → Store},
    (∀ store, seat.Alters owner store (change store)) → etiquette.writes (owner.map seat.driver) change
  walks : ∀ kind, etiquette.calls (some (seat.driver (roleOf kind))) (seat.walk kind)
  hands : ∀ role, etiquette.hands none (seat.driver role)
  handsOver : etiquette.hands (some (seat.driver .encounter)) (seat.driver .epilogue)

namespace Seat.Courteous

variable {seat : Seat Store Driver Procedure} {etiquette : Etiquette Store Driver Procedure}

/-! ### The drivers -/

theorem decorous_script (courteous : seat.Courteous etiquette) (preferences : Preferences) (ending : Ending)
    (tier : Option Tier) :
    (seat.epilogue.script preferences ending tier : Program Store Driver Procedure Answer).Decorous etiquette
      (some (seat.driver .epilogue)) := by
  have own := reaches_self .epilogue
  have completes : etiquette.writes (some (seat.driver .epilogue)) (seat.epilogue.modify Epilogue.complete) :=
    @writes _ _ _ _ _ courteous (some .epilogue) _ fun store => (Alters.refl store).epilogue _ own
  have texts : ∀ texts : List Localized,
      (seat.epilogue.playTexts preferences tier
        (.pause Epilogue.closingBeat (.update (seat.epilogue.modify Epilogue.complete) .stop)) texts :
          Program Store Driver Procedure Answer).Decorous etiquette (some (seat.driver .epilogue)) := by
    intro texts
    induction texts with
    | nil => exact ⟨nofun, completes, trivial⟩
    | cons text texts inductionHypothesis =>
        refine ⟨nofun, ?_, inductionHypothesis⟩
        exact @writes _ _ _ _ _ courteous (some .epilogue) _ fun store =>
          (Alters.refl store).recordEpilogue _ own
  exact ⟨nofun, texts ending.texts⟩

/-- The encounter ends and hands over to the epilogue. -/
theorem decorous_finishEncounter (courteous : seat.Courteous etiquette) :
    (seat.finishEncounter .stop : Program Store Driver Procedure Answer).Decorous etiquette
      (some (seat.driver .encounter)) := by
  have reaches : Reaches (some .encounter) .epilogue := .inr ⟨rfl, rfl⟩
  have writes {change : Store → Store}
      (alters : ∀ store, seat.Alters (some .encounter) store (change store)) :
      etiquette.writes (some (seat.driver .encounter)) change :=
    @writes _ _ _ _ _ courteous (some .encounter) _ alters
  intro store
  refine ⟨writes fun store => (Alters.refl store).modify fun _ => .enter _, ?_, ?_, courteous.handsOver,
    courteous.decorous_script _ _ _, trivial⟩
  · exact writes fun store => (Alters.refl store).epilogue _ reaches
  · exact writes fun store => (Alters.refl store).recordEpilogue _ reaches

theorem composes_scene (courteous : seat.Courteous etiquette) (kind : SceneKind) :
    (seat.interpreter kind : Playthrough.Seat Store Driver Procedure Answer).Composes fun program =>
      program.Decorous etiquette (some (seat.driver (roleOf kind))) := by
  have own := reaches_self (roleOf kind)
  have writes {change : Store → Store}
      (alters : ∀ store, seat.Alters (some (roleOf kind)) store (change store)) :
      etiquette.writes (some (seat.driver (roleOf kind))) change :=
    @writes _ _ _ _ _ courteous (some (roleOf kind)) _ alters
  have modifies {change : Interpreter → Interpreter}
      (same : ∀ interpreter, (change interpreter).scenario = interpreter.scenario) :
      etiquette.writes (some (seat.driver (roleOf kind)))
        ((seat.interpreter kind : Playthrough.Seat Store Driver Procedure Answer).modify change) :=
    writes fun store => (Alters.refl store).interpreter same own
  exact
    { stop := trivial
      fail := fun _ => trivial
      look := fun _ _ goesOn => goesOn
      check := fun goesOn => goesOn
      pause := fun _ _ goesOn => ⟨nofun, goesOn⟩
      record := fun event _ goesOn => ⟨writes fun store => (Alters.refl store).record event own, goesOn⟩
      modify := fun _ _ stays goesOn => ⟨modifies stays.scenario, goesOn⟩
      warn := fun warning _ goesOn => ⟨writes fun store => (Alters.refl store).warn warning, goesOn⟩
      hold := fun _ _ goesOn => ⟨modifies fun _ => rfl, ⟨nofun, trivial⟩,
        ⟨(seat.interpreter kind : Playthrough.Seat Store Driver Procedure Answer).modify
          fun interpreter => interpreter.setSuspended false, modifies fun _ => rfl, rfl⟩, goesOn⟩
      walk := ⟨modifies fun _ => rfl, courteous.walks kind, trivial⟩
      offers := fun _ => ⟨modifies fun _ => rfl, modifies fun _ => rfl, trivial⟩
      onFinish := by
        cases kind with
        | text => trivial
        | encounter => exact courteous.decorous_finishEncounter }

theorem decorous_walk (courteous : seat.Courteous etiquette) (kind : SceneKind) :
    (seat.interpreter kind : Playthrough.Seat Store Driver Procedure Answer).walkBody.Decorous etiquette
      (some (seat.driver (roleOf kind))) :=
  (courteous.composes_scene kind).walkBody

/-- Whatever a driver is given to play keeps to the manners. -/
theorem decorous_of_performs (courteous : seat.Courteous etiquette) {role : Role}
    {body : Program Store Driver Procedure Answer} (performs : seat.Performs role body) :
    body.Decorous etiquette (some (seat.driver role)) := by
  cases performs with
  | scene kind => exact (courteous.composes_scene kind).openScene ⟨courteous.walks kind, trivial⟩
  | branch kind choice =>
      have composes := @composes_scene _ _ _ Answer _ _ courteous kind
      refine composes.resume choice ⟨?_, ?_⟩
      · exact @writes _ _ _ _ _ courteous (some (roleOf kind)) _ fun store =>
          (Alters.refl store).modify fun _ =>
            .modifyInterpreter (fun _ => rfl) (reaches_self (roleOf kind))
      intro store
      dsimp only
      split
      · split
        · exact composes.pause _ composes.becomesReady
        · exact ⟨courteous.walks kind, trivial⟩
      · exact ⟨courteous.walks kind, trivial⟩
  | ending preferences ending tier => exact courteous.decorous_script preferences ending tier

/-! ### Operations -/

theorem composes_decorous (courteous : seat.Courteous etiquette) :
    seat.Composes fun program : Program Store Driver Procedure Answer => program.Decorous etiquette none where
  look _ goesOn := goesOn
  update _ _ alters goesOn := ⟨@writes _ _ _ _ _ courteous none _ alters, goesOn⟩
  cancel _ _ goesOn := ⟨rfl, goesOn⟩
  settle goesOn := ⟨rfl, goesOn⟩
  spawn performs goesOn := ⟨courteous.hands _, courteous.decorous_of_performs performs, goesOn⟩

end Seat.Courteous

end Playthrough.Session
