import Playthrough.Proofs.Interpreter.Lasting
import Playthrough.Proofs.Session.Players

/-!
Contract: what lasts of a play-through while nothing more is asked for.

Owns: the relation that every driver of a play-through keeps to (`Outlasts`).

Does not own: what operations do.

Drivers add to the logs of the scenes, and an encounter that ends enters the epilogue. They neither
give points nor begin a scene.
-/

namespace Playthrough.Session.Alone

/-- What lasts of a play-through: the score, the preferences, the phase until the epilogue, and the logs
of the scenes, which are only added to. -/
structure Outlasts (before after : Alone) : Prop where
  score : after.session.score = before.session.score
  preferences : after.session.preferences = before.session.preferences
  phase : after.session.phase = before.session.phase ∨ after.session.phase = .epilogue
  events : ∀ kind, (before.session.interpreter kind).events <+: (after.session.interpreter kind).events

namespace Outlasts

theorem refl (store : Alone) : Outlasts store store :=
  ⟨rfl, rfl, .inl rfl, fun _ => List.prefix_rfl⟩

theorem trans (first second third : Alone) (former : Outlasts first second)
    (latter : Outlasts second third) : Outlasts first third := by
  refine ⟨latter.score.trans former.score, latter.preferences.trans former.preferences, ?_, ?_⟩
  · rcases latter.phase with same | epilogue
    · rw [same]
      exact former.phase
    · exact .inr epilogue
  · intro kind
    exact (former.events kind).trans (latter.events kind)

/-- A change that leaves the play-through alone. -/
theorem of_same {before after : Alone} (same : after.session = before.session) :
    Outlasts before after := by
  obtain ⟨session, deliveries, warnings⟩ := after
  subst same
  exact ⟨rfl, rfl, .inl rfl, fun _ => List.prefix_rfl⟩

/-- A change of the interpreter of a scene that only adds to its log. -/
theorem of_modify {kind : SceneKind} {change : Interpreter → Interpreter} {before after : Alone}
    (same : after.session = before.session.modifyInterpreter kind change)
    (grows : (before.session.interpreter kind).events <+:
      (change (before.session.interpreter kind)).events) : Outlasts before after := by
  obtain ⟨session, deliveries, warnings⟩ := after
  subst same
  cases kind with
  | text =>
      refine ⟨rfl, rfl, .inl rfl, ?_⟩
      intro other
      cases other with
      | text => exact grows
      | encounter => exact List.prefix_rfl
  | encounter =>
      refine ⟨rfl, rfl, .inl rfl, ?_⟩
      intro other
      cases other with
      | text => exact List.prefix_rfl
      | encounter => exact grows

/-- A change of the epilogue. -/
theorem of_modifyEpilogue {change : Epilogue → Epilogue} {before after : Alone}
    (same : after.session = before.session.modifyEpilogue change) : Outlasts before after := by
  obtain ⟨session, deliveries, warnings⟩ := after
  subst same
  refine ⟨rfl, rfl, .inl rfl, ?_⟩
  intro kind
  cases kind <;> exact List.prefix_rfl

end Outlasts

/-! ## The drivers -/

theorem outlasts_modifyEpilogue (change : Epilogue → Epilogue) (store : Alone) :
    Outlasts store (seat.epilogue.modify change store) := by
  have same : (seat.epilogue.modify change store).session = store.session.modifyEpilogue change := rfl
  exact .of_modifyEpilogue same

theorem outlasts_record (event : SceneEvent) (store : Alone) :
    Outlasts store (seat.epilogue.record event store) := by
  have same : (seat.epilogue.record event store).session =
      store.session.modifyEpilogue fun epilogue => epilogue.record event := rfl
  exact .of_modifyEpilogue same

theorem within_script (preferences : Preferences) (ending : Ending) (tier : Option Tier) :
    (seat.epilogue.script preferences ending tier : Plan).Follows (.within Outlasts) := by
  have texts : ∀ texts : List Localized,
      (seat.epilogue.playTexts preferences tier
        (.pause Epilogue.closingBeat (.update (seat.epilogue.modify Epilogue.complete) .stop)) texts :
          Plan).Follows (.within Outlasts) := by
    intro texts
    induction texts with
    | nil => exact ⟨outlasts_modifyEpilogue _, trivial⟩
    | cons text texts inductionHypothesis => exact ⟨outlasts_record _, inductionHypothesis⟩
  exact texts ending.texts

theorem within_finishEncounter : (seat.finishEncounter .stop : Plan).Follows (.within Outlasts) := by
  refine ⟨trivial, ?_⟩
  intro store
  refine ⟨?_, outlasts_modifyEpilogue _, outlasts_record _, within_script _ _ _, trivial⟩
  intro store
  refine ⟨rfl, rfl, .inr rfl, ?_⟩
  intro kind
  cases kind <;> exact List.prefix_rfl

theorem keeps_sceneSeat (kind : SceneKind) : (sceneSeat kind).Keeps (.within Outlasts) where
  look _ _ := trivial
  record event store := by
    have same : ((sceneSeat kind).record event store).session =
        store.session.modifyInterpreter kind fun interpreter => interpreter.record event := rfl
    exact .of_modify same (List.prefix_append _ _)
  modify change onward store := by
    have same : ((sceneSeat kind).modify change store).session =
        store.session.modifyInterpreter kind change := rfl
    exact .of_modify same ((onward.events _).symm ▸ List.prefix_rfl)
  warn warning store := .of_same rfl
  onFinish := by
    cases kind with
    | text => trivial
    | encounter => exact within_finishEncounter

theorem within_machine : machine.Follows (.within Outlasts) :=
  fun kind => (keeps_sceneSeat kind).walkBody

/-- What lasts of a play-through in which drivers go on, and nobody else. -/
theorem Outlasts.of_unattended {world after : Setting}
    (unattended : World.Unattended machine world after) (balanced : world.Balanced)
    (drivers : ∀ id task, world.outline.tasks id = some task → task.Follows (.within Outlasts)) :
    Outlasts world.store after.store :=
  unattended.stays .refl .trans within_machine balanced (.of_outline drivers)

end Playthrough.Session.Alone
