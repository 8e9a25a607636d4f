import Playthrough.Proofs.Session.Renewal
import Playthrough.Proofs.Session.Resemblance

/-!
Contract: a play-through that was restarted is like a new one.

Owns: how far such play-throughs are alike (`Resembles`), that nothing that can be asked of them, and none of
their drivers, can tell them apart, and that they answer and show the same from then on.

Does not own: what a restart leaves, and how much of a play-through its programs look at.

Listeners and reports remember what was before. No program looks at them.
-/

namespace Playthrough.Session.Alone

/-! ## Play-throughs that are alike -/

/-- What was given to listeners and reported, before another one was made, and by the making of it. -/
structure Before where
  deliveries : List (Role × SceneEvent)
  warnings : List Warning
  first : List Warning

/-- Two play-throughs show the same, and hold the same of all scenes that may be walked through. -/
structure Resembles (before : Before) (known : Set SceneKind) (store other : Alone) : Prop where
  endings : store.session.endings = other.session.endings
  preferences : store.session.preferences = other.session.preferences
  phase : store.session.phase = other.session.phase
  score : store.session.score = other.session.score
  epilogue : store.session.epilogue = other.session.epilogue
  scene : ∀ kind, SameScene known kind (store.session.interpreter kind) (other.session.interpreter kind)
  deliveries : store.deliveries = before.deliveries ++ other.deliveries
  warnings : ∃ more, store.warnings = before.warnings ++ more ∧ other.warnings = before.first ++ more

namespace Resembles

variable {before : Before} {known more : Set SceneKind} {store other : Alone}

theorem resembling (alike : Resembles before known store other) :
    Resembling known store.session other.session :=
  ⟨alike.endings, alike.preferences, alike.phase, alike.score, alike.epilogue, alike.scene⟩

/-- What was given to listeners and reported has nothing to do with the play-throughs. -/
theorem of_resembling {session otherSession : Session} (alike : Resembles before known store other)
    (same : Resembling more session otherSession) :
    Resembles before more { store with session := session } { other with session := otherSession } :=
  ⟨same.endings, same.preferences, same.phase, same.score, same.epilogue, same.scene, alike.deliveries,
    alike.warnings⟩

/-- They show the same. -/
theorem snapshot_eq (alike : Resembles before known store other) :
    store.session.snapshot = other.session.snapshot :=
  alike.resembling.snapshot_eq

theorem warn (alike : Resembles before known store other) (warning : Warning) :
    Resembles before known (seat.warn warning store) (seat.warn warning other) := by
  obtain ⟨added, told, otherTold⟩ := alike.warnings
  refine { alike with warnings := ⟨added ++ [warning], ?_, ?_⟩ }
  · exact (congrArg (· ++ [warning]) told).trans (List.append_assoc _ _ _)
  · exact (congrArg (· ++ [warning]) otherTold).trans (List.append_assoc _ _ _)

theorem deliver (alike : Resembles before known store other) (role : Role) (event : SceneEvent) :
    Resembles before known (seat.deliver role event store) (seat.deliver role event other) :=
  { alike with
    deliveries := (congrArg (· ++ [(role, event)]) alike.deliveries).trans (List.append_assoc _ _ _) }

end Resembles

/-- How far play-throughs are alike, as a guise. -/
def guise (before : Before) : Guise Alone SceneKind where
  like := Resembles before
  weaker further alike := alike.of_resembling (alike.resembling.weaker further)
  both alike also := alike.of_resembling (alike.resembling.both also.resembling)

/-! ## Nobody can tell them apart -/

section Discreet

variable {known : Set SceneKind}

theorem conceals (before : Before) : seat.Conceals (guise before) where
  walk _ := rfl
  resembling := Resembles.resembling
  regards alike same := Resembles.of_resembling alike same
  modify _ alike same := Resembles.of_resembling alike same
  deliver role event alike := Resembles.deliver alike role event
  warn warning alike := Resembles.warn alike warning

theorem machine_discreet (before : Before) : machine.Discreet (guise before) where
  body kind := (conceals before).walkBody kind
  shown known store other alike := by
    show store.session.text.shown ++ store.session.encounter.shown =
      other.session.text.shown ++ other.session.encounter.shown
    have text : store.session.text.shown = other.session.text.shown :=
      (Resembles.scene alike .text).snapshot_eq.2
    have encounter : store.session.encounter.shown = other.session.encounter.shown :=
      (Resembles.scene alike .encounter).snapshot_eq.2
    rw [text, encounter]

/-- Whatever is asked of them, they do the same. -/
theorem Demand.discreet (demand : Demand) (before : Before) :
    demand.plan.Discreet (guise before) known := by
  have conceals := conceals before
  cases demand with
  | addPoints points =>
      exact .update (fun _ _ _ _ alike => conceals.modify _ alike ((conceals.resembling alike).award points)) trivial
  | finishEncounter => exact conceals.finishEncounter trivial
  | close => trivial
  | operation asked =>
      cases asked with
      | begin => exact conceals.begin fun _ => trivial
      | triggerTransition => exact conceals.triggerTransition trivial fun _ => trivial
      | beginEncounter => exact conceals.beginEncounter trivial fun _ => trivial
      | select id => exact conceals.select id (fun _ => trivial) fun _ => trivial
      | settle => trivial
      | restart again => exact conceals.restart again trivial

end Discreet

end Playthrough.Session.Alone
