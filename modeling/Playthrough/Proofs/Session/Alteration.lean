import Playthrough.Session.Operations

/-!
Contract: what drivers and operations change of a play-through.

Owns: which parts of a play-through whoever is made by a driver may change (`Reaches`, `Permits`), and the
changes that the programs of a seat make of their world (`Seat.Alters`).

Does not own: what else is in that world.

Each driver changes its own part of the play-through; the encounter may also enter the epilogue. Nobody
changes which scenes a play-through has.
-/

namespace Playthrough.Session

/-! ## The parts of a play-through -/

/-- Which parts of a play-through whoever a driver made may change; an operation may change all. -/
def Reaches : Option Role → Role → Prop
  | none, _ => True
  | some driver, role => driver = role ∨ driver = .encounter ∧ role = .epilogue

theorem reaches_outside (role : Role) : Reaches none role := trivial

theorem reaches_self (role : Role) : Reaches (some role) role := .inl rfl

/-- The part of a play-through that is a driver's own is the same. -/
def SamePart (before after : Session) : Role → Prop
  | .text => after.text = before.text
  | .encounter => after.encounter = before.encounter
  | .epilogue => after.epilogue = before.epilogue

theorem SamePart.of_same {session later : Session} (same : later = session) (role : Role) :
    SamePart session later role := by
  subst same
  cases role <;> rfl

/-- What whoever a driver made leaves of a play-through. -/
structure Permits (owner : Option Role) (before after : Session) : Prop where
  endings : after.endings = before.endings
  scenario : ∀ kind, (after.interpreter kind).scenario = (before.interpreter kind).scenario
  preferences : owner ≠ none → after.preferences = before.preferences
  parts : ∀ role, ¬Reaches owner role → SamePart before after role

namespace Permits

variable {owner : Option Role} {session before after : Session}

theorem refl (session : Session) : Permits owner session session :=
  ⟨rfl, fun _ => rfl, fun _ => rfl, fun role _ => by cases role <;> rfl⟩

theorem trans {between : Session} (former : Permits owner before between)
    (latter : Permits owner between after) : Permits owner before after := by
  refine ⟨latter.endings.trans former.endings, fun kind => (latter.scenario kind).trans (former.scenario kind),
    fun outside => (latter.preferences outside).trans (former.preferences outside), ?_⟩
  intro role unreached
  have first := former.parts role unreached
  have second := latter.parts role unreached
  cases role <;> exact Eq.trans second first

theorem enter (phase : Phase) : Permits owner session (session.enter phase) :=
  ⟨rfl, fun kind => by cases kind <;> rfl, fun _ => rfl, fun role _ => by cases role <;> rfl⟩

theorem award (points : Int) : Permits owner session (session.award points) :=
  ⟨rfl, fun kind => by cases kind <;> rfl, fun _ => rfl, fun role _ => by cases role <;> rfl⟩

theorem restarted (preferences : Option Preferences) :
    Permits none session (session.restarted preferences) :=
  ⟨rfl, fun kind => by cases kind <;> rfl, fun outside => absurd rfl outside,
    fun _ unreached => absurd trivial unreached⟩

theorem modifyEpilogue (change : Epilogue → Epilogue) (reaches : Reaches owner .epilogue) :
    Permits owner session (session.modifyEpilogue change) := by
  refine ⟨rfl, fun kind => by cases kind <;> rfl, fun _ => rfl, ?_⟩
  intro role unreached
  cases role with
  | text => rfl
  | encounter => rfl
  | epilogue => exact absurd reaches unreached

theorem modifyInterpreter {kind : SceneKind} {change : Interpreter → Interpreter}
    (same : ∀ interpreter, (change interpreter).scenario = interpreter.scenario)
    (reaches : Reaches owner (roleOf kind)) :
    Permits owner session (session.modifyInterpreter kind change) := by
  refine ⟨?_, ?_, ?_, ?_⟩
  · cases kind <;> rfl
  · intro other
    cases kind <;> cases other <;> first | rfl | exact same _
  · intro _
    cases kind <;> rfl
  · intro role unreached
    cases kind <;> cases role <;> first | rfl | exact absurd reaches unreached

end Permits

/-! ## The changes of a world -/

namespace Seat

variable {Store Driver Procedure Answer : Type} {seat : Seat Store Driver Procedure}
variable {owner : Option Role} {store before after : Store}

/-- What the programs of a seat make of a store: they change the play-through as far as they may, give
events to listeners and report warnings. -/
inductive Alters (seat : Seat Store Driver Procedure) (owner : Option Role) : Store → Store → Prop where
  | refl (store : Store) : Alters seat owner store store
  | modify {before after : Store} {change : Session → Session} (alters : Alters seat owner before after)
      (permits : ∀ session, Permits owner session (change session)) :
      Alters seat owner before (seat.modify change after)
  | deliver {before after : Store} (role : Role) (event : SceneEvent) (alters : Alters seat owner before after) :
      Alters seat owner before (seat.deliver role event after)
  | warn {before after : Store} (warning : Warning) (alters : Alters seat owner before after) :
      Alters seat owner before (seat.warn warning after)

namespace Alters

theorem interpreter {kind : SceneKind} {change : Interpreter → Interpreter}
    (alters : seat.Alters owner before after)
    (same : ∀ interpreter, (change interpreter).scenario = interpreter.scenario)
    (reaches : Reaches owner (roleOf kind)) :
    seat.Alters owner before
      ((seat.interpreter kind : Playthrough.Seat Store Driver Procedure Answer).modify change after) :=
  alters.modify fun _ => .modifyInterpreter same reaches

theorem record {kind : SceneKind} (event : SceneEvent) (alters : seat.Alters owner before after)
    (reaches : Reaches owner (roleOf kind)) :
    seat.Alters owner before
      ((seat.interpreter kind : Playthrough.Seat Store Driver Procedure Answer).record event after) :=
  (alters.modify fun _ =>
    .modifyInterpreter (fun interpreter => Interpreter.scenario_record interpreter event) reaches).deliver _ _

theorem epilogue (change : Epilogue → Epilogue) (alters : seat.Alters owner before after)
    (reaches : Reaches owner .epilogue) : seat.Alters owner before (seat.epilogue.modify change after) :=
  alters.modify fun _ => .modifyEpilogue change reaches

theorem recordEpilogue (event : SceneEvent) (alters : seat.Alters owner before after)
    (reaches : Reaches owner .epilogue) : seat.Alters owner before (seat.epilogue.record event after) :=
  (alters.modify fun _ => .modifyEpilogue (fun epilogue => epilogue.record event) reaches).deliver _ _

/-- The header of a scene is recorded line by line. -/
theorem recordHeader (kind : SceneKind) (interpreter : Interpreter) (store : Store) :
    seat.Alters none store
      ((seat.interpreter kind : Playthrough.Seat Store Driver Procedure Answer).recordHeader interpreter
        store) := by
  have lines : ∀ (lines : List (EventKind × Localized)) (reached : Store), seat.Alters none store reached →
      seat.Alters none store (lines.foldl (fun reached line =>
        (seat.interpreter kind : Playthrough.Seat Store Driver Procedure Answer).record
          (.plain line.1 (interpreter.say line.2)) reached) reached) := by
    intro lines
    induction lines with
    | nil => exact fun _ alters => alters
    | cons line lines inductionHypothesis =>
        exact fun reached alters => inductionHypothesis _ (alters.record _ (reaches_outside _))
  exact lines _ store (.refl store)

theorem applyChoice (kind : SceneKind) (offer : Offer) (nodeId : String) (choice : Option Choice)
    (store : Store) :
    seat.Alters none store
      ((seat.interpreter kind : Playthrough.Seat Store Driver Procedure Answer).applyChoice offer nodeId choice
        store) := by
  have told : seat.Alters none store
      (seat.modify (Session.award offer.points)
        ((seat.interpreter kind : Playthrough.Seat Store Driver Procedure Answer).record
          (.plain .player offer.text) store)) :=
    ((Alters.refl store).record _ (reaches_outside _)).modify fun _ => .award _
  cases choice with
  | none => exact told.warn _
  | some choice => exact told

end Alters

end Seat

end Playthrough.Session
