import Playthrough.Proofs.Session.Courtesy
import Playthrough.Proofs.Session.Players
import Playthrough.Proofs.Session.Usage
import Playthrough.Proofs.Task.Attendance

/-!
Contract: everything that can be asked of a play-through.

Owns: the operations on a play-through with those that give points and end the encounter from outside
(`Demand`), the worlds that come about when they follow one another in any order (`Ranges`), what drivers
and operations may change (`manners`), and that all programs of a play-through keep to that.

Does not own: what holds in these worlds.

The encounter's task starts the epilogue, and no other driver makes a task for anybody. Each driver changes
its own part of the play-through; the encounter may also enter the epilogue.
-/

namespace Playthrough.Session.Alone

/-! ## What can be asked for -/

/-- What can be asked of a play-through, at any time. -/
inductive Demand where
  | operation (asked : Operation)
  | addPoints (points : Int)
  | finishEncounter
  | close

/-- The program of what is asked for. -/
def Demand.plan : Demand → Plan
  | .operation asked => asked.plan
  | .addPoints points => Alone.addPoints points
  | .finishEncounter => Alone.finishEncounter
  | .close => Alone.close

/-- The worlds that come about when a play-through of two scenes is asked for anything, one thing after the
other, with the operation that has not completed. -/
inductive Ranges (textScene : Option TextScene) (encounterScene : Option EncounterScene)
    (preferences : Preferences) : Option TaskId → Setting → Prop where
  | construct : Ranges textScene encounterScene preferences none
      (World.initial (initial textScene encounterScene preferences))
  | begin {world : Setting} (demand : Demand)
      (before : Ranges textScene encounterScene preferences none world) (noTurn : world.running = none) :
      Ranges textScene encounterScene preferences (some world.tasks.length) (world.begin demand.plan).2
  | step {flight : Option TaskId} {world : Setting}
      (before : Ranges textScene encounterScene preferences flight world) :
      Ranges textScene encounterScene preferences flight (world.step machine)
  | release {flight : Option TaskId} {world released : Setting}
      (before : Ranges textScene encounterScene preferences flight world) (noTurn : world.running = none)
      (position : Nat) (wait : world.release? position = some released) :
      Ranges textScene encounterScene preferences flight released
  | complete {id : TaskId} {world : Setting} {outcome : Outcome Reply}
      (before : Ranges textScene encounterScene preferences (some id) world)
      (noTurn : world.running = none) (ended : world.outcome? id = some outcome) :
      Ranges textScene encounterScene preferences none world

/-! ## What may be changed -/

/-- What drivers and operations may do. -/
def manners : Etiquette Alone Role SceneKind where
  writes owner change := ∀ store, Permits owner store.session (change store).session
  calls owner kind := owner = some (roleOf kind)
  hands owner role := owner = none ∨ owner = some .encounter ∧ role = .epilogue
  hands_other role allowed := by
    rcases allowed with impossible | ⟨same, rfl⟩
    · cases impossible
    · cases same

/-- What the programs of a play-through make of its world leaves what it has to. -/
theorem permits_of_alters {owner : Option Role} {before after : Alone}
    (alters : seat.Alters owner before after) :
    Permits owner before.session after.session := by
  induction alters with
  | refl => exact .refl _
  | modify _ permits inductionHypothesis => exact inductionHypothesis.trans (permits _)
  | deliver _ _ _ inductionHypothesis => exact inductionHypothesis
  | warn _ _ inductionHypothesis => exact inductionHypothesis

/-- These manners admit the play-through. -/
theorem courteous : seat.Courteous manners where
  writes alters store := by
    have permits := permits_of_alters (alters store)
    rwa [show seat.driver = id from rfl, Option.map_id]
  walks _ := rfl
  hands _ := .inl rfl
  handsOver := .inr ⟨rfl, rfl⟩

theorem machine_decorous : machine.Decorous manners := by
  rintro owner kind rfl
  exact courteous.decorous_walk kind

/-- Whatever is asked for does what operations may do. -/
theorem Demand.decorous (demand : Demand) : demand.plan.Decorous manners none := by
  have composes : seat.Composes fun program : Plan => program.Decorous manners none :=
    courteous.composes_decorous
  cases demand with
  | addPoints points => exact composes.modify (fun _ => .award points) trivial
  | finishEncounter => exact composes.finishEncounter trivial
  | close => exact composes.close trivial
  | operation asked =>
      cases asked with
      | begin => exact composes.begin trivial
      | settle => exact composes.settle trivial
      | restart preferences => exact composes.restart preferences trivial
      | triggerTransition => exact composes.triggerTransition trivial trivial
      | beginEncounter => exact composes.beginEncounter trivial trivial
      | select id => exact composes.select id trivial trivial

/-! ## What holds of every such world -/

/-- What is asked of a play-through comes one after the other. -/
theorem Ranges.attended {textScene : Option TextScene} {encounterScene : Option EncounterScene}
    {preferences : Preferences} {flight : Option TaskId} {world : Setting}
    (ranges : Ranges textScene encounterScene preferences flight world) :
    world.Attended manners flight := by
  induction ranges with
  | construct => exact .initial _
  | begin demand _ noTurn inductionHypothesis => exact inductionHypothesis.begin noTurn demand.decorous
  | step _ inductionHypothesis => exact inductionHypothesis.step machine_decorous
  | release _ _ _ wait inductionHypothesis => exact inductionHypothesis.release? wait
  | complete _ _ ended inductionHypothesis => exact inductionHypothesis.complete ended

/-- No move changes which scenes and endings a play-through has. -/
theorem constant_of_leads {before after : Setting} (leads : before.Leads manners after) :
    after.store.session.endings = before.store.session.endings
      ∧ ∀ kind, (after.store.session.interpreter kind).scenario =
        (before.store.session.interpreter kind).scenario := by
  rcases leads.store with same | ⟨_, owner, change, -, -, writes, changed⟩
  · rw [same]
    exact ⟨rfl, fun _ => rfl⟩
  · rw [changed]
    exact ⟨(writes before.store).endings, (writes before.store).scenario⟩

/-- Nothing ever changes which scenes and endings a play-through has. -/
theorem Ranges.constant {textScene : Option TextScene} {encounterScene : Option EncounterScene}
    {preferences : Preferences} {flight : Option TaskId} {world : Setting}
    (ranges : Ranges textScene encounterScene preferences flight world) :
    world.store.session.endings = (Session.initial textScene encounterScene preferences).endings
      ∧ ∀ kind, (world.store.session.interpreter kind).scenario =
        ((Session.initial textScene encounterScene preferences).interpreter kind).scenario := by
  induction ranges with
  | construct => exact ⟨rfl, fun _ => rfl⟩
  | begin _ _ _ inductionHypothesis => exact inductionHypothesis
  | complete _ _ _ inductionHypothesis => exact inductionHypothesis
  | step before inductionHypothesis =>
      obtain ⟨endings, scenario⟩ := constant_of_leads (before.attended.leads machine_decorous)
      exact ⟨endings.trans inductionHypothesis.1,
        fun kind => (scenario kind).trans (inductionHypothesis.2 kind)⟩
  | release before _ _ wait inductionHypothesis =>
      obtain ⟨endings, scenario⟩ :=
        constant_of_leads (World.leads_of_release before.attended.balanced wait)
      exact ⟨endings.trans inductionHypothesis.1,
        fun kind => (scenario kind).trans (inductionHypothesis.2 kind)⟩

end Playthrough.Session.Alone
