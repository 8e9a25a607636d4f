import Playthrough.Proofs.Session.Courtesy
import Playthrough.Proofs.Task.Discretion

/-!
Contract: how much of a play-through its programs look at.

Owns: how far two play-throughs are alike (`Session.Resembling`), the worlds in which that is all that programs
can see of them (`Session.Seat.Conceals`), and that there everything that can be done to a play-through does the
same to both.

Does not own: why two play-throughs are alike, and which operations there are.

The only thing in which they may differ are the preferences that a scene was played with. Nobody looks at them
before the scene is begun again, and that replaces them.
-/

namespace Playthrough.Session

/-! ## Play-throughs that are alike -/

/-- Two interpreters are the same, or neither has played since it was reset. -/
def Alone.SameScene (known : Set SceneKind) (kind : SceneKind) (interpreter other : Interpreter) : Prop :=
  interpreter = other ∨ kind ∉ known ∧ interpreter.reset = interpreter ∧ other.reset = other
    ∧ interpreter.scenario = other.scenario

namespace Alone.SameScene

variable {known more : Set SceneKind} {kind : SceneKind} {interpreter other : Interpreter}

theorem eq (same : SameScene known kind interpreter other) (inside : kind ∈ known) :
    interpreter = other :=
  same.resolve_right fun apart => apart.1 inside

theorem weaker (further : known ⊆ more) (same : SameScene more kind interpreter other) :
    SameScene known kind interpreter other :=
  same.imp_right fun apart => ⟨fun inside => apart.1 (further inside), apart.2⟩

theorem both (same : SameScene known kind interpreter other)
    (also : SameScene more kind interpreter other) : SameScene (known ∪ more) kind interpreter other := by
  rcases same with equal | apart
  · exact .inl equal
  · rcases also with equal | alsoApart
    · exact .inl equal
    · exact .inr ⟨fun inside => inside.elim apart.1 alsoApart.1, apart.2⟩

/-- An interpreter that has played is the same in both. -/
theorem eq_of_played (same : SameScene known kind interpreter other)
    (played : interpreter.reset ≠ interpreter) : interpreter = other :=
  same.resolve_right fun apart => played apart.2.1

/-- What such interpreters show is the same. -/
theorem snapshot_eq (same : SameScene known kind interpreter other) :
    interpreter.snapshot = other.snapshot ∧ interpreter.shown = other.shown := by
  rcases same with equal | ⟨-, unplayed, otherUnplayed, -⟩
  · rw [equal]
    exact ⟨rfl, rfl⟩
  · rw [← unplayed, ← otherUnplayed]
    exact ⟨rfl, rfl⟩

/-- A scene that is begun is the same in both from then on. -/
theorem begin_eq (same : SameScene known kind interpreter other) (preferences : Preferences) :
    interpreter.begin preferences = other.begin preferences := by
  rcases same with equal | ⟨-, unplayed, otherUnplayed, scenario⟩
  · rw [equal]
  · rw [← unplayed, ← otherUnplayed, Interpreter.reset, Interpreter.reset, scenario]
    rfl

theorem reset (same : SameScene known kind interpreter other) :
    SameScene known kind interpreter.reset other.reset :=
  same.imp (congrArg Interpreter.reset) fun apart => ⟨apart.1, rfl, rfl, apart.2.2.2⟩

end Alone.SameScene

/-- Two play-throughs show the same, and hold the same of all scenes that may be walked through. -/
structure Resembling (known : Set SceneKind) (session other : Session) : Prop where
  endings : session.endings = other.endings
  preferences : session.preferences = other.preferences
  phase : session.phase = other.phase
  score : session.score = other.score
  epilogue : session.epilogue = other.epilogue
  scene : ∀ kind, Alone.SameScene known kind (session.interpreter kind) (other.interpreter kind)

namespace Resembling

variable {known more : Set SceneKind} {session other : Session} {kind : SceneKind}

theorem weaker (further : known ⊆ more) (alike : Resembling more session other) :
    Resembling known session other :=
  { alike with scene := fun kind => (alike.scene kind).weaker further }

theorem both (alike : Resembling known session other) (also : Resembling more session other) :
    Resembling (known ∪ more) session other :=
  { alike with scene := fun kind => (alike.scene kind).both (also.scene kind) }

theorem interpreter_eq (alike : Resembling known session other) (inside : kind ∈ known) :
    session.interpreter kind = other.interpreter kind :=
  (alike.scene kind).eq inside

theorem tier_eq (alike : Resembling known session other) : session.tier = other.tier := by
  rw [Session.tier, Session.tier, alike.endings, alike.score]

theorem earnedEnding_eq (alike : Resembling known session other) : session.earnedEnding = other.earnedEnding := by
  rw [Session.earnedEnding, Session.earnedEnding, alike.tier_eq, alike.endings]

theorem currentKind_eq (alike : Resembling known session other) : session.currentKind? = other.currentKind? := by
  rw [Session.currentKind?, Session.currentKind?, alike.phase]

/-- They show the same. -/
theorem snapshot_eq (alike : Resembling known session other) : session.snapshot = other.snapshot := by
  have text := (alike.scene .text).snapshot_eq.1
  have encounter := (alike.scene .encounter).snapshot_eq.1
  simp only [Session.interpreter] at text encounter
  simp only [Session.snapshot, alike.phase, alike.score, alike.preferences, alike.epilogue, text, encounter]

/-- A scene that has been played is the same in both, and may be walked through. -/
theorem knows (alike : Resembling known session other)
    (played : (session.interpreter kind).reset ≠ session.interpreter kind) :
    Resembling {kind} session other := by
  refine { alike with scene := ?_ }
  intro another
  by_cases same : another = kind
  · subst same
    exact .inl ((alike.scene another).eq_of_played played)
  · rcases alike.scene another with equal | apart
    · exact .inl equal
    · exact .inr ⟨same, apart.2⟩

/-! ### What keeps them alike -/

theorem enter (alike : Resembling known session other) (phase : Phase) :
    Resembling known (session.enter phase) (other.enter phase) :=
  { alike with
    phase := rfl
    scene := fun kind => by cases kind <;> exact alike.scene _ }

theorem award (alike : Resembling known session other) (points : Int) :
    Resembling known (session.award points) (other.award points) :=
  { alike with
    score := congrArg (· + points) alike.score
    scene := fun kind => by cases kind <;> exact alike.scene _ }

theorem restarted (alike : Resembling known session other) (again : Option Preferences) :
    Resembling known (session.restarted again) (other.restarted again) :=
  { alike with
    preferences := congrArg again.getD alike.preferences
    phase := rfl
    score := rfl
    scene := fun kind => by cases kind <;> exact alike.scene _ }

theorem modifyEpilogue (alike : Resembling known session other) (change : Epilogue → Epilogue) :
    Resembling known (Session.modifyEpilogue change session) (Session.modifyEpilogue change other) :=
  { alike with
    epilogue := congrArg change alike.epilogue
    scene := fun kind => by cases kind <;> exact alike.scene _ }

/-- A change of one scene keeps them alike if it comes to the same in both. -/
theorem modifyInterpreter (alike : Resembling known session other) {change : Interpreter → Interpreter}
    (same : Alone.SameScene known kind (change (session.interpreter kind)) (change (other.interpreter kind))) :
    Resembling known (session.modifyInterpreter kind change) (other.modifyInterpreter kind change) := by
  have others := alike.scene
  cases kind with
  | text =>
      refine { alike with scene := fun another => ?_ }
      cases another with
      | text => exact same
      | encounter => exact others .encounter
  | encounter =>
      refine { alike with scene := fun another => ?_ }
      cases another with
      | text => exact others .text
      | encounter => exact same

/-- A scene that is begun is the same in both from then on. -/
theorem begins (alike : Resembling known session other) (preferences : Preferences) :
    Resembling (known ∪ {kind})
      (session.modifyInterpreter kind fun interpreter => interpreter.begin preferences)
      (other.modifyInterpreter kind fun interpreter => interpreter.begin preferences) := by
  let change : Interpreter → Interpreter := fun interpreter => interpreter.begin preferences
  have equal : change (session.interpreter kind) = change (other.interpreter kind) :=
    (alike.scene kind).begin_eq preferences
  have changed := alike.modifyInterpreter (.inl equal)
  refine changed.both { changed with scene := ?_ }
  intro another
  by_cases same : another = kind
  · subst same
    left
    rw [interpreter_modifyInterpreter, interpreter_modifyInterpreter, equal]
  · exact (changed.scene another).imp_right fun apart => ⟨same, apart.2⟩

end Resembling

/-! ## Worlds in which nobody sees more -/

namespace Seat

variable {Store Answer : Type}

/-- Whoever looks at a play-through in stores that are alike sees play-throughs that are, and what is done to
both keeps the stores alike. -/
structure Conceals (seat : Seat Store Role SceneKind) (guise : Guise Store SceneKind) : Prop where
  walk : ∀ kind, seat.walk kind = kind
  resembling : ∀ {known store other}, guise.like known store other →
    Resembling known (seat.get store) (seat.get other)
  regards : ∀ {known more store other}, guise.like known store other →
    Resembling more (seat.get store) (seat.get other) → guise.like more store other
  modify : ∀ {known more store other} (change : Session → Session), guise.like known store other →
    Resembling more (change (seat.get store)) (change (seat.get other)) →
      guise.like more (seat.modify change store) (seat.modify change other)
  deliver : ∀ {known store other} (role : Role) (event : SceneEvent), guise.like known store other →
    guise.like known (seat.deliver role event store) (seat.deliver role event other)
  warn : ∀ {known store other} (warning : Warning), guise.like known store other →
    guise.like known (seat.warn warning store) (seat.warn warning other)

namespace Conceals

variable {seat : Seat Store Role SceneKind} {guise : Guise Store SceneKind}
variable {known : Set SceneKind} {kind : SceneKind} {store other : Store}

/-! ### What keeps stores alike -/

theorem enter (conceals : seat.Conceals guise) (alike : guise.like known store other) (phase : Phase) :
    guise.like known (seat.modify (Session.enter phase) store) (seat.modify (Session.enter phase) other) :=
  conceals.modify _ alike ((conceals.resembling alike).enter phase)

theorem modifyEpilogue (conceals : seat.Conceals guise) (alike : guise.like known store other)
    (change : Epilogue → Epilogue) :
    guise.like known (seat.epilogue.modify change store) (seat.epilogue.modify change other) :=
  conceals.modify _ alike ((conceals.resembling alike).modifyEpilogue change)

theorem recordEpilogue (conceals : seat.Conceals guise) (alike : guise.like known store other)
    (event : SceneEvent) :
    guise.like known (seat.epilogue.record event store) (seat.epilogue.record event other) :=
  conceals.deliver .epilogue event (conceals.modifyEpilogue alike fun epilogue => epilogue.record event)

/-- A change of a scene that may be walked through. -/
theorem modifyScene (conceals : seat.Conceals guise) (alike : guise.like known store other)
    (inside : kind ∈ known) (change : Interpreter → Interpreter) :
    guise.like known (seat.modify (modifyInterpreter kind change) store)
      (seat.modify (modifyInterpreter kind change) other) :=
  conceals.modify _ alike ((conceals.resembling alike).modifyInterpreter
    (.inl (congrArg change ((conceals.resembling alike).interpreter_eq inside))))

variable (Answer) in
theorem record (conceals : seat.Conceals guise) (alike : guise.like known store other) (inside : kind ∈ known)
    (event : SceneEvent) :
    guise.like known ((seat.interpreter kind : Playthrough.Seat Store Role SceneKind Answer).record event store)
      ((seat.interpreter kind : Playthrough.Seat Store Role SceneKind Answer).record event other) :=
  conceals.deliver (roleOf kind) event (conceals.modifyScene alike inside fun interpreter => interpreter.record event)

variable (Answer) in
theorem recordHeader (conceals : seat.Conceals guise) (alike : guise.like known store other)
    (inside : kind ∈ known) :
    guise.like known
      ((seat.interpreter kind : Playthrough.Seat Store Role SceneKind Answer).recordHeader
        ((seat.get store).interpreter kind) store)
      ((seat.interpreter kind : Playthrough.Seat Store Role SceneKind Answer).recordHeader
        ((seat.get other).interpreter kind) other) := by
  have lines : ∀ (interpreter : Interpreter) (lines : List (EventKind × Localized)) (reached too : Store),
      guise.like known reached too →
      guise.like known
        (lines.foldl (fun reached line =>
          (seat.interpreter kind : Playthrough.Seat Store Role SceneKind Answer).record
            (.plain line.1 (interpreter.say line.2)) reached) reached)
        (lines.foldl (fun reached line =>
          (seat.interpreter kind : Playthrough.Seat Store Role SceneKind Answer).record
            (.plain line.1 (interpreter.say line.2)) reached) too) := by
    intro interpreter lines
    induction lines with
    | nil => exact fun _ _ alike => alike
    | cons line lines inductionHypothesis =>
        exact fun _ _ alike => inductionHypothesis _ _ (conceals.record _ alike inside _)
  rw [(conceals.resembling alike).interpreter_eq inside]
  exact lines _ _ store other alike

variable (Answer) in
theorem applyChoice (conceals : seat.Conceals guise) (alike : guise.like known store other)
    (inside : kind ∈ known) (offer : Offer) (nodeId : String) (choice : Option Choice) :
    guise.like known
      ((seat.interpreter kind : Playthrough.Seat Store Role SceneKind Answer).applyChoice offer nodeId choice store)
      ((seat.interpreter kind : Playthrough.Seat Store Role SceneKind Answer).applyChoice offer nodeId choice
        other) := by
  have recorded := conceals.record Answer alike inside (.plain .player offer.text)
  have told := conceals.modify (Session.award offer.points) recorded ((conceals.resembling recorded).award _)
  cases choice with
  | none => exact conceals.warn _ told
  | some _ => exact told

/-! ### Programs -/

theorem walks (conceals : seat.Conceals guise) (inside : kind ∈ known) :
    (seat.interpreter kind : Playthrough.Seat Store Role SceneKind Answer).walk ∈ known := by
  show seat.walk kind ∈ known
  rw [conceals.walk kind]
  exact inside

theorem update {change : Store → Store} {next : Program Store Role SceneKind Answer}
    (keeps : ∀ base store other, known ⊆ base → guise.like base store other →
      guise.like base (change store) (change other))
    (goesOn : next.Discreet guise known) :
    (Program.update change next).Discreet guise known :=
  .update keeps goesOn

theorem script (conceals : seat.Conceals guise) (preferences : Preferences) (ending : Ending)
    (tier : Option Tier) :
    (seat.epilogue.script preferences ending tier : Program Store Role SceneKind Answer).Discreet guise known := by
  have texts : ∀ texts : List Localized,
      (seat.epilogue.playTexts preferences tier
        (.pause Epilogue.closingBeat (.update (seat.epilogue.modify Epilogue.complete) .stop)) texts :
          Program Store Role SceneKind Answer).Discreet guise known := by
    intro texts
    induction texts with
    | nil => exact update (fun _ _ _ _ alike => conceals.modifyEpilogue alike _) trivial
    | cons text texts inductionHypothesis =>
        exact update (fun _ _ _ _ alike => conceals.recordEpilogue alike _) inductionHypothesis
  exact texts ending.texts

theorem finishEncounter (conceals : seat.Conceals guise) {next : Program Store Role SceneKind Answer}
    (goesOn : next.Discreet guise known) : (seat.finishEncounter next).Discreet guise known := by
  apply Program.Discreet.look
  · intro store other alike
    have same := conceals.resembling alike
    simp only [same.preferences, same.earnedEnding_eq, same.tier_eq]
  · intro store
    apply update fun _ _ _ _ alike => conceals.enter alike _
    apply update fun _ _ _ _ alike => conceals.modifyEpilogue alike _
    apply update fun _ _ _ _ alike => conceals.recordEpilogue alike _
    exact ⟨conceals.script _ _ _, goesOn⟩

/-- Whatever a scene is composed of does the same in both, once the scene is the same in both. -/
theorem composes (conceals : seat.Conceals guise) (inside : kind ∈ known) :
    (seat.interpreter kind : Playthrough.Seat Store Role SceneKind Answer).Composes
      fun program => program.Discreet guise known where
  stop := trivial
  fail _ := trivial
  look choose same goesOn :=
    .look (fun store other alike => same store other ((conceals.resembling alike).interpreter_eq inside)) goesOn
  check goesOn := goesOn
  pause _ _ goesOn := goesOn
  record event _ goesOn :=
    update (fun _ _ _ further alike => conceals.record _ alike (further inside) event) goesOn
  modify change _ _ goesOn :=
    update (fun _ _ _ further alike => conceals.modifyScene alike (further inside) change) goesOn
  warn warning _ goesOn := update (fun _ _ _ _ alike => conceals.warn warning alike) goesOn
  hold _ _ goesOn :=
    update (fun _ _ _ further alike => conceals.modifyScene alike (further inside) _)
      ⟨trivial, update (fun _ _ _ further alike => conceals.modifyScene alike (further inside) _) trivial, goesOn⟩
  walk := update (fun _ _ _ further alike => conceals.modifyScene alike (further inside) _)
    ⟨conceals.walks inside, trivial⟩
  offers node :=
    update (fun _ _ _ further alike => conceals.modifyScene alike (further inside) _)
      (update (fun _ _ _ further alike => conceals.modifyScene alike (further inside) _) trivial)
  onFinish := by
    cases kind with
    | text => trivial
    | encounter => exact conceals.finishEncounter trivial

theorem walkBody (conceals : seat.Conceals guise) (kind : SceneKind) :
    (seat.interpreter kind : Playthrough.Seat Store Role SceneKind Answer).walkBody.Discreet guise {kind} :=
  (conceals.composes (Set.mem_singleton kind)).walkBody

theorem openScene (conceals : seat.Conceals guise) (inside : kind ∈ known) :
    (seat.interpreter kind : Playthrough.Seat Store Role SceneKind Answer).openScene.Discreet guise known :=
  (conceals.composes inside).openScene ⟨conceals.walks inside, trivial⟩

theorem resume (conceals : seat.Conceals guise) (inside : kind ∈ known) (choice : Option Choice) :
    ((seat.interpreter kind : Playthrough.Seat Store Role SceneKind Answer).resume choice).Discreet guise
      known := by
  have composes : (seat.interpreter kind : Playthrough.Seat Store Role SceneKind Answer).Composes
      fun program => program.Discreet guise known := conceals.composes inside
  apply composes.resume choice
  apply update fun _ _ _ further alike => conceals.modifyScene alike (further inside) _
  apply composes.look
  · intro store other same
    simp only [same]
  · intro store
    dsimp only
    split
    · split
      · exact composes.pause _ composes.becomesReady
      · exact ⟨conceals.walks inside, trivial⟩
    · exact ⟨conceals.walks inside, trivial⟩

/-! ### What can be asked for -/

theorem reset (conceals : seat.Conceals guise) (kind : SceneKind) {next : Program Store Role SceneKind Answer}
    (goesOn : next.Discreet guise known) : ((seat.interpreter kind).reset next).Discreet guise known :=
  update (fun _ _ _ _ alike => conceals.modify _ alike
    ((conceals.resembling alike).modifyInterpreter ((conceals.resembling alike).scene kind).reset)) goesOn

/-- Starting a scene makes it the same in both. -/
theorem start (conceals : seat.Conceals guise) (kind : SceneKind) (preferences : Preferences)
    {next : Program Store Role SceneKind Answer} (goesOn : next.Discreet guise (known ∪ {kind})) :
    ((seat.interpreter kind).start preferences next).Discreet guise known := by
  have inside : kind ∈ known ∪ {kind} := Set.mem_union_right known (Set.mem_singleton kind)
  apply conceals.reset
  refine ⟨{kind}, fun base store other _ alike =>
    conceals.modify _ alike ((conceals.resembling alike).begins preferences), ?_⟩
  apply update fun _ _ _ further alike => conceals.recordHeader Answer alike (further inside)
  exact ⟨conceals.openScene inside, goesOn⟩

theorem begin (conceals : seat.Conceals guise) {next : Program Store Role SceneKind Answer}
    (goesOn : ∀ known, next.Discreet guise known) : (seat.begin next).Discreet guise known := by
  apply update fun _ _ _ _ alike => conceals.enter alike _
  apply Program.Discreet.look
  · intro store other alike
    rw [(conceals.resembling alike).preferences]
  · exact fun store => conceals.start .text _ (goesOn _)

theorem enterEncounter (conceals : seat.Conceals guise) {next : Program Store Role SceneKind Answer}
    (goesOn : ∀ known, next.Discreet guise known) : (seat.enterEncounter next).Discreet guise known := by
  apply update fun _ _ _ _ alike => conceals.enter alike _
  apply Program.Discreet.look
  · intro store other alike
    rw [(conceals.resembling alike).preferences]
  · exact fun store => conceals.start .encounter _ (goesOn _)

theorem restart (conceals : seat.Conceals guise) (again : Option Preferences)
    {next : Program Store Role SceneKind Answer} (goesOn : next.Discreet guise known) :
    (seat.restart again next).Discreet guise known := by
  apply conceals.reset .text
  apply conceals.reset .encounter
  apply update fun _ _ _ _ alike => conceals.modifyEpilogue alike _
  exact update (fun _ _ _ _ alike =>
    conceals.modify _ alike ((conceals.resembling alike).restarted again)) goesOn

section Answers

variable {refused accepted : Program Store Role SceneKind Answer}

theorem triggerTransition (conceals : seat.Conceals guise) (refuses : refused.Discreet guise known)
    (accepts : ∀ known, accepted.Discreet guise known) :
    (seat.triggerTransition refused accepted).Discreet guise known := by
  apply Program.Discreet.look
  · intro store other alike
    have same := conceals.resembling alike
    have ready : (seat.get store).text.transitionReady = (seat.get other).text.transitionReady :=
      congrArg Interpreter.Snapshot.transitionReady (same.scene .text).snapshot_eq.1
    simp only [same.phase, ready]
  · intro store
    dsimp only
    split
    · apply Program.Discreet.look
      · intro store other alike
        rw [(conceals.resembling alike).preferences]
      · intro store
        split
        · exact conceals.enterEncounter accepts
        · exact update (fun _ _ _ _ alike => conceals.enter alike _) (accepts _)
    · exact update (fun _ _ _ _ alike => conceals.warn _ alike) refuses

theorem beginEncounter (conceals : seat.Conceals guise) (refuses : refused.Discreet guise known)
    (accepts : ∀ known, accepted.Discreet guise known) :
    (seat.beginEncounter refused accepted).Discreet guise known := by
  apply Program.Discreet.look
  · intro store other alike
    simp only [(conceals.resembling alike).phase]
  · intro store
    dsimp only
    split
    · exact conceals.enterEncounter accepts
    · exact update (fun _ _ _ _ alike => conceals.warn _ alike) refuses

theorem choose (conceals : seat.Conceals guise) (inside : kind ∈ known) (offer : Offer)
    (refuses : refused.Discreet guise known) (accepts : accepted.Discreet guise known) :
    ((seat.interpreter kind).select offer refused accepted).Discreet guise known := by
  apply Program.Discreet.look
  · intro store other alike
    have same : (seat.interpreter kind : Playthrough.Seat Store Role SceneKind Answer).get store =
        (seat.interpreter kind : Playthrough.Seat Store Role SceneKind Answer).get other :=
      (conceals.resembling alike).interpreter_eq inside
    rw [same]
  · intro store
    dsimp only
    split
    · apply update fun _ _ _ further alike => conceals.modifyScene alike (further inside) _
      apply update fun _ _ _ further alike =>
        conceals.applyChoice Answer alike (further inside) _ _ _
      exact ⟨conceals.resume inside _, accepts⟩
    · exact update (fun _ _ _ _ alike => conceals.warn _ alike) refuses

/-- What is on offer tells that its scene is the same in both. -/
theorem select (conceals : seat.Conceals guise) (id : String) (refuses : ∀ known, refused.Discreet guise known)
    (accepts : ∀ known, accepted.Discreet guise known) :
    (seat.select id refused accepted).Discreet guise known := by
  intro store other alike
  have same := conceals.resembling alike
  have choices : ∀ kind, ((seat.get store).interpreter kind).choices =
      ((seat.get other).interpreter kind).choices := fun kind =>
    congrArg Interpreter.Snapshot.choices (same.scene kind).snapshot_eq.1
  refine ⟨by simp only [same.currentKind_eq, same.phase, choices], ?_⟩
  have nothingMore : guise.like ∅ store other := guise.weaker (Set.empty_subset known) alike
  dsimp only
  split
  · exact ⟨∅, nothingMore, refuses _⟩
  · next kind current =>
      split
      · next offer found =>
          have played : ((seat.get store).interpreter kind).reset ≠ (seat.get store).interpreter kind := by
            intro unplayed
            have nothing : ((seat.get store).interpreter kind).choices = [] := by
              rw [← unplayed]
              rfl
            have offered := List.mem_of_find?_eq_some found
            rw [nothing] at offered
            cases offered
          exact ⟨{kind}, conceals.regards alike (same.knows played),
            conceals.choose (Set.mem_union_right known (Set.mem_singleton kind)) offer (refuses _) (accepts _)⟩
      · exact ⟨∅, nothingMore, update (fun _ _ _ _ alike => conceals.warn _ alike) (refuses _)⟩

end Answers

end Conceals

end Seat

end Playthrough.Session
