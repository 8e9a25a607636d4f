import Playthrough.Proofs.Server.Manners
import Playthrough.Proofs.Server.Quarters
import Playthrough.Proofs.Task.Clearance
import Playthrough.Proofs.Task.Waits

/-!
Contract: what becomes of a play-through by itself when things happen to it from outside.

Owns: what can happen to a play-through and when (`Server.Occurrence`, `Server.Pace`), the worlds that come of it
(`Server.Replays`), and that they follow from it.

Does not own: servers in which it happens.

Between two occurrences the play-through goes on by itself. When the next one comes is said by the number of its
own steps, or by its being at rest; nothing else is left to choose.
-/

namespace Playthrough.Server

/-- When something happens to a play-through, after the last thing that has happened to it. -/
inductive Pace where
  /-- When nothing of it moves any more. -/
  | atRest
  /-- After so many steps of its own tasks. -/
  | after (steps : Nat)

/-- What happens to a play-through from outside. -/
inductive Occurrence where
  | asked (wish : Wish)
  /-- The wait ends that is at this place among its own. -/
  | released (position : Nat)

/-- A pace is kept where so many steps have been made, and where it is known what it means to be at rest. -/
def Pace.Kept (steps : Nat) (resting : Prop) : Pace → Prop
  | .atRest => resting
  | .after expected => steps = expected

namespace Guest

/-! ## Manners -/

theorem not_own_hands (role : Role) : ¬(some role = none ∨ some role = some Role.encounter ∧ role = .epilogue) := by
  rintro (impossible | ⟨same, rfl⟩)
  · cases impossible
  · cases same

/-- What the tasks of a play-through may do. -/
def manners : Etiquette Session Role SceneKind where
  writes owner change := ∀ session, Session.Permits owner session (change session)
  calls owner kind := owner = some (Session.roleOf kind)
  hands owner role := owner = none ∨ owner = some .encounter ∧ role = .epilogue
  hands_other := not_own_hands

theorem permits_of_alters {owner : Option Role} {before after : Session}
    (alters : seat.Alters owner before after) : Session.Permits owner before after := by
  induction alters with
  | refl => exact .refl _
  | modify _ permits inductionHypothesis => exact inductionHypothesis.trans (permits _)
  | deliver _ _ _ inductionHypothesis => exact inductionHypothesis
  | warn _ _ inductionHypothesis => exact inductionHypothesis

theorem courteous : seat.Courteous manners where
  writes alters session := by
    have permits := permits_of_alters (alters session)
    rwa [show seat.driver = id from rfl, Option.map_id]
  walks _ := rfl
  hands _ := .inl rfl
  handsOver := .inr ⟨rfl, rfl⟩

theorem machine_decorous : machine.Decorous manners := by
  rintro owner kind rfl
  exact courteous.decorous_walk kind

theorem decorous_conclude (wait : Bool) : (conclude wait).Decorous manners none := by
  cases wait with
  | false => exact fun _ => trivial
  | true => exact courteous.composes_decorous.settle fun _ => trivial

theorem decorous_opening (wait : Bool) : (opening wait).Decorous manners none :=
  courteous.composes_decorous.begin (decorous_conclude wait)

theorem decorous_plan (wish : Wish) : wish.plan.Decorous manners none := by
  have composes := @Session.Seat.Courteous.composes_decorous _ _ _ Reply _ _ courteous
  refine fun _ => ⟨fun session => .refl session, ?_⟩
  cases wish with
  | observe wait => exact decorous_conclude wait
  | select option wait => exact composes.select option trivial (decorous_conclude wait)
  | leave wait => exact composes.triggerTransition trivial (decorous_conclude wait)
  | enter wait => exact composes.beginEncounter trivial (decorous_conclude wait)
  | restart found wait =>
      cases found with
      | error fault => exact fun _ => trivial
      | ok preferences => exact fun _ => composes.restart _ (decorous_opening wait)

/-! ## Going on by itself -/

/-- What becomes of a play-through that goes on by itself. -/
def goOn (steps : Nat) (world : Setting) : Setting := (World.step machine)^[steps] world

theorem goOn_succ (steps : Nat) (world : Setting) : goOn (steps + 1) world = (goOn steps world).step machine :=
  Function.iterate_succ_apply' _ _ _

theorem goOn_add (first second : Nat) (world : Setting) : goOn (second + first) world = goOn second (goOn first world) :=
  Function.iterate_add_apply _ _ _ _

/-- Whoever is at rest goes no further. -/
theorem goOn_of_isIdle {world : Setting} (idle : world.isIdle = true) (steps : Nat) : goOn steps world = world :=
  Function.iterate_fixed (World.step_of_isIdle machine idle) steps

/-- There is one place only at which it comes to rest. -/
theorem goOn_eq_of_isIdle {world : Setting} {first second : Nat} (idle : (goOn first world).isIdle = true)
    (alsoIdle : (goOn second world).isIdle = true) : goOn first world = goOn second world := by
  rcases Nat.le_total first second with le | le
  · obtain ⟨more, rfl⟩ := Nat.exists_eq_add_of_le le
    rw [Nat.add_comm, goOn_add, goOn_of_isIdle idle]
  · obtain ⟨more, rfl⟩ := Nat.exists_eq_add_of_le le
    rw [Nat.add_comm, goOn_add, goOn_of_isIdle alsoIdle]

/-- At the same pace the same is reached. -/
theorem goOn_eq_of_kept {world : Setting} {first second : Nat} {pace : Pace}
    (kept : pace.Kept first ((goOn first world).isIdle = true))
    (alsoKept : pace.Kept second ((goOn second world).isIdle = true)) :
    goOn first world = goOn second world := by
  cases pace with
  | atRest => exact goOn_eq_of_isIdle kept alsoKept
  | after expected => rw [kept, alsoKept]

/-- Waits that were begun remain so. -/
theorem begun_goOn (world : Setting) (steps : Nat) : world.begun <+: (goOn steps world).begun := by
  induction steps with
  | zero => exact List.prefix_rfl
  | succ steps inductionHypothesis =>
      refine inductionHypothesis.trans ?_
      rw [goOn_succ]
      cases turn : (goOn steps world).running with
      | none =>
          have begins : World.Begins 0 [] (goOn steps world) ((goOn steps world).step machine) :=
            World.begins_between turn 0
          exact begins.begun ▸ List.prefix_append _ _
      | some id =>
          obtain ⟨-, news, begins⟩ := World.begins_step machine turn
          exact begins.begun ▸ List.prefix_append _ _

/-- Of two points on its way one comes first. -/
theorem begun_goOn_or (world : Setting) (first second : Nat) :
    (goOn first world).begun <+: (goOn second world).begun
      ∨ (goOn second world).begun <+: (goOn first world).begun := by
  rcases Nat.le_total first second with le | le
  · obtain ⟨more, rfl⟩ := Nat.exists_eq_add_of_le le
    rw [Nat.add_comm, goOn_add]
    exact .inl (begun_goOn _ more)
  · obtain ⟨more, rfl⟩ := Nat.exists_eq_add_of_le le
    rw [Nat.add_comm, goOn_add]
    exact .inr (begun_goOn _ more)

/-! ## What follows from what happens -/

/-- What comes of a play-through directly after the last of the things that happened to it, the latest first;
its requests have the given numbers, the latest first. -/
inductive Replays (start : Setting) : List (Pace × Occurrence) → List TaskId → Setting → Prop where
  | starts : Replays start [] [0] start
  | asked {occurrences : List (Pace × Occurrence)} {places : List TaskId} {world : Setting} {steps : Nat}
      {pace : Pace} (earlier : Replays start occurrences places world)
      (noTurn : (goOn steps world).running = none)
      (kept : pace.Kept steps ((goOn steps world).isIdle = true)) (wish : Wish) :
      Replays start ((pace, .asked wish) :: occurrences) ((goOn steps world).tasks.length :: places)
        ((goOn steps world).begin wish.plan).2
  | released {occurrences : List (Pace × Occurrence)} {places : List TaskId} {world after : Setting} {steps : Nat}
      {pace : Pace} (earlier : Replays start occurrences places world)
      (kept : pace.Kept steps ((goOn steps world).isIdle = true)) {position : Nat}
      (ends : (goOn steps world).release? position = some after) :
      Replays start ((pace, .released position) :: occurrences) places after

namespace Replays

variable {start world other : Setting} {occurrences : List (Pace × Occurrence)} {places others : List TaskId}

/-- What comes of a play-through follows from what happened to it. -/
theorem unique (first : Replays start occurrences places world) (second : Replays start occurrences others other) :
    places = others ∧ world = other := by
  induction first generalizing others other with
  | starts =>
      cases second
      exact ⟨rfl, rfl⟩
  | asked _ _ kept wish inductionHypothesis =>
      cases second with
      | asked earlier _ alsoKept =>
          obtain ⟨rfl, rfl⟩ := inductionHypothesis earlier
          rw [goOn_eq_of_kept kept alsoKept]
          exact ⟨rfl, rfl⟩
  | released _ kept ends inductionHypothesis =>
      cases second with
      | released earlier alsoKept alsoEnds =>
          obtain ⟨rfl, rfl⟩ := inductionHypothesis earlier
          rw [goOn_eq_of_kept kept alsoKept] at ends
          exact ⟨rfl, Option.some.inj (ends.symm.trans alsoEnds)⟩

end Replays

/-- A world of a play-through in order. -/
structure Sound (world : Setting) : Prop where
  balanced : world.Balanced
  decorous : world.Decorous manners

namespace Sound

variable {world after : Setting}

theorem step (sound : Sound world) : Sound (world.step machine) :=
  ⟨sound.balanced.step machine,
    sound.decorous.of_advances (sound.decorous.advances machine_decorous sound.balanced)⟩

theorem goOn (sound : Sound world) (steps : Nat) : Sound (Guest.goOn steps world) := by
  induction steps with
  | zero => exact sound
  | succ steps inductionHypothesis =>
      rw [goOn_succ]
      exact inductionHypothesis.step

/-- A play-through begins in order. -/
theorem start (session : Session) (wait : Bool) : Sound ((World.initial session).begin (opening wait)).2 :=
  ⟨((World.orderly_initial session).balanced rfl).begin rfl _,
    (World.Decorous.initial session).begin (decorous_opening wait)⟩

theorem replays {start : Setting} {occurrences : List (Pace × Occurrence)} {places : List TaskId}
    (sound : Sound start) (replays : Replays start occurrences places world) : Sound world := by
  induction replays with
  | starts => exact sound
  | @asked _ _ _ steps _ _ noTurn _ wish inductionHypothesis =>
      have reached := inductionHypothesis.goOn steps
      exact ⟨reached.balanced.begin noTurn _, reached.decorous.begin (decorous_plan wish)⟩
  | @released _ _ _ _ steps _ _ _ _ ends inductionHypothesis =>
      have reached := inductionHypothesis.goOn steps
      exact ⟨reached.balanced.release? ends, reached.decorous.release? ends⟩

/-- What an operation has ended with it has ended with for good. -/
theorem outcome?_goOn (sound : Sound world) {id : TaskId} {outcome : Outcome Reply}
    (isOver : world.outcome? id = some outcome) (steps : Nat) :
    (Guest.goOn steps world).outcome? id = some outcome := by
  induction steps with
  | zero => exact isOver
  | succ steps inductionHypothesis =>
      have reached := sound.goOn steps
      rw [goOn_succ]
      exact (reached.decorous.advances machine_decorous reached.balanced).outcome? reached.balanced
        inductionHypothesis

/-- So it has ended with the same at any two points of its way at which it has ended. -/
theorem outcome?_unique (sound : Sound world) {id : TaskId} {outcome other : Outcome Reply} {first second : Nat}
    (isOver : (Guest.goOn first world).outcome? id = some outcome)
    (alsoOver : (Guest.goOn second world).outcome? id = some other) : outcome = other := by
  rcases Nat.le_total first second with le | le
  · obtain ⟨more, rfl⟩ := Nat.exists_eq_add_of_le le
    rw [Nat.add_comm, goOn_add] at alsoOver
    exact Option.some.inj (((sound.goOn first).outcome?_goOn isOver more).symm.trans alsoOver)
  · obtain ⟨more, rfl⟩ := Nat.exists_eq_add_of_le le
    rw [Nat.add_comm, goOn_add] at isOver
    exact Option.some.inj (isOver.symm.trans ((sound.goOn second).outcome?_goOn alsoOver more))

end Sound

end Guest

end Playthrough.Server
