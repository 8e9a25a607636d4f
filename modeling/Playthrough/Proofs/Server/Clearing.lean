import Playthrough.Proofs.Server.Replays
import Playthrough.Proofs.Session.Clearing

/-!
Contract: how a request to restart clears a play-through that goes on by itself.

Owns: what is known of a play-through at every point of its history (`Server.Guest.Regular`), the way of a restart
until nothing is left of what was before it (`Server.Guest.Restarts`), and that a restart which has answered has
come to where nothing is left (`Server.Guest.Restarts.cleared_of_answered`).

Does not own: what the play-through becomes afterwards.

While a restart clears the drivers nothing else is asked of the play-through. Waits of its old tasks may end.
-/

namespace Playthrough.Server

namespace Guest

variable {world after : Setting} {task : TaskId} {places : List TaskId}
variable {occurrences : List (Pace × Occurrence)}

/-! ## What is known of a play-through -/

/-- A play-through in order, of which every request is known. -/
structure Regular (session : Session) (places : List TaskId) (world : Setting) : Prop where
  sound : Sound world
  inOrder : world.InOrder
  timed : world.Timed
  known : ∀ id, world.owners[id]? = some none → id ∈ places
  endings : world.store.endings = session.endings
  scenario : ∀ kind, (world.store.interpreter kind).scenario = (session.interpreter kind).scenario

namespace Regular

variable {session : Session}

/-- Nobody changes which scenes and endings a play-through has. -/
theorem constant_of_leads (leads : world.Leads manners after) :
    after.store.endings = world.store.endings
      ∧ ∀ kind, (after.store.interpreter kind).scenario = (world.store.interpreter kind).scenario := by
  rcases leads.store with same | ⟨_, owner, change, -, -, writes, changed⟩
  · rw [same]
    exact ⟨rfl, fun _ => rfl⟩
  · rw [changed]
    exact ⟨(writes world.store).endings, (writes world.store).scenario⟩

theorem of_leads (regular : Regular session places world) (leads : world.Leads manners after) (sound : Sound after)
    (inOrder : after.InOrder) (timed : after.Timed) : Regular session places after where
  sound := sound
  inOrder := inOrder
  timed := timed
  known id own := regular.known id (leads.outside_before own)
  endings := (constant_of_leads leads).1.trans regular.endings
  scenario kind := ((constant_of_leads leads).2 kind).trans (regular.scenario kind)

theorem step (regular : Regular session places world) : Regular session places (world.step machine) := by
  have sound := regular.sound
  have advances := sound.decorous.advances machine_decorous sound.balanced
  exact regular.of_leads advances.leads sound.step
    (regular.inOrder.of_advances sound.balanced sound.decorous advances (sound.balanced.step machine))
    (regular.timed.step sound.balanced sound.decorous machine_decorous)

theorem goOn (regular : Regular session places world) (steps : Nat) :
    Regular session places (Guest.goOn steps world) := by
  induction steps with
  | zero => exact regular
  | succ steps inductionHypothesis =>
      rw [goOn_succ]
      exact inductionHypothesis.step

theorem begin (regular : Regular session places world) (noTurn : world.running = none) {operation : Plan}
    (decorous : operation.Decorous manners none) :
    Regular session (world.tasks.length :: places) (world.begin operation).2 where
  sound := ⟨regular.sound.balanced.begin noTurn _, regular.sound.decorous.begin decorous⟩
  inOrder := regular.inOrder.begin noTurn
  timed := regular.timed.begin _
  known id own := by
    rcases World.begin_cases own with ⟨before, -⟩ | ⟨rfl, -⟩
    · exact List.mem_cons_of_mem _ (regular.known id before)
    · exact List.mem_cons_self
  endings := regular.endings
  scenario := regular.scenario

theorem release? {position : Nat} (regular : Regular session places world)
    (ends : world.release? position = some after) : Regular session places after :=
  regular.of_leads (World.leads_of_release regular.sound.balanced ends)
    ⟨regular.sound.balanced.release? ends, regular.sound.decorous.release? ends⟩
    (regular.inOrder.release? regular.sound.balanced ends) (regular.timed.release? ends)

theorem initial (session : Session) : Regular session [] (World.initial session) where
  sound := ⟨(World.orderly_initial session).balanced rfl, .initial session⟩
  inOrder := .initial session
  timed := .initial session
  known _ own := by cases own
  endings := rfl
  scenario _ := rfl

/-- A play-through is in order from its beginning on. -/
theorem start (session : Session) (wait : Bool) :
    Regular session [0] ((World.initial session).begin (opening wait)).2 :=
  (initial session).begin rfl (decorous_opening wait)

theorem replays {start : Setting} (regular : Regular session [0] start) (replays : Replays start occurrences places world) :
    Regular session places world := by
  induction replays with
  | starts => exact regular
  | @asked _ _ _ steps _ _ noTurn _ wish inductionHypothesis =>
      exact (inductionHypothesis.goOn steps).begin noTurn (decorous_plan wish)
  | @released _ _ _ _ steps _ _ _ _ ends inductionHypothesis => exact (inductionHypothesis.goOn steps).release? ends

/-- Where every request was answered nothing goes on but drivers. -/
theorem attended (regular : Regular session places world)
    (answered : ∀ place ∈ places, world.isUnended place = false) : world.Attended manners none where
  balanced := regular.sound.balanced
  decorous := regular.sound.decorous
  inOrder := regular.inOrder
  sole id own goesOn := by
    rw [answered id (regular.known id own)] at goesOn
    cases goesOn

end Regular

theorem restrains : seat.Restrains manners where
  get_modify _ _ := rfl
  writes allowed := allowed
  hands allowed := by
    rcases allowed with impossible | ⟨same, last⟩
    · cases impossible
    · exact ⟨Option.some.inj same, last⟩

/-! ## The way of a restart -/

/-- Programs that come to another one without doing anything. -/
inductive SetsOut (goal : Plan) : Plan → Prop where
  | here : SetsOut goal goal
  | look {next : Plan} (rest : SetsOut goal next) : SetsOut goal (.look fun _ => next)
  | update {next : Plan} (rest : SetsOut goal next) : SetsOut goal (.update (fun session => session) next)

/-- A restart is on its way. -/
inductive Restarts (chosen : Preferences) (wait : Bool) (task : TaskId) (world : Setting) : Prop where
  /-- It has found the play-through and is about to clear it. -/
  | sets (program : Plan) (turn : world.running = some task) (asks : world.Asks task program)
      (sets : SetsOut (seat.forgetting (some chosen) (opening wait) Role.all) program)
  | clears (clears : seat.Clears (some chosen) chosen task (opening wait) world)

/-- Nothing is left of what was before a restart. -/
abbrev Cleared (chosen : Preferences) (wait : Bool) (task : TaskId) (world : Setting) : Prop :=
  seat.Clear chosen task (opening wait) world

namespace Restarts

variable {chosen : Preferences} {wait : Bool}

/-- A restart that was asked for is on its way. -/
theorem begins (chosen : Preferences) (wait : Bool) (world : Setting) :
    Restarts chosen wait world.tasks.length (world.begin (Wish.restart (.ok chosen) wait).plan).2 :=
  .sets _ rfl (.begin world _) (.look (.update (.look .here)))

/-- It has not answered. -/
theorem asks (restarts : Restarts chosen wait task world) : ∃ program, world.Asks task program := by
  cases restarts with
  | sets program _ asks => exact ⟨program, asks⟩
  | clears clears =>
      cases clears with
      | takes _ _ _ asks => exact ⟨_, asks⟩
      | waits _ _ _ asks => exact ⟨_, asks⟩

/-- A step goes on with it. -/
theorem step (restarts : Restarts chosen wait task world) (attended : world.Attended manners (some task)) :
    Restarts chosen wait task (world.step machine) ∨ Cleared chosen wait task (world.step machine) := by
  have clearing : seat.Clears (some chosen) chosen task (opening wait) world →
      Restarts chosen wait task (world.step machine) ∨ Cleared chosen wait task (world.step machine) :=
    fun clears => (clears.step restrains machine_decorous attended).imp_left .clears
  cases restarts with
  | clears clears => exact clearing clears
  | sets program turn asks sets =>
      cases sets with
      | here => exact clearing (.begins turn asks)
      | look rest =>
          rw [asks.step_look machine turn]
          exact .inl (.sets _ turn (asks.proceed world rfl) rest)
      | update rest =>
          rw [asks.step_update machine turn]
          exact .inl (.sets _ turn (asks.proceed { world with store := world.store } rfl) rest)

/-- The end of a wait changes nothing of it. -/
theorem release? {position : Nat} (restarts : Restarts chosen wait task world) (balanced : world.Balanced)
    (ends : world.release? position = some after) : Restarts chosen wait task after := by
  cases restarts with
  | clears clears => exact .clears (clears.release? balanced ends)
  | sets program turn asks sets =>
      have asksAfter : after.Asks task program :=
        asks.of_same (by rw [World.bare_release? ends]) (World.isUnended_release? balanced ends)
      obtain ⟨held, -, rfl⟩ := World.release?_eq_some.mp ends
      exact .sets program turn asksAfter sets

/-- As it goes on by itself it is on its way or has come to where nothing is left. -/
theorem goOn (restarts : Restarts chosen wait task world) (attended : world.Attended manners (some task))
    (steps : Nat) :
    Restarts chosen wait task (Guest.goOn steps world) ∧ (Guest.goOn steps world).Attended manners (some task)
      ∨ ∃ lead ≤ steps, Cleared chosen wait task (Guest.goOn lead world)
        ∧ (Guest.goOn lead world).Attended manners (some task) := by
  induction steps with
  | zero => exact .inl ⟨restarts, attended⟩
  | succ steps inductionHypothesis =>
      rcases inductionHypothesis with ⟨onWay, still⟩ | ⟨lead, early, cleared⟩
      · have later := still.step machine_decorous
        rw [goOn_succ]
        rcases onWay.step still with goesOn | cleared
        · exact .inl ⟨goesOn, later⟩
        · refine .inr ⟨steps + 1, Nat.le_refl _, ?_⟩
          rw [goOn_succ]
          exact ⟨cleared, later⟩
      · exact .inr ⟨lead, Nat.le_succ_of_le early, cleared⟩

end Restarts

end Guest

/-! ## In a history -/

/-- A pace that is slower by so many steps. Whoever waits for rest waits for it all the same. -/
def Pace.later (lead : Nat) : Pace → Pace
  | .atRest => .atRest
  | .after steps => .after (lead + steps)

@[simp] theorem Pace.later_zero (pace : Pace) : pace.later 0 = pace := by
  cases pace with
  | atRest => rfl
  | after steps => rw [later, Nat.zero_add]

/-- A pace that was kept after so many steps is a slower one. -/
theorem Pace.Kept.later_of_le {steps lead : Nat} {resting : Prop} {pace : Pace} (kept : pace.Kept steps resting)
    (le : lead ≤ steps) : ∃ faster : Pace, pace = faster.later lead := by
  cases pace with
  | atRest => exact ⟨.atRest, rfl⟩
  | after expected =>
      obtain ⟨more, rfl⟩ := Nat.exists_eq_add_of_le le
      exact ⟨.after more, congrArg Pace.after kept.symm⟩

/-- By how many steps the next thing is late after those that have happened. Only the first of all is late. -/
def due (lead : Nat) (happened : List (Pace × Occurrence)) : Nat := if happened.isEmpty then lead else 0

/-- What happens to a play-through when it begins to happen later by so many steps, the latest first. -/
def delayed (lead : Nat) : List (Pace × Occurrence) → List (Pace × Occurrence)
  | [] => []
  | next :: happened => (next.1.later (due lead happened), next.2) :: delayed lead happened

namespace Guest

/-- Since a request to restart only waits have ended. Of these, some have when it was on its way, and the others
when it had left nothing of what was before it. -/
structure Cut (start : Setting) (asked : List (Pace × Occurrence)) (places : List TaskId) (chosen : Preferences)
    (wait : Bool) (task : TaskId) (happened : List (Pace × Occurrence)) (lead : Nat)
    (since before : List (Pace × Occurrence)) (middle : Setting) : Prop where
  split : happened = delayed lead since ++ before
  replays : Replays start (before ++ asked) places middle
  cleared : Cleared chosen wait task (goOn lead middle)
  attended : (goOn lead middle).Attended manners (some task)

namespace Restarts

variable {start first : Setting} {asked happened : List (Pace × Occurrence)} {others : List TaskId}
variable {chosen : Preferences} {wait : Bool}

/-- As long as only waits end a restart is on its way or has left nothing of what was before it. The induction is
on what has happened since it was asked for. -/
theorem stages (restarts : Restarts chosen wait task first) (attended : first.Attended manners (some task))
    (arrived : Replays start asked places first)
    (releases : ∀ item ∈ happened, ∃ position, item.2 = .released position)
    (replays : Replays start (happened ++ asked) others world) :
    others = places ∧ (Restarts chosen wait task world ∧ world.Attended manners (some task)
      ∨ ∃ lead since before middle, since ≠ []
        ∧ Cut start asked places chosen wait task happened lead since before middle) := by
  induction happened generalizing others world with
  | nil =>
      obtain ⟨rfl, rfl⟩ := arrived.unique replays
      exact ⟨rfl, .inl ⟨restarts, attended⟩⟩
  | cons item happened inductionHypothesis =>
      obtain ⟨pace, occurrence⟩ := item
      obtain ⟨position, rfl⟩ : ∃ position, occurrence = .released position := releases _ List.mem_cons_self
      cases replays with
      | @released _ _ reached _ steps _ earlier kept _ ends =>
          obtain ⟨rfl, stage⟩ :=
            inductionHypothesis (fun item member => releases item (List.mem_cons_of_mem _ member)) earlier
          refine ⟨rfl, ?_⟩
          rcases stage with ⟨onWay, still⟩ | ⟨lead, since, before, middle, some, cut⟩
          · rcases onWay.goOn still steps with ⟨onWay, still⟩ | ⟨lead, early, cleared, still⟩
            · exact .inl ⟨onWay.release? still.balanced ends, still.release? ends⟩
            · obtain ⟨faster, rfl⟩ := kept.later_of_le early
              exact .inr ⟨lead, [(faster, .released position)], happened, reached, List.cons_ne_nil _ _,
                ⟨rfl, earlier, cleared, still⟩⟩
          · refine .inr ⟨lead, (pace, .released position) :: since, before, middle, List.cons_ne_nil _ _,
              ⟨?_, cut.replays, cut.cleared, cut.attended⟩⟩
            have late : due lead since = 0 := by simp [due, some]
            rw [cut.split, delayed, late, Pace.later_zero]
            rfl

/-- A restart that has answered has left nothing of what was before it. -/
theorem cleared_of_answered (restarts : Restarts chosen wait task first)
    (attended : first.Attended manners (some task)) (arrived : Replays start asked places first)
    (releases : ∀ item ∈ happened, ∃ position, item.2 = .released position)
    (replays : Replays start (happened ++ asked) others world) {steps : Nat} {outcome : Outcome Reply}
    (isOver : (Guest.goOn steps world).outcome? task = some outcome) :
    ∃ lead since before middle, Cut start asked places chosen wait task happened lead since before middle := by
  obtain ⟨rfl, stage⟩ := restarts.stages attended arrived releases replays
  rcases stage with ⟨onWay, still⟩ | ⟨lead, since, before, middle, -, cut⟩
  · rcases onWay.goOn still steps with ⟨onWay, -⟩ | ⟨lead, -, cleared, still⟩
    · obtain ⟨program, asks⟩ := onWay.asks
      rw [asks.no_outcome] at isOver
      cases isOver
    · exact ⟨lead, [], happened, world, ⟨rfl, replays, cleared, still⟩⟩
  · exact ⟨lead, since, before, middle, cut⟩

end Restarts

end Guest

end Playthrough.Server
