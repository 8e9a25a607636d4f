import Playthrough.Epilogue.Alone
import Playthrough.Proofs.Task.Solitude
import Playthrough.Proofs.Task.TurnEnd

/-!
Contract: the only epilogue between two turns.

Owns: what is shown of an ending (`Showing`), what its task has still to do (`Left`), the situations of
an epilogue, how an epilogue stands in them (`Standing`), and what a turn of any of its tasks makes of
that.

Does not own: who asks the epilogue for what.

An ending may be played while another one is being played. The task of the other one is cancelled, but
nobody waits for it, so any number of such tasks may be left. They have nothing around their programs,
so each of them ends in its next turn and writes nothing.
-/

namespace Playthrough.Epilogue

/-- An ending that is played, with what it is played with. -/
structure Showing where
  preferences : Preferences
  ending : Ending
  tier : Option Tier

namespace Showing

/-- The event that a playback begins with. -/
def label (showing : Showing) : SceneEvent :=
  .plain .system (showing.ending.label.resolve showing.preferences.language)

/-- The event of one of the texts. -/
def event (showing : Showing) (localized : Localized) : SceneEvent :=
  { kind := .ending, text := localized.resolve showing.preferences.language, tier := showing.tier }

/-- The events of all texts. -/
def texts (showing : Showing) : List SceneEvent := showing.ending.texts.map showing.event

/-- The epilogue when so many texts are shown. -/
def shown (showing : Showing) (count : Nat) : Epilogue :=
  { tier := showing.tier
    events := showing.label :: showing.texts.take count
    restartReady := false }

/-- The epilogue when the ending was played to its end. -/
def whole (showing : Showing) : Epilogue := (showing.shown showing.texts.length).complete

@[simp] theorem length_texts (showing : Showing) :
    showing.texts.length = showing.ending.texts.length := List.length_map _

theorem events_whole (showing : Showing) : showing.whole.events = showing.label :: showing.texts :=
  congrArg (showing.label :: ·) List.take_length

/-- One more text. -/
theorem record_shown {showing : Showing} {count : Nat} {localized : Localized}
    (next : showing.ending.texts[count]? = some localized) :
    (showing.shown count).record (showing.event localized) = showing.shown (count + 1) := by
  have event : showing.texts[count]? = some (showing.event localized) := by simp [texts, next]
  simp [shown, record, List.take_add_one, event]

end Showing

namespace Alone

/-- The outlines of the only epilogue. -/
abbrev Draft := Outline Alone Unit Empty Epilogue

/-! ## The script of a showing -/

/-- The script from a text on. -/
def rest (showing : Showing) (count : Nat) : Plan :=
  seat.playTexts showing.preferences showing.tier
    (.pause closingBeat (.update (seat.modify complete) .stop)) (showing.ending.texts.drop count)

/-- What the task of a showing has still to do, by how many waits are still to begin and by what is
shown. -/
inductive Left (showing : Showing) : Nat → Plan → Epilogue → Prop where
  | opening : Left showing (showing.ending.texts.length + 2)
      (seat.script showing.preferences showing.ending showing.tier) (showing.shown 0)
  | titled : Left showing (showing.ending.texts.length + 1) (.check (rest showing 0)) (showing.shown 0)
  | speaks {count : Nat} {localized : Localized}
      (next : showing.ending.texts[count]? = some localized) :
      Left showing (showing.ending.texts.length - count)
        (.check (.check (.update (seat.record (showing.event localized)) (rest showing (count + 1)))))
        (showing.shown count)
  | closes : Left showing 0 (.check (.update (seat.modify complete) .stop))
      (showing.shown showing.texts.length)

/-- Where a turn of a showing's task ends. -/
inductive Goes (showing : Showing) (left : Nat) : TurnEnd Alone Unit Empty Epilogue → Prop where
  | pauses {next : Plan} {store : Alone} {duration : Duration} {shown : List Indicator} {less : Nat}
      (fewer : less < left) (still : Left showing less (.check next) store.epilogue) :
      Goes showing left (.pauses next [] store duration shown)
  | ends {control : Control Alone Unit Empty Epilogue} {store : Alone}
      (whole : store.epilogue = showing.whole) :
      Goes showing left (.ends control [] store (.finished none))

variable {showing other : Showing} {count left : Nat} {plan next : Plan} {store : Alone}

/-- What is shown while a showing's task goes on. -/
theorem Left.shown {epilogue : Epilogue} (still : Left showing left plan epilogue) :
    ∃ count, epilogue = showing.shown count := by
  cases still with
  | opening => exact ⟨0, rfl⟩
  | titled => exact ⟨0, rfl⟩
  | @speaks count localized next => exact ⟨count, rfl⟩
  | closes => exact ⟨_, rfl⟩

/-- The script goes from one text to the next wait. -/
theorem turns_rest (bounded : count ≤ showing.ending.texts.length)
    (looks : store.epilogue = showing.shown count) :
    ∃ next duration shown, World.Turns machine (rest showing count) [] store
        (.pauses next [] store duration shown)
      ∧ Left showing (showing.ending.texts.length - count) (.check next) store.epilogue := by
  rw [looks]
  unfold rest
  cases following : showing.ending.texts[count]? with
  | some localized =>
      obtain ⟨inside, here⟩ := List.getElem?_eq_some_iff.mp following
      rw [List.drop_eq_getElem_cons inside, here]
      exact ⟨_, _, _, .pause _, .speaks following⟩
  | none =>
      have beyond : showing.ending.texts.length ≤ count := List.getElem?_eq_none_iff.mp following
      have last : count = showing.texts.length := by simp; omega
      rw [List.drop_eq_nil_of_le beyond, last, Showing.length_texts, Nat.sub_self]
      refine ⟨_, _, _, .pause _, ?_⟩
      rw [← Showing.length_texts]
      exact .closes

/-- Every turn of a showing's task shows one text at most and ends in a wait, until everything is
shown. -/
theorem Left.turns (still : Left showing left plan store.epilogue) :
    ∃ turnEnd, World.Turns machine plan [] store turnEnd ∧ Goes showing left turnEnd := by
  generalize looks : store.epilogue = epilogue at still
  cases still with
  | opening =>
      have fewer := Nat.lt_succ_self (showing.ending.texts.length + 1)
      refine ⟨_, .pause _, .pauses fewer ?_⟩
      rw [looks]
      exact .titled
  | titled =>
      obtain ⟨next, duration, shown, turns, still⟩ := turns_rest (Nat.zero_le _) looks
      exact ⟨_, .check turns, .pauses (by omega) still⟩
  | @speaks count localized following =>
      obtain ⟨inside, -⟩ := List.getElem?_eq_some_iff.mp following
      have spoken : (seat.record (showing.event localized) store).epilogue =
          showing.shown (count + 1) := by
        rw [← Showing.record_shown following, ← looks]
        rfl
      obtain ⟨next, duration, shown, turns, still⟩ := turns_rest inside spoken
      exact ⟨_, .check (.check (.update turns)), .pauses (by omega) still⟩
  | closes =>
      refine ⟨_, .check (.update (.done none)), .ends ?_⟩
      exact congrArg complete looks

/-! ## Situations -/

/-- What an epilogue is in the middle of. -/
inductive Situation where
  | blank
  /-- A task shows an ending and has so many waits still to begin. -/
  | playing (showing : Showing) (id : TaskId) (left : Nat)
  /-- The task that has shown an ending to its end is still the driver's. -/
  | played (showing : Showing) (id : TaskId)
  /-- An ending was shown in part or to its end before the driver lost its task. -/
  | stopped (showing : Showing)

namespace Situation

/-- The task in the driver's slot. -/
def slot : Situation → Option TaskId
  | .blank => none
  | .playing _ id _ => some id
  | .played _ id => some id
  | .stopped _ => none

/-- What the epilogue looks like. -/
def Looks : Situation → Epilogue → Prop
  | .blank, epilogue => epilogue = .blank
  | .playing showing _ _, epilogue => ∃ count, epilogue = showing.shown count
  | .played showing _, epilogue => epilogue = showing.whole
  | .stopped showing, epilogue => (∃ count, epilogue = showing.shown count) ∨ epilogue = showing.whole

/-- The situation after the driver has lost its task. -/
def halted : Situation → Situation
  | .blank => .blank
  | .playing showing _ _ => .stopped showing
  | .played showing _ => .stopped showing
  | .stopped showing => .stopped showing

@[simp] theorem slot_halted (situation : Situation) : situation.halted.slot = none := by
  cases situation <;> rfl

theorem Looks.halted {situation : Situation} {epilogue : Epilogue} (looks : situation.Looks epilogue) :
    situation.halted.Looks epilogue := by
  cases situation with
  | blank => exact looks
  | playing showing id left => exact .inl looks
  | played showing id => exact .inr looks
  | stopped showing => exact looks

end Situation

/-- A task of the driver that was cancelled and has nothing around its program. -/
def Displaced (task : Task Alone Unit Empty Epilogue) : Prop :=
  task.frames = [] ∧ task.cancelPending = true

/-- How an epilogue stands between two turns, with an operation that may be waiting and what that has
still to do. -/
structure Standing (situation : Situation) (visitor : Option (TaskId × Plan)) (outline : Draft) :
    Prop where
  looks : situation.Looks outline.store.epilogue
  holding : outline.holdings () = { slot := situation.slot, live := situation.slot }
  within : ∀ id, situation.slot = some id → id < outline.count
  performs : ∀ showing id left, situation = .playing showing id left → ∃ task plan,
    outline.tasks id = some task ∧ task.owner = some () ∧ task.frames = []
      ∧ task.cancelPending = false ∧ task.control = .run plan
      ∧ Left showing left plan outline.store.epilogue
  ended : ∀ showing id, situation = .played showing id → outline.tasks id = none
  visits : ∀ id plan, visitor = some (id, plan) →
    outline.tasks id = some (.fresh none plan) ∧ situation.slot ≠ some id
  only : ∀ id task, outline.tasks id = some task →
    situation.slot = some id ∨ (∃ plan, visitor = some (id, plan)) ∨ Displaced task

namespace Standing

variable {situation : Situation} {visitor : Option (TaskId × Plan)} {outline : Draft} {id held : TaskId}
variable {task : Task Alone Unit Empty Epilogue}

theorem slot_eq (standing : Standing situation visitor outline) :
    (outline.holdings ()).slot = situation.slot := by
  rw [standing.holding]

/-- There is nothing around the program of the task that the driver holds. -/
theorem frames_of_held (standing : Standing situation visitor outline)
    (holding : situation.slot = some held) (found : outline.tasks held = some task) :
    task.frames = [] := by
  cases situation with
  | blank => cases holding
  | stopped showing => cases holding
  | playing showing performer left =>
      cases holding
      obtain ⟨same, plan, found', -, frames, -⟩ := standing.performs showing held left rfl
      rw [found] at found'
      cases found'
      exact frames
  | played showing performer =>
      cases holding
      rw [standing.ended showing held rfl] at found
      cases found

/-- A task that was cancelled ends, and nothing else changes. -/
theorem close_displaced (standing : Standing situation visitor outline)
    (notHeld : situation.slot ≠ some id) (notVisitor : ∀ plan, visitor ≠ some (id, plan))
    (outcome : Outcome Epilogue) :
    Standing situation visitor (outline.close id outline.store outcome) where
  looks := standing.looks
  holding := standing.holding
  within := standing.within
  performs showing other left playing := by
    obtain ⟨task, plan, found, rest⟩ := standing.performs showing other left playing
    have different : other ≠ id := by
      rintro rfl
      exact notHeld (by rw [playing]; rfl)
    exact ⟨task, plan, (Outline.tasks_close_other different).trans found, rest⟩
  ended showing other played := by
    by_cases same : other = id
    · rw [same]
      exact Outline.tasks_close_self
    · exact (Outline.tasks_close_other same).trans (standing.ended showing other played)
  visits other plan visits := by
    obtain ⟨found, apart⟩ := standing.visits other plan visits
    have different : other ≠ id := by
      rintro rfl
      exact notVisitor plan visits
    exact ⟨(Outline.tasks_close_other different).trans found, apart⟩
  only other task found := by
    by_cases same : other = id
    · rw [same, Outline.tasks_close_self] at found
      cases found
    · exact standing.only other task ((Outline.tasks_close_other same).symm.trans found)

/-- The task that plays goes on waiting. -/
theorem rest_performer {left less : Nat} {next : Plan} {store : Alone}
    (standing : Standing (.playing showing id left) visitor outline)
    (found : outline.tasks id = some task) (still : Left showing less next store.epilogue) :
    Standing (.playing showing id less) visitor
      (outline.rest id { task.on (.run next) [] with status := .ready } store) := by
  obtain ⟨same, plan, found', owner, frames, kept, -, -⟩ := standing.performs showing id left rfl
  rw [found] at found'
  cases found'
  have self : (outline.rest id { task.on (.run next) [] with status := .ready } store).tasks id =
      some { task.on (.run next) [] with status := .ready } := Function.update_self _ _ _
  have others : ∀ other, other ≠ id →
      (outline.rest id { task.on (.run next) [] with status := .ready } store).tasks other =
        outline.tasks other := fun other different => Function.update_of_ne different _ _
  exact
    { looks := still.shown
      holding := standing.holding
      within := standing.within
      performs := by
        rintro showing' id' left' playing
        cases playing
        exact ⟨_, next, self, owner, rfl, kept, rfl, still⟩
      ended := by
        rintro showing' id' played
        cases played
      visits := by
        intro other plan visits
        obtain ⟨there, apart⟩ := standing.visits other plan visits
        have different : other ≠ id := by
          rintro rfl
          exact apart rfl
        exact ⟨(others other different).trans there, apart⟩
      only := by
        intro other someone there
        by_cases same : other = id
        · exact .inl (by rw [same]; rfl)
        · exact standing.only other someone ((others other same).symm.trans there) }

/-- The task that plays has come to its end. -/
theorem close_performer {left : Nat} {store : Alone}
    (standing : Standing (.playing showing id left) visitor outline)
    (whole : store.epilogue = showing.whole) (outcome : Outcome Epilogue) :
    Standing (.played showing id) visitor (outline.close id store outcome) where
  looks := whole
  holding := standing.holding
  within := standing.within
  performs := by
    rintro showing' id' left' playing
    cases playing
  ended := by
    rintro showing' id' played
    cases played
    exact Outline.tasks_close_self
  visits := by
    intro other plan visits
    obtain ⟨there, apart⟩ := standing.visits other plan visits
    have different : other ≠ id := by
      rintro rfl
      exact apart rfl
    exact ⟨(Outline.tasks_close_other different).trans there, apart⟩
  only := by
    intro other someone there
    by_cases same : other = id
    · exact .inl (by rw [same]; rfl)
    · exact standing.only other someone ((Outline.tasks_close_other same).symm.trans there)

/-! ### Operations -/

/-- An operation begins. -/
theorem add (standing : Standing situation none outline) (plan : Plan) :
    Standing situation (some (outline.count, plan)) (outline.add (.fresh none plan)) := by
  have others : ∀ other, other ≠ outline.count →
      (outline.add (.fresh none plan)).tasks other = outline.tasks other :=
    fun other different => Function.update_of_ne different _ _
  exact
    { looks := standing.looks
      holding := standing.holding
      within := fun other holding => Nat.lt_succ_of_lt (standing.within other holding)
      performs := by
        intro showing other left playing
        obtain ⟨task, plan, found, rest⟩ := standing.performs showing other left playing
        have inside := standing.within other (by rw [playing]; rfl)
        exact ⟨task, plan, (others other (Nat.ne_of_lt inside)).trans found, rest⟩
      ended := by
        intro showing other played
        have inside := standing.within other (by rw [played]; rfl)
        exact (others other (Nat.ne_of_lt inside)).trans (standing.ended showing other played)
      visits := by
        rintro other plan' visits
        cases visits
        exact ⟨Function.update_self _ _ _,
          fun holding => absurd (standing.within _ holding) (Nat.lt_irrefl _)⟩
      only := by
        intro other task found
        by_cases same : other = outline.count
        · exact .inr (.inl ⟨plan, by rw [same]⟩)
        · rcases standing.only other task ((others other same).symm.trans found) with
            holding | ⟨plan, visits⟩ | displaced
          · exact .inl holding
          · cases visits
          · exact .inr (.inr displaced) }

/-- An operation finds the slot empty. -/
theorem vacate (standing : Standing situation visitor outline) (empty : situation.slot = none) :
    Standing situation visitor (outline.vacate ()) where
  looks := standing.looks
  holding := by
    rw [Outline.holdings_vacate, empty]
  within := standing.within
  performs := standing.performs
  ended := standing.ended
  visits := standing.visits
  only := standing.only

/-- An operation that found the slot as it is has ended. -/
theorem close_visitor {plan : Plan} {store : Alone} {after : Situation}
    (standing : Standing situation (some (id, plan)) outline)
    (looks : after = situation ∧ store.epilogue = outline.store.epilogue
      ∨ after = .blank ∧ situation.slot = none ∧ store.epilogue = .blank)
    (outcome : Outcome Epilogue) : Standing after none (outline.close id store outcome) := by
  obtain ⟨found, apart⟩ := standing.visits id plan rfl
  have only : ∀ other task, (outline.close id store outcome).tasks other = some task →
      situation.slot = some other ∨ Displaced task := by
    intro other task there
    by_cases same : other = id
    · rw [same, Outline.tasks_close_self] at there
      cases there
    · rcases standing.only other task ((Outline.tasks_close_other same).symm.trans there) with
        holding | ⟨plan', visits⟩ | displaced
      · exact .inl holding
      · cases visits
        exact absurd rfl same
      · exact .inr displaced
  rcases looks with ⟨rfl, kept⟩ | ⟨rfl, empty, blank⟩
  · exact
      { looks := kept ▸ standing.looks
        holding := standing.holding
        within := standing.within
        performs := by
          intro showing other left playing
          obtain ⟨task, plan, there, owner, frames, pending, control, still⟩ :=
            standing.performs showing other left playing
          have different : other ≠ id := by
            rintro rfl
            exact apart (by rw [playing]; rfl)
          exact ⟨task, plan, (Outline.tasks_close_other different).trans there, owner, frames, pending,
            control, kept ▸ still⟩
        ended := by
          intro showing other played
          have different : other ≠ id := by
            rintro rfl
            exact apart (by rw [played]; rfl)
          exact (Outline.tasks_close_other different).trans (standing.ended showing other played)
        visits := by
          rintro other plan visits
          cases visits
        only := fun other task there => (only other task there).imp_right .inr }
  · exact
      { looks := blank
        holding := standing.holding.trans (by rw [empty]; rfl)
        within := by
          rintro other holding
          cases holding
        performs := by
          rintro showing other left playing
          cases playing
        ended := by
          rintro showing other played
          cases played
        visits := by
          rintro other plan visits
          cases visits
        only := by
          intro other task there
          rcases only other task there with holding | displaced
          · rw [empty] at holding
            cases holding
          · exact .inr (.inr displaced) }

/-- An operation takes the driver's task and waits. -/
theorem take {plan next : Plan} (standing : Standing situation (some (id, plan)) outline)
    (holding : situation.slot = some held) :
    Standing situation.halted (some (id, next)) (outline.take () held id next outline.store) := by
  obtain ⟨-, apart⟩ := standing.visits id plan rfl
  have different : held ≠ id := by
    rintro rfl
    exact apart holding
  exact
    { looks := standing.looks.halted
      holding := by
        rw [Situation.slot_halted]
        exact (Outline.holdings_vacate : (outline.vacate ()).holdings () = _)
      within := by
        rintro other holding
        rw [Situation.slot_halted] at holding
        cases holding
      performs := by
        rintro showing other left playing
        cases situation <;> cases playing
      ended := by
        rintro showing other played
        cases situation <;> cases played
      visits := by
        rintro other next' visits
        cases visits
        refine ⟨Outline.tasks_take_self different, ?_⟩
        rw [Situation.slot_halted]
        exact fun holding => by cases holding
      only := by
        intro other task found
        by_cases self : other = id
        · exact .inr (.inl ⟨next, by rw [self]⟩)
        by_cases taken : other = held
        · subst taken
          rw [Outline.tasks_take_held different] at found
          obtain ⟨former, there, rfl⟩ := Option.map_eq_some_iff.mp found
          have bare : former.frames = [] := standing.frames_of_held holding there
          exact .inr (.inr ⟨bare, rfl⟩)
        · rw [Outline.tasks_take_other taken self] at found
          rcases standing.only other task found with mine | ⟨plan', visits⟩ | displaced
          · rw [holding] at mine
            exact absurd (Option.some.inj mine).symm taken
          · cases visits
            exact absurd rfl self
          · exact .inr (.inr displaced) }

/-- An operation waits for the driver's task. -/
theorem join {plan next : Plan} (standing : Standing situation (some (id, plan)) outline)
    (different : held ≠ id) :
    Standing situation (some (id, next))
      ((outline.rest id (.fresh none next) outline.store).join id held) := by
  obtain ⟨-, apart⟩ := standing.visits id plan rfl
  let joined : Draft := (outline.rest id (.fresh none next) outline.store).join id held
  have self : joined.tasks id = some (.fresh none next) :=
    (Function.update_of_ne (Ne.symm different) _ _).trans (Function.update_self _ _ _)
  have others : ∀ other, other ≠ id → ∃ more : List TaskId,
      joined.tasks other = (outline.tasks other).map fun task =>
        { task with joiners := task.joiners ++ more } := by
    intro other notSelf
    have before : (outline.rest id (.fresh none next) outline.store).tasks other =
        outline.tasks other := Function.update_of_ne notSelf _ _
    by_cases same : other = held
    · subst same
      refine ⟨[id], ?_⟩
      rw [← before]
      exact Function.update_self _ _ _
    · refine ⟨[], ?_⟩
      have after : joined.tasks other = outline.tasks other :=
        (Function.update_of_ne same _ _).trans before
      rw [after]
      cases outline.tasks other <;> simp
  exact
    { looks := standing.looks
      holding := standing.holding
      within := standing.within
      performs := by
        intro showing other left playing
        obtain ⟨task, plan, found, owner, frames, pending, control, still⟩ :=
          standing.performs showing other left playing
        have notSelf : other ≠ id := by
          rintro rfl
          exact apart (by rw [playing]; rfl)
        obtain ⟨more, there⟩ := others other notSelf
        rw [found] at there
        exact ⟨_, plan, there, owner, frames, pending, control, still⟩
      ended := by
        intro showing other played
        have notSelf : other ≠ id := by
          rintro rfl
          exact apart (by rw [played]; rfl)
        obtain ⟨more, there⟩ := others other notSelf
        rw [standing.ended showing other played] at there
        exact there
      visits := by
        rintro other next' visits
        cases visits
        exact ⟨self, apart⟩
      only := by
        intro other task found
        by_cases same : other = id
        · exact .inr (.inl ⟨next, by rw [same]⟩)
        · obtain ⟨more, there⟩ := others other same
          rw [there] at found
          obtain ⟨former, was, rfl⟩ := Option.map_eq_some_iff.mp found
          rcases standing.only other former was with mine | ⟨plan', visits⟩ | displaced
          · exact .inl mine
          · cases visits
            exact absurd rfl same
          · exact .inr (.inr displaced) }

/-- An operation gives the driver the script of a showing, and ends. -/
theorem of_install {showing : Showing} {store : Alone} (inside : id < outline.count)
    (displaced : ∀ other task, other ≠ id → outline.tasks other = some task → Displaced task)
    (looks : store.epilogue = showing.shown 0) (outcome : Outcome Epilogue) :
    Standing (.playing showing outline.count (showing.ending.texts.length + 2)) none
      ((outline.install ()
        (seat.script showing.preferences showing.ending showing.tier)).close id store outcome) where
  looks := ⟨0, looks⟩
  holding := Outline.holdings_install_close
  within other holding := by
    cases holding
    exact Nat.lt_succ_self _
  performs := by
    rintro showing' other left playing
    cases playing
    refine ⟨Task.fresh (some ()) _, _, Outline.tasks_install_close inside, rfl, rfl, rfl, rfl, ?_⟩
    change Left showing _ _ store.epilogue
    rw [looks]
    exact .opening
  ended := by
    rintro showing' other played
    cases played
  visits := by
    rintro other plan visits
    cases visits
  only := by
    intro other task found
    by_cases self : other = id
    · rw [self, Outline.tasks_close_self] at found
      cases found
    by_cases new : other = outline.count
    · exact .inl (by rw [new]; rfl)
    · rw [Outline.tasks_close_other self] at found
      exact .inr (.inr (displaced other task self ((Function.update_of_ne new _ _).symm.trans found)))

end Standing

end Alone

end Playthrough.Epilogue
