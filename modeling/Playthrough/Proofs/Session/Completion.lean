import Mathlib.Data.Prod.Lex
import Mathlib.Order.WellFounded
import Playthrough.Proofs.Session.Soundness
import Playthrough.Proofs.Task.Pursuit

/-!
Contract: operations complete.

Owns: what is left to be done before an operation that waits can go on (`Situation.rank`,
`Situation.ahead`, `looseness`), that every turn leaves less of it, and that every operation comes to
its end when the oldest wait ends wherever nothing else moves.

Does not own: what is true of a play-through afterwards.

An operation waits for the driver that plays, for a task that it has cancelled, or for one that has
ended. Turns bring the driver nearer to its end; moves in between leave less to be called.
-/

namespace Playthrough.Session.Alone

variable {scenes : Scenes} {history : History} {situation next : Situation}
variable {before after outline : Draft} {world : Setting} {flight : Flight} {id : TaskId}

/-- How many tasks still come to their end one after the other. -/
def Situation.rank (outline : Draft) : Situation → Nat
  | .scene .text _ _ (some _) => 1
  | .scene .encounter _ _ (some _) => 2
  | .epilogue _ _ (some _) => 1
  | .fading _ (some _) => 3
  | .fading _ none => 2
  | .clearing _ (some leaver) => if (outline.tasks leaver).isSome then 1 else 0
  | _ => 0

/-- How many waits are ahead of the driver that plays. -/
def Situation.ahead : Situation → Nat
  | .scene _ _ _ (some ahead) => ahead
  | .epilogue _ _ (some ahead) => ahead
  | .fading _ (some ahead) => ahead
  | _ => 0

/-- Where no operation is in the middle of a change, tasks that were cancelled do not count. -/
theorem Situation.rank_of_calm (calm : situation.Calm) : situation.rank after = situation.rank before := by
  cases situation with
  | fresh => rfl
  | transition => rfl
  | scene kind id halt ahead => cases kind <;> cases ahead <;> rfl
  | epilogue finished id ahead => cases ahead <;> rfl
  | leaving => exact calm.elim
  | claimed _ _ => exact calm.elim
  | clearing _ _ => exact calm.elim
  | fading _ _ => exact calm.elim

open Classical in
/-- Whether nobody is going to tell a task of its end. -/
noncomputable def looseness (id : TaskId) (outline : Draft) : Nat :=
  if ∃ other task, outline.tasks other = some task ∧ id ∈ task.joiners then 0 else 1

/-- What is left to be done. -/
noncomputable def effort (id : TaskId) (situation : Situation) (outline : Draft) : Nat ×ₗ Nat ×ₗ Nat :=
  toLex (situation.rank outline, toLex (situation.ahead, looseness id outline))

theorem effort_lt_of_rank (fewer : next.rank after < situation.rank before) :
    effort id next after < effort id situation before :=
  Prod.Lex.toLex_lt_toLex.mpr (.inl fewer)

theorem effort_lt_of_ahead (same : next.rank after = situation.rank before)
    (shorter : next.ahead < situation.ahead) : effort id next after < effort id situation before :=
  Prod.Lex.toLex_lt_toLex.mpr (.inr ⟨same, Prod.Lex.toLex_lt_toLex.mpr (.inl shorter)⟩)

/-- A turn leaves less to be done. -/
theorem Nearer.effort_lt (nearer : Nearer id situation before next after) :
    effort id next after < effort id situation before := by
  cases nearer with
  | plays plays =>
      cases plays with
      | @scene kind _ _ _ _ shorter =>
          refine effort_lt_of_ahead ?_ shorter
          cases kind <;> rfl
      | @sceneRests kind _ _ _ =>
          refine effort_lt_of_rank ?_
          cases kind <;> simp [Situation.rank]
      | givesWay => exact effort_lt_of_rank (Nat.lt_succ_self 1)
      | epilogue shorter => exact effort_lt_of_ahead rfl shorter
      | epilogueRests => exact effort_lt_of_rank Nat.zero_lt_one
      | fading shorter => exact effort_lt_of_ahead rfl shorter
      | fadingRests => exact effort_lt_of_rank (Nat.lt_succ_self 2)
  | gone there gone =>
      refine effort_lt_of_rank ?_
      simp [Situation.rank, there, gone]
  | @fades _ held ahead _ _ =>
      refine effort_lt_of_rank ?_
      have few : Situation.rank after (.clearing .epilogue (some held)) ≤ 1 := by
        simp only [Situation.rank]
        split <;> omega
      refine Nat.lt_of_le_of_lt few ?_
      cases ahead <;> simp [Situation.rank]
  | joins calm free joined =>
      have sameRank : situation.rank after = situation.rank before := Situation.rank_of_calm calm
      have tied : looseness id after = 0 := if_pos joined
      have loose : looseness id before = 1 := by
        refine if_neg ?_
        rintro ⟨other, task, found, member⟩
        exact free other task found member
      refine Prod.Lex.toLex_lt_toLex.mpr (.inr ⟨sameRank, Prod.Lex.toLex_lt_toLex.mpr (.inr ⟨rfl, ?_⟩)⟩)
      rw [tied, loose]
      exact Nat.zero_lt_one

/-! ## Nobody is stuck -/

/-- An operation that waits while nothing moves waits for a task that the clock holds. -/
theorem waits_of_idle {program : Plan} (balanced : world.Balanced) (idle : world.isIdle = true)
    (standing : Standing scenes situation [id] world.outline)
    (waiting : world.outline.tasks id = some (.fresh none program)) : world.waits ≠ [] := by
  intro silent
  -- Whoever somebody waits for is a driver's task, since the operation is waited for by nobody.
  have awaited : ∀ someone task, world.outline.tasks someone = some task →
      ∃ other : TaskId, other ≠ id ∧ ∃ joined, world.outline.tasks other = some joined
        ∧ someone ∈ joined.joiners := by
    intro someone task found
    obtain ⟨other, joined, there, member⟩ := World.awaits_somebody balanced idle silent found
    refine ⟨other, ?_, joined, there, member⟩
    rintro rfl
    rw [waiting] at there
    cases there
    cases member
  obtain ⟨other, different, joined, there, -⟩ := awaited id _ waiting
  obtain ⟨further, notOperation, last, found, member⟩ := awaited other joined there
  -- There is at most one such task, and it does not wait for itself.
  rcases standing.only other joined there with bystander | ⟨role, performs⟩ | leaves
  · exact different (List.mem_singleton.mp bystander)
  · obtain ⟨-, task, program, same, -, -, -, nobody, -⟩ := standing.performs role other performs
    rcases standing.only further last found with bystander | ⟨elsewhere, alsoPerforms⟩ | leaves
    · exact notOperation (List.mem_singleton.mp bystander)
    · rw [performs] at alsoPerforms
      cases alsoPerforms
      rw [found] at same
      cases same
      exact nobody member
    · cases situation <;> simp_all [Situation.leaver, Situation.performer]
  · cases situation with
    | clearing stage leaver =>
        cases leaves
        obtain ⟨-, cancelled⟩ := standing.leaves stage other rfl
        rcases standing.only further last found with bystander | ⟨elsewhere, performs⟩ | alsoLeaves
        · exact notOperation (List.mem_singleton.mp bystander)
        · cases performs
        · cases alsoLeaves
          exact (cancelled last found).2.1 member
    | fresh => cases leaves
    | scene _ _ _ _ => cases leaves
    | leaving => cases leaves
    | transition => cases leaves
    | claimed _ _ => cases leaves
    | epilogue _ _ _ => cases leaves
    | fading _ _ => cases leaves

/-! ## Every operation completes -/

/-- An operation that has begun comes to its end. -/
theorem pursues_to_end (balanced : world.Balanced) (noTurn : world.running = none)
    (inFlight : history.flight = some flight)
    (progressing : Progressing scenes history world.outline situation)
    (passed : history.restarting = false → ∀ place ∈ history.taken, ¬ situation.MayOffer place) :
    ∃ after, World.Pursues machine flight.task world after ∧ after.running = none
      ∧ (after.outcome? flight.task).isSome = true := by
  induction measure : toLex (effort flight.task situation world.outline, world.calls) using
    WellFoundedLT.induction generalizing world situation with
  | ind _ inductionHypothesis =>
  subst measure
  cases progressing with
  | free noFlight _ _ _ =>
      rw [noFlight] at inFlight
      cases inFlight
  | closed sameFlight _ _ ended _ =>
      rw [sameFlight] at inFlight
      cases inFlight
      have known : world.outcome? flight.task = some _ := ended
      exact ⟨world, .here world, noTurn, by rw [known]; rfl⟩
  | engaged sameFlight standing waits engaged same awaits =>
      rw [sameFlight] at inFlight
      cases inFlight
      have unended : world.outcome? flight.task = none := World.no_outcome waits
      have progressing : Progressing scenes history world.outline situation :=
        .engaged sameFlight standing waits engaged same awaits
      have calmer : ∀ later : Setting, later.Balanced → later.running = none →
          later.outline = world.outline → later.calls < world.calls →
          ∃ after, World.Pursues machine flight.task later after ∧ after.running = none
            ∧ (after.outcome? flight.task).isSome = true := by
        intro later laterBalanced laterNoTurn sameOutline fewer
        refine inductionHypothesis _ ?_ laterBalanced laterNoTurn (by rw [sameOutline]; exact progressing)
          passed rfl
        rw [sameOutline]
        exact Prod.Lex.toLex_lt_toLex.mpr (.inr ⟨rfl, fewer⟩)
      cases idle : world.isIdle with
      | true =>
          have silent := waits_of_idle balanced idle standing waits
          cases oldest : world.release? 0 with
          | none =>
              cases held : world.waits with
              | nil => exact absurd held silent
              | cons wait rest => simp [World.release?, held] at oldest
          | some released =>
              have orderly : world.Orderly none := by
                rw [← noTurn]
                exact balanced
              have stillNoTurn : released.running = none := by
                obtain ⟨-, -, rfl⟩ := World.release?_eq_some.mp oldest
                exact noTurn
              obtain ⟨after, pursues, ends⟩ := calmer released (balanced.release? oldest) stillNoTurn
                (World.outline_release? orderly oldest) (World.calls_release? oldest)
              exact ⟨after, .release unended idle oldest pursues, ends⟩
      | false =>
          rcases World.step_cases machine balanced noTurn with
            ⟨stillNoTurn, sameOutline, isIdle | fewer⟩ |
              ⟨id, task, base, found, sameOutline, stepped, unawaited⟩
          · rw [idle] at isIdle
            cases isIdle
          · obtain ⟨after, pursues, ends⟩ := calmer (world.step machine) (balanced.step machine)
              stillNoTurn sameOutline fewer
            exact ⟨after, .step unended idle pursues, ends⟩
          · have turn : (world.step machine).running = some id := by
              rw [stepped]
              rfl
            have lands := continues_turn progressing sameOutline found unawaited passed
            rw [← show world.store = world.outline.store from rfl, ← stepped] at lands
            obtain ⟨between, pursues, stopped, next, stands, onward, nearer, -⟩ :=
              lands.pursues ((World.outcome?_step turn).trans unended)
            have moves : World.Pursues machine flight.task world between :=
              .step unended idle pursues
            cases remains : between.outline.tasks flight.task with
            | some waiting =>
                have less := (nearer flight sameFlight (by rw [remains]; rfl)).effort_lt
                have stillPassed : history.restarting = false →
                    ∀ place ∈ history.taken, ¬ next.MayOffer place := by
                  intro notRestarting place member mayOffer
                  exact passed notRestarting place member
                    ((onward notRestarting).1.offers place mayOffer)
                obtain ⟨after, further, ends⟩ := inductionHypothesis _
                  (Prod.Lex.toLex_lt_toLex.mpr (.inl less)) (moves.balanced balanced) stopped stands
                  stillPassed rfl
                exact ⟨after, moves.trans further, ends⟩
            | none =>
                refine ⟨between, moves, stopped, ?_⟩
                cases stands with
                | free noFlight _ _ _ =>
                    rw [noFlight] at sameFlight
                    cases sameFlight
                | engaged other _ stillWaits _ _ _ =>
                    rw [sameFlight] at other
                    cases other
                    rw [remains] at stillWaits
                    cases stillWaits
                | closed other _ _ ended _ =>
                    rw [sameFlight] at other
                    cases other
                    have known : between.outcome? flight.task = some _ := ended
                    rw [known]
                    rfl

/-! ## From operation to operation -/

section Operations

variable {textScene : Option TextScene} {encounterScene : Option EncounterScene}
variable {preferences : Preferences}

/-- An operation is carried out to its end and answers. The oldest wait ends wherever nothing else
moves. -/
def Carries (world : Setting) (operation : Operation) (accepts : Bool) (later : Setting) : Prop :=
  ∃ bound, later =
      World.runUntilEnded machine (world.begin operation.plan).1 bound (world.begin operation.plan).2
    ∧ later.outcome? (world.begin operation.plan).1 = some (.finished (operation.answer accepts))

theorem Carries.of_pursues {later : Setting} {operation : Operation} {accepts : Bool}
    (pursues : World.Pursues machine (world.begin operation.plan).1 (world.begin operation.plan).2 later)
    (answers : later.outcome? (world.begin operation.plan).1 =
      some (.finished (operation.answer accepts))) : Carries world operation accepts later := by
  obtain ⟨bound, runs⟩ := pursues.runUntilEnded
  have whole := runs 0
  rw [Nat.zero_add] at whole
  exact ⟨bound, whole.symm, answers⟩

/-- The moves until a task has ended keep to what occurs. -/
theorem Occurs.pursues {later : Setting}
    (occurs : Occurs textScene encounterScene preferences history world)
    (pursues : World.Pursues machine id world later) :
    ∃ phases showing offered, history.phases <+: phases ∧
      Occurs textScene encounterScene preferences
        { history with phases := phases, showing := showing, offered := offered } later := by
  induction pursues generalizing history with
  | here _ => exact ⟨_, _, _, List.prefix_rfl, occurs⟩
  | @step world _ _ _ _ inductionHypothesis =>
      obtain ⟨noted, showing, offered, same⟩ := history.noted_eq (world.step machine)
      have grows : history.phases <+: noted := by
        have grows := history.phases_noted (world.step machine)
        rwa [same] at grows
      have stepped := occurs.step
      rw [same] at stepped
      obtain ⟨phases, _, _, further, reaches⟩ := inductionHypothesis stepped
      exact ⟨phases, _, _, grows.trans further, reaches⟩
  | release _ idle oldest _ inductionHypothesis =>
      exact inductionHypothesis (occurs.release (World.noTurn_of_isIdle idle) 0 oldest)

/-- An operation that does not go back to the beginning at most adds a choice to the history. -/
theorem History.completed_eq (flight : Flight) {outcome : Outcome Reply} (notBegin : flight.operation ≠ .begin)
    (notRestart : flight.operation.isRestart = false) :
    ∃ taken, history.completed flight outcome = { history with flight := none, taken := taken }
      ∧ ((∀ tag, flight.operation ≠ .select tag) → taken = history.taken)
      ∧ ((∃ tag, flight.operation = .select tag) → outcome = .finished (some (.verdict true)) →
        taken = history.taken ++ flight.place.toList) := by
  obtain ⟨task, operation, place, accepts⟩ := flight
  have unchanged : (∀ tag, operation ≠ .select tag) →
      ∃ taken, { history with flight := none } = { history with flight := none, taken := taken }
        ∧ ((∀ tag, operation ≠ .select tag) → taken = history.taken)
        ∧ ((∃ tag, operation = .select tag) → outcome = .finished (some (.verdict true)) →
          taken = history.taken ++ place.toList) := by
    intro notSelect
    exact ⟨history.taken, rfl, fun _ => rfl, fun ⟨tag, selects⟩ => absurd selects (notSelect tag)⟩
  cases operation with
  | begin => exact absurd rfl notBegin
  | restart _ => cases notRestart
  | triggerTransition => exact unchanged (by simp)
  | beginEncounter => exact unchanged (by simp)
  | settle => exact unchanged (by simp)
  | select tag =>
      by_cases accepted : outcome = .finished (some (.verdict true))
      · refine ⟨history.taken ++ place.toList, ?_, fun notSelect => absurd rfl (notSelect tag),
          fun _ _ => rfl⟩
        rw [History.completed, if_pos accepted]
      · refine ⟨history.taken, ?_, fun _ => rfl, fun _ finished => absurd finished accepted⟩
        rw [History.completed, if_neg accepted]

/-- An operation that begins in a world. -/
def Flight.begun (operation : Operation) (world : Setting) : Flight :=
  ⟨world.tasks.length, operation, world.store.session.place?, operation.isAccepted world.store.session⟩

/-- What has become of a play-through in which an operation has come to its end. -/
structure Completes (scenes : Scenes) (history : History) (world : Setting) (operation : Operation)
    (later : History) (situation : Situation) (after : Setting) : Prop where
  noTurn : after.running = none
  inFlight : later.flight = some (.begun operation world)
  fresh : later.fresh = history.fresh
  taken : later.taken = history.taken
  phases : history.phases <+: later.phases
  ended : after.outcome? world.tasks.length =
    some (.finished (operation.answer (operation.isAccepted world.store.session)))
  carries : Carries world operation (operation.isAccepted world.store.session) after
  standing : Standing scenes situation [] after.outline
  concluded : Concluded scenes later (.begun operation world) situation
    (.finished (operation.answer (operation.isAccepted world.store.session)))

/-- Every operation comes to its end. -/
theorem completes_of_occurs (occurs : Occurs textScene encounterScene preferences history world)
    (noTurn : world.running = none) (free : history.flight = none) (operation : Operation)
    (timely : operation = .begin → history.fresh = true) :
    ∃ later situation after, Occurs textScene encounterScene preferences later after
      ∧ Completes (.given textScene encounterScene) history world operation later situation after := by
  let flight : Flight := .begun operation world
  have begun : Occurs textScene encounterScene preferences
      { history with flight := some flight } (world.begin operation.plan).2 :=
    occurs.begin operation noTurn free timely
  have unended : (world.begin operation.plan).2.outcome? flight.task = none := by
    simp [World.outcome?, World.begin, flight, Flight.begun, Task.fresh, Task.outcome?]
  -- The first turn ends, then the operation is pursued to its end.
  obtain ⟨between, first, stopped, -⟩ := (Sound.of_occurs begun).lands.pursues unended
  obtain ⟨_, _, _, grows, waits⟩ := begun.pursues first
  have sound := Sound.of_occurs waits
  obtain ⟨situation, progressing, chronicle⟩ := sound.moment stopped
  obtain ⟨after, second, noTurn, known⟩ := pursues_to_end sound.balanced stopped rfl progressing
    fun notRestarting => (chronicle notRestarting).passed
  obtain ⟨phases, showing, offered, further, reaches⟩ := waits.pursues second
  obtain ⟨outcome, answers⟩ := Option.isSome_iff_exists.mp known
  obtain ⟨stands, settled, -⟩ := (Sound.of_occurs reaches).moment noTurn
  cases settled with
  | free noFlight _ _ _ => cases noFlight
  | engaged sameFlight _ waits _ _ _ =>
      cases sameFlight
      have none : after.outcome? flight.task = none := World.no_outcome waits
      rw [answers] at none
      cases none
  | closed sameFlight standing gone recorded concluded =>
      cases sameFlight
      have answered := concluded.answered
      have known : after.outcome? flight.task = some _ := recorded
      have ended : after.outcome? flight.task =
          some (.finished (operation.answer (operation.isAccepted world.store.session))) :=
        known.trans (congrArg some answered)
      exact ⟨_, stands, after, reaches,
        { noTurn := noTurn
          inFlight := rfl
          fresh := rfl
          taken := rfl
          phases := grows.trans further
          ended := ended
          carries := .of_pursues (first.trans second) ended
          standing := standing.dismiss concluded.calm gone
          concluded := answered ▸ concluded }⟩

/-- What an operation that was carried out has done to a play-through that is not restarted by it. -/
structure Fulfils (history : History) (world : Setting) (operation : Operation) (later : History)
    (after : Setting) : Prop where
  noTurn : after.running = none
  free : later.flight = none
  fresh : later.fresh = history.fresh
  phases : history.phases <+: later.phases
  kept : (∀ tag, operation ≠ .select tag) → later.taken = history.taken
  chosen : ∀ tag, operation = .select tag → operation.isAccepted world.store.session = true →
    later.taken.length = history.taken.length + 1
  moved : ∀ phase, operation.leaves? = some phase →
    operation.isAccepted world.store.session = true → after.store.session.phase ≠ phase
  quiet : operation = .settle → ∀ role, after.isActive role = false

/-- Every operation is carried out. -/
theorem carries_of_occurs (occurs : Occurs textScene encounterScene preferences history world)
    (noTurn : world.running = none) (free : history.flight = none) (operation : Operation)
    (notBegin : operation ≠ .begin) (notRestart : operation.isRestart = false) :
    ∃ later after, Occurs textScene encounterScene preferences later after
      ∧ Carries world operation (operation.isAccepted world.store.session) after
      ∧ Fulfils history world operation later after := by
  obtain ⟨later, situation, after, reaches, completes⟩ :=
    completes_of_occurs occurs noTurn free operation fun begins => absurd begins notBegin
  have completed := reaches.complete completes.noTurn completes.inFlight completes.ended
  obtain ⟨taken, written, keeps, adds⟩ :=
    History.completed_eq (.begun operation world) notBegin notRestart
  rw [written] at completed
  refine ⟨_, after, completed, completes.carries,
    { noTurn := completes.noTurn
      free := rfl
      fresh := completes.fresh
      phases := completes.phases
      kept := fun notSelect => (keeps notSelect).trans completes.taken
      chosen := ?_
      moved := ?_
      quiet := ?_ }⟩
  · intro tag selects accepted
    have verdict : Outcome.finished (operation.answer (operation.isAccepted world.store.session)) =
        .finished (some (.verdict true)) := by
      rw [accepted, selects]
      rfl
    obtain ⟨place, placed, -⟩ := completes.concluded.took tag selects verdict
    have added := adds ⟨tag, selects⟩ verdict
    rw [placed, completes.taken] at added
    rw [added]
    simp
  · intro phase leaves accepted
    have moved := completes.concluded.moved phase leaves accepted
    rwa [← (show after.store.session.phase = situation.phase from completes.standing.looks.phase)]
      at moved
  · intro settles role
    have nobody := completes.concluded.settled settles
    refine completes.standing.inactive ?_
    intro id performs
    rw [nobody] at performs
    cases performs

end Operations

end Playthrough.Session.Alone
