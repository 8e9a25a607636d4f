import Playthrough.Proofs.Session.Clearing
import Playthrough.Proofs.Session.Demands
import Playthrough.Proofs.Task.Lasting

/-!
Contract: what a restart leaves of a play-through.

Owns: the stages of a restart (`Renews`), that it goes through them whatever the drivers do meanwhile, and
what is true when it has completed (`Renewed`).

Does not own: what is done with the play-through afterwards, and how the drivers are cleared.
-/

namespace Playthrough.Session.Alone

variable {again : Option Preferences} {chosen : Preferences} {id : TaskId}
variable {world after : Setting} {role : Role}

/-! ## The program -/

/-- What is left of a restart when some drivers have still to be cleared. -/
def forgetting (again : Option Preferences) : List Role → Plan
  | [] => .update (seat.modify (restarted again)) .stop
  | role :: rest => .cancel role (.update (seat.modify (cleanse role)) (forgetting again rest))

theorem forgetting_eq (again : Option Preferences) (todo : List Role) :
    forgetting again todo = seat.forgetting again .stop todo := by
  induction todo with
  | nil => rfl
  | cons role rest inductionHypothesis => rw [forgetting, Seat.forgetting, inductionHypothesis]

/-! ## What is forgotten -/

/-- A driver holds no task, none of its tasks goes on, and its part is clean. -/
structure Forgotten (world : Setting) (role : Role) : Prop where
  vacant : world.holdings role = { slot := none, live := none }
  ended : ∀ id, world.owners[id]? = some (some role) → world.isUnended id = false
  clean : Pristine world.store.session role

theorem forgotten_iff : seat.Forgotten world role ↔ Forgotten world role :=
  ⟨fun forgotten => ⟨forgotten.cleared.vacant, forgotten.cleared.ended, forgotten.clean⟩,
    fun forgotten => ⟨⟨forgotten.vacant, forgotten.ended⟩, forgotten.clean⟩⟩

theorem Forgotten.cleared (forgotten : Forgotten world role) : world.Cleared role :=
  ⟨forgotten.vacant, forgotten.ended⟩

theorem Forgotten.of_cleared (forgotten : Forgotten world role) (cleared : after.Cleared role)
    (part : SamePart world.store.session after.store.session role) : Forgotten after role :=
  ⟨cleared.vacant, cleared.ended, forgotten.clean.of_part part⟩

/-- It stays forgotten when others act who leave it alone. -/
theorem Forgotten.of_same (forgotten : Forgotten world role)
    (holding : after.holdings role = world.holdings role) (owners : after.owners = world.owners)
    (unended : ∀ id, world.owners[id]? = some (some role) → after.isUnended id = world.isUnended id)
    (part : SamePart world.store.session after.store.session role) : Forgotten after role :=
  forgotten.of_cleared (forgotten.cleared.of_same holding owners unended) part

theorem restrains : seat.Restrains manners where
  get_modify _ _ := rfl
  writes allowed := allowed
  hands allowed := by
    rcases allowed with impossible | ⟨same, last⟩
    · cases impossible
    · exact ⟨Option.some.inj same, last⟩

/-! ## The stages of a restart -/

/-- The stages of a restart. -/
inductive Renews (again : Option Preferences) (chosen : Preferences) (id : TaskId) (world : Setting) : Prop
    where
  /-- It takes the task of the next driver. -/
  | clears (todo : List Role) (suffix : todo <:+ Role.all) (turn : world.running = some id)
      (asks : world.Asks id (forgetting again todo)) (done : ∀ role, role ∉ todo → Forgotten world role)
      (kept : again.getD world.store.session.preferences = chosen)
  /-- It waits until that task has ended. -/
  | waits (role : Role) (rest : List Role) (suffix : role :: rest <:+ Role.all)
      (asks : world.Asks id (.update (seat.modify (cleanse role)) (forgetting again rest)))
      (vacant : world.holdings role = { slot := none, live := none })
      (done : ∀ other, other ∉ role :: rest → Forgotten world other)
      (kept : again.getD world.store.session.preferences = chosen)
  /-- Everything was forgotten. -/
  | restored (turn : world.running = some id) (asks : world.Asks id .stop)
      (done : ∀ role, Forgotten world role) (anew : Anew chosen world.store.session)
  /-- It has completed. -/
  | renewed (ended : world.outcome? id = some (.finished none)) (done : ∀ role, Forgotten world role)
      (anew : Anew chosen world.store.session)

/-! ## From stage to stage -/

namespace Renews

/-- The drivers are cleared. -/
theorem of_clears (clears : seat.Clears again chosen id .stop world) : Renews again chosen id world := by
  cases clears with
  | takes todo suffix turn asks done kept =>
      rw [← forgetting_eq] at asks
      exact .clears todo suffix turn asks (fun role cleared => forgotten_iff.mp (done role cleared)) kept
  | waits role rest suffix asks vacant done kept =>
      rw [← forgetting_eq] at asks
      exact .waits role rest suffix asks vacant (fun other cleared => forgotten_iff.mp (done other cleared)) kept

/-- They have been cleared. -/
theorem of_clear (clear : seat.Clear chosen id .stop world) : Renews again chosen id world :=
  .restored clear.turn clear.asks (fun role => forgotten_iff.mp (clear.done role)) clear.anew

/-- A step goes on with clearing them. -/
theorem step_of_clears (clears : seat.Clears again chosen id .stop world)
    (attended : world.Attended manners (some id)) : Renews again chosen id (world.step machine) :=
  (clears.step restrains machine_decorous attended).elim of_clears of_clear

/-- The restart completes. -/
theorem of_restored (turn : world.running = some id) (asks : world.Asks id .stop)
    (done : ∀ role, Forgotten world role) (anew : Anew chosen world.store.session) :
    Renews again chosen id (world.step machine) := by
  obtain ⟨joiners, stepped⟩ := asks.step_done machine turn
  rw [stepped]
  refine .renewed (asks.outcome?_finish joiners _) ?_ anew
  exact fun role => (done role).of_cleared ((done role).cleared.finish asks joiners _) (.of_same rfl role)

/-- When it has completed every task has ended. -/
theorem ended_of_done (attended : world.Attended manners (some id))
    (ended : world.outcome? id = some (.finished none)) (done : ∀ role, Forgotten world role)
    (other : TaskId) : world.isUnended other = false := by
  by_contra unended
  have goesOn : world.isUnended other = true := by simpa using unended
  obtain ⟨task, found⟩ : ∃ task, world.tasks[other]? = some task := by
    cases found : world.tasks[other]? with
    | none => simp [World.isUnended, found] at goesOn
    | some task => exact ⟨task, rfl⟩
  have own := World.owner_of_found found
  cases owner : task.owner with
  | some role =>
      rw [owner] at own
      rw [(done role).ended other own] at goesOn
      cases goesOn
  | none =>
      rw [owner] at own
      -- an operation that has ended does not go on
      have noFlight := (attended.complete ended).sole other own goesOn
      cases noFlight

/-- A step goes on with a restart. -/
theorem step (renews : Renews again chosen id world) (attended : world.Attended manners (some id)) :
    Renews again chosen id (world.step machine) := by
  cases renews with
  | clears todo suffix turn asks done kept =>
      rw [forgetting_eq] at asks
      exact step_of_clears
        (.takes todo suffix turn asks (fun role cleared => forgotten_iff.mpr (done role cleared)) kept) attended
  | waits role rest suffix asks vacant done kept =>
      rw [forgetting_eq] at asks
      exact step_of_clears
        (.waits role rest suffix asks vacant (fun other cleared => forgotten_iff.mpr (done other cleared)) kept)
        attended
  | restored turn asks done anew => exact of_restored turn asks done anew
  | renewed ended done anew =>
      obtain ⟨noTurn, noQueue, -⟩ := attended.balanced.silent_of_ended (ended_of_done attended ended done)
      have idle : world.isIdle = true := by simp [World.isIdle, noTurn, noQueue]
      rw [World.step_of_isIdle machine idle]
      exact .renewed ended done anew

/-- The end of a wait changes nothing of it. -/
theorem release? {position : Nat} {released : Setting} (renews : Renews again chosen id world)
    (attended : world.Attended manners (some id)) (wait : world.release? position = some released) :
    Renews again chosen id released := by
  have bare := World.bare_release? wait
  have unended : ∀ other, released.isUnended other = world.isUnended other :=
    fun _ => World.isUnended_release? attended.balanced wait
  obtain ⟨held, found, same⟩ := World.release?_eq_some.mp wait
  have running : released.running = world.running := by rw [← same]; rfl
  have holdings : released.holdings = world.holdings := by rw [← same]; rfl
  have store : released.store = world.store := by rw [← same]; rfl
  have asks : ∀ {program : Plan}, world.Asks id program → released.Asks id program :=
    fun asks => asks.of_same (congrArg (fun tasks => tasks[id]?) bare) (unended id)
  have forgotten : ∀ {role : Role}, Forgotten world role → Forgotten released role :=
    fun forgotten => forgotten.of_same (congrFun holdings _) (World.owners_of_bare bare)
      (fun other _ => unended other) (.of_same (congrArg session store) _)
  cases renews with
  | clears todo suffix turn goesOn done kept =>
      exact .clears todo suffix (running.trans turn) (asks goesOn) (fun role cleared =>
        forgotten (done role cleared)) (store ▸ kept)
  | waits role rest suffix goesOn vacant done kept =>
      exact .waits role rest suffix (asks goesOn) ((congrFun holdings role).trans vacant)
        (fun other cleared => forgotten (done other cleared)) (store ▸ kept)
  | restored turn goesOn done anew =>
      exact .restored (running.trans turn) (asks goesOn) (fun role => forgotten (done role)) (store ▸ anew)
  | renewed ended done anew =>
      obtain ⟨-, -, noWaits⟩ := attended.balanced.silent_of_ended (ended_of_done attended ended done)
      simp [noWaits] at found

/-- A restart that has ended has forgotten everything. -/
theorem of_ended {outcome : Outcome Reply} (renews : Renews again chosen id world)
    (attended : world.Attended manners (some id)) (ended : world.outcome? id = some outcome) :
    outcome = .finished none ∧ (∀ role, Forgotten world role) ∧ Anew chosen world.store.session := by
  have isOver : ∀ {program : Plan}, ¬world.Asks id program := by
    intro program asks
    have noFlight := (attended.complete ended).sole _ asks.own asks.goesOn
    cases noFlight
  cases renews with
  | clears _ _ _ asks => exact absurd asks isOver
  | waits _ _ _ asks => exact absurd asks isOver
  | restored _ asks => exact absurd asks isOver
  | renewed finished done anew =>
      rw [finished] at ended
      exact ⟨(Option.some.inj ended).symm, done, anew⟩

end Renews

/-- A restart goes through its stages whatever the drivers do meanwhile. -/
theorem renews_of_unattended (unattended : World.Unattended machine world after)
    (attended : world.Attended manners (some id)) (renews : Renews again chosen id world) :
    after.Attended manners (some id) ∧ Renews again chosen id after := by
  induction unattended with
  | here world => exact ⟨attended, renews⟩
  | step _ inductionHypothesis =>
      exact inductionHypothesis (attended.step machine_decorous) (renews.step attended)
  | release position wait _ inductionHypothesis =>
      exact inductionHypothesis (attended.release? wait) (renews.release? attended wait)

/-- A restart begins with nothing forgotten. -/
theorem renews_begin (again : Option Preferences) (world : Setting) :
    Renews again (again.getD world.store.session.preferences) world.tasks.length
      (world.begin (restart again)).2 := by
  refine .clears Role.all List.suffix_rfl rfl (.begin world _) ?_ rfl
  intro role missing
  cases role <;> simp [Role.all] at missing

/-! ## When it has completed -/

/-- Nothing goes on, and the play-through is as it was in the beginning, but for the preferences that
scenes were played with. -/
structure Renewed (chosen : Preferences) (world : Setting) : Prop where
  noTurn : world.running = none
  noQueue : world.queue = []
  noWaits : world.waits = []
  vacant : ∀ role, world.holdings role = { slot := none, live := none }
  clean : ∀ role, Pristine world.store.session role
  anew : Anew chosen world.store.session

/-- When a restart has completed, nothing is left of what was before it. -/
theorem renewed_of_unattended (attended : world.Attended manners none) (noTurn : world.running = none)
    (unattended : World.Unattended machine (world.begin (restart again)).2 after)
    {outcome : Outcome Reply} (ended : after.outcome? world.tasks.length = some outcome) :
    outcome = .finished none ∧ Renewed (again.getD world.store.session.preferences) after := by
  have begun : (world.begin (restart again)).2.Attended manners (some world.tasks.length) :=
    attended.begin noTurn (Demand.decorous (.operation (.restart again)))
  obtain ⟨attendedAfter, renews⟩ := renews_of_unattended unattended begun (renews_begin again world)
  obtain ⟨finished, done, anew⟩ := renews.of_ended attendedAfter ended
  rw [finished] at ended
  obtain ⟨quiet, noQueue, noWaits⟩ :=
    attendedAfter.balanced.silent_of_ended (Renews.ended_of_done attendedAfter ended done)
  exact ⟨finished, quiet, noQueue, noWaits, fun role => (done role).vacant,
    fun role => (done role).clean, anew⟩

end Playthrough.Session.Alone
