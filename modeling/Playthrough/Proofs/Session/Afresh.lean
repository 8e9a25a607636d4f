import Playthrough.Proofs.Session.Likeness

/-!
Contract: what becomes of a play-through after a restart.

Owns: everything that can happen to a play-through from outside (`Move`), what is seen of two of them to
which the same happens (`Mirrors`), and that one that was restarted is seen as one that was just made.

Does not own: why nobody can tell them apart.

Tasks of a play-through that was restarted have later numbers, and its logs begin with what was before.
-/

namespace Playthrough.Session.Alone

/-! ## What can happen -/

/-- One thing that happens to a play-through: something is asked of it, something moves by itself, or a wait
ends. -/
inductive Move where
  | ask (demand : Demand)
  | step
  | release (position : Nat)

/-- The world after a move, none where it cannot be made. Between the instructions of one turn nothing is
asked and no wait ends. -/
def Move.make? (world : Setting) : Move → Option Setting
  | .ask demand => if world.running = none then some (world.begin demand.plan).2 else none
  | .step => some (world.step machine)
  | .release position => if world.running = none then world.release? position else none

/-- The world after some moves. -/
def follow? (world : Setting) : List Move → Option Setting
  | [] => some world
  | move :: moves => (move.make? world).bind fun after => follow? after moves

/-! ## What is seen -/

/-- What is seen of a wait: its length, and what was shown when it began. -/
def waitSeen (wait : Wait) : Duration × List Indicator := (wait.duration, wait.shown)

/-- Since `since`, a play-through is seen as another one since `first`: operations have the same answers,
the same waits were begun and are still held, the same events were given to listeners, the same was
reported, and all three drivers show the same. -/
structure Mirrors (since first world other : Setting) : Prop where
  snapshot : world.store.session.snapshot = other.store.session.snapshot
  asked : world.tasks.length = since.tasks.length + other.tasks.length
  answers : ∀ id, world.outcome? (since.tasks.length + id) = other.outcome? id
  begun : world.begun.map waitSeen = since.begun.map waitSeen ++ other.begun.map waitSeen
  waits : world.waits.map waitSeen = other.waits.map waitSeen
  deliveries : world.store.deliveries = since.store.deliveries ++ other.store.deliveries
  warnings : ∃ more, world.store.warnings = since.store.warnings ++ more
    ∧ other.store.warnings = first.store.warnings ++ more
  active : ∀ role, world.isActive role = other.isActive role
  crash : ∀ role, world.crash? role = other.crash? role
  idle : world.isIdle = other.isIdle

section Doubles

variable {since first world other after otherAfter : Setting} {known : Set SceneKind}

/-- What a play-through has behind it at some time, beside another one. -/
def beforehand (since first : Setting) : Before :=
  { deliveries := since.store.deliveries
    warnings := since.store.warnings
    first := first.store.warnings }

/-- A world echoes another one that has just been made, and nobody can tell them apart. -/
abbrev Doubled (since first : Setting) (known : Set SceneKind) (world other : Setting) : Prop :=
  World.Doubles (guise (beforehand since first)) since.tasks since.begun known world other

theorem mirrors_of_doubles (doubles : Doubled since first known world other) :
    Mirrors since first world other := by
  have echoes := doubles.echoes
  have alike : Resembles (beforehand since first) known world.store other.store := doubles.alike
  have moved : ∀ waits : List Wait,
      (waits.map (Wait.moved since.tasks.length)).map waitSeen = waits.map waitSeen := by
    intro waits
    rw [List.map_map]
    rfl
  refine ⟨alike.snapshot_eq, echoes.length_eq, echoes.outcome?_eq, ?_, ?_, alike.deliveries,
    alike.warnings, echoes.isActive_eq, ?_, echoes.isIdle_eq⟩
  · rw [echoes.begun, List.map_append, moved]
  · rw [echoes.waits, moved]
  · intro role
    unfold World.crash?
    rw [echoes.holdings role, Holding.moved]
    cases (other.holdings role).slot with
    | none => rfl
    | some held =>
        simp only [Option.map_some, Option.bind_some, echoes.outcome?_eq]

/-- Whatever happens to both, they stay like each other. -/
theorem doubles_make (doubles : Doubled since first known world other) (move : Move) :
    Option.Rel (fun after otherAfter => ∃ more, Doubled since first more after otherAfter)
      (move.make? world) (move.make? other) := by
  have turns : world.running = none ↔ other.running = none := by
    rw [doubles.echoes.running, Option.map_eq_none_iff]
  cases move with
  | step => exact .some (doubles.step (machine_discreet _))
  | ask demand =>
      simp only [Move.make?, turns]
      split
      · exact .some ⟨known, doubles.begin (demand.discreet _)⟩
      · exact .none
  | release position =>
      simp only [Move.make?, turns]
      split
      · generalize world.release? position = released, other.release? position = otherReleased,
          doubles.release? position = both
        cases both with
        | none => exact .none
        | some also => exact .some ⟨known, also⟩
      · exact .none

theorem doubles_follow (doubles : Doubled since first known world other) (moves : List Move) :
    Option.Rel (fun after otherAfter => ∃ more, Doubled since first more after otherAfter)
      (follow? world moves) (follow? other moves) := by
  induction moves generalizing known world other with
  | nil => exact .some ⟨known, doubles⟩
  | cons move moves inductionHypothesis =>
      unfold follow?
      generalize move.make? world = after, move.make? other = otherAfter, doubles_make doubles move = both
      cases both with
      | none => exact .none
      | some both =>
          obtain ⟨more, both⟩ := both
          exact inductionHypothesis both

/-- Whatever happens to both, the one is seen as the other. -/
theorem mirrors_follow (doubles : Doubled since first known world other) (moves : List Move) :
    Option.Rel (Mirrors since first) (follow? world moves) (follow? other moves) := by
  have both := doubles_follow doubles moves
  generalize follow? world moves = after, follow? other moves = otherAfter at both
  cases both with
  | none => exact .none
  | some both =>
      obtain ⟨more, both⟩ := both
      exact .some (mirrors_of_doubles both)

end Doubles

/-! ## After a restart -/

section Restart

variable {textScene : Option TextScene} {encounterScene : Option EncounterScene}
variable {preferences : Preferences} {flight : Option TaskId} {world restarted : Setting}

/-- No run changes which scenes and endings a play-through has. -/
theorem constant_of_unattended {before after : Setting} (unattended : World.Unattended machine before after)
    (attended : before.Attended manners flight) :
    after.store.session.endings = before.store.session.endings
      ∧ ∀ kind, (after.store.session.interpreter kind).scenario =
        (before.store.session.interpreter kind).scenario := by
  induction unattended with
  | here world => exact ⟨rfl, fun _ => rfl⟩
  | step _ inductionHypothesis =>
      obtain ⟨endings, scenario⟩ := constant_of_leads (attended.leads machine_decorous)
      obtain ⟨later, laterScenario⟩ := inductionHypothesis (attended.step machine_decorous)
      exact ⟨later.trans endings, fun kind => (laterScenario kind).trans (scenario kind)⟩
  | release position wait _ inductionHypothesis =>
      obtain ⟨endings, scenario⟩ := constant_of_leads (World.leads_of_release attended.balanced wait)
      obtain ⟨later, laterScenario⟩ := inductionHypothesis (attended.release? wait)
      exact ⟨later.trans endings, fun kind => (laterScenario kind).trans (scenario kind)⟩

/-- A world in which a restart has completed echoes a new one. -/
theorem doubles_of_renewed {chosen : Preferences} (renewed : Renewed chosen restarted)
    (endings : restarted.store.session.endings = (Session.initial textScene encounterScene chosen).endings)
    (scenario : ∀ kind, (restarted.store.session.interpreter kind).scenario =
      ((Session.initial textScene encounterScene chosen).interpreter kind).scenario) :
    Doubled restarted (World.initial (initial textScene encounterScene chosen)) ∅ restarted
      (World.initial (initial textScene encounterScene chosen)) := by
  refine ⟨World.echoes_initial renewed.noQueue renewed.noWaits renewed.noTurn renewed.vacant _, ?_,
    fun _ impossible => absurd impossible List.not_mem_nil⟩
  refine ⟨endings, renewed.anew.preferences, renewed.anew.phase, renewed.anew.score, renewed.clean .epilogue,
    ?_, (List.append_nil _).symm, [], (List.append_nil _).symm, (List.append_nil _).symm⟩
  intro kind
  right
  refine ⟨Set.notMem_empty kind, ?_, ?_, scenario kind⟩
  · cases kind with
    | text => exact renewed.clean .text
    | encounter => exact renewed.clean .encounter
  · cases kind <;> rfl

/-- Everything that moves by itself moves. -/
theorem Ranges.drain (ranges : Ranges textScene encounterScene preferences flight world) (fuel : Nat) :
    Ranges textScene encounterScene preferences flight (world.drain machine fuel) := by
  induction fuel generalizing world with
  | zero => exact ranges
  | succ fuel inductionHypothesis =>
      unfold World.drain
      split
      · exact ranges
      · exact inductionHypothesis ranges.step

/-- Once a restart has completed, whatever was asked of the play-through before it and wherever its drivers
were cut short, everything is as in a new play-through of the same scenes: what it shows, that no driver is
active and no wait is held, and what is seen of it whatever happens from then on. -/
theorem mirrors_of_restart {again : Option Preferences} {outcome : Outcome Reply}
    (ranges : Ranges textScene encounterScene preferences none world) (noTurn : world.running = none)
    (unattended : World.Unattended machine (world.begin (restart again)).2 restarted)
    (ended : restarted.outcome? world.tasks.length = some outcome) :
    outcome = .finished none
      ∧ restarted.store.session.snapshot =
          (Session.initial textScene encounterScene
            (again.getD world.store.session.preferences)).snapshot
      ∧ (∀ role, restarted.isActive role = false) ∧ restarted.waits = []
      ∧ ∀ moves, Option.Rel
          (Mirrors restarted
            (World.initial (initial textScene encounterScene (again.getD world.store.session.preferences))))
          (follow? restarted moves)
          (follow? (World.initial (initial textScene encounterScene
            (again.getD world.store.session.preferences))) moves) := by
  obtain ⟨finished, renewed⟩ := renewed_of_unattended ranges.attended noTurn unattended ended
  obtain ⟨endings, scenario⟩ := ranges.constant
  obtain ⟨sameEndings, sameScenario⟩ :=
    constant_of_unattended unattended (ranges.begin (.operation (.restart again)) noTurn).attended
  have doubles : Doubled restarted _ ∅ restarted _ :=
    doubles_of_renewed renewed (sameEndings.trans endings) fun kind =>
      ((sameScenario kind).trans (scenario kind)).trans (by cases kind <;> rfl)
  have mirrors := mirrors_of_doubles doubles
  refine ⟨finished, mirrors.snapshot, ?_, renewed.noWaits, ?_⟩
  · intro role
    rw [mirrors.active role]
    rfl
  · exact mirrors_follow doubles

/-- A text scene that is narrated in two passages. -/
def narrated : TextScene :=
  { TextScene.fallback with
    nodes := [.narrative ⟨"first", some .blank⟩, .narrative ⟨"second", some .blank⟩] }

/-- A restart cuts the first passage short. When the scene is begun again, the restarted play-through and a
new one begin the same wait, and both hold it. -/
theorem mirrors_of_restart_at_passage :
    ∃ world restarted : Setting, Ranges (some narrated) none .standard none world ∧ world.running = none
      ∧ world.waits.map Wait.task = [1]
      ∧ World.Unattended machine (world.begin (restart none)).2 restarted
      ∧ restarted.outcome? world.tasks.length = some (.finished none)
      ∧ (∀ role, restarted.isActive role = false) ∧ restarted.waits = []
      ∧ ∃ after other, follow? restarted (.ask (.operation .begin) :: List.replicate 20 .step) = some after
        ∧ Mirrors restarted (World.initial (initial (some narrated) none .standard)) after other
        ∧ other.waits.map waitSeen = [(⟨2000⟩, [])] := by
  have start : Ranges (some narrated) none .standard none _ := .construct
  have begun := (start.begin (.operation .begin) rfl).drain 20
  have plays : Ranges (some narrated) none .standard none _ :=
    begun.complete rfl (rfl : World.outcome? _ 0 = some (.finished none))
  obtain ⟨world, ranges, noTurn, holds, preferences, ended⟩ : ∃ world,
      Ranges (some narrated) none .standard none world ∧ world.running = none
        ∧ world.waits.map Wait.task = [1] ∧ world.store.session.preferences = .standard
        ∧ ((world.begin (restart none)).2.drain machine 20).outcome? world.tasks.length =
          some (.finished none) := ⟨_, plays, rfl, rfl, rfl, rfl⟩
  obtain ⟨-, -, inactive, silent, later⟩ :=
    mirrors_of_restart ranges noTurn (World.unattended_drain 20 _) ended
  obtain ⟨other, reached, waits⟩ : ∃ other, follow? (World.initial (initial (some narrated) none .standard))
      (.ask (.operation .begin) :: List.replicate 20 .step) = some other
        ∧ other.waits.map waitSeen = [(⟨2000⟩, [])] := ⟨_, rfl, rfl⟩
  refine ⟨world, _, ranges, noTurn, holds, World.unattended_drain 20 _, ended, inactive, silent, ?_⟩
  have both := later (.ask (.operation .begin) :: List.replicate 20 .step)
  rw [preferences, Option.getD_none, reached] at both
  generalize follow? _ _ = after at both ⊢
  cases both with
  | some mirrors => exact ⟨_, other, rfl, mirrors, waits⟩

end Restart

end Playthrough.Session.Alone
