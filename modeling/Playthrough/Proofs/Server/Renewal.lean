import Playthrough.Proofs.Server.Clearing
import Playthrough.Proofs.Session.Resemblance
import Playthrough.Proofs.Task.Survivors

/-!
Contract: a play-through that was restarted goes on as a new one.

Owns: that no request can tell two play-throughs apart that resemble each other (`Server.Wish.discreet`), the
relation between a play-through that was restarted and a new one (`Server.Guest.Renews`), and that it lasts
whatever happens to both (`Server.Guest.Replays.renews`).

Does not own: how a restart comes to where nothing is left of what was before it, and servers.

Two things tell the restarted play-through from the new one. Its tasks have other numbers, since tasks that are
over were made before them; and scenes that have not been begun remember the preferences they were played with.
The one is left out first (`World.Survives`), then the other (`World.Doubles`).
-/

namespace Playthrough.Server

/-! ## Nobody can tell them apart -/

namespace Guest

/-- How far play-throughs are alike. -/
def guise : Guise Session SceneKind where
  like := Session.Resembling
  weaker := Session.Resembling.weaker
  both := Session.Resembling.both

theorem conceals : seat.Conceals guise where
  walk _ := rfl
  resembling alike := alike
  regards _ same := same
  modify _ _ same := same
  deliver _ _ alike := alike
  warn _ alike := alike

theorem machine_discreet : machine.Discreet guise where
  body kind := conceals.walkBody kind
  shown _ _ _ _ := rfl

theorem discreet_conclude (wait : Bool) (known : Set SceneKind) : (conclude wait).Discreet guise known := by
  have shows : showSession.Discreet guise known := by
    refine .look (fun session other alike => ?_) fun _ => trivial
    rw [Session.Resembling.snapshot_eq alike]
  cases wait with
  | false => exact shows
  | true => exact shows

theorem discreet_opening (wait : Bool) (known : Set SceneKind) : (opening wait).Discreet guise known :=
  conceals.begin (discreet_conclude wait)

end Guest

/-- Whatever is wished of two play-throughs that are alike, they do the same. -/
theorem Wish.discreet (wish : Wish) (known : Set SceneKind) : wish.plan.Discreet Guest.guise known := by
  have conceals := Guest.conceals
  have looks : ∀ {program : Guest.Plan}, program.Discreet Guest.guise known →
      (Program.look fun _ => program).Discreet Guest.guise known :=
    fun discreet => .look (fun _ _ _ => rfl) fun _ => discreet
  refine looks (.update (fun _ _ _ _ alike => alike) ?_)
  cases wish with
  | observe wait => exact Guest.discreet_conclude wait known
  | select option wait => exact conceals.select option (fun _ => trivial) (Guest.discreet_conclude wait)
  | leave wait => exact conceals.triggerTransition trivial (Guest.discreet_conclude wait)
  | enter wait => exact conceals.beginEncounter trivial (Guest.discreet_conclude wait)
  | restart found wait =>
      cases found with
      | error fault => exact looks trivial
      | ok preferences => exact looks (conceals.restart _ (Guest.discreet_opening wait known))

/-! ## From where nothing is left -/

namespace Guest

/-- A play-through that was restarted by a task is a new one, once what was over before is left out and nobody
looks at what nobody has begun. -/
def Renews (task since : TaskId) (world other : Setting) : Prop :=
  ∃ known middle, World.Survives task since world middle ∧ World.Doubles guise [] [] known middle other

section Beginning

variable {textScene : Option TextScene} {encounterScene : Option EncounterScene} {old chosen : Preferences}
variable {wait : Bool} {task : TaskId} {places : List TaskId} {world : Setting}

/-- Where a restart has left nothing of what was before it, nobody goes on but the restart. -/
theorem Cleared.alone (cleared : Cleared chosen wait task world) (attended : world.Attended manners (some task))
    {other : TaskId} (different : other ≠ task) : world.isUnended other = false := by
  cases found : world.tasks[other]? with
  | none => simp [World.isUnended, found]
  | some known =>
      have own := World.owner_of_found found
      cases owner : known.owner with
      | some role =>
          rw [owner] at own
          exact (cleared.done role).cleared.ended other own
      | none =>
          rw [owner] at own
          by_contra goesOn
          have sole := attended.sole other own (by simpa using goesOn)
          exact different (Option.some.inj sole).symm

/-- The play-through itself is like a new one of the same scenes. -/
theorem Cleared.resembling (cleared : Cleared chosen wait task world)
    (regular : Regular (.initial textScene encounterScene old) places world) :
    Session.Resembling ∅ world.store (.initial textScene encounterScene chosen) where
  endings := regular.endings
  preferences := cleared.anew.preferences
  phase := cleared.anew.phase
  score := cleared.anew.score
  epilogue := (cleared.done .epilogue).clean
  scene kind := by
    have scenario := regular.scenario kind
    refine .inr ⟨Set.notMem_empty kind, ?_, ?_, ?_⟩
    · cases kind with
      | text => exact (cleared.done .text).clean
      | encounter => exact (cleared.done .encounter).clean
    · cases kind <;> rfl
    · cases kind <;> exact scenario

/-- From there on it is a new one. -/
theorem Cleared.renews (cleared : Cleared chosen wait task world) (attended : world.Attended manners (some task))
    (regular : Regular (.initial textScene encounterScene old) places world) :
    Renews task world.tasks.length world
      ((World.initial (.initial textScene encounterScene chosen)).begin (opening wait)).2 := by
  have survives : World.Survives task world.tasks.length world
      ((World.initial world.store).begin (opening wait)).2 :=
    .begins attended.balanced attended.decorous regular.timed (fun role => (cleared.done role).cleared.vacant)
      cleared.turn cleared.asks fun other different => cleared.alone attended different
  have echoes := World.echoes_initial (rfl : (World.initial world.store : Setting).queue = []) rfl rfl (fun _ => rfl)
    (.initial textScene encounterScene chosen)
  have doubles : World.Doubles guise [] [] ∅ (World.initial world.store : Setting)
      (World.initial (.initial textScene encounterScene chosen)) :=
    ⟨echoes, cleared.resembling regular, fun _ impossible => absurd impossible List.not_mem_nil⟩
  exact ⟨∅, _, survives, doubles.begin (discreet_opening wait ∅)⟩

end Beginning

/-! ## Whatever happens to both -/

namespace Renews

variable {task since : TaskId} {world other after : Setting}

theorem store_alike (renews : Renews task since world other) : ∃ known, Session.Resembling known world.store other.store := by
  obtain ⟨known, middle, survives, doubles⟩ := renews
  exact ⟨known, survives.store_eq ▸ doubles.alike⟩

/-- They show the same. -/
theorem snapshot_eq (renews : Renews task since world other) : world.store.snapshot = other.store.snapshot := by
  obtain ⟨known, alike⟩ := renews.store_alike
  exact alike.snapshot_eq

theorem isIdle_eq (renews : Renews task since world other) (balanced : world.Balanced) :
    world.isIdle = other.isIdle := by
  obtain ⟨known, middle, survives, doubles⟩ := renews
  rw [survives.isIdle_eq balanced, doubles.echoes.isIdle_eq]

/-- Requests have ended with the same. -/
theorem outcome?_eq (renews : Renews task since world other) {place : TaskId} (own : Since task since place) :
    world.outcome? place = other.outcome? (Nat.count (Since task since) place) := by
  obtain ⟨known, middle, survives, doubles⟩ := renews
  have same := doubles.echoes.outcome?_eq (Nat.count (Since task since) place)
  rw [List.length_nil, Nat.zero_add] at same
  rw [survives.outcome?_eq own, same]

/-- The next request has the next place in both. -/
theorem count_eq (renews : Renews task since world other) :
    since ≤ world.tasks.length ∧ Nat.count (Since task since) world.tasks.length = other.tasks.length := by
  obtain ⟨known, middle, survives, doubles⟩ := renews
  refine ⟨survives.grown, survives.lodges.length.trans ?_⟩
  rw [doubles.echoes.length_eq, List.length_nil, Nat.zero_add]

theorem step (renews : Renews task since world other) (sound : Sound world) :
    Renews task since (world.step machine) (other.step machine) := by
  obtain ⟨known, middle, survives, doubles⟩ := renews
  obtain ⟨more, stepped⟩ := doubles.step machine_discreet
  exact ⟨more, _, survives.step sound.balanced sound.decorous machine_decorous, stepped⟩

theorem goOn (renews : Renews task since world other) (sound : Sound world) (steps : Nat) :
    Renews task since (Guest.goOn steps world) (Guest.goOn steps other) := by
  induction steps with
  | zero => exact renews
  | succ steps inductionHypothesis =>
      rw [goOn_succ, goOn_succ]
      exact inductionHypothesis.step (sound.goOn steps)

/-- The same is asked of both. -/
theorem begin (renews : Renews task since world other) (wish : Wish) :
    Renews task since (world.begin wish.plan).2 (other.begin wish.plan).2 := by
  obtain ⟨known, middle, survives, doubles⟩ := renews
  exact ⟨known, _, survives.begin wish.plan, doubles.begin (wish.discreet known)⟩

/-- The same wait ends in both. -/
theorem release? (renews : Renews task since world other) (balanced : world.Balanced) {position : Nat}
    {otherAfter : Setting} (ends : world.release? position = some after)
    (otherEnds : other.release? position = some otherAfter) : Renews task since after otherAfter := by
  obtain ⟨known, middle, survives, doubles⟩ := renews
  obtain ⟨middleAfter, middleEnds, survivesAfter⟩ := survives.release? balanced ends
  have both := doubles.release? position
  rw [middleEnds, otherEnds] at both
  cases both with
  | some doublesAfter => exact ⟨known, middleAfter, survivesAfter, doublesAfter⟩

/-- When the next thing happens to both at the same pace, only that the one is late, they are the same until then.
-/
theorem of_kept {lead steps others : Nat} {pace : Pace} (renews : Renews task since (Guest.goOn lead world) other)
    (sound : Sound world) (kept : (pace.later lead).Kept steps ((Guest.goOn steps world).isIdle = true))
    (otherKept : pace.Kept others ((Guest.goOn others other).isIdle = true)) :
    Renews task since (Guest.goOn steps world) (Guest.goOn others other) := by
  have both : Renews task since (Guest.goOn (others + lead) world) (Guest.goOn others other) := by
    rw [goOn_add]
    exact renews.goOn (sound.goOn lead) others
  cases pace with
  | after expected =>
      have late : steps = lead + expected := kept
      have same : others = expected := otherKept
      rwa [late, Nat.add_comm, ← same]
  | atRest =>
      have idle : (Guest.goOn (others + lead) world).isIdle = true := by
        rw [both.isIdle_eq (sound.goOn _).balanced]
        exact otherKept
      rwa [goOn_eq_of_isIdle kept idle]

end Renews

/-- Whatever happens from where nothing is left of what was before a restart, the play-through stays a new one. The
induction is on what happens. -/
theorem Replays.renews {start fresh middle : Setting} {asked : List (Pace × Occurrence)} {places : List TaskId}
    {task since lead : Nat} (sound : Sound start) (arrived : Replays start asked (task :: places) middle)
    (older : task < since) (renews : Renews task since (goOn lead middle) fresh)
    {happened : List (Pace × Occurrence)} {others twins : List TaskId} {world other : Setting}
    (replays : Replays start (delayed lead happened ++ asked) others world)
    (again : Replays fresh happened twins other) :
    Renews task since (goOn (due lead happened) world) other
      ∧ ∃ later, others = later ++ task :: places ∧ (∀ place ∈ later, since ≤ place)
        ∧ (later ++ [task]).map (Nat.count (Since task since)) = twins := by
  induction happened generalizing others twins world other with
  | nil =>
      obtain ⟨rfl, rfl⟩ := arrived.unique replays
      cases again
      have first : Nat.count (Since task since) task = 0 := Nat.count_of_forall_not fun earlier before own => by
        rcases own with same | late
        · exact Nat.ne_of_lt before same
        · exact Nat.not_le_of_lt (Nat.lt_trans before older) late
      exact ⟨renews, [], rfl, by simp, by simp [first]⟩
  | cons item happened inductionHypothesis =>
      obtain ⟨pace, occurrence⟩ := item
      have promptly : due lead ((pace, occurrence) :: happened) = 0 := rfl
      rw [promptly]
      cases replays with
      | @asked _ _ reached steps _ earlier noTurn kept wish =>
          cases again with
          | @asked _ _ otherReached otherSteps _ otherEarlier otherNoTurn otherKept =>
              obtain ⟨same, later, rfl, late, rfl⟩ := inductionHypothesis earlier otherEarlier
              have both := same.of_kept (sound.replays earlier) kept otherKept
              obtain ⟨grown, count⟩ := both.count_eq
              refine ⟨both.begin wish, (goOn steps reached).tasks.length :: later, rfl, ?_, ?_⟩
              · exact List.forall_mem_cons.mpr ⟨grown, late⟩
              · rw [List.cons_append, List.map_cons, count]
      | @released _ _ reached _ steps _ earlier kept position ends =>
          cases again with
          | @released _ _ otherReached _ otherSteps _ otherEarlier otherKept _ otherEnds =>
              obtain ⟨same, places⟩ := inductionHypothesis earlier otherEarlier
              have both := same.of_kept (sound.replays earlier) kept otherKept
              exact ⟨both.release? ((sound.replays earlier).goOn steps).balanced ends otherEnds, places⟩

end Guest

end Playthrough.Server
