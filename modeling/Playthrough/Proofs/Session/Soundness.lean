import Playthrough.Proofs.Session.Requests

/-!
Contract: what is true of every play-through that occurs.

Owns: the invariant of play-throughs (`Sound`) and its preservation by every step, by every wait that
ends, and by every operation that begins or completes.

Does not own: what follows from it.

The invariant speaks of moments between two turns; of a moment within a turn it says that the turn ends
in such a moment.
-/

namespace Playthrough.Session.Alone

variable {scenes : Scenes} {history : History} {situation next : Situation} {outline : Draft}
variable {world : Setting} {flight : Flight}

/-- What is true of a play-through between two turns. -/
def Moment (scenes : Scenes) (history : History) (outline : Draft) : Prop :=
  ∃ situation, Progressing scenes history outline situation ∧
    (history.restarting = false → Chronicle scenes history situation outline.store.session)

/-- What is true of a play-through at any time. -/
structure Sound (scenes : Scenes) (history : History) (world : Setting) : Prop where
  balanced : world.Balanced
  lands : World.Lands machine
    (fun after => Moment scenes (history.noted after) after.outline) world
  noted : world.running = none → history.noted world = history

/-! ## Writing down the phase -/

theorem History.getLast?_notePhase (history : History) (phase : Phase) :
    (history.notePhase phase).phases.getLast? = some phase := by
  rw [History.notePhase]
  split
  · assumption
  · exact List.getLast?_concat

/-- What is written down between two turns. -/
theorem History.noted_between (noTurn : world.running = none) (notRestarting : history.restarting = false) :
    history.noted world =
      { history with
        phases := (history.notePhase world.store.session.phase).phases
        showing := world.store.session.offering?
        offered := (history.noteOffer world.store.session.offering?).offered } := by
  rw [History.noted, if_pos ⟨noTurn, notRestarting⟩]
  by_cases samePhase : history.phases.getLast? = some world.store.session.phase <;>
    by_cases sameOffer : history.showing = world.store.session.offering? <;>
      simp [History.notePhase, History.noteOffer, samePhase, sameOffer]
  rw [← sameOffer]

/-- What is written down is not what was done. -/
theorem History.noted_eq (history : History) (world : Setting) :
    ∃ phases showing offered, history.noted world =
      { history with phases := phases, showing := showing, offered := offered } := by
  by_cases between : world.running = none ∧ history.restarting = false
  · exact ⟨_, _, _, noted_between between.1 between.2⟩
  · exact ⟨history.phases, history.showing, history.offered, if_neg between⟩

theorem History.phases_noted (history : History) (world : Setting) :
    history.phases <+: (history.noted world).phases := by
  by_cases between : world.running = none ∧ history.restarting = false
  · rw [noted_between between.1 between.2]
    simp only [History.notePhase]
    split
    · exact List.prefix_rfl
    · exact List.prefix_append _ _
  · have same : history.noted world = history := by rw [History.noted, if_neg between]
    exact same.symm ▸ List.prefix_rfl

theorem History.noted_of_running {id : TaskId} (running : world.running = some id) :
    history.noted world = history := by
  simp [History.noted, running]

theorem History.noted_of_current
    (current : history.restarting = false →
      history.phases.getLast? = some world.store.session.phase
        ∧ history.showing = world.store.session.offering?) :
    history.noted world = history := by
  rw [History.noted]
  split
  · next between =>
      obtain ⟨phase, showing⟩ := current between.2
      rw [History.notePhase, if_pos phase, History.noteOffer, if_pos showing]
  · rfl

theorem History.restarting_noted : (history.noted world).restarting = history.restarting := by
  obtain ⟨phases, showing, offered, same⟩ := history.noted_eq world
  rw [same]
  rfl

theorem History.noted_noted : (history.noted world).noted world = history.noted world := by
  by_cases between : world.running = none ∧ history.restarting = false
  · refine noted_of_current ?_
    intro _
    rw [noted_between between.1 between.2]
    exact ⟨history.getLast?_notePhase _, rfl⟩
  · have same : history.noted world = history := if_neg between
    rw [same, same]

/-- What is written down does not matter to where a play-through stands. -/
theorem Progressing.noted (progressing : Progressing scenes history outline situation)
    (world : Setting) : Progressing scenes (history.noted world) outline situation := by
  obtain ⟨phases, showing, offered, same⟩ := history.noted_eq world
  rw [same]
  cases progressing with
  | free noFlight calm same standing => exact .free noFlight calm same standing
  | engaged inFlight standing waits engaged same awaits =>
      exact .engaged inFlight standing waits engaged same awaits
  | closed inFlight standing gone ended concluded =>
      exact .closed inFlight standing gone ended
        ⟨concluded.calm, concluded.begun, concluded.restarted, concluded.same, concluded.took,
          concluded.settled, concluded.moved, concluded.answered⟩

theorem Progressing.standing (progressing : Progressing scenes history outline situation) :
    ∃ bystanders, Standing scenes situation bystanders outline := by
  cases progressing with
  | free _ _ _ standing => exact ⟨_, standing⟩
  | engaged _ standing _ _ _ _ => exact ⟨_, standing⟩
  | closed _ standing _ _ _ => exact ⟨_, standing⟩

theorem Progressing.looks (progressing : Progressing scenes history outline situation) :
    situation.Looks scenes outline.store.session := by
  cases progressing with
  | free _ _ _ standing => exact standing.looks
  | engaged _ standing _ _ _ _ => exact standing.looks
  | closed _ standing _ _ _ => exact standing.looks

theorem Progressing.restarting_of_clearing {outline : Draft} {stage : Role} {leaver : Option TaskId}
    (progressing : Progressing scenes history outline (.clearing stage leaver)) :
    history.restarting = true := by
  cases progressing with
  | free _ calm _ _ => exact calm.elim
  | closed _ _ _ _ concluded => exact concluded.calm.elim
  | engaged inFlight _ _ engaged _ _ =>
      exact (History.restarting_of_flight inFlight).trans engaged.restarts

theorem route_starts (pacing : Pacing) : [Phase.textScene] <+: route pacing := by
  cases pacing <;> decide

theorem nodup_route (pacing : Pacing) : (route pacing).Nodup := by
  cases pacing <;> decide

/-- A phase is followed on the route by the next one. -/
theorem follows_of_advance {pacing : Pacing} {before after : Phase} (advance : Advance pacing before after)
    (changed : before ≠ after) (onRoute : before ∈ route pacing) :
    ∃ first rest, route pacing = first ++ before :: after :: rest := by
  cases advance with
  | stay _ => exact absurd rfl changed
  | reveal slow => exact ⟨[], [.encounter, .epilogue], if_neg slow⟩
  | skip fast => exact ⟨[], [.epilogue], if_pos fast⟩
  | confirm =>
      cases pacing with
      | fast => simp [route] at onRoute
      | medium => exact ⟨[.textScene], [.epilogue], rfl⟩
      | native => exact ⟨[.textScene], [.epilogue], rfl⟩
  | finish =>
      cases pacing with
      | fast => exact ⟨[.textScene], [], rfl⟩
      | medium => exact ⟨[.textScene, .transition], [], rfl⟩
      | native => exact ⟨[.textScene, .transition], [], rfl⟩

/-- What leads up to a phase on the route goes on with the next one. -/
theorem prefix_route_of_advance {pacing : Pacing} {before after : Phase} {phases : List Phase}
    (advance : Advance pacing before after) (onRoute : phases <+: route pacing)
    (last : phases.getLast? = some before) (changed : before ≠ after) :
    phases ++ [after] <+: route pacing := by
  obtain ⟨ahead, whole⟩ := onRoute
  obtain ⟨earlier, rfl⟩ := List.getLast?_eq_some_iff.mp last
  have reached : before ∈ route pacing := by
    rw [← whole]
    simp
  obtain ⟨first, rest, split⟩ := follows_of_advance advance changed reached
  have same : earlier ++ before :: ahead = first ++ before :: after :: rest := by
    rw [← split, ← whole]
    simp
  have once : (earlier ++ before :: ahead).Nodup := by
    rw [same, ← split]
    exact nodup_route pacing
  obtain ⟨-, ahead_nodup, apart⟩ := List.nodup_append.mp once
  have notEarlier : before ∉ earlier := fun member => apart before member before (by simp) rfl
  have notAhead : before ∉ ahead := (List.nodup_cons.mp ahead_nodup).1
  obtain ⟨-, -, rfl⟩ := (List.append_cons_inj_of_notMem notEarlier notAhead).mp same
  exact ⟨rest, by rw [← whole]; simp⟩

/-! ## From moment to moment -/

section Following

variable {before : Session}

/-- The phases that were written down stay on the route. -/
theorem Chronicle.phases_notePhase (chronicle : Chronicle scenes history situation before)
    (moves : Onward before.preferences.pacing situation next) :
    (history.notePhase next.phase).phases <+: route before.preferences.pacing := by
  have last := chronicle.current
  rw [chronicle.phase] at last
  by_cases changed : situation.phase = next.phase
  · rw [History.notePhase, if_pos (by rw [last, changed])]
    exact chronicle.phases
  · rw [History.notePhase, if_neg (by rw [last]; simpa using changed)]
    exact prefix_route_of_advance moves.phase chronicle.phases last changed

/-- What comes on offer was not on offer before. -/
theorem Chronicle.nodup_noteOffer {pacing : Pacing}
    (chronicle : Chronicle scenes history situation before) (moves : Onward pacing situation next) :
    (history.noteOffer next.offering?).offered.Nodup := by
  rw [History.noteOffer]
  split
  · exact chronicle.anew
  · next changed =>
      cases offers : next.offering? with
      | none => simpa using chronicle.anew
      | some place =>
          refine List.nodup_append.mpr ⟨chronicle.anew, by simp, ?_⟩
          rintro earlier member later last rfl
          have same : earlier = place := by simpa using last
          subst same
          refine changed ?_
          rw [chronicle.showing, chronicle.offering, offers]
          refine moves.stays earlier ?_ offers
          by_contra hidden
          exact chronicle.beyond earlier member hidden
            (moves.offers earlier (Situation.mayOffer_of_offering? offers))

theorem Chronicle.beyond_noteOffer {pacing : Pacing}
    (chronicle : Chronicle scenes history situation before) (moves : Onward pacing situation next) :
    ∀ place ∈ (history.noteOffer next.offering?).offered, next.showing? ≠ some place →
      ¬ next.MayOffer place := by
  have earlier : ∀ place ∈ history.offered, next.showing? ≠ some place → ¬ next.MayOffer place := by
    intro place member hidden
    by_cases shown : situation.showing? = some place
    · exact (moves.lasts place shown).resolve_left hidden
    · exact fun mayOffer => chronicle.beyond place member shown (moves.offers place mayOffer)
  rw [History.noteOffer]
  split
  · exact earlier
  · intro place member hidden
    rcases List.mem_append.mp member with old | new
    · exact earlier place old hidden
    · exact absurd (Situation.showing?_of_offering? (by simpa using new)) hidden

/-- A play-through that is not restarting shows what its situation does. -/
theorem Progressing.offering? (progressing : Progressing scenes history outline situation)
    (notRestarting : history.restarting = false) :
    outline.store.session.offering? = situation.offering? := by
  refine progressing.looks.offering? ?_
  rintro stage leaver rfl
  rw [progressing.restarting_of_clearing] at notRestarting
  cases notRestarting

end Following

/-- A turn leads from one moment to another. -/
theorem Moment.of_continues {after : Setting} {before : Draft}
    {nearer : TaskId → Situation → Draft → Prop}
    (continues : Continues scenes history situation before nearer after.outline)
    (noTurn : after.running = none)
    (chronicle : history.restarting = false →
      Chronicle scenes history situation before.store.session) :
    Moment scenes (history.noted after) after.outline := by
  obtain ⟨next, progressing, onward, -⟩ := continues
  refine ⟨next, progressing.noted after, ?_⟩
  intro notRestarting
  rw [History.restarting_noted] at notRestarting
  obtain ⟨moves, same⟩ := onward notRestarting
  have earlier := chronicle notRestarting
  have phase : after.store.session.phase = next.phase := progressing.looks.phase
  have offering : after.store.session.offering? = next.offering? :=
    progressing.offering? notRestarting
  rw [History.noted_between noTurn notRestarting, phase, offering]
  refine ⟨phase, offering, ?_, ?_, offering.symm, earlier.nodup_noteOffer moves,
    earlier.beyond_noteOffer moves, earlier.once, earlier.choices, ?_⟩
  · rw [same]
    exact earlier.phases_notePhase moves
  · exact (history.getLast?_notePhase next.phase).trans (congrArg some phase.symm)
  · intro place member mayOffer
    exact earlier.passed place member (moves.offers place mayOffer)

theorem Chronicle.initial {session : Session} (looks : Situation.Looks scenes .fresh session) :
    Chronicle scenes .initial .fresh session where
  phase := looks.1
  offering := looks.offering? (by simp)
  phases := route_starts _
  current := by
    rw [looks.1]
    rfl
  showing := (looks.offering? (by simp)).symm
  anew := .nil
  beyond place member := by cases member
  once := .nil
  choices place member := by cases member
  passed place member := by cases member

/-- What was written down does not depend on what is going on. -/
theorem Chronicle.of_operation {session : Session}
    (chronicle : Chronicle scenes history situation session) (flight : Option Flight) (fresh : Bool) :
    Chronicle scenes { history with flight := flight, fresh := fresh } situation session :=
  ⟨chronicle.phase, chronicle.offering, chronicle.phases, chronicle.current, chronicle.showing,
    chronicle.anew, chronicle.beyond, chronicle.once, chronicle.choices, chronicle.passed⟩

/-- A choice was made at a place that offers no more. -/
theorem Chronicle.take {session : Session} {place : SceneKind × Nat}
    (chronicle : Chronicle scenes history situation session) (offers : scenes.Offers place)
    (new : place ∉ history.taken) (beyond : ¬ situation.MayOffer place) :
    Chronicle scenes { history with taken := history.taken ++ [place] } situation session where
  phase := chronicle.phase
  offering := chronicle.offering
  phases := chronicle.phases
  current := chronicle.current
  showing := chronicle.showing
  anew := chronicle.anew
  beyond := chronicle.beyond
  once := by
    refine List.nodup_append.mpr ⟨chronicle.once, by simp, ?_⟩
    rintro earlier member later last rfl
    rw [List.mem_singleton.mp last] at member
    exact new member
  choices chosen member := by
    rcases List.mem_append.mp member with earlier | last
    · exact chronicle.choices chosen earlier
    · rw [List.mem_singleton.mp last]
      exact offers
  passed chosen member := by
    rcases List.mem_append.mp member with earlier | last
    · exact chronicle.passed chosen earlier
    · rw [List.mem_singleton.mp last]
      exact beyond

/-- An operation that has ended leads from one moment to another when it completes. -/
theorem Moment.of_completed {outcome : Outcome Reply} (inFlight : history.flight = some flight)
    (standing : Standing scenes situation [] outline)
    (concluded : Concluded scenes history flight situation outcome)
    (chronicle : history.restarting = false →
      Chronicle scenes history situation outline.store.session) :
    Moment scenes (history.completed flight outcome) outline := by
  obtain ⟨calm, begun, restarted, same, took, -, -, -⟩ := concluded
  have notRestarting : flight.operation.isRestart = false →
      Chronicle scenes history situation outline.store.session := by
    intro notRestart
    exact chronicle ((History.restarting_of_flight inFlight).trans notRestart)
  obtain ⟨task, operation, place, accepts⟩ := flight
  have keeps : operation ≠ .begin → operation.isRestart = false →
      Moment scenes { history with flight := none } outline := by
    intro notBegin notRestart
    exact ⟨situation, .free rfl calm (same notBegin notRestart) standing, fun _ =>
      (notRestarting notRestart).of_operation none history.fresh⟩
  cases operation with
  | begin =>
      exact ⟨situation, .free rfl calm (begun rfl) standing, fun _ =>
        (notRestarting rfl).of_operation none false⟩
  | restart preferences =>
      have fresh := restarted rfl
      subst fresh
      exact ⟨.fresh, .free rfl calm rfl standing, fun _ => .initial standing.looks⟩
  | triggerTransition => exact keeps (by simp) rfl
  | beginEncounter => exact keeps (by simp) rfl
  | settle => exact keeps (by simp) rfl
  | select id =>
      by_cases accepted : outcome = .finished (some (.verdict true))
      · rw [History.completed, if_pos accepted]
        obtain ⟨taken, placed, offers, new, beyond⟩ := took id rfl accepted
        cases placed
        have chosen := (notRestarting rfl).take offers new beyond
        exact ⟨situation, .free rfl calm (same (by simp) rfl) standing, fun _ =>
          chosen.of_operation none history.fresh⟩
      · rw [History.completed, if_neg accepted]
        exact keeps (by simp) rfl

namespace Sound

theorem moment (sound : Sound scenes history world) (noTurn : world.running = none) :
    Moment scenes history world.outline := by
  have reached := sound.lands.reached noTurn
  rwa [sound.noted noTurn] at reached

/-- A moment that was written down already. -/
theorem of_moment (balanced : world.Balanced) (noTurn : world.running = none)
    (moment : Moment scenes history world.outline) (noted : history.noted world = history) :
    Sound scenes history world := by
  refine ⟨balanced, .here noTurn ?_, fun _ => noted⟩
  rw [noted]
  exact moment

/-- A turn that has begun and leads to a moment. -/
theorem of_turn {id : TaskId} (balanced : world.Balanced) (running : world.running = some id)
    (lands : World.Lands machine
      (fun after => Moment scenes (history.noted after) after.outline) world) :
    Sound scenes history world := by
  refine ⟨balanced, lands, ?_⟩
  intro noTurn
  rw [running] at noTurn
  cases noTurn

theorem initial (textScene : Option TextScene) (encounterScene : Option EncounterScene)
    (preferences : Preferences) :
    Sound (.given textScene encounterScene) .initial
      (World.initial (Alone.initial textScene encounterScene preferences)) := by
  let scenes : Scenes := .given textScene encounterScene
  let world : Setting := World.initial (Alone.initial textScene encounterScene preferences)
  have standing : Standing scenes .fresh [] world.outline := by
    refine ⟨⟨?_, rfl⟩, ⟨rfl, rfl, ⟨rfl, rfl, rfl, rfl⟩, ⟨rfl, rfl, rfl, rfl⟩⟩, fun _ => rfl, ?_, ?_, ?_,
      ?_, ?_, ?_⟩
    · intro kind
      cases kind <;> rfl
    · intro role id holding
      cases holding
    · intro role other id holding
      cases holding
    · intro id member
      cases member
    · intro role id performs
      cases performs
    · intro stage id clears
      cases clears
    · intro id task found
      simp [world, World.outline, World.initial] at found
  have chronicle : Chronicle scenes .initial .fresh world.store.session := .initial standing.looks
  refine of_moment (World.orderly_initial _) rfl ?_ ?_
  · exact ⟨.fresh, .free rfl trivial rfl standing, fun _ => chronicle⟩
  · exact History.noted_of_current fun _ => ⟨rfl, rfl⟩

/-- What the first turn of an operation makes of a play-through. -/
theorem lands_begin (sound : Sound scenes history world) (noTurn : world.running = none)
    (free : history.flight = none) (operation : Operation)
    (timely : operation = .begin → history.fresh = true) :
    ∃ situation, Chronicle scenes (history.began operation world) situation world.store.session ∧
      World.Lands machine
        (fun after => Continues scenes (history.began operation world) situation
          (world.outline.add (.fresh none operation.plan)) (fun _ _ _ => True) after.outline)
        (world.begin operation.plan).2 := by
  obtain ⟨situation, progressing, chronicle⟩ := sound.moment noTurn
  have notRestarting : history.restarting = false := by
    rw [History.restarting, free]
  have earlier := chronicle notRestarting
  refine ⟨situation, earlier.of_operation _ history.fresh, ?_⟩
  cases progressing with
  | engaged inFlight _ _ _ _ _ =>
      rw [free] at inFlight
      cases inFlight
  | closed inFlight _ _ _ _ =>
      rw [free] at inFlight
      cases inFlight
  | free _ calm same standing =>
      have stands := standing.add calm (Task.fresh none operation.plan)
      have inFlight : (history.began operation world).flight =
          some ⟨world.tasks.length, operation, world.store.session.place?,
            operation.isAccepted world.store.session⟩ := rfl
      have unended : world.outline.outcomes world.tasks.length = none := by simp [World.outline]
      exact World.lands_begin _ (conducts_plan inFlight rfl rfl timely calm same stands unended)

/-- What a turn makes of a play-through, if the next step begins one. -/
theorem lands_step (sound : Sound scenes history world) (noTurn : world.running = none) :
    ((world.step machine).running = none ∧ (world.step machine).outline = world.outline) ∨
      ∃ id situation, (world.step machine).running = some id ∧
        (history.restarting = false → Chronicle scenes history situation world.store.session) ∧
        World.Lands machine
          (fun after => Continues scenes history situation world.outline
            (fun someone => Nearer someone situation world.outline) after.outline)
          (world.step machine) := by
  obtain ⟨situation, progressing, chronicle⟩ := sound.moment noTurn
  rcases World.step_cases machine sound.balanced noTurn with
    ⟨stillNoTurn, same, -⟩ | ⟨id, task, base, found, sameOutline, stepped, unawaited⟩
  · exact .inl ⟨stillNoTurn, same⟩
  · have passed : history.restarting = false → ∀ place ∈ history.taken, ¬ situation.MayOffer place :=
      fun notRestarting => (chronicle notRestarting).passed
    refine .inr ⟨id, situation, ?_, chronicle, ?_⟩
    · rw [stepped]
      rfl
    · rw [stepped]
      exact continues_turn progressing sameOutline found unawaited passed

theorem begin (sound : Sound scenes history world) (noTurn : world.running = none)
    (free : history.flight = none) (operation : Operation)
    (timely : operation = .begin → history.fresh = true) :
    Sound scenes (history.began operation world) (world.begin operation.plan).2 := by
  obtain ⟨situation, chronicle, lands⟩ := sound.lands_begin noTurn free operation timely
  have running : (world.begin operation.plan).2.running = some world.tasks.length := rfl
  refine of_turn (sound.balanced.begin noTurn _) running (lands.mono ?_)
  intro after stopped continues
  exact Moment.of_continues continues stopped fun _ => chronicle

theorem step (sound : Sound scenes history world) :
    Sound scenes (history.noted (world.step machine)) (world.step machine) := by
  have balanced := sound.balanced.step machine
  have settles : (world.step machine).running = none →
      Moment scenes (history.noted (world.step machine)) (world.step machine).outline →
      Sound scenes (history.noted (world.step machine)) (world.step machine) := by
    intro noTurn moment
    exact of_moment balanced noTurn moment History.noted_noted
  cases running : world.running with
  | some id =>
      have onward := sound.lands.onward running
      cases next : (world.step machine).running with
      | none => exact settles next (onward.reached next)
      | some other =>
          rw [History.noted_of_running next]
          exact of_turn balanced next onward
  | none =>
      rcases sound.lands_step running with ⟨noTurn, same⟩ | ⟨id, situation, next, chronicle, lands⟩
      · obtain ⟨situation, progressing, chronicle⟩ := sound.moment running
        have sameStore : (world.step machine).store = world.store :=
          congrArg Outline.store same
        have noted : history.noted (world.step machine) = history := by
          refine History.noted_of_current ?_
          intro notRestarting
          rw [sameStore]
          exact ⟨(chronicle notRestarting).current, (chronicle notRestarting).showing⟩
        rw [noted]
        refine of_moment balanced noTurn ?_ noted
        rw [same]
        exact ⟨situation, progressing, chronicle⟩
      · rw [History.noted_of_running next]
        refine of_turn balanced next (lands.mono ?_)
        intro after stopped continues
        exact Moment.of_continues continues stopped chronicle

theorem release (sound : Sound scenes history world) {released : Setting}
    (noTurn : world.running = none) {position : Nat} (wait : world.release? position = some released) :
    Sound scenes history released := by
  have orderly : world.Orderly none := by
    rw [← noTurn]
    exact sound.balanced
  have same : released.outline = world.outline := World.outline_release? orderly wait
  obtain ⟨situation, progressing, chronicle⟩ := sound.moment noTurn
  have sameStore : released.store = world.store := congrArg Outline.store same
  have stillNoTurn : released.running = none := by
    obtain ⟨-, -, rfl⟩ := World.release?_eq_some.mp wait
    exact noTurn
  refine of_moment (sound.balanced.release? wait) stillNoTurn ?_ ?_
  · rw [same]
    exact ⟨situation, progressing, chronicle⟩
  · refine History.noted_of_current ?_
    intro notRestarting
    rw [sameStore]
    exact ⟨(chronicle notRestarting).current, (chronicle notRestarting).showing⟩

theorem complete (sound : Sound scenes history world) {outcome : Outcome Reply}
    (noTurn : world.running = none) (inFlight : history.flight = some flight)
    (ended : world.outcome? flight.task = some outcome) :
    Sound scenes (history.completed flight outcome) world := by
  obtain ⟨situation, progressing, chronicle⟩ := sound.moment noTurn
  have known : world.outline.outcomes flight.task = some outcome := ended
  cases progressing with
  | free noFlight _ _ _ =>
      rw [noFlight] at inFlight
      cases inFlight
  | engaged sameFlight _ waits _ _ _ =>
      rw [sameFlight] at inFlight
      cases inFlight
      rw [World.no_outcome waits] at known
      cases known
  | closed sameFlight standing gone recorded concluded =>
      rw [sameFlight] at inFlight
      cases inFlight
      rw [recorded] at known
      cases known
      have moment : Moment scenes (history.completed flight outcome) world.outline :=
        .of_completed sameFlight (standing.dismiss concluded.calm gone) concluded chronicle
      have noted : (history.completed flight outcome).noted world =
          history.completed flight outcome := by
        obtain ⟨stands, -, written⟩ := moment
        exact History.noted_of_current fun notRestarting =>
          ⟨(written notRestarting).current, (written notRestarting).showing⟩
      exact of_moment sound.balanced noTurn moment noted

theorem of_occurs {textScene : Option TextScene} {encounterScene : Option EncounterScene}
    {preferences : Preferences} (occurs : Occurs textScene encounterScene preferences history world) :
    Sound (.given textScene encounterScene) history world := by
  induction occurs with
  | construct => exact .initial textScene encounterScene preferences
  | begin operation _ noTurn free timely inductionHypothesis =>
      exact inductionHypothesis.begin noTurn free operation timely
  | step _ inductionHypothesis => exact inductionHypothesis.step
  | release _ noTurn _ wait inductionHypothesis => exact inductionHypothesis.release noTurn wait
  | complete _ noTurn inFlight ended inductionHypothesis =>
      exact inductionHypothesis.complete noTurn inFlight ended

end Sound

end Playthrough.Session.Alone
