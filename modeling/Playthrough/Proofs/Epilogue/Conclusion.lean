import Mathlib.Data.Prod.Lex
import Playthrough.Proofs.Epilogue.Playback

/-!
Contract: what is seen of the only epilogue between two turns.

Owns: the moves of an epilogue of which nobody asks for anything (`Moves`), what comes whichever of them
are made (`Comes`), that an ending which nobody stops comes to its end, and what an epilogue that is given
one call after the other shows at every moment (`Shows`).

Does not own: what its turns do.

Nothing is asked of the order of the moves. An ending comes to its end since every move leaves less to be
done and since nothing can be left to be done without a move.
-/

namespace Playthrough.Epilogue.Alone

variable {record : Record} {world after : Setting} {goal : Setting → Prop} {showing : Showing}

/-! ## Whatever is moved -/

/-- A move of a world of which nobody asks for anything. -/
inductive Moves : Setting → Setting → Prop where
  | step {world : Setting} (busy : world.isIdle = false) : Moves world (world.step machine)
  | release {world released : Setting} (noTurn : world.running = none) (position : Nat)
      (wait : world.release? position = some released) : Moves world released

/-- A world can move until something is reached, and that comes whatever the moves are. -/
inductive Comes (goal : Setting → Prop) : Setting → Prop where
  | here {world : Setting} (reached : goal world) : Comes goal world
  | onward {world : Setting} (able : ∃ after, Moves world after)
      (rest : ∀ after, Moves world after → Comes goal after) : Comes goal world

theorem Occurs.moves (occurs : Occurs record world) (moves : Moves world after) : Occurs record after := by
  cases moves with
  | step => exact occurs.step
  | release noTurn position wait => exact occurs.release noTurn position wait

/-- A turn is brought to its end. -/
theorem Comes.of_lands {post : Setting → Prop} (lands : World.Lands machine post world)
    (occurs : Occurs record world)
    (further : ∀ after, Occurs record after → after.running = none → post after → Comes goal after) :
    Comes goal world := by
  induction lands with
  | here noTurn reached => exact further _ occurs noTurn reached
  | @step world id running _ inductionHypothesis =>
      have busy : world.isIdle = false := by simp [World.isIdle, running]
      refine .onward ⟨_, .step busy⟩ fun after moves => ?_
      cases moves with
      | step => exact inductionHypothesis occurs.step
      | release noTurn _ _ =>
          rw [running] at noTurn
          cases noTurn

/-! ## Nobody stops an ending -/

/-- An ending was played to its end. -/
structure Concluded (showing : Showing) (world : Setting) : Prop where
  noTurn : world.running = none
  ready : world.store.epilogue.restartReady = true
  log : world.store.epilogue.events = showing.label :: showing.texts

/-- An ending that has nothing left to be done was played to its end. -/
theorem Sound.concluded_of_rest {situation : Situation} (sound : Sound record world)
    (noTurn : world.running = none) (alone : record.flight = none)
    (standing : Standing situation none world.outline)
    (tells : Tells (some showing) false situation) (idle : world.isIdle = true)
    (silent : world.waits = []) : Concluded showing world := by
  have attended : world.Attended manners none := by
    have attended := sound.attended
    rwa [alone] at attended
  have ended := attended.ended_of_rest idle silent
  cases tells with
  | playing _ id left =>
      obtain ⟨task, -, found, -⟩ := standing.performs showing id left rfl
      have goesOn : world.isUnended id = true := by rw [World.isUnended_eq, found]; rfl
      rw [ended id] at goesOn
      cases goesOn
  | played _ id =>
      have looks : world.store.epilogue = showing.whole := standing.looks
      exact ⟨noTurn, by rw [looks]; rfl, by rw [looks, showing.events_whole]⟩

/-- An ending that nobody stops comes to its end, in whichever order the waits end. -/
theorem Occurs.comes {situation : Situation} (occurs : Occurs record world)
    (noTurn : world.running = none) (alone : record.flight = none)
    (asked : record.showing = some showing) (kept : record.stopped = false)
    (standing : Standing situation none world.outline) (fits : Fits record situation none) :
    Comes (Concluded showing) world := by
  -- What is left to be shown decreases with every turn, and between turns what was asked for does.
  induction measure : toLex (ahead situation world.outline, world.calls) using
    WellFoundedLT.induction generalizing world situation with
  | ind _ inductionHypothesis =>
  subst measure
  have sound := Sound.of_occurs occurs
  have calmer : ∀ later : Setting, Occurs record later → later.running = none →
      later.outline = world.outline → later.calls < world.calls → Comes (Concluded showing) later := by
    intro later stillOccurs stillNoTurn sameOutline fewer
    refine inductionHypothesis _ ?_ stillOccurs stillNoTurn (sameOutline ▸ standing) fits rfl
    rw [sameOutline]
    exact Prod.Lex.toLex_lt_toLex.mpr (.inr ⟨rfl, fewer⟩)
  have onward : (∃ after, Moves world after) → Comes (Concluded showing) world := by
    refine fun able => .onward able fun after moves => ?_
    have stillOccurs := occurs.moves moves
    cases moves with
    | release _ position wait =>
        have stillNoTurn : after.running = none := by
          obtain ⟨_, _, rfl⟩ := World.release?_eq_some.mp wait
          exact noTurn
        have orderly : world.Orderly none := by
          rw [← noTurn]
          exact sound.attended.balanced
        exact calmer after stillOccurs stillNoTurn (World.outline_release? orderly wait)
          (World.calls_release? wait)
    | step busy =>
        rcases World.step_cases machine sound.attended.balanced noTurn with
          ⟨stillNoTurn, sameOutline, isIdle | fewer⟩ | ⟨id, task, base, found, same, stepped, -⟩
        · rw [busy] at isIdle
          cases isIdle
        · exact calmer _ stillOccurs stillNoTurn sameOutline fewer
        · have sameStore : base.store = world.store := congrArg Outline.store same
          have lands := lands_driver (same ▸ standing) fits (same ▸ found) nofun
          rw [sameStore, ← stepped] at lands
          refine .of_lands lands stillOccurs fun later laterOccurs laterNoTurn reached => ?_
          obtain ⟨next, stands, stillFits, less⟩ := reached
          rw [same] at less
          exact inductionHypothesis _ (Prod.Lex.toLex_lt_toLex.mpr (.inl less)) laterOccurs laterNoTurn
            stands stillFits rfl
  cases idle : world.isIdle with
  | false => exact onward ⟨_, .step idle⟩
  | true =>
      cases held : world.waits with
      | cons wait others =>
          cases oldest : world.release? 0 with
          | none => simp [World.release?, held] at oldest
          | some released => exact onward ⟨released, .release noTurn 0 oldest⟩
      | nil =>
          cases fits with
          | free _ tells =>
              rw [asked, kept] at tells
              exact .here (sound.concluded_of_rest noTurn alone standing tells idle held)
          | forgot flight =>
              rw [alone] at flight
              cases flight

/-! ## What is seen -/

/-- What an epilogue shows of what is remembered of its calls. -/
structure Shows (record : Record) (world : Setting) : Prop where
  /-- The log is that of the ending that was asked for last, until it is forgotten. -/
  log : ∀ showing, record.showing = some showing → (∀ id, record.flight ≠ some (id, .reset)) →
    world.store.epilogue.tier = showing.tier
      ∧ ∃ count, world.store.epilogue.events = showing.label :: showing.texts.take count
  /-- An ending that is said to be over was shown as a whole, and nothing is being played. -/
  ready : world.store.epilogue.restartReady = true → ∃ showing, record.showing = some showing
    ∧ world.store.epilogue.events = showing.label :: showing.texts ∧ world.isActive () = false
  /-- An ending that nobody stops comes to its end, whichever waits end first. -/
  comes : ∀ showing, record.showing = some showing → record.stopped = false → record.flight = none →
    Comes (Concluded showing) world
  /-- Nothing is left of an ending that was forgotten. -/
  forgotten : record.showing = none → world.store.epilogue = .blank ∧ world.isActive () = false
    ∧ (record.flight = none → world.isIdle = true ∧ world.waits = [])

section Seen

variable {situation : Situation} {visitor : Option (TaskId × Plan)}

/-- The situation is what is remembered, unless a reset has forgotten it already. -/
theorem Fits.tells_or_forgot (fits : Fits record situation visitor) :
    Tells record.showing record.stopped situation
      ∨ situation = .blank ∧ ∃ id, record.flight = some (id, .reset) := by
  cases fits with
  | waits _ _ _ tells => exact .inl tells
  | free _ tells => exact .inl tells
  | forgot flight => exact .inr ⟨rfl, _, flight⟩

/-- What is shown of an ending that was asked for. -/
theorem Tells.shown {showing? : Option Showing} {stopped : Bool} {epilogue : Epilogue}
    (tells : Tells showing? stopped situation) (looks : situation.Looks epilogue)
    (asked : showing? = some showing) :
    (∃ count, epilogue = showing.shown count) ∨ epilogue = showing.whole := by
  cases tells with
  | blank => cases asked
  | playing => cases asked; exact .inl looks
  | played => cases asked; exact .inr looks
  | stopped => cases asked; exact looks

/-- An ending that is said to be over was shown as a whole. -/
theorem Tells.whole {showing? : Option Showing} {stopped : Bool} {epilogue : Epilogue}
    (tells : Tells showing? stopped situation) (looks : situation.Looks epilogue)
    (ready : epilogue.restartReady = true) : ∃ showing, showing? = some showing
      ∧ epilogue = showing.whole ∧ ((∃ id, situation = .played showing id) ∨ situation.slot = none) := by
  cases tells with
  | blank =>
      rw [show epilogue = .blank from looks] at ready
      cases ready
  | playing showing id left =>
      obtain ⟨count, rfl⟩ := looks
      cases ready
  | played showing id => exact ⟨showing, rfl, looks, .inl ⟨id, rfl⟩⟩
  | stopped showing =>
      rcases looks with ⟨count, rfl⟩ | whole
      · cases ready
      · exact ⟨showing, rfl, whole, .inr rfl⟩

theorem Standing.inactive_of_empty (standing : Standing situation visitor world.outline)
    (empty : situation.slot = none) : world.isActive () = false := by
  have slot : (world.holdings ()).slot = none := standing.slot_eq.trans empty
  simp [World.isActive, slot]

theorem Standing.inactive_of_played {id : TaskId}
    (standing : Standing (.played showing id) visitor world.outline) : world.isActive () = false := by
  have slot : (world.holdings ()).slot = some id := standing.slot_eq
  simp [World.isActive_eq, slot, standing.ended showing id rfl]

section Stands

variable (standing : Standing situation visitor world.outline) (fits : Fits record situation visitor)
include standing fits

theorem log_of_fits (asked : record.showing = some showing) (notReset : ∀ id, record.flight ≠ some (id, .reset)) :
    world.store.epilogue.tier = showing.tier
      ∧ ∃ count, world.store.epilogue.events = showing.label :: showing.texts.take count := by
  rcases fits.tells_or_forgot with tells | ⟨-, id, reset⟩
  · rcases tells.shown standing.looks asked with ⟨count, shown⟩ | whole
    · exact ⟨congrArg tier shown, count, congrArg events shown⟩
    · refine ⟨congrArg tier whole, showing.texts.length, ?_⟩
      rw [List.take_length]
      exact (congrArg events whole).trans showing.events_whole
  · exact absurd reset (notReset id)

theorem whole_of_ready (ready : world.store.epilogue.restartReady = true) :
    ∃ showing, record.showing = some showing
      ∧ world.store.epilogue.events = showing.label :: showing.texts ∧ world.isActive () = false := by
  rcases fits.tells_or_forgot with tells | ⟨rfl, -⟩
  · obtain ⟨showing, asked, whole, ended⟩ := tells.whole standing.looks ready
    refine ⟨showing, asked, (congrArg events whole).trans showing.events_whole, ?_⟩
    rcases ended with ⟨id, rfl⟩ | empty
    · exact standing.inactive_of_played
    · exact standing.inactive_of_empty empty
  · have blank : world.store.epilogue = .blank := standing.looks
    rw [blank] at ready
    cases ready

omit standing in
theorem blank_of_forgot (forgot : record.showing = none) : situation = .blank := by
  rcases fits.tells_or_forgot with tells | ⟨blank, -⟩
  · rw [forgot] at tells
    cases tells
    rfl
  · exact blank

end Stands

/-- Where nothing is being played and no call goes on, nothing is left to be done. -/
theorem Sound.silent_of_blank (sound : Sound record world) (noTurn : world.running = none)
    (alone : record.flight = none) (standing : Standing .blank visitor world.outline) :
    world.isIdle = true ∧ world.waits = [] := by
  have attended : world.Attended manners none := by
    have attended := sound.attended
    rwa [alone] at attended
  obtain ⟨-, quiet, silent⟩ :=
    attended.balanced.silent_of_ended (attended.ended_of_free fun _ => standing.slot_eq)
  exact ⟨by simp [World.isIdle, noTurn, quiet], silent⟩

/-- Between two turns an epilogue that is given one call after the other shows the ending that was asked
for last, and nothing of an earlier one. -/
theorem shows_of_occurs (occurs : Occurs record world) (noTurn : world.running = none) :
    Shows record world := by
  have sound := Sound.of_occurs occurs
  obtain ⟨situation, visitor, standing, fits⟩ := sound.stands noTurn
  refine ⟨fun showing => log_of_fits standing fits, whole_of_ready standing fits, ?_, ?_⟩
  · intro showing asked kept alone
    cases fits with
    | waits flight => rw [alone] at flight; cases flight
    | forgot flight => rw [alone] at flight; cases flight
    | free others tells => exact occurs.comes noTurn alone asked kept standing (.free others tells)
  · intro forgot
    obtain rfl := blank_of_forgot fits forgot
    exact ⟨standing.looks, standing.inactive_of_empty rfl,
      fun alone => sound.silent_of_blank noTurn alone standing⟩

end Seen

/-- An ending of one text. -/
def parting (word : String) (tier : Tier) : Showing :=
  { preferences := default
    ending := { threshold := 0, label := ⟨word, word, word, word⟩, texts := [⟨word, word, word, word⟩] }
    tier := some tier }

/-- A good ending takes the place of a bad one, whose task has still to end. -/
theorem shows_at_replaced : ∃ record world, Occurs record world ∧ world.running = none
    ∧ world.isUnended 1 = true ∧ record.showing = some (parting "hello" .good) ∧ Shows record world := by
  have asked := (Occurs.construct.begin (.play (parting "goodbye" .bad)) rfl rfl).step.step.step.step
  have waits := (asked.complete rfl rfl rfl).step.step
  have replaced := (waits.begin (.play (parting "hello" .good)) rfl rfl).step.step.step.step
  exact ⟨_, _, replaced.complete rfl rfl rfl, rfl, rfl, rfl,
    shows_of_occurs (replaced.complete rfl rfl rfl) rfl⟩

end Playthrough.Epilogue.Alone
