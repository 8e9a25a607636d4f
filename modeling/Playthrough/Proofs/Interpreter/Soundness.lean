import Mathlib.Logic.Function.Iterate
import Playthrough.Proofs.Interpreter.Requests
import Playthrough.Proofs.Task.Draining

/-!
Contract: the worlds of the only interpreter.

Owns: the worlds that occur when an interpreter is asked for one thing after the other (`Occurs`), and
that it stands as it should between any two turns of them (`Sound`).

Does not own: what a request does.
-/

namespace Playthrough.Interpreter.Alone

variable {scenario : Scenario} {world after : Setting}

/-- The worlds that occur when an interpreter is asked for one thing after the other. -/
inductive Occurs (scenario : Scenario) (reporting : Bool) : Setting → Prop where
  | construct : Occurs scenario reporting (World.initial (initial scenario reporting))
  | ask {world after : Setting} (request : Request) (before : Occurs scenario reporting world)
      (noTurn : world.running = none)
      (pursues : World.Pursues machine (world.begin request.plan).1 (world.begin request.plan).2 after)
      (ended : (after.outcome? (world.begin request.plan).1).isSome = true) :
      Occurs scenario reporting after
  | step {world : Setting} (before : Occurs scenario reporting world) :
      Occurs scenario reporting (world.step machine)
  | release {world released : Setting} (before : Occurs scenario reporting world)
      (noTurn : world.running = none) (position : Nat)
      (wait : world.release? position = some released) : Occurs scenario reporting released

theorem Occurs.stepped {reporting : Bool} (occurs : Occurs scenario reporting world) (count : Nat) :
    Occurs scenario reporting ((World.step machine)^[count] world) := by
  induction count generalizing world with
  | zero => exact occurs
  | succ count inductionHypothesis => exact inductionHypothesis occurs.step

/-- Every task in a world is counted, the clock holds nobody but who pauses, and the interpreter stands as
it should between two turns. -/
structure Sound (scenario : Scenario) (world : Setting) : Prop where
  balanced : world.Balanced
  paused : world.Paused
  lands : World.Lands machine (fun after => Standing scenario [] after.outline) world

namespace Sound

theorem standing (sound : Sound scenario world) (noTurn : world.running = none) :
    Standing scenario [] world.outline :=
  sound.lands.reached noTurn

theorem of_standing (balanced : world.Balanced) (paused : world.Paused) (noTurn : world.running = none)
    (standing : Standing scenario [] world.outline) : Sound scenario world :=
  ⟨balanced, paused, .here noTurn standing⟩

theorem construct (scenario : Scenario) (reporting : Bool) :
    Sound scenario (World.initial (initial scenario reporting)) := by
  refine of_standing (World.orderly_initial _) (.initial _) rfl ⟨.of_progress rfl ?_, rfl, ?_, ?_, ?_, ?_⟩
  · simp [World.outline, World.initial, initial, Interpreter.initial]
  · intro held holding
    cases holding
  · intro id task found
    cases found
  · intro held task holding
    cases holding
  · intro held task holding
    cases holding

theorem step (sound : Sound scenario world) : Sound scenario (world.step machine) := by
  refine ⟨sound.balanced.step machine, sound.paused.step sound.balanced, ?_⟩
  cases turn : world.running with
  | some id => exact sound.lands.onward turn
  | none =>
      have standing := sound.standing turn
      rcases World.step_cases machine sound.balanced turn with
        ⟨stopped, same, -⟩ | ⟨id, task, base, found, same, stepped, -⟩
      · refine .here stopped ?_
        rw [same]
        exact standing
      · rcases standing.only id task found with bystander | holding
        · cases bystander
        · rw [stepped]
          exact standing.lands_turn same holding found

theorem release (sound : Sound scenario world) (noTurn : world.running = none) {position : Nat}
    {released : Setting} (wait : world.release? position = some released) : Sound scenario released := by
  have orderly : world.Orderly none := by
    rw [← noTurn]
    exact sound.balanced
  have same := World.outline_release? orderly wait
  have stillNoTurn : released.running = none := by
    obtain ⟨-, -, rfl⟩ := World.release?_eq_some.mp wait
    exact noTurn
  refine of_standing (sound.balanced.release? wait) (sound.paused.release? wait) stillNoTurn ?_
  rw [same]
  exact sound.standing noTurn

/-- Whatever is asked for comes to its end where the interpreter stands again. -/
theorem ask (sound : Sound scenario world) (noTurn : world.running = none) (request : Request)
    (pursues : World.Pursues machine (world.begin request.plan).1 (world.begin request.plan).2 after)
    (ended : (after.outcome? (world.begin request.plan).1).isSome = true) : Sound scenario after := by
  have standing := sound.standing noTurn
  have begun := sound.balanced.begin noTurn request.plan
  have balanced := pursues.balanced begun
  have paused := (sound.paused.begin sound.balanced noTurn request.plan).pursues begun pursues
  obtain ⟨later, alsoPursues, stopped, alsoEnded, stands⟩ : ∃ later : Setting,
      World.Pursues machine (world.begin request.plan).1 (world.begin request.plan).2 later
        ∧ later.running = none ∧ (later.outcome? (world.begin request.plan).1).isSome = true
        ∧ Standing scenario [] later.outline := by
    by_cases heeded : request.Heeded world.store
    · obtain ⟨later, carries, -, stands⟩ := carries_of_standing sound.balanced noTurn standing heeded
      exact ⟨later, carries.pursues, carries.noTurn, by rw [carries.ended]; rfl, stands⟩
    · cases request with
      | start _ => exact absurd trivial heeded
      | reset => exact absurd trivial heeded
      | cancel => exact absurd trivial heeded
      | choose offer =>
          obtain ⟨later, carries, -, -, stands⟩ := refused_of_standing standing offer heeded
          exact ⟨later, carries.pursues, carries.noTurn, by rw [carries.ended]; rfl, stands⟩
  have same := pursues.unique alsoPursues ended alsoEnded
  rw [same] at balanced paused ⊢
  exact of_standing balanced paused stopped stands

theorem carried {request : Request} {answer : Option Reply} (sound : Sound scenario world)
    (noTurn : world.running = none) (carries : Carries request world answer after) :
    Sound scenario after :=
  sound.ask noTurn request carries.pursues (by rw [carries.ended]; rfl)

theorem of_occurs {reporting : Bool} (occurs : Occurs scenario reporting world) : Sound scenario world := by
  induction occurs with
  | construct => exact .construct scenario reporting
  | ask request _ noTurn pursues ended inductionHypothesis =>
      exact inductionHypothesis.ask noTurn request pursues ended
  | step _ inductionHypothesis => exact inductionHypothesis.step
  | release _ noTurn position wait inductionHypothesis => exact inductionHypothesis.release noTurn wait

theorem drain (sound : Sound scenario world) (fuel : Nat) : Sound scenario (world.drain machine fuel) := by
  induction fuel generalizing world with
  | zero => exact sound
  | succ fuel inductionHypothesis =>
      rw [World.drain]
      split
      · exact sound
      · exact inductionHypothesis sound.step

/-- Whatever is asked for comes to what it always comes to. -/
theorem comesTo {request : Request} {answer : Option Reply} (sound : Sound scenario world)
    (noTurn : world.running = none) (heeded : request.Heeded world.store)
    (carries : Carries request world answer after) :
    ComesTo request world.store (unwinding world.outline (request.prepare world.store)) after := by
  obtain ⟨later, alsoCarries, comes, -⟩ :=
    carries_of_standing sound.balanced noTurn (sound.standing noTurn) heeded
  have same : after = later :=
    carries.pursues.unique alsoCarries.pursues (by rw [carries.ended]; rfl) (by rw [alsoCarries.ended]; rfl)
  rw [same]
  exact comes

/-- An idle interpreter is inactive. -/
theorem inactive_of_idle (sound : Sound scenario world) (noTurn : world.running = none)
    (idle : world.store.interpreter.progress = .idle) : world.isActive () = false := by
  have standing := sound.standing noTurn
  rw [World.isActive_eq, Option.isSome_eq_false_iff, Option.isNone_iff_eq_none]
  refine standing.inactive ?_
  rw [show world.outline.store.interpreter.progress = .idle from idle]
  simp

end Sound

end Playthrough.Interpreter.Alone
