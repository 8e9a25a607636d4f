import Playthrough.Proofs.Task.Draining

/-!
Contract: the waits that the clock holds.

Owns: what moves make of the waits of a world and of the record of those that were ever begun
(`Lands.pends`, `Logged`).

Does not own: why anybody waits.

A turn takes waits from the clock or adds one, and a wait that it adds is the last that it begins, with
what is shown when it ends.
-/

namespace Playthrough.World

variable {Store Driver Procedure Answer : Type}
variable {machine : Machine Store Driver Procedure Answer}
variable {world after : World Store Driver Procedure Answer} {id held : TaskId}
variable {task : Task Store Driver Procedure Answer}

/-- A turn ends in a wait. -/
structure Sleeps (machine : Machine Store Driver Procedure Answer) (before after : World Store Driver Procedure Answer)
    (wait : Wait) : Prop where
  noTurn : after.running = none
  waits : after.waits = before.waits ++ [wait]
  begun : after.begun = before.begun ++ [wait]
  shown : wait.shown = machine.shown after.store

/-! ## One move -/

theorem mem_waits_of_cancelTask {wait : Wait} (member : wait ∈ (world.cancelTask held).waits) :
    wait ∈ world.waits := by
  simp only [cancelTask] at member
  split at member
  · exact member
  · split at member
    · exact member
    · exact (List.mem_filter.mp (show wait ∈ world.waits.filter _ from member)).1
    · exact member

theorem mem_waits_of_displace {wait : Wait} {driver : Driver}
    (member : wait ∈ (world.displace driver held).waits) : wait ∈ world.waits := by
  simp only [displace] at member
  split at member
  · split at member
    · exact member
    · exact mem_waits_of_cancelTask member
  · exact member

variable [DecidableEq Driver]

/-- An instruction adds no wait unless it ends the turn in one. -/
theorem waits_execute (program : Program Store Driver Procedure Answer) :
    (∀ wait ∈ (world.execute machine id task program).waits, wait ∈ world.waits)
      ∨ ∃ wait, Sleeps machine world (world.execute machine id task program) wait := by
  cases program with
  | done answer =>
      refine .inl ?_
      simp only [execute]
      split <;> exact fun _ member => member
  | fail fault => exact .inl fun _ member => member
  | look choose => exact .inl fun _ member => member
  | update change next => exact .inl fun _ member => member
  | call procedure next => exact .inl fun _ member => member
  | guard body next => exact .inl fun _ member => member
  | ensure body cleanup next => exact .inl fun _ member => member
  | check next =>
      refine .inl ?_
      simp only [execute]
      split <;> exact fun _ member => member
  | revoke next =>
      refine .inl ?_
      simp only [execute]
      split
      · split <;> exact fun _ member => member
      · exact fun _ member => member
  | pause duration next =>
      simp only [execute]
      split
      · exact .inr ⟨⟨id, duration, machine.shown world.store⟩, rfl, rfl, rfl, rfl⟩
      · exact .inl fun _ member => member
  | spawn driver body next => exact .inl fun _ member => mem_waits_of_displace member
  | cancel driver next =>
      refine .inl ?_
      simp only [execute]
      split
      · exact fun _ member => member
      · split
        · exact fun _ member => member
        · intro wait member
          rw [yieldTurn, waits_join] at member
          have taken : wait ∈ ((world.setHolding driver { slot := none, live := none }).proceed id
              (.run next) task.frames).waits := mem_waits_of_cancelTask member
          exact taken
  | settle drivers remaining next =>
      refine .inl ?_
      cases remaining with
      | nil =>
          simp only [execute]
          split <;> exact fun _ member => member
      | cons driver remaining =>
          simp only [execute]
          split
          · split
            · intro wait member
              rwa [yieldTurn, waits_join] at member
            · exact fun _ member => member
          · exact fun _ member => member

/-- A step of a turn adds no wait unless it ends the turn in one. -/
theorem waits_step (machine : Machine Store Driver Procedure Answer) (running : world.running = some id) :
    (∀ wait ∈ (world.step machine).waits, wait ∈ world.waits)
      ∨ ∃ wait, Sleeps machine world (world.step machine) wait := by
  cases found : world.tasks[id]? with
  | none =>
      simp only [step, running, found]
      exact .inl fun _ member => member
  | some task =>
      cases control : task.control with
      | run program =>
          simp only [step, running, found, control]
          exact waits_execute program
      | unwind signal =>
          refine .inl ?_
          simp only [step, running, found, control, unwind]
          split
          · cases signal <;> exact fun _ member => member
          · split <;> exact fun _ member => member
          · exact fun _ member => member
          · exact fun _ member => member

/-- Between two turns the clock holds what it held. -/
theorem waits_between (noTurn : world.running = none) : (world.step machine).waits = world.waits := by
  cases queued : world.queue with
  | nil => simp only [step, noTurn, queued]
  | cons turn queue =>
      cases turn with
      | run other =>
          simp only [step, noTurn, queued]
          rfl
      | joined other =>
          simp only [step, noTurn, queued]
          exact waits_noteJoined

/-! ## Turns -/

/-- A wait that a turn adds is the last that it begins, with what is shown in the end. -/
theorem Lands.pends {post : World Store Driver Procedure Answer → Prop} (lands : Lands machine post world)
    (running : world.running = some id) :
    Lands machine (fun after => post after ∧ ∃ news, Begins id news world after
      ∧ ∀ wait ∈ after.waits, wait ∈ world.waits
        ∨ (news.getLast? = some wait ∧ wait.shown = machine.shown after.store)) world := by
  induction lands with
  | here noTurn _ =>
      rw [noTurn] at running
      cases running
  | @step world other _ rest inductionHypothesis =>
      obtain ⟨turn, news, begins⟩ := begins_step machine running
      refine .step running ?_
      rcases turn with goesOn | ended
      · have kept : ∀ wait ∈ (world.step machine).waits, wait ∈ world.waits := by
          rcases waits_step machine running with kept | ⟨wait, sleeps⟩
          · exact kept
          · have noTurn := sleeps.noTurn
            rw [goesOn] at noTurn
            cases noTurn
        refine (inductionHypothesis goesOn).mono ?_
        rintro after - ⟨reached, more, also, pending⟩
        refine ⟨reached, news ++ more, begins.trans also, ?_⟩
        intro wait member
        rcases pending wait member with before | ⟨last, shown⟩
        · exact .inl (kept wait before)
        · exact .inr ⟨by simp [List.getLast?_append, last], shown⟩
      · refine .here ended ⟨rest.reached ended, news, begins, ?_⟩
        rcases waits_step machine running with kept | ⟨slept, sleeps⟩
        · exact fun wait member => .inl (kept wait member)
        · have only : news = [slept] := List.append_cancel_left (begins.begun.symm.trans sleeps.begun)
          intro wait member
          rw [sleeps.waits] at member
          rcases List.mem_append.mp member with before | new
          · exact .inl before
          · obtain rfl := List.mem_singleton.mp new
            exact .inr ⟨by rw [only]; rfl, sleeps.shown⟩

/-! ## The record of the waits -/

/-- Every wait that was ever begun is a task's. -/
def Logged (world : World Store Driver Procedure Answer) : Prop :=
  ∀ wait ∈ world.begun, wait.task < world.tasks.length

namespace Logged

omit [DecidableEq Driver] in
theorem initial (store : Store) : (World.initial store : World Store Driver Procedure Answer).Logged :=
  fun _ member => absurd member List.not_mem_nil

theorem noted (logged : world.Logged) : world.Noted world.waitsOf := ⟨logged, fun _ => rfl⟩

theorem of_begins {news : List Wait} (logged : world.Logged) (begins : Begins id news world after)
    (inside : id < world.tasks.length) : after.Logged :=
  logged.noted.stillInside begins inside

theorem quiet (logged : world.Logged) (begins : Begins id [] world after) : after.Logged :=
  (logged.noted.quiet begins).inside

theorem step (logged : world.Logged) (balanced : world.Balanced) : (world.step machine).Logged := by
  cases turn : world.running with
  | none => exact logged.quiet (begins_between turn 0)
  | some id =>
      have orderly : world.Orderly (some id) := by
        rw [← turn]
        exact balanced
      obtain ⟨task, found, -⟩ := orderly.acts
      obtain ⟨-, news, begins⟩ := begins_step machine turn
      exact logged.of_begins begins (List.getElem?_eq_some_iff.mp found).1

theorem release? {position : Nat} (logged : world.Logged) (wait : world.release? position = some after) :
    after.Logged :=
  logged.quiet (begins_release? wait 0)

theorem begin (logged : world.Logged) (operation : Program Store Driver Procedure Answer) :
    (world.begin operation).2.Logged :=
  logged.quiet (begins_begin world operation 0)

theorem pursues (logged : world.Logged) (balanced : world.Balanced)
    (pursues : Pursues machine id world after) : after.Logged := by
  induction pursues with
  | here _ => exact logged
  | step _ _ _ inductionHypothesis =>
      exact inductionHypothesis (logged.step balanced) (balanced.step machine)
  | release _ _ oldest _ inductionHypothesis =>
      exact inductionHypothesis (logged.release? oldest) (balanced.release? oldest)

end Logged

end Playthrough.World
