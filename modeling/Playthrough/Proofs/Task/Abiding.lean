import Playthrough.Proofs.Task.Bare
import Playthrough.Task.Script

/-!
Contract: programs of a driver that keep to their permission.

Owns: how a task stands to its permission (`Stance`), the programs that write only directly after a
check (`Abides`), and that every instruction leaves all tasks with such programs.

Does not own: whom a driver permits to act.

Nothing comes between a check and the change of the log that it is for, so only the task whose turn it
is can have just checked its permission. Operations from outside need none, and neither write nor wait.
-/

namespace Playthrough

namespace Script

/-! ## Programs that keep to their permission -/

/-- How a task stands to its permission. -/
inductive Stance where
  /-- It comes from outside and needs none. -/
  | outside
  | unchecked
  /-- It has just been found to have it. -/
  | checked

namespace Stance

/-- After an instruction that is no check. -/
def after : Stance → Stance
  | .outside => .outside
  | .unchecked => .unchecked
  | .checked => .unchecked

/-- After a check. -/
def check : Stance → Stance
  | .outside => .outside
  | .unchecked => .checked
  | .checked => .checked

/-- Which changes of the log a task may make. -/
def Admits : Stance → (Log → Log) → Prop
  | .outside, change => ∀ log, (change log).events = log.events
  | .unchecked, _ => False
  | .checked, change => ∃ event, change = fun log => log.record event

@[simp] theorem after_after (stance : Stance) : stance.after.after = stance.after := by
  cases stance <;> rfl

@[simp] theorem after_check (stance : Stance) : stance.check.after = stance.after := by
  cases stance <;> rfl

@[simp] theorem check_after (stance : Stance) : stance.after.check = stance.check := by
  cases stance <;> rfl

end Stance

/-- A program writes events only directly after a check, and from outside neither writes nor waits for the
clock. Only from outside it waits for the end of a driver's tasks, of those of one driver after the other. -/
def Abides : Stance → Plan → Prop
  | _, .done _ => True
  | _, .fail _ => True
  | _, .look _ => False
  | _, .call _ _ => False
  | stance, .update change next => stance.Admits change ∧ Abides stance.after next
  | stance, .check next => Abides stance.check next
  | stance, .revoke next => stance ≠ .outside ∧ Abides stance.after next
  | stance, .pause _ next => stance ≠ .outside ∧ Abides stance.after next
  | stance, .spawn _ body next => Abides .unchecked body ∧ Abides stance.after next
  | stance, .cancel _ next => Abides stance.after next
  | stance, .settle drivers _ next => stance = .outside ∧ drivers = [] ∧ Abides stance.after next
  | stance, .guard body next => Abides stance.after body ∧ Abides stance.after next
  | stance, .ensure body cleanup next =>
      Abides stance.after body ∧ Abides stance.after cleanup ∧ Abides stance.after next

theorem Stance.ne_outside {stance : Stance} (inside : stance ≠ .outside) : stance.after ≠ .outside := by
  cases stance with
  | outside => exact absurd rfl inside
  | unchecked => exact inside
  | checked => exact fun same => Stance.noConfusion same

/-- Nothing but a change of the log needs a check directly before it. -/
theorem Abides.after {stance : Stance} {program : Plan} (abides : Abides stance program)
    (noChange : ∀ change next, program ≠ .update change next) : Abides stance.after program := by
  cases program with
  | update change next => exact absurd rfl (noChange change next)
  | done _ | fail _ => trivial
  | look _ | call _ _ => exact abides
  | check _ => simpa only [Abides, Stance.check_after] using abides
  | revoke _ | pause _ _ =>
      simp only [Abides, Stance.after_after] at abides ⊢
      exact ⟨Stance.ne_outside abides.1, abides.2⟩
  | settle _ _ _ =>
      obtain ⟨rfl, rfl, goesOn⟩ := abides
      exact ⟨rfl, rfl, goesOn⟩
  | spawn _ _ _ | cancel _ _ | guard _ _ | ensure _ _ _ =>
      simpa only [Abides, Stance.after_after] using abides

/-- A program that needs no check directly before it may have one. -/
theorem Abides.anew {stance : Stance} {program : Plan} (abides : Abides stance.after program) :
    Abides stance program := by
  cases stance with
  | outside => exact abides
  | unchecked => exact abides
  | checked =>
      cases program with
      | update _ _ => exact abides.1.elim
      | done _ | fail _ => trivial
      | look _ | call _ _ => exact abides
      | check _ => exact abides
      | revoke _ | pause _ _ => exact ⟨fun same => Stance.noConfusion same, abides.2⟩
      | settle _ _ _ => exact Stance.noConfusion abides.1
      | spawn _ _ _ | cancel _ _ | guard _ _ | ensure _ _ _ => exact abides

theorem Abides.andThen {stance : Stance} {first second : Plan} (abides : Abides stance first)
    (goesOn : Abides stance.after second) : Abides stance (first.andThen second) := by
  induction first generalizing stance with
  | done _ => exact goesOn.anew
  | fail _ => trivial
  | look _ _ | call _ _ _ => exact abides.elim
  | check next inductionHypothesis =>
      rw [Abides] at abides
      exact inductionHypothesis abides (by simpa using goesOn)
  | update _ next inductionHypothesis | revoke next inductionHypothesis
  | pause _ next inductionHypothesis | spawn _ _ next _ inductionHypothesis
  | guard _ next _ inductionHypothesis =>
      rw [Abides] at abides
      exact ⟨abides.1, inductionHypothesis abides.2 (by simpa using goesOn)⟩
  | cancel _ next inductionHypothesis =>
      rw [Abides] at abides
      exact inductionHypothesis abides (by simpa using goesOn)
  | settle _ _ next inductionHypothesis =>
      rw [Abides] at abides
      exact ⟨abides.1, abides.2.1, inductionHypothesis abides.2.2 (by simpa using goesOn)⟩
  | ensure _ _ next _ _ inductionHypothesis =>
      rw [Abides] at abides
      exact ⟨abides.1, abides.2.1, inductionHypothesis abides.2.2 (by simpa using goesOn)⟩

section Clock

-- The limit of the clock is a number that nothing here may compute.
attribute [local irreducible] Duration.clockLimit

theorem toProgram_pause (milliseconds : Int) (next : Script) :
    toProgram (.pause milliseconds next) =
      match Duration.ofMilliseconds? milliseconds.natAbs with
      | none => .fail .overflow
      | some _ => .pause (Duration.ofSignedMilliseconds milliseconds) next.toProgram := rfl

end Clock

theorem toProgram_emit (kind content : String) (tier : Option String) (next : Script) :
    toProgram (.emit kind content tier next) =
      .check (match event? kind content tier with
        | none => .fail .invalidEvent
        | some event => .update (fun log => log.record event) next.toProgram) := rfl

/-- The program of every script keeps to its permission. -/
theorem abides_toProgram (script : Script) : Abides .unchecked script.toProgram := by
  induction script with
  | stop => trivial
  | raise message => trivial
  | pause milliseconds next inductionHypothesis =>
      rw [toProgram_pause]
      split
      · trivial
      · exact ⟨Stance.noConfusion, inductionHypothesis⟩
  | emit kind content tier next inductionHypothesis =>
      rw [toProgram_emit, Abides]
      split
      · trivial
      · exact ⟨⟨_, rfl⟩, inductionHypothesis⟩
  | check next inductionHypothesis =>
      have checked : Abides .checked next.toProgram :=
        Abides.anew (show Abides Stance.checked.after next.toProgram from inductionHypothesis)
      exact checked
  | revoke next inductionHypothesis => exact ⟨Stance.noConfusion, inductionHypothesis⟩
  | cancel next inductionHypothesis => exact inductionHypothesis
  | spawn body next bodyHypothesis nextHypothesis => exact ⟨bodyHypothesis, nextHypothesis⟩
  | guard body next bodyHypothesis nextHypothesis => exact ⟨bodyHypothesis, nextHypothesis⟩
  | ensure body cleanup next bodyHypothesis cleanupHypothesis nextHypothesis =>
      exact ⟨bodyHypothesis, cleanupHypothesis, nextHypothesis⟩

/-! ## Tasks that keep to their permission -/

variable {world : Setting} {id : TaskId} {task : Task Log Unit Empty Unit}
variable {tasks : List (Task Log Unit Empty Unit)}

/-- What a task goes on with keeps to the permission. -/
def ControlAbides (stance : Stance) : Control Log Unit Empty Unit → Prop
  | .run program => Abides stance program
  | .unwind _ => True

/-- What is still to be done around a program keeps to the permission. -/
def FrameAbides (stance : Stance) : Frame Log Unit Empty Unit → Prop
  | .guarded next => Abides stance next
  | .ensured cleanup next => Abides stance cleanup ∧ Abides stance next
  | .resumed _ => True

/-- A task keeps to its permission, which it can only have just checked where it is permitted. -/
structure Keeps (permitted : Prop) (task : Task Log Unit Empty Unit) (stance : Stance) : Prop where
  origin : stance = .outside ↔ task.owner = none
  checked : stance = .checked → permitted
  control : ControlAbides stance task.control
  frames : ∀ frame ∈ task.frames, FrameAbides stance.after frame

/-- Every task keeps to its permission; only permitted ones may have just checked it. -/
def AllKeep (permitted : TaskId → Prop) (tasks : List (Task Log Unit Empty Unit)) : Prop :=
  ∀ (id : TaskId) (task : Task Log Unit Empty Unit), tasks[id]? = some task →
    ∃ stance, Keeps (permitted id) task stance

namespace Keeps

variable {permitted other : Prop} {stance : Stance} {control : Control Log Unit Empty Unit}
variable {frames : List (Frame Log Unit Empty Unit)}

theorem mono (keeps : Keeps permitted task stance) (weaker : permitted → other) :
    Keeps other task stance :=
  ⟨keeps.origin, fun checked => weaker (keeps.checked checked), keeps.control, keeps.frames⟩

/-- A task that goes on after an instruction that was no check. -/
theorem on (keeps : Keeps permitted task stance) (goesOn : ControlAbides stance.after control)
    (around : ∀ frame ∈ frames, FrameAbides stance.after frame) :
    Keeps other (task.on control frames) stance.after := by
  refine ⟨?_, ?_, goesOn, ?_⟩
  · refine Iff.trans ?_ keeps.origin
    cases stance <;> simp [Stance.after]
  · cases stance <;> exact Stance.noConfusion
  · rw [Stance.after_after]
    exact around

/-- A task that has just checked its permission. -/
theorem onCheck {next : Plan} (keeps : Keeps permitted task stance)
    (allowed : stance ≠ .outside → other) (goesOn : Abides stance.check next) :
    Keeps other (task.on (.run next) task.frames) stance.check := by
  refine ⟨?_, ?_, goesOn, ?_⟩
  · refine Iff.trans ?_ keeps.origin
    cases stance <;> simp [Stance.check]
  · rintro checked
    refine allowed ?_
    rintro rfl
    cases checked
  · rw [Stance.after_check]
    exact keeps.frames

/-- A program from outside is made by nobody, one that writes or waits by the driver. -/
theorem owned (keeps : Keeps permitted task stance) (inside : stance ≠ .outside) :
    task.owner = some () := by
  cases owner : task.owner with
  | none => exact absurd (keeps.origin.mpr owner) inside
  | some driver => rfl

end Keeps

namespace AllKeep

variable {permitted allowed : TaskId → Prop} {later : List (Task Log Unit Empty Unit)}
variable {control : Control Log Unit Empty Unit} {frames : List (Frame Log Unit Empty Unit)}
variable {stance : Stance} {own : Prop}

theorem mono (keep : AllKeep permitted tasks) (weaker : ∀ id, permitted id → allowed id) :
    AllKeep allowed tasks := by
  intro id task found
  obtain ⟨stance, keeps⟩ := keep id task found
  exact ⟨stance, keeps.mono (weaker id)⟩

/-- Only one task goes on. -/
theorem of_others (keep : AllKeep permitted tasks) (alone : ∀ other, other ≠ id → ¬permitted other)
    (others : ∀ other, other ≠ id → later[other]? = tasks[other]?)
    (own : ∀ task, later[id]? = some task → ∃ stance, Keeps (allowed id) task stance) :
    AllKeep allowed later := by
  intro other task found
  by_cases same : other = id
  · subst same
    exact own task found
  · rw [others other same] at found
    obtain ⟨stance, keeps⟩ := keep other task found
    exact ⟨stance, keeps.mono fun permits => absurd permits (alone other same)⟩

theorem modify {change : Task Log Unit Empty Unit → Task Log Unit Empty Unit}
    (keep : AllKeep permitted tasks) (alone : ∀ other, other ≠ id → ¬permitted other)
    (own : ∀ task, tasks[id]? = some task → ∃ stance, Keeps (allowed id) (change task) stance) :
    AllKeep allowed (tasks.modify id change) := by
  refine keep.of_others alone ?_ ?_
  · intro other different
    simp [Ne.symm different]
  · intro task found
    simp only [List.getElem?_modify, if_true, Option.map_eq_map, Option.map_eq_some_iff] at found
    obtain ⟨old, there, rfl⟩ := found
    exact own old there

theorem append {new : Task Log Unit Empty Unit} (keep : AllKeep permitted tasks)
    (keeps : Keeps False new stance) : AllKeep permitted (tasks ++ [new]) := by
  intro id task found
  rw [List.getElem?_append] at found
  split at found
  · exact keep id task found
  · refine ⟨stance, ?_⟩
    obtain rfl := List.mem_singleton.mp (List.mem_of_getElem? found)
    exact keeps.mono False.elim

/-- The acting task goes on after an instruction that was no check. -/
theorem on (keep : AllKeep permitted tasks) (alone : ∀ other, other ≠ id → ¬permitted other)
    (found : tasks[id]? = some task) (keeps : Keeps own task stance)
    (goesOn : ControlAbides stance.after control)
    (around : ∀ frame ∈ frames, FrameAbides stance.after frame) :
    AllKeep allowed (tasks.modify id fun task => task.on control frames) := by
  refine keep.modify alone ?_
  intro other there
  rw [found] at there
  cases there
  exact ⟨_, keeps.on goesOn around⟩

/-- The acting task ends its turn where it is. -/
theorem stay (keep : AllKeep permitted tasks) (alone : ∀ other, other ≠ id → ¬permitted other)
    (found : tasks[id]? = some task) (keeps : Keeps own task stance)
    (goesOn : ControlAbides stance.after task.control) : AllKeep allowed tasks := by
  refine keep.of_others alone (fun _ _ => rfl) ?_
  intro other there
  rw [found] at there
  cases there
  exact ⟨_, keeps.on goesOn keeps.frames⟩

end AllKeep

section Keeping

variable {permitted allowed : TaskId → Prop} {program : Plan}

theorem found_bare (found : world.tasks[id]? = some task) : world.bare[id]? = some task.bare := by
  rw [World.bare, List.getElem?_map, found]
  rfl

/-- Every instruction but a check leaves all tasks with programs that keep to their permission. -/
theorem keep_execute (keep : AllKeep permitted world.bare)
    (alone : ∀ other, other ≠ id → ¬permitted other) (found : world.tasks[id]? = some task)
    (running : task.control = .run program) (noCheck : ∀ next, program ≠ .check next) :
    AllKeep allowed (world.execute machine id task program).bare := by
  have there := found_bare found
  obtain ⟨stance, keeps⟩ := keep id _ there
  have control : task.bare.control = .run program := running
  have abides : Abides stance program := by
    have abides := keeps.control
    rwa [control] at abides
  have frames : ∀ frame ∈ task.frames, FrameAbides stance.after frame := keeps.frames
  have proceeds : ∀ {control : Control Log Unit Empty Unit} {frames : List (Frame Log Unit Empty Unit)},
      ControlAbides stance.after control → (∀ frame ∈ frames, FrameAbides stance.after frame) →
      AllKeep allowed (world.proceed id control frames).bare := by
    intro control frames goesOn around
    rw [World.bare_proceed]
    exact keep.on alone there keeps goesOn around
  have stays : (∀ change next, program ≠ .update change next) → AllKeep allowed world.bare := by
    intro noChange
    refine keep.stay alone there keeps ?_
    rw [control]
    exact abides.after noChange
  cases program with
  | look _ => exact abides.elim
  | call _ _ => exact abides.elim
  | check next => exact absurd rfl (noCheck next)
  | done answer =>
      simp only [World.execute]
      cases around : task.frames with
      | nil =>
          simp only [World.bare_finish]
          exact stays (by simp)
      | cons frame rest =>
          rw [around] at frames
          have inner := frames frame List.mem_cons_self
          have outer : ∀ frame ∈ rest, FrameAbides stance.after frame := fun frame member =>
            frames frame (List.mem_cons_of_mem _ member)
          cases frame with
          | guarded next => exact proceeds inner outer
          | resumed signal => exact proceeds trivial outer
          | ensured cleanup next =>
              refine proceeds (Abides.andThen inner.1 ?_) outer
              rw [Stance.after_after]
              exact inner.2
  | fail fault => exact proceeds trivial frames
  | update change next => exact proceeds abides.2 frames
  | revoke next =>
      simp only [World.execute]
      split
      · split
        · exact proceeds abides.2 frames
        · exact proceeds abides.2 frames
      · exact proceeds abides.2 frames
  | pause duration next =>
      have goesOn : Abides stance.after (.check next) := by
        rw [Abides, Stance.check_after]
        exact Abides.anew (by simpa using abides.2)
      simp only [World.execute]
      split
      · rw [World.bare_sleep]
        exact proceeds goesOn frames
      · exact proceeds trivial frames
  | spawn driver body next =>
      have fresh : Keeps False (Task.fresh (some driver) body) .unchecked :=
        ⟨by simp [Task.fresh], Stance.noConfusion, abides.1, by simp [Task.fresh]⟩
      have inside : id < world.bare.length := (List.getElem?_eq_some_iff.mp there).1
      simp only [World.execute]
      rw [World.bare_proceed, World.bare_install, World.bare_displace]
      refine (keep.append fresh).on alone ?_ keeps abides.2 frames
      rw [List.getElem?_append_left inside]
      exact there
  | cancel driver next =>
      have goesOn : Abides stance.after next := by
        rw [Abides] at abides
        exact abides
      simp only [World.execute]
      split
      · exact proceeds goesOn frames
      · split
        · exact proceeds goesOn frames
        · rw [World.bare_yieldTurn, World.bare_join, World.bare_cancelTask]
          exact proceeds goesOn frames
  | settle drivers remaining next =>
      obtain ⟨outside, none, goesOn⟩ := abides
      have again : ∀ remaining, Abides stance.after (.settle drivers remaining next) := by
        intro remaining
        rw [Abides, Stance.after_after]
        exact ⟨by rw [outside]; rfl, none, goesOn⟩
      cases remaining with
      | nil =>
          simp only [World.execute]
          split
          · exact proceeds (again drivers) frames
          · exact proceeds goesOn frames
      | cons driver remaining =>
          simp only [World.execute]
          split
          · split
            · rw [World.bare_yieldTurn, World.bare_join]
              exact stays (by simp)
            · exact proceeds (again remaining) frames
          · exact proceeds (again remaining) frames
  | guard body next =>
      rw [Abides] at abides
      exact proceeds abides.1 (List.forall_mem_cons.mpr ⟨abides.2, frames⟩)
  | ensure body cleanup next =>
      rw [Abides] at abides
      exact proceeds abides.1 (List.forall_mem_cons.mpr ⟨abides.2, frames⟩)

/-- A signal on its way out leaves all tasks with programs that keep to their permission. -/
theorem keep_unwind (keep : AllKeep permitted world.bare)
    (alone : ∀ other, other ≠ id → ¬permitted other) (found : world.tasks[id]? = some task)
    {signal : Signal} (unwinding : task.control = .unwind signal) :
    AllKeep allowed (world.unwind id task signal).bare := by
  have there := found_bare found
  obtain ⟨stance, keeps⟩ := keep id _ there
  have frames : ∀ frame ∈ task.frames, FrameAbides stance.after frame := keeps.frames
  have proceeds : ∀ {control : Control Log Unit Empty Unit} {frames : List (Frame Log Unit Empty Unit)},
      ControlAbides stance.after control → (∀ frame ∈ frames, FrameAbides stance.after frame) →
      AllKeep allowed (world.proceed id control frames).bare := by
    intro control frames goesOn around
    rw [World.bare_proceed]
    exact keep.on alone there keeps goesOn around
  simp only [World.unwind]
  cases around : task.frames with
  | nil =>
      have stays : AllKeep allowed world.bare := by
        refine keep.stay alone there keeps ?_
        rw [show task.bare.control = .unwind signal from unwinding]
        trivial
      cases signal with
      | cancelled => simpa only [World.bare_finish] using stays
      | superseded => simpa only [World.bare_finish] using stays
      | fault fault => simpa only [World.bare_finish] using stays
  | cons frame rest =>
      rw [around] at frames
      have inner := frames frame List.mem_cons_self
      have outer : ∀ frame ∈ rest, FrameAbides stance.after frame := fun frame member =>
        frames frame (List.mem_cons_of_mem _ member)
      cases frame with
      | resumed _ => exact proceeds trivial outer
      | guarded next =>
          simp only
          split
          · exact proceeds inner outer
          · exact proceeds trivial outer
      | ensured cleanup next =>
          exact proceeds inner.1 (List.forall_mem_cons.mpr ⟨trivial, outer⟩)

end Keeping

end Script

end Playthrough
