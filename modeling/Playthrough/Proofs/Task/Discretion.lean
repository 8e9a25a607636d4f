import Mathlib.Data.Set.Lattice
import Playthrough.Proofs.Task.Bare
import Playthrough.Proofs.Task.Echo

/-!
Contract: programs that cannot tell what was before them.

Owns: degrees to which two stores are alike (`Guise`), programs that do the same in stores which are
(`Program.Discreet`), and that two worlds with such programs, of which one echoes the other, go on alike
whatever happens.

Does not own: which stores are alike.

Stores may differ in what nobody looks at yet. Which procedures may be called is therefore part of the
degree: a procedure may look at its own part of the store, which is the same in both from the moment on
at which it may be called.
-/

namespace Playthrough

variable {Store Driver Procedure Answer : Type}

/-! ## Discreet programs -/

/-- How two stores are alike when some procedures may be called. -/
structure Guise (Store Procedure : Type) where
  like : Set Procedure → Store → Store → Prop
  weaker : ∀ {known more store other}, known ⊆ more → like more store other → like known store other
  both : ∀ {known more store other}, like known store other → like more store other →
    like (known ∪ more) store other

/-- A program does the same in two stores that are alike, and leaves them alike. What it sees or changes
may be the reason why more procedures may be called. -/
def Program.Discreet (guise : Guise Store Procedure) :
    Set Procedure → Program Store Driver Procedure Answer → Prop
  | _, .done _ => True
  | _, .fail _ => True
  | known, .look choose => ∀ store other, guise.like known store other → choose store = choose other
      ∧ ∃ more, guise.like more store other ∧ (choose store).Discreet guise (known ∪ more)
  | known, .update change next => ∃ more,
      (∀ base store other, known ⊆ base → guise.like base store other →
        guise.like (base ∪ more) (change store) (change other))
      ∧ next.Discreet guise (known ∪ more)
  | known, .call procedure next => procedure ∈ known ∧ next.Discreet guise known
  | known, .check next => next.Discreet guise known
  | known, .revoke next => next.Discreet guise known
  | known, .pause _ next => next.Discreet guise known
  | known, .spawn _ body next => body.Discreet guise known ∧ next.Discreet guise known
  | known, .cancel _ next => next.Discreet guise known
  | known, .settle _ _ next => next.Discreet guise known
  | known, .guard body next => body.Discreet guise known ∧ next.Discreet guise known
  | known, .ensure body cleanup next =>
      body.Discreet guise known ∧ cleanup.Discreet guise known ∧ next.Discreet guise known

namespace Program.Discreet

variable {guise : Guise Store Procedure} {known more : Set Procedure}

/-- A look that tells of no more procedures. -/
theorem look {choose : Store → Program Store Driver Procedure Answer}
    (same : ∀ store other, guise.like known store other → choose store = choose other)
    (goesOn : ∀ store, (choose store).Discreet guise known) :
    (Program.look choose).Discreet guise known := by
  intro store other alike
  refine ⟨same store other alike, ∅, guise.weaker (Set.empty_subset known) alike, ?_⟩
  rw [Set.union_empty]
  exact goesOn store

/-- A change that leaves stores as alike as they were. -/
theorem update {change : Store → Store} {next : Program Store Driver Procedure Answer}
    (keeps : ∀ base store other, known ⊆ base → guise.like base store other →
      guise.like base (change store) (change other))
    (goesOn : next.Discreet guise known) : (Program.update change next).Discreet guise known := by
  refine ⟨∅, ?_, ?_⟩
  · intro base store other further alike
    rw [Set.union_empty]
    exact keeps base store other further alike
  · rw [Set.union_empty]
    exact goesOn

/-- Where more may be called, a program is as discreet. -/
theorem mono {program : Program Store Driver Procedure Answer} (discreet : program.Discreet guise known)
    (further : known ⊆ more) : program.Discreet guise more := by
  induction program generalizing known more with
  | done _ => trivial
  | fail _ => trivial
  | look choose inductionHypothesis =>
      intro store other alike
      obtain ⟨same, gained, seen, goesOn⟩ := discreet store other (guise.weaker further alike)
      exact ⟨same, gained, seen,
        inductionHypothesis store goesOn (Set.union_subset_union_left gained further)⟩
  | update change next inductionHypothesis =>
      obtain ⟨gained, keeps, goesOn⟩ := discreet
      exact ⟨gained, fun base store other known => keeps base store other (further.trans known),
        inductionHypothesis goesOn (Set.union_subset_union_left gained further)⟩
  | call procedure next inductionHypothesis =>
      exact ⟨further discreet.1, inductionHypothesis discreet.2 further⟩
  | check _ inductionHypothesis => exact inductionHypothesis discreet further
  | revoke _ inductionHypothesis => exact inductionHypothesis discreet further
  | pause _ _ inductionHypothesis => exact inductionHypothesis discreet further
  | cancel _ _ inductionHypothesis => exact inductionHypothesis discreet further
  | settle _ _ _ inductionHypothesis => exact inductionHypothesis discreet further
  | spawn _ _ _ body next => exact ⟨body discreet.1 further, next discreet.2 further⟩
  | guard _ _ body next => exact ⟨body discreet.1 further, next discreet.2 further⟩
  | ensure _ _ _ body cleanup next =>
      exact ⟨body discreet.1 further, cleanup discreet.2.1 further, next discreet.2.2 further⟩

theorem andThen {first second : Program Store Driver Procedure Answer}
    (discreet : first.Discreet guise known) (goesOn : second.Discreet guise known) :
    (first.andThen second).Discreet guise known := by
  induction first generalizing known with
  | done _ => exact goesOn
  | fail _ => trivial
  | look choose inductionHypothesis =>
      intro store other alike
      obtain ⟨same, gained, seen, after⟩ := discreet store other alike
      exact ⟨congrArg (fun program => program.andThen second) same, gained, seen,
        inductionHypothesis store after (goesOn.mono Set.subset_union_left)⟩
  | update change next inductionHypothesis =>
      obtain ⟨gained, keeps, after⟩ := discreet
      exact ⟨gained, keeps, inductionHypothesis after (goesOn.mono Set.subset_union_left)⟩
  | call procedure next inductionHypothesis =>
      exact ⟨discreet.1, inductionHypothesis discreet.2 goesOn⟩
  | check _ inductionHypothesis => exact inductionHypothesis discreet goesOn
  | revoke _ inductionHypothesis => exact inductionHypothesis discreet goesOn
  | pause _ _ inductionHypothesis => exact inductionHypothesis discreet goesOn
  | cancel _ _ inductionHypothesis => exact inductionHypothesis discreet goesOn
  | settle _ _ _ inductionHypothesis => exact inductionHypothesis discreet goesOn
  | spawn _ _ _ _ next => exact ⟨discreet.1, next discreet.2 goesOn⟩
  | guard _ _ _ next => exact ⟨discreet.1, next discreet.2 goesOn⟩
  | ensure _ _ _ _ _ next => exact ⟨discreet.1, discreet.2.1, next discreet.2.2 goesOn⟩

end Program.Discreet

/-- What can be called does the same in two stores that are alike in its own part, and stores that are
alike show the same. -/
structure Machine.Discreet (machine : Machine Store Driver Procedure Answer)
    (guise : Guise Store Procedure) : Prop where
  body : ∀ procedure, (machine.body procedure).Discreet guise {procedure}
  shown : ∀ known store other, guise.like known store other → machine.shown store = machine.shown other

/-! ## Discreet tasks -/

/-- What a task goes on with is discreet. -/
def Control.Discreet (guise : Guise Store Procedure) (known : Set Procedure) :
    Control Store Driver Procedure Answer → Prop
  | .run program => program.Discreet guise known
  | .unwind _ => True

/-- What is still to be done around a program is discreet. -/
def Frame.Discreet (guise : Guise Store Procedure) (known : Set Procedure) :
    Frame Store Driver Procedure Answer → Prop
  | .guarded next => next.Discreet guise known
  | .ensured cleanup next => cleanup.Discreet guise known ∧ next.Discreet guise known
  | .resumed _ => True

/-- What a task has still to do is discreet. -/
structure Task.Discreet (guise : Guise Store Procedure) (known : Set Procedure)
    (task : Task Store Driver Procedure Answer) : Prop where
  control : task.control.Discreet guise known
  frames : ∀ frame ∈ task.frames, frame.Discreet guise known

section Tasks

variable {guise : Guise Store Procedure} {known more : Set Procedure}
variable {task : Task Store Driver Procedure Answer}

theorem Frame.Discreet.mono {frame : Frame Store Driver Procedure Answer}
    (discreet : frame.Discreet guise known) (further : known ⊆ more) : frame.Discreet guise more := by
  cases frame with
  | resumed signal => trivial
  | guarded next => exact Program.Discreet.mono discreet further
  | ensured cleanup next => exact ⟨discreet.1.mono further, discreet.2.mono further⟩

theorem Task.Discreet.mono (discreet : task.Discreet guise known) (further : known ⊆ more) :
    task.Discreet guise more := by
  refine ⟨?_, fun frame member => (discreet.frames frame member).mono further⟩
  have control := discreet.control
  cases running : task.control with
  | unwind signal => trivial
  | run program =>
      rw [running] at control
      exact Program.Discreet.mono control further

theorem Task.Discreet.fresh {program : Program Store Driver Procedure Answer}
    (discreet : program.Discreet guise known) (owner : Option Driver) :
    (Task.fresh owner program).Discreet guise known :=
  ⟨discreet, by simp [Task.fresh]⟩

end Tasks

namespace World

/-- A world echoes another one, their stores are alike, and all tasks are discreet. -/
structure Doubles (guise : Guise Store Procedure) (gone : List (Task Store Driver Procedure Answer))
    (past : List Wait) (known : Set Procedure) (world other : World Store Driver Procedure Answer) :
    Prop where
  echoes : Echoes gone past world other
  alike : guise.like known world.store other.store
  discreet : ∀ task ∈ other.bare, task.Discreet guise known

variable {guise : Guise Store Procedure} {gone : List (Task Store Driver Procedure Answer)}
variable {past : List Wait} {known more : Set Procedure}
variable {world other after otherAfter : World Store Driver Procedure Answer} {id held : TaskId}
variable {task : Task Store Driver Procedure Answer}

namespace Doubles

/-- Changes of neither the stores nor what the tasks do. -/
theorem of_same (doubles : Doubles guise gone past known world other)
    (echoes : Echoes gone past after otherAfter) (store : after.store = world.store)
    (otherStore : otherAfter.store = other.store) (bare : otherAfter.bare = other.bare) :
    Doubles guise gone past known after otherAfter :=
  ⟨echoes, by rw [store, otherStore]; exact doubles.alike, by rw [bare]; exact doubles.discreet⟩

/-- The acting task goes on. -/
theorem proceed (doubles : Doubles guise gone past known world other)
    {control : Control Store Driver Procedure Answer}
    {frames : List (Frame Store Driver Procedure Answer)} (goesOn : control.Discreet guise known)
    (around : ∀ frame ∈ frames, frame.Discreet guise known) :
    Doubles guise gone past known (world.proceed (gone.length + id) control frames)
      (other.proceed id control frames) := by
  refine ⟨doubles.echoes.proceed control frames, doubles.alike, ?_⟩
  intro task member
  rw [bare_proceed] at member
  obtain ⟨place, found⟩ := List.getElem?_of_mem member
  rw [List.getElem?_modify] at found
  by_cases here : id = place
  · simp only [here, if_true, Option.map_eq_map, Option.map_eq_some_iff] at found
    obtain ⟨before, -, rfl⟩ := found
    exact ⟨goesOn, around⟩
  · simp only [here, if_false, id_map'] at found
    exact doubles.discreet task (List.mem_of_getElem? found)

/-- Both stores change, and more procedures may be called from then on. -/
theorem update (doubles : Doubles guise gone past known world other) {store otherStore : Store}
    (alike : guise.like (known ∪ more) store otherStore) :
    Doubles guise gone past (known ∪ more) { world with store := store }
      { other with store := otherStore } :=
  ⟨doubles.echoes.withStore _ _, alike, fun task member =>
    (doubles.discreet task member).mono Set.subset_union_left⟩

/-- An operation begins in both. -/
theorem begin (doubles : Doubles guise gone past known world other)
    {operation : Program Store Driver Procedure Answer} (discreet : operation.Discreet guise known) :
    Doubles guise gone past known (world.begin operation).2 (other.begin operation).2 := by
  refine ⟨doubles.echoes.begin operation, doubles.alike, ?_⟩
  intro task member
  have added : (other.begin operation).2.bare = other.bare ++ [Task.fresh none operation] :=
    List.map_append
  rw [added, List.mem_append, List.mem_singleton] at member
  rcases member with earlier | rfl
  · exact doubles.discreet task earlier
  · exact .fresh discreet none

/-- The same wait ends in both. -/
theorem release? (doubles : Doubles guise gone past known world other) (position : Nat) :
    Option.Rel (Doubles guise gone past known) (world.release? position) (other.release? position) := by
  have echoes := doubles.echoes.release? position
  cases released : world.release? position with
  | none =>
      rw [released] at echoes
      cases otherReleased : other.release? position with
      | none => exact .none
      | some _ =>
          rw [otherReleased] at echoes
          cases echoes
  | some after =>
      rw [released] at echoes
      cases otherReleased : other.release? position with
      | none =>
          rw [otherReleased] at echoes
          cases echoes
      | some otherAfter =>
          rw [otherReleased] at echoes
          cases echoes with
          | some echoes =>
              refine .some (doubles.of_same echoes ?_ ?_ (bare_release? otherReleased))
              · obtain ⟨_, _, rfl⟩ := release?_eq_some.mp released
                rfl
              · obtain ⟨_, _, rfl⟩ := release?_eq_some.mp otherReleased
                rfl

variable [DecidableEq Driver] {machine : Machine Store Driver Procedure Answer}

/-- An instruction does the same in both. -/
theorem execute (doubles : Doubles guise gone past known world other) (discreet : machine.Discreet guise)
    {program : Program Store Driver Procedure Answer} (goesOn : program.Discreet guise known)
    (around : ∀ frame ∈ task.frames, frame.Discreet guise known) :
    ∃ more, Doubles guise gone past more
      (world.execute machine (gone.length + id) (task.moved gone.length) program)
      (other.execute machine id task program) := by
  have echoes := doubles.echoes
  have proceeds : ∀ {control : Control Store Driver Procedure Answer}, control.Discreet guise known →
      Doubles guise gone past known (world.proceed (gone.length + id) control task.frames)
        (other.proceed id control task.frames) := fun control => doubles.proceed control around
  cases program with
  | done answer =>
      simp only [World.execute, Task.moved]
      cases frames : task.frames with
      | nil => exact ⟨known, doubles.of_same (echoes.finish _ _) rfl rfl (bare_finish _ _)⟩
      | cons frame rest =>
          rw [frames] at around
          obtain ⟨inner, outer⟩ := List.forall_mem_cons.mp around
          cases frame with
          | guarded next => exact ⟨known, doubles.proceed inner outer⟩
          | ensured cleanup next => exact ⟨known, doubles.proceed (inner.1.andThen inner.2) outer⟩
          | resumed signal => exact ⟨known, doubles.proceed trivial outer⟩
  | fail fault => exact ⟨known, proceeds trivial⟩
  | look choose =>
      obtain ⟨same, more, seen, goesOn⟩ := goesOn world.store other.store doubles.alike
      rw [same] at goesOn
      simp only [World.execute, same]
      have seenBy := doubles.update (guise.both doubles.alike seen)
      exact ⟨known ∪ more, seenBy.proceed goesOn fun frame member =>
        (around frame member).mono Set.subset_union_left⟩
  | update change next =>
      obtain ⟨more, keeps, goesOn⟩ := goesOn
      have changed := doubles.update (keeps known _ _ subset_rfl doubles.alike)
      exact ⟨known ∪ more, changed.proceed goesOn fun frame member =>
        (around frame member).mono Set.subset_union_left⟩
  | call procedure next =>
      have body := (discreet.body procedure).mono (Set.singleton_subset_iff.mpr goesOn.1)
      exact ⟨known, proceeds (body.andThen goesOn.2)⟩
  | check next =>
      simp only [World.execute, echoes.mayAct_eq]
      split
      · exact ⟨known, proceeds goesOn⟩
      · exact ⟨known, proceeds trivial⟩
  | revoke next =>
      simp only [World.execute, echoes.mayAct_eq]
      cases owner : task.owner with
      | none =>
          simp only [Task.moved, owner]
          exact ⟨known, proceeds goesOn⟩
      | some driver =>
          simp only [Task.moved, owner]
          split
          · have revoked := doubles.of_same (echoes.revoke driver) rfl rfl rfl
            exact ⟨known, revoked.proceed goesOn around⟩
          · exact ⟨known, proceeds goesOn⟩
  | pause duration next =>
      simp only [World.execute, echoes.mayAct_eq]
      split
      · have paused : Doubles guise gone past known
            (world.proceed (gone.length + id) (.run (.check next)) task.frames)
            (other.proceed id (.run (.check next)) task.frames) := proceeds goesOn
        exact ⟨known, paused.of_same
          (paused.echoes.sleep (discreet.shown known _ _ doubles.alike) duration) rfl rfl
          (bare_sleep machine duration)⟩
      · exact ⟨known, proceeds trivial⟩
  | spawn driver body next =>
      have displaced : Doubles guise gone past known (world.displace driver (gone.length + id))
          (other.displace driver id) :=
        doubles.of_same (echoes.displace driver) (store_displace driver) (store_displace driver)
          (bare_displace driver)
      have installed : Doubles guise gone past known
          ((world.displace driver (gone.length + id)).install driver body)
          ((other.displace driver id).install driver body) := by
        refine ⟨displaced.echoes.install driver body, displaced.alike, ?_⟩
        intro task member
        rw [bare_install, List.mem_append, List.mem_singleton] at member
        rcases member with earlier | rfl
        · exact displaced.discreet task earlier
        · exact .fresh goesOn.1 _
      exact ⟨known, installed.proceed goesOn.2 around⟩
  | cancel driver next =>
      have vacated : Doubles guise gone past known
          (world.setHolding driver { slot := none, live := none })
          (other.setHolding driver { slot := none, live := none }) :=
        doubles.of_same (echoes.vacate driver) rfl rfl rfl
      have taken : Doubles guise gone past known
          ((world.setHolding driver { slot := none, live := none }).proceed (gone.length + id)
            (.run next) task.frames)
          ((other.setHolding driver { slot := none, live := none }).proceed id (.run next)
            task.frames) := vacated.proceed goesOn around
      simp only [World.execute, echoes.holdings driver, Holding.moved]
      cases (other.holdings driver).slot with
      | none => exact ⟨known, taken⟩
      | some held =>
          simp only [Option.map_some, Nat.add_left_cancel_iff]
          split
          · exact ⟨known, taken⟩
          · have stores : ∀ {before : World Store Driver Procedure Answer} {joiner joined : TaskId},
                ((before.cancelTask joined).join joiner joined).yieldTurn.store = before.store :=
              (store_join _ _ _).trans (store_cancelTask _ _)
            exact ⟨known, taken.of_same (taken.echoes.cancelTask.join.yieldTurn) stores stores
              (bare_join.trans bare_cancelTask)⟩
  | settle drivers remaining next =>
      cases remaining with
      | nil =>
          have sameActive : world.isActive = other.isActive := funext echoes.isActive_eq
          simp only [World.execute, sameActive]
          split
          · exact ⟨known, proceeds goesOn⟩
          · exact ⟨known, proceeds goesOn⟩
      | cons driver remaining =>
          simp only [World.execute, echoes.holdings driver, Holding.moved]
          cases (other.holdings driver).slot with
          | none => exact ⟨known, proceeds goesOn⟩
          | some held =>
              simp only [Option.map_some, echoes.isUnended_eq]
              split
              · exact ⟨known, doubles.of_same echoes.join.yieldTurn (store_join _ _ _) (store_join _ _ _)
                  bare_join⟩
              · exact ⟨known, proceeds goesOn⟩
  | guard body next =>
      exact ⟨known, doubles.proceed goesOn.1 (List.forall_mem_cons.mpr ⟨goesOn.2, around⟩)⟩
  | ensure body cleanup next =>
      exact ⟨known, doubles.proceed goesOn.1 (List.forall_mem_cons.mpr ⟨goesOn.2, around⟩)⟩

omit [DecidableEq Driver] in
/-- A signal on its way out does the same in both. -/
theorem unwind (doubles : Doubles guise gone past known world other)
    (around : ∀ frame ∈ task.frames, frame.Discreet guise known) (signal : Signal) :
    Doubles guise gone past known (world.unwind (gone.length + id) (task.moved gone.length) signal)
      (other.unwind id task signal) := by
  simp only [World.unwind, Task.moved]
  cases frames : task.frames with
  | nil =>
      cases signal <;> exact doubles.of_same (doubles.echoes.finish _ _) rfl rfl (bare_finish _ _)
  | cons frame rest =>
      rw [frames] at around
      obtain ⟨inner, outer⟩ := List.forall_mem_cons.mp around
      cases frame with
      | resumed _ => exact doubles.proceed trivial outer
      | guarded next =>
          simp only
          split
          · exact doubles.proceed inner outer
          · exact doubles.proceed trivial outer
      | ensured cleanup next =>
          exact doubles.proceed inner.1 (List.forall_mem_cons.mpr ⟨trivial, outer⟩)

omit [DecidableEq Driver] in
/-- The turn of a task begins in both. -/
theorem beginTurn (doubles : Doubles guise gone past known world other) :
    Doubles guise gone past known (world.beginTurn (gone.length + id)) (other.beginTurn id) := by
  refine ⟨doubles.echoes.beginTurn, doubles.alike, ?_⟩
  intro task member
  obtain ⟨place, found⟩ := List.getElem?_of_mem member
  simp only [World.bare, World.beginTurn, World.modifyTask, List.getElem?_map, List.getElem?_modify]
    at found
  cases there : other.tasks[place]? with
  | none => simp [there] at found
  | some before =>
      have kept : before.bare.Discreet guise known :=
        doubles.discreet _ (List.mem_map_of_mem (List.mem_of_getElem? there))
      rw [there, Option.map_eq_map, Option.map_some, Option.map_some, Option.some.injEq] at found
      subst found
      split
      · split
        · exact ⟨trivial, kept.frames⟩
        · exact kept
      · exact kept

/-- A step does the same in both. -/
theorem step (doubles : Doubles guise gone past known world other) (discreet : machine.Discreet guise) :
    ∃ more, Doubles guise gone past more (world.step machine) (other.step machine) := by
  have echoes := doubles.echoes
  simp only [World.step, echoes.running]
  cases other.running with
  | some id =>
      simp only [Option.map_some, echoes.task_eq]
      cases found : other.tasks[id]? with
      | none => exact ⟨known, doubles.of_same echoes.yieldTurn rfl rfl rfl⟩
      | some task =>
          have kept : task.bare.Discreet guise known :=
            doubles.discreet _ (List.mem_map_of_mem (List.mem_of_getElem? found))
          have around : ∀ frame ∈ task.frames, frame.Discreet guise known := kept.frames
          have sameControl : (task.moved gone.length).control = task.control := rfl
          simp only [Option.map_some, sameControl]
          cases control : task.control with
          | run program =>
              have goesOn : program.Discreet guise known := by
                have running := kept.control
                rwa [Task.bare, control] at running
              exact doubles.execute discreet goesOn around
          | unwind signal => exact ⟨known, doubles.unwind around signal⟩
  | none =>
      simp only [Option.map_none, echoes.queue]
      cases queued : other.queue with
      | nil => exact ⟨known, doubles⟩
      | cons turn queue =>
          have taken : Doubles guise gone past known
              { world with queue := queue.map (Turn.moved gone.length), running := none }
              { other with queue := queue, running := none } :=
            ⟨{ echoes.take queue with running := rfl }, doubles.alike, doubles.discreet⟩
          cases turn with
          | run id => exact ⟨known, taken.beginTurn⟩
          | joined id =>
              exact ⟨known, taken.of_same taken.echoes.noteJoined store_noteJoined store_noteJoined
                bare_noteJoined⟩

end Doubles

end World

end Playthrough
