import Playthrough.Proofs.Task.Exchange

/-!
Contract: what a driver's program does when nobody stops it.

Owns: the terms on which a program runs, the relation `Runs` with one rule for each instruction that
the scripts of scenes are made of, and its agreement with the turns of a world.

Does not own: cancellation, and operations from outside.

`Runs` knows nothing of tasks, permissions and the queue: every wait passes. While the program waits,
others may change the store as far as the terms allow; the gate says what the world finds then. The
rules follow the program from its current instruction to its end; what is still to be done around it
is in the frames.
-/

namespace Playthrough

/-- How a program ends that nobody stops. -/
inductive Finale (Store Driver Procedure Answer : Type) where
  | done
  | failed (fault : Fault)
  /-- The last instruction gave a driver a new task. -/
  | handedOver (driver : Driver) (body : Program Store Driver Procedure Answer)

/-- What a program and everybody else can rely on. -/
structure Terms (Store Driver Procedure Answer : Type) where
  /-- What the program's own changes leave alone. -/
  leaves : Store → Store → Prop
  leaves_refl : ∀ store, leaves store store
  leaves_trans : ∀ {first second third}, leaves first second → leaves second third →
    leaves first third
  /-- What holds whenever the program waits. -/
  gate : List (Frame Store Driver Procedure Answer) → Store → Prop
  /-- What others may do while the program waits. -/
  drift : Store → Store → Prop
  drift_refl : ∀ store, drift store store
  /-- What holds at the end. -/
  post : Store → Finale Store Driver Procedure Answer → Prop

variable {Store Driver Procedure Answer Entry : Type}

/-- A program, with what is around it, comes to its end from a store on; the entries are what an
observer writes down until then. -/
inductive Runs (machine : Machine Store Driver Procedure Answer) (observer : Observer Store Entry)
    (terms : Terms Store Driver Procedure Answer) :
    Program Store Driver Procedure Answer → List (Frame Store Driver Procedure Answer) → Store →
      List Entry → Prop where
  | done (answer : Option Answer) {store : Store} (post : terms.post store .done) :
      Runs machine observer terms (.done answer) [] store []
  | fail (fault : Fault) {store : Store} (post : terms.post store (.failed fault)) :
      Runs machine observer terms (.fail fault) [] store []
  | handOver (driver : Driver) (body : Program Store Driver Procedure Answer) {store : Store}
      (post : terms.post store (.handedOver driver body)) :
      Runs machine observer terms (.spawn driver body .stop) [] store []
  | resume {answer : Option Answer} {cleanup next : Program Store Driver Procedure Answer}
      {frames : List (Frame Store Driver Procedure Answer)} {store : Store} {entries : List Entry}
      (rest : Runs machine observer terms (cleanup.andThen next) frames store entries) :
      Runs machine observer terms (.done answer) (.ensured cleanup next :: frames) store entries
  | look {choose : Store → Program Store Driver Procedure Answer}
      {frames : List (Frame Store Driver Procedure Answer)} {store : Store} {entries : List Entry}
      (rest : Runs machine observer terms (choose store) frames store entries) :
      Runs machine observer terms (.look choose) frames store entries
  | update {change : Store → Store} {next : Program Store Driver Procedure Answer}
      {frames : List (Frame Store Driver Procedure Answer)} {store : Store} {entries : List Entry}
      (leaves : terms.leaves store (change store))
      (rest : Runs machine observer terms next frames (change store) entries) :
      Runs machine observer terms (.update change next) frames store
        (observer.change store (change store) ++ entries)
  | call {procedure : Procedure} {next : Program Store Driver Procedure Answer}
      {frames : List (Frame Store Driver Procedure Answer)} {store : Store} {entries : List Entry}
      (rest : Runs machine observer terms ((machine.body procedure).andThen next) frames store
        entries) :
      Runs machine observer terms (.call procedure next) frames store entries
  | check {next : Program Store Driver Procedure Answer}
      {frames : List (Frame Store Driver Procedure Answer)} {store : Store} {entries : List Entry}
      (rest : Runs machine observer terms next frames store entries) :
      Runs machine observer terms (.check next) frames store entries
  | ensure {body cleanup next : Program Store Driver Procedure Answer}
      {frames : List (Frame Store Driver Procedure Answer)} {store : Store} {entries : List Entry}
      (rest : Runs machine observer terms body (.ensured cleanup next :: frames) store entries) :
      Runs machine observer terms (.ensure body cleanup next) frames store entries
  | pause {duration : Duration} {next : Program Store Driver Procedure Answer}
      {frames : List (Frame Store Driver Procedure Answer)} {store : Store} {entries : List Entry}
      (waiting : terms.gate frames store)
      (rest : ∀ later, terms.drift store later → Runs machine observer terms next frames later
        entries) :
      Runs machine observer terms (.pause duration next) frames store
        (observer.wait duration (machine.shown store) ++ entries)

namespace World

variable {machine : Machine Store Driver Procedure Answer} {observer : Observer Store Entry}
variable {terms : Terms Store Driver Procedure Answer}

/-- Where a turn of a program ends that `Runs` from the store at the beginning: at a wait, with the
rest still to come, or at the end. The second list is what was written down by then. -/
inductive Reached [DecidableEq Driver] (machine : Machine Store Driver Procedure Answer)
    (observer : Observer Store Entry) (terms : Terms Store Driver Procedure Answer)
    (world : World Store Driver Procedure Answer) (id : TaskId)
    (task : Task Store Driver Procedure Answer) (begun : Store) (entries : List Entry) :
    List Entry → World Store Driver Procedure Answer → Prop where
  | paused {first rest : List Entry} {next : Program Store Driver Procedure Answer}
      {frames : List (Frame Store Driver Procedure Answer)} {store : Store} {wait : Wait}
      (leaves : terms.leaves begun store) (waiting : terms.gate frames store)
      (mine : wait.task = id) (split : entries = first ++ rest)
      (last : ∃ before, first = before ++ observer.wait wait.duration wait.shown)
      (residue : ∀ later, terms.drift store later →
        Runs machine observer terms (.check next) frames later rest) :
      Reached machine observer terms world id task begun entries first
        (world.asleep id (task.on (.run (.check next)) frames) store wait)
  | finished {answer : Option Answer} {control : Control Store Driver Procedure Answer}
      {frames : List (Frame Store Driver Procedure Answer)} {final : Store}
      (leaves : terms.leaves begun final) (post : terms.post final .done) :
      Reached machine observer terms world id task begun entries entries
        (world.closed id (task.on control frames) final (.finished answer))
  | failed {fault : Fault} {control : Control Store Driver Procedure Answer}
      {frames : List (Frame Store Driver Procedure Answer)} {final : Store}
      (leaves : terms.leaves begun final) (post : terms.post final (.failed fault)) :
      Reached machine observer terms world id task begun entries entries
        (world.closed id (task.on control frames) final (.failed fault))
  | handedOver {driver : Driver} {body : Program Store Driver Procedure Answer}
      {control : Control Store Driver Procedure Answer}
      {frames : List (Frame Store Driver Procedure Answer)} {final : Store}
      (leaves : terms.leaves begun final) (post : terms.post final (.handedOver driver body)) :
      Reached machine observer terms world id task begun entries entries
        (((world.displace driver id).install driver body).closed id (task.on control frames) final
          (.finished none))

/-- What was done and written down before does not change where a turn ends. -/
theorem Reached.prepend [DecidableEq Driver] {world after : World Store Driver Procedure Answer}
    {id : TaskId} {task : Task Store Driver Procedure Answer} {begun store : Store}
    {entries first : List Entry} (earlier : List Entry) (before : terms.leaves begun store)
    (reached : Reached machine observer terms world id task store entries first after) :
    Reached machine observer terms world id task begun (earlier ++ entries) (earlier ++ first)
      after := by
  cases reached with
  | paused leaves waiting mine split last residue =>
      obtain ⟨between, last⟩ := last
      refine .paused (terms.leaves_trans before leaves) waiting mine ?_ ⟨earlier ++ between, ?_⟩
        residue
      · rw [split, List.append_assoc]
      · rw [last, List.append_assoc]
  | finished leaves post => exact .finished (terms.leaves_trans before leaves) post
  | failed leaves post => exact .failed (terms.leaves_trans before leaves) post
  | handedOver leaves post => exact .handedOver (terms.leaves_trans before leaves) post

variable [DecidableEq Driver]

/-- A program that runs to its end does so turn by turn in every world in which its task is allowed to
act. -/
theorem turn_of_runs {world : World Store Driver Procedure Answer} {id : TaskId}
    {task : Task Store Driver Procedure Answer} (inside : id < world.tasks.length)
    (allowed : world.mayAct id task = true) {program : Program Store Driver Procedure Answer}
    {frames : List (Frame Store Driver Procedure Answer)} {store : Store} {entries : List Entry}
    (runs : Runs machine observer terms program frames store entries) :
    ∃ first after,
      ToTurnEnd machine observer (world.focus id (task.on (.run program) frames) store) first after
        ∧ Reached machine observer terms world id task store entries first after := by
  induction runs with
  | done answer post =>
      exact ⟨[], _, .focus_last (step_done inside answer) rfl rfl rfl,
        .finished (terms.leaves_refl _) post⟩
  | fail fault post =>
      exact ⟨[], _, .focus_skip (step_fail inside fault) rfl
        (.focus_last (step_unwind inside (.fault fault)) rfl rfl rfl),
        .failed (terms.leaves_refl _) post⟩
  | handOver driver body post =>
      have stillInside : id < ((world.displace driver id).install driver body).tasks.length := by
        rw [length_tasks_install, length_tasks_displace]
        exact Nat.lt_succ_of_lt inside
      have sameBegun : ((world.displace driver id).install driver body).begun = world.begun :=
        begun_displace world driver id
      exact ⟨[], _, .focus_skip (step_spawn inside body) sameBegun
        (.focus_last (step_done stillInside none) rfl rfl rfl),
        .handedOver (terms.leaves_refl _) post⟩
  | resume _ inductionHypothesis =>
      obtain ⟨first, after, way, reached⟩ := inductionHypothesis
      exact ⟨first, after, .focus_skip (step_done_ensured inside _ _) rfl way, reached⟩
  | look _ inductionHypothesis =>
      obtain ⟨first, after, way, reached⟩ := inductionHypothesis
      exact ⟨first, after, .focus_skip (step_look inside _) rfl way, reached⟩
  | update leaves _ inductionHypothesis =>
      obtain ⟨first, after, way, reached⟩ := inductionHypothesis
      exact ⟨_, after, .focus_step (step_update inside _) rfl way, reached.prepend _ leaves⟩
  | call _ inductionHypothesis =>
      obtain ⟨first, after, way, reached⟩ := inductionHypothesis
      exact ⟨first, after, .focus_skip (step_call inside _) rfl way, reached⟩
  | check _ inductionHypothesis =>
      obtain ⟨first, after, way, reached⟩ := inductionHypothesis
      exact ⟨first, after, .focus_skip (step_check inside allowed) rfl way, reached⟩
  | ensure _ inductionHypothesis =>
      obtain ⟨first, after, way, reached⟩ := inductionHypothesis
      exact ⟨first, after, .focus_skip (step_ensure inside _ _) rfl way, reached⟩
  | @pause duration next frames store entries waiting rest _ =>
      let wait : Wait := { task := id, duration := duration, shown := machine.shown store }
      have asleep : (world.focus id (task.on (.run (.pause duration next)) frames) store).step
          machine = world.asleep id (task.on (.run (.check next)) frames) store wait :=
        step_pause inside allowed duration
      have way : ToTurnEnd machine observer
          (world.focus id (task.on (.run (.pause duration next)) frames) store)
          (noticed observer (world.focus id (task.on (.run (.pause duration next)) frames) store)
            ((world.focus id (task.on (.run (.pause duration next)) frames) store).step machine)
              ++ []) (world.asleep id (task.on (.run (.check next)) frames) store wait) := by
        refine .step rfl ?_
        rw [asleep]
        exact .here rfl
      rw [asleep, noticed_asleep, List.append_nil] at way
      exact ⟨_, _, way, .paused (terms.leaves_refl _) waiting rfl rfl ⟨[], rfl⟩
        fun later drifted => .check (rest later drifted)⟩

end World

end Playthrough
