import Playthrough.Proofs.Session.Course
import Playthrough.Proofs.Task.Solitude

/-!
Contract: drivers that are given tasks and lose them.

Owns: what a play-through is like after an operation has emptied a slot, has taken a task from a
driver, or has given a driver its task; the latter only happens when nobody else is there.

Does not own: which operation does so.
-/

namespace Playthrough.Session.Alone

variable {scenes : Scenes} {situation next : Situation} {outline : Draft} {role : Role}
variable {id held : TaskId} {store : Alone}

/-- A task is taken from its driver, cancelled and joined by an operation. -/
def taken (outline : Draft) (role : Role) (held id : TaskId) (program : Plan) (store : Alone) : Draft :=
  (((outline.vacate role).cancel held).rest id (.fresh none program) store).join id held

section Taken

variable {program : Plan}

theorem tasks_taken_self (different : held ≠ id) :
    (taken outline role held id program store).tasks id = some (.fresh none program) :=
  (Function.update_of_ne (Ne.symm different) _ _).trans (Function.update_self _ _ _)

theorem tasks_taken_held (different : held ≠ id) :
    (taken outline role held id program store).tasks held =
      (outline.tasks held).map fun task =>
        { task with cancelPending := true, joiners := task.joiners ++ [id] } := by
  have cancelled : (((outline.vacate role).cancel held).rest id (.fresh none program) store).tasks held =
      (outline.tasks held).map fun task => { task with cancelPending := true } :=
    (Function.update_of_ne different _ _).trans (Function.update_self _ _ _)
  have joined : (taken outline role held id program store).tasks held =
      ((((outline.vacate role).cancel held).rest id (.fresh none program) store).tasks held).map
        fun task => { task with joiners := task.joiners ++ [id] } := Function.update_self _ _ _
  rw [joined, cancelled, Option.map_map]
  rfl

theorem tasks_taken_other {other : TaskId} (notHeld : other ≠ held) (notSelf : other ≠ id) :
    (taken outline role held id program store).tasks other = outline.tasks other :=
  (Function.update_of_ne notHeld _ _).trans
    ((Function.update_of_ne notSelf _ _).trans (Function.update_of_ne notHeld _ _))

end Taken

/-- What is around a program when its task is cancelled. -/
theorem Situation.retreats {program : Plan} {frames : List (Frame Alone Role SceneKind Reply)}
    (performs : situation.performer = some (role, id))
    (underway : situation.Underway scenes program frames store) : Retreats role frames := by
  cases situation with
  | scene kind task halt ahead =>
      cases ahead with
      | none => cases performs
      | some ahead =>
          cases performs
          obtain ⟨bare | ⟨following, around⟩, -⟩ := underway
          · exact .inl bare
          · exact .inr ⟨kind, following, rfl, around⟩
  | epilogue finished task ahead =>
      cases ahead with
      | none => cases performs
      | some ahead => exact .inl underway.1
  | fading task ahead =>
      cases ahead with
      | none => cases performs
      | some ahead => exact .inl underway.1
  | fresh => cases performs
  | leaving => cases performs
  | transition => cases performs
  | claimed kind index => cases performs
  | clearing stage leaver => cases performs

namespace Standing

/-- A slot that is empty is emptied. -/
theorem vacate {bystanders : List TaskId} (standing : Standing scenes situation bystanders outline)
    (empty : situation.slot role = none) :
    Standing scenes situation bystanders (outline.vacate role) where
  scenes_of := standing.scenes_of
  looks := standing.looks
  slot_eq other := by
    rw [Outline.slot_vacate, standing.slot_eq]
    by_cases same : other = role
    · rw [if_pos same, same, empty]
    · rw [if_neg same]
  within := standing.within
  apart := standing.apart
  bystands := standing.bystands
  performs other id performs := by
    have different : other ≠ role := by
      intro same
      have holding := Situation.slot_of_performer performs
      rw [same, empty] at holding
      cases holding
    have sameHolding : (outline.vacate role).holdings other = outline.holdings other :=
      Function.update_of_ne different _ _
    rw [sameHolding]
    exact standing.performs other id performs
  leaves := standing.leaves
  only := standing.only

/-- An operation takes a task from its driver. -/
theorem take {program : Plan} (standing : Standing scenes situation [id] outline)
    (noLeaver : situation.leaver = none) (holding : situation.slot role = some held)
    (slots : ∀ other, next.slot other = if other = role then none else situation.slot other)
    (scenes_of : scenes.Of store.session) (looks : next.Looks scenes store.session)
    (plays : ∀ other someone, next.performer = some (other, someone) →
      other ≠ role ∧ situation.performer = some (other, someone) ∧
        ∀ following frames, situation.Underway scenes following frames outline.store →
          next.Underway scenes following frames store)
    (covered : ∀ other someone, situation.performer = some (other, someone) →
      next.performer = some (other, someone) ∨ next.leaver = some someone)
    (clears : ∀ stage someone, next = .clearing stage (some someone) →
      someone = held ∧ stage = role) :
    Standing scenes next [id] (taken outline role held id program store) := by
  have different : held ≠ id := by
    intro same
    exact (standing.within role held holding).2 (by simp [same])
  refine ⟨scenes_of, looks, ?_, ?_, ?_, standing.bystands, ?_, ?_, ?_⟩
  · intro other
    rw [slots, ← standing.slot_eq]
    exact Outline.slot_vacate other
  · intro other someone held'
    rw [slots] at held'
    by_cases same : other = role
    · rw [if_pos same] at held'
      cases held'
    · rw [if_neg same] at held'
      exact standing.within other someone held'
  · intro first second someone firstHolds secondHolds
    rw [slots] at firstHolds secondHolds
    by_cases firstSame : first = role
    · rw [if_pos firstSame] at firstHolds
      cases firstHolds
    · by_cases secondSame : second = role
      · rw [if_pos secondSame] at secondHolds
        cases secondHolds
      · rw [if_neg firstSame] at firstHolds
        rw [if_neg secondSame] at secondHolds
        exact standing.apart first second someone firstHolds secondHolds
  · intro other someone performs
    obtain ⟨elsewhere, performed, onward⟩ := plays other someone performs
    obtain ⟨live, task, following, found, owner, control, kept, nobody, underway⟩ :=
      standing.performs other someone performed
    have slot := Situation.slot_of_performer performed
    have notHeld : someone ≠ held := by
      intro same
      subst same
      exact elsewhere (standing.apart other role _ slot holding)
    have notSelf : someone ≠ id := by
      intro same
      exact (standing.within other someone slot).2 (by simp [same])
    have sameHolding : (outline.vacate role).holdings other = outline.holdings other :=
      Function.update_of_ne elsewhere _ _
    refine ⟨?_, task, following, ?_, owner, control, kept, nobody, onward _ _ underway⟩
    · exact (congrArg Holding.live sameHolding).trans live
    · rw [tasks_taken_other notHeld notSelf]
      exact found
  · intro stage someone clearing
    obtain ⟨rfl, rfl⟩ := clears stage someone clearing
    refine ⟨by simpa using different, ?_⟩
    intro task found
    rw [tasks_taken_held different] at found
    obtain ⟨before, was, rfl⟩ := Option.map_eq_some_iff.mp found
    rcases standing.only someone before was with bystander | ⟨other, performs⟩ | leaves
    · exact absurd bystander (standing.within stage someone holding).2
    · have same := standing.apart other stage someone (Situation.slot_of_performer performs) holding
      obtain ⟨-, task, following, found', -, -, -, nobody, underway⟩ :=
        standing.performs other someone performs
      rw [was] at found'
      cases found'
      subst same
      refine ⟨rfl, ?_, Situation.retreats performs underway⟩
      simp only [List.mem_append, List.mem_singleton, not_or]
      exact ⟨nobody, different⟩
    · rw [noLeaver] at leaves
      cases leaves
  · intro someone task found
    by_cases self : someone = id
    · exact .inl (by simp [self])
    · have was : ∃ before, outline.tasks someone = some before := by
        by_cases same : someone = held
        · subst same
          rw [tasks_taken_held different] at found
          obtain ⟨before, was, -⟩ := Option.map_eq_some_iff.mp found
          exact ⟨before, was⟩
        · rw [tasks_taken_other same self] at found
          exact ⟨task, found⟩
      obtain ⟨before, was⟩ := was
      rcases standing.only someone before was with bystander | ⟨other, performs⟩ | leaves
      · exact .inl bystander
      · rcases covered other someone performs with still | leaves
        · exact .inr (.inl ⟨other, still⟩)
        · exact .inr (.inr leaves)
      · rw [noLeaver] at leaves
        cases leaves

/-- The task that was taken from its driver ends. -/
theorem close_leaver {stage : Role} {bystanders : List TaskId}
    (standing : Standing scenes (.clearing stage (some id)) bystanders outline)
    (scenes_of : scenes.Of store.session)
    (looks : Situation.Looks scenes (.clearing stage (some id)) store.session)
    (outcome : Outcome Reply) :
    Standing scenes (.clearing stage (some id)) bystanders (outline.close id store outcome) where
  scenes_of := scenes_of
  looks := looks
  slot_eq := standing.slot_eq
  within := standing.within
  apart := standing.apart
  bystands := standing.bystands
  performs role someone performs := by cases performs
  leaves _ someone same := by
    cases same
    refine ⟨(standing.leaves stage id rfl).1, ?_⟩
    intro task found
    have gone : (outline.close id store outcome).tasks id = none := Function.update_self _ _ _
    rw [gone] at found
    cases found
  only someone task found := by
    by_cases same : someone = id
    · exact .inr (.inr (by rw [same]; rfl))
    · have was : outline.tasks someone = some task := by
        rw [← found]
        exact (Function.update_of_ne same _ _).symm
      exact standing.only someone task was

end Standing

/-! ## Nobody but an operation -/

/-- No driver of the play-through holds a task, and nobody goes on but one operation. -/
abbrev Deserted (id : TaskId) (outline : Draft) : Prop := outline.Deserted id

/-- Whether no driver holds a task in a situation. -/
def Situation.Vacant (situation : Situation) : Prop := ∀ role, situation.slot role = none

theorem Situation.Vacant.nobody (vacant : situation.Vacant) : situation.performer = none := by
  cases performs : situation.performer with
  | none => rfl
  | some performer =>
      obtain ⟨role, id⟩ := performer
      have holding := Situation.slot_of_performer performs
      rw [vacant role] at holding
      cases holding

theorem Standing.deserted (standing : Standing scenes situation [id] outline)
    (vacant : situation.Vacant)
    (gone : ∀ leaver, situation.leaver = some leaver → outline.tasks leaver = none) :
    Deserted id outline where
  slots role := (standing.slot_eq role).trans (vacant role)
  only other task found := by
    rcases standing.only other task found with bystander | ⟨role, performs⟩ | leaves
    · exact List.mem_singleton.mp bystander
    · rw [vacant.nobody] at performs
      cases performs
    · rw [gone other leaves] at found
      cases found
  inside := standing.bystands id (by simp)

namespace Deserted

/-- The operation ends, and nothing goes on. -/
theorem close (deserted : Deserted id outline) (vacant : next.Vacant) (noLeaver : next.leaver = none)
    (scenes_of : scenes.Of store.session) (looks : next.Looks scenes store.session)
    (outcome : Outcome Reply) : Standing scenes next [id] (outline.close id store outcome) where
  scenes_of := scenes_of
  looks := looks
  slot_eq role := (deserted.slots role).trans (vacant role).symm
  within role someone holding := by
    rw [vacant role] at holding
    cases holding
  apart role other someone holding := by
    rw [vacant role] at holding
    cases holding
  bystands someone member := by
    rw [List.mem_singleton.mp member]
    exact deserted.inside
  performs role someone performs := by
    rw [vacant.nobody] at performs
    cases performs
  leaves stage someone clears := by
    subst clears
    cases noLeaver
  only someone task found := by
    by_cases self : someone = id
    · exact .inl (by simp [self])
    · have was : outline.tasks someone = some task := by
        rw [← found]
        exact (Function.update_of_ne self _ _).symm
      exact absurd (deserted.only someone task was) self

/-- The operation gives a driver its task and ends. -/
theorem spawn {kind : SceneKind} {halt : Halt} {ahead : Nat} {body : Plan}
    (deserted : Deserted id outline) (scenes_of : scenes.Of store.session)
    (looks : Situation.Looks scenes (.scene kind outline.count halt (some ahead)) store.session)
    (underway : Situation.Underway scenes (.scene kind outline.count halt (some ahead)) body [] store)
    (outcome : Outcome Reply) :
    Standing scenes (.scene kind outline.count halt (some ahead)) [id]
      ((outline.install (roleOf kind) body).close id store outcome) := by
  have different : outline.count ≠ id := Ne.symm (Nat.ne_of_lt deserted.inside)
  refine ⟨scenes_of, looks, ?_, ?_, ?_, ?_, ?_, ?_, ?_⟩
  · intro role
    show ((Function.update outline.holdings (roleOf kind) _) role).slot = _
    by_cases same : role = roleOf kind
    · subst same
      simp [Situation.slot]
    · rw [Function.update_of_ne same, deserted.slots]
      simp [Situation.slot, same]
  · intro role other holding
    have same : other = outline.count := by
      simp only [Situation.slot] at holding
      split at holding
      · exact (Option.some.inj holding).symm
      · cases holding
    subst same
    exact ⟨Nat.lt_succ_self _, by simpa using different⟩
  · intro first second other firstHolds secondHolds
    simp only [Situation.slot] at firstHolds secondHolds
    split at firstHolds
    · next firstSame =>
        split at secondHolds
        · next secondSame => exact firstSame.trans secondSame.symm
        · cases secondHolds
    · cases firstHolds
  · intro other member
    rw [List.mem_singleton.mp member]
    exact Nat.lt_succ_of_lt deserted.inside
  · intro role other performs
    cases performs
    refine ⟨?_, Task.fresh (some (roleOf kind)) body, body, ?_, rfl, rfl, rfl, by simp [Task.fresh],
      underway⟩
    · show ((Function.update outline.holdings (roleOf kind) _) (roleOf kind)).live = _
      rw [Function.update_self]
    · exact (Function.update_of_ne different _ _).trans (Function.update_self _ _ _)
  · intro stage other clears
    cases clears
  · intro someone task found
    by_cases self : someone = id
    · exact .inl (by simp [self])
    · by_cases new : someone = outline.count
      · subst new
        exact .inr (.inl ⟨roleOf kind, rfl⟩)
      · have was : outline.tasks someone = some task := by
          rw [← found]
          exact ((Function.update_of_ne self _ _).trans (Function.update_of_ne new _ _)).symm
        exact absurd (deserted.only someone task was) self

end Deserted

end Playthrough.Session.Alone
