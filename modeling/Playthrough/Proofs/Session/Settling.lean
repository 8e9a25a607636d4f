import Playthrough.Proofs.Session.Performance

/-!
Contract: what a play-through settles at.

Owns: play-throughs in which at most one driver plays towards a foreseen end, beside operations that
settle (`Bound`), that every turn keeps them so, and that a settled one has come to its foreseen end with
its foreseen waits (`Comes`).

Does not own: that settling ends.

What is still to come is given as the waits that each driver has ahead. A turn takes some of them from
what is ahead to what was noted down.
-/

namespace Playthrough.Session.Alone

variable {bystanders : List TaskId} {final : Session} {outline : Draft} {world after : Setting}
variable {role : Role} {id operation : TaskId} {ahead more : Role → List Pause}

/-! ## What is ahead -/

/-- Waits of one driver that are ahead, and waits of the epilogue after them. -/
def upcoming (role : Role) (own beyond : List Pause) : Role → List Pause := fun other =>
  (if other = role then own else []) ++ if other = .epilogue then beyond else []

/-- The waits of all drivers, the second ones after the first ones. -/
def thereafter (told ahead : Role → List Pause) : Role → List Pause := fun role => told role ++ ahead role

theorem thereafter_nothing (told : Role → List Pause) : thereafter told (fun _ => []) = told := by
  funext role
  exact List.append_nil _

theorem upcoming_nothing (role : Role) : upcoming role [] [] = fun _ => [] := by
  funext other
  simp [upcoming]

/-- The first waits of a driver are noted down. -/
theorem thereafter_alsoWaits (told : Role → List Pause) (role : Role) (first rest beyond : List Pause) :
    thereafter (World.alsoWaits told role first) (upcoming role rest beyond) =
      thereafter told (upcoming role (first ++ rest) beyond) := by
  funext other
  by_cases same : other = role
  · subst same
    simp [thereafter, World.alsoWaits, upcoming]
  · simp [thereafter, World.alsoWaits, upcoming, same]

/-- The waits of the epilogue are its own once it has taken over. -/
theorem thereafter_handOver (notEpilogue : role ≠ .epilogue) (told : Role → List Pause)
    (first beyond : List Pause) :
    thereafter (World.alsoWaits told role first) (upcoming .epilogue beyond []) =
      thereafter told (upcoming role first beyond) := by
  funext other
  by_cases same : other = role
  · subst same
    simp [thereafter, World.alsoWaits, upcoming, notEpilogue]
  · simp [thereafter, World.alsoWaits, upcoming, same]

/-! ## Who goes on -/

/-- Nobody goes on but operations that settle, and at most one task of a driver. -/
structure Beside (bystanders : List TaskId) (player : Option (Role × TaskId)) (outline : Draft) :
    Prop where
  plays : ∀ role id, player = some (role, id) →
    outline.holdings role = { slot := some id, live := some id } ∧ id ∉ bystanders
  inside : ∀ role id, (outline.holdings role).slot = some id → id < outline.count
  idle : ∀ role, (∀ id, player ≠ some (role, id)) →
    ((outline.holdings role).slot.bind outline.tasks) = none
  bystands : ∀ id ∈ bystanders, id < outline.count ∧ ∀ role, (outline.holdings role).slot ≠ some id
  settles : ∀ id ∈ bystanders, ∀ task, outline.tasks id = some task →
    ∃ remaining, task = .fresh none (.settle seat.drivers remaining .stop)
  only : ∀ id task, outline.tasks id = some task →
    id ∈ bystanders ∨ ∃ role, player = some (role, id)

/-- A play-through comes to a foreseen end, with so many waits of each driver ahead, while at most some
operations settle. -/
inductive Bound (bystanders : List TaskId) (final : Session) : (Role → List Pause) → Draft → Prop where
  | plays {outline : Draft} {role : Role} {id : TaskId} {task : Task Alone Role SceneKind Reply}
      {program : Plan} {own beyond : List Pause}
      {post : Session → Finale Alone Role SceneKind Reply → Prop}
      (beside : Beside bystanders (some (role, id)) outline)
      (vacant : (outline.holdings .epilogue).slot = none
        ∨ ∀ session driver body, ¬post session (.handedOver driver body))
      (found : outline.tasks id = some task) (owner : task.owner = some role)
      (control : task.control = .run program) (kept : task.cancelPending = false)
      (runs : ∀ later : Alone, later.session = outline.store.session →
        Runs machine (World.timer Alone) (exactly post) program task.frames later own)
      (foresees : ∀ session finale, post session finale → Foresees final beyond session finale) :
      Bound bystanders final (upcoming role own beyond) outline
  | rests {outline : Draft} (beside : Beside bystanders none outline)
      (same : outline.store.session = final) : Bound bystanders final (fun _ => []) outline

/-- The task of an operation, which nobody joins. -/
def settling (remaining : List Role) : Task Alone Role SceneKind Reply :=
  .fresh none (.settle seat.drivers remaining .stop)

namespace Beside

variable {player : Option (Role × TaskId)} {others : List TaskId} {store : Alone}
variable {task : Task Alone Role SceneKind Reply}

/-- Where drivers keep their tasks and nobody new goes on but operations that settle, everybody stays
beside them. -/
theorem of_kept (beside : Beside bystanders player outline) {after : Draft}
    (sameHoldings : after.holdings = outline.holdings) (more : outline.count ≤ after.count)
    (newcomers : ∀ id ∈ others, id < after.count ∧ ∀ role, (outline.holdings role).slot ≠ some id)
    (settles : ∀ id ∈ others, ∀ task, after.tasks id = some task → ∃ remaining, task = settling remaining)
    (kept : ∀ id, id ∉ others → (after.tasks id).isSome = true →
      (outline.tasks id).isSome = true ∧ id ∉ bystanders) :
    Beside others player after where
  plays role id plays := by
    obtain ⟨holding, -⟩ := beside.plays role id plays
    rw [sameHoldings]
    refine ⟨holding, ?_⟩
    intro member
    exact (newcomers id member).2 role (by rw [holding])
  inside role id holding := by
    rw [sameHoldings] at holding
    exact Nat.lt_of_lt_of_le (beside.inside role id holding) more
  idle role nobody := by
    rw [sameHoldings]
    have idle := beside.idle role nobody
    cases holding : (outline.holdings role).slot with
    | none => rfl
    | some held =>
        rw [holding] at idle
        have notNew : held ∉ others := fun member => (newcomers held member).2 role holding
        refine Option.not_isSome_iff_eq_none.mp ?_
        intro goesOn
        have was := (kept held notNew goesOn).1
        rw [show outline.tasks held = none from idle] at was
        cases was
  bystands id member := by
    rw [sameHoldings]
    exact newcomers id member
  settles := settles
  only id task found := by
    by_cases new : id ∈ others
    · exact .inl new
    · obtain ⟨was, notOld⟩ := kept id new (by rw [found]; rfl)
      obtain ⟨before, there⟩ := Option.isSome_iff_exists.mp was
      rcases beside.only id before there with old | plays
      · exact absurd old notOld
      · exact .inr plays

/-- An operation that settles begins. -/
theorem add (beside : Beside [] player outline) (remaining : List Role) :
    Beside [outline.count] player (outline.add (settling remaining)) := by
  refine beside.of_kept rfl (Nat.le_succ _) ?_ ?_ ?_
  · intro id member
    rw [List.mem_singleton.mp member]
    refine ⟨Nat.lt_succ_self _, ?_⟩
    intro role holding
    exact absurd (beside.inside role _ holding) (Nat.lt_irrefl _)
  · intro id member task found
    have own : (outline.add (settling remaining)).tasks outline.count = some (settling remaining) :=
      Function.update_self _ _ _
    rw [List.mem_singleton.mp member, own] at found
    cases found
    exact ⟨remaining, rfl⟩
  · intro id new goesOn
    have different : id ≠ outline.count := by simpa using new
    have same : (outline.add (settling remaining)).tasks id = outline.tasks id :=
      Function.update_of_ne different _ _
    rw [same] at goesOn
    exact ⟨goesOn, List.not_mem_nil⟩

/-- An operation that settles joins the task that plays. -/
theorem join (beside : Beside [operation] player outline) {held : TaskId} (different : held ≠ operation)
    (remaining : List Role) :
    Beside [operation] player ((outline.rest operation (settling remaining) store).join operation held) := by
  have own : ((outline.rest operation (settling remaining) store).join operation held).tasks operation =
      some (settling remaining) :=
    (Function.update_of_ne (Ne.symm different) _ _).trans (Function.update_self _ _ _)
  refine beside.of_kept rfl (Nat.le_refl _) beside.bystands ?_ ?_
  · intro id member task found
    rw [List.mem_singleton.mp member, own] at found
    cases found
    exact ⟨remaining, rfl⟩
  · intro id new goesOn
    have notSelf : id ≠ operation := by simpa using new
    refine ⟨?_, new⟩
    have rested : (outline.rest operation (settling remaining) store).tasks id = outline.tasks id :=
      Function.update_of_ne notSelf _ _
    by_cases same : id = held
    · subst same
      have joined : ((outline.rest operation (settling remaining) store).join operation id).tasks id =
          (outline.tasks id).map fun task => { task with joiners := task.joiners ++ [operation] } := by
        rw [← rested]
        exact Function.update_self _ _ _
      rw [joined, Option.isSome_map] at goesOn
      exact goesOn
    · have joined : ((outline.rest operation (settling remaining) store).join operation held).tasks id =
          outline.tasks id := (Function.update_of_ne same _ _).trans rested
      rwa [joined] at goesOn

/-- An operation that settles ends. -/
theorem close_operation (beside : Beside [operation] player outline) (outcome : Outcome Reply) :
    Beside [operation] player (outline.close operation store outcome) := by
  refine beside.of_kept rfl (Nat.le_refl _) beside.bystands ?_ ?_
  · intro id member task found
    have gone : (outline.close operation store outcome).tasks operation = none :=
      Function.update_self _ _ _
    rw [List.mem_singleton.mp member, gone] at found
    cases found
  · intro id new goesOn
    have notSelf : id ≠ operation := by simpa using new
    have same : (outline.close operation store outcome).tasks id = outline.tasks id :=
      Function.update_of_ne notSelf _ _
    rw [same] at goesOn
    exact ⟨goesOn, new⟩

/-- The task that plays goes to sleep. -/
theorem rest (beside : Beside bystanders (some (role, id)) outline)
    (goesOn : (outline.tasks id).isSome = true) :
    Beside bystanders (some (role, id)) (outline.rest id task store) := by
  have notBystander := (beside.plays role id rfl).2
  have same : ∀ other, other ≠ id → (outline.rest id task store).tasks other = outline.tasks other :=
    fun other different => Function.update_of_ne different _ _
  refine beside.of_kept rfl (Nat.le_refl _) beside.bystands ?_ ?_
  · intro other member someone found
    rw [same other fun self => notBystander (self ▸ member)] at found
    exact beside.settles other member someone found
  · intro other new goes
    refine ⟨?_, new⟩
    by_cases self : other = id
    · rw [self]
      exact goesOn
    · rwa [same other self] at goes

/-- The task that plays ends. -/
theorem close (beside : Beside bystanders (some (role, id)) outline) (outcome : Outcome Reply) :
    Beside bystanders none (outline.close id store outcome) := by
  obtain ⟨holding, notBystander⟩ := beside.plays role id rfl
  have gone : (outline.close id store outcome).tasks id = none := Function.update_self _ _ _
  have same : ∀ other, other ≠ id →
      (outline.close id store outcome).tasks other = outline.tasks other :=
    fun other different => Function.update_of_ne different _ _
  refine ⟨by simp, beside.inside, ?_, beside.bystands, ?_, ?_⟩
  · intro other _
    show (outline.holdings other).slot.bind (outline.close id store outcome).tasks = none
    cases slot : (outline.holdings other).slot with
    | none => rfl
    | some held =>
        by_cases self : held = id
        · subst self
          exact gone
        · refine (same held self).trans ?_
          have notPlayer : ∀ someone, some (role, id) ≠ some (other, someone) := by
            intro someone plays
            cases plays
            rw [holding] at slot
            cases slot
            exact self rfl
          have idle := beside.idle other notPlayer
          rwa [slot] at idle
  · intro other member someone found
    rw [same other fun self => notBystander (self ▸ member)] at found
    exact beside.settles other member someone found
  · intro other someone found
    by_cases self : other = id
    · rw [self, gone] at found
      cases found
    · rw [same other self] at found
      rcases beside.only other someone found with member | ⟨_, plays⟩
      · exact .inl member
      · cases plays
        exact absurd rfl self

/-- The task that plays ends and the epilogue gets its own. -/
theorem handOver {body : Plan} (beside : Beside bystanders (some (role, id)) outline)
    (vacant : (outline.holdings .epilogue).slot = none) (outcome : Outcome Reply) :
    Beside bystanders (some (.epilogue, outline.count))
      ((outline.install .epilogue body).close id store outcome) := by
  obtain ⟨holding, notBystander⟩ := beside.plays role id rfl
  let after : Draft := (outline.install .epilogue body).close id store outcome
  have notEpilogue : role ≠ .epilogue := by
    rintro rfl
    rw [holding] at vacant
    cases vacant
  have gone : after.tasks id = none := Function.update_self _ _ _
  have same : ∀ other, other ≠ id → other ≠ outline.count → after.tasks other = outline.tasks other :=
    fun other notSelf notNew =>
      (Function.update_of_ne notSelf _ _).trans (Function.update_of_ne notNew _ _)
  have held : ∀ other, other ≠ .epilogue → after.holdings other = outline.holdings other :=
    fun other elsewhere => Function.update_of_ne elsewhere _ _
  have installed : after.holdings .epilogue =
      { slot := some outline.count, live := some outline.count } := rfl
  have oldBystander : ∀ other ∈ bystanders, other ≠ id ∧ other ≠ outline.count := by
    intro other member
    exact ⟨fun self => notBystander (self ▸ member), Nat.ne_of_lt (beside.bystands other member).1⟩
  refine ⟨?_, ?_, ?_, ?_, ?_, ?_⟩
  · intro other someone plays
    cases plays
    refine ⟨installed, ?_⟩
    intro member
    exact (oldBystander _ member).2 rfl
  · intro other someone slot
    by_cases elsewhere : other = .epilogue
    · subst elsewhere
      rw [installed] at slot
      cases slot
      exact Nat.lt_succ_self _
    · rw [held other elsewhere] at slot
      exact Nat.lt_succ_of_lt (beside.inside other someone slot)
  · intro other nobody
    have elsewhere : other ≠ .epilogue := by
      rintro rfl
      exact nobody _ rfl
    rw [held other elsewhere]
    cases slot : (outline.holdings other).slot with
    | none => rfl
    | some task =>
        by_cases self : task = id
        · subst self
          exact gone
        · have idle : outline.tasks task = none := by
            have notPlayer : ∀ someone, some (role, id) ≠ some (other, someone) := by
              intro someone plays
              cases plays
              rw [holding] at slot
              cases slot
              exact self rfl
            have idle := beside.idle other notPlayer
            rwa [slot] at idle
          exact (same task self (Nat.ne_of_lt (beside.inside other task slot))).trans idle
  · intro other member
    refine ⟨Nat.lt_succ_of_lt (beside.bystands other member).1, ?_⟩
    intro someRole
    by_cases elsewhere : someRole = .epilogue
    · subst elsewhere
      rw [installed]
      intro slot
      cases slot
      exact (oldBystander _ member).2 rfl
    · rw [held someRole elsewhere]
      exact (beside.bystands other member).2 someRole
  · intro other member someone found
    obtain ⟨notSelf, notNew⟩ := oldBystander other member
    rw [same other notSelf notNew] at found
    exact beside.settles other member someone found
  · intro other someone found
    by_cases self : other = id
    · rw [self, gone] at found
      cases found
    · by_cases new : other = outline.count
      · subst new
        exact .inr ⟨.epilogue, rfl⟩
      · rw [same other self new] at found
        rcases beside.only other someone found with member | ⟨_, plays⟩
        · exact .inl member
        · cases plays
          exact absurd rfl self

end Beside

/-! ## Turns -/

/-- Where one driver plays, that driver alone is active. -/
theorem Beside.player_of_active {player : Option (Role × TaskId)} (beside : Beside bystanders player outline)
    {held : TaskId} (holding : (outline.holdings role).slot = some held)
    (goesOn : (outline.tasks held).isSome = true) : player = some (role, held) := by
  by_contra elsewhere
  have nobody : ∀ id, player ≠ some (role, id) := by
    rintro id rfl
    obtain ⟨plays, -⟩ := beside.plays role id rfl
    rw [plays] at holding
    cases holding
    exact elsewhere rfl
  have idle := beside.idle role nobody
  rw [holding] at idle
  rw [show outline.tasks held = none from idle] at goesOn
  cases goesOn

/-- The task that plays may have been joined. -/
theorem Bound.of_joiners {program : Plan} {task : Task Alone Role SceneKind Reply} {own beyond : List Pause}
    {post : Session → Finale Alone Role SceneKind Reply → Prop} {after : Draft} (joiners : List TaskId)
    (beside : Beside bystanders (some (role, id)) after)
    (vacant : (after.holdings .epilogue).slot = none
      ∨ ∀ session driver body, ¬post session (.handedOver driver body))
    (found : after.tasks id = some { task with joiners := joiners }) (owner : task.owner = some role)
    (control : task.control = .run program) (kept : task.cancelPending = false)
    (runs : ∀ later : Alone, later.session = after.store.session →
      Runs machine (World.timer Alone) (exactly post) program task.frames later own)
    (foresees : ∀ session finale, post session finale → Foresees final beyond session finale) :
    Bound bystanders final (upcoming role own beyond) after :=
  .plays beside vacant found owner control kept runs foresees

/-- An operation that settles joins the task that plays, or ends where none does. -/
theorem Bound.conducts (bound : Bound [operation] final ahead outline) (remaining : List Role) :
    World.Conducts machine outline operation (.settle seat.drivers remaining .stop) outline.store
      (Bound [operation] final ahead) := by
  cases bound with
  | @plays _ role id task program own beyond post beside vacant found owner control kept runs foresees =>
      have outside := (beside.bystands operation List.mem_cons_self).2
      obtain ⟨holding, notOperation⟩ := beside.plays role id rfl
      have different : id ≠ operation := by simpa using notOperation
      refine .settle remaining outside ?_ ?_
      · intro driver held later slot goesOn
        obtain ⟨rfl, rfl⟩ : role = driver ∧ id = held := by
          have plays := beside.player_of_active slot goesOn
          simpa using plays
        refine Bound.of_joiners (task.joiners ++ [operation]) (beside.join different _) vacant ?_ owner
          control kept runs foresees
        have rested : (outline.rest operation (settling (role :: later)) outline.store).tasks id =
            some task := (Function.update_of_ne different _ _).trans found
        refine (Function.update_self _ _ _).trans ?_
        rw [show (outline.rest operation (Task.fresh none (.settle seat.drivers (role :: later) .stop))
          outline.store).tasks id = some task from rested]
        rfl
      · intro quiet
        have active : ((outline.holdings role).slot.bind outline.tasks) = some task := by
          rw [holding]
          exact found
        have everywhere : role ∈ seat.drivers := by cases role <;> decide
        rw [quiet role everywhere] at active
        cases active
  | rests beside same =>
      have outside := (beside.bystands operation List.mem_cons_self).2
      refine .settle remaining outside ?_ ?_
      · intro driver held later slot goesOn
        cases beside.player_of_active slot goesOn
      · intro _
        exact .done (.rests (beside.close_operation _) same)

/-- A play-through comes to a foreseen end with so many waits of each driver altogether. -/
def Comes (bystanders : List TaskId) (final : Session) (total : Role → List Pause) (world : Setting) :
    Prop :=
  ∃ told ahead, world.Noted told ∧ Bound bystanders final ahead world.outline
    ∧ thereafter told ahead = total

/-- A turn of the task that plays takes waits from what is ahead. -/
theorem lands_player {base : Setting} {task : Task Alone Role SceneKind Reply} {program : Plan}
    {own beyond : List Pause} {post : Session → Finale Alone Role SceneKind Reply → Prop}
    {told : Role → List Pause} (beside : Beside bystanders (some (role, id)) base.outline)
    (vacant : (base.holdings .epilogue).slot = none
      ∨ ∀ session driver body, ¬post session (.handedOver driver body))
    (found : base.outline.tasks id = some task) (owner : task.owner = some role)
    (control : task.control = .run program) (kept : task.cancelPending = false)
    (runs : ∀ later : Alone, later.session = base.store.session →
      Runs machine (World.timer Alone) (exactly post) program task.frames later own)
    (foresees : ∀ session finale, post session finale → Foresees final beyond session finale)
    (noted : (base.focus id (World.atTurn task) base.store).Noted told) :
    World.Lands machine (Comes bystanders final (thereafter told (upcoming role own beyond)))
      (base.focus id (World.atTurn task) base.store) := by
  have allowed : base.mayAct id task = true := by
    have live : (base.holdings role).live = some id := by
      rw [show base.holdings role = _ from (beside.plays role id rfl).1]
    simp [World.mayAct, owner, live]
  have inside := World.inside_of_found found
  have goesOn : (base.outline.tasks id).isSome = true := by rw [found]; rfl
  rw [World.atTurn_of_kept control kept] at noted ⊢
  have owned : (base.focus id (task.on (.run program) task.frames) base.store).owners[id]? =
      some (some role) := by
    simp [World.owners, World.bare, World.focus, inside, Task.bare, Task.on, owner]
  refine World.lands_of_timed _ found allowed (runs _ rfl) ?_ ?_ ?_
  · intro after next around later news rest same begins _ _ split residue
    refine ⟨_, upcoming role rest beyond, noted.begins begins owned, ?_, ?_⟩
    · rw [same]
      exact .plays (beside.rest goesOn) vacant (Function.update_self _ _ _) owner rfl kept residue
        foresees
    · rw [thereafter_alsoWaits, split]
  · intro after outcome last finale news same begins _ split alone reached
    have closes : last.session = final ∧ beyond = [] := by
      have foreseen := foresees last.session finale reached
      cases finale with
      | done => exact foreseen
      | failed fault => exact foreseen
      | handedOver driver body => exact absurd rfl (alone driver body)
    refine ⟨_, fun _ => [], noted.begins begins owned, ?_, ?_⟩
    · rw [same]
      exact .rests (beside.close _) closes.1
    · rw [closes.2, split, ← upcoming_nothing role, thereafter_alsoWaits, List.append_nil]
  · intro after driver body last news same begins _ split reached
    obtain ⟨rfl, script⟩ := foresees last.session _ reached
    have empty : (base.holdings .epilogue).slot = none := by
      rcases vacant with empty | never
      · exact empty
      · exact absurd reached (never _ _ _)
    refine ⟨_, upcoming .epilogue beyond [], noted.begins begins owned, ?_, ?_⟩
    · rw [same, World.displace_of_vacant empty, World.outline_install]
      have different : base.outline.count ≠ id := Ne.symm (Nat.ne_of_lt inside)
      refine .plays (beside.handOver empty _) (.inr ?_)
        ((Function.update_of_ne different _ _).trans (Function.update_self _ _ _)) rfl rfl rfl script
        fun session finale closes => closes.foresees
      intro session driver body closes
      exact closes.2 driver body rfl
    · have notEpilogue : role ≠ .epilogue := by
        rintro rfl
        have holding : base.holdings .epilogue = _ := (beside.plays .epilogue id rfl).1
        rw [holding] at empty
        cases empty
      rw [split, thereafter_handOver notEpilogue]

/-! ## From step to step -/

theorem Bound.beside (bound : Bound bystanders final ahead outline) :
    ∃ player, Beside bystanders player outline := by
  cases bound with
  | plays beside _ _ _ _ _ _ _ => exact ⟨_, beside⟩
  | rests beside _ => exact ⟨_, beside⟩

/-- An operation that settles begins. -/
theorem Bound.add (bound : Bound [] final ahead outline) (remaining : List Role) :
    Bound [outline.count] final ahead (outline.add (settling remaining)) := by
  cases bound with
  | plays beside vacant found owner control kept runs foresees =>
      have inside := beside.inside _ _ (by rw [(beside.plays _ _ rfl).1])
      have still : (outline.add (settling remaining)).tasks _ = some _ :=
        (Function.update_of_ne (Nat.ne_of_lt inside) _ _).trans found
      exact .plays (beside.add remaining) vacant still owner control kept runs foresees
  | rests beside same => exact .rests (beside.add remaining) same

/-- A turn of an operation that settles leaves everything as it is. -/
theorem lands_operation {base : Setting} {task : Task Alone Role SceneKind Reply}
    {told : Role → List Pause} (bound : Bound [operation] final ahead base.outline)
    (found : base.outline.tasks operation = some task)
    (noted : (base.focus operation (World.atTurn task) base.store).Noted told) :
    World.Lands machine (Comes [operation] final (thereafter told ahead))
      (base.focus operation (World.atTurn task) base.store) := by
  obtain ⟨player, beside⟩ := bound.beside
  obtain ⟨remaining, rfl⟩ := beside.settles operation List.mem_cons_self task found
  have inside := World.inside_of_found found
  have turn : World.Lands machine (fun after => Bound [operation] final ahead after.outline)
      (base.focus operation (World.atTurn (settling remaining)) base.store) :=
    bound.conducts remaining base rfl (by rw [found]; rfl)
  have owned : (base.focus operation (World.atTurn (settling remaining)) base.store).owners[operation]? =
      some none := by
    simp [World.owners, World.bare, World.focus, inside, Task.bare, World.atTurn, settling, Task.fresh]
  refine (turn.begins rfl).mono ?_
  rintro after - ⟨reached, news, begins⟩
  exact ⟨told, ahead, noted.begins_of_operation begins owned, reached, rfl⟩

namespace Comes

variable {total : Role → List Pause}

/-- A move that does not show leaves everything as it is. -/
theorem of_same (comes : Comes bystanders final total world) (same : after.outline = world.outline)
    (begins : World.Begins id [] world after) : Comes bystanders final total after := by
  obtain ⟨told, ahead, noted, bound, whole⟩ := comes
  exact ⟨told, ahead, noted.quiet begins, same ▸ bound, whole⟩

/-- The next step, and the turn that it may begin. -/
theorem lands_step (comes : Comes [operation] final total world) (balanced : world.Balanced)
    (noTurn : world.running = none) :
    World.Lands machine (Comes [operation] final total) (world.step machine) := by
  have between : ∀ id, World.Begins id [] world (world.step machine) := World.begins_between noTurn
  rcases World.step_cases machine balanced noTurn with
    ⟨stopped, same, -⟩ | ⟨id, task, base, found, same, stepped, -⟩
  · exact .here stopped (comes.of_same same (between operation))
  · obtain ⟨told, ahead, noted, bound, rfl⟩ := comes
    have turned := noted.quiet (between id)
    have sameStore : base.store = world.store := congrArg Outline.store same
    rw [stepped, ← sameStore] at turned ⊢
    rw [← same] at found bound
    obtain ⟨player, beside⟩ := bound.beside
    rcases beside.only id task found with member | ⟨role, rfl⟩
    · rw [List.mem_singleton.mp member] at found turned ⊢
      exact lands_operation bound found turned
    · cases bound with
      | @plays _ other someone _ _ _ _ _ plays vacant there owner control kept runs foresees =>
          have same : some (other, someone) = some (role, id) :=
            plays.player_of_active ((congrArg Holding.slot (beside.plays role id rfl).1))
              (by rw [found]; rfl)
          cases same
          rw [there] at found
          cases found
          exact lands_player plays vacant there owner control kept runs foresees turned
      | rests rests _ =>
          have nobody : none = some (role, id) :=
            rests.player_of_active ((congrArg Holding.slot (beside.plays role id rfl).1))
              (by rw [found]; rfl)
          cases nobody

/-- An operation that settles has its first turn. -/
theorem lands_begin (comes : Comes [] final total world) :
    World.Lands machine (Comes [world.outline.count] final total) (world.begin settle).2 := by
  obtain ⟨told, ahead, noted, bound, rfl⟩ := comes
  have turn : World.Lands machine
      (fun after => Bound [world.outline.count] final ahead after.outline) (world.begin settle).2 :=
    World.lands_begin _ ((bound.add []).conducts [])
  refine (turn.begins rfl).mono ?_
  rintro after - ⟨reached, news, begins⟩
  exact ⟨told, ahead, noted.of_operation begins, reached, rfl⟩

/-- The moves until the operation has ended. -/
theorem of_pursues (lands : World.Lands machine (Comes [operation] final total) world)
    (balanced : world.Balanced) (pursues : World.Pursues machine operation world after) :
    World.Lands machine (Comes [operation] final total) after := by
  induction pursues with
  | here _ => exact lands
  | @step world _ _ _ _ inductionHypothesis =>
      refine inductionHypothesis ?_ (balanced.step machine)
      cases turn : world.running with
      | some id => exact lands.onward turn
      | none => exact (lands.reached turn).lands_step balanced turn
  | @release world released _ _ idle oldest _ inductionHypothesis =>
      have noTurn := World.noTurn_of_isIdle idle
      have orderly : world.Orderly none := by
        rw [← noTurn]
        exact balanced
      have stillNoTurn : released.running = none := by
        obtain ⟨-, -, rfl⟩ := World.release?_eq_some.mp oldest
        exact noTurn
      refine inductionHypothesis (.here stillNoTurn ?_) (balanced.release? oldest)
      exact (lands.reached noTurn).of_same (World.outline_release? orderly oldest)
        (World.begins_release? oldest operation)

/-- Where no driver plays, a play-through has come to its end. -/
theorem ended (comes : Comes bystanders final total world) (quiet : ∀ role, world.isActive role = false) :
    world.store.session = final ∧ world.Noted total := by
  obtain ⟨told, ahead, noted, bound, rfl⟩ := comes
  cases bound with
  | rests beside same => exact ⟨same, by rwa [thereafter_nothing]⟩
  | @plays _ role id _ _ _ _ _ beside vacant found owner control kept runs foresees =>
      have holding : world.holdings role = _ := (beside.plays role id rfl).1
      have active : world.isActive role = true := by
        rw [World.isActive_eq, holding]
        exact congrArg Option.isSome found
      rw [quiet role] at active
      cases active

/-- A play-through that has settled has come to its end. -/
theorem settles (comes : Comes [] final total world) (balanced : world.Balanced)
    (noTurn : world.running = none) (carries : Carries world .settle true after)
    (stopped : after.running = none) (quiet : ∀ role, after.isActive role = false) :
    after.store.session = final ∧ after.Noted total := by
  obtain ⟨bound, rfl, -⟩ := carries
  have lands := of_pursues comes.lands_begin (balanced.begin noTurn settle)
    (World.Pursues.of_runUntilEnded bound _)
  exact (lands.reached stopped).ended quiet

end Comes

end Playthrough.Session.Alone
