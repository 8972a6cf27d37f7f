import ToolingHost.Proofs.Activation.Outcome

/-! # Status items of tasks

What is seen of a task and of its status item in the moves of a run, and what a step contributes to
it. The items that tasks have are numbered in the order of their creation, and only the task that
has an item, and what is done to that task, brings about events that are about the item
(`Step.item_cases`). The story of an item goes on with every step of its task (`Turn.story`). -/

namespace ToolingHost.Activation

/-! ## What moves show of a task and its item -/

/-- Whether an event is about a status item. -/
def Event.isAbout (item : Nat) (e : Event) : Bool := e.item? == some item

/-- The status item that an event creates. -/
def Event.creates? : Event → Option Nat
  | .host (.createItem item) => some item
  | _ => none

/-- The message that a task sets next. -/
def Task.message? (t : Task) : Option String :=
  match t.scope.phase with
  | .running ⟨.update message :: _, _⟩ => some message
  | _ => none

/-- The items that a task creates in a move. -/
def itemsBy (id : Nat) (move : Move Run Happening Event) : List Nat :=
  if move.action = .act (.task id) then move.events.filterMap Event.creates? else []

/-- The items that a task creates, in order. -/
def itemsOf (id : Nat) (moves : Moves) : List Nat := moves.flatMap (itemsBy id)

/-- What is seen of a task and an item in a move: what the task does, and what happens to the
item. -/
def seenBy (id item : Nat) (move : Move Run Happening Event) : List Event :=
  move.events.filter fun e => decide (move.action = .act (.task id)) || e.isAbout item

/-- What is seen of a task and an item, in order. -/
def seenOf (id item : Nat) (moves : Moves) : List Event := moves.flatMap (seenBy id item)

/-- The messages that are set for a task in a move before it has settled: by its activator, or
through the handle that the activator has kept. -/
def messagesBy (id : Nat) (move : Move Run Happening Event) : List String :=
  match move.action with
  | .act (.task j) =>
    if j = id then ((move.source.world.tasks[id]?).bind Task.message?).toList else []
  | .late j message => if j = id ∧ move.source.world.settled? id = none then [message] else []
  | _ => []

/-- The messages that are set for a task before it has settled, in order. -/
def messagesOf (id : Nat) (moves : Moves) : List String := moves.flatMap (messagesBy id)

section Moves

variable (id item : Nat) (first second : Moves) (move : Move Run Happening Event)

/-- Items are created in the order of the moves. -/
@[simp] theorem itemsOf_append :
    itemsOf id (first ++ second) = itemsOf id first ++ itemsOf id second := by
  simp [itemsOf]

/-- The items of one move. -/
@[simp] theorem itemsOf_singleton : itemsOf id [move] = itemsBy id move := by simp [itemsOf]

/-- What is seen comes in the order of the moves. -/
@[simp] theorem seenOf_append :
    seenOf id item (first ++ second) = seenOf id item first ++ seenOf id item second := by
  simp [seenOf]

/-- What is seen in one move. -/
@[simp] theorem seenOf_singleton : seenOf id item [move] = seenBy id item move := by simp [seenOf]

/-- Messages are set in the order of the moves. -/
@[simp] theorem messagesOf_append :
    messagesOf id (first ++ second) = messagesOf id first ++ messagesOf id second := by
  simp [messagesOf]

/-- The messages of one move. -/
@[simp] theorem messagesOf_singleton : messagesOf id [move] = messagesBy id move := by
  simp [messagesOf]

end Moves

/-! ## Whose an item is -/

/-- The number of the next item. -/
def World.nextItem (w : World) : Nat := w.context.host.nextItem

section Step

variable {setup : Setup} {activators : Activators} {r r' : Run} {w : World} {h : Happening}
  {events : List Event} {e : Event} {t t' : Task} {id item spent : Nat} {scope : Scope Body Result}

/-- A call about the item of an entry is about that item. -/
theorem item?_of_mem {call : Nat → HostCall} (about : ∀ i, (Event.host (call i)).item? = some i)
    {own : Option Nat} (he : e ∈ own.toList.map fun i => .host (call i))
    (is : e.item? = some item) : own = some item := by
  obtain ⟨i, hi, rfl⟩ := List.mem_map.mp he
  rw [about, Option.some.injEq] at is
  subst is
  exact Option.mem_toList.mp hi

/-- A step around the call of an activator is about the item of the task, or a new one. -/
theorem advance_item_cases {host : Host} {s s' : Scope Body Result} {calls : List HostCall}
    (own : Scope.Advance host s calls spent s') (he : e ∈ calls.map .host)
    (is : e.item? = some item) :
    s.entry.item = some item ∨ item = host.nextItem ∧ spent = 1 ∧ s.phase = .fresh := by
  cases own with
  | created at_ =>
      rw [List.map_singleton, List.mem_singleton] at he
      subst he
      cases is
      exact .inr ⟨rfl, rfl, at_⟩
  | uncreated => cases he
  | labelled | shown | disposed =>
      rw [List.map_map] at he
      exact .inl (item?_of_mem (fun _ => rfl) he is)
  | unlabelled _ own | unshown _ own | undisposed _ own =>
      rw [List.map_singleton, List.mem_singleton] at he
      subst he
      cases is
      exact .inl own

/-- A step of a task is about the item of the task, or a new one. -/
theorem Turn.item_cases (turn : Turn activators w t events spent scope) (he : e ∈ events)
    (is : e.item? = some item) :
    t.scope.entry.item = some item ∨ item = w.nextItem ∧ spent = 1 ∧ t.scope.phase = .fresh := by
  cases turn with
  | around own => exact advance_item_cases own he is
  | called | uncalled =>
      rw [List.mem_singleton.mp he] at is
      cases is
  | updated | unupdated => exact .inl (item?_of_mem (fun _ => rfl) he is)
  | acted _ _ unrelated =>
      rw [(unrelated e he).1] at is
      cases is
  | ended => cases he

/-- After a step a task has the item that it had, or a new one, or none. -/
theorem Turn.owns (turn : Turn activators w t events spent scope)
    (own : scope.entry.item = some item) :
    t.scope.entry.item = some item ∨ item = w.nextItem ∧ spent = 1 := by
  cases turn with
  | around step =>
      cases step with
      | created =>
          cases own
          exact .inr ⟨rfl, rfl⟩
      | uncreated | labelled | shown | unshown => exact .inl own
      | unlabelled | disposed | undisposed => cases own
  | called | uncalled | updated | unupdated | acted | ended => exact .inl own

/-- The number of the next item never goes back. -/
theorem Step.nextItem_le (made : Step setup r h r' events) :
    r.world.nextItem ≤ r'.world.nextItem := by
  cases made with
  | coordinator own =>
      obtain ⟨stage, world⟩ := r
      cases own with
      | started leads => exact Nat.le_of_eq leads.nextItem.symm
      | stored | unstored | launched | skipped | watched | waited | passed | failed | again
        | succeeded => exact Nat.le_refl _
  | task _ _ own =>
      obtain ⟨-, -, leads⟩ := own
      exact Nat.le.intro leads.nextItem.symm
  | opened | uncancelled => exact Nat.le_refl _
  | cancelled _ _ leads | late _ _ leads => exact Nat.le_of_eq leads.nextItem.symm

/-- An event about an item comes from the task that has the item, or creates it. -/
theorem Step.item_cases (made : Step setup r h r' events) (he : e ∈ events)
    (is : e.item? = some item) :
    (∃ id t, h.subject? = some id ∧ r.world.tasks[id]? = some t ∧
      t.scope.entry.item = some item) ∨
    (item = r.world.nextItem ∧ r'.world.nextItem = r.world.nextItem + 1) := by
  cases made with
  | coordinator own =>
      obtain ⟨stage, world⟩ := r
      exfalso
      cases own with
      | started | launched | skipped =>
          rw [List.mem_singleton.mp he] at is
          cases is
      | stored =>
          obtain ⟨record, -, rfl⟩ := List.mem_map.mp he
          cases is
      | unstored | watched | waited | passed | failed | again | succeeded => cases he
  | task found _ own =>
      obtain ⟨turn, -, leads⟩ := own
      rcases turn.item_cases he is with own | ⟨new, rfl, -⟩
      · exact .inl ⟨_, _, rfl, found, own⟩
      · exact .inr ⟨new, leads.nextItem⟩
  | opened | uncancelled => cases he
  | cancelled found | late found =>
      exact .inl ⟨_, _, rfl, found, item?_of_mem (fun _ => rfl) he is⟩

/-- A call about the item of an entry creates none, unless it is the call that does. -/
theorem creates?_of_mem {call : Nat → HostCall} (other : ∀ i, (Event.host (call i)).creates? = none)
    {own : Option Nat} (he : e ∈ own.toList.map fun i => .host (call i)) : e.creates? = none := by
  obtain ⟨i, -, rfl⟩ := List.mem_map.mp he
  exact other i

/-- Only the first step of a task creates an item, which is the next one. -/
theorem Turn.creates (turn : Turn activators w t events spent scope) (he : e ∈ events)
    (is : e.creates? = some item) : item = w.nextItem ∧ t.scope.phase = .fresh := by
  -- only the first step of a scope asks the host for an item
  cases turn with
  | around own =>
      cases own with
      | created at_ =>
          rw [List.map_singleton, List.mem_singleton] at he
          subst he
          cases is
          exact ⟨rfl, at_⟩
      | uncreated => cases he
      | labelled | shown | disposed =>
          rw [List.map_map] at he
          rw [creates?_of_mem (fun _ => rfl) he] at is
          cases is
      | unlabelled | unshown | undisposed =>
          rw [List.map_singleton, List.mem_singleton] at he
          subst he
          cases is
  | called | uncalled =>
      rw [List.mem_singleton.mp he] at is
      cases is
  | updated | unupdated =>
      rw [creates?_of_mem (fun _ => rfl) he] at is
      cases is
  | acted _ _ unrelated =>
      have none := (unrelated e he).1
      cases e with
      | host call => cases call <;> simp_all [Event.item?, Event.creates?]
      | called | marked | started | disposed | logged => cases is
  | ended => cases he

/-- Only a step of a task creates an item, which is the next one. -/
theorem Step.creates (made : Step setup r h r' events) (he : e ∈ events)
    (is : e.creates? = some item) : item = r.world.nextItem ∧ ∃ id, h = .act (.task id) := by
  cases made with
  | coordinator own =>
      obtain ⟨stage, world⟩ := r
      exfalso
      cases own with
      | started | launched | skipped =>
          rw [List.mem_singleton.mp he] at is
          cases is
      | stored =>
          obtain ⟨record, -, rfl⟩ := List.mem_map.mp he
          cases is
      | unstored | watched | waited | passed | failed | again | succeeded => cases he
  | task found _ own =>
      obtain ⟨turn, -, -⟩ := own
      exact ⟨(turn.creates he is).1, _, rfl⟩
  | opened | uncancelled => cases he
  | cancelled found | late found =>
      rw [creates?_of_mem (fun _ => rfl) he] at is
      cases is

/-- After a step a task has the item that it had, or a new one, or none. -/
theorem Change.owns (change : Change setup w id h events t')
    (own : t'.scope.entry.item = some item) :
    (∃ t, w.tasks[id]? = some t ∧ t.scope.entry.item = some item) ∨
      item = w.nextItem ∧ h = .act (.task id) := by
  cases change with
  | launched => cases own
  | same found | spared found | late found => exact .inl ⟨_, found, own⟩
  | turned found _ turn =>
      rcases turn.owns own with own | ⟨new, -⟩
      · exact .inl ⟨_, found, own⟩
      · exact .inr ⟨new, rfl⟩
  | cancelled => cases own

end Step

/-! ## Orderly worlds -/

/-- A world in which items and handles belong to tasks as they should. -/
structure Orderly (w : World) : Prop where
  /-- The items of tasks have been handed out. -/
  below : ∀ (id : Nat) (t : Task) (item : Nat), w.tasks[id]? = some t →
    t.scope.entry.item = some item → item < w.nextItem
  /-- Only an activator that was called has kept a handle. -/
  kept : ∀ id, w.keeps id = true →
    ∃ t : Task, w.tasks[id]? = some t ∧ t.scope.phase.isCalled = true

/-- A world in which nothing has happened is orderly. -/
theorem Orderly.fresh (fs : FileSystem) (context : Context) : Orderly (.fresh fs context) :=
  ⟨fun _ _ _ found => (by cases found), fun _ kept => (by cases kept)⟩

section Orderly

variable {setup : Setup} {activators : Activators} {r r' : Run} {w : World} {h : Happening}
  {events : List Event} {t t' : Task} {id j spent : Nat} {scope : Scope Body Result}

/-- An activator that was called stays called. -/
theorem Turn.stays_called (turn : Turn activators w t events spent scope)
    (called : t.scope.phase.isCalled = true) : scope.phase.isCalled = true := by
  cases turn with
  | around own =>
      cases own with
      | created at_ | uncreated at_ | labelled at_ | unlabelled at_ | shown at_ | unshown at_ =>
          rw [at_] at called
          cases called
      | disposed | undisposed => rfl
  | called | uncalled | updated | unupdated | acted | ended => rfl

/-- No step takes a task away. -/
theorem Step.length_le (made : Step setup r h r' events) :
    r.world.tasks.length ≤ r'.world.tasks.length := by
  cases made with
  | coordinator own =>
      obtain ⟨stage, world⟩ := r
      cases own with
      | started leads => exact Nat.le_of_eq (by rw [leads.tasks])
      | launched => simp
      | stored | unstored | skipped | watched | waited | passed | failed | again | succeeded =>
          exact Nat.le_refl _
  | task _ _ own =>
      obtain ⟨-, -, leads⟩ := own
      exact Nat.le_of_eq (by rw [leads.tasks, List.length_modify])
  | opened | uncancelled => exact Nat.le_refl _
  | cancelled _ _ leads => exact Nat.le_of_eq (by rw [leads.tasks, List.length_modify])
  | late _ _ leads => exact Nat.le_of_eq (by rw [leads.tasks])

/-- A task that is there stays there, and called if its activator was called. -/
theorem Step.called (made : Step setup r h r' events) (found : r.world.tasks[id]? = some t)
    (called : t.scope.phase.isCalled = true) :
    ∃ t', r'.world.tasks[id]? = some t' ∧ t'.scope.phase.isCalled = true := by
  have there : id < r'.world.tasks.length :=
    Nat.lt_of_lt_of_le (List.getElem?_eq_some_iff.mp found).1 made.length_le
  obtain ⟨t', after⟩ : ∃ t', r'.world.tasks[id]? = some t' :=
    ⟨_, List.getElem?_eq_getElem there⟩
  refine ⟨t', after, ?_⟩
  cases made.change after with
  | launched new =>
      rw [new, List.getElem?_eq_none (Nat.le_refl _)] at found
      cases found
  | same before | spared before | late before =>
      rw [found] at before
      cases before
      exact called
  | turned before _ turn =>
      rw [found] at before
      cases before
      exact turn.stays_called called
  | cancelled => rfl

/-- A handle is kept that was kept before, or that of a task whose activator runs. -/
theorem Step.keeps_cases (made : Step setup r h r' events) (kept : r'.world.keeps id = true) :
    r.world.keeps id = true ∨
      ∃ t body, r.world.tasks[id]? = some t ∧ t.scope.phase = .running body := by
  cases made with
  | coordinator own =>
      obtain ⟨stage, world⟩ := r
      cases own with
      | started leads =>
          unfold World.keeps at kept
          rw [leads.kept] at kept
          exact .inl kept
      | stored | unstored | launched | skipped | watched | waited | passed | failed | again
        | succeeded => exact .inl kept
  | @task j t _ _ found _ own =>
      obtain ⟨-, keeping, leads⟩ := own
      unfold World.keeps at kept
      rw [leads.kept] at kept
      rcases keeping with rfl | ⟨rfl, body, running⟩
      · exact .inl kept
      · rw [List.any_cons, Bool.or_eq_true, beq_iff_eq] at kept
        rcases kept with here | before
        · exact .inr ⟨t, body, here ▸ found, running⟩
        · exact .inl before
  | opened | uncancelled => exact .inl kept
  | cancelled _ _ leads | late _ _ leads =>
      unfold World.keeps at kept
      rw [leads.kept] at kept
      exact .inl kept

/-- Every step leaves an orderly world orderly. -/
theorem Orderly.step (before : Orderly r.world) (made : Step setup r h r' events) :
    Orderly r'.world where
  below id t item after own := by
    rcases (made.change after).owns own with ⟨t, found, own⟩ | ⟨new, rfl⟩
    · exact Nat.lt_of_lt_of_le (before.below id t item found own) made.nextItem_le
    · -- a step of a task that takes the next item uses its number up
      cases made with
      | task found _ step =>
          obtain ⟨turn, -, leads⟩ := step
          rw [leads.tasks] at after
          rcases getElem?_modify_cases after with ⟨other, -⟩ | ⟨-, u, same, rfl⟩
          · exact absurd rfl other
          · rcases turn.owns own with own | ⟨new, rfl⟩
            · exact Nat.lt_of_lt_of_le (before.below id _ item found own) (Nat.le.intro
                leads.nextItem.symm)
            · exact new ▸ Nat.le_of_eq leads.nextItem.symm
  kept id kept := by
    rcases made.keeps_cases kept with kept | ⟨t, body, found, running⟩
    · obtain ⟨t, found, called⟩ := before.kept id kept
      exact made.called found called
    · exact made.called found (by rw [running]; rfl)

end Orderly

/-! ## The story of an item -/

/-- The event that sets a message. -/
def texted (item : Nat) (message : String) : Event :=
  .host (.setText item (spinner ++ " " ++ message))

/-- A message of an entry that has an item is put behind the spinner. -/
theorem texting_spinner (item : Nat) (message : String) :
    texting ⟨spinner, some item⟩ message = [texted item message] := rfl

/-- What is seen of an item before the activator is called. -/
def preparation (item : Nat) : List Event :=
  [.host (.createItem item), .host (.setText item spinner), .host (.showItem item)]

/-- What is seen of a task and its item up to a phase, if its activator did `body`. -/
def storyIn (s : Subsystem) (path : Option FilePath) (item : Nat) (stored : Bool)
    (body : List Event) : Scope.Phase Body Result → List Event
  | .fresh => []
  | .created => (preparation item).take 1
  | .labelled => (preparation item).take 2
  | .shown => preparation item
  | .running _ | .closing _ => preparation item ++ .called s path stored :: body
  | .closed _ => preparation item ++ .called s path stored :: body ++ [.host (.disposeItem item)]

/-- More that the activator does goes on with the story while it is called and not over. -/
theorem storyIn_append {s : Subsystem} {path : Option FilePath} {item : Nat} {stored : Bool}
    {body more : List Event} {phase : Scope.Phase Body Result} (called : phase.isCalled = true)
    (short : phase.isClosed = false) :
    storyIn s path item stored body phase ++ more =
      storyIn s path item stored (body ++ more) phase := by
  cases phase with
  | running | closing => simp [storyIn]
  | fresh | created | labelled | shown => cases called
  | closed => cases short

/-- The call of the activator is not seen before it is called. -/
theorem isCall_of_mem_storyIn {s : Subsystem} {path : Option FilePath} {item : Nat} {stored : Bool}
    {body : List Event} {phase : Scope.Phase Body Result} (early : phase.isCalled = false)
    {e : Event} (he : e ∈ storyIn s path item stored body phase) : e.isCall = false := by
  have before : e ∈ preparation item := by
    cases phase with
    | fresh => cases he
    | created | labelled => exact List.mem_of_mem_take he
    | shown => exact he
    | running | closing | closed => cases early
  simp only [preparation, List.mem_cons, List.not_mem_nil, or_false] at before
  rcases before with rfl | rfl | rfl <;> rfl

/-- The host would break down now at a call that prepares an item. -/
def World.Faulty (w : World) : Prop :=
  ∃ item call, .host call ∈ preparation item ∧
    w.context.host.faults w.context.host.history call = true

/-- A step of a task goes on with the story of its item: its activator does `more`. -/
structure GoesOn (t : Task) (item : Nat) (stored : Bool) (body events : List Event)
    (scope : Scope Body Result) (stored' : Bool) (more : List Event) : Prop where
  /-- The story has begun. -/
  begun : scope.phase ≠ .fresh
  /-- The entry has the item until the story is over. -/
  entry : scope.entry = ⟨spinner, if scope.phase.isClosed then none else some item⟩
  /-- The events of the step are the next ones of the story. -/
  seen : storyIn t.subsystem t.customPath item stored body t.scope.phase ++ events =
    storyIn t.subsystem t.customPath item stored' (body ++ more) scope.phase
  /-- An activator that was not called has done nothing. -/
  early : scope.phase.isCalled = false → body ++ more = []
  /-- It calls no activator. -/
  quiet : ∀ e ∈ more, e.isCall = false
  /-- It shows the message that it sets. -/
  texts : more.filter (Event.isAbout item) = t.message?.toList.map (texted item)

section Turn

variable {activators : Activators} {w : World} {events body : List Event} {t : Task}
  {item spent : Nat} {scope : Scope Body Result}

/-- What a step of a task does to the story of its item: it goes on, with what the activator does,
or the host breaks down before the activator is called. -/
theorem Turn.story (turn : Turn activators w t events spent scope) (stored : Bool)
    (entry : t.scope.entry = ⟨spinner, some item⟩) (begun : t.scope.phase ≠ .fresh)
    (early : t.scope.phase.isCalled = false → body = []) :
    (∃ stored' more, GoesOn t item stored body events scope stored' more) ∨
    t.scope.phase.isCalled = false ∧ w.Faulty ∧
      (scope.phase = .closing none ∨ scope.phase = .closed none) ∧
      ∀ e ∈ events, e.isCall = false := by
  -- only a call to the host before the activator is called can break the story off
  cases turn with
  | around own =>
      cases own with
      | created at_ | uncreated at_ => exact absurd at_ begun
      | labelled at_ =>
          refine .inl ⟨stored, [], (fun same => by cases same), by rw [entry]; rfl, ?_, ?_,
            List.forall_mem_nil _, ?_⟩
          · simp [at_, entry, storyIn, preparation]
          · simpa [at_, Scope.Phase.isCalled] using early
          · simp [Task.message?, at_]
      | @unlabelled i at_ _ broken =>
          rw [entry] at broken
          exact .inr ⟨by rw [at_]; rfl, ⟨i, _, by simp [preparation], broken⟩, .inr rfl,
            by simp [Event.isCall]⟩
      | shown at_ =>
          refine .inl ⟨stored, [], (fun same => by cases same), by rw [entry]; rfl, ?_, ?_,
            List.forall_mem_nil _, ?_⟩
          · simp [at_, entry, storyIn, preparation]
          · simpa [at_, Scope.Phase.isCalled] using early
          · simp [Task.message?, at_]
      | @unshown i at_ _ broken =>
          exact .inr ⟨by rw [at_]; rfl, ⟨i, _, by simp [preparation], broken⟩, .inl rfl,
            by simp [Event.isCall]⟩
      | disposed at_ | undisposed at_ =>
          refine .inl ⟨stored, [], (fun same => by cases same), by rw [entry]; rfl, ?_,
            (fun early => by cases early), List.forall_mem_nil _, ?_⟩
          · simp_all [storyIn, preparation]
          · simp [Task.message?, at_]
  | @called stored' at_ | @uncalled stored' at_ =>
      refine .inl ⟨stored', [], (fun same => by cases same), entry, ?_,
        (fun early => by cases early), List.forall_mem_nil _, ?_⟩
      · simp [at_, early, Scope.Phase.isCalled, storyIn, Task.goOn, Scope.finish]
      · simp [Task.message?, at_]
  | @updated message _ _ at_ | @unupdated message _ _ at_ =>
      refine .inl ⟨stored, [texted item message], (fun same => by cases same), entry, ?_,
        (fun early => by cases early), by simp [texted, Event.isCall], ?_⟩
      · simp [at_, entry, texting_spinner, storyIn, Task.goOn, Scope.finish]
      · simp [Task.message?, at_, texted, Event.isAbout, Event.item?]
  | acted at_ other unrelated =>
      refine .inl ⟨stored, events, (fun same => by cases same), entry, ?_,
        (fun early => by cases early), fun e he => (unrelated e he).2, ?_⟩
      · simp [at_, storyIn, Task.goOn]
      · have silent : t.message? = none := by
          unfold Task.message?
          rw [at_]
          split
          · rename_i same
            cases same
            exact absurd rfl (other _)
          · rfl
        rw [silent, Option.toList_none, List.map_nil, List.filter_eq_nil_iff]
        intro e he
        simp [Event.isAbout, (unrelated e he).1]
  | ended at_ =>
      refine .inl ⟨stored, [], (fun same => by cases same), entry, ?_,
        (fun early => by cases early), List.forall_mem_nil _, ?_⟩
      · simp [at_, storyIn, Scope.finish]
      · simp [Task.message?, at_]

/-- A task that has broken down only disposes of its item. -/
theorem Turn.of_closing_none (turn : Turn activators w t events spent scope)
    (closing : t.scope.phase = .closing none) :
    scope.phase = .closed none ∧ ∀ e ∈ events, e.isCall = false := by
  cases turn with
  | around own =>
      cases own with
      | disposed at_ | undisposed at_ =>
          rw [closing] at at_
          cases at_
          refine ⟨rfl, fun e he => ?_⟩
          obtain ⟨call, -, rfl⟩ := List.mem_map.mp he
          rfl
      | created at_ | uncreated at_ | labelled at_ | unlabelled at_ | shown at_ | unshown at_ =>
          rw [closing] at at_
          cases at_
  | called at_ | uncalled at_ | updated at_ | unupdated at_ | acted at_ | ended at_ =>
      rw [closing] at at_
      cases at_

end Turn

end ToolingHost.Activation
