import ToolingHost.Proofs.Activation.Items

/-! # The status item of every task

Every task that is launched gets one status item of its own: it is created, labelled and shown
before the activator is called, it shows the messages that are set before the task has settled, and
it is disposed of once, whatever the activator does and whoever keeps a handle. `Account` says for
every task what has been seen of it; every step that is possible takes it further (`Account.step`).
-/

namespace ToolingHost.Activation

/-! ## Accounts of tasks -/

/-- An item that a task has created, alone, and that nobody else has. -/
structure Tracked (w : World) (moves : Moves) (id item : Nat) : Prop where
  /-- It is the one item that the task has created. -/
  created : itemsOf id moves = [item]
  /-- Its number is used up. -/
  below : item < w.nextItem
  /-- No other task has it. -/
  alone : ∀ (j : Nat) (u : Task), w.tasks[j]? = some u → u.scope.entry.item = some item → j = id
  /-- No other task has created it. -/
  creator : ∀ move ∈ moves, ∀ e ∈ move.events, e.creates? = some item →
    move.action = .act (.task id)

/-- What has been seen of a task until now. -/
inductive Account (w : World) (moves : Moves) (id : Nat) (t : Task) : Prop where
  /-- It has done nothing. -/
  | fresh (scope : t.scope = .fresh) (spared : t.cancelled = false)
      (unmoved : ∀ move ∈ moves, move.action ≠ .act (.task id))
      (unused : ∀ move ∈ moves, ∀ message, move.action ≠ .late id message)
  /-- The story of its item has come to its phase. -/
  | ongoing (item : Nat) (stored : Bool) (body : List Event) (tracked : Tracked w moves id item)
      (spared : t.cancelled = false) (begun : t.scope.phase ≠ .fresh)
      (entry : t.scope.entry = ⟨spinner, if t.scope.phase.isClosed then none else some item⟩)
      (seen : seenOf id item moves =
        storyIn t.subsystem t.customPath item stored body t.scope.phase)
      (early : t.scope.phase.isCalled = false → body = [])
      (quiet : ∀ e ∈ body, e.isCall = false)
      (texts : body.filter (Event.isAbout item) = (messagesOf id moves).map (texted item))
  /-- The host broke down before its activator was called. -/
  | unprepared (broken : ∃ move ∈ moves, move.action = .act (.task id) ∧ move.source.world.Faulty)
      (finished : t.scope.phase = .closing none ∨ t.scope.phase = .closed none)
      (uncalled : ∀ move ∈ moves, move.action = .act (.task id) →
        ∀ e ∈ move.events, e.isCall = false)
  /-- It was cancelled before it had an item. -/
  | itemless (cancelled : t.cancelled = true) (finished : t.scope.entry.item = none)
      (none_ : itemsOf id moves = [])
  /-- It was cancelled, and the story of its item broken off. -/
  | brokenOff (item : Nat) (stored : Bool) (body : List Event)
      (phase : Scope.Phase Body Result) (tracked : Tracked w moves id item)
      (cancelled : t.cancelled = true) (finished : t.scope.entry.item = none)
      (short : phase.isClosed = false)
      (seen : seenOf id item moves =
        storyIn t.subsystem t.customPath item stored body phase ++ [.host (.disposeItem item)])
      (quiet : ∀ e ∈ body, e.isCall = false)
      (texts : body.filter (Event.isAbout item) = (messagesOf id moves).map (texted item))

section Account

variable {setup : Setup} {r r' : Run} {h : Happening} {events : List Event} {moves : Moves}
  {t t' : Task} {id item : Nat}

/-- What is not a step of a task creates no item of it. -/
theorem itemsBy_eq_nil {move : Move Run Happening Event} (other : move.action ≠ .act (.task id)) :
    itemsBy id move = [] := if_neg other

/-- What is neither a step of a task nor made through its handle sets no message of it. -/
theorem messagesBy_eq_nil_of {move : Move Run Happening Event}
    (unturned : move.action ≠ .act (.task id))
    (unused : ∀ message, move.action ≠ .late id message) : messagesBy id move = [] := by
  unfold messagesBy
  rcases same : move.action with (_ | j | _ | _) | ⟨j, message⟩
  · rfl
  · rw [same] at unturned
    exact if_neg fun (here : j = id) => unturned (here ▸ rfl)
  · rfl
  · rfl
  · exact if_neg fun (here : j = id ∧ _) => unused message (here.1 ▸ same)

/-- What is not about a task sets no message of it. -/
theorem messagesBy_eq_nil {move : Move Run Happening Event}
    (elsewhere : move.action.subject? ≠ some id) : messagesBy id move = [] := by
  refine messagesBy_eq_nil_of (fun own => ?_) (fun _ own => ?_)
  · rw [own] at elsewhere
    exact elsewhere rfl
  · rw [own] at elsewhere
    exact elsewhere rfl

/-- What is seen of a task includes what it does. -/
theorem mem_seenOf {move : Move Run Happening Event} (hm : move ∈ moves)
    (own : move.action = .act (.task id)) {e : Event} (he : e ∈ move.events) :
    e ∈ seenOf id item moves :=
  List.mem_flatMap.mpr ⟨move, hm, List.mem_filter.mpr ⟨he, by simp [own]⟩⟩

/-- What is seen of a task that makes a step is all that happens in it. -/
theorem seenBy_self : seenBy id item ⟨r, .act (.task id), r', events⟩ = events := by
  simp [seenBy]

/-- A task that has made no step has created no item. -/
theorem itemsOf_eq_nil (unmoved : ∀ move ∈ moves, move.action ≠ .act (.task id)) :
    itemsOf id moves = [] :=
  List.flatMap_eq_nil_iff.mpr fun move hm => itemsBy_eq_nil (unmoved move hm)

/-- What holds of the moves until now and of one more holds of all. -/
theorem forall_mem_concat {P : Move Run Happening Event → Prop} {move : Move Run Happening Event}
    (old : ∀ m ∈ moves, P m) (new : P move) : ∀ m ∈ moves ++ [move], P m :=
  List.forall_mem_append.mpr ⟨old, List.forall_mem_singleton.mpr new⟩

/-- What holds of one of the moves until now, holds of one of all. -/
theorem exists_mem_concat {P : Move Run Happening Event → Prop} {move : Move Run Happening Event}
    (old : ∃ m ∈ moves, P m) : ∃ m ∈ moves ++ [move], P m := by
  obtain ⟨m, hm, is⟩ := old
  exact ⟨m, List.mem_append_left _ hm, is⟩

/-- What holds of the last move holds of one of all. -/
theorem exists_mem_last {P : Move Run Happening Event → Prop} {move : Move Run Happening Event}
    (new : P move) : ∃ m ∈ moves ++ [move], P m :=
  ⟨move, List.mem_append_right _ (List.mem_singleton_self _), new⟩

/-- What is neither a step of a task nor about an item is not seen of them. -/
theorem seenBy_eq_nil {move : Move Run Happening Event} (unturned : move.action ≠ .act (.task id))
    (unrelated : ∀ e ∈ move.events, e.item? ≠ some item) : seenBy id item move = [] := by
  rw [seenBy, List.filter_eq_nil_iff]
  intro e he
  simp [unturned, Event.isAbout, unrelated e he]

/-- The creation of an item is about it. -/
theorem Event.item?_of_creates? {e : Event} (is : e.creates? = some item) :
    e.item? = some item := by
  unfold Event.creates? at is
  split at is
  · exact is
  · cases is

/-- What the moves until now are about. -/
structure Recorded (w : World) (moves : Moves) : Prop where
  /-- The world is orderly. -/
  orderly : Orderly w
  /-- The numbers of the items that were seen are used up. -/
  items : ∀ move ∈ moves, ∀ e ∈ move.events, ∀ item, e.item? = some item → item < w.nextItem
  /-- The tasks that made steps, or whose handles were used, are there. -/
  tasks : ∀ move ∈ moves, ∀ j,
    move.action = .act (.task j) ∨ (∃ message, move.action = .late j message) →
      j < w.tasks.length

namespace Tracked

/-- What is not about the task of an item is not about the item. -/
theorem unseen (tracked : Tracked r.world moves id item) (made : Step setup r h r' events)
    (elsewhere : h.subject? ≠ some id) : seenBy id item ⟨r, h, r', events⟩ = [] := by
  refine seenBy_eq_nil ?_ fun e he is => ?_
  · rintro rfl
    exact elsewhere rfl
  · rcases made.item_cases he is with ⟨j, u, subject, found, own⟩ | ⟨new, -⟩
    · exact elsewhere (subject.trans (congrArg some (tracked.alone j u found own)))
    · exact absurd tracked.below (by omega)

/-- An item that is created is the first of the task, and nobody else's. -/
theorem created_by (recorded : Recorded r.world moves)
    (made : Step setup r (.act (.task id)) r' [.host (.createItem r.world.nextItem)])
    (unmoved : ∀ move ∈ moves, move.action ≠ .act (.task id)) :
    Tracked r'.world (moves ++ [⟨r, .act (.task id), r', [.host (.createItem r.world.nextItem)]⟩])
      id r.world.nextItem where
  created := by
    rw [itemsOf_append, itemsOf_singleton, itemsOf_eq_nil unmoved]
    simp [itemsBy, Event.creates?]
  below := by
    rcases made.item_cases (List.mem_singleton.mpr rfl) rfl with ⟨j, u, -, found, own⟩ | ⟨-, next⟩
    · exact absurd (recorded.orderly.below j u _ found own) (Nat.lt_irrefl _)
    · exact next ▸ Nat.lt_succ_self _
  alone j u after own := by
    rcases (made.change after).owns own with ⟨u, found, own⟩ | ⟨-, same⟩
    · exact absurd (recorded.orderly.below j u _ found own) (Nat.lt_irrefl _)
    · cases same
      rfl
  creator := forall_mem_concat
    (fun move hm e he is =>
      absurd (recorded.items move hm e he _ (Event.item?_of_creates? is)) (Nat.lt_irrefl _))
    (fun _ _ _ => rfl)

/-- A step that creates no item of the task leaves its item to it. -/
theorem step (tracked : Tracked r.world moves id item) (made : Step setup r h r' events)
    (uncreated : itemsBy id ⟨r, h, r', events⟩ = []) :
    Tracked r'.world (moves ++ [⟨r, h, r', events⟩]) id item where
  created := by rw [itemsOf_append, itemsOf_singleton, uncreated, tracked.created]; rfl
  below := Nat.lt_of_lt_of_le tracked.below made.nextItem_le
  alone j u after own := by
    rcases (made.change after).owns own with ⟨u, found, own⟩ | ⟨new, -⟩
    · exact tracked.alone j u found own
    · exact absurd tracked.below (by omega)
  creator move hm e he is := by
    rcases List.mem_append.mp hm with hm | hm
    · exact tracked.creator move hm e he is
    · obtain rfl := List.mem_singleton.mp hm
      exact absurd tracked.below (by rw [(made.creates he is).1]; exact Nat.lt_irrefl _)

end Tracked

/-- A move that means nothing to a task leaves its account as it is. -/
theorem Account.idle (account : Account r.world moves id t) (made : Step setup r h r' events)
    (unturned : h ≠ .act (.task id))
    (unused : t.scope = .fresh → ∀ message, h ≠ .late id message)
    (unseen : ∀ item, Tracked r.world moves id item → seenBy id item ⟨r, h, r', events⟩ = [])
    (unset : messagesBy id ⟨r, h, r', events⟩ = []) :
    Account r'.world (moves ++ [⟨r, h, r', events⟩]) id t := by
  -- its own events are as they were; the account is only carried over to the longer history
  have uncreated : itemsBy id ⟨r, h, r', events⟩ = [] := itemsBy_eq_nil unturned
  have messages : messagesOf id (moves ++ [⟨r, h, r', events⟩]) = messagesOf id moves := by
    rw [messagesOf_append, messagesOf_singleton, unset, List.append_nil]
  have same {item : Nat} (tracked : Tracked r.world moves id item) :
      seenOf id item (moves ++ [⟨r, h, r', events⟩]) = seenOf id item moves := by
    rw [seenOf_append, seenOf_singleton, unseen _ tracked, List.append_nil]
  cases account with
  | fresh scope spared unmoved unused' =>
      exact .fresh scope spared (forall_mem_concat unmoved unturned)
        (forall_mem_concat unused' (unused scope))
  | ongoing item stored body tracked spared begun entry seen early quiet texts =>
      exact .ongoing item stored body (tracked.step made uncreated) spared begun entry
        ((same tracked).trans seen) early quiet (messages ▸ texts)
  | unprepared broken finished uncalled =>
      exact .unprepared (exists_mem_concat broken) finished
        (forall_mem_concat uncalled fun same => absurd same unturned)
  | itemless cancelled finished none_ =>
      refine .itemless cancelled finished ?_
      rw [itemsOf_append, itemsOf_singleton, uncreated, List.append_nil, none_]
  | brokenOff item stored body phase tracked cancelled finished short seen quiet texts =>
      exact .brokenOff item stored body phase (tracked.step made uncreated) cancelled finished short
        ((same tracked).trans seen) quiet (messages ▸ texts)

/-- The first step of a task creates its item. -/
theorem Account.created {spent : Nat} {scope : Scope Body Result} (fresh : t.scope = .fresh)
    (spared : t.cancelled = false) (unmoved : ∀ move ∈ moves, move.action ≠ .act (.task id))
    (unused : ∀ move ∈ moves, ∀ message, move.action ≠ .late id message)
    (recorded : Recorded r.world moves) (made : Step setup r (.act (.task id)) r' events)
    (found : r.world.tasks[id]? = some t)
    (turn : Turn setup.activators r.world t events spent scope) :
    Account r'.world (moves ++ [⟨r, .act (.task id), r', events⟩]) id { t with scope } := by
  cases turn with
  | around own =>
      cases own with
      | created =>
          refine .ongoing r.world.nextItem false [] (.created_by recorded made unmoved) spared
            (fun same => by cases same) ?_ ?_ (fun _ => rfl) (List.forall_mem_nil _) ?_
          · rw [fresh]
            rfl
          -- the item is new, so nothing that happened before was about it
          · have unseen : seenOf id r.world.nextItem moves = [] :=
              List.flatMap_eq_nil_iff.mpr fun move hm =>
                seenBy_eq_nil (unmoved move hm) fun e he is =>
                  absurd (recorded.items move hm e he _ is) (Nat.lt_irrefl _)
            rw [seenOf_append, seenOf_singleton, seenBy_self, unseen]
            rfl
          -- a task that has not begun has set no message
          · have unset : messagesOf id moves = [] :=
              List.flatMap_eq_nil_iff.mpr fun move hm =>
                messagesBy_eq_nil_of (unmoved move hm) (unused move hm)
            rw [messagesOf_append, messagesOf_singleton, unset]
            simp [messagesBy, found, Task.message?, fresh, Scope.fresh]
      | uncreated at_ broken =>
          refine .unprepared (exists_mem_last ⟨rfl, _, _, List.mem_cons_self, broken⟩) (.inr rfl)
            (forall_mem_concat (fun m hm own => absurd own (unmoved m hm))
              fun _ => List.forall_mem_nil _)
      | labelled at_ | unlabelled at_ | shown at_ | unshown at_ | disposed at_ | undisposed at_ =>
          rw [fresh] at at_
          cases at_
  | called at_ | uncalled at_ | updated at_ | unupdated at_ | acted at_ | ended at_ =>
      rw [fresh] at at_
      cases at_

/-- A step of a task takes its account further. -/
theorem Account.turned {spent : Nat} {scope : Scope Body Result}
    (account : Account r.world moves id t) (recorded : Recorded r.world moves)
    (made : Step setup r (.act (.task id)) r' events) (found : r.world.tasks[id]? = some t)
    (unsettled : t.settled? = none)
    (turn : Turn setup.activators r.world t events spent scope) :
    Account r'.world (moves ++ [⟨r, .act (.task id), r', events⟩]) id { t with scope } := by
  obtain ⟨uncancelled, short⟩ := settled?_eq_none_iff.mp unsettled
  cases account with
  | fresh fresh spared unmoved unused =>
      exact .created fresh spared unmoved unused recorded made found turn
  | ongoing item stored body tracked spared begun entry seen early quiet texts =>
      rw [short, if_neg Bool.false_ne_true] at entry
      have uncreated : itemsBy id ⟨r, .act (.task id), r', events⟩ = [] := by
        rw [itemsBy, if_pos rfl, List.filterMap_eq_nil_iff]
        intro e he
        cases is : e.creates? with
        | none => rfl
        | some _ => exact absurd (turn.creates he is).2 begun
      -- the story goes on, or the host breaks down before the call, which then never comes
      rcases turn.story stored entry begun early with
        ⟨stored', more, goes⟩ | ⟨uncalled, broken, finished, silent⟩
      · refine .ongoing item stored' (body ++ more) (tracked.step made uncreated) spared
          goes.begun goes.entry ?_ goes.early (List.forall_mem_append.mpr ⟨quiet, goes.quiet⟩) ?_
        · rw [seenOf_append, seenOf_singleton, seenBy_self, seen, goes.seen]
        · rw [List.filter_append, texts, goes.texts, messagesOf_append, messagesOf_singleton,
            List.map_append]
          simp [messagesBy, found]
      · refine .unprepared (exists_mem_last ⟨rfl, broken⟩) finished
          (forall_mem_concat (fun m hm own e he => ?_) fun _ => silent)
        have he : e ∈ seenOf id item moves := mem_seenOf hm own he
        rw [seen] at he
        exact isCall_of_mem_storyIn uncalled he
  | unprepared broken finished uncalled =>
      -- at most its item is still to be disposed of
      rcases finished with closing | closed
      · obtain ⟨closed, silent⟩ := turn.of_closing_none closing
        exact .unprepared (exists_mem_concat broken) (.inr closed)
          (forall_mem_concat uncalled fun _ => silent)
      · rw [closed] at short
        cases short
  -- a task that was cancelled makes no steps
  | itemless cancelled | brokenOff _ _ _ _ _ cancelled =>
      rw [uncancelled] at cancelled
      cases cancelled

/-- Cancelling a task breaks its account off. -/
theorem Account.cancel (account : Account r.world moves id t)
    (made : Step setup r (.act (.cancel id)) r' (disposing t.scope.entry))
    (unsettled : t.settled? = none) :
    Account r'.world (moves ++ [⟨r, .act (.cancel id), r', disposing t.scope.entry⟩]) id
      { t with scope := ⟨t.scope.entry.released, .closed none⟩, cancelled := true } := by
  have uncreated : itemsBy id ⟨r, .act (.cancel id), r', disposing t.scope.entry⟩ = [] :=
    itemsBy_eq_nil fun own => by cases own
  obtain ⟨uncancelled, short⟩ := settled?_eq_none_iff.mp unsettled
  cases account with
  | fresh scope spared unmoved unused =>
      -- it has made no step yet, and will make none
      refine .itemless rfl rfl ?_
      rw [itemsOf_append, itemsOf_singleton, uncreated, itemsOf_eq_nil unmoved]
      rfl
  | ongoing item stored body tracked spared begun entry seen early quiet texts =>
      rw [short, if_neg Bool.false_ne_true] at entry
      refine .brokenOff item stored body t.scope.phase (tracked.step made uncreated)
        rfl rfl short ?_ quiet ?_
      · rw [seenOf_append, seenOf_singleton, seen, entry]
        simp [seenBy, disposing, Event.isAbout, Event.item?]
      · rw [messagesOf_append, messagesOf_singleton, texts]
        simp [messagesBy]
  | unprepared broken finished uncalled =>
      exact .unprepared (exists_mem_concat broken) (.inr rfl)
        (forall_mem_concat uncalled fun own => by cases own)
  | itemless cancelled | brokenOff _ _ _ _ _ cancelled =>
      rw [uncancelled] at cancelled
      cases cancelled

/-- A message that is set through a kept handle goes into the account. -/
theorem Account.late {message : String} (account : Account r.world moves id t)
    (recorded : Recorded r.world moves)
    (made : Step setup r (.late id message) r' (texting t.scope.entry message))
    (found : r.world.tasks[id]? = some t) (kept : r.world.keeps id = true) :
    Account r'.world (moves ++ [⟨r, .late id message, r', texting t.scope.entry message⟩]) id
      t := by
  obtain ⟨u, same, called⟩ := recorded.orderly.kept id kept
  rw [found, Option.some.injEq] at same
  subst same
  -- once the task has settled and its item is gone, the handle does nothing
  have idle (gone : t.scope.entry.item = none) (finished : t.settled? ≠ none) :
      Account r'.world (moves ++ [⟨r, .late id message, r', texting t.scope.entry message⟩]) id
        t := by
    refine account.idle made (fun own => by cases own) (fun fresh => ?_) (fun item _ => ?_) ?_
    · rw [fresh] at called
      cases called
    · simp [seenBy, texting, gone]
    · simp [messagesBy, World.settled?, found, finished]
  cases account with
  | fresh scope =>
      rw [scope] at called
      cases called
  | ongoing item stored body tracked spared begun entry seen early quiet texts =>
      by_cases finished : t.scope.phase.isClosed = true
      · refine idle (by rw [entry, if_pos finished]) fun unsettled => ?_
        rw [(settled?_eq_none_iff.mp unsettled).2] at finished
        cases finished
      · have short : t.scope.phase.isClosed = false := Bool.eq_false_iff.mpr finished
        rw [short, if_neg Bool.false_ne_true] at entry
        refine .ongoing item stored (body ++ [texted item message])
          (tracked.step made (itemsBy_eq_nil fun own => by cases own)) spared begun
          (by rw [entry, short]; rfl) ?_ ?_
          (List.forall_mem_append.mpr ⟨quiet, by simp [texted, Event.isCall]⟩) ?_
        · rw [seenOf_append, seenOf_singleton, seen, ← storyIn_append called short]
          simp [seenBy, entry, texting_spinner, Event.isAbout, Event.item?, texted]
        · intro early
          rw [called] at early
          cases early
        · have unsettled : r.world.settled? id = none := by
            rw [World.settled?, found, Option.bind_some, settled?_eq_none_iff.mpr ⟨spared, short⟩]
          rw [List.filter_append, texts, messagesOf_append, messagesOf_singleton, List.map_append]
          simp [messagesBy, unsettled, Event.isAbout, Event.item?, texted]
  | unprepared broken finished uncalled =>
      exact .unprepared (exists_mem_concat broken) finished
        (forall_mem_concat uncalled fun own => by cases own)
  | itemless cancelled gone =>
      refine idle gone fun unsettled => ?_
      rw [(settled?_eq_none_iff.mp unsettled).1] at cancelled
      cases cancelled
  | brokenOff _ _ _ _ _ cancelled gone =>
      refine idle gone fun unsettled => ?_
      rw [(settled?_eq_none_iff.mp unsettled).1] at cancelled
      cases cancelled

/-- Every step takes the account of a task further, or opens it. -/
theorem Account.step (recorded : Recorded r.world moves) (made : Step setup r h r' events)
    (after : r'.world.tasks[id]? = some t')
    (before : ∀ t, r.world.tasks[id]? = some t → Account r.world moves id t) :
    Account r'.world (moves ++ [⟨r, h, r', events⟩]) id t' := by
  cases made.change after with
  | launched new =>
      subst new
      refine .fresh rfl rfl
        (forall_mem_concat (fun move hm same => ?_) fun own => by cases own)
        (forall_mem_concat (fun move hm message same => ?_) fun _ own => by cases own)
      · exact absurd (recorded.tasks move hm _ (.inl same)) (Nat.lt_irrefl _)
      · exact absurd (recorded.tasks move hm _ (.inr ⟨_, same⟩)) (Nat.lt_irrefl _)
  | same found elsewhere =>
      refine (before _ found).idle made ?_ (fun _ => ?_)
        (fun item tracked => tracked.unseen made elsewhere) (messagesBy_eq_nil elsewhere)
      · rintro rfl
        exact elsewhere rfl
      · rintro message rfl
        exact elsewhere rfl
  | turned found unsettled turn => exact (before _ found).turned recorded made found unsettled turn
  | cancelled found unsettled => exact (before _ found).cancel made unsettled
  | spared found =>
      exact (before _ found).idle made (fun own => by cases own) (fun _ _ own => by cases own)
        (fun _ _ => rfl) rfl
  | late found kept => exact (before _ found).late recorded made found kept

/-- Every step adds to what the moves are about. -/
theorem Recorded.step (recorded : Recorded r.world moves) (made : Step setup r h r' events) :
    Recorded r'.world (moves ++ [⟨r, h, r', events⟩]) where
  orderly := recorded.orderly.step made
  items := by
    refine forall_mem_concat (fun m hm e he item is =>
      Nat.lt_of_lt_of_le (recorded.items m hm e he item is) made.nextItem_le) fun e he item is => ?_
    rcases made.item_cases he is with ⟨j, u, -, found, own⟩ | ⟨rfl, next⟩
    · exact Nat.lt_of_lt_of_le (recorded.orderly.below j u item found own) made.nextItem_le
    · exact next ▸ Nat.lt_succ_self _
  tasks := by
    refine forall_mem_concat (fun m hm j own =>
      Nat.lt_of_lt_of_le (recorded.tasks m hm j own) made.length_le) fun j own => ?_
    have there {t : Task} (found : r.world.tasks[j]? = some t) : j < r'.world.tasks.length :=
      Nat.lt_of_lt_of_le (List.getElem?_eq_some_iff.mp found).1 made.length_le
    rcases own with rfl | ⟨message, rfl⟩
    · cases made with
      | task found => exact there found
    · cases made with
      | late found => exact there found

/-- Everything that a run does is recorded, and every task that it has launched has an account. -/
theorem Account.of_history {w : World} (h : Run.History setup ⟨.starting, w⟩ moves r)
    (orderly : Orderly w) :
    Recorded r.world moves ∧ ∀ id t, w.tasks.length ≤ id → r.world.tasks[id]? = some t →
      Account r.world moves id t := by
  induction h with
  | nil =>
      refine ⟨⟨orderly, List.forall_mem_nil _, List.forall_mem_nil _⟩, fun id t new found => ?_⟩
      rw [List.getElem?_eq_none new] at found
      cases found
  | concat _ made ih =>
      obtain ⟨recorded, accounts⟩ := ih
      have own := step_sound made
      exact ⟨recorded.step own, fun id t new after =>
        Account.step recorded own after fun t found => accounts id t new found⟩

end Account

/-! ## Tasks that have settled -/

section Settled

variable {r : Run} {moves : Moves} {t : Task} {id item : Nat}

/-- What happens to an item is all seen of its task and it. -/
theorem filter_isAbout_seenOf (moves : Moves) (id item : Nat) :
    (seenOf id item moves).filter (Event.isAbout item) =
      (eventsOf moves).filter (Event.isAbout item) := by
  simp only [seenOf, eventsOf, List.filter_flatMap]
  refine congrArg (List.flatMap · moves) (funext fun move => ?_)
  rw [seenBy, List.filter_filter]
  exact List.filter_congr fun e _ => by cases e.isAbout item <;> simp

/-- The status item of a task from its creation to its end. -/
structure Shown (moves : Moves) (id : Nat) (t : Task) (item : Nat) : Prop where
  /-- It is the one item that the task has created. -/
  created : itemsOf id moves = [item]
  /-- Nobody else has created it. -/
  creator : ∀ move ∈ moves, ∀ e ∈ move.events, e.creates? = some item →
    move.action = .act (.task id)
  /-- It is prepared, shows the messages that were set before the task had settled, and is disposed
  of. -/
  story : (eventsOf moves).filter (Event.isAbout item) =
    preparation item ++ (messagesOf id moves).map (texted item) ++ [.host (.disposeItem item)]
  /-- The activator is called once, when the item is prepared and not disposed of. -/
  called : ∃ stored body, (∀ e ∈ body, e.isCall = false) ∧ seenOf id item moves =
    preparation item ++ .called t.subsystem t.customPath stored :: body ++
      [.host (.disposeItem item)]

/-- What is seen of a task that has settled. -/
inductive Display (moves : Moves) (id : Nat) (t : Task) : Prop where
  /-- Its status item is shown from its creation to its end. -/
  | whole {item : Nat} (shown : Shown moves id t item)
  /-- The host broke down before its activator was called. -/
  | unprepared (broken : ∃ move ∈ moves, move.action = .act (.task id) ∧ move.source.world.Faulty)
      (uncalled : ∀ move ∈ moves, move.action = .act (.task id) →
        ∀ e ∈ move.events, e.isCall = false)
  /-- It was cancelled before it had an item. -/
  | itemless (asked : ∃ move ∈ moves, move.action = .act (.cancel id))
      (uncreated : itemsOf id moves = [])
  /-- It was cancelled, and its item disposed of early. -/
  | brokenOff {item : Nat} {part : List Event}
      (asked : ∃ move ∈ moves, move.action = .act (.cancel id))
      (created : itemsOf id moves = [item])
      (short : part <+: preparation item ++ (messagesOf id moves).map (texted item))
      (story : (eventsOf moves).filter (Event.isAbout item) = part ++ [.host (.disposeItem item)])

/-- The preparation of an item is about it. -/
theorem filter_isAbout_preparation (item : Nat) :
    (preparation item).filter (Event.isAbout item) = preparation item := by
  simp [preparation, Event.isAbout, Event.item?]

/-- A story that is not over has come to a part of what its item will show. -/
theorem filter_isAbout_storyIn {s : Subsystem} {path : Option FilePath} {stored : Bool}
    {body : List Event} {phase : Scope.Phase Body Result} (short : phase.isClosed = false) :
    (storyIn s path item stored body phase).filter (Event.isAbout item) <+:
      preparation item ++ body.filter (Event.isAbout item) := by
  have part (n : Nat) : ((preparation item).take n).filter (Event.isAbout item) <+:
      preparation item ++ body.filter (Event.isAbout item) :=
    (filter_isAbout_preparation item ▸ (List.take_prefix n _).filter _).trans
      (List.prefix_append ..)
  cases phase with
  | fresh => exact List.nil_prefix
  | created => exact part 1
  | labelled => exact part 2
  | shown => exact part 3
  | running | closing =>
      have all : (preparation item ++ .called s path stored :: body).filter (Event.isAbout item) =
          preparation item ++ body.filter (Event.isAbout item) := by
        rw [List.filter_append, filter_isAbout_preparation, List.filter_cons_of_neg (by
          simp [Event.isAbout, Event.item?])]
      simp only [storyIn, all, List.prefix_rfl]
  | closed => cases short

/-- The account of a task that has settled is that of its status item. -/
theorem Account.display (account : Account r.world moves id t) (settled : t.settled? ≠ none)
    (asked : t.cancelled = true → ∃ move ∈ moves, move.action = .act (.cancel id)) :
    Display moves id t := by
  cases account with
  | fresh scope spared =>
      exact absurd (settled?_eq_none_iff.mpr ⟨spared, by rw [scope]; rfl⟩) settled
  | ongoing item stored body tracked spared begun entry seen early quiet texts =>
      cases at_ : t.scope.phase with
      | closed result =>
          rw [at_] at seen
          refine .whole ⟨tracked.created, tracked.creator, ?_, stored, body, quiet, seen⟩
          rw [← filter_isAbout_seenOf moves id, seen, ← texts, ← filter_isAbout_preparation item]
          simp [storyIn, Event.isAbout, Event.item?]
      | fresh | created | labelled | shown | running | closing =>
          exact absurd (settled?_eq_none_iff.mpr ⟨spared, by rw [at_]; rfl⟩) settled
  | unprepared broken finished uncalled => exact .unprepared broken uncalled
  | itemless cancelled finished none_ => exact .itemless (asked cancelled) none_
  | brokenOff item stored body phase tracked cancelled finished short seen quiet texts =>
      refine .brokenOff (asked cancelled) tracked.created
        (texts ▸ @filter_isAbout_storyIn item t.subsystem t.customPath stored body phase short) ?_
      rw [← filter_isAbout_seenOf moves id, seen, List.filter_append]
      simp [Event.isAbout, Event.item?]

end Settled

/-- **Every task that activation launches has one status item of its own**, from before the call of
its activator until it has settled, and nothing else has one. -/
theorem tasks_show_their_items {setup : Setup} {w : World} {r : Run} {moves : Moves}
    (h : Run.History setup ⟨.starting, w⟩ moves r) (orderly : Orderly w)
    (stored : r.stage.isStored = true) (launched : r.stage.isLaunched = true) :
    (r.world.tasks.drop w.tasks.length).map Task.subsystem = enabled setup.settings ∧
    (∀ id t, w.tasks.length ≤ id → r.world.tasks[id]? = some t → t.settled? ≠ none →
      Display moves id t) ∧
    (∀ move ∈ moves, ∀ e ∈ move.events, ∀ item, e.creates? = some item →
      ∃ id t, move.action = .act (.task id) ∧ r.world.tasks[id]? = some t ∧
        (w.tasks.length ≤ id → t.subsystem ∈ enabled setup.settings)) := by
  obtain ⟨recorded, accounts⟩ := Account.of_history h orderly
  have length : (w.tasks.map Task.purpose).length = w.tasks.length := List.length_map ..
  have subsystems : (r.world.tasks.drop w.tasks.length).map Task.subsystem =
      enabled setup.settings := by
    obtain ⟨progress, all⟩ := (Standing.of_history h).carried_out stored launched
    exact length ▸ Standing.map_subsystem_drop all
  refine ⟨subsystems, fun id t new found settled => ?_, fun move hm e he item is => ?_⟩
  · exact (accounts id t new found).display settled (told_of_history h new found).asked
  · obtain ⟨-, id, own⟩ := (step_sound (h.of_mem hm).2).creates he is
    have there : id < r.world.tasks.length := recorded.tasks move hm id (.inl own)
    refine ⟨id, _, own, List.getElem?_eq_getElem there, fun new => ?_⟩
    rw [← subsystems]
    refine List.mem_map_of_mem (List.mem_iff_getElem?.mpr ⟨id - w.tasks.length, ?_⟩)
    rw [List.getElem?_drop, Nat.add_sub_cancel' new, List.getElem?_eq_getElem there]

/-- The first activator keeps its handle, the second one breaks down. -/
def keeping : Setup where
  activators := fun s _ _ =>
    match s with
    | .languageServer => ⟨false, [.update "a", .keep, .update "c"], .succeed⟩
    | .debugAdapter => ⟨false, [], .panic⟩
  settings := .initial
  env := ⟨[]⟩

/-- The kept handle is used while the activator runs, before its item is disposed of, and after the
task has settled. -/
def keepingMoves : Moves :=
  movesOf (Run.happen? keeping) rootRun
    (List.replicate 5 (.act .coordinator) ++ List.replicate 6 (.act (.task 0)) ++ [.late 0 "b"] ++
      List.replicate 2 (.act (.task 0)) ++ [.late 0 "d"] ++ [.act (.task 0)] ++ [.late 0 "e"])

/-- The last message comes too late. -/
theorem tasks_show_their_items_keeping :
    messagesOf 0 keepingMoves = ["a", "b", "c", "d"] ∧
      ∃ r t, Run.History keeping rootRun keepingMoves r ∧ r.world.tasks[0]? = some t ∧
        t.settled? = some (.ended .succeeded) ∧ ∃ item, Shown keepingMoves 0 t item := by
  obtain ⟨r, t, history, found, settled, stored, launched⟩ :
      ∃ r t, Run.History keeping rootRun keepingMoves r ∧ r.world.tasks[0]? = some t ∧
        t.settled? = some (.ended .succeeded) ∧ r.stage.isStored = true ∧
        r.stage.isLaunched = true := ⟨_, _, .of_actions .., rfl, rfl, rfl, rfl⟩
  have display : Display keepingMoves 0 t :=
    (tasks_show_their_items history (.fresh ..) stored launched).2.1 0 t (Nat.zero_le _) found
      (by rw [settled]; exact Option.some_ne_none _)
  refine ⟨rfl, r, t, history, found, settled, ?_⟩
  cases display with
  | whole shown => exact ⟨_, shown⟩
  | unprepared _ uncalled =>
      have called : (keepingMoves.any fun m =>
          decide (m.action = .act (.task 0)) && m.events.any Event.isCall) = true := rfl
      simp only [List.any_eq_true, Bool.and_eq_true, decide_eq_true_eq] at called
      obtain ⟨m, hm, own, e, he, is⟩ := called
      rw [uncalled m hm own e he] at is
      cases is
  | itemless asked | brokenOff asked =>
      have unasked : (keepingMoves.all fun m => decide (m.action ≠ .act (.cancel 0))) = true := rfl
      obtain ⟨m, hm, is⟩ := asked
      exact absurd is (of_decide_eq_true (List.all_eq_true.mp unasked m hm))

/-- A run that is over, in which subsystems are enabled and every task has settled, but no status
item was created. -/
structure Unshown (setup : Setup) (start r : Run) (moves : Moves) : Prop where
  /-- The run. -/
  history : Run.History setup start moves r
  /-- Activation has returned. -/
  returned : r.stage matches .returned _
  /-- Every task has settled. -/
  settled : (r.world.tasks.all fun t => t.settled?.isSome) = true
  /-- Subsystems are enabled. -/
  wanted : enabled setup.settings = Subsystem.all
  /-- No item was created. -/
  items : (eventsOf moves).filterMap Event.creates? = []

/-- An activation at its start, in a world without the directory above its storage directory. -/
def lostRun : Run :=
  ⟨.starting, .fresh ⟨[], [], []⟩ (.fresh .none (.ofString "/lost/storage") (.ofString "/"))⟩

/-- A host that creates no status items. -/
def itemFaults : Faults := fun _ call => call matches .createItem _

/-- An activation at its start, in such a host. -/
def faultyRun : Run :=
  ⟨.starting, .fresh ⟨[], [], []⟩ (.fresh itemFaults (.ofString "/") (.ofString "/"))⟩

/-- There are no items where the storage directory cannot be made, where the tasks are cancelled
before their first steps, and where the host breaks down. -/
theorem runs_without_items :
    (∃ r moves, Unshown keeping lostRun r moves) ∧ (∃ r moves, Unshown keeping rootRun r moves) ∧
      ∃ r moves, Unshown keeping faultyRun r moves := by
  refine ⟨⟨_, _, .of_actions _ _ (List.replicate 2 (.act .coordinator)), rfl, rfl, rfl, rfl⟩,
    ⟨_, _, .of_actions _ _ (List.replicate 5 (.act .coordinator) ++ [.act (.cancel 0),
      .act (.cancel 1), .act .coordinator]), rfl, rfl, rfl, rfl⟩,
    ⟨_, _, .of_actions _ _ (List.replicate 5 (.act .coordinator) ++ [.act (.task 0),
      .act (.task 1), .act .coordinator]), rfl, rfl, rfl, rfl⟩⟩

end ToolingHost.Activation
