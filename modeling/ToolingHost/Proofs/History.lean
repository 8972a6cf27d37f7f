/-! # Histories of a system

A system is a type of states with a step function: an action leads to a next state and to events, or
it is not possible. `History` lists the moves that a system has made, oldest first, so that a
statement can speak of what happened before a state, and not of the state alone. What holds at the
start and is kept by every step holds in every state that a history leads to (`History.keeps`), and
every move of a history started in such a state (`History.of_mem`, `History.split`). `Preceded` says
what must have happened before an event. `movesOf` plays a list of actions; every list of actions
makes a history (`History.of_actions`). -/

namespace ToolingHost

variable {σ α ε : Type}

/-- A step of a system as it was made. -/
structure Move (σ α ε : Type) where
  /-- The state before it. -/
  source : σ
  /-- The action. -/
  action : α
  /-- The state after it. -/
  target : σ
  /-- What happened in it. -/
  events : List ε

/-- `History step start moves last`: the moves, made one after the other, lead from the state
`start` to the state `last`. -/
inductive History (step : σ → α → Option (σ × List ε)) (start : σ) :
    List (Move σ α ε) → σ → Prop where
  /-- Nothing has happened. -/
  | nil : History step start [] start
  /-- One more move. -/
  | concat {moves : List (Move σ α ε)} {last next : σ} {action : α} {events : List ε}
      (before : History step start moves last) (made : step last action = some (next, events)) :
      History step start (moves ++ [⟨last, action, next, events⟩]) next

/-- Everything that happened in some moves, in order. -/
def eventsOf (moves : List (Move σ α ε)) : List ε := moves.flatMap Move.events

/-- Nothing happened where no move was made. -/
@[simp] theorem eventsOf_nil : eventsOf ([] : List (Move σ α ε)) = [] := rfl

/-- What happened before comes first. -/
@[simp] theorem eventsOf_append (first second : List (Move σ α ε)) :
    eventsOf (first ++ second) = eventsOf first ++ eventsOf second := by
  simp [eventsOf]

/-- What happened in one move. -/
@[simp] theorem eventsOf_singleton (move : Move σ α ε) : eventsOf [move] = move.events := by
  simp [eventsOf]

namespace History

variable {step : σ → α → Option (σ × List ε)} {start last : σ} {moves : List (Move σ α ε)}

/-- **The rule of invariants.** What holds at the start and is kept by every step holds in every
state that a history leads to. -/
theorem keeps {P : σ → Prop} (h : History step start moves last) (initial : P start)
    (kept : ∀ s a t e, P s → step s a = some (t, e) → P t) : P last := by
  induction h with
  | nil => exact initial
  | concat _ made ih => exact kept _ _ _ _ ih made

/-- Every move of a history was possible, and was made in a state that the moves before it lead to.
-/
theorem of_mem (h : History step start moves last) {move : Move σ α ε} (hm : move ∈ moves) :
    (∃ before, History step start before move.source) ∧
      step move.source move.action = some (move.target, move.events) := by
  induction h with
  | nil => cases hm
  | concat before made ih =>
      rcases List.mem_append.mp hm with hm | hm
      · exact ih hm
      · obtain rfl := List.mem_singleton.mp hm
        exact ⟨⟨_, before⟩, made⟩

/-- A history is parted by each of its moves. -/
theorem split {before after : List (Move σ α ε)} {move : Move σ α ε}
    (h : History step start (before ++ move :: after) last) :
    History step start before move.source ∧
      step move.source move.action = some (move.target, move.events) ∧
      History step move.target after last := by
  generalize same : before ++ move :: after = moves at h
  induction h generalizing after with
  | nil => simp at same
  | @concat moves last next action events earlier made ih =>
      -- the last move is the one that parts, or comes behind it
      rcases List.eq_nil_or_concat after with rfl | ⟨rest, final, rfl⟩
      · obtain ⟨rfl, only⟩ := List.append_inj' same rfl
        cases only
        exact ⟨earlier, made, .nil⟩
      · rw [List.concat_eq_append, ← List.cons_append, ← List.append_assoc] at same
        obtain ⟨others, only⟩ := List.append_inj' same rfl
        cases only
        obtain ⟨first, now, later⟩ := ih others
        rw [List.concat_eq_append]
        exact ⟨first, now, later.concat made⟩

/-- What holds after a move and is kept by every step holds at the end. -/
theorem keeps_from {P : σ → Prop} (h : History step start moves last) {move : Move σ α ε}
    (hm : move ∈ moves) (reached : P move.target)
    (kept : ∀ s a t e, P s → step s a = some (t, e) → P t) : P last := by
  obtain ⟨before, after, rfl⟩ := List.append_of_mem hm
  exact h.split.2.2.keeps reached kept

/-- A history can begin with one more move. -/
theorem cons {next : σ} {action : α} {events : List ε}
    (made : step start action = some (next, events)) (h : History step next moves last) :
    History step start (⟨start, action, next, events⟩ :: moves) last := by
  induction h with
  | nil => exact .concat .nil made
  | concat _ made' ih => exact ih.concat made'

end History

/-! ## What happened before an event -/

/-- Whenever an event happened, what had happened before it fulfils a condition. -/
def Preceded (event : ε) (condition : List ε → Prop) (events : List ε) : Prop :=
  ∀ before after, events = before ++ event :: after → condition before

/-- A condition for an event is kept when more happens, if it is fulfilled in case the event is part
of that, and stays fulfilled. -/
theorem Preceded.append {event : ε} {condition : List ε → Prop} {old new : List ε}
    (h : Preceded event condition old) (stays : ∀ more, condition old → condition (old ++ more))
    (now : event ∈ new → condition old) : Preceded event condition (old ++ new) := by
  intro before after split
  rcases List.append_eq_append_iff.mp split with ⟨more, rfl, hnew⟩ | ⟨rest, hold, hrest⟩
  · -- the event is among the new ones
    exact stays more (now (by simp [hnew]))
  · cases rest with
    | nil =>
        -- the event is the first of the new ones
        rw [List.append_nil] at hold
        rw [List.nil_append] at hrest
        exact hold ▸ now (by simp [← hrest])
    | cons first rest =>
        rw [List.cons_append, List.cons.injEq] at hrest
        exact h before rest (hrest.1 ▸ hold)

/-! ## The history of a list of actions -/

/-- The moves that actions make from a state, up to the first that is not possible. -/
def movesOf (step : σ → α → Option (σ × List ε)) : σ → List α → List (Move σ α ε)
  | _, [] => []
  | s, action :: rest =>
    match step s action with
    | none => []
    | some (t, events) => ⟨s, action, t, events⟩ :: movesOf step t rest

/-- The state that these moves lead to. -/
def endOf (step : σ → α → Option (σ × List ε)) : σ → List α → σ
  | s, [] => s
  | s, action :: rest =>
    match step s action with
    | none => s
    | some (t, _) => endOf step t rest

/-- Every list of actions makes a history. -/
theorem History.of_actions (step : σ → α → Option (σ × List ε)) (start : σ) (actions : List α) :
    History step start (movesOf step start actions) (endOf step start actions) := by
  induction actions generalizing start with
  | nil => exact .nil
  | cons action rest ih =>
      rcases made : step start action with _ | ⟨t, events⟩
      · simp only [movesOf, endOf, made]
        exact .nil
      · simp only [movesOf, endOf, made]
        exact .cons made (ih t)

end ToolingHost
