import ToolingHost.Status.Scope

/-! # The steps of a status scope

Every operation on a status entry is at most one call to the host, about the item of the entry, and
breaks down only in that call. So the steps around the action of a scope can be listed with the
calls that are made in them (`Scope.Advance`), and every step is in the list
(`Scope.advance_sound`). -/

namespace ToolingHost

namespace Host

/-- The host after some calls, with some numbers of items used up. -/
def after (h : Host) (calls : List HostCall) (spent : Nat) : Host :=
  { h with history := h.history ++ calls, nextItem := h.nextItem + spent }

/-- Makes a call about an item, if there is one. -/
def attemptOn (h : Host) (call : Nat → HostCall) : Option Nat → Host × Bool
  | some item => h.attempt (call item)
  | none => (h, true)

/-- A call about an item is made if there is one, and only then it may break down. -/
theorem attemptOn_cases (h : Host) (call : Nat → HostCall) (item : Option Nat) :
    ((∀ i, item = some i → h.faults h.history (call i) = false) ∧
      h.attemptOn call item = (h.after (item.toList.map call) 0, true)) ∨
      ∃ i, item = some i ∧ h.faults h.history (call i) = true ∧
        h.attemptOn call item = (h.after [call i] 0, false) := by
  cases item with
  | none => exact .inl ⟨by simp, by simp [attemptOn, after]⟩
  | some i =>
      cases broken : h.faults h.history (call i) with
      | false => exact .inl ⟨by simp [broken], by simp [attemptOn, attempt, broken, tell, after]⟩
      | true => exact .inr ⟨i, rfl, broken, by simp [attemptOn, attempt, broken, tell, after]⟩

/-- An item is created, or that breaks down. -/
theorem createItem_cases (h : Host) :
    (h.faults h.history (.createItem h.nextItem) = false ∧
      h.createItem = (h.after [.createItem h.nextItem] 1, some h.nextItem)) ∨
      (h.faults h.history (.createItem h.nextItem) = true ∧
        h.createItem = (h.after [] 1, none)) := by
  cases broken : h.faults h.history (.createItem h.nextItem) with
  | false => exact .inl ⟨rfl, by simp [createItem, broken, tell, after]⟩
  | true => exact .inr ⟨rfl, by simp [createItem, broken, after]⟩

end Host

namespace StatusEntry

variable (host : Host) (e : StatusEntry)

/-- Setting the first text is a call about the item. -/
theorem begin_eq : e.begin host = host.attemptOn (.setText · e.lead) e.item := by
  unfold begin
  cases e.item <;> rfl

/-- Showing the item is a call about it. -/
theorem reveal_eq : e.reveal host = host.attemptOn .showItem e.item := by
  unfold reveal
  cases e.item <;> rfl

/-- Replacing the message is a call about the item. -/
theorem update_eq (message : String) :
    e.update host message = host.attemptOn (.setText · (e.label message)) e.item := by
  unfold update
  cases e.item <;> rfl

/-- Disposing of the item is a call about it. -/
theorem dispose_eq :
    e.dispose host = ((host.attemptOn .disposeItem e.item).1,
      if (host.attemptOn .disposeItem e.item).2 then some e.item.isSome else none) := by
  unfold dispose
  cases e.item <;> rfl

end StatusEntry

namespace Scope

variable {β ρ : Type}

/-- Whether a scope is before or behind its action. -/
def Phase.isAround : Phase β ρ → Bool
  | .fresh | .created | .labelled | .closing _ => true
  | .shown | .running _ | .closed _ => false

/-- Whether the action of a scope has been called. -/
def Phase.isCalled : Phase β ρ → Bool
  | .running _ | .closing _ | .closed _ => true
  | .fresh | .created | .labelled | .shown => false

/-- Whether a scope is over. -/
def Phase.isClosed : Phase β ρ → Bool
  | .closed _ => true
  | _ => false

/-- The steps around the action of a scope: the calls that are made, how many numbers of items are
used up, and the scope afterwards. -/
inductive Advance (host : Host) (s : Scope β ρ) : List HostCall → Nat → Scope β ρ → Prop where
  /-- The item is created. -/
  | created (at_ : s.phase = .fresh)
      (well : host.faults host.history (.createItem host.nextItem) = false) :
      Advance host s [.createItem host.nextItem] 1
        ⟨{ s.entry with item := some host.nextItem }, .created⟩
  /-- The creation of the item breaks down. -/
  | uncreated (at_ : s.phase = .fresh)
      (broken : host.faults host.history (.createItem host.nextItem) = true) :
      Advance host s [] 1 { s with phase := .closed none }
  /-- The first text is set. -/
  | labelled (at_ : s.phase = .created) (well : ∀ item, s.entry.item = some item →
        host.faults host.history (.setText item s.entry.lead) = false) :
      Advance host s (s.entry.item.toList.map (.setText · s.entry.lead)) 0
        { s with phase := .labelled }
  /-- That breaks down. -/
  | unlabelled {item : Nat} (at_ : s.phase = .created) (own : s.entry.item = some item)
      (broken : host.faults host.history (.setText item s.entry.lead) = true) :
      Advance host s [.setText item s.entry.lead] 0 ⟨s.entry.released, .closed none⟩
  /-- The item is shown. -/
  | shown (at_ : s.phase = .labelled) (well : ∀ item, s.entry.item = some item →
        host.faults host.history (.showItem item) = false) :
      Advance host s (s.entry.item.toList.map .showItem) 0 { s with phase := .shown }
  /-- That breaks down. -/
  | unshown {item : Nat} (at_ : s.phase = .labelled) (own : s.entry.item = some item)
      (broken : host.faults host.history (.showItem item) = true) :
      Advance host s [.showItem item] 0 (s.finish none)
  /-- The item is disposed of. -/
  | disposed {result : Option ρ} (at_ : s.phase = .closing result) :
      Advance host s (s.entry.item.toList.map .disposeItem) 0 ⟨s.entry.released, .closed result⟩
  /-- The item is disposed of, and that breaks down. -/
  | undisposed {item : Nat} {result : Option ρ} (at_ : s.phase = .closing result)
      (own : s.entry.item = some item) :
      Advance host s [.disposeItem item] 0 ⟨s.entry.released, .closed none⟩

/-- Every step around the action is in the list. -/
theorem advance_sound (host : Host) (s : Scope β ρ) (around : s.phase.isAround = true) :
    ∃ calls spent s', s.advance host = (host.after calls spent, s') ∧
      Advance host s calls spent s' := by
  cases at_ : s.phase with
  | shown | running | closed =>
      rw [at_] at around
      cases around
  -- in each phase there is one call to the host, which goes well or breaks down
  | fresh =>
      rcases host.createItem_cases with ⟨well, made⟩ | ⟨broken, made⟩
      · exact ⟨_, _, _, by simp only [advance, at_, made], .created at_ well⟩
      · exact ⟨_, _, _, by simp only [advance, at_, made], .uncreated at_ broken⟩
  | created =>
      rcases host.attemptOn_cases (.setText · s.entry.lead) s.entry.item with
        ⟨well, made⟩ | ⟨i, own, broken, made⟩
      · exact ⟨_, _, _, by simp only [advance, at_, StatusEntry.begin_eq, made],
          .labelled at_ well⟩
      · exact ⟨_, _, _, by simp only [advance, at_, StatusEntry.begin_eq, made],
          .unlabelled at_ own broken⟩
  | labelled =>
      rcases host.attemptOn_cases .showItem s.entry.item with ⟨well, made⟩ | ⟨i, own, broken, made⟩
      · exact ⟨_, _, _, by simp only [advance, at_, StatusEntry.reveal_eq, made], .shown at_ well⟩
      · exact ⟨_, _, _, by simp only [advance, at_, StatusEntry.reveal_eq, made],
          .unshown at_ own broken⟩
  | closing result =>
      rcases host.attemptOn_cases .disposeItem s.entry.item with
        ⟨-, made⟩ | ⟨i, own, broken, made⟩
      · exact ⟨_, _, _, by simp only [advance, at_, StatusEntry.dispose_eq, made, if_true],
          .disposed at_⟩
      · exact ⟨_, _, _, by
          simp only [advance, at_, StatusEntry.dispose_eq, made, Bool.false_eq_true, if_false],
          .undisposed at_ own⟩

/-! ## Before the action -/

/-- How many of the steps before its action a scope has made, as long as the action has not been
called and the scope has not broken down. -/
def Phase.readiness? : Phase β ρ → Option Nat
  | .fresh => some 0
  | .created => some 1
  | .labelled => some 2
  | .shown => some 3
  | .running _ | .closing _ | .closed _ => none

/-- There are three steps before the action. -/
theorem Phase.readiness_le {phase : Phase β ρ} {n : Nat} (at_ : phase.readiness? = some n) :
    n ≤ 3 := by
  cases phase <;> cases at_ <;> decide

/-- Only a scope that is shown has made all calls that come before the action. -/
theorem Phase.readiness?_ne_three {phase : Phase β ρ} (other : phase ≠ .shown) :
    phase.readiness? ≠ some 3 := by
  intro all
  cases phase with
  | shown => exact other rfl
  | fresh | created | labelled | running | closing | closed => cases all

/-- A scope whose action has been called is past the calls before it. -/
theorem Phase.readiness?_of_isCalled {phase : Phase β ρ} (called : phase.isCalled = true) :
    phase.readiness? = none := by
  cases phase with
  | fresh | created | labelled | shown => cases called
  | running | closing | closed => rfl

/-- The call to the host that is next before the action. -/
def preparing? (host : Host) (s : Scope β ρ) : Option HostCall :=
  match s.phase with
  | .fresh => some (.createItem host.nextItem)
  | .created => s.entry.item.map (.setText · s.entry.lead)
  | .labelled => s.entry.item.map .showItem
  | .shown | .running _ | .closing _ | .closed _ => none

/-- The host would break down now in the call that is next before the action. -/
def Hindered (host : Host) (s : Scope β ρ) : Prop :=
  ∃ call, s.preparing? host = some call ∧ host.faults host.history call = true

/-- The host can be about to break down only before the action is called. -/
theorem Hindered.isCalled {host : Host} {s : Scope β ρ} (hindered : s.Hindered host) :
    s.phase.isCalled = false := by
  obtain ⟨call, next, -⟩ := hindered
  unfold preparing? at next
  cases at_ : s.phase with
  | fresh | created | labelled | shown => rfl
  | running | closing | closed =>
      rw [at_] at next
      cases next

/-- A call to the host goes well where it does not break down. -/
theorem not_hindered {host : Host} {s : Scope β ρ}
    (well : ∀ call, s.preparing? host = some call → host.faults host.history call = false) :
    ¬s.Hindered host := by
  rintro ⟨call, next, broken⟩
  rw [well call next] at broken
  cases broken

/-- A step before the action brings the scope nearer to it, unless the host breaks down. -/
theorem Advance.readiness {host : Host} {s s' : Scope β ρ} {calls : List HostCall} {spent n : Nat}
    (own : Advance host s calls spent s') (at_ : s.phase.readiness? = some n) :
    n < 3 ∧ ((¬s.Hindered host ∧ s'.phase.readiness? = some (n + 1)) ∨
      (s.Hindered host ∧ (s'.phase = .closing none ∨ s'.phase = .closed none))) := by
  have number {phase : Phase β ρ} (here : s.phase = phase) : phase.readiness? = some n := here ▸ at_
  -- the call of each of these steps is the one that `preparing?` names
  cases own with
  | created here well =>
      cases number here
      refine ⟨by decide, .inl ⟨not_hindered fun call next => ?_, rfl⟩⟩
      simp only [preparing?, here, Option.some.injEq] at next
      rw [← next, well]
  | uncreated here broken =>
      cases number here
      exact ⟨by decide, .inr ⟨⟨_, by simp only [preparing?, here], broken⟩, .inr rfl⟩⟩
  | labelled here well | shown here well =>
      cases number here
      refine ⟨by decide, .inl ⟨not_hindered fun call next => ?_, rfl⟩⟩
      simp only [preparing?, here, Option.map_eq_some_iff] at next
      obtain ⟨item, own, rfl⟩ := next
      exact well item own
  | unlabelled here own broken =>
      cases number here
      exact ⟨by decide, .inr ⟨⟨_, by simp only [preparing?, here, own, Option.map_some], broken⟩,
        .inr rfl⟩⟩
  | unshown here own broken =>
      cases number here
      exact ⟨by decide, .inr ⟨⟨_, by simp only [preparing?, here, own, Option.map_some], broken⟩,
        .inl rfl⟩⟩
  | disposed here | undisposed here => cases number here

end Scope

end ToolingHost
