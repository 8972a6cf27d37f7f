import Mathlib.Data.List.Nodup
import ToolingHost.Proofs.History
import ToolingHost.Context

/-! # What becomes of subscriptions

A release takes all subscriptions from the list and then comes to one after the other. While one is
disposed of, anything may be added to the list, by that subscription or by anybody else, and it may
break down. `Ledger.step` cuts this into steps, whatever the subscriptions do; the release that
`Subscriptions.release` makes in one go is one run of these steps, with what each subscription adds
and whether it breaks down as they are made (`Ledger.plays_release`). What it comes to is also said
of it directly (`Subscriptions.released_release`).

`Ledger.Accounted` says where every subscription is that was ever added, and every step keeps it.
`Ledger.Release` says how far one release has come. -/

namespace ToolingHost

/-- A release that is under way. -/
structure Batch where
  /-- The subscription that is disposed of, if the release is not between two. -/
  current : Option NumberedSubscription
  /-- Those that the release has not come to, the next one first. -/
  left : List NumberedSubscription

/-- The subscriptions of a context, and the release that is under way. -/
structure Ledger where
  /-- The subscriptions. -/
  subscriptions : Subscriptions
  /-- The release. -/
  batch : Option Batch

namespace Ledger

/-- What may happen next. -/
inductive Action where
  /-- A subscription is added, by the one that is disposed of or by anybody else. -/
  | push (subscription : Subscription)
  /-- A release begins. -/
  | release
  /-- The release comes to its next subscription. -/
  | turn
  /-- That one has been disposed of well, or breaks down. -/
  | settle (well : Bool)
  /-- The release returns. -/
  | finish

/-- Something that happened. -/
inductive Event where
  /-- A subscription was added. -/
  | pushed (subscription : NumberedSubscription)
  /-- These subscriptions were taken from the list, the next one first. -/
  | drained (taken : List NumberedSubscription)
  /-- A subscription is disposed of. -/
  | disposed (disposed : Disposed)
  /-- It broke down, and these are abandoned. -/
  | panicked (rest : List NumberedSubscription)
  /-- The release returned. -/
  | returned

/-- One step. -/
def step (l : Ledger) : Action → Option (Ledger × List Event)
  | .push subscription =>
    some ({ l with subscriptions := l.subscriptions.push subscription },
      [.pushed (l.subscriptions.next, subscription)])
  | .release =>
    match l.batch with
    | none =>
      let taken := l.subscriptions.live.reverse
      some (⟨{ l.subscriptions with live := [] }, some ⟨none, taken⟩⟩, [.drained taken])
    | some _ => none
  | .turn =>
    match l.batch with
    | some ⟨none, next :: rest⟩ =>
      some (⟨l.subscriptions, some ⟨some next, rest⟩⟩, [.disposed ⟨next, l.subscriptions.count⟩])
    | _ => none
  | .settle well =>
    match l.batch, well with
    | some ⟨some _, left⟩, true => some (⟨l.subscriptions, some ⟨none, left⟩⟩, [])
    | some ⟨some _, left⟩, false => some (⟨l.subscriptions, none⟩, [.panicked left])
    | _, _ => none
  | .finish =>
    match l.batch with
    | some ⟨none, []⟩ => some (⟨l.subscriptions, none⟩, [.returned])
    | _ => none

/-- No subscriptions, and no release. -/
def empty : Ledger := ⟨.empty, none⟩

/-- The subscriptions that the release under way has taken and not come to. -/
def unreached (l : Ledger) : List NumberedSubscription :=
  match l.batch with
  | some batch => batch.left
  | none => []

/-- The moves of a ledger. -/
abbrev Moves := List (Move Ledger Action Event)

/-- The histories of a ledger. -/
abbrev History (start : Ledger) : Moves → Ledger → Prop := ToolingHost.History step start

/-! ## What has happened -/

/-- The subscriptions that were added, in order. -/
def pushed (events : List Event) : List NumberedSubscription :=
  events.filterMap fun
    | .pushed subscription => some subscription
    | _ => none

/-- The disposals, in order. -/
def disposals (events : List Event) : List Disposed :=
  events.filterMap fun
    | .disposed disposed => some disposed
    | _ => none

/-- The subscriptions that were disposed of, in order. -/
def disposed (events : List Event) : List NumberedSubscription :=
  (disposals events).map Disposed.subscription

/-- The subscriptions that were abandoned because another one of their batch broke down. -/
def abandoned (events : List Event) : List NumberedSubscription :=
  events.flatMap fun
    | .panicked rest => rest
    | _ => []

section Append

variable (first second : List Event)

/-- What was added comes in order. -/
@[simp] theorem pushed_append : pushed (first ++ second) = pushed first ++ pushed second := by
  simp [pushed]

/-- Disposals come in order. -/
@[simp] theorem disposals_append :
    disposals (first ++ second) = disposals first ++ disposals second := by
  simp [disposals]

/-- What was disposed of comes in order. -/
@[simp] theorem disposed_append :
    disposed (first ++ second) = disposed first ++ disposed second := by
  simp [disposed]

/-- What was abandoned comes in order. -/
@[simp] theorem abandoned_append :
    abandoned (first ++ second) = abandoned first ++ abandoned second := by
  simp [abandoned]

end Append

/-! ## The steps -/

/-- The steps of a ledger. -/
inductive Step (l : Ledger) : Action → Ledger → List Event → Prop where
  /-- A subscription is added. -/
  | pushed {subscription : Subscription} :
      Step l (.push subscription) ⟨l.subscriptions.push subscription, l.batch⟩
        [.pushed (l.subscriptions.next, subscription)]
  /-- A release begins. -/
  | released (idle : l.batch = none) :
      Step l .release
        ⟨{ l.subscriptions with live := [] }, some ⟨none, l.subscriptions.live.reverse⟩⟩
        [.drained l.subscriptions.live.reverse]
  /-- The release comes to its next subscription. -/
  | turned {next : NumberedSubscription} {rest : List NumberedSubscription}
      (at_ : l.batch = some ⟨none, next :: rest⟩) :
      Step l .turn ⟨l.subscriptions, some ⟨some next, rest⟩⟩
        [.disposed ⟨next, l.subscriptions.count⟩]
  /-- That one has been disposed of. -/
  | settled {current : NumberedSubscription} {left : List NumberedSubscription}
      (at_ : l.batch = some ⟨some current, left⟩) :
      Step l (.settle true) ⟨l.subscriptions, some ⟨none, left⟩⟩ []
  /-- It breaks down. -/
  | panicked {current : NumberedSubscription} {left : List NumberedSubscription}
      (at_ : l.batch = some ⟨some current, left⟩) :
      Step l (.settle false) ⟨l.subscriptions, none⟩ [.panicked left]
  /-- The release returns. -/
  | returned (at_ : l.batch = some ⟨none, []⟩) :
      Step l .finish ⟨l.subscriptions, none⟩ [.returned]

/-- Every step of a ledger is one that `Step` lists. -/
theorem step_sound {l l' : Ledger} {action : Action} {events : List Event}
    (made : l.step action = some (l', events)) : Step l action l' events := by
  obtain ⟨subscriptions, batch⟩ := l
  cases action with
  | push subscription =>
      cases made
      exact .pushed
  | release =>
      cases batch with
      | none =>
          cases made
          exact .released rfl
      | some batch => cases made
  | turn =>
      rcases batch with _ | ⟨_ | current, _ | ⟨next, rest⟩⟩
      · cases made
      · cases made
      · cases made
        exact .turned rfl
      · cases made
      · cases made
  | settle well =>
      rcases batch with _ | ⟨_ | current, left⟩
      · cases made
      · cases made
      · cases well with
        | true =>
            cases made
            exact .settled rfl
        | false =>
            cases made
            exact .panicked rfl
  | finish =>
      rcases batch with _ | ⟨_ | current, _ | ⟨next, rest⟩⟩
      · cases made
      · cases made
        exact .returned rfl
      · cases made
      · cases made
      · cases made

/-! ## Where every subscription is -/

/-- Every subscription that was added has a number of its own, and is in one place. -/
structure Accounted (events : List Event) (l : Ledger) : Prop where
  /-- The numbers are given out in order. -/
  numbers : (pushed events).map Prod.fst = List.range l.subscriptions.next
  /-- A subscription was disposed of, was abandoned, was taken and not come to, or is still in the
  list. -/
  places : (pushed events).Perm
    (disposed events ++ (abandoned events ++ (l.unreached ++ l.subscriptions.live)))
  /-- The list holds the last ones that were added, in order. -/
  recent : l.subscriptions.live <:+ pushed events

namespace Accounted

variable {events : List Event} {l : Ledger}

/-- At first nothing has been pushed, and that is accounted for. -/
theorem initial : Accounted [] empty := ⟨rfl, .refl _, List.suffix_rfl⟩

/-- No subscription is in two places. -/
theorem nodup (h : Accounted events l) :
    (disposed events ++ (abandoned events ++ (l.unreached ++ l.subscriptions.live))).Nodup := by
  have numbered : ((pushed events).map Prod.fst).Nodup := by
    rw [h.numbers]
    exact List.nodup_range
  exact h.places.nodup_iff.mp (List.Nodup.of_map _ numbered)

/-- After every step all that was pushed is accounted for. -/
theorem step {l' : Ledger} {action : Action} {more : List Event} (h : Accounted events l)
    (made : Step l action l' more) : Accounted (events ++ more) l' := by
  obtain ⟨numbers, places, recent⟩ := h
  cases made with
  | @pushed subscription =>
      have added : pushed (events ++ [.pushed (l.subscriptions.next, subscription)]) =
          pushed events ++ [(l.subscriptions.next, subscription)] := pushed_append ..
      refine ⟨?_, ?_, ?_⟩
      · rw [added, List.map_append, numbers]
        exact List.range_succ.symm
      · rw [added]
        simpa [disposed, disposals, abandoned, unreached, Subscriptions.push] using
          places.append_right [(l.subscriptions.next, subscription)]
      · rw [added]
        exact (List.suffix_append_self_iff).mpr recent
  | released idle =>
      have none_ : l.unreached = [] := by rw [unreached, idle]
      rw [none_] at places
      refine ⟨by simpa [pushed] using numbers, ?_, List.nil_suffix⟩
      have turned : l.subscriptions.live.Perm l.subscriptions.live.reverse :=
        (List.reverse_perm _).symm
      simpa [pushed, disposed, disposals, abandoned, unreached] using
        places.trans ((turned.append_left _).append_left _)
  | @turned next rest at_ =>
      have some_ : l.unreached = next :: rest := by rw [unreached, at_]
      rw [some_] at places
      refine ⟨by simpa [pushed] using numbers, ?_, by simpa [pushed] using recent⟩
      -- the next one goes to the end of those that were disposed of
      have moved : (abandoned events ++ (next :: rest ++ l.subscriptions.live)).Perm
          (next :: (abandoned events ++ (rest ++ l.subscriptions.live))) := List.perm_middle
      simpa [pushed, disposed, disposals, abandoned, unreached] using
        places.trans (moved.append_left _)
  | settled at_ | panicked at_ | returned at_ =>
      rw [unreached, at_] at places
      exact ⟨by simpa [pushed] using numbers,
        by simpa [pushed, disposed, disposals, abandoned, unreached] using places,
        by simpa [pushed] using recent⟩

/-- At the end of every history that begins with nothing, all that was pushed is accounted for. -/
theorem of_history {moves : Moves} (h : History empty moves l) : Accounted (eventsOf moves) l := by
  induction h with
  | nil => exact initial
  | concat _ made ih =>
      rw [eventsOf_append, eventsOf_singleton]
      exact ih.step (step_sound made)

end Accounted

/-! ## How far a release has come -/

/-- How many of the subscriptions that a release has taken it has disposed of. -/
inductive Extent (taken : List NumberedSubscription) (events : List Event) (l : Ledger) : Prop where
  /-- It is under way: of all but those it has not come to. -/
  | running {batch : Batch} (at_ : l.batch = some batch) (unreturned : .returned ∉ events)
      (unbroken : ∀ rest, .panicked rest ∉ events) (parts : taken = disposed events ++ batch.left)
      (last : ∀ current, batch.current = some current →
        ∃ earlier, disposed events = earlier ++ [current])
  /-- It has returned: of all. -/
  | returned (ended : l.batch = none) (told : .returned ∈ events)
      (unbroken : ∀ rest, .panicked rest ∉ events) (whole : disposed events = taken)
  /-- One has broken down: of those up to that one. -/
  | panicked {earlier rest : List NumberedSubscription} {broken : NumberedSubscription}
      (ended : l.batch = none) (told : .panicked rest ∈ events) (unreturned : .returned ∉ events)
      (parts : taken = earlier ++ broken :: rest) (upTo : disposed events = earlier ++ [broken])

/-- What has come of a release since it began with a move. -/
structure Release (call : Move Ledger Action Event) (since : Moves) (l : Ledger) : Prop where
  /-- It has begun with taking all subscriptions from the list, to dispose of them newest first. -/
  drained : call.events = [.drained call.source.subscriptions.live.reverse]
  /-- The list was empty then. -/
  emptied : call.target.subscriptions.count = 0
  /-- It has disposed of a part of them from the front. -/
  extent : Extent call.source.subscriptions.live.reverse (eventsOf since) l
  /-- What was added since is in the list. -/
  live : l.subscriptions.live = pushed (eventsOf since)

/-- How far a release has come after one more step that does not begin another. -/
theorem Extent.step {taken : List NumberedSubscription} {events more : List Event} {l l' : Ledger}
    {action : Action} (h : Extent taken events l) (made : Step l action l' more)
    (same : action ≠ .release) : Extent taken (events ++ more) l' := by
  -- a release that has ended has no batch, so only one that is running makes these steps
  cases made with
  | pushed =>
      cases h with
      | running at_ unreturned unbroken parts last =>
          exact .running at_ (by simpa using unreturned) (by simpa using unbroken)
            (by simpa [disposed, disposals] using parts)
            (by simpa [disposed, disposals] using last)
      | returned ended told unbroken whole =>
          exact .returned ended (by simpa using told) (by simpa using unbroken)
            (by simpa [disposed, disposals] using whole)
      | panicked ended told unreturned parts upTo =>
          exact .panicked ended (List.mem_append_left _ told) (by simpa using unreturned) parts
            (by simpa [disposed, disposals] using upTo)
  | released => exact absurd rfl same
  | @turned next rest at_ =>
      cases h with
      | running here unreturned unbroken parts =>
          rw [at_] at here
          cases here
          have one : disposed (events ++ [.disposed ⟨next, l.subscriptions.count⟩]) =
              disposed events ++ [next] := disposed_append ..
          refine .running rfl (by simpa using unreturned) (by simpa using unbroken) ?_ ?_
          · rw [one, parts]
            simp
          · rintro current ⟨⟩
            exact ⟨_, one⟩
      | returned ended | panicked ended =>
          rw [at_] at ended
          cases ended
  | settled at_ =>
      cases h with
      | running here unreturned unbroken parts =>
          rw [at_] at here
          cases here
          exact .running rfl (by simpa using unreturned) (by simpa using unbroken)
            (by simpa using parts) (by simp)
      | returned ended | panicked ended =>
          rw [at_] at ended
          cases ended
  | @panicked current left at_ =>
      cases h with
      | running here unreturned _ parts last =>
          rw [at_] at here
          cases here
          obtain ⟨earlier, upTo⟩ := last current rfl
          have split_ : taken = earlier ++ current :: left := by
            rw [parts, upTo]
            simp
          have now : disposed (events ++ [.panicked left]) = earlier ++ [current] := by
            simpa [disposed, disposals] using upTo
          exact .panicked rfl (by simp) (by simpa using unreturned) split_ now
      | returned ended | panicked ended =>
          rw [at_] at ended
          cases ended
  | returned at_ =>
      cases h with
      | running here _ unbroken parts =>
          rw [at_] at here
          cases here
          exact .returned rfl (by simp) (by simpa using unbroken)
            (by simpa [disposed, disposals] using parts.symm)
      | returned ended | panicked ended =>
          rw [at_] at ended
          cases ended

/-- A step that does not begin a release takes nothing from the list. -/
theorem Step.live_eq {l l' : Ledger} {action : Action} {events : List Event}
    (made : Step l action l' events) (same : action ≠ .release) :
    l'.subscriptions.live = l.subscriptions.live ++ Ledger.pushed events := by
  cases made with
  | pushed => rfl
  | released => exact absurd rfl same
  | turned | settled | panicked | returned => exact (List.append_nil _).symm

/-- Until another one begins, every history goes on with a release. -/
theorem Release.of_history {call : Move Ledger Action Event} {since : Moves} {l : Ledger}
    (made : Step call.source .release call.target call.events) (h : History call.target since l)
    (same : ∀ move ∈ since, move.action ≠ .release) : Release call since l := by
  obtain ⟨source, action, target, events⟩ := call
  change Step source .release target events at made
  cases made
  induction h with
  | nil =>
      refine ⟨rfl, rfl, .running rfl (List.not_mem_nil) (fun _ => List.not_mem_nil) rfl ?_, rfl⟩
      rintro current ⟨⟩
  | @concat moves last next action events _ made ih =>
      obtain ⟨before, now⟩ := List.forall_mem_append.mp same
      have other : action ≠ .release := now _ (List.mem_singleton_self _)
      have step := step_sound made
      obtain ⟨drained, emptied, extent, live⟩ := ih before
      refine ⟨drained, emptied, ?_, ?_⟩
      · rw [eventsOf_append, eventsOf_singleton]
        exact extent.step step other
      · rw [eventsOf_append, eventsOf_singleton, pushed_append, ← live]
        exact step.live_eq other

/-! ## A release in one go -/

/-- What happens while subscriptions are disposed of one after the other, each as it is made: it
adds what it adds, and breaks down if it does, which ends the release. -/
def performance : List NumberedSubscription → List Action
  | [] => [.finish]
  | next :: rest =>
    .turn :: (next.2.adds.map .push ++ .settle (!next.2.panics) ::
      if next.2.panics then [] else performance rest)

/-- Moves that make these actions, of which none begins a release, dispose of these subscriptions,
and the release that is under way returns in them if it goes well. -/
structure Plays (start : Ledger) (actions : List Action) (moves : Moves) (last : Ledger)
    (done : List Disposed) (well : Bool) : Prop where
  /-- The moves. -/
  history : History start moves last
  /-- They make the actions. -/
  acts : moves.map Move.action = actions
  /-- The disposals. -/
  done : disposals (eventsOf moves) = done
  /-- Whether the release returns. -/
  well : .returned ∈ eventsOf moves ↔ well = true
  /-- No release begins. -/
  same : ∀ move ∈ moves, move.action ≠ .release

section Plays

variable {start mid last : Ledger} {actions : List Action} {moves : Moves} {done : List Disposed}
  {well : Bool}

/-- A move before a release makes its action first. -/
theorem Plays.cons {action : Action} {events : List Event}
    (h : Plays mid actions moves last done well)
    (made : step start action = some (mid, events)) (other : action ≠ .release)
    (open_ : .returned ∉ events) :
    Plays start (action :: actions) (⟨start, action, mid, events⟩ :: moves) last
      (disposals events ++ done) well where
  history := h.history.cons made
  acts := by rw [List.map_cons, h.acts]
  done := by
    rw [← h.done, ← disposals_append]
    rfl
  well := by
    rw [← h.well]
    simp [eventsOf, open_]
  same := List.forall_mem_cons.mpr ⟨other, h.same⟩

/-- What a subscription adds while it is disposed of is added step by step. -/
theorem Plays.push {s : Subscriptions} {batch : Option Batch} (adds : List Subscription)
    (h : Plays ⟨adds.foldl Subscriptions.push s, batch⟩ actions moves last done well) :
    ∃ more, Plays ⟨s, batch⟩ (adds.map .push ++ actions) more last done well := by
  induction adds generalizing s with
  | nil => exact ⟨moves, h⟩
  | cons first rest ih =>
      obtain ⟨more, plays⟩ := ih h
      have made : step ⟨s, batch⟩ (.push first) =
          some (⟨s.push first, batch⟩, [.pushed (s.next, first)]) := rfl
      exact ⟨_, plays.cons made (by simp) (by simp)⟩

end Plays

/-- A release that has taken some subscriptions disposes of them step by step. -/
theorem plays_disposeAll (s : Subscriptions) (left : List NumberedSubscription) :
    ∃ moves, Plays ⟨s, some ⟨none, left⟩⟩ (performance left) moves ⟨(s.disposeAll left).1, none⟩
      (s.disposeAll left).2.1 (s.disposeAll left).2.2 := by
  induction left generalizing s with
  | nil =>
      have made : step ⟨s, some ⟨none, []⟩⟩ .finish = some (⟨s, none⟩, [.returned]) := rfl
      exact ⟨_, .cons made .nil, rfl, rfl, by simp [eventsOf, Subscriptions.disposeAll], by simp⟩
  | cons next rest ih =>
      have turn : step ⟨s, some ⟨none, next :: rest⟩⟩ .turn =
          some (⟨s, some ⟨some next, rest⟩⟩, [.disposed ⟨next, s.count⟩]) := rfl
      -- its turn comes first and then what it adds; if it breaks down, nothing is left to do
      cases broken : next.2.panics with
      | true =>
          have made : step ⟨next.2.adds.foldl Subscriptions.push s, some ⟨some next, rest⟩⟩
              (.settle false) =
                some (⟨next.2.adds.foldl Subscriptions.push s, none⟩, [.panicked rest]) := rfl
          have last : Plays ⟨next.2.adds.foldl Subscriptions.push s, some ⟨some next, rest⟩⟩
              [.settle false] _ ⟨next.2.adds.foldl Subscriptions.push s, none⟩ [] false :=
            ⟨.cons made .nil, rfl, rfl, by simp [eventsOf], by simp⟩
          obtain ⟨moves, plays⟩ := Plays.push next.2.adds last
          simp only [Subscriptions.disposeAll, performance, broken, if_true]
          exact ⟨_, plays.cons turn (by simp) (by simp)⟩
      | false =>
          obtain ⟨moves, plays⟩ := ih (next.2.adds.foldl Subscriptions.push s)
          have made : step ⟨next.2.adds.foldl Subscriptions.push s, some ⟨some next, rest⟩⟩
              (.settle true) =
                some (⟨next.2.adds.foldl Subscriptions.push s, some ⟨none, rest⟩⟩, []) := rfl
          obtain ⟨more, plays⟩ := Plays.push next.2.adds (plays.cons made (by simp) (by simp))
          simp only [Subscriptions.disposeAll, performance, broken, Bool.false_eq_true, if_false]
          exact ⟨_, plays.cons turn (by simp) (by simp)⟩

/-- A release in one go is one run of the steps of a release, in which every subscription does what
it is made to do. -/
theorem plays_release (s : Subscriptions) :
    ∃ call moves, call.action = .release ∧ History ⟨s, none⟩ (call :: moves) ⟨s.release.1, none⟩ ∧
      Plays call.target (performance s.live.reverse) moves ⟨s.release.1, none⟩ s.release.2.1
        s.release.2.2 := by
  obtain ⟨moves, plays⟩ := plays_disposeAll { s with live := [] } s.live.reverse
  have made : step ⟨s, none⟩ .release =
      some (⟨{ s with live := [] }, some ⟨none, s.live.reverse⟩⟩, [.drained s.live.reverse]) := rfl
  exact ⟨⟨_, .release, _, _⟩, moves, rfl, .cons made plays.history, plays⟩

end Ledger

/-! ## What a release leaves -/

namespace Subscriptions

/-- The subscriptions with their numbers, which begin at `first`. -/
def numbered (first : Nat) : List Subscription → List NumberedSubscription
  | [] => []
  | subscription :: rest => (first, subscription) :: numbered (first + 1) rest

/-- What was added while these were disposed of, in order. -/
def addedBy (done : List Disposed) : List Subscription :=
  done.flatMap fun d => d.subscription.2.adds

/-- Which of the subscriptions that it has taken a release disposes of, and whether it returns. -/
inductive Segment (taken : List NumberedSubscription) :
    List NumberedSubscription → Bool → Prop where
  /-- None breaks down: the whole of them. -/
  | whole (unbroken : ∀ n ∈ taken, n.2.panics = false) : Segment taken taken true
  /-- One breaks down: those up to the first that does. -/
  | cut {earlier rest : List NumberedSubscription} {broken : NumberedSubscription}
      (parts : taken = earlier ++ broken :: rest) (unbroken : ∀ n ∈ earlier, n.2.panics = false)
      (breaks : broken.2.panics = true) : Segment taken (earlier ++ [broken]) false

/-- What a release comes to that leads from `s` to `s'`. -/
structure Released (s s' : Subscriptions) (done : List Disposed) (well : Bool) : Prop where
  /-- It disposes of the subscriptions in the list newest first, up to one that breaks down. -/
  segment : Segment s.live.reverse (done.map Disposed.subscription) well
  /-- In the list is what was added meanwhile, and nothing else. -/
  live : s'.live = numbered s.next (addedBy done)
  /-- The numbers go on. -/
  next : s'.next = s.next + (addedBy done).length
  /-- What had been added when one was disposed of was counted. -/
  counts : ∀ before d after, done = before ++ d :: after → d.count = (addedBy before).length

/-- Numbering subscriptions leaves as many as there were. -/
@[simp] theorem length_numbered (first : Nat) (subscriptions : List Subscription) :
    (numbered first subscriptions).length = subscriptions.length := by
  induction subscriptions generalizing first with
  | nil => rfl
  | cons _ rest ih => rw [numbered, List.length_cons, List.length_cons, ih]

/-- Subscriptions that are added one after the other are numbered, and at the end of the list. -/
theorem foldl_push (s : Subscriptions) (added : List Subscription) :
    added.foldl push s = ⟨s.next + added.length, s.live ++ numbered s.next added⟩ := by
  induction added generalizing s with
  | nil => simp [numbered]
  | cons first rest ih =>
      rw [List.foldl_cons, ih, push, List.append_assoc, List.length_cons, Nat.add_assoc,
        Nat.add_comm 1]
      rfl

/-- If one does not break down, a release goes on as with those behind it. -/
theorem Segment.cons {taken done : List NumberedSubscription} {well : Bool}
    {first : NumberedSubscription} (unbroken : first.2.panics = false)
    (h : Segment taken done well) : Segment (first :: taken) (first :: done) well := by
  cases h with
  | whole others => exact .whole (List.forall_mem_cons.mpr ⟨unbroken, others⟩)
  | cut parts others breaks =>
      exact .cut (by rw [parts, List.cons_append]) (List.forall_mem_cons.mpr ⟨unbroken, others⟩)
        breaks

/-- Disposing of subscriptions comes to those up to one that breaks down, and adds what they add. -/
theorem disposeAll_spec (s : Subscriptions) (left : List NumberedSubscription) :
    Segment left ((s.disposeAll left).2.1.map Disposed.subscription) (s.disposeAll left).2.2 ∧
      (s.disposeAll left).1 = (addedBy (s.disposeAll left).2.1).foldl push s ∧
      ∀ before d after, (s.disposeAll left).2.1 = before ++ d :: after →
        d.count = s.count + (addedBy before).length := by
  induction left generalizing s with
  | nil => exact ⟨.whole nofun, rfl, by simp [disposeAll]⟩
  | cons next rest ih =>
      rw [disposeAll]
      dsimp only
      split
      next broken =>
        have first : Segment (next :: rest) ([] ++ [next]) false := .cut rfl nofun broken
        refine ⟨first, by simp [addedBy], ?_⟩
        intro before d after only
        obtain ⟨rfl, rfl, -⟩ : before = [] ∧ d = ⟨next, s.count⟩ ∧ after = [] := by
          cases before <;> simp_all
        rfl
      next unbroken =>
        obtain ⟨segment, state, counts⟩ := ih (next.2.adds.foldl push s)
        refine ⟨segment.cons (by simpa using unbroken), ?_, ?_⟩
        -- what this one added stands before what the others add
        · rw [state, ← List.foldl_append]
          rfl
        · intro before d after parts
          cases before with
          | nil =>
              obtain ⟨rfl, -⟩ := List.cons.inj parts
              rfl
          | cons first before =>
              obtain ⟨rfl, later⟩ := List.cons.inj parts
              rw [counts before d after later, foldl_push]
              simp [addedBy, count, length_numbered, Nat.add_assoc]

/-- **A release empties the list and disposes of what was in it**, newest first: of the whole of it
unless one breaks down, and up to the first that does otherwise. What is added meanwhile is what the
list holds then. -/
theorem released_release (s : Subscriptions) :
    Released s s.release.1 s.release.2.1 s.release.2.2 := by
  obtain ⟨segment, state, counts⟩ := disposeAll_spec { s with live := [] } s.live.reverse
  rw [foldl_push] at state
  refine ⟨segment, ?_, ?_, fun before d after parts => ?_⟩
  · exact congrArg live state
  · exact congrArg next state
  · rw [counts before d after parts]
    exact Nat.zero_add _

end Subscriptions

namespace Ledger

/-! ## Every subscription is accounted for -/

/-- **Every subscription is disposed of at most once and never lost.** In every run of additions and
releases, whatever the subscriptions do while they are disposed of: none is disposed of twice; those
that were added are, each once, those that were disposed of, those that were abandoned, those that
the release under way has not come to, and those in the list; a release empties the list and
disposes of a part of what it took, newest first, that is everything unless one breaks down and up
to that one otherwise; what was added since it began is not disposed of by it, is in the list at
once, and is what the next release takes. What `Subscriptions.release` does is such a run, in which
every subscription adds what it adds and breaks down if it does; so it disposes of the whole list
unless one of them breaks down, and otherwise up to the first that does. -/
theorem subscriptions_accounted_for {moves : Moves} {l : Ledger} (h : History empty moves l) :
    (disposed (eventsOf moves)).Nodup ∧
    (pushed (eventsOf moves)).Perm (disposed (eventsOf moves) ++ (abandoned (eventsOf moves) ++
      (l.unreached ++ l.subscriptions.live))) ∧
    l.subscriptions.live <:+ pushed (eventsOf moves) ∧
    (∀ before call since, moves = before ++ call :: since → call.action = .release →
      (∀ move ∈ since, move.action ≠ .release) →
        Release call since l ∧
        (∀ added ∈ pushed (eventsOf since), added ∉ disposed (eventsOf since)) ∧
        l.subscriptions.count = (pushed (eventsOf since)).length ∧
        ∀ next events, l.step .release = some (next, events) →
          events = [.drained (pushed (eventsOf since)).reverse]) ∧
    (l.batch = none → ∃ call since, call.action = .release ∧
      History l (call :: since) ⟨l.subscriptions.release.1, none⟩ ∧
      Plays call.target (performance l.subscriptions.live.reverse) since
        ⟨l.subscriptions.release.1, none⟩ l.subscriptions.release.2.1
        l.subscriptions.release.2.2 ∧
      l.subscriptions.Released l.subscriptions.release.1 l.subscriptions.release.2.1
        l.subscriptions.release.2.2) := by
  have accounted := Accounted.of_history h
  refine ⟨(List.nodup_append.mp accounted.nodup).1, accounted.places, accounted.recent, ?_, ?_⟩
  · rintro before call since rfl begins same
    obtain ⟨earlier, made, later⟩ := h.split
    rw [begins] at made
    have release := Release.of_history (step_sound made) later same
    refine ⟨release, fun added hp hd => ?_, ?_, fun next events again => ?_⟩
    · -- what was added since is in the list, and nothing in the list has been disposed of
      have inList : added ∈ l.subscriptions.live := by rwa [release.live]
      have gone : added ∈ disposed (eventsOf (before ++ call :: since)) := by
        have parts : eventsOf (before ++ call :: since) =
            eventsOf before ++ (call.events ++ eventsOf since) := by simp [eventsOf]
        rw [parts, disposed_append, disposed_append]
        exact List.mem_append_right _ (List.mem_append_right _ hd)
      exact (List.nodup_append.mp accounted.nodup).2.2 added gone added (by simp [inList]) rfl
    · rw [Subscriptions.count, release.live]
    · cases step_sound again with
      | released idle => rw [release.live]
  · intro idle
    obtain ⟨subscriptions, batch⟩ := l
    cases idle
    obtain ⟨call, since, begins, history, plays⟩ := plays_release subscriptions
    exact ⟨call, since, begins, history, plays, subscriptions.released_release⟩

/-- Of the first three subscriptions the last one adds another while it is disposed of, and the
second one breaks down; a second release finds what was added and one more. -/
def outbreak : List Action :=
  [.push (.plain "a"), .push (.plain "b"), .push (.plain "c"), .release, .turn,
    .push (.plain "d"), .settle true, .turn, .settle false, .push (.plain "e"), .release, .turn,
    .settle true, .turn, .settle true, .finish]

/-- The moves of this run. -/
def outbreakMoves : Moves := movesOf step empty outbreak

/-- The first subscription is abandoned, and the other four are disposed of in two batches. -/
theorem subscriptions_accounted_for_outbreak :
    (disposed (eventsOf outbreakMoves)).map Prod.fst = [2, 1, 4, 3] ∧
      (abandoned (eventsOf outbreakMoves)).map Prod.fst = [0] ∧
      (disposed (eventsOf outbreakMoves)).Nodup ∧
      ∃ l call, History empty outbreakMoves l ∧
        outbreakMoves = outbreakMoves.take 10 ++ call :: outbreakMoves.drop 11 ∧
        call.action = .release ∧ Release call (outbreakMoves.drop 11) l := by
  have history : History empty outbreakMoves (endOf step empty outbreak) := .of_actions ..
  obtain ⟨once, -, -, releases, -⟩ := subscriptions_accounted_for history
  obtain ⟨call, parts, begins⟩ : ∃ call,
      outbreakMoves = outbreakMoves.take 10 ++ call :: outbreakMoves.drop 11 ∧
        call.action = .release := ⟨_, rfl, rfl⟩
  have same : (outbreakMoves.drop 11).all (fun m => !(m.action matches .release)) = true := rfl
  refine ⟨rfl, rfl, once, _, call, history, parts, begins, (releases _ call _ parts begins ?_).1⟩
  intro move hm is
  have other := List.all_eq_true.mp same move hm
  rw [is] at other
  cases other

end Ledger

end ToolingHost
