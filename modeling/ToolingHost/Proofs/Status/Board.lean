import ToolingHost.Proofs.Status.Scope
import ToolingHost.Status.Board

/-! # What becomes of the item of a status entry

A board sees operations in any order: on its entries, through the handles that were taken from them,
and scopes in between. What they ask of one entry can be told from the operations and their answers
alone (`Board.demands`): a handle belongs to an entry if it was the answer when one was taken from
it. Until the entry is released every demand is one call about its item, the first release is the
last call, and whether it was released is what the entry answers
(`Board.entry_follows_its_demands`).

`Host.Adds` says which calls about an item a host has received between two points; `Board.Follows`
says where an entry stands, and every operation keeps it (`Board.Follows.apply`). -/

namespace ToolingHost

/-! ## Calls about an item -/

/-- The status item that a call is about. -/
def HostCall.item? : HostCall → Option Nat
  | .createItem item | .setText item _ | .showItem item | .disposeItem item => some item
  | .setLanguage _ _ | .registerDebugAdapter _ => none

/-- Whether a call is about a status item. -/
def HostCall.isAbout (item : Nat) (call : HostCall) : Bool := call.item? == some item

namespace Host

variable {item : Nat} {h h' h'' : Host} {calls seen seen' : List HostCall}

/-- One host is the other one later, and the calls about an item in between are these. -/
structure Adds (item : Nat) (h h' : Host) (seen : List HostCall) : Prop where
  /-- Calls were added, and these are about the item. -/
  calls : ∃ calls, h'.history = h.history ++ calls ∧ calls.filter (HostCall.isAbout item) = seen
  /-- Which calls break down has not changed. -/
  faults : h'.faults = h.faults
  /-- Numbers of items are not given back. -/
  later : h.nextItem ≤ h'.nextItem

/-- A host to which nothing has happened has added nothing. -/
theorem Adds.refl (item : Nat) (h : Host) : Adds item h h [] where
  calls := ⟨[], (List.append_nil _).symm, rfl⟩
  faults := rfl
  later := Nat.le_refl _

/-- What a host adds twice it adds in order. -/
theorem Adds.trans (first : Adds item h h' seen) (second : Adds item h' h'' seen') :
    Adds item h h'' (seen ++ seen') where
  calls := by
    obtain ⟨calls, made, about⟩ := first.calls
    obtain ⟨calls', made', about'⟩ := second.calls
    refine ⟨calls ++ calls', ?_, ?_⟩
    · rw [made', made, List.append_assoc]
    · rw [List.filter_append, about, about']
  faults := second.faults.trans first.faults
  later := Nat.le_trans first.later second.later

/-- After some calls, those about the item have been added. -/
theorem adds_after (item : Nat) (h : Host) (calls : List HostCall) (spent : Nat) :
    Adds item h (h.after calls spent) (calls.filter (HostCall.isAbout item)) where
  calls := ⟨calls, rfl, rfl⟩
  faults := rfl
  later := Nat.le_add_right _ _

/-- After calls about other items, none has been added. -/
theorem adds_nothing (h : Host) (spent : Nat) (others : ∀ call ∈ calls, call.item? ≠ some item) :
    Adds item h (h.after calls spent) [] := by
  have none_ : calls.filter (HostCall.isAbout item) = [] := by
    rw [List.filter_eq_nil_iff]
    intro call made
    rw [HostCall.isAbout, beq_iff_eq]
    exact others call made
  exact none_ ▸ h.adds_after item calls spent

/-- A call about an item, if there is one, is made in any case. -/
theorem attemptOn_fst (h : Host) (call : Nat → HostCall) (own : Option Nat) :
    (h.attemptOn call own).1 = h.after (own.toList.map call) 0 := by
  cases own with
  | none => simp [attemptOn, after]
  | some i => simp [attemptOn, attempt, tell, after]

end Host

/-- Calls about the item of an entry that has another one are about others. -/
theorem StatusEntry.others_of_mem {e : StatusEntry} {item : Nat} {call : Nat → HostCall}
    (about : ∀ i, (call i).item? = some i) (other : e.item ≠ some item) :
    ∀ made ∈ e.item.toList.map call, made.item? ≠ some item := by
  intro made there
  obtain ⟨i, own, rfl⟩ := List.mem_map.mp there
  rw [about, ← Option.mem_toList.mp own]
  exact other

/-- Creating an entry takes the next item. Either that breaks down, or setting the first text does,
or the entry has the item. -/
theorem StatusEntry.create_cases (host : Host) (lead : String) :
    create host lead = (host.after [] 1, none) ∨
    create host lead =
      (host.after [.createItem host.nextItem, .setText host.nextItem lead] 1, none) ∨
    create host lead =
      (host.after [.createItem host.nextItem, .setText host.nextItem lead] 1,
        some ⟨lead, some host.nextItem⟩) := by
  unfold create
  rcases host.createItem_cases with ⟨-, made⟩ | ⟨-, made⟩
  · rw [made]
    dsimp only
    rw [begin_eq]
    rcases (host.after [.createItem host.nextItem] 1).attemptOn_cases (.setText · lead)
      (some host.nextItem) with ⟨-, texted⟩ | ⟨i, own, -, texted⟩
    · rw [texted]
      exact .inr (.inr (by simp [Host.after]))
    · cases own
      rw [texted]
      exact .inr (.inl (by simp [Host.after]))
  · rw [made]
    exact .inl rfl

/-! ## Scopes and the items of others -/

namespace Scope

variable {β ρ : Type} {host : Host} {s : Scope β ρ} {item : Nat}

/-- A step around the action of a scope leaves an older item alone that the scope does not have. -/
theorem advance_adds (old : item < host.nextItem) (other : s.entry.item ≠ some item) :
    host.Adds item (s.advance host).1 [] ∧ (s.advance host).2.entry.item ≠ some item := by
  have new : host.nextItem ≠ item := Nat.ne_of_gt old
  by_cases around : s.phase.isAround = true
  · obtain ⟨calls, spent, s', made, step⟩ := advance_sound host s around
    rw [made]
    -- only the creation of the item takes a number, and that is a new one
    cases step with
    | created =>
        refine ⟨Host.adds_nothing _ _ ?_, ?_⟩
        · simpa [HostCall.item?] using new
        · simpa using new
    | uncreated => exact ⟨Host.adds_nothing _ _ (by simp), other⟩
    | labelled | shown =>
        exact ⟨Host.adds_nothing _ _ (StatusEntry.others_of_mem (fun _ => rfl) other), other⟩
    | unlabelled _ own =>
        refine ⟨Host.adds_nothing _ _ ?_, ?_⟩
        · simpa [HostCall.item?, own] using other
        · simp [StatusEntry.released]
    | unshown _ own =>
        refine ⟨Host.adds_nothing _ _ ?_, other⟩
        simpa [HostCall.item?, own] using other
    | disposed =>
        refine ⟨Host.adds_nothing _ _ (StatusEntry.others_of_mem (fun _ => rfl) other), ?_⟩
        simp [StatusEntry.released]
    | undisposed _ own =>
        refine ⟨Host.adds_nothing _ _ ?_, ?_⟩
        · simpa [HostCall.item?, own] using other
        · simp [StatusEntry.released]
  · have idle : s.advance host = (host, s) := by
      unfold advance
      cases phase : s.phase <;> simp_all [Phase.isAround]
    rw [idle]
    exact ⟨Host.Adds.refl item host, other⟩

/-- The steps up to the action make no call about another item. -/
theorem begin_adds (old : item < host.nextItem) (other : s.entry.item ≠ some item) :
    host.Adds item (s.begin host).1 [] ∧ (s.begin host).2.entry.item ≠ some item := by
  obtain ⟨one, other⟩ := advance_adds old other
  have old := Nat.lt_of_lt_of_le old one.later
  obtain ⟨two, other⟩ := advance_adds old other
  have old := Nat.lt_of_lt_of_le old two.later
  obtain ⟨three, other⟩ := advance_adds old other
  exact ⟨(one.trans two).trans three, other⟩

end Scope

namespace Board

variable {α : Type}

/-! ## What is asked of an entry -/

/-- The board after several operations, and what they answer. -/
def applyAll (b : Board) : List (Op α) → Board × List (Answer α)
  | [] => (b, [])
  | op :: rest =>
    let (b, answer) := b.apply op
    let (b, answers) := applyAll b rest
    (b, answer :: answers)

/-- Something that is asked of an entry. -/
inductive Demand where
  /-- To show itself. -/
  | reveal
  /-- To replace its message. -/
  | message (text : String)
  /-- To release its item. -/
  | release
  deriving DecidableEq, Repr

/-- The call in which a demand on an entry with an item and a lead is met. -/
def Demand.call (item : Nat) (lead : String) : Demand → HostCall
  | .reveal => .showItem item
  | .message text => .setText item (lead ++ " " ++ text)
  | .release => .disposeItem item

/-- What an operation asks of an entry, given the handles that were taken from it. -/
def demand? (entry : Nat) (own : List Nat) : Op α → Option Demand
  | .reveal e => if e = entry then some .reveal else none
  | .update e message => if e = entry then some (.message message) else none
  | .handleUpdate handle message => if handle ∈ own then some (.message message) else none
  | .dispose e | .drop e => if e = entry then some .release else none
  | .new _ | .handle _ | .isDisposed _ | .scope _ => none

/-- The handles that were taken from an entry, after one more operation with its answer. -/
def taken (entry : Nat) (own : List Nat) : Op α → Answer α → List Nat
  | .handle e, .number handle => if e = entry then own ++ [handle] else own
  | _, _ => own

/-- What operations with their answers ask of an entry, in order. -/
def demands (entry : Nat) (own : List Nat) : List (Op α × Answer α) → List Demand
  | [] => []
  | (op, answer) :: rest =>
    (demand? entry own op).toList ++ demands entry (taken entry own op answer) rest

/-- The calls in which demands are met: one each until the first release, which is the last. -/
def met (item : Nat) (lead : String) : List Demand → List HostCall
  | [] => []
  | demand :: rest =>
    demand.call item lead :: if demand = .release then [] else met item lead rest

/-! ## Where an entry stands -/

/-- An entry with its place, its item, its lead and the handles that were taken from it; `live` says
that it has not been released. -/
structure Follows (b : Board) (entry place item : Nat) (lead : String) (own : List Nat)
    (live : Bool) : Prop where
  /-- The entry is at its place. -/
  here : b.entries[entry]? = some place
  /-- No other entry is there. -/
  sole : ∀ other : Nat, b.entries[other]? = some place → other = entry
  /-- It has its item as long as it has not been released. -/
  slot : b.slots[place]? = some ⟨lead, if live then some item else none⟩
  /-- The handles that lead there were taken from it. -/
  handles : ∀ handle : Nat, b.handles[handle]? = some place ↔ handle ∈ own
  /-- Nothing else has the item. -/
  alone : ∀ (q : Nat) (e : StatusEntry), b.slots[q]? = some e → e.item = some item → q = place
  /-- The number of the item is used up. -/
  old : item < b.host.nextItem

/-- A list of places from another one to which others than one place were added. -/
def GrownBeside (place : Nat) (places places' : List Nat) : Prop :=
  ∃ more, places' = places ++ more ∧ place ∉ more

/-- A board from another one that leaves a place with an item alone: others may come, but they are
elsewhere. -/
structure Keeps (place item : Nat) (b b' : Board) : Prop where
  /-- The place holds what it held. -/
  slot : b'.slots[place]? = b.slots[place]?
  /-- Nothing gets the item. -/
  others : ∀ (q : Nat) (e : StatusEntry), b'.slots[q]? = some e → e.item = some item →
    ∃ e' : StatusEntry, b.slots[q]? = some e' ∧ e'.item = some item
  /-- New entries are elsewhere. -/
  entries : GrownBeside place b.entries b'.entries
  /-- New handles lead elsewhere. -/
  handles : GrownBeside place b.handles b'.handles

/-- A value that is not among what was added is where it was. -/
theorem getElem?_append_iff {β : Type} {l more : List β} {x : β} (new : x ∉ more) (k : Nat) :
    (l ++ more)[k]? = some x ↔ l[k]? = some x := by
  rw [List.getElem?_append]
  split
  · rfl
  · rename_i behind
    constructor
    · intro there
      exact absurd (List.mem_of_getElem? there) new
    · intro there
      exact absurd (List.getElem?_eq_some_iff.mp there).1 behind

section GrownBeside

variable {place : Nat} {places places' places'' : List Nat}

/-- A list has grown beside a place when nothing was added. -/
theorem GrownBeside.refl (place : Nat) (places : List Nat) : GrownBeside place places places :=
  ⟨[], (List.append_nil _).symm, List.not_mem_nil⟩

/-- A list has grown beside a place when another place was added. -/
theorem GrownBeside.concat {q : Nat} (elsewhere : q ≠ place) (places : List Nat) :
    GrownBeside place places (places ++ [q]) :=
  ⟨[q], rfl, fun there => elsewhere (List.mem_singleton.mp there).symm⟩

/-- What grows twice beside a place grows beside it. -/
theorem GrownBeside.trans (first : GrownBeside place places places')
    (second : GrownBeside place places' places'') : GrownBeside place places places'' := by
  obtain ⟨more, rfl, new⟩ := first
  obtain ⟨more', rfl, new'⟩ := second
  refine ⟨more ++ more', List.append_assoc _ _ _, ?_⟩
  rw [List.mem_append, not_or]
  exact ⟨new, new'⟩

/-- In a list that has grown beside a place, the place is where it was. -/
theorem GrownBeside.getElem?_iff (grown : GrownBeside place places places') (k : Nat) :
    places'[k]? = some place ↔ places[k]? = some place := by
  obtain ⟨more, rfl, new⟩ := grown
  exact getElem?_append_iff new k

end GrownBeside

section Keeps

variable {place item : Nat} {b b' b'' : Board}

/-- A change of the host alone leaves every place alone. -/
theorem Keeps.of_host (place item : Nat) (b : Board) (host : Host) :
    Keeps place item b { b with host } where
  slot := rfl
  others := fun _ e there has => ⟨e, there, has⟩
  entries := .refl _ _
  handles := .refl _ _

/-- A place that is left alone twice is left alone. -/
theorem Keeps.trans (first : Keeps place item b b') (second : Keeps place item b' b'') :
    Keeps place item b b'' where
  slot := second.slot.trans first.slot
  others := by
    intro q e there has
    obtain ⟨e', there', has'⟩ := second.others q e there has
    exact first.others q e' there' has'
  entries := first.entries.trans second.entries
  handles := first.handles.trans second.handles

/-- A handle that leads elsewhere leaves a place alone. -/
theorem Keeps.of_handle {q : Nat} (elsewhere : q ≠ place) :
    Keeps place item b { b with handles := b.handles ++ [q] } where
  slot := rfl
  others := fun _ e there has => ⟨e, there, has⟩
  entries := .refl _ _
  handles := .concat elsewhere _

/-- A new slot without the item leaves a place alone that was there before. -/
theorem Keeps.of_slot {e : StatusEntry} (there : place < b.slots.length)
    (other : e.item ≠ some item) : Keeps place item b { b with slots := b.slots ++ [e] } where
  slot := List.getElem?_append_left there
  others := by
    intro q e' found has
    have new : e' ∉ [e] := by
      rw [List.mem_singleton]
      rintro rfl
      exact other has
    exact ⟨e', (getElem?_append_iff new q).mp found, has⟩
  entries := .refl _ _
  handles := .refl _ _

/-- A change of another slot that does not get the item leaves a place alone. -/
theorem Keeps.of_set {q : Nat} {e : StatusEntry} (elsewhere : q ≠ place)
    (other : e.item ≠ some item) : Keeps place item b { b with slots := b.slots.set q e } where
  slot := List.getElem?_set_ne elsewhere
  others := by
    intro k e' found has
    rw [List.getElem?_set] at found
    split at found
    · split at found
      · cases found
        exact absurd has other
      · cases found
    · exact ⟨e', found, has⟩
  entries := .refl _ _
  handles := .refl _ _

end Keeps

section Follows

variable {b b' : Board} {entry place item : Nat} {lead : String} {own : List Nat} {live : Bool}

/-- An entry stands where it stood if its place is left alone. -/
theorem Follows.of_keeps (f : b.Follows entry place item lead own live)
    (kept : Keeps place item b b') (later : b.host.nextItem ≤ b'.host.nextItem) :
    b'.Follows entry place item lead own live := by
  constructor
  · exact (kept.entries.getElem?_iff entry).mpr f.here
  · intro other there
    exact f.sole other ((kept.entries.getElem?_iff other).mp there)
  · rw [kept.slot]
    exact f.slot
  · intro handle
    exact (kept.handles.getElem?_iff handle).trans (f.handles handle)
  · intro q e there has
    obtain ⟨e', there', has'⟩ := kept.others q e there has
    exact f.alone q e' there' has'
  · exact Nat.lt_of_lt_of_le f.old later

/-- The place of an entry is there. -/
theorem Follows.place_lt (f : b.Follows entry place item lead own live) :
    place < b.slots.length :=
  (List.getElem?_eq_some_iff.mp f.slot).1

/-- Only the number of the entry means its place. -/
theorem Follows.entryPlace_eq_iff (f : b.Follows entry place item lead own live) (e : Nat) :
    b.entryPlace e = place ↔ e = entry := by
  unfold entryPlace
  rw [List.getD_eq_getElem?_getD]
  constructor
  · intro there
    cases found : b.entries[e]? with
    | none =>
        rw [found] at there
        exact absurd there (Nat.ne_of_gt f.place_lt)
    | some q =>
        rw [found] at there
        exact f.sole e (found.trans (congrArg some there))
  · rintro rfl
    rw [f.here]
    rfl

/-- Only the handles that were taken from the entry lead to its place. -/
theorem Follows.handlePlace_eq_iff (f : b.Follows entry place item lead own live) (handle : Nat) :
    b.handlePlace handle = place ↔ handle ∈ own := by
  unfold handlePlace
  rw [List.getD_eq_getElem?_getD, ← f.handles]
  cases found : b.handles[handle]? with
  | none => simp [Nat.ne_of_gt f.place_lt]
  | some q => simp

/-- The slot at the place. -/
theorem Follows.slot_eq (f : b.Follows entry place item lead own live) :
    b.slot place = ⟨lead, if live then some item else none⟩ := by
  rw [Board.slot, List.getD_eq_getElem?_getD, f.slot]
  rfl

/-- Only a live entry has the item. -/
theorem Follows.item_eq_iff (f : b.Follows entry place item lead own live) (q : Nat) :
    (b.slot q).item = some item ↔ q = place ∧ live = true := by
  constructor
  · intro has
    have at_ : q = place := by
      rw [Board.slot, List.getD_eq_getElem?_getD] at has
      cases found : b.slots[q]? with
      | none =>
          rw [found] at has
          cases has
      | some e =>
          rw [found] at has
          exact f.alone q e found has
    subst at_
    refine ⟨rfl, ?_⟩
    rw [f.slot_eq] at has
    cases live with
    | true => rfl
    | false => cases has
  · rintro ⟨rfl, rfl⟩
    rw [f.slot_eq]
    rfl

end Follows

/-! ## What an operation does -/

/-- The board after a call about the item of the entry at a place, if it has one. -/
def called (b : Board) (q : Nat) (call : Nat → HostCall) : Board :=
  { b with host := b.host.after ((b.slot q).item.toList.map call) 0 }

/-- An update is a call about the item at its place. -/
theorem updateAt_fst (b : Board) (q : Nat) (message : String) :
    (b.updateAt q message : Board × Answer α).1 =
      b.called q (.setText · ((b.slot q).label message)) := by
  show { b with host := ((b.slot q).update b.host message).1 } = _
  rw [StatusEntry.update_eq, Host.attemptOn_fst]
  rfl

/-- Showing an entry is a call about its item. -/
theorem apply_reveal_fst (b : Board) (e : Nat) :
    (b.apply (.reveal e : Op α)).1 = b.called (b.entryPlace e) .showItem := by
  show { b with host := ((b.slot (b.entryPlace e)).reveal b.host).1 } = _
  rw [StatusEntry.reveal_eq, Host.attemptOn_fst]
  rfl

/-- A disposal is a call about the item at its place, which then has none. -/
theorem disposeAt_fst (b : Board) (q : Nat) :
    (b.disposeAt q).1 =
      { b.called q .disposeItem with slots := b.slots.modify q StatusEntry.released } := by
  show { b with host := ((b.slot q).dispose b.host).1, slots := _ } = _
  rw [StatusEntry.dispose_eq]
  dsimp only
  rw [Host.attemptOn_fst]
  rfl

/-- Running an action leaves a place alone that is not that of the scope. -/
theorem act_adds {place item q : Nat} (elsewhere : q ≠ place) (acts : List (Act α)) (b : Board)
    (other : (b.slot q).item ≠ some item) :
    b.host.Adds item (act q b acts).1.host [] ∧ Keeps place item b (act q b acts).1 := by
  induction acts generalizing b with
  | nil => exact ⟨.refl _ _, .of_host ..⟩
  | cons first rest ih =>
      cases first with
      | update message =>
          have made : ((b.slot q).update b.host message).1 =
              (b.called q (.setText · ((b.slot q).label message))).host :=
            congrArg Board.host (updateAt_fst (α := α) b q message)
          have adds :
              b.host.Adds item (b.called q (.setText · ((b.slot q).label message))).host [] :=
            Host.adds_nothing _ _ (StatusEntry.others_of_mem (fun _ => rfl) other)
          unfold act
          rcases result : (b.slot q).update b.host message with ⟨host, well⟩
          rw [result] at made
          subst made
          -- the rest of the action runs only if the update went well
          cases well with
          | true =>
              obtain ⟨adds', kept⟩ := ih (b.called q (.setText · ((b.slot q).label message))) other
              exact ⟨adds.trans adds', (Keeps.of_host ..).trans kept⟩
          | false => exact ⟨adds, .of_host ..⟩
      | keep =>
          obtain ⟨adds, kept⟩ := ih { b with handles := b.handles ++ [q] } other
          exact ⟨adds, (Keeps.of_handle elsewhere).trans kept⟩
      | finish | panic | wait => exact ⟨.refl _ _, .of_host ..⟩

/-- A scope opens, runs its action unless it has broken down, and closes. -/
theorem scope_cases (b : Board) (acts : List (Act α)) :
    ∃ (mid : Board) (s : Scope Unit (Ending α)),
      let opened := Scope.begin (β := Unit) (ρ := Ending α) b.host .fresh
      let open_ : Board := { b with host := opened.1, slots := b.slots ++ [opened.2.entry] }
      (mid = open_ ∨ mid = (act b.slots.length open_ acts).1) ∧ s.entry = opened.2.entry ∧
      (b.scope acts).1 =
        { mid with
          host := (s.advance mid.host).1,
          slots := mid.slots.set b.slots.length (s.advance mid.host).2.entry } := by
  unfold scope
  rcases Scope.begin (β := Unit) (ρ := Ending α) b.host .fresh with ⟨host, s⟩
  dsimp only
  cases s.phase with
  | shown =>
      refine ⟨_, s.finish (act b.slots.length
        { b with host := host, slots := b.slots ++ [s.entry] } acts).2, .inr rfl, rfl, ?_⟩
      dsimp only
      split <;> rfl
  | fresh | created | labelled | running | closing | closed =>
      refine ⟨_, s, .inl rfl, rfl, ?_⟩
      dsimp only
      split <;> rfl

/-! ## What every operation keeps -/

section Steps

variable {b : Board} {entry place item : Nat} {lead : String} {own : List Nat} {live : Bool}

/-- A call about the item at a place is about the item of the entry exactly if that is its place and
it has not been released. -/
theorem Follows.called_adds (f : b.Follows entry place item lead own live) (q : Nat)
    (call : Nat → HostCall) (about : ∀ i, (call i).item? = some i) :
    b.host.Adds item (b.called q call).host
      (if q = place ∧ live = true then [call item] else []) := by
  by_cases has : (b.slot q).item = some item
  · have adds := b.host.adds_after item [call item] 0
    have itself : [call item].filter (HostCall.isAbout item) = [call item] := by
      simp [HostCall.isAbout, about]
    rw [itself] at adds
    rw [if_pos ((f.item_eq_iff q).mp has)]
    show b.host.Adds item (b.host.after ((b.slot q).item.toList.map call) 0) _
    rw [has]
    exact adds
  · rw [if_neg fun here => has ((f.item_eq_iff q).mpr here)]
    exact Host.adds_nothing _ _ (StatusEntry.others_of_mem about has)

/-- A call about an item changes nothing on the board. -/
theorem Follows.called (f : b.Follows entry place item lead own live) (q : Nat)
    (call : Nat → HostCall) : (b.called q call).Follows entry place item lead own live :=
  f.of_keeps (.of_host ..) (Nat.le_refl _)

/-- An update at the place of the entry sets the text with its lead, unless it was released. -/
theorem Follows.updated (f : b.Follows entry place item lead own live) (q : Nat)
    (message : String) :
    b.host.Adds item (b.updateAt q message : Board × Answer α).1.host
      (if q = place ∧ live = true then [.setText item (lead ++ " " ++ message)] else []) ∧
    (b.updateAt q message : Board × Answer α).1.Follows entry place item lead own live := by
  rw [updateAt_fst]
  refine ⟨?_, f.called q _⟩
  have adds := f.called_adds q (.setText · ((b.slot q).label message)) fun _ => rfl
  by_cases here : q = place
  · have text : (b.slot q).label message = lead ++ " " ++ message := by
      rw [here, f.slot_eq]
      rfl
    rw [text] at adds ⊢
    exact adds
  · rw [if_neg fun both => here both.1] at adds ⊢
    exact adds

/-- A disposal at the place of the entry releases it, and one elsewhere does not. -/
theorem Follows.disposed (f : b.Follows entry place item lead own live) (q : Nat) :
    b.host.Adds item (b.disposeAt q).1.host
      (if q = place ∧ live = true then [.disposeItem item] else []) ∧
    (b.disposeAt q).1.Follows entry place item lead own (live && decide (q ≠ place)) := by
  rw [disposeAt_fst]
  refine ⟨f.called_adds q _ fun _ => rfl, ?_⟩
  -- who has an item afterwards, had it before
  have had (k : Nat) (e : StatusEntry)
      (there : (b.slots.modify q StatusEntry.released)[k]? = some e) (has : e.item = some item) :
      b.slots[k]? = some e := by
    rw [List.getElem?_modify] at there
    obtain ⟨e', found, rfl⟩ := Option.map_eq_some_iff.mp there
    by_cases here : q = k
    · rw [if_pos here] at has
      cases has
    · rw [if_neg here]
      exact found
  -- the place keeps its lead in any case, so the entry is followed when it is released, too
  refine ⟨f.here, f.sole, ?_, f.handles, fun k e there has => ?_, f.old⟩
  · show (b.slots.modify q StatusEntry.released)[place]? = _
    rw [List.getElem?_modify, f.slot]
    by_cases here : q = place
    · simp [here, StatusEntry.released]
    · simp [here]
  · exact f.alone k e (had k e there has) has

/-- A new entry is elsewhere, and has a new item. -/
theorem Follows.new (f : b.Follows entry place item lead own live) (lead' : String) :
    b.host.Adds item (b.apply (.new lead' : Op α)).1.host [] ∧
      (b.apply (.new lead' : Op α)).1.Follows entry place item lead own live := by
  have new : b.host.nextItem ≠ item := Nat.ne_of_gt f.old
  have adds : b.host.Adds item (b.host.after
      [.createItem b.host.nextItem, .setText b.host.nextItem lead'] 1) [] :=
    Host.adds_nothing _ _ (by simpa [HostCall.item?] using new)
  rcases StatusEntry.create_cases b.host lead' with made | made | made
  · simp only [Board.apply, made]
    exact ⟨Host.adds_nothing _ _ (by simp), f.of_keeps (.of_host ..) (Nat.le_succ _)⟩
  · simp only [Board.apply, made]
    exact ⟨adds, f.of_keeps (.of_host ..) (Nat.le_succ _)⟩
  · simp only [Board.apply, made]
    refine ⟨adds, f.of_keeps ?_ (Nat.le_succ _)⟩
    have slots : Keeps place item b
        { b with slots := b.slots ++ [⟨lead', some b.host.nextItem⟩] } :=
      .of_slot f.place_lt (by simpa using new)
    exact { slots with entries := .concat (Nat.ne_of_gt f.place_lt) _ }

/-- A scope has an entry and an item of its own. -/
theorem Follows.scope (f : b.Follows entry place item lead own live) (acts : List (Act α)) :
    b.host.Adds item (b.scope acts).1.host [] ∧
      (b.scope acts).1.Follows entry place item lead own live := by
  have elsewhere : b.slots.length ≠ place := Nat.ne_of_gt f.place_lt
  obtain ⟨mid, s, reached, entry_, result⟩ := b.scope_cases acts
  obtain ⟨begun, other⟩ := Scope.begin_adds (β := Unit) (ρ := Ending α) (s := .fresh) f.old
    (by simp [Scope.fresh])
  rw [← entry_] at other reached
  -- up to the action
  have opened := (Keeps.of_slot (b := b) f.place_lt other).trans
    (.of_host place item _ (Scope.begin (β := Unit) (ρ := Ending α) b.host .fresh).1)
  -- and with the action, if it runs
  have run : b.host.Adds item mid.host [] ∧ Keeps place item b mid := by
    rcases reached with rfl | rfl
    · exact ⟨begun, opened⟩
    · have its : (Board.slot { b with
          host := (Scope.begin (β := Unit) (ρ := Ending α) b.host .fresh).1,
          slots := b.slots ++ [s.entry] } b.slots.length).item ≠ some item := by
        simpa [Board.slot, List.getD_eq_getElem?_getD] using other
      obtain ⟨adds, kept⟩ := act_adds elsewhere acts _ its
      exact ⟨begun.trans adds, opened.trans kept⟩
  obtain ⟨closed, other⟩ := Scope.advance_adds (Nat.lt_of_lt_of_le f.old run.1.later) other
  rw [result]
  refine ⟨run.1.trans closed, f.of_keeps ?_ (Nat.le_trans run.1.later closed.later)⟩
  exact (run.2.trans (.of_set elsewhere other)).trans (.of_host ..)

/-- A handle that is taken from the entry leads to it, and one that is taken from another does not.
-/
theorem Follows.handle (f : b.Follows entry place item lead own live) (e : Nat) :
    Board.Follows { b with handles := b.handles ++ [b.entryPlace e] } entry place item lead
      (if e = entry then own ++ [b.handles.length] else own) live := by
  by_cases mine : e = entry
  · rw [if_pos mine, (f.entryPlace_eq_iff e).mpr mine]
    refine ⟨f.here, f.sole, f.slot, fun handle => ?_, f.alone, f.old⟩
    -- the new handle is the one behind all others
    show (b.handles ++ [place])[handle]? = some place ↔ _
    rw [List.mem_append, List.mem_singleton, ← f.handles, List.getElem?_append]
    split
    · rename_i before
      simp [Nat.ne_of_lt before]
    · rename_i behind
      rw [List.getElem?_eq_none (Nat.le_of_not_lt behind), List.getElem?_singleton]
      simp only [reduceCtorEq, false_or]
      split <;> simp <;> omega
  · rw [if_neg mine]
    have elsewhere : b.entryPlace e ≠ place := fun same => mine ((f.entryPlace_eq_iff e).mp same)
    exact f.of_keeps (.of_handle elsewhere) (Nat.le_refl _)

/-- A step from a board to another one has met what it asked of an entry, and done nothing else
about its item; once the entry was released, it has done nothing about it. -/
structure Meets (b b' : Board) (entry place item : Nat) (lead : String) (own : List Nat)
    (live : Bool) (asked : Option Demand) : Prop where
  /-- The calls about the item. -/
  adds : b.host.Adds item b'.host
    (if live then asked.toList.map (Demand.call item lead) else [])
  /-- Where the entry stands afterwards. -/
  follows : b'.Follows entry place item lead own (live && decide (asked ≠ some .release))

/-- A step that asks for nothing makes no call about the item. -/
theorem Meets.nothing {b' : Board} (adds : b.host.Adds item b'.host [])
    (follows : b'.Follows entry place item lead own live) :
    b.Meets b' entry place item lead own live none where
  adds := by simpa using adds
  follows := by simpa using follows

/-- A step at a place asks for one thing if that is the place of the entry. -/
theorem Meets.one {b' : Board} {q : Nat} {d : Demand} {mine : Prop} [Decidable mine]
    (same : q = place ↔ mine)
    (adds : b.host.Adds item b'.host
      (if q = place ∧ live = true then [d.call item lead] else []))
    (follows : b'.Follows entry place item lead own
      (live && decide (q = place → d ≠ .release))) :
    b.Meets b' entry place item lead own live (if mine then some d else none) := by
  by_cases here : mine
  · have at_ := same.mpr here
    constructor
    · cases live <;> simpa [here, at_] using adds
    · simpa [here, at_] using follows
  · have elsewhere := mt same.mp here
    constructor
    · cases live <;> simpa [here, elsewhere] using adds
    · simpa [here, elsewhere] using follows

/-- **Every operation meets what it asks of an entry.** -/
theorem Follows.apply (f : b.Follows entry place item lead own live) (op : Op α) :
    b.Meets (b.apply op).1 entry place item lead (taken entry own op (b.apply op).2) live
      (demand? entry own op) := by
  have unreleased {b' : Board} {q : Nat} {d : Demand} (other : d ≠ .release)
      (follows : b'.Follows entry place item lead own live) :
      b'.Follows entry place item lead own (live && decide (q = place → d ≠ .release)) := by
    simpa [other] using follows
  have released (e : Nat) : b.Meets (b.disposeAt (b.entryPlace e)).1 entry place item lead own live
      (if e = entry then some .release else none) := by
    obtain ⟨adds, follows⟩ := f.disposed (b.entryPlace e)
    exact .one (f.entryPlace_eq_iff e) adds (by simpa using follows)
  -- an operation on another entry leaves the place alone
  cases op with
  | new lead' =>
      obtain ⟨adds, follows⟩ := f.new (α := α) lead'
      exact .nothing adds follows
  | scope acts =>
      obtain ⟨adds, follows⟩ := f.scope acts
      exact .nothing adds follows
  | handle e => exact .nothing (.refl _ _) (f.handle e)
  | isDisposed e => exact .nothing (.refl _ _) f
  | reveal e =>
      rw [apply_reveal_fst]
      exact .one (f.entryPlace_eq_iff e) (f.called_adds _ _ fun _ => rfl)
        (unreleased (by decide) (f.called _ _))
  | update e message =>
      obtain ⟨adds, follows⟩ := f.updated (α := α) (b.entryPlace e) message
      exact .one (f.entryPlace_eq_iff e) adds (unreleased (by simp) follows)
  | handleUpdate handle message =>
      obtain ⟨adds, follows⟩ := f.updated (α := α) (b.handlePlace handle) message
      exact .one (f.handlePlace_eq_iff handle) adds (unreleased (by simp) follows)
  | dispose e => exact released e
  | drop e => exact released e

/-- What is asked first is met first, and if it was a release, nothing else is. -/
theorem met_append (item : Nat) (lead : String) (asked : Option Demand) (later : List Demand) :
    met item lead (asked.toList ++ later) =
      asked.toList.map (Demand.call item lead) ++
        if asked = some .release then [] else met item lead later := by
  cases asked with
  | none => rfl
  | some d =>
      show met item lead (d :: later) = d.call item lead :: if some d = some .release then [] else _
      simp only [met, Option.some.injEq]

/-- A run begins with its first operation. -/
theorem applyAll_cons (b : Board) (op : Op α) (rest : List (Op α)) :
    b.applyAll (op :: rest) = (((b.apply op).1.applyAll rest).1,
      (b.apply op).2 :: ((b.apply op).1.applyAll rest).2) := rfl

/-- **A run meets what it asks of an entry until its first release.** -/
theorem Follows.applyAll (f : b.Follows entry place item lead own live) (ops : List (Op α)) :
    b.host.Adds item (b.applyAll ops).1.host
      (if live then met item lead (demands entry own (ops.zip (b.applyAll ops).2)) else []) ∧
    ∃ own', (b.applyAll ops).1.Follows entry place item lead own'
      (live && decide (.release ∉ demands entry own (ops.zip (b.applyAll ops).2))) := by
  -- an entry that was released early in the run is followed further, with `live` false
  induction ops generalizing b own live with
  | nil =>
      refine ⟨?_, own, ?_⟩
      · cases live <;> exact .refl _ _
      · simpa [demands, Board.applyAll] using f
  | cons op rest ih =>
      obtain ⟨adds, follows⟩ := f.apply op
      obtain ⟨adds', own', follows'⟩ := ih follows
      have both := adds.trans adds'
      rw [applyAll_cons]
      simp only [List.zip_cons_cons, demands]
      -- what is asked later counts only if the first operation asks for no release
      generalize demands entry (taken entry own op (b.apply op).2)
        (rest.zip ((b.apply op).1.applyAll rest).2) = later at both follows' ⊢
      generalize demand? entry own op = asked at both follows' ⊢
      refine ⟨?_, own', ?_⟩
      · rw [met_append]
        cases live with
        | false => simpa using both
        | true => by_cases last : asked = some .release <;> simpa [last] using both
      · have none_ :
            .release ∉ asked.toList ++ later ↔ asked ≠ some .release ∧ .release ∉ later := by
          rw [List.mem_append, not_or, Option.mem_toList]
        rw [decide_eq_decide.mpr none_, Bool.decide_and, ← Bool.and_assoc]
        exact follows'

/-- Whether it has been released is what an entry answers. -/
theorem Follows.isDisposed_answer (f : b.Follows entry place item lead own live) :
    (b.apply (.isDisposed entry : Op α)).2 = .flag !live := by
  show Answer.flag (b.slot (b.entryPlace entry)).isDisposed = _
  rw [(f.entryPlace_eq_iff entry).mpr rfl, f.slot_eq]
  cases live <;> rfl

/-- A disposal answers whether it has released the entry, unless it breaks down. -/
theorem Follows.dispose_answer (f : b.Follows entry place item lead own live) :
    (b.apply (.dispose entry : Op α)).2 =
      if live then
        if b.host.faults b.host.history (.disposeItem item) then .panic else .flag true
      else .flag false := by
  have at_ : b.slot (b.entryPlace entry) = ⟨lead, if live then some item else none⟩ := by
    rw [(f.entryPlace_eq_iff entry).mpr rfl, f.slot_eq]
  simp only [Board.apply, disposeAt, at_, StatusEntry.dispose]
  cases live with
  | false => rfl
  | true => cases broken : b.host.faults b.host.history (.disposeItem item) <;>
      simp [Host.attempt, broken]

end Steps

/-! ## From its creation on -/

/-- A board without entries on a host that may have been used before. -/
def onHost (host : Host) : Board := ⟨host, [], [], []⟩

/-- The first entry of a board has the next item of the host, with its lead as the text. -/
theorem follows_first {host : Host} {lead : String} {entry : Nat}
    (made : ((onHost host).apply (.new lead : Op α)).2 = .number entry) :
    host.Adds host.nextItem ((onHost host).apply (.new lead : Op α)).1.host
        [.createItem host.nextItem, .setText host.nextItem lead] ∧
      ((onHost host).apply (.new lead : Op α)).1.Follows entry 0 host.nextItem lead [] true := by
  rcases StatusEntry.create_cases host lead with created | created | created
  · simp [apply, onHost, created] at made
  · simp [apply, onHost, created] at made
  · simp only [apply, onHost, created, Answer.number.injEq] at made ⊢
    subst made
    refine ⟨?_, rfl, fun other there => ?_, rfl, fun handle => ?_, fun q e there _ => ?_, ?_⟩
    · have adds := host.adds_after host.nextItem
        [.createItem host.nextItem, .setText host.nextItem lead] 1
      simpa [HostCall.isAbout, HostCall.item?] using adds
    · exact Nat.lt_one_iff.mp (List.getElem?_eq_some_iff.mp there).1
    · simp
    · exact Nat.lt_one_iff.mp (List.getElem?_eq_some_iff.mp there).1
    · exact Nat.lt_succ_self _

/-- **An entry follows its demands until it is released, and never after.** Whatever is done on a
board after an entry was made, through the entry, through handles that were taken from it or
elsewhere, and whichever calls break down: of the calls since then those about its item are its
creation, the lead as its text, one call for each demand that was made before the first disposal or
drop, in order, and then one disposal, if there was any. A further disposal answers whether the item
was still there (unless the host breaks down in it), and the entry calls itself disposed of exactly
from the first one on. -/
theorem entry_follows_its_demands {host : Host} {lead : String} {entry : Nat} (ops : List (Op α))
    (made : ((onHost host).apply (.new lead : Op α)).2 = .number entry) :
    let run := ((onHost host).apply (.new lead : Op α)).1.applyAll ops
    let asked := demands entry [] (ops.zip run.2)
    let item := host.nextItem
    (∃ calls, run.1.host.history = host.history ++ calls ∧
      calls.filter (HostCall.isAbout item) =
        .createItem item :: .setText item lead :: met item lead asked) ∧
    (run.1.apply (.dispose entry : Op α)).2 =
      (if .release ∈ asked then .flag false
        else if host.faults run.1.host.history (.disposeItem item) then .panic
        else .flag true) ∧
    (run.1.apply (.isDisposed entry : Op α)).2 = .flag (decide (.release ∈ asked)) := by
  intro run asked item
  obtain ⟨adds, follows⟩ := follows_first made
  obtain ⟨adds', own, follows'⟩ := follows.applyAll ops
  have all := adds.trans adds'
  refine ⟨all.calls, ?_, ?_⟩
  · rw [follows'.dispose_answer, all.faults]
    by_cases released : .release ∈ asked <;> simp [asked, run, item, released]
  · rw [follows'.isDisposed_answer]
    by_cases released : .release ∈ asked <;> simp [asked, run, released]

/-- A host that was used before and breaks down whenever an item is shown. -/
def shyHost : Host := ⟨fun _ call => call matches .showItem _, [.createItem 0], 1⟩

/-- Two entries with a handle each are used in turn; the first one is disposed of, used through its
handle and itself, and given up. -/
def sharedUse : List (Op Unit) :=
  [.reveal 0, .handle 0, .new "other", .handle 1, .handleUpdate 0 "one", .handleUpdate 1 "two",
    .update 1 "three", .dispose 0, .handleUpdate 0 "late", .reveal 0, .drop 0]

/-- Showing breaks down but is a call; what comes after the disposal is not. -/
theorem entry_follows_its_demands_shared :
    let start := (onHost shyHost).apply (.new "lead" : Op Unit)
    let run := start.1.applyAll sharedUse
    start.2 = .number 0 ∧
    (∃ calls, run.1.host.history = [.createItem 0] ++ calls ∧
      calls.filter (HostCall.isAbout 1) =
        [.createItem 1, .setText 1 "lead", .showItem 1, .setText 1 "lead one", .disposeItem 1]) ∧
    (run.1.apply (.dispose 0 : Op Unit)).2 = .flag false ∧
    (run.1.apply (.isDisposed 0 : Op Unit)).2 = .flag true := by
  intro start run
  have made : start.2 = .number 0 := rfl
  obtain ⟨calls, disposal, disposed⟩ := entry_follows_its_demands sharedUse made
  exact ⟨made, calls, disposal, disposed⟩

end Board

end ToolingHost
