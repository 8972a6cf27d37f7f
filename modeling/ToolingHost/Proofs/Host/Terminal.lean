import Mathlib.Data.List.Induction
import Mathlib.Data.List.Nodup
import ToolingHost.Host.Terminal

/-! # What the terminal writes and keeps

A status item of the terminal is a text and a flag, and what is written for it could be told from
its uses alone: looking back on the uses before, one sees which text was set last and whether the
item was shown since it was disposed of (`TerminalItem.line?`). So the lines are those of
`TerminalItem.line?` in order, whatever else the terminal is told in between
(`TerminalHost.written_eq_lines`). Up to the first disposal they are what the contract of a status
item promises, and behind it they are not if the item is shown again
(`TerminalHost.promise_kept_unless_shown_again`).

Of the editing rules and the registrations it is told, the terminal keeps for each language the last
rules, in the order of the last times, and every debug type (`TerminalHost.keeps_what_it_was_told`).
-/

namespace ToolingHost

/-! ## Uses of a status item -/

namespace TerminalItem

/-- Something that is done to a status item. -/
inductive Use where
  /-- It is shown. -/
  | reveal
  /-- Its text is set. -/
  | setText (text : String)
  /-- It is disposed of. -/
  | dispose
  deriving DecidableEq, Repr

/-- The text that a use sets. -/
def Use.text? : Use → Option String
  | .setText text => some text
  | .reveal | .dispose => none

/-- Whether a use shows or hides the item. -/
def Use.turns : Use → Bool
  | .reveal | .dispose => true
  | .setText _ => false

/-- The text after some uses is the one that was set last. -/
def textAfter (before : List Use) : String := (before.filterMap Use.text?).getLast?.getD ""

/-- An item is shown after some uses if the last of them that turned it showed it. -/
def shownAfter (before : List Use) : Bool := (before.filter Use.turns).getLast? == some .reveal

/-- The line that is written for a use after others: for a showing the text, if there is one, and
for a text the text, if the item is shown. -/
def line? (before : List Use) : Use → Option String
  | .reveal => if textAfter before = "" then none else some (textAfter before)
  | .setText text => if shownAfter before then some text else none
  | .dispose => none

/-- The line that the contract of a status item promises: before the first disposal for a showing
the text, if there is one, and for a text the text, if the item was shown before; behind it none. -/
def promised? (before : List Use) (use : Use) : Option String :=
  if .dispose ∈ before then none
  else match use with
    | .reveal => if textAfter before = "" then none else some (textAfter before)
    | .setText text => if .reveal ∈ before then some text else none
    | .dispose => none

/-- The lines for uses that come after others, by a rule for one use. -/
def linesBy (rule : List Use → Use → Option String) (before : List Use) : List Use → List String
  | [] => []
  | use :: rest => (rule before use).toList ++ linesBy rule (before ++ [use]) rest

/-- The item after one more use. -/
def used (item : TerminalItem) : Use → TerminalItem
  | .reveal => { item with visible := true }
  | .setText text => { item with text }
  | .dispose => { item with visible := false }

/-- An item knows of its uses which text was set last and whether it is shown. -/
theorem used_after (before : List Use) (use : Use) :
    used ⟨textAfter before, shownAfter before⟩ use =
      ⟨textAfter (before ++ [use]), shownAfter (before ++ [use])⟩ := by
  cases use <;> simp [used, textAfter, shownAfter, Use.text?, Use.turns]

/-- As long as an item was not disposed of, it is shown if it was shown at all. -/
theorem shownAfter_iff_mem {before : List Use} (kept : .dispose ∉ before) :
    shownAfter before = true ↔ .reveal ∈ before := by
  have only : ∀ use ∈ before.filter Use.turns, use = .reveal := by
    intro use there
    obtain ⟨there, turns⟩ := List.mem_filter.mp there
    cases use with
    | reveal => rfl
    | setText => cases turns
    | dispose => exact absurd there kept
  rw [shownAfter, beq_iff_eq]
  constructor
  · intro last
    exact (List.mem_filter.mp (List.mem_of_getLast? last)).1
  · intro there
    have turned : .reveal ∈ before.filter Use.turns := List.mem_filter.mpr ⟨there, rfl⟩
    cases last : (before.filter Use.turns).getLast? with
    | none =>
        rw [List.getLast?_eq_none_iff.mp last] at turned
        cases turned
    | some use => rw [only use (List.mem_of_getLast? last)]

/-- Behind a disposal no line is promised. -/
theorem promised?_eq_none {before : List Use} (gone : .dispose ∈ before) (use : Use) :
    promised? before use = none := if_pos gone

/-- Before the first disposal the promise is kept. -/
theorem line?_eq_promised? {before : List Use} (kept : .dispose ∉ before) (use : Use) :
    line? before use = promised? before use := by
  unfold promised?
  rw [if_neg kept]
  cases use with
  | setText text => simp only [line?, shownAfter_iff_mem kept]
  | reveal | dispose => rfl

section LinesBy

variable {rule rule' : List Use → Use → Option String}

/-- What a rule gives, if it gives some lines of another one, is a part of what that gives. -/
theorem toList_sublist {line line' : Option String} (part : line' = none ∨ line' = line) :
    line'.toList.Sublist line.toList := by
  rcases part with rfl | rfl
  · exact List.nil_sublist _
  · exact List.Sublist.refl _

/-- Fewer lines by a rule are fewer lines. -/
theorem linesBy_sublist (part : ∀ before use, rule' before use = none ∨
      rule' before use = rule before use) (before uses : List Use) :
    (linesBy rule' before uses).Sublist (linesBy rule before uses) := by
  induction uses generalizing before with
  | nil => exact List.Sublist.refl _
  | cons use rest ih => exact (toList_sublist (part before use)).append (ih _)

/-- Fewer lines are all lines only if they are for the first use and for the rest. -/
theorem linesBy_cons_eq_iff (part : ∀ before use, rule' before use = none ∨
      rule' before use = rule before use) (before : List Use) (use : Use) (rest : List Use) :
    linesBy rule before (use :: rest) = linesBy rule' before (use :: rest) ↔
      rule before use = rule' before use ∧
        linesBy rule (before ++ [use]) rest = linesBy rule' (before ++ [use]) rest := by
  constructor
  · intro same
    simp only [linesBy] at same
    -- the rest cannot make up for a line that is missing at first
    have fewer := (linesBy_sublist part (before ++ [use]) rest).length_le
    have lengths := congrArg List.length same
    rw [List.length_append, List.length_append] at lengths
    have first := (toList_sublist (part before use)).eq_of_length_le (by omega)
    have now : rule before use = rule' before use := by
      rcases part before use with none_ | same'
      · rw [none_, Option.toList_none, eq_comm, Option.toList_eq_nil_iff] at first
        rw [first, none_]
      · exact same'.symm
    rw [now, List.append_cancel_left_eq] at same
    exact ⟨now, same⟩
  · rintro ⟨now, later⟩
    rw [linesBy, linesBy, now, later]

/-- A rule that gives some lines of another one gives them all exactly if it does so for every use.
-/
theorem linesBy_eq_iff (part : ∀ before use, rule' before use = none ∨
      rule' before use = rule before use) (before uses : List Use) :
    linesBy rule before uses = linesBy rule' before uses ↔
      ∀ early use late, uses = early ++ use :: late →
        rule (before ++ early) use = rule' (before ++ early) use := by
  induction uses generalizing before with
  | nil => simp [linesBy]
  | cons use rest ih =>
      rw [linesBy_cons_eq_iff part, ih]
      constructor
      · rintro ⟨now, later⟩ early use' late split
        -- the use at hand, or one behind it
        cases early with
        | nil =>
            obtain ⟨rfl, -⟩ := List.cons.inj split
            rwa [List.append_nil]
        | cons first early =>
            obtain ⟨rfl, rfl⟩ := List.cons.inj split
            rw [List.append_cons]
            exact later early use' late rfl
      · intro all
        have now := all [] use rest rfl
        rw [List.append_nil] at now
        refine ⟨now, fun early use' late split => ?_⟩
        rw [split] at all
        have there := all (use :: early) use' late rfl
        rwa [List.append_cons] at there

end LinesBy

/-- The promise is kept exactly if no showing behind a disposal finds a text, and no text is set
behind one while the item is shown again. -/
theorem promise_kept_iff (uses : List Use) :
    linesBy line? [] uses = linesBy promised? [] uses ↔
      (∀ early late, uses = early ++ .reveal :: late → .dispose ∈ early → textAfter early = "") ∧
      (∀ early text late, uses = early ++ .setText text :: late → .dispose ∈ early →
        shownAfter early = false) := by
  have part (before : List Use) (use : Use) :
      promised? before use = none ∨ promised? before use = line? before use := by
    by_cases gone : .dispose ∈ before
    · exact .inl (promised?_eq_none gone use)
    · exact .inr (line?_eq_promised? gone use).symm
  rw [linesBy_eq_iff part]
  simp only [List.nil_append]
  constructor
  · intro kept
    refine ⟨fun early late split gone => ?_, fun early text late split gone => ?_⟩
    · have none_ := kept early _ late split
      rw [promised?_eq_none gone] at none_
      simpa [line?] using none_
    · have none_ := kept early _ late split
      rw [promised?_eq_none gone] at none_
      simpa [line?] using none_
  · rintro ⟨textless, hidden⟩ early use late split
    -- behind a disposal nothing is promised, so nothing may be written there
    by_cases gone : .dispose ∈ early
    · rw [promised?_eq_none gone]
      cases use with
      | reveal => rw [line?, if_pos (textless early late split gone)]
      | setText text => simp [line?, hidden early text late split gone]
      | dispose => rfl
    · exact line?_eq_promised? gone use

end TerminalItem

namespace TerminalHost

open TerminalItem

/-! ## What is written for a status item -/

/-- What a call does to a status item. -/
def use? (n : Nat) : HostCall → Option Use
  | .showItem m => if m = n then some .reveal else none
  | .setText m text => if m = n then some (.setText text) else none
  | .disposeItem m => if m = n then some .dispose else none
  | .createItem _ | .setLanguage _ _ | .registerDebugAdapter _ => none

/-- What is written for the calls that use a status item, in order. -/
def written (n : Nat) (t : TerminalHost) : List HostCall → List Log.Record
  | [] => []
  | call :: rest =>
    (if (use? n call).isSome then (t.receive call).2 else []) ++ written n (t.receive call).1 rest

section Item

variable {t : TerminalHost} {n : Nat} {call : HostCall}

/-- Setting a status item decides what it is, and leaves the others alone. -/
theorem item_setItem (t : TerminalHost) (m n : Nat) (new : TerminalItem) :
    (t.setItem m new).item n = if n = m then new else t.item n := by
  show (((m, new) :: t.items.filter fun entry => entry.1 != m).lookup n).getD ⟨"", false⟩ = _
  rw [List.lookup_cons]
  by_cases same : n = m
  · simp [same]
  · have kept : (t.items.filter fun entry => entry.1 != m).lookup n = t.items.lookup n := by
      induction t.items with
      | nil => rfl
      | cons entry rest ih =>
          obtain ⟨k, other⟩ := entry
          by_cases dropped : k = m
          · subst dropped
            have elsewhere : (n == k) = false := beq_eq_false_iff_ne.mpr same
            simp only [List.filter_cons, bne_self_eq_false, Bool.false_eq_true, if_false, ih,
              List.lookup_cons, elsewhere]
          · have passed : (k != m) = true := bne_iff_ne.mpr dropped
            simp only [List.filter_cons, passed, if_true, List.lookup_cons, ih]
    rw [if_neg same, beq_eq_false_iff_ne.mpr same]
    exact congrArg (Option.getD · _) kept

/-- A status item becomes what a use makes it, and other calls than its creation leave it alone. -/
theorem item_receive (t : TerminalHost) (created : call ≠ .createItem n) :
    (t.receive call).1.item n = ((use? n call).elim (t.item n) (t.item n).used) := by
  cases call with
  | setLanguage | registerDebugAdapter => rfl
  | createItem m =>
      have other : n ≠ m := fun same => created (same ▸ rfl)
      simp only [receive, use?, item_setItem, if_neg other, Option.elim_none]
  | setText m text | showItem m | disposeItem m =>
      simp only [receive, use?, item_setItem]
      by_cases same : m = n
      · subst same
        simp [used]
      · simp [same, Ne.symm same]

/-- A use writes the line that can be told from the uses before. -/
theorem records_receive {before : List Use} {use : Use} (used : use? n call = some use)
    (known : t.item n = ⟨textAfter before, shownAfter before⟩) :
    (t.receive call).2 = (line? before use).toList.map statusRecord := by
  cases call with
  | setLanguage | registerDebugAdapter | createItem => cases used
  | setText m text | showItem m =>
      simp only [use?, Option.ite_none_right_eq_some, Option.some.injEq] at used
      obtain ⟨rfl, rfl⟩ := used
      simp only [receive, known, line?, String.isEmpty_iff]
      split <;> rfl
  | disposeItem m =>
      simp only [use?, Option.ite_none_right_eq_some, Option.some.injEq] at used
      obtain ⟨rfl, rfl⟩ := used
      rfl

/-- What is written for an item are the lines that can be told from its uses. -/
theorem written_eq_lines {calls : List HostCall} (once : .createItem n ∉ calls)
    {before : List Use} (known : t.item n = ⟨textAfter before, shownAfter before⟩) :
    written n t calls =
      (linesBy line? before (calls.filterMap (use? n))).map statusRecord := by
  -- what is known of the item is the invariant: every use keeps it, and other calls do
  induction calls generalizing t before with
  | nil => rfl
  | cons call rest ih =>
      rw [List.mem_cons, not_or] at once
      have next := item_receive t (Ne.symm once.1)
      rw [known] at next
      unfold written
      cases used : use? n call with
      | none =>
          rw [used] at next
          rw [List.filterMap_cons_none used, ih once.2 next]
          rfl
      | some use =>
          rw [used, Option.elim_some, used_after] at next
          rw [List.filterMap_cons_some used, ih once.2 next, records_receive used known]
          simp [linesBy]

end Item

/-- **The lines of a status item are promised until it is disposed of, and then come again if it is
shown again.** Whatever else the terminal is told after an item was created: what is written for the
calls that use it are, in order, the current text for each showing that finds one and the new text
for each text that is set while the item is shown, which before the first disposal is what the
contract promises. Nothing is written behind the first disposal, as the contract demands, exactly if
no later showing finds a text and no text is set while the item is shown again. -/
theorem promise_kept_unless_shown_again (t : TerminalHost) (n : Nat) {calls : List HostCall}
    (once : .createItem n ∉ calls) :
    let uses := calls.filterMap (use? n)
    let lines := written n (t.receive (.createItem n)).1 calls
    lines = (linesBy line? [] uses).map statusRecord ∧
    (∀ before use, .dispose ∉ before → line? before use = promised? before use) ∧
    (lines = (linesBy promised? [] uses).map statusRecord ↔
      (∀ early late, uses = early ++ .reveal :: late → .dispose ∈ early → textAfter early = "") ∧
      (∀ early text late, uses = early ++ .setText text :: late → .dispose ∈ early →
        shownAfter early = false)) := by
  intro uses lines
  have fresh : (t.receive (.createItem n)).1.item n = ⟨textAfter [], shownAfter []⟩ := by
    show (t.setItem n ⟨"", false⟩).item n = _
    rw [item_setItem, if_pos rfl]
    rfl
  have told : lines = (linesBy line? [] uses).map statusRecord := written_eq_lines once fresh
  refine ⟨told, fun before use kept => line?_eq_promised? kept use, ?_⟩
  have apart : Function.Injective statusRecord := by
    intro text text' same
    exact (Log.Record.mk.inj same).2.2.1
  rw [told, (List.map_injective_iff.mpr apart).eq_iff]
  exact promise_kept_iff uses

/-- An item that is shown when it has been disposed of writes its text, which nobody promised. -/
theorem shown_again_after_disposal :
    let calls : List HostCall := [.setText 0 "done", .disposeItem 0, .showItem 0]
    let lines := written 0 (fresh.receive (.createItem 0)).1 calls
    lines = [statusRecord "done"] ∧
      linesBy promised? [] (calls.filterMap (use? 0)) = [] ∧
      lines ≠ (linesBy promised? [] (calls.filterMap (use? 0))).map statusRecord := by
  intro calls lines
  have line : lines = [statusRecord "done"] := rfl
  have promised : linesBy promised? [] (calls.filterMap (use? 0)) = [] := rfl
  refine ⟨line, promised, ?_⟩
  rw [line, promised]
  exact List.cons_ne_nil _ _

/-- Two items are used in turn, and the first one is shown again behind its disposal. -/
def usedInTurn : List HostCall :=
  [.setText 0 "a", .createItem 1, .showItem 0, .setText 1 "b", .setText 0 "c", .showItem 1,
    .disposeItem 0, .setText 0 "d", .setText 1 "e", .showItem 0]

/-- The lines of the first one are its own, and the last one of them is not promised. -/
theorem promise_kept_unless_shown_again_in_turn :
    .createItem 0 ∉ usedInTurn ∧
      written 0 (fresh.receive (.createItem 0)).1 usedInTurn = ["a", "c", "d"].map statusRecord ∧
      written 0 (fresh.receive (.createItem 0)).1 usedInTurn ≠
        (linesBy promised? [] (usedInTurn.filterMap (use? 0))).map statusRecord := by
  have once : .createItem 0 ∉ usedInTurn := by simp [usedInTurn]
  obtain ⟨told, -, kept⟩ := promise_kept_unless_shown_again fresh 0 once
  refine ⟨once, told, fun same => ?_⟩
  have textless := (kept.mp same).1
    [.setText "a", .reveal, .setText "c", .dispose, .setText "d"] [] rfl (by decide)
  exact absurd textless (by decide)

/-! ## What the terminal is told -/

/-- The rules of a language were last set to these. -/
def LastSet (calls : List HostCall) (language : String) (rules : LanguageRules) : Prop :=
  ∃ before after, calls = before ++ .setLanguage language rules :: after ∧
    ∀ other, .setLanguage language other ∉ after

/-- The rules of one language were last set before those of another one: at some point the former
are not set any more, and the latter are. -/
def LastSetBefore (calls : List HostCall) (first second : String) : Prop :=
  ∃ before after, calls = before ++ after ∧ (∃ rules, .setLanguage first rules ∈ before) ∧
    (∀ rules, .setLanguage first rules ∉ after) ∧ ∃ rules, .setLanguage second rules ∈ after

/-- The debug type that a call registers. -/
def debugType? : HostCall → Option String
  | .registerDebugAdapter r => some r.debugType
  | _ => none

/-- What the terminal keeps of what it was told. -/
structure Recalls (calls : List HostCall) (t : TerminalHost) : Prop where
  /-- Each language is there once. -/
  once : (t.languages.map Prod.fst).Nodup
  /-- It has the rules that were last set. -/
  rules : ∀ language rules, (language, rules) ∈ t.languages ↔ LastSet calls language rules
  /-- The languages are in the order of the last times. -/
  order : (t.languages.map Prod.fst).Pairwise (LastSetBefore calls)
  /-- Every debug type is there, in order. -/
  types : t.debugTypes = calls.filterMap debugType?

section Recalls

variable {calls : List HostCall} {t : TerminalHost} {call : HostCall} {first second : String}
  {language : String} {rules : LanguageRules}

/-- Rules that were last set were set. -/
theorem LastSet.mem (last : LastSet calls language rules) :
    .setLanguage language rules ∈ calls := by
  obtain ⟨before, after, rfl, -⟩ := last
  exact List.mem_append_right _ List.mem_cons_self

/-- One more call sets the rules of its language last, and leaves the other languages alone. -/
theorem lastSet_concat_iff :
    LastSet (calls ++ [call]) language rules ↔
      call = .setLanguage language rules ∨
        LastSet calls language rules ∧ ∀ other, call ≠ .setLanguage language other := by
  constructor
  · rintro ⟨before, after, split, none_⟩
    -- either the new call is the one that was last, or it is among those behind it
    rcases List.eq_nil_or_concat after with rfl | ⟨after, last, rfl⟩
    · obtain ⟨-, same⟩ := List.append_inj' split rfl
      exact .inl (List.cons.inj same).1
    · rw [List.concat_eq_append] at split none_
      rw [← List.cons_append, ← List.append_assoc] at split
      obtain ⟨earlier, same⟩ := List.append_inj' split rfl
      obtain ⟨rfl, -⟩ := List.cons.inj same
      refine .inr ⟨⟨before, after, earlier, fun other there => ?_⟩, fun other same => ?_⟩
      · exact none_ other (List.mem_append_left _ there)
      · exact none_ other (List.mem_append_right _ (List.mem_singleton.mpr same.symm))
  · rintro (rfl | ⟨⟨before, after, rfl, none_⟩, other⟩)
    · exact ⟨calls, [], rfl, fun _ => List.not_mem_nil⟩
    · refine ⟨before, after ++ [call], by simp, fun rules' there => ?_⟩
      rcases List.mem_append.mp there with there | there
      · exact none_ rules' there
      · exact other rules' (List.mem_singleton.mp there).symm

/-- If the rules of a language were set, some were set last. -/
theorem exists_lastSet (set : .setLanguage language rules ∈ calls) :
    ∃ last, LastSet calls language last := by
  induction calls using List.reverseRecOn generalizing rules with
  | nil => cases set
  | append_singleton calls call ih =>
      by_cases now : ∃ last, call = .setLanguage language last
      · obtain ⟨last, rfl⟩ := now
        exact ⟨last, lastSet_concat_iff.mpr (.inl rfl)⟩
      · have before : .setLanguage language rules ∈ calls := by
          rcases List.mem_append.mp set with before | set
          · exact before
          · exact absurd ⟨rules, (List.mem_singleton.mp set).symm⟩ now
        obtain ⟨last, there⟩ := ih before
        exact ⟨last, lastSet_concat_iff.mpr (.inr ⟨there, fun other same => now ⟨other, same⟩⟩)⟩

/-- Which of two languages comes first does not change with a call that does not set the former. -/
theorem LastSetBefore.concat (before : LastSetBefore calls first second)
    (other : ∀ rules, call ≠ .setLanguage first rules) :
    LastSetBefore (calls ++ [call]) first second := by
  obtain ⟨early, late, rfl, set, none_, rules, there⟩ := before
  refine ⟨early, late ++ [call], by rw [List.append_assoc], set, fun rules there => ?_,
    rules, List.mem_append_left _ there⟩
  rcases List.mem_append.mp there with there | there
  · exact none_ rules there
  · exact other rules (List.mem_singleton.mp there).symm

/-- The language of a call that sets one comes behind all others. -/
theorem lastSetBefore_concat (set : LastSet calls first rules) (other : first ≠ second)
    (rules' : LanguageRules) :
    LastSetBefore (calls ++ [.setLanguage second rules']) first second := by
  refine ⟨calls, [.setLanguage second rules'], rfl, ⟨rules, set.mem⟩, fun again there => ?_,
    rules', List.mem_singleton_self _⟩
  exact other (HostCall.setLanguage.inj (List.mem_singleton.mp there)).1

/-- A call that sets no rules leaves the languages as they are. -/
theorem Recalls.of_other (r : Recalls calls t) {t' : TerminalHost}
    (other : ∀ language rules, call ≠ .setLanguage language rules)
    (languages : t'.languages = t.languages)
    (types : t'.debugTypes = t.debugTypes ++ (debugType? call).toList) :
    Recalls (calls ++ [call]) t' where
  once := languages ▸ r.once
  rules := by
    intro language rules
    rw [languages, r.rules, lastSet_concat_iff]
    constructor
    · intro last
      exact .inr ⟨last, other language⟩
    · rintro (same | ⟨last, -⟩)
      · exact absurd same (other language rules)
      · exact last
  order := languages ▸ r.order.imp fun before => before.concat (other _)
  types := by
    rw [types, r.types, List.filterMap_append]
    cases h : debugType? call <;> simp [h]

/-- The languages besides one have other names, and their rules were set. -/
theorem Recalls.of_mem_others (r : Recalls calls t) {other : String}
    (there : other ∈ (t.languages.filter fun entry => entry.1 != language).map Prod.fst) :
    other ≠ language ∧ ∃ last, LastSet calls other last := by
  obtain ⟨⟨name, last⟩, found, rfl⟩ := List.mem_map.mp there
  obtain ⟨found, passed⟩ := List.mem_filter.mp found
  exact ⟨bne_iff_ne.mp passed, last, (r.rules name last).mp found⟩

/-- New rules put their language behind the others. -/
theorem names_setLanguage (t : TerminalHost) (language : String) (rules : LanguageRules) :
    (t.receive (.setLanguage language rules)).1.languages.map Prod.fst =
      (t.languages.filter fun entry => entry.1 != language).map Prod.fst ++ [language] := by
  rw [TerminalHost.receive, List.map_append, List.map_singleton]

/-- The terminal recalls new rules, and of the old ones those of other languages. -/
theorem Recalls.of_rules (r : Recalls calls t) (language : String) (rules : LanguageRules) :
    Recalls (calls ++ [.setLanguage language rules])
      (t.receive (.setLanguage language rules)).1 := by
  have fewer : ((t.languages.filter fun entry => entry.1 != language).map Prod.fst).Sublist
      (t.languages.map Prod.fst) := List.filter_sublist.map Prod.fst
  constructor
  · -- the language was taken out before it is added
    rw [names_setLanguage, List.nodup_append]
    refine ⟨r.once.sublist fewer, List.nodup_singleton _, fun other there name mine => ?_⟩
    rw [List.mem_singleton.mp mine]
    exact (r.of_mem_others there).1
  · intro other last
    show (other, last) ∈
      (t.languages.filter fun entry => entry.1 != language) ++ [(language, rules)] ↔ _
    rw [List.mem_append, List.mem_filter, List.mem_singleton, r.rules, lastSet_concat_iff,
      Prod.mk.injEq, bne_iff_ne, HostCall.setLanguage.injEq, or_comm]
    refine or_congr ⟨?_, ?_⟩ (and_congr_right fun _ => ⟨?_, ?_⟩)
    · rintro ⟨rfl, rfl⟩
      exact ⟨rfl, rfl⟩
    · rintro ⟨rfl, rfl⟩
      exact ⟨rfl, rfl⟩
    · intro different again same
      exact different (HostCall.setLanguage.inj same).1.symm
    · rintro different rfl
      exact different rules rfl
  · -- the others keep their order, and all of them were last set before this call
    rw [names_setLanguage, List.pairwise_append]
    refine ⟨(r.order.sublist fewer).imp_of_mem fun there _ before => ?_,
      List.pairwise_singleton _ _, fun other there name mine => ?_⟩
    · refine before.concat fun again same => (r.of_mem_others there).1 ?_
      exact (HostCall.setLanguage.inj same).1.symm
    · rw [List.mem_singleton.mp mine]
      obtain ⟨different, last, set⟩ := r.of_mem_others there
      exact lastSetBefore_concat set different rules
  · rw [List.filterMap_append]
    show t.debugTypes = _ ++ []
    rw [List.append_nil, r.types]

/-- **The terminal recalls every call.** -/
theorem Recalls.receive (r : Recalls calls t) (call : HostCall) :
    Recalls (calls ++ [call]) (t.receive call).1 := by
  cases call with
  | setLanguage language rules => exact r.of_rules language rules
  | createItem | setText | showItem | disposeItem | registerDebugAdapter =>
      refine r.of_other (fun _ _ => HostCall.noConfusion) rfl ?_
      simp [TerminalHost.receive, debugType?, setItem]

/-- One more call is the last one that the terminal receives. -/
theorem receiveAll_concat_fst (t : TerminalHost) (calls : List HostCall) (call : HostCall) :
    (t.receiveAll (calls ++ [call])).1 = ((t.receiveAll calls).1.receive call).1 := by
  induction calls generalizing t with
  | nil => rfl
  | cons first rest ih => exact ih (t.receive first).1

/-- A terminal that has received some calls recalls them. -/
theorem recalls_receiveAll (calls : List HostCall) :
    Recalls calls (fresh.receiveAll calls).1 := by
  induction calls using List.reverseRecOn with
  | nil =>
      refine ⟨List.nodup_nil, fun language rules => ?_, List.Pairwise.nil, rfl⟩
      constructor
      · intro there
        cases there
      · intro last
        cases last.mem
  | append_singleton calls call ih =>
      rw [receiveAll_concat_fst]
      exact ih.receive call

end Recalls

/-- **The terminal keeps what it was told last of every language, and every debug type.** After any
calls its languages are those whose rules were set, each once, in the order of the last times, each
with the rules of the last time; and its debug types are those of all registrations in order,
whether or not these could be written into the log. Setting rules leaves the debug types as they
are, and a registration leaves the languages. -/
theorem keeps_what_it_was_told (calls : List HostCall) :
    let t := (fresh.receiveAll calls).1
    (t.languages.map Prod.fst).Nodup ∧
    (∀ language, language ∈ t.languages.map Prod.fst ↔
      ∃ rules, .setLanguage language rules ∈ calls) ∧
    (t.languages.map Prod.fst).Pairwise (LastSetBefore calls) ∧
    (∀ language rules, (language, rules) ∈ t.languages ↔ LastSet calls language rules) ∧
    t.debugTypes = calls.filterMap debugType? ∧
    (∀ language rules, (t.receive (.setLanguage language rules)).1.debugTypes = t.debugTypes) ∧
    (∀ r, (t.receive (.registerDebugAdapter r)).1.languages = t.languages) := by
  intro t
  have recalls : Recalls calls t := recalls_receiveAll calls
  refine ⟨recalls.once, fun language => ?_, recalls.order, recalls.rules, recalls.types,
    fun _ _ => rfl, fun _ => rfl⟩
  constructor
  · intro there
    obtain ⟨⟨name, rules⟩, found, rfl⟩ := List.mem_map.mp there
    exact ⟨rules, ((recalls.rules name rules).mp found).mem⟩
  · rintro ⟨rules, set⟩
    obtain ⟨last, there⟩ := exists_lastSet set
    exact List.mem_map.mpr ⟨(language, last), (recalls.rules language last).mpr there, rfl⟩

end TerminalHost

end ToolingHost
