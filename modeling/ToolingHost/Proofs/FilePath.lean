import Mathlib.Data.List.DropRight
import ToolingHost.FilePath

/-! # Parts of paths

A byte string is what its parts make when they are joined with the separator between them, and it is
cut into the parts again. A path is its lead and its parts; its parent is the lead with the parts
before the last component, and without those before that which are no components
(`FilePath.parent?_cases`). -/

namespace ToolingHost

namespace Bytes

variable {separator : UInt8} {part left right : Bytes}

/-- There is always a part. -/
theorem cut_ne_nil (separator : UInt8) (bytes : Bytes) : cut separator bytes ≠ [] := by
  cases bytes with
  | nil => simp [cut]
  | cons b rest =>
      rw [cut]
      split
      · simp
      · split <;> simp

/-- What stands before a separator and what stands behind it are cut apart. -/
theorem cut_append_separator (separator : UInt8) (left right : Bytes) :
    cut separator (left ++ separator :: right) = cut separator left ++ cut separator right := by
  induction left with
  | nil => simp [cut]
  | cons b rest ih =>
      rw [List.cons_append, cut, cut]
      split
      · rw [ih, List.cons_append]
      · rw [ih]
        obtain ⟨part, parts, cut_⟩ := List.exists_cons_of_ne_nil (cut_ne_nil separator rest)
        rw [cut_]
        rfl

/-- No part holds a separator. -/
theorem separator_notMem_of_mem_cut {bytes : Bytes} (h : part ∈ cut separator bytes) :
    separator ∉ part := by
  induction bytes generalizing part with
  | nil =>
      rw [List.mem_singleton.mp h]
      exact List.not_mem_nil
  | cons b rest ih =>
      rw [cut] at h
      split at h
      next =>
        rcases List.mem_cons.mp h with rfl | h
        · exact List.not_mem_nil
        · exact ih h
      next other =>
        obtain ⟨first, parts, cut_⟩ := List.exists_cons_of_ne_nil (cut_ne_nil separator rest)
        rw [cut_] at h ih
        rcases List.mem_cons.mp h with rfl | h
        · rw [List.mem_cons, not_or]
          exact ⟨Ne.symm other, ih (List.mem_cons_self ..)⟩
        · exact ih (List.mem_cons_of_mem _ h)

/-- Without a separator there is one part. -/
theorem cut_of_notMem (plain : separator ∉ part) : cut separator part = [part] := by
  induction part with
  | nil => rfl
  | cons b rest ih =>
      rw [List.mem_cons, not_or] at plain
      rw [cut, if_neg (Ne.symm plain.1), ih plain.2]

end Bytes

namespace FilePath

open Bytes (cut)

/-- One part is joined to nothing. -/
@[simp] theorem joinParts_singleton (part : Bytes) : joinParts [part] = part := by
  simp [joinParts]

/-- A part is joined to those behind it. -/
theorem joinParts_cons (part next : Bytes) (rest : List Bytes) :
    joinParts (part :: next :: rest) = part ++ separator :: joinParts (next :: rest) := by
  simp [joinParts, List.intercalate]

/-- Parts are joined to those behind them. -/
theorem joinParts_append {front back : List Bytes} (some_ : front ≠ []) (more : back ≠ []) :
    joinParts (front ++ back) = joinParts front ++ separator :: joinParts back := by
  induction front with
  | nil => exact absurd rfl some_
  | cons part rest ih =>
      cases rest with
      | nil =>
          obtain ⟨next, rest, rfl⟩ := List.exists_cons_of_ne_nil more
          rw [joinParts_singleton]
          exact joinParts_cons part next rest
      | cons next rest =>
          calc joinParts (part :: next :: (rest ++ back))
              = part ++ separator :: joinParts (next :: rest ++ back) := joinParts_cons part next _
            _ = part ++ separator :: joinParts (next :: rest) ++ separator :: joinParts back := by
                rw [ih (List.cons_ne_nil _ _), List.append_assoc, List.cons_append]
            _ = joinParts (part :: next :: rest) ++ separator :: joinParts back := by
                rw [joinParts_cons]

/-- The parts of a name, joined, are the name. -/
theorem joinParts_cut (bytes : Bytes) : joinParts (cut separator bytes) = bytes := by
  induction bytes with
  | nil => rfl
  | cons b rest ih =>
      obtain ⟨part, parts, cut_⟩ := List.exists_cons_of_ne_nil (Bytes.cut_ne_nil separator rest)
      rw [cut]
      split
      next here =>
        rw [cut_] at ih ⊢
        rw [joinParts_cons, ih, here, List.nil_append]
      next other =>
        rw [cut_] at ih ⊢
        dsimp only
        cases parts with
        | nil => simpa using ih
        | cons next more =>
            rw [joinParts_cons] at ih ⊢
            rw [List.cons_append, ih]

/-- Joined parts without separators are cut apart again. -/
theorem cut_joinParts {parts : List Bytes} (some_ : parts ≠ [])
    (plain : ∀ part ∈ parts, separator ∉ part) : cut separator (joinParts parts) = parts := by
  induction parts with
  | nil => exact absurd rfl some_
  | cons part rest ih =>
      obtain ⟨first, others⟩ := List.forall_mem_cons.mp plain
      cases rest with
      | nil => simpa using Bytes.cut_of_notMem first
      | cons next more =>
          rw [joinParts_cons, Bytes.cut_append_separator, Bytes.cut_of_notMem first,
            ih (List.cons_ne_nil _ _) others, List.singleton_append]

/-! ## The parent of a path -/

variable {p q : FilePath}

/-- What stands before the components of a name, and what follows it. -/
inductive Leads : (lead body : Bytes) → Prop where
  /-- Nothing. -/
  | nothing (body : Bytes) : Leads [] body
  /-- The root. -/
  | root (body : Bytes) : Leads [separator] body
  /-- A `.` that is all of the name. -/
  | dot : Leads [dot] []
  /-- A `.` before a separator. -/
  | dots (body : Bytes) : Leads [dot] (separator :: body)

/-- A name is its lead and its parts. -/
theorem lead_append (p : FilePath) : p.bytes = p.lead ++ joinParts p.parts := by
  rw [parts, joinParts_cut]
  obtain ⟨bytes⟩ := p
  cases bytes with
  | nil => rfl
  | cons b rest =>
      simp only [lead]
      split
      · rfl
      · split <;> rfl

/-- No part of a name holds a separator. -/
theorem separator_notMem {p : FilePath} {part : Bytes} (h : part ∈ p.parts) : separator ∉ part :=
  Bytes.separator_notMem_of_mem_cut h

/-- The lead of a name is one. -/
theorem leads (p : FilePath) : Leads p.lead (joinParts p.parts) := by
  rw [parts, joinParts_cut]
  obtain ⟨bytes⟩ := p
  cases bytes with
  | nil => exact .nothing []
  | cons b rest =>
      simp only [lead]
      split
      next here => exact here ▸ .root _
      next =>
        split
        next dotted =>
          obtain ⟨rfl, rfl | follows⟩ := dotted
          · exact .dot
          · obtain ⟨more, rfl⟩ := List.head?_eq_some_iff.mp follows
            exact .dots more
        next => exact .nothing _

/-- What begins what follows a lead can follow it too. -/
theorem Leads.of_prefix {lead body front : Bytes} (h : Leads lead body) (starts : front <+: body) :
    Leads lead front := by
  cases h with
  | nothing => exact .nothing front
  | root => exact .root front
  | dot =>
      rw [List.prefix_nil.mp starts]
      exact .dot
  | dots body =>
      rcases List.prefix_cons_iff.mp starts with rfl | ⟨rest, rfl, -⟩
      · exact .dot
      · exact .dots rest

/-- The first parts of a name are its start. -/
theorem joinParts_prefix {front parts : List Bytes} (starts : front <+: parts) :
    joinParts front <+: joinParts parts := by
  obtain ⟨back, rfl⟩ := starts
  by_cases none_ : front = []
  · rw [none_]
    exact List.nil_prefix
  · by_cases all : back = []
    · simp [all]
    · rw [joinParts_append none_ all]
      exact List.prefix_append _ _

/-- A path that has no lead does not start at the root. -/
theorem head?_ne_separator (relative : p.lead = []) : p.bytes.head? ≠ some separator := by
  obtain ⟨bytes⟩ := p
  cases bytes with
  | nil => simp
  | cons b rest =>
      rw [List.head?_cons]
      intro root
      rw [Option.some.inj root] at relative
      simp [lead] at relative

/-- Parts are those that are left without the idle ones at the end, and these. -/
theorem dropIdleBack_append (parts : List Bytes) :
    ∃ idle, parts = dropIdleBack parts ++ idle ∧ ∀ part ∈ idle, isIdle part = true :=
  ⟨parts.rtakeWhile isIdle, (List.rdropWhile_append_rtakeWhile ..).symm,
    fun _ => List.mem_rtakeWhile_imp⟩

/-- The last part that is left is a component. -/
theorem isIdle_of_dropIdleBack {parts before : List Bytes} {last : Bytes}
    (left_ : dropIdleBack parts = before ++ [last]) : isIdle last = false := by
  have some_ : parts.rdropWhile isIdle ≠ [] := by
    rw [show parts.rdropWhile isIdle = before ++ [last] from left_]
    simp
  have busy := List.rdropWhile_last_not isIdle parts some_
  simp only [show parts.rdropWhile isIdle = before ++ [last] from left_,
    List.getLast_concat] at busy
  exact Bool.eq_false_iff.mpr busy

/-- **The parent of a path** is its lead with the parts before its last component, less the idle
ones at their end. Only where all parts are idle there is no component. -/
theorem parent?_cases (p : FilePath) :
    (∃ q front between last back, p.parent? = some q ∧ q.bytes = p.lead ++ joinParts front ∧
      p.parts = front ++ between ++ last :: back ∧ isIdle last = false ∧
      (∀ part ∈ between, isIdle part = true) ∧ ∀ part ∈ back, isIdle part = true) ∨
    ∀ part ∈ p.parts, isIdle part = true := by
  obtain ⟨back, parts, idle⟩ := dropIdleBack_append p.parts
  rcases List.eq_nil_or_concat (dropIdleBack p.parts) with none_ | ⟨before, last, some_⟩
  · right
    rwa [parts, none_]
  · left
    rw [List.concat_eq_append] at some_
    obtain ⟨between, before_, idle'⟩ := dropIdleBack_append before
    refine ⟨⟨p.lead ++ joinParts (dropIdleBack before)⟩, dropIdleBack before, between, last, back,
      ?_, rfl, ?_, isIdle_of_dropIdleBack some_, idle', idle⟩
    · rw [parent?, some_, List.reverse_concat]
      dsimp only
      rw [List.reverse_reverse]
    · rw [← before_, parts, some_, List.append_assoc, List.singleton_append]

end FilePath

end ToolingHost
