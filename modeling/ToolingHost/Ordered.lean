/-! # Entries in the order of their keys

Some collections are kept as lists of entries in the order of the keys, each key once: the members
of a JSON object, and the environment that is made for another program. Setting a key decides what
is found at it and at no other (`lookup_insert`), so of the entries that a list is made from the
last one with a key is found (`lookup_ofList`). The keys are strictly ordered (`ofList_sorted`), so
a key stands in one entry only, and being an entry is being found (`mem_ofList`). -/

namespace ToolingHost.Ordered

variable {κ α : Type}

/-! ## Looking up a key -/

section Finding

variable [BEq κ] [LawfulBEq κ] [DecidableEq κ]

/-- The value at a key stands in the first entry with it. -/
theorem lookup_cons_eq (k key : κ) (value : α) (rest : List (κ × α)) :
    ((k, value) :: rest).lookup key = if key = k then some value else rest.lookup key := by
  rw [List.lookup_cons]
  by_cases here : key = k
  · rw [if_pos here, beq_iff_eq.mpr here]
  · rw [if_neg here, beq_eq_false_iff_ne.mpr here]

/-- What is found at a key is an entry. -/
theorem mem_of_lookup {entries : List (κ × α)} {key : κ} {value : α}
    (found : entries.lookup key = some value) : (key, value) ∈ entries := by
  induction entries with
  | nil => cases found
  | cons entry rest ih =>
      obtain ⟨k, v⟩ := entry
      rw [lookup_cons_eq] at found
      by_cases here : key = k
      · rw [if_pos here] at found
        cases here
        cases found
        exact List.mem_cons_self
      · rw [if_neg here] at found
        exact List.mem_cons_of_mem _ (ih found)

/-- Where keys are different, being found at a key is being an entry with it. -/
theorem lookup_eq_some_iff_mem {entries : List (κ × α)}
    (distinct : (entries.map Prod.fst).Nodup) {key : κ} {value : α} :
    entries.lookup key = some value ↔ (key, value) ∈ entries := by
  refine ⟨mem_of_lookup, fun there => ?_⟩
  induction entries with
  | nil => cases there
  | cons entry rest ih =>
      obtain ⟨k, v⟩ := entry
      rw [List.map_cons, List.nodup_cons] at distinct
      rw [lookup_cons_eq]
      rcases List.mem_cons.mp there with here | behind
      · cases here
        exact if_pos rfl
      · have other : key ≠ k := by
          rintro rfl
          exact distinct.1 (List.mem_map.mpr ⟨_, behind, rfl⟩)
        rw [if_neg other]
        exact ih distinct.2 behind

/-- Where keys are different, it does not matter from which end an entry is looked for. -/
theorem lookup_reverse {entries : List (κ × α)} (distinct : (entries.map Prod.fst).Nodup)
    (key : κ) : entries.reverse.lookup key = entries.lookup key := by
  have turned : (entries.reverse.map Prod.fst).Nodup := by
    rw [List.map_reverse, List.Nodup, List.pairwise_reverse]
    exact distinct.imp Ne.symm
  apply Option.ext
  intro value
  rw [lookup_eq_some_iff_mem turned, lookup_eq_some_iff_mem distinct, List.mem_reverse]

end Finding

/-! ## The order of keys -/

/-- The keys are strictly ordered. -/
def Sorted [LT κ] (entries : List (κ × α)) : Prop :=
  entries.Pairwise fun one other => one.1 < other.1

/-- Keys in strict order are different. -/
theorem Sorted.nodup [LT κ] [Std.Irrefl fun one other : κ => one < other] {entries : List (κ × α)}
    (sorted : Sorted entries) : (entries.map Prod.fst).Nodup := by
  rw [List.Nodup, List.pairwise_map]
  refine List.Pairwise.imp ?_ sorted
  intro one other before same
  rw [same] at before
  exact Std.lt_irrefl before

/-! ## Setting a key -/

variable [LT κ] [DecidableLT κ] [DecidableEq κ]

/-- Sets a key: in place if it is there, else before the first greater key. -/
def insert (key : κ) (value : α) : List (κ × α) → List (κ × α)
  | [] => [(key, value)]
  | (k, v) :: rest =>
    if key < k then (key, value) :: (k, v) :: rest
    else if key = k then (key, value) :: rest
    else (k, v) :: insert key value rest

/-- Setting a key decides what stands at it, and changes nothing at the other keys. -/
theorem lookup_insert [BEq κ] [LawfulBEq κ] (key key' : κ) (value : α) (entries : List (κ × α)) :
    (insert key value entries).lookup key' =
      if key' = key then some value else entries.lookup key' := by
  induction entries with
  | nil => exact lookup_cons_eq key key' value []
  | cons other rest ih =>
      obtain ⟨k, v⟩ := other
      unfold insert
      by_cases before : key < k
      · rw [if_pos before, lookup_cons_eq key key']
      · rw [if_neg before]
        by_cases here : key = k
        · subst here
          rw [if_pos rfl, lookup_cons_eq, lookup_cons_eq]
          split <;> rfl
        · rw [if_neg here, lookup_cons_eq, lookup_cons_eq, ih]
          -- the entry that is passed over has another key
          by_cases there : key' = k
          · rw [if_pos there, if_neg fun same => here (same.symm.trans there), if_pos there]
          · rw [if_neg there, if_neg there]

/-- After a key was set, its entry is there, and what was there before at most. -/
theorem mem_insert {key : κ} {value : α} {entries : List (κ × α)} {entry : κ × α}
    (there : entry ∈ insert key value entries) : entry = (key, value) ∨ entry ∈ entries := by
  induction entries with
  | nil => exact .inl (List.mem_singleton.mp there)
  | cons other rest ih =>
      obtain ⟨k, v⟩ := other
      unfold insert at there
      split at there
      next => exact List.mem_cons.mp there
      next =>
        split at there
        next => exact (List.mem_cons.mp there).imp id (List.mem_cons_of_mem _)
        next =>
          rcases List.mem_cons.mp there with here | behind
          · exact .inr (here ▸ List.mem_cons_self)
          · exact (ih behind).imp id (List.mem_cons_of_mem _)

/-- Setting a key keeps the keys in order. -/
theorem Sorted.insert [LE κ] [Std.IsLinearOrder κ] [Std.LawfulOrderLT κ] {entries : List (κ × α)}
    (sorted : Sorted entries) (key : κ) (value : α) :
    Sorted (Ordered.insert key value entries) := by
  induction entries with
  | nil => exact List.pairwise_singleton _ _
  | cons other rest ih =>
      obtain ⟨k, v⟩ := other
      obtain ⟨first, others⟩ := List.pairwise_cons.mp sorted
      unfold Ordered.insert
      split
      next before =>
        refine List.pairwise_cons.mpr ⟨?_, sorted⟩
        intro entry there
        rcases List.mem_cons.mp there with rfl | behind
        · exact before
        · exact Std.lt_trans before (first entry behind)
      next late =>
        split
        next same =>
          cases same
          exact List.pairwise_cons.mpr ⟨first, others⟩
        next other =>
          have after : k < key := Std.lt_of_le_of_ne (Std.not_lt.mp late) (Ne.symm other)
          refine List.pairwise_cons.mpr ⟨?_, ih others⟩
          intro entry there
          rcases mem_insert there with rfl | behind
          · exact after
          · exact first entry behind

/-! ## A list made from entries -/

/-- Entries in the order of their keys; of several with one key the last one counts. -/
def ofList (entries : List (κ × α)) : List (κ × α) :=
  entries.foldl (fun done (key, value) => insert key value done) []

/-- Of the entries that a list is made from, the last one with a key counts. -/
theorem lookup_ofList [BEq κ] [LawfulBEq κ] (entries : List (κ × α)) (key : κ) :
    (ofList entries).lookup key = entries.reverse.lookup key := by
  -- by induction on the entries last first, as the last one is set last
  rw [ofList, List.foldl_eq_foldr_reverse]
  induction entries.reverse with
  | nil => rfl
  | cons entry earlier ih =>
      obtain ⟨k, v⟩ := entry
      rw [List.foldr_cons, lookup_insert, ih, lookup_cons_eq]

variable [LE κ] [Std.IsLinearOrder κ] [Std.LawfulOrderLT κ]

/-- A list made from entries is in the order of their keys. -/
theorem ofList_sorted (entries : List (κ × α)) : Sorted (ofList entries) := by
  rw [ofList, List.foldl_eq_foldr_reverse]
  induction entries.reverse with
  | nil => exact List.Pairwise.nil
  | cons entry earlier ih => exact ih.insert entry.1 entry.2

/-- The entries of a list that is made from entries: with each key its last value. -/
theorem mem_ofList [BEq κ] [LawfulBEq κ] {entries : List (κ × α)} {key : κ} {value : α} :
    (key, value) ∈ ofList entries ↔ entries.reverse.lookup key = some value := by
  rw [← lookup_ofList, lookup_eq_some_iff_mem (ofList_sorted entries).nodup]

end ToolingHost.Ordered
