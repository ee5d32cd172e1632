/-!
Maps that remember the order of their keys, as lists of pairs without repeated keys. Writing to a
key that is there keeps its place; a new key goes to the end.
-/

namespace Palette.Ordered

variable {κ α : Type} [DecidableEq κ]

def put (key : κ) (value : α) : List (κ × α) → List (κ × α)
  | [] => [(key, value)]
  | (k, v) :: rest => if k = key then (k, value) :: rest else (k, v) :: put key value rest

def ofList (pairs : List (κ × α)) : List (κ × α) := pairs.foldl (fun m p => put p.1 p.2 m) []

theorem lookup_put (key k : κ) (value : α) (m : List (κ × α)) :
    (put key value m).lookup k = if k = key then some value else m.lookup k := by
  induction m with
  | nil =>
    by_cases same : k = key
    · simp [put, same]
    · simp [put, List.lookup_cons, same, beq_false_of_ne same]
  | cons entry rest ih =>
    obtain ⟨k', v'⟩ := entry
    by_cases here : k' = key
    · subst here
      by_cases same : k = k'
      · simp [put, same]
      · simp [put, List.lookup_cons, same, beq_false_of_ne same]
    · by_cases same : k = k'
      · subst same
        simp [put, here]
      · simp [put, List.lookup_cons, here, beq_false_of_ne same, ih]

theorem mem_keys_iff {key : κ} {m : List (κ × α)} :
    key ∈ m.map Prod.fst ↔ m.lookup key ≠ none := by
  rw [Ne, List.lookup_eq_none_iff, List.mem_map]
  constructor
  · intro ⟨entry, member, same⟩ absent
    simpa [same] using absent entry member
  · intro found
    apply Classical.byContradiction
    intro unlisted
    apply found
    intro entry member
    simpa using fun same : key = entry.1 => unlisted ⟨entry, member, same.symm⟩

theorem keys_put_of_mem (key : κ) (value : α) (m : List (κ × α)) (known : key ∈ m.map Prod.fst) :
    (put key value m).map Prod.fst = m.map Prod.fst := by
  induction m with
  | nil => simp at known
  | cons entry rest ih =>
    obtain ⟨k', v'⟩ := entry
    by_cases here : k' = key
    · simp [put, here]
    · have behind : key ∈ rest.map Prod.fst := by
        simpa [Ne.symm here] using known
      simp [put, here, ih behind]

theorem put_of_not_mem (key : κ) (value : α) (m : List (κ × α)) (fresh : key ∉ m.map Prod.fst) :
    put key value m = m ++ [(key, value)] := by
  induction m with
  | nil => rfl
  | cons entry rest ih =>
    obtain ⟨k', v'⟩ := entry
    simp only [List.map_cons, List.mem_cons, not_or] at fresh
    simp [put, Ne.symm fresh.1, ih fresh.2]

theorem lookup_foldl_put (pairs m : List (κ × α)) (key : κ) :
    (pairs.foldl (fun m p => put p.1 p.2 m) m).lookup key =
      (pairs.reverse.lookup key).or (m.lookup key) := by
  induction pairs generalizing m with
  | nil => rfl
  | cons pair pairs ih =>
    obtain ⟨k, v⟩ := pair
    rw [List.foldl_cons, ih, lookup_put, List.reverse_cons, List.lookup_append, Option.or_assoc]
    congr 1
    by_cases same : key = k
    · simp [same]
    · simp [List.lookup_cons, same, beq_false_of_ne same]

theorem removeAll_concat (keys known : List κ) (key : κ) :
    keys.removeAll (known ++ [key]) = (keys.removeAll known).filter fun other => !other == key := by
  rw [List.removeAll, List.removeAll, List.filter_filter]
  apply List.filter_congr
  intro other _
  by_cases same : other = key <;> simp [same]

theorem keys_foldl_put (pairs m : List (κ × α)) :
    (pairs.foldl (fun m p => put p.1 p.2 m) m).map Prod.fst =
      m.map Prod.fst ++ ((pairs.map Prod.fst).removeAll (m.map Prod.fst)).eraseDups := by
  induction pairs generalizing m with
  | nil => simp [List.removeAll]
  | cons pair pairs ih =>
    rw [List.foldl_cons, ih, List.map_cons, List.cons_removeAll]
    by_cases known : pair.1 ∈ m.map Prod.fst
    · rw [keys_put_of_mem _ _ _ known, if_neg (by simpa using known)]
    · rw [put_of_not_mem _ _ _ known, List.map_append, List.append_assoc,
        if_pos (by simpa using known), List.eraseDups_cons, ← removeAll_concat]
      rfl

theorem lookup_reverse_split {σ : Type} [BEq σ] [LawfulBEq σ] (before after : List (σ × α))
    (key : σ) (value : α) (last : ∀ pair ∈ after, pair.1 ≠ key) :
    (before ++ (key, value) :: after).reverse.lookup key = some value := by
  have later : after.reverse.lookup key = none := by
    rw [List.lookup_eq_none_iff]
    intro pair member
    simpa using (last pair (List.mem_reverse.mp member)).symm
  simp [List.lookup_append, later]

/-- Of the values that are written to a key the last one counts. -/
theorem lookup_ofList (pairs : List (κ × α)) (key : κ) :
    (ofList pairs).lookup key = pairs.reverse.lookup key := by
  rw [ofList, lookup_foldl_put, List.lookup_nil, Option.or_none]

/-- Keys stand in the order in which they were first written. -/
theorem keys_ofList (pairs : List (κ × α)) :
    (ofList pairs).map Prod.fst = (pairs.map Prod.fst).eraseDups := by
  rw [ofList, keys_foldl_put, List.map_nil, List.nil_append, List.removeAll_nil]

end Palette.Ordered
