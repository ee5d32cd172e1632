import Palette.Proofs.TrieCanonical
import Palette.Proofs.TrieNodes
import Mathlib.Data.Finset.Card

/-!
The entries of a trie. They are listed without any sorting: an inline end stands before the keys
that go on, and branches stand by their bytes. Since each stored key is the way to it, the listing
ascends strictly, and it holds the map that the insertions end in, each key once.
-/

namespace Palette.KeyTrie

variable {α : Type}

/-! ### The entries are those that are found -/

mutual

theorem Node.mem_entries_iff (path : Key) (tree : Node α) (shape : tree.WellFormed path)
    (key : Key) (value : α) :
    (key, value) ∈ tree.entries ↔ ∃ rest, key = path ++ rest ∧ tree.get? rest = some value := by
  cases tree with
  | hole | empty => exact False.elim shape
  | leaf suffix stored old =>
      obtain rfl : stored = path ++ suffix := shape
      simp only [Node.entries, List.mem_singleton, Prod.mk.injEq, Node.get?_leaf]
      constructor
      · rintro ⟨rfl, rfl⟩
        exact ⟨suffix, rfl, Function.update_self ..⟩
      · rintro ⟨rest, rfl, found⟩
        obtain rfl : rest = suffix := by
          by_contra differ
          simp [Function.update_of_ne differ] at found
        rw [Function.update_self] at found
        exact ⟨rfl, (Option.some.inj found).symm⟩
  | inline stored old below =>
      obtain ⟨rfl, goesOn, inner⟩ := shape
      simp only [Node.entries, List.mem_cons, Prod.mk.injEq, Node.get?_inline,
        Node.mem_entries_iff stored below inner key value]
      constructor
      · rintro (⟨rfl, rfl⟩ | ⟨rest, rfl, found⟩)
        · exact ⟨[], (List.append_nil key).symm, Function.update_self ..⟩
        · have longer : rest ≠ [] := by
            rintro rfl
            rw [Node.get?_nil_of_goesOn stored below goesOn inner] at found
            cases found
          exact ⟨rest, rfl, by rwa [Function.update_of_ne longer]⟩
      · rintro ⟨rest, rfl, found⟩
        by_cases ends : rest = []
        · subst ends
          rw [Function.update_self] at found
          exact .inl ⟨List.append_nil stored, (Option.some.inj found).symm⟩
        · rw [Function.update_of_ne ends] at found
          exact .inr ⟨rest, rfl, found⟩
  | run stem minSize below =>
      have inner := Node.mem_entries_iff (path ++ stem) below shape.2.2.2 key value
      rw [Node.entries, inner, Node.get?_run]
      constructor
      · rintro ⟨rest, rfl, found⟩
        exact ⟨stem ++ rest, List.append_assoc .., by rwa [under_apply_append]⟩
      · rintro ⟨rest, rfl, found⟩
        by_cases within : ∃ deeper, rest = stem ++ deeper
        · obtain ⟨deeper, rfl⟩ := within
          rw [under_apply_append] at found
          exact ⟨deeper, (List.append_assoc ..).symm, found⟩
        · rw [under_apply_outside stem rest below.get?
            (fun deeper same => within ⟨deeper, same⟩)] at found
          cases found
  | fanout minSize edges =>
      rw [Node.entries, Edges.mem_entries_iff path edges shape.2.2 key value]
      constructor
      · rintro ⟨b, below, rfl, found⟩
        exact ⟨b :: below, rfl, found⟩
      · rintro ⟨rest, rfl, found⟩
        cases rest with
        | nil => cases found
        | cons b below => exact ⟨b, below, rfl, found⟩

theorem Edges.mem_entries_iff (path : Key) (edges : Edges α) (shape : edges.WellFormed path)
    (key : Key) (value : α) :
    (key, value) ∈ edges.entries ↔
      ∃ b below, key = path ++ b :: below ∧ edges.get? b below = some value := by
  cases edges with
  | nil => simp [Edges.entries, Edges.get?]
  | cons label child others =>
      obtain ⟨⟨c, rfl, inner⟩, ascending, outer⟩ := shape
      simp only [Edges.entries, List.mem_append,
        Node.mem_entries_iff (path ++ [c]) child inner key value,
        Edges.mem_entries_iff path others outer key value]
      constructor
      · rintro (⟨rest, rfl, found⟩ | ⟨b, below, rfl, found⟩)
        · exact ⟨c, rest, by simp, by simpa [Edges.get?] using found⟩
        · -- A byte with an entry behind the first branch is not the first byte.
          have later : (b.toNat : Int) ∈ others.labels := by
            by_contra missing
            rw [Edges.get?_missing others b below missing] at found
            cases found
          have above := ascending _ later
          exact ⟨b, below, rfl, by rwa [Edges.get?, if_neg (by omega)]⟩
      · rintro ⟨b, below, rfl, found⟩
        by_cases here : c = b
        · subst here
          exact .inl ⟨below, by simp, by simpa [Edges.get?] using found⟩
        · exact .inr ⟨b, below, rfl, by simpa [Edges.get?, byte_label_ne here] using found⟩

end

/-! ### The keys ascend -/

theorem Node.exists_rest_of_mem_keys {path : Key} {tree : Node α} (shape : tree.WellFormed path)
    {key : Key} (member : key ∈ tree.keys) :
    ∃ rest, key = path ++ rest ∧ tree.get? rest ≠ none := by
  obtain ⟨entry, listed, rfl⟩ := List.mem_map.mp member
  obtain ⟨rest, same, found⟩ := (Node.mem_entries_iff path tree shape entry.1 entry.2).mp listed
  exact ⟨rest, same, by simp [found]⟩

theorem Edges.exists_byte_of_mem_keys {path : Key} {edges : Edges α}
    (shape : edges.WellFormed path) {key : Key} (member : key ∈ edges.keys) :
    ∃ b below, key = path ++ b :: below ∧ (b.toNat : Int) ∈ edges.labels := by
  obtain ⟨entry, listed, rfl⟩ := List.mem_map.mp member
  obtain ⟨b, below, same, found⟩ :=
    (Edges.mem_entries_iff path edges shape entry.1 entry.2).mp listed
  refine ⟨b, below, same, ?_⟩
  by_contra missing
  rw [Edges.get?_missing edges b below missing] at found
  cases found

mutual

theorem Node.keys_ascend (path : Key) (tree : Node α) (shape : tree.WellFormed path) :
    tree.keys.Pairwise (· < ·) := by
  cases tree with
  | hole | empty => exact False.elim shape
  | leaf suffix stored value => exact List.pairwise_singleton _ stored
  | inline stored value below =>
      obtain ⟨rfl, goesOn, inner⟩ := shape
      apply List.pairwise_cons.mpr
      refine ⟨?_, Node.keys_ascend stored below inner⟩
      intro key member
      obtain ⟨rest, rfl, found⟩ := Node.exists_rest_of_mem_keys inner member
      cases rest with
      | nil => exact absurd (Node.get?_nil_of_goesOn stored below goesOn inner) found
      | cons b rest =>
          calc stored = stored ++ [] := (List.append_nil stored).symm
            _ < stored ++ b :: rest := List.append_left_lt (List.nil_lt_cons b rest)
  | run stem minSize below => exact Node.keys_ascend (path ++ stem) below shape.2.2.2
  | fanout minSize edges => exact Edges.keys_ascend path edges shape.2.2

theorem Edges.keys_ascend (path : Key) (edges : Edges α) (shape : edges.WellFormed path) :
    edges.keys.Pairwise (· < ·) := by
  cases edges with
  | nil => exact List.Pairwise.nil
  | cons label child others =>
      obtain ⟨⟨b, rfl, inner⟩, ascending, outer⟩ := shape
      rw [Edges.keys, Edges.entries, List.map_append]
      apply List.pairwise_append.mpr
      refine ⟨Node.keys_ascend (path ++ [b]) child inner, Edges.keys_ascend path others outer, ?_⟩
      intro first inFirst second inSecond
      obtain ⟨rest, rfl, _⟩ := Node.exists_rest_of_mem_keys inner inFirst
      obtain ⟨c, below, rfl, later⟩ := Edges.exists_byte_of_mem_keys outer inSecond
      have above := ascending _ later
      have bytes : b < c := UInt8.lt_iff_toNat_lt.mpr (by omega)
      rw [List.append_assoc, List.singleton_append]
      exact List.append_left_lt (List.cons_lt_cons_iff.mpr (.inl bytes))

end

/-! ### Tries that are built from pairs -/

theorem Node.keys_ofList_ascend (pairs : List (Key × α)) :
    (Node.ofList pairs).keys.Pairwise (· < ·) := by
  rcases Node.root_ofList pairs with empty | shape
  · rw [empty]
    exact List.Pairwise.nil
  · exact Node.keys_ascend [] _ shape

theorem Node.mem_entries_ofList (pairs : List (Key × α)) (key : Key) (value : α) :
    (key, value) ∈ (Node.ofList pairs).entries ↔ lastValue pairs key = some value := by
  rw [← Node.get?_ofList]
  rcases Node.root_ofList pairs with empty | shape
  · rw [empty]
    simp [Node.entries, Node.get?]
  · rw [Node.mem_entries_iff [] _ shape key value]
    simp

theorem Node.mem_keys_ofList (pairs : List (Key × α)) (key : Key) :
    key ∈ (Node.ofList pairs).keys ↔ key ∈ pairs.map Prod.fst := by
  calc key ∈ (Node.ofList pairs).keys
      ↔ ∃ value, (key, value) ∈ (Node.ofList pairs).entries := by simp [Node.keys]
    _ ↔ lastValue pairs key ≠ none := by
        simp only [Node.mem_entries_ofList, ← Option.ne_none_iff_exists']
    _ ↔ key ∈ pairs.map Prod.fst := by
        rw [Ne, lastValue_eq_none_iff, List.mem_map]
        push Not
        rfl

theorem Node.length_entries_ofList (pairs : List (Key × α)) :
    (Node.ofList pairs).entries.length = (pairs.map Prod.fst).toFinset.card := by
  have distinct : (Node.ofList pairs).keys.Nodup := by
    apply (Node.keys_ofList_ascend pairs).imp
    intro first second before same
    exact List.lt_irrefl second (same ▸ before)
  have same : (Node.ofList pairs).keys.toFinset = (pairs.map Prod.fst).toFinset := by
    ext key
    rw [List.mem_toFinset, List.mem_toFinset, Node.mem_keys_ofList]
  calc (Node.ofList pairs).entries.length = (Node.ofList pairs).keys.length :=
        (List.length_map _).symm
    _ = (Node.ofList pairs).keys.toFinset.card := (List.toFinset_card_of_nodup distinct).symm
    _ = (pairs.map Prod.fst).toFinset.card := by rw [same]

/-- The entries of a trie ascend strictly by their keys, they are the keys inserted, each with the
value of its last insertion, and there are as many of them as there are different keys. -/
theorem Node.entries_ofList_ascend (pairs : List (Key × α)) :
    ((Node.ofList pairs).entries.map Prod.fst).Pairwise (· < ·) ∧
      (∀ key value, (key, value) ∈ (Node.ofList pairs).entries ↔
        lastValue pairs key = some value) ∧
      (Node.ofList pairs).entries.length = (pairs.map Prod.fst).toFinset.card :=
  ⟨Node.keys_ofList_ascend pairs, Node.mem_entries_ofList pairs, Node.length_entries_ofList pairs⟩

example :
    (Node.ofList [([0x80], 1), ([0x61, 0x62], 2), ([0x61], 3), ([0x80], 4), ([], 5)]).entries =
      [([], 5), ([0x61], 3), ([0x61, 0x62], 2), ([0x80], 4)] := by decide

end Palette.KeyTrie
