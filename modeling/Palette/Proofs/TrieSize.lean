import Palette.Proofs.TrieEntries

/-!
The size of a trie. Each key ends at one node of its own, so there are no fewer nodes than keys. The
other nodes are fanouts and runs. A fanout has two branches at least, so it pays for itself with a
branch; a run stands only above a fanout or an inline end, which leave room for it.
-/

namespace Palette.KeyTrie

variable {α : Type}

mutual

theorem Node.length_entries_le_count (tree : Node α) : tree.entries.length ≤ tree.count := by
  cases tree with
  | hole | empty | leaf => simp [Node.entries, Node.count]
  | inline key value rest =>
      have below := Node.length_entries_le_count rest
      rw [Node.entries, Node.count, List.length_cons]
      omega
  | run stem minSize rest =>
      have below := Node.length_entries_le_count rest
      rw [Node.entries, Node.count]
      omega
  | fanout minSize edges =>
      have below := Edges.length_entries_le_count edges
      rw [Node.entries, Node.count]
      omega

theorem Edges.length_entries_le_count (edges : Edges α) : edges.entries.length ≤ edges.count := by
  cases edges with
  | nil => simp [Edges.entries]
  | cons label child rest =>
      have first := Node.length_entries_le_count child
      have others := Edges.length_entries_le_count rest
      rw [Edges.entries, Edges.count, List.length_append]
      omega

end

mutual

/-- A tree has two nodes less than three for each key; where keys part there is room for a run. -/
theorem Node.count_le (path : Key) (tree : Node α) (shape : tree.WellFormed path) :
    tree.count + 2 ≤ 3 * tree.entries.length ∧
      (tree.Parts → tree.count + 3 ≤ 3 * tree.entries.length) := by
  cases tree with
  | hole | empty => exact False.elim shape
  | leaf suffix key value => exact ⟨Nat.le_refl 3, False.elim⟩
  | inline key value rest =>
      have below := (Node.count_le path rest shape.2.2).1
      rw [Node.entries, Node.count, List.length_cons]
      constructor
      · omega
      · intro _
        omega
  | run stem minSize rest =>
      have below := (Node.count_le (path ++ stem) rest shape.2.2.2).2 shape.2.2.1
      rw [Node.entries, Node.count]
      exact ⟨by omega, False.elim⟩
  | fanout minSize edges =>
      have several := shape.1
      have below := Edges.count_le path edges shape.2.2
      rw [Node.entries, Node.count]
      constructor
      · omega
      · intro _
        omega

theorem Edges.count_le (path : Key) (edges : Edges α) (shape : edges.WellFormed path) :
    edges.count + 2 * edges.labels.length ≤ 3 * edges.entries.length := by
  cases edges with
  | nil => simp [Edges.count, Edges.labels]
  | cons label child rest =>
      obtain ⟨⟨b, _, inner⟩, _, outer⟩ := shape
      have first := (Node.count_le (path ++ [b]) child inner).1
      have others := Edges.count_le path rest outer
      rw [Edges.entries, Edges.count, Edges.labels, List.length_append, List.length_cons]
      omega

end

/-- A trie is linear in the number `n` of its different keys, whatever their lengths and the order
of their insertion: it has at least `n` and at most `3 * n - 2` nodes, and without keys none. -/
theorem Node.count_ofList_linear (pairs : List (Key × α)) :
    (pairs.map Prod.fst).toFinset.card ≤ (Node.ofList pairs).count ∧
      (Node.ofList pairs).count ≤ 3 * (pairs.map Prod.fst).toFinset.card - 2 := by
  rw [← Node.length_entries_ofList]
  constructor
  · exact Node.length_entries_le_count _
  · rcases Node.root_ofList pairs with empty | shape
    · rw [empty]
      exact Nat.le_refl 0
    · have bound := (Node.count_le [] _ shape).1
      omega

example :
    (Node.ofList [([], 'a'), ([1, 2], 'b')]).count = 2 ∧
      (Node.ofList [([1, 2, 3, 4, 5], 'a'), ([1, 2, 7], 'b'), ([1, 2, 3, 4, 6], 'c'),
        ([1, 2, 7], 'd')]).count = 3 * 3 - 2 := by decide

end Palette.KeyTrie
