import Palette.Proofs.TrieCanonical

/-!
Inserting a key that is there. Changing values alone keeps a trie well formed, and a well-formed
trie is known by its map, so such an insertion can do no more than change one value: no node is
split, wrapped or noted with another length.
-/

namespace Palette.KeyTrie

variable {α β : Type}

mutual

/-- The tree with other values at its keys. -/
def Node.mapValues (change : Key → α → β) : Node α → Node β
  | .hole => .hole
  | .empty => .empty
  | .leaf suffix key value => .leaf suffix key (change key value)
  | .inline key value rest => .inline key (change key value) (rest.mapValues change)
  | .run stem minSize rest => .run stem minSize (rest.mapValues change)
  | .fanout minSize edges => .fanout minSize (edges.mapValues change)

def Edges.mapValues (change : Key → α → β) : Edges α → Edges β
  | .nil => .nil
  | .cons label child rest => .cons label (child.mapValues change) (rest.mapValues change)

end

/-- All of a tree but its values: its nodes with their bytes, stored keys, labels and lengths. -/
def Node.shape (tree : Node α) : Node Unit := tree.mapValues fun _ _ => ()

def Edges.shape (edges : Edges α) : Edges Unit := edges.mapValues fun _ _ => ()

def Node.overwrite (key : Key) (value : α) (tree : Node α) : Node α :=
  tree.mapValues fun stored old => if stored = key then value else old

/-! ### Other values in a well-formed tree -/

mutual

theorem Node.shape_mapValues (change : Key → α → β) (tree : Node α) :
    (tree.mapValues change).shape = tree.shape := by
  cases tree with
  | hole | empty | leaf => rfl
  | inline key value rest =>
      exact congrArg (Node.inline key ()) (Node.shape_mapValues change rest)
  | run stem minSize rest =>
      exact congrArg (Node.run stem minSize) (Node.shape_mapValues change rest)
  | fanout minSize edges =>
      exact congrArg (Node.fanout minSize) (Edges.shape_mapValues change edges)

theorem Edges.shape_mapValues (change : Key → α → β) (edges : Edges α) :
    (edges.mapValues change).shape = edges.shape := by
  cases edges with
  | nil => rfl
  | cons label child rest =>
      exact congrArg₂ (Edges.cons label) (Node.shape_mapValues change child)
        (Edges.shape_mapValues change rest)

end

variable (change : Key → α → β)

@[simp]
theorem Node.minSize_mapValues (tree : Node α) :
    (tree.mapValues change).minSize = tree.minSize := by
  cases tree <;> rfl

@[simp]
theorem Node.parts_mapValues (tree : Node α) : (tree.mapValues change).Parts ↔ tree.Parts := by
  cases tree <;> rfl

@[simp]
theorem Node.goesOn_mapValues (tree : Node α) : (tree.mapValues change).GoesOn ↔ tree.GoesOn := by
  cases tree <;> rfl

@[simp]
theorem Edges.labels_mapValues (edges : Edges α) :
    (edges.mapValues change).labels = edges.labels := by
  cases edges with
  | nil => rfl
  | cons label child rest => exact congrArg (label :: ·) (Edges.labels_mapValues rest)

@[simp]
theorem Edges.sizes_mapValues (edges : Edges α) : (edges.mapValues change).sizes = edges.sizes := by
  cases edges with
  | nil => rfl
  | cons label child rest =>
      exact congrArg₂ List.cons (Node.minSize_mapValues change child) (Edges.sizes_mapValues rest)

mutual

theorem Node.wellFormed_mapValues (path : Key) (tree : Node α) (shape : tree.WellFormed path) :
    (tree.mapValues change).WellFormed path := by
  cases tree with
  | hole | empty => exact False.elim shape
  | leaf suffix key value => exact shape
  | inline key value rest =>
      obtain ⟨same, goesOn, inner⟩ := shape
      exact ⟨same, (Node.goesOn_mapValues change rest).mpr goesOn,
        Node.wellFormed_mapValues path rest inner⟩
  | run stem minSize rest =>
      obtain ⟨nonempty, noted, parts, inner⟩ := shape
      exact ⟨nonempty, by rw [Node.minSize_mapValues, noted],
        (Node.parts_mapValues change rest).mpr parts,
        Node.wellFormed_mapValues (path ++ stem) rest inner⟩
  | fanout minSize edges =>
      obtain ⟨several, least, inner⟩ := shape
      exact ⟨by rwa [Edges.labels_mapValues], by rwa [Edges.sizes_mapValues],
        Edges.wellFormed_mapValues path edges inner⟩

theorem Edges.wellFormed_mapValues (path : Key) (edges : Edges α)
    (shape : edges.WellFormed path) : (edges.mapValues change).WellFormed path := by
  cases edges with
  | nil => trivial
  | cons label child rest =>
      obtain ⟨⟨b, same, inner⟩, ascending, outer⟩ := shape
      exact ⟨⟨b, same, Node.wellFormed_mapValues (path ++ [b]) child inner⟩,
        by rwa [Edges.labels_mapValues], Edges.wellFormed_mapValues path rest outer⟩

end

mutual

/-- The key at which a value is changed is the one that leads to it. -/
theorem Node.get?_mapValues (path : Key) (tree : Node α) (shape : tree.WellFormed path)
    (rest : Key) :
    (tree.mapValues change).get? rest = (tree.get? rest).map (change (path ++ rest)) := by
  cases tree with
  | hole | empty => exact False.elim shape
  | leaf suffix key value =>
      obtain rfl : key = path ++ suffix := shape
      by_cases whole : rest = suffix
      · simp [Node.mapValues, Node.get?, whole]
      · simp [Node.mapValues, Node.get?, whole]
  | inline key value below =>
      obtain ⟨rfl, _, inner⟩ := shape
      cases rest with
      | nil => simp [Node.mapValues, Node.get?]
      | cons b rest => exact Node.get?_mapValues key below inner (b :: rest)
  | run stem minSize below =>
      rw [Node.mapValues, Node.get?_run, Node.get?_run]
      by_cases within : ∃ deeper, rest = stem ++ deeper
      · obtain ⟨deeper, rfl⟩ := within
        rw [under_apply_append, under_apply_append, ← List.append_assoc]
        exact Node.get?_mapValues (path ++ stem) below shape.2.2.2 deeper
      · have outside : ∀ deeper, rest ≠ stem ++ deeper := fun deeper same => within ⟨deeper, same⟩
        rw [under_apply_outside stem rest _ outside, under_apply_outside stem rest _ outside]
        rfl
  | fanout minSize edges =>
      cases rest with
      | nil => rfl
      | cons b below => exact Edges.get?_mapValues path edges shape.2.2 b below

theorem Edges.get?_mapValues (path : Key) (edges : Edges α) (shape : edges.WellFormed path)
    (b : UInt8) (below : Key) : (edges.mapValues change).get? b below =
      (edges.get? b below).map (change (path ++ b :: below)) := by
  cases edges with
  | nil => rfl
  | cons label child others =>
      obtain ⟨⟨c, rfl, inner⟩, _, outer⟩ := shape
      by_cases here : c = b
      · subst here
        have step := Node.get?_mapValues (path ++ [c]) child inner below
        simpa [Edges.mapValues, Edges.get?] using step
      · have step := Edges.get?_mapValues path others outer b below
        simpa [Edges.mapValues, Edges.get?, byte_label_ne here] using step

end

/-! ### Insertion of a known key -/

theorem Node.get?_overwrite (tree : Node α) (shape : tree.WellFormed []) (key : Key) (value : α)
    (known : tree.get? key ≠ none) :
    (tree.overwrite key value).get? = Function.update tree.get? key (some value) := by
  funext query
  rw [Node.overwrite, Node.get?_mapValues _ [] tree shape query, List.nil_append]
  by_cases same : query = key
  · obtain ⟨old, found⟩ := Option.ne_none_iff_exists'.mp known
    simp [same, found]
  · simp [same]

theorem Node.insert_eq_overwrite (tree : Node α) (root : tree.Root) (key : Key) (value : α)
    (known : tree.get? key ≠ none) : tree.insert key value = tree.overwrite key value := by
  rcases root with rfl | shape
  · exact absurd rfl known
  · apply Node.eq_of_get? []
    · exact Node.wellFormed_insert tree (.inr shape) key value
    · exact Node.wellFormed_mapValues _ [] tree shape
    · rw [Node.get?_insert tree (.inr shape), Node.get?_overwrite tree shape key value known]

theorem Node.insert_eq_self (tree : Node α) (root : tree.Root) (key : Key) (value : α)
    (known : tree.get? key = some value) : tree.insert key value = tree := by
  apply Node.eq_of_root_get?
  · exact .inr (Node.wellFormed_insert tree root key value)
  · exact root
  · rw [Node.get?_insert tree root, ← known, Function.update_eq_self]

/-- Inserting a key that is there changes its value and nothing else; so a second insertion of a
pair changes nothing at all. -/
theorem Node.insert_known_ofList (pairs : List (Key × α)) (key : Key) (value : α) :
    ((Node.ofList pairs).get? key ≠ none →
      (Node.ofList pairs).insert key value = (Node.ofList pairs).overwrite key value ∧
      ((Node.ofList pairs).insert key value).shape = (Node.ofList pairs).shape ∧
      ((Node.ofList pairs).insert key value).get? key = some value ∧
      ∀ other, other ≠ key →
        ((Node.ofList pairs).insert key value).get? other = (Node.ofList pairs).get? other) ∧
    ((Node.ofList pairs).insert key value).insert key value =
      (Node.ofList pairs).insert key value := by
  have root := Node.root_ofList pairs
  have written := Node.get?_insert (Node.ofList pairs) root key value
  constructor
  · intro known
    have same := Node.insert_eq_overwrite (Node.ofList pairs) root key value known
    refine ⟨same, ?_, ?_, ?_⟩
    · rw [same]
      exact Node.shape_mapValues _ (Node.ofList pairs)
    · rw [written, Function.update_self]
    · intro other differ
      rw [written, Function.update_of_ne differ]
  · apply Node.insert_eq_self
    · exact .inr (Node.wellFormed_insert _ root key value)
    · rw [written, Function.update_self]

def nestedPairs : List (Key × Char) := [([1, 2], 'a'), ([1, 2, 3], 'b'), ([1, 2, 4, 4], 'c')]

theorem Node.insert_known_ofList_nested :
    (Node.ofList nestedPairs).get? [1, 2] ≠ none ∧
      ((Node.ofList nestedPairs).insert [1, 2] 'd').shape = (Node.ofList nestedPairs).shape ∧
      ((Node.ofList nestedPairs).insert [1, 2] 'd').get? [1, 2] = some 'd' ∧
      ((Node.ofList nestedPairs).insert [1, 2] 'd').get? [1, 2, 3] = some 'b' := by
  have known : (Node.ofList nestedPairs).get? [1, 2] ≠ none := by decide
  obtain ⟨_, same, changed, kept⟩ := (Node.insert_known_ofList nestedPairs [1, 2] 'd').1 known
  exact ⟨known, same, changed, (kept [1, 2, 3] (by decide)).trans (by decide)⟩

end Palette.KeyTrie
