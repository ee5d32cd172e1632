import Palette.Proofs.TrieShape

/-!
What holds at each single node of a trie. The nodes are listed together with the bytes consumed on
the way to them, and a node is judged by what it stores and by the kind of its child, so nothing
here refers to the tree as a whole. The lengths that insertion keeps up to date are exact at every
node: each is the length of the shortest key below it.
-/

namespace Palette.KeyTrie

variable {α : Type}

mutual

/-- All nodes of a tree that stands below `path`, from the top down, each with the bytes consumed
above it. -/
def Node.places (path : Key) : Node α → List (Key × Node α)
  | .hole => [(path, .hole)]
  | .empty => [(path, .empty)]
  | .leaf suffix key value => [(path, .leaf suffix key value)]
  | .inline key value rest => (path, .inline key value rest) :: rest.places path
  | .run stem minSize rest => (path, .run stem minSize rest) :: rest.places (path ++ stem)
  | .fanout minSize edges => (path, .fanout minSize edges) :: edges.places path

def Edges.places (path : Key) : Edges α → List (Key × Node α)
  | .nil => []
  | .cons label child rest =>
      child.places (path ++ [UInt8.ofNat label.toNat]) ++ rest.places path

end

mutual

theorem Node.wellFormed_places (path : Key) (tree : Node α) (shape : tree.WellFormed path) :
    ∀ place ∈ tree.places path, place.2.WellFormed place.1 := by
  cases tree with
  | hole | empty => exact False.elim shape
  | leaf suffix key value => simpa [Node.places] using shape
  | inline key value rest =>
      intro place member
      rcases List.mem_cons.mp member with rfl | below
      · exact shape
      · exact Node.wellFormed_places path rest shape.2.2 place below
  | run stem minSize rest =>
      intro place member
      rcases List.mem_cons.mp member with rfl | below
      · exact shape
      · exact Node.wellFormed_places (path ++ stem) rest shape.2.2.2 place below
  | fanout minSize edges =>
      intro place member
      rcases List.mem_cons.mp member with rfl | below
      · exact shape
      · exact Edges.wellFormed_places path edges shape.2.2 place below

theorem Edges.wellFormed_places (path : Key) (edges : Edges α) (shape : edges.WellFormed path) :
    ∀ place ∈ edges.places path, place.2.WellFormed place.1 := by
  cases edges with
  | nil => simp [Edges.places]
  | cons label child rest =>
      obtain ⟨⟨b, rfl, inner⟩, _, others⟩ := shape
      have byte : UInt8.ofNat (b.toNat : Int).toNat = b := by simp
      intro place member
      rw [Edges.places, byte, List.mem_append] at member
      rcases member with below | behind
      · exact Node.wellFormed_places (path ++ [b]) child inner place below
      · exact Edges.wellFormed_places path rest others place behind

end

theorem Node.wellFormed_ofList (pairs : List (Key × α)) (nonempty : pairs ≠ []) :
    (Node.ofList pairs).WellFormed [] := by
  obtain ⟨front, pair, rfl⟩ := List.eq_nil_or_concat pairs |>.resolve_left nonempty
  rw [List.concat_eq_append, Node.ofList, List.foldl_concat]
  exact Node.wellFormed_insert _ (Node.root_ofList front) pair.1 pair.2

/-! ### The kinds of nodes -/

/-- What a node below `path` has to fulfil, as far as it and the kind of its child tell. -/
def Node.Sound (path : Key) : Node α → Prop
  | .hole | .empty => False
  | .leaf suffix key _ => key = path ++ suffix
  | .inline key _ rest =>
      key = path ∧ rest ≠ .empty ∧ (∀ stored value deeper, rest ≠ .inline stored value deeper) ∧
        ∀ stored value, rest ≠ .leaf [] stored value
  | .run stem _ rest =>
      stem ≠ [] ∧ ((∃ minSize edges, rest = .fanout minSize edges) ∨
        ∃ stored value deeper, rest = .inline stored value deeper)
  | .fanout _ edges =>
      2 ≤ edges.labels.length ∧ edges.labels.Nodup ∧
        ∀ label ∈ edges.labels, 0 ≤ label ∧ label ≤ 255

theorem Edges.labels_sound (path : Key) (edges : Edges α) (shape : edges.WellFormed path) :
    edges.labels.Nodup ∧ ∀ label ∈ edges.labels, 0 ≤ label ∧ label ≤ 255 := by
  cases edges with
  | nil => simp [Edges.labels]
  | cons label child rest =>
      obtain ⟨⟨b, rfl, _⟩, ascending, others⟩ := shape
      obtain ⟨distinct, bytes⟩ := Edges.labels_sound path rest others
      have bound := b.toNat_lt
      constructor
      · refine List.nodup_cons.mpr ⟨?_, distinct⟩
        intro again
        exact Int.lt_irrefl _ (ascending _ again)
      · intro other member
        rcases List.mem_cons.mp member with rfl | later
        · omega
        · exact bytes other later

theorem Node.WellFormed.sound {path : Key} {tree : Node α} (shape : tree.WellFormed path) :
    tree.Sound path := by
  cases tree with
  | hole | empty => exact shape
  | leaf suffix key value => exact shape
  | inline key value rest =>
      obtain ⟨same, goesOn, _⟩ := shape
      refine ⟨same, ?_, ?_, ?_⟩
      · rintro rfl
        exact goesOn
      · rintro stored value deeper rfl
        exact goesOn
      · rintro stored value rfl
        exact goesOn rfl
  | run stem minSize rest =>
      obtain ⟨nonempty, _, parts, _⟩ := shape
      refine ⟨nonempty, ?_⟩
      cases rest with
      | inline stored value deeper => exact .inr ⟨stored, value, deeper, rfl⟩
      | fanout least edges => exact .inl ⟨least, edges, rfl⟩
      | hole | empty | leaf | run => exact False.elim parts
  | fanout minSize edges =>
      obtain ⟨several, _, inner⟩ := shape
      exact ⟨several, Edges.labels_sound path edges inner⟩

/-- Without keys a trie is the empty node alone. Otherwise each of its nodes is sound where it
stands, so that no empty node is among them. -/
theorem Node.sound_places_ofList (pairs : List (Key × α)) :
    (pairs = [] → (Node.ofList pairs).places [] = [([], .empty)]) ∧
      (pairs ≠ [] → ∀ place ∈ (Node.ofList pairs).places [], place.2.Sound place.1) := by
  constructor
  · rintro rfl
    rfl
  · intro nonempty place member
    have shape := Node.wellFormed_ofList pairs nonempty
    exact (Node.wellFormed_places [] _ shape place member).sound

theorem Node.sound_places_ofList_branch :
    ([1, 3], Node.leaf [4, 4] [1, 3, 4, 4] 'c') ∈
      (Node.ofList [([1], 'a'), ([1, 2], 'b'), ([1, 3, 4, 4], 'c')]).places [] ∧
    (Node.leaf [4, 4] [1, 3, 4, 4] 'c').Sound [1, 3] := by
  have member : ([1, 3], Node.leaf [4, 4] [1, 3, 4, 4] 'c') ∈
      (Node.ofList [([1], 'a'), ([1, 2], 'b'), ([1, 3, 4, 4], 'c')]).places [] := by decide
  exact ⟨member, (Node.sound_places_ofList _).2 (by simp) _ member⟩

/-! ### The noted lengths -/

/-- `size` is the length of the shortest key. -/
structure Shortest (size : Int) (keys : List Key) : Prop where
  attained : ∃ key ∈ keys, (key.length : Int) = size
  least : ∀ key ∈ keys, size ≤ key.length

theorem shortest_singleton (key : Key) : Shortest key.length [key] where
  attained := ⟨key, by simp, rfl⟩
  least := by simp

theorem Shortest.append {first second : Int} {keys others : List Key}
    (left : Shortest first keys) (right : Shortest second others) :
    Shortest (min first second) (keys ++ others) where
  attained := by
    rcases Int.le_total first second with before | after
    · obtain ⟨key, member, size⟩ := left.attained
      exact ⟨key, List.mem_append_left others member, by omega⟩
    · obtain ⟨key, member, size⟩ := right.attained
      exact ⟨key, List.mem_append_right keys member, by omega⟩
  least := by
    intro key member
    rcases List.mem_append.mp member with inLeft | inRight
    · have bound := left.least key inLeft
      omega
    · have bound := right.least key inRight
      omega

def Node.keys (tree : Node α) : List Key := tree.entries.map Prod.fst

def Edges.keys (edges : Edges α) : List Key := edges.entries.map Prod.fst

mutual

theorem Node.WellFormed.shortest {path : Key} {tree : Node α} (shape : tree.WellFormed path) :
    Shortest tree.minSize tree.keys := by
  cases tree with
  | hole | empty => exact False.elim shape
  | leaf suffix key value => exact shortest_singleton key
  | inline key value rest =>
      obtain ⟨rfl, _, inner⟩ := shape
      have longer := Node.path_le_minSize key rest inner
      have both := (shortest_singleton key).append inner.shortest
      rwa [Int.min_eq_left longer] at both
  | run stem minSize rest =>
      obtain ⟨_, noted, _, inner⟩ := shape
      rw [Node.minSize_run, noted]
      exact inner.shortest
  | fanout minSize edges =>
      obtain ⟨_, least, inner⟩ := shape
      exact inner.shortest least

theorem Edges.WellFormed.shortest {path : Key} {edges : Edges α} {size : Int}
    (shape : edges.WellFormed path) (least : edges.sizes.min? = some size) :
    Shortest size edges.keys := by
  cases edges with
  | nil => simp [Edges.sizes] at least
  | cons label child rest =>
      obtain ⟨⟨b, _, inner⟩, _, others⟩ := shape
      have first := inner.shortest
      rw [Edges.keys, Edges.entries, List.map_append]
      rw [Edges.sizes, List.min?_cons, Option.some_inj] at least
      cases behind : rest.sizes.min? with
      | none =>
          have alone : rest = .nil := by
            cases rest with
            | nil => rfl
            | cons => simp [Edges.sizes] at behind
          rw [behind] at least
          subst alone least
          simpa [Node.keys, Edges.entries] using first
      | some second =>
          rw [behind] at least
          subst least
          exact first.append (others.shortest behind)

end

theorem Node.shortest_ofList (pairs : List (Key × α)) (nonempty : pairs ≠ []) :
    Shortest (Node.ofList pairs).minSize (pairs.map Prod.fst) := by
  induction pairs using List.reverseRecOn with
  | nil => exact False.elim (nonempty rfl)
  | append_singleton pairs pair ih =>
      rw [Node.ofList, List.foldl_concat, List.map_append]
      change Shortest ((Node.ofList pairs).insert pair.1 pair.2).minSize _
      by_cases first : pairs = []
      · subst first
        exact shortest_singleton pair.1
      · have shape := Node.wellFormed_ofList pairs first
        have step := Node.minSize_insertBelow [] pair.1 pair.2 _ shape
        rw [List.nil_append] at step
        rw [Node.insert, step]
        exact (ih first).append (shortest_singleton pair.1)

/-- The length noted at a node is that of the shortest key below it, and the one noted at the root
is that of the shortest key inserted. -/
theorem Node.minSize_shortest_ofList (pairs : List (Key × α)) :
    (pairs = [] → (Node.ofList pairs).minSize = 0) ∧
      (pairs ≠ [] → Shortest (Node.ofList pairs).minSize (pairs.map Prod.fst) ∧
        ∀ place ∈ (Node.ofList pairs).places [], Shortest place.2.minSize place.2.keys) := by
  constructor
  · rintro rfl
    rfl
  · intro nonempty
    have shape := Node.wellFormed_ofList pairs nonempty
    refine ⟨Node.shortest_ofList pairs nonempty, ?_⟩
    intro place member
    exact (Node.wellFormed_places [] _ shape place member).shortest

theorem Node.minSize_shortest_ofList_fanout :
    ([1], Node.fanout 3 (.cons 2 (.leaf [3, 4] [1, 2, 3, 4] 'a')
      (.cons 5 (.leaf [6] [1, 5, 6] 'c') .nil))) ∈
      (Node.ofList [([1, 2, 3, 4], 'a'), ([1], 'b'), ([1, 5, 6], 'c')]).places [] ∧
    Shortest 3 [[1, 2, 3, 4], [1, 5, 6]] := by
  have member : ([1], Node.fanout 3 (.cons 2 (.leaf [3, 4] [1, 2, 3, 4] 'a')
      (.cons 5 (.leaf [6] [1, 5, 6] 'c') .nil))) ∈
      (Node.ofList [([1, 2, 3, 4], 'a'), ([1], 'b'), ([1, 5, 6], 'c')]).places [] := by decide
  exact ⟨member, ((Node.minSize_shortest_ofList _).2 (by simp)).2 _ member⟩

end Palette.KeyTrie
