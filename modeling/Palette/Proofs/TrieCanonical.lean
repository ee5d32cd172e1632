import Palette.Matcher.Languages
import Palette.Proofs.TrieMap

/-!
A well-formed trie is determined by its map. The kind of a node can be read off the keys below it:
a leaf has one key, an inline end has the empty key and others, the keys of a run have a first byte
in common, those of a fanout have none. So the order in which keys are inserted leaves no trace.
-/

namespace Palette.KeyTrie

variable {α : Type}

theorem Node.exists_key (path : Key) (tree : Node α) (shape : tree.WellFormed path) :
    ∃ key, tree.get? key ≠ none := by
  cases tree with
  | hole | empty => exact False.elim shape
  | leaf suffix stored value => exact ⟨suffix, by simp [Node.get?_leaf]⟩
  | inline stored value rest => exact ⟨[], by simp [Node.get?_inline]⟩
  | run stem minSize rest =>
      obtain ⟨key, found⟩ := Node.exists_key (path ++ stem) rest shape.2.2.2
      exact ⟨stem ++ key, by rwa [Node.get?_run, under_apply_append]⟩
  | fanout minSize edges =>
      obtain ⟨several, _, inner⟩ := shape
      cases edges with
      | nil => simp [Edges.labels] at several
      | cons label child others =>
          obtain ⟨⟨b, rfl, below⟩, _, _⟩ := inner
          obtain ⟨key, found⟩ := Node.exists_key (path ++ [b]) child below
          exact ⟨b :: key, by simpa [Node.get?, Edges.get?] using found⟩

theorem Edges.exists_key (path : Key) (label : Int) (child : Node α) (others : Edges α)
    (shape : (Edges.cons label child others).WellFormed path) :
    ∃ b key, (Edges.cons label child others).get? b key ≠ none := by
  obtain ⟨⟨b, rfl, below⟩, _, _⟩ := shape
  obtain ⟨key, found⟩ := Node.exists_key (path ++ [b]) child below
  exact ⟨b, key, by simpa [Edges.get?] using found⟩

theorem Node.get?_nil_of_goesOn (path : Key) (tree : Node α) (goesOn : tree.GoesOn)
    (shape : tree.WellFormed path) : tree.get? [] = none := by
  cases tree with
  | leaf suffix stored value => simp [Node.get?_leaf, Function.update_of_ne (Ne.symm goesOn)]
  | run stem minSize rest =>
      rw [Node.get?_run]
      apply under_apply_outside
      intro below same
      exact shape.1 (List.append_eq_nil_iff.mp same.symm).1
  | fanout minSize edges => rfl
  | hole | empty | inline => exact False.elim goesOn

/-- Where keys part, there is for every byte a key that does not begin with it. -/
theorem Node.exists_key_apart (path : Key) (tree : Node α) (parts : tree.Parts)
    (shape : tree.WellFormed path) (s : UInt8) :
    ∃ key, tree.get? key ≠ none ∧ ∀ below, key ≠ s :: below := by
  cases tree with
  | inline stored value rest => exact ⟨[], by simp [Node.get?_inline], by simp⟩
  | fanout minSize edges =>
      obtain ⟨several, _, inner⟩ := shape
      cases edges with
      | nil => simp [Edges.labels] at several
      | cons _ first others =>
          cases others with
          | nil => simp [Edges.labels] at several
          | cons _ second rest =>
              obtain ⟨⟨b, rfl, left⟩, ascending, ⟨c, rfl, right⟩, _, _⟩ := inner
              have apart : (b.toNat : Int) < c.toNat := ascending _ (by simp [Edges.labels])
              by_cases begins : b = s
              · obtain ⟨key, found⟩ := Node.exists_key (path ++ [c]) second right
                have skip : (b.toNat : Int) ≠ c.toNat := by omega
                refine ⟨c :: key, by simpa [Node.get?, Edges.get?, skip] using found, ?_⟩
                intro below same
                obtain rfl : c = s := (List.cons.inj same).1
                exact skip (by rw [begins])
              · obtain ⟨key, found⟩ := Node.exists_key (path ++ [b]) first left
                refine ⟨b :: key, by simpa [Node.get?, Edges.get?] using found, ?_⟩
                intro below same
                exact begins (List.cons.inj same).1
  | hole | empty | leaf | run => exact False.elim parts

theorem Node.exists_other_key (path : Key) (tree : Node α) (shape : tree.WellFormed path)
    (several : tree.Parts ∨ ∃ stem minSize rest, tree = .run stem minSize rest) (query : Key) :
    ∃ key, tree.get? key ≠ none ∧ key ≠ query := by
  cases tree with
  | inline stored value rest =>
      cases query with
      | nil =>
          obtain ⟨_, goesOn, inner⟩ := shape
          obtain ⟨key, found⟩ := Node.exists_key path rest inner
          have longer : key ≠ [] := by
            rintro rfl
            exact found (Node.get?_nil_of_goesOn path rest goesOn inner)
          exact ⟨key, by rwa [Node.get?_inline, Function.update_of_ne longer], longer⟩
      | cons s below => exact ⟨[], by simp [Node.get?_inline], by simp⟩
  | fanout minSize edges =>
      cases query with
      | nil =>
          obtain ⟨key, found⟩ := Node.exists_key path (.fanout minSize edges) shape
          exact ⟨key, found, by rintro rfl; exact found rfl⟩
      | cons s below =>
          obtain ⟨key, found, apart⟩ :=
            Node.exists_key_apart path (.fanout minSize edges) trivial shape s
          exact ⟨key, found, apart below⟩
  | run stem minSize rest =>
      obtain ⟨_, _, parts, inner⟩ := shape
      by_cases within : ∃ below, query = stem ++ below
      · obtain ⟨below, rfl⟩ := within
        obtain ⟨key, found, differ⟩ :=
          Node.exists_other_key (path ++ stem) rest inner (.inl parts) below
        exact ⟨stem ++ key, by rwa [Node.get?_run, under_apply_append],
          fun same => differ (List.append_cancel_left same)⟩
      · obtain ⟨key, found⟩ := Node.exists_key (path ++ stem) rest inner
        exact ⟨stem ++ key, by rwa [Node.get?_run, under_apply_append],
          fun same => within ⟨key, same.symm⟩⟩
  | hole | empty => exact False.elim shape
  | leaf => simp [Node.Parts] at several

/-- A key behind one stem also begins with the other, if the maps are the same. -/
theorem begins_of_under_eq {first second : Key} {left right : Key → Option α} {key : Key}
    (same : under first left = under second right) (found : left key ≠ none) :
    ∃ below, first ++ key = second ++ below := by
  by_contra outside
  apply found
  rw [← under_apply_append first key left, same]
  exact under_apply_outside second _ right (fun below equal => outside ⟨below, equal⟩)

/-- The stem of a run is the longest common start of its keys. -/
theorem Node.stem_unique (path first second : Key) (left right : Node α) (leftParts : left.Parts)
    (rightParts : right.Parts) (leftShape : left.WellFormed (path ++ first))
    (rightShape : right.WellFormed (path ++ second))
    (same : under first left.get? = under second right.get?) : first = second := by
  rcases overlap_cases first second with ⟨shared, s, _, r, _, differ, rfl, rfl, _⟩ |
    ⟨r, keyRest, rfl, _⟩ | ⟨s, storedRest, rfl, _⟩ | ⟨rfl, _⟩
  · obtain ⟨key, found⟩ := Node.exists_key _ left leftShape
    obtain ⟨below, equal⟩ := begins_of_under_eq same found
    simp [differ] at equal
  · obtain ⟨key, found, apart⟩ := Node.exists_key_apart _ left leftParts leftShape r
    obtain ⟨below, equal⟩ := begins_of_under_eq same found
    rw [List.append_assoc] at equal
    exact False.elim (apart _ (List.append_cancel_left equal))
  · obtain ⟨key, found, apart⟩ := Node.exists_key_apart _ right rightParts rightShape s
    obtain ⟨below, equal⟩ := begins_of_under_eq same.symm found
    rw [List.append_assoc] at equal
    exact False.elim (apart _ (List.append_cancel_left equal))
  · rfl

/-! ### The kind of a node, read off its keys -/

theorem Node.key_of_leaf (suffix stored key : Key) (value : α)
    (found : (Node.leaf suffix stored value).get? key ≠ none) : key = suffix := by
  by_contra differ
  exact found (by rw [Node.get?_leaf, Function.update_of_ne differ])

theorem Node.key_of_run (stem key : Key) (minSize : Int) (rest : Node α)
    (found : (Node.run stem minSize rest).get? key ≠ none) : ∃ below, key = stem ++ below := by
  by_contra outside
  apply found
  rw [Node.get?_run]
  exact under_apply_outside stem key rest.get? (fun below same => outside ⟨below, same⟩)

theorem Node.leaf_of_keys (path query : Key) (tree : Node α) (shape : tree.WellFormed path)
    (single : ∀ key, tree.get? key ≠ none → key = query) :
    ∃ suffix key value, tree = .leaf suffix key value := by
  cases tree with
  | hole | empty => exact False.elim shape
  | leaf suffix key value => exact ⟨suffix, key, value, rfl⟩
  | inline key value rest =>
      obtain ⟨other, found, differ⟩ := Node.exists_other_key path _ shape (.inl trivial) query
      exact False.elim (differ (single other found))
  | run stem minSize rest =>
      obtain ⟨other, found, differ⟩ :=
        Node.exists_other_key path _ shape (.inr ⟨stem, minSize, rest, rfl⟩) query
      exact False.elim (differ (single other found))
  | fanout minSize edges =>
      obtain ⟨other, found, differ⟩ := Node.exists_other_key path _ shape (.inl trivial) query
      exact False.elim (differ (single other found))

theorem Node.inline_of_keys (path : Key) (tree : Node α) (shape : tree.WellFormed path)
    (ends : tree.get? [] ≠ none) (longer : ∃ key, tree.get? key ≠ none ∧ key ≠ []) :
    ∃ key value rest, tree = .inline key value rest := by
  cases tree with
  | hole | empty => exact False.elim shape
  | leaf suffix stored value =>
      obtain ⟨key, found, differ⟩ := longer
      have whole := Node.key_of_leaf suffix stored [] value ends
      exact False.elim (differ ((Node.key_of_leaf suffix stored key value found).trans whole.symm))
  | inline key value rest => exact ⟨key, value, rest, rfl⟩
  | run stem minSize rest =>
      exact False.elim (ends (Node.get?_nil_of_goesOn path (.run stem minSize rest) trivial shape))
  | fanout minSize edges => exact False.elim (ends rfl)

theorem Node.run_of_keys (path : Key) (tree : Node α) (shape : tree.WellFormed path) (s : UInt8)
    (begins : ∀ key, tree.get? key ≠ none → ∃ below, key = s :: below)
    (several : ∀ query, ∃ key, tree.get? key ≠ none ∧ key ≠ query) :
    ∃ stem minSize rest, tree = .run stem minSize rest := by
  cases tree with
  | hole | empty => exact False.elim shape
  | leaf suffix stored value =>
      obtain ⟨key, found, differ⟩ := several suffix
      exact False.elim (differ (Node.key_of_leaf suffix stored key value found))
  | run stem minSize rest => exact ⟨stem, minSize, rest, rfl⟩
  | inline key value rest =>
      obtain ⟨other, found, apart⟩ :=
        Node.exists_key_apart path (.inline key value rest) trivial shape s
      obtain ⟨below, same⟩ := begins other found
      exact False.elim (apart below same)
  | fanout minSize edges =>
      obtain ⟨other, found, apart⟩ :=
        Node.exists_key_apart path (.fanout minSize edges) trivial shape s
      obtain ⟨below, same⟩ := begins other found
      exact False.elim (apart below same)

theorem Node.fanout_of_keys (path : Key) (tree : Node α) (shape : tree.WellFormed path)
    (goesOn : tree.get? [] = none)
    (parts : ∀ s, ∃ key, tree.get? key ≠ none ∧ ∀ below, key ≠ s :: below) :
    ∃ minSize edges, tree = .fanout minSize edges := by
  cases tree with
  | hole | empty => exact False.elim shape
  | leaf suffix stored value =>
      cases suffix with
      | nil => simp [Node.get?_leaf] at goesOn
      | cons s below =>
          obtain ⟨key, found, apart⟩ := parts s
          exact False.elim (apart below (Node.key_of_leaf (s :: below) stored key value found))
  | inline key value rest => simp [Node.get?_inline] at goesOn
  | run stem minSize rest =>
      cases stem with
      | nil => exact False.elim (shape.1 rfl)
      | cons s stem =>
          obtain ⟨key, found, apart⟩ := parts s
          obtain ⟨below, same⟩ := Node.key_of_run (s :: stem) key minSize rest found
          exact False.elim (apart (stem ++ below) same)
  | fanout minSize edges => exact ⟨minSize, edges, rfl⟩

/-! ### Extensionality -/

theorem Edges.first_label_le (path : Key) (b c : UInt8) (child child' : Node α)
    (others others' : Edges α) (inner : child.WellFormed (path ++ [b]))
    (ascending' : ∀ other ∈ others'.labels, (c.toNat : Int) < other)
    (same : ∀ byte below, (Edges.cons b.toNat child others).get? byte below =
      (Edges.cons c.toNat child' others').get? byte below) : (c.toNat : Int) ≤ b.toNat := by
  by_contra before
  obtain ⟨key, found⟩ := Node.exists_key (path ++ [b]) child inner
  have absent : (Edges.cons c.toNat child' others').get? b key = none := by
    apply Edges.get?_missing
    intro member
    rcases List.mem_cons.mp member with here | later
    · omega
    · have above := ascending' _ later
      omega
  rw [← same b key] at absent
  exact found (by simpa [Edges.get?] using absent)

mutual

theorem Node.eq_of_get? (path : Key) (first second : Node α) (left : first.WellFormed path)
    (right : second.WellFormed path) (same : first.get? = second.get?) : first = second := by
  cases first with
  | hole | empty => exact False.elim left
  | leaf suffix key value =>
      obtain ⟨suffix', key', value', rfl⟩ := Node.leaf_of_keys path suffix second right (by
        rw [← same]
        exact fun query => Node.key_of_leaf suffix key query value)
      have here : (Node.leaf suffix' key' value').get? suffix = some value := by
        rw [← same, Node.get?_leaf, Function.update_self]
      obtain rfl : suffix = suffix' := Node.key_of_leaf suffix' key' suffix value' (by simp [here])
      rw [Node.get?_leaf, Function.update_self, Option.some.injEq] at here
      obtain rfl : key = path ++ suffix := left
      obtain rfl : key' = path ++ suffix := right
      rw [here]
  | inline key value rest =>
      obtain ⟨other, found, differ⟩ := Node.exists_other_key path _ left (.inl trivial) []
      obtain ⟨key', value', rest', rfl⟩ := Node.inline_of_keys path second right
        (by simp [← same, Node.get?_inline]) ⟨other, by rwa [← same], differ⟩
      obtain ⟨rfl, goesOn, inner⟩ := left
      obtain ⟨rfl, goesOn', inner'⟩ := right
      rw [Node.get?_inline, Node.get?_inline] at same
      have values : some value = some value' := by
        simpa using congrFun same []
      have below : rest.get? = rest'.get? := by
        funext query
        by_cases ends : query = []
        · rw [ends, Node.get?_nil_of_goesOn key' rest goesOn inner,
            Node.get?_nil_of_goesOn key' rest' goesOn' inner']
        · simpa [Function.update_of_ne ends] using congrFun same query
      rw [Node.eq_of_get? key' rest rest' inner inner' below, Option.some.inj values]
  | run stem minSize rest =>
      obtain ⟨s, stemRest, begins⟩ := List.exists_cons_of_ne_nil left.1
      obtain ⟨stem', minSize', rest', rfl⟩ := Node.run_of_keys path second right s
        (by
          intro key found
          obtain ⟨below, rfl⟩ := Node.key_of_run stem key minSize rest (by rwa [same])
          exact ⟨stemRest ++ below, by rw [begins]; rfl⟩)
        (by
          rw [← same]
          exact Node.exists_other_key path _ left (.inr ⟨stem, minSize, rest, rfl⟩))
      obtain ⟨_, noted, parts, inner⟩ := left
      obtain ⟨_, noted', parts', inner'⟩ := right
      rw [Node.get?_run, Node.get?_run] at same
      obtain rfl := Node.stem_unique path stem stem' rest rest' parts parts' inner inner' same
      have below : rest.get? = rest'.get? := by
        funext query
        rw [← under_apply_append stem query rest.get?, same, under_apply_append]
      have equal := Node.eq_of_get? (path ++ stem) rest rest' inner inner' below
      rw [noted, noted', equal]
  | fanout minSize edges =>
      obtain ⟨minSize', edges', rfl⟩ := Node.fanout_of_keys path second right (by rw [← same]; rfl)
        (by rw [← same]; exact Node.exists_key_apart path _ trivial left)
      obtain ⟨_, least, inner⟩ := left
      obtain ⟨_, least', inner'⟩ := right
      have equal := Edges.eq_of_get? path edges edges' inner inner'
        (fun b below => congrFun same (b :: below))
      rw [equal, least'] at least
      rw [equal, Option.some.inj least]

theorem Edges.eq_of_get? (path : Key) (first second : Edges α) (left : first.WellFormed path)
    (right : second.WellFormed path)
    (same : ∀ b below, first.get? b below = second.get? b below) : first = second := by
  cases first with
  | nil =>
      cases second with
      | nil => rfl
      | cons label child others =>
          obtain ⟨b, key, found⟩ := Edges.exists_key path label child others right
          exact False.elim (found (same b key).symm)
  | cons label child others =>
      cases second with
      | nil =>
          obtain ⟨b, key, found⟩ := Edges.exists_key path label child others left
          exact False.elim (found (same b key))
      | cons label' child' others' =>
          obtain ⟨⟨b, rfl, inner⟩, ascending, outer⟩ := left
          obtain ⟨⟨c, rfl, inner'⟩, ascending', outer'⟩ := right
          have notAfter := Edges.first_label_le path b c child child' others others' inner
            ascending' same
          have notBefore := Edges.first_label_le path c b child' child others' others inner'
            ascending (fun byte below => (same byte below).symm)
          obtain rfl : b = c := UInt8.toNat_inj.mp (by omega)
          have here : child.get? = child'.get? := by
            funext query
            simpa [Edges.get?] using same b query
          have later : ∀ byte below, others.get? byte below = others'.get? byte below := by
            intro byte below
            by_cases first : (b.toNat : Int) = byte.toNat
            · rw [Edges.get?_missing others, Edges.get?_missing others']
              · exact fun member => absurd (ascending' _ member) (by omega)
              · exact fun member => absurd (ascending _ member) (by omega)
            · simpa [Edges.get?, first] using same byte below
          rw [Node.eq_of_get? (path ++ [b]) child child' inner inner' here,
            Edges.eq_of_get? path others others' outer outer' later]

end

theorem Node.eq_of_root_get? (first second : Node α) (left : first.Root) (right : second.Root)
    (same : first.get? = second.get?) : first = second := by
  rcases left with rfl | left <;> rcases right with rfl | right
  · rfl
  · obtain ⟨key, found⟩ := Node.exists_key [] second right
    exact False.elim (found (by rw [← same]; rfl))
  · obtain ⟨key, found⟩ := Node.exists_key [] first left
    exact False.elim (found (by rw [same]; rfl))
  · exact Node.eq_of_get? [] first second left right same

theorem Node.ofList_congr (first second : List (Key × α))
    (same : lastValue first = lastValue second) : Node.ofList first = Node.ofList second := by
  apply Node.eq_of_root_get? _ _ (Node.root_ofList first) (Node.root_ofList second)
  rw [Node.get?_ofList, Node.get?_ofList, same]

/-- Insertions that end in the same map give the same trie, and so the same printed function. -/
theorem Node.ofList_canonical :
    (∀ {β : Type} (first second : List (Key × β)),
        (∀ key, lastValue first key = lastValue second key) →
        Node.ofList first = Node.ofList second) ∧
      ∀ first second : List (Key × Int), (∀ key, lastValue first key = lastValue second key) →
        ∀ (dialect : Matcher.Dialect) (unit : String),
          Printer.render unit (dialect.function (Node.ofList first)) =
            Printer.render unit (dialect.function (Node.ofList second)) := by
  refine ⟨fun first second same => Node.ofList_congr first second (funext same), ?_⟩
  intro first second same dialect unit
  rw [Node.ofList_congr first second (funext same)]

theorem Node.ofList_canonical_reordered :
    Node.ofList [([0x61], 1), ([0x62], 2), ([0x61], (3 : Int))] =
      Node.ofList [([0x62], 2), ([0x61], 3)] ∧
    Printer.render "\t" (Matcher.Dialect.cpp.function
        (Node.ofList [([0x61], 1), ([0x62], 2), ([0x61], (3 : Int))])) =
      Printer.render "\t" (Matcher.Dialect.cpp.function
        (Node.ofList [([0x62], 2), ([0x61], 3)])) := by
  have same : ∀ key, lastValue [([0x61], 1), ([0x62], 2), ([0x61], (3 : Int))] key =
      lastValue [([0x62], 2), ([0x61], 3)] key := by
    intro key
    simp only [lastValue, List.reverse_cons, List.reverse_nil, List.nil_append, List.cons_append,
      List.lookup_cons]
    cases key == [0x61] <;> cases key == [0x62] <;> rfl
  exact ⟨Node.ofList_canonical.1 _ _ same, Node.ofList_canonical.2 _ _ same _ _⟩

end Palette.KeyTrie
