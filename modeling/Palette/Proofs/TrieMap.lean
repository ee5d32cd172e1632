import Palette.Ordered
import Palette.Proofs.TrieShape
import Mathlib.Logic.Function.Basic

/-!
A trie is a map from keys to values. Its search function is put together from two operations on
maps, `under` for bytes that all keys begin with and `Function.update` for a key that ends; in these
terms every rewrite of an insertion is the same statement, that one key is written.
-/

namespace Palette.KeyTrie

variable {α : Type}

def lastValue (pairs : List (Key × α)) (key : Key) : Option α := pairs.reverse.lookup key

theorem lastValue_append (pairs : List (Key × α)) (key : Key) (value : α) :
    lastValue (pairs ++ [(key, value)]) =
      Function.update (lastValue pairs) key (some value) := by
  funext query
  simp only [lastValue, List.reverse_append, List.reverse_cons, List.reverse_nil, List.nil_append,
    List.cons_append, List.lookup_cons, Function.update_apply]
  by_cases same : query = key
  · simp [same]
  · simp [same, beq_false_of_ne same]

theorem lastValue_eq_none_iff (pairs : List (Key × α)) (key : Key) :
    lastValue pairs key = none ↔ ∀ pair ∈ pairs, pair.1 ≠ key := by
  rw [lastValue, List.lookup_eq_none_iff]
  simp only [List.mem_reverse, bne_iff_ne, ne_comm]

theorem lastValue_split (before after : List (Key × α)) (key : Key) (value : α)
    (last : ∀ pair ∈ after, pair.1 ≠ key) :
    lastValue (before ++ (key, value) :: after) key = some value :=
  Ordered.lookup_reverse_split before after key value last

/-! ### Maps behind common bytes -/

/-- The map `search` moved behind `stem`. -/
def under (stem : Key) (search : Key → Option α) (query : Key) : Option α :=
  (stem.isPrefixOf? query).bind search

@[simp]
theorem under_nil (search : Key → Option α) : under [] search = search := by
  funext query
  simp [under, List.isPrefixOf?]

@[simp]
theorem under_apply_append (stem below : Key) (search : Key → Option α) :
    under stem search (stem ++ below) = search below := by
  have cut : stem.isPrefixOf? (stem ++ below) = some below := by simp
  rw [under, cut]
  rfl

theorem under_apply_outside (stem query : Key) (search : Key → Option α)
    (outside : ∀ below, query ≠ stem ++ below) : under stem search query = none := by
  rw [under, Option.bind_eq_none_iff]
  intro below cut
  exact False.elim (outside below (List.isPrefixOf?_eq_some_iff_append_eq.mp cut).symm)

/-- Two maps agree once they agree behind a stem and outside of it. -/
theorem under_ext (stem : Key) (search : Key → Option α) (map : Key → Option α)
    (inside : ∀ below, map (stem ++ below) = search below)
    (outside : ∀ query, (∀ below, query ≠ stem ++ below) → map query = none) :
    under stem search = map := by
  funext query
  by_cases within : ∃ below, query = stem ++ below
  · obtain ⟨below, rfl⟩ := within
    rw [under_apply_append, inside]
  · have apart : ∀ below, query ≠ stem ++ below := fun below same => within ⟨below, same⟩
    rw [under_apply_outside stem query search apart, outside query apart]

theorem under_append (first second : Key) (search : Key → Option α) :
    under (first ++ second) search = under first (under second search) := by
  symm
  apply under_ext
  · intro below
    by_cases within : ∃ deeper, below = second ++ deeper
    · obtain ⟨deeper, rfl⟩ := within
      rw [under_apply_append, ← List.append_assoc, under_apply_append]
    · have apart : ∀ deeper, below ≠ second ++ deeper := fun deeper same => within ⟨deeper, same⟩
      rw [under_apply_outside second below search apart]
      apply under_apply_outside
      intro deeper same
      exact apart deeper (List.append_cancel_left (by rw [same, List.append_assoc]))
  · intro query outside
    apply under_apply_outside
    intro below same
    exact outside (second ++ below) (by rw [same, List.append_assoc])

theorem under_update (stem key : Key) (value : Option α) (search : Key → Option α) :
    under stem (Function.update search key value) =
      Function.update (under stem search) (stem ++ key) value := by
  apply under_ext
  · intro below
    simp [Function.update_apply]
  · intro query outside
    rw [Function.update_of_ne (outside key)]
    exact under_apply_outside stem query search outside

theorem under_none (stem : Key) : under stem (fun _ => (none : Option α)) = fun _ => none := by
  apply under_ext <;> simp

/-! ### The maps of the single nodes -/

theorem Node.get?_leaf (suffix key : Key) (value : α) :
    (Node.leaf suffix key value).get? = Function.update (fun _ => none) suffix (some value) := by
  funext query
  rw [Node.get?, Function.update_apply]

theorem Node.get?_inline (key : Key) (value : α) (rest : Node α) :
    (Node.inline key value rest).get? = Function.update rest.get? [] (some value) := by
  funext query
  cases query <;> simp [Node.get?]

theorem Node.get?_run (stem : Key) (minSize : Int) (rest : Node α) :
    (Node.run stem minSize rest).get? = under stem rest.get? := by
  funext query
  rw [Node.get?, under]
  cases stem.isPrefixOf? query <;> rfl

theorem Node.get?_behind (stem : Key) (minSize : Int) (rest : Node α) :
    (Node.behind stem minSize rest).get? = under stem rest.get? := by
  cases stem with
  | nil => simp [Node.behind]
  | cons s stem => exact Node.get?_run (s :: stem) minSize rest

theorem Edges.get?_put (label b : UInt8) (child : Node α) (edges : Edges α) (below : Key) :
    (edges.put label.toNat child).get? b below =
      if b = label then child.get? below else edges.get? b below := by
  cases edges with
  | nil =>
      by_cases same : b = label
      · simp [Edges.put, Edges.get?, same]
      · simp [Edges.put, Edges.get?, same, byte_label_ne (Ne.symm same)]
  | cons first old rest =>
      by_cases here : (label.toNat : Int) = first
      · subst here
        by_cases same : b = label
        · simp [Edges.put, Edges.get?, same]
        · simp [Edges.put, Edges.get?, same, byte_label_ne (Ne.symm same)]
      · by_cases before : (label.toNat : Int) < first
        · by_cases same : b = label
          · simp [Edges.put, Edges.get?, here, before, same]
          · simp [Edges.put, Edges.get?, here, before, same, byte_label_ne (Ne.symm same)]
        · simp only [Edges.put, if_neg here, if_neg before, Edges.get?,
            Edges.get?_put label b child rest below]
          by_cases same : b = label
          · subst same
            rw [if_neg (Ne.symm here), if_pos rfl, if_pos rfl]
          · simp only [if_neg same]

/-- A fork whose second branch holds one key: that key is written beside the first branch. -/
theorem Node.get?_fork_leaf (minSize : Int) (s r : UInt8) (child : Node α) (keyRest key : Key)
    (value : α) (differ : s ≠ r) :
    (Node.fork minSize s child r (.leaf keyRest key value)).get? =
      Function.update (under [s] child.get?) (r :: keyRest) (some value) := by
  funext query
  cases query with
  | nil => rfl
  | cons b below =>
      have search : (Node.fork minSize s child r (.leaf keyRest key value)).get? (b :: below) =
          if b = r then (Node.leaf keyRest key value).get? below
          else if b = s then child.get? below else none := by
        change ((Edges.nil.put s.toNat child).put r.toNat
          (.leaf keyRest key value)).get? b below = _
        rw [Edges.get?_put, Edges.get?_put]
        rfl
      rw [search]
      simp only [Function.update_apply, List.cons.injEq]
      by_cases second : b = r
      · subst second
        simp [Node.get?, under, List.isPrefixOf?, differ]
      · by_cases first : b = s
        · subst first
          simp [second, under, List.isPrefixOf?]
        · simp [first, second, under, List.isPrefixOf?, Ne.symm first]

theorem Edges.get?_missing (edges : Edges α) (b : UInt8) (below : Key)
    (missing : (b.toNat : Int) ∉ edges.labels) : edges.get? b below = none := by
  cases edges with
  | nil => rfl
  | cons label child rest =>
      simp only [Edges.labels, List.mem_cons, not_or] at missing
      rw [Edges.get?, if_neg (Ne.symm missing.1)]
      exact Edges.get?_missing rest b below missing.2

/-! ### Insertion writes one key -/

mutual

theorem Node.get?_insertBelow (path rest : Key) (value : α) (tree : Node α)
    (shape : tree.WellFormed path) :
    (tree.insertBelow (path ++ rest) value rest).get? =
      Function.update tree.get? rest (some value) := by
  cases tree with
  | hole | empty => exact False.elim shape
  | leaf suffix stored old =>
      simp only [Node.insertBelow]
      rcases overlap_cases suffix rest with
        ⟨shared, s, suffixRest, r, keyRest, differ, rfl, rfl, cut⟩ |
        ⟨r, keyRest, rfl, cut⟩ | ⟨s, suffixRest, rfl, cut⟩ | ⟨rfl, cut⟩ <;> rw [cut]
      · simp only [Node.get?_behind, Node.get?_fork_leaf _ _ _ _ _ _ _ differ, Node.get?_leaf,
          under_update, under_none, List.singleton_append]
      · have apart : suffix ≠ suffix ++ r :: keyRest := by simp
        simp only [Node.get?_behind, Node.get?_inline, Node.get?_leaf, under_update, under_none,
          List.append_nil]
        exact Function.update_comm apart.symm _ _ _
      · simp only [Node.get?_behind, Node.get?_inline, Node.get?_leaf, under_update, under_none,
          List.append_nil]
      · simp only [Node.get?_leaf, Function.update_idem]
  | inline stored old below =>
      obtain ⟨rfl, _, inner⟩ := shape
      cases rest with
      | nil => simp only [Node.insertBelow, Node.get?_inline, Function.update_idem]
      | cons r keyRest =>
          rw [Node.insertBelow, Node.get?_inline, Node.get?_inline,
            Node.get?_insertBelow stored (r :: keyRest) value below inner]
          exact Function.update_comm (List.cons_ne_nil r keyRest) _ _ _
  | run stem minSize below =>
      obtain ⟨nonempty, noted, parts, inner⟩ := shape
      simp only [Node.insertBelow]
      rcases overlap_cases stem rest with
        ⟨shared, s, stemRest, r, keyRest, differ, rfl, rfl, cut⟩ |
        ⟨r, keyRest, rfl, cut⟩ | ⟨s, stemRest, rfl, cut⟩ | ⟨rfl, cut⟩ <;> rw [cut]
      · rw [Node.get?_behind, Node.get?_fork_leaf _ _ _ _ _ _ _ differ, Node.get?_behind,
          Node.get?_run, under_update, ← under_append, ← under_append, List.append_assoc,
          List.singleton_append]
      · have step := Node.get?_insertBelow (path ++ stem) (r :: keyRest) value below inner
        rw [List.append_assoc] at step
        simp only [Node.get?_run, step, under_update]
      · simp only [Node.get?_behind, Node.get?_inline, Node.get?_run, under_update,
          ← under_append, List.append_nil]
      · cases below with
        | inline stored old deepest =>
            simp only [Node.get?_run, Node.get?_inline, under_update, List.append_nil,
              Function.update_idem]
        | fanout least edges =>
            simp only [Node.get?_run, Node.get?_inline, under_update, List.append_nil]
        | hole | empty | leaf | run => exact False.elim parts
  | fanout minSize edges =>
      obtain ⟨_, _, inner⟩ := shape
      cases rest with
      | nil => simp only [Node.insertBelow, Node.get?_inline]
      | cons r keyRest =>
          funext query
          cases query with
          | nil => rfl
          | cons b query =>
              have step := Edges.get?_insertBelow path keyRest value r edges inner b query
              simp only [Function.update_apply, List.cons.injEq]
              exact step

theorem Edges.get?_insertBelow (path rest : Key) (value : α) (r : UInt8) (edges : Edges α)
    (shape : edges.WellFormed path) (b : UInt8) (below : Key) :
    (edges.insertBelow (path ++ r :: rest) value r rest).get? b below =
      if b = r ∧ below = rest then some value else edges.get? b below := by
  cases edges with
  | nil =>
      by_cases same : b = r
      · subst same
        simp [Edges.insertBelow, Edges.get?, Node.get?]
      · simp [Edges.insertBelow, Edges.get?, same, byte_label_ne (Ne.symm same)]
  | cons label child others =>
      obtain ⟨⟨c, rfl, inner⟩, ascending, outer⟩ := shape
      by_cases same : (r.toNat : Int) = c.toNat
      · obtain rfl : r = c := UInt8.toNat_inj.mp (by exact_mod_cast same)
        have step := Node.get?_insertBelow (path ++ [r]) rest value child inner
        rw [List.append_assoc, List.singleton_append] at step
        simp only [Edges.insertBelow, if_true, Edges.get?, step]
        by_cases here : b = r
        · subst here
          simp [Function.update_apply]
        · simp [here, byte_label_ne (Ne.symm here)]
      · by_cases before : (r.toNat : Int) < c.toNat
        · simp only [Edges.insertBelow, if_neg same, if_pos before, Edges.get?]
          by_cases here : b = r
          · subst here
            -- The byte is below all labels, so nothing was found for it.
            have missing : others.get? b below = none := by
              apply Edges.get?_missing
              intro member
              have above := ascending _ member
              omega
            simp [Node.get?, Ne.symm same, missing]
          · simp [here, byte_label_ne (Ne.symm here)]
        · simp only [Edges.insertBelow, if_neg same, if_neg before, Edges.get?,
            Edges.get?_insertBelow path rest value r others outer b below]
          by_cases here : b = r
          · subst here
            rw [if_neg (Ne.symm same), if_neg (Ne.symm same)]
          · simp [here]

end

theorem Node.get?_insert (tree : Node α) (root : tree.Root) (key : Key) (value : α) :
    (tree.insert key value).get? = Function.update tree.get? key (some value) := by
  rcases root with rfl | shape
  · have nothing : (Node.empty : Node α).get? = fun _ => none := by
      funext query
      rfl
    rw [nothing]
    exact Node.get?_leaf key key value
  · exact Node.get?_insertBelow [] key value tree shape

theorem Node.get?_ofList (pairs : List (Key × α)) :
    (Node.ofList pairs).get? = lastValue pairs := by
  have both := Node.ofList_induction
    (motive := fun pairs tree => tree.Root ∧ tree.get? = lastValue pairs)
    ⟨.inl rfl, rfl⟩
    (fun pairs tree key value kept =>
      ⟨.inr (Node.wellFormed_insert tree kept.1 key value), by
        rw [Node.get?_insert tree kept.1, lastValue_append, kept.2]⟩)
    pairs
  exact both.2

/-- Searching with a default gives the value of the last insertion of the key, and the default when
there was none. -/
theorem Node.getD_ofList (pairs : List (Key × α)) (query : Key) (default : α) :
    (∀ before value after, pairs = before ++ (query, value) :: after →
        (∀ pair ∈ after, pair.1 ≠ query) →
        ((Node.ofList pairs).get? query).getD default = value) ∧
      ((∀ pair ∈ pairs, pair.1 ≠ query) →
        ((Node.ofList pairs).get? query).getD default = default) := by
  rw [Node.get?_ofList]
  constructor
  · rintro before value after rfl last
    rw [lastValue_split before after query value last]
    rfl
  · intro never
    rw [(lastValue_eq_none_iff pairs query).mpr never]
    rfl

theorem Node.getD_ofList_overwritten :
    ((Node.ofList [([0x61], 1), ([], 2), ([0x61], 3), ([0x61, 0x62], 4)]).get? [0x61]).getD 0 = 3 ∧
      ((Node.ofList [([0x61], 1), ([], 2), ([0x61], 3), ([0x61, 0x62], 4)]).get? [0x62]).getD 0 =
        0 :=
  ⟨(Node.getD_ofList _ [0x61] 0).1 [([0x61], 1), ([], 2)] 3 [([0x61, 0x62], 4)] rfl (by decide),
    (Node.getD_ofList _ [0x62] 0).2 (by decide)⟩

/-! ### No key is shorter than the noted length -/

mutual

theorem Node.minSize_le_of_get? (path rest : Key) (tree : Node α) (shape : tree.WellFormed path)
    (found : tree.get? rest ≠ none) : tree.minSize ≤ ((path ++ rest).length : Int) := by
  cases tree with
  | hole | empty => exact False.elim shape
  | leaf suffix stored value =>
      obtain rfl : stored = path ++ suffix := shape
      by_cases whole : rest = suffix
      · rw [whole]
        exact Int.le_refl _
      · exact False.elim (found (by rw [Node.get?_leaf, Function.update_of_ne whole]))
  | inline stored value below =>
      obtain rfl : stored = path := shape.1
      rw [Node.minSize_inline, List.length_append]
      omega
  | run stem minSize below =>
      obtain ⟨_, noted, _, inner⟩ := shape
      by_cases within : ∃ deeper, rest = stem ++ deeper
      · obtain ⟨deeper, rfl⟩ := within
        rw [Node.get?_run, under_apply_append] at found
        rw [Node.minSize_run, noted, ← List.append_assoc]
        exact Node.minSize_le_of_get? (path ++ stem) deeper below inner found
      · rw [Node.get?_run] at found
        exact False.elim (found (under_apply_outside stem rest below.get?
          (fun deeper same => within ⟨deeper, same⟩)))
  | fanout minSize edges =>
      obtain ⟨_, least, inner⟩ := shape
      cases rest with
      | nil => exact False.elim (found rfl)
      | cons b below =>
          obtain ⟨size, member, bound⟩ := Edges.exists_size_le path below b edges inner found
          have lowest := (List.min?_eq_some_iff.mp least).2 size member
          rw [Node.minSize_fanout]
          omega

theorem Edges.exists_size_le (path below : Key) (b : UInt8) (edges : Edges α)
    (shape : edges.WellFormed path) (found : edges.get? b below ≠ none) :
    ∃ size ∈ edges.sizes, size ≤ ((path ++ b :: below).length : Int) := by
  cases edges with
  | nil => exact False.elim (found rfl)
  | cons label child others =>
      obtain ⟨⟨c, rfl, inner⟩, _, outer⟩ := shape
      by_cases here : c = b
      · subst here
        have step := Node.minSize_le_of_get? (path ++ [c]) below child inner
          (by simpa [Edges.get?] using found)
        exact ⟨child.minSize, by simp [Edges.sizes], by simpa using step⟩
      · obtain ⟨size, member, bound⟩ := Edges.exists_size_le path below b others outer
          (by simpa [Edges.get?, byte_label_ne here] using found)
        exact ⟨size, by simp [Edges.sizes, member], bound⟩

end

end Palette.KeyTrie
