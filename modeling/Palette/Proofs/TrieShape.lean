import Palette.KeyTrie.Insert
import Mathlib.Data.List.Basic
import Mathlib.Data.List.Induction

/-!
The shape that insertion keeps. Written for the bytes `path` consumed above a node, it fixes every
stored key, says which node may follow which, and makes each noted length exact. Nothing else is
needed of a trie in order to search it, to lower it to comparisons, or to tell it from another one.
-/

namespace Palette.KeyTrie

variable {α : Type}

/-- The four ways in which a key lies over stored bytes, each with the cut that it makes. -/
theorem overlap_cases (stored key : Key) :
    (∃ shared s storedRest r keyRest, s ≠ r ∧ stored = shared ++ s :: storedRest ∧
      key = shared ++ r :: keyRest ∧
      overlap stored key = ⟨shared, s :: storedRest, r :: keyRest⟩) ∨
    (∃ r keyRest, key = stored ++ r :: keyRest ∧
      overlap stored key = ⟨stored, [], r :: keyRest⟩) ∨
    (∃ s storedRest, stored = key ++ s :: storedRest ∧
      overlap stored key = ⟨key, s :: storedRest, []⟩) ∨
    (stored = key ∧ overlap stored key = ⟨key, [], []⟩) := by
  induction stored generalizing key with
  | nil =>
      cases key with
      | nil => exact .inr (.inr (.inr ⟨rfl, rfl⟩))
      | cons r keyRest => exact .inr (.inl ⟨r, keyRest, rfl, rfl⟩)
  | cons s stored ih =>
      cases key with
      | nil => exact .inr (.inr (.inl ⟨s, stored, rfl, rfl⟩))
      | cons r key =>
          by_cases same : s = r
          · subst same
            rcases ih key with ⟨shared, t, storedRest, u, keyRest, differ, rfl, rfl, cut⟩ |
              ⟨u, keyRest, rfl, cut⟩ | ⟨t, storedRest, rfl, cut⟩ | ⟨rfl, cut⟩
            · exact .inl ⟨s :: shared, t, storedRest, u, keyRest, differ, rfl, rfl,
                by simp [overlap, cut]⟩
            · exact .inr (.inl ⟨u, keyRest, rfl, by simp [overlap, cut]⟩)
            · exact .inr (.inr (.inl ⟨t, storedRest, rfl, by simp [overlap, cut]⟩))
            · exact .inr (.inr (.inr ⟨rfl, by simp [overlap, cut]⟩))
          · exact .inl ⟨[], s, stored, r, key, same, rfl, rfl, by simp [overlap, same]⟩

@[simp]
theorem Node.minSize_leaf (suffix key : Key) (value : α) :
    (Node.leaf suffix key value).minSize = key.length := rfl

@[simp]
theorem Node.minSize_inline (key : Key) (value : α) (rest : Node α) :
    (Node.inline key value rest).minSize = key.length := rfl

@[simp]
theorem Node.minSize_run (stem : Key) (minSize : Int) (rest : Node α) :
    (Node.run stem minSize rest).minSize = minSize := rfl

@[simp]
theorem Node.minSize_fanout (minSize : Int) (edges : Edges α) :
    (Node.fanout minSize edges).minSize = minSize := rfl

/-- The keys below have no first byte in common, so a run may end here. -/
def Node.Parts : Node α → Prop
  | .inline _ _ _ | .fanout _ _ => True
  | .hole | .empty | .leaf _ _ _ | .run _ _ _ => False

/-- All keys below go on by at least one byte, so a key may end above. -/
def Node.GoesOn : Node α → Prop
  | .leaf suffix _ _ => suffix ≠ []
  | .run _ _ _ | .fanout _ _ => True
  | .hole | .empty | .inline _ _ _ => False

def Edges.labels : Edges α → List Int
  | .nil => []
  | .cons label _ rest => label :: rest.labels

def Edges.sizes : Edges α → List Int
  | .nil => []
  | .cons _ child rest => child.minSize :: rest.sizes

mutual

/-- A node as insertion leaves it below the bytes `path`, never a hole nor the empty tree. -/
def Node.WellFormed (path : Key) : Node α → Prop
  | .hole | .empty => False
  | .leaf suffix key _ => key = path ++ suffix
  | .inline key _ rest => key = path ∧ rest.GoesOn ∧ rest.WellFormed path
  | .run stem minSize rest =>
      stem ≠ [] ∧ minSize = rest.minSize ∧ rest.Parts ∧ rest.WellFormed (path ++ stem)
  | .fanout minSize edges =>
      2 ≤ edges.labels.length ∧ edges.sizes.min? = some minSize ∧ edges.WellFormed path

def Edges.WellFormed (path : Key) : Edges α → Prop
  | .nil => True
  | .cons label child rest =>
      (∃ b : UInt8, label = b.toNat ∧ child.WellFormed (path ++ [b])) ∧
        (∀ other ∈ rest.labels, label < other) ∧ rest.WellFormed path

end

def Node.Root (tree : Node α) : Prop := tree = .empty ∨ tree.WellFormed []

mutual

theorem Node.path_le_minSize (path : Key) (tree : Node α) (shape : tree.WellFormed path) :
    (path.length : Int) ≤ tree.minSize := by
  cases tree with
  | hole => exact False.elim shape
  | empty => exact False.elim shape
  | leaf suffix key value =>
      obtain rfl : key = path ++ suffix := shape
      rw [Node.minSize_leaf, List.length_append]
      omega
  | inline key value rest =>
      obtain rfl : key = path := shape.1
      simp
  | run stem minSize rest =>
      obtain ⟨_, noted, _, below⟩ := shape
      have bound := Node.path_le_minSize (path ++ stem) rest below
      rw [List.length_append] at bound
      rw [Node.minSize_run, noted]
      omega
  | fanout minSize edges =>
      obtain ⟨_, least, below⟩ := shape
      exact Int.le_of_lt (Edges.path_lt_sizes path edges below minSize (List.min?_mem least))

theorem Edges.path_lt_sizes (path : Key) (edges : Edges α) (shape : edges.WellFormed path) :
    ∀ size ∈ edges.sizes, (path.length : Int) < size := by
  cases edges with
  | nil => simp [Edges.sizes]
  | cons label child rest =>
      obtain ⟨⟨b, _, below⟩, _, others⟩ := shape
      have bound := Node.path_le_minSize (path ++ [b]) child below
      rw [List.length_append, List.length_singleton] at bound
      intro size member
      rcases List.mem_cons.mp member with rfl | later
      · omega
      · exact Edges.path_lt_sizes path rest others size later

end

/-! ### Runs and forks that insertion builds -/

theorem Node.minSize_behind (stem : Key) (minSize : Int) (rest : Node α)
    (noted : minSize = rest.minSize) : (Node.behind stem minSize rest).minSize = minSize := by
  cases stem with
  | nil => exact noted.symm
  | cons s stem => rfl

theorem Node.wellFormed_behind (path stem : Key) (minSize : Int) (rest : Node α)
    (noted : minSize = rest.minSize) (parts : rest.Parts)
    (shape : rest.WellFormed (path ++ stem)) :
    (Node.behind stem minSize rest).WellFormed path := by
  cases stem with
  | nil => simpa [Node.behind] using shape
  | cons s stem => exact ⟨List.cons_ne_nil s stem, noted, parts, shape⟩

theorem Node.goesOn_behind (stem : Key) (minSize : Int) (rest : Node α)
    (goesOn : stem ≠ [] ∨ rest.GoesOn) : (Node.behind stem minSize rest).GoesOn := by
  cases stem with
  | nil => simpa [Node.behind] using goesOn
  | cons s stem => trivial

theorem byte_label_ne {b c : UInt8} (differ : b ≠ c) : (b.toNat : Int) ≠ c.toNat := by
  intro same
  exact differ (UInt8.toNat_inj.mp (by exact_mod_cast same))

theorem Node.wellFormed_pair (path : Key) (b c : UInt8) (child other : Node α)
    (before : (b.toNat : Int) < c.toNat) (left : child.WellFormed (path ++ [b]))
    (right : other.WellFormed (path ++ [c])) :
    (Node.fanout (min child.minSize other.minSize)
      (.cons b.toNat child (.cons c.toNat other .nil))).WellFormed path := by
  refine ⟨by simp [Edges.labels], by simp [Edges.sizes], ⟨b, rfl, left⟩, ?_, ⟨c, rfl, right⟩, ?_,
    trivial⟩
  · simpa [Edges.labels] using before
  · simp [Edges.labels]

theorem Node.wellFormed_fork (path : Key) (minSize : Int) (b c : UInt8) (child other : Node α)
    (noted : minSize = min child.minSize other.minSize) (differ : b ≠ c)
    (left : child.WellFormed (path ++ [b])) (right : other.WellFormed (path ++ [c])) :
    (Node.fork minSize b child c other).WellFormed path := by
  subst noted
  have labels : (c.toNat : Int) ≠ b.toNat := byte_label_ne (Ne.symm differ)
  by_cases before : (c.toNat : Int) < b.toNat
  · simp only [Node.fork, Edges.put, if_neg labels, if_pos before]
    rw [Int.min_comm]
    exact Node.wellFormed_pair path c b other child before right left
  · simp only [Node.fork, Edges.put, if_neg labels, if_neg before]
    exact Node.wellFormed_pair path b c child other (by omega) left right

/-! ### Insertion -/

/-- Below an inline end or a fanout only the kind of node matters, and it stays. -/
theorem Node.parts_insertBelow (key rest : Key) (value : α) (tree : Node α) (parts : tree.Parts)
    (more : rest ≠ []) : (tree.insertBelow key value rest).Parts := by
  obtain ⟨r, keyRest, rfl⟩ := List.exists_cons_of_ne_nil more
  cases tree with
  | inline stored old below => trivial
  | fanout minSize edges => trivial
  | hole | empty | leaf | run => exact False.elim parts

theorem Node.goesOn_insertBelow (key rest : Key) (value : α) (tree : Node α) (goesOn : tree.GoesOn)
    (more : rest ≠ []) : (tree.insertBelow key value rest).GoesOn := by
  cases tree with
  | leaf suffix stored old =>
      simp only [Node.insertBelow]
      rcases overlap_cases suffix rest with ⟨shared, s, suffixRest, r, keyRest, _, rfl, rfl, cut⟩ |
        ⟨r, keyRest, rfl, cut⟩ | ⟨s, suffixRest, rfl, cut⟩ | ⟨rfl, cut⟩ <;> rw [cut]
      · exact Node.goesOn_behind _ _ _ (.inr trivial)
      · exact Node.goesOn_behind _ _ _ (.inl goesOn)
      · exact Node.goesOn_behind _ _ _ (.inl more)
      · exact goesOn
  | run stem minSize below =>
      simp only [Node.insertBelow]
      rcases overlap_cases stem rest with ⟨shared, s, stemRest, r, keyRest, _, rfl, rfl, cut⟩ |
        ⟨r, keyRest, rfl, cut⟩ | ⟨s, stemRest, rfl, cut⟩ | ⟨rfl, cut⟩ <;> rw [cut]
      · exact Node.goesOn_behind _ _ _ (.inr trivial)
      · trivial
      · exact Node.goesOn_behind _ _ _ (.inl more)
      · cases below <;> trivial
  | fanout minSize edges =>
      obtain ⟨r, keyRest, rfl⟩ := List.exists_cons_of_ne_nil more
      trivial
  | hole | empty | inline => exact False.elim goesOn

/-- The noted length follows the new key, whichever rewrite takes place. -/
theorem Node.minSize_insertBelow (path rest : Key) (value : α) (tree : Node α)
    (shape : tree.WellFormed path) :
    (tree.insertBelow (path ++ rest) value rest).minSize =
      min tree.minSize ((path ++ rest).length : Int) := by
  have floor := Node.path_le_minSize path tree shape
  cases tree with
  | hole | empty => exact False.elim shape
  | leaf suffix stored old =>
      obtain rfl : stored = path ++ suffix := shape
      simp only [Node.insertBelow]
      rcases overlap_cases suffix rest with ⟨shared, s, suffixRest, r, keyRest, _, rfl, rfl, cut⟩ |
        ⟨r, keyRest, rfl, cut⟩ | ⟨s, suffixRest, rfl, cut⟩ | ⟨rfl, cut⟩ <;> rw [cut]
      · cases shared <;> rfl
      · cases suffix with
        | nil => simp only [Node.behind, List.isEmpty_nil, if_true, Node.minSize_inline,
            Node.minSize_leaf, List.length_append]; omega
        | cons s suffix => rfl
      · cases rest with
        | nil => simp only [Node.behind, List.isEmpty_nil, if_true, Node.minSize_inline,
            Node.minSize_leaf, List.length_append]; omega
        | cons r rest => rfl
      · simp
  | inline stored old below =>
      obtain rfl : stored = path := shape.1
      cases rest with
      | nil => simp [Node.insertBelow]
      | cons r keyRest =>
          rw [Node.insertBelow, Node.minSize_inline, Node.minSize_inline, List.length_append]
          omega
  | run stem minSize below =>
      obtain ⟨nonempty, noted, parts, inner⟩ := shape
      have deeper := Node.path_le_minSize (path ++ stem) below inner
      simp only [Node.insertBelow]
      rcases overlap_cases stem rest with ⟨shared, s, stemRest, r, keyRest, _, rfl, rfl, cut⟩ |
        ⟨r, keyRest, rfl, cut⟩ | ⟨s, stemRest, rfl, cut⟩ | ⟨rfl, cut⟩ <;> rw [cut]
      · cases shared <;> rfl
      · rfl
      · cases rest with
        | nil => simp [Node.behind] at floor ⊢; omega
        | cons r keyRest => rfl
      · cases below with
        | inline stored old deepest =>
            obtain rfl : stored = path ++ stem := inner.1
            simp [noted]
        | hole | empty | leaf | run | fanout => rfl
  | fanout minSize edges =>
      cases rest with
      | nil => simp [Node.insertBelow] at floor ⊢; omega
      | cons r keyRest => rfl

theorem Edges.mem_labels_insertBelow (key rest : Key) (value : α) (b : UInt8) (edges : Edges α)
    (label : Int) :
    label ∈ (edges.insertBelow key value b rest).labels ↔
      label = b.toNat ∨ label ∈ edges.labels := by
  cases edges with
  | nil => simp [Edges.insertBelow, Edges.labels]
  | cons first child others =>
      by_cases same : (b.toNat : Int) = first
      · simp [Edges.insertBelow, Edges.labels, same]
      · by_cases before : (b.toNat : Int) < first
        · simp [Edges.insertBelow, Edges.labels, same, before]
        · simp only [Edges.insertBelow, if_neg same, if_neg before, Edges.labels, List.mem_cons,
            Edges.mem_labels_insertBelow key rest value b others label]
          exact or_left_comm

theorem Edges.length_labels_insertBelow (key rest : Key) (value : α) (b : UInt8)
    (edges : Edges α) :
    edges.labels.length ≤ (edges.insertBelow key value b rest).labels.length := by
  cases edges with
  | nil => simp [Edges.labels]
  | cons first child others =>
      by_cases same : (b.toNat : Int) = first
      · simp [Edges.insertBelow, Edges.labels, same]
      · by_cases before : (b.toNat : Int) < first
        · simp [Edges.insertBelow, Edges.labels, same, before]
        · simp only [Edges.insertBelow, if_neg same, if_neg before, Edges.labels, List.length_cons]
          exact Nat.succ_le_succ (Edges.length_labels_insertBelow key rest value b others)

theorem Edges.sizes_insertBelow (path rest : Key) (value : α) (b : UInt8) (edges : Edges α)
    (shape : edges.WellFormed path) :
    (edges.insertBelow (path ++ b :: rest) value b rest).sizes.min? =
      some (edges.sizes.min?.elim ((path ++ b :: rest).length : Int)
        (min · ((path ++ b :: rest).length : Int))) := by
  cases edges with
  | nil => simp [Edges.insertBelow, Edges.sizes]
  | cons first child others =>
      obtain ⟨⟨c, rfl, inner⟩, _, outer⟩ := shape
      by_cases same : (b.toNat : Int) = c.toNat
      · obtain rfl : b = c := UInt8.toNat_inj.mp (by exact_mod_cast same)
        have step := Node.minSize_insertBelow (path ++ [b]) rest value child inner
        rw [List.append_assoc, List.singleton_append] at step
        simp only [Edges.insertBelow, if_true, Edges.sizes, List.min?_cons, step]
        cases others.sizes.min? with
        | none => rfl
        | some least => simp only [Option.elim]; congr 1; omega
      · by_cases before : (b.toNat : Int) < c.toNat
        · simp only [Edges.insertBelow, if_neg same, if_pos before, Edges.sizes, List.min?_cons,
            Node.minSize_leaf]
          cases others.sizes.min? with
          | none => simp only [Option.elim]; congr 1; omega
          | some least => simp only [Option.elim]; congr 1; omega
        · simp only [Edges.insertBelow, if_neg same, if_neg before, Edges.sizes, List.min?_cons,
            Edges.sizes_insertBelow path rest value b others outer]
          cases others.sizes.min? with
          | none => rfl
          | some least => simp only [Option.elim]; congr 1; omega

mutual

theorem Node.wellFormed_insertBelow (path rest : Key) (value : α) (tree : Node α)
    (shape : tree.WellFormed path) :
    (tree.insertBelow (path ++ rest) value rest).WellFormed path := by
  cases tree with
  | hole | empty => exact False.elim shape
  | leaf suffix stored old =>
      obtain rfl : stored = path ++ suffix := shape
      simp only [Node.insertBelow]
      rcases overlap_cases suffix rest with
        ⟨shared, s, suffixRest, r, keyRest, differ, rfl, rfl, cut⟩ |
        ⟨r, keyRest, rfl, cut⟩ | ⟨s, suffixRest, rfl, cut⟩ | ⟨rfl, cut⟩ <;> rw [cut]
      · refine Node.wellFormed_behind path shared _ _ rfl trivial ?_
        apply Node.wellFormed_fork _ _ s r _ _ rfl differ
        · simp [Node.WellFormed]
        · simp [Node.WellFormed]
      · refine Node.wellFormed_behind path suffix _ _ ?_ trivial ?_
        · simp only [Node.minSize_inline, List.length_append]
          omega
        · exact ⟨rfl, List.cons_ne_nil r keyRest, by simp [Node.WellFormed]⟩
      · refine Node.wellFormed_behind path rest _ _ ?_ trivial ?_
        · simp only [Node.minSize_inline, List.length_append]
          omega
        · exact ⟨rfl, List.cons_ne_nil s suffixRest, by simp [Node.WellFormed]⟩
      · rfl
  | inline stored old below =>
      obtain ⟨rfl, goesOn, inner⟩ := shape
      cases rest with
      | nil => exact ⟨rfl, goesOn, inner⟩
      | cons r keyRest =>
          exact ⟨rfl, Node.goesOn_insertBelow _ _ value below goesOn (List.cons_ne_nil r keyRest),
            Node.wellFormed_insertBelow stored (r :: keyRest) value below inner⟩
  | run stem minSize below =>
      obtain ⟨nonempty, noted, parts, inner⟩ := shape
      have deeper := Node.path_le_minSize (path ++ stem) below inner
      simp only [Node.insertBelow]
      rcases overlap_cases stem rest with
        ⟨shared, s, stemRest, r, keyRest, differ, rfl, rfl, cut⟩ |
        ⟨r, keyRest, rfl, cut⟩ | ⟨s, stemRest, rfl, cut⟩ | ⟨rfl, cut⟩ <;> rw [cut]
      · refine Node.wellFormed_behind path shared _ _ rfl trivial ?_
        apply Node.wellFormed_fork _ _ s r _ _ _ differ
        · apply Node.wellFormed_behind _ stemRest _ _ noted parts
          simpa using inner
        · simp [Node.WellFormed]
        · rw [Node.minSize_behind stemRest minSize below noted, Node.minSize_leaf]
      · refine ⟨nonempty, ?_, Node.parts_insertBelow _ _ value below parts (by simp), ?_⟩
        · rw [← List.append_assoc, Node.minSize_insertBelow (path ++ stem) (r :: keyRest) value
            below inner, noted]
        · rw [← List.append_assoc]
          exact Node.wellFormed_insertBelow (path ++ stem) (r :: keyRest) value below inner
      · refine Node.wellFormed_behind path rest _ _ ?_ trivial ?_
        · simp only [List.length_append] at deeper
          simp only [Node.minSize_inline, noted, List.length_append]
          omega
        · exact ⟨rfl, trivial, List.cons_ne_nil s stemRest, noted, parts, by simpa using inner⟩
      · cases below with
        | inline stored old deepest => exact ⟨nonempty, noted, trivial, inner⟩
        | fanout least edges =>
            refine ⟨nonempty, ?_, trivial, rfl, trivial, inner⟩
            rw [Node.minSize_inline, noted]
            omega
        | hole | empty | leaf | run => exact False.elim parts
  | fanout minSize edges =>
      obtain ⟨several, least, inner⟩ := shape
      cases rest with
      | nil => exact ⟨by simp, trivial, several, least, inner⟩
      | cons r keyRest =>
          have more := Edges.length_labels_insertBelow (path ++ r :: keyRest) keyRest value r edges
          refine ⟨Nat.le_trans several more, ?_,
            Edges.wellFormed_insertBelow path keyRest value r edges inner⟩
          rw [Edges.sizes_insertBelow path keyRest value r edges inner, least]
          rfl

theorem Edges.wellFormed_insertBelow (path rest : Key) (value : α) (b : UInt8) (edges : Edges α)
    (shape : edges.WellFormed path) :
    (edges.insertBelow (path ++ b :: rest) value b rest).WellFormed path := by
  cases edges with
  | nil => exact ⟨⟨b, rfl, by simp [Node.WellFormed]⟩, by simp [Edges.labels], trivial⟩
  | cons label child others =>
      obtain ⟨⟨c, rfl, inner⟩, ascending, outer⟩ := shape
      by_cases same : (b.toNat : Int) = c.toNat
      · obtain rfl : b = c := UInt8.toNat_inj.mp (by exact_mod_cast same)
        have step := Node.wellFormed_insertBelow (path ++ [b]) rest value child inner
        rw [List.append_assoc, List.singleton_append] at step
        simp only [Edges.insertBelow, if_true]
        exact ⟨⟨b, rfl, step⟩, ascending, outer⟩
      · by_cases before : (b.toNat : Int) < c.toNat
        · simp only [Edges.insertBelow, if_neg same, if_pos before]
          refine ⟨⟨b, rfl, by simp [Node.WellFormed]⟩, ?_, ⟨c, rfl, inner⟩, ascending, outer⟩
          intro other member
          rcases List.mem_cons.mp member with rfl | later
          · exact before
          · exact Int.lt_trans before (ascending other later)
        · simp only [Edges.insertBelow, if_neg same, if_neg before]
          refine ⟨⟨c, rfl, inner⟩, ?_, Edges.wellFormed_insertBelow path rest value b others outer⟩
          intro other member
          rcases (Edges.mem_labels_insertBelow _ rest value b others other).mp member with
            rfl | later
          · omega
          · exact ascending other later

end

theorem Node.wellFormed_insert (tree : Node α) (root : tree.Root) (key : Key) (value : α) :
    (tree.insert key value).WellFormed [] := by
  rcases root with rfl | shape
  · rfl
  · exact Node.wellFormed_insertBelow [] key value tree shape

/-- What holds of the empty tree and is kept by each insertion holds of every tree built from pairs,
together with the pairs that were inserted. -/
theorem Node.ofList_induction {motive : List (Key × α) → Node α → Prop} (start : motive [] .empty)
    (step : ∀ pairs tree key value, motive pairs tree →
      motive (pairs ++ [(key, value)]) (tree.insert key value))
    (pairs : List (Key × α)) : motive pairs (Node.ofList pairs) := by
  induction pairs using List.reverseRecOn with
  | nil => exact start
  | append_singleton pairs pair ih =>
      rw [Node.ofList, List.foldl_concat]
      exact step pairs _ pair.1 pair.2 ih

theorem Node.root_ofList (pairs : List (Key × α)) : (Node.ofList pairs).Root := by
  apply Node.ofList_induction (motive := fun _ tree => tree.Root)
  · exact .inl rfl
  · intro _ tree key value root
    exact .inr (Node.wellFormed_insert tree root key value)

end Palette.KeyTrie
