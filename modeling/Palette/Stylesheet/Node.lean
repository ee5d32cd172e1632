import Palette.Text.Blank
import Palette.Text.Utf8

/-!
Syntax trees of style sheets. A node knows its kind and where it lies: by bytes of the source, and
by row and column, both from zero, the column in bytes. What could not be parsed stands in nodes of
the kind `ERROR`; a node that was only assumed to be there is missing.
-/

namespace Palette.Stylesheet

structure Point where
  row : Nat
  column : Nat
  deriving DecidableEq, Repr

/-- A place as messages name it, counted from one. -/
structure Location where
  line : Nat
  column : Nat
  deriving DecidableEq, Repr

def Point.location (p : Point) : Location := ⟨p.row + 1, p.column + 1⟩

structure Label where
  kind : String
  start : Nat
  stop : Nat
  startPoint : Point
  stopPoint : Point
  /-- Whether the node is more than punctuation. -/
  named : Bool := true
  missing : Bool := false
  /-- Whether something in the node could not be parsed. -/
  faulty : Bool := false
  deriving DecidableEq, Repr

inductive Node where
  | mk (label : Label) (children : List Node)

namespace Node

def label : Node → Label
  | .mk label _ => label

def children : Node → List Node
  | .mk _ children => children

def kind (n : Node) : String := n.label.kind

def namedChildren (n : Node) : List Node := n.children.filter (·.label.named)

def child? (n : Node) (kind : String) : Option Node := n.children.find? (·.kind = kind)

def isError (n : Node) : Bool := n.kind = "ERROR"

def isComment (n : Node) : Bool := n.kind = "comment" || n.kind = "js_comment"

def bytes (source : List UInt8) (n : Node) : List UInt8 :=
  (source.drop n.label.start).take (n.label.stop - n.label.start)

theorem sizeOf_lt_of_mem_children {n child : Node} (member : child ∈ n.children) :
    sizeOf child < sizeOf n := by
  obtain ⟨label, children⟩ := n
  have smaller := List.sizeOf_lt_of_mem member
  simp only [Node.mk.sizeOf_spec, Node.children] at smaller ⊢
  omega

/-- Induction over blocks: from one block to the next it goes by way of an item and its first block.
-/
theorem block_induction {motive : Node → Prop}
    (step : ∀ block, (∀ item ∈ block.children, ∀ inner, item.child? "block" = some inner →
      motive inner) → motive block) (block : Node) : motive block := by
  apply step
  intro item member inner found
  exact block_induction step inner
termination_by sizeOf block
decreasing_by
  have first := sizeOf_lt_of_mem_children (List.mem_of_find?_eq_some found)
  have second := sizeOf_lt_of_mem_children member
  omega

end Node

structure Issue where
  line : Nat
  column : Nat
  text : String
  deriving DecidableEq, Repr

def Issue.ofNode (source : List UInt8) (n : Node) : Issue :=
  let text :=
    if n.label.missing then "missing " ++ n.kind else Text.decodeLossy (n.bytes source)
  let place := n.label.startPoint.location
  ⟨place.line, place.column, Text.strip text⟩

def Issue.message (i : Issue) : String :=
  s!"Syntax error (line {i.line}, column {i.column}): {i.text}"

theorem Node.sizeOf_pending_lt (n : Node) (pending : List Node) :
    sizeOf pending < sizeOf (n :: pending) := by
  rw [List.cons.sizeOf_spec]
  omega

theorem Node.sizeOf_children_append (label : Label) (children pending : List Node) :
    sizeOf (children ++ pending) < sizeOf (Node.mk label children :: pending) := by
  have joined : sizeOf (children ++ pending) + 1 = sizeOf children + sizeOf pending := by
    induction children with
    | nil =>
        rw [List.nil_append, List.nil.sizeOf_spec]
        omega
    | cons n rest ih =>
        rw [List.cons_append, List.cons.sizeOf_spec, List.cons.sizeOf_spec]
        omega
  simp only [List.cons.sizeOf_spec, Node.mk.sizeOf_spec]
  omega

/-- The issues of the nodes that are pending, the next one first. Nothing in an error or a missing
node is looked at; the children of another node take its place if it is marked as faulty. -/
def issuesOfPending (source : List UInt8) : List Node → List Issue
  | [] => []
  | .mk label children :: pending =>
      if label.kind = "ERROR" || label.missing then
        Issue.ofNode source (.mk label children) :: issuesOfPending source pending
      else if label.faulty then issuesOfPending source (children ++ pending)
      else issuesOfPending source pending
termination_by pending => sizeOf pending
decreasing_by
  · exact Node.sizeOf_pending_lt (.mk label children) pending
  · exact Node.sizeOf_children_append label children pending
  · exact Node.sizeOf_pending_lt (.mk label children) pending

def Node.issues (source : List UInt8) (root : Node) : List Issue := issuesOfPending source [root]

end Palette.Stylesheet
