import Palette.Proofs.DefaultColors

/-!
The structs of the theme class as text. The header declares them and the source fills them, each
with a tree of its own: members with their types, and braces around numbers of colors. What is
printed for a layout are the lines of these trees.
-/

namespace Palette.Output

open Printer Layout Target

/-! ### Lines at their depths -/

section Rows

variable {α : Type}

def rowsText (text : α → String) (unit : String) (rows : List (Nat × α)) : String :=
  String.join (rows.map fun row => lineText unit row.1 (text row.2))

@[simp]
theorem rowsText_nil (text : α → String) (unit : String) : rowsText text unit [] = "" := rfl

@[simp]
theorem rowsText_cons (text : α → String) (unit : String) (row : Nat × α)
    (rows : List (Nat × α)) :
    rowsText text unit (row :: rows) =
      lineText unit row.1 (text row.2) ++ rowsText text unit rows := by
  simp [rowsText]

@[simp]
theorem rowsText_append (text : α → String) (unit : String) (first second : List (Nat × α)) :
    rowsText text unit (first ++ second) =
      rowsText text unit first ++ rowsText text unit second := by
  simp [rowsText, String.join_append]

end Rows

theorem closingText_eq_lineText {closing : String} (visible : closing.isEmpty = false)
    (unit : String) (depth : Nat) :
    closingText unit depth closing = lineText unit depth closing := by
  simp [closingText, visible]

/-! ### Declarations -/

/-- A member of a struct, as the header declares it. -/
inductive Declared where
  | color (name : String)
  /-- A member whose type is a struct that is declared elsewhere. -/
  | typed (type name : String)
  /-- A member whose type is a struct without a name, declared in place. -/
  | struct (name : String) (members : List Declared)

/-- The structs of the class: those that are types, and those that are members. -/
structure Structs where
  definitions : List (String × List Declared)
  items : List (String × List Declared)

mutual

def declared : Item → Declared
  | .field name => .color name
  | .ref name referenced _ => .typed referenced name
  | .struct name fields _ => .struct name (declaredAll fields)

def declaredAll : List Item → List Declared
  | [] => []
  | item :: rest => declared item :: declaredAll rest

end

def declaredTypes (definitions : Definitions) : List (String × List Declared) :=
  definitions.map fun entry => (entry.1, declaredAll entry.2.fields)

def structsOf (layout : Layout) : Structs where
  definitions := declaredTypes layout.definitions
  items := layout.items.map fun item => (item.1, declaredAll item.2)

inductive DeclarationLine where
  | blank
  | member (type name : String)
  | openMember
  | closeMember (name : String)
  | openDefinition (name : String)
  | closeDefinition

def DeclarationLine.text : DeclarationLine → String
  | .blank => ""
  | .member type name => s!"{type} {name};"
  | .openMember => "struct \x7b"
  | .closeMember name => s!"\x7d {name};"
  | .openDefinition name => s!"struct {name} \x7b"
  | .closeDefinition => "\x7d;"

mutual

def Declared.rows (depth : Nat) : Declared → List (Nat × DeclarationLine)
  | .color name => [(depth, .member "QColor" name)]
  | .typed type name => [(depth, .member type name)]
  | .struct name members =>
      (depth, .blank) :: (depth, .openMember) :: declaredRows (depth + 1) members ++
        [(depth, .closeMember name)]

def declaredRows (depth : Nat) : List Declared → List (Nat × DeclarationLine)
  | [] => []
  | member :: rest => member.rows depth ++ declaredRows depth rest

end

def definitionRows (depth : Nat) (entry : String × List Declared) :
    List (Nat × DeclarationLine) :=
  (depth, .openDefinition entry.1) :: declaredRows (depth + 1) entry.2 ++ [(depth, .closeDefinition)]

def Structs.rows (depth : Nat) (structs : Structs) : List (Nat × DeclarationLine) :=
  structs.definitions.flatMap (definitionRows depth) ++
    structs.items.flatMap fun item => (Declared.struct item.1 item.2).rows depth

def Structs.text (structs : Structs) (unit : String) (depth : Nat) : String :=
  rowsText DeclarationLine.text unit (structs.rows depth)

section Printed

variable {ε : Type}

theorem structMember_prints {body : Program ε} {members : List Declared}
    (inside : Prints body fun unit depth =>
      rowsText DeclarationLine.text unit (declaredRows depth members)) (name : String) :
    Prints (structMember name body) fun unit depth =>
      rowsText DeclarationLine.text unit ((Declared.struct name members).rows depth) := by
  refine ((prints_line "").append (inside.block "struct \x7b" s!"\x7d {name};")).of_eq ?_
  intro unit depth
  have visible : (s!"\x7d {name};").isEmpty = false := by
    change ("\x7d " ++ name ++ ";").isEmpty = false
    simp
  rw [closingText_eq_lineText visible]
  simp [Declared.rows, DeclarationLine.text, String.append_assoc]

mutual

theorem member_prints (item : Item) : Prints (member item : Program ε) fun unit depth =>
    rowsText DeclarationLine.text unit ((declared item).rows depth) := by
  cases item with
  | field name =>
      refine (prints_line _).of_eq ?_
      intro unit depth
      have text : DeclarationLine.text (.member "QColor" name) = s!"QColor {name};" := by
        change "QColor" ++ " " ++ name ++ ";" = "QColor " ++ name ++ ";"
        rfl
      simp [declared, Declared.rows, text]
  | ref name referenced count =>
      refine (prints_line _).of_eq ?_
      intro unit depth
      simp [declared, Declared.rows, DeclarationLine.text]
  | struct name fields count => exact structMember_prints (members_prints fields) name

theorem members_prints (items : List Item) : Prints (members items : Program ε) fun unit depth =>
    rowsText DeclarationLine.text unit (declaredRows depth (declaredAll items)) := by
  cases items with
  | nil => exact prints_nil
  | cons item rest =>
      refine ((member_prints item).append (members_prints rest)).of_eq ?_
      intro unit depth
      rw [declaredAll, declaredRows, rowsText_append]

end

theorem definitionStruct_prints (entry : String × Definition) :
    Prints [(definitionStruct entry : Step ε)] fun unit depth =>
      rowsText DeclarationLine.text unit
        (definitionRows depth (entry.1, declaredAll entry.2.fields)) := by
  refine ((members_prints entry.2.fields).block _ _).of_eq ?_
  intro unit depth
  have visible : ("\x7d;").isEmpty = false := rfl
  simp [closingText_eq_lineText visible, definitionRows, DeclarationLine.text, String.append_assoc]

theorem prints_flatMap {β γ : Type} {program : β → Program ε} {rows : Nat → β → List (Nat × γ)}
    {text : γ → String}
    (each : ∀ b, Prints (program b) fun unit depth => rowsText text unit (rows depth b))
    (elements : List β) : Prints (elements.flatMap program) fun unit depth =>
      rowsText text unit (elements.flatMap (rows depth)) := by
  induction elements with
  | nil => exact prints_nil
  | cons b elements ih =>
      rw [List.flatMap_cons]
      refine ((each b).append ih).of_eq ?_
      intro unit depth
      rw [List.flatMap_cons, rowsText_append]

theorem structs_print (layout : Layout) :
    Prints (layout.definitions.map definitionStruct ++
      (layout.items.flatMap fun item => structMember item.1 (members item.2)) : Program ε)
      (structsOf layout).text := by
  have definitions := prints_flatMap (@definitionStruct_prints ε) layout.definitions
  have items := prints_flatMap (fun item : String × List Item =>
    structMember_prints (@members_prints ε item.2) item.1) layout.items
  rw [← List.flatMap_singleton' (layout.definitions.map definitionStruct), List.flatMap_map]
  refine (definitions.append items).of_eq ?_
  intro unit depth
  simp only [Structs.text, Structs.rows, structsOf, declaredTypes, List.flatMap_map, rowsText_append]

end Printed

/-! ### Initializers -/

/-- What stands for a member in an initializer list. -/
inductive Braced where
  | color (id : Nat)
  | group (parts : List Braced)

mutual

def braced : FlatItem → Braced
  | .field _ id => .color id
  | .struct _ fields => .group (bracedAll fields)

def bracedAll : List FlatItem → List Braced
  | [] => []
  | item :: rest => braced item :: bracedAll rest

end

abbrev Assigned := List (String × List Braced)

def assignedOf (flat : List FlatStruct) : Assigned :=
  flat.map fun s => (s.name, bracedAll s.fields)

inductive AssignmentLine where
  | blank
  | openStruct (name : String)
  | closeStruct
  | color (id : Nat)
  | openGroup
  | closeGroup

def AssignmentLine.text : AssignmentLine → String
  | .blank => ""
  | .openStruct name => s!"this->{name} = \x7b"
  | .closeStruct => "\x7d;"
  | .color id => s!"d({id}),"
  | .openGroup => "\x7b"
  | .closeGroup => "\x7d,"

mutual

def Braced.rows (depth : Nat) : Braced → List (Nat × AssignmentLine)
  | .color id => [(depth, .color id)]
  | .group parts => (depth, .openGroup) :: bracedRows (depth + 1) parts ++ [(depth, .closeGroup)]

def bracedRows (depth : Nat) : List Braced → List (Nat × AssignmentLine)
  | [] => []
  | part :: rest => part.rows depth ++ bracedRows depth rest

end

def assignmentRows (depth : Nat) (entry : String × List Braced) : List (Nat × AssignmentLine) :=
  (depth, .openStruct entry.1) :: bracedRows (depth + 1) entry.2 ++ [(depth, .closeStruct)]

def assignedText (assigned : Assigned) (unit : String) (depth : Nat) : String :=
  rowsText AssignmentLine.text unit (assigned.flatMap (assignmentRows depth))

mutual

theorem initializer_prints (item : FlatItem) : Prints (initializer item) fun unit depth =>
    rowsText AssignmentLine.text unit ((braced item).rows depth) := by
  cases item with
  | field name id =>
      refine (prints_line _).of_eq ?_
      intro unit depth
      simp [braced, Braced.rows, AssignmentLine.text]
  | struct name fields =>
      refine ((initializers_print fields).block _ _).of_eq ?_
      intro unit depth
      have visible : ("\x7d,").isEmpty = false := rfl
      simp [closingText_eq_lineText visible, braced, Braced.rows, AssignmentLine.text,
        String.append_assoc]

theorem initializers_print (items : List FlatItem) : Prints (initializers items) fun unit depth =>
    rowsText AssignmentLine.text unit (bracedRows depth (bracedAll items)) := by
  cases items with
  | nil => exact prints_nil
  | cons item rest =>
      refine ((initializer_prints item).append (initializers_print rest)).of_eq ?_
      intro unit depth
      rw [bracedAll, bracedRows, rowsText_append]

end

theorem assignStruct_prints (s : FlatStruct) : Prints [assignStruct s] fun unit depth =>
    rowsText AssignmentLine.text unit (assignmentRows depth (s.name, bracedAll s.fields)) := by
  refine ((initializers_print s.fields).block _ _).of_eq ?_
  intro unit depth
  have visible : ("\x7d;").isEmpty = false := rfl
  simp [closingText_eq_lineText visible, assignmentRows, AssignmentLine.text, String.append_assoc]

theorem assignStructs_print (flat : List FlatStruct) :
    Prints (flat.map assignStruct) (assignedText (assignedOf flat)) := by
  rw [← List.flatMap_singleton' (flat.map assignStruct), List.flatMap_map]
  refine (prints_flatMap assignStruct_prints flat).of_eq ?_
  intro unit depth
  rw [assignedText, assignedOf, List.flatMap_map]

end Palette.Output
