import Palette.Proofs.TargetTokens

/-!
What the grammars of the target languages share: values, conjunctions of comparisons, and sequences
of statements. Each reads from the front of a list of tokens and gives what it read and the rest.
-/

namespace Palette.Target

open KeyTrie

abbrev Parse (α : Type) := List Token → Option (α × List Token)

def value : Parse Int
  | .sign "-" :: .number n :: rest => some (-(n : Int), rest)
  | .number n :: rest => some (n, rest)
  | _ => none

theorem value_valueTokens (v : Int) (rest : List Token) :
    value (valueTokens v ++ rest) = some (v, rest) := by
  cases v with
  | ofNat n => rfl
  | negSucc n => rfl

def conjunction (comparison : Parse Condition) (conjunct : Token) : Nat → Parse Condition
  | 0, tokens => comparison tokens
  | fuel + 1, tokens =>
      match comparison tokens with
      | some (first, token :: rest) =>
          if token = conjunct then
            (conjunction comparison conjunct fuel rest).map fun (second, rest) =>
              (.both first second, rest)
          else some (first, token :: rest)
      | some (first, []) => some (first, [])
      | none => none

def statements (one : Parse Statement) (ends : Token → Bool) : Nat → Parse Code
  | 0, _ => none
  | _ + 1, [] => some (.done, [])
  | fuel + 1, token :: rest =>
      if ends token then some (.done, token :: rest)
      else
        match one (token :: rest) with
        | none => none
        | some (first, rest) =>
            (statements one ends fuel rest).map fun (others, rest) => (.cons first others, rest)

/-- The statements at the front of `tokens` are `code`. A statement that is read with some number as
a bound on its nesting is here given at least the number of its tokens. -/
def StatementsAre (statement : Nat → Parse Statement) (ends : Token → Bool) (tokens : List Token)
    (code : Code) (rest : List Token) : Prop :=
  ∀ depth fuel, tokens.length ≤ depth → tokens.length < fuel →
    statements (statement depth) ends fuel tokens = some (code, rest)

section Statements

variable {statement : Nat → Parse Statement} {ends : Token → Bool}

theorem statementsAre_done (token : Token) (rest : List Token) (closed : ends token = true) :
    StatementsAre statement ends (token :: rest) .done (token :: rest) := by
  intro depth fuel _ enough
  obtain ⟨fuel, rfl⟩ := Nat.exists_eq_add_of_lt enough
  rw [statements, if_pos closed]

theorem statementsAre_cons {token : Token} {chunk more rest : List Token} {first : Statement}
    {code : Code} (opened : ends token = false)
    (one : ∀ depth, (chunk ++ more).length ≤ depth →
      statement (depth + 1) (token :: chunk ++ more) = some (first, more))
    (others : StatementsAre statement ends more code rest) :
    StatementsAre statement ends (token :: chunk ++ more) (.cons first code) rest := by
  intro depth fuel deep enough
  rw [List.cons_append, List.length_cons] at deep enough
  have shorter : more.length ≤ (chunk ++ more).length := by simp
  obtain ⟨fuel, rfl⟩ : ∃ less, fuel = less + 1 := ⟨fuel - 1, by omega⟩
  obtain ⟨depth, rfl⟩ : ∃ less, depth = less + 1 := ⟨depth - 1, by omega⟩
  have head := one depth (by omega)
  have tail := others (depth + 1) fuel (by omega) (by omega)
  rw [List.cons_append] at head ⊢
  rw [statements, if_neg (by simp [opened]), head]
  simp only [tail, Option.map_some]

end Statements

/-! ### Where statements may stand -/

def Code.labels : Code → List UInt8
  | .done => []
  | .cons (.label byte) rest => byte :: rest.labels
  | .cons _ rest => rest.labels

mutual

/-- A `break` is inside of a switch, a label stands directly in the body of one, and the labels of a
switch are different. -/
def Statement.placed (inside direct : Bool) : Statement → Bool
  | .answer _ => true
  | .leave => inside
  | .label _ => direct
  | .choose _ yes no => yes.placed inside false && no.placed inside false
  | .block body => body.placed inside false
  | .switch _ body => body.labels.Nodup && body.placed true true

def Code.placed (inside direct : Bool) : Code → Bool
  | .done => true
  | .cons first rest => first.placed inside direct && rest.placed inside direct

end

end Palette.Target
