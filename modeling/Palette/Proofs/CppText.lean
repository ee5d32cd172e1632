import Palette.Matcher.Languages
import Palette.Proofs.Outline
import Palette.Proofs.TestWording

/-!
Reading C++: the lexical rules and the grammar of the statements that a lookup function is made of.
The function is taken apart from its signature to its closing brace; `size` and `data` are the
length and the bytes of its argument.
-/

namespace Palette.Target.Cpp

open KeyTrie Matcher

def isOctalDigit (c : Char) : Bool := '0' ≤ c && c ≤ '7'

/-- One character or escape of a literal. An octal escape takes as many as three digits. -/
def unit? : List Char → Option (UInt8 × Nat)
  | [] => none
  | '\\' :: rest =>
      match (rest.take 3).takeWhile isOctalDigit, rest with
      | [], [] => none
      | [], c :: _ => (simpleEscape? c).map fun b => (b, 2)
      | digits, _ =>
          if Nat.ofDigitChars 8 digits 0 < 256 then
            some (UInt8.ofNat (Nat.ofDigitChars 8 digits 0), digits.length + 1)
          else none
  | c :: _ => plainUnit? c

def literal? : List Char → Option (Token × Nat)
  | '"' :: rest =>
      (quotedContent '"' unit? rest).map fun (bytes, length) => (.bytes bytes, length + 1)
  | '\'' :: rest =>
      match quotedContent '\'' unit? rest with
      | some ([b], length) => some (.byte b, length + 1)
      | _ => none
  | _ => none

def lexicon : Lexicon where
  signs := ["==", ">=", "&&", "::", "(", ")", "[", "]", "\x7b", "\x7d", ":", ";", ",", ".", "+",
    "-", "&", "="]
  numeral? := decimal?
  literal? := literal?

@[match_pattern] def openBrace : Token := .sign "\x7b"

@[match_pattern] def closeBrace : Token := .sign "\x7d"

def closes (token : Token) : Bool := token = closeBrace

def comparison : Parse Condition
  | .word "size" :: .sign ">=" :: .number least :: rest => some (.sizeAtLeast least, rest)
  | .word "size" :: .sign "==" :: .number length :: rest => some (.sizeIs length, rest)
  | .word "data" :: .sign "[" :: .number position :: .sign "]" :: .sign "==" :: .byte b :: rest =>
      some (.byteIs position b.toNat, rest)
  | .word "std" :: .sign "::" :: .word "memcmp" :: .sign "(" :: .word "data" :: .sign "+" ::
      .number position :: .sign "," :: .bytes bytes :: .sign "," :: .number count :: .sign ")" ::
      .sign "==" :: .number 0 :: rest => some (.memoryIs position bytes count, rest)
  | _ => none

def condition : Parse Condition := fun tokens =>
  match conjunction comparison (.sign "&&") tokens.length tokens with
  | some (condition, .sign ")" :: rest) => some (condition, rest)
  | _ => none

/-- Statements up to their closing brace. -/
def braced (one : Parse Statement) : Parse Code := fun tokens =>
  match statements one closes (tokens.length + 1) tokens with
  | some (body, closeBrace :: rest) => some (body, rest)
  | _ => none

/-- One statement, in which others are nested less than `fuel` deep. -/
def statement : Nat → Parse Statement
  | 0, _ => none
  | fuel + 1, tokens =>
      match tokens with
      | .word "return" :: rest =>
          match value rest with
          | some (v, .sign ";" :: rest) => some (.answer v, rest)
          | _ => none
      | .word "break" :: .sign ";" :: rest => some (.leave, rest)
      | .word "case" :: .byte b :: .sign ":" :: rest => some (.label b, rest)
      | openBrace :: rest =>
          (braced (statement fuel) rest).map fun (body, rest) => (.block body, rest)
      | .word "if" :: .sign "(" :: rest =>
          match condition rest with
          | none => none
          | some (condition, rest) =>
              (statement fuel rest).map fun (yes, rest) =>
                (.choose condition (.cons yes .done) .done, rest)
      | .word "switch" :: .sign "(" :: .word "data" :: .sign "[" :: .number position :: .sign "]" ::
          .sign ")" :: openBrace :: rest =>
          (braced (statement fuel) rest).map fun (body, rest) => (.switch position body, rest)
      | _ => none

def header : List Token :=
  [.word "int", .word "getDataIndex", .sign "(", .word "const", .word "QLatin1String", .sign "&",
    .word "name", .sign ")", openBrace,
    .word "auto", .word "size", .sign "=", .word "name", .sign ".", .word "size", .sign "(",
    .sign ")", .sign ";",
    .word "auto", .word "data", .sign "=", .word "name", .sign ".", .word "data", .sign "(",
    .sign ")", .sign ";"]

/-- The body of the one function that `text` consists of. -/
def read (text : String) : Option Code :=
  match sourceRows lexicon (Text.lines text.toList) with
  | none => none
  | some rows =>
      match header.isPrefixOf? (rows.flatMap Prod.snd) with
      | none => none
      | some body =>
          match statements (statement body.length) closes (body.length + 1) body with
          | some (code, [closeBrace]) => if code.placed false false then some code else none
          | _ => none

/-! ### Literals -/

theorem octal_chars (b : UInt8) : (Text.octal 3 b.toNat).toList =
    [(b.toNat / 64).digitChar, (b.toNat / 8 % 8).digitChar, (b.toNat % 8).digitChar] := by
  have small := b.toNat_lt
  rw [Text.octal, padded_digits 8 1 _ (by decide), padded_digits 8 0 _ (by decide),
    padded_digit 8 _ (by omega), Nat.div_div_eq_div_mul]
  rfl

theorem octalDigit_digitChar : ∀ n < 8, isOctalDigit n.digitChar = true ∧
    n.digitChar ≠ '\'' ∧ n.digitChar ≠ '"' ∧ n.digitChar ≠ '\\' ∧ '\n' ≠ n.digitChar := by decide

theorem unit?_octal (b : UInt8) (rest : List Char) :
    unit? ('\\' :: (Text.octal 3 b.toNat).toList ++ rest) = some (b, 4) := by
  have small := b.toNat_lt
  have high := (octalDigit_digitChar (b.toNat / 64) (by omega)).1
  have middle := (octalDigit_digitChar (b.toNat / 8 % 8) (by omega)).1
  have low := (octalDigit_digitChar (b.toNat % 8) (by omega)).1
  have read : Nat.ofDigitChars 8 [(b.toNat / 64).digitChar, (b.toNat / 8 % 8).digitChar,
      (b.toNat % 8).digitChar] 0 = b.toNat := by
    rw [Nat.ofDigitChars_cons_digitChar_of_lt_ten (by omega),
      Nat.ofDigitChars_cons_digitChar_of_lt_ten (by omega),
      Nat.ofDigitChars_cons_digitChar_of_lt_ten (by omega), Nat.ofDigitChars_nil]
    omega
  rw [octal_chars]
  simp only [List.cons_append, List.nil_append, unit?, List.take_succ_cons, List.take_zero,
    List.takeWhile_cons, List.takeWhile_nil, high, middle, low, if_true, read, if_pos small,
    UInt8.ofNat_toNat, List.length_cons, List.length_nil]

theorem writes_cppEscape (quote : Char) (kind : quote = '\'' ∨ quote = '"') (b : UInt8) :
    Writes quote unit? b (cppEscape quote b).toList := by
  have noBackslash : quote ≠ '\\' := by rcases kind with rfl | rfl <;> decide
  have short : ∀ d, simpleEscape? d = some b → isOctalDigit d = false → '\n' ≠ d →
      Writes quote unit? b ['\\', d] := by
    intro d escape noDigit oneLine
    refine writes_escape quote d [] unit? b noBackslash (by simp) (by simpa using oneLine) ?_
    intro rest
    simp [unit?, noDigit, escape]
  unfold cppEscape
  simp only
  split_ifs with backslash newline tab carriage quoted printable
  · exact short '\\' (by rw [byte_of_char backslash]; rfl) rfl (by decide)
  · exact short 'n' (by rw [byte_of_char newline]; rfl) rfl (by decide)
  · exact short 't' (by rw [byte_of_char tab]; rfl) rfl (by decide)
  · exact short 'r' (by rw [byte_of_char carriage]; rfl) rfl (by decide)
  · rw [String.toList_ofList]
    rw [byte_of_char quoted] at short ⊢
    rcases kind with rfl | rfl
    · exact short '\'' rfl rfl (by decide)
    · exact short '"' rfl rfl (by decide)
  · have visible : 0x20 ≤ b.toNat ∧ b.toNat < 0x7F := by
      rw [Bool.and_eq_true, decide_eq_true_eq, decide_eq_true_eq] at printable
      exact ⟨UInt8.le_iff_toNat_le.mp printable.1, UInt8.lt_iff_toNat_lt.mp printable.2⟩
    have self : (Char.ofNat b.toNat).toString.toList = [Char.ofNat b.toNat] :=
      String.toList_singleton _
    rw [self]
    refine writes_plain quote _ unit? b ⟨quoted, backslash⟩ (Ne.symm newline) ?_
    intro rest
    rw [unit?]
    · exact plainUnit?_byte b (by omega)
    · exact backslash
  · have small := b.toNat_lt
    have read := unit?_octal b
    rw [String.toList_append, octal_chars]
    rw [octal_chars] at read
    have high := (octalDigit_digitChar (b.toNat / 64) (by omega)).2
    have middle := (octalDigit_digitChar (b.toNat / 8 % 8) (by omega)).2
    have low := (octalDigit_digitChar (b.toNat % 8) (by omega)).2
    refine writes_escape quote _ _ unit? b noBackslash ?_ (by simp [high, middle, low]) read
    rcases kind with rfl | rfl <;> simp [middle, low]

theorem toList_cppString (bytes : Key) : (cppString bytes).toList =
    '"' :: (bytes.flatMap (fun b => (cppEscape '"' b).toList) ++ ['"']) := by
  rw [cppString, String.toList_append, String.toList_append, String.toList_join, List.flatMap_map]
  rfl

theorem toList_cppChar (b : UInt8) :
    (cppChar b).toList = '\'' :: ((cppEscape '\'' b).toList ++ ['\'']) := by
  rw [cppChar, String.toList_append, String.toList_append]
  rfl

theorem cuts_cppString (bytes : Key) : lexicon.Cuts (cppString bytes).toList [.bytes bytes] := by
  have writes := writes_cppEscape '"' (Or.inr rfl)
  rw [toList_cppString]
  refine Lexicon.cuts_literal rfl (by simpa using literal_oneLine writes bytes) ?_
  intro rest
  have content := quotedContent_eq '"' unit? _ writes bytes rest
  rw [List.cons_append, List.append_assoc, List.singleton_append]
  change (quotedContent '"' unit? _).map _ = _
  rw [content]
  simp

theorem cuts_cppChar (b : UInt8) : lexicon.Cuts (cppChar b).toList [.byte b] := by
  have writes := writes_cppEscape '\'' (Or.inl rfl)
  rw [toList_cppChar]
  refine Lexicon.cuts_literal rfl (by simpa using (writes b).oneLine) ?_
  intro rest
  have content := quotedContent_eq '\'' unit? _ writes [b] rest
  rw [List.flatMap_singleton] at content
  rw [List.cons_append, List.append_assoc, List.singleton_append]
  change (match quotedContent '\'' unit? _ with | some ([b], length) => _ | _ => _) = _
  rw [content]
  simp

theorem readsNumerals : lexicon.ReadsNumerals where
  noLiteral c rest digit := by
    change literal? (c :: rest) = none
    rw [literal?]
    · rintro more ⟨⟩
      exact absurd digit (by decide)
    · rintro more ⟨⟩
      exact absurd digit (by decide)
  decimal run value read := read
  minus c rest digit := rfl

/-! ### Tests -/

def testTokens : Test → List Token
  | .sizeIs length => [.word "size", .sign "==", .number length]
  | .byteIs position b =>
      [.word "data", .sign "[", .number position, .sign "]", .sign "==", .byte b]
  | .rangeIs position bytes =>
      [.word "std", .sign "::", .word "memcmp", .sign "(", .word "data", .sign "+",
        .number position, .sign ",", .bytes bytes, .sign ",", .number bytes.length, .sign ")",
        .sign "==", .number 0]

def testCondition : Test → Condition
  | .sizeIs length => .sizeIs length
  | .byteIs position b => .byteIs position b.toNat
  | .rangeIs position bytes => .memoryIs position bytes bytes.length

theorem reads_test (test : Test) :
    lexicon.Reads (Dialect.cpp.test test).toList (testTokens test) := by
  have number := reads_nat readsNumerals
  cases test with
  | sizeIs length =>
      have name : lexicon.Cuts "size == ".toList [.word "size", .sign "=="] :=
        ⟨by decide, fun _ => rfl⟩
      change lexicon.Reads ("size == " ++ toString length).toList _
      rw [String.toList_append]
      exact name.append_reads (number length)
  | byteIs position b =>
      have opening : lexicon.Cuts "data[".toList [.word "data", .sign "["] :=
        ⟨by decide, fun _ => rfl⟩
      have closing : lexicon.Cuts "] == ".toList [.sign "]", .sign "=="] :=
        ⟨by decide, fun _ => rfl⟩
      change lexicon.Reads ("data[" ++ toString position ++ "] == " ++ cppChar b).toList _
      simp only [String.toList_append]
      exact (((opening.append_reads (number position)).append_cuts closing
        ⟨']', _, rfl, rfl⟩).append (cuts_cppChar b)).reads
  | rangeIs position bytes =>
      have name : lexicon.Cuts "std::memcmp(data + ".toList
          [.word "std", .sign "::", .word "memcmp", .sign "(", .word "data", .sign "+"] :=
        ⟨by decide, fun _ => rfl⟩
      have comma : lexicon.Cuts ", ".toList [.sign ","] := ⟨by decide, fun _ => rfl⟩
      have closing : lexicon.Cuts ") == ".toList [.sign ")", .sign "=="] :=
        ⟨by decide, fun _ => rfl⟩
      have ending : lexicon.Reads ") == 0".toList [.sign ")", .sign "==", .number 0] :=
        closing.append_reads (number 0)
      have front := ((name.append_reads (number position)).append_cuts comma
        ⟨',', _, rfl, rfl⟩).append (cuts_cppString bytes)
      have count := comma.append_reads (number bytes.length)
      change lexicon.Reads ("std::memcmp(data + " ++ toString position ++ ", " ++ cppString bytes ++
        (", " ++ toString bytes.length ++ ") == 0")).toList _
      simp only [String.toList_append]
      exact front.append_reads (count.append_reads ending ⟨')', _, rfl, rfl⟩)

def wording : TestWording lexicon Dialect.cpp where
  conjunct := .sign "&&"
  tokens := testTokens
  condition := testCondition
  comparison := comparison
  separator := ⟨_, rfl, by decide, fun _ => rfl⟩
  reads := reads_test
  parsed test rest := by cases test <;> rfl
  decides data test bounds := by
    cases test with
    | sizeIs length => exact Condition.decides_sizeIs data length
    | byteIs position b => exact Condition.decides_byteIs data position b bounds
    | rangeIs position bytes => exact Condition.decides_memoryIs data position bytes bounds

/-! ### Statements -/

theorem condition_sizeAtLeast (least : Nat) (more : List Token) :
    condition (.word "size" :: .sign ">=" :: .number least :: .sign ")" :: more) =
      some (.sizeAtLeast least, more) := rfl

theorem condition_tests (tests : List Test) (nonempty : tests ≠ []) (more : List Token) :
    condition (wording.allTokens tests ++ .sign ")" :: more) =
      some (wording.allConditions tests, more) := by
  have read := wording.conjunction_eq tests nonempty (.sign ")" :: more)
    (by rintro token ⟨⟩; decide)
  change conjunction comparison (.sign "&&") _ _ = _ at read
  rw [condition, read]
  rfl

theorem braced_eq {tokens rest : List Token} {body : Code} {fuel : Nat}
    (inner : StatementsAre statement closes tokens body (closeBrace :: rest))
    (deep : tokens.length ≤ fuel) : braced (statement fuel) tokens = some (body, rest) := by
  rw [braced, inner fuel _ deep (by omega)]
  rfl

theorem statement_return (v : Int) (rest : List Token) (fuel : Nat) :
    statement (fuel + 1) (Token.word "return" :: valueTokens v ++ .sign ";" :: rest) =
      some (.answer v, rest) := by
  rw [List.cons_append, statement, value_valueTokens]
  rfl

theorem statement_if {tokens rest more : List Token} {test : Condition} {yes : Statement}
    {fuel : Nat} (is : condition tokens = some (test, rest))
    (body : statement fuel rest = some (yes, more)) :
    statement (fuel + 1) (.word "if" :: .sign "(" :: tokens) =
      some (.choose test (.cons yes .done) .done, more) := by
  rw [statement, is]
  simp only [body, Option.map_some]

theorem statement_block {tokens rest : List Token} {body : Code} (fuel : Nat)
    (inner : StatementsAre statement closes tokens body (closeBrace :: rest))
    (deep : tokens.length ≤ fuel) :
    statement (fuel + 1) (openBrace :: tokens) = some (.block body, rest) := by
  change (braced (statement fuel) tokens).map _ = _
  rw [braced_eq inner deep, Option.map_some]

theorem statement_switch {tokens rest : List Token} {body : Code} (fuel position : Nat)
    (inner : StatementsAre statement closes tokens body (closeBrace :: rest))
    (deep : tokens.length ≤ fuel) :
    statement (fuel + 1) (.word "switch" :: .sign "(" :: .word "data" :: .sign "[" ::
      .number position :: .sign "]" :: .sign ")" :: openBrace :: tokens) =
      some (.switch position body, rest) := by
  change (braced (statement fuel) tokens).map _ = _
  rw [braced_eq inner deep, Option.map_some]

section Sequences

variable {tokens body after rest : List Token} {test : Condition} {bodyCode code : Code}

theorem statementsAre_leave (others : StatementsAre statement closes after code rest) :
    StatementsAre statement closes (Token.word "break" :: [.sign ";"] ++ after)
      (.cons .leave code) rest :=
  statementsAre_cons rfl (fun _ _ => rfl) others

theorem statementsAre_label (b : UInt8) (others : StatementsAre statement closes after code rest) :
    StatementsAre statement closes (Token.word "case" :: [.byte b, .sign ":"] ++ after)
      (.cons (.label b) code) rest :=
  statementsAre_cons rfl (fun _ _ => rfl) others

theorem statementsAre_return (v : Int) (others : StatementsAre statement closes after code rest) :
    StatementsAre statement closes
      (Token.word "return" :: (valueTokens v ++ [Token.sign ";"]) ++ after)
      (.cons (.answer v) code) rest := by
  refine statementsAre_cons rfl (fun depth _ => ?_) others
  simpa using statement_return v after depth

theorem statementsAre_block
    (inner : StatementsAre statement closes (body ++ closeBrace :: after) bodyCode
      (closeBrace :: after))
    (others : StatementsAre statement closes after code rest) :
    StatementsAre statement closes (openBrace :: (body ++ [closeBrace]) ++ after)
      (.cons (.block bodyCode) code) rest := by
  refine statementsAre_cons rfl (fun depth deep => ?_) others
  have block := statement_block depth inner (by simp at deep ⊢; omega)
  simpa using block

theorem statementsAre_if
    (is : ∀ more, condition (tokens ++ .sign ")" :: more) = some (test, more))
    (inner : StatementsAre statement closes (body ++ closeBrace :: after) bodyCode
      (closeBrace :: after))
    (others : StatementsAre statement closes after code rest) :
    StatementsAre statement closes
      (Token.word "if" :: (.sign "(" :: tokens ++ .sign ")" :: openBrace :: body ++ [closeBrace]) ++
        after)
      (.cons (.choose test (.cons (.block bodyCode) .done) .done) code) rest := by
  refine statementsAre_cons rfl (fun depth deep => ?_) others
  obtain ⟨depth, rfl⟩ : ∃ less, depth = less + 1 := ⟨depth - 1, by simp at deep; omega⟩
  have block := statement_block depth inner (by simp at deep ⊢; omega)
  have whole := statement_if (is _) block
  simpa using whole

theorem statementsAre_answer (v : Int)
    (is : ∀ more, condition (tokens ++ .sign ")" :: more) = some (test, more))
    (others : StatementsAre statement closes after code rest) :
    StatementsAre statement closes
      (Token.word "if" :: (.sign "(" :: tokens ++ .sign ")" :: .word "return" :: valueTokens v ++
        [Token.sign ";"]) ++ after)
      (.cons (.choose test (.cons (.answer v) .done) .done) code) rest := by
  refine statementsAre_cons rfl (fun depth deep => ?_) others
  obtain ⟨depth, rfl⟩ : ∃ less, depth = less + 1 := ⟨depth - 1, by simp at deep; omega⟩
  have whole := statement_if (is _) (statement_return v after depth)
  simpa using whole

theorem statementsAre_switch (position : Nat)
    (inner : StatementsAre statement closes (body ++ closeBrace :: after) bodyCode
      (closeBrace :: after))
    (others : StatementsAre statement closes after code rest) :
    StatementsAre statement closes
      (Token.word "switch" :: (.sign "(" :: .word "data" :: .sign "[" :: .number position ::
        .sign "]" :: .sign ")" :: openBrace :: body ++ [closeBrace]) ++ after)
      (.cons (.switch position bodyCode) code) rest := by
  refine statementsAre_cons rfl (fun depth deep => ?_) others
  have whole := statement_switch depth position inner (by simp at deep ⊢; omega)
  simpa using whole

end Sequences

end Palette.Target.Cpp
