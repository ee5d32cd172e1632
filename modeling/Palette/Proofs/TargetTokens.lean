import Palette.Proofs.TargetCode
import Palette.Text.Blank
import Palette.Text.Digit

/-!
Tokens of the target languages. A line is cut into the longest words, numerals, literals and signs
that can stand where the cut has come to; blanks between them carry no meaning. What is no token of
the language makes the whole line unreadable.
-/

namespace Palette.Target

open KeyTrie

inductive Token where
  | word (text : String)
  | number (value : Nat)
  | sign (text : String)
  /-- A literal of one byte. -/
  | byte (value : UInt8)
  /-- A literal of several bytes. -/
  | bytes (content : Key)
  /-- End of a line, and a change of its indentation, in a language where they matter. -/
  | newline
  | indent
  | dedent
  deriving DecidableEq, Repr

def isBlank (c : Char) : Bool := c = ' ' || c = '\t'

def isWordChar (c : Char) : Bool := c.isAlphanum || c = '_'

/-- The lexical rules in which languages differ. -/
structure Lexicon where
  /-- Longer signs stand before the shorter ones that they begin with. -/
  signs : List String
  /-- The value of a word that begins with a digit. -/
  numeral? : List Char → Option Nat
  /-- The literal at the start of a text, with its length. -/
  literal? : List Char → Option (Token × Nat)

namespace Lexicon

def token? (L : Lexicon) (chars : List Char) : Option (Token × Nat) :=
  match L.literal? chars with
  | some found => some found
  | none =>
      match chars.takeWhile isWordChar with
      | first :: run =>
          if first.isDigit then
            (L.numeral? (first :: run)).map fun value => (.number value, run.length + 1)
          else some (.word (String.ofList (first :: run)), run.length + 1)
      | [] =>
          (L.signs.find? fun sign => sign.toList.isPrefixOf chars).map fun sign =>
            (.sign sign, sign.toList.length)

def lexFrom (L : Lexicon) : Nat → List Char → Option (List Token)
  | _, [] => some []
  | skip + 1, _ :: rest => L.lexFrom skip rest
  | 0, c :: rest =>
      if isBlank c then L.lexFrom 0 rest
      else
        match L.token? (c :: rest) with
        | some (token, length + 1) => (L.lexFrom length rest).map (token :: ·)
        | some (_, 0) | none => none

def lex (L : Lexicon) (line : List Char) : Option (List Token) := L.lexFrom 0 line

end Lexicon

/-! ### Numerals -/

/-- A decimal numeral without needless zeros in front, which would make it octal or ill-formed. -/
def decimal? (run : List Char) : Option Nat :=
  if run.all Char.isDigit && (run.head? != some '0' || run.length == 1) then
    some (Nat.ofDigitChars 10 run 0)
  else none

def hexDigit? (c : Char) : Option Nat :=
  if '0' ≤ c ∧ c ≤ '9' then some (c.toNat - '0'.toNat)
  else if 'a' ≤ c ∧ c ≤ 'f' then some (c.toNat - 'a'.toNat + 10)
  else if 'A' ≤ c ∧ c ≤ 'F' then some (c.toNat - 'A'.toNat + 10)
  else none

def hexValue? (value : Nat) : List Char → Option Nat
  | [] => some value
  | c :: rest =>
      match hexDigit? c with
      | some digit => hexValue? (16 * value + digit) rest
      | none => none

/-! ### Literals -/

/-- What stands in front of the closing quote; a backslash takes the next character with it. -/
def untilQuote (quote : Char) : List Char → Option (List Char)
  | [] => none
  | c :: rest =>
      if c = quote then some []
      else if c = '\\' then
        match rest with
        | [] => none
        | d :: more => (untilQuote quote more).map fun content => c :: d :: content
      else (untilQuote quote rest).map (c :: ·)

/-- The bytes of a literal's content, of which `unit?` reads one with the length of its writing. -/
def decodeFrom (unit? : List Char → Option (UInt8 × Nat)) : Nat → List Char → Option Key
  | _, [] => some []
  | skip + 1, _ :: rest => decodeFrom unit? skip rest
  | 0, c :: rest =>
      match unit? (c :: rest) with
      | some (b, length + 1) => (decodeFrom unit? length rest).map (b :: ·)
      | some (_, 0) | none => none

def simpleEscape? (c : Char) : Option UInt8 :=
  [('\\', 0x5C), ('\'', 0x27), ('"', 0x22), ('n', 0x0A), ('t', 0x09), ('r', 0x0D), ('a', 0x07),
    ('b', 0x08), ('f', 0x0C), ('v', 0x0B)].lookup c

def plainUnit? (c : Char) : Option (UInt8 × Nat) :=
  if 0x20 ≤ c.toNat ∧ c.toNat ≤ 0x7E then some (UInt8.ofNat c.toNat, 1) else none

/-- The bytes up to the closing quote, and the number of characters with that quote. -/
def quotedContent (quote : Char) (unit? : List Char → Option (UInt8 × Nat)) (chars : List Char) :
    Option (Key × Nat) :=
  match untilQuote quote chars with
  | none => none
  | some content => (decodeFrom unit? 0 content).map fun bytes => (bytes, content.length + 1)

/-! ### Cutting a line piece by piece -/

def before : List Token → Option (List Token) → Option (List Token)
  | [], rest => rest
  | token :: tokens, rest => (before tokens rest).map (token :: ·)

theorem before_some (tokens rest : List Token) :
    before tokens (some rest) = some (tokens ++ rest) := by
  induction tokens with
  | nil => rfl
  | cons token tokens ih => rw [before, ih]; rfl

theorem before_append (first second : List Token) (rest : Option (List Token)) :
    before (first ++ second) rest = before first (before second rest) := by
  induction first with
  | nil => rfl
  | cons token first ih => rw [List.cons_append, before, ih, before]

namespace Lexicon

variable (L : Lexicon)

theorem lexFrom_skip (chunk rest : List Char) :
    L.lexFrom chunk.length (chunk ++ rest) = L.lexFrom 0 rest := by
  induction chunk with
  | nil => rfl
  | cons c chunk ih => exact ih

theorem lexFrom_token (token : Token) (c : Char) (chunk rest : List Char)
    (visible : isBlank c = false)
    (found : L.token? (c :: chunk ++ rest) = some (token, chunk.length + 1)) :
    L.lexFrom 0 (c :: chunk ++ rest) = before [token] (L.lexFrom 0 rest) := by
  rw [List.cons_append] at found ⊢
  rw [lexFrom, if_neg (by simp [visible]), found]
  simp only [lexFrom_skip, before]

theorem lex_blanks (blanks rest : List Char) (blank : ∀ c ∈ blanks, isBlank c = true) :
    L.lex (blanks ++ rest) = L.lex rest := by
  induction blanks with
  | nil => rfl
  | cons c blanks ih =>
      have first := blank c (by simp)
      rw [List.cons_append, lex, lexFrom, if_pos first]
      exact ih (fun d member => blank d (by simp [member]))

theorem takeWhile_append_stop (p : Char → Bool) (chunk rest : List Char)
    (all : ∀ c ∈ chunk, p c = true) (stop : ∀ c ∈ rest.head?, p c = false) :
    (chunk ++ rest).takeWhile p = chunk := by
  induction chunk with
  | nil =>
      cases rest with
      | nil => rfl
      | cons c rest => simp [stop c rfl]
  | cons c chunk ih =>
      rw [List.cons_append, List.takeWhile_cons_of_pos (all c (by simp)),
        ih (fun d member => all d (by simp [member]))]

theorem lexFrom_numeral (value : Nat) (c : Char) (run rest : List Char) (digit : c.isDigit = true)
    (word : ∀ d ∈ c :: run, isWordChar d = true) (stop : ∀ d ∈ rest.head?, isWordChar d = false)
    (noLiteral : L.literal? (c :: run ++ rest) = none)
    (numeral : L.numeral? (c :: run) = some value) :
    L.lexFrom 0 (c :: run ++ rest) = before [.number value] (L.lexFrom 0 rest) := by
  apply L.lexFrom_token
  · by_contra blank
    simp only [isBlank, Bool.not_eq_false, Bool.or_eq_true, decide_eq_true_eq] at blank
    rcases blank with rfl | rfl <;> simp at digit
  · rw [token?, noLiteral]
    simp only [takeWhile_append_stop isWordChar (c :: run) rest word stop, digit, if_true, numeral]
    rfl

end Lexicon

/-! ### Pieces of a line -/

namespace Lexicon

/-- A piece of a line that is cut into `tokens` whatever follows. -/
structure Cuts (L : Lexicon) (chars : List Char) (tokens : List Token) : Prop where
  oneLine : '\n' ∉ chars
  cut : ∀ rest, L.lexFrom 0 (chars ++ rest) = before tokens (L.lexFrom 0 rest)

/-- A piece of a line that is cut into `tokens` when no letter or digit follows. -/
structure Reads (L : Lexicon) (chars : List Char) (tokens : List Token) : Prop where
  oneLine : '\n' ∉ chars
  cut : ∀ rest : List Char, (∀ c ∈ rest.head?, isWordChar c = false) →
    L.lexFrom 0 (chars ++ rest) = before tokens (L.lexFrom 0 rest)

variable {L : Lexicon} {first second : List Char} {tokens : List Token}

theorem Cuts.reads (piece : L.Cuts first tokens) : L.Reads first tokens :=
  ⟨piece.oneLine, fun rest _ => piece.cut rest⟩

theorem Cuts.append_reads {front : List Token} (left : L.Cuts first front)
    (right : L.Reads second tokens) : L.Reads (first ++ second) (front ++ tokens) := by
  constructor
  · simp [left.oneLine, right.oneLine]
  · intro rest stop
    rw [List.append_assoc, left.cut, right.cut rest stop, before_append]

theorem Cuts.append {front : List Token} (left : L.Cuts first front)
    (right : L.Cuts second tokens) : L.Cuts (first ++ second) (front ++ tokens) := by
  constructor
  · simp [left.oneLine, right.oneLine]
  · intro rest
    rw [List.append_assoc, left.cut, right.cut rest, before_append]

theorem Reads.append_cuts {front : List Token} (left : L.Reads first front)
    (right : L.Cuts second tokens) (start : ∃ c chars, second = c :: chars ∧ isWordChar c = false) :
    L.Cuts (first ++ second) (front ++ tokens) := by
  constructor
  · simp [left.oneLine, right.oneLine]
  · intro rest
    obtain ⟨c, chars, rfl, stop⟩ := start
    rw [List.append_assoc, left.cut _ (by simpa using stop), right.cut rest, before_append]

theorem Reads.append_reads {front : List Token} (left : L.Reads first front)
    (right : L.Reads second tokens)
    (start : ∃ c chars, second = c :: chars ∧ isWordChar c = false) :
    L.Reads (first ++ second) (front ++ tokens) := by
  constructor
  · simp [left.oneLine, right.oneLine]
  · intro rest stop
    obtain ⟨c, chars, rfl, stops⟩ := start
    rw [List.append_assoc, left.cut _ (by simpa using stops), right.cut rest stop, before_append]

theorem cuts_literal {token : Token} {c : Char} {chunk : List Char} (visible : isBlank c = false)
    (oneLine : '\n' ∉ c :: chunk)
    (found : ∀ rest, L.literal? (c :: chunk ++ rest) = some (token, chunk.length + 1)) :
    L.Cuts (c :: chunk) [token] where
  oneLine := oneLine
  cut rest := L.lexFrom_token token c chunk rest visible (by rw [token?, found])

theorem Reads.lex (line : L.Reads first tokens) : L.lex first = some tokens := by
  have whole := line.cut [] (by simp)
  rw [List.append_nil, lexFrom, before_some, List.append_nil] at whole
  exact whole

end Lexicon

/-! ### Writings of bytes -/

/-- Inside a literal, `writing` is passed over as a whole and read as the byte `b`. -/
structure Writes (quote : Char) (unit? : List Char → Option (UInt8 × Nat)) (b : UInt8)
    (writing : List Char) : Prop where
  passed : ∀ rest, untilQuote quote (writing ++ rest) =
    (untilQuote quote rest).map (writing ++ ·)
  decoded : ∀ rest, decodeFrom unit? 0 (writing ++ rest) = (decodeFrom unit? 0 rest).map (b :: ·)
  oneLine : '\n' ∉ writing

theorem untilQuote_end (quote : Char) (rest : List Char) :
    untilQuote quote (quote :: rest) = some [] := by
  rw [untilQuote.eq_def]
  simp

theorem untilQuote_escape (quote d : Char) (rest : List Char) (noBackslash : quote ≠ '\\') :
    untilQuote quote ('\\' :: d :: rest) =
      (untilQuote quote rest).map fun content => '\\' :: d :: content := by
  rw [untilQuote.eq_def]
  simp [noBackslash.symm]

theorem untilQuote_quiet (quote : Char) (chunk rest : List Char)
    (quiet : ∀ c ∈ chunk, c ≠ quote ∧ c ≠ '\\') :
    untilQuote quote (chunk ++ rest) = (untilQuote quote rest).map (chunk ++ ·) := by
  induction chunk with
  | nil => simp
  | cons c chunk ih =>
      obtain ⟨noQuote, noBackslash⟩ := quiet c (by simp)
      have step : untilQuote quote (c :: (chunk ++ rest)) =
          (untilQuote quote (chunk ++ rest)).map (c :: ·) := by
        rw [untilQuote.eq_def]
        simp [noQuote, noBackslash]
      rw [List.cons_append, step, ih (fun d member => quiet d (by simp [member])), Option.map_map]
      rfl

theorem decodeFrom_skip (unit? : List Char → Option (UInt8 × Nat)) (chunk rest : List Char) :
    decodeFrom unit? chunk.length (chunk ++ rest) = decodeFrom unit? 0 rest := by
  induction chunk with
  | nil => rfl
  | cons c chunk ih => exact ih

theorem decodeFrom_unit (unit? : List Char → Option (UInt8 × Nat)) (b : UInt8) (c : Char)
    (chunk rest : List Char) (found : unit? (c :: chunk ++ rest) = some (b, chunk.length + 1)) :
    decodeFrom unit? 0 (c :: chunk ++ rest) = (decodeFrom unit? 0 rest).map (b :: ·) := by
  rw [List.cons_append] at found ⊢
  rw [decodeFrom, found]
  simp only [decodeFrom_skip]

theorem writes_plain (quote c : Char) (unit? : List Char → Option (UInt8 × Nat)) (b : UInt8)
    (quiet : c ≠ quote ∧ c ≠ '\\') (oneLine : '\n' ≠ c)
    (found : ∀ rest, unit? (c :: rest) = some (b, 1)) : Writes quote unit? b [c] where
  passed rest := untilQuote_quiet quote [c] rest (by simpa using quiet)
  decoded rest := decodeFrom_unit unit? b c [] rest (found rest)
  oneLine := by simpa using oneLine

theorem writes_escape (quote d : Char) (chunk : List Char)
    (unit? : List Char → Option (UInt8 × Nat)) (b : UInt8) (noBackslash : quote ≠ '\\')
    (quiet : ∀ c ∈ chunk, c ≠ quote ∧ c ≠ '\\') (oneLine : '\n' ∉ d :: chunk)
    (found : ∀ rest, unit? ('\\' :: d :: chunk ++ rest) = some (b, chunk.length + 2)) :
    Writes quote unit? b ('\\' :: d :: chunk) where
  passed rest := by
    rw [List.cons_append, List.cons_append, untilQuote_escape quote d _ noBackslash,
      untilQuote_quiet quote chunk rest quiet, Option.map_map]
    rfl
  decoded rest := decodeFrom_unit unit? b '\\' (d :: chunk) rest (found rest)
  oneLine := by simpa using oneLine

theorem toNat_char (b : UInt8) : (Char.ofNat b.toNat).toNat = b.toNat := by
  have small := b.toNat_lt
  rw [Char.ofNat, dif_pos (Or.inl (by omega))]
  rfl

theorem byte_of_char {b : UInt8} {c : Char} (written : Char.ofNat b.toNat = c) :
    b = UInt8.ofNat c.toNat := by
  rw [← written, toNat_char, UInt8.ofNat_toNat]

theorem plainUnit?_byte (b : UInt8) (printable : 0x20 ≤ b.toNat ∧ b.toNat ≤ 0x7E) :
    plainUnit? (Char.ofNat b.toNat) = some (b, 1) := by
  rw [plainUnit?, toNat_char, if_pos printable, UInt8.ofNat_toNat]

theorem quotedContent_eq (quote : Char) (unit? : List Char → Option (UInt8 × Nat))
    (write : UInt8 → List Char) (writes : ∀ b, Writes quote unit? b (write b)) (bytes : Key)
    (rest : List Char) :
    quotedContent quote unit? (bytes.flatMap write ++ quote :: rest) =
      some (bytes, (bytes.flatMap write).length + 1) := by
  have found :
      untilQuote quote (bytes.flatMap write ++ quote :: rest) = some (bytes.flatMap write) ∧
      decodeFrom unit? 0 (bytes.flatMap write) = some bytes := by
    induction bytes with
    | nil => exact ⟨untilQuote_end quote rest, rfl⟩
    | cons b bytes ih =>
        rw [List.flatMap_cons, List.append_assoc, (writes b).passed, ih.1, (writes b).decoded, ih.2]
        exact ⟨rfl, rfl⟩
  rw [quotedContent, found.1]
  simp only [found.2, Option.map_some]

theorem literal_oneLine {quote : Char} {unit? : List Char → Option (UInt8 × Nat)}
    {write : UInt8 → List Char} (writes : ∀ b, Writes quote unit? b (write b)) (bytes : Key) :
    '\n' ∉ bytes.flatMap write := by
  rw [List.mem_flatMap]
  rintro ⟨b, _, inside⟩
  exact (writes b).oneLine inside

/-! ### Numbers as they are printed -/

/-- The characters of a number with zeros in front, the last digit apart. -/
theorem padded_digits (base width n : Nat) (large : 1 < base) :
    (Text.padLeft '0' (width + 2) (String.ofList (Nat.toDigits base n))).toList =
      (Text.padLeft '0' (width + 1) (String.ofList (Nat.toDigits base (n / base)))).toList ++
        [(n % base).digitChar] := by
  simp only [Text.padLeft, String.toList_append, String.toList_ofList, String.length_ofList]
  by_cases small : n < base
  · rw [Nat.toDigits_of_lt_base small, Nat.div_eq_of_lt small, Nat.mod_eq_of_lt small,
      Nat.toDigits_zero]
    simp [List.replicate_succ']
  · rw [Nat.toDigits_of_base_le large (by omega)]
    simp

theorem padded_digit (base n : Nat) (small : n < base) :
    (Text.padLeft '0' 1 (String.ofList (Nat.toDigits base n))).toList = [n.digitChar] := by
  rw [Nat.toDigits_of_lt_base small]
  simp [Text.padLeft]

theorem head_toDigits (n : Nat) (positive : 0 < n) : (Nat.toDigits 10 n).head? ≠ some '0' := by
  induction n using Nat.strongRecOn with
  | ind n ih =>
      by_cases small : n < 10
      · have table : ∀ m < 10, 0 < m → [m.digitChar].head? ≠ some '0' := by decide
        rw [Nat.toDigits_of_lt_base small]
        exact table n small positive
      · rw [Nat.toDigits_of_base_le (by decide) (by omega),
          List.head?_append_of_ne_nil _ Nat.toDigits_ne_nil]
        exact ih (n / 10) (by omega) (by omega)

theorem decimal?_toDigits (n : Nat) : decimal? (Nat.toDigits 10 n) = some n := by
  have digits : (Nat.toDigits 10 n).all Char.isDigit = true := by
    rw [List.all_eq_true]
    intro c member
    exact Nat.isDigit_of_mem_toDigits (by decide) (by decide) member
  have noZeros :
      ((Nat.toDigits 10 n).head? != some '0' || (Nat.toDigits 10 n).length == 1) = true := by
    rcases Nat.eq_zero_or_pos n with rfl | positive
    · rfl
    · simp [head_toDigits n positive]
  rw [decimal?, digits, noZeros, Nat.ofDigitChars_ten_toDigits]
  rfl

theorem isWordChar_of_isDigit (c : Char) (digit : c.isDigit = true) : isWordChar c = true := by
  simp [isWordChar, Char.isAlphanum, digit]

theorem toList_toString (n : Nat) : (toString n).toList = Nat.toDigits 10 n := Nat.toList_repr

theorem toString_oneLine (n : Nat) : '\n' ∉ (toString n).toList := by
  intro inside
  rw [toList_toString] at inside
  have digit := Nat.isDigit_of_mem_toDigits (by decide) (by decide) inside
  exact absurd digit (by decide)

structure Lexicon.ReadsNumerals (L : Lexicon) : Prop where
  noLiteral : ∀ c rest, c.isDigit = true → L.literal? (c :: rest) = none
  decimal : ∀ run value, decimal? run = some value → L.numeral? run = some value
  minus : ∀ c rest, c.isDigit = true → L.token? ('-' :: c :: rest) = some (.sign "-", 1)

def valueTokens : Int → List Token
  | .ofNat n => [.number n]
  | .negSucc n => [.sign "-", .number (n + 1)]

section Numbers

variable {L : Lexicon} (numerals : L.ReadsNumerals)

include numerals

theorem lexFrom_nat (n : Nat) (rest : List Char) (stop : ∀ c ∈ rest.head?, isWordChar c = false) :
    L.lexFrom 0 ((toString n).toList ++ rest) = before [.number n] (L.lexFrom 0 rest) := by
  have digits : ∀ c ∈ Nat.toDigits 10 n, c.isDigit = true := fun c member =>
    Nat.isDigit_of_mem_toDigits (by decide) (by decide) member
  have value := numerals.decimal _ _ (decimal?_toDigits n)
  rw [toList_toString]
  cases written : Nat.toDigits 10 n with
  | nil => exact False.elim (Nat.toDigits_ne_nil written)
  | cons c run =>
      rw [written] at digits value
      exact L.lexFrom_numeral n c run rest (digits c (by simp))
        (fun d member => isWordChar_of_isDigit d (digits d member)) stop
        (numerals.noLiteral c _ (digits c (by simp))) value

theorem reads_nat (n : Nat) : L.Reads (toString n).toList [.number n] :=
  ⟨toString_oneLine n, lexFrom_nat numerals n⟩

theorem reads_int (value : Int) : L.Reads (toString value).toList (valueTokens value) := by
  cases value with
  | ofNat n => exact reads_nat numerals n
  | negSucc n =>
      have chars : (toString (Int.negSucc n)).toList = '-' :: (toString (n + 1)).toList := by
        change ("-" ++ Nat.repr (n + 1)).toList = _
        rw [String.toList_append]
        rfl
      rw [chars]
      constructor
      · simpa using toString_oneLine (n + 1)
      · intro rest stop
        have positive := lexFrom_nat numerals (n + 1) rest stop
        rw [toList_toString] at positive ⊢
        cases written : Nat.toDigits 10 (n + 1) with
        | nil => exact False.elim (Nat.toDigits_ne_nil written)
        | cons c run =>
            have first : c ∈ Nat.toDigits 10 (n + 1) := by simp [written]
            have digit := Nat.isDigit_of_mem_toDigits (by decide) (by decide) first
            have sign := L.lexFrom_token (.sign "-") '-' [] (c :: run ++ rest) rfl
              (numerals.minus c (run ++ rest) digit)
            rw [List.singleton_append] at sign
            rw [written] at positive
            rw [List.cons_append, sign, positive]
            rfl

end Numbers

end Palette.Target
