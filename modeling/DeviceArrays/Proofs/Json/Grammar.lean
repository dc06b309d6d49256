import DeviceArrays.Json.Value
import DeviceArrays.Proofs.Text.Numerals

/-!
# JSON texts

Which texts stand for which values, said without reading. A value is a sequence of tokens, and a
text is such a sequence with blanks between the tokens. A word or a number goes on as long as it
can, so what stands behind it has to be something else.
-/
namespace DeviceArrays.Json

/-! ### Numbers -/

/-- One or more decimal digits. -/
def Digits (ds : List Char) : Prop := ds ≠ [] ∧ ∀ d ∈ ds, '0' ≤ d ∧ d ≤ '9'

/-- Digits without leading zeros. -/
def Whole (ds : List Char) : Prop := Digits ds ∧ (ds.head? = some '0' → ds = ['0'])

/-- Nothing, or a point and digits. -/
inductive Fraction : List Char → Prop
  | none : Fraction []
  | point {ds : List Char} (digits : Digits ds) : Fraction ('.' :: ds)

/-- Nothing, or a letter and digits with or without a sign. -/
inductive Exponent : List Char → Prop
  | none : Exponent []
  | power {e : Char} {sign ds : List Char} (letter : e ∈ ['e', 'E'])
      (signed : sign ∈ [[], ['+'], ['-']]) (digits : Digits ds) : Exponent (e :: sign ++ ds)

/-- How numbers are written. Digits alone are a natural number. -/
inductive Number.Spells : Number → List Char → Prop
  | natural {ds : List Char} (whole : Whole ds) :
      Spells (.natural (Nat.ofDigits 10 (ds.reverse.map digitValue))) ds
  | other {sign ds fraction exponent : List Char} (signed : sign ∈ [[], ['-']]) (whole : Whole ds)
      (hasFraction : Fraction fraction) (hasExponent : Exponent exponent)
      (more : sign ≠ [] ∨ fraction ≠ [] ∨ exponent ≠ []) :
      Spells (.other (sign ++ ds ++ fraction ++ exponent)) (sign ++ ds ++ fraction ++ exponent)

/-! ### Strings -/

/-- The letters behind a backslash and the units they stand for. -/
def escapes : List (Char × UInt16) :=
  [('"', 0x22), ('\\', 0x5c), ('/', 0x2f), ('b', 0x08), ('f', 0x0c), ('n', 0x0a), ('r', 0x0d),
    ('t', 0x09)]

/-- The hexadecimal digits and their values. -/
def Hex (c : Char) (value : Nat) : Prop :=
  "0123456789abcdef".toList[value]? = some c ∨ "0123456789ABCDEF".toList[value]? = some c

/-- One character of a string, or an escape, and the units it stands for. -/
inductive Piece : List UInt16 → List Char → Prop
  | plain {c : Char} (noQuote : c ≠ '"') (noBackslash : c ≠ '\\') (noControl : 0x20 ≤ c.toNat) :
      Piece (unitsOf c) [c]
  | escape {c : Char} {u : UInt16} (known : (c, u) ∈ escapes) : Piece [u] ['\\', c]
  | code {cs : List Char} {values : List Nat} (four : cs.length = 4)
      (digits : List.Forall₂ Hex cs values) :
      Piece [UInt16.ofNat (Nat.ofDigits 16 values.reverse)] ('\\' :: 'u' :: cs)

/-- What stands between quotation marks, piece by piece. -/
inductive Inside : List UInt16 → List Char → Prop
  | nil : Inside [] []
  | cons {units more : List UInt16} {cs rest : List Char} (piece : Piece units cs)
      (later : Inside more rest) : Inside (units ++ more) (cs ++ rest)

/-! ### Tokens -/

/-- The characters of a token. -/
inductive Token.Spells : Token → List Char → Prop
  | openBrace : Spells .openBrace ['\x7b']
  | closeBrace : Spells .closeBrace ['\x7d']
  | openBracket : Spells .openBracket ['[']
  | closeBracket : Spells .closeBracket [']']
  | colon : Spells .colon [':']
  | comma : Spells .comma [',']
  | null : Spells .null "null".toList
  | yes : Spells (.truth true) "true".toList
  | no : Spells (.truth false) "false".toList
  | number {n : Number} {cs : List Char} (spelled : n.Spells cs) : Spells (.number n) cs
  | text {units : List UInt16} {cs : List Char} (inside : Inside units cs) :
      Spells (.text units) ('"' :: cs ++ ['"'])

/-- A word does not end before a letter, and a number does not before what may go on with it. -/
def Token.EndsBefore (rest : List Char) : Token → Prop
  | .null | .truth _ => ∀ c ∈ rest.head?, ¬ c.isAlpha
  | .number _ => ∀ c ∈ rest.head?, ¬ isNumberCharacter c
  | _ => True

/-- The characters of several tokens, with blanks around them. -/
inductive Lexes : List Token → List Char → Prop
  | nil : Lexes [] []
  | blank {c : Char} {tokens : List Token} {rest : List Char} (blank : c ∈ [' ', '\n', '\t', '\r'])
      (later : Lexes tokens rest) : Lexes tokens (c :: rest)
  | token {t : Token} {tokens : List Token} {cs rest : List Char} (spelled : t.Spells cs)
      (ends : t.EndsBefore rest) (later : Lexes tokens rest) : Lexes (t :: tokens) (cs ++ rest)

/-! ### Values -/

mutual

/-- The tokens of a value. -/
def tokens : Json → List Token
  | .null => [.null]
  | .truth value => [.truth value]
  | .number value => [.number value]
  | .text units => [.text units]
  | .array items => .openBracket :: itemTokens items ++ [.closeBracket]
  | .object members => .openBrace :: memberTokens members ++ [.closeBrace]

/-- The tokens of items, with commas between the items. -/
def itemTokens : List Json → List Token
  | [] => []
  | [item] => tokens item
  | item :: next :: rest => tokens item ++ .comma :: itemTokens (next :: rest)

/-- The tokens of members, with commas between the members. -/
def memberTokens : List (List UInt16 × Json) → List Token
  | [] => []
  | [(key, value)] => .text key :: .colon :: tokens value
  | (key, value) :: next :: rest =>
    .text key :: .colon :: tokens value ++ .comma :: memberTokens (next :: rest)

end

/-- The text stands for the value. -/
def Spells (j : Json) (text : String) : Prop := Lexes j.tokens text.toList

end DeviceArrays.Json
