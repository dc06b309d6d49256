/-!
# JSON tokens

JSON text is cut into tokens from left to right, one character at a time. A string is kept as the
UTF-16 units it denotes, because escapes may write a surrogate that stands alone.
-/
namespace DeviceArrays.Json

/-- A number as it is written: a natural number, or some other number. -/
inductive Number
  | natural (n : Nat)
  | other (characters : List Char)
  deriving DecidableEq, Repr

inductive Token
  | openBrace
  | closeBrace
  | openBracket
  | closeBracket
  | colon
  | comma
  | null
  | truth (value : Bool)
  | number (value : Number)
  | text (units : List UInt16)
  deriving DecidableEq, Repr

/-- The UTF-16 units of a character. -/
def unitsOf (c : Char) : List UInt16 :=
  let n := c.toNat
  if n < 0x10000 then [UInt16.ofNat n]
  else
    [UInt16.ofNat (0xd800 + (n - 0x10000) / 0x400), UInt16.ofNat (0xdc00 + (n - 0x10000) % 0x400)]

/-- The characters of a sequence of units, unless a surrogate stands alone. -/
def charactersOf? : List UInt16 → Option (List Char)
  | [] => some []
  | u :: rest =>
    if u.toNat < 0xd800 ∨ 0xdfff < u.toNat then
      (charactersOf? rest).map (Char.ofNat u.toNat :: ·)
    else
      match rest with
      | v :: later =>
        if u.toNat < 0xdc00 ∧ 0xdc00 ≤ v.toNat ∧ v.toNat < 0xe000 then
          (charactersOf? later).map
            (Char.ofNat (0x10000 + (u.toNat - 0xd800) * 0x400 + (v.toNat - 0xdc00)) :: ·)
        else none
      | [] => none

/-- Reads the fraction and the exponent of a number and says whether there are any. -/
def isFractionAndExponent (cs : List Char) : Option Bool :=
  let (fraction, afterFraction) :=
    match cs with
    | '.' :: rest => (some (rest.takeWhile Char.isDigit), rest.dropWhile Char.isDigit)
    | _ => (none, cs)
  if fraction = some [] then none
  else
    match afterFraction with
    | [] => some fraction.isSome
    | e :: rest =>
      let digits :=
        match rest with
        | '+' :: ds => ds
        | '-' :: ds => ds
        | ds => ds
      if (e = 'e' ∨ e = 'E') ∧ digits ≠ [] ∧ digits.all Char.isDigit then some true else none

/-- Reads the text of a number. A zero in front stands alone before the point. -/
def Number.ofText? (cs : List Char) : Option Number :=
  let (negative, unsigned) :=
    match cs with
    | '-' :: rest => (true, rest)
    | _ => (false, cs)
  let whole := unsigned.takeWhile Char.isDigit
  if whole = [] ∨ (whole.head? = some '0' ∧ whole ≠ ['0']) then none
  else
    match isFractionAndExponent (unsigned.dropWhile Char.isDigit) with
    | none => none
    | some more =>
      if negative || more then some (.other cs)
      else some (.natural (whole.foldl (fun n d => 10 * n + (d.toNat - '0'.toNat)) 0))

/-- What the scanner is in the middle of. Collected parts are kept with the latest first. -/
inductive Scan
  | between
  | word (letters : List Char)
  | number (characters : List Char)
  | text (units : List UInt16)
  | escape (units : List UInt16)
  | hex (units : List UInt16) (digits value : Nat)
  deriving Repr

/-- The token of a word. -/
def wordToken? (letters : List Char) : Option Token :=
  if letters = "null".toList then some .null
  else if letters = "true".toList then some (.truth true)
  else if letters = "false".toList then some (.truth false)
  else none

/-- The value of a hexadecimal digit. -/
def hexValue? (c : Char) : Option Nat :=
  if '0' ≤ c ∧ c ≤ '9' then some (c.toNat - '0'.toNat)
  else if 'a' ≤ c ∧ c ≤ 'f' then some (c.toNat - 'a'.toNat + 10)
  else if 'A' ≤ c ∧ c ≤ 'F' then some (c.toNat - 'A'.toNat + 10)
  else none

/-- The unit that a backslash and a letter stand for. -/
def escapeUnit? (c : Char) : Option UInt16 :=
  match c with
  | '"' => some 0x22
  | '\\' => some 0x5c
  | '/' => some 0x2f
  | 'b' => some 0x08
  | 'f' => some 0x0c
  | 'n' => some 0x0a
  | 'r' => some 0x0d
  | 't' => some 0x09
  | _ => none

def isNumberCharacter (c : Char) : Bool :=
  c.isDigit || c = '-' || c = '+' || c = '.' || c = 'e' || c = 'E'

/-- One character between tokens. -/
def scanBetween (tokens : List Token) (c : Char) : Option (List Token × Scan) :=
  if c = ' ' ∨ c = '\n' ∨ c = '\t' ∨ c = '\r' then some (tokens, .between)
  else if c = '\x7b' then some (.openBrace :: tokens, .between)
  else if c = '\x7d' then some (.closeBrace :: tokens, .between)
  else if c = '[' then some (.openBracket :: tokens, .between)
  else if c = ']' then some (.closeBracket :: tokens, .between)
  else if c = ':' then some (.colon :: tokens, .between)
  else if c = ',' then some (.comma :: tokens, .between)
  else if c = '"' then some (tokens, .text [])
  else if c.isDigit ∨ c = '-' then some (tokens, .number [c])
  else if c.isAlpha then some (tokens, .word [c])
  else none

/-- One character of the text. Finished tokens are kept with the latest first. -/
def scan (state : List Token × Scan) (c : Char) : Option (List Token × Scan) :=
  match state with
  | (tokens, .between) => scanBetween tokens c
  | (tokens, .word letters) =>
    if c.isAlpha then some (tokens, .word (c :: letters))
    else do scanBetween ((← wordToken? letters.reverse) :: tokens) c
  | (tokens, .number characters) =>
    if isNumberCharacter c then some (tokens, .number (c :: characters))
    else do scanBetween (.number (← Number.ofText? characters.reverse) :: tokens) c
  | (tokens, .text units) =>
    if c = '"' then some (.text units.reverse :: tokens, .between)
    else if c = '\\' then some (tokens, .escape units)
    else if c.toNat < 0x20 then none
    else some (tokens, .text ((unitsOf c).reverse ++ units))
  | (tokens, .escape units) =>
    if c = 'u' then some (tokens, .hex units 0 0)
    else do some (tokens, .text ((← escapeUnit? c) :: units))
  | (tokens, .hex units digits value) => do
    let value := 16 * value + (← hexValue? c)
    if digits = 3 then some (tokens, .text (UInt16.ofNat value :: units))
    else some (tokens, .hex units (digits + 1) value)

/-- The tokens of a whole text. -/
def tokens? (cs : List Char) : Option (List Token) := do
  match ← cs.foldlM scan ([], .between) with
  | (tokens, .between) => some tokens.reverse
  | (tokens, .word letters) => do some ((← wordToken? letters.reverse) :: tokens).reverse
  | (tokens, .number characters) => do
    some (.number (← Number.ofText? characters.reverse) :: tokens).reverse
  | _ => none

end DeviceArrays.Json
