import DeviceArrays.Text.Blank

/-!
# Escapes in patterns

The single items of a pattern: a character that stands for itself, or what a backslash makes of the
characters behind it. Patterns know no tables of scripts, so an item that would need one, such as a
letter in either case or a digit of any script, is refused.
-/
namespace DeviceArrays.Pattern

/-- What is in force at a place of a pattern. In a spaced one blanks and comments do not count. -/
structure Mode where
  anyCase : Bool
  unicode : Bool
  spaced : Bool
  deriving DecidableEq, Repr

namespace Mode

/-- The mode in which a pattern begins. -/
def initial : Mode := ⟨false, true, false⟩

/-- The mode after a flag letter is switched on or off. The other flags concern matching alone. -/
def switch (m : Mode) (flag : Char) (on : Bool) : Mode :=
  match flag with
  | 'i' => { m with anyCase := on }
  | 'u' => { m with unicode := on }
  | 'x' => { m with spaced := on }
  | _ => m

end Mode

/-- The text behind blanks and comments; a comment goes from a number sign to the line's end. -/
def skipSpaced (comment : Bool) : List Char → List Char
  | [] => []
  | c :: cs =>
    if comment then skipSpaced (c ≠ '\n') cs
    else if isBlank c then skipSpaced false cs
    else if c = '#' then skipSpaced true cs
    else c :: cs

/-- The next text that counts. -/
def Mode.skip (m : Mode) (cs : List Char) : List Char :=
  if m.spaced then skipSpaced false cs else cs

/-- What one item of a pattern stands for. A byte is a character that was given as one. -/
inductive Item
  | char (c : Char)
  | byte (c : Char)
  | kind (negated : Bool)
  | edge
  | wordEdge
  deriving DecidableEq, Repr

/-- Whether a character is below the first one beyond ASCII. -/
def isAscii (c : Char) : Bool := c.toNat < 128

namespace Item

/-- The character of an item that is one. -/
def char? : Item → Option Char
  | char c | byte c => some c
  | _ => none

/-- Whether an item may stand outside of brackets. -/
def isAllowed (m : Mode) : Item → Bool
  | char _ => !(m.anyCase && m.unicode)
  | byte c => if m.unicode then !m.anyCase else isAscii c
  | kind negated => !m.unicode && !negated
  | edge | wordEdge => true

/-- Whether an item may stand between brackets. -/
def isMember (m : Mode) : Item → Bool
  | char c | byte c => if m.unicode then !m.anyCase else isAscii c
  | kind negated => !m.unicode && !negated
  | edge | wordEdge => false

end Item

/-- How deep several parts side by side nest: the deepest of them, and one level more for putting
them together. -/
def joined : List Nat → Nat
  | [] => 0
  | [depth] => depth
  | depths => depths.foldl max 0 + 1

/-- The value of a hexadecimal digit. -/
def hexValue? (c : Char) : Option Nat :=
  if '0' ≤ c ∧ c ≤ '9' then some (c.toNat - '0'.toNat)
  else if 'a' ≤ c ∧ c ≤ 'f' then some (c.toNat - 'a'.toNat + 10)
  else if 'A' ≤ c ∧ c ≤ 'F' then some (c.toNat - 'A'.toNat + 10)
  else none

/-- Reads `n` hexadecimal digits behind the value of those before. -/
def readHex? (m : Mode) : Nat → Nat → List Char → Option (Nat × List Char)
  | 0, value, cs => some (value, cs)
  | n + 1, value, cs =>
    match m.skip cs with
    | [] => none
    | c :: rest => do readHex? m n (16 * value + (← hexValue? c)) rest

/-- Reads a character given by the digits of its code point. -/
def readCode? (m : Mode) (digits : Nat) (cs : List Char) : Option (Char × List Char) := do
  let (value, rest) ← readHex? m digits 0 cs
  if value.isValidChar then some (Char.ofNat value, rest) else none

/-- The item that a letter or a sign behind a backslash makes. -/
def escaped? (c : Char) : Option Item :=
  match c with
  | 'a' => some (.char '\x07')
  | 'f' => some (.char '\x0c')
  | 't' => some (.char '\t')
  | 'n' => some (.char '\n')
  | 'r' => some (.char '\r')
  | 'v' => some (.char '\x0b')
  | 'd' | 's' | 'w' => some (.kind false)
  | 'D' | 'S' | 'W' => some (.kind true)
  | 'A' | 'z' => some .edge
  | 'b' | 'B' | '<' | '>' => some .wordEdge
  | c => if isAscii c && !c.isAlphanum then some (.char c) else none

/-- Reads what stands behind a backslash. -/
def readEscape? (m : Mode) : List Char → Option (Item × List Char)
  | [] => none
  | 'x' :: cs => do
    let (c, rest) ← readCode? m 2 cs
    some (.byte c, rest)
  | 'u' :: cs => do
    let (c, rest) ← readCode? m 4 cs
    some (.char c, rest)
  | 'U' :: cs => do
    let (c, rest) ← readCode? m 8 cs
    some (.char c, rest)
  | 'b' :: '\x7b' :: _ => none
  | c :: cs => do some (← escaped? c, cs)

/-- Reads one item. -/
def readItem? (m : Mode) : List Char → Option (Item × List Char)
  | [] => none
  | '\\' :: cs => readEscape? m cs
  | c :: cs => some (.char c, cs)

end DeviceArrays.Pattern
