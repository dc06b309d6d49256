import DeviceArrays.Text.Blank

/-!
# Cursors

A cursor reads a text without regard to white space at its ends, and counts places in the bytes of
UTF-8. The pieces that it cuts come from the text as it was given: a place in the trimmed text is
taken for the same place in the whole one.
-/
namespace DeviceArrays

/-- Bytes of a text. -/
def utf8Length : List Char → Nat
  | [] => 0
  | c :: cs => c.utf8Size + utf8Length cs

/-- As many characters as fit into the first `n` bytes. -/
def takeBytes (n : Nat) : List Char → List Char
  | [] => []
  | c :: cs => if c.utf8Size ≤ n then c :: takeBytes (n - c.utf8Size) cs else []

/-- The text without the characters that fit into its first `n` bytes. -/
def dropBytes (n : Nat) : List Char → List Char
  | [] => []
  | c :: cs => if c.utf8Size ≤ n then dropBytes (n - c.utf8Size) cs else c :: cs

@[simp] theorem takeBytes_append_dropBytes (n : Nat) (cs : List Char) :
    takeBytes n cs ++ dropBytes n cs = cs := by
  induction cs generalizing n with
  | nil => rfl
  | cons c cs ih =>
    by_cases h : c.utf8Size ≤ n
    · simp [takeBytes, dropBytes, h, ih]
    · simp [takeBytes, dropBytes, h]

@[simp] theorem takeBytes_zero (cs : List Char) : takeBytes 0 cs = [] := by
  cases cs with
  | nil => rfl
  | cons c cs => simp [takeBytes, Nat.ne_of_gt c.utf8Size_pos]

@[simp] theorem dropBytes_zero (cs : List Char) : dropBytes 0 cs = cs := by
  cases cs with
  | nil => rfl
  | cons c cs => simp [dropBytes, Nat.ne_of_gt c.utf8Size_pos]

/-- The bytes of a text in front of another one hold that text. -/
@[simp] theorem takeBytes_utf8Length (cs ds : List Char) :
    takeBytes (utf8Length cs) (cs ++ ds) = cs := by
  induction cs with
  | nil => simp [utf8Length]
  | cons c cs ih => simp [utf8Length, takeBytes, ih]

@[simp] theorem dropBytes_utf8Length (cs ds : List Char) :
    dropBytes (utf8Length cs) (cs ++ ds) = ds := by
  induction cs with
  | nil => simp [utf8Length]
  | cons c cs ih => simp [utf8Length, dropBytes, ih]

/-- A place in a text: the whole text, the bytes before the place, the trimmed text behind it. -/
structure Cursor where
  whole : List Char
  place : Nat
  ahead : List Char
  deriving DecidableEq, Repr

namespace Cursor

def ofText (cs : List Char) : Cursor := ⟨cs, 0, trimBlank cs⟩

/-- The whole text from the place on. -/
def rest (c : Cursor) : List Char := dropBytes c.place c.whole

/-- The place behind one more character. -/
def next (c : Cursor) : Cursor :=
  ⟨c.whole, c.place + utf8Length (c.ahead.take 1), c.ahead.drop 1⟩

/-- Reads up to the first of some marks: the text before it, the mark, and the place behind it. -/
def upTo? (marks : List Char) (c : Cursor) : Option (List Char × Char × Cursor) :=
  let size := utf8Length (c.ahead.takeWhile (· ∉ marks))
  match c.ahead.dropWhile (· ∉ marks) with
  | [] => none
  | mark :: ahead =>
    some (takeBytes size c.rest, mark, ⟨c.whole, c.place + size + mark.utf8Size, ahead⟩)

end Cursor

end DeviceArrays
