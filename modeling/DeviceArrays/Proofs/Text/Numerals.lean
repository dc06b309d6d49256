import DeviceArrays.Text.Blank
import DeviceArrays.Text.Natural
import Mathlib.Data.List.DropRight
import Mathlib.Data.Nat.Digits.Defs

/-!
# Trimmed words and numerals

A word is cut out of a text, and a number is read from a word. `Trims` and `Numeral` say without
reading which word and which number these are.
-/
namespace DeviceArrays

variable {text word before after front rest ds cs : List Char} {p : Char → Bool} {n : Nat}
  {c : Char}

/-! ### Where something stops -/

theorem takeWhile_append_stop (goesOn : ∀ c ∈ front, p c) (stops : ∀ c ∈ rest.head?, ¬ p c) :
    (front ++ rest).takeWhile p = front := by
  rw [List.takeWhile_append_of_pos goesOn]
  cases rest with
  | nil => simp
  | cons c cs => rw [List.takeWhile_cons_of_neg (stops c rfl), List.append_nil]

theorem dropWhile_append_stop (goesOn : ∀ c ∈ front, p c) (stops : ∀ c ∈ rest.head?, ¬ p c) :
    (front ++ rest).dropWhile p = rest := by
  rw [List.dropWhile_append_of_pos goesOn]
  cases rest with
  | nil => rfl
  | cons c cs => exact List.dropWhile_cons_of_neg (stops c rfl)

theorem stops_dropWhile (p : Char → Bool) (cs : List Char) :
    ∀ c ∈ (cs.dropWhile p).head?, ¬ p c := by
  intro c found
  have stop := List.head?_dropWhile_not p cs
  rw [Option.mem_def.mp found] at stop
  simpa using stop

/-! ### White space at the ends -/

/-- The word is the text without the white space at its ends. -/
structure Trims (text word : List Char) : Prop where
  inside : ∃ before after, text = before ++ word ++ after ∧
    (∀ c ∈ before, isBlank c) ∧ ∀ c ∈ after, isBlank c
  first : ∀ c ∈ word.head?, ¬ isBlank c
  last : ∀ c ∈ word.getLast?, ¬ isBlank c

theorem trims_trimBlank (text : List Char) : Trims text (trimBlank text) where
  inside := by
    let behind := text.dropWhile isBlank
    refine ⟨text.takeWhile isBlank, behind.rtakeWhile isBlank, ?_,
      fun c => List.mem_takeWhile_imp, fun c => List.mem_rtakeWhile_imp⟩
    rw [List.append_assoc]
    change _ = _ ++ (behind.rdropWhile isBlank ++ behind.rtakeWhile isBlank)
    rw [List.rdropWhile_append_rtakeWhile, List.takeWhile_append_dropWhile]
  first c found := by
    have front : trimBlank text <+: text.dropWhile isBlank := List.rdropWhile_prefix _ _
    obtain ⟨rest, same⟩ := front
    have head : (text.dropWhile isBlank).head? = some c := by
      rw [← same, List.head?_append, Option.mem_def.mp found, Option.some_or]
    exact stops_dropWhile isBlank text c head
  last c found := by
    obtain ⟨nonempty, rfl⟩ := List.mem_getLast?_eq_getLast found
    exact List.rdropWhile_last_not _ _ nonempty

/-- Trimming leaves the one word that the text has between blanks. -/
theorem trimBlank_eq_iff : trimBlank text = word ↔ Trims text word := by
  constructor
  · rintro rfl
    exact trims_trimBlank text
  rintro ⟨⟨before, after, rfl, blankBefore, blankAfter⟩, first, last⟩
  unfold trimBlank
  cases word with
  | nil =>
    have blank : ∀ c ∈ before ++ [] ++ after, isBlank c := by
      simpa [or_imp, forall_and] using And.intro blankBefore blankAfter
    rw [List.dropWhile_eq_nil_iff.mpr blank]
    rfl
  | cons c cs =>
    have head : ∀ d ∈ (c :: cs ++ after).head?, ¬ isBlank d := first
    have back : ∀ d ∈ (c :: cs).reverse.head?, ¬ isBlank d := by
      rwa [List.head?_reverse]
    rw [List.append_assoc, dropWhile_append_stop blankBefore head, List.reverse_append,
      dropWhile_append_stop (by simpa using blankAfter) back, List.reverse_reverse]

/-! ### Numbers -/

/-- The value of a decimal digit. -/
def digitValue (c : Char) : Nat := c.toNat - '0'.toNat

/-- A word of one or more decimal digits, a plus sign in front allowed, that denotes a number. -/
inductive Numeral : List Char → Nat → Prop
  | bare {ds : List Char} (nonempty : ds ≠ []) (digits : ∀ d ∈ ds, '0' ≤ d ∧ d ≤ '9') :
      Numeral ds (Nat.ofDigits 10 (ds.reverse.map digitValue))
  | signed {ds : List Char} (nonempty : ds ≠ []) (digits : ∀ d ∈ ds, '0' ≤ d ∧ d ≤ '9') :
      Numeral ('+' :: ds) (Nat.ofDigits 10 (ds.reverse.map digitValue))

theorem isDigit_iff : c.isDigit = true ↔ '0' ≤ c ∧ c ≤ '9' := by
  simp [Char.isDigit, Char.le_def]

/-- The first digit counts most. -/
theorem ofDigits_reverse (b : Nat) (values : List Nat) :
    Nat.ofDigits b values.reverse = values.foldl (fun n d => b * n + d) 0 := by
  rw [Nat.ofDigits_eq_foldr, List.foldr_reverse]
  simp only [Nat.cast_id, Nat.add_comm]

theorem digitsValue_eq_ofDigits (ds : List Char) :
    digitsValue ds = Nat.ofDigits 10 (ds.reverse.map digitValue) := by
  rw [List.map_reverse, ofDigits_reverse, List.foldl_map]
  rfl

theorem readDigits?_eq_some_iff : readDigits? ds = some n ↔
    (ds ≠ [] ∧ (∀ d ∈ ds, '0' ≤ d ∧ d ≤ '9') ∧
      Nat.ofDigits 10 (ds.reverse.map digitValue) = n) ∧ n < wordBound := by
  simp only [readDigits?, Option.ite_none_right_eq_some, Option.some.injEq, List.all_eq_true,
    isDigit_iff, ← digitsValue_eq_ofDigits]
  constructor
  · rintro ⟨⟨nonempty, digits, fits⟩, rfl⟩
    exact ⟨⟨nonempty, digits, rfl⟩, fits⟩
  · rintro ⟨⟨nonempty, digits, rfl⟩, fits⟩
    exact ⟨⟨nonempty, digits, fits⟩, rfl⟩

/-- Numerals of machine words are what is read as a number. -/
theorem readNatural?_eq_some_iff : readNatural? word = some n ↔ Numeral word n ∧ n < wordBound := by
  unfold readNatural?
  split
  case h_1 ds =>
    rw [readDigits?_eq_some_iff]
    refine and_congr_left' ⟨fun ⟨nonempty, digits, value⟩ => value ▸ .signed nonempty digits, ?_⟩
    rintro (⟨nonempty, digits⟩ | ⟨nonempty, digits⟩)
    · exact absurd (digits '+' (by simp)).1 (by decide)
    · exact ⟨nonempty, digits, rfl⟩
  case h_2 other =>
    rw [readDigits?_eq_some_iff]
    refine and_congr_left' ⟨fun ⟨nonempty, digits, value⟩ => value ▸ .bare nonempty digits, ?_⟩
    rintro (⟨nonempty, digits⟩ | ⟨nonempty, digits⟩)
    · exact ⟨nonempty, digits, rfl⟩
    · exact absurd rfl (other _)

end DeviceArrays
