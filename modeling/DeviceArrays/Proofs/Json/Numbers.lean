import DeviceArrays.Proofs.Json.Grammar

/-!
# Reading JSON numbers

A number is read from exactly the texts that the grammar allows, and is the one that it says.
-/
namespace DeviceArrays.Json

variable {cs ds rest fraction exponent : List Char} {more : Bool} {n : Number}

/-- A text that does not go on with a digit. -/
def StopsDigits (rest : List Char) : Prop := ∀ c ∈ rest.head?, ¬ c.isDigit

theorem digits_iff : Digits ds ↔ ds ≠ [] ∧ ∀ d ∈ ds, d.isDigit := by
  simp only [Digits, isDigit_iff]

/-- Digits do not begin with a sign. -/
theorem Digits.append_ne_minus (digits : Digits ds) (later rest : List Char) :
    ds ++ later ≠ '-' :: rest := by
  obtain ⟨nonempty, digits⟩ := digits
  cases ds with
  | nil => exact absurd rfl nonempty
  | cons d ds =>
    rintro ⟨⟩
    exact absurd (digits '-' (by simp)).1 (by decide)

theorem Exponent.stopsDigits (h : Exponent exponent) : StopsDigits exponent := by
  cases h with
  | none => nofun
  | power letter =>
    rintro c ⟨⟩
    simp only [List.mem_cons, List.not_mem_nil, or_false] at letter
    obtain rfl | rfl := letter <;> decide

theorem Fraction.stopsDigits (h : Fraction fraction) (later : StopsDigits exponent) :
    StopsDigits (fraction ++ exponent) := by
  cases h with
  | none => exact later
  | point =>
    rintro c ⟨⟩
    decide

/-! ### Behind the whole part -/

/-- The digits of an exponent, behind its sign. -/
def unsignedPower : List Char → List Char
  | '+' :: ds => ds
  | '-' :: ds => ds
  | ds => ds

/-- Reads an exponent: whether there is one. -/
def isExponent (cs : List Char) : Option Bool :=
  match cs with
  | [] => some false
  | e :: rest =>
    if (e = 'e' ∨ e = 'E') ∧ unsignedPower rest ≠ [] ∧ (unsignedPower rest).all Char.isDigit then
      some true
    else none

theorem unsignedPower_append {sign : List Char} (signed : sign ∈ [[], ['+'], ['-']])
    (digits : Digits ds) : unsignedPower (sign ++ ds) = ds := by
  simp only [List.mem_cons, List.not_mem_nil, or_false] at signed
  obtain rfl | rfl | rfl := signed
  · rw [List.nil_append]
    unfold unsignedPower
    split
    · exact absurd (digits.2 '+' (by simp)).1 (by decide)
    · exact absurd (digits.2 '-' (by simp)).1 (by decide)
    · rfl
  · rfl
  · rfl

theorem exists_sign (cs : List Char) :
    ∃ sign ∈ [[], ['+'], ['-']], cs = sign ++ unsignedPower cs := by
  unfold unsignedPower
  split
  · exact ⟨['+'], by simp, rfl⟩
  · exact ⟨['-'], by simp, rfl⟩
  · exact ⟨[], by simp, rfl⟩

theorem exponent_cons_iff {e : Char} : Exponent (e :: rest) ↔
    (e = 'e' ∨ e = 'E') ∧ unsignedPower rest ≠ [] ∧ (unsignedPower rest).all Char.isDigit := by
  rw [List.all_eq_true, ← digits_iff]
  constructor
  · intro h
    cases h with
    | @power _ sign ds letter signed digits =>
      change _ ∧ Digits (unsignedPower (sign ++ ds))
      rw [unsignedPower_append signed digits]
      exact ⟨by simpa using letter, digits⟩
  · rintro ⟨letter, digits⟩
    obtain ⟨sign, signed, same⟩ := exists_sign rest
    rw [same]
    exact .power (by simpa using letter) signed digits

theorem isExponent_eq_some_iff :
    isExponent cs = some more ↔ Exponent cs ∧ (more = true ↔ cs ≠ []) := by
  cases cs with
  | nil =>
    rw [isExponent, Option.some.injEq]
    cases more <;> simp [Exponent.none]
  | cons e rest =>
    rw [isExponent, Option.ite_none_right_eq_some, Option.some.injEq, ← exponent_cons_iff]
    cases more <;> simp

/-- Without a point there is at most an exponent. -/
theorem isFractionAndExponent_of_no_point (noPoint : ∀ rest, cs ≠ '.' :: rest) :
    isFractionAndExponent cs = isExponent cs := by
  unfold isFractionAndExponent
  split
  next fraction behind parts =>
    split at parts
    · exact absurd rfl (noPoint _)
    · cases parts
      cases cs <;> rfl

theorem isFractionAndExponent_point (rest : List Char) :
    isFractionAndExponent ('.' :: rest) =
      if rest.takeWhile Char.isDigit = [] then none
      else (isExponent (rest.dropWhile Char.isDigit)).map fun _ => true := by
  by_cases nothing : rest.takeWhile Char.isDigit = []
  · simp only [isFractionAndExponent, nothing, if_true]
  simp only [isFractionAndExponent, Option.some.injEq, nothing, if_false]
  cases rest.dropWhile Char.isDigit with
  | nil => rfl
  | cons e rest =>
    change (if _ then _ else _) = Option.map _ (if _ then _ else _)
    rw [apply_ite (Option.map _)]
    rfl

theorem isFractionAndExponent_eq_some_iff : isFractionAndExponent cs = some more ↔
    ∃ fraction exponent, cs = fraction ++ exponent ∧ Fraction fraction ∧ Exponent exponent ∧
      (more = true ↔ fraction ≠ [] ∨ exponent ≠ []) := by
  by_cases point : ∃ rest, cs = '.' :: rest
  · obtain ⟨rest, rfl⟩ := point
    rw [isFractionAndExponent_point, Option.ite_none_left_eq_some]
    constructor
    · rintro ⟨nonempty, read⟩
      obtain ⟨power, found, rfl⟩ := Option.map_eq_some_iff.mp read
      refine ⟨'.' :: rest.takeWhile Char.isDigit, rest.dropWhile Char.isDigit, ?_, ?_,
        (isExponent_eq_some_iff.mp found).1, by simp⟩
      · rw [List.cons_append, List.takeWhile_append_dropWhile]
      · exact .point (digits_iff.mpr ⟨nonempty, fun d => List.mem_takeWhile_imp⟩)
    · rintro ⟨fraction, exponent, same, hasFraction, hasExponent, read⟩
      cases hasFraction with
      | none =>
        rw [List.nil_append] at same
        subst same
        have letter := (exponent_cons_iff.mp hasExponent).1
        simp at letter
      | @point ds digits =>
        rw [List.cons_append] at same
        obtain ⟨-, rfl⟩ := List.cons.inj same
        obtain ⟨nonempty, digits⟩ := digits_iff.mp digits
        have stops := hasExponent.stopsDigits
        rw [takeWhile_append_stop digits stops, dropWhile_append_stop digits stops]
        have found : isExponent exponent = some (decide (exponent ≠ [])) :=
          isExponent_eq_some_iff.mpr ⟨hasExponent, by simp⟩
        refine ⟨nonempty, ?_⟩
        rw [found, Option.map_some, Option.some.injEq, eq_comm]
        exact read.mpr (.inl (by simp))
  · rw [isFractionAndExponent_of_no_point (not_exists.mp point), isExponent_eq_some_iff]
    constructor
    · rintro ⟨hasExponent, read⟩
      exact ⟨[], cs, rfl, .none, hasExponent, by simpa using read⟩
    · rintro ⟨fraction, exponent, rfl, hasFraction, hasExponent, read⟩
      cases hasFraction with
      | none => exact ⟨hasExponent, by simpa using read⟩
      | point => exact absurd ⟨_, rfl⟩ point

/-! ### Whole numbers -/

theorem whole_iff : Whole ds ↔
    (∀ d ∈ ds, d.isDigit) ∧ ¬ (ds = [] ∨ (ds.head? = some '0' ∧ ds ≠ ['0'])) := by
  rw [Whole, digits_iff]
  tauto

/-- Reads a number without a sign: its whole part, and whether there is more. -/
def readParts? (cs : List Char) : Option (List Char × Bool) :=
  let ds := cs.takeWhile Char.isDigit
  if ds = [] ∨ (ds.head? = some '0' ∧ ds ≠ ['0']) then none
  else (isFractionAndExponent (cs.dropWhile Char.isDigit)).map fun more => (ds, more)

theorem readParts?_eq_some_iff : readParts? cs = some (ds, more) ↔
    ∃ fraction exponent, cs = ds ++ fraction ++ exponent ∧ Whole ds ∧ Fraction fraction ∧
      Exponent exponent ∧ (more = true ↔ fraction ≠ [] ∨ exponent ≠ []) := by
  simp only [readParts?, Option.ite_none_left_eq_some, Option.map_eq_some_iff, Prod.mk.injEq,
    isFractionAndExponent_eq_some_iff]
  constructor
  · rintro ⟨whole, _, ⟨fraction, exponent, behind, hasFraction, hasExponent, read⟩, rfl, rfl⟩
    refine ⟨fraction, exponent, ?_, whole_iff.mpr ⟨fun d => List.mem_takeWhile_imp, whole⟩,
      hasFraction, hasExponent, read⟩
    rw [List.append_assoc, ← behind, List.takeWhile_append_dropWhile]
  · rintro ⟨fraction, exponent, rfl, whole, hasFraction, hasExponent, read⟩
    obtain ⟨digits, whole⟩ := whole_iff.mp whole
    have stops := hasFraction.stopsDigits hasExponent.stopsDigits
    rw [List.append_assoc, takeWhile_append_stop digits stops, dropWhile_append_stop digits stops]
    exact ⟨whole, more, ⟨fraction, exponent, rfl, hasFraction, hasExponent, read⟩, rfl, rfl⟩

theorem Number.ofText?_minus (rest : List Char) : Number.ofText? ('-' :: rest) =
    (readParts? rest).map fun _ => .other ('-' :: rest) := by
  simp only [Number.ofText?, readParts?, Bool.true_or, if_true]
  split
  · rfl
  · cases isFractionAndExponent (rest.dropWhile Char.isDigit) <;> rfl

theorem Number.ofText?_of_no_minus (noMinus : ∀ rest, cs ≠ '-' :: rest) : Number.ofText? cs =
    (readParts? cs).map fun (ds, more) =>
      if more then .other cs else .natural (digitsValue ds) := by
  unfold Number.ofText?
  split
  next negative unsigned parts =>
    split at parts
    · exact absurd rfl (noMinus _)
    · cases parts
      simp only [readParts?, Bool.false_or]
      split
      · rfl
      · cases isFractionAndExponent (cs.dropWhile Char.isDigit) with
        | none => rfl
        | some more => cases more <;> rfl

/-- What is read as a number is what the grammar says. -/
theorem Number.ofText?_eq_some_iff : Number.ofText? cs = some n ↔ n.Spells cs := by
  constructor
  · intro read
    by_cases minus : ∃ rest, cs = '-' :: rest
    · obtain ⟨rest, rfl⟩ := minus
      rw [Number.ofText?_minus, Option.map_eq_some_iff] at read
      obtain ⟨⟨ds, more⟩, read, rfl⟩ := read
      obtain ⟨fraction, exponent, rfl, whole, hasFraction, hasExponent, -⟩ :=
        readParts?_eq_some_iff.mp read
      have minus : ['-'] ∈ [[], ['-']] := by simp
      simpa using Spells.other minus whole hasFraction hasExponent (.inl (by simp))
    · rw [Number.ofText?_of_no_minus (not_exists.mp minus), Option.map_eq_some_iff] at read
      obtain ⟨⟨ds, more⟩, read, rfl⟩ := read
      obtain ⟨fraction, exponent, rfl, whole, hasFraction, hasExponent, told⟩ :=
        readParts?_eq_some_iff.mp read
      cases more with
      | true =>
        have unsigned : [] ∈ [[], ['-']] := by simp
        simpa using Spells.other unsigned whole hasFraction hasExponent (.inr (told.mp rfl))
      | false =>
        have nothing : fraction = [] ∧ exponent = [] := by simpa using told
        obtain ⟨rfl, rfl⟩ := nothing
        have spelled := Spells.natural whole
        simpa [digitsValue_eq_ofDigits] using spelled
  · intro spelled
    cases spelled with
    | natural whole =>
      have read : readParts? cs = some (cs, false) :=
        readParts?_eq_some_iff.mpr ⟨[], [], by simp, whole, .none, .none, by simp⟩
      have noMinus := whole.1.append_ne_minus []
      rw [List.append_nil] at noMinus
      rw [Number.ofText?_of_no_minus noMinus, read, ← digitsValue_eq_ofDigits]
      rfl
    | @other sign ds fraction exponent signed whole hasFraction hasExponent more =>
      have read (told : Bool) (same : told = true ↔ fraction ≠ [] ∨ exponent ≠ []) :
          readParts? (ds ++ fraction ++ exponent) = some (ds, told) :=
        readParts?_eq_some_iff.mpr ⟨_, _, rfl, whole, hasFraction, hasExponent, same⟩
      simp only [List.mem_cons, List.not_mem_nil, or_false] at signed
      obtain rfl | rfl := signed
      · have told : fraction ≠ [] ∨ exponent ≠ [] := by simpa using more
        have noMinus := whole.1.append_ne_minus (fraction ++ exponent)
        rw [← List.append_assoc] at noMinus
        rw [List.nil_append, Number.ofText?_of_no_minus noMinus, read true (by simpa using told)]
        rfl
      · have minus := Number.ofText?_minus (ds ++ fraction ++ exponent)
        rw [read (decide (fraction ≠ [] ∨ exponent ≠ [])) (by simp)] at minus
        simpa using minus

end DeviceArrays.Json
