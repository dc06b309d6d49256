import DeviceArrays.Proofs.Json.Reading

/-!
# Writing JSON values

What is written for a value stands for it, so it is read back. Text is kept as UTF-16 units, and
these say which characters they were made of.
-/
namespace DeviceArrays.Json

variable {ts : List Token} {rest : List Char} {j : Json} {items : List Json}
  {members : List (List UInt16 × Json)}

/-! ### Units and characters -/

theorem charactersOf?_ordinary {u : UInt16} (ordinary : u.toNat < 0xd800 ∨ 0xdfff < u.toNat)
    (units : List UInt16) : charactersOf? (u :: units) =
      (charactersOf? units).map (Char.ofNat u.toNat :: ·) := by
  rw [charactersOf?.eq_def]
  exact if_pos ordinary

theorem charactersOf?_pair {u v : UInt16} (high : 0xd800 ≤ u.toNat ∧ u.toNat < 0xdc00)
    (low : 0xdc00 ≤ v.toNat ∧ v.toNat < 0xe000) (units : List UInt16) :
    charactersOf? (u :: v :: units) = (charactersOf? units).map
      (Char.ofNat (0x10000 + (u.toNat - 0xd800) * 0x400 + (v.toNat - 0xdc00)) :: ·) := by
  rw [charactersOf?.eq_def]
  dsimp only
  rw [if_neg (by omega), if_pos ⟨high.2, low⟩]

theorem charactersOf?_unitsOf_append (c : Char) (units : List UInt16) :
    charactersOf? (unitsOf c ++ units) = (charactersOf? units).map (c :: ·) := by
  have valid : c.toNat < 0xd800 ∨ 0xdfff < c.toNat ∧ c.toNat < 0x110000 := c.valid
  unfold unitsOf
  by_cases short : c.toNat < 0x10000
  · have one : (UInt16.ofNat c.toNat).toNat = c.toNat := by
      rw [UInt16.toNat_ofNat']
      omega
    rw [if_pos short, List.singleton_append, charactersOf?_ordinary (by omega), one,
      Char.ofNat_toNat]
  · have high : (UInt16.ofNat (0xd800 + (c.toNat - 0x10000) / 0x400)).toNat =
        0xd800 + (c.toNat - 0x10000) / 0x400 := by
      rw [UInt16.toNat_ofNat']
      omega
    have low : (UInt16.ofNat (0xdc00 + (c.toNat - 0x10000) % 0x400)).toNat =
        0xdc00 + (c.toNat - 0x10000) % 0x400 := by
      rw [UInt16.toNat_ofNat']
      omega
    have whole : 0x10000 + (0xd800 + (c.toNat - 0x10000) / 0x400 - 0xd800) * 0x400 +
        (0xdc00 + (c.toNat - 0x10000) % 0x400 - 0xdc00) = c.toNat := by
      omega
    rw [if_neg short, List.cons_append, List.singleton_append,
      charactersOf?_pair (by omega) (by omega), high, low, whole, Char.ofNat_toNat]

theorem charactersOf?_flatMap_unitsOf (cs : List Char) :
    charactersOf? (cs.flatMap unitsOf) = some cs := by
  induction cs with
  | nil => simp [charactersOf?]
  | cons c cs ih => rw [List.flatMap_cons, charactersOf?_unitsOf_append, ih, Option.map_some]

theorem toNat_ofNat {n : Nat} (valid : n.isValidChar) : (Char.ofNat n).toNat = n := by
  rw [Char.ofNat, dif_pos valid]
  rfl

theorem unitsOf_ofNat {n : Nat} (valid : n.isValidChar) : unitsOf (Char.ofNat n) =
    if n < 0x10000 then [UInt16.ofNat n]
    else [UInt16.ofNat (0xd800 + (n - 0x10000) / 0x400),
      UInt16.ofNat (0xdc00 + (n - 0x10000) % 0x400)] := by
  simp only [unitsOf, toNat_ofNat valid]

theorem unitsOf_ordinary {u : UInt16} (ordinary : u.toNat < 0xd800 ∨ 0xdfff < u.toNat) :
    unitsOf (Char.ofNat u.toNat) = [u] := by
  have bound := u.toNat_lt
  have valid : u.toNat.isValidChar := by
    unfold Nat.isValidChar
    omega
  rw [unitsOf_ofNat valid, if_pos (by omega), UInt16.ofNat_toNat]

theorem unitsOf_pair {u v : UInt16} (high : 0xd800 ≤ u.toNat ∧ u.toNat < 0xdc00)
    (low : 0xdc00 ≤ v.toNat ∧ v.toNat < 0xe000) :
    unitsOf (Char.ofNat (0x10000 + (u.toNat - 0xd800) * 0x400 + (v.toNat - 0xdc00))) = [u, v] := by
  have valid : (0x10000 + (u.toNat - 0xd800) * 0x400 + (v.toNat - 0xdc00)).isValidChar := by
    unfold Nat.isValidChar
    omega
  have first : 0xd800 + (0x10000 + (u.toNat - 0xd800) * 0x400 + (v.toNat - 0xdc00) - 0x10000) /
      0x400 = u.toNat := by
    omega
  have second : 0xdc00 + (0x10000 + (u.toNat - 0xd800) * 0x400 + (v.toNat - 0xdc00) - 0x10000) %
      0x400 = v.toNat := by
    omega
  rw [unitsOf_ofNat valid, if_neg (by omega), first, second, UInt16.ofNat_toNat, UInt16.ofNat_toNat]

theorem eq_of_charactersOf? {units : List UInt16} {cs : List Char}
    (read : charactersOf? units = some cs) : units = cs.flatMap unitsOf := by
  fun_induction charactersOf? units generalizing cs with
  | case1 => cases read; rfl
  | case2 u rest ordinary ih =>
    obtain ⟨later, behind, rfl⟩ := Option.map_eq_some_iff.mp read
    rw [List.flatMap_cons, unitsOf_ordinary ordinary, ← ih behind]
    rfl
  | case3 u surrogate v later pair ih =>
    obtain ⟨rest, behind, rfl⟩ := Option.map_eq_some_iff.mp read
    rw [List.flatMap_cons, unitsOf_pair (by omega) pair.2, ← ih behind]
    rfl
  | case4 => cases read
  | case5 => cases read

/-- Units are read as a text if they are its units. -/
theorem stringOf?_eq_some_iff {units : List UInt16} {text : String} :
    stringOf? units = some text ↔ units = unitsOfString text := by
  unfold stringOf? unitsOfString
  rw [Option.map_eq_some_iff]
  constructor
  · rintro ⟨cs, read, rfl⟩
    rw [String.toList_ofList]
    exact eq_of_charactersOf? read
  · rintro rfl
    exact ⟨_, charactersOf?_flatMap_unitsOf _, String.ofList_toList⟩

/-! ### Natural numbers -/

theorem head?_toDigits {n : Nat} (positive : 0 < n) : (Nat.toDigits 10 n).head? ≠ some '0' := by
  induction n using Nat.strong_induction_on with
  | _ n ih =>
    by_cases small : n < 10
    · rw [Nat.toDigits_of_lt_base small]
      have table : ∀ d < 10, 0 < d → Nat.digitChar d ≠ '0' := by decide
      simpa using table n small positive
    · rw [Nat.toDigits_of_base_le (by decide) (by omega),
        List.head?_append_of_ne_nil _ Nat.toDigits_ne_nil]
      exact ih (n / 10) (by omega) (by omega)

theorem whole_toDigits (n : Nat) : Whole (Nat.toDigits 10 n) := by
  refine ⟨digits_iff.mpr ⟨Nat.toDigits_ne_nil,
    fun d => Nat.isDigit_of_mem_toDigits (by decide) (by decide)⟩, fun zero => ?_⟩
  obtain rfl | positive := Nat.eq_zero_or_pos n
  · rfl
  · exact absurd zero (head?_toDigits positive)

theorem Number.spells_natural (n : Nat) : (Number.natural n).Spells (Number.natural n).write := by
  have value : Nat.ofDigits 10 ((Nat.toDigits 10 n).reverse.map digitValue) = n := by
    rw [← digitsValue_eq_ofDigits]
    exact Nat.ofDigitChars_toDigits (by decide) (by decide)
  have spelled := Spells.natural (whole_toDigits n)
  rwa [value] at spelled

/-! ### Strings -/

theorem hex_hexDigit {value : Nat} (small : value < 16) : Hex (hexDigit value) value := by
  have table : ∀ d < 16, "0123456789abcdef".toList[d]? = some (hexDigit d) := by decide
  exact .inl (table value small)

theorem piece_hexEscape (u : UInt16) : Piece [u] (hexEscape u) := by
  have bound := u.toNat_lt
  have digits : List.Forall₂ Hex [hexDigit (u.toNat / 4096), hexDigit (u.toNat / 256 % 16),
      hexDigit (u.toNat / 16 % 16), hexDigit (u.toNat % 16)]
      [u.toNat / 4096, u.toNat / 256 % 16, u.toNat / 16 % 16, u.toNat % 16] := by
    refine .cons (hex_hexDigit ?_) (.cons (hex_hexDigit ?_)
      (.cons (hex_hexDigit ?_) (.cons (hex_hexDigit ?_) .nil))) <;> omega
  have value : Nat.ofDigits 16 [u.toNat / 4096, u.toNat / 256 % 16, u.toNat / 16 % 16,
      u.toNat % 16].reverse = u.toNat := by
    rw [ofDigits_reverse]
    simp only [List.foldl_cons, List.foldl_nil]
    omega
  have piece := Piece.code rfl digits
  rwa [value, UInt16.ofNat_toNat] at piece

theorem piece_writeUnit (u : UInt16) : Piece [u] (writeUnit u) := by
  have escape {v : UInt16} {c : Char} (known : (c, v) ∈ escapes) (same : u = v) :
      Piece [u] ['\\', c] := same ▸ .escape known
  unfold writeUnit
  -- the units that have a letter of their own
  iterate 7
    split
    case isTrue same => exact escape (by decide) same
  split
  case isTrue => exact piece_hexEscape u
  case isFalse noQuote noBackslash _ _ _ _ _ ordinary =>
    have ordinary : 0x20 ≤ u.toNat ∧ (u.toNat < 0xd800 ∨ 0xdfff < u.toNat) := by
      simp only [UInt16.lt_iff_toNat_lt, UInt16.le_iff_toNat_le, UInt16.reduceToNat] at ordinary
      omega
    have same : (Char.ofNat u.toNat).toNat = u.toNat := by
      have bound := u.toNat_lt
      apply toNat_ofNat
      unfold Nat.isValidChar
      omega
    have other {v : UInt16} {c : Char} (apart : u ≠ v) (code : c.toNat = v.toNat) :
        Char.ofNat u.toNat ≠ c := by
      rintro rfl
      exact apart (UInt16.toNat_inj.mp (same.symm.trans code))
    have piece := Piece.plain (c := Char.ofNat u.toNat) (other noQuote rfl) (other noBackslash rfl)
      (by omega)
    rwa [unitsOf_ordinary ordinary.2] at piece

theorem inside_flatMap_writeUnit (units : List UInt16) :
    Inside units (units.flatMap writeUnit) := by
  induction units with
  | nil => exact .nil
  | cons u units ih => exact .cons (piece_writeUnit u) ih

/-! ### Values -/

/-- A value whose numbers are numbers as they are written. -/
inductive Legible : Json → Prop
  | null : Legible .null
  | truth (value : Bool) : Legible (.truth value)
  | number {n : Number} (spelled : n.Spells n.write) : Legible (.number n)
  | text (units : List UInt16) : Legible (.text units)
  | array {items : List Json} (all : ∀ item ∈ items, Legible item) : Legible (.array items)
  | object {members : List (List UInt16 × Json)} (all : ∀ m ∈ members, Legible m.2) :
      Legible (.object members)

/-- A text before which every token ends. -/
def Delimits (rest : List Char) : Prop := ∀ c ∈ rest.head?, ¬ c.isAlpha ∧ ¬ isNumberCharacter c

theorem Delimits.endsBefore (delimits : Delimits rest) (t : Token) : t.EndsBefore rest := by
  cases t with
  | null | truth => exact fun c found => (delimits c found).1
  | number => exact fun c found => (delimits c found).2
  | _ => trivial

theorem delimits_cons {c : Char} (other : ¬ c.isAlpha ∧ ¬ isNumberCharacter c) :
    Delimits (c :: rest) := by
  rintro _ ⟨⟩
  exact other

/-- What is written for the value stands for it in front of what delimits it. -/
def WritesTokens (j : Json) : Prop :=
  ∀ ts rest, Lexes ts rest → Delimits rest → Lexes (j.tokens ++ ts) (j.write ++ rest)

theorem lexes_writeText (units : List UInt16) (later : Lexes ts rest) :
    Lexes (.text units :: ts) (writeText units ++ rest) :=
  .token (.text (inside_flatMap_writeUnit units)) trivial later

theorem lexes_sign {t : Token} {c : Char} (spelled : t.Spells [c]) (ends : t.EndsBefore rest)
    (later : Lexes ts rest) : Lexes (t :: ts) (c :: rest) :=
  .token spelled ends later

theorem lexes_writeItems (all : ∀ item ∈ items, WritesTokens item) (later : Lexes ts rest)
    (delimits : Delimits rest) : Lexes (itemTokens items ++ ts) (writeItems items ++ rest) := by
  induction items with
  | nil => exact later
  | cons item items ih =>
    obtain ⟨first, others⟩ := List.forall_mem_cons.mp all
    cases items with
    | nil => exact first _ _ later delimits
    | cons next items =>
      have comma := lexes_sign .comma trivial (ih others)
      have written := first _ _ comma (delimits_cons (by decide))
      simpa [itemTokens, writeItems] using written

theorem lexes_writeMembers (all : ∀ m ∈ members, WritesTokens m.2) (later : Lexes ts rest)
    (delimits : Delimits rest) :
    Lexes (memberTokens members ++ ts) (writeMembers members ++ rest) := by
  induction members with
  | nil => exact later
  | cons member members ih =>
    obtain ⟨key, value⟩ := member
    obtain ⟨first, others⟩ := List.forall_mem_cons.mp all
    cases members with
    | nil =>
      have colon := lexes_sign .colon trivial (first _ _ later delimits)
      simpa [memberTokens, writeMembers] using lexes_writeText key colon
    | cons next members =>
      have comma := lexes_sign .comma trivial (ih others)
      have written := first _ _ comma (delimits_cons (by decide))
      have colon := lexes_sign .colon trivial written
      simpa [memberTokens, writeMembers] using lexes_writeText key colon

theorem Legible.writesTokens (legible : j.Legible) : WritesTokens j := by
  induction legible with
  | null => exact fun ts rest later delimits => .token .null (delimits.endsBefore _) later
  | truth value =>
    cases value with
    | true => exact fun ts rest later delimits => .token .yes (delimits.endsBefore _) later
    | false => exact fun ts rest later delimits => .token .no (delimits.endsBefore _) later
  | number spelled =>
    exact fun ts rest later delimits => .token (.number spelled) (delimits.endsBefore _) later
  | text units => exact fun ts rest later delimits => lexes_writeText units later
  | array all ih =>
    intro ts rest later delimits
    have closed := lexes_sign .closeBracket trivial later
    have inside := lexes_writeItems ih closed (delimits_cons (by decide))
    simpa [tokens, write] using lexes_sign .openBracket trivial inside
  | object all ih =>
    intro ts rest later delimits
    have closed := lexes_sign .closeBrace trivial later
    have inside := lexes_writeMembers ih closed (delimits_cons (by decide))
    simpa [tokens, write] using lexes_sign .openBrace trivial inside

/-- What is written for a legible value is read as this value. -/
theorem ofText?_toText (legible : j.Legible) : ofText? j.toText = some j := by
  have delimits : Delimits [] := by simp [Delimits]
  rw [ofText?_eq_some_iff, Spells, toText, String.toList_ofList]
  simpa using legible.writesTokens [] [] .nil delimits

end DeviceArrays.Json
