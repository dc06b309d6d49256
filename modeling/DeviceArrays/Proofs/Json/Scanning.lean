import DeviceArrays.Proofs.Json.Numbers

/-!
# Cutting JSON texts into tokens

The scanner finds the tokens of a text exactly where the grammar has them. It goes through the text
once, so what it finds from some place on depends only on the place and on what it is in the middle
of there. `Scan.Completes` says what the rest of the text has to be.
-/
namespace DeviceArrays.Json

variable {cs rest : List Char} {c : Char} {n : Number} {t : Token} {tokens ts found : List Token}
  {units us : List UInt16} {s : Scan} {value : Nat}

/-- The tokens that have been found where the text ends. -/
def finish? : List Token × Scan → Option (List Token)
  | (tokens, .between) => some tokens.reverse
  | (tokens, .word letters) => (wordToken? letters.reverse).map fun t => (t :: tokens).reverse
  | (tokens, .number characters) =>
    (Number.ofText? characters.reverse).map fun n => (.number n :: tokens).reverse
  | _ => none

/-- The tokens of the whole text, from some place on. -/
def tokensFrom? (state : List Token × Scan) (cs : List Char) : Option (List Token) :=
  (cs.foldlM scan state).bind finish?

theorem tokens?_eq (cs : List Char) : tokens? cs = tokensFrom? ([], .between) cs := by
  unfold tokens? tokensFrom?
  cases cs.foldlM scan ([], .between) with
  | none => rfl
  | some state =>
    obtain ⟨tokens, s⟩ := state
    cases s with
    | word letters => cases h : wordToken? letters.reverse <;> simp [finish?, h]
    | number characters => cases h : Number.ofText? characters.reverse <;> simp [finish?, h]
    | _ => rfl

theorem tokensFrom?_cons (state : List Token × Scan) (c : Char) (cs : List Char) :
    tokensFrom? state (c :: cs) = (scan state c).bind (tokensFrom? · cs) := by
  simp only [tokensFrom?, List.foldlM_cons, bind, Option.bind_assoc]

theorem tokensFrom?_of_scan {state next : List Token × Scan} (step : scan state c = some next) :
    tokensFrom? state (c :: cs) = tokensFrom? next cs := by
  rw [tokensFrom?_cons, step, Option.bind_some]

/-! ### Hexadecimal digits -/

/-- Digits in a row of the code are in a row of the table. -/
theorem getElem?_of_between {low high : Char} {digits : List Char} (k offset : Nat)
    (row : ∀ i < k, digits[i + offset]? = some (Char.ofNat (low.toNat + i)))
    (length : high.toNat + 1 = low.toNat + k) (between : low ≤ c ∧ c ≤ high) :
    digits[c.toNat - low.toNat + offset]? = some c := by
  have above : low.toNat ≤ c.toNat := UInt32.le_iff_toNat_le.mp between.1
  have below : c.toNat ≤ high.toNat := UInt32.le_iff_toNat_le.mp between.2
  rw [row (c.toNat - low.toNat) (by omega), Nat.add_sub_cancel' above, Char.ofNat_toNat]

theorem hexValue?_eq_some_iff : hexValue? c = some value ↔ Hex c value := by
  constructor
  · intro read
    unfold hexValue? at read
    split at read
    case isTrue digit =>
      cases read
      exact .inl (getElem?_of_between 10 0 (by decide) rfl digit)
    split at read
    case isTrue lower =>
      cases read
      exact .inl (getElem?_of_between 6 10 (by decide) rfl lower)
    split at read
    case isTrue upper =>
      cases read
      exact .inr (getElem?_of_between 6 10 (by decide) rfl upper)
    cases read
  · have table : ∀ digits ∈ ["0123456789abcdef".toList, "0123456789ABCDEF".toList],
        digits.length = 16 ∧ ∀ i < 16, digits[i]?.bind hexValue? = some i := by
      decide
    have read {digits : List Char} (known : digits ∈ ["0123456789abcdef".toList,
        "0123456789ABCDEF".toList]) (found : digits[value]? = some c) :
        hexValue? c = some value := by
      obtain ⟨sixteen, inverse⟩ := table digits known
      have small := (List.getElem?_eq_some_iff.mp found).1
      have back := inverse value (by omega)
      rwa [found] at back
    rintro (found | found)
    · exact read (by simp) found
    · exact read (by simp) found

/-! ### Words and numbers -/

/-- A state that collects characters as long as they go on, and makes a token of them where they do
not. -/
structure Collects (state : List Char → Scan) (goesOn : Char → Bool)
    (token? : List Char → Option Token) : Prop where
  more (tokens : List Token) (collected : List Char) {c : Char} (allowed : goesOn c) :
    scan (tokens, state collected) c = some (tokens, state (c :: collected))
  stop (tokens : List Token) (collected : List Char) {c : Char} (other : ¬ goesOn c) :
    scan (tokens, state collected) c =
      (token? collected.reverse).bind fun t => scan (t :: tokens, .between) c
  finish (tokens : List Token) (collected : List Char) :
    finish? (tokens, state collected) =
      (token? collected.reverse).map fun t => (t :: tokens).reverse

/-- The token of a number. -/
def numberToken? (cs : List Char) : Option Token := (Number.ofText? cs).map .number

theorem collects_word : Collects .word Char.isAlpha wordToken? where
  more _ _ _ letter := if_pos letter
  stop _ _ _ other := if_neg other
  finish _ _ := rfl

theorem collects_number : Collects .number isNumberCharacter numberToken? where
  more _ _ _ allowed := if_pos allowed
  stop tokens collected c other := by
    rw [numberToken?, Option.bind_map]
    exact if_neg other
  finish tokens collected := by
    rw [numberToken?, Option.map_map]
    rfl

namespace Collects

variable {state : List Char → Scan} {goesOn : Char → Bool} {token? : List Char → Option Token}
  {more collected : List Char}

/-- The token is over where no character goes on with it. -/
theorem tokensFrom?_stop (collects : Collects state goesOn token?) (collected : List Char)
    (known : token? collected.reverse = some t) (ends : ∀ c ∈ rest.head?, ¬ goesOn c) :
    tokensFrom? (tokens, state collected) rest = tokensFrom? (t :: tokens, .between) rest := by
  cases rest with
  | nil =>
    change finish? (tokens, state collected) = finish? (t :: tokens, .between)
    rw [collects.finish, known]
    rfl
  | cons c cs =>
    have step : scan (tokens, state collected) c = scan (t :: tokens, .between) c := by
      rw [collects.stop tokens collected (ends c rfl), known, Option.bind_some]
    rw [tokensFrom?_cons, step, tokensFrom?_cons]

theorem tokensFrom?_more (collects : Collects state goesOn token?)
    (allowed : ∀ c ∈ more, goesOn c) :
    tokensFrom? (tokens, state collected) (more ++ rest) =
      tokensFrom? (tokens, state (more.reverse ++ collected)) rest := by
  induction more generalizing collected with
  | nil => rfl
  | cons c more ih =>
    obtain ⟨first, others⟩ := List.forall_mem_cons.mp allowed
    rw [List.cons_append, tokensFrom?_of_scan (collects.more tokens collected first), ih others,
      List.reverse_cons, List.append_assoc]
    rfl

end Collects

/-! ### What the grammar has is found -/

theorem scanBetween_number (tokens : List Token) (begins : c.isDigit ∨ c = '-') :
    scanBetween tokens c = some (tokens, .number [c]) := by
  have other (d : Char) (apart : ¬ (d.isDigit ∨ d = '-')) : c ≠ d :=
    fun same => apart (same ▸ begins)
  simp only [scanBetween, other ' ' (by decide), other '\n' (by decide), other '\t' (by decide),
    other '\r' (by decide), other '\x7b' (by decide), other '\x7d' (by decide),
    other '[' (by decide), other ']' (by decide), other ':' (by decide), other ',' (by decide),
    other '"' (by decide), begins, or_false, if_false, if_true]

theorem escapeUnit?_eq_some_iff {u : UInt16} : escapeUnit? c = some u ↔ (c, u) ∈ escapes := by
  constructor
  · intro read
    unfold escapeUnit? at read
    split at read <;> cases read <;> decide
  · have table : ∀ e ∈ escapes, escapeUnit? e.1 = some e.2 := by decide
    exact table (c, u)

theorem ne_of_mem_escapes {u : UInt16} (known : (c, u) ∈ escapes) : c ≠ 'u' := by
  have table : ∀ e ∈ escapes, e.1 ≠ 'u' := by decide
  exact table (c, u) known

theorem tokensFrom?_hex {hs : List Char} {values : List Nat} {digits : Nat}
    (read : List.Forall₂ Hex hs values) (nonempty : hs ≠ []) (four : hs.length + digits = 4) :
    tokensFrom? (tokens, .hex units digits value) (hs ++ rest) =
      tokensFrom? (tokens,
        .text (UInt16.ofNat (values.foldl (fun n d => 16 * n + d) value) :: units)) rest := by
  induction read generalizing digits value with
  | nil => exact absurd rfl nonempty
  | @cons h d hs values digit read ih =>
    have known := hexValue?_eq_some_iff.mpr digit
    rw [List.length_cons] at four
    cases read with
    | nil =>
      have last : digits = 3 := by
        rw [List.length_nil] at four
        omega
      exact tokensFrom?_of_scan (by simp [scan, known, last])
    | cons =>
      have later : digits ≠ 3 := by
        rw [List.length_cons] at four
        omega
      have step : scan (tokens, .hex units digits value) h =
          some (tokens, .hex units (digits + 1) (16 * value + d)) := by
        simp only [scan, known, bind, Option.bind_some, later, if_false]
      rw [List.cons_append, tokensFrom?_of_scan step]
      exact ih (by simp) (by omega)

theorem tokensFrom?_piece (piece : Piece us cs) :
    tokensFrom? (tokens, .text units) (cs ++ rest) =
      tokensFrom? (tokens, .text (us.reverse ++ units)) rest := by
  have backslash : scan (tokens, .text units) '\\' = some (tokens, .escape units) := rfl
  cases piece with
  | @plain c noQuote noBackslash noControl =>
    have step : scan (tokens, .text units) c =
        some (tokens, .text ((unitsOf c).reverse ++ units)) := by
      simp [scan, noQuote, noBackslash, Nat.not_lt.mpr noControl]
    exact tokensFrom?_of_scan step
  | @escape c u known =>
    have step : scan (tokens, .escape units) c = some (tokens, .text (u :: units)) := by
      simp [scan, ne_of_mem_escapes known, escapeUnit?_eq_some_iff.mpr known]
    exact (tokensFrom?_of_scan backslash).trans (tokensFrom?_of_scan step)
  | @code hs values four digits =>
    have step : scan (tokens, .escape units) 'u' = some (tokens, .hex units 0 0) := rfl
    have nonempty : hs ≠ [] := by
      rintro rfl
      simp at four
    rw [ofDigits_reverse]
    exact (tokensFrom?_of_scan backslash).trans
      ((tokensFrom?_of_scan step).trans (tokensFrom?_hex digits nonempty four))

theorem tokensFrom?_inside (inside : Inside us cs) :
    tokensFrom? (tokens, .text units) (cs ++ rest) =
      tokensFrom? (tokens, .text (us.reverse ++ units)) rest := by
  induction inside generalizing units with
  | nil => rfl
  | cons piece later ih =>
    rw [List.append_assoc, tokensFrom?_piece piece, ih, List.reverse_append, List.append_assoc]

theorem Digits.allowed {ds : List Char} (digits : Digits ds) : ∀ c ∈ ds, isNumberCharacter c := by
  intro c inside
  simp [isNumberCharacter, isDigit_iff.mpr (digits.2 c inside)]

theorem Fraction.allowed (h : Fraction cs) : ∀ c ∈ cs, isNumberCharacter c := by
  cases h with
  | none => nofun
  | point digits => exact List.forall_mem_cons.mpr ⟨by decide, digits.allowed⟩

theorem Exponent.allowed (h : Exponent cs) : ∀ c ∈ cs, isNumberCharacter c := by
  cases h with
  | none => nofun
  | power letter signed digits =>
    have letters : ∀ c ∈ ['e', 'E'], isNumberCharacter c := by simp [isNumberCharacter]
    have signs : ∀ sign ∈ [[], ['+'], ['-']], ∀ c ∈ sign, isNumberCharacter c := by
      simp [isNumberCharacter]
    exact List.forall_mem_cons.mpr ⟨letters _ letter,
      List.forall_mem_append.mpr ⟨signs _ signed, digits.allowed⟩⟩

theorem Number.Spells.allowed (spelled : n.Spells cs) : ∀ c ∈ cs, isNumberCharacter c := by
  cases spelled with
  | natural whole => exact whole.1.allowed
  | other signed whole hasFraction hasExponent =>
    have signs : ∀ sign ∈ [[], ['-']], ∀ c ∈ sign, isNumberCharacter c := by
      simp [isNumberCharacter]
    simp only [List.forall_mem_append]
    exact ⟨⟨⟨signs _ signed, whole.1.allowed⟩, hasFraction.allowed⟩, hasExponent.allowed⟩

/-- A number begins with a digit or a minus sign. -/
theorem Number.Spells.exists_cons (spelled : n.Spells cs) :
    ∃ c more, cs = c :: more ∧ (c.isDigit ∨ c = '-') := by
  have front {ds : List Char} (digits : Digits ds) (later : List Char) :
      ∃ c more, ds ++ later = c :: more ∧ (c.isDigit ∨ c = '-') := by
    obtain ⟨nonempty, digits⟩ := digits_iff.mp digits
    obtain ⟨d, more, rfl⟩ := List.exists_cons_of_ne_nil nonempty
    exact ⟨d, more ++ later, rfl, .inl (digits d (by simp))⟩
  cases spelled with
  | natural whole => simpa using front whole.1 []
  | @other sign ds fraction exponent signed whole =>
    simp only [List.mem_cons, List.not_mem_nil, or_false] at signed
    obtain rfl | rfl := signed
    · simpa using front whole.1 (fraction ++ exponent)
    · exact ⟨'-', ds ++ fraction ++ exponent, by simp, .inr rfl⟩

/-- Behind a token that the grammar has, the scanner goes on with it found. -/
theorem tokensFrom?_token (spelled : t.Spells cs) (ends : t.EndsBefore rest) :
    tokensFrom? (tokens, .between) (cs ++ rest) = tokensFrom? (t :: tokens, .between) rest := by
  cases spelled with
  | null => exact collects_word.tokensFrom?_stop "llun".toList rfl ends
  | yes => exact collects_word.tokensFrom?_stop "eurt".toList rfl ends
  | no => exact collects_word.tokensFrom?_stop "eslaf".toList rfl ends
  | number spelled =>
    obtain ⟨c, more, rfl, begins⟩ := spelled.exists_cons
    have step : scan (tokens, .between) c = some (tokens, .number [c]) :=
      scanBetween_number tokens begins
    have allowed := (List.forall_mem_cons.mp spelled.allowed).2
    have known : numberToken? (more.reverse ++ [c]).reverse = some _ :=
      Option.map_eq_some_iff.mpr ⟨_, by simpa using Number.ofText?_eq_some_iff.mpr spelled, rfl⟩
    rw [List.cons_append, tokensFrom?_of_scan step, collects_number.tokensFrom?_more allowed]
    exact collects_number.tokensFrom?_stop _ known ends
  | @text units body inside =>
    have step : scan (tokens, .between) '"' = some (tokens, .text []) := rfl
    rw [List.append_assoc, List.cons_append, tokensFrom?_of_scan step, tokensFrom?_inside inside]
    exact tokensFrom?_of_scan (by simp [scan])
  | _ => exact tokensFrom?_of_scan rfl

theorem tokensFrom?_of_lexes (tokens : List Token) (h : Lexes ts cs) :
    tokensFrom? (tokens, .between) cs = some (tokens.reverse ++ ts) := by
  induction h generalizing tokens with
  | nil => simp [tokensFrom?, finish?]
  | @blank c ts rest blank later ih =>
    have step : scan (tokens, .between) c = some (tokens, .between) := by
      have blanks : ∀ c ∈ [' ', '\n', '\t', '\r'], c = ' ' ∨ c = '\n' ∨ c = '\t' ∨ c = '\r' := by
        simp
      exact if_pos (blanks c blank)
    rw [tokensFrom?_of_scan step, ih]
  | token spelled ends later ih =>
    rw [tokensFrom?_token spelled ends, ih, List.reverse_cons, List.append_assoc]
    rfl

/-! ### What is found is what the grammar has -/

/-- The rest of a string of which some units have been read, and the tokens behind it. -/
def EndsText (units : List UInt16) (ts : List Token) (cs : List Char) : Prop :=
  ∃ us inside rest later, cs = inside ++ '"' :: rest ∧ Inside us inside ∧ Lexes later rest ∧
    ts = .text (units.reverse ++ us) :: later

/-- The rest of a token of which some characters have been collected, and the tokens behind it. -/
def EndsToken (goesOn : Char → Bool) (token? : List Char → Option Token) (collected : List Char)
    (ts : List Token) (cs : List Char) : Prop :=
  ∃ more rest t later, cs = more ++ rest ∧ (∀ c ∈ rest.head?, ¬ goesOn c) ∧
    token? (collected.reverse ++ more) = some t ∧ Lexes later rest ∧ ts = t :: later

/-- What the rest of the text has to be, and the tokens that are found in it. -/
def Scan.Completes (ts : List Token) (cs : List Char) : Scan → Prop
  | .between => Lexes ts cs
  | .word letters => EndsToken Char.isAlpha wordToken? letters ts cs
  | .number characters => EndsToken isNumberCharacter numberToken? characters ts cs
  | .text units => EndsText units ts cs
  | .escape units => ∃ us front rest, cs = front ++ rest ∧ Piece us ('\\' :: front) ∧
      EndsText (us.reverse ++ units) ts rest
  | .hex units digits value => ∃ hs values rest, cs = hs ++ rest ∧ hs.length + digits = 4 ∧
      List.Forall₂ Hex hs values ∧
      EndsText (UInt16.ofNat (values.foldl (fun n d => 16 * n + d) value) :: units) ts rest

theorem EndsText.piece (piece : Piece us cs) (h : EndsText (us.reverse ++ units) ts rest) :
    EndsText units ts (cs ++ rest) := by
  obtain ⟨more, inside, behind, later, rfl, spelled, lexes, rfl⟩ := h
  refine ⟨us ++ more, cs ++ inside, behind, later, by simp, .cons piece spelled, lexes, ?_⟩
  rw [List.reverse_append, List.reverse_reverse, List.append_assoc]

theorem lexes_of_word {letters : List Char} (known : wordToken? letters = some t)
    (ends : ∀ c ∈ rest.head?, ¬ c.isAlpha) (later : Lexes ts rest) :
    Lexes (t :: ts) (letters ++ rest) := by
  unfold wordToken? at known
  split at known
  case isTrue null =>
    cases known
    exact null ▸ .token .null ends later
  split at known
  case isTrue yes =>
    cases known
    exact yes ▸ .token .yes ends later
  split at known
  case isTrue no =>
    cases known
    exact no ▸ .token .no ends later
  cases known

theorem lexes_of_number (known : numberToken? cs = some t)
    (ends : ∀ c ∈ rest.head?, ¬ isNumberCharacter c) (later : Lexes ts rest) :
    Lexes (t :: ts) (cs ++ rest) := by
  obtain ⟨n, read, rfl⟩ := Option.map_eq_some_iff.mp known
  exact .token (.number (Number.ofText?_eq_some_iff.mp read)) ends later

/-- What a character between tokens does. -/
theorem scanBetween_cases {next : List Token × Scan} (step : scanBetween tokens c = some next) :
    (c ∈ [' ', '\n', '\t', '\r'] ∧ next = (tokens, .between)) ∨
      (∃ t, t.Spells [c] ∧ (∀ rest, t.EndsBefore rest) ∧ next = (t :: tokens, .between)) ∨
      (c = '"' ∧ next = (tokens, .text [])) ∨ next = (tokens, .number [c]) ∨
      next = (tokens, .word [c]) := by
  have sign (t : Token) {d : Char} (spelled : t.Spells [d]) (free : ∀ rest, t.EndsBefore rest)
      (same : c = d) (made : some (t :: tokens, Scan.between) = some next) :
      ∃ t, t.Spells [c] ∧ (∀ rest, t.EndsBefore rest) ∧ next = (t :: tokens, .between) :=
    ⟨t, same ▸ spelled, free, (Option.some.inj made).symm⟩
  unfold scanBetween at step
  split at step
  case isTrue blank => exact .inl ⟨by simpa using blank, (Option.some.inj step).symm⟩
  refine .inr ?_
  split at step
  case isTrue same => exact .inl (sign .openBrace .openBrace (fun _ => trivial) same step)
  split at step
  case isTrue same => exact .inl (sign .closeBrace .closeBrace (fun _ => trivial) same step)
  split at step
  case isTrue same => exact .inl (sign .openBracket .openBracket (fun _ => trivial) same step)
  split at step
  case isTrue same => exact .inl (sign .closeBracket .closeBracket (fun _ => trivial) same step)
  split at step
  case isTrue same => exact .inl (sign .colon .colon (fun _ => trivial) same step)
  split at step
  case isTrue same => exact .inl (sign .comma .comma (fun _ => trivial) same step)
  refine .inr ?_
  split at step
  case isTrue quote => exact .inl ⟨quote, (Option.some.inj step).symm⟩
  split at step
  case isTrue => exact .inr (.inl (Option.some.inj step).symm)
  split at step
  case isTrue => exact .inr (.inr (Option.some.inj step).symm)
  cases step

theorem Collects.finished {state : List Char → Scan} {goesOn : Char → Bool}
    {token? : List Char → Option Token} {collected : List Char}
    (collects : Collects state goesOn token?)
    (read : finish? (tokens, state collected) = some found) :
    ∃ ts, EndsToken goesOn token? collected ts [] ∧ found = tokens.reverse ++ ts := by
  rw [collects.finish] at read
  obtain ⟨t, known, rfl⟩ := Option.map_eq_some_iff.mp read
  exact ⟨[t], ⟨[], [], t, [], rfl, nofun, by simpa using known, .nil, rfl⟩, by simp⟩

/-- From every state, what is found in the text is what the text completes. -/
def Sound (cs : List Char) : Prop :=
  ∀ state found, tokensFrom? state cs = some found →
    ∃ ts, state.2.Completes ts cs ∧ found = state.1.reverse ++ ts

namespace Sound

theorem nil : Sound [] := by
  rintro ⟨tokens, s⟩ found read
  change finish? (tokens, s) = some found at read
  cases s with
  | between =>
    cases read
    exact ⟨[], .nil, by simp⟩
  | word letters => exact collects_word.finished read
  | number characters => exact collects_number.finished read
  | _ => cases read

/-- What one more character in front makes of the state. -/
theorem next (sound : Sound cs) {state : List Token × Scan}
    (read : tokensFrom? state (c :: cs) = some found) :
    ∃ next ts, scan state c = some next ∧ next.2.Completes ts cs ∧
      found = next.1.reverse ++ ts := by
  rw [tokensFrom?_cons, Option.bind_eq_some_iff] at read
  obtain ⟨next, step, read⟩ := read
  obtain ⟨ts, completes, same⟩ := sound next found read
  exact ⟨next, ts, step, completes, same⟩

theorem between (sound : Sound cs)
    (read : tokensFrom? (tokens, .between) (c :: cs) = some found) :
    ∃ ts, Lexes ts (c :: cs) ∧ found = tokens.reverse ++ ts := by
  obtain ⟨next, ts, step, completes, rfl⟩ := sound.next read
  obtain ⟨blank, rfl⟩ | ⟨t, spelled, free, rfl⟩ | ⟨rfl, rfl⟩ | rfl | rfl := scanBetween_cases step
  · exact ⟨ts, .blank blank completes, rfl⟩
  · exact ⟨t :: ts, .token spelled (free cs) completes, by simp⟩
  · obtain ⟨us, inside, rest, later, rfl, spelled, lexes, rfl⟩ := completes
    refine ⟨_, ?_, rfl⟩
    have text := Lexes.token (.text spelled) trivial lexes
    simpa using text
  · obtain ⟨more, rest, t, later, rfl, ends, known, lexes, rfl⟩ := completes
    exact ⟨_, lexes_of_number known ends lexes, rfl⟩
  · obtain ⟨more, rest, t, later, rfl, ends, known, lexes, rfl⟩ := completes
    exact ⟨_, lexes_of_word known ends lexes, rfl⟩

/-- Words and numbers. -/
theorem collected (sound : Sound cs) {state : List Char → Scan} {goesOn : Char → Bool}
    {token? : List Char → Option Token} {collected : List Char}
    (collects : Collects state goesOn token?)
    (completes : ∀ ts, (state (c :: collected)).Completes ts cs →
      EndsToken goesOn token? (c :: collected) ts cs)
    (read : tokensFrom? (tokens, state collected) (c :: cs) = some found) :
    ∃ ts, EndsToken goesOn token? collected ts (c :: cs) ∧ found = tokens.reverse ++ ts := by
  by_cases allowed : goesOn c
  · rw [tokensFrom?_of_scan (collects.more tokens collected allowed)] at read
    obtain ⟨ts, ended, rfl⟩ := sound _ _ read
    obtain ⟨more, rest, t, later, rfl, ends, known, lexes, rfl⟩ := completes ts ended
    exact ⟨_, ⟨c :: more, rest, t, later, rfl, ends, by simpa using known, lexes, rfl⟩, rfl⟩
  cases known : token? collected.reverse with
  | none =>
    rw [tokensFrom?_cons, collects.stop tokens collected allowed, known] at read
    cases read
  | some t =>
    have ends : ∀ d ∈ (c :: cs).head?, ¬ goesOn d := by simpa using allowed
    rw [collects.tokensFrom?_stop collected known ends] at read
    obtain ⟨ts, lexes, rfl⟩ := sound.between read
    exact ⟨t :: ts, ⟨[], _, t, ts, rfl, ends, by simpa using known, lexes, rfl⟩, by simp⟩

theorem text (sound : Sound cs)
    (read : tokensFrom? (tokens, .text units) (c :: cs) = some found) :
    ∃ ts, (Scan.text units).Completes ts (c :: cs) ∧ found = tokens.reverse ++ ts := by
  obtain ⟨next, ts, step, completes, rfl⟩ := sound.next read
  simp only [scan] at step
  split at step
  case isTrue quote =>
    cases step
    subst quote
    exact ⟨.text units.reverse :: ts, ⟨[], [], cs, ts, rfl, .nil, completes, by simp⟩, by simp⟩
  split at step
  case isTrue backslash =>
    cases step
    subst backslash
    obtain ⟨us, front, rest, rfl, piece, ends⟩ := completes
    exact ⟨ts, ends.piece piece, rfl⟩
  split at step
  case isTrue => cases step
  case isFalse noQuote noBackslash noControl =>
    cases step
    exact ⟨ts, EndsText.piece (.plain noQuote noBackslash (by omega)) completes, rfl⟩

theorem escape (sound : Sound cs)
    (read : tokensFrom? (tokens, .escape units) (c :: cs) = some found) :
    ∃ ts, (Scan.escape units).Completes ts (c :: cs) ∧ found = tokens.reverse ++ ts := by
  obtain ⟨next, ts, step, completes, rfl⟩ := sound.next read
  simp only [scan] at step
  split at step
  case isTrue code =>
    cases step
    subst code
    obtain ⟨hs, values, rest, rfl, four, digits, ends⟩ := completes
    refine ⟨ts, ⟨_, 'u' :: hs, rest, rfl, .code four digits, ?_⟩, rfl⟩
    rw [ofDigits_reverse]
    exact ends
  case isFalse =>
    obtain ⟨u, known, same⟩ := Option.bind_eq_some_iff.mp step
    cases same
    exact ⟨ts, ⟨[u], [c], cs, rfl, .escape (escapeUnit?_eq_some_iff.mp known), completes⟩, rfl⟩

theorem hex (sound : Sound cs) {digits : Nat}
    (read : tokensFrom? (tokens, .hex units digits value) (c :: cs) = some found) :
    ∃ ts, (Scan.hex units digits value).Completes ts (c :: cs) ∧ found = tokens.reverse ++ ts := by
  obtain ⟨next, ts, step, completes, rfl⟩ := sound.next read
  obtain ⟨d, known, same⟩ := Option.bind_eq_some_iff.mp step
  have digit := hexValue?_eq_some_iff.mp known
  split at same
  case isTrue last =>
    cases same
    exact ⟨ts, ⟨[c], [d], cs, rfl, by simp [last], .cons digit .nil, completes⟩, rfl⟩
  case isFalse =>
    cases same
    obtain ⟨hs, values, rest, rfl, four, later, ends⟩ := completes
    exact ⟨ts, ⟨c :: hs, d :: values, rest, rfl, by simp only [List.length_cons]; omega,
      .cons digit later, ends⟩, rfl⟩

end Sound

theorem sound (cs : List Char) : Sound cs := by
  induction cs with
  | nil => exact .nil
  | cons c cs ih =>
    rintro ⟨tokens, s⟩ found read
    cases s with
    | between => exact ih.between read
    | word letters => exact ih.collected collects_word (fun _ => id) read
    | number characters => exact ih.collected collects_number (fun _ => id) read
    | text units => exact ih.text read
    | escape units => exact ih.escape read
    | hex units digits value => exact ih.hex read

/-- The tokens of a text are found where the grammar has them, and nowhere else. -/
theorem tokens?_eq_some_iff : tokens? cs = some ts ↔ Lexes ts cs := by
  rw [tokens?_eq]
  constructor
  · intro read
    obtain ⟨_, lexes, rfl⟩ := sound cs _ _ read
    exact lexes
  · intro lexes
    simpa using tokensFrom?_of_lexes [] lexes

end DeviceArrays.Json
