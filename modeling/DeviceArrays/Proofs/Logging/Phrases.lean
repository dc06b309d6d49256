import DeviceArrays.Logging.Directive
import DeviceArrays.Proofs.Text.Numerals

/-!
# Directives about targets

Which texts are directives without spans and fields, said without reading: a level, a target, or a
target, an equals sign and a level. White space is not cut off. In front of a word it is passed
over when the first character is looked at, but the word is taken as it stands.
-/
namespace DeviceArrays

variable {before word target rest : List Char} {c mark : Char} {marks : List Char}

/-! ### Words between white space -/

/-- What follows a word may be cut at the end of a text, but the word stays. -/
theorem exists_trimBlank_eq (word rest : List Char) (blank : ∀ b ∈ before, isBlank b)
    (nonempty : word ≠ []) (first : ∀ c ∈ word.head?, ¬ isBlank c)
    (last : ∀ c ∈ word.getLast?, ¬ isBlank c) :
    ∃ more, trimBlank (before ++ word ++ rest) = word ++ more := by
  refine ⟨rest.rdropWhile isBlank, trimBlank_eq_iff.mpr ⟨?_, ?_, ?_⟩⟩
  · refine ⟨before, rest.rtakeWhile isBlank, ?_, blank, fun c => List.mem_rtakeWhile_imp⟩
    simp only [List.append_assoc, List.rdropWhile_append_rtakeWhile]
  · rwa [List.head?_append_of_ne_nil _ nonempty]
  · by_cases cut : rest.rdropWhile isBlank = []
    · rwa [cut, List.append_nil]
    · rw [List.getLast?_append_of_ne_nil _ cut, List.getLast?_eq_some_getLast cut]
      rintro _ ⟨⟩
      exact List.rdropWhile_last_not _ _ cut

theorem exists_blank_append (cs : List Char) : ∃ before word, cs = before ++ word ∧
    (∀ b ∈ before, isBlank b) ∧ ∀ c ∈ word.head?, ¬ isBlank c := by
  refine ⟨cs.takeWhile isBlank, cs.dropWhile isBlank, ?_, fun c => List.mem_takeWhile_imp,
    stops_dropWhile isBlank cs⟩
  rw [List.takeWhile_append_dropWhile]

theorem utf8Length_append (cs ds : List Char) :
    utf8Length (cs ++ ds) = utf8Length cs + utf8Length ds := by
  induction cs with
  | nil => simp [utf8Length]
  | cons c cs ih => simp [utf8Length, ih, Nat.add_assoc]

/-- What stands behind at least `n` bytes is not dropped with them. -/
theorem suffix_dropBytes {n : Nat} {cs : List Char} (enough : n ≤ utf8Length cs)
    (rest : List Char) : rest <:+ dropBytes n (cs ++ rest) := by
  induction cs generalizing n with
  | nil =>
    obtain rfl : n = 0 := Nat.le_zero.mp enough
    simp
  | cons c cs ih =>
    rw [List.cons_append, dropBytes]
    split
    · simp only [utf8Length] at enough
      exact ih (by omega)
    · exact List.suffix_append (c :: cs) rest

/-- Up to the first of some marks, behind white space. The text before the mark is as long as the
word, but it is taken from where the white space begins. -/
theorem Cursor.upTo?_ofText (before word : List Char) (mark : Char) (rest : List Char)
    (blank : ∀ b ∈ before, isBlank b) (first : ∀ c ∈ word.head?, ¬ isBlank c)
    (unmarked : ∀ c ∈ word, c ∉ marks) (marked : mark ∈ marks) (solid : ¬ isBlank mark) :
    ∃ ahead, (Cursor.ofText (before ++ word ++ mark :: rest)).upTo? marks =
      some (takeBytes (utf8Length word) (before ++ word ++ mark :: rest), mark,
        ⟨before ++ word ++ mark :: rest, utf8Length word + mark.utf8Size, ahead⟩) := by
  have start : ∀ c ∈ (word ++ [mark]).head?, ¬ isBlank c := by
    cases word with
    | nil => simpa using solid
    | cons c cs => exact first
  obtain ⟨more, trimmed⟩ := exists_trimBlank_eq (word ++ [mark]) rest blank (by simp) start
    (by simpa using solid)
  rw [List.append_assoc, List.append_assoc, List.singleton_append, List.append_assoc,
    List.singleton_append] at trimmed
  refine ⟨more, ?_⟩
  have taken : (word ++ mark :: more).takeWhile (· ∉ marks) = word :=
    takeWhile_append_stop (by simpa using unmarked) (by simpa using marked)
  have dropped : (word ++ mark :: more).dropWhile (· ∉ marks) = mark :: more :=
    dropWhile_append_stop (by simpa using unmarked) (by simpa using marked)
  simp only [Cursor.upTo?, Cursor.ofText, Cursor.rest, List.append_assoc, trimmed, taken, dropped,
    dropBytes_zero, Nat.zero_add]

theorem mem_of_mem_trimBlank (found : c ∈ trimBlank word) : c ∈ word := by
  obtain ⟨before, after, whole, -, -⟩ := (trims_trimBlank word).inside
  rw [whole]
  exact List.mem_append_left _ (List.mem_append_right _ found)

theorem Cursor.upTo?_ofText_unmarked (unmarked : ∀ c ∈ word, c ∉ marks) :
    (Cursor.ofText word).upTo? marks = none := by
  have none_left : (trimBlank word).dropWhile (· ∉ marks) = [] := by
    refine List.dropWhile_eq_nil_iff.mpr fun c found => ?_
    simpa using unmarked c (mem_of_mem_trimBlank found)
  simp only [Cursor.upTo?, Cursor.ofText, none_left]

theorem Cursor.mem_of_upTo? {cursor behind : Cursor} (cut : cursor.upTo? marks =
    some (word, mark, behind)) : mark ∈ marks ∧ mark ∈ cursor.ahead := by
  unfold upTo? at cut
  split at cut
  · cases cut
  case h_2 first rest dropped =>
    cases cut
    have stop := stops_dropWhile (· ∉ marks) cursor.ahead
    rw [dropped] at stop
    have suffix := List.dropWhile_suffix (· ∉ marks) (l := cursor.ahead)
    rw [dropped] at suffix
    exact ⟨by simpa using stop, suffix.subset List.mem_cons_self⟩

namespace Logging

variable {piece : List Char} {d : Directive} {l : Level} {n : Nat}

/-! ### Levels -/

/-- The words for a level: its rank, or its name in letters of any case. -/
def Level.Named (word : List Char) (l : Level) : Prop :=
  Numeral word l.rank ∨ lowerCase word = l.name.toList

theorem exists_digit (numeral : Numeral word n) : ∃ d ∈ word, d.isDigit := by
  obtain ⟨nonempty, digits⟩ | ⟨nonempty, digits⟩ := numeral <;>
    obtain ⟨d, found⟩ := List.exists_mem_of_ne_nil _ nonempty
  · exact ⟨d, found, isDigit_iff.mpr (digits d found)⟩
  · exact ⟨d, List.mem_cons_of_mem _ found, isDigit_iff.mpr (digits d found)⟩

theorem mem_of_numeral (numeral : Numeral word n) (found : c ∈ word) : c = '+' ∨ c.isDigit := by
  obtain ⟨-, digits⟩ | ⟨-, digits⟩ := numeral
  · exact .inr (isDigit_iff.mpr (digits c found))
  · obtain rfl | found := List.mem_cons.mp found
    · exact .inl rfl
    · exact .inr (isDigit_iff.mpr (digits c found))

theorem toLower_of_isDigit (digit : c.isDigit) : c.toLower = c := by
  obtain ⟨-, atMost⟩ := isDigit_iff.mp digit
  refine dif_neg fun upper => ?_
  exact absurd (UInt32.le_trans upper.1 atMost) (by decide)

theorem Level.mem_name_of_mem (named : lowerCase word = l.name.toList) (found : c ∈ word) :
    c.toLower ∈ l.name.toList := named ▸ List.mem_map_of_mem found

theorem Level.any_isDigit_name (l : Level) : l.name.toList.any Char.isDigit = false := by
  cases l <;> rfl

theorem lowerCase_ne_name (numeral : Numeral word n) (l : Level) :
    lowerCase word ≠ l.name.toList := by
  intro same
  obtain ⟨d, found, digit⟩ := exists_digit numeral
  have lowered := Level.mem_name_of_mem same found
  rw [toLower_of_isDigit digit] at lowered
  exact List.any_eq_false.mp l.any_isDigit_name d lowered digit

theorem Level.all_getElem?_eq_some_iff : all[n]? = some l ↔ n = l.rank := by
  constructor
  · intro found
    obtain ⟨small, rfl⟩ := List.getElem?_eq_some_iff.mp found
    have table : ∀ n (small : n < all.length), n = (all[n]).rank := by decide
    exact table n small
  · rintro rfl
    cases l <;> rfl

theorem Level.find?_name_eq_some_iff :
    all.find? (·.name = String.ofList word) = some l ↔ word = l.name.toList := by
  constructor
  · intro found
    have same : l.name = String.ofList word := by simpa using List.find?_some found
    rw [same, String.toList_ofList]
  · rintro rfl
    rw [String.ofList_toList]
    cases l <;> rfl

/-- The words for a level are what is read as one. -/
theorem Level.ofText?_eq_some_iff : ofText? word = some l ↔ l.Named word := by
  have small : l.rank < wordBound := by cases l <;> decide
  unfold ofText?
  cases read : readNatural? word with
  | some n =>
    obtain ⟨numeral, -⟩ := readNatural?_eq_some_iff.mp read
    simp only [all_getElem?_eq_some_iff]
    constructor
    · rintro rfl
      exact .inl numeral
    · rintro (ranked | named)
      · have again := readNatural?_eq_some_iff.mpr ⟨ranked, small⟩
        exact Option.some.inj (read.symm.trans again)
      · exact absurd named (lowerCase_ne_name numeral l)
  | none =>
    simp only [find?_name_eq_some_iff]
    refine ⟨.inr, fun named => named.resolve_left fun ranked => ?_⟩
    rw [readNatural?_eq_some_iff.mpr ⟨ranked, small⟩] at read
    cases read

/-- A word for a level has none of the marks of directives. -/
theorem Level.Named.unmarked (named : l.Named word) : ∀ c ∈ word, c ∉ ['=', '['] := by
  intro c found marked
  obtain rfl | rfl : c = '=' ∨ c = '[' := by simpa using marked
  all_goals
    obtain numeral | named := named
    · exact absurd (mem_of_numeral numeral found) (by decide)
    · have lowered := mem_name_of_mem named found
      cases l <;> exact absurd lowered (by decide)

/-! ### Directives -/

/-- The word, but for white space in front of it, begins as a target may. -/
def Begins (word : List Char) : Prop :=
  ∃ before c rest, word = before ++ c :: rest ∧ (∀ b ∈ before, isBlank b) ∧
    Directive.beginsTarget c

/-- A directive about targets as it is written. -/
inductive Phrase : List Char → Directive → Prop
  | level {word : List Char} {l : Level} (begins : Begins word) (named : l.Named word) :
      Phrase word (.plain none l)
  | target {word : List Char} (begins : Begins word) (unmarked : ∀ c ∈ word, c ∉ ['=', '['])
      (other : ∀ l : Level, ¬ l.Named word) : Phrase word (.plain (some word) .trace)
  | both {c : Char} {more word : List Char} {l : Level} (begins : Directive.beginsTarget c)
      (unmarked : ∀ d ∈ c :: more, d ∉ ['=', '['])
      (given : (word = [] ∧ l = .trace) ∨ l.Named word) :
      Phrase (c :: more ++ '=' :: word) (.plain (some (c :: more)) l)

theorem Directive.not_isBlank_of_beginsTarget (begins : beginsTarget c) : ¬ isBlank c := by
  have table : ∀ r ∈ blankRanges, ∀ i < r.2 - r.1 + 1,
      beginsTarget (Char.ofNat (r.1 + i)) = false := by decide +kernel
  intro blank
  obtain ⟨r, known, inside⟩ := List.any_eq_true.mp blank
  have inside : r.1 ≤ c.toNat ∧ c.toNat ≤ r.2 := by simpa using inside
  have other := table r known (c.toNat - r.1) (by omega)
  rw [Nat.add_sub_cancel' inside.1, Char.ofNat_toNat, begins] at other
  cases other

theorem Begins.head (begins : Begins (c :: word)) (solid : ¬ isBlank c) :
    Directive.beginsTarget c := by
  obtain ⟨before, d, rest, same, blank, begins⟩ := begins
  cases before with
  | nil =>
    cases same
    exact begins
  | cons b before =>
    obtain ⟨rfl, -⟩ := List.cons_eq_cons.mp same
    exact absurd (blank c List.mem_cons_self) solid

theorem begins_iff : Begins word ↔ ∃ c ∈ (trimBlank word).head?, Directive.beginsTarget c := by
  constructor
  · rintro ⟨before, c, rest, rfl, blank, begins⟩
    have solid := Directive.not_isBlank_of_beginsTarget begins
    obtain ⟨more, trimmed⟩ := exists_trimBlank_eq [c] rest blank (by simp)
      (by simpa using solid) (by simpa using solid)
    rw [List.append_assoc, List.singleton_append] at trimmed
    exact ⟨c, by rw [trimmed]; rfl, begins⟩
  · rintro ⟨c, found, begins⟩
    obtain ⟨before, after, whole, blank, -⟩ := (trims_trimBlank word).inside
    obtain ⟨rest, same⟩ := List.head?_eq_some_iff.mp found
    refine ⟨before, c, rest ++ after, ?_, blank, begins⟩
    rw [same] at whole
    simpa using whole

theorem Directive.levelOfText_eq_ok_iff :
    levelOfText word = .ok l ↔ (word = [] ∧ l = .trace) ∨ l.Named word := by
  unfold levelOfText
  split
  case isTrue empty =>
    subst empty
    have noLevel : Level.ofText? [] = none := by decide
    simp [← Level.ofText?_eq_some_iff, noLevel, eq_comm]
  case isFalse nonempty =>
    cases read : Level.ofText? word with
    | some l' => simp [nonempty, ← Level.ofText?_eq_some_iff, read]
    | none => simp [nonempty, ← Level.ofText?_eq_some_iff, read]

theorem exists_ok_of_bind {ε α β : Type} {x : Except ε α} {f : α → Except ε β} {b : β}
    (read : x >>= f = .ok b) : ∃ a, x = .ok a ∧ f a = .ok b := by
  cases x with
  | error e => cases read
  | ok a => exact ⟨a, rfl, read⟩

theorem exists_ok_of_map {ε α β : Type} {x : Except ε α} {f : α → β} {b : β}
    (read : x.map f = .ok b) : ∃ a, x = .ok a ∧ f a = b := by
  cases x with
  | error e => cases read
  | ok a => exact ⟨a, rfl, Except.ok.inj read⟩

/-- What is read from behind a bracket is about a span or a field. -/
theorem Directive.isScoped_of_readScope {t : Option (List Char)} {c : Cursor}
    (read : readScope t c = .ok d) : d.isScoped := by
  unfold readScope at read
  split at read
  · cases read
  · obtain ⟨level, -, made⟩ := exists_ok_of_bind read
    cases made
    rfl
  · obtain ⟨⟨field, behind⟩, -, made⟩ := exists_ok_of_bind read
    obtain ⟨level, -, made⟩ := exists_ok_of_bind made
    cases made
    exact Bool.or_true _

theorem begins_of_ofText (read : Directive.ofText piece = .ok d) (plain : d.isScoped = false) :
    Begins piece := by
  rw [begins_iff]
  unfold Directive.ofText at read
  simp only [Cursor.ofText] at read
  split at read
  · cases read
  · rw [Directive.isScoped_of_readScope read] at plain
    cases plain
  case h_3 c rest _ ahead =>
    refine ⟨c, by rw [ahead]; rfl, ?_⟩
    split at read
    · cases read
    case isFalse begins => simpa using begins

/-- A directive is cut at its first mark, if there is one. -/
theorem Directive.ofText_of_begins (begins : Begins piece) : ofText piece =
    match (Cursor.ofText piece).upTo? ['=', '['] with
    | none => .ok (((Level.ofText? piece).map (plain none)).getD (plain (some piece) .trace))
    | some (target, '=', behind) => (levelOfText behind.rest).map (plain (some target))
    | some (target, _, behind) => readScope (some target) behind := by
  obtain ⟨c, found, begins⟩ := begins_iff.mp begins
  obtain ⟨rest, trimmed⟩ := List.head?_eq_some_iff.mp found
  have noBracket : c ≠ '[' := by
    rintro rfl
    exact absurd begins (by decide +kernel)
  unfold ofText
  simp only [Cursor.ofText, trimmed, begins]
  rfl

theorem dropBytes_mark (word rest : List Char) (mark : Char) :
    dropBytes (utf8Length word + mark.utf8Size) (word ++ mark :: rest) = rest := by
  have dropped := dropBytes_utf8Length (word ++ [mark]) rest
  rwa [utf8Length_append, List.append_assoc, List.singleton_append] at dropped

/-- The level behind a target and an equals sign is read by itself. -/
theorem Directive.ofText_equals {more : List Char} (begins : beginsTarget c)
    (unmarked : ∀ d ∈ c :: more, d ∉ ['=', '[']) (word : List Char) :
    ofText (c :: more ++ '=' :: word) = (levelOfText word).map (plain (some (c :: more))) := by
  have solid : ∀ d ∈ (c :: more).head?, ¬ isBlank d := by
    simpa using not_isBlank_of_beginsTarget begins
  obtain ⟨ahead, cut⟩ := Cursor.upTo?_ofText [] (c :: more) '=' word (by simp) solid unmarked
    (by decide) (by decide)
  rw [List.nil_append] at cut
  have first : Begins (c :: more ++ '=' :: word) :=
    ⟨[], c, more ++ '=' :: word, rfl, by simp, begins⟩
  rw [ofText_of_begins first, cut]
  simp only [takeBytes_utf8Length, Cursor.rest, dropBytes_mark]

/-- White space in front of a target counts as bytes of it, so the equals sign is taken for a part
of the level, which then is none. -/
theorem Directive.ofText_blank_equals (begins : Begins (before ++ word ++ '=' :: rest))
    (some_blank : before ≠ []) (blank : ∀ b ∈ before, isBlank b)
    (first : ∀ c ∈ word.head?, ¬ isBlank c) (unmarked : ∀ c ∈ word, c ∉ ['=', '[']) :
    ofText (before ++ word ++ '=' :: rest) ≠ .ok d := by
  obtain ⟨ahead, cut⟩ := Cursor.upTo?_ofText before word '=' rest blank first unmarked
    (by decide) (by decide)
  rw [ofText_of_begins begins, cut]
  intro read
  simp only [Cursor.rest] at read
  have enough : utf8Length word + Char.utf8Size '=' ≤ utf8Length (before ++ word) := by
    obtain ⟨b, before, rfl⟩ := List.exists_cons_of_ne_nil some_blank
    have size : Char.utf8Size '=' = 1 := by decide
    have positive := b.utf8Size_pos
    rw [utf8Length_append, utf8Length, size]
    omega
  have kept := suffix_dropBytes enough ('=' :: rest)
  obtain ⟨l, level, -⟩ := exists_ok_of_map read
  obtain ⟨empty, -⟩ | named := levelOfText_eq_ok_iff.mp level
  · rw [empty] at kept
    cases List.suffix_nil.mp kept
  · exact named.unmarked '=' (kept.subset List.mem_cons_self) (by decide)

theorem exists_first_mark (marked : ¬ ∀ c ∈ piece, c ∉ marks) :
    ∃ word mark rest, piece = word ++ mark :: rest ∧ (∀ c ∈ word, c ∉ marks) ∧ mark ∈ marks := by
  have behind : piece.dropWhile (· ∉ marks) ≠ [] := by
    rw [ne_eq, List.dropWhile_eq_nil_iff]
    simpa using marked
  obtain ⟨mark, rest, same⟩ := List.exists_cons_of_ne_nil behind
  refine ⟨piece.takeWhile (· ∉ marks), mark, rest, ?_, fun c found => ?_, ?_⟩
  · rw [← same, List.takeWhile_append_dropWhile]
  · simpa using List.mem_takeWhile_imp found
  · have stop := stops_dropWhile (· ∉ marks) piece
    rw [same] at stop
    simpa using stop

/-- Without a mark the whole piece is a level or a target. -/
theorem phrase_of_unmarked (begins : Begins piece) (unmarked : ∀ c ∈ piece, c ∉ ['=', '['])
    (read : Directive.ofText piece = .ok d) : Phrase piece d := by
  rw [Directive.ofText_of_begins begins, Cursor.upTo?_ofText_unmarked unmarked] at read
  cases level : Level.ofText? piece with
  | some l =>
    rw [level] at read
    cases read
    exact .level begins (Level.ofText?_eq_some_iff.mp level)
  | none =>
    rw [level] at read
    cases read
    refine .target begins unmarked fun l named => ?_
    rw [Level.ofText?_eq_some_iff.mpr named] at level
    cases level

theorem phrase_of_equals (begins : Begins (target ++ '=' :: rest))
    (unmarked : ∀ c ∈ target, c ∉ ['=', '['])
    (read : Directive.ofText (target ++ '=' :: rest) = .ok d) :
    Phrase (target ++ '=' :: rest) d := by
  obtain ⟨before, word, rfl, blank, first⟩ := exists_blank_append target
  have unmarked := (List.forall_mem_append.mp unmarked).2
  obtain rfl : before = [] := by
    by_contra some_blank
    exact Directive.ofText_blank_equals begins some_blank blank first unmarked read
  rw [List.nil_append] at read begins
  cases word with
  | nil => exact absurd (begins.head (by decide)) (by decide +kernel)
  | cons c more =>
    have begins := begins.head (first c rfl)
    rw [Directive.ofText_equals begins unmarked] at read
    obtain ⟨l, level, rfl⟩ := exists_ok_of_map read
    exact .both begins unmarked (Directive.levelOfText_eq_ok_iff.mp level)

theorem isScoped_of_bracket (begins : Begins (target ++ '[' :: rest))
    (unmarked : ∀ c ∈ target, c ∉ ['=', '['])
    (read : Directive.ofText (target ++ '[' :: rest) = .ok d) : d.isScoped := by
  obtain ⟨before, word, rfl, blank, first⟩ := exists_blank_append target
  have unmarked := (List.forall_mem_append.mp unmarked).2
  obtain ⟨ahead, cut⟩ := Cursor.upTo?_ofText before word '[' rest blank first unmarked (by decide)
    (by decide)
  rw [Directive.ofText_of_begins begins, cut] at read
  exact Directive.isScoped_of_readScope read

/-- The directives without spans and fields are read from their phrases. -/
theorem Directive.ofText_eq_ok_iff :
    ofText piece = .ok d ∧ d.isScoped = false ↔ Phrase piece d := by
  constructor
  · rintro ⟨read, plain⟩
    have begins := begins_of_ofText read plain
    by_cases unmarked : ∀ c ∈ piece, c ∉ ['=', '[']
    · exact phrase_of_unmarked begins unmarked read
    · obtain ⟨target, mark, rest, rfl, before, marked⟩ := exists_first_mark unmarked
      obtain rfl | rfl : mark = '=' ∨ mark = '[' := by simpa using marked
      · exact phrase_of_equals begins before read
      · rw [isScoped_of_bracket begins before read] at plain
        cases plain
  · rintro (⟨begins, named⟩ | ⟨begins, unmarked, other⟩ | ⟨begins, unmarked, given⟩)
    · rw [ofText_of_begins begins, Cursor.upTo?_ofText_unmarked named.unmarked,
        Level.ofText?_eq_some_iff.mpr named]
      exact ⟨rfl, rfl⟩
    · have noLevel : Level.ofText? piece = none :=
        Option.eq_none_iff_forall_ne_some.mpr fun l read =>
          other l (Level.ofText?_eq_some_iff.mp read)
      rw [ofText_of_begins begins, Cursor.upTo?_ofText_unmarked unmarked, noLevel]
      exact ⟨rfl, rfl⟩
    · rw [ofText_equals begins unmarked, levelOfText_eq_ok_iff.mpr given]
      exact ⟨rfl, rfl⟩

/-- A directive about spans or fields has a bracket. -/
theorem Directive.bracket_of_isScoped (read : ofText piece = .ok d) (about : d.isScoped = true) :
    '[' ∈ piece := by
  unfold ofText at read
  simp only [Cursor.ofText] at read
  split at read
  · cases read
  case h_2 rest ahead => exact mem_of_mem_trimBlank (ahead ▸ List.mem_cons_self)
  · split at read
    · cases read
    split at read
    · cases level : Level.ofText? piece <;> simp only [level] at read <;> cases read <;> cases about
    · obtain ⟨l, -, rfl⟩ := exists_ok_of_map read
      cases about
    case h_3 target mark behind other cut =>
      obtain ⟨marked, ahead⟩ := Cursor.mem_of_upTo? cut
      obtain rfl | rfl : mark = '=' ∨ mark = '[' := by simpa using marked
      · exact (other rfl).elim
      · exact mem_of_mem_trimBlank ahead

end Logging

end DeviceArrays
