import DeviceArrays.Logging.Filter
import DeviceArrays.Proofs.Logging.Phrases
import Mathlib.Data.List.Forall2

/-!
# Lists of directives and what they decide

A list of directives is written with commas between them. Of the directives about targets, the one
with the longest text that a target begins with decides about the target, the last of equal ones.
-/
namespace DeviceArrays.Logging

variable {cs target piece : List Char} {pieces parts : List (List Char)} {text : String}
  {ds : List Directive} {d e : Directive} {l m whenEmpty : Level} {f : Filter}

/-! ### Commas -/

/-- The text is the parts with commas between them. -/
structure Parts (cs : List Char) (parts : List (List Char)) : Prop where
  nonempty : parts ≠ []
  joined : [','].intercalate parts = cs
  noComma : ∀ part ∈ parts, ',' ∉ part

theorem splitCommas_eq_splitOn (cs : List Char) : splitCommas cs = cs.splitOn ',' := by
  induction cs with
  | nil => rfl
  | cons c cs ih =>
    rw [splitCommas, List.splitOn, List.splitOnP_cons_eq_if_modifyHead, ← List.splitOn, ← ih]
    obtain ⟨piece, pieces, same⟩ := List.exists_cons_of_ne_nil (splitCommas_ne_nil cs)
    simp [same]

/-- The parts are made of the characters of the text that are no commas. -/
theorem mem_of_mem_splitCommas : ∀ part ∈ splitCommas cs, ∀ c ∈ part, c ∈ cs ∧ c ≠ ',' := by
  induction cs with
  | nil => simp [splitCommas]
  | cons c cs ih =>
    have wider : ∀ part ∈ splitCommas cs, ∀ d ∈ part, d ∈ c :: cs ∧ d ≠ ',' :=
      fun part known d found => (ih part known d found).imp_left (List.mem_cons_of_mem c)
    rw [splitCommas]
    obtain ⟨piece, pieces, same⟩ := List.exists_cons_of_ne_nil (splitCommas_ne_nil cs)
    rw [same] at wider ⊢
    obtain ⟨first, others⟩ := List.forall_mem_cons.mp wider
    dsimp only
    split
    · exact List.forall_mem_cons.mpr ⟨by simp, wider⟩
    case isFalse other =>
      have longer := List.forall_mem_cons.mpr ⟨⟨List.mem_cons_self, other⟩, first⟩
      exact List.forall_mem_cons.mpr ⟨longer, others⟩

theorem parts_splitCommas (cs : List Char) : Parts cs (splitCommas cs) where
  nonempty := splitCommas_ne_nil cs
  joined := by rw [splitCommas_eq_splitOn, List.intercalate_splitOn]
  noComma := fun part known comma => (mem_of_mem_splitCommas part known ',' comma).2 rfl

theorem Parts.eq (h : Parts cs parts) : parts = splitCommas cs := by
  rw [← h.joined, splitCommas_eq_splitOn, List.splitOn_intercalate ',' h.noComma h.nonempty]

/-! ### Lists of phrases -/

/-- A list of directives about targets. Empty parts do not count. -/
def Listed (text : String) (ds : List Directive) : Prop :=
  ∃ parts, Parts text.toList parts ∧ List.Forall₂ Phrase (parts.filter (· ≠ [])) ds

/-- The directives about targets that some parts are. Other parts do not count. -/
inductive Picked : List (List Char) → List Directive → Prop
  | nil : Picked [] []
  | phrase {part : List Char} {d : Directive} {parts : List (List Char)} {ds : List Directive}
      (phrase : Phrase part d) (later : Picked parts ds) : Picked (part :: parts) (d :: ds)
  | other {part : List Char} {parts : List (List Char)} {ds : List Directive}
      (other : ∀ d, ¬ Phrase part d) (later : Picked parts ds) : Picked (part :: parts) ds

/-- The directives about targets in a list whose other parts do not count. -/
def PickedFrom (text : String) (ds : List Directive) : Prop :=
  ∃ parts, Parts text.toList parts ∧ Picked (parts.filter (· ≠ [])) ds

/-- No part of the text is a directive about spans or fields. -/
def Unscoped (text : String) : Prop :=
  ∀ parts, Parts text.toList parts → ∀ part ∈ parts, ∀ d, Directive.ofText part = .ok d →
    d.isScoped = false

/-- A text without brackets asks for nothing of the kind. -/
theorem unscoped_of_noBracket (noBracket : '[' ∉ text.toList) : Unscoped text := by
  intro parts split part known d read
  rw [split.eq] at known
  by_contra other
  have bracket := Directive.bracket_of_isScoped read (by simpa using other)
  exact noBracket (mem_of_mem_splitCommas part known '[' bracket).1

theorem Unscoped.plain (unscoped : Unscoped text) : ∀ piece ∈ Filter.pieces text, ∀ d,
    Directive.ofText piece = .ok d → d.isScoped = false :=
  fun piece found => unscoped _ (parts_splitCommas _) piece (List.mem_filter.mp found).1

theorem mapM_ofText_eq_ok_iff : pieces.mapM Directive.ofText = .ok ds ↔
    List.Forall₂ (fun piece d => Directive.ofText piece = .ok d) pieces ds := by
  induction pieces generalizing ds with
  | nil =>
    rw [List.forall₂_nil_left_iff]
    exact ⟨fun same => (Except.ok.inj same).symm, fun same => same ▸ rfl⟩
  | cons piece pieces ih =>
    rw [List.mapM_cons, List.forall₂_cons_left_iff]
    constructor
    · intro read
      obtain ⟨d, first, read⟩ := exists_ok_of_bind read
      obtain ⟨later, others, made⟩ := exists_ok_of_bind read
      exact ⟨d, later, first, ih.mp others, (Except.ok.inj made).symm⟩
    · rintro ⟨d, later, first, others, rfl⟩
      rw [first, ih.mpr others]
      rfl

theorem forall₂_phrase_iff (plain : ∀ piece ∈ pieces, ∀ d, Directive.ofText piece = .ok d →
    d.isScoped = false) :
    List.Forall₂ (fun piece d => Directive.ofText piece = .ok d) pieces ds ↔
      List.Forall₂ Phrase pieces ds := by
  constructor
  · intro read
    induction read with
    | nil => exact .nil
    | cons first later ih =>
      obtain ⟨here, there⟩ := List.forall_mem_cons.mp plain
      exact .cons (Directive.ofText_eq_ok_iff.mp ⟨first, here _ first⟩) (ih there)
  · exact .imp fun piece d phrase => (Directive.ofText_eq_ok_iff.mpr phrase).1

/-- A directive about targets. A target that is named has some text. -/
structure Directive.Simple (d : Directive) : Prop where
  span : d.span = none
  field : d.field = none
  target : d.target ≠ some []

theorem Directive.Simple.isScoped (simple : d.Simple) : d.isScoped = false := by
  simp [Directive.isScoped, simple.span, simple.field]

theorem Phrase.simple (phrase : Phrase piece d) : d.Simple := by
  cases phrase with
  | level => exact ⟨rfl, rfl, nofun⟩
  | target begins =>
    obtain ⟨before, c, rest, rfl, -⟩ := begins
    exact ⟨rfl, rfl, by simp [Directive.plain]⟩
  | both => exact ⟨rfl, rfl, by simp [Directive.plain]⟩

theorem simple_of_forall₂ (phrases : List.Forall₂ Phrase pieces ds) : ∀ d ∈ ds, d.Simple := by
  induction phrases with
  | nil => nofun
  | cons phrase later ih => exact List.forall_mem_cons.mpr ⟨phrase.simple, ih⟩

theorem simple_of_picked (picked : Picked pieces ds) : ∀ d ∈ ds, d.Simple := by
  induction picked with
  | nil => nofun
  | phrase phrase later ih => exact List.forall_mem_cons.mpr ⟨phrase.simple, ih⟩
  | other other later ih => exact ih

theorem Filter.ofDirectives_eq (simple : ∀ d ∈ ds, d.Simple) : ofDirectives ds = ⟨ds⟩ := by
  have kept : ds.filter (!·.isScoped) = ds :=
    List.filter_eq_self.mpr fun d known => by rw [(simple d known).isScoped]; rfl
  have none_left : ds.filter (·.isScoped) = [] :=
    List.filter_eq_nil_iff.mpr fun d known => by simp [(simple d known).isScoped]
  rw [ofDirectives, kept, none_left, List.append_nil]

/-- A list of directives about targets is read as written, and nothing else is. -/
theorem Filter.ofText_eq_ok_iff (unscoped : Unscoped text) :
    ofText text = .ok f ↔ ∃ ds, Listed text ds ∧ f = ⟨ds⟩ := by
  have plain := unscoped.plain
  constructor
  · intro read
    obtain ⟨ds, all, made⟩ := exists_ok_of_bind read
    have phrases := (forall₂_phrase_iff plain).mp (mapM_ofText_eq_ok_iff.mp all)
    refine ⟨ds, ⟨_, parts_splitCommas _, phrases⟩, ?_⟩
    rw [← Except.ok.inj made, ofDirectives_eq (simple_of_forall₂ phrases)]
  · rintro ⟨ds, ⟨parts, split, phrases⟩, rfl⟩
    rw [split.eq] at phrases
    have all := mapM_ofText_eq_ok_iff.mpr ((forall₂_phrase_iff plain).mpr phrases)
    change (pieces text).mapM Directive.ofText >>= _ = _
    rw [all]
    exact congrArg Except.ok (ofDirectives_eq (simple_of_forall₂ phrases))

theorem exists_picked (plain : ∀ piece ∈ pieces, ∀ d, Directive.ofText piece = .ok d →
    d.isScoped = false) :
    Picked pieces (pieces.filterMap fun piece => (Directive.ofText piece).toOption) := by
  induction pieces with
  | nil => exact .nil
  | cons piece pieces ih =>
    obtain ⟨here, there⟩ := List.forall_mem_cons.mp plain
    cases read : Directive.ofText piece with
    | ok d =>
      rw [List.filterMap_cons_some (by rw [read]; rfl)]
      exact .phrase (Directive.ofText_eq_ok_iff.mp ⟨read, here d read⟩) (ih there)
    | error problem =>
      rw [List.filterMap_cons_none (by rw [read]; rfl)]
      refine .other (fun d phrase => ?_) (ih there)
      rw [(Directive.ofText_eq_ok_iff.mpr phrase).1] at read
      cases read

/-- What is read leniently are the directives that can be read; without any, errors pass. -/
theorem Filter.exists_ofTextLeniently (unscoped : Unscoped text) : ∃ ds, PickedFrom text ds ∧
    ofTextLeniently text = if ds = [] then errors else ⟨ds⟩ := by
  have picked := exists_picked unscoped.plain
  refine ⟨_, ⟨_, parts_splitCommas _, picked⟩, ?_⟩
  unfold ofTextLeniently
  split
  case h_1 none_left => rw [if_pos none_left]
  case h_2 some_left => rw [if_neg some_left, ofDirectives_eq (simple_of_picked picked)]

/-! ### Deciding -/

/-- The text that the targets of a directive begin with. -/
def Directive.stem (d : Directive) : List Char := d.target.getD []

/-- The directive with the longest text that the target begins with, the last of equal ones. -/
def Decides (ds : List Directive) (target : List Char) (d : Directive) : Prop :=
  ∃ i : Nat, ds[i]? = some d ∧ d.stem <+: target ∧
    ∀ (j : Nat) (e : Directive), ds[j]? = some e → e.stem <+: target →
      e.stem.length < d.stem.length ∨ e.stem = d.stem ∧ j ≤ i

/-- The level that directives give to a target. Nothing passes where none of them says anything
about the target, and without any directive it is the level for an empty list. -/
inductive LevelUnder (whenEmpty : Level) (ds : List Directive) (target : List Char) : Level → Prop
  | decided {d : Directive} (decides : Decides ds target d) : LevelUnder whenEmpty ds target d.level
  | uncovered (nonempty : ds ≠ []) (uncovered : ∀ d ∈ ds, ¬ d.stem <+: target) :
      LevelUnder whenEmpty ds target .off
  | empty (empty : ds = []) : LevelUnder whenEmpty ds target whenEmpty

theorem Decides.mem (decides : Decides ds target d) : d ∈ ds ∧ d.stem <+: target := by
  obtain ⟨i, found, covers, -⟩ := decides
  exact ⟨List.mem_of_getElem? found, covers⟩

theorem Decides.unique (first : Decides ds target d) (second : Decides ds target e) : d = e := by
  obtain ⟨i, atI, coversI, bestI⟩ := first
  obtain ⟨j, atJ, coversJ, bestJ⟩ := second
  have below := bestI j e atJ coversJ
  have above := bestJ i d atI coversI
  obtain shorter | ⟨same, before⟩ := below
  · obtain longer | ⟨same, -⟩ := above
    · omega
    · rw [same] at shorter
      exact absurd shorter (Nat.lt_irrefl _)
  · obtain longer | ⟨-, behind⟩ := above
    · rw [same] at longer
      exact absurd longer (Nat.lt_irrefl _)
    · obtain rfl : i = j := Nat.le_antisymm behind before
      exact Option.some.inj (atI.symm.trans atJ)

/-- A target has one level. -/
theorem LevelUnder.unique (first : LevelUnder whenEmpty ds target l)
    (second : LevelUnder whenEmpty ds target m) : l = m := by
  cases first with
  | decided decides =>
    cases second with
    | decided other => rw [decides.unique other]
    | uncovered nonempty uncovered => exact absurd decides.mem.2 (uncovered _ decides.mem.1)
    | empty empty => exact absurd decides.mem.1 (empty ▸ List.not_mem_nil)
  | uncovered nonempty uncovered =>
    cases second with
    | decided decides => exact absurd decides.mem.2 (uncovered _ decides.mem.1)
    | uncovered => rfl
    | empty empty => exact absurd empty nonempty
  | empty empty =>
    cases second with
    | decided decides => exact absurd decides.mem.1 (empty ▸ List.not_mem_nil)
    | uncovered nonempty => exact absurd empty nonempty
    | empty => rfl

/-- A weaker directive behind the others does not change what decides. -/
theorem Decides.append (decides : Decides ds target d)
    (weaker : e.stem <+: target → e.stem.length < d.stem.length) :
    Decides (ds ++ [e]) target d := by
  obtain ⟨i, found, covers, best⟩ := decides
  have inside : i < ds.length := (List.getElem?_eq_some_iff.mp found).1
  refine ⟨i, by rwa [List.getElem?_append_left inside], covers, fun j g atJ coversJ => ?_⟩
  by_cases before : j < ds.length
  · rw [List.getElem?_append_left before] at atJ
    exact best j g atJ coversJ
  · rw [List.getElem?_append_right (by omega)] at atJ
    obtain rfl : g = e := by simpa using List.mem_of_getElem? atJ
    exact .inl (weaker coversJ)

/-- A directive behind the others decides unless one of them is more specific. -/
theorem decides_append_singleton (covers : e.stem <+: target)
    (best : ∀ d ∈ ds, d.stem <+: target → d.stem.length ≤ e.stem.length) :
    Decides (ds ++ [e]) target e := by
  refine ⟨ds.length, by simp, covers, fun j g atJ coversJ => ?_⟩
  obtain inside := (List.getElem?_eq_some_iff.mp atJ).1
  have before : j ≤ ds.length := by
    simp only [List.length_append, List.length_singleton] at inside
    omega
  have known : g ∈ ds ++ [e] := List.mem_of_getElem? atJ
  have atMost : g.stem.length ≤ e.stem.length := by
    obtain found | found := List.mem_append.mp known
    · exact best g found coversJ
    · rw [List.mem_singleton.mp found]
  obtain shorter | same := Nat.lt_or_eq_of_le atMost
  · exact .inl shorter
  · have prefixed := List.prefix_of_prefix_length_le coversJ covers atMost
    exact .inr ⟨prefixed.eq_of_length same, before⟩

theorem Decides.length_le (decides : Decides ds target d) (known : e ∈ ds)
    (covers : e.stem <+: target) : e.stem.length ≤ d.stem.length := by
  obtain ⟨i, -, -, best⟩ := decides
  obtain ⟨j, found⟩ := List.mem_iff_getElem?.mp known
  obtain shorter | ⟨same, -⟩ := best j e found covers
  · exact Nat.le_of_lt shorter
  · exact Nat.le_of_eq (congrArg List.length same)

/-! ### The level of a target in a filter -/

theorem Directive.Simple.covers_iff (simple : d.Simple) : d.covers target ↔ d.stem <+: target := by
  simp [covers, isGeneral, simple.span, simple.field, stem, List.isPrefixOf_iff_prefix]

theorem Directive.replaces_iff (simple : e.Simple) :
    d.replaces e ↔ e.stem.length ≤ d.stem.length := by
  have weight : fieldAtMost e.field d.field = true := by rw [simple.field]; rfl
  have atMost : e.specificity ≤ d.specificity ↔ e.stem.length ≤ d.stem.length := by
    have named := simple.target
    unfold specificity stem
    cases targetE : e.target with
    | none => simp
    | some t =>
      have some_text : 0 < t.length := List.length_pos_iff.mpr (by simpa [targetE] using named)
      cases d.target with
      | none => simp [Nat.ne_of_gt some_text]
      | some u => simp
  rw [← atMost, Nat.le_iff_lt_or_eq]
  simp [replaces, weight]

namespace Filter

theorem deciding?_append_singleton (ds : List Directive) (d : Directive) (target : List Char) :
    (Filter.mk (ds ++ [d])).deciding? target =
      prefer target ((Filter.mk ds).deciding? target) d := by
  simp only [deciding?, List.foldl_append, List.foldl_cons, List.foldl_nil]

/-- Going through the directives leaves the one that decides, if there is one. -/
theorem deciding?_spec (simple : ∀ d ∈ ds, d.Simple) (target : List Char) :
    (∀ d, (Filter.mk ds).deciding? target = some d → Decides ds target d) ∧
      ((Filter.mk ds).deciding? target = none → ∀ d ∈ ds, ¬ d.stem <+: target) := by
  -- from behind, because the last directive is held against the best of those before it
  induction ds using List.reverseRecOn with
  | nil => exact ⟨nofun, fun _ => nofun⟩
  | append_singleton ds e ih =>
    obtain ⟨others, last⟩ := List.forall_mem_append.mp simple
    have last : e.Simple := last e (List.mem_singleton_self e)
    obtain ⟨decided, uncovered⟩ := ih others
    rw [deciding?_append_singleton]
    unfold prefer
    by_cases covers : e.covers target
    · rw [if_neg (by simpa using covers)]
      have prefixed := last.covers_iff.mp covers
      cases before : (Filter.mk ds).deciding? target with
      | none =>
        refine ⟨?_, nofun⟩
        rintro _ ⟨⟩
        exact decides_append_singleton prefixed fun d known other =>
          absurd other (uncovered before d known)
      | some b =>
        have decides := decided b before
        have known := others b decides.mem.1
        dsimp only
        split
        case isTrue replaced =>
          have longer := (Directive.replaces_iff known).mp replaced
          refine ⟨?_, nofun⟩
          rintro _ ⟨⟩
          exact decides_append_singleton prefixed fun d found other =>
            (decides.length_le found other).trans longer
        case isFalse kept =>
          have shorter := Nat.lt_of_not_le ((Directive.replaces_iff known).not.mp kept)
          refine ⟨?_, nofun⟩
          rintro _ ⟨⟩
          exact decides.append fun _ => shorter
    · rw [if_pos (by simpa using covers)]
      have apart : ¬ e.stem <+: target := last.covers_iff.not.mp covers
      refine ⟨fun d found => (decided d found).append fun prefixed => absurd prefixed apart,
        fun none_before => List.forall_mem_append.mpr ⟨uncovered none_before, ?_⟩⟩
      simpa using apart

/-- The level of a target is the one under the directives of the filter; without any, nothing
passes. -/
theorem level_eq_iff (simple : ∀ d ∈ ds, d.Simple) (nothing : ds = [] → whenEmpty = .off) :
    (Filter.mk ds).level target = l ↔ LevelUnder whenEmpty ds target l := by
  obtain ⟨decided, uncovered⟩ := deciding?_spec simple target
  have under : LevelUnder whenEmpty ds target ((Filter.mk ds).level target) := by
    unfold level
    cases found : (Filter.mk ds).deciding? target with
    | some d => exact .decided (decided d found)
    | none =>
      by_cases empty : ds = []
      · obtain rfl := nothing empty
        exact .empty empty
      · exact .uncovered empty (uncovered found)
  exact ⟨fun same => same ▸ under, fun other => under.unique other⟩

theorem level_errors (target : List Char) : errors.level target = .error := by
  simp [errors, level, deciding?, prefer, Directive.covers, Directive.isGeneral, Directive.plain]

/-- A directive that is added does not change what it does not cover. -/
theorem level_add_of_not_covers (other : d.covers target = false) :
    (f.add d).level target = f.level target := by
  have same : (f.add d).deciding? target = f.deciding? target := by
    rw [add, deciding?_append_singleton]
    exact if_pos (by simp [other])
  rw [level, level, same]

/-- A directive that is added decides about its own text. -/
theorem level_add_self (simple : ∀ e ∈ f.directives, e.Simple) (last : d.Simple) :
    (f.add d).level d.stem = d.level := by
  have all : ∀ e ∈ f.directives ++ [d], e.Simple :=
    List.forall_mem_append.mpr ⟨simple, by simpa using last⟩
  refine (level_eq_iff all fun _ => rfl).mpr (.decided ?_)
  exact decides_append_singleton (List.prefix_refl _) fun e known covers => covers.length_le

end Filter

end DeviceArrays.Logging
