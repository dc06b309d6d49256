import DeviceArrays.Logging.Settings
import DeviceArrays.Proofs.Logging.Deciding

/-!
# The flag for timings

The filter of some settings has the directives of one source and behind them one about timings. The
source is the list in the settings, else the one in the environment if it is right, else what can be
read of the default. About the target of timings the flag decides, whatever the source says, and the
flag leaves alone every target that does not begin with it.
-/
namespace DeviceArrays.Logging

variable {s : Settings} {fromEnvironment : Option String}

/-- The directives of the source that counts, and the level that every target has if there are none
in it: errors pass only for the default, which is read leniently. -/
inductive Chosen (s : Settings) (fromEnvironment : Option String) : List Directive → Level → Prop
  | own {text : String} {ds : List Directive} (given : s.directives = some text)
      (listed : Listed text ds) : Chosen s fromEnvironment ds .off
  | environment {text : String} {ds : List Directive} (absent : s.directives = none)
      (given : fromEnvironment = some text) (listed : Listed text ds) :
      Chosen s fromEnvironment ds .off
  | default {ds : List Directive} (absent : s.directives = none)
      (unusable : ∀ text ∈ fromEnvironment, ∀ ds, ¬ Listed text ds)
      (picked : PickedFrom s.defaultDirective ds) : Chosen s fromEnvironment ds .error

/-- The settings have a list of directives that is none. -/
def Settings.Refused (s : Settings) : Prop :=
  ∃ text, s.directives = some text ∧ ∀ ds, ¬ Listed text ds

/-- The filter gives targets the levels under some directives. -/
structure Filter.Gives (f : Filter) (ds : List Directive) (whenEmpty : Level) : Prop where
  simple : ∀ d ∈ f.directives, d.Simple
  level (target : List Char) (l : Level) : f.level target = l ↔ LevelUnder whenEmpty ds target l

theorem Listed.gives {text : String} {ds : List Directive} (listed : Listed text ds) :
    (Filter.mk ds).Gives ds .off := by
  obtain ⟨parts, -, phrases⟩ := listed
  have simple := simple_of_forall₂ phrases
  exact ⟨simple, fun target l => Filter.level_eq_iff simple fun _ => rfl⟩

theorem PickedFrom.gives {text : String} {ds : List Directive} (picked : PickedFrom text ds) :
    (if ds = [] then Filter.errors else ⟨ds⟩).Gives ds .error := by
  obtain ⟨parts, -, picked⟩ := picked
  split
  case isTrue empty =>
    subst empty
    have simple : (Directive.plain none .error).Simple := ⟨rfl, rfl, nofun⟩
    refine ⟨by simpa [Filter.errors] using simple, fun target l => ?_⟩
    have under : LevelUnder .error [] target .error := .empty rfl
    rw [Filter.level_errors]
    exact ⟨fun same => same ▸ under, fun other => under.unique other⟩
  case isFalse nonempty =>
    have simple := simple_of_picked picked
    exact ⟨simple, fun target l => Filter.level_eq_iff simple fun empty => absurd empty nonempty⟩

namespace Settings

theorem source_of_refused (own : ∀ text ∈ s.directives, Unscoped text) (refused : s.Refused) :
    ∃ problem, s.source fromEnvironment = .error problem := by
  obtain ⟨text, given, unlisted⟩ := refused
  have unscoped := own text given
  simp only [source, given]
  cases read : Filter.ofText text with
  | error problem => exact ⟨problem, rfl⟩
  | ok f =>
    obtain ⟨ds, listed, -⟩ := (Filter.ofText_eq_ok_iff unscoped).mp read
    exact absurd listed (unlisted ds)

/-- Settings whose own list is right, if they have one, have a source. -/
theorem exists_source (own : ∀ text ∈ s.directives, Unscoped text)
    (given : ∀ text ∈ fromEnvironment, Unscoped text) (default : Unscoped s.defaultDirective)
    (accepted : ¬ s.Refused) : ∃ f ds whenEmpty, s.source fromEnvironment = .ok f ∧
      Chosen s fromEnvironment ds whenEmpty ∧ f.Gives ds whenEmpty := by
  cases has : s.directives with
  | some text =>
    have listed : ∃ ds, Listed text ds := by
      by_contra unlisted
      exact accepted ⟨text, has, not_exists.mp unlisted⟩
    obtain ⟨ds, listed⟩ := listed
    have read := (Filter.ofText_eq_ok_iff (own text has)).mpr ⟨ds, listed, rfl⟩
    exact ⟨⟨ds⟩, ds, .off, by simp only [source, has, read], .own has listed, listed.gives⟩
  | none =>
    by_cases usable : ∃ text, fromEnvironment = some text ∧ ∃ ds, Listed text ds
    · obtain ⟨text, rfl, ds, listed⟩ := usable
      have read := (Filter.ofText_eq_ok_iff (given text rfl)).mpr ⟨ds, listed, rfl⟩
      exact ⟨⟨ds⟩, ds, .off, by simp only [source, has, Option.map_some, read],
        .environment has rfl listed, listed.gives⟩
    · have unusable : ∀ text ∈ fromEnvironment, ∀ ds, ¬ Listed text ds :=
        fun text found ds listed => usable ⟨text, found, ds, listed⟩
      obtain ⟨ds, picked, lenient⟩ := Filter.exists_ofTextLeniently default
      refine ⟨_, ds, .error, ?_, .default has unusable picked, picked.gives⟩
      rw [← lenient]
      simp only [source, has]
      cases fromEnvironment with
      | none => rfl
      | some text =>
        cases read : Filter.ofText text with
        | error problem => simp only [Option.map_some, read]
        | ok f =>
          obtain ⟨ds, listed, -⟩ := (Filter.ofText_eq_ok_iff (given text rfl)).mp read
          exact absurd listed (unusable text rfl ds)

theorem simple_timingDirective (s : Settings) : s.timingDirective.Simple := by
  have named : some timingTarget.toList ≠ some [] := by decide
  exact ⟨rfl, rfl, named⟩

theorem covers_timingDirective {target : List Char}
    (apart : ¬ timingTarget.toList <+: target) : s.timingDirective.covers target = false :=
  Bool.eq_false_iff.mpr (s.simple_timingDirective.covers_iff.not.mpr apart)

end Settings

/-- Settings have a filter unless their own list of directives is none. In the filter the flag alone
decides about timings, and targets that do not begin as theirs does have the levels that the chosen
source gives them. -/
theorem timing_flag_alone_decides (own : ∀ text ∈ s.directives, Unscoped text)
    (given : ∀ text ∈ fromEnvironment, Unscoped text) (default : Unscoped s.defaultDirective) :
    ((∃ problem, s.filter fromEnvironment = .error (.badFilter problem)) ↔ s.Refused) ∧
    (¬ s.Refused → ∃ f, s.filter fromEnvironment = .ok f ∧
      f.level timingTarget.toList = (if s.timings then .debug else .off) ∧
      ∃ ds whenEmpty, Chosen s fromEnvironment ds whenEmpty ∧
        ∀ target, ¬ timingTarget.toList <+: target →
          ∀ l, f.level target = l ↔ LevelUnder whenEmpty ds target l) := by
  have built (accepted : ¬ s.Refused) : ∃ f, s.filter fromEnvironment = .ok f ∧
      f.level timingTarget.toList = (if s.timings then .debug else .off) ∧
      ∃ ds whenEmpty, Chosen s fromEnvironment ds whenEmpty ∧
        ∀ target, ¬ timingTarget.toList <+: target →
          ∀ l, f.level target = l ↔ LevelUnder whenEmpty ds target l := by
    obtain ⟨f, ds, whenEmpty, source, chosen, gives⟩ :=
      Settings.exists_source own given default accepted
    refine ⟨f.add s.timingDirective, by rw [Settings.filter, source], ?_, ds, whenEmpty, chosen,
      fun target apart l => ?_⟩
    · exact Filter.level_add_self gives.simple s.simple_timingDirective
    · rw [Filter.level_add_of_not_covers (Settings.covers_timingDirective apart)]
      exact gives.level target l
  refine ⟨⟨fun ⟨problem, failed⟩ => ?_, fun refused => ?_⟩, built⟩
  · by_contra accepted
    obtain ⟨f, succeeded, -⟩ := built accepted
    rw [succeeded] at failed
    cases failed
  · obtain ⟨problem, failed⟩ := Settings.source_of_refused own refused
    exact ⟨problem, by rw [Settings.filter, failed]⟩

/-- A list in the environment that is wrong leaves the default, where a bad part and a directive
about timings do no harm. A list in the settings that is wrong is refused. -/
theorem timing_flag_alone_decides_default :
    let quiet : Settings :=
      { Settings.ci with defaultDirective := "offload=warn,=,offload=INFO,offload_perf=trace" }
    let wrong : Settings := { quiet with directives := some "offload=loud" }
    (∃ f, quiet.filter (some "offload_perf=loud") = .ok f ∧
      f.level "offload_perf".toList = .off ∧ f.level "offload_core".toList = .info) ∧
    ∃ problem, wrong.filter none = .error (.badFilter problem) := by
  intro quiet wrong
  have default : Unscoped quiet.defaultDirective := unscoped_of_noBracket (by decide)
  have given : ∀ text ∈ some "offload_perf=loud", Unscoped text := by
    rintro _ ⟨⟩
    exact unscoped_of_noBracket (by decide)
  have own : ∀ text ∈ wrong.directives, Unscoped text := by
    rintro _ ⟨⟩
    exact unscoped_of_noBracket (by decide)
  have refused : wrong.Refused := by
    refine ⟨_, rfl, fun ds listed => ?_⟩
    have read := (Filter.ofText_eq_ok_iff (own _ rfl)).mpr ⟨ds, listed, rfl⟩
    have failed : Filter.ofText "offload=loud" = .error .unknownLevel := rfl
    rw [failed] at read
    cases read
  have accepted : ¬ quiet.Refused := by
    rintro ⟨text, absent, -⟩
    cases absent
  have absent : ∀ text ∈ quiet.directives, Unscoped text := by
    rintro _ ⟨⟩
  constructor
  · obtain ⟨f, built, timings, -⟩ := (timing_flag_alone_decides absent given default).2 accepted
    have level : (quiet.filter (some "offload_perf=loud")).toOption.map
        (·.level "offload_core".toList) = some .info := by
      decide +kernel
    rw [built] at level
    exact ⟨f, built, timings, Option.some.inj level⟩
  · have none_given : ∀ text ∈ (none : Option String), Unscoped text := nofun
    exact (timing_flag_alone_decides own none_given default).1.mpr refused

/-- An empty list in the settings holds no directive at all, and no errors pass through it. -/
theorem empty_list_lets_nothing_through :
    ¬ ∀ (s : Settings) (fromEnvironment : Option String),
      (∀ text ∈ s.directives, Unscoped text) → (∀ text ∈ fromEnvironment, Unscoped text) →
      Unscoped s.defaultDirective → ∀ f, s.filter fromEnvironment = .ok f →
        ∃ ds whenEmpty, Chosen s fromEnvironment ds whenEmpty ∧
          ∀ target, ¬ timingTarget.toList <+: target →
            ∀ l, f.level target = l ↔ LevelUnder .error ds target l := by
  intro every
  let silent : Settings := { Settings.ci with directives := some "" }
  have own : ∀ text ∈ silent.directives, Unscoped text := by
    rintro _ ⟨⟩
    exact unscoped_of_noBracket (by decide)
  have none_given : ∀ text ∈ (none : Option String), Unscoped text := nofun
  have default : Unscoped silent.defaultDirective := unscoped_of_noBracket (by decide)
  obtain ⟨ds, whenEmpty, chosen, levels⟩ := every silent none own none_given default _ rfl
  have empty : ds = [] := by
    cases chosen with
    | own given listed =>
      cases given
      obtain ⟨parts, split, phrases⟩ := listed
      rw [split.eq] at phrases
      exact List.forall₂_nil_left_iff.mp phrases
    | environment absent => cases absent
    | default absent => cases absent
  subst empty
  have passes := (levels "other".toList (by decide) .error).mpr (.empty rfl)
  exact absurd passes (by decide)

end DeviceArrays.Logging
