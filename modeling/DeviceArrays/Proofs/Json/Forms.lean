import DeviceArrays.Json.Codec
import DeviceArrays.Proofs.Json.Writing

/-!
# JSON forms of the library's data

What is written for element types, layouts, device identifiers and settings is read back. Settings
are read from any object whose keys are texts: fields that the object leaves out keep their
defaults, and members of other names do not count, whatever they hold. A field that comes twice is
refused.
-/
namespace DeviceArrays

open Json

/-- Reads a text as a JSON value and that as what it is the form of. -/
def Json.decode? {α : Type} (ofJson? : Json → Option α) (text : String) : Option α :=
  (Json.ofText? text).bind ofJson?

variable {α : Type} {members : List (List UInt16 × Json)} {key : List UInt16} {value : Json}
  {s t : Settings} {n : Nat} {text : String}

theorem Json.decode?_eq (ofJson? : Json → Option α) {j : Json} (spelled : j.Spells text) :
    decode? ofJson? text = ofJson? j := by
  rw [decode?, ofText?_eq_some_iff.mpr spelled, Option.bind_some]

theorem Json.decode?_toText (ofJson? : Json → Option α) {j : Json} (legible : j.Legible) :
    decode? ofJson? j.toText = ofJson? j := by
  rw [decode?, ofText?_toText legible, Option.bind_some]

/-! ### Names and numbers -/

theorem Json.legible_ofNat (n : Nat) : (ofNat n).Legible := .number (Number.spells_natural n)

theorem Json.name?_ofString (name : String) : (ofString name).name? = some name :=
  stringOf?_eq_some_iff.mpr rfl

theorem Json.unitsOfString_injective {a b : String} (same : unitsOfString a = unitsOfString b) :
    a = b := by
  have read := stringOf?_eq_some_iff.mpr same
  rw [stringOf?_eq_some_iff.mpr rfl] at read
  exact Option.some.inj read

theorem Json.word?_eq_some_iff : value.word? = some n ↔ value = .ofNat n ∧ n < wordBound := by
  unfold word? ofNat
  split
  · simp only [Option.ite_none_right_eq_some, Option.some.injEq, Json.number.injEq,
      Number.natural.injEq]
    constructor
    · rintro ⟨fits, rfl⟩
      exact ⟨rfl, fits⟩
    · rintro ⟨rfl, fits⟩
      exact ⟨fits, rfl⟩
  case h_2 other =>
    simp only [reduceCtorEq, false_iff, not_and]
    rintro rfl
    exact absurd rfl (other _)

theorem ElementType.decode_toJson (t : ElementType) :
    decode? ofJson? (toJson t).toText = some t := by
  have found : ofName? t.name = some t := by
    rcases t with (_ | _ | _ | _) | (_ | _ | _ | _) | (_ | _) | (_ | _) <;> rfl
  have legible : (toJson t).Legible := .text _
  rw [decode?_toText _ legible]
  simp only [ofJson?, toJson, name?_ofString, bind, Option.bind_some, found]

theorem Layout.decode_toJson (l : Layout) : decode? ofJson? (toJson l).toText = some l := by
  have legible : (toJson l).Legible := .text _
  rw [decode?_toText _ legible]
  simp only [ofJson?, toJson, name?_ofString, bind, Option.bind_some]
  cases l <;> rfl

theorem DeviceId.decode_toJson {d : DeviceId} (fits : d.index < wordBound) :
    decode? ofJson? (toJson d).toText = some d := by
  have legible : (toJson d).Legible := legible_ofNat _
  have read : (toJson d).word? = some d.index := word?_eq_some_iff.mpr ⟨rfl, fits⟩
  rw [decode?_toText _ legible, ofJson?, read]
  rfl

/-! ### Fields of settings -/

namespace Settings

namespace Field

/-- Which JSON values are of the type of a field. -/
inductive Accepts : Field → Json → Prop
  | deviceCount {n : Nat} (fits : n < wordBound) : Accepts .deviceCount (.ofNat n)
  | blockingLaunches (value : Bool) : Accepts .blockingLaunches (.truth value)
  | noThreshold : Accepts .threshold .null
  | threshold {n : Nat} (fits : n < wordBound) : Accepts .threshold (.ofNat n)

/-- The values that stand under the name of a field, in their order. -/
def values (f : Field) (members : List (List UInt16 × Json)) : List Json :=
  (members.filter (·.1 = unitsOfString f.name)).map (·.2)

variable {f g : Field}

theorem values_cons_same (f : Field) (value : Json) (members : List (List UInt16 × Json)) :
    f.values ((unitsOfString f.name, value) :: members) = value :: f.values members := by
  simp [values]

theorem values_cons_other (other : key ≠ unitsOfString f.name) (value : Json)
    (members : List (List UInt16 × Json)) :
    f.values ((key, value) :: members) = f.values members := by
  simp [values, other]

theorem name_ne (other : g ≠ f) : unitsOfString f.name ≠ unitsOfString g.name := by
  have apart : f.name ≠ g.name := by
    cases f <;> cases g <;> first | exact absurd rfl other | decide
  exact fun same => apart (unitsOfString_injective same)

/-- The field of a name, if there is one. -/
theorem find?_name (name : String) :
    (∃ f : Field, f.name = name ∧ all.find? (·.name = name) = some f) ∨
      (∀ f : Field, f.name ≠ name) ∧ all.find? (·.name = name) = none := by
  cases found : all.find? (·.name = name) with
  | some f => exact .inl ⟨f, by simpa using List.find?_some found, rfl⟩
  | none =>
    refine .inr ⟨fun f same => ?_, rfl⟩
    have absent := List.find?_eq_none.mp found f (by cases f <;> simp [all])
    simp [same] at absent

/-- A field can be set to the values of its type, and the others stay as they are. -/
theorem exists_set? (accepts : f.Accepts value) (s : Settings) :
    ∃ t, f.set? s value = some t ∧ f.get t = value ∧ ∀ g : Field, g ≠ f → g.get t = g.get s := by
  have keeps {t : Settings} (same : ∀ g : Field, g = f ∨ g.get t = g.get s) (g : Field)
      (other : g ≠ f) : g.get t = g.get s := (same g).resolve_left other
  cases accepts with
  | @deviceCount n fits =>
    have read := word?_eq_some_iff.mpr ⟨rfl, fits⟩
    refine ⟨{ s with deviceCount := n }, by rw [set?, read]; rfl, rfl, keeps ?_⟩
    rintro (_ | _ | _) <;> simp [get]
  | blockingLaunches b =>
    refine ⟨{ s with blockingLaunches := b }, rfl, rfl, keeps ?_⟩
    rintro (_ | _ | _) <;> simp [get]
  | noThreshold =>
    refine ⟨{ s with threshold := none }, rfl, rfl, keeps ?_⟩
    rintro (_ | _ | _) <;> simp [get]
  | @threshold n fits =>
    have read : optionalWord? (.ofNat n) = some (some n) := by
      change (word? (.ofNat n)).map some = _
      rw [word?_eq_some_iff.mpr ⟨rfl, fits⟩]
      rfl
    refine ⟨{ s with threshold := some n }, by rw [set?, read]; rfl, rfl, keeps ?_⟩
    rintro (_ | _ | _) <;> simp [get]

/-- A field can be set to the values of its type alone. -/
theorem accepts_of_set? (set : f.set? s value = some t) : f.Accepts value := by
  cases f with
  | deviceCount =>
    obtain ⟨n, read, -⟩ := Option.map_eq_some_iff.mp set
    obtain ⟨rfl, fits⟩ := word?_eq_some_iff.mp read
    exact .deviceCount fits
  | blockingLaunches =>
    obtain ⟨b, read, -⟩ := Option.map_eq_some_iff.mp set
    cases value <;> cases read
    exact .blockingLaunches b
  | threshold =>
    obtain ⟨n, read, -⟩ := Option.map_eq_some_iff.mp set
    unfold optionalWord? at read
    split at read
    · exact .noThreshold
    · obtain ⟨n, read, -⟩ := Option.map_eq_some_iff.mp read
      obtain ⟨rfl, fits⟩ := word?_eq_some_iff.mp read
      exact .threshold fits

end Field

/-- The forms of the fields determine the settings. -/
theorem eq_of_get (same : ∀ f : Field, f.get s = f.get t) : s = t := by
  have deviceCount := same .deviceCount
  have blockingLaunches := same .blockingLaunches
  have threshold := same .threshold
  obtain ⟨count, blocking, none | limit⟩ := s <;> obtain ⟨count', blocking', none | limit'⟩ := t <;>
    simp_all [Field.get, ofNat]

/-- All keys are texts. A surrogate that stands alone is none. -/
def TextKeys (members : List (List UInt16 × Json)) : Prop :=
  ∀ m ∈ members, ∃ name, m.1 = unitsOfString name

/-- What the members of an object make of settings, some fields of which have been read. -/
structure Overrides (s : Settings) (seen : List Field) (members : List (List UInt16 × Json))
    (t : Settings) : Prop where
  keys : TextKeys members
  fields : ∀ f : Field, (f.values members = [] ∧ f.get t = f.get s) ∨
    f ∉ seen ∧ ∃ value, f.values members = [value] ∧ f.Accepts value ∧ f.get t = value

variable {seen : List Field} {f : Field} {name : String}

theorem overrides_nil : Overrides s seen [] t ↔ s = t := by
  constructor
  · rintro ⟨-, fields⟩
    refine eq_of_get fun f => ?_
    obtain ⟨-, same⟩ | ⟨-, value, one, -⟩ := fields f
    · exact same.symm
    · cases one
  · rintro rfl
    exact ⟨nofun, fun f => .inl ⟨rfl, rfl⟩⟩

theorem textKeys_cons : TextKeys ((key, value) :: members) ↔
    (∃ name, key = unitsOfString name) ∧ TextKeys members := List.forall_mem_cons

/-- A member of another name does not count. -/
theorem overrides_cons_unknown (unknown : ∀ f : Field, f.name ≠ name) :
    Overrides s seen ((unitsOfString name, value) :: members) t ↔ Overrides s seen members t := by
  have skipped (f : Field) : f.values ((unitsOfString name, value) :: members) = f.values members :=
    Field.values_cons_other (fun same => unknown f (unitsOfString_injective same).symm) _ _
  constructor
  · rintro ⟨keys, fields⟩
    exact ⟨(textKeys_cons.mp keys).2, fun f => by simpa only [skipped] using fields f⟩
  · rintro ⟨keys, fields⟩
    exact ⟨textKeys_cons.mpr ⟨⟨name, rfl⟩, keys⟩, fun f => by simpa only [skipped] using fields f⟩

/-- A field counts once. -/
theorem not_overrides_cons_seen (again : f ∈ seen) :
    ¬ Overrides s seen ((unitsOfString f.name, value) :: members) t := by
  intro overrides
  obtain ⟨none, -⟩ | ⟨fresh, -⟩ := overrides.fields f
  · rw [Field.values_cons_same] at none
    cases none
  · exact fresh again

/-- A member of a field's name sets the field and leaves the others to the later members. -/
theorem overrides_cons_field (fresh : f ∉ seen) :
    Overrides s seen ((unitsOfString f.name, value) :: members) t ↔
      ∃ next, f.set? s value = some next ∧ Overrides next (f :: seen) members t := by
  have other {g : Field} (apart : g ≠ f) :
      g.values ((unitsOfString f.name, value) :: members) = g.values members :=
    Field.values_cons_other (Field.name_ne apart) _ _
  constructor
  · rintro ⟨keys, fields⟩
    obtain ⟨none, -⟩ | ⟨-, only, one, accepts, got⟩ := fields f
    · rw [Field.values_cons_same] at none
      cases none
    rw [Field.values_cons_same, List.cons_eq_cons] at one
    obtain ⟨rfl, later⟩ := one
    obtain ⟨next, set, now, kept⟩ := Field.exists_set? accepts s
    refine ⟨next, set, (textKeys_cons.mp keys).2, fun g => ?_⟩
    by_cases same : g = f
    · subst same
      exact .inl ⟨later, got.trans now.symm⟩
    · simpa only [other same, kept g same, List.mem_cons, same, false_or] using fields g
  · rintro ⟨next, set, keys, fields⟩
    have accepts := Field.accepts_of_set? set
    obtain ⟨next', set', now, kept⟩ := Field.exists_set? accepts s
    obtain rfl : next = next' := Option.some.inj (set.symm.trans set')
    refine ⟨textKeys_cons.mpr ⟨⟨_, rfl⟩, keys⟩, fun g => ?_⟩
    by_cases same : g = f
    · subst same
      obtain ⟨later, got⟩ | ⟨again, -⟩ := fields g
      · refine .inr ⟨fresh, value, ?_, accepts, got.trans now⟩
        rw [Field.values_cons_same, later]
      · exact absurd List.mem_cons_self again
    · simpa only [other same, kept g same, List.mem_cons, same, false_or] using fields g

/-- Members are read as what they make of the settings. -/
theorem ofMembers?_eq_some_iff :
    ofMembers? s seen members = some t ↔ Overrides s seen members t := by
  -- the settings and the fields that were seen change with every member that is known
  induction members generalizing s seen with
  | nil => rw [ofMembers?, Option.some.injEq, overrides_nil]
  | cons member members ih =>
    obtain ⟨key, value⟩ := member
    rw [ofMembers?, Option.bind_eq_bind, Option.bind_eq_some_iff]
    simp only [stringOf?_eq_some_iff]
    constructor
    · rintro ⟨name, rfl, read⟩
      obtain ⟨f, rfl, known⟩ | ⟨unknown, absent⟩ := Field.find?_name name
      · simp only [known] at read
        split at read
        · cases read
        case isFalse fresh =>
          obtain ⟨next, set, later⟩ := Option.bind_eq_some_iff.mp read
          exact (overrides_cons_field fresh).mpr ⟨next, set, ih.mp later⟩
      · simp only [absent] at read
        exact (overrides_cons_unknown unknown).mpr (ih.mp read)
    · intro overrides
      obtain ⟨name, rfl⟩ := (textKeys_cons.mp overrides.keys).1
      refine ⟨name, rfl, ?_⟩
      obtain ⟨f, rfl, known⟩ | ⟨unknown, absent⟩ := Field.find?_name name
      · have fresh : f ∉ seen := fun again => not_overrides_cons_seen again overrides
        obtain ⟨next, set, later⟩ := (overrides_cons_field fresh).mp overrides
        simp only [known, if_neg fresh]
        exact Option.bind_eq_some_iff.mpr ⟨next, set, ih.mpr later⟩
      · simp only [absent]
        exact ih.mpr ((overrides_cons_unknown unknown).mp overrides)

/-- The fields can have any values of their types, each by itself. -/
theorem exists_get_eq {wanted : Field → Option Json}
    (accepted : ∀ f : Field, ∀ value ∈ wanted f, f.Accepts value) (s : Settings) :
    ∃ t : Settings, ∀ f : Field, f.get t = (wanted f).getD (f.get s) := by
  have some_fields (fields : List Field) : ∃ t : Settings, ∀ f : Field,
      f.get t = if f ∈ fields then (wanted f).getD (f.get s) else f.get s := by
    induction fields with
    | nil => exact ⟨s, fun f => rfl⟩
    | cons f fields ih =>
      obtain ⟨t, got⟩ := ih
      cases wants : wanted f with
      | none =>
        refine ⟨t, fun g => ?_⟩
        by_cases same : g = f
        · simp [got, same, wants]
        · simp [got, same]
      | some value =>
        obtain ⟨t', -, now, kept⟩ := Field.exists_set? (accepted f value wants) t
        refine ⟨t', fun g => ?_⟩
        by_cases same : g = f
        · subst same
          simp [now, wants]
        · simp [kept g same, got, same]
  obtain ⟨t, got⟩ := some_fields Field.all
  exact ⟨t, fun f => by rw [got, if_pos (by cases f <;> decide)]⟩

theorem exists_ofMembers? (keys : TextKeys members)
    (once : ∀ f : Field, f.values members = [] ∨ ∃ value, f.values members = [value] ∧
      f.Accepts value) :
    ∃ t, ofMembers? s [] members = some t ∧
      ∀ f : Field, f.get t = (f.values members).headD (f.get s) := by
  have accepted (f : Field) : ∀ value ∈ (f.values members).head?, f.Accepts value := by
    obtain none | ⟨value, one, accepts⟩ := once f
    · rw [none]
      nofun
    · rw [one]
      rintro _ ⟨⟩
      exact accepts
  obtain ⟨t, got⟩ := exists_get_eq accepted s
  refine ⟨t, ofMembers?_eq_some_iff.mpr ⟨keys, fun f => ?_⟩, fun f => ?_⟩
  · obtain none | ⟨value, one, accepts⟩ := once f
    · exact .inl ⟨none, by rw [got, none]; rfl⟩
    · exact .inr ⟨List.not_mem_nil, value, one, accepts, by rw [got, one]; rfl⟩
  · rw [got, List.headD_eq_head?_getD]

theorem ofMembers?_twice {f : Field} (twice : 1 < (f.values members).length) :
    ofMembers? s seen members = none := by
  refine Option.eq_none_iff_forall_ne_some.mpr fun t read => ?_
  obtain ⟨none, -⟩ | ⟨-, value, one, -⟩ := (ofMembers?_eq_some_iff.mp read).fields f
  · simp [none] at twice
  · simp [one] at twice

theorem ofMembers?_notText (keys : ¬ TextKeys members) : ofMembers? s seen members = none :=
  Option.eq_none_iff_forall_ne_some.mpr fun _ read => keys (ofMembers?_eq_some_iff.mp read).keys

/-- Settings have all their fields written, in words that can be read. -/
theorem decode_toJson {s : Settings} (count : s.deviceCount < wordBound)
    (threshold : ∀ n ∈ s.threshold, n < wordBound) :
    decode? ofJson? s.toJson.toText = some s := by
  have legible : s.toJson.Legible := by
    refine .object fun m found => ?_
    obtain ⟨f, -, rfl⟩ := List.mem_map.mp found
    cases f with
    | deviceCount => exact legible_ofNat _
    | blockingLaunches => exact .truth _
    | threshold =>
      obtain ⟨count, blocking, none | n⟩ := s
      · exact .null
      · exact legible_ofNat _
  have one (f : Field) : f.values (Field.all.map fun f => (unitsOfString f.name, f.get s)) =
      [f.get s] := by
    cases f <;> rfl
  rw [decode?_toText _ legible]
  refine ofMembers?_eq_some_iff.mpr ⟨fun m found => ?_, fun f => ?_⟩
  · obtain ⟨f, -, rfl⟩ := List.mem_map.mp found
    exact ⟨f.name, rfl⟩
  · refine .inr ⟨List.not_mem_nil, f.get s, one f, ?_, rfl⟩
    cases f with
    | deviceCount => exact .deviceCount count
    | blockingLaunches => exact .blockingLaunches _
    | threshold =>
      obtain ⟨count, blocking, none | n⟩ := s
      · exact .noThreshold
      · exact .threshold (threshold n rfl)

end Settings

/-- What is written is read back. Every text of an object whose keys are texts is read as settings
if it has the known fields at most once, with values of their types: they override the defaults, and
nothing else counts. A known field that comes twice is refused, and so is a key that is no text. -/
theorem json_forms_are_read_back :
    (∀ s : Settings, s.deviceCount < wordBound → (∀ n ∈ s.threshold, n < wordBound) →
      decode? Settings.ofJson? s.toJson.toText = some s) ∧
    (∀ t : ElementType, decode? ElementType.ofJson? t.toJson.toText = some t) ∧
    (∀ l : Layout, decode? Layout.ofJson? l.toJson.toText = some l) ∧
    (∀ d : DeviceId, d.index < wordBound → decode? DeviceId.ofJson? d.toJson.toText = some d) ∧
    ∀ text members, (Json.object members).Spells text →
      (Settings.TextKeys members →
        (∀ f : Settings.Field, f.values members = [] ∨
          ∃ value, f.values members = [value] ∧ f.Accepts value) →
        ∃ s, decode? Settings.ofJson? text = some s ∧
          ∀ f : Settings.Field, f.get s = (f.values members).headD (f.get {})) ∧
      ((∃ f : Settings.Field, 1 < (f.values members).length) →
        decode? Settings.ofJson? text = none) ∧
      (¬ Settings.TextKeys members → decode? Settings.ofJson? text = none) := by
  refine ⟨fun s => Settings.decode_toJson, ElementType.decode_toJson, Layout.decode_toJson,
    fun d => DeviceId.decode_toJson, fun text members spelled => ?_⟩
  rw [decode?_eq Settings.ofJson? spelled]
  exact ⟨Settings.exists_ofMembers?, fun ⟨f, twice⟩ => Settings.ofMembers?_twice twice,
    Settings.ofMembers?_notText⟩

/-- The largest words are read back. A key with an escape is the key it stands for, and the same key
further inside does not count; the key may not come again, and a surrogate is no key. -/
theorem json_forms_are_read_back_largest_words :
    let most : Settings :=
      { deviceCount := 18446744073709551615, threshold := some 18446744073709551615 }
    decode? Settings.ofJson? most.toJson.toText = some most ∧
    decode? DeviceId.ofJson? (DeviceId.mk 18446744073709551615).toJson.toText =
      some ⟨18446744073709551615⟩ ∧
    (decode? Settings.ofJson?
      "\x7b\"note\": [\x7b\"device_count\": 0\x7d, -1.5e3],\n\"device\\u005Fcount\": 3\x7d").map
        (Settings.Field.get · .deviceCount) = some (.ofNat 3) ∧
    decode? Settings.ofJson?
      "\x7b\"perf_threshold_us\":1,\"perf_threshold\\u005fus\":null\x7d" = none ∧
    decode? Settings.ofJson? "\x7b\"\\uDC00\":null\x7d" = none := by
  intro most
  obtain ⟨settings, -, -, devices, objects⟩ := json_forms_are_read_back
  refine ⟨settings most (by decide) ?_, devices _ (by decide), ?_, ?_, ?_⟩
  · rintro _ ⟨⟩
    decide
  · obtain ⟨read, -⟩ := objects
      "\x7b\"note\": [\x7b\"device_count\": 0\x7d, -1.5e3],\n\"device\\u005Fcount\": 3\x7d"
      [(unitsOfString "note", .array
        [.object [(unitsOfString "device_count", .ofNat 0)], .number (.other "-1.5e3".toList)]),
        (unitsOfString "device_count", .ofNat 3)] (ofText?_eq_some_iff.mp (by rfl))
    obtain ⟨s, decoded, got⟩ := read
      (Settings.textKeys_cons.mpr ⟨⟨_, rfl⟩, Settings.textKeys_cons.mpr ⟨⟨_, rfl⟩, nofun⟩⟩)
      (fun f => by
        cases f with
        | deviceCount => exact .inr ⟨.ofNat 3, rfl, .deviceCount (by decide)⟩
        | blockingLaunches => exact .inl rfl
        | threshold => exact .inl rfl)
    rw [decoded, Option.map_some, got]
    rfl
  · have spelled : (Json.object [(unitsOfString "perf_threshold_us", .ofNat 1),
        (unitsOfString "perf_threshold_us", .null)]).Spells
        "\x7b\"perf_threshold_us\":1,\"perf_threshold\\u005fus\":null\x7d" :=
      ofText?_eq_some_iff.mp (by rfl)
    exact (objects _ _ spelled).2.1 ⟨.threshold, by decide⟩
  · have spelled : (Json.object [([0xdc00], .null)]).Spells "\x7b\"\\uDC00\":null\x7d" :=
      ofText?_eq_some_iff.mp (by rfl)
    refine (objects _ _ spelled).2.2 fun keys => ?_
    obtain ⟨name, same⟩ := (Settings.textKeys_cons.mp keys).1
    have read := stringOf?_eq_some_iff.mpr same
    cases read

/-- An object may have a key that is no text: it is refused, though it has no field at all. -/
theorem lone_surrogate_key_is_refused :
    ¬ ∀ text members, (Json.object members).Spells text →
      (∀ f : Settings.Field, f.values members = [] ∨
        ∃ value, f.values members = [value] ∧ f.Accepts value) →
      ∃ s, decode? Settings.ofJson? text = some s ∧
        ∀ f : Settings.Field, f.get s = (f.values members).headD (f.get {}) := by
  intro every
  have spelled : (Json.object [([0xd800], .ofNat 1)]).Spells "\x7b\"\\ud800\":1\x7d" :=
    ofText?_eq_some_iff.mp (by rfl)
  obtain ⟨s, decoded, -⟩ := every _ _ spelled fun f => .inl (by cases f <;> rfl)
  rw [decode?_eq _ spelled] at decoded
  cases decoded

end DeviceArrays
