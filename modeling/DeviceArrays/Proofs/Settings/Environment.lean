import DeviceArrays.Platform
import DeviceArrays.Proofs.Solo.Calls
import DeviceArrays.Proofs.Text.Numerals
import DeviceArrays.Settings.Environment

/-!
# Settings that the environment asks for

Each of three variables decides one field of the settings, and a text that says nothing of the kind
leaves the default. What says something is described by `Environment.Counts` and
`Environment.Affirms` without reading. A platform can always be created with such settings.
-/
namespace DeviceArrays

variable {α β : Type} {env other : Environment} {name : String} {n : Nat} {w : World}

namespace Environment

/-- A variable is set to a numeral of a machine word, blank space around it allowed. -/
def Counts (env : Environment) (name : String) (n : Nat) : Prop :=
  ∃ text word, env name = some text ∧ Trims text.toList word ∧ Numeral word n ∧ n < wordBound

/-- A variable is set to a word of consent in letters of any case, blank space around it allowed. -/
def Affirms (env : Environment) (name : String) : Prop :=
  ∃ text word, env name = some text ∧ Trims text.toList word ∧
    lowerCase word ∈ ["true".toList, "1".toList, "yes".toList]

theorem natural?_eq_some_iff : env.natural? name = some n ↔ env.Counts name n := by
  simp only [natural?, Counts, bind, Option.bind_eq_some_iff, readNatural?_eq_some_iff,
    ← trimBlank_eq_iff]
  constructor
  · rintro ⟨text, found, numeral, fits⟩
    exact ⟨text, _, found, rfl, numeral, fits⟩
  · rintro ⟨text, _, found, rfl, numeral, fits⟩
    exact ⟨text, found, numeral, fits⟩

theorem truth?_eq_some_true_iff : env.truth? name = some true ↔ env.Affirms name := by
  have consents (cs : List Char) : String.ofList cs ∈ ["true", "1", "yes"] ↔
      cs ∈ ["true".toList, "1".toList, "yes".toList] := by
    simp only [List.mem_cons, List.not_mem_nil, or_false, ← String.toList_inj,
      String.toList_ofList]
  have answer (word : String) : (if word ∈ ["true", "1", "yes"] then some true
      else if word ∈ ["false", "0", "no"] then some false else none) = some true ↔
      word ∈ ["true", "1", "yes"] := by
    split
    case isTrue consent => simp [consent]
    case isFalse refusal => split <;> simp [refusal]
  simp only [truth?, Affirms, bind, Option.bind_eq_some_iff, answer]
  simp only [consents, ← trimBlank_eq_iff]
  constructor
  · rintro ⟨text, found, consent⟩
    exact ⟨text, _, found, rfl, consent⟩
  · rintro ⟨text, _, found, rfl, consent⟩
    exact ⟨text, found, consent⟩

theorem natural?_congr (same : other name = env name) :
    other.natural? name = env.natural? name := by
  rw [natural?, natural?, same]

theorem truth?_congr (same : other name = env name) : other.truth? name = env.truth? name := by
  rw [truth?, truth?, same]

end Environment

namespace Settings

theorem deviceCount_ofEnvironment_iff : (ofEnvironment env).deviceCount = n ↔
    (0 < n ∧ env.Counts "OFFLOAD_DEVICE_COUNT" n) ∨
      n = 1 ∧ ∀ m, 0 < m → ¬ env.Counts "OFFLOAD_DEVICE_COUNT" m := by
  simp only [← Environment.natural?_eq_some_iff]
  change ((env.natural? "OFFLOAD_DEVICE_COUNT").filter (0 < ·)).getD 1 = n ↔ _
  cases env.natural? "OFFLOAD_DEVICE_COUNT" with
  | none => simp [eq_comm]
  | some m =>
    by_cases positive : 0 < m
    · simp only [Option.filter_some, positive, decide_true, if_true, Option.getD_some,
        Option.some.injEq]
      refine ⟨fun same => .inl ⟨same ▸ positive, same⟩, ?_⟩
      rintro (⟨-, same⟩ | ⟨-, absent⟩)
      · exact same
      · exact absurd rfl (absent m positive)
    · obtain rfl : m = 0 := by omega
      simp only [Option.filter_some, lt_irrefl, decide_false, Bool.false_eq_true, if_false,
        Option.getD_none, Option.some.injEq]
      refine ⟨fun same => .inr ⟨same.symm, fun m positive => positive.ne⟩, ?_⟩
      rintro (⟨positive, rfl⟩ | ⟨rfl, -⟩)
      · exact absurd positive (lt_irrefl 0)
      · rfl

theorem blockingLaunches_ofEnvironment_iff : (ofEnvironment env).blockingLaunches = true ↔
    env.Affirms "OFFLOAD_BLOCKING_LAUNCHES" := by
  rw [← Environment.truth?_eq_some_true_iff]
  change (env.truth? "OFFLOAD_BLOCKING_LAUNCHES").getD false = true ↔ _
  cases env.truth? "OFFLOAD_BLOCKING_LAUNCHES" <;> simp

theorem threshold_ofEnvironment_iff : (ofEnvironment env).threshold = some n ↔
    env.Counts "OFFLOAD_PERF_THRESHOLD_US" n :=
  Environment.natural?_eq_some_iff

theorem deviceCount_congr (same : other "OFFLOAD_DEVICE_COUNT" = env "OFFLOAD_DEVICE_COUNT") :
    (ofEnvironment other).deviceCount = (ofEnvironment env).deviceCount := by
  simp only [ofEnvironment, Environment.natural?_congr same]

theorem blockingLaunches_congr
    (same : other "OFFLOAD_BLOCKING_LAUNCHES" = env "OFFLOAD_BLOCKING_LAUNCHES") :
    (ofEnvironment other).blockingLaunches = (ofEnvironment env).blockingLaunches := by
  simp only [ofEnvironment, Environment.truth?_congr same]

theorem deviceCount_ofEnvironment_pos : 0 < (ofEnvironment env).deviceCount := by
  obtain ⟨positive, -⟩ | ⟨one, -⟩ := deviceCount_ofEnvironment_iff.mp (Eq.refl _)
  · exact positive
  · omega

end Settings

/-! ### Platforms -/

theorem Call.run_bind_of_ok {c : Call α} {f : α → Call β} {a : α} {after : World}
    (first : Client.run c.run w = (.ok a, after)) :
    Client.run (c >>= f).run w = Client.run (f a).run after := by
  refine (Client.run_bind _ _ _).trans ?_
  change (ExceptT.bindCont f (Client.run c.run _).1).run (Client.run c.run _).2 = _
  rw [first]
  rfl

theorem exists_run_createDevices (library : Library) (indices : List Nat) (opened : List Device)
    (w : World) : ∃ devices after,
      Client.run (List.mapM.loop (fun i => Device.create ⟨i⟩ library) indices opened).run w =
          (.ok (opened.reverse ++ devices), after) ∧
        devices.map Device.id = indices.map DeviceId.mk := by
  induction indices generalizing opened w with
  | nil =>
    refine ⟨[], w, ?_, rfl⟩
    rw [List.append_nil]
    rfl
  | cons i indices ih =>
    let device : Device := ⟨w.memories.length, ⟨i⟩, library⟩
    obtain ⟨devices, after, rest, ids⟩ :=
      ih (device :: opened) (Action.openDevice.perform w).2.settle
    refine ⟨device :: devices, after, ?_, by simp [device, ids]⟩
    rw [List.reverse_cons, List.append_assoc] at rest
    exact rest

/-- Settings that ask for a device are enough: the platform has as many devices as they ask for,
numbered from zero. -/
theorem exists_run_create {s : Settings} (positive : 0 < s.deviceCount) (w : World) :
    ∃ p after, Client.run (Platform.create s).run w = (.ok p, after) ∧ p.settings = s ∧
      p.devices.map Device.id = (List.range s.deviceCount).map DeviceId.mk := by
  obtain ⟨devices, after, opened, ids⟩ :=
    exists_run_createDevices Library.standard (List.range s.deviceCount) [] w
  refine ⟨⟨devices, s⟩, after, ?_, rfl, ids⟩
  unfold Platform.create
  rw [if_neg positive.ne']
  exact Call.run_bind_of_ok opened

/-- The environment decides the settings field by field. The device count is the positive numeral of
a machine word in its variable, and one where there is none. The threshold is the numeral in its
variable, and absent where there is none. Launches block where a word of consent stands in their
variable. What the other variables say makes no difference to a field, and a platform can be created
with the settings, whatever was done before. -/
theorem environment_settings_are_usable (env : Environment) :
    let s := Settings.ofEnvironment env
    (∀ n, s.deviceCount = n ↔ (0 < n ∧ env.Counts "OFFLOAD_DEVICE_COUNT" n) ∨
      n = 1 ∧ ∀ m, 0 < m → ¬ env.Counts "OFFLOAD_DEVICE_COUNT" m) ∧
    (∀ n, s.threshold = some n ↔ env.Counts "OFFLOAD_PERF_THRESHOLD_US" n) ∧
    (s.blockingLaunches = true ↔ env.Affirms "OFFLOAD_BLOCKING_LAUNCHES") ∧
    (∀ other : Environment,
      (other "OFFLOAD_DEVICE_COUNT" = env "OFFLOAD_DEVICE_COUNT" →
        (Settings.ofEnvironment other).deviceCount = s.deviceCount) ∧
      (other "OFFLOAD_PERF_THRESHOLD_US" = env "OFFLOAD_PERF_THRESHOLD_US" →
        (Settings.ofEnvironment other).threshold = s.threshold) ∧
      (other "OFFLOAD_BLOCKING_LAUNCHES" = env "OFFLOAD_BLOCKING_LAUNCHES" →
        (Settings.ofEnvironment other).blockingLaunches = s.blockingLaunches)) ∧
    ∀ w : World, ∃ p after, Client.run (Platform.create s).run w = (.ok p, after) ∧
      p.settings = s ∧ p.devices.length = s.deviceCount := by
  intro s
  refine ⟨fun n => Settings.deviceCount_ofEnvironment_iff,
    fun n => Settings.threshold_ofEnvironment_iff, Settings.blockingLaunches_ofEnvironment_iff,
    fun other => ⟨?_, ?_, ?_⟩, fun w => ?_⟩
  · exact fun same => Settings.deviceCount_congr same
  · exact fun same => Environment.natural?_congr same
  · exact fun same => Settings.blockingLaunches_congr same
  · obtain ⟨p, after, created, kept, ids⟩ :=
      exists_run_create Settings.deviceCount_ofEnvironment_pos w
    refine ⟨p, after, created, kept, ?_⟩
    simpa using congrArg List.length ids

/-- A count between an em space and a line break, consent in capitals, and a threshold that is one
more than the largest machine word. -/
theorem environment_settings_are_usable_words :
    let env : Environment := fun name =>
      if name = "OFFLOAD_DEVICE_COUNT" then some "\u2003+007\n"
      else if name = "OFFLOAD_BLOCKING_LAUNCHES" then some "YES "
      else some "18446744073709551616"
    let other : Environment := fun name =>
      if name = "OFFLOAD_DEVICE_COUNT" then some "\u2003+007\n" else none
    let s := Settings.ofEnvironment env
    other "OFFLOAD_DEVICE_COUNT" = env "OFFLOAD_DEVICE_COUNT" ∧
      env.Counts "OFFLOAD_DEVICE_COUNT" 7 ∧ s.deviceCount = 7 ∧
      (Settings.ofEnvironment other).deviceCount = 7 ∧
      env.Affirms "OFFLOAD_BLOCKING_LAUNCHES" ∧ s.blockingLaunches = true ∧
      (∀ n, ¬ env.Counts "OFFLOAD_PERF_THRESHOLD_US" n) ∧
      ∃ p after, Client.run (Platform.create s).run .empty = (.ok p, after) ∧
        p.devices.length = 7 := by
  intro env other s
  have same : other "OFFLOAD_DEVICE_COUNT" = env "OFFLOAD_DEVICE_COUNT" := rfl
  have counted : env.Counts "OFFLOAD_DEVICE_COUNT" 7 :=
    Environment.natural?_eq_some_iff.mp (by decide)
  have consent : env.Affirms "OFFLOAD_BLOCKING_LAUNCHES" :=
    Environment.truth?_eq_some_true_iff.mp (by decide)
  have tooLarge : s.threshold = none := by decide
  obtain ⟨count, threshold, blocking, alone, usable⟩ := environment_settings_are_usable env
  have seven : s.deviceCount = 7 := (count 7).mpr (.inl ⟨by decide, counted⟩)
  obtain ⟨p, after, created, -, length⟩ := usable .empty
  refine ⟨same, counted, seven, ((alone other).1 same).trans seven, consent, blocking.mpr consent,
    fun n given => ?_, p, after, created, length.trans seven⟩
  have found := (threshold n).mpr given
  rw [tooLarge] at found
  cases found

end DeviceArrays
