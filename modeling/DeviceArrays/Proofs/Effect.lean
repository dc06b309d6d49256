import DeviceArrays.Command

/-!
# Effects of commands

A command that fails leaves at most what its kernel has written by then. `Command.Effect` lists what
one does that succeeds, and `Command.buffers` the buffers it names.
-/
namespace DeviceArrays

def Argument.buffer? : Argument → Option BufferId
  | .buffer b => some b
  | _ => none

namespace Command

/-- The buffers that a command names. -/
def buffers : Command → List BufferId
  | .copyToDevice b _ | .copyToHost b _ | .release b => [b]
  | .launch _ arguments => arguments.filterMap Argument.buffer?
  | .fence => []

/-- The command launches no kernel but an elementwise one. -/
def IsElementwise : Command → Prop
  | .launch kernel _ => ∃ k : ElementwiseKernel, kernel = k.toKernel
  | _ => True

/-- All that a command can do when it succeeds. -/
inductive Effect (s : Surroundings) : Command → Surroundings → Prop
  | copyToDevice {b : BufferId} {bytes : Bytes} {m : Memory}
      (copied : s.memory.copyIn b bytes = .ok m) :
      Effect s (.copyToDevice b bytes) { s with memory := m }
  | copyToHost {b : BufferId} {store : HostStore} {bytes : Bytes}
      (copied : s.memory.copyOut b store.size = .ok bytes) :
      Effect s (.copyToHost b store) { s with stores := s.stores.set store.number bytes }
  | launch {kernel : Kernel} {arguments : List Argument} {m : Memory}
      (ran : kernel.run s.memory arguments = .ok m) :
      Effect s (.launch kernel arguments) { s with memory := m }
  | release {b : BufferId} {m : Memory} (freed : s.memory.free b = .ok m) :
      Effect s (.release b) { s with memory := m }
  | fence : Effect s .fence s

theorem effect_of_perform {c : Command} {s after : Surroundings} (h : c.perform s = .ok after) :
    Effect s c after := by
  unfold perform at h
  cases c with
  | copyToDevice b bytes =>
    cases copied : s.memory.copyIn b bytes with
    | ok m =>
      simp only [copied, Except.ok.injEq] at h
      exact h ▸ .copyToDevice copied
    | error e => simp [copied] at h
  | copyToHost b store =>
    cases copied : s.memory.copyOut b store.size with
    | ok bytes =>
      simp only [copied, Except.ok.injEq] at h
      exact h ▸ .copyToHost copied
    | error e => simp [copied] at h
  | launch kernel arguments =>
    cases ran : kernel.run s.memory arguments with
    | ok m =>
      simp only [ran, Except.ok.injEq] at h
      exact h ▸ .launch ran
    | error fault => cases fault <;> simp [ran] at h
  | release b =>
    cases freed : s.memory.free b with
    | ok m =>
      simp only [freed, Except.ok.injEq] at h
      exact h ▸ .release freed
    | error e => simp [freed] at h
  | fence =>
    cases h
    exact .fence

/-- Whatever a command has come to when it fails, it has sent nothing to the host. -/
@[simp] theorem stores_left (c : Command) (s : Surroundings) : (c.left s).stores = s.stores := by
  cases c <;> rfl

/-- An elementwise command that fails changes nothing. -/
theorem left_of_isElementwise {c : Command} (elementwise : c.IsElementwise) (s : Surroundings) :
    c.left s = s := by
  cases c with
  | launch kernel arguments =>
    obtain ⟨k, rfl⟩ := elementwise
    rfl
  | _ => rfl

/-- A command fails, or it succeeds. -/
theorem run_cases (c : Command) (s : Surroundings) :
    (∃ e, c.run s = (c.left s, some e)) ∨ (Effect s c (c.run s).1 ∧ (c.run s).2 = none) := by
  unfold run
  cases performed : c.perform s with
  | ok after => exact .inr ⟨effect_of_perform performed, rfl⟩
  | error e => exact .inl ⟨e, rfl⟩

/-- What holds of all that a command leaves when it fails, and after each of its effects, holds
however the command ends. -/
theorem run_preserves {P : Surroundings → Prop} {c : Command} {s : Surroundings}
    (left : P (c.left s)) (effects : ∀ after, Effect s c after → P after) : P (c.run s).1 := by
  obtain ⟨e, failed⟩ | ⟨effect, _⟩ := c.run_cases s
  · rwa [failed]
  · exact effects _ effect

/-- What a launch reports depends on the kernel and on how it failed. -/
theorem exists_run_launch_of_error (kernel : Kernel) (fault : Fault) :
    ∃ e, ∀ (arguments : List Argument) (s : Surroundings),
      kernel.run s.memory arguments = .error fault →
        (launch kernel arguments).run s =
          ({ s with memory := kernel.left s.memory arguments }, some e) := by
  cases fault with
  | error e =>
    exact ⟨.ofDevice kernel.name e, fun _ _ failed => by simp only [run, perform, failed, left]⟩
  | crash message =>
    exact ⟨crashError message, fun _ _ failed => by simp only [run, perform, failed, left]⟩

/-- What a kernel has written before it crashes stays written. -/
example :
    let kernel : Kernel :=
      { name := "half", run := fun _ _ => .error (.crash none)
        remains := ⟨fun m _ => m.put ⟨1⟩ (some [7, 0])⟩ }
    let s : Surroundings := ⟨(Memory.empty.allocate 2).1, []⟩
    ((launch kernel []).run s).1.memory.contents? ⟨1⟩ = some [7, 0] := rfl

/-- A command that succeeds is told as such. -/
theorem run_of_perform {c : Command} {s after : Surroundings} (h : c.perform s = .ok after) :
    c.run s = (after, none) := by
  simp [run, h]

end Command

end DeviceArrays
