import DeviceArrays.Proofs.Kernel.Footprint

/-!
# Kernels look up what they are given

A kernel that succeeds was called with exactly the arguments it asks for, and every buffer among
them was live, however few elements it was to work on.
-/
namespace DeviceArrays

/-! ### Arguments that were read -/

/-- An argument that fits a parameter is what its value is passed as. -/
theorem Parameter.write_of_read? {p : Parameter} {a : Argument} {value : p.Value}
    (h : p.read? a = some value) : p.write value = a := by
  cases a with
  | typeTag tag =>
    cases p with
    | typeTag => exact congrArg Argument.typeTag (ElementType.tag_of_ofTag? h)
    | _ => cases h
  | _ => cases p <;> cases h <;> rfl

namespace Contract

theorem write_of_readFrom {kernel : String} {position : Nat} {parameters : List Parameter}
    {arguments : List Argument} {values : Parameter.Values parameters}
    (h : readFrom kernel position parameters arguments = .ok values) :
    write parameters values = arguments := by
  induction parameters generalizing position arguments with
  | nil =>
    cases arguments with
    | nil => rfl
    | cons a rest => cases h
  | cons p ps ih =>
    cases arguments with
    | nil => cases h
    | cons a rest =>
      cases fits : p.read? a with
      | none => simp [readFrom, fits] at h
      | some value =>
        cases later : readFrom kernel (position + 1) ps rest with
        | error problem => simp [readFrom, fits, later, Except.map] at h
        | ok others =>
          simp only [readFrom, fits, later, Except.map] at h
          cases h
          rw [write, Parameter.write_of_read? fits, ih later]

/-- Nothing is read but what `write` passes. -/
theorem write_of_read {kernel : String} {parameters : List Parameter} {arguments : List Argument}
    {values : Parameter.Values parameters} (h : read kernel parameters arguments = .ok values) :
    write parameters values = arguments := by
  unfold read at h
  split at h
  case h_1 found =>
    cases h
    exact write_of_readFrom found
  case h_2 => cases h

end Contract

/-! ### Buffers of a call -/

theorem KernelOperand.mem_buffers {b : BufferId} {y : KernelOperand}
    (h : Argument.buffer b = Parameter.operand.write y) : b ∈ y.buffers := by
  cases y <;> cases h
  exact List.mem_singleton_self b

namespace ElementwiseKernel

variable {m after : Memory}

/-- Every buffer that is passed to a kernel is one that it is given. -/
theorem mem_buffers_of_write {k : ElementwiseKernel} {values : Parameter.Values k.parameters}
    {b : BufferId} (h : .buffer b ∈ Contract.write k.parameters values) : b ∈ k.buffers values := by
  cases k with
  | binary operation =>
    obtain ⟨t, n, (x : BufferId), strideX, (y : KernelOperand), strideY, (r : BufferId), strideR,
      ⟨⟩⟩ := values
    have named : b = x ∨ Argument.buffer b = Parameter.operand.write y ∨ b = r := by
      simpa [Contract.write, Parameter.write, Argument.ofType] using h
    obtain rfl | operand | rfl := named
    · exact .head _
    · exact .tail _ (.tail _ (KernelOperand.mem_buffers operand))
    · exact .tail _ (.head _)
  | abs =>
    obtain ⟨t, n, (x : BufferId), (r : BufferId), ⟨⟩⟩ := values
    simpa [Contract.write, Parameter.write, Argument.ofType, buffers] using h
  | fill =>
    obtain ⟨t, n, (x : BufferId), s, ⟨⟩⟩ := values
    simpa [Contract.write, Parameter.write, Argument.ofType, buffers] using h
  | reverse =>
    obtain ⟨t, n, (x : BufferId), (r : BufferId), ⟨⟩⟩ := values
    simpa [Contract.write, Parameter.write, Argument.ofType, buffers] using h
  | setSlice =>
    obtain ⟨t, lower, upper, (x : BufferId), (source : BufferId), ⟨⟩⟩ := values
    simpa [Contract.write, Parameter.write, Argument.ofType, buffers] using h

theorem live_of_readElements {b : BufferId} {t : ElementType} {count : Nat}
    {values : List (Element t)} (h : m.readElements t b count = .ok values) :
    ∃ bytes, m.contents? b = some bytes := by
  obtain ⟨bytes, live, _⟩ := Memory.readElements_cases h
  exact ⟨bytes, live⟩

theorem live_of_writeElements {b : BufferId} {t : ElementType} {offset : Nat}
    {values : List (Element t)} (h : m.writeElements b offset values = .ok after) :
    ∃ bytes, m.contents? b = some bytes := by
  obtain ⟨old, live, _⟩ := Memory.writeElements_cases h
  exact ⟨old, live⟩

theorem live_of_loadBuffer {b : BufferId} {t : ElementType} {n stride : Nat} {source : Source t}
    (h : loadBuffer m t b n stride = .ok source) : ∃ bytes, m.contents? b = some bytes := by
  obtain ⟨count, _, h⟩ := Attempt.bind_eq_ok h
  obtain ⟨values, read, _⟩ := Attempt.bind_eq_ok h
  exact live_of_readElements read

theorem live_of_loadOperand {y : KernelOperand} {t : ElementType} {n stride : Nat}
    {source : Source t} (h : loadOperand m t n stride y = .ok source) :
    ∀ b ∈ y.buffers, ∃ bytes, m.contents? b = some bytes := by
  intro b member
  cases y with
  | buffer c =>
    cases List.mem_singleton.mp member
    exact live_of_loadBuffer h
  | scalar s => cases member

theorem live_of_store {b : BufferId} {t : ElementType} {values : List (Element t)} {stride : Nat}
    (h : store m b values stride = .ok after) : ∃ bytes, m.contents? b = some bytes := by
  unfold store at h
  split at h
  case h_1 => cases h
  case h_2 => exact live_of_writeElements h
  case h_3 =>
    obtain ⟨count, _, h⟩ := Attempt.bind_eq_ok h
    obtain ⟨region, read, _⟩ := Attempt.bind_eq_ok h
    exact live_of_readElements read

/-- A kernel that succeeds found every buffer that it is given. -/
theorem live_of_execute {k : ElementwiseKernel} {values : Parameter.Values k.parameters}
    (h : k.execute m values = .ok after) {b : BufferId} (member : b ∈ k.buffers values) :
    ∃ bytes, m.contents? b = some bytes := by
  cases k with
  | binary operation =>
    obtain ⟨t, n, (x : BufferId), strideX, (y : KernelOperand), strideY, (r : BufferId), strideR,
      ⟨⟩⟩ := values
    obtain ⟨left, loaded, h⟩ := Attempt.bind_eq_ok h
    obtain ⟨right, operand, h⟩ := Attempt.bind_eq_ok h
    obtain ⟨_, _, h⟩ := Attempt.bind_eq_ok h
    obtain ⟨_, _, h⟩ := Attempt.bind_eq_ok h
    obtain rfl | rfl | given : b = x ∨ b = r ∨ b ∈ y.buffers := by
      simpa only [buffers, List.mem_cons] using member
    · exact live_of_loadBuffer loaded
    · exact live_of_store h
    · exact live_of_loadOperand operand b given
  | abs =>
    obtain ⟨t, n, (x : BufferId), (r : BufferId), ⟨⟩⟩ := values
    obtain ⟨elements, read, written⟩ := Attempt.bind_eq_ok h
    obtain rfl | rfl : b = x ∨ b = r := by simpa [buffers] using member
    · exact live_of_readElements read
    · exact live_of_writeElements written
  | fill =>
    obtain ⟨t, n, (x : BufferId), s, ⟨⟩⟩ := values
    obtain ⟨value, _, h⟩ := Attempt.bind_eq_ok h
    obtain ⟨_, _, written⟩ := Attempt.bind_eq_ok h
    cases List.mem_singleton.mp member
    exact live_of_writeElements written
  | reverse =>
    obtain ⟨t, n, (x : BufferId), (r : BufferId), ⟨⟩⟩ := values
    obtain ⟨elements, read, written⟩ := Attempt.bind_eq_ok h
    obtain rfl | rfl : b = x ∨ b = r := by simpa [buffers] using member
    · exact live_of_readElements read
    · exact live_of_writeElements written
  | setSlice =>
    obtain ⟨t, lower, upper, (x : BufferId), (source : BufferId), ⟨⟩⟩ := values
    simp only [execute, runSetSlice] at h
    split at h
    case isTrue => cases h
    case isFalse =>
      obtain ⟨elements, read, written⟩ := Attempt.bind_eq_ok h
      obtain rfl | rfl : b = x ∨ b = source := by simpa [buffers] using member
      · exact live_of_writeElements written
      · exact live_of_readElements read

/-- A call that succeeds found every buffer that it names. -/
theorem live_of_run {k : ElementwiseKernel} {arguments : List Argument}
    (h : k.run m arguments = .ok after) {b : BufferId} (named : .buffer b ∈ arguments) :
    ∃ bytes, m.contents? b = some bytes := by
  unfold run at h
  obtain ⟨values, read, executed⟩ := Attempt.bind_eq_ok h
  rw [← Contract.write_of_read read] at named
  exact live_of_execute executed (mem_buffers_of_write named)

end ElementwiseKernel

end DeviceArrays
