import DeviceArrays.Proofs.Client.Licences
import DeviceArrays.Proofs.Program.Confined

/-!
# Which kernels programs launch

The devices of streams and arrays in scope are in scope themselves. So a licence for what these
look up covers the next call, whatever it is, and the call brings at most one new device into scope.
-/
namespace DeviceArrays

variable {α : Type} {E : Licence} {ws after : Workspace}

namespace Workspace

/-- What is in scope is on devices in scope, and the arrays were small enough to be made. -/
structure Sited (ws : Workspace) : Prop where
  streams : ∀ i s, ws.stream? i = some s → s.device ∈ ws.devices
  arrays : ∀ i a, ws.array? i = some a → a.device ∈ ws.devices
  bounded : ∀ i a, ws.array? i = some a → a.byteSize < wordBound

theorem Sited.add (sited : ws.Sited) {a : DeviceArray} (home : a.device ∈ ws.devices)
    (bounded : a.byteSize < wordBound) : (ws.add a).Sited := by
  refine ⟨sited.streams, fun i b found => ?_, fun i b found => ?_⟩
  all_goals
    rw [array?_add] at found
    split at found
  case isTrue =>
    cases found
    exact home
  case isFalse => exact sited.arrays i b found
  case isTrue =>
    cases found
    exact bounded
  case isFalse => exact sited.bounded i b found

theorem Sited.put (sited : ws.Sited) {a : DeviceArray} {i : Nat} (there : ws.array? i = some a)
    {x : Option DeviceArray}
    (new : ∀ b, x = some b → b.device = a.device ∧ b.byteSize = a.byteSize) :
    (ws.put i x).Sited := by
  have entry {j : Nat} {b : DeviceArray} (found : (ws.put i x).array? j = some b) :
      ∃ k c, ws.array? k = some c ∧ b.device = c.device ∧ b.byteSize = c.byteSize := by
    rw [array?_put there] at found
    split at found
    case isTrue => exact ⟨i, a, there, new b found⟩
    case isFalse => exact ⟨j, b, found, rfl, rfl⟩
  refine ⟨sited.streams, fun j b found => ?_, fun j b found => ?_⟩
  · obtain ⟨k, c, before, device, _⟩ := entry found
    exact device ▸ sited.arrays k c before
  · obtain ⟨k, c, before, _, size⟩ := entry found
    exact size ▸ sited.bounded k c before

/-- The licence covers whatever streams and arrays in scope look up. -/
structure Licensed (ws : Workspace) (E : Licence) : Prop where
  streams : ∀ i s, ws.stream? i = some s → E.Covers s.device.library s
  arrays : ∀ i a, ws.array? i = some a → E.Covers a.device.library a.stream

/-- What a call leaves in scope: there may be a new device. -/
structure Extends (E : Licence) (ws after : Workspace) : Prop where
  sited : after.Sited
  devices : after.devices = ws.devices ∨
    ∃ d : Device, E.devices ≤ d.number ∧ after.devices = ws.devices ++ [d]

end Workspace

/-- The call keeps to the licence and leaves the scope in order. -/
abbrev Request.Licensed (E : Licence) (ws : Workspace) (c : Client (Reply × Workspace)) : Prop :=
  c.Licensed E fun (_, after) => ws.Extends E after

namespace Workspace

theorem licensed_tell {call : Call α} {answer : α → Answer} (sited : after.Sited)
    (same : after.devices = ws.devices) (runs : Call.Licensed E call fun _ => True) :
    Request.Licensed E ws (after.tell call answer) := by
  refine Client.Licensed.bind (Client.Licensed.mono runs fun result _ => ?_)
  cases result <;> exact ⟨sited, .inl same⟩

theorem licensed_keep {call : Call DeviceArray} (sited : ws.Sited)
    (runs : Call.Licensed E call fun a => a.device ∈ ws.devices ∧ a.byteSize < wordBound) :
    Request.Licensed E ws (ws.keep call) := by
  refine Client.Licensed.bind (Client.Licensed.mono runs fun result ended => ?_)
  cases result with
  | ok a => exact ⟨sited.add ended.1 ended.2, .inl rfl⟩
  | error e => exact ⟨sited, .inl rfl⟩

theorem licensed_keep_placed {call : Call DeviceArray} {d : Device} {s : Stream}
    (sited : ws.Sited) (home : d ∈ ws.devices)
    (runs : Call.Licensed E call fun a => a.PlacedOn d s) :
    Request.Licensed E ws (ws.keep call) :=
  licensed_keep sited (runs.mono fun _ placed => ⟨placed.device ▸ home, placed.bounded⟩)

end Workspace

namespace Request

open Workspace (licensed_tell licensed_keep licensed_keep_placed)

variable {c : Client (Reply × Workspace)} {request : Request}

/-- A call of an array in scope that gives no array. -/
theorem licensed_of_array {name : Nat} {call : DeviceArray → Call α} {answer : α → Answer}
    (sited : ws.Sited) (performed : (do return ws.tell (call (← ws.array? name)) answer) = some c)
    (runs : ∀ a, ws.array? name = some a → Call.Licensed E (call a) fun _ => True) :
    Request.Licensed E ws c := by
  obtain ⟨a, found, rfl⟩ := exists_of_array performed
  exact licensed_tell sited rfl (runs a found)

theorem licensed_view {name : Nat} {extents : DeviceArray → List Nat} (sited : ws.Sited)
    (performed : (do
      let a ← ws.array? name
      return ws.keep (Call.check (a.reshape (extents a)))) = some c) :
    Request.Licensed E ws c := by
  obtain ⟨a, found, rfl⟩ := exists_of_array performed
  refine licensed_keep sited (Call.licensed_check fun b view => ?_)
  obtain ⟨shape, size, rfl⟩ := Workspace.eq_of_reshape view
  have same : DeviceArray.byteSize { a with shape, ownership := .view a.root } = a.byteSize :=
    congrArg (· * a.type.width) size
  exact ⟨sited.arrays name a found, same ▸ sited.bounded name a found⟩

theorem licensed_assignStream {array stream : Nat} (sited : ws.Sited)
    (performed : (Request.assignStream array stream).perform ws = some c) :
    Request.Licensed E ws c := by
  obtain ⟨a, found, performed⟩ := Option.bind_eq_some_iff.mp performed
  obtain ⟨s, _, performed⟩ := Option.bind_eq_some_iff.mp performed
  dsimp only at performed
  split at performed
  case isTrue => cases performed
  case isFalse =>
    obtain ⟨assigned, _⟩ | ⟨e, refused, _⟩ := assignStream_cases a s
    · rw [assigned] at performed
      cases performed
      refine ⟨sited.put found fun b same => ?_, .inl rfl⟩
      cases same
      exact ⟨rfl, rfl⟩
    · rw [refused] at performed
      cases performed
      exact ⟨sited, .inl rfl⟩

theorem licensed_build {extents : List Nat} {type : ElementType} {layout : Layout}
    {device stream : Option Nat} (sited : ws.Sited)
    (performed : (Request.build extents type layout device stream).perform ws = some c) :
    Request.Licensed E ws c := by
  obtain ⟨device?, devices, performed⟩ := Option.bind_eq_some_iff.mp performed
  obtain ⟨stream?, _, performed⟩ := Option.bind_eq_some_iff.mp performed
  cases performed
  refine licensed_keep sited (DeviceArray.licensed_build.mono ?_)
  rintro a ⟨d, _, rfl, _, placed⟩
  obtain ⟨i, there⟩ := exists_of_lookUp? devices
  exact ⟨placed.device ▸ List.mem_of_getElem? there, placed.bounded⟩

/-- An array that is released or dropped goes out of scope. -/
theorem licensed_end {array : Nat} {call : DeviceArray → Call Unit} {answer : Unit → Answer}
    (sited : ws.Sited)
    (performed : (do
      let a ← ws.array? array
      if ws.pinned a then none
      return (ws.put array none).tell (call a) answer) = some c)
    (runs : ∀ a, Call.Licensed E (call a) fun _ => True) : Request.Licensed E ws c := by
  obtain ⟨a, found, performed⟩ := Option.bind_eq_some_iff.mp performed
  dsimp only at performed
  split at performed
  case isTrue => cases performed
  case isFalse =>
    cases performed
    exact licensed_tell (sited.put found nofun) rfl (runs a)

theorem licensed_releaseBuffer {stream : Nat} {b : BufferId} (sited : ws.Sited)
    (performed : (Request.releaseBuffer stream b).perform ws = some c) :
    Request.Licensed E ws c := by
  obtain ⟨s, _, performed⟩ := Option.bind_eq_some_iff.mp performed
  dsimp only at performed
  split at performed
  case isTrue => cases performed
  case isFalse =>
    cases performed
    exact licensed_tell sited rfl (Stream.licensed_release b)

theorem licensed_openDevice {id : DeviceId} {library : Library} (sited : ws.Sited)
    (performed : (Request.openDevice id library).perform ws = some c) :
    Request.Licensed E ws c := by
  cases performed
  refine Client.Licensed.bind (Client.Licensed.mono (Device.licensed_create id library)
    fun result ended => ?_)
  cases result with
  | error e => exact ⟨sited, .inl rfl⟩
  | ok d =>
    refine ⟨⟨fun i s found => ?_, fun i a found => ?_, sited.bounded⟩, .inr ⟨d, ended.1, rfl⟩⟩
    · exact List.mem_append_left _ (sited.streams i s found)
    · exact List.mem_append_left _ (sited.arrays i a found)

theorem licensed_openStream {device : Nat} {options : StreamOptions} (sited : ws.Sited)
    (performed : (Request.openStream device options).perform ws = some c) :
    Request.Licensed E ws c := by
  obtain ⟨d, found, performed⟩ := Option.bind_eq_some_iff.mp performed
  cases performed
  refine Client.Licensed.bind (Client.Licensed.mono (Stream.licensed_create d options)
    fun result ended => ?_)
  cases result with
  | error e => exact ⟨sited, .inl rfl⟩
  | ok s =>
    refine ⟨⟨fun i t there => ?_, sited.arrays, sited.bounded⟩, .inl rfl⟩
    obtain ⟨_, rfl⟩ | old := Workspace.stream?_opened there
    · rw [show t.device = d from ended]
      exact List.mem_of_getElem? found
    · exact sited.streams i t old

theorem licensed_closeStream {stream : Nat} (sited : ws.Sited)
    (performed : (Request.closeStream stream).perform ws = some c) :
    Request.Licensed E ws c := by
  obtain ⟨s, found, performed⟩ := Option.bind_eq_some_iff.mp performed
  dsimp only at performed
  split at performed
  case isTrue => cases performed
  case isFalse =>
    cases performed
    refine licensed_tell ⟨fun i t there => ?_, sited.arrays, sited.bounded⟩ rfl
      Stream.licensed_close
    exact sited.streams i t (Workspace.stream?_closed there).2

/-- Every call keeps to a licence that covers the scope. -/
theorem licensed_perform (sited : ws.Sited) (licensed : ws.Licensed E)
    (performed : request.perform ws = some c) : Request.Licensed E ws c := by
  cases request with
  | build extents type layout device stream => exact licensed_build sited performed
  | empty stream extents type layout mirrored =>
    obtain ⟨s, found, rfl⟩ := exists_of_stream performed
    exact licensed_keep_placed sited (sited.streams stream s found) Stream.licensed_empty
  | emptyLike stream like mirrored =>
    obtain ⟨s, found, performed⟩ := Option.bind_eq_some_iff.mp performed
    obtain ⟨a, _, performed⟩ := Option.bind_eq_some_iff.mp performed
    cases performed
    exact licensed_keep_placed sited (sited.streams stream s found) Stream.licensed_empty
  | zeros stream extents type =>
    obtain ⟨s, found, rfl⟩ := exists_of_stream performed
    exact licensed_keep_placed sited (sited.streams stream s found)
      (Stream.licensed_filled (licensed.streams stream s found))
  | ones stream extents type =>
    obtain ⟨s, found, rfl⟩ := exists_of_stream performed
    exact licensed_keep_placed sited (sited.streams stream s found)
      (Stream.licensed_filled (licensed.streams stream s found))
  | bind stream g =>
    obtain ⟨s, found, rfl⟩ := exists_of_stream performed
    exact licensed_keep_placed sited (sited.streams stream s found)
      (Stream.licensed_bindWith g .rowMajor)
  | binary array operation source =>
    obtain ⟨a, operand, found, rfl⟩ := exists_of_operand performed
    exact licensed_keep_placed sited (sited.arrays array a found)
      (DeviceArray.licensed_binary (licensed.arrays array a found) operation operand)
  | abs array =>
    obtain ⟨a, found, rfl⟩ := exists_of_array performed
    exact licensed_keep_placed sited (sited.arrays array a found)
      (DeviceArray.licensed_unary (licensed.arrays array a found) _ _)
  | reverse array =>
    obtain ⟨a, found, rfl⟩ := exists_of_array performed
    exact licensed_keep_placed sited (sited.arrays array a found)
      (DeviceArray.licensed_reverse (licensed.arrays array a found))
  | fill array value =>
    exact licensed_of_array sited performed fun a found =>
      DeviceArray.licensed_fill (licensed.arrays array a found) value
  | zero array =>
    exact licensed_of_array sited performed fun a found =>
      DeviceArray.licensed_fill (licensed.arrays array a found) _
  | one array =>
    exact licensed_of_array sited performed fun a found =>
      DeviceArray.licensed_fill (licensed.arrays array a found) _
  | fillFrom array g =>
    exact licensed_of_array sited performed fun a _ => DeviceArray.licensed_fillFrom g
  | setSlice array start stop source =>
    obtain ⟨a, operand, found, rfl⟩ := exists_of_operand performed
    exact licensed_tell sited rfl
      (DeviceArray.licensed_setSlice (licensed.arrays array a found) start stop operand)
  | updateDevice array =>
    exact licensed_of_array sited performed fun a _ => DeviceArray.licensed_updateDevice
  | updateHost array =>
    exact licensed_of_array sited performed fun a _ => DeviceArray.licensed_updateHost
  | reshape array extents => exact licensed_view sited performed
  | ravel array => exact licensed_view sited performed
  | hostBytes array =>
    exact licensed_of_array sited performed fun a _ => HostStore.licensed_bytes a.store
  | elements array type =>
    exact licensed_of_array sited performed fun a _ => DeviceArray.licensed_elements type
  | gridElements array type =>
    exact licensed_of_array sited performed fun a _ => DeviceArray.licensed_gridElements type
  | text array => exact licensed_of_array sited performed fun a _ => DeviceArray.licensed_text
  | assignStream array stream => exact licensed_assignStream sited performed
  | release array => exact licensed_end sited performed fun a => DeviceArray.licensed_release
  | drop array =>
    exact licensed_end sited performed fun a => Call.licensed_lift DeviceArray.licensed_drop
  | synchronize stream =>
    obtain ⟨s, _, rfl⟩ := exists_of_stream performed
    exact licensed_tell sited rfl Stream.licensed_synchronize
  | releaseBuffer stream b => exact licensed_releaseBuffer sited performed
  | countLive stream =>
    obtain ⟨s, _, rfl⟩ := exists_of_stream performed
    refine licensed_tell sited rfl (Call.Licensed.bind Stream.licensed_synchronize fun _ _ => ?_)
    exact Call.licensed_perform trivial fun _ _ => trivial
  | openDevice id library => exact licensed_openDevice sited performed
  | openStream device options => exact licensed_openStream sited performed
  | closeStream stream => exact licensed_closeStream sited performed

end Request

/-- A client that tells which buffers it was given launches the same kernels. -/
theorem Client.Licensed.recording {c : Client α} {Q : α → Prop} {given : List (Nat × BufferId)}
    (h : c.Licensed E Q) : (c.recording given).Licensed E fun (a, _) => Q a := by
  induction c generalizing given with
  | done a => exact h
  | act action next ih => exact ⟨h.1, fun reply promised => ih reply (h.2 reply promised)⟩

end DeviceArrays
