import DeviceArrays.Proofs.Client.Orderly
import DeviceArrays.Proofs.Program.Confined

/-!
# Programs are orderly

Whatever calls a program makes, with whatever libraries, its client is orderly, and every array in
scope is kept where its stream is.
-/
namespace DeviceArrays

variable {α : Type} {K M : Notes} {ws : Workspace} {request : Request}

/-- What is in scope has been noted. -/
structure Workspace.Known (ws : Workspace) (K : Notes) : Prop where
  streams : ∀ i s, ws.stream? i = some s → K.Drives s
  arrays : ∀ i a, ws.array? i = some a → K.Holds a
  issued : ∀ b ∈ ws.issued, ⟨b.1, b.2⟩ ∈ K.buffers

namespace Workspace.Known

theorem empty : Workspace.Known ⟨[], [], [], []⟩ .empty where
  streams i _ found := by simp [stream?] at found
  arrays i _ found := by simp [array?] at found
  issued _ member := by cases member

theorem mono (known : ws.Known K) (grows : K.Grows M) : ws.Known M where
  streams i s found := (known.streams i s found).mono grows
  arrays i a found := (known.arrays i a found).mono grows
  issued b member := grows.buffers (known.issued b member)

theorem add (known : ws.Known K) {a : DeviceArray} (holds : K.Holds a) : (ws.add a).Known K where
  streams := known.streams
  arrays i b found := by
    rw [array?_add] at found
    split at found
    case isTrue =>
      cases found
      exact holds
    case isFalse => exact known.arrays i b found
  issued := known.issued

theorem put (known : ws.Known K) {a : DeviceArray} {i : Nat} (found : ws.array? i = some a)
    {x : Option DeviceArray} (holds : ∀ b, x = some b → K.Holds b) : (ws.put i x).Known K where
  streams := known.streams
  arrays j b there := by
    rw [array?_put found] at there
    split at there
    case isTrue => exact holds b there
    case isFalse => exact known.arrays j b there
  issued := known.issued

theorem remove (known : ws.Known K) {a : DeviceArray} {i : Nat} (found : ws.array? i = some a) :
    (ws.put i none).Known K :=
  known.put found fun _ none_left => by cases none_left

theorem operand (known : ws.Known K) {source : Source} {operand : Operand}
    (found : ws.operand? source = some operand) : ∀ b, operand = .array b → K.Holds b := by
  rintro b rfl
  cases source with
  | array name =>
    obtain ⟨a, there, same⟩ := Option.map_eq_some_iff.mp found
    cases same
    exact known.arrays name b there
  | grid g => cases found
  | scalar value => cases found

end Workspace.Known

/-- The client of a call is orderly and leaves what is in scope noted. -/
abbrev Request.Orderly (c : Client (Reply × Workspace)) (K : Notes) : Prop :=
  c.Orderly True K fun (_, after) M => after.Known M

namespace Workspace

theorem orderly_tell {after : Workspace} {call : Call α} {answer : α → Answer}
    (known : after.Known K) (runs : Call.Orderly True call K fun _ _ => True) :
    Request.Orderly (after.tell call answer) K := by
  refine Client.Orderly.bind (Client.Orderly.mono runs fun result M grows _ => ?_)
  cases result <;> exact known.mono grows

theorem orderly_keep {call : Call DeviceArray} (known : ws.Known K)
    (runs : Call.Orderly True call K fun a M => M.Holds a) : Request.Orderly (ws.keep call) K := by
  refine Client.Orderly.bind (Client.Orderly.mono runs fun result M grows ended => ?_)
  cases result with
  | ok a => exact (known.mono grows).add ended
  | error e => exact known.mono grows

theorem orderly_keep_made {call : Call DeviceArray} {d : Device} {s : Stream} (known : ws.Known K)
    (runs : Call.Orderly True call K (DeviceArray.Made d s)) : Request.Orderly (ws.keep call) K :=
  orderly_keep known (runs.mono fun _ _ _ made => made.2.2)

end Workspace

namespace Request

open Workspace (orderly_tell orderly_keep orderly_keep_made)

variable {c : Client (Reply × Workspace)}

theorem holds_of_reshape {a b : DeviceArray} {extents : List Nat} (holds : K.Holds a)
    (view : a.reshape extents = .ok b) : K.Holds b := by
  obtain ⟨shape, _, rfl⟩ := Workspace.eq_of_reshape view
  exact ⟨holds.stream, holds.near, holds.root, holds.buffer⟩

/-- An array works on another stream of its device. A view leaves its owner where it was. -/
theorem holds_of_assign {a : DeviceArray} {s : Stream} (holds : K.Holds a) (driven : K.Drives s)
    (near : s.device.number = a.device.number) : K.Holds { a with stream := s } where
  stream := driven
  near := near
  root := by
    have root := holds.root
    unfold DeviceArray.root at root ⊢
    cases kind : a.ownership with
    | owner => exact near
    | view owner =>
      rw [kind] at root
      exact root
  buffer := holds.buffer

/-- A call of an array in scope. -/
theorem orderly_of_array {name : Nat} {f : DeviceArray → Client (Reply × Workspace)}
    (known : ws.Known K) (performed : (do return f (← ws.array? name)) = some c)
    (runs : ∀ a, K.Holds a → Request.Orderly (f a) K) : Request.Orderly c K := by
  obtain ⟨a, found, rfl⟩ := exists_of_array performed
  exact runs a (known.arrays name a found)

theorem orderly_of_stream {name : Nat} {f : Stream → Client (Reply × Workspace)}
    (known : ws.Known K) (performed : (do return f (← ws.stream? name)) = some c)
    (runs : ∀ s, K.Drives s → Request.Orderly (f s) K) : Request.Orderly c K := by
  obtain ⟨s, found, rfl⟩ := exists_of_stream performed
  exact runs s (known.streams name s found)

theorem orderly_assignStream {array stream : Nat} (known : ws.Known K)
    (performed : (Request.assignStream array stream).perform ws = some c) :
    Request.Orderly c K := by
  obtain ⟨a, found, performed⟩ := Option.bind_eq_some_iff.mp performed
  obtain ⟨s, there, performed⟩ := Option.bind_eq_some_iff.mp performed
  dsimp only at performed
  split at performed
  case isTrue => cases performed
  case isFalse =>
    obtain ⟨assigned, near⟩ | ⟨e, refused, _⟩ := assignStream_cases a s
    · rw [assigned] at performed
      cases performed
      refine known.put found fun b same => ?_
      cases same
      exact holds_of_assign (known.arrays array a found) (known.streams stream s there) near
    · rw [refused] at performed
      cases performed
      exact known

theorem orderly_build {extents : List Nat} {type : ElementType} {layout : Layout}
    {device stream : Option Nat} (known : ws.Known K)
    (performed : (Request.build extents type layout device stream).perform ws = some c) :
    Request.Orderly c K := by
  obtain ⟨d, devices, performed⟩ := Option.bind_eq_some_iff.mp performed
  obtain ⟨s, streams, performed⟩ := Option.bind_eq_some_iff.mp performed
  cases performed
  refine orderly_keep known
    (Call.Orderly.mono (DeviceArray.orderly_build ?_) fun _ _ _ made => made.2.2)
  rintro t rfl
  obtain ⟨i, there⟩ := exists_of_lookUp? streams
  exact known.streams i t there

theorem orderly_release {array : Nat} (known : ws.Known K)
    (performed : (Request.release array).perform ws = some c) : Request.Orderly c K := by
  obtain ⟨a, found, performed⟩ := Option.bind_eq_some_iff.mp performed
  dsimp only at performed
  split at performed
  case isTrue => cases performed
  case isFalse =>
    cases performed
    exact orderly_tell (known.remove found)
      (DeviceArray.orderly_release (known.arrays array a found))

theorem orderly_drop {array : Nat} (known : ws.Known K)
    (performed : (Request.drop array).perform ws = some c) : Request.Orderly c K := by
  obtain ⟨a, found, performed⟩ := Option.bind_eq_some_iff.mp performed
  dsimp only at performed
  split at performed
  case isTrue => cases performed
  case isFalse =>
    cases performed
    exact orderly_tell (known.remove found)
      (Call.orderly_lift (DeviceArray.orderly_drop (known.arrays array a found)))

/-- Only a buffer of the stream's device can be released by hand. -/
theorem orderly_releaseBuffer {stream : Nat} {b : BufferId} (known : ws.Known K)
    (performed : (Request.releaseBuffer stream b).perform ws = some c) : Request.Orderly c K := by
  obtain ⟨s, found, performed⟩ := Option.bind_eq_some_iff.mp performed
  dsimp only at performed
  split at performed
  case isTrue => cases performed
  case isFalse given =>
    cases performed
    have issued := known.issued _ (Decidable.not_not.mp given)
    refine orderly_tell known (Stream.orderly_release fun _ =>
      (known.streams stream s found).domestic fun d member => ?_)
    cases List.mem_singleton.mp member
    exact issued

theorem orderly_openStream {device : Nat} {options : StreamOptions} (known : ws.Known K)
    (performed : (Request.openStream device options).perform ws = some c) :
    Request.Orderly c K := by
  obtain ⟨d, _, performed⟩ := Option.bind_eq_some_iff.mp performed
  cases performed
  refine Client.Orderly.bind (Client.Orderly.mono (Stream.orderly_create d options)
    fun result M grows ended => ?_)
  have known := known.mono grows
  cases result with
  | error e => exact known
  | ok s =>
    refine ⟨fun i t found => ?_, known.arrays, known.issued⟩
    obtain ⟨_, rfl⟩ | old := Workspace.stream?_opened found
    · exact ended
    · exact known.streams i t old

theorem orderly_closeStream {stream : Nat} (known : ws.Known K)
    (performed : (Request.closeStream stream).perform ws = some c) : Request.Orderly c K := by
  obtain ⟨s, _, performed⟩ := Option.bind_eq_some_iff.mp performed
  dsimp only at performed
  split at performed
  case isTrue => cases performed
  case isFalse =>
    cases performed
    refine orderly_tell ⟨fun i t found => ?_, known.arrays, known.issued⟩
      Stream.orderly_close
    exact known.streams i t (Workspace.stream?_closed found).2

/-- Every call is orderly. -/
theorem orderly_perform (known : ws.Known K) (performed : request.perform ws = some c) :
    Request.Orderly c K := by
  cases request with
  | build extents type layout device stream => exact orderly_build known performed
  | empty stream extents type layout mirrored =>
    exact orderly_of_stream known performed fun s driven =>
      orderly_keep_made known (Stream.orderly_empty driven)
  | emptyLike stream like mirrored =>
    obtain ⟨s, found, performed⟩ := Option.bind_eq_some_iff.mp performed
    obtain ⟨a, _, performed⟩ := Option.bind_eq_some_iff.mp performed
    cases performed
    exact orderly_keep_made known (Stream.orderly_empty (known.streams stream s found))
  | zeros stream extents type =>
    exact orderly_of_stream known performed fun s driven =>
      orderly_keep_made known (Stream.orderly_filled driven)
  | ones stream extents type =>
    exact orderly_of_stream known performed fun s driven =>
      orderly_keep_made known (Stream.orderly_filled driven)
  | bind stream g =>
    exact orderly_of_stream known performed fun s driven =>
      orderly_keep_made known (Stream.orderly_bindWith driven)
  | binary array operation source =>
    obtain ⟨a, found, performed⟩ := Option.bind_eq_some_iff.mp performed
    obtain ⟨operand, right, performed⟩ := Option.bind_eq_some_iff.mp performed
    cases performed
    exact orderly_keep_made known
      (DeviceArray.orderly_binary (known.arrays array a found) (known.operand right))
  | abs array =>
    exact orderly_of_array known performed fun a holds =>
      orderly_keep_made known (DeviceArray.orderly_abs holds)
  | reverse array =>
    exact orderly_of_array known performed fun a holds =>
      orderly_keep_made known (DeviceArray.orderly_reverse holds)
  | fill array value =>
    exact orderly_of_array known performed fun a holds =>
      orderly_tell known (DeviceArray.orderly_fill holds)
  | zero array =>
    exact orderly_of_array known performed fun a holds =>
      orderly_tell known (DeviceArray.orderly_fill holds)
  | one array =>
    exact orderly_of_array known performed fun a holds =>
      orderly_tell known (DeviceArray.orderly_fill holds)
  | fillFrom array g =>
    exact orderly_of_array known performed fun a holds =>
      orderly_tell known (DeviceArray.orderly_fillFrom holds)
  | setSlice array start stop source =>
    obtain ⟨a, found, performed⟩ := Option.bind_eq_some_iff.mp performed
    obtain ⟨operand, right, performed⟩ := Option.bind_eq_some_iff.mp performed
    cases performed
    exact orderly_tell known
      (DeviceArray.orderly_setSlice (known.arrays array a found) (known.operand right))
  | updateDevice array =>
    exact orderly_of_array known performed fun a holds =>
      orderly_tell known (DeviceArray.orderly_updateDevice holds)
  | updateHost array =>
    exact orderly_of_array known performed fun a holds =>
      orderly_tell known (DeviceArray.orderly_updateHost holds)
  | reshape array extents =>
    exact orderly_of_array known performed fun a holds =>
      orderly_keep known (Call.orderly_check fun b => holds_of_reshape holds)
  | ravel array =>
    exact orderly_of_array known performed fun a holds =>
      orderly_keep known (Call.orderly_check fun b => holds_of_reshape holds)
  | hostBytes array =>
    exact orderly_of_array known performed fun a holds =>
      orderly_tell known (HostStore.orderly_bytes a.store)
  | elements array type =>
    exact orderly_of_array known performed fun a holds =>
      orderly_tell known (DeviceArray.orderly_elements type)
  | gridElements array type =>
    exact orderly_of_array known performed fun a holds =>
      orderly_tell known (DeviceArray.orderly_gridElements type)
  | text array =>
    exact orderly_of_array known performed fun a holds =>
      orderly_tell known DeviceArray.orderly_text
  | assignStream array stream => exact orderly_assignStream known performed
  | release array => exact orderly_release known performed
  | drop array => exact orderly_drop known performed
  | synchronize stream =>
    exact orderly_of_stream known performed fun s driven =>
      orderly_tell known (Stream.orderly_synchronize fun _ => driven.domestic nofun)
  | releaseBuffer stream b => exact orderly_releaseBuffer known performed
  | countLive stream =>
    refine orderly_of_stream known performed fun s driven => orderly_tell known ?_
    exact Call.Orderly.bind (Stream.orderly_synchronize fun _ => driven.domestic nofun)
      fun _ _ _ _ => Call.orderly_perform trivial fun _ => trivial
  | openDevice id library =>
    cases performed
    refine Client.Orderly.bind (Client.Orderly.bind ⟨trivial, fun number => ?_⟩)
    have known := known.mono (K.grows_next .openDevice number)
    exact ⟨known.streams, known.arrays, known.issued⟩
  | openStream device options => exact orderly_openStream known performed
  | closeStream stream => exact orderly_closeStream known performed

end Request

/-- A client that tells which buffers it was given is as orderly, and tells the truth. -/
theorem Client.Orderly.recording {strict : Prop} {c : Client α} {Q : α → Notes → Prop}
    {given : List (Nat × BufferId)} (h : c.Orderly strict K Q)
    (noted : ∀ b ∈ given, ⟨b.1, b.2⟩ ∈ K.buffers) :
    (c.recording given).Orderly strict K fun (a, issued) M =>
      Q a M ∧ ∀ b ∈ issued, ⟨b.1, b.2⟩ ∈ M.buffers := by
  induction c generalizing K given with
  | done a => exact ⟨h, noted⟩
  | act action next ih =>
    refine ⟨h.1, fun reply => ih reply (h.2 reply) fun b member => ?_⟩
    obtain new | old := List.mem_append.mp member
    · cases action with
      | allocate device size =>
        cases List.mem_singleton.mp new
        exact .head _
      | _ => cases new
    · exact (K.grows_next action reply).buffers (noted b old)

/-- Every program is orderly, to its end. -/
theorem Program.orderly_client {p : Program} {log : List (Request × Option Reply)}
    (known : ws.Known K) :
    (p.client ws log).Orderly True K fun outcome M => outcome.workspace.Known M := by
  induction p generalizing K ws log with
  | done => exact known
  | call request next ih =>
    unfold client
    cases performed : request.perform ws with
    | none => exact ih none known
    | some work =>
      have runs := Request.orderly_perform known performed
      refine Client.Orderly.bind (Client.Orderly.mono (runs.recording known.issued) ?_)
      rintro ⟨⟨reply, after⟩, issued⟩ M grows ⟨ended, noted⟩
      exact ih (some reply) { ended with issued := noted }

end DeviceArrays
