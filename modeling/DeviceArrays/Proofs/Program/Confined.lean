import DeviceArrays.Proofs.Client.Confined
import DeviceArrays.Proofs.Program.Careful

/-!
# What each call may change

A call assigns at most the buffer and the host store of one handle, and frees at most the buffer of
one owner. All else that it changes it has made itself. Where one of its checks fails it has not
acted, except for a kernel that is missing when a new array is to be filled.
-/
namespace DeviceArrays

variable {α : Type} {F : Footprint} {ws : Workspace} {request : Request}

/-- Whether the right-hand side of an operation is an array that is kept in a given buffer. -/
def Source.isIn (ws : Workspace) (b : BufferId) : Source → Bool
  | .array name => (ws.array? name).any (·.buffer = b)
  | _ => false

namespace Request

/-- The buffer that a call assigns to, that of its handle. An array that is assigned to itself or to
a view of it stays as it is. -/
def assigned? (ws : Workspace) : Request → Option BufferId
  | .fill array _ | .zero array | .one array | .fillFrom array _ | .updateDevice array =>
    (ws.array? array).map (·.buffer)
  | .setSlice array _ _ source =>
    ((ws.array? array).map (·.buffer)).filter fun b => !source.isIn ws b
  | _ => none

/-- The host store that a call overwrites, that of its handle. -/
def mirrored? (ws : Workspace) : Request → Option Nat
  | .fillFrom array _ | .updateHost array => (ws.array? array).map (·.store.number)
  | _ => none

/-- The buffer that a call gives up. A view has none to give up. -/
def freed? (ws : Workspace) : Request → Option BufferId
  | .release array | .drop array =>
    (ws.array? array).bind fun a => if a.isView then none else some a.buffer
  | .releaseBuffer _ b => some b
  | _ => none

/-- What is in scope when a call ends with an error. A handle that is released or dropped is gone
however the call ends, and so is a stream that is closed. -/
def leaves (ws : Workspace) : Request → Workspace
  | .release array | .drop array => ws.put array none
  | .closeStream stream => { ws with streams := ws.streams.set stream none }
  | _ => ws

/-- Whether a call makes all its checks before it acts. The calls that make an array of one value
look for the kernel when they have the array. -/
def checksFirst : Request → Bool
  | .zeros .. | .ones .. => false
  | _ => true

/-- A device that is opened has no kernels but those that arrays rely on. -/
def Elementwise : Request → Prop
  | .openDevice _ library => library.Elementwise
  | _ => True

end Request

/-- All libraries in scope have elementwise kernels only. -/
structure Workspace.Elementwise (ws : Workspace) : Prop where
  devices : ∀ d ∈ ws.devices, d.library.Elementwise
  streams : ∀ i s, ws.stream? i = some s → s.device.library.Elementwise
  arrays : ∀ i a, ws.array? i = some a → a.device.library.Elementwise

/-- A footprint has room for all that a call may change. -/
structure Request.Fits (request : Request) (ws : Workspace) (F : Footprint) : Prop where
  assigned : ∀ b, request.assigned? ws = some b → F.buffers b
  mirrored : ∀ i, request.mirrored? ws = some i → F.stores i
  freed : ∀ b, request.freed? ws = some b → F.buffers b
  /-- Arrays of one type that share a buffer out of reach are of one size. -/
  shared : ∀ i j a b, ws.array? i = some a → ws.array? j = some b → b.buffer = a.buffer →
    b.type = a.type → F.buffers a.buffer ∨ b.size = a.size

/-- A call that makes its checks first has not acted when one of them fails. -/
abbrev Request.Fails (request : Request) (F : Footprint) (e : Error) (acted : Bool) : Prop :=
  request.checksFirst = true → acted = false ∨ F.Late e

/-- The owners in scope after a call were there before, but for one that the call may have made. -/
def Request.Keeps (request : Request) (F : Footprint) (ws after : Workspace) : Prop :=
  after.holdings.Sublist ws.holdings ∨ ∃ h : Holding, F.buffers h.buffer ∧
    request.assigned? ws = none ∧ request.freed? ws = none ∧ after.holdings = ws.holdings ++ [h]

theorem sublist_filterMap_set {β : Type} {f : α → Option β} {l : List α} {i : Nat} {x : α}
    (h : ∀ y, l[i]? = some y → f x = none ∨ f x = f y) :
    ((l.set i x).filterMap f).Sublist (l.filterMap f) := by
  induction l generalizing i with
  | nil => exact .refl _
  | cons y l ih =>
    cases i with
    | zero =>
      rw [List.set_cons_zero, List.filterMap_cons, List.filterMap_cons]
      obtain gone | same := h y rfl
      · rw [gone]
        cases f y with
        | none => exact .refl _
        | some b => exact List.sublist_cons_self b _
      · rw [same]
    | succ i =>
      rw [List.set_cons_succ, List.filterMap_cons, List.filterMap_cons]
      have later := ih fun z found => h z (by simpa using found)
      cases f y with
      | none => exact later
      | some b => exact later.cons_cons b

theorem Request.holdings_leaves (request : Request) (ws : Workspace) :
    (request.leaves ws).holdings.Sublist ws.holdings := by
  cases request with
  | release array => exact sublist_filterMap_set fun _ _ => .inl rfl
  | drop array => exact sublist_filterMap_set fun _ _ => .inl rfl
  | _ => exact .refl _

/-- An owner that was made adds its own buffer. -/
theorem Request.keeps_of_makes {r : ArrayRequest} {a : DeviceArray} (made : F.Makes r a)
    (fills : request.assigned? ws = none) (frees : request.freed? ws = none) :
    request.Keeps F ws (ws.add a) := by
  have owner : a.isView = false := by simp [DeviceArray.isView, made.owner]
  have more := ws.holdings_add a
  rw [Workspace.holding?_owner owner, Option.toList_some] at more
  exact .inr ⟨a.holding, made.buffer, fills, frees, more⟩

/-- A view adds none. -/
theorem Request.keeps_of_reshape {a b : DeviceArray} {extents : List Nat}
    (view : a.reshape extents = .ok b) : request.Keeps F ws (ws.add b) := by
  have more := ws.holdings_add b
  obtain ⟨shape, _, rfl⟩ := Workspace.eq_of_reshape view
  rw [Workspace.holding?_view rfl, Option.toList_none, List.append_nil] at more
  exact .inl (more ▸ .refl _)

/-- How a confined call ends. -/
structure Request.Closes (request : Request) (F : Footprint) (ws : Workspace) (reply : Reply)
    (after : Workspace) (acted : Bool) : Prop where
  elementwise : request.Elementwise → after.Elementwise
  failed : ∀ e, reply = .error e → after = request.leaves ws
  freed : (request.freed? ws).isSome → after = request.leaves ws
  early : ∀ e, reply = .error e → request.Fails F e acted
  owners : request.Keeps F ws after

theorem Request.Closes.of_answer {answer : Answer} {after : Workspace} {acted : Bool}
    (elementwise : request.Elementwise → after.Elementwise) (holds : request.freed? ws = none)
    (owners : request.Keeps F ws after) : request.Closes F ws (.ok answer) after acted where
  elementwise := elementwise
  failed e same := by cases same
  freed frees := by simp [holds] at frees
  early e same := by cases same
  owners := owners

theorem Request.Closes.of_error {e : Error} {after : Workspace} {acted : Bool}
    (elementwise : after.Elementwise) (left : after = request.leaves ws)
    (h : request.Fails F e acted) : request.Closes F ws (.error e) after acted where
  elementwise _ := elementwise
  failed _ _ := left
  freed _ := left
  early other same := by
    cases same
    exact h
  owners := .inl (left ▸ request.holdings_leaves ws)

/-- The client of a call is confined and ends as it should. -/
abbrev Request.Confined (request : Request) (F : Footprint) (ws : Workspace)
    (c : Client (Reply × Workspace)) : Prop :=
  c.Confined F false fun (reply, after) acted => request.Closes F ws reply after acted

namespace Workspace

theorem Elementwise.add (elementwise : ws.Elementwise) {a : DeviceArray}
    (new : a.device.library.Elementwise) : (ws.add a).Elementwise where
  devices := elementwise.devices
  streams := elementwise.streams
  arrays i b found := by
    rw [array?_add] at found
    split at found
    case isTrue =>
      cases found
      exact new
    case isFalse => exact elementwise.arrays i b found

theorem Elementwise.put (elementwise : ws.Elementwise) {a : DeviceArray} {i : Nat}
    (found : ws.array? i = some a) {x : Option DeviceArray}
    (new : ∀ b, x = some b → b.device.library.Elementwise) : (ws.put i x).Elementwise where
  devices := elementwise.devices
  streams := elementwise.streams
  arrays j b there := by
    rw [array?_put found] at there
    split at there
    case isTrue => exact new b there
    case isFalse => exact elementwise.arrays j b there

theorem Elementwise.remove (elementwise : ws.Elementwise) {a : DeviceArray} {i : Nat}
    (found : ws.array? i = some a) : (ws.put i none).Elementwise :=
  elementwise.put found fun _ none_left => by cases none_left

theorem confined_tell {after : Workspace} {call : Call α} {answer : α → Answer}
    (elementwise : after.Elementwise) (left : after = request.leaves ws)
    (runs : Call.Confined F call false (fun _ _ => True) fun e acted => request.Fails F e acted) :
    request.Confined F ws (after.tell call answer) := by
  refine Client.Confined.bind (Client.Confined.mono runs fun result acted ended => ?_)
  cases result with
  | ok a =>
    refine ⟨fun _ => elementwise, fun _ _ => left, fun _ => left, fun e same => ?_,
      .inl (left ▸ request.holdings_leaves ws)⟩
    cases same
  | error e => exact .of_error elementwise left ended

theorem confined_keep {call : Call DeviceArray} (elementwise : ws.Elementwise)
    (left : ws = request.leaves ws) (holds : request.freed? ws = none)
    (runs : Call.Confined F call false
      (fun a _ => a.device.library.Elementwise ∧ request.Keeps F ws (ws.add a))
      fun e acted => request.Fails F e acted) :
    request.Confined F ws (ws.keep call) := by
  refine Client.Confined.bind (Client.Confined.mono runs fun result acted ended => ?_)
  cases result with
  | ok a => exact .of_answer (fun _ => elementwise.add ended.1) holds ended.2
  | error e => exact .of_error elementwise left ended

/-- An owner that was made is on the device of the stream or of the array it was made with. -/
theorem confined_keep_made {call : Call DeviceArray} {r : ArrayRequest} {d : Device}
    (elementwise : ws.Elementwise) (library : d.library.Elementwise)
    (left : ws = request.leaves ws) (fills : request.assigned? ws = none)
    (holds : request.freed? ws = none)
    (runs : Call.Confined F call false (fun a _ => F.Makes r a)
      fun e acted => request.Fails F e acted) (near : r.device = some d) :
    request.Confined F ws (ws.keep call) := by
  refine confined_keep elementwise left holds (runs.mono (fun a _ made => ⟨?_, ?_⟩) fun _ _ => id)
  · have same : a.device = d := Option.some.inj (made.device.trans near)
    rwa [same]
  · exact Request.keeps_of_makes made fills holds

end Workspace

namespace Request

variable {c : Client (Reply × Workspace)}

/-- What a call of an array in scope does. -/
theorem exists_of_array {name : Nat} {f : DeviceArray → Client (Reply × Workspace)}
    (performed : (do return f (← ws.array? name)) = some c) :
    ∃ a, ws.array? name = some a ∧ c = f a := by
  obtain ⟨a, found, performed⟩ := Option.bind_eq_some_iff.mp performed
  cases performed
  exact ⟨a, found, rfl⟩

theorem exists_of_stream {name : Nat} {f : Stream → Client (Reply × Workspace)}
    (performed : (do return f (← ws.stream? name)) = some c) :
    ∃ s, ws.stream? name = some s ∧ c = f s := by
  obtain ⟨s, found, performed⟩ := Option.bind_eq_some_iff.mp performed
  cases performed
  exact ⟨s, found, rfl⟩

theorem exists_of_operand {name : Nat} {source : Source}
    {f : DeviceArray → Operand → Client (Reply × Workspace)}
    (performed : (do
      let a ← ws.array? name
      let operand ← ws.operand? source
      return f a operand) = some c) :
    ∃ a operand, ws.array? name = some a ∧ c = f a operand := by
  obtain ⟨a, found, performed⟩ := Option.bind_eq_some_iff.mp performed
  obtain ⟨operand, _, performed⟩ := Option.bind_eq_some_iff.mp performed
  cases performed
  exact ⟨a, operand, found, rfl⟩

theorem confined_build {extents : List Nat} {type : ElementType} {layout : Layout}
    {device stream : Option Nat} (elementwise : ws.Elementwise)
    (performed : (Request.build extents type layout device stream).perform ws = some c) :
    (Request.build extents type layout device stream).Confined F ws c := by
  obtain ⟨d, devices, performed⟩ := Option.bind_eq_some_iff.mp performed
  obtain ⟨s, streams, performed⟩ := Option.bind_eq_some_iff.mp performed
  cases performed
  refine Workspace.confined_keep elementwise rfl rfl
    (DeviceArray.confined_build (fun a made => ?_) fun e _ _ => .inl rfl)
  have same : some a.device = d := made.device
  subst same
  obtain ⟨i, there⟩ := exists_of_lookUp? devices
  exact ⟨elementwise.devices a.device (List.mem_of_getElem? there), keeps_of_makes made rfl rfl⟩

theorem confined_assignStream {array stream : Nat} (elementwise : ws.Elementwise)
    (performed : (Request.assignStream array stream).perform ws = some c) :
    (Request.assignStream array stream).Confined F ws c := by
  obtain ⟨a, found, performed⟩ := Option.bind_eq_some_iff.mp performed
  obtain ⟨s, there, performed⟩ := Option.bind_eq_some_iff.mp performed
  dsimp only at performed
  split at performed
  case isTrue => cases performed
  case isFalse =>
    obtain ⟨assigned, near⟩ | ⟨e, refused, refusal⟩ := assignStream_cases a s
    · rw [assigned] at performed
      cases performed
      refine .of_answer (fun _ => elementwise.put found fun b same => ?_) rfl
        (.inl (sublist_filterMap_set fun x there => .inr ?_))
      · cases same
        exact elementwise.arrays array a found
      · cases (Workspace.getElem?_of_array? found).symm.trans there
        rfl
    · rw [refused] at performed
      cases performed
      exact .of_error elementwise rfl fun _ => .inl rfl

/-- Releasing or dropping a handle frees the buffer of an owner and nothing of a view. -/
theorem confined_release {array : Nat} (elementwise : ws.Elementwise)
    (fits : (Request.release array).Fits ws F)
    (performed : (Request.release array).perform ws = some c) :
    (Request.release array).Confined F ws c := by
  obtain ⟨a, found, performed⟩ := Option.bind_eq_some_iff.mp performed
  dsimp only at performed
  split at performed
  case isTrue => cases performed
  case isFalse =>
    cases performed
    refine Workspace.confined_tell (elementwise.remove found) rfl ?_
    unfold DeviceArray.release
    cases kind : a.ownership with
    | owner =>
      have mine : F.buffers a.buffer :=
        fits.freed a.buffer (by simp [freed?, found, DeviceArray.isView, kind])
      exact Stream.confined_release mine trivial fun e failed _ => .inr failed
    | view root => exact Call.confined_throw fun _ => .inl rfl

theorem confined_drop {array : Nat} (elementwise : ws.Elementwise)
    (fits : (Request.drop array).Fits ws F)
    (performed : (Request.drop array).perform ws = some c) :
    (Request.drop array).Confined F ws c := by
  obtain ⟨a, found, performed⟩ := Option.bind_eq_some_iff.mp performed
  dsimp only at performed
  split at performed
  case isTrue => cases performed
  case isFalse =>
    cases performed
    refine Workspace.confined_tell (elementwise.remove found) rfl (Call.confined_lift ?_)
    cases kind : a.ownership with
    | owner =>
      have mine : F.buffers a.buffer :=
        fits.freed a.buffer (by simp [freed?, found, DeviceArray.isView, kind])
      exact DeviceArray.confined_drop_owner kind mine trivial
    | view root =>
      rw [DeviceArray.drop, kind]
      exact trivial

theorem confined_openStream {device : Nat} {options : StreamOptions}
    (elementwise : ws.Elementwise)
    (performed : (Request.openStream device options).perform ws = some c) :
    (Request.openStream device options).Confined F ws c := by
  obtain ⟨d, found, performed⟩ := Option.bind_eq_some_iff.mp performed
  cases performed
  refine Client.Confined.bind (Client.Confined.mono (Stream.confined_create
    (Q := fun s _ => s.device = d) (E := fun _ _ => False) fun _ => rfl)
    fun result acted ended => ?_)
  cases result with
  | error e => exact ended.elim
  | ok s =>
    refine .of_answer (fun _ => ⟨elementwise.devices, fun i t there => ?_, elementwise.arrays⟩) rfl
      (.inl (.refl _))
    obtain ⟨_, rfl⟩ | old := Workspace.stream?_opened there
    · rw [show t.device = d from ended]
      exact elementwise.devices d (List.mem_of_getElem? found)
    · exact elementwise.streams i t old

theorem confined_closeStream {stream : Nat} (elementwise : ws.Elementwise)
    (performed : (Request.closeStream stream).perform ws = some c) :
    (Request.closeStream stream).Confined F ws c := by
  obtain ⟨s, found, performed⟩ := Option.bind_eq_some_iff.mp performed
  dsimp only at performed
  split at performed
  case isTrue => cases performed
  case isFalse =>
    cases performed
    refine Workspace.confined_tell ?_ rfl (Stream.confined_close trivial)
    refine ⟨elementwise.devices, fun i t there => ?_, elementwise.arrays⟩
    exact elementwise.streams i t (Workspace.stream?_closed there).2

theorem confined_setSlice {array start stop : Nat} {source : Source}
    (elementwise : ws.Elementwise) (fits : (Request.setSlice array start stop source).Fits ws F)
    (performed : (Request.setSlice array start stop source).perform ws = some c) :
    (Request.setSlice array start stop source).Confined F ws c := by
  obtain ⟨a, found, performed⟩ := Option.bind_eq_some_iff.mp performed
  obtain ⟨operand, right, performed⟩ := Option.bind_eq_some_iff.mp performed
  cases performed
  have library := elementwise.arrays array a found
  refine Workspace.confined_tell elementwise rfl ?_
  have apart (other : source.isIn ws a.buffer = false) : F.buffers a.buffer :=
    fits.assigned a.buffer (by simp [assigned?, found, Option.filter, other])
  have assigns (mine : F.buffers a.buffer) : Call.Confined F (a.setSlice start stop operand) false
      (fun _ _ => True) fun e acted => (setSlice array start stop source).Fails F e acted :=
    DeviceArray.confined_setSlice library mine trivial trivial (fun _ _ => .inl rfl)
      fun _ failed _ => .inr failed
  cases source with
  | grid g => exact assigns (apart rfl)
  | scalar value => exact assigns (apart rfl)
  | array name =>
    obtain ⟨b, there, rfl⟩ := Option.map_eq_some_iff.mp right
    by_cases shared : b.buffer = a.buffer
    · by_cases sized : b.type = a.type → b.size = a.size
      · exact DeviceArray.confined_setSlice_self library shared sized trivial trivial
          (fun _ _ => .inl rfl) fun _ failed _ => .inr failed
      · obtain ⟨type, size⟩ := Classical.not_imp.mp sized
        exact assigns ((fits.shared array name a b found there shared type).resolve_right size)
    · exact assigns (apart (by simp [Source.isIn, there, shared]))

/-- Every call changes what it may change, and nothing else. -/
theorem confined_perform (elementwise : ws.Elementwise) (fits : request.Fits ws F)
    (performed : request.perform ws = some c) : request.Confined F ws c := by
  have early : ∀ e, request.Fails F e false := fun e _ => .inl rfl
  have late : ∀ e, F.Late e → request.Fails F e true := fun e failed _ => .inr failed
  cases request with
  | build extents type layout device stream => exact confined_build elementwise performed
  | empty stream extents type layout mirrored =>
    obtain ⟨s, found, rfl⟩ := exists_of_stream performed
    have library := elementwise.streams stream s found
    exact Workspace.confined_keep_made elementwise library rfl rfl rfl
      (Stream.confined_empty (fun _ => id) early late) rfl
  | emptyLike stream like mirrored =>
    obtain ⟨s, found, performed⟩ := Option.bind_eq_some_iff.mp performed
    obtain ⟨a, _, performed⟩ := Option.bind_eq_some_iff.mp performed
    cases performed
    have library := elementwise.streams stream s found
    exact Workspace.confined_keep_made elementwise library rfl rfl rfl
      (Stream.confined_empty (fun _ => id) early late) rfl
  | zeros stream extents type =>
    obtain ⟨s, found, rfl⟩ := exists_of_stream performed
    have library := elementwise.streams stream s found
    exact Workspace.confined_keep_made elementwise library rfl rfl rfl
      (Stream.confined_filled library (fun _ => id) fun _ _ => nofun) rfl
  | ones stream extents type =>
    obtain ⟨s, found, rfl⟩ := exists_of_stream performed
    have library := elementwise.streams stream s found
    exact Workspace.confined_keep_made elementwise library rfl rfl rfl
      (Stream.confined_filled library (fun _ => id) fun _ _ => nofun) rfl
  | bind stream g =>
    obtain ⟨s, found, rfl⟩ := exists_of_stream performed
    have library := elementwise.streams stream s found
    exact Workspace.confined_keep_made elementwise library rfl rfl rfl
      (Stream.confined_bindWith (fun _ => id) (fun e _ => early e) late) rfl
  | binary array operation source =>
    obtain ⟨a, operand, found, rfl⟩ := exists_of_operand performed
    have library := elementwise.arrays array a found
    exact Workspace.confined_keep_made elementwise library rfl rfl rfl
      (DeviceArray.confined_binary library (fun _ => id) early late) rfl
  | abs array =>
    obtain ⟨a, found, rfl⟩ := exists_of_array performed
    have library := elementwise.arrays array a found
    exact Workspace.confined_keep_made elementwise library rfl rfl rfl
      (DeviceArray.confined_abs library (fun _ => id) early late) rfl
  | reverse array =>
    obtain ⟨a, found, rfl⟩ := exists_of_array performed
    have library := elementwise.arrays array a found
    exact Workspace.confined_keep_made elementwise library rfl rfl rfl
      (DeviceArray.confined_reverse library (fun _ => id) early late) rfl
  | fill array value =>
    obtain ⟨a, found, rfl⟩ := exists_of_array performed
    have mine := fits.assigned a.buffer (by simp [assigned?, found])
    exact Workspace.confined_tell elementwise rfl
      (DeviceArray.confined_fill (elementwise.arrays array a found) mine trivial early late)
  | zero array =>
    obtain ⟨a, found, rfl⟩ := exists_of_array performed
    have mine := fits.assigned a.buffer (by simp [assigned?, found])
    exact Workspace.confined_tell elementwise rfl
      (DeviceArray.confined_fill (elementwise.arrays array a found) mine trivial early late)
  | one array =>
    obtain ⟨a, found, rfl⟩ := exists_of_array performed
    have mine := fits.assigned a.buffer (by simp [assigned?, found])
    exact Workspace.confined_tell elementwise rfl
      (DeviceArray.confined_fill (elementwise.arrays array a found) mine trivial early late)
  | fillFrom array g =>
    obtain ⟨a, found, rfl⟩ := exists_of_array performed
    have mine := fits.assigned a.buffer (by simp [assigned?, found])
    have mirror := fits.mirrored a.store.number (by simp [mirrored?, found])
    exact Workspace.confined_tell elementwise rfl
      (DeviceArray.confined_fillFrom mine mirror trivial early late)
  | setSlice array start stop source =>
    exact confined_setSlice elementwise fits performed
  | updateDevice array =>
    obtain ⟨a, found, rfl⟩ := exists_of_array performed
    have mine := fits.assigned a.buffer (by simp [assigned?, found])
    exact Workspace.confined_tell elementwise rfl
      (DeviceArray.confined_updateDevice mine trivial late)
  | updateHost array =>
    obtain ⟨a, found, rfl⟩ := exists_of_array performed
    have mirror := fits.mirrored a.store.number (by simp [mirrored?, found])
    exact Workspace.confined_tell elementwise rfl
      (DeviceArray.confined_updateHost mirror trivial late)
  | reshape array extents =>
    obtain ⟨a, found, rfl⟩ := exists_of_array performed
    refine Workspace.confined_keep elementwise rfl rfl
      (Call.confined_check (fun b view => ?_) fun e _ => early e)
    have library := elementwise.arrays array a found
    rw [DeviceArray.device, ← DeviceArray.storage_reshape view] at library
    exact ⟨library, keeps_of_reshape view⟩
  | ravel array =>
    obtain ⟨a, found, rfl⟩ := exists_of_array performed
    refine Workspace.confined_keep elementwise rfl rfl
      (Call.confined_check (fun b view => ?_) fun e _ => early e)
    have library := elementwise.arrays array a found
    rw [DeviceArray.device, ← DeviceArray.storage_reshape view] at library
    exact ⟨library, keeps_of_reshape view⟩
  | hostBytes array =>
    obtain ⟨a, _, rfl⟩ := exists_of_array performed
    exact Workspace.confined_tell elementwise rfl (HostStore.confined_bytes fun _ => trivial)
  | elements array type =>
    obtain ⟨a, _, rfl⟩ := exists_of_array performed
    exact Workspace.confined_tell elementwise rfl
      (DeviceArray.confined_elements (fun _ => trivial) early)
  | gridElements array type =>
    obtain ⟨a, _, rfl⟩ := exists_of_array performed
    exact Workspace.confined_tell elementwise rfl
      (DeviceArray.confined_gridElements (fun _ => trivial) early)
  | text array =>
    obtain ⟨a, _, rfl⟩ := exists_of_array performed
    exact Workspace.confined_tell elementwise rfl
      (DeviceArray.confined_text (fun _ => trivial) early)
  | assignStream array stream => exact confined_assignStream elementwise performed
  | release array => exact confined_release elementwise fits performed
  | drop array => exact confined_drop elementwise fits performed
  | synchronize stream =>
    obtain ⟨s, _, rfl⟩ := exists_of_stream performed
    exact Workspace.confined_tell elementwise rfl (Stream.confined_synchronize trivial late)
  | releaseBuffer stream b =>
    obtain ⟨s, _, performed⟩ := Option.bind_eq_some_iff.mp performed
    dsimp only at performed
    split at performed
    case isTrue => cases performed
    case isFalse =>
      cases performed
      exact Workspace.confined_tell elementwise rfl
        (Stream.confined_release (fits.freed b rfl) trivial late)
  | countLive stream =>
    obtain ⟨s, _, rfl⟩ := exists_of_stream performed
    refine Workspace.confined_tell elementwise rfl
      (Call.Confined.bind (Stream.confined_synchronize ?_ late))
    exact Call.confined_perform trivial fun _ _ => trivial
  | openDevice id library =>
    cases performed
    refine Client.Confined.bind (Client.Confined.mono (Device.confined_create
      (Q := fun d _ => d.library = library) (E := fun _ _ => False) fun _ => rfl)
      fun result acted ended => ?_)
    cases result with
    | error e => exact ended.elim
    | ok d =>
      refine .of_answer
        (fun known => ⟨fun e member => ?_, elementwise.streams, elementwise.arrays⟩) rfl
        (.inl (.refl _))
      obtain old | new := List.mem_append.mp member
      · exact elementwise.devices e old
      · cases List.mem_singleton.mp new
        rw [show d.library = library from ended]
        exact known
  | openStream device options => exact confined_openStream elementwise performed
  | closeStream stream => exact confined_closeStream elementwise performed

end Request

/-- A client that tells which buffers it was given is as confined. -/
theorem Client.Confined.recording {c : Client α} {F : Footprint} {acted : Bool}
    {Q : α → Bool → Prop} {given : List (Nat × BufferId)} (h : c.Confined F acted Q) :
    (c.recording given).Confined F acted fun (a, _) acted => Q a acted := by
  induction c generalizing acted given with
  | done a => exact h
  | act action next ih => exact ⟨h.1, fun reply promised => ih reply (h.2 reply promised)⟩

end DeviceArrays
