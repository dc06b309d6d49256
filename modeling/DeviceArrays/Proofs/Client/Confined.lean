import DeviceArrays.DeviceArray.Operators
import DeviceArrays.Proofs.Client.Operators
import DeviceArrays.Proofs.Kernel.Target

/-!
# Footprints of clients

A footprint says which buffers and host stores a client may change and which failures a stream may
tell it of. A client is confined to it if none of its actions, nor any command it submits, changes
anything else, whatever the answers are. What it makes for itself counts as part of the footprint.
The same judgement keeps count of whether the client has acted at all.
-/
namespace DeviceArrays

variable {α β : Type} {acted : Bool}

/-- What a client may change, and which failures it may be told of. -/
structure Footprint where
  buffers : BufferId → Prop
  stores : Nat → Prop
  failures : Error → Prop

namespace Footprint

/-- The commands that change nothing else. Only elementwise kernels are known to have a target, and
some launches of them change nothing at all. -/
def AllowsCommand (F : Footprint) : Command → Prop
  | .copyToDevice b _ => F.buffers b
  | .copyToHost _ store => F.stores store.number
  | .launch kernel arguments =>
    ∃ k : ElementwiseKernel, kernel = k.toKernel ∧
      ∀ values, Contract.read k.name k.parameters arguments = .ok values →
        F.buffers (k.target values) ∨ k.Idle values
  | .release b => F.buffers b
  | .fence => True

def Allows (F : Footprint) : Action → Prop
  | .patchStore store _ _ => F.stores store
  | .submit _ command => F.AllowsCommand command
  | _ => True

/-- What the answer to an allowed action is known to be. -/
def Promises (F : Footprint) : (a : Action) → a.Reply → Prop
  | .createStore _, (store : HostStore) => F.stores store.number
  | .allocate .., (b : BufferId) => F.buffers b
  | .takeFailure _, failure => ∀ e, failure = some e → F.failures e
  | _, _ => True

/-- The errors that a call may meet once it has acted. -/
def Late (F : Footprint) (e : Error) : Prop := e = .streamClosed ∨ F.failures e

theorem allows_launch_of {F : Footprint} {k : ElementwiseKernel}
    {v : Parameter.Values k.parameters} (h : F.buffers (k.target v) ∨ k.Idle v) :
    F.AllowsCommand (.launch k.toKernel (Contract.write k.parameters v)) := by
  refine ⟨k, rfl, fun others read => ?_⟩
  rw [Contract.read_write] at read
  cases read
  exact h

theorem allows_launch {F : Footprint} {k : ElementwiseKernel}
    {v : Parameter.Values k.parameters} (mine : F.buffers (k.target v)) :
    F.AllowsCommand (.launch k.toKernel (Contract.write k.parameters v)) :=
  allows_launch_of (.inl mine)

end Footprint

variable {F : Footprint}

namespace Client

/-- Takes only allowed actions, and ends as `Q` says, which is also told whether the client has
acted. -/
def Confined (F : Footprint) : Client α → Bool → (α → Bool → Prop) → Prop
  | .done a, acted, Q => Q a acted
  | .act action next, _, Q =>
    F.Allows action ∧ ∀ reply, F.Promises action reply → (next reply).Confined F true Q

theorem Confined.mono {Q R : α → Bool → Prop} {c : Client α} (h : c.Confined F acted Q)
    (weaker : ∀ a acted, Q a acted → R a acted) : c.Confined F acted R := by
  induction c generalizing acted with
  | done a => exact weaker a acted h
  | act action next ih => exact ⟨h.1, fun reply promised => ih reply (h.2 reply promised)⟩

theorem Confined.bind {c : Client α} {f : α → Client β} {Q : β → Bool → Prop}
    (h : c.Confined F acted fun a acted => (f a).Confined F acted Q) :
    (c.bind f).Confined F acted Q := by
  induction c generalizing acted with
  | done a => exact h
  | act action next ih => exact ⟨h.1, fun reply promised => ih reply (h.2 reply promised)⟩

end Client

namespace Call

/-- Takes only allowed actions, and ends as `Q` says with a result and as `E` says with an error. -/
def Confined (F : Footprint) (c : Call α) (acted : Bool) (Q : α → Bool → Prop)
    (E : Error → Bool → Prop) : Prop :=
  Client.Confined F c.run acted fun
    | .ok a, acted => Q a acted
    | .error e, acted => E e acted

variable {Q : α → Bool → Prop} {E : Error → Bool → Prop}

theorem Confined.mono {c : Call α} {R : α → Bool → Prop} {G : Error → Bool → Prop}
    (h : Call.Confined F c acted Q E) (result : ∀ a acted, Q a acted → R a acted)
    (error : ∀ e acted, E e acted → G e acted) : Call.Confined F c acted R G := by
  refine Client.Confined.mono h fun answer acted ended => ?_
  cases answer with
  | ok a => exact result a acted ended
  | error e => exact error e acted ended

theorem confined_throw {e : Error} (h : E e acted) : Call.Confined F (throw e) acted Q E := h

theorem Confined.bind {c : Call α} {f : α → Call β} {R : β → Bool → Prop}
    (h : Call.Confined F c acted (fun a acted => Call.Confined F (f a) acted R E) E) :
    Call.Confined F (c >>= f) acted R E := by
  refine Client.Confined.bind (Client.Confined.mono h fun answer acted ended => ?_)
  cases answer with
  | ok a => exact ended
  | error e => exact ended

theorem confined_lift {c : Client α} (h : c.Confined F acted Q) :
    Call.Confined F (ExceptT.lift c) acted Q E :=
  Client.Confined.bind (Client.Confined.mono h fun _ _ ended => ended)

theorem confined_perform {action : Action} {Q : action.Reply → Bool → Prop}
    (allowed : F.Allows action) (h : ∀ reply, F.Promises action reply → Q reply true) :
    Call.Confined F (Call.perform action) acted Q E :=
  confined_lift ⟨allowed, h⟩

theorem confined_check {x : Except Error α} (result : ∀ a, x = .ok a → Q a acted)
    (error : ∀ e, x = .error e → E e acted) : Call.Confined F (Call.check x) acted Q E := by
  cases x with
  | ok a => exact result a rfl
  | error e => exact error e rfl

theorem confined_guard {p : Prop} [Decidable p] {e : Error} {f : β → Call α} {c : Call α}
    (error : p → E e acted) (rest : ¬ p → Call.Confined F c acted Q E) :
    Call.Confined F (if p then throw e >>= f else c) acted Q E := by
  split
  case isTrue refused => exact Confined.bind (confined_throw (error refused))
  case isFalse passed => exact rest passed

theorem confined_onError {cleanup : Client Unit} {body : Call α}
    (h : Call.Confined F body acted Q fun e acted => cleanup.Confined F acted fun _ => E e) :
    Call.Confined F (Call.onError cleanup body) acted Q E := by
  refine Client.Confined.bind (Client.Confined.mono h fun answer acted ended => ?_)
  cases answer with
  | ok a => exact ended
  | error e => exact Client.Confined.bind (Client.Confined.mono ended fun _ _ cleaned => cleaned)

end Call

open Call

variable {Q : Unit → Bool → Prop} {E : Error → Bool → Prop}

namespace HostStore

theorem confined_create {Q : HostStore → Bool → Prop} {size : Nat}
    (h : ∀ store : HostStore, F.stores store.number → Q store true) :
    Call.Confined F (create size) acted Q E :=
  confined_perform trivial h

theorem confined_bytes {Q : Bytes → Bool → Prop} {store : HostStore}
    (h : ∀ bytes, Q bytes true) : Call.Confined F store.bytes acted Q E :=
  confined_perform trivial fun bytes _ => h bytes

theorem confined_write {store : HostStore} {data : Bytes} (mine : F.stores store.number)
    (h : Q () true) : Call.Confined F (store.write data) acted Q E :=
  confined_perform mine fun _ _ => h

end HostStore

theorem Device.confined_create {Q : Device → Bool → Prop} {id : DeviceId} {library : Library}
    (h : ∀ number, Q ⟨number, id, library⟩ true) :
    Call.Confined F (create id library) acted Q E :=
  Call.Confined.bind (confined_perform trivial fun number _ => h number)

namespace Stream

variable {s : Stream}

theorem confined_create {Q : Stream → Bool → Prop} {d : Device} {options : StreamOptions}
    (h : ∀ number, Q ⟨number, d, options⟩ true) : Call.Confined F (create d options) acted Q E :=
  Call.Confined.bind (confined_perform trivial fun number _ => h number)

theorem confined_close {Q : Unit → Bool → Prop} (h : Q () true) :
    Call.Confined F s.close acted Q E :=
  Call.Confined.bind (confined_perform trivial fun _ _ => confined_perform trivial fun _ _ => h)

theorem confined_allocate {Q : BufferId → Bool → Prop} {store : HostStore}
    (h : ∀ b, F.buffers b → Q b true) : Call.Confined F (s.allocate store) acted Q E :=
  confined_perform trivial h

theorem confined_submit {Q : Nat → Bool → Prop} {command : Command}
    (allowed : F.AllowsCommand command) (h : ∀ sequence, Q sequence true)
    (late : ∀ e, F.Late e → E e true) : Call.Confined F (s.submit command) acted Q E := by
  refine Call.Confined.bind (confined_perform allowed fun reply _ => ?_)
  cases reply with
  | none => exact late _ (.inl rfl)
  | some sequence => exact h sequence

theorem confined_release {b : BufferId} (mine : F.buffers b) (h : Q () true)
    (late : ∀ e, F.Late e → E e true) : Call.Confined F (s.release b) acted Q E :=
  Call.Confined.bind (confined_submit mine (fun _ => h) late)

theorem confined_copyToDevice {b : BufferId} {store : HostStore} (mine : F.buffers b)
    (h : Q () true) (late : ∀ e, F.Late e → E e true) :
    Call.Confined F (s.copyToDevice b store) acted Q E := by
  refine Call.Confined.bind (HostStore.confined_bytes fun bytes => ?_)
  have allowed : F.AllowsCommand (.copyToDevice b bytes) := mine
  exact Call.Confined.bind (confined_submit allowed (fun _ => h) late)

theorem confined_copyToHost {b : BufferId} {store : HostStore} (mine : F.stores store.number)
    (h : Q () true) (late : ∀ e, F.Late e → E e true) :
    Call.Confined F (s.copyToHost b store) acted Q E := by
  have allowed : F.AllowsCommand (.copyToHost b store) := mine
  exact Call.Confined.bind (confined_submit allowed (fun _ => h) late)

theorem confined_waitFor {sequence : Nat} (h : Q () true) (late : ∀ e, F.Late e → E e true) :
    Call.Confined F (s.waitFor sequence) acted Q E := by
  refine Call.Confined.bind (confined_perform trivial fun _ _ => ?_)
  refine Call.Confined.bind (confined_perform trivial fun failure promised => ?_)
  cases failure with
  | none => exact h
  | some e => exact late e (.inr (promised e rfl))

theorem confined_launch {kernel : Kernel} {arguments : List Argument}
    (allowed : F.AllowsCommand (.launch kernel arguments)) (h : Q () true)
    (late : ∀ e, F.Late e → E e true) : Call.Confined F (s.launch kernel arguments) acted Q E := by
  refine Call.Confined.bind (confined_submit allowed (fun sequence => ?_) late)
  split
  case isTrue => exact confined_waitFor h late
  case isFalse => exact h

theorem confined_synchronize (h : Q () true) (late : ∀ e, F.Late e → E e true) :
    Call.Confined F s.synchronize acted Q E :=
  Call.Confined.bind (confined_submit trivial (fun _ => confined_waitFor h late) late)

end Stream

/-! ### Arrays -/

/-- The kernels of a library are those that arrays rely on. Some of them may be missing. -/
def Library.Elementwise (l : Library) : Prop :=
  ∀ c ∈ l.kernels, ∃ k : ElementwiseKernel, c = k.toKernel

theorem ElementwiseKernel.name_injective {j k : ElementwiseKernel} (same : j.name = k.name) :
    j = k := by
  rcases j with (_ | _ | _ | _) | _ | _ | _ | _ <;>
    rcases k with (_ | _ | _ | _) | _ | _ | _ | _ <;> first | rfl | simp [name] at same

theorem Library.Elementwise.eq_of_get {l : Library} (elementwise : l.Elementwise)
    {k : ElementwiseKernel} {c : Kernel} (found : l.get k.name = .ok c) : c = k.toKernel := by
  obtain ⟨j, rfl⟩ := elementwise c (mem_of_get found)
  have same : j.name = k.name := by
    unfold get at found
    split at found
    case h_1 other there =>
      cases found
      have named : j.toKernel.name = k.name := by simpa using List.find?_some there
      exact named
    case h_2 => cases found
  rw [ElementwiseKernel.name_injective same]

/-- An owner that was made as requested, for which the footprint makes room. -/
structure Footprint.Makes (F : Footprint) (request : ArrayRequest) (a : DeviceArray) : Prop where
  owner : a.ownership = .owner
  buffer : F.buffers a.buffer
  store : F.stores a.store.number
  type : a.type = request.type
  device : some a.device = request.device
  stream : some a.stream = request.stream

/-- All checks of a request succeed. -/
def ArrayRequest.Passes (request : ArrayRequest) : Prop :=
  ∃ shape device stream, Shape.ofExtents request.extents = .ok shape ∧
    request.device = some device ∧ request.stream = some stream ∧
      stream.device.number = device.number ∧ shape.size * request.type.width < wordBound

theorem eq_ok_of_mapError {ε φ : Type} {f : ε → φ} {x : Except ε α} {a : α}
    (h : x.mapError f = .ok a) : x = .ok a := by
  cases x with
  | ok b => simpa [Except.mapError] using h
  | error e => simp [Except.mapError] at h

namespace DeviceArray

variable {a : DeviceArray}

/-- Whether the release can be submitted or not is not reported. -/
theorem confined_drop_owner (owner : a.ownership = .owner) (mine : F.buffers a.buffer)
    (h : Q () true) : a.drop.Confined F acted Q := by
  unfold drop
  rw [owner]
  refine Client.Confined.bind (Client.Confined.mono (Stream.confined_release (Q := Q)
    (E := fun _ acted => Q () acted) mine h fun _ _ => h) fun answer acted ended => ?_)
  cases answer <;> exact ended

theorem confined_updateDevice (mine : F.buffers a.buffer) (h : Q () true)
    (late : ∀ e, F.Late e → E e true) : Call.Confined F a.updateDevice acted Q E :=
  Stream.confined_copyToDevice mine h late

theorem confined_updateHost (mine : F.stores a.store.number) (h : Q () true)
    (late : ∀ e, F.Late e → E e true) : Call.Confined F a.updateHost acted Q E :=
  Call.Confined.bind
    (Stream.confined_copyToHost mine (Stream.confined_synchronize h late) late)

/-- Either a check fails and nothing has been done, or an owner is made. -/
theorem confined_allocate {Q : DeviceArray → Bool → Prop} {shape : Shape} {type : ElementType}
    {layout : Layout} {d : Device} {s : Stream}
    (h : ∀ a, F.Makes ⟨shape.extents, type, layout, some d, some s⟩ a →
      s.device.number = d.number → shape.size * type.width < wordBound → Q a true)
    (error : ∀ e, ¬ (s.device.number = d.number ∧ shape.size * type.width < wordBound) →
      E e acted) : Call.Confined F (allocate shape type layout d s) acted Q E := by
  unfold allocate
  refine confined_guard (fun far => error _ fun fits => ?_) fun near => ?_
  · simp [Device.same, fits.1] at far
  have near : s.device.number = d.number := by simpa [Device.same] using near
  refine confined_guard (fun big => error _ fun fits => ?_) fun small => ?_
  · omega
  refine Call.Confined.bind (HostStore.confined_create fun store stored => ?_)
  refine Call.Confined.bind (Stream.confined_allocate fun b given => ?_)
  exact h _ ⟨rfl, given, stored, rfl, rfl, rfl⟩ near (by omega)

theorem confined_build {Q : DeviceArray → Bool → Prop} {request : ArrayRequest}
    (h : ∀ a, F.Makes request a → Q a true) (error : ∀ e, ¬ request.Passes → E e acted) :
    Call.Confined F (build request) acted Q E := by
  unfold build
  refine Call.Confined.bind (confined_check (fun shape checked => ?_) fun e failed => ?_)
  case refine_1 =>
    have shaped := eq_ok_of_mapError checked
    obtain ⟨extents, type, layout, device?, stream?⟩ := request
    cases device? with
    | none => exact error _ fun ⟨_, _, _, _, none_given, _⟩ => by cases none_given
    | some device =>
      cases stream? with
      | none => exact error _ fun ⟨_, _, _, _, _, none_given, _⟩ => by cases none_given
      | some stream =>
        refine confined_allocate (fun a made _ _ => h a ?_) fun e failed => error e ?_
        · exact ⟨made.owner, made.buffer, made.store, made.type, made.device, made.stream⟩
        · rintro ⟨other, d, s, again, device_eq, stream_eq, near, small⟩
          cases shaped.symm.trans again
          cases device_eq
          cases stream_eq
          exact failed ⟨near, small⟩
  case refine_2 =>
    refine error e fun ⟨shape, _, _, shaped, _⟩ => ?_
    simp [shaped, Except.mapError] at failed

/-- The kernel of a library of elementwise kernels, if it is not missing. -/
theorem confined_kernel {Q : Kernel → Bool → Prop} {k : ElementwiseKernel}
    (elementwise : a.device.library.Elementwise) (h : Q k.toKernel acted)
    (error : ∀ e, E e acted) : Call.Confined F (a.kernel k) acted Q E := by
  refine confined_check (fun kernel found => ?_) fun e _ => error e
  rw [elementwise.eq_of_get (eq_ok_of_mapError found)]
  exact h

theorem confined_fill {value : Scalar} (elementwise : a.device.library.Elementwise)
    (mine : F.buffers a.buffer) (h : Q () true) (error : ∀ e, E e acted)
    (late : ∀ e, F.Late e → E e true) : Call.Confined F (a.fill value) acted Q E := by
  unfold fill
  refine confined_guard (fun _ => error _) fun _ => ?_
  refine Call.Confined.bind (confined_kernel elementwise ?_ error)
  have allowed : F.AllowsCommand (.launch ElementwiseKernel.fill.toKernel
      (Contract.write ElementwiseKernel.fill.parameters (a.type, a.size, a.buffer, value, ()))) :=
    Footprint.allows_launch mine
  exact Stream.confined_launch allowed h late

theorem confined_fillFrom {g : Grid} (mine : F.buffers a.buffer)
    (mirror : F.stores a.store.number) (h : Q () true) (error : ∀ e, E e acted)
    (late : ∀ e, F.Late e → E e true) : Call.Confined F (a.fillFrom g) acted Q E := by
  unfold fillFrom
  refine confined_guard (fun _ => error _) fun _ => ?_
  refine confined_guard (fun _ => error _) fun _ => ?_
  exact Call.Confined.bind (HostStore.confined_write mirror (confined_updateDevice mine h late))

theorem confined_elements {t : ElementType} {Q : List (Element t) → Bool → Prop}
    (h : ∀ values, Q values true) (error : ∀ e, E e acted) :
    Call.Confined F (a.elements t) acted Q E := by
  unfold elements
  refine confined_guard (fun _ => error _) fun _ => ?_
  exact Call.Confined.bind (HostStore.confined_bytes fun bytes => h _)

theorem confined_gridElements {t : ElementType} {Q : List (Element t) → Bool → Prop}
    (h : ∀ values, Q values true) (error : ∀ e, E e acted) :
    Call.Confined F (a.gridElements t) acted Q E :=
  Call.Confined.bind (confined_elements (fun _ => h _) error)

theorem confined_text {Q : String → Bool → Prop} (h : ∀ text, Q text true)
    (error : ∀ e, E e acted) : Call.Confined F a.text acted Q E :=
  Call.Confined.bind (confined_gridElements (fun _ => h _) error)

end DeviceArray

namespace Stream

variable {s : Stream} {Q : DeviceArray → Bool → Prop}

theorem confined_bindWith {g : Grid} {layout : Layout}
    (h : ∀ a, F.Makes ⟨g.extents, g.type, layout, some s.device, some s⟩ a → Q a true)
    (error : ∀ e, ¬ ArrayRequest.Passes ⟨g.extents, g.type, layout, some s.device, some s⟩ →
      E e acted) (late : ∀ e, F.Late e → E e true) :
    Call.Confined F (s.bindWith g layout) acted Q E := by
  unfold bindWith
  refine Call.Confined.bind (DeviceArray.confined_build (fun a made => ?_) error)
  have cleanup : ∀ e, F.Late e → a.drop.Confined F true fun _ => E e := fun e failed =>
    DeviceArray.confined_drop_owner made.owner made.buffer (late e failed)
  refine Call.Confined.bind (confined_onError ?_)
  refine Call.Confined.bind (HostStore.confined_write made.store ?_)
  exact DeviceArray.confined_updateDevice made.buffer (h a made) cleanup

theorem confined_empty {extents : List Nat} {type : ElementType} {layout : Layout}
    {updateHost : Bool}
    (h : ∀ a, F.Makes ⟨extents, type, layout, some s.device, some s⟩ a → Q a true)
    (error : ∀ e, E e acted) (late : ∀ e, F.Late e → E e true) :
    Call.Confined F (s.empty extents type layout updateHost) acted Q E := by
  unfold empty
  refine Call.Confined.bind (DeviceArray.confined_build (fun a made => ?_) fun e _ => error e)
  have cleanup : ∀ e, F.Late e → a.drop.Confined F true fun _ => E e := fun e failed =>
    DeviceArray.confined_drop_owner made.owner made.buffer (late e failed)
  dsimp only
  split
  case isTrue =>
    refine Call.Confined.bind (confined_onError ?_)
    exact DeviceArray.confined_updateHost made.store (h a made) cleanup
  case isFalse => exact h a made

/-- The kernel is looked up after the array was made, so its being missing is found out late. -/
theorem confined_filled {extents : List Nat} {value : Scalar}
    (elementwise : s.device.library.Elementwise)
    (h : ∀ a, F.Makes ⟨extents, value.type, .rowMajor, some s.device, some s⟩ a → Q a true)
    (error : ∀ e acted, E e acted) : Call.Confined F (s.filled extents value) acted Q E := by
  unfold filled
  refine Call.Confined.bind (confined_empty (fun a made => ?_) (fun e => error e acted)
    fun e _ => error e true)
  have library : a.device.library.Elementwise := by
    have same : a.device = s.device := Option.some.inj made.device
    rwa [same]
  have cleanup : ∀ e, a.drop.Confined F true fun _ => E e := fun e =>
    DeviceArray.confined_drop_owner made.owner made.buffer (error e true)
  refine Call.Confined.bind (confined_onError ?_)
  exact DeviceArray.confined_fill library made.buffer (h a made) cleanup fun e _ => cleanup e

end Stream

namespace DeviceArray

variable {a : DeviceArray}

theorem confined_withBound {Q : α → Bool → Prop} {s : Stream} {g : Grid} {layout : Layout}
    {body : DeviceArray → Call α}
    (runs : ∀ b, F.Makes ⟨g.extents, g.type, layout, some s.device, some s⟩ b →
      Call.Confined F (body b) true (fun x _ => Q x true) fun e _ => E e true)
    (error : ∀ e, ¬ ArrayRequest.Passes ⟨g.extents, g.type, layout, some s.device, some s⟩ →
      E e acted) (late : ∀ e, F.Late e → E e true) :
    Call.Confined F (withBound s g layout body) acted Q E := by
  unfold withBound
  refine Call.Confined.bind (Stream.confined_bindWith (fun b made => ?_) error late)
  refine Call.Confined.bind (confined_onError ?_)
  refine (runs b made).mono (fun x acted ended => ?_) fun e acted failed => ?_
  · refine Call.Confined.bind (confined_lift ?_)
    exact confined_drop_owner made.owner made.buffer ended
  · exact confined_drop_owner made.owner made.buffer failed

theorem confined_allocateLike {Q : DeviceArray → Bool → Prop} {type : ElementType}
    (h : ∀ b, F.Makes ⟨a.shape.extents, type, a.layout, some a.device, some a.stream⟩ b →
      a.stream.device.number = a.device.number → a.shape.size * type.width < wordBound → Q b true)
    (error : ∀ e, E e acted) : Call.Confined F (a.allocateLike type) acted Q E :=
  confined_allocate h fun e _ => error e

/-- Once the result of an operator is there, no check of a bound operand can fail. -/
theorem passes_of_matches {g : Grid} (fitting : a.Matches (.grid g))
    (small : a.shape.size * a.type.width < wordBound) :
    ArrayRequest.Passes ⟨g.extents, g.type, a.layout, some a.stream.device, some a.stream⟩ := by
  obtain ⟨type, extents⟩ := fitting
  have same : g.type = a.type := type
  refine ⟨a.shape, a.stream.device, a.stream, ?_, rfl, rfl, rfl, by rwa [same]⟩
  rw [extents, Shape.ofExtents, dif_pos a.shape.positive, dif_pos a.shape.bounded]

theorem confined_binary {Q : DeviceArray → Bool → Prop} {operation : BinaryOperation}
    {operand : Operand} (elementwise : a.device.library.Elementwise)
    (h : ∀ b, F.Makes ⟨a.shape.extents, a.type, a.layout, some a.device, some a.stream⟩ b →
      Q b true)
    (error : ∀ e, E e acted) (late : ∀ e, F.Late e → E e true) :
    Call.Confined F (a.binary operation operand) acted Q E := by
  unfold binary
  refine Call.Confined.bind (confined_check (fun _ accepted => ?_) fun e _ => error e)
  have fitting : a.Matches operand := by
    obtain ⟨_, fitting⟩ | ⟨_, refused, _⟩ := a.checkOperand_cases operand
    · exact fitting
    · simp [refused] at accepted
  refine Call.Confined.bind (confined_kernel elementwise ?_ error)
  refine Call.Confined.bind (confined_allocateLike (fun b made _ small => ?_) error)
  have launches : ∀ y : KernelOperand, F.AllowsCommand (.launch
      (ElementwiseKernel.binary operation).toKernel
      (BinaryLaunch.arguments ⟨a.type, a.size, a.buffer, y, b.buffer⟩)) := by
    intro y
    have allowed := Footprint.allows_launch (F := F) (k := .binary operation)
      (v := (a.type, a.size, a.buffer, (1 : Nat), y, y.stride, b.buffer, (1 : Nat), ()))
      made.buffer
    cases y <;> exact allowed
  have cleanup : ∀ e, E e true → b.drop.Confined F true fun _ => E e := fun e failed =>
    confined_drop_owner made.owner made.buffer failed
  have unwind : ∀ e, F.Late e → b.drop.Confined F true fun _ => E e := fun e failed =>
    cleanup e (late e failed)
  refine Call.Confined.bind (confined_onError ?_)
  cases operand with
  | array c => exact Stream.confined_launch (launches _) (h b made) unwind
  | scalar value => exact Stream.confined_launch (launches _) (h b made) unwind
  | grid g =>
    refine confined_withBound (fun c _ => ?_) (fun e failed => ?_) unwind
    · exact Stream.confined_launch (launches _) (h b made) unwind
    · exact absurd (passes_of_matches fitting small) failed

theorem confined_unary {Q : DeviceArray → Bool → Prop} {k : ElementwiseKernel}
    {type : ElementType} (elementwise : a.device.library.Elementwise)
    (launches : ∀ b, F.buffers b → F.AllowsCommand (.launch k.toKernel
      [.ofType a.type, .count a.size, .buffer a.buffer, .buffer b]))
    (h : ∀ b, F.Makes ⟨a.shape.extents, type, a.layout, some a.device, some a.stream⟩ b →
      Q b true)
    (error : ∀ e, E e acted) (late : ∀ e, F.Late e → E e true) :
    Call.Confined F (a.unary k type) acted Q E := by
  unfold unary
  refine Call.Confined.bind (confined_kernel elementwise ?_ error)
  refine Call.Confined.bind (confined_allocateLike (fun b made _ _ => ?_) error)
  refine Call.Confined.bind (confined_onError ?_)
  exact Stream.confined_launch (launches _ made.buffer) (h b made) fun e failed =>
    confined_drop_owner made.owner made.buffer (late e failed)

theorem confined_abs {Q : DeviceArray → Bool → Prop} (elementwise : a.device.library.Elementwise)
    (h : ∀ b, F.Makes
      ⟨a.shape.extents, a.type.magnitudeType, a.layout, some a.device, some a.stream⟩ b → Q b true)
    (error : ∀ e, E e acted) (late : ∀ e, F.Late e → E e true) :
    Call.Confined F a.abs acted Q E :=
  confined_unary elementwise (fun b mine => Footprint.allows_launch (k := .abs)
    (v := (a.type, a.size, a.buffer, b, ())) mine) h error late

theorem confined_reverse {Q : DeviceArray → Bool → Prop}
    (elementwise : a.device.library.Elementwise)
    (h : ∀ b, F.Makes ⟨a.shape.extents, a.type, a.layout, some a.device, some a.stream⟩ b →
      Q b true)
    (error : ∀ e, E e acted) (late : ∀ e, F.Late e → E e true) :
    Call.Confined F a.reverse acted Q E := by
  unfold reverse
  refine confined_guard (fun _ => error _) fun _ => ?_
  exact confined_unary elementwise (fun b mine => Footprint.allows_launch (k := .reverse)
    (v := (a.type, a.size, a.buffer, b, ())) mine) h error late

/-- What an array is assigned may be kept in the same buffer. -/
theorem confined_setSlice_array {start stop : Nat} {b : DeviceArray}
    (elementwise : a.device.library.Elementwise)
    (launches : b.type = a.type → ∀ lower upper : Nat, lower < upper → upper ≤ a.size →
      b.size = upper - lower → F.AllowsCommand (.launch ElementwiseKernel.setSlice.toKernel
        [.ofType a.type, .count lower, .count upper, .buffer a.buffer, .buffer b.buffer]))
    (h : Q () true) (idle : Q () acted) (error : ∀ e, E e acted)
    (late : ∀ e, F.Late e → E e true) :
    Call.Confined F (a.setSlice start stop (.array b)) acted Q E := by
  refine confined_guard (fun _ => error _) fun same => ?_
  dsimp only
  split
  case isTrue => exact idle
  case isFalse some_places =>
    refine confined_guard (fun _ => error _) fun _ => ?_
    refine confined_guard (fun _ => error _) fun fits => ?_
    refine Call.Confined.bind (confined_kernel elementwise ?_ error)
    have allowed := launches (Decidable.not_not.mp same) (min start a.size) (min stop a.size)
      (by omega) (Nat.min_le_right _ _) (Decidable.not_not.mp fits)
    exact Stream.confined_launch allowed h late

theorem confined_setSlice {start stop : Nat} {operand : Operand}
    (elementwise : a.device.library.Elementwise) (mine : F.buffers a.buffer) (h : Q () true)
    (idle : Q () acted) (error : ∀ e, E e acted) (late : ∀ e, F.Late e → E e true) :
    Call.Confined F (a.setSlice start stop operand) acted Q E := by
  have launches : ∀ (lower upper : Nat) (source : BufferId), F.AllowsCommand (.launch
      ElementwiseKernel.setSlice.toKernel
      [.ofType a.type, .count lower, .count upper, .buffer a.buffer, .buffer source]) :=
    fun lower upper source => Footprint.allows_launch (k := .setSlice)
      (v := (a.type, lower, upper, a.buffer, source, ())) mine
  cases operand with
  | scalar value => exact confined_fill elementwise mine h error late
  | array b =>
    exact confined_setSlice_array elementwise (fun _ _ _ _ _ _ => launches _ _ _) h idle error late
  | grid g =>
    refine confined_guard (fun _ => error _) fun _ => ?_
    dsimp only
    split
    case isTrue => exact idle
    case isFalse =>
      refine confined_guard (fun _ => error _) fun _ => ?_
      refine Call.Confined.bind (confined_kernel elementwise ?_ error)
      refine confined_withBound (fun b _ => ?_) (fun e _ => error e) late
      exact Stream.confined_launch (launches _ _ _) h late

/-- An array of as many elements that is kept in the same buffer takes all places, so nothing
changes. -/
theorem confined_setSlice_self {start stop : Nat} {b : DeviceArray}
    (elementwise : a.device.library.Elementwise) (shared : b.buffer = a.buffer)
    (sized : b.type = a.type → b.size = a.size) (h : Q () true) (idle : Q () acted)
    (error : ∀ e, E e acted) (late : ∀ e, F.Late e → E e true) :
    Call.Confined F (a.setSlice start stop (.array b)) acted Q E := by
  refine confined_setSlice_array elementwise (fun same lower upper some_places inside fits => ?_)
    h idle error late
  have first : lower = 0 := by
    have whole := sized same
    omega
  rw [shared, first]
  exact Footprint.allows_launch_of (k := .setSlice)
    (v := (a.type, (0 : Nat), upper, a.buffer, a.buffer, ()))
    (.inr (ElementwiseKernel.idle_setSlice_self _ _ _))

end DeviceArray

end DeviceArrays
