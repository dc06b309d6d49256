import DeviceArrays.DeviceArray.Operators
import DeviceArrays.Proofs.Client.Confined

/-!
# Which kernels a client launches

A licence says which kernels may be launched on which stream. A client keeps to it if it submits no
other launch, whatever it is answered, but that a device it opens has a new number. Arrays look
their kernels up in the library of their device, so every call of arrays keeps to a licence for the
kernels of that library on the array's stream.
-/
namespace DeviceArrays

variable {α β : Type}

/-- The kernels that may be launched on each stream, and the number of devices that there were. -/
structure Licence where
  devices : Nat
  kernels : (stream : Nat) → Kernel → Prop

variable {E : Licence}

namespace Licence

/-- Only a launch needs a licence. -/
def Allows (E : Licence) : Action → Prop
  | .submit stream (.launch kernel _) => E.kernels stream kernel
  | _ => True

/-- What the answer to an action is known to be. -/
def Promises (E : Licence) : (a : Action) → a.Reply → Prop
  | .openDevice, (number : Nat) => E.devices ≤ number
  | _, _ => True

/-- Whatever kernel of the library is looked up, it may be launched on the stream. -/
def Covers (E : Licence) (library : Library) (s : Stream) : Prop :=
  ∀ kernel ∈ library.kernels, E.kernels s.number kernel

end Licence

namespace Client

/-- Launches only what it may, and ends as `Q` says. -/
def Licensed (E : Licence) : Client α → (α → Prop) → Prop
  | .done a, Q => Q a
  | .act action next, Q =>
    E.Allows action ∧ ∀ reply, E.Promises action reply → (next reply).Licensed E Q

theorem Licensed.mono {Q R : α → Prop} {c : Client α} (h : c.Licensed E Q)
    (weaker : ∀ a, Q a → R a) : c.Licensed E R := by
  induction c with
  | done a => exact weaker a h
  | act action next ih => exact ⟨h.1, fun reply promised => ih reply (h.2 reply promised)⟩

theorem Licensed.bind {c : Client α} {f : α → Client β} {Q : β → Prop}
    (h : c.Licensed E fun a => (f a).Licensed E Q) : (c.bind f).Licensed E Q := by
  induction c with
  | done a => exact h
  | act action next ih => exact ⟨h.1, fun reply promised => ih reply (h.2 reply promised)⟩

end Client

namespace Call

/-- Launches only what it may, and ends as `Q` says, unless it ends with an error. -/
def Licensed (E : Licence) (c : Call α) (Q : α → Prop) : Prop :=
  Client.Licensed E c.run fun
    | .ok a => Q a
    | .error _ => True

variable {Q : α → Prop}

theorem Licensed.mono {R : α → Prop} {c : Call α} (h : Call.Licensed E c Q)
    (weaker : ∀ a, Q a → R a) : Call.Licensed E c R := by
  refine Client.Licensed.mono h fun answer ended => ?_
  cases answer with
  | ok a => exact weaker a ended
  | error e => trivial

theorem Licensed.bind {c : Call α} {f : α → Call β} {R : β → Prop} (h : Call.Licensed E c Q)
    (rest : ∀ a, Q a → Call.Licensed E (f a) R) : Call.Licensed E (c >>= f) R := by
  refine Client.Licensed.bind (Client.Licensed.mono h fun answer ended => ?_)
  cases answer with
  | ok a => exact rest a ended
  | error e => trivial

theorem licensed_lift {c : Client α} (h : c.Licensed E Q) : Call.Licensed E (ExceptT.lift c) Q :=
  Client.Licensed.bind (h.mono fun _ ended => ended)

theorem licensed_perform {action : Action} {Q : action.Reply → Prop} (allowed : E.Allows action)
    (h : ∀ reply, E.Promises action reply → Q reply) :
    Call.Licensed E (Call.perform action) Q :=
  licensed_lift ⟨allowed, h⟩

theorem licensed_check {x : Except Error α} (h : ∀ a, x = .ok a → Q a) :
    Call.Licensed E (Call.check x) Q := by
  cases x with
  | ok a => exact h a rfl
  | error e => trivial

theorem licensed_guard {p : Prop} [Decidable p] {e : Error} {f : β → Call α} {c : Call α}
    (rest : ¬ p → Call.Licensed E c Q) : Call.Licensed E (if p then throw e >>= f else c) Q := by
  split
  case isTrue => trivial
  case isFalse passed => exact rest passed

theorem licensed_onError {cleanup : Client Unit} {body : Call α} (h : Call.Licensed E body Q)
    (cleans : cleanup.Licensed E fun _ => True) :
    Call.Licensed E (Call.onError cleanup body) Q := by
  refine Client.Licensed.bind (Client.Licensed.mono h fun answer ended => ?_)
  cases answer with
  | ok a => exact ended
  | error e => exact Client.Licensed.bind (cleans.mono fun _ _ => trivial)

end Call

open Call

namespace HostStore

theorem licensed_create (size : Nat) : Call.Licensed E (create size) fun _ => True :=
  licensed_perform trivial fun _ _ => trivial

theorem licensed_bytes (store : HostStore) : Call.Licensed E store.bytes fun _ => True :=
  licensed_perform trivial fun _ _ => trivial

theorem licensed_write (store : HostStore) (data : Bytes) :
    Call.Licensed E (store.write data) fun _ => True :=
  licensed_perform trivial fun _ _ => trivial

end HostStore

/-! ### Streams -/

theorem Device.licensed_create (id : DeviceId) (library : Library) :
    Call.Licensed E (create id library) fun d => E.devices ≤ d.number ∧ d.library = library :=
  Call.Licensed.bind (licensed_perform trivial fun _ promised => promised) fun _ new => ⟨new, rfl⟩

namespace Stream

variable {s : Stream}

theorem licensed_create (d : Device) (options : StreamOptions) :
    Call.Licensed E (create d options) fun s => s.device = d :=
  Call.Licensed.bind (licensed_perform (Q := fun _ => True) trivial fun _ _ => trivial)
    fun _ _ => rfl

theorem licensed_close : Call.Licensed E s.close fun _ => True :=
  Call.Licensed.bind (licensed_perform (Q := fun _ => True) trivial fun _ _ => trivial)
    fun _ _ => licensed_perform trivial fun _ _ => trivial

theorem licensed_allocate (store : HostStore) :
    Call.Licensed E (s.allocate store) fun _ => True :=
  licensed_perform trivial fun _ _ => trivial

theorem licensed_submit {c : Command} (allowed : E.Allows (.submit s.number c)) :
    Call.Licensed E (s.submit c) fun _ => True := by
  refine Call.Licensed.bind (licensed_perform (Q := fun _ => True) allowed fun _ _ => trivial)
    fun reply _ => ?_
  cases reply <;> trivial

theorem licensed_release (b : BufferId) : Call.Licensed E (s.release b) fun _ => True :=
  Call.Licensed.bind (licensed_submit trivial) fun _ _ => trivial

theorem licensed_copyToDevice (b : BufferId) (store : HostStore) :
    Call.Licensed E (s.copyToDevice b store) fun _ => True :=
  Call.Licensed.bind (HostStore.licensed_bytes store) fun _ _ =>
    Call.Licensed.bind (licensed_submit trivial) fun _ _ => trivial

theorem licensed_copyToHost (b : BufferId) (store : HostStore) :
    Call.Licensed E (s.copyToHost b store) fun _ => True :=
  Call.Licensed.bind (licensed_submit trivial) fun _ _ => trivial

theorem licensed_waitFor (n : Nat) : Call.Licensed E (s.waitFor n) fun _ => True := by
  have awaits : Call.Licensed E (Call.perform (.await s.number n)) fun _ => True :=
    licensed_perform trivial fun _ _ => trivial
  have takes : Call.Licensed E (Call.perform (.takeFailure s.number)) fun _ => True :=
    licensed_perform trivial fun _ _ => trivial
  refine Call.Licensed.bind awaits fun _ _ => Call.Licensed.bind takes fun failure _ => ?_
  cases failure <;> trivial

theorem licensed_launch {kernel : Kernel} (licensed : E.kernels s.number kernel)
    (arguments : List Argument) : Call.Licensed E (s.launch kernel arguments) fun _ => True := by
  refine Call.Licensed.bind (licensed_submit licensed) fun n _ => ?_
  split
  case isTrue => exact licensed_waitFor n
  case isFalse => trivial

theorem licensed_synchronize : Call.Licensed E s.synchronize fun _ => True :=
  Call.Licensed.bind (licensed_submit trivial) fun n _ => licensed_waitFor n

end Stream

/-! ### Arrays -/

namespace DeviceArray

variable {a : DeviceArray}

theorem licensed_updateDevice : Call.Licensed E a.updateDevice fun _ => True :=
  Stream.licensed_copyToDevice a.buffer a.store

theorem licensed_updateHost : Call.Licensed E a.updateHost fun _ => True :=
  Call.Licensed.bind (Stream.licensed_copyToHost a.buffer a.store) fun _ _ =>
    Stream.licensed_synchronize

theorem licensed_release : Call.Licensed E a.release fun _ => True := by
  unfold release
  cases a.ownership with
  | owner => exact Stream.licensed_release a.buffer
  | view root => trivial

theorem licensed_drop : a.drop.Licensed E fun _ => True := by
  unfold drop
  cases a.ownership with
  | owner =>
    refine Client.Licensed.bind (Client.Licensed.mono (Stream.licensed_release a.buffer)
      fun answer _ => ?_)
    cases answer <;> trivial
  | view root => trivial

/-- Whether a new array is kept where it was meant to be, and was small enough to be made. -/
structure PlacedOn (a : DeviceArray) (d : Device) (s : Stream) : Prop where
  device : a.device = d
  stream : a.stream = s
  bounded : a.byteSize < wordBound

theorem licensed_allocate {shape : Shape} {type : ElementType} {layout : Layout} {d : Device}
    {s : Stream} :
    Call.Licensed E (allocate shape type layout d s) fun a => a.PlacedOn d s := by
  unfold allocate
  refine licensed_guard fun _ => licensed_guard fun small => ?_
  refine Call.Licensed.bind (HostStore.licensed_create _) fun store _ => ?_
  refine Call.Licensed.bind (Stream.licensed_allocate store) fun b _ => ?_
  exact ⟨rfl, rfl, Nat.lt_of_not_le small⟩

theorem licensed_build {request : ArrayRequest} :
    Call.Licensed E (build request) fun a => ∃ d s, request.device = some d ∧
      request.stream = some s ∧ a.PlacedOn d s := by
  unfold build
  refine Call.Licensed.bind (licensed_check (Q := fun _ => True) fun _ _ => trivial)
    fun shape _ => ?_
  obtain ⟨extents, type, layout, device?, stream?⟩ := request
  cases device? with
  | none => trivial
  | some d =>
    cases stream? with
    | none => trivial
    | some s => exact licensed_allocate.mono fun a placed => ⟨d, s, rfl, rfl, placed⟩

/-- What arrays look up is a kernel of their device's library. -/
theorem licensed_kernel (covers : E.Covers a.device.library a.stream) (k : ElementwiseKernel) :
    Call.Licensed E (a.kernel k) fun kernel => E.kernels a.stream.number kernel :=
  licensed_check fun _ found => covers _ (Library.mem_of_get (eq_ok_of_mapError found))

theorem licensed_fill (covers : E.Covers a.device.library a.stream) (value : Scalar) :
    Call.Licensed E (a.fill value) fun _ => True := by
  unfold fill
  refine licensed_guard fun _ => ?_
  exact Call.Licensed.bind (licensed_kernel covers .fill) fun kernel licensed =>
    Stream.licensed_launch licensed _

theorem licensed_fillFrom (g : Grid) : Call.Licensed E (a.fillFrom g) fun _ => True := by
  unfold fillFrom
  refine licensed_guard fun _ => licensed_guard fun _ => ?_
  exact Call.Licensed.bind (HostStore.licensed_write _ _) fun _ _ => licensed_updateDevice

theorem licensed_elements (t : ElementType) :
    Call.Licensed E (a.elements t) fun _ => True := by
  unfold elements
  refine licensed_guard fun _ => ?_
  exact Call.Licensed.bind (HostStore.licensed_bytes _) fun _ _ => trivial

theorem licensed_gridElements (t : ElementType) :
    Call.Licensed E (a.gridElements t) fun _ => True :=
  Call.Licensed.bind (licensed_elements t) fun _ _ => trivial

theorem licensed_text : Call.Licensed E a.text fun _ => True :=
  Call.Licensed.bind (licensed_gridElements _) fun _ _ => trivial

end DeviceArray

namespace Stream

variable {s : Stream}

theorem licensed_build {extents : List Nat} {type : ElementType} {layout : Layout} :
    Call.Licensed E (DeviceArray.build ⟨extents, type, layout, some s.device, some s⟩)
      fun a => a.PlacedOn s.device s := by
  refine DeviceArray.licensed_build.mono ?_
  rintro a ⟨_, _, device, stream, placed⟩
  cases device
  cases stream
  exact placed

theorem licensed_bindWith (g : Grid) (layout : Layout) :
    Call.Licensed E (s.bindWith g layout) fun a => a.PlacedOn s.device s := by
  unfold bindWith
  refine Call.Licensed.bind licensed_build fun a placed => ?_
  refine Call.Licensed.bind (licensed_onError (Q := fun _ => True) ?_ DeviceArray.licensed_drop)
    fun _ _ => placed
  exact Call.Licensed.bind (HostStore.licensed_write _ _) fun _ _ =>
    DeviceArray.licensed_updateDevice

theorem licensed_empty {extents : List Nat} {type : ElementType} {layout : Layout}
    {updateHost : Bool} :
    Call.Licensed E (s.empty extents type layout updateHost) fun a => a.PlacedOn s.device s := by
  unfold empty
  refine Call.Licensed.bind licensed_build fun a placed => ?_
  dsimp only
  split
  case isTrue =>
    exact Call.Licensed.bind (licensed_onError DeviceArray.licensed_updateHost
      DeviceArray.licensed_drop) fun _ _ => placed
  case isFalse => exact placed

theorem licensed_filled (covers : E.Covers s.device.library s) {extents : List Nat}
    {value : Scalar} :
    Call.Licensed E (s.filled extents value) fun a => a.PlacedOn s.device s := by
  unfold filled
  refine Call.Licensed.bind licensed_empty fun a placed => ?_
  have same : E.Covers a.device.library a.stream := by
    rwa [placed.device, placed.stream]
  exact Call.Licensed.bind (licensed_onError (DeviceArray.licensed_fill same value)
    DeviceArray.licensed_drop) fun _ _ => placed

end Stream

namespace DeviceArray

variable {a : DeviceArray}

/-- A bound grid needs no licence of its own. -/
theorem licensed_withBound {s : Stream} {g : Grid} {layout : Layout}
    {body : DeviceArray → Call α} (runs : ∀ b, Call.Licensed E (body b) fun _ => True) :
    Call.Licensed E (withBound s g layout body) fun _ => True := by
  unfold withBound
  refine Call.Licensed.bind (Stream.licensed_bindWith g layout) fun b _ => ?_
  refine Call.Licensed.bind (licensed_onError (runs b) licensed_drop) fun _ _ => ?_
  exact Call.Licensed.bind (licensed_lift licensed_drop) fun _ _ => trivial

theorem licensed_binary (covers : E.Covers a.device.library a.stream)
    (operation : BinaryOperation) (operand : Operand) :
    Call.Licensed E (a.binary operation operand) fun c => c.PlacedOn a.device a.stream := by
  unfold binary
  refine Call.Licensed.bind (licensed_check (Q := fun _ => True) fun _ _ => trivial) fun _ _ => ?_
  refine Call.Licensed.bind (licensed_kernel covers _) fun kernel licensed => ?_
  refine Call.Licensed.bind licensed_allocate fun c placed => ?_
  refine Call.Licensed.bind (licensed_onError (Q := fun _ => True) ?_ licensed_drop)
    fun _ _ => placed
  cases operand with
  | array b => exact Stream.licensed_launch licensed _
  | scalar value => exact Stream.licensed_launch licensed _
  | grid g => exact licensed_withBound fun b => Stream.licensed_launch licensed _

theorem licensed_unary (covers : E.Covers a.device.library a.stream) (k : ElementwiseKernel)
    (type : ElementType) :
    Call.Licensed E (a.unary k type) fun c => c.PlacedOn a.device a.stream := by
  unfold unary
  refine Call.Licensed.bind (licensed_kernel covers k) fun kernel licensed => ?_
  refine Call.Licensed.bind licensed_allocate fun c placed => ?_
  exact Call.Licensed.bind (licensed_onError (Stream.licensed_launch licensed _) licensed_drop)
    fun _ _ => placed

theorem licensed_reverse (covers : E.Covers a.device.library a.stream) :
    Call.Licensed E a.reverse fun c => c.PlacedOn a.device a.stream := by
  unfold reverse
  exact licensed_guard fun _ => licensed_unary covers _ _

theorem licensed_setSlice (covers : E.Covers a.device.library a.stream) (start stop : Nat)
    (operand : Operand) : Call.Licensed E (a.setSlice start stop operand) fun _ => True := by
  cases operand with
  | scalar value => exact licensed_fill covers value
  | array b =>
    refine licensed_guard fun _ => ?_
    dsimp only
    split
    case isTrue => trivial
    case isFalse =>
      refine licensed_guard fun _ => licensed_guard fun _ => ?_
      exact Call.Licensed.bind (licensed_kernel covers .setSlice) fun kernel licensed =>
        Stream.licensed_launch licensed _
  | grid g =>
    refine licensed_guard fun _ => ?_
    dsimp only
    split
    case isTrue => trivial
    case isFalse =>
      refine licensed_guard fun _ => ?_
      exact Call.Licensed.bind (licensed_kernel covers .setSlice) fun kernel licensed =>
        licensed_withBound fun b => Stream.licensed_launch licensed _

end DeviceArray

end DeviceArrays
