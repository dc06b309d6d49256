import DeviceArrays.DeviceArray.Operators
import DeviceArrays.Proofs.Client.Operators
import DeviceArrays.Proofs.Effect

/-!
# Orderly clients

A client notes which streams it opened on which devices, which buffers it was given, and how it has
waited. It is orderly if it takes a failure only when it has just waited for its newest command,
joins a worker only when it has just closed the stream, and, where `strict` holds, submits no
command that names a buffer of another device than the stream's. Every call of arrays is orderly,
whatever kernels the libraries hold and whatever it is answered.
-/
namespace DeviceArrays

variable {α β : Type} {strict : Prop}

/-- What a client has noted: its streams with their devices, its buffers, the command it submitted
just now, and the stream that it has waited for or closed just now. -/
structure Notes where
  streams : List (Nat × Nat)
  buffers : List Holding
  newest : Option (Nat × Nat)
  settled : Option Nat
  closed : Option Nat

namespace Notes

def empty : Notes := ⟨[], [], none, none, none⟩

/-- The notes after an action and its answer. -/
def next (K : Notes) : (a : Action) → a.Reply → Notes
  | .openStream device, (stream : Nat) =>
    ⟨(stream, device) :: K.streams, K.buffers, none, none, none⟩
  | .allocate device _, (b : BufferId) => ⟨K.streams, ⟨device, b⟩ :: K.buffers, none, none, none⟩
  | .submit stream _, (number : Option Nat) =>
    { K with newest := number.map (stream, ·), settled := none, closed := none }
  | .await stream _, _ => { K with newest := none, settled := some stream, closed := none }
  | .close stream, _ => { K with newest := none, settled := none, closed := some stream }
  | _, _ => { K with newest := none, settled := none, closed := none }

/-- A command for a stream names only buffers of the stream's device. -/
def Domestic (K : Notes) (stream : Nat) (c : Command) : Prop :=
  ∃ device, (stream, device) ∈ K.streams ∧ ∀ b ∈ c.buffers, ⟨device, b⟩ ∈ K.buffers

/-- The actions that an orderly client may take. -/
def Allows (K : Notes) (strict : Prop) : Action → Prop
  | .submit stream c => strict → K.Domestic stream c
  | .await stream sequence => K.newest = some (stream, sequence)
  | .takeFailure stream => K.settled = some stream
  | .join stream => K.closed = some stream
  | _ => True

/-- Streams and buffers that were noted stay noted. -/
structure Grows (K M : Notes) : Prop where
  streams : K.streams ⊆ M.streams
  buffers : K.buffers ⊆ M.buffers

theorem Grows.refl (K : Notes) : K.Grows K := ⟨List.Subset.refl _, List.Subset.refl _⟩

theorem Grows.trans {K M N : Notes} (first : K.Grows M) (later : M.Grows N) : K.Grows N :=
  ⟨List.Subset.trans first.streams later.streams, List.Subset.trans first.buffers later.buffers⟩

theorem grows_next (K : Notes) (action : Action) (reply : action.Reply) :
    K.Grows (K.next action reply) := by
  cases action with
  | openStream device => exact ⟨List.subset_cons_self _ _, List.Subset.refl _⟩
  | allocate device size => exact ⟨List.Subset.refl _, List.subset_cons_self _ _⟩
  | _ => exact ⟨List.Subset.refl _, List.Subset.refl _⟩

/-- The stream is known to be on its device. -/
def Drives (K : Notes) (s : Stream) : Prop := (s.number, s.device.number) ∈ K.streams

/-- An array whose stream and buffer are on its device, and so are those of its owner. -/
structure Holds (K : Notes) (a : DeviceArray) : Prop where
  stream : K.Drives a.stream
  near : a.stream.device.number = a.device.number
  root : a.root.stream.device.number = a.device.number
  buffer : ⟨a.device.number, a.buffer⟩ ∈ K.buffers

variable {K M : Notes}

theorem Drives.mono {s : Stream} (h : K.Drives s) (grows : K.Grows M) : M.Drives s :=
  grows.streams h

theorem Holds.mono {a : DeviceArray} (h : K.Holds a) (grows : K.Grows M) : M.Holds a :=
  ⟨h.stream.mono grows, h.near, h.root, grows.buffers h.buffer⟩

theorem Drives.domestic {s : Stream} {c : Command} (h : K.Drives s)
    (known : ∀ b ∈ c.buffers, ⟨s.device.number, b⟩ ∈ K.buffers) : K.Domestic s.number c :=
  ⟨s.device.number, h, known⟩

/-- A command for an array's stream may name the buffers of the array's device. -/
theorem Holds.domestic {a : DeviceArray} {c : Command} (h : K.Holds a)
    (known : ∀ b ∈ c.buffers, ⟨a.device.number, b⟩ ∈ K.buffers) :
    K.Domestic a.stream.number c :=
  ⟨a.device.number, h.near ▸ h.stream, known⟩

end Notes

namespace Client

/-- Takes only allowed actions, whatever it is answered, and ends as `Q` says. -/
def Orderly (strict : Prop) : Client α → Notes → (α → Notes → Prop) → Prop
  | .done a, K, Q => Q a K
  | .act action next, K, Q =>
    K.Allows strict action ∧ ∀ reply, (next reply).Orderly strict (K.next action reply) Q

variable {K : Notes} {Q : α → Notes → Prop}

theorem Orderly.mono {R : α → Notes → Prop} {c : Client α} (h : c.Orderly strict K Q)
    (weaker : ∀ a M, K.Grows M → Q a M → R a M) : c.Orderly strict K R := by
  induction c generalizing K with
  | done a => exact weaker a K (.refl K) h
  | act action next ih =>
    exact ⟨h.1, fun reply => ih reply (h.2 reply) fun a M grows =>
      weaker a M ((K.grows_next action reply).trans grows)⟩

/-- A strict client is orderly by less strict rules as well. -/
theorem Orderly.lax {weaker : Prop} {c : Client α} (h : c.Orderly strict K Q)
    (implies : weaker → strict) : c.Orderly weaker K Q := by
  induction c generalizing K with
  | done a => exact h
  | act action next ih =>
    refine ⟨?_, fun reply => ih reply (h.2 reply)⟩
    cases action with
    | submit stream c => exact fun holds => h.1 (implies holds)
    | _ => exact h.1

theorem Orderly.bind {c : Client α} {f : α → Client β} {R : β → Notes → Prop}
    (h : c.Orderly strict K fun a M => (f a).Orderly strict M R) :
    (c.bind f).Orderly strict K R := by
  induction c generalizing K with
  | done a => exact h
  | act action next ih => exact ⟨h.1, fun reply => ih reply (h.2 reply)⟩

end Client

namespace Call

/-- Takes only allowed actions and ends as `Q` says, unless it ends with an error. -/
def Orderly (strict : Prop) (c : Call α) (K : Notes) (Q : α → Notes → Prop) : Prop :=
  Client.Orderly strict c.run K fun
    | .ok a, M => Q a M
    | .error _, _ => True

variable {K : Notes} {Q : α → Notes → Prop}

theorem Orderly.mono {R : α → Notes → Prop} {c : Call α} (h : Call.Orderly strict c K Q)
    (weaker : ∀ a M, K.Grows M → Q a M → R a M) : Call.Orderly strict c K R := by
  refine Client.Orderly.mono h fun answer M grows ended => ?_
  cases answer with
  | ok a => exact weaker a M grows ended
  | error e => trivial

theorem Orderly.bind {c : Call α} {f : α → Call β} {R : β → Notes → Prop}
    (h : Call.Orderly strict c K Q)
    (rest : ∀ a M, K.Grows M → Q a M → Call.Orderly strict (f a) M R) :
    Call.Orderly strict (c >>= f) K R := by
  refine Client.Orderly.bind (Client.Orderly.mono h fun answer M grows ended => ?_)
  cases answer with
  | ok a => exact rest a M grows ended
  | error e => trivial

theorem orderly_lift {c : Client α} (h : c.Orderly strict K Q) :
    Call.Orderly strict (ExceptT.lift c) K Q :=
  Client.Orderly.bind (h.mono fun _ _ _ ended => ended)

theorem orderly_perform {action : Action} {Q : action.Reply → Notes → Prop}
    (allowed : K.Allows strict action) (h : ∀ reply, Q reply (K.next action reply)) :
    Call.Orderly strict (Call.perform action) K Q :=
  orderly_lift ⟨allowed, h⟩

theorem orderly_check {x : Except Error α} (h : ∀ a, x = .ok a → Q a K) :
    Call.Orderly strict (Call.check x) K Q := by
  cases x with
  | ok a => exact h a rfl
  | error e => trivial

theorem orderly_guard {p : Prop} [Decidable p] {e : Error} {f : β → Call α} {c : Call α}
    (rest : ¬ p → Call.Orderly strict c K Q) :
    Call.Orderly strict (if p then throw e >>= f else c) K Q := by
  split
  case isTrue => exact trivial
  case isFalse passed => exact rest passed

theorem orderly_onError {cleanup : Client Unit} {body : Call α}
    (h : Call.Orderly strict body K Q)
    (cleans : ∀ M, K.Grows M → cleanup.Orderly strict M fun _ _ => True) :
    Call.Orderly strict (Call.onError cleanup body) K Q := by
  refine Client.Orderly.bind (Client.Orderly.mono h fun answer M grows ended => ?_)
  cases answer with
  | ok a => exact ended
  | error e => exact Client.Orderly.bind ((cleans M grows).mono fun _ _ _ _ => trivial)

end Call

open Call

variable {K : Notes}

namespace HostStore

theorem orderly_create (size : Nat) :
    Call.Orderly strict (create size) K fun _ _ => True :=
  orderly_perform trivial fun _ => trivial

theorem orderly_bytes (store : HostStore) :
    Call.Orderly strict store.bytes K fun _ _ => True :=
  orderly_perform trivial fun _ => trivial

theorem orderly_write (store : HostStore) (data : Bytes) :
    Call.Orderly strict (store.write data) K fun _ _ => True :=
  orderly_perform trivial fun _ => trivial

end HostStore

/-! ### Streams -/

namespace Stream

variable {s : Stream}

theorem orderly_create (d : Device) (options : StreamOptions) :
    Call.Orderly strict (create d options) K fun s M => M.Drives s := by
  have opens : Call.Orderly strict (Call.perform (.openStream d.number)) K
      fun (number : Nat) M => (number, d.number) ∈ M.streams :=
    orderly_perform trivial fun _ => .head _
  exact Call.Orderly.bind opens fun number M _ opened => opened

theorem orderly_close : Call.Orderly strict s.close K fun _ _ => True := by
  have closes : Call.Orderly strict (Call.perform (.close s.number)) K
      fun _ M => M.closed = some s.number := orderly_perform trivial fun _ => rfl
  exact Call.Orderly.bind closes fun _ _ _ closed => orderly_perform closed fun _ => trivial

theorem orderly_allocate (store : HostStore) : Call.Orderly strict (s.allocate store) K
    fun b M => ⟨s.device.number, b⟩ ∈ M.buffers :=
  orderly_perform trivial fun _ => .head _

theorem orderly_submit {c : Command} (domestic : strict → K.Domestic s.number c) :
    Call.Orderly strict (s.submit c) K fun n M => M.newest = some (s.number, n) := by
  have submits : Call.Orderly strict (Call.perform (.submit s.number c)) K
      fun (reply : Option Nat) M => M.newest = reply.map (s.number, ·) :=
    orderly_perform domestic fun _ => rfl
  refine Call.Orderly.bind submits fun reply M _ newest => ?_
  cases reply with
  | none => trivial
  | some n => exact newest

theorem orderly_release {b : BufferId} (domestic : strict → K.Domestic s.number (.release b)) :
    Call.Orderly strict (s.release b) K fun _ _ => True :=
  Call.Orderly.bind (orderly_submit domestic) fun _ _ _ _ => trivial

theorem orderly_copyToDevice {b : BufferId} {store : HostStore}
    (domestic : strict → ∀ bytes M, K.Grows M → M.Domestic s.number (.copyToDevice b bytes)) :
    Call.Orderly strict (s.copyToDevice b store) K fun _ _ => True := by
  refine Call.Orderly.bind (HostStore.orderly_bytes store) fun bytes M grows _ => ?_
  exact Call.Orderly.bind (orderly_submit fun holds => domestic holds bytes M grows)
    fun _ _ _ _ => trivial

theorem orderly_copyToHost {b : BufferId} {store : HostStore}
    (domestic : strict → K.Domestic s.number (.copyToHost b store)) :
    Call.Orderly strict (s.copyToHost b store) K fun _ _ => True :=
  Call.Orderly.bind (orderly_submit domestic) fun _ _ _ _ => trivial

/-- Waiting for the newest command allows to take the failure that is kept. -/
theorem orderly_waitFor {n : Nat} (newest : K.newest = some (s.number, n)) :
    Call.Orderly strict (s.waitFor n) K fun _ _ => True := by
  have awaits : Call.Orderly strict (Call.perform (.await s.number n)) K
      fun _ M => M.settled = some s.number := orderly_perform newest fun _ => rfl
  refine Call.Orderly.bind awaits fun _ M _ settled => ?_
  have takes : Call.Orderly strict (Call.perform (.takeFailure s.number)) M fun _ _ => True :=
    orderly_perform settled fun _ => trivial
  refine Call.Orderly.bind takes fun failure _ _ _ => ?_
  cases failure <;> trivial

theorem orderly_launch {kernel : Kernel} {arguments : List Argument}
    (domestic : strict → K.Domestic s.number (.launch kernel arguments)) :
    Call.Orderly strict (s.launch kernel arguments) K fun _ _ => True := by
  refine Call.Orderly.bind (orderly_submit domestic) fun n M _ newest => ?_
  split
  case isTrue => exact orderly_waitFor newest
  case isFalse => trivial

theorem orderly_synchronize (domestic : strict → K.Domestic s.number .fence) :
    Call.Orderly strict s.synchronize K fun _ _ => True :=
  Call.Orderly.bind (orderly_submit domestic) fun _ _ _ newest => orderly_waitFor newest

end Stream

/-! ### Arrays -/

namespace DeviceArray

variable {a : DeviceArray}

theorem orderly_updateDevice (holds : K.Holds a) :
    Call.Orderly True a.updateDevice K fun _ _ => True :=
  Stream.orderly_copyToDevice fun _ bytes M grows =>
    (holds.mono grows).domestic fun b member => by
      cases List.mem_singleton.mp member
      exact (holds.mono grows).buffer

theorem orderly_updateHost (holds : K.Holds a) :
    Call.Orderly True a.updateHost K fun _ _ => True := by
  refine Call.Orderly.bind (Stream.orderly_copyToHost fun _ => holds.domestic fun b member => ?_)
    fun _ M grows _ => ?_
  · cases List.mem_singleton.mp member
    exact holds.buffer
  · exact Stream.orderly_synchronize fun _ => (holds.mono grows).domestic nofun

theorem domestic_release (holds : K.Holds a) : K.Domestic a.stream.number (.release a.buffer) :=
  holds.domestic fun b member => by
    cases List.mem_singleton.mp member
    exact holds.buffer

theorem orderly_release (holds : K.Holds a) :
    Call.Orderly True a.release K fun _ _ => True := by
  unfold release
  cases a.ownership with
  | owner => exact Stream.orderly_release fun _ => domestic_release holds
  | view root => trivial

theorem orderly_drop (holds : K.Holds a) : a.drop.Orderly True K fun _ _ => True := by
  unfold drop
  cases a.ownership with
  | owner =>
    refine Client.Orderly.bind (Client.Orderly.mono
      (Stream.orderly_release fun _ => domestic_release holds) fun answer _ _ _ => ?_)
    cases answer <;> trivial
  | view root => trivial

/-- Whether a new array is kept where it was meant to be. -/
def Made (d : Device) (s : Stream) (a : DeviceArray) (M : Notes) : Prop :=
  a.device = d ∧ a.stream = s ∧ M.Holds a

theorem orderly_allocate {shape : Shape} {type : ElementType} {layout : Layout} {d : Device}
    {s : Stream} (driven : K.Drives s) :
    Call.Orderly True (allocate shape type layout d s) K (Made d s) := by
  unfold allocate
  refine orderly_guard fun near => orderly_guard fun _ => ?_
  have near : s.device.number = d.number := by simpa [Device.same] using near
  refine Call.Orderly.bind (HostStore.orderly_create _) fun store M grows _ => ?_
  refine Call.Orderly.bind (Stream.orderly_allocate store) fun b N more given => ?_
  exact ⟨rfl, rfl, (driven.mono grows).mono more, near, near, near ▸ given⟩

theorem orderly_allocateLike {type : ElementType} (holds : K.Holds a) :
    Call.Orderly True (a.allocateLike type) K (Made a.device a.stream) :=
  orderly_allocate holds.stream

theorem orderly_build {request : ArrayRequest}
    (driven : ∀ s, request.stream = some s → K.Drives s) :
    Call.Orderly True (build request) K fun a M =>
      request.device = some a.device ∧ request.stream = some a.stream ∧ M.Holds a := by
  unfold build
  refine Call.Orderly.bind (orderly_check (Q := fun _ _ => True) fun _ _ => trivial)
    fun shape M grows _ => ?_
  obtain ⟨extents, type, layout, device?, stream?⟩ := request
  cases device? with
  | none => trivial
  | some d =>
    cases stream? with
    | none => trivial
    | some s =>
      refine Call.Orderly.mono (orderly_allocate ((driven s rfl).mono grows)) fun a N _ made => ?_
      obtain ⟨rfl, rfl, holds⟩ := made
      exact ⟨rfl, rfl, holds⟩

theorem orderly_kernel (k : ElementwiseKernel) :
    Call.Orderly True (a.kernel k) K fun _ _ => True :=
  orderly_check fun _ _ => trivial

/-- A launch on an array's stream with buffers of the array's device. -/
theorem orderly_launch {kernel : Kernel} {arguments : List Argument} (holds : K.Holds a)
    (known : ∀ b, .buffer b ∈ arguments → ⟨a.device.number, b⟩ ∈ K.buffers) :
    Call.Orderly True (a.stream.launch kernel arguments) K fun _ _ => True := by
  refine Stream.orderly_launch fun _ => holds.domestic fun b named => ?_
  obtain ⟨argument, passed, is_buffer⟩ := List.mem_filterMap.mp named
  cases argument <;> cases is_buffer
  exact known _ passed

theorem orderly_fill {value : Scalar} (holds : K.Holds a) :
    Call.Orderly True (a.fill value) K fun _ _ => True := by
  unfold fill
  refine orderly_guard fun _ => ?_
  refine Call.Orderly.bind (orderly_kernel .fill) fun kernel M grows _ => ?_
  have holds := holds.mono grows
  refine orderly_launch holds fun b passed => ?_
  obtain rfl : b = a.buffer := by simpa [Argument.ofType] using passed
  exact holds.buffer

theorem orderly_fillFrom {g : Grid} (holds : K.Holds a) :
    Call.Orderly True (a.fillFrom g) K fun _ _ => True := by
  unfold fillFrom
  refine orderly_guard fun _ => orderly_guard fun _ => ?_
  refine Call.Orderly.bind (HostStore.orderly_write _ _) fun _ M grows _ => ?_
  exact orderly_updateDevice (holds.mono grows)

theorem orderly_elements (t : ElementType) :
    Call.Orderly True (a.elements t) K fun _ _ => True := by
  unfold elements
  refine orderly_guard fun _ => ?_
  exact Call.Orderly.bind (HostStore.orderly_bytes _) fun _ _ _ _ => trivial

theorem orderly_gridElements (t : ElementType) :
    Call.Orderly True (a.gridElements t) K fun _ _ => True :=
  Call.Orderly.bind (orderly_elements t) fun _ _ _ _ => trivial

theorem orderly_text : Call.Orderly True a.text K fun _ _ => True :=
  Call.Orderly.bind (orderly_gridElements _) fun _ _ _ _ => trivial

end DeviceArray

open DeviceArray (Made)

namespace Stream

variable {s : Stream}

theorem orderly_build (driven : K.Drives s) {extents : List Nat} {type : ElementType}
    {layout : Layout} :
    Call.Orderly True (DeviceArray.build ⟨extents, type, layout, some s.device, some s⟩) K
      (Made s.device s) := by
  have drives : ∀ t, some s = some t → K.Drives t := fun t same => Option.some.inj same ▸ driven
  refine Call.Orderly.mono (DeviceArray.orderly_build drives) fun a M _ made => ?_
  exact ⟨(Option.some.inj made.1).symm, (Option.some.inj made.2.1).symm, made.2.2⟩

theorem orderly_bindWith {g : Grid} {layout : Layout} (driven : K.Drives s) :
    Call.Orderly True (s.bindWith g layout) K (Made s.device s) := by
  unfold bindWith
  refine Call.Orderly.bind (orderly_build driven) fun a M _ made => ?_
  obtain ⟨device, stream, holds⟩ := made
  refine Call.Orderly.bind (orderly_onError (Q := fun _ _ => True) ?_
    fun N grows => DeviceArray.orderly_drop (holds.mono grows)) fun _ N grows _ => ?_
  · refine Call.Orderly.bind (HostStore.orderly_write _ _) fun _ N grows _ => ?_
    exact DeviceArray.orderly_updateDevice (holds.mono grows)
  · exact ⟨device, stream, holds.mono grows⟩

theorem orderly_empty {extents : List Nat} {type : ElementType} {layout : Layout}
    {updateHost : Bool} (driven : K.Drives s) :
    Call.Orderly True (s.empty extents type layout updateHost) K (Made s.device s) := by
  unfold empty
  refine Call.Orderly.bind (orderly_build driven) fun a M _ made => ?_
  dsimp only
  split
  case isTrue =>
    obtain ⟨device, stream, holds⟩ := made
    refine Call.Orderly.bind (orderly_onError (DeviceArray.orderly_updateHost holds)
      fun N grows => DeviceArray.orderly_drop (holds.mono grows)) fun _ N grows _ => ?_
    exact ⟨device, stream, holds.mono grows⟩
  case isFalse => exact made

theorem orderly_filled {extents : List Nat} {value : Scalar} (driven : K.Drives s) :
    Call.Orderly True (s.filled extents value) K (Made s.device s) := by
  unfold filled
  refine Call.Orderly.bind (orderly_empty driven) fun a M _ made => ?_
  obtain ⟨device, stream, holds⟩ := made
  refine Call.Orderly.bind (orderly_onError (DeviceArray.orderly_fill holds)
    fun N grows => DeviceArray.orderly_drop (holds.mono grows)) fun _ N grows _ => ?_
  exact ⟨device, stream, holds.mono grows⟩

end Stream

namespace DeviceArray

variable {a : DeviceArray}

/-- A grid is bound on the device of the stream. -/
theorem orderly_withBound {s : Stream} {g : Grid} {layout : Layout}
    {body : DeviceArray → Call α} (driven : K.Drives s)
    (runs : ∀ b M, K.Grows M → Made s.device s b M →
      Call.Orderly True (body b) M fun _ _ => True) :
    Call.Orderly True (withBound s g layout body) K fun _ _ => True := by
  unfold withBound
  refine Call.Orderly.bind (Stream.orderly_bindWith driven) fun b M grows made => ?_
  have holds := made.2.2
  refine Call.Orderly.bind (orderly_onError (runs b M grows made)
    fun N more => orderly_drop (holds.mono more)) fun _ N more _ => ?_
  exact Call.Orderly.bind (orderly_lift (orderly_drop (holds.mono more))) fun _ _ _ _ => trivial

theorem orderly_launch_binary {kernel : Kernel} {y : KernelOperand} {result : BufferId}
    (holds : K.Holds a) (right : ∀ b ∈ y.buffers, ⟨a.device.number, b⟩ ∈ K.buffers)
    (target : ⟨a.device.number, result⟩ ∈ K.buffers) :
    Call.Orderly True (a.stream.launch kernel
      (BinaryLaunch.arguments ⟨a.type, a.size, a.buffer, y, result⟩)) K fun _ _ => True := by
  refine orderly_launch holds fun b passed => ?_
  obtain rfl | rfl | rfl : b = a.buffer ∨ y = .buffer b ∨ b = result := by
    cases y <;> simpa [BinaryLaunch.arguments, Argument.ofType, KernelOperand.argument,
      eq_comm] using passed
  · exact holds.buffer
  · exact right b (List.mem_singleton_self b)
  · exact target

/-- An operand on another device is refused, so no command names it. -/
theorem orderly_binary {operation : BinaryOperation} {operand : Operand} (holds : K.Holds a)
    (known : ∀ b, operand = .array b → K.Holds b) :
    Call.Orderly True (a.binary operation operand) K (Made a.device a.stream) := by
  unfold binary
  refine Call.Orderly.bind (orderly_check (Q := fun _ _ => a.Matches operand) fun _ accepted => ?_)
    fun _ L grows fitting => ?_
  · obtain ⟨_, fitting⟩ | ⟨_, refused, _⟩ := a.checkOperand_cases operand
    · exact fitting
    · simp [refused] at accepted
  refine Call.Orderly.bind (orderly_kernel _) fun kernel M more _ => ?_
  have grows := grows.trans more
  refine Call.Orderly.bind (orderly_allocateLike (holds.mono grows)) fun c N more made => ?_
  have grows := grows.trans more
  have left := holds.mono grows
  obtain ⟨device, stream, result⟩ := made
  have target {O : Notes} (late : N.Grows O) : ⟨a.device.number, c.buffer⟩ ∈ O.buffers :=
    device ▸ (result.mono late).buffer
  refine Call.Orderly.bind (orderly_onError (Q := fun _ _ => True) ?_
    fun O late => orderly_drop (result.mono late)) fun _ O late _ => ?_
  case refine_2 => exact ⟨device, stream, result.mono late⟩
  case refine_1 =>
    cases operand with
    | array b =>
      have right := ((known b rfl).mono grows).buffer
      rw [fitting.2.1] at right
      refine orderly_launch_binary left (fun d member => ?_) (target (.refl N))
      cases List.mem_singleton.mp member
      exact right
    | scalar value => exact orderly_launch_binary left nofun (target (.refl N))
    | grid g =>
      refine orderly_withBound left.stream fun b O late bound => ?_
      have right := bound.2.2.buffer
      rw [bound.1, left.near] at right
      refine orderly_launch_binary (left.mono late) (fun d member => ?_) (target late)
      cases List.mem_singleton.mp member
      exact right

theorem orderly_unary {k : ElementwiseKernel} {type : ElementType} (holds : K.Holds a) :
    Call.Orderly True (a.unary k type) K (Made a.device a.stream) := by
  unfold unary
  refine Call.Orderly.bind (orderly_kernel _) fun kernel L grows _ => ?_
  refine Call.Orderly.bind (orderly_allocateLike (holds.mono grows)) fun c M more made => ?_
  have source := (holds.mono grows).mono more
  obtain ⟨device, stream, result⟩ := made
  refine Call.Orderly.bind (orderly_onError (orderly_launch source fun b passed => ?_)
    fun N late => orderly_drop (result.mono late)) fun _ N late _ => ?_
  · obtain rfl | rfl : b = a.buffer ∨ b = c.buffer := by simpa [Argument.ofType] using passed
    · exact source.buffer
    · exact device ▸ result.buffer
  · exact ⟨device, stream, result.mono late⟩

theorem orderly_abs (holds : K.Holds a) :
    Call.Orderly True a.abs K (Made a.device a.stream) :=
  orderly_unary holds

theorem orderly_reverse (holds : K.Holds a) :
    Call.Orderly True a.reverse K (Made a.device a.stream) := by
  unfold reverse
  exact orderly_guard fun _ => orderly_unary holds

theorem orderly_launch_setSlice {kernel : Kernel} {lower upper : Nat} {source : BufferId}
    (holds : K.Holds a) (known : ⟨a.device.number, source⟩ ∈ K.buffers) :
    Call.Orderly True (a.stream.launch kernel
      [.ofType a.type, .count lower, .count upper, .buffer a.buffer, .buffer source]) K
      fun _ _ => True := by
  refine orderly_launch holds fun b passed => ?_
  obtain rfl | rfl : b = a.buffer ∨ b = source := by simpa [Argument.ofType] using passed
  · exact holds.buffer
  · exact known

/-- What is assigned to no place is not looked at further, but then no command is submitted. -/
theorem orderly_setSlice {start stop : Nat} {operand : Operand} (holds : K.Holds a)
    (known : ∀ b, operand = .array b → K.Holds b) :
    Call.Orderly True (a.setSlice start stop operand) K fun _ _ => True := by
  cases operand with
  | scalar value => exact orderly_fill holds
  | array b =>
    refine orderly_guard fun _ => ?_
    dsimp only
    split
    case isTrue => trivial
    case isFalse =>
      refine orderly_guard fun near => orderly_guard fun _ => ?_
      have near : b.device.number = a.device.number := by simpa [Device.same] using near
      refine Call.Orderly.bind (orderly_kernel _) fun kernel M grows _ => ?_
      have right := ((known b rfl).mono grows).buffer
      rw [near] at right
      exact orderly_launch_setSlice (holds.mono grows) right
  | grid g =>
    refine orderly_guard fun _ => ?_
    dsimp only
    split
    case isTrue => trivial
    case isFalse =>
      refine orderly_guard fun _ => ?_
      refine Call.Orderly.bind (orderly_kernel _) fun kernel M grows _ => ?_
      have holds := holds.mono grows
      refine orderly_withBound holds.stream fun b N more bound => ?_
      have right := bound.2.2.buffer
      rw [bound.1, holds.near] at right
      exact orderly_launch_setSlice (holds.mono more) right

end DeviceArray

end DeviceArrays
