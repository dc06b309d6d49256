import DeviceArrays.Proofs.Several.Binding
import DeviceArrays.Proofs.Several.Launches
import DeviceArrays.Proofs.Several.Progress
import Mathlib.Data.List.Nodup

/-!
# Slices of arrays

Between two calls of a program every array in scope stands ready to be assigned to. An assignment to
a slice is refused by a check, has nothing to do, or queues one launch. Once the workers have done
that, the elements in the slice are those of the source, and all others are what they were.
-/
namespace DeviceArrays

variable {w u v : World} {ws : Workspace} {L : Ledger} {a b x : DeviceArray} {start stop : Nat}
  {trace : List Moment} {source : BufferId} {data? old? : Option Bytes} {post : List Command}
  {answer : Except Error Unit} {g : Grid}

/-! ### Between two calls -/

/-- A device with the standard library is left to elementwise kernels. -/
theorem World.Furnished.elementwise (furnished : w.Furnished ws) {d : Device}
    (home : d ∈ ws.devices) (standard : d.library = .standard) : w.Elementwise d.number := by
  intro i state found c waiting near
  cases c with
  | launch kernel arguments =>
    obtain ⟨e, member, same, provided⟩ :=
      furnished.launches i state found _ waiting kernel arguments rfl
    obtain rfl : e = d :=
      List.inj_on_of_nodup_map furnished.numbers member home (same.trans near)
    rw [standard] at provided
    exact Library.exists_of_mem_standard kernel provided
  | _ => trivial

theorem World.Known.unclaimed (known : w.Known L) (accounts : Accounts L w) (d : Nat) :
    w.Unclaimed d := by
  intro i state found c waiting near named
  subst near
  obtain ⟨n, given⟩ := known i state found c waiting _ (List.mem_map_of_mem named)
  exact (w.memory state.device).not_issued_next (accounts.issued _ n given)

namespace Accounts

theorem unsent (accounts : Accounts L w) : w.Unsent w.stores.length := by
  intro i state found c waiting named
  have tidy := (accounts.tended state (List.mem_of_getElem? found)).tidy c waiting
  cases c with
  | copyToHost b store =>
    have same : w.stores.length = store.number := List.mem_singleton.mp named
    have inside := (List.getElem?_eq_some_iff.mp tidy).1
    rw [← accounts.stores, List.length_map] at inside
    omega
  | _ => cases named

/-- The stream of an array in scope is open. -/
theorem exists_lane (accounts : Accounts L w) (holds : L.Holds .several a) :
    ∃ q, w.Lane a.device.number a.stream.number q := by
  obtain ⟨⟨device, q⟩, found, rfl, opened⟩ := accounts.find holds.stream.opened
  have inside := accounts.inside found
  have numbered := (accounts.tended _ (List.mem_of_getElem? found)).numbered
  rw [holds.same] at found inside
  exact ⟨q, found, inside, numbered, by simpa using opened⟩

/-- The buffer of an array in scope is not to be released. -/
theorem kept (accounts : Accounts L w) (holds : L.Holds .several a) :
    w.Kept a.device.number a.buffer a.byteSize := by
  obtain ⟨given, mine⟩ := holds.buffer
  refine ⟨accounts.sized _ _ given (mine nofun), fun i state found c waiting near released => ?_⟩
  refine accounts.custody.not_releasing (mine nofun) ?_
  refine List.mem_flatMap.mpr ⟨state, List.mem_of_getElem? found, ?_⟩
  exact List.mem_map.mpr ⟨a.buffer, List.mem_filterMap.mpr ⟨c, waiting, released⟩, by rw [near]⟩

end Accounts

namespace World

/-- No outstanding command names the buffer of the array. -/
abbrev Untouched (w : World) (x : DeviceArray) : Prop :=
  w.Queued fun e _ c => e = x.device.number → x.buffer ∉ c.buffers

/-- A buffer that is kept stands ready, and if it is untouched, then with what it holds now. -/
theorem Kept.supplies {d i n : Nat} {y : BufferId} {q : Queue Command Error}
    (kept : w.Kept d y n) (lane : w.Lane d i q) :
    ∃ data?, w.Supplies d i y n data? [] ∧ ((w.Queued fun e _ c => e = d → y ∉ c.buffers) →
      ∃ data, data? = some data ∧ (w.memory d).contents? y = some data) := by
  by_cases untouched : w.Queued fun e _ c => e = d → y ∉ c.buffers
  case neg => exact ⟨none, .kept kept, fun free => absurd free untouched⟩
  case pos =>
    obtain ⟨data, there, length⟩ := Memory.contents?_of_size? kept.size
    have ahead : w.Ahead d i y q.outstanding [] :=
      ⟨⟨q, lane, (List.append_nil _).symm⟩, untouched.mono fun _ _ _ free near _ => free near,
        fun c waiting => untouched i _ lane.found c waiting rfl⟩
    exact ⟨some data, .held ahead there length, fun _ => ⟨data, rfl, there⟩⟩

end World

namespace DeviceArray

/-! ### The checks -/

theorem run_guard {α β : Type} {p : Prop} [Decidable p] {e : Error} {f : β → Call α} {c : Call α}
    (refused : p) : (if p then throw e >>= f else c).run = .done (.error e) := by
  rw [if_pos refused]
  rfl

theorem run_setSlice_of_type {operand : Operand} (other : operand.type ≠ a.type) :
    (a.setSlice start stop operand).run = .done (.error (.typeMismatch a.type operand.type)) := by
  cases operand with
  | scalar value => exact run_guard other
  | array b => exact run_guard other
  | grid g => exact run_guard other

/-- Nothing is done where there are no places in the slice. -/
theorem run_setSlice_of_empty {operand : Operand} (type : operand.type = a.type)
    (several : ∀ value, operand ≠ .scalar value) (bare : min stop a.size ≤ min start a.size) :
    (a.setSlice start stop operand).run = .done (.ok ()) := by
  have passed : ¬ operand.type ≠ a.type := Decidable.not_not.mpr type
  cases operand with
  | scalar value => exact absurd rfl (several value)
  | array b => exact congrArg ExceptT.run ((if_neg passed).trans (if_pos bare))
  | grid g => exact congrArg ExceptT.run ((if_neg passed).trans (if_pos bare))

/-- Where there are places in the slice, the device and the size of an array are looked at. -/
theorem setSlice_array_eq (type : b.type = a.type)
    (nonempty : min start a.size < min stop a.size) :
    a.setSlice start stop (.array b) = (do
      if !b.device.same a.device then throw (.deviceMismatch a.device.id b.device.id)
      if b.size ≠ min stop a.size - min start a.size then
        throw (.shapeMismatch (.sliceLength b.size (min start a.size) (min stop a.size)))
      a.stream.launch (← a.kernel .setSlice) (a.sliceArguments start stop b.buffer)) :=
  (if_neg (Decidable.not_not.mpr type)).trans (if_neg (Nat.not_le.mpr nonempty))

/-- Of a grid only the size is looked at. -/
theorem setSlice_grid_eq (type : g.type = a.type)
    (nonempty : min start a.size < min stop a.size) :
    a.setSlice start stop (.grid g) = (do
      if g.size ≠ min stop a.size - min start a.size then
        throw (.shapeMismatch (.sliceLength g.size (min start a.size) (min stop a.size)))
      let kernel ← a.kernel .setSlice
      withBound a.stream g a.layout fun b =>
        a.stream.launch kernel (a.sliceArguments start stop b.buffer)) :=
  (if_neg (Decidable.not_not.mpr type)).trans (if_neg (Nat.not_le.mpr nonempty))

theorem run_setSlice_of_device (type : b.type = a.type)
    (nonempty : min start a.size < min stop a.size) (far : b.device.number ≠ a.device.number) :
    (a.setSlice start stop (.array b)).run =
      .done (.error (.deviceMismatch a.device.id b.device.id)) := by
  rw [setSlice_array_eq type nonempty]
  exact run_guard (by simp [Device.same, far])

theorem run_setSlice_array_of_size (type : b.type = a.type)
    (nonempty : min start a.size < min stop a.size) (near : b.device.number = a.device.number)
    (other : b.size ≠ min stop a.size - min start a.size) :
    (a.setSlice start stop (.array b)).run = .done (.error
      (.shapeMismatch (.sliceLength b.size (min start a.size) (min stop a.size)))) := by
  rw [setSlice_array_eq type nonempty, if_neg (by simp [Device.same, near])]
  exact run_guard other

theorem run_setSlice_grid_of_size (type : g.type = a.type)
    (nonempty : min start a.size < min stop a.size)
    (other : g.size ≠ min stop a.size - min start a.size) :
    (a.setSlice start stop (.grid g)).run = .done (.error
      (.shapeMismatch (.sliceLength g.size (min start a.size) (min stop a.size)))) := by
  rw [setSlice_grid_eq type nonempty]
  exact run_guard other

theorem kernel_standard (standard : a.device.library = .standard) (k : ElementwiseKernel) :
    a.kernel k = pure k.toKernel := by
  rw [kernel, standard, Library.get_standard]
  rfl

/-- An array that passes all checks is launched on. -/
theorem setSlice_array (standard : a.device.library = .standard) (type : b.type = a.type)
    (nonempty : min start a.size < min stop a.size) (near : b.device.number = a.device.number)
    (size : b.size = min stop a.size - min start a.size) :
    a.setSlice start stop (.array b) = a.launchSlice start stop b.buffer := by
  rw [setSlice_array_eq type nonempty, if_neg (by simp [Device.same, near]),
    if_neg (Decidable.not_not.mpr size), kernel_standard standard]
  rfl

/-- A grid that passes all checks is bound for the launch. -/
theorem setSlice_grid (standard : a.device.library = .standard) (type : g.type = a.type)
    (nonempty : min start a.size < min stop a.size)
    (size : g.size = min stop a.size - min start a.size) :
    a.setSlice start stop (.grid g) =
      withBound a.stream g a.layout fun b => a.launchSlice start stop b.buffer := by
  rw [setSlice_grid_eq type nonempty, if_neg (Decidable.not_not.mpr size),
    kernel_standard standard]
  rfl

/-! ### The end of a call -/

/-- Where all workers rest, the launch was done. -/
theorem Answered.assigns (answered : a.Answered start stop source data? old? post answer w trace)
    (still : ∀ stream, w.serve stream = none) :
    ∃ v, a.Assigns start stop source data? old? v w trace ∧
      answer = a.stream.answer (v.failure? a.stream.number) := by
  obtain ⟨⟨awaits, _⟩, _⟩ | done := answered
  · obtain ⟨q, before, lane, queued⟩ := awaits.queue
    have quiet := lane.numbered.quiet_of_rests (World.rests_of_still still lane.found)
    rw [quiet.outstanding_eq_nil] at queued
    cases before <;> cases queued
  · exact done

/-- What a call comes to that assigns a slice. It can always go on to its end, and the workers until
all is done. Then the launch was done, in some world `v`, and has not failed; the call was told at
most of a failure that was kept before, and whoever shares the storage has all its elements, in the
slice those that were given, and everywhere else those of `v`. Arrays that nothing was queued for
were then as before the call. -/
structure AssignsSlice (a : DeviceArray) (start stop : Nat) (operand : Operand) (w : World)
    (given : World → Nat → Option (Element a.type)) : Prop where
  ends : ∀ t trace, ReachesBy ⟨[(a.setSlice start stop operand).run], w⟩ t trace →
    ∃ answer u more, ReachesBy ⟨[(a.setSlice start stop operand).run], w⟩ ⟨[.done answer], u⟩
      (trace ++ more) ∧ ∀ stream, u.serve stream = none
  assigns : ∀ answer u trace, ReachesBy ⟨[(a.setSlice start stop operand).run], w⟩
      ⟨[.done answer], u⟩ trace → (∀ stream, u.serve stream = none) →
    ∃ v source, ⟨v, .worker a.stream.number⟩ ∈ trace ∧
      v.running a.stream.number = [(a.sliceLaunch start stop source, none)] ∧
        answer = a.stream.answer (v.failure? a.stream.number) ∧
          (∀ c : DeviceArray, c.storage = a.storage →
            (∀ k < a.size, (u.element? a.type c k).isSome) ∧ ∀ k, u.element? a.type c k =
              if min start a.size ≤ k ∧ k < min stop a.size then given v (k - min start a.size)
              else v.element? a.type a k) ∧
          ∀ x, x = a ∨ operand = .array x → w.Untouched x →
            ∀ k, v.element? a.type x k = w.element? a.type x k

/-- Whoever shares the storage reads the same. -/
theorem element?_of_storage {c : DeviceArray} (same : c.storage = a.storage) (t : ElementType)
    (k : Nat) : u.element? t c k = u.element? t a k := by
  rw [World.element?, World.element?, device, buffer, same]
  rfl

/-- What the workers have left in the slice was in the source when they came to the launch. -/
theorem Assigns.elements {given : Nat → Option (Element a.type)}
    (assigns : a.Assigns start stop source data? old? v u trace)
    (read : ∀ k < min stop a.size - min start a.size,
      (v.memory a.device.number).element? a.type source k = given k)
    {c : DeviceArray} (same : c.storage = a.storage) :
    (∀ k < a.size, (u.element? a.type c k).isSome) ∧ ∀ k, u.element? a.type c k =
      if min start a.size ≤ k ∧ k < min stop a.size then given (k - min start a.size)
      else v.element? a.type a k := by
  simp only [element?_of_storage same]
  refine ⟨fun k inside => Memory.isSome_element? assigns.2.sized inside, fun k => ?_⟩
  rw [assigns.2.elements k]
  split
  case isTrue inside => exact read _ (by omega)
  case isFalse => rfl

/-- What stands ready with the bytes it holds has these bytes until the launch. -/
theorem element?_eq_of_contents {t : ElementType} {bytes : Bytes}
    (before : (w.memory x.device.number).contents? x.buffer = some bytes)
    (later : (v.memory x.device.number).contents? x.buffer = some bytes) (k : Nat) :
    v.element? t x k = w.element? t x k := by
  rw [World.element?, World.element?, Memory.element?, Memory.element?, before, later]

/-- An array stands ready for commands of its stream, if no other stream has work for it. -/
theorem exists_awaits (elementwise : w.Elementwise a.device.number)
    (reserved : w.Reserved a.device.number a.stream.number a.buffer) {q : Queue Command Error}
    (lane : w.Lane a.device.number a.stream.number q)
    (kept : w.Kept a.device.number a.buffer a.byteSize) :
    ∃ old?, w.Awaits a old? [] ∧ (w.Untouched a → ∃ old, old? = some old ∧
      (w.memory a.device.number).contents? a.buffer = some old) := by
  obtain ⟨old?, supplies, holds⟩ := kept.supplies lane
  exact ⟨old?, ⟨elementwise, reserved, ⟨q, q.outstanding, lane, (List.append_nil _).symm⟩,
    supplies⟩, holds⟩

variable {K : Notes}

/-- An array on the same device is assigned as it is when the worker comes to it. -/
theorem assignsSlice_array (standard : a.device.library = .standard)
    (slice : a.HasSlice start stop) (type : b.type = a.type)
    (near : b.device.number = a.device.number) (size : b.size = min stop a.size - min start a.size)
    (awaits : w.Awaits a old? []) (kept : w.Kept a.device.number b.buffer b.byteSize)
    (mine : w.Untouched a → ∃ old, old? = some old ∧
      (w.memory a.device.number).contents? a.buffer = some old)
    (orderly : Call.Orderly True (a.setSlice start stop (.array b)) K fun _ _ => True)
    (timely : K.Timely w) (numbered : w.Numbered) :
    a.AssignsSlice start stop (.array b) w fun v k => v.element? a.type b k := by
  refine ⟨fun t trace reached => reached.reaches_end orderly timely numbered,
    fun answer u trace reached still => ?_⟩
  have bytes : b.byteSize = a.sliceBytes start stop := by
    rw [byteSize, sliceBytes, size, type]
  obtain ⟨q, _, lane, _⟩ := awaits.queue
  obtain ⟨data?, supplies, theirs⟩ := kept.supplies lane
  rw [bytes] at supplies
  rw [setSlice_array standard type slice.nonempty near size] at reached
  obtain ⟨_, _, ended, ensures, _, holds⟩ :=
    reached.ensures (ensures_launchSlice slice) stable_prepared ⟨awaits, supplies⟩
  cases ended
  have answered : a.Answered start stop b.buffer data? old? [] answer u trace := by
    cases answer <;> exact ensures _ _ holds
  obtain ⟨v, assigns, told⟩ := answered.assigns still
  refine ⟨v, b.buffer, assigns.1, assigns.2.running, told,
    fun c => assigns.elements fun k _ => ?_, fun x either untouched k => ?_⟩
  · rw [World.element?, near]
  · obtain rfl | same := either
    · obtain ⟨old, given, there⟩ := mine untouched
      exact element?_eq_of_contents there (assigns.2.found old given) k
    · cases same
      obtain ⟨data, given, there⟩ := theirs (near ▸ untouched)
      have later := assigns.2.given data given
      rw [← near] at there later
      exact element?_eq_of_contents there later k

theorem positive_of_volume_pos {extents : List Nat} (positive : 0 < volume extents) :
    ∀ d ∈ extents, 0 < d := by
  induction extents with
  | nil => nofun
  | cons d later ih =>
    have factors : 0 < d * volume later := positive
    intro e member
    obtain rfl | old := List.mem_cons.mp member
    · exact Nat.pos_of_mul_pos_right factors
    · exact ih (Nat.pos_of_mul_pos_left factors) e old

/-- A grid that has as many elements as there are places is small enough to be bound. -/
theorem binds_of_size (slice : a.HasSlice start stop)
    (near : a.stream.device.number = a.device.number) (type : g.type = a.type)
    (size : g.size = min stop a.size - min start a.size) : a.Binds start stop g := by
  have count : volume g.extents = min stop a.size - min start a.size := g.filled.symm.trans size
  have fewer : volume g.extents ≤ a.size := by omega
  have smaller := Nat.mul_le_mul_right a.type.width fewer
  have bounded : a.size * a.type.width < wordBound := slice.bounded
  refine ⟨near, positive_of_volume_pos ?_, Nat.lt_of_le_of_lt fewer a.shape.bounded, ?_, ?_⟩
  · have := slice.nonempty
    omega
  · rw [type]
    omega
  · rw [g.length_toBytes, size, type, sliceBytes]

/-- A grid is assigned in the array's storage order. -/
theorem assignsSlice_grid {extents : List Nat} {values : List (Element a.type)}
    {filled : values.length = volume extents} (standard : a.device.library = .standard)
    (slice : a.HasSlice start stop) (near : a.stream.device.number = a.device.number)
    (size : values.length = min stop a.size - min start a.size) (awaits : w.Awaits a old? [])
    (unclaimed : w.Unclaimed a.device.number) (unsent : w.Unsent w.stores.length)
    (mine : w.Untouched a → ∃ old, old? = some old ∧
      (w.memory a.device.number).contents? a.buffer = some old)
    (orderly : Call.Orderly True (a.setSlice start stop (.grid ⟨a.type, extents, values, filled⟩))
      K fun _ _ => True)
    (timely : K.Timely w) (numbered : w.Numbered) :
    a.AssignsSlice start stop (.grid ⟨a.type, extents, values, filled⟩) w
      fun _ k => (a.layout.arrange extents values)[k]? := by
  refine ⟨fun t trace reached => reached.reaches_end orderly timely numbered,
    fun answer u trace reached still => ?_⟩
  have binds : a.Binds start stop ⟨a.type, extents, values, filled⟩ :=
    binds_of_size slice near rfl size
  rw [setSlice_grid (g := ⟨a.type, extents, values, filled⟩) standard rfl slice.nonempty size]
    at reached
  obtain ⟨_, _, ended, ensures, _, holds⟩ :=
    reached.ensures (ensures_withBound slice binds) stable_unbound ⟨awaits, unclaimed, unsent⟩
  cases ended
  obtain ⟨b, answered⟩ : ∃ b, a.Answered start stop b
      (some (Grid.toBytes ⟨a.type, extents, values, filled⟩ a.layout)) old? [.release b] answer
      u trace := by
    cases answer <;> exact ensures _ _ holds
  obtain ⟨v, assigns, told⟩ := answered.assigns still
  refine ⟨v, b, assigns.1, assigns.2.running, told,
    fun c => assigns.elements fun k inside => ?_, fun x either untouched k => ?_⟩
  · have length : (a.layout.arrange extents values).length =
        min stop a.size - min start a.size := by
      rw [a.layout.length_arrange filled, ← filled, size]
    have fits : (min stop a.size - min start a.size) * a.type.width ≤
        (Element.listToBytes (a.layout.arrange extents values)).length := by
      rw [Element.length_listToBytes, length]
    have listed := Element.listOfBytes_listToBytes (a.layout.arrange extents values) []
    rw [List.append_nil, length] at listed
    rw [Memory.element?, assigns.2.given _ rfl, Option.bind_some]
    exact (Element.at?_eq_getElem? fits inside).trans (by rw [listed])
  · obtain rfl | same := either
    · obtain ⟨old, given, there⟩ := mine untouched
      exact element?_eq_of_contents there (assigns.2.found old given) k
    · cases same

end DeviceArray

open DeviceArray

/-- Take any state that a program of array calls can reach between two of its calls, over any
devices and streams, with whatever is still queued, and any array or view in scope on a device with
the standard library. No other stream of the device has work left for its buffer, as is so wherever
the storage is used through one stream only. Take any range, cut off at the end of the array.

One value fills the whole array, whatever the range. Another source is refused if it is of another
type. Otherwise a slice without places takes no action at all, and for one with places a source is
refused just if it is an array on another device or has not as many elements as there are places. A
source that is not refused is assigned: see `AssignsSlice`. An array on the device gives its
elements as they lie in storage when the worker comes to the launch, a grid gives its own in the
storage order of the array. Every array that shares the storage shows the same. -/
theorem slices_are_assigned_exactly {p : Program} (within : p.Within .several) {outcome : Outcome}
    (h : Reaches ⟨[p.fromNothing], .empty⟩ ⟨[.done outcome], w⟩) {name : Nat}
    (found : outcome.workspace.array? name = some a) (standard : a.device.library = .standard)
    (reserved : w.Reserved a.device.number a.stream.number a.buffer) (start stop : Nat) :
    let lower := min start a.size
    let upper := min stop a.size
    (∀ value, a.setSlice start stop (.scalar value) = a.fill value) ∧
    (∀ operand : Operand, operand.type ≠ a.type →
      (a.setSlice start stop operand).run = .done (.error (.typeMismatch a.type operand.type))) ∧
    (upper ≤ lower → ∀ operand : Operand, operand.type = a.type →
      (∀ value, operand ≠ .scalar value) → (a.setSlice start stop operand).run = .done (.ok ())) ∧
    (lower < upper →
      (∀ b : DeviceArray, b.type = a.type → b.device.number ≠ a.device.number →
        (a.setSlice start stop (.array b)).run =
          .done (.error (.deviceMismatch a.device.id b.device.id))) ∧
      (∀ b : DeviceArray, b.type = a.type → b.device.number = a.device.number →
        b.size ≠ upper - lower → (a.setSlice start stop (.array b)).run =
          .done (.error (.shapeMismatch (.sliceLength b.size lower upper)))) ∧
      (∀ g : Grid, g.type = a.type → g.size ≠ upper - lower →
        (a.setSlice start stop (.grid g)).run =
          .done (.error (.shapeMismatch (.sliceLength g.size lower upper)))) ∧
      (∀ i b, outcome.workspace.array? i = some b → b.type = a.type →
        b.device.number = a.device.number → b.size = upper - lower →
          a.AssignsSlice start stop (.array b) w fun v k => v.element? a.type b k) ∧
      ∀ extents values filled, values.length = upper - lower →
        a.AssignsSlice start stop (.grid ⟨a.type, extents, values, filled⟩) w
          fun _ k => (a.layout.arrange extents values)[k]?) := by
  intro lower upper
  refine ⟨fun _ => rfl, fun _ other => run_setSlice_of_type other,
    fun bare _ type several => run_setSlice_of_empty type several bare, fun nonempty => ?_⟩
  -- What the program has left behind.
  obtain ⟨L, covered, accounts, known, furnished⟩ := Program.furnished within
    Workspace.covered_empty accounts_empty (fun _ _ none_opened => by cases none_opened)
    World.furnished_empty h
  obtain ⟨_, reached⟩ := ReachesBy.here.of_reaches h
  obtain ⟨_, K, ended, noted, timely, numbered⟩ := reached.timely rfl
    (Program.orderly_client Workspace.Known.empty) (.of_none rfl rfl rfl) World.numbered_empty
  cases ended
  have holds := covered.arrays name a found
  have home := furnished.sited.arrays name a found
  have slice : a.HasSlice start stop := ⟨nonempty, furnished.sited.bounded name a found⟩
  obtain ⟨q, lane⟩ := accounts.exists_lane holds
  obtain ⟨old?, awaits, mine⟩ := exists_awaits (furnished.elementwise home standard) reserved lane
    (accounts.kept holds)
  refine ⟨fun _ type far => run_setSlice_of_device type nonempty far,
    fun _ type near other => run_setSlice_array_of_size type nonempty near other,
    fun _ type other => run_setSlice_grid_of_size type nonempty other,
    fun i b there type near size => ?_, fun extents values filled size => ?_⟩
  · have orderly : Call.Orderly True (a.setSlice start stop (.array b)) K fun _ _ => True :=
      orderly_setSlice (noted.arrays name a found) fun c same => by
        cases same
        exact noted.arrays i b there
    exact assignsSlice_array standard slice type near size awaits
      (near ▸ accounts.kept (covered.arrays i b there)) mine orderly timely numbered
  · have orderly : Call.Orderly True (a.setSlice start stop
        (.grid ⟨a.type, extents, values, filled⟩)) K fun _ _ => True :=
      orderly_setSlice (noted.arrays name a found) nofun
    exact assignsSlice_grid standard slice holds.same size awaits
      (known.unclaimed accounts _) accounts.unsent mine orderly timely numbered

/-- The last three places of a view are assigned an array whose elements are still on their way. -/
theorem slices_are_assigned_exactly_tail :
    let g : Grid := ⟨.signed .w8, [3], [1, 2, 3], rfl⟩
    let p : Program := .call (.openDevice ⟨0⟩ .standard) fun _ =>
      .call (.openStream 0 ⟨false, none⟩) fun _ =>
        .call (.build [4] (.signed .w8) .rowMajor (some 0) (some 0)) fun _ =>
          .call (.reshape 0 [2, 2]) fun _ => .call (.bind 0 g) fun _ => .done
    ∃ outcome w a b, Reaches ⟨[p.fromNothing], .empty⟩ ⟨[.done outcome], w⟩ ∧
      outcome.workspace.array? 1 = some a ∧ outcome.workspace.array? 2 = some b ∧
        a.isView = true ∧ (a.setSlice 3 1 (.array b)).run = .done (.ok ()) ∧
          a.AssignsSlice 1 9 (.array b) w fun v k => v.element? a.type b k := by
  intro g p
  have within : p.Within .several :=
    ⟨⟨rfl, Library.steady_standard⟩, fun _ => ⟨rfl, fun _ => ⟨trivial, fun _ => ⟨trivial,
      fun _ => ⟨trivial, fun _ => trivial⟩⟩⟩⟩⟩
  have made : ∃ outcome w a b, Reaches ⟨[p.fromNothing], .empty⟩ ⟨[.done outcome], w⟩ ∧
      outcome.workspace.array? 1 = some a ∧ outcome.workspace.array? 2 = some b ∧
        a.isView = true ∧ a.device.library = .standard ∧ a.stream.number = 0 ∧
          w.streams.length = 1 ∧ a.size = 4 ∧ b.type = a.type ∧
            b.device.number = a.device.number ∧ b.size = 3 :=
    ⟨_, _, _, _, .step (.client 0 rfl rfl) (.step (.client 0 rfl rfl) (.step (.client 0 rfl rfl)
      (.step (.client 0 rfl rfl) (.step (.client 0 rfl rfl) (.step (.client 0 rfl rfl)
        (.step (.client 0 rfl rfl) (.step (.client 0 rfl rfl) (.step (.client 0 rfl rfl)
          (.here _))))))))), rfl, rfl, rfl, rfl, rfl, rfl, rfl, rfl, rfl, rfl⟩
  obtain ⟨outcome, w, a, b, h, found, there, view, standard, stream, alone, size, type, near,
    count⟩ := made
  -- There is no other stream.
  have reserved : w.Reserved a.device.number a.stream.number a.buffer := by
    intro i state opened c _ _ other
    have inside := (List.getElem?_eq_some_iff.mp opened).1
    omega
  have never : ∀ value, Operand.array b ≠ .scalar value := fun _ same => by cases same
  obtain ⟨_, _, empty, _⟩ := slices_are_assigned_exactly within h found standard reserved 3 1
  obtain ⟨_, _, _, several⟩ := slices_are_assigned_exactly within h found standard reserved 1 9
  obtain ⟨_, _, _, assigns, _⟩ := several (by rw [size]; decide)
  refine ⟨outcome, w, a, b, h, found, there, view, empty (by rw [size]; decide) _ type never, ?_⟩
  exact assigns 2 b there type near (by rw [size, count]; decide)

end DeviceArrays
