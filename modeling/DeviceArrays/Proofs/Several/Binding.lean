import DeviceArrays.Proofs.Several.Slicing

/-!
# Grids as sources

A grid is bound to a new array, whose buffer and host store nobody else has work for. So its bytes
get to the buffer before the launch that is queued behind the copy, and the release behind the
launch has nothing to do with the array that was assigned.
-/
namespace DeviceArrays

variable {w after : World} {d i j store size : Nat} {x : BufferId} {bytes : Bytes} {action : Action}
  {trace : List Moment} {a b : DeviceArray} {g : Grid} {start stop : Nat}
  {data? old? : Option Bytes} {c : Command} {s : Surroundings}

/-- Elementwise commands make no buffers. -/
theorem Command.next_run (elementwise : c.IsElementwise) :
    (c.run s).1.memory.next = s.memory.next := by
  obtain ⟨change, e, within, same⟩ := determined elementwise s
  rw [same s fun _ _ => rfl]
  cases change with
  | put b bytes => simp only [Change.apply, Memory.next, Memory.length_slots_put]
  | _ => rfl

theorem Command.length_stores_run (c : Command) (s : Surroundings) :
    (c.run s).1.stores.length = s.stores.length := by
  refine run_preserves (P := fun t => t.stores.length = s.stores.length) (by rw [stores_left])
    fun after effect => ?_
  cases effect with
  | copyToHost copied => exact List.length_set
  | _ => rfl

namespace World

/-- No command has to do with the buffer that will be made next. -/
abbrev Unclaimed (w : World) (d : Nat) : Prop :=
  w.Queued fun e _ c => e = d → (w.memory d).next ∉ c.buffers

/-- The host store has these bytes, and no command has to do with it. -/
structure Mirrors (w : World) (store : Nat) (bytes : Bytes) : Prop where
  unsent : w.Unsent store
  there : w.stores[store]? = some bytes

/-- The buffer has this size, and no command has to do with it. -/
structure Vacant (w : World) (d : Nat) (x : BufferId) (size : Nat) : Prop where
  unnamed : w.Queued fun e _ c => e = d → x ∉ c.buffers
  sized : w.size? ⟨d, x⟩ = some size

theorem length_stores_serve (served : w.serve j = some after) :
    after.stores.length = w.stores.length := by
  obtain ⟨state, queue, s, found, turn, rfl⟩ := serve_cases served
  obtain ⟨_, rfl⟩ | ⟨c, _, rfl⟩ := turn.outstanding_cases
  · rfl
  · exact c.length_stores_run _

theorem Unclaimed.serve (unclaimed : w.Unclaimed d) (elementwise : w.Elementwise d)
    (served : w.serve j = some after) : after.Unclaimed d := by
  have same : (after.memory d).next = (w.memory d).next := by
    obtain same | ⟨state, c, found, near, waiting, ran⟩ := memory_serve_cases served d
    · rw [same]
    · rw [ran, Command.next_run (elementwise j state found c waiting near)]
      rfl
  unfold Unclaimed
  rw [same]
  exact Queued.serve unclaimed served

theorem Mirrors.serve (mirrors : w.Mirrors store bytes) (served : w.serve j = some after) :
    after.Mirrors store bytes :=
  ⟨mirrors.unsent.serve served,
    (getElem?_stores_serve mirrors.unsent served).trans mirrors.there⟩

theorem Mirrors.idle (mirrors : w.Mirrors store bytes) (idle : action.Idle)
    (same : (action.perform w).2.stores[store]? = w.stores[store]?) :
    (action.perform w).2.Mirrors store bytes :=
  ⟨mirrors.unsent.idle idle, same.trans mirrors.there⟩

theorem Vacant.serve (vacant : w.Vacant d x size) (elementwise : w.Elementwise d)
    (served : w.serve j = some after) : after.Vacant d x size := by
  refine ⟨vacant.unnamed.serve served, ?_⟩
  have same := contents?_serve elementwise served fun state found near c waiting =>
    vacant.unnamed j state found c waiting near
  exact (size?_of_contents?_eq same).trans vacant.sized

theorem Vacant.idle (vacant : w.Vacant d x size) (idle : action.Idle)
    (same : (action.perform w).2.memories = w.memories) :
    (action.perform w).2.Vacant d x size :=
  ⟨vacant.unnamed.idle idle, by rw [size?, memory, same]; exact vacant.sized⟩

/-- A buffer that nobody has work for stands ready once its bytes are queued for it. -/
theorem Vacant.ship {q : Queue Command Error} (vacant : w.Vacant d x size)
    (lane : w.Lane d i q) (length : bytes.length = size) :
    ((Action.submit i (.copyToDevice x bytes)).perform w).2.Supplies d i x size (some bytes)
      [] := by
  have ahead : w.Ahead d i x q.outstanding [] :=
    ⟨⟨q, lane, (List.append_nil _).symm⟩, vacant.unnamed.mono fun _ _ _ apart same _ => apart same,
      fun c waiting => vacant.unnamed i _ lane.found c waiting rfl⟩
  have sized := (size?_of_contents?_eq (contents?_submit (w := w) (d := d) (i := i) (y := x)
    (.copyToDevice x bytes))).trans vacant.sized
  have queued : ((Action.submit i (.copyToDevice x bytes)).perform w).2.Ahead d i x q.outstanding
      (.copyToDevice x bytes :: ([] ++ [])) := ahead.submit _
  exact .shipping queued nofun sized length

theorem Supplies.size?_eq {tail : List Command} (supplies : w.Supplies d i x size data? tail) :
    w.size? ⟨d, x⟩ = some size := by
  cases supplies with
  | kept kept => exact kept.size
  | held _ there length =>
    exact (Memory.size?_of_contents? there).trans (congrArg some length)
  | shipping _ _ sized _ => exact sized

/-- A new buffer is vacant, and others are as they were. -/
theorem allocate_cases (unclaimed : w.Unclaimed d) (inside : d < w.memories.length) (size : Nat) :
    ((Action.allocate d size).perform w).2.Vacant d (w.memory d).next size ∧
      ∀ y, y ≠ (w.memory d).next →
        (((Action.allocate d size).perform w).2.memory d).contents? y =
          (w.memory d).contents? y := by
  have memory : ((Action.allocate d size).perform w).2.memory d =
      ((w.memory d).allocate size).1 := by
    simp [Action.perform, World.memory, inside]
  refine ⟨⟨unclaimed.idle trivial, ?_⟩, fun y other => ?_⟩
  · rw [World.size?, memory, Memory.size?, Memory.contents?_allocate, if_pos rfl]
    simp [Bytes.zeros]
  · rw [memory, Memory.contents?_allocate, if_neg other]

end World

namespace DeviceArray

/-- Nothing has been made yet, and the array stands ready. -/
def Unbound (a : DeviceArray) (old? : Option Bytes) : Assertion := fun w _ =>
  w.Awaits a old? [] ∧ w.Unclaimed a.device.number ∧ w.Unsent w.stores.length

theorem stable_unbound : (a.Unbound old?).Stable := by
  rintro w after trace stream ⟨awaits, unclaimed, unsent⟩ served
  refine ⟨awaits.stay served, unclaimed.serve awaits.elementwise served, ?_⟩
  rw [World.length_stores_serve served]
  exact unsent.serve served

/-- An array of so many bytes was made, with the stream of `a`, and nobody has work for it. -/
def Blank (a : DeviceArray) (old? : Option Bytes) (b : DeviceArray) (bytes : Bytes) : Assertion :=
  fun w _ => w.Awaits a old? [] ∧ w.Mirrors b.store.number bytes ∧
    w.Vacant a.device.number b.buffer bytes.length

/-- An owner that was made beside another array, for its stream. -/
structure Beside (a b : DeviceArray) : Prop where
  owner : b.ownership = .owner
  stream : b.stream = a.stream
  other : b.buffer ≠ a.buffer

theorem stable_blank {bytes : Bytes} : (a.Blank old? b bytes).Stable := by
  rintro w after trace stream ⟨awaits, mirrors, vacant⟩ served
  exact ⟨awaits.stay served, mirrors.serve served, vacant.serve awaits.elementwise served⟩

/-- A new array has a store and a buffer of zeros. -/
theorem ensures_allocate {shape : Shape} {type : ElementType} {layout : Layout}
    {E : Error → Assertion} (near : a.stream.device.number = a.device.number)
    (fits : shape.size * type.width < wordBound) :
    Call.Ensures (allocate shape type layout a.stream.device a.stream) (a.Unbound old?)
      (fun b w trace => a.Beside b ∧ a.Blank old? b (.zeros (shape.size * type.width)) w trace)
      E := by
  let R : HostStore → Assertion := fun store w _ =>
    store.size = shape.size * type.width ∧ w.Awaits a old? [] ∧ w.Unclaimed a.device.number ∧
      w.Mirrors store.number (.zeros (shape.size * type.width))
  have creates :
      Call.Ensures (HostStore.create (shape.size * type.width)) (a.Unbound old?) R E := by
    refine Call.ensures_perform (fun store w after trace stream holds served => ?_) ?_
    · obtain ⟨size, awaits, unclaimed, mirrors⟩ := holds
      exact ⟨size, awaits.stay served, unclaimed.serve awaits.elementwise served,
        mirrors.serve served⟩
    · rintro w trace ⟨awaits, unclaimed, unsent⟩ _
      have idle : (Action.createStore (shape.size * type.width)).Idle := trivial
      exact ⟨rfl, awaits.idle idle rfl, unclaimed.idle idle, unsent.idle idle,
        List.getElem?_concat_length⟩
  unfold allocate
  refine Call.ensures_guard (by simp [Device.same]) ?_
  refine Call.ensures_guard (by omega) ?_
  refine Call.Ensures.bind creates fun store => Call.ensures_of_imp fun size => ?_
  let S : BufferId → Assertion := fun x w trace => x ≠ a.buffer ∧
    a.Blank old? ⟨⟨a.stream.device, x, store, type, layout⟩, shape, a.stream, .owner⟩
      (.zeros (shape.size * type.width)) w trace
  have allocates : Call.Ensures (a.stream.allocate store)
      (fun w _ => w.Awaits a old? [] ∧ w.Unclaimed a.device.number ∧
        w.Mirrors store.number (.zeros (shape.size * type.width))) S E := by
    refine Call.ensures_perform (fun _ => stable_blank.fact_and) ?_
    rintro w trace ⟨awaits, unclaimed, mirrors⟩ _
    rw [near, size]
    obtain ⟨q, before, lane, _⟩ := awaits.queue
    obtain ⟨vacant, others⟩ := World.allocate_cases unclaimed lane.inside (shape.size * type.width)
    have other : a.buffer ≠ (w.memory a.device.number).next :=
      (Memory.issued_of_size? awaits.target.size?_eq).ne_next
    have idle : (Action.allocate a.device.number (shape.size * type.width)).Idle := trivial
    refine ⟨other.symm, awaits.idle idle (others _ other), mirrors.idle idle rfl, ?_⟩
    rwa [Bytes.length_zeros]
  refine Call.Ensures.bind allocates fun x => Call.ensures_pure ?_
  rintro w trace ⟨other, blank⟩
  exact ⟨⟨rfl, rfl, other⟩, blank⟩

/-- What is written to the store of a new array is on its way to its buffer. -/
theorem ensures_refill {data zeros : Bytes} {E : Error → Assertion} (beside : a.Beside b)
    (full : data.length = zeros.length) (length : data.length = a.sliceBytes start stop) :
    Call.Ensures (do b.store.write data; b.updateDevice) (a.Blank old? b zeros)
      (fun _ => a.Prepared start stop b.buffer (some data) old?) E := by
  have writes : Call.Ensures (E := E) (b.store.write data) (a.Blank old? b zeros)
      fun _ => a.Blank old? b data := by
    refine Call.ensures_perform (fun _ => stable_blank) ?_
    rintro w trace ⟨awaits, mirrors, vacant⟩ _
    have idle : (Action.patchStore b.store.number 0 data).Idle := trivial
    refine ⟨awaits.idle idle rfl, ⟨mirrors.unsent.idle idle, ?_⟩, full ▸ vacant.idle idle rfl⟩
    simp [Action.perform, mirrors.there, Bytes.splice_all full]
  let R : Bytes → Assertion := fun bytes w trace => bytes = data ∧ a.Blank old? b data w trace
  have reads : Call.Ensures (E := E) b.store.bytes (a.Blank old? b data) R := by
    refine Call.ensures_perform (fun _ => stable_blank.fact_and) ?_
    rintro w trace ⟨awaits, mirrors, vacant⟩ _
    refine ⟨?_, awaits, mirrors, vacant⟩
    simp [Action.perform, World.stored, mirrors.there]
  have ships : Call.Ensures (E := E) (b.stream.submit (.copyToDevice b.buffer data))
      (a.Blank old? b data) fun _ => a.Prepared start stop b.buffer (some data) old? := by
    rw [beside.stream]
    refine Stream.ensures_submit (fun _ => stable_prepared) ?_
    rintro w trace ⟨awaits, _, vacant⟩
    obtain ⟨q, before, lane, _⟩ := awaits.queue
    obtain ⟨after, performed, _⟩ := lane.submit (.copyToDevice b.buffer data)
    have passes : a.buffer ∉ (Command.copyToDevice b.buffer data).buffers := fun named =>
      beside.other (List.mem_singleton.mp named).symm
    have stays : (Command.copyToDevice b.buffer data).released? ≠ some a.buffer :=
      (Option.some_ne_none _).symm
    have still := awaits.submit (c := .copyToDevice b.buffer data) trivial stays
    have supplies := vacant.ship lane rfl
    rw [performed] at still supplies
    exact ⟨_, q, after, lane, performed, still.pass passes, length ▸ supplies⟩
  refine Call.Ensures.bind writes fun _ => Call.Ensures.bind reads fun bytes => ?_
  refine Call.ensures_of_imp fun same => ?_
  subst same
  exact Call.Ensures.bind ships fun _ => Call.ensures_pure fun _ _ holds => holds

/-- A grid of as many bytes as the slice takes can be bound for it. -/
structure Binds (a : DeviceArray) (start stop : Nat) (g : Grid) : Prop where
  near : a.stream.device.number = a.device.number
  positive : ∀ d ∈ g.extents, 0 < d
  few : volume g.extents < wordBound
  fits : volume g.extents * g.type.width < wordBound
  length : (g.toBytes a.layout).length = a.sliceBytes start stop

theorem ensures_bindWith {E : Error → Assertion} (binds : a.Binds start stop g) :
    Call.Ensures (a.stream.bindWith g a.layout) (a.Unbound old?) (fun b w trace => a.Beside b ∧
      a.Prepared start stop b.buffer (some (g.toBytes a.layout)) old? w trace) E := by
  have shaped : Shape.ofExtents g.extents = .ok ⟨g.extents, binds.positive, binds.few⟩ := by
    rw [Shape.ofExtents, dif_pos binds.positive, dif_pos binds.few]
  let R : Shape → Assertion := fun shape w trace =>
    shape = ⟨g.extents, binds.positive, binds.few⟩ ∧ a.Unbound old? w trace
  have checks : Call.Ensures (E := E) (Call.check ((Shape.ofExtents g.extents).mapError
      fun p => .invalidArgument (.badShape p))) (a.Unbound old?) R :=
    Call.ensures_check (by rw [shaped]; rfl) fun _ _ holds => ⟨rfl, holds⟩
  have builds : Call.Ensures (E := E) (build ⟨g.extents, g.type, a.layout, some a.stream.device,
      some a.stream⟩) (a.Unbound old?) fun b w trace =>
        a.Beside b ∧ a.Blank old? b (.zeros (volume g.extents * g.type.width)) w trace := by
    refine Call.Ensures.bind checks fun shape => Call.ensures_of_imp fun same => ?_
    subst same
    exact ensures_allocate binds.near binds.fits
  have full : (g.toBytes a.layout).length =
      (Bytes.zeros (volume g.extents * g.type.width)).length := by
    rw [Bytes.length_zeros, g.length_toBytes, Grid.size, g.filled]
  refine Call.Ensures.bind builds fun b => Call.ensures_of_imp fun beside => ?_
  refine Call.Ensures.bind (Call.ensures_onError (F := fun _ _ _ => False)
    (ensures_refill beside full binds.length) fun _ => ?_) fun _ => ?_
  · exact Client.ensures_of_never fun _ _ => id
  · exact Call.ensures_pure fun _ _ holds => ⟨beside, holds⟩

/-- One more command may follow the launch that has nothing to do with the array. -/
theorem Answered.submit {source : BufferId} {post : List Command} {answer : Except Error Unit}
    {data : Bytes} (answered : a.Answered start stop source (some data) old? post answer w trace)
    (elementwise : c.IsElementwise) (other : a.buffer ∉ c.buffers) (mover : Mover) :
    a.Answered start stop source (some data) old? (post ++ [c]) answer
      ((Action.submit a.stream.number c).perform w).2 (trace ++ [⟨w, mover⟩]) := by
  have stays : c.released? ≠ some a.buffer := fun same =>
    other (Command.mem_buffers_of_released? same)
  obtain ⟨⟨awaits, supplies⟩, same⟩ | ⟨v, ⟨done, assigned⟩, same⟩ := answered
  · exact .inl ⟨⟨awaits.submit elementwise stays, supplies.submit c nofun⟩, same⟩
  · exact .inr ⟨v, ⟨List.mem_append_left _ done, assigned.submit elementwise other⟩, same⟩

/-- Dropping the bound array leaves the answer as it is. -/
theorem ensures_drop {data : Bytes} {answer : Except Error Unit} (slice : a.HasSlice start stop)
    (beside : a.Beside b) :
    b.drop.Ensures (a.Answered start stop b.buffer (some data) old? [] answer)
      fun _ => a.Answered start stop b.buffer (some data) old? [.release b.buffer] answer := by
  have apart : a.buffer ∉ (Command.release b.buffer).buffers := fun named =>
    beside.other (List.mem_singleton.mp named).symm
  have stable : (a.Answered start stop b.buffer (some data) old? [.release b.buffer]
      answer).Stable :=
    stable_answered slice fun c member => List.mem_singleton.mp member ▸ apart
  have releases : Call.Ensures (E := fun _ _ _ => False) (b.stream.release b.buffer)
      (a.Answered start stop b.buffer (some data) old? [] answer)
      fun _ => a.Answered start stop b.buffer (some data) old? [.release b.buffer] answer := by
    rw [beside.stream]
    refine Call.Ensures.bind (Stream.ensures_submit (fun _ => stable) fun w trace answered => ?_)
      fun _ => Call.ensures_pure fun _ _ holds => holds
    obtain ⟨d, q, lane⟩ : ∃ d q, w.Lane d a.stream.number q := by
      obtain ⟨⟨awaits, _⟩, _⟩ | ⟨v, ⟨_, assigned⟩, _⟩ := answered
      · obtain ⟨q, _, lane, _⟩ := awaits.queue
        exact ⟨_, q, lane⟩
      · obtain ⟨_, ⟨q, lane, _⟩, _⟩ := assigned.settled
        exact ⟨_, q, lane⟩
    obtain ⟨after, performed, _⟩ := lane.submit (.release b.buffer)
    have next := answered.submit (c := .release b.buffer) trivial apart
      (.client 0 (.submit a.stream.number (.release b.buffer)))
    rw [performed] at next
    exact ⟨d, q, after, lane, performed, next⟩
  unfold drop
  rw [beside.owner]
  refine Client.Ensures.bind releases fun answer => ?_
  cases answer with
  | ok _ => exact fun _ _ holds => holds
  | error e => exact fun _ _ holds => holds.elim

/-- A grid is bound, assigned and dropped again. -/
theorem ensures_withBound (slice : a.HasSlice start stop) (binds : a.Binds start stop g) :
    Call.Ensures (withBound a.stream g a.layout fun b => a.launchSlice start stop b.buffer)
      (a.Unbound old?)
      (fun _ w trace => ∃ b, a.Answered start stop b (some (g.toBytes a.layout)) old? [.release b]
        (.ok ()) w trace)
      (fun e w trace => ∃ b, a.Answered start stop b (some (g.toBytes a.layout)) old? [.release b]
        (.error e) w trace) := by
  unfold withBound
  refine Call.Ensures.bind (ensures_bindWith binds) fun b => Call.ensures_of_imp fun beside => ?_
  refine Call.Ensures.bind (Call.ensures_onError (ensures_launchSlice slice) fun e => ?_)
    fun _ => ?_
  · exact (ensures_drop slice beside).mono fun _ _ _ holds => ⟨b.buffer, holds⟩
  · refine Call.Ensures.bind (Call.ensures_lift (ensures_drop slice beside)) fun _ => ?_
    exact Call.ensures_pure fun _ _ holds => ⟨b.buffer, holds⟩

end DeviceArray

end DeviceArrays
