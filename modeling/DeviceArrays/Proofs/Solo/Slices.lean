import DeviceArrays.Proofs.Client.Operators
import DeviceArrays.Proofs.Solo.Endings

/-!
# Assigning to a slice

A grid that is assigned to a slice is put into the storage order of the array it goes to, bound for
the time of one launch, and dropped. A program can as well bind the grid itself and assign the bound
array. Both ways make the same checks and launch the same kernel on a new buffer, so they end alike;
what they leave in the array differs as far as the grid is bound in another storage order.
-/
namespace DeviceArrays

variable {x y : Rest} {a b : DeviceArray} {g : Grid} {start stop : Nat} {old : Bytes} {L : Ledger}
  {w : World}

/-- A launch for buffers of given sizes ends alike whatever is assigned, and leaves in the target
the same function of it. -/
theorem Command.exists_run_setSlice (old : Bytes) (t : ElementType) {lower upper : Nat}
    (ordered : lower ≤ upper) (bounded : (upper - lower) * t.width < wordBound) :
    ∃ (failure : Option Error) (assigned : Bytes → Bytes),
      ∀ (s : Surroundings) (target source : BufferId) (data : Bytes),
        s.memory.contents? target = some old → s.memory.contents? source = some data →
          data.length = (upper - lower) * t.width →
            (launch ElementwiseKernel.setSlice.toKernel [.ofType t, .count lower, .count upper,
              .buffer target, .buffer source]).run s =
                ({ s with memory := s.memory.put target (some (assigned data)) }, failure) := by
  obtain ⟨verdict, ran⟩ := ElementwiseKernel.exists_runSetSlice old t ordered bounded
  have launched : ∀ (m : Memory) (target source : BufferId) (data : Bytes),
      m.contents? target = some old → m.contents? source = some data →
        data.length = (upper - lower) * t.width →
          ElementwiseKernel.setSlice.toKernel.run m [.ofType t, .count lower, .count upper,
            .buffer target, .buffer source] = verdict.map fun _ =>
              m.put target (some (old.splice (lower * t.width) data)) := by
    intro m target source data there given length
    exact (ElementwiseKernel.run_write .setSlice m (t, lower, upper, target, source, ())).trans
      (ran m target source data there given length)
  cases verdict with
  | error fault =>
    -- Where the launch fails, the target is as if its own contents had been put back.
    obtain ⟨e, failed⟩ := exists_run_launch_of_error ElementwiseKernel.setSlice.toKernel fault
    refine ⟨some e, fun _ => old, fun s target source data there given length => ?_⟩
    rw [Memory.put_self there]
    exact failed _ s (launched s.memory target source data there given length)
  | ok _ =>
    refine ⟨none, fun data => old.splice (lower * t.width) data, ?_⟩
    intro s target source data there given length
    simp only [run, perform, launched s.memory target source data there given length, Except.map]

namespace DeviceArray

/-- The elements of a grid are assigned: they are of the array's type, there are places for them,
and as many places as elements. -/
structure Takes (a : DeviceArray) (start stop : Nat) (g : Grid) : Prop where
  type : g.type = a.type
  nonempty : min start a.size < min stop a.size
  size : g.size = min stop a.size - min start a.size

/-- What an assignment to a slice answers that assigns nothing. -/
def sliceRefusal (a : DeviceArray) (start stop : Nat) (g : Grid) : Except Error Unit :=
  if g.type ≠ a.type then .error (.typeMismatch a.type g.type)
  else if min stop a.size ≤ min start a.size then .ok ()
  else .error (.shapeMismatch (.sliceLength g.size (min start a.size) (min stop a.size)))

/-- What the slice kernel is given for a source that was checked. -/
def sliceArguments (a : DeviceArray) (start stop : Nat) (source : BufferId) : List Argument :=
  [.ofType a.type, .count (min start a.size), .count (min stop a.size), .buffer a.buffer,
    .buffer source]

def launchSlice (a : DeviceArray) (start stop : Nat) (source : BufferId) : Call Unit :=
  a.stream.launch ElementwiseKernel.setSlice.toKernel (a.sliceArguments start stop source)

/-- An array can be assigned for a grid: it has its type and size, and lies on the device. -/
structure StandsFor (b : DeviceArray) (g : Grid) (a : DeviceArray) : Prop where
  type : b.type = g.type
  size : b.size = g.size
  near : b.device.number = a.device.number

/-! ### The checks -/

theorem ends_setSlice_grid_of_not_takes (refused : ¬ a.Takes start stop g) :
    Call.Ends (a.setSlice start stop (.grid g)) x (a.sliceRefusal start stop g) x := by
  unfold sliceRefusal
  split
  case isTrue type => exact Call.ends_refusal type
  case isFalse type =>
    refine Call.ends_guard type ?_
    dsimp only
    split
    case isTrue => exact Call.ends_pure ()
    case isFalse nonempty =>
      refine Call.ends_refusal fun size => refused ⟨?_, Nat.lt_of_not_le nonempty, size⟩
      exact Decidable.not_not.mp type

theorem ends_setSlice_array_of_not_takes (stands : b.StandsFor g a)
    (refused : ¬ a.Takes start stop g) :
    Call.Ends (a.setSlice start stop (.array b)) x (a.sliceRefusal start stop g) x := by
  unfold sliceRefusal
  rw [← stands.type, ← stands.size]
  split
  case isTrue type => exact Call.ends_refusal type
  case isFalse type =>
    refine Call.ends_guard type ?_
    dsimp only
    split
    case isTrue => exact Call.ends_pure ()
    case isFalse nonempty =>
      refine Call.ends_guard (by simp [Device.same, stands.near]) ?_
      refine Call.ends_refusal fun size => refused ⟨?_, Nat.lt_of_not_le nonempty, ?_⟩
      · exact stands.type ▸ Decidable.not_not.mp type
      · exact stands.size ▸ size

theorem ends_setSlice_grid {answer : Except Error Unit} (alone : a.Alone)
    (takes : a.Takes start stop g)
    (h : Call.Ends (withBound a.stream g a.layout fun source =>
      a.launchSlice start stop source.buffer) x answer y) :
    Call.Ends (a.setSlice start stop (.grid g)) x answer y := by
  refine Call.ends_guard (Decidable.not_not.mpr takes.type) ?_
  dsimp only
  rw [if_neg (Nat.not_le.mpr takes.nonempty)]
  refine Call.ends_guard (Decidable.not_not.mpr takes.size) ?_
  exact (ends_kernel alone .setSlice).bind h

theorem ends_setSlice_array {answer : Except Error Unit} (alone : a.Alone)
    (takes : a.Takes start stop g) (stands : b.StandsFor g a)
    (h : Call.Ends (a.launchSlice start stop b.buffer) x answer y) :
    Call.Ends (a.setSlice start stop (.array b)) x answer y := by
  refine Call.ends_guard (Decidable.not_not.mpr (stands.type.trans takes.type)) ?_
  dsimp only
  rw [if_neg (Nat.not_le.mpr takes.nonempty)]
  refine Call.ends_guard (by simp [Device.same, stands.near]) ?_
  refine Call.ends_guard (Decidable.not_not.mpr (stands.size.trans takes.size)) ?_
  exact (ends_kernel alone .setSlice).bind h

/-! ### The launch -/

/-- The launch gets the same answer for every source, and leaves in the array the same function of
what lies in the source. -/
theorem exists_ends_launchSlice (alone : a.Alone) (takes : a.Takes start stop g)
    (fits : g.size * g.type.width < wordBound) (old : Bytes) (failure : Option Error) :
    ∃ (answer : Except Error Unit) (assigned : Bytes → Bytes),
      ∀ (x : Rest) (source : BufferId) (layout : Layout), x.failure = failure →
        x.around.memory.contents? a.buffer = some old →
          x.around.memory.contents? source = some (g.toBytes layout) →
            ∃ y, Call.Ends (a.launchSlice start stop source) x answer y ∧
              y.around.memory =
                x.around.memory.put a.buffer (some (assigned (g.toBytes layout))) := by
  have sized : g.size * g.type.width = (min stop a.size - min start a.size) * a.type.width := by
    rw [takes.size, takes.type]
  obtain ⟨added, assigned, ran⟩ :=
    Command.exists_run_setSlice old a.type (Nat.le_of_lt takes.nonempty) (sized ▸ fits)
  refine ⟨a.stream.answer (failure.or added), assigned, ?_⟩
  intro x source layout kept live given
  have done : (Command.launch ElementwiseKernel.setSlice.toKernel
      (a.sliceArguments start stop source)).run x.around = _ :=
    ran x.around a.buffer source _ live given ((g.length_toBytes layout).trans sized)
  have ends := Stream.ends_launch (x := x) ElementwiseKernel.setSlice.toKernel
    (a.sliceArguments start stop source) alone.stream
  simp only [Rest.run, done, kept] at ends
  exact ⟨_, ends, by rw [Stream.around_leaves]⟩

/-! ### The bound array -/

/-- A grid as it can be bound on the only stream. -/
structure Bindable (g : Grid) (shape : Shape) (stream : Stream) : Prop where
  extents : g.extents = shape.extents
  only : stream.number = 0
  home : stream.device.number = 0
  fits : g.size * g.type.width < wordBound

theorem Bindable.size {shape : Shape} {stream : Stream} (h : Bindable g shape stream) :
    shape.size = g.size := by
  rw [Grid.size, g.filled, h.extents]
  rfl

/-- What is done to an array with a grid bound for it stays when the bound array is dropped. -/
theorem ends_withBound_put {stream : Stream} {shape : Shape} {layout : Layout} {new : Bytes}
    {body : DeviceArray → Call Unit} {answer : Except Error Unit} (h : Bindable g shape stream)
    (live : x.around.memory.contents? a.buffer = some old)
    (runs : ∀ y : Rest, y.failure = x.failure → y.around.memory.contents? a.buffer = some old →
      y.around.memory.contents? x.around.memory.next = some (g.toBytes layout) →
      ∃ z, Call.Ends (body (made x.around shape g.type layout stream.device stream)) y answer z ∧
        z.around.memory = y.around.memory.put a.buffer (some new)) :
    ∃ z, Call.Ends (withBound stream g layout body) x answer z ∧
      z.around.memory.contents? a.buffer = some new := by
  have other : a.buffer ≠ x.around.memory.next :=
    (Memory.issued_of_size? (Memory.size?_of_contents? live)).ne_next
  obtain ⟨z, ends, there, same⟩ := ends_withBound (x := x)
    (P := fun z => z.around.memory.contents? a.buffer = some new) layout body h.extents h.only
    h.home (h.size ▸ h.fits) fun y kept later bound => by
      have still := later.kept _ _ live
      obtain ⟨z, ends, memory⟩ := runs y kept still bound
      refine ⟨z, ends, ?_, ?_⟩
      · rw [memory, Memory.contents?_put _ (by simp [still]), if_neg other.symm, bound]
        rfl
      · rw [memory, Memory.contents?_put _ (by simp [still]), if_pos rfl]
  refine ⟨_, ends, ?_⟩
  rw [Memory.contents?_put _ there, if_neg other, same]

/-- In whatever storage order the grid is bound, the assignment gets the same answer and leaves in
the array the same function of the grid's bytes. -/
theorem exists_ends_setSlice (start stop : Nat) {shape : Shape} (alone : a.Alone)
    (live : x.around.memory.contents? a.buffer = some old) (bindable : Bindable g shape a.stream) :
    ∃ (answer : Except Error Unit) (assigned : Bytes → Bytes),
      (¬ a.Takes start stop g → ∀ data, assigned data = old) ∧
      (∃ y, Call.Ends (a.setSlice start stop (.grid g)) x answer y ∧
        y.around.memory.contents? a.buffer = some (assigned (g.toBytes a.layout))) ∧
      ∀ (stream : Stream) (layout : Layout), Bindable g shape stream →
        ∃ y, Call.Ends (withBound stream g layout fun b => a.setSlice start stop (.array b)) x
            answer y ∧
          y.around.memory.contents? a.buffer = some (assigned (g.toBytes layout)) := by
  have stands {stream : Stream} (layout : Layout) (h : Bindable g shape stream) :
      (made x.around shape g.type layout stream.device stream).StandsFor g a :=
    ⟨rfl, h.size, h.home.trans alone.device.symm⟩
  by_cases takes : a.Takes start stop g
  case neg =>
    refine ⟨a.sliceRefusal start stop g, fun _ => old, fun _ _ => rfl,
      ⟨x, ends_setSlice_grid_of_not_takes takes, live⟩, fun stream layout h => ?_⟩
    refine ends_withBound_put h live fun y _ still _ => ⟨y, ?_, (Memory.put_self still).symm⟩
    exact ends_setSlice_array_of_not_takes (stands layout h) takes
  case pos =>
    obtain ⟨answer, assigned, launched⟩ :=
      exists_ends_launchSlice alone takes bindable.fits old x.failure
    refine ⟨answer, assigned, fun refused => absurd takes refused, ?_, fun stream layout h => ?_⟩
    · have direct : ∃ y, Call.Ends (withBound a.stream g a.layout fun source =>
            a.launchSlice start stop source.buffer) x answer y ∧
          y.around.memory.contents? a.buffer = some (assigned (g.toBytes a.layout)) :=
        ends_withBound_put bindable live fun y kept still bound =>
          launched y _ a.layout kept still bound
      obtain ⟨y, ends, there⟩ := direct
      exact ⟨y, ends_setSlice_grid alone takes ends, there⟩
    · refine ends_withBound_put h live fun y kept still bound => ?_
      obtain ⟨z, ends, memory⟩ := launched y _ layout kept still bound
      exact ⟨z, ends_setSlice_array alone takes (stands layout h) ends, memory⟩

theorem follows_setSlice_bound {s : Stream} {layout : Layout} (holds : L.Holds .managed a)
    (driven : L.Drives .managed s) (still : L.copying = false) :
    Call.Follows .managed (withBound s g layout fun b => a.setSlice start stop (.array b)) L
      (fun _ _ => True) fun _ _ => True :=
  follows_withBound driven still
    (fun _ _ made => follows_setSlice (made.holds_other holds) made.holds made.yields.copying
      (fun _ yields => ⟨yields, fun _ _ => trivial⟩) fun _ _ refuses => refuses)
    fun _ _ _ => trivial

end DeviceArray

open DeviceArray

/-- Take any state that a program of array calls on one stream can reach between two of its calls,
any array or view in scope, any range, and any grid that there is on the host. Whatever the worker
does meanwhile, the assignment of the grid to the range and that of an array it is bound to, in
whatever storage order, can both go on to their ends and get the same answer. Once every command is
done they have left the same bytes in the array, unless elements were assigned and the order the
grid was bound in lists them otherwise than the array's own. It does not for the array's own order,
nor for a grid of at most one axis. -/
theorem grids_are_assigned_like_bound_arrays {p : Program} {id : DeviceId} {options : StreamOptions}
    (within : p.Within .managed) {outcome : Outcome} {w : World}
    (h : Reaches ⟨[p.onOneStream id options], .opened⟩ ⟨[.done outcome], w⟩) {name place : Nat}
    {a : DeviceArray} (found : outcome.workspace.array? name = some a) {s : Stream}
    (opened : outcome.workspace.stream? place = some s) {g : Grid}
    (positive : ∀ d ∈ g.extents, 0 < d) (present : g.size * g.type.width ≤ largestAllocation)
    (start stop : Nat) (layout : Layout) :
    (∃ answer direct bound bytes,
      (a.setSlice start stop (.grid g)).Settles w answer direct ∧
      (withBound s g layout fun b => a.setSlice start stop (.array b)).Settles w answer bound ∧
      direct.memory.contents? a.buffer = some bytes ∧
      ((a.Takes start stop g → g.toBytes layout = g.toBytes a.layout) →
        bound.memory.contents? a.buffer = some bytes)) ∧
      (layout = a.layout ∨ g.extents.length ≤ 1 → g.toBytes layout = g.toBytes a.layout) := by
  refine ⟨?_, ?_⟩
  rotate_left
  · rintro (rfl | flat)
    · rfl
    · exact g.toBytes_of_flat flat layout a.layout
  obtain ⟨c, L, rest, careful, tied, _⟩ :=
    reaches_run h rfl (p.careful (r := .managed) nofun within) (tied_opened nofun)
  cases rest
  obtain ⟨covered, _, _⟩ := careful
  have holds := covered.arrays name a found
  have driven := covered.streams place s opened
  have alone := alone_of_holds tied holds
  obtain ⟨x, settled, kept, _⟩ := tied.settle_eq_world
  obtain ⟨old, live, _⟩ := contents_of_holds kept alone holds
  -- A grid that there is on the host is small enough to be bound.
  have fits := wordBound_of_largestAllocation present
  have few : volume g.extents < wordBound := by
    have size : g.size = volume g.extents := g.filled
    have le := Nat.le_mul_of_pos_right g.size g.type.width_pos
    omega
  have bindable {s : Stream} (only : s.number = 0) (home : s.device.number = 0) :
      Bindable g ⟨g.extents, positive, few⟩ s := ⟨rfl, only, home, fits⟩
  obtain ⟨only, home⟩ : s.number = 0 ∧ s.device.number = 0 := by
    obtain ⟨q, u, rfl, tracks⟩ := tied
    exact tracks.alone driven.opened
  obtain ⟨answer, assigned, same, ⟨y, direct, there⟩, bindings⟩ :=
    exists_ends_setSlice start stop alone live (bindable alone.stream alone.home)
  obtain ⟨z, bound, here⟩ := bindings s layout (bindable only home)
  refine ⟨answer, y.around, z.around, assigned (g.toBytes a.layout), ?_, ?_, there, fun alike => ?_⟩
  · have careful : Call.Follows .managed (a.setSlice start stop (.grid g)) L (fun _ _ => True)
        fun _ _ => True :=
      follows_setSlice holds trivial covered.still (fun _ _ => trivial) fun _ _ _ => trivial
    exact tied.settles careful settled direct
  · exact tied.settles (follows_setSlice_bound holds driven covered.still) settled bound
  · rw [here]
    by_cases takes : a.Takes start stop g
    · rw [alike takes]
    · rw [same takes, same takes]

/-- Two rows assigned to an array whose columns are stored one after the other. -/
theorem grids_are_assigned_like_bound_arrays_columns :
    let p : Program := .call (.empty 0 [2, 2] (.signed .w8) .columnMajor false) fun _ => .done
    let g : Grid := ⟨.signed .w8, [2, 2], [1, 2, 3, 4], rfl⟩
    ∃ outcome w a s answer direct bound bytes,
      Reaches ⟨[p.onOneStream ⟨0⟩ ⟨false, none⟩], .opened⟩ ⟨[.done outcome], w⟩ ∧
        outcome.workspace.array? 0 = some a ∧ outcome.workspace.stream? 0 = some s ∧
        (a.setSlice 0 4 (.grid g)).Settles w answer direct ∧
        (withBound s g .columnMajor fun b => a.setSlice 0 4 (.array b)).Settles w answer bound ∧
        direct.memory.contents? a.buffer = some bytes ∧
        bound.memory.contents? a.buffer = some bytes := by
  intro p g
  have within : p.Within .managed := ⟨trivial, fun _ => trivial⟩
  obtain ⟨outcome, w, a, s, h, found, opened, order⟩ : ∃ outcome w a s,
      Reaches ⟨[p.onOneStream ⟨0⟩ ⟨false, none⟩], .opened⟩ ⟨[.done outcome], w⟩ ∧
        outcome.workspace.array? 0 = some a ∧ outcome.workspace.stream? 0 = some s ∧
        Layout.columnMajor = a.layout :=
    ⟨_, _, _, _, .step (.client 0 rfl rfl) (.step (.client 0 rfl rfl) (.here _)), rfl, rfl, rfl⟩
  obtain ⟨⟨answer, direct, bound, bytes, assigned, other, left, agrees⟩, same⟩ :=
    grids_are_assigned_like_bound_arrays within h found opened (g := g) (by decide) (by decide) 0 4
      .columnMajor
  exact ⟨outcome, w, a, s, answer, direct, bound, bytes, h, found, opened, assigned, other, left,
    agrees fun _ => same (.inl order)⟩

/-- Where the last axis runs fastest in the bound array and the first one in the array, what is
left there differs. -/
theorem bound_grids_keep_their_own_order :
    let p : Program := .call (.empty 0 [2, 2] (.signed .w8) .columnMajor false) fun _ => .done
    let g : Grid := ⟨.signed .w8, [2, 2], [1, 2, 3, 4], rfl⟩
    ∃ outcome w a s t u,
      Reaches ⟨[p.onOneStream ⟨0⟩ ⟨false, none⟩], .opened⟩ ⟨[.done outcome], w⟩ ∧
        outcome.workspace.array? 0 = some a ∧ outcome.workspace.stream? 0 = some s ∧
        Reaches ⟨[(a.setSlice 0 4 (.grid g)).run], w⟩ ⟨[.done (.ok ())], t⟩ ∧
        Reaches ⟨[(withBound s g .rowMajor fun b => a.setSlice 0 4 (.array b)).run], w⟩
          ⟨[.done (.ok ())], u⟩ ∧
        t.busy = [] ∧ (t.memory 0).contents? a.buffer = some [1, 3, 2, 4] ∧
        u.busy = [] ∧ (u.memory 0).contents? a.buffer = some [1, 2, 3, 4] := by
  intro p g
  let s : Stream := ⟨0, ⟨0, ⟨0⟩, .standard⟩, ⟨false, none⟩⟩
  let a : DeviceArray := ⟨⟨s.device, ⟨1⟩, ⟨0, 4⟩, .signed .w8, .columnMajor⟩,
    ⟨[2, 2], by decide, by decide⟩, s, .owner⟩
  let w : World := ⟨[⟨[some (.zeros 4)]⟩], [⟨0, .empty⟩], [.zeros 4]⟩
  have built : ∃ outcome, Reaches ⟨[p.onOneStream ⟨0⟩ ⟨false, none⟩], .opened⟩
      ⟨[.done outcome], w⟩ ∧ outcome.workspace.array? 0 = some a ∧
        outcome.workspace.stream? 0 = some s :=
    ⟨_, .step (.client 0 rfl rfl) (.step (.client 0 rfl rfl) (.here _)), rfl, rfl⟩
  -- Both calls queue the same three commands, but for the bytes that are copied.
  let queue (data : Bytes) : Queue Command Error :=
    ⟨[(1, .copyToDevice ⟨2⟩ data), (2, .launch ElementwiseKernel.setSlice.toKernel
      (a.sliceArguments 0 4 ⟨2⟩)), (3, .release ⟨2⟩)], 3, 0, .idle, none, false⟩
  let queued (data : Bytes) : World :=
    ⟨[⟨[some (.zeros 4), some (.zeros 4)]⟩], [⟨0, queue data⟩], [.zeros 4, data]⟩
  let done (data : Bytes) : World :=
    ⟨[⟨[some data, none]⟩], [⟨0, .calm 3⟩], [.zeros 4, data]⟩
  have direct : Reaches ⟨[(a.setSlice 0 4 (.grid g)).run], w⟩
      ⟨[.done (.ok ())], queued [1, 3, 2, 4]⟩ :=
    .step (.client 0 rfl rfl) (.step (.client 0 rfl rfl) (.step (.client 0 rfl rfl)
      (.step (.client 0 rfl rfl) (.step (.client 0 rfl rfl) (.step (.client 0 rfl rfl)
        (.step (.client 0 rfl rfl) (.here _)))))))
  have bound : Reaches ⟨[(withBound s g .rowMajor fun b => a.setSlice 0 4 (.array b)).run], w⟩
      ⟨[.done (.ok ())], queued [1, 2, 3, 4]⟩ :=
    .step (.client 0 rfl rfl) (.step (.client 0 rfl rfl) (.step (.client 0 rfl rfl)
      (.step (.client 0 rfl rfl) (.step (.client 0 rfl rfl) (.step (.client 0 rfl rfl)
        (.step (.client 0 rfl rfl) (.here _)))))))
  have columns (answer : Client (Except Error Unit)) :
      Reaches ⟨[answer], queued [1, 3, 2, 4]⟩ ⟨[answer], done [1, 3, 2, 4]⟩ :=
    .step (.worker 0 rfl) (.step (.worker 0 rfl) (.step (.worker 0 rfl) (.step (.worker 0 rfl)
      (.step (.worker 0 rfl) (.step (.worker 0 rfl) (.step (.worker 0 rfl) (.step (.worker 0 rfl)
        (.step (.worker 0 rfl) (.here _)))))))))
  have rows (answer : Client (Except Error Unit)) :
      Reaches ⟨[answer], queued [1, 2, 3, 4]⟩ ⟨[answer], done [1, 2, 3, 4]⟩ :=
    .step (.worker 0 rfl) (.step (.worker 0 rfl) (.step (.worker 0 rfl) (.step (.worker 0 rfl)
      (.step (.worker 0 rfl) (.step (.worker 0 rfl) (.step (.worker 0 rfl) (.step (.worker 0 rfl)
        (.step (.worker 0 rfl) (.here _)))))))))
  obtain ⟨outcome, h, found, opened⟩ := built
  exact ⟨outcome, w, a, s, done [1, 3, 2, 4], done [1, 2, 3, 4], h, found, opened,
    direct.trans (columns _), bound.trans (rows _), rfl, rfl, rfl, rfl⟩

end DeviceArrays
