import DeviceArrays.Proofs.Solo.Results

/-!
# Round trips

A grid that is put into an array lies in its store and in its buffer alike, in the order of the
array's layout. Updates copy one of them over the other, so both stay as they are however often this
is done, and what is read in the end is the grid.
-/
namespace DeviceArrays

variable {α : Type} {x : Rest} {a : DeviceArray} {g : Grid} {data : Bytes} {L : Ledger} {w : World}

/-- A copy between the store and the buffer of an array, to the device or from there to the host. -/
inductive Update
  | device
  | host

/-- What is read from an array after some updates, with what these answered. -/
structure Readback (t : ElementType) where
  answers : List (Except Error Unit)
  values : List (Element t)
  bytes : Bytes

theorem Call.Settles.returns {c : Call α} {result : α} {s : Surroundings}
    (h : c.Settles w (.ok result) s) : c.Returns w result :=
  fun t reached => ⟨(h t reached).1, fun answer ended => ((h t reached).2 answer ended).1⟩

/-- The stores of the settled world are as large as the client knows. -/
theorem Tied.sizes_of_settled {r : Regime} (tied : Tied r L w) (settled : w.settle = x.world) :
    x.around.stores.map List.length = L.stores := by
  have same : w.settled = x.around := by
    rw [World.settled, settled]
    rfl
  obtain ⟨q, s, rfl, tracks⟩ := tied
  rw [← same, World.settled_solo]
  exact tracks.drain.stores

namespace DeviceArray

def update (a : DeviceArray) : Update → Call Unit
  | .device => a.updateDevice
  | .host => a.updateHost

/-- Makes some updates, whatever each of them answers. -/
def updates (a : DeviceArray) : List Update → Client (List (Except Error Unit))
  | [] => return []
  | u :: us => do
    let answer ← (a.update u).run
    let later ← a.updates us
    return answer :: later

/-- Makes some updates and then reads the elements, the last axis running fastest, and the bytes. -/
def readback (a : DeviceArray) (t : ElementType) (us : List Update) : Call (Readback t) := do
  let answers ← ExceptT.lift (a.updates us)
  let values ← a.gridElements t
  let bytes ← a.hostBytes
  return ⟨answers, values, bytes⟩

/-! ### What updates do -/

/-- An update copies bytes to where they are already. It answers a failure only that was kept. -/
theorem ends_update (only : a.stream.number = 0) (size : data.length = a.store.size)
    (carries : a.Carries data x.around) (u : Update) :
    ∃ answer y, Call.Ends (a.update u) x answer y ∧ a.Carries data y.around ∧
      (x.failure = none → answer = .ok () ∧ y.failure = none) := by
  obtain ⟨stored, live⟩ := carries
  cases u with
  | device =>
    have copied : (Command.copyToDevice a.buffer data).perform x.around = .ok x.around := by
      simp only [Command.perform, Memory.copyIn_eq_ok live (Nat.le_refl _), Bytes.splice_all,
        Memory.put_self live]
    have ends : Call.Ends a.updateDevice x (.ok ()) (x.run (.copyToDevice a.buffer data)) :=
      Stream.ends_copyToDevice only stored
    rw [Rest.run_of_perform copied] at ends
    exact ⟨_, _, ends, ⟨stored, live⟩, fun well => ⟨rfl, well⟩⟩
  | host =>
    have whole : data.take a.store.size = data := List.take_of_length_le (Nat.le_of_eq size)
    have copied : (Command.copyToHost a.buffer a.store).perform x.around = .ok x.around := by
      obtain ⟨inside, here⟩ := List.getElem?_eq_some_iff.mp stored
      have same : x.around.stores.set a.store.number data = x.around.stores := by
        rw [← here, List.set_getElem_self]
      simp only [Command.perform, Memory.copyOut_eq_ok live (Nat.le_of_eq size.symm), whole, same]
    have queued := Stream.ends_copyToHost (x := x) a.buffer a.store only
    rw [Rest.run_of_perform copied] at queued
    refine ⟨_, _, queued.bind (Stream.ends_synchronize only), ⟨stored, live⟩, fun well => ⟨?_, rfl⟩⟩
    exact told_eq_ok.mpr well

theorem run_updates (only : a.stream.number = 0) (size : data.length = a.store.size)
    (carries : a.Carries data x.around) (us : List Update) :
    ∃ answers, ∃ y : Rest, (a.updates us).run x.world = (answers, y.world) ∧
      a.Carries data y.around ∧ (x.failure = none → ∀ answer ∈ answers, answer = .ok ()) := by
  induction us generalizing x with
  | nil => exact ⟨[], x, rfl, carries, fun _ => nofun⟩
  | cons u us ih =>
    obtain ⟨answer, y, ends, still, clean⟩ := ends_update only size carries u
    obtain ⟨answers, z, ran, kept, fine⟩ := ih still
    refine ⟨answer :: answers, z, ?_, kept, fun well => ?_⟩
    · refine (Client.run_bind _ _ _).trans ?_
      rw [ends]
      refine (Client.run_bind _ _ _).trans ?_
      rw [ran]
      rfl
    · obtain ⟨first, later⟩ := clean well
      exact List.forall_mem_cons.mpr ⟨first, fine later⟩

/-- An array that carries a grid gives it back. -/
theorem ends_readback (only : a.stream.number = 0) (type : a.type = g.type)
    (extents : a.shape.extents = g.extents) (size : (g.toBytes a.layout).length = a.store.size)
    (carries : a.Carries (g.toBytes a.layout) x.around) (us : List Update) :
    ∃ answers y, Call.Ends (a.readback g.type us) x
        (.ok ⟨answers, g.values, g.toBytes a.layout⟩) y ∧
      (x.failure = none → ∀ answer ∈ answers, answer = .ok ()) := by
  obtain ⟨answers, y, ran, kept, fine⟩ := run_updates only size carries us
  have gathered := ends_gridElements type kept.store
  rw [extents, a.layout.gather_arrange g.filled] at gathered
  have read : Call.Ends a.hostBytes y (.ok (g.toBytes a.layout)) y :=
    HostStore.ends_bytes kept.store
  exact ⟨answers, y, (Call.ends_lift ran).bind (gathered.bind (read.bind (Call.ends_pure _))), fine⟩

theorem ends_fillFrom {old bytes : Bytes} (only : a.stream.number = 0) (type : a.type = g.type)
    (extents : a.shape.extents = g.extents)
    (stored : x.around.stores[a.store.number]? = some old)
    (sized : old.length = (g.toBytes a.layout).length)
    (live : x.around.memory.contents? a.buffer = some bytes)
    (full : bytes.length = (g.toBytes a.layout).length) :
    ∃ y, Call.Ends (a.fillFrom g) x (.ok ()) y ∧ y.failure = x.failure ∧
      a.Carries (g.toBytes a.layout) y.around := by
  obtain ⟨y, filled, kept, carries, _⟩ := ends_refill only stored sized live full
  refine ⟨y, ?_, kept, carries⟩
  exact Call.ends_guard (by simp [extents]) (Call.ends_guard (by simp [type]) filled)

/-! ### The calls are careful -/

theorem follows_update {r : Regime} (holds : L.Holds r a) (still : L.copying = false) (u : Update) :
    Call.Follows r (a.update u) L (fun _ K => L.Yields L.owned K)
      fun _ K => L.Yields L.owned K := by
  cases u with
  | device => exact follows_updateDevice holds still fun _ yields => yields
  | host => exact follows_updateHost holds (fun _ yields _ => yields) fun _ _ yields _ _ => yields

theorem follows_updates {r : Regime} (holds : L.Holds r a) (still : L.copying = false)
    (us : List Update) : (a.updates us).Follows r L fun _ K => L.Yields L.owned K := by
  induction us generalizing L with
  | nil => exact .refl still
  | cons u us ih =>
    refine Client.Follows.bind (Client.Follows.mono (follows_update holds still u) ?_)
    intro answer K ended
    have yields : L.Yields L.owned K := by cases answer <;> exact ended
    refine Client.Follows.bind (Client.Follows.mono
      (ih (holds.of_yields yields fun _ mine => mine) yields.copying) fun _ M later => ?_)
    exact yields.owned ▸ yields.trans later

theorem follows_readback {r : Regime} {t : ElementType} (holds : L.Holds r a)
    (still : L.copying = false) (us : List Update) :
    Call.Follows r (a.readback t us) L (fun _ _ => True) fun _ _ => True := by
  refine Call.Follows.bind (Call.follows_lift (Client.Follows.mono
    (follows_updates holds still us) fun _ K yields => ?_))
  have kept := holds.of_yields yields fun _ mine => mine
  refine Call.Follows.bind
    (follows_gridElements kept yields.copying (fun _ => ?_) fun _ _ => trivial)
  exact Call.Follows.bind (follows_hostBytes kept yields.copying fun _ _ => trivial)

end DeviceArray

open DeviceArray

/-- Take any state that a program of array calls on one stream can reach between two of its calls,
and any grid that there is on the host. Bind it in either layout, or fill any array or view in scope
with it that has its extents and type, and then make any updates of that array. Whatever the worker
does meanwhile, what is read in the end are the elements of the grid at every multi-index, and its
bytes in the order of the array's layout. All updates succeed unless something too large to be
allocated was asked for before, of which one of them may be told. -/
theorem host_data_survives_the_round_trip {p : Program} {id : DeviceId} {options : StreamOptions}
    (within : p.Within .managed) {outcome : Outcome} {w : World}
    (h : Reaches ⟨[p.onOneStream id options], .opened⟩ ⟨[.done outcome], w⟩) {g : Grid}
    (positive : ∀ d ∈ g.extents, 0 < d) (present : g.size * g.type.width ≤ largestAllocation)
    (us : List Update) :
    (∀ place s, outcome.workspace.stream? place = some s → ∀ layout, ∃ a answers,
      a.shape.extents = g.extents ∧ a.type = g.type ∧ a.layout = layout ∧
      (do let a ← s.bindWith g layout; return (a, ← a.readback g.type us)).Returns w
        (a, ⟨answers, g.values, g.toBytes layout⟩) ∧
      (w.Allocatable → ∀ answer ∈ answers, answer = .ok ())) ∧
    ∀ name a, outcome.workspace.array? name = some a → a.shape.extents = g.extents →
      a.type = g.type → ∃ answers,
        (do a.fillFrom g; a.readback g.type us).Returns w
          ⟨answers, g.values, g.toBytes a.layout⟩ ∧
        (w.Allocatable → ∀ answer ∈ answers, answer = .ok ()) := by
  obtain ⟨c, L, rest, careful, tied, _⟩ :=
    reaches_run h rfl (p.careful (r := .managed) nofun within) (tied_opened nofun)
  cases rest
  obtain ⟨covered, _, _⟩ := careful
  obtain ⟨x, settled, kept, _, _, well⟩ := tied.settle_eq_world
  refine ⟨fun place s opened layout => ?bound, fun name a found extents type => ?filled⟩
  case bound =>
    have driven := covered.streams place s opened
    obtain ⟨only, home⟩ : s.number = 0 ∧ s.device.number = 0 := by
      obtain ⟨q, u, rfl, tracks⟩ := tied
      exact tracks.alone driven.opened
    have fits : volume g.extents * g.type.width < wordBound :=
      g.filled ▸ wordBound_of_largestAllocation present
    have bounded : volume g.extents < wordBound :=
      Nat.lt_of_le_of_lt (Nat.le_mul_of_pos_right _ g.type.width_pos) fits
    let shape : Shape := ⟨g.extents, positive, bounded⟩
    let a := made x.around shape g.type layout s.device s
    have shaped : g.extents = shape.extents := rfl
    obtain ⟨y, bound, same, _, carries⟩ := ends_bindWith (x := x) layout shaped only home fits
    have size : (g.toBytes layout).length = shape.size * g.type.width := by
      rw [g.length_toBytes, Grid.size, g.filled]
      rfl
    obtain ⟨answers, z, read, fine⟩ := ends_readback (a := a) only rfl rfl size carries us
    refine ⟨a, answers, rfl, rfl, rfl, ?_, fun small => fine (same.trans (well (tied.sound small)))⟩
    have follows : Call.Follows .managed
        (do let a ← s.bindWith g layout; return (a, ← a.readback g.type us)) L
        (fun _ _ => True) fun _ _ => True := by
      refine Call.Follows.bind (Stream.follows_bindWith driven covered.still (fun a K made => ?_)
        fun _ _ _ => trivial)
      exact Call.Follows.bind ((follows_readback made.holds made.yields.copying us).mono
        (fun _ _ _ => trivial) fun _ _ _ => trivial)
    exact (tied.settles follows settled (bound.bind (read.bind (Call.ends_pure _)))).returns
  case filled =>
    have holds := covered.arrays name a found
    have alone := alone_of_holds tied holds
    obtain ⟨bytes, live, full⟩ := contents_of_holds kept alone holds
    have length : (g.toBytes a.layout).length = a.byteSize := by
      rw [g.length_toBytes, Grid.size, g.filled, ← extents, ← type]
      rfl
    have sizes := congrArg (·[a.store.number]?) (tied.sizes_of_settled settled)
    rw [List.getElem?_map, holds.store] at sizes
    obtain ⟨old, stored, sized⟩ := Option.map_eq_some_iff.mp sizes
    obtain ⟨y, filled, same, carries⟩ := ends_fillFrom (g := g) alone.stream type extents stored
      (sized.trans length.symm) live (full.trans length.symm)
    obtain ⟨answers, z, read, fine⟩ :=
      ends_readback alone.stream type extents (length.trans holds.size.symm) carries us
    refine ⟨answers, ?_, fun small => fine (same.trans (well (tied.sound small)))⟩
    have follows : Call.Follows .managed (do a.fillFrom g; a.readback g.type us) L
        (fun _ _ => True) fun _ _ => True := by
      refine Call.Follows.bind (follows_fillFrom holds covered.still (fun K yields => ?_)
        fun _ _ _ => trivial)
      exact follows_readback (holds.of_yields yields fun _ mine => mine) yields.copying us
    exact (tied.settles follows settled (filled.bind read)).returns

/-- An array whose columns are stored one after the other is seen in another shape, filled through
this view, and updated both ways while the worker has not done anything. -/
theorem host_data_survives_the_round_trip_columns :
    let p : Program := .call (.empty 0 [2, 3] (.signed .w16) .columnMajor false) fun _ =>
      .call (.reshape 0 [3, 2]) fun _ => .call (.one 0) fun _ => .done
    let g : Grid := ⟨.signed .w16, [3, 2], [1, 2, 3, 4, 5, 6], rfl⟩
    ∃ outcome w v answers,
      Reaches ⟨[p.onOneStream ⟨0⟩ ⟨false, none⟩], .opened⟩ ⟨[.done outcome], w⟩ ∧
        w.busy = [0] ∧ outcome.workspace.array? 1 = some v ∧ v.isView = true ∧
        v.layout = .columnMajor ∧
        (do v.fillFrom g; v.readback g.type [.device, .host, .device]).Returns w
          ⟨answers, [1, 2, 3, 4, 5, 6], [1, 0, 3, 0, 5, 0, 2, 0, 4, 0, 6, 0]⟩ ∧
        ∀ answer ∈ answers, answer = .ok () := by
  intro p g
  have within : p.Within .managed :=
    ⟨trivial, fun _ => ⟨trivial, fun _ => ⟨trivial, fun _ => trivial⟩⟩⟩
  obtain ⟨outcome, w, v, h, busy, stores, found, view, extents, type, layout⟩ : ∃ outcome w v,
      Reaches ⟨[p.onOneStream ⟨0⟩ ⟨false, none⟩], .opened⟩ ⟨[.done outcome], w⟩ ∧
        w.busy = [0] ∧ w.stores = [.zeros 12] ∧ outcome.workspace.array? 1 = some v ∧
        v.isView = true ∧ v.shape.extents = [3, 2] ∧ v.type = .signed .w16 ∧
        v.layout = .columnMajor :=
    ⟨_, _, _, .step (.client 0 rfl rfl) (.step (.client 0 rfl rfl) (.step (.client 0 rfl rfl)
      (.here _))), rfl, rfl, rfl, rfl, rfl, rfl, rfl⟩
  have small : w.Allocatable := by
    intro bytes member
    rw [stores] at member
    cases List.mem_singleton.mp member
    decide
  obtain ⟨-, filled⟩ := host_data_survives_the_round_trip within h (g := g) (by decide) (by decide)
    [.device, .host, .device]
  obtain ⟨answers, returned, fine⟩ := filled 1 v found extents type
  have bytes : g.toBytes v.layout = [1, 0, 3, 0, 5, 0, 2, 0, 4, 0, 6, 0] := by
    rw [layout]
    decide
  rw [bytes] at returned
  exact ⟨outcome, w, v, answers, h, busy, found, view, layout, returned, fine small⟩

end DeviceArrays
