import DeviceArrays.Proofs.Change
import DeviceArrays.Proofs.Several.Queues
import DeviceArrays.Proofs.Several.Storage

/-!
# Streams on disjoint storage

Where the commands of different streams name no buffer and no host store in common, each worker's
move makes the same change whatever the others have done before, and moves of two workers can be
exchanged. So the order in which the workers get their turns makes no difference in the end.
-/
namespace DeviceArrays

open Memory (AgreesOn)

theorem flatMap_subset {β γ : Type} {l more : List β} {f : β → List γ} (among : l ⊆ more) :
    l.flatMap f ⊆ more.flatMap f := fun x member => by
  obtain ⟨a, listed, within⟩ := List.mem_flatMap.mp member
  exact List.mem_flatMap.mpr ⟨a, among listed, within⟩

/-- Live buffers have different slots. -/
theorem Memory.slot_ne {m : Memory} {b c : BufferId} (live : (m.contents? b).isSome)
    (there : (m.contents? c).isSome) (different : b ≠ c) : b.number - 1 ≠ c.number - 1 := by
  obtain ⟨bytes, live⟩ := Option.isSome_iff_exists.mp live
  obtain ⟨data, there⟩ := Option.isSome_iff_exists.mp there
  obtain ⟨slot, first, _⟩ := exists_slot live
  obtain ⟨other, second, _⟩ := exists_slot there
  have numbers (same : b.number - 1 = c.number - 1) : b.number = c.number := by omega
  exact fun same => different (congrArg BufferId.mk (numbers same))

theorem Memory.put_comm {b c : BufferId} (apart : b.number - 1 ≠ c.number - 1) (m : Memory)
    (bytes data : Option Bytes) : (m.put b bytes).put c data = (m.put c data).put b bytes := by
  simp only [put, Memory.mk.injEq]
  exact List.set_comm _ _ apart

/-- Changes of two places of a list, or of one place if they commute there, can be exchanged. -/
theorem modify_comm {β : Type} {i j : Nat} {f g : β → β} (commute : i = j → ∀ a, f (g a) = g (f a))
    (l : List β) : (l.modify i f).modify j g = (l.modify j g).modify i f := by
  by_cases same : i = j
  · subst same
    rw [List.modify_modify_eq, List.modify_modify_eq]
    congr 1
    funext a
    exact (commute rfl a).symm
  · exact List.modify_modify_ne f g l same

namespace World

variable {w after : World} {i j d e : Nat} {x y : Change} {state : StreamState}
  {buffers others : List BufferId} {stores elsewhere : List Nat}

/-! ### Changes of a world -/

/-- A change of what the streams of one device act on. -/
def change (w : World) (device : Nat) : Change → World
  | .keep => w
  | .put b bytes => { w with memories := w.memories.modify device (·.put b bytes) }
  | .send store bytes => { w with stores := w.stores.set store bytes }

/-- A worker's move: its change, and what its stream is then. -/
def move (w : World) (stream : Nat) (state : StreamState) (x : Change) : World :=
  { w.change state.device x with streams := w.streams.set stream state }

theorem set_memory (w : World) (device : Nat) (f : Memory → Memory) :
    w.memories.set device (f (w.memory device)) = w.memories.modify device f := by
  cases found : w.memories[device]? with
  | none =>
    have outside := List.getElem?_eq_none_iff.mp found
    rw [List.set_eq_of_length_le outside, List.modify_eq_self outside]
  | some m => rw [modify_eq_set found, memory, found, Option.getD_some]

theorem putStream_apply (w : World) (stream : Nat) (state : StreamState) (x : Change) :
    w.putStream stream state (x.apply (w.surroundings state.device)) = w.move stream state x := by
  have same := (w.set_memory state.device id).trans (List.modify_id _ _)
  rw [id] at same
  cases x with
  | keep => simp only [putStream, move, change, Change.apply, surroundings, same]
  | put b bytes =>
    have put := w.set_memory state.device (·.put b bytes)
    simp only [putStream, move, change, Change.apply, surroundings, put]
  | send store bytes => simp only [putStream, move, change, Change.apply, surroundings, same]

theorem inside_of_live {b : BufferId} (live : ((w.memory d).contents? b).isSome) :
    d < w.memories.length := Nat.lt_of_not_le fun outside => by
  have missing : w.memory d = .empty := by
    rw [memory, List.getElem?_eq_none outside]
    rfl
  rw [missing] at live
  obtain ⟨_ | slot⟩ := b <;> simp [Memory.contents?, Memory.empty] at live

/-- A change leaves all buffers of other devices as they are, and all that it does not name. -/
theorem contents?_change (within : y.Within others elsewhere (w.surroundings e)) {b : BufferId}
    (apart : d = e → b ∉ others) :
    ((w.change e y).memory d).contents? b = (w.memory d).contents? b := by
  cases y with
  | keep => rfl
  | send store bytes => rfl
  | put c bytes =>
    obtain ⟨named, live⟩ : c ∈ others ∧ ((w.memory e).contents? c).isSome := within
    have put : (w.change e (.put c bytes)).memory d = _ :=
      (w.set_memory e (·.put c bytes)) ▸ memory_set (inside_of_live live) _ d
    rw [put]
    split
    case isTrue same =>
      subst same
      rw [Memory.contents?_put _ live, if_neg]
      rintro rfl
      exact apart rfl named
    case isFalse => rfl

/-- Changes of different buffers and stores can be exchanged. -/
theorem change_comm (first : x.Within buffers stores (w.surroundings d))
    (second : y.Within others elsewhere (w.surroundings e))
    (buffersApart : d = e → buffers.Disjoint others) (storesApart : stores.Disjoint elsewhere) :
    (w.change d x).change e y = (w.change e y).change d x := by
  cases x with
  | keep => rfl
  | put b bytes =>
    cases y with
    | keep => rfl
    | send store data => rfl
    | put c data =>
      simp only [change, World.mk.injEq, and_true]
      refine modify_comm (fun same m => ?_) w.memories
      subst same
      have different : b ≠ c := fun same => buffersApart rfl first.1 (same ▸ second.1)
      exact Memory.put_comm (Memory.slot_ne first.2 second.2 different) m bytes data |>.symm
  | send store bytes =>
    cases y with
    | keep => rfl
    | put c data => rfl
    | send other data =>
      have different : store ≠ other := fun same => storesApart first (same ▸ second)
      simp only [change, List.set_comm _ _ different]

/-! ### Streams that are apart -/

/-- Commands of the standard kernels, of which no two on different streams of a device name the same
buffer and no two on different streams name the same host store. -/
structure Apart (w : World) : Prop where
  elementwise : ∀ (i : Nat) (state : StreamState), w.streams[i]? = some state →
    ∀ c ∈ state.queue.outstanding, c.IsElementwise
  buffers : ∀ (i j : Nat) (state other : StreamState), i ≠ j → w.streams[i]? = some state →
    w.streams[j]? = some other → state.device = other.device →
      state.queue.buffers.Disjoint other.queue.buffers
  stores : ∀ (i j : Nat) (state other : StreamState), i ≠ j → w.streams[i]? = some state →
    w.streams[j]? = some other → state.queue.stores.Disjoint other.queue.stores

theorem Apart.serve (apart : w.Apart) (served : w.serve i = some after) : after.Apart := by
  have before {j : Nat} {state : StreamState} (found : after.streams[j]? = some state) :
      ∃ old, w.streams[j]? = some old ∧ old.device = state.device ∧
        state.queue.outstanding ⊆ old.queue.outstanding := by
    obtain ⟨_, same⟩ | ⟨old, queue, s, _, there, turn, rfl⟩ := stream_serve_cases served found
    · exact ⟨state, same, rfl, fun _ member => member⟩
    · exact ⟨old, there, rfl, turn.outstanding_sublist.subset⟩
  constructor
  case elementwise =>
    intro j state found c waiting
    obtain ⟨old, found, _, fewer⟩ := before found
    exact apart.elementwise j old found c (fewer waiting)
  case buffers =>
    intro j k state other different found there near
    obtain ⟨old, found, device, fewer⟩ := before found
    obtain ⟨earlier, there, place, less⟩ := before there
    have disjoint := apart.buffers j k old earlier different found there
      (device.trans (near.trans place.symm))
    exact fun b first second => disjoint (flatMap_subset fewer first)
      (flatMap_subset less second)
  case stores =>
    intro j k state other different found there
    obtain ⟨old, found, _, fewer⟩ := before found
    obtain ⟨earlier, there, _, less⟩ := before there
    have disjoint := apart.stores j k old earlier different found there
    exact fun b first second => disjoint (flatMap_subset fewer first)
      (flatMap_subset less second)

/-- A worker that has a move makes the same change in every world in which its stream and the
buffers that its commands name are the same. -/
theorem exists_move (served : w.serve i = some after)
    (elementwise : ∀ state, w.streams[i]? = some state →
      ∀ c ∈ state.queue.outstanding, c.IsElementwise) :
    ∃ state queue x, w.streams[i]? = some state ∧
      x.Within state.queue.buffers state.queue.stores (w.surroundings state.device) ∧
        after = w.move i { state with queue } x ∧
          ∀ v : World, v.streams[i]? = some state →
            AgreesOn state.queue.buffers (w.memory state.device) (v.memory state.device) →
              v.serve i = some (v.move i { state with queue } x) := by
  obtain ⟨state, queue, s, found, turn, rfl⟩ := serve_cases served
  obtain ⟨x, rfl, within, determined⟩ := turn.determined (elementwise state found)
  refine ⟨state, queue, x, found, within, putStream_apply w i { state with queue } x,
    fun v same agrees => ?_⟩
  have moved := Queue.step_eq_some_iff_turn.mpr (determined (v.surroundings state.device) agrees)
  rw [← putStream_apply]
  simp [World.serve, same, moved]

theorem move_move (w : World) (i j : Nat) (state other : StreamState) (x y : Change) :
    (w.move i state x).move j other y = { (w.change state.device x).change other.device y with
      streams := (w.streams.set i state).set j other } := by
  cases x <;> cases y <;> rfl

/-- Whichever of two workers moves first, the other can make its move, and both orders lead to one
world. -/
theorem Apart.serve_comm {a b : World} (apart : w.Apart) (different : i ≠ j)
    (first : w.serve i = some a) (second : w.serve j = some b) :
    ∃ u, a.serve j = some u ∧ b.serve i = some u := by
  obtain ⟨state, queue, x, found, within, rfl, again⟩ := exists_move first (apart.elementwise i)
  obtain ⟨other, next, y, there, inside, rfl, repeated⟩ := exists_move second (apart.elementwise j)
  have buffersApart := apart.buffers i j state other different found there
  have storesApart := apart.stores i j state other different found there
  have commute : (w.move i { state with queue } x).move j { other with queue := next } y =
      (w.move j { other with queue := next } y).move i { state with queue } x := by
    rw [move_move, move_move, change_comm within inside buffersApart storesApart,
      List.set_comm _ _ different]
  refine ⟨_, repeated _ ?_ fun b named => ?_, commute ▸ again _ ?_ fun b named => ?_⟩
  · exact (List.getElem?_set_ne different).trans there
  · exact contents?_change within fun near mine => buffersApart near.symm mine named
  · exact (List.getElem?_set_ne (Ne.symm different)).trans found
  · exact contents?_change inside fun near theirs => buffersApart near named theirs

/-! ### Interleavings -/

/-- The workers move in some order, after which none of them has a move left. -/
def RunsTo (w : World) (order : List Nat) (u : World) : Prop :=
  order.foldlM serve w = some u ∧ ∀ stream, u.serve stream = none

theorem RunsTo.cons {order : List Nat} {u : World} (served : w.serve i = some after)
    (run : after.RunsTo order u) : w.RunsTo (i :: order) u := by
  refine ⟨?_, run.2⟩
  rw [List.foldlM_cons, served]
  exact run.1

theorem RunsTo.exists_of_cons {order : List Nat} {u : World} (run : w.RunsTo (i :: order) u) :
    ∃ after, w.serve i = some after ∧ after.RunsTo order u := by
  obtain ⟨run, rest⟩ := run
  rw [List.foldlM_cons] at run
  obtain ⟨after, served, later⟩ := Option.bind_eq_some_iff.mp run
  exact ⟨after, served, later, rest⟩

theorem exists_runsTo (w : World) : ∃ order u, w.RunsTo order u := by
  by_cases moves : ∃ stream after, w.serve stream = some after
  · obtain ⟨stream, after, served⟩ := moves
    have fewer := remaining_serve served
    obtain ⟨order, u, run⟩ := exists_runsTo after
    exact ⟨stream :: order, u, run.cons served⟩
  · refine ⟨[], w, rfl, fun stream => ?_⟩
    cases served : w.serve stream with
    | none => rfl
    | some after => exact absurd ⟨stream, after, served⟩ moves
  termination_by w.remaining

/-- A worker that has a move can make it first: it can be exchanged with every move before it. -/
theorem Apart.runsTo_of_serve {order : List Nat} {u : World} (apart : w.Apart)
    (run : w.RunsTo order u) (served : w.serve i = some after) :
    ∃ others, after.RunsTo others u := by
  -- The worker has to move at some time, since in the end it has no move left.
  induction order generalizing w after with
  | nil =>
    cases run.1
    rw [run.2 i] at served
    cases served
  | cons k order ih =>
    obtain ⟨next, moved, run⟩ := run.exists_of_cons
    by_cases same : k = i
    · subst same
      cases moved.symm.trans served
      exact ⟨order, run⟩
    · obtain ⟨v, fromNext, fromAfter⟩ := apart.serve_comm same moved served
      obtain ⟨others, run⟩ := ih (apart.serve moved) run fromNext
      exact ⟨k :: others, run.cons fromAfter⟩

theorem Apart.eq_of_runsTo {order others : List Nat} {u v : World} (apart : w.Apart)
    (run : w.RunsTo order u) (other : w.RunsTo others v) : v = u := by
  induction order generalizing w others with
  | nil =>
    cases run.1
    cases others with
    | nil =>
      cases other.1
      rfl
    | cons k others =>
      obtain ⟨after, served, _⟩ := other.exists_of_cons
      rw [run.2 k] at served
      cases served
  | cons k order ih =>
    obtain ⟨after, served, run⟩ := run.exists_of_cons
    obtain ⟨others, other⟩ := apart.runsTo_of_serve other served
    exact ih (apart.serve served) run other

/-- Workers whose streams are apart come to an end, and always to the same one: in whatever order
they get their turns, the memories of all devices, the host stores and the failure that each stream
has kept are the same. -/
theorem disjoint_streams_are_independent (apart : w.Apart) :
    ∃ u, (∃ order, w.RunsTo order u) ∧ ∀ order v, w.RunsTo order v → v = u := by
  obtain ⟨order, u, run⟩ := exists_runsTo w
  exact ⟨u, ⟨order, run⟩, fun _ _ other => apart.eq_of_runsTo run other⟩

/-- One stream fills a buffer, another frees a buffer and uses it again. Whether they run one after
the other or in turns, the second fails in the same way. -/
theorem disjoint_streams_are_independent_two :
    let filling := Queue.empty.push (.launch ElementwiseKernel.fill.toKernel
      [.ofType (.unsigned .w8), .count 1, .buffer ⟨1⟩, .scalar ⟨.unsigned .w8, 7⟩])
    let misusing := (Queue.empty.push (.release ⟨2⟩)).push (.copyToDevice ⟨2⟩ [1])
    let w : World := ⟨[⟨[some [0], some [5]]⟩], [⟨0, filling⟩, ⟨0, misusing⟩], []⟩
    w.Apart ∧ ∃ u, w.RunsTo [0, 0, 0, 1, 1, 1, 1, 1, 1] u ∧
      w.RunsTo [1, 0, 1, 0, 1, 0, 1, 1, 1] u ∧ (u.memory 0).contents? ⟨1⟩ = some [7] ∧
        u.streams.map (·.queue.failure) = [none, some (.useAfterFree "copy to device" ⟨2⟩)] := by
  intro filling misusing w
  have disjoint : filling.buffers.Disjoint misusing.buffers := by
    have first : filling.buffers = [⟨1⟩] := rfl
    have second : misusing.buffers = [⟨2⟩, ⟨2⟩] := rfl
    simp [first, second]
  have apart : w.Apart := by
    constructor
    case elementwise =>
      intro i state found
      match i, found with
      | 0, rfl => exact List.forall_mem_cons.mpr ⟨⟨.fill, rfl⟩, nofun⟩
      | 1, rfl =>
        exact List.forall_mem_cons.mpr ⟨trivial, List.forall_mem_cons.mpr ⟨trivial, nofun⟩⟩
    case buffers =>
      intro i j state other different found there _
      match i, j, found, there with
      | 0, 0, _, _ => exact absurd rfl different
      | 0, 1, rfl, rfl => exact disjoint
      | 1, 0, rfl, rfl => exact fun b second first => disjoint first second
      | 1, 1, _, _ => exact absurd rfl different
    case stores =>
      intro i j state other different found there
      match i, j, found, there with
      | 0, 0, _, _ => exact absurd rfl different
      | 0, 1, rfl, rfl => exact List.disjoint_nil_right _
      | 1, 0, rfl, rfl => exact List.disjoint_nil_left _
      | 1, 1, _, _ => exact absurd rfl different
  have resting (u : World) (two : u.streams.length = 2) (first : u.serve 0 = none)
      (second : u.serve 1 = none) (stream : Nat) : u.serve stream = none := by
    match stream with
    | 0 => exact first
    | 1 => exact second
    | stream + 2 => simp [serve, two]
  obtain ⟨u, run, filled, failures⟩ : ∃ u, w.RunsTo [0, 0, 0, 1, 1, 1, 1, 1, 1] u ∧
      (u.memory 0).contents? ⟨1⟩ = some [7] ∧ u.streams.map (·.queue.failure) =
        [none, some (.useAfterFree "copy to device" ⟨2⟩)] :=
    ⟨_, ⟨rfl, resting _ rfl rfl rfl⟩, rfl, rfl⟩
  obtain ⟨v, other⟩ : ∃ v, w.RunsTo [1, 0, 1, 0, 1, 0, 1, 1, 1] v :=
    ⟨_, rfl, resting _ rfl rfl rfl⟩
  obtain ⟨_, _, unique⟩ := disjoint_streams_are_independent apart
  cases unique _ _ run
  cases unique _ _ other
  exact ⟨apart, _, run, other, filled, failures⟩

end World

end DeviceArrays
