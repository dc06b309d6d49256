import DeviceArrays.Command
import DeviceArrays.Queue

/-!
# The world of devices and streams

All that changes while programs run: the memory of every device, the queue of every stream, and
the bytes of every host store. Devices, streams and stores are known by their place in these lists.
-/
namespace DeviceArrays

/-- A stream's queue, and the device its commands act on. -/
structure StreamState where
  device : Nat
  queue : Queue Command Error

structure World where
  memories : List Memory
  streams : List StreamState
  stores : List Bytes

namespace World

def empty : World := ⟨[], [], []⟩

def memory (w : World) (device : Nat) : Memory := w.memories[device]?.getD .empty

/-- The bytes of a host store. -/
def stored (w : World) (store : Nat) : Bytes := w.stores[store]?.getD []

/-- Puts back what a stream's worker changed. -/
def putStream (w : World) (stream : Nat) (state : StreamState) (s : Surroundings) : World where
  memories := w.memories.set state.device s.memory
  streams := w.streams.set stream state
  stores := s.stores

/-- What the commands of a device's streams act on. -/
def surroundings (w : World) (device : Nat) : Surroundings := ⟨w.memory device, w.stores⟩

/-- The next move of a stream's worker, if it has one. -/
def serve (w : World) (stream : Nat) : Option World := do
  let state ← w.streams[stream]?
  let (queue, s) ← state.queue.step Command.run (w.surroundings state.device)
  return w.putStream stream { state with queue } s

/-- Lets a stream's worker move until it rests. -/
def drain (w : World) (stream : Nat) : World :=
  match w.streams[stream]? with
  | none => w
  | some state =>
    let (queue, s) := state.queue.drain Command.run (w.surroundings state.device)
    w.putStream stream { state with queue } s

/-- The streams whose workers have a move, the earliest first. -/
def busy (w : World) : List Nat :=
  w.streams.zipIdx.filterMap fun (state, stream) =>
    if state.queue.rests then none else some stream

/-- Lets every worker move until it rests, the earliest stream first. -/
def settle (w : World) : World := w.busy.foldl drain w

end World

end DeviceArrays
