import DeviceArrays.Error
import DeviceArrays.Kernel.Library

/-!
# Stream commands

A command moves bytes between a device and a host store, launches a kernel, frees a buffer, or
only marks a place in the queue. A command that fails changes nothing, unless it launched a kernel
that has written before it failed.
-/
namespace DeviceArrays

/-- A host store: bytes on the host, of a fixed size. -/
structure HostStore where
  number : Nat
  size : Nat
  deriving DecidableEq, Repr

/-- Work for the worker of a stream. Bytes that go to the device are fixed when it is submitted. -/
inductive Command
  | copyToDevice (buffer : BufferId) (bytes : Bytes)
  | copyToHost (buffer : BufferId) (store : HostStore)
  | launch (kernel : Kernel) (arguments : List Argument)
  | release (buffer : BufferId)
  | fence

/-- What commands act on: the memory of one device and the host stores. -/
structure Surroundings where
  memory : Memory
  stores : List Bytes

namespace Command

/-- The error of a launch that did not come back. -/
def crashError (message : Option String) : Error :=
  .device (.execution s!"launch panicked: {message.getD defaultCrash}")
where
  defaultCrash : String := "unknown panic"

/-- Does a command, or says why it cannot be done. -/
def perform (c : Command) (s : Surroundings) : Except Error Surroundings :=
  match c with
  | .copyToDevice buffer bytes =>
    match s.memory.copyIn buffer bytes with
    | .ok memory => .ok { s with memory }
    | .error e => .error (.ofDevice "copy to device" e)
  | .copyToHost buffer store =>
    match s.memory.copyOut buffer store.size with
    | .ok bytes => .ok { s with stores := s.stores.set store.number bytes }
    | .error e => .error (.ofDevice "copy to host" e)
  | .launch kernel arguments =>
    match kernel.run s.memory arguments with
    | .ok memory => .ok { s with memory }
    | .error (.error e) => .error (.ofDevice kernel.name e)
    | .error (.crash message) => .error (crashError message)
  | .release buffer =>
    match s.memory.free buffer with
    | .ok memory => .ok { s with memory }
    | .error e => .error (.ofDevice "release" e)
  | .fence => .ok s

/-- What a command leaves that cannot be done. -/
def left (c : Command) (s : Surroundings) : Surroundings :=
  match c with
  | .launch kernel arguments => { s with memory := kernel.left s.memory arguments }
  | _ => s

/-- Does a command and reports a failure. -/
def run (c : Command) (s : Surroundings) : Surroundings × Option Error :=
  match c.perform s with
  | .ok after => (after, none)
  | .error e => (c.left s, some e)

end Command

end DeviceArrays
