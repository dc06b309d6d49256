import DeviceArrays.Client
import DeviceArrays.Settings

/-!
# Devices and streams

A device has a memory and a kernel library; a stream is an ordered queue of commands on one device.
Submitting never waits. `Stream.synchronize`, and a launch on a stream that waits for its kernels,
wait for a command and report the failure that is kept. `Stream.close`, which ends a stream with its
last handle, waits for the worker itself and reports nothing.
-/
namespace DeviceArrays

/-- An opened device. Devices are told apart by number, not by the index they are known by. -/
structure Device where
  number : Nat
  id : DeviceId
  library : Library

/-- An opened stream. -/
structure Stream where
  number : Nat
  device : Device
  options : StreamOptions

namespace HostStore

/-- A store of zero bytes. -/
def create (size : Nat) : Call HostStore := Call.perform (.createStore size)

def bytes (store : HostStore) : Call Bytes := Call.perform (.readStore store.number)

/-- Overwrites the bytes from `offset` on, as far as the store reaches. -/
def patch (store : HostStore) (offset : Nat) (data : Bytes) : Call Unit :=
  Call.perform (.patchStore store.number offset data)

/-- Overwrites the first bytes. -/
def write (store : HostStore) (data : Bytes) : Call Unit := store.patch 0 data

end HostStore

namespace Device

/-- A new device with a memory of its own. -/
def create (id : DeviceId) (library : Library) : Call Device := do
  let number ← Call.perform .openDevice
  return ⟨number, id, library⟩

/-- Whether both are the same device. -/
def same (d e : Device) : Bool := d.number = e.number

/-- The number of buffers that are live now. -/
def liveBuffers (d : Device) : Call Nat := Call.perform (.liveBuffers d.number)

def idText (d : Device) : String := s!"DeviceId({d.id.index})"

def description (d : Device) : String :=
  "Device \x7b id: " ++ d.idText ++ ", library: " ++ quoted d.library.name ++ " \x7d"

end Device

namespace Stream

/-- A new stream on a device. -/
def create (device : Device) (options : StreamOptions) : Call Stream := do
  let number ← Call.perform (.openStream device.number)
  return ⟨number, device, options⟩

/-- Whether both are the same stream. -/
def same (s r : Stream) : Bool := s.number = r.number

/-- Ends a stream: no more commands will be submitted, and the call goes on only once the worker has
done those submitted and has ended. -/
def close (s : Stream) : Call Unit := do
  Call.perform (.close s.number)
  Call.perform (.join s.number)

/-- The number shown for a stream. -/
def numberText (s : Stream) : String := s!"#{s.number}"

def description (s : Stream) : String :=
  let threshold :=
    match s.options.threshold with
    | some n => s!"Some({n})"
    | none => "None"
  "Stream \x7b id: " ++ s.numberText ++ ", device: " ++ s.device.idText
    ++ ", options: StreamOptions \x7b blocking_launches: " ++ toString s.options.blockingLaunches
    ++ ", perf_threshold_us: " ++ threshold ++ " \x7d \x7d"

/-- Puts a command at the end of the queue and gives its number. -/
def submit (s : Stream) (command : Command) : Call Nat := do
  match ← Call.perform (.submit s.number command) with
  | some sequence => return sequence
  | none => throw .streamClosed

/-- A zeroed buffer as large as a host store. It exists at once, whatever is still queued. -/
def allocate (s : Stream) (store : HostStore) : Call BufferId :=
  Call.perform (.allocate s.device.number store.size)

/-- Queues the release of a buffer. -/
def release (s : Stream) (buffer : BufferId) : Call Unit := do
  let _ ← s.submit (.release buffer)

/-- Queues a copy of what the store holds now. -/
def copyToDevice (s : Stream) (buffer : BufferId) (store : HostStore) : Call Unit := do
  let bytes ← store.bytes
  let _ ← s.submit (.copyToDevice buffer bytes)

/-- Queues a copy into the store, which changes when the worker gets there. -/
def copyToHost (s : Stream) (buffer : BufferId) (store : HostStore) : Call Unit := do
  let _ ← s.submit (.copyToHost buffer store)

/-- Waits for a command and reports the failure that is kept. -/
def waitFor (s : Stream) (sequence : Nat) : Call Unit := do
  Call.perform (.await s.number sequence)
  match ← Call.perform (.takeFailure s.number) with
  | some e => throw e
  | none => return ()

/-- Queues a kernel launch; a stream with blocking launches waits for it. -/
def launch (s : Stream) (kernel : Kernel) (arguments : List Argument) : Call Unit := do
  let sequence ← s.submit (.launch kernel arguments)
  if s.options.blockingLaunches then s.waitFor sequence

/-- Waits for every command submitted so far. -/
def synchronize (s : Stream) : Call Unit := do
  let sequence ← s.submit .fence
  s.waitFor sequence

end Stream

end DeviceArrays
