import DeviceArrays.World

/-!
# Clients

A client is a program that talks to devices and streams through single actions, each answered
before the next. Between two actions the workers of the streams may move at will; `Client.run`
is the run in which they always move as far as they can.
-/
namespace DeviceArrays

/-- One action of a client. Devices, streams and host stores are given by number. Stores and buffers
are of sizes that can be had. Whoever asks for a store of more than `largestAllocation` bytes
crashes before anything has changed, which is the end of a client and no action of one. -/
inductive Action
  | openDevice
  | openStream (device : Nat)
  | createStore (size : Nat)
  | readStore (store : Nat)
  | patchStore (store offset : Nat) (bytes : Bytes)
  | allocate (device size : Nat)
  | liveBuffers (device : Nat)
  | submit (stream : Nat) (command : Command)
  | await (stream sequence : Nat)
  | takeFailure (stream : Nat)
  | close (stream : Nat)
  | join (stream : Nat)

namespace Action

/-- The type of the answer to an action. A submission to a closing queue gets no number. -/
def Reply : Action → Type
  | .openDevice => Nat
  | .openStream _ => Nat
  | .createStore _ => HostStore
  | .readStore _ => Bytes
  | .patchStore .. => Unit
  | .allocate .. => BufferId
  | .liveBuffers _ => Nat
  | .submit .. => Option Nat
  | .await .. => Unit
  | .takeFailure _ => Option Error
  | .close _ => Unit
  | .join _ => Unit

/-- Whether the action can be taken now. Waiting for a command is held up until the command is done,
and joining a worker until the worker has ended. -/
def enabled (w : World) : Action → Bool
  | .await stream sequence => (w.streams[stream]?.map (·.queue.isDone sequence)).getD true
  | .join stream => (w.streams[stream]?.map (·.queue.hasStopped)).getD true
  | _ => true

/-- Changes the queue of a stream. -/
def onQueue (w : World) (stream : Nat) (f : Queue Command Error → Queue Command Error) : World :=
  { w with streams := w.streams.modify stream fun state => { state with queue := f state.queue } }

/-- The answer to an action, and the world after it. -/
def perform (w : World) : (a : Action) → a.Reply × World
  | .openDevice => (w.memories.length, { w with memories := w.memories ++ [.empty] })
  | .openStream device => (w.streams.length, { w with streams := w.streams ++ [⟨device, .empty⟩] })
  | .createStore size => (⟨w.stores.length, size⟩, { w with stores := w.stores ++ [.zeros size] })
  | .readStore store => (w.stored store, w)
  | .patchStore store offset bytes =>
    ((), { w with stores := w.stores.modify store (·.splice offset bytes) })
  | .allocate device size =>
    let (memory, id) := (w.memory device).allocate size
    (id, { w with memories := w.memories.set device memory })
  | .liveBuffers device => ((w.memory device).liveCount, w)
  | .submit stream command =>
    match w.streams[stream]? with
    | none => (none, w)
    | some state =>
      match state.queue.submit command with
      | none => (none, w)
      | some (sequence, queue) => (some sequence, onQueue w stream fun _ => queue)
  | .await .. => ((), w)
  | .takeFailure stream =>
    match w.streams[stream]? with
    | none => (none, w)
    | some state =>
      (state.queue.takeFailure.1, onQueue w stream fun _ => state.queue.takeFailure.2)
  | .close stream => ((), onQueue w stream .close)
  | .join _ => ((), w)

end Action

/-- A program of actions that ends with a result. -/
inductive Client (α : Type)
  | done (result : α)
  | act (action : Action) (next : action.Reply → Client α)

namespace Client

variable {α β : Type}

def bind : Client α → (α → Client β) → Client β
  | .done a, f => f a
  | .act action next, f => .act action fun reply => (next reply).bind f

instance : Monad Client where
  pure := .done
  bind := bind

/-- A single action. -/
def perform (action : Action) : Client action.Reply := .act action .done

/-- The run in which every worker rests before the client's next action. -/
def run : Client α → World → α × World
  | .done a, w => (a, w)
  | .act action next, w =>
    let (reply, after) := action.perform w
    (next reply).run after.settle

end Client

/-- A call of the library: a program that ends with a result or an error. -/
abbrev Call (α : Type) := ExceptT Error Client α

namespace Call

variable {α : Type}

/-- A single action as part of a call. -/
def perform (action : Action) : Call action.Reply := ExceptT.lift (Client.perform action)

/-- A check that needs no action. -/
def check : Except Error α → Call α
  | .ok a => pure a
  | .error e => throw e

/-- Runs `cleanup` where the call ends with an error, and reports the error. -/
def onError (cleanup : Client Unit) (body : Call α) : Call α := ExceptT.mk do
  match ← body.run with
  | .ok a => return .ok a
  | .error e =>
    cleanup
    return .error e

end Call

end DeviceArrays
