import DeviceArrays.DeviceArray.Operators
import DeviceArrays.DeviceArray.View

/-!
# Programs of array calls

A program calls arrays and streams by name and may choose each call by the answers so far. A name
that is not in scope cannot be called, and neither may an owner be dropped, released or moved to
another stream while a view of it is in scope: such a request is passed over. Nothing else is asked
of a program.
-/
namespace DeviceArrays

/-- The buffer that an action makes, with its device. -/
def Action.handed : (a : Action) → a.Reply → List (Nat × BufferId)
  | .allocate device _, (b : BufferId) => [(device, b)]
  | _, _ => []

/-- A client that also tells which buffers it was given, besides those it knows already. -/
def Client.recording {α : Type} (given : List (Nat × BufferId)) :
    Client α → Client (α × List (Nat × BufferId))
  | .done a => .done (a, given)
  | .act action next =>
    .act action fun reply => (next reply).recording (action.handed reply ++ given)

/-- What a program can name. Streams that were closed and arrays that have ended leave a gap. -/
structure Workspace where
  devices : List Device
  streams : List (Option Stream)
  arrays : List (Option DeviceArray)
  /-- The buffers that allocations have returned so far, with their devices. -/
  issued : List (Nat × BufferId)

/-- What a call gives back. Devices, streams and arrays are given by name. -/
inductive Answer
  | finished
  | array (name : Nat)
  | device (name : Nat)
  | stream (name : Nat)
  | bytes (bytes : Bytes)
  | elements (type : ElementType) (values : List (Element type))
  | text (text : String)
  | count (n : Nat)

abbrev Reply := Except Error Answer

/-- The right-hand side of an operation, an array by name. -/
inductive Source
  | array (name : Nat)
  | grid (g : Grid)
  | scalar (value : Scalar)

namespace Workspace

def stream? (ws : Workspace) (name : Nat) : Option Stream := ws.streams[name]?.join

def array? (ws : Workspace) (name : Nat) : Option DeviceArray := ws.arrays[name]?.join

def operand? (ws : Workspace) : Source → Option Operand
  | .array name => (ws.array? name).map .array
  | .grid g => some (.grid g)
  | .scalar value => some (.scalar value)

/-- Whether an array is an owner with a view in scope. -/
def pinned (ws : Workspace) (a : DeviceArray) : Bool :=
  !a.isView && ws.arrays.any fun
    | some v => v.isView && v.sameStorage a
    | none => false

/-- Whether an array in scope works on a stream. -/
def uses (ws : Workspace) (s : Stream) : Bool :=
  ws.arrays.any fun
    | some a => a.stream.same s
    | none => false

def put (ws : Workspace) (name : Nat) (a : Option DeviceArray) : Workspace :=
  { ws with arrays := ws.arrays.set name a }

def add (ws : Workspace) (a : DeviceArray) : Workspace :=
  { ws with arrays := ws.arrays ++ [some a] }

/-- Makes a call and tells what came of it. -/
def tell {α : Type} (ws : Workspace) (call : Call α) (answer : α → Answer) :
    Client (Reply × Workspace) :=
  call.run.bind fun
    | .ok a => .done (.ok (answer a), ws)
    | .error e => .done (.error e, ws)

/-- Makes a call and gives a name to the array that came of it. -/
def keep (ws : Workspace) (call : Call DeviceArray) : Client (Reply × Workspace) :=
  call.run.bind fun
    | .ok a => .done (.ok (.array ws.arrays.length), ws.add a)
    | .error e => .done (.error e, ws)

end Workspace

/-- The calls a program can make. Arrays, devices and streams are given by name. -/
inductive Request
  | build (extents : List Nat) (type : ElementType) (layout : Layout) (device stream : Option Nat)
  | empty (stream : Nat) (extents : List Nat) (type : ElementType) (layout : Layout)
      (mirrored : Bool)
  | emptyLike (stream like : Nat) (mirrored : Bool)
  | zeros (stream : Nat) (extents : List Nat) (type : ElementType)
  | ones (stream : Nat) (extents : List Nat) (type : ElementType)
  | bind (stream : Nat) (g : Grid)
  | binary (array : Nat) (operation : BinaryOperation) (source : Source)
  | abs (array : Nat)
  | reverse (array : Nat)
  | fill (array : Nat) (value : Scalar)
  | zero (array : Nat)
  | one (array : Nat)
  | fillFrom (array : Nat) (g : Grid)
  | setSlice (array start stop : Nat) (source : Source)
  | updateDevice (array : Nat)
  | updateHost (array : Nat)
  | reshape (array : Nat) (extents : List Nat)
  | ravel (array : Nat)
  | hostBytes (array : Nat)
  | elements (array : Nat) (type : ElementType)
  | gridElements (array : Nat) (type : ElementType)
  | text (array : Nat)
  | assignStream (array stream : Nat)
  | release (array : Nat)
  | drop (array : Nat)
  | synchronize (stream : Nat)
  /-- The release of a buffer by hand. -/
  | releaseBuffer (stream : Nat) (b : BufferId)
  /-- The number of live buffers, after synchronizing. -/
  | countLive (stream : Nat)
  | openDevice (id : DeviceId) (library : Library)
  | openStream (device : Nat) (options : StreamOptions)
  | closeStream (stream : Nat)

namespace Request

/-- Looks a name up where there is one. -/
def lookUp? {α : Type} (look : Nat → Option α) : Option Nat → Option (Option α)
  | none => some none
  | some name => (look name).map some

/-- The client that makes a call, unless the call is passed over. -/
def perform (ws : Workspace) : Request → Option (Client (Reply × Workspace))
  | .build extents type layout device stream => do
    let device ← lookUp? (ws.devices[·]?) device
    let stream ← lookUp? ws.stream? stream
    return ws.keep (DeviceArray.build ⟨extents, type, layout, device, stream⟩)
  | .empty stream extents type layout mirrored => do
    let s ← ws.stream? stream
    return ws.keep (s.empty extents type layout mirrored)
  | .emptyLike stream like mirrored => do
    let s ← ws.stream? stream
    let a ← ws.array? like
    return ws.keep (s.emptyLike a mirrored)
  | .zeros stream extents type => do
    let s ← ws.stream? stream
    return ws.keep (s.zeros extents type)
  | .ones stream extents type => do
    let s ← ws.stream? stream
    return ws.keep (s.ones extents type)
  | .bind stream g => do
    let s ← ws.stream? stream
    return ws.keep (s.bind g)
  | .binary array operation source => do
    let a ← ws.array? array
    let operand ← ws.operand? source
    return ws.keep (a.binary operation operand)
  | .abs array => do
    let a ← ws.array? array
    return ws.keep a.abs
  | .reverse array => do
    let a ← ws.array? array
    return ws.keep a.reverse
  | .fill array value => do
    let a ← ws.array? array
    return ws.tell (a.fill value) fun _ => .finished
  | .zero array => do
    let a ← ws.array? array
    return ws.tell (a.fill (.zero a.type)) fun _ => .finished
  | .one array => do
    let a ← ws.array? array
    return ws.tell (a.fill (.one a.type)) fun _ => .finished
  | .fillFrom array g => do
    let a ← ws.array? array
    return ws.tell (a.fillFrom g) fun _ => .finished
  | .setSlice array start stop source => do
    let a ← ws.array? array
    let operand ← ws.operand? source
    return ws.tell (a.setSlice start stop operand) fun _ => .finished
  | .updateDevice array => do
    let a ← ws.array? array
    return ws.tell a.updateDevice fun _ => .finished
  | .updateHost array => do
    let a ← ws.array? array
    return ws.tell a.updateHost fun _ => .finished
  | .reshape array extents => do
    let a ← ws.array? array
    return ws.keep (Call.check (a.reshape extents))
  | .ravel array => do
    let a ← ws.array? array
    return ws.keep (Call.check a.ravel)
  | .hostBytes array => do
    let a ← ws.array? array
    return ws.tell a.hostBytes .bytes
  | .elements array type => do
    let a ← ws.array? array
    return ws.tell (a.elements type) (.elements type)
  | .gridElements array type => do
    let a ← ws.array? array
    return ws.tell (a.gridElements type) (.elements type)
  | .text array => do
    let a ← ws.array? array
    return ws.tell a.text .text
  | .assignStream array stream => do
    let a ← ws.array? array
    let s ← ws.stream? stream
    if ws.pinned a then none
    match a.assignStream s with
    | .ok b => return .done (.ok .finished, ws.put array b)
    | .error e => return .done (.error e, ws)
  | .release array => do
    let a ← ws.array? array
    if ws.pinned a then none
    return (ws.put array none).tell a.release fun _ => .finished
  | .drop array => do
    let a ← ws.array? array
    if ws.pinned a then none
    return (ws.put array none).tell (ExceptT.lift a.drop) fun _ => .finished
  | .synchronize stream => do
    let s ← ws.stream? stream
    return ws.tell s.synchronize fun _ => .finished
  | .releaseBuffer stream b => do
    let s ← ws.stream? stream
    if (s.device.number, b) ∉ ws.issued then none
    return ws.tell (s.release b) fun _ => .finished
  | .countLive stream => do
    let s ← ws.stream? stream
    return ws.tell (do s.synchronize; s.device.liveBuffers) .count
  | .openDevice id library =>
    some <| (Device.create id library).run.bind fun
      | .ok d => .done (.ok (.device ws.devices.length), { ws with devices := ws.devices ++ [d] })
      | .error e => .done (.error e, ws)
  | .openStream device options => do
    let d ← ws.devices[device]?
    return (Stream.create d options).run.bind fun
      | .ok s => .done (.ok (.stream ws.streams.length),
          { ws with streams := ws.streams ++ [some s] })
      | .error e => .done (.error e, ws)
  | .closeStream stream => do
    let s ← ws.stream? stream
    if ws.uses s then none
    return { ws with streams := ws.streams.set stream none }.tell s.close fun _ => .finished

/-- Whether the call only waits for what was submitted before. -/
def waits : Request → Bool
  | .updateHost _ | .synchronize _ => true
  | _ => false

end Request

/-- A program of calls. A call that is passed over has no reply. -/
inductive Program
  | done
  | call (request : Request) (next : Option Reply → Program)

/-- How a program ends: all calls with their replies, and what is in scope. -/
structure Outcome where
  log : List (Request × Option Reply)
  workspace : Workspace

/-- A program as a client, given the calls made so far. -/
def Program.client : Program → Workspace → List (Request × Option Reply) → Client Outcome
  | .done, ws, log => .done ⟨log, ws⟩
  | .call request next, ws, log =>
    match request.perform ws with
    | none => (next none).client ws (log ++ [(request, none)])
    | some work => (work.recording ws.issued).bind fun ((reply, after), issued) =>
        (next (some reply)).client { after with issued } (log ++ [(request, some reply)])

end DeviceArrays
