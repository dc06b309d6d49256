import DeviceArrays.Proofs.Program.Orderly
import DeviceArrays.Proofs.Several.Storage
import DeviceArrays.Proofs.Several.Traces

/-!
# Buffers stay on their device

Every device numbers its buffers from one, so the number of a buffer of one device may be that of
another buffer elsewhere. No program ever submits such a number to a stream of another device:
what its notes say of streams and buffers is true of the world, whatever other programs do there.
-/
namespace DeviceArrays

variable {α : Type} {K : Notes} {w after : World} {trace : List Moment} {state : StreamState}

/-- The buffers that a move hands out, with their devices. -/
def Moment.handed (m : Moment) : List Holding :=
  match m.mover with
  | .client _ action => (action.handed (action.perform m.world).1).map fun (d, b) => ⟨d, b⟩
  | .worker _ => []

/-- The buffers that allocations have returned, with their devices. -/
def allocations (trace : List Moment) : List Holding := trace.flatMap Moment.handed

@[simp] theorem allocations_append (trace more : List Moment) :
    allocations (trace ++ more) = allocations trace ++ allocations more := List.flatMap_append

@[simp] theorem allocations_singleton (m : Moment) : allocations [m] = m.handed := by
  simp [allocations]

/-- What a client has noted of streams and buffers is so. -/
structure Notes.Correct (K : Notes) (w : World) (trace : List Moment) : Prop where
  streams : ∀ stream device, (stream, device) ∈ K.streams →
    ∃ state, w.streams[stream]? = some state ∧ state.device = device
  buffers : K.buffers ⊆ allocations trace

namespace Notes.Correct

theorem empty : Notes.empty.Correct w trace := ⟨nofun, nofun⟩

/-- It stays so whatever somebody else does. -/
theorem act (correct : K.Correct w trace) (j : Nat) (action : Action) :
    K.Correct (action.perform w).2 (trace ++ [⟨w, .client j action⟩]) where
  streams stream device noted := by
    obtain ⟨state, found, same⟩ := correct.streams stream device noted
    obtain ⟨next, there, kept⟩ := World.device_perform found action
    exact ⟨next, there, kept.trans same⟩
  buffers h noted := by simp [correct.buffers noted]

theorem serve (correct : K.Correct w trace) {stream : Nat} (served : w.serve stream = some after) :
    K.Correct after (trace ++ [⟨w, .worker stream⟩]) where
  streams stream device noted := by
    obtain ⟨state, found, same⟩ := correct.streams stream device noted
    obtain ⟨next, there, kept⟩ := World.device_serve found served
    exact ⟨next, there, kept.trans same⟩
  buffers h noted := by simp [correct.buffers noted]

/-- What the client notes of the answer to an action of its own is so too. -/
theorem next (correct : K.Correct w trace) (j : Nat) (action : Action) :
    (K.next action (action.perform w).1).Correct (action.perform w).2
      (trace ++ [⟨w, .client j action⟩]) := by
  have kept := correct.act j action
  cases action with
  | openStream device =>
    refine ⟨fun stream d noted => ?_, kept.buffers⟩
    obtain new | old := List.mem_cons.mp noted
    · cases new
      exact ⟨⟨device, .empty⟩, List.getElem?_concat_length, rfl⟩
    · exact kept.streams stream d old
  | allocate device size =>
    refine ⟨kept.streams, fun h noted => ?_⟩
    obtain rfl | old := List.mem_cons.mp noted
    · simp [Moment.handed, Action.handed]
    · exact kept.buffers old
  | _ => exact ⟨kept.streams, kept.buffers⟩

end Notes.Correct

/-- Every client is orderly, going by notes that are so, and every command submitted so far named
only buffers of its stream's device. -/
structure Situation.Charted (t : Situation α) (trace : List Moment) (Q : α → Notes → Prop) : Prop
    where
  clients : ∀ (j : Nat) (c : Client α), t.clients[j]? = some c →
    ∃ K, c.Orderly True K Q ∧ K.Correct t.world trace
  domestic : ∀ before w j stream c after,
    trace = before ++ ⟨w, .client j (.submit stream c)⟩ :: after →
      ∃ state, w.streams[stream]? = some state ∧
        ∀ b ∈ c.buffers, ⟨state.device, b⟩ ∈ allocations before

namespace Situation.Charted

variable {clients : List (Client α)} {Q : α → Notes → Prop}

theorem act (charted : Charted ⟨clients, w⟩ trace Q) {action : Action}
    {next : action.Reply → Client α} {j : Nat} (turn : clients[j]? = some (.act action next)) :
    Charted ⟨clients.set j (next (action.perform w).1), (action.perform w).2⟩
      (trace ++ [⟨w, .client j action⟩]) Q := by
  obtain ⟨K, ⟨allowed, orderly⟩, correct⟩ := charted.clients j _ turn
  constructor
  case clients =>
    intro i c there
    -- The mover goes by what it notes of the answer, the others by what they have noted before.
    by_cases own : i = j
    · subst own
      have inside := (List.getElem?_eq_some_iff.mp turn).1
      rw [List.getElem?_set_self inside] at there
      cases there
      exact ⟨_, orderly _, correct.next i action⟩
    · rw [List.getElem?_set_ne (Ne.symm own)] at there
      obtain ⟨M, other, right⟩ := charted.clients i c there
      exact ⟨M, other, right.act j action⟩
  case domestic =>
    intro before u i stream c after same
    obtain ⟨rfl, new, rfl⟩ | ⟨rest, rfl, rfl⟩ := Queue.eq_concat_cases same
    · cases new
      obtain ⟨device, noted, named⟩ := allowed trivial
      obtain ⟨state, found, rfl⟩ := correct.streams stream device noted
      exact ⟨state, found, fun b member => correct.buffers (named b member)⟩
    · exact charted.domestic before u i stream c rest rfl

theorem serve (charted : Charted ⟨clients, w⟩ trace Q) {stream : Nat}
    (served : w.serve stream = some after) :
    Charted ⟨clients, after⟩ (trace ++ [⟨w, .worker stream⟩]) Q := by
  constructor
  case clients =>
    intro i c there
    obtain ⟨K, orderly, correct⟩ := charted.clients i c there
    exact ⟨K, orderly, correct.serve served⟩
  case domestic =>
    intro before u i s c late same
    obtain ⟨_, new, _⟩ | ⟨rest, rfl, rfl⟩ := Queue.eq_concat_cases same
    · cases new
    · exact charted.domestic before u i s c rest rfl

end Situation.Charted

theorem ReachesBy.charted {start t : Situation α} {Q : α → Notes → Prop}
    (h : ReachesBy start t trace) (charted : start.Charted [] Q) : t.Charted trace Q := by
  induction h with
  | here => exact charted
  | client earlier j turn enabled ih => exact ih.act turn
  | worker earlier stream served ih => exact ih.serve served

/-- In every state that programs of array calls can reach side by side, over any devices and
streams, with any kernels and whatever the indices of the devices are, every command submitted so
far named only buffers that allocations on its stream's device have returned. At the end of a
program, and so between any two calls of a longer one, the stream of every array in scope, and that
of its owner, is on the device that the array's buffer was allocated on. -/
theorem commands_stay_on_their_device {programs : List Program} {t : Situation Outcome}
    (reached : ReachesBy ⟨programs.map Program.fromNothing, .empty⟩ t trace) :
    (∀ before w j stream c after,
      trace = before ++ ⟨w, .client j (.submit stream c)⟩ :: after →
        ∃ state, w.streams[stream]? = some state ∧
          ∀ b ∈ c.buffers, ⟨state.device, b⟩ ∈ allocations before) ∧
      ∀ outcome, .done outcome ∈ t.clients → ∀ i a, outcome.workspace.array? i = some a →
        a.stream.device.number = a.device.number ∧
          a.root.stream.device.number = a.device.number ∧
            ⟨a.device.number, a.buffer⟩ ∈ allocations trace ∧
              ∃ state, t.world.streams[a.stream.number]? = some state ∧
                state.device = a.device.number := by
  have start : Situation.Charted ⟨programs.map Program.fromNothing, .empty⟩ []
      fun outcome K => outcome.workspace.Known K := by
    refine ⟨fun j c found => ?_, fun before _ _ _ _ _ same => ?_⟩
    · rw [List.getElem?_map] at found
      obtain ⟨p, _, rfl⟩ := Option.map_eq_some_iff.mp found
      exact ⟨.empty, Program.orderly_client Workspace.Known.empty, Notes.Correct.empty⟩
    · cases before <;> cases same
  have charted := reached.charted start
  refine ⟨charted.domestic, fun outcome ended i a found => ?_⟩
  obtain ⟨j, there⟩ := List.getElem?_of_mem ended
  obtain ⟨K, known, correct⟩ := charted.clients j _ there
  have holds : K.Holds a := known.arrays i a found
  obtain ⟨state, opened, same⟩ := correct.streams _ _ holds.stream
  exact ⟨holds.near, holds.root, correct.buffers holds.buffer, state, opened,
    same.trans holds.near⟩

/-- Opens two devices of one index, each with an array of its own, and tries to add them. -/
def twinDevices : Program :=
  .call (.openDevice ⟨0⟩ .standard) fun _ => .call (.openDevice ⟨0⟩ .standard) fun _ =>
    .call (.openStream 0 ⟨false, none⟩) fun _ => .call (.openStream 1 ⟨false, none⟩) fun _ =>
      .call (.build [2] (.signed .w8) .rowMajor (some 0) (some 0)) fun _ =>
        .call (.build [2] (.signed .w8) .rowMajor (some 1) (some 1)) fun _ =>
          .call (.binary 0 .add (.array 1)) fun _ => .call (.updateDevice 1) fun _ => .done

/-- What the program comes to after ten actions, with the moves it has made. -/
def twinDevicesRun : Situation Outcome × List Moment :=
  Situation.play ⟨[twinDevices].map Program.fromNothing, .empty⟩ [] (.replicate 10 (.client 0))

/-- The stream that a command is submitted to, and the buffers that it names. -/
def Moment.named (m : Moment) : Option (Nat × List BufferId) :=
  match m.mover with
  | .client _ (.submit stream c) => some (stream, c.buffers)
  | _ => none

theorem Moment.exists_of_named {m : Moment} {stream : Nat} {buffers : List BufferId}
    (named : m.named = some (stream, buffers)) :
    ∃ j c, m.mover = .client j (.submit stream c) ∧ c.buffers = buffers := by
  unfold Moment.named at named
  split at named
  case h_1 j s c submits =>
    cases named
    exact ⟨j, c, submits, rfl⟩
  case h_2 => cases named

/-- Both first buffers carry the same number. The operand of the other device is refused, and the
elements of the second array go to the buffer of the second device. -/
theorem twin_devices_stay_apart :
    ReachesBy ⟨[twinDevices].map Program.fromNothing, .empty⟩ twinDevicesRun.1
        twinDevicesRun.2 ∧
      ∃ before m, twinDevicesRun.2 = before ++ [m] ∧ m.named = some (1, [⟨1⟩]) ∧
        allocations before = [⟨0, ⟨1⟩⟩, ⟨1, ⟨1⟩⟩] ∧
          ∃ state, m.world.streams[1]? = some state ∧
            ⟨state.device, ⟨1⟩⟩ ∈ allocations before := by
  have reached : ReachesBy ⟨[twinDevices].map Program.fromNothing, .empty⟩ twinDevicesRun.1
      twinDevicesRun.2 := ReachesBy.here.play _
  have handed : allocations twinDevicesRun.2.dropLast = [⟨0, ⟨1⟩⟩, ⟨1, ⟨1⟩⟩] := by
    decide +kernel
  have last : twinDevicesRun.2.getLast?.bind Moment.named = some (1, [⟨1⟩]) := by decide +kernel
  obtain ⟨m, final, named⟩ := Option.bind_eq_some_iff.mp last
  have split := List.dropLast_append_getLast? m final
  obtain ⟨w, mover⟩ := m
  obtain ⟨j, c, rfl, buffers⟩ := Moment.exists_of_named named
  obtain ⟨domestic, _⟩ := commands_stay_on_their_device reached
  obtain ⟨state, opened, kept⟩ := domestic _ w j 1 c [] split.symm
  exact ⟨reached, _, _, split.symm, named, handed, state, opened, kept ⟨1⟩ (buffers ▸ .head _)⟩

end DeviceArrays
