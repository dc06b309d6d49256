import DeviceArrays.Client

/-!
# Schedules

Clients and the workers of all streams move in turns, in any order. A move is the next action of
some client, which may have to wait, or one step of some stream's worker.
-/
namespace DeviceArrays

variable {α : Type}

/-- What is left of each client's program, and the world they meet. -/
structure Situation (α : Type) where
  clients : List (Client α)
  world : World

/-- One move, of a client or of a worker. -/
inductive Move : Situation α → Situation α → Prop
  | client {clients : List (Client α)} {w : World} {action : Action}
      {next : action.Reply → Client α} (i : Nat) (turn : clients[i]? = some (.act action next))
      (enabled : action.enabled w) :
      Move ⟨clients, w⟩ ⟨clients.set i (next (action.perform w).1), (action.perform w).2⟩
  | worker {clients : List (Client α)} {w after : World} (stream : Nat)
      (served : w.serve stream = some after) :
      Move ⟨clients, w⟩ ⟨clients, after⟩

/-- What some moves lead to. -/
inductive Reaches : Situation α → Situation α → Prop
  | here (s : Situation α) : Reaches s s
  | step {s t u : Situation α} (move : Move s t) (later : Reaches t u) : Reaches s u

theorem Reaches.trans {s t u : Situation α} (first : Reaches s t) (later : Reaches t u) :
    Reaches s u := by
  induction first with
  | here => exact later
  | step move _ ih => exact .step move (ih later)

end DeviceArrays
