/-!
# Command queues

A queue numbers the commands given to it and hands them to one worker in that order. The first
failure since the last look is kept until somebody takes it; later ones are dropped. `Queue.step`
is the worker's next move, and `Queue.drain` makes moves until none is left.
-/
namespace DeviceArrays

/-- What the worker of a queue is at: nothing, a command it fetched, the outcome of a command it
has not reported yet, or its end. -/
inductive Worker (κ ε : Type)
  | idle
  | holding (sequence : Nat) (command : κ)
  | finished (sequence : Nat) (failure : Option ε)
  | stopped

/-- Commands of type `κ` whose failures are of type `ε`. -/
structure Queue (κ ε : Type) where
  pending : List (Nat × κ)
  submitted : Nat
  completed : Nat
  worker : Worker κ ε
  failure : Option ε
  closing : Bool

namespace Queue

variable {κ ε σ : Type}

def empty : Queue κ ε where
  pending := []
  submitted := 0
  completed := 0
  worker := .idle
  failure := none
  closing := false

/-- Appends a command and gives its number, unless the queue is closing. -/
def submit (q : Queue κ ε) (command : κ) : Option (Nat × Queue κ ε) :=
  if q.closing then none
  else
    let sequence := q.submitted + 1
    some (sequence,
      { q with pending := q.pending ++ [(sequence, command)], submitted := sequence })

/-- Whether a command and all before it are done. -/
def isDone (q : Queue κ ε) (sequence : Nat) : Bool := sequence ≤ q.completed

/-- Whether the worker has ended. -/
def hasStopped (q : Queue κ ε) : Bool :=
  match q.worker with
  | .stopped => true
  | _ => false

theorem hasStopped_iff {q : Queue κ ε} : q.hasStopped = true ↔ q.worker = .stopped := by
  unfold hasStopped
  cases q.worker <;> simp

/-- Takes the failure that is kept. -/
def takeFailure (q : Queue κ ε) : Option ε × Queue κ ε := (q.failure, { q with failure := none })

/-- No more commands will come; the worker ends once it has done those it has. -/
def close (q : Queue κ ε) : Queue κ ε := { q with closing := true }

/-- The worker's next move, given what a command does to the state it acts on. -/
def step (run : κ → σ → σ × Option ε) (q : Queue κ ε) (s : σ) : Option (Queue κ ε × σ) :=
  match q.worker with
  | .idle =>
    match q.pending with
    | (sequence, command) :: rest =>
      some ({ q with pending := rest, worker := .holding sequence command }, s)
    | [] => if q.closing then some ({ q with worker := .stopped }, s) else none
  | .holding sequence command =>
    let (after, failure) := run command s
    some ({ q with worker := .finished sequence failure }, after)
  | .finished sequence failure =>
    some ({ q with worker := .idle, completed := sequence, failure := q.failure <|> failure }, s)
  | .stopped => none

/-- Whether the worker has no move: it has ended, or it waits for a command that may still come. -/
def rests (q : Queue κ ε) : Bool :=
  match q.worker with
  | .idle => q.pending.isEmpty && !q.closing
  | .holding _ _ => false
  | .finished _ _ => false
  | .stopped => true

theorem rests_iff_step_eq_none {run : κ → σ → σ × Option ε} {q : Queue κ ε} {s : σ} :
    q.rests = true ↔ q.step run s = none := by
  unfold rests step
  cases q.worker with
  | idle => cases q.pending <;> cases q.closing <;> simp
  | holding sequence command => simp
  | finished sequence failure => simp
  | stopped => simp

/-- The number of moves the worker still has at most. -/
def remaining (q : Queue κ ε) : Nat :=
  match q.worker with
  | .idle => 3 * q.pending.length + 1
  | .holding _ _ => 3 * q.pending.length + 3
  | .finished _ _ => 3 * q.pending.length + 2
  | .stopped => 0

theorem remaining_step {run : κ → σ → σ × Option ε} {q after : Queue κ ε} {s t : σ}
    (h : q.step run s = some (after, t)) : after.remaining < q.remaining := by
  unfold step at h
  split at h
  case h_1 idle =>
    split at h
    case h_1 sequence command rest pending =>
      cases h
      simp [remaining, idle, pending]
      omega
    case h_2 pending =>
      split at h
      · cases h
        simp [remaining, idle]
      · cases h
  case h_2 sequence command holding =>
    cases h
    simp [remaining, holding]
  case h_3 sequence failure finished =>
    cases h
    simp [remaining, finished]
  case h_4 => cases h

/-- Lets the worker move until it rests. -/
def drain (run : κ → σ → σ × Option ε) (q : Queue κ ε) (s : σ) : Queue κ ε × σ :=
  match _h : q.step run s with
  | some (after, t) => drain run after t
  | none => (q, s)
  termination_by q.remaining
  decreasing_by exact remaining_step _h

theorem drain_of_rests {run : κ → σ → σ × Option ε} {q : Queue κ ε} {s : σ}
    (resting : q.rests = true) : q.drain run s = (q, s) := by
  rw [drain]
  split
  case h_1 after t moved =>
    rw [rests_iff_step_eq_none.mp resting] at moved
    cases moved
  case h_2 => rfl

/-- A drained queue rests. -/
theorem rests_drain (run : κ → σ → σ × Option ε) (q : Queue κ ε) (s : σ) :
    (q.drain run s).1.rests = true := by
  fun_induction drain run q s with
  | case1 q s after t _ ih => exact ih
  | case2 q s stuck => exact rests_iff_step_eq_none.mpr stuck

end Queue

end DeviceArrays
