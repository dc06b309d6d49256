import DeviceArrays.DeviceArray.Operators
import DeviceArrays.Proofs.Client.Streams
import DeviceArrays.Proofs.Memory.Sizes
import DeviceArrays.Proofs.Solo.Commands
import DeviceArrays.Proofs.Solo.World

/-!
# What calls do to a settled world

On a stream whose worker rests after every action, a call takes one settled world to another. The
rules below say which, and with what answer, for the calls that arrays are made of. A failure that
is kept stays until a call waits.
-/
namespace DeviceArrays

variable {α β : Type} {n k : Nat} {s t : Surroundings}

theorem Client.run_bind (c : Client α) (f : α → Client β) (w : World) :
    (c.bind f).run w = (f (c.run w).1).run (c.run w).2 := by
  induction c generalizing w with
  | done a => rfl
  | act action next ih => exact ih _ _

/-- The worker of the only stream at rest: how many commands were done, the failure that is kept,
and what commands act on. -/
structure Rest where
  submitted : Nat
  failure : Option Error
  around : Surroundings

namespace Rest

def world (x : Rest) : World := .solo (.rested x.submitted x.failure) x.around

/-- What commands act on is changed otherwise than by a command. -/
def adjust (x : Rest) (f : Surroundings → Surroundings) : Rest := { x with around := f x.around }

/-- One more command is done. -/
def run (x : Rest) (c : Command) : Rest :=
  ⟨x.submitted + 1, x.failure.or (c.run x.around).2, (c.run x.around).1⟩

/-- The failure is taken. -/
def taken (x : Rest) : Rest := { x with failure := none }

/-- A stream whose commands are all done stays as it is. -/
theorem settle_world (x : Rest) : x.world.settle = x.world := by
  rw [world, World.settle_solo, (Queue.quiet_rested _ _).drain_eq rfl]

/-- A command that succeeds is done, and no failure is added. -/
theorem run_of_perform {x : Rest} {c : Command} (h : c.perform x.around = .ok t) :
    x.run c = ⟨x.submitted + 1, x.failure, t⟩ := by
  rw [run, Command.run_of_perform h, Option.or_none]

end Rest

namespace Call

variable {x y z : Rest}

/-- Where the worker rests after every action, the call ends with an answer. -/
def Ends (c : Call α) (x : Rest) (answer : Except Error α) (y : Rest) : Prop :=
  Client.run c.run x.world = (answer, y.world)

/-- Where the worker rests after every action, the call ends with a result and no failure. -/
def Does (c : Call α) (n : Nat) (s : Surroundings) (a : α) (k : Nat) (t : Surroundings) : Prop :=
  Client.run c.run (.solo (.calm n) s) = (.ok a, .solo (.calm k) t)

theorem does_iff_ends {c : Call α} {a : α} :
    Does c n s a k t ↔ Ends c ⟨n, none, s⟩ (.ok a) ⟨k, none, t⟩ :=
  Iff.rfl

theorem Ends.bind {c : Call α} {f : α → Call β} {a : α} {answer : Except Error β}
    (first : Ends c x (.ok a) y) (later : Ends (f a) y answer z) : Ends (c >>= f) x answer z := by
  unfold Ends at first later ⊢
  refine (Client.run_bind _ _ _).trans ?_
  change (ExceptT.bindCont f (Client.run c.run _).1).run (Client.run c.run _).2 = _
  rw [first]
  exact later

/-- What comes after an error is not done. -/
theorem Ends.bind_error {c : Call α} {f : α → Call β} {e : Error} (h : Ends c x (.error e) y) :
    Ends (c >>= f) x (.error e) y := by
  unfold Ends at h ⊢
  refine (Client.run_bind _ _ _).trans ?_
  change (ExceptT.bindCont f (Client.run c.run _).1).run (Client.run c.run _).2 = _
  rw [h]
  rfl

theorem ends_pure (a : α) : Ends (pure a) x (.ok a) x := rfl

theorem ends_throw (e : Error) : Ends (throw e : Call α) x (.error e) x := rfl

theorem ends_check {r : Except Error α} {a : α} (passed : r = .ok a) :
    Ends (Call.check r) x (.ok a) x := by
  rw [passed]
  rfl

/-- A check that finds nothing wrong. -/
theorem ends_guard {p : Prop} [Decidable p] {e : Error} {f : β → Call α} {c : Call α}
    {answer : Except Error α} (passed : ¬ p) (rest : Ends c x answer y) :
    Ends (if p then throw e >>= f else c) x answer y := by
  rwa [if_neg passed]

/-- A check that finds something wrong. -/
theorem ends_refusal {p : Prop} [Decidable p] {e : Error} {f : β → Call α} {c : Call α}
    (refused : p) : Ends (if p then throw e >>= f else c) x (.error e) x := by
  rw [if_pos refused]
  exact (ends_throw e).bind_error

theorem ends_onError {cleanup : Client Unit} {body : Call α} {a : α} (h : Ends body x (.ok a) y) :
    Ends (Call.onError cleanup body) x (.ok a) y := by
  unfold Ends at h ⊢
  refine (Client.run_bind _ _ _).trans ?_
  rw [h]
  rfl

/-- After an error there is a clean-up. -/
theorem ends_onError_error {cleanup : Client Unit} {body : Call α} {e : Error}
    (h : Ends body x (.error e) y) (cleaned : cleanup.run y.world = ((), z.world)) :
    Ends (Call.onError cleanup body) x (.error e) z := by
  unfold Ends at h ⊢
  refine (Client.run_bind _ _ _).trans ?_
  rw [h]
  refine (Client.run_bind _ _ _).trans ?_
  rw [cleaned]
  rfl

theorem ends_lift {c : Client α} {a : α} (h : c.run x.world = (a, y.world)) :
    Ends (ExceptT.lift c) x (.ok a) y := by
  unfold Ends
  refine (Client.run_bind _ _ _).trans ?_
  rw [h]
  rfl

theorem ends_perform {action : Action} {reply : action.Reply} {w : World}
    (performed : action.perform x.world = (reply, w)) (settled : w.settle = y.world) :
    Ends (Call.perform action) x (.ok reply) y := by
  refine ends_lift ?_
  rw [Client.perform, Client.run, performed]
  simp only [Client.run, settled]

/-- An action that leaves the worker without work. -/
theorem ends_perform_rested {action : Action} {reply : action.Reply}
    (performed : action.perform x.world = (reply, y.world)) :
    Ends (Call.perform action) x (.ok reply) y :=
  ends_perform performed y.settle_world

end Call

open Call

variable {x : Rest}

namespace HostStore

theorem ends_create (size : Nat) :
    Ends (create size) x (.ok ⟨x.around.stores.length, size⟩)
      (x.adjust (·.restore (· ++ [.zeros size]))) :=
  ends_perform_rested rfl

theorem ends_bytes {store : HostStore} {bytes : Bytes}
    (found : x.around.stores[store.number]? = some bytes) : Ends store.bytes x (.ok bytes) x := by
  refine ends_perform_rested ?_
  simp [Action.perform, World.stored, Rest.world, World.solo, found]

theorem ends_write (store : HostStore) (data : Bytes) :
    Ends (store.write data) x (.ok ())
      (x.adjust (·.restore (·.modify store.number (·.splice 0 data)))) :=
  ends_perform_rested rfl

end HostStore

namespace Stream

variable {stream : Stream}

theorem ends_allocate (store : HostStore) (device : stream.device.number = 0) :
    Ends (stream.allocate store) x (.ok x.around.memory.next)
      (x.adjust (·.grow store.size)) := by
  unfold allocate
  rw [device]
  exact ends_perform_rested rfl

theorem ends_submit (c : Command) (only : stream.number = 0) :
    Ends (stream.submit c) x (.ok (x.submitted + 1)) (x.run c) := by
  have settled : (World.solo ((Queue.rested x.submitted x.failure).push c) x.around).settle =
      (x.run c).world := by
    rw [World.settle_solo, Queue.drain_push_rested]
    rfl
  unfold submit
  rw [only]
  have answered : Ends (Call.perform (.submit 0 c)) x (.ok (some (x.submitted + 1))) (x.run c) :=
    ends_perform rfl settled
  exact answered.bind (ends_pure _)

theorem ends_waitFor (sequence : Nat) (only : stream.number = 0) :
    Ends (stream.waitFor sequence) x (told x.failure) x.taken := by
  unfold waitFor
  rw [only]
  have awaited : Ends (Call.perform (.await 0 sequence)) x (.ok ()) x := ends_perform_rested rfl
  have taken : Ends (Call.perform (.takeFailure 0)) x (.ok x.failure) x.taken :=
    ends_perform_rested rfl
  refine awaited.bind (taken.bind ?_)
  cases x.failure with
  | none => exact ends_pure ()
  | some e => exact ends_throw e

theorem ends_release (b : BufferId) (only : stream.number = 0) :
    Ends (stream.release b) x (.ok ()) (x.run (.release b)) :=
  (ends_submit _ only).bind (ends_pure ())

theorem ends_copyToDevice {b : BufferId} {store : HostStore} {bytes : Bytes}
    (only : stream.number = 0) (found : x.around.stores[store.number]? = some bytes) :
    Ends (stream.copyToDevice b store) x (.ok ()) (x.run (.copyToDevice b bytes)) :=
  (HostStore.ends_bytes found).bind ((ends_submit _ only).bind (ends_pure ()))

theorem ends_copyToHost (b : BufferId) (store : HostStore) (only : stream.number = 0) :
    Ends (stream.copyToHost b store) x (.ok ()) (x.run (.copyToHost b store)) :=
  (ends_submit _ only).bind (ends_pure ())

/-- What a launch answers: a stream with blocking launches tells the failure that is kept. -/
def answer (stream : Stream) (failure : Option Error) : Except Error Unit :=
  if stream.options.blockingLaunches then told failure else .ok ()

/-- What a launch leaves: a stream with blocking launches takes the failure that is kept. -/
def leaves (stream : Stream) (x : Rest) : Rest :=
  if stream.options.blockingLaunches then x.taken else x

@[simp] theorem around_leaves (stream : Stream) (x : Rest) :
    (stream.leaves x).around = x.around := by
  unfold leaves
  split <;> rfl

theorem ends_launch (kernel : Kernel) (arguments : List Argument) (only : stream.number = 0) :
    Ends (stream.launch kernel arguments) x
      (stream.answer (x.run (.launch kernel arguments)).failure)
      (stream.leaves (x.run (.launch kernel arguments))) := by
  refine (ends_submit _ only).bind ?_
  unfold answer leaves
  split
  case isTrue => exact ends_waitFor _ only
  case isFalse => exact ends_pure ()

theorem does_launch {kernel : Kernel} {arguments : List Argument} {m : Memory}
    (only : stream.number = 0) (ran : kernel.run s.memory arguments = .ok m) :
    Does (stream.launch kernel arguments) n s () (n + 1) { s with memory := m } := by
  have performed : (Command.launch kernel arguments).perform s = .ok { s with memory := m } := by
    simp only [Command.perform, ran]
  have ends := ends_launch (x := ⟨n, none, s⟩) kernel arguments only
  rw [Rest.run_of_perform performed] at ends
  unfold answer leaves at ends
  split at ends <;> exact ends

theorem ends_synchronize (only : stream.number = 0) :
    Ends stream.synchronize x (told x.failure) ⟨x.submitted + 1, none, x.around⟩ := by
  have fence : x.run .fence = ⟨x.submitted + 1, x.failure, x.around⟩ := Rest.run_of_perform rfl
  exact (ends_submit _ only).bind (fence ▸ ends_waitFor _ only)

end Stream

end DeviceArrays
