import DeviceArrays.Proofs.Effect
import DeviceArrays.Proofs.Kernel.Lookups
import DeviceArrays.Proofs.Queue.Drain

/-!
# Lifetimes of buffers

A journal is kept beside a memory: which buffers were allocated, with what size, and which were
freed. Whatever calls were made and however they ended, the live buffers are those allocated and
not freed, of the sizes they were allocated with. A call on any other buffer fails and changes
nothing; done by a stream, its failure is kept there.
-/
namespace DeviceArrays

/-! ### Calls on a memory -/

/-- A call on the memory of a device. -/
inductive MemoryCall
  | allocate (size : Nat)
  | free (b : BufferId)
  | copyIn (b : BufferId) (data : Bytes)
  | copyOut (b : BufferId) (count : Nat)
  | length (b : BufferId)
  | read (t : ElementType) (b : BufferId) (count : Nat)
  | write (t : ElementType) (b : BufferId) (offset : Nat) (values : List (Element t))
  | launch (kernel : ElementwiseKernel) (arguments : List Argument)

namespace MemoryCall

def Reply : MemoryCall → Type
  | .allocate _ => BufferId
  | .copyOut .. => Bytes
  | .length _ => Nat
  | .read t .. => List (Element t)
  | .free _ | .copyIn .. | .write .. | .launch .. => Unit

/-- The answer to a call and the memory after it. -/
def perform (m : Memory) : (c : MemoryCall) → Attempt (c.Reply × Memory)
  | .allocate size => (Attempt.reserve size 1).map fun _ => (m.allocate size).swap
  | .free b => (Attempt.ofAnswer (m.free b)).map ((), ·)
  | .copyIn b data => (Attempt.ofAnswer (m.copyIn b data)).map ((), ·)
  | .copyOut b count => (Attempt.ofAnswer (m.copyOut b count)).map (·, m)
  | .length b => (Attempt.ofAnswer (m.size b)).map (·, m)
  | .read t b count => (m.readElements t b count).map (·, m)
  | .write _ b offset values => (m.writeElements b offset values).map ((), ·)
  | .launch kernel arguments => (kernel.run m arguments).map ((), ·)

/-- The memory after a call that fails. Only an allocation has done anything by then. -/
def left (m : Memory) : MemoryCall → Memory
  | .allocate _ => m.skip
  | _ => m

/-- The call is about buffer `b`, or passes it to a kernel. -/
def Names (b : BufferId) : MemoryCall → Prop
  | .allocate _ => False
  | .free c | .copyIn c _ | .copyOut c _ | .length c | .read _ c _ | .write _ c _ _ => c = b
  | .launch _ arguments => .buffer b ∈ arguments

def IsLaunch : MemoryCall → Prop
  | .launch .. => True
  | _ => False

/-- The buffers a call that was answered has handed out, with their sizes. -/
def handed : (c : MemoryCall) → c.Reply → List (BufferId × Nat)
  | .allocate size, b => [(b, size)]
  | _, _ => []

/-- The buffers a call that was answered has freed. -/
def dropped : MemoryCall → List BufferId
  | .free b => [b]
  | _ => []

/-- What an answered call has done to the set of live buffers. -/
inductive Turnover (m : Memory) : List (BufferId × Nat) → List BufferId → Memory → Prop
  | allocated (size : Nat) : Turnover m [(m.next, size)] [] (m.grow size)
  | freed {b : BufferId} {n : Nat} (live : m.size? b = some n) : Turnover m [] [b] (m.put b none)
  | kept {after : Memory} (same : after.sizes = m.sizes) : Turnover m [] [] after

theorem exists_of_map {α β : Type} {x : Attempt α} {f : α → β} {b : β} (h : x.map f = .ok b) :
    ∃ a, x = .ok a ∧ f a = b := by
  cases x with
  | error fault => cases h
  | ok a => exact ⟨a, rfl, Except.ok.inj h⟩

theorem eq_ok_of_answer {α : Type} {x : Except DeviceError α} {a : α}
    (h : Attempt.ofAnswer x = .ok a) : x = .ok a := by
  cases x with
  | error e => cases h
  | ok b =>
    cases h
    rfl

/-- A call on a buffer leaves memory as it is when it fails. -/
theorem left_of_names {c : MemoryCall} {b : BufferId} (named : c.Names b) (m : Memory) :
    c.left m = m := by
  cases c with
  | allocate size => cases named
  | _ => rfl

theorem allocate_cases {m after : Memory} {size : Nat} {b : BufferId}
    (h : (allocate size).perform m = .ok (b, after)) :
    size ≤ largestAllocation ∧ b = m.next ∧ after = m.grow size := by
  obtain ⟨_, possible, rest⟩ := exists_of_map h
  cases rest
  refine ⟨?_, rfl, rfl⟩
  unfold Attempt.reserve at possible
  split at possible
  case isTrue bounded => rwa [Nat.mul_one] at bounded
  case isFalse => cases possible

theorem turnover_of_perform {m after : Memory} {c : MemoryCall} {reply : c.Reply}
    (h : c.perform m = .ok (reply, after)) : Turnover m (c.handed reply) c.dropped after := by
  cases c with
  | allocate size =>
    obtain ⟨_, rfl, rfl⟩ := allocate_cases h
    exact .allocated size
  | free b =>
    obtain ⟨_, answered, rest⟩ := exists_of_map h
    cases rest
    obtain ⟨⟨bytes, live⟩, rfl⟩ := Memory.free_cases (eq_ok_of_answer answered)
    exact .freed (Memory.size?_of_contents? live)
  | copyIn b data =>
    obtain ⟨_, answered, rest⟩ := exists_of_map h
    cases rest
    exact .kept (Memory.sizes_copyIn (eq_ok_of_answer answered))
  | copyOut b count =>
    obtain ⟨_, _, rest⟩ := exists_of_map h
    cases rest
    exact .kept rfl
  | length b =>
    obtain ⟨_, _, rest⟩ := exists_of_map h
    cases rest
    exact .kept rfl
  | read t b count =>
    obtain ⟨_, _, rest⟩ := exists_of_map h
    cases rest
    exact .kept rfl
  | write t b offset values =>
    obtain ⟨_, written, rest⟩ := exists_of_map h
    cases rest
    exact .kept (Memory.sizes_writeElements written)
  | launch kernel arguments =>
    obtain ⟨_, ran, rest⟩ := exists_of_map h
    cases rest
    exact .kept (ElementwiseKernel.sizes_run ran)

/-- A call on a buffer that is not live fails. Only a launch may have met another fault before. -/
theorem perform_stale {m : Memory} {b : BufferId} (stale : m.contents? b = none) {c : MemoryCall}
    (named : c.Names b) :
    ∃ fault, c.perform m = .error fault ∧ (¬ c.IsLaunch → fault = .error (.unknownBuffer b)) := by
  have unknown : m.contents b = .error (.unknownBuffer b) := by simp [Memory.contents, stale]
  cases c with
  | allocate size => cases named
  | free b =>
    cases named
    refine ⟨_, ?_, fun _ => rfl⟩
    simp only [perform, Memory.free, unknown]
    rfl
  | launch kernel arguments =>
    cases ran : kernel.run m arguments with
    | error fault => exact ⟨fault, by rw [perform, ran]; rfl, fun other => absurd trivial other⟩
    | ok after =>
      obtain ⟨bytes, live⟩ := ElementwiseKernel.live_of_run ran named
      rw [stale] at live
      cases live
  | _ =>
    cases named
    refine ⟨_, ?_, fun _ => rfl⟩
    simp only [perform, Memory.copyIn, Memory.copyOut, Memory.size, Memory.readElements,
      Memory.writeElements, unknown]
    rfl

end MemoryCall

/-! ### Journals -/

/-- A memory, every buffer that was allocated in it with its size, and those that were freed. -/
structure Journal where
  memory : Memory
  allocated : List (BufferId × Nat)
  freed : List BufferId

namespace Journal

def empty : Journal := ⟨.empty, [], []⟩

/-- The journal after one more call. -/
def enter (j : Journal) (c : MemoryCall) : Journal :=
  match c.perform j.memory with
  | .error _ => { j with memory := c.left j.memory }
  | .ok (reply, memory) => ⟨memory, j.allocated ++ c.handed reply, j.freed ++ c.dropped⟩

/-- The journal of a memory that was empty at first. -/
def after (calls : List MemoryCall) : Journal := calls.foldl enter empty

/-- A buffer that was freed, or that no call has allocated yet. -/
def Stale (j : Journal) (b : BufferId) : Prop := b ∈ j.freed ∨ ∀ n, (b, n) ∉ j.allocated

/-- A journal that tells what its memory holds. -/
structure Faithful (j : Journal) : Prop where
  distinct : (j.allocated.map Prod.fst).Nodup
  issued : ∀ b ∈ j.allocated.map Prod.fst, j.memory.Issued b
  freed : ∀ b ∈ j.freed, j.memory.Issued b
  live : ∀ b n, j.memory.size? b = some n ↔ (b, n) ∈ j.allocated ∧ b ∉ j.freed

variable {j : Journal}

theorem faithful_empty : empty.Faithful where
  distinct := List.nodup_nil
  issued b member := by cases member
  freed b member := by cases member
  live b n := by
    obtain ⟨_ | slot⟩ := b <;> simp [empty, Memory.size?, Memory.contents?, Memory.empty]

theorem Faithful.turnover (h : j.Faithful) {handed : List (BufferId × Nat)}
    {dropped : List BufferId} {memory : Memory}
    (turnover : MemoryCall.Turnover j.memory handed dropped memory) :
    Faithful ⟨memory, j.allocated ++ handed, j.freed ++ dropped⟩ := by
  cases turnover with
  | allocated size =>
    have unknown : j.memory.next ∉ j.allocated.map Prod.fst := fun member =>
      j.memory.not_issued_next (h.issued _ member)
    have unfreed : j.memory.next ∉ j.freed := fun member =>
      j.memory.not_issued_next (h.freed _ member)
    refine ⟨?_, fun b member => ?_, fun b member => ?_, fun b n => ?_⟩
    · rw [List.map_append, List.nodup_append]
      refine ⟨h.distinct, List.nodup_cons.mpr ⟨List.not_mem_nil, .nil⟩, fun b old c new same => ?_⟩
      rw [same, List.mem_singleton.mp new] at old
      exact unknown old
    · rw [Memory.issued_grow_iff]
      rw [List.map_append] at member
      obtain old | new := List.mem_append.mp member
      · exact .inl (h.issued b old)
      · exact .inr (List.mem_singleton.mp new)
    · rw [List.append_nil] at member
      exact (h.freed b member).grow size
    · rw [Memory.size?_grow, List.append_nil, List.mem_append, List.mem_singleton, Prod.mk.injEq]
      split
      case isTrue same =>
        subst same
        have absent : (j.memory.next, n) ∉ j.allocated := fun member =>
          unknown (List.mem_map_of_mem member)
        simp [absent, unfreed, eq_comm]
      case isFalse other => simp [other, h.live]
  | @freed b n live =>
    simp only [List.append_nil]
    refine ⟨h.distinct, fun c member => ?_, fun c member => ?_, fun c k => ?_⟩
    · rw [Memory.issued_put]
      exact h.issued c member
    · rw [Memory.issued_put]
      obtain old | new := List.mem_append.mp member
      · exact h.freed c old
      · rw [List.mem_singleton.mp new]
        exact Memory.issued_of_size? live
    · rw [Memory.size?_put live, List.mem_append, List.mem_singleton]
      split
      case isTrue same => simp [same]
      case isFalse other => simp [other, h.live]
  | kept same =>
    simp only [List.append_nil]
    refine ⟨h.distinct, fun b member => ?_, fun b member => ?_, fun b n => ?_⟩
    · rw [Memory.issued_congr same]
      exact h.issued b member
    · rw [Memory.issued_congr same]
      exact h.freed b member
    · rw [Memory.size?_congr same]
      exact h.live b n

/-- An identifier that was used up in vain belongs to no buffer. -/
theorem Faithful.left (h : j.Faithful) (c : MemoryCall) :
    Faithful { j with memory := c.left j.memory } := by
  cases c with
  | allocate size =>
    refine ⟨h.distinct, fun b member => (h.issued b member).skip,
      fun b member => (h.freed b member).skip, fun b n => ?_⟩
    rw [MemoryCall.left, Memory.size?_skip]
    exact h.live b n
  | _ => exact h

theorem Faithful.enter (h : j.Faithful) (c : MemoryCall) : (j.enter c).Faithful := by
  unfold Journal.enter
  split
  case h_1 => exact h.left c
  case h_2 reply memory performed => exact h.turnover (MemoryCall.turnover_of_perform performed)

/-- A journal only grows. -/
def Extends (j k : Journal) : Prop := j.allocated <+: k.allocated ∧ j.freed <+: k.freed

theorem extends_enter (j : Journal) (c : MemoryCall) : j.Extends (j.enter c) := by
  unfold enter
  split
  case h_1 => exact ⟨List.prefix_rfl, List.prefix_rfl⟩
  case h_2 => exact ⟨List.prefix_append _ _, List.prefix_append _ _⟩

theorem extends_foldl (j : Journal) (calls : List MemoryCall) :
    j.Extends (calls.foldl enter j) := by
  induction calls generalizing j with
  | nil => exact ⟨List.prefix_rfl, List.prefix_rfl⟩
  | cons c calls ih =>
    obtain ⟨allocated, freed⟩ := extends_enter j c
    obtain ⟨more, others⟩ := ih (j.enter c)
    exact ⟨allocated.trans more, freed.trans others⟩

/-- However the calls ended, their journal is faithful. -/
theorem faithful_after (calls : List MemoryCall) : (after calls).Faithful := by
  refine List.foldlRecOn (motive := Faithful) calls enter faithful_empty ?_
  exact fun j h c _ => h.enter c

/-- What was allocated could be had. -/
theorem le_of_allocated_after {calls : List MemoryCall} {b : BufferId} {n : Nat}
    (h : (b, n) ∈ (after calls).allocated) : n ≤ largestAllocation := by
  refine List.foldlRecOn
    (motive := fun j : Journal => (b, n) ∈ j.allocated → n ≤ largestAllocation) calls enter
    (fun given => by cases given) (fun j earlier c made given => ?_) h
  unfold enter at given
  split at given
  case h_1 => exact earlier given
  case h_2 reply memory performed =>
    obtain old | new := List.mem_append.mp given
    · exact earlier old
    · cases c with
      | allocate size =>
        obtain ⟨possible, _⟩ := MemoryCall.allocate_cases performed
        cases List.mem_singleton.mp new
        exact possible
      | _ => cases new

/-- A memory fits in the address space, whatever was asked of it. -/
theorem addressable_after (calls : List MemoryCall) : (after calls).memory.Addressable :=
  fun b n live => le_of_allocated_after (((faithful_after calls).live b n).mp live).1

theorem Faithful.stale (h : j.Faithful) {b : BufferId} (stale : j.Stale b) :
    j.memory.contents? b = none := by
  cases live : j.memory.contents? b with
  | none => rfl
  | some bytes =>
    obtain ⟨allocated, unfreed⟩ := (h.live b _).mp (Memory.size?_of_contents? live)
    obtain freed | never := stale
    · exact absurd freed unfreed
    · exact absurd allocated (never _)

theorem enter_of_error {c : MemoryCall} {fault : Fault} {b : BufferId} (named : c.Names b)
    (h : c.perform j.memory = .error fault) : j.enter c = j := by
  rw [enter, h, MemoryCall.left_of_names named]

end Journal

/-! ### Commands of streams -/

namespace Command

/-- How errors call the work of a command, unless a kernel names it. -/
def work? : Command → Option String
  | .copyToDevice .. => some "copy to device"
  | .copyToHost .. => some "copy to host"
  | .release _ => some "release"
  | .launch .. | .fence => none

/-- A command on a buffer that is not live fails. -/
theorem run_stale {s : Surroundings} {b : BufferId} (stale : s.memory.contents? b = none)
    {c : Command} (elementwise : c.IsElementwise) (named : b ∈ c.buffers) :
    ∃ e, c.run s = (s, some e) ∧ ∀ work, c.work? = some work → e = .useAfterFree work b := by
  have unknown : s.memory.contents b = .error (.unknownBuffer b) := by
    simp [Memory.contents, stale]
  cases c with
  | copyToDevice x bytes =>
    cases List.mem_singleton.mp named
    refine ⟨.useAfterFree "copy to device" b, ?_, fun _ same => by cases same; rfl⟩
    simp only [run, perform, Memory.copyIn, unknown]
    rfl
  | copyToHost x store =>
    cases List.mem_singleton.mp named
    refine ⟨.useAfterFree "copy to host" b, ?_, fun _ same => by cases same; rfl⟩
    simp only [run, perform, Memory.copyOut, unknown]
    rfl
  | launch kernel arguments =>
    obtain ⟨k, rfl⟩ := elementwise
    obtain ⟨argument, passed, is_buffer⟩ := List.mem_filterMap.mp named
    have same : argument = .buffer b := by
      cases argument <;> cases is_buffer
      rfl
    subst same
    obtain ⟨e, failed⟩ | ⟨effect, _⟩ := (launch k.toKernel arguments).run_cases s
    · exact ⟨e, failed, fun _ other => by cases other⟩
    · generalize ((launch k.toKernel arguments).run s).1 = after at effect
      cases effect with
      | launch ran =>
        obtain ⟨bytes, live⟩ := ElementwiseKernel.live_of_run ran passed
        rw [stale] at live
        cases live
  | release x =>
    cases List.mem_singleton.mp named
    refine ⟨.useAfterFree "release" b, ?_, fun _ same => by cases same; rfl⟩
    simp only [run, perform, Memory.free, unknown]
    rfl
  | fence => cases named

end Command

/-- Identifiers are handed out once and sizes stay, be it that an allocation has crashed and used up
one. Once a buffer is freed, or as long as it was not allocated, every use of it fails and changes
nothing, whatever has been allocated since. -/
theorem stale_buffers_refused (calls more : List MemoryCall) :
    let earlier := Journal.after calls
    let j := Journal.after (calls ++ more)
    earlier.Extends j ∧ (j.allocated.map Prod.fst).Nodup ∧
      (∀ b n, j.memory.size? b = some n ↔ (b, n) ∈ j.allocated ∧ b ∉ j.freed) ∧
      ∀ b, j.Stale b →
        (∀ c : MemoryCall, c.Names b → ∃ fault, c.perform j.memory = .error fault ∧
          j.enter c = j ∧ (¬ c.IsLaunch → fault = .error (.unknownBuffer b))) ∧
        ∀ (c : Command) (stores : List Bytes), c.IsElementwise → b ∈ c.buffers →
          let s : Surroundings := ⟨j.memory, stores⟩
          ∃ e, c.run s = (s, some e) ∧
            (∀ work, c.work? = some work → e = .useAfterFree work b) ∧
            ∀ n failure, ((Queue.rested n failure).push c).drain Command.run s =
              (Queue.rested (n + 1) (failure.or (some e)), s) := by
  intro earlier j
  have faithful : j.Faithful := Journal.faithful_after (calls ++ more)
  refine ⟨?_, faithful.distinct, faithful.live, fun b stale => ⟨fun c named => ?_, ?_⟩⟩
  · show earlier.Extends (Journal.after (calls ++ more))
    rw [Journal.after, List.foldl_append]
    exact Journal.extends_foldl earlier more
  · obtain ⟨fault, failed, unknown⟩ := MemoryCall.perform_stale (faithful.stale stale) named
    exact ⟨fault, failed, Journal.enter_of_error named failed, unknown⟩
  · intro c stores elementwise named s
    have missing : s.memory.contents? b = none := faithful.stale stale
    obtain ⟨e, failed, surfaces⟩ := Command.run_stale missing elementwise named
    refine ⟨e, failed, surfaces, fun n failure => ?_⟩
    rw [Queue.drain_push_rested, failed]

/-- A buffer is freed and another of the same size allocated: the old identifier does not reach the
new buffer, not even by a kernel that is to fill none of its elements. -/
theorem freed_buffer_stays_refused :
    let j := Journal.after ([.allocate 2, .free ⟨1⟩] ++ [.allocate 2])
    j.Stale ⟨1⟩ ∧ j.memory.size? ⟨2⟩ = some 2 ∧
      (∃ fault, MemoryCall.perform j.memory (.free ⟨1⟩) = .error fault ∧
        fault = .error (.unknownBuffer ⟨1⟩)) ∧
      ∃ fault, MemoryCall.perform j.memory (.launch .fill
        [.ofType (.unsigned .w8), .count 0, .buffer ⟨1⟩, .scalar ⟨.unsigned .w8, 0⟩]) =
          .error fault := by
  intro j
  have stale : j.Stale ⟨1⟩ := .inl (.head _)
  obtain ⟨_, _, live, refused⟩ := stale_buffers_refused [.allocate 2, .free ⟨1⟩] [.allocate 2]
  obtain ⟨calls, _⟩ := refused ⟨1⟩ stale
  refine ⟨stale, (live ⟨2⟩ 2).mpr ⟨.tail _ (.head _), by decide⟩, ?_, ?_⟩
  · obtain ⟨fault, failed, _, unknown⟩ := calls (.free ⟨1⟩) rfl
    exact ⟨fault, failed, unknown id⟩
  · obtain ⟨fault, failed, _, _⟩ := calls (.launch .fill _) (.tail _ (.tail _ (.head _)))
    exact ⟨fault, failed⟩

end DeviceArrays
