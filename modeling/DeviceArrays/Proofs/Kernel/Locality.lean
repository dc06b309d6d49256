import DeviceArrays.Proofs.Effect
import DeviceArrays.Proofs.Kernel.Lookups
import DeviceArrays.Proofs.Kernel.Success

/-!
# Kernels are local

What comes of a kernel is determined by what the buffers it is given hold. In two memories that
agree on these it fails in one way, whatever is wrong with the call, or it puts the same bytes in
the same place.
-/
namespace DeviceArrays

namespace Memory

variable {α : Type} {m t : Memory} {buffers more : List BufferId} {b : BufferId}

/-- Some buffers hold the same bytes, or are not live, in both memories. -/
def AgreesOn (buffers : List BufferId) (m t : Memory) : Prop :=
  ∀ b ∈ buffers, t.contents? b = m.contents? b

/-- What some buffers hold determines whether the work fails, and how, and otherwise which bytes it
puts into which of them. -/
def Determines (m : Memory) (buffers : List BufferId) (work : Memory → Attempt Memory) : Prop :=
  ∃ outcome : Attempt (BufferId × Bytes), (∀ b bytes, outcome = .ok (b, bytes) → b ∈ buffers) ∧
    ∀ t, AgreesOn buffers m t → work t = outcome.map fun (b, bytes) => t.put b (some bytes)

theorem determines_fail (fault : Fault) : m.Determines buffers fun _ => .error fault :=
  ⟨.error fault, nofun, fun _ _ => rfl⟩

theorem Determines.mono {work : Memory → Attempt Memory} (h : m.Determines buffers work)
    (among : buffers ⊆ more) : m.Determines more work := by
  obtain ⟨outcome, target, settled⟩ := h
  exact ⟨outcome, fun b bytes done => among (target b bytes done),
    fun t agrees => settled t fun b member => agrees b (among member)⟩

/-- A look that is the same in all memories in question can come first. -/
theorem Determines.look {f : Memory → Attempt α} {work : α → Memory → Attempt Memory}
    (same : ∀ t, AgreesOn buffers m t → f t = f m)
    (later : ∀ a, f m = .ok a → m.Determines buffers (work a)) :
    m.Determines buffers fun t => f t >>= fun a => work a t := by
  cases seen : f m with
  | error fault =>
    refine ⟨.error fault, nofun, fun t agrees => ?_⟩
    dsimp only
    rw [same t agrees, seen]
    rfl
  | ok a =>
    obtain ⟨outcome, target, settled⟩ := later a seen
    refine ⟨outcome, target, fun t agrees => ?_⟩
    dsimp only
    rw [same t agrees, seen]
    exact settled t agrees

theorem readElements_congr (same : t.contents? b = m.contents? b) (type : ElementType)
    (count : Nat) : t.readElements type b count = m.readElements type b count := by
  simp only [readElements, contents, same]

theorem determines_writeElements (member : b ∈ buffers) {type : ElementType} (offset : Nat)
    (values : List (Element type)) :
    m.Determines buffers fun t => t.writeElements b offset values := by
  cases live : m.contents? b with
  | none =>
    refine ⟨Attempt.fail (.unknownBuffer b), nofun, fun t agrees => ?_⟩
    simp only [writeElements, contents, agrees b member, live]
    rfl
  | some old =>
    obtain ⟨verdict, written⟩ := exists_writeElements old type offset values.length
    refine ⟨verdict.map fun _ =>
      (b, old.splice (offset * type.width) (Element.listToBytes values)), ?_, fun t agrees => ?_⟩
    · intro c bytes done
      cases verdict <;> cases done
      exact member
    · dsimp only
      rw [written t b values ((agrees b member).trans live) rfl]
      cases verdict <;> rfl

end Memory

namespace ElementwiseKernel

open Memory

variable {m t : Memory} {buffers : List BufferId} {b : BufferId}

theorem loadBuffer_congr (same : t.contents? b = m.contents? b) (type : ElementType)
    (n stride : Nat) : loadBuffer t type b n stride = loadBuffer m type b n stride := by
  simp only [loadBuffer, readElements_congr same]

theorem loadOperand_congr {y : KernelOperand} (same : AgreesOn y.buffers m t)
    (type : ElementType) (n stride : Nat) :
    loadOperand t type n stride y = loadOperand m type n stride y := by
  cases y with
  | buffer b => exact loadBuffer_congr (same b (List.mem_singleton_self b)) type n stride
  | scalar s => rfl

theorem determines_store (member : b ∈ buffers) {type : ElementType}
    (values : List (Element type)) (stride : Nat) :
    m.Determines buffers fun t => store t b values stride := by
  match stride with
  | 0 => exact determines_fail _
  | 1 => exact determines_writeElements member 0 values
  | stride + 2 =>
    exact .look (fun _ _ => rfl) fun count _ =>
      .look (fun t agrees => readElements_congr (agrees b member) type count) fun region _ =>
        determines_writeElements member 0 (scatter region values.toArray (stride + 2))

/-- The buffers that a kernel is given determine what comes of it. -/
theorem determines_execute (m : Memory) (k : ElementwiseKernel)
    (values : Parameter.Values k.parameters) :
    m.Determines (k.buffers values) fun t => k.execute t values := by
  cases k with
  | binary operation =>
    obtain ⟨type, n, (x : BufferId), strideX, (y : KernelOperand), strideY, (r : BufferId), strideR,
      ⟨⟩⟩ := values
    have operands (t : Memory) (agrees : AgreesOn (x :: r :: y.buffers) m t) :
        AgreesOn y.buffers m t := fun b member => agrees b (.tail _ (.tail _ member))
    exact .look (fun t agrees => loadBuffer_congr (agrees x (.head _)) type n strideX) fun left _ =>
      .look (fun t agrees => loadOperand_congr (operands t agrees) type n strideY) fun right _ =>
        .look (fun _ _ => rfl) fun _ _ => .look (fun _ _ => rfl) fun _ _ =>
          determines_store (.tail _ (.head _)) _ strideR
  | abs =>
    obtain ⟨type, n, (x : BufferId), (r : BufferId), ⟨⟩⟩ := values
    exact .look (fun t agrees => readElements_congr (agrees x (.head _)) type n) fun elements _ =>
      determines_writeElements (.tail _ (.head _)) 0 (elements.map Element.magnitude)
  | fill =>
    obtain ⟨type, n, (x : BufferId), s, ⟨⟩⟩ := values
    exact .look (fun _ _ => rfl) fun value _ => .look (fun _ _ => rfl) fun _ _ =>
      determines_writeElements (.head _) 0 (List.replicate n value)
  | reverse =>
    obtain ⟨type, n, (x : BufferId), (r : BufferId), ⟨⟩⟩ := values
    exact .look (fun t agrees => readElements_congr (agrees x (.head _)) type n) fun elements _ =>
      determines_writeElements (.tail _ (.head _)) 0 elements.reverse
  | setSlice =>
    obtain ⟨type, (lower : Nat), (upper : Nat), (x : BufferId), (source : BufferId), ⟨⟩⟩ := values
    simp only [execute, runSetSlice]
    split
    case isTrue => exact determines_fail _
    case isFalse =>
      exact .look (fun t agrees => readElements_congr (agrees source (.tail _ (.head _))) type _)
        fun elements _ => determines_writeElements (.head _) lower elements

/-- Every buffer that a kernel is given was passed to it. -/
theorem mem_write_of_mem_buffers {k : ElementwiseKernel} {values : Parameter.Values k.parameters}
    (given : b ∈ k.buffers values) : .buffer b ∈ Contract.write k.parameters values := by
  cases k with
  | binary operation =>
    obtain ⟨type, n, (x : BufferId), strideX, (y : KernelOperand), strideY, (r : BufferId), strideR,
      ⟨⟩⟩ := values
    cases y <;> simpa [Contract.write, Parameter.write, Argument.ofType, buffers,
      KernelOperand.buffers, or_comm, or_assoc] using given
  | abs =>
    obtain ⟨type, n, (x : BufferId), (r : BufferId), ⟨⟩⟩ := values
    simpa [Contract.write, Parameter.write, Argument.ofType, buffers] using given
  | fill =>
    obtain ⟨type, n, (x : BufferId), s, ⟨⟩⟩ := values
    simpa [Contract.write, Parameter.write, Argument.ofType, buffers] using given
  | reverse =>
    obtain ⟨type, n, (x : BufferId), (r : BufferId), ⟨⟩⟩ := values
    simpa [Contract.write, Parameter.write, Argument.ofType, buffers] using given
  | setSlice =>
    obtain ⟨type, lower, upper, (x : BufferId), (source : BufferId), ⟨⟩⟩ := values
    simpa [Contract.write, Parameter.write, Argument.ofType, buffers] using given

/-- The buffers that are passed to a kernel determine what comes of the call. -/
theorem determines_run (m : Memory) (k : ElementwiseKernel) (arguments : List Argument) :
    m.Determines (arguments.filterMap Argument.buffer?) fun t => k.run t arguments := by
  refine .look (f := fun _ => Contract.read k.name k.parameters arguments) (fun _ _ => rfl)
    fun values read => (determines_execute m k values).mono fun b given => ?_
  have passed := mem_write_of_mem_buffers given
  rw [Contract.write_of_read read] at passed
  exact List.mem_filterMap.mpr ⟨.buffer b, passed, rfl⟩

end ElementwiseKernel

end DeviceArrays
