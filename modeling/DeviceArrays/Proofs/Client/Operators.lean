import DeviceArrays.DeviceArray.Operators
import DeviceArrays.Proofs.Client.Building

/-!
# Operators and slices

Every operator submits a launch that fits what its checks have found out, and only for buffers that
are released later, if at all. Transient arrays are dropped on every way out.
-/
namespace DeviceArrays

variable {α : Type} {r : Regime} {L K M : Ledger} {E : Error → Ledger → Prop} {a : DeviceArray}

/-- What an operand needs to be usable: an array has to be one that can be worked with. -/
def Ledger.HoldsOperand (L : Ledger) (r : Regime) : Operand → Prop
  | .array b => L.Holds r b
  | .grid _ => True
  | .scalar _ => True

namespace DeviceArray

theorem follows_withBound {Q : α → Ledger → Prop} {s : Stream} {g : Grid} {layout : Layout}
    {body : DeviceArray → Call α} (driven : L.Drives r s) (still : L.copying = false)
    (runs : ∀ b K, L.Makes r ⟨g.extents, g.type, layout, some s.device, some s⟩ b K →
      Call.Follows r (body b) K (fun x M => K.Yields K.owned M ∧ ∀ N, L.Yields L.owned N → Q x N)
        (K.Refuses r))
    (error : ∀ e K, L.Refuses r e K → E e K) :
    Call.Follows r (withBound s g layout body) L Q E := by
  unfold withBound
  refine Call.Follows.bind (Stream.follows_bindWith driven still (fun b K made => ?_) error)
  refine Call.Follows.bind (Call.follows_onError ((runs b K made).mono ?_ ?_))
  · intro x M ended
    obtain ⟨yields, done⟩ := ended
    have kept := made.of_yields yields
    refine Call.Follows.bind (Call.follows_lift (kept.follows_drop fun N dropped => ?_))
    exact done N (kept.yields.trans dropped)
  · exact fun e M refuses => made.follows_cleanup refuses error

/-- A launch for an operand whose values are in a buffer or given directly. -/
theorem follows_launch_binary {Q : Unit → Ledger → Prop} {operation : BinaryOperation}
    {kernel : Kernel} {y : KernelOperand} {result : BufferId} (holds : L.Holds r a)
    (still : L.copying = false) (accepted : r.Accepts kernel (.binary operation))
    (right : y.Fits (L.Has r a.device.number) a.type a.size)
    (target : L.Has r a.device.number result a.byteSize)
    (h : ∀ K, L.Yields L.owned K → Q () K) (error : ∀ e K, L.Refuses r e K → E e K) :
    Call.Follows r (a.stream.launch kernel
      (BinaryLaunch.arguments ⟨a.type, a.size, a.buffer, y, result⟩)) L Q E := by
  rw [← holds.same] at right target
  have fits : (ElementwiseKernel.binary operation).Fits (L.Has r a.stream.device.number)
      (a.type, a.size, a.buffer, (1 : Nat), y, y.stride, result, (1 : Nat), ()) :=
    .binary holds.has right target
  refine Stream.follows_launch holds.stream ⟨.binary operation, _, accepted, ?_, fits⟩ still h
    fun e K yields failed => error e K (.of_not_sound yields failed)
  cases y <;> rfl

/-- An operand that can be combined with an array element by element. -/
def Matches (a : DeviceArray) (operand : Operand) : Prop :=
  operand.type = a.type ∧
    match operand with
    | .array b => b.device.number = a.device.number ∧ b.shape = a.shape ∧ b.layout = a.layout
    | .grid g => g.extents = a.shape.extents
    | .scalar _ => True

theorem check_guard {p : Prop} [Decidable p] {e : Error} {f : Unit → Except Error Unit}
    {c x : Except Error Unit}
    (h : (if p then throw e >>= f else c) = x) :
    (p ∧ x = .error e) ∨ (¬ p ∧ c = x) := by
  split at h
  case isTrue passed => exact .inl ⟨passed, h.symm⟩
  case isFalse failed => exact .inr ⟨failed, h⟩

/-- The check of an operand tells whether it matches. -/
theorem checkOperand_cases (a : DeviceArray) (operand : Operand) :
    (a.checkOperand operand = .ok () ∧ a.Matches operand) ∨
      ∃ e, a.checkOperand operand = .error e ∧ e.IsRefusal := by
  generalize answer : a.checkOperand operand = x
  have typed : ∀ {y : Except Error Unit},
      (if operand.type ≠ a.type then throw (.typeMismatch a.type operand.type) else pure ()) = y →
        (y = .ok () ∧ operand.type = a.type) ∨ ∃ e, y = .error e ∧ e.IsRefusal := by
    intro y h
    split at h
    case isTrue => exact .inr ⟨_, h.symm, trivial⟩
    case isFalse same => exact .inl ⟨h.symm, Decidable.not_not.mp same⟩
  cases operand with
  | array b =>
    obtain ⟨_, rfl⟩ | ⟨near, answer⟩ := check_guard answer
    · exact .inr ⟨_, rfl, trivial⟩
    obtain ⟨_, rfl⟩ | ⟨shape, answer⟩ := check_guard answer
    · exact .inr ⟨_, rfl, trivial⟩
    obtain ⟨_, rfl⟩ | ⟨layout, answer⟩ := check_guard answer
    · exact .inr ⟨_, rfl, trivial⟩
    obtain ⟨rfl, same⟩ | refused := typed answer
    · have beside : b.device.number = a.device.number := by simpa [Device.same] using near
      exact .inl ⟨rfl, same, beside, Decidable.not_not.mp shape, Decidable.not_not.mp layout⟩
    · exact .inr refused
  | grid g =>
    obtain ⟨_, rfl⟩ | ⟨shape, answer⟩ := check_guard answer
    · exact .inr ⟨_, rfl, trivial⟩
    obtain ⟨rfl, same⟩ | refused := typed answer
    · exact .inl ⟨rfl, same, Decidable.not_not.mp shape⟩
    · exact .inr refused
  | scalar value =>
    obtain ⟨rfl, same⟩ | refused := typed answer
    · exact .inl ⟨rfl, same, trivial⟩
    · exact .inr refused

/-- What an operator makes: an owner like the array it is applied to. -/
def likeRequest (a : DeviceArray) (type : ElementType) : ArrayRequest :=
  ⟨a.shape.extents, type, a.layout, some a.device, some a.stream⟩

theorem follows_allocateLike {Q : DeviceArray → Ledger → Prop} {type : ElementType}
    (holds : L.Holds r a) (still : L.copying = false)
    (h : ∀ b K, L.Makes r (a.likeRequest type) b K → Q b K)
    (error : ∀ e K, L.Refuses r e K → E e K) : Call.Follows r (a.allocateLike type) L Q E :=
  follows_allocate holds.device holds.stream still (fun b K made _ => h b K made)
    (fun e refused => error e L (.of_refusal still refused))

/-- The buffer of a new array like `a`, as `a` knows it. -/
theorem has_of_makes_like {b : DeviceArray} {type : ElementType}
    (made : L.Makes r (a.likeRequest type) b K) :
    K.Has r a.device.number b.buffer (a.size * type.width) := by
  have buffer := made.holds.buffer
  have device : b.device = a.device := by simpa [likeRequest] using made.device
  rwa [made.byteSize, device] at buffer

/-- The buffer of a grid bound on the stream of `a`, as `a` knows it. -/
theorem has_of_makes_bound {b : DeviceArray} {g : Grid} {layout : Layout} (holds : L.Holds r a)
    (made : K.Makes r ⟨g.extents, g.type, layout, some a.stream.device, some a.stream⟩ b M) :
    M.Has r a.device.number b.buffer (g.size * g.type.width) := by
  have buffer := made.holds.buffer
  have device : b.device = a.stream.device := by simpa using made.device
  rw [made.byteSize, device, holds.same] at buffer
  rwa [Grid.size, g.filled]

theorem byteSize_of_matches {c : DeviceArray} (h : a.Matches (.array c)) :
    c.byteSize = a.size * a.type.width := by
  obtain ⟨type, _, shape, _⟩ := h
  have same : c.type = a.type := type
  rw [byteSize, DeviceArray.size, shape, same]
  rfl

theorem size_of_matches {g : Grid} (h : a.Matches (.grid g)) : g.size = a.size := by
  have extents : g.extents = a.shape.extents := h.2
  rw [Grid.size, g.filled, extents]
  rfl

theorem follows_binary {Q : DeviceArray → Ledger → Prop} {operation : BinaryOperation}
    {operand : Operand} (holds : L.Holds r a) (usable : L.HoldsOperand r operand)
    (still : L.copying = false) (h : ∀ b K, L.Makes r (a.likeRequest a.type) b K → Q b K)
    (error : ∀ e K, L.Refuses r e K → E e K) :
    Call.Follows r (a.binary operation operand) L Q E := by
  unfold binary
  refine Call.Follows.bind (Call.follows_check (fun _ checked => ?_) fun e checked => ?_)
  case refine_2 =>
    obtain ⟨passed, _⟩ | ⟨_, refused, refusal⟩ := a.checkOperand_cases operand
    · simp [passed] at checked
    · cases refused.symm.trans checked
      exact error e L (.of_refusal still refusal)
  have fitting : a.Matches operand := by
    obtain ⟨_, fitting⟩ | ⟨_, refused, _⟩ := a.checkOperand_cases operand
    · exact fitting
    · simp [refused] at checked
  refine Call.Follows.bind (follows_kernel holds.device.library (fun kernel accepted => ?_)
    fun e failed => error e L (.of_not_sound (.refl still) failed))
  refine Call.Follows.bind (follows_allocateLike holds still (fun b K made => ?_) error)
  refine Call.Follows.bind (Call.follows_onError ?_)
  have left : K.Holds r a := made.holds_other holds
  have target : K.Has r a.device.number b.buffer a.byteSize := has_of_makes_like made
  have done : ∀ M, K.Yields K.owned M → Q b M := fun M yields => h b M (made.of_yields yields)
  have clean : ∀ e M, K.Refuses r e M → b.drop.Follows r M fun _ N => E e N :=
    fun e M refuses => made.follows_cleanup refuses error
  cases operand with
  | array c =>
    have right : K.Holds r c := made.holds_other usable
    have near : c.device.number = a.device.number := fitting.2.1
    refine follows_launch_binary left made.yields.copying accepted ?_ target done clean
    have buffer := right.buffer
    rwa [near, byteSize_of_matches fitting] at buffer
  | grid g =>
    refine follows_withBound left.stream made.yields.copying (fun c M bound => ?_) clean
    refine follows_launch_binary (bound.holds_other left) bound.yields.copying accepted ?_
      (bound.has target) (fun N yields => ⟨yields, done⟩) (fun e N refuses => refuses)
    have buffer := has_of_makes_bound left bound
    have type : g.type = a.type := fitting.1
    rwa [size_of_matches fitting, type] at buffer
  | scalar value =>
    exact follows_launch_binary left made.yields.copying accepted fitting.1 target done clean

/-- A kernel that reads an array and writes a new one like it. -/
theorem follows_unary {Q : DeviceArray → Ledger → Prop} {k : ElementwiseKernel}
    {type : ElementType} (holds : L.Holds r a) (still : L.copying = false)
    (launches : ∀ {kernel} {b : DeviceArray} {K : Ledger}, r.Accepts kernel k → K.Holds r a →
      K.Has r a.stream.device.number b.buffer (a.size * type.width) →
      r.Launches (K.Has r a.stream.device.number) kernel
        [.ofType a.type, .count a.size, .buffer a.buffer, .buffer b.buffer])
    (h : ∀ b K, L.Makes r (a.likeRequest type) b K → Q b K)
    (error : ∀ e K, L.Refuses r e K → E e K) : Call.Follows r (a.unary k type) L Q E := by
  unfold unary
  refine Call.Follows.bind (follows_kernel holds.device.library (fun kernel accepted => ?_)
    fun e failed => error e L (.of_not_sound (.refl still) failed))
  refine Call.Follows.bind (follows_allocateLike holds still (fun b K made => ?_) error)
  have source : K.Holds r a := made.holds_other holds
  have target : K.Has r a.stream.device.number b.buffer (a.size * type.width) := by
    rw [holds.same]
    exact has_of_makes_like made
  refine Call.Follows.bind (Call.follows_onError (Stream.follows_launch source.stream
    (launches accepted source target) made.yields.copying ?_ ?_))
  · exact fun M yields => h b M (made.of_yields yields)
  · exact fun e M yields failed => made.follows_cleanup (.of_not_sound yields failed) error

theorem follows_abs {Q : DeviceArray → Ledger → Prop} (holds : L.Holds r a)
    (still : L.copying = false)
    (h : ∀ b K, L.Makes r (a.likeRequest a.type.magnitudeType) b K → Q b K)
    (error : ∀ e K, L.Refuses r e K → E e K) : Call.Follows r a.abs L Q E :=
  follows_unary holds still
    (fun accepted source target => ⟨.abs, _, accepted, rfl, .abs source.has target⟩) h error

theorem follows_reverse {Q : DeviceArray → Ledger → Prop} (holds : L.Holds r a)
    (still : L.copying = false) (h : ∀ b K, L.Makes r (a.likeRequest a.type) b K → Q b K)
    (error : ∀ e K, L.Refuses r e K → E e K) : Call.Follows r a.reverse L Q E := by
  unfold reverse
  refine Call.follows_guard (fun _ => error _ _ (.of_refusal still trivial)) fun _ => ?_
  exact follows_unary holds still
    (fun accepted source target => ⟨.reverse, _, accepted, rfl, .reverse source.has target⟩) h error

/-- A launch of the slice kernel for a source with as many elements as there are places. -/
theorem follows_launch_setSlice {Q : Unit → Ledger → Prop} {kernel : Kernel} {source : BufferId}
    {lower upper : Nat} (holds : L.Holds r a) (still : L.copying = false)
    (accepted : r.Accepts kernel .setSlice) (ordered : lower ≤ upper) (inside : upper ≤ a.size)
    (given : L.Has r a.device.number source ((upper - lower) * a.type.width))
    (h : ∀ K, L.Yields L.owned K → Q () K) (error : ∀ e K, L.Refuses r e K → E e K) :
    Call.Follows r (a.stream.launch kernel
      [.ofType a.type, .count lower, .count upper, .buffer a.buffer, .buffer source]) L Q E := by
  rw [← holds.same] at given
  have fits : ElementwiseKernel.setSlice.Fits (L.Has r a.stream.device.number)
      (a.type, lower, upper, a.buffer, source, ()) := .setSlice ordered inside holds.has given
  exact Stream.follows_launch holds.stream ⟨.setSlice, _, accepted, rfl, fits⟩ still h
    fun e K yields failed => error e K (.of_not_sound yields failed)

theorem follows_setSlice {Q : Unit → Ledger → Prop} {start stop : Nat} {operand : Operand}
    (holds : L.Holds r a) (usable : L.HoldsOperand r operand) (still : L.copying = false)
    (h : ∀ K, L.Yields L.owned K → Q () K) (error : ∀ e K, L.Refuses r e K → E e K) :
    Call.Follows r (a.setSlice start stop operand) L Q E := by
  have inside : min stop a.size ≤ a.size := Nat.min_le_right _ _
  have lost : ∀ e, ¬ L.Sound r → E e L := fun e failed =>
    error e L (.of_not_sound (.refl still) failed)
  cases operand with
  | scalar value => exact follows_fill holds still h error
  | array b =>
    refine Call.follows_guard (fun _ => error _ _ (.of_refusal still trivial)) fun type => ?_
    dsimp only
    split
    case isTrue => exact h L (.refl still)
    case isFalse nonempty =>
      refine Call.follows_guard (fun _ => error _ _ (.of_refusal still trivial)) fun near => ?_
      refine Call.follows_guard (fun _ => error _ _ (.of_refusal still trivial)) fun length => ?_
      refine Call.Follows.bind
        (follows_kernel holds.device.library (fun kernel accepted => ?_) lost)
      refine follows_launch_setSlice holds still accepted (by omega) inside ?_ h error
      have buffer := Ledger.Holds.buffer (a := b) usable
      have same : b.device.number = a.device.number := by simpa [Device.same] using near
      rw [byteSize, Decidable.not_not.mp type, Decidable.not_not.mp length, same] at buffer
      exact buffer
  | grid g =>
    refine Call.follows_guard (fun _ => error _ _ (.of_refusal still trivial)) fun type => ?_
    dsimp only
    split
    case isTrue => exact h L (.refl still)
    case isFalse nonempty =>
      refine Call.follows_guard (fun _ => error _ _ (.of_refusal still trivial)) fun length => ?_
      refine Call.Follows.bind
        (follows_kernel holds.device.library (fun kernel accepted => ?_) lost)
      refine follows_withBound holds.stream still (fun c K bound => ?_) error
      refine follows_launch_setSlice (bound.holds_other holds) bound.yields.copying accepted
        (by omega) inside ?_ (fun M yields => ⟨yields, fun N => h N⟩) (fun e M refuses => refuses)
      have buffer := has_of_makes_bound holds bound
      rwa [Decidable.not_not.mp type, Decidable.not_not.mp length] at buffer

end DeviceArray

end DeviceArrays
