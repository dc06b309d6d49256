import DeviceArrays.DeviceArray.Fill
import DeviceArrays.Proofs.Client.Streams

/-!
# New arrays and whole-array assignment

A call that makes an array leaves its client with exactly one buffer more, that of the new owner,
or with none more where it ends with an error.
-/
namespace DeviceArrays

variable {α : Type} {r : Regime} {L K M : Ledger} {E : Error → Ledger → Prop}

/-- A call has made an owner as requested. -/
structure Ledger.Makes (L : Ledger) (r : Regime) (request : ArrayRequest) (a : DeviceArray)
    (K : Ledger) : Prop where
  yields : L.Yields (a.holding :: L.owned) K
  holds : K.Holds r a
  owner : a.ownership = .owner
  extents : a.shape.extents = request.extents
  type : a.type = request.type
  layout : a.layout = request.layout
  device : some a.device = request.device
  stream : some a.stream = request.stream

/-- A call has ended with an error and has left nothing behind. Where nothing can fail on a device,
the error is that of a check. -/
structure Ledger.Refuses (L : Ledger) (r : Regime) (e : Error) (K : Ledger) : Prop where
  yields : L.Yields L.owned K
  refusal : K.Sound r → e.IsRefusal

theorem Ledger.Refuses.of_refusal {e : Error} (still : L.copying = false) (h : e.IsRefusal) :
    L.Refuses r e L :=
  ⟨.refl still, fun _ => h⟩

theorem Ledger.Refuses.of_not_sound {e : Error} (yields : L.Yields L.owned K) (h : ¬ K.Sound r) :
    L.Refuses r e K :=
  ⟨yields, fun sound => absurd sound h⟩

namespace Ledger.Makes

variable {request : ArrayRequest} {a : DeviceArray}

theorem size (h : L.Makes r request a K) : a.size = volume request.extents := by
  rw [DeviceArray.size, Shape.size, h.extents]

theorem byteSize (h : L.Makes r request a K) :
    a.byteSize = volume request.extents * request.type.width := by
  rw [DeviceArray.byteSize, h.size, h.type]

/-- The new array is still there after a call that keeps what it finds. -/
theorem of_yields (h : L.Makes r request a K) (later : K.Yields K.owned M) :
    L.Makes r request a M where
  yields := by
    have both := h.yields.trans later
    rwa [h.yields.owned] at both
  holds := h.holds.of_yields later fun _ mine => mine
  owner := h.owner
  extents := h.extents
  type := h.type
  layout := h.layout
  device := h.device
  stream := h.stream

/-- A buffer that was known before the new array was made is known still. -/
theorem has {device size : Nat} {b : BufferId} (h : L.Makes r request a K)
    (known : L.Has r device b size) : K.Has r device b size :=
  known.of_yields h.yields fun _ mine => .tail _ mine

theorem holds_other {b : DeviceArray} (h : L.Makes r request a K) (known : L.Holds r b) :
    K.Holds r b :=
  known.of_yields h.yields fun _ mine => .tail _ mine

/-- Dropping the new array brings back what was there before. -/
theorem follows_drop {Q : Unit → Ledger → Prop} (h : L.Makes r request a K)
    (done : ∀ M, K.Yields L.owned M → Q () M) : a.drop.Follows r K Q := by
  refine DeviceArray.follows_drop_owner h.holds h.owner h.yields.copying fun M dropped => done M ?_
  rwa [h.yields.owned, List.erase_cons_head] at dropped

/-- Where an error comes after the array was made, dropping the array leaves nothing behind. -/
theorem follows_cleanup {e : Error} (h : L.Makes r request a K) (refuses : K.Refuses r e M)
    (error : ∀ e N, L.Refuses r e N → E e N) : a.drop.Follows r M fun _ N => E e N := by
  have kept := h.of_yields refuses.yields
  refine kept.follows_drop fun N dropped => error e N ⟨kept.yields.trans dropped, ?_⟩
  exact fun sound => refuses.refusal (sound.of_yields dropped)

end Ledger.Makes

namespace Library

/-- The standard library has each elementwise kernel under its own name. -/
theorem get_standard (k : ElementwiseKernel) : standard.get k.name = .ok k.toKernel := by
  rcases k with (_ | _ | _ | _) | _ | _ | _ | _ <;> rfl

theorem mem_of_get {library : Library} {name : String} {k : Kernel}
    (found : library.get name = .ok k) : k ∈ library.kernels := by
  unfold get at found
  split at found
  case h_1 other there =>
    cases found
    exact List.mem_of_find?_eq_some there
  case h_2 => cases found

end Library

namespace DeviceArray

variable {a : DeviceArray}

theorem follows_allocate {Q : DeviceArray → Ledger → Prop} {shape : Shape} {type : ElementType}
    {layout : Layout} {d : Device} {s : Stream} (known : L.Knows r d) (driven : L.Drives r s)
    (still : L.copying = false)
    (h : ∀ a K, L.Makes r ⟨shape.extents, type, layout, some d, some s⟩ a K → a.shape = shape →
      Q a K)
    (error : ∀ e, e.IsRefusal → E e L) :
    Call.Follows r (allocate shape type layout d s) L Q E := by
  unfold allocate
  refine Call.follows_guard (fun _ => error _ trivial) fun same => ?_
  refine Call.follows_guard (fun _ => error _ trivial) fun small => ?_
  refine Call.Follows.bind (HostStore.follows_create still ?_)
  have reachable : s.device.number = d.number := by simpa [Device.same] using same
  have listed : shape.size * type.width ∈ L.stores ++ [shape.size * type.width] := by simp
  refine Call.Follows.bind (Call.follows_perform ⟨driven.device.number, listed⟩ fun b _ => ?_)
  refine h _ _ ?_ rfl
  have yields : L.Yields (⟨s.device.number, b⟩ :: L.owned)
      (Ledger.next { L with stores := L.stores ++ [shape.size * type.width] }
        (.allocate s.device.number (shape.size * type.width)) b) :=
    ⟨Nat.le_refl _, rfl, rfl, List.prefix_append _ _, List.suffix_cons _ _, rfl, still⟩
  constructor
  case yields =>
    have held : (⟨s.device.number, b⟩ : Holding) = ⟨d.number, b⟩ := by rw [reachable]
    rw [held] at yields
    exact yields
  case holds =>
    constructor
    case device => exact known.of_yields yields
    case stream => exact driven.of_yields yields
    case same => exact reachable
    case size => rfl
    case store => exact List.getElem?_concat_length
    case buffer =>
      rw [reachable]
      exact ⟨.head _, fun _ => .head _⟩
  all_goals rfl

theorem follows_build {Q : DeviceArray → Ledger → Prop} {request : ArrayRequest}
    (known : ∀ d, request.device = some d → L.Knows r d)
    (driven : ∀ s, request.stream = some s → L.Drives r s) (still : L.copying = false)
    (h : ∀ a K, L.Makes r request a K → Q a K) (error : ∀ e, e.IsRefusal → E e L) :
    Call.Follows r (build request) L Q E := by
  unfold build
  refine Call.Follows.bind (Call.follows_check (fun shape checked => ?_) fun e checked => ?_)
  case refine_1 =>
    obtain ⟨extents, type, layout, device?, stream?⟩ := request
    cases device? with
    | none => exact error _ trivial
    | some device =>
      cases stream? with
      | none => exact error _ trivial
      | some stream =>
        have same : shape.extents = extents := by
          unfold Shape.ofExtents at checked
          split at checked
          case isTrue =>
            split at checked
            case isTrue =>
              cases checked
              rfl
            case isFalse => cases checked
          case isFalse => cases checked
        refine follows_allocate (known device rfl) (driven stream rfl) still ?_ error
        intro a K made _
        exact h a K (same ▸ made)
  case refine_2 =>
    refine error e ?_
    cases shaped : Shape.ofExtents request.extents with
    | ok shape => simp [shaped, Except.mapError] at checked
    | error problem =>
      simp only [shaped, Except.mapError, Except.error.injEq] at checked
      rw [← checked]
      trivial

/-- The kernel of a device's library does what arrays need of it. -/
theorem follows_kernel {Q : Kernel → Ledger → Prop} {k : ElementwiseKernel}
    (permits : r.Permits a.device.library) (h : ∀ kernel, r.Accepts kernel k → Q kernel L)
    (error : ∀ e, ¬ L.Sound r → E e L) : Call.Follows r (a.kernel k) L Q E := by
  have accepted : ∀ kernel, a.device.library.get k.name = .ok kernel → r.Accepts kernel k := by
    intro kernel found
    cases r with
    | manual =>
      rw [permits, Library.get_standard] at found
      cases found
      rfl
    | managed =>
      rw [permits, Library.get_standard] at found
      cases found
      rfl
    | several => exact permits kernel (Library.mem_of_get found)
  refine Call.follows_check (fun kernel found => h kernel (accepted kernel ?_)) fun e lost => ?_
  · cases there : a.device.library.get k.name with
    | ok other => simpa [there, Except.mapError] using found
    | error e => simp [there, Except.mapError] at found
  · refine error e fun sound => ?_
    obtain ⟨rfl, _⟩ := sound
    rw [permits, Library.get_standard] at lost
    cases lost

theorem follows_fill {Q : Unit → Ledger → Prop} {value : Scalar} (holds : L.Holds r a)
    (still : L.copying = false) (h : ∀ K, L.Yields L.owned K → Q () K)
    (error : ∀ e K, L.Refuses r e K → E e K) : Call.Follows r (a.fill value) L Q E := by
  unfold fill
  refine Call.follows_guard (fun _ => error _ _ (.of_refusal still trivial)) fun same => ?_
  refine Call.Follows.bind (follows_kernel holds.device.library (fun kernel accepted => ?_) ?_)
  · have fits : ElementwiseKernel.fill.Fits (L.Has r a.stream.device.number)
        (a.type, a.size, a.buffer, value, ()) := .fill holds.has (Decidable.not_not.mp same)
    exact Stream.follows_launch holds.stream ⟨.fill, _, accepted, rfl, fits⟩ still h
      fun e K yields failed => error e K (.of_not_sound yields failed)
  · exact fun e failed => error e L (.of_not_sound (.refl still) failed)

theorem follows_fillFrom {Q : Unit → Ledger → Prop} {g : Grid} (holds : L.Holds r a)
    (still : L.copying = false) (h : ∀ K, L.Yields L.owned K → Q () K)
    (error : ∀ e K, L.Refuses r e K → E e K) : Call.Follows r (a.fillFrom g) L Q E := by
  unfold fillFrom
  refine Call.follows_guard (fun _ => error _ _ (.of_refusal still trivial)) fun _ => ?_
  refine Call.follows_guard (fun _ => error _ _ (.of_refusal still trivial)) fun _ => ?_
  exact Call.Follows.bind (HostStore.follows_write still (follows_updateDevice holds still h))

end DeviceArray

namespace Stream

variable {s : Stream} {Q : DeviceArray → Ledger → Prop}

theorem follows_build {extents : List Nat} {type : ElementType} {layout : Layout}
    (driven : L.Drives r s) (still : L.copying = false)
    (h : ∀ a K, L.Makes r ⟨extents, type, layout, some s.device, some s⟩ a K → Q a K)
    (error : ∀ e K, L.Refuses r e K → E e K) :
    Call.Follows r (DeviceArray.build ⟨extents, type, layout, some s.device, some s⟩) L Q E := by
  refine DeviceArray.follows_build (fun d same => ?_) (fun t same => ?_) still h
    (fun e refused => error e L (.of_refusal still refused))
  · cases same
    exact driven.device
  · cases same
    exact driven

theorem follows_bindWith {g : Grid} {layout : Layout} (driven : L.Drives r s)
    (still : L.copying = false)
    (h : ∀ a K, L.Makes r ⟨g.extents, g.type, layout, some s.device, some s⟩ a K → Q a K)
    (error : ∀ e K, L.Refuses r e K → E e K) : Call.Follows r (s.bindWith g layout) L Q E := by
  unfold bindWith
  refine Call.Follows.bind (follows_build driven still (fun a K made => ?_) error)
  refine Call.Follows.bind (Call.follows_onError ?_)
  refine Call.Follows.bind (HostStore.follows_write made.yields.copying ?_)
  exact DeviceArray.follows_updateDevice made.holds made.yields.copying
    fun M yields => h a M (made.of_yields yields)

theorem follows_empty {extents : List Nat} {type : ElementType} {layout : Layout}
    {updateHost : Bool} (driven : L.Drives r s) (still : L.copying = false)
    (h : ∀ a K, L.Makes r ⟨extents, type, layout, some s.device, some s⟩ a K → Q a K)
    (error : ∀ e K, L.Refuses r e K → E e K) :
    Call.Follows r (s.empty extents type layout updateHost) L Q E := by
  unfold empty
  refine Call.Follows.bind (follows_build driven still (fun a K made => ?_) error)
  dsimp only
  split
  case isTrue =>
    refine Call.Follows.bind
      (Call.follows_onError (DeviceArray.follows_updateHost made.holds ?_ ?_))
    · exact fun M yields _ => h a M (made.of_yields yields)
    · exact fun e M yields _ failed => made.follows_cleanup (.of_not_sound yields failed) error
  case isFalse => exact h a K made

theorem follows_filled {extents : List Nat} {value : Scalar} (driven : L.Drives r s)
    (still : L.copying = false)
    (h : ∀ a K, L.Makes r ⟨extents, value.type, .rowMajor, some s.device, some s⟩ a K → Q a K)
    (error : ∀ e K, L.Refuses r e K → E e K) : Call.Follows r (s.filled extents value) L Q E := by
  unfold filled
  refine Call.Follows.bind (follows_empty driven still (fun a K made => ?_) error)
  refine Call.Follows.bind (Call.follows_onError
    (DeviceArray.follows_fill made.holds made.yields.copying ?_ ?_))
  · exact fun M yields => h a M (made.of_yields yields)
  · exact fun e M refuses => made.follows_cleanup refuses error

end Stream

end DeviceArrays
