import DeviceArrays.Proofs.Client.Operators
import DeviceArrays.Proofs.Program.Request

/-!
# What is in scope

The arrays in the scope of a program and the ledger of its client tell the same story: every array
can be worked with, every view shares the storage of an owner in scope, and the buffers still to be
released are those of the owners, each of them once.
-/
namespace DeviceArrays

variable {r : Regime} {L K : Ledger} {ws : Workspace}

namespace Workspace

/-- The buffer that an array in scope has to release. -/
def holding? : Option DeviceArray → Option Holding
  | some a => if a.isView then none else some a.holding
  | none => none

theorem holding?_owner {a : DeviceArray} (owner : a.isView = false) :
    holding? (some a) = some a.holding := by
  simp [holding?, owner]

theorem holding?_view {a : DeviceArray} (view : a.isView = true) : holding? (some a) = none := by
  simp [holding?, view]

/-- The buffers of the owners in scope. -/
def holdings (ws : Workspace) : List Holding := ws.arrays.filterMap holding?

/-- A ledger and what is in scope fit together. -/
structure Covered (ws : Workspace) (r : Regime) (L : Ledger) : Prop where
  still : L.copying = false
  devices : ∀ d ∈ ws.devices, L.Knows r d
  streams : ∀ i s, ws.stream? i = some s → L.Drives r s
  distinct : ∀ i j s t, ws.stream? i = some s → ws.stream? j = some t → s.number = t.number → i = j
  /-- A stream that has left the scope was joined. -/
  named : ∀ n < L.streams.length, n ∈ L.joined ∨ ∃ i s, ws.stream? i = some s ∧ s.number = n
  arrays : ∀ i a, ws.array? i = some a → L.Holds r a
  rooted : ∀ i v, ws.array? i = some v → v.isView = true →
    ∃ j o, ws.array? j = some o ∧ o.isView = false ∧ o.storage = v.storage
  owned : r ≠ .manual → L.owned.Perm ws.holdings
  issued : ∀ b ∈ ws.issued, ∃ n, (⟨b.1, b.2⟩, n) ∈ L.allocated

/-- Other arrays in scope fit as well, if each can be worked with, each view has its owner and the
owners are those whose buffers are to be released. -/
theorem Covered.of_arrays {owned : List Holding} {after : Workspace} (covered : ws.Covered r L)
    (h : L.Yields owned K) (same : { ws with arrays := after.arrays } = after)
    (each : ∀ i a, after.array? i = some a → K.Holds r a)
    (rooted : ∀ i v, after.array? i = some v → v.isView = true →
      ∃ j o, after.array? j = some o ∧ o.isView = false ∧ o.storage = v.storage)
    (perm : r ≠ .manual → owned.Perm after.holdings) : after.Covered r K := by
  rw [← same] at each rooted perm ⊢
  constructor
  case still => exact h.copying
  case devices => exact fun d member => (covered.devices d member).of_yields h
  case streams => exact fun i s found => (covered.streams i s found).of_yields h
  case distinct => exact covered.distinct
  case named =>
    rw [h.streams, h.joined]
    exact covered.named
  case arrays => exact each
  case rooted => exact rooted
  case owned =>
    intro careful
    rw [h.owned]
    exact perm careful
  case issued =>
    intro b member
    obtain ⟨n, given⟩ := covered.issued b member
    exact ⟨n, h.allocated.subset given⟩

theorem Covered.of_yields (covered : ws.Covered r L) (h : L.Yields L.owned K) : ws.Covered r K :=
  covered.of_arrays h rfl
    (fun i a found => (covered.arrays i a found).of_yields h fun _ mine => mine) covered.rooted
    covered.owned

theorem array?_add (ws : Workspace) (a : DeviceArray) (i : Nat) :
    (ws.add a).array? i = if i = ws.arrays.length then some a else ws.array? i := by
  unfold array? add
  rcases Nat.lt_trichotomy i ws.arrays.length with before | rfl | behind
  · rw [if_neg (by omega), List.getElem?_append_left before]
  · simp
  · rw [if_neg (by omega), List.getElem?_eq_none (by simp; omega), List.getElem?_eq_none (by omega)]

theorem getElem?_of_array? {a : DeviceArray} {i : Nat} (found : ws.array? i = some a) :
    ws.arrays[i]? = some (some a) := by
  unfold array? at found
  cases entry : ws.arrays[i]? with
  | none => simp [entry] at found
  | some y => simpa [entry] using found

theorem array?_add_of_array? {a b : DeviceArray} {i : Nat} (found : ws.array? i = some b) :
    (ws.add a).array? i = some b := by
  have inside := (List.getElem?_eq_some_iff.mp (getElem?_of_array? found)).1
  rw [array?_add, if_neg (by omega), found]

theorem array?_put {a : DeviceArray} {i : Nat} (found : ws.array? i = some a)
    (x : Option DeviceArray) (j : Nat) :
    (ws.put i x).array? j = if j = i then x else ws.array? j := by
  have inside := (List.getElem?_eq_some_iff.mp (getElem?_of_array? found)).1
  unfold array? put
  by_cases same : j = i
  · subst same
    simp [inside]
  · rw [if_neg same, List.getElem?_set_ne (Ne.symm same)]

theorem holdings_add (ws : Workspace) (a : DeviceArray) :
    (ws.add a).holdings = ws.holdings ++ (holding? (some a)).toList := by
  unfold holdings add
  rw [List.filterMap_append]
  cases owner : holding? (some a) <;> simp [owner]

theorem perm_holdings_put {a : DeviceArray} {i : Nat} (found : ws.array? i = some a)
    (x : Option DeviceArray) :
    ((holding? x).toList ++ ws.holdings).Perm
      ((holding? (some a)).toList ++ (ws.put i x).holdings) := by
  have both := (Ledger.perm_cons_set (getElem?_of_array? found) x).filterMap holding?
  rw [List.filterMap_cons, List.filterMap_cons] at both
  cases before : holding? x <;> cases after : holding? (some a) <;>
    simpa only [before, after, holdings, put, Option.toList_none, Option.toList_some,
      List.nil_append, List.singleton_append] using both

theorem mem_holdings {a : DeviceArray} {i : Nat} (found : ws.array? i = some a)
    (owner : a.isView = false) : a.holding ∈ ws.holdings := by
  have both := perm_holdings_put found none
  have own := holding?_owner owner
  rw [own] at both
  exact both.mem_iff.mpr (.head _)

theorem holding_eq_of_storage {a b : DeviceArray} (h : a.storage = b.storage) :
    a.holding = b.holding := by
  unfold DeviceArray.holding DeviceArray.device DeviceArray.buffer
  rw [h]

theorem Covered.of_makes {request : ArrayRequest} {a : DeviceArray} (covered : ws.Covered r L)
    (made : L.Makes r request a K) : (ws.add a).Covered r K := by
  have owner : a.isView = false := by simp [DeviceArray.isView, made.owner]
  refine covered.of_arrays made.yields rfl ?_ ?_ ?_
  · intro i b found
    rw [array?_add] at found
    split at found
    case isTrue =>
      cases found
      exact made.holds
    case isFalse => exact made.holds_other (covered.arrays i b found)
  · intro i v found view
    rw [array?_add] at found
    split at found
    case isTrue =>
      cases found
      simp [owner] at view
    case isFalse =>
      obtain ⟨j, o, there, root, same⟩ := covered.rooted i v found view
      exact ⟨j, o, array?_add_of_array? there, root, same⟩
  · intro careful
    have more := holdings_add ws a
    rw [holding?_owner owner] at more
    exact ((covered.owned careful).cons a.holding).trans
      (more ▸ (List.perm_append_singleton a.holding ws.holdings).symm)

/-- A view is what it was made from, but for its shape and for owning nothing. -/
theorem eq_of_reshape {a b : DeviceArray} {extents : List Nat} (view : a.reshape extents = .ok b) :
    ∃ shape, shape.size = a.size ∧ b = { a with shape, ownership := .view a.root } := by
  unfold DeviceArray.reshape at view
  split at view
  case h_1 => cases view
  case h_2 shape _ =>
    split at view
    case isTrue same =>
      cases view
      exact ⟨shape, same, rfl⟩
    case isFalse => cases view

theorem holds_of_reshape {a b : DeviceArray} {extents : List Nat} (holds : L.Holds r a)
    (view : a.reshape extents = .ok b) : L.Holds r b := by
  obtain ⟨shape, size, rfl⟩ := eq_of_reshape view
  have same : DeviceArray.byteSize { a with shape, ownership := .view a.root } = a.byteSize :=
    congrArg (· * a.type.width) size
  obtain ⟨device, stream, near, sized, store, buffer⟩ := holds
  exact ⟨device, stream, near, sized.trans same.symm, same ▸ store, same ▸ buffer⟩

theorem Covered.of_view {a b : DeviceArray} {i : Nat} {extents : List Nat}
    (covered : ws.Covered r L) (found : ws.array? i = some a) (view : a.reshape extents = .ok b) :
    (ws.add b).Covered r L := by
  have storage := DeviceArray.storage_reshape view
  have isView : b.isView = true := by
    obtain ⟨shape, _, rfl⟩ := eq_of_reshape view
    rfl
  refine covered.of_arrays (.refl covered.still) rfl ?_ ?_ ?_
  · intro j c there
    rw [array?_add] at there
    split at there
    case isTrue =>
      cases there
      exact holds_of_reshape (covered.arrays i a found) view
    case isFalse => exact covered.arrays j c there
  · intro j v there isView
    rw [array?_add] at there
    have root : ∃ k o, ws.array? k = some o ∧ o.isView = false ∧ o.storage = v.storage := by
      split at there
      case isTrue =>
        cases there
        rw [storage]
        cases kind : a.isView with
        | false => exact ⟨i, a, found, kind, rfl⟩
        | true => exact covered.rooted i a found kind
      case isFalse => exact covered.rooted j v there isView
    obtain ⟨k, o, there, owner, same⟩ := root
    exact ⟨k, o, array?_add_of_array? there, owner, same⟩
  · intro careful
    have more := holdings_add ws b
    rw [holding?_view isView, Option.toList_none, List.append_nil] at more
    exact more ▸ covered.owned careful

/-- An owner without views goes out of scope and leaves its buffer to be released. -/
theorem Covered.without_owner {a : DeviceArray} {i : Nat} (covered : ws.Covered r L)
    (found : ws.array? i = some a) (owner : a.isView = false) (free : ws.pinned a = false)
    (h : L.Yields (L.owned.erase a.holding) K) : (ws.put i none).Covered r K := by
  have gone {j : Nat} {b : DeviceArray} (there : (ws.put i none).array? j = some b) :
      j ≠ i ∧ ws.array? j = some b := by
    rw [array?_put found] at there
    split at there
    case isTrue => cases there
    case isFalse other => exact ⟨other, there⟩
  have stays {j : Nat} {b : DeviceArray} (other : j ≠ i) (there : ws.array? j = some b) :
      (ws.put i none).array? j = some b := by rw [array?_put found, if_neg other, there]
  -- A view of it that is in scope would pin it.
  have unshared {j : Nat} {v : DeviceArray} (there : ws.array? j = some v)
      (view : v.isView = true) : v.storage ≠ a.storage := by
    intro same
    have listed : some v ∈ ws.arrays := List.mem_of_getElem? (getElem?_of_array? there)
    have pinned : ws.pinned a = true := by
      simp only [pinned, owner, Bool.not_false, Bool.true_and, List.any_eq_true]
      refine ⟨some v, listed, ?_⟩
      simp [view, DeviceArray.sameStorage, DeviceArray.device, DeviceArray.buffer, same,
        Device.same]
    rw [free] at pinned
    cases pinned
  have rooted : ∀ j v, (ws.put i none).array? j = some v → v.isView = true →
      ∃ k o, (ws.put i none).array? k = some o ∧ o.isView = false ∧ o.storage = v.storage := by
    intro j v there view
    obtain ⟨k, o, root, kind, same⟩ := covered.rooted j v (gone there).2 view
    refine ⟨k, o, stays ?_ root, kind, same⟩
    rintro rfl
    cases found.symm.trans root
    exact unshared (gone there).2 view same.symm
  have perm : r ≠ .manual → (L.owned.erase a.holding).Perm (ws.put i none).holdings := by
    intro careful
    have both := perm_holdings_put found none
    rw [holding?_owner owner] at both
    have erased := ((covered.owned careful).trans both).erase a.holding
    rwa [Option.toList_some, List.singleton_append, List.erase_cons_head] at erased
  refine covered.of_arrays h rfl ?_ rooted perm
  intro j b there
  refine (covered.arrays j b (gone there).2).of_yields h fun careful _ => ?_
  apply (perm careful).mem_iff.mpr
  cases kind : b.isView with
  | false => exact mem_holdings there kind
  | true =>
    obtain ⟨k, o, root, kind, same⟩ := rooted j b there kind
    rw [← holding_eq_of_storage same]
    exact mem_holdings root kind

/-- A view goes out of scope and leaves nothing. -/
theorem Covered.without_view {a : DeviceArray} {i : Nat} (covered : ws.Covered r L)
    (found : ws.array? i = some a) (view : a.isView = true) : (ws.put i none).Covered r L := by
  refine covered.of_arrays (.refl covered.still) rfl ?_ ?_ ?_
  · intro j b there
    rw [array?_put found] at there
    split at there
    case isTrue => cases there
    case isFalse => exact covered.arrays j b there
  · intro j v there isView
    rw [array?_put found] at there
    split at there
    case isTrue => cases there
    case isFalse =>
      obtain ⟨k, o, root, kind, same⟩ := covered.rooted j v there isView
      refine ⟨k, o, ?_, kind, same⟩
      rw [array?_put found, if_neg ?_, root]
      rintro rfl
      cases found.symm.trans root
      simp [view] at kind
  · intro careful
    have both := perm_holdings_put found none
    rw [holding?_view view] at both
    exact (covered.owned careful).trans both

/-- An array works on another stream of its device. -/
theorem Covered.of_assign {a : DeviceArray} {i : Nat} {s : Stream} (covered : ws.Covered r L)
    (found : ws.array? i = some a) (driven : L.Drives r s)
    (near : s.device.number = a.device.number) :
    (ws.put i (some { a with stream := s })).Covered r L := by
  refine covered.of_arrays (.refl covered.still) rfl ?_ ?_ ?_
  · intro j b there
    rw [array?_put found] at there
    split at there
    case isTrue =>
      cases there
      have holds := covered.arrays i a found
      exact ⟨holds.device, driven, near, holds.size, holds.store, holds.buffer⟩
    case isFalse => exact covered.arrays j b there
  · intro j v there isView
    have kept : ∀ k o, ws.array? k = some o → o.isView = false →
        ∃ x, (ws.put i (some { a with stream := s })).array? k = some x ∧ x.isView = false ∧
          x.storage = o.storage := by
      intro k o root kind
      rw [array?_put found]
      split
      case isTrue same =>
        subst same
        cases found.symm.trans root
        exact ⟨_, rfl, kind, rfl⟩
      case isFalse => exact ⟨o, root, kind, rfl⟩
    obtain ⟨k, o, root, kind, same⟩ : ∃ k o, ws.array? k = some o ∧ o.isView = false ∧
        o.storage = v.storage := by
      rw [array?_put found] at there
      split at there
      case isTrue =>
        cases there
        exact covered.rooted i a found isView
      case isFalse => exact covered.rooted j v there isView
    obtain ⟨x, there, owner, storage⟩ := kept k o root kind
    exact ⟨k, x, there, owner, storage.trans same⟩
  · intro careful
    have both := perm_holdings_put found (some { a with stream := s })
    have same : holding? (some { a with stream := s }) = holding? (some a) := rfl
    rw [same] at both
    exact (covered.owned careful).trans ((List.perm_append_left_iff _).mp both)

/-! ### Devices and streams -/

theorem Covered.of_opened_device {d : Device} (covered : ws.Covered r L)
    (known : (L.next .openDevice d.number).Knows r d) :
    { ws with devices := ws.devices ++ [d] }.Covered r (L.next .openDevice d.number) := by
  have grown : L.Yields L.owned (L.next .openDevice d.number) :=
    ⟨Nat.le_succ _, rfl, rfl, List.prefix_refl _, List.suffix_refl _, rfl, covered.still⟩
  refine { covered.of_yields grown with devices := fun e member => ?_ }
  obtain old | rfl := List.mem_append.mp member |>.imp_right List.mem_singleton.mp
  · exact (covered.devices e old).of_yields grown
  · exact known

/-- A stream in scope after one was opened. -/
theorem stream?_opened {s t : Stream} {i : Nat}
    (found : { ws with streams := ws.streams ++ [some s] }.stream? i = some t) :
    (i = ws.streams.length ∧ t = s) ∨ ws.stream? i = some t := by
  unfold stream? at found ⊢
  rcases Nat.lt_trichotomy i ws.streams.length with before | rfl | behind
  · rw [List.getElem?_append_left before] at found
    exact .inr found
  · rw [List.getElem?_concat_length] at found
    cases found
    exact .inl ⟨rfl, rfl⟩
  · rw [List.getElem?_eq_none (by simp; omega)] at found
    cases found

/-- A stream in scope is still there after another one was opened. -/
theorem stream?_append_of_stream? {s t : Stream} {i : Nat} (found : ws.stream? i = some t) :
    { ws with streams := ws.streams ++ [some s] }.stream? i = some t := by
  unfold stream? at found ⊢
  cases entry : ws.streams[i]? with
  | none => simp [entry] at found
  | some listed =>
    have inside := (List.getElem?_eq_some_iff.mp entry).1
    rw [List.getElem?_append_left inside, found]

/-- A stream in scope after one was closed. -/
theorem stream?_closed {t : Stream} {i j : Nat}
    (found : { ws with streams := ws.streams.set i none }.stream? j = some t) :
    j ≠ i ∧ ws.stream? j = some t := by
  unfold stream? at found ⊢
  by_cases same : j = i
  · subst same
    rw [List.getElem?_set_self'] at found
    cases entry : ws.streams[j]? <;> simp [entry] at found
  · rw [List.getElem?_set_ne (Ne.symm same)] at found
    exact ⟨same, found⟩

/-- A stream in scope is still there after another one was closed. -/
theorem stream?_set_ne {i j : Nat} (other : j ≠ i) :
    { ws with streams := ws.streams.set i none }.stream? j = ws.stream? j := by
  unfold stream?
  rw [List.getElem?_set_ne (Ne.symm other)]

/-- Where only streams were opened or ended, the arrays in scope have to be looked at no further
than for the streams they work on. -/
theorem Covered.of_streams {streams : List (Option Stream)} {entries : List StreamEntry}
    {joined : List Nat} (covered : ws.Covered r L)
    (driven : ∀ i s, { ws with streams }.stream? i = some s →
      { L with streams := entries, joined }.Drives r s)
    (distinct : ∀ i j s t, { ws with streams }.stream? i = some s →
      { ws with streams }.stream? j = some t → s.number = t.number → i = j)
    (named : ∀ n < entries.length,
      n ∈ joined ∨ ∃ i s, { ws with streams }.stream? i = some s ∧ s.number = n)
    (kept : ∀ i a, ws.array? i = some a → { L with streams := entries, joined }.Drives r a.stream) :
    { ws with streams }.Covered r { L with streams := entries, joined } where
  still := covered.still
  devices d member := ⟨(covered.devices d member).number, (covered.devices d member).library⟩
  streams := driven
  distinct := distinct
  named := named
  arrays i a found := by
    have holds := covered.arrays i a found
    exact ⟨⟨holds.device.number, holds.device.library⟩, kept i a found, holds.same, holds.size,
      holds.store, holds.buffer⟩
  rooted := covered.rooted
  owned := covered.owned
  issued := covered.issued

theorem Covered.of_opened_stream {s : Stream} (covered : ws.Covered r L)
    (known : L.Knows r s.device) (number : s.number = L.streams.length) :
    { ws with streams := ws.streams ++ [some s] }.Covered r
      (L.next (.openStream s.device.number) s.number) := by
  have driven {t : Stream} (ready : L.Drives r t) :
      (L.next (.openStream s.device.number) s.number).Drives r t :=
    ⟨⟨ready.device.number, ready.device.library⟩,
      Ledger.getElem?_of_prefix (List.prefix_append _ _) ready.opened⟩
  have newer (i : Nat) (t : Stream) (found : ws.stream? i = some t) : t.number ≠ s.number := by
    have inside := (List.getElem?_eq_some_iff.mp (covered.streams i t found).opened).1
    omega
  refine covered.of_streams ?_ ?_ ?_ fun i a found => driven (covered.arrays i a found).stream
  · intro i t found
    obtain ⟨_, rfl⟩ | old := stream?_opened found
    · refine ⟨⟨known.number, known.library⟩, ?_⟩
      rw [number]
      exact List.getElem?_concat_length
    · exact driven (covered.streams i t old)
  · intro i j t u first second same
    obtain ⟨rfl, rfl⟩ | old := stream?_opened first
    · obtain ⟨rfl, _⟩ | late := stream?_opened second
      · rfl
      · exact absurd same.symm (newer j u late)
    · obtain ⟨rfl, rfl⟩ | late := stream?_opened second
      · exact absurd same (newer i t old)
      · exact covered.distinct i j t u old late same
  · intro n inside
    rw [List.length_append, List.length_singleton] at inside
    obtain last | before : n = L.streams.length ∨ n < L.streams.length := by omega
    · refine .inr ⟨ws.streams.length, s, ?_, number.trans last.symm⟩
      simp [stream?]
    · refine (covered.named n before).imp_right fun ⟨i, t, found, same⟩ => ⟨i, t, ?_, same⟩
      exact stream?_append_of_stream? found

/-- A stream that no array works on can be closed, and is gone once its worker was joined. -/
theorem Covered.of_closed_stream {s : Stream} {i : Nat} (covered : ws.Covered r L)
    (found : ws.stream? i = some s) (free : ws.uses s = false) :
    { ws with streams := ws.streams.set i none }.Covered r
      ((L.next (.close s.number) ()).next (.join s.number) ()) := by
  have driven {t : Stream} (ready : L.Drives r t) (other : t.number ≠ s.number) :
      ((L.next (.close s.number) ()).next (.join s.number) ()).Drives r t := by
    refine ⟨⟨ready.device.number, ready.device.library⟩, ?_⟩
    change (L.streams.modify s.number _)[t.number]? = _
    rw [List.getElem?_modify, ready.opened]
    simp [Ne.symm other]
  refine covered.of_streams ?_ ?_ ?_ ?_
  · intro j t there
    obtain ⟨other, old⟩ := stream?_closed there
    exact driven (covered.streams j t old) fun same =>
      other (covered.distinct j i t s old found same)
  · intro j k t u first second same
    exact covered.distinct j k t u (stream?_closed first).2 (stream?_closed second).2 same
  · intro n inside
    have inside : n < L.streams.length := by simpa [Ledger.next] using inside
    obtain joined | ⟨j, t, there, rfl⟩ := covered.named n inside
    · exact .inl (.tail _ joined)
    · by_cases same : j = i
      · subst same
        cases found.symm.trans there
        exact .inl (.head _)
      · exact .inr ⟨j, t, (stream?_set_ne same).trans there, rfl⟩
  · intro j a there
    refine driven (covered.arrays j a there).stream fun same => ?_
    have listed : some a ∈ ws.arrays := List.mem_of_getElem? (getElem?_of_array? there)
    have used : ws.uses s = true := by
      simp only [uses, List.any_eq_true]
      exact ⟨some a, listed, by simp [Stream.same, same]⟩
    rw [free] at used
    cases used

end Workspace

end DeviceArrays
