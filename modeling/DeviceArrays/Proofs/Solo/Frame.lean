import DeviceArrays.Proofs.Program.Confined
import DeviceArrays.Proofs.Solo.Settled

/-!
# What a call leaves alone

The settled memory and stores change within the footprint of a call and nowhere else, whatever the
worker is at and whether the commands fail or not. No two owners in scope share a buffer, so even
the release of an array leaves all others as they are.
-/
namespace DeviceArrays

variable {α : Type} {r : Regime} {L : Ledger} {w : World} {F : Footprint} {ws : Workspace}
  {s t u : Surroundings}

namespace Footprint

/-- Memory and stores are the same outside the footprint, and what was made is still there. -/
structure Agrees (F : Footprint) (s t : Surroundings) : Prop where
  slots : s.memory.slots.length ≤ t.memory.slots.length
  stores_le : s.stores.length ≤ t.stores.length
  buffers : ∀ b, ¬ F.buffers b → t.memory.contents? b = s.memory.contents? b
  stores : ∀ i, ¬ F.stores i → t.stores[i]? = s.stores[i]?

theorem Agrees.refl (s : Surroundings) : F.Agrees s s :=
  ⟨Nat.le_refl _, Nat.le_refl _, fun _ _ => rfl, fun _ _ => rfl⟩

theorem Agrees.trans (first : F.Agrees s t) (later : F.Agrees t u) : F.Agrees s u where
  slots := Nat.le_trans first.slots later.slots
  stores_le := Nat.le_trans first.stores_le later.stores_le
  buffers b other := (later.buffers b other).trans (first.buffers b other)
  stores i other := (later.stores i other).trans (first.stores i other)

/-- Only the stores change. -/
theorem agrees_restore {f : List Bytes → List Bytes} (grown : s.stores.length ≤ (f s.stores).length)
    (same : ∀ i, ¬ F.stores i → (f s.stores)[i]? = s.stores[i]?) : F.Agrees s (s.restore f) :=
  ⟨Nat.le_refl _, grown, fun _ _ => rfl, same⟩

/-- Only one buffer changes. -/
theorem agrees_put {b : BufferId} {old : Bytes} (live : s.memory.contents? b = some old)
    (mine : F.buffers b) (bytes : Option Bytes) :
    F.Agrees s { s with memory := s.memory.put b bytes } where
  slots := Nat.le_of_eq (Memory.length_slots_put _ _ _).symm
  stores_le := Nat.le_refl _
  buffers c other := by
    have apart : c ≠ b := fun same => other (same ▸ mine)
    exact (Memory.contents?_put _ (by simp [live]) bytes c).trans (if_neg apart)
  stores _ _ := rfl

theorem agrees_grow (mine : F.buffers s.memory.next) (size : Nat) :
    F.Agrees s (s.grow size) where
  slots := by simp [Surroundings.grow]
  stores_le := Nat.le_refl _
  buffers b other := by
    have apart : b ≠ s.memory.next := fun same => other (same ▸ mine)
    exact (Memory.contents?_allocate _ size b).trans (if_neg apart)
  stores _ _ := rfl

theorem AllowsCommand.isElementwise {F : Footprint} {c : Command} (allowed : F.AllowsCommand c) :
    c.IsElementwise := by
  cases c with
  | launch kernel arguments =>
    obtain ⟨k, same, _⟩ := allowed
    exact ⟨k, same⟩
  | _ => trivial

/-- A command that a footprint allows, failing or not, changes nothing outside. -/
theorem agrees_run {c : Command} (allowed : F.AllowsCommand c) : F.Agrees s (c.run s).1 := by
  refine Command.run_preserves ?_ fun after effect => ?_
  · rw [Command.left_of_isElementwise allowed.isElementwise]
    exact .refl s
  cases effect with
  | @copyToDevice b data m copied =>
    obtain ⟨bytes, live, _, rfl⟩ := Memory.copyIn_cases copied
    exact agrees_put live allowed _
  | @copyToHost b store bytes copied =>
    have mine : F.stores store.number := allowed
    refine agrees_restore (f := (·.set store.number bytes)) (by simp) fun i other => ?_
    have apart : store.number ≠ i := fun same => other (same ▸ mine)
    exact List.getElem?_set_ne apart
  | @launch kernel arguments m ran =>
    obtain ⟨k, rfl, writes⟩ := allowed
    obtain ⟨values, read, ran⟩ := Attempt.bind_eq_ok ran
    have slots := Memory.length_slots_congr (ElementwiseKernel.sizes_execute ran)
    obtain mine | idle := writes values read
    · refine ⟨Nat.le_of_eq slots.symm, Nat.le_refl _, fun b other => ?_, fun _ _ => rfl⟩
      exact ElementwiseKernel.contents?_execute ran fun same => other (same ▸ mine)
    · cases idle _ _ ran
      exact .refl s
  | @release b m freed =>
    obtain ⟨⟨bytes, live⟩, rfl⟩ := Memory.free_cases freed
    exact agrees_put live allowed none
  | fence => exact .refl s

/-- The footprint has room for everything that is made from here on, and for every failure. -/
structure Room (F : Footprint) (s : Surroundings) : Prop where
  buffers : ∀ b, ¬ s.memory.Issued b → F.buffers b
  stores : ∀ i, s.stores.length ≤ i → F.stores i
  failures : ∀ e, F.failures e

theorem Room.next (room : F.Room s) (agrees : F.Agrees s t) : F.buffers t.memory.next := by
  have slots := agrees.slots
  refine room.buffers _ fun issued => ?_
  have outside : t.memory.slots.length + 1 ≤ s.memory.slots.length := issued.2
  omega

/-- An action that a footprint allows changes nothing outside. -/
theorem agrees_effect {action : Action} (room : F.Room s) (agrees : F.Agrees s t)
    (allowed : F.Allows action) : F.Agrees s (action.effect t) := by
  refine agrees.trans ?_
  cases action with
  | createStore size =>
    refine agrees_restore (f := (· ++ [.zeros size])) (by simp) fun i other => ?_
    have inside : i < t.stores.length := by
      have listed := agrees.stores_le
      have early : i < s.stores.length := Nat.lt_of_not_le fun late => other (room.stores i late)
      omega
    exact List.getElem?_append_left inside
  | patchStore store offset bytes =>
    have mine : F.stores store := allowed
    refine agrees_restore (f := (·.modify store (·.splice offset bytes))) (by simp)
      fun i other => ?_
    have apart : store ≠ i := fun same => other (same ▸ mine)
    exact List.getElem?_modify_ne _ _ apart
  | allocate device size => exact agrees_grow (room.next agrees) size
  | submit stream c => exact agrees_run allowed
  | _ => exact .refl t

end Footprint

open Footprint

/-- What an action that a footprint allows is answered, and what it comes to. -/
theorem Tied.framed {action : Action} (tied : Tied r L w) (allowed : L.Allows r action)
    (within : F.Allows action) (room : F.Room s) (agrees : F.Agrees s w.settled) :
    F.Promises action (action.perform w).1 ∧ F.Agrees s (action.perform w).2.settled := by
  rw [tied.settled_act allowed]
  refine ⟨?_, agrees_effect room agrees within⟩
  obtain ⟨q, u, rfl, tracks⟩ := tied
  rw [World.settled_solo] at agrees
  cases action with
  | createStore size =>
    rw [(tracks.leads_createStore allowed size).performed]
    refine room.stores _ ?_
    have listed := agrees.stores_le
    rwa [tracks.stores_drain allowed] at listed
  | allocate device size =>
    obtain ⟨device_lt, stored⟩ := allowed
    obtain rfl : device = 0 := by
      rw [tracks.devices] at device_lt
      omega
    rw [(tracks.leads_allocate stored).performed]
    have mine := room.next agrees
    rwa [tracks.next_drain] at mine
  | takeFailure stream => exact fun e _ => room.failures e
  | _ => exact trivial

/-- Along every schedule of a careful client that is confined to a footprint, the settled memory and
stores change in that footprint only. -/
theorem reaches_framed {start t : Situation α} (h : Reaches start t) {P : α → Ledger → Prop}
    {Q : α → Bool → Prop} {c : Client α} {acted : Bool} (alone : start.clients = [c])
    (careful : c.Follows r L P) (confined : c.Confined F acted Q) (tied : Tied r L start.world)
    (room : F.Room s) (agrees : F.Agrees s start.world.settled) :
    ∃ d K now, t.clients = [d] ∧ d.Follows r K P ∧ d.Confined F now Q ∧ Tied r K t.world ∧
      F.Agrees s t.world.settled := by
  induction h generalizing L c acted with
  | here => exact ⟨c, L, acted, alone, careful, confined, tied, agrees⟩
  | step move later ih =>
    cases move with
    | @client clients w action next i turn enabled =>
      cases alone
      obtain ⟨rfl, rfl⟩ := turn_alone turn
      obtain ⟨promised, kept, _⟩ := tied.act careful.1 enabled
      obtain ⟨answered, framed⟩ := tied.framed careful.1 confined.1 room agrees
      exact ih rfl (careful.2 _ promised) (confined.2 _ answered) kept framed
    | worker stream served =>
      obtain ⟨kept, same⟩ := tied.serve served
      refine ih alone careful confined kept ?_
      rwa [World.settled, same]

/-! ### Owners -/

namespace Workspace

/-- The libraries of a program on one stream are standard ones. -/
theorem Covered.elementwise (covered : ws.Covered r L) (solo : r ≠ .several) : ws.Elementwise := by
  have standard {d : Device} (known : L.Knows r d) : d.library.Elementwise := by
    have same : d.library = .standard := by
      cases r with
      | manual => exact known.library
      | managed => exact known.library
      | several => exact absurd rfl solo
    rw [same]
    exact Library.exists_of_mem_standard
  exact ⟨fun d member => standard (covered.devices d member),
    fun i s found => standard (covered.streams i s found).device,
    fun i a found => standard (covered.arrays i a found).device⟩

/-- Every array in scope shares the storage of an owner in scope, which may be the array itself. -/
theorem Covered.exists_owner {a : DeviceArray} {i : Nat} (covered : ws.Covered r L)
    (found : ws.array? i = some a) :
    ∃ j o, ws.array? j = some o ∧ o.isView = false ∧ o.storage = a.storage := by
  cases kind : a.isView with
  | false => exact ⟨i, a, found, kind, rfl⟩
  | true => exact covered.rooted i a found kind

/-- Where every buffer has one owner, owners of one buffer have one name. -/
theorem eq_of_holding {a b : DeviceArray} {i j : Nat} (distinct : ws.holdings.Nodup)
    (found : ws.array? i = some a) (there : ws.array? j = some b) (owner : a.isView = false)
    (kind : b.isView = false) (same : b.holding = a.holding) : j = i := by
  by_contra other
  have both := perm_holdings_put found none
  rw [holding?_owner owner, Option.toList_some, List.singleton_append] at both
  have stays : (ws.put i none).array? j = some b := by rw [array?_put found, if_neg other, there]
  have listed := mem_holdings stays kind
  rw [same] at listed
  exact (List.nodup_cons.mp (both.nodup_iff.mp distinct)).1 listed

/-- Arrays of one type that share a buffer are of one size. -/
theorem Covered.size_eq {a b : DeviceArray} {i j : Nat} (covered : ws.Covered r L)
    (single : L.devices = 1) (distinct : ws.holdings.Nodup) (found : ws.array? i = some a)
    (there : ws.array? j = some b) (shared : b.buffer = a.buffer) (type : b.type = a.type) :
    b.size = a.size := by
  obtain ⟨k, o, root, owner, same⟩ := covered.exists_owner found
  obtain ⟨l, v, other, kind, storage⟩ := covered.exists_owner there
  have first := (covered.arrays i a found).device.number
  have second := (covered.arrays j b there).device.number
  have near : b.device.number = a.device.number := by omega
  have held : v.holding = o.holding := by
    rw [holding_eq_of_storage storage, holding_eq_of_storage same, DeviceArray.holding,
      DeviceArray.holding, near, shared]
  obtain rfl := eq_of_holding distinct root other owner kind held
  cases root.symm.trans other
  -- Both are kept in the storage of that owner, whose host store holds their elements.
  have bytes : b.byteSize = a.byteSize := by
    rw [← (covered.arrays j b there).size, ← (covered.arrays i a found).size, DeviceArray.store,
      DeviceArray.store, ← storage, same]
  rw [DeviceArray.byteSize, DeviceArray.byteSize, type] at bytes
  exact Nat.eq_of_mul_eq_mul_right a.type.width_pos bytes

end Workspace

/-- All that a call may change: what it assigns, overwrites or frees, and what it makes. -/
def Request.footprint (request : Request) (ws : Workspace) (s : Surroundings) : Footprint where
  buffers b := ¬ s.memory.Issued b ∨ request.assigned? ws = some b ∨ request.freed? ws = some b
  stores i := s.stores.length ≤ i ∨ request.mirrored? ws = some i
  failures _ := True

variable {request : Request}

theorem Request.Within.of_managed (h : request.Within .managed) : request.Within .manual := by
  cases request with
  | releaseBuffer stream b => rfl
  | countLive stream => rfl
  | openDevice name library => cases h.1
  | openStream device options => cases h
  | closeStream stream => cases h
  | _ => trivial

theorem Request.room_footprint : (request.footprint ws s).Room s :=
  ⟨fun _ new => .inl new, fun _ new => .inl new, fun _ => trivial⟩

theorem Request.fits_footprint (covered : ws.Covered r L) (single : L.devices = 1)
    (distinct : ws.holdings.Nodup) : request.Fits ws (request.footprint ws s) where
  assigned _ same := .inr (.inl same)
  mirrored _ same := .inr same
  freed _ same := .inr (.inr same)
  shared _ _ _ _ found there shared type :=
    .inr (covered.size_eq single distinct found there shared type)

/-- A careful program on one stream, between two of its calls. -/
structure Tied.Between (r : Regime) (ws : Workspace) (L : Ledger) (w : World) : Prop where
  covered : ws.Covered r L
  tied : Tied r L w
  distinct : ws.holdings.Nodup

namespace Tied.Between

variable {c : Client (Reply × Workspace)}

theorem solo (between : Between r ws L w) : r ≠ .several := by
  obtain ⟨q, s, rfl, tracks⟩ := between.tied
  exact tracks.solo

theorem single (between : Between r ws L w) : L.devices = 1 := by
  obtain ⟨q, s, rfl, tracks⟩ := between.tied
  exact tracks.devices

/-- The buffers of all arrays in scope were given out. -/
theorem issued (between : Between r ws L w) {h : Holding} (listed : h ∈ ws.holdings) :
    w.settled.memory.Issued h.buffer := by
  obtain ⟨entry, member, held⟩ := List.mem_filterMap.mp listed
  obtain ⟨i, inside, same⟩ := List.mem_iff_getElem.mp member
  cases entry with
  | none => cases held
  | some a =>
    have found : ws.array? i = some a := by simp [Workspace.array?, inside, same]
    have has := (between.covered.arrays i a found).buffer
    obtain ⟨q, s, rfl, tracks⟩ := between.tied
    rw [World.settled_solo]
    have given := (tracks.drain.allocated _ _ has.1).2
    have own : a.holding = h := by
      cases kind : a.isView with
      | false => simpa [Workspace.holding?, kind] using held
      | true => simp [Workspace.holding?, kind] at held
    exact own ▸ given

theorem confined (between : Between r ws L w) (performed : request.perform ws = some c) :
    request.Confined (request.footprint ws w.settled) ws c :=
  request.confined_perform (between.covered.elementwise between.solo)
    (Request.fits_footprint between.covered between.single between.distinct) performed

theorem device_eq_zero (between : Between r ws L w) {a : DeviceArray} {i : Nat}
    (found : ws.array? i = some a) : a.device.number = 0 := by
  have known := (between.covered.arrays i a found).device.number
  rw [between.single] at known
  omega

/-- Outstanding commands give out no buffer. -/
theorem issued_settled (between : Between r ws L w) {b : BufferId} (h : (w.memory 0).Issued b) :
    w.settled.memory.Issued b := by
  obtain ⟨q, s, rfl, tracks⟩ := between.tied
  have same := tracks.length_slots_drain
  rw [World.settled_solo]
  exact ⟨h.1, same ▸ h.2⟩

theorem settled_stores (between : Between r ws L w) : w.settled.stores = w.stores :=
  between.tied.settled_stores between.covered.still

/-- The buffer that an array call frees belongs to none of the owners that are left. -/
theorem not_freed (between : Between r ws L w) {F : Footprint} {reply : Reply}
    {after : Workspace} {acted : Bool} (closes : request.Closes F ws reply after acted)
    (called : request.Within .managed) {a : DeviceArray} {i : Nat}
    (found : after.array? i = some a) (owner : a.isView = false) :
    request.freed? ws ≠ some a.buffer := by
  intro freed
  have left := closes.freed (by simp [freed])
  have gone {name : Nat} (same : after = ws.put name none)
      (frees : ((ws.array? name).bind fun o => if o.isView then none else some o.buffer) =
        some a.buffer) : False := by
    obtain ⟨o, there, held⟩ := Option.bind_eq_some_iff.mp frees
    subst same
    rw [Workspace.array?_put there] at found
    split at found
    case isTrue => cases found
    case isFalse other =>
      split at held
      case isTrue => cases held
      case isFalse kind =>
        have shared : a.holding = o.holding := by
          rw [DeviceArray.holding, DeviceArray.holding, between.device_eq_zero found,
            between.device_eq_zero there, Option.some.inj held]
        exact other (Workspace.eq_of_holding between.distinct there found (by simpa using kind)
          owner shared)
  cases request with
  | release name => exact gone left freed
  | drop name => exact gone left freed
  | releaseBuffer stream b => cases called
  | _ => cases freed

/-- No two owners share a buffer after a call either. -/
theorem nodup_after (between : Between r ws L w) {reply : Reply} {after : Workspace}
    {acted : Bool}
    (closes : request.Closes (request.footprint ws w.settled) ws reply after acted) :
    after.holdings.Nodup := by
  obtain kept | ⟨h, new, fills, frees, same⟩ := closes.owners
  · exact between.distinct.sublist kept
  · have fresh : h ∉ ws.holdings := by
      intro listed
      obtain late | assigned | freed := new
      · exact late (between.issued listed)
      · simp [fills] at assigned
      · simp [frees] at freed
    rw [same, (List.perm_append_singleton h ws.holdings).nodup_iff]
    exact List.nodup_cons.mpr ⟨fresh, between.distinct⟩

end Tied.Between

/-- What a program knows of its arrays between two calls holds at its end. -/
theorem Program.between_of_reaches {p : Program} {log : List (Request × Option Reply)}
    {outcome : Outcome} {v : World} (between : Tied.Between r ws L w) (within : p.Within r)
    (h : Reaches ⟨[p.client ws log], w⟩ ⟨[.done outcome], v⟩) :
    ∃ K, Tied.Between r outcome.workspace K v := by
  induction p generalizing ws L w log with
  | done =>
    obtain ⟨d, K, rest, followed, tied, _⟩ := reaches_run h rfl
      (Q := fun a K => a = ⟨log, ws⟩ ∧ K = L) ⟨rfl, rfl⟩ between.tied
    cases rest
    obtain ⟨rfl, rfl⟩ := followed
    exact ⟨K, between.covered, tied, between.distinct⟩
  | call request next ih =>
    unfold client at h
    cases performed : request.perform ws with
    | none =>
      rw [performed] at h
      exact ih none between (within.2 none) h
    | some work =>
      rw [performed] at h
      obtain ⟨⟨⟨reply, after⟩, issued⟩, u, first, later⟩ := h.of_bind
      have runs := request.follows_perform between.covered within.1 performed
      obtain ⟨d, K, now, rest, followed, closes, tied, _⟩ := reaches_framed first rfl
        (runs.recording between.covered.issued) (between.confined performed).recording
        between.tied Request.room_footprint (.refl _)
      cases rest
      obtain ⟨ended, gave⟩ := followed
      have closes : request.Closes _ ws reply after now := closes
      have covered : { after with issued }.Covered r K := { ended.covered with issued := gave }
      have distinct : after.holdings.Nodup := between.nodup_after closes
      exact ih (some reply) ⟨covered, tied, distinct⟩ (within.2 (some reply)) later

/-- Take any state that a program on one stream can reach between two of its calls, releases by hand
included, and any call of an array in scope. Whatever the worker does meanwhile, the call can go on
to its end. Once the worker has then done everything, the buffer of every owner in scope that was
made before the call holds what it would hold without the call, or is freed just as well, unless the
call assigns to it; and every host store that was there before is what it was, unless the call
overwrites it. That is so whether the call succeeds or not, and whether its commands do. -/
theorem calls_leave_other_storage_alone {p : Program} {id : DeviceId} {options : StreamOptions}
    (within : p.Within .manual) {outcome : Outcome} {w : World}
    (h : Reaches ⟨[p.onOneStream id options], .opened⟩ ⟨[.done outcome], w⟩) {request : Request}
    (called : request.Within .managed) {c : Client (Reply × Workspace)}
    (performed : request.perform outcome.workspace = some c) {t : Situation (Reply × Workspace)}
    (later : Reaches ⟨[c], w⟩ t) :
    (∃ result u, Reaches t ⟨[.done result], u⟩) ∧
      ∀ reply after, t.clients = [.done (reply, after)] →
        (∀ i a, after.array? i = some a → a.isView = false → (w.memory 0).Issued a.buffer →
          request.assigned? outcome.workspace ≠ some a.buffer →
            t.world.settled.memory.contents? a.buffer = w.settled.memory.contents? a.buffer) ∧
          ∀ i, i < w.stores.length → request.mirrored? outcome.workspace ≠ some i →
            t.world.stores[i]? = w.stores[i]? ∧ t.world.settled.stores[i]? = w.stores[i]? := by
  have solo : Regime.manual ≠ .several := nofun
  have opened : Tied.Between .manual (.single id options) .fresh .opened :=
    ⟨Workspace.covered_single solo id options, tied_opened solo, List.nodup_nil⟩
  obtain ⟨L, between⟩ := Program.between_of_reaches opened within h
  have careful := request.follows_perform between.covered (called.of_managed) performed
  obtain ⟨d, K, now, rest, followed, closes, tied, agrees⟩ := reaches_framed later rfl careful
    (between.confined performed) between.tied Request.room_footprint (.refl _)
  refine ⟨?_, fun reply after ended => ?_⟩
  · obtain ⟨u, further, _⟩ := reaches_done followed tied
    obtain ⟨clients, world⟩ := t
    cases rest
    exact ⟨_, u, further⟩
  · cases rest.symm.trans ended
    have closes : request.Closes _ _ reply after now := closes
    refine ⟨fun i a found owner issued fills => agrees.buffers _ ?_, fun i inside mirrors => ?_⟩
    · rintro (late | assigned | freed)
      · exact late (between.issued_settled issued)
      · exact fills assigned
      · exact between.not_freed closes called found owner freed
    · have same := agrees.stores i (by
        rintro (late | overwritten)
        · rw [between.settled_stores] at late
          omega
        · exact mirrors overwritten)
      have rests := tied.settled_stores followed.covered.still
      rw [between.settled_stores] at same
      exact ⟨rests ▸ same, same⟩

/-- The magnitudes of an array of ones that are still to be computed when the call returns. -/
theorem calls_leave_other_storage_alone_abs :
    let p : Program := .call (.ones 0 [1] (.signed .w8)) fun _ => .done
    ∃ outcome w c t, Reaches ⟨[p.onOneStream ⟨0⟩ ⟨false, none⟩], .opened⟩ ⟨[.done outcome], w⟩ ∧
      (Request.abs 0).perform outcome.workspace = some c ∧ Reaches ⟨[c], w⟩ t ∧
        t.world.busy = [0] ∧ t.world.settled.memory.contents? ⟨1⟩ = some [1] := by
  intro p
  have within : p.Within .manual := ⟨trivial, fun _ => trivial⟩
  have ran : ∃ outcome w c t reply after a,
      Reaches ⟨[p.onOneStream ⟨0⟩ ⟨false, none⟩], .opened⟩ ⟨[.done outcome], w⟩ ∧
      (Request.abs 0).perform outcome.workspace = some c ∧ Reaches ⟨[c], w⟩ t ∧
        t.world.busy = [0] ∧ w.settled.memory.contents? ⟨1⟩ = some [1] ∧
        t.clients = [.done (reply, after)] ∧ after.array? 0 = some a ∧ a.buffer = ⟨1⟩ ∧
          a.isView = false ∧ (w.memory 0).slots.length = 1 :=
    ⟨_, _, _, _, _, _, _, .step (.client 0 rfl rfl) (.step (.client 0 rfl rfl)
      (.step (.client 0 rfl rfl) (.step (.worker 0 rfl) (.step (.worker 0 rfl)
        (.step (.worker 0 rfl) (.here _)))))), rfl, .step (.client 0 rfl rfl)
      (.step (.client 0 rfl rfl) (.step (.client 0 rfl rfl) (.here _))), rfl, rfl, rfl, rfl, rfl,
      rfl, rfl⟩
  obtain ⟨outcome, w, c, t, reply, after, a, h, performed, later, busy, before, ended, found,
    buffer, owner, one⟩ := ran
  have called : (Request.abs 0).Within .managed := trivial
  obtain ⟨_, ends⟩ := calls_leave_other_storage_alone within h called performed later
  have issued : (w.memory 0).Issued a.buffer := by
    rw [buffer]
    exact ⟨Nat.one_pos, Nat.le_of_eq one.symm⟩
  have same := (ends reply after ended).1 0 a found owner issued nofun
  rw [buffer, before] at same
  exact ⟨outcome, w, c, t, h, performed, later, busy, same⟩
end DeviceArrays
