import DeviceArrays.Proofs.Program.Scope

/-!
# Programs are careful clients

Whatever calls a program makes, in whatever order, it takes only allowed actions. What is in its
scope fits its ledger after every call, and where nothing fails on the device every error it is told
is that of a check.
-/
namespace DeviceArrays

variable {α : Type} {r : Regime} {L K : Ledger} {ws : Workspace} {request : Request}

/-- Which calls a program may make: by hand only where that is looked at, and with devices and
streams of its own only where there may be several. -/
def Request.Within (r : Regime) : Request → Prop
  | .releaseBuffer .. | .countLive _ => r = .manual
  | .openDevice _ library => r = .several ∧ ∀ k ∈ library.kernels, k.Steady
  | .openStream .. | .closeStream _ => r = .several
  | _ => True

def Program.Within (r : Regime) : Program → Prop
  | .done => True
  | .call request next => request.Within r ∧ ∀ reply, (next reply).Within r

/-- What a call may reply where nothing fails on the device: an error is that of a check, and a call
that only waits has none. -/
def Request.Admits (request : Request) (reply : Reply) : Prop :=
  ∀ e, reply = .error e → e.IsRefusal ∧ request.waits = false

/-- How a call ends. -/
structure Request.Ends (request : Request) (r : Regime) (L : Ledger) (reply : Reply)
    (after : Workspace) (K : Ledger) : Prop where
  covered : after.Covered r K
  sound : K.Sound r → L.Sound r
  admits : K.Sound r → request.Admits reply
  rested : request.waits = true → K.settled.isSome

/-- A call that does not wait gives an answer. -/
theorem Request.Ends.of_answer {answer : Answer} (busy : request.waits = false)
    (covered : ws.Covered r K) (sound : K.Sound r → L.Sound r) :
    request.Ends r L (.ok answer) ws K where
  covered := covered
  sound := sound
  admits _ e same := by cases same
  rested waits := by simp [busy] at waits

/-- A call that does not wait ends with an error. -/
theorem Request.Ends.of_refusal {e : Error} (busy : request.waits = false)
    (covered : ws.Covered r K) (sound : K.Sound r → L.Sound r)
    (refusal : K.Sound r → e.IsRefusal) : request.Ends r L (.error e) ws K where
  covered := covered
  sound := sound
  admits isSound f same := by
    cases same
    exact ⟨refusal isSound, busy⟩
  rested waits := by simp [busy] at waits

/-- The client of a call takes only allowed actions, and the call ends well. -/
abbrev Request.Follows (request : Request) (r : Regime) (c : Client (Reply × Workspace))
    (L : Ledger) : Prop :=
  c.Follows r L fun (reply, after) K => request.Ends r L reply after K

namespace Workspace

theorem Covered.operand {source : Source} {operand : Operand} (covered : ws.Covered r L)
    (found : ws.operand? source = some operand) : L.HoldsOperand r operand := by
  cases source with
  | array name =>
    obtain ⟨a, there, rfl⟩ := Option.map_eq_some_iff.mp found
    exact covered.arrays name a there
  | grid g =>
    cases found
    trivial
  | scalar value =>
    cases found
    trivial

/-- A call after which the scope still fits, whether it is what it was before or not. -/
theorem follows_tell_of {call : Call α} {answer : α → Answer} (busy : request.waits = false)
    (runs : Call.Follows r call L (fun _ K => ws.Covered r K ∧ (K.Sound r → L.Sound r))
      fun e K => ws.Covered r K ∧ (K.Sound r → L.Sound r ∧ e.IsRefusal)) :
    request.Follows r (ws.tell call answer) L := by
  refine Client.Follows.bind (Client.Follows.mono runs fun result K ended => ?_)
  cases result with
  | ok a => exact .of_answer busy ended.1 ended.2
  | error e =>
    obtain ⟨covered, refusal⟩ := ended
    exact .of_refusal busy covered (fun sound => (refusal sound).1) fun sound => (refusal sound).2

theorem follows_tell {call : Call α} {answer : α → Answer} (covered : ws.Covered r L)
    (busy : request.waits = false)
    (runs : Call.Follows r call L (fun _ K => L.Yields L.owned K) (L.Refuses r)) :
    request.Follows r (ws.tell call answer) L :=
  follows_tell_of busy (runs.mono (fun _ _ yields => ⟨covered.of_yields yields, .of_yields yields⟩)
    fun _ _ refuses => ⟨covered.of_yields refuses.yields,
      fun sound => ⟨.of_yields refuses.yields sound, refuses.refusal sound⟩⟩)

/-- A call without checks of its own ends well where nothing fails on the device. -/
theorem follows_tell_waiting {call : Call α} {answer : α → Answer} {stream : Nat}
    (covered : ws.Covered r L)
    (runs : Call.Follows r call L (fun _ K => L.Yields L.owned K ∧ K.settled = some stream)
      fun _ K => L.Yields L.owned K ∧ K.settled = some stream ∧ ¬ K.Sound r) :
    request.Follows r (ws.tell call answer) L := by
  refine Client.Follows.bind (Client.Follows.mono runs fun result K ended => ?_)
  cases result with
  | ok a =>
    obtain ⟨yields, settled⟩ := ended
    exact ⟨covered.of_yields yields, .of_yields yields, (fun _ e same => by cases same),
      fun _ => by simp [settled]⟩
  | error e =>
    obtain ⟨yields, settled, failed⟩ := ended
    exact ⟨covered.of_yields yields, .of_yields yields, fun sound => absurd sound failed,
      fun _ => by simp [settled]⟩

theorem follows_keep {call : Call DeviceArray} (covered : ws.Covered r L)
    (busy : request.waits = false)
    (runs : Call.Follows r call L (fun a K => ∃ description, L.Makes r description a K)
      (L.Refuses r)) :
    request.Follows r (ws.keep call) L := by
  refine Client.Follows.bind (Client.Follows.mono runs fun result K ended => ?_)
  cases result with
  | ok a =>
    obtain ⟨description, made⟩ := ended
    exact .of_answer busy (covered.of_makes made) (.of_yields made.yields)
  | error e =>
    obtain ⟨yields, refusal⟩ := ended
    exact .of_refusal busy (covered.of_yields yields) (.of_yields yields) refusal

theorem isRefusal_of_reshape {a : DeviceArray} {extents : List Nat} {e : Error}
    (h : a.reshape extents = .error e) : e.IsRefusal := by
  unfold DeviceArray.reshape at h
  split at h
  case h_1 =>
    cases h
    trivial
  case h_2 =>
    split at h
    case isTrue => cases h
    case isFalse =>
      cases h
      trivial

theorem follows_keep_view {a : DeviceArray} {i : Nat} {extents : List Nat}
    (covered : ws.Covered r L) (busy : request.waits = false) (found : ws.array? i = some a) :
    request.Follows r (ws.keep (Call.check (a.reshape extents))) L := by
  cases view : a.reshape extents with
  | ok b => exact .of_answer busy (covered.of_view found view) id
  | error e => exact .of_refusal busy covered id fun _ => isRefusal_of_reshape view

/-- An owner is released and goes out of scope. A view is refused, but gone as well. -/
theorem follows_tell_release {a : DeviceArray} {i : Nat} {answer : Unit → Answer}
    (covered : ws.Covered r L) (busy : request.waits = false) (found : ws.array? i = some a)
    (free : ws.pinned a = false) : request.Follows r ((ws.put i none).tell a.release answer) L := by
  refine follows_tell_of busy ?_
  cases kind : a.ownership with
  | owner =>
    have owner : a.isView = false := by simp [DeviceArray.isView, kind]
    refine DeviceArray.follows_release_owner (covered.arrays _ a found) kind covered.still ?_
    exact fun K dropped => ⟨covered.without_owner found owner free dropped, .of_yields dropped⟩
  | view root =>
    have view : a.isView = true := by simp [DeviceArray.isView, kind]
    rw [DeviceArray.release, kind]
    exact Call.follows_throw ⟨covered.without_view found view, fun sound => ⟨sound, trivial⟩⟩

theorem follows_tell_drop {a : DeviceArray} {i : Nat} {answer : Unit → Answer}
    (covered : ws.Covered r L) (busy : request.waits = false) (found : ws.array? i = some a)
    (free : ws.pinned a = false) :
    request.Follows r ((ws.put i none).tell (ExceptT.lift a.drop) answer) L := by
  refine follows_tell_of busy (Call.follows_lift ?_)
  cases kind : a.ownership with
  | owner =>
    have owner : a.isView = false := by simp [DeviceArray.isView, kind]
    refine DeviceArray.follows_drop_owner (covered.arrays _ a found) kind covered.still ?_
    exact fun K dropped => ⟨covered.without_owner found owner free dropped, .of_yields dropped⟩
  | view root =>
    have view : a.isView = true := by simp [DeviceArray.isView, kind]
    rw [DeviceArray.drop, kind]
    exact ⟨covered.without_view found view, id⟩

/-- A release by hand leaves everything as it is, as far as such a client knows. -/
theorem Covered.of_manual {owned : List Holding} (covered : ws.Covered .manual L)
    (h : L.Yields owned K) : ws.Covered .manual K :=
  covered.of_arrays h rfl
    (fun i a found => (covered.arrays i a found).of_yields h fun careful => absurd rfl careful)
    covered.rooted fun careful => absurd rfl careful

end Workspace

namespace Request

variable {c : Client (Reply × Workspace)}

theorem exists_of_lookUp? {look : Nat → Option α} {name : Option Nat} {x : α}
    (found : lookUp? look name = some (some x)) : ∃ i, look i = some x := by
  cases name with
  | none => cases found
  | some i =>
    refine ⟨i, ?_⟩
    simpa [lookUp?] using found

theorem assignStream_cases (a : DeviceArray) (s : Stream) :
    (a.assignStream s = .ok { a with stream := s } ∧ s.device.number = a.device.number) ∨
      ∃ e, a.assignStream s = .error e ∧ e.IsRefusal := by
  unfold DeviceArray.assignStream
  split
  case isTrue near => exact .inl ⟨rfl, by simpa [Device.same] using near⟩
  case isFalse => exact .inr ⟨_, rfl, trivial⟩

/-- A call of an array in scope. -/
theorem follows_of_array {name : Nat} {f : DeviceArray → Client (Reply × Workspace)}
    {Q : Reply × Workspace → Ledger → Prop} (covered : ws.Covered r L)
    (performed : (do return f (← ws.array? name)) = some c)
    (runs : ∀ a, L.Holds r a → (f a).Follows r L Q) : c.Follows r L Q := by
  obtain ⟨a, found, performed⟩ := Option.bind_eq_some_iff.mp performed
  cases performed
  exact runs a (covered.arrays name a found)

/-- A call of a stream in scope. -/
theorem follows_of_stream {name : Nat} {f : Stream → Client (Reply × Workspace)}
    {Q : Reply × Workspace → Ledger → Prop} (covered : ws.Covered r L)
    (performed : (do return f (← ws.stream? name)) = some c)
    (runs : ∀ s, L.Drives r s → (f s).Follows r L Q) : c.Follows r L Q := by
  obtain ⟨s, found, performed⟩ := Option.bind_eq_some_iff.mp performed
  cases performed
  exact runs s (covered.streams name s found)

theorem follows_build {extents : List Nat} {type : ElementType} {layout : Layout}
    {device stream : Option Nat} (covered : ws.Covered r L)
    (performed : (Request.build extents type layout device stream).perform ws = some c) :
    (Request.build extents type layout device stream).Follows r c L := by
  obtain ⟨d, devices, performed⟩ := Option.bind_eq_some_iff.mp performed
  obtain ⟨s, streams, performed⟩ := Option.bind_eq_some_iff.mp performed
  cases performed
  refine Workspace.follows_keep covered rfl (DeviceArray.follows_build ?_ ?_ covered.still ?_ ?_)
  · rintro e rfl
    obtain ⟨i, there⟩ := exists_of_lookUp? devices
    exact covered.devices e (List.mem_of_getElem? there)
  · rintro t rfl
    obtain ⟨i, there⟩ := exists_of_lookUp? streams
    exact covered.streams i t there
  · exact fun a K made => ⟨_, made⟩
  · exact fun e refused => .of_refusal covered.still refused

theorem follows_assignStream {array stream : Nat} (covered : ws.Covered r L)
    (performed : (Request.assignStream array stream).perform ws = some c) :
    (Request.assignStream array stream).Follows r c L := by
  obtain ⟨a, found, performed⟩ := Option.bind_eq_some_iff.mp performed
  obtain ⟨s, there, performed⟩ := Option.bind_eq_some_iff.mp performed
  dsimp only at performed
  split at performed
  case isTrue => cases performed
  case isFalse =>
    obtain ⟨assigned, near⟩ | ⟨e, refused, refusal⟩ := assignStream_cases a s
    · rw [assigned] at performed
      cases performed
      exact .of_answer rfl (covered.of_assign found (covered.streams _ s there) near) id
    · rw [refused] at performed
      cases performed
      exact .of_refusal rfl covered id fun _ => refusal

theorem follows_releaseBuffer {stream : Nat} {b : BufferId} (covered : ws.Covered r L)
    (within : r = .manual)
    (performed : (Request.releaseBuffer stream b).perform ws = some c) :
    (Request.releaseBuffer stream b).Follows r c L := by
  cases within
  obtain ⟨s, found, performed⟩ := Option.bind_eq_some_iff.mp performed
  dsimp only at performed
  split at performed
  case isTrue => cases performed
  case isFalse known =>
    cases performed
    obtain ⟨n, given⟩ := covered.issued _ (Decidable.not_not.mp known)
    have has : L.Has .manual s.device.number b n := ⟨given, fun careful => absurd rfl careful⟩
    refine Workspace.follows_tell_of rfl
      (Stream.follows_release (covered.streams _ s found) has covered.still fun K released => ?_)
    exact ⟨covered.of_manual released, .of_yields released⟩

theorem follows_openDevice {id : DeviceId} {library : Library} (covered : ws.Covered r L)
    (within : r = .several ∧ ∀ k ∈ library.kernels, k.Steady)
    (performed : (Request.openDevice id library).perform ws = some c) :
    (Request.openDevice id library).Follows r c L := by
  obtain ⟨several, steady⟩ := within
  cases several
  cases performed
  refine Client.Follows.bind (Client.Follows.bind ⟨rfl, fun number promised => ?_⟩)
  have number_eq : number = L.devices := promised
  subst number_eq
  have known : (L.next .openDevice L.devices).Knows .several ⟨L.devices, id, library⟩ :=
    ⟨Nat.lt_succ_self _, steady⟩
  exact .of_answer rfl (covered.of_opened_device known) fun sound => by cases sound.1

theorem follows_openStream {device : Nat} {options : StreamOptions} (covered : ws.Covered r L)
    (within : r = .several)
    (performed : (Request.openStream device options).perform ws = some c) :
    (Request.openStream device options).Follows r c L := by
  cases within
  obtain ⟨d, found, performed⟩ := Option.bind_eq_some_iff.mp performed
  cases performed
  have known := covered.devices d (List.mem_of_getElem? found)
  refine Client.Follows.bind
    (Client.Follows.bind ⟨⟨rfl, known.number⟩, fun number promised => ?_⟩)
  have opened := covered.of_opened_stream (s := ⟨number, d, options⟩) known promised
  exact .of_answer rfl opened fun sound => by cases sound.1

theorem follows_closeStream {stream : Nat} (covered : ws.Covered r L) (within : r = .several)
    (performed : (Request.closeStream stream).perform ws = some c) :
    (Request.closeStream stream).Follows r c L := by
  cases within
  obtain ⟨s, found, performed⟩ := Option.bind_eq_some_iff.mp performed
  dsimp only at performed
  split at performed
  case isTrue => cases performed
  case isFalse free =>
    cases performed
    refine Workspace.follows_tell_of rfl (Stream.follows_close (covered.streams _ s found) ?_)
    have closed := covered.of_closed_stream found (by simpa using free)
    exact ⟨closed, fun sound => by cases sound.1⟩

/-- Every call takes only allowed actions and keeps scope and ledger together. -/
theorem follows_perform (covered : ws.Covered r L) (within : request.Within r)
    (performed : request.perform ws = some c) : request.Follows r c L := by
  have still := covered.still
  have made {a : DeviceArray} {description : ArrayRequest} {K : Ledger}
      (h : L.Makes r description a K) : ∃ description, L.Makes r description a K := ⟨description, h⟩
  cases request with
  | build extents type layout device stream => exact follows_build covered performed
  | empty stream extents type layout mirrored =>
    refine follows_of_stream covered performed fun s driven => ?_
    exact Workspace.follows_keep covered rfl
      (Stream.follows_empty driven still (fun a K => made) fun e K => id)
  | emptyLike stream like mirrored =>
    obtain ⟨s, found, performed⟩ := Option.bind_eq_some_iff.mp performed
    obtain ⟨a, _, performed⟩ := Option.bind_eq_some_iff.mp performed
    cases performed
    exact Workspace.follows_keep covered rfl
      (Stream.follows_empty (covered.streams _ s found) still (fun a K => made) fun e K => id)
  | zeros stream extents type =>
    refine follows_of_stream covered performed fun s driven => ?_
    exact Workspace.follows_keep covered rfl
      (Stream.follows_filled driven still (fun a K => made) fun e K => id)
  | ones stream extents type =>
    refine follows_of_stream covered performed fun s driven => ?_
    exact Workspace.follows_keep covered rfl
      (Stream.follows_filled driven still (fun a K => made) fun e K => id)
  | bind stream g =>
    refine follows_of_stream covered performed fun s driven => ?_
    exact Workspace.follows_keep covered rfl
      (Stream.follows_bindWith driven still (fun a K => made) fun e K => id)
  | binary array operation source =>
    obtain ⟨a, found, performed⟩ := Option.bind_eq_some_iff.mp performed
    obtain ⟨operand, right, performed⟩ := Option.bind_eq_some_iff.mp performed
    cases performed
    exact Workspace.follows_keep covered rfl (DeviceArray.follows_binary (covered.arrays _ a found)
      (covered.operand right) still (fun a K => made) fun e K => id)
  | abs array =>
    refine follows_of_array covered performed fun a holds => ?_
    exact Workspace.follows_keep covered rfl
      (DeviceArray.follows_abs holds still (fun a K => made) fun e K => id)
  | reverse array =>
    refine follows_of_array covered performed fun a holds => ?_
    exact Workspace.follows_keep covered rfl
      (DeviceArray.follows_reverse holds still (fun a K => made) fun e K => id)
  | fill array value =>
    refine follows_of_array covered performed fun a holds => ?_
    exact Workspace.follows_tell covered rfl
      (DeviceArray.follows_fill holds still (fun K => id) fun e K => id)
  | zero array =>
    refine follows_of_array covered performed fun a holds => ?_
    exact Workspace.follows_tell covered rfl
      (DeviceArray.follows_fill holds still (fun K => id) fun e K => id)
  | one array =>
    refine follows_of_array covered performed fun a holds => ?_
    exact Workspace.follows_tell covered rfl
      (DeviceArray.follows_fill holds still (fun K => id) fun e K => id)
  | fillFrom array g =>
    refine follows_of_array covered performed fun a holds => ?_
    exact Workspace.follows_tell covered rfl
      (DeviceArray.follows_fillFrom holds still (fun K => id) fun e K => id)
  | setSlice array start stop source =>
    obtain ⟨a, found, performed⟩ := Option.bind_eq_some_iff.mp performed
    obtain ⟨operand, right, performed⟩ := Option.bind_eq_some_iff.mp performed
    cases performed
    exact Workspace.follows_tell covered rfl (DeviceArray.follows_setSlice
      (covered.arrays _ a found) (covered.operand right) still (fun K => id) fun e K => id)
  | updateDevice array =>
    refine follows_of_array covered performed fun a holds => ?_
    exact Workspace.follows_tell covered rfl
      (DeviceArray.follows_updateDevice holds still fun K => id)
  | updateHost array =>
    refine follows_of_array covered performed fun a holds => ?_
    exact Workspace.follows_tell_waiting covered (DeviceArray.follows_updateHost
      holds (fun K yields settled => ⟨yields, settled⟩)
      fun e K yields settled failed => ⟨yields, settled, failed⟩)
  | reshape array extents =>
    obtain ⟨a, found, performed⟩ := Option.bind_eq_some_iff.mp performed
    cases performed
    exact Workspace.follows_keep_view covered rfl found
  | ravel array =>
    obtain ⟨a, found, performed⟩ := Option.bind_eq_some_iff.mp performed
    cases performed
    exact Workspace.follows_keep_view covered rfl found
  | hostBytes array =>
    refine follows_of_array covered performed fun a holds => ?_
    exact Workspace.follows_tell covered rfl
      (DeviceArray.follows_hostBytes holds still fun _ _ => .refl still)
  | elements array type =>
    refine follows_of_array covered performed fun a holds => ?_
    exact Workspace.follows_tell covered rfl
      (DeviceArray.follows_elements holds still (fun _ => .refl still) fun e => .of_refusal still)
  | gridElements array type =>
    refine follows_of_array covered performed fun a holds => ?_
    exact Workspace.follows_tell covered rfl (DeviceArray.follows_gridElements
      holds still (fun _ => .refl still) fun e => .of_refusal still)
  | text array =>
    refine follows_of_array covered performed fun a holds => ?_
    exact Workspace.follows_tell covered rfl
      (DeviceArray.follows_text holds still (fun _ => .refl still) fun e => .of_refusal still)
  | assignStream array stream => exact follows_assignStream covered performed
  | release array =>
    obtain ⟨a, found, performed⟩ := Option.bind_eq_some_iff.mp performed
    dsimp only at performed
    split at performed
    case isTrue => cases performed
    case isFalse free =>
      cases performed
      exact Workspace.follows_tell_release covered rfl found (by simpa using free)
  | drop array =>
    obtain ⟨a, found, performed⟩ := Option.bind_eq_some_iff.mp performed
    dsimp only at performed
    split at performed
    case isTrue => cases performed
    case isFalse free =>
      cases performed
      exact Workspace.follows_tell_drop covered rfl found (by simpa using free)
  | synchronize stream =>
    refine follows_of_stream covered performed fun s driven => ?_
    exact Workspace.follows_tell_waiting covered (Stream.follows_synchronize
      driven (fun K yields settled => ⟨yields, settled⟩)
      fun e K yields settled failed => ⟨yields, settled, failed⟩)
  | releaseBuffer stream b => exact follows_releaseBuffer covered within performed
  | countLive stream =>
    cases within
    obtain ⟨s, found, performed⟩ := Option.bind_eq_some_iff.mp performed
    cases performed
    refine Workspace.follows_tell covered rfl (Call.Follows.bind (Stream.follows_synchronize
      (covered.streams _ s found) ?_ ?_))
    · intro K yields settled
      exact Call.follows_perform (by simp [Ledger.Allows, settled]) fun _ _ => yields
    · exact fun e K yields _ failed => .of_not_sound yields failed
  | openDevice id library => exact follows_openDevice covered within performed
  | openStream device options => exact follows_openStream covered within performed
  | closeStream stream => exact follows_closeStream covered within performed

end Request

/-- The buffers that were all made by allocations of the client. -/
def Ledger.Gave (L : Ledger) (given : List (Nat × BufferId)) : Prop :=
  ∀ b ∈ given, ∃ n, (⟨b.1, b.2⟩, n) ∈ L.allocated

theorem Ledger.Gave.next {given : List (Nat × BufferId)} (h : L.Gave given) (action : Action)
    (reply : action.Reply) : (L.next action reply).Gave (action.handed reply ++ given) := by
  have kept : ∀ {x}, x ∈ L.allocated → x ∈ (L.next action reply).allocated := by
    intro x member
    cases action with
    | allocate device size => exact .tail _ member
    | submit stream command => cases reply <;> exact member
    | _ => exact member
  intro b member
  obtain new | old := List.mem_append.mp member
  · cases action with
    | allocate device size =>
      cases List.mem_singleton.mp new
      exact ⟨size, .head _⟩
    | _ => cases new
  · obtain ⟨n, there⟩ := h b old
    exact ⟨n, kept there⟩

/-- A client that tells which buffers it was given is as careful, and tells the truth. -/
theorem Client.Follows.recording {c : Client α} {Q : α → Ledger → Prop}
    {given : List (Nat × BufferId)} (h : c.Follows r L Q) (gave : L.Gave given) :
    (c.recording given).Follows r L fun (a, issued) K => Q a K ∧ K.Gave issued := by
  induction c generalizing L given with
  | done a => exact ⟨h, gave⟩
  | act action next ih =>
    exact ⟨h.1, fun reply promised => ih reply (h.2 reply promised) (gave.next action reply)⟩

/-- Every reply of a log is one that its call may give where nothing fails on the device. -/
def Admitted (log : List (Request × Option Reply)) : Prop :=
  ∀ entry ∈ log, ∀ reply, entry.2 = some reply → entry.1.Admits reply

theorem admitted_nil : Admitted [] := fun _ member => by cases member

theorem Admitted.snoc {log : List (Request × Option Reply)} {reply : Option Reply}
    (h : Admitted log) (last : ∀ answer, reply = some answer → request.Admits answer) :
    Admitted (log ++ [(request, reply)]) := by
  intro entry member answer same
  obtain old | new := List.mem_append.mp member
  · exact h entry old answer same
  · cases List.mem_singleton.mp new
    exact last answer same

/-- Where the last call of a log only waited, everything is done. -/
def Rested (log : List (Request × Option Reply)) (L : Ledger) : Prop :=
  ∀ request reply, log.getLast? = some (request, some reply) → request.waits = true →
    L.settled.isSome

theorem rested_nil : Rested [] L := fun _ _ last => by cases last

/-- Every program is careful, to its end. -/
theorem Program.follows_client {p : Program} {log : List (Request × Option Reply)}
    (covered : ws.Covered r L) (within : p.Within r) (admitted : L.Sound r → Admitted log)
    (rested : Rested log L) :
    (p.client ws log).Follows r L fun outcome K => outcome.workspace.Covered r K ∧
      (K.Sound r → Admitted outcome.log) ∧ Rested outcome.log K := by
  induction p generalizing L ws log with
  | done => exact ⟨covered, admitted, rested⟩
  | call request next ih =>
    unfold client
    cases performed : request.perform ws with
    | none =>
      refine ih none covered (within.2 none) (fun sound => (admitted sound).snoc nofun) ?_
      intro other reply last
      simp at last
    | some work =>
      have runs := request.follows_perform covered within.1 performed
      refine Client.Follows.bind (Client.Follows.mono (runs.recording covered.issued) ?_)
      rintro ⟨⟨reply, after⟩, issued⟩ K ⟨ended, gave⟩
      have reissued : { after with issued }.Covered r K := { ended.covered with issued := gave }
      refine ih (some reply) reissued (within.2 (some reply)) (fun sound => ?_) ?_
      · refine (admitted (ended.sound sound)).snoc fun answer same => ?_
        cases same
        exact ended.admits sound
      · intro other answer last
        obtain ⟨rfl, _⟩ : request = other ∧ reply = answer := by simpa using last
        exact ended.rested

end DeviceArrays
