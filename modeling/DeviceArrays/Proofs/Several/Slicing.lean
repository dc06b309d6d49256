import DeviceArrays.Proofs.Several.Assigning

/-!
# Calls that assign a slice

An array as the source of an assignment is there already. A grid is bound for it: a new buffer is
filled with its bytes, and released behind the launch. Either way the launch is submitted with the
source on its way, and what the call answers is at most a failure of what was queued before.
-/
namespace DeviceArrays

variable {P : Assertion} {E : Error → Assertion} {w after v : World} {trace : List Moment}
  {a : DeviceArray} {start stop : Nat} {source : BufferId} {data? old? : Option Bytes}
  {post : List Command} {c : Command}

/-- Where a stream is open, a submission is numbered. -/
theorem Stream.ensures_submit {s : Stream} {Q : Nat → Assertion} (stable : ∀ n, (Q n).Stable)
    (step : ∀ w trace, P w trace → ∃ d q after, w.Lane d s.number q ∧
      (Action.submit s.number c).perform w = (some (q.submitted + 1), after) ∧
        Q (q.submitted + 1) after (trace ++ [⟨w, .client 0 (.submit s.number c)⟩])) :
    Call.Ensures (s.submit c) P Q E := by
  let R : Option Nat → Assertion := fun reply w trace => ∃ n, reply = some n ∧ Q n w trace
  have kept : ∀ reply, (R reply).Stable := fun reply w after trace stream ⟨n, same, holds⟩ served =>
    ⟨n, same, stable n w after trace stream holds served⟩
  have submits : Call.Ensures (Call.perform (.submit s.number c)) P R E := by
    refine Call.ensures_perform kept fun w trace holds _ => ?_
    obtain ⟨d, q, after, _, performed, ends⟩ := step w trace holds
    rw [performed]
    exact ⟨_, rfl, ends⟩
  refine Call.Ensures.bind submits fun reply => ?_
  cases reply with
  | none => exact Call.ensures_throw fun _ _ ⟨_, none_given, _⟩ => by cases none_given
  | some n =>
    refine Call.ensures_pure fun _ _ ⟨m, same, holds⟩ => ?_
    cases same
    exact holds

namespace DeviceArray

/-- The launch is submitted and will find what it needs, with only `post` behind it. -/
def Waits (a : DeviceArray) (start stop : Nat) (source : BufferId) (data? old? : Option Bytes)
    (post : List Command) (w : World) : Prop :=
  w.Awaits a old? (a.sliceLaunch start stop source :: post) ∧
    w.Supplies a.device.number a.stream.number source (a.sliceBytes start stop) data?
      (a.sliceLaunch start stop source :: post)

/-- The worker of the array's stream did the launch in the world `v`. -/
def Assigns (a : DeviceArray) (start stop : Nat) (source : BufferId) (data? old? : Option Bytes)
    (v : World) : Assertion := fun w trace =>
  ⟨v, .worker a.stream.number⟩ ∈ trace ∧ v.Assigned w a start stop source data? old?

theorem Assigns.serve {stream : Nat} (assigns : a.Assigns start stop source data? old? v w trace)
    (served : w.serve stream = some after) :
    a.Assigns start stop source data? old? v after (trace ++ [⟨w, .worker stream⟩]) :=
  ⟨List.mem_append_left _ assigns.1, assigns.2.serve served⟩

/-- The launch waits until it is done. -/
theorem Waits.serve {stream : Nat} (trace : List Moment)
    (waits : a.Waits start stop source data? old? post w) (slice : a.HasSlice start stop)
    (later : ∀ c ∈ post, a.buffer ∉ c.buffers) (served : w.serve stream = some after) :
    a.Waits start stop source data? old? post after ∨
      (a.Assigns start stop source data? old? w after (trace ++ [⟨w, .worker stream⟩]) ∧
        ∃ q next, w.Lane a.device.number a.stream.number q ∧
          after.Lane a.device.number a.stream.number next ∧ next.outstanding = post ∧
            next.submitted = q.submitted ∧ next.reported = w.failure? a.stream.number) := by
  obtain ⟨awaits, supplies⟩ := waits
  obtain still | ⟨c, more, first, rfl, begins⟩ := awaits.serve served
  · obtain ready | ⟨c, q, lane, same⟩ := supplies.serve awaits.elementwise served
    · exact .inl ⟨still, ready⟩
    · obtain ⟨p, before, lane', queued⟩ := still.queue
      cases lane.eq lane'
      rw [same] at queued
      have length := congrArg List.length queued
      simp only [List.length_append, List.length_cons] at length
      omega
  · cases first
    obtain ⟨assigned, rest⟩ := awaits.assigned slice supplies later begins served
    exact .inr ⟨⟨by simp, assigned⟩, rest⟩

/-- The command with this number is the launch, and nothing was submitted after it. -/
def Submitted (a : DeviceArray) (start stop : Nat) (source : BufferId) (data? old? : Option Bytes)
    (n : Nat) : Assertion := fun w trace =>
  ∃ q, w.Lane a.device.number a.stream.number q ∧ q.submitted = n ∧
    (a.Waits start stop source data? old? [] w ∨
      ∃ v, a.Assigns start stop source data? old? v w trace ∧ q.outstanding = [] ∧
        q.reported = v.failure? a.stream.number)

theorem stable_submitted (slice : a.HasSlice start stop) (n : Nat) :
    (a.Submitted start stop source data? old? n).Stable := by
  rintro w after trace stream ⟨q, lane, rfl, waits | ⟨v, assigns, done, reported⟩⟩ served
  · obtain still | ⟨assigns, p, next, lane', there, left, same, kept⟩ :=
      waits.serve trace slice nofun served
    · obtain ⟨next, there, same, _⟩ := lane.serve waits.1.elementwise served
      exact ⟨next, there, same, .inl still⟩
    · cases lane.eq lane'
      exact ⟨next, there, same, .inr ⟨w, assigns, left, kept⟩⟩
  · obtain ⟨next, there, same, ⟨left, _, kept, _⟩ | ⟨c, _, first, _⟩⟩ :=
      lane.serve assigns.2.elementwise served
    · exact ⟨next, there, same, .inr ⟨v, assigns.serve served, left.trans done,
        kept.trans reported⟩⟩
    · cases done.symm.trans first

/-- The slice is assigned, all is done, and the failure that is kept was kept before. -/
def Settled (a : DeviceArray) (start stop : Nat) (source : BufferId) (data? old? : Option Bytes) :
    Assertion := fun w trace =>
  ∃ v q, a.Assigns start stop source data? old? v w trace ∧
    w.Lane a.device.number a.stream.number q ∧ q.Quiet ∧
      q.failure = v.failure? a.stream.number

theorem stable_settled : (a.Settled start stop source data? old?).Stable := by
  rintro w after trace stream ⟨v, q, assigns, lane, quiet, kept⟩ served
  exact ⟨v, q, assigns.serve served, lane.serve_of_quiet quiet served, quiet, kept⟩

/-- The call has its answer: either that is a success, as nothing was waited for, or the launch is
done, and the answer is what was to be told of the stream then. -/
def Answered (a : DeviceArray) (start stop : Nat) (source : BufferId) (data? old? : Option Bytes)
    (post : List Command) (answer : Except Error Unit) : Assertion := fun w trace =>
  (a.Waits start stop source data? old? post w ∧ ∀ failure, answer = a.stream.answer failure) ∨
    ∃ v, a.Assigns start stop source data? old? v w trace ∧
      answer = a.stream.answer (v.failure? a.stream.number)

theorem stable_answered {answer : Except Error Unit} (slice : a.HasSlice start stop)
    (later : ∀ c ∈ post, a.buffer ∉ c.buffers) :
    (a.Answered start stop source data? old? post answer).Stable := by
  rintro w after trace stream (⟨waits, same⟩ | ⟨v, assigns, same⟩) served
  · obtain still | ⟨assigns, _⟩ := waits.serve trace slice later served
    · exact .inl ⟨still, same⟩
    · exact .inr ⟨w, assigns, same _⟩
  · exact .inr ⟨v, assigns.serve served, same⟩

/-! ### The launch -/

/-- Waiting for the launch ends with it done, and tells of the failure that was kept before. -/
theorem ensures_waitFor (blocking : a.stream.options.blockingLaunches = true) (n : Nat) :
    Call.Ensures (a.stream.waitFor n) (a.Submitted start stop source data? old? n)
      (fun _ => a.Answered start stop source data? old? [] (.ok ()))
      (fun e => a.Answered start stop source data? old? [] (.error e)) := by
  let R : Option Error → Assertion := fun failure w trace =>
    ∃ v, a.Assigns start stop source data? old? v w trace ∧
      failure = v.failure? a.stream.number
  have told : ∀ failure, a.stream.answer failure = told failure := fun failure => if_pos blocking
  have awaits : Call.Ensures (E := fun e => a.Answered start stop source data? old? [] (.error e))
      (Call.perform (.await a.stream.number n)) (a.Submitted start stop source data? old? n)
      fun _ => a.Settled start stop source data? old? := by
    refine Call.ensures_perform (fun _ => stable_settled) ?_
    rintro w trace ⟨q, lane, rfl, waits⟩ enabled
    have quiet := lane.quiet_of_enabled enabled
    obtain waits | ⟨v, assigns, _, reported⟩ := waits
    · obtain ⟨p, before, lane', queued⟩ := waits.1.queue
      cases lane.eq lane'
      rw [quiet.outstanding_eq_nil] at queued
      cases before <;> cases queued
    · exact ⟨v, q, ⟨List.mem_append_left _ assigns.1, assigns.2⟩, lane, quiet,
        (lane.reported_of_quiet quiet).symm.trans reported⟩
  have takes : Call.Ensures (E := fun e => a.Answered start stop source data? old? [] (.error e))
      (Call.perform (.takeFailure a.stream.number)) (a.Settled start stop source data? old?) R := by
    refine Call.ensures_perform (fun failure w after trace stream holds served => ?_) ?_
    · obtain ⟨v, assigns, same⟩ := holds
      exact ⟨v, assigns.serve served, same⟩
    · rintro w trace ⟨v, q, assigns, lane, quiet, kept⟩ _
      obtain ⟨after, performed, _, memories, _⟩ := lane.takeFailure
      have idle : (Action.takeFailure a.stream.number).Idle := trivial
      refine ⟨v, ⟨List.mem_append_left _ assigns.1, assigns.2.idle idle ?_⟩, ?_⟩
      · rw [performed, World.memory, memories, World.memory]
      · rw [performed]
        exact kept
  refine Call.Ensures.bind awaits fun _ => Call.Ensures.bind takes fun failure => ?_
  cases failure with
  | none =>
    refine Call.ensures_pure ?_
    rintro w trace ⟨v, assigns, same⟩
    refine .inr ⟨v, assigns, ?_⟩
    rw [← same, told]
    rfl
  | some e =>
    refine Call.ensures_throw ?_
    rintro w trace ⟨v, assigns, same⟩
    refine .inr ⟨v, assigns, ?_⟩
    rw [← same, told]
    rfl

/-- Array and source stand ready for a launch. -/
def Prepared (a : DeviceArray) (start stop : Nat) (source : BufferId) (data? old? : Option Bytes) :
    Assertion := fun w _ =>
  w.Awaits a old? [] ∧
    w.Supplies a.device.number a.stream.number source (a.sliceBytes start stop) data? []

theorem stable_prepared : (a.Prepared start stop source data? old?).Stable := by
  rintro w after trace stream ⟨awaits, supplies⟩ served
  obtain ready | ⟨_, _, _, none_left⟩ := supplies.serve awaits.elementwise served
  · exact ⟨awaits.stay served, ready⟩
  · cases none_left

theorem ensures_launchSlice (slice : a.HasSlice start stop) :
    Call.Ensures (a.launchSlice start stop source) (a.Prepared start stop source data? old?)
      (fun _ => a.Answered start stop source data? old? [] (.ok ()))
      (fun e => a.Answered start stop source data? old? [] (.error e)) := by
  refine Call.Ensures.bind (Q := a.Submitted start stop source data? old?)
    (Stream.ensures_submit (stable_submitted slice) fun w trace holds => ?_) fun n => ?_
  · obtain ⟨awaits, supplies⟩ := holds
    obtain ⟨q, before, lane, _⟩ := awaits.queue
    obtain ⟨after, performed, lane', _, _⟩ := lane.submit (a.sliceLaunch start stop source)
    have waits := awaits.submit (c := a.sliceLaunch start stop source) ⟨_, rfl⟩ nofun
    have stands := supplies.submit (a.sliceLaunch start stop source) nofun
    rw [performed] at waits stands
    exact ⟨_, q, after, lane, performed, q.push _, lane', Queue.submitted_push _ _,
      .inl ⟨waits, stands⟩⟩
  · split
    case isTrue blocking => exact ensures_waitFor blocking n
    case isFalse still =>
      have success : ∀ failure, .ok () = a.stream.answer failure := fun _ => (if_neg still).symm
      refine Call.ensures_pure ?_
      rintro w trace ⟨q, lane, _, waits | ⟨v, assigns, _⟩⟩
      · exact .inl ⟨waits, success⟩
      · exact .inr ⟨v, assigns, success _⟩

end DeviceArray

end DeviceArrays
