import DeviceArrays.Proofs.Client.Discipline
import DeviceArrays.Proofs.Several.Traces

/-!
# One client among workers

Between two actions of a client the workers may move at will, so what is asserted there has to stay
true when they do. A client ensures an assertion if such assertions lead to it, one after each
action. The rules below derive this for a call from its parts.
-/
namespace DeviceArrays

variable {α β : Type}

/-- What may be said of a world and of the moves that have led to it. -/
abbrev Assertion := World → List Moment → Prop

/-- The assertion stays true whatever the workers do. -/
def Assertion.Stable (P : Assertion) : Prop :=
  ∀ (w after : World) (trace : List Moment) (stream : Nat), P w trace →
    w.serve stream = some after → P after (trace ++ [⟨w, .worker stream⟩])

variable {P R : Assertion}

/-- The workers cannot undo what does not depend on the world. -/
theorem Assertion.Stable.fact_and {p : Prop} (stable : P.Stable) :
    Assertion.Stable fun w trace => p ∧ P w trace :=
  fun w after trace stream ⟨fact, holds⟩ served =>
    ⟨fact, stable w after trace stream holds served⟩

namespace Client

/-- Where `P` holds, the client comes to a result and a world as `Q` says. -/
def Ensures : Client α → Assertion → (α → Assertion) → Prop
  | .done a, P, Q => ∀ w trace, P w trace → Q a w trace
  | .act action next, P, Q => ∃ R : action.Reply → Assertion, (∀ reply, (R reply).Stable) ∧
    (∀ w trace, P w trace → action.enabled w = true →
      R (action.perform w).1 (action.perform w).2 (trace ++ [⟨w, .client 0 action⟩])) ∧
    ∀ reply, (next reply).Ensures (R reply) Q

theorem Ensures.strengthen {Q : α → Assertion} {c : Client α} (h : c.Ensures P Q)
    (stronger : ∀ w trace, R w trace → P w trace) : c.Ensures R Q := by
  cases c with
  | done a => exact fun w trace holds => h w trace (stronger w trace holds)
  | act action next =>
    obtain ⟨S, stable, step, rest⟩ := h
    exact ⟨S, stable, fun w trace holds => step w trace (stronger w trace holds), rest⟩

theorem Ensures.mono {Q S : α → Assertion} {c : Client α} (h : c.Ensures P Q)
    (weaker : ∀ a w trace, Q a w trace → S a w trace) : c.Ensures P S := by
  induction c generalizing P with
  | done a => exact fun w trace holds => weaker a w trace (h w trace holds)
  | act action next ih =>
    obtain ⟨T, stable, step, rest⟩ := h
    exact ⟨T, stable, step, fun reply => ih reply (rest reply)⟩

theorem Ensures.bind {Q : α → Assertion} {S : β → Assertion} {c : Client α} {f : α → Client β}
    (first : c.Ensures P Q) (later : ∀ a, (f a).Ensures (Q a) S) : (c.bind f).Ensures P S := by
  induction c generalizing P with
  | done a => exact (later a).strengthen first
  | act action next ih =>
    obtain ⟨T, stable, step, rest⟩ := first
    exact ⟨T, stable, step, fun reply => ih reply (rest reply)⟩

theorem ensures_perform {action : Action} {Q : action.Reply → Assertion}
    (stable : ∀ reply, (Q reply).Stable)
    (step : ∀ w trace, P w trace → action.enabled w = true →
      Q (action.perform w).1 (action.perform w).2 (trace ++ [⟨w, .client 0 action⟩])) :
    (perform action).Ensures P Q :=
  ⟨Q, stable, step, fun _ _ _ holds => holds⟩

theorem ensures_of_never {Q : α → Assertion} {c : Client α} (never : ∀ w trace, ¬ P w trace) :
    c.Ensures P Q := by
  induction c generalizing P with
  | done a => exact fun w trace holds => absurd holds (never w trace)
  | act action next ih =>
    exact ⟨fun _ _ _ => False, fun _ _ _ _ _ holds _ => holds,
      fun w trace holds _ => absurd holds (never w trace), fun reply => ih reply fun _ _ => id⟩

/-- What does not depend on the world may be taken for granted. -/
theorem ensures_of_imp {p : Prop} {Q : α → Assertion} {c : Client α} (h : p → c.Ensures P Q) :
    c.Ensures (fun w trace => p ∧ P w trace) Q := by
  by_cases holds : p
  · exact (h holds).strengthen fun _ _ both => both.2
  · exact ensures_of_never fun _ _ both => holds both.1

end Client

namespace Call

/-- Where `P` holds, the call ends as `Q` says with a result and as `E` says with an error. -/
def Ensures (c : Call α) (P : Assertion) (Q : α → Assertion) (E : Error → Assertion) : Prop :=
  Client.Ensures c.run P fun
    | .ok a => Q a
    | .error e => E e

variable {Q : α → Assertion} {E : Error → Assertion}

theorem ensures_pure {a : α} (h : ∀ w trace, P w trace → Q a w trace) :
    Call.Ensures (pure a) P Q E := h

theorem ensures_throw {e : Error} (h : ∀ w trace, P w trace → E e w trace) :
    Call.Ensures (throw e) P Q E := h

theorem ensures_of_imp {p : Prop} {c : Call α} (h : p → Call.Ensures c P Q E) :
    Call.Ensures c (fun w trace => p ∧ P w trace) Q E :=
  Client.ensures_of_imp h

theorem ensures_check {x : Except Error α} {a : α} (passed : x = .ok a)
    (h : ∀ w trace, P w trace → Q a w trace) : Call.Ensures (Call.check x) P Q E := by
  rw [passed]
  exact ensures_pure h

/-- A check that finds nothing wrong. -/
theorem ensures_guard {p : Prop} [Decidable p] {e : Error} {f : β → Call α} {c : Call α}
    (passed : ¬ p) (rest : Call.Ensures c P Q E) :
    Call.Ensures (if p then throw e >>= f else c) P Q E := by
  rwa [if_neg passed]

theorem Ensures.bind {c : Call α} {f : α → Call β} {S : β → Assertion}
    (first : Call.Ensures c P Q E) (later : ∀ a, Call.Ensures (f a) (Q a) S E) :
    Call.Ensures (c >>= f) P S E := by
  refine Client.Ensures.bind first fun answer => ?_
  cases answer with
  | ok a => exact later a
  | error e => exact fun w trace holds => holds

theorem ensures_lift {c : Client α} (h : c.Ensures P Q) : Call.Ensures (ExceptT.lift c) P Q E :=
  Client.Ensures.bind h fun _ _ _ holds => holds

theorem ensures_perform {action : Action} {Q : action.Reply → Assertion}
    (stable : ∀ reply, (Q reply).Stable)
    (step : ∀ w trace, P w trace → action.enabled w = true →
      Q (action.perform w).1 (action.perform w).2 (trace ++ [⟨w, .client 0 action⟩])) :
    Call.Ensures (Call.perform action) P Q E :=
  ensures_lift (Client.ensures_perform stable step)

theorem ensures_onError {cleanup : Client Unit} {body : Call α} {F : Error → Assertion}
    (h : Call.Ensures body P Q F) (cleans : ∀ e, cleanup.Ensures (F e) fun _ => E e) :
    Call.Ensures (Call.onError cleanup body) P Q E := by
  refine Client.Ensures.bind h fun answer => ?_
  cases answer with
  | ok a => exact fun w trace holds => holds
  | error e => exact Client.Ensures.bind (cleans e) fun _ _ _ holds => holds

end Call

/-- Along every schedule of the client and the workers an assertion holds that leads to `Q`. -/
theorem ReachesBy.ensures {c : Client α} {Q : α → Assertion} {w : World} {t : Situation α}
    {trace : List Moment} (h : ReachesBy ⟨[c], w⟩ t trace) (ensures : c.Ensures P Q)
    (stable : P.Stable) (holds : P w []) :
    ∃ d R, t.clients = [d] ∧ d.Ensures R Q ∧ R.Stable ∧ R t.world trace := by
  induction h with
  | here => exact ⟨c, P, rfl, ensures, stable, holds⟩
  | client earlier i turn enabled ih =>
    obtain ⟨d, R, rest, ensures, stable, holds⟩ := ih
    cases rest
    obtain ⟨rfl, rfl⟩ := turn_alone turn
    obtain ⟨S, stable, step, later⟩ := ensures
    exact ⟨_, S _, rfl, later _, stable _, step _ _ holds enabled⟩
  | worker earlier stream served ih =>
    obtain ⟨d, R, rest, ensures, stable, holds⟩ := ih
    exact ⟨d, R, rest, ensures, stable, stable _ _ _ stream holds served⟩

end DeviceArrays
