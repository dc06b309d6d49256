import DeviceArrays.Proofs.Client.Ledger
import DeviceArrays.Schedule

/-!
# Careful clients

A client follows a ledger if it takes only allowed actions, whatever the answers are as long as they
are as promised. The rules below derive this for a call from its parts. What ties the ledger to the
world, and is kept by every allowed action and every worker, then holds along every schedule.
-/
namespace DeviceArrays

namespace Client

variable {α β : Type} {r : Regime} {L : Ledger}

/-- Takes only allowed actions, and ends as `Q` says. -/
def Follows (r : Regime) : Client α → Ledger → (α → Ledger → Prop) → Prop
  | .done a, L, Q => Q a L
  | .act action next, L, Q =>
    L.Allows r action ∧ ∀ reply, L.Promises r action reply →
      (next reply).Follows r (L.next action reply) Q

theorem Follows.mono {Q R : α → Ledger → Prop} {c : Client α} (h : c.Follows r L Q)
    (weaker : ∀ a K, Q a K → R a K) : c.Follows r L R := by
  induction c generalizing L with
  | done a => exact weaker a L h
  | act action next ih =>
    exact ⟨h.1, fun reply promised => ih reply (h.2 reply promised)⟩

theorem Follows.bind {c : Client α} {f : α → Client β} {Q : β → Ledger → Prop}
    (h : c.Follows r L fun a K => (f a).Follows r K Q) : (c.bind f).Follows r L Q := by
  induction c generalizing L with
  | done a => exact h
  | act action next ih =>
    exact ⟨h.1, fun reply promised => ih reply (h.2 reply promised)⟩

theorem follows_perform {action : Action} {Q : action.Reply → Ledger → Prop}
    (allowed : L.Allows r action)
    (h : ∀ reply, L.Promises r action reply → Q reply (L.next action reply)) :
    (perform action).Follows r L Q :=
  ⟨allowed, h⟩

end Client

namespace Call

variable {α β : Type} {r : Regime} {L : Ledger}

/-- Takes only allowed actions, and ends as `Q` says with a result and as `E` says with an error. -/
def Follows (r : Regime) (c : Call α) (L : Ledger) (Q : α → Ledger → Prop)
    (E : Error → Ledger → Prop) : Prop :=
  Client.Follows r c.run L fun
    | .ok a, K => Q a K
    | .error e, K => E e K

variable {Q : α → Ledger → Prop} {E : Error → Ledger → Prop}

theorem Follows.mono {c : Call α} {R : α → Ledger → Prop} {F : Error → Ledger → Prop}
    (h : Call.Follows r c L Q E) (result : ∀ a K, Q a K → R a K) (error : ∀ e K, E e K → F e K) :
    Call.Follows r c L R F := by
  refine Client.Follows.mono h fun answer K ended => ?_
  cases answer with
  | ok a => exact result a K ended
  | error e => exact error e K ended

theorem follows_throw {e : Error} (h : E e L) : Call.Follows r (throw e) L Q E := h

theorem Follows.bind {c : Call α} {f : α → Call β} {R : β → Ledger → Prop}
    (h : Call.Follows r c L (fun a K => Call.Follows r (f a) K R E) E) :
    Call.Follows r (c >>= f) L R E := by
  refine Client.Follows.bind (Client.Follows.mono h fun answer K ended => ?_)
  cases answer with
  | ok a => exact ended
  | error e => exact ended

theorem follows_lift {c : Client α} (h : c.Follows r L Q) :
    Call.Follows r (ExceptT.lift c) L Q E :=
  Client.Follows.bind (Client.Follows.mono h fun _ _ ended => ended)

theorem follows_perform {action : Action} {Q : action.Reply → Ledger → Prop}
    (allowed : L.Allows r action)
    (h : ∀ reply, L.Promises r action reply → Q reply (L.next action reply)) :
    Call.Follows r (Call.perform action) L Q E :=
  follows_lift (Client.follows_perform allowed h)

theorem follows_check {x : Except Error α} (result : ∀ a, x = .ok a → Q a L)
    (error : ∀ e, x = .error e → E e L) : Call.Follows r (Call.check x) L Q E := by
  cases x with
  | ok a => exact result a rfl
  | error e => exact error e rfl

theorem follows_guard {p : Prop} [Decidable p] {e : Error} {f : β → Call α} {c : Call α}
    (error : p → E e L) (rest : ¬ p → Call.Follows r c L Q E) :
    Call.Follows r (if p then throw e >>= f else c) L Q E := by
  split
  case isTrue refused => exact Follows.bind (follows_throw (error refused))
  case isFalse passed => exact rest passed

theorem follows_onError {cleanup : Client Unit} {body : Call α}
    (h : Call.Follows r body L Q fun e K => cleanup.Follows r K fun _ M => E e M) :
    Call.Follows r (Call.onError cleanup body) L Q E := by
  refine Client.Follows.bind (Client.Follows.mono h fun answer K ended => ?_)
  cases answer with
  | ok a => exact ended
  | error e => exact Client.Follows.bind (Client.Follows.mono ended fun _ _ cleaned => cleaned)

end Call

/-- The only client there is moves. -/
theorem turn_alone {α : Type} {c d : Client α} {i : Nat} (turn : [c][i]? = some d) :
    i = 0 ∧ c = d := by
  cases i with
  | zero => simpa using turn
  | succ i => simp at turn

/-- A client of two parts that has come to its end has come to the end of the first before. -/
theorem Reaches.of_bind {α β : Type} {c : Client α} {f : α → Client β} {b : β} {w v : World}
    (h : Reaches ⟨[c.bind f], w⟩ ⟨[.done b], v⟩) :
    ∃ a u, Reaches ⟨[c], w⟩ ⟨[.done a], u⟩ ∧ Reaches ⟨[f a], u⟩ ⟨[.done b], v⟩ := by
  generalize begin_eq : (⟨[c.bind f], w⟩ : Situation β) = start at h
  generalize end_eq : (⟨[.done b], v⟩ : Situation β) = final at h
  induction h generalizing c w with
  | here =>
    subst end_eq
    cases c with
    | done a => exact ⟨a, w, .here _, begin_eq ▸ .here _⟩
    | act action next => cases begin_eq
  | step move later ih =>
    cases c with
    | done a =>
      subst begin_eq end_eq
      exact ⟨a, w, .here _, .step move later⟩
    | act action next =>
      subst begin_eq
      cases move with
      | client i turn enabled =>
        obtain ⟨rfl, same⟩ := turn_alone turn
        cases same
        obtain ⟨a, u, first, second⟩ := ih rfl end_eq
        exact ⟨a, u, .step (.client 0 rfl enabled) first, second⟩
      | worker stream served =>
        obtain ⟨a, u, first, second⟩ := ih (c := .act action next) rfl end_eq
        exact ⟨a, u, .step (.worker stream served) first, second⟩

end DeviceArrays
