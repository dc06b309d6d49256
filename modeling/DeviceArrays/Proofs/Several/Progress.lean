import DeviceArrays.Proofs.Several.Failures

/-!
# Orderly clients come to their end

An orderly client waits for nothing but its newest command and the workers of streams it has closed.
The workers do that command, and end, whatever the client is at, so a client that is alone can
always go on, until it has ended and every worker rests.
-/
namespace DeviceArrays

variable {α : Type} {strict : Prop} {K : Notes} {Q : α → Notes → Prop} {c : Client α}
  {trace : List Moment}

theorem Notes.Allows.lax {action : Action} (allowed : K.Allows strict action) :
    K.Allows False action := by
  cases action with
  | submit stream c => exact False.elim
  | _ => exact allowed

/-- Along every schedule an orderly client goes by notes that are so. -/
theorem ReachesBy.timely {s t : Situation α} (h : ReachesBy s t trace) (alone : s.clients = [c])
    (orderly : c.Orderly strict K Q) (timely : K.Timely s.world) (numbered : s.world.Numbered) :
    ∃ d M, t.clients = [d] ∧ d.Orderly strict M Q ∧ M.Timely t.world ∧ t.world.Numbered := by
  induction h with
  | here => exact ⟨c, K, alone, orderly, timely, numbered⟩
  | client earlier i turn enabled ih =>
    obtain ⟨d, M, rest, orderly, timely, numbered⟩ := ih
    cases rest
    obtain ⟨rfl, rfl⟩ := turn_alone turn
    exact ⟨_, _, rfl, orderly.2 _, timely.next numbered orderly.1.lax enabled, numbered.act⟩
  | worker earlier stream served ih =>
    obtain ⟨d, M, rest, orderly, timely, numbered⟩ := ih
    exact ⟨d, M, rest, orderly, timely.serve served, numbered.serve served⟩

/-- Where all workers rest, an orderly client is not held up. -/
theorem Notes.Timely.enabled {w : World} {action : Action} (timely : K.Timely w)
    (numbered : w.Numbered) (allowed : K.Allows strict action)
    (still : ∀ stream, w.serve stream = none) : action.enabled w = true := by
  cases action with
  | await stream n =>
    obtain ⟨state, found, rfl⟩ := timely.newest stream n allowed
    have fits := numbered stream state found
    have quiet := fits.quiet_of_rests (World.rests_of_still still found)
    simp [Action.enabled, found, Queue.isDone, quiet.submitted_eq fits]
  | join stream =>
    cases found : w.streams[stream]? with
    | none => simp [Action.enabled, found]
    | some state =>
      have closing := timely.closed stream allowed state found
      exact World.joins_of_rests found closing (World.rests_of_still still found)
  | _ => rfl

/-- A single orderly client goes by notes that are so. -/
def Situation.Sensible (strict : Prop) (Q : α → Notes → Prop) (t : Situation α) : Prop :=
  ∃ c K, t.clients = [c] ∧ c.Orderly strict K Q ∧ K.Timely t.world ∧ t.world.Numbered

theorem ReachesBy.sensible {s t : Situation α} (h : ReachesBy s t trace)
    (sensible : s.Sensible strict Q) : t.Sensible strict Q := by
  obtain ⟨c, K, alone, orderly, timely, numbered⟩ := sensible
  exact h.timely alone orderly timely numbered

theorem Reaches.sensible {s t : Situation α} (h : Reaches s t) (sensible : s.Sensible strict Q) :
    t.Sensible strict Q := by
  obtain ⟨more, reached⟩ := ReachesBy.here.of_reaches h
  exact reached.sensible sensible

/-- Wherever an orderly client has got to, it can go on to its end, and the workers until all is
done. -/
theorem Situation.Sensible.reaches_end {t : Situation α} (sensible : t.Sensible strict Q) :
    ∃ a u, Reaches t ⟨[.done a], u⟩ ∧ ∀ stream, u.serve stream = none := by
  obtain ⟨clients, w⟩ := t
  obtain ⟨c, K, rfl, _⟩ := id sensible
  obtain ⟨⟨left, v⟩, a, goes, ended⟩ := reaches_end_of_free (P := Situation.Sensible strict Q)
    (fun sensible h => h.sensible sensible) (by
      rintro action next others w ⟨d, M, same, orderly, timely, numbered⟩ still
      cases same
      exact timely.enabled numbered orderly.1 still) sensible
  obtain ⟨d, M, rfl, _⟩ := goes.sensible sensible
  cases Option.some.inj ended
  obtain ⟨u, rest, still⟩ := World.reaches_rest [Client.done a] v
  exact ⟨a, u, goes.trans rest, still⟩

theorem ReachesBy.reaches_end {w : World} {t : Situation α} (h : ReachesBy ⟨[c], w⟩ t trace)
    (orderly : c.Orderly strict K Q) (timely : K.Timely w) (numbered : w.Numbered) :
    ∃ a u more, ReachesBy ⟨[c], w⟩ ⟨[.done a], u⟩ (trace ++ more) ∧
      ∀ stream, u.serve stream = none := by
  have sensible := h.sensible ⟨c, K, rfl, orderly, timely, numbered⟩
  obtain ⟨a, u, later, still⟩ := sensible.reaches_end
  obtain ⟨more, further⟩ := h.of_reaches later
  exact ⟨a, u, more, further, still⟩

end DeviceArrays
