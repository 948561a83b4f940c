import PoleProtocol.Framework.Run

/-!
# Queues with due times

Entries wait in a queue until a clock reaches their due time. Whenever the clock is set, every
entry that is due leaves, in the order of the queue. The timetable below records what entered and
what left. As long as the clock does not run backwards and no entry is due before it enters, every
entry leaves once, at the first setting of the clock that reaches its due time.
-/

namespace PoleProtocol.Framework

/-- The clock is set, or an entry is put at the end of the queue. -/
inductive QueueEvent (α : Type*) where
  | tick (clock : ℕ)
  | enter (entry : α)

/-- An entry that left, with the clock before and after it was set. -/
structure Departure (α : Type*) where
  entry : α
  before : ℕ
  after : ℕ

structure Timetable (α : Type*) where
  clock : ℕ
  waiting : List α
  entered : List α := []
  departed : List (Departure α) := []

namespace Timetable

variable {α : Type*} (due : α → ℕ)

def next (q : Timetable α) : QueueEvent α → Timetable α
  | .tick clock =>
      { q with
        clock
        waiting := q.waiting.filter fun entry => clock < due entry
        departed := q.departed ++ (q.waiting.filter fun entry => due entry ≤ clock).map
          fun entry => ⟨entry, q.clock, clock⟩ }
  | .enter entry =>
      { q with
        waiting := q.waiting ++ [entry]
        entered := q.entered ++ [entry] }

/-- The clock does not run backwards, and nothing is due before it enters. -/
def Admits (q : Timetable α) : QueueEvent α → Prop
  | .tick clock => q.clock ≤ clock
  | .enter entry => q.clock ≤ due entry

/-- Every entry left once or waits, in the order of entry, and leaves when it is due. -/
structure Punctual (q : Timetable α) : Prop where
  once : q.entered.Perm (q.departed.map (·.entry) ++ q.waiting)
  ordered : q.waiting.Sublist q.entered
  pending : ∀ entry ∈ q.waiting, q.clock ≤ due entry
  timely : ∀ d ∈ q.departed, d.before ≤ due d.entry ∧ due d.entry ≤ d.after

variable {due}

/-- What is due and what is not make up the queue. -/
theorem filter_due_perm (waiting : List α) (clock : ℕ) :
    ((waiting.filter fun entry => due entry ≤ clock) ++
      waiting.filter fun entry => clock < due entry).Perm waiting := by
  have hsplit := List.filter_append_perm (fun entry => decide (due entry ≤ clock)) waiting
  simpa only [← Nat.not_le, decide_not] using hsplit

theorem Punctual.next {q : Timetable α} {event : QueueEvent α} (h : q.Punctual due)
    (hadmits : q.Admits due event) : (q.next due event).Punctual due := by
  cases event with
  | tick clock =>
      refine ⟨?_, ?_, ?_, ?_⟩
      · have hleft : ((q.next due (.tick clock)).departed.map (·.entry)) =
            q.departed.map (·.entry) ++ q.waiting.filter fun entry => due entry ≤ clock := by
          simp [Timetable.next, Function.comp_def]
        rw [hleft, List.append_assoc]
        exact h.once.trans ((filter_due_perm q.waiting clock).symm.append_left _)
      · exact List.filter_sublist.trans h.ordered
      · intro entry hmem
        have hwaits := (List.mem_filter.mp hmem).2
        exact (of_decide_eq_true hwaits).le
      · intro d hmem
        rcases List.mem_append.mp hmem with hbefore | hnow
        · exact h.timely d hbefore
        · obtain ⟨entry, hentry, rfl⟩ := List.mem_map.mp hnow
          obtain ⟨hwaiting, hdue⟩ := List.mem_filter.mp hentry
          exact ⟨h.pending entry hwaiting, of_decide_eq_true hdue⟩
  | enter entry =>
      refine ⟨?_, h.ordered.append_right _, ?_, h.timely⟩
      · change (q.entered ++ [entry]).Perm (_ ++ (q.waiting ++ [entry]))
        rw [← List.append_assoc]
        exact h.once.append_right _
      · intro other hmem
        rcases List.mem_append.mp hmem with hbefore | hnew
        · exact h.pending other hbefore
        · rw [List.mem_singleton.mp hnew]
          exact hadmits

/-- A queue that starts empty is punctual at all times. -/
theorem punctual_run {q : Timetable α} {events : List (QueueEvent α)} (h : q.Punctual due)
    (hadmits : Meets (next due) (Admits due) q events) :
    (run (next due) q events).Punctual due :=
  run_invariant (fun _ _ hadmitted hbefore => hbefore.next hadmitted) hadmits h

theorem punctual_empty (clock : ℕ) : (⟨clock, [], [], []⟩ : Timetable α).Punctual due :=
  ⟨.refl _, .refl _, by simp, by simp⟩

/-- Entering entries one after the other. -/
theorem run_enter (q : Timetable α) (entries : List α) :
    run (next due) q (entries.map .enter) =
      { q with waiting := q.waiting ++ entries, entered := q.entered ++ entries } := by
  induction entries generalizing q with
  | nil => simp
  | cons entry entries ih =>
      rw [List.map_cons, run_cons, ih]
      simp [next]

theorem meets_enter {q : Timetable α} {entries : List α}
    (h : ∀ entry ∈ entries, q.clock ≤ due entry) :
    Meets (next due) (Admits due) q (entries.map .enter) := by
  induction entries generalizing q with
  | nil => exact trivial
  | cons entry entries ih =>
      refine ⟨h entry List.mem_cons_self, ih fun other hmem => ?_⟩
      exact h other (List.mem_cons_of_mem _ hmem)

end Timetable

end PoleProtocol.Framework
