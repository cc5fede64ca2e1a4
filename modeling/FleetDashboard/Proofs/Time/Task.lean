import FleetDashboard.Time.Wait

/-!
# Runs of tasks

What a run of composed work comes to, in terms of the runs of its parts: the value, the moment of
its end and the log.

* `Task.Forward`: work that never ends before it starts.
* `Task.mem_log_andThen`: an entry stems from the first piece of work or from the second.
-/

namespace FleetDashboard

attribute [ext] Run

namespace Task

variable {ε ζ α β : Type}

/-! ## The parts of a run -/

/-- In a block, a plain value is work that is over at once. -/
@[simp]
theorem pure_eq_done (value : α) : (pure value : Task ε α) = done value := rfl

/-- In a block, one step and the steps behind it are pieces of work in a row. -/
@[simp]
theorem bind_eq_andThen (first : Task ε α) (next : α → Task ε β) :
    first >>= next = first.andThen next := rfl

/-- Work that is over at once has its value, takes no time and leaves nothing. -/
@[simp]
theorem done_run (value : α) (now : Nat) : (done value : Task ε α) now = ⟨value, now, []⟩ := rfl

/-- The value of work in a row is that of the second piece. -/
@[simp]
theorem andThen_value (first : Task ε α) (next : α → Task ε β) (now : Nat) :
    (first.andThen next now).value = (next (first now).value (first now).finish).value := rfl

/-- Work in a row ends when the second piece ends. -/
@[simp]
theorem andThen_finish (first : Task ε α) (next : α → Task ε β) (now : Nat) :
    (first.andThen next now).finish = (next (first now).value (first now).finish).finish := rfl

/-- The log of work in a row is that of the first piece, then that of the second. -/
@[simp]
theorem andThen_log (first : Task ε α) (next : α → Task ε β) (now : Nat) :
    (first.andThen next now).log =
      (first now).log ++ (next (first now).value (first now).finish).log := rfl

/-- An entry in the log takes no time. -/
@[simp]
theorem note_run (entry : ε) (now : Nat) : note entry now = ⟨(), now, [entry]⟩ := rfl

/-- Changing the log keeps the value. -/
@[simp]
theorem mapLog_value (f : ε → ζ) (task : Task ε α) (now : Nat) :
    (task.mapLog f now).value = (task now).value := rfl

/-- Changing the log keeps the moment of the end. -/
@[simp]
theorem mapLog_finish (f : ε → ζ) (task : Task ε α) (now : Nat) :
    (task.mapLog f now).finish = (task now).finish := rfl

/-- Changing the log changes each of its entries. -/
@[simp]
theorem mapLog_log (f : ε → ζ) (task : Task ε α) (now : Nat) :
    (task.mapLog f now).log = (task now).log.map f := rfl

/-- A bounded wait leaves nothing in the log and is otherwise what the scope makes of it. -/
@[simp]
theorem await_run (scope : Scope) (wait : Wait α) (now : Nat) :
    (await scope wait : Task ε (Ending α)) now =
      ⟨(scope.await now wait).value, (scope.await now wait).finish, []⟩ := rfl

/-- Two pieces of work side by side are both started at once and are over when both are. -/
@[simp]
theorem both_run (left : Task ε α) (right : Task ε β) (now : Nat) :
    left.both right now =
      ⟨((left now).value, (right now).value), max (left now).finish (right now).finish,
        (left now).log ++ (right now).log⟩ := rfl

/-- Work side by side with other work is over when all of it is. -/
@[simp]
theorem all_cons_run (task : Task ε α) (rest : List (Task ε α)) (now : Nat) :
    all (task :: rest) now =
      ⟨(task now).value :: (all rest now).value, max (task now).finish (all rest now).finish,
        (task now).log ++ (all rest now).log⟩ := rfl

/-- An entry of work in a row stems from one of the two pieces. -/
theorem mem_log_andThen {first : Task ε α} {next : α → Task ε β} {now : Nat} {entry : ε} :
    entry ∈ (first.andThen next now).log ↔
      entry ∈ (first now).log ∨ entry ∈ (next (first now).value (first now).finish).log := by
  rw [andThen_log, List.mem_append]

/-! ## Work that goes forward in time -/

/-- The work never ends before it starts. -/
def Forward (task : Task ε α) : Prop :=
  ∀ now, now ≤ (task now).finish

end Task

end FleetDashboard
