/-!
# Waiting, deadlines and cancellation

Time is a count of milliseconds, and a wait is a value: what it yields and after how long, or that
it never ends. A `Scope` bounds the waits of one request by a deadline and a cancellation.
`Scope.await` says how a bounded wait ends, and `Task` is work that takes time and leaves a log.

* `Wait`: how a wait ends when nothing bounds it.
* `Scope`: a deadline and the moment of cancellation, if any.
* `Scope.await`: the wait's own result, or that it was late, or cancelled.
* `Task`: work started at a moment; `Task.all` runs pieces of work side by side.
-/

namespace FleetDashboard

/-! ## Waits -/

/-- How a wait ends when nothing bounds it. -/
inductive Wait (α : Type) where
  /-- It yields its result after that many milliseconds; after none at once. -/
  | after (ms : Nat) (result : α)
  /-- It never ends. -/
  | never

namespace Wait

variable {α β : Type}

/-- A wait that is no wait at all. -/
def done (result : α) : Wait α :=
  .after 0 result

/-- The wait with its result changed. -/
def map (f : α → β) : Wait α → Wait β
  | .after ms result => .after ms (f result)
  | .never => .never

end Wait

/-! ## Scopes -/

/-- What bounds the work of one request. -/
structure Scope where
  /-- The moment at which pending work is late. -/
  deadline : Nat
  /-- The moment at which the scope is cancelled, if it ever is. -/
  cancelledAt : Option Nat
deriving DecidableEq

/-- How a bounded wait ends. -/
inductive Ending (α : Type) where
  /-- With its own result. -/
  | result (value : α)
  /-- At the deadline. -/
  | late
  /-- By cancellation. -/
  | cancelled
deriving DecidableEq

/-- A value and the moment at which it is there. -/
structure Timed (α : Type) where
  /-- The value. -/
  value : α
  /-- When it is there. -/
  finish : Nat
deriving DecidableEq

namespace Scope

variable {α : Type}

/-- The scope that is never cancelled and ends `ms` milliseconds after `now`. -/
def lasting (now ms : Nat) : Scope :=
  { deadline := now + ms, cancelledAt := none }

/-- Whether the scope is cancelled at a moment. -/
def isCancelled (scope : Scope) (now : Nat) : Bool :=
  match scope.cancelledAt with
  | some c => c ≤ now
  | none => false

/-- The milliseconds left until the deadline; none once it has passed. -/
def remaining (scope : Scope) (now : Nat) : Nat :=
  scope.deadline - now

/-- The scope with a deadline at most `ms` milliseconds after `now`. -/
def within (scope : Scope) (now ms : Nat) : Scope :=
  { scope with deadline := now + min ms (scope.remaining now) }

/-- Whether something that happens at a moment precedes the cancellation. -/
def precedesCancel (scope : Scope) (moment : Nat) : Bool :=
  match scope.cancelledAt with
  | some c => moment < c
  | none => true

/-- How a wait that starts at `now` ends when nothing comes of it in time. -/
def expire (scope : Scope) (now : Nat) : Timed (Ending α) :=
  let limit := max now scope.deadline
  match scope.cancelledAt with
  | some c => if c ≤ limit then ⟨.cancelled, c⟩ else ⟨.late, limit⟩
  | none => ⟨.late, limit⟩

/-- How a wait that starts at `now` ends. Cancellation comes first; what needs no wait is in time
whatever the deadline; any other result has to come before the cancellation and no later than the
deadline. -/
def await (scope : Scope) (now : Nat) (wait : Wait α) : Timed (Ending α) :=
  if scope.isCancelled now then ⟨.cancelled, now⟩
  else
    match wait with
    | .after 0 result => ⟨.result result, now⟩
    | .after ms result =>
      if now + ms ≤ scope.deadline && scope.precedesCancel (now + ms) then
        ⟨.result result, now + ms⟩
      else scope.expire now
    | .never => scope.expire now

end Scope

/-! ## Tasks -/

/-- What a piece of work came to. -/
structure Run (ε α : Type) where
  /-- Its value. -/
  value : α
  /-- The moment at which it ended. -/
  finish : Nat
  /-- What it did on the way, in order of starting. -/
  log : List ε

/-- Work that is started at a moment. -/
def Task (ε α : Type) : Type :=
  Nat → Run ε α

namespace Task

variable {ε ζ α β : Type}

/-- Work that is over at once. -/
def done (value : α) : Task ε α :=
  fun now => ⟨value, now, []⟩

/-- One piece of work, then another that may depend on its value. -/
def andThen (first : Task ε α) (next : α → Task ε β) : Task ε β := fun now =>
  let a := first now
  let b := next a.value a.finish
  ⟨b.value, b.finish, a.log ++ b.log⟩

instance : Monad (Task ε) where
  pure := done
  bind := andThen

/-- Leaves an entry in the log. -/
def note (entry : ε) : Task ε Unit :=
  fun now => ⟨(), now, [entry]⟩

/-- The work with its log entries changed. -/
def mapLog (f : ε → ζ) (task : Task ε α) : Task ζ α := fun now =>
  let run := task now
  ⟨run.value, run.finish, run.log.map f⟩

/-- Waits within a scope. -/
def await (scope : Scope) (wait : Wait α) : Task ε (Ending α) := fun now =>
  let timed := scope.await now wait
  ⟨timed.value, timed.finish, []⟩

/-- Two pieces of work side by side; over when both are. -/
def both (left : Task ε α) (right : Task ε β) : Task ε (α × β) := fun now =>
  let a := left now
  let b := right now
  ⟨(a.value, b.value), max a.finish b.finish, a.log ++ b.log⟩

/-- Pieces of work side by side; over when all are. -/
def all : List (Task ε α) → Task ε (List α)
  | [] => done []
  | task :: rest => fun now =>
    let a := task now
    let b := all rest now
    ⟨a.value :: b.value, max a.finish b.finish, a.log ++ b.log⟩

/-- The values of work side by side are those of each piece on its own. -/
theorem all_value (tasks : List (Task ε α)) (now : Nat) :
    (all tasks now).value = tasks.map fun task => (task now).value := by
  induction tasks with
  | nil => rfl
  | cons task rest ih => simp [all, ih]

/-- The log of work side by side holds that of each piece. -/
theorem all_log (tasks : List (Task ε α)) (now : Nat) :
    (all tasks now).log = tasks.flatMap fun task => (task now).log := by
  induction tasks with
  | nil => rfl
  | cons task rest ih => simp [all, ih]

end Task

end FleetDashboard
