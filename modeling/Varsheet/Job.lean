import Varsheet.Event.Basic
import Varsheet.Fault

/-!
# Jobs

A job is a piece of work that reports events and ends with a value or a fault.

* `Job` : the events, in order, and the result
* `Job.emit`, `Job.fail`, `Job.ofExcept` : the simplest jobs
* the `Monad` instance : one job after another, up to the first fault
-/

namespace Varsheet

/-- A finished piece of work: what it reported, in order, and what came of it. -/
structure Job (α : Type) where
  events : List Event
  result : Except Fault α

namespace Job

/-- The job that only has a value. -/
protected def pure {α : Type} (value : α) : Job α :=
  ⟨[], .ok value⟩

/-- The second job starts when the first one has a value. -/
protected def bind {α β : Type} (first : Job α) (next : α → Job β) : Job β :=
  match first.result with
  | .ok value => ⟨first.events ++ (next value).events, (next value).result⟩
  | .error fault => ⟨first.events, .error fault⟩

instance : Monad Job where
  pure := Job.pure
  bind := Job.bind

/-- The job that only reports an event. -/
def emit (event : Event) : Job Unit :=
  ⟨[event], .ok ()⟩

/-- The job that only fails. -/
def fail {α : Type} (fault : Fault) : Job α :=
  ⟨[], .error fault⟩

/-- The job that reports nothing. -/
def ofExcept {α : Type} (result : Except Fault α) : Job α :=
  ⟨[], result⟩

/-! ## Events and results of composed jobs -/

@[simp] theorem events_pure {α : Type} (value : α) : (pure value : Job α).events = [] := rfl

@[simp] theorem result_pure {α : Type} (value : α) : (pure value : Job α).result = .ok value := rfl

theorem bind_of_ok {α β : Type} {first : Job α} {value : α} (next : α → Job β)
    (h : first.result = .ok value) :
    first >>= next = ⟨first.events ++ (next value).events, (next value).result⟩ := by
  show Job.bind first next = _
  simp [Job.bind, h]

theorem bind_of_error {α β : Type} {first : Job α} {fault : Fault} (next : α → Job β)
    (h : first.result = .error fault) : first >>= next = ⟨first.events, .error fault⟩ := by
  show Job.bind first next = _
  simp [Job.bind, h]

end Job

end Varsheet
