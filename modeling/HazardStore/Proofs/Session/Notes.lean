import HazardStore.Session.Run
/-!
What a trace notes under one message: the fields of each such note, in order.
-/

namespace HazardStore

def Event.logged? (message : String) : Event → Option (List (String × JournalValue))
  | .noted entry => if entry.message = message then some entry.fields else none
  | _ => none

def logged (message : String) (trace : List Event) : List (List (String × JournalValue)) :=
  trace.filterMap (Event.logged? message)

variable {message : String}

theorem logged_append (first second : List Event) :
    logged message (first ++ second) = logged message first ++ logged message second :=
  List.filterMap_append

theorem logged_noted {entry : JournalEntry} (same : entry.message = message) (rest : List Event) :
    logged message (.noted entry :: rest) = entry.fields :: logged message rest :=
  List.filterMap_cons_some (if_pos same)

theorem logged_otherwise {entry : JournalEntry} (other : entry.message ≠ message)
    (rest : List Event) : logged message (.noted entry :: rest) = logged message rest :=
  List.filterMap_cons_none (if_neg other)

/-- What is said to the server is no note. -/
theorem logged_eq_nil {trace : List Event} (unnoted : ∀ entry, .noted entry ∉ trace) :
    logged message trace = [] := by
  apply List.filterMap_eq_nil_iff.2
  intro event member
  cases event with
  | noted entry => exact absurd member (unnoted entry)
  | _ => rfl

end HazardStore
