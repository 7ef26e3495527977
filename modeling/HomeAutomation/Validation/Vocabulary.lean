/-!
# Closed vocabularies

A vocabulary is a type whose values are the words of a short list, and no two words share a text.
`Vocabulary.ofText?` finds the word with a given text: a text stands for a word exactly when it is
the text of that word (`ofText?_eq_some_iff`).
-/

namespace HomeAutomation

class Vocabulary (α : Type) where
  words : List α
  text : α → String
  find?_text : ∀ w, words.find? (fun v => text v == text w) = some w := by
    intro w; cases w <;> decide

namespace Vocabulary

def ofText? {α : Type} [Vocabulary α] (s : String) : Option α :=
  words.find? fun w : α => text w == s

@[simp] theorem ofText?_text {α : Type} [Vocabulary α] (w : α) : ofText? (text w) = some w :=
  find?_text w

theorem ofText?_eq_some_iff {α : Type} [Vocabulary α] {s : String} {w : α} :
    ofText? s = some w ↔ text w = s := by
  constructor
  · intro h
    simpa using List.find?_some h
  · rintro rfl
    exact ofText?_text w

theorem text_injective {α : Type} [Vocabulary α] {v w : α} (h : text v = text w) : v = w :=
  Option.some.inj ((ofText?_text v).symm.trans (h ▸ ofText?_text w))

end Vocabulary

inductive Weekday where
  | monday
  | tuesday
  | wednesday
  | thursday
  | friday
  | saturday
  | sunday
  deriving DecidableEq, Repr

instance : Vocabulary Weekday where
  words := [.monday, .tuesday, .wednesday, .thursday, .friday, .saturday, .sunday]
  text
    | .monday => "mon"
    | .tuesday => "tue"
    | .wednesday => "wed"
    | .thursday => "thu"
    | .friday => "fri"
    | .saturday => "sat"
    | .sunday => "sun"

inductive RunMode where
  /-- The new start is ignored. -/
  | single
  /-- The running one is stopped first. -/
  | restart
  /-- The new one waits. -/
  | queued
  | parallel
  deriving DecidableEq, Repr

instance : Vocabulary RunMode where
  words := [.single, .restart, .queued, .parallel]
  text
    | .single => "single"
    | .restart => "restart"
    | .queued => "queued"
    | .parallel => "parallel"

inductive Direction where
  | increase
  | decrease
  deriving DecidableEq, Repr

instance : Vocabulary Direction where
  words := [.increase, .decrease]
  text
    | .increase => "increase"
    | .decrease => "decrease"

inductive SwitchState where
  | on
  | off
  deriving DecidableEq, Repr

instance : Vocabulary SwitchState where
  words := [.on, .off]
  text
    | .on => "on"
    | .off => "off"

inductive Surface where
  | dashboard
  | automation
  deriving DecidableEq, Repr

instance : Vocabulary Surface where
  words := [.dashboard, .automation]
  text
    | .dashboard => "dashboard"
    | .automation => "automation"

end HomeAutomation
