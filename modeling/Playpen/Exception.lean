/-!
# Exceptions of guest programs

A guest reports an exception by the name of its class, the names of the
ancestors of that class, the message and the backtrace. The category of the
exception is that of the first name, the class itself before its ancestors,
which is the name of a category; messages are not looked at.

What the learner is shown starts with the label of the category. It names the
class as well if the category is only that of an ancestor, and the class alone
stands before the message of an exception without a category.
-/

namespace Playpen

/-- The kinds of exceptions that are told apart. -/
inductive Category where
  | syntaxError
  | nameError
  | typeError
  | noMethodError
  | argumentError
  | zeroDivisionError
  | runtimeError
  | unknown
deriving DecidableEq, Repr

namespace Category

/-- The category of the class of that name, which has to match exactly. -/
def ofClassName? : String → Option Category
  | "SyntaxError" => some .syntaxError
  | "NameError" => some .nameError
  | "TypeError" => some .typeError
  | "NoMethodError" => some .noMethodError
  | "ArgumentError" => some .argumentError
  | "ZeroDivisionError" => some .zeroDivisionError
  | "RuntimeError" => some .runtimeError
  | _ => none

/-- The category of the first name that has one. -/
def ofNames (names : List String) : Category := (names.findSome? ofClassName?).getD .unknown

/-- The class after which the category is named. -/
def className? : Category → Option String
  | .syntaxError => some "SyntaxError"
  | .nameError => some "NameError"
  | .typeError => some "TypeError"
  | .noMethodError => some "NoMethodError"
  | .argumentError => some "ArgumentError"
  | .zeroDivisionError => some "ZeroDivisionError"
  | .runtimeError => some "RuntimeError"
  | .unknown => none

/-- The words that start the message shown to the learner. -/
def label? : Category → Option String
  | .syntaxError => some "Syntax Error"
  | .nameError => some "Name Error"
  | .typeError => some "Type Error"
  | .noMethodError => some "No Method Error"
  | .argumentError => some "Argument Error"
  | .zeroDivisionError => some "Division by Zero Error"
  | .runtimeError => some "Runtime Error"
  | .unknown => none

/-- The category's own name. -/
def name : Category → String
  | .syntaxError => "Syntax"
  | .nameError => "Name"
  | .typeError => "Type"
  | .noMethodError => "NoMethod"
  | .argumentError => "Argument"
  | .zeroDivisionError => "ZeroDivision"
  | .runtimeError => "Runtime"
  | .unknown => "Unknown"

/-- The class that a category is named after is of that category. -/
theorem ofClassName?_className? {k : Category} {name : String} (h : k.className? = some name) :
    ofClassName? name = some k := by
  cases k <;> simp [className?] at h <;> subst h <;> rfl

end Category

/-- An exception that ended a guest program, with its category. -/
structure Exception where
  className : String
  message : String
  /-- The innermost call first. -/
  backtrace : List String
  category : Category
deriving DecidableEq, Repr

namespace Exception

/-- The exception of a class with these ancestors. -/
def ofReport (className : String) (ancestors : List String) (message : String)
    (backtrace : List String) : Exception :=
  { className, message, backtrace, category := .ofNames (className :: ancestors) }

/-- The message with what kind of exception it is. -/
def classified (e : Exception) : String :=
  match e.category.label? with
  | some label =>
    if e.category.className? = some e.className then label ++ ": " ++ e.message
    else label ++ " (" ++ e.className ++ "): " ++ e.message
  | none => if e.className = "" then e.message else e.className ++ ": " ++ e.message

/-- How many lines of the backtrace are shown. -/
def shownCalls : Nat := 5

/-- The classified message and the innermost calls, each on a line of its
    own. -/
def describe (e : Exception) : String :=
  (e.backtrace.take shownCalls).foldl (fun text call => text ++ "\n  " ++ call) e.classified

end Exception

end Playpen
