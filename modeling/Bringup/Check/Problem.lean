/-!
# Problems of a checked value

* `Problem` : what is wrong with a part of a value, and the path to that part;
* `ProblemKind.code`, `ProblemKind.message` : the short name of a kind of problem and what is said of it;
* `Complaint` : all problems of a value of some model.
-/

namespace Bringup

/-- A step into a value. -/
inductive PathStep where
  | field (name : String)
  | item (index : Nat)
  deriving DecidableEq, Repr

/-- What can be wrong with a part of a value. -/
inductive ProblemKind where
  | missing
  | notAModel (model : String)
  | notText
  | textTooShort
  | notAList
  | listTooShort
  | notATuple
  | tupleTooLong (size : Nat)
  | notAnInteger
  | notIntegerText
  | integerTooLarge
  | fractional
  | notFinite
  | notATruthValue
  | notATruthText
  | tooSmall (least : Int)
  | tooLarge (greatest : Int)
  | refused (reason : String)
  deriving DecidableEq, Repr

namespace ProblemKind

/-- The short name of a kind of problem. -/
def code : ProblemKind → String
  | .missing => "missing"
  | .notAModel _ => "model_type"
  | .notText => "string_type"
  | .textTooShort => "string_too_short"
  | .notAList => "list_type"
  | .listTooShort => "too_short"
  | .notATuple => "tuple_type"
  | .tupleTooLong _ => "too_long"
  | .notAnInteger => "int_type"
  | .notIntegerText => "int_parsing"
  | .integerTooLarge => "int_parsing_size"
  | .fractional => "int_from_float"
  | .notFinite => "finite_number"
  | .notATruthValue => "bool_type"
  | .notATruthText => "bool_parsing"
  | .tooSmall _ => "greater_than_equal"
  | .tooLarge _ => "less_than_equal"
  | .refused _ => "value_error"

/-- What is said of a problem. -/
def message : ProblemKind → String
  | .missing => "Field required"
  | .notAModel model => "Input should be a valid dictionary or instance of " ++ model
  | .notText => "Input should be a valid string"
  | .textTooShort => "String should have at least 1 character"
  | .notAList => "Input should be a valid list"
  | .listTooShort => "List should have at least 1 item after validation, not 0"
  | .notATuple => "Input should be a valid tuple"
  | .tupleTooLong size => s!"Tuple should have at most 2 items after validation, not {size}"
  | .notAnInteger => "Input should be a valid integer"
  | .notIntegerText => "Input should be a valid integer, unable to parse string as an integer"
  | .integerTooLarge => "Unable to parse input string as an integer, exceeded maximum size"
  | .fractional => "Input should be a valid integer, got a number with a fractional part"
  | .notFinite => "Input should be a finite number"
  | .notATruthValue => "Input should be a valid boolean"
  | .notATruthText => "Input should be a valid boolean, unable to interpret input"
  | .tooSmall least => s!"Input should be greater than or equal to {least}"
  | .tooLarge greatest => s!"Input should be less than or equal to {greatest}"
  | .refused reason => "Value error, " ++ reason

end ProblemKind

/-- A problem and the path to the part that has it. -/
structure Problem where
  path : List PathStep
  kind : ProblemKind
  deriving DecidableEq, Repr

/-- The same problem seen from one step further out. -/
def Problem.under (step : PathStep) (p : Problem) : Problem := { p with path := step :: p.path }

/-- All problems of a value that should be of a model. -/
structure Complaint where
  model : String
  problems : List Problem
  deriving DecidableEq, Repr

/-- The first line of what is said of a complaint. -/
def Complaint.headline (c : Complaint) : String :=
  let count := c.problems.length
  s!"{count} validation error" ++ (if count = 1 then "" else "s") ++ " for " ++ c.model

end Bringup
