/-! # Languages of generated programs -/

namespace SignalFlow

/-- A language that programs are generated in. -/
inductive Language where
  | python | c
deriving DecidableEq, Inhabited

namespace Language

/-- The name of a language. -/
def name : Language → String
  | .python => "python"
  | .c => "c"

/-- All languages, in the order in which messages list them. -/
def all : List Language := [.python, .c]

/-- The language of a name in small letters. -/
def ofName? (text : String) : Option Language :=
  all.find? (·.name == text)

end Language

end SignalFlow
