import SignalFlow.Text.Digit

/-! # Options

The arguments of a command are options, the values of options, and plain arguments. An option has a
short name of one dash and one letter or a long name behind two dashes, which may be cut short as
long as no other begins alike. A value follows its option, or is joined to it: behind an equals
sign, or right behind the letter of a short name. Letters of several options may stand behind one
dash.
-/

namespace SignalFlow.Command

/-- How a command is misused. -/
inductive Misuse where
  | ambiguous (text : String)
  | missingValue (name : String)
  | unwantedValue (name : String)
  | badValue (name text : String)
  | noCommand
  | unknownCommand (text : String)
  | noDiagram
  | unread (texts : List String)
deriving DecidableEq

/-- The words of a misuse. -/
def Misuse.message : Misuse → String
  | .ambiguous text => s!"several options begin with {text}"
  | .missingValue name => s!"option {name} takes a value"
  | .unwantedValue name => s!"option {name} takes no value"
  | .badValue name text => s!"option {name} cannot have the value {text}"
  | .noCommand => "there is no command"
  | .unknownCommand text => s!"there is no command {text}"
  | .noDiagram => "there is no diagram"
  | .unread texts => "there is no use for " ++ " ".intercalate texts

/-- Why the reading of a command ends early. -/
inductive Stop where
  /-- Help is asked for. -/
  | help
  | misuse (cause : Misuse)
deriving DecidableEq

/-- What an option does. -/
inductive Effect where
  /-- It sets itself. -/
  | flag
  /-- It takes one of the accepted values. -/
  | value (accepts : String → Bool)
  /-- It asks for help. -/
  | help

/-- An option with its names. -/
structure Rule (κ : Type) where
  key : κ
  names : List String
  effect : Effect

/-- What an argument is by its form. -/
inductive Form (κ : Type) where
  | plain
  /-- The two dashes behind which every argument is plain. -/
  | dashes
  /-- An option by one of its names, with the text that is joined to it. -/
  | known (rule : Rule κ) (name : String) (joined : Option (List Char))
  | unknown

/-- An argument with its form. -/
structure Word (κ : Type) where
  text : String
  form : Form κ

variable {κ : Type}

/-- The option of a name. -/
def rule? (rules : List (Rule κ)) (name : String) : Option (Rule κ) :=
  rules.find? (·.names.contains name)

/-- Whether a text is that of a number below zero, with or without a fraction. A line end may
follow. -/
def isNegative (text : String) : Bool :=
  let isDigit (c : Char) : Bool := (Text.decimalDigit? c).isSome
  match text.toList with
  | '-' :: rest =>
      let number := if rest.getLast? == some '\n' then rest.dropLast else rest
      let whole := number.takeWhile isDigit
      match number.dropWhile isDigit with
      | [] => !whole.isEmpty
      | '.' :: fraction => !fraction.isEmpty && fraction.all isDigit
      | _ => false
  | _ => false

/-- A text cut at its first equals sign. -/
def splitJoined (text : String) : String × Option (List Char) :=
  let name := String.ofList (text.toList.takeWhile (· != '='))
  match text.toList.dropWhile (· != '=') with
  | [] => (name, none)
  | _ :: joined => (name, some joined)

/-- The options whose name a text may stand for, with what is joined to it: the long names that
begin with it, or the short name of its first letter. -/
def candidates (rules : List (Rule κ)) (text : String) :
    List (Rule κ × String × Option (List Char)) :=
  if text.startsWith "--" then
    let (start, joined) := splitJoined text
    rules.flatMap fun rule =>
      (rule.names.filter (·.startsWith start)).map fun name => (rule, name, joined)
  else
    let name := String.ofList (text.toList.take 2)
    let joined := some (text.toList.drop 2)
    rules.flatMap fun rule =>
      (rule.names.filter (· == name)).map fun name => (rule, name, joined)

/-- The form of an argument in front of the two dashes. -/
def form (rules : List (Rule κ)) (text : String) : Except Misuse (Form κ) :=
  let (name, joined) := splitJoined text
  if !text.startsWith "-" then .ok .plain
  else
    match rule? rules text, rule? rules name with
    | some rule, _ => .ok (.known rule text none)
    | none, some rule => .ok (.known rule name joined)
    | none, none =>
        match if text == "-" then [] else candidates rules text with
        | [(rule, name, joined)] => .ok (.known rule name joined)
        | _ :: _ => .error (.ambiguous text)
        | [] =>
            if text == "-" || isNegative text || text.toList.contains ' ' then .ok .plain
            else .ok .unknown

/-- Arguments with their forms. -/
def words (rules : List (Rule κ)) : List String → Except Misuse (List (Word κ))
  | [] => .ok []
  | text :: rest =>
      if text == "--" then .ok (⟨text, .dashes⟩ :: rest.map fun text => ⟨text, .plain⟩)
      else return ⟨text, ← form rules text⟩ :: (← words rules rest)

/-- The options that have been read. -/
structure Given (κ : Type) where
  /-- The options with their values, in the order in which they are given. -/
  settings : List (κ × Option String)
  /-- The option whose value is the next argument. -/
  waiting : Option (Rule κ × String)
  /-- The arguments that nothing takes. -/
  unread : List String

namespace Given

/-- No options. -/
def empty : Given κ := ⟨[], none, []⟩

/-- The value that is given last to an option. -/
def value? [BEq κ] (given : Given κ) (key : κ) : Option String :=
  ((given.settings.filter (·.1 == key)).getLast?).bind (·.2)

/-- Whether an option is given. -/
def has [BEq κ] (given : Given κ) (key : κ) : Bool := given.settings.any (·.1 == key)

/-- Gives a value to an option. -/
def fill (given : Given κ) (rule : Rule κ) (name text : String) : Except Stop (Given κ) :=
  match rule.effect with
  | .value accepts =>
      if accepts text then
        .ok { given with settings := given.settings ++ [(rule.key, some text)], waiting := none }
      else .error (.misuse (.badValue name text))
  | _ => .error (.misuse (.unwantedValue name))

/-- Reads an option to which nothing is joined. -/
def start (given : Given κ) (rule : Rule κ) (name : String) : Except Stop (Given κ) :=
  match rule.effect with
  | .flag => .ok { given with settings := given.settings ++ [(rule.key, none)] }
  | .value _ => .ok { given with waiting := some (rule, name) }
  | .help => .error .help

/-- Reads an option behind whose short name stand a value or the letters of more options. -/
def bundle (rules : List (Rule κ)) (given : Given κ) (rule : Rule κ) (name : String) :
    List Char → Except Stop (Given κ)
  | [] => given.start rule name
  | letter :: more =>
      match rule.effect with
      | .value _ => given.fill rule name (String.ofList (letter :: more))
      | _ =>
          let next := String.ofList ['-', letter]
          let given := if rule.effect matches .flag then
            { given with settings := given.settings ++ [(rule.key, none)] } else given
          match rule? rules next with
          | some following => bundle rules given following next more
          | none => .error (.misuse (.unwantedValue name))

/-- Reads an option with what is joined to it. -/
def option (rules : List (Rule κ)) (given : Given κ) (rule : Rule κ) (name : String) :
    Option (List Char) → Except Stop (Given κ)
  | none => given.start rule name
  | some text =>
      if name.startsWith "--" || text.isEmpty then given.fill rule name (String.ofList text)
      else bundle rules given rule name text

/-- Reads an argument of the options. A plain one that no option waits for is left alone. -/
def take? (rules : List (Rule κ)) (given : Given κ) (word : Word κ) :
    Except Stop (Option (Given κ)) :=
  match given.waiting, word.form with
  | some (rule, name), .plain => return some (← given.fill rule name word.text)
  | some (_, name), _ => .error (.misuse (.missingValue name))
  | none, .known rule name joined => return some (← given.option rules rule name joined)
  | none, .unknown => .ok (some { given with unread := given.unread ++ [word.text] })
  | none, _ => .ok none

/-- Ends the reading, which fails if an option still waits for its value. -/
def finish (given : Given κ) : Except Stop (Given κ) :=
  match given.waiting with
  | some (_, name) => .error (.misuse (.missingValue name))
  | none => .ok given

end Given

/-- Reads the options in front of the first plain argument, and leaves the arguments from there
on. -/
def front (rules : List (Rule κ)) (given : Given κ) :
    List (Word κ) → Except Stop (Given κ × List (Word κ))
  | [] => return (← given.finish, [])
  | word :: rest => do
      match ← given.take? rules word with
      | some given => front rules given rest
      | none => return (given, word :: rest)

/-- Where the reading stands to the one plain argument of a command. -/
inductive Place where
  | before
  /-- Right behind it. -/
  | reached (text : String)
  | behind (text : String)
deriving DecidableEq

/-- The plain argument, once there is one. -/
def Place.text? : Place → Option String
  | .before => none
  | .reached text => some text
  | .behind text => some text

/-- Reads all arguments of a command that takes a single plain one. The two dashes may stand in
front of it or right behind it. -/
def single (rules : List (Rule κ)) (given : Given κ) (place : Place) :
    List (Word κ) → Except Stop (Given κ × Place)
  | [] => return (← given.finish, place)
  | word :: rest => do
      match ← given.take? rules word with
      | some given =>
          single rules given ((place.text?.map Place.behind).getD .before) rest
      | none =>
          match place, word.form with
          | .before, .plain => single rules given (.reached word.text) rest
          | .before, _ => single rules given .before rest
          | .reached text, .dashes => single rules given (.behind text) rest
          | place, _ => single rules { given with unread := given.unread ++ [word.text] } place rest

end SignalFlow.Command
