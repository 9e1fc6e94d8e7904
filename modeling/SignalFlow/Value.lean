import SignalFlow.Text.Quoted

/-! # Values as files hold them

A diagram or configuration file holds values that nobody has interpreted yet: numbers, texts, lists
and mappings. A mapping keeps its entries in the order in which they were written. A whole number
and a double are told apart, since their texts differ (`Value.written`).
-/

namespace SignalFlow

/-- A value as it stands in a file. -/
inductive Value where
  | null
  | bool (value : Bool)
  | int (value : Int)
  | float (value : Float)
  | text (value : String)
  | list (items : List Value)
  | mapping (entries : List (String × Value))
deriving Inhabited

namespace Value

mutual

/-- The text of a value inside a list or a mapping, where texts are quoted. -/
def quoted : Value → String
  | .null => "None"
  | .bool true => "True"
  | .bool false => "False"
  | .int n => if n < 0 then "-" ++ Decimal.digitsOf n.natAbs else Decimal.digitsOf n.natAbs
  | .float x => Decimal.shortest x
  | .text s => Text.quoted s
  | .list items => "[" ++ ", ".intercalate (quotedItems items) ++ "]"
  | .mapping entries => "\x7b" ++ ", ".intercalate (quotedEntries entries) ++ "\x7d"

/-- The texts of the items of a list. -/
def quotedItems : List Value → List String
  | [] => []
  | item :: rest => quoted item :: quotedItems rest

/-- The texts of the entries of a mapping. -/
def quotedEntries : List (String × Value) → List String
  | [] => []
  | (key, value) :: rest => (Text.quoted key ++ ": " ++ quoted value) :: quotedEntries rest

end

/-- What is written for a value; a text stands for itself. -/
def written : Value → String
  | .text s => s
  | value => value.quoted

/-- Whether a value counts as present: not null, false, zero or empty. -/
def isPresent : Value → Bool
  | .null => false
  | .bool b => b
  | .int n => n != 0
  | .float x => !(x == 0.0)
  | .text s => !s.isEmpty
  | .list items => !items.isEmpty
  | .mapping entries => !entries.isEmpty

end Value

/-! ## Entries

A list of pairs in which each key stands once, in the order in which the keys came. -/

namespace Entries

variable {α : Type}

/-- The value under a key. -/
def get? (entries : List (String × α)) (key : String) : Option α :=
  (entries.find? (·.1 == key)).map (·.2)

/-- Whether a key is present. -/
def has (entries : List (String × α)) (key : String) : Bool :=
  entries.any (·.1 == key)

/-- Sets the value under a key: a new key comes last, a known one keeps its place. -/
def set (entries : List (String × α)) (key : String) (value : α) : List (String × α) :=
  match entries with
  | [] => [(key, value)]
  | (k, v) :: rest => if k == key then (k, value) :: rest else (k, v) :: set rest key value

/-- Without a key. -/
def erase (entries : List (String × α)) (key : String) : List (String × α) :=
  entries.filter (·.1 != key)

/-- The keys, in order. -/
def keys (entries : List (String × α)) : List String :=
  entries.map (·.1)

/-- Keeps the first place and the last value of a repeated key. -/
def ofPairs (pairs : List (String × α)) : List (String × α) :=
  pairs.foldl (fun entries (key, value) => set entries key value) []

/-- Sets all the pairs of a second list, in their order. -/
def update (entries : List (String × α)) (pairs : List (String × α)) : List (String × α) :=
  pairs.foldl (fun entries (key, value) => set entries key value) entries

end Entries

end SignalFlow
