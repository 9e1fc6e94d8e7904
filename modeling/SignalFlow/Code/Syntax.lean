import SignalFlow.Number.Decimal
import SignalFlow.Scalar

/-! # Generated statements

The tick of a generated program in the form that all languages share: arithmetic terms (`Term`),
tests (`Test`) and statements (`Statement`) over the outputs of the blocks, their settled flags and
their state fields. What a term computes does not depend on the language; only its text does.

Reals and whole numbers do not mix: a whole number stands only in a place of an array (`Place`) and
in the state of a generator or a circular buffer, which have statements of their own.
-/

namespace SignalFlow.Code

/-- What a state field of a block is for. -/
inductive Role where
  | rng | x | prev | out | buf | idx | y | integral | tfState | inputHistory | outputHistory
  | last | lastTime | held | slope | next
deriving DecidableEq

/-- The first part of the name of a field. -/
def Role.name : Role → String
  | .rng => "rng"
  | .x => "x"
  | .prev => "prev"
  | .out => "out"
  | .buf => "buf"
  | .idx => "idx"
  | .y => "y"
  | .integral => "integral"
  | .tfState => "tf_x"
  | .inputHistory => "xh"
  | .outputHistory => "yh"
  | .last => "last"
  | .lastTime => "last_time"
  | .held => "held"
  | .slope => "slope"
  | .next => "next"

/-- The name that a block with a handle gives to a thing of its own. -/
def ownName (base : String) (handle : Nat) : String :=
  base ++ "_" ++ Decimal.digitsOf handle

/-- A state field of the block with a handle. -/
structure Field where
  role : Role
  handle : Nat
deriving DecidableEq

/-- The name of a field. -/
def Field.name (field : Field) : String := ownName field.role.name field.handle

/-- A value that is computed on the way. -/
inductive Local where
  /-- The new output of a block in a pass. -/
  | candidate
  /-- The rate of change of the error of a controller. -/
  | rate (handle : Nat)
  /-- The new output of a recurrence. -/
  | result (handle : Nat)
deriving DecidableEq

/-- The name of a value. -/
def Local.name : Local → String
  | .candidate => "value"
  | .rate handle => ownName "deriv" handle
  | .result handle => ownName "y" handle

/-- A place in an array. -/
inductive Place where
  | at (place : Nat)
  /-- Where a cursor stands. -/
  | cursor (idx : Field)
  /-- Some steps ahead of a cursor, around the end of an array of a size. -/
  | ahead (idx : Field) (steps size : Nat)
deriving DecidableEq

/-- How two values are compared. -/
inductive Relation where
  | lt | le | gt | ge | ne
deriving DecidableEq

/-- What computes a number. -/
inductive Term (α : Type) where
  | number (value : α)
  /-- The time of the tick. -/
  | time
  /-- The step. -/
  | step
  | pi
  /-- The output of a block. -/
  | output (handle : Nat)
  | field (field : Field)
  | item (array : Field) (place : Place)
  | localValue (name : Local)
  /-- An input of the whole program. -/
  | external (name : String)
  | add (a b : Term α)
  | sub (a b : Term α)
  | mul (a b : Term α)
  | div (a b : Term α)
  | sin (a : Term α)
  | abs (a : Term α)
  | min (a b : Term α)
  | max (a b : Term α)
  /-- The first of two values if a comparison holds, and the second one else. -/
  | choice (relation : Relation) (a b ifTrue ifFalse : Term α)
  /-- A term in parentheses. -/
  | grouped (a : Term α)

/-- What decides whether statements are run. -/
inductive Test (α : Type) where
  | compare (relation : Relation) (a b : Term α)
  /-- All of some blocks are settled. -/
  | settled (handles : List Nat)
  /-- A block is not settled, or its output is not the candidate. -/
  | stale (handle : Nat)

/-- Where a number is stored. -/
inductive Target where
  | output (handle : Nat)
  | field (field : Field)
  | item (array : Field) (place : Nat)
  | ahead (array idx : Field) (steps size : Nat)
deriving DecidableEq

/-- A statement of a generated program. -/
inductive Statement (α : Type) where
  | comment (text : String)
  | store (target : Target) (value : Term α)
  | increase (field : Field) (amount : Term α)
  | define (name : Local) (value : Term α)
  /-- Marks a block as settled. -/
  | settle (handle : Nat)
  /-- Marks the pass as one that has changed something. -/
  | progress
  /-- Moves the cursor of a circular buffer of a size by one. -/
  | advance (idx : Field) (size : Nat)
  /-- Moves a noise generator to its next state. -/
  | drawNoise (rng : Field)
  /-- Moves the state of a transfer function of an order through one step. -/
  | rungeKutta (state : Field) (handle order : Nat) (input : Term α)
  /-- Moves the items of an array towards its end; the last one is lost. -/
  | shiftRight (array : Field) (length : Nat)
  /-- Moves the items of an array towards its start; the first one is lost. -/
  | shiftLeft (array : Field) (length : Nat)
  /-- Hands the output of a block to the reader of the program's output of a name. -/
  | publish (name : String) (handle : Nat)
  | when (test : Test α) (body : List (Statement α))
  | block (body : List (Statement α))

/-- What a state field holds before the first tick. -/
inductive Initial (α : Type) where
  | number (value : α)
  /-- The state of a noise generator. -/
  | seed (value : UInt32)
  /-- A cursor at the start of its buffer. -/
  | cursor
  /-- An array of zeros. -/
  | zeros (length : Nat)

/-- A state field with what it holds at first. -/
structure Declaration (α : Type) where
  field : Field
  initial : Initial α

/-- A matrix or a vector of the realized transfer function of a block. -/
inductive Realized (α : Type) where
  | matrix (handle : Nat) (rows : List (List α))
  | vector (handle : Nat) (entries : List α)

/-- The name of the matrix of a block. -/
def matrixName (handle : Nat) : String := ownName "TF_A" handle

/-- The name of the vector of a block. -/
def vectorName (handle : Nat) : String := ownName "TF_B" handle

end SignalFlow.Code
