import VmScan.Text.Quoted

/-!
# Failures

What went wrong in a step that talks to a model or works on a file.

* `Fault` — one thing that went wrong: the name of its class, its text, and what it says about
  itself apart from the text: signals, or the status of an answer.
* `Failure` — a fault with the faults that caused it, the nearest first.
* `Failure.wrap` — a fault caused by a failure.
-/

namespace VmScan

/-- What the class of a fault says by itself. -/
inductive Signal where
  | refusedResponse
  | circuitOpen
  | timeout
  deriving DecidableEq, Repr

/-- All signals, in the order in which faults are tested for them. -/
def Signal.all : List Signal :=
  [.refusedResponse, .circuitOpen, .timeout]

/-- The status that a fault carries: an integer, or something that is none. -/
inductive StatusCode where
  | integer (n : Int)
  | other
  deriving DecidableEq, Repr

/-- One thing that went wrong. -/
structure Fault where
  /-- The name of its class. -/
  name : String
  /-- What it reads as. -/
  text : String
  /-- The text with which it was raised. -/
  argument : String := text
  /-- What its class says, which may be of several kinds at once. -/
  signals : List Signal := []
  status : Option StatusCode := none
  /-- Whether the provider asks to slow down. -/
  isRateLimit : Bool := false
  deriving DecidableEq, Repr

/-- The fault with its class, as the text of another fault cites it. -/
def Fault.shown (fault : Fault) : String :=
  fault.name ++ "(" ++ Text.quoted fault.argument ++ ")"

/-- A fault with the faults that caused it, the nearest first. -/
structure Failure where
  fault : Fault
  causes : List Fault := []
  deriving DecidableEq, Repr

namespace Failure

/-- The fault and its causes. -/
def chain (failure : Failure) : List Fault :=
  failure.fault :: failure.causes

/-- What the failure reads as. -/
def text (failure : Failure) : String :=
  failure.fault.text

/-- A fault that a failure caused. -/
def wrap (cause : Failure) (fault : Fault) : Failure where
  fault
  causes := cause.chain

end Failure

end VmScan
