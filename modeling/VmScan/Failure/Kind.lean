import VmScan.Failure.Basic
import VmScan.Text.Case
import VmScan.Text.Search

/-!
# Kinds of failures

A failure is sorted by the first fault of its chain that says what it is, through its class or an
integer status. Only where none does, the texts decide, all of them together and without regard
to case.

* `Fault.kind?` — the kind that a fault states.
* `kindOfText` — the kind that a text suggests.
* `Failure.kind` — the kind of a failure (`classify_failure`).
-/

namespace VmScan

/-- The kinds of failures. -/
inductive FailureKind where
  | parse
  | rateLimited
  | timeout
  | server
  | client
  | circuitOpen
  | unknown
  deriving DecidableEq, Repr

/-- The name of a kind. -/
def FailureKind.label : FailureKind → String
  | .parse => "parse"
  | .rateLimited => "rate_limited"
  | .timeout => "timeout"
  | .server => "server"
  | .client => "client"
  | .circuitOpen => "circuit_open"
  | .unknown => "unknown"

/-- The kind of a signal. -/
def Signal.kind : Signal → FailureKind
  | .refusedResponse => .parse
  | .circuitOpen => .circuitOpen
  | .timeout => .timeout

/-- The kind of a status, if it is one of a failed request. -/
def StatusCode.kind? : StatusCode → Option FailureKind
  | .integer n =>
    if n = 429 then some .rateLimited
    else if 400 ≤ n ∧ n < 500 then some .client
    else if 500 ≤ n ∧ n < 600 then some .server
    else none
  | .other => none

/-- The signal of a fault that counts: the first that it has of all. -/
def Fault.signal? (fault : Fault) : Option Signal :=
  Signal.all.find? (· ∈ fault.signals)

/-- The kind that a fault states, its signal before its status. -/
def Fault.kind? (fault : Fault) : Option FailureKind :=
  (fault.signal?.map (·.kind)).or (fault.status.bind (·.kind?))

/-- Words that suggest a kind, the kinds in the order in which they are tried. -/
def kindWords : List (FailureKind × List String) := [
  (.timeout, ["timeout", "timed out"]),
  (.rateLimited, ["429", "rate limit", "rate_limit"]),
  (.server, ["500", "502", "503", "504"]),
  (.client, ["400", "401", "403", "404"])]

/-- The kind that a text in lower case suggests. -/
def kindOfText (text : String) : FailureKind :=
  ((kindWords.find? fun (_, words) => words.any (Text.mentions text)).map (·.1)).getD .unknown

/-- The texts of the faults in lower case, with a blank between neighbours. -/
def joinedText (faults : List Fault) : String :=
  Text.lower (" ".intercalate (faults.map (·.text)))

/-- The kind of a chain of faults. -/
def kindOfChain (faults : List Fault) : FailureKind :=
  (faults.findSome? (·.kind?)).getD (kindOfText (joinedText faults))

/-- The kind of a failure. -/
def Failure.kind (failure : Failure) : FailureKind :=
  kindOfChain failure.chain

end VmScan
