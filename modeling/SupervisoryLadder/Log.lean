/-!
# Log records

A log is a list of records in the order in which they arise. What is shown of it depends on a limit:
a record passes when it is at least as severe as the limit.
-/

namespace SupervisoryLadder

/-- How much a record matters, most severe first. -/
inductive Severity where
  | error
  | warn
  | info
  | debug
  | trace
  deriving DecidableEq

namespace Severity

/-- The distance from the most severe level. -/
def rank : Severity → Nat
  | error => 0
  | warn => 1
  | info => 2
  | debug => 3
  | trace => 4

/-- The name of a level in a log line. -/
def label : Severity → String
  | error => "ERROR"
  | warn => "WARN"
  | info => "INFO"
  | debug => "DEBUG"
  | trace => "TRACE"

/-- The level at a distance from the most severe one, up to the last. -/
def ofRank? : Nat → Option Severity
  | 0 => some error
  | 1 => some warn
  | 2 => some info
  | 3 => some debug
  | 4 => some trace
  | _ => none

end Severity

/-- One entry of a log. -/
structure Record where
  severity : Severity
  message : String
  deriving DecidableEq

namespace Record

/-- True when the record is at least as severe as the limit. -/
def passes (limit : Severity) (record : Record) : Bool := record.severity.rank ≤ limit.rank

/-- The line of a record in a log, where `stamp` stands for place and time. -/
def line (stamp : String) (record : Record) : String :=
  "[" ++ record.severity.label ++ " " ++ stamp ++ "] " ++ record.message ++ "\n"

end Record

end SupervisoryLadder
