/-!
# Log records

A record is a message of some level with named fields, and `render` writes it as
one line.  A threshold says down to which level records are wanted.
-/

namespace ArenaChain.Log

/-- How important a record is, from the most to the least. -/
inductive Level where
  | error
  | warn
  | info
  | debug
  | trace
  deriving DecidableEq

namespace Level

def rank : Level → Nat
  | error => 0
  | warn => 1
  | info => 2
  | debug => 3
  | trace => 4

def name : Level → String
  | error => "ERROR"
  | warn => "WARN"
  | info => "INFO"
  | debug => "DEBUG"
  | trace => "TRACE"

end Level

/-- Which records are wanted: none, or those down to a level. -/
inductive Threshold where
  | off
  | downTo (level : Level)
  deriving DecidableEq

namespace Threshold

def ofName? : String → Option Threshold
  | "off" => some .off
  | "error" => some (.downTo .error)
  | "warn" => some (.downTo .warn)
  | "info" => some (.downTo .info)
  | "debug" => some (.downTo .debug)
  | "trace" => some (.downTo .trace)
  | _ => none

def admits (threshold : Threshold) (level : Level) : Bool :=
  match threshold with
  | off => false
  | downTo least => level.rank ≤ least.rank

/-- A wanted level brings every more important one with it. -/
theorem admits_of_rank_le {threshold : Threshold} {least level : Level}
    (wanted : threshold.admits least = true) (above : level.rank ≤ least.rank) :
    threshold.admits level = true := by
  cases threshold with
  | off => cases wanted
  | downTo bound =>
      simp only [admits, decide_eq_true_eq] at wanted ⊢
      exact Nat.le_trans above wanted

end Threshold

/-- What a field of a record holds. -/
inductive Value where
  | number (value : Nat)
  /-- Text that is written as it is. -/
  | sentence (text : String)
  /-- Text that is written in quotation marks. -/
  | quoted (text : String)
  deriving DecidableEq

/-- A character inside quotation marks; the mark itself and the backslash are
preceded by a backslash. -/
def escape (char : Char) : List Char :=
  if char = '"' ∨ char = '\\' then ['\\', char] else [char]

def Value.render : Value → String
  | number value => toString value
  | sentence text => text
  | quoted text => "\"" ++ String.ofList (text.toList.flatMap escape) ++ "\""

/-- A message of some level from some part of the program, with named values. -/
structure Record where
  level : Level
  target : String
  message : String
  fields : List (String × Value)
  deriving DecidableEq

/-- The record on one line: level, target and message, then the fields. -/
def Record.render (record : Record) : String :=
  let fields := record.fields.map fun field => field.1 ++ "=" ++ field.2.render
  let opening := record.level.name ++ " " ++ record.target ++ ": " ++ record.message
  " ".intercalate (opening :: fields)

end ArenaChain.Log
