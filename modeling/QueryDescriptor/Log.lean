import QueryDescriptor.Text.Basic

namespace QueryDescriptor.Log

inductive Level where
  | warn
  | info
  | debug
  | trace
  deriving DecidableEq

namespace Level

def name : Level → Text
  | warn => "WARN"
  | info => "INFO"
  | debug => "DEBUG"
  | trace => "TRACE"

def verbosity : Level → Nat
  | warn => 0
  | info => 1
  | debug => 2
  | trace => 3

end Level

structure Record where
  level : Level
  message : Text
  deriving DecidableEq

def upTo (level : Level) (records : List Record) : List Record :=
  records.filter fun r => r.level.verbosity ≤ level.verbosity

end QueryDescriptor.Log
