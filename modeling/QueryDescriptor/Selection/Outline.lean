import QueryDescriptor.Log
import QueryDescriptor.Selection.Diagnostic
import QueryDescriptor.Selection.Line
import QueryDescriptor.Selection.Nesting

namespace QueryDescriptor.Selection

inductive Event where
  | opened (name : Text)
  | closed
  | field (depth : Nat) (text name : Text)
  | diagnosed (d : Diagnostic)
  | stopped (line : Nat)
  deriving DecidableEq

/-- The open sets, with their stem kept beside them. -/
structure State where
  nesting : Nesting
  stem : Text
  deriving DecidableEq

namespace State

def start : State := ⟨.empty, []⟩

def enter (name : Text) (s : State) : State :=
  ⟨s.nesting.push name, (s.nesting.push name).stem⟩

def leave (s : State) : State :=
  match s.nesting.pop? with
  | some outer => ⟨outer, outer.stem⟩
  | none => s

/-- A closing line goes on with the scan only if the stem has this many separators. -/
def separatorsToGoOn : Nat := 2

/-- What line number `n` does to the state, and the events of it; a scan that stops there has no
next state. -/
def step (s : State) (n : Nat) : Line → Option (State × List Event)
  | .opening name => some (s.enter name, [.opened name])
  | .closing =>
    if s.nesting.separators < separatorsToGoOn then none else some (s.leave, [.closed])
  | .blank => some (s, [])
  | .leaf text =>
    if s.nesting.depth = 0 then some (s, [.diagnosed (.selectionOutsideBlock n text)])
    else some (s, [.field s.nesting.depth text (s.stem ++ Text.firstWord text)])

end State

/-- The number of the first line that is neither blank nor a closing brace; `n` is the number of
the first line given. -/
def firstContent? (n : Nat) : List Text → Option Nat
  | [] => none
  | raw :: below =>
    match Text.trim raw with
    | [] => firstContent? (n + 1) below
    | ['\x7d'] => firstContent? (n + 1) below
    | _ => some n

def scan (s : State) (n : Nat) : List Text → List Event
  | [] =>
    if s.nesting.depth = 0 then []
    else [.diagnosed (.unclosedSelectionSet s.nesting.depth)]
  | raw :: below =>
    match s.step n (Line.ofText raw) with
    | some (next, events) => events ++ scan next (n + 1) below
    | none =>
      match firstContent? (n + 1) below with
      | some m => [.stopped n, .diagnosed (.trailingContentIgnored n m)]
      | none => [.stopped n]

namespace Event

def fieldName? : Event → Option Text
  | field _ _ name => some name
  | _ => none

def name? : Event → Option Text
  | opened name => some name
  | field _ text _ => some (Text.firstWord text)
  | _ => none

def diagnostic? : Event → Option Diagnostic
  | diagnosed d => some d
  | _ => none

def record? : Event → Option Log.Record
  | field depth text _ =>
    some ⟨.trace, "Leaf selection at depth " ++ Text.ofNat depth ++ ": `" ++ text ++ "`."⟩
  | stopped line =>
    some ⟨.trace, "Stopping scan at shallow closing brace on line " ++ Text.ofNat line ++ "."⟩
  | _ => none

end Event

structure Outline where
  fields : List Text
  /-- The names that hold a separator themselves, each once, in the order they are first met. -/
  compounds : List Text
  diagnostics : List Diagnostic
  deriving DecidableEq

namespace Outline

def ofEvents (events : List Event) : Outline where
  fields := events.filterMap Event.fieldName?
  compounds := ((events.filterMap Event.name?).filter (·.contains separator)).eraseDups
  diagnostics := events.filterMap Event.diagnostic?

def ofLines (n : Nat) (lines : List Text) : Outline := ofEvents (scan .start n lines)

end Outline

def records (events : List Event) : List Log.Record :=
  events.filterMap Event.record? ++
    (events.filterMap Event.diagnostic?).map fun d =>
      ⟨.debug, "Scan diagnostic: " ++ d.shown⟩

end QueryDescriptor.Selection
