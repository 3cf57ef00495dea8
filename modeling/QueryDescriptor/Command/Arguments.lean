import QueryDescriptor.Describe
import QueryDescriptor.Release

namespace QueryDescriptor.Command

inductive Topic where
  | program
  | describe
  | manifest
  | help
  deriving DecidableEq

inductive Rejection where
  | unknownArgument
  | unknownCommand
  | argumentConflict
  | invalidValue
  | tooManyValues
  | missingArgument
  deriving DecidableEq

inductive Stop where
  | rejected (r : Rejection)
  | help (topic : Topic)
  | version
  deriving DecidableEq

/-- The values that an option takes: none, one for which an empty text may do, or any number,
separated by commas. -/
inductive Takes where
  | nothing
  | one (orEmpty : Bool)
  | pieces
  deriving DecidableEq

structure OptionRule where
  name : Text
  takes : Takes
  required : Bool
  deriving DecidableEq

structure Usage where
  topic : Topic
  options : List OptionRule
  takesWords : Bool
  deriving DecidableEq

structure Given where
  options : List (Text × List Text)
  words : List Text
  deriving DecidableEq

namespace Given

def empty : Given := ⟨[], []⟩

def has (g : Given) (name : Text) : Bool := g.options.any (·.1 == name)

def values (g : Given) (name : Text) : List Text :=
  (g.options.filter (·.1 == name)).flatMap (·.2)

def value? (g : Given) (name : Text) : Option Text := (g.values name).head?

/-- Adds an option that stands for itself; it can be given once. -/
def addFlag (g : Given) (rule : OptionRule) : Except Rejection Given :=
  if g.has rule.name then .error .argumentConflict
  else .ok { g with options := g.options ++ [(rule.name, [])] }

/-- Adds a value of an option. Only an option that takes pieces can be given again. -/
def addValue (g : Given) (rule : OptionRule) (value : Text) : Except Rejection Given :=
  match rule.takes with
  | .pieces => .ok { g with options := g.options ++ [(rule.name, Text.split ',' value)] }
  | .one orEmpty =>
    if g.has rule.name then .error .argumentConflict
    else if value = [] ∧ !orEmpty then .error .invalidValue
    else .ok { g with options := g.options ++ [(rule.name, [value])] }
  | .nothing => .error .tooManyValues

def addWords (g : Given) (words : List Text) : Except Rejection Given :=
  if words.contains [] then .error .invalidValue else .ok { g with words := g.words ++ words }

end Given

inductive Pending where
  | nothing
  | option (rule : OptionRule) (value : Option Text)
  | words (ws : List Text)
  deriving DecidableEq

namespace Pending

/-- Checks what is pending. An option that waits for its value has none. -/
def settle (g : Given) : Pending → Except Rejection Given
  | nothing => .ok g
  | option _ none => .error .invalidValue
  | option rule (some value) => g.addValue rule value
  | words ws => g.addWords ws

end Pending

namespace Usage

def complete (u : Usage) (g : Given) : Bool :=
  (u.options.all fun rule => !rule.required || g.has rule.name) &&
    (!u.takesWords || g.words ≠ [])

def finish (u : Usage) (g : Given) (p : Pending) : Except Stop Given :=
  match p.settle g with
  | .error r => .error (.rejected r)
  | .ok g => if u.complete g then .ok g else .error (.rejected .missingArgument)

/-- The arguments after a double dash are all words. -/
def finishWords (u : Usage) (g : Given) (p : Pending) (ws : List Text) : Except Stop Given :=
  if ws = [] then u.finish g p
  else if !u.takesWords then .error (.rejected .unknownArgument)
  else match p with
    | .words before => u.finish g (.words (before ++ ws))
    | p =>
      match p.settle g with
      | .error r => .error (.rejected r)
      | .ok g => u.finish g (.words ws)

def askHelp (u : Usage) (g : Given) (p : Pending) : Except Stop Given :=
  match p.settle g with
  | .error r => .error (.rejected r)
  | .ok _ => .error (.help u.topic)

def long (u : Usage) (g : Given) (p : Pending) (text : Text) : Except Stop (Given × Pending) :=
  let name := Text.before (· == '=') text
  let attached := Text.after? (· == '=') text
  if name = "help" then
    match attached with
    | none => (u.askHelp g p).map (·, .nothing)
    | some _ => .error (.rejected .tooManyValues)
  else match u.options.find? (·.name = name) with
    | none => .error (.rejected .unknownArgument)
    | some rule =>
      let settled : Except Rejection (Given × Pending) :=
        match rule.takes, attached with
        | .nothing, some _ => .error .tooManyValues
        | .nothing, none => do return (← (← p.settle g).addFlag rule, .nothing)
        | _, some value => do return (← (← p.settle g).addValue rule value, .nothing)
        | _, none => do return (← p.settle g, .option rule none)
      settled.mapError .rejected

/-- What an argument without a dash in front does: it is the value that an option waits for, or a
word. -/
def plain (u : Usage) (g : Given) (p : Pending) (arg : Text) : Except Stop (Given × Pending) :=
  match p with
  | .option rule none => .ok (g, .option rule (some arg))
  | .words ws => .ok (g, .words (ws ++ [arg]))
  | p =>
    if u.takesWords then ((p.settle g).map (·, .words [arg])).mapError .rejected
    else .error (.rejected .unknownArgument)

def read (u : Usage) (g : Given) (p : Pending) : List Text → Except Stop Given
  | [] => u.finish g p
  | arg :: rest =>
    match arg with
    | ['-', '-'] => u.finishWords g p rest
    | '-' :: '-' :: text =>
      match u.long g p text with
      | .error s => .error s
      | .ok (g, p) => u.read g p rest
    | '-' :: 'h' :: _ => u.askHelp g p
    | '-' :: _ :: _ => .error (.rejected .unknownArgument)
    | arg =>
      match u.plain g p arg with
      | .error s => .error s
      | .ok (g, p) => u.read g p rest

end Usage

def describeUsage : Usage where
  topic := .describe
  options := [
    ⟨"graphql-file-exts", .pieces, false⟩,
    ⟨"output-dir", .one false, false⟩,
    ⟨"skip-invalid", .nothing, false⟩]
  takesWords := true

def manifestUsage : Usage where
  topic := .manifest
  options := [
    ⟨"os", .pieces, true⟩,
    ⟨"arch", .pieces, true⟩,
    ⟨"ascii-armor", .one true, false⟩,
    ⟨"base-url", .one true, true⟩,
    ⟨"key-id", .one true, false⟩,
    ⟨"protocols", .pieces, true⟩,
    ⟨"provider-name", .one true, true⟩,
    ⟨"version", .one true, true⟩,
    ⟨"source", .one true, false⟩,
    ⟨"source-url", .one true, false⟩]
  takesWords := false

def defaultExtensions : List Text := ["graphql", "gql"]

def describeOf (g : Given) : Describe where
  paths := g.words
  extensions :=
    if g.has "graphql-file-exts" then g.values "graphql-file-exts" else defaultExtensions
  outputDir := g.value? "output-dir"
  skipInvalid := g.has "skip-invalid"

def releaseOf (g : Given) : Release where
  systems := g.values "os"
  architectures := g.values "arch"
  protocols := g.values "protocols"
  baseUrl := (g.value? "base-url").getD []
  provider := (g.value? "provider-name").getD []
  version := (g.value? "version").getD []
  armor := (g.value? "ascii-armor").getD []
  keyId := (g.value? "key-id").getD []
  keySource := (g.value? "source").getD []
  keySourceUrl := (g.value? "source-url").getD []

inductive Task where
  | describe (d : Describe)
  | manifest (r : Release)
  deriving DecidableEq

structure Invocation where
  verbose : Bool
  task : Option Task
  deriving DecidableEq

namespace Invocation

def topic? (name : Text) : Option Topic :=
  if name = "describe" then some .describe
  else if name = "manifest" then some .manifest
  else if name = "help" then some .help
  else none

def help : List Text → Stop
  | [] => .help .program
  | name :: rest =>
    match topic? name, rest with
    | some topic, [] => .help topic
    | _, _ => .rejected .unknownCommand

def taskOf (topic : Topic) (args : List Text) : Except Stop Task :=
  match topic with
  | .describe => (describeUsage.read .empty .nothing args).map fun g => .describe (describeOf g)
  | .manifest => (manifestUsage.read .empty .nothing args).map fun g => .manifest (releaseOf g)
  | _ => .error (help args)

def shorts (verbose : Bool) : Text → Except Stop Bool
  | [] => .ok verbose
  | 'v' :: rest =>
    if verbose then .error (.rejected .argumentConflict) else shorts true rest
  | 'h' :: _ => .error (.help .program)
  | 'V' :: _ => .error .version
  | _ => .error (.rejected .unknownArgument)

def long (verbose : Bool) (text : Text) : Except Stop Bool :=
  let name := Text.before (· == '=') text
  let attached := Text.after? (· == '=') text
  if name = "verbose" ∨ name = "help" ∨ name = "version" then
    if attached ≠ none then .error (.rejected .tooManyValues)
    else if name = "help" then .error (.help .program)
    else if name = "version" then .error .version
    else if verbose then .error (.rejected .argumentConflict)
    else .ok true
  else .error (.rejected .unknownArgument)

def read (verbose : Bool) : List Text → Except Stop Invocation
  | [] => .ok ⟨verbose, none⟩
  | arg :: rest =>
    match arg with
    | ['-', '-'] =>
      match rest with
      | [] => .ok ⟨verbose, none⟩
      | name :: _ =>
        if (topic? name).isSome then .error (.rejected .unknownArgument)
        else .error (.rejected .unknownCommand)
    | '-' :: '-' :: text =>
      match long verbose text with
      | .error s => .error s
      | .ok verbose => read verbose rest
    | '-' :: c :: text =>
      match shorts verbose (c :: text) with
      | .error s => .error s
      | .ok verbose => read verbose rest
    | name =>
      match topic? name with
      | some topic => (taskOf topic rest).map fun t => ⟨verbose, some t⟩
      | none => .error (.rejected .unknownCommand)

end Invocation
end QueryDescriptor.Command
