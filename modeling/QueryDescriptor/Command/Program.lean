import QueryDescriptor.Command.Arguments

namespace QueryDescriptor.Command

open Files (FileTree)

def levelOf (value : Text) : Except Text Log.Level :=
  let name := Text.trim value
  let isOneOf (names : List String) : Bool := names.any fun n => name = n.toList
  if isOneOf ["DEBUG", "debug", "VERBOSE", "verbose"] then .ok .debug
  else if isOneOf ["INFO", "info"] then .ok .info
  else if isOneOf ["TRACE", "trace"] then .ok .trace
  else if isOneOf ["WARN", "warn"] then .ok .warn
  else .error ("Invalid `LOG_LEVEL` environment variable value: `" ++ name ++ "`")

def defaultLevel : Log.Level := .info

/-- The level of a run, and the records of choosing it. The verbose option wins over the
environment. -/
def setUp (verbose : Bool) (environment : Option Text) : Log.Level × List Log.Record :=
  let initial (level : Log.Level) : Log.Record :=
    ⟨.trace, "Initial logging level set to `" ++ level.name ++ "`."⟩
  if verbose then (.debug, [initial .debug])
  else match environment.map levelOf with
    | none => (defaultLevel, [initial defaultLevel])
    | some (.ok level) => (level, [initial level])
    | some (.error warning) => (defaultLevel, [initial defaultLevel, ⟨.warn, warning⟩])

def Task.run (t : Task) (files : FileTree) : Outcome :=
  match t with
  | .describe d => d.run files
  | .manifest r => ⟨.printed r.manifest.pretty, [r.record], files⟩

def helpText : Topic → Text
  | .program =>
    "Turns GraphQL query/mutation documents into code-generation descriptors.\n\n" ++
      "Usage: gqlgen [OPTIONS] [COMMAND]\n\n" ++
      "Commands:\n" ++
      "  describe  Parse query/mutation documents and emit their descriptors as JSON\n" ++
      "  manifest  Generate the registry manifest for a provider release\n" ++
      "  help      Print this message or the help of the given subcommand(s)\n\n" ++
      "Options:\n" ++
      "  -v, --verbose  Enable verbose output.\n" ++
      "  -h, --help     Print help\n" ++
      "  -V, --version  Print version\n"
  | .describe =>
    "Parse query/mutation documents and emit their descriptors as JSON\n\n" ++
      "Usage: gqlgen describe [OPTIONS] <FILE_OR_DIR_PATHS>...\n"
  | .manifest =>
    "Generate the registry manifest for a provider release\n\n" ++
      "Usage: gqlgen manifest [OPTIONS] --os <OS> --arch <ARCH> --base-url <BASE_URL> " ++
      "--protocols <PROTOCOLS> --provider-name <PROVIDER_NAME> --version <RELEASE_VERSION>\n"
  | .help =>
    "Print this message or the help of the given subcommand(s)\n\n" ++
      "Usage: gqlgen help [COMMAND]...\n"

def versionText : Text := "gqlgen 0.1.0\n"

def Rejection.message : Rejection → Text
  | unknownArgument => "error: unexpected argument found"
  | unknownCommand => "error: unrecognized subcommand"
  | argumentConflict => "error: the argument cannot be used multiple times"
  | invalidValue => "error: a value is required for the argument but none was supplied"
  | tooManyValues => "error: unexpected value for an argument that takes none"
  | missingArgument => "error: the following required arguments were not provided"

structure Exit where
  code : Nat
  output : Text
  errors : Text
  records : List Log.Record
  tree : FileTree

namespace Exit

def printing (text : Text) (files : FileTree) : Exit := ⟨0, text, [], [], files⟩

def rejecting (r : Rejection) (files : FileTree) : Exit := ⟨2, [], r.message ++ ['\n'], [], files⟩

def ofOutcome (o : Outcome) : Exit :=
  match o.answer with
  | .printed text => ⟨0, text ++ ['\n'], [], o.records, o.tree⟩
  | .failed text => ⟨1, [], text ++ ['\n'], o.records, o.tree⟩

def logged (level : Log.Level) (records : List Log.Record) (e : Exit) : Exit :=
  { e with records := Log.upTo level (records ++ e.records) }

end Exit

def run (args : List Text) (environment : Option Text) (files : FileTree) : Exit :=
  match Invocation.read false args with
  | .error (.rejected r) => .rejecting r files
  | .error (.help topic) => .printing (helpText topic) files
  | .error .version => .printing versionText files
  | .ok i =>
    let (level, records) := setUp i.verbose environment
    let e : Exit := match i.task with
      | none => .printing (helpText .program) files
      | some task => .ofOutcome (task.run files)
    e.logged level records

end QueryDescriptor.Command
