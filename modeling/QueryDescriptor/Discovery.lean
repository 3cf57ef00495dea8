import QueryDescriptor.Files.Walk
import QueryDescriptor.Log

namespace QueryDescriptor

open Files (Path FileTree Visit WalkFault)

structure Discovery where
  documents : List Path
  faults : List WalkFault
  records : List Log.Record

namespace Discovery

def dotted (extension : Text) : Text :=
  if ['.'].isPrefixOf extension then extension else '.' :: extension

/-- The path ends in a name with one of the extensions. Names that are not UTF-8, which would be
compared by their closest text, are outside the model. -/
def matchesAny (extensions : List Text) (path : Path) : Bool :=
  match Path.extension? path with
  | some e => (extensions.map dotted).contains ('.' :: e)
  | none => false

def document? (extensions : List Text) : Visit → Option Path
  | .file path => if matchesAny extensions path then some path else none
  | _ => none

def fault? : Visit → Option WalkFault
  | .fault f => some f
  | _ => none

def record? (extensions : List Text) (start : Path) : Visit → Option Log.Record
  | .fault _ =>
    some ⟨.trace, "Encountered an error while iterating recursive filesystem entities at/under " ++
      Text.quoted start ++ "."⟩
  | .directory path => some ⟨.trace, "Skipping non-file: " ++ Text.quoted path ++ "."⟩
  | .file path =>
    if matchesAny extensions path then
      some ⟨.trace, "Found document at " ++ Text.quoted path ++ "."⟩
    else none

def ofWalks (extensions : List Text) (walks : List (Path × List Visit)) : Discovery where
  documents := walks.flatMap fun w => w.2.filterMap (document? extensions)
  faults := walks.flatMap fun w => w.2.filterMap fault?
  records :=
    ⟨.debug, "Scanning " ++ Text.ofNat walks.length ++ " input paths..."⟩ ::
      walks.flatMap fun w => w.2.filterMap (record? extensions w.1)

/-- The extensions as warnings list them, each once. Any order will do; sorted is the one chosen
here. -/
def listed (extensions : List Text) : Text :=
  let shown := (extensions.map fun e => '`' :: dotted e ++ ['`']).eraseDups
  Text.join [',', ' '] (shown.mergeSort fun a b => decide (a ≤ b))

def warning (extensions : List Text) (path : Path) : Log.Record :=
  ⟨.warn, "Proceeding to describe " ++ Text.quoted path ++
    " even though it doesn't match any of the --graphql-file-exts (" ++ listed extensions ++ ")."⟩

/-- The documents at or under the paths. A file that is the only path is taken whatever its
extension. -/
def search (t : FileTree) (extensions : List Text) (paths : List Path) : Discovery :=
  let found := ofWalks extensions (paths.map fun p => (p, t.walk p))
  match found.documents, paths with
  | [], [path] =>
    if t.isFile path then
      { found with
        documents := [path]
        records := found.records ++ [warning extensions path] }
    else found
  | _, _ => found

end Discovery
end QueryDescriptor
