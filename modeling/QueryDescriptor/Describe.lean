import QueryDescriptor.Discovery
import QueryDescriptor.Document
import QueryDescriptor.Report

namespace QueryDescriptor

open Files (Path FileTree Fault WalkFault)

inductive Answer where
  | printed (text : Text)
  | failed (text : Text)
  deriving DecidableEq

structure Outcome where
  answer : Answer
  records : List Log.Record
  tree : FileTree

inductive ReportError where
  | sharedNames (names : List Text)
  | directory (path : Path) (fault : Fault)
  | file (path : Path) (fault : Fault)
  deriving DecidableEq

def ReportError.message : ReportError → Text
  | sharedNames names =>
    "Multiple documents share the operation name(s) " ++
      Text.join [',', ' '] (names.map fun name => '`' :: name ++ ['`']) ++
      "; each descriptor is written to `<name>.json`, so names must be unique"
  | directory path fault =>
    "Failed to create output directory " ++ Text.quoted path ++ ": " ++ fault.message
  | file path fault => "Failed to write " ++ Text.quoted path ++ ": " ++ fault.message

structure Writing where
  tree : FileTree
  records : List Log.Record
  error : Option ReportError

namespace Report

def registrationFile : Text := "provider.json"

def descriptorFile (d : Descriptor) : Text := d.name ++ ".json"

/-- Writes one file for each descriptor, up to the first that cannot be written. -/
def writeDescriptors (t : FileTree) (dir : Path) : List Descriptor → Writing
  | [] => ⟨t, [], none⟩
  | d :: rest =>
    let path := Path.child dir (descriptorFile d)
    match t.writeText path d.json.pretty with
    | .error f => ⟨t, [], some (.file path f)⟩
    | .ok t =>
      let w := writeDescriptors t dir rest
      let record : Log.Record :=
        ⟨.info, "Wrote descriptor for `" ++ d.name ++ "` to " ++ Text.quoted path ++ "."⟩
      { w with records := record :: w.records }

def writeRegistration (r : Report) (dir : Path) (w : Writing) : Writing :=
  match w.error with
  | some _ => w
  | none =>
    let path := Path.child dir registrationFile
    match w.tree.writeText path r.registration.pretty with
    | .error f => { w with error := some (.file path f) }
    | .ok t => { w with tree := t }

/-- Writes a report to a directory, which is made if it is missing. Nothing is written if two
documents share a name. -/
def write (r : Report) (dir : Path) (t : FileTree) : Writing :=
  match r.sharedNames with
  | [] =>
    match t.makeDirectories dir with
    | (t, some f) => ⟨t, [], some (.directory dir f)⟩
    | (t, none) => r.writeRegistration dir (writeDescriptors t dir r.documents)
  | names => ⟨t, [], some (.sharedNames names)⟩

def success (r : Report) (dir : Path) : Text :=
  "✅ Described GraphQL documents successfully:\n" ++
    "  * Wrote " ++ Text.ofNat r.documents.length ++ " descriptors to " ++ Text.quoted dir ++
    ".\n" ++
    "  * Registered " ++ Text.ofNat r.dataSources.length ++ " data sources.\n" ++
    "  * Registered " ++ Text.ofNat r.resources.length ++ " resources."

end Report

structure Describe where
  paths : List Path
  extensions : List Text
  outputDir : Option Path
  skipInvalid : Bool
  deriving DecidableEq

namespace Describe

abbrev Reading := Path × Except DocumentError Descriptor

def readings (t : FileTree) (paths : List Path) : List Reading :=
  paths.map fun p => (p, Descriptor.ofFile t p)

def described (rs : List Reading) : List Descriptor :=
  rs.filterMap fun r => r.2.toOption

def failures (rs : List Reading) : List (Path × DocumentError) :=
  rs.filterMap fun r =>
    match r.2 with
    | .ok _ => none
    | .error e => some (r.1, e)

def warnings (d : Describe) (r : Reading) : List Log.Record :=
  match r.2 with
  | .ok document =>
    document.diagnostics.map fun x => ⟨.warn, Text.quoted r.1 ++ ": " ++ x.shown⟩
  | .error e =>
    if d.skipInvalid then
      [⟨.warn, "⚠️ Skipping " ++ Text.quoted r.1 ++ ": " ++ e.message⟩]
    else []

def failureText (fs : List (Path × DocumentError)) : Text :=
  "❌ Failed to parse " ++ Text.ofNat fs.length ++ " documents:\n  * " ++
    Text.join "\n  * " (fs.map fun f => Text.quoted f.1 ++ ": " ++ f.2.message)

def searchText (faults : List WalkFault) : Text :=
  "❌ Errors while searching for GraphQL documents: " ++ WalkFault.listed faults

def deliver (d : Describe) (r : Report) (t : FileTree) : Outcome :=
  match d.outputDir with
  | none => ⟨.printed r.json.pretty, [], t⟩
  | some dir =>
    let w := r.write dir t
    match w.error with
    | none => ⟨.printed (r.success dir), w.records, w.tree⟩
    | some e => ⟨.failed ("❌ " ++ e.message), w.records, w.tree⟩

def describeAll (d : Describe) (t : FileTree) (paths : List Path) : Outcome :=
  let rs := readings t paths
  let records :=
    ⟨.debug, "Found " ++ Text.ofNat paths.length ++ " GraphQL documents to describe."⟩ ::
      paths.flatMap (Descriptor.fileRecords t) ++ rs.flatMap d.warnings
  if failures rs ≠ [] ∧ !d.skipInvalid then ⟨.failed (failureText (failures rs)), records, t⟩
  else
    let o := d.deliver (.ofDocuments (described rs)) t
    { o with records := records ++ o.records }

def run (d : Describe) (t : FileTree) : Outcome :=
  let found := Discovery.search t d.extensions d.paths
  match found.faults with
  | [] =>
    let o := d.describeAll t found.documents
    { o with records := found.records ++ o.records }
  | faults => ⟨.failed (searchText faults), found.records, t⟩

end Describe
end QueryDescriptor
