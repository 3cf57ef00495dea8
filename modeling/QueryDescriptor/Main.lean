import QueryDescriptor.Command.Program

namespace QueryDescriptor.Main

open Files (Path Location FileTree Entry)
open Command (Invocation Task)

def absolute (place : Location) : String :=
  String.ofList ('/' :: Text.join ['/'] place)

def placeOf (path : String) : Location := (Path.pieces path.toList).filter (· ≠ [])

def itemAt (place : Location) : IO.FS.DirEntry :=
  { root := "/", fileName := absolute place }

def kindAt (place : Location) : IO (Option IO.FS.FileType) := do
  try
    return some (← (itemAt place).path.symlinkMetadata).type
  catch _ => return none

def realPlace? (place : Location) : IO (Option Location) := do
  try
    return some (placeOf (← IO.FS.realPath (absolute place)).toString)
  catch _ => return none

/-- A path that leads nowhere, and where nothing can be made. -/
def nowhere : Path := "/\x01/\x01"

structure Load where
  reads : Path → Bool
  enters : Bool

/-- Takes what is at a place into the tree, and what lies under it or behind its links. -/
partial def takeIn (l : Load) (t : FileTree) (place : Location) : IO FileTree := do
  if place ≠ [] ∧ (t.entryAt place).isSome ∧ !t.hasDirectory place then return t
  match ← kindAt place with
  | none => return t
  | some .file =>
    let content ←
      if l.reads (absolute place).toList then IO.FS.readBinFile (absolute place)
      else pure ByteArray.empty
    return t.put place (.file content)
  | some .dir =>
    let mut t := if place = [] then t else t.put place .directory
    if l.enters then
      for item in ← (itemAt place).path.readDir do
        t ← takeIn l t (place ++ [item.fileName.toList])
    return t
  | some .symlink =>
    match ← realPlace? place with
    | none => return t.put place (.link nowhere)
    | some target =>
      let t := t.put place (.link (absolute target).toList)
      let t := (t.makeDirectories (absolute target.dropLast).toList).1
      if (t.entryAt target).isSome then return t else takeIn l t target
  | some .other => return t.put place (.file ByteArray.empty)

def takeAlong (l : Load) (t : FileTree) (path : Path) : IO FileTree := do
  let mut t := t
  let mut place := FileTree.startOf t.workingDirectory path
  for name in FileTree.steps path do
    t ← takeIn { l with enters := false } t (place ++ [name])
    match ← realPlace? (place ++ [name]) with
    | none => return t
    | some next => place := next
  takeIn l t place

def filesFor (task : Option Task) (home : Location) : IO FileTree := do
  let start : FileTree :=
    { (FileTree.empty.makeDirectories (absolute home).toList).1 with workingDirectory := home }
  match task with
  | some (.describe d) =>
    let reads (path : Path) : Bool :=
      Discovery.matchesAny d.extensions path || d.paths.length == 1
    let mut t := start
    for path in d.paths do
      t ← takeAlong ⟨reads, true⟩ t path
    match d.outputDir with
    | none => return t
    | some dir =>
      t ← takeAlong ⟨reads, false⟩ t dir
      for document in (Discovery.search t d.extensions d.paths).documents do
        match Descriptor.ofFile t document with
        | .ok found => t ← takeAlong ⟨reads, false⟩ t (Path.child dir (Report.descriptorFile found))
        | .error _ => pure ()
      takeAlong ⟨reads, false⟩ t (Path.child dir Report.registrationFile)
  | _ => return start

def writeBack (before after : FileTree) : IO Unit := do
  for (place, e) in after.entries.reverse do
    if e = .directory ∧ !before.hasDirectory place then IO.FS.createDirAll (absolute place)
  for (place, content) in before.written after do
    IO.FS.writeBinFile (absolute place) content

end QueryDescriptor.Main

open QueryDescriptor QueryDescriptor.Main in
def main (args : List String) : IO UInt32 := do
  let args := args.map String.toList
  let task := match Command.Invocation.read false args with
    | .ok i => i.task
    | .error _ => none
  let home := placeOf (← IO.FS.realPath ".").toString
  let before ← filesFor task home
  let level ← IO.getEnv "LOG_LEVEL"
  let e := Command.run args (level.map String.toList) before
  writeBack before e.tree
  for r in e.records do
    IO.eprintln (String.ofList (r.level.name ++ ' ' :: r.message))
  IO.print (String.ofList e.output)
  IO.eprint (String.ofList e.errors)
  return UInt32.ofNat e.code
