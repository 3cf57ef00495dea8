import QueryDescriptor.Files.Fault
import QueryDescriptor.Files.Path

namespace QueryDescriptor.Files

instance decidableEqContent : DecidableEq ByteArray := ByteArray.instDecidableEq

inductive Entry where
  | file (content : ByteArray)
  | directory
  | link (target : Path)
  deriving DecidableEq

/-- A place of the tree: the names that lead to it from the root. A name is a text, so that files
whose names are not UTF-8 are outside the model. -/
abbrev Location := List Text

/-- A tree of files, and the place where relative paths start. The root is always a directory. -/
structure FileTree where
  entries : List (Location × Entry)
  workingDirectory : Location

namespace FileTree

def empty : FileTree := ⟨[], []⟩

def entryAt (t : FileTree) (place : Location) : Option Entry :=
  if place = [] then some .directory else t.entries.lookup place

def put (t : FileTree) (place : Location) (e : Entry) : FileTree :=
  { t with entries := (place, e) :: t.entries.filter (·.1 ≠ place) }

def hasDirectory (t : FileTree) (place : Location) : Bool :=
  match t.entryAt place with
  | some .directory => true
  | _ => false

/-- The most bytes that a name may have. -/
def nameLimit : Nat := 255

/-- The number of bytes from which on a path is too long. -/
def pathLimit : Nat := 4096

/-- The most links that are followed for one path. -/
def linkLimit : Nat := 40

/-- The names that lead along a path; a slash at its end is a step to the directory itself. -/
def steps (p : Path) : List Text :=
  (Path.pieces p).filter (· ≠ []) ++ if ['/'].isSuffixOf p then [['.']] else []

def startOf (place : Location) (p : Path) : Location :=
  if ['/'].isPrefixOf p then [] else place

/-- Goes down from a place by names. At a link, `follow` goes on from the place that holds the
link, with its target and the names left; a link under the last name counts as the place itself
unless `final` is set. Only the last name may stand for nothing. -/
def descend (t : FileTree) (final : Bool)
    (follow : Location → Path → List Text → Except SystemFault Location) :
    Location → List Text → Except SystemFault Location
  | place, [] => .ok place
  | place, name :: rest =>
    if !t.hasDirectory place then .error .notADirectory
    else if name = ['.'] then descend t final follow place rest
    else if name = ['.', '.'] then descend t final follow place.dropLast rest
    else if nameLimit < Text.byteCount name then .error .nameTooLong
    else match t.entryAt (place ++ [name]) with
      | none => if rest = [] then .ok (place ++ [name]) else .error .noEntry
      | some (.link target) =>
        if rest = [] ∧ !final then .ok (place ++ [name]) else follow place target rest
      | some _ => descend t final follow (place ++ [name]) rest

/-- Goes down from a place by names, through as many links as the first number says. -/
def descendThrough (t : FileTree) (final : Bool) :
    Nat → Location → List Text → Except SystemFault Location
  | 0 => descend t final fun _ _ _ => .error .tooManyLinks
  | n + 1 => descend t final fun place target rest =>
    descendThrough t final n (startOf place target) (steps target ++ rest)

def locateBy (t : FileTree) (final : Bool) (p : Path) (names : List Text) :
    Except Fault Location :=
  if p.contains '\x00' then .error .nulInPath
  else if p = [] then .error (.system .noEntry)
  else if pathLimit ≤ Text.byteCount p then .error (.system .nameTooLong)
  else match descendThrough t final linkLimit (startOf t.workingDirectory p) names with
    | .ok place => .ok place
    | .error f => .error (.system f)

/-- The place that a path leads to, links followed. There may be nothing there yet. -/
def locate (t : FileTree) (p : Path) : Except Fault Location := t.locateBy true p (steps p)

def find (t : FileTree) (p : Path) : Except Fault (Location × Entry) :=
  match t.locate p with
  | .error f => .error f
  | .ok place =>
    match t.entryAt place with
    | none => .error (.system .noEntry)
    | some e => .ok (place, e)

def isFile (t : FileTree) (p : Path) : Bool :=
  match t.find p with
  | .ok (_, .file _) => true
  | _ => false

def isDirectory (t : FileTree) (p : Path) : Bool :=
  match t.find p with
  | .ok (_, .directory) => true
  | _ => false

def readText (t : FileTree) (p : Path) : Except Fault Text :=
  match t.find p with
  | .error f => .error f
  | .ok (_, .file content) =>
    match String.fromUTF8? content with
    | some s => .ok s.toList
    | none => .error .notUtf8
  | .ok _ => .error (.system .isADirectory)

def makeDirectory (t : FileTree) (p : Path) : Except Fault FileTree :=
  match t.locateBy false p ((Path.pieces p).filter (· ≠ [])) with
  | .error f => .error f
  | .ok place =>
    match t.entryAt place with
    | some _ => .error (.system .exists)
    | none => .ok (t.put place .directory)

/-- Makes the directories that are missing, from the outside in. The tree keeps what was made
before a fault. -/
def makeMissing (t : FileTree) : List Path → FileTree × Option Fault
  | [] => (t, none)
  | p :: inside =>
    match t.makeDirectory p with
    | .ok t => t.makeMissing inside
    | .error f =>
      if f = .system .exists ∧ t.isDirectory p then t.makeMissing inside else (t, some f)

/-- Looks outwards for a directory that is there or can be made, then makes those in `missing`. -/
def makeOutwards (t : FileTree) (missing : List Path) : List Path → FileTree × Option Fault
  | [] => t.makeMissing missing
  | p :: outside =>
    match t.makeDirectory p with
    | .ok t => t.makeMissing missing
    | .error f =>
      if f.kind = .notFound then t.makeOutwards (p :: missing) outside
      else if f = .system .exists ∧ t.isDirectory p then t.makeMissing missing
      else (t, some f)

def makeDirectories (t : FileTree) (p : Path) : FileTree × Option Fault :=
  if p = [] then (t, none) else t.makeOutwards [] (p :: Path.parents p)

def writeBytes (t : FileTree) (p : Path) (content : ByteArray) : Except Fault FileTree :=
  match t.locate p with
  | .error f => .error f
  | .ok place =>
    match t.entryAt place with
    | some .directory => .error (.system .isADirectory)
    | _ => .ok (t.put place (.file content))

def writeText (t : FileTree) (p : Path) (text : Text) : Except Fault FileTree :=
  t.writeBytes p (String.ofList text).toUTF8

def makeLink (t : FileTree) (p target : Path) : Except Fault FileTree :=
  match t.locateBy false p (steps p) with
  | .error f => .error f
  | .ok place =>
    match t.entryAt place with
    | some _ => .error (.system .exists)
    | none => .ok (t.put place (.link target))

def children (t : FileTree) (place : Location) : List Text :=
  let names := t.entries.filterMap fun (p, _) => if p.dropLast = place then p.getLast? else none
  names.eraseDups.mergeSort fun a b => decide (a ≤ b)

/-- The files that are new in `after` or have other content there, by place. -/
def written (before after : FileTree) : List (Location × ByteArray) :=
  after.entries.filterMap fun (place, e) =>
    match e with
    | .file content => if before.entryAt place = some e then none else some (place, content)
    | _ => none

end FileTree
end QueryDescriptor.Files
