import QueryDescriptor.Text.Quoted

namespace QueryDescriptor.Files

inductive FaultKind where
  | notFound
  | permissionDenied
  | alreadyExists
  | notADirectory
  | isADirectory
  | invalidFilename
  | filesystemLoop
  | invalidInput
  | invalidData
  deriving DecidableEq

namespace FaultKind

def name : FaultKind → Text
  | notFound => "NotFound"
  | permissionDenied => "PermissionDenied"
  | alreadyExists => "AlreadyExists"
  | notADirectory => "NotADirectory"
  | isADirectory => "IsADirectory"
  | invalidFilename => "InvalidFilename"
  | filesystemLoop => "FilesystemLoop"
  | invalidInput => "InvalidInput"
  | invalidData => "InvalidData"

def description : FaultKind → Text
  | notFound => "entity not found"
  | permissionDenied => "permission denied"
  | alreadyExists => "entity already exists"
  | notADirectory => "not a directory"
  | isADirectory => "is a directory"
  | invalidFilename => "invalid filename"
  | filesystemLoop => "filesystem loop or indirection limit (e.g. symlink loop)"
  | invalidInput => "invalid input parameter"
  | invalidData => "invalid data"

end FaultKind

/-- A fault that the operating system reports under a number. Nothing in a tree is denied to a
program: `denied` and its kind belong to faults from elsewhere, which are compared and shown. -/
inductive SystemFault where
  | noEntry
  | denied
  | exists
  | notADirectory
  | isADirectory
  | nameTooLong
  | tooManyLinks
  deriving DecidableEq

namespace SystemFault

def code : SystemFault → Nat
  | noEntry => 2
  | denied => 13
  | «exists» => 17
  | notADirectory => 20
  | isADirectory => 21
  | nameTooLong => 36
  | tooManyLinks => 40

def ofCode? (code : Nat) : Option SystemFault :=
  [noEntry, denied, «exists», notADirectory, isADirectory, nameTooLong, tooManyLinks].find?
    (·.code == code)

def kind : SystemFault → FaultKind
  | noEntry => .notFound
  | denied => .permissionDenied
  | «exists» => .alreadyExists
  | notADirectory => .notADirectory
  | isADirectory => .isADirectory
  | nameTooLong => .invalidFilename
  | tooManyLinks => .filesystemLoop

def description : SystemFault → Text
  | noEntry => "No such file or directory"
  | denied => "Permission denied"
  | «exists» => "File exists"
  | notADirectory => "Not a directory"
  | isADirectory => "Is a directory"
  | nameTooLong => "File name too long"
  | tooManyLinks => "Too many levels of symbolic links"

end SystemFault

inductive Fault where
  | system (f : SystemFault)
  /-- The path holds a character that ends the names of the system. -/
  | nulInPath
  | notUtf8
  | unexplained (kind : FaultKind)
  deriving DecidableEq

namespace Fault

def kind : Fault → FaultKind
  | system f => f.kind
  | nulInPath => .invalidInput
  | notUtf8 => .invalidData
  | unexplained k => k

def message : Fault → Text
  | system f => f.description ++ " (os error " ++ Text.ofNat f.code ++ ")"
  | nulInPath => "file name contained an unexpected NUL byte"
  | notUtf8 => "stream did not contain valid UTF-8"
  | unexplained k => k.description

end Fault
end QueryDescriptor.Files
