import QueryDescriptor.Text.Quoted

namespace QueryDescriptor.Selection

/-- A place where text was passed over. Lines count from one. -/
inductive Diagnostic where
  | missingRootSelection
  | selectionOutsideBlock (line : Nat) (text : Text)
  | trailingContentIgnored (stoppedAt firstIgnored : Nat)
  | unclosedSelectionSet (depth : Nat)
  deriving DecidableEq

def Diagnostic.shown : Diagnostic → Text
  | missingRootSelection => "MissingRootSelection"
  | selectionOutsideBlock line text =>
    "SelectionOutsideBlock \x7b line: " ++ Text.ofNat line ++ ", text: " ++ Text.quoted text ++
      " \x7d"
  | trailingContentIgnored stoppedAt firstIgnored =>
    "TrailingContentIgnored \x7b stopped_at_line: " ++ Text.ofNat stoppedAt ++
      ", first_ignored_line: " ++ Text.ofNat firstIgnored ++ " \x7d"
  | unclosedSelectionSet depth =>
    "UnclosedSelectionSet \x7b depth: " ++ Text.ofNat depth ++ " \x7d"

end QueryDescriptor.Selection
