import QueryDescriptor.Selection.Nesting
import QueryDescriptor.Text.LetterCase

namespace QueryDescriptor.Accessor

open Selection (separator)

/-- A word stays joined to what follows it if the first compound name that starts with it is
longer. -/
def staysJoined (compounds : List Text) (word : Text) : Bool :=
  match compounds.find? (word.isPrefixOf ·) with
  | some compound => word.length < compound.length
  | none => false

/-- The words made of pieces: a word that stays joined takes the next piece in. `word` is what
has been gathered of the first word. -/
def gather (compounds : List Text) (word : Text) : List Text → List Text
  | [] => [word]
  | piece :: pieces =>
    if staysJoined compounds word then gather compounds (word ++ separator :: piece) pieces
    else word :: gather compounds piece pieces

def wordsOf (compounds : List Text) (dottedName : Text) : List Text :=
  match Text.split separator dottedName with
  | [] => []
  | piece :: pieces => gather compounds piece pieces

def segmentsOf (compounds : List Text) (dottedName : Text) : List Text :=
  (wordsOf compounds dottedName).map Text.upperFirst

end QueryDescriptor.Accessor
