import ViewCompanion.Text.Split

namespace ViewCompanion

inductive RowIndexFault
  | missing
  | outOfRange (n : Int)
  | notAnInteger (text : String)
  | notSingle (count : Nat)
  deriving DecidableEq, Repr

def RowIndexFault.message : RowIndexFault → String
  | .missing => "missing row index argument"
  | .outOfRange n => "row index " ++ toString n ++ " is not a non-negative integer"
  | .notAnInteger text => "row index `" ++ text ++ "` is not an integer"
  | .notSingle count => "expected exactly one argument, found " ++ toString count

inductive ViewError
  | malformedActionRow (member : String) (fault : RowIndexFault)
  | duplicateActionRow (member : String)
  | tooManyActionRows (count max : Nat)
  | genericDeclaration (parameters : List String)
  deriving DecidableEq, Repr

def ViewError.message : ViewError → String
  | .malformedActionRow member fault =>
    "malformed #[action_row] on `" ++ member ++ "`: " ++ fault.message
  | .duplicateActionRow member =>
    "`" ++ member ++ "` carries more than one #[action_row] attribute"
  | .tooManyActionRows count max =>
    toString count ++ " action rows declared, at most " ++ toString max ++ " are allowed"
  | .genericDeclaration parameters =>
    "generic view declarations are not supported (parameters: " ++ Text.commaList parameters ++ ")"

end ViewCompanion
