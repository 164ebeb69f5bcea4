import ViewCompanion.Source.Grammar
import ViewCompanion.Text.Numeral

namespace ViewCompanion

open Source

inductive RowAttributeFault
  | noIndex
  | notOneNumber
  | numeral (e : Text.NumeralError)
  deriving DecidableEq, Repr

inductive DeriveFault
  | notStruct
  | generic
  | stickerArguments
  | secondRow
  | row (fault : RowAttributeFault)
  deriving DecidableEq, Repr

def RowAttributeFault.message : RowAttributeFault → String
  | .noIndex => "#[action_row] requires a row index, e.g. #[action_row(0)]"
  | .notOneNumber => "#[action_row] takes exactly one non-negative integer literal"
  | .numeral e => e.message

def DeriveFault.message : DeriveFault → String
  | .notStruct => "DiscordView can only be derived for structs"
  | .generic => "generic view declarations are not supported"
  | .stickerArguments => "#[sticker] takes no arguments"
  | .secondRow => "duplicate #[action_row] attribute"
  | .row fault => fault.message

namespace Source

def Attribute.rowIndex (a : Attribute) : Except RowAttributeFault UInt32 :=
  match a.content with
  | .list tokens =>
    match literal? tokens with
    | some (.int negative value _ _, _, []) =>
      if negative then .error (.numeral .invalidDigit)
      else if value < UInt32.size then .ok (UInt32.ofNat value)
      else .error (.numeral .tooLarge)
    | _ => .error .notOneNumber
  | _ => .error .noIndex

def Meta.isWord : Meta → Bool
  | .word => true
  | _ => false

/-- The faults of a field's attributes; `rowSeen` when a row attribute came before. -/
def Field.faultsFrom (rowSeen : Bool) : List Attribute → List DeriveFault
  | [] => []
  | a :: rest =>
    if a.path.isName "sticker" then
      (if a.content.isWord then [] else [.stickerArguments]) ++ faultsFrom rowSeen rest
    else if a.path.isName "action_row" then
      (if rowSeen then [.secondRow] else match a.rowIndex with
        | .ok _ => []
        | .error fault => [.row fault]) ++ faultsFrom true rest
    else faultsFrom rowSeen rest

/-- Everything that is wrong with a view, in the order of its text. -/
def DeriveInput.faults (d : DeriveInput) : List DeriveFault :=
  if d.isStruct then
    (if d.isGeneric then [.generic] else [])
      ++ d.fields.flatMap fun field => Field.faultsFrom false field.attributes
  else [.notStruct]

end Source

end ViewCompanion
