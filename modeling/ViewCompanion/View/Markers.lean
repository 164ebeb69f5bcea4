import ViewCompanion.Declaration.Codec
import ViewCompanion.View.Error
import ViewCompanion.View.Registry

namespace ViewCompanion

structure Markers where
  isSnowflake : Bool
  isEmbed : Bool
  sticker : Bool
  actionRow : Option UInt32
  deriving DecidableEq, Repr

def rowIndex : List Argument → Except RowIndexFault UInt32
  | [] => .error .missing
  | [.int n] =>
    if 0 ≤ n.toInt ∧ n.toInt < UInt32.size then .ok (UInt32.ofNat n.toInt.toNat)
    else .error (.outOfRange n.toInt)
  | [other] => .error (.notAnInteger other.display)
  | args => .error (.notSingle args.length)

namespace Member

def rowIndexOf (member : String) (args : List Argument) : Except ViewError UInt32 :=
  (rowIndex args).mapError (.malformedActionRow member)

/-- Whether the type of the member is the one called `name?`, without arguments. -/
def hasType (m : Member) (name? : Option QualifiedName) : Bool :=
  match name? with
  | some name => m.type.name == name && m.type.args.isEmpty
  | none => false

def actionRow (m : Member) (marker? : Option QualifiedName) : Except ViewError (Option UInt32) :=
  match marker? with
  | none => .ok none
  | some marker =>
    match m.annotationsOf marker with
    | [] => .ok none
    | [a] => (rowIndexOf m.name a.args).map some
    | _ => .error (.duplicateActionRow m.name)

def markers (m : Member) (r : Registry) : Except ViewError Markers :=
  (m.actionRow r.actionRowMarker).map fun actionRow => {
    isSnowflake := m.hasType r.snowflake
    isEmbed := m.hasType r.embed
    sticker := match r.stickerMarker with
      | some marker => !(m.annotationsOf marker).isEmpty
      | none => false
    actionRow }

end Member

inductive Category
  | sticker
  | embed
  | actionRow (index : UInt32)
  | ignored
  deriving DecidableEq, Repr

namespace Category

/-- A sticker is a snowflake with the marker; it wins over an embed, and that over an action row. -/
def ofMarkers (m : Markers) : Category :=
  if m.isSnowflake && m.sticker then sticker
  else if m.isEmbed then embed
  else match m.actionRow with
    | some index => actionRow index
    | none => ignored

inductive Kind
  | sticker
  | embed
  | actionRow
  | ignored
  deriving DecidableEq

def kinds : List (String × Kind) :=
  [("sticker", .sticker), ("embed", .embed), ("action_row_slot", .actionRow),
    ("ignored", .ignored)]

def encode : Category → Json
  | sticker => .object [("category", .string "sticker")]
  | embed => .object [("category", .string "embed")]
  | actionRow index =>
    .object [("category", .string "action_row_slot"), ("index", .number index.toNat)]
  | ignored => .object [("category", .string "ignored")]

def bare : Kind → Option Category
  | .sticker => some sticker
  | .embed => some embed
  | .actionRow => none
  | .ignored => some ignored

def decodeContent (kind : Kind) (depth : Nat) (r : Reading) : Decoded Category :=
  match kind, r with
  | .actionRow, r => (Decoder.uint32 depth r).map actionRow
  | .sticker, .null => .ok sticker
  | .embed, .null => .ok embed
  | .ignored, .null => .ok ignored
  | _, _ => .error .malformed

def form : Tagged Kind Category where
  tag := "category"
  content := "index"
  kinds := kinds
  bare := bare
  decode := decodeContent

def decode : Decoder Category := form.decodeValue

end Category

end ViewCompanion
