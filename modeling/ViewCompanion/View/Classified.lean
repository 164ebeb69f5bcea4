import ViewCompanion.View.Markers
import ViewCompanion.View.Rows
import ViewCompanion.View.Selection

namespace ViewCompanion

structure ClassifiedView where
  stickers : List String
  embeds : List String
  actionRows : List RowGroup
  ignored : List String
  binding : Option Binding
  deriving DecidableEq, Repr

abbrev Labelled := String × Category

namespace ClassifiedView

def namesIn (category : Category) (members : List Labelled) : List String :=
  (members.filter fun m => m.2 == category).map Prod.fst

def rowSlot? : Labelled → Option RowSlot
  | (member, .actionRow index) => some ⟨index, member⟩
  | _ => none

def ofLabelled (members : List Labelled) (binding : Option Binding) : ClassifiedView where
  stickers := namesIn .sticker members
  embeds := namesIn .embed members
  actionRows := RowGroup.ofSlots (members.filterMap rowSlot?)
  ignored := namesIn .ignored members
  binding := binding

def categoryOf? (v : ClassifiedView) (name : String) : Option Category :=
  if v.stickers.contains name then some .sticker
  else if v.embeds.contains name then some .embed
  else match v.actionRows.find? fun group => group.members.contains name with
    | some group => some (.actionRow group.index)
    | none => if v.ignored.contains name then some .ignored else none

def model? (v : ClassifiedView) : Option ResolvedType :=
  v.binding.bind Binding.model?

end ClassifiedView

namespace Member

def label (m : Member) (r : Registry) : Except ViewError Labelled :=
  (m.markers r).map fun markers => (m.name, .ofMarkers markers)

end Member

namespace Declaration

/-- Sorts the members of a declaration; the first member with bad markers fails it. -/
def classify (d : Declaration) (r : Registry) (binding : Option Binding) :
    Except ViewError ClassifiedView :=
  (d.members.mapM fun (m : Member) => m.label r).map fun members => .ofLabelled members binding

/-- Classifies a view that may not be generic and keeps to the limit of action rows. -/
def process (d : Declaration) (r : Registry) (maxRows : Option Nat) :
    Except ViewError ClassifiedView :=
  if d.generics.isEmpty then do
    let view ← d.classify r (d.binding? r)
    RowGroup.checkLimit view.actionRows maxRows
    pure view
  else .error (.genericDeclaration d.generics)

end Declaration

end ViewCompanion
