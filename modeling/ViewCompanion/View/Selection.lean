import ViewCompanion.View.Registry

namespace ViewCompanion

/-- How a declaration names itself and its model as arguments of the capability. -/
structure Binding where
  self? : Option ResolvedType
  model? : Option ResolvedType
  deriving DecidableEq, Repr

namespace Declaration

def capability? (d : Declaration) (capability : QualifiedName) : Option ResolvedType :=
  d.interfaces.find? fun i => i.name == capability

def isView (d : Declaration) (marker capability : QualifiedName) : Bool :=
  d.isAnnotated marker && (d.capability? capability).isSome

def binding? (d : Declaration) (r : Registry) : Option Binding := do
  let capability ← r.capability
  let interface ← d.capability? capability
  pure ⟨interface.args[0]?, interface.args[1]?⟩

end Declaration

namespace Registry

/-- Whether `d` is a view. Nothing is one without the marker or the capability. -/
def selects (r : Registry) (d : Declaration) : Bool :=
  match r.viewMarker, r.capability with
  | some marker, some capability => d.isView marker capability
  | _, _ => false

end Registry

def Snapshot.views (s : Snapshot) (r : Registry) : List Declaration :=
  s.declarations.filter r.selects

end ViewCompanion
