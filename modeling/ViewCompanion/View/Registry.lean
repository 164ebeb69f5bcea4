import ViewCompanion.Config.Basic
import ViewCompanion.Declaration.Basic

namespace ViewCompanion

inductive Role
  | viewMarker
  | stickerMarker
  | actionRowMarker
  | capability
  | snowflake
  | embed
  deriving DecidableEq, Repr

namespace Role

/-- All roles, in the order in which they are reported. -/
def all : List Role :=
  [viewMarker, stickerMarker, actionRowMarker, capability, snowflake, embed]

def title : Role → String
  | viewMarker => "view marker"
  | stickerMarker => "sticker marker"
  | actionRowMarker => "action-row marker"
  | capability => "capability interface"
  | snowflake => "snowflake type"
  | embed => "embed type"

end Role

def WellKnown.name (w : WellKnown) : Role → QualifiedName
  | .viewMarker => w.viewMarker
  | .stickerMarker => w.stickerMarker
  | .actionRowMarker => w.actionRowMarker
  | .capability => w.capability
  | .snowflake => w.snowflake
  | .embed => w.embed

structure MissingName where
  role : Role
  name : QualifiedName
  deriving DecidableEq, Repr

def MissingName.message (m : MissingName) : String :=
  "well-known " ++ m.role.title ++ " `" ++ m.name
    ++ "` is not defined in the compilation's references"

/-- The well-known names that a snapshot defines, looked up once for a run. -/
structure Registry where
  viewMarker : Option QualifiedName
  stickerMarker : Option QualifiedName
  actionRowMarker : Option QualifiedName
  capability : Option QualifiedName
  snowflake : Option QualifiedName
  embed : Option QualifiedName
  deriving DecidableEq, Repr

namespace Registry

def get? (r : Registry) : Role → Option QualifiedName
  | .viewMarker => r.viewMarker
  | .stickerMarker => r.stickerMarker
  | .actionRowMarker => r.actionRowMarker
  | .capability => r.capability
  | .snowflake => r.snowflake
  | .embed => r.embed

/-- Keeps of the well-known names those that the snapshot defines. -/
def ofSnapshot (s : Snapshot) (names : WellKnown) : Registry :=
  let look (name : QualifiedName) : Option QualifiedName :=
    if s.defines name then some name else none
  { viewMarker := look names.viewMarker
    stickerMarker := look names.stickerMarker
    actionRowMarker := look names.actionRowMarker
    capability := look names.capability
    snowflake := look names.snowflake
    embed := look names.embed }

def missing (r : Registry) (names : WellKnown) : List MissingName :=
  (Role.all.filter fun role => (r.get? role).isNone).map fun role => ⟨role, names.name role⟩

theorem get?_ofSnapshot (s : Snapshot) (names : WellKnown) (role : Role) :
    (ofSnapshot s names).get? role
      = if s.defines (names.name role) then some (names.name role) else none := by
  cases role <;> rfl

end Registry

end ViewCompanion
