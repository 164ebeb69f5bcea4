namespace ViewCompanion

inductive ButtonStyle
  | primary
  | secondary
  | success
  | danger
  | link
  deriving DecidableEq, Repr

structure Button where
  style : ButtonStyle
  label : Option String
  customId : Option String
  url : Option String
  disabled : Bool
  deriving DecidableEq, Repr

namespace Button

def interactive (customId label : String) (style : ButtonStyle) : Button :=
  ⟨style, some label, some customId, none, false⟩

def toUrl (label url : String) : Button :=
  ⟨.link, some label, none, some url, false⟩

def disable (b : Button) : Button := { b with disabled := true }

end Button

structure SelectOption where
  label : String
  value : String
  description : Option String
  deriving DecidableEq, Repr

structure SelectMenu where
  customId : String
  options : List SelectOption
  placeholder : Option String
  minValues : UInt8
  maxValues : UInt8
  deriving DecidableEq, Repr

namespace SelectMenu

def single (customId : String) (options : List SelectOption) : SelectMenu :=
  ⟨customId, options, none, 1, 1⟩

def withPlaceholder (m : SelectMenu) (placeholder : String) : SelectMenu :=
  { m with placeholder := some placeholder }

def withValues (m : SelectMenu) (min max : UInt8) : SelectMenu :=
  { m with minValues := min, maxValues := max }

end SelectMenu

inductive Component
  | row (components : List Component)
  | button (b : Button)
  | selectMenu (m : SelectMenu)
  deriving Repr

namespace Component

mutual

def decEq : (a b : Component) → Decidable (a = b)
  | row as, row bs =>
    match decEqList as bs with
    | isTrue h => isTrue (by rw [h])
    | isFalse h => isFalse (by rintro ⟨⟩; exact h rfl)
  | button a, button b =>
    if h : a = b then isTrue (by rw [h]) else isFalse (by rintro ⟨⟩; exact h rfl)
  | selectMenu a, selectMenu b =>
    if h : a = b then isTrue (by rw [h]) else isFalse (by rintro ⟨⟩; exact h rfl)
  | row _, button _ => isFalse (by simp)
  | row _, selectMenu _ => isFalse (by simp)
  | button _, row _ => isFalse (by simp)
  | button _, selectMenu _ => isFalse (by simp)
  | selectMenu _, row _ => isFalse (by simp)
  | selectMenu _, button _ => isFalse (by simp)

def decEqList : (as bs : List Component) → Decidable (as = bs)
  | [], [] => isTrue rfl
  | [], _ :: _ => isFalse (by simp)
  | _ :: _, [] => isFalse (by simp)
  | a :: as, b :: bs =>
    match decEq a b, decEqList as bs with
    | isTrue h, isTrue h' => isTrue (by rw [h, h'])
    | isFalse h, _ => isFalse (by rintro ⟨⟩; exact h rfl)
    | _, isFalse h => isFalse (by rintro ⟨⟩; exact h rfl)

end

instance : DecidableEq Component := decEq

def isRow : Component → Bool
  | row _ => true
  | _ => false

end Component

structure ActionRow where
  components : List Component
  deriving DecidableEq, Repr

namespace ActionRow

def size (r : ActionRow) : Nat := r.components.length

def isEmpty (r : ActionRow) : Bool := r.components.isEmpty

def toComponent (r : ActionRow) : Component := .row r.components

end ActionRow

end ViewCompanion
