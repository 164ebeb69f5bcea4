import ViewCompanion.Text.Split

namespace ViewCompanion

/-- The path of a type, trait, derive or attribute, segments with `::` between them. -/
abbrev QualifiedName := String

namespace QualifiedName

def mark : List Char := [':', ':']

/-- `segment` inside `home`; at the top there is nothing in front of it. -/
def join (home segment : String) : QualifiedName :=
  if home.isEmpty then segment else home ++ "::" ++ segment

def ofSegments (segments : List String) : QualifiedName :=
  String.ofList (Text.joinWith mark (segments.map String.toList))

/-- All but the last segment, when there are at least two. -/
def parent? (name : QualifiedName) : Option QualifiedName :=
  (Text.cutLast? mark name.toList).map fun (before, _) => String.ofList before

/-- What follows `base` in `name`: nothing, or `::` and more. -/
def below? (base name : QualifiedName) : Option (List Char) :=
  match Text.dropFront? base.toList name.toList with
  | some [] => some []
  | some rest => if mark.isPrefixOf rest then some rest else none
  | none => none

end QualifiedName

/-- A set of names in ascending order. -/
structure NameSet where
  toList : List QualifiedName
  ascending : toList.Pairwise (· < ·)
  deriving DecidableEq

namespace NameSet

def insertInto (name : QualifiedName) : List QualifiedName → List QualifiedName
  | [] => [name]
  | other :: rest =>
    if name < other then name :: other :: rest
    else if name = other then other :: rest
    else other :: insertInto name rest

theorem mem_insertInto {x name : QualifiedName} {names : List QualifiedName} :
    x ∈ insertInto name names ↔ x = name ∨ x ∈ names := by
  induction names with
  | nil => simp [insertInto]
  | cons other rest ih =>
    by_cases h : name < other
    · simp [insertInto, h]
    · by_cases h' : name = other
      · simp [insertInto, h']
      · simp only [insertInto, h, h', if_false, List.mem_cons, ih]
        constructor <;> rintro (rfl | rfl | h) <;> simp_all

theorem pairwise_insertInto {name : QualifiedName} {names : List QualifiedName}
    (h : names.Pairwise (· < ·)) : (insertInto name names).Pairwise (· < ·) := by
  induction names with
  | nil => simp [insertInto]
  | cons other rest ih =>
    obtain ⟨hother, hrest⟩ := List.pairwise_cons.1 h
    by_cases hlt : name < other
    · simp only [insertInto, hlt, if_true]
      refine List.pairwise_cons.2 ⟨fun x hx => ?_, h⟩
      rcases List.mem_cons.1 hx with rfl | hx
      · exact hlt
      · exact String.lt_trans hlt (hother x hx)
    · by_cases heq : name = other
      · simpa only [insertInto, heq, String.lt_irrefl, if_true, if_false] using h
      · simp only [insertInto, hlt, heq, if_false]
        refine List.pairwise_cons.2 ⟨fun x hx => ?_, ih hrest⟩
        rcases mem_insertInto.1 hx with rfl | hx
        · grind
        · exact hother x hx

def empty : NameSet := ⟨[], .nil⟩

instance : Inhabited NameSet := ⟨empty⟩

instance : Repr NameSet := ⟨fun s n => reprPrec s.toList n⟩

def insert (s : NameSet) (name : QualifiedName) : NameSet :=
  ⟨insertInto name s.toList, pairwise_insertInto s.ascending⟩

def ofList (names : List QualifiedName) : NameSet :=
  names.foldl insert empty

def union (s : NameSet) (names : List QualifiedName) : NameSet :=
  names.foldl insert s

def contains (s : NameSet) (name : QualifiedName) : Bool :=
  s.toList.contains name

instance : Membership QualifiedName NameSet := ⟨fun s name => name ∈ s.toList⟩

theorem mem_toList {s : NameSet} {name : QualifiedName} : name ∈ s.toList ↔ name ∈ s :=
  Iff.rfl

theorem not_mem_empty (name : QualifiedName) : ¬ name ∈ empty :=
  List.not_mem_nil

@[simp] theorem mem_insert {s : NameSet} {x name : QualifiedName} :
    x ∈ s.insert name ↔ x = name ∨ x ∈ s :=
  mem_insertInto

theorem mem_union {s : NameSet} {names : List QualifiedName} {x : QualifiedName} :
    x ∈ s.union names ↔ x ∈ s ∨ x ∈ names := by
  induction names generalizing s with
  | nil => simp [union]
  | cons name rest ih =>
    have h := ih (s := s.insert name)
    simp only [union, List.foldl_cons] at h ⊢
    rw [h, mem_insert, List.mem_cons]
    grind

theorem mem_ofList {names : List QualifiedName} {x : QualifiedName} :
    x ∈ ofList names ↔ x ∈ names := by
  have h : x ∈ ofList names ↔ x ∈ empty ∨ x ∈ names := mem_union
  rw [h]
  exact ⟨fun h => h.resolve_left (not_mem_empty x), Or.inr⟩

@[simp] theorem contains_iff {s : NameSet} {name : QualifiedName} :
    s.contains name = true ↔ name ∈ s := by
  rw [contains, List.contains_iff_mem, mem_toList]

end NameSet

end ViewCompanion
