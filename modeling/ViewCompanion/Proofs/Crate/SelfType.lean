import ViewCompanion.Crate.Snapshot
import ViewCompanion.Source.Equality

namespace ViewCompanion

namespace ResolvedType

/-- The part of a type at a place, the place given by the positions of the arguments on the way. -/
def at? (t : ResolvedType) : List Nat → Option ResolvedType
  | [] => some t
  | i :: rest => t.args[i]?.bind fun a => a.at? rest

mutual

/-- The type with `s` at the outermost of some places. -/
def replacing (here : List Nat → Bool) : (t s : ResolvedType) → ResolvedType
  | ⟨name, args⟩, s =>
    if here [] then s else ⟨name, replacingArgs (fun i rest => here (i :: rest)) args s⟩

def replacingArgs (here : Nat → List Nat → Bool) :
    (args : List ResolvedType) → (s : ResolvedType) → List ResolvedType
  | [], _ => []
  | a :: args, s => a.replacing (here 0) s :: replacingArgs (fun i => here (i + 1)) args s

end

end ResolvedType

namespace Source.TypeExpr

/-- The expression without the parentheses around it. -/
def inner : TypeExpr → TypeExpr
  | .paren t => t.inner
  | t => t

def args : TypeExpr → List TypeExpr
  | .path _ _ args => args
  | .paren t => t.args
  | .other _ => []

/-- What is written at a place, the place given by the positions of the arguments on the way. -/
def at? (t : TypeExpr) : List Nat → Option TypeExpr
  | [] => some t.inner
  | i :: rest => t.args[i]?.bind fun a => a.at? rest

/-- Whether the expression is the bare word `Self`. -/
def isSelf : TypeExpr → Bool
  | .path p bare _ => bare && p.isName "Self"
  | _ => false

def isSelfAt (t : TypeExpr) (place : List Nat) : Bool :=
  (t.at? place).any isSelf

mutual

/-- Whether the expression has nothing in it but paths, none of them with a `::` in front. -/
def isOfPaths : TypeExpr → Bool
  | .path p _ args => !p.absolute && areOfPaths args
  | .paren t => t.isOfPaths
  | .other _ => false

def areOfPaths : List TypeExpr → Bool
  | [] => true
  | t :: ts => t.isOfPaths && areOfPaths ts

end

theorem isOfPaths_of_mem {ts : List TypeExpr} (h : areOfPaths ts = true) {t : TypeExpr}
    (ht : t ∈ ts) : t.isOfPaths = true := by
  induction ts with
  | nil => cases ht
  | cons first rest ih =>
    rw [areOfPaths, Bool.and_eq_true] at h
    rcases List.mem_cons.1 ht with rfl | hrest
    · exact h.1
    · exact ih h.2 hrest

theorem at?_paren (t : TypeExpr) (place : List Nat) : (paren t).at? place = t.at? place := by
  cases place <;> rfl

theorem exists_path_of_isOfPaths {t : TypeExpr} (h : t.isOfPaths = true) :
    ∃ p bare, t.inner = .path p bare t.args ∧ p.absolute = false ∧ areOfPaths t.args = true := by
  match t with
  | .path p bare args =>
    rw [isOfPaths, Bool.and_eq_true, Bool.not_eq_true'] at h
    exact ⟨p, bare, rfl, h⟩
  | .paren t => exact exists_path_of_isOfPaths (t := t) (by rwa [isOfPaths] at h)

end Source.TypeExpr

namespace Resolver

open Source

variable (r : Resolver) (home : String)

theorem resolveTypes_eq_map (self? : Option ResolvedType) (ts : List TypeExpr) :
    r.resolveTypes home self? ts = ts.map (r.resolveType home self?) := by
  induction ts with
  | nil => rw [resolveTypes, List.map_nil]
  | cons t ts ih => rw [resolveTypes, List.map_cons, ih]

theorem resolveType_inner (self? : Option ResolvedType) (t : TypeExpr) :
    r.resolveType home self? t.inner = r.resolveType home self? t := by
  induction t using TypeExpr.inner.induct with
  | case1 t ih => rw [TypeExpr.inner, resolveType, ih]
  | case2 t hparen => rw [TypeExpr.inner.eq_2 t hparen]

theorem resolveType_none_path (p : NamePath) (bare : Bool) (args : List TypeExpr) :
    r.resolveType home none (.path p bare args) =
      ⟨r.resolvePath home p, r.resolveTypes home none args⟩ := by
  simp [resolveType]

theorem resolveType_some_path (s : ResolvedType) (p : NamePath) (bare : Bool)
    (args : List TypeExpr) :
    r.resolveType home (some s) (.path p bare args) =
      if bare && p.isName "Self" then s
      else ⟨r.resolvePath home p, r.resolveTypes home (some s) args⟩ := by
  cases hself : bare && p.isName "Self" <;> simp [resolveType, hself]

mutual

/-- A type for `Self` comes to stand where the bare word is written, and nothing else changes. -/
theorem resolveType_some (s : ResolvedType) : ∀ t : TypeExpr,
    r.resolveType home (some s) t = (r.resolveType home none t).replacing t.isSelfAt s
  | .path p bare args => by
    rw [resolveType_some_path, resolveType_none_path, ResolvedType.replacing,
      resolveTypes_some s args]
    rfl
  | .paren t => by
    have hplaces : (TypeExpr.paren t).isSelfAt = t.isSelfAt :=
      funext fun place => congrArg (Option.any _) (t.at?_paren place)
    rw [resolveType, resolveType, hplaces, resolveType_some s t]
  | .other text => by
    have hnowhere : (TypeExpr.other text).isSelfAt [] = false := rfl
    rw [resolveType, resolveType, ResolvedType.plain, ResolvedType.replacing, hnowhere,
      ResolvedType.replacingArgs]
    rfl

theorem resolveTypes_some (s : ResolvedType) : ∀ ts : List TypeExpr,
    r.resolveTypes home (some s) ts =
      ResolvedType.replacingArgs
        (fun i rest => (ts[i]?.bind fun t => t.at? rest).any TypeExpr.isSelf)
        (r.resolveTypes home none ts) s
  | [] => by rw [resolveTypes, resolveTypes, ResolvedType.replacingArgs]
  | t :: ts => by
    rw [resolveTypes, resolveTypes, ResolvedType.replacingArgs, resolveType_some s t,
      resolveTypes_some s ts]
    rfl

end

/-- What stands for an expression of paths: the type for `Self`, or the path with its arguments. -/
theorem exists_path_resolveType (s : ResolvedType) {t : TypeExpr} (ht : t.isOfPaths = true) :
    ∃ p bare, t.inner = .path p bare t.args ∧ p.absolute = false ∧
      TypeExpr.areOfPaths t.args = true ∧
      r.resolveType home (some s) t =
        if bare && p.isName "Self" then s
        else ⟨r.resolvePath home p, r.resolveTypes home (some s) t.args⟩ := by
  obtain ⟨p, bare, hinner, hrelative, hargs⟩ := TypeExpr.exists_path_of_isOfPaths ht
  refine ⟨p, bare, hinner, hrelative, hargs, ?_⟩
  rw [← r.resolveType_inner, hinner, resolveType_some_path]

/-- Every part of the result lies in a type put for `Self`, or it was written as a path, and not as
the bare word. -/
def LeavesNoSelf (s : ResolvedType) (t : TypeExpr) : Prop :=
  ∀ place u, (r.resolveType home (some s) t).at? place = some u →
    (∃ above below, place = above ++ below ∧ t.isSelfAt above = true ∧ s.at? below = some u) ∨
    ∃ p bare args, t.at? place = some (.path p bare args) ∧ u.name = r.resolvePath home p ∧
      (p.names = ["Self"] → bare = false)

theorem leavesNoSelf (s : ResolvedType) {t : TypeExpr} (ht : t.isOfPaths = true) :
    r.LeavesNoSelf home s t := by
  intro place u hu
  -- on the place: each step goes from an expression to one of its arguments
  induction place generalizing t with
  | nil =>
    obtain ⟨p, bare, hinner, hrelative, -, hresult⟩ := r.exists_path_resolveType home s ht
    rw [hresult] at hu
    split at hu
    · next hself => exact .inl ⟨[], [], rfl, (congrArg TypeExpr.isSelf hinner).trans hself, hu⟩
    · next hself =>
      cases hu
      refine .inr ⟨p, bare, t.args, congrArg some hinner, rfl, fun hnames => ?_⟩
      simpa [NamePath.isName, hrelative, hnames] using hself
  | cons i rest ih =>
    obtain ⟨p, bare, hinner, -, hargs, hresult⟩ := r.exists_path_resolveType home s ht
    rw [hresult] at hu
    split at hu
    · next hself =>
      exact .inl ⟨[], i :: rest, rfl, (congrArg TypeExpr.isSelf hinner).trans hself, hu⟩
    · obtain ⟨a, ha, hu⟩ := Option.bind_eq_some_iff.1 hu
      rw [resolveTypes_eq_map, List.getElem?_map, Option.map_eq_some_iff] at ha
      obtain ⟨arg, harg, rfl⟩ := ha
      have hat (place : List Nat) : t.at? (i :: place) = arg.at? place := by
        rw [TypeExpr.at?, harg]
        rfl
      rw [hat]
      refine (ih (TypeExpr.isOfPaths_of_mem hargs (List.mem_of_getElem? harg)) hu).imp_left ?_
      rintro ⟨above, below, rfl, habove, hbelow⟩
      exact ⟨i :: above, below, rfl, by rwa [TypeExpr.isSelfAt, hat], hbelow⟩

/-- The bare word `Self` means the type that it is resolved with, wherever it is written, and all
else means what it means without one. So it is in the arguments of an interface, and where only
paths are written, no bare word is left over. -/
theorem self_means (s : ResolvedType) (t : TypeExpr) (item : TraitImpl) :
    r.resolveType home (some s) t = (r.resolveType home none t).replacing t.isSelfAt s ∧
    (t.isOfPaths = true → r.LeavesNoSelf home s t) ∧
    (item.negative = false →
      let self := r.resolveType home none item.self
      r.interface? home item = some (self.name, ⟨r.resolvePath home item.interface,
        item.args.map fun arg => (r.resolveType home none arg).replacing arg.isSelfAt self⟩)) := by
  refine ⟨r.resolveType_some home s t, r.leavesNoSelf home s, fun hitem => ?_⟩
  have hargs (self : ResolvedType) : r.resolveTypes home (some self) item.args =
      item.args.map fun arg => (r.resolveType home none arg).replacing arg.isSelfAt self := by
    rw [resolveTypes_eq_map]
    exact List.map_congr_left fun arg _ => r.resolveType_some home self arg
  unfold interface?
  simp only [hitem, hargs]
  rfl

/-- `(V<Self>)`. -/
def nestedSelf : TypeExpr :=
  .paren (.path ⟨false, ["V"]⟩ false [.path ⟨false, ["Self"]⟩ true []])

def nestedSelfImpl : TraitImpl :=
  ⟨false, ⟨false, ["T"]⟩, [nestedSelf], .path ⟨false, ["crate", "C"]⟩ true []⟩

theorem self_means_nested :
    nestedSelf.isOfPaths = true ∧
      (ofModules .standard []).LeavesNoSelf "crate" (.plain "C") nestedSelf ∧
      nestedSelfImpl.negative = false ∧
      (ofModules .standard []).interface? "crate" nestedSelfImpl =
        some ("crate::C", ⟨"T", [⟨"V", [.plain "crate::C"]⟩]⟩) := by
  obtain ⟨-, hleft, himpl⟩ :=
    self_means (ofModules .standard []) "crate" (.plain "C") nestedSelf nestedSelfImpl
  exact ⟨rfl, hleft rfl, rfl, (himpl rfl).trans (by decide +kernel)⟩

/-- `Self` with a list of arguments is no bare word, even if the list is empty. -/
theorem self_with_list_left :
    let text := "struct C;impl T<Self<>> for C\x7b\x7d"
    let arg : TypeExpr := .path ⟨false, ["Self"]⟩ false []
    itemsOfFile? text = some [.struct ⟨[], "C", [], []⟩,
      .implementation ⟨false, ⟨false, ["T"]⟩, [arg], .path ⟨false, ["C"]⟩ true []⟩] ∧
    arg.isOfPaths = true ∧
    (Snapshot.ofText? .standard text).map (fun s => s.declarations.map Declaration.interfaces) =
      some [[⟨"T", [.plain "Self"]⟩]] := by
  decide +kernel

end Resolver

end ViewCompanion
