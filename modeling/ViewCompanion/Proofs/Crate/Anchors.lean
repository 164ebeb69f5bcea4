import ViewCompanion.Crate.Snapshot
import ViewCompanion.Proofs.Crate.WrittenPath

namespace ViewCompanion

open Source

namespace QualifiedName

variable {first : String} {segments rest : List String}

theorem toList_ofSegments_cons (first : String) (segments : List String) :
    (ofSegments (first :: segments)).toList =
      first.toList ++ segments.flatMap fun s => mark ++ s.toList := by
  rw [toList_ofSegments, List.map_cons, Text.joinWith_cons, List.flatMap_map]

theorem ofSegments_cons_ne_empty (hfirst : first ≠ "") (segments : List String) :
    ofSegments (first :: segments) ≠ "" := by
  intro h
  have hnil : first.toList ++ segments.flatMap (fun s => mark ++ s.toList) = [] := by
    rw [← toList_ofSegments_cons, h]
    rfl
  exact hfirst (String.toList_eq_nil_iff.1 (List.append_eq_nil_iff.1 hnil).1)

theorem ofSegments_insert_ne (front : List String) {added : List String} (hadded : added ≠ [])
    (rest : List String) :
    ofSegments (first :: front ++ (added ++ rest)) ≠ ofSegments (first :: front ++ rest) := by
  intro h
  have hlist := congrArg String.toList h
  simp only [List.cons_append, toList_ofSegments_cons, List.flatMap_append,
    List.append_cancel_left_eq, List.append_left_eq_self] at hlist
  obtain ⟨s, more, rfl⟩ := List.exists_cons_of_ne_nil hadded
  simp [mark] at hlist

end QualifiedName

namespace Resolver

open QualifiedName

variable {r : Resolver} {home first : String} {name : QualifiedName}
  {path segments rest : List String}

theorem inside_append (base : QualifiedName) (front back : List String) :
    inside base (front ++ back) = inside (inside base front) back :=
  List.foldl_append

theorem inside_ofSegments (hfirst : first ≠ "") (segments rest : List String) :
    inside (ofSegments (first :: segments)) rest = ofSegments (first :: segments ++ rest) := by
  apply String.toList_injective
  rw [toList_inside (ofSegments_cons_ne_empty hfirst segments), List.cons_append,
    toList_ofSegments_cons, toList_ofSegments_cons, List.flatMap_append, List.append_assoc]

theorem inside_mark_append {base : QualifiedName} (hbase : base ≠ "") (first : String)
    (rest : List String) : inside (base ++ "::" ++ first) rest = inside base (first :: rest) := by
  have hjoin : base ++ "::" ++ first = join base first := (if_neg (by simpa using hbase)).symm
  rw [hjoin]
  rfl

theorem climb_of_not_super (h : rest.head? ≠ some "super") :
    climb home rest = inside home rest := by
  unfold climb
  split
  · exact absurd rfl h
  · rfl

/-- What does not begin with `super` stays inside whatever the steps up lead to. -/
theorem climb_append (h : rest.head? ≠ some "super") (path : List String) :
    climb home (path ++ rest) = inside (climb home path) rest := by
  induction path generalizing home with
  | nil => exact climb_of_not_super h
  | cons s tail ih =>
    by_cases hs : s = "super"
    · subst hs
      exact ih
    · have hhead (more : List String) : (s :: more).head? ≠ some "super" := by simpa using hs
      rw [List.cons_append, climb_of_not_super (hhead _), climb_of_not_super (hhead _),
        ← inside_append]
      rfl

theorem around_ofSegments (first : String) (front : List String) {last : String}
    (hlast : ':' ∉ last.toList) :
    around (ofSegments (first :: front ++ [last])) = ofSegments (first :: front) := by
  have hmark : ∀ c ∈ mark, c ∉ last.toList := by simpa [mark] using hlast
  have hcut : Text.cutLast? mark (ofSegments (first :: front ++ [last])).toList =
      some ((ofSegments (first :: front)).toList, last.toList) := by
    rw [toList_ofSegments, toList_ofSegments, List.map_append, List.map_singleton,
      Text.joinWith_concat mark (by simp), Text.cutLast?_append (by simp [mark]) hmark]
  unfold around parent?
  rw [hcut]
  simp

/-- Each `super` leaves one module, as long as there is one. -/
theorem climb_replicate (hfirst : first ≠ "") {ms : List String} (hms : ∀ m ∈ ms, ':' ∉ m.toList)
    {k : Nat} (hk : k ≤ ms.length) (hrest : rest.head? ≠ some "super") :
    climb (ofSegments (first :: ms)) (List.replicate k "super" ++ rest) =
      ofSegments (first :: ms.take (ms.length - k) ++ rest) := by
  -- the first of the steps takes the last of the modules away
  induction k generalizing ms with
  | zero =>
    rw [Nat.sub_zero, List.take_length]
    exact (climb_of_not_super hrest).trans (inside_ofSegments hfirst ms rest)
  | succ k ih =>
    obtain ⟨front, last, rfl⟩ : ∃ front last, ms = front ++ [last] := by
      rcases ms.eq_nil_or_concat with rfl | ⟨front, last, rfl⟩
      · exact absurd hk (Nat.not_succ_le_zero k)
      · exact ⟨front, last, List.concat_eq_append⟩
    have hlength : (front ++ [last]).length = front.length + 1 := by simp
    rw [hlength] at hk ⊢
    have hfront := ih (fun m (hm : m ∈ front) => hms m (List.mem_append_left _ hm))
      (Nat.le_of_succ_le_succ hk)
    have htake : (front ++ [last]).take (front.length + 1 - (k + 1)) =
        front.take (front.length - k) := by
      rw [Nat.add_sub_add_right, List.take_append_of_le_length (Nat.sub_le _ _)]
    rw [htake, ← hfront, List.replicate_succ, List.cons_append]
    exact congrArg (climb · _) (around_ofSegments first front (hms last (by simp)))

/-- Whether a path that begins with `first` means something in `home` without any import. -/
def isAnchor (r : Resolver) (home first : String) : Bool :=
  relativeRoots.contains first || r.isModule (home ++ "::" ++ first)

theorem root_cases (h : first ∈ relativeRoots) :
    first = "crate" ∨ first = "self" ∨ first = "super" := by
  simpa [relativeRoots] using h

theorem isAnchor_of_not_root (h : first ∉ relativeRoots) :
    r.isAnchor home first = r.isModule (home ++ "::" ++ first) := by
  have hcontains : relativeRoots.contains first = false := by simpa using h
  rw [isAnchor, hcontains, Bool.false_or]

theorem anchored?_of_not_root (h : first ∉ relativeRoots) (rest : List String) :
    r.anchored? home (first :: rest) =
      if r.isModule (home ++ "::" ++ first) then some (inside (home ++ "::" ++ first) rest)
      else none := by
  simp only [relativeRoots, List.mem_cons, List.not_mem_nil, or_false, not_or] at h
  unfold anchored?
  split
  · rename_i heq
    cases heq
  · rename_i heq
    exact absurd (List.cons.inj heq).1 h.1
  · rename_i heq
    exact absurd (List.cons.inj heq).1 h.2.1
  · rename_i heq
    exact absurd (List.cons.inj heq).1 h.2.2
  · rename_i heq
    obtain ⟨rfl, rfl⟩ := List.cons.inj heq
    rfl

theorem isSome_anchored?_cons (r : Resolver) (home first : String) (rest : List String) :
    (r.anchored? home (first :: rest)).isSome = r.isAnchor home first := by
  by_cases hroot : first ∈ relativeRoots
  · rcases root_cases hroot with rfl | rfl | rfl <;> rfl
  · rw [anchored?_of_not_root hroot, isAnchor_of_not_root hroot]
    cases r.isModule (home ++ "::" ++ first) <;> rfl

theorem anchored?_eq_none (h : r.isAnchor home first = false) (rest : List String) :
    r.anchored? home (first :: rest) = none := by
  have hnone : (r.anchored? home (first :: rest)).isSome = false := by
    rw [isSome_anchored?_cons, h]
  simpa using hnone

/-- More behind a path lies inside what the path means. -/
theorem anchored?_append (h : r.anchored? home path = some name)
    (hrest : rest.head? ≠ some "super") :
    r.anchored? home (path ++ rest) = some (inside name rest) := by
  obtain ⟨first, tail, rfl⟩ : ∃ first tail, path = first :: tail := by
    cases path with
    | nil => cases h
    | cons first tail => exact ⟨first, tail, rfl⟩
  by_cases hroot : first ∈ relativeRoots
  · rcases root_cases hroot with rfl | rfl | rfl
    · cases h
      exact congrArg some (inside_append r.crateName tail rest)
    · cases h
      exact congrArg some (inside_append home tail rest)
    · cases h
      exact congrArg some (climb_append hrest tail)
  · rw [anchored?_of_not_root hroot] at h
    rw [List.cons_append, anchored?_of_not_root hroot]
    split at h
    · cases h
      rw [if_pos ‹_›, inside_append]
    · cases h

theorem resolveNames_of_anchored (h : r.anchored? home path = some name) :
    r.resolveNames home path = name := by
  unfold resolveNames
  rw [h]

section Imports

variable {scope : Scope} {given : String}

/-- An import of a name hides items and everything that is imported with all around it. -/
theorem resolvePath_of_import (hscope : r.scope? home = some scope)
    (himport : scope.import? given = some path) (hgiven : r.isAnchor home given = false)
    (rest : List String) :
    r.resolvePath home ⟨false, given :: rest⟩ = inside (r.target home path) rest := by
  change r.resolveNames home (given :: rest) = _
  unfold resolveNames
  rw [anchored?_eq_none hgiven, hscope]
  dsimp only
  rw [himport]

theorem target_of_anchored (h : r.anchored? home path = some name) : r.target home path = name := by
  unfold target
  rw [h]
  rfl

theorem target_of_not_anchor (h : r.isAnchor home first = false) (rest : List String) :
    r.target home (first :: rest) = ofSegments (first :: rest) := by
  unfold target
  rw [anchored?_eq_none h]
  rfl

end Imports

/-- The path means the name of `segments` in `home`: where it is written, as the target of an import
of one name, and as a place that everything is imported from. -/
structure Means (r : Resolver) (home : String) (path segments : List String) : Prop where
  written : r.resolvePath home ⟨false, path⟩ = ofSegments segments
  imported : ∀ scope given rest, r.scope? home = some scope → scope.import? given = some path →
    r.isAnchor home given = false →
    r.resolvePath home ⟨false, given :: rest⟩ = ofSegments (segments ++ rest)
  globbed : ∀ first rest, r.fromGlob? home first rest path =
    (some (ofSegments (segments ++ first :: rest))).filter fun found =>
      r.knows found || r.isModule found

theorem means_of_anchored (hfirst : first ≠ "")
    (h : r.anchored? home path = some (ofSegments (first :: segments))) :
    r.Means home path (first :: segments) where
  written := resolveNames_of_anchored h
  imported scope given rest hscope himport hgiven := by
    rw [resolvePath_of_import hscope himport hgiven, target_of_anchored h,
      inside_ofSegments hfirst]
  globbed next rest := by
    unfold fromGlob?
    rw [target_of_anchored h, inside_mark_append (ofSegments_cons_ne_empty hfirst segments),
      inside_ofSegments hfirst]
    rfl

/-- From a module of the crate, a path leads where the tree of modules says: from the crate, from
the module itself, and by each `super` at the front from one module further out. Behind `self`
though, a `super` is taken for the name of a module, and then the path leads nowhere. -/
theorem relative_paths_lead (r : Resolver) (hcrate : r.crateName ≠ "") (ms : List String)
    (hms : ∀ m ∈ ms, ':' ∉ m.toList) (rest : List String) (hrest : rest.head? ≠ some "super") :
    (∀ k, 1 ≤ k → k ≤ ms.length →
      r.Means (ofSegments (r.crateName :: ms)) (List.replicate k "super" ++ rest)
        (r.crateName :: ms.take (ms.length - k) ++ rest)) ∧
    r.Means (ofSegments (r.crateName :: ms)) ("self" :: rest) (r.crateName :: ms ++ rest) ∧
    r.Means (ofSegments (r.crateName :: ms)) ("crate" :: rest) (r.crateName :: rest) ∧
    ∀ k, 1 ≤ k → k ≤ ms.length →
      r.Means (ofSegments (r.crateName :: ms)) ("self" :: List.replicate k "super" ++ rest)
        (r.crateName :: ms ++ (List.replicate k "super" ++ rest)) ∧
      ofSegments (r.crateName :: ms ++ (List.replicate k "super" ++ rest)) ≠
        ofSegments (r.crateName :: ms.take (ms.length - k) ++ rest) := by
  have hself (more : List String) : r.Means (ofSegments (r.crateName :: ms)) ("self" :: more)
      (r.crateName :: ms ++ more) :=
    means_of_anchored hcrate (congrArg some (inside_ofSegments hcrate ms more))
  refine ⟨fun k hpos hk => ?_, hself rest, ?_, fun k hpos hk => ⟨hself _, ?_⟩⟩
  · obtain ⟨j, rfl⟩ := Nat.exists_eq_add_of_le' hpos
    exact means_of_anchored hcrate (congrArg some (climb_replicate hcrate hms hk hrest))
  · have hroot : inside r.crateName rest = ofSegments (r.crateName :: rest) := by
      apply String.toList_injective
      rw [toList_inside hcrate, toList_ofSegments_cons]
    exact means_of_anchored hcrate (congrArg some hroot)
  · -- all that was left out, and the steps themselves, are too much
    have hsplit : r.crateName :: ms ++ (List.replicate k "super" ++ rest) =
        r.crateName :: ms.take (ms.length - k) ++
          ((ms.drop (ms.length - k) ++ List.replicate k "super") ++ rest) := by
      rw [List.append_assoc, ← List.append_assoc (r.crateName :: ms.take _), List.cons_append,
        List.cons_append, List.cons_append, List.take_append_drop]
    rw [hsplit]
    refine ofSegments_insert_ne _ (fun hnil => ?_) rest
    have hzero := (List.replicate_eq_nil_iff _).1 (List.append_eq_nil_iff.1 hnil).2
    omega

/-- A module two levels inside a crate, where imports, items and a module have the names that the
paths are made of. -/
def nested : Resolver where
  crateName := "bot"
  scopes := [
    ("bot::a::b", {
      imports := [("Up", ["super", "super", "Model"]), ("Model", ["decoy"]), ("super", ["decoy"])]
      globs := [["super"]]
      locals := ["Model", "self", "crate"] }),
    ("bot::a::b::Model", .empty)]
  known := .ofList ["bot::a::Model"]

theorem relative_paths_lead_nested :
    nested.resolvePath (ofSegments ["bot", "a", "b"]) ⟨false, ["super", "super", "Model"]⟩ =
        ofSegments ["bot", "Model"] ∧
      nested.resolvePath (ofSegments ["bot", "a", "b"]) ⟨false, ["Up", "Id"]⟩ =
        ofSegments ["bot", "Model", "Id"] ∧
      nested.fromGlob? (ofSegments ["bot", "a", "b"]) "Model" [] ["super"] =
        some (ofSegments ["bot", "a", "Model"]) ∧
      nested.resolvePath (ofSegments ["bot", "a", "b"]) ⟨false, ["self", "Model"]⟩ =
        ofSegments ["bot", "a", "b", "Model"] ∧
      nested.resolvePath (ofSegments ["bot", "a", "b"]) ⟨false, ["crate", "Model"]⟩ =
        ofSegments ["bot", "Model"] ∧
      nested.resolvePath (ofSegments ["bot", "a", "b"]) ⟨false, ["self", "super", "Model"]⟩ =
        ofSegments ["bot", "a", "b", "super", "Model"] := by
  obtain ⟨hup, hself, hcrate, hstays⟩ :=
    relative_paths_lead nested (by decide) ["a", "b"] (by decide) ["Model"] (by decide)
  obtain ⟨hglob, -⟩ :=
    relative_paths_lead nested (by decide) ["a", "b"] (by decide) [] (by decide)
  refine ⟨(hup 2 (by decide) (by decide)).written, ?_, ?_, hself.written, hcrate.written,
    (hstays 1 (by decide) (by decide)).1.written⟩
  · exact (hup 2 (by decide) (by decide)).imported _ "Up" ["Id"] rfl rfl rfl
  · exact (hglob 1 (by decide) (by decide)).globbed "Model" []

/-- A struct in a module inside the crate, with the same type named in two ways. -/
def upwards : String :=
  "struct M;mod v\x7bstruct C(super::M,self::super::M);\x7d"

/-- `self::super` does not lead out of the module. -/
theorem super_behind_self_stays :
    (Snapshot.ofText? .standard upwards).map (fun s => s.declarations.map fun d =>
      (d.qualifiedName, d.members.map fun m => m.type.name)) =
      some [("crate::M", []), ("crate::v::C", ["crate::M", "crate::v::super::M"])] := by
  decide +kernel

end Resolver

end ViewCompanion
