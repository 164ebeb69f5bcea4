import ViewCompanion.Generation
import ViewCompanion.Proofs.Crate.Snapshot

namespace ViewCompanion

open Source

namespace SourceModule

def scope (m : SourceModule) : Scope :=
  .ofItems m.items

def lastBody? (modules : List SourceModule) (path : String) : Option SourceModule :=
  modules.reverse.find? fun m => m.path == path

theorem lastBody?_cons (m : SourceModule) (rest : List SourceModule) (path : String) :
    lastBody? (m :: rest) path =
      (lastBody? rest path).or (if m.path == path then some m else none) := by
  unfold lastBody?
  rw [List.reverse_cons, List.find?_append]
  cases h : m.path == path <;> simp [h]

theorem lastBody?_split (before : List SourceModule) {after : List SourceModule} {m : SourceModule}
    (h : ∀ n ∈ after, n.path ≠ m.path) : lastBody? (before ++ m :: after) m.path = some m := by
  have hafter : after.reverse.find? (fun n => n.path == m.path) = none := by
    simpa using h
  unfold lastBody?
  rw [List.reverse_append, List.reverse_cons, List.append_assoc, List.find?_append, hafter]
  simp

theorem scope_keeping {keep : Item → Bool}
    (h : ∀ item, keep item = false → ∀ s : Scope, s.addItem item = s) (m : SourceModule) :
    (m.keeping keep).scope = m.scope := by
  have hstep : (fun (s : Scope) item => if keep item = true then s.addItem item else s) =
      Scope.addItem := by
    funext s item
    cases hkeep : keep item with
    | true => rfl
    | false => exact (h item hkeep s).symm
  unfold scope keeping Scope.ofItems
  rw [List.foldl_filter, hstep]

end SourceModule

namespace Resolver

def addScope (scopes : List (String × Scope)) (m : SourceModule) : List (String × Scope) :=
  (m.path, m.scope) :: scopes.filter fun s => s.1 != m.path

theorem scopesOf_eq_foldl (modules : List SourceModule) :
    scopesOf modules = modules.foldl addScope [] := rfl

theorem lookup_filter_ne {name path : String} (h : name ≠ path) (scopes : List (String × Scope)) :
    (scopes.filter fun s => s.1 != name).lookup path = scopes.lookup path := by
  induction scopes with
  | nil => rfl
  | cons s rest ih =>
    obtain ⟨home, scope⟩ := s
    by_cases hs : home = name
    · subst hs
      have hpath : (path == home) = false := by simpa using h.symm
      simp [ih, List.lookup_cons, hpath]
    · simp [hs, ih, List.lookup_cons]

theorem lookup_addScope (scopes : List (String × Scope)) (m : SourceModule) (path : String) :
    (addScope scopes m).lookup path =
      if m.path == path then some m.scope else scopes.lookup path := by
  unfold addScope
  by_cases h : m.path = path
  · simp [h]
  · have hpath : (path == m.path) = false := by simpa using Ne.symm h
    simp [List.lookup_cons, hpath, h, lookup_filter_ne h]

theorem lookup_foldl_addScope (modules : List SourceModule) (scopes : List (String × Scope))
    (path : String) : (modules.foldl addScope scopes).lookup path =
      ((SourceModule.lastBody? modules path).map SourceModule.scope).or (scopes.lookup path) := by
  induction modules generalizing scopes with
  | nil => rfl
  | cons m rest ih =>
    rw [List.foldl_cons, ih, lookup_addScope, SourceModule.lastBody?_cons]
    cases SourceModule.lastBody? rest path with
    | some last => rfl
    | none => cases m.path == path <;> rfl

/-- What the scopes hold for a module does not matter once another body of it comes. -/
theorem foldl_addScope_filter {after : List SourceModule} {path : String}
    (h : ∃ n ∈ after, n.path = path) (scopes : List (String × Scope)) :
    after.foldl addScope scopes =
      after.foldl addScope (scopes.filter fun s => s.1 != path) := by
  induction after generalizing scopes with
  | nil =>
    obtain ⟨n, hn, -⟩ := h
    cases hn
  | cons n rest ih =>
    rw [List.foldl_cons, List.foldl_cons]
    by_cases hn : n.path = path
    · have hsame : addScope (scopes.filter fun s => s.1 != path) n = addScope scopes n := by
        simp [addScope, List.filter_filter, hn]
      rw [hsame]
    · have hrest : ∃ n ∈ rest, n.path = path := by
        obtain ⟨n', hmem, hpath⟩ := h
        rcases List.mem_cons.1 hmem with rfl | hmem
        · exact absurd hpath hn
        · exact ⟨n', hmem, hpath⟩
      have hstep : (addScope scopes n).filter (fun s => s.1 != path) =
          addScope (scopes.filter fun s => s.1 != path) n := by
        simp [addScope, List.filter_filter, hn, Bool.and_comm]
      rw [ih hrest, hstep]

theorem scopesOf_covered (before : List SourceModule) {m : SourceModule}
    {after : List SourceModule} (h : ∃ n ∈ after, n.path = m.path) :
    scopesOf (before ++ m :: after) = scopesOf (before ++ after) := by
  have hcovered (scopes : List (String × Scope)) :
      (addScope scopes m).filter (fun s => s.1 != m.path) =
        scopes.filter fun s => s.1 != m.path := by
    simp [addScope, List.filter_filter]
  rw [scopesOf_eq_foldl, scopesOf_eq_foldl, List.foldl_append, List.foldl_append, List.foldl_cons,
    foldl_addScope_filter h (addScope _ m), hcovered, ← foldl_addScope_filter h]

theorem scope?_ofModules (c : Config) (modules : List SourceModule) (path : String) :
    (ofModules c modules).scope? path =
      (SourceModule.lastBody? modules path).map SourceModule.scope := by
  have hlookup := lookup_foldl_addScope modules [] path
  rwa [List.lookup_nil, Option.or_none] at hlookup

theorem ofModules_covered (c : Config) (before : List SourceModule) {m : SourceModule}
    {after : List SourceModule} (h : ∃ n ∈ after, n.path = m.path) :
    ofModules c (before ++ m :: after) = ofModules c (before ++ after) := by
  unfold ofModules
  rw [scopesOf_covered before h]

end Resolver

namespace Snapshot

/-- Items that are not shown and add nothing to a scope can be left out. -/
theorem ofModules_keeping {keep : Item → Bool}
    (hshown : ∀ item, keep item = false → item.isShown = false)
    (hscope : ∀ item, keep item = false → ∀ s : Scope, s.addItem item = s) (c : Config)
    (modules : List SourceModule) :
    ofModules c (modules.map (SourceModule.keeping keep)) = ofModules c modules := by
  have hstep : (fun scopes (m : SourceModule) => Resolver.addScope scopes (m.keeping keep)) =
      Resolver.addScope := by
    funext scopes m
    unfold Resolver.addScope
    rw [SourceModule.scope_keeping hscope]
    rfl
  have hscopes : Resolver.scopesOf (modules.map (SourceModule.keeping keep)) =
      Resolver.scopesOf modules := by
    rw [Resolver.scopesOf_eq_foldl, Resolver.scopesOf_eq_foldl, List.foldl_map, hstep]
  have hresolver : Resolver.ofModules c (modules.map (SourceModule.keeping keep)) =
      .ofModules c modules := by
    unfold Resolver.ofModules
    rw [hscopes]
  unfold ofModules
  rw [hresolver, Resolver.declarations_keeping hshown]

theorem ofModules_covered (c : Config) (before : List SourceModule) {m : SourceModule}
    {after : List SourceModule} (h : ∃ n ∈ after, n.path = m.path) :
    ofModules c (before ++ m :: after) =
      ofModules c (before ++ m.keeping Item.isShown :: after) := by
  have hresolver : Resolver.ofModules c (before ++ m :: after) =
      .ofModules c (before ++ m.keeping Item.isShown :: after) := by
    rw [Resolver.ofModules_covered c before h]
    exact (Resolver.ofModules_covered (m := m.keeping Item.isShown) c before h).symm
  have hshown : (before ++ m :: after).map (SourceModule.keeping Item.isShown) =
      (before ++ m.keeping Item.isShown :: after).map (SourceModule.keeping Item.isShown) := by
    simp [SourceModule.keeping_keeping]
  unfold ofModules
  rw [hresolver, ← Resolver.declarations_keeping (fun _ h => h), hshown,
    Resolver.declarations_keeping (fun _ h => h)]

/-- The paths of all bodies of a module are resolved with the scope of its last body, which are its
own for that one alone. The imports of a body that another one follows, and the names of its items,
count for nothing. -/
theorem ofModules_last_body (c : Config) (modules : List SourceModule) :
    (∀ path, (Resolver.ofModules c modules).scope? path =
      (SourceModule.lastBody? modules path).map SourceModule.scope) ∧
    ∀ before m after, modules = before ++ m :: after →
      ((∀ n ∈ after, n.path ≠ m.path) →
        (Resolver.ofModules c modules).scope? m.path = some m.scope) ∧
      ((∃ n ∈ after, n.path = m.path) →
        Resolver.ofModules c modules = .ofModules c (before ++ after) ∧
        ofModules c modules = ofModules c (before ++ m.keeping Item.isShown :: after)) := by
  refine ⟨Resolver.scope?_ofModules c modules, ?_⟩
  rintro before m after rfl
  refine ⟨fun hlast => ?_, fun hcovered => ?_⟩
  · rw [Resolver.scope?_ofModules, SourceModule.lastBody?_split before hlast]
    rfl
  · exact ⟨Resolver.ofModules_covered c before hcovered, ofModules_covered c before hcovered⟩

def importingBody : SourceModule := ⟨"crate::v", [.use (.path "porbeagle" (.name "DiscordView"))]⟩

def bareBody : SourceModule := ⟨"crate::v", []⟩

theorem ofModules_last_body_importing :
    (Resolver.ofModules .standard [bareBody, importingBody]).scope? "crate::v" =
      some importingBody.scope ∧
    Resolver.ofModules .standard [importingBody, bareBody] = .ofModules .standard [bareBody] ∧
    ofModules .standard [importingBody, bareBody] = ofModules .standard [bareBody, bareBody] := by
  obtain ⟨-, hfirst⟩ := ofModules_last_body .standard [bareBody, importingBody]
  obtain ⟨-, hsecond⟩ := ofModules_last_body .standard [importingBody, bareBody]
  obtain ⟨hresolver, hsnapshot⟩ := (hsecond [] importingBody [bareBody] rfl).2
    ⟨bareBody, List.mem_singleton_self _, rfl⟩
  exact ⟨(hfirst [bareBody] importingBody [] rfl).1 (fun _ h => nomatch h), hresolver, hsnapshot⟩

/-- A view in a module with two bodies, of which the first imports what the view needs. -/
def twoBodies : String :=
  "#[cfg(unix)]\nmod v \x7b\n    use porbeagle::\x7bDiscordView, MessageView\x7d;\n\n" ++
  "    #[derive(DiscordView)]\n    pub struct Card;\n\n" ++
  "    impl MessageView for Card \x7b\x7d\n\x7d\n\n" ++
  "#[cfg(not(unix))]\nmod v \x7b\n    pub struct Other;\n\x7d\n"

/-- The first body imports the marker, yet neither it nor the interface is found for the view. -/
theorem imports_of_first_body_lost :
    (itemsOfFile? twoBodies).map (fun items => (SourceModule.inText ⟨"crate", items⟩).map fun m =>
      (m.path, m.scope.import? "DiscordView")) =
      some [("crate", none), ("crate::v", some ["porbeagle", "DiscordView"]),
        ("crate::v", none)] ∧
    (ofText? .standard twoBodies).map (fun s => s.declarations.map fun d =>
      (d.qualifiedName, d.annotations, d.interfaces)) =
      some [("crate::v::Card", [.marker "DiscordView"], []), ("crate::v::Other", [], [])] ∧
    (ofText? .standard twoBodies).map (fun s => s.views (.ofSnapshot s WellKnown.standard)) =
      some [] := by
  decide +kernel

end Snapshot

end ViewCompanion
