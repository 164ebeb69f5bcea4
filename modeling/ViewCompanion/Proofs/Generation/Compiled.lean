import ViewCompanion.Proofs.Crate.Modules
import ViewCompanion.Proofs.Generation.Independence
import ViewCompanion.Proofs.View.Accepted

namespace ViewCompanion

open Source

variable {text : String} {items : List Item} {d : Declaration}

/-- The structs of a crate in one text are open to a derive. -/
theorem Source.derives_of_mem_inText (h : itemsOfFile? text = some items) {path : String}
    {m : SourceModule} (hm : m ∈ SourceModule.inText ⟨path, items⟩) {item : StructItem}
    (hitem : .struct item ∈ m.items) : item.Derives item.deriveInput := by
  have hitems := isDerivable_of_itemsOfFile? h
  apply Item.IsDerivable.of_struct
  rcases SourceModule.declares_of_mem_inText hm with rfl | hdeclares
  · exact hitems _ hitem
  · exact hdeclares.items (fun _ _ _ => Item.IsDerivable.of_module) hitems _ hitem

/-- No derive on a view of the module finds a fault, and `action_row` alone stands for the marker of
rows on a member. -/
structure SourceModule.IsAccepted (modules : List SourceModule) (m : SourceModule) : Prop where
  keeps : (Resolver.ofModules .standard modules).KeepsRowMarker m.path
  plain : ∀ item, .struct item ∈ m.items → ∀ field ∈ item.fields, ∀ a ∈ field.attributes, a.IsPlain
  faultless : ∀ item, .struct item ∈ m.items → ∀ d : Declaration, d.IsOf modules m.path item →
    d.isAnnotated WellKnown.standard.viewMarker = true →
      ∀ input, item.Derives input → input.faults = []

namespace Snapshot

theorem exists_agreesWith (hitems : itemsOfFile? text = some items) {modules : List SourceModule}
    (hmodules : SourceModule.inText ⟨"crate", items⟩ = modules)
    (haccepted : ∀ m ∈ modules, m.IsAccepted modules)
    (hd : d ∈ (ofModules .standard modules).declarations)
    (hview : d.isAnnotated WellKnown.standard.viewMarker = true) :
    ∃ item, d.AgreesWith (.ofSnapshot (.ofModules .standard modules) .standard) item := by
  obtain ⟨m, hm, item, hitem, hof⟩ := exists_isOf_of_mem hd
  have hhome : "crate".toList <+: m.path.toList :=
    SourceModule.path_prefix_of_mem_inText (hmodules ▸ hm)
  have hderives : item.Derives item.deriveInput :=
    derives_of_mem_inText hitems (hmodules ▸ hm) hitem
  obtain ⟨hgenerics, hfields⟩ := StructItem.of_faults
    ((haccepted m hm).faultless item hitem d hof hview _ hderives)
  refine ⟨item, .of_rows (hof.generics_eq.trans hgenerics) ?_⟩
  exact Declaration.rows_of_faults hof hhome (haccepted m hm).keeps
    ((haccepted m hm).plain item hitem) hview hfields

theorem isAnnotated_of_selects {s : Snapshot} {names : WellKnown}
    (h : (Registry.ofSnapshot s names).selects d = true) :
    d.isAnnotated names.viewMarker = true := by
  unfold Registry.selects at h
  split at h
  · rename_i marker capability hmarker _
    have hname := (Registry.get?_ofSnapshot s names .viewMarker).symm.trans hmarker
    obtain ⟨-, hname⟩ := Option.ite_none_right_eq_some.1 hname
    rw [← Option.some.inj hname] at h
    exact (Bool.and_eq_true_iff.1 h).1
  · cases h

/-- In a crate that compiles, having too many rows is all that keeps a view from its companion. -/
theorem errors_of_accepted (hitems : itemsOfFile? text = some items)
    (haccepted : ∀ m ∈ SourceModule.inText ⟨"crate", items⟩,
      m.IsAccepted (SourceModule.inText ⟨"crate", items⟩)) :
    ∃ s report, ofText? .standard text = some s ∧ s.generate .standard = .ok report ∧
      ∀ e ∈ report.errors, ∃ name count, 5 < count ∧
        e = .error name (.tooManyActionRows count 5) := by
  have hsnapshot : ofText? .standard text =
      some (.ofModules .standard (SourceModule.inText ⟨"crate", items⟩)) := by
    rw [ofText?, hitems]
    rfl
  -- without a strict registry a run always has a report
  obtain ⟨report, hreport⟩ : ∃ report, Snapshot.generate
      (.ofModules .standard (SourceModule.inText ⟨"crate", items⟩)) .standard = .ok report :=
    ⟨_, rfl⟩
  refine ⟨_, report, hsnapshot, hreport, fun e he => ?_⟩
  rw [(report_of_generate hreport rfl).2] at he
  obtain ⟨d, hd, hfailed⟩ := List.mem_filterMap.1 he
  unfold errorOf at hfailed
  split at hfailed
  · rename_i hselects
    obtain ⟨item, hagrees⟩ := exists_agreesWith hitems rfl haccepted hd
      (isAnnotated_of_selects hselects)
    unfold companion at hfailed
    split at hfailed
    · cases hfailed
    · rename_i reason hreason
      cases hfailed
      obtain ⟨count, max, hlimit, hcount, rfl⟩ := hagrees.only_fault _ _ hreason
      cases hlimit
      exact ⟨_, count, hcount, rfl⟩
  · cases hfailed

def sixRowsPage : StructItem where
  attributes := [⟨⟨false, ["derive"]⟩, .list [.ident "DiscordView"]⟩]
  name := "Page"
  generics := []
  fields := [("0", "a"), ("1", "b"), ("2", "c"), ("3", "d"), ("4", "e"), ("5", "f")].map
    fun (index, name) => ⟨[⟨⟨false, ["action_row"]⟩, .list [.literal index]⟩], some name,
      .path ⟨false, ["Button"]⟩ true []⟩

def sixRowsItems : List Item :=
  [.use (.path "porbeagle" (.group [.name "Button", .name "DiscordView", .name "MessageView"])),
    .struct sixRowsPage,
    .implementation ⟨false, ⟨false, ["MessageView"]⟩, [], .path ⟨false, ["Page"]⟩ true []⟩]

def sixRowsCrate : List SourceModule := SourceModule.inText ⟨"crate", sixRowsItems⟩

/-- An accepted page with six rows has no companion. -/
theorem errors_of_accepted_sixRows :
    (∀ m ∈ sixRowsCrate, m.IsAccepted sixRowsCrate) ∧
    ((ofModules .standard sixRowsCrate).generate .standard).toOption.map Report.errors =
      some [.error "crate::Page" (.tooManyActionRows 6 5)] := by
  refine ⟨fun m hm => ?_, by decide +kernel⟩
  obtain rfl : m = ⟨"crate", sixRowsItems⟩ := List.mem_singleton.1 hm
  have hstruct {item : StructItem} (hitem : .struct item ∈ sixRowsItems) : item = sixRowsPage := by
    simpa [sixRowsItems] using hitem
  constructor
  · exact Resolver.keepsRowMarker_of_imports (by decide +kernel)
  · intro item hitem field hfield a ha
    rw [hstruct hitem] at hfield
    obtain ⟨_, -, rfl⟩ := List.mem_map.1 hfield
    obtain rfl := List.mem_singleton.1 ha
    exact ⟨"action_row", by decide, by decide, rfl⟩
  · intro item hitem d _ _ input hderives
    rw [hderives.eq, hstruct hitem]
    decide +kernel

end Snapshot

end ViewCompanion
