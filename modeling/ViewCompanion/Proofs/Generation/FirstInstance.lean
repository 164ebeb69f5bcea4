import ViewCompanion.Proofs.Generation.Independence
import ViewCompanion.Proofs.View.Sorting

namespace ViewCompanion

namespace Declaration

variable {d : Declaration} {capability : QualifiedName} {i : ResolvedType} {r : Registry}

/-- Of the interfaces that are instances of `capability`, `i` stands first. -/
def IsFirstInstance (d : Declaration) (capability : QualifiedName) (i : ResolvedType) : Prop :=
  ∃ before after, d.interfaces = before ++ i :: after ∧ i.name = capability ∧
    ∀ j ∈ before, j.name ≠ capability

theorem capability?_eq_some_iff :
    d.capability? capability = some i ↔ d.IsFirstInstance capability i := by
  unfold capability? IsFirstInstance
  rw [List.find?_eq_some_iff_append]
  constructor
  · rintro ⟨hname, before, after, heq, hbefore⟩
    exact ⟨before, after, heq, by simpa using hname, by simpa using hbefore⟩
  · rintro ⟨before, after, heq, hname, hbefore⟩
    exact ⟨by simpa using hname, before, after, heq, by simpa using hbefore⟩

theorem IsFirstInstance.mem (h : d.IsFirstInstance capability i) : i ∈ d.interfaces := by
  obtain ⟨before, after, heq, -⟩ := h
  rw [heq]
  exact List.mem_append_right before List.mem_cons_self

theorem IsFirstInstance.name_eq (h : d.IsFirstInstance capability i) : i.name = capability := by
  obtain ⟨-, -, -, hname, -⟩ := h
  exact hname

/-- What a declaration says of itself and its model stands in the first instance. -/
theorem IsFirstInstance.binding?_eq (h : d.IsFirstInstance capability i)
    (hr : r.capability = some capability) : d.binding? r = some ⟨i.args[0]?, i.args[1]?⟩ := by
  unfold binding?
  rw [hr, Option.bind_eq_bind, Option.bind_some, capability?_eq_some_iff.2 h]
  rfl

theorem IsFirstInstance.model?_eq (h : d.IsFirstInstance capability i)
    (hr : r.capability = some capability) {limit : Option Nat} {v : ClassifiedView}
    (hprocess : d.process r limit = .ok v) : v.model? = i.args[1]? := by
  obtain ⟨-, labelled, -, rfl, -⟩ := exists_labelled_of_process hprocess
  show (d.binding? r).bind Binding.model? = i.args[1]?
  rw [h.binding?_eq hr]
  rfl

/-- Of its interfaces, no more than the binding matters for what becomes of a view. -/
theorem process_congr (interfaces : List ResolvedType) (limit : Option Nat)
    (h : binding? { d with interfaces } r = d.binding? r) :
    process { d with interfaces } r limit = d.process r limit := by
  unfold process
  rw [h]
  rfl

end Declaration

namespace Snapshot

open Declaration

variable {s : Snapshot} {c : Config} {report : Report} {d : Declaration} {r : Registry}

theorem exists_isFirstInstance_of_mem_views (h : d ∈ s.views (.ofSnapshot s c.wellKnown)) :
    (Registry.ofSnapshot s c.wellKnown).capability = some c.wellKnown.capability ∧
      ∃ i, d.IsFirstInstance c.wellKnown.capability i := by
  have hselects := List.of_mem_filter h
  have hcapability := Registry.get?_ofSnapshot s c.wellKnown .capability
  change (Registry.ofSnapshot s c.wellKnown).capability = _ at hcapability
  unfold Registry.selects at hselects
  split at hselects
  · rename_i marker capability hmarker hsome
    rw [hsome] at hcapability
    obtain ⟨-, hname⟩ := (Option.ite_none_right_eq_some ..).1 hcapability.symm
    obtain rfl := Option.some.inj hname
    have hfound := (Bool.and_eq_true_iff.1 hselects).2
    obtain ⟨i, hi⟩ := Option.isSome_iff_exists.1 hfound
    exact ⟨hsome, i, capability?_eq_some_iff.1 hi⟩
  · cases hselects

theorem companion_eq_ok_iff {a : Artifact} : companion c r d = .ok a ↔
    ∃ v, d.process r c.rowLimit = .ok v ∧ a = .ofView c d v := by
  unfold companion
  cases d.process r c.rowLimit with
  | ok v => simp [eq_comm]
  | error reason => simp

theorem companion_congr (interfaces : List ResolvedType)
    (h : binding? { d with interfaces } r = d.binding? r) {a : Artifact}
    (ha : companion c r d = .ok a) : companion c r { d with interfaces } = .ok a := by
  obtain ⟨v, hprocess, rfl⟩ := companion_eq_ok_iff.1 ha
  exact companion_eq_ok_iff.2 ⟨v, (process_congr interfaces _ h).trans hprocess, rfl⟩

theorem mem_artifacts_of_companion (h : s.generate c = .ok report)
    (hd : d ∈ s.views (.ofSnapshot s c.wellKnown)) {a : Artifact}
    (ha : companion c (.ofSnapshot s c.wellKnown) d = .ok a) : a ∈ report.artifacts := by
  rw [(report_of_generate h rfl).1, List.mem_filterMap]
  refine ⟨d, List.mem_of_mem_filter hd, ?_⟩
  rw [artifactOf, if_pos (List.of_mem_filter hd), ha]
  rfl

/-- The first instance of the capability decides about the factory of a companion: there is one
exactly if that instance has a second argument, and it is for that model. Whatever instances come
later, with a model or without one, the companion stays the same. -/
theorem factory_of_first_instance (h : s.generate c = .ok report)
    (hd : d ∈ s.views (.ofSnapshot s c.wellKnown)) {a : Artifact}
    (ha : companion c (.ofSnapshot s c.wellKnown) d = .ok a) :
    a ∈ report.artifacts ∧ ∃ first, d.IsFirstInstance c.wellKnown.capability first ∧
      (a.HasFactory ↔ first.args[1]?.isSome = true) ∧
      (∀ model, first.args[1]? = some model →
        (Artifact.factory c d.name model).toList <:+ a.content.toList) ∧
      ((∀ i ∈ d.interfaces, i.name = c.wellKnown.capability → i.args[1]? = none) →
        ¬ a.HasFactory) ∧
      ∀ interfaces, IsFirstInstance { d with interfaces } c.wellKnown.capability first →
        companion c (.ofSnapshot s c.wellKnown) { d with interfaces } = .ok a := by
  obtain ⟨hcapability, first, hfirst⟩ := exists_isFirstInstance_of_mem_views hd
  obtain ⟨v, hprocess, rfl⟩ := companion_eq_ok_iff.1 ha
  have hmodel : v.model? = first.args[1]? := hfirst.model?_eq hcapability hprocess
  have hfactory : (Artifact.ofView c d v).HasFactory ↔ first.args[1]?.isSome = true := by
    rw [Artifact.hasFactory_ofView_iff, hmodel]
  refine ⟨mem_artifacts_of_companion h hd ha, first, hfirst, hfactory, ?_, ?_, ?_⟩
  · intro model hsome
    exact Artifact.suffix_content_of_model (hmodel.trans hsome)
  · intro hnone
    rw [hfactory, hnone first hfirst.mem hfirst.name_eq]
    exact Bool.false_ne_true
  · intro interfaces hother
    have hbinding := hother.binding?_eq hcapability
    exact companion_congr interfaces (hbinding.trans (hfirst.binding?_eq hcapability).symm) ha

def instanceOf (model : QualifiedName) : ResolvedType :=
  ⟨WellKnown.standard.capability, [.plain "crate::Card", .plain model]⟩

/-- A view with three instances of the capability behind another interface. The models of the first
two differ, and the third has none. -/
def modelFirst : Declaration :=
  { bareView "crate" "Card" with
    interfaces := [.plain "Default", instanceOf "crate::User", instanceOf "crate::Guest",
      .plain WellKnown.standard.capability] }

theorem factory_of_first_instance_user : ∃ report a,
    (ofViews [modelFirst]).generate .standard = .ok report ∧
    modelFirst ∈ (ofViews [modelFirst]).views (.ofSnapshot (ofViews [modelFirst]) .standard) ∧
    companion .standard (.ofSnapshot (ofViews [modelFirst]) .standard) modelFirst = .ok a ∧
    a ∈ report.artifacts ∧ a.HasFactory ∧
    (Artifact.factory .standard "Card" (.plain "crate::User")).toList <:+ a.content.toList := by
  refine ⟨_, _, rfl, by decide, rfl, ?_⟩
  obtain ⟨hmem, first, hfirst, hfactory, hmodel, -⟩ :=
    factory_of_first_instance (s := ofViews [modelFirst]) (c := .standard) (d := modelFirst) rfl
      (by decide) rfl
  obtain rfl : instanceOf "crate::User" = first :=
    Option.some.inj (capability?_eq_some_iff.2 hfirst)
  exact ⟨hmem, hfactory.2 rfl, hmodel _ rfl⟩

/-- A view that implements the capability without a model first, and then with one. -/
def modelLast : Declaration :=
  { bareView "crate" "Card" with
    interfaces := [.plain WellKnown.standard.capability, instanceOf "crate::User"] }

def modelLastReversed : Declaration :=
  { modelLast with interfaces := modelLast.interfaces.reverse }

/-- A view has an instance of the capability with a model, and still its companion has no factory.
Once the two instances change places, it has one. -/
theorem model_of_second_instance_lost :
    instanceOf "crate::User" ∈ modelLast.interfaces ∧
    (∃ report a, (ofViews [modelLast]).generate .standard = .ok report ∧
      report.artifacts = [a] ∧ a.source = "crate::Card" ∧ ¬ a.HasFactory) ∧
    ∃ report a, (ofViews [modelLastReversed]).generate .standard = .ok report ∧
      report.artifacts = [a] ∧ a.source = "crate::Card" ∧ a.HasFactory := by
  refine ⟨by decide, ⟨_, _, rfl, rfl, rfl, ?_⟩, _, _, rfl, rfl, rfl, ?_⟩
  · exact mt (Artifact.hasFactory_ofView_iff ..).1 Bool.false_ne_true
  · exact (Artifact.hasFactory_ofView_iff ..).2 rfl

end Snapshot

end ViewCompanion
