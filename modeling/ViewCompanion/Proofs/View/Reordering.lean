import ViewCompanion.Proofs.View.Faults

namespace ViewCompanion

namespace RowGroup

variable {as bs : List RowGroup}

theorem Ascending.nodup (h : Ascending as) : as.Nodup :=
  h.imp fun hlt heq => UInt32.ne_of_lt hlt (congrArg RowGroup.index heq)

theorem mem_of_rowAt (has : Ascending as) (hbs : Ascending bs)
    (hne : ∀ group ∈ as, group.members ≠ []) (h : ∀ index, rowAt index as = rowAt index bs)
    {group : RowGroup} (hgroup : group ∈ as) : group ∈ bs := by
  -- at this index `bs` has the same members, so it has a row there, which is the same
  have hrow : rowAt group.index bs = group.members := (h group.index).symm.trans
    (rowAt_index has hgroup)
  obtain ⟨other, hother, hindex⟩ := exists_of_rowAt_ne_nil (hrow ▸ hne group hgroup)
  have hmembers : other.members = group.members := by
    rw [← rowAt_index hbs hother, hindex, hrow]
  have heq : other = group := by
    cases other
    cases group
    simp_all
  exact heq ▸ hother

/-- Ascending rows are known by the members at each index. -/
theorem eq_of_rowAt (has : Ascending as) (hbs : Ascending bs)
    (hane : ∀ group ∈ as, group.members ≠ []) (hbne : ∀ group ∈ bs, group.members ≠ [])
    (h : ∀ index, rowAt index as = rowAt index bs) : as = bs := by
  have hmem (group : RowGroup) : group ∈ as ↔ group ∈ bs :=
    ⟨mem_of_rowAt has hbs hane h, mem_of_rowAt hbs has hbne fun index => (h index).symm⟩
  exact ((List.perm_ext_iff_of_nodup has.nodup hbs.nodup).2 hmem).eq_of_pairwise
    (fun _ _ _ _ hab hba => absurd hba (UInt32.lt_asymm hab)) has hbs

end RowGroup

namespace ClassifiedView

variable {as bs : List Labelled}

/-- Labels in another order give the same rows if the members of each row keep theirs. -/
theorem actionRows_ofLabelled_congr (binding : Option Binding)
    (h : ∀ index, namesIn (.actionRow index) as = namesIn (.actionRow index) bs) :
    (ofLabelled as binding).actionRows = (ofLabelled bs binding).actionRows := by
  apply RowGroup.eq_of_rowAt (RowGroup.ascending_ofSlots _) (RowGroup.ascending_ofSlots _)
    (RowGroup.members_ne_nil_ofSlots _) (RowGroup.members_ne_nil_ofSlots _)
  intro index
  have ha := rowAt_ofLabelled as binding index
  have hb := rowAt_ofLabelled bs binding index
  exact ha.trans ((h index).trans hb.symm)

end ClassifiedView

namespace Declaration

variable {c : Config} {r : Registry} {d e : Declaration} {v : ClassifiedView}

/-- `e` is `d` with its members in another order. Members of one category keep the order they have
in `d`, except for the ignored ones. -/
structure Reorders (r : Registry) (d e : Declaration) : Prop where
  rest : e = { d with members := e.members }
  perm : d.members.Perm e.members
  order : ∀ category, category ≠ .ignored →
    (d.members.filter fun m => m.category? r = some category) =
      e.members.filter fun m => m.category? r = some category

theorem Reorders.namesOf_eq (h : Reorders r d e) {category : Category}
    (hcategory : category ≠ .ignored) : d.namesOf r category = e.namesOf r category :=
  congrArg (List.map Member.name) (h.order category hcategory)

/-- A category that no member has can be left out of the check. -/
theorem Reorders.of_members (hrest : e = { d with members := e.members })
    (hperm : d.members.Perm e.members)
    (horder : ∀ category ∈ d.members.filterMap fun m => m.category? r, category ≠ .ignored →
      (d.members.filter fun m => m.category? r = some category) =
        e.members.filter fun m => m.category? r = some category) : Reorders r d e where
  rest := hrest
  perm := hperm
  order := by
    intro category hcategory
    by_cases hmem : category ∈ d.members.filterMap fun m => m.category? r
    · exact horder category hmem hcategory
    · have hnone : ∀ m ∈ d.members, ¬ m.category? r = some category :=
        fun m hm heq => hmem (List.mem_filterMap.2 ⟨m, hm, heq⟩)
      rw [List.filter_eq_nil_iff.2 (by simpa using hnone), List.filter_eq_nil_iff.2
        (by simpa using fun m hm => hnone m (hperm.mem_iff.2 hm))]

/-- Reordering the members leaves nothing else to see than the order of the ignored ones. -/
theorem process_of_reorders {limit : Option Nat} (h : Reorders r d e)
    (hd : d.process r limit = .ok v) :
    e.process r limit = .ok { v with ignored := e.namesOf r .ignored } := by
  obtain ⟨hgenerics, labelled, hmap, rfl, hlimit⟩ := exists_labelled_of_process hd
  have hlabels := labels_of_mapM hmap
  -- bad markers do not depend on where a member stands
  obtain ⟨others, hothers⟩ : ∃ others,
      (e.members.mapM fun (m : Member) => m.label r) = .ok others := by
    apply exists_labels
    intro m hm
    exact Member.exists_markers_iff.2 (noRowFault_of_labels hlabels m (h.perm.mem_iff.2 hm))
  have hnames (category : Category) (hcategory : category ≠ .ignored) :
      ClassifiedView.namesIn category labelled = ClassifiedView.namesIn category others := by
    rw [← namesOf_of_labels hlabels, h.namesOf_eq hcategory,
      namesOf_of_labels (labels_of_mapM hothers)]
  have hbinding : e.binding? r = d.binding? r := by
    rw [h.rest]
    rfl
  have hgenerics' : e.generics = [] := by
    rw [h.rest]
    exact hgenerics
  have hview : ClassifiedView.ofLabelled others (e.binding? r) =
      { ClassifiedView.ofLabelled labelled (d.binding? r) with
        ignored := e.namesOf r .ignored } := by
    have hrows := ClassifiedView.actionRows_ofLabelled_congr (d.binding? r)
      fun index => hnames (.actionRow index) nofun
    rw [hbinding, namesOf_of_labels (labels_of_mapM hothers)]
    unfold ClassifiedView.ofLabelled at hrows ⊢
    dsimp only at hrows ⊢
    rw [hnames .sticker nofun, hnames .embed nofun, hrows]
  rw [process_eq_of_labels hgenerics' hothers, hview]
  dsimp only
  rw [hlimit]
  rfl

/-- The companion of a view does not depend on the order of its members beyond that in each of its
lists and rows. -/
theorem ofView_of_reorders (h : Reorders r d e) (hd : d.process r c.rowLimit = .ok v) :
    ∃ w, e.process r c.rowLimit = .ok w ∧ Artifact.ofView c e w = Artifact.ofView c d v := by
  refine ⟨_, process_of_reorders h hd, ?_⟩
  rw [h.rest]
  rfl

/-- The greeting with its rows taken apart and the ignored member at the end. -/
def mixedGreeting : Declaration :=
  { greeting with members := [
    ⟨"first", .plain "porbeagle::Button", [⟨some "porbeagle::attributes::action_row", [.int 0]⟩]⟩,
    ⟨"card", .plain "porbeagle::Embed", [⟨some "porbeagle::attributes::action_row", [.int 0]⟩]⟩,
    ⟨"later", .plain "porbeagle::Button", [⟨some "porbeagle::attributes::action_row", [.int 3]⟩]⟩,
    ⟨"last", .plain "porbeagle::Button", [⟨some "porbeagle::attributes::action_row", [.int 3]⟩]⟩,
    ⟨"wave", .plain "porbeagle::Snowflake", [.marker "porbeagle::attributes::sticker",
      ⟨some "porbeagle::attributes::action_row", [.int 3]⟩]⟩,
    ⟨"text", .plain "String", []⟩] }

theorem reorders_mixedGreeting : Reorders fullRegistry greeting mixedGreeting :=
  .of_members rfl (by decide) (by decide)

theorem ofView_of_reorders_greeting : greeting ≠ mixedGreeting ∧
    ∃ w, mixedGreeting.process fullRegistry Config.standard.rowLimit = .ok w ∧
      w.actionRows = [⟨0, ["first"]⟩, ⟨3, ["later", "last"]⟩] ∧
      Artifact.ofView .standard mixedGreeting w =
        Artifact.ofView .standard greeting
          { sortedGreeting with binding := some ⟨none, none⟩ } := by
  have h : greeting.process fullRegistry Config.standard.rowLimit =
      .ok { sortedGreeting with binding := some ⟨none, none⟩ } := by decide
  obtain ⟨w, hw, heq⟩ := ofView_of_reorders (c := .standard) reorders_mixedGreeting h
  refine ⟨by decide, w, hw, ?_, heq⟩
  cases hw
  rfl

end Declaration

end ViewCompanion
