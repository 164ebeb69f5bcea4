import ViewCompanion.Artifact.Content
import ViewCompanion.Proofs.Name
import ViewCompanion.Proofs.Text.Reading

namespace ViewCompanion.Artifact

open Text (IsLabel Tells)

abbrev Sorted := Declaration × ClassifiedView

/-- The names of a view and its members are such as source code can have them. -/
structure HasLabels (x : Sorted) : Prop where
  home : ∃ segments, QualifiedName.IsPath x.1.home segments
  name : IsLabel x.1.name
  stickers : ∀ member ∈ x.2.stickers, IsLabel member
  embeds : ∀ member ∈ x.2.embeds, IsLabel member
  rows : ∀ group ∈ x.2.actionRows, ∀ member ∈ group.members, IsLabel member

theorem toList_join (mark : String) (texts : List String) :
    (Text.join mark texts).toList = Text.joinWith mark.toList (texts.map String.toList) :=
  String.toList_ofList

section Members

/-- A member is called by name, whatever stands around the call. -/
theorem tells_call (front back : String) :
    Tells IsLabel (fun member => (front ++ member ++ ".clone()" ++ back).toList) id := by
  have hcall := Tells.delimited '.' (fun s (hs : IsLabel s) => hs.not_mem (by decide) (by decide))
    front.toList ("clone()".toList ++ back.toList)
  have htext : ∀ member : String, (front ++ member ++ ".clone()" ++ back).toList =
      front.toList ++ (member.toList ++ '.' :: ("clone()".toList ++ back.toList)) := by
    intro member
    simp only [String.toList_append, List.append_assoc]
    rfl
  simpa only [htext] using hcall

theorem tells_memberList (convert : Bool) :
    Tells (fun members => ∀ member ∈ members, IsLabel member)
      (fun members => (memberList convert members).toList) id := by
  have hitems := (tells_call "self." (if convert then ".into()" else "")).joined ", ".toList
    "]".toList (by simp) (by simp)
  have hlist := (hitems.between "::std::vec![".toList []).orEmpty emptyList.toList
    (by simp [emptyList])
  have htext : ∀ members, (memberList convert members).toList =
      if members.isEmpty then emptyList.toList
      else "::std::vec![".toList ++ (Text.joinWith ", ".toList (members.map fun member =>
        ("self." ++ member ++ ".clone()" ++ if convert then ".into()" else "").toList) ++
          "]".toList ++ []) := by
    intro members
    unfold memberList
    split
    · rfl
    · simp only [Text.commaList, String.toList_append, toList_join, List.map_map,
        Function.comp_def, List.append_assoc, List.append_nil]
  simpa only [htext, List.map_id_fun] using hlist

theorem tells_rowText (c : Config) :
    Tells (fun group : RowGroup => ∀ member ∈ group.members, IsLabel member)
      (fun group => (rowText c group).toList) RowGroup.members := by
  have hitems := (tells_call ("                " ++ c.runtimePath "Component" ++ "::from(self.")
    "),").joined "\n".toList "\n            ])),".toList (by simp) (by simp)
  have hrow := hitems.between ("            " ++ c.runtimePath "Component" ++ "::ActionRow(" ++
    c.runtimePath "ActionRow" ++ "::new(::std::vec![\n").toList []
  have htext : ∀ group : RowGroup, (rowText c group).toList =
      ("            " ++ c.runtimePath "Component" ++ "::ActionRow(" ++
        c.runtimePath "ActionRow" ++ "::new(::std::vec![\n").toList ++
          (Text.joinWith "\n".toList (group.members.map fun member =>
            ("                " ++ c.runtimePath "Component" ++ "::from(self." ++ member ++
              ".clone()" ++ "),").toList) ++ "\n            ])),".toList ++ []) := by
    have hcall : ".clone())," = ".clone()" ++ ")," := rfl
    intro group
    unfold rowText
    rw [hcall, String.toList_append, String.toList_append, toList_join, List.map_map,
      List.append_assoc, List.append_nil]
    simp only [Function.comp_def, String.append_assoc]
  simpa only [htext, List.map_id_fun, id] using
    hrow.comap RowGroup.members fun _ hmembers => hmembers

theorem exists_rowText_eq (c : Config) (group : RowGroup) :
    ∃ rest, (rowText c group).toList = "            ".toList ++ rest := by
  unfold rowText
  simp only [String.toList_append, List.append_assoc]
  exact ⟨_, rfl⟩

theorem tells_rowList (c : Config) :
    Tells (fun groups : List RowGroup => ∀ group ∈ groups, ∀ member ∈ group.members, IsLabel member)
      (fun groups => (rowList c groups).toList) (List.map RowGroup.members) := by
  have hitem : ∀ group s t, (rowText c group).toList ++ s ≠ "\n        ]".toList ++ t := by
    intro group s t
    obtain ⟨rest, hrest⟩ := exists_rowText_eq c group
    rw [hrest]
    simp
  have hsep : ∀ group s t,
      "\n".toList ++ ((rowText c group).toList ++ s) ≠ "\n        ]".toList ++ t := by
    intro group s t
    obtain ⟨rest, hrest⟩ := exists_rowText_eq c group
    rw [hrest]
    simp
  have hrows := (tells_rowText c).joined "\n".toList "\n        ]".toList hitem hsep
  have hlist := (hrows.between "::std::vec![\n".toList []).orEmpty emptyList.toList
    (by simp [emptyList])
  have htext : ∀ groups, (rowList c groups).toList =
      if groups.isEmpty then emptyList.toList
      else "::std::vec![\n".toList ++ (Text.joinWith "\n".toList (groups.map fun group =>
        (rowText c group).toList) ++ "\n        ]".toList ++ []) := by
    intro groups
    unfold rowList
    split
    · rfl
    · simp only [String.toList_append, toList_join, List.map_map, Function.comp_def,
        List.append_assoc, List.append_nil]
  simpa only [htext] using hlist

end Members

section Companion

theorem tells_accessor {α β : Type} {p : α → Prop} {body : α → String} {view : α → β}
    (h : Tells p (fun x => (body x).toList) view) (c : Config) (name item : String) :
    Tells p (fun x => (accessor c name item (body x)).toList) view := by
  have hbetween := h.between ("    fn " ++ name ++ "(&self) -> ::std::vec::Vec<" ++
    c.runtimePath item ++ "> \x7b\n        ").toList "\n    \x7d\n".toList
  have htext : ∀ x, (accessor c name item (body x)).toList =
      ("    fn " ++ name ++ "(&self) -> ::std::vec::Vec<" ++ c.runtimePath item ++
        "> \x7b\n        ").toList ++ ((body x).toList ++ "\n    \x7d\n".toList) := by
    intro x
    unfold accessor
    rw [String.toList_append, String.toList_append, List.append_assoc]
  simpa only [htext] using hbetween

theorem tells_heading : Tells HasLabels
    (fun x => ("// @generated by porbeagle-codegen from `" ++ x.1.qualifiedName ++
      "`. Do not edit.\n\n").toList) fun x => x.1.qualifiedName := by
  have hname := Tells.delimited '`' (fun s (hs : '`' ∉ s.toList) => hs)
    "// @generated by porbeagle-codegen from `".toList ". Do not edit.\n\n".toList
  have hsource : ∀ x, HasLabels x → '`' ∉ x.1.qualifiedName.toList := by
    intro x hx
    obtain ⟨segments, hpath⟩ := hx.home
    exact hpath.not_mem_join hx.name (by decide) (by decide) (by decide)
  have htext : ∀ x : Sorted, ("// @generated by porbeagle-codegen from `" ++
      x.1.qualifiedName ++ "`. Do not edit.\n\n").toList =
      "// @generated by porbeagle-codegen from `".toList ++
        (x.1.qualifiedName.toList ++ '`' :: ". Do not edit.\n\n".toList) := by
    intro x
    rw [String.toList_append, String.toList_append, List.append_assoc]
    rfl
  simpa only [htext, id] using hname.comap (fun x : Sorted => x.1.qualifiedName) hsource

theorem tells_opening (c : Config) : Tells HasLabels
    (fun x => ("impl " ++ c.runtimePath "ViewParts" ++ " for " ++ x.1.name ++ " \x7b\n").toList)
    fun x => x.1.name := by
  have hname := Tells.delimited ' ' (fun s (hs : IsLabel s) => hs.not_mem (by decide) (by decide))
    ("impl " ++ c.runtimePath "ViewParts" ++ " for ").toList "\x7b\n".toList
  have htext : ∀ x : Sorted, ("impl " ++ c.runtimePath "ViewParts" ++ " for " ++ x.1.name ++
      " \x7b\n").toList = ("impl " ++ c.runtimePath "ViewParts" ++ " for ").toList ++
        (x.1.name.toList ++ ' ' :: "\x7b\n".toList) := by
    intro x
    rw [String.toList_append, String.toList_append (t := x.1.name), List.append_assoc]
    rfl
  simpa only [htext, id] using
    hname.comap (fun x : Sorted => x.1.name) fun _ (hx : HasLabels _) => hx.name

theorem tells_accessors (c : Config) : Tells HasLabels
    (fun x => (accessors c x.1.name x.2).toList)
    fun x => (((x.1.name, x.2.stickers), x.2.embeds), x.2.actionRows.map RowGroup.members) := by
  have hstickers := (tells_accessor (tells_memberList (c.wellKnown.snowflake !=
    c.runtimeName "Snowflake")) c "stickers" "Snowflake").comap
      (fun x : Sorted => x.2.stickers) fun _ (hx : HasLabels _) => hx.stickers
  have hembeds := (tells_accessor (tells_memberList (c.wellKnown.embed !=
    c.runtimeName "Embed")) c "embeds" "Embed").comap
      (fun x : Sorted => x.2.embeds) fun _ (hx : HasLabels _) => hx.embeds
  have hrows := (tells_accessor (tells_rowList c) c "components" "Component").comap
    (fun x : Sorted => x.2.actionRows) fun _ (hx : HasLabels _) => hx.rows
  have hall := (((((tells_opening c).append hstickers).followed "\n".toList).append
    hembeds).followed "\n".toList |>.append hrows).followed "\x7d\n".toList
  intro x y hx hy s t heq
  unfold accessors at heq
  simp only [String.toList_append] at hall heq
  exact hall hx hy heq

/-- The model is in the text of a factory twice, so the length of the text gives its length. -/
theorem source_eq_of_factory_eq {c : Config} {name : String} {m n : ResolvedType}
    (h : (factory c name m).toList = (factory c name n).toList) :
    m.source c.crateName = n.source c.crateName := by
  have htext : ∀ model : ResolvedType, (factory c name model).toList =
      ("impl " ++ name ++
        " \x7b\n    /// Build the view from its model.\n    pub fn create(vm: ").toList ++
        ((model.source c.crateName).toList ++
          (") -> Self \x7b\n        <Self as ::std::convert::From<".toList ++
            ((model.source c.crateName).toList ++
              ">>::from(vm)\n    \x7d\n\x7d\n".toList))) := by
    intro model
    unfold factory
    simp only [String.toList_append, List.append_assoc]
  rw [htext, htext] at h
  have htail := List.append_cancel_left h
  have hlength := congrArg List.length htail
  simp only [List.length_append] at hlength
  exact String.toList_injective (List.append_inj_left htail (by omega))

theorem toList_content (c : Config) (d : Declaration) (v : ClassifiedView) :
    (ofView c d v).content.toList =
      ("// @generated by porbeagle-codegen from `" ++ d.qualifiedName ++
        "`. Do not edit.\n\n").toList ++ (accessors c d.name v).toList ++
        (v.model?.elim "" fun model => "\n" ++ factory c d.name model).toList := by
  unfold ofView contentOf
  dsimp only
  rw [String.toList_append, String.toList_append (t := accessors c d.name v)]
  cases v.model? <;> rfl

/-- The text of a companion tells what its accessors and its factory are for. -/
theorem parts_eq_of_content_eq (c : Config) {d e : Declaration} {v w : ClassifiedView}
    (hd : HasLabels (d, v)) (he : HasLabels (e, w))
    (h : (ofView c d v).content = (ofView c e w).content) :
    d.qualifiedName = e.qualifiedName ∧ v.stickers = w.stickers ∧ v.embeds = w.embeds ∧
      v.actionRows.map RowGroup.members = w.actionRows.map RowGroup.members ∧
      v.model?.map (fun model => model.source c.crateName) =
        w.model?.map (fun model => model.source c.crateName) := by
  have hlist := congrArg String.toList h
  rw [toList_content, toList_content] at hlist
  have hread := (tells_heading.append (tells_accessors c)) hd he hlist
  simp only [Prod.mk.injEq] at hread
  obtain ⟨⟨hname, ⟨⟨hself, hstickers⟩, hembeds⟩, hrows⟩, htail⟩ := hread
  refine ⟨hname, hstickers, hembeds, hrows, ?_⟩
  rw [hself] at htail
  cases hm : v.model? with
  | none =>
    cases hn : w.model? with
    | none => rfl
    | some n =>
      rw [hm, hn, Option.elim_none, Option.elim_some, String.toList_append] at htail
      simp at htail
  | some m =>
    cases hn : w.model? with
    | none =>
      rw [hm, hn, Option.elim_none, Option.elim_some, String.toList_append] at htail
      simp at htail
    | some n =>
      rw [hm, hn, Option.elim_some, Option.elim_some, String.toList_append,
        String.toList_append] at htail
      exact congrArg some (source_eq_of_factory_eq (List.append_cancel_left htail))

def gallery : Declaration where
  home := "crate::views"
  name := "Gallery"
  generics := []
  annotations := []
  members := []
  interfaces := []

/-- What sorting the members of a gallery gives, its second row being the one at `index`. -/
def sortedGallery (index : UInt32) (ignored : List String) : ClassifiedView where
  stickers := ["wave"]
  embeds := []
  actionRows := [⟨0, ["accept", "r#type"]⟩, ⟨index, ["0"]⟩]
  ignored := ignored
  binding := some ⟨none, some (.plain "crate::Model")⟩

theorem hasLabels_gallery (index : UInt32) (ignored : List String) :
    HasLabels (gallery, sortedGallery index ignored) where
  home := ⟨["crate", "views"], by decide, rfl⟩
  name := (by decide : IsLabel "Gallery")
  stickers := List.forall_mem_singleton.2 (by decide : IsLabel "wave")
  embeds := List.forall_mem_nil _
  rows := by
    unfold sortedGallery
    simp only [List.forall_mem_cons, List.not_mem_nil, false_imp_iff, implies_true, and_true]
    exact ⟨⟨by decide, by decide⟩, by decide⟩

/-- Only the index of a row and the ignored members leave no trace. -/
theorem parts_eq_of_content_eq_gallery : ∃ v w : ClassifiedView, v ≠ w ∧
    HasLabels (gallery, v) ∧ HasLabels (gallery, w) ∧
    (ofView .standard gallery v).content = (ofView .standard gallery w).content ∧
    v.actionRows.map RowGroup.members = w.actionRows.map RowGroup.members := by
  have hfirst := hasLabels_gallery 1 []
  have hsecond := hasLabels_gallery 7 ["note"]
  exact ⟨sortedGallery 1 [], sortedGallery 7 ["note"], by decide, hfirst, hsecond, rfl,
    (parts_eq_of_content_eq .standard hfirst hsecond rfl).2.2.2.1⟩

end Companion

end ViewCompanion.Artifact
