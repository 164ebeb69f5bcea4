import Mathlib.Data.List.Infix
import ViewCompanion.Artifact.Content

namespace ViewCompanion.Artifact

/-- Whether a companion ends in a factory, for some view and from some model. -/
def HasFactory (a : Artifact) : Prop :=
  ∃ c name model, (factory c name model).toList <:+ a.content.toList

def closing : List Char :=
  "\n    \x7d\n\x7d\n".toList

theorem suffix_toList_append (a b : String) : b.toList <:+ (a ++ b).toList :=
  ⟨a.toList, String.toList_append.symm⟩

theorem suffix_toList_append_append (a b c : String) :
    b.toList ++ c.toList <:+ (a ++ b ++ c).toList := by
  rw [String.toList_append]
  exact List.suffix_append_self_iff.2 (suffix_toList_append a b)

theorem suffix_factory (c : Config) (name : String) (model : ResolvedType) :
    ['m', ')'] ++ closing <:+ (factory c name model).toList := by
  have hlast : ['m', ')'] ++ closing <:+ ">>::from(vm)\n    \x7d\n\x7d\n".toList := by decide
  exact hlast.trans (suffix_toList_append _ _)

/-- A list of rows ends in the brackets of an empty list or in the bracket behind the last row. -/
theorem suffix_rowList (c : Config) (groups : List RowGroup) :
    ['(', ')'] <:+ (rowList c groups).toList ∨ [' ', ']'] <:+ (rowList c groups).toList := by
  unfold rowList
  split
  · exact .inl (by decide)
  · have hlast : [' ', ']'] <:+ "\n        ]".toList := by decide
    exact .inr (hlast.trans (suffix_toList_append _ _))

theorem suffix_accessor (c : Config) (name item body : String) :
    body.toList ++ "\n    \x7d\n".toList <:+ (accessor c name item body).toList :=
  suffix_toList_append_append _ _ _

theorem suffix_accessors (c : Config) (name : String) (v : ClassifiedView) :
    (rowList c v.actionRows).toList ++ closing <:+ (accessors c name v).toList := by
  have hclosing : closing = "\n    \x7d\n".toList ++ "\x7d\n".toList := by decide
  rw [hclosing, ← List.append_assoc]
  exact (List.suffix_append_self_iff.2 (suffix_accessor c _ _ _)).trans
    (suffix_toList_append_append _ _ _)

theorem not_hasFactory_of_suffix {a : Artifact} {x y : Char} (hne : [x, y] ≠ ['m', ')'])
    (h : [x, y] ++ closing <:+ a.content.toList) : ¬ a.HasFactory := by
  rintro ⟨c, name, model, hfactory⟩
  have hboth : [x, y] ++ closing <:+ ['m', ')'] ++ closing :=
    List.suffix_of_suffix_length_le h ((suffix_factory c name model).trans hfactory) (Nat.le_refl _)
  exact hne (List.append_cancel_right (hboth.eq_of_length rfl))

theorem suffix_content_of_model {c : Config} {d : Declaration} {v : ClassifiedView}
    {model : ResolvedType} (h : v.model? = some model) :
    (factory c d.name model).toList <:+ (ofView c d v).content.toList := by
  unfold ofView contentOf
  rw [h]
  exact (suffix_toList_append "\n" _).trans (suffix_toList_append _ _)

theorem suffix_content_of_no_model {c : Config} {d : Declaration} {v : ClassifiedView}
    (h : v.model? = none) : (accessors c d.name v).toList <:+ (ofView c d v).content.toList := by
  unfold ofView contentOf
  rw [h]
  dsimp only
  rw [String.append_empty]
  exact suffix_toList_append _ _

/-- A companion has a factory exactly if its view has a model. -/
theorem hasFactory_ofView_iff (c : Config) (d : Declaration) (v : ClassifiedView) :
    (ofView c d v).HasFactory ↔ v.model?.isSome = true := by
  cases hmodel : v.model? with
  | some model => exact iff_of_true ⟨c, d.name, model, suffix_content_of_model hmodel⟩ rfl
  | none =>
    have hlast : (rowList c v.actionRows).toList ++ closing <:+ (ofView c d v).content.toList :=
      (suffix_accessors c d.name v).trans (suffix_content_of_no_model hmodel)
    refine iff_of_false ?_ nofun
    rcases suffix_rowList c v.actionRows with hrows | hrows
    · exact not_hasFactory_of_suffix (by decide)
        ((List.suffix_append_self_iff.2 hrows).trans hlast)
    · exact not_hasFactory_of_suffix (by decide)
        ((List.suffix_append_self_iff.2 hrows).trans hlast)

end ViewCompanion.Artifact
