import ViewCompanion.Crate.Snapshot

namespace ViewCompanion

open Source

def Source.Item.isShown : Item → Bool
  | .struct _ => true
  | .synonym _ _ _ => true
  | .implementation _ => true
  | _ => false

namespace SourceModule

def keeping (keep : Item → Bool) (m : SourceModule) : SourceModule :=
  ⟨m.path, m.items.filter keep⟩

theorem keeping_keeping (keep : Item → Bool) (m : SourceModule) :
    (m.keeping keep).keeping keep = m.keeping keep := by
  unfold keeping
  rw [List.filter_filter]
  simp only [Bool.and_self]

theorem filterMap_keeping {α : Type} {keep : Item → Bool} {f : Item → Option α}
    (h : ∀ item, keep item = false → f item = none) (m : SourceModule) :
    (m.keeping keep).items.filterMap f = m.items.filterMap f := by
  show (m.items.filter keep).filterMap f = m.items.filterMap f
  rw [List.filterMap_filter]
  refine congrArg (List.filterMap · m.items) (funext fun item => ?_)
  cases hkeep : keep item with
  | true => rfl
  | false => exact (h item hkeep).symm

end SourceModule

namespace Resolver

variable {keep : Item → Bool} (h : ∀ item, keep item = false → item.isShown = false) (r : Resolver)

include h

theorem aliasesOf_keeping (modules : List SourceModule) :
    r.aliasesOf (modules.map (SourceModule.keeping keep)) = r.aliasesOf modules := by
  unfold aliasesOf
  rw [List.flatMap_map]
  refine congrArg (fun f => (List.flatMap f modules).reverse) (funext fun m => ?_)
  refine m.filterMap_keeping fun item hitem => ?_
  have hhidden := h item hitem
  cases item <;> simp_all [Item.isShown]

theorem declarations_keeping (c : Config) (modules : List SourceModule) :
    r.declarations c (modules.map (SourceModule.keeping keep)) = r.declarations c modules := by
  simp only [declarations, aliasesOf_keeping h r, List.flatMap_map]
  refine congr (congrArg (fun f => attach (List.flatMap f modules)) (funext fun m => ?_))
    (congrArg (List.flatMap · modules) (funext fun m => ?_))
  · refine m.filterMap_keeping fun item hitem => ?_
    have hhidden := h item hitem
    cases item <;> simp_all [Item.isShown]
  · refine m.filterMap_keeping fun item hitem => ?_
    have hhidden := h item hitem
    cases item <;> simp_all [Item.isShown]

end Resolver

end ViewCompanion
