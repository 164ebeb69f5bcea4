import Mathlib
import ViewCompanion.Proofs.Storage.Run

namespace ViewCompanion.FileTree

open Storage

/-- One file has this content now; the other files are as they were. -/
structure Puts (path : List String) (content : ByteArray) (t u : FileTree) : Prop where
  fileAt? : ∀ q, u.fileAt? q = if q = path then some content else t.fileAt? q
  folder : ∀ q, t.node? q = some .folder → u.node? q = some .folder
  wellFormed : t.WellFormed → u.WellFormed

namespace Puts

variable {t u v : FileTree} {path : List String} {content : ByteArray}

theorem of_fileAt? (h : t.fileAt? path = some content) : Puts path content t t := by
  refine ⟨fun q => ?_, fun q hq => hq, id⟩
  split
  · rename_i hq
    rw [hq, h]
  · rfl

theorem of_write {name : String} (h : t.write name content = .ok u)
    (hname : ∀ p, t.locate name = .ok p → p = path) : Puts path content t u := by
  obtain ⟨p, hp, hfree, -⟩ := write_eq_ok_iff.1 h
  obtain ⟨p', hp', hnode⟩ := node?_of_write h
  obtain rfl := hname p hp
  obtain rfl := hname p' hp'
  refine ⟨fun q => ?_, fun q hq => ?_, fun ht => ht.write h⟩
  · unfold FileTree.fileAt?
    rw [hnode]
    by_cases hq : q = p'
    · rw [if_pos hq, if_pos hq]
    · rw [if_neg hq, if_neg hq]
  · rw [hnode, if_neg]
    · exact hq
    · rintro rfl
      exact hfree hq

theorem of_grows (hgrows : Grows t u) (h : Puts path content u v) : Puts path content t v := by
  refine ⟨fun q => ?_, fun q hq => h.folder q (hgrows.folder hq), fun ht =>
    h.wellFormed (hgrows.wellFormed ht)⟩
  rw [h.fileAt?, hgrows.fileAt?_eq]

end Puts

section Update

variable {t u : FileTree} {folder name text : String} {dir : List String}

theorem ends_write {path : String} {content : ByteArray} {a : Unit} :
    Ends (onPath path (storage.write path content)) t a u ↔ t.write path content = .ok u := by
  rw [ends_onPath]
  exact changing_eq_ok_iff

/-- After an update the file holds the text. It was written unless it held the text before. -/
theorem puts_of_ends_update {wrote : Bool} (hdir : t.locate folder = .ok dir)
    (hname : Path.IsInner name)
    (h : Ends (storage.update (Path.join folder name) text) t wrote u) :
    Puts (dir ++ Path.names name) text.toUTF8 t u ∧
      (wrote = false ↔ t.fileAt? (dir ++ Path.names name) = some text.toUTF8) := by
  -- what is read is what the file holds, if that is a text
  have hheld : ∀ old, textOf (t.read (Path.join folder name)) = .ok old ↔
      t.fileAt? (dir ++ Path.names name) = some old.toUTF8 := fun old =>
    textOf_eq_ok_iff.trans (read_join_eq_ok_iff hdir hname)
  rw [Storage.update, ends_bind] at h
  obtain ⟨found, between, hread, h⟩ := h
  rw [ends_lift, run_readText] at hread
  cases hread
  split at h
  · rename_i old hold
    rw [hheld] at hold
    split at h
    · rename_i heq
      subst heq
      obtain ⟨rfl, rfl⟩ := ends_pure.1 h
      exact ⟨.of_fileAt? hold, iff_of_true rfl hold⟩
    · rename_i hne
      obtain ⟨done, v, hwrite, h⟩ := ends_bind.1 h
      obtain ⟨rfl, rfl⟩ := ends_pure.1 h
      refine ⟨.of_write (ends_write.1 hwrite) fun p => eq_of_locate_join hdir hname,
        iff_of_false Bool.noConfusion fun htext => hne ?_⟩
      rw [hold, Option.some.injEq] at htext
      exact String.toByteArray_inj.1 htext
  · rename_i trouble htrouble
    obtain ⟨done, v, hensure, h⟩ := ends_bind.1 h
    obtain ⟨done', w, hwrite, h⟩ := ends_bind.1 h
    obtain ⟨rfl, rfl⟩ := ends_pure.1 h
    have hgrows := (grows_of_ends_ensureFolders hensure).1
    have hdir' : v.locate folder = .ok dir := locate_mono (fun _ => hgrows.folder) hdir
    refine ⟨.of_grows hgrows (.of_write (ends_write.1 hwrite) fun p =>
      eq_of_locate_join hdir' hname), iff_of_false Bool.noConfusion fun htext => ?_⟩
    rw [← hheld, htrouble] at htext
    cases htext

end Update

structure PutsAll (dir : List String) (files : List (String × String)) (t u : FileTree) : Prop where
  content : ∀ f ∈ files, u.fileAt? (dir ++ Path.names f.1) = some f.2.toUTF8
  others : ∀ q, (∀ f ∈ files, q ≠ dir ++ Path.names f.1) → u.fileAt? q = t.fileAt? q
  folder : ∀ q, t.node? q = some .folder → u.node? q = some .folder
  wellFormed : t.WellFormed → u.WellFormed

namespace PutsAll

variable {t u v : FileTree} {dir : List String} {files : List (String × String)}

theorem nil (dir : List String) (t : FileTree) : PutsAll dir [] t t :=
  ⟨nofun, fun _ _ => rfl, fun _ h => h, id⟩

theorem cons {f : String × String} (hfresh : f.1 ∉ files.map Prod.fst)
    (hfirst : Puts (dir ++ Path.names f.1) f.2.toUTF8 t u) (hrest : PutsAll dir files u v) :
    PutsAll dir (f :: files) t v := by
  have hapart : ∀ g ∈ files, dir ++ Path.names f.1 ≠ dir ++ Path.names g.1 := fun g hg heq =>
    hfresh (List.mem_map.2 ⟨g, hg, (Path.names_injective (List.append_cancel_left heq)).symm⟩)
  refine ⟨fun g hg => ?_, fun q hq => ?_, fun q hq => hrest.folder q (hfirst.folder q hq), fun ht =>
    hrest.wellFormed (hfirst.wellFormed ht)⟩
  · rcases List.mem_cons.1 hg with rfl | hg
    · rw [hrest.others _ hapart, hfirst.fileAt?, if_pos rfl]
    · exact hrest.content g hg
  · rw [hrest.others q fun g hg => hq g (List.mem_cons_of_mem _ hg), hfirst.fileAt?,
      if_neg (hq f List.mem_cons_self)]

end PutsAll

/-- The names of those files that are already there, or of those that are not. -/
def namesUpToDate (t : FileTree) (dir : List String) (upToDate : Bool)
    (files : List (String × String)) : List String :=
  (files.filter fun f =>
    decide (t.fileAt? (dir ++ Path.names f.1) = some f.2.toUTF8) == upToDate).map Prod.fst

theorem namesUpToDate_cons (t : FileTree) (dir : List String) (upToDate : Bool)
    (f : String × String) (files : List (String × String)) :
    t.namesUpToDate dir upToDate (f :: files) =
      if decide (t.fileAt? (dir ++ Path.names f.1) = some f.2.toUTF8) = upToDate then
        f.1 :: t.namesUpToDate dir upToDate files
      else t.namesUpToDate dir upToDate files := by
  unfold namesUpToDate
  rw [List.filter_cons]
  simp only [beq_iff_eq]
  split <;> rfl

theorem namesUpToDate_congr {t u : FileTree} {dir : List String} {files : List (String × String)}
    (h : ∀ f ∈ files, u.fileAt? (dir ++ Path.names f.1) = t.fileAt? (dir ++ Path.names f.1))
    (upToDate : Bool) : u.namesUpToDate dir upToDate files = t.namesUpToDate dir upToDate files :=
  congrArg (List.map Prod.fst) (List.filter_congr fun f hf => by rw [h f hf])

theorem namesUpToDate_perm (t : FileTree) (dir : List String) (files : List (String × String)) :
    (t.namesUpToDate dir false files ++ t.namesUpToDate dir true files).Perm
      (files.map Prod.fst) := by
  induction files with
  | nil => exact .refl _
  | cons f rest ih =>
    rw [namesUpToDate_cons, namesUpToDate_cons, List.map_cons]
    cases decide (t.fileAt? (dir ++ Path.names f.1) = some f.2.toUTF8) with
    | false => exact ih.cons f.1
    | true => exact List.perm_middle.trans (ih.cons f.1)

theorem mem_namesUpToDate {t : FileTree} {dir : List String} {files : List (String × String)}
    {f : String × String} (hnodup : (files.map Prod.fst).Nodup) (hf : f ∈ files) :
    f.1 ∈ t.namesUpToDate dir true files ↔
      t.fileAt? (dir ++ Path.names f.1) = some f.2.toUTF8 := by
  unfold namesUpToDate
  rw [List.mem_map]
  constructor
  · rintro ⟨g, hg, hname⟩
    obtain ⟨hg, hsame⟩ := List.mem_filter.1 hg
    obtain rfl := List.inj_on_of_nodup_map hnodup hg hf hname
    simpa using hsame
  · intro h
    exact ⟨f, List.mem_filter.2 ⟨hf, by simpa using h⟩, rfl⟩

theorem puts_of_ends_updateAll {t u : FileTree} {folder : String} {dir : List String}
    {files : List (String × String)} {before after : WriteOutcome}
    (hdir : t.locate folder = .ok dir) (hinner : ∀ f ∈ files, Path.IsInner f.1)
    (hnodup : (files.map Prod.fst).Nodup)
    (h : Ends (storage.updateAll folder before files) t after u) :
    PutsAll dir files t u ∧
      after.written = before.written ++ t.namesUpToDate dir false files ∧
      after.unchanged = before.unchanged ++ t.namesUpToDate dir true files := by
  induction files generalizing t before with
  | nil =>
    obtain ⟨rfl, rfl⟩ := ends_pure.1 h
    exact ⟨.nil dir _, (List.append_nil _).symm, (List.append_nil _).symm⟩
  | cons f rest ih =>
    obtain ⟨name, text⟩ := f
    obtain ⟨hfresh, hnodup⟩ := List.nodup_cons.1 hnodup
    obtain ⟨wrote, between, hupdate, h⟩ := ends_bind.1 h
    obtain ⟨hputs, hwrote⟩ := puts_of_ends_update hdir (hinner _ List.mem_cons_self) hupdate
    have hdir' : between.locate folder = .ok dir := locate_mono hputs.folder hdir
    have hinner' : ∀ f ∈ rest, Path.IsInner f.1 := fun f hf =>
      hinner f (List.mem_cons_of_mem _ hf)
    -- what the first file changes is none of the others
    have hsame : ∀ f ∈ rest,
        between.fileAt? (dir ++ Path.names f.1) = t.fileAt? (dir ++ Path.names f.1) := by
      intro f hf
      rw [hputs.fileAt?, if_neg]
      intro heq
      exact hfresh (List.mem_map.2 ⟨f, hf, Path.names_injective (List.append_cancel_left heq)⟩)
    rw [namesUpToDate_cons, namesUpToDate_cons]
    cases wrote with
    | true =>
      obtain ⟨hall, hwritten, hunchanged⟩ := ih hdir' hinner' hnodup h
      have hnot : decide (t.fileAt? (dir ++ Path.names name) = some text.toUTF8) = false :=
        decide_eq_false fun heq => Bool.noConfusion (hwrote.2 heq)
      refine ⟨.cons hfresh hputs hall, ?_, ?_⟩
      · rw [hwritten, namesUpToDate_congr hsame, if_pos hnot, List.append_assoc]
        rfl
      · rw [hunchanged, namesUpToDate_congr hsame, if_neg (by rw [hnot]; exact nofun)]
    | false =>
      obtain ⟨hall, hwritten, hunchanged⟩ := ih hdir' hinner' hnodup h
      have hheld : decide (t.fileAt? (dir ++ Path.names name) = some text.toUTF8) = true :=
        decide_eq_true (hwrote.1 rfl)
      refine ⟨.cons hfresh hputs hall, ?_, ?_⟩
      · rw [hwritten, namesUpToDate_congr hsame, if_neg (by rw [hheld]; exact nofun)]
      · rw [hunchanged, namesUpToDate_congr hsame, if_pos hheld, List.append_assoc]
        rfl

end ViewCompanion.FileTree
