import ViewCompanion.Proofs.Text.Joining

namespace ViewCompanion.Text

variable {α β : Type} {p : α → Prop} {write : α → List Char} {view : α → β}

/-- In front of any rest, the text of `x` gives away `view x` and where the rest begins. -/
def Tells (p : α → Prop) (write : α → List Char) (view : α → β) : Prop :=
  ∀ ⦃x y : α⦄, p x → p y → ∀ ⦃s t : List Char⦄, write x ++ s = write y ++ t →
    view x = view y ∧ s = t

theorem eq_of_append_stop {stop : Char} {x y s t : List Char} (hx : stop ∉ x) (hy : stop ∉ y)
    (h : x ++ stop :: s = y ++ stop :: t) : x = y ∧ s = t := by
  have hcut : some (x, s) = some (y, t) :=
    calc some (x, s) = cutFirst? [stop] (x ++ stop :: s) := (cutFirst?_append hx s).symm
      _ = cutFirst? [stop] (y ++ stop :: t) := by rw [h]
      _ = some (y, t) := cutFirst?_append hy t
  exact Prod.mk.inj (Option.some.inj hcut)

namespace Tells

variable {γ : Type}

theorem comap (h : Tells p write view) {q : γ → Prop} (f : γ → α) (hq : ∀ x, q x → p (f x)) :
    Tells q (fun x => write (f x)) fun x => view (f x) :=
  fun _ _ hx hy _ _ heq => h (hq _ hx) (hq _ hy) heq

theorem append (h : Tells p write view) {write' : α → List Char} {view' : α → γ}
    (h' : Tells p write' view') :
    Tells p (fun x => write x ++ write' x) fun x => (view x, view' x) := by
  intro x y hx hy s t heq
  simp only [List.append_assoc] at heq
  obtain ⟨hview, heq⟩ := h hx hy heq
  obtain ⟨hview', heq⟩ := h' hx hy heq
  exact ⟨Prod.ext hview hview', heq⟩

theorem between (h : Tells p write view) (front back : List Char) :
    Tells p (fun x => front ++ (write x ++ back)) view := by
  intro x y hx hy s t heq
  simp only [List.append_assoc, List.append_cancel_left_eq] at heq
  obtain ⟨hview, hrest⟩ := h hx hy heq
  exact ⟨hview, List.append_cancel_left hrest⟩

theorem followed (h : Tells p write view) (back : List Char) :
    Tells p (fun x => write x ++ back) view := by
  simpa only [List.nil_append] using h.between [] back

theorem delimited {p : String → Prop} (stop : Char) (h : ∀ s, p s → stop ∉ s.toList)
    (front back : List Char) :
    Tells p (fun s => front ++ (s.toList ++ stop :: back)) id := by
  intro x y hx hy s t heq
  simp only [List.append_assoc, List.cons_append, List.append_cancel_left_eq] at heq
  obtain ⟨hname, hrest⟩ := eq_of_append_stop (h x hx) (h y hy) heq
  exact ⟨String.toList_injective hname, List.append_cancel_left hrest⟩

/-- Items up to a `stop` that does not look like one. -/
theorem repeated (h : Tells p write view) {stop : List Char}
    (hstop : ∀ x s t, write x ++ s ≠ stop ++ t) :
    Tells (fun xs : List α => ∀ x ∈ xs, p x) (fun xs => xs.flatMap write ++ stop)
      (List.map view) := by
  intro xs
  induction xs with
  | nil =>
    rintro (_ | ⟨y, ys⟩) - hys s t heq
    · exact ⟨rfl, List.append_cancel_left heq⟩
    · simp only [List.flatMap_cons, List.append_assoc] at heq
      exact absurd heq.symm (hstop y _ s)
  | cons x xs ih =>
    rintro (_ | ⟨y, ys⟩) hxs hys s t heq
    · simp only [List.flatMap_cons, List.append_assoc] at heq
      exact absurd heq (hstop x _ t)
    · simp only [List.flatMap_cons, List.append_assoc] at heq ih
      obtain ⟨hview, heq⟩ := h (hxs x List.mem_cons_self) (hys y List.mem_cons_self) heq
      obtain ⟨hviews, heq⟩ := ih (fun z hz => hxs z (List.mem_cons_of_mem x hz))
        (fun z hz => hys z (List.mem_cons_of_mem y hz)) heq
      exact ⟨congrArg₂ List.cons hview hviews, heq⟩

/-- Items with `sep` between them, up to a `stop` that looks like none of both. -/
theorem joined (h : Tells p write view) (sep stop : List Char)
    (hitem : ∀ x s t, write x ++ s ≠ stop ++ t)
    (hsep : ∀ x s t, sep ++ (write x ++ s) ≠ stop ++ t) :
    Tells (fun xs : List α => ∀ x ∈ xs, p x) (fun xs => joinWith sep (xs.map write) ++ stop)
      (List.map view) := by
  have hafter : Tells p (fun x => sep ++ write x) view := by
    simpa only [List.append_nil] using h.between sep []
  have hrest := hafter.repeated fun x s t => by
    simpa only [List.append_assoc] using hsep x s t
  rintro (_ | ⟨x, xs⟩) (_ | ⟨y, ys⟩) hxs hys s t heq
  · exact ⟨rfl, List.append_cancel_left heq⟩
  · simp only [List.map_cons, joinWith_cons, List.append_assoc] at heq
    exact absurd heq.symm (hitem y _ s)
  · simp only [List.map_cons, joinWith_cons, List.append_assoc] at heq
    exact absurd heq (hitem x _ t)
  · simp only [List.map_cons, joinWith_cons, List.append_assoc, List.flatMap_map] at heq
    obtain ⟨hview, heq⟩ := h (hxs x List.mem_cons_self) (hys y List.mem_cons_self) heq
    obtain ⟨hviews, heq⟩ := hrest (fun z hz => hxs z (List.mem_cons_of_mem x hz))
      (fun z hz => hys z (List.mem_cons_of_mem y hz)) (by simpa only [List.append_assoc] using heq)
    exact ⟨congrArg₂ List.cons hview hviews, heq⟩

theorem orEmpty {p : List α → Prop} {write : List α → List Char} {view : List α → β}
    (h : Tells p write view) (empty : List Char)
    (hempty : ∀ xs s t, empty ++ s ≠ write xs ++ t) :
    Tells p (fun xs => if xs.isEmpty then empty else write xs) view := by
  rintro (_ | ⟨x, xs⟩) (_ | ⟨y, ys⟩) hxs hys s t heq
  · exact ⟨rfl, List.append_cancel_left heq⟩
  · exact absurd heq (hempty _ s t)
  · exact absurd heq.symm (hempty _ t s)
  · exact h hxs hys heq

end Tells

end ViewCompanion.Text
