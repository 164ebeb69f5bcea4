import ViewCompanion.Generation

namespace ViewCompanion

def Snapshot.undefinedNames (s : Snapshot) (names : WellKnown) : List MissingName :=
  (Role.all.filter fun role => !s.defines (names.name role)).map fun role =>
    ⟨role, names.name role⟩

namespace Registry

theorem missing_ofSnapshot (s : Snapshot) (names : WellKnown) :
    (ofSnapshot s names).missing names = s.undefinedNames names := by
  have hnone : ∀ role, ((ofSnapshot s names).get? role).isNone = !s.defines (names.name role) := by
    intro role
    rw [get?_ofSnapshot]
    cases s.defines (names.name role) <;> rfl
  unfold missing Snapshot.undefinedNames
  simp only [hnone]

end Registry

namespace Config

variable {c : Config} {s : Snapshot} {missing : MissingName} {r : Registry}

theorem registry_eq (c : Config) (s : Snapshot) : c.registry s =
    match c.strictRegistry, s.undefinedNames c.wellKnown with
    | true, missing :: _ => .error missing
    | _, _ => .ok (.ofSnapshot s c.wellKnown) := by
  rw [← Registry.missing_ofSnapshot]
  rfl

theorem registry_eq_error_iff : c.registry s = .error missing ↔
    c.strictRegistry = true ∧ (s.undefinedNames c.wellKnown).head? = some missing := by
  rw [registry_eq]
  cases c.strictRegistry with
  | false => simp
  | true => cases s.undefinedNames c.wellKnown <;> simp

theorem registry_eq_ok_iff : c.registry s = .ok r ↔
    (c.strictRegistry = true → s.undefinedNames c.wellKnown = []) ∧
      r = .ofSnapshot s c.wellKnown := by
  rw [registry_eq]
  cases c.strictRegistry with
  | false => simp [@eq_comm _ r]
  | true => cases s.undefinedNames c.wellKnown <;> simp [@eq_comm _ r]

end Config

end ViewCompanion
