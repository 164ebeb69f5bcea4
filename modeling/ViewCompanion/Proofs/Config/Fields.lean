import ViewCompanion.Config.Codec
import ViewCompanion.View.Registry
import ViewCompanion.Proofs.Json.Decode

namespace ViewCompanion

open Reading Decoder

section Met

variable {κ α : Type} [DecidableEq κ] {keys : List κ} {key : κ} {x : α}

def met (keys : List κ) (key : κ) (x : α) : Option α :=
  if key ∈ keys then some x else none

@[simp] theorem met_concat (last : κ) :
    met (keys ++ [last]) key x = if key = last then some x else met keys key x := by
  unfold met
  by_cases h : key = last <;> simp [h]

theorem isSome_met (h : key ∉ keys) : (met keys key x).isSome = false := by
  rw [met, if_neg h]
  rfl

theorem met_getD (standard : α) :
    (met keys key x).getD standard = if key ∈ keys then x else standard := by
  unfold met
  split <;> rfl

end Met

namespace WellKnown

def entry (w : WellKnown) : Role → String × Json
  | .viewMarker => ("view_marker", .string w.viewMarker)
  | .stickerMarker => ("sticker_marker", .string w.stickerMarker)
  | .actionRowMarker => ("action_row_marker", .string w.actionRowMarker)
  | .capability => ("capability", .string w.capability)
  | .snowflake => ("snowflake", .string w.snowflake)
  | .embed => ("embed", .string w.embed)

/-- The table with just the names for `roles`, in this order. -/
def excerpt (w : WellKnown) (roles : List Role) : Json :=
  .object (roles.map w.entry)

def orStandard (roles : List Role) (w : WellKnown) : WellKnown where
  viewMarker := if .viewMarker ∈ roles then w.viewMarker else standard.viewMarker
  stickerMarker := if .stickerMarker ∈ roles then w.stickerMarker else standard.stickerMarker
  actionRowMarker :=
    if .actionRowMarker ∈ roles then w.actionRowMarker else standard.actionRowMarker
  capability := if .capability ∈ roles then w.capability else standard.capability
  snowflake := if .snowflake ∈ roles then w.snowflake else standard.snowflake
  embed := if .embed ∈ roles then w.embed else standard.embed

/-- What has been read once the names for `roles` have been met. -/
def Partial.holding (w : WellKnown) (roles : List Role) : Partial where
  viewMarker := met roles .viewMarker w.viewMarker
  stickerMarker := met roles .stickerMarker w.stickerMarker
  actionRowMarker := met roles .actionRowMarker w.actionRowMarker
  capability := met roles .capability w.capability
  snowflake := met roles .snowflake w.snowflake
  embed := met roles .embed w.embed

theorem complete_holding (w : WellKnown) (roles : List Role) :
    (Partial.holding w roles).complete = w.orStandard roles := by
  simp only [Partial.complete, Partial.holding, met_getD, orStandard]

theorem reads_entry (n : Nat) (w : WellKnown) {roles : List Role} {role : Role}
    (h : role ∉ roles) : Record.Reads (slots n) n [w.entry role] (Partial.holding w roles)
      (Partial.holding w (roles ++ [role])) := by
  cases role <;>
    exact .value (string_invertsAt n _) rfl (isSome_met h) rfl (by simp [Partial.holding])

theorem decode_excerpt (n : Nat) (w : WellKnown) {roles : List Role} (h : roles.Nodup) :
    decode n (ofJson (w.excerpt roles)) = upTo n (w.excerpt roles).depth (w.orStandard roles) := by
  cases n with
  | zero => exact (upTo_zero_succ _ _).symm
  | succ n =>
    have hreads : Record.Reads (slots n) n (roles.map w.entry) Partial.empty
        (Partial.holding w roles) :=
      Record.Reads.of_nodup (fun _ _ hnew => reads_entry n w hnew) h
    exact Record.decode_object (fun r => rfl) hreads rfl (complete_holding w roles)

theorem depth_excerpt (w : WellKnown) (roles : List Role) : (w.excerpt roles).depth = 1 := by
  have hflat : Json.depthFields (roles.map w.entry) ≤ 0 := by
    apply Json.depthFields_le
    rintro f hf
    obtain ⟨role, -, rfl⟩ := List.mem_map.1 hf
    cases role <;> exact Nat.le_refl 0
  rw [excerpt, Json.depth, Nat.le_zero.1 hflat]

theorem isExact_excerpt (w : WellKnown) (roles : List Role) : (w.excerpt roles).IsExact := by
  apply Json.fieldsExact_map
  rintro (_ | _) <;> trivial

end WellKnown

namespace Config

inductive Key
  | crateName
  | extension
  | strictRegistry
  | maxActionRows
  | wellKnown
  | helperNamespace
  | extraReferences
  deriving DecidableEq, Repr

def Key.all : List Key :=
  [crateName, extension, strictRegistry, maxActionRows, wellKnown, helperNamespace,
    extraReferences]

/-- A field as it is written; of the well-known names only those for `roles`. -/
def entry (c : Config) (roles : List Role) : Key → String × Json
  | .crateName => ("crate_name", .string c.crateName)
  | .extension => ("extension", .string c.extension)
  | .strictRegistry => ("strict_registry", .bool c.strictRegistry)
  | .maxActionRows => ("max_action_rows", .number (limitNumber c.maxActionRows).toNat)
  | .wellKnown => ("well_known", c.wellKnown.excerpt roles)
  | .helperNamespace => ("helper_namespace", .string c.helperNamespace)
  | .extraReferences => ("extra_references", .array (c.extraReferences.map Json.string))

/-- The object with just the fields of `keys`, in this order. -/
def excerpt (c : Config) (keys : List Key) (roles : List Role) : Json :=
  .object (keys.map (c.entry roles))

theorem excerpt_all (c : Config) : c.excerpt Key.all Role.all = c.encode :=
  rfl

/-- `c` in the fields of `keys` and the default in all others; of the well-known names those of `c`
for `roles`. -/
def orStandard (keys : List Key) (roles : List Role) (c : Config) : Config where
  crateName := if .crateName ∈ keys then c.crateName else standard.crateName
  extension := if .extension ∈ keys then c.extension else standard.extension
  strictRegistry := if .strictRegistry ∈ keys then c.strictRegistry else standard.strictRegistry
  maxActionRows := if .maxActionRows ∈ keys then c.maxActionRows else standard.maxActionRows
  wellKnown := if .wellKnown ∈ keys then c.wellKnown.orStandard roles else standard.wellKnown
  helperNamespace :=
    if .helperNamespace ∈ keys then c.helperNamespace else standard.helperNamespace
  extraReferences :=
    if .extraReferences ∈ keys then c.extraReferences else standard.extraReferences

theorem orStandard_all (c : Config) : c.orStandard Key.all Role.all = c :=
  rfl

section Limit

variable {limit : Option UInt64}

theorem limitOfNumber_limitNumber (h : limit ≠ some 0) :
    limitOfNumber (limitNumber limit) = limit := by
  cases limit with
  | none => rfl
  | some n =>
    have hn : n ≠ 0 := fun hzero => h (congrArg some hzero)
    exact if_neg hn

theorem limitOfNumber_ne_zero (n : UInt64) : limitOfNumber n ≠ some 0 := by
  unfold limitOfNumber
  split
  · nofun
  · rename_i hn
    exact fun heq => hn (Option.some.inj heq)

theorem decode_limit (n : Nat) (h : limit ≠ some 0) :
    (uint64 n (Reading.ofJson (.number (limitNumber limit).toNat))).map limitOfNumber =
      upTo n 0 limit := by
  have hnumber := (uint64_invertsAt n).map (limitNumber limit) limitOfNumber
  rwa [limitOfNumber_limitNumber h] at hnumber

end Limit

def Partial.holding (c : Config) (roles : List Role) (keys : List Key) : Partial where
  crateName := met keys .crateName c.crateName
  extension := met keys .extension c.extension
  strictRegistry := met keys .strictRegistry c.strictRegistry
  maxActionRows := met keys .maxActionRows c.maxActionRows
  wellKnown := met keys .wellKnown (c.wellKnown.orStandard roles)
  helperNamespace := met keys .helperNamespace c.helperNamespace
  extraReferences := met keys .extraReferences c.extraReferences

theorem complete_holding (c : Config) (roles : List Role) (keys : List Key) :
    (Partial.holding c roles keys).complete = c.orStandard keys roles := by
  simp only [Partial.complete, Partial.holding, met_getD, orStandard]

theorem reads_entry (n : Nat) (c : Config) (hlimit : c.maxActionRows ≠ some 0)
    {roles : List Role} (hroles : roles.Nodup) {keys : List Key} {key : Key} (h : key ∉ keys) :
    Record.Reads (slots n) n [c.entry roles key] (Partial.holding c roles keys)
      (Partial.holding c roles (keys ++ [key])) := by
  cases key with
  | crateName | extension | helperNamespace =>
    exact .value (string_invertsAt n _) rfl (isSome_met h) rfl (by simp [Partial.holding])
  | strictRegistry =>
    exact .value (bool_invertsAt n _) rfl (isSome_met h) rfl (by simp [Partial.holding])
  | maxActionRows =>
    exact .value (decode_limit n hlimit) rfl (isSome_met h) rfl (by simp [Partial.holding])
  | wellKnown =>
    exact .value (c.wellKnown.decode_excerpt n hroles) rfl (isSome_met h) rfl
      (by simp [Partial.holding])
  | extraReferences =>
    exact .value (list_invertsAt string_invertsAt n _) rfl (isSome_met h) rfl
      (by simp [Partial.holding])

theorem depth_excerpt_le (c : Config) (keys : List Key) (roles : List Role) :
    (c.excerpt keys roles).depth ≤ maxDepth := by
  have hfields : Json.depthFields (keys.map (c.entry roles)) ≤ 1 := by
    apply Json.depthFields_le
    intro f hf
    obtain ⟨key, -, rfl⟩ := List.mem_map.1 hf
    cases key with
    | wellKnown => exact Nat.le_of_eq (c.wellKnown.depth_excerpt roles)
    | extraReferences =>
      exact Nat.le_of_eq (congrArg (· + 1) (Json.depthItems_map_string c.extraReferences))
    | _ => exact Nat.zero_le 1
  rw [excerpt, Json.depth]
  exact Nat.le_trans (Nat.add_le_add_right hfields 1) (by decide)

theorem isExact_excerpt (c : Config) (keys : List Key) (roles : List Role) :
    (c.excerpt keys roles).IsExact := by
  apply Json.fieldsExact_map
  intro key
  cases key with
  | maxActionRows => exact Json.isExact_number (limitNumber c.maxActionRows).toNat_lt
  | wellKnown => exact c.wellKnown.isExact_excerpt roles
  | extraReferences => exact Json.itemsExact_map Json.isExact_string c.extraReferences
  | _ => trivial

/-- The fields that a document holds are read, in whatever order they stand. -/
theorem ofJson_excerpt (c : Config) (hlimit : c.maxActionRows ≠ some 0) {keys : List Key}
    {roles : List Role} (hkeys : keys.Nodup) (hroles : roles.Nodup) {text : List Char}
    (htext : Json.Written (c.excerpt keys roles) text) :
    ofJson (String.ofList text) = .ok (c.orStandard keys roles) := by
  have hreads : Record.Reads (slots 126) 126 (keys.map (c.entry roles)) Partial.empty
      (Partial.holding c roles keys) :=
    Record.Reads.of_nodup (fun _ _ hnew => reads_entry 126 c hlimit hroles hnew) hkeys
  have hdecode : decode maxDepth (Reading.ofJson (c.excerpt keys roles)) =
      upTo maxDepth (c.excerpt keys roles).depth (c.orStandard keys roles) :=
    Record.decode_object (fun r => rfl) hreads rfl (complete_holding c roles keys)
  rw [ofJson, document_eq (ofText_of_written htext), hdecode, upTo,
    if_pos (depth_excerpt_le c keys roles)]

def Partial.HasNoZeroLimit (s : Partial) : Prop :=
  s.maxActionRows ≠ some (some 0)

theorem slots_keep_hasNoZeroLimit (n : Nat) :
    ∀ slot ∈ slots n, slot.Keeps Partial.HasNoZeroLimit := by
  simp only [slots, List.forall_mem_cons]
  refine ⟨?_, ?_, ?_, ?_, ?_, ?_, ?_, nofun⟩
  -- the fourth field is the limit
  case refine_4 =>
    apply Slot.keeps_defaulted
    intro r limit s hlimit _ hzero
    obtain ⟨n, -, rfl⟩ := Decoded.exists_of_map hlimit
    exact limitOfNumber_ne_zero n (Option.some.inj hzero)
  all_goals exact Slot.keeps_defaulted fun _ _ _ _ hs => hs

theorem maxActionRows_complete {p : Partial} (h : p.HasNoZeroLimit) :
    p.complete.maxActionRows ≠ some 0 := by
  unfold Partial.complete
  cases hmet : p.maxActionRows with
  | none => simp [standard]
  | some limit => exact fun hzero => h (hmet.trans (congrArg some hzero))

/-- Zero stands for no limit, so that no document gives it as one. -/
theorem maxActionRows_ofJson {text : String} {c : Config} (h : ofJson text = .ok c) :
    c.maxActionRows ≠ some 0 := by
  obtain ⟨r, -, hr⟩ := document_eq_ok_iff.1 h
  obtain ⟨p, hp, rfl⟩ := Decoded.exists_of_map hr
  have hstart : Partial.empty.HasNoZeroLimit := nofun
  exact maxActionRows_complete (Record.decode_keeps (slots_keep_hasNoZeroLimit 126) hstart hp)

/-- Settings are read back from their document; what a document leaves out has its default, and none
gives zero as the limit of action rows. -/
theorem ofJson_keeps_given_fields (c : Config) (hlimit : c.maxActionRows ≠ some 0) :
    ofJson c.toJson = .ok c ∧
    (∀ (text : String) (read : Config), ofJson text = .ok read → read.maxActionRows ≠ some 0) ∧
    ∀ (keys : List Key) (roles : List Role), keys.Nodup → roles.Nodup →
      ∀ text, Json.Written (c.excerpt keys roles) text →
        ofJson (String.ofList text) = .ok (c.orStandard keys roles) := by
  refine ⟨?_, fun text read => maxActionRows_ofJson, fun keys roles hkeys hroles text htext =>
    ofJson_excerpt c hlimit hkeys hroles htext⟩
  -- the document of the settings is the one with all fields
  have hwritten : Json.Written (c.excerpt Key.all Role.all) c.encode.compactText := by
    rw [excerpt_all]
    exact Json.written_compactText c.encode (c.isExact_excerpt Key.all Role.all)
  have hread := ofJson_excerpt c hlimit (by decide) (by decide) hwritten
  rwa [orStandard_all] at hread

def unlimited : Config :=
  { standard with
    extension := "gen"
    maxActionRows := none
    wellKnown := { WellKnown.standard with snowflake := "bot::Id", embed := "bot::Card" } }

theorem ofJson_keeps_given_fields_unlimited :
    unlimited.maxActionRows ≠ some 0 ∧ ofJson unlimited.toJson = .ok unlimited ∧
    [Key.wellKnown, .maxActionRows].Nodup ∧ [Role.embed].Nodup ∧
    ofJson "\x7b\"well_known\":\x7b\"embed\":\"bot::Card\"\x7d,\"max_action_rows\":0\x7d" =
      .ok { standard with
        maxActionRows := none
        wellKnown := { WellKnown.standard with embed := "bot::Card" } } := by
  have hlimit : unlimited.maxActionRows ≠ some 0 := nofun
  have hkeys : [Key.wellKnown, .maxActionRows].Nodup := by decide
  have hroles : [Role.embed].Nodup := by decide
  obtain ⟨hall, -, hsome⟩ := ofJson_keeps_given_fields unlimited hlimit
  have hwritten : Json.Written (unlimited.excerpt [.wellKnown, .maxActionRows] [.embed])
      (Json.compactText (unlimited.excerpt [.wellKnown, .maxActionRows] [.embed])) :=
    Json.written_compactText _ (unlimited.isExact_excerpt _ _)
  exact ⟨hlimit, hall, hkeys, hroles, hsome _ _ hkeys hroles _ hwritten⟩

end Config

end ViewCompanion
