import ViewCompanion.Message.Payload
import ViewCompanion.Proofs.Json.Decode

namespace ViewCompanion

open Reading Decoder

theorem Json.string_ne_null (s : String) : ofJson (.string s) ≠ .null :=
  nofun

theorem Json.number_ne_null (n : Int) : ofJson (.number n) ≠ .null :=
  nofun

namespace Snowflake

theorem ofText_text (s : Snowflake) : ofText s.text = .ok s := by
  have hdigits : Text.readBelow UInt64.size (Nat.toDigits 10 s.id.toNat) = .ok s.id.toNat :=
    Text.readBelow_toDigits s.id.toNat_lt
  rw [ofText, text, String.toList_ofList, hdigits]
  show Except.ok (Snowflake.mk (UInt64.ofNat s.id.toNat)) = _
  rw [UInt64.ofNat_toNat]

theorem invertsAt (n : Nat) : InvertsAt n decode encode := by
  intro s
  show (ofText s.text).mapError .numeral = upTo n 0 s
  rw [ofText_text, upTo_zero]
  rfl

theorem isExact_encode (s : Snowflake) : s.encode.IsExact :=
  trivial

end Snowflake

namespace EmbedField

theorem reads (n : Nat) (f : EmbedField) : Record.Reads (slots n) n
    [("name", .string f.name), ("value", .string f.value), ("inline", .bool f.inline)]
    ⟨none, none, none⟩ ⟨some f.name, some f.value, some f.inline⟩ := by
  have hname : Record.Reads (slots n) n [("name", .string f.name)]
      ⟨none, none, none⟩ ⟨some f.name, none, none⟩ :=
    .field (string_invertsAt n) rfl rfl rfl rfl
  have hvalue : Record.Reads (slots n) n [("value", .string f.value)]
      ⟨some f.name, none, none⟩ ⟨some f.name, some f.value, none⟩ :=
    .field (string_invertsAt n) rfl rfl rfl rfl
  have hinline : Record.Reads (slots n) n [("inline", .bool f.inline)]
      ⟨some f.name, some f.value, none⟩ ⟨some f.name, some f.value, some f.inline⟩ :=
    .field (bool_invertsAt n) rfl rfl rfl rfl
  exact hname.append (hvalue.append hinline)

theorem invertsAt (n : Nat) : InvertsAt n decode encode := by
  intro f
  rw [encode]
  cases n with
  | zero => exact (upTo_zero_succ _ f).symm
  | succ n => exact Record.decode_object (fun r => rfl) (reads n f) rfl rfl

theorem isExact_encode (f : EmbedField) : f.encode.IsExact :=
  ⟨trivial, trivial, trivial, trivial⟩

end EmbedField

namespace Embed

theorem reads (n : Nat) (e : Embed) : Record.Reads (slots n) n
    ([Json.optionField "title" Json.string e.title,
      Json.optionField "description" Json.string e.description,
      Json.optionField "url" Json.string e.url,
      Json.optionField "color" (fun c => Json.number c.toNat) e.color,
      Json.listField "fields" EmbedField.encode e.fields,
      Json.optionField "footer" Json.string e.footer].flatMap Option.toList)
    ⟨none, none, none, none, none, none⟩
    ⟨given e.title, given e.description, given e.url, given e.color, presence e.fields,
      given e.footer⟩ := by
  have htitle : Record.Reads (slots n) n (Json.optionField "title" Json.string e.title).toList
      ⟨none, none, none, none, none, none⟩ ⟨given e.title, none, none, none, none, none⟩ :=
    .optionField (string_invertsAt n) Json.string_ne_null rfl rfl rfl (by cases e.title <;> rfl)
  have hdescription : Record.Reads (slots n) n
      (Json.optionField "description" Json.string e.description).toList
      ⟨given e.title, none, none, none, none, none⟩
      ⟨given e.title, given e.description, none, none, none, none⟩ :=
    .optionField (string_invertsAt n) Json.string_ne_null rfl rfl rfl
      (by cases e.description <;> rfl)
  have hurl : Record.Reads (slots n) n (Json.optionField "url" Json.string e.url).toList
      ⟨given e.title, given e.description, none, none, none, none⟩
      ⟨given e.title, given e.description, given e.url, none, none, none⟩ :=
    .optionField (string_invertsAt n) Json.string_ne_null rfl rfl rfl (by cases e.url <;> rfl)
  have hcolor : Record.Reads (slots n) n
      (Json.optionField "color" (fun c => Json.number c.toNat) e.color).toList
      ⟨given e.title, given e.description, given e.url, none, none, none⟩
      ⟨given e.title, given e.description, given e.url, given e.color, none, none⟩ :=
    .optionField (uint32_invertsAt n) (fun c => Json.number_ne_null c.toNat) rfl rfl rfl
      (by cases e.color <;> rfl)
  have hfields : Record.Reads (slots n) n
      (Json.listField "fields" EmbedField.encode e.fields).toList
      ⟨given e.title, given e.description, given e.url, given e.color, none, none⟩
      ⟨given e.title, given e.description, given e.url, given e.color, presence e.fields, none⟩ :=
    .listField (list_invertsAt EmbedField.invertsAt n) rfl rfl rfl (by cases e.fields <;> rfl)
  have hfooter : Record.Reads (slots n) n (Json.optionField "footer" Json.string e.footer).toList
      ⟨given e.title, given e.description, given e.url, given e.color, presence e.fields, none⟩
      ⟨given e.title, given e.description, given e.url, given e.color, presence e.fields,
        given e.footer⟩ :=
    .optionField (string_invertsAt n) Json.string_ne_null rfl rfl rfl (by cases e.footer <;> rfl)
  exact .cons htitle (.cons hdescription (.cons hurl (.cons hcolor (.cons hfields
    (.cons hfooter .nil)))))

theorem invertsAt (n : Nat) : InvertsAt n decode encode := by
  intro e
  rw [encode, Json.record_eq]
  cases n with
  | zero => exact (upTo_zero_succ _ e).symm
  | succ n =>
    refine Record.decode_object (fun r => rfl) (reads n e) rfl ?_
    simp only [presence_getD, given_getD]

theorem isExact_encode (e : Embed) : e.encode.IsExact := by
  have hcolor : ∀ c : UInt32, (Json.number c.toNat).IsExact := fun c =>
    Json.isExact_number (Nat.lt_trans c.toNat_lt (by decide))
  apply Json.isExact_record_cons
  · exact Json.fieldExact_of_mem_optionField Json.isExact_string e.title
  apply Json.isExact_record_cons
  · exact Json.fieldExact_of_mem_optionField Json.isExact_string e.description
  apply Json.isExact_record_cons
  · exact Json.fieldExact_of_mem_optionField Json.isExact_string e.url
  apply Json.isExact_record_cons
  · exact Json.fieldExact_of_mem_optionField hcolor e.color
  apply Json.isExact_record_cons
  · exact Json.fieldExact_of_mem_listField EmbedField.isExact_encode e.fields
  apply Json.isExact_record_cons
  · exact Json.fieldExact_of_mem_optionField Json.isExact_string e.footer
  exact trivial

end Embed

namespace ButtonStyle

theorem decodeStored_encode (n : Nat) : InvertsAt n decodeStored encode := by
  intro s
  show decodeStored n (.string s.name) = upTo n 0 s
  rw [upTo_zero]
  cases n <;> cases s <;> rfl

end ButtonStyle

namespace Button

theorem reads (n : Nat) (b : Button) : Record.Reads (slots ButtonStyle.decodeStored n) n
    (b.fields.flatMap Option.toList) ⟨none, none, none, none, none⟩
    ⟨some b.style, given b.label, given b.customId, given b.url, some b.disabled⟩ := by
  have hstyle : Record.Reads (slots ButtonStyle.decodeStored n) n [("style", b.style.encode)]
      ⟨none, none, none, none, none⟩ ⟨some b.style, none, none, none, none⟩ :=
    .field (ButtonStyle.decodeStored_encode n) rfl rfl rfl rfl
  have hlabel : Record.Reads (slots ButtonStyle.decodeStored n) n
      (Json.optionField "label" Json.string b.label).toList
      ⟨some b.style, none, none, none, none⟩ ⟨some b.style, given b.label, none, none, none⟩ :=
    .optionField (string_invertsAt n) Json.string_ne_null rfl rfl rfl (by cases b.label <;> rfl)
  have hid : Record.Reads (slots ButtonStyle.decodeStored n) n
      (Json.optionField "custom_id" Json.string b.customId).toList
      ⟨some b.style, given b.label, none, none, none⟩
      ⟨some b.style, given b.label, given b.customId, none, none⟩ :=
    .optionField (string_invertsAt n) Json.string_ne_null rfl rfl rfl
      (by cases b.customId <;> rfl)
  have hurl : Record.Reads (slots ButtonStyle.decodeStored n) n
      (Json.optionField "url" Json.string b.url).toList
      ⟨some b.style, given b.label, given b.customId, none, none⟩
      ⟨some b.style, given b.label, given b.customId, given b.url, none⟩ :=
    .optionField (string_invertsAt n) Json.string_ne_null rfl rfl rfl (by cases b.url <;> rfl)
  have hdisabled : Record.Reads (slots ButtonStyle.decodeStored n) n
      [("disabled", .bool b.disabled)]
      ⟨some b.style, given b.label, given b.customId, given b.url, none⟩
      ⟨some b.style, given b.label, given b.customId, given b.url, some b.disabled⟩ :=
    .field (bool_invertsAt n) rfl rfl rfl rfl
  exact .cons hstyle (.cons hlabel (.cons hid (.cons hurl (.cons hdisabled .nil))))

theorem decodeWith_fields (n : Nat) (b : Button) :
    decodeWith ButtonStyle.decodeStored n (.object (ofFields (b.fields.flatMap Option.toList))) =
      upTo n (Json.depthFields (b.fields.flatMap Option.toList)) b := by
  have hread := Record.decode_of_reads (reads n b) rfl
  rw [ofJson] at hread
  rw [decodeWith, hread, upTo_map]
  simp only [Option.getD_some, given_getD]

theorem isExact_encode (b : Button) : b.encode.IsExact := by
  apply Json.isExact_record_cons
  · exact Json.fieldExact_of_mem_field trivial
  apply Json.isExact_record_cons
  · exact Json.fieldExact_of_mem_optionField Json.isExact_string b.label
  apply Json.isExact_record_cons
  · exact Json.fieldExact_of_mem_optionField Json.isExact_string b.customId
  apply Json.isExact_record_cons
  · exact Json.fieldExact_of_mem_optionField Json.isExact_string b.url
  apply Json.isExact_record_cons
  · exact Json.fieldExact_of_mem_field trivial
  exact trivial

end Button

namespace SelectOption

theorem reads (n : Nat) (o : SelectOption) : Record.Reads (slots n) n
    ([Json.field "label" (.string o.label), Json.field "value" (.string o.value),
      Json.optionField "description" Json.string o.description].flatMap Option.toList)
    ⟨none, none, none⟩ ⟨some o.label, some o.value, given o.description⟩ := by
  have hlabel : Record.Reads (slots n) n [("label", .string o.label)]
      ⟨none, none, none⟩ ⟨some o.label, none, none⟩ :=
    .field (string_invertsAt n) rfl rfl rfl rfl
  have hvalue : Record.Reads (slots n) n [("value", .string o.value)]
      ⟨some o.label, none, none⟩ ⟨some o.label, some o.value, none⟩ :=
    .field (string_invertsAt n) rfl rfl rfl rfl
  have hdescription : Record.Reads (slots n) n
      (Json.optionField "description" Json.string o.description).toList
      ⟨some o.label, some o.value, none⟩ ⟨some o.label, some o.value, given o.description⟩ :=
    .optionField (string_invertsAt n) Json.string_ne_null rfl rfl rfl
      (by cases o.description <;> rfl)
  exact .cons hlabel (.cons hvalue (.cons hdescription .nil))

theorem invertsAt (n : Nat) : InvertsAt n decode encode := by
  intro o
  rw [encode, Json.record_eq]
  cases n with
  | zero => exact (upTo_zero_succ _ o).symm
  | succ n =>
    refine Record.decode_object (fun r => rfl) (reads n o) rfl ?_
    simp only [given_getD, Option.getD_some]

theorem isExact_encode (o : SelectOption) : o.encode.IsExact := by
  apply Json.isExact_record_cons
  · exact Json.fieldExact_of_mem_field trivial
  apply Json.isExact_record_cons
  · exact Json.fieldExact_of_mem_field trivial
  apply Json.isExact_record_cons
  · exact Json.fieldExact_of_mem_optionField Json.isExact_string o.description
  exact trivial

end SelectOption

namespace SelectMenu

theorem reads (n : Nat) (m : SelectMenu) : Record.Reads (slots n) n
    (m.fields.flatMap Option.toList) ⟨none, none, none, none, none⟩
    ⟨some m.customId, some m.options, given m.placeholder, some m.minValues,
      some m.maxValues⟩ := by
  have hid : Record.Reads (slots n) n [("custom_id", .string m.customId)]
      ⟨none, none, none, none, none⟩ ⟨some m.customId, none, none, none, none⟩ :=
    .field (string_invertsAt n) rfl rfl rfl rfl
  -- the options are written even when there are none
  have hoptions : Record.Reads (slots n) n
      [("options", .array (m.options.map SelectOption.encode))]
      ⟨some m.customId, none, none, none, none⟩
      ⟨some m.customId, some m.options, none, none, none⟩ :=
    .field (x := m.options) (list_invertsAt SelectOption.invertsAt n) rfl rfl rfl rfl
  have hplaceholder : Record.Reads (slots n) n
      (Json.optionField "placeholder" Json.string m.placeholder).toList
      ⟨some m.customId, some m.options, none, none, none⟩
      ⟨some m.customId, some m.options, given m.placeholder, none, none⟩ :=
    .optionField (string_invertsAt n) Json.string_ne_null rfl rfl rfl
      (by cases m.placeholder <;> rfl)
  have hmin : Record.Reads (slots n) n [("min_values", .number m.minValues.toNat)]
      ⟨some m.customId, some m.options, given m.placeholder, none, none⟩
      ⟨some m.customId, some m.options, given m.placeholder, some m.minValues, none⟩ :=
    .field (x := m.minValues) (uint8_invertsAt n) rfl rfl rfl rfl
  have hmax : Record.Reads (slots n) n [("max_values", .number m.maxValues.toNat)]
      ⟨some m.customId, some m.options, given m.placeholder, some m.minValues, none⟩
      ⟨some m.customId, some m.options, given m.placeholder, some m.minValues,
        some m.maxValues⟩ :=
    .field (x := m.maxValues) (uint8_invertsAt n) rfl rfl rfl rfl
  exact .cons hid (.cons hoptions (.cons hplaceholder (.cons hmin (.cons hmax .nil))))

theorem decodeFields_fields (n : Nat) (m : SelectMenu) :
    decodeFields n (.object (ofFields (m.fields.flatMap Option.toList))) =
      upTo n (Json.depthFields (m.fields.flatMap Option.toList)) m := by
  have hread := Record.decode_of_reads (reads n m) rfl
  rw [ofJson] at hread
  rw [decodeFields, hread, upTo_map]
  simp only [Option.getD_some, given_getD]

theorem isExact_encode (m : SelectMenu) : m.encode.IsExact := by
  have hnumber : ∀ k : UInt8, (Json.number k.toNat).IsExact := fun k =>
    Json.isExact_number (Nat.lt_trans k.toNat_lt (by decide))
  apply Json.isExact_record_cons
  · exact Json.fieldExact_of_mem_field trivial
  apply Json.isExact_record_cons
  · exact Json.fieldExact_of_mem_field (Json.itemsExact_map SelectOption.isExact_encode m.options)
  apply Json.isExact_record_cons
  · exact Json.fieldExact_of_mem_optionField Json.isExact_string m.placeholder
  apply Json.isExact_record_cons
  · exact Json.fieldExact_of_mem_field (hnumber m.minValues)
  apply Json.isExact_record_cons
  · exact Json.fieldExact_of_mem_field (hnumber m.maxValues)
  exact trivial

end SelectMenu

namespace Component

theorem encodeList_eq (cs : List Component) : encodeList cs = cs.map encode := by
  induction cs with
  | nil => rfl
  | cons c cs ih => rw [encodeList, ih, List.map_cons]

theorem tagged_eq (name : String) (fields : List (Option (String × Json))) : tagged name fields =
    .object (("type", .string name) :: fields.flatMap Option.toList) :=
  Json.record_eq _

theorem depth_tagged (name : String) (fields : List (Option (String × Json))) :
    (tagged name fields).depth = Json.depthFields (fields.flatMap Option.toList) + 1 := by
  rw [tagged_eq]
  simp only [Json.depth, Json.depthFields, Json.depthField, Nat.zero_max]

section Store

variable {kind : Reading → Decoded Kind} {name : String} {found : Kind}

/-- Storing fields opens all of them, and a kind may not come again. -/
theorem store_ofFields (n : Nat) {fs : List (String × Json)} (h : ∀ f ∈ fs, f.1 ≠ "type") :
    store kind n (ofFields fs) (some found) =
      upTo n (Json.depthFields fs) (found, ofFields fs) := by
  induction fs with
  | nil =>
    rw [Json.depthFields, upTo_zero]
    rfl
  | cons f fs ih =>
    obtain ⟨key, v⟩ := f
    have hkey : key ≠ "type" := h _ List.mem_cons_self
    have hstorable := isStorable_ofJson n v
    have ih := ih fun f hf => h f (List.mem_cons_of_mem _ hf)
    rw [ofFields, ofField, store, if_neg hkey, hstorable, ih, upTo_map, Json.depthFields,
      Json.depthField]
    by_cases hv : v.depth ≤ n
    · rw [if_pos (decide_eq_true hv)]
      simp only [upTo, Nat.max_le, hv, true_and]
    · have hmax : ¬ max v.depth (Json.depthFields fs) ≤ n := fun hle =>
        hv (Nat.le_trans (Nat.le_max_left _ _) hle)
      rw [if_neg (by simpa using hv), upTo, if_neg hmax]

theorem parts_tagged (n : Nat) {fields : List (Option (String × Json))}
    (hkind : kind (.string name) = .ok found)
    (hkeys : ∀ f ∈ fields.flatMap Option.toList, f.1 ≠ "type") :
    parts kind n (ofJson (tagged name fields)) =
      upTo n (Json.depthFields (fields.flatMap Option.toList))
        (found, .object (ofFields (fields.flatMap Option.toList))) := by
  have hstore : store kind n (ofFields (("type", .string name) :: fields.flatMap Option.toList))
      none = upTo n (Json.depthFields (fields.flatMap Option.toList))
        (found, ofFields (fields.flatMap Option.toList)) := by
    rw [ofFields, ofField, store, if_pos rfl, ofJson]
    show (kind (.string name) >>= _) = _
    rw [hkind]
    exact store_ofFields n hkeys
  rw [tagged_eq, ofJson, parts, hstore, upTo_map]

theorem decodeWith_succ (kind : Reading → Decoded Kind) (n : Nat) (r : Reading) :
    decodeWith kind (n + 1) r = parts kind n r >>= fun p =>
      decodeKind (Decoder.list (decodeWith Kind.decodeStored) n) n p.1 p.2 := by
  cases n with
  | zero => rfl
  | succ n =>
    refine congrArg (fun list => parts kind (n + 1) r >>= fun p => decodeKind list (n + 1) p.1 p.2)
      (funext fun r => ?_)
    cases r <;> rfl

theorem decodeWith_tagged {n : Nat} {fields : List (Option (String × Json))} {c : Component}
    (hkind : kind (.string name) = .ok found)
    (hkeys : ∀ f ∈ fields.flatMap Option.toList, f.1 ≠ "type")
    (hfields : decodeKind (Decoder.list (decodeWith Kind.decodeStored) n) n found
        (.object (ofFields (fields.flatMap Option.toList))) =
      upTo n (Json.depthFields (fields.flatMap Option.toList)) c) :
    decodeWith kind (n + 1) (ofJson (tagged name fields)) =
      upTo (n + 1) (tagged name fields).depth c := by
  have hopen := upTo_bind n (Json.depthFields (fields.flatMap Option.toList)) _
    (found, Reading.object (ofFields (fields.flatMap Option.toList)))
    (fun p => decodeKind (Decoder.list (decodeWith Kind.decodeStored) n) n p.1 p.2) c hfields
  rw [decodeWith_succ, parts_tagged n hkind hkeys, hopen, Nat.max_self, depth_tagged,
    upTo_succ_succ]

end Store

/-- A kind that is written as a name is read as a name. -/
def ReadsNames (kind : Reading → Decoded Kind) : Prop :=
  ∀ name, kind (.string name) = variantOf Kind.variants name

theorem Kind.decode_readsNames : ReadsNames Kind.decode := fun _ => rfl

theorem Kind.decodeStored_readsNames : ReadsNames Kind.decodeStored := fun _ => rfl

theorem keys_button (b : Button) : ∀ f ∈ b.fields.flatMap Option.toList, f.1 ≠ "type" := by
  intro f hf
  simp only [Button.fields, Json.field, Json.optionField, List.flatMap_cons, List.flatMap_nil,
    List.mem_append, Option.mem_toList, Option.some.injEq, Option.map_eq_some_iff,
    List.not_mem_nil, or_false] at hf
  rcases hf with rfl | ⟨_, -, rfl⟩ | ⟨_, -, rfl⟩ | ⟨_, -, rfl⟩ | rfl <;> simp

theorem keys_selectMenu (m : SelectMenu) :
    ∀ f ∈ m.fields.flatMap Option.toList, f.1 ≠ "type" := by
  intro f hf
  simp only [SelectMenu.fields, Json.field, Json.optionField, List.flatMap_cons, List.flatMap_nil,
    List.mem_append, Option.mem_toList, Option.some.injEq, Option.map_eq_some_iff,
    List.not_mem_nil, or_false] at hf
  rcases hf with rfl | rfl | ⟨_, -, rfl⟩ | rfl | rfl <;> simp

theorem decodeKind_row {n : Nat} {kind : Reading → Decoded Kind}
    (h : InvertsAt n (Decoder.list (decodeWith kind)) fun cs => .array (cs.map encode))
    (cs : List Component) :
    decodeKind (Decoder.list (decodeWith kind) n) n .row
        (.object (ofFields [("components", .array (encodeList cs))])) =
      upTo n (Json.depthFields [("components", .array (encodeList cs))]) (row cs) := by
  have hreads : Record.Reads (ActionRow.slots (Decoder.list (decodeWith kind) n)) n
      [("components", .array (cs.map encode))] ⟨none⟩ ⟨some cs⟩ :=
    .field (x := cs) h rfl rfl rfl rfl
  have hread := Record.decode_of_reads hreads rfl
  rw [ofJson] at hread
  rw [encodeList_eq, decodeKind, ActionRow.decodeWith, hread, upTo_map, upTo_map]
  rfl

/-- Components are given back, by induction on the levels that may be opened: the components in a
row stand two levels further in. -/
theorem decodeWith_invertsAt (n : Nat) : ∀ {kind : Reading → Decoded Kind}, ReadsNames kind →
    InvertsAt n (decodeWith kind) encode := by
  induction n using Nat.strongRecOn with
  | ind n ih =>
    intro kind hkind c
    cases n with
    | zero =>
      cases c with
      | row cs => rw [encode, depth_tagged]; exact (upTo_zero_succ _ _).symm
      | button b => rw [encode, depth_tagged]; exact (upTo_zero_succ _ _).symm
      | selectMenu m => rw [encode, depth_tagged]; exact (upTo_zero_succ _ _).symm
    | succ n =>
      cases c with
      | row cs =>
        have hlist : InvertsAt n (Decoder.list (decodeWith Kind.decodeStored)) fun cs =>
            .array (cs.map encode) := by
          cases n with
          | zero => exact list_invertsAt_zero _ encode
          | succ n => exact list_invertsAt_succ (ih n (by omega) Kind.decodeStored_readsNames)
        rw [encode]
        refine decodeWith_tagged (hkind "action_row") ?_ (decodeKind_row hlist cs)
        intro f hf
        rw [List.mem_singleton.1 hf]
        simp
      | button b =>
        rw [encode]
        refine decodeWith_tagged (hkind "button") (keys_button b) ?_
        rw [decodeKind, Button.decodeWith_fields, upTo_map]
      | selectMenu m =>
        rw [encode]
        refine decodeWith_tagged (hkind "select_menu") (keys_selectMenu m) ?_
        rw [decodeKind, SelectMenu.decodeFields_fields, upTo_map]

theorem invertsAt (n : Nat) : InvertsAt n decode encode :=
  decodeWith_invertsAt n Kind.decode_readsNames

mutual

theorem isExact_encode : ∀ c : Component, c.encode.IsExact
  | row cs => by
    rw [encode, tagged_eq]
    exact ⟨trivial, itemsExact_encodeList cs, trivial⟩
  | button b => by
    have hb := b.isExact_encode
    rw [Button.encode, Json.record_eq] at hb
    rw [encode, tagged_eq]
    exact ⟨trivial, hb⟩
  | selectMenu m => by
    have hm := m.isExact_encode
    rw [SelectMenu.encode, Json.record_eq] at hm
    rw [encode, tagged_eq]
    exact ⟨trivial, hm⟩

theorem itemsExact_encodeList : ∀ cs : List Component, Json.ItemsExact (encodeList cs)
  | [] => trivial
  | c :: cs => ⟨isExact_encode c, itemsExact_encodeList cs⟩

end

end Component

namespace Payload

theorem reads (n : Nat) (p : Payload) : Record.Reads (slots n) n
    ([Json.optionField "content" Json.string p.content,
      Json.listField "embeds" Embed.encode p.embeds,
      Json.listField "components" Component.encode p.components,
      Json.listField "sticker_ids" Snowflake.encode p.stickers].flatMap Option.toList)
    ⟨none, none, none, none⟩
    ⟨given p.content, presence p.embeds, presence p.components, presence p.stickers⟩ := by
  have hcontent : Record.Reads (slots n) n
      (Json.optionField "content" Json.string p.content).toList
      ⟨none, none, none, none⟩ ⟨given p.content, none, none, none⟩ :=
    .optionField (string_invertsAt n) Json.string_ne_null rfl rfl rfl (by cases p.content <;> rfl)
  have hembeds : Record.Reads (slots n) n (Json.listField "embeds" Embed.encode p.embeds).toList
      ⟨given p.content, none, none, none⟩ ⟨given p.content, presence p.embeds, none, none⟩ :=
    .listField (list_invertsAt Embed.invertsAt n) rfl rfl rfl (by cases p.embeds <;> rfl)
  have hcomponents : Record.Reads (slots n) n
      (Json.listField "components" Component.encode p.components).toList
      ⟨given p.content, presence p.embeds, none, none⟩
      ⟨given p.content, presence p.embeds, presence p.components, none⟩ :=
    .listField (list_invertsAt Component.invertsAt n) rfl rfl rfl (by cases p.components <;> rfl)
  have hstickers : Record.Reads (slots n) n
      (Json.listField "sticker_ids" Snowflake.encode p.stickers).toList
      ⟨given p.content, presence p.embeds, presence p.components, none⟩
      ⟨given p.content, presence p.embeds, presence p.components, presence p.stickers⟩ :=
    .listField (list_invertsAt Snowflake.invertsAt n) rfl rfl rfl (by cases p.stickers <;> rfl)
  exact .cons hcontent (.cons hembeds (.cons hcomponents (.cons hstickers .nil)))

theorem invertsAt (n : Nat) : InvertsAt n decode encode := by
  intro p
  rw [encode, Json.record_eq]
  cases n with
  | zero => exact (upTo_zero_succ _ p).symm
  | succ n =>
    refine Record.decode_object (fun r => rfl) (reads n p) rfl ?_
    simp only [presence_getD, given_getD]

theorem isExact_encode (p : Payload) : p.encode.IsExact := by
  apply Json.isExact_record_cons
  · exact Json.fieldExact_of_mem_optionField Json.isExact_string p.content
  apply Json.isExact_record_cons
  · exact Json.fieldExact_of_mem_listField Embed.isExact_encode p.embeds
  apply Json.isExact_record_cons
  · exact Json.fieldExact_of_mem_listField Component.isExact_encode p.components
  apply Json.isExact_record_cons
  · exact Json.fieldExact_of_mem_listField Snowflake.isExact_encode p.stickers
  exact trivial

/-- A message is read back as it was, or not at all when its document nests too deep. -/
theorem ofJson_payload_toJson (p : Payload) :
    ofJson p.toJson = if p.encode.depth ≤ 127 then .ok p else .error .malformed :=
  Decoder.document_compact invertsAt p.isExact_encode

end Payload

end ViewCompanion
