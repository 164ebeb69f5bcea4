import ViewCompanion.Declaration.Codec
import ViewCompanion.Proofs.Json.Decode
import ViewCompanion.Proofs.Name

namespace ViewCompanion

open Reading Decoder

namespace ResolvedType

theorem encodeList_eq (ts : List ResolvedType) : encodeList ts = ts.map encode := by
  induction ts with
  | nil => rfl
  | cons t ts ih => rw [encodeList, ih, List.map_cons]

theorem encode_eq (t : ResolvedType) : t.encode =
    .object ([("name", .string t.name)] ++ (Json.listField "args" encode t.args).toList) := by
  obtain ⟨name, args⟩ := t
  cases args with
  | nil => rfl
  | cons a as =>
    rw [encode, encodeList_eq]
    rfl

theorem decode_succ (n : Nat) (r : Reading) : decode (n + 1) r =
    (Record.decode (slots (Decoder.list decode n)) ⟨none, none⟩ r).map Partial.value := by
  cases n with
  | zero => rfl
  | succ n =>
    refine congrArg (fun list => (Record.decode (slots list) ⟨none, none⟩ r).map Partial.value)
      (funext fun r => ?_)
    cases r <;> rfl

theorem invertsAt (n : Nat) : InvertsAt n decode encode := by
  induction n using Nat.strongRecOn with
  | ind n ih =>
    intro t
    rw [encode_eq]
    cases n with
    | zero => exact (upTo_zero_succ _ t).symm
    | succ n =>
      -- the arguments are two levels further in
      have hargs : InvertsAt n (Decoder.list decode) fun ts => .array (ts.map encode) := by
        cases n with
        | zero => exact list_invertsAt_zero decode encode
        | succ n => exact list_invertsAt_succ (ih n (by omega))
      have hreads : Record.Reads (slots (Decoder.list decode n)) n
          ([("name", .string t.name)] ++ (Json.listField "args" encode t.args).toList)
          ⟨none, none⟩ ⟨some t.name, presence t.args⟩ :=
        .append (.single rfl rfl rfl)
          (.listField hargs rfl rfl rfl (by cases t.args <;> rfl))
      refine Record.decode_object (decode_succ n) hreads rfl ?_
      cases t
      simp only [Partial.value, presence_getD, Option.getD_some]

mutual

theorem isExact_encode : ∀ t : ResolvedType, t.encode.IsExact
  | ⟨_, []⟩ => ⟨trivial, trivial⟩
  | ⟨_, a :: as⟩ => ⟨trivial, ⟨isExact_encode a, itemsExact_encodeList as⟩, trivial⟩

theorem itemsExact_encodeList : ∀ ts : List ResolvedType, Json.ItemsExact (encodeList ts)
  | [] => trivial
  | t :: ts => ⟨isExact_encode t, itemsExact_encodeList ts⟩

end

end ResolvedType

theorem Tagged.decodeFields_pair {κ α : Type} (t : Tagged κ α) (n : Nat) {name : String} {kind : κ}
    (r : Reading) (hne : t.content ≠ t.tag) (hkind : variantOf t.kinds name = .ok kind) :
    t.decodeFields n [(some t.tag, .string name), (some t.content, r)] = t.decode kind n r := by
  have htag : t.decodeTag (.string name) = .ok kind := hkind
  rw [decodeFields, if_pos rfl, htag]
  show t.afterTag n kind [(some t.content, r)] = _
  rw [afterTag, if_neg hne, if_pos rfl]
  cases t.decode kind n r <;> rfl

namespace Argument

theorem decode_tagged {name : String} {kind : Kind} {v : Json} {a : Argument}
    (hkind : variantOf kinds name = .ok kind)
    (hcontent : ∀ n, decodeContent kind n (ofJson v) = upTo n v.depth a) (n : Nat) :
    decode n (ofJson (tagged name v)) = upTo n (tagged name v).depth a := by
  have hdepth : (tagged name v).depth = v.depth + 1 := by
    simp [tagged, Json.depth, Json.depthFields, Json.depthField]
  rw [hdepth]
  cases n with
  | zero => exact (upTo_zero_succ _ a).symm
  | succ n =>
    rw [upTo_succ_succ, ← hcontent n]
    exact form.decodeFields_pair n (ofJson v) (by decide) hkind

theorem invertsAt (n : Nat) : InvertsAt n decode encode := by
  intro a
  cases a with
  | int k =>
    refine decode_tagged rfl (fun n => ?_) n
    exact (int64_invertsAt n).map k int
  | str s =>
    refine decode_tagged rfl (fun n => ?_) n
    exact (string_invertsAt n).map s str
  | bool b =>
    refine decode_tagged rfl (fun n => ?_) n
    exact (upTo_zero n (bool b)).symm
  | type t =>
    refine decode_tagged rfl (fun n => ?_) n
    exact (ResolvedType.invertsAt n).map t type
  | other text =>
    refine decode_tagged rfl (fun n => ?_) n
    exact (string_invertsAt n).map text other

theorem isExact_encode (a : Argument) : a.encode.IsExact := by
  have tagged : ∀ {name : String} {v : Json}, v.IsExact → (tagged name v).IsExact :=
    fun hv => ⟨trivial, hv, trivial⟩
  cases a with
  | int k =>
    have hlow := k.le_toInt
    have hhigh := k.toInt_lt
    have hsize : (2 : Int) ^ 63 < UInt64.size := by decide
    exact tagged ⟨hlow, Int.lt_trans hhigh hsize⟩
  | str s => exact tagged trivial
  | bool b => exact tagged trivial
  | type t => exact tagged t.isExact_encode
  | other text => exact tagged trivial

end Argument

namespace Annotation

/-- A class that is unknown is written as well. -/
theorem class_invertsAt (n : Nat) : InvertsAt n (Decoder.option Decoder.string) fun
    | some name => .string name
    | none => .null
  | some name => (upTo_zero n (some name)).symm
  | none => (upTo_zero n none).symm

theorem reads (n : Nat) (a : Annotation) : Record.Reads (slots n) n
    ([Json.field "class" (match a.class? with
        | some name => .string name
        | none => .null),
      Json.listField "args" Argument.encode a.args].flatMap Option.toList)
    ⟨none, none⟩ ⟨some a.class?, presence a.args⟩ := by
  have hclass : Record.Reads (slots n) n
      [("class", match a.class? with
        | some name => .string name
        | none => .null)]
      ⟨none, none⟩ ⟨some a.class?, none⟩ :=
    .field (x := a.class?) (class_invertsAt n) rfl rfl rfl rfl
  have hargs : Record.Reads (slots n) n (Json.listField "args" Argument.encode a.args).toList
      ⟨some a.class?, none⟩ ⟨some a.class?, presence a.args⟩ :=
    .listField (list_invertsAt Argument.invertsAt n) rfl rfl rfl (by cases a.args <;> rfl)
  exact .cons hclass (.cons hargs .nil)

theorem invertsAt (n : Nat) : InvertsAt n decode encode := by
  intro a
  rw [encode, Json.record_eq]
  cases n with
  | zero => exact (upTo_zero_succ _ a).symm
  | succ n =>
    refine Record.decode_object (fun r => rfl) (reads n a) rfl ?_
    simp only [presence_getD, Option.getD_some]

theorem isExact_encode (a : Annotation) : a.encode.IsExact := by
  apply Json.isExact_record_cons
  · apply Json.fieldExact_of_mem_field
    cases a.class? <;> exact trivial
  apply Json.isExact_record_cons
  · exact Json.fieldExact_of_mem_listField Argument.isExact_encode a.args
  exact trivial

end Annotation

namespace Member

theorem reads (n : Nat) (m : Member) : Record.Reads (slots n) n
    ([Json.field "name" (.string m.name), Json.field "type" m.type.encode,
      Json.listField "attributes" Annotation.encode m.annotations].flatMap Option.toList)
    ⟨none, none, none⟩ ⟨some m.name, some m.type, presence m.annotations⟩ := by
  have hname : Record.Reads (slots n) n [("name", .string m.name)]
      ⟨none, none, none⟩ ⟨some m.name, none, none⟩ :=
    .field (string_invertsAt n) rfl rfl rfl rfl
  have htype : Record.Reads (slots n) n [("type", m.type.encode)]
      ⟨some m.name, none, none⟩ ⟨some m.name, some m.type, none⟩ :=
    .field (ResolvedType.invertsAt n) rfl rfl rfl rfl
  have hannotations : Record.Reads (slots n) n
      (Json.listField "attributes" Annotation.encode m.annotations).toList
      ⟨some m.name, some m.type, none⟩ ⟨some m.name, some m.type, presence m.annotations⟩ :=
    .listField (list_invertsAt Annotation.invertsAt n) rfl rfl rfl
      (by cases m.annotations <;> rfl)
  exact .cons hname (.cons htype (.cons hannotations .nil))

theorem invertsAt (n : Nat) : InvertsAt n decode encode := by
  intro m
  rw [encode, Json.record_eq]
  cases n with
  | zero => exact (upTo_zero_succ _ m).symm
  | succ n =>
    refine Record.decode_object (fun r => rfl) (reads n m) rfl ?_
    simp only [presence_getD, Option.getD_some]

theorem isExact_encode (m : Member) : m.encode.IsExact := by
  apply Json.isExact_record_cons
  · exact Json.fieldExact_of_mem_field trivial
  apply Json.isExact_record_cons
  · exact Json.fieldExact_of_mem_field m.type.isExact_encode
  apply Json.isExact_record_cons
  · exact Json.fieldExact_of_mem_listField Annotation.isExact_encode m.annotations
  exact trivial

end Member

namespace Declaration

theorem reads (n : Nat) (d : Declaration) : Record.Reads (slots n) n
    ([Json.field "namespace" (.string d.home), Json.field "name" (.string d.name),
      Json.listField "generics" Json.string d.generics,
      Json.listField "attributes" Annotation.encode d.annotations,
      Json.field "members" (.array (d.members.map Member.encode)),
      Json.listField "interfaces" ResolvedType.encode d.interfaces].flatMap Option.toList)
    ⟨none, none, none, none, none, none⟩
    ⟨some d.home, some d.name, presence d.generics, presence d.annotations, some d.members,
      presence d.interfaces⟩ := by
  have hhome : Record.Reads (slots n) n [("namespace", .string d.home)]
      ⟨none, none, none, none, none, none⟩ ⟨some d.home, none, none, none, none, none⟩ :=
    .field (string_invertsAt n) rfl rfl rfl rfl
  have hname : Record.Reads (slots n) n [("name", .string d.name)]
      ⟨some d.home, none, none, none, none, none⟩
      ⟨some d.home, some d.name, none, none, none, none⟩ :=
    .field (string_invertsAt n) rfl rfl rfl rfl
  have hgenerics : Record.Reads (slots n) n
      (Json.listField "generics" Json.string d.generics).toList
      ⟨some d.home, some d.name, none, none, none, none⟩
      ⟨some d.home, some d.name, presence d.generics, none, none, none⟩ :=
    .listField (list_invertsAt string_invertsAt n) rfl rfl rfl (by cases d.generics <;> rfl)
  have hannotations : Record.Reads (slots n) n
      (Json.listField "attributes" Annotation.encode d.annotations).toList
      ⟨some d.home, some d.name, presence d.generics, none, none, none⟩
      ⟨some d.home, some d.name, presence d.generics, presence d.annotations, none, none⟩ :=
    .listField (list_invertsAt Annotation.invertsAt n) rfl rfl rfl
      (by cases d.annotations <;> rfl)
  -- the members are written even when there are none
  have hmembers : Record.Reads (slots n) n [("members", .array (d.members.map Member.encode))]
      ⟨some d.home, some d.name, presence d.generics, presence d.annotations, none, none⟩
      ⟨some d.home, some d.name, presence d.generics, presence d.annotations, some d.members,
        none⟩ :=
    .field (x := d.members) (list_invertsAt Member.invertsAt n) rfl rfl rfl rfl
  have hinterfaces : Record.Reads (slots n) n
      (Json.listField "interfaces" ResolvedType.encode d.interfaces).toList
      ⟨some d.home, some d.name, presence d.generics, presence d.annotations, some d.members,
        none⟩
      ⟨some d.home, some d.name, presence d.generics, presence d.annotations, some d.members,
        presence d.interfaces⟩ :=
    .listField (list_invertsAt ResolvedType.invertsAt n) rfl rfl rfl
      (by cases d.interfaces <;> rfl)
  exact .cons hhome (.cons hname (.cons hgenerics (.cons hannotations (.cons hmembers
    (.cons hinterfaces .nil)))))

theorem invertsAt (n : Nat) : InvertsAt n decode encode := by
  intro d
  rw [encode, Json.record_eq]
  cases n with
  | zero => exact (upTo_zero_succ _ d).symm
  | succ n =>
    refine Record.decode_object (fun r => rfl) (reads n d) rfl ?_
    simp only [presence_getD, Option.getD_some]

theorem isExact_encode (d : Declaration) : d.encode.IsExact := by
  apply Json.isExact_record_cons
  · exact Json.fieldExact_of_mem_field trivial
  apply Json.isExact_record_cons
  · exact Json.fieldExact_of_mem_field trivial
  apply Json.isExact_record_cons
  · exact Json.fieldExact_of_mem_listField Json.isExact_string d.generics
  apply Json.isExact_record_cons
  · exact Json.fieldExact_of_mem_listField Annotation.isExact_encode d.annotations
  apply Json.isExact_record_cons
  · exact Json.fieldExact_of_mem_field (Json.itemsExact_map Member.isExact_encode d.members)
  apply Json.isExact_record_cons
  · exact Json.fieldExact_of_mem_listField ResolvedType.isExact_encode d.interfaces
  exact trivial

end Declaration

namespace Snapshot

theorem reads (n : Nat) (s : Snapshot) : Record.Reads (slots n) n
    [("declarations", .array (s.declarations.map Declaration.encode)),
      ("references", .array (s.references.toList.map Json.string))]
    ⟨none, none⟩ ⟨some s.declarations, some s.references.toList⟩ := by
  have hdeclarations : Record.Reads (slots n) n
      [("declarations", .array (s.declarations.map Declaration.encode))]
      ⟨none, none⟩ ⟨some s.declarations, none⟩ :=
    .field (x := s.declarations) (list_invertsAt Declaration.invertsAt n) rfl rfl rfl rfl
  have hreferences : Record.Reads (slots n) n
      [("references", .array (s.references.toList.map Json.string))]
      ⟨some s.declarations, none⟩ ⟨some s.declarations, some s.references.toList⟩ :=
    .field (x := s.references.toList) (list_invertsAt string_invertsAt n) rfl rfl rfl rfl
  exact hdeclarations.append hreferences

theorem invertsAt (n : Nat) : InvertsAt n decode encode := by
  intro s
  rw [encode]
  cases n with
  | zero => exact (upTo_zero_succ _ s).symm
  | succ n =>
    refine Record.decode_object (fun r => rfl) (reads n s) rfl ?_
    simp only [NameSet.ofList_toList, Option.getD_some]

theorem isExact_encode (s : Snapshot) : s.encode.IsExact :=
  ⟨Json.itemsExact_map Declaration.isExact_encode s.declarations,
    Json.itemsExact_map Json.isExact_string s.references.toList, trivial⟩

/-- A snapshot is read back as it was, or not at all when its document nests too deep. -/
theorem ofJson_toJson (s : Snapshot) :
    ofJson s.toJson = if s.encode.depth ≤ 127 then .ok s else .error .malformed :=
  Decoder.document_pretty invertsAt s.isExact_encode

end Snapshot

end ViewCompanion
