import ViewCompanion.Proofs.Json.Scalar

namespace ViewCompanion

namespace Reading

mutual

/-- What the reader meets in a text of a value. -/
def ofJson : Json → Reading
  | .null => null
  | .bool b => bool b
  | .number n => integer n
  | .string s => string s
  | .array items => array (ofItems items)
  | .object fields => object (ofFields fields)

def ofItems : List Json → List Reading
  | [] => []
  | v :: vs => ofJson v :: ofItems vs

def ofField : String × Json → Option String × Reading
  | (k, v) => (some k, ofJson v)

def ofFields : List (String × Json) → List (Option String × Reading)
  | [] => []
  | f :: fs => ofField f :: ofFields fs

end

def Blanks (s : List Char) : Prop :=
  ∀ c ∈ s, isBlank c = true

theorem Blanks.nil : Blanks [] :=
  nofun

theorem Blanks.space : Blanks [' '] := by
  intro c hc
  rw [List.mem_singleton.1 hc]
  rfl

theorem skipBlanks_append {b : List Char} (hb : Blanks b) (s : List Char) :
    skipBlanks (b ++ s) = skipBlanks s :=
  List.dropWhile_append_of_pos hb

theorem skipBlanks_cons {c : Char} (hc : isBlank c = false) (s : List Char) :
    skipBlanks (c :: s) = c :: s := by
  rw [skipBlanks, List.dropWhile_cons, hc]
  rfl

/-- The blanks before a mark, in a text that goes on after its part. -/
theorem skipBlanks_mark {b : List Char} (hb : Blanks b) {c : Char} (hc : isBlank c = false)
    (s rest : List Char) : skipBlanks (b ++ c :: s ++ rest) = c :: (s ++ rest) := by
  rw [List.append_assoc, skipBlanks_append hb, List.cons_append, skipBlanks_cons hc]

end Reading

namespace Json

open Reading

mutual

/-- The text stands for the value, with blanks anywhere between its parts. -/
inductive Written : Json → List Char → Prop
  | null : Written .null ['n', 'u', 'l', 'l']
  | true : Written (.bool .true) ['t', 'r', 'u', 'e']
  | false : Written (.bool .false) ['f', 'a', 'l', 's', 'e']
  | number {n : Int} : IsExact n → Written (.number n) (numberText n)
  | string (s : String) : Written (.string s) (stringText s)
  | emptyArray {b : List Char} : Blanks b → Written (.array []) ('[' :: (b ++ [']']))
  | array {b s t : List Char} {v : Json} {vs : List Json} : Blanks b → Written v s →
      WrittenItems vs t → Written (.array (v :: vs)) ('[' :: (b ++ (s ++ t)))
  | emptyObject {b : List Char} : Blanks b → Written (.object []) ('\x7b' :: (b ++ ['\x7d']))
  | object {b s t : List Char} {f : String × Json} {fs : List (String × Json)} : Blanks b →
      WrittenField f s → WrittenFields fs t →
      Written (.object (f :: fs)) ('\x7b' :: (b ++ (s ++ t)))

/-- Items after the first one, up to the closing bracket. -/
inductive WrittenItems : List Json → List Char → Prop
  | last {b : List Char} : Blanks b → WrittenItems [] (b ++ [']'])
  | more {b b' s t : List Char} {v : Json} {vs : List Json} : Blanks b → Blanks b' →
      Written v s → WrittenItems vs t → WrittenItems (v :: vs) (b ++ ',' :: (b' ++ (s ++ t)))

inductive WrittenField : String × Json → List Char → Prop
  | mk {b b' s : List Char} {k : String} {v : Json} : Blanks b → Blanks b' → Written v s →
      WrittenField (k, v) (stringText k ++ (b ++ ':' :: (b' ++ s)))

/-- Fields after the first one, up to the closing brace. -/
inductive WrittenFields : List (String × Json) → List Char → Prop
  | last {b : List Char} : Blanks b → WrittenFields [] (b ++ ['\x7d'])
  | more {b b' s t : List Char} {f : String × Json} {fs : List (String × Json)} : Blanks b →
      Blanks b' → WrittenField f s → WrittenFields fs t →
      WrittenFields (f :: fs) (b ++ ',' :: (b' ++ (s ++ t)))

end

mutual

/-- All numbers in the value are such that a reader keeps them. -/
def IsExact : Json → Prop
  | number n => Reading.IsExact n
  | array items => ItemsExact items
  | object fields => FieldsExact fields
  | _ => True

def ItemsExact : List Json → Prop
  | [] => True
  | v :: vs => IsExact v ∧ ItemsExact vs

def FieldExact : String × Json → Prop
  | (_, v) => IsExact v

def FieldsExact : List (String × Json) → Prop
  | [] => True
  | f :: fs => FieldExact f ∧ FieldsExact fs

end

theorem isExact_string (s : String) : (string s).IsExact :=
  trivial

theorem isExact_number {n : Nat} (h : n < UInt64.size) : (number n).IsExact :=
  ⟨Int.le_trans (by decide) (Int.natCast_nonneg n), Int.ofNat_lt.2 h⟩

theorem itemsExact_map {α : Type} {encode : α → Json} (h : ∀ x, (encode x).IsExact)
    (xs : List α) : ItemsExact (xs.map encode) := by
  induction xs with
  | nil => exact trivial
  | cons x xs ih => exact ⟨h x, ih⟩

theorem fieldsExact_map {κ : Type} {entry : κ → String × Json} (h : ∀ key, FieldExact (entry key))
    (keys : List κ) : FieldsExact (keys.map entry) := by
  induction keys with
  | nil => exact trivial
  | cons key keys ih => exact ⟨h key, ih⟩

theorem isExact_record_cons {f : Option (String × Json)} {fields : List (Option (String × Json))}
    (hf : ∀ g ∈ f, FieldExact g) (hfields : (record fields).IsExact) :
    (record (f :: fields)).IsExact := by
  cases f with
  | none => exact hfields
  | some g => exact ⟨hf g rfl, hfields⟩

theorem fieldExact_of_mem_field {key : String} {v : Json} (hv : v.IsExact) :
    ∀ f ∈ field key v, FieldExact f := by
  intro f hf
  obtain rfl := Option.some.inj hf
  exact hv

theorem fieldExact_of_mem_listField {α : Type} {encode : α → Json} {key : String}
    (h : ∀ x, (encode x).IsExact) (items : List α) :
    ∀ f ∈ listField key encode items, FieldExact f := by
  unfold listField
  split
  · intro f hf
    cases hf
  · exact fieldExact_of_mem_field (itemsExact_map h items)

theorem fieldExact_of_mem_optionField {α : Type} {encode : α → Json} {key : String}
    (h : ∀ x, (encode x).IsExact) (value : Option α) :
    ∀ f ∈ optionField key encode value, FieldExact f := by
  cases value with
  | none => exact fun _ hf => nomatch hf
  | some x => exact fieldExact_of_mem_field (h x)

theorem blanks_newline (level : Nat) : Blanks (newline level) := by
  intro c hc
  rcases List.mem_cons.1 hc with rfl | hc
  · rfl
  · rw [List.eq_of_mem_replicate hc]
    rfl

mutual

theorem written_prettyText (level : Nat) :
    ∀ v : Json, v.IsExact → Written v (prettyText level v)
  | null, _ => .null
  | bool .true, _ => .true
  | bool .false, _ => .false
  | number _, h => .number h
  | string s, _ => .string s
  | array [], _ => .emptyArray .nil
  | array (v :: vs), ⟨hv, hvs⟩ => by
    rw [prettyText, List.cons_append, List.cons_append, List.append_assoc]
    exact .array (blanks_newline _) (written_prettyText (level + 1) v hv)
      (written_prettyItems level vs hvs)
  | object [], _ => .emptyObject .nil
  | object (f :: fs), ⟨hf, hfs⟩ => by
    rw [prettyText, List.cons_append, List.cons_append, List.append_assoc]
    exact .object (blanks_newline _) (written_prettyField level f hf)
      (written_prettyFields level fs hfs)

theorem written_prettyItems (level : Nat) :
    ∀ vs : List Json, ItemsExact vs → WrittenItems vs (prettyItems level vs)
  | [], _ => .last (blanks_newline level)
  | v :: vs, ⟨hv, hvs⟩ => by
    rw [prettyItems, List.cons_append, List.cons_append, List.append_assoc]
    exact .more .nil (blanks_newline _) (written_prettyText (level + 1) v hv)
      (written_prettyItems level vs hvs)

theorem written_prettyField (level : Nat) :
    ∀ f : String × Json, FieldExact f → WrittenField f (prettyField level f)
  | (_, v), hv => .mk .nil .space
      (written_prettyText (level + 1) v hv)

theorem written_prettyFields (level : Nat) :
    ∀ fs : List (String × Json), FieldsExact fs → WrittenFields fs (prettyFields level fs)
  | [], _ => .last (blanks_newline level)
  | f :: fs, ⟨hf, hfs⟩ => by
    rw [prettyFields, List.cons_append, List.cons_append, List.append_assoc]
    exact .more .nil (blanks_newline _) (written_prettyField level f hf)
      (written_prettyFields level fs hfs)

end

mutual

theorem written_compactText : ∀ v : Json, v.IsExact → Written v (compactText v)
  | null, _ => .null
  | bool .true, _ => .true
  | bool .false, _ => .false
  | number _, h => .number h
  | string s, _ => .string s
  | array [], _ => .emptyArray .nil
  | array (v :: vs), ⟨hv, hvs⟩ => by
    rw [compactText, List.cons_append]
    exact .array .nil (written_compactText v hv) (written_compactItems vs hvs)
  | object [], _ => .emptyObject .nil
  | object (f :: fs), ⟨hf, hfs⟩ => by
    rw [compactText, List.cons_append]
    exact .object .nil (written_compactField f hf) (written_compactFields fs hfs)

theorem written_compactItems : ∀ vs : List Json, ItemsExact vs → WrittenItems vs (compactItems vs)
  | [], _ => .last .nil
  | v :: vs, ⟨hv, hvs⟩ => by
    rw [compactItems, List.cons_append]
    exact .more .nil .nil (written_compactText v hv) (written_compactItems vs hvs)

theorem written_compactField :
    ∀ f : String × Json, FieldExact f → WrittenField f (compactField f)
  | (_, v), hv => .mk .nil .nil (written_compactText v hv)

theorem written_compactFields :
    ∀ fs : List (String × Json), FieldsExact fs → WrittenFields fs (compactFields fs)
  | [], _ => .last .nil
  | f :: fs, ⟨hf, hfs⟩ => by
    rw [compactFields, List.cons_append]
    exact .more .nil .nil (written_compactField f hf) (written_compactFields fs hfs)

end

end Json

namespace Reading

open Json

theorem beginsNumber_cases {c : Char} (h : BeginsNumber c) : isBlank c = false ∧ c ≠ ']' ∧
    c ≠ '"' ∧ c ≠ '[' ∧ c ≠ '\x7b' ∧ c ≠ 'n' ∧ c ≠ 't' ∧ c ≠ 'f' := by
  rcases h with rfl | hdigit
  · decide
  · have hblank : isBlank c = false := by
      rw [Bool.eq_false_iff]
      intro hc
      simp only [isBlank, Bool.or_eq_true, beq_iff_eq] at hc
      rcases hc with ((rfl | rfl) | rfl) | rfl <;> exact absurd hdigit (by decide)
    refine ⟨hblank, ?_, ?_, ?_, ?_, ?_, ?_, ?_⟩ <;> rintro rfl <;> exact absurd hdigit (by decide)

/-- No text of a value begins with a blank or a closing bracket. -/
theorem exists_cons_of_written {v : Json} {s : List Char} (h : Written v s) :
    ∃ c t, s = c :: t ∧ isBlank c = false ∧ c ≠ ']' := by
  cases h with
  | @number n hn =>
    obtain ⟨c, t, ht, hc⟩ := exists_cons_numberText n
    obtain ⟨hblank, hbracket, -⟩ := beginsNumber_cases hc
    exact ⟨c, t, ht, hblank, hbracket⟩
  | null => exact ⟨_, _, rfl, rfl, by decide⟩
  | _ => exact ⟨_, _, rfl, rfl, by decide⟩

theorem exists_cons_of_writtenField {f : String × Json} {s : List Char} (h : WrittenField f s) :
    ∃ t, s = '"' :: t := by
  cases h with
  | mk hb hb' hv => exact ⟨_, rfl⟩

theorem endsNumber_append {b s : List Char} (hb : Blanks b) (hs : EndsNumber s) :
    EndsNumber (b ++ s) := by
  cases b with
  | nil => exact hs
  | cons c b =>
    rintro _ ⟨⟩
    have hc : isBlank c = true := hb c List.mem_cons_self
    simp only [isBlank, Bool.or_eq_true, beq_iff_eq] at hc
    rcases hc with ((rfl | rfl) | rfl) | rfl <;> decide

theorem endsNumber_of_writtenItems {vs : List Json} {t : List Char} (h : WrittenItems vs t)
    (rest : List Char) : EndsNumber (t ++ rest) := by
  cases h with
  | last hb =>
    rw [List.append_assoc]
    exact endsNumber_append hb (by rintro _ ⟨⟩; decide)
  | more hb =>
    rw [List.append_assoc]
    exact endsNumber_append hb (by rintro _ ⟨⟩; decide)

theorem endsNumber_of_writtenFields {fs : List (String × Json)} {t : List Char}
    (h : WrittenFields fs t) (rest : List Char) : EndsNumber (t ++ rest) := by
  cases h with
  | last hb =>
    rw [List.append_assoc]
    exact endsNumber_append hb (by rintro _ ⟨⟩; decide)
  | more hb =>
    rw [List.append_assoc]
    exact endsNumber_append hb (by rintro _ ⟨⟩; decide)

theorem readValue_string {s rest : List Char} {text : String}
    (h : skipBlanks s = stringText text ++ rest) (n : Nat) :
    readValue (n + 1) s = (string text, rest) := by
  rw [stringText_append] at h
  rw [readValue, h]
  simp only [readString_stringText]

theorem readValue_number {s rest : List Char} {k : Int} (h : skipBlanks s = numberText k ++ rest)
    (hk : Reading.IsExact k) (hrest : EndsNumber rest) (n : Nat) :
    readValue (n + 1) s = (integer k, rest) := by
  obtain ⟨c, t, ht, hc⟩ := exists_cons_numberText k
  obtain ⟨-, -, hquote, hbracket, hbrace, hn, ht', hf⟩ := beginsNumber_cases hc
  have hread := readNumeral_numberText (n := k) hrest
  rw [ht, List.cons_append] at h hread
  rw [readValue, h]
  split
  case h_1 heq => cases heq
  case h_2 heq => exact absurd (List.head_eq_of_cons_eq heq) hquote
  case h_3 heq => exact absurd (List.head_eq_of_cons_eq heq) hbracket
  case h_4 heq => exact absurd (List.head_eq_of_cons_eq heq) hbrace
  case h_5 heq => exact absurd (List.head_eq_of_cons_eq heq) hn
  case h_6 heq => exact absurd (List.head_eq_of_cons_eq heq) ht'
  case h_7 heq => exact absurd (List.head_eq_of_cons_eq heq) hf
  case h_8 => simp only [hread, reading_of_isExact hk]

theorem readValue_emptyArray {s t rest : List Char} (h : skipBlanks s = '[' :: t)
    (hclose : skipBlanks t = ']' :: rest) (n : Nat) :
    readValue (n + 1) s = (array [], rest) := by
  rw [readValue, h]
  simp only [hclose]

theorem readValue_array {s t rest : List Char} {n : Nat} {items : List Reading}
    (h : skipBlanks s = '[' :: t) (hopen : ∀ u, skipBlanks t ≠ ']' :: u)
    (hitems : readItems n (skipBlanks t) = (items, rest)) :
    readValue (n + 1) s = (array items, rest) := by
  rw [readValue, h]
  -- by `hopen` it is not the branch of an empty one
  simp only [hitems]

theorem readValue_emptyObject {s t rest : List Char} (h : skipBlanks s = '\x7b' :: t)
    (hclose : skipBlanks t = '\x7d' :: rest) (n : Nat) :
    readValue (n + 1) s = (object [], rest) := by
  rw [readValue, h]
  simp only [hclose]

theorem readValue_object {s t rest : List Char} {n : Nat}
    {fields : List (Option String × Reading)}
    (h : skipBlanks s = '\x7b' :: t) (hopen : ∀ u, skipBlanks t ≠ '\x7d' :: u)
    (hfields : readFields n (skipBlanks t) = (fields, rest)) :
    readValue (n + 1) s = (object fields, rest) := by
  rw [readValue, h]
  -- by `hopen` it is not the branch of an empty one
  simp only [hfields]

/-- With this fuel every shorter text of a value is read. -/
def ReadsValues (n : Nat) : Prop :=
  ∀ ⦃v : Json⦄ ⦃s b rest : List Char⦄, Written v s → s.length < n → Blanks b → EndsNumber rest →
    readValue n (b ++ (s ++ rest)) = (ofJson v, rest)

def ReadsItems (n : Nat) : Prop :=
  ∀ ⦃v : Json⦄ ⦃vs : List Json⦄ ⦃s t b rest : List Char⦄, Written v s → WrittenItems vs t →
    s.length + t.length < n → Blanks b →
      readItems n (b ++ (s ++ (t ++ rest))) = (ofJson v :: ofItems vs, rest)

def ReadsFields (n : Nat) : Prop :=
  ∀ ⦃f : String × Json⦄ ⦃fs : List (String × Json)⦄ ⦃s t b rest : List Char⦄, WrittenField f s →
    WrittenFields fs t → s.length + t.length < n → Blanks b →
      readFields n (b ++ (s ++ (t ++ rest))) = (ofField f :: ofFields fs, rest)

theorem readsValues_succ {n : Nat} (hitems : ReadsItems n) (hfields : ReadsFields n) :
    ReadsValues (n + 1) := by
  intro v s b rest hs hlength hb hrest
  -- the text of the value is what follows the blanks
  have hskip : skipBlanks (b ++ (s ++ rest)) = s ++ rest := by
    obtain ⟨c, t, rfl, hc, -⟩ := exists_cons_of_written hs
    rw [skipBlanks_append hb, List.cons_append, skipBlanks_cons hc]
  cases hs with
  | null =>
    rw [readValue, hskip]
    rfl
  | true =>
    rw [readValue, hskip]
    rfl
  | false =>
    rw [readValue, hskip]
    rfl
  | number hk => exact readValue_number hskip hk hrest n
  | string text => exact readValue_string hskip n
  | emptyArray hb' => exact readValue_emptyArray hskip (skipBlanks_mark hb' rfl [] rest) n
  | @array b' s t v vs hb' hv hvs =>
    obtain ⟨c, s', hs', hc, hbracket⟩ := exists_cons_of_written hv
    have hinside : skipBlanks (b' ++ (s ++ t) ++ rest) = s ++ (t ++ rest) := by
      rw [List.append_assoc, List.append_assoc, skipBlanks_append hb', hs', List.cons_append,
        skipBlanks_cons hc]
    have hread : readItems n (s ++ (t ++ rest)) = (ofJson v :: ofItems vs, rest) := by
      refine hitems hv hvs ?_ Blanks.nil
      simp only [List.length_cons, List.length_append] at hlength
      omega
    -- the first item does not close the array
    refine readValue_array hskip (fun u hu => ?_) (hinside.symm ▸ hread)
    have hfirst : s ++ (t ++ rest) = ']' :: u := hinside.symm.trans hu
    rw [hs', List.cons_append] at hfirst
    exact hbracket (List.head_eq_of_cons_eq hfirst)
  | emptyObject hb' => exact readValue_emptyObject hskip (skipBlanks_mark hb' rfl [] rest) n
  | @object b' s t f fs hb' hf hfs =>
    obtain ⟨s', hs'⟩ := exists_cons_of_writtenField hf
    have hinside : skipBlanks (b' ++ (s ++ t) ++ rest) = s ++ (t ++ rest) := by
      rw [List.append_assoc, List.append_assoc, skipBlanks_append hb', hs', List.cons_append,
        skipBlanks_cons rfl]
    have hread : readFields n (s ++ (t ++ rest)) = (ofField f :: ofFields fs, rest) := by
      refine hfields hf hfs ?_ Blanks.nil
      simp only [List.length_cons, List.length_append] at hlength
      omega
    -- nor does the first key close the object
    refine readValue_object hskip (fun u hu => ?_) (hinside.symm ▸ hread)
    have hfirst : s ++ (t ++ rest) = '\x7d' :: u := hinside.symm.trans hu
    rw [hs', List.cons_append] at hfirst
    exact absurd (List.head_eq_of_cons_eq hfirst) (by decide)

theorem readsItems_succ {n : Nat} (hvalues : ReadsValues n) (hitems : ReadsItems n) :
    ReadsItems (n + 1) := by
  intro v vs s t b rest hv hvs hlength hb
  cases hvs with
  | @last b' hb' =>
    simp only [List.length_append, List.length_singleton] at hlength
    have hread := hvalues hv (by omega) hb (endsNumber_of_writtenItems (.last hb') rest)
    have hclose : skipBlanks (b' ++ [']'] ++ rest) = ']' :: rest :=
      skipBlanks_mark hb' rfl [] rest
    rw [readItems, hread]
    simp only [hclose]
    rfl
  | @more b' b'' s' t' v' vs' hb' hb'' hv' hvs' =>
    simp only [List.length_append, List.length_cons] at hlength
    have hread := hvalues hv (by omega) hb
      (endsNumber_of_writtenItems (.more hb' hb'' hv' hvs') rest)
    have hcomma : skipBlanks (b' ++ ',' :: (b'' ++ (s' ++ t')) ++ rest) =
        ',' :: (b'' ++ (s' ++ (t' ++ rest))) := by
      rw [skipBlanks_mark hb' rfl, List.append_assoc, List.append_assoc]
    have hothers : readItems n (b'' ++ (s' ++ (t' ++ rest))) = (ofJson v' :: ofItems vs', rest) :=
      hitems hv' hvs' (by omega) hb''
    rw [readItems, hread]
    simp only [hcomma, hothers]
    rfl

theorem readsFields_succ {n : Nat} (hvalues : ReadsValues n) (hfields : ReadsFields n) :
    ReadsFields (n + 1) := by
  intro f fs s t b rest hf hfs hlength hb
  cases hf with
  | @mk c c' s k v hc hc' hv =>
    have hkey : skipBlanks (b ++ (stringText k ++ (c ++ ':' :: (c' ++ s)) ++ (t ++ rest))) =
        '"' :: (k.toList.flatMap escapeChar ++ '"' :: (c ++ ':' :: (c' ++ s) ++ (t ++ rest))) := by
      rw [List.append_assoc, skipBlanks_append hb, stringText_append, skipBlanks_cons rfl]
    have hcolon : skipBlanks (c ++ ':' :: (c' ++ s) ++ (t ++ rest)) =
        ':' :: (c' ++ (s ++ (t ++ rest))) := by
      rw [skipBlanks_mark hc rfl, List.append_assoc]
    simp only [List.length_append, List.length_cons] at hlength
    cases hfs with
    | @last b' hb' =>
      simp only [List.length_append, List.length_singleton] at hlength
      have hread := hvalues hv (by omega) hc' (endsNumber_of_writtenFields (.last hb') rest)
      have hclose : skipBlanks (b' ++ ['\x7d'] ++ rest) = '\x7d' :: rest :=
        skipBlanks_mark hb' rfl [] rest
      rw [readFields, hkey]
      simp only [readString_stringText, hcolon, hread, hclose]
      rfl
    | @more b' b'' s' t' f' fs' hb' hb'' hf' hfs' =>
      simp only [List.length_append, List.length_cons] at hlength
      have hread := hvalues hv (by omega) hc'
        (endsNumber_of_writtenFields (.more hb' hb'' hf' hfs') rest)
      have hcomma : skipBlanks (b' ++ ',' :: (b'' ++ (s' ++ t')) ++ rest) =
          ',' :: (b'' ++ (s' ++ (t' ++ rest))) := by
        rw [skipBlanks_mark hb' rfl, List.append_assoc, List.append_assoc]
      have hothers : readFields n (b'' ++ (s' ++ (t' ++ rest))) =
          (ofField f' :: ofFields fs', rest) :=
        hfields hf' hfs' (by omega) hb''
      rw [readFields, hkey]
      simp only [readString_stringText, hcolon, hread, hcomma, hothers]
      rfl

/-- Values, items and fields are read with enough fuel, by induction on it. -/
theorem reads (n : Nat) : ReadsValues n ∧ ReadsItems n ∧ ReadsFields n := by
  induction n with
  | zero =>
    refine ⟨?_, ?_, ?_⟩
    · exact fun v s b rest hs hlength => absurd hlength (Nat.not_lt_zero _)
    · exact fun v vs s t b rest hv hvs hlength => absurd hlength (Nat.not_lt_zero _)
    · exact fun f fs s t b rest hf hfs hlength => absurd hlength (Nat.not_lt_zero _)
  | succ n ih =>
    obtain ⟨hvalues, hitems, hfields⟩ := ih
    exact ⟨readsValues_succ hitems hfields, readsItems_succ hvalues hitems,
      readsFields_succ hvalues hfields⟩

theorem ofText_of_written {v : Json} {s : List Char} (h : Written v s) :
    ofText (String.ofList s) = (ofJson v, true) := by
  have hends : EndsNumber [] := nofun
  have hread : readValue (2 * s.length + 2) ([] ++ (s ++ [])) = (ofJson v, []) :=
    (reads _).1 h (by omega) .nil hends
  rw [List.nil_append, List.append_nil] at hread
  rw [ofText, String.toList_ofList]
  simp only [hread]
  rfl

theorem ofText_pretty {v : Json} (h : v.IsExact) : ofText v.pretty = (ofJson v, true) :=
  ofText_of_written (written_prettyText 0 v h)

theorem ofText_compact {v : Json} (h : v.IsExact) : ofText v.compact = (ofJson v, true) :=
  ofText_of_written (written_compactText v h)

end Reading

end ViewCompanion
