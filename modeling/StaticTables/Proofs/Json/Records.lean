import Mathlib
import StaticTables.Json.Exchange
import StaticTables.Proofs.Json.Reading
import StaticTables.Proofs.Table.Grouping

/-!
# Written values of the library

Identities, settings and declarations are read back from their texts. A record is described by its
fields, in order: each has a name, the form in which it is written and the forms that stand for it.
What holds of every record follows from the description alone; each record only has to say that
its writer and its reader keep to it.
-/
namespace StaticTables.Exchange

variable {α β : Type}

/-- Every value is read back from the form in which it is written. -/
class LawfulExchange (α : Type) [Exchange α] : Prop where
  decode_encode : ∀ a : α, decode (encode a) = some a
  wellFormed : ∀ a : α, (encode a).WellFormed

/-- Every value is read back from its text, so that reading, writing and reading again gives what
was read first, or nothing if nothing was read. -/
structure RoundTrips (α : Type) [Exchange α] : Prop where
  read_write : ∀ a : α, read (write a) = some a
  read_write_read : ∀ text, (read text >>= fun a : α => read (write a)) = (read text : Option α)

theorem roundTrips (α : Type) [Exchange α] [LawfulExchange α] : RoundTrips α := by
  have hread : ∀ a : α, read (write a) = some a := by
    intro a
    rw [read, write, (LawfulExchange.wellFormed a).parse_render]
    exact LawfulExchange.decode_encode a
  refine ⟨hread, ?_⟩
  intro text
  simp only [hread, Option.bind_eq_bind, Option.bind_fun_some]

theorem read_eq_some_iff [Exchange α] {text : String} {a : α} :
    read text = some a ↔ ∃ v, Json.parse text = some v ∧ decode v = some a :=
  Option.bind_eq_some_iff

/-! ## Values of one piece -/

theorem wellFormed_ofNat (n : Nat) : (Json.ofNat n).WellFormed :=
  .number ⟨[], [], .missing, .missing, rfl⟩

instance : LawfulExchange TableId where
  decode_encode t := by
    simp [encode, decode, TableId.ofNat?, t.value_lt]
  wellFormed t := wellFormed_ofNat t.value

instance : LawfulExchange RowId where
  decode_encode r := by
    simp [encode, decode]
  wellFormed r := wellFormed_ofNat r.index

instance : LawfulExchange Bool where
  decode_encode _ := rfl
  wellFormed b := .bool b

instance : LawfulExchange String where
  decode_encode := Json.text?_text
  wellFormed s := .string (some s)

/-! ## Names -/

/-- A value is read from both spellings of its name, and from nothing else. -/
def ReadsNames (α : Type) [Exchange α] (name : α → String) : Prop :=
  ∀ text a, read text = some a ↔
    Json.parse text = some (.text (name a)) ∨
      Json.parse text = some (.ofMembers [(name a, .null)])

/-- The type is exchanged by the names of its values, which are these and no others. -/
structure IsNamed (α : Type) [Exchange α] (values : List α) (name : α → String) : Prop where
  complete : ∀ a, a ∈ values
  nodup : (values.map name).Nodup
  encode_eq : ∀ a, encode a = .text (name a)
  decode_eq : ∀ v, (decode v : Option α) = named values name v

theorem settingName_eq_some_iff {v : Json} {s : String} :
    settingName v = some s ↔ v = .text s ∨ v = .ofMembers [(s, .null)] := by
  constructor
  · intro h
    unfold settingName at h
    split at h
    next => exact .inl (by rw [h, Json.text])
    next => exact .inr (by rw [h]; rfl)
    next => contradiction
  · rintro (rfl | rfl)
    · rfl
    · rfl

namespace IsNamed

variable [Exchange α] {values : List α} {name : α → String}

theorem decode_eq_some_iff (h : IsNamed α values name) {v : Json} {a : α} :
    decode v = some a ↔ v = .text (name a) ∨ v = .ofMembers [(name a, .null)] := by
  rw [h.decode_eq, named, ← settingName_eq_some_iff, Option.bind_eq_bind,
    Option.bind_eq_some_iff]
  constructor
  · rintro ⟨s, hs, hfound⟩
    have hname : name a = s := by simpa using List.find?_some hfound
    rw [hs, hname]
  · intro hs
    exact ⟨name a, hs, find?_of_nodup_map h.nodup (h.complete a)⟩

theorem lawful (h : IsNamed α values name) : LawfulExchange α where
  decode_encode a := h.decode_eq_some_iff.mpr (.inl (h.encode_eq a))
  wellFormed a := by
    rw [h.encode_eq]
    exact .string _

theorem readsNames (h : IsNamed α values name) : ReadsNames α name := by
  intro text a
  simp only [read_eq_some_iff, h.decode_eq_some_iff]
  constructor
  · rintro ⟨v, hparse, rfl | rfl⟩
    · exact .inl hparse
    · exact .inr hparse
  · rintro (hparse | hparse)
    · exact ⟨_, hparse, .inl rfl⟩
    · exact ⟨_, hparse, .inr rfl⟩

end IsNamed

theorem isNamed_validation : IsNamed Validation [.strict, .trusted] Validation.name where
  complete a := by cases a <;> decide
  nodup := by decide
  encode_eq _ := rfl
  decode_eq _ := rfl

theorem isNamed_cardinality : IsNamed Cardinality [.oneToOne, .manyToOne] Cardinality.name where
  complete a := by cases a <;> decide
  nodup := by decide
  encode_eq _ := rfl
  decode_eq _ := rfl

theorem isNamed_optionality : IsNamed Optionality [.required, .optional] Optionality.name where
  complete a := by cases a <;> decide
  nodup := by decide
  encode_eq _ := rfl
  decode_eq _ := rfl

instance : LawfulExchange Validation := isNamed_validation.lawful

instance : LawfulExchange Cardinality := isNamed_cardinality.lawful

instance : LawfulExchange Optionality := isNamed_optionality.lawful

/-! ## Fields -/

/-- A field of a record. -/
structure Field (α : Type) where
  name : String
  /-- The form in which the field is written. -/
  form : α → Json
  /-- The forms that stand for the field. -/
  Stands : α → Json → Prop
  stands_form : ∀ a, Stands a (form a)
  wellFormed : ∀ a, (form a).WellFormed

/-- The field that holds a value of another type. -/
def Field.of [Exchange β] [LawfulExchange β] (name : String) (get : α → β) : Field α where
  name := name
  form a := encode (get a)
  Stands a v := decode v = some (get a)
  stands_form a := LawfulExchange.decode_encode (get a)
  wellFormed a := LawfulExchange.wellFormed (get a)

theorem stands_of_iff [Exchange β] [LawfulExchange β] {name : String} {get : α → β} {a : α}
    {v : Json} : (Field.of name get).Stands a v ↔ decode v = some (get a) :=
  Iff.rfl

/-- The names of the fields. -/
def names (l : List (Field α)) : List String := l.map Field.name

/-- The forms stand for the fields of the record, one each and in order. -/
def Stand (l : List (Field α)) (a : α) (forms : List Json) : Prop :=
  List.Forall₂ (fun field v => field.Stands a v) l forms

/-- The members stand for the fields of the record, in any order and among members with other
names. -/
def HasFields (l : List (Field α)) (a : α) (members : List (String × Json)) : Prop :=
  ∃ forms others, Stand l a forms ∧ (∀ m ∈ others, m.1 ∉ names l) ∧
    members.Perm ((names l).zip forms ++ others)

/-- The record is written as the object of its fields, and is read from the objects that have them
and the arrays of them: a field that is missing or comes twice is turned away. -/
structure ReadsRecords (α : Type) [Exchange α] (l : List (Field α)) : Prop where
  parse_write : ∀ a : α,
    Json.parse (write a) = some (.ofMembers (l.map fun field => (field.name, field.form a)))
  read_iff : ∀ text (a : α), read text = some a ↔
    (∃ members, Json.parse text = some (.ofMembers members) ∧ HasFields l a members) ∨
      ∃ forms, Json.parse text = some (.array forms) ∧ Stand l a forms

theorem wellFormed_ofMembers {members : List (String × Json)} (h : ∀ m ∈ members, m.2.WellFormed) :
    (Json.ofMembers members).WellFormed := by
  apply Json.WellFormed.object
  intro m hm
  obtain ⟨m', hm', rfl⟩ := List.mem_map.mp hm
  exact h m' hm'

theorem mapM_eq_some_iff {γ : Type} {f : β → Option γ} {l : List β} {l' : List γ} :
    l.mapM f = some l' ↔ List.Forall₂ (fun b c => f b = some c) l l' := by
  induction l generalizing l' with
  | nil => simp [eq_comm]
  | cons b l ih =>
    simp only [List.mapM_cons, List.forall₂_cons_left_iff, Option.bind_eq_bind,
      Option.bind_eq_some_iff, Option.pure_def, Option.some.injEq, ih]
    constructor
    · rintro ⟨c, hc, rest, hrest, rfl⟩
      exact ⟨c, rest, hc, hrest, rfl⟩
    · rintro ⟨c, rest, hc, hrest, rfl⟩
      exact ⟨c, hc, rest, hrest, rfl⟩

theorem namedMembers_eq_some_iff {l : List (Json.Literal × Json)} {members : List (String × Json)} :
    namedMembers l = some members ↔ l = members.map fun m => (some m.1, m.2) := by
  rw [namedMembers, mapM_eq_some_iff]
  constructor
  · intro h
    induction h with
    | nil => rfl
    | cons hhead _ ih =>
      rw [Option.map_eq_some_iff] at hhead
      obtain ⟨name, hname, rfl⟩ := hhead
      rw [List.map_cons, ← ih, ← hname]
  · rintro rfl
    rw [List.forall₂_map_left_iff, List.forall₂_same]
    intro m _
    rfl

theorem onlyMember_eq_some_iff {members : List (String × Json)} {name : String} {v : Json} :
    onlyMember members name = some v ↔ members.filter (fun m => m.1 = name) = [(name, v)] := by
  rw [onlyMember]
  constructor
  · intro h
    split at h
    next m hfilter =>
      have hm : m ∈ members.filter fun m => m.1 = name := by simp [hfilter]
      have hname : m.1 = name := by simpa using (List.mem_filter.mp hm).2
      cases h
      rw [hfilter, ← hname]
    next => contradiction
  · intro h
    rw [h]

/-- The members with other names do not count, and no two of the others have one name, so each
name finds its own. -/
theorem onlyMember_of_perm {members pairs others : List (String × Json)}
    (hnodup : (pairs.map Prod.fst).Nodup) (hothers : ∀ m ∈ others, m.1 ∉ pairs.map Prod.fst)
    (hperm : members.Perm (pairs ++ others)) {m : String × Json} (hm : m ∈ pairs) :
    onlyMember members m.1 = some m.2 := by
  have hnone : others.filter (fun m' => m'.1 = m.1) = [] := by
    rw [List.filter_eq_nil_iff]
    intro m' hm' heq
    have hname : m'.1 = m.1 := by simpa using heq
    exact hothers m' hm' (List.mem_map.mpr ⟨m, hm, hname.symm⟩)
  have hfilter := hperm.filter (fun m' => m'.1 = m.1)
  rw [List.filter_append, filter_of_nodup_map hnodup hm, hnone, List.append_nil,
    List.perm_singleton] at hfilter
  rw [onlyMember, hfilter]

/-- Where each name has one member, these members are all that have one of the names. -/
theorem filter_perm_of_onlyMember {members : List (String × Json)} {ns : List String}
    {forms : List Json} (hnodup : ns.Nodup)
    (h : List.Forall₂ (fun name v => onlyMember members name = some v) ns forms) :
    (members.filter fun m => m.1 ∈ ns).Perm (ns.zip forms) := by
  have hgroups : (ns.flatMap fun name => members.filter fun m => some m.1 = some name) =
      ns.zip forms := by
    clear hnodup
    induction h with
    | nil => rfl
    | cons hhead _ ih =>
      have hgroup := onlyMember_eq_some_iff.mp hhead
      simp only [Option.some.injEq] at ih ⊢
      rw [List.flatMap_cons, List.zip_cons_cons, hgroup, ih, List.singleton_append]
  have hperm := flatMap_filter_perm members (fun m => some m.1) hnodup
  rw [hgroups] at hperm
  simpa using hperm.symm

theorem mapM_onlyMember_iff {members : List (String × Json)} {ns : List String}
    {forms : List Json} (hnodup : ns.Nodup) :
    ns.mapM (onlyMember members) = some forms ↔
      ns.length = forms.length ∧
        ∃ others, (∀ m ∈ others, m.1 ∉ ns) ∧ members.Perm (ns.zip forms ++ others) := by
  rw [mapM_eq_some_iff]
  constructor
  · intro h
    refine ⟨h.length_eq, members.filter fun m => !decide (m.1 ∈ ns), by simp, ?_⟩
    have hsplit := List.filter_append_perm (fun m => decide (m.1 ∈ ns)) members
    exact hsplit.symm.trans ((filter_perm_of_onlyMember hnodup h).append_right _)
  · rintro ⟨hlength, others, hothers, hperm⟩
    have hnames : (ns.zip forms).map Prod.fst = ns := List.map_fst_zip (Nat.le_of_eq hlength)
    rw [List.forall₂_iff_zip]
    refine ⟨hlength, ?_⟩
    intro name form hm
    rw [← hnames] at hnodup hothers
    exact onlyMember_of_perm hnodup hothers hperm hm

theorem stand_cons_iff {field : Field α} {l : List (Field α)} {a : α} {forms : List Json} :
    Stand (field :: l) a forms ↔
      ∃ v rest, forms = v :: rest ∧ field.Stands a v ∧ Stand l a rest := by
  simp only [Stand, List.forall₂_cons_left_iff]
  constructor
  · rintro ⟨v, rest, hv, hrest, heq⟩
    exact ⟨v, rest, heq, hv, hrest⟩
  · rintro ⟨v, rest, heq, hv, hrest⟩
    exact ⟨v, rest, hv, hrest, heq⟩

theorem stand_nil_iff {a : α} {forms : List Json} : Stand [] a forms ↔ forms = [] :=
  List.forall₂_nil_left_iff

theorem Stand.length_eq {l : List (Field α)} {a : α} {forms : List Json} (h : Stand l a forms) :
    (names l).length = forms.length := by
  rw [names, List.length_map]
  exact List.Forall₂.length_eq h

theorem stand_form (l : List (Field α)) (a : α) : Stand l a (l.map fun field => field.form a) := by
  rw [Stand, List.forall₂_map_right_iff, List.forall₂_same]
  intro field _
  exact field.stands_form a

/-- The object that is written has the fields, and no other members. -/
theorem hasFields_form (l : List (Field α)) (a : α) :
    HasFields l a (l.map fun field => (field.name, field.form a)) := by
  refine ⟨l.map fun field => field.form a, [], stand_form l a, by simp, ?_⟩
  rw [names, List.zip_map', List.append_nil]

/-- The fields can be taken from the objects that have them and from the arrays of them. -/
theorem exists_fields_iff {l : List (Field α)} (hnodup : (names l).Nodup) {v : Json} {a : α} :
    (∃ forms, fields (names l) v = some forms ∧ Stand l a forms) ↔
      (∃ members, v = .ofMembers members ∧ HasFields l a members) ∨
        ∃ forms, v = .array forms ∧ Stand l a forms := by
  constructor
  · rintro ⟨forms, hforms, hstand⟩
    unfold fields at hforms
    split at hforms
    next members =>
      simp only [Option.bind_eq_bind, Option.bind_eq_some_iff, namedMembers_eq_some_iff,
        mapM_onlyMember_iff hnodup] at hforms
      obtain ⟨members, rfl, -, others, hothers, hperm⟩ := hforms
      exact .inl ⟨members, rfl, forms, others, hstand, hothers, hperm⟩
    next items =>
      split at hforms
      · cases hforms
        exact .inr ⟨_, rfl, hstand⟩
      · contradiction
    next => contradiction
  · rintro (⟨members, rfl, forms, others, hstand, hothers, hperm⟩ | ⟨forms, rfl, hstand⟩)
    · refine ⟨forms, ?_, hstand⟩
      have hfound := (mapM_onlyMember_iff hnodup).mpr ⟨hstand.length_eq, others, hothers, hperm⟩
      rw [Json.ofMembers, fields, namedMembers_eq_some_iff.mpr rfl]
      exact hfound
    · exact ⟨forms, if_pos hstand.length_eq.symm, hstand⟩

/-! ## Records -/

/-- The type is exchanged as the record of these fields: written as the object that has them, and
put together from whatever stands for them. -/
structure IsRecord (α : Type) [Exchange α] (l : List (Field α)) : Prop where
  nodup : (names l).Nodup
  encode_eq : ∀ a : α, encode a = .ofMembers (l.map fun field => (field.name, field.form a))
  decode_eq : ∃ build : List Json → Option α, (∀ v, decode v = fields (names l) v >>= build) ∧
    ∀ forms a, build forms = some a ↔ Stand l a forms

namespace IsRecord

variable [Exchange α] {l : List (Field α)}

theorem decode_eq_some_iff (h : IsRecord α l) {v : Json} {a : α} :
    decode v = some a ↔ (∃ members, v = .ofMembers members ∧ HasFields l a members) ∨
      ∃ forms, v = .array forms ∧ Stand l a forms := by
  obtain ⟨build, hdecode, hbuild⟩ := h.decode_eq
  rw [← exists_fields_iff h.nodup, hdecode, Option.bind_eq_bind, Option.bind_eq_some_iff]
  simp only [hbuild]

theorem lawful (h : IsRecord α l) : LawfulExchange α where
  decode_encode a := by
    rw [h.decode_eq_some_iff]
    exact .inl ⟨_, h.encode_eq a, hasFields_form l a⟩
  wellFormed a := by
    rw [h.encode_eq]
    apply wellFormed_ofMembers
    intro m hm
    obtain ⟨field, -, rfl⟩ := List.mem_map.mp hm
    exact field.wellFormed a

theorem readsRecords (h : IsRecord α l) : ReadsRecords α l where
  parse_write a := by
    rw [write, (h.lawful.wellFormed a).parse_render, h.encode_eq]
  read_iff text a := by
    simp only [read_eq_some_iff, h.decode_eq_some_iff]
    constructor
    · rintro ⟨v, hparse, ⟨members, rfl, hfields⟩ | ⟨forms, rfl, hstand⟩⟩
      · exact .inl ⟨members, hparse, hfields⟩
      · exact .inr ⟨forms, hparse, hstand⟩
    · rintro (⟨members, hparse, hfields⟩ | ⟨forms, hparse, hstand⟩)
      · exact ⟨_, hparse, .inl ⟨members, rfl, hfields⟩⟩
      · exact ⟨_, hparse, .inr ⟨forms, rfl, hstand⟩⟩

end IsRecord

/-- The fields of a row address. -/
def rowAddrFields : List (Field RowAddr) := [.of "table" RowAddr.table, .of "row" RowAddr.row]

/-- The only field of a reference. -/
def refFields (α : Type) : List (Field (Ref α)) := [.of "row" Ref.row]

/-- The fields of the settings. -/
def settingsFields : List (Field Settings) :=
  [.of "validation" Settings.validation, .of "eager_indexes" Settings.eager]

/-- The fields of a declaration. -/
def declarationFields : List (Field Declaration) :=
  [.of "name" Declaration.name, .of "cardinality" Declaration.cardinality,
    .of "optionality" Declaration.optionality]

theorem isRecord_rowAddr : IsRecord RowAddr rowAddrFields where
  nodup := by decide
  encode_eq _ := rfl
  decode_eq := by
    refine ⟨_, fun _ => rfl, ?_⟩
    rintro forms ⟨table, row⟩
    simp only [rowAddrFields, stand_cons_iff, stand_nil_iff, stands_of_iff]
    split
    next => simp [Option.bind_eq_some_iff, and_assoc]
    -- fields that are one too few or too many do not stand for the record
    next hother =>
      simp only [reduceCtorEq, false_iff]
      rintro ⟨_, _, rfl, -, _, _, rfl, -, rfl⟩
      exact hother _ _ rfl

theorem isRecord_ref (α : Type) : IsRecord (Ref α) (refFields α) where
  nodup := List.nodup_singleton _
  encode_eq _ := rfl
  decode_eq := by
    refine ⟨_, fun _ => rfl, ?_⟩
    rintro forms ⟨row⟩
    simp only [refFields, stand_cons_iff, stand_nil_iff, stands_of_iff]
    split
    next => simp [Option.bind_eq_some_iff]
    next hother =>
      simp only [reduceCtorEq, false_iff]
      rintro ⟨_, _, rfl, -, rfl⟩
      exact hother _ rfl

theorem isRecord_settings : IsRecord Settings settingsFields where
  nodup := by decide
  encode_eq _ := rfl
  decode_eq := by
    refine ⟨_, fun _ => rfl, ?_⟩
    rintro forms ⟨validation, eager⟩
    simp only [settingsFields, stand_cons_iff, stand_nil_iff, stands_of_iff]
    split
    next => simp [Option.bind_eq_some_iff, and_assoc]
    next hother =>
      simp only [reduceCtorEq, false_iff]
      rintro ⟨_, _, rfl, -, _, _, rfl, -, rfl⟩
      exact hother _ _ rfl

theorem isRecord_declaration : IsRecord Declaration declarationFields where
  nodup := by decide
  encode_eq _ := rfl
  decode_eq := by
    refine ⟨_, fun _ => rfl, ?_⟩
    rintro forms ⟨name, cardinality, optionality⟩
    simp only [declarationFields, stand_cons_iff, stand_nil_iff, stands_of_iff]
    split
    next => simp [Option.bind_eq_some_iff, and_assoc]
    next hother =>
      simp only [reduceCtorEq, false_iff]
      rintro ⟨_, _, rfl, -, _, _, rfl, -, _, _, rfl, -, rfl⟩
      exact hother _ _ _ rfl

instance : LawfulExchange RowAddr := isRecord_rowAddr.lawful

instance : LawfulExchange (Ref α) := (isRecord_ref α).lawful

instance : LawfulExchange Settings := isRecord_settings.lawful

instance : LawfulExchange Declaration := isRecord_declaration.lawful

/-- Every value that the library exchanges survives its text, whatever characters stand in its
names. What is exchanged by name is read from both spellings, and a record from the objects that
have each field once, in any order and among others, and the arrays of its fields; from other texts
neither is read. The compact text of every JSON value holds that value, so every such form has a
text to be read from. -/
theorem values_survive_text :
    (∀ v : Json, v.WellFormed → Json.parse v.render = some v) ∧
    (RoundTrips TableId ∧ RoundTrips RowId ∧ RoundTrips RowAddr ∧ (∀ α, RoundTrips (Ref α)) ∧
      RoundTrips Validation ∧ RoundTrips Settings ∧ RoundTrips Cardinality ∧
      RoundTrips Optionality ∧ RoundTrips Declaration) ∧
    (ReadsNames Validation Validation.name ∧ ReadsNames Cardinality Cardinality.name ∧
      ReadsNames Optionality Optionality.name) ∧
    (ReadsRecords RowAddr rowAddrFields ∧ (∀ α, ReadsRecords (Ref α) (refFields α)) ∧
      ReadsRecords Settings settingsFields ∧ ReadsRecords Declaration declarationFields) := by
  refine ⟨fun _ h => h.parse_render, ?_, ?_, ?_⟩
  · exact ⟨roundTrips _, roundTrips _, roundTrips _, fun α => roundTrips (Ref α), roundTrips _,
      roundTrips _, roundTrips _, roundTrips _, roundTrips _⟩
  · exact ⟨isNamed_validation.readsNames, isNamed_cardinality.readsNames,
      isNamed_optionality.readsNames⟩
  · exact ⟨isRecord_rowAddr.readsRecords, fun α => (isRecord_ref α).readsRecords,
      isRecord_settings.readsRecords, isRecord_declaration.readsRecords⟩

/-- A declaration whose name holds a quote and a control character. -/
def looseDeclaration : Declaration :=
  { name := "a\x01\"b", cardinality := .oneToOne, optionality := .optional }

/-- Forms that stand for its fields; one is the other spelling of a name. -/
def looseForms : List Json :=
  [.text "a\x01\"b", .ofMembers [("OneToOne", .null)], .text "Optional"]

/-- The fields out of order, next to a member whose value denotes no text. -/
def looseMembers : List (String × Json) :=
  [("optionality", .text "Optional"), ("na\"me", .string none), ("name", .text "a\x01\"b"),
    ("cardinality", .ofMembers [("OneToOne", .null)])]

theorem values_survive_text_looseDeclaration :
    read (Json.ofMembers looseMembers).render = some looseDeclaration ∧
      read (Json.array looseForms).render = some looseDeclaration := by
  obtain ⟨hrender, -, -, -, -, -, hdeclaration⟩ := values_survive_text
  have hstand : Stand declarationFields looseDeclaration looseForms := by
    simp only [declarationFields, stand_cons_iff, stand_nil_iff, stands_of_iff]
    exact ⟨_, _, rfl, rfl, _, _, rfl, rfl, _, _, rfl, rfl, rfl⟩
  have hforms : ∀ v ∈ looseForms, v.WellFormed := by
    simp only [looseForms, List.forall_mem_cons]
    exact ⟨.string _, .object (by simpa using .null), .string _, by simp⟩
  have hmembers : ∀ m ∈ looseMembers, m.2.WellFormed := by
    simp only [looseMembers, List.forall_mem_cons]
    exact ⟨.string _, .string _, .string _, .object (by simpa using .null), by simp⟩
  constructor
  · have hfields : HasFields declarationFields looseDeclaration looseMembers := by
      refine ⟨looseForms, [("na\"me", .string none)], hstand, by decide, ?_⟩
      exact (List.perm_append_comm : (looseMembers.take 2 ++ looseMembers.drop 2).Perm _)
    have hparse := hrender _ (wellFormed_ofMembers hmembers)
    exact (hdeclaration.read_iff _ _).mpr (.inl ⟨_, hparse, hfields⟩)
  · have hparse := hrender _ (.array hforms)
    exact (hdeclaration.read_iff _ _).mpr (.inr ⟨_, hparse, hstand⟩)

end StaticTables.Exchange
