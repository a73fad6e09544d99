import Mathlib.Tactic

/-!
# Codecs between records and JSON values

A value of a JSON document as a streaming deserializer meets it, and the codecs that derived
serializers build over such values. A document extends another one when it has the same
values, except that its objects may have further members and have them in another order. A
codec is stable when it reads from every extension of what it writes what it has written.
-/

namespace Lib

/-- A value of a JSON document. The members of an object stand in their order, and a name may
occur more than once. A number is kept as its text unless it is a natural number of 64 bits. -/
inductive JsonValue where
  | null
  | boolean (value : Bool)
  | unsigned (value : BitVec 64)
  | number (text : String)
  | string (text : String)
  | array (values : List JsonValue)
  | object (members : List (String × JsonValue))

/-- The members of an object. -/
abbrev JsonMembers : Type := List (String × JsonValue)

/-- The values that stand under a name, in their order. -/
def JsonMembers.valuesOf (members : JsonMembers) (name : String) : List JsonValue :=
  members.filterMap fun member => if member.1 = name then some member.2 else none

namespace JsonMembers

@[simp] theorem valuesOf_nil (name : String) : valuesOf [] name = [] := rfl

theorem valuesOf_cons (member : String × JsonValue) (members : JsonMembers) (name : String) :
    valuesOf (member :: members) name =
      if member.1 = name then member.2 :: valuesOf members name else valuesOf members name := by
  by_cases hname : member.1 = name <;> simp [valuesOf, hname]

@[simp] theorem valuesOf_append (members others : JsonMembers) (name : String) :
    valuesOf (members ++ others) name = valuesOf members name ++ valuesOf others name :=
  List.filterMap_append

@[simp] theorem valuesOf_singleton_self (name : String) (v : JsonValue) :
    valuesOf [(name, v)] name = [v] := by
  simp [valuesOf]

theorem valuesOf_singleton_of_ne {name other : String} (h : other ≠ name) (v : JsonValue) :
    valuesOf [(name, v)] other = [] := by
  simp [valuesOf, h.symm]

/-- The order of the members does not matter to an object without double names. -/
theorem valuesOf_eq_of_perm {members members' : JsonMembers} (h : members.Perm members')
    (hnodup : (members.map Prod.fst).Nodup) (name : String) :
    valuesOf members name = valuesOf members' name := by
  induction h with
  | nil => rfl
  | cons member _ ih =>
    rw [List.map_cons, List.nodup_cons] at hnodup
    rw [valuesOf_cons, valuesOf_cons, ih hnodup.2]
  | swap first second members =>
    have hne : first.1 ≠ second.1 := by
      intro heq
      simp [heq] at hnodup
    by_cases hfirst : first.1 = name
    · have hsecond : second.1 ≠ name := fun heq => hne (hfirst.trans heq.symm)
      simp [valuesOf_cons, hfirst, hsecond]
    · simp [valuesOf_cons, hfirst]
  | trans hfirst _ ihfirst ihsecond =>
    rw [ihfirst hnodup, ihsecond ((hfirst.map Prod.fst).nodup_iff.mp hnodup)]

end JsonMembers

open JsonMembers

namespace JsonValue

/-- The second value has all that the first has; where the first has a name, the second has
it as often, and under other names it may have anything. -/
inductive Extends : JsonValue → JsonValue → Prop where
  | null : Extends .null .null
  | boolean (value : Bool) : Extends (.boolean value) (.boolean value)
  | unsigned (value : BitVec 64) : Extends (.unsigned value) (.unsigned value)
  | number (text : String) : Extends (.number text) (.number text)
  | string (text : String) : Extends (.string text) (.string text)
  | array {values values' : List JsonValue} (h : List.Forall₂ Extends values values') :
      Extends (.array values) (.array values')
  | object {members members' : JsonMembers}
      (h : ∀ name, members.valuesOf name ≠ [] →
        List.Forall₂ Extends (members.valuesOf name) (members'.valuesOf name)) :
      Extends (.object members) (.object members')

mutual

theorem Extends.refl : ∀ v : JsonValue, Extends v v
  | .null => .null
  | .boolean value => .boolean value
  | .unsigned value => .unsigned value
  | .number text => .number text
  | .string text => .string text
  | .array values => .array (Extends.refl_values values)
  | .object members => .object fun name _ => Extends.refl_members members name

theorem Extends.refl_values : ∀ values : List JsonValue, List.Forall₂ Extends values values
  | [] => .nil
  | v :: values => .cons (Extends.refl v) (Extends.refl_values values)

theorem Extends.refl_members : ∀ (members : JsonMembers) (name : String),
    List.Forall₂ Extends (members.valuesOf name) (members.valuesOf name)
  | [], _ => .nil
  | (other, v) :: members, name => by
    rw [valuesOf_cons]
    split
    · exact .cons (Extends.refl v) (Extends.refl_members members name)
    · exact Extends.refl_members members name

end

theorem Extends.eq_null {v : JsonValue} (h : Extends v .null) : v = .null := by
  cases h
  rfl

/-- Members in another order, and further members under other names, extend an object. -/
theorem Extends.of_perm_append {members members' : JsonMembers} (others : JsonMembers)
    (h : members'.Perm (members ++ others)) (hnodup : (members'.map Prod.fst).Nodup) :
    Extends (.object members) (.object members') := by
  refine .object fun name hname => ?_
  have hvalues := valuesOf_eq_of_perm h hnodup name
  have hnames : ((members ++ others).map Prod.fst).Nodup :=
    (h.map Prod.fst).nodup_iff.mp hnodup
  have hothers : valuesOf others name = [] := by
    by_contra hne
    obtain ⟨v, hv⟩ := List.exists_mem_of_ne_nil _ hname
    obtain ⟨w, hw⟩ := List.exists_mem_of_ne_nil _ hne
    simp only [valuesOf, List.mem_filterMap, Option.ite_none_right_eq_some] at hv hw
    obtain ⟨member, hmember, heq, -⟩ := hv
    obtain ⟨other, hother, heq', -⟩ := hw
    rw [List.map_append, List.nodup_append] at hnames
    exact hnames.2.2 _ (List.mem_map_of_mem hmember) _ (List.mem_map_of_mem hother)
      (heq.trans heq'.symm)
  rw [hvalues, valuesOf_append, hothers, List.append_nil]
  exact Extends.refl_members members name

end JsonValue

open JsonValue (Extends)

/-! ## Codecs of values -/

/-- How a serializer writes the values of a type and how a deserializer reads them. -/
structure JsonCodec (α : Type) where
  encode : α → JsonValue
  decode : JsonValue → Option α

namespace JsonCodec

variable {α β ρ : Type}

/-- What is written is read back from everything that extends it. -/
def Stable (codec : JsonCodec α) : Prop :=
  ∀ a v, Extends (codec.encode a) v → codec.decode v = some a

def string : JsonCodec String where
  encode := .string
  decode
    | .string text => some text
    | _ => none

def boolean : JsonCodec Bool where
  encode := .boolean
  decode
    | .boolean value => some value
    | _ => none

/-- Unsigned numbers of `w` bits, of at most 64. -/
def unsigned (w : ℕ) : JsonCodec (BitVec w) where
  encode n := .unsigned (.ofNat 64 n.toNat)
  decode
    | .unsigned n => if n.toNat < 2 ^ w then some (n.setWidth w) else none
    | _ => none

/-- `null` for `none`. -/
def option (codec : JsonCodec α) : JsonCodec (Option α) where
  encode
    | none => .null
    | some a => codec.encode a
  decode
    | .null => some none
    | v => (codec.decode v).map some

def list (codec : JsonCodec α) : JsonCodec (List α) where
  encode as := .array (as.map codec.encode)
  decode
    | .array values => values.mapM codec.decode
    | _ => none

@[simp] theorem string_decode_iff {v : JsonValue} {text : String} :
    string.decode v = some text ↔ v = .string text := by
  cases v <;> simp [string]

@[simp] theorem boolean_decode_iff {v : JsonValue} {value : Bool} :
    boolean.decode v = some value ↔ v = .boolean value := by
  cases v <;> simp [boolean]

/-- A number is read from exactly the natural number that it is. -/
theorem unsigned_decode_iff {w : ℕ} (hw : w ≤ 64) {v : JsonValue} {n : BitVec w} :
    (unsigned w).decode v = some n ↔ v = .unsigned (n.setWidth 64) := by
  have hlt : n.toNat < 2 ^ 64 := lt_of_lt_of_le n.isLt (Nat.pow_le_pow_right (by decide) hw)
  cases v with
  | unsigned m =>
    rw [unsigned, JsonValue.unsigned.injEq, ← BitVec.toNat_inj, BitVec.toNat_setWidth,
      Nat.mod_eq_of_lt hlt]
    dsimp only
    split
    · rename_i hfits
      rw [Option.some.injEq, ← BitVec.toNat_inj, BitVec.toNat_setWidth, Nat.mod_eq_of_lt hfits]
    · rename_i hlarge
      refine iff_of_false (by simp) ?_
      intro heq
      rw [heq] at hlarge
      exact hlarge n.isLt
  | _ => simp [unsigned]

theorem string_stable : string.Stable := by
  intro text v h
  cases h
  rfl

theorem boolean_stable : boolean.Stable := by
  intro value v h
  cases h
  rfl

theorem unsigned_stable {w : ℕ} (hw : w ≤ 64) : (unsigned w).Stable := by
  intro n v h
  cases h
  have hlt : n.toNat < 2 ^ 64 := lt_of_lt_of_le n.isLt (Nat.pow_le_pow_right (by decide) hw)
  have htoNat : (BitVec.ofNat 64 n.toNat).toNat = n.toNat := by
    rw [BitVec.toNat_ofNat, Nat.mod_eq_of_lt hlt]
  have hvalue : (BitVec.ofNat 64 n.toNat).setWidth w = n := by
    rw [← BitVec.toNat_inj, BitVec.toNat_setWidth, htoNat, Nat.mod_eq_of_lt n.isLt]
  show (if (BitVec.ofNat 64 n.toNat).toNat < 2 ^ w then _ else none) = some n
  rw [htoNat, if_pos n.isLt, hvalue]

/-- An option is read back when nothing of the type is written as `null`. -/
theorem option_stable {codec : JsonCodec α} (h : codec.Stable)
    (hnull : ∀ a, codec.encode a ≠ .null) : (option codec).Stable := by
  intro a v hextends
  cases a with
  | none =>
    cases hextends
    rfl
  | some a =>
    have hread := h a v hextends
    cases v with
    | null => exact absurd hextends.eq_null (hnull a)
    | _ => simp [option, hread]

theorem list_stable {codec : JsonCodec α} (h : codec.Stable) : (list codec).Stable := by
  intro as v hextends
  cases hextends with
  | array hvalues =>
    show List.mapM codec.decode _ = some as
    rename_i values'
    induction as generalizing values' with
    | nil =>
      cases hvalues
      rfl
    | cons a as ih =>
      cases hvalues with
      | cons hv hvs => simp [h a _ hv, ih hvs]

end JsonCodec

/-! ## Codecs of records -/

/-- How some fields of a record are written, under the given names, and read: from the
members of an object by their names, or from the first values of an array by their order. -/
structure JsonFields (α : Type) where
  names : List String
  encode : α → JsonMembers
  decodeMembers : JsonMembers → Option α
  decodeValues : List JsonValue → Option (α × List JsonValue)

namespace JsonFields

variable {α β : Type}

/-- A field that takes `absent` when an object lacks it and `short` when an array ends
before it. No object may have it twice. -/
def fieldOr (absent short : Option α) (name : String) (codec : JsonCodec α) :
    JsonFields α where
  names := [name]
  encode a := [(name, codec.encode a)]
  decodeMembers members :=
    match members.valuesOf name with
    | [] => absent
    | [v] => codec.decode v
    | _ => none
  decodeValues
    | [] => short.map fun a => (a, [])
    | v :: values => (codec.decode v).map fun a => (a, values)

/-- A field that has to be present. -/
def field (name : String) (codec : JsonCodec α) : JsonFields α := fieldOr none none name codec

/-- A field that takes the default when it is absent. -/
def fieldOrDefault (default : α) (name : String) (codec : JsonCodec α) : JsonFields α :=
  fieldOr (some default) (some default) name codec

/-- An optional field, which an object need not have. -/
def optionalField (name : String) (codec : JsonCodec α) : JsonFields (Option α) :=
  fieldOr (some none) none name codec.option

/-- The fields of `fields` and then those of `others`. -/
def and (fields : JsonFields α) (others : JsonFields β) : JsonFields (α × β) where
  names := fields.names ++ others.names
  encode r := fields.encode r.1 ++ others.encode r.2
  decodeMembers members :=
    (fields.decodeMembers members).bind fun a =>
      (others.decodeMembers members).map fun b => (a, b)
  decodeValues values :=
    (fields.decodeValues values).bind fun a =>
      (others.decodeValues a.2).map fun b => ((a.1, b.1), b.2)

@[simp] theorem names_field (name : String) (codec : JsonCodec α) :
    (field name codec).names = [name] := rfl

@[simp] theorem names_fieldOrDefault (default : α) (name : String) (codec : JsonCodec α) :
    (fieldOrDefault default name codec).names = [name] := rfl

@[simp] theorem names_optionalField (name : String) (codec : JsonCodec α) :
    (optionalField name codec).names = [name] := rfl

@[simp] theorem names_and (fields : JsonFields α) (others : JsonFields β) :
    (fields.and others).names = fields.names ++ others.names := rfl

/-! ### What is read -/

/-- A field is read from the one value under its name, or taken as absent when there is
none. -/
theorem decodeMembers_fieldOr_iff {absent short : Option α} {name : String}
    {codec : JsonCodec α} {members : JsonMembers} {a : α} :
    (fieldOr absent short name codec).decodeMembers members = some a ↔
      (members.valuesOf name = [] ∧ absent = some a) ∨
        ∃ v, members.valuesOf name = [v] ∧ codec.decode v = some a := by
  unfold fieldOr
  cases hfound : members.valuesOf name with
  | nil => simp [hfound]
  | cons v vs => cases vs <;> simp [hfound]

@[simp] theorem decodeMembers_field_iff {name : String} {codec : JsonCodec α}
    {members : JsonMembers} {a : α} :
    (field name codec).decodeMembers members = some a ↔
      ∃ v, members.valuesOf name = [v] ∧ codec.decode v = some a := by
  simp [field, decodeMembers_fieldOr_iff]

@[simp] theorem decodeMembers_and_iff {fields : JsonFields α} {others : JsonFields β}
    {members : JsonMembers} {r : α × β} :
    (fields.and others).decodeMembers members = some r ↔
      fields.decodeMembers members = some r.1 ∧ others.decodeMembers members = some r.2 := by
  simp [and, Option.bind_eq_some_iff, Prod.ext_iff]

@[simp] theorem decodeValues_fieldOr_iff {absent short : Option α} {name : String}
    {codec : JsonCodec α} {values rest : List JsonValue} {a : α} :
    (fieldOr absent short name codec).decodeValues values = some (a, rest) ↔
      (values = [] ∧ rest = [] ∧ short = some a) ∨
        ∃ v, values = v :: rest ∧ codec.decode v = some a := by
  cases values with
  | nil => simp [fieldOr, and_comm, @eq_comm _ []]
  | cons v values =>
    simp only [fieldOr, Option.map_eq_some_iff, Prod.mk.injEq, List.cons.injEq,
      reduceCtorEq, false_and, false_or]
    refine ⟨?_, ?_⟩
    · intro hread
      rcases hread with ⟨a, hdecode, rfl, rfl⟩
      exact ⟨v, ⟨rfl, rfl⟩, hdecode⟩
    · intro hread
      rcases hread with ⟨v', ⟨rfl, rfl⟩, hdecode⟩
      exact ⟨a, hdecode, rfl, rfl⟩

@[simp] theorem decodeValues_and_iff {fields : JsonFields α} {others : JsonFields β}
    {values rest : List JsonValue} {r : α × β} :
    (fields.and others).decodeValues values = some (r, rest) ↔
      ∃ middle, fields.decodeValues values = some (r.1, middle) ∧
        others.decodeValues middle = some (r.2, rest) := by
  simp [and, Option.bind_eq_some_iff, Prod.ext_iff]

/-! ### What is written is read -/

/-- The fields are written under their names, and are read back from all members that extend
the written ones at the names. -/
structure Stable (fields : JsonFields α) : Prop where
  outside : ∀ a, ∀ name ∉ fields.names, (fields.encode a).valuesOf name = []
  inside : ∀ a, ∀ name ∈ fields.names, (fields.encode a).valuesOf name ≠ []
  reads : ∀ a (members : JsonMembers),
    (∀ name ∈ fields.names, List.Forall₂ Extends ((fields.encode a).valuesOf name)
      (members.valuesOf name)) →
    fields.decodeMembers members = some a

theorem fieldOr_stable {codec : JsonCodec α} (h : codec.Stable) (absent short : Option α)
    (name : String) : (fieldOr absent short name codec).Stable where
  outside a other hother := valuesOf_singleton_of_ne (List.ne_of_not_mem_cons hother) _
  inside a other hother := by
    rw [List.mem_singleton.mp hother]
    simp [fieldOr]
  reads a members hmembers := by
    have hvalues := hmembers name List.mem_cons_self
    simp only [fieldOr, valuesOf_singleton_self] at hvalues
    rw [decodeMembers_fieldOr_iff]
    cases hfound : members.valuesOf name with
    | nil => simp [hfound] at hvalues
    | cons v vs =>
      rw [hfound] at hvalues
      cases hvalues with
      | cons hv hvs =>
        cases hvs
        exact Or.inr ⟨v, rfl, h a v hv⟩

theorem field_stable {codec : JsonCodec α} (h : codec.Stable) (name : String) :
    (field name codec).Stable := fieldOr_stable h none none name

theorem optionalField_stable {codec : JsonCodec α} (h : codec.Stable)
    (hnull : ∀ a, codec.encode a ≠ .null) (name : String) :
    (optionalField name codec).Stable :=
  fieldOr_stable (JsonCodec.option_stable h hnull) (some none) none name

/-- Fields with names of their own. -/
theorem and_stable {fields : JsonFields α} {others : JsonFields β}
    (hdisjoint : ∀ name ∈ fields.names, name ∉ others.names) (h : fields.Stable)
    (h' : others.Stable) : (fields.and others).Stable where
  outside r name hname := by
    simp only [and, List.mem_append, not_or] at hname
    simp [and, h.outside r.1 name hname.1, h'.outside r.2 name hname.2]
  inside r name hname := by
    simp only [and, List.mem_append] at hname
    rcases hname with hname | hname
    · simp [and, h.inside r.1 name hname]
    · simp [and, h'.inside r.2 name hname]
  reads r members hmembers := by
    rw [decodeMembers_and_iff]
    refine ⟨h.reads r.1 members ?_, h'.reads r.2 members ?_⟩
    · intro name hname
      have hvalues := hmembers name (List.mem_append_left _ hname)
      simpa [and, h'.outside r.2 name (hdisjoint name hname)] using hvalues
    · intro name hname
      have hvalues := hmembers name (List.mem_append_right _ hname)
      have hnot : name ∉ fields.names := fun hmem => hdisjoint name hmem hname
      simpa [and, h.outside r.1 name hnot] using hvalues

end JsonFields

namespace JsonCodec

variable {α ρ : Type}

/-- A record: the object of its fields, read from an object or from an array of exactly the
values of its fields. -/
def record (fields : JsonFields α) (unpack : ρ ≃ α) : JsonCodec ρ where
  encode r := .object (fields.encode (unpack r))
  decode
    | .object members => (fields.decodeMembers members).map unpack.symm
    | .array values =>
      match fields.decodeValues values with
      | some (a, []) => some (unpack.symm a)
      | _ => none
    | _ => none

theorem record_decode_object_iff {fields : JsonFields α} {unpack : ρ ≃ α}
    {members : JsonMembers} {r : ρ} :
    (record fields unpack).decode (.object members) = some r ↔
      fields.decodeMembers members = some (unpack r) := by
  simp [record, Equiv.symm_apply_eq]

theorem record_stable {fields : JsonFields α} (h : fields.Stable) (unpack : ρ ≃ α) :
    (record fields unpack).Stable := by
  intro r v hextends
  cases hextends with
  | object hmembers =>
    rw [record_decode_object_iff]
    exact h.reads (unpack r) _ fun name hname => hmembers name (h.inside (unpack r) name hname)

end JsonCodec

end Lib
