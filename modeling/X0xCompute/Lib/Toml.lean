import Mathlib.Tactic

/-!
# Codecs between records and TOML values

A value of a TOML document, codecs between values of a type and TOML values, and the
codecs that derived serializers build: of numbers, of texts, of lists, and of records field
by field. A codec is faithful when what it writes is read back, whatever the order of the
entries of tables, and when it writes whatever it has read.
-/

namespace Lib

/-- A value of a TOML document. A float is kept as its bits, a date and time as its text. -/
inductive TomlValue where
  | string (text : String)
  | integer (value : BitVec 64)
  | float (bits : BitVec 64)
  | boolean (value : Bool)
  | datetime (text : String)
  | array (values : List TomlValue)
  | table (entries : List (String × TomlValue))

/-- The entries of a table. -/
abbrev TomlTable : Type := List (String × TomlValue)

namespace TomlValue

/-- The same value, up to the order of the entries of its tables. -/
inductive Same : TomlValue → TomlValue → Prop where
  | string (text : String) : Same (.string text) (.string text)
  | integer (value : BitVec 64) : Same (.integer value) (.integer value)
  | float (bits : BitVec 64) : Same (.float bits) (.float bits)
  | boolean (value : Bool) : Same (.boolean value) (.boolean value)
  | datetime (text : String) : Same (.datetime text) (.datetime text)
  | array {values values' : List TomlValue} (h : List.Forall₂ Same values values') :
      Same (.array values) (.array values')
  | table {entries entries' : TomlTable}
      (h : ∀ key, Option.Rel Same (entries.lookup key) (entries'.lookup key)) :
      Same (.table entries) (.table entries')

mutual

theorem Same.refl : ∀ v : TomlValue, Same v v
  | .string text => .string text
  | .integer value => .integer value
  | .float bits => .float bits
  | .boolean value => .boolean value
  | .datetime text => .datetime text
  | .array values => .array (Same.refl_values values)
  | .table entries => .table (Same.refl_entries entries)

theorem Same.refl_values : ∀ values : List TomlValue, List.Forall₂ Same values values
  | [] => .nil
  | v :: values => .cons (Same.refl v) (Same.refl_values values)

theorem Same.refl_entries : ∀ (entries : TomlTable) (key : String),
    Option.Rel Same (entries.lookup key) (entries.lookup key)
  | [], _ => .none
  | (name, v) :: entries, key => by
    rw [List.lookup_cons]
    split
    · exact .some (Same.refl v)
    · exact Same.refl_entries entries key

end

theorem lookup_eq_of_perm {entries entries' : TomlTable} (h : entries.Perm entries')
    (hnodup : (entries.map Prod.fst).Nodup) (key : String) :
    entries.lookup key = entries'.lookup key := by
  induction h with
  | nil => rfl
  | cons entry _ ih =>
    rw [List.map_cons, List.nodup_cons] at hnodup
    rw [List.lookup_cons, List.lookup_cons, ih hnodup.2]
  | swap first second entries =>
    simp only [List.map_cons, List.nodup_cons, List.mem_cons, not_or] at hnodup
    obtain ⟨name, v⟩ := first
    obtain ⟨name', v'⟩ := second
    rw [List.lookup_cons, List.lookup_cons, List.lookup_cons, List.lookup_cons]
    by_cases hkey : key = name
    · have hne : (key == name') = false := by
        rw [beq_eq_false_iff_ne, hkey]
        exact Ne.symm hnodup.1.1
      simp [hne]
    · have hne : (key == name) = false := by simpa using hkey
      simp [hne]
  | trans hfirst _ ihfirst ihsecond =>
    rw [ihfirst hnodup, ihsecond ((hfirst.map Prod.fst).nodup_iff.mp hnodup)]

/-- The order of the entries of a table does not matter. -/
theorem Same.of_perm {entries entries' : TomlTable} (h : entries.Perm entries')
    (hnodup : (entries.map Prod.fst).Nodup) : Same (.table entries) (.table entries') := by
  refine .table fun key => ?_
  rw [← lookup_eq_of_perm h hnodup]
  exact Same.refl_entries entries key

end TomlValue

open TomlValue (Same)

/-! ## Codecs of values -/

/-- How a serializer writes the values of a type and how a deserializer reads them. -/
structure Codec (α : Type) where
  encode : α → Except String TomlValue
  decode : TomlValue → Option α

namespace Codec

variable {α β : Type}

/-- `a` can be written, and what is written is read back as `a`. -/
def Keeps (codec : Codec α) (a : α) : Prop :=
  ∃ v, codec.encode a = .ok v ∧ ∀ v', Same v v' → codec.decode v' = some a

/-- Whatever is read can be written and is read back. -/
def Faithful (codec : Codec α) : Prop :=
  ∀ v a, codec.decode v = some a → codec.Keeps a

def string : Codec String where
  encode text := .ok (.string text)
  decode
    | .string text => some text
    | _ => none

def boolean : Codec Bool where
  encode value := .ok (.boolean value)
  decode
    | .boolean value => some value
    | _ => none

/-- Unsigned numbers of `w` bits, through the signed 64-bit integers of TOML. -/
def unsigned (w : ℕ) : Codec (BitVec w) where
  encode n :=
    if n.toNat < 2 ^ 63 then .ok (.integer (.ofNat 64 n.toNat))
    else .error "out-of-range value for u64 type"
  decode
    | .integer i =>
      if 0 ≤ i.toInt ∧ i.toNat < 2 ^ w then some (i.setWidth w) else none
    | _ => none

/-- Values that are written as a text, if they have one, and parsed from it. -/
def parsed (display : α → Except String String) (parse : String → Option α) : Codec α where
  encode a := (display a).map .string
  decode
    | .string text => parse text
    | _ => none

/-- An enumeration without payloads: the name of the variant, or a table from the name to
an empty payload. -/
def variant (variants : List α) (name : α → String) : Codec α where
  encode a := .ok (.string (name a))
  decode
    | .string text => variants.find? (fun a => name a == text)
    | .table [(text, .table [])] => variants.find? (fun a => name a == text)
    | .table [(text, .array [])] => variants.find? (fun a => name a == text)
    | _ => none

def list (codec : Codec α) : Codec (List α) where
  encode as := (as.mapM codec.encode).map .array
  decode
    | .array values => values.mapM codec.decode
    | _ => none

theorem string_keeps (text : String) : string.Keeps text := by
  refine ⟨_, rfl, ?_⟩
  intro v' hsame
  cases hsame
  rfl

theorem boolean_keeps (value : Bool) : boolean.Keeps value := by
  refine ⟨_, rfl, ?_⟩
  intro v' hsame
  cases hsame
  rfl

theorem string_faithful : string.Faithful := fun _ text _ => string_keeps text

theorem boolean_faithful : boolean.Faithful := fun _ value _ => boolean_keeps value

theorem toInt_nonneg_iff {i : BitVec 64} : 0 ≤ i.toInt ↔ i.toNat < 2 ^ 63 := by
  rw [BitVec.toInt_eq_toNat_cond]
  have := i.isLt
  split_ifs <;> omega

/-- A number is kept when a signed 64-bit integer can carry it. -/
theorem unsigned_keeps {w : ℕ} {n : BitVec w} (h : n.toNat < 2 ^ 63) : (unsigned w).Keeps n := by
  have htoNat : (BitVec.ofNat 64 n.toNat).toNat = n.toNat := by
    rw [BitVec.toNat_ofNat, Nat.mod_eq_of_lt (by omega)]
  refine ⟨.integer (.ofNat 64 n.toNat), if_pos h, ?_⟩
  intro v' hsame
  cases hsame
  have hrange : 0 ≤ (BitVec.ofNat 64 n.toNat).toInt ∧ (BitVec.ofNat 64 n.toNat).toNat < 2 ^ w := by
    rw [toInt_nonneg_iff, htoNat]
    exact ⟨h, n.isLt⟩
  have hvalue : (BitVec.ofNat 64 n.toNat).setWidth w = n := by
    rw [← BitVec.toNat_inj, BitVec.toNat_setWidth, htoNat, Nat.mod_eq_of_lt n.isLt]
  exact (if_pos hrange).trans (congrArg some hvalue)

theorem unsigned_faithful (w : ℕ) : (unsigned w).Faithful := by
  intro v n hdecode
  cases v with
  | integer i =>
    simp only [unsigned] at hdecode
    split_ifs at hdecode with hrange
    cases hdecode
    apply unsigned_keeps
    rw [BitVec.toNat_setWidth, Nat.mod_eq_of_lt hrange.2]
    exact toInt_nonneg_iff.mp hrange.1
  | _ => cases hdecode

theorem parsed_keeps {display : α → Except String String} {parse : String → Option α} {a : α}
    {text : String} (hdisplay : display a = .ok text) (hparse : parse text = some a) :
    (parsed display parse).Keeps a := by
  refine ⟨.string text, ?_, ?_⟩
  · simp [parsed, hdisplay, Except.map]
  · intro v' hsame
    cases hsame
    exact hparse

theorem parsed_faithful {display : α → Except String String} {parse : String → Option α}
    (h : ∀ a text, parse text = some a → ∃ text', display a = .ok text' ∧ parse text' = some a) :
    (parsed display parse).Faithful := by
  intro v a hdecode
  cases v with
  | string text =>
    obtain ⟨text', hdisplay, hparse⟩ := h a text hdecode
    exact parsed_keeps hdisplay hparse
  | _ => cases hdecode

theorem variant_keeps {variants : List α} {name : α → String} {a : α}
    (h : variants.find? (fun b => name b == name a) = some a) :
    (variant variants name).Keeps a := by
  refine ⟨_, rfl, ?_⟩
  intro v' hsame
  cases hsame
  exact h

theorem mapM_eq_ok_iff {ε : Type} {f : α → Except ε β} {as : List α} {bs : List β} :
    as.mapM f = .ok bs ↔ List.Forall₂ (fun a b => f a = .ok b) as bs := by
  induction as generalizing bs with
  | nil => simp [pure, Except.pure, eq_comm]
  | cons a as ih =>
    rw [List.mapM_cons, List.forall₂_cons_left_iff]
    cases hf : f a with
    | error e => simp [bind, Except.bind]
    | ok b =>
      cases hrest : as.mapM f with
      | error e => simp [bind, Except.bind, ← ih, hrest]
      | ok rest => simp [bind, Except.bind, pure, Except.pure, ← ih, hrest, eq_comm]

theorem mapM_eq_some_iff {f : α → Option β} {as : List α} {bs : List β} :
    as.mapM f = some bs ↔ List.Forall₂ (fun a b => f a = some b) as bs := by
  induction as generalizing bs with
  | nil => simp [eq_comm]
  | cons a as ih =>
    rw [List.mapM_cons, List.forall₂_cons_left_iff]
    cases hf : f a with
    | none => simp
    | some b =>
      cases hrest : as.mapM f with
      | none => simp [← ih, hrest]
      | some rest => simp [← ih, hrest, eq_comm]

/-- A list is kept when its elements are. -/
theorem list_keeps {codec : Codec α} {as : List α} (h : ∀ a ∈ as, codec.Keeps a) :
    (list codec).Keeps as := by
  suffices hvalues : ∃ vs, List.Forall₂ (fun a v => codec.encode a = .ok v) as vs ∧
      ∀ vs', List.Forall₂ Same vs vs' → List.Forall₂ (fun v a => codec.decode v = some a) vs' as by
    obtain ⟨vs, hencode, hdecode⟩ := hvalues
    refine ⟨.array vs, ?_, ?_⟩
    · simp [list, mapM_eq_ok_iff.mpr hencode, Except.map]
    · intro v' hsame
      cases hsame with
      | array hsame => exact mapM_eq_some_iff.mpr (hdecode _ hsame)
  induction as with
  | nil =>
    refine ⟨[], .nil, ?_⟩
    intro vs' hsame
    cases hsame
    exact .nil
  | cons a as ih =>
    obtain ⟨v, hencode, hdecode⟩ := h a List.mem_cons_self
    obtain ⟨vs, hencodes, hdecodes⟩ := ih fun b hb => h b (List.mem_cons_of_mem a hb)
    refine ⟨v :: vs, .cons hencode hencodes, ?_⟩
    intro vs' hsame
    cases hsame with
    | cons hv hvs => exact .cons (hdecode _ hv) (hdecodes _ hvs)

theorem list_faithful {codec : Codec α} (h : codec.Faithful) : (list codec).Faithful := by
  intro v as hdecode
  cases v with
  | array vs =>
    apply list_keeps
    have hreads : List.Forall₂ (fun v a => codec.decode v = some a) vs as :=
      mapM_eq_some_iff.mp hdecode
    clear hdecode
    induction hreads with
    | nil => simp
    | cons hread _ ih => exact List.forall_mem_cons.mpr ⟨h _ _ hread, ih⟩
  | _ => cases hdecode

/-! ### What can be written -/

/-- `a` can be written. -/
def Encodes (codec : Codec α) (a : α) : Prop := ∃ v, codec.encode a = .ok v

theorem Keeps.encodes {codec : Codec α} {a : α} (h : codec.Keeps a) : codec.Encodes a := by
  obtain ⟨v, hencode, -⟩ := h
  exact ⟨v, hencode⟩

@[simp] theorem string_encodes (text : String) : string.Encodes text :=
  (string_keeps text).encodes

@[simp] theorem boolean_encodes (value : Bool) : boolean.Encodes value :=
  (boolean_keeps value).encodes

theorem exists_map_eq_ok_iff {ε : Type} {x : Except ε α} {f : α → β} :
    (∃ b, x.map f = .ok b) ↔ ∃ a, x = .ok a := by
  cases x <;> simp [Except.map]

@[simp] theorem unsigned_encodes_iff {w : ℕ} {n : BitVec w} :
    (unsigned w).Encodes n ↔ n.toNat < 2 ^ 63 := by
  by_cases hfits : n.toNat < 2 ^ 63
  · exact iff_of_true ⟨_, if_pos hfits⟩ hfits
  · refine iff_of_false ?_ hfits
    intro h
    rcases h with ⟨v, hv⟩
    simp only [unsigned, if_neg hfits] at hv
    cases hv

theorem parsed_encodes_iff {display : α → Except String String} {parse : String → Option α}
    {a : α} : (parsed display parse).Encodes a ↔ ∃ text, display a = .ok text :=
  exists_map_eq_ok_iff

@[simp] theorem variant_encodes (variants : List α) (name : α → String) (a : α) :
    (variant variants name).Encodes a := ⟨_, rfl⟩

@[simp] theorem list_encodes_iff {codec : Codec α} {as : List α} :
    (list codec).Encodes as ↔ ∀ a ∈ as, codec.Encodes a := by
  refine exists_map_eq_ok_iff.trans ?_
  simp only [mapM_eq_ok_iff]
  induction as with
  | nil => simp
  | cons a as ih =>
    rw [List.forall_mem_cons, ← ih]
    refine ⟨?_, ?_⟩
    · intro h
      rcases h with ⟨vs, hvs⟩
      cases hvs with
      | cons hv hvs => exact ⟨⟨_, hv⟩, ⟨_, hvs⟩⟩
    · intro h
      rcases h with ⟨⟨v, hv⟩, ⟨vs, hvs⟩⟩
      exact ⟨v :: vs, .cons hv hvs⟩

end Codec

/-! ## Codecs of records -/

/-- What the fields of a record are read from: a table by their names, or the values of an
array by their positions. -/
inductive FieldSource where
  | named (entries : TomlTable)
  | positional (values : List TomlValue)

/-- What the value of a record offers: a date and time is presented as a table of its own. -/
def TomlValue.fieldSource? : TomlValue → Option FieldSource
  | .table entries => some (.named entries)
  | .array values => some (.positional values)
  | .datetime text => some (.named [("$__toml_private_datetime", .string text)])
  | _ => none

/-- The value of the next field, if there is one, and what is left for the later fields. -/
def FieldSource.next (source : FieldSource) (name : String) : Option TomlValue × FieldSource :=
  match source with
  | .named entries => (entries.lookup name, source)
  | .positional [] => (none, source)
  | .positional (v :: values) => (some v, .positional values)

/-- How some fields of a record are written, under the given names, and read. -/
structure Fields (α : Type) where
  names : List String
  encode : α → Except String TomlTable
  decode : FieldSource → Option (α × FieldSource)

namespace Fields

variable {α β ρ : Type}

/-- A field that takes what `missing` says when it is absent. -/
def fieldOr (missing : Option α) (name : String) (codec : Codec α) : Fields α where
  names := [name]
  encode a := (codec.encode a).map fun v => [(name, v)]
  decode source :=
    match source.next name with
    | (some v, rest) => (codec.decode v).map fun a => (a, rest)
    | (none, rest) => missing.map fun a => (a, rest)

/-- A field that has to be present. -/
def field (name : String) (codec : Codec α) : Fields α := fieldOr none name codec

/-- A field that takes the default when it is absent. -/
def fieldOrDefault (default : α) (name : String) (codec : Codec α) : Fields α :=
  fieldOr (some default) name codec

/-- An optional field: nothing is written for `none`, and a table need not have it. -/
def optionalField (name : String) (codec : Codec α) : Fields (Option α) where
  names := [name]
  encode
    | none => .ok []
    | some a => (codec.encode a).map fun v => [(name, v)]
  decode source :=
    match source.next name with
    | (some v, rest) => (codec.decode v).map fun a => (some a, rest)
    | (none, .named entries) => some (none, .named entries)
    | (none, .positional _) => none

/-- The fields of `fields` and then those of `others`. -/
def and (fields : Fields α) (others : Fields β) : Fields (α × β) where
  names := fields.names ++ others.names
  encode r :=
    match fields.encode r.1 with
    | .error e => .error e
    | .ok entries => (others.encode r.2).map (entries ++ ·)
  decode source :=
    match fields.decode source with
    | none => none
    | some (a, rest) => (others.decode rest).map fun r => ((a, r.1), r.2)

/-- `a` can be written, under the names only, and is read back from every table that has
the written entries under these names. -/
def Keeps (fields : Fields α) (a : α) : Prop :=
  ∃ entries, fields.encode a = .ok entries ∧
    (∀ name ∉ fields.names, entries.lookup name = none) ∧
    ∀ entries' : TomlTable,
      (∀ name ∈ fields.names, Option.Rel Same (entries.lookup name) (entries'.lookup name)) →
      fields.decode (.named entries') = some (a, .named entries')

/-- Whatever is read can be written and is read back. -/
def Faithful (fields : Fields α) : Prop :=
  ∀ source a rest, fields.decode source = some (a, rest) → fields.Keeps a

end Fields

/-- A record, as the table of its fields. -/
def Codec.record {α ρ : Type} (fields : Fields α) (unpack : ρ ≃ α) : Codec ρ where
  encode r := (fields.encode (unpack r)).map .table
  decode v :=
    match v.fieldSource? with
    | none => none
    | some source => (fields.decode source).map fun r => unpack.symm r.1

namespace Fields

variable {α β ρ : Type}

@[simp] theorem names_field (name : String) (codec : Codec α) :
    (field name codec).names = [name] := rfl

@[simp] theorem names_fieldOrDefault (default : α) (name : String) (codec : Codec α) :
    (fieldOrDefault default name codec).names = [name] := rfl

@[simp] theorem names_optionalField (name : String) (codec : Codec α) :
    (optionalField name codec).names = [name] := rfl

@[simp] theorem names_and (fields : Fields α) (others : Fields β) :
    (fields.and others).names = fields.names ++ others.names := rfl

theorem lookup_singleton_of_notMem {name key : String} (v : TomlValue) (h : key ∉ [name]) :
    [(name, v)].lookup key = none := by
  have hne : (key == name) = false := by simpa using h
  simp [List.lookup_cons, hne]

theorem exists_lookup_of_same {name : String} {v : TomlValue} {entries : TomlTable}
    (h : ∀ key ∈ [name], Option.Rel Same ([(name, v)].lookup key) (entries.lookup key)) :
    ∃ v', entries.lookup name = some v' ∧ Same v v' := by
  have hentry := h name List.mem_cons_self
  rw [List.lookup_cons_self] at hentry
  cases hlookup : entries.lookup name with
  | none =>
    rw [hlookup] at hentry
    cases hentry
  | some v' =>
    rw [hlookup] at hentry
    cases hentry with
    | some hv => exact ⟨v', rfl, hv⟩

theorem fieldOr_keeps {codec : Codec α} {a : α} (missing : Option α) (name : String)
    (h : codec.Keeps a) : (fieldOr missing name codec).Keeps a := by
  obtain ⟨v, hencode, hdecode⟩ := h
  refine ⟨[(name, v)], by simp [fieldOr, hencode, Except.map], ?_, ?_⟩
  · intro key hkey
    exact lookup_singleton_of_notMem v hkey
  · intro entries' hsame
    obtain ⟨v', hlookup, hv⟩ := exists_lookup_of_same hsame
    simp [fieldOr, FieldSource.next, hlookup, hdecode v' hv]

theorem field_keeps {codec : Codec α} {a : α} (name : String) (h : codec.Keeps a) :
    (field name codec).Keeps a := fieldOr_keeps none name h

theorem fieldOrDefault_keeps {codec : Codec α} {a : α} (default : α) (name : String)
    (h : codec.Keeps a) : (fieldOrDefault default name codec).Keeps a :=
  fieldOr_keeps (some default) name h

theorem fieldOr_faithful {codec : Codec α} {missing : Option α} (h : codec.Faithful)
    (hmissing : ∀ a ∈ missing, codec.Keeps a) (name : String) :
    (fieldOr missing name codec).Faithful := by
  intro source a rest hdecode
  apply fieldOr_keeps
  simp only [fieldOr] at hdecode
  split at hdecode
  · rename_i v rest' _
    obtain ⟨a', hv, hread⟩ := Option.map_eq_some_iff.mp hdecode
    cases hread
    exact h v a hv
  · obtain ⟨a', hfallback, hread⟩ := Option.map_eq_some_iff.mp hdecode
    cases hread
    exact hmissing a hfallback

theorem field_faithful {codec : Codec α} (h : codec.Faithful) (name : String) :
    (field name codec).Faithful :=
  fieldOr_faithful h (by simp) name

theorem fieldOrDefault_faithful {codec : Codec α} {default : α} (h : codec.Faithful)
    (hdefault : codec.Keeps default) (name : String) :
    (fieldOrDefault default name codec).Faithful :=
  fieldOr_faithful h (by simpa using hdefault) name

theorem optionalField_keeps_none (name : String) (codec : Codec α) :
    (optionalField name codec).Keeps none := by
  refine ⟨[], rfl, ?_, ?_⟩
  · simp
  · intro entries' hsame
    have hentry := hsame name List.mem_cons_self
    cases hlookup : entries'.lookup name with
    | none => simp [optionalField, FieldSource.next, hlookup]
    | some v' =>
      rw [hlookup] at hentry
      cases hentry

theorem optionalField_keeps_some {codec : Codec α} {a : α} (name : String) (h : codec.Keeps a) :
    (optionalField name codec).Keeps (some a) := by
  obtain ⟨v, hencode, hdecode⟩ := h
  refine ⟨[(name, v)], by simp [optionalField, hencode, Except.map], ?_, ?_⟩
  · intro key hkey
    exact lookup_singleton_of_notMem v hkey
  · intro entries' hsame
    obtain ⟨v', hlookup, hv⟩ := exists_lookup_of_same hsame
    simp [optionalField, FieldSource.next, hlookup, hdecode v' hv]

theorem optionalField_faithful {codec : Codec α} (h : codec.Faithful) (name : String) :
    (optionalField name codec).Faithful := by
  intro source o rest hdecode
  simp only [optionalField] at hdecode
  split at hdecode
  · rename_i v rest' _
    obtain ⟨a, hv, hread⟩ := Option.map_eq_some_iff.mp hdecode
    cases hread
    exact optionalField_keeps_some name (h v a hv)
  · cases hdecode
    exact optionalField_keeps_none name codec
  · cases hdecode

theorem and_keeps {fields : Fields α} {others : Fields β} {a : α} {b : β}
    (hdisjoint : ∀ name ∈ fields.names, name ∉ others.names) (ha : fields.Keeps a)
    (hb : others.Keeps b) : (fields.and others).Keeps (a, b) := by
  obtain ⟨xs, hxs, hxsNone, hxsDecode⟩ := ha
  obtain ⟨ys, hys, hysNone, hysDecode⟩ := hb
  refine ⟨xs ++ ys, by simp [and, hxs, hys, Except.map], ?_, ?_⟩
  · intro name hname
    simp only [and, List.mem_append, not_or] at hname
    rw [List.lookup_append, hxsNone name hname.1, hysNone name hname.2, Option.or_none]
  · intro entries' hsame
    have hfirst : fields.decode (.named entries') = some (a, .named entries') := by
      apply hxsDecode
      intro name hname
      have := hsame name (List.mem_append_left _ hname)
      rwa [List.lookup_append, hysNone name (hdisjoint name hname), Option.or_none] at this
    have hsecond : others.decode (.named entries') = some (b, .named entries') := by
      apply hysDecode
      intro name hname
      have hnotMem : name ∉ fields.names := fun hmem => hdisjoint name hmem hname
      have := hsame name (List.mem_append_right _ hname)
      rwa [List.lookup_append, hxsNone name hnotMem, Option.none_or] at this
    simp [and, hfirst, hsecond]

theorem and_faithful {fields : Fields α} {others : Fields β}
    (hdisjoint : ∀ name ∈ fields.names, name ∉ others.names) (hfields : fields.Faithful)
    (hothers : others.Faithful) : (fields.and others).Faithful := by
  intro source r rest hdecode
  simp only [and] at hdecode
  split at hdecode
  · cases hdecode
  · rename_i a rest' ha
    obtain ⟨⟨b, rest''⟩, hb, hread⟩ := Option.map_eq_some_iff.mp hdecode
    cases hread
    exact and_keeps hdisjoint (hfields source a rest' ha) (hothers rest' b _ hb)

/-- A record is kept when its fields are. -/
theorem record_keeps {fields : Fields α} {unpack : ρ ≃ α} {r : ρ}
    (h : fields.Keeps (unpack r)) : (Codec.record fields unpack).Keeps r := by
  obtain ⟨entries, hencode, -, hdecode⟩ := h
  refine ⟨.table entries, by simp [Codec.record, hencode, Except.map], ?_⟩
  intro v' hsame
  cases hsame with
  | table hsame =>
    have hread := hdecode _ fun name _ => hsame name
    simp [Codec.record, TomlValue.fieldSource?, hread]

theorem record_faithful {fields : Fields α} (h : fields.Faithful) (unpack : ρ ≃ α) :
    (Codec.record fields unpack).Faithful := by
  intro v r hdecode
  apply record_keeps
  simp only [Codec.record] at hdecode
  split at hdecode
  · cases hdecode
  · rename_i source _
    obtain ⟨⟨a, rest⟩, hread, hr⟩ := Option.map_eq_some_iff.mp hdecode
    rw [← hr, Equiv.apply_symm_apply]
    exact h source a rest hread

/-! ### What can be written -/

/-- `a` can be written. -/
def Encodes (fields : Fields α) (a : α) : Prop := ∃ entries, fields.encode a = .ok entries

@[simp] theorem field_encodes_iff {name : String} {codec : Codec α} {a : α} :
    (field name codec).Encodes a ↔ codec.Encodes a := Codec.exists_map_eq_ok_iff

@[simp] theorem fieldOrDefault_encodes_iff {default : α} {name : String} {codec : Codec α}
    {a : α} : (fieldOrDefault default name codec).Encodes a ↔ codec.Encodes a :=
  Codec.exists_map_eq_ok_iff

@[simp] theorem optionalField_encodes_iff {name : String} {codec : Codec α} {o : Option α} :
    (optionalField name codec).Encodes o ↔ ∀ a ∈ o, codec.Encodes a := by
  cases o with
  | none => simp [Encodes, optionalField]
  | some a =>
    simp only [Option.mem_def, Option.some.injEq, forall_eq']
    exact Codec.exists_map_eq_ok_iff

@[simp] theorem and_encodes_iff {fields : Fields α} {others : Fields β} {r : α × β} :
    (fields.and others).Encodes r ↔ fields.Encodes r.1 ∧ others.Encodes r.2 := by
  unfold Encodes and
  cases hfields : fields.encode r.1 with
  | error e => simp [hfields]
  | ok entries => simp [hfields, Codec.exists_map_eq_ok_iff]

@[simp] theorem record_encodes_iff {fields : Fields α} {unpack : ρ ≃ α} {r : ρ} :
    (Codec.record fields unpack).Encodes r ↔ fields.Encodes (unpack r) :=
  Codec.exists_map_eq_ok_iff

/-- A record is written as a table. -/
theorem exists_table_of_record_encode {fields : Fields α} {unpack : ρ ≃ α} {r : ρ}
    {v : TomlValue} (h : (Codec.record fields unpack).encode r = .ok v) :
    ∃ entries, v = .table entries := by
  cases hencode : fields.encode (unpack r) with
  | error e => simp [Codec.record, hencode, Except.map] at h
  | ok entries =>
    simp only [Codec.record, hencode, Except.map, Except.ok.injEq] at h
    exact ⟨entries, h.symm⟩

end Fields

end Lib
