import Criteria.Proofs.Options.Library
import Criteria.Proofs.Path.Selection

set_option autoImplicit false
set_option relaxedAutoImplicit false

/-!
# Options in normal form

Each option may be given in many forms and is kept in one of them: two Booleans, a positive integer and, if
there are any, fallback data with one value for each text. With any library that keeps its promises these forms
are read as themselves, so options that were read and are given again, in whatever order, are read as the same
options. A mapping with a name that is no option's, with fallback data that is no mapping or with a depth below
one is refused.
-/

namespace Criteria

namespace Value

variable {entries entries' : List (Value × Value)} {key : String} {v : Value}

theorem lookup_eq_some_iff_mem (apart : (entries.map Prod.fst).Nodup) :
    lookup key entries = some v ↔ (.text key, v) ∈ entries := by
  rw [lookup_eq_some_iff]
  constructor
  · rintro ⟨before, after, rfl, _⟩
    simp
  · intro member
    obtain ⟨before, after, rfl⟩ := List.append_of_mem member
    refine ⟨before, after, rfl, fun e earlier same => ?_⟩
    rw [List.map_append, List.map_cons] at apart
    exact (List.nodup_append.mp apart).2.2 _ (List.mem_map_of_mem earlier) _ List.mem_cons_self same

theorem lookup_perm (perm : entries.Perm entries') (apart : (entries.map Prod.fst).Nodup) (key : String) :
    lookup key entries = lookup key entries' := by
  have apart' : (entries'.map Prod.fst).Nodup := (perm.map Prod.fst).nodup_iff.mp apart
  ext v
  rw [lookup_eq_some_iff_mem apart, lookup_eq_some_iff_mem apart', perm.mem_iff]

end Value

namespace Options

variable {library : Validator} {conversions : Conversions} {entries : List (Value × Value)} {o : Options}
  {data : List (String × Value)} {v : Value}

theorem readField_eq_ok_iff {α : Type} {name : String} {read : Value → Except ProblemKind α} {a : α} :
    readField name read v = .ok a ↔ read v = .ok a := by
  unfold readField
  cases read v <;> simp [Except.mapError]

theorem checkData_of_unmapped (given : v ≠ .null) (other : v.entries? = none) :
    checkData v = .error .dataNotMapping := by
  have unmapped : ∀ form entries, v.untie ≠ .mapping form entries := by
    intro form entries untied
    simp [Value.entries?, untied] at other
  unfold checkData
  split
  · exact absurd rfl given
  · rename_i untied
    exact absurd untied (unmapped _ _)
  · rename_i untied
    exact absurd untied (unmapped _ _)
  · rfl

theorem readData_eq_ok_some (read : readData conversions v = .ok (some data)) :
    ∃ shown, conversions.toDictionary shown = .ok data := by
  obtain ⟨shown, _, read⟩ := Search.bind_eq_ok_iff.mp read
  cases shown with
  | null => simp [pure, Except.pure] at read
  | _ =>
    obtain ⟨entries, converted, same⟩ := Search.bind_eq_ok_iff.mp read
    obtain rfl : entries = data := by simpa [pure, Except.pure] using same
    exact ⟨_, converted⟩

theorem readData_dataValue (lawful : library.Lawful) (apart : (data.map Prod.fst).Nodup) :
    readData library.toConversions (dataValue data) = .ok (some data) := by
  have converted := lawful.dictionary apart
  have checked : checkData (dataValue data) = .ok (dataValue data) := rfl
  rw [readData, readField_eq_ok_iff.mpr checked]
  change library.toDictionary (dataValue data) >>= _ = _
  rw [converted]
  rfl

theorem le_of_readDepth {n : Nat} (read : readDepth conversions v = .ok n) : leastDepth ≤ n := by
  obtain ⟨z, _, bounded⟩ := Search.bind_eq_ok_iff.mp read
  split at bounded
  · simp at bounded
  · have same : z.toNat = n := Except.ok.inj bounded
    omega

theorem readDepth_int (lawful : library.Lawful) {n : Nat} (above : leastDepth ≤ n) :
    readDepth library.toConversions (.int n) = .ok n := by
  have read := lawful.integer n
  have within : ¬ (n : Int) < leastDepth := by omega
  simp [readDepth, read, within, bind, Except.bind, pure, Except.pure]

theorem readDepth_of_lower {n : Int} (read : conversions.toInteger v = .ok n) (lower : n < leastDepth) :
    readDepth conversions v = .error (.belowLeast leastDepth) := by
  simp [readDepth, read, lower, bind, Except.bind]

/-- The least depth is one, and no two keys of the fallback data are alike. -/
structure IsNormal (o : Options) : Prop where
  depth : leastDepth ≤ o.maxDepth
  keys : ∀ data, o.data = some data → (data.map Prod.fst).Nodup

theorem WrittenIn.isNormal (lawful : library.Lawful) (written : o.WrittenIn library.toConversions entries) :
    o.IsNormal := by
  constructor
  · rcases written.maxDepth with ⟨_, default⟩ | ⟨v, _, read⟩
    · rw [default]
      decide
    · exact le_of_readDepth (readField_eq_ok_iff.mp read)
  · intro data held
    rcases written.data with ⟨_, default⟩ | ⟨v, _, read⟩
    · rw [default] at held
      simp at held
    · obtain ⟨shown, converted⟩ := readData_eq_ok_some (held ▸ read)
      exact lawful.keys converted

theorem isNormal_default : IsNormal {} := ⟨by decide, by simp⟩

theorem nodup_toEntries (o : Options) : (o.toEntries.map Prod.fst).Nodup := by
  simp [toEntries]

theorem WrittenIn.perm {entries' : List (Value × Value)} (written : o.WrittenIn conversions entries)
    (perm : entries'.Perm entries) (apart : (entries.map Prod.fst).Nodup) :
    o.WrittenIn conversions entries' := by
  have apart' : (entries'.map Prod.fst).Nodup := (perm.map Prod.fst).nodup_iff.mpr apart
  have found := Value.lookup_perm perm apart'
  exact {
    data := by simpa only [Given, found] using written.data
    debug := by simpa only [Given, found] using written.debug
    strict := by simpa only [Given, found] using written.strict
    maxDepth := by simpa only [Given, found] using written.maxDepth
    named := fun e member => written.named e (perm.mem_iff.mp member) }

theorem writtenIn_toEntries_iff (lawful : library.Lawful) :
    o.WrittenIn library.toConversions o.toEntries ↔ o.IsNormal := by
  refine ⟨WrittenIn.isNormal lawful, fun normal => ?_⟩
  have data : readData library.toConversions (o.fallback.getD .null) = .ok o.data := by
    cases held : o.data with
    | none =>
      simp only [fallback, held, Option.map_none, Option.getD_none]
      rfl
    | some data =>
      have apart := normal.keys data held
      simpa [fallback, held] using readData_dataValue lawful apart
  exact {
    data := .inr ⟨_, by simp [toEntries, Value.lookup], data⟩
    debug := .inr ⟨.bool o.debug, by simp [toEntries, Value.lookup],
      readField_eq_ok_iff.mpr (lawful.bool o.debug)⟩
    strict := .inr ⟨.bool o.strict, by simp [toEntries, Value.lookup],
      readField_eq_ok_iff.mpr (lawful.bool o.strict)⟩
    maxDepth := .inr ⟨.int o.maxDepth, by simp [toEntries, Value.lookup],
      readField_eq_ok_iff.mpr (readDepth_int lawful normal.depth)⟩
    named := by simp [toEntries, names] }

/-- What a mapping of options may not hold: a key that names no option, fallback data that is no mapping, and a
depth that is converted to less than one. -/
inductive Spoilt (conversions : Conversions) (entries : List (Value × Value)) : Prop
  | unknown {name : String} {v : Value} : (.text name, v) ∈ entries → name ∉ names → Spoilt conversions entries
  | unnamed {key v : Value} : (key, v) ∈ entries → (∀ name, key ≠ .text name) → Spoilt conversions entries
  | data {v : Value} : Value.lookup "data" entries = some v → v ≠ .null → v.entries? = none →
      Spoilt conversions entries
  | depth {v : Value} {n : Int} : Value.lookup "max_depth" entries = some v →
      conversions.toInteger v = .ok n → n < 1 → Spoilt conversions entries

theorem Given.read_of_lookup {α : Type} {name : String} {default a : α}
    {read : Value → Except (List Problem) α}
    (given : Given entries name default read a) (held : Value.lookup name entries = some v) :
    read v = .ok a := by
  rcases given with ⟨absent, _⟩ | ⟨w, there, read⟩
  · simp [held] at absent
  · exact Option.some.inj (held.symm.trans there) ▸ read

theorem not_writtenIn_of_spoilt (spoilt : Spoilt conversions entries) : ¬ o.WrittenIn conversions entries := by
  intro written
  cases spoilt with
  | unknown member other =>
    obtain ⟨name, known, same⟩ := written.named _ member
    exact other (Value.text.inj same ▸ known)
  | unnamed member other =>
    obtain ⟨name, _, same⟩ := written.named _ member
    exact other name same
  | data held given other =>
    have read := written.data.read_of_lookup held
    simp [readData, readField, checkData_of_unmapped given other, Except.mapError, bind, Except.bind] at read
  | depth held converted lower =>
    have read := readField_eq_ok_iff.mp (written.maxDepth.read_of_lookup held)
    simp [readDepth_of_lower converted lower] at read

theorem coerce_of_entries (held : v.entries? = some entries) :
    coerce library v = (library.validate entries).mapError .options := by
  obtain ⟨form, untied⟩ := Value.untie_of_entries held
  have read : v.toEntries = .ok entries := by rw [Value.toEntries, untied]
  unfold coerce
  split
  · simp [Value.untie] at untied
  · rw [read]
    rfl

theorem coerce_eq_ok_iff (lawful : library.Lawful) (held : v.entries? = some entries) :
    coerce library v = .ok o ↔ o.WrittenIn library.toConversions entries := by
  rw [coerce_of_entries held, ← lawful.validate]
  cases library.validate entries <;> simp [Except.mapError]

theorem isNormal_of_coerce (lawful : library.Lawful) (read : coerce library v = .ok o) : o.IsNormal := by
  unfold coerce at read
  split at read
  · rw [← Except.ok.inj read]
    exact isNormal_default
  · obtain ⟨entries, _, read⟩ := Search.bind_eq_ok_iff.mp read
    cases written : library.validate entries with
    | error problems => simp [written, Except.mapError] at read
    | ok o' =>
      obtain rfl : o' = o := by simpa [written, Except.mapError] using read
      exact (lawful.validate.mp written).isNormal lawful

/-- A mapping of settings in the forms that they are kept in: fallback data that is nothing or a mapping from
texts of which no two are alike, two Booleans and a depth of at least one. -/
structure InNormalForm (fields : List (Value × Value)) : Prop where
  data : ∃ v, Value.lookup "data" fields = some v ∧ (v = .null ∨ ∃ entries, v = .plain entries ∧
    (∀ e ∈ entries, ∃ key, e.1 = .text key) ∧ (entries.map Prod.fst).Nodup)
  debug : ∃ b, Value.lookup "debug" fields = some (.bool b)
  strict : ∃ b, Value.lookup "strict" fields = some (.bool b)
  maxDepth : ∃ n : Nat, Value.lookup "max_depth" fields = some (.int n) ∧ 1 ≤ n

theorem IsNormal.inNormalForm (normal : o.IsNormal) : InNormalForm o.toEntries := by
  refine ⟨⟨o.fallback.getD .null, by simp [toEntries, Value.lookup], ?_⟩,
    ⟨o.debug, by simp [toEntries, Value.lookup]⟩, ⟨o.strict, by simp [toEntries, Value.lookup]⟩,
    ⟨o.maxDepth, by simp [toEntries, Value.lookup], normal.depth⟩⟩
  cases held : o.data with
  | none => exact .inl (by simp [fallback, held])
  | some data =>
    refine .inr ⟨_, by rw [fallback, held]; rfl, ?_, ?_⟩
    · intro e member
      obtain ⟨⟨key, held⟩, _, rfl⟩ := List.mem_map.mp member
      exact ⟨key, rfl⟩
    · rw [List.map_map]
      have texts := (normal.keys data held).map (f := Value.text) fun _ _ same => Value.text.inj same
      simpa [Function.comp_def] using texts

end Options

/-- With a library that keeps its promises, options that are read are in normal form and, written as a mapping
in any order, are read as themselves, while a mapping with any one thing wrong with it is refused as options. -/
theorem options_have_normal_form (library : Validator) (lawful : library.Lawful) (v : Value) :
    (∀ o, Options.coerce library v = .ok o → Options.InNormalForm o.toEntries ∧
      ∀ form entries, entries.Perm o.toEntries → Options.coerce library (.mapping form entries) = .ok o) ∧
    ∀ entries, v.entries? = some entries → Options.Spoilt library.toConversions entries →
      ∃ problems, Options.coerce library v = .error (.options problems) := by
  constructor
  · intro o read
    have normal : o.IsNormal := Options.isNormal_of_coerce lawful read
    refine ⟨normal.inNormalForm, fun form entries perm => ?_⟩
    have written : o.WrittenIn library.toConversions entries :=
      ((Options.writtenIn_toEntries_iff lawful).mpr normal).perm perm o.nodup_toEntries
    exact (Options.coerce_eq_ok_iff lawful rfl).mpr written
  · intro entries held spoilt
    rw [Options.coerce_of_entries held]
    cases validated : library.validate entries with
    | ok o => exact absurd (lawful.validate.mp validated) (Options.not_writtenIn_of_spoilt spoilt)
    | error problems => exact ⟨problems, rfl⟩

/-- Options in four other forms are read again from the mapping of their normal forms, turned around; with a
depth of zero they are not read. -/
theorem options_have_normal_form_of_words :
    let given : Value := .mapping .ordered [(.text "max_depth", .text " +0_7.0"), (.text "strict", .text "Yes"),
      (.text "debug", .number (.float (.finite false 1 0))),
      (.text "data", .mapping .view [(.text "a", .null)])]
    let o : Options := { data := some [("a", .null)], debug := true, strict := true, maxDepth := 7 }
    Options.library.Lawful ∧ Options.coerce Options.library given = .ok o ∧
      Options.coerce Options.library (.mapping .view o.toEntries.reverse) = .ok o ∧
      ∃ problems, Options.coerce Options.library (.plain [(.text "max_depth", .bool false)]) =
        .error (.options problems) := by
  intro given o
  have lawful := Options.lawful_library
  have depth : Options.readDepth Options.lenient (.text " +0_7.0") = .ok 7 := by decide +kernel
  have read : Options.coerce Options.library given = .ok o := (Options.coerce_eq_ok_iff lawful rfl).mpr {
    data := .inr ⟨_, rfl, rfl⟩
    debug := .inr ⟨_, rfl, rfl⟩
    strict := .inr ⟨_, rfl, rfl⟩
    maxDepth := .inr ⟨_, rfl, Options.readField_eq_ok_iff.mpr depth⟩
    named := by simp [Options.names] }
  have again := ((options_have_normal_form Options.library lawful given).1 o read).2
  refine ⟨lawful, read, again .view _ (List.reverse_perm _), ?_⟩
  have spoilt : Options.Spoilt Options.lenient [(.text "max_depth", .bool false)] :=
    .depth rfl rfl (by decide)
  exact (options_have_normal_form Options.library lawful _).2 _ rfl spoilt

end Criteria
