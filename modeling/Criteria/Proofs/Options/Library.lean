import Criteria.Options.Reading
import Criteria.Proofs.Search
import Mathlib.Data.List.Nodup

set_option autoImplicit false
set_option relaxedAutoImplicit false

/-!
# The lenient library of validators

The lenient library keeps what is promised of one: its conversions keep what has the form already, a dictionary
has one value for each text, and a mapping is valid exactly where its options can be read and it has no others.
-/

namespace Criteria

namespace Options

variable {entries : List (Value × Value)} {o : Options} {kept data : List (String × Value)}

theorem optional_eq_ok_iff {α : Type} {name : String} {default a : α}
    {read : Value → Except (List Problem) α} :
    optional entries name default read = .ok a ↔ Given entries name default read a := by
  unfold optional Given
  cases Value.lookup name entries <;> simp [eq_comm]

theorem keyProblem?_eq_none_iff {key : Value} : keyProblem? key = none ↔ ∃ name ∈ names, key = .text name := by
  cases key with
  | text name => simp [keyProblem?]
  | _ => simp [keyProblem?]

theorem others_eq_nil_iff :
    entries.filterMap (keyProblem? ·.1) = [] ↔ ∀ e ∈ entries, ∃ name ∈ names, e.1 = .text name := by
  simp only [List.filterMap_eq_nil_iff, keyProblem?_eq_none_iff]

theorem ofEntries_eq_ok_iff : ofEntries entries = .ok o ↔ o.WrittenIn lenient entries := by
  constructor
  · intro read
    unfold ofEntries at read
    dsimp only at read
    split at read
    · rename_i data debug strict maxDepth isData isDebug isStrict isDepth named
      cases read
      exact {
        data := optional_eq_ok_iff.mp isData
        debug := optional_eq_ok_iff.mp isDebug
        strict := optional_eq_ok_iff.mp isStrict
        maxDepth := optional_eq_ok_iff.mp isDepth
        named := others_eq_nil_iff.mp named }
    · simp at read
  · intro written
    unfold ofEntries
    rw [optional_eq_ok_iff.mpr written.data, optional_eq_ok_iff.mpr written.debug,
      optional_eq_ok_iff.mpr written.strict, optional_eq_ok_iff.mpr written.maxDepth,
      others_eq_nil_iff.mpr written.named]

theorem keys_enterName (kept : List (String × Value)) (name : String) (v : Value) :
    (enterName kept name v).map Prod.fst =
      if name ∈ kept.map Prod.fst then kept.map Prod.fst else kept.map Prod.fst ++ [name] := by
  have known : kept.any (·.1 == name) = true ↔ name ∈ kept.map Prod.fst := by
    simp only [List.any_eq_true, beq_iff_eq, List.mem_map]
  unfold enterName
  split
  · rename_i present
    rw [if_pos (known.mp present), List.map_map]
    refine List.map_congr_left fun e _ => ?_
    by_cases same : e.1 = name <;> simp [same]
  · rename_i absent
    rw [if_neg (absent ∘ known.mpr), List.map_append]
    rfl

theorem nodup_enterName (apart : (kept.map Prod.fst).Nodup) (name : String) (v : Value) :
    ((enterName kept name v).map Prod.fst).Nodup := by
  rw [keys_enterName]
  split
  · exact apart
  · rename_i absent
    exact List.nodup_append'.mpr ⟨apart, List.nodup_singleton name, List.disjoint_singleton.mpr absent⟩

/-- Fallback data has one value for each text, also where two keys of the mapping write the same text. -/
theorem nodup_dataEntries (entries : List (Value × Value)) : ((dataEntries entries).map Prod.fst).Nodup := by
  refine List.foldlRecOn (motive := fun kept : List (String × Value) => (kept.map Prod.fst).Nodup) entries _
    List.nodup_nil ?_
  intro kept apart e _
  cases key : dataKey e.1 with
  | ok name => simpa only [key] using nodup_enterName apart name e.2
  | error problem => simpa only [key] using apart

theorem enterName_of_not_mem {name : String} (absent : name ∉ kept.map Prod.fst) (v : Value) :
    enterName kept name v = kept ++ [(name, v)] := by
  have unknown : kept.any (·.1 == name) = false := by
    rw [Bool.eq_false_iff, ne_eq, List.any_eq_true]
    rintro ⟨e, member, same⟩
    exact absent (List.mem_map.mpr ⟨e, member, eq_of_beq same⟩)
  rw [enterName, unknown]
  rfl

theorem foldl_enterName (apart : ((kept ++ data).map Prod.fst).Nodup) :
    data.foldl (fun kept e => enterName kept e.1 e.2) kept = kept ++ data := by
  -- On the names still to be entered: they stay apart from each other and from those that are kept.
  induction data generalizing kept with
  | nil => simp
  | cons e rest ih =>
    rw [List.append_cons] at apart ⊢
    have first : ((kept ++ [e]).map Prod.fst).Nodup := by
      rw [List.map_append] at apart
      exact (List.nodup_append'.mp apart).1
    have absent : e.1 ∉ kept.map Prod.fst := by
      rw [List.map_append] at first
      exact List.disjoint_singleton.mp (List.nodup_append'.mp first).2.2
    rw [List.foldl_cons, enterName_of_not_mem absent, ih apart]

theorem dataEntries_of_nodup (apart : (data.map Prod.fst).Nodup) :
    dataEntries (data.map fun (key, v) => (.text key, v)) = data := by
  rw [dataEntries, List.foldl_map]
  exact foldl_enterName (by simpa using apart)

theorem toDictionary_dataValue (apart : (data.map Prod.fst).Nodup) :
    toDictionary (dataValue data) = .ok data := by
  have noProblems : dataProblems (data.map fun (key, v) => (.text key, v)) = [] := by
    rw [dataProblems, List.filterMap_map, List.filterMap_eq_nil_iff]
    simp [dataKey]
  simp only [toDictionary, dataValue, Value.entries?, Value.plain, Value.untie, noProblems, List.isEmpty_nil,
    if_true, dataEntries_of_nodup apart]

theorem nodup_of_toDictionary {v : Value} (read : toDictionary v = .ok data) : (data.map Prod.fst).Nodup := by
  unfold toDictionary at read
  split at read
  · dsimp only at read
    split at read
    · rw [← Except.ok.inj read]
      exact nodup_dataEntries _
    · simp at read
  · simp at read

end Options

theorem Setting.toInteger_int (n : Int) : toInteger (.int n) = .ok n := by
  simp [toInteger, Value.int, text?, ofWhole, Number.measure, Scaled.isInteger, Scaled.truncate]

theorem Options.lawful_library : library.Lawful where
  bool _ := rfl
  integer := Setting.toInteger_int
  dictionary := toDictionary_dataValue
  keys := nodup_of_toDictionary
  validate := ofEntries_eq_ok_iff

end Criteria
