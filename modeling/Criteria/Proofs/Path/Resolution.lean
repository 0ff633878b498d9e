import Criteria.Proofs.Path.Selection

set_option autoImplicit false
set_option relaxedAutoImplicit false

/-!
# What paths lead to

A path is followed to what its segments select one after the other. One that is not followed to its end leads
to nothing, and nothing is an answer as well. Where all attributes can be read a path has no answer only where
it leads to a sequence and asks it for an index that has more digits than can be read.
-/

namespace Criteria

namespace Path

variable {v w path : Value} {segments : List String} {f : Fault}

/-- A value from which some first segments lead to a sequence, which the next one asks for an index that is
too long to read. -/
inductive Exceeds (v : Value) (segments : List String) : Fault → Prop
  | asked {before after : List String} {segment : String} {reached : Value} :
      segments = before ++ segment :: after → Leads v before reached → OverlongAt reached segment →
      Exceeds v segments (.tooManyDigits segment.toList.length)

theorem walk_eq_error_iff (readable : v.Readable) : walk v segments = .error f ↔ Exceeds v segments f := by
  constructor
  · intro stopped
    -- On the segments: a value that is stepped to lies within the one before, so that it is readable too.
    induction segments generalizing v with
    | nil => simp [walk] at stopped
    | cons segment rest ih =>
      rw [walk_cons] at stopped
      rcases Search.bind_eq_error_iff.mp stopped with here | ⟨next, taken, onward⟩
      · obtain ⟨overlong, rfl⟩ := (step_eq_error_iff readable).mp here
        exact .asked rfl (.nil v) overlong
      · have reached : next ≠ .undefined := by
          rintro rfl
          simp [walk_undefined] at onward
        obtain ⟨split, leads, overlong⟩ := ih (readable.of_covers (step_covers taken)) onward
        exact .asked (by rw [split]; rfl) (.cons (selects_of_step taken reached) leads) overlong
  · rintro ⟨rfl, leads, overlong⟩
    have followed := walk_of_leads leads
    have stopped := (step_eq_error_iff (readable.of_covers (walk_covers followed))).mpr ⟨overlong, rfl⟩
    rw [walk_append, followed]
    change walk _ (_ :: _) = _
    rw [walk_cons, stopped]
    rfl

theorem isText_or_select (path : Value) :
    (∃ text, path = .text text) ∨ ∀ v, select v path = .ok .undefined := by
  cases path with
  | text text => exact .inl ⟨text, rfl⟩
  | _ => exact .inr fun _ => rfl

/-- What a path leads to; only a text leads anywhere. -/
def Reaches (v path w : Value) : Prop := ∃ text, path = .text text ∧ Leads v (steps text) w

/-- A path leads to an index that is too long to read. -/
def Overreaches (v path : Value) (f : Fault) : Prop := ∃ text, path = .text text ∧ Exceeds v (steps text) f

theorem select_eq_error_iff (readable : v.Readable) : select v path = .error f ↔ Overreaches v path f := by
  constructor
  · intro stopped
    rcases isText_or_select path with ⟨text, rfl⟩ | nowhere
    · rw [select_text] at stopped
      exact ⟨text, rfl, (walk_eq_error_iff readable).mp stopped⟩
    · simp [nowhere v] at stopped
  · rintro ⟨text, rfl, exceeds⟩
    rw [select_text]
    exact (walk_eq_error_iff readable).mpr exceeds

theorem select_of_reaches (reaches : Reaches v path w) : select v path = .ok w := by
  obtain ⟨text, rfl, leads⟩ := reaches
  rw [select_text]
  exact walk_of_leads leads

theorem reaches_of_select (selected : select v path = .ok w) (defined : w ≠ .undefined) : Reaches v path w := by
  rcases isText_or_select path with ⟨text, rfl⟩ | nowhere
  · rw [select_text] at selected
    exact ⟨text, rfl, leads_of_walk selected defined⟩
  · rw [nowhere v] at selected
    exact absurd (Except.ok.inj selected).symm defined

theorem select_eq_ok_iff (readable : v.Readable) :
    select v path = .ok w ↔
      Reaches v path w ∨ w = .undefined ∧ (∀ w', ¬ Reaches v path w') ∧ ∀ f, ¬ Overreaches v path f := by
  constructor
  · intro selected
    by_cases reached : ∃ w', Reaches v path w'
    · obtain ⟨w', reaches⟩ := reached
      rw [select_of_reaches reaches] at selected
      exact .inl (Except.ok.inj selected ▸ reaches)
    · have missed : w = .undefined :=
        Classical.byContradiction fun defined => reached ⟨w, reaches_of_select selected defined⟩
      refine .inr ⟨missed, fun w' reaches => reached ⟨w', reaches⟩, fun f overreaches => ?_⟩
      rw [(select_eq_error_iff readable).mpr overreaches] at selected
      simp at selected
  · rintro (reaches | ⟨rfl, missed, unstopped⟩)
    · exact select_of_reaches reaches
    · cases answer : select v path with
      | error f => exact absurd ((select_eq_error_iff readable).mp answer) (unstopped f)
      | ok w =>
        by_cases defined : w = .undefined
        · rw [defined]
        · exact absurd (reaches_of_select answer defined) (missed w)

variable {fallback : Option Value}

theorem resolve_none : resolve v path none = select v path := by
  unfold resolve
  cases select v path with
  | error f => rfl
  | ok found => cases found <;> rfl

theorem resolve_of_found (selected : select v path = .ok w) (defined : w ≠ .undefined) :
    resolve v path fallback = .ok w := by
  unfold resolve
  rw [selected]
  cases w with
  | undefined => exact absurd rfl defined
  | _ => rfl

theorem resolve_of_missed {data : Value} (missed : select v path = .ok .undefined) :
    resolve v path (some data) = select data path := by
  unfold resolve
  rw [missed]
  rfl

theorem resolve_of_error (stopped : select v path = .error f) : resolve v path fallback = .error f := by
  unfold resolve
  rw [stopped]
  rfl

theorem resolve_eq_error_iff :
    resolve v path fallback = .error f ↔ select v path = .error f ∨
      select v path = .ok .undefined ∧ ∃ data, fallback = some data ∧ select data path = .error f := by
  cases selected : select v path with
  | error g => simp [resolve_of_error selected]
  | ok found =>
    by_cases defined : found = .undefined
    · subst defined
      cases fallback with
      | none => simp [resolve_none, selected]
      | some data => simp [resolve_of_missed selected]
    · simp [resolve_of_found selected defined, defined]

theorem resolve_eq_ok_iff :
    resolve v path fallback = .ok w ↔ select v path = .ok w ∧ (w = .undefined → fallback = none) ∨
      select v path = .ok .undefined ∧ ∃ data, fallback = some data ∧ select data path = .ok w := by
  cases selected : select v path with
  | error g => simp [resolve_of_error selected]
  | ok found =>
    by_cases defined : found = .undefined
    · subst defined
      cases fallback with
      | none => simp +contextual [resolve_none, selected]
      | some data => simp +contextual [resolve_of_missed selected, eq_comm]
    · simp +contextual [resolve_of_found selected defined, defined, eq_comm]

theorem isPresent_eq_ok_iff {b : Bool} :
    isPresent v path fallback = .ok b ↔
      ∃ w, resolve v path fallback = .ok w ∧ (b = true ↔ w ≠ .undefined) := by
  have present (w : Value) : (!w.isUndefined) = b ↔ (b = true ↔ w ≠ .undefined) := by
    cases w <;> cases b <;> simp [Value.isUndefined]
  rw [isPresent, Search.bind_eq_ok_iff]
  refine exists_congr fun w => and_congr_right fun _ => ?_
  rw [← present w]
  exact ⟨Except.ok.inj, congrArg Except.ok⟩

end Path

/-- Where no attribute fails to be read, a path is followed to an answer, which is nothing where the path
leads nowhere, unless it asks a sequence for an index that is written with more digits than can be read. Only
where it leads to nothing is it followed in the fallback. -/
theorem Path.resolve_answers_unless_overreaching (v path : Value) (fallback : Option Value)
    (readable : v.Readable) (readableData : ∀ data, fallback = some data → data.Readable) :
    (∀ f, select v path = .error f ↔ Overreaches v path f) ∧
    (∀ w, select v path = .ok w ↔
      Reaches v path w ∨ w = .undefined ∧ (∀ w', ¬ Reaches v path w') ∧ ∀ f, ¬ Overreaches v path f) ∧
    (∀ f, resolve v path fallback = .error f ↔ Overreaches v path f ∨
      select v path = .ok .undefined ∧ ∃ data, fallback = some data ∧ Overreaches data path f) ∧
    (∀ w, resolve v path fallback = .ok w ↔
      select v path = .ok w ∧ (w = .undefined → fallback = none) ∨
      select v path = .ok .undefined ∧ ∃ data, fallback = some data ∧ select data path = .ok w) ∧
    ∀ b, isPresent v path fallback = .ok b ↔
      ∃ w, resolve v path fallback = .ok w ∧ (b = true ↔ w ≠ .undefined) := by
  have stopped (f : Fault) : select v path = .error f ↔ Overreaches v path f := select_eq_error_iff readable
  have stoppedData (f : Fault) : (∃ data, fallback = some data ∧ select data path = .error f) ↔
      ∃ data, fallback = some data ∧ Overreaches data path f :=
    exists_congr fun data => and_congr_right fun given => select_eq_error_iff (readableData data given)
  refine ⟨stopped, fun w => select_eq_ok_iff readable, fun f => ?_, fun w => resolve_eq_ok_iff,
    fun b => isPresent_eq_ok_iff⟩
  rw [resolve_eq_error_iff, stopped, stoppedData]

/-- A tag is found in the list of tags, and the fallback is not asked. -/
theorem Path.resolve_answers_unless_overreaching_of_tag :
    let v := Value.plain [(.text "tags", .list [.text "x", .text "y"])]
    let data := Value.plain [(.text "tags", .null)]
    v.Readable ∧ (∀ given, some data = some given → given.Readable) ∧
      Reaches v (.text "tags.y") (.text "y") ∧
      resolve v (.text "tags.y") (some data) = .ok (.text "y") ∧
      isPresent v (.text "tags.y") (some data) = .ok true := by
  intro v data
  have leaf {w : Value} (other : ∀ attributes broken, w ≠ .object attributes broken) (none : w.parts = []) :
      w.Readable := .of_parts other (by simp [none])
  have tags : (Value.list [.text "x", .text "y"]).Readable := by
    refine .of_parts (by simp [Value.list]) ?_
    change ∀ part ∈ [Value.text "x", .text "y"], part.Readable
    simpa using ⟨leaf (by simp) rfl, leaf (by simp) rfl⟩
  have readable : v.Readable := by
    refine .of_parts (by simp [v, Value.plain]) ?_
    change ∀ part ∈ [Value.list [.text "x", .text "y"]], part.Readable
    simpa using tags
  have readableData : ∀ given, some data = some given → given.Readable := by
    rintro given same
    rw [← Option.some.inj same]
    refine .of_parts (by simp [data, Value.plain]) ?_
    change ∀ part ∈ [Value.null], part.Readable
    simpa using leaf (by simp) rfl
  have reaches : Reaches v (.text "tags.y") (.text "y") := by
    have key : Selects v "tags" (.list [.text "x", .text "y"]) := .key rfl ⟨[], [], rfl, by simp⟩
    have item : Selects (.list [.text "x", .text "y"]) "y" (.text "y") :=
      .item rfl (by simp) fun digits => absurd digits (by decide)
    exact ⟨"tags.y", rfl, .cons key (.cons item (.nil _))⟩
  obtain ⟨_, selected, _, resolved, present⟩ :=
    resolve_answers_unless_overreaching v (.text "tags.y") (some data) readable readableData
  have found : resolve v (.text "tags.y") (some data) = .ok (.text "y") :=
    (resolved _).mpr (.inl ⟨(selected _).mpr (.inl reaches), by simp⟩)
  exact ⟨readable, readableData, reaches, found, (present true).mpr ⟨_, found, by simp⟩⟩

/-- An index of a list that is written with one digit more than can be read. -/
theorem Path.not_resolve_answers :
    ¬ ∀ (v path : Value) (fallback : Option Value), v.Readable →
      (∀ data, fallback = some data → data.Readable) →
      (∃ w, select v path = .ok w) ∧ (∃ w, resolve v path fallback = .ok w) ∧
        ∃ b, isPresent v path fallback = .ok b := by
  intro answers
  let digits := List.replicate 4301 '1'
  let segment := String.ofList digits
  have chars : segment.toList = digits := String.toList_ofList
  have allDigits : digits.all Char.isDigit = true := by
    rw [List.all_replicate]
    rfl
  have undotted : '.' ∉ segment.toList := by
    rw [chars, List.mem_replicate]
    simp
  have nonempty : segment ≠ "" := by
    intro empty
    have none : segment.toList.length = 0 := by rw [empty]; rfl
    rw [chars, List.length_replicate] at none
    exact absurd none (by decide)
  have alone : steps segment = [segment] := by rw [steps_of_ne nonempty, segments_of_undotted undotted]
  have readable : (Value.list []).Readable := by
    refine .of_parts (by simp [Value.list]) ?_
    change ∀ part ∈ [], Value.Readable part
    simp
  have overlong : OverlongAt (.list []) segment := by
    refine ⟨rfl, ?_, ?_⟩
    · simp only [isIndex, chars, allDigits, Bool.and_true]
      rfl
    · rw [chars, List.length_replicate]
      decide
  have overreaches : Overreaches (.list []) (.text segment) (.tooManyDigits segment.toList.length) :=
    ⟨segment, rfl, .asked (show steps segment = [] ++ segment :: [] from alone) (.nil _) overlong⟩
  obtain ⟨⟨w, answer⟩, _⟩ := answers (.list []) (.text segment) none readable (by simp)
  rw [(select_eq_error_iff readable).mpr overreaches] at answer
  simp at answer

end Criteria
