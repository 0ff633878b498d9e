import Criteria.Path
import Criteria.Proofs.Search

set_option autoImplicit false
set_option relaxedAutoImplicit false

/-!
# Segments of paths

A path has the segments that its dots divide it into, so that paths joined by a dot are followed one after
the other, and texts without dots are the segments of the path that joins them. An index is written in
decimal and read back.
-/

namespace Criteria

theorem Decimal.digitsValue_toDigits (n : Nat) : digitsValue (Nat.toDigits 10 n) = n := by
  have read : digitsValue (Nat.toDigits 10 n) = Nat.ofDigitChars 10 (Nat.toDigits 10 n) 0 := by
    simp only [digitsValue, Nat.ofDigitChars, Nat.mul_comm]
    rfl
  rw [read, Nat.ofDigitChars_ten_toDigits]

namespace Path

private theorem segmentsFrom_eq (current rest : List Char) :
    segmentsFrom current rest =
      (List.splitOnPPrepend (· == '.') rest current).map String.ofList := by
  induction rest generalizing current with
  | nil => rfl
  | cons c rest ih =>
    rw [segmentsFrom, List.splitOnPPrepend_cons_eq_if]
    split
    · rw [List.map_cons, ih]
      rfl
    · exact ih (c :: current)

theorem segments_eq_splitOn (path : String) :
    segments path = (path.toList.splitOn '.').map String.ofList :=
  segmentsFrom_eq [] path.toList

theorem segments_append (p q : String) : segments (p ++ "." ++ q) = segments p ++ segments q := by
  have joined : (p ++ "." ++ q).toList = p.toList ++ '.' :: q.toList := by simp
  rw [segments_eq_splitOn, segments_eq_splitOn, segments_eq_splitOn, joined,
    List.splitOn_eq_splitOnP, List.splitOnP_append_cons _ _ (by simp), List.map_append]
  rfl

theorem segments_intercalate {steps : List String} (undotted : ∀ step ∈ steps, '.' ∉ step.toList)
    (nonempty : steps ≠ []) : segments (".".intercalate steps) = steps := by
  have apart : ∀ chars ∈ steps.map String.toList, '.' ∉ chars := by
    simpa only [List.forall_mem_map] using undotted
  have joined : (".".intercalate steps).toList = ['.'].intercalate (steps.map String.toList) :=
    String.toList_intercalate
  rw [segments_eq_splitOn, joined, List.splitOn_intercalate '.' apart (by simpa using nonempty),
    List.map_map]
  have kept : String.ofList ∘ String.toList = id := by
    funext s
    exact String.ofList_toList
  rw [kept, List.map_id]

theorem segments_of_undotted {segment : String} (undotted : '.' ∉ segment.toList) :
    segments segment = [segment] := by
  have alone : segments (".".intercalate [segment]) = [segment] :=
    segments_intercalate (by simpa using undotted) (by simp)
  simpa using alone

/-- The segments that are followed: the empty path has none. -/
def steps (path : String) : List String := if path = "" then [] else segments path

@[simp] theorem steps_empty : steps "" = [] := rfl

theorem steps_of_ne {path : String} (nonempty : path ≠ "") : steps path = segments path :=
  if_neg nonempty

theorem steps_append {p q : String} (p_ne : p ≠ "") (q_ne : q ≠ "") :
    steps (p ++ "." ++ q) = steps p ++ steps q := by
  have joined : p ++ "." ++ q ≠ "" := by simp
  rw [steps_of_ne joined, steps_of_ne p_ne, steps_of_ne q_ne, segments_append]

theorem steps_intercalate {chain : List String} (undotted : ∀ step ∈ chain, '.' ∉ step.toList)
    (other : chain ≠ [""]) : steps (".".intercalate chain) = chain := by
  cases chain with
  | nil => rfl
  | cons step rest =>
    have segmented : segments (".".intercalate (step :: rest)) = step :: rest :=
      segments_intercalate undotted (by simp)
    have nonempty : ".".intercalate (step :: rest) ≠ "" := by
      intro empty
      rw [empty] at segmented
      exact other segmented.symm
    rw [steps_of_ne nonempty, segmented]

theorem isIndex_toString (i : Nat) : isIndex (toString i) = true := by
  have digits : ∀ c ∈ Nat.toDigits 10 i, c.isDigit = true :=
    fun c member => Nat.isDigit_of_mem_toDigits (by decide) (by decide) member
  simpa [isIndex, Nat.toString_eq_repr, Nat.toList_repr, Nat.toDigits_ne_nil] using digits

theorem digitsValue_toString (i : Nat) : Decimal.digitsValue (toString i).toList = i := by
  rw [Nat.toString_eq_repr, Nat.toList_repr, Decimal.digitsValue_toDigits]

theorem undotted_toString (i : Nat) : '.' ∉ (toString i).toList := by
  intro dot
  rw [Nat.toString_eq_repr, Nat.toList_repr] at dot
  have digit : '.'.isDigit = true := Nat.isDigit_of_mem_toDigits (by decide) (by decide) dot
  exact absurd digit (by decide)

theorem walk_undefined (segments : List String) : walk .undefined segments = .ok .undefined := by
  cases segments <;> rfl

theorem walk_cons (v : Value) (segment : String) (rest : List String) :
    walk v (segment :: rest) = step v segment >>= fun next => walk next rest := by
  rw [walk]
  congr 1
  funext next
  cases next with
  | undefined => exact (walk_undefined rest).symm
  | _ => rfl

theorem walk_append (v : Value) (first second : List String) :
    walk v (first ++ second) = walk v first >>= fun next => walk next second := by
  induction first generalizing v with
  | nil => rfl
  | cons segment rest ih =>
    rw [List.cons_append, walk_cons, walk_cons, bind_assoc]
    congr 1
    funext next
    exact ih next

theorem select_text (v : Value) (path : String) : select v (.text path) = walk v (steps path) := by
  by_cases empty : path = ""
  · rw [empty]
    rfl
  · rw [steps_of_ne empty]
    unfold select
    split
    · rename_i same
      exact absurd (Value.text.inj same) empty
    · rename_i same
      rw [Value.text.inj same]
    · rename_i other
      exact absurd rfl (other path)

theorem select_append (v : Value) {p q : String} (p_ne : p ≠ "") (q_ne : q ≠ "") :
    select v (.text (p ++ "." ++ q)) = select v (.text p) >>= fun found => select found (.text q) := by
  simp only [select_text, steps_append p_ne q_ne, walk_append]

end Path

end Criteria
