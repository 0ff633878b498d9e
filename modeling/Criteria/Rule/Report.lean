import Criteria.Rule.Evaluation

set_option autoImplicit false
set_option relaxedAutoImplicit false

/-!
# Reports

A report is a verdict with the trace that led to it. It can be summed up for a reader, one line for
each judgement, and exported as a mapping in which values are shown in their written form.
-/

namespace Criteria

structure Report where
  result : Bool
  trace : List Judgement

def Judgement.toValue (j : Judgement) : Value := .plain [
  (.text "path", .text j.path), (.text "rule", .text j.rule),
  (.text "argument", .text j.argument.literal), (.text "value", .text j.value.literal),
  (.text "result", .bool j.result), (.text "depth", .int j.depth)]

namespace Report

def failed (r : Report) : List Judgement := r.trace.filter fun j => !j.result

def summaryLine (j : Judgement) : String :=
  Judgement.indent (j.depth + 1) ++ j.path ++ ": " ++ (if j.result then "ok" else "FAIL")

def summary (r : Report) : String :=
  "\n".intercalate
    (("Evaluation " ++ (if r.result then "PASSED" else "FAILED")) :: r.trace.map summaryLine)

def toValue (r : Report) : Value :=
  .plain [(.text "result", .bool r.result), (.text "trace", .list (r.trace.map Judgement.toValue))]

end Report

def explain (table : PredicateTable) (o : Options) (v rules : Value) : Except Fault Report :=
  let run := evaluate table o v rules
  run.verdict.map fun result => ⟨result, run.trace⟩

end Criteria
