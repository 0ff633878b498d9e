import Criteria.RuleSet.Document

set_option autoImplicit false
set_option relaxedAutoImplicit false

/-!
# Rules from texts

What a text writes is for a reader of documents to say, and rule trees and rule sets are loaded with any
reader. A text that is no document is a load fault. Whatever else goes wrong in a reader goes through.
-/

namespace Criteria

inductive ReadFault
  | invalid
  | other (f : Fault)

def DocumentReader : Type := String → Except ReadFault Value

namespace DocumentReader

variable (reader : DocumentReader)

def document (text : String) : Except Fault Value :=
  match reader text with
  | .ok document => .ok document
  | .error .invalid => .error (.load .invalidDocument)
  | .error (.other f) => .error f

def loadRuleTree (text : String) : Except Fault Value := do
  ruleTree (← reader.document text)

def loadRuleSet (text : String) : Except Fault (List NamedRule) := do
  RuleSet.ofDocument (← reader.document text)

variable {reader} {text : String} {document : Value} {f : Fault}

theorem document_of_written (written : reader text = .ok document) :
    reader.document text = .ok document := by
  rw [DocumentReader.document, written]

theorem document_eq_ok_iff : reader.document text = .ok document ↔ reader text = .ok document := by
  unfold DocumentReader.document
  split
  · rename_i written
    simp [written]
  · rename_i invalid
    simp [invalid]
  · rename_i failed
    simp [failed]

theorem document_eq_error_iff : reader.document text = .error f ↔
    (reader text = .error .invalid ∧ f = .load .invalidDocument) ∨ reader text = .error (.other f) := by
  unfold DocumentReader.document
  split
  · rename_i written
    simp [written]
  · rename_i invalid
    simp [invalid, eq_comm]
  · rename_i failed
    simp [failed]

theorem loadRuleSet_of_written (written : reader text = .ok document) :
    reader.loadRuleSet text = RuleSet.ofDocument document := by
  rw [loadRuleSet, document_of_written written]
  rfl

end DocumentReader

end Criteria
