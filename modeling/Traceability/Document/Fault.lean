import Traceability.Emphasis
set_option autoImplicit false

/-!
# Documents: syntax faults

Reading a document never fails.  It notes what it could not make sense of, and goes on.
-/

namespace Traceability.Document

/-- The stage of reading that met a fault. -/
inductive Stage where
  /-- Cutting a line into spans. -/
  | lexical
  /-- Putting lines together into blocks. -/
  | parse
  deriving DecidableEq, Repr, Inhabited

/-- Why a part of a document makes no sense. -/
inductive FaultCause where
  /-- An opening marker without a closing one on its line. -/
  | unterminated (kind : Emphasis)
  /-- A requirement that never says what shall be. -/
  | missingKeyword
  /-- An implementation link without a bold target. -/
  | missingTarget
  /-- Something other than a comma between two targets. -/
  | missingComma
  /-- One of several targets that is no identifier. -/
  | notIdentifier
  deriving DecidableEq, Repr, Inhabited

namespace FaultCause

/-- The stage that meets such a fault. -/
def stage : FaultCause → Stage
  | unterminated _ => .lexical
  | _ => .parse

/-- The words in which the fault is reported. -/
def message : FaultCause → String
  | unterminated .bold => "unterminated bold text"
  | unterminated .italic => "unterminated italic text"
  | missingKeyword => "requirement without **shall** keyword"
  | missingTarget => "implements link without target"
  | missingComma => "expected ',' between targets"
  | notIdentifier => "expected requirement identifier"

end FaultCause

/-- A fault, the place where it was met, and the text at fault if there is any. -/
structure SyntaxFault where
  cause : FaultCause
  /-- The number of the line, counted from one. -/
  line : Nat
  /-- The column, counted from zero. -/
  column : Nat
  token : Option (List Char)
  deriving DecidableEq, Repr, Inhabited

end Traceability.Document
