/-!
# Faults of templates

The ways in which a template can fail, when it is compiled or when it is rendered. A fault inside
an included template or a parent's block is reported as a fault of the inclusion or the block.
-/

namespace TemplateCatalog.Template

/-- A way in which a template fails. -/
inductive Fault where
  /-- The text is no template. -/
  | malformed
  /-- A text between quotes has an escape that stands for no character. -/
  | badEscape
  /-- A part of an undefined value was asked for. -/
  | undefinedValue
  /-- An operation does not apply to its operands. -/
  | invalidOperation
  /-- No filter has the name. -/
  | unknownFilter
  /-- No test has the name. -/
  | unknownTest
  /-- Nothing has the name that is called. -/
  | unknownFunction
  /-- The value has no method of the name. -/
  | unknownMethod
  /-- No template has the name. -/
  | templateNotFound
  /-- A call lacks an argument. -/
  | missingArgument
  /-- A call has an argument too many. -/
  | tooManyArguments
  /-- A value cannot be taken apart into as many variables. -/
  | cannotUnpack
  /-- An included template failed. -/
  | inclusion
  /-- The block of a parent failed. -/
  | parentBlock
  /-- No block has the name. -/
  | unknownBlock
  deriving DecidableEq, Repr

/-- The name of the fault, with which messages about it begin. The details of the fault and its
place come after it. They depend on the template's name and text when it is compiled, and when it is
rendered, on the library and the context besides. -/
def Fault.text : Fault → String
  | .malformed => "syntax error"
  | .badEscape => "bad string escape"
  | .undefinedValue => "undefined value"
  | .invalidOperation => "invalid operation"
  | .unknownFilter => "unknown filter"
  | .unknownTest => "unknown test"
  | .unknownFunction => "unknown function"
  | .unknownMethod => "unknown method"
  | .templateNotFound => "template not found"
  | .missingArgument => "missing argument"
  | .tooManyArguments => "too many arguments"
  | .cannotUnpack => "cannot unpack"
  | .inclusion => "could not render include"
  | .parentBlock => "could not render block"
  | .unknownBlock => "unknown block"

end TemplateCatalog.Template
