/-!
# Diagnostics

Why an attribute application could not be parsed. An argument that the recorder refused is a
warning, the note of a combined parse that one of its passes failed is for information, and every
fault of the application itself is an error. A collector keeps what is reported to it in order.
-/
namespace AttributeArguments

inductive Category
  | type
  | constructor
  | named
deriving DecidableEq, Repr

def Category.name : Category → String
  | .type => "type"
  | .constructor => "constructor"
  | .named => "named"

inductive Severity
  | error
  | warning
  | info
deriving DecidableEq, Repr

def Severity.name : Severity → String
  | .error => "Error"
  | .warning => "Warning"
  | .info => "Info"

inductive Diagnostic where
  | unresolvedAttributeClass
  | typeArgumentCount (parameters arguments : Nat)
  | missingConstructor
  | constructorArgumentCount (parameters arguments : Nat)
  | writtenTypeArgumentCount (parameters arguments : Nat)
  | missingRequiredArgument (parameter : String)
  | unknownParameterLabel (label : String)
  | duplicateParameterLabel (label : String)
  | excessPositionalArguments (count : Nat)
  | argumentRejected (category : Category) (parameter : String)
  | semanticPassFailed
  | syntacticPassFailed
  | countMismatch (category : Category) (semantic syntactic : Nat)
deriving DecidableEq, Repr

namespace Diagnostic

def severity : Diagnostic → Severity
  | argumentRejected _ _ => .warning
  | semanticPassFailed => .info
  | syntacticPassFailed => .info
  | _ => .error

def message : Diagnostic → String
  | unresolvedAttributeClass => "attribute class did not resolve"
  | typeArgumentCount parameters arguments =>
    s!"attribute has {arguments} type arguments for {parameters} type parameters"
  | missingConstructor => "no attribute constructor was selected"
  | constructorArgumentCount parameters arguments =>
    s!"constructor has {parameters} parameters but {arguments} arguments were bound"
  | writtenTypeArgumentCount parameters arguments =>
    s!"attribute syntax has {arguments} type arguments for {parameters} type parameters"
  | missingRequiredArgument parameter =>
    s!"no argument for required constructor parameter `{parameter}`"
  | unknownParameterLabel label => s!"no constructor parameter named `{label}`"
  | duplicateParameterLabel label =>
    s!"constructor parameter `{label}` is labelled more than once"
  | excessPositionalArguments count =>
    s!"{count} positional arguments left over after binding the constructor"
  | argumentRejected category parameter =>
    s!"{category.name} argument `{parameter}` was not recorded"
  | semanticPassFailed => "semantic pass failed"
  | syntacticPassFailed => "syntactic pass failed"
  | countMismatch category semantic syntactic =>
    s!"{category.name} argument count mismatch: {semantic} semantic, {syntactic} syntactic"

end Diagnostic

structure Collector where
  diagnostics : List Diagnostic := []
deriving DecidableEq, Repr

namespace Collector

def report (c : Collector) (d : Diagnostic) : Collector := ⟨c.diagnostics ++ [d]⟩

def reportAll (c : Collector) (ds : List Diagnostic) : Collector := ds.foldl report c

def length (c : Collector) : Nat := c.diagnostics.length

def isEmpty (c : Collector) : Bool := c.diagnostics.isEmpty

def countOf (c : Collector) (d : Diagnostic) : Nat := c.diagnostics.count d

def countSeverity (c : Collector) (s : Severity) : Nat :=
  c.diagnostics.countP (·.severity == s)

def errors (c : Collector) : Nat := c.countSeverity .error

def warnings (c : Collector) : Nat := c.countSeverity .warning

def hasErrors (c : Collector) : Bool := 0 < c.errors

def take (c : Collector) : List Diagnostic × Collector := (c.diagnostics, {})

end Collector

end AttributeArguments
