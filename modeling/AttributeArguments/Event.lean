import AttributeArguments.Diagnostic
import AttributeArguments.Pattern

/-!
# Events

What a run leaves in the trace beside its result. A notice is a diagnostic or an event, so that
one list keeps the order of both. A sink decides where the diagnostics of a run go: a collector
keeps them, and tracing turns each into an event, at the level of its severity.
-/
namespace AttributeArguments

inductive Level
  | warn
  | debug
  | trace
deriving DecidableEq, Repr

def Level.name : Level → String
  | .warn => "WARN"
  | .debug => "DEBUG"
  | .trace => "TRACE"

inductive PassKind
  | semantic
  | syntactic
deriving DecidableEq, Repr

def PassKind.name : PassKind → String
  | .semantic => "semantic"
  | .syntactic => "syntactic"

inductive Event where
  | typeParameterUnmapped (name : String) (ordinal : Nat)
  | parameterUnmapped (category : Category) (name : String)
  | mappingsBuilt (types constructors named : Nat)
  | semanticMisfit (m : Mismatch)
  | argumentMisfit (category : Category) (m : Mismatch)
  | listedElementsRefused (elements : Nat)
  | passComplete (kind : PassKind) (attributeName : TypeName) (types constructors named : Nat)
  | reported (d : Diagnostic)
deriving DecidableEq, Repr

def Severity.level : Severity → Level
  | .error => .warn
  | .warning => .debug
  | .info => .trace

def Severity.heading : Severity → String
  | .error => "attribute parse error"
  | .warning => "attribute parse warning"
  | .info => "attribute parse note"

namespace Event

def level : Event → Level
  | passComplete _ _ _ _ _ => .trace
  | reported d => d.severity.level
  | _ => .debug

def message : Event → String
  | typeParameterUnmapped _ _ => "type parameter is not mapped"
  | parameterUnmapped _ _ => "parameter is not mapped"
  | mappingsBuilt _ _ _ => "built mapping repository"
  | semanticMisfit _ => "semantic argument did not fit pattern"
  | argumentMisfit category _ => s!"{category.name} argument did not fit pattern"
  | listedElementsRefused _ => "params syntax given to a single-valued constructor recorder"
  | passComplete kind _ _ _ _ => s!"{kind.name} pass complete"
  | reported d => d.severity.heading

def fields : Event → List (String × String)
  | typeParameterUnmapped name ordinal => [("parameter", name), ("ordinal", toString ordinal)]
  | parameterUnmapped category name => [("category", category.name), ("parameter", name)]
  | mappingsBuilt types constructors named =>
    [("type_parameters", toString types), ("constructor_parameters", toString constructors),
      ("named_parameters", toString named)]
  | semanticMisfit m => [("mismatch", m.message)]
  | argumentMisfit _ m => [("mismatch", m.message)]
  | listedElementsRefused elements => [("elements", toString elements)]
  | passComplete _ attributeName types constructors named =>
    [("attribute", attributeName.qualified), ("type_arguments", toString types),
      ("constructor_arguments", toString constructors), ("named_arguments", toString named)]
  | reported d => [("diagnostic", d.message)]

end Event

inductive Notice where
  | diagnostic (d : Diagnostic)
  | event (e : Event)
deriving DecidableEq, Repr

namespace Notice

def diagnostic? : Notice → Option Diagnostic
  | diagnostic d => some d
  | event _ => none

def event? : Notice → Option Event
  | diagnostic _ => none
  | event e => some e

def traced : Notice → Event
  | diagnostic d => .reported d
  | event e => e

end Notice

inductive Sink
  | collector
  | tracing
deriving DecidableEq, Repr

namespace Sink

def collected : Sink → List Notice → List Diagnostic
  | collector, ns => ns.filterMap Notice.diagnostic?
  | tracing, _ => []

def trace : Sink → List Notice → List Event
  | collector, ns => ns.filterMap Notice.event?
  | tracing, ns => ns.map Notice.traced

end Sink

end AttributeArguments
