import AttributeArguments.Pass

/-!
# The default passes

The semantic pass hands over the bound arguments of an application, and the syntactic pass the
written ones: types in the order of the type parameters, then the arguments of the constructor in
the order of its parameters, then the named arguments in source order. The bound view gives the
class and the constructor to both; the syntactic pass does not look at its arguments.

The binder finds the written arguments of the constructor parameters. A label binds its parameter
and may be given once. The parameters that no label names take the positional arguments in order; a
`params` parameter takes all that remain, and an optional one may go without. The faults of the
labels come first, in source order, then a parameter without an argument, in declaration order, and
last the arguments without a parameter.

The combined pass hands over nothing before both passes have succeeded on the same application with
the same number of arguments in each category; the arguments are then paired by position.
-/
namespace AttributeArguments

namespace Binding

def labelled (arguments : List WrittenArgument) : List (String × Expression) :=
  arguments.filterMap WrittenArgument.labelled?

def positional (arguments : List WrittenArgument) : List Expression :=
  arguments.filterMap WrittenArgument.positional?

def labelFault? (parameters : List Parameter) (seen : List String) :
    List String → Option Diagnostic
  | [] => none
  | label :: labels =>
    if !parameters.any (·.name == label) then some (.unknownParameterLabel label)
    else if seen.contains label then some (.duplicateParameterLabel label)
    else labelFault? parameters (label :: seen) labels

def fill (labelled : List (String × Expression)) :
    List Parameter → List Expression → Except Diagnostic (List Slot)
  | [], [] => .ok []
  | [], rest => .error (.excessPositionalArguments rest.length)
  | p :: ps, rest =>
    match labelled.lookup p.name with
    | some e => (fill labelled ps rest).map (.written e :: ·)
    | none =>
      match p.kind, rest with
      | .params, _ => (fill labelled ps []).map (Slot.ofRemaining rest :: ·)
      | _, e :: rest => (fill labelled ps rest).map (.written e :: ·)
      | .optional, [] => (fill labelled ps []).map (.omitted :: ·)
      | .normal, [] => .error (.missingRequiredArgument p.name)

def bind (parameters : List Parameter) (arguments : List WrittenArgument) :
    Except Diagnostic (List Slot) :=
  match labelFault? parameters [] ((labelled arguments).map (·.1)) with
  | some fault => .error fault
  | none => fill (labelled arguments) parameters (positional arguments)

end Binding

namespace Semantic

def arguments (data : BoundAttribute) (c : AttributeClass) (parameters : List Parameter) :
    Arguments .bound :=
  ⟨c.typeParameters.zip c.typeArguments, parameters.zip data.constructorArguments,
    data.namedArguments⟩

def reading (data : BoundAttribute) (c : AttributeClass) (parameters : List Parameter) :
    Reading .bound where
  attributeName := c.name
  arguments := arguments data c parameters
  types := c.typeArguments.length
  constructors := data.constructorArguments.length
  named := data.namedArguments.length

def read (data : BoundAttribute) : Except Diagnostic (Reading .bound) :=
  match data.attributeClass with
  | none => .error .unresolvedAttributeClass
  | some c =>
    if c.typeArguments.length ≠ c.typeParameters.length then
      .error (.typeArgumentCount c.typeParameters.length c.typeArguments.length)
    else
      match data.constructorParameters with
      | none => .error .missingConstructor
      | some parameters =>
        if data.constructorArguments.length ≠ parameters.length then
          .error (.constructorArgumentCount parameters.length data.constructorArguments.length)
        else .ok (reading data c parameters)

def parse (data : BoundAttribute) : Pass .bound := Reading.pass .semantic (read data)

end Semantic

namespace Syntactic

def arguments (source : WrittenAttribute) (c : AttributeClass) (parameters : List Parameter)
    (slots : List Slot) : Arguments .written :=
  ⟨c.typeParameters.zip source.typeArguments, parameters.zip slots,
    source.arguments.filterMap WrittenArgument.named?⟩

def reading (source : WrittenAttribute) (c : AttributeClass) (parameters : List Parameter)
    (slots : List Slot) : Reading .written where
  attributeName := c.name
  arguments := arguments source c parameters slots
  types := source.typeArguments.length
  constructors := slots.length
  named := source.arguments.countP (·.target.isSome)

def read (data : BoundAttribute) (source : WrittenAttribute) :
    Except Diagnostic (Reading .written) :=
  match data.attributeClass with
  | none => .error .unresolvedAttributeClass
  | some c =>
    if source.typeArguments.length ≠ c.typeParameters.length then
      .error (.writtenTypeArgumentCount c.typeParameters.length source.typeArguments.length)
    else
      match data.constructorParameters with
      | none => .error .missingConstructor
      | some parameters =>
        match Binding.bind parameters source.arguments with
        | .error d => .error d
        | .ok slots => .ok (reading source c parameters slots)

def parse (data : BoundAttribute) (source : WrittenAttribute) : Pass .written :=
  Reading.pass .syntactic (read data source)

end Syntactic

namespace Combined

/-- Both passes are arbitrary; the second one does not run when the first one fails. -/
def ofPasses (semantic : Pass .bound) (syntactic : Pass .written) : Pass .paired :=
  let first := semantic.run Arguments.gather {}
  .notifyAll first.notices <|
    if !first.succeeded then .fail .semanticPassFailed
    else
      let second := syntactic.run Arguments.gather {}
      .notifyAll second.notices <|
        if !second.succeeded then .fail .syntacticPassFailed
        else
          match first.record.countMismatch? second.record with
          | some d => .fail d
          | none => .recordOrFail (.finish true) (first.record.pair second.record).calls

def parse (data : BoundAttribute) (source : WrittenAttribute) : Pass .paired :=
  ofPasses (Semantic.parse data) (Syntactic.parse data source)

end Combined

end AttributeArguments
