import AttributeArguments.Mapper
import AttributeArguments.Recorder.Paired

/-!
# Descriptions

One line of text for a registry, a snapshot or a mapper, for people who read logs. It names what
is mapped and leaves out the recorders. A name is written between double quotes: a double quote and
a backslash inside it get a backslash, and a control character of ASCII is written by its escape or
by its number.
-/
namespace AttributeArguments

namespace Text

def hexDigits (n : Nat) : List Char := Nat.toDigits 16 n

def quoteChar (c : Char) : List Char :=
  match c with
  | '"' => ['\\', '"']
  | '\\' => ['\\', '\\']
  | '\n' => ['\\', 'n']
  | '\r' => ['\\', 'r']
  | '\t' => ['\\', 't']
  | '\x00' => ['\\', '0']
  | c =>
    if c.toNat < 0x20 || c.toNat = 0x7f then
      ['\\', 'u', '\x7b'] ++ hexDigits c.toNat ++ ['\x7d']
    else [c]

def quote (s : String) : String := String.ofList (['"'] ++ s.toList.flatMap quoteChar ++ ['"'])

end Text

namespace Description

def commas (items : List String) : String := ", ".intercalate items

def fields (fs : List (String × String)) : List String := fs.map fun f => f.1 ++ ": " ++ f.2

def braced (name : String) (items : List String) : String :=
  name ++ " \x7b " ++ commas items ++ " \x7d"

def record (name : String) (fs : List (String × String)) : String := braced name (fields fs)

def openRecord (name : String) (fs : List (String × String)) : String :=
  braced name (fields fs ++ [".."])

def list (items : List String) : String := "[" ++ commas items ++ "]"

def names (ns : List String) : String := list (ns.map Text.quote)

end Description

open Description

def TypeMappings.describe {ρ : Type} (m : TypeMappings ρ) : String :=
  openRecord "TypeMappingRepository"
    [("indexed", toString m.indexed.length), ("named", names m.keys), ("built", toString m.built)]

def NamedMappings.describe {ρ : Type} (m : NamedMappings ρ) : String :=
  openRecord "NamedMappingRepository" [("named", names m.keys), ("built", toString m.built)]

def Registry.describe {F : Family} (m : Registry F) : String :=
  record "MappingRepository"
    [("type_parameters", m.types.describe), ("constructor_parameters", m.constructors.describe),
      ("named_parameters", m.named.describe)]

def TypeSnapshot.describe {ρ : Type} (m : TypeSnapshot ρ) : String :=
  record "BuiltTypeMappings"
    [("indexed", list (m.indices.map toString)), ("named", names m.keys)]

def NamedSnapshot.describe {ρ : Type} (m : NamedSnapshot ρ) : String :=
  record "BuiltNamedMappings" [("named", names m.keys)]

def Snapshot.describe {F : Family} (m : Snapshot F) : String :=
  record "BuiltMappingRepository"
    [("type_parameters", m.types.describe), ("constructor_parameters", m.constructors.describe),
      ("named_parameters", m.named.describe)]

def Built.describe {F : Family} : Built F → String
  | .whole m => m.describe
  | .types m => m.describe
  | .constructors m => m.describe
  | .named m => m.describe

def ParameterComparer.describe (c : ParameterComparer) : String :=
  record "ParameterComparer"
    [("type_parameter", c.type.description), ("constructor_parameter", c.constructor.description),
      ("named_parameter", c.named.description)]

def MapperOptions.describe (o : MapperOptions) : String :=
  record "MapperOptions"
    [("comparer", o.comparer.describe), ("throw_on_multiple_builds", toString o.refusesRebuild)]

def Mapper.describe {F : Family} {ω : Type} (m : Mapper F ω) : String :=
  openRecord "Mapper"
    [("options", m.options.describe), ("initialized", toString m.isInitialized)]

namespace UseCase

def factoryName : UseCase → String
  | semantic => "SemanticRecorders"
  | syntactic => "SyntacticRecorders"
  | split => "SplitRecorders"
  | combined => "CombinedRecorders"

def parserName : UseCase → String
  | semantic => "SemanticParser"
  | syntactic => "SyntacticParser"
  | split => "SemanticParser"
  | combined => "CombinedParser"

def recorderName : UseCase → String
  | combined => "CombinedRecorder"
  | _ => "Recorder"

def describe (u : UseCase) : List String :=
  [u.factoryName, openRecord u.parserName [], openRecord ("Detached" ++ u.recorderName) [],
    openRecord ("Attached" ++ u.recorderName) []]

end UseCase

end AttributeArguments
