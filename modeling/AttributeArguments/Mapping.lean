import AttributeArguments.Comparison
import AttributeArguments.Constant

/-!
# Mappings

Mappings from parameters to recorders. Names are kept as their keys, in the order of registration,
and no key is registered twice. A type parameter is mapped by index or by name, and the two kinds
exclude each other: once a mapping of one kind is held, one of the other kind is refused. A lookup
of a type parameter tries the name first and then the ordinal.

Building takes a snapshot; after the first build nothing can be registered, and a second build is
refused unless rebuilding is allowed. A refusal carries the name as it was given and not its key.
-/
namespace AttributeArguments

inductive Refusal where
  | alreadyBuilt
  | duplicateIndex (index : Nat)
  | duplicateName (name : String)
  | indexedAfterNamed (index : Nat)
  | namedAfterIndexed (name : String)
deriving DecidableEq, Repr

def Refusal.message : Refusal → String
  | alreadyBuilt => "the repository has already been built"
  | duplicateIndex index => s!"index {index} is already mapped"
  | duplicateName name => s!"parameter '{name}' is already mapped"
  | indexedAfterNamed index =>
    s!"cannot map index {index}: the repository already holds named mappings"
  | namedAfterIndexed name =>
    s!"cannot map '{name}': the repository already holds indexed mappings"

variable {ρ β : Type}

structure NamedSnapshot (ρ : Type) where
  comparer : NameComparer
  named : List (String × ρ)

namespace NamedSnapshot

def keys (m : NamedSnapshot ρ) : List String := m.named.map (·.1)

def get? (m : NamedSnapshot ρ) (name : String) : Option ρ := m.named.lookup (m.comparer.key name)

def isEmpty (m : NamedSnapshot ρ) : Bool := m.named.isEmpty

end NamedSnapshot

structure NamedMappings (ρ : Type) where
  comparer : NameComparer
  refusesRebuild : Bool
  named : List (String × ρ) := []
  built : Bool := false

namespace NamedMappings

def keys (m : NamedMappings ρ) : List String := m.named.map (·.1)

def holdsName (m : NamedMappings ρ) (name : String) : Bool :=
  m.keys.contains (m.comparer.key name)

def refusal? (m : NamedMappings ρ) (name : String) : Option Refusal :=
  if m.built then some .alreadyBuilt
  else if m.holdsName name then some (.duplicateName name)
  else none

def insert (m : NamedMappings ρ) (name : String) (recorder : ρ) : NamedMappings ρ :=
  { m with named := m.named ++ [(m.comparer.key name, recorder)] }

def add (m : NamedMappings ρ) (name : String) (recorder : ρ) :
    NamedMappings ρ × Except Refusal Unit :=
  match m.refusal? name with
  | some e => (m, .error e)
  | none => (m.insert name recorder, .ok ())

/-- The recorder is created, with its effect on `b`, only when the name is not refused. -/
def addWith (m : NamedMappings ρ) (name : String) (create : β → ρ × β) (b : β) :
    (NamedMappings ρ × Except Refusal Unit) × β :=
  match m.refusal? name with
  | some e => ((m, .error e), b)
  | none => ((m.insert name (create b).1, .ok ()), (create b).2)

def snapshot (m : NamedMappings ρ) : NamedSnapshot ρ := ⟨m.comparer, m.named⟩

def build (m : NamedMappings ρ) : NamedMappings ρ × Except Refusal (NamedSnapshot ρ) :=
  if m.built && m.refusesRebuild then (m, .error .alreadyBuilt)
  else ({ m with built := true }, .ok m.snapshot)

end NamedMappings

structure TypeSnapshot (ρ : Type) where
  comparer : NameComparer
  indexed : List (Nat × ρ)
  named : List (String × ρ)

namespace TypeSnapshot

def keys (m : TypeSnapshot ρ) : List String := m.named.map (·.1)

def indices (m : TypeSnapshot ρ) : List Nat := m.indexed.map (·.1)

def getIndexed? (m : TypeSnapshot ρ) (index : Nat) : Option ρ := m.indexed.lookup index

def getNamed? (m : TypeSnapshot ρ) (name : String) : Option ρ :=
  m.named.lookup (m.comparer.key name)

def get? (m : TypeSnapshot ρ) (p : TypeParameter) : Option ρ :=
  (m.getNamed? p.name).orElse fun _ => m.getIndexed? p.ordinal

def isEmpty (m : TypeSnapshot ρ) : Bool := m.indexed.isEmpty && m.named.isEmpty

end TypeSnapshot

structure TypeMappings (ρ : Type) where
  comparer : NameComparer
  refusesRebuild : Bool
  indexed : List (Nat × ρ) := []
  named : List (String × ρ) := []
  built : Bool := false

namespace TypeMappings

def keys (m : TypeMappings ρ) : List String := m.named.map (·.1)

def indices (m : TypeMappings ρ) : List Nat := m.indexed.map (·.1)

def holdsName (m : TypeMappings ρ) (name : String) : Bool :=
  m.keys.contains (m.comparer.key name)

def indexRefusal? (m : TypeMappings ρ) (index : Nat) : Option Refusal :=
  if m.built then some .alreadyBuilt
  else if !m.named.isEmpty then some (.indexedAfterNamed index)
  else if m.indices.contains index then some (.duplicateIndex index)
  else none

def nameRefusal? (m : TypeMappings ρ) (name : String) : Option Refusal :=
  if m.built then some .alreadyBuilt
  else if !m.indexed.isEmpty then some (.namedAfterIndexed name)
  else if m.holdsName name then some (.duplicateName name)
  else none

def insertIndexed (m : TypeMappings ρ) (index : Nat) (recorder : ρ) : TypeMappings ρ :=
  { m with indexed := m.indexed ++ [(index, recorder)] }

def insertNamed (m : TypeMappings ρ) (name : String) (recorder : ρ) : TypeMappings ρ :=
  { m with named := m.named ++ [(m.comparer.key name, recorder)] }

def addIndexed (m : TypeMappings ρ) (index : Nat) (recorder : ρ) :
    TypeMappings ρ × Except Refusal Unit :=
  match m.indexRefusal? index with
  | some e => (m, .error e)
  | none => (m.insertIndexed index recorder, .ok ())

def addNamed (m : TypeMappings ρ) (name : String) (recorder : ρ) :
    TypeMappings ρ × Except Refusal Unit :=
  match m.nameRefusal? name with
  | some e => (m, .error e)
  | none => (m.insertNamed name recorder, .ok ())

def addIndexedWith (m : TypeMappings ρ) (index : Nat) (create : β → ρ × β) (b : β) :
    (TypeMappings ρ × Except Refusal Unit) × β :=
  match m.indexRefusal? index with
  | some e => ((m, .error e), b)
  | none => ((m.insertIndexed index (create b).1, .ok ()), (create b).2)

def addNamedWith (m : TypeMappings ρ) (name : String) (create : β → ρ × β) (b : β) :
    (TypeMappings ρ × Except Refusal Unit) × β :=
  match m.nameRefusal? name with
  | some e => ((m, .error e), b)
  | none => ((m.insertNamed name (create b).1, .ok ()), (create b).2)

def snapshot (m : TypeMappings ρ) : TypeSnapshot ρ := ⟨m.comparer, m.indexed, m.named⟩

def build (m : TypeMappings ρ) : TypeMappings ρ × Except Refusal (TypeSnapshot ρ) :=
  if m.built && m.refusesRebuild then (m, .error .alreadyBuilt)
  else ({ m with built := true }, .ok m.snapshot)

end TypeMappings

end AttributeArguments
