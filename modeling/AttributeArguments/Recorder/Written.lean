import AttributeArguments.Attribute
import AttributeArguments.Recorder.Bound

/-!
# Locations and recorders of written arguments

Where an argument stands in the source. A single argument has its own range. An array has the
range of its initializer, or of the collection expression, and the range of each element as
written; elements that were listed without an array have no common range. A recorder of written
arguments hands over the expression itself or its location; a slot of listed elements is refused
where a single location is asked for.
-/
namespace AttributeArguments

inductive Location
  | none
  | source (span : Span)
deriving DecidableEq, Repr

def Location.isNone : Location → Bool
  | none => true
  | source _ => false

structure CollectionLocation where
  collection : Location
  elements : List Location
deriving DecidableEq, Repr

namespace CollectionLocation

def none : CollectionLocation := ⟨.none, []⟩

def isNone (l : CollectionLocation) : Bool := l.collection.isNone && l.elements.isEmpty

end CollectionLocation

namespace Expression

def location (e : Expression) : Location := .source e.span

def locations (es : List Expression) : List Location := es.map location

/-- Parentheses and casts around an array do not count, those around its elements do. -/
def collectionLocation (e : Expression) : CollectionLocation :=
  match e.stripped with
  | filledArray _ initializer elements => ⟨.source initializer, locations elements⟩
  | collection span elements => ⟨.source span, locations elements⟩
  | inner => ⟨.source inner.span, []⟩

end Expression

namespace Slot

def location? : Slot → Option Location
  | written e => some e.location
  | listed _ => Option.none
  | omitted => some .none

def collectionLocation : Slot → CollectionLocation
  | written e => e.collectionLocation
  | listed es => ⟨.none, Expression.locations es⟩
  | omitted => .none

end Slot

namespace Recorder.Written

variable {σ : Type}

def expression (f : σ → Expression → σ × Bool) : Recorder σ Expression := checked f

def assignLocation (f : σ → Location → σ) : Recorder σ Expression :=
  assigned fun s e => f s e.location

def constructor (f : σ → Slot → σ × Bool) : Recorder σ Slot := checked f

def assignConstructorLocation (f : σ → Location → σ) : Recorder σ Slot := fun slot s =>
  match slot with
  | .written e => assigned f e.location s
  | .omitted => assigned f .none s
  | .listed es => refused (.listedElementsRefused es.length) slot s

def assignCollectionLocation (f : σ → CollectionLocation → σ) : Recorder σ Slot :=
  assigned fun s slot => f s slot.collectionLocation

end Recorder.Written

end AttributeArguments
