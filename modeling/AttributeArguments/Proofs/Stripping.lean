import AttributeArguments.Recorder.Written

/-!
# Stripping

Parentheses and casts are layers around an expression, in any order and with ranges that need not
nest. Every expression is a bare one inside some layers, and stripping finds the bare one. So layers
that are put around an expression change neither what stripping finds nor where a collection is
located. The elements of a collection are located in the layers that they are written in.
-/
namespace AttributeArguments

inductive Layer
  | parentheses (span : Span)
  | cast (span : Span) (toArray : Bool)
deriving DecidableEq, Repr

def Layer.around : Layer → Expression → Expression
  | parentheses span, e => .parenthesized span e
  | cast span toArray, e => .cast span toArray e

namespace Expression

def inside (layers : List Layer) (e : Expression) : Expression := layers.foldr Layer.around e

def IsBare : Expression → Prop
  | parenthesized _ _ | cast _ _ _ => False
  | _ => True

def initializer? : Expression → Option Span
  | filledArray _ initializer _ => some initializer
  | _ => none

def elements : Expression → List Expression
  | filledArray _ _ es | collection _ es => es
  | _ => []

theorem stripped_around (layer : Layer) (e : Expression) :
    (layer.around e).stripped = e.stripped := by
  cases layer <;> rfl

theorem stripped_inside (layers : List Layer) (e : Expression) :
    (e.inside layers).stripped = e.stripped := by
  induction layers with
  | nil => rfl
  | cons layer layers ih => exact (stripped_around layer _).trans ih

theorem stripped_of_isBare {e : Expression} (bare : e.IsBare) : e.stripped = e := by
  cases e with
  | parenthesized | cast => exact bare.elim
  | _ => rfl

theorem stripped_spec (e : Expression) :
    e.stripped.IsBare ∧ ∃ layers, e = e.stripped.inside layers := by
  fun_induction stripped e with
  | case1 span e ih =>
    obtain ⟨bare, layers, h⟩ := ih
    exact ⟨bare, .parentheses span :: layers, congrArg (parenthesized span) h⟩
  | case2 span toArray e ih =>
    obtain ⟨bare, layers, h⟩ := ih
    exact ⟨bare, .cast span toArray :: layers, congrArg (cast span toArray) h⟩
  | case3 e notParenthesized notCast =>
    refine ⟨?_, [], rfl⟩
    cases e with
    | parenthesized span e => exact notParenthesized span e rfl
    | cast span toArray e => exact notCast span toArray e rfl
    | _ => trivial

theorem stripped_eq_iff {e bare : Expression} :
    e.stripped = bare ↔ bare.IsBare ∧ ∃ layers, e = bare.inside layers := by
  constructor
  · rintro rfl
    exact e.stripped_spec
  · rintro ⟨isBare, layers, rfl⟩
    rw [stripped_inside, stripped_of_isBare isBare]

theorem collectionLocation_inside (layers : List Layer) (e : Expression) :
    (e.inside layers).collectionLocation = e.collectionLocation := by
  rw [collectionLocation, stripped_inside, collectionLocation]

theorem collectionLocation_eq (e : Expression) :
    e.collectionLocation =
      ⟨.source (e.stripped.initializer?.getD e.stripped.span),
        e.stripped.elements.map location⟩ := by
  rw [collectionLocation]
  cases e.stripped <;> rfl

/-- Layers are transparent. Stripping finds the one bare expression inside all layers, whatever
layers are added, and again if it is repeated. A collection is located there, by its braces if it
has some and else as a whole, with its elements as they are written. -/
theorem stripping_transparent (layers : List Layer) (e : Expression) :
    (e.inside layers).stripped = e.stripped ∧
    e.stripped.IsBare ∧
    (∀ bare, e.stripped = bare ↔ bare.IsBare ∧ ∃ around, e = bare.inside around) ∧
    e.stripped.stripped = e.stripped ∧
    (e.inside layers).collectionLocation = e.collectionLocation ∧
    e.collectionLocation.collection =
      .source (e.stripped.initializer?.getD e.stripped.span) ∧
    e.collectionLocation.elements = e.stripped.elements.map fun x => .source x.span := by
  have bare : e.stripped.IsBare := e.stripped_spec.1
  have located := e.collectionLocation_eq
  refine ⟨stripped_inside layers e, bare, fun _ => stripped_eq_iff, stripped_of_isBare bare,
    collectionLocation_inside layers e, ?_, ?_⟩
  · rw [located]
  · rw [located]
    rfl

example :
    let array := filledArray ⟨11, 31⟩ ⟨24, 31⟩ [parenthesized ⟨26, 29⟩ (literal ⟨27, 28⟩)]
    (array.inside [.parentheses ⟨0, 32⟩, .cast ⟨1, 31⟩ true]).collectionLocation =
      ⟨.source ⟨24, 31⟩, [.source ⟨26, 29⟩]⟩ := rfl

end Expression

end AttributeArguments
