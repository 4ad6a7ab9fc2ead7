import AttributeArguments.Recorder.Written
import AttributeArguments.Proofs.Share

/-!
# Lone elements

A lone expression for a `params` parameter is the whole array if it is array-like, and otherwise
one element, to be listed with a location of its own. Binding tells the two apart for the
positional arguments only. An expression under a label is taken as written, so that a lone element
under a label stands for the whole array, and the collection is located as if it had been one.
-/
namespace AttributeArguments

/-- What stands for the whole array is array-like, and a lone element is listed and located. -/
structure Slot.ListsElement (slot : Slot) (es : List Expression) : Prop where
  whole : ∀ e, slot = .written e → e.isArrayLike = true
  element : ∀ e, es = [e] → e.isArrayLike = false →
    slot = .listed [e] ∧ slot.collectionLocation = ⟨.none, [.source e.span]⟩

theorem Slot.listsElement_ofRemaining (es : List Expression) :
    (ofRemaining es).ListsElement es := by
  constructor
  · intro e written
    match es with
    | [] => cases written
    | [f] =>
      rw [ofRemaining] at written
      split_ifs at written with array
      cases written
      exact array
    | _ :: _ :: _ => cases written
  · rintro e rfl element
    have listed : ofRemaining [e] = .listed [e] := by
      rw [ofRemaining, element, if_neg Bool.false_ne_true]
    rw [listed]
    exact ⟨rfl, rfl⟩

theorem Slot.listsElement_written_iff (e : Expression) :
    (written e).ListsElement [e] ↔ e.isArrayLike = true := by
  refine ⟨fun h => h.whole e rfl, fun array => ⟨?_, ?_⟩⟩
  · rintro _ ⟨⟩
    exact array
  · rintro _ ⟨⟩ element
    rw [array] at element
    cases element

namespace Binding

variable {ps : List Parameter} {as : List WrittenArgument} {slots : List Slot} {i : Nat}
  {p : Parameter} {slot : Slot}

theorem writtenFor_of_label (declared : ps[i]? = some p) {e : Expression}
    (found : (labelled as).lookup p.name = some e) : writtenFor ps as i = [e] := by
  simp only [writtenFor, share, declared, found]

/-- In an accepted binding a `params` parameter has its lone element listed exactly when no label
gives it an expression that is not array-like. A labelled expression is its slot as it stands. -/
theorem params_listsElement_iff (accepted : bind ps as = .ok slots) (declared : ps[i]? = some p)
    (filled : slots[i]? = some slot) (kind : p.kind = .params) :
    (slot.ListsElement (writtenFor ps as i) ↔
      ∀ e, (p.name, e) ∈ labelled as → e.isArrayLike = true) ∧
    ∀ e, (p.name, e) ∈ labelled as → writtenFor ps as i = [e] ∧ slot = .written e ∧
      slot.collectionLocation = e.collectionLocation := by
  obtain ⟨-, once, -⟩ := bind_eq_ok_iff.mp accepted
  have entry (e : Expression) := Table.lookup_eq_some_iff once p.name e
  have fills := bind_fills accepted declared filled
  cases found : (labelled as).lookup p.name with
  | none =>
    have unlabelled : ∀ e, (p.name, e) ∉ labelled as := fun e he => by
      rw [← entry, found] at he
      cases he
    rw [found] at fills
    generalize writtenFor ps as i = es at fills ⊢
    cases fills with
    | remaining =>
      exact ⟨iff_of_true (Slot.listsElement_ofRemaining es) fun e he => (unlabelled e he).elim,
        fun e he => (unlabelled e he).elim⟩
    | next other => exact (other kind).elim
    | nothing other =>
      rw [kind] at other
      cases other
  | some f =>
    have only {e : Expression} (he : (p.name, e) ∈ labelled as) : e = f := by
      rw [← entry, found] at he
      exact (Option.some.inj he).symm
    have here : (p.name, f) ∈ labelled as := (entry f).mp found
    have written := writtenFor_of_label declared found
    rw [found, written] at fills
    cases fills with
    | label =>
      rw [written, Slot.listsElement_written_iff]
      refine ⟨⟨fun array e he => only he ▸ array, fun array => array f here⟩, ?_⟩
      intro e he
      obtain rfl := only he
      exact ⟨rfl, rfl, rfl⟩

def tagParameters : List Parameter := [⟨"tags", 0, .params⟩]

def tag : Expression := .cast ⟨6, 18⟩ false (.null ⟨14, 18⟩)

theorem params_listsElement_positional :
    bind tagParameters [⟨none, none, tag⟩] = .ok [.listed [tag]] ∧
    (Slot.listed [tag]).collectionLocation = ⟨.none, [.source ⟨6, 18⟩]⟩ := by
  have accepted : bind tagParameters [⟨none, none, tag⟩] = .ok [.listed [tag]] := rfl
  have lists := (params_listsElement_iff accepted (i := 0) rfl rfl rfl).1.mpr nofun
  exact ⟨accepted, (lists.element tag rfl rfl).2⟩

/-- `tags: (object)null` is taken for the whole array, with no elements to locate. -/
theorem labelled_element_not_listed :
    ¬ ∀ (ps : List Parameter) (as : List WrittenArgument) (slots : List Slot),
      (ps.map Parameter.name).Nodup → bind ps as = .ok slots →
      ∀ (i : Nat) (p : Parameter) (slot : Slot), ps[i]? = some p → slots[i]? = some slot →
        p.kind = .params → slot.ListsElement (writtenFor ps as i) := by
  intro lists
  have accepted : bind tagParameters [⟨some "tags", none, tag⟩] = .ok [.written tag] := rfl
  have listed := (lists _ _ _ (by decide) accepted 0 _ _ rfl rfl rfl).element tag rfl rfl
  cases listed.1

end Binding

end AttributeArguments
