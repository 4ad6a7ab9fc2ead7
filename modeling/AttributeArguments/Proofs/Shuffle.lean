import AttributeArguments.Proofs.Relabelling
import AttributeArguments.Proofs.Verdict

/-!
# Where labelled arguments stand

Binding looks the labelled arguments up by their labels and takes only the positional ones in
turn, so that it does not matter where a labelled argument stands, or an argument with a target.
The parameters get the same slots or there are none, and with sound labels the report is the same
too. Of several bad labels it is the first one that is reported, so there their order shows.
-/
namespace AttributeArguments.Binding

open scoped List

/-- The same positional arguments in the same order, and the same labelled ones in any order. -/
structure Shuffled (as bs : List WrittenArgument) : Prop where
  positions : positional as = positional bs
  entries : labelled as ~ labelled bs

namespace Shuffled

variable {as bs : List WrittenArgument}

theorem symm (h : Shuffled as bs) : Shuffled bs as :=
  ⟨h.positions.symm, h.entries.symm⟩

theorem labels (h : Shuffled as bs) : givenLabels as ~ givenLabels bs := by
  have keys := h.entries.map Prod.fst
  rwa [map_fst_labelled, map_fst_labelled] at keys

end Shuffled

theorem fill_congr {xs ys : List (String × Expression)} {ps : List Parameter}
    (found : ∀ p ∈ ps, xs.lookup p.name = ys.lookup p.name) (rest : List Expression) :
    fill xs ps rest = fill ys ps rest := by
  induction ps generalizing rest with
  | nil => cases rest <;> rfl
  | cons p ps ih =>
    obtain ⟨here, later⟩ := List.forall_mem_cons.mp found
    simp only [fill, here, ih later]

section Sound

variable {ps : List Parameter} {as bs : List WrittenArgument}

theorem bind_eq_fill (known : ∀ l ∈ givenLabels as, l ∈ ps.map Parameter.name)
    (once : (givenLabels as).Nodup) : bind ps as = fill (labelled as) ps (positional as) := by
  have sound : labelFault? ps [] (givenLabels as) = none :=
    (labelFault?_eq_none_iff ps [] _).mpr ⟨known, once, fun l _ => List.not_mem_nil⟩
  rw [bind, map_fst_labelled, sound]

theorem Shuffled.bind_eq (h : Shuffled as bs)
    (known : ∀ l ∈ givenLabels as, l ∈ ps.map Parameter.name)
    (once : (givenLabels as).Nodup) : bind ps as = bind ps bs := by
  have known' : ∀ l ∈ givenLabels bs, l ∈ ps.map Parameter.name := fun l hl =>
    known l (h.labels.mem_iff.mpr hl)
  have once' : (givenLabels bs).Nodup := h.labels.nodup_iff.mp once
  have keys : ((labelled as).map Prod.fst).Nodup := by rwa [map_fst_labelled]
  calc bind ps as
    _ = fill (labelled as) ps (positional as) := bind_eq_fill known once
    _ = fill (labelled bs) ps (positional as) :=
      fill_congr (fun p _ => Table.lookup_perm keys h.entries p.name) _
    _ = fill (labelled bs) ps (positional bs) := by rw [h.positions]
    _ = bind ps bs := (bind_eq_fill known' once').symm

theorem Shuffled.bind_eq_ok (h : Shuffled as bs) {slots : List Slot}
    (accepted : bind ps as = .ok slots) : bind ps bs = .ok slots := by
  obtain ⟨known, once, -⟩ := bind_eq_ok_iff.mp accepted
  rw [map_fst_labelled] at known once
  rw [← h.bind_eq known once, accepted]

end Sound

theorem fst_bindInto_eq_some_iff (c : Collector) (ps : List Parameter)
    (as : List WrittenArgument) (slots : List Slot) :
    (bindInto c ps as).1 = some slots ↔ bind ps as = .ok slots := by
  rw [bindInto]
  cases bind ps as <;> simp

/-- Labelled arguments, and arguments with a target, can be moved anywhere: the slots are the same,
or there are none, and with known labels that are given once the reports are the same. -/
theorem bind_shuffle (ps : List Parameter) {as bs : List WrittenArgument}
    (shuffled : Shuffled as bs) (c : Collector) :
    (bindInto c ps as).1 = (bindInto c ps bs).1 ∧
    ((∀ l ∈ givenLabels as, l ∈ ps.map Parameter.name) → (givenLabels as).Nodup →
      bindInto c ps as = bindInto c ps bs) := by
  constructor
  · ext slots
    rw [fst_bindInto_eq_some_iff, fst_bindInto_eq_some_iff]
    exact ⟨shuffled.bind_eq_ok, shuffled.symm.bind_eq_ok⟩
  · intro known once
    rw [bindInto, bindInto, shuffled.bind_eq known once]

def labelsBetween : List WrittenArgument :=
  [⟨some "unit", none, .literal ⟨6, 7⟩⟩, ⟨none, none, .literal ⟨9, 10⟩⟩,
    ⟨none, some "Order", .literal ⟨20, 21⟩⟩, ⟨some "size", none, .literal ⟨29, 30⟩⟩,
    ⟨none, none, .literal ⟨32, 33⟩⟩, ⟨none, none, .literal ⟨35, 36⟩⟩]

def labelsLast : List WrittenArgument :=
  [⟨none, none, .literal ⟨9, 10⟩⟩, ⟨none, none, .literal ⟨32, 33⟩⟩,
    ⟨none, none, .literal ⟨35, 36⟩⟩, ⟨some "size", none, .literal ⟨29, 30⟩⟩,
    ⟨some "unit", none, .literal ⟨6, 7⟩⟩]

theorem bind_shuffle_between :
    Shuffled labelsBetween labelsLast ∧
    (∀ l ∈ givenLabels labelsBetween, l ∈ mixedParameters.map Parameter.name) ∧
    (givenLabels labelsBetween).Nodup ∧
    bindInto {} mixedParameters labelsLast =
      (some [.written (.literal ⟨29, 30⟩), .written (.literal ⟨9, 10⟩),
        .listed [.literal ⟨32, 33⟩, .literal ⟨35, 36⟩], .written (.literal ⟨6, 7⟩)], {}) := by
  have shuffled : Shuffled labelsBetween labelsLast := ⟨rfl, .swap _ _ []⟩
  have known : ∀ l ∈ givenLabels labelsBetween, l ∈ mixedParameters.map Parameter.name := by decide
  have once : (givenLabels labelsBetween).Nodup := by decide
  refine ⟨shuffled, known, once, ?_⟩
  rw [← (bind_shuffle mixedParameters shuffled {}).2 known once]
  rfl

example : bind [] [⟨some "a", none, .null ⟨0, 4⟩⟩, ⟨some "b", none, .null ⟨6, 10⟩⟩] =
      .error (.unknownParameterLabel "a") ∧
    bind [] [⟨some "b", none, .null ⟨6, 10⟩⟩, ⟨some "a", none, .null ⟨0, 4⟩⟩] =
      .error (.unknownParameterLabel "b") := ⟨rfl, rfl⟩

end AttributeArguments.Binding
