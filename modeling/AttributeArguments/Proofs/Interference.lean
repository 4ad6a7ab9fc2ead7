import AttributeArguments.Proofs.Coverage
import AttributeArguments.Proofs.Share
import AttributeArguments.Recorder.Paired

/-!
# Unmapped arguments do not interfere

Two applications that differ only in arguments of parameters without a recorder: other type
arguments, constants and expressions of such parameters, and other named arguments of such names,
more of them or fewer. A parse of either comes to the same. What stands in the source for one
parameter never decides where the slot of another begins, and so an expression can be replaced by
one of any shape.
-/
namespace AttributeArguments

variable {σ : Type}

/-- The lists are of one length, and the same wherever a kept parameter stands. -/
structure AgreeOn {π α : Type} (keep : π → Bool) (ps : List π) (as bs : List α) : Prop where
  length : as.length = bs.length
  get : ∀ i (h : i < ps.length), keep ps[i] = true → as[i]? = bs[i]?

namespace AgreeOn

variable {π α β : Type} {keep : π → Bool} {p : π} {ps : List π}

theorem symm {as bs : List α} (h : AgreeOn keep ps as bs) : AgreeOn keep ps bs as :=
  ⟨h.length.symm, fun i hi kept => (h.get i hi kept).symm⟩

theorem head {a b : α} {as bs : List α} (h : AgreeOn keep (p :: ps) (a :: as) (b :: bs))
    (kept : keep p = true) : a = b :=
  Option.some.inj (h.get 0 (Nat.succ_pos _) kept)

theorem tail {a b : α} {as bs : List α} (h : AgreeOn keep (p :: ps) (a :: as) (b :: bs)) :
    AgreeOn keep ps as bs :=
  ⟨Nat.succ.inj h.length, fun i hi kept => h.get (i + 1) (Nat.succ_lt_succ hi) kept⟩

theorem filter_zip {as bs : List α} (h : AgreeOn keep ps as bs) :
    (ps.zip as).filter (keep ·.1) = (ps.zip bs).filter (keep ·.1) := by
  induction ps generalizing as bs with
  | nil => rfl
  | cons p ps ih =>
    match as, bs, h with
    | [], [], _ => rfl
    | a :: as, b :: bs, h =>
      have rest := ih h.tail
      simp only [List.zip_cons_cons, List.filter_cons, rest]
      cases kept : keep p with
      | true => rw [h.head kept]
      | false => rfl

theorem zip {as bs : List α} {xs ys : List β} (h : AgreeOn keep ps as bs)
    (h' : AgreeOn keep ps xs ys) : AgreeOn keep ps (as.zip xs) (bs.zip ys) where
  length := by rw [List.length_zip, List.length_zip, h.length, h'.length]
  get i hi kept := by
    rw [List.zip, List.getElem?_zipWith, List.getElem?_zipWith, h.get i hi kept,
      h'.get i hi kept]

end AgreeOn

structure BoundAttribute.Alike (x y : BoundAttribute) : Prop where
  typeParameters : x.attributeClass.map AttributeClass.typeParameters =
    y.attributeClass.map AttributeClass.typeParameters
  parameters : x.constructorParameters = y.constructorParameters

/-- Two bound views whose types and constants differ only for parameters that are not covered. -/
structure BoundAttribute.Agrees (k : Coverage) (x y : BoundAttribute) : Prop
    extends Alike x y where
  types : ∀ c ∈ x.attributeClass, ∀ d ∈ y.attributeClass,
    AgreeOn k.type c.typeParameters c.typeArguments d.typeArguments
  constants : ∀ ps ∈ x.constructorParameters,
    AgreeOn k.constructor ps x.constructorArguments y.constructorArguments

def WrittenAttribute.namedArguments (x : WrittenAttribute) : List (String × Expression) :=
  x.arguments.filterMap WrittenArgument.named?

/-- Two written views for one bound view, with the same labels, whose expressions differ only for
parameters that are not covered. -/
structure WrittenAttribute.Agrees (k : Coverage) (data : BoundAttribute)
    (x y : WrittenAttribute) : Prop where
  types : ∀ c ∈ data.attributeClass,
    AgreeOn k.type c.typeParameters x.typeArguments y.typeArguments
  labels : Binding.labels x.arguments = Binding.labels y.arguments
  written : ∀ ps ∈ data.constructorParameters, ∀ i (h : i < ps.length),
    k.constructor ps[i] = true →
      Binding.writtenFor ps x.arguments i = Binding.writtenFor ps y.arguments i

def Combined.namedPairs (x : BoundAttribute) (xs : WrittenAttribute) :
    List (String × (Constant × Expression)) :=
  Arguments.pairUp x.namedArguments xs.namedArguments

/-- The named arguments differ only in pairs that are not covered, and one view has as many more
than the other as before. -/
structure Combined.NamedAgree (k : Coverage) (x : BoundAttribute) (xs : WrittenAttribute)
    (y : BoundAttribute) (ys : WrittenAttribute) : Prop where
  pairs : (namedPairs x xs).filter (k.named ·.1) = (namedPairs y ys).filter (k.named ·.1)
  surplus : x.namedArguments.length + ys.namedArguments.length =
    y.namedArguments.length + xs.namedArguments.length

namespace Binding

theorem bind_agrees {keep : Parameter → Bool} {ps : List Parameter}
    {as bs : List WrittenArgument} {slots : List Slot} (same : labels as = labels bs)
    (written : ∀ i (h : i < ps.length), keep ps[i] = true →
      writtenFor ps as i = writtenFor ps bs i)
    (accepted : bind ps as = .ok slots) :
    ∃ others, bind ps bs = .ok others ∧ AgreeOn keep ps slots others := by
  have keys : (labelled as).map Prod.fst = (labelled bs).map Prod.fst := by
    rw [labels_labelled, labels_labelled, same]
  have count : (positional as).length = (positional bs).length := by
    rw [length_positional, length_positional, same]
  obtain ⟨others, accepted'⟩ := bind_accepts_of_accepts keys count accepted
  have hs := bind_length accepted
  have ho := bind_length accepted'
  refine ⟨others, accepted', hs.trans ho.symm, ?_⟩
  intro i hi kept
  have declared : ps[i]? = some ps[i] := List.getElem?_eq_getElem hi
  obtain ⟨slot, hslot⟩ : ∃ slot, slots[i]? = some slot :=
    ⟨_, List.getElem?_eq_getElem (hs ▸ hi)⟩
  obtain ⟨other, hother⟩ : ∃ other, others[i]? = some other :=
    ⟨_, List.getElem?_eq_getElem (ho ▸ hi)⟩
  -- The slot is the one that the presence of a label and what is written for the parameter leave.
  have fills := bind_fills accepted declared hslot
  have fills' := bind_fills accepted' declared hother
  rw [← Table.isSome_lookup_congr keys, ← written i hi kept] at fills'
  rw [hslot, hother, fills.unique fills']

end Binding

section Agreement

variable {k : Coverage} {x y : BoundAttribute} {xs ys : WrittenAttribute} {c : AttributeClass}
  {ps : List Parameter} {slots : List Slot}

theorem BoundAttribute.Alike.symm (h : x.Alike y) : y.Alike x :=
  ⟨h.typeParameters.symm, h.parameters.symm⟩

theorem BoundAttribute.Alike.resolved (h : x.Alike y) (resolved : x.attributeClass = some c) :
    ∃ d, y.attributeClass = some d ∧ d.typeParameters = c.typeParameters := by
  have hd := h.typeParameters
  rw [resolved, Option.map_some] at hd
  exact Option.map_eq_some_iff.mp hd.symm

theorem BoundAttribute.Agrees.symm (h : x.Agrees k y) : y.Agrees k x where
  toAlike := h.toAlike.symm
  types d hd c hc := by
    have same : some c.typeParameters = some d.typeParameters := by
      rw [← Option.map_some, ← Option.map_some, ← Option.mem_def.mp hc, ← Option.mem_def.mp hd]
      exact h.typeParameters
    rw [← Option.some.inj same]
    exact (h.types c hc d hd).symm
  constants ps hps := (h.constants ps (h.parameters ▸ hps)).symm

theorem WrittenAttribute.Agrees.symm (h : xs.Agrees k x ys) (alike : x.Alike y) :
    ys.Agrees k y xs where
  types d hd := by
    obtain ⟨c, hc, same⟩ := alike.symm.resolved hd
    rw [← same]
    exact (h.types c hc).symm
  labels := h.labels.symm
  written ps hps i hi kept := (h.written ps (alike.parameters ▸ hps) i hi kept).symm

theorem Semantic.Reads.agrees (h : x.Agrees k y) (reads : Reads x c ps) :
    ∃ d, Reads y d ps ∧ d.typeParameters = c.typeParameters ∧
      AgreeOn k.type c.typeParameters c.typeArguments d.typeArguments ∧
      AgreeOn k.constructor ps x.constructorArguments y.constructorArguments := by
  obtain ⟨d, resolved, same⟩ := h.resolved reads.resolved
  have types := h.types c reads.resolved d resolved
  have constants := h.constants ps reads.selected
  have selected : y.constructorParameters = some ps := h.parameters ▸ reads.selected
  refine ⟨d, ⟨resolved, ?_, selected, ?_⟩, same, types, constants⟩
  · rw [same, ← types.length, reads.types]
  · rw [← constants.length, reads.constructors]

theorem Syntactic.Reads.agrees (alike : x.Alike y) (h : xs.Agrees k x ys)
    (reads : Reads x xs c ps slots) :
    ∃ d others, Reads y ys d ps others ∧ d.typeParameters = c.typeParameters ∧
      AgreeOn k.type c.typeParameters xs.typeArguments ys.typeArguments ∧
      AgreeOn k.constructor ps slots others := by
  obtain ⟨d, resolved, same⟩ := alike.resolved reads.resolved
  have types := h.types c reads.resolved
  have selected : y.constructorParameters = some ps := alike.parameters ▸ reads.selected
  obtain ⟨others, bound, agree⟩ :=
    Binding.bind_agrees h.labels (h.written ps reads.selected) reads.bound
  refine ⟨d, others, ⟨resolved, ?_, selected, bound⟩, same, types, agree⟩
  rw [same, ← types.length, reads.types]

theorem Semantic.readsArguments_agrees (h : x.Agrees k y)
    (named : x.namedArguments.filter (k.named ·.1) = y.namedArguments.filter (k.named ·.1))
    {a : Arguments .bound} (reads : ReadsArguments x a) :
    ∃ b, ReadsArguments y b ∧ b.restrict k = a.restrict k := by
  obtain ⟨c, ps, reads, rfl⟩ := reads
  obtain ⟨d, reads', same, types, constants⟩ := reads.agrees h
  refine ⟨_, ⟨d, ps, reads', rfl⟩, ?_⟩
  simp only [Arguments.restrict, arguments, same, types.filter_zip, constants.filter_zip, named]

theorem Syntactic.readsArguments_agrees (alike : x.Alike y) (h : xs.Agrees k x ys)
    (named : xs.namedArguments.filter (k.named ·.1) = ys.namedArguments.filter (k.named ·.1))
    {a : Arguments .written} (reads : ReadsArguments x xs a) :
    ∃ b, ReadsArguments y ys b ∧ b.restrict k = a.restrict k := by
  obtain ⟨c, ps, slots, reads, rfl⟩ := reads
  obtain ⟨d, others, reads', same, types, agree⟩ := reads.agrees alike h
  refine ⟨_, ⟨d, ps, others, reads', rfl⟩, ?_⟩
  rw [WrittenAttribute.namedArguments, WrittenAttribute.namedArguments] at named
  simp only [Arguments.restrict, arguments, same, types.filter_zip, agree.filter_zip, named]

theorem Combined.NamedAgree.symm (h : NamedAgree k x xs y ys) : NamedAgree k y ys x xs :=
  ⟨h.pairs.symm, h.surplus.symm⟩

theorem Combined.namedAgree_insert (ds : List (String × Constant))
    (es : List (String × Expression)) {ds' : List (String × Constant)}
    {es' : List (String × Expression)} {d : String × Constant} {e : String × Expression}
    (rank : ds.length = es.length) (uncovered : k.named d.1 = false)
    (hx : x.namedArguments = ds ++ ds') (hxs : xs.namedArguments = es ++ es')
    (hy : y.namedArguments = ds ++ d :: ds') (hys : ys.namedArguments = es ++ e :: es') :
    NamedAgree k x xs y ys where
  pairs := by
    simp only [namedPairs, Arguments.pairUp, hx, hxs, hy, hys, List.zipWith_append rank,
      List.zipWith_cons_cons, List.filter_append, List.filter_cons, uncovered,
      Bool.false_eq_true, ↓reduceIte]
  surplus := by
    simp only [hx, hxs, hy, hys, List.length_append, List.length_cons]
    omega

theorem Combined.readsArguments_agrees (bound : x.Agrees k y) (written : xs.Agrees k x ys)
    (named : NamedAgree k x xs y ys) {a : Arguments .paired} (reads : ReadsArguments x xs a) :
    ∃ b, ReadsArguments y ys b ∧ b.restrict k = a.restrict k := by
  obtain ⟨c, ps, slots, reads, rfl⟩ := reads
  obtain ⟨d, semantic, same, types, constants⟩ := reads.semantic.agrees bound
  obtain ⟨d', others, syntactic, -, types', agree⟩ :=
    reads.syntactic.agrees bound.toAlike written
  obtain ⟨rfl, -⟩ := Semantic.Reads.same_parameters semantic syntactic
  -- Both views have gained or lost as many named arguments.
  have even : ys.arguments.countP (·.target.isSome) = y.namedArguments.length := by
    have surplus := named.surplus
    have before := reads.named
    simp only [WrittenAttribute.namedArguments, WrittenArgument.length_named] at surplus
    omega
  refine ⟨_, ⟨d, ps, others, ⟨semantic, syntactic, even⟩, rfl⟩, ?_⟩
  have pairs := named.pairs
  simp only [namedPairs, WrittenAttribute.namedArguments] at pairs
  simp only [Arguments.restrict, arguments, same, (types.zip types').filter_zip,
    (constants.zip agree).filter_zip, pairs]

end Agreement

/-- Arguments of unmapped parameters do not interfere. Two applications that differ in nothing else
are parsed with one verdict and into one record, by each of the three parsers and with the
recorder of any snapshot. -/
theorem parse_ignores_unmapped (s : σ) :
    (∀ (m : Snapshot (.semantic σ)) (x y : BoundAttribute),
      x.Agrees m.coverage y →
      x.namedArguments.filter (m.coverage.named ·.1) =
        y.namedArguments.filter (m.coverage.named ·.1) →
      ((Semantic.parse x).run m.recorder s).outcome =
        ((Semantic.parse y).run m.recorder s).outcome) ∧
    (∀ (m : Snapshot (.syntactic σ)) (x y : BoundAttribute) (xs ys : WrittenAttribute),
      x.Alike y → xs.Agrees m.coverage x ys →
      xs.namedArguments.filter (m.coverage.named ·.1) =
        ys.namedArguments.filter (m.coverage.named ·.1) →
      ((Syntactic.parse x xs).run m.recorder s).outcome =
        ((Syntactic.parse y ys).run m.recorder s).outcome) ∧
    ∀ (m : Snapshot (.combined σ)) (x y : BoundAttribute) (xs ys : WrittenAttribute),
      x.Agrees m.coverage y → xs.Agrees m.coverage x ys →
      Combined.NamedAgree m.coverage x xs y ys →
      ((Combined.parse x xs).run m.recorder s).outcome =
        ((Combined.parse y ys).run m.recorder s).outcome := by
  refine ⟨?_, ?_, ?_⟩
  · intro m x y agrees named
    refine (Semantic.parses x _ s).outcome_congr (Semantic.parses y _ s) m.ignores_recorder ?_ ?_
    · exact fun _ => Semantic.readsArguments_agrees agrees named
    · exact fun _ => Semantic.readsArguments_agrees agrees.symm named.symm
  · intro m x y xs ys alike agrees named
    refine (Syntactic.parses x xs _ s).outcome_congr (Syntactic.parses y ys _ s)
      m.ignores_recorder ?_ ?_
    · exact fun _ => Syntactic.readsArguments_agrees alike agrees named
    · exact fun _ => Syntactic.readsArguments_agrees alike.symm (agrees.symm alike) named.symm
  · intro m x y xs ys bound written named
    refine (Combined.parses x xs _ s).outcome_congr (Combined.parses y ys _ s)
      m.ignores_recorder ?_ ?_
    · exact fun _ => Combined.readsArguments_agrees bound written named
    · exact fun _ => Combined.readsArguments_agrees bound.symm (written.symm bound.toAlike)
        named.symm

def plainData : BoundAttribute where
  attributeClass := some ⟨⟨"Demo"⟩, [⟨"T", 0⟩], [⟨"int"⟩]⟩
  constructorParameters := some [⟨"first", 0, .normal⟩, ⟨"rest", 1, .params⟩]
  constructorArguments := [.bool true, .array [.i32 3]]
  namedArguments := [("Answer", .i32 42)]

def plainSource : WrittenAttribute where
  typeArguments := [.typeOf ⟨5, 8⟩]
  arguments := [⟨none, none, .literal ⟨10, 14⟩⟩, ⟨none, none, .other ⟨16, 24⟩⟩,
    ⟨none, some "Answer", .literal ⟨35, 37⟩⟩]
  span := ⟨0, 38⟩

def notedData : BoundAttribute where
  attributeClass := some ⟨⟨"Demo"⟩, [⟨"T", 0⟩], [⟨"Foo"⟩]⟩
  constructorParameters := some [⟨"first", 0, .normal⟩, ⟨"rest", 1, .params⟩]
  constructorArguments := [.bool true, .array [.i32 4]]
  namedArguments := [("Answer", .i32 42), ("Note", .null)]

def notedSource : WrittenAttribute where
  typeArguments := [.other ⟨5, 8⟩]
  arguments := [⟨none, none, .literal ⟨10, 14⟩⟩,
    ⟨none, none, .filledArray ⟨16, 24⟩ ⟨21, 24⟩ [.literal ⟨22, 23⟩]⟩,
    ⟨none, some "Answer", .literal ⟨35, 37⟩⟩, ⟨none, some "Note", .null ⟨46, 50⟩⟩]
  span := ⟨0, 51⟩

def Snapshot.ofTwo {F : Family} (first : F.constructor) (answer : F.named) : Snapshot F where
  types := ⟨.ordinal, [], []⟩
  constructors := ⟨.ordinal, [("first", first)]⟩
  named := ⟨.ordinal, [("Answer", answer)]⟩

def keepBound : Snapshot (.semantic (List Constant)) :=
  .ofTwo (.assigned fun s c => s ++ [c]) (.assigned fun s c => s ++ [c])

def keepWritten : Snapshot (.syntactic (List Expression)) :=
  .ofTwo (.assigned fun s slot => s ++ slot.expressions) (.assigned fun s e => s ++ [e])

def keepPaired : Snapshot (.combined (List (Constant × List Expression))) :=
  .ofTwo (.assigned fun s a => s ++ [(a.1, a.2.expressions)])
    (.assigned fun s a => s ++ [(a.1, [a.2])])

theorem plain_agrees_noted {F : Family} (first : F.constructor) (answer : F.named) :
    plainData.Agrees (Snapshot.ofTwo first answer).coverage notedData ∧
    plainSource.Agrees (Snapshot.ofTwo first answer).coverage plainData notedSource := by
  refine ⟨⟨⟨rfl, rfl⟩, ?_, ?_⟩, ⟨?_, rfl, ?_⟩⟩
  · rintro c ⟨⟩ d ⟨⟩
    exact ⟨rfl, fun i hi kept => (Bool.false_ne_true kept).elim⟩
  · rintro ps ⟨⟩
    refine ⟨rfl, fun i hi kept => ?_⟩
    match i, hi with
    | 0, _ => rfl
    | 1, _ => exact (Bool.false_ne_true kept).elim
  · rintro c ⟨⟩
    exact ⟨rfl, fun i hi kept => (Bool.false_ne_true kept).elim⟩
  · rintro ps ⟨⟩ i hi kept
    match i, hi with
    | 0, _ => rfl
    | 1, _ => exact (Bool.false_ne_true kept).elim

theorem parse_ignores_unmapped_noted :
    ((Semantic.parse plainData).run keepBound.recorder []).outcome =
      (true, [.bool true, .i32 42]) ∧
    ((Semantic.parse notedData).run keepBound.recorder []).outcome =
      (true, [.bool true, .i32 42]) ∧
    ((Syntactic.parse notedData notedSource).run keepWritten.recorder []).outcome =
      (true, [.literal ⟨10, 14⟩, .literal ⟨35, 37⟩]) ∧
    ((Combined.parse notedData notedSource).run keepPaired.recorder []).outcome =
      (true, [(.bool true, [.literal ⟨10, 14⟩]), (.i32 42, [.literal ⟨35, 37⟩])]) := by
  have bound : plainData.Agrees keepBound.coverage notedData := (plain_agrees_noted _ _).1
  obtain ⟨alike, written⟩ : plainData.Agrees keepWritten.coverage notedData ∧
      plainSource.Agrees keepWritten.coverage plainData notedSource := plain_agrees_noted _ _
  obtain ⟨bound', written'⟩ : plainData.Agrees keepPaired.coverage notedData ∧
      plainSource.Agrees keepPaired.coverage plainData notedSource := plain_agrees_noted _ _
  have named : Combined.NamedAgree keepPaired.coverage plainData plainSource notedData
      notedSource :=
    Combined.namedAgree_insert [("Answer", .i32 42)] [("Answer", .literal ⟨35, 37⟩)]
      rfl rfl rfl rfl rfl rfl
  obtain ⟨semantic, -⟩ := parse_ignores_unmapped ([] : List Constant)
  obtain ⟨-, syntactic, -⟩ := parse_ignores_unmapped ([] : List Expression)
  obtain ⟨-, -, combined⟩ := parse_ignores_unmapped ([] : List (Constant × List Expression))
  refine ⟨rfl, ?_, ?_, ?_⟩
  · exact (semantic keepBound _ _ bound rfl).symm
  · exact (syntactic keepWritten _ _ _ _ alike.toAlike written rfl).symm
  · exact (combined keepPaired _ _ _ _ bound' written' named).symm

end AttributeArguments
