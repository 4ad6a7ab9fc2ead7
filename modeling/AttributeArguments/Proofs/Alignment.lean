import AttributeArguments.Proofs.Binding
import AttributeArguments.Proofs.Merge
import AttributeArguments.Proofs.Reading

/-!
# Alignment of the default passes

The default passes take the parameters of an application from the same place and find one value,
and one slot, for each. The merge pairs by position alone; the theorems here say that the two
arguments of a pair are always for one and the same parameter, that only the named arguments can
differ in number, and when a combined parse succeeds.
-/
namespace AttributeArguments

namespace Arguments

variable {F G : Family}

theorem ofCalls_calls (a : Arguments F) : ofCalls a.calls = a := by
  obtain ⟨ht, hc, hn⟩ := a.filterMap_calls
  rw [ofCalls, ht, hc, hn]

theorem pairUp_zip {π α β : Type} (ps : List π) (as : List α) (bs : List β) :
    pairUp (ps.zip as) (ps.zip bs) = ps.zip (as.zip bs) := by
  induction ps generalizing as bs with
  | nil => rfl
  | cons p ps ih =>
    cases as with
    | nil => rfl
    | cons a as =>
      cases bs with
      | nil => rfl
      | cons b bs => exact congrArg (_ :: ·) (ih as bs)

end Arguments

theorem WrittenArgument.length_named (as : List WrittenArgument) :
    (as.filterMap named?).length = as.countP (·.target.isSome) := by
  rw [List.length_filterMap_eq_countP]
  simp [named?]

namespace Combined

variable {σ : Type}

theorem transcript_parse {data : BoundAttribute} {source : WrittenAttribute} {c : AttributeClass}
    {ps : List Parameter} {slots : List Slot} (reads : Syntactic.Reads data source c ps slots) :
    (Syntactic.parse data source).transcript.record =
      (Syntactic.arguments source c ps slots).calls := by
  rw [Syntactic.parse_of_reads reads, Reading.transcript_pass_ok, Syntactic.arguments_reading]

/-- The conditions under which the two views of an application can be merged. -/
structure Reads (data : BoundAttribute) (source : WrittenAttribute) (c : AttributeClass)
    (ps : List Parameter) (slots : List Slot) : Prop where
  semantic : Semantic.Reads data c ps
  syntactic : Syntactic.Reads data source c ps slots
  named : source.arguments.countP (·.target.isSome) = data.namedArguments.length

def arguments (data : BoundAttribute) (source : WrittenAttribute) (c : AttributeClass)
    (ps : List Parameter) (slots : List Slot) : Arguments .paired :=
  ⟨c.typeParameters.zip (c.typeArguments.zip source.typeArguments),
    ps.zip (data.constructorArguments.zip slots),
    Arguments.pairUp data.namedArguments (source.arguments.filterMap WrittenArgument.named?)⟩

section Read

variable {data : BoundAttribute} {source : WrittenAttribute} {c : AttributeClass}
  {ps : List Parameter} {slots : List Slot}

theorem pair_arguments :
    (Semantic.arguments data c ps).pair (Syntactic.arguments source c ps slots) =
      arguments data source c ps slots := by
  simp only [Arguments.pair, Semantic.arguments, Syntactic.arguments, Arguments.pairUp_zip,
    arguments]

theorem countMismatch?_arguments (semantic : Semantic.Reads data c ps)
    (syntactic : Syntactic.Reads data source c ps slots) :
    (Semantic.arguments data c ps).countMismatch? (Syntactic.arguments source c ps slots) =
      if source.arguments.countP (·.target.isSome) = data.namedArguments.length then none
      else some (.countMismatch .named data.namedArguments.length
        (source.arguments.countP (·.target.isSome))) := by
  have hs := Binding.bind_length syntactic.bound
  simp only [Arguments.countMismatch?, Semantic.arguments, Syntactic.arguments, List.length_zip,
    semantic.types, syntactic.types, semantic.constructors, hs, WrittenArgument.length_named]
  grind

theorem parse_of_reads (semantic : Semantic.Reads data c ps)
    (syntactic : Syntactic.Reads data source c ps slots) :
    parse data source =
      .notifyAll [.event ((Semantic.reading data c ps).completion .semantic),
        .event ((Syntactic.reading source c ps slots).completion .syntactic)]
        (if source.arguments.countP (·.target.isSome) = data.namedArguments.length then
          .recordOrFail (.finish true) (arguments data source c ps slots).calls
        else .fail (.countMismatch .named data.namedArguments.length
          (source.arguments.countP (·.target.isSome)))) := by
  unfold parse ofPasses
  rw [Arguments.run_gather, Arguments.run_gather, Semantic.parse_of_reads semantic,
    Syntactic.parse_of_reads syntactic, Reading.transcript_pass_ok, Reading.transcript_pass_ok]
  simp only [Arguments.ofCalls_calls, Semantic.arguments_reading, Syntactic.arguments_reading,
    countMismatch?_arguments semantic syntactic, pair_arguments, Bool.not_true, Bool.false_eq_true,
    ↓reduceIte]
  split_ifs <;> rfl

theorem record_parse (reads : Reads data source c ps slots) {r : Recorder σ (Call .paired)}
    {s : σ} (accepted : r.AcceptsAll s (arguments data source c ps slots).calls) :
    ((parse data source).run r s).record =
      r.after s (arguments data source c ps slots).calls := by
  obtain ⟨refused, seen, -⟩ := Pass.run_recordOrFail_finish r
    (arguments data source c ps slots).calls s
  rw [Pass.record_run, parse_of_reads reads.semantic reads.syntactic, if_pos reads.named,
    Pass.calls_notifyAll]
  exact congrArg _ (seen.eq_of_acceptsAll accepted).1

end Read

theorem parse_cases (data : BoundAttribute) (source : WrittenAttribute) :
    (∃ d, Semantic.read data = .error d ∧
      parse data source = .notifyAll [.diagnostic d] (.fail .semanticPassFailed)) ∨
    (∃ a d, Semantic.read data = .ok a ∧ Syntactic.read data source = .error d ∧
      parse data source = .notifyAll [.event (a.completion .semantic), .diagnostic d]
        (.fail .syntacticPassFailed)) ∨
    ∃ c ps slots, Semantic.Reads data c ps ∧ Syntactic.Reads data source c ps slots := by
  cases hs : Semantic.read data with
  | error d =>
    refine .inl ⟨d, rfl, ?_⟩
    rw [parse, ofPasses, Arguments.run_gather, Semantic.parse, hs, Reading.transcript_pass_error]
    rfl
  | ok a =>
    cases hw : Syntactic.read data source with
    | error d =>
      refine .inr (.inl ⟨a, d, rfl, rfl, ?_⟩)
      rw [parse, ofPasses, Arguments.run_gather, Arguments.run_gather, Semantic.parse,
        Syntactic.parse, hs, hw, Reading.transcript_pass_ok, Reading.transcript_pass_error]
      rfl
    | ok b =>
      obtain ⟨c, ps, semantic, rfl⟩ := Semantic.read_eq_ok_iff.mp hs
      obtain ⟨c', ps', slots, syntactic, rfl⟩ := Syntactic.read_eq_ok_iff.mp hw
      obtain ⟨rfl, rfl⟩ := Semantic.Reads.same_parameters semantic syntactic
      exact .inr (.inr ⟨c, ps, slots, semantic, syntactic⟩)

variable {data : BoundAttribute} {source : WrittenAttribute}

theorem calls_parse (data : BoundAttribute) (source : WrittenAttribute)
    (r : Recorder σ (Call .paired)) (s : σ) :
    (parse data source).calls r s = [] ∨
    ∃ c ps slots, Semantic.Reads data c ps ∧ Syntactic.Reads data source c ps slots ∧
      (parse data source).calls r s <+: (arguments data source c ps slots).calls := by
  rcases parse_cases data source with ⟨d, -, h⟩ | ⟨a, d, -, -, h⟩ | ⟨c, ps, slots, hs, hw⟩
  · left
    rw [h, Pass.calls_notifyAll]
    rfl
  · left
    rw [h, Pass.calls_notifyAll]
    rfl
  · rw [parse_of_reads hs hw, Pass.calls_notifyAll]
    split_ifs with hn
    · obtain ⟨refused, seen, -⟩ := Pass.run_recordOrFail_finish r
        (arguments data source c ps slots).calls s
      exact .inr ⟨c, ps, slots, hs, hw, seen.initial⟩
    · exact .inl rfl

theorem succeeded_parse_iff (r : Recorder σ (Call .paired)) (s : σ) :
    ((parse data source).run r s).succeeded = true ↔
      ∃ c ps slots, Reads data source c ps slots ∧
        r.AcceptsAll s (arguments data source c ps slots).calls := by
  constructor
  · intro succeeded
    rcases parse_cases data source with ⟨d, -, h⟩ | ⟨a, d, -, -, h⟩ | ⟨c, ps, slots, hs, hw⟩
    · rw [h, Pass.run_notifyAll_fail] at succeeded
      exact (Bool.false_ne_true succeeded).elim
    · rw [h, Pass.run_notifyAll_fail] at succeeded
      exact (Bool.false_ne_true succeeded).elim
    · rw [parse_of_reads hs hw, Pass.run_notifyAll] at succeeded
      split_ifs at succeeded with hn
      · obtain ⟨refused, seen, hr⟩ := Pass.run_recordOrFail_finish r
          (arguments data source c ps slots).calls s
        rw [hr] at succeeded
        have hrefused : refused = none := Option.isNone_iff_eq_none.mp succeeded
        exact ⟨c, ps, slots, ⟨hs, hw, hn⟩, seen.refused_eq_none_iff.mp hrefused⟩
      · exact (Bool.false_ne_true succeeded).elim
  · intro h
    obtain ⟨c, ps, slots, reads, accepted⟩ := h
    obtain ⟨refused, seen, hr⟩ := Pass.run_recordOrFail_finish r
      (arguments data source c ps slots).calls s
    rw [parse_of_reads reads.semantic reads.syntactic, Pass.run_notifyAll, if_pos reads.named, hr,
      (seen.eq_of_acceptsAll accepted).2]
    rfl

theorem category_of_countMismatch (r : Recorder σ (Call .paired)) (s : σ) {k : Category}
    {m n : Nat} (h : .diagnostic (.countMismatch k m n) ∈ ((parse data source).run r s).notices) :
    k = .named := by
  rcases parse_cases data source with ⟨d, hd, hp⟩ | ⟨a, d, -, hd, hp⟩ | ⟨c, ps, slots, hs, hw⟩
  · rw [hp, Pass.run_notifyAll_fail] at h
    have he : d = .countMismatch k m n := by simpa [eq_comm] using h
    exact ((Semantic.isFault_of_read hd).ne_countMismatch k m n he).elim
  · rw [hp, Pass.run_notifyAll_fail] at h
    have he : d = .countMismatch k m n := by simpa [eq_comm] using h
    exact ((Syntactic.isFault_of_read hd).ne_countMismatch k m n he).elim
  · rw [parse_of_reads hs hw] at h
    split_ifs at h
    · obtain ⟨refused, -, hr⟩ := Pass.run_recordOrFail_finish r
        (arguments data source c ps slots).calls s
      rw [Pass.run_notifyAll, hr] at h
      cases refused <;> simp [Run.after, Call.rejection] at h
    · rw [Pass.run_notifyAll_fail] at h
      have he : Notice.diagnostic (.countMismatch k m n) = .diagnostic (.countMismatch .named
          data.namedArguments.length (source.arguments.countP (·.target.isSome))) := by
        simpa using h
      cases he
      rfl

theorem getElem?_of_initial {π α β : Type} {xs : List (π × (α × β))} {ps : List π} {as : List α}
    {bs : List β} (h : xs <+: ps.zip (as.zip bs)) {i : Nat} {p : π} {a : α} {b : β}
    (hi : xs[i]? = some (p, (a, b))) : ps[i]? = some p ∧ as[i]? = some a ∧ bs[i]? = some b := by
  have hz : (ps.zip (as.zip bs))[i]? = some (p, (a, b)) := by
    obtain ⟨hlt, he⟩ := List.getElem?_eq_some_iff.mp hi
    rw [List.prefix_iff_getElem?.mp h i hlt, he]
  obtain ⟨hp, hab⟩ := List.getElem?_zip_eq_some.mp hz
  exact ⟨hp, List.getElem?_zip_eq_some.mp hab⟩

/-- The default passes speak of the same parameter at each position, and succeed together on the
applications that both can read and that have as many named arguments in the one view as in the
other. -/
theorem parse_aligned (data : BoundAttribute) (source : WrittenAttribute)
    (r : Recorder σ (Call .paired)) (s : σ) :
    let made := (parse data source).calls r s
    let run := (parse data source).run r s
    let written := (Syntactic.parse data source).transcript.record
    (∀ k m n, .diagnostic (.countMismatch k m n) ∈ run.notices → k = .named) ∧
    (∀ (i : Nat) p t e, (made.filterMap Call.type?)[i]? = some (p, (t, e)) →
      (∃ c ∈ data.attributeClass, c.typeParameters[i]? = some p ∧ c.typeArguments[i]? = some t) ∧
      source.typeArguments[i]? = some e ∧ (written.filterMap Call.type?)[i]? = some (p, e)) ∧
    (∀ (i : Nat) p v slot, (made.filterMap Call.constructor?)[i]? = some (p, (v, slot)) →
      ∃ ps slots, data.constructorParameters = some ps ∧
        Binding.bind ps source.arguments = .ok slots ∧ ps[i]? = some p ∧
        data.constructorArguments[i]? = some v ∧ slots[i]? = some slot ∧
        (written.filterMap Call.constructor?)[i]? = some (p, slot)) ∧
    ((∀ c s, (r c s).accepted = true) →
      (run.succeeded = true ↔ ∃ c ps slots, Reads data source c ps slots)) := by
  intro made run written
  refine ⟨fun k m n => category_of_countMismatch r s, ?_, ?_, ?_⟩
  · intro i p t e hi
    rcases calls_parse data source r s with hm | ⟨c, ps, slots, hs, hw, hm⟩
    · rw [show made = [] from hm] at hi
      simp at hi
    have hz := hm.filterMap Call.type?
    rw [(Arguments.filterMap_calls _).1] at hz
    obtain ⟨hp, ht, he⟩ := getElem?_of_initial hz hi
    refine ⟨⟨c, hs.resolved, hp, ht⟩, he, ?_⟩
    simp only [written, transcript_parse hw, (Arguments.filterMap_calls _).1]
    exact List.getElem?_zip_eq_some.mpr ⟨hp, he⟩
  · intro i p v slot hi
    rcases calls_parse data source r s with hm | ⟨c, ps, slots, hs, hw, hm⟩
    · rw [show made = [] from hm] at hi
      simp at hi
    have hz := hm.filterMap Call.constructor?
    rw [(Arguments.filterMap_calls _).2.1] at hz
    obtain ⟨hp, hv, hslot⟩ := getElem?_of_initial hz hi
    refine ⟨ps, slots, hs.selected, hw.bound, hp, hv, hslot, ?_⟩
    simp only [written, transcript_parse hw, (Arguments.filterMap_calls _).2.1]
    exact List.getElem?_zip_eq_some.mpr ⟨hp, hslot⟩
  · intro accepts
    rw [succeeded_parse_iff]
    constructor
    · intro h
      obtain ⟨c, ps, slots, reads, -⟩ := h
      exact ⟨c, ps, slots, reads⟩
    · intro h
      obtain ⟨c, ps, slots, reads⟩ := h
      exact ⟨c, ps, slots, reads, Recorder.acceptsAll_of_forall accepts s _⟩

end Combined

end AttributeArguments
