import AttributeArguments.Proofs.Delivery
import AttributeArguments.Proofs.Registration

/-!
# Agreement of combined and split parsing

A combined parse into recorders that are mirrored by two others succeeds when the semantic pass
into the first and the syntactic pass into the second both do. The same registrations on a
combined mapper and on a split one make such recorders, and what the combined callbacks receive
together is what the callbacks of the halves receive apart.
-/
namespace AttributeArguments

variable {σ τ υ δ ε : Type}

section Halves

variable {data : BoundAttribute} {source : WrittenAttribute} {c : AttributeClass}
  {ps : List Parameter} {slots : List Slot}

theorem WrittenArgument.countP_of_names
    (names : (source.arguments.filterMap named?).map Prod.fst = data.namedArguments.map Prod.fst) :
    source.arguments.countP (·.target.isSome) = data.namedArguments.length := by
  have h := congrArg List.length names
  rwa [List.length_map, List.length_map, length_named] at h

theorem Combined.halves_calls (semantic : Semantic.Reads data c ps)
    (syntactic : Syntactic.Reads data source c ps slots)
    (names : (source.arguments.filterMap WrittenArgument.named?).map Prod.fst =
      data.namedArguments.map Prod.fst) :
    (arguments data source c ps slots).calls.map Call.first =
      (Semantic.arguments data c ps).calls ∧
    (arguments data source c ps slots).calls.map Call.second =
      (Syntactic.arguments source c ps slots).calls := by
  have hs := Binding.bind_length syntactic.bound
  have same : (Semantic.arguments data c ps).SameParameters
      (Syntactic.arguments source c ps slots) := by
    refine ⟨?_, ?_, names.symm⟩
    · simp only [Semantic.arguments, Syntactic.arguments,
        List.map_fst_zip (Nat.le_of_eq semantic.types.symm),
        List.map_fst_zip (Nat.le_of_eq syntactic.types.symm)]
    · simp only [Semantic.arguments, Syntactic.arguments,
        List.map_fst_zip (Nat.le_of_eq semantic.constructors.symm),
        List.map_fst_zip (Nat.le_of_eq hs.symm)]
  rw [← pair_arguments]
  exact Arguments.halves_calls_pair same

end Halves

theorem Combined.parse_mirrors {R : σ → τ → υ → Prop} {whole : Recorder σ (Call .paired)}
    {first : Recorder τ (Call .bound)} {second : Recorder υ (Call .written)}
    (m : Recorder.Mirrors R Call.first Call.second whole first second) (data : BoundAttribute)
    (source : WrittenAttribute)
    (names : (source.arguments.filterMap WrittenArgument.named?).map Prod.fst =
      data.namedArguments.map Prod.fst) {s : σ} {t : τ} {u : υ} (h : R s t u) :
    let combined := (parse data source).run whole s
    let semantic := (Semantic.parse data).run first t
    let syntactic := (Syntactic.parse data source).run second u
    (combined.succeeded = true ↔ semantic.succeeded = true ∧ syntactic.succeeded = true) ∧
    (combined.succeeded = true → R combined.record semantic.record syntactic.record) := by
  intro combined semantic syntactic
  have halves {c : AttributeClass} {ps : List Parameter} {slots : List Slot}
      (reads : Reads data source c ps slots) :
      whole.AcceptsAll s (arguments data source c ps slots).calls ↔
        first.AcceptsAll t (Semantic.arguments data c ps).calls ∧
        second.AcceptsAll u (Syntactic.arguments source c ps slots).calls := by
    obtain ⟨hf, hs⟩ := halves_calls reads.semantic reads.syntactic names
    rw [m.acceptsAll_iff h, hf, hs]
  refine ⟨⟨fun succeeded => ?_, fun ⟨hs, hw⟩ => ?_⟩, fun succeeded => ?_⟩
  · obtain ⟨c, ps, slots, reads, accepted⟩ := (succeeded_parse_iff whole s).mp succeeded
    obtain ⟨hf, hs⟩ := (halves reads).mp accepted
    exact ⟨(Semantic.succeeded_parse_iff first t).mpr ⟨c, ps, reads.semantic, hf⟩,
      (Syntactic.succeeded_parse_iff second u).mpr ⟨c, ps, slots, reads.syntactic, hs⟩⟩
  · obtain ⟨c, ps, semantic, hf⟩ := (Semantic.succeeded_parse_iff first t).mp hs
    obtain ⟨c', ps', slots, syntactic, hg⟩ := (Syntactic.succeeded_parse_iff second u).mp hw
    obtain ⟨rfl, rfl⟩ := Semantic.Reads.same_parameters semantic syntactic
    have reads : Reads data source c ps slots :=
      ⟨semantic, syntactic, WrittenArgument.countP_of_names names⟩
    exact (succeeded_parse_iff whole s).mpr ⟨c, ps, slots, reads, (halves reads).mpr ⟨hf, hg⟩⟩
  · obtain ⟨c, ps, slots, reads, accepted⟩ := (succeeded_parse_iff whole s).mp succeeded
    obtain ⟨hf, hg⟩ := (halves reads).mp accepted
    have hr := m.after h accepted
    obtain ⟨hcf, hcs⟩ := halves_calls reads.semantic reads.syntactic names
    rw [hcf, hcs] at hr
    simp only [combined, semantic, syntactic, record_parse reads accepted,
      Semantic.record_parse reads.semantic hf, Syntactic.record_parse reads.syntactic hg]
    exact hr

/-- The same registrations on a combined and on a split mapper, both of which have been set up:
the combined parse succeeds when both passes do, and then its callbacks have received the values
of the one together with the locations of the other. -/
theorem Combined.parse_agrees {ω : Type} (rs : List (Registration σ τ υ δ ε × Bool))
    (options : MapperOptions) {whole : Snapshot (.combined (Logged σ (δ × ε)))}
    {halves : Snapshot (.split (Logged τ δ) (Logged υ ε))}
    (hwhole : (Mapper.ofList options (rs.map (Prod.map Registration.combined id)) :
      Mapper _ ω).obtain.verdict = .ok whole)
    (hhalves : (Mapper.ofList options (rs.map (Prod.map Registration.split id)) :
      Mapper _ ω).obtain.verdict = .ok halves)
    (data : BoundAttribute) (source : WrittenAttribute)
    (names : (source.arguments.filterMap WrittenArgument.named?).map Prod.fst =
      data.namedArguments.map Prod.fst) (s : σ) (t : τ) (u : υ) :
    let combined := (parse data source).run whole.recorder ⟨s, []⟩
    let semantic := (Semantic.parse data).run halves.firstRecorder ⟨t, []⟩
    let syntactic := (Syntactic.parse data source).run halves.secondRecorder ⟨u, []⟩
    (combined.succeeded = true ↔ semantic.succeeded = true ∧ syntactic.succeeded = true) ∧
    (combined.succeeded = true →
      semantic.record.received.length = syntactic.record.received.length ∧
      combined.record.received =
        semantic.record.received.zip syntactic.record.received) := by
  obtain ⟨m, rfl, rfl⟩ := Registration.obtain_ofList hwhole hhalves
  exact parse_mirrors m.mirrors data source names ⟨rfl, rfl⟩

def Observed.logger {α β : Type} (value : α → δ) (place : β → ε) :
    Observed Unit Unit Unit δ ε α β :=
  ⟨⟨fun s _ _ => s, fun t _ => t, fun u _ => u⟩, value, place⟩

def mixedRegistrations : List (Registration Unit Unit Unit Constant CollectionLocation × Bool) :=
  [(.index 0 (.logger .type fun l => ⟨l, []⟩), true),
    (.constructor "first" (.primitive .bool) (.logger .bool fun l => ⟨l, []⟩), true),
    (.collection "rest" (.array (.primitive .i32))
      (.logger (fun ns => .array (ns.map .i32)) id), true),
    (.named "Answer" (.primitive .i32) (.logger .i32 fun l => ⟨l, []⟩), false)]

open Syntactic (mixedData mixedSource)

theorem Combined.parse_agrees_mixed :
    ∃ whole halves,
      (Mapper.ofList {} (mixedRegistrations.map (Prod.map Registration.combined id)) :
        Mapper _ Unit).obtain.verdict = .ok whole ∧
      (Mapper.ofList {} (mixedRegistrations.map (Prod.map Registration.split id)) :
        Mapper _ Unit).obtain.verdict = .ok halves ∧
      (mixedSource.arguments.filterMap WrittenArgument.named?).map Prod.fst =
        mixedData.namedArguments.map Prod.fst ∧
      let combined := (parse mixedData mixedSource).run whole.recorder ⟨(), []⟩
      let semantic := (Semantic.parse mixedData).run halves.firstRecorder ⟨(), []⟩
      let syntactic := (Syntactic.parse mixedData mixedSource).run halves.secondRecorder ⟨(), []⟩
      combined.succeeded = true ∧
      combined.record.received =
        semantic.record.received.zip syntactic.record.received := by
  have names : (mixedSource.arguments.filterMap WrittenArgument.named?).map Prod.fst =
      mixedData.namedArguments.map Prod.fst := by
    decide
  have agrees := parse_agrees (ω := Unit) mixedRegistrations {} rfl rfl mixedData mixedSource
    names () () ()
  exact ⟨_, _, rfl, rfl, names, by decide, (agrees.2 (by decide)).2⟩

end AttributeArguments
