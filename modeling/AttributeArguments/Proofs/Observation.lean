import AttributeArguments.Proofs.Alignment
import AttributeArguments.Proofs.Feeding

/-!
# Observation

A parse as it is observed while it runs. Each diagnostic goes to the sink at the moment it is
reported: a collector keeps it, and tracing emits it as an event, among the events of the pass and
of the recorder. The passes inside a combined parse report to its own sink. Which of the two sinks
it is changes nothing in what the parse does, and what the one emits is what the other would hold.
A pass emits one event of its own, at the end and only if it succeeds, which counts its calls.
-/
namespace AttributeArguments

inductive Origin
  | sink
  | pass
  | recorder
deriving DecidableEq, Repr

structure Emission where
  origin : Origin
  event : Event
deriving DecidableEq, Repr

structure Channels where
  collector : Collector := {}
  trace : List Emission := []
deriving DecidableEq, Repr

namespace Channels

def emit (w : Channels) (origin : Origin) (es : List Event) : Channels :=
  { w with trace := w.trace ++ es.map fun e => ⟨origin, e⟩ }

def events (w : Channels) : List Event := w.trace.map Emission.event

def eventsOf (w : Channels) (origin : Origin) : List Event :=
  (w.trace.filter (·.origin = origin)).map Emission.event

theorem emit_nil (w : Channels) (origin : Origin) : w.emit origin [] = w := by
  rw [emit, List.map_nil, List.append_nil]

theorem events_emit (w : Channels) (origin : Origin) (es : List Event) :
    (w.emit origin es).events = w.events ++ es := by
  simp [events, emit, Function.comp_def]

theorem eventsOf_emit (w : Channels) (origin : Origin) (es : List Event) :
    (w.emit origin es).eventsOf origin = w.eventsOf origin ++ es := by
  simp [eventsOf, emit, List.filter_map, Function.comp_def]

theorem eventsOf_emit_of_ne (w : Channels) {origin other : Origin} (h : origin ≠ other)
    (es : List Event) : (w.emit origin es).eventsOf other = w.eventsOf other := by
  simp [eventsOf, emit, List.filter_map, Function.comp_def, h]

end Channels

namespace Sink

def report : Sink → Diagnostic → Channels → Channels
  | collector, d, w => { w with collector := w.collector.report d }
  | tracing, d, w => w.emit .sink [.reported d]

def observe (k : Sink) : Notice → Channels → Channels
  | .diagnostic d, w => k.report d w
  | .event e, w => w.emit .pass [e]

def emitted : Sink → List Diagnostic → List Event
  | collector, _ => []
  | tracing, ds => ds.map .reported

theorem collected_events (k : Sink) (es : List Event) : k.collected (es.map .event) = [] := by
  cases k with
  | collector => exact Notice.diagnostics_events es
  | tracing => rfl

theorem passEvents_report (k : Sink) (d : Diagnostic) (w : Channels) :
    (k.report d w).eventsOf .pass = w.eventsOf .pass := by
  cases k with
  | collector => rfl
  | tracing => exact w.eventsOf_emit_of_ne (by decide) _

end Sink

structure Watched (F : Family) (σ : Type) where
  succeeded : Bool
  record : σ
  calls : List (Call F)
  channels : Channels

namespace Pass

variable {F : Family} {σ : Type}

/-- The run of a pass that reports to a sink as it goes. -/
def watched (k : Sink) (r : Recorder σ (Call F)) : Pass F → σ → Channels → Watched F σ
  | finish b, s, w => ⟨b, s, [], w⟩
  | notify n next, s, w => next.watched k r s (k.observe n w)
  | record c next, s, w =>
    let reply := r c s
    let rest := (next reply.accepted).watched k r reply.record (w.emit .recorder reply.events)
    { rest with calls := c :: rest.calls }

variable (k : Sink) (r : Recorder σ (Call F)) (p : Pass F) (s : σ) (w : Channels)

theorem watched_run :
    (p.watched k r s w).succeeded = (p.run r s).succeeded ∧
    (p.watched k r s w).record = (p.run r s).record ∧
    (p.watched k r s w).calls = p.calls r s := by
  induction p generalizing s w with
  | finish b => exact ⟨rfl, rfl, rfl⟩
  | notify n next ih => exact ih s _
  | record c next ih =>
    obtain ⟨succeeded, record, calls⟩ := ih (r c s).accepted (r c s).record _
    exact ⟨succeeded, record, congrArg (c :: ·) calls⟩

end Pass

namespace Sink

variable {F : Family} {σ α : Type}

structure Shows (k : Sink) (view : Channels → List α) (seen : List Notice → List α) : Prop where
  nil : seen [] = []
  append : ∀ ns ms, seen (ns ++ ms) = seen ns ++ seen ms
  observe : ∀ n w, view (k.observe n w) = view w ++ seen [n]
  emit : ∀ es w, view (w.emit .recorder es) = view w ++ seen (es.map .event)

theorem Shows.watched {k : Sink} {view : Channels → List α} {seen : List Notice → List α}
    (h : k.Shows view seen) (r : Recorder σ (Call F)) (p : Pass F) (s : σ) (w : Channels) :
    view (p.watched k r s w).channels = view w ++ seen (p.run r s).notices := by
  induction p generalizing s w with
  | finish b => simp only [Pass.watched, Pass.run, h.nil, List.append_nil]
  | notify n next ih =>
    simp only [Pass.watched, Pass.run, Run.after, ih, h.observe, h.append, List.append_assoc]
  | record c next ih =>
    simp only [Pass.watched, Pass.run, Run.after, ih, h.emit, h.append, List.append_assoc]

theorem shows_collected (k : Sink) : k.Shows (·.collector.diagnostics) k.collected where
  nil := by cases k <;> rfl
  append ns ms := by
    cases k with
    | collector => exact List.filterMap_append
    | tracing => rfl
  observe n w := by
    cases n with
    | event e => cases k <;> exact (List.append_nil _).symm
    | diagnostic d =>
      cases k with
      | collector => rfl
      | tracing => exact (List.append_nil _).symm
  emit es w := by
    rw [k.collected_events, List.append_nil]
    rfl

theorem shows_trace (k : Sink) : k.Shows Channels.events k.trace where
  nil := by cases k <;> rfl
  append ns ms := by
    cases k with
    | collector => exact List.filterMap_append
    | tracing => exact List.map_append
  observe n w := by
    cases n with
    | event e =>
      rw [observe, w.events_emit]
      cases k <;> rfl
    | diagnostic d =>
      cases k with
      | collector => exact (List.append_nil _).symm
      | tracing => exact w.events_emit .sink [.reported d]
  emit es w := by
    rw [w.events_emit]
    cases k <;> simp [trace, List.filterMap_map, Function.comp_def, Notice.event?, Notice.traced]

theorem shows_emitted (k : Sink) :
    k.Shows (·.eventsOf .sink) fun ns => k.emitted (collector.collected ns) where
  nil := by cases k <;> rfl
  append ns ms := by
    rw [collector.shows_collected.append]
    cases k with
    | collector => rfl
    | tracing => exact List.map_append
  observe n w := by
    cases n with
    | event e =>
      rw [observe, w.eventsOf_emit_of_ne (by decide)]
      cases k <;> exact (List.append_nil _).symm
    | diagnostic d =>
      cases k with
      | collector => exact (List.append_nil _).symm
      | tracing => exact w.eventsOf_emit .sink [.reported d]
  emit es w := by
    rw [w.eventsOf_emit_of_ne (by decide), collected_events]
    cases k <;> exact (List.append_nil _).symm

end Sink

/-- What holds of a parse that a sink observes. It is the same with either sink, and the same as it
is alone; the events that tracing emits for it are the diagnostics that the collector would hold,
each at the level of its severity. -/
structure OnlyObserved {F : Family} {σ : Type} (alone : Run σ)
    (run : Sink → Channels → Watched F σ) : Prop where
  alike : ∀ v w, (run .tracing v).succeeded = (run .collector w).succeeded ∧
    (run .tracing v).record = (run .collector w).record ∧
    (run .tracing v).calls = (run .collector w).calls
  told : ∀ v w, ∃ ds,
    (run .collector w).channels.collector.diagnostics = w.collector.diagnostics ++ ds ∧
    (run .tracing v).channels.eventsOf .sink = v.eventsOf .sink ++ ds.map .reported ∧
    ∀ d ∈ ds, (Event.reported d).level =
      match d.severity with
      | .error => .warn
      | .warning => .debug
      | .info => .trace
  apart : ∀ v w, (run .tracing v).channels.collector.diagnostics = v.collector.diagnostics ∧
    (run .collector w).channels.eventsOf .sink = w.eventsOf .sink
  agrees : ∀ k w, (run k w).succeeded = alone.succeeded ∧ (run k w).record = alone.record ∧
    (run k w).channels.collector.diagnostics =
      w.collector.diagnostics ++ k.collected alone.notices ∧
    (run k w).channels.events = w.events ++ k.trace alone.notices

theorem Pass.onlyObserved {F : Family} {σ : Type} (r : Recorder σ (Call F)) (p : Pass F) (s : σ) :
    OnlyObserved (p.run r s) fun k w => p.watched k r s w where
  alike v w := by
    obtain ⟨succeeded, record, calls⟩ := p.watched_run .tracing r s v
    obtain ⟨succeeded', record', calls'⟩ := p.watched_run .collector r s w
    exact ⟨succeeded.trans succeeded'.symm, record.trans record'.symm, calls.trans calls'.symm⟩
  told v w := by
    refine ⟨p.diagnostics r s, Sink.collector.shows_collected.watched r p s w,
      Sink.tracing.shows_emitted.watched r p s v, fun d _ => ?_⟩
    rw [Event.level]
    cases d.severity <;> rfl
  apart v w := by
    have collected := Sink.tracing.shows_collected.watched r p s v
    have emitted := Sink.collector.shows_emitted.watched r p s w
    exact ⟨collected.trans (List.append_nil _), emitted.trans (List.append_nil _)⟩
  agrees k w := by
    obtain ⟨succeeded, record, -⟩ := p.watched_run k r s w
    exact ⟨succeeded, record, k.shows_collected.watched r p s w, k.shows_trace.watched r p s w⟩

/-- The one event of its own that a pass gives, when it succeeds: it names the class, and counts
the arguments of each category, which are as many as the calls. -/
structure Completes {F : Family} {σ : Type} (kind : PassKind) (data : BoundAttribute)
    (Lengths : AttributeClass → (Category → Nat) → Prop) (x : Watched F σ) (w : Channels) :
    Prop where
  failed : x.succeeded = false → x.channels.eventsOf .pass = w.eventsOf .pass
  succeeded : x.succeeded = true → ∃ c n, data.attributeClass = some c ∧ Lengths c n ∧
    (∀ category, Call.count category x.calls = n category) ∧
    x.channels.eventsOf .pass =
      w.eventsOf .pass ++ [.passComplete kind c.name (n .type) (n .constructor) (n .named)]

theorem Arguments.count_calls {F : Family} (a : Arguments F) :
    Call.count .type a.calls = a.types.length ∧
    Call.count .constructor a.calls = a.constructors.length ∧
    Call.count .named a.calls = a.named.length := by
  obtain ⟨types, constructors, named⟩ := Call.count_eq_length a.calls
  obtain ⟨ht, hc, hn⟩ := a.filterMap_calls
  exact ⟨types.trans (congrArg _ ht), constructors.trans (congrArg _ hc),
    named.trans (congrArg _ hn)⟩

namespace Reading

variable {F : Family} {a : Reading F}

def count (a : Reading F) : Category → Nat
  | .type => a.types
  | .constructor => a.constructors
  | .named => a.named

/-- The lists that were read are as long as the lists of arguments that were made of them. -/
structure Counted (a : Reading F) : Prop where
  types : a.arguments.types.length = a.types
  constructors : a.arguments.constructors.length = a.constructors
  named : a.arguments.named.length = a.named

theorem Counted.count_calls (h : a.Counted) (category : Category) :
    Call.count category a.arguments.calls = a.count category := by
  obtain ⟨types, constructors, named⟩ := a.arguments.count_calls
  cases category with
  | type => exact types.trans h.types
  | constructor => exact constructors.trans h.constructors
  | named => exact named.trans h.named

end Reading

theorem Semantic.Reads.counted {data : BoundAttribute} {c : AttributeClass} {ps : List Parameter}
    (reads : Semantic.Reads data c ps) : (Semantic.reading data c ps).Counted where
  types := by
    change (c.typeParameters.zip c.typeArguments).length = c.typeArguments.length
    rw [List.length_zip, reads.types, Nat.min_self]
  constructors := by
    change (ps.zip data.constructorArguments).length = data.constructorArguments.length
    rw [List.length_zip, reads.constructors, Nat.min_self]
  named := rfl

theorem Syntactic.Reads.counted {data : BoundAttribute} {source : WrittenAttribute}
    {c : AttributeClass} {ps : List Parameter} {slots : List Slot}
    (reads : Syntactic.Reads data source c ps slots) :
    (Syntactic.reading source c ps slots).Counted where
  types := by
    change (c.typeParameters.zip source.typeArguments).length = source.typeArguments.length
    rw [List.length_zip, reads.types, Nat.min_self]
  constructors := by
    change (ps.zip slots).length = slots.length
    rw [List.length_zip, Binding.bind_length reads.bound, Nat.min_self]
  named := WrittenArgument.length_named source.arguments

section Completion

variable {F : Family} {σ : Type} (k : Sink) (r : Recorder σ (Call F)) (s : σ) (w : Channels)

theorem Pass.passEvents_recordOrFail (done : Pass F) (es : List Event)
    (h : ∀ s w, (done.watched k r s w).succeeded = true ∧
      (done.watched k r s w).channels.eventsOf .pass = w.eventsOf .pass ++ es)
    (cs : List (Call F)) :
    let x := (recordOrFail done cs).watched k r s w
    x.channels.eventsOf .pass = w.eventsOf .pass ++ if x.succeeded then es else [] := by
  induction cs generalizing s w with
  | nil =>
    obtain ⟨succeeded, own⟩ := h s w
    simp only [recordOrFail, recordAll, succeeded, own, ↓reduceIte]
  | cons c cs ih =>
    have heard : (w.emit .recorder (r c s).events).eventsOf .pass = w.eventsOf .pass :=
      w.eventsOf_emit_of_ne (by decide) _
    cases accepted : (r c s).accepted with
    | true =>
      have rest := ih (r c s).record (w.emit .recorder (r c s).events)
      rw [heard] at rest
      simp only [recordOrFail, recordAll, watched, accepted, ↓reduceIte]
      exact rest
    | false =>
      simp only [recordOrFail, recordAll, watched, accepted, Bool.false_eq_true, ↓reduceIte, fail,
        Sink.observe, Sink.passEvents_report, heard, List.append_nil]

theorem Reading.passEvents_pass (kind : PassKind) (x : Except Diagnostic (Reading F)) :
    let y := (pass kind x).watched k r s w
    (y.succeeded = false → y.channels.eventsOf .pass = w.eventsOf .pass) ∧
    (y.succeeded = true → ∃ a, x = .ok a ∧ y.calls = a.arguments.calls ∧
      y.channels.eventsOf .pass = w.eventsOf .pass ++ [a.completion kind]) := by
  intro y
  obtain ⟨succeeded, -, calls⟩ := (pass kind x).watched_run k r s w
  cases x with
  | error d =>
    refine ⟨fun _ => k.passEvents_report d w, fun h => ?_⟩
    cases h
  | ok a =>
    have own : y.channels.eventsOf .pass =
        w.eventsOf .pass ++ if y.succeeded then [a.completion kind] else [] :=
      Pass.passEvents_recordOrFail k r s w (.notify (.event (a.completion kind)) (.finish true))
        [a.completion kind] (fun _ w => ⟨rfl, w.eventsOf_emit .pass _⟩) a.arguments.calls
    constructor
    · intro failed
      rw [own, failed, if_neg Bool.false_ne_true, List.append_nil]
    · intro done
      obtain ⟨b, hb, accepted⟩ := (succeeded_pass_iff kind (.ok a) r s).mp (succeeded ▸ done)
      obtain rfl := Except.ok.inj hb
      rw [done, if_pos rfl] at own
      exact ⟨a, rfl, calls.trans (pass_of_acceptsAll accepted kind).1, own⟩

theorem Reading.completes {data : BoundAttribute}
    {Lengths : AttributeClass → (Category → Nat) → Prop} {x : Except Diagnostic (Reading F)}
    (h : ∀ a, x = .ok a → a.Counted ∧
      ∃ c, data.attributeClass = some c ∧ a.attributeName = c.name ∧ Lengths c a.count)
    (kind : PassKind) :
    Completes kind data Lengths ((pass kind x).watched k r s w) w := by
  obtain ⟨failed, succeeded⟩ := passEvents_pass k r s w kind x
  refine ⟨failed, fun done => ?_⟩
  obtain ⟨a, ha, calls, own⟩ := succeeded done
  obtain ⟨counted, c, resolved, name, lengths⟩ := h a ha
  rw [Reading.completion, name] at own
  refine ⟨c, a.count, resolved, lengths, ?_, own⟩
  rw [calls]
  exact counted.count_calls

end Completion

def Semantic.Lengths (data : BoundAttribute) (c : AttributeClass) (n : Category → Nat) : Prop :=
  n .type = c.typeArguments.length ∧ n .constructor = data.constructorArguments.length ∧
    n .named = data.namedArguments.length

def Syntactic.Lengths (data : BoundAttribute) (source : WrittenAttribute) (_ : AttributeClass)
    (n : Category → Nat) : Prop :=
  ∃ ps slots, data.constructorParameters = some ps ∧
    Binding.bind ps source.arguments = .ok slots ∧ n .type = source.typeArguments.length ∧
    n .constructor = slots.length ∧ n .named = source.arguments.countP (·.target.isSome)

section Parses

variable {σ : Type} (k : Sink) (s : σ) (w : Channels) (data : BoundAttribute)
  (source : WrittenAttribute)

theorem Semantic.completes (r : Recorder σ (Call .bound)) :
    Completes .semantic data (Lengths data) ((parse data).watched k r s w) w := by
  refine Reading.completes k r s w (fun a ha => ?_) .semantic
  obtain ⟨c, ps, reads, rfl⟩ := read_eq_ok_iff.mp ha
  exact ⟨reads.counted, c, reads.resolved, rfl, rfl, rfl, rfl⟩

theorem Syntactic.completes (r : Recorder σ (Call .written)) :
    Completes .syntactic data (Lengths data source) ((parse data source).watched k r s w) w := by
  refine Reading.completes k r s w (fun a ha => ?_) .syntactic
  obtain ⟨c, ps, slots, reads, rfl⟩ := read_eq_ok_iff.mp ha
  exact ⟨reads.counted, c, reads.resolved, rfl, ps, slots, reads.selected, reads.bound, rfl, rfl,
    rfl⟩

end Parses

namespace Combined

variable {σ : Type}

def watched (k : Sink) (semantic : Pass .bound) (syntactic : Pass .written)
    (r : Recorder σ (Call .paired)) (s : σ) (w : Channels) : Watched .paired σ :=
  let first := semantic.watched k Arguments.gather {} w
  if !first.succeeded then ⟨false, s, [], k.report .semanticPassFailed first.channels⟩
  else
    let second := syntactic.watched k Arguments.gather {} first.channels
    if !second.succeeded then ⟨false, s, [], k.report .syntacticPassFailed second.channels⟩
    else
      match first.record.countMismatch? second.record with
      | some d => ⟨false, s, [], k.report d second.channels⟩
      | none => (Pass.recordOrFail (.finish true) (first.record.pair second.record).calls).watched k
          r s second.channels

theorem watched_notifyAll_gather {F G : Family} (k : Sink) (p : Pass F) (a : Arguments F)
    (q : Pass G) (r : Recorder σ (Call G)) (s : σ) (w : Channels) :
    (Pass.notifyAll (p.run Arguments.gather a).notices q).watched k r s w =
      q.watched k r s (p.watched k Arguments.gather a w).channels := by
  induction p generalizing a w with
  | finish b => rfl
  | notify n next ih => exact ih a (k.observe n w)
  | record c next ih =>
    -- a recorder that gathers accepts the call and emits nothing
    have rest := ih true (a.add c) w
    simp only [Pass.run, Pass.watched, Arguments.gather, Recorder.assigned, Run.after,
      List.map_nil, List.nil_append, w.emit_nil] at rest ⊢
    exact rest

theorem watched_eq (k : Sink) (semantic : Pass .bound) (syntactic : Pass .written)
    (r : Recorder σ (Call .paired)) (s : σ) (w : Channels) :
    watched k semantic syntactic r s w = (ofPasses semantic syntactic).watched k r s w := by
  obtain ⟨first, firstRecord, -⟩ := semantic.watched_run k Arguments.gather {} w
  obtain ⟨second, secondRecord, -⟩ := syntactic.watched_run k Arguments.gather {}
    (semantic.watched k Arguments.gather {} w).channels
  simp only [watched, ofPasses, watched_notifyAll_gather, first, firstRecord, second, secondRecord]
  split_ifs
  · rfl
  · rw [watched_notifyAll_gather]
    rfl
  · rw [watched_notifyAll_gather]
    cases (semantic.run Arguments.gather {}).record.countMismatch?
      (syntactic.run Arguments.gather {}).record <;> rfl

theorem passEvents_watched (k : Sink) (semantic : Pass .bound) (syntactic : Pass .written)
    (r : Recorder σ (Call .paired)) (s : σ) (w : Channels) :
    let first := semantic.watched k Arguments.gather {} w
    let second := syntactic.watched k Arguments.gather {} first.channels
    (watched k semantic syntactic r s w).channels.eventsOf .pass =
      if first.succeeded then second.channels.eventsOf .pass
      else first.channels.eventsOf .pass := by
  intro first second
  cases hfirst : first.succeeded with
  | false =>
    simp only [watched, first, hfirst, Bool.not_false, Bool.false_eq_true, ↓reduceIte]
    exact k.passEvents_report _ _
  | true =>
    cases hsecond : second.succeeded with
    | false =>
      simp only [watched, first, second, hfirst, hsecond, Bool.not_false, Bool.not_true,
        Bool.false_eq_true, ↓reduceIte]
      exact k.passEvents_report _ _
    | true =>
      simp only [watched, first, second, hfirst, hsecond, Bool.not_true, Bool.false_eq_true,
        ↓reduceIte]
      cases first.record.countMismatch? second.record with
      | some d => exact k.passEvents_report d _
      | none =>
        have own := Pass.passEvents_recordOrFail k r s second.channels (.finish true) []
          (fun _ w => ⟨rfl, (List.append_nil _).symm⟩) (first.record.pair second.record).calls
        simp only [ite_self, List.append_nil] at own
        exact own

end Combined

/-- Sinks observe a parse and do not influence it, and the completion of a pass counts its calls.
A combined parse lets both of its passes report to its own sink; the completions that are seen then
are those of its passes, of which the second runs only if the first succeeds. -/
theorem sinks_only_observe {ρ σ τ : Type} (data : BoundAttribute) (source : WrittenAttribute)
    (r : Recorder ρ (Call .bound)) (s : ρ) (q : Recorder σ (Call .written)) (t : σ)
    (m : Recorder τ (Call .paired)) (u : τ) :
    let semantic := fun k w => (Semantic.parse data).watched k r s w
    let syntactic := fun k w => (Syntactic.parse data source).watched k q t w
    let combined := fun k w =>
      Combined.watched k (Semantic.parse data) (Syntactic.parse data source) m u w
    OnlyObserved ((Semantic.parse data).run r s) semantic ∧
    OnlyObserved ((Syntactic.parse data source).run q t) syntactic ∧
    OnlyObserved ((Combined.parse data source).run m u) combined ∧
    (∀ k w, Completes .semantic data (Semantic.Lengths data) (semantic k w) w) ∧
    (∀ k w, Completes .syntactic data (Syntactic.Lengths data source) (syntactic k w) w) ∧
    ∀ k w,
      let first := (Semantic.parse data).watched k Arguments.gather {} w
      let second := (Syntactic.parse data source).watched k Arguments.gather {} first.channels
      Completes .semantic data (Semantic.Lengths data) first w ∧
      Completes .syntactic data (Syntactic.Lengths data source) second first.channels ∧
      (combined k w).channels.eventsOf .pass =
        if first.succeeded then second.channels.eventsOf .pass
        else first.channels.eventsOf .pass := by
  intro semantic syntactic combined
  have replayed : combined = fun k w => (Combined.parse data source).watched k m u w := by
    funext k w
    exact Combined.watched_eq k _ _ m u w
  refine ⟨Pass.onlyObserved r _ s, Pass.onlyObserved q _ t, ?_, ?_, ?_, ?_⟩
  · rw [replayed]
    exact Pass.onlyObserved m _ u
  · intro k w
    exact Semantic.completes k s w data r
  · intro k w
    exact Syntactic.completes k t w data source q
  · intro k w first second
    exact ⟨Semantic.completes k {} w data Arguments.gather,
      Syntactic.completes k {} first.channels data source Arguments.gather,
      Combined.passEvents_watched k _ _ m u w⟩

example :
    let x := Combined.watched .tracing (Semantic.parse {}) (Syntactic.parse {} ⟨[], [], ⟨0, 0⟩⟩)
      Recorder.skip () {}
    x.channels.events.map (fun e => (e.level, e)) =
      [(.warn, .reported .unresolvedAttributeClass), (.trace, .reported .semanticPassFailed)] := rfl

end AttributeArguments
