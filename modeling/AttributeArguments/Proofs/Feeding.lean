import AttributeArguments.Proofs.Reading

/-!
# Feeding a recorder

What the recorder sees of one application. A pass that cannot read the application declines it: it
reports one error and leaves the recorder alone. Otherwise it feeds the recorder a list of calls
that the application alone determines, up to and including the first refused one. The slots of all
constructor parameters are known before the first call, so that a fault of the written arguments
never leaves a record half filled.
-/
namespace AttributeArguments

namespace Recorder

variable {σ α : Type}

def refused? (r : Recorder σ α) : σ → List α → Option α
  | _, [] => none
  | s, a :: as => if (r a s).accepted then r.refused? (r a s).record as else some a

theorem refused?_append {r : Recorder σ α} {s : σ} {as : List α} (h : r.AcceptsAll s as)
    (bs : List α) : r.refused? s (as ++ bs) = r.refused? (r.after s as) bs := by
  induction as generalizing s with
  | nil => rfl
  | cons a as ih =>
    have hrest := ih h.2
    simp only [List.cons_append, refused?, h.1, ↓reduceIte]
    exact hrest

theorem Sees.refused?_seen {r : Recorder σ α} {s : σ} {as seen : List α} {refused : Option α}
    (h : r.Sees s as seen refused) : r.refused? s seen = refused := by
  cases h with
  | all accepted =>
    have ha := refused?_append accepted []
    rwa [List.append_nil] at ha
  | @upTo before rest a split accepted refused =>
    rw [refused?_append accepted]
    simp only [refused?, refused, Bool.false_eq_true, ↓reduceIte]

end Recorder

theorem Notice.diagnostics_events (es : List Event) :
    (es.map Notice.event).filterMap diagnostic? = [] := by
  rw [List.filterMap_map]
  exact List.filterMap_eq_nil_iff.mpr fun _ _ => rfl

theorem Diagnostic.IsFault.severity {d : Diagnostic} (h : d.IsFault) : d.severity = .error := by
  cases d with
  | argumentRejected | semanticPassFailed | syntacticPassFailed => exact h.elim
  | _ => rfl

def PassKind.failed : PassKind → Diagnostic
  | semantic => .semanticPassFailed
  | syntactic => .syntacticPassFailed

namespace Pass

variable {F : Family} {σ : Type}

def diagnostics (p : Pass F) (r : Recorder σ (Call F)) (s : σ) : List Diagnostic :=
  Sink.collector.collected (p.run r s).notices

/-- The pass fails without a call, with one error, and after it the note on the pass inside it
that failed, if any. -/
structure Declines (p : Pass F) (failed : Option PassKind) (r : Recorder σ (Call F)) (s : σ) :
    Prop where
  calls : p.calls r s = []
  record : (p.run r s).record = s
  succeeded : (p.run r s).succeeded = false
  diagnostics : ∃ d : Diagnostic, d.severity = .error ∧
    p.diagnostics r s = d :: (failed.map PassKind.failed).toList

/-- The pass makes the calls `cs` in turn, up to and including the first refused one, and fails
only for a refusal. -/
structure Feeds (p : Pass F) (cs : List (Call F)) (r : Recorder σ (Call F)) (s : σ) : Prop where
  calls : r.Sees s cs (p.calls r s) (r.refused? s (p.calls r s))
  record : (p.run r s).record = r.after s (p.calls r s)
  succeeded : (p.run r s).succeeded = (r.refused? s (p.calls r s)).isNone
  diagnostics : p.diagnostics r s =
    ((r.refused? s (p.calls r s)).map fun c => .argumentRejected c.category c.name).toList

theorem declines_fail (failed : Option PassKind) (ns : List Notice) {d last : Diagnostic}
    (error : d.severity = .error)
    (h : (ns ++ [Notice.diagnostic last]).filterMap Notice.diagnostic? =
      d :: (failed.map PassKind.failed).toList) (r : Recorder σ (Call F)) (s : σ) :
    (notifyAll ns (fail last)).Declines failed r s := by
  have hr := run_notifyAll_fail r ns last s
  refine ⟨?_, ?_, ?_, d, error, ?_⟩
  · rw [calls_notifyAll]
    rfl
  · rw [hr]
  · rw [hr]
  · rw [diagnostics, hr]
    exact h

theorem Feeds.notifyAll {p : Pass F} {cs : List (Call F)} {r : Recorder σ (Call F)} {s : σ}
    (h : p.Feeds cs r s) (es : List Event) : (p.notifyAll (es.map .event)).Feeds cs r s := by
  have hd : (Pass.notifyAll (es.map .event) p).diagnostics r s = p.diagnostics r s := by
    simp only [Pass.diagnostics, run_notifyAll, Run.after, Sink.collected, List.filterMap_append,
      Notice.diagnostics_events, List.nil_append]
  refine ⟨?_, ?_, ?_, ?_⟩
  · simpa only [calls_notifyAll] using h.calls
  · simpa only [calls_notifyAll, run_notifyAll, Run.after] using h.record
  · simpa only [calls_notifyAll, run_notifyAll, Run.after] using h.succeeded
  · simpa only [calls_notifyAll, hd] using h.diagnostics

theorem feeds_recordOrFail (cs : List (Call F)) (es : List Event) (r : Recorder σ (Call F))
    (s : σ) : (recordOrFail (.notifyAll (es.map .event) (.finish true)) cs).Feeds cs r s := by
  obtain ⟨refused, seen, hr⟩ := run_recordOrFail r (es.map .event) cs s
  have hrefused := seen.refused?_seen
  refine ⟨?_, ?_, ?_, ?_⟩
  · rwa [hrefused]
  · rw [hr]
  · rw [hr, hrefused]
  · rw [hrefused, Pass.diagnostics, hr]
    simp only [Sink.collected, List.filterMap_append, Notice.diagnostics_events, List.nil_append]
    cases refused with
    | none => exact Notice.diagnostics_events es
    | some c => rfl

end Pass

namespace Reading

variable {F : Family} {σ : Type}

theorem declines_pass (kind : PassKind) {d : Diagnostic} (h : d.IsFault)
    (r : Recorder σ (Call F)) (s : σ) : (pass kind (.error d)).Declines none r s :=
  Pass.declines_fail none [] h.severity rfl r s

theorem feeds_pass (kind : PassKind) (a : Reading F) (r : Recorder σ (Call F)) (s : σ) :
    (pass kind (.ok a)).Feeds a.arguments.calls r s :=
  Pass.feeds_recordOrFail a.arguments.calls [a.completion kind] r s

end Reading

variable {σ τ : Type}

theorem Semantic.parse_cases (data : BoundAttribute) (r : Recorder σ (Call .bound)) (s : σ) :
    (∀ c ps, ¬ Reads data c ps) ∧ (parse data).Declines none r s ∨
    ∃ c ps, Reads data c ps ∧ (parse data).Feeds (arguments data c ps).calls r s := by
  cases h : read data with
  | error d =>
    left
    refine ⟨?_, ?_⟩
    · intro c ps reads
      have hok := read_eq_ok_iff.mpr ⟨c, ps, reads, rfl⟩
      rw [h] at hok
      cases hok
    · rw [parse, h]
      exact Reading.declines_pass .semantic (isFault_of_read h) r s
  | ok a =>
    right
    obtain ⟨c, ps, reads, rfl⟩ := read_eq_ok_iff.mp h
    refine ⟨c, ps, reads, ?_⟩
    rw [parse, h]
    exact Reading.feeds_pass .semantic _ r s

theorem Syntactic.parse_cases (data : BoundAttribute) (source : WrittenAttribute)
    (r : Recorder σ (Call .written)) (s : σ) :
    (∀ c ps slots, ¬ Reads data source c ps slots) ∧ (parse data source).Declines none r s ∨
    ∃ c ps slots, Reads data source c ps slots ∧
      (parse data source).Feeds (arguments source c ps slots).calls r s := by
  cases h : read data source with
  | error d =>
    left
    refine ⟨?_, ?_⟩
    · intro c ps slots reads
      have hok := read_eq_ok_iff.mpr ⟨c, ps, slots, reads, rfl⟩
      rw [h] at hok
      cases hok
    · rw [parse, h]
      exact Reading.declines_pass .syntactic (isFault_of_read h) r s
  | ok a =>
    right
    obtain ⟨c, ps, slots, reads, rfl⟩ := read_eq_ok_iff.mp h
    refine ⟨c, ps, slots, reads, ?_⟩
    rw [parse, h]
    exact Reading.feeds_pass .syntactic _ r s

end AttributeArguments
