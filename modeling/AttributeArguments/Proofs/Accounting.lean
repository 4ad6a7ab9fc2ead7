import AttributeArguments.Proofs.Alignment
import AttributeArguments.Proofs.Feeding
import Mathlib.Data.List.Forall2

/-!
# Accounting for diagnostics

A session of parses that all report to one collector, which may be emptied in between. Each parse
ends in one of three ways, and its end tells what it adds to the collector. What was taken from the
collector, with what it still holds, is then the account of the whole session: an error for each
parse that failed by itself and a warning for each that was rejected, in the order of the parses.
-/
namespace AttributeArguments

/-- How a parse ends. A faulty one failed without a call, perhaps for a pass inside it. -/
inductive Verdict
  | accepted
  | rejected (category : Category) (name : String)
  | faulty (failed : Option PassKind)
deriving DecidableEq

namespace Verdict

inductive Explains : Verdict → List Diagnostic → Prop
  | accepted : Explains .accepted []
  | rejected (category : Category) (name : String) :
      Explains (.rejected category name) [.argumentRejected category name]
  | faulty (failed : Option PassKind) {d : Diagnostic} (error : d.severity = .error) :
      Explains (.faulty failed) (d :: (failed.map PassKind.failed).toList)

def isFaulty : Verdict → Bool
  | faulty _ => true
  | _ => false

end Verdict

namespace Pass

variable {F : Family} {σ : Type}

def verdict (p : Pass F) (failed : Option PassKind) (r : Recorder σ (Call F)) (s : σ) : Verdict :=
  if (p.run r s).succeeded then .accepted
  else
    match r.refused? s (p.calls r s) with
    | some c => .rejected c.category c.name
    | none => .faulty failed

/-- The report of the pass is explained by its verdict, and a faulty pass makes no call. -/
structure Accounted (p : Pass F) (failed : Option PassKind) (r : Recorder σ (Call F)) (s : σ) :
    Prop where
  explained : (p.verdict failed r s).Explains (p.diagnostics r s)
  silent : (p.verdict failed r s).isFaulty = true → p.calls r s = []

variable {p : Pass F} {failed : Option PassKind} {r : Recorder σ (Call F)} {s : σ}

theorem accounted_of_verdict {v : Verdict} (hv : p.verdict failed r s = v)
    (explained : v.Explains (p.diagnostics r s))
    (silent : v.isFaulty = true → p.calls r s = []) : p.Accounted failed r s := by
  subst hv
  exact ⟨explained, silent⟩

theorem Declines.accounted (h : p.Declines failed r s) : p.Accounted failed r s := by
  obtain ⟨d, error, hd⟩ := h.diagnostics
  have hv : p.verdict failed r s = .faulty failed := by
    simp only [verdict, h.succeeded, h.calls, Recorder.refused?, Bool.false_eq_true, ↓reduceIte]
  refine accounted_of_verdict hv ?_ fun _ => h.calls
  rw [hd]
  exact .faulty failed error

theorem Feeds.accounted {cs : List (Call F)} (h : p.Feeds cs r s) (failed : Option PassKind) :
    p.Accounted failed r s := by
  have hs := h.succeeded
  have hd := h.diagnostics
  cases hr : r.refused? s (p.calls r s) with
  | none =>
    rw [hr] at hs hd
    have hv : p.verdict failed r s = .accepted := by
      simp only [verdict, hs, Option.isNone_none, ↓reduceIte]
    refine accounted_of_verdict hv ?_ fun faulty => (Bool.false_ne_true faulty).elim
    rw [hd]
    exact .accepted
  | some c =>
    rw [hr] at hs hd
    have hv : p.verdict failed r s = .rejected c.category c.name := by
      simp only [verdict, hs, hr, Option.isNone_some, Bool.false_eq_true, ↓reduceIte]
    refine accounted_of_verdict hv ?_ fun faulty => (Bool.false_ne_true faulty).elim
    rw [hd]
    exact .rejected c.category c.name

end Pass

namespace Combined

variable {σ : Type}

def failed? (data : BoundAttribute) (source : WrittenAttribute) : Option PassKind :=
  if ((Semantic.parse data).run Arguments.gather {}).succeeded = false then some .semantic
  else if ((Syntactic.parse data source).run Arguments.gather {}).succeeded = false then
    some .syntactic
  else none

theorem accounted_parse (data : BoundAttribute) (source : WrittenAttribute)
    (r : Recorder σ (Call .paired)) (s : σ) :
    (parse data source).Accounted (failed? data source) r s := by
  rcases parse_cases data source with ⟨d, hd, h⟩ | ⟨a, d, ha, hd, h⟩ | ⟨c, ps, slots, hs, hw⟩
  · have hf : failed? data source = some .semantic := by
      simp only [failed?, Semantic.parse, hd, Reading.pass_error, ↓reduceIte]
    rw [hf, h]
    exact (Pass.declines_fail _ _ (Semantic.isFault_of_read hd).severity rfl r s).accounted
  -- The passes inside run into a record of their own; the caller's recorder is not yet asked.
  · have hf : failed? data source = some .syntactic := by
      rw [failed?, Arguments.run_gather, Arguments.run_gather, Semantic.parse, Syntactic.parse, ha,
        hd, Reading.transcript_pass_ok, Reading.transcript_pass_error]
      rfl
    rw [hf, h]
    exact (Pass.declines_fail _ _ (Syntactic.isFault_of_read hd).severity rfl r s).accounted
  · have hf : failed? data source = none := by
      rw [failed?, Arguments.run_gather, Arguments.run_gather, Semantic.parse_of_reads hs,
        Syntactic.parse_of_reads hw, Reading.transcript_pass_ok, Reading.transcript_pass_ok]
      rfl
    rw [hf, parse_of_reads hs hw]
    split_ifs with hn
    · exact ((Pass.feeds_recordOrFail _ [] r s).notifyAll [_, _]).accounted none
    · exact (Pass.declines_fail none _ (d := .countMismatch _ _ _) rfl rfl r s).accounted

end Combined

inductive Parse (σ : Type)
  | semantic (r : Recorder σ (Call .bound)) (data : BoundAttribute)
  | syntactic (r : Recorder σ (Call .written)) (data : BoundAttribute) (source : WrittenAttribute)
  | combined (r : Recorder σ (Call .paired)) (data : BoundAttribute) (source : WrittenAttribute)

namespace Parse

variable {σ : Type}

def run : Parse σ → σ → Run σ
  | semantic r data, s => (Semantic.parse data).run r s
  | syntactic r data source, s => (Syntactic.parse data source).run r s
  | combined r data source, s => (Combined.parse data source).run r s

def calls : Parse σ → σ → Nat
  | semantic r data, s => ((Semantic.parse data).calls r s).length
  | syntactic r data source, s => ((Syntactic.parse data source).calls r s).length
  | combined r data source, s => ((Combined.parse data source).calls r s).length

def verdict : Parse σ → σ → Verdict
  | semantic r data, s => (Semantic.parse data).verdict none r s
  | syntactic r data source, s => (Syntactic.parse data source).verdict none r s
  | combined r data source, s =>
    (Combined.parse data source).verdict (Combined.failed? data source) r s

def diagnostics (p : Parse σ) (s : σ) : List Diagnostic :=
  Sink.collector.collected (p.run s).notices

theorem explained (p : Parse σ) (s : σ) :
    (p.verdict s).Explains (p.diagnostics s) ∧ ((p.verdict s).isFaulty = true → p.calls s = 0) := by
  have of_accounted {F : Family} {q : Pass F} {failed : Option PassKind}
      {r : Recorder σ (Call F)} (h : q.Accounted failed r s) :
      (q.verdict failed r s).Explains (q.diagnostics r s) ∧
      ((q.verdict failed r s).isFaulty = true → (q.calls r s).length = 0) :=
    ⟨h.explained, fun faulty => List.length_eq_zero_iff.mpr (h.silent faulty)⟩
  cases p with
  | semantic r data =>
    rcases Semantic.parse_cases data r s with ⟨-, declined⟩ | ⟨c, ps, -, fed⟩
    · exact of_accounted declined.accounted
    · exact of_accounted (fed.accounted none)
  | syntactic r data source =>
    rcases Syntactic.parse_cases data source r s with ⟨-, declined⟩ | ⟨c, ps, slots, -, fed⟩
    · exact of_accounted declined.accounted
    · exact of_accounted (fed.accounted none)
  | combined r data source => exact of_accounted (Combined.accounted_parse data source r s)

end Parse

theorem Collector.diagnostics_reportAll (c : Collector) (ds : List Diagnostic) :
    (c.reportAll ds).diagnostics = c.diagnostics ++ ds := by
  induction ds generalizing c with
  | nil => exact (List.append_nil _).symm
  | cons d ds ih =>
    have h := ih (c.report d)
    rwa [report, List.append_assoc] at h

inductive Activity (σ : Type)
  | parse (p : Parse σ)
  | take

/-- A session so far: the record and the collector, what was taken from the collector, and how the
parses ended. -/
structure Session (σ : Type) where
  record : σ
  collector : Collector := {}
  taken : List Diagnostic := []
  verdicts : List Verdict := []

namespace Session

variable {σ : Type}

def step (x : Session σ) : Activity σ → Session σ
  | .parse p =>
    { x with
      record := (p.run x.record).record
      collector := x.collector.reportAll (p.diagnostics x.record)
      verdicts := x.verdicts ++ [p.verdict x.record] }
  | .take => { x with collector := x.collector.take.2, taken := x.taken ++ x.collector.take.1 }

def run (x : Session σ) (as : List (Activity σ)) : Session σ := as.foldl step x

def reported (x : Session σ) : List Diagnostic := x.taken ++ x.collector.diagnostics

theorem reported_parse (x : Session σ) (p : Parse σ) :
    (x.step (.parse p)).reported = x.reported ++ p.diagnostics x.record := by
  simp only [reported, step, Collector.diagnostics_reportAll, List.append_assoc]

theorem reported_take (x : Session σ) : (x.step .take).reported = x.reported := by
  simp only [reported, step, Collector.take, List.append_nil]

def Balanced (x : Session σ) : Prop :=
  ∃ groups, List.Forall₂ Verdict.Explains x.verdicts groups ∧ x.reported = groups.flatten

theorem Balanced.step {x : Session σ} (h : x.Balanced) (a : Activity σ) : (x.step a).Balanced := by
  obtain ⟨groups, explained, reported⟩ := h
  cases a with
  | take =>
    refine ⟨groups, explained, ?_⟩
    rw [reported_take, reported]
  | parse p =>
    have last : List.Forall₂ Verdict.Explains [p.verdict x.record] [p.diagnostics x.record] :=
      .cons (p.explained x.record).1 .nil
    refine ⟨groups ++ [p.diagnostics x.record], List.rel_append explained last, ?_⟩
    rw [reported_parse, reported, List.flatten_append, List.flatten_singleton]

theorem Balanced.run {x : Session σ} (h : x.Balanced) (as : List (Activity σ)) :
    (x.run as).Balanced := by
  induction as generalizing x with
  | nil => exact h
  | cons a as ih => exact ih (h.step a)

end Session

end AttributeArguments
