import AttributeArguments.Mapping.Registry
import AttributeArguments.Proofs.Alignment
import AttributeArguments.Proofs.Feeding

/-!
# Covered calls

The calls that the mappings of a snapshot cover, and what becomes of a parse. The recorder of the
snapshot accepts every other call and leaves the record alone, so that a parse comes to what the
covered calls alone come to. Two parses come to the same if one reads arguments whenever the other
does, and the covered ones are equal.
-/
namespace AttributeArguments

variable {F G : Family} {σ : Type}

structure Coverage where
  type : TypeParameter → Bool
  constructor : Parameter → Bool
  named : String → Bool

def Coverage.covers (k : Coverage) : Call F → Bool
  | .type p _ => k.type p
  | .constructor p _ => k.constructor p
  | .named name _ => k.named name

def Snapshot.coverage (m : Snapshot F) : Coverage where
  type p := (m.types.get? p).isSome
  constructor p := (m.constructors.get? p.name).isSome
  named name := (m.named.get? name).isSome

namespace Recorder

variable {α : Type}

def Ignores (r : Recorder σ α) (keep : α → Bool) : Prop :=
  ∀ a s, keep a = false → (r a s).accepted = true ∧ (r a s).record = s

/-- What it comes to to hand a list over, up to and including the first refused argument: whether
all were accepted, and the record. -/
def outcome (r : Recorder σ α) : σ → List α → Bool × σ
  | s, [] => (true, s)
  | s, a :: as => if (r a s).accepted then r.outcome (r a s).record as else (false, (r a s).record)

theorem Ignores.outcome_filter {r : Recorder σ α} {keep : α → Bool} (h : r.Ignores keep) (s : σ)
    (as : List α) : r.outcome s (as.filter keep) = r.outcome s as := by
  induction as generalizing s with
  | nil => rfl
  | cons a as ih =>
    cases hk : keep a with
    | true =>
      rw [List.filter_cons_of_pos hk]
      simp only [outcome, ih]
    | false =>
      obtain ⟨accepted, record⟩ := h a s hk
      rw [List.filter_cons_of_neg (Bool.eq_false_iff.mp hk), ih]
      simp only [outcome, accepted, record, ↓reduceIte]

theorem outcome_append {r : Recorder σ α} {s : σ} {as : List α} (h : r.AcceptsAll s as)
    (bs : List α) : r.outcome s (as ++ bs) = r.outcome (r.after s as) bs := by
  induction as generalizing s with
  | nil => rfl
  | cons a as ih =>
    have hrest := ih h.2
    simp only [List.cons_append, outcome, h.1, ↓reduceIte]
    exact hrest

theorem Sees.outcome_eq {r : Recorder σ α} {s : σ} {as seen : List α} {refused : Option α}
    (h : r.Sees s as seen refused) : r.outcome s as = (refused.isNone, r.after s seen) := by
  cases h with
  | all accepted =>
    have ho := outcome_append accepted []
    rwa [List.append_nil] at ho
  | @upTo before rest a split accepted refused =>
    have last : r.after s (before ++ [a]) = (r a (r.after s before)).record := List.foldl_append
    rw [split, outcome_append accepted, last]
    simp only [outcome, refused, Bool.false_eq_true, ↓reduceIte, Option.isNone_some]

end Recorder

theorem Lookup.record_of_unfound {α : Type} (l : Lookup (Recorder σ α))
    (h : l.found.isSome = false) (a : α) (s : σ) :
    (l.record a s).accepted = true ∧ (l.record a s).record = s := by
  have unfound : l.found = none := by simpa using h
  simp only [record, unfound, Option.getD_none, Recorder.skip, and_self]

theorem Snapshot.ignores_recorder (m : Snapshot (F.recorders σ)) :
    m.recorder.Ignores m.coverage.covers := by
  intro c s uncovered
  cases c with
  | type p a => exact (m.typeRecorder p).record_of_unfound uncovered a s
  | constructor p a => exact (m.constructorRecorder p).record_of_unfound uncovered a s
  | named name a => exact (m.namedRecorder name).record_of_unfound uncovered a s

def Arguments.restrict (k : Coverage) (a : Arguments F) : Arguments F :=
  ⟨a.types.filter (k.type ·.1), a.constructors.filter (k.constructor ·.1),
    a.named.filter (k.named ·.1)⟩

theorem Arguments.calls_restrict (k : Coverage) (a : Arguments F) :
    (a.restrict k).calls = a.calls.filter k.covers := by
  simp only [calls, restrict, List.filter_append, List.filter_map]
  rfl

def Run.outcome (x : Run σ) : Bool × σ := (x.succeeded, x.record)

namespace Pass

variable {p : Pass F} {r : Recorder σ (Call F)} {s : σ}

theorem Declines.outcome_eq {failed : Option PassKind} (h : p.Declines failed r s) :
    (p.run r s).outcome = (false, s) := by
  rw [Run.outcome, h.succeeded, h.record]

theorem Feeds.outcome_eq {cs : List (Call F)} (h : p.Feeds cs r s) :
    (p.run r s).outcome = r.outcome s cs := by
  rw [Run.outcome, h.succeeded, h.record, h.calls.outcome_eq]

/-- The pass declines an application that cannot be read, and hands over what is read of any
other. -/
structure Parses (p : Pass F) (reads : Arguments F → Prop) (r : Recorder σ (Call F)) (s : σ) :
    Prop where
  declined : (∀ a, ¬ reads a) → (p.run r s).outcome = (false, s)
  fed : ∀ a, reads a → (p.run r s).outcome = r.outcome s a.calls

theorem Parses.outcome_congr {q : Pass F} {reads reads' : Arguments F → Prop} {k : Coverage}
    (hp : p.Parses reads r s) (hq : q.Parses reads' r s) (ignores : r.Ignores k.covers)
    (forth : ∀ a, reads a → ∃ b, reads' b ∧ b.restrict k = a.restrict k)
    (back : ∀ b, reads' b → ∃ a, reads a ∧ a.restrict k = b.restrict k) :
    (p.run r s).outcome = (q.run r s).outcome := by
  by_cases h : ∃ a, reads a
  · obtain ⟨a, ha⟩ := h
    obtain ⟨b, hb, same⟩ := forth a ha
    calc (p.run r s).outcome
      _ = r.outcome s a.calls := hp.fed a ha
      _ = r.outcome s (a.restrict k).calls := by
        rw [Arguments.calls_restrict, ignores.outcome_filter]
      _ = r.outcome s b.calls := by
        rw [← same, Arguments.calls_restrict, ignores.outcome_filter]
      _ = (q.run r s).outcome := (hq.fed b hb).symm
  · have unread : ∀ b, ¬ reads' b := by
      intro b hb
      obtain ⟨a, ha, -⟩ := back b hb
      exact h ⟨a, ha⟩
    rw [hp.declined (not_exists.mp h), hq.declined unread]

end Pass

def Semantic.ReadsArguments (data : BoundAttribute) (a : Arguments .bound) : Prop :=
  ∃ c ps, Reads data c ps ∧ a = arguments data c ps

def Syntactic.ReadsArguments (data : BoundAttribute) (source : WrittenAttribute)
    (a : Arguments .written) : Prop :=
  ∃ c ps slots, Reads data source c ps slots ∧ a = arguments source c ps slots

def Combined.ReadsArguments (data : BoundAttribute) (source : WrittenAttribute)
    (a : Arguments .paired) : Prop :=
  ∃ c ps slots, Reads data source c ps slots ∧ a = arguments data source c ps slots

theorem Semantic.parses (data : BoundAttribute) (r : Recorder σ (Call .bound)) (s : σ) :
    (parse data).Parses (ReadsArguments data) r s where
  declined unread := by
    rcases parse_cases data r s with ⟨-, declined⟩ | ⟨c, ps, reads, -⟩
    · exact declined.outcome_eq
    · exact (unread _ ⟨c, ps, reads, rfl⟩).elim
  fed := by
    rintro a ⟨c, ps, reads, rfl⟩
    rw [parse_of_reads reads]
    exact (Reading.feeds_pass .semantic _ r s).outcome_eq

theorem Syntactic.parses (data : BoundAttribute) (source : WrittenAttribute)
    (r : Recorder σ (Call .written)) (s : σ) :
    (parse data source).Parses (ReadsArguments data source) r s where
  declined unread := by
    rcases parse_cases data source r s with ⟨-, declined⟩ | ⟨c, ps, slots, reads, -⟩
    · exact declined.outcome_eq
    · exact (unread _ ⟨c, ps, slots, reads, rfl⟩).elim
  fed := by
    rintro a ⟨c, ps, slots, reads, rfl⟩
    rw [parse_of_reads reads]
    exact (Reading.feeds_pass .syntactic _ r s).outcome_eq

theorem Combined.parses (data : BoundAttribute) (source : WrittenAttribute)
    (r : Recorder σ (Call .paired)) (s : σ) :
    (parse data source).Parses (ReadsArguments data source) r s where
  declined unread := by
    rcases parse_cases data source with ⟨d, -, h⟩ | ⟨a, d, -, -, h⟩ | ⟨c, ps, slots, hs, hw⟩
    · rw [h, Pass.run_notifyAll_fail]
      rfl
    · rw [h, Pass.run_notifyAll_fail]
      rfl
    · have uneven : source.arguments.countP (·.target.isSome) ≠ data.namedArguments.length :=
        fun named => unread _ ⟨c, ps, slots, ⟨hs, hw, named⟩, rfl⟩
      rw [parse_of_reads hs hw, if_neg uneven, Pass.run_notifyAll_fail]
      rfl
  fed := by
    rintro a ⟨c, ps, slots, reads, rfl⟩
    rw [parse_of_reads reads.semantic reads.syntactic, if_pos reads.named]
    exact ((Pass.feeds_recordOrFail _ [] r s).notifyAll [_, _]).outcome_eq

end AttributeArguments
