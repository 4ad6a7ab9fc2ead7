import AttributeArguments.Proofs.Share
import Mathlib.Order.Bounds.Basic
import Mathlib.Order.Nat

/-!
# When binding fails, and why

The verdict of a binding in closed form. The labels come first: each has to name a parameter, and
none may repeat an earlier one. The positional arguments are then counted out to the parameters
that no label names, in declaration order, so that a required parameter goes without exactly when
its position among them is not below that count or a `params` parameter stands before it. Of the
faults that are there at once only the first is reported.
-/
namespace AttributeArguments.Binding

def givenLabels (as : List WrittenArgument) : List String := (labels as).filterMap id

def unlabelledCount (as : List WrittenArgument) : Nat := (labels as).countP Option.isNone

def takers (ps : List Parameter) (as : List WrittenArgument) : List Parameter :=
  ps.filter fun p => p.name ∉ givenLabels as

/-- The label at position `i` is no parameter's name or repeats an earlier one. -/
def BadLabel (ps : List Parameter) (ls : List String) (i : Nat) : Prop :=
  ∃ l, ls[i]? = some l ∧ (l ∉ ps.map Parameter.name ∨ l ∈ ls.take i)

def LabelFault (ps : List Parameter) (ls : List String) (d : Diagnostic) : Prop :=
  ∃ i l, IsLeast {j | BadLabel ps ls j} i ∧ ls[i]? = some l ∧
    d = if l ∈ ps.map Parameter.name then .duplicateParameterLabel l else .unknownParameterLabel l

theorem labelFault_iff_of_isLeast {ps : List Parameter} {ls : List String} {i : Nat} {l : String}
    (first : IsLeast {j | BadLabel ps ls j} i) (here : ls[i]? = some l) (d : Diagnostic) :
    LabelFault ps ls d ↔
      d = if l ∈ ps.map Parameter.name then .duplicateParameterLabel l
        else .unknownParameterLabel l := by
  refine ⟨?_, fun hd => ⟨i, l, first, here, hd⟩⟩
  rintro ⟨j, m, hj, hm, hd⟩
  have same : j = i := hj.unique first
  rw [same, here] at hm
  rwa [Option.some.inj hm]

theorem badLabel_append_iff (ps : List Parameter) (before : List String) (l : String)
    (ls : List String) :
    BadLabel ps (before ++ l :: ls) before.length ↔ l ∉ ps.map Parameter.name ∨ l ∈ before := by
  have here : (before ++ l :: ls)[before.length]? = some l := by simp
  simp only [BadLabel, here, Option.some.injEq, exists_eq_left', List.take_left]

theorem labelFault?_eq_some_iff (ps : List Parameter) (ls : List String) (d : Diagnostic)
    {before : List String} (sound : ∀ i < before.length, ¬ BadLabel ps (before ++ ls) i) :
    labelFault? ps before.reverse ls = some d ↔ LabelFault ps (before ++ ls) d := by
  induction ls generalizing before with
  | nil =>
    refine iff_of_false nofun ?_
    rintro ⟨i, l, ⟨bad, -⟩, here, -⟩
    rw [List.append_nil] at here
    have inside : i < before.length := (List.getElem?_eq_some_iff.mp here).1
    exact sound i inside bad
  | cons l ls ih =>
    have here : (before ++ l :: ls)[before.length]? = some l := by simp
    have bad := badLabel_append_iff ps before l ls
    by_cases hl : l ∉ ps.map Parameter.name ∨ l ∈ before
    · have first : IsLeast {j | BadLabel ps (before ++ l :: ls) j} before.length :=
        ⟨bad.mpr hl, fun j hj => Nat.le_of_not_lt fun hlt => sound j hlt hj⟩
      rw [labelFault_iff_of_isLeast first here]
      by_cases known : l ∈ ps.map Parameter.name
      · have repeated : l ∈ before := hl.resolve_left fun h => h known
        have hk : ps.any (·.name == l) = true := by simpa using known
        simp [labelFault?, hk, known, repeated, eq_comm]
      · have hk : ps.any (·.name == l) = false := by simpa using known
        simp [labelFault?, hk, known, eq_comm]
    · have hk : ps.any (·.name == l) = true := by
        have known : l ∈ ps.map Parameter.name := not_not.mp fun h => hl (.inl h)
        simpa using known
      have new : l ∉ before := fun h => hl (.inr h)
      have sound' : ∀ i < (before ++ [l]).length, ¬ BadLabel ps ((before ++ [l]) ++ ls) i := by
        intro i hi
        rw [List.append_assoc, List.singleton_append]
        rcases Nat.lt_succ_iff_lt_or_eq.mp (by simpa using hi) with hlt | rfl
        · exact sound i hlt
        · exact fun h => hl (bad.mp h)
      have next := ih sound'
      simpa [labelFault?, hk, new] using next

/-- Of `k` positional arguments nothing is left for position `i` of the parameters that take
them. -/
def Drained (ts : List Parameter) (k i : Nat) : Prop :=
  (∃ q ∈ ts.take i, q.kind = .params) ∨ k ≤ i

def Starved (ts : List Parameter) (k i : Nat) : Prop :=
  ∃ p, ts[i]? = some p ∧ p.kind = .normal ∧ Drained ts k i

inductive Shortage (ts : List Parameter) (k : Nat) : Diagnostic → Prop
  | missing {i : Nat} {p : Parameter} (first : IsLeast {j | Starved ts k j} i)
      (here : ts[i]? = some p) : Shortage ts k (.missingRequiredArgument p.name)
  | excess (supplied : ∀ i, ¬ Starved ts k i) (left : ¬ Drained ts k ts.length) :
      Shortage ts k (.excessPositionalArguments (k - ts.length))

def leaves (p : Parameter) (k : Nat) : Nat := if p.kind = .params then 0 else k - 1

variable {p : Parameter} {ts : List Parameter} {k : Nat}

theorem drained_zero : Drained ts k 0 ↔ k = 0 := by
  simp [Drained]

theorem drained_succ {i : Nat} : Drained (p :: ts) k (i + 1) ↔ Drained ts (leaves p k) i := by
  by_cases params : p.kind = .params <;> simp [Drained, leaves, params]

theorem starved_zero : Starved (p :: ts) k 0 ↔ p.kind = .normal ∧ k = 0 := by
  simp [Starved, drained_zero]

theorem starved_succ {i : Nat} : Starved (p :: ts) k (i + 1) ↔ Starved ts (leaves p k) i := by
  simp [Starved, drained_succ]

theorem isLeast_starved_succ (served : ¬ Starved (p :: ts) k 0) {i : Nat} :
    IsLeast {j | Starved (p :: ts) k j} (i + 1) ↔ IsLeast {j | Starved ts (leaves p k) j} i := by
  constructor
  · rintro ⟨here, first⟩
    refine ⟨starved_succ.mp here, fun j hj => ?_⟩
    exact Nat.le_of_succ_le_succ (first (starved_succ.mpr hj))
  · rintro ⟨here, first⟩
    refine ⟨starved_succ.mpr here, fun j hj => ?_⟩
    cases j with
    | zero => exact (served hj).elim
    | succ j => exact Nat.succ_le_succ (first (starved_succ.mp hj))

theorem shortage_nil {d : Diagnostic} :
    Shortage [] k d ↔ k ≠ 0 ∧ d = .excessPositionalArguments k := by
  constructor
  · intro h
    cases h with
    | missing first here => cases here
    | excess supplied left => exact ⟨fun hk => left (.inr hk.le), rfl⟩
  · rintro ⟨hk, rfl⟩
    refine .excess ?_ fun h => hk (drained_zero.mp h)
    rintro i ⟨q, hq, -⟩
    cases hq

theorem shortage_starved (normal : p.kind = .normal) {d : Diagnostic} :
    Shortage (p :: ts) 0 d ↔ d = .missingRequiredArgument p.name := by
  have here : Starved (p :: ts) 0 0 := starved_zero.mpr ⟨normal, rfl⟩
  have first : IsLeast {j | Starved (p :: ts) 0 j} 0 := ⟨here, fun j _ => Nat.zero_le j⟩
  constructor
  · intro h
    cases h with
    | missing other at_other =>
      rw [other.unique first] at at_other
      cases at_other
      rfl
    | excess supplied left => exact (supplied 0 here).elim
  · rintro rfl
    exact .missing first rfl

theorem shortage_served (served : ¬ Starved (p :: ts) k 0) {d : Diagnostic} :
    Shortage (p :: ts) k d ↔ Shortage ts (leaves p k) d := by
  have surplus (left : ¬ Drained ts (leaves p k) ts.length) :
      k - (p :: ts).length = leaves p k - ts.length := by
    have more : ¬ leaves p k ≤ ts.length := fun h => left (.inr h)
    by_cases params : p.kind = .params
    · simp [leaves, params] at more
    · simp only [leaves, params, ↓reduceIte, List.length_cons]
      omega
  constructor
  · intro h
    cases h with
    | @missing i q first here =>
      cases i with
      | zero => exact (served first.1).elim
      | succ i => exact .missing ((isLeast_starved_succ served).mp first) here
    | excess supplied left =>
      have left' : ¬ Drained ts (leaves p k) ts.length := fun h => left (drained_succ.mpr h)
      rw [surplus left']
      exact .excess (fun i h => supplied (i + 1) (starved_succ.mpr h)) left'
  · intro h
    cases h with
    | missing first here => exact .missing ((isLeast_starved_succ served).mpr first) here
    | excess supplied left =>
      rw [← surplus left]
      refine .excess (fun i h => ?_) fun h => left (drained_succ.mp h)
      cases i with
      | zero => exact served h
      | succ i => exact supplied i (starved_succ.mp h)

theorem exists_shortage_iff :
    (∃ d, Shortage ts k d) ↔ (∃ i, Starved ts k i) ∨ ¬ Drained ts k ts.length := by
  classical
  constructor
  · rintro ⟨d, h⟩
    cases h with
    | missing first here => exact .inl ⟨_, first.1⟩
    | excess supplied left => exact .inr left
  · intro h
    by_cases starved : ∃ i, Starved ts k i
    · obtain ⟨p, here, -⟩ := Nat.find_spec starved
      exact ⟨_, .missing (Nat.isLeast_find starved) here⟩
    · have supplied : ∀ i, ¬ Starved ts k i := not_exists.mp starved
      exact ⟨_, .excess supplied (h.resolve_left starved)⟩

theorem map_eq_error_iff {slot : Slot} {x : Except Diagnostic (List Slot)} {d : Diagnostic} :
    x.map (slot :: ·) = .error d ↔ x = .error d := by
  cases x <;> simp [Except.map]

theorem fill_eq_error_iff (labelled : List (String × Expression)) (ps : List Parameter)
    (rest : List Expression) (d : Diagnostic) :
    fill labelled ps rest = .error d ↔
      Shortage (ps.filter fun p => (labelled.lookup p.name).isNone) rest.length d := by
  induction ps generalizing rest with
  | nil =>
    rw [List.filter_nil, shortage_nil]
    cases rest with
    | nil => simp [fill]
    | cons e rest => simp [fill, eq_comm]
  | cons p ps ih =>
    simp only [fill, List.filter_cons]
    cases found : labelled.lookup p.name with
    | some e => simp [map_eq_error_iff, ih]
    | none =>
      simp only [Option.isNone_none, ↓reduceIte]
      by_cases starved : p.kind = .normal ∧ rest = []
      · obtain ⟨normal, rfl⟩ := starved
        rw [List.length_nil, shortage_starved normal]
        simp [normal, eq_comm]
      · have served : ¬ Starved (p :: ps.filter fun p => (labelled.lookup p.name).isNone)
            rest.length 0 := by
          rwa [starved_zero, List.length_eq_zero_iff]
        rw [shortage_served served]
        cases kind : p.kind with
        | params => simp [map_eq_error_iff, ih, leaves, kind]
        | normal =>
          cases rest with
          | nil => exact (starved ⟨kind, rfl⟩).elim
          | cons e rest => simp [map_eq_error_iff, ih, leaves, kind]
        | optional => cases rest <;> simp [map_eq_error_iff, ih, leaves, kind]

theorem exists_fill_iff (labelled : List (String × Expression)) (ps : List Parameter)
    (rest : List Expression) :
    let ts := ps.filter fun p => (labelled.lookup p.name).isNone
    (∃ slots, fill labelled ps rest = .ok slots) ↔
      (∀ i, ¬ Starved ts rest.length i) ∧ Drained ts rest.length ts.length := by
  intro ts
  have fails := exists_congr (fill_eq_error_iff labelled ps rest)
  rw [exists_shortage_iff] at fails
  have sound : (¬ ∃ d, fill labelled ps rest = .error d) ↔
      (∀ i, ¬ Starved ts rest.length i) ∧ Drained ts rest.length ts.length := by
    rw [fails, not_or, not_exists, not_not]
  rw [← sound]
  cases fill labelled ps rest <;> simp

theorem map_fst_labelled (as : List WrittenArgument) :
    (labelled as).map Prod.fst = givenLabels as :=
  labels_labelled as

theorem filter_lookup_eq_takers (ps : List Parameter) (as : List WrittenArgument) :
    (ps.filter fun p => ((labelled as).lookup p.name).isNone) = takers ps as := by
  refine List.filter_congr fun p _ => ?_
  rw [Bool.eq_iff_iff, Table.isNone_lookup_iff, map_fst_labelled, decide_eq_true_iff]

/-- What the constructor arguments have to be like for a binding. -/
structure Suits (ps : List Parameter) (as : List WrittenArgument) : Prop where
  known : ∀ l ∈ givenLabels as, l ∈ ps.map Parameter.name
  once : (givenLabels as).Nodup
  required : ∀ i p, (takers ps as)[i]? = some p → p.kind = .normal →
    i < unlabelledCount as ∧ ∀ q ∈ (takers ps as).take i, q.kind ≠ .params
  room : (∃ q ∈ takers ps as, q.kind = .params) ∨ unlabelledCount as ≤ (takers ps as).length

theorem not_drained_iff {i : Nat} :
    ¬ Drained ts k i ↔ i < k ∧ ∀ q ∈ ts.take i, q.kind ≠ .params := by
  simp only [Drained, not_or, not_exists, not_and, Nat.not_le]
  exact and_comm

/-- A binding is accepted exactly when the arguments suit the parameters. -/
theorem bind_accepts_iff (ps : List Parameter) (as : List WrittenArgument) :
    (∃ slots, bind ps as = .ok slots) ↔ Suits ps as := by
  have filled := exists_fill_iff (labelled as) ps (positional as)
  simp only [filter_lookup_eq_takers, length_positional] at filled
  have served : (∀ i, ¬ Starved (takers ps as) (unlabelledCount as) i) ↔
      ∀ i p, (takers ps as)[i]? = some p → p.kind = .normal →
        i < unlabelledCount as ∧ ∀ q ∈ (takers ps as).take i, q.kind ≠ .params := by
    simp only [Starved, not_exists, not_and, not_drained_iff]
  have room : Drained (takers ps as) (unlabelledCount as) (takers ps as).length ↔
      (∃ q ∈ takers ps as, q.kind = .params) ∨
        unlabelledCount as ≤ (takers ps as).length := by
    rw [Drained, List.take_length]
  simp only [bind_eq_ok_iff, exists_and_left, map_fst_labelled]
  constructor
  · rintro ⟨known, once, bound⟩
    obtain ⟨supplied, drained⟩ := filled.mp bound
    exact ⟨known, once, served.mp supplied, room.mp drained⟩
  · intro h
    exact ⟨h.known, h.once, filled.mpr ⟨served.mpr h.required, room.mpr h.room⟩⟩

inductive Fault (ps : List Parameter) (as : List WrittenArgument) (d : Diagnostic) : Prop
  | label (bad : LabelFault ps (givenLabels as) d)
  | shortage (sound : ∀ i, ¬ BadLabel ps (givenLabels as) i)
      (short : Shortage (takers ps as) (unlabelledCount as) d)

theorem exists_labelFault_iff {ls : List String} :
    (∃ d, LabelFault ps ls d) ↔ ∃ i, BadLabel ps ls i := by
  classical
  constructor
  · rintro ⟨d, i, l, first, -⟩
    exact ⟨i, first.1⟩
  · intro bad
    obtain ⟨l, here, -⟩ := Nat.find_spec bad
    exact ⟨_, _, l, Nat.isLeast_find bad, here, rfl⟩

theorem bind_eq_error_iff (ps : List Parameter) (as : List WrittenArgument) (d : Diagnostic) :
    bind ps as = .error d ↔ Fault ps as d := by
  have start : ∀ i < ([] : List String).length, ¬ BadLabel ps ([] ++ givenLabels as) i := nofun
  have scan (d : Diagnostic) := labelFault?_eq_some_iff ps (givenLabels as) d start
  have rest := fill_eq_error_iff (labelled as) ps (positional as) d
  rw [filter_lookup_eq_takers, length_positional] at rest
  simp only [bind, map_fst_labelled]
  cases hf : labelFault? ps [] (givenLabels as) with
  | some fault =>
    have bad : LabelFault ps (givenLabels as) fault := (scan fault).mp hf
    constructor
    · intro h
      exact .label (Except.error.inj h ▸ bad)
    · intro h
      cases h with
      | label other => exact congrArg _ (Option.some.inj (hf.symm.trans ((scan d).mpr other)))
      | shortage sound =>
        obtain ⟨i, hi⟩ := exists_labelFault_iff.mp ⟨fault, bad⟩
        exact (sound i hi).elim
  | none =>
    constructor
    · intro h
      refine .shortage (fun i hi => ?_) (rest.mp h)
      obtain ⟨other, bad⟩ := exists_labelFault_iff.mpr ⟨i, hi⟩
      cases hf.symm.trans ((scan other).mpr bad)
    · intro h
      cases h with
      | label bad => cases hf.symm.trans ((scan d).mpr bad)
      | shortage sound short => exact rest.mpr short

def bindInto (c : Collector) (ps : List Parameter) (as : List WrittenArgument) :
    Option (List Slot) × Collector :=
  match bind ps as with
  | .ok slots => (some slots, c)
  | .error d => (none, c.report d)

/-- A binding reports nothing if there are slots, and otherwise the one fault that comes first. -/
theorem bind_reports_first_fault (ps : List Parameter) (as : List WrittenArgument)
    (c : Collector) :
    (∃ slots, bindInto c ps as = (some slots, c) ∧ ∀ d, ¬ Fault ps as d) ∨
    ∃ d, bindInto c ps as = (none, c.report d) ∧ (∀ other, Fault ps as other ↔ other = d) ∧
      ∀ n, d = .excessPositionalArguments n →
        0 < n ∧ n = unlabelledCount as - (takers ps as).length ∧
          ∀ q ∈ takers ps as, q.kind ≠ .params := by
  have faults (d : Diagnostic) := bind_eq_error_iff ps as d
  rw [bindInto]
  cases hb : bind ps as with
  | ok slots =>
    rw [hb] at faults
    exact .inl ⟨slots, rfl, fun d fault => nomatch (faults d).mpr fault⟩
  | error d =>
    rw [hb] at faults
    refine .inr ⟨d, rfl, fun other => ?_, ?_⟩
    · rw [← faults other, Except.error.injEq, eq_comm]
    · rintro n rfl
      cases (faults _).mp rfl with
      | label bad =>
        obtain ⟨i, l, -, -, hd⟩ := bad
        split_ifs at hd
      | shortage sound short =>
        cases short with
        | excess supplied left =>
          obtain ⟨more, noParams⟩ := not_drained_iff.mp left
          rw [List.take_length] at noParams
          exact ⟨Nat.sub_pos_of_lt more, rfl, noParams⟩

end AttributeArguments.Binding
