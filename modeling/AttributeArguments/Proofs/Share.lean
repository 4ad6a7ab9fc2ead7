import AttributeArguments.Proofs.Binding

/-!
# What is written for a parameter

The written expressions that are for one parameter, told by its position alone: a label decides
at once, and the positional expressions go to the unlabelled parameters in order. An accepted
binding gives each parameter the one slot that there is for what is written for it. Whether a
binding is accepted hangs on the labels and on the number of positional expressions, and never on
an expression.
-/
namespace AttributeArguments.Binding

def labels (as : List WrittenArgument) : List (Option String) :=
  (as.filter WrittenArgument.isConstructorArgument).map WrittenArgument.label

theorem labels_labelled (as : List WrittenArgument) :
    (labelled as).map Prod.fst = (labels as).filterMap id := by
  induction as with
  | nil => rfl
  | cons a as ih =>
    obtain ⟨label, target, e⟩ := a
    cases target with
    | some t => exact ih
    | none =>
      cases label with
      | none => exact ih
      | some l => exact congrArg (l :: ·) ih

theorem length_positional (as : List WrittenArgument) :
    (positional as).length = (labels as).countP Option.isNone := by
  induction as with
  | nil => rfl
  | cons a as ih =>
    obtain ⟨label, target, e⟩ := a
    cases target with
    | some t => exact ih
    | none =>
      cases label with
      | none => exact (congrArg (· + 1) ih).trans (List.countP_cons_of_pos rfl).symm
      | some l => exact ih.trans (List.countP_cons_of_neg Bool.false_ne_true).symm

def leftByAll (takers : List Parameter) (positional : List Expression) : List Expression :=
  if takers.any Parameter.isParams then [] else positional.drop takers.length

def reaching (labelled : List (String × Expression)) (ps : List Parameter)
    (positional : List Expression) (i : Nat) : List Expression :=
  leftByAll ((ps.take i).filter fun q => (labelled.lookup q.name).isNone) positional

def share (labelled : List (String × Expression)) (ps : List Parameter)
    (positional : List Expression) (i : Nat) : List Expression :=
  match ps[i]? with
  | none => []
  | some p =>
    match labelled.lookup p.name with
    | some e => [e]
    | none =>
      let rest := reaching labelled ps positional i
      if p.isParams then rest else rest.take 1

/-- The expressions that are written for the parameter at position `i`. -/
def writtenFor (ps : List Parameter) (as : List WrittenArgument) (i : Nat) : List Expression :=
  share (labelled as) ps (positional as) i

def leftBy (labelled : List (String × Expression)) (p : Parameter) (rest : List Expression) :
    List Expression :=
  if (labelled.lookup p.name).isSome then rest else leftByAll [p] rest

theorem leftByAll_singleton (p : Parameter) (rest : List Expression) :
    leftByAll [p] rest = if p.isParams then [] else rest.drop 1 := by
  by_cases hp : p.isParams = true <;> simp [leftByAll, hp]

theorem leftByAll_cons (p : Parameter) (ps : List Parameter) (rest : List Expression) :
    leftByAll (p :: ps) rest = leftByAll ps (leftByAll [p] rest) := by
  by_cases hp : p.isParams = true <;> simp [leftByAll, hp]

theorem reaching_succ (labelled : List (String × Expression)) (p : Parameter)
    (ps : List Parameter) (rest : List Expression) (i : Nat) :
    reaching labelled (p :: ps) rest (i + 1) =
      reaching labelled ps (leftBy labelled p rest) i := by
  rw [reaching, List.take_succ_cons, List.filter_cons, leftBy]
  cases labelled.lookup p.name with
  | some e => rfl
  | none => exact leftByAll_cons p _ rest

theorem share_zero (labelled : List (String × Expression)) (p : Parameter) (ps : List Parameter)
    (rest : List Expression) :
    share labelled (p :: ps) rest 0 =
      match labelled.lookup p.name with
      | some e => [e]
      | none => if p.isParams then rest else rest.take 1 := rfl

theorem share_succ (labelled : List (String × Expression)) (p : Parameter) (ps : List Parameter)
    (rest : List Expression) (i : Nat) :
    share labelled (p :: ps) rest (i + 1) = share labelled ps (leftBy labelled p rest) i := by
  simp only [share, List.getElem?_cons_succ, reaching_succ]

/-- The one slot there is for the share of a parameter, labelled or not. -/
inductive Fills (p : Parameter) : Bool → List Expression → Slot → Prop
  | label (e : Expression) : Fills p true [e] (.written e)
  | remaining (kind : p.kind = .params) (es : List Expression) :
      Fills p false es (.ofRemaining es)
  | next (kind : p.kind ≠ .params) (e : Expression) : Fills p false [e] (.written e)
  | nothing (kind : p.kind = .optional) : Fills p false [] .omitted

theorem Fills.unique {p : Parameter} {b : Bool} {es : List Expression} {slot other : Slot}
    (h : Fills p b es slot) (ho : Fills p b es other) : slot = other := by
  cases h with
  | label e => cases ho; rfl
  | remaining kind =>
    cases ho with
    | remaining => rfl
    | next other => exact (other kind).elim
    | nothing other => rw [kind] at other; cases other
  | next kind e =>
    cases ho with
    | remaining other => exact (kind other).elim
    | next => rfl
  | nothing kind =>
    cases ho with
    | remaining other => rw [kind] at other; cases other
    | nothing => rfl

theorem Takes.fills {labelled : List (String × Expression)} {p : Parameter}
    {rest left : List Expression} {slot : Slot} (h : Takes labelled p rest slot left)
    (ps : List Parameter) :
    Fills p (labelled.lookup p.name).isSome (share labelled (p :: ps) rest 0) slot ∧
    left = leftBy labelled p rest := by
  rw [share_zero, leftBy, leftByAll_singleton]
  cases h with
  | @label e _ found =>
    simp only [found, Option.isSome_some, ↓reduceIte, and_true]
    exact .label e
  | remaining unlabelled kind =>
    have hp : p.isParams = true := by rw [Parameter.isParams, kind]; rfl
    simp only [unlabelled, hp, Option.isSome_none, Bool.false_eq_true, ↓reduceIte, and_true]
    exact .remaining kind rest
  | @next e left unlabelled kind =>
    have hp : p.isParams = false := by simpa [Parameter.isParams] using kind
    simp only [unlabelled, hp, Option.isSome_none, Bool.false_eq_true, ↓reduceIte]
    exact ⟨.next kind e, rfl⟩
  | nothing unlabelled kind =>
    have hp : p.isParams = false := by rw [Parameter.isParams, kind]; rfl
    simp only [unlabelled, hp, Option.isSome_none, Bool.false_eq_true, ↓reduceIte]
    exact ⟨.nothing kind, rfl⟩

theorem fill_fills {labelled : List (String × Expression)} {ps : List Parameter}
    {rest : List Expression} {slots : List Slot} (h : fill labelled ps rest = .ok slots)
    {i : Nat} {p : Parameter} {slot : Slot} (declared : ps[i]? = some p)
    (filled : slots[i]? = some slot) :
    Fills p (labelled.lookup p.name).isSome (share labelled ps rest i) slot := by
  induction ps generalizing rest slots i with
  | nil => cases declared
  | cons q ps ih =>
    obtain ⟨first, left, tail, taken, ht, rfl⟩ := fill_cons_eq_ok h
    obtain ⟨fills, rfl⟩ := taken.fills ps
    cases i with
    | zero =>
      cases declared
      cases filled
      exact fills
    | succ i =>
      rw [share_succ]
      exact ih ht declared filled

theorem bind_fills {ps : List Parameter} {as : List WrittenArgument} {slots : List Slot}
    (h : bind ps as = .ok slots) {i : Nat} {p : Parameter} {slot : Slot}
    (declared : ps[i]? = some p) (filled : slots[i]? = some slot) :
    Fills p ((labelled as).lookup p.name).isSome (writtenFor ps as i) slot :=
  fill_fills (bind_eq_ok_iff.mp h).2.2 declared filled

theorem isOk_map (slot : Slot) (x : Except Diagnostic (List Slot)) :
    (x.map (slot :: ·)).isOk = x.isOk := by
  cases x <;> rfl

theorem isOk_fill_congr {xs ys : List (String × Expression)}
    (labels : xs.map Prod.fst = ys.map Prod.fst) (ps : List Parameter) {es fs : List Expression}
    (count : es.length = fs.length) : (fill xs ps es).isOk = (fill ys ps fs).isOk := by
  induction ps generalizing es fs with
  | nil =>
    match es, fs with
    | [], [] => rfl
    | _ :: _, _ :: _ => rfl
  | cons p ps ih =>
    have same := Table.isSome_lookup_congr labels p.name
    simp only [fill]
    cases hx : xs.lookup p.name with
    | some e =>
      rw [hx] at same
      obtain ⟨f, hy⟩ := Option.isSome_iff_exists.mp same.symm
      simp only [hy, isOk_map]
      exact ih count
    | none =>
      rw [hx] at same
      have hy : ys.lookup p.name = none := by
        rw [← Option.isNone_iff_eq_none, ← Option.not_isSome, ← same]
        rfl
      simp only [hy]
      cases es with
      | nil =>
        rw [List.length_eq_zero_iff.mp count.symm]
        cases p.kind with
        | normal => rfl
        | params | optional =>
          simp only [isOk_map]
          exact ih rfl
      | cons e es =>
        obtain ⟨f, fs, rfl⟩ := List.exists_cons_of_length_eq_add_one count.symm
        cases p.kind with
        | params =>
          simp only [isOk_map]
          exact ih rfl
        | normal | optional =>
          simp only [isOk_map]
          exact ih (Nat.succ.inj count)

theorem bind_accepts_of_accepts {ps : List Parameter} {as bs : List WrittenArgument}
    {slots : List Slot} (labels : (labelled as).map Prod.fst = (labelled bs).map Prod.fst)
    (count : (positional as).length = (positional bs).length) (h : bind ps as = .ok slots) :
    ∃ others, bind ps bs = .ok others := by
  obtain ⟨known, once, hf⟩ := bind_eq_ok_iff.mp h
  have hok := isOk_fill_congr labels ps count
  rw [hf] at hok
  cases hg : fill (labelled bs) ps (positional bs) with
  | error d => rw [hg] at hok; cases hok
  | ok others => exact ⟨others, bind_eq_ok_iff.mpr ⟨labels ▸ known, labels ▸ once, hg⟩⟩

end AttributeArguments.Binding
