import AttributeArguments.Proofs.Ledger

/-!
# Refused calls and builds

Calls on mappings of either kind, each with its verdict. A registration is inserted unless it is
refused, and its recorder is created only then; a build takes a snapshot and closes the mappings.
A run is therefore the run of the calls that it granted, and after a build all that can still
succeed is to build the same snapshot again.
-/
namespace AttributeArguments

variable {μ κ ρ β τ : Type}

namespace Interface

def verdict (i : Interface μ κ ρ β τ) (x : InUse μ κ ρ β) :
    MappingCall κ ρ β → Except Refusal (Option τ)
  | .add key r => (i.add x.mappings key r).2.map fun _ => none
  | .addWith key create => (i.addWith x.mappings key create x.effect).1.2.map fun _ => none
  | .build => (i.build x.mappings).2.map some

def trail (i : Interface μ κ ρ β τ) (x : InUse μ κ ρ β) :
    List (MappingCall κ ρ β) → List (MappingCall κ ρ β × Except Refusal (Option τ))
  | [] => []
  | c :: cs => (c, i.verdict x c) :: i.trail (i.step x c) cs

def granted (i : Interface μ κ ρ β τ) (x : InUse μ κ ρ β) (cs : List (MappingCall κ ρ β)) :
    List (MappingCall κ ρ β × Except Refusal (Option τ)) :=
  (i.trail x cs).filter fun y => y.2.isOk

/-- In the state `x` a refused call leaves everything as it was, the effect of creating recorders
included, so that a run comes to the same without the calls that it refused. A recorder that is
created on demand has no say in the verdict, and is created once and registered if it is accepted.
After a build nothing changes, and only to build the same snapshot again can succeed. -/
structure Steady (i : Interface μ κ ρ β τ) (refusesRebuild : μ → Bool) (x : InUse μ κ ρ β) :
    Prop where
  refused : ∀ c e, i.verdict x c = .error e → i.step x c = x
  pruned : ∀ cs, let calls := (i.granted x cs).map Prod.fst
    i.trail x calls = i.granted x cs ∧ i.run x calls = i.run x cs
  blind : ∀ key create r, i.verdict x (.addWith key create) = i.verdict x (.add key r)
  created : ∀ key create, (i.verdict x (.addWith key create)).isOk = true →
    i.step x (.addWith key create) =
      { i.step x (.add key (create x.effect).1) with effect := (create x.effect).2 }
  frozen : ∀ s, i.verdict x .build = .ok s → ∀ cs,
    i.run (i.step x .build) cs = i.step x .build ∧
    i.trail (i.step x .build) cs = cs.map fun c =>
      (c, if c.isBuild && !refusesRebuild x.mappings then .ok s else .error .alreadyBuilt)

/-- How an interface works: by a check before each insertion, and a flag that a build sets. -/
structure Workings (i : Interface μ κ ρ β τ) where
  refusal? : μ → κ → Option Refusal
  insert : μ → κ → ρ → μ
  built : μ → Bool
  refusesRebuild : μ → Bool
  close : μ → μ
  snapshot : μ → τ
  add : ∀ m key r, i.add m key r = match refusal? m key with
    | some e => (m, .error e)
    | none => (insert m key r, .ok ())
  addWith : ∀ m key create b, i.addWith m key create b = match refusal? m key with
    | some e => ((m, .error e), b)
    | none => ((insert m key (create b).1, .ok ()), (create b).2)
  build : ∀ m, i.build m =
    if built m && refusesRebuild m then (m, .error .alreadyBuilt) else (close m, .ok (snapshot m))
  refusal?_of_built : ∀ m key, built m = true → refusal? m key = some .alreadyBuilt
  close_of_built : ∀ m, built m = true → close m = m
  built_close : ∀ m, built (close m) = true
  refusesRebuild_close : ∀ m, refusesRebuild (close m) = refusesRebuild m
  snapshot_close : ∀ m, snapshot (close m) = snapshot m

namespace Workings

variable {i : Interface μ κ ρ β τ} {x : InUse μ κ ρ β}

theorem verdict_add (w : i.Workings) (key : κ) (r : ρ) :
    i.verdict x (.add key r) = (w.refusal? x.mappings key).elim (.ok none) .error := by
  rw [verdict, w.add]
  cases w.refusal? x.mappings key <;> rfl

theorem verdict_addWith (w : i.Workings) (key : κ) (create : β → ρ × β) :
    i.verdict x (.addWith key create) = (w.refusal? x.mappings key).elim (.ok none) .error := by
  rw [verdict, w.addWith]
  cases w.refusal? x.mappings key <;> rfl

theorem step_of_refused (w : i.Workings) {c : MappingCall κ ρ β} {e : Refusal}
    (refused : i.verdict x c = .error e) : i.step x c = x := by
  cases c with
  | add key r =>
    rw [w.verdict_add] at refused
    rw [step, w.add]
    cases hr : w.refusal? x.mappings key with
    | some e => rfl
    | none => rw [hr] at refused; cases refused
  | addWith key create =>
    rw [w.verdict_addWith] at refused
    rw [step, w.addWith]
    cases hr : w.refusal? x.mappings key with
    | some e => rfl
    | none => rw [hr] at refused; cases refused
  | build =>
    rw [verdict, w.build] at refused
    rw [step, w.build]
    split_ifs at refused ⊢
    · exact congrArg (fun b => InUse.mk x.mappings x.effect ⟨x.ledger.accepted, b⟩)
        (Bool.or_false _)
    · cases refused

theorem trail_granted (w : i.Workings) (cs : List (MappingCall κ ρ β)) :
    let calls := (i.granted x cs).map Prod.fst
    i.trail x calls = i.granted x cs ∧ i.run x calls = i.run x cs := by
  induction cs generalizing x with
  | nil => exact ⟨rfl, rfl⟩
  | cons c cs ih =>
    obtain ⟨trail_eq, run_eq⟩ := ih (x := i.step x c)
    change i.run _ _ = i.run (i.step x c) cs at run_eq
    cases hv : i.verdict x c with
    | error e =>
      have pass : i.granted x (c :: cs) = i.granted x cs := by
        rw [granted, trail, hv, w.step_of_refused hv]
        rfl
      have start : i.run x (c :: cs) = i.run x cs := by
        change i.run (i.step x c) cs = _
        rw [w.step_of_refused hv]
      rw [w.step_of_refused hv] at trail_eq run_eq
      rw [pass, start]
      exact ⟨trail_eq, run_eq⟩
    | ok s =>
      have take : i.granted x (c :: cs) = (c, .ok s) :: i.granted (i.step x c) cs := by
        rw [granted, trail, hv]
        rfl
      simp only [take, List.map_cons, trail, hv, trail_eq, true_and]
      exact run_eq

structure Closed (w : i.Workings) (x : InUse μ κ ρ β) : Prop where
  mappings : w.built x.mappings = true
  ledger : x.ledger.built = true

theorem Closed.step {w : i.Workings} (h : w.Closed x) (c : MappingCall κ ρ β) :
    i.step x c = x ∧
    i.verdict x c = if c.isBuild && !w.refusesRebuild x.mappings then
      .ok (some (w.snapshot x.mappings)) else .error .alreadyBuilt := by
  cases c with
  | add key r =>
    have refused : i.verdict x (.add key r) = .error .alreadyBuilt := by
      rw [w.verdict_add, w.refusal?_of_built _ _ h.mappings]
      rfl
    exact ⟨w.step_of_refused refused, refused⟩
  | addWith key create =>
    have refused : i.verdict x (.addWith key create) = .error .alreadyBuilt := by
      rw [w.verdict_addWith, w.refusal?_of_built _ _ h.mappings]
      rfl
    exact ⟨w.step_of_refused refused, refused⟩
  | build =>
    have same : (⟨x.mappings, x.effect, { x.ledger with built := true }⟩ : InUse μ κ ρ β) = x := by
      rw [← h.ledger]
    rw [Interface.step, verdict, w.build, h.mappings, h.ledger]
    cases w.refusesRebuild x.mappings with
    | true => exact ⟨same, rfl⟩
    | false =>
      simp only [w.close_of_built _ h.mappings]
      exact ⟨same, rfl⟩

theorem Closed.run {w : i.Workings} (h : w.Closed x) (cs : List (MappingCall κ ρ β)) :
    i.run x cs = x ∧
    i.trail x cs = cs.map fun c => (c, if c.isBuild && !w.refusesRebuild x.mappings then
      .ok (some (w.snapshot x.mappings)) else .error .alreadyBuilt) := by
  induction cs with
  | nil => exact ⟨rfl, rfl⟩
  | cons c cs ih =>
    obtain ⟨same, told⟩ := h.step c
    obtain ⟨run_eq, trail_eq⟩ := ih
    refine ⟨?_, ?_⟩
    · change i.run (i.step x c) cs = x
      rw [same, run_eq]
    · rw [trail, same, told, trail_eq, List.map_cons]

theorem steady (w : i.Workings) (x : InUse μ κ ρ β) : i.Steady w.refusesRebuild x where
  refused c e := w.step_of_refused
  pruned := w.trail_granted
  blind key create r := by rw [w.verdict_addWith, w.verdict_add]
  created key create granted := by
    rw [w.verdict_addWith] at granted
    rw [step, step, w.addWith, w.add]
    cases hr : w.refusal? x.mappings key with
    | some e => rw [hr] at granted; cases granted
    | none => rfl
  frozen s built cs := by
    rw [verdict, w.build] at built
    split_ifs at built with hb
    · cases built
    obtain rfl : some (w.snapshot x.mappings) = s := Except.ok.inj built
    have after : i.step x .build =
        ⟨w.close x.mappings, x.effect, { x.ledger with built := true }⟩ := by
      rw [step, w.build, if_neg hb]
      exact congrArg (fun b => InUse.mk _ x.effect ⟨x.ledger.accepted, b⟩) (Bool.or_true _)
    have closed : w.Closed (i.step x .build) := by
      rw [after]
      exact ⟨w.built_close _, rfl⟩
    obtain ⟨run_eq, trail_eq⟩ := closed.run cs
    refine ⟨run_eq, ?_⟩
    rw [trail_eq, after, w.refusesRebuild_close, w.snapshot_close]

end Workings

end Interface

def TypeMappings.workings :
    (interface : Interface (TypeMappings ρ) TypeKey ρ β (TypeSnapshot ρ)).Workings where
  refusal? := refusal?
  insert := insert
  built := built
  refusesRebuild := refusesRebuild
  close m := { m with built := true }
  snapshot := snapshot
  add := add_eq
  addWith m key create b := by cases key <;> rfl
  build _ := rfl
  refusal?_of_built m key hb := by
    cases key <;> simp only [refusal?, indexRefusal?, nameRefusal?, hb, ↓reduceIte]
  close_of_built m hb := by rw [← hb]
  built_close _ := rfl
  refusesRebuild_close _ := rfl
  snapshot_close _ := rfl

def NamedMappings.workings :
    (interface : Interface (NamedMappings ρ) String ρ β (NamedSnapshot ρ)).Workings where
  refusal? := refusal?
  insert := insert
  built := built
  refusesRebuild := refusesRebuild
  close m := { m with built := true }
  snapshot := snapshot
  add _ _ _ := rfl
  addWith _ _ _ _ := rfl
  build _ := rfl
  refusal?_of_built m key hb := by simp only [refusal?, hb, ↓reduceIte]
  close_of_built m hb := by rw [← hb]
  built_close _ := rfl
  refusesRebuild_close _ := rfl
  snapshot_close _ := rfl

/-- The mappings of a category are steady in every state, whatever was called before. -/
theorem mappings_steady (x : InUse (TypeMappings ρ) TypeKey ρ β)
    (y : InUse (NamedMappings ρ) String ρ β) :
    (TypeMappings.interface (ρ := ρ)).Steady TypeMappings.refusesRebuild x ∧
    (NamedMappings.interface (ρ := ρ)).Steady NamedMappings.refusesRebuild y :=
  ⟨TypeMappings.workings.steady x, NamedMappings.workings.steady y⟩

def countedSeven (n : Nat) : Nat × Nat := (7, n + 1)

def indexedOnce : InUse (TypeMappings Nat) TypeKey Nat Nat :=
  TypeMappings.interface.run ⟨⟨.ordinal, true, [], [], false⟩, 0, {}⟩
    [.addWith (.index 0) countedSeven]

def namedOnce : InUse (NamedMappings Nat) String Nat Nat :=
  NamedMappings.interface.run ⟨⟨.ordinal, false, [], false⟩, 0, {}⟩ [.addWith "Name" countedSeven]

theorem mappings_steady_once :
    indexedOnce.effect = 1 ∧
    TypeMappings.interface.step indexedOnce (.addWith (.name "T") countedSeven) = indexedOnce ∧
    (TypeMappings.interface.trail (TypeMappings.interface.step indexedOnce .build)
      [.add (.name "T") 3, .build]).map Prod.snd =
        [.error .alreadyBuilt, .error .alreadyBuilt] ∧
    (NamedMappings.interface.trail (NamedMappings.interface.step namedOnce .build)
      [.add "Name" 3, .addWith "Size" countedSeven, .build]).map Prod.snd =
        [.error .alreadyBuilt, .error .alreadyBuilt, .ok (some ⟨.ordinal, [("Name", 7)]⟩)] := by
  obtain ⟨types, named⟩ := mappings_steady indexedOnce namedOnce
  refine ⟨rfl, types.refused _ (.namedAfterIndexed "T") rfl, ?_, ?_⟩
  · rw [(types.frozen _ rfl _).2]
    rfl
  · rw [(named.frozen _ rfl _).2]
    rfl

end AttributeArguments
