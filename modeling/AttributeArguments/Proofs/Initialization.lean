import AttributeArguments.Mapper

/-!
# The one initialization of a mapper

The execution of a lookup in which every lookup that the hook makes on its own mapper is really
made, on the mapper as it stands at that moment. It leaves the mapper, and gives the verdict,
that `Mapper.obtain` computes by answering the hook from the one constant progress: nothing that
the hook asks of its mapper changes it. Over any sequence of requests the hook then runs once at
most, and every lookup gets what that one run came to.
-/
namespace AttributeArguments

variable {F : Family} {ω ρ : Type}

inductive Exchange (F : Family) (ω : Type)
  | lookup (before after : Mapper F ω) (verdict : Except MapperError (Snapshot F))
  | inspect (mapper : Mapper F ω) (initialized : Bool)

/-- The hook was refused as reentrant, or told that there is nothing yet, by the mapper `m`, which
was left as it is. -/
def Exchange.IsReentrant (m : Mapper F ω) : Exchange F ω → Prop
  | lookup before after verdict => before = m ∧ after = m ∧ verdict = .error .reentrant
  | inspect mapper initialized => mapper = m ∧ initialized = false

namespace Mapper

def begun (m : Mapper F ω) : Mapper F ω :=
  { m with progress := some .running, hookRuns := m.hookRuns + 1 }

def empty (m : Mapper F ω) : Registry F := .empty m.options.comparer m.options.refusesRebuild

variable {m : Mapper F ω}

theorem not_initialized (running : m.progress = some .running) : m.isInitialized = false := by
  rw [isInitialized, running]
  rfl

theorem obtain_told {p : Progress F} (hp : m.progress = some p) :
    m.obtain = { mapper := m, verdict := p.verdict } := by
  rw [obtain, hp]

theorem obtain_aborted (hp : m.progress = none) (hr : m.runHook.result = none) :
    m.obtain.mapper = m.begun ∧ m.obtain.verdict = .error .aborted := by
  simp only [obtain, hp, start, settle, hr]
  exact ⟨rfl, rfl⟩

theorem obtain_settled {result : Except Refusal Unit} (hp : m.progress = none)
    (hr : m.runHook.result = some result) :
    m.obtain.mapper = { m.begun with progress := some (settle m.runHook) } ∧
    m.obtain.verdict = (settle m.runHook).verdict := by
  simp only [obtain, hp, start, hr]
  exact ⟨rfl, rfl⟩

end Mapper

mutual

/-- A lookup with the exchanges of the hook that it runs, the mapper that it leaves and its
verdict. -/
inductive Mapper.Obtains : Mapper F ω → List (Exchange F ω) → Mapper F ω →
    Except MapperError (Snapshot F) → Prop
  | told {m : Mapper F ω} {p : Progress F} : m.progress = some p →
      Mapper.Obtains m [] m p.verdict
  | aborted {m n : Mapper F ω} {xs : List (Exchange F ω)} {r : HookRun F ω} :
      m.progress = none → Hook.Executes m.hook m.begun m.empty xs n r → r.result = none →
      Mapper.Obtains m xs n (.error .aborted)
  | settled {m n : Mapper F ω} {xs : List (Exchange F ω)} {r : HookRun F ω}
      {result : Except Refusal Unit} :
      m.progress = none → Hook.Executes m.hook m.begun m.empty xs n r → r.result = some result →
      Mapper.Obtains m xs { n with progress := some (Mapper.settle r) } (Mapper.settle r).verdict

/-- A hook that runs on its mapper and a registry, with its exchanges, the mapper that it leaves
and its end. -/
inductive Hook.Executes : Hook F ω → Mapper F ω → Registry F → List (Exchange F ω) →
    Mapper F ω → HookRun F ω → Prop
  | finish {m : Mapper F ω} {registry : Registry F} (result : Except Refusal Unit) :
      Hook.Executes (.finish result) m registry [] m ⟨registry, some result, []⟩
  | abort {m : Mapper F ω} {registry : Registry F} :
      Hook.Executes .abort m registry [] m ⟨registry, none, []⟩
  | operate {m n : Mapper F ω} {registry : Registry F} {xs : List (Exchange F ω)}
      {r : HookRun F ω} (op : Operation F) (next : Except Refusal Unit → Hook F ω) :
      Hook.Executes (next (op.apply registry).2) m (op.apply registry).1 xs n r →
      Hook.Executes (.operate op next) m registry xs n r
  | lookup {l m n : Mapper F ω} {registry : Registry F} {xs ys : List (Exchange F ω)}
      {r : HookRun F ω} {verdict : Except MapperError (Snapshot F)}
      (next : Except MapperError (Snapshot F) → Hook F ω) :
      Mapper.Obtains l xs m verdict → Hook.Executes (next verdict) m registry ys n r →
      Hook.Executes (.lookup next) l registry (xs ++ .lookup l m verdict :: ys) n r
  | inspect {m n : Mapper F ω} {registry : Registry F} {xs : List (Exchange F ω)}
      {r : HookRun F ω} (next : Bool → Hook F ω) :
      Hook.Executes (next m.isInitialized) m registry xs n r →
      Hook.Executes (.inspect next) m registry (.inspect m m.isInitialized :: xs) n r
  | remark {m n : Mapper F ω} {registry : Registry F} {xs : List (Exchange F ω)}
      {r : HookRun F ω} (o : ω) {next : Hook F ω} :
      Hook.Executes next m registry xs n r →
      Hook.Executes (.remark o next) m registry xs n { r with remarks := o :: r.remarks }

end

namespace Hook

variable {m : Mapper F ω}

theorem executes (running : m.progress = some .running) (h : Hook F ω) (registry : Registry F) :
    ∃ xs, h.Executes m registry xs m (h.run .running registry) := by
  -- The mapper stays the same throughout, so only the registry varies.
  induction h generalizing registry with
  | finish result => exact ⟨[], .finish result⟩
  | abort => exact ⟨[], .abort⟩
  | operate op next ih =>
    obtain ⟨xs, hx⟩ := ih _ (op.apply registry).1
    exact ⟨xs, .operate op next hx⟩
  | lookup next ih =>
    obtain ⟨xs, hx⟩ := ih (.error .reentrant) registry
    exact ⟨_, .lookup next (.told running) hx⟩
  | inspect next ih =>
    obtain ⟨xs, hx⟩ := ih false registry
    refine ⟨.inspect m m.isInitialized :: xs, .inspect next ?_⟩
    rw [Mapper.not_initialized running]
    exact hx
  | remark o next ih =>
    obtain ⟨xs, hx⟩ := ih registry
    exact ⟨xs, .remark o hx⟩

theorem Executes.eq_run (running : m.progress = some .running) {h : Hook F ω}
    {registry : Registry F} {xs : List (Exchange F ω)} {n : Mapper F ω} {r : HookRun F ω}
    (e : h.Executes m registry xs n r) :
    n = m ∧ r = h.run .running registry ∧ ∀ x ∈ xs, x.IsReentrant m := by
  induction h generalizing registry xs n r with
  | finish result =>
    cases e
    exact ⟨rfl, rfl, fun x hx => (List.not_mem_nil hx).elim⟩
  | abort =>
    cases e
    exact ⟨rfl, rfl, fun x hx => (List.not_mem_nil hx).elim⟩
  | operate op next ih =>
    cases e with
    | operate _ _ hx => exact ih _ hx
  | lookup next ih =>
    cases e with
    | lookup _ asked hx =>
      cases asked with
      | told hp =>
        obtain rfl := Option.some.inj (hp.symm.trans running)
        obtain ⟨hn, hr, hxs⟩ := ih _ hx
        refine ⟨hn, hr, ?_⟩
        exact List.forall_mem_cons.mpr ⟨⟨rfl, rfl, rfl⟩, hxs⟩
      -- A mapper that is being initialized does not start again.
      | aborted hp => rw [running] at hp; cases hp
      | settled hp => rw [running] at hp; cases hp
  | inspect next ih =>
    cases e with
    | inspect _ hx =>
      rw [Mapper.not_initialized running] at hx ⊢
      obtain ⟨hn, hr, hxs⟩ := ih false hx
      exact ⟨hn, hr, List.forall_mem_cons.mpr ⟨⟨rfl, rfl⟩, hxs⟩⟩
  | remark o next ih =>
    cases e with
    | remark _ hx =>
      obtain ⟨hn, hr, hxs⟩ := ih hx
      exact ⟨hn, by rw [hr]; rfl, hxs⟩

def detached : Hook F ω → Hook F ω
  | finish result => finish result
  | abort => abort
  | operate op next => operate op fun verdict => (next verdict).detached
  | lookup next => (next (.error .reentrant)).detached
  | inspect next => (next false).detached
  | remark o next => remark o next.detached

theorem run_detached (h : Hook F ω) (p : Progress F) (registry : Registry F) :
    h.detached.run p registry = h.run .running registry := by
  induction h generalizing registry with
  | finish result => rfl
  | abort => rfl
  | operate op next ih => exact ih _ _
  | lookup next ih => exact ih _ _
  | inspect next ih => exact ih _ _
  | remark o next ih =>
    simp only [detached, run]
    rw [ih]

end Hook

namespace Mapper

theorem obtains (m : Mapper F ω) : ∃ xs, m.Obtains xs m.obtain.mapper m.obtain.verdict := by
  cases hp : m.progress with
  | some p =>
    rw [obtain_told hp]
    exact ⟨[], .told hp⟩
  | none =>
    obtain ⟨xs, hx⟩ := Hook.executes (m := m.begun) rfl m.hook m.empty
    refine ⟨xs, ?_⟩
    cases hr : m.runHook.result with
    | none =>
      obtain ⟨hm, hv⟩ := obtain_aborted hp hr
      rw [hm, hv]
      exact .aborted hp hx hr
    | some result =>
      obtain ⟨hm, hv⟩ := obtain_settled hp hr
      rw [hm, hv]
      exact .settled hp hx hr

theorem Obtains.eq_obtain {m n : Mapper F ω} {xs : List (Exchange F ω)}
    {v : Except MapperError (Snapshot F)} (o : m.Obtains xs n v) :
    n = m.obtain.mapper ∧ v = m.obtain.verdict ∧ ∀ x ∈ xs, x.IsReentrant m.begun := by
  cases o with
  | told hp =>
    rw [obtain_told hp]
    exact ⟨rfl, rfl, fun x hx => (List.not_mem_nil hx).elim⟩
  | aborted hp he hr =>
    obtain ⟨rfl, rfl, hxs⟩ := he.eq_run rfl
    obtain ⟨hm, hv⟩ := obtain_aborted hp hr
    exact ⟨hm.symm, hv.symm, hxs⟩
  | settled hp he hr =>
    obtain ⟨rfl, rfl, hxs⟩ := he.eq_run rfl
    obtain ⟨hm, hv⟩ := obtain_settled hp hr
    exact ⟨hm.symm, hv.symm, hxs⟩

end Mapper

inductive Request
  | repository
  | recorder
  | type (p : TypeParameter)
  | constructor (p : Parameter)
  | named (name : String)
  | isInitialized

inductive Response (F : Family)
  | repository (verdict : Except MapperError (Snapshot F))
  | recorder (verdict : Except MapperError (Snapshot F))
  | type (verdict : Except MapperError (Option F.type))
  | constructor (verdict : Except MapperError (Option F.constructor))
  | named (verdict : Except MapperError (Option F.named))
  | isInitialized (initialized : Bool)

def Request.isLookup : Request → Bool
  | isInitialized => false
  | _ => true

def Request.response (verdict : Except MapperError (Snapshot F)) (initialized : Bool) :
    Request → Response F
  | repository => .repository verdict
  | recorder => .recorder verdict
  | type p => .type (verdict.map fun s => (s.typeRecorder p).found)
  | constructor p => .constructor (verdict.map fun s => (s.constructorRecorder p).found)
  | named name => .named (verdict.map fun s => (s.namedRecorder name).found)
  | isInitialized => .isInitialized initialized

def Response.error? : Response F → Option MapperError
  | repository (.error e) | recorder (.error e) | type (.error e) | constructor (.error e)
  | named (.error e) => some e
  | _ => none

theorem Request.error?_response (e : MapperError) (initialized : Bool) {q : Request}
    (lookup : q.isLookup = true) :
    (q.response (F := F) (.error e) initialized).error? = some e := by
  cases q with
  | isInitialized => cases lookup
  | _ => rfl

namespace HookRun

def outcome (r : HookRun F ω) : Except Refusal (Snapshot F) :=
  match r.result with
  | some (.error refusal) => .error refusal
  | _ => r.registry.build.2

theorem settle_eq {r : HookRun F ω} (finishes : r.result.isSome = true) :
    Mapper.settle r = match r.outcome with
      | .error refusal => .failed refusal
      | .ok snapshot => .ready snapshot := by
  obtain ⟨registry, result, remarks⟩ := r
  match result with
  | none => cases finishes
  | some (.error refusal) => rfl
  | some (.ok ()) => rfl

theorem verdict_settle {r : HookRun F ω} (finishes : r.result.isSome = true) :
    (Mapper.settle r).verdict = r.outcome.mapError .initialization := by
  rw [settle_eq finishes]
  cases r.outcome <;> rfl

theorem isReady_settle {r : HookRun F ω} (finishes : r.result.isSome = true) :
    (Mapper.settle r).isReady = r.outcome.isOk := by
  rw [settle_eq finishes]
  cases r.outcome <;> rfl

end HookRun

namespace Mapper

def ask (m : Mapper F ω) : Request → Mapper F ω × Response F
  | .repository => (m.obtain.mapper, .repository m.obtain.verdict)
  | .recorder => (m.obtain.mapper, .recorder m.obtain.verdict)
  | .type p => ((m.mapType p).mapper, .type (m.mapType p).verdict)
  | .constructor p => ((m.mapConstructor p).mapper, .constructor (m.mapConstructor p).verdict)
  | .named name => ((m.mapNamed name).mapper, .named (m.mapNamed name).verdict)
  | .isInitialized => (m, .isInitialized m.isInitialized)

def after (m : Mapper F ω) (qs : List Request) : Mapper F ω := qs.foldl (fun m q => (m.ask q).1) m

theorem find_eq (m : Mapper F ω) (look : Snapshot F → Lookup ρ) :
    (m.find look).mapper = m.obtain.mapper ∧
    (m.find look).verdict = m.obtain.verdict.map fun s => (look s).found := by
  simp only [find]
  cases m.obtain.verdict <;> exact ⟨rfl, rfl⟩

theorem ask_eq (m : Mapper F ω) (q : Request) :
    m.ask q = (if q.isLookup then m.obtain.mapper else m,
      q.response m.obtain.verdict m.isInitialized) := by
  cases q with
  | type p => exact Prod.ext (m.find_eq _).1 (congrArg Response.type (m.find_eq _).2)
  | constructor p => exact Prod.ext (m.find_eq _).1 (congrArg Response.constructor (m.find_eq _).2)
  | named name => exact Prod.ext (m.find_eq _).1 (congrArg Response.named (m.find_eq _).2)
  | repository => rfl
  | recorder => rfl
  | isInitialized => rfl

theorem obtain_obtain (m : Mapper F ω) : m.obtain.mapper.obtain.mapper = m.obtain.mapper := by
  have told : ∃ p, m.obtain.mapper.progress = some p := by
    cases hp : m.progress with
    | some p => exact ⟨p, by rw [obtain_told hp, hp]⟩
    | none => exact ⟨settle m.runHook, by rw [obtain, hp]; rfl⟩
  obtain ⟨p, hp⟩ := told
  rw [obtain_told hp]

theorem after_eq (m : Mapper F ω) (qs : List Request) :
    m.after qs = if qs.any Request.isLookup then m.obtain.mapper else m := by
  induction qs generalizing m with
  | nil => rfl
  | cons q qs ih =>
    change (m.ask q).1.after qs = _
    rw [ih, ask_eq, List.any_cons]
    cases q.isLookup with
    | false => rfl
    | true => simp only [↓reduceIte, Bool.true_or, obtain_obtain, ite_self]

theorem after_spec {m : Mapper F ω} (unasked : m.progress = none)
    (finishes : m.runHook.result.isSome = true) (qs : List Request) :
    let asked := qs.any Request.isLookup
    (m.after qs).hookRuns = m.hookRuns + (if asked then 1 else 0) ∧
    (m.after qs).isInitialized = (asked && m.runHook.outcome.isOk) ∧
    (m.after qs).obtain.verdict = m.runHook.outcome.mapError .initialization := by
  obtain ⟨result, hr⟩ := Option.isSome_iff_exists.mp finishes
  obtain ⟨hm, hv⟩ := obtain_settled unasked hr
  rw [← HookRun.verdict_settle finishes, ← HookRun.isReady_settle finishes, after_eq]
  cases qs.any Request.isLookup with
  | false =>
    refine ⟨rfl, ?_, hv⟩
    simp only [Bool.false_eq_true, ↓reduceIte, isInitialized, unasked, Bool.false_and]
  | true =>
    simp only [↓reduceIte, hm]
    exact ⟨rfl, rfl, by rw [obtain_told rfl]⟩

/-- A mapper is initialized once. Its hook runs at the first lookup and never again, whatever
the hook asks of its own mapper meanwhile, and every lookup gets the outcome of that run. -/
theorem initializes_once (options : MapperOptions) (hook : Hook F ω)
    (finishes : ({ options, hook } : Mapper F ω).runHook.result.isSome = true)
    (requests : List Request) :
    let start : Mapper F ω := { options, hook }
    let outcome := start.runHook.outcome
    let m := start.after requests
    let asked := requests.any Request.isLookup
    m.hookRuns = (if asked then 1 else 0) ∧
    m.isInitialized = (asked && outcome.isOk) ∧
    (∀ q, (m.ask q).2 = q.response (outcome.mapError .initialization) m.isInitialized) ∧
    (∀ refusal, start.runHook.result = some (.error refusal) → ∀ q : Request,
      q.isLookup = true → (m.ask q).2.error? = some (.initialization refusal)) ∧
    (∃ xs, m.Obtains xs m.obtain.mapper m.obtain.verdict) ∧
    (∀ xs n v, m.Obtains xs n v →
      n = m.obtain.mapper ∧ v = m.obtain.verdict ∧ ∀ x ∈ xs, x.IsReentrant m.begun) ∧
    ∀ q, ((({ options, hook := hook.detached } : Mapper F ω).after requests).ask q).2 =
      (m.ask q).2 := by
  intro start outcome m asked
  obtain ⟨runs, initialized, verdict⟩ := after_spec (m := start) rfl finishes requests
  have answers (q : Request) :
      (m.ask q).2 = q.response (outcome.mapError .initialization) m.isInitialized := by
    rw [ask_eq, verdict]
  have alone : ({ options, hook := hook.detached } : Mapper F ω).runHook = start.runHook :=
    hook.run_detached _ _
  obtain ⟨-, alone_initialized, alone_verdict⟩ :=
    after_spec (m := { options, hook := hook.detached }) rfl (alone ▸ finishes) requests
  refine ⟨?_, initialized, answers, ?_, m.obtains, fun _ _ _ o => o.eq_obtain, ?_⟩
  · rw [runs, Nat.zero_add]
  · intro refusal refused q lookup
    have failed : outcome = .error refusal := by
      simp only [outcome, HookRun.outcome, refused]
    rw [answers, failed]
    exact Request.error?_response _ _ lookup
  · intro q
    rw [answers, ask_eq, alone_verdict, alone_initialized, alone, initialized]

def consulting : Hook ⟨Nat, Nat, Nat⟩ String :=
  .operate (.mapNamed "Answer" 42) fun _ =>
  .lookup fun verdict =>
  .inspect fun initialized =>
  .remark (if verdict.isOk || initialized then "served" else "refused") <|
  .operate (.mapIndex 0 7) fun _ => .finish (.ok ())

theorem initializes_once_consulting :
    let start : Mapper ⟨Nat, Nat, Nat⟩ String := { options := {}, hook := consulting }
    let m := start.after [.isInitialized, .repository, .type ⟨"T", 0⟩]
    start.runHook.result.isSome = true ∧
    m.hookRuns = 1 ∧
    m.isInitialized = true ∧
    (m.ask (.named "Answer")).2 = .named (.ok (some 42)) := by
  intro start m
  have finishes : start.runHook.result.isSome = true := rfl
  obtain ⟨runs, initialized, answers, -⟩ :=
    initializes_once {} consulting finishes [.isInitialized, .repository, .type ⟨"T", 0⟩]
  exact ⟨finishes, runs, initialized, answers (.named "Answer")⟩

end Mapper

end AttributeArguments
