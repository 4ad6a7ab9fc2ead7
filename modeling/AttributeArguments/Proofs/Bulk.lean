import AttributeArguments.Proofs.Product

/-!
# One recorder, or one for each call

A client that is given the recorder of all calls once, and one that looks up the recorder of each
call anew, attaches it to the record and passes over what is not mapped. On an initialized mapper
the two get the same replies.
-/
namespace AttributeArguments

variable {F G : Family} {ρ σ ω : Type}

namespace Access

/-- The recorders that a mapper of a use case gives out: of one record, or of either half. -/
inductive Offered : {F G : Family} → {σ : Type} → UseCase → Access F G σ ω → Prop
  | semantic {σ : Type} : Offered .semantic (whole : Access (.semantic σ) .bound σ ω)
  | syntactic {σ : Type} : Offered .syntactic (whole : Access (.syntactic σ) .written σ ω)
  | combined {σ : Type} : Offered .combined (whole : Access (.combined σ) .paired σ ω)
  | splitFirst {σ τ : Type} : Offered .split (first : Access (.split σ τ) .bound σ ω)
  | splitSecond {σ τ : Type} : Offered .split (second : Access (.split σ τ) .written τ ω)

def recordAnew (a : Access F G σ ω) (x : Mapper F ω × σ) (c : Call G) :
    (Mapper F ω × σ) × Except MapperError (Reply σ) :=
  let answer := a.attach x.1 x.2 c
  match answer.verdict with
  | .error e => ((answer.mapper, x.2), .error e)
  | .ok found =>
    let reply := found.getD (Recorder.skip c x.2)
    ((answer.mapper, reply.record), .ok { reply with events := answer.events ++ reply.events })

end Access

theorem Mapper.find_ready {m : Mapper F ω} {snapshot : Snapshot F}
    (ready : m.progress = some (.ready snapshot)) (look : Snapshot F → Lookup ρ) :
    m.find look = ⟨m, .ok (look snapshot).found, [], (look snapshot).events⟩ := by
  rw [find, obtain_told ready]
  rfl

theorem Mapper.ready_of_isInitialized {m : Mapper F ω} (initialized : m.isInitialized = true) :
    ∃ snapshot, m.progress = some (.ready snapshot) := by
  rw [isInitialized] at initialized
  cases hp : m.progress with
  | none => rw [hp] at initialized; cases initialized
  | some p =>
    rw [hp] at initialized
    cases p with
    | running => cases initialized
    | ready snapshot => exact ⟨snapshot, rfl⟩
    | failed refusal => cases initialized

namespace Access

variable {a : Access F G σ ω}

/-- On a mapper that is ready, a call is recorded anew as the recorder of all calls records it. -/
def Follows (a : Access F G σ ω) : Prop :=
  ∀ ⦃m : Mapper F ω⦄ ⦃snapshot : Snapshot F⦄, m.progress = some (.ready snapshot) →
    ∀ s c, a.recordAnew (m, s) c =
      ((m, (a.recorder snapshot c s).record), .ok (a.recorder snapshot c s))

theorem recordAnew_of_attach {α : Type} {m : Mapper F ω} {l : Lookup (Recorder σ α)} {x : α}
    {s : σ} {c : Call G} (found : a.attach m s c =
      ⟨m, .ok (l.found.map fun r => ((r.attach s).tryRecord x).2), [], l.events⟩) :
    a.recordAnew (m, s) c = ((m, (l.record x s).record), .ok (l.record x s)) := by
  rw [recordAnew, found]
  cases hl : l.found <;> simp only [Lookup.record, hl] <;> rfl

theorem whole_follows : (whole : Access (G.recorders σ) G σ ω).Follows := by
  intro m snapshot ready s c
  cases c with
  | type p x =>
    exact recordAnew_of_attach (l := snapshot.typeRecorder p)
      (congrArg (Answer.map _) (m.find_ready ready _))
  | constructor p x =>
    exact recordAnew_of_attach (l := snapshot.constructorRecorder p)
      (congrArg (Answer.map _) (m.find_ready ready _))
  | named name x =>
    exact recordAnew_of_attach (l := snapshot.namedRecorder name)
      (congrArg (Answer.map _) (m.find_ready ready _))

theorem part_follows {h : F.Hom (G.recorders σ)} {recorder : Snapshot F → Recorder σ (Call G)}
    (recorders : ∀ s : Snapshot F, (s.map h).recorder = recorder s) :
    (part h recorder : Access F G σ ω).Follows := by
  intro m snapshot ready s c
  have same : (part h recorder : Access F G σ ω).recorder snapshot = (snapshot.map h).recorder :=
    (recorders snapshot).symm
  rw [same, Snapshot.recorder_map]
  cases c with
  | type p x =>
    exact recordAnew_of_attach (l := (snapshot.typeRecorder p).map h.type)
      (congrArg (Answer.map _ ∘ Answer.map _) (m.find_ready ready _))
  | constructor p x =>
    exact recordAnew_of_attach (l := (snapshot.constructorRecorder p).map h.constructor)
      (congrArg (Answer.map _ ∘ Answer.map _) (m.find_ready ready _))
  | named name x =>
    exact recordAnew_of_attach (l := (snapshot.namedRecorder name).map h.named)
      (congrArg (Answer.map _ ∘ Answer.map _) (m.find_ready ready _))

theorem Offered.follows {u : UseCase} (offered : Offered u a) : a.Follows := by
  cases offered with
  | semantic => exact whole_follows
  | syntactic => exact whole_follows
  | combined => exact whole_follows
  | splitFirst => exact part_follows Snapshot.recorder_map_first
  | splitSecond => exact part_follows Snapshot.recorder_map_second

theorem Follows.replies_eq (follows : a.Follows) {m : Mapper F ω} {snapshot : Snapshot F}
    (ready : m.progress = some (.ready snapshot)) (s : σ) (calls : List (Call G)) :
    outputs a.recordAnew (m, s) calls =
      (outputs Attached.tryRecord ((a.recorder snapshot).attach s) calls).map .ok := by
  induction calls generalizing s with
  | nil => rfl
  | cons c calls ih =>
    rw [outputs, outputs, follows ready, ih]
    rfl

/-- On an initialized mapper of any use case, calls are answered alike, with the same record
after each, by the recorder that is obtained once and by a new lookup for each call. -/
theorem recorder_eq_anew {u : UseCase} (offered : Offered u a) {m : Mapper F ω}
    (initialized : m.isInitialized = true) (s : σ) (calls : List (Call G)) :
    ∃ r, m.obtain.verdict.map a.recorder = .ok r ∧
      outputs a.recordAnew (m, s) calls =
        (outputs Attached.tryRecord (r.attach s) calls).map .ok := by
  obtain ⟨snapshot, ready⟩ := m.ready_of_isInitialized initialized
  refine ⟨a.recorder snapshot, ?_, offered.follows.replies_eq ready s calls⟩
  rw [Mapper.obtain_told ready]
  rfl

def jealous : Mapper (.split (List String) Nat) Unit :=
  (Mapper.ofList {}
    [(.mapIndex 0 (.assigned fun s t => s ++ [t.qualified], .assigned fun n _ => n + 1), true),
      (.mapConstructor "size" (.checked fun s c => (s ++ [c.kind], s.isEmpty),
        .assigned fun n _ => n + 1), true)]).obtain.mapper

def jealousCalls : List (Call .bound) :=
  [.type ⟨"T", 0⟩ ⟨"Point"⟩, .named "Order" (.i32 3), .constructor ⟨"size", 0, .normal⟩ .null]

theorem recorder_eq_anew_jealous :
    jealous.isInitialized = true ∧
    (outputs first.recordAnew (jealous, []) jealousCalls).map
        (·.map fun reply => (reply.accepted, reply.record)) =
      [.ok (true, ["Point"]), .ok (true, ["Point"]), .ok (false, ["Point", "null"])] := by
  have initialized : jealous.isInitialized = true := rfl
  obtain ⟨r, obtained, same⟩ := recorder_eq_anew .splitFirst initialized [] jealousCalls
  refine ⟨initialized, ?_⟩
  cases obtained
  rw [same]
  rfl

end Access

end AttributeArguments
