import AttributeArguments.Proofs.Initialization
import AttributeArguments.Proofs.Translation
import AttributeArguments.Recorder.Paired

/-!
# A split mapper is a product

Clients of the two halves of a split mapper, each with a record of its own, whose requests come
in any order. They see what they would see of two mappers that were set up apart, one with the
first recorders and one with the second. The split mapper is set up by whichever half asks first,
but neither half can tell.
-/
namespace AttributeArguments

variable {F F' G H : Family} {σ τ ω : Type}

def Family.Hom.first : (F.pair G).Hom F := ⟨Prod.fst, Prod.fst, Prod.fst⟩

def Family.Hom.second : (F.pair G).Hom G := ⟨Prod.snd, Prod.snd, Prod.snd⟩

/-- How recorders of calls of `G` are had from a mapper: that of one parameter, or one of all
calls. -/
structure Access (F G : Family) (σ ω : Type) where
  type : Mapper F ω → TypeParameter → Answer F ω (Option (Recorder σ G.type))
  constructor : Mapper F ω → Parameter → Answer F ω (Option (Recorder σ G.constructor))
  named : Mapper F ω → String → Answer F ω (Option (Recorder σ G.named))
  recorder : Snapshot F → Recorder σ (Call G)

namespace Access

def whole : Access (G.recorders σ) G σ ω :=
  ⟨Mapper.mapType, Mapper.mapConstructor, Mapper.mapNamed, Snapshot.recorder⟩

def part (h : F.Hom (G.recorders σ)) (recorder : Snapshot F → Recorder σ (Call G)) :
    Access F G σ ω where
  type m p := (m.mapType p).map (·.map h.type)
  constructor m p := (m.mapConstructor p).map (·.map h.constructor)
  named m name := (m.mapNamed name).map (·.map h.named)
  recorder := recorder

def first : Access ((G.recorders σ).pair H) G σ ω := part .first Snapshot.firstRecorder

def second : Access (H.pair (G.recorders σ)) G σ ω := part .second Snapshot.secondRecorder

def attach (a : Access F G σ ω) (m : Mapper F ω) (s : σ) :
    Call G → Answer F ω (Option (Reply σ))
  | .type p x => (a.type m p).map (·.map fun r => ((r.attach s).tryRecord x).2)
  | .constructor p x => (a.constructor m p).map (·.map fun r => ((r.attach s).tryRecord x).2)
  | .named name x => (a.named m name).map (·.map fun r => ((r.attach s).tryRecord x).2)

end Access

structure Client (G : Family) (σ : Type) where
  record : σ
  held : Option (Recorder σ (Call G)) := none

abbrev Told := Except MapperError (Option Bool)

namespace Client

def take (c : Client G σ) (v : Except MapperError (Option (Reply σ))) : Client G σ × Told :=
  ({ c with record := match v with
      | .ok (some reply) => reply.record
      | _ => c.record },
    v.map (·.map (·.accepted)))

def hold (c : Client G σ) (v : Except MapperError (Recorder σ (Call G))) : Client G σ × Told :=
  ({ c with held := match v with
      | .ok r => some r
      | .error _ => c.held },
    v.map fun _ => none)

end Client

/-- What a client asks for: to record with the recorder of one parameter, to be given the
recorder of all calls, or to record with the one that it was given. -/
inductive Ask (G : Family)
  | attach (c : Call G)
  | hold
  | feed (c : Call G)

def Access.serve (a : Access F G σ ω) (m : Mapper F ω) (c : Client G σ) :
    Ask G → Mapper F ω × Client G σ × Told
  | .attach call =>
    let answer := a.attach m c.record call
    (answer.mapper, c.take answer.verdict)
  | .hold => (m.obtain.mapper, c.hold (m.obtain.verdict.map a.recorder))
  | .feed call => (m, c.take (.ok (c.held.map fun r => r call c.record)))

abbrev HalfAsk := Ask .bound ⊕ Ask .written

abbrev Sight (σ τ : Type) := Told × σ × τ

structure SplitService (σ τ ω : Type) where
  mapper : Mapper (.split σ τ) ω
  first : Client .bound σ
  second : Client .written τ

structure TwinService (σ τ ω : Type) where
  semantic : Mapper (.semantic σ) ω
  syntactic : Mapper (.syntactic τ) ω
  first : Client .bound σ
  second : Client .written τ

def SplitService.step (x : SplitService σ τ ω) : HalfAsk → SplitService σ τ ω × Sight σ τ
  | .inl ask =>
    let r := Access.first.serve x.mapper x.first ask
    ({ x with mapper := r.1, first := r.2.1 }, r.2.2, r.2.1.record, x.second.record)
  | .inr ask =>
    let r := Access.second.serve x.mapper x.second ask
    ({ x with mapper := r.1, second := r.2.1 }, r.2.2, x.first.record, r.2.1.record)

def TwinService.step (x : TwinService σ τ ω) : HalfAsk → TwinService σ τ ω × Sight σ τ
  | .inl ask =>
    let r := Access.whole.serve x.semantic x.first ask
    ({ x with semantic := r.1, first := r.2.1 }, r.2.2, r.2.1.record, x.second.record)
  | .inr ask =>
    let r := Access.whole.serve x.syntactic x.second ask
    ({ x with syntactic := r.1, second := r.2.1 }, r.2.2, x.first.record, r.2.1.record)

section Machines

variable {S T I O : Type}

def outputs (step : S → I → S × O) (x : S) : List I → List O
  | [] => []
  | i :: is => (step x i).2 :: outputs step (step x i).1 is

theorem outputs_eq {f : S → I → S × O} {g : T → I → T × O} {R : S → T → Prop}
    (hstep : ∀ {x y} i, R x y → (f x i).2 = (g y i).2 ∧ R (f x i).1 (g y i).1)
    {x : S} {y : T} (h : R x y) (is : List I) : outputs f x is = outputs g y is := by
  induction is generalizing x y with
  | nil => rfl
  | cons i is ih =>
    obtain ⟨told, next⟩ := hstep i h
    rw [outputs, outputs, told, ih next]

end Machines

namespace Mapper

structure Settles (m : Mapper F ω) (v : Except MapperError (Snapshot F)) : Prop where
  now : m.obtain.verdict = v
  later : m.obtain.mapper.obtain.verdict = v

theorem Settles.obtain {m : Mapper F ω} {v : Except MapperError (Snapshot F)}
    (h : m.Settles v) : m.obtain.mapper.Settles v :=
  ⟨h.later, by rw [m.obtain_obtain]; exact h.later⟩

theorem find_verdict_map {m : Mapper F ω} {n : Mapper F' ω} {h : F.Hom F'} {ρ θ : Type}
    {f : ρ → θ} (same : n.obtain.verdict = m.obtain.verdict.map (Snapshot.map h))
    (look : Snapshot F → Lookup ρ) (look' : Snapshot F' → Lookup θ)
    (translates : ∀ s, look' (s.map h) = (look s).map f) :
    (n.find look').verdict = ((m.find look).map (·.map f)).verdict := by
  simp only [Answer.map, find_eq, same]
  cases m.obtain.verdict with
  | error e => rfl
  | ok s => simp only [Except.map, translates, Lookup.map]

end Mapper

theorem Hook.finishes_ofList (ops : List (Operation F × Bool)) (p : Progress F)
    (registry : Registry F) :
    ((ofList (ω := ω) ops).run p registry).result.isSome = true := by
  induction ops generalizing registry with
  | nil => rfl
  | cons x ops ih =>
    obtain ⟨op, required⟩ := x
    simp only [ofList, run]
    cases required with
    | false => exact ih _
    | true =>
      cases (op.apply registry).2 with
      | error e => rfl
      | ok => exact ih _

theorem Mapper.settles_ofList (options : MapperOptions) (ops : List (Operation F × Bool)) :
    (ofList (ω := ω) options ops).Settles (ofList (ω := ω) options ops).obtain.verdict := by
  have finishes : (ofList (ω := ω) options ops).runHook.result.isSome = true :=
    Hook.finishes_ofList ops _ _
  obtain ⟨-, -, now⟩ := after_spec rfl finishes []
  obtain ⟨-, -, later⟩ := after_spec rfl finishes [.repository]
  exact ⟨rfl, later.trans now.symm⟩

namespace Access

variable {m : Mapper F ω} {n : Mapper (G.recorders σ) ω} {h : F.Hom (G.recorders σ)}
  {recorder : Snapshot F → Recorder σ (Call G)} {v : Except MapperError (Snapshot F)}

theorem attach_whole (recorder : Snapshot F → Recorder σ (Call G))
    (same : n.obtain.verdict = m.obtain.verdict.map (Snapshot.map h)) (s : σ) (c : Call G) :
    (whole.attach n s c).verdict = ((part h recorder).attach m s c).verdict := by
  cases c with
  | type p x =>
    have found := Mapper.find_verdict_map same (·.typeRecorder p) (·.typeRecorder p)
      fun m => m.typeRecorder_map h p
    exact congrArg (Except.map _) found
  | constructor p x =>
    have found := Mapper.find_verdict_map same (·.constructorRecorder p) (·.constructorRecorder p)
      fun m => m.constructorRecorder_map h p
    exact congrArg (Except.map _) found
  | named name x =>
    have found := Mapper.find_verdict_map same (·.namedRecorder name) (·.namedRecorder name)
      fun m => m.namedRecorder_map h name
    exact congrArg (Except.map _) found

theorem mapper_attach_whole (s : σ) (c : Call G) :
    (whole.attach n s c).mapper = n.obtain.mapper := by
  cases c with
  | type p x => exact (n.find_eq (·.typeRecorder p)).1
  | constructor p x => exact (n.find_eq (·.constructorRecorder p)).1
  | named name x => exact (n.find_eq (·.namedRecorder name)).1

theorem mapper_attach_part (s : σ) (c : Call G) :
    ((part h recorder).attach m s c).mapper = m.obtain.mapper := by
  cases c with
  | type p x => exact (m.find_eq (·.typeRecorder p)).1
  | constructor p x => exact (m.find_eq (·.constructorRecorder p)).1
  | named name x => exact (m.find_eq (·.namedRecorder name)).1

theorem serve_part (recorders : ∀ s : Snapshot F, (s.map h).recorder = recorder s)
    (hm : m.Settles v) (hn : n.Settles (v.map (Snapshot.map h))) (c : Client G σ)
    (ask : Ask G) :
    ((part h recorder).serve m c ask).2 = (whole.serve n c ask).2 ∧
    ((part h recorder).serve m c ask).1.Settles v ∧
    (whole.serve n c ask).1.Settles (v.map (Snapshot.map h)) := by
  have same : n.obtain.verdict = m.obtain.verdict.map (Snapshot.map h) := by rw [hn.now, hm.now]
  cases ask with
  | attach call =>
    simp only [serve, mapper_attach_whole, mapper_attach_part, attach_whole recorder same]
    exact ⟨trivial, hm.obtain, hn.obtain⟩
  | hold =>
    have given : n.obtain.verdict.map Snapshot.recorder = m.obtain.verdict.map recorder := by
      rw [same]
      cases m.obtain.verdict with
      | error e => rfl
      | ok s => exact congrArg _ (recorders s)
    exact ⟨congrArg c.hold given.symm, hm.obtain, hn.obtain⟩
  | feed call => exact ⟨rfl, hm, hn⟩

end Access

namespace Snapshot

theorem recorder_map (h : F.Hom (G.recorders σ)) (m : Snapshot F) (c : Call G) :
    (m.map h).recorder c = match c with
      | .type p x => ((m.typeRecorder p).map h.type).record x
      | .constructor p x => ((m.constructorRecorder p).map h.constructor).record x
      | .named name x => ((m.namedRecorder name).map h.named).record x := by
  cases c with
  | type p x => rw [recorder, typeRecorder_map]
  | constructor p x => rw [recorder, constructorRecorder_map]
  | named name x => rw [recorder, namedRecorder_map]

theorem recorder_map_first (m : Snapshot ((G.recorders σ).pair H)) :
    (m.map .first).recorder = m.firstRecorder := by
  funext c
  rw [recorder_map]
  cases c <;> rfl

theorem recorder_map_second (m : Snapshot (H.pair (G.recorders σ))) :
    (m.map .second).recorder = m.secondRecorder := by
  funext c
  rw [recorder_map]
  cases c <;> rfl

end Snapshot

structure SplitService.Agrees (v : Except MapperError (Snapshot (.split σ τ)))
    (x : SplitService σ τ ω) (y : TwinService σ τ ω) : Prop where
  mapper : x.mapper.Settles v
  semantic : y.semantic.Settles (v.map (Snapshot.map .first))
  syntactic : y.syntactic.Settles (v.map (Snapshot.map .second))
  first : x.first = y.first
  second : x.second = y.second

theorem SplitService.Agrees.step {v : Except MapperError (Snapshot (.split σ τ))}
    {x : SplitService σ τ ω} {y : TwinService σ τ ω} (ask : HalfAsk) (h : Agrees v x y) :
    (x.step ask).2 = (y.step ask).2 ∧ Agrees v (x.step ask).1 (y.step ask).1 := by
  obtain ⟨mapper, semantic, syntactic, first, second⟩ := h
  -- The request may set up the split mapper and only one of the two others, which is why the
  -- invariant speaks of what each of them will come to.
  cases ask with
  | inl ask =>
    obtain ⟨told, hm, hn⟩ :=
      Access.serve_part Snapshot.recorder_map_first mapper semantic x.first ask
    rw [first] at told hm hn
    simp only [SplitService.step, TwinService.step, Access.first, first, second, told]
    exact ⟨trivial, hm, hn, syntactic, rfl, rfl⟩
  | inr ask =>
    obtain ⟨told, hm, hn⟩ :=
      Access.serve_part Snapshot.recorder_map_second mapper syntactic x.second ask
    rw [second] at told hm hn
    simp only [SplitService.step, TwinService.step, Access.second, first, second, told]
    exact ⟨trivial, hm, semantic, hn, rfl, rfl⟩

/-- A split mapper and the two mappers of its halves are set up with one outcome, and in any order
of requests each client is told the same and has the same record. -/
theorem Mapper.split_eq_product (options : MapperOptions)
    (ops : List (Operation (.split σ τ) × Bool)) (s : σ) (t : τ) (asks : List HalfAsk) :
    let split : Mapper (.split σ τ) ω := ofList options ops
    let semantic : Mapper (.semantic σ) ω :=
      ofList options (ops.map (Prod.map (Operation.map .first) id))
    let syntactic : Mapper (.syntactic τ) ω :=
      ofList options (ops.map (Prod.map (Operation.map .second) id))
    semantic.obtain.verdict.map (fun _ => ()) = split.obtain.verdict.map (fun _ => ()) ∧
    syntactic.obtain.verdict.map (fun _ => ()) = split.obtain.verdict.map (fun _ => ()) ∧
    outputs SplitService.step ⟨split, { record := s }, { record := t }⟩ asks =
      outputs TwinService.step ⟨semantic, syntactic, { record := s }, { record := t }⟩ asks := by
  intro split semantic syntactic
  have hf := obtain_ofList_map (ω := ω) .first options ops
  have hs := obtain_ofList_map (ω := ω) .second options ops
  have outcome {K : Family} (h : (Family.split σ τ).Hom K) :
      (split.obtain.verdict.map (Snapshot.map h)).map (fun _ => ()) =
        split.obtain.verdict.map fun _ => () := by
    cases split.obtain.verdict <;> rfl
  refine ⟨hf ▸ outcome _, hs ▸ outcome _, ?_⟩
  have agrees : SplitService.Agrees split.obtain.verdict
      ⟨split, { record := s }, { record := t }⟩
      ⟨semantic, syntactic, { record := s }, { record := t }⟩ :=
    ⟨settles_ofList options ops, hf ▸ settles_ofList options _, hs ▸ settles_ofList options _,
      rfl, rfl⟩
  exact outputs_eq SplitService.Agrees.step agrees asks

end AttributeArguments
