import RecordCopy.Proofs.EveryMapping
import RecordCopy.Proofs.Frame

/-!
# The log of a history

A copier logs one event of its own for each pair of types: that the pair was compiled, or that it
could not be.  The first request for the pair logs it, behind whatever the resolver has to say
while it works; no other request logs anything, and carrying out a plan does not either.

What a request logs is what its one `get` logs, so the last events of a run name the pairs that
were added to the cache meanwhile (`Copier.pairs_serveAll`), and what is known of these is known of
the log.  A resolver may log what it likes, even that something was compiled.  One that leaves
such events to the copier has no part in their number.

The resolvers of the copy modes are of that kind.  They log one event for each instruction that
they find (`Finding.countP_events_collect`).
-/

namespace RecordCopy

/-! ### Events -/

namespace Event

/-- The pair of types that was compiled, or could not be, according to the event. -/
def compiled? : Event → Option (String × String)
  | .planCompiled source destination .. | .compileFailed source destination .. =>
    some (source, destination)
  | .instructionResolved .. | .fieldUnmapped .. => none

def isInstruction : Event → Bool
  | .instructionResolved .. => true
  | .fieldUnmapped .. | .planCompiled .. | .compileFailed .. => false

end Event

def Handled.compiled? (handled : Handled) : Option (String × String) :=
  handled.events.getLast?.bind Event.compiled?

/-- A request gets through for a pair of types for which none of those before it did. -/
def Request.ComesFirst (before : List Request) (q : Request) : Prop :=
  ∃ pair, q.pair? = some pair ∧ pair ∉ before.filterMap Request.pair?

/-! ### The cache -/

namespace PlanCache

variable {σ : Type} {cache : PlanCache σ} {s d : RecordType}

theorem compiled?_compileEvent (resolver : String) (s d : RecordType)
    (settled : Except Report Plan) :
    (compileEvent resolver s d settled).compiled? = some (s.name, d.name) := by
  cases settled <;> rfl

/-- The log says whether the compile succeeded, and louder if it did not. -/
theorem level_message_compileEvent (resolver : String) (s d : RecordType)
    (settled : Except Report Plan) :
    ((compileEvent resolver s d settled).level, (compileEvent resolver s d settled).message) =
      if settled.isOk then ("DEBUG", "Compiled copy plan")
      else ("WARN", "Copy plan compile failed, caching the failure") := by
  cases settled <;> rfl

theorem events_get_of_not_mem (h : (s.name, d.name) ∉ cache.pairs) :
    (cache.get s d).events = (cache.resolver.resolve cache.state s d).2.events ++
      [compileEvent cache.resolver.name s d (outcome cache.resolver cache.state s d)] := by
  rw [get_of_not_mem h]
  rfl

end PlanCache

namespace Copier

variable {σ : Type}

/-! ### One request -/

theorem resolver_serve (schema : Schema) (c : Copier σ) (q : Request) :
    (c.serve schema q).1.cache.resolver = c.cache.resolver := by
  by_cases h : q.Admitted
  · rw [serve_of_admitted h, PlanCache.resolver_get]
  · rw [serve_of_not_admitted h]

/-- A request logs a compile, behind what the resolver logs, or it logs nothing. -/
theorem events_serve_cases (schema : Schema) (c : Copier σ) (q : Request) :
    (q.Admitted ∧ (q.types.1.name, q.types.2.name) ∉ c.cache.pairs ∧
      (c.serve schema q).2.events =
        (c.cache.resolver.resolve c.cache.state q.types.1 q.types.2).2.events ++
          [PlanCache.compileEvent c.cache.resolver.name q.types.1 q.types.2
            (PlanCache.outcome c.cache.resolver c.cache.state q.types.1 q.types.2)]) ∨
    ((∀ pair, q.pair? = some pair → pair ∈ c.cache.pairs) ∧ (c.serve schema q).2.events = []) := by
  by_cases hq : q.Admitted
  · rw [(c.serve_through schema hq).2.1]
    by_cases hpair : (q.types.1.name, q.types.2.name) ∈ c.cache.pairs
    · obtain ⟨-, -, -, hevents, -⟩ := PlanCache.get_of_mem hpair
      refine .inr ⟨?_, hevents⟩
      intro pair h
      rwa [← (Request.pair?_eq_some_iff.mp h).2]
    · exact .inl ⟨hq, hpair, PlanCache.events_get_of_not_mem hpair⟩
  · refine .inr ⟨?_, (c.serve_refused schema hq).2⟩
    intro pair h
    exact absurd (Request.pair?_eq_some_iff.mp h).1 hq

/-- The last event is about the pair that was added to the cache, if there was one. -/
theorem pairs_serve (schema : Schema) (c : Copier σ) (q : Request) :
    (c.serve schema q).1.cache.pairs =
      c.cache.pairs ++ (c.serve schema q).2.compiled?.toList := by
  unfold Handled.compiled?
  rcases c.events_serve_cases schema q with ⟨hq, hnew, hevents⟩ | ⟨hold, hevents⟩
  · rw [hevents, List.getLast?_concat, Option.bind_some, PlanCache.compiled?_compileEvent,
      serve_of_admitted hq, PlanCache.pairs_get, if_neg hnew]
    rfl
  · rw [hevents, List.getLast?_nil, Option.bind_none, Option.toList_none, List.append_nil]
    by_cases hq : q.Admitted
    · rw [serve_of_admitted hq, PlanCache.pairs_get,
        if_pos (hold _ (Request.pair?_eq_some_iff.mpr ⟨hq, rfl⟩))]
    · rw [serve_of_not_admitted hq]

/-! ### Histories -/

theorem length_serveAll (schema : Schema) (c : Copier σ) (requests : List Request) :
    (c.serveAll schema requests).2.length = requests.length := by
  induction requests generalizing c with
  | nil => rfl
  | cons q rest ih => simp only [serveAll, List.length_cons, ih]

theorem exists_serve_of_mem {schema : Schema} {c : Copier σ} {requests : List Request}
    {handled : Handled} (h : handled ∈ (c.serveAll schema requests).2) :
    ∃ (earlier : Copier σ) (q : Request), earlier.cache.resolver = c.cache.resolver ∧
      handled = (earlier.serve schema q).2 := by
  induction requests generalizing c with
  | nil => cases h
  | cons q rest ih =>
    rcases List.mem_cons.mp h with hfirst | hlater
    · exact ⟨c, q, rfl, hfirst⟩
    · obtain ⟨earlier, other, hresolver, hserved⟩ := ih hlater
      exact ⟨earlier, other, hresolver.trans (c.resolver_serve schema q), hserved⟩

/-- The last events of a history are about the pairs that were added to the cache, in order. -/
theorem pairs_serveAll (schema : Schema) (c : Copier σ) (requests : List Request) :
    (c.serveAll schema requests).1.cache.pairs =
      c.cache.pairs ++ (c.serveAll schema requests).2.filterMap Handled.compiled? := by
  induction requests generalizing c with
  | nil => exact (List.append_nil _).symm
  | cons q rest ih =>
    simp only [serveAll]
    rw [ih, pairs_serve, List.append_assoc, List.filterMap_cons]
    cases (c.serve schema q).2.compiled? <;> rfl

/-- Where the resolver logs no compiles, those in the log are the copier's. -/
theorem filterMap_compiled?_serveAll (schema : Schema) {c : Copier σ}
    (hquiet : ∀ now s d, ∀ e ∈ (c.cache.resolver.resolve now s d).2.events, e.compiled? = none)
    (requests : List Request) :
    ((c.serveAll schema requests).2.flatMap Handled.events).filterMap Event.compiled? =
      (c.serveAll schema requests).2.filterMap Handled.compiled? := by
  have hlast : ∀ handled ∈ (c.serveAll schema requests).2,
      handled.events.filterMap Event.compiled? = handled.compiled?.toList := by
    intro handled hmem
    obtain ⟨earlier, q, hresolver, rfl⟩ := exists_serve_of_mem hmem
    unfold Handled.compiled?
    rcases earlier.events_serve_cases schema q with ⟨-, -, hevents⟩ | ⟨-, hevents⟩
    · have hown := hquiet earlier.cache.state q.types.1 q.types.2
      rw [← hresolver] at hown
      rw [hevents, List.filterMap_append, List.filterMap_eq_nil_iff.mpr hown, List.nil_append,
        List.getLast?_concat, Option.bind_some]
      simp only [List.filterMap_cons, PlanCache.compiled?_compileEvent, List.filterMap_nil,
        Option.toList_some]
    · rw [hevents]
      rfl
  rw [List.filterMap_flatMap, List.filterMap_eq_flatMap_toList]
  exact List.flatMap_congr hlast

/-! ### Histories of a new copier -/

section Start

variable (schema : Schema) (r : Resolver σ) (state : σ)

/-- The pairs kept are those that requests got through for, each once, and so are those that
    last events are about. -/
theorem count_compiled?_start_serveAll (history : List Request) (pair : String × String) :
    (((start r state).serveAll schema history).2.filterMap Handled.compiled?).count pair =
      if pair ∈ history.filterMap Request.pair? then 1 else 0 := by
  have hadded : ((start r state).serveAll schema history).1.cache.pairs =
      ((start r state).serveAll schema history).2.filterMap Handled.compiled? :=
    (start r state).pairs_serveAll schema history
  rw [← hadded]
  exact count_pairs_start_serveAll schema r state history pair

/-- Which of the two cases a request is depends on those before it. -/
theorem events_after_history (before : List Request) (q : Request) :
    let c := ((start r state).serveAll schema before).1
    let response := (r.resolve c.cache.state q.types.1 q.types.2).2
    (q.ComesFirst before → (c.serve schema q).2.events = response.events ++
      [PlanCache.compileEvent r.name q.types.1 q.types.2
        (PlanCache.settle q.types.1 q.types.2 response.answer)]) ∧
    (¬ q.ComesFirst before → (c.serve schema q).2.events = []) := by
  intro c response
  have hresolver : c.cache.resolver = r := (tidy_start_serveAll schema r state before).resolver
  have hpairs : ∀ pair, pair ∈ c.cache.pairs ↔ pair ∈ before.filterMap Request.pair? :=
    mem_pairs_start_serveAll schema r state before
  rcases c.events_serve_cases schema q with ⟨hq, hnew, hevents⟩ | ⟨hold, hevents⟩
  · rw [hresolver] at hevents
    rw [hpairs] at hnew
    refine ⟨fun _ => hevents, fun hother => absurd ?_ hother⟩
    exact ⟨_, Request.pair?_eq_some_iff.mpr ⟨hq, rfl⟩, hnew⟩
  · refine ⟨?_, fun _ => hevents⟩
    rintro ⟨pair, hpair, hnew⟩
    exact absurd ((hpairs pair).mp (hold pair hpair)) hnew

end Start

end Copier

/-! ### What the copy modes log -/

namespace Finding

theorem compiled?_of_mem_collect {found : List Finding} :
    ∀ e ∈ (collect found).events, e.compiled? = none := by
  induction found with
  | nil => exact List.forall_mem_nil _
  | cons finding rest ih =>
    cases finding with
    | failed report => exact List.forall_mem_nil _
    | unmapped source destination target => exact List.forall_mem_cons.mpr ⟨rfl, ih⟩
    | resolved i => exact List.forall_mem_cons.mpr ⟨rfl, ih⟩

theorem isInstruction_of_outcome? {found : List Finding} {entries : List (Option Instruction × Event)}
    (h : List.Forall₂ (fun finding entry => finding.outcome? = some entry) found entries) :
    ∀ entry ∈ entries, entry.2.isInstruction = true ↔ entry.1.isSome = true := by
  induction h with
  | nil => exact List.forall_mem_nil _
  | @cons finding entry rest entries hfirst _ ih =>
    refine List.forall_mem_cons.mpr ⟨?_, ih⟩
    cases finding with
    | failed report => cases hfirst
    | unmapped source destination target =>
      cases hfirst
      simp [Event.isInstruction]
    | resolved i =>
      cases hfirst
      simp [Event.isInstruction]

/-- Findings that are all in order log as many instructions as there are. -/
theorem countP_events_collect {found : List Finding} {list : List Instruction}
    (h : (collect found).result = .ok list) :
    (collect found).events.countP Event.isInstruction = list.length := by
  obtain ⟨entries, hentries, rfl, hevents⟩ := collect_eq_ok h
  rw [hevents, List.countP_map, List.length_filterMap_eq_countP]
  exact List.countP_congr (isInstruction_of_outcome? hentries)

end Finding

/-- A plan that comes of what a mode finds has as many instructions as the mode logged. -/
theorem PlanCache.countP_of_outcome {schema : Schema} {mode : CopyMode} {s d : RecordType}
    {plan : Plan} (h : outcome (Resolver.ofMode schema mode) () s d = .ok plan) :
    (schema.resolve mode s d).events.countP Event.isInstruction = plan.instructionCount := by
  change settle s d (.returned (schema.resolve mode s d).result) = .ok plan at h
  cases hresult : (schema.resolve mode s d).result with
  | error report =>
    rw [hresult] at h
    cases h
  | ok list =>
    rw [hresult] at h
    obtain rfl := Except.ok.inj h
    exact Finding.countP_events_collect hresult

namespace Copier

theorem countP_serve_ofMode {schema : Schema} {mode : CopyMode} {c : Copier Unit} {q : Request}
    (hresolver : c.cache.resolver = Resolver.ofMode schema mode)
    {source destination resolver : String} {instructions depth : Nat} {noop : Bool}
    (h : .planCompiled source destination resolver instructions depth noop ∈
      (c.serve schema q).2.events) :
    (c.serve schema q).2.events.countP Event.isInstruction = instructions := by
  rcases c.events_serve_cases schema q with ⟨-, -, hevents⟩ | ⟨-, hevents⟩
  · rw [hresolver] at hevents
    rw [hevents] at h ⊢
    rcases List.mem_append.mp h with hfound | hlast
    · -- the mode itself logs no compile
      cases Finding.compiled?_of_mem_collect _ hfound
    · have hcompiled := List.mem_singleton.mp hlast
      cases houtcome : PlanCache.outcome (Resolver.ofMode schema mode) c.cache.state q.types.1
          q.types.2 with
      | error report =>
        rw [houtcome] at hcompiled
        cases hcompiled
      | ok plan =>
        rw [houtcome] at hcompiled
        obtain ⟨-, -, -, rfl, -, -⟩ := Event.planCompiled.inj hcompiled
        have hlogged : [PlanCache.compileEvent (Resolver.ofMode schema mode).name q.types.1 q.types.2
            (.ok plan)].countP Event.isInstruction = 0 := rfl
        rw [List.countP_append, hlogged, Nat.add_zero]
        exact PlanCache.countP_of_outcome houtcome
  · rw [hevents] at h
    cases h

/-- Over any history, the first request that gets through for a pair of types logs what the
    resolver has to say and then whether the pair was compiled; no other request logs anything.
    So the log tells of each such pair once, beside what the resolver itself may say of compiles.
    In the copy modes, which say nothing of them, a compile that succeeds logs as many resolved
    instructions as it counts. -/
theorem serveAll_logs_once {σ : Type} (schema : Schema) (r : Resolver σ) (state : σ)
    (requests : List Request) :
    let start := Copier.start r state
    let replies := (start.serveAll schema requests).2
    (∀ before q after, requests = before ++ q :: after →
      ∃ earlier handled later, replies = earlier ++ handled :: later ∧
        earlier.length = before.length ∧
        (q.ComesFirst before →
          let now := (start.serveAll schema before).1.cache.state
          let response := (r.resolve now q.types.1 q.types.2).2
          let settled := PlanCache.settle q.types.1 q.types.2 response.answer
          let told := PlanCache.compileEvent r.name q.types.1 q.types.2 settled
          handled.events = response.events ++ [told] ∧
            (told.level, told.message) = if settled.isOk then ("DEBUG", "Compiled copy plan")
              else ("WARN", "Copy plan compile failed, caching the failure")) ∧
        (¬ q.ComesFirst before → handled.events = [])) ∧
    (∀ pair, (replies.filterMap Handled.compiled?).count pair =
      if pair ∈ requests.filterMap Request.pair? then 1 else 0) ∧
    ((∀ now s d, ∀ e ∈ (r.resolve now s d).2.events, e.compiled? = none) →
      ∀ pair, ((replies.flatMap Handled.events).filterMap Event.compiled?).count pair =
        if pair ∈ requests.filterMap Request.pair? then 1 else 0) ∧
    ∀ mode, ∀ handled ∈ ((Copier.ofMode schema mode).serveAll schema requests).2,
      ∀ source destination resolver instructions depth noop,
        .planCompiled source destination resolver instructions depth noop ∈ handled.events →
          handled.events.countP Event.isInstruction = instructions := by
  intro start replies
  have hcount : ∀ pair, (replies.filterMap Handled.compiled?).count pair =
      if pair ∈ requests.filterMap Request.pair? then 1 else 0 :=
    count_compiled?_start_serveAll schema r state requests
  refine ⟨?calls, hcount, ?quiet, ?modes⟩
  case calls =>
    rintro before q after rfl
    let c := (start.serveAll schema before).1
    obtain ⟨hfirst, hother⟩ := events_after_history schema r state before q
    refine ⟨(start.serveAll schema before).2, (c.serve schema q).2,
      ((c.serve schema q).1.serveAll schema after).2, ?_, start.length_serveAll schema before, ?_,
      hother⟩
    · exact congrArg Prod.snd (start.serveAll_append schema before (q :: after))
    · intro hcomes
      exact ⟨hfirst hcomes, PlanCache.level_message_compileEvent _ _ _ _⟩
  case quiet =>
    intro hquiet pair
    rw [← hcount]
    exact congrArg (List.count pair) (start.filterMap_compiled?_serveAll schema hquiet requests)
  case modes =>
    intro mode handled hmem source destination resolver instructions depth noop hcompiled
    obtain ⟨earlier, q, hresolver, rfl⟩ := exists_serve_of_mem hmem
    exact countP_serve_ofMode hresolver hcompiled

/-- One pair is asked for twice, and about the other one nothing is found out, since the source is
    not what it is described as. -/
theorem serveAll_logs_once_sample :
    let history := [Request.plan Sample.patient Sample.chart,
      .map Sample.grace Sample.patient ⟨Sample.emptyChart, 0⟩ Sample.chart,
      .mapChecked Sample.grace Sample.ward ⟨Sample.emptyChart, 0⟩ Sample.chart]
    let resolver := Resolver.ofMode Sample.clinic .all
    let replies := ((Copier.start resolver ()).serveAll Sample.clinic history).2
    let told := (replies.flatMap Handled.events).filterMap Event.compiled?
    (∀ now s d, ∀ e ∈ (resolver.resolve now s d).2.events, e.compiled? = none) ∧
    told.count ("Patient", "Chart") = 1 ∧ told.count ("Ward", "Chart") = 0 := by
  intro history resolver replies told
  have hquiet : ∀ now s d, ∀ e ∈ (resolver.resolve now s d).2.events, e.compiled? = none :=
    fun _ _ _ => Finding.compiled?_of_mem_collect
  obtain ⟨-, -, hcount, -⟩ := Copier.serveAll_logs_once Sample.clinic resolver () history
  have hpairs : history.filterMap Request.pair? = [("Patient", "Chart"), ("Patient", "Chart")] :=
    rfl
  rw [hpairs] at hcount
  refine ⟨hquiet, (hcount hquiet _).trans ?_, (hcount hquiet _).trans ?_⟩
  · decide
  · decide

end Copier

end RecordCopy
