import Mathlib.Data.Finset.Card
import Mathlib.Data.List.Forall2
import RecordCopy.History
import RecordCopy.Proofs.Run

/-!
# One plan for each pair

Whatever requests a copier serves, its resolver is asked once about each pair of types
that a request got through to, and about no other pair.  What came of that one call is
kept and is behind every reply about the pair.

A request touches the cache through one `get` or not at all, so the facts about a
history come from two facts about `get`: the slots only grow, by the pair that was
asked for if it was new; and what is kept for the pair afterwards is what was answered.

A resolver may answer differently from call to call, so of a plan that is kept it matters in which
state it was answered.  A new cache that was asked about types is a function of them
(`PlanCache.after`), and so is the state that its resolver is in when a pair comes up first
(`PlanCache.Tidy`).

How often the resolver was called is read off a resolver that keeps a record of its calls.
A copier over it replies as before, and its record is the list of the pairs kept.
-/

namespace RecordCopy

/-! ### The cache -/

namespace PlanCache

variable {σ : Type}

def pairs (cache : PlanCache σ) : List (String × String) := cache.slots.map Prod.fst

def kept? (cache : PlanCache σ) (pair : String × String) : Option (Except Fault SharedPlan) :=
  (cache.slots.find? fun s => decide (s.1 = pair)).map Prod.snd

theorem kept?_eq_none_iff {cache : PlanCache σ} {pair : String × String} :
    cache.kept? pair = none ↔ pair ∉ cache.pairs := by
  rw [kept?, Option.map_eq_none_iff, List.find?_eq_none, pairs, List.mem_map]
  constructor
  · rintro h ⟨slot, hslot, rfl⟩
    exact h slot hslot (decide_eq_true rfl)
  · intro h slot hslot hsame
    exact h ⟨slot, hslot, of_decide_eq_true hsame⟩

theorem mem_slots_of_kept? {cache : PlanCache σ} {pair : String × String}
    {kept : Except Fault SharedPlan} (h : cache.kept? pair = some kept) :
    (pair, kept) ∈ cache.slots := by
  obtain ⟨⟨other, kept'⟩, hfind, rfl⟩ := Option.map_eq_some_iff.mp h
  obtain rfl : other = pair := by simpa using List.find?_some hfind
  exact List.mem_of_find?_eq_some hfind

theorem kept?_of_prefix {cache later : PlanCache σ} (h : cache.slots <+: later.slots)
    {pair : String × String} {kept : Except Fault SharedPlan}
    (hkept : cache.kept? pair = some kept) : later.kept? pair = some kept := by
  obtain ⟨more, hmore⟩ := h
  obtain ⟨slot, hslot, rfl⟩ := Option.map_eq_some_iff.mp hkept
  rw [kept?, ← hmore, List.find?_append, hslot]
  rfl

theorem get_of_not_mem {cache : PlanCache σ} {s d : RecordType}
    (h : (s.name, d.name) ∉ cache.pairs) : cache.get s d = cache.compile s d := by
  have hslot : cache.slot? s d = none := kept?_eq_none_iff.mpr h
  simp only [get, hslot]

theorem state_get_of_not_mem {cache : PlanCache σ} {s d : RecordType}
    (h : (s.name, d.name) ∉ cache.pairs) :
    (cache.get s d).cache.state = (cache.resolver.resolve cache.state s d).1 := by
  rw [get_of_not_mem h]
  rfl

theorem get_of_mem {cache : PlanCache σ} {s d : RecordType}
    (h : (s.name, d.name) ∈ cache.pairs) : ∃ kept, cache.kept? (s.name, d.name) = some kept ∧
      (cache.get s d).cache = cache ∧ (cache.get s d).events = [] ∧
      (cache.get s d).answer.mapError Report.fault = kept := by
  cases hslot : cache.slot? s d with
  | none => exact absurd h (kept?_eq_none_iff.mp hslot)
  | some kept =>
    refine ⟨kept, hslot, ?_⟩
    cases kept with
    | ok shared => simp only [get, hslot, Except.mapError, and_self]
    | error fault => simp only [get, hslot, Except.mapError, keptFailure, Report.note, Report.of,
        and_self]

def outcome (r : Resolver σ) (state : σ) (s d : RecordType) : Except Report Plan :=
  settle s d (r.resolve state s d).2.answer

/-- The slots grow by the pair that was asked for, if it was new. -/
theorem slots_get (cache : PlanCache σ) (s d : RecordType) :
    (cache.get s d).cache.slots = cache.slots ∧ (s.name, d.name) ∈ cache.pairs ∨
      (s.name, d.name) ∉ cache.pairs ∧ (cache.get s d).cache.slots =
        cache.slots ++ [((s.name, d.name), ((outcome cache.resolver cache.state s d).map
          (SharedPlan.mk cache.slots.length)).mapError Report.fault)] := by
  by_cases h : (s.name, d.name) ∈ cache.pairs
  · obtain ⟨kept, -, hcache, -⟩ := get_of_mem h
    rw [hcache]
    exact .inl ⟨rfl, h⟩
  · rw [get_of_not_mem h]
    exact .inr ⟨h, rfl⟩

theorem slots_prefix_get (cache : PlanCache σ) (s d : RecordType) :
    cache.slots <+: (cache.get s d).cache.slots := by
  rcases cache.slots_get s d with ⟨hslots, -⟩ | ⟨-, hslots⟩
  · rw [hslots]
  · rw [hslots]
    exact List.prefix_append _ _

theorem pairs_get (cache : PlanCache σ) (s d : RecordType) : (cache.get s d).cache.pairs =
    if (s.name, d.name) ∈ cache.pairs then cache.pairs else cache.pairs ++ [(s.name, d.name)] := by
  rcases cache.slots_get s d with ⟨hslots, hmem⟩ | ⟨hmem, hslots⟩
  · rw [if_pos hmem, pairs, hslots, pairs]
  · rw [if_neg hmem, pairs, hslots, List.map_append, pairs]
    rfl

/-- What is kept for a pair after a request is what was answered, without its notes. -/
theorem kept?_get (cache : PlanCache σ) (s d : RecordType) :
    (cache.get s d).cache.kept? (s.name, d.name) =
      some ((cache.get s d).answer.mapError Report.fault) := by
  by_cases h : (s.name, d.name) ∈ cache.pairs
  · obtain ⟨kept, hkept, hcache, -, hanswer⟩ := get_of_mem h
    rw [hcache, hkept, hanswer]
  · rw [get_of_not_mem h]
    have hnone : cache.slots.find? (fun s' => decide (s'.1 = (s.name, d.name))) = none :=
      Option.map_eq_none_iff.mp (kept?_eq_none_iff.mpr h)
    simp [kept?, compile, List.find?_append, hnone]

theorem resolver_get (cache : PlanCache σ) (s d : RecordType) :
    (cache.get s d).cache.resolver = cache.resolver := by
  by_cases h : (s.name, d.name) ∈ cache.pairs
  · obtain ⟨kept, -, hcache, -⟩ := get_of_mem h
    rw [hcache]
  · rw [get_of_not_mem h]
    rfl

/-- The same cache with a resolver that keeps a record of its calls, and has recorded one
    for each pair that something is kept for. -/
def recorded (cache : PlanCache σ) : PlanCache (σ × List (String × String)) :=
  ⟨cache.resolver.recorded, (cache.state, cache.pairs), cache.slots⟩

theorem get_recorded (cache : PlanCache σ) (s d : RecordType) : cache.recorded.get s d =
    ⟨(cache.get s d).answer, (cache.get s d).cache.recorded, (cache.get s d).events⟩ := by
  by_cases h : (s.name, d.name) ∈ cache.pairs
  · cases hslot : cache.slot? s d with
    | none => exact absurd h (kept?_eq_none_iff.mp hslot)
    | some kept =>
      have hrecorded : cache.recorded.slot? s d = some kept := hslot
      cases kept <;> simp only [get, hslot, hrecorded]
  · have hrecorded : cache.recorded.get s d = cache.recorded.compile s d := get_of_not_mem h
    rw [get_of_not_mem h, hrecorded]
    simp only [compile, recorded, Resolver.recorded, pairs, List.map_append, List.map_cons,
      List.map_nil]

/-- The cache after it was asked about types in turn. -/
def after (cache : PlanCache σ) : List (RecordType × RecordType) → PlanCache σ
  | [] => cache
  | (s, d) :: rest => after (cache.get s d).cache rest

theorem after_append (cache : PlanCache σ) (before later : List (RecordType × RecordType)) :
    cache.after (before ++ later) = (cache.after before).after later := by
  induction before generalizing cache with
  | nil => rfl
  | cons types rest ih => exact ih _

def names (types : RecordType × RecordType) : String × String := (types.1.name, types.2.name)

/-- What a new cache looks like after it was asked about types.  Each pair of names among them
    has one slot, no other pair has one, and the slot keeps what the resolver answered when
    the pair came up first, in the state that the requests before had left it in.  A plan has the
    position of its slot as serial number. -/
structure Tidy (r : Resolver σ) (state : σ) (cache : PlanCache σ)
    (asked : List (RecordType × RecordType)) : Prop where
  eq_after : cache = (start r state).after asked
  resolver : cache.resolver = r
  nodup : cache.pairs.Nodup
  mem_iff : ∀ pair, pair ∈ cache.pairs ↔ pair ∈ asked.map names
  first : ∀ pair kept, (pair, kept) ∈ cache.slots → ∃ before types later,
    asked = before ++ types :: later ∧ names types = pair ∧ pair ∉ before.map names ∧
      kept.map SharedPlan.plan = (outcome r ((start r state).after before).state
        types.1 types.2).mapError Report.fault
  serial : ∀ (position : Nat) (pair : String × String) (shared : SharedPlan),
    cache.slots[position]? = some (pair, Except.ok shared) → shared.serial = position

theorem Tidy.start (r : Resolver σ) (state : σ) : Tidy r state (PlanCache.start r state) [] := by
  constructor <;> simp [PlanCache.start, pairs, PlanCache.after]

theorem Tidy.get {r : Resolver σ} {state : σ} {cache : PlanCache σ}
    {asked : List (RecordType × RecordType)} (h : Tidy r state cache asked) (s d : RecordType) :
    Tidy r state (cache.get s d).cache (asked ++ [(s, d)]) := by
  constructor
  · rw [after_append, ← h.eq_after]
    rfl
  · rw [resolver_get, h.resolver]
  · rw [pairs_get]
    split
    · exact h.nodup
    · rename_i hnew
      rw [List.nodup_append]
      refine ⟨h.nodup, List.nodup_singleton _, ?_⟩
      rintro pair hpair _ hsame rfl
      rw [List.mem_singleton.mp hsame] at hpair
      exact hnew hpair
  · intro pair
    rw [pairs_get, List.map_append, List.mem_append, ← h.mem_iff, List.map_singleton,
      List.mem_singleton]
    split
    · rename_i hold
      constructor
      · exact Or.inl
      · rintro (hpair | rfl)
        · exact hpair
        · exact hold
    · rw [List.mem_append, List.mem_singleton]
      exact Iff.rfl
  · intro pair kept hslot
    rcases cache.slots_get s d with ⟨hslots, -⟩ | ⟨hnew, hslots⟩
    · rw [hslots] at hslot
      obtain ⟨before, types, later, rfl, hfirst⟩ := h.first pair kept hslot
      exact ⟨before, types, later ++ [(s, d)], by simp, hfirst⟩
    · rw [hslots, List.mem_append, List.mem_singleton] at hslot
      rcases hslot with hold | hlast
      · obtain ⟨before, types, later, rfl, hfirst⟩ := h.first pair kept hold
        exact ⟨before, types, later ++ [(s, d)], by simp, hfirst⟩
      · -- nothing is kept for a pair that was never asked about, so this is its first request
        obtain ⟨rfl, rfl⟩ := Prod.mk.inj hlast
        rw [h.mem_iff] at hnew
        refine ⟨asked, (s, d), [], rfl, rfl, hnew, ?_⟩
        rw [← h.eq_after, ← h.resolver]
        cases outcome cache.resolver cache.state s d <;> rfl
  · intro position pair shared hposition
    rcases cache.slots_get s d with ⟨hslots, -⟩ | ⟨-, hslots⟩
    · rw [hslots] at hposition
      exact h.serial position pair shared hposition
    · rw [hslots, List.getElem?_append] at hposition
      split at hposition
      · exact h.serial position pair shared hposition
      · rename_i hge
        have hlast : position = cache.slots.length := by
          have := (List.getElem?_eq_some_iff.mp hposition).1
          simp only [List.length_singleton] at this
          omega
        subst hlast
        cases hsettled : outcome cache.resolver cache.state s d with
        | error report => simp [hsettled, Except.map, Except.mapError] at hposition
        | ok plan =>
          simp only [Nat.sub_self, List.getElem?_cons_zero, Option.some.injEq, Prod.mk.injEq,
            hsettled, Except.map, Except.mapError, Except.ok.injEq] at hposition
          rw [← hposition.2]

theorem tidy_after (r : Resolver σ) (state : σ) (asked : List (RecordType × RecordType)) :
    Tidy r state ((PlanCache.start r state).after asked) asked := by
  induction asked using List.reverseRecOn with
  | nil => exact .start r state
  | append_singleton asked types ih =>
    rw [after_append]
    exact ih.get types.1 types.2

/-- Plans kept for two pairs are told apart by their serial numbers. -/
theorem Tidy.eq_of_serial {r : Resolver σ} {state : σ} {cache : PlanCache σ}
    {asked : List (RecordType × RecordType)} (h : Tidy r state cache asked)
    {pair other : String × String} {a b : SharedPlan}
    (ha : cache.kept? pair = some (.ok a)) (hb : cache.kept? other = some (.ok b))
    (hserial : a.serial = b.serial) : pair = other := by
  have hfound : ∀ {p : String × String} {shared : SharedPlan},
      cache.kept? p = some (.ok shared) → cache.slots[shared.serial]? = some (p, .ok shared) := by
    intro p shared hp
    obtain ⟨position, hposition⟩ := List.mem_iff_getElem?.mp (mem_slots_of_kept? hp)
    rw [h.serial position p shared hposition]
    exact hposition
  have hsame := hfound ha
  rw [hserial, hfound hb] at hsame
  exact (congrArg Prod.fst (Option.some.inj hsame)).symm

end PlanCache

/-- A request asks about the pair of its types if it gets through, and about no other. -/
theorem Request.pair?_eq_some_iff {q : Request} {pair : String × String} :
    q.pair? = some pair ↔ q.Admitted ∧ (q.types.1.name, q.types.2.name) = pair := by
  unfold pair?
  by_cases h : q.Admitted <;> simp [h]

/-! ### What a reply comes from -/

/-- A copy that comes of what is kept for its pair: a plan is carried out, and a fault is
    reported before anything is touched. -/
def CopiedFrom (schema : Schema) (kept : Except Fault SharedPlan) (value : Value)
    (target : Target) (result : Except Report Unit) (after : Target) : Prop :=
  match kept with
  | .ok shared => (after, result) = schema.execute shared.plan value target
  | .error fault => after = target ∧ ∃ report, result = .error report ∧ report.fault = fault

/-- A reply that comes of what is kept for the pair of its request.  A plan that is handed
    out is the very one that is kept. -/
def Request.RepliedFrom (schema : Schema) (kept : Except Fault SharedPlan) :
    Request → Reply → Prop
  | .plan _ _, .planned answer => answer.mapError Report.fault = kept
  | .map value _ target _, .mapped result after
  | .mapChecked value _ target _, .mapped result after =>
    CopiedFrom schema kept value target result after
  | .create value _ fresh destination, .created result next
  | .createChecked value _ fresh destination, .created result next =>
    ∃ made copied after, destination.instance? = some made ∧
      CopiedFrom schema kept value ⟨made, fresh⟩ copied after ∧
      result = copied.map (fun _ => after.value) ∧ next = after.fresh
  | _, _ => False

namespace Copier

variable {σ : Type}

theorem map_copier (schema : Schema) (c : Copier σ) (value : Value) (source : RecordType)
    (target : Target) (destination : RecordType) :
    (c.map schema value source target destination).copier =
      ⟨(c.plan source destination).cache⟩ := by
  cases hanswer : (c.plan source destination).answer with
  | error report => simp only [map, hanswer]
  | ok shared => simp only [map, hanswer]

theorem events_map (schema : Schema) (c : Copier σ) (value : Value) (source : RecordType)
    (target : Target) (destination : RecordType) :
    (c.map schema value source target destination).events =
      (c.plan source destination).events := by
  cases hanswer : (c.plan source destination).answer with
  | error report => simp only [map, hanswer]
  | ok shared => simp only [map, hanswer]

theorem map_copiedFrom (schema : Schema) (c : Copier σ) (value : Value) (source : RecordType)
    (target : Target) (destination : RecordType) :
    CopiedFrom schema ((c.plan source destination).answer.mapError Report.fault) value target
      (c.map schema value source target destination).result
      (c.map schema value source target destination).target := by
  cases hanswer : (c.plan source destination).answer with
  | error report =>
    simp only [map, hanswer]
    exact ⟨rfl, report, rfl, rfl⟩
  | ok shared =>
    simp only [map, hanswer]
    rfl

theorem type_map (schema : Schema) (c : Copier σ) (value : Value) (source : RecordType)
    (target : Target) (destination : RecordType) :
    (c.map schema value source target destination).target.value.type = target.value.type := by
  cases hanswer : (c.plan source destination).answer with
  | error report => simp only [map, hanswer]
  | ok shared => simp only [map, hanswer, schema.type_execute]

/-- Instances of the types they are described with are copied without further checks. -/
theorem mapChecked_of_types {schema : Schema} {c : Copier σ} {value : Value}
    {source destination : RecordType} {target : Target} (hvalue : value.type = source.type)
    (htarget : target.value.type = destination.type) :
    c.mapChecked schema value source target destination =
      c.map schema value source target destination := by
  simp only [mapChecked, checkInstance, hvalue, htarget, if_true]

/-- Any other instances are refused before anything else happens, the source first. -/
theorem mapChecked_of_mismatch {schema : Schema} {c : Copier σ} {value : Value}
    {source destination : RecordType} {target : Target}
    (h : ¬ (value.type = source.type ∧ target.value.type = destination.type)) :
    c.mapChecked schema value source target destination =
      ⟨.error (mismatch (if value.type = source.type then destination else source)), target, c,
        []⟩ := by
  unfold mapChecked checkInstance
  by_cases hvalue : value.type = source.type
  · have htarget : target.value.type ≠ destination.type := fun ht => h ⟨hvalue, ht⟩
    simp only [hvalue, htarget, if_true, if_false]
  · simp only [hvalue, if_false]

/-- A fresh instance of the right type is copied into like any other. -/
theorem createChecked_of_types {schema : Schema} {c : Copier σ} {value : Value}
    {source destination : RecordType} {made : Value} (hmade : destination.instance? = some made)
    (hvalue : value.type = source.type) (htype : made.type = destination.type)
    (fresh : Allocation) : c.createChecked schema value source fresh destination =
      let mapped := c.map schema value source ⟨made, fresh⟩ destination
      ⟨mapped.result.map fun _ => mapped.target.value, mapped.target.fresh, mapped.copier,
        mapped.events⟩ := by
  simp only [createChecked, hmade]
  rw [mapChecked_of_types hvalue htype]

/-- Where there is none, or it is not what it was asked for, nothing else happens. -/
theorem createChecked_of_not_admitted (schema : Schema) (c : Copier σ) {value : Value}
    {source destination : RecordType} (fresh : Allocation)
    (h : ¬ (Request.createChecked value source fresh destination).Admitted) :
    ∃ report, c.createChecked schema value source fresh destination =
      ⟨.error report, fresh, c, []⟩ := by
  cases hmade : destination.instance? with
  | none => exact ⟨notConstructible destination, by simp only [createChecked, hmade]⟩
  | some made =>
    have hmismatch := @mapChecked_of_mismatch σ schema c value source destination ⟨made, fresh⟩
      fun htypes => h ⟨made, hmade, htypes⟩
    simp only [createChecked, hmade, hmismatch]
    exact ⟨_, rfl⟩

/-- A fresh instance that was copied into is of the type that was asked for: it was checked
    before the copy, and the copy keeps its type. -/
theorem type_of_createChecked {schema : Schema} {c : Copier σ} {value v : Value}
    {source destination : RecordType} {fresh : Allocation}
    (h : (c.createChecked schema value source fresh destination).result = .ok v) :
    v.type = destination.type := by
  by_cases hadmitted : (Request.createChecked value source fresh destination).Admitted
  · obtain ⟨made, hmade, hvalue, htype⟩ := hadmitted
    rw [createChecked_of_types hmade hvalue htype] at h
    cases hresult : (c.map schema value source ⟨made, fresh⟩ destination).result with
    | error report =>
      simp only [hresult] at h
      cases h
    | ok _ =>
      simp only [hresult] at h
      obtain rfl := Except.ok.inj h
      rw [type_map]
      exact htype
  · obtain ⟨report, hrefused⟩ := c.createChecked_of_not_admitted schema fresh hadmitted
    rw [hrefused] at h
    cases h

/-- So the check of what was made finds nothing wrong. -/
theorem create_eq_createChecked (schema : Schema) (c : Copier σ) (value : Value)
    (source : RecordType) (fresh : Allocation) (destination : RecordType) :
    c.create schema value source fresh destination =
      c.createChecked schema value source fresh destination := by
  unfold create
  cases hresult : (c.createChecked schema value source fresh destination).result with
  | error report => simp only [hresult]
  | ok v => simp only [hresult, type_of_createChecked hresult, if_true]

/-! ### One request -/

/-- A request that gets through asks the cache for its pair, once.  The log is what the cache
    logs, and the reply comes of what it answers. -/
theorem serve_through (schema : Schema) (c : Copier σ) {q : Request} (h : q.Admitted) :
    let served := c.cache.get q.types.1 q.types.2
    (c.serve schema q).1 = ⟨served.cache⟩ ∧ (c.serve schema q).2.events = served.events ∧
      q.RepliedFrom schema (served.answer.mapError Report.fault) (c.serve schema q).2.reply := by
  cases q with
  | plan source destination => exact ⟨rfl, rfl, rfl⟩
  | map value source target destination =>
    exact ⟨c.map_copier schema value source target destination,
      c.events_map schema value source target destination,
      c.map_copiedFrom schema value source target destination⟩
  | mapChecked value source target destination =>
    simp only [serve, mapChecked_of_types h.1 h.2]
    exact ⟨c.map_copier schema value source target destination,
      c.events_map schema value source target destination,
      c.map_copiedFrom schema value source target destination⟩
  | create value source fresh destination =>
    obtain ⟨made, hmade, hvalue, htype⟩ := h
    simp only [serve, create_eq_createChecked, createChecked_of_types hmade hvalue htype]
    exact ⟨c.map_copier schema value source ⟨made, fresh⟩ destination,
      c.events_map schema value source ⟨made, fresh⟩ destination, made, _, _, hmade,
      c.map_copiedFrom schema value source ⟨made, fresh⟩ destination, rfl, rfl⟩
  | createChecked value source fresh destination =>
    obtain ⟨made, hmade, hvalue, htype⟩ := h
    simp only [serve, createChecked_of_types hmade hvalue htype]
    exact ⟨c.map_copier schema value source ⟨made, fresh⟩ destination,
      c.events_map schema value source ⟨made, fresh⟩ destination, made, _, _, hmade,
      c.map_copiedFrom schema value source ⟨made, fresh⟩ destination, rfl, rfl⟩

/-- Any other request leaves the copier alone and logs nothing. -/
theorem serve_refused (schema : Schema) (c : Copier σ) {q : Request} (h : ¬ q.Admitted) :
    (c.serve schema q).1 = c ∧ (c.serve schema q).2.events = [] := by
  cases q with
  | plan source destination => exact absurd trivial h
  | map value source target destination => exact absurd trivial h
  | mapChecked value source target destination =>
    simp only [serve]
    rw [mapChecked_of_mismatch h]
    exact ⟨rfl, rfl⟩
  | create value source fresh destination =>
    obtain ⟨report, hrefused⟩ := c.createChecked_of_not_admitted schema fresh h
    simp only [serve, create_eq_createChecked, hrefused, and_self]
  | createChecked value source fresh destination =>
    obtain ⟨report, hrefused⟩ := c.createChecked_of_not_admitted schema fresh h
    simp only [serve, hrefused, and_self]

theorem serve_of_admitted {schema : Schema} {c : Copier σ} {q : Request} (h : q.Admitted) :
    (c.serve schema q).1.cache = (c.cache.get q.types.1 q.types.2).cache := by
  rw [(c.serve_through schema h).1]

theorem serve_of_not_admitted {schema : Schema} {c : Copier σ} {q : Request}
    (h : ¬ q.Admitted) : (c.serve schema q).1 = c :=
  (c.serve_refused schema h).1

/-! ### Recorded calls -/

def recorded (c : Copier σ) : Copier (σ × List (String × String)) := ⟨c.cache.recorded⟩

section

variable (schema : Schema) (c : Copier σ) (value : Value) (source destination : RecordType)

theorem plan_recorded : c.recorded.plan source destination =
    ⟨(c.plan source destination).answer, (c.plan source destination).cache.recorded,
      (c.plan source destination).events⟩ :=
  c.cache.get_recorded source destination

theorem map_recorded (target : Target) :
    c.recorded.map schema value source target destination =
      let mapped := c.map schema value source target destination
      ⟨mapped.result, mapped.target, mapped.copier.recorded, mapped.events⟩ := by
  cases hanswer : (c.plan source destination).answer with
  | error report =>
    simp only [map, plan_recorded, hanswer]
    rfl
  | ok shared =>
    simp only [map, plan_recorded, hanswer]
    rfl

theorem mapChecked_recorded (target : Target) :
    c.recorded.mapChecked schema value source target destination =
      let mapped := c.mapChecked schema value source target destination
      ⟨mapped.result, mapped.target, mapped.copier.recorded, mapped.events⟩ := by
  unfold mapChecked
  cases checkInstance value source with
  | error report => rfl
  | ok _ =>
    cases checkInstance target.value destination with
    | error report => rfl
    | ok _ => exact c.map_recorded schema value source destination target

theorem createChecked_recorded (fresh : Allocation) :
    c.recorded.createChecked schema value source fresh destination =
      let created := c.createChecked schema value source fresh destination
      ⟨created.result, created.fresh, created.copier.recorded, created.events⟩ := by
  cases hmade : destination.instance? with
  | none => simp only [createChecked, hmade]
  | some made => simp only [createChecked, hmade, mapChecked_recorded]

theorem create_recorded (fresh : Allocation) :
    c.recorded.create schema value source fresh destination =
      let created := c.create schema value source fresh destination
      ⟨created.result, created.fresh, created.copier.recorded, created.events⟩ := by
  simp only [create_eq_createChecked, createChecked_recorded]

theorem serve_recorded (q : Request) :
    c.recorded.serve schema q = ((c.serve schema q).1.recorded, (c.serve schema q).2) := by
  cases q with
  | plan source destination =>
    simp only [serve, plan_recorded]
    rfl
  | map value source target destination => simp only [serve, map_recorded]
  | mapChecked value source target destination => simp only [serve, mapChecked_recorded]
  | create value source fresh destination => simp only [serve, create_recorded]
  | createChecked value source fresh destination => simp only [serve, createChecked_recorded]

theorem serveAll_recorded (requests : List Request) : c.recorded.serveAll schema requests =
    ((c.serveAll schema requests).1.recorded, (c.serveAll schema requests).2) := by
  induction requests generalizing c with
  | nil => rfl
  | cons q rest ih => simp only [serveAll, serve_recorded, ih]

end

/-! ### Histories -/

/-- The types that requests ask about, those only that get through. -/
def asked (requests : List Request) : List (RecordType × RecordType) :=
  (requests.filter fun q => decide q.Admitted).map Request.types

theorem asked_append (before after : List Request) :
    asked (before ++ after) = asked before ++ asked after := by
  rw [asked, List.filter_append, List.map_append, asked, asked]

theorem map_names_asked (requests : List Request) :
    (asked requests).map PlanCache.names = requests.filterMap Request.pair? := by
  induction requests with
  | nil => rfl
  | cons q rest ih =>
    simp only [asked, List.filter_cons, List.filterMap_cons, Request.pair?] at ih ⊢
    split <;> simp_all [PlanCache.names]

/-- Where types are asked about, a request asks about them. -/
theorem exists_split_of_asked {requests : List Request} {types : RecordType × RecordType}
    {asked' later : List (RecordType × RecordType)} (h : asked requests = asked' ++ types :: later) :
    ∃ before q rest, requests = before ++ q :: rest ∧ q.Admitted ∧ q.types = types ∧
      asked before = asked' := by
  obtain ⟨front, back, hfilter, rfl, hback⟩ := List.map_eq_append_iff.mp h
  obtain ⟨q, back, rfl, rfl, -⟩ := List.map_eq_cons_iff.mp hback
  obtain ⟨before, behind, rfl, rfl, hbehind⟩ := List.filter_eq_append_iff.mp hfilter
  obtain ⟨refused, rest, rfl, hrefused, hq, -⟩ := List.filter_eq_cons_iff.mp hbehind
  refine ⟨before ++ refused, q, rest, by simp, of_decide_eq_true hq, rfl, ?_⟩
  have hnone : refused.filter (fun q => decide q.Admitted) = [] :=
    List.filter_eq_nil_iff.mpr hrefused
  rw [asked, List.filter_append, hnone, List.append_nil]

/-- A history asks the cache about its types, one after the other. -/
theorem cache_serveAll (schema : Schema) (c : Copier σ) (requests : List Request) :
    (c.serveAll schema requests).1.cache = c.cache.after (asked requests) := by
  induction requests generalizing c with
  | nil => rfl
  | cons q rest ih =>
    simp only [serveAll]
    rw [ih, ← List.singleton_append, asked_append, PlanCache.after_append]
    congr 1
    by_cases hq : q.Admitted
    · rw [serve_of_admitted hq, show asked [q] = [(q.types.1, q.types.2)] by simp [asked, hq]]
      rfl
    · rw [serve_of_not_admitted hq, show asked [q] = [] by simp [asked, hq]]
      rfl

theorem serveAll_append (schema : Schema) (c : Copier σ) (before after : List Request) :
    c.serveAll schema (before ++ after) =
      (((c.serveAll schema before).1.serveAll schema after).1,
        (c.serveAll schema before).2 ++ ((c.serveAll schema before).1.serveAll schema after).2) := by
  induction before generalizing c with
  | nil => rfl
  | cons q rest ih => simp only [List.cons_append, serveAll, ih]

section Start

variable (schema : Schema) (r : Resolver σ) (state : σ)

theorem tidy_start_serveAll (history : List Request) :
    ((start r state).serveAll schema history).1.cache.Tidy r state (asked history) := by
  rw [cache_serveAll]
  exact PlanCache.tidy_after r state (asked history)

theorem mem_pairs_start_serveAll (history : List Request) (pair : String × String) :
    pair ∈ ((start r state).serveAll schema history).1.cache.pairs ↔
      pair ∈ history.filterMap Request.pair? := by
  rw [(tidy_start_serveAll schema r state history).mem_iff, map_names_asked]

theorem count_pairs_start_serveAll (history : List Request) (pair : String × String) :
    ((start r state).serveAll schema history).1.cache.pairs.count pair =
      if pair ∈ history.filterMap Request.pair? then 1 else 0 := by
  rw [(tidy_start_serveAll schema r state history).nodup.count]
  simp only [mem_pairs_start_serveAll]

/-- The outcome kept for a pair is that of the call that its first request made. -/
theorem exists_call_of_kept? {history : List Request} {pair : String × String}
    {kept : Except Fault SharedPlan}
    (h : ((start r state).serveAll schema history).1.cache.kept? pair = some kept) :
    ∃ before q later, history = before ++ q :: later ∧ q.pair? = some pair ∧
      pair ∉ before.filterMap Request.pair? ∧
      let called := r.resolve ((start r state).serveAll schema before).1.cache.state
        q.types.1 q.types.2
      ((start r state).serveAll schema (before ++ [q])).1.cache.state = called.1 ∧
        kept.map SharedPlan.plan =
          (PlanCache.settle q.types.1 q.types.2 called.2.answer).mapError Report.fault := by
  have htidy := tidy_start_serveAll schema r state history
  obtain ⟨earlier, types, later, hasked, rfl, hnew, hkept⟩ :=
    htidy.first pair kept (PlanCache.mem_slots_of_kept? h)
  obtain ⟨before, q, rest, rfl, hq, rfl, rfl⟩ := exists_split_of_asked hasked
  have hpair : q.pair? = some (PlanCache.names q.types) := Request.pair?_eq_some_iff.mpr ⟨hq, rfl⟩
  rw [map_names_asked] at hnew
  refine ⟨before, q, rest, rfl, hpair, hnew, ?_, ?_⟩
  · have hfresh : PlanCache.names q.types ∉
        ((start r state).serveAll schema before).1.cache.pairs := by
      rwa [mem_pairs_start_serveAll]
    have hstate := PlanCache.state_get_of_not_mem hfresh
    rw [(tidy_start_serveAll schema r state before).resolver] at hstate
    rw [serveAll_append]
    simp only [serveAll]
    rw [serve_of_admitted hq]
    exact hstate
  · rw [cache_serveAll]
    exact hkept

end Start

theorem slots_prefix_serveAll (schema : Schema) (c : Copier σ) (requests : List Request) :
    c.cache.slots <+: (c.serveAll schema requests).1.cache.slots := by
  induction requests generalizing c with
  | nil => exact List.prefix_rfl
  | cons q rest ih =>
    refine List.IsPrefix.trans ?_ (ih (c.serve schema q).1)
    by_cases hq : q.Admitted
    · rw [serve_of_admitted hq]
      exact c.cache.slots_prefix_get _ _
    · rw [serve_of_not_admitted hq]

/-- Replies come of what is kept in the end, for nothing that is kept ever changes. -/
theorem serveAll_repliedFrom (schema : Schema) (c : Copier σ) (requests : List Request) :
    List.Forall₂ (fun q handled => ∀ pair, q.pair? = some pair → ∃ kept,
        (c.serveAll schema requests).1.cache.kept? pair = some kept ∧
          q.RepliedFrom schema kept handled.reply)
      requests (c.serveAll schema requests).2 := by
  induction requests generalizing c with
  | nil => exact .nil
  | cons q rest ih =>
    refine .cons ?_ (ih (c.serve schema q).1)
    intro pair hpair
    obtain ⟨hq, rfl⟩ := Request.pair?_eq_some_iff.mp hpair
    refine ⟨_, PlanCache.kept?_of_prefix (slots_prefix_serveAll schema _ rest) ?_,
      (c.serve_through schema hq).2.2⟩
    rw [serve_of_admitted hq]
    exact c.cache.kept?_get _ _

/-- Over any history, the resolver is called once about each pair of types that some
    request got through to, and about no other pair; at any time, as many pairs count as
    cached.  What is kept for a pair is what that call answered: it was made for the first request
    for the pair, in the state that the requests before had left the resolver in, and its next
    state is the one that the request leaves.  Every plan has a serial number of its own, and every
    reply about a pair comes of what is kept for it. -/
theorem serveAll_asks_once (schema : Schema) (r : Resolver σ) (state : σ)
    (requests : List Request) :
    let start := Copier.start r state
    let recording := Copier.start r.recorded (state, [])
    let final := (start.serveAll schema requests).1
    (recording.serveAll schema requests).2 = (start.serveAll schema requests).2 ∧
    (∀ pair, (recording.serveAll schema requests).1.cache.state.2.count pair =
      if pair ∈ requests.filterMap Request.pair? then 1 else 0) ∧
    (∀ before, before <+: requests → (start.serveAll schema before).1.cachedPlans =
      (before.filterMap Request.pair?).toFinset.card) ∧
    (∀ pair kept, final.cache.kept? pair = some kept → ∃ before q later,
      requests = before ++ q :: later ∧ q.pair? = some pair ∧
      pair ∉ before.filterMap Request.pair? ∧
      let now := (start.serveAll schema before).1.cache.state
      let called := r.resolve now q.types.1 q.types.2
      (start.serveAll schema (before ++ [q])).1.cache.state = called.1 ∧
        kept.map SharedPlan.plan =
          (PlanCache.settle q.types.1 q.types.2 called.2.answer).mapError Report.fault) ∧
    (∀ pair other a b, final.cache.kept? pair = some (.ok a) →
      final.cache.kept? other = some (.ok b) → a.serial = b.serial → pair = other) ∧
    List.Forall₂ (fun q handled => ∀ pair, q.pair? = some pair → ∃ kept,
        final.cache.kept? pair = some kept ∧ q.RepliedFrom schema kept handled.reply)
      requests (start.serveAll schema requests).2 := by
  intro start recording final
  have hrecording : recording.serveAll schema requests =
      (final.recorded, (start.serveAll schema requests).2) :=
    start.serveAll_recorded schema requests
  refine ⟨congrArg Prod.snd hrecording, ?calls, ?cached, ?first, ?serials,
    serveAll_repliedFrom schema start requests⟩
  case calls =>
    intro pair
    have hcalls : (recording.serveAll schema requests).1.cache.state.2 = final.cache.pairs := by
      rw [hrecording]
      rfl
    rw [hcalls]
    exact count_pairs_start_serveAll schema r state requests pair
  case cached =>
    intro before _
    have hsame : (start.serveAll schema before).1.cache.pairs.toFinset =
        (before.filterMap Request.pair?).toFinset := by
      ext pair
      rw [List.mem_toFinset, List.mem_toFinset, mem_pairs_start_serveAll]
    have hnodup := (tidy_start_serveAll schema r state before).nodup
    rw [← hsame, List.toFinset_card_of_nodup hnodup, PlanCache.pairs, List.length_map]
    rfl
  case first =>
    intro pair kept hkept
    exact exists_call_of_kept? schema r state hkept
  case serials =>
    intro pair other a b ha hb hserial
    exact (tidy_start_serveAll schema r state requests).eq_of_serial ha hb hserial

end Copier

end RecordCopy
