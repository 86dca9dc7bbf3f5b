import Mathlib.Data.List.Lex
import Mathlib.Data.Prod.Lex
import RecordCopy.Ancestry

/-!
# Shortest routes

The search finds every supertype, each along the route that ranks first: a shortest one,
and among the shortest the one whose steps are declared first.  Declarations may repeat
and go in circles.

The argument is about the whole queue at once.  What was found so far stands in the order
of the routes, and each record in it has its best route; what was visited has nothing left
to discover.  So a better route to a record that is discovered only now would have to
leave the known records through one that is still pending, and none of these is nearer
than the record that is visited.
-/

namespace RecordCopy

/-! ### The rank of a route -/

/-- How a route ranks: by its length, and with equally long ones by the positions of its
    declarations. -/
def rank (route : List Step) : ℕ ×ₗ List ℕ := toLex (route.length, route.map Step.position)

theorem rank_lt_rank_iff {u v : List Step} : rank u < rank v ↔ u.length < v.length ∨
    u.length = v.length ∧ u.map Step.position < v.map Step.position :=
  Prod.Lex.toLex_lt_toLex

theorem rank_le_rank_iff {u v : List Step} : rank u ≤ rank v ↔ u.length < v.length ∨
    u.length = v.length ∧ u.map Step.position ≤ v.map Step.position :=
  Prod.Lex.toLex_le_toLex

theorem rank_lt_of_length {u v : List Step} (h : u.length < v.length) : rank u < rank v :=
  rank_lt_rank_iff.mpr (.inl h)

theorem positions_eq_of_rank_eq {u v : List Step} (h : rank u = rank v) :
    u.map Step.position = v.map Step.position :=
  congrArg Prod.snd (toLex.injective h)

theorem rank_le_append (u v : List Step) : rank u ≤ rank (u ++ v) := by
  cases v with
  | nil => rw [List.append_nil]
  | cons s v =>
    refine (rank_lt_of_length ?_).le
    rw [List.length_append, List.length_cons]
    omega

theorem append_lt_append {u v : List ℕ} (hlength : u.length = v.length) (h : u < v)
    (s t : List ℕ) : u ++ s < v ++ t := by
  induction u generalizing v with
  | nil =>
    cases v with
    | nil => exact absurd h (lt_irrefl _)
    | cons y v => cases hlength
  | cons x u ih =>
    cases v with
    | nil => cases hlength
    | cons y v =>
      rw [List.cons_append, List.cons_append, List.cons_lt_cons_iff]
      rcases List.cons_lt_cons_iff.mp h with hxy | ⟨rfl, huv⟩
      · exact .inl hxy
      · exact .inr ⟨rfl, ih (Nat.succ.inj hlength) huv⟩

/-- A better route stays better when both go on for one step. -/
theorem rank_append_lt {u v : List Step} (h : rank u < rank v) (s t : Step) :
    rank (u ++ [s]) < rank (v ++ [t]) := by
  rw [rank_lt_rank_iff] at h ⊢
  simp only [List.length_append, List.length_singleton, List.map_append]
  rcases h with h | ⟨hlength, h⟩
  · exact .inl (by omega)
  · refine .inr ⟨by omega, append_lt_append ?_ h _ _⟩
    rw [List.length_map, List.length_map, hlength]

theorem rank_append_lt_of_position {u : List Step} {s t : Step} (h : s.position < t.position) :
    rank (u ++ [s]) < rank (u ++ [t]) := by
  rw [rank_lt_rank_iff]
  refine .inr ⟨by simp, ?_⟩
  simp only [List.map_append, List.map_cons, List.map_nil]
  exact List.append_left_lt (List.cons_lt_cons_iff.mpr (.inl h))

theorem rank_append_le_of_position {u : List Step} {s t : Step} (h : s.position ≤ t.position) :
    rank (u ++ [s]) ≤ rank (u ++ [t]) := by
  rcases h.lt_or_eq with hlt | heq
  · exact (rank_append_lt_of_position hlt).le
  · rw [rank_le_rank_iff]
    exact .inr ⟨by simp, by simp [heq]⟩

/-! ### What a visit discovers -/

namespace Ancestor

/-- What is discovered comes of the first declaration of a record that is not known yet. -/
theorem of_mem_discover {known : List String} {sub : String} {route : List Step}
    {supertypes : List (Supertype × Nat)}
    (hsorted : supertypes.Pairwise fun s t => s.2 < t.2) {b : Ancestor}
    (hb : b ∈ discover known sub route supertypes) :
    ∃ s position, (s, position) ∈ supertypes ∧ s.record ∉ known ∧
      b = ⟨s.record, route ++ [⟨sub, position, s⟩]⟩ ∧
      ∀ t other, (t, other) ∈ supertypes → t.record = s.record → position ≤ other := by
  induction supertypes generalizing known with
  | nil => cases hb
  | cons head rest ih =>
    obtain ⟨s, position⟩ := head
    obtain ⟨hhead, hrest⟩ := List.pairwise_cons.mp hsorted
    by_cases hs : s.record ∈ known
    · rw [discover, if_pos hs] at hb
      obtain ⟨t, other, ht, hnew, rfl, hfirst⟩ := ih hrest hb
      refine ⟨t, other, List.mem_cons_of_mem _ ht, hnew, rfl, ?_⟩
      intro u third hu hsame
      rcases List.mem_cons.mp hu with hu | hu
      · obtain ⟨rfl, rfl⟩ := Prod.mk.inj hu
        exact absurd (hsame ▸ hs) hnew
      · exact hfirst u third hu hsame
    · rw [discover, if_neg hs] at hb
      rcases List.mem_cons.mp hb with rfl | hb
      · refine ⟨s, position, List.mem_cons_self, hs, rfl, ?_⟩
        intro u third hu _
        rcases List.mem_cons.mp hu with hu | hu
        · obtain ⟨rfl, rfl⟩ := Prod.mk.inj hu
          exact le_rfl
        · exact (hhead _ hu).le
      · obtain ⟨t, other, ht, hnew, rfl, hfirst⟩ := ih hrest hb
        rw [List.mem_cons, not_or] at hnew
        refine ⟨t, other, List.mem_cons_of_mem _ ht, hnew.2, rfl, ?_⟩
        intro u third hu hsame
        rcases List.mem_cons.mp hu with hu | hu
        · obtain ⟨rfl, rfl⟩ := Prod.mk.inj hu
          exact absurd hsame.symm hnew.1
        · exact hfirst u third hu hsame

theorem mem_known_or_discover (known : List String) (sub : String) (route : List Step)
    {supertypes : List (Supertype × Nat)} {s : Supertype} {position : Nat}
    (hs : (s, position) ∈ supertypes) :
    s.record ∈ known ∨ s.record ∈ (discover known sub route supertypes).map Ancestor.name := by
  induction supertypes generalizing known with
  | nil => cases hs
  | cons head rest ih =>
    obtain ⟨t, other⟩ := head
    by_cases ht : t.record ∈ known
    · rw [discover, if_pos ht]
      rcases List.mem_cons.mp hs with hs | hs
      · obtain ⟨rfl, rfl⟩ := Prod.mk.inj hs
        exact .inl ht
      · exact ih known hs
    · rw [discover, if_neg ht, List.map_cons, List.mem_cons]
      rcases List.mem_cons.mp hs with hs | hs
      · obtain ⟨rfl, rfl⟩ := Prod.mk.inj hs
        exact .inr (.inl rfl)
      · rcases ih (t.record :: known) hs with h | h
        · rcases List.mem_cons.mp h with h | h
          · exact .inr (.inl h)
          · exact .inl h
        · exact .inr (.inr h)

/-- What is discovered first ranks first. -/
theorem discover_sorted (known : List String) (sub : String) (route : List Step)
    {supertypes : List (Supertype × Nat)}
    (hsorted : supertypes.Pairwise fun s t => s.2 < t.2) :
    (discover known sub route supertypes).Pairwise fun a b => rank a.route < rank b.route := by
  induction supertypes generalizing known with
  | nil => exact .nil
  | cons head rest ih =>
    obtain ⟨s, position⟩ := head
    obtain ⟨hhead, hrest⟩ := List.pairwise_cons.mp hsorted
    by_cases hs : s.record ∈ known
    · rw [discover, if_pos hs]
      exact ih known hrest
    · rw [discover, if_neg hs]
      refine .cons ?_ (ih _ hrest)
      intro b hb
      obtain ⟨t, other, ht, -, rfl, -⟩ := of_mem_discover hrest hb
      exact rank_append_lt_of_position (hhead _ ht)

end Ancestor

theorem zipIdx_sorted {α : Type} (xs : List α) :
    xs.zipIdx.Pairwise fun s t => s.2 < t.2 := by
  have h : (xs.zipIdx.map Prod.snd).Pairwise (· < ·) := by
    rw [List.zipIdx_map_snd]
    exact List.pairwise_lt_range'
  exact List.pairwise_map.mp h

namespace Schema

variable {schema : Schema}

/-! ### Routes -/

theorem Route.append {a b c : String} {steps more : List Step} (h : schema.Route a steps b)
    (hmore : schema.Route b more c) : schema.Route a (steps ++ more) c := by
  induction h with
  | nil a => exact hmore
  | cons hstep _ ih => exact .cons hstep (ih hmore)

theorem Route.eq_of_nil {a c : String} (h : schema.Route a [] c) : a = c := by
  cases h
  rfl

theorem Route.snoc {a b : String} {steps : List Step} {position : Nat} {s : Supertype}
    (h : schema.Route a steps b) (hs : (schema.supertypes b)[position]? = some s) :
    schema.Route a (steps ++ [⟨b, position, s⟩]) s.record :=
  h.append (.cons hs (.nil _))

/-- The positions of its steps determine a route and where it leads. -/
theorem Route.eq_of_positions {a b c : String} {u v : List Step} (hu : schema.Route a u b)
    (hv : schema.Route a v c) (h : u.map Step.position = v.map Step.position) :
    u = v ∧ b = c := by
  induction hu generalizing v with
  | nil a =>
    cases hv with
    | nil => exact ⟨rfl, rfl⟩
    | cons _ _ => cases h
  | cons hstep _ ih =>
    cases hv with
    | nil => cases h
    | cons hstep' hrest =>
      obtain ⟨rfl, hmore⟩ := List.cons.inj h
      obtain rfl := Option.some.inj (hstep.symm.trans hstep')
      obtain ⟨rfl, rfl⟩ := ih hrest hmore
      exact ⟨rfl, rfl⟩

/-- A route that leaves a set of records does so for the first time in one of its steps. -/
theorem Route.exit {known : List String} {a c : String} {steps : List Step}
    (h : schema.Route a steps c) (ha : a ∈ known) (hc : c ∉ known) :
    ∃ before b position s after, steps = before ++ ⟨b, position, s⟩ :: after ∧
      schema.Route a before b ∧ b ∈ known ∧ (schema.supertypes b)[position]? = some s ∧
      s.record ∉ known ∧ schema.Route s.record after c := by
  induction h with
  | nil a => exact absurd ha hc
  | @cons a c s position steps hstep hrest ih =>
    by_cases hs : s.record ∈ known
    · obtain ⟨before, b, j, t, after, rfl, hbefore, hb, ht, hout, hafter⟩ := ih hs hc
      exact ⟨_ :: before, b, j, t, after, rfl, .cons hstep hbefore, hb, ht, hout, hafter⟩
    · exact ⟨[], a, position, s, steps, rfl, .nil a, ha, hstep, hs, hrest⟩

/-! ### The queue -/

/-- How far a search from `start` has come: `visited` are the records it is through with,
    `pending` the ones it found and has not visited, and `known` the names of all of them. -/
structure Explored (schema : Schema) (start : String) (visited pending : List Ancestor)
    (known : List String) : Prop where
  start_known : start ∈ known
  known_iff : ∀ name, name ∈ known ↔ name ∈ (visited ++ pending).map Ancestor.name
  route : ∀ a ∈ visited ++ pending, schema.Route start a.route a.name
  best : ∀ a ∈ visited ++ pending, ∀ steps, schema.Route start steps a.name →
    rank a.route ≤ rank steps
  sorted : (visited ++ pending).Pairwise fun a b => rank a.route < rank b.route
  closed : ∀ a ∈ visited, ∀ s ∈ schema.supertypes a.name, s.record ∈ known
  /-- Everything but the start was found from a record that was visited. -/
  found : ∀ a ∈ visited ++ pending, a.route = [] ∨
    ∃ b ∈ visited, ∃ step, a.route = b.route ++ [step]

theorem Explored.start (schema : Schema) (name : String) :
    schema.Explored name [] [⟨name, []⟩] [name] := by
  have hrank : ∀ steps, rank [] ≤ rank steps := fun steps => rank_le_append [] steps
  constructor <;> simp [hrank, Route.nil]

variable {start : String} {visited rest : List Ancestor} {a : Ancestor} {known : List String}

/-- A record that is not known yet has no better route than over a declaration of the
    record that is visited. -/
theorem Explored.rank_le (h : schema.Explored start visited (a :: rest) known)
    {s : Supertype} {position : Nat} (hnew : s.record ∉ known)
    (hfirst : ∀ (t : Supertype) other, (schema.supertypes a.name)[other]? = some t →
      t.record = s.record → position ≤ other) {steps : List Step}
    (hsteps : schema.Route start steps s.record) :
    rank (a.route ++ [⟨a.name, position, s⟩]) ≤ rank steps := by
  obtain ⟨before, b, other, t, after, rfl, hbefore, hb, ht, hout, hafter⟩ :=
    hsteps.exit h.start_known hnew
  obtain ⟨e, he, rfl⟩ := List.mem_map.mp ((h.known_iff b).mp hb)
  -- the step leaves the known records, so it starts from one that is still pending
  have hpending : e ∈ a :: rest := by
    rcases List.mem_append.mp he with hvisited | hpending
    · exact absurd (h.closed e hvisited t (List.mem_of_getElem? ht)) hout
    · exact hpending
  have hnearest : rank a.route ≤ rank e.route := by
    rcases List.mem_cons.mp hpending with rfl | hrest
    · exact le_rfl
    · have hsorted := (List.pairwise_append.mp h.sorted).2.1
      exact ((List.pairwise_cons.mp hsorted).1 e hrest).le
  have hthrough : rank (before ++ [⟨e.name, other, t⟩]) ≤
      rank (before ++ ⟨e.name, other, t⟩ :: after) := by
    rw [List.append_cons before _ after]
    exact rank_le_append _ _
  rcases (hnearest.trans (h.best e he before hbefore)).lt_or_eq with hlt | heq
  · exact ((rank_append_lt hlt _ _).trans_le hthrough).le
  · obtain ⟨rfl, hname⟩ := (h.route a (List.mem_append_right _ List.mem_cons_self)).eq_of_positions
      hbefore (positions_eq_of_rank_eq heq)
    cases after with
    | nil => exact rank_append_le_of_position (hfirst t other (hname ▸ ht) hafter.eq_of_nil)
    | cons _ _ =>
      refine (rank_lt_of_length ?_).le
      simp only [List.length_append, List.length_cons, List.length_nil]
      omega

/-- Everything that is known ranks before what the record that is visited leads to. -/
theorem Explored.rank_lt (h : schema.Explored start visited (a :: rest) known)
    {b : Ancestor} (hb : b ∈ visited ++ a :: rest) (step : Step) :
    rank b.route < rank (a.route ++ [step]) := by
  rcases h.found b hb with hstart | ⟨c, hc, last, hlast⟩
  · rw [hstart]
    exact rank_lt_of_length (by simp)
  · rw [hlast]
    have hca := (List.pairwise_append.mp h.sorted).2.2 c hc a List.mem_cons_self
    exact rank_append_lt hca _ _

/-- A visit keeps the search in order. -/
theorem Explored.visit (h : schema.Explored start visited (a :: rest) known) :
    let found := Ancestor.discover known a.name a.route (schema.supertypes a.name).zipIdx
    schema.Explored start (visited ++ [a]) (rest ++ found) (found.map Ancestor.name ++ known) := by
  intro found
  have hall : (visited ++ [a]) ++ (rest ++ found) = (visited ++ a :: rest) ++ found := by
    simp only [List.append_assoc, List.cons_append, List.nil_append]
  have hfound : ∀ b ∈ found, ∃ s position, (schema.supertypes a.name)[position]? = some s ∧
      s.record ∉ known ∧ b = ⟨s.record, a.route ++ [⟨a.name, position, s⟩]⟩ ∧
      ∀ (t : Supertype) other, (schema.supertypes a.name)[other]? = some t →
        t.record = s.record → position ≤ other := by
    intro b hb
    obtain ⟨s, position, hs, hnew, hb, hfirst⟩ :=
      Ancestor.of_mem_discover (zipIdx_sorted _) hb
    refine ⟨s, position, List.mem_zipIdx_iff_getElem?.mp hs, hnew, hb, ?_⟩
    intro t other ht
    exact hfirst t other (List.mem_zipIdx_iff_getElem?.mpr ht)
  have hroute := h.route a (List.mem_append_right _ List.mem_cons_self)
  constructor
  case start_known => exact List.mem_append_right _ h.start_known
  case known_iff =>
    intro name
    rw [hall, List.map_append, List.mem_append, List.mem_append, h.known_iff, or_comm]
  case route =>
    intro b hb
    rw [hall] at hb
    rcases List.mem_append.mp hb with hb | hb
    · exact h.route b hb
    · obtain ⟨s, position, hs, -, rfl, -⟩ := hfound b hb
      exact hroute.snoc hs
  case best =>
    intro b hb steps hsteps
    rw [hall] at hb
    rcases List.mem_append.mp hb with hb | hb
    · exact h.best b hb steps hsteps
    · obtain ⟨s, position, -, hnew, rfl, hfirst⟩ := hfound b hb
      exact h.rank_le hnew hfirst hsteps
  case sorted =>
    rw [hall, List.pairwise_append]
    refine ⟨h.sorted, Ancestor.discover_sorted _ _ _ (zipIdx_sorted _), ?_⟩
    intro b hb c hc
    obtain ⟨s, position, -, -, rfl, -⟩ := hfound c hc
    exact h.rank_lt hb _
  case closed =>
    intro b hb s hs
    rw [List.mem_append]
    rcases List.mem_append.mp hb with hb | hb
    · exact .inr (h.closed b hb s hs)
    · obtain rfl := List.mem_singleton.mp hb
      obtain ⟨position, hposition⟩ := List.mem_iff_getElem?.mp hs
      exact (Ancestor.mem_known_or_discover known b.name b.route
        (List.mem_zipIdx_iff_getElem?.mpr hposition)).symm
  case found =>
    intro b hb
    rw [hall] at hb
    rcases List.mem_append.mp hb with hb | hb
    · rcases h.found b hb with hstart | ⟨c, hc, hstep⟩
      · exact .inl hstart
      · exact .inr ⟨c, List.mem_append_left _ hc, hstep⟩
    · obtain ⟨s, position, -, -, rfl, -⟩ := hfound b hb
      exact .inr ⟨a, List.mem_append_right _ (List.mem_singleton_self a), _, rfl⟩

/-- When the queue has run empty, everything that was found is in order. -/
theorem Explored.search {pending : List Ancestor}
    (h : schema.Explored start visited pending known) : ∃ all,
      schema.Explored start (visited ++ pending ++ schema.search pending known) [] all := by
  -- along the search: each call has visited one record more, and the queue stays in order
  fun_induction schema.search pending known generalizing visited with
  | case1 known =>
    rw [List.append_nil, List.append_nil]
    exact ⟨known, h⟩
  | case2 known a rest found =>
    rename_i ih
    obtain ⟨all, hall⟩ := ih h.visit
    refine ⟨all, ?_⟩
    simpa only [List.append_assoc, List.cons_append, List.nil_append] using hall

/-! ### Supertypes -/

theorem explored_ancestors (schema : Schema) (name : String) : ∃ known,
    schema.Explored name (⟨name, []⟩ :: schema.ancestors name) [] known :=
  (Explored.start schema name).search

/-- Every ancestor is another record, reached along a route that ranks first. -/
theorem of_mem_ancestors {name : String} {a : Ancestor} (ha : a ∈ schema.ancestors name) :
    a.name ≠ name ∧ a.route ≠ [] ∧ schema.Route name a.route a.name ∧
      ∀ steps, schema.Route name steps a.name → rank a.route ≤ rank steps := by
  obtain ⟨known, h⟩ := schema.explored_ancestors name
  have hmem : a ∈ (⟨name, []⟩ :: schema.ancestors name) ++ [] := by
    rw [List.append_nil]
    exact List.mem_cons_of_mem _ ha
  have hsorted := h.sorted
  rw [List.append_nil] at hsorted
  have hafter : rank [] < rank a.route := (List.pairwise_cons.mp hsorted).1 a ha
  refine ⟨?_, ?_, h.route a hmem, h.best a hmem⟩
  · intro hname
    have hback := h.best a hmem [] (by rw [hname]; exact .nil name)
    exact absurd hafter hback.not_gt
  · intro hroute
    rw [hroute] at hafter
    exact absurd hafter (lt_irrefl _)

/-- Every other record that is reached is an ancestor. -/
theorem mem_ancestors_of_reaches {name c : String} (h : schema.Reaches name c) (hc : c ≠ name) :
    ∃ a ∈ schema.ancestors name, a.name = c := by
  obtain ⟨steps, hsteps⟩ := h
  obtain ⟨known, hknown⟩ := schema.explored_ancestors name
  have hmem : c ∈ known := by
    by_contra hout
    obtain ⟨-, b, position, s, -, -, -, hb, hs, hleft, -⟩ := hsteps.exit hknown.start_known hout
    obtain ⟨a, ha, rfl⟩ := List.mem_map.mp ((hknown.known_iff b).mp hb)
    rw [List.append_nil] at ha
    exact hleft (hknown.closed a ha s (List.mem_of_getElem? hs))
  obtain ⟨a, ha, rfl⟩ := List.mem_map.mp ((hknown.known_iff c).mp hmem)
  rw [List.append_nil] at ha
  rcases List.mem_cons.mp ha with rfl | ha
  · exact absurd rfl hc
  · exact ⟨a, ha, rfl⟩

/-- The conversion that is found is along the route of an ancestor. -/
theorem upcastFrom?_eq_some {name : String} {t : Ty} {u : Upcast}
    (h : schema.upcastFrom? name t = some u) : ∃ a ∈ schema.ancestors name,
      Ty.record a.name = t ∧ a.route = u.leading ++ [u.last] := by
  unfold upcastFrom? at h
  obtain ⟨a, hfind, h⟩ := Option.bind_eq_some_iff.mp h
  obtain ⟨last, hlast, h⟩ := Option.bind_eq_some_iff.mp h
  obtain rfl := Option.some.inj h
  refine ⟨a, List.mem_of_find?_eq_some hfind, by simpa using List.find?_some hfind, ?_⟩
  exact (List.dropLast_append_getLast? last hlast).symm

theorem upcastFrom?_isSome_iff {name : String} {t : Ty} : (schema.upcastFrom? name t).isSome ↔
    ∃ a ∈ schema.ancestors name, Ty.record a.name = t := by
  constructor
  · intro h
    obtain ⟨u, hu⟩ := Option.isSome_iff_exists.mp h
    obtain ⟨a, ha, hname, -⟩ := upcastFrom?_eq_some hu
    exact ⟨a, ha, hname⟩
  · rintro ⟨a, ha, hname⟩
    have hfound : ((schema.ancestors name).find? fun b => decide (Ty.record b.name = t)).isSome :=
      List.find?_isSome.mpr ⟨a, ha, decide_eq_true hname⟩
    obtain ⟨b, hb⟩ := Option.isSome_iff_exists.mp hfound
    have hroute := (of_mem_ancestors (List.mem_of_find?_eq_some hb)).2.1
    have hlast := List.getLast?_eq_some_getLast hroute
    simp only [upcastFrom?, hb, hlast, Option.bind_eq_bind, Option.bind_some, Option.pure_def,
      Option.isSome_some]

/-! ### Compatibility -/

end Schema

theorem ValueType.canonical_of_open {t : ValueType} (h : t.closed = false) :
    t.canonical = t.type.canonical := by
  simp [canonical, h]

theorem ValueType.recordName?_eq_some_iff {t : ValueType} {name : String} :
    t.recordName? = some name ↔ t.closed = false ∧ t.canonical = .record name := by
  unfold recordName?
  cases hclosed : t.closed with
  | true => simp
  | false =>
    rw [canonical_of_open hclosed]
    cases t.type.canonical <;> simp

theorem ValueType.isWildcard_of_record {t : ValueType} {name : String}
    (h : t.canonical = .record name) : t.isWildcard = false := by
  rw [isWildcard, h]
  rfl

theorem Ty.canonical_valueType (t : Ty) : t.valueType.canonical = t.canonical := by
  by_cases ht : t = .bytes
  · rw [ht]
    rfl
  · exact ValueType.canonical_of_open (decide_eq_false ht)

namespace Schema

variable {schema : Schema}

/-- A type leads to itself, and a record to every record it reaches. -/
def Leads (schema : Schema) (a b : Ty) : Prop :=
  a = b ∨ ∃ m n, a = .record m ∧ b = .record n ∧ schema.Reaches m n

theorem isSubtype_iff {name : String} {t : Ty} :
    schema.isSubtype name t = true ↔ schema.Leads (.record name) t := by
  rw [isSubtype, Bool.or_eq_true, decide_eq_true_eq, upcastFrom?_isSome_iff]
  constructor
  · rintro (rfl | ⟨a, ha, rfl⟩)
    · exact .inl rfl
    · exact .inr ⟨name, a.name, rfl, rfl, a.route, (of_mem_ancestors ha).2.2.1⟩
  · rintro (rfl | ⟨m, n, hm, rfl, hreach⟩)
    · exact .inl rfl
    · obtain rfl := Ty.record.inj hm
      by_cases hn : n = name
      · exact .inl (congrArg Ty.record hn.symm)
      · obtain ⟨a, ha, rfl⟩ := mem_ancestors_of_reaches hreach hn
        exact .inr ⟨a, ha, rfl⟩

/-- A record without a declaration reaches itself only. -/
theorem Reaches.eq_of_undeclared {m n : String} (h : schema.Reaches m n)
    (hm : schema.record? m = none) : m = n := by
  obtain ⟨steps, hsteps⟩ := h
  cases hsteps with
  | nil => rfl
  | cons hstep _ => simp [supertypes, hm] at hstep

/-- A closed type declares nothing, whatever its record declares. -/
theorem isA_iff {a b : ValueType} : schema.isA a b = true ↔
    a.canonical = b.canonical ∨ a.closed = false ∧ schema.Leads a.canonical b.canonical := by
  rw [isA, Bool.or_eq_true, decide_eq_true_eq]
  constructor
  · rintro (hsame | hdeclared)
    · exact .inl hsame
    · cases hr : schema.recordOf? a with
      | none =>
        rw [hr] at hdeclared
        cases hdeclared
      | some r =>
        rw [hr] at hdeclared
        obtain ⟨name, hname, hrecord⟩ := Option.bind_eq_some_iff.mp hr
        obtain ⟨hopen, hcanonical⟩ := ValueType.recordName?_eq_some_iff.mp hname
        rw [hcanonical, ← name_of_record? hrecord]
        exact .inr ⟨hopen, isSubtype_iff.mp hdeclared⟩
  · rintro (hsame | ⟨hopen, hsame | ⟨m, n, hm, hn, hreach⟩⟩)
    · exact .inl hsame
    · exact .inl hsame
    · cases hrecord : schema.record? m with
      | none =>
        rw [hm, hn, hreach.eq_of_undeclared hrecord]
        exact .inl rfl
      | some r =>
        have hname := ValueType.recordName?_eq_some_iff.mpr ⟨hopen, hm⟩
        have hr : schema.recordOf? a = some r := by
          rw [recordOf?, hname, Option.bind_some, hrecord]
        rw [hr]
        refine .inr (isSubtype_iff.mpr (.inr ⟨m, n, ?_, hn, hreach⟩))
        rw [name_of_record? hrecord]

/-- A conversion between two types is along a route between their records. -/
theorem upcast?_eq_some {a b : ValueType} {u : Upcast} (h : schema.upcast? a b = some u) :
    a.canonical ≠ b.canonical ∧ a.closed = false ∧ ∃ m n, a.canonical = .record m ∧
      b.canonical = .record n ∧ schema.Route m (u.leading ++ [u.last]) n := by
  unfold upcast? at h
  split at h
  · cases h
  · rename_i hne
    obtain ⟨r, hr, hfrom⟩ := Option.bind_eq_some_iff.mp h
    obtain ⟨name, hname, hrecord⟩ := Option.bind_eq_some_iff.mp hr
    obtain rfl := name_of_record? hrecord
    obtain ⟨hopen, hcanonical⟩ := ValueType.recordName?_eq_some_iff.mp hname
    obtain ⟨ancestor, hancestor, htype, hroute⟩ := upcastFrom?_eq_some hfrom
    refine ⟨hne, hopen, r.name, ancestor.name, hcanonical, htype.symm, ?_⟩
    rw [← hroute]
    exact (of_mem_ancestors hancestor).2.2.1

theorem compatible_iff {a b : ValueType} : schema.compatible (some a) (some b) = true ↔
    a.canonical = .wildcard ∨ b.canonical = .wildcard ∨ a.canonical = b.canonical ∨
      a.closed = false ∧ schema.Leads a.canonical b.canonical ∨
      b.closed = false ∧ schema.Leads b.canonical a.canonical := by
  rw [compatible, Bool.or_eq_true, Bool.or_eq_true, Bool.or_eq_true, isA_iff, isA_iff,
    ValueType.isWildcard, ValueType.isWildcard, decide_eq_true_eq, decide_eq_true_eq,
    eq_comm (a := b.canonical)]
  tauto

/-- Of the types that fields are declared with only bytes are closed, and bytes lead to
    nothing else. -/
theorem compatible_valueType_iff {a b : Ty} :
    schema.compatible (some a.valueType) (some b.valueType) = true ↔
      a.canonical = .wildcard ∨ b.canonical = .wildcard ∨
        schema.Leads a.canonical b.canonical ∨ schema.Leads b.canonical a.canonical := by
  have hopen : ∀ {t u : Ty}, schema.Leads t.canonical u → t.canonical = u ∨
      t.valueType.closed = false := by
    intro t u h
    rcases h with hsame | ⟨m, n, hm, -, -⟩
    · exact .inl hsame
    · refine .inr (decide_eq_false ?_)
      rintro rfl
      cases hm
  rw [compatible_iff, Ty.canonical_valueType, Ty.canonical_valueType]
  refine or_congr_right (or_congr_right ?_)
  constructor
  · rintro (hsame | ⟨-, h⟩ | ⟨-, h⟩)
    · exact .inl (.inl hsame)
    · exact .inl h
    · exact .inr h
  · rintro (h | h)
    · rcases hopen h with hsame | hopen
      · exact .inl hsame
      · exact .inr (.inl ⟨hopen, h⟩)
    · rcases hopen h with hsame | hopen
      · exact .inl hsame.symm
      · exact .inr (.inr ⟨hopen, h⟩)

/-- A conversion is found exactly for what is reached by one or more declared steps.  It
    follows a shortest route, and among the shortest the one that is declared first.  Two
    types are compatible when one of them is the wildcard or leads to the other. -/
theorem upcastFrom?_shortest (schema : Schema) :
    (∀ a c, (schema.upcastFrom? a (.record c)).isSome ↔
      c ≠ a ∧ ∃ steps, steps ≠ [] ∧ schema.Route a steps c) ∧
    (∀ a c u, schema.upcastFrom? a (.record c) = some u →
      schema.Route a (u.leading ++ [u.last]) c ∧
      ∀ steps, schema.Route a steps c → (u.leading ++ [u.last]).length ≤ steps.length ∧
        ((u.leading ++ [u.last]).length = steps.length →
          (u.leading ++ [u.last]).map Step.position ≤ steps.map Step.position)) ∧
    (∀ a b : ValueType, schema.compatible (some a) (some b) = true ↔
      a.canonical = .wildcard ∨ b.canonical = .wildcard ∨ a.canonical = b.canonical ∨
        a.closed = false ∧ schema.Leads a.canonical b.canonical ∨
        b.closed = false ∧ schema.Leads b.canonical a.canonical) ∧
    (∀ a b : Ty, schema.compatible (some a.valueType) (some b.valueType) = true ↔
      a.canonical = .wildcard ∨ b.canonical = .wildcard ∨
        schema.Leads a.canonical b.canonical ∨ schema.Leads b.canonical a.canonical) := by
  refine ⟨?found, ?shortest, fun a b => compatible_iff, fun a b => compatible_valueType_iff⟩
  case found =>
    intro a c
    rw [upcastFrom?_isSome_iff]
    constructor
    · rintro ⟨ancestor, hmem, hname⟩
      obtain rfl := Ty.record.inj hname
      obtain ⟨hne, hsteps, hroute, -⟩ := of_mem_ancestors hmem
      exact ⟨hne, ancestor.route, hsteps, hroute⟩
    · rintro ⟨hne, steps, -, hroute⟩
      obtain ⟨ancestor, hmem, rfl⟩ := mem_ancestors_of_reaches ⟨steps, hroute⟩ hne
      exact ⟨ancestor, hmem, rfl⟩
  case shortest =>
    intro a c u hu
    obtain ⟨ancestor, hmem, hname, hsteps⟩ := upcastFrom?_eq_some hu
    obtain rfl := Ty.record.inj hname
    obtain ⟨-, -, hroute, hbest⟩ := of_mem_ancestors hmem
    rw [hsteps] at hroute hbest
    refine ⟨hroute, ?_⟩
    intro steps hother
    rcases rank_le_rank_iff.mp (hbest steps hother) with hlength | ⟨hlength, hpositions⟩
    · exact ⟨hlength.le, fun hsame => absurd hsame hlength.ne⟩
    · exact ⟨hlength.le, fun _ => hpositions⟩

end Schema

end RecordCopy
