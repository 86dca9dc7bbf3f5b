import RecordCopy.Schema
/-!
# Supertypes and compatibility

A record type declares supertypes, and those declare theirs, possibly in circles.
`Schema.ancestors` lists everything reached from a record, each record once and with
the declared steps that lead to it: nearest first, and among equally near ones in
the order of declaration.  `Schema.Reaches` is the relation it searches, one
declared step after the other.

A value is converted along these steps.  All but the last make an intermediate
value; the last one puts the result into the slot.
-/
namespace RecordCopy

/-! ### Steps -/

structure Step where
  sub : String
  /-- Which of the declarations of `sub` the step is. -/
  position : Nat
  supertype : Supertype

namespace Step

/-- The value of the lower record that `v` is or holds as an option: nothing if `v`
    is of another type, and `some none` for an absent option. -/
def source? (s : Step) (v : Value) : Option (Option Value) :=
  match v.as? (.record s.sub) with
  | some w => some (some w)
  | none =>
    if v.type = .option (.record s.sub) then some (v.payload? (.record s.sub)) else none

def convert (s : Step) (v : Value) : Option Value :=
  match v.as? (.record s.sub) with
  | some w => some (s.supertype.convert w)
  | none =>
    match s.source? v with
    | some none => some (.absent (.record s.supertype.record))
    | some (some w) => some (.present (s.supertype.convert w))
    | none => none

/-- Convert `v` into a slot for the supertype, or for an option of it. -/
def store (s : Step) (slot v : Value) : Stored :=
  match s.source? v with
  | none => .refused slot
  | some content =>
    if slot.type = .option (.record s.supertype.record) then
      match content with
      | none => .took (.absent (.record s.supertype.record))
      | some w => .took (.present (s.supertype.convert w))
    else if slot.type = .record s.supertype.record then
      match content with
      | none => .refused slot
      | some w => .took (s.supertype.convert w)
    else .refused slot

def assign (s : Step) (slot v : Value) : Option Value := (s.store slot v).result?

/-- An option takes what is converted as it is, a record only what is there. -/
theorem assign_eq (s : Step) (slot v : Value) : s.assign slot v =
    match s.source? v with
    | none => none
    | some content =>
      if slot.type = .option (.record s.supertype.record) then
        match content with
        | none => some (.absent (.record s.supertype.record))
        | some w => some (.present (s.supertype.convert w))
      else if slot.type = .record s.supertype.record then
        content.map s.supertype.convert
      else none := by
  unfold assign store
  split
  · rfl
  · rename_i content _
    split
    · cases content <;> rfl
    · split
      · cases content <;> rfl
      · rfl

/-- A slot that nothing is converted into holds what it held. -/
theorem content_store_of_refused {s : Step} {slot v : Value}
    (h : (s.store slot v).taken = false) : (s.store slot v).content = slot := by
  revert h
  unfold store
  split
  · exact fun _ => rfl
  · rename_i content _
    split
    · cases content <;> exact nofun
    · split
      · cases content
        · exact fun _ => rfl
        · exact nofun
      · exact fun _ => rfl

end Step

/-- The conversion into a supertype: steps to intermediate values, and the last one. -/
structure Upcast where
  leading : List Step
  last : Step

def Upcast.lead (u : Upcast) (v : Value) : Option Value :=
  u.leading.foldlM (fun w s => s.convert w) v

/-! ### The search -/

structure Ancestor where
  name : String
  route : List Step

namespace Ancestor

/-- Those of the declared supertypes that are not known yet, each one once. -/
def discover (known : List String) (sub : String) (route : List Step) :
    List (Supertype × Nat) → List Ancestor
  | [] => []
  | (s, position) :: rest =>
    if s.record ∈ known then discover known sub route rest
    else ⟨s.record, route ++ [⟨sub, position, s⟩]⟩ ::
      discover (s.record :: known) sub route rest

def unknown (names known : List String) : Nat := (names.filter fun n => decide (n ∉ known)).length

theorem unknown_cons_lt {names known : List String} {n : String} (hn : n ∈ names)
    (hk : n ∉ known) : unknown names (n :: known) < unknown names known := by
  unfold unknown
  induction names with
  | nil => cases hn
  | cons m ms ih =>
    have hle : ∀ l : List String, (l.filter fun x => decide (x ∉ n :: known)).length ≤
        (l.filter fun x => decide (x ∉ known)).length := by
      intro l
      induction l with
      | nil => exact Nat.le_refl _
      | cons x xs ihx =>
        by_cases hx : x ∈ known
        · simpa [hx] using ihx
        · by_cases hxn : x = n
          · simp only [List.filter_cons, hxn, hk]
            simp
            simp at ihx
            omega
          · simp [hx, hxn] at ihx ⊢
            exact ihx
    by_cases hmn : m = n
    · have h := hle ms
      subst hmn
      simp only [List.filter_cons, hk]
      simp at h ⊢
      omega
    · have h := ih (by simpa [Ne.symm hmn] using hn)
      by_cases hm : m ∈ known
      · simpa [hm] using h
      · simp [hm, hmn] at h ⊢
        exact h

/-- Every record discovered uses up one of the names not known before. -/
theorem discover_unknown {names : List String} (sub : String) (route : List Step) :
    ∀ (supertypes : List (Supertype × Nat)) (known : List String),
      (∀ s ∈ supertypes, s.1.record ∈ names) →
      unknown names ((discover known sub route supertypes).map Ancestor.name ++ known) +
        (discover known sub route supertypes).length ≤ unknown names known := by
  intro supertypes
  induction supertypes with
  | nil => intro known _; simp [discover]
  | cons s rest ih =>
    intro known hs
    unfold discover
    split
    · exact ih known fun x hx => hs x (List.mem_cons_of_mem _ hx)
    · rename_i hk
      have hlt := unknown_cons_lt (hs s List.mem_cons_self) hk
      have hrest := ih (s.1.record :: known) fun x hx => hs x (List.mem_cons_of_mem _ hx)
      have hperm : unknown names ((discover (s.1.record :: known) sub route rest).map name ++
          s.1.record :: known) = unknown names
          (s.1.record :: ((discover (s.1.record :: known) sub route rest).map name ++ known)) := by
        unfold unknown
        congr 2
        funext n
        simp only [List.mem_append, List.mem_cons]
        congr 1
        exact propext ⟨fun h g => h (by rcases g with g | g | g <;> simp [g]),
          fun h g => h (by rcases g with g | g | g <;> simp [g])⟩
      simp only [List.map_cons, List.cons_append, List.length_cons]
      omega

end Ancestor

namespace Schema

def supertypes (schema : Schema) (name : String) : List Supertype :=
  match schema.record? name with
  | some r => r.supertypes
  | none => []

def supertypeNames (schema : Schema) : List String :=
  schema.records.flatMap fun r => r.supertypes.map Supertype.record

theorem mem_supertypeNames {schema : Schema} {name : String} {s : Supertype × Nat}
    (h : s ∈ (schema.supertypes name).zipIdx) : s.1.record ∈ schema.supertypeNames := by
  have hs : s.1 ∈ schema.supertypes name := (List.mem_zipIdx' h).2 ▸ List.getElem_mem _
  unfold supertypes at hs
  split at hs
  · rename_i r hr
    exact List.mem_flatMap.mpr ⟨r, mem_of_record? hr, List.mem_map_of_mem hs⟩
  · cases hs

/-- Everything discovered from the pending records on, each one visited in turn. -/
def search (schema : Schema) (pending : List Ancestor) (known : List String) : List Ancestor :=
  match pending with
  | [] => []
  | a :: rest =>
    let found := Ancestor.discover known a.name a.route (schema.supertypes a.name).zipIdx
    found ++ search schema (rest ++ found) (found.map Ancestor.name ++ known)
termination_by Ancestor.unknown schema.supertypeNames known + pending.length
decreasing_by
  have := Ancestor.discover_unknown a.name a.route (schema.supertypes a.name).zipIdx known
    (fun _ hs => mem_supertypeNames hs)
  simp only [List.length_append, List.length_cons]
  omega

/-- The records reached from a record, nearest first. -/
def ancestors (schema : Schema) (name : String) : List Ancestor :=
  schema.search [⟨name, []⟩] [name]

/-- The steps from a record to a canonical type, if that is a proper supertype. -/
def upcastFrom? (schema : Schema) (name : String) (canonical : Ty) : Option Upcast := do
  let ancestor ← (schema.ancestors name).find? fun a => decide (Ty.record a.name = canonical)
  let last ← ancestor.route.getLast?
  return ⟨ancestor.route.dropLast, last⟩

/-- Whether a canonical type is the record itself or one of its supertypes. -/
def isSubtype (schema : Schema) (name : String) (canonical : Ty) : Bool :=
  decide (Ty.record name = canonical) || (schema.upcastFrom? name canonical).isSome

/-! ### Between types of fields -/

/-- The same canonical type, or a record and one of its supertypes. -/
def isA (schema : Schema) (a b : ValueType) : Bool :=
  decide (a.canonical = b.canonical) ||
    match schema.recordOf? a with
    | some r => schema.isSubtype r.name b.canonical
    | none => false

def upcast? (schema : Schema) (a b : ValueType) : Option Upcast :=
  if a.canonical = b.canonical then none
  else (schema.recordOf? a).bind fun r => schema.upcastFrom? r.name b.canonical

/-- Whether a field of one type may be copied into a field of another: one of the
    two is a wildcard, or they are of one kin.  Nothing is compatible with a type
    that is not there. -/
def compatible (schema : Schema) : Option ValueType → Option ValueType → Bool
  | some a, some b => a.isWildcard || b.isWildcard || schema.isA a b || schema.isA b a
  | _, _ => false

/-! ### The relation that is searched -/

inductive Route (schema : Schema) : String → List Step → String → Prop where
  | nil (a : String) : Route schema a [] a
  | cons {a c : String} {s : Supertype} {position : Nat} {steps : List Step} :
    (schema.supertypes a)[position]? = some s → Route schema s.record steps c →
      Route schema a (⟨a, position, s⟩ :: steps) c

/-- A record is reached from another one by declared steps, possibly by none. -/
def Reaches (schema : Schema) (a c : String) : Prop := ∃ steps, schema.Route a steps c

end Schema

end RecordCopy
