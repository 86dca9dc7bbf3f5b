import Mathlib.Data.List.Forall2

/-!
# Reading every element of a list

A text comes apart into a list, and is read by reading the elements of the list one by one: a path
piece by piece, a declaration field by field, an attribute item by item.  All of them have to be
read for the whole to be read, and what is read of the whole is then what is read of each.

A loop may also take in what it reads as it goes on, and fail at either.  Where it does not fail,
it has read everything, and it leaves what the same loop leaves that never fails.
-/

namespace RecordCopy

/-! ### Reading that says why it fails -/

theorem mapM_eq_ok_iff {α β ε : Type} {f : α → Except ε β} {xs : List α} {ys : List β} :
    xs.mapM f = .ok ys ↔ List.Forall₂ (fun x y => f x = .ok y) xs ys := by
  induction xs generalizing ys with
  | nil => cases ys <;> simp [pure, Except.pure]
  | cons x rest ih =>
    rw [List.mapM_cons]
    cases hfirst : f x with
    | error e => cases ys <;> simp [bind, Except.bind, hfirst]
    | ok y =>
      cases hrest : rest.mapM f with
      | error e => cases ys <;> simp [bind, Except.bind, ← ih, hfirst, hrest]
      | ok more => cases ys <;> simp [bind, Except.bind, pure, Except.pure, ← ih, hfirst, hrest]

/-- A loop that reads each item before it takes it in reads all of them. -/
theorem exists_mapM_of_foldlM {α β σ ε : Type} {read : α → Except ε β} {add : σ → β → Except ε σ}
    {xs : List α} {s t : σ} (h : xs.foldlM (fun s x => (read x).bind (add s)) s = .ok t) :
    ∃ ys, xs.mapM read = .ok ys ∧ ys.foldlM add s = .ok t := by
  induction xs generalizing s with
  | nil => exact ⟨[], rfl, h⟩
  | cons x rest ih =>
    rw [List.foldlM_cons] at h
    cases hread : read x with
    | error e =>
      rw [hread] at h
      cases h
    | ok y =>
      cases hadd : add s y with
      | error e =>
        simp only [hread, Except.bind, hadd] at h
        cases h
      | ok next =>
        simp only [hread, Except.bind, hadd] at h
        obtain ⟨ys, hys, hfold⟩ := ih h
        refine ⟨y :: ys, ?_, ?_⟩
        · rw [List.mapM_cons, hread, hys]
          rfl
        · rw [List.foldlM_cons, hadd]
          exact hfold

/-- Where all items can be read, the loop comes to what it does with what is read. -/
theorem foldlM_of_mapM {α β σ ε : Type} {read : α → Except ε β} (add : σ → β → Except ε σ)
    {xs : List α} {ys : List β} (h : xs.mapM read = .ok ys) (s : σ) :
    xs.foldlM (fun s x => (read x).bind (add s)) s = ys.foldlM add s := by
  induction mapM_eq_ok_iff.mp h generalizing s with
  | nil => rfl
  | @cons x y rest more hfirst hrest ih =>
    rw [List.foldlM_cons, List.foldlM_cons, hfirst]
    change (add s y).bind _ = (add s y).bind _
    cases add s y with
    | error e => rfl
    | ok next => exact ih (mapM_eq_ok_iff.mpr hrest) next

/-- Seen through a view that every step acts on, a loop that may fail is one that does not. -/
theorem view_foldlM {α σ ε ν : Type} {step : σ → α → Except ε σ} (view : σ → ν) (act : ν → α → ν)
    (hstep : ∀ s t x, step s x = .ok t → view t = act (view s) x) {xs : List α} {s t : σ}
    (h : xs.foldlM step s = .ok t) : view t = xs.foldl act (view s) := by
  induction xs generalizing s with
  | nil =>
    obtain rfl := Except.ok.inj h
    rfl
  | cons x rest ih =>
    rw [List.foldlM_cons] at h
    cases hfirst : step s x with
    | error e =>
      rw [hfirst] at h
      cases h
    | ok next =>
      rw [hfirst] at h
      rw [ih h, hstep s next x hfirst, List.foldl_cons]

/-! ### Reading that just fails -/

theorem mapM_eq_some_iff {α β : Type} {f : α → Option β} {xs : List α} {ys : List β} :
    xs.mapM f = some ys ↔ xs.map f = ys.map some := by
  induction xs generalizing ys with
  | nil => cases ys <;> simp
  | cons x rest ih =>
    rw [List.mapM_cons]
    cases hfirst : f x with
    | none => cases ys <;> simp [hfirst]
    | some y =>
      cases hrest : rest.mapM f with
      | none => cases ys <;> simp [hfirst, hrest, ← ih]
      | some more => cases ys <;> simp [hfirst, hrest, ← ih]

theorem mapM_eq_none_iff {α β : Type} {f : α → Option β} {xs : List α} :
    xs.mapM f = none ↔ ∃ x ∈ xs, f x = none := by
  induction xs with
  | nil => simp
  | cons x rest ih =>
    rw [List.mapM_cons]
    cases hfirst : f x with
    | none => simp [hfirst]
    | some y =>
      cases hrest : rest.mapM f with
      | none => simp [hfirst, hrest, ← ih]
      | some more => simp [hfirst, hrest, ← ih]

theorem exists_of_mem_mapM {α β : Type} {f : α → Option β} {xs : List α} {ys : List β}
    (h : xs.mapM f = some ys) : ∀ y ∈ ys, ∃ x ∈ xs, f x = some y := by
  intro y hy
  have hmem : some y ∈ xs.map f := by
    rw [mapM_eq_some_iff.mp h]
    exact List.mem_map_of_mem hy
  exact List.mem_map.mp hmem

/-- Where everything that is read is given by a function, the whole is given by it. -/
theorem eq_map_of_mapM {α β : Type} {f : α → Option β} {g : α → β} {xs : List α} {ys : List β}
    (hg : ∀ x y, f x = some y → g x = y) (h : xs.mapM f = some ys) : ys = xs.map g := by
  have hmap := mapM_eq_some_iff.mp h
  have hgiven : (xs.map g).map some = xs.map f := by
    rw [List.map_map]
    apply List.map_congr_left
    intro x hx
    have hmem : f x ∈ ys.map some := by
      rw [← hmap]
      exact List.mem_map_of_mem hx
    obtain ⟨y, -, hy⟩ := List.mem_map.mp hmem
    rw [← hy, Function.comp_apply, hg x y hy.symm]
  exact (List.map_inj_right fun _ _ => Option.some.inj).mp (hmap.symm.trans hgiven.symm)

end RecordCopy
