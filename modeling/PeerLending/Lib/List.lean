/-!
# Lists: mapping into `Except`, and appends that differ in one place

`l.mapM f` in `Except` succeeds exactly when `f` succeeds on every member, and when it fails it
fails with the error of some member. Views of a snapshot are built that way, one per position,
and these two facts are what the proofs about them read.
-/

set_option autoImplicit false

namespace List

variable {α β ε : Type}

/-- A map into `Except` succeeds exactly when the function succeeds on every member. -/
theorem exists_mapM_eq_ok_iff {f : α → Except ε β} :
    ∀ {l : List α}, (∃ ys, l.mapM f = .ok ys) ↔ ∀ x ∈ l, ∃ y, f x = .ok y
  | [] => ⟨fun _ _ hx => (by cases hx), fun _ => ⟨[], rfl⟩⟩
  | z :: rest => by
    simp only [List.mapM_cons, bind, Except.bind]
    cases hz : f z with
    | error e =>
      refine ⟨fun ⟨_, h⟩ => (by cases h), fun h => ?_⟩
      obtain ⟨y, hy⟩ := h z List.mem_cons_self
      rw [hz] at hy
      cases hy
    | ok y =>
      -- the head succeeds: the map succeeds as the map of the rest does
      have hrest := exists_mapM_eq_ok_iff (f := f) (l := rest)
      constructor
      · rintro ⟨ys, h⟩ x hx
        cases hr : rest.mapM f with
        | error e =>
          rw [hr] at h
          cases h
        | ok ys' =>
          rcases List.mem_cons.1 hx with rfl | hx
          · exact ⟨y, hz⟩
          · exact hrest.1 ⟨ys', hr⟩ x hx
      · intro h
        obtain ⟨ys, hys⟩ := hrest.2 fun x hx => h x (List.mem_cons_of_mem z hx)
        exact ⟨y :: ys, by rw [hys]; rfl⟩

/-- A map into `Except` that fails fails with the error of some member. -/
theorem exists_mem_eq_error_of_mapM {f : α → Except ε β} {e : ε} :
    ∀ {l : List α}, l.mapM f = .error e → ∃ x ∈ l, f x = .error e
  | [], h => by cases h
  | z :: rest, h => by
    simp only [List.mapM_cons, bind, Except.bind] at h
    cases hz : f z with
    | error e' =>
      rw [hz] at h
      cases h
      exact ⟨z, List.mem_cons_self, hz⟩
    | ok y =>
      rw [hz] at h
      cases hrest : rest.mapM f with
      | error e' =>
        rw [hrest] at h
        cases h
        obtain ⟨x, hx, hfx⟩ := exists_mem_eq_error_of_mapM hrest
        exact ⟨x, List.mem_cons_of_mem z hx, hfx⟩
      | ok ys =>
        rw [hrest] at h
        cases h

/-- Two lists that share a start and differ at most in the first element after it. -/
theorem getElem?_append_of_drop_one {l a b : List α} (h : a.drop 1 = b.drop 1)
    {j : Nat} (hj : j ≠ l.length) : (l ++ a)[j]? = (l ++ b)[j]? := by
  rcases Nat.lt_or_gt_of_ne hj with hlt | hgt
  · rw [List.getElem?_append_left hlt, List.getElem?_append_left hlt]
  · rw [List.getElem?_append_right (Nat.le_of_lt hgt), List.getElem?_append_right (Nat.le_of_lt hgt)]
    obtain ⟨k, hk⟩ : ∃ k, j - l.length = 1 + k := ⟨j - l.length - 1, by omega⟩
    rw [hk, ← List.getElem?_drop, ← List.getElem?_drop, h]

end List
