import Mathlib.Data.List.Basic
import Mathlib.Tactic.Common

/-!
# Rectangular grids

A grid of cells in rows of one width. Cells are written one by one, and a write
that misses the grid has no result. A batch of writes leaves every other cell
alone.
-/

namespace QtAppBase.Library

variable {α : Type*}

/-- Rows of cells, all of the same width. -/
@[ext] structure Grid (α : Type*) where
  width : ℕ
  rows : List (List α)
  /-- Every row has the width. -/
  rectangular : ∀ row ∈ rows, row.length = width

namespace Grid

variable {g g' : Grid α} {row col : ℕ} {a : α} {writes : List (ℕ × ℕ × α)}

def height (g : Grid α) : ℕ := g.rows.length

/-- The grid has a cell there. -/
def Has (g : Grid α) (row col : ℕ) : Prop := row < g.height ∧ col < g.width

instance (g : Grid α) (row col : ℕ) : Decidable (g.Has row col) :=
  inferInstanceAs (Decidable (_ ∧ _))

/-- The content of a cell. -/
def get? (g : Grid α) (row col : ℕ) : Option α := g.rows[row]?.bind (·[col]?)

/-- The grid whose cells are computed from their position. -/
def ofFn (height width : ℕ) (f : ℕ → ℕ → α) : Grid α where
  width := width
  rows := (List.range height).map fun row => (List.range width).map (f row)
  rectangular := by
    intro row hrow
    obtain ⟨_, _, rfl⟩ := List.mem_map.mp hrow
    rw [List.length_map, List.length_range]

/-- Write a cell, if the grid has it. -/
def put (row col : ℕ) (a : α) (g : Grid α) : Option (Grid α) :=
  if g.Has row col then
    some {
      width := g.width
      rows := g.rows.modify row (·.set col a)
      rectangular := by
        intro cells hcells
        obtain ⟨i, hi, rfl⟩ := List.mem_iff_getElem.mp hcells
        rw [List.length_modify] at hi
        have hold := g.rectangular _ (List.getElem_mem hi)
        rw [List.getElem_modify]
        split_ifs
        · rw [List.length_set, hold]
        · exact hold }
  else none

/-- Write cells, one after another. -/
def putAll (writes : List (ℕ × ℕ × α)) (g : Grid α) : Option (Grid α) :=
  writes.foldlM (fun g w => g.put w.1 w.2.1 w.2.2) g

@[simp] theorem height_ofFn (height width : ℕ) (f : ℕ → ℕ → α) :
    (ofFn height width f).height = height := by
  simp [Grid.height, ofFn]

@[simp] theorem width_ofFn (height width : ℕ) (f : ℕ → ℕ → α) :
    (ofFn height width f).width = width := rfl

theorem get?_ofFn {height width : ℕ} {f : ℕ → ℕ → α} (hrow : row < height) (hcol : col < width) :
    (ofFn height width f).get? row col = some (f row col) := by
  simp [get?, ofFn, hrow, hcol]

/-! ### One write -/

theorem put_isSome : (g.put row col a).isSome ↔ g.Has row col := by
  unfold put
  split_ifs with hhas <;> simp [hhas]

/-- A write keeps the size. -/
theorem put_size (h : g.put row col a = some g') : g'.height = g.height ∧ g'.width = g.width := by
  unfold put at h
  split_ifs at h
  obtain rfl := Option.some.inj h
  exact ⟨List.length_modify _ _ _, rfl⟩

/-- The written cell has the new content, the others keep theirs. -/
theorem get?_put (h : g.put row col a = some g') (i j : ℕ) :
    g'.get? i j = if i = row ∧ j = col then some a else g.get? i j := by
  unfold put at h
  split_ifs at h with hhas
  obtain rfl := Option.some.inj h
  obtain ⟨hrow, hcol⟩ := hhas
  have hrow' : row < g.rows.length := hrow
  have hlength := g.rectangular _ (List.getElem_mem hrow')
  unfold get?
  dsimp only
  rw [List.getElem?_modify]
  by_cases hi : i = row
  · subst hi
    rw [List.getElem?_eq_getElem hrow']
    by_cases hj : j = col
    · subst hj
      simp [hlength, hcol]
    · simp [hj, List.getElem?_set_ne (Ne.symm hj)]
  · simp [hi, Ne.symm hi]

/-! ### A batch of writes -/

/-- A batch keeps the size. -/
theorem putAll_size (h : g.putAll writes = some g') :
    g'.height = g.height ∧ g'.width = g.width := by
  induction writes generalizing g with
  | nil =>
    obtain rfl := Option.some.inj h
    exact ⟨rfl, rfl⟩
  | cons w writes ih =>
    obtain ⟨next, hfirst, hrest⟩ := Option.bind_eq_some_iff.mp h
    obtain ⟨hheight, hwidth⟩ := put_size hfirst
    obtain ⟨hheight', hwidth'⟩ := ih hrest
    exact ⟨hheight'.trans hheight, hwidth'.trans hwidth⟩

/-- A batch has a result exactly when none of its writes misses the grid. -/
theorem putAll_isSome_iff : (g.putAll writes).isSome ↔ ∀ w ∈ writes, g.Has w.1 w.2.1 := by
  induction writes generalizing g with
  | nil => exact iff_of_true rfl nofun
  | cons w writes ih =>
    rw [List.forall_mem_cons]
    have hcons : g.putAll (w :: writes) = (g.put w.1 w.2.1 w.2.2).bind (·.putAll writes) := rfl
    rw [hcons]
    cases hfirst : g.put w.1 w.2.1 w.2.2 with
    | none =>
      refine iff_of_false nofun fun h => ?_
      have hhas : (g.put w.1 w.2.1 w.2.2).isSome := put_isSome.mpr h.1
      rw [hfirst] at hhas
      cases hhas
    | some next =>
      have hhas : g.Has w.1 w.2.1 := put_isSome.mp (by rw [hfirst]; rfl)
      obtain ⟨hheight, hwidth⟩ := put_size hfirst
      rw [Option.bind_some, ih, and_iff_right hhas]
      unfold Has
      rw [hheight, hwidth]

/-- A cell that no write is about keeps its content. -/
theorem get?_putAll_of_notMem (h : g.putAll writes = some g')
    (hother : ∀ w ∈ writes, ¬(row = w.1 ∧ col = w.2.1)) : g'.get? row col = g.get? row col := by
  induction writes generalizing g with
  | nil => rw [Option.some.inj h]
  | cons w writes ih =>
    obtain ⟨next, hfirst, hrest⟩ := Option.bind_eq_some_iff.mp h
    obtain ⟨hw, hother⟩ := List.forall_mem_cons.mp hother
    rw [ih hrest hother, get?_put hfirst, if_neg hw]

/-- A cell has the content that all the writes to it agree on. -/
theorem get?_putAll_of_mem (h : g.putAll writes = some g') (hmem : (row, col, a) ∈ writes)
    (hagree : ∀ w ∈ writes, row = w.1 ∧ col = w.2.1 → w.2.2 = a) :
    g'.get? row col = some a := by
  induction writes generalizing g with
  | nil => cases hmem
  | cons w writes ih =>
    obtain ⟨next, hfirst, hrest⟩ := Option.bind_eq_some_iff.mp h
    have hrestagree : ∀ w ∈ writes, row = w.1 ∧ col = w.2.1 → w.2.2 = a :=
      (List.forall_mem_cons.mp hagree).2
    by_cases hlater : (row, col, a) ∈ writes
    · exact ih hrest hlater hrestagree
    · obtain rfl : (row, col, a) = w := (List.mem_cons.mp hmem).resolve_right hlater
      by_cases hagain : ∃ w ∈ writes, row = w.1 ∧ col = w.2.1
      · obtain ⟨w, hwmem, hrow, hcol⟩ := hagain
        have hsame := hrestagree w hwmem ⟨hrow, hcol⟩
        exact absurd (by rw [hrow, hcol, ← hsame]; exact hwmem) hlater
      · rw [get?_putAll_of_notMem hrest fun w hwmem hat => hagain ⟨w, hwmem, hat⟩,
          get?_put hfirst, if_pos ⟨rfl, rfl⟩]

end Grid

end QtAppBase.Library
