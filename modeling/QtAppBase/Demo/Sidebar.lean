import QtAppBase.Library.Mealy
import Mathlib.Algebra.Group.Int.Defs
import Mathlib.Tactic.Common

/-!
# The sidebar of the demo window

One list of rows chooses the protocol page and, for C3, the view on that page:
row 0 is Modbus, row 1 the header of C3, rows 2 to 8 its views, and row 9
RabbitMQ where the demo is built with it. The views are hidden while another
protocol is shown. Choosing the header shows them and jumps to the view that was
shown last, by a timer that fires when the handler has returned: by then the user
may have chosen another row, or the header again, so that several jumps can be
pending.
-/

namespace QtAppBase.Demo

open Library

/-- What choosing a row fetches from the panel. -/
inductive Fetch where
  | c3View
  | recordCount
  deriving DecidableEq, Repr

def kC3ViewDeviceInfo : ℤ := 0
def kC3ViewUsers : ℤ := 1
def kC3ViewTemplates : ℤ := 2
def kC3ViewTransaction : ℤ := 3
def kC3ViewRealtimeLog : ℤ := 4
def kC3ViewControl : ℤ := 5
def kC3ViewRecordCount : ℤ := 6

/-- The members behind the sidebar. `jumps` holds the targets of the pending timers,
oldest first. -/
structure Sidebar where
  currentRow : ℤ := -1
  viewsHidden : Bool := true
  protocolIndex : ℕ := 0
  c3StackIndex : ℕ := 0
  lastC3ViewIndex : ℤ := 0
  jumps : List ℤ := []
  deriving DecidableEq, Repr

/-- What happens to the sidebar. -/
inductive SidebarEvent where
  | select (row : ℤ)
  | jump
  deriving DecidableEq, Repr

namespace Sidebar

/-- The stack page of a C3 view. -/
def stackIndex (index : ℤ) : ℕ :=
  if index = kC3ViewRealtimeLog then 1
  else if index = kC3ViewControl then 2
  else if index = kC3ViewRecordCount then 3
  else 0

/-- `onSidebarRowChanged`. Row 9 has a branch of its own only in builds with RabbitMQ. -/
def onSidebarRowChanged (withMq : Bool) (row : ℤ) (s : Sidebar) : Reaction Sidebar Fetch :=
  if row < 0 then (s, [])
  else if row = 0 then ({ s with protocolIndex := 0, viewsHidden := true }, [])
  else if row = 1 then
    ({ s with viewsHidden := false, jumps := s.jumps ++ [2 + s.lastC3ViewIndex] }, [])
  else if withMq ∧ row = 9 then ({ s with protocolIndex := 2, viewsHidden := true }, [])
  else
    let index := row - 2
    let s := { s with
      lastC3ViewIndex := index
      protocolIndex := 1
      viewsHidden := false
      c3StackIndex := stackIndex index }
    (s, if stackIndex index = 0 then [.c3View]
      else if stackIndex index = 3 then [.recordCount]
      else [])

/-- `setCurrentRow`: the handler hears of changes only. -/
def setCurrentRow (withMq : Bool) (row : ℤ) (s : Sidebar) : Reaction Sidebar Fetch :=
  if row = s.currentRow then (s, [])
  else onSidebarRowChanged withMq row { s with currentRow := row }

/-- The rows there are. -/
def rowCount (withMq : Bool) : ℤ := if withMq then 10 else 9

/-- A row the user can choose: it exists and is not hidden. -/
def Selectable (withMq : Bool) (row : ℤ) (s : Sidebar) : Prop :=
  0 ≤ row ∧ row < rowCount withMq ∧ ¬ (s.viewsHidden = true ∧ 2 ≤ row ∧ row ≤ 8)

instance (withMq : Bool) (row : ℤ) (s : Sidebar) : Decidable (s.Selectable withMq row) :=
  inferInstanceAs (Decidable (_ ∧ _ ∧ _))

/-- What one event does. A jump is made only from the header. -/
def handle (withMq : Bool) (s : Sidebar) : SidebarEvent → Reaction Sidebar Fetch
  | .select row => if s.Selectable withMq row then s.setCurrentRow withMq row else (s, [])
  | .jump =>
    match s.jumps with
    | [] => (s, [])
    | target :: rest =>
      let s := { s with jumps := rest }
      if s.currentRow = 1 then s.setCurrentRow withMq target else (s, [])

/-- The state machine driven by its events. -/
def machine (withMq : Bool) : Mealy Sidebar SidebarEvent Fetch := ⟨handle withMq⟩

/-- The window as the constructor leaves it. -/
def opened (withMq : Bool) : Sidebar := (setCurrentRow withMq 0 {}).1

variable {withMq : Bool} {s : Sidebar} {row : ℤ}

/-! ### What the window shows -/

/-- The page and the visible rows are those of the row, and for a view of C3 the stack page
is that of the view. -/
structure Shows (row : ℤ) (s : Sidebar) : Prop where
  protocol : s.protocolIndex = if row = 0 then 0 else if row = 9 then 2 else 1
  hidden : s.viewsHidden = decide (row = 0 ∨ row = 9)
  view : 2 ≤ row → row ≤ 8 → s.lastC3ViewIndex = row - 2
  stack : 2 ≤ row → row ≤ 8 → s.c3StackIndex = stackIndex (row - 2)

/-- The window shows what its current row says, or is about to leave the header. -/
structure Coherent (withMq : Bool) (s : Sidebar) : Prop where
  row : 0 ≤ s.currentRow ∧ s.currentRow < rowCount withMq
  lastView : 0 ≤ s.lastC3ViewIndex ∧ s.lastC3ViewIndex ≤ 6
  stack : s.c3StackIndex = stackIndex s.lastC3ViewIndex
  targets : ∀ target ∈ s.jumps, 2 ≤ target ∧ target ≤ 8
  shows : s.currentRow ≠ 1 → Shows s.currentRow s
  /-- The jump that was asked for last goes to the view shown last. -/
  header : s.currentRow = 1 → s.viewsHidden = false ∧
    s.jumps.getLast? = some (2 + s.lastC3ViewIndex)

/-- The members that only the views and the jumps have to do with. -/
structure Visited (row : ℤ) (s t : Sidebar) : Prop where
  currentRow : t.currentRow = row
  jumps : t.jumps = s.jumps
  lastView : 0 ≤ t.lastC3ViewIndex ∧ t.lastC3ViewIndex ≤ 6
  stack : t.c3StackIndex = stackIndex t.lastC3ViewIndex
  shows : Shows row t

/-- A row other than the header is shown at once. -/
theorem onSidebarRowChanged_visited (hlast : 0 ≤ s.lastC3ViewIndex ∧ s.lastC3ViewIndex ≤ 6)
    (hstack : s.c3StackIndex = stackIndex s.lastC3ViewIndex)
    (hrow : 0 ≤ row ∧ row < rowCount withMq) (hheader : row ≠ 1) :
    Visited row s (onSidebarRowChanged withMq row { s with currentRow := row }).1 := by
  unfold onSidebarRowChanged
  rw [if_neg (by omega), if_neg hheader]
  by_cases hmodbus : row = 0
  · rw [if_pos hmodbus]
    subst hmodbus
    exact ⟨rfl, rfl, hlast, hstack, rfl, rfl, nofun, nofun⟩
  by_cases hmq : withMq = true ∧ row = 9
  · rw [if_neg hmodbus, if_pos hmq]
    obtain ⟨-, rfl⟩ := hmq
    exact ⟨rfl, rfl, hlast, hstack, rfl, rfl, by omega, by omega⟩
  -- one of the seven views: without RabbitMQ there is no row 9
  rw [if_neg hmodbus, if_neg hmq]
  have hview : 2 ≤ row ∧ row ≤ 8 := by
    cases withMq with
    | true =>
      have hnine : row ≠ 9 := fun hnine => hmq ⟨rfl, hnine⟩
      have hmost : row < 10 := hrow.2
      omega
    | false =>
      have hmost : row < 9 := hrow.2
      omega
  have hnine : row ≠ 9 := by omega
  refine ⟨rfl, rfl, ⟨?_, ?_⟩, rfl, ?_, ?_, fun _ _ => rfl, fun _ _ => rfl⟩
  · dsimp only
    omega
  · dsimp only
    omega
  · rw [if_neg hmodbus, if_neg hnine]
  · simp [hmodbus, hnine]

/-- Choosing a row that exists is coherent, and so is a jump from the header. -/
theorem setCurrentRow_coherent (hlast : 0 ≤ s.lastC3ViewIndex ∧ s.lastC3ViewIndex ≤ 6)
    (hstack : s.c3StackIndex = stackIndex s.lastC3ViewIndex)
    (htargets : ∀ target ∈ s.jumps, 2 ≤ target ∧ target ≤ 8)
    (hrow : 0 ≤ row ∧ row < rowCount withMq) (hother : row ≠ s.currentRow) :
    Coherent withMq (s.setCurrentRow withMq row).1 := by
  unfold setCurrentRow
  rw [if_neg hother]
  by_cases hheader : row = 1
  · subst hheader
    refine ⟨hrow, hlast, hstack, ?_, fun h => absurd rfl h, fun _ => ⟨rfl, ?_⟩⟩
    · intro target htarget
      rcases List.mem_append.mp htarget with hpending | hnew
      · exact htargets target hpending
      · rw [List.mem_singleton.mp hnew]
        dsimp only
        omega
    · exact List.getLast?_concat
  · have hvisited := onSidebarRowChanged_visited hlast hstack hrow hheader
    refine ⟨hvisited.currentRow.symm ▸ hrow, hvisited.lastView, hvisited.stack, ?_, fun _ => ?_,
      fun h => absurd (hvisited.currentRow.symm.trans h) hheader⟩
    · rw [hvisited.jumps]
      exact htargets
    · rw [hvisited.currentRow]
      exact hvisited.shows

/-- Every event keeps the window coherent. -/
theorem handle_coherent (h : Coherent withMq s) (e : SidebarEvent) :
    Coherent withMq (handle withMq s e).1 := by
  cases e with
  | select row =>
    unfold handle
    dsimp only
    split_ifs with hselectable
    · by_cases hsame : row = s.currentRow
      · rw [setCurrentRow, if_pos hsame]
        exact h
      · exact setCurrentRow_coherent h.lastView h.stack h.targets
          ⟨hselectable.1, hselectable.2.1⟩ hsame
    · exact h
  | jump =>
    unfold handle
    dsimp only
    split
    · exact h
    · next target rest hjumps =>
      have htarget := h.targets target (by simp [hjumps])
      have hrest : ∀ other ∈ rest, 2 ≤ other ∧ other ≤ 8 :=
        fun other hother => h.targets other (by simp [hjumps, hother])
      split_ifs with hheader
      · have hrow : 0 ≤ target ∧ target < rowCount withMq := by
          unfold rowCount
          split_ifs <;> omega
        have hother : target ≠ s.currentRow := by omega
        exact setCurrentRow_coherent (s := { s with jumps := rest }) h.lastView h.stack hrest hrow
          hother
      · have hshows := h.shows hheader
        exact ⟨h.row, h.lastView, h.stack, hrest,
          fun _ => ⟨hshows.protocol, hshows.hidden, hshows.view, hshows.stack⟩,
          fun hrow => absurd hrow hheader⟩

/-- The constructor leaves a coherent window. -/
theorem opened_coherent (withMq : Bool) : Coherent withMq (opened withMq) := by
  refine setCurrentRow_coherent (by decide) rfl nofun ?_ (by decide)
  cases withMq <;> decide

/-- A jump takes the oldest timer, and asks for no other jump. -/
theorem handle_jump_jumps (h : Coherent withMq s) :
    (handle withMq s .jump).1.jumps = s.jumps.tail := by
  unfold handle
  dsimp only
  split
  · next hnone =>
    rw [hnone]
    rfl
  · next target rest hjumps =>
    rw [hjumps, List.tail_cons]
    split_ifs with hheader
    · have htarget := h.targets target (by simp [hjumps])
      have hrow : 0 ≤ target ∧ target < rowCount withMq := by
        unfold rowCount
        split_ifs <;> omega
      rw [setCurrentRow, if_neg (by dsimp only; omega)]
      exact (onSidebarRowChanged_visited (s := { s with jumps := rest }) h.lastView h.stack hrow
        (by omega)).jumps
    · rfl

/-- A jump from the header goes to its target. -/
theorem handle_jump_row {target : ℤ} {rest : List ℤ} (h : Coherent withMq s)
    (hheader : s.currentRow = 1) (hjumps : s.jumps = target :: rest) :
    (handle withMq s .jump).1.currentRow = target := by
  have htarget := h.targets target (by simp [hjumps])
  have hrow : 0 ≤ target ∧ target < rowCount withMq := by
    unfold rowCount
    split_ifs <;> omega
  unfold handle
  simp only [hjumps, hheader, if_true]
  rw [setCurrentRow, if_neg (by dsimp only; omega)]
  exact (onSidebarRowChanged_visited (s := { s with jumps := rest }) h.lastView h.stack hrow
    (by omega)).currentRow

/-- Every state of a run from a coherent one is coherent. -/
theorem after_coherent (h : Coherent withMq s) (events : List SidebarEvent) :
    Coherent withMq ((machine withMq).after s events) := by
  induction events generalizing s with
  | nil => exact h
  | cons e events ih => exact ih (handle_coherent h e)

/-- When the pending timers have fired, the header is left. -/
theorem jumps_settle (h : Coherent withMq s) :
    let settled := (machine withMq).after s (List.replicate s.jumps.length .jump)
    settled.jumps = [] ∧ settled.currentRow ≠ 1 := by
  generalize hlength : s.jumps.length = n
  induction n generalizing s with
  | zero =>
    have hnone : s.jumps = [] := List.length_eq_zero_iff.mp hlength
    refine ⟨hnone, fun hheader => ?_⟩
    have hlast := (h.header hheader).2
    rw [hnone] at hlast
    cases hlast
  | succ n ih =>
    have hrest : ((machine withMq).next s .jump).jumps = s.jumps.tail := handle_jump_jumps h
    refine ih (handle_coherent h .jump) ?_
    rw [hrest, List.length_tail, hlength, Nat.add_sub_cancel]

/-- **The window shows what the sidebar says.** In every reachable state the page, the
visible rows, the C3 view and its stack page are those of the highlighted row, unless that
is the header of C3. The header is left as soon as the pending timers have fired, and when
only one is pending, for the view that was shown last. -/
theorem sidebar_shows (withMq : Bool) (events : List SidebarEvent) :
    let s := (machine withMq).after (opened withMq) events
    let settled := (machine withMq).after s (List.replicate s.jumps.length .jump)
    (s.currentRow ≠ 1 → Shows s.currentRow s) ∧
      (settled.currentRow ≠ 1 ∧ settled.jumps = [] ∧ Shows settled.currentRow settled) ∧
      (s.currentRow = 1 → s.jumps.length = 1 → settled.currentRow = 2 + s.lastC3ViewIndex) := by
  intro s settled
  have hs : Coherent withMq s := after_coherent (opened_coherent withMq) events
  have hsettled : Coherent withMq settled := after_coherent hs _
  obtain ⟨hnone, hleft⟩ := jumps_settle hs
  refine ⟨hs.shows, ⟨hleft, hnone, hsettled.shows hleft⟩, fun hheader hone => ?_⟩
  obtain ⟨target, htarget⟩ := List.length_eq_one_iff.mp hone
  have hlast := (hs.header hheader).2
  rw [htarget] at hlast
  have hrow := handle_jump_row hs hheader htarget
  rw [show settled = (handle withMq s .jump).1 by simp only [settled, hone]; rfl, hrow]
  exact Option.some.inj hlast

end Sidebar

end QtAppBase.Demo
