import Mathlib.Tactic
import CellMachine.Kernel.Schedule

/-!
The image that the long-term scheduler builds: its boundary is one of its cells, and the cell there
is a marker.
-/

namespace CellMachine.Image

lemma lastMarker?_eq_some {cells : List Cell} {k : ℕ} (h : lastMarker? cells = some k) :
    ∃ c, cells[k]? = some c ∧ c.isDataMarker = true := by
  induction cells generalizing k with
  | nil => simp [lastMarker?] at h
  | cons c rest ih =>
    unfold lastMarker? at h
    rcases hr : lastMarker? rest with _ | j
    · simp only [hr] at h
      by_cases hc : c.isDataMarker
      · obtain rfl : 0 = k := by simpa [hc] using h
        exact ⟨c, rfl, hc⟩
      · simp [hc] at h
    · obtain rfl : j + 1 = k := by simpa [hr] using h
      simpa using ih hr

/-- The boundary is a cell of the image, and a marker stands there. -/
theorem cell_boundary (cells : List Cell) :
    (ofCells cells).cells[(ofCells cells).boundary]? = some .dataMarker ∨
      (ofCells cells).cells[(ofCells cells).boundary]? = some .endMarker := by
  rcases h : lastMarker? (body cells) with _ | k
  · right
    simp [ofCells, h]
  · left
    obtain ⟨c, hc, hm⟩ := lastMarker?_eq_some h
    have hk : k < (body cells).length := (List.getElem?_eq_some_iff.mp hc).1
    have hcell : ((body cells).map mark)[k]? = some .dataMarker := by
      simp [hc, mark, hm]
    simp only [ofCells, h, Option.getD_some]
    rw [List.getElem?_append_left (by simpa using hk), hcell]

lemma boundary_lt (cells : List Cell) :
    (ofCells cells).boundary < (ofCells cells).cells.length := by
  rcases cell_boundary cells with h | h <;> exact (List.getElem?_eq_some_iff.mp h).1

/-! ### Cells that are known to be markers or not -/

lemma body_of_not_header {cells : List Cell} (h : ∀ c ∈ cells, c.isJobHeader = false) :
    body cells = cells := by
  cases cells with
  | nil => rfl
  | cons c rest => simp [body, h c (by simp)]

lemma map_mark_of_not_marker {cells : List Cell} (h : ∀ c ∈ cells, c.isDataMarker = false) :
    cells.map mark = cells := by
  rw [List.map_congr_left (g := id), List.map_id]
  intro c hc
  simp [mark, h c hc]

lemma lastMarker?_of_not_marker {cells : List Cell} (h : ∀ c ∈ cells, c.isDataMarker = false) :
    lastMarker? cells = none := by
  induction cells with
  | nil => rfl
  | cons c rest ih => simp [lastMarker?, ih fun d hd => h d (by simp [hd]), h c (by simp)]

/-- The last marker is the one after which there is none. -/
lemma lastMarker?_append_cons (before : List Cell) {c : Cell} {after : List Cell}
    (hc : c.isDataMarker = true) (h : ∀ d ∈ after, d.isDataMarker = false) :
    lastMarker? (before ++ c :: after) = some before.length := by
  induction before with
  | nil => simp [lastMarker?, lastMarker?_of_not_marker h, hc]
  | cons d before ih => simp [lastMarker?, ih]

end CellMachine.Image
