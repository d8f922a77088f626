import CellMachine.Proofs.Planning
import CellMachine.Proofs.Scheduling

/-!
The image of a program, step by step. The long-term scheduler takes out the job header, looks up the
cells that contain the data marker, overwrites them one after another, and adds the end marker.
Every access by an index could be a fault and none is: the indices are looked up after the header is
gone, and overwriting leaves the size of memory as it is. What the steps make of a memory is the
image.
-/

namespace CellMachine

variable {cells : List Cell} {k : ℕ}

namespace Image

/-- Where the instructions of a program end: at the last cell that contains the data marker, or
behind all cells if there is none. -/
inductive Boundary : List Cell → ℕ → Prop where
  | marked {before after : List Cell} {c : Cell} (marks : c.contains "data" = true)
    (last : ∀ d ∈ after, d.contains "data" = false) : Boundary (before ++ c :: after) before.length
  | unmarked {cells : List Cell} (none : ∀ d ∈ cells, d.contains "data" = false) :
    Boundary cells cells.length

lemma body_eq (cells : List Cell) :
    body cells = if cells.head?.any (·.contains "job") then cells.tail else cells := by
  cases cells with
  | nil => rfl
  | cons c rest => rfl

lemma not_marker_of_lastMarker? (h : lastMarker? cells = none) :
    ∀ d ∈ cells, d.isDataMarker = false := by
  induction cells with
  | nil => simp
  | cons c rest ih =>
    unfold lastMarker? at h
    rcases hr : lastMarker? rest with _ | j
    · have hc : c.isDataMarker = false := by simpa [hr] using h
      exact List.forall_mem_cons.mpr ⟨hc, ih hr⟩
    · simp [hr] at h

lemma split_of_lastMarker? (h : lastMarker? cells = some k) :
    ∃ before c after, cells = before ++ c :: after ∧ before.length = k ∧
      c.isDataMarker = true ∧ ∀ d ∈ after, d.isDataMarker = false := by
  induction cells generalizing k with
  | nil => simp [lastMarker?] at h
  | cons c rest ih =>
    unfold lastMarker? at h
    rcases hr : lastMarker? rest with _ | j
    · by_cases hc : c.isDataMarker = true
      · obtain rfl : 0 = k := by simpa [hr, hc] using h
        exact ⟨[], c, rest, rfl, rfl, hc, not_marker_of_lastMarker? hr⟩
      · simp [hr, hc] at h
    · obtain rfl : j + 1 = k := by simpa [hr] using h
      obtain ⟨before, d, after, rfl, hlength, hd, hafter⟩ := ih hr
      exact ⟨c :: before, d, after, rfl, by rw [List.length_cons, hlength], hd, hafter⟩

/-- **The boundary of an image is where its instructions end.** -/
theorem boundary_ofCells (cells : List Cell) : Boundary (body cells) (ofCells cells).boundary := by
  simp only [ofCells]
  rcases h : lastMarker? (body cells) with _ | k
  · exact .unmarked (not_marker_of_lastMarker? h)
  · obtain ⟨before, c, after, hsplit, rfl, hc, hafter⟩ := split_of_lastMarker? h
    rw [hsplit]
    exact .marked hc hafter

/-- No cell of an image beyond its boundary contains the data marker. -/
lemma not_marker_beyond {boundary : ℕ} (h : Boundary cells boundary) (hk : boundary < k) {c : Cell}
    (hc : (cells.map mark ++ [.endMarker])[k]? = some c) : c.contains "data" = false := by
  have hend : Cell.endMarker.contains "data" = false := by decide
  cases h with
  | @marked before after d marks last =>
    have hshape : (before ++ d :: after).map mark ++ [.endMarker] =
        (before ++ [d]).map mark ++ (after.map mark ++ [.endMarker]) := by
      simp
    have hlength : ((before ++ [d]).map mark).length ≤ k := by simpa using hk
    rw [hshape, List.getElem?_append_right hlength] at hc
    rcases List.mem_append.mp (List.mem_of_getElem? hc) with hmem | hmem
    · rw [map_mark_of_not_marker last] at hmem
      exact last c hmem
    · rw [List.mem_singleton.mp hmem]
      exact hend
  | unmarked =>
    have hlength : (cells.map mark).length < k := by simpa using hk
    have hnone : (cells.map mark ++ [.endMarker])[k]? = none :=
      List.getElem?_eq_none (by simpa using hlength)
    simp [hnone] at hc

end Image

/-! ### The steps of the scheduler -/

namespace Memory

/-- Takes out the first cell if it names the job. -/
def dropHeader (m : Memory) : Except Fault Memory :=
  if m.cells[0]?.any Cell.isJobHeader then (m.remove 0).map Prod.snd else .ok m

def markers (m : Memory) : List ℕ :=
  (List.range m.size).filter fun k => m.cells[k]?.any Cell.isDataMarker

/-- Overwrites the cells at the given indices with the data marker, one after another. -/
def markAll (m : Memory) : List ℕ → Except Fault Memory
  | [] => .ok m
  | k :: ks => do (← m.overwrite k .dataMarker).markAll ks

/-- The memory that the long-term scheduler leaves, and the boundary, unless a step is a fault. -/
def scheduled (m : Memory) : Except Fault (Memory × ℕ) := do
  let m ← m.dropHeader
  let markers := m.markers
  let m ← m.markAll markers
  return (m.push .endMarker, markers.getLast?.getD m.size)

variable {m : Memory} {ks : List ℕ}

lemma dropHeader_eq (m : Memory) :
    m.dropHeader = .ok ⟨(Image.body m.cells.toList).toArray⟩ := by
  obtain ⟨⟨cells⟩⟩ := m
  cases cells with
  | nil => rfl
  | cons c rest =>
    by_cases hc : c.isJobHeader = true
    · simp [dropHeader, remove, Image.body, hc, Except.map]
    · simp [dropHeader, Image.body, hc]

lemma mem_markers : k ∈ m.markers ↔ ∃ c, m.cells[k]? = some c ∧ c.isDataMarker = true := by
  simp only [markers, List.mem_filter, List.mem_range, Option.any_eq_true]
  refine and_iff_right_of_imp ?_
  rintro ⟨c, hc, -⟩
  exact (Array.getElem?_eq_some_iff.mp hc).1

lemma getLast?_markers (cells : List Cell) :
    (markers ⟨cells.toArray⟩).getLast? = Image.lastMarker? cells := by
  induction cells with
  | nil => rfl
  | cons c rest ih =>
    -- Behind the first cell the indices are those of the rest, moved up by one.
    have hshift : markers ⟨(c :: rest).toArray⟩ =
        (if c.isDataMarker then [0] else []) ++ (markers ⟨rest.toArray⟩).map Nat.succ := by
      simp only [markers, size, List.size_toArray, List.length_cons, List.range_succ_eq_map,
        List.filter_cons, List.filter_map, List.getElem?_toArray, List.getElem?_cons_zero,
        Option.any_some, Function.comp_def, Nat.succ_eq_add_one, List.getElem?_cons_succ]
      split <;> rfl
    rw [hshift, List.getLast?_append, List.getLast?_map, ih, Image.lastMarker?]
    rcases Image.lastMarker? rest with _ | k
    · by_cases hc : c.isDataMarker = true <;> simp [hc]
    · rfl

lemma markAll_eq_ok (h : ∀ k ∈ ks, k < m.size) :
    ∃ m', m.markAll ks = .ok m' ∧
      ∀ k, m'.cells[k]? = if k ∈ ks then m.cells[k]?.map fun _ => .dataMarker else m.cells[k]? := by
  induction ks generalizing m with
  | nil => exact ⟨m, rfl, by simp⟩
  | cons j ks ih =>
    have hj : j < m.cells.size := h j (by simp)
    obtain ⟨m', hm', hcells⟩ := ih (m := ⟨m.cells.set j .dataMarker hj⟩) fun k hk => by
      have hlt : k < m.cells.size := h k (by simp [hk])
      simpa [size] using hlt
    refine ⟨m', ?_, fun k => ?_⟩
    · rw [markAll, overwrite_of_lt hj]
      exact hm'
    · rw [hcells, Array.getElem?_set]
      by_cases hk : j = k
      · subst hk
        simp [Array.getElem?_eq_getElem hj]
      · simp [hk, Ne.symm hk]

/-- Every cell that contains the data marker is overwritten with it. -/
lemma markAll_markers (m : Memory) : m.markAll m.markers = .ok ⟨m.cells.map Image.mark⟩ := by
  have hlt : ∀ k ∈ m.markers, k < m.size := fun k hk =>
    List.mem_range.mp (List.mem_filter.mp hk).1
  obtain ⟨m', hm', hcells⟩ := markAll_eq_ok hlt
  rw [hm', Except.ok.injEq]
  obtain ⟨cells⟩ := m'
  congr 1
  apply Array.ext_getElem?
  intro k
  rw [hcells, Array.getElem?_map]
  rcases hc : m.cells[k]? with _ | c
  · simp
  · by_cases hmarks : c.isDataMarker = true
    · have hk : k ∈ m.markers := mem_markers.mpr ⟨c, hc, hmarks⟩
      simp [hk, Image.mark, hmarks]
    · have hk : k ∉ m.markers := by
        intro hk
        obtain ⟨d, hd, hmarks'⟩ := mem_markers.mp hk
        obtain rfl : c = d := by simpa [hc] using hd
        exact hmarks hmarks'
      simp [hk, Image.mark, hmarks]

/-- **No step of the scheduler is a fault, and together they make the image.** -/
theorem scheduled_eq (m : Memory) :
    m.scheduled = .ok (⟨(Image.ofCells m.cells.toList).cells.toArray⟩,
      (Image.ofCells m.cells.toList).boundary) := by
  simp only [scheduled, dropHeader_eq, bind, Except.bind, markAll_markers, getLast?_markers]
  simp [Image.ofCells, push, size, pure, Except.pure]

end Memory

open Kernel

/-- **The long-term scheduler builds the documented image.** Whatever memory holds, no step of it
fails. It leaves the loaded cells, without the first one if that contains `job`, with `data` in
place of every cell that contains it, and with `end` behind them; its boundary is the last cell that
contains `data`, or the end of the loaded ones if none does. The process is new and at its first
instruction, and the processor is as it was. So a marker stands at the boundary and no cell beyond
it contains `data`; and a program that can be read from its file always boots. -/
theorem schedule_builds_image (s : Kernel) :
    let loaded := s.memory.cells.toList
    let body := if loaded.head?.any (·.contains "job") then loaded.tail else loaded
    let cells := body.map (fun c => if c.contains "data" then ⟨"data"⟩ else c) ++ [⟨"end"⟩]
    (∃ boundary, Image.Boundary body boundary ∧
      s.memory.scheduled = .ok (⟨cells.toArray⟩, boundary) ∧
      s.schedule.result = .ok ⟨0, boundary, boundary, .new⟩ ∧
      s.schedule.kernel = ⟨s.processor, some ⟨0, boundary, boundary, .new⟩, ⟨cells.toArray⟩⟩ ∧
      (cells[boundary]? = some ⟨"data"⟩ ∨ cells[boundary]? = some ⟨"end"⟩) ∧
      ∀ k > boundary, ∀ c, cells[k]? = some c → c.contains "data" = false) ∧
    ∀ config path contents e, (boot config path contents).result = .error e ↔
      ∃ cause, contents = .error cause ∧ e = .unloadable path cause := by
  intro loaded body cells
  have hbody : Image.body loaded = body := Image.body_eq loaded
  have hcells : (Image.ofCells loaded).cells = cells := by
    rw [Image.ofCells, hbody]
    rfl
  have hboundary := Image.boundary_ofCells loaded
  have hmarker := Image.cell_boundary loaded
  rw [hbody] at hboundary
  rw [hcells] at hmarker
  refine ⟨⟨(Image.ofCells loaded).boundary, hboundary, ?_, rfl, ?_, hmarker, ?_⟩, ?_⟩
  · rw [Memory.scheduled_eq, hcells]
  · rw [← hcells]
    rfl
  · exact fun k hk c hc => Image.not_marker_beyond hboundary hk hc
  · intro config path contents e
    rcases contents with cause | text
    · simp [boot, load, Outcome.andThen, eq_comm]
    · simp [boot, load, schedule, dispatch, Outcome.andThen]

/-- A program with a header and two markers. The last one is the boundary, and the one before it is a
cell like those around it, with its text replaced. -/
theorem schedule_builds_image_markers :
    let s := (init {}).loadLines ["// JOB 1", "0x93000000", "// DATA 1", "5", "// Data 2", "7"]
    let cells : List Cell := [⟨"0x93000000"⟩, ⟨"data"⟩, ⟨"5"⟩, ⟨"data"⟩, ⟨"7"⟩, ⟨"end"⟩]
    s.memory.scheduled = .ok (⟨cells.toArray⟩, 3) ∧ s.schedule.result = .ok ⟨0, 3, 3, .new⟩ ∧
      s.schedule.kernel = ⟨s.processor, some ⟨0, 3, 3, .new⟩, ⟨cells.toArray⟩⟩ ∧
      ∀ k > 3, ∀ c, cells[k]? = some c → c.contains "data" = false := by
  intro s cells
  have hcells : s.schedule.kernel.memory.cells.toList = cells := by decide +kernel
  have hresult : s.schedule.result = .ok ⟨0, 3, 3, .new⟩ := by decide +kernel
  obtain ⟨⟨boundary, -, hscheduled, hresult', hkernel, -, hbeyond⟩, -⟩ := schedule_builds_image s
  obtain rfl : boundary = 3 := by
    rw [hresult', Except.ok.injEq, ControlBlock.mk.injEq] at hresult
    exact hresult.2.1
  rw [hkernel, List.toList_toArray] at hcells
  rw [hcells] at hscheduled hkernel hbeyond
  exact ⟨hscheduled, hresult, hkernel, hbeyond⟩

end CellMachine
