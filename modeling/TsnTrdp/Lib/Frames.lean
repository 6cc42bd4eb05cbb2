import Mathlib.Data.List.Basic
import Mathlib.Data.List.Infix

/-! Streams of frames. A frame is a nonempty group of cells whose last cell alone carries
the frame's mark, so that a reader who has consumed some cells in order has met the marks
of exactly the frames it has consumed whole.
-/

namespace TsnTrdp.Frames

variable {α β γ : Type*}

/-- A frame: no cell before the last carries a mark, and the last carries `tag`. -/
def IsFrame (mark : β → Option γ) (cells : List β) (tag : γ) : Prop :=
  ∃ init last, cells = init ++ [last] ∧ (∀ cell ∈ init, mark cell = none)
    ∧ mark last = some tag

variable {mark : β → Option γ} {cells : α → List β} {tag : α → γ}

/-- A proper prefix of a frame carries no mark. -/
theorem IsFrame.take_marks {frame : List β} {t : γ} (h : IsFrame mark frame t) {count : Nat}
    (short : count < frame.length)
    : (frame.take count).filterMap mark = [] := by
  obtain ⟨init, last, rfl, plain, -⟩ := h
  simp only [List.length_append, List.length_singleton] at short
  rw [List.take_append_of_le_length (by omega)]
  exact List.filterMap_eq_nil_iff.mpr fun cell member => plain cell (List.mem_of_mem_take member)

/-- A whole frame carries its tag alone. -/
theorem IsFrame.marks {frame : List β} {t : γ} (h : IsFrame mark frame t)
    : frame.filterMap mark = [t] := by
  obtain ⟨init, last, rfl, plain, final⟩ := h
  rw [List.filterMap_append, List.filterMap_eq_nil_iff.mpr plain]
  simp [final]

/-- All the marks of a stream are its frames' tags, in order. -/
theorem marks_all (framed : ∀ f, IsFrame mark (cells f) (tag f)) (frames : List α)
    : (frames.flatMap cells).filterMap mark = frames.map tag := by
  induction frames with
  | nil => rfl
  | cons frame rest ih =>
      rw [List.flatMap_cons, List.filterMap_append, (framed frame).marks, ih]
      rfl

/-- The marks met in the first `count` cells are the tags of the first `k` frames, which
are exactly the frames that lie whole in those cells. Witness: induction on the frames,
consuming whole leading frames first.
-/
theorem marks_take (framed : ∀ f, IsFrame mark (cells f) (tag f)) (frames : List α)
    {count : Nat} (bound : count ≤ (frames.flatMap cells).length)
    : ∃ k ≤ frames.length,
        ((frames.flatMap cells).take count).filterMap mark = (frames.take k).map tag
        ∧ ((frames.take k).flatMap cells).length ≤ count
        ∧ ∀ k' ≤ frames.length,
            ((frames.take k').flatMap cells).length ≤ count → k' ≤ k := by
  induction frames generalizing count with
  | nil => exact ⟨0, by simp, by simp, by simp, by simp⟩
  | cons frame rest ih =>
      by_cases short : count < (cells frame).length
      · refine ⟨0, by simp, ?_, by simp, ?_⟩
        · rw [List.flatMap_cons, List.take_append_of_le_length (by omega),
            (framed frame).take_marks short]
          rfl
        · intro k' _ fits
          cases k' with
          | zero => simp
          | succ k' =>
              simp only [List.take_succ_cons, List.flatMap_cons, List.length_append] at fits
              omega
      · simp only [List.flatMap_cons, List.length_append] at bound
        have rest' : count - (cells frame).length ≤ (rest.flatMap cells).length := by omega
        obtain ⟨k, kBound, marks, fits, most⟩ := ih rest'
        refine ⟨k + 1, by simpa using kBound, ?_, ?_, ?_⟩
        · rw [List.flatMap_cons, List.take_append, List.take_of_length_le (by omega),
            List.filterMap_append, (framed frame).marks, marks]
          rfl
        · simp only [List.take_succ_cons, List.flatMap_cons, List.length_append]
          omega
        · intro k' k'Bound fits'
          cases k' with
          | zero => omega
          | succ k' =>
              simp only [List.take_succ_cons, List.flatMap_cons, List.length_append] at fits'
              have := most k' (by simpa using k'Bound) (by omega)
              omega

end TsnTrdp.Frames
