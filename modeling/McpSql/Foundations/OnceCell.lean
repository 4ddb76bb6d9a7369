import McpSql.Foundations.GuardedRun

/-!
# A cell that is written once

A cell is empty until a value is put into it, and answers with that value ever after.  A protocol
that initialises something lazily is right when its runs are runs of such a cell.
-/

namespace OnceCell

open GuardedRun

variable {ν : Type}

/-- A cell, with the answers it has given. -/
structure Cell (ν : Type) where
  content : Option ν := none
  answers : List ν := []

/-- What can happen at a cell. -/
inductive Event (ν : Type) where
  | fill (v : ν)
  | answer (v : ν)
  | skip

/-- An empty cell is filled; a full one answers with its content. -/
inductive Step : Cell ν → Event ν → Cell ν → Prop where
  | fill {c : Cell ν} {v : ν} (h : c.content = none) : Step c (.fill v) { c with content := some v }
  | answer {c : Cell ν} {v : ν} (h : c.content = some v) :
      Step c (.answer v) { c with answers := c.answers ++ [v] }
  | skip {c : Cell ν} : Step c .skip c

/-- A full cell keeps its content. -/
theorem content_kept {c d : Cell ν} (h : FreeRun Step c d) {v : ν} (hv : c.content = some v) :
    d.content = some v := by
  refine invariant (P := fun d : Cell ν => d.content = some v) h hv ?_
  intro s a t hs _ hstep
  cases hstep with
  | fill hempty => simp [hempty] at hs
  | answer _ => exact hs
  | skip => exact hs

/-- A cell that has answered holds what it answered with. -/
theorem content_of_mem_answers {d : Cell ν} (h : FreeRun Step {} d) {v : ν}
    (hv : v ∈ d.answers) : d.content = some v := by
  have hall : ∀ w ∈ d.answers, d.content = some w := by
    refine invariant (P := fun d : Cell ν => ∀ w ∈ d.answers, d.content = some w) h (by simp) ?_
    intro s a t hs _ hstep w hw
    cases hstep with
    | fill hempty => simpa [hempty] using hs w hw
    | answer hcontent =>
      rcases List.mem_append.mp hw with hearlier | hnow
      · exact hs w hearlier
      · rw [List.mem_singleton.mp hnow]
        exact hcontent
    | skip => exact hs w hw
  exact hall v hv

end OnceCell
