import Mathlib.Data.List.Basic

/-!
# Trees searched from above and read upwards

A node of a tree is given together with the path that leads to it, innermost step first, so that
a search downwards yields nodes whose ancestors can still be read.  `Loc.bfs` lists the nodes
below a location level by level, `Below` is the relation it enumerates (`mem_bfs_iff`).
-/

namespace Located

/-- A finite tree: a label and an ordered list of children. -/
inductive Tree (α : Type) where
  | node (label : α) (children : List (Tree α))

namespace Tree

variable {α : Type}

/-- The label of the root. -/
def label : Tree α → α
  | node a _ => a

/-- The children of the root, in order. -/
def children : Tree α → List (Tree α)
  | node _ cs => cs

@[simp] theorem label_node (a : α) (cs : List (Tree α)) : (node a cs).label = a := rfl

@[simp] theorem children_node (a : α) (cs : List (Tree α)) : (node a cs).children = cs := rfl

/-- Induction over a tree, with the hypothesis for every child. -/
theorem inductionOn {P : Tree α → Prop} (t : Tree α)
    (h : ∀ a cs, (∀ c ∈ cs, P c) → P (node a cs)) : P t := by
  match t with
  | node a cs => exact h a cs fun c _ => inductionOn c h

end Tree

/-- One step of a path: the node it starts from and the index of the child it goes to. -/
structure Frame (α : Type) where
  /-- The node the step starts from. -/
  parent : Tree α
  /-- The index of the child the step goes to. -/
  index : ℕ

/-- The child a step goes to. -/
def Frame.child {α : Type} (f : Frame α) : Option (Tree α) := f.parent.children[f.index]?

/-- A node of a tree with the path to it, innermost step first. -/
structure Loc (α : Type) where
  /-- The subtree at this node. -/
  here : Tree α
  /-- The steps from the root to this node, innermost first. -/
  above : List (Frame α)

namespace Loc

variable {α : Type}

/-- The root of a tree. -/
def root (t : Tree α) : Loc α := ⟨t, []⟩

/-- The label at a location. -/
def label (l : Loc α) : α := l.here.label

/-- The location of the `i`-th child. -/
def child (l : Loc α) (i : ℕ) (c : Tree α) : Loc α := ⟨c, ⟨l.here, i⟩ :: l.above⟩

/-- The locations of the children, in order. -/
def children (l : Loc α) : List (Loc α) := l.here.children.mapIdx l.child

theorem mem_children_iff {l m : Loc α} :
    m ∈ l.children ↔ ∃ i c, l.here.children[i]? = some c ∧ m = l.child i c := by
  simp only [children, List.mem_mapIdx]
  constructor
  · rintro ⟨i, hi, rfl⟩
    exact ⟨i, _, List.getElem?_eq_getElem hi, rfl⟩
  · rintro ⟨i, c, hc, rfl⟩
    obtain ⟨hi, hget⟩ := List.getElem?_eq_some_iff.mp hc
    exact ⟨i, hi, by rw [hget]⟩

/-- A child sits directly below its parent. -/
theorem above_of_mem_children {l m : Loc α} (h : m ∈ l.children) :
    ∃ i, m.above = ⟨l.here, i⟩ :: l.above ∧ l.here.children[i]? = some m.here := by
  obtain ⟨i, c, hc, rfl⟩ := mem_children_iff.mp h
  exact ⟨i, rfl, hc⟩

/-- Glue two lists of levels, level by level. -/
def zipAppend {β : Type} : List (List β) → List (List β) → List (List β)
  | [], ys => ys
  | xs, [] => xs
  | x :: xs, y :: ys => (x ++ y) :: zipAppend xs ys

mutual

/-- The nodes of a tree that sits below `above`, one list for each depth. -/
def levels (above : List (Frame α)) : Tree α → List (List (Loc α))
  | .node a cs => [⟨.node a cs, above⟩] :: levelsFrom above (.node a cs) 0 cs

/-- The levels of the children of `parent` from index `i` on. -/
def levelsFrom (above : List (Frame α)) (parent : Tree α) (i : ℕ) :
    List (Tree α) → List (List (Loc α))
  | [] => []
  | c :: cs => zipAppend (levels (⟨parent, i⟩ :: above) c) (levelsFrom above parent (i + 1) cs)

end

/-- The nodes at and below a location, breadth first. -/
def bfs (l : Loc α) : List (Loc α) := (levels l.above l.here).flatten

/-- `Below a b`: the location `b` is reached from `a` by going down. -/
inductive Below (a : Loc α) : Loc α → Prop where
  | refl : Below a a
  | step {b c : Loc α} : Below a b → c ∈ b.children → Below a c

theorem Below.trans {a b c : Loc α} (hab : Below a b) (hbc : Below b c) : Below a c := by
  induction hbc with
  | refl => exact hab
  | step _ hc ih => exact ih.step hc

mutual

/-- The nodes of a tree in depth-first order, without those below a node whose label stops the
search. -/
def shallowTree (stop : α → Bool) (above : List (Frame α)) : Tree α → List (Loc α)
  | .node a cs => ⟨.node a cs, above⟩ ::
      if stop a then [] else shallowFrom stop above (.node a cs) 0 cs

/-- The same for the children of `parent` from index `i` on. -/
def shallowFrom (stop : α → Bool) (above : List (Frame α)) (parent : Tree α) (i : ℕ) :
    List (Tree α) → List (Loc α)
  | [] => []
  | c :: cs => shallowTree stop (⟨parent, i⟩ :: above) c ++
      shallowFrom stop above parent (i + 1) cs

end

/-- The nodes at and below a location, entered down to the labels that stop the search. -/
def shallow (stop : α → Bool) (l : Loc α) : List (Loc α) := shallowTree stop l.above l.here

/-! ## The breadth-first listing is complete -/

theorem mem_flatten_zipAppend {β : Type} (x : β) (xs ys : List (List β)) :
    x ∈ (zipAppend xs ys).flatten ↔ x ∈ xs.flatten ∨ x ∈ ys.flatten := by
  induction xs generalizing ys with
  | nil => simp [zipAppend]
  | cons a xs ih =>
    cases ys with
    | nil => simp [zipAppend]
    | cons b ys =>
      simp only [zipAppend, List.flatten_cons, List.mem_append, ih]
      tauto

theorem mem_levelsFrom (above : List (Frame α)) (parent : Tree α) (i : ℕ) (cs : List (Tree α))
    (m : Loc α) :
    m ∈ (levelsFrom above parent i cs).flatten ↔
      ∃ j c, cs[j]? = some c ∧ m ∈ (levels (⟨parent, i + j⟩ :: above) c).flatten := by
  induction cs generalizing i with
  | nil => simp [levelsFrom]
  | cons c cs ih =>
    rw [levelsFrom, mem_flatten_zipAppend, ih]
    constructor
    · rintro (h | ⟨j, d, hd, h⟩)
      · exact ⟨0, c, rfl, h⟩
      · exact ⟨j + 1, d, hd, by rwa [show i + (j + 1) = i + 1 + j by omega]⟩
    · rintro ⟨_ | j, d, hd, h⟩
      · obtain rfl : c = d := by simpa using hd
        exact Or.inl h
      · exact Or.inr ⟨j, d, hd, by rwa [show i + 1 + j = i + (j + 1) by omega]⟩

/-- A location is listed below `l` when it is `l` or is listed below a child of `l`. -/
theorem mem_bfs_cases (l m : Loc α) : m ∈ l.bfs ↔ m = l ∨ ∃ c ∈ l.children, m ∈ c.bfs := by
  obtain ⟨⟨a, cs⟩, above⟩ := l
  simp only [bfs, levels, List.flatten_cons, List.mem_append, List.mem_singleton, mem_levelsFrom,
    Nat.zero_add, mem_children_iff]
  constructor
  · rintro (rfl | ⟨j, c, hc, h⟩)
    · exact Or.inl rfl
    · exact Or.inr ⟨_, ⟨j, c, hc, rfl⟩, h⟩
  · rintro (rfl | ⟨_, ⟨j, c, hc, rfl⟩, h⟩)
    · exact Or.inl rfl
    · exact Or.inr ⟨j, c, hc, h⟩

theorem mem_bfs_self (l : Loc α) : l ∈ l.bfs := (mem_bfs_cases l l).mpr (Or.inl rfl)

/-- What the breadth-first search lists lies below its start. -/
theorem below_of_mem_bfs {l m : Loc α} (h : m ∈ l.bfs) : Below l m := by
  obtain ⟨t, above⟩ := l
  induction t using Tree.inductionOn generalizing above with
  | h a cs ih =>
    rcases (mem_bfs_cases _ _).mp h with rfl | ⟨c, hc, hm⟩
    · exact .refl
    · obtain ⟨i, d, hd, rfl⟩ := mem_children_iff.mp hc
      have hstep : Below ⟨.node a cs, above⟩ (child ⟨.node a cs, above⟩ i d) :=
        Below.refl.step hc
      exact hstep.trans (ih d (List.mem_of_getElem? hd) _ hm)

/-- The listing is closed under going down. -/
theorem mem_bfs_step {l m n : Loc α} (hm : m ∈ l.bfs) (hn : n ∈ m.children) : n ∈ l.bfs := by
  obtain ⟨t, above⟩ := l
  induction t using Tree.inductionOn generalizing above with
  | h a cs ih =>
    rcases (mem_bfs_cases _ _).mp hm with rfl | ⟨c, hc, hmc⟩
    · exact (mem_bfs_cases _ _).mpr (Or.inr ⟨n, hn, mem_bfs_self n⟩)
    · obtain ⟨i, d, hd, rfl⟩ := mem_children_iff.mp hc
      exact (mem_bfs_cases _ _).mpr (Or.inr ⟨_, hc, ih d (List.mem_of_getElem? hd) _ hmc⟩)

/-- The breadth-first search lists exactly the locations below its start. -/
theorem mem_bfs_iff {l m : Loc α} : m ∈ l.bfs ↔ Below l m := by
  refine ⟨below_of_mem_bfs, fun h => ?_⟩
  induction h with
  | refl => exact mem_bfs_self l
  | step _ hc ih => exact mem_bfs_step ih hc

/-! ## The pruned search stays below its start -/

theorem mem_shallowFrom {stop : α → Bool} {above : List (Frame α)} {parent : Tree α} {i : ℕ}
    {cs : List (Tree α)} {m : Loc α} (h : m ∈ shallowFrom stop above parent i cs) :
    ∃ j c, cs[j]? = some c ∧ m ∈ shallowTree stop (⟨parent, i + j⟩ :: above) c := by
  induction cs generalizing i with
  | nil => simp [shallowFrom] at h
  | cons c cs ih =>
    rw [shallowFrom, List.mem_append] at h
    rcases h with h | h
    · exact ⟨0, c, rfl, h⟩
    · obtain ⟨j, d, hd, hm⟩ := ih h
      exact ⟨j + 1, d, hd, by rwa [show i + (j + 1) = i + 1 + j by omega]⟩

/-- What the pruned search lists lies below its start. -/
theorem below_of_mem_shallow {stop : α → Bool} {l m : Loc α} (h : m ∈ l.shallow stop) :
    Below l m := by
  obtain ⟨t, above⟩ := l
  induction t using Tree.inductionOn generalizing above with
  | h a cs ih =>
    rw [shallow, shallowTree, List.mem_cons] at h
    rcases h with rfl | h
    · exact .refl
    · cases hstop : stop a with
      | true => simp [hstop] at h
      | false =>
        rw [if_neg (by simp [hstop])] at h
        obtain ⟨j, c, hc, hm⟩ := mem_shallowFrom h
        have hstep : Below ⟨.node a cs, above⟩ (child ⟨.node a cs, above⟩ j c) :=
          Below.refl.step (mem_children_iff.mpr ⟨j, c, hc, rfl⟩)
        rw [Nat.zero_add] at hm
        exact hstep.trans (ih c (List.mem_of_getElem? hc) _ hm)

/-! ## Ancestors -/

/-- The ancestors of a location, innermost first. -/
def ancestorsOf : List (Frame α) → List (Loc α)
  | [] => []
  | f :: rest => ⟨f.parent, rest⟩ :: ancestorsOf rest

/-- The ancestors of a location. -/
def ancestors (l : Loc α) : List (Loc α) := ancestorsOf l.above

/-- The ancestors of a location below `a` are the ancestors of `a` and locations below `a`. -/
theorem Below.ancestor {a b p : Loc α} (h : Below a b) (hp : p ∈ b.ancestors) :
    p ∈ a.ancestors ∨ Below a p := by
  induction h with
  | refl => exact Or.inl hp
  | @step b c hb hc ih =>
    obtain ⟨i, habove, -⟩ := above_of_mem_children hc
    rw [ancestors, habove, ancestorsOf, List.mem_cons] at hp
    rcases hp with rfl | hp
    · exact Or.inr hb
    · exact ih hp

end Loc

end Located
