import McpSql.Python.Str

/-!
# Dot segments

The path of a URI and the removal of its `.` and `..` segments, as in RFC 3986 (appendix B and
section 5.2.4).  A walk over segments amounts to climbing so many steps and going down along given
ones; a walk that starts below a base therefore ends below it exactly when it does not climb out of
the base, or comes down again the way it climbed.
-/

namespace DotSegments

/-! ## Walks -/

section Walk

variable {σ : Type}

/-- A place strictly below another one. -/
def Below (base place : List σ) : Prop := base <+: place ∧ base ≠ place

theorem below_append_right_iff (base place place' : List σ) :
    Below (base ++ place) (base ++ place') ↔ Below place place' := by
  unfold Below
  rw [List.prefix_append_right_inj, Ne, Ne, List.append_right_inj]

theorem below_append_iff (base rest : List σ) : Below base (base ++ rest) ↔ rest ≠ [] := by
  unfold Below
  constructor
  · rintro ⟨-, hne⟩ rfl
    exact hne (List.append_nil _).symm
  · intro hne
    refine ⟨List.prefix_append _ _, fun heq => hne ?_⟩
    exact List.append_right_eq_self.mp heq.symm

variable [DecidableEq σ]

instance decidableBelow (base place : List σ) : Decidable (Below base place) :=
  inferInstanceAs (Decidable (_ ∧ _))

variable (here up : σ)

/-- One segment: stay, climb, or go down. -/
def step (place : List σ) (s : σ) : List σ :=
  if s = here then place
  else if s = up then place.dropLast
  else place ++ [s]

/-- Segments one after another. -/
def walk (place segments : List σ) : List σ := segments.foldl (step here up) place

/-- What a walk amounts to: steps up, and then the way down. -/
structure Net (σ : Type) where
  climbs : ℕ
  down : List σ
  deriving DecidableEq, Repr

/-- One more segment. -/
def Net.step (n : Net σ) (s : σ) : Net σ :=
  if s = here then n
  else if s = up then
    match n.down with
    | [] => ⟨n.climbs + 1, []⟩
    | first :: rest => ⟨n.climbs, (first :: rest).dropLast⟩
  else ⟨n.climbs, n.down ++ [s]⟩

/-- What the segments amount to. -/
def net (segments : List σ) : Net σ := segments.foldl (Net.step here up) ⟨0, []⟩

/-- Where it leads from a place. -/
def Net.apply (n : Net σ) (place : List σ) : List σ :=
  place.take (place.length - n.climbs) ++ n.down

variable {here up}

theorem walk_cons (place : List σ) (s : σ) (rest : List σ) :
    walk here up place (s :: rest) = walk here up (step here up place s) rest := rfl

theorem walk_append (place segments rest : List σ) :
    walk here up place (segments ++ rest) = walk here up (walk here up place segments) rest :=
  List.foldl_append

theorem apply_step (n : Net σ) (s : σ) (place : List σ) :
    (n.step here up s).apply place = step here up (n.apply place) s := by
  unfold Net.step step
  by_cases hhere : s = here
  · rw [if_pos hhere, if_pos hhere]
  · rw [if_neg hhere, if_neg hhere]
    by_cases hup : s = up
    · rw [if_pos hup, if_pos hup]
      unfold Net.apply
      cases hdown : n.down with
      | nil =>
        have hkept : min (min (place.length - n.climbs) place.length - 1)
            (place.length - n.climbs) = place.length - (n.climbs + 1) := by omega
        rw [List.append_nil, List.append_nil, List.dropLast_eq_take, List.take_take,
          List.length_take, hkept]
      | cons first rest => rw [List.dropLast_append_of_ne_nil (List.cons_ne_nil _ _)]
    · rw [if_neg hup, if_neg hup]
      unfold Net.apply
      rw [List.append_assoc]

/-- A walk leads where it amounts to. -/
theorem walk_eq (place segments : List σ) :
    walk here up place segments = (net here up segments).apply place := by
  have hrun : ∀ n : Net σ, (segments.foldl (Net.step here up) n).apply place =
      walk here up (n.apply place) segments := by
    induction segments with
    | nil => exact fun n => rfl
    | cons s rest ih =>
      intro n
      rw [List.foldl_cons, ih, apply_step, walk_cons]
  have hstart : (⟨0, []⟩ : Net σ).apply place = place := by simp [Net.apply]
  have hwalk := hrun ⟨0, []⟩
  rw [hstart] at hwalk
  exact hwalk.symm

/-- Without climbing a walk goes down along its segments. -/
theorem walk_of_notMem {segments : List σ} (h : up ∉ segments) (place : List σ) :
    walk here up place segments = place ++ segments.filter (· ≠ here) := by
  induction segments generalizing place with
  | nil => exact (List.append_nil _).symm
  | cons s rest ih =>
    have hs : s ≠ up := fun heq => h (heq ▸ List.mem_cons_self)
    rw [walk_cons, ih (fun hmem => h (List.mem_cons_of_mem _ hmem))]
    by_cases hhere : s = here
    · simp [step, hhere]
    · simp [step, hhere, hs]

/-- A walk that ends by going down has somewhere to go down to. -/
theorem down_net_append_singleton {s : σ} (hhere : s ≠ here) (hup : s ≠ up) (segments : List σ) :
    (net here up (segments ++ [s])).down ≠ [] := by
  unfold net
  rw [List.foldl_append]
  simp [Net.step, hhere, hup]

theorem mem_walk {place segments : List σ} {s : σ} (h : s ∈ walk here up place segments) :
    s ∈ place ∨ s ∈ segments := by
  induction segments generalizing place with
  | nil => exact Or.inl h
  | cons t rest ih =>
    rw [walk_cons] at h
    rcases ih h with hplace | hrest
    · unfold step at hplace
      by_cases hhere : t = here
      · rw [if_pos hhere] at hplace
        exact Or.inl hplace
      · rw [if_neg hhere] at hplace
        by_cases hup : t = up
        · rw [if_pos hup] at hplace
          exact Or.inl ((List.dropLast_prefix _).subset hplace)
        · rw [if_neg hup] at hplace
          rcases List.mem_append.mp hplace with hplace | ht
          · exact Or.inl hplace
          · exact Or.inr (List.mem_cons.mpr (Or.inl (List.mem_singleton.mp ht)))
    · exact Or.inr (List.mem_cons_of_mem _ hrest)

/-- From so many steps below a base a walk stays below it: it climbs no further than the base, or it
comes down again the way it climbed. -/
def StaysBelow (base : List σ) (depth : ℕ) (n : Net σ) : Prop :=
  n.climbs ≤ depth ∨ Below (base.drop (base.length - (n.climbs - depth))) n.down

instance decidableStaysBelow (base : List σ) (depth : ℕ) (n : Net σ) :
    Decidable (StaysBelow base depth n) :=
  inferInstanceAs (Decidable (_ ∨ _))

omit [DecidableEq σ] in
/-- Where a walk leads from a place below a base. -/
theorem below_apply_iff {base places : List σ} (hplaces : places ≠ []) {n : Net σ}
    (hdown : n.climbs ≠ 0 → n.down ≠ []) :
    Below base (n.apply (base ++ places)) ↔ StaysBelow base places.length n := by
  have hpos : 0 < places.length := List.length_pos_iff.mpr hplaces
  unfold Net.apply StaysBelow
  rw [List.length_append]
  by_cases hclimbs : n.climbs ≤ places.length
  · refine iff_of_true ?_ (Or.inl hclimbs)
    have hkept : base.length + places.length - n.climbs =
        base.length + (places.length - n.climbs) := by omega
    rw [hkept, List.take_length_add_append, List.append_assoc, below_append_iff]
    intro hnil
    obtain ⟨htake, hnone⟩ := List.append_eq_nil_iff.mp hnil
    have hall : places.length - n.climbs = 0 := by
      have hlength := congrArg List.length htake
      rw [List.length_take, List.length_nil] at hlength
      omega
    exact hdown (by omega) hnone
  · have hkept : base.length + places.length - n.climbs =
        base.length - (n.climbs - places.length) := by omega
    have htake : (base ++ places).take (base.length - (n.climbs - places.length)) =
        base.take (base.length - (n.climbs - places.length)) :=
      List.take_append_of_le_length (Nat.sub_le _ _)
    rw [hkept, htake]
    have hbelow := below_append_right_iff (base.take (base.length - (n.climbs - places.length)))
      (base.drop (base.length - (n.climbs - places.length))) n.down
    rw [List.take_append_drop] at hbelow
    exact hbelow.trans (or_iff_right hclimbs).symm

end Walk

/-! ## Paths -/

open Python PyStr

/-- The path of a URI: what follows the scheme and the authority, up to the query or the fragment. -/
def uriPath (uri : PyStr) : PyStr :=
  let (scheme, found, rest) := partition 0x3a uri
  let hier := if found && scheme ≠ [] && scheme.all (fun c => c ≠ 0x2f && c ≠ 0x3f && c ≠ 0x23)
    then rest else uri
  let afterAuthority := if startsWith (lit "//") hier
    then (hier.drop 2).dropWhile fun c => c ≠ 0x2f && c ≠ 0x3f && c ≠ 0x23 else hier
  afterAuthority.takeWhile fun c => c ≠ 0x3f && c ≠ 0x23

/-- A segment with the slash before it. -/
def rooted (segment : PyStr) : PyStr := 0x2f :: segment

/-- A path that ends in a dot segment ends in a slash. -/
def closed (segments : List PyStr) : List PyStr :=
  match segments.getLast? with
  | some last => if last = lit "/." || last = lit "/.." then segments ++ [lit "/"] else segments
  | none => segments

/-- `remove_dot_segments`; a segment is moved to the output with the slash before it. -/
def removeDotSegments (path : PyStr) : PyStr :=
  match (splitOn 0x2f path).dropWhile fun s => s = lit "." || s = lit ".." with
  | [] => []
  | first :: rest => (walk (lit "/.") (lit "/..") [first] (closed (rest.map rooted))).flatten

example : removeDotSegments (lit "/a/b/c/./../../g") = lit "/a/g" ∧
    removeDotSegments (lit "mid/content=5/../6") = lit "mid/6" ∧
    removeDotSegments (lit "/../a/b/..") = lit "/a/" := by decide

/-- The segments of a path that starts with a slash, without those it drops. -/
def kept (segments : List PyStr) : List PyStr := (segments.map rooted).filter (· ≠ lit "/.")

theorem removeDotSegments_of_split {path : PyStr} {segments : List PyStr}
    (h : splitOn 0x2f path = [] :: segments) : removeDotSegments path =
      (walk (lit "/.") (lit "/..") [] (closed (segments.map rooted))).flatten := by
  have hdrop : (splitOn 0x2f path).dropWhile (fun s => s = lit "." || s = lit "..") =
      [] :: segments := by
    rw [h]
    rfl
  have hroot : ∀ n : Net PyStr, (n.apply [[]]).flatten = (n.apply []).flatten := by
    intro n
    unfold Net.apply
    rw [List.flatten_append, List.flatten_append]
    rcases Nat.eq_zero_or_pos n.climbs with hzero | hpos
    · simp [hzero]
    · have hnone : [([] : PyStr)].length - n.climbs = 0 := by
        rw [List.length_singleton]
        omega
      rw [hnone]
      simp
  unfold removeDotSegments
  rw [hdrop]
  simp only [walk_eq, hroot]

/-- A slash and then a segment. -/
def IsRooted (s : PyStr) : Prop := ∃ segment, s = rooted segment ∧ (0x2f : CodePoint) ∉ segment

theorem isRooted_of_mem_split {path : PyStr} {s : PyStr}
    (h : s ∈ (splitOn 0x2f path).map rooted) : IsRooted s := by
  obtain ⟨segment, hsegment, rfl⟩ := List.mem_map.mp h
  refine ⟨segment, rfl, fun hslash => ?_⟩
  have hnone := forall_mem_splitOnP (· == 0x2f) path segment hsegment 0x2f hslash
  simp at hnone

theorem isRooted_slash : IsRooted (lit "/") := ⟨[], rfl, List.not_mem_nil⟩

/-- A closed path of rooted segments is rooted throughout. -/
theorem isRooted_closed {segments : List PyStr} (h : ∀ s ∈ segments, IsRooted s) :
    ∀ s ∈ closed segments, IsRooted s := by
  intro s hs
  unfold closed at hs
  cases hlast : segments.getLast? with
  | none =>
    rw [hlast] at hs
    exact h s hs
  | some last =>
    simp only [hlast] at hs
    by_cases hdot : (last = lit "/." || last = lit "/..") = true
    · rw [if_pos hdot] at hs
      rcases List.mem_append.mp hs with hs | hs
      · exact h s hs
      · rw [List.mem_singleton.mp hs]
        exact isRooted_slash
    · rw [if_neg hdot] at hs
      exact h s hs

/-- The text of rooted segments starts with a slash, if there is any. -/
theorem flatten_eq_cons_of_isRooted {segments : List PyStr} (h : ∀ s ∈ segments, IsRooted s)
    (hne : segments ≠ []) : ∃ rest, segments.flatten = 0x2f :: rest := by
  cases segments with
  | nil => exact absurd rfl hne
  | cons s rest =>
    obtain ⟨segment, rfl, -⟩ := h s List.mem_cons_self
    exact ⟨segment ++ rest.flatten, rfl⟩

/-- The texts of two paths agree on a segment and go on when the paths do. -/
theorem rooted_append_prefix_iff {a b : PyStr} (ha : (0x2f : CodePoint) ∉ a)
    (hb : (0x2f : CodePoint) ∉ b) {text : PyStr} {rest : List PyStr}
    (hrest : ∀ s ∈ rest, IsRooted s) :
    rooted a ++ 0x2f :: text <+: rooted b ++ rest.flatten ↔
      a = b ∧ 0x2f :: text <+: rest.flatten := by
  constructor
  · rintro ⟨more, hmore⟩
    have htail : a ++ 0x2f :: (text ++ more) = b ++ rest.flatten := by
      have hcons : 0x2f :: (a ++ 0x2f :: (text ++ more)) = 0x2f :: (b ++ rest.flatten) := by
        simpa [rooted] using hmore
      exact (List.cons.inj hcons).2
    by_cases hnil : rest = []
    · subst hnil
      have hslash : (0x2f : CodePoint) ∈ b := by
        rw [List.flatten_nil, List.append_nil] at htail
        rw [← htail]
        simp
      exact absurd hslash hb
    · obtain ⟨text', htext'⟩ := flatten_eq_cons_of_isRooted hrest hnil
      rw [htext'] at htail ⊢
      obtain ⟨rfl, rfl⟩ := append_cons_inj ha hb htail
      exact ⟨rfl, more, rfl⟩
  · rintro ⟨rfl, more, hmore⟩
    refine ⟨more, ?_⟩
    rw [List.append_assoc, hmore]

/-- Reading texts of rooted segments: one is a prefix of the other, up to a slash, exactly when it
is above it. -/
theorem startsWith_flatten_iff {base place : List PyStr} (hbase : ∀ s ∈ base, IsRooted s)
    (hplace : ∀ s ∈ place, IsRooted s) :
    startsWith (base ++ [lit "/"]).flatten place.flatten = true ↔ Below base place := by
  have hstarts : startsWith (base ++ [lit "/"]).flatten place.flatten = true ↔
      (base ++ [lit "/"]).flatten <+: place.flatten := List.isPrefixOf_iff_prefix
  rw [hstarts]
  clear hstarts
  induction base generalizing place with
  | nil =>
    cases place with
    | nil => exact iff_of_false (by simp [lit]) fun h => h.2 rfl
    | cons s rest =>
      obtain ⟨segment, rfl, -⟩ := hplace s List.mem_cons_self
      refine iff_of_true ?_ ⟨List.nil_prefix, (List.cons_ne_nil _ _).symm⟩
      exact ⟨segment ++ rest.flatten, rfl⟩
  | cons t base ih =>
    obtain ⟨a, rfl, ha⟩ := hbase t List.mem_cons_self
    have hbase' : ∀ s ∈ base, IsRooted s := fun s hs => hbase s (List.mem_cons_of_mem _ hs)
    have hends : ∀ s ∈ base ++ [lit "/"], IsRooted s := by
      intro s hs
      rcases List.mem_append.mp hs with hs | hs
      · exact hbase' s hs
      · rw [List.mem_singleton.mp hs]
        exact isRooted_slash
    obtain ⟨text, htext⟩ := flatten_eq_cons_of_isRooted hends (by simp)
    cases place with
    | nil => exact iff_of_false (by simp [rooted]) fun h => by simpa using h.1
    | cons s rest =>
      obtain ⟨b, rfl, hb⟩ := hplace s List.mem_cons_self
      have hrest : ∀ s ∈ rest, IsRooted s := fun s hs => hplace s (List.mem_cons_of_mem _ hs)
      have hstep := ih hbase' hrest
      rw [htext] at hstep
      rw [List.cons_append, List.flatten_cons, List.flatten_cons, htext,
        rooted_append_prefix_iff ha hb hrest]
      constructor
      · rintro ⟨rfl, htexts⟩
        exact (below_append_right_iff [rooted a] base rest).mpr (hstep.mp htexts)
      · intro h
        obtain ⟨hab, -⟩ := List.cons_prefix_cons.mp h.1
        obtain rfl := (List.cons.inj hab).2
        exact ⟨rfl, hstep.mpr ((below_append_right_iff [rooted a] base rest).mp h)⟩

/-! ## Paths below a path -/

theorem closed_concat (segments : List PyStr) (last : PyStr) :
    closed (segments ++ [last]) = segments ++
      if last = lit "/." || last = lit "/.." then [last, lit "/"] else [last] := by
  unfold closed
  rw [List.getLast?_concat]
  by_cases hdot : (last = lit "/." || last = lit "/..") = true
  · simp only [if_pos hdot, List.append_assoc]
    rfl
  · simp only [if_neg hdot]

theorem closed_append {segments rest : List PyStr} (h : rest ≠ []) :
    closed (segments ++ rest) = segments ++ closed rest := by
  obtain ⟨front, last, rfl⟩ := (List.eq_nil_or_concat' rest).resolve_left h
  rw [← List.append_assoc, closed_concat, closed_concat, List.append_assoc]

/-- The last segment of a closed path is no dot segment. -/
theorem closed_eq_append_singleton {segments : List PyStr} (h : segments ≠ []) :
    ∃ front last, closed segments = front ++ [last] ∧ last ≠ lit "/." ∧ last ≠ lit "/.." := by
  obtain ⟨front, last, rfl⟩ := (List.eq_nil_or_concat' segments).resolve_left h
  rw [closed_concat]
  by_cases hdot : (last = lit "/." || last = lit "/..") = true
  · rw [if_pos hdot]
    exact ⟨front ++ [last], lit "/", by simp, by decide, by decide⟩
  · rw [if_neg hdot]
    have hnot : last ≠ lit "/." ∧ last ≠ lit "/.." := by simpa using hdot
    exact ⟨front, last, rfl, hnot⟩

/-- A segment that is no dot segment stays where it is, whatever follows. -/
theorem closed_append_cons {segments rest : List PyStr} {s : PyStr} (hhere : s ≠ lit "/.")
    (hup : s ≠ lit "/..") : closed (segments ++ s :: rest) = segments ++ s :: closed rest := by
  by_cases hnil : rest = []
  · subst hnil
    rw [closed_append (List.cons_ne_nil _ _)]
    simp [closed, hhere, hup]
  · have happend : segments ++ s :: rest = (segments ++ [s]) ++ rest := by simp
    rw [happend, closed_append hnil, List.append_assoc]
    rfl

/-- A walk along a closed path that climbs goes down again. -/
theorem down_net_closed_ne_nil {segments : List PyStr}
    (h : (net (lit "/.") (lit "/..") (closed segments)).climbs ≠ 0) :
    (net (lit "/.") (lit "/..") (closed segments)).down ≠ [] := by
  by_cases hnil : segments = []
  · subst hnil
    exact absurd rfl h
  · obtain ⟨front, last, hclosed, hhere, hup⟩ := closed_eq_append_singleton hnil
    rw [hclosed]
    exact down_net_append_singleton hhere hup front

/-- Segments with a slash before them. -/
theorem up_notMem_map_rooted {segments : List PyStr} (h : lit ".." ∉ segments) :
    lit "/.." ∉ segments.map rooted := by
  intro hmem
  obtain ⟨segment, hsegment, heq⟩ := List.mem_map.mp hmem
  obtain rfl : segment = lit ".." := (List.cons.inj heq).2
  exact h hsegment

/-- A path without `..` has none when it is rooted and closed. -/
theorem up_notMem_closed {segments : List PyStr} (h : lit ".." ∉ segments) :
    lit "/.." ∉ closed (segments.map rooted) := by
  have hrooted := up_notMem_map_rooted h
  by_cases hnil : segments.map rooted = []
  · rw [hnil]
    exact List.not_mem_nil
  · obtain ⟨front, last, hfront⟩ := (List.eq_nil_or_concat' _).resolve_left hnil
    rw [hfront] at hrooted ⊢
    rw [closed_concat]
    by_cases hdot : (last = lit "/." || last = lit "/..") = true
    · rw [if_pos hdot]
      have hslash : lit "/.." ≠ lit "/" := by decide
      simpa [hslash] using hrooted
    · rw [if_neg hdot]
      exact hrooted

section Under

variable {w : PyStr} {top : List PyStr} (hw : splitOn 0x2f w = [] :: top) (hup : lit ".." ∉ top)

include hw hup

/-- Dot removal from a path without `..` that ends in a slash. -/
theorem removeDotSegments_of_notMem :
    removeDotSegments (w ++ [0x2f]) = (kept top ++ [lit "/"]).flatten := by
  have hsplit : splitOn 0x2f (w ++ [0x2f]) = [] :: (top ++ [[]]) := by
    rw [splitOn_append_cons, hw]
    rfl
  have hclosed : closed ((top ++ [[]]).map rooted) = top.map rooted ++ [lit "/"] := by
    rw [List.map_append, closed_append (by simp)]
    rfl
  have hnone : lit "/.." ∉ top.map rooted ++ [lit "/"] := by
    rw [← hclosed]
    apply up_notMem_closed
    simpa using ⟨hup, by decide⟩
  rw [removeDotSegments_of_split hsplit, hclosed, walk_of_notMem hnone, List.nil_append,
    List.filter_append]
  rfl

/-- What follows such a path leads below it, or not. -/
theorem startsWith_removeDotSegments_iff (r : PyStr) :
    startsWith (removeDotSegments (w ++ [0x2f])) (removeDotSegments (w ++ 0x2f :: r)) = true ↔
      Below (kept top) (walk (lit "/.") (lit "/..") (kept top)
        (closed ((splitOn 0x2f r).map rooted))) := by
  have hne : (splitOn 0x2f r).map rooted ≠ [] := by
    rw [Ne, List.map_eq_nil_iff]
    exact splitOn_ne_nil 0x2f r
  have hsplit : splitOn 0x2f (w ++ 0x2f :: r) = [] :: (top ++ splitOn 0x2f r) := by
    rw [splitOn_append_cons, hw]
    rfl
  have hnone := up_notMem_map_rooted hup
  have htop : ∀ s ∈ kept top, IsRooted s := by
    intro s hs
    have hmem : s ∈ (splitOn 0x2f w).map rooted := by
      rw [hw]
      exact List.mem_cons_of_mem _ (List.mem_of_mem_filter hs)
    exact isRooted_of_mem_split hmem
  have hrest : ∀ s ∈ closed ((splitOn 0x2f r).map rooted), IsRooted s :=
    isRooted_closed fun s hs => isRooted_of_mem_split hs
  have hwalk : walk (lit "/.") (lit "/..") [] (closed ((top ++ splitOn 0x2f r).map rooted)) =
      walk (lit "/.") (lit "/..") (kept top) (closed ((splitOn 0x2f r).map rooted)) := by
    rw [List.map_append, closed_append hne, walk_append, walk_of_notMem hnone]
    rfl
  rw [removeDotSegments_of_notMem hw hup, removeDotSegments_of_split hsplit, hwalk]
  apply startsWith_flatten_iff htop
  intro s hs
  rcases mem_walk hs with hs | hs
  · exact htop s hs
  · exact hrest s hs

/-- A path goes on below one without `..` if it has none itself. -/
theorem startsWith_removeDotSegments {r : PyStr} (hr : lit ".." ∉ splitOn 0x2f r) :
    startsWith (removeDotSegments (w ++ [0x2f])) (removeDotSegments (w ++ 0x2f :: r)) = true := by
  have hne : (splitOn 0x2f r).map rooted ≠ [] := by
    rw [Ne, List.map_eq_nil_iff]
    exact splitOn_ne_nil 0x2f r
  obtain ⟨front, last, hclosed, hhere, -⟩ := closed_eq_append_singleton hne
  rw [startsWith_removeDotSegments_iff hw hup, walk_of_notMem (up_notMem_closed hr),
    below_append_iff, hclosed]
  simp [hhere]

/-- When `..` occurs behind a proper segment only, it is what comes behind that decides. -/
theorem startsWith_removeDotSegments_iff_staysBelow {r segment : PyStr} {front tail : List PyStr}
    (hr : splitOn 0x2f r = front ++ segment :: tail) (hfront : lit ".." ∉ front)
    (hhere : segment ≠ lit ".") (hsegment : segment ≠ lit "..") :
    startsWith (removeDotSegments (w ++ [0x2f])) (removeDotSegments (w ++ 0x2f :: r)) = true ↔
      StaysBelow (kept top) ((kept front).length + 1)
        (net (lit "/.") (lit "/..") (closed (tail.map rooted))) := by
  have hhere' : rooted segment ≠ lit "/." := fun heq => hhere (List.cons.inj heq).2
  have hsegment' : rooted segment ≠ lit "/.." := fun heq => hsegment (List.cons.inj heq).2
  have hfront' := up_notMem_map_rooted hfront
  have hplaces : (kept front ++ [rooted segment]).length = (kept front).length + 1 := by simp
  have hwalk : walk (lit "/.") (lit "/..") (kept top) (closed ((splitOn 0x2f r).map rooted)) =
      (net (lit "/.") (lit "/..") (closed (tail.map rooted))).apply
        (kept top ++ (kept front ++ [rooted segment])) := by
    rw [hr, List.map_append, List.map_cons, closed_append_cons hhere' hsegment', walk_append,
      walk_of_notMem hfront', walk_cons, walk_eq]
    simp [step, hhere', hsegment', kept]
  rw [startsWith_removeDotSegments_iff hw hup, hwalk, ← hplaces]
  apply below_apply_iff
  · simp
  · exact down_net_closed_ne_nil

end Under

end DotSegments
