import McpSql.Foundations.DotSegments
import McpSql.Python.Unquote
import McpSql.Python.UrlParse

/-!
# Redirects under a prefix

`_redirect_under_prefix` (`oauth.py`) looks for `..` in the path `urlparse` returns, decoded up to five
times.  That path stops at the `;` parameters of the last segment, while the path of the URI goes on
behind them.  So a redirect that is accepted stays below the prefix, at every level of decoding,
exactly when its parameters do not lead out of it.
-/

namespace McpSql

open Python PyStr DotSegments

/-! ## The check -/

/-- A path made to end in a slash. -/
def anchored (path : PyStr) : PyStr := if path.getLast? = some 0x2f then path else path ++ [0x2f]

/-- `unquote` applied again and again, until nothing changes or the given number of times. -/
def unquoteLayers : ℕ → PyStr → PyStr
  | 0, path => path
  | layers + 1, path =>
    let step := unquote path
    if step = path then path else unquoteLayers layers step

section Check

variable [UnicodeDatabase]

/-- The port, the one of https when it is missing. -/
def effectivePort (r : ParseResult) : Option ℕ := r.port.map (·.getD 443)

/-- `_redirect_under_prefix`. -/
def redirectUnderPrefix (redirectUri prefixUri : PyStr) : Bool :=
  match urlparse redirectUri, urlparse prefixUri with
  | some got, some want =>
    match effectivePort got, effectivePort want with
    | some gotPort, some wantPort =>
      got.scheme = lit "https" && (got.username.getD []).isEmpty &&
        (got.password.getD []).isEmpty && !(got.hostname.getD []).isEmpty &&
        got.hostname = want.hostname && gotPort = wantPort &&
        !(splitOn 0x2f (unquoteLayers 5 got.path)).contains (lit "..") &&
        startsWith (anchored want.path) got.path
    | _, _ => false
  | _, _ => false

/-! ## What is promised, and when it is kept -/

/-- A redirect that cannot leave the prefix. -/
structure Contained (redirectUri : PyStr) (got want : ParseResult) : Prop where
  scheme : got.scheme = lit "https"
  username : got.username.getD [] = []
  password : got.password.getD [] = []
  host : got.hostname.getD [] ≠ [] ∧ got.hostname = want.hostname
  port : (effectivePort got).isSome ∧ effectivePort got = effectivePort want
  /-- Decoded up to five times, the whole path leads below the path of the prefix. -/
  path : ∀ k ≤ 5, startsWith (removeDotSegments (unquote^[k] (anchored want.path)))
    (removeDotSegments (unquote^[k] (uriPath redirectUri))) = true

end Check

/-- The segments of the path of the prefix, decoded `k` times. -/
def prefixSegments (want : ParseResult) (k : ℕ) : List PyStr :=
  (splitOn 0x2f (unquote^[k] (anchored want.path).dropLast)).tail

/-- The segments of a redirect between the prefix and its last segment. -/
def innerSegments (got want : ParseResult) (k : ℕ) : List PyStr :=
  (splitOn 0x2f (unquote^[k] (got.path.drop (anchored want.path).length))).dropLast

/-- The segments the parameters of a redirect add behind its last segment. -/
def paramSegments (got : ParseResult) (k : ℕ) : List PyStr :=
  (splitOn 0x2f (unquote^[k] got.params)).tail

/-- The parameters do not lead out of the prefix: their `..` segments climb no further than the
redirect has gone below it, or the segments after them come down again the way they climbed. -/
def ParamsStayBelow (got want : ParseResult) (k : ℕ) : Prop :=
  StaysBelow (kept (prefixSegments want k)) ((kept (innerSegments got want k)).length + 1)
    (net (lit "/.") (lit "/..") (closed ((paramSegments got k).map rooted)))

instance decidableParamsStayBelow (got want : ParseResult) (k : ℕ) :
    Decidable (ParamsStayBelow got want k) :=
  inferInstanceAs (Decidable (StaysBelow _ _ _))

/-! ## The loop of decodings -/

theorem unquoteLayers_eq_iterate (layers : ℕ) (path : PyStr) :
    unquoteLayers layers path = unquote^[layers] path := by
  induction layers generalizing path with
  | zero => rfl
  | succ layers ih =>
    rw [Function.iterate_succ_apply]
    unfold unquoteLayers
    by_cases hstep : unquote path = path
    · simp only [hstep, if_true]
      exact (Function.iterate_fixed hstep layers).symm
    · simp only [hstep, if_false]
      exact ih (unquote path)

theorem separates_slash : Separates 0x2f := by decide

theorem separates_semicolon : Separates 0x3b := by decide

/-- A path without `..` after five decodings has none after fewer. -/
theorem up_notMem_of_le {path : PyStr} (h : lit ".." ∉ splitOn 0x2f (unquote^[5] path)) {k : ℕ}
    (hk : k ≤ 5) : lit ".." ∉ splitOn 0x2f (unquote^[k] path) := by
  intro hmem
  have hlayers : unquote^[5] path = unquote^[5 - k] (unquote^[k] path) := by
    rw [← Function.iterate_add_apply, Nat.sub_add_cancel hk]
  have hplain : splitOn 0x2f (unquote (lit "..")) = [lit ".."] := by decide
  rw [hlayers] at h
  exact h (mem_splitOn_iterate_unquote separates_slash hplain hmem (5 - k))

/-- An anchored path ends in a slash. -/
theorem anchored_eq (path : PyStr) : anchored path = (anchored path).dropLast ++ [0x2f] := by
  unfold anchored
  by_cases hslash : path.getLast? = some 0x2f
  · rw [if_pos hslash]
    obtain ⟨front, rfl⟩ := List.getLast?_eq_some_iff.mp hslash
    simp
  · rw [if_neg hslash]
    simp

/-- A text without TAB, CR and LF, of which `urlsplit` strips leading characters only. -/
def isOneLine (url : PyStr) : Bool := url.all fun c => c ≠ 0x09 && c ≠ 0x0d && c ≠ 0x0a

theorem eq_append_cleanUrl {url : PyStr} (h : isOneLine url = true) :
    ∃ stripped, url = stripped ++ cleanUrl url ∧ ∀ c ∈ stripped, c.val ≤ 0x20 := by
  refine ⟨url.takeWhile (·.val ≤ 0x20), ?_, fun c hc => ?_⟩
  · have hkept : cleanUrl url = url.dropWhile (·.val ≤ 0x20) := by
      unfold cleanUrl
      rw [List.filter_eq_self]
      intro c hc
      exact List.all_eq_true.mp h c ((List.dropWhile_suffix _).subset hc)
    rw [hkept, List.takeWhile_append_dropWhile]
  · simpa using List.mem_takeWhile_imp hc

/-- A character of a scheme, or one that is stripped, ends no part of a URI. -/
theorem ne_of_isSchemeChar {c : CodePoint} (h : isSchemeChar c = true ∨ c.val ≤ 0x20) :
    c ≠ 0x3a ∧ c ≠ 0x2f ∧ c ≠ 0x3f ∧ c ≠ 0x23 := by
  refine ⟨?_, ?_, ?_, ?_⟩
  all_goals
    rintro rfl
    exact absurd h (by decide)

/-- Where `urlsplit` finds a scheme, the rest of the URI is read the same way. -/
theorem uriPath_of_splitScheme {stripped uri scheme : PyStr} (hstripped : ∀ c ∈ stripped, c.val ≤ 0x20)
    (h : (splitScheme uri).1 = 0x68 :: scheme) : uriPath (stripped ++ uri) =
      (splitNetloc (splitScheme uri).2).2.takeWhile fun c => c ≠ 0x3f && c ≠ 0x23 := by
  have hauthority : ∀ hier : PyStr, (splitNetloc hier).2 =
      if startsWith (lit "//") hier
      then (hier.drop 2).dropWhile fun c => c ≠ 0x2f && c ≠ 0x3f && c ≠ 0x23 else hier := by
    intro hier
    by_cases hslashes : startsWith (lit "//") hier = true
    · obtain ⟨rest, rfl⟩ := List.isPrefixOf_iff_prefix.mp hslashes
      rfl
    · rw [if_neg hslashes]
      unfold splitNetloc
      split
      · exact absurd rfl hslashes
      · rfl
  rw [hauthority]
  unfold splitScheme at h ⊢
  unfold uriPath
  rcases partition_cases 0x3a uri with ⟨-, hcut⟩ | ⟨name, rest, rfl, hcolon, hcut⟩
  · simp [hcut] at h
  · simp only [hcut, Bool.true_and] at h ⊢
    by_cases hname : (name.head?.any isAsciiAlpha && name.all isSchemeChar) = true
    · obtain ⟨hhead, hall⟩ := Bool.and_eq_true_iff.mp hname
      have hplain : ∀ c ∈ stripped ++ name, c ≠ 0x3a ∧ c ≠ 0x2f ∧ c ≠ 0x3f ∧ c ≠ 0x23 := by
        intro c hc
        apply ne_of_isSchemeChar
        rcases List.mem_append.mp hc with hc | hc
        · exact Or.inr (hstripped c hc)
        · exact Or.inl (List.all_eq_true.mp hall c hc)
      have hfirst : partition 0x3a (stripped ++ (name ++ 0x3a :: rest)) =
          (stripped ++ name, true, rest) := by
        rw [← List.append_assoc]
        exact partition_append_cons (fun hmem => (hplain 0x3a hmem).1 rfl) rest
      have hne : name ≠ [] := by
        rintro rfl
        simp at hhead
      have hscheme : (true && stripped ++ name ≠ [] &&
          (stripped ++ name).all fun c => c ≠ 0x2f && c ≠ 0x3f && c ≠ 0x23) = true := by
        simp only [Bool.and_eq_true, decide_eq_true_eq, List.all_eq_true]
        refine ⟨⟨trivial, ?_⟩, fun c hc => ?_⟩
        · exact fun hnil => hne (List.append_eq_nil_iff.mp hnil).2
        · obtain ⟨-, hslash, hquery, hfragment⟩ := hplain c hc
          exact ⟨⟨hslash, hquery⟩, hfragment⟩
      simp only [hfirst, hname, hscheme, if_true]
    · rw [if_neg hname] at h
      simp at h

/-! ## What an accepted redirect is -/

section Accepted

variable [UnicodeDatabase] {redirectUri prefixUri : PyStr}

/-- What `_redirect_under_prefix` has checked. -/
structure Accepts (got want : ParseResult) : Prop where
  scheme : got.scheme = lit "https"
  username : got.username.getD [] = []
  password : got.password.getD [] = []
  host : got.hostname.getD [] ≠ [] ∧ got.hostname = want.hostname
  port : (effectivePort got).isSome ∧ effectivePort got = effectivePort want
  noTraversal : lit ".." ∉ splitOn 0x2f (unquote^[5] got.path)
  under : anchored want.path <+: got.path

theorem accepts_of_redirectUnderPrefix (h : redirectUnderPrefix redirectUri prefixUri = true) :
    ∃ got want, urlparse redirectUri = some got ∧ urlparse prefixUri = some want ∧
      Accepts got want := by
  unfold redirectUnderPrefix at h
  cases hgot : urlparse redirectUri with
  | none => simp [hgot] at h
  | some got =>
    cases hwant : urlparse prefixUri with
    | none => simp [hgot, hwant] at h
    | some want =>
      refine ⟨got, want, rfl, rfl, ?_⟩
      cases hgotPort : effectivePort got with
      | none => simp [hgot, hwant, hgotPort] at h
      | some gotPort =>
        cases hwantPort : effectivePort want with
        | none => simp [hgot, hwant, hgotPort, hwantPort] at h
        | some wantPort =>
          simp only [hgot, hwant, hgotPort, hwantPort, Bool.and_eq_true, decide_eq_true_eq,
            Bool.not_eq_true', List.isEmpty_iff, List.isEmpty_eq_false_iff] at h
          obtain ⟨⟨⟨⟨⟨⟨⟨hscheme, husername⟩, hpassword⟩, hhost⟩, hsame⟩, hport⟩, hnone⟩, hunder⟩ := h
          have hnone' : lit ".." ∉ splitOn 0x2f (unquote^[5] got.path) := by
            rw [← unquoteLayers_eq_iterate]
            simpa using hnone
          exact ⟨hscheme, husername, hpassword, ⟨hhost, hsame⟩, by simp [hgotPort, hwantPort, hport],
            hnone', List.isPrefixOf_iff_prefix.mp hunder⟩

/-- The check accepts nothing else. -/
theorem redirectUnderPrefix_of_accepts {got want : ParseResult}
    (hgot : urlparse redirectUri = some got) (hwant : urlparse prefixUri = some want)
    (haccepts : Accepts got want) : redirectUnderPrefix redirectUri prefixUri = true := by
  obtain ⟨hscheme, husername, hpassword, ⟨hhost, hsame⟩, ⟨hsome, hport⟩, hnone, hunder⟩ := haccepts
  obtain ⟨gotPort, hgotPort⟩ := Option.isSome_iff_exists.mp hsome
  have hwantPort : effectivePort want = some gotPort := hport.symm.trans hgotPort
  have hdots : (splitOn 0x2f (unquoteLayers 5 got.path)).contains (lit "..") = false := by
    rw [unquoteLayers_eq_iterate]
    simpa using hnone
  have hstarts : startsWith (anchored want.path) got.path = true :=
    List.isPrefixOf_iff_prefix.mpr hunder
  unfold redirectUnderPrefix
  simp only [hgot, hwant, hgotPort, hwantPort, hscheme, husername, hpassword, hdots, hstarts]
  simp [hsame ▸ hhost, hsame]

/-- The path of an https URI is the path `urlparse` returns, with the parameters. -/
theorem uriPath_eq {got : ParseResult} (hline : isOneLine redirectUri = true)
    (h : urlparse redirectUri = some got) (hscheme : got.scheme = lit "https") :
    (uriPath redirectUri = got.path ∧ got.params = []) ∨
      uriPath redirectUri = got.path ++ 0x3b :: got.params := by
  obtain ⟨split, hsplit, hsame, -, hpath⟩ := path_of_urlparse h
  obtain ⟨hfirst, -, hend⟩ := path_of_urlsplit hsplit
  have huri : uriPath redirectUri = split.path := by
    obtain ⟨stripped, hurl, hstripped⟩ := eq_append_cleanUrl hline
    rw [hsame, hscheme] at hfirst
    have hread := uriPath_of_splitScheme hstripped hfirst.symm
    rw [← hurl] at hread
    exact hread.trans hend.symm
  rw [huri]
  rcases hpath with ⟨hwhole, hnone⟩ | hcut
  · exact Or.inl ⟨hwhole.symm, hnone⟩
  · exact Or.inr hcut

/-- The path of an accepted redirect starts with a slash. -/
theorem path_cons_of_accepts {got want : ParseResult} (h : urlparse redirectUri = some got)
    (haccepts : Accepts got want) : ∃ rest, got.path = 0x2f :: rest := by
  obtain ⟨split, hsplit, -, hnetloc, hpath⟩ := path_of_urlparse h
  have hhost : split.netloc ≠ [] := by
    intro hnil
    apply haccepts.host.1
    rw [hnetloc] at hnil
    have hnone : got.hostname = none := by
      simp [ParseResult.hostname, ParseResult.hostinfo, ParseResult.userinfo, hnil, partition,
        rpartition]
    rw [hnone]
    rfl
  have hne : got.path ≠ [] := by
    intro hnil
    have hunder := haccepts.under
    rw [anchored_eq, hnil] at hunder
    simp at hunder
  rcases path_eq_nil_or_cons hsplit hhost with hnil | ⟨rest, hcons⟩
  · rcases hpath with ⟨hsame, -⟩ | hcut
    · exact absurd (hsame.trans hnil) hne
    · rw [hnil] at hcut
      simp at hcut
  · rcases hpath with ⟨hsame, -⟩ | hcut
    · exact ⟨rest, hsame.trans hcons⟩
    · rw [hcons] at hcut
      cases hgot : got.path with
      | nil => exact absurd hgot hne
      | cons c path =>
        rw [hgot, List.cons_append] at hcut
        obtain ⟨rfl, -⟩ := List.cons.inj hcut
        exact ⟨path, rfl⟩

end Accepted

/-! ## Level by level -/

theorem iterate_unquote_nil (k : ℕ) : unquote^[k] [] = [] := Function.iterate_fixed rfl k

theorem iterate_unquote_anchored (want : ParseResult) (k : ℕ) :
    unquote^[k] (anchored want.path) = unquote^[k] (anchored want.path).dropLast ++ [0x2f] := by
  have hslash := iterate_unquote_append_cons separates_slash k (anchored want.path).dropLast []
  rw [iterate_unquote_nil, ← anchored_eq] at hslash
  exact hslash

section Level

variable [UnicodeDatabase] {got want : ParseResult} (haccepts : Accepts got want)

include haccepts

/-- An accepted path is the one of the prefix, a slash, and more. -/
theorem path_eq_append : got.path = (anchored want.path).dropLast ++
    0x2f :: got.path.drop (anchored want.path).length := by
  obtain ⟨more, hmore⟩ := haccepts.under
  have hdrop : got.path.drop (anchored want.path).length = more := by
    rw [← hmore, List.drop_left]
  rw [hdrop, ← hmore]
  nth_rewrite 1 [anchored_eq]
  rw [List.append_assoc]
  rfl

theorem splitOn_prefixPath (hcons : ∃ rest, got.path = 0x2f :: rest) (k : ℕ) :
    splitOn 0x2f (unquote^[k] (anchored want.path).dropLast) = [] :: prefixSegments want k := by
  obtain ⟨rest, hcons⟩ := hcons
  unfold prefixSegments
  cases hfront : (anchored want.path).dropLast with
  | nil =>
    rw [iterate_unquote_nil]
    rfl
  | cons c front =>
    have hc : c = 0x2f := by
      have hpath := path_eq_append haccepts
      rw [hcons, hfront] at hpath
      exact (List.cons.inj hpath).1.symm
    have hslash := iterate_unquote_append_cons separates_slash k [] front
    rw [iterate_unquote_nil, List.nil_append, List.nil_append] at hslash
    rw [hc, hslash]
    have hsplit := splitOn_append_cons 0x2f [] (unquote^[k] front)
    rw [List.nil_append] at hsplit
    rw [hsplit]
    rfl

/-- At no level the accepted path has a `..` segment. -/
theorem up_notMem_of_accepts (hcons : ∃ rest, got.path = 0x2f :: rest) {k : ℕ} (hk : k ≤ 5) :
    lit ".." ∉ prefixSegments want k ∧
      lit ".." ∉ splitOn 0x2f (unquote^[k] (got.path.drop (anchored want.path).length)) := by
  have hnone := up_notMem_of_le haccepts.noTraversal hk
  rw [path_eq_append haccepts, iterate_unquote_append_cons separates_slash, splitOn_append_cons,
    splitOn_prefixPath haccepts hcons] at hnone
  simp only [List.cons_append, List.mem_cons, List.mem_append, not_or] at hnone
  exact hnone.2

/-- A redirect without parameters stays below the prefix. -/
theorem startsWith_of_accepts (hcons : ∃ rest, got.path = 0x2f :: rest) {k : ℕ} (hk : k ≤ 5) :
    startsWith (removeDotSegments (unquote^[k] (anchored want.path)))
      (removeDotSegments (unquote^[k] got.path)) = true := by
  obtain ⟨htop, hinner⟩ := up_notMem_of_accepts haccepts hcons hk
  rw [iterate_unquote_anchored]
  nth_rewrite 1 [path_eq_append haccepts]
  rw [iterate_unquote_append_cons separates_slash]
  exact startsWith_removeDotSegments (splitOn_prefixPath haccepts hcons k) htop hinner

/-- One with parameters does when they do not lead out of it. -/
theorem startsWith_iff_paramsStayBelow (hcons : ∃ rest, got.path = 0x2f :: rest) {k : ℕ}
    (hk : k ≤ 5) : startsWith (removeDotSegments (unquote^[k] (anchored want.path)))
      (removeDotSegments (unquote^[k] (got.path ++ 0x3b :: got.params))) = true ↔
      ParamsStayBelow got want k := by
  obtain ⟨htop, hinner⟩ := up_notMem_of_accepts haccepts hcons hk
  let below := got.path.drop (anchored want.path).length
  have hpath : unquote^[k] (got.path ++ 0x3b :: got.params) =
      unquote^[k] (anchored want.path).dropLast ++
        0x2f :: (unquote^[k] below ++ 0x3b :: unquote^[k] got.params) := by
    nth_rewrite 1 [path_eq_append haccepts]
    rw [List.append_assoc, List.cons_append, iterate_unquote_append_cons separates_slash,
      iterate_unquote_append_cons separates_semicolon]
  obtain ⟨front, last, hlast⟩ := (List.eq_nil_or_concat' (splitOn 0x2f (unquote^[k] below))).resolve_left
    (splitOn_ne_nil 0x2f _)
  obtain ⟨first, rest, hfirst⟩ := List.exists_cons_of_ne_nil
    (splitOn_ne_nil 0x2f (unquote^[k] got.params))
  have hparams : splitOn 0x2f (0x3b :: unquote^[k] got.params) = (0x3b :: first) :: rest := by
    rw [splitOn_cons, hfirst]
    rfl
  have hsplit := splitOn_append hlast hparams
  have hfront : lit ".." ∉ front := by
    intro hmem
    apply hinner
    rw [hlast]
    exact List.mem_append_left _ hmem
  -- the last segment before the parameters has their `;` in it
  have hsegment : ∀ dots : PyStr, (0x3b : CodePoint) ∉ dots → last ++ 0x3b :: first ≠ dots := by
    rintro dots hdots rfl
    exact hdots (by simp)
  rw [iterate_unquote_anchored, hpath, startsWith_removeDotSegments_iff_staysBelow
    (splitOn_prefixPath haccepts hcons k) htop hsplit hfront (hsegment _ (by decide))
    (hsegment _ (by decide))]
  have hinnerSegments : innerSegments got want k = front := by
    unfold innerSegments
    rw [hlast]
    exact List.dropLast_concat
  have hparamSegments : paramSegments got k = rest := by
    unfold paramSegments
    rw [hfirst]
    rfl
  unfold ParamsStayBelow
  rw [hinnerSegments, hparamSegments]

end Level

/-- An accepted redirect cannot leave the prefix exactly when its parameters do not lead out of it, at
any level of decoding. -/
theorem redirect_contained_iff [UnicodeDatabase] (redirectUri prefixUri : PyStr)
    (hline : isOneLine redirectUri = true)
    (h : redirectUnderPrefix redirectUri prefixUri = true) :
    ∃ got want, urlparse redirectUri = some got ∧ urlparse prefixUri = some want ∧
      (Contained redirectUri got want ↔ ∀ k ≤ 5, ParamsStayBelow got want k) := by
  obtain ⟨got, want, hgot, hwant, haccepts⟩ := accepts_of_redirectUnderPrefix h
  refine ⟨got, want, hgot, hwant, ?_⟩
  have hcons := path_cons_of_accepts hgot haccepts
  have hlevel : ∀ k ≤ 5, startsWith (removeDotSegments (unquote^[k] (anchored want.path)))
      (removeDotSegments (unquote^[k] (uriPath redirectUri))) = true ↔ ParamsStayBelow got want k := by
    intro k hk
    rcases uriPath_eq hline hgot haccepts.scheme with ⟨hpath, hnone⟩ | hpath
    · rw [hpath]
      refine iff_of_true (startsWith_of_accepts haccepts hcons hk) (Or.inl ?_)
      have hparams : paramSegments got k = [] := by
        unfold paramSegments
        rw [hnone, iterate_unquote_nil]
        rfl
      rw [hparams]
      exact Nat.zero_le _
    · rw [hpath]
      exact startsWith_iff_paramsStayBelow haccepts hcons hk
  constructor
  · intro hcontained k hk
    exact (hlevel k hk).mp (hcontained.path k hk)
  · intro hparams
    exact ⟨haccepts.scheme, haccepts.username, haccepts.password, haccepts.host, haccepts.port,
      fun k hk => (hlevel k hk).mpr (hparams k hk)⟩

/-! ## Examples -/

/-- The prefix of a provider whose callbacks carry the id of an instance. -/
def connectorPrefix : PyStr := lit "https://chatgpt.com/connector/oauth/"

/-- A callback with a parameter is accepted and stays below the prefix. -/
theorem redirect_contained_callback : letI := asciiDatabase
    ∃ got want, urlparse (lit "https://chatgpt.com/connector/oauth/abc;v=1%2f2") = some got ∧
      urlparse connectorPrefix = some want ∧
      Contained (lit "https://chatgpt.com/connector/oauth/abc;v=1%2f2") got want := by
  let _ := asciiDatabase
  obtain ⟨got, want, hgot, hwant, hiff⟩ := redirect_contained_iff
    (lit "https://chatgpt.com/connector/oauth/abc;v=1%2f2") connectorPrefix (by decide) (by decide)
  have hparsed : urlparse (lit "https://chatgpt.com/connector/oauth/abc;v=1%2f2") =
      some ⟨lit "https", lit "chatgpt.com", lit "/connector/oauth/abc", lit "v=1%2f2", [], []⟩ := by
    decide
  have hallowed : urlparse connectorPrefix =
      some ⟨lit "https", lit "chatgpt.com", lit "/connector/oauth/", [], [], []⟩ := by decide
  obtain rfl := Option.some.inj (hgot.symm.trans hparsed)
  obtain rfl := Option.some.inj (hwant.symm.trans hallowed)
  exact ⟨_, _, hgot, hwant, hiff.mpr (by decide)⟩

/-- Decoded once, the parameters of this redirect climb out of the prefix. -/
theorem redirect_escapes : letI := asciiDatabase
    let redirectUri := lit "https://chatgpt.com/connector/oauth/x;%2f..%2f..%2f..%2fevil"
    isOneLine redirectUri = true ∧ redirectUnderPrefix redirectUri connectorPrefix = true ∧
      ¬∃ got want, urlparse redirectUri = some got ∧ urlparse connectorPrefix = some want ∧
        Contained redirectUri got want := by
  let _ := asciiDatabase
  intro redirectUri
  refine ⟨by decide, by decide, ?_⟩
  rintro ⟨got, want, -, hwant, hcontained⟩
  have hallowed : urlparse connectorPrefix =
      some ⟨lit "https", lit "chatgpt.com", lit "/connector/oauth/", [], [], []⟩ := by decide
  obtain rfl := Option.some.inj (hwant.symm.trans hallowed)
  have hpath := hcontained.path 1 (by decide)
  revert hpath
  decide

end McpSql
