import McpSql.Auth.CloudRedirects
import McpSql.Startup.Usable

/-!
# Prefixes at the startup and at a login

`_validate_cloud_redirect_uri` (`validation.py`) reads a `prefix` redirect URI once, at the startup;
`_redirect_under_prefix` (`oauth.py`) reads it again at every login, next to the redirect URI of the
request.  The two look at the same URI differently: the startup check decodes the path once and never
looks at the port, the login decodes it five times and refuses a port it cannot read.  An accepted
prefix is therefore alive exactly when its port can be read and its path hides no `..` from the first
decoding.
-/

namespace McpSql

open Python PyStr Raising

/-! ## What the startup check has seen -/

section Startup

variable [UnicodeDatabase]

/-- What `_validate_cloud_redirect_uri` has checked of a `prefix` URI. -/
structure PrefixChecked (parsed : ParseResult) : Prop where
  scheme : parsed.scheme = lit "https"
  username : parsed.username.getD [] = []
  password : parsed.password.getD [] = []
  host : parsed.hostname.getD [] ≠ []
  noTraversal : lit ".." ∉ splitOn 0x2f (unquote parsed.path)
  slash : parsed.path.getLast? = some 0x2f

theorem prefixChecked_of_uriProblems {uri : PyStr} {parsed : ParseResult}
    (h : uriProblems true uri parsed = []) : PrefixChecked parsed := by
  unfold uriProblems at h
  have hnone := List.filter_eq_nil_iff.mp (List.map_eq_nil_iff.mp h)
  simp only [List.mem_cons, List.not_mem_nil, or_false, forall_eq_or_imp, forall_eq, Bool.true_and,
    Bool.or_eq_true, decide_eq_true_eq, not_or, not_not, List.contains_eq_mem] at hnone
  obtain ⟨hscheme, ⟨husername, hpassword⟩, hhost, -, htraversal, -, hslash⟩ := hnone
  exact ⟨hscheme, husername, hpassword, hhost, htraversal, hslash⟩

variable {env : StartupEnv}

omit [UnicodeDatabase] in
theorem safeRedirect_mem_clientsChecksFrom {entry : RawCloudClient} {clients : List RawCloudClient}
    (hentry : entry ∈ clients) (seen : List PyObject) :
    safeRedirect entry.name entry.redirectMatch entry.redirectUri ∈ clientsChecksFrom seen clients := by
  induction clients generalizing seen with
  | nil => simp at hentry
  | cons first rest ih =>
    rw [clientsChecksFrom]
    rcases List.mem_cons.mp hentry with rfl | hrest
    · simp
    · exact List.mem_append_right _ (ih hrest _)

/-- Every client of an accepted list has passed the check of its redirect URI. -/
theorem passes_safeRedirect {clients : List RawCloudClient}
    (h : validateCloudClients env clients = .ok ()) {entry : RawCloudClient}
    (hentry : entry ∈ clients) :
    (safeRedirect entry.name entry.redirectMatch entry.redirectUri).Passes env := by
  unfold validateCloudClients at h
  obtain ⟨u, hfrom, -⟩ := bind_eq_ok.mp h
  rw [validateCloudClientsFrom_eq] at hfrom
  apply Check.run_eq_ok_iff.mp
  exact forM_eq_ok.mp hfrom _ (safeRedirect_mem_clientsChecksFrom hentry [])

/-- An accepted `prefix` URI is parsed, and the parts are as checked. -/
theorem prefixChecked_of_passes {name : PyObject} {uri : PyStr}
    (h : (safeRedirect name (.str (lit "prefix")) (.str uri)).Passes env) :
    ∃ parsed, urlparse uri = some parsed ∧ PrefixChecked parsed := by
  have heval : (fun found => decide (found ≠ [])) <$>
      redirectProblems env (.str (lit "prefix")) (.str uri) = .ok false := h
  unfold redirectProblems at heval
  cases hparsed : urlparse uri with
  | none => simp [PyObject.asStr, hparsed] at heval
  | some parsed =>
    have hfound : (Except.ok (decide (uriProblems true uri parsed ≠ [])) : Except PyExc Bool) =
        .ok false := by
      simpa [PyObject.asStr, hparsed, equalTo, builtinEqual, PyObject.number] using heval
    have hnone : uriProblems true uri parsed = [] := by simpa using Except.ok.inj hfound
    exact ⟨parsed, rfl, prefixChecked_of_uriProblems hnone⟩

end Startup

/-! ## A callback below the prefix -/

/-- A letter, a digit, `-` or `_`. -/
def isUnreserved (c : CodePoint) : Bool :=
  isAsciiAlpha c || isAsciiDigit c || c = 0x2d || c = 0x5f

/-- The id of an instance. -/
def isInstanceId (suffix : PyStr) : Bool := suffix.all isUnreserved

theorem ne_of_isUnreserved {c d : CodePoint} (h : isUnreserved c = true)
    (hd : isUnreserved d = false) : c ≠ d := by
  rintro rfl
  rw [h] at hd
  exact Bool.false_ne_true hd.symm

theorem val_of_isUnreserved {c : CodePoint} (h : isUnreserved c = true) :
    0x2d ≤ c.val ∧ c.val ≤ 0x7a := by
  simp only [isUnreserved, isAsciiAlpha, isAsciiDigit, Bool.or_eq_true, Bool.and_eq_true,
    decide_eq_true_eq] at h
  rcases h with ((hletter | hdigit) | rfl) | rfl
  · omega
  · omega
  · decide
  · decide

section Suffix

variable {suffix : PyStr} (hsuffix : isInstanceId suffix = true)

include hsuffix

theorem isInner_of_isInstanceId : suffix.all isInner = true := by
  rw [List.all_eq_true]
  intro c hc
  have hc := List.all_eq_true.mp hsuffix c hc
  have hval : 0x20 < c.val := lt_of_lt_of_le (by decide) (val_of_isUnreserved hc).1
  have hne : ∀ d : CodePoint, isUnreserved d = false → c ≠ d := fun d => ne_of_isUnreserved hc
  simp [isInner, hval, hne 0x23 (by decide), hne 0x2f (by decide), hne 0x3a (by decide),
    hne 0x3b (by decide), hne 0x3f (by decide)]

theorem unquote_isInstanceId : unquote suffix = suffix := by
  apply unquote_eq_self
  intro c hc
  have hc := List.all_eq_true.mp hsuffix c hc
  have hval : c.val < 0x80 := lt_of_le_of_lt (val_of_isUnreserved hc).2 (by decide)
  exact ⟨by simpa [isAscii] using hval, ne_of_isUnreserved hc (by decide)⟩

theorem notMem_isInstanceId {d : CodePoint} (hd : isUnreserved d = false) : d ∉ suffix := by
  intro hmem
  exact ne_of_isUnreserved (List.all_eq_true.mp hsuffix d hmem) hd rfl

/-- Behind a slash, an id adds no `..` at any level of decoding. -/
theorem up_mem_append_iff {path : PyStr} (hslash : path.getLast? = some 0x2f) (k : ℕ) :
    lit ".." ∈ splitOn 0x2f (unquote^[k] (path ++ suffix)) ↔
      lit ".." ∈ splitOn 0x2f (unquote^[k] path) := by
  obtain ⟨front, rfl⟩ := List.getLast?_eq_some_iff.mp hslash
  have hid : unquote^[k] suffix = suffix := Function.iterate_fixed (unquote_isInstanceId hsuffix) k
  have hdots : lit ".." ≠ suffix := by
    rintro rfl
    exact absurd hsuffix (by decide)
  have hwhole : front ++ [0x2f] ++ suffix = front ++ 0x2f :: suffix := by simp
  rw [hwhole, iterate_unquote_append_cons separates_slash, iterate_unquote_append_cons separates_slash,
    splitOn_append_cons, splitOn_append_cons, hid, iterate_unquote_nil,
    splitOn_of_notMem (notMem_isInstanceId hsuffix (by decide)), splitOn_of_notMem List.not_mem_nil]
  have hnil : lit ".." ≠ [] := by decide
  simp only [List.mem_append, List.mem_singleton, hdots, hnil]

end Suffix

/-! ## The law -/

section Law

variable [UnicodeDatabase]

/-- A prefix whose port can be read and whose path has no `..` segment, decoded up to five times. -/
def IsLive (uri : PyStr) : Prop :=
  ∃ parsed, urlparse uri = some parsed ∧ parsed.port.isSome ∧
    lit ".." ∉ splitOn 0x2f (unquote^[5] parsed.path)

/-- The attributes of the authority are read from the authority. -/
theorem authority_congr {r r' : ParseResult} (h : r'.netloc = r.netloc) :
    r'.username = r.username ∧ r'.password = r.password ∧ r'.hostname = r.hostname ∧
      effectivePort r' = effectivePort r := by
  have huserinfo : r'.userinfo = r.userinfo := by
    unfold ParseResult.userinfo
    rw [h]
  have hhostinfo : r'.hostinfo = r.hostinfo := by
    unfold ParseResult.hostinfo
    rw [huserinfo]
  unfold ParseResult.username ParseResult.password ParseResult.hostname effectivePort ParseResult.port
  rw [huserinfo, hhostinfo]
  exact ⟨rfl, rfl, rfl, rfl⟩

/-- Below a checked prefix, a callback is refused for the port or for a `..` of the prefix only. -/
theorem redirectUnderPrefix_append_iff {uri suffix : PyStr} {parsed : ParseResult}
    (hparsed : urlparse uri = some parsed) (hchecked : PrefixChecked parsed)
    (hsuffix : isInstanceId suffix = true) :
    redirectUnderPrefix (uri ++ suffix) uri = true ↔ IsLive uri := by
  have hne : parsed.path ≠ [] := by
    intro hnil
    have hslash := hchecked.slash
    rw [hnil] at hslash
    simp at hslash
  obtain ⟨got, hgot, hscheme, hnetloc, hpath⟩ :=
    urlparse_append (isInner_of_isInstanceId hsuffix) hparsed hne
  obtain ⟨husername, hpassword, hhost, hport⟩ := authority_congr hnetloc
  have hdots : lit ".." ∈ splitOn 0x2f (unquote^[5] got.path) ↔
      lit ".." ∈ splitOn 0x2f (unquote^[5] parsed.path) := by
    rcases hpath with hsame | hlonger
    · rw [hsame]
    · rw [hlonger]
      exact up_mem_append_iff hsuffix hchecked.slash 5
  have hreadable : (effectivePort parsed).isSome ↔ parsed.port.isSome := by
    unfold effectivePort
    rw [Option.isSome_map]
  constructor
  · intro h
    obtain ⟨got', want, hgot', hwant, haccepts⟩ := accepts_of_redirectUnderPrefix h
    obtain rfl := Option.some.inj (hgot.symm.trans hgot')
    refine ⟨parsed, hparsed, ?_, ?_⟩
    · rw [← hreadable, ← hport]
      exact haccepts.port.1
    · rw [← hdots]
      exact haccepts.noTraversal
  · rintro ⟨parsed', hparsed', hsome, hnone⟩
    obtain rfl := Option.some.inj (hparsed.symm.trans hparsed')
    have hanchored : anchored parsed.path = parsed.path := if_pos hchecked.slash
    apply redirectUnderPrefix_of_accepts hgot hparsed
    constructor
    · exact hscheme.trans hchecked.scheme
    · rw [husername]
      exact hchecked.username
    · rw [hpassword]
      exact hchecked.password
    · rw [hhost]
      exact ⟨hchecked.host, rfl⟩
    · rw [hport]
      exact ⟨hreadable.mpr hsome, rfl⟩
    · rw [hdots]
      exact hnone
    · rw [hanchored]
      rcases hpath with hsame | hlonger
      · exact hsame ▸ List.prefix_refl parsed.path
      · rw [hlonger]
        exact List.prefix_append _ _

variable {env : StartupEnv}

/-- Below a prefix the startup check accepts, a login accepts every callback if the prefix is live, and
none if it is not. -/
theorem login_under_accepted_iff {clients : List RawCloudClient}
    (h : validateCloudClients env clients = .ok ()) {entry : RawCloudClient}
    (hentry : entry ∈ clients) (hmatch : entry.redirectMatch = .str (lit "prefix")) {uri : PyStr}
    (huri : entry.redirectUri = .str uri) {suffix : PyStr} (hsuffix : isInstanceId suffix = true) :
    redirectUnderPrefix (uri ++ suffix) uri = true ↔ IsLive uri := by
  have hpasses := passes_safeRedirect h hentry
  rw [hmatch, huri] at hpasses
  obtain ⟨parsed, hparsed, hchecked⟩ := prefixChecked_of_passes hpasses
  exact redirectUnderPrefix_append_iff hparsed hchecked hsuffix

end Law

/-! ## Examples -/

/-- One cloud client, with a prefix. -/
def prefixClients (uri : PyStr) : List RawCloudClient :=
  [⟨.str (lit "chatgpt"), .str (lit "prefix"), .str uri⟩]

/-- The documented prefix admits a callback. -/
theorem login_under_connectorPrefix : letI := asciiDatabase
    redirectUnderPrefix (connectorPrefix ++ lit "abc_1-2") connectorPrefix = true := by
  let _ := asciiDatabase
  have haccepted : validateCloudClients plainEnv (prefixClients connectorPrefix) = .ok () := by decide
  have hparsed : urlparse connectorPrefix =
      some ⟨lit "https", lit "chatgpt.com", lit "/connector/oauth/", [], [], []⟩ := by decide
  have hlive : IsLive connectorPrefix := ⟨_, hparsed, by decide, by decide⟩
  exact (login_under_accepted_iff haccepted List.mem_cons_self rfl rfl (by decide)).mpr hlive

/-- A prefix with the port 99999, and one with a `..` that is escaped twice, are accepted at the
startup; no callback below them is accepted at a login. -/
theorem accepted_prefix_dead : letI := asciiDatabase
    let badPort := lit "https://chatgpt.com:99999/connector/oauth/"
    let hiddenUp := lit "https://chatgpt.com/connector/%252e%252e/oauth/"
    (validateCloudClients plainEnv (prefixClients badPort) = .ok () ∧
      urlparse badPort =
        some ⟨lit "https", lit "chatgpt.com:99999", lit "/connector/oauth/", [], [], []⟩ ∧
      redirectUnderPrefix (badPort ++ lit "abc") badPort = false) ∧
    (validateCloudClients plainEnv (prefixClients hiddenUp) = .ok () ∧
      urlparse hiddenUp =
        some ⟨lit "https", lit "chatgpt.com", lit "/connector/%252e%252e/oauth/", [], [], []⟩ ∧
      redirectUnderPrefix (hiddenUp ++ lit "abc") hiddenUp = false) := by
  let _ := asciiDatabase
  intro badPort hiddenUp
  exact ⟨⟨by decide, by decide, by decide⟩, by decide, by decide, by decide⟩

end McpSql
