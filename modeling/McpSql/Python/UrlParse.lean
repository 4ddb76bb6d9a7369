import Mathlib.Data.List.TakeWhile
import McpSql.Python.Int

/-!
# `urllib.parse.urlparse`

`urlsplit` and `urlparse` on a string, with the attributes of their result, as in the standard
library of Python 3.11: leading control characters and spaces are stripped, TAB, CR and LF are
removed wherever they stand, and a bracketed host must be an IPv6 or IPvFuture literal.  `none`
stands for the `ValueError` these functions raise.
-/

namespace Python

open PyStr

/-! ## IP literals -/

/-- `IPv4Address._parse_octet` succeeds. -/
def isIpv4Octet (s : PyStr) : Bool :=
  s ≠ [] && s.all isAsciiDigit && s.length ≤ 3 && (s = lit "0" || s.head? ≠ some 0x30) &&
    s.foldl (fun n c => 10 * n + (c.val - 0x30)) 0 ≤ 255

/-- `ipaddress.IPv4Address(s)` succeeds. -/
def isIpv4 (s : PyStr) : Bool :=
  let octets := splitOn 0x2e s
  octets.length = 4 && octets.all isIpv4Octet

/-- `IPv6Address._parse_hextet` succeeds. -/
def isHextet (s : PyStr) : Bool := s.all isHexDigit && s.length ≤ 4 && s ≠ []

/-- The groups between colons, an IPv4 tail counting for two. -/
def ipv6Groups (s : PyStr) : Option (List PyStr) :=
  let parts := splitOn 0x3a s
  let last := parts.getLast?.getD []
  if parts.length < 3 then none
  else if 0x2e ∈ last then
    if isIpv4 last then some (parts.dropLast ++ [lit "0", lit "0"]) else none
  else some parts

/-- The groups spell an address: eight hextets, or at most seven around one `::`. -/
def isIpv6Groups (parts : List PyStr) : Bool :=
  let n := parts.length
  let leading : Bool := parts.head? = some []
  let trailing : Bool := parts.getLast? = some []
  let skips := (List.range n).filter fun i => 0 < i && i + 1 < n && parts[i]? = some []
  match skips with
  | [] => n = 8 && parts.all isHextet
  | [skip] =>
    n ≤ 9 && (if leading then skip = 1 else (parts.take skip).all isHextet) &&
      (if trailing then skip + 2 = n else (parts.drop (skip + 1)).all isHextet) &&
      (if leading then 0 else skip) + (if trailing then 0 else n - skip - 1) ≤ 7
  | _ => false

/-- `ipaddress.IPv6Address(s)` succeeds. -/
def isIpv6 (s : PyStr) : Bool :=
  let (address, hasScope, scope) := partition 0x25 s
  0x2f ∉ s && !(hasScope && (scope = [] || 0x25 ∈ scope)) && (ipv6Groups address).any isIpv6Groups

/-- `_check_bracketed_host` returns: an IPvFuture or IPv6 literal. -/
def isBracketedHost (host : PyStr) : Bool :=
  match host with
  | 0x76 :: version =>
    let digits := version.takeWhile isHexDigit
    match version.dropWhile isHexDigit with
    | 0x2e :: rest => digits ≠ [] && rest ≠ [] && 0x0a ∉ rest
    | _ => false
  | _ => isIpv6 host

/-! ## Splitting -/

/-- A character `urlsplit` accepts in a scheme. -/
def isSchemeChar (c : CodePoint) : Bool :=
  isAsciiAlpha c || isAsciiDigit c || c = 0x2b || c = 0x2d || c = 0x2e

/-- What `urlsplit` does before it looks at the text: it strips leading C0 controls and spaces and
removes every TAB, CR and LF. -/
def cleanUrl (url : PyStr) : PyStr :=
  (url.dropWhile (·.val ≤ 0x20)).filter fun c => c ≠ 0x09 && c ≠ 0x0d && c ≠ 0x0a

/-- The scheme in lower case and the text after it. -/
def splitScheme (url : PyStr) : PyStr × PyStr :=
  let (scheme, found, rest) := partition 0x3a url
  if found && (scheme.head?.any isAsciiAlpha) && scheme.all isSchemeChar then
    (scheme.map asciiLower, rest)
  else ([], url)

/-- The authority after `//` and the text that follows it. -/
def splitNetloc (url : PyStr) : PyStr × PyStr :=
  match url with
  | 0x2f :: 0x2f :: rest =>
    (rest.takeWhile fun c => c ≠ 0x2f && c ≠ 0x3f && c ≠ 0x23,
      rest.dropWhile fun c => c ≠ 0x2f && c ≠ 0x3f && c ≠ 0x23)
  | _ => ([], url)

/-- The brackets of an authority are balanced around a valid host. -/
def bracketsOk (netloc : PyStr) : Bool :=
  match decide (0x5b ∈ netloc), decide (0x5d ∈ netloc) with
  | true, true => isBracketedHost (partition 0x5d (partition 0x5b netloc).2.2).1
  | false, false => true
  | _, _ => false

/-- `urllib.parse.SplitResult`. -/
structure SplitResult where
  scheme : PyStr
  netloc : PyStr
  path : PyStr
  query : PyStr
  fragment : PyStr
  deriving DecidableEq, Repr

/-- `urllib.parse.ParseResult`. -/
structure ParseResult where
  scheme : PyStr
  netloc : PyStr
  path : PyStr
  params : PyStr
  query : PyStr
  fragment : PyStr
  deriving DecidableEq, Repr

/-- `uses_params`: the schemes whose last path segment may carry parameters. -/
def usesParams : List PyStr :=
  [[], lit "ftp", lit "hdl", lit "prospero", lit "http", lit "imap", lit "https", lit "shttp",
    lit "rtsp", lit "rtsps", lit "rtspu", lit "sip", lit "sips", lit "mms", lit "sftp", lit "tel"]

/-- `_splitparams`: the parameters start at the first `;` of the last segment. -/
def splitParams (url : PyStr) : PyStr × PyStr :=
  let (dir, found, last) := rpartition 0x2f url
  let (segment, _, params) := partition 0x3b last
  (if found then dir ++ 0x2f :: segment else segment, params)

/-- `_splitparams` cuts at a `;` of the last segment, or not at all. -/
theorem splitParams_cases (path : PyStr) :
    (splitParams path).1 = path ∧ (splitParams path).2 = [] ∨
      path = (splitParams path).1 ++ 0x3b :: (splitParams path).2 := by
  rcases rpartition_cases 0x2f path with ⟨-, hdir⟩ | ⟨dir, last, rfl, -, hdir⟩
  · rcases partition_cases 0x3b path with ⟨-, hparams⟩ | ⟨segment, params, rfl, -, hparams⟩
    · have hcut : splitParams path = (path, []) := by simp [splitParams, hdir, hparams]
      rw [hcut]
      exact Or.inl ⟨rfl, rfl⟩
    · have hcut : splitParams (segment ++ 0x3b :: params) = (segment, params) := by
        simp [splitParams, hdir, hparams]
      rw [hcut]
      exact Or.inr rfl
  · rcases partition_cases 0x3b last with ⟨-, hparams⟩ | ⟨segment, params, rfl, -, hparams⟩
    · have hcut : splitParams (dir ++ 0x2f :: last) = (dir ++ 0x2f :: last, []) := by
        simp [splitParams, hdir, hparams]
      rw [hcut]
      exact Or.inl ⟨rfl, rfl⟩
    · have hcut : splitParams (dir ++ 0x2f :: (segment ++ 0x3b :: params)) =
          (dir ++ 0x2f :: segment, params) := by
        simp [splitParams, hdir, hparams]
      rw [hcut]
      exact Or.inr (by simp)

section Parse

variable [UnicodeDatabase]

/-- `_checknetloc` returns: normalisation does not bring delimiters into the authority. -/
def netlocOk (netloc : PyStr) : Bool :=
  let n := netloc.filter fun c => c ≠ 0x40 && c ≠ 0x3a && c ≠ 0x23 && c ≠ 0x3f
  let normalized := UnicodeDatabase.nfkc n
  netloc.all isAscii || n = normalized ||
    !(normalized.any fun c => c = 0x2f || c = 0x3f || c = 0x23 || c = 0x40 || c = 0x3a)

/-- `urlsplit(url)`. -/
def urlsplit (url : PyStr) : Option SplitResult :=
  let (scheme, rest) := splitScheme (cleanUrl url)
  let (netloc, rest) := splitNetloc rest
  if bracketsOk netloc && netlocOk netloc then
    let (rest, _, fragment) := partition 0x23 rest
    let (path, _, query) := partition 0x3f rest
    some ⟨scheme, netloc, path, query, fragment⟩
  else none

/-- The text of the `ValueError` that `_check_bracketed_host` raises. -/
def bracketedHostError (host : PyStr) : PyStr :=
  if host.head? = some 0x76 then lit "IPvFuture address is invalid"
  else if isIpv4 host then lit "An IPv4 address cannot be in brackets"
  else host.repr ++ lit " does not appear to be an IPv4 or IPv6 address"

/-- The text of the `ValueError` that `urlsplit` raises. -/
def urlsplitError (url : PyStr) : PyStr :=
  let netloc := (splitNetloc (splitScheme (cleanUrl url)).2).1
  if bracketsOk netloc then
    lit "netloc " ++ netloc.repr ++ lit " contains invalid characters under NFKC normalization"
  else if 0x5b ∈ netloc ∧ 0x5d ∈ netloc then
    bracketedHostError (partition 0x5d (partition 0x5b netloc).2.2).1
  else lit "Invalid IPv6 URL"

/-- `urlparse(url)`. -/
def urlparse (url : PyStr) : Option ParseResult := do
  let split ← urlsplit url
  let (path, params) :=
    if split.scheme ∈ usesParams && 0x3b ∈ split.path then splitParams split.path
    else (split.path, [])
  return ⟨split.scheme, split.netloc, path, params, split.query, split.fragment⟩

namespace ParseResult

/-- The text before the last `@` of the authority, and the text after it. -/
def userinfo (r : ParseResult) : Option PyStr × PyStr :=
  let (info, found, hostinfo) := rpartition 0x40 r.netloc
  (if found then some info else none, hostinfo)

/-- `result.username`. -/
def username (r : ParseResult) : Option PyStr := r.userinfo.1.map fun info => (partition 0x3a info).1

/-- `result.password`. -/
def password (r : ParseResult) : Option PyStr :=
  r.userinfo.1.bind fun info =>
    let (_, found, password) := partition 0x3a info
    if found then some password else none

/-- The host and port texts of the authority. -/
def hostinfo (r : ParseResult) : PyStr × PyStr :=
  let (beforeBracket, bracketed, inBracket) := partition 0x5b r.userinfo.2
  if bracketed then
    let (host, _, rest) := partition 0x5d inBracket
    (host, (partition 0x3a rest).2.2)
  else
    let (host, _, port) := partition 0x3a beforeBracket
    (host, port)

/-- `result.hostname`: in lower case up to a zone, `none` when empty. -/
def hostname (r : ParseResult) : Option PyStr :=
  match r.hostinfo.1 with
  | [] => none
  | host =>
    let (name, percent, zone) := partition 0x25 host
    some (if percent then lower name ++ 0x25 :: zone else lower name)

/-- `result.port`: `some none` without a port, `none` where the attribute raises `ValueError`, which
`int` does for a numeral of too many digits as well. -/
def port (r : ParseResult) : Option (Option ℕ) :=
  match r.hostinfo.2 with
  | [] => some none
  | digits =>
    let value := digits.foldl (fun n c => 10 * n + (c.val - 0x30)) 0
    if digits.all isAsciiDigit && digits.length ≤ intMaxStrDigits && value ≤ 65535 then
      some (some value)
    else none

end ParseResult

/-! ## The path -/

/-- The path `urlsplit` returns ends before the query and the fragment. -/
theorem path_of_urlsplit {url : PyStr} {split : SplitResult} (h : urlsplit url = some split) :
    split.scheme = (splitScheme (cleanUrl url)).1 ∧
      split.netloc = (splitNetloc (splitScheme (cleanUrl url)).2).1 ∧
      split.path = (splitNetloc (splitScheme (cleanUrl url)).2).2.takeWhile
        fun c => c ≠ 0x3f && c ≠ 0x23 := by
  unfold urlsplit at h
  simp only [] at h
  by_cases hok : (bracketsOk (splitNetloc (splitScheme (cleanUrl url)).2).1 &&
      netlocOk (splitNetloc (splitScheme (cleanUrl url)).2).1) = true
  · rw [if_pos hok] at h
    rw [← Option.some.inj h]
    refine ⟨rfl, rfl, ?_⟩
    show (partition 0x3f (partition 0x23 _).1).1 = _
    rw [partition_fst, partition_fst, List.takeWhile_takeWhile]
    congr 1
    funext c
    simp [bne]
  · rw [if_neg hok] at h
    simp at h

/-- After an authority the path is empty or starts with a slash. -/
theorem path_eq_nil_or_cons {url : PyStr} {split : SplitResult} (h : urlsplit url = some split)
    (hnetloc : split.netloc ≠ []) : split.path = [] ∨ ∃ rest, split.path = 0x2f :: rest := by
  obtain ⟨-, hn, hp⟩ := path_of_urlsplit h
  rw [hn] at hnetloc
  rw [hp]
  generalize (splitScheme (cleanUrl url)).2 = rest at hnetloc ⊢
  unfold splitNetloc at hnetloc ⊢
  split at hnetloc
  · next after =>
    have hhead := List.head?_dropWhile_not (fun c : CodePoint => c ≠ 0x2f && c ≠ 0x3f && c ≠ 0x23)
      after
    cases hdrop : after.dropWhile fun c => c ≠ 0x2f && c ≠ 0x3f && c ≠ 0x23 with
    | nil => exact Or.inl rfl
    | cons c tail =>
      rw [hdrop] at hhead
      by_cases hslash : c = 0x2f
      · subst hslash
        exact Or.inr ⟨tail.takeWhile fun c => c ≠ 0x3f && c ≠ 0x23, by simp⟩
      · have hend : c = 0x3f ∨ c = 0x23 := by
          by_contra hnot
          obtain ⟨hquery, hfragment⟩ := not_or.mp hnot
          simp [hslash, hquery, hfragment] at hhead
        refine Or.inl ?_
        rcases hend with rfl | rfl
        · simp
        · simp
  · exact absurd rfl hnetloc

/-- The path `urlparse` returns is the one of `urlsplit`, without the parameters. -/
theorem path_of_urlparse {url : PyStr} {r : ParseResult} (h : urlparse url = some r) :
    ∃ split, urlsplit url = some split ∧ split.scheme = r.scheme ∧ split.netloc = r.netloc ∧
      (r.path = split.path ∧ r.params = [] ∨ split.path = r.path ++ 0x3b :: r.params) := by
  unfold urlparse at h
  cases hsplit : urlsplit url with
  | none => simp [hsplit] at h
  | some split =>
    refine ⟨split, rfl, ?_⟩
    simp only [hsplit, Option.bind_eq_bind, Option.bind_some] at h
    by_cases hparams : (split.scheme ∈ usesParams && 0x3b ∈ split.path) = true
    · rw [if_pos hparams] at h
      rw [← Option.some.inj h]
      exact ⟨rfl, rfl, splitParams_cases split.path⟩
    · rw [if_neg hparams] at h
      rw [← Option.some.inj h]
      exact ⟨rfl, rfl, Or.inl ⟨rfl, rfl⟩⟩

end Parse

/-! ## More text at the end -/

/-- A character that ends no part of a URL and is never stripped. -/
def isInner (c : CodePoint) : Bool :=
  0x20 < c.val && c ≠ 0x23 && c ≠ 0x2f && c ≠ 0x3a && c ≠ 0x3b && c ≠ 0x3f

theorem notMem_of_isInner {more : PyStr} (h : more.all isInner = true) {c : CodePoint}
    (hc : isInner c = false) : c ∉ more := by
  intro hmem
  have hinner := List.all_eq_true.mp h c hmem
  rw [hc] at hinner
  exact Bool.false_ne_true hinner

theorem cleanUrl_append {url more : PyStr} (h : more.all isInner = true) (hne : cleanUrl url ≠ []) :
    cleanUrl (url ++ more) = cleanUrl url ++ more := by
  have hkept : (url.dropWhile (·.val ≤ 0x20)).isEmpty = false := by
    rw [List.isEmpty_eq_false_iff]
    intro hnil
    apply hne
    unfold cleanUrl
    rw [hnil]
    rfl
  have hmore : (more.filter fun c => c ≠ 0x09 && c ≠ 0x0d && c ≠ 0x0a) = more := by
    rw [List.filter_eq_self]
    intro c hc
    have hinner := List.all_eq_true.mp h c hc
    have hnot : ∀ d : CodePoint, isInner d = false → c ≠ d := by
      rintro d hd rfl
      rw [hinner] at hd
      exact Bool.false_ne_true hd.symm
    simp [hnot 0x09 (by decide), hnot 0x0d (by decide), hnot 0x0a (by decide)]
  unfold cleanUrl
  rw [List.dropWhile_append, hkept, if_neg Bool.false_ne_true, List.filter_append, hmore]

theorem splitScheme_append {url more : PyStr} (h : (0x3a : CodePoint) ∉ more) :
    splitScheme (url ++ more) = ((splitScheme url).1, (splitScheme url).2 ++ more) := by
  unfold splitScheme
  rcases partition_cases 0x3a url with ⟨hnone, hcut⟩ | ⟨scheme, rest, rfl, hscheme, hcut⟩
  · have hnone' : (0x3a : CodePoint) ∉ url ++ more := by
      rw [List.mem_append, not_or]
      exact ⟨hnone, h⟩
    rw [hcut, partition_of_notMem hnone']
    rfl
  · rw [hcut, List.append_assoc, List.cons_append, partition_append_cons hscheme]
    by_cases hvalid : ((scheme.head?.any isAsciiAlpha) && scheme.all isSchemeChar) = true
    · simp only [hvalid, Bool.true_and, if_true]
    · simp only [hvalid, Bool.true_and, Bool.false_eq_true, if_false, List.append_assoc,
        List.cons_append]

theorem splitNetloc_append {url more : PyStr} (h : (0x2f : CodePoint) ∉ more)
    (hne : (splitNetloc url).2 ≠ []) :
    splitNetloc (url ++ more) = ((splitNetloc url).1, (splitNetloc url).2 ++ more) := by
  by_cases hslashes : startsWith (lit "//") url = true
  · obtain ⟨rest, rfl⟩ := List.isPrefixOf_iff_prefix.mp hslashes
    have hrest : (rest.dropWhile fun c => c ≠ 0x2f && c ≠ 0x3f && c ≠ 0x23) ≠ [] := hne
    show ((rest ++ more).takeWhile _, (rest ++ more).dropWhile _) =
      (rest.takeWhile _, rest.dropWhile _ ++ more)
    have hshort : ((rest.takeWhile fun c => c ≠ 0x2f && c ≠ 0x3f && c ≠ 0x23).length ≠
        rest.length) := by
      intro hall
      apply hrest
      have hsum := congrArg List.length (List.takeWhile_append_dropWhile
        (p := fun c : CodePoint => c ≠ 0x2f && c ≠ 0x3f && c ≠ 0x23) (l := rest))
      rw [List.length_append, hall] at hsum
      exact List.length_eq_zero_iff.mp (by omega)
    rw [List.takeWhile_append, if_neg hshort, List.dropWhile_append,
      List.isEmpty_eq_false_iff.mpr hrest, if_neg Bool.false_ne_true]
  · have hother : ∀ s : PyStr, startsWith (lit "//") s ≠ true → splitNetloc s = ([], s) := by
      intro s hs
      unfold splitNetloc
      split
      · exact absurd rfl hs
      · rfl
    have hmore : startsWith (lit "//") (url ++ more) ≠ true := by
      intro hboth
      have hpair := List.isPrefixOf_iff_prefix.mp hboth
      rcases url with _ | ⟨a, _ | ⟨b, url⟩⟩
      · exact h (hpair.subset (by decide))
      · obtain ⟨rest, hrest⟩ := hpair
        have htail : [0x2f] ++ rest = more := (List.cons.inj hrest).2
        exact h (by simp [← htail])
      · obtain ⟨rest, hrest⟩ := hpair
        apply hslashes
        obtain ⟨ha, htail⟩ := List.cons.inj hrest
        obtain ⟨hb, -⟩ := List.cons.inj htail
        rw [← ha, ← hb]
        rfl
    rw [hother url hslashes, hother _ hmore]

/-- `_splitparams` of a longer last segment. -/
theorem splitParams_append {path more : PyStr} (hslash : (0x2f : CodePoint) ∉ more)
    (hsemicolon : (0x3b : CodePoint) ∉ more) :
    (splitParams (path ++ more)).1 = (splitParams path).1 ∨
      (splitParams (path ++ more)).1 = (splitParams path).1 ++ more := by
  have hlast : ∀ last : PyStr, (partition 0x3b (last ++ more)).1 = (partition 0x3b last).1 ∨
      (partition 0x3b (last ++ more)).1 = (partition 0x3b last).1 ++ more := by
    intro last
    rcases partition_cases 0x3b last with ⟨hnone, hcut⟩ | ⟨segment, params, rfl, hsegment, hcut⟩
    · have hnone' : (0x3b : CodePoint) ∉ last ++ more := by
        rw [List.mem_append, not_or]
        exact ⟨hnone, hsemicolon⟩
      rw [hcut, partition_of_notMem hnone']
      exact Or.inr rfl
    · rw [hcut, List.append_assoc, List.cons_append, partition_append_cons hsegment]
      exact Or.inl rfl
  have hpath : rpartition 0x2f (path ++ more) = ((rpartition 0x2f path).1,
      (rpartition 0x2f path).2.1, (rpartition 0x2f path).2.2 ++ more) := by
    have hreverse : (0x2f : CodePoint) ∉ more.reverse := fun hmem => hslash (List.mem_reverse.mp hmem)
    rcases rpartition_cases 0x2f path with ⟨hnone, hcut⟩ | ⟨dir, last, rfl, hlast, hcut⟩
    · have hnone' : (0x2f : CodePoint) ∉ (path ++ more).reverse := by
        rw [List.mem_reverse, List.mem_append, not_or]
        exact ⟨hnone, hslash⟩
      rw [hcut]
      unfold rpartition
      rw [partition_of_notMem hnone']
    · have hend : (0x2f : CodePoint) ∉ (last ++ more).reverse := by
        rw [List.mem_reverse, List.mem_append, not_or]
        exact ⟨hlast, hslash⟩
      have hcutmore : (dir ++ 0x2f :: last ++ more).reverse =
          (last ++ more).reverse ++ 0x2f :: dir.reverse := by simp
      rw [hcut]
      unfold rpartition
      rw [hcutmore, partition_append_cons hend]
      simp
  unfold splitParams
  rw [hpath]
  rcases hlast (rpartition 0x2f path).2.2 with hsame | hlonger
  · simp only [hsame]
    exact Or.inl trivial
  · simp only [hlonger]
    refine Or.inr ?_
    by_cases hfound : (rpartition 0x2f path).2.1 = true
    · simp [hfound]
    · simp [hfound]

section More

variable [UnicodeDatabase] {url more : PyStr} (hmore : more.all isInner = true)

include hmore

/-- More text behind a path makes the path longer, or ends up in the query or the fragment. -/
theorem urlsplit_append {split : SplitResult} (h : urlsplit url = some split)
    (hpath : split.path ≠ []) : ∃ split', urlsplit (url ++ more) = some split' ∧
      split'.scheme = split.scheme ∧ split'.netloc = split.netloc ∧
      (split'.path = split.path ∨ split'.path = split.path ++ more) := by
  obtain ⟨hscheme, hnetloc, hend⟩ := path_of_urlsplit h
  have hne : (splitNetloc (splitScheme (cleanUrl url)).2).2 ≠ [] := by
    intro hnil
    rw [hnil] at hend
    exact hpath hend
  have hclean : cleanUrl (url ++ more) = cleanUrl url ++ more := by
    apply cleanUrl_append hmore
    intro hnil
    rw [hnil] at hne
    exact hne rfl
  have hparts : splitNetloc (splitScheme (cleanUrl (url ++ more))).2 =
      ((splitNetloc (splitScheme (cleanUrl url)).2).1,
        (splitNetloc (splitScheme (cleanUrl url)).2).2 ++ more) := by
    rw [hclean, splitScheme_append (notMem_of_isInner hmore (by decide))]
    exact splitNetloc_append (notMem_of_isInner hmore (by decide)) hne
  have hsome : (urlsplit (url ++ more)).isSome := by
    unfold urlsplit at h ⊢
    simp only [hparts]
    by_cases hok : (bracketsOk (splitNetloc (splitScheme (cleanUrl url)).2).1 &&
        netlocOk (splitNetloc (splitScheme (cleanUrl url)).2).1) = true
    · rw [if_pos hok]
      rfl
    · simp only [] at h
      rw [if_neg hok] at h
      simp at h
  obtain ⟨split', hsplit'⟩ := Option.isSome_iff_exists.mp hsome
  obtain ⟨hscheme', hnetloc', hend'⟩ := path_of_urlsplit hsplit'
  refine ⟨split', hsplit', ?_, ?_, ?_⟩
  · rw [hscheme', hscheme, hclean, splitScheme_append (notMem_of_isInner hmore (by decide))]
  · rw [hnetloc', hnetloc, hparts]
  · rw [hend', hend, hparts, List.takeWhile_append]
    have hall : (more.takeWhile fun c => c ≠ 0x3f && c ≠ 0x23) = more := by
      rw [List.takeWhile_eq_self_iff]
      intro c hc
      have hquery : c ≠ 0x3f := fun heq => notMem_of_isInner hmore (by decide) (heq ▸ hc)
      have hfragment : c ≠ 0x23 := fun heq => notMem_of_isInner hmore (by decide) (heq ▸ hc)
      simp [hquery, hfragment]
    by_cases hwhole : ((splitNetloc (splitScheme (cleanUrl url)).2).2.takeWhile
        fun c => c ≠ 0x3f && c ≠ 0x23).length =
          (splitNetloc (splitScheme (cleanUrl url)).2).2.length
    · rw [if_pos hwhole, hall, ((List.takeWhile_prefix _).eq_of_length hwhole)]
      exact Or.inr rfl
    · rw [if_neg hwhole]
      exact Or.inl rfl

/-- The same for `urlparse`, where the text may end up in the parameters as well. -/
theorem urlparse_append {r : ParseResult} (h : urlparse url = some r) (hpath : r.path ≠ []) :
    ∃ r', urlparse (url ++ more) = some r' ∧ r'.scheme = r.scheme ∧ r'.netloc = r.netloc ∧
      (r'.path = r.path ∨ r'.path = r.path ++ more) := by
  obtain ⟨split, hsplit, -, -, hparts⟩ := path_of_urlparse h
  have hne : split.path ≠ [] := by
    rcases hparts with ⟨hsame, -⟩ | hcut
    · rw [← hsame]
      exact hpath
    · simp [hcut]
  obtain ⟨split', hsplit', hscheme, hnetloc, hsplitPath⟩ := urlsplit_append hmore hsplit hne
  have hsemicolon : (0x3b : CodePoint) ∉ more := notMem_of_isInner hmore (by decide)
  have hsame : decide (0x3b ∈ split'.path) = decide (0x3b ∈ split.path) := by
    rcases hsplitPath with hp | hp
    · rw [hp]
    · simp [hp, hsemicolon]
  unfold urlparse at h ⊢
  simp only [hsplit, hsplit', Option.bind_eq_bind, Option.bind_some, hscheme, hsame, hnetloc] at h ⊢
  by_cases hparams : (split.scheme ∈ usesParams && 0x3b ∈ split.path) = true
  · rw [if_pos hparams] at h ⊢
    rw [← Option.some.inj h]
    refine ⟨_, rfl, rfl, rfl, ?_⟩
    rcases hsplitPath with hp | hp
    · rw [hp]
      exact Or.inl rfl
    · rw [hp]
      exact splitParams_append (notMem_of_isInner hmore (by decide)) hsemicolon
  · rw [if_neg hparams] at h ⊢
    rw [← Option.some.inj h]
    exact ⟨_, rfl, rfl, rfl, hsplitPath⟩

end More

end Python
