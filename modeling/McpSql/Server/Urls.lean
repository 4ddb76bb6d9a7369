import Mathlib.Data.List.Nodup
import McpSql.Python.Str

/-!
# The URL surface

The routes of `urls.py`, and the two directions in which Django uses them: `reverse` writes the path
of a name, and the resolver finds the view of a path.  The project mounts the routes by an `include`
under a prefix, which is empty in the documented setup.
-/

namespace McpSql

open Python PyStr

/-- The views that are mounted. -/
inductive View where
  | authorize
  | token
  | revokeToken
  | registerClient
  | mcpEndpoint
  | protectedResourceMetadata
  | authorizationServerMetadata
  deriving DecidableEq, Repr

/-- A `path(route, view, name=...)`; the view may be wrapped in `cap_request_body()`. -/
structure UrlPattern where
  route : PyStr
  view : View
  capped : Bool
  name : Option PyStr
  deriving DecidableEq, Repr

/-- `urlpatterns`. -/
def urlpatterns : List UrlPattern :=
  [⟨lit "o/authorize/", .authorize, true, some (lit "authorize")⟩,
    ⟨lit "o/token/", .token, true, some (lit "token")⟩,
    ⟨lit "o/revoke_token/", .revokeToken, true, some (lit "revoke-token")⟩,
    ⟨lit "o/register", .registerClient, true, some (lit "oauth_dynamic_client_registration")⟩,
    ⟨lit "mcp/sql/", .mcpEndpoint, false, some (lit "mcp_sql_endpoint")⟩,
    ⟨lit "mcp/sql", .mcpEndpoint, false, none⟩,
    ⟨lit ".well-known/oauth-protected-resource/mcp/sql", .protectedResourceMetadata, false,
      some (lit "mcp_sql_protected_resource_metadata")⟩,
    ⟨lit ".well-known/oauth-authorization-server/o", .authorizationServerMetadata, false,
      some (lit "oauth_authorization_server_metadata")⟩]

/-- A character that Django writes into a path as it is, and that makes no dot segment. -/
def isMountChar (c : CodePoint) : Bool :=
  isAsciiAlpha c || isAsciiDigit c || c = 0x2d || c = 0x5f || c = 0x2f

/-- The prefix of the `include`. -/
structure Mount where
  text : PyStr
  plain : ∀ c ∈ text, isMountChar c = true
  relative : text.head? ≠ some 0x2f

namespace Mount

/-- `path("", include("mcp_sql.urls"))`. -/
def root : Mount := ⟨[], fun _ h => absurd h List.not_mem_nil, nofun⟩

/-- The path of a route. -/
def path (mount : Mount) (route : PyStr) : PyStr := lit "/" ++ (mount.text ++ route)

theorem path_injective (mount : Mount) : Function.Injective mount.path :=
  fun _ _ h => List.append_cancel_left (List.append_cancel_left h)

end Mount

/-- `reverse(name)`; `none` is the `NoReverseMatch`. -/
def reverse (mount : Mount) (name : PyStr) : Option PyStr :=
  (urlpatterns.find? fun p => p.name = some name).map fun p => mount.path p.route

/-- The view of a path, if one of the routes is its own. -/
def resolve (mount : Mount) (path : PyStr) : Option View :=
  (urlpatterns.find? fun p => mount.path p.route = path).map UrlPattern.view

/-! ## Routes and names -/

/-- A key finds the member it belongs to, when the keys are distinct. -/
theorem find?_of_mem {α β : Type} [DecidableEq β] {l : List α} {key : α → β}
    (h : (l.map key).Nodup) {x : α} (hx : x ∈ l) :
    l.find? (fun y => key y = key x) = some x := by
  induction l with
  | nil => exact absurd hx List.not_mem_nil
  | cons y l ih =>
    rw [List.map_cons, List.nodup_cons] at h
    rcases List.mem_cons.mp hx with rfl | hrest
    · exact List.find?_cons_of_pos (decide_eq_true rfl)
    · have hne : key y ≠ key x := fun heq => h.1 (heq ▸ List.mem_map_of_mem hrest)
      rw [List.find?_cons_of_neg (by simpa using hne)]
      exact ih h.2 hrest

/-- No two routes are the same. -/
theorem nodup_routes : (urlpatterns.map UrlPattern.route).Nodup := by decide +kernel

/-- No two patterns have the same name, and one has none. -/
theorem nodup_names : (urlpatterns.map UrlPattern.name).Nodup := by decide +kernel

/-- `reverse` writes the path of the pattern that has the name. -/
theorem reverse_of_mem (mount : Mount) {p : UrlPattern} (h : p ∈ urlpatterns) {name : PyStr}
    (hname : p.name = some name) : reverse mount name = some (mount.path p.route) := by
  have hfind := find?_of_mem nodup_names h
  rw [hname] at hfind
  unfold reverse
  rw [hfind]
  rfl

/-- A route resolves to its view. -/
theorem resolve_of_mem (mount : Mount) {p : UrlPattern} (h : p ∈ urlpatterns) :
    resolve mount (mount.path p.route) = some p.view := by
  have hroutes : (urlpatterns.map fun p => mount.path p.route).Nodup := by
    have hmap := List.Nodup.map mount.path_injective nodup_routes
    rwa [List.map_map] at hmap
  unfold resolve
  rw [find?_of_mem hroutes h]
  rfl

/-- A path that is resolved is the path of a route. -/
theorem resolve_eq_some {mount : Mount} {path : PyStr} {view : View}
    (h : resolve mount path = some view) :
    ∃ p ∈ urlpatterns, path = mount.path p.route ∧ p.view = view := by
  obtain ⟨p, hfind, hview⟩ := Option.map_eq_some_iff.mp h
  have hpath := List.find?_some hfind
  exact ⟨p, List.mem_of_find?_eq_some hfind, (of_decide_eq_true hpath).symm, hview⟩

/-- A character that needs no quoting, in a URL or between quotes. -/
def isUrlChar (c : CodePoint) : Bool := isAscii c && c ≠ 0x22

theorem of_isUrlChar {c : CodePoint} (h : isUrlChar c = true) : c.val < 0x80 ∧ c ≠ 0x22 := by
  unfold isUrlChar isAscii at h
  simpa using h

/-- The path of a route has such characters alone. -/
theorem all_path (mount : Mount) {p : UrlPattern} (h : p ∈ urlpatterns) :
    (mount.path p.route).all isUrlChar = true := by
  have hroutes : (urlpatterns.all fun p => p.route.all isUrlChar) = true := by decide +kernel
  have hmount : mount.text.all isUrlChar = true := by
    refine List.all_eq_true.mpr fun c hc => ?_
    have hplain := mount.plain c hc
    unfold isUrlChar isAscii
    simp only [isMountChar, isAsciiAlpha, isAsciiDigit, Bool.or_eq_true, Bool.and_eq_true,
      decide_eq_true_eq, ne_eq, Fin.ext_iff] at hplain ⊢
    have hquote : (0x22 : CodePoint).val = 0x22 := rfl
    omega
  have hslash : (lit "/").all isUrlChar = true := by decide
  unfold Mount.path
  rw [List.all_append, List.all_append, hslash, hmount, List.all_eq_true.mp hroutes p h]
  rfl

end McpSql
