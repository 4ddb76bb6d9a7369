import McpSql.Server.Bridge

/-!
# The bridged response

What becomes of a bridged request, for every application: the response is announced by the last call
of `start_response` that was accepted, wherever it was made, and an iterator that was returned is
closed, wherever the application raises.
-/

namespace McpSql

open Python PyStr Effect

/-! ## The exchange with the application -/

section

variable [UnicodeDatabase] {ω : Type}

/-- All that the application does for a request: the call, the iteration, and `close`. -/
def exchange (app : WsgiApp ω) (request : HttpRequest) : WsgiPart ω (List Bytes) :=
  (app request.wsgiEnviron).bind fun bodyIter =>
    bodyIter.chunks.finallyDo (bodyIter.close.getD (.done (.ok ())))

/-- What `start_response` answers. -/
def startReply (query : StartResponse) : Except PyExc Unit :=
  discard (statusCodeOf query.status)

/-- The answer of `start_response` does not depend on what it has captured. -/
theorem outcome_startResponse (query : StartResponse) (captured : Captured) :
    outcome ((startResponse query).run captured) = startReply query := by
  unfold startResponse startReply
  rw [EStateM.run_bind]
  cases statusCodeOf query.status with
  | ok n => rfl
  | error e => rfl

theorem finalState_startResponse (query : StartResponse) (captured : Captured) :
    finalState ((startResponse query).run captured) =
      match statusCodeOf query.status with
      | .ok n => ⟨n, query.headers⟩
      | .error _ => captured := by
  unfold startResponse
  rw [EStateM.run_bind]
  cases statusCodeOf query.status with
  | ok n => rfl
  | error e => rfl

/-- What is captured after some calls of `start_response`. -/
def capture (asked : List StartResponse) (captured : Captured) : Captured :=
  asked.foldl (fun captured query => finalState ((startResponse query).run captured)) captured

/-- The bridge serves the exchange and reads what was captured. -/
theorem bridge_eq (django : ResponseClass) (app : WsgiApp ω) (request : HttpRequest) :
    bridge django app request =
      (Guest.serve startResponse (exchange app request) >>= fun chunks =>
        get >>= fun s => call (respond django s.2 chunks.flatten)) := by
  unfold bridge exchange
  rw [Guest.serve_bind, bind_assoc]
  congr 1
  funext bodyIter
  rw [Guest.serve_finallyDo]
  cases bodyIter.close with
  | some close => rfl
  | none => rfl

/-- The response is made of the exchange by itself and of what its calls capture. -/
theorem run_invokeWsgiApp (django : ResponseClass) (app : WsgiApp ω) (request : HttpRequest)
    (w : ω) : (invokeWsgiApp django app request).run w =
      let played := (exchange app request).alone startReply w
      resultOf (played.result >>= fun chunks =>
        respond django (capture played.asked {}) chunks.flatten) played.world := by
  have hserve := Guest.run_serve outcome_startResponse (exchange app request) w {}
  generalize (exchange app request).alone startReply w = played at hserve
  obtain ⟨result, world, asked⟩ := played
  have hrun : (bridge django app request).run (w, {}) =
      resultOf (result >>= fun chunks => respond django (capture asked {}) chunks.flatten)
        (world, capture asked {}) := by
    rw [bridge_eq, EStateM.run_bind, hserve]
    cases result with
    | ok chunks =>
      change (call (respond django (capture asked {}) chunks.flatten)).run
        (world, capture asked {}) =
          resultOf (respond django (capture asked {}) chunks.flatten) (world, capture asked {})
      cases respond django (capture asked {}) chunks.flatten with
      | ok response => rfl
      | error e => rfl
    | error e => rfl
  exact run_withLocals hrun

/-! ## The last word -/

/-- A call that `start_response` accepts. -/
def Announces (query : StartResponse) (captured : Captured) : Prop :=
  statusCodeOf query.status = .ok captured.statusCode ∧ captured.responseHeaders = query.headers

/-- The status and the headers are those of the last accepted call, or the initial ones. -/
inductive Announced (asked : List StartResponse) (captured : Captured) : Prop where
  | last (pre : List StartResponse) (query : StartResponse) (post : List StartResponse)
    (calls : asked = pre ++ query :: post) (accepted : Announces query captured)
    (later : ∀ next ∈ post, ∀ other, ¬Announces next other)
  | never (calls : ∀ query ∈ asked, ∀ other, ¬Announces query other)
    (initial : captured.statusCode = 500 ∧ captured.responseHeaders = [])

theorem capture_singleton_of_announces {query : StartResponse} {captured other : Captured}
    (h : Announces query other) : capture [query] captured = other := by
  obtain ⟨hstatus, hheaders⟩ := h
  change finalState _ = _
  rw [finalState_startResponse, hstatus]
  obtain ⟨status, headers⟩ := other
  exact congrArg (Captured.mk status) hheaders.symm

theorem capture_singleton_of_refused {query : StartResponse} {captured : Captured}
    (h : ∀ other, ¬Announces query other) : capture [query] captured = captured := by
  change finalState _ = _
  rw [finalState_startResponse]
  cases hstatus : statusCodeOf query.status with
  | ok n => exact absurd ⟨hstatus, rfl⟩ (h ⟨n, query.headers⟩)
  | error e => rfl

/-- What the calls capture was announced by the last of them. -/
theorem announced_capture (asked : List StartResponse) : Announced asked (capture asked {}) := by
  induction asked using List.reverseRecOn with
  | nil => exact .never (by simp) ⟨rfl, rfl⟩
  | append_singleton asked query ih =>
    have hsnoc : capture (asked ++ [query]) {} = capture [query] (capture asked {}) := by
      simp [capture]
    rw [hsnoc]
    by_cases haccepted : ∃ other, Announces query other
    · obtain ⟨other, hother⟩ := haccepted
      rw [capture_singleton_of_announces hother]
      exact .last asked query [] rfl hother (by simp)
    · have hrefused : ∀ other, ¬Announces query other := fun other h => haccepted ⟨other, h⟩
      rw [capture_singleton_of_refused hrefused]
      rcases ih with ⟨pre, earlier, post, hcalls, hearlier, hlater⟩ | ⟨hcalls, hinitial⟩
      · refine .last pre earlier (post ++ [query]) (by simp [hcalls]) hearlier ?_
        rintro next hnext
        rcases List.mem_append.mp hnext with hnext | hnext
        · exact hlater next hnext
        · rw [List.mem_singleton.mp hnext]
          exact hrefused
      · refine .never ?_ hinitial
        rintro next hnext
        rcases List.mem_append.mp hnext with hnext | hnext
        · exact hcalls next hnext
        · rw [List.mem_singleton.mp hnext]
          exact hrefused

end

/-! ## The headers -/

theorem sameName_comm (name name' : PyStr) : sameName name name' = sameName name' name := by
  unfold sameName
  exact BEq.comm

theorem sameName_trans {a b c : PyStr} (hab : sameName a b = true) (hbc : sameName b c = true) :
    sameName a c = true := by
  unfold sameName at *
  rw [beq_iff_eq] at *
  exact hab.trans hbc

/-- Names that are the same are the same as the same names. -/
theorem sameName_congr {a b : PyStr} (h : sameName a b = true) (c : PyStr) :
    sameName a c = sameName b c := by
  rw [Bool.eq_iff_iff]
  exact ⟨sameName_trans (sameName_comm a b ▸ h), sameName_trans h⟩

/-- Assigning a header sets its value and no other. -/
theorem getHeader_storeHeader (headers : List (PyStr × PyStr)) (header : PyStr × PyStr)
    (name : PyStr) : getHeader (storeHeader headers header) name =
      if sameName header.1 name then some header.2 else getHeader headers name := by
  have hreplaced : ∀ old : PyStr × PyStr,
      sameName (if sameName old.1 header.1 then header else old).1 name = sameName old.1 name := by
    intro old
    split
    · next hold => exact (sameName_congr hold name).symm
    · rfl
  -- an old header of the name is one of the assigned name when the assigned name is the name
  have hassigned : ∀ old : PyStr × PyStr, sameName old.1 name = true →
      sameName old.1 header.1 = sameName header.1 name := by
    intro old hold
    rw [sameName_congr hold, sameName_comm]
  unfold storeHeader getHeader
  by_cases hany : headers.any (sameName ·.1 header.1) = true
  · rw [if_pos hany, List.find?_map]
    have hsame : ((fun old => sameName old.1 name) ∘ fun old =>
        if sameName old.1 header.1 then header else old) = (fun old => sameName old.1 name) :=
      funext hreplaced
    rw [hsame]
    cases hfind : headers.find? (sameName ·.1 name) with
    | none =>
      obtain ⟨old, hold, hstored⟩ := List.any_eq_true.mp hany
      have hother : sameName header.1 name = false := by
        rw [← sameName_congr hstored]
        simpa using List.find?_eq_none.mp hfind old hold
      simp [hother]
    | some old =>
      have hnamed : sameName old.1 name = true := by simpa using List.find?_some hfind
      have hold := hassigned old hnamed
      cases hname : sameName header.1 name with
      | true => simp [hold, hname]
      | false => simp [hold, hname]
  · rw [if_neg hany, List.find?_append]
    cases hname : sameName header.1 name with
    | true =>
      have hnone : headers.find? (sameName ·.1 name) = none := by
        rw [List.find?_eq_none]
        intro old hold hsame
        refine hany (List.any_eq_true.mpr ⟨old, hold, ?_⟩)
        rw [hassigned old hsame, hname]
      simp [hnone, hname]
    | false => simp [hname]

/-- Of several assignments to a name the last one stays. -/
theorem getHeader_foldl_storeHeader (headers assigned : List (PyStr × PyStr)) (name : PyStr) :
    getHeader (assigned.foldl storeHeader headers) name =
      (getHeader assigned.reverse name).or (getHeader headers name) := by
  induction assigned using List.reverseRecOn with
  | nil => rfl
  | append_singleton assigned header ih =>
    rw [List.foldl_concat, getHeader_storeHeader, ih, List.reverse_concat]
    unfold getHeader
    cases hname : sameName header.1 name with
    | true => simp [hname]
    | false => simp [hname]

/-- No name is stored twice. -/
def DistinctNames (headers : List (PyStr × PyStr)) : Prop :=
  headers.Pairwise fun header header' => sameName header.1 header'.1 = false

theorem distinctNames_storeHeader {headers : List (PyStr × PyStr)} (h : DistinctNames headers)
    (header : PyStr × PyStr) : DistinctNames (storeHeader headers header) := by
  unfold storeHeader
  by_cases hany : headers.any (sameName ·.1 header.1) = true
  · rw [if_pos hany]
    refine List.Pairwise.map _ ?_ h
    intro old old' hdistinct
    split
    · next hold =>
      split
      · next hold' =>
        rw [sameName_congr hold, sameName_comm, hold'] at hdistinct
        exact absurd hdistinct (by simp)
      · rwa [← sameName_congr hold]
    · next hold =>
      split
      · next hold' => simpa using hold
      · exact hdistinct
  · rw [if_neg hany]
    refine List.pairwise_append.mpr ⟨h, List.pairwise_singleton _ _, ?_⟩
    intro old hold header' hheader'
    rw [List.mem_singleton.mp hheader']
    by_contra hsame
    exact hany (List.any_eq_true.mpr ⟨old, hold, by simpa using hsame⟩)

theorem distinctNames_foldl_storeHeader {headers : List (PyStr × PyStr)} (h : DistinctNames headers)
    (assigned : List (PyStr × PyStr)) : DistinctNames (assigned.foldl storeHeader headers) := by
  induction assigned generalizing headers with
  | nil => exact h
  | cons header rest ih => exact ih (distinctNames_storeHeader h header)

/-- The loop over the captured headers converts and assigns them one after another. -/
theorem foldlM_setHeader {django : ResponseClass} {headers : List (PyStr × PyStr)}
    {response response' : HttpResponse}
    (h : headers.foldlM (setHeader django) response = .ok response') :
    ∃ converted, headers.mapM django.convert = .ok converted ∧
      response' = { response with headers := converted.foldl storeHeader response.headers } := by
  induction headers generalizing response with
  | nil =>
    obtain rfl : response = response' := by simpa [pure, Except.pure] using h
    exact ⟨[], rfl, rfl⟩
  | cons header rest ih =>
    rw [List.foldlM_cons, Raising.bind_eq_ok] at h
    obtain ⟨middle, hset, hrest⟩ := h
    unfold setHeader at hset
    rw [Raising.bind_eq_ok] at hset
    obtain ⟨first, hfirst, hmiddle⟩ := hset
    obtain ⟨converted, hconverted, hresponse⟩ := ih hrest
    refine ⟨first :: converted, ?_, ?_⟩
    · rw [List.mapM_cons, hfirst, hconverted]
      rfl
    · rw [hresponse, ← Except.ok.inj hmiddle]
      rfl

/-! ## The response -/

theorem distinctNames_singleton (header : PyStr × PyStr) : DistinctNames [header] :=
  List.pairwise_singleton _ _

/-- The headers of a response: no name twice, and under each name the last value given for it, or
the default content type. -/
structure HeadersOf (django : ResponseClass) (given : List (PyStr × PyStr))
    (headers : List (PyStr × PyStr)) : Prop where
  distinct : DistinctNames headers
  value : ∃ converted, given.mapM django.convert = .ok converted ∧ ∀ name,
    getHeader headers name = (getHeader converted.reverse name).or
      (if sameName (lit "Content-Type") name then some django.contentType else none)

/-- A response says what was captured, with a valid status. -/
theorem of_respond {django : ResponseClass} {captured : Captured} {content : Bytes}
    {response : HttpResponse} (h : respond django captured content = .ok response) :
    response.statusCode = captured.statusCode ∧
      (100 ≤ response.statusCode ∧ response.statusCode ≤ 599) ∧ response.content = content ∧
      HeadersOf django captured.responseHeaders response.headers := by
  unfold respond at h
  rw [Raising.bind_eq_ok] at h
  obtain ⟨bare, hbare, hheaders⟩ := h
  obtain ⟨converted, hconverted, rfl⟩ := foldlM_setHeader hheaders
  unfold httpResponse at hbare
  split at hbare
  · next hstatus =>
    obtain rfl := Except.ok.inj hbare
    refine ⟨rfl, hstatus, rfl, ?_, converted, hconverted, fun name => ?_⟩
    · exact distinctNames_foldl_storeHeader (distinctNames_singleton _) converted
    · rw [getHeader_foldl_storeHeader]
      cases hname : sameName (lit "Content-Type") name with
      | true => simp [getHeader, hname]
      | false => simp [getHeader, hname]
  · simp at hbare

/-! ## Nothing stays open -/

section

variable [UnicodeDatabase] {ω : Type}

/-- An application that holds something exactly while an iterator of its is open: the call opens an
iterator that can be closed or holds nothing, the iteration changes nothing, and `close` gives up what
is held, whatever any of them raises. -/
structure Tidy (app : WsgiApp ω) (held : ω → ℕ) : Prop where
  opens : ∀ environ w, held ((app environ).alone startReply w).world = held w +
    (match ((app environ).alone startReply w).result with
    | .ok ⟨_, some _⟩ => 1
    | _ => 0)
  iterates : ∀ environ w bodyIter, ((app environ).alone startReply w).result = .ok bodyIter →
    ∀ v, held (bodyIter.chunks.alone startReply v).world = held v
  closes : ∀ environ w chunks close, ((app environ).alone startReply w).result =
    .ok ⟨chunks, some close⟩ → ∀ v, held (close.alone startReply v).world = held v - 1

/-- Whatever comes of an exchange, nothing stays open. -/
theorem Tidy.exchange {app : WsgiApp ω} {held : ω → ℕ} (h : Tidy app held) (request : HttpRequest)
    (w : ω) : held ((exchange app request).alone startReply w).world = held w := by
  have hopens := h.opens request.wsgiEnviron w
  unfold McpSql.exchange
  cases hresult : ((app request.wsgiEnviron).alone startReply w).result with
  | error e =>
    rw [Guest.alone_bind_error hresult, hopens, hresult]
    rfl
  | ok bodyIter =>
    rw [Guest.alone_bind_ok hresult]
    obtain ⟨chunks, close⟩ := bodyIter
    change held (Guest.alone startReply (chunks.finallyDo (close.getD (.done (.ok ()))))
      ((app request.wsgiEnviron).alone startReply w).world).world = held w
    rw [Guest.world_finallyDo]
    have hiterates := h.iterates request.wsgiEnviron w _ hresult
      ((app request.wsgiEnviron).alone startReply w).world
    rw [hopens, hresult] at hiterates
    cases close with
    | none => exact hiterates
    | some close =>
      change held (close.alone startReply _).world = held w
      rw [h.closes request.wsgiEnviron w chunks close hresult, hiterates]
      rfl

/-- Nothing stays open after a request, whatever it comes to. -/
theorem Tidy.invokeWsgiApp {app : WsgiApp ω} {held : ω → ℕ} (h : Tidy app held)
    (django : ResponseClass) (request : HttpRequest) (w : ω) :
    held (finalState ((invokeWsgiApp django app request).run w)) = held w := by
  rw [run_invokeWsgiApp]
  simp only [finalState_resultOf]
  exact h.exchange request w

/-- The world after some requests, each with an application of its own. -/
def afterRequests (django : ResponseClass) (served : List (WsgiApp ω × HttpRequest)) (w : ω) : ω :=
  served.foldl (fun w visit => finalState ((invokeWsgiApp django visit.1 visit.2).run w)) w

/-- What a bridged request comes to: what the application raises, or the response its last accepted
call announces, with the chunks of its body. -/
structure BridgedAs (django : ResponseClass) (app : WsgiApp ω) (request : HttpRequest) (w : ω)
    (captured : Captured) : Prop where
  announced : Announced ((exchange app request).alone startReply w).asked captured
  run : (invokeWsgiApp django app request).run w =
    resultOf (((exchange app request).alone startReply w).result >>= fun chunks =>
      respond django captured chunks.flatten) ((exchange app request).alone startReply w).world
  response : ∀ response v, (invokeWsgiApp django app request).run w = .ok response v →
    ∃ chunks, ((exchange app request).alone startReply w).result = .ok chunks ∧
      response.content = chunks.flatten ∧ response.statusCode = captured.statusCode ∧
      (100 ≤ response.statusCode ∧ response.statusCode ≤ 599) ∧
      HeadersOf django captured.responseHeaders response.headers

end

/-- An application that holds one thing while its body is read, and fails in the middle of it. -/
def failingApp : WsgiApp ℕ := fun _ =>
  .act (· + 1) fun _ => .ask ⟨lit "200 OK", []⟩ fun _ => .done (.ok {
    chunks := .done (.error (.connectionError (lit "reset")))
    close := some (.act (· - 1) fun _ => .done (.ok ())) })

end McpSql
