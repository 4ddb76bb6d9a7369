import McpSql.Foundations.Effect

/-!
# Guests

A program that the caller hands control to: it runs on a world of its own and calls back, as often as
it likes, a function of its host, whose answer it sees.  The host keeps a state the guest does not
see.  When an answer depends on the call alone, what the guest does does not depend on the host, and
the host's state is what the calls make of it, one after another.
-/

namespace Effect

/-- A program on a world `ω` that calls its host with a `q` and is answered with an `a`. -/
inductive Guest (ω q a ε α : Type) where
  | done (result : Except ε α)
  | act (f : ω → ω) (next : ω → Guest ω q a ε α)
  | ask (query : q) (next : Except ε a → Guest ω q a ε α)

/-- What a guest does: what it returns or raises, the world it leaves, and its calls in order. -/
structure Played (ω q ε α : Type) where
  result : Except ε α
  world : ω
  asked : List q

namespace Guest

variable {ω q a ε σ α β : Type}

/-- Run a guest whose calls are answered by `host`. -/
def serve (host : q → EStateM ε σ a) : Guest ω q a ε α → EStateM ε (ω × σ) α
  | .done result => call result
  | .act f next => fun s => serve host (next (f s.1)) (f s.1, s.2)
  | .ask query next => fun s =>
    serve host (next (outcome ((host query).run s.2))) (s.1, finalState ((host query).run s.2))

/-- A guest by itself, when its calls are answered by `reply`. -/
def alone (reply : q → Except ε a) : Guest ω q a ε α → ω → Played ω q ε α
  | .done result, w => ⟨result, w, []⟩
  | .act f next, w => alone reply (next (f w)) (f w)
  | .ask query next, w =>
    let rest := alone reply (next (reply query)) w
    { rest with asked := query :: rest.asked }

/-- One guest after another, which is told what the first came to. -/
def andThen (f : Except ε α → Guest ω q a ε β) : Guest ω q a ε α → Guest ω q a ε β
  | .done result => f result
  | .act g next => .act g fun w => andThen f (next w)
  | .ask query next => .ask query fun r => andThen f (next r)

/-- One guest after another, unless the first raises. -/
def bind (p : Guest ω q a ε α) (f : α → Guest ω q a ε β) : Guest ω q a ε β :=
  p.andThen fun result =>
    match result with
    | .ok x => f x
    | .error e => .done (.error e)

/-- A guest, and a second one whatever the first comes to. -/
def finallyDo (p : Guest ω q a ε α) (cleanup : Guest ω q a ε Unit) : Guest ω q a ε α :=
  p.andThen fun result => cleanup.bind fun _ => .done result

section

variable {host : q → EStateM ε σ a} {reply : q → Except ε a}

/-! ## A guest by itself -/

theorem alone_andThen (f : Except ε α → Guest ω q a ε β) (p : Guest ω q a ε α) (w : ω) :
    alone reply (p.andThen f) w =
      let first := alone reply p w
      let second := alone reply (f first.result) first.world
      { second with asked := first.asked ++ second.asked } := by
  induction p generalizing w with
  | done result => rfl
  | act g next ih => exact ih (g w) (g w)
  | ask query next ih =>
    have hrest := ih (reply query) w
    simp only [andThen, alone] at hrest ⊢
    rw [hrest]
    rfl

theorem alone_bind_ok {p : Guest ω q a ε α} {f : α → Guest ω q a ε β} {w : ω} {x : α}
    (h : (alone reply p w).result = .ok x) :
    alone reply (p.bind f) w =
      { alone reply (f x) (alone reply p w).world with
        asked := (alone reply p w).asked ++ (alone reply (f x) (alone reply p w).world).asked } := by
  rw [bind, alone_andThen]
  simp only [h]

theorem alone_bind_error {p : Guest ω q a ε α} {f : α → Guest ω q a ε β} {w : ω} {e : ε}
    (h : (alone reply p w).result = .error e) :
    alone reply (p.bind f) w = ⟨.error e, (alone reply p w).world, (alone reply p w).asked⟩ := by
  rw [bind, alone_andThen]
  simp only [h, alone, List.append_nil]

/-- The cleanup has the last touch of the world. -/
theorem world_finallyDo (p : Guest ω q a ε α) (cleanup : Guest ω q a ε Unit) (w : ω) :
    (alone reply (p.finallyDo cleanup) w).world =
      (alone reply cleanup (alone reply p w).world).world := by
  rw [finallyDo, alone_andThen]
  cases h : (alone reply cleanup (alone reply p w).world).result with
  | ok x => simp only [alone_bind_ok h, alone]
  | error e => simp only [alone_bind_error h]

/-- The host's answers to the calls of a guest do not depend on the state it keeps, and the state is
what the calls make of it. -/
theorem run_serve (hreply : ∀ query s, outcome ((host query).run s) = reply query)
    (p : Guest ω q a ε α) (w : ω) (s : σ) :
    (serve host p).run (w, s) = resultOf (alone reply p w).result ((alone reply p w).world,
      (alone reply p w).asked.foldl (fun s query => finalState ((host query).run s)) s) := by
  induction p generalizing w s with
  | done result =>
    cases result with
    | ok x => rfl
    | error e => rfl
  | act g next ih => exact ih (g w) (g w) s
  | ask query next ih =>
    have hrest := ih (reply query) w (finalState ((host query).run s))
    rw [← hreply query s] at hrest
    rw [alone, ← hreply query s]
    exact hrest

/-! ## Composed guests -/

theorem serve_andThen (f : Except ε α → Guest ω q a ε β) (p : Guest ω q a ε α) :
    serve host (p.andThen f) = attempt (serve host p) >>= fun result => serve host (f result) := by
  funext s
  induction p generalizing s with
  | done result =>
    cases result with
    | ok x => rfl
    | error e => rfl
  | act g next ih => exact ih (g s.1) (g s.1, s.2)
  | ask query next ih =>
    exact ih (outcome ((host query).run s.2)) (s.1, finalState ((host query).run s.2))

theorem serve_bind (p : Guest ω q a ε α) (f : α → Guest ω q a ε β) :
    serve host (p.bind f) = serve host p >>= fun x => serve host (f x) := by
  rw [bind, serve_andThen]
  funext s
  change EStateM.run _ s = EStateM.run _ s
  rw [EStateM.run_bind, run_attempt, EStateM.run_bind]
  cases (serve host p).run s with
  | ok x t => rfl
  | error e t => rfl

theorem serve_finallyDo (p : Guest ω q a ε α) (cleanup : Guest ω q a ε Unit) :
    serve host (p.finallyDo cleanup) = Effect.finallyDo (serve host p) (serve host cleanup) := by
  rw [finallyDo, serve_andThen]
  funext s
  change (attempt (serve host p) >>= fun result =>
    serve host (cleanup.bind fun _ => done result)).run s =
      (Effect.finallyDo (serve host p) (serve host cleanup)).run s
  rw [EStateM.run_bind, run_attempt, run_finallyDo]
  simp only [serve_bind, EStateM.run_bind]
  cases (serve host cleanup).run (finalState ((serve host p).run s)) with
  | ok x t =>
    cases outcome ((serve host p).run s) with
    | ok y => rfl
    | error e => rfl
  | error e t => rfl

end

end Guest

end Effect
