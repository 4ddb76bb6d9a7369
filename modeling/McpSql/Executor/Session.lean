import McpSql.Exceptions
import McpSql.Foundations.Effect
import McpSql.Foundations.Raising
import McpSql.Python.Json

/-!
# The readonly session

`session.py`: the check of a SESSION_CONTEXT hook's result, and the statements that open the read
transaction.
-/

namespace McpSql

open Python PyStr Effect

/-- The name of a context entry.  For a key that is no string, `repr` is what `repr(name)` returns or
raises. -/
inductive ContextName where
  | str (s : PyStr)
  | other (repr : Except PyExc PyStr)

/-- An entry of a hook's mapping; `value` is what `str(value)` returns or raises. -/
structure ContextItem where
  name : ContextName
  value : Except PyExc PyStr

/-- What a SESSION_CONTEXT hook returns. -/
inductive HookResult where
  | none
  | mapping (items : List ContextItem)
  /-- A value of another type, with its truth value. -/
  | other (typeName : PyStr) (truthy : Bool)

/-- `_SAFE_CONTEXT_GUC_NAME.fullmatch(name)`. -/
def isSafeContextName (name : PyStr) : Bool :=
  startsWith (lit "mcp_sql.") name &&
    (let suffix := name.drop (lit "mcp_sql.").length
     suffix ≠ [] && suffix.all fun c => (0x61 ≤ c.val && c.val ≤ 0x7a) || c = 0x5f)

/-- The check of one name. -/
def validateContextName [UnicodeDatabase] : ContextName → Except PyExc Unit
  | .str s =>
    if isSafeContextName s then .ok ()
    else .error (.valueError (lit "unsafe SESSION_CONTEXT GUC name: " ++ PyStr.repr s))
  | .other text => text.bind fun text =>
      .error (.valueError (lit "unsafe SESSION_CONTEXT GUC name: " ++ text))

/-- `validate_session_context`. -/
def validateSessionContext [UnicodeDatabase] : HookResult → Except PyExc Unit
  | .none => .error (.typeError
      (lit "SESSION_CONTEXT hook must return a Mapping (or None), got NoneType"))
  | .other typeName _ => .error (.typeError
      (lit "SESSION_CONTEXT hook must return a Mapping (or None), got " ++ typeName))
  | .mapping items => forM items fun item => validateContextName item.name

/-- A statement sent to the database, with its bound parameters. -/
structure Statement where
  sql : PyStr
  params : List PyStr := []
  deriving DecidableEq, Repr

/-- `EXPECTED_SESSION_GUCS`. -/
def expectedSessionGucs : List (PyStr × PyStr) :=
  [(lit "statement_timeout", lit "5s"), (lit "lock_timeout", lit "1s"),
    (lit "idle_in_transaction_session_timeout", lit "10s"),
    (lit "default_transaction_read_only", lit "on")]

/-- A computation on a cursor; the state holds the statements sent so far. -/
abbrev Session := EStateM PyExc (List Statement)

/-- `cursor.execute`, which answers a statement or raises. -/
def execute (answer : Statement → Except PyExc Unit) (statement : Statement) : Session Unit := do
  modify fun sent => sent ++ [statement]
  call (answer statement)

/-- The binding of one context entry. -/
def setContextItem (answer : Statement → Except PyExc Unit) (item : ContextItem) :
    Session Unit := do
  let name ← match item.name with
    | .str s => pure s
    -- not reached: the names have been checked
    | .other text => call text
  let value ← call item.value
  execute answer ⟨lit "SELECT set_config(%s, %s, true)", [name, value]⟩

/-- `enter_readonly_session`. -/
def enterReadonlySession [UnicodeDatabase] (answer : Statement → Except PyExc Unit) (role : PyStr)
    (sessionContext : HookResult) : Session Unit := do
  execute answer ⟨lit "SET LOCAL ROLE " ++ role, []⟩
  forM expectedSessionGucs fun guc =>
    execute answer ⟨lit "SET LOCAL " ++ guc.1 ++ lit " = '" ++ guc.2 ++ lit "'", []⟩
  match sessionContext with
  | .mapping (item :: rest) =>
    call (validateSessionContext (.mapping (item :: rest)))
    forM (item :: rest) (setContextItem answer)
  | .other typeName true => call (validateSessionContext (.other typeName true))
  | _ => return ()

/-! ## What a session sends -/

/-- The statements that open a session: the role, and the guards. -/
def openingStatements (role : PyStr) : List Statement :=
  ⟨lit "SET LOCAL ROLE " ++ role, []⟩ :: expectedSessionGucs.map fun guc =>
    ⟨lit "SET LOCAL " ++ guc.1 ++ lit " = '" ++ guc.2 ++ lit "'", []⟩

/-- A statement is sent whether or not it is answered. -/
theorem finalState_execute (answer : Statement → Except PyExc Unit) (statement : Statement)
    (sent : List Statement) :
    finalState ((execute answer statement).run sent) = sent ++ [statement] := by
  unfold execute
  rw [EStateM.run_bind, EStateM.run_modify]
  cases hanswer : answer statement with
  | ok u => simp
  | error e => simp

/-- Statements sent one after another: all of them, or those up to the first that is not answered. -/
theorem run_forM_execute (answer : Statement → Except PyExc Unit) (statements sent : List Statement) :
    (forM statements (execute answer)).run sent = .ok () (sent ++ statements) ∨
      ∃ e pre, pre <+: statements ∧
        (forM statements (execute answer)).run sent = .error e (sent ++ pre) := by
  induction statements generalizing sent with
  | nil => exact Or.inl (by rw [List.append_nil]; rfl)
  | cons statement rest ih =>
    have hfirst := finalState_execute answer statement sent
    rw [List.forM_cons, EStateM.run_bind]
    cases hrun : (execute answer statement).run sent with
    | ok u sent' =>
      obtain rfl : sent' = sent ++ [statement] := by
        rw [hrun] at hfirst
        exact hfirst
      rcases ih (sent ++ [statement]) with hrest | ⟨e, pre, hpre, hrest⟩
      · refine Or.inl (hrest.trans ?_)
        rw [List.append_assoc]
        rfl
      · refine Or.inr ⟨e, statement :: pre, List.cons_prefix_cons.mpr ⟨rfl, hpre⟩, ?_⟩
        refine hrest.trans ?_
        rw [List.append_assoc]
        rfl
    | error e sent' =>
      obtain rfl : sent' = sent ++ [statement] := by
        rw [hrun] at hfirst
        exact hfirst
      exact Or.inr ⟨e, [statement], List.cons_prefix_cons.mpr ⟨rfl, List.nil_prefix⟩, rfl⟩

section Sent

variable [UnicodeDatabase]

/-- The context part of `enter_readonly_session`. -/
def setContext (answer : Statement → Except PyExc Unit) (sessionContext : HookResult) :
    Session Unit := do
  match sessionContext with
  | .mapping (item :: rest) =>
    call (validateSessionContext (.mapping (item :: rest)))
    forM (item :: rest) (setContextItem answer)
  | .other typeName true => call (validateSessionContext (.other typeName true))
  | _ => return ()

theorem enterReadonlySession_eq (answer : Statement → Except PyExc Unit) (role : PyStr)
    (sessionContext : HookResult) : enterReadonlySession answer role sessionContext =
      forM (openingStatements role) (execute answer) >>= fun _ =>
        setContext answer sessionContext := by
  unfold enterReadonlySession openingStatements
  rw [List.forM_cons, List.forM_map, bind_assoc]
  rfl

end Sent

/-! ## Sessions on a healthy connection -/

/-- A session that returns, whatever was sent before. -/
def Completes {α : Type} (x : Session α) : Prop :=
  ∀ sent, ∃ a more, x.run sent = .ok a (sent ++ more)

theorem Completes.pure {α : Type} (a : α) : Completes (Pure.pure a : Session α) := by
  intro sent
  exact ⟨a, [], by rw [List.append_nil]; rfl⟩

theorem Completes.call {α : Type} {r : Except PyExc α} {a : α} (h : r = .ok a) :
    Completes (Effect.call r : Session α) := by
  subst h
  exact .pure a

theorem Completes.bind {α β : Type} {x : Session α} {f : α → Session β} (hx : Completes x)
    (hf : ∀ a, Completes (f a)) : Completes (x >>= f) := by
  intro sent
  obtain ⟨a, more, hrun⟩ := hx sent
  obtain ⟨b, more', hrest⟩ := hf a (sent ++ more)
  refine ⟨b, more ++ more', ?_⟩
  rw [EStateM.run_bind, hrun]
  show (f a).run (sent ++ more) = _
  rw [hrest, List.append_assoc]

theorem Completes.forM {α : Type} {xs : List α} {f : α → Session PUnit}
    (h : ∀ x ∈ xs, Completes (f x)) : Completes (forM xs f) := by
  induction xs with
  | nil => exact .pure _
  | cons x xs ih =>
    rw [List.forM_cons]
    exact .bind (h x (by simp)) fun _ => ih fun y hy => h y (List.mem_cons_of_mem _ hy)

theorem completes_execute {answer : Statement → Except PyExc Unit} {statement : Statement}
    (h : answer statement = .ok ()) : Completes (execute answer statement) := by
  intro sent
  exact ⟨(), [statement], by simp [execute, h]⟩

/-- A mapping whose values convert to text. -/
def HookResult.Convertible : HookResult → Prop
  | .mapping items => ∀ item ∈ items, ∃ text, item.value = .ok text
  | _ => True

/-- The names of a checked mapping are strings. -/
theorem names_of_validateSessionContext [UnicodeDatabase] {items : List ContextItem} {u : Unit}
    (h : validateSessionContext (.mapping items) = .ok u) :
    ∀ item ∈ items, ∃ s, item.name = .str s := by
  intro item hitem
  have hname := Raising.forM_eq_ok.mp h item hitem
  cases hkind : item.name with
  | str s => exact ⟨s, rfl⟩
  | other text =>
    rw [hkind] at hname
    cases text <;> simp [validateContextName, Except.bind] at hname

/-- On a connection that answers every statement, a session with a checked context is entered. -/
theorem completes_enterReadonlySession [UnicodeDatabase] {answer : Statement → Except PyExc Unit}
    (hanswer : ∀ statement, answer statement = .ok ()) (role : PyStr) {context : HookResult}
    (hvalid : context = .none ∨ validateSessionContext context = .ok ())
    (hvalues : context.Convertible) : Completes (enterReadonlySession answer role context) := by
  unfold enterReadonlySession
  refine .bind (completes_execute (hanswer _)) fun _ => ?_
  refine .bind (.forM fun guc _ => completes_execute (hanswer _)) fun _ => ?_
  cases context with
  | none => exact .pure _
  | other typeName truthy => simp [validateSessionContext] at hvalid
  | mapping items =>
    have hchecked : validateSessionContext (.mapping items) = .ok () := by simpa using hvalid
    cases items with
    | nil => exact .pure _
    | cons item rest =>
      refine .bind (.call hchecked) fun _ => .forM fun item' hitem => ?_
      obtain ⟨name, hname⟩ := names_of_validateSessionContext hchecked item' hitem
      obtain ⟨text, hvalue⟩ := hvalues item' hitem
      unfold setContextItem
      rw [hname, hvalue]
      exact .bind (.pure name) fun _ => .bind (.call rfl) fun _ => completes_execute (hanswer _)

end McpSql
