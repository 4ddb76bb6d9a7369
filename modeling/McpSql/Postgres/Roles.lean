import Mathlib.Data.Finset.Insert
import Mathlib.Logic.Relation
import McpSql.Postgres.Session

/-!
# The roles of a Postgres cluster

What the commands that create a role, set its defaults and make others members of it do to a cluster.
A server is given by its answers, with what Postgres documents of them for a superuser; a block with
an exception handler undoes what it did before the exception it handles.
-/

namespace Postgres

open Python PyStr

/-! ## Names -/

/-- A name that only Postgres itself gives to a role. -/
def isReserved (role : PyStr) : Bool := startsWith (lit "pg_") role

/-- Letters, digits and underscores, not a digit first. -/
def isIdentifier : PyStr → Bool
  | [] => false
  | c :: rest => (isAsciiAlpha c || c = 0x5f) &&
      rest.all fun d => isAsciiAlpha d || isAsciiDigit d || d = 0x5f

/-- A word that stands without quotes, and the name it denotes. -/
structure NameRules.Denotes (rules : NameRules) (word name : PyStr) : Prop where
  identifier : isIdentifier word = true
  unquoted : rules.unquoted word = some name

/-- A role that a script can set up: its word denotes it, and its name is not reserved. -/
structure SettableRole (rules : NameRules) (role : PyStr) : Prop where
  denotes : rules.Denotes role role
  unreserved : isReserved role = false

/-- A text that is a name when it stands in quotes, and is not reserved. -/
structure IsQuotedName (s : PyStr) : Prop where
  nonempty : s ≠ []
  short : s.length ≤ nameLimit
  printable : ∀ c ∈ s, 0x20 ≤ c.val ∧ c.val < 0x7f
  notWord : s ≠ lit "none" ∧ s ≠ lit "public"
  unreserved : isReserved s = false

/-! ## Clusters -/

/-- The roles of a cluster, the default each has for a setting, and the direct members of each. -/
@[ext]
structure Cluster where
  roles : Finset PyStr
  setting : PyStr → PyStr → Option PyStr
  members : PyStr → Finset PyStr

/-- A role is a member of itself, of the roles it is a direct member of, and of theirs. -/
def Cluster.IsMember (c : Cluster) : PyStr → PyStr → Prop :=
  Relation.ReflTransGen fun user role => user ∈ c.members role

/-- A command on roles.  The word that names a role stands without quotes; the member is quoted. -/
inductive RoleCommand where
  | create (word : PyStr)
  | alterSet (word name value : PyStr)
  | grant (word member : PyStr)
  deriving DecidableEq, Repr

/-- The conditions a command may raise. -/
inductive RoleError where
  | syntaxError
  | reservedName
  | duplicateObject
  | undefinedObject
  | invalidGrantOperation
  deriving DecidableEq, Repr

/-- The cluster with another default of a role. -/
def Cluster.setDefault (c : Cluster) (role name value : PyStr) : Cluster :=
  { c with
    setting := Function.update c.setting role
      (Function.update (c.setting role) name (some value)) }

/-- The cluster with another member of a role. -/
def Cluster.addMember (c : Cluster) (role member : PyStr) : Cluster :=
  { c with members := Function.update c.members role (insert member (c.members role)) }

theorem mem_members_addMember {c : Cluster} {role member user other : PyStr} :
    user ∈ (c.addMember role member).members other ↔
      user ∈ c.members other ∨ other = role ∧ user = member := by
  unfold Cluster.addMember
  by_cases h : other = role
  · subst h
    simp [or_comm]
  · simp [h]

/-- The answers of a server to the commands of a superuser, with what Postgres documents of them. -/
structure RoleServer (rules : NameRules) where
  exec : Cluster → RoleCommand → Except RoleError Cluster
  /-- The values a setting takes. -/
  takes : PyStr → PyStr → Prop
  create_new : ∀ c word role, rules.Denotes word role → isReserved role = false → role ∉ c.roles →
    exec c (.create word) = .ok { c with roles := insert role c.roles }
  create_existing : ∀ c word role, rules.Denotes word role → isReserved role = false →
    role ∈ c.roles → exec c (.create word) = .error .duplicateObject
  create_reserved : ∀ c word role, rules.Denotes word role → isReserved role = true →
    exec c (.create word) = .error .reservedName
  alterSet : ∀ c word role name value, rules.Denotes word role → isReserved role = false →
    role ∈ c.roles → takes name value →
      exec c (.alterSet word name value) = .ok (c.setDefault role name value)
  grant : ∀ c word role member, rules.Denotes word role → isReserved role = false →
    role ∈ c.roles → IsQuotedName member → member ∈ c.roles → ¬c.IsMember role member →
      exec c (.grant word member) = .ok (c.addMember role member)
  grant_missing : ∀ c word role member, rules.Denotes word role → role ∈ c.roles →
    IsQuotedName member → member ∉ c.roles →
      exec c (.grant word member) = .error .undefinedObject

section Scripts

variable {rules : NameRules} (server : RoleServer rules)

/-- Commands one after another, up to the first that raises. -/
def RoleServer.execAll : Cluster → List RoleCommand → Except RoleError Cluster
  | c, [] => .ok c
  | c, command :: rest => do
    let c' ← server.exec c command
    RoleServer.execAll c' rest

/-- `BEGIN … EXCEPTION WHEN handled THEN … END`: a handled exception undoes the block. -/
def RoleServer.block (handled : RoleError) (c : Cluster) (commands : List RoleCommand) :
    Except RoleError Cluster :=
  match server.execAll c commands with
  | .ok c' => .ok c'
  | .error e => if e = handled then .ok c else .error e

end Scripts

section Commands

variable {rules : NameRules} {server : RoleServer rules} {c : Cluster} {role : PyStr}

/-- A role is there after the block that creates it, and nothing else has changed. -/
theorem block_create (h : SettableRole rules role) :
    server.block .duplicateObject c [.create role] =
      .ok { c with roles := insert role c.roles } := by
  unfold RoleServer.block RoleServer.execAll
  by_cases hmem : role ∈ c.roles
  · rw [server.create_existing c role role h.denotes h.unreserved hmem,
      Finset.insert_eq_of_mem hmem]
    rfl
  · rw [server.create_new c role role h.denotes h.unreserved hmem]
    rfl

/-- The block does not handle the refusal of a reserved name. -/
theorem block_create_reserved (h : rules.Denotes role role) (hreserved : isReserved role = true) :
    server.block .duplicateObject c [.create role] = .error .reservedName := by
  unfold RoleServer.block RoleServer.execAll
  rw [server.create_reserved c role role h hreserved]
  rfl

/-- New roles of a member give no one the rights of that member. -/
theorem isMember_of_addMember {member user : PyStr}
    (h : (c.addMember role member).IsMember user member) : c.IsMember user member := by
  induction h using Relation.ReflTransGen.head_induction_on with
  | refl => exact .refl
  | @head u r hedge _ ih =>
    rcases mem_members_addMember.mp hedge with hold | ⟨-, rfl⟩
    · exact .head hold ih
    · exact .refl

end Commands

/-! ## Several defaults of a role -/

/-- The cluster with several defaults of a role set one after another. -/
def Cluster.setDefaults (c : Cluster) (role : PyStr) (entries : List (PyStr × PyStr)) : Cluster :=
  entries.foldl (fun c entry => c.setDefault role entry.1 entry.2) c

section Defaults

variable (c : Cluster) (role : PyStr)

/-- Defaults change neither the roles nor their members. -/
theorem frame_setDefaults (entries : List (PyStr × PyStr)) :
    (c.setDefaults role entries).roles = c.roles ∧
      (c.setDefaults role entries).members = c.members := by
  induction entries generalizing c with
  | nil => exact ⟨rfl, rfl⟩
  | cons entry rest ih => exact ih (c.setDefault role entry.1 entry.2)

/-- A default of another role, or of another setting, keeps its value. -/
theorem setting_setDefaults_of_ne {entries : List (PyStr × PyStr)} {other name : PyStr}
    (h : other ≠ role ∨ name ∉ entries.map Prod.fst) :
    (c.setDefaults role entries).setting other name = c.setting other name := by
  induction entries generalizing c with
  | nil => rfl
  | cons entry rest ih =>
    have hrest : other ≠ role ∨ name ∉ rest.map Prod.fst :=
      h.imp_right fun hname hmem => hname (List.mem_cons_of_mem _ hmem)
    refine (ih (c.setDefault role entry.1 entry.2) hrest).trans ?_
    unfold Cluster.setDefault
    rcases h with hrole | hname
    · simp [hrole]
    · have hfirst : name ≠ entry.1 := fun heq => hname (heq ▸ List.mem_cons_self)
      by_cases hrole : other = role
      · subst hrole
        simp [hfirst]
      · simp [hrole]

/-- Defaults of different settings hold the values they are set to. -/
theorem setting_setDefaults_of_mem {entries : List (PyStr × PyStr)}
    (hnodup : (entries.map Prod.fst).Nodup) {entry : PyStr × PyStr} (h : entry ∈ entries) :
    (c.setDefaults role entries).setting role entry.1 = some entry.2 := by
  induction entries generalizing c with
  | nil => exact absurd h List.not_mem_nil
  | cons first rest ih =>
    rw [List.map_cons, List.nodup_cons] at hnodup
    rcases List.mem_cons.mp h with rfl | hrest
    · refine (setting_setDefaults_of_ne (c.setDefault role entry.1 entry.2) role
        (Or.inr hnodup.1)).trans ?_
      simp [Cluster.setDefault]
    · exact ih (c.setDefault role first.1 first.2) hnodup.2 hrest

/-- The commands that set the defaults of a role that exists. -/
theorem execAll_alterSet {rules : NameRules} {server : RoleServer rules}
    (h : SettableRole rules role) (hmem : role ∈ c.roles)
    {entries : List (PyStr × PyStr)} (htakes : ∀ entry ∈ entries, server.takes entry.1 entry.2) :
    server.execAll c (entries.map fun entry => .alterSet role entry.1 entry.2) =
      .ok (c.setDefaults role entries) := by
  induction entries generalizing c with
  | nil => rfl
  | cons entry rest ih =>
    rw [List.map_cons, RoleServer.execAll,
      server.alterSet c role role entry.1 entry.2 h.denotes h.unreserved hmem
        (htakes entry List.mem_cons_self)]
    exact ih (c.setDefault role entry.1 entry.2) hmem
      fun e he => htakes e (List.mem_cons_of_mem _ he)

end Defaults

/-! ## Several roles of a member -/

/-- The cluster after a member has joined some roles. -/
def Cluster.joined (c : Cluster) (roles : List PyStr) (member : PyStr) : Cluster :=
  { c with members := fun role =>
      if role ∈ roles then insert member (c.members role) else c.members role }

section Grants

variable {rules : NameRules} {server : RoleServer rules} {member : PyStr}

/-- A member that exists joins roles that exist, unless one of them has the rights of the member. -/
theorem execAll_grant {roles : List PyStr} {c : Cluster}
    (h : ∀ role ∈ roles, SettableRole rules role)
    (hroles : ∀ role ∈ roles, role ∈ c.roles) (hname : IsQuotedName member)
    (hmember : member ∈ c.roles) (hloop : ∀ role ∈ roles, ¬c.IsMember role member) :
    server.execAll c (roles.map fun role => .grant role member) = .ok (c.joined roles member) := by
  induction roles generalizing c with
  | nil => simp [RoleServer.execAll, Cluster.joined]
  | cons role rest ih =>
    have hfirst : server.exec c (.grant role member) = .ok (c.addMember role member) :=
      server.grant c role role member (h role List.mem_cons_self).denotes
        (h role List.mem_cons_self).unreserved (hroles role List.mem_cons_self) hname hmember
        (hloop role List.mem_cons_self)
    have hrest := @ih (c.addMember role member)
      (fun r hr => h r (List.mem_cons_of_mem _ hr))
      (fun r hr => hroles r (List.mem_cons_of_mem _ hr)) hmember
      (fun r hr hin => hloop r (List.mem_cons_of_mem _ hr) (isMember_of_addMember hin))
    rw [List.map_cons, RoleServer.execAll, hfirst]
    refine hrest.trans (congrArg Except.ok ?_)
    unfold Cluster.joined Cluster.addMember
    congr 1
    funext other
    by_cases hother : other = role
    · subst hother
      by_cases hin : other ∈ rest <;> simp [hin]
    · simp [hother]

/-- A member that does not exist joins no role. -/
theorem execAll_grant_missing {roles : List PyStr} {c : Cluster}
    (h : ∀ role ∈ roles, SettableRole rules role) (hroles : ∀ role ∈ roles, role ∈ c.roles)
    (hname : IsQuotedName member) (hmember : member ∉ c.roles) (hne : roles ≠ []) :
    server.execAll c (roles.map fun role => .grant role member) = .error .undefinedObject := by
  obtain ⟨role, rest, rfl⟩ := List.exists_cons_of_ne_nil hne
  rw [List.map_cons, RoleServer.execAll, server.grant_missing c role role member
    (h role List.mem_cons_self).denotes (hroles role List.mem_cons_self) hname hmember]
  rfl

/-- A block of grants that handles missing roles: the member joins all of them, or none when it does
not exist. -/
theorem block_grant {roles : List PyStr} {c : Cluster}
    (h : ∀ role ∈ roles, SettableRole rules role)
    (hroles : ∀ role ∈ roles, role ∈ c.roles) (hname : IsQuotedName member)
    (hloop : ∀ role ∈ roles, ¬c.IsMember role member) :
    server.block .undefinedObject c (roles.map fun role => .grant role member) =
      .ok (if member ∈ c.roles then c.joined roles member else c) := by
  unfold RoleServer.block
  by_cases hmember : member ∈ c.roles
  · rw [execAll_grant h hroles hname hmember hloop, if_pos hmember]
  · rw [if_neg hmember]
    by_cases hne : roles = []
    · subst hne
      rfl
    · rw [execAll_grant_missing h hroles hname hmember hne]
      rfl

end Grants

/-! ## A server -/

section Example

open scoped Classical in
/-- What a command does to the role its word denotes. -/
noncomputable def Cluster.execOn (c : Cluster) (role : PyStr) :
    RoleCommand → Except RoleError Cluster
  | .create _ =>
    if isReserved role then .error .reservedName
    else if role ∈ c.roles then .error .duplicateObject
    else .ok { c with roles := insert role c.roles }
  | .alterSet _ name value =>
    if isReserved role then .error .reservedName
    else if role ∈ c.roles then .ok (c.setDefault role name value) else .error .undefinedObject
  | .grant _ member =>
    if role ∈ c.roles ∧ member ∈ c.roles then
      if c.IsMember role member then .error .invalidGrantOperation
      else .ok (c.addMember role member)
    else .error .undefinedObject

/-- The word that names the role of a command. -/
def RoleCommand.word : RoleCommand → PyStr
  | create word | alterSet word _ _ | grant word _ => word

/-- What a command does; a word of the grammar denotes no role. -/
noncomputable def Cluster.exec (rules : NameRules) (c : Cluster) (command : RoleCommand) :
    Except RoleError Cluster :=
  match rules.unquoted command.word with
  | none => .error .syntaxError
  | some role => c.execOn role command

theorem exec_of_denotes {rules : NameRules} {c : Cluster} {role : PyStr} (command : RoleCommand)
    (h : rules.Denotes command.word role) : c.exec rules command = c.execOn role command := by
  unfold Cluster.exec
  rw [h.unquoted]

/-- A server whose settings take every value. -/
noncomputable def plainServer (rules : NameRules) : RoleServer rules where
  exec c command := c.exec rules command
  takes _ _ := True
  create_new c word role h hreserved hmem := by
    rw [exec_of_denotes (.create word) h]
    simp [Cluster.execOn, hreserved, hmem]
  create_existing c word role h hreserved hmem := by
    rw [exec_of_denotes (.create word) h]
    simp [Cluster.execOn, hreserved, hmem]
  create_reserved c word role h hreserved := by
    rw [exec_of_denotes (.create word) h]
    simp [Cluster.execOn, hreserved]
  alterSet c word role name value h hreserved hmem _ := by
    rw [exec_of_denotes (.alterSet word name value) h]
    simp [Cluster.execOn, hreserved, hmem]
  grant c word role member h _ hmem _ hmember hloop := by
    rw [exec_of_denotes (.grant word member) h]
    simp [Cluster.execOn, hmem, hmember, hloop]
  grant_missing c word role member h hmem _ hmember := by
    rw [exec_of_denotes (.grant word member) h]
    simp [Cluster.execOn, hmember]

end Example

end Postgres
