import ItemCatalog.User

/-!
# What grants decide

A user is allowed what one of its permissions names or one of its roles stands for, so what counts
is which roles and permissions it holds, and not how it came by them. Main statement: more grants
never take anything away, grants without a meaning change nothing, and to ask for an operation by
its name is to ask for the operation (`decided_by_grants`).

## Main definitions

* `Grant`: roles or permissions that a user is given.
* `User.Holds`: a user has a role or a permission.
* `User.grantAll`: a user with all that it is given, one grant after another.
-/

namespace ItemCatalog

/-! ## Names of operations -/

/-- A text names an operation just if it is the name of it up to ASCII case. -/
theorem Operation.parse?_eq_some_iff {s : String} {op : Operation} :
    Operation.parse? s = some op ↔ Text.lower s = op.name := by
  rw [Operation.parse?]
  constructor
  · intro h
    have hfound := List.find?_some h
    exact (beq_iff_eq.1 hfound).symm
  · intro h
    rw [h]
    cases op <;> decide

/-! ## Grants one after another -/

/-- The two kinds of grants. -/
inductive Grant.Kind
  | role
  | permission
deriving DecidableEq

/-- Roles or permissions that a user is given at once. -/
structure Grant where
  kind : Grant.Kind
  names : List String

namespace User
variable {user u v : User} {op : Operation} {kind : Grant.Kind} {s : String}

/-- What a user holds of a kind. -/
def held (user : User) : Grant.Kind → TextSet
  | .role => user.roles
  | .permission => user.permissions

/-- Whether a user holds a role or a permission of a given name. -/
def Holds (user : User) (kind : Grant.Kind) (s : String) : Prop :=
  (user.held kind).contains s = true

instance : Decidable (user.Holds kind s) := inferInstanceAs (Decidable (_ = true))

/-- The user with what it is given. -/
def grant (user : User) (g : Grant) : User :=
  match g.kind with
  | .role => user.withRoles g.names
  | .permission => user.withPermissions g.names

/-- The user with all that it is given, in order. -/
def grantAll (user : User) (grants : List Grant) : User := grants.foldl grant user

theorem holds_grant {g : Grant} :
    (user.grant g).Holds kind s ↔ (g.kind = kind ∧ s ∈ g.names) ∨ user.Holds kind s := by
  obtain ⟨given, names⟩ := g
  cases given <;> cases kind
  · simpa [Holds, held, grant, withRoles] using TextSet.contains_foldl names user.roles s
  · simp [Holds, held, grant, withRoles]
  · simp [Holds, held, grant, withPermissions]
  · simpa [Holds, held, grant, withPermissions] using
      TextSet.contains_foldl names user.permissions s

/-- A user holds what it held and what it was given at any time. -/
theorem holds_grantAll {grants : List Grant} :
    (user.grantAll grants).Holds kind s ↔
      (∃ g ∈ grants, g.kind = kind ∧ s ∈ g.names) ∨ user.Holds kind s := by
  induction grants generalizing user with
  | nil => simp [grantAll]
  | cons g rest ih =>
    rw [grantAll, List.foldl_cons, ← grantAll, ih, holds_grant]
    simp only [List.mem_cons, or_and_right, exists_or, exists_eq_left]
    rw [or_left_comm, or_assoc]

theorem grant_eq (user : User) (g : Grant) :
    ∃ roles permissions, user.grant g = { user with roles, permissions } := by
  obtain ⟨given, names⟩ := g
  cases given
  · exact ⟨_, user.permissions, rfl⟩
  · exact ⟨user.roles, _, rfl⟩

/-- Grants leave everything else about a user as it is. -/
theorem grantAll_eq (user : User) (grants : List Grant) :
    ∃ roles permissions, user.grantAll grants = { user with roles, permissions } := by
  induction grants generalizing user with
  | nil => exact ⟨user.roles, user.permissions, rfl⟩
  | cons g rest ih =>
    obtain ⟨roles, permissions, hg⟩ := user.grant_eq g
    obtain ⟨roles', permissions', hrest⟩ := ih (user.grant g)
    refine ⟨roles', permissions', ?_⟩
    rw [grantAll, List.foldl_cons, ← grantAll, hrest, hg]

/-- It does not matter in which order, how often and in what groups a user is given its roles and
permissions. -/
theorem grantAll_congr {grants grants' : List Grant}
    (h : ∀ kind s, (∃ g ∈ grants, g.kind = kind ∧ s ∈ g.names) ↔
      ∃ g ∈ grants', g.kind = kind ∧ s ∈ g.names) :
    user.grantAll grants = user.grantAll grants' := by
  have hholds (kind : Grant.Kind) (s : String) :
      (user.grantAll grants).Holds kind s ↔ (user.grantAll grants').Holds kind s := by
    rw [holds_grantAll, holds_grantAll, h]
  obtain ⟨roles, permissions, hgrants⟩ := user.grantAll_eq grants
  obtain ⟨roles', permissions', hgrants'⟩ := user.grantAll_eq grants'
  rw [hgrants, hgrants'] at hholds ⊢
  have hroles : roles = roles' := TextSet.ext_contains (hholds .role)
  have hpermissions : permissions = permissions' := TextSet.ext_contains (hholds .permission)
  rw [hroles, hpermissions]

/-! ## Decisions -/

theorem allows_iff_holds :
    user.allows op = true ↔
      user.Holds .permission op.name ∨ ∃ role ∈ op.roles, user.Holds .role role :=
  user.allows_iff op

theorem isAuthorized_iff :
    user.isAuthorized s = true ↔ ∃ op, Text.lower s = op.name ∧ user.allows op = true := by
  simp only [isAuthorized, Option.any_eq_true, Operation.parse?_eq_some_iff]

theorem isAuthorized_of_name (h : Text.lower s = op.name) :
    user.isAuthorized s = user.allows op := by
  rw [isAuthorized, Operation.parse?_eq_some_iff.2 h, Option.any_some]

/-- Whoever holds the grants of a user is allowed what the user is. -/
theorem allows_mono (h : ∀ kind s, u.Holds kind s → v.Holds kind s) (hu : u.allows op = true) :
    v.allows op = true := by
  rw [allows_iff_holds] at hu ⊢
  rcases hu with hpermission | ⟨role, hrole, hholds⟩
  · exact .inl (h _ _ hpermission)
  · exact .inr ⟨role, hrole, h _ _ hholds⟩

/-- The grants that have a meaning. -/
def meaningful : Grant.Kind → List String
  | .role => ["admin", "write", "read"]
  | .permission => ["create", "read", "update", "delete"]

/-- Users who hold the same of the grants that have a meaning are allowed the same. -/
theorem allows_congr (h : ∀ kind, ∀ s ∈ meaningful kind, u.Holds kind s ↔ v.Holds kind s) :
    u.allows op = v.allows op := by
  have hname : op.name ∈ meaningful .permission := by cases op <;> decide
  have hroles : ∀ role ∈ op.roles, role ∈ meaningful .role := by cases op <;> decide
  rw [Bool.eq_iff_iff, allows_iff_holds, allows_iff_holds, h .permission op.name hname]
  refine or_congr_right (exists_congr fun role => and_congr_right fun hrole => ?_)
  exact h .role role (hroles role hrole)

/-- Whoever holds all grants of a user is allowed all that the user is, by whatever steps the two
have come by them: a user who is given roles and permissions holds what it is given, so it is the
same user in whatever order, how often and in what groups that happens. Roles other than `admin`,
`write` and `read` and permissions other than the four names of operations, in this very spelling,
decide nothing. A text is the name of an operation in any ASCII case, and then it is allowed just if
the operation is, or it is never allowed, be it held as a permission or not. -/
theorem decided_by_grants :
    (∀ u v : User, (∀ kind s, u.Holds kind s → v.Holds kind s) →
      (∀ op, u.allows op = true → v.allows op = true) ∧
        ∀ s, u.isAuthorized s = true → v.isAuthorized s = true) ∧
    (∀ (user : User) (grants : List Grant) (kind : Grant.Kind) (s : String),
      (user.grantAll grants).Holds kind s ↔
        (∃ g ∈ grants, g.kind = kind ∧ s ∈ g.names) ∨ user.Holds kind s) ∧
    (∀ (user : User) (grants grants' : List Grant),
      (∀ kind s, (∃ g ∈ grants, g.kind = kind ∧ s ∈ g.names) ↔
        ∃ g ∈ grants', g.kind = kind ∧ s ∈ g.names) →
      user.grantAll grants = user.grantAll grants') ∧
    (∀ u v : User, (∀ role ∈ ["admin", "write", "read"], u.Holds .role role ↔ v.Holds .role role) →
      (∀ permission ∈ ["create", "read", "update", "delete"],
        u.Holds .permission permission ↔ v.Holds .permission permission) →
      (∀ op, u.allows op = v.allows op) ∧ ∀ s, u.isAuthorized s = v.isAuthorized s) ∧
    ∀ (user : User) (s : String),
      (∀ op : Operation, Text.lower s = op.name → user.isAuthorized s = user.allows op) ∧
      ((∀ op : Operation, Text.lower s ≠ op.name) → user.isAuthorized s = false) := by
  refine ⟨?more, fun user grants kind s => holds_grantAll,
    fun user grants grants' => grantAll_congr, ?same, ?names⟩
  case more =>
    intro u v h
    refine ⟨fun op => allows_mono h, fun s hu => ?_⟩
    obtain ⟨op, hname, hallows⟩ := isAuthorized_iff.1 hu
    exact isAuthorized_iff.2 ⟨op, hname, allows_mono h hallows⟩
  case same =>
    intro u v hroles hpermissions
    have hallows (op : Operation) : u.allows op = v.allows op := by
      refine allows_congr fun kind => ?_
      cases kind
      · exact hroles
      · exact hpermissions
    refine ⟨hallows, fun s => ?_⟩
    rw [Bool.eq_iff_iff, isAuthorized_iff, isAuthorized_iff]
    simp only [hallows]
  case names =>
    intro user s
    refine ⟨fun op => isAuthorized_of_name, fun h => Bool.eq_false_iff.2 fun hs => ?_⟩
    obtain ⟨op, hname, -⟩ := isAuthorized_iff.1 hs
    exact h op hname

/-- A user with one role and nothing else. -/
def head : User := { id := "a", roles := .ofList ["admin"] }

/-- The same user, given the role once more and two permissions that name no operation. -/
def archivist : User :=
  head.grantAll [⟨.permission, ["archive", "CREATE"]⟩, ⟨.role, ["admin", "admin"]⟩]

/-- The permission to archive comes to nothing, and the archivist may delete as before, however it
was given the rest. -/
theorem archivist_decided :
    archivist.Holds .permission "archive" ∧ archivist.isAuthorized "archive" = false ∧
      head.isAuthorized "DELETE" = true ∧ archivist.isAuthorized "DELETE" = true ∧
      (∀ op, archivist.allows op = head.allows op) ∧
      archivist =
        head.grantAll
          [⟨.role, ["admin"]⟩, ⟨.permission, ["CREATE"]⟩, ⟨.permission, ["archive"]⟩] := by
  obtain ⟨hmore, hholds, horder, hsame, hnames⟩ := decided_by_grants
  have harchive : archivist.Holds .permission "archive" :=
    (hholds head _ .permission "archive").2 (.inl ⟨_, List.mem_cons_self, rfl, by decide⟩)
  have hcovers : ∀ kind s, head.Holds kind s → archivist.Holds kind s := fun kind s h =>
    (hholds head _ kind s).2 (.inr h)
  have hdelete : head.isAuthorized "DELETE" = true := by decide +kernel
  refine ⟨harchive, (hnames archivist "archive").2 ?_, hdelete,
    (hmore head archivist hcovers).2 "DELETE" hdelete, (hsame archivist head ?_ ?_).1,
    horder head _ _ fun kind s => ?_⟩
  · intro op
    cases op <;> decide
  · decide +kernel
  · decide +kernel
  · cases kind <;> simp [or_comm]

end User
end ItemCatalog
