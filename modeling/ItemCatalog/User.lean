import ItemCatalog.Operation
import ItemCatalog.Ordered

/-!
# Users

Verified callers and what they may do. Main statement: an operation is allowed to those who hold
the permission of its name or one of its roles.
-/

namespace ItemCatalog

/-- Roles that grant an operation without a permission for it. -/
def Operation.roles : Operation → List String
  | .create => ["admin", "write"]
  | .read => ["admin", "write", "read"]
  | .update => ["admin", "write"]
  | .delete => ["admin"]

/-- A verified caller with its grants. -/
structure User where
  id : String
  name : Option String := none
  clientId : Option String := none
  roles : TextSet := Ordered.empty
  permissions : TextSet := Ordered.empty
deriving DecidableEq

namespace User

/-- The user with some more roles. -/
def withRoles (user : User) (roles : List String) : User :=
  { user with roles := roles.foldl TextSet.insert user.roles }

/-- The user with some more permissions. -/
def withPermissions (user : User) (permissions : List String) : User :=
  { user with permissions := permissions.foldl TextSet.insert user.permissions }

/-- Whether a user may perform an operation. -/
def allows (user : User) (op : Operation) : Bool :=
  user.permissions.contains op.name || op.roles.any user.roles.contains

/-- Whether a user may perform the operation of a given name; no other name is ever allowed. -/
def isAuthorized (user : User) (operation : String) : Bool :=
  (Operation.parse? operation).any user.allows

theorem allows_iff (user : User) (op : Operation) :
    user.allows op = true ↔
      user.permissions.contains op.name = true ∨
        ∃ role ∈ op.roles, user.roles.contains role = true := by
  simp [allows]

end User
end ItemCatalog
