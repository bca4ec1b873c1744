import Transit.Error
import Transit.Json.Fields
set_option autoImplicit false

/-!
Callers, the roles they hold, and the gate in front of what needs a role.
-/

namespace Transit

/-- A caller; without a name it is anonymous. `roles` is sorted and has no role twice. -/
structure User where
  name : String := ""
  roles : List String := []
  externalIds : List (String × String) := []
  deriving DecidableEq, Repr, Inhabited

namespace Role

/-- Every caller holds it. -/
def anon : String := "anon"
/-- Every caller with a name holds it. -/
def user : String := "user"
def admin : String := "admin"

/-- Put a role into a sorted list. -/
def insert (role : String) : List String → List String
  | [] => [role]
  | r :: rest =>
    if role < r then role :: r :: rest
    else if role == r then r :: rest
    else r :: insert role rest

end Role

namespace User

def isAnonymous (u : User) : Bool := u.name == ""

def withRoles (u : User) (roles : List String) : User :=
  { u with roles := roles.foldl (fun held r => Role.insert r held) u.roles }

def hasRole (u : User) (role : String) : Bool :=
  if role == Role.anon then true
  else if role == Role.user then !u.isAnonymous
  else u.roles.contains role

def requireRole (u : User) (role : String) : Except FieldError Unit :=
  if u.hasRole role then .ok () else .error .accessDenied

/-- Add the roles that are granted to names. An anonymous caller is granted none. -/
def withGrantedRoles (u : User) (granted : List (String × List String)) : User :=
  if u.isAnonymous then u else u.withRoles ((granted.lookup u.name).getD [])

def toJson (u : User) : Json := .obj [
  ("name", .str u.name),
  ("roles", .ofTexts u.roles),
  ("external_ids", .ofMap .str u.externalIds)]

def ofJson? (j : Json) : Option User := do
  let f ← j.fields?
  let name := (← f.optional Json.readText "name").getD ""
  let roles := (← f.optional Json.readTexts "roles").getD []
  let externalIds := (← f.optional Json.readTextMap "external_ids").getD []
  some (User.withRoles { name, externalIds } roles)

end User

end Transit
