/-!
# Identities

Who a connection belongs to, the attributes that the handshake has attached to it, and the name of
the pod that serves a user.
-/

namespace SessionGateway

inductive AuthType where
  | publicKey
  | password
  deriving DecidableEq, Repr

namespace AuthType

/-- Reads the value that the handshake stores; a public key has two spellings. -/
def ofText? (s : String) : Option AuthType :=
  if s = "publickey" ∨ s = "public-key" then some .publicKey
  else if s = "password" then some .password
  else none

def text : AuthType → String
  | .publicKey => "publickey"
  | .password => "password"

def key : AuthType → String
  | .publicKey => "public-key"
  | .password => "password"

def ofKey? (s : String) : Option AuthType :=
  if s = "public-key" then some .publicKey
  else if s = "password" then some .password
  else none

end AuthType

/-- The attributes of a connection, at most one value for a name. -/
structure Permissions where
  entries : List (String × String)
  deriving DecidableEq, Repr

namespace Permissions

def empty : Permissions :=
  ⟨[]⟩

def insert (p : Permissions) (name value : String) : Permissions :=
  ⟨(name, value) :: p.entries.filter (·.1 ≠ name)⟩

def ofList (entries : List (String × String)) : Permissions :=
  entries.foldl (fun p (name, value) => p.insert name value) empty

def count (p : Permissions) : Nat :=
  p.entries.length

def get? (p : Permissions) (name : String) : Option String :=
  (p.entries.lookup name).filter (· ≠ "")

def authType (p : Permissions) : Option AuthType :=
  (p.get? "auth-type").bind AuthType.ofText?

def userId (p : Permissions) : Option String :=
  p.get? "user-id"

def tenant (p : Permissions) : Option String :=
  p.get? "namespace"

/-- The private key that was issued, which only a password login has. -/
def privateKey (p : Permissions) : Option String :=
  if p.authType = some .password then p.get? "private-key" else none

end Permissions

structure Identity where
  tenant : String
  userId : String
  deriving DecidableEq, Repr

/-- The text `NAMESPACE/USER`. -/
def Identity.text (who : Identity) : String :=
  who.tenant ++ "/" ++ who.userId

/-! ## Pod names

The name of the pod that serves a user. It is a host-name label: lower-case ASCII letters, digits
and single dashes, no dash at either end, and at most 63 characters. It is empty where neither the
configured start nor the user's id has an ASCII letter or digit.
-/

namespace PodName

def maxLength : Nat := 63

def isPlain (c : Char) : Bool :=
  c.isAlphanum

/-- One dash in place of each run of other characters; `dashed` tells that no dash is to be
written next, because one stands there already or nothing stands there yet. -/
def squeeze (dashed : Bool) : List Char → List Char
  | [] => []
  | c :: rest =>
    let c := c.toLower
    if isPlain c then c :: squeeze false rest
    else if dashed then squeeze true rest
    else '-' :: squeeze true rest

def dropTrailingDashes (cs : List Char) : List Char :=
  (cs.reverse.dropWhile (· = '-')).reverse

/-- The pod name of a user, with the configured start in front of the user's id. -/
def ofUser (lead userId : String) : String :=
  String.ofList (dropTrailingDashes ((squeeze true (lead.toList ++ userId.toList)).take maxLength))

end PodName

end SessionGateway
