import SessionGateway.Identity.Basic
import SessionGateway.Json.Basic
import SessionGateway.Terminal.SizeQueue

/-!
# Stored forms

How identities, authentication types and terminal sizes are kept in JSON. Each `ofJson?` reads
what its `toJson` writes.
-/

namespace SessionGateway

namespace AuthType

def toJson (a : AuthType) : Json :=
  .text a.key

def ofJson? (v : Json) : Option AuthType :=
  v.caseName?.bind ofKey?

end AuthType

namespace Identity

def toJson (who : Identity) : Json :=
  .record [("namespace", .text who.tenant), ("user_id", .text who.userId)]

def ofJson? (v : Json) : Option Identity :=
  match v.recordFields? ["namespace", "user_id"] with
  | some [tenant, userId] => do return ⟨← tenant.text?, ← userId.text?⟩
  | _ => none

end Identity

namespace Terminal.Size

def toJson (s : Size) : Json :=
  .record [("width", .nat s.width.toNat), ("height", .nat s.height.toNat)]

def count? (v : Json) : Option UInt16 :=
  (v.unsigned? (UInt16.size - 1)).map UInt16.ofNat

def ofJson? (v : Json) : Option Size :=
  match v.recordFields? ["width", "height"] with
  | some [width, height] => do return ⟨← count? width, ← count? height⟩
  | _ => none

end Terminal.Size

end SessionGateway
