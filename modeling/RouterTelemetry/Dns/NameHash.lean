import RouterTelemetry.Digest.Sha256
import RouterTelemetry.Text.Base64
import RouterTelemetry.Text.Blank
import RouterTelemetry.Text.Lowercase
/-!
# Hashes of query names

Query names never leave the router in clear text. What leaves is the salted digest of a name, in which
case and surrounding blanks make no difference.
-/

namespace RouterTelemetry.Dns

open RouterTelemetry.Text

/-- The form of a name that is hashed: without blanks around it, in lower case. -/
def normalizeName (name : String) : List Char :=
  lowercase (trim name.toList)

/-- The salted hash of a query name: `b64:` and the Base64 form of the digest of the salt followed by the
normalized name. -/
def nameHash (salt name : String) : String :=
  "b64:" ++ String.ofList
    (base64 (Digest.Sha256.digest (encodeUtf8 salt.toList ++ encodeUtf8 (normalizeName name))))

end RouterTelemetry.Dns
