import FormEngine.Digest.Hmac
import FormEngine.Document.Check
import FormEngine.Document.Json
import FormEngine.Text.Base64Url
import FormEngine.Text.Blank
/-!
# Tokens

A token carries a document through the hands of a client: the payload is the JSON form of the
document in base64, and with a password the payload is followed by a full stop and its keyed
hash, so that nobody without the password can make one up. Reading checks the signature before
it looks at the payload.
-/

namespace FormEngine

/-- Why a token cannot be read. -/
inductive TokenError where
  | notBase64
  | notJson
  | badArena (e : ArenaError)
  | badSignature
  | unexpectedSignature
  deriving DecidableEq, Repr

/-- The wording of a token fault. -/
def TokenError.message : TokenError → String
  | .notBase64 => "Unable to decode state: <base64>"
  | .notJson => "Unable to decode state: <json>"
  | .badArena e => "Unable to decode state: " ++ e.message
  | .badSignature => "State signature does not match"
  | .unexpectedSignature => "State is signed but no password is configured"

namespace Token

/-- The bytes of a text. -/
def bytes (s : String) : List UInt8 := s.toUTF8.data.toList

/-- The payload of a document. -/
def payload (d : Document) : String :=
  String.ofList (Text.Base64Url.encode (Json.write d.toJson))

/-- The signature of a payload under a password. -/
def signature (password payload : String) : String :=
  String.ofList (Text.Base64Url.encode (Digest.hmacSha256 (bytes password) (bytes payload)))

/-- The token of a document, signed when there is a password. -/
def encode (d : Document) (password : Option String) : String :=
  match password with
  | none => payload d
  | some password => payload d ++ "." ++ signature password (payload d)

/-- A token cut at its first full stop, if it has one. -/
def split? (token : String) : Option (String × String) :=
  let cs := token.toList
  match cs.dropWhile (· != '.') with
  | [] => none
  | _ :: rest => some (String.ofList (cs.takeWhile (· != '.')), String.ofList rest)

/-- The signature is the one of the payload under the password. -/
def verifySignature (password payload signature : String) : Except TokenError Unit :=
  match Text.Base64Url.decode signature.toList with
  | none => .error .badSignature
  | some provided =>
    if provided = Digest.hmacSha256 (bytes password) (bytes payload) then .ok ()
    else .error .badSignature

/-- The token is signed under the password. -/
def verify (token password : String) : Except TokenError Unit :=
  match split? token with
  | none => .error .badSignature
  | some (payload, signature) => verifySignature password payload signature

/-- The document of a JSON text. A fault in the links is found before bytes after the value. -/
def readDocument (text : List UInt8) : Except TokenError Document :=
  match Json.read? text with
  | none => .error .notJson
  | some (v, rest) =>
    match Document.ofJson? v with
    | none => .error .notJson
    | some d =>
      match d.check with
      | .error e => .error (.badArena e)
      | .ok () => if (Json.skipBlanks rest).isEmpty then .ok d else .error .notJson

/-- The document of a payload, which may have blanks around it. -/
def readPayload (payload : String) : Except TokenError Document :=
  match Text.Base64Url.decode (Text.trimList payload.toList) with
  | none => .error .notBase64
  | some text => readDocument text

/-- The document of a token. A password asks for a signature, and no password for none. -/
def decode (token : String) (password : Option String) : Except TokenError Document := do
  match split? token, password with
  | some (payload, signature), some password =>
    verifySignature password payload signature
    readPayload payload
  | some _, none => throw .unexpectedSignature
  | none, some _ => throw .badSignature
  | none, none => readPayload token

end Token

end FormEngine
