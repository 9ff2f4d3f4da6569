import ContainRes.Api.PayloadTypes
import ContainRes.Store.Scan

/-! # The payloads that are logged

`SocaServer._invoke` logs the request before the API is invoked and the response after it, with the
payloads that `ClusterManagerApiInvoker` gives for logging: for some namespaces the payload is read as the
type of the request or of the result, and some of its attributes are replaced.

* **`Invocation`** — the request and the response of one invocation.
* **`requestMask`**, **`responseMask`** — by namespace, the type and what is replaced.
* **`getRequestLoggingPayload`**, **`getResponseLoggingPayload`** — the methods of the invoker.
* **`requestText`**, **`responseText`** — the payload texts of `log_request` and `log_response`. A request
  whose masking raises is logged as it is; a response whose masking raises is not logged. -/

namespace ContainRes.Api.Payloads

open Store Text

/-! ## The request and the response -/

/-- The dicts of one invocation, and whether payloads are traced. -/
structure Invocation where
  request : Fields
  response : Fields
  isPayloadTracingEnabled : Bool

/-- `Utils.get_value_as_dict(key, obj)`: an empty object counts as missing. -/
def getValueAsDict (key : String) (obj : Fields) : Option Fields :=
  match obj.get? key with
  | some (.obj (.cons k v rest)) => some (.cons k v rest)
  | _ => none

/-- What the standard library makes of values: the text of a value that is no string, and the number in a
text, by `int(text)` and by `int(float(text))`. -/
structure Conversions where
  str : Json → String
  intOf : String → Option Int
  intOfFloat : String → Option (Except Exc Int)

variable (conversions : Conversions)

def getValueAsString (key : String) (obj : Fields) : Option String :=
  match obj.get? key with
  | none | some .null | some (.arr .nil) | some (.obj .nil) => none
  | some (.str s) => getAsString (some s)
  | some value => some (conversions.str value)

def getAsInt (value : Option Json) (default : Int) : Except Exc Int :=
  match value with
  | some (.num n) => .ok (n.num.tdiv n.den)
  | some (.bool b) => .ok (if b then 1 else 0)
  | some (.str s) =>
    match conversions.intOf s with
    | some n => .ok n
    | none => (conversions.intOfFloat s).getD (.ok default)
  | _ => .ok default

def isNotEmpty : Option Json → Bool
  | none | some .null | some (.arr .nil) | some (.obj .nil) => false
  | some (.str s) => !isEmpty s
  | some _ => true

def Invocation.namespace (i : Invocation) : Option String :=
  (getValueAsDict "header" i.request).bind (getValueAsString conversions "namespace")

/-- The characters of `[A-Za-z0-9]`. -/
def isAlphanumeric (c : Char) : Bool := c.isAlpha || c.isDigit

/-- The namespace matches `^[A-Za-z0-9]+.{1}[A-Za-z0-9]+$`. -/
def isNamespace (s : String) : Bool :=
  (List.range s.toList.length).any fun n =>
    let before := s.toList.take n
    let after := s.toList.drop (n + 1)
    before ≠ [] && before.all isAlphanumeric && s.toList[n]? ≠ some '\n' && after ≠ [] &&
      after.all isAlphanumeric

/-- The request id matches `^[0-9a-zA-Z-_]+$`. -/
def isRequestId (s : String) : Bool :=
  s ≠ "" && s.toList.all fun c => isAlphanumeric c || c = '-' || c = '_'

def validateRequest (i : Invocation) : Except Exc Unit :=
  match getValueAsDict "header" i.request with
  | none => .error (.invalidParams "header is required")
  | some header =>
    match getValueAsString conversions "namespace" header with
    | none => .error (.invalidParams "namespace is required")
    | some ns =>
      if isNamespace ns then
        match getValueAsString conversions "request_id" header with
        | none => .ok ()
        | some requestId =>
          if isRequestId requestId then .ok ()
          else .error (.invalidParams "request_id must satisfy regex: ^[0-9a-zA-Z-_]+$")
      else .error (.invalidParams "namespace must satisfy regex: ^[A-Za-z0-9]+.\x7b1\x7d[A-Za-z0-9]+$")

/-- `context.is_success()`, for the responses of `success` and `fail`. -/
def Invocation.isSuccess (i : Invocation) : Bool :=
  match i.response.get? "success" with
  | some (.bool b) => b
  | _ => false

/-! ## What is replaced -/

/-- The text in place of a secret. -/
def stars : Json := .str "*****"

/-- An attribute of a payload that is replaced. -/
def Part.stars : Part := .scalar Payloads.stars

/-- A change of a nested object. -/
def Part.onRecord (f : Model Json → Model Json) : Part → Part
  | .record m => .record (f m)
  | part => part

/-- A change of a listing. -/
def Part.onRecords (f : List (Model Json) → List (Model Json)) : Part → Part
  | .records ms => .records (f ms)
  | part => part

/-- The password of a user, if there is one. -/
def maskPassword (user : Model Json) : Model Json :=
  user.modify "password" fun password => if isNotEmpty (some password) then stars else password

/-- By namespace, the type of the request and what `get_request_logging_payload` replaces. -/
def requestMask : String → Option (PayloadType × (Model Part → Model Part))
  | "Auth.InitiateAuth" => some (InitiateAuthRequest, fun payload =>
    (payload.modify "password" fun _ => .stars).modify "authorization_code" fun _ => .stars)
  | "Auth.SignOut" => some (SignOutRequest, fun payload => payload.setAttr "refresh_token" .stars)
  | "Auth.RespondToAuthChallenge" =>
    some (RespondToAuthChallengeRequest, fun payload => payload.setAttr "new_password" .stars)
  | "Auth.ConfirmForgotPassword" =>
    some (ConfirmForgotPasswordRequest, fun payload => payload.setAttr "password" .stars)
  | "Auth.ChangePassword" => some (ChangePasswordRequest, fun payload =>
    (payload.setAttr "old_password" .stars).setAttr "new_password" .stars)
  | "Accounts.CreateUser" =>
    some (CreateUserRequest, fun payload => payload.modify "user" (Part.onRecord maskPassword))
  | _ => none

def maxListingsForLogging : Nat := 10

/-- The first entries of a listing. -/
def truncate (ms : List (Model Json)) : List (Model Json) :=
  if ms.length > maxListingsForLogging then ms.take maxListingsForLogging else ms

def autoTruncateResponses : String → Option PayloadType
  | "Accounts.ListUsers" => some ListUsersResult
  | "Accounts.ListGroups" => some ListGroupsResult
  | "Snapshots.ListSnapshots" => some ListSnapshotsResult
  | _ => none

/-- The text in place of a private key. -/
def keyMaterialText (keySize : Int) : Json := .str s!"**key_material_length=={keySize}**"

/-- A private key is replaced by the number that `Utils.get_as_int` makes of it. -/
def maskKeyMaterial (payload : Model Part) : Except Exc (Model Part) := do
  let keySize ← getAsInt conversions ((payload.getAttr "key_material").map Part.toJson) 0
  return payload.setAttr "key_material" (.scalar (keyMaterialText keySize))

/-- By namespace, the type of the result and what `get_response_logging_payload` replaces. -/
def responseMask : String → Option (PayloadType × (Model Part → Except Exc (Model Part)))
  | "Auth.InitiateAuth" => some (InitiateAuthResult, fun payload =>
    .ok (payload.modify "auth" (Part.onRecord fun auth =>
      ((auth.setAttr "access_token" stars).modify "id_token" fun _ => stars).modify "refresh_token" fun _ => stars)))
  | "Auth.RespondToAuthChallenge" => some (RespondToAuthChallengeResult, fun payload =>
    .ok (payload.modify "auth" (Part.onRecord fun auth =>
      (auth.setAttr "access_token" stars).modify "refresh_token" fun _ => stars)))
  | "Auth.GetUserPrivateKey" => some (GetUserPrivateKeyResult, maskKeyMaterial conversions)
  | "FileBrowser.ReadFile" =>
    some (ReadFileResult, fun payload => .ok (payload.setAttr "content" (.scalar (.str "****"))))
  | "FileBrowser.TailFile" => some (TailFileResult, fun payload =>
    .ok (payload.setAttr "lines" (.scalar (.arr (.cons (.str "****") .nil)))))
  | ns => (autoTruncateResponses ns).map fun type =>
    (type, fun payload => .ok (payload.modify "listing" (Part.onRecords truncate)))

/-! ## The methods of the invoker -/

variable (pydantic : Pydantic) (json : JsonText Json)

/-- The dict with another payload. -/
def withPayload (dict : Fields) (payload : Model Part) : Fields :=
  dict.set "payload" (.obj (payload.toDict Part.toJson))

def Invocation.requestPayload (i : Invocation) : Fields := (getValueAsDict "payload" i.request).getD .nil

def getRequestLoggingPayload (i : Invocation) : Except Exc (Option Fields) :=
  match (i.namespace conversions).bind requestMask with
  | none => .ok none
  | some (type, mask) => do
    let payload ← getPayloadAs pydantic type i.requestPayload
    return some (withPayload i.request (mask payload))

/-- `get_response_logging_payload(context)`. Without a payload there is no object to replace anything
in. -/
def getResponseLoggingPayload (i : Invocation) : Except Exc (Option Fields) :=
  if i.isSuccess then
    match (i.namespace conversions).bind (responseMask conversions) with
    | none => .ok none
    | some (type, mask) =>
      match getValueAsDict "payload" i.response with
      | none => .error (.other .attributeError "'NoneType' object has no attribute")
      | some payload => do
        let payload ← getPayloadAs pydantic type payload
        let payload ← mask payload
        return some (withPayload i.response payload)
  else .ok none

/-- The payload text of `log_request`. -/
def requestText (i : Invocation) : Option String :=
  if i.isPayloadTracingEnabled then
    match validateRequest conversions i >>= fun _ => getRequestLoggingPayload conversions pydantic i with
    | .ok (some traced) => some (json.text (.obj traced))
    | .ok none => some (json.text (.obj i.request))
    -- `request_logged` is still false in the `finally`
    | .error _ => some (json.text (.obj i.request))
  else none

/-- The payload text of `log_response`. -/
def responseText (i : Invocation) : Option String :=
  if i.isPayloadTracingEnabled then
    match getResponseLoggingPayload conversions pydantic i with
    | .ok traced => some (json.text (.obj (traced.getD i.response)))
    -- the exception leaves `_invoke`
    | .error _ => none
  else none

end ContainRes.Api.Payloads
