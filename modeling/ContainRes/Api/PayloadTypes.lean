import ContainRes.Common.Exceptions
import ContainRes.Text.Json

/-! # Payload types

The request and result types that are read before a payload is logged, and how `pydantic` reads them from
JSON: the fields of the type are taken in their order, a field that is missing or null is `None`, other
fields are dropped, and a value that does not fit makes the whole payload unreadable.

* **`Pydantic`** — the conversions of single values, which are not part of the repository.
* **`Model`** — the attributes of an object; **`Model.toDict`** drops those that are `None`.
* **`readModel`**, **`getPayloadAs`** — reading an object by the fields of its type.
* **`InitiateAuthRequest`**, … — the types themselves. -/

namespace ContainRes.Api.Payloads

open Text

/-! ## Objects -/

/-- The attributes of an object in the order of its type; an attribute is `none` for `None`. -/
abbrev Model (V : Type) : Type := List (String × Option V)

namespace Model

variable {V : Type}

/-- `model.name`. -/
def getAttr (m : Model V) (name : String) : Option V := (m.lookup name).bind id

/-- The object with every attribute given by a function of its name and value. -/
def mapAttrs (g : String → Option V → Option V) (m : Model V) : Model V := m.map fun a => (a.1, g a.1 a.2)

/-- `model.name = value`. -/
def setAttr (m : Model V) (name : String) (value : V) : Model V :=
  m.mapAttrs fun n old => if n = name then some value else old

/-- `model.name = f(model.name)`, if it is not `None`. -/
def modify (m : Model V) (name : String) (f : V → V) : Model V :=
  m.mapAttrs fun n old => if n = name then old.map f else old

/-- `Utils.to_dict`, which leaves out what is `None`. -/
def toDict (toJson : V → Json) : Model V → Fields
  | [] => .nil
  | (_, none) :: rest => toDict toJson rest
  | (name, some value) :: rest => .cons name (toJson value) (toDict toJson rest)

end Model

/-! ## Reading -/

/-- The types whose values are read as one. -/
inductive ScalarType
  | str
  | bool
  | int
  | float
  | datetime
  /-- `List[str]`. -/
  | texts
  | dict
  | snapshotStatus
  | paginator
  | sortBy
  | dateRange
  /-- `List[SocaFilter]`. -/
  | filters
  deriving DecidableEq, Repr

/-- How `pydantic` reads a single value and writes it again. Strings, and lists of strings, are kept. -/
structure Pydantic where
  convert : ScalarType → Json → Except Exc Json
  convert_str : ∀ s, convert .str (.str s) = .ok (.str s)
  convert_texts : ∀ lines : List String, convert .texts (.arr (.ofList (lines.map .str))) =
    .ok (.arr (.ofList (lines.map .str)))

/-- The fields of a type, all of which are optional. -/
abbrev RecordType : Type := List (String × ScalarType)

/-- The type of a field of a payload. -/
inductive FieldType
  | scalar (type : ScalarType)
  | record (type : RecordType)
  | records (type : RecordType)
  deriving DecidableEq, Repr

/-- The fields of a payload. -/
abbrev PayloadType : Type := List (String × FieldType)

/-- The value of a field of a payload. -/
inductive Part
  | scalar (value : Json)
  | record (m : Model Json)
  | records (ms : List (Model Json))

/-- The JSON of an object whose values are JSON. -/
def recordJson (m : Model Json) : Json := .obj (m.toDict id)

/-- The JSON of a value. -/
def Part.toJson : Part → Json
  | .scalar value => value
  | .record m => recordJson m
  | .records ms => .arr (.ofList (ms.map recordJson))

/-- `pydantic.ValidationError`, which is a `ValueError`. -/
def validationError : Exc := .other .valueError "validation error"

variable {V T : Type}

/-- An optional field. -/
def readOptional (read : Json → Except Exc V) : Option Json → Except Exc (Option V)
  | none => .ok none
  | some .null => .ok none
  | some value => (read value).map some

/-- The fields of a type, read from an object. -/
def readModel (read : T → Json → Except Exc V) (fields : Fields) :
    List (String × T) → Except Exc (Model V)
  | [] => .ok []
  | (name, type) :: rest => do
    let value ← readOptional (read type) (fields.get? name)
    let values ← readModel read fields rest
    return (name, value) :: values

variable (pydantic : Pydantic)

/-- A value of a type without nested types. -/
def readRecord (type : RecordType) : Json → Except Exc (Model Json)
  | .obj fields => readModel pydantic.convert fields type
  | _ => .error validationError

/-- A value of a list type. -/
def readRecords (type : RecordType) : Json → Except Exc (List (Model Json))
  | .arr items => items.toList.mapM (readRecord pydantic type)
  | _ => .error validationError

/-- The value of a field. -/
def readPart : FieldType → Json → Except Exc Part
  | .scalar type, value => (pydantic.convert type value).map .scalar
  | .record type, value => (readRecord pydantic type value).map .record
  | .records type, value => (readRecords pydantic type value).map .records

/-- `get_payload_as(payload, payload_type)` for a dict. -/
def getPayloadAs (type : PayloadType) (payload : Fields) : Except Exc (Model Part) :=
  readModel (readPart pydantic) payload type

/-! ## The types -/

/-- Fields of type `Optional[str]`. -/
def texts (names : List String) : PayloadType := names.map fun name => (name, .scalar .str)

def InitiateAuthRequest : PayloadType :=
  texts ["client_id", "auth_flow", "cognito_username", "password", "refresh_token", "authorization_code"]

def SignOutRequest : PayloadType := [("refresh_token", .scalar .str), ("sso_auth", .scalar .bool)]

def RespondToAuthChallengeRequest : PayloadType :=
  [("client_id", .scalar .str), ("session", .scalar .str), ("challenge_name", .scalar .str),
    ("challenge_params", .scalar .dict), ("username", .scalar .str), ("new_password", .scalar .str)]

def ConfirmForgotPasswordRequest : PayloadType :=
  texts ["client_id", "username", "confirmation_code", "password"]

def ChangePasswordRequest : PayloadType := texts ["username", "old_password", "new_password"]

def User : RecordType :=
  [("username", .str), ("password", .str), ("email", .str), ("uid", .int), ("gid", .int),
    ("group_name", .str), ("ds_group_name", .str), ("additional_groups", .texts), ("login_shell", .str),
    ("home_dir", .str), ("sudo", .bool), ("status", .str), ("enabled", .bool),
    ("password_last_set", .datetime), ("password_max_age", .float), ("created_on", .datetime),
    ("updated_on", .datetime), ("synced_on", .datetime), ("role", .str), ("is_active", .bool)]

def CreateUserRequest : PayloadType := [("user", .record User), ("email_verified", .scalar .bool)]

def AuthResult : RecordType :=
  [("access_token", .str), ("id_token", .str), ("refresh_token", .str), ("expires_in", .int), ("token_type", .str)]

def InitiateAuthResult : PayloadType :=
  [("challenge_name", .scalar .str), ("session", .scalar .str), ("challenge_params", .scalar .dict),
    ("auth", .record AuthResult), ("db_username", .scalar .str), ("role", .scalar .str)]

def RespondToAuthChallengeResult : PayloadType :=
  [("challenge_name", .scalar .str), ("session", .scalar .str), ("challenge_params", .scalar .dict),
    ("auth", .record AuthResult)]

def GetUserPrivateKeyResult : PayloadType := texts ["name", "key_material"]

def ReadFileResult : PayloadType := texts ["file", "content_type", "content"]

def TailFileResult : PayloadType :=
  [("file", .scalar .str), ("next_token", .scalar .str), ("lines", .scalar .texts), ("line_count", .scalar .int)]

def Group : RecordType :=
  [("title", .str), ("description", .str), ("name", .str), ("ds_name", .str), ("gid", .int),
    ("group_type", .str), ("ref", .str), ("enabled", .bool), ("created_on", .datetime),
    ("updated_on", .datetime), ("synced_on", .datetime), ("type", .str), ("role", .str)]

def Snapshot : RecordType :=
  [("s3_bucket_name", .str), ("snapshot_path", .str), ("status", .snapshotStatus),
    ("created_on", .datetime), ("failure_reason", .str)]

/-- The fields of a `SocaListingPayload`, with a listing of the type. -/
def ListingPayload (type : RecordType) : PayloadType :=
  [("paginator", .scalar .paginator), ("sort_by", .scalar .sortBy), ("date_range", .scalar .dateRange),
    ("listing", .records type), ("filters", .scalar .filters)]

def ListUsersResult : PayloadType := ListingPayload User

def ListGroupsResult : PayloadType := ListingPayload Group

def ListSnapshotsResult : PayloadType := ListingPayload Snapshot

end ContainRes.Api.Payloads
