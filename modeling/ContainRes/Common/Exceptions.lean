import Mathlib.Data.String.Basic

/-! # Error codes and exceptions

The exceptions of the services: `SocaException`, which carries an error code and a message, and the
exceptions of the runtime and of the AWS client, which carry neither. The constructors below follow
`exception_utils.py`. -/

namespace ContainRes

/-- The error codes of `errorcodes.py` that the modelled code raises or tests. -/
inductive ErrorCode
  | generalError
  | invalidParams
  | unauthorizedAccess
  | gidNotFound
  | uidAndGidNotFound
  | authMultipleUsersFound
  | authUserIsDisabled
  | authGroupIsDisabled
  | authUserNotFound
  | authUserAlreadyExists
  | authGroupNotFound
  | authTokenExpired
  | authInvalidOperation
  | projectNotFound
  | noSharedFilesystemFound
  | filesystemNotFound
  | filesystemAlreadyOnboarded
  | filesystemNotInVpc
  | tableMergeFailed
  | tableRollbackFailed
  | doNotDeleteMessage
  | messageSourceValidationFailed
  deriving DecidableEq, Repr

/-- The exceptions that are not a `SocaException`. -/
inductive RuntimeError
  | typeError
  | keyError
  | indexError
  | attributeError
  | valueError
  | clientError
  deriving DecidableEq, Repr

/-- An exception raised by the modelled code. -/
inductive Exc
  /-- `SocaException(error_code, message)`. -/
  | soca (errorCode : ErrorCode) (message : String)
  /-- Any other exception. -/
  | other (kind : RuntimeError) (message : String)
  deriving DecidableEq, Repr

namespace Exc

/-- A message with its optional information, as every helper of `exception_utils.py` builds it. -/
def withInfo (message : String) : Option String → String
  | none => message
  | some info => s!"{message}: {info}"

def invalidParams (info : String) : Exc := .soca .invalidParams (withInfo "Invalid params" (some info))

def unauthorizedAccess (info : Option String) : Exc :=
  .soca .unauthorizedAccess (withInfo "Unauthorized Access" info)

def invalidOperation (message : String) : Exc := .soca .authInvalidOperation message

/-- `e.error_code` of a `SocaException`. -/
def errorCode : Exc → Option ErrorCode
  | .soca code _ => some code
  | .other _ _ => none

/-- Whether `except exceptions.SocaException` catches the exception. -/
def isSoca (e : Exc) : Bool := e.errorCode.isSome

end Exc

end ContainRes
