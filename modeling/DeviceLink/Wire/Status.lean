import DeviceLink.Text.Quoted
/-!
# Call status

With what a call ends that does not succeed.
-/
namespace DeviceLink

structure Status where
  /-- From 1 to 16; other codes count as unknown. -/
  code    : Nat
  message : String
deriving DecidableEq, Repr

namespace Status

def codeNames : List String :=
  ["Cancelled", "Unknown", "InvalidArgument", "DeadlineExceeded", "NotFound", "AlreadyExists",
    "PermissionDenied", "ResourceExhausted", "FailedPrecondition", "Aborted", "OutOfRange",
    "Unimplemented", "Internal", "Unavailable", "DataLoss", "Unauthenticated"]

def codeName (code : Nat) : String :=
  match code with
  | 0 => "Ok"
  | n + 1 => codeNames.getD n "Unknown"

/-- The code for a platform that cannot be reached. -/
def unavailable (message : String) : Status := ⟨14, message⟩

def text (s : Status) : String :=
  "status: " ++ codeName s.code ++ ", message: " ++ Text.quoted s.message

end Status
end DeviceLink
