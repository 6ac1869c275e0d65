import Gateway.Text.Quoted

/-! What the operating system says when it refuses something: a number, and the words for it. -/

namespace Gateway.Net

structure SystemError where
  code : Nat
  kind : String
  message : String
deriving DecidableEq, Repr

namespace SystemError

def noFile : SystemError := ⟨2, "NotFound", "No such file or directory"⟩

def isDirectory : SystemError := ⟨21, "IsADirectory", "Is a directory"⟩

def invalid : SystemError := ⟨22, "InvalidInput", "Invalid argument"⟩

def unavailable : SystemError := ⟨99, "AddrNotAvailable", "Cannot assign requested address"⟩

def unreachable : SystemError := ⟨101, "NetworkUnreachable", "Network is unreachable"⟩

/-- The errors that files and connections meet with. -/
def known : List SystemError := [
  noFile, isDirectory, invalid, unavailable, unreachable,
  ⟨13, "PermissionDenied", "Permission denied"⟩,
  ⟨20, "NotADirectory", "Not a directory"⟩,
  ⟨24, "Uncategorized", "Too many open files"⟩,
  ⟨32, "BrokenPipe", "Broken pipe"⟩,
  ⟨97, "Uncategorized", "Address family not supported by protocol"⟩,
  ⟨98, "AddrInUse", "Address already in use"⟩,
  ⟨103, "ConnectionAborted", "Software caused connection abort"⟩,
  ⟨104, "ConnectionReset", "Connection reset by peer"⟩,
  ⟨110, "TimedOut", "Connection timed out"⟩,
  ⟨111, "ConnectionRefused", "Connection refused"⟩,
  ⟨113, "HostUnreachable", "No route to host"⟩]

def ofCode (code : Nat) : SystemError :=
  (known.find? (·.code == code)).getD ⟨code, "Uncategorized", s!"Unknown error {code}"⟩

def text (e : SystemError) : String := s!"{e.message} (os error {e.code})"

/-- The parts of an error by their names. -/
def parts (e : SystemError) : String :=
  s!"Os \x7b code: {e.code}, kind: {e.kind}, message: {Text.quote e.message} \x7d"

end SystemError
end Gateway.Net
