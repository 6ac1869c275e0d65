/-! Causes. A failure tells of its causes, the nearest first. An account of it joins them, and leaves out a cause
    whose text the account already ends with. -/

namespace Gateway.Http

/-- Adds a cause to an account. -/
def addCause (account cause : String) : String :=
  if cause.toList.isSuffixOf account.toList then account else account ++ ": " ++ cause

/-- The account of a failure and its causes. -/
def account (failure : String) (causes : List String) : String := causes.foldl addCause failure

end Gateway.Http
