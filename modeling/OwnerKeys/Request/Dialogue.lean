import OwnerKeys.Request

/-!
# Password dialogues

Every dialogue allows a small number of attempts. `newPassword` asks for a new password until its
length is acceptable, and then for the same line again. `challenge` asks for the password of a
pending request until one reproduces the tag of the request.
-/

namespace OwnerKeys.Dialogue

variable {Store : Type}

/-- The number of attempts that the operator has at every prompt. -/
def maxAttempts : Nat := 3

/-- Asks for a line, which has to be given. -/
def readLine (prompt : Prompt) : Attempt Store RequestError String := do
  match ← perform (Action.ask prompt) with
  | .line text => return text
  | .endOfInput => throw .userAborted
  | .failure message => throw (.prompt message)

/-- Asks for a new password until one has an acceptable length; gives the line as well. -/
def firstEntry : Nat → Attempt Store RequestError (String × Password)
  | 0 => throw .userAborted
  | attempts + 1 => do
    let line ← readLine .newPassword
    match Password.ofLine? line with
    | some password => return (line, password)
    | none =>
      perform (Action.emit (.reported .badLength))
      firstEntry attempts

/-- Asks for a line again until it is entered in the same way. -/
def confirm (line : String) : Nat → Attempt Store RequestError Unit
  | 0 => throw .userAborted
  | attempts + 1 => do
    let again ← readLine .confirmation
    if again = line then
      return ()
    else
      perform (Action.emit (.reported .mismatch))
      confirm line attempts

/-- Asks for a new password and for its confirmation. -/
def newPassword : Attempt Store RequestError Password := do
  let (line, password) ← firstEntry maxAttempts
  confirm line maxAttempts
  return password

/-- Asks for the password of a list until one reproduces the stored tag. -/
def challengeWithin (stored : AuthTag) (list : Option Bytes) :
    Nat → Attempt Store RequestError Bool
  | 0 => return false
  | attempts + 1 => do
    let line ← readLine .oldPassword
    match Password.ofLine? line with
    | none =>
      perform (Action.emit (.reported .invalid))
      challengeWithin stored list attempts
    | some password =>
      if AuthTag.derive list password = stored then
        return true
      else
        challengeWithin stored list attempts

/-- Challenges the operator for the password behind the stored tag of a list. -/
def challenge (stored : AuthTag) (list : Option Bytes) : Attempt Store RequestError Bool :=
  challengeWithin stored list maxAttempts

end OwnerKeys.Dialogue
