import Galley.Api.Status
import Galley.Client.Dialogue
import Galley.Failure

/-!
# Complaints

Why a command of the client fails: the server did not answer, it answered with a refusal or with
something that is not what was asked for, or a file could not be used.

A refusal that carries a report of the failure is told by the report's code and message. Any other
is told by its body.
-/

namespace Galley.Client

/-- Why a command fails. -/
inductive Complaint where
  | unanswered (causes : Causes)
  | unansweredCall (method address : String) (causes : Causes)
  | refused (status : Nat) (code : Code) (message : String)
  | refusedOtherwise (status : Nat) (body : String)
  | unreadableAnswer (fault : String)
  | unreadableFile (path reason : String)
  | notContent (path fault : String)
  | unwritableFile (path reason : String)
  deriving DecidableEq, Repr

namespace Complaint

/-- The wording of a complaint. -/
def message : Complaint → String
  | unanswered causes => causes.report
  | unansweredCall method address causes =>
    method ++ " " ++ address ++ " failed: " ++ causes.report
  | refused status code message =>
    Status.toText status ++ " (" ++ code.name ++ "): " ++ message
  | refusedOtherwise status body => Status.toText status ++ ": " ++ Text.trimString body
  | unreadableAnswer fault => Causes.report ["error decoding response body", fault]
  | unreadableFile path reason => "reading " ++ path ++ ": " ++ reason
  | notContent path fault => path ++ " is not template content: " ++ fault
  | unwritableFile path reason => "writing " ++ path ++ ": " ++ reason

end Complaint

end Galley.Client
