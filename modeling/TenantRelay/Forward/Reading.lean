import TenantRelay.Envelope.Response
import TenantRelay.Forward.Error
import TenantRelay.Http.Reason
import TenantRelay.Json.Reader
import TenantRelay.Text.Blank
import TenantRelay.Transport.Exchange

/-!
What an instance's answer means. An envelope that tells of a failure counts as an
answer whatever its status is, and the status tells whether to try again.
-/

namespace TenantRelay.Forward

def judged (status : Nat) (r : Response) : Response :=
  if status = 503 then { r with retriable := some true }
  else if status = 500 then { r with retriable := some false }
  else r

def unread : Response := { error := "instance could not read the request", retriable := some true }

/-- A failure without an envelope is told by its text, or by the name of its status. -/
def remoteText (status : Nat) (body : Bytes) : String :=
  let text := Text.trim (Text.Utf8.decodeLossy body)
  if text = "" then (Http.reason? status).getD "unknown" else text

def readAnswer (status : Nat) (body : Bytes) : Except ForwardError Response :=
  if isSuccess status then
    if body.isEmpty then .ok (if status = 204 then unread else {})
    else (Json.parse Response.decoder body).mapError fun e => .unreadable e.message
  else
    match Json.parse Response.decoder body with
    | .ok r =>
      if r.isError then .ok (judged status r) else .error (.remote status (remoteText status body))
    | .error _ => .error (.remote status (remoteText status body))

end TenantRelay.Forward
