import SchemaConcord.Webhook.Address

/-!
# Deliveries

A message is posted to the address of a webhook. An answer with a status from 200 to 299 means that it was delivered;
any other answer, and a transport that fails, mean that it was not, which is reported and stops nothing. Only an
address that no message can be sent to is a fault.
-/

namespace SchemaConcord

open Text

inductive PostReply where
  | answered (status : Int)
  /-- The transport failed; the word names the kind of its fault. -/
  | failed (kind message : String)
  /-- Something other than the transport failed. -/
  | broken (kind message : String)
  deriving DecidableEq, Repr

inductive WebhookFault where
  | address (fault : WebAddressFault)
  | relative (target : String)
  | broken (kind message : String)
  deriving DecidableEq, Repr

def WebhookFault.message : WebhookFault → String
  | .address f => f.message
  | .relative t => "unknown url type: " ++ quoted t
  | .broken _ m => m

inductive Delivery where
  | delivered (status : Int)
  | refused (status : Int)
  | failed (kind message : String)
  deriving DecidableEq, Repr

namespace Delivery

def isSuccess (status : Int) : Bool := 200 ≤ status && status ≤ 299

def error? : Delivery → Option String
  | .delivered _ => none
  | .refused status => some ("HTTP " ++ toString status)
  | .failed kind message => some (kind ++ ": " ++ message)

/-- What a reply from an address means. An answer from a relative address is one from nowhere. -/
def ofReply (a : WebAddress) : PostReply → Except WebhookFault Delivery
  | .answered status =>
    if !a.isAbsolute then .error (.relative a.target)
    else .ok (if isSuccess status then .delivered status else .refused status)
  | .failed kind message => .ok (.failed kind message)
  | .broken kind message => .error (.broken kind message)

end Delivery

end SchemaConcord
