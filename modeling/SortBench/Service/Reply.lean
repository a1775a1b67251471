import SortBench.Fault.Basic
import SortBench.Json.Document

/-!
# Replies

A reply is a status with a document, or with a plain text when something unexpected
happened. Faults that the caller can mend are answered with their texts: a violated
precondition as a bad request, a wrong result and an exhausted recursion as a request that
cannot be processed.
-/

namespace SortBench.Service

/-- The body of a reply. -/
inductive Body where
  /-- A document. -/
  | document (content : Json.Document)
  /-- A plain text. -/
  | plain (content : String)

/-- An answer to a request. -/
structure Reply where
  /-- The status. -/
  status : Nat
  /-- The body. -/
  body : Body

namespace Reply

/-- Something unexpected happened. -/
def internalError : Reply :=
  ⟨500, .plain "Internal Server Error"⟩

/-- A reply with a document, if the document can be written plainly; otherwise something unexpected
has happened. -/
def ofDocument (status : Nat) (content : Json.Document) : Reply :=
  if content.isPlain then ⟨status, .document content⟩ else internalError

/-- The request was met. -/
def ok (content : Json.Document) : Reply :=
  ofDocument 200 content

/-- The request was not met, for the reason given in words. -/
def detail (status : Nat) (reason : Text) : Reply :=
  ofDocument status (.object [("detail", .text reason)])

/-- The body cannot be read. -/
def unreadableBody : Reply :=
  detail 400 "There was an error parsing the body"

/-- What was asked for is at another address, if that address can be written. -/
def elsewhere (address : Text) : Reply :=
  if address.string?.isSome then ⟨307, .plain ""⟩ else internalError

/-- There is nothing at the address. -/
def notFound : Reply :=
  detail 404 "Not Found"

/-- The address does not take the method. -/
def methodNotAllowed : Reply :=
  detail 405 "Method Not Allowed"

end Reply

/-- The status and the reason of a fault. A fault that is foreseen by nobody has none. -/
def explain (fault : Fault) : Nat × Text :=
  match fault with
  | .precondition _ => (400, fault.message)
  | .violation _ => (422, fault.message)
  | .exhausted _ => (422, "Recursion limit exceeded; use the quick_iterative algorithm")
  | _ => (500, fault.message)

/-- The reply to a fault of a sort or a run, as it is raised under the usual limit: an
explanation of the three kinds of fault that are expected there, and an internal error for any
other. -/
def replyToFault (fault : Fault) : Reply :=
  let raised := fault.raised Numeral.usualLimit
  match raised with
  | .precondition _ | .violation _ | .exhausted _ =>
    Reply.detail (explain raised).1 (explain raised).2
  | _ => .internalError

end SortBench.Service
