import Gatehouse.Event
import Gatehouse.Http.Message
import Gatehouse.Json.Value
import Gatehouse.Text.Quoted

/-!
Problems: the errors a client gets to see. A problem has a kind, which fixes the status and the
title, a message, and possibly the error behind it, which only the log shows.
-/
namespace Gatehouse

inductive ProblemKind where
  | badRequest
  | unauthorized
  | notFound
  | payloadTooLarge
  | internal
  deriving DecidableEq, Repr

namespace ProblemKind

def all : List ProblemKind := [badRequest, unauthorized, notFound, payloadTooLarge, internal]

def status : ProblemKind → Nat
  | badRequest => 400
  | unauthorized => 401
  | notFound => 404
  | payloadTooLarge => 413
  | internal => 500

def title : ProblemKind → String
  | badRequest => "Bad Request"
  | unauthorized => "Unauthorized"
  | notFound => "Not Found"
  | payloadTooLarge => "Payload Too Large"
  | internal => "Internal Server Error"

/-- The name of a kind in documents. -/
def code : ProblemKind → String
  | badRequest => "BAD_REQUEST"
  | unauthorized => "UNAUTHORIZED"
  | notFound => "NOT_FOUND"
  | payloadTooLarge => "PAYLOAD_TOO_LARGE"
  | internal => "INTERNAL_SERVER_ERROR"

/-- The name of a kind in the log. -/
def label : ProblemKind → String
  | badRequest => "BadRequest"
  | unauthorized => "Unauthorized"
  | notFound => "NotFound"
  | payloadTooLarge => "PayloadTooLarge"
  | internal => "InternalServerError"

def isServerError (kind : ProblemKind) : Bool := 500 ≤ kind.status

def isClientError (kind : ProblemKind) : Bool := 400 ≤ kind.status && kind.status < 500

end ProblemKind

/-- The error behind a problem, in its two wordings: for people, and with its structure. -/
structure Cause where
  display : String
  debug : String
  deriving DecidableEq, Repr

structure Problem where
  kind : ProblemKind
  message : String
  source : Option Cause
  deriving DecidableEq, Repr

namespace Problem

/-- A problem with nothing behind it. -/
def of (kind : ProblemKind) (message : String) : Problem := ⟨kind, message, none⟩

def display (problem : Problem) : String :=
  "[" ++ problem.kind.title ++ "] " ++ problem.message

/-- The wording with all parts, as the log has it. -/
def debug (problem : Problem) : String :=
  "AppError \x7b kind: " ++ problem.kind.label ++ ", message: " ++ Quoted.quote problem.message ++
    (match problem.source with
      | some cause => ", source: " ++ cause.debug
      | none => "") ++ " \x7d"

/-- The body of the answer: its members in alphabetical order. -/
def body (problem : Problem) : String :=
  let status := Numeral.decimal problem.kind.status
  Json.objectText [
    ("detail", Json.quote problem.message),
    ("status", status),
    ("title", Json.quote problem.kind.title),
    ("type", Json.quote ("https://httpstatuses.io/" ++ status))]

/-- What the log gets when a problem is answered: server errors alone. -/
def events (problem : Problem) : List Event :=
  if problem.kind.isServerError then
    [⟨.error, "Request failed with server error", [("error", problem.debug)]⟩]
  else []

def response (problem : Problem) : Response :=
  .ofText problem.kind.status "application/problem+json" problem.body

end Problem
end Gatehouse
