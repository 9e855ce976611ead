import Roster.Filter.Error
import Roster.Json.Printer
import Roster.Page
import Roster.SortOrder

/-!
# Errors of the service

What a client is told when a request fails: that the request was wrong, with a code for the kind of mistake, or that the service failed. What went wrong inside is not told.
-/

namespace Roster

open Text

inductive ServiceError
  | badRequest (code message : Text)
  | internal (message : Text)
deriving DecidableEq, Repr

namespace ServiceError

def status : ServiceError → Nat
  | .badRequest _ _ => 400
  | .internal _ => 500

def reason : ServiceError → Text
  | .badRequest _ _ => "Bad Request".toList
  | .internal _ => "Internal Server Error".toList

def code : ServiceError → Text
  | .badRequest code _ => code
  | .internal _ => "INTERNAL".toList

def message : ServiceError → Text
  | .badRequest _ message => message
  | .internal message => message

/-- The general name of the error in the body of a response. -/
def kind : ServiceError → Text
  | .badRequest _ _ => "bad_request".toList
  | .internal _ => "internal_error".toList

/-- The error on one line, for people. -/
def display (e : ServiceError) : Text :=
  ofNat e.status ++ ' ' :: e.reason ++ " (".toList ++ e.code ++ "): ".toList ++ e.message

def contentType : Text := "application/json".toList

/-- The body of the response. -/
def body (e : ServiceError) : Text :=
  Json.compact (.object
    [("error".toList, .string e.kind), ("code".toList, .string e.code), ("message".toList, .string e.message)])

def ofFilter (e : Filter.Error) : ServiceError :=
  let code := match e with
    | .tooLong _ _ => "FILTER_TOO_LONG".toList
    | .columnNotAllowed _ => "INVALID_FILTER_COLUMN".toList
    | .scan _ => "INVALID_FILTER".toList
    | .parse _ => "INVALID_FILTER".toList
  .badRequest code e.message

def ofSort (e : SortError) : ServiceError := .badRequest "INVALID_SORT".toList e.message

/-- A failure of the database, whatever it was. -/
def ofDatabase : ServiceError := .internal "Database operation failed".toList

def faultCode : Page.Fault → Text
  | .number => "page_min".toList
  | .size => "page_size_min".toList

def faultMessage : Page.Fault → Text
  | .number => "Page must be >= 1".toList
  | .size => "Page size must be >= 1".toList

/-- Refuses a page that has faults. -/
def checkPage (page : Page) : Except ServiceError Unit :=
  match page.faults with
  | [] => .ok ()
  | faults => .error (.badRequest "VALIDATION_ERROR".toList (join "; ".toList (faults.map faultMessage)))

end ServiceError

end Roster
