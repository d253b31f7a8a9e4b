import ColumnChecks.Text.Blank

/-!
# Connection strings without their passwords

A connection string is a URL. A password may stand in two places of it: behind
the user's name in front of the host, and in a parameter `password` of the
query. In the text that is shown both give way to three stars.

The user's part ends at the last at sign before the path, so a password may
contain at signs, and it starts behind the first colon of that part.
-/

namespace ColumnChecks.Connection

open Text (after? cutAt? pieces)

/-- What is shown in place of a password. -/
def mask : List Char := ['*', '*', '*']

/-- What stands before and behind the first occurrence of a text. -/
def cutAtPiece? (piece : List Char) : List Char → Option (List Char × List Char)
  | [] => (after? piece []).map fun rest => ([], rest)
  | c :: cs =>
    match after? piece (c :: cs) with
    | some rest => some ([], rest)
    | none => (cutAtPiece? piece cs).map fun (before, rest) => (c :: before, rest)

/-- What stands before and behind the last occurrence of a character. -/
def cutAtLast? (mark : Char) (cs : List Char) : Option (List Char × List Char) :=
  (cutAt? (· == mark) cs.reverse).map fun (behind, before) => (before.reverse, behind.reverse)

/-- The user's part of a URL with its password hidden, if it has one. -/
def hideUserPassword (user : List Char) : List Char :=
  match cutAt? (· == ':') user with
  | some (name, _) => name ++ ':' :: mask
  | none => user

/-- What stands in front of the path, with the user's password hidden. -/
def hideAuthority (authority : List Char) : List Char :=
  match cutAtLast? '@' authority with
  | some (user, host) => hideUserPassword user ++ '@' :: host
  | none => authority

/-- A URL with the user's password hidden. -/
def hideUrlPassword (url : List Char) : List Char :=
  match cutAtPiece? [':', '/', '/'] url with
  | some (scheme, rest) =>
    scheme ++ [':', '/', '/'] ++ hideAuthority (rest.takeWhile (· != '/'))
      ++ rest.dropWhile (· != '/')
  | none => url

/-- A parameter of a query, hidden if it is a password. -/
def hideParameter (parameter : List Char) : List Char :=
  match cutAt? (· == '=') parameter with
  | some (name, _) => if name = "password".toList then name ++ '=' :: mask else parameter
  | none => parameter

/-- A URL with the passwords of its query hidden. -/
def hideQueryPasswords (url : List Char) : List Char :=
  match cutAt? (· == '?') url with
  | some (before, query) =>
    before ++ '?' :: ['&'].intercalate ((pieces '&' query).map hideParameter)
  | none => url

/-- A connection string without its passwords. -/
def redact (connection : String) : String :=
  String.ofList (hideQueryPasswords (hideUrlPassword connection.toList))

/-- Whether a connection string is one of PostgreSQL. -/
def isPostgres (connection : String) : Bool :=
  (after? "postgres://".toList connection.toList).isSome
    || (after? "postgresql://".toList connection.toList).isSome

end ColumnChecks.Connection
