import Baggage.Service.Failure

/-!
# Baggage.Service.Message

The **requests and responses** of the service, and how the body of a request is read. A body
counts as JSON if the first content type in the headers says so; a body that does not, or that is
blank, reads as the empty object, so that the client is told which fields it left out.
-/

namespace Baggage.Service

/-- What a client sends. -/
structure Request where
  /-- The method, in capitals where it is a usual one. -/
  method : String
  /-- The path, with the query behind it, or an address that holds both. -/
  target : String
  /-- The headers in order: names in any case, and the bytes of their values. -/
  headers : List (String × List UInt8)
  /-- The bytes of the body. -/
  body : ByteArray

/-- What a client receives. -/
structure Response where
  /-- The status. -/
  status : Nat
  /-- The headers. -/
  headers : List (String × String)
  /-- The body. -/
  body : String
  deriving DecidableEq, Repr

namespace Request

/-- Whether a character ends a path. -/
def isPathEnd (c : Char) : Bool := c == '?' || c == '#'

/-- What follows the scheme and the authority of an address, if a text begins with a scheme. -/
def behindAuthority? (text : List Char) : Option (List Char) :=
  match text.dropWhile (· != ':') with
  | ':' :: '/' :: '/' :: rest => some (rest.dropWhile fun c => c != '/' && !isPathEnd c)
  | _ => none

/-- The path of a request, without the query. An address without a path has the path of the root,
and an authority alone, which is neither a path nor an address, has none. -/
def path (r : Request) : String :=
  let text := r.target.toList
  let pathOf (text : List Char) : List Char := text.takeWhile fun c => !isPathEnd c
  if text.head? == some '/' || text == ['*'] then String.ofList (pathOf text)
  else
    match behindAuthority? text with
    | none => ""
    | some rest =>
      let path := pathOf rest
      if path.isEmpty then "/" else String.ofList path

/-- Whether a header may be read as text: visible ASCII characters, spaces and tabs only. -/
def isVisible (byte : UInt8) : Bool :=
  (32 ≤ byte.toNat && byte.toNat < 127) || byte.toNat == 9

/-- The text of a header, if its bytes are all visible. -/
def headerText? (value : List UInt8) : Option (List Char) :=
  if value.all isVisible then some (value.map fun byte => Char.ofNat byte.toNat) else none

/-- The content type: the text of the first header of that name. -/
def contentType? (r : Request) : Option (List Char) := do
  let (_, value) ← r.headers.find? fun header => header.1.toLower == "content-type"
  headerText? value

/-- Whether a text has `word` somewhere in it. -/
def hasWord (word : List Char) : List Char → Bool
  | [] => word.isEmpty
  | c :: rest => word.isPrefixOf (c :: rest) || hasWord word rest

/-- Whether the body is said to be JSON. -/
def isJson (r : Request) : Bool :=
  r.contentType?.any fun text => hasWord ['j', 's', 'o', 'n'] text

/-- The bytes that count as blank: tab, line feed, form feed, carriage return and space. -/
def isBlankByte (byte : UInt8) : Bool := [9, 10, 12, 13, 32].contains byte.toNat

/-- The greatest number of bytes in a body. -/
def bodyLimit : Nat := 2097152

/-- The value of the body. -/
def readBody (r : Request) : Except BodyFault Json :=
  if bodyLimit < r.body.size then .error .tooLarge
  else if !r.isJson || r.body.data.all isBlankByte then .ok .empty
  else
    match Json.parseBytes r.body with
    | .ok body => .ok body
    | .error e => .error (.malformed e)

end Request

end Baggage.Service
