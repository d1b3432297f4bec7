import KeaGauge.Net.MediaType
import KeaGauge.Net.Url
import KeaGauge.Text.Base64
/-!
# Messages of HTTP

The request that posts a JSON body to a URL, and the answer to it. The head of
an answer says how far the body behind it goes: it has a length, or comes in
chunks, or ends with the connection.
-/

namespace KeaGauge.Net.Http

/-! ## Requests -/

/-- The field that says who asks. -/
def authorization (credentials : String) : String :=
  "authorization: Basic " ++ String.ofList (Text.base64 credentials.toUTF8.toList) ++ "\r\n"

/-- **The request that posts a JSON body.** -/
def post (url : Url) (body : String) : String :=
  "POST " ++ url.resource ++ " HTTP/1.1\r\n" ++ (url.credentials.map authorization).getD ""
    ++ "content-type: application/json\r\naccept: */*\r\nhost: " ++ url.authority
    ++ "\r\ncontent-length: " ++ s!"{body.utf8ByteSize}" ++ "\r\n\r\n" ++ body

/-! ## Heads -/

/-- How far a body goes: over so many bytes, over chunks, or over all that
comes. -/
inductive Extent where
  | bytes (count : Nat)
  | chunks
  | rest
deriving DecidableEq, Repr

/-- The head of an answer: its status, the media type of its body, and how far
the body goes. -/
structure Head where
  status : Nat
  mediaType : String
  extent : Extent
deriving DecidableEq, Repr

/-- The bytes up to the first empty line, and those behind it. -/
def splitHead? : List UInt8 → Option (List UInt8 × List UInt8)
  | 13 :: 10 :: 13 :: 10 :: rest => some ([], rest)
  | b :: rest => (splitHead? rest).map fun (head, body) => (b :: head, body)
  | [] => none

/-- The lines of a head. -/
def headLines (head : List UInt8) : List (List Char) :=
  ((Text.decodeUtf8 head).splitOn '\n').map fun line => line.filter (· ≠ '\r')

/-- The status in the first line of a head. -/
def status? (lines : List (List Char)) : Option Nat := do
  let line ← lines.head?
  let (status, _) ← Text.numeral? 10 3 ((line.dropWhile (· ≠ ' ')).drop 1)
  return status

/-- A field of a head: its name in lower case, and its value. -/
def field (line : List Char) : List Char × List Char :=
  ((line.takeWhile (· ≠ ':')).map Char.toLower,
    Text.trim ((line.dropWhile (· ≠ ':')).drop 1))

/-- The value of a field of a head. -/
def fieldOf? (lines : List (List Char)) (name : String) : Option (List Char) :=
  ((lines.drop 1).map field).lookup name.toList

/-- Whether answers of a status have a body. -/
def hasBody (status : Nat) : Bool := status ≠ 204 && status ≠ 304

/-- How far the body behind a head goes. -/
def extentOf (status : Nat) (lines : List (List Char)) : Extent :=
  if !hasBody status then .bytes 0
  else if fieldOf? lines "transfer-encoding" = some "chunked".toList then .chunks
  else
    match (fieldOf? lines "content-length").bind (Text.numeral? 10 18) with
    | some (count, _) => .bytes count
    | none => .rest

/-- The head that bytes start with, if all of it is there, and what follows
it. -/
def Head.ofBytes? (bytes : List UInt8) : Option (Head × List UInt8) := do
  let (head, rest) ← splitHead? bytes
  let lines := headLines head
  let status ← status? lines
  return (⟨status, String.ofList ((fieldOf? lines "content-type").getD []),
    extentOf status lines⟩, rest)

/-- Whether another answer follows. -/
def Head.isInterim (h : Head) : Bool := h.status < 200

/-! ## Bodies -/

/-- The bytes of chunks, at most so many of them. -/
def chunks? : Nat → List UInt8 → Option (List UInt8)
  | 0, _ => none
  | n + 1, bytes => do
    let size := (bytes.takeWhile (· ≠ 10)).map fun b => Char.ofNat b.toNat
    let (length, _) ← Text.numeral? 16 8 size
    let rest := (bytes.dropWhile (· ≠ 10)).drop 1
    if length = 0 then some []
    else if rest.length < length then none
    else return rest.take length ++ (← chunks? n (rest.drop (length + 2)))

namespace Extent

/-- The body that bytes start with, if all of it is there. -/
def body? : Extent → List UInt8 → Option (List UInt8)
  | bytes count, got => if got.length < count then none else some (got.take count)
  | chunks, got => chunks? got.length got
  | rest, got => some got

/-- What the last chunk ends with. -/
def lastChunk : List UInt8 := [48, 13, 10, 13, 10]

/-- Whether what has come holds a whole body, so that nothing more is waited
for. -/
def isWhole (e : Extent) (got : ByteArray) : Bool :=
  match e with
  | bytes count => count ≤ got.size
  | chunks =>
    (got.extract (got.size - lastChunk.length) got.size).toList = lastChunk
      && (e.body? got.toList).isSome
  | rest => false

end Extent

/-- An answer: its status, the media type of its body, and the body. -/
structure Answer where
  status : Nat
  mediaType : String
  body : List UInt8
deriving DecidableEq, Repr

/-- The answer with a head and with what came behind it, if that is a whole
body. -/
def Head.answer? (h : Head) (got : List UInt8) : Option Answer :=
  (h.extent.body? got).map fun body => ⟨h.status, h.mediaType, body⟩

/-- **The text of an answer**, an empty one where answers of its status have no
body. -/
def Answer.text (a : Answer) : String :=
  if hasBody a.status then (MediaType.charset a.mediaType).text a.body else ""

end KeaGauge.Net.Http
