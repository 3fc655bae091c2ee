import PagedFind.Http.Backend
import PagedFind.Http.Url

namespace PagedFind.Http

def Url.endpoint? (url : Url) : Option (String × Nat) := do
  let (host, port) ← Text.cutLast ':' url.authority
  let port ← Text.readCount? 65535 port
  if host.isEmpty then none else some (String.ofList host, port)

def requestText (url : Url) (body : String) : String :=
  Text.join "\r\n" [
    "POST " ++ String.ofList url.target ++ " HTTP/1.0",
    "Host: " ++ String.ofList url.authority,
    "Content-Type: application/json",
    "Accept: */*",
    "Content-Length: " ++ Nat.repr body.utf8ByteSize,
    "",
    body]

namespace Answer

/-- The lines of a head up to the empty one that ends it, and what follows. The line under way is held
backwards. -/
def headLines (line : List Char) : List UInt8 → Option (List (List Char) × List UInt8)
  | [] => none
  | byte :: rest =>
    if byte = 10 then
      let text := match line with
        | '\r' :: start => start.reverse
        | _ => line.reverse
      if text.isEmpty then some ([], rest)
      else (headLines [] rest).map fun (lines, rest) => (text :: lines, rest)
    else headLines (Char.ofNat byte.toNat :: line) rest

def statusOf? (line : List Char) : Option Nat := do
  let (version, rest) ← Text.cutFirst ' ' line
  let _ ← Text.dropStart? "HTTP/".toList version
  let digits := rest.takeWhile (· != ' ')
  let status ← Text.readCount? 999 digits
  if digits.length = 3 ∧ isStatus status then some status else none

def headField? (name : String) (lines : List (List Char)) : Option (List Char) :=
  lines.findSome? fun line => do
    let (key, value) ← Text.cutFirst ':' line
    if key.map Char.toLower = name.toList then some (Text.trimClass Text.isBlank value) else none

/-- The answer in all that a connection brought. The body has the length that the head tells, or else runs to
the end. -/
def ofBytes? (bytes : List UInt8) : Option Answer := do
  let (lines, rest) ← headLines [] bytes
  let first ← lines.head?
  let status ← statusOf? first
  let length ← match headField? "content-length" (lines.drop 1) with
    | some digits => Text.readCount? Text.maxWord digits
    | none => some rest.length
  if rest.length < length then none
  else
    let body ← String.fromUTF8? ⟨(rest.take length).toArray⟩
    some ⟨status, body⟩

end Answer

end PagedFind.Http
