import IssueFeed.Config.Basic
import IssueFeed.Failure
import IssueFeed.Log
import IssueFeed.Text.Blank
import IssueFeed.Text.Utf8
import IssueFeed.Url.Basic

/-!
Fetching a page. A request is made ready, a server answers it or not, and the answer counts as a
page only when it is complete, no error, and not blank.
-/
namespace IssueFeed

structure Response where
  status : Nat := 200
  reason : String := "OK"
  body : ByteArray := .empty
  /-- The body ends before its announced length. -/
  truncated : Bool := false

structure Request where
  url : Url
  userAgent : String
  deriving DecidableEq, Repr

/-- What becomes of a request: no connection, a connection that closes without an answer, or an
answer. -/
inductive Exchange where
  | unreachable
  | closed
  | answered (response : Response)

abbrev Network := Request → Exchange

structure Fetched where
  result : Except Failure String
  request : Option Request
  log : Log

def isHeaderValue (s : String) : Bool :=
  s.toList.all fun c => (32 ≤ c.toNat && c.toNat ≠ 127) || c == '\t'

/-- What makes requests: the user agent of a configuration, if it can be sent. -/
def clientOf (crawler : CrawlerConfig) : Except Failure String :=
  if isHeaderValue crawler.userAgent then .ok crawler.userAgent else .error .userAgent

/-- Whether the percent signs of a text write UTF-8. -/
def decodesToText (text : List Char) : Bool :=
  (Text.decode ⟨(Url.percentDecode text).toArray⟩).isOk

/-- The address as it is asked for: user and password are sent in a header instead. -/
def Url.withoutUser (url : Url) : Url :=
  if decodesToText url.user then { url with user := [], password := none } else url

/-- Characters that may stand in the host of an address but not in a request. -/
def isUnsendable (c : Char) : Bool :=
  c == '"' || c.toNat == 0x60 || c == '\x7b' || c == '\x7d'

def longestAddress : Nat := 65534

def Url.isSendable (url : Url) : Bool :=
  url.isWeb && !(url.host.any fun host => host.text.any isUnsendable) &&
    url.text.utf8ByteSize ≤ longestAddress

def requestFor (client pageUrl : String) : Except Failure Request :=
  match Url.read pageUrl with
  | .error _ => .error (.fetch pageUrl "builder error")
  | .ok url =>
    let url := if url.host.isSome then url.withoutUser else url
    if url.isSendable then .ok ⟨url, client⟩
    else .error (.fetch pageUrl s!"builder error for url ({url.text})")

def pageOf (pageUrl : String) (url : Url) (response : Response) : Except Failure String :=
  let status := s!"({response.status} {response.reason}) for url ({url.text})"
  if 400 ≤ response.status ∧ response.status < 500 then
    .error (.fetch pageUrl s!"HTTP status client error {status}")
  else if 500 ≤ response.status ∧ response.status < 600 then
    .error (.fetch pageUrl s!"HTTP status server error {status}")
  else if response.truncated then .error (.fetch pageUrl "error decoding response body")
  else
    let body := Text.decodeLenient response.body
    if body.toList.all Text.isBlank then .error (.fetch pageUrl "empty response body")
    else .ok body

/-- Asks for a page. Only http requests reach a server; a secure connection to it always fails. -/
def fetchPage (network : Network) (client pageUrl : String) : Fetched :=
  match requestFor client pageUrl with
  | .error failure => ⟨.error failure, none, []⟩
  | .ok request =>
    let unsent := Failure.fetch pageUrl s!"error sending request for url ({request.url.text})"
    match network request with
    | .unreachable => ⟨.error unsent, none, []⟩
    | .closed => ⟨.error unsent, some request, []⟩
    | .answered response =>
      match pageOf pageUrl request.url response with
      | .error failure => ⟨.error failure, some request, []⟩
      | .ok body =>
        ⟨.ok body, some request, [⟨.debug, s!"Fetched {body.utf8ByteSize} bytes from {pageUrl}"⟩]⟩

end IssueFeed
