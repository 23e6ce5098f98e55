import BuildTool.Http.Url

/-!
# Requests and responses

One server is near. For each of its paths it has a row of responses, which it gives in turn, the
last one again and again. What comes from any other address, plain or encrypted, is not said here
but a part of the setting: the response at the end of all redirections, or none if that does not
arrive. The requests that were answered are kept in a list.
-/

namespace BuildTool.Http

structure Request where
  path : String
  ifModifiedSince : Option String := none
  userAgent : Option String := none
  deriving DecidableEq, Repr

structure Response where
  status : Nat := 200
  lastModified : Option String := none
  body : ByteArray := ByteArray.empty

def headerText (text : String) : String :=
  String.ofList (Text.trimBoth (fun c => c == ' ' || c == '\t') text.toList)

namespace Response

def notFound : Response := { status := 404 }

/-- The status says that the request was granted. -/
def isSuccess (r : Response) : Bool := 200 ≤ r.status && r.status < 300

/-- The status only announces another response, which never comes. -/
def isInterim (r : Response) : Bool := 100 ≤ r.status && r.status < 200 && r.status ≠ 101

/-- A header cannot hold the text: it has a control character other than a tab. -/
def isBroken (text : String) : Bool := text.toList.any fun c => c ≠ '\t' && (c.toNat < 32 || c.toNat = 127)

/-- The response as it arrives: without a body where its status allows none, and without the
blanks around the text of a header. Some responses do not arrive. -/
def received? (r : Response) : Option Response :=
  if r.isInterim ∨ r.lastModified.any isBroken then none
  else
    some { r with
      body := if r.status = 204 then ByteArray.empty else r.body
      lastModified := r.lastModified.map headerText }

/-- The status says that nothing has changed. -/
def isUnmodified (r : Response) : Bool := r.status = 304

end Response

/-- The reason that goes with each status. -/
def reasons : List (Nat × String) := [
  (100, "Continue"), (101, "Switching Protocols"), (102, "Processing"), (200, "OK"),
  (201, "Created"), (202, "Accepted"), (203, "Non Authoritative Information"),
  (204, "No Content"), (205, "Reset Content"), (206, "Partial Content"),
  (207, "Multi-Status"), (208, "Already Reported"), (226, "IM Used"),
  (300, "Multiple Choices"), (301, "Moved Permanently"), (302, "Found"), (303, "See Other"),
  (304, "Not Modified"), (305, "Use Proxy"), (307, "Temporary Redirect"),
  (308, "Permanent Redirect"), (400, "Bad Request"), (401, "Unauthorized"),
  (402, "Payment Required"), (403, "Forbidden"), (404, "Not Found"),
  (405, "Method Not Allowed"), (406, "Not Acceptable"),
  (407, "Proxy Authentication Required"), (408, "Request Timeout"), (409, "Conflict"),
  (410, "Gone"), (411, "Length Required"), (412, "Precondition Failed"),
  (413, "Payload Too Large"), (414, "URI Too Long"), (415, "Unsupported Media Type"),
  (416, "Range Not Satisfiable"), (417, "Expectation Failed"), (418, "I'm a teapot"),
  (421, "Misdirected Request"), (422, "Unprocessable Entity"), (423, "Locked"),
  (424, "Failed Dependency"), (425, "Too Early"), (426, "Upgrade Required"),
  (428, "Precondition Required"), (429, "Too Many Requests"),
  (431, "Request Header Fields Too Large"), (451, "Unavailable For Legal Reasons"),
  (500, "Internal Server Error"), (501, "Not Implemented"), (502, "Bad Gateway"),
  (503, "Service Unavailable"), (504, "Gateway Timeout"),
  (505, "HTTP Version Not Supported"), (506, "Variant Also Negotiates"),
  (507, "Insufficient Storage"), (508, "Loop Detected"), (510, "Not Extended"),
  (511, "Network Authentication Required")]

def reason? (status : Nat) : Option String := reasons.lookup status

/-- The server that is near: where it is, what it has, and what was asked so far. All other servers
are in `elsewhere`. -/
structure Server where
  host : String := "127.0.0.1"
  port : Option Nat := some 8080
  responses : List (String × List Response) := []
  requests : List Request := []
  elsewhere : Url → Request → Option Response := fun _ _ => none

namespace Server

/-- An address leads to the server that is near. -/
def isAt (s : Server) (url : Url) : Bool :=
  url.scheme = "http" && url.host = some s.host && url.port = s.port

/-- What is left of a row of responses after the first was given. -/
def advance : List Response → List Response
  | [] => []
  | [last] => [last]
  | _ :: rest => rest

/-- The response to a request to an address, and the server after it. What nobody answers counts
as not asked. -/
def answer (s : Server) (url : Url) (request : Request) : Option Response × Server :=
  let asked := { s with requests := s.requests ++ [request] }
  if s.isAt url then
    let row := (s.responses.lookup request.path).getD []
    (some (row.headD .notFound),
      { asked with
        responses := s.responses.map fun p =>
          if p.1 = request.path then (p.1, advance p.2) else p })
  else
    match s.elsewhere url request with
    | some response => (some response, asked)
    | none => (none, s)

/-- The response to a request as it arrives, if one does. -/
def response? (s : Server) (url : Url) (request : Request) : Option Response :=
  (s.answer url request).1.bind Response.received?

end Server

def isHeaderValue (text : String) : Bool :=
  text.toUTF8.toList.all fun b => (32 ≤ b && b ≠ 127) || b = 9

end BuildTool.Http
