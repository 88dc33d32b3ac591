import MemberDiscovery.Json.Document
import MemberDiscovery.Net.Url
import MemberDiscovery.Text.Base64

/-! # Exchanges over HTTP

A call is what a client sends, a reply what comes back. A `Network` is what a process can reach: at
most one server, whose replies are fixed in advance and which knows nothing once they are used up.
-/

namespace MemberDiscovery

/-- A request over HTTP. -/
structure HttpCall where
  method : String
  /-- Path and query, or the whole address if the call goes through a proxy. -/
  target : String
  accept : String
  contentType : Option String
  proxyAuthorization : Option String
  body : Option Json
  deriving Repr, Inhabited

/-- An answer to a call. -/
structure HttpReply where
  status : Nat
  body : String
  deriving DecidableEq, Repr, Inhabited

namespace HttpReply

def isSuccess (reply : HttpReply) : Bool :=
  200 ≤ reply.status && reply.status < 300

/-- The body as it is received: two kinds of replies never have one. -/
def text (reply : HttpReply) : String :=
  if reply.status = 204 ∨ reply.status = 304 then "" else reply.body

end HttpReply

/-- A host and a port that connections go to. -/
structure Endpoint where
  host : String
  port : Nat
  deriving DecidableEq, Repr, Inhabited

/-- What a process can reach. -/
structure Network where
  /-- Where the server is, if there is one. -/
  server : Option Endpoint
  /-- The replies to come; `none` closes the connection without one. -/
  script : List (Option HttpReply)
  deriving DecidableEq, Repr, Inhabited

namespace Network

/-- A network without a server. -/
def unreachable : Network := ⟨none, []⟩

def notFound : HttpReply := ⟨404, ""⟩

def accepts (network : Network) (endpoint : Endpoint) : Bool :=
  network.server == some endpoint

/-- The next reply of the server. -/
def reply (network : Network) : Option HttpReply × Network :=
  match network.script with
  | [] => (some notFound, network)
  | answer :: script => (answer, { network with script })

end Network

/-- A proxy as calls use it. -/
structure HttpProxy where
  endpoint : Endpoint
  /-- What the client says to be let through. -/
  authorization : Option String
  deriving DecidableEq, Repr, Inhabited

namespace HttpCall

/-- A call without a body that takes any kind of answer. -/
def plain (method : String) : HttpCall where
  method
  target := ""
  accept := "*/*"
  contentType := none
  proxyAuthorization := none
  body := none

def withJson (body : Json) (call : HttpCall) : HttpCall :=
  { call with contentType := some "application/json", body := some body }

def basicCredentials (userName password : String) : String :=
  "Basic " ++ Text.base64 (userName ++ ":" ++ password)

/-- The endpoint that a call to an address goes to, and the call as it is sent. -/
def route (proxy : Option HttpProxy) (url : Url) (call : HttpCall) : Endpoint × HttpCall :=
  match proxy with
  | some proxy =>
    (proxy.endpoint,
      { call with target := url.absolute, proxyAuthorization := proxy.authorization })
  | none => (⟨url.host, url.port⟩, { call with target := url.pathAndQuery })

end HttpCall

end MemberDiscovery
