import MemberDiscovery.Client.Settings
import MemberDiscovery.Error
import MemberDiscovery.Instance.Wire
import MemberDiscovery.Net.Http
import MemberDiscovery.Registry.Request

/-! # A registry over HTTP

How each request is made of a registry server and how its replies are read. The path names the
application and, where there is one, the instance. Not found is an answer to all requests but
registrations.
-/

namespace MemberDiscovery

/-- A registry server and the way to it. -/
structure RemoteRegistry where
  /-- The address below which requests are made, without slashes at its end. -/
  serviceUrl : String
  proxy : Option HttpProxy
  deriving DecidableEq, Repr, Inhabited

namespace RemoteRegistry

/-- The proxy of the settings, whose address has to be one. -/
def readProxy (settings : ProxySettings) : Except ClientError HttpProxy :=
  match Url.parse? settings.url with
  | some url =>
    .ok
      { endpoint := ⟨url.host, url.port⟩
        authorization := settings.userName.map fun userName =>
          HttpCall.basicCredentials userName (settings.password.getD "") }
  | none => .error .noAnswer

/-- Prepares for requests to a server. Its address is looked at with the first request only. -/
def ofUrl (settings : ClientSettings) (url : String) : Except ClientError RemoteRegistry := do
  let proxy ← settings.proxy.mapM readProxy
  return { serviceUrl := String.ofList (Text.dropTrailing (· = '/') url.toList), proxy }

def path {α : Type} : Request α → String
  | .register record => "apps/" ++ record.app
  | .cancel app id => "apps/" ++ app ++ "/" ++ id
  | .heartbeat record => "apps/" ++ record.app ++ "/" ++ record.id
  | .lookup app => "apps/" ++ Text.upper app

def query {α : Type} : Request α → List (String × String)
  | .heartbeat record =>
    [("status", record.status.name), ("lastDirtyTimestamp", Integer.render record.lastDirty.toInt)]
  | _ => []

def url? {α : Type} (server : RemoteRegistry) (request : Request α) : Option Url :=
  (Url.parse? (server.serviceUrl ++ "/" ++ path request)).map fun url =>
    if (query request).isEmpty then url else url.addQuery (query request)

def call {α : Type} : Request α → HttpCall
  | .register record => (HttpCall.plain "POST").withJson record.toEnvelope
  | .cancel _ _ => HttpCall.plain "DELETE"
  | .heartbeat _ => HttpCall.plain "PUT"
  | .lookup _ => { HttpCall.plain "GET" with accept := "application/json" }

def readApplication (text : String) : Except ClientError Application :=
  match (Json.Document.parse? text).bind (Application.ofEnvelope? Json.Document.maxDepth) with
  | some app => .ok app
  | none => .error .noAnswer

def readReply {α : Type} (url : Url) : Request α → HttpReply → Except ClientError α
  | .register _, reply => if reply.isSuccess then .ok () else unexpected reply
  | .cancel _ _, reply =>
    -- What is not there need not be removed.
    if reply.status = 404 ∨ reply.isSuccess then .ok () else unexpected reply
  | .heartbeat _, reply =>
    if reply.status = 404 then .ok .notFound
    else if reply.isSuccess then .ok .renewed
    else unexpected reply
  | .lookup _, reply =>
    if reply.status = 404 then .ok none
    else if reply.isSuccess then (readApplication reply.text).map some
    else unexpected reply
where
  /-- The error of a status that is no answer to the request. -/
  unexpected {β : Type} (reply : HttpReply) : Except ClientError β :=
    .error (.unexpectedStatus reply.status url.render)

end RemoteRegistry

end MemberDiscovery
