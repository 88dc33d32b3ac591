import MemberDiscovery.Client.Settings
import MemberDiscovery.Environment
import MemberDiscovery.Instance.Manager
import MemberDiscovery.Registry.Memory
import MemberDiscovery.Registry.Remote
import MemberDiscovery.Slots

/-! # Deployments

A `Deployment` is everything that a process can see and change: clock, variables, files and network,
registries in memory, the records it manages and the clients it has made. Operations are functions
on deployments; what they do besides changing it is kept in a trace.
-/

namespace MemberDiscovery

/-- How a client reaches one server. -/
inductive Transport where
  /-- The registry in memory with a number, under an address that only names it. -/
  | memory (registry : Nat) (url : String)
  | remote (server : RemoteRegistry)
  deriving DecidableEq, Repr, Inhabited

def Transport.serviceUrl : Transport → String
  | .memory _ url => url
  | .remote server => server.serviceUrl

/-- Where a client finds its servers. -/
inductive TransportKind where
  | memory (registry : Nat)
  | http
  deriving DecidableEq, Repr, Inhabited

/-- Makes the transport to the server with an address, or says why there is none. -/
abbrev TransportFactory := ClientSettings → String → Except ClientError Transport

/-- The transport to the server with an address. -/
def TransportKind.connect (kind : TransportKind) (settings : ClientSettings) (url : String) :
    Except ClientError Transport :=
  match kind with
  | .memory registry => .ok (.memory registry url)
  | .http => (RemoteRegistry.ofUrl settings url).map .remote

/-- A client that registers an instance and looks up applications. -/
structure RegistryClient where
  manager : Nat
  settings : ClientSettings
  /-- The servers in the order in which they are asked. -/
  transports : List Transport
  isShutDown : Bool
  /-- The seconds from one heartbeat to the next, as long as the client has a thread for them. -/
  heartbeat : Option Nat
  deriving DecidableEq, Repr, Inhabited

abbrev LookupAnswer := Except ClientError (Option Application)

/-- A client whose answers are fixed in advance. -/
structure ScriptedClient where
  manager : Nat
  script : List LookupAnswer
  /-- The answer once there are no others. -/
  fallback : LookupAnswer

/-- A client as discovery uses it. -/
inductive Client where
  | registry (client : RegistryClient)
  | scripted (client : ScriptedClient)

/-- A number that is not given out stands for a client that finds nothing. -/
instance : Inhabited Client := ⟨.scripted ⟨0, [], .ok none⟩⟩

/-- The number of the manager of a client's instance. -/
def Client.manager : Client → Nat
  | .registry client => client.manager
  | .scripted client => client.manager

/-- What others do to a registry while a process sleeps. -/
inductive Intervention where
  | store (registry : Nat) (record : Instance)
  | evict (registry : Nat) (app id : String)
  | scheduleFailure (registry : Nat) (error : ClientError)
  deriving DecidableEq, Repr, Inhabited

/-- How much a message matters. -/
inductive LogLevel where
  | info
  | warning
  deriving DecidableEq, Repr, Inhabited

/-- What happened. -/
inductive Event where
  | slept (milliseconds : Nat)
  | statusChanged (tag : String) (change : StatusChange)
  | lookedUp (app : String)
  | stopped
  | statusNoted (status : InstanceStatus)
  | called (call : HttpCall)
  | logged (level : LogLevel) (message : String) (fields : List (String × String))
  deriving Inhabited

/-- What all members of a process share unless told otherwise. -/
structure SharedSettings where
  client : Option Nat
  transport : Option TransportKind
  groupName : Option String
  deriving DecidableEq, Repr, Inhabited

/-- Everything that a process can see and change. -/
structure Deployment where
  clock : Timestamp
  machine : Machine
  processVariables : Table String
  files : FileTree
  network : Network
  registries : Slots Registry
  managers : Slots InstanceManager
  clients : Slots Client
  shared : SharedSettings
  /-- What others do during the sleeps to come. -/
  interventions : List (List Intervention)
  /-- The ids for new instances, by the order in which they are drawn. -/
  idSource : Nat → String
  idsDrawn : Nat
  /-- What happened, oldest first. -/
  trace : List Event

abbrev Action := StateM Deployment

namespace Deployment

def start (clock : Timestamp) (machine : Machine) (idSource : Nat → String) : Deployment where
  clock
  machine
  processVariables := ∅
  files := ∅
  network := .unreachable
  registries := .empty
  managers := .empty
  clients := .empty
  shared := ⟨none, none, none⟩
  interventions := []
  idSource
  idsDrawn := 0
  trace := []

def environment (deployment : Deployment) : Environment :=
  deployment.processVariables.get?

def setRegistry (number : Nat) (registry : Registry) (deployment : Deployment) : Deployment :=
  { deployment with registries := deployment.registries.set number registry }

def setManager (number : Nat) (manager : InstanceManager) (deployment : Deployment) : Deployment :=
  { deployment with managers := deployment.managers.set number manager }

def setClient (number : Nat) (client : Client) (deployment : Deployment) : Deployment :=
  { deployment with clients := deployment.clients.set number client }

/-- What others do to a registry. -/
def intervene (deployment : Deployment) : Intervention → Deployment
  | .store number record =>
    deployment.setRegistry number ((deployment.registries.get number).store record)
  | .evict number app id =>
    deployment.setRegistry number ((deployment.registries.get number).evict app id).2
  | .scheduleFailure number error =>
    deployment.setRegistry number ((deployment.registries.get number).scheduleFailure error)

def advance (milliseconds : Int) (deployment : Deployment) : Deployment :=
  { deployment with clock := deployment.clock + Int64.ofInt milliseconds }

def note (event : Event) (deployment : Deployment) : Deployment :=
  { deployment with trace := deployment.trace ++ [event] }

/-- Sleeps. The clock moves, and then the others do what they do during this sleep. -/
def sleep (milliseconds : Nat) (deployment : Deployment) : Deployment :=
  let deployment := (deployment.advance milliseconds).note (.slept milliseconds)
  match deployment.interventions with
  | [] => deployment
  | actions :: interventions => actions.foldl intervene { deployment with interventions }

def addRegistry (deployment : Deployment) : Nat × Deployment :=
  let (number, registries) := deployment.registries.add .empty
  (number, { deployment with registries })

def addManager (manager : InstanceManager) (deployment : Deployment) : Nat × Deployment :=
  let (number, managers) := deployment.managers.add manager
  (number, { deployment with managers })

def addClient (client : Client) (deployment : Deployment) : Nat × Deployment :=
  let (number, clients) := deployment.clients.add client
  (number, { deployment with clients })

def drawId (deployment : Deployment) : String × Deployment :=
  (deployment.idSource deployment.idsDrawn,
    { deployment with idsDrawn := deployment.idsDrawn + 1 })

end Deployment

namespace Action

def log (level : LogLevel) (message : String) (fields : List (String × String)) : Action Unit :=
  modify (·.note (.logged level message fields))

def inform (message : String) : Action Unit :=
  log .info message []

def warn (message : String) : Action Unit :=
  log .warning message []

end Action

end MemberDiscovery
