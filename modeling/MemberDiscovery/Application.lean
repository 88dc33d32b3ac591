import MemberDiscovery.Instance.Basic

/-! # Applications

An application is the list of the records that a registry holds under one name, in registry order.
Adding a record with a known id replaces the old record in its place.
-/

namespace MemberDiscovery

/-- The instances of one application. -/
structure Application where
  name : String
  instances : List Instance
  deriving DecidableEq, Repr, Inhabited

namespace Application

/-- An application without instances. Its name is in upper case. -/
def new (name : String) : Application := ⟨Text.upper name, []⟩

/-- Replaces the first record with the same id, or appends. -/
def addTo (record : Instance) : List Instance → List Instance
  | [] => [record]
  | first :: rest => if first.id = record.id then record :: rest else first :: addTo record rest

def add (app : Application) (record : Instance) : Application :=
  { app with instances := addTo record app.instances }

def find? (app : Application) (id : String) : Option Instance :=
  app.instances.find? (·.id = id)

def remove (app : Application) (id : String) : Option Instance × Application :=
  (app.find? id, { app with instances := app.instances.eraseP (·.id = id) })

def ids (app : Application) : List String :=
  app.instances.map Instance.id

end Application

end MemberDiscovery
