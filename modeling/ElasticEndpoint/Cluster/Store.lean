import ElasticEndpoint.Cluster.Call

/-!
A cluster in memory. Objects are kept in the order of their creation and looked up by namespace and
name. Replacing an object keeps what belongs to the other side: its place, and for a service the
status where the object is replaced and all but the status where the status is. A place may be blank;
a look-up that comes to it breaks.
-/

namespace ElasticEndpoint.Cluster

structure Store where
  nodes : List (Option Node) := []
  services : List (Option Service) := []
  endpoints : List (Option Endpoints) := []

def isNamed (name : Option String) (space : String) (metadata : Option Meta) : Bool :=
  nameOf metadata == name && spaceOf metadata == some space

def notFound : CallFailure := .fault (.answer (some 404) (some "Not Found"))

def conflict : CallFailure := .fault (.answer (some 409) (some "Conflict"))

def findFirst {α : Type} (test : α → Bool) : List (Option α) → Except CallFailure (Option α)
  | [] => .ok none
  | none :: _ => .error (.crash .missingPart)
  | some object :: rest => if test object then .ok (some object) else findFirst test rest

/-- The first object that satisfies a test, which must be there. -/
def require {α : Type} (test : α → Bool) (objects : List (Option α)) : Except CallFailure α :=
  match findFirst test objects with
  | .ok (some object) => .ok object
  | .ok none => .error notFound
  | .error failure => .error failure

/-- Objects with one more, which must not be there yet. -/
def add {α : Type} (test : α → Bool) (new : α) (objects : List (Option α)) :
    Except CallFailure (List (Option α)) :=
  match findFirst test objects with
  | .ok (some _) => .error conflict
  | .ok none => .ok (objects ++ [some new])
  | .error failure => .error failure

def change {α : Type} (test : α → Bool) (new : α → α) : List (Option α) → Except CallFailure (List (Option α))
  | [] => .error notFound
  | none :: _ => .error (.crash .missingPart)
  | some object :: rest =>
    if test object then .ok (some (new object) :: rest)
    else (change test new rest).map (some object :: ·)

namespace Store

def withEndpoints (store : Store) :
    Except CallFailure (List (Option Endpoints)) → Except CallFailure Unit × Store
  | .ok endpoints => (.ok (), { store with endpoints := endpoints })
  | .error failure => (.error failure, store)

def withServices (store : Store) :
    Except CallFailure (List (Option Service)) → Except CallFailure Unit × Store
  | .ok services => (.ok (), { store with services := services })
  | .error failure => (.error failure, store)

def perform : (call : Call) → Store → Except CallFailure call.Reply × Store
  | .readEndpoints name space, store =>
    (require (fun e => isNamed (some name) space e.metadata) store.endpoints, store)
  | .createEndpoints space body, store =>
    store.withEndpoints (add (fun e => isNamed (nameOf body.metadata) space e.metadata) body store.endpoints)
  | .replaceEndpoints name space body, store =>
    store.withEndpoints
      (change (fun e => isNamed (some name) space e.metadata) (fun _ => body) store.endpoints)
  | .readService name space, store =>
    (require (fun s => isNamed (some name) space s.metadata) store.services, store)
  | .createService space body, store =>
    store.withServices (add (fun s => isNamed (nameOf body.metadata) space s.metadata) body store.services)
  | .replaceService name space body, store =>
    store.withServices
      (change (fun s => isNamed (some name) space s.metadata) (fun old => { body with status := old.status })
        store.services)
  | .replaceServiceStatus name space body, store =>
    store.withServices
      (change (fun s => isNamed (some name) space s.metadata) (fun old => { old with status := body.status })
        store.services)
  | .listServices, store => (.ok store.services, store)
  | .listNodes, store => (.ok store.nodes, store)
  | .readNode name, store => (require (fun n => nameOf n.metadata == name) store.nodes, store)

end Store

end ElasticEndpoint.Cluster
