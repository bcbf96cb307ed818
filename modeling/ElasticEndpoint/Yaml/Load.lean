import ElasticEndpoint.Yaml.Collection
import ElasticEndpoint.Yaml.Node

/-!
Values of YAML texts. The value of a collection is what it holds, with a mark where a collection that
holds itself is met again on the way in. What stands at the root is looked into part by part, so a
part of the root that holds the root has it once more inside.
-/

namespace ElasticEndpoint.Yaml

/-- The values of the collections that hold no cycle, as far as they have been needed. -/
abbrev Known := Array (Option Value)

namespace Made

def collection (made : Made) (id : NodeId) : Collection := made.collections[id]?.getD default

def isMap (made : Made) (id : NodeId) : Bool :=
  match made.collection id with
  | .map _ => true
  | _ => false

/-- The value of an item inside some collections, and whether it has a cycle. -/
def unfold (made : Made) : Nat → List NodeId → Item → StateM Known (Value × Bool)
  | _, _, .plain value => return (value, false)
  | 0, _, .collection id => return (.cycle (made.isMap id), true)
  | fuel + 1, outer, .collection id => do
    if outer.contains id then return (.cycle (made.isMap id), true)
    else match ((← get)[id]?).join with
      | some value => return (value, false)
      | none =>
        let inside := made.unfold fuel (id :: outer)
        let (value, hasCycle) ← match made.collection id with
          | .list items => do
            let parts ← items.mapM inside
            pure (Value.list (parts.map (·.1)), parts.any (·.2))
          | .pairs items => do
            let parts ← items.mapM fun pair => do
              let (key, keyCycle) ← inside pair.1
              let (value, valueCycle) ← inside pair.2
              return (Value.tuple [key, value], keyCycle || valueCycle)
            pure (Value.list (parts.map (·.1)), parts.any (·.2))
          | .set members => pure (Value.set (members.map (·.value)), false)
          | .map entries => do
            let parts ← entries.mapM fun entry => do
              let (value, hasCycle) ← inside entry.2
              return ((entry.1.value, value), hasCycle)
            pure (Value.map (parts.map (·.1)), parts.any (·.2))
        if !hasCycle then modify fun known => known.setIfInBounds id (some value)
        return (value, hasCycle)

def values (made : Made) (items : List Item) : List Value :=
  let size := made.collections.size
  ((items.mapM fun item => (·.1) <$> made.unfold (size + 1) [] item).run (Array.replicate size none)).1

def value (made : Made) : Value :=
  match made.root with
  | .collection id =>
    match made.collection id with
    | .map entries =>
      .map ((entries.map (·.1.value)).zip (made.values (entries.map (·.2))))
    | .list items => .list (made.values items)
    | _ => (made.values [made.root]).headD .null
  | .plain value => value

end Made

/-- The value that a text holds; a text without a document holds nothing. -/
def load (source : String) : Except Fault Value := do
  match ← Graph.ofText source.toList with
  | none => return .null
  | some graph => return (← graph.make).value

end ElasticEndpoint.Yaml
