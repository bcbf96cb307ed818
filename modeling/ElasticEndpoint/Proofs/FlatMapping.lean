import ElasticEndpoint.Yaml.Load
import ElasticEndpoint.Proofs.FlatNodes

/-!
Values of flat mappings. A mapping of scalars under different names merges nothing, and is made into a value with the
scalars under their names in the order of the lines.
-/

namespace ElasticEndpoint.Yaml

private theorem ofPoints_text (chars : List Char) : Value.ofPoints (ScalarText.points ⟨chars, []⟩) = .text (String.ofList chars) := by
  have points : ScalarText.points ⟨chars, []⟩ = chars.map Char.toNat := by
    have entries : chars.zipIdx.map (fun entry => entry.1.toNat) = (chars.zipIdx.map Prod.fst).map Char.toNat := by
      rw [List.map_map]
      rfl
    rw [List.zipIdx_map_fst] at entries
    exact entries
  have whole (c : Char) : Text.isHalf c.toNat = false := by
    simp only [Text.isHalf, Bool.and_eq_false_iff, decide_eq_false_iff_not]
    obtain low | ⟨high, -⟩ := c.valid
    · left
      have : c.toNat < 0xD800 := low
      omega
    · right
      have : 0xDFFF < c.toNat := high
      omega
  have unbroken : (chars.map Char.toNat).any Text.isHalf = false := by simp [whole]
  have back : (chars.map Char.toNat).map Text.pointChar = chars := by
    rw [List.map_map]
    exact (List.map_congr_left fun c _ => by simp [Text.pointChar, whole]).trans (List.map_id chars)
  unfold Value.ofPoints
  rw [points, unbroken, if_neg Bool.false_ne_true, Text.ofPoints, back]

/-- The value of a scalar that is read without an anchor or a tag. -/
def Means (plain : Bool) (content : List Char) (value : Value) : Prop :=
  scalarValue? (if plain then Tag.ofPlain content else .str) ⟨content, []⟩ = some (.ok value)

theorem means_text {plain : Bool} {content : List Char} (text : plain = true → Tag.ofPlain content = .str) :
    Means plain content (.text (String.ofList content)) := by
  have tag : (if plain then Tag.ofPlain content else .str) = Tag.str := by
    cases plain with
    | false => rfl
    | true => simpa using text rfl
  unfold Means
  rw [tag]
  exact congrArg (some ∘ Except.ok) (ofPoints_text content)

section

variable {nodes : Nodes} {id : NodeId} {plain : Bool} {content : List Char} {start : Place} {value : Value}

private theorem scalarValue_node (found : nodes.get id = scalarNode plain content start) (means : Means plain content value) :
    nodes.scalarValue id = .ok value ∧ Maker.isCollection (nodes.get id).tag = false := by
  have text : nodes.scalarText (nodes.size + 1) id = .ok ⟨content, []⟩ := by
    rw [Nodes.scalarText, found]
    rfl
  have tag : (nodes.get id).tag = if plain then Tag.ofPlain content else .str := by rw [found]; rfl
  unfold Means at means
  rw [← tag] at means
  unfold Nodes.scalarValue
  simp only [text, bind, Except.bind]
  have content : (nodes.get id).content = .scalar ⟨content, []⟩ := by rw [found]; rfl
  cases kind : (nodes.get id).tag <;> rw [kind] at means
  case null | bool | int | float | str | timestamp =>
    simp only [content, means]
    exact ⟨rfl, rfl⟩
  all_goals exact absurd means (by simp [scalarValue?])

namespace Maker

variable {making : Making}

private theorem item_scalar (unmade : (making.items[id]?).join = none) (found : making.nodes.get id = scalarNode plain content start)
    (means : Means plain content value) :
    (item id).run making = .ok (.plain value, { making with items := making.items.setIfInBounds id (some (.plain value)) }) := by
  obtain ⟨read, alone⟩ := scalarValue_node found means
  unfold item
  refine (run_bind_ok rfl).trans ?_
  rw [unmade]
  dsimp only
  rw [alone, read]
  rfl

private theorem key_text {text : String} (unmade : (making.items[id]?).join = none)
    (found : making.nodes.get id = scalarNode plain content start) (means : Means plain content (.text text)) (opening : Place) :
    (key opening id).run making =
      .ok (⟨.text text, some id⟩, { making with items := making.items.setIfInBounds id (some (.plain (.text text))) }) := by
  unfold key
  refine (run_bind_ok rfl).trans ?_
  refine (run_bind_ok (item_scalar unmade found means)).trans ?_
  rfl

end Maker

end

/-- A line whose key is text, and the value of its scalar. -/
structure Field extends Line where
  value : Value
  named : Tag.ofPlain key = .str
  means : Means plain content value

namespace Field

def name (field : Field) : String := String.ofList field.key

end Field

private theorem insertEntry_new {entries : List (Key × Item)} {names : List String} {name : String} (origin : Option NodeId) (item : Item)
    (keys : entries.map (·.1.value) = names.map Value.text) (new : name ∉ names) :
    insertEntry entries ⟨.text name, origin⟩ item = entries ++ [(⟨.text name, origin⟩, item)] := by
  have apart : entries.any (fun entry => entry.1.same ⟨.text name, origin⟩) = false := by
    rw [List.any_eq_false]
    intro entry mem
    have value : entry.1.value ∈ names.map Value.text := keys ▸ List.mem_map_of_mem mem
    obtain ⟨other, old, text⟩ := List.mem_map.mp value
    have differ : other ≠ name := fun same => new (same ▸ old)
    simp [Key.same, ← text, Value.sameKey, isNoNumber, differ]
  rw [insertEntry, apart, if_neg Bool.false_ne_true]

/-- The node with the number of the nodes before it. -/
theorem get_append (before : List Node) (node : Node) (behind : List Node) :
    Nodes.get (before ++ node :: behind).toArray before.length = node := by
  simp [Nodes.get]

private theorem get_append_next (before : List Node) (node next : Node) (behind : List Node) :
    Nodes.get (before ++ node :: next :: behind).toArray (before.length + 1) = next := by
  have place := get_append (before ++ [node]) next behind
  rwa [List.length_append, List.append_assoc] at place

/-- No node has been made from a number on. -/
def Making.Unmade (making : Making) (first : NodeId) : Prop := ∀ id, first ≤ id → (making.items[id]?).join = none

/-- One more entry of the mapping that begins at a place. -/
def Maker.addEntry (opening : Place) (entries : List (Key × Item)) (entry : NodeId × NodeId) : Maker (List (Key × Item)) := do
  let key ← Maker.key opening entry.1
  return insertEntry entries key (← Maker.item entry.2)

/-- What has been made when the key and the scalar of a field, at a node and the next, are made too. -/
def Making.withField (making : Making) (id : NodeId) (field : Field) : Making :=
  let items := making.items.setIfInBounds id (some (.plain (.text field.name)))
  { making with items := items.setIfInBounds (id + 1) (some (.plain field.value)) }

section

variable {making : Making} {entries : List (Key × Item)} {names : List String}

private theorem Making.Unmade.withField {id : NodeId} (unmade : making.Unmade id) (field : Field) :
    (making.withField id field).Unmade (id + 2) := by
  intro other behind
  have after : id + 1 < other := behind
  have later : id < other := Nat.lt_of_succ_lt after
  unfold Making.withField
  rw [Array.getElem?_setIfInBounds_ne (Nat.ne_of_lt after), Array.getElem?_setIfInBounds_ne (Nat.ne_of_lt later)]
  exact unmade other (Nat.le_of_lt later)

private theorem addEntry_run (opening : Place) (field : Field) {id : NodeId} {keyStart start : Place} (unmade : making.Unmade id)
    (isKey : making.nodes.get id = scalarNode true field.key keyStart)
    (isScalar : making.nodes.get (id + 1) = scalarNode field.plain field.content start)
    (keys : entries.map (·.1.value) = names.map Value.text) (new : field.name ∉ names) :
    (Maker.addEntry opening entries (id, id + 1)).run making =
      .ok (entries ++ [(⟨.text field.name, some id⟩, .plain field.value)], making.withField id field) := by
  have keyMade := Maker.key_text (unmade id (Nat.le_refl id)) isKey (means_text fun _ => field.named) opening
  have next : ((making.items.setIfInBounds id (some (.plain (.text field.name))))[id + 1]?).join = none := by
    rw [Array.getElem?_setIfInBounds_ne (Nat.ne_of_lt (Nat.lt_succ_self id))]
    exact unmade (id + 1) (Nat.le_succ id)
  have valueMade := @Maker.item_scalar (id + 1) field.plain field.content start field.value
    { making with items := making.items.setIfInBounds id (some (.plain (.text field.name))) } next isScalar field.means
  unfold Maker.addEntry
  refine (run_bind_ok keyMade).trans ?_
  refine (run_bind_ok valueMade).trans ?_
  rw [show String.ofList field.key = field.name from rfl, insertEntry_new (some id) (.plain field.value) keys new]
  rfl

/-- The entries of fields under new names are added in their order. -/
theorem addEntries_run (opening : Place) (fields : List Field) {before behind : List Node}
    (shows : Shows (fields.map Field.toLine) behind) (nodes : making.nodes = (before ++ behind).toArray)
    (unmade : making.Unmade before.length) (keys : entries.map (·.1.value) = names.map Value.text)
    (distinct : (names ++ fields.map Field.name).Nodup) :
    ∃ (added : List (Key × Item)) (items : Array (Option Item)),
      ((entryIds before.length fields.length).foldlM (Maker.addEntry opening) entries).run making =
        .ok (entries ++ added, { making with items := items }) ∧
      added.map (fun entry => (entry.1.value, entry.2)) =
        fields.map fun field => (Value.text field.name, Item.plain field.value) := by
  -- Nodes keep their numbers, so those of the fields already added move to the front.
  induction fields generalizing before behind making entries names with
  | nil =>
    refine ⟨[], making.items, ?_, rfl⟩
    rw [List.append_nil]
    rfl
  | cons field fields ih =>
    obtain - | ⟨_, keyStart, start, others⟩ := shows
    next behind =>
    have isKey : making.nodes.get before.length = scalarNode true field.key keyStart := by
      rw [nodes]
      exact get_append before _ _
    have isScalar : making.nodes.get (before.length + 1) = scalarNode field.plain field.content start := by
      rw [nodes]
      exact get_append_next before _ _ _
    have new : field.name ∉ names := fun old =>
      (List.nodup_append.mp distinct).2.2 _ old _ List.mem_cons_self rfl
    have step := addEntry_run opening field unmade isKey isScalar keys new
    have keys' : (entries ++ [((⟨.text field.name, some before.length⟩, .plain field.value) : Key × Item)]).map (·.1.value) =
        (names ++ [field.name]).map Value.text := by
      simp [keys]
    have nodes' : (making.withField before.length field).nodes =
        ((before ++ [scalarNode true field.key keyStart, scalarNode field.plain field.content start]) ++ behind).toArray := by
      rw [List.append_assoc]
      exact nodes
    have unmade' : (making.withField before.length field).Unmade
        (before ++ [scalarNode true field.key keyStart, scalarNode field.plain field.content start]).length := by
      rw [List.length_append]
      exact unmade.withField field
    obtain ⟨added, items, rest, shape⟩ := ih others nodes' unmade' keys' (by rwa [List.append_assoc])
    refine ⟨(⟨.text field.name, some before.length⟩, .plain field.value) :: added, items, ?_, by rw [List.map_cons, shape]; rfl⟩
    rw [List.length_cons, entryIds, List.foldlM_cons]
    refine (run_bind_ok step).trans ?_
    rw [List.append_assoc, List.length_append] at rest
    exact rest

end

private theorem key_tags (fields : List Field) {before behind : List Node} (shows : Shows (fields.map Field.toLine) behind) :
    ∀ entry ∈ entryIds before.length fields.length, (Nodes.get (before ++ behind).toArray entry.1).tag = .str := by
  induction fields generalizing before behind with
  | nil => simp [entryIds]
  | cons field fields ih =>
    obtain - | ⟨_, keyStart, start, others⟩ := shows
    next behind =>
    intro entry mem
    obtain rfl | mem := List.mem_cons.mp mem
    · rw [get_append]
      exact field.named
    · have rest := @ih (before ++ [scalarNode true field.key keyStart, scalarNode field.plain field.content start]) behind others
      rw [List.append_assoc, List.length_append] at rest
      exact rest entry mem

section

variable {nodes : Nodes}

private theorem takeMerge_texts {entries : List (NodeId × NodeId)} (texts : ∀ entry ∈ entries, (nodes.get entry.1).tag = .str) :
    nodes.takeMerge entries = none := by
  induction entries with
  | nil => rfl
  | cons entry entries ih =>
    have own : nodes.isMergeKey entry.1 = false := by
      rw [Nodes.isMergeKey, texts entry List.mem_cons_self]
      rfl
    rw [Nodes.takeMerge, own, if_neg Bool.false_ne_true, ih fun other mem => texts other (List.mem_cons_of_mem entry mem)]
    rfl

/-- A mapping whose keys are all text merges nothing. -/
theorem merge_texts {id : NodeId} (texts : ∀ entry ∈ nodes.entriesOf id, (nodes.get entry.1).tag = .str) (fuel : Nat) :
    Nodes.merge (fuel + 1) id nodes = .ok nodes := by
  have plain : ∀ entries : List (NodeId × NodeId), (∀ entry ∈ entries, (nodes.get entry.1).tag = .str) →
      entries.foldl (fun nodes entry =>
        if (nodes.get entry.1).tag == .defaultKey then nodes.setTag entry.1 .str else nodes) nodes = nodes := by
    intro entries texts
    induction entries with
    | nil => rfl
    | cons entry entries ih =>
      rw [List.foldl_cons, texts entry List.mem_cons_self]
      exact ih fun other mem => texts other (List.mem_cons_of_mem entry mem)
  rw [Nodes.merge, takeMerge_texts texts]
  exact congrArg Except.ok (plain _ texts)

end

/-- The mapping at the root of a document of fields is filled with them. -/
theorem fill_fields (fields : List Field) {opening : Place} {behind : List Node} (shows : Shows (fields.map Field.toLine) behind)
    (distinct : (fields.map Field.name).Nodup) {making : Making}
    (nodes : making.nodes = (⟨.map, .mapping (entryIds 1 fields.length), opening⟩ :: behind).toArray)
    (unmade : making.Unmade 1) :
    ∃ (entries : List (Key × Item)) (items : Array (Option Item)), (Maker.fill 0).run making =
        .ok ((), { making with items := items, collections := making.collections.setIfInBounds 0 (.map entries) }) ∧
      entries.map (fun entry => (entry.1.value, entry.2)) =
        fields.map fun field => (Value.text field.name, Item.plain field.value) := by
  have root : making.nodes.get 0 = ⟨.map, .mapping (entryIds 1 fields.length), opening⟩ := by
    rw [nodes]
    rfl
  have ids : making.nodes.entriesOf 0 = entryIds 1 fields.length := by rw [Nodes.entriesOf, root]
  have unchanged : Nodes.merge (making.merges + 1) 0 making.nodes = .ok making.nodes := by
    apply merge_texts
    rw [ids, nodes]
    exact @key_tags fields [_] behind shows
  have initial : ([] : List (Key × Item)).map (·.1.value) = ([] : List String).map Value.text := rfl
  obtain ⟨entries, items, added, shape⟩ := @addEntries_run making [] [] opening fields [_] behind shows nodes unmade initial distinct
  refine ⟨entries, items, ?_, shape⟩
  have filled : (Maker.entries 0).run making = .ok (entries, { making with items := items }) := by
    unfold Maker.entries
    refine (run_bind_ok rfl).trans ?_
    rw [root]
    dsimp only
    refine (run_bind_ok rfl).trans ?_
    refine (run_bind_ok rfl).trans ?_
    rw [unchanged]
    refine (run_bind_ok rfl).trans ?_
    refine (run_bind_ok rfl).trans ?_
    rw [ids]
    exact added
  unfold Maker.fill
  refine (run_bind_ok rfl).trans ?_
  rw [root]
  dsimp only
  refine (run_bind_ok (run_map_ok filled)).trans ?_
  rfl

private theorem values_plain (made : Made) (values : List Value) : made.values (values.map .plain) = values := by
  have read : ∀ (values : List Value) (known : Known),
      (((values.map Item.plain).mapM fun item => (·.1) <$> made.unfold (made.collections.size + 1) [] item).run known).1 = values := by
    intro values
    induction values with
    | nil => intro known; rfl
    | cons value values ih =>
      intro known
      rw [List.map_cons, List.mapM_cons]
      exact congrArg (List.cons value) (ih known)
  exact read values _

private theorem value_fields {fields : List Field} {entries : List (Key × Item)}
    (shape : entries.map (fun entry => (entry.1.value, entry.2)) =
      fields.map fun field => (Value.text field.name, Item.plain field.value))
    {made : Made} {id : NodeId} (root : made.root = .collection id) (holds : made.collection id = .map entries) :
    made.value = .map (fields.map fun field => (Value.text field.name, field.value)) := by
  have keys : entries.map (·.1.value) = fields.map fun field => Value.text field.name := by
    have firsts := congrArg (List.map Prod.fst) shape
    rw [List.map_map, List.map_map] at firsts
    exact firsts
  have items : entries.map (·.2) = (fields.map Field.value).map Item.plain := by
    have seconds := congrArg (List.map Prod.snd) shape
    rw [List.map_map, List.map_map] at seconds
    rw [List.map_map]
    exact seconds
  unfold Made.value
  rw [root]
  dsimp only
  rw [holds]
  dsimp only
  rw [keys, items, values_plain, List.zip_map']

private theorem Maker.item_mapping {making : Making} {id : NodeId} (unmade : (making.items[id]?).join = none)
    (tag : (making.nodes.get id).tag = .map) :
    (Maker.item id).run making = .ok (.collection id,
      { making with items := making.items.setIfInBounds id (some (.collection id)), next := id :: making.next }) := by
  unfold Maker.item
  refine (run_bind_ok rfl).trans ?_
  rw [unmade]
  dsimp only
  rw [tag]
  rfl

/-- A collection in which no other is met is the last that is filled. -/
theorem Maker.fillAll_single {making after : Making} {id : NodeId} (next : making.next = [id])
    (filled : (Maker.fill id).run { making with next := [] } = .ok ((), after)) (alone : after.next = []) (fuel : Nat) :
    (Maker.fillAll (fuel + 2) []).run making = .ok ((), after) := by
  have last : (Maker.fillAll (fuel + 1) [id]).run { making with next := [] } = .ok ((), after) := by
    unfold Maker.fillAll
    refine (run_bind_ok ((run_bind_ok filled).trans rfl)).trans ?_
    refine (run_bind_ok rfl).trans ?_
    rw [alone]
    rfl
  unfold Maker.fillAll
  refine (run_bind_ok rfl).trans ?_
  refine (run_bind_ok rfl).trans ?_
  rw [next]
  exact (run_bind_ok rfl).trans last

/-- A document of fields is the mapping of their values under their names. -/
theorem make_fields (fields : List Field) {opening : Place} {behind : List Node} (shows : Shows (fields.map Field.toLine) behind)
    (distinct : (fields.map Field.name).Nodup) :
    ∃ made, Graph.make ⟨(⟨.map, .mapping (entryIds 1 fields.length), opening⟩ :: behind).toArray, 0⟩ = .ok made ∧
      made.value = .map (fields.map fun field => (Value.text field.name, field.value)) := by
  generalize isNodes : (⟨.map, .mapping (entryIds 1 fields.length), opening⟩ :: behind : List Node).toArray = nodes
  have tag : (Nodes.get nodes 0).tag = .map := by rw [← isNodes]; rfl
  obtain ⟨size, some⟩ : ∃ size, nodes.size = size + 1 := by rw [← isNodes]; exact ⟨behind.length, by simp⟩
  let start : Making := ⟨nodes, Nodes.mergeCount nodes, Array.replicate (size + 1) none, Array.replicate (size + 1) (.list []), []⟩
  let met : Making := { start with items := start.items.setIfInBounds 0 (Option.some (.collection 0)) }
  have fresh (id : Nat) : (start.items[id]?).join = none := by
    simp only [start, Array.getElem?_replicate]
    split <;> rfl
  have unmade : met.Unmade 1 := by
    intro id above
    rw [Array.getElem?_setIfInBounds_ne (Nat.ne_of_lt above)]
    exact fresh id
  have root : (Maker.item 0).run start = .ok (.collection 0, { met with next := [0] }) := Maker.item_mapping (fresh 0) tag
  obtain ⟨entries, items, filled, shape⟩ := fill_fields fields shows distinct isNodes.symm unmade
  have all : (Maker.fillAll (size + 2) []).run { met with next := [0] } = .ok ((), { met with
      items := items, collections := met.collections.setIfInBounds 0 (.map entries) }) :=
    Maker.fillAll_single rfl filled rfl size
  have placed : Made.collection ⟨met.collections.setIfInBounds 0 (.map entries), .collection 0⟩ 0 = .map entries := by
    simp [Made.collection, met, start]
  refine ⟨⟨met.collections.setIfInBounds 0 (.map entries), .collection 0⟩, ?_, value_fields shape rfl placed⟩
  have run : (do
      let root ← Maker.item 0
      Maker.fillAll (size + 2) []
      return root : Maker Item).run start = .ok (.collection 0, _) := (run_bind_ok root).trans (run_bind_ok all)
  unfold Graph.make
  dsimp only
  rw [some]
  exact congrArg (fun outcome => outcome >>= fun made => .ok (⟨made.2.collections, made.1⟩ : Made)) run

/-- A text of fields is loaded as the mapping of their values under their names. -/
theorem load_fields (field : Field) (fields : List Field) (distinct : ((field :: fields).map Field.name).Nodup)
    (readable : ∀ c ∈ (field :: fields).flatMap fun field => field.text, isReadable c = true) :
    load (String.ofList ((field :: fields).flatMap fun field => field.text)) =
      .ok (.map ((field :: fields).map fun field => (Value.text field.name, field.value))) := by
  have text (fields : List Field) : fields.flatMap (fun field => field.text) = (fields.map Field.toLine).flatMap Line.text := by
    rw [List.flatMap_map]
  rw [text] at readable
  obtain ⟨opening, nodes, graph, shows⟩ := graph_lines field.toLine (fields.map Field.toLine) readable
  obtain ⟨made, makes, value⟩ := @make_fields (field :: fields) opening nodes shows distinct
  unfold load
  rw [String.toList_ofList, text, List.map_cons, graph, ← value]
  rw [List.length_cons] at makes
  simp only [List.length_cons, List.length_map, bind, Except.bind, makes]
  rfl

end ElasticEndpoint.Yaml
