import ElasticEndpoint.Yaml.Node
import ElasticEndpoint.Proofs.FlatTokens

/-!
Nodes of flat mappings. The tokens of lines come to one mapping, and behind it to two nodes for each line: the key and the
scalar.
-/

namespace ElasticEndpoint.Yaml

section

variable {σ α β : Type} {step : StateT σ (Except Fault) α} {value : α} {before after : σ}

theorem run_bind_ok {next : α → StateT σ (Except Fault) β} (ran : step.run before = .ok (value, after)) :
    (step >>= next).run before = (next value).run after := by
  rw [StateT.run_bind, ran]
  rfl

theorem run_map_ok {change : α → β} (ran : step.run before = .ok (value, after)) :
    (change <$> step).run before = .ok (change value, after) := by
  rw [StateT.run_map, ran]
  rfl

end

/-- The node of a scalar without an anchor or a tag. -/
def scalarNode (plain : Bool) (content : List Char) (start : Place) : Node :=
  ⟨if plain then Tag.ofPlain content else .str, .scalar ⟨content, []⟩, start⟩

/-- Nodes of the entries of some lines: each a key, and behind it its scalar. -/
inductive Shows : List Line → List Node → Prop
  | nil : Shows [] []
  | cons (line : Line) (keyStart start : Place) {lines : List Line} {nodes : List Node} (others : Shows lines nodes) :
      Shows (line :: lines) (scalarNode true line.key keyStart :: scalarNode line.plain line.content start :: nodes)

/-- The numbers of the nodes of some entries, from the first of them on. -/
def entryIds (first : Nat) : Nat → List (NodeId × NodeId)
  | 0 => []
  | count + 1 => (first, first + 1) :: entryIds (first + 2) count

namespace NodeReader

variable {r : Reading} {rest : List Token}

private theorem peek_run {token : Token} (feed : r.feed = ⟨token :: rest, none⟩) : peek.run r = .ok (token, r) := by
  obtain ⟨list, nodes, anchors, handles, depth⟩ := r
  obtain rfl : list = _ := feed
  rfl

/-- An entry of a block mapping is two nodes, and the entries behind it are read from where it ends. -/
theorem blockEntries_entry {first key colon value : Token} (feed : r.feed = ⟨first :: key :: colon :: value :: rest, none⟩)
    {name content : List Char} {plain : Bool} (isKey : first.kind = .key) (isName : key.kind = .scalar true ⟨name, []⟩)
    (isValue : colon.kind = .value) (isScalar : value.kind = .scalar plain ⟨content, []⟩) (opening : Place) (fuel : Nat) :
    (blockEntries opening (fuel + 4)).run r = do
      let (others, after) ← (blockEntries opening (fuel + 3)).run { r with
        feed := ⟨rest, none⟩
        nodes := (r.nodes.push (scalarNode true name key.start)).push (scalarNode plain content value.start) }
      return ((r.nodes.size, r.nodes.size + 1) :: others, after) := by
  obtain ⟨firstKind, firstStart, firstStop⟩ := first
  obtain ⟨nameKind, keyStart, keyStop⟩ := key
  obtain ⟨colonKind, colonStart, colonStop⟩ := colon
  obtain ⟨scalarKind, valueStart, valueStop⟩ := value
  obtain rfl : firstKind = _ := isKey
  obtain rfl : nameKind = _ := isName
  obtain rfl : colonKind = _ := isValue
  obtain rfl : scalarKind = _ := isScalar
  obtain ⟨list, nodes, anchors, handles, depth⟩ := r
  obtain rfl : list = _ := feed
  rw [blockEntries]
  have size : (nodes.push (scalarNode true name keyStart)).size = nodes.size + 1 := Array.size_push _
  rw [← size]
  rfl

private theorem blockEntries_end {last : Token} (feed : r.feed = ⟨last :: rest, none⟩) (isEnd : last.kind = .blockEnd) (opening : Place)
    (fuel : Nat) : (blockEntries opening (fuel + 1)).run r = .ok ([], { r with feed := ⟨rest, none⟩ }) := by
  obtain ⟨last, start, stop⟩ := last
  obtain rfl : last = _ := isEnd
  obtain ⟨list, nodes, anchors, handles, depth⟩ := r
  obtain rfl : list = _ := feed
  rw [blockEntries]
  rfl

private theorem blockEntries_lines (lines : List Line) {tokens : List Token}
    (kinds : tokens.map Token.kind = lines.flatMap Line.kinds ++ [.blockEnd, .streamEnd]) (feed : r.feed = ⟨tokens, none⟩)
    (opening : Place) {fuel : Nat} (enough : lines.length + 4 ≤ fuel) :
    ∃ nodes last, (blockEntries opening fuel).run r = .ok (entryIds r.nodes.size lines.length,
        { r with feed := ⟨[last], none⟩, nodes := r.nodes ++ nodes.toArray }) ∧
      Shows lines nodes ∧ last.kind = .streamEnd := by
  induction lines generalizing r tokens fuel with
  | nil =>
    simp only [List.flatMap_nil, List.nil_append, List.map_eq_cons_iff, List.map_eq_nil_iff] at kinds
    obtain ⟨closing, -, rfl, isEnd, last, -, rfl, isLast, rfl⟩ := kinds
    obtain ⟨fuel, rfl⟩ : ∃ n, fuel = n + 1 := ⟨fuel - 1, by omega⟩
    refine ⟨[], last, ?_, .nil, isLast⟩
    rw [blockEntries_end feed isEnd opening fuel, Array.append_empty]
    rfl
  | cons line lines ih =>
    simp only [List.flatMap_cons, Line.kinds, List.cons_append, List.nil_append, List.map_eq_cons_iff] at kinds
    obtain ⟨first, -, rfl, isKey, key, -, rfl, isName, colon, -, rfl, isValue, value, rest, rfl, isScalar, kinds⟩ := kinds
    rw [List.length_cons] at enough
    obtain ⟨fuel, rfl⟩ : ∃ n, fuel = n + 4 := ⟨fuel - 4, by omega⟩
    obtain ⟨nodes, last, others, shows, isLast⟩ := @ih { r with
      feed := ⟨rest, none⟩
      nodes := (r.nodes.push (scalarNode true line.key key.start)).push
        (scalarNode line.plain line.content value.start) } rest kinds rfl (fuel + 3) (by omega)
    refine ⟨_, last, ?_, .cons line key.start value.start shows, isLast⟩
    rw [blockEntries_entry feed isKey isName isValue isScalar, others]
    simp [entryIds, bind, Except.bind, pure, Except.pure]

private theorem fill_run {id : NodeId} {reader : NodeReader Content} {content : Content} {after : Reading} (shallow : r.depth < depthLimit)
    (read : reader.run { r with depth := r.depth + 1 } = .ok (content, after)) :
    (fill id reader).run r = .ok (id, { after with depth := after.depth - 1, nodes := after.nodes.setContent id content }) := by
  have below : ¬depthLimit ≤ r.depth := Nat.not_le.mpr shallow
  unfold fill
  simp only [StateT.run_bind, StateT.run_get, pure_bind, below, if_false, StateT.run_pure, StateT.run_modify, read]
  rfl

private theorem node_mapping {opening : Token} (feed : r.feed = ⟨opening :: rest, none⟩) (isStart : opening.kind = .blockMappingStart)
    (outermost : r.depth = 0) {fuel : Nat} {pairs : List (NodeId × NodeId)} {after : Reading}
    (read : (blockEntries opening.start fuel).run { r with
      feed := ⟨rest, none⟩, nodes := r.nodes.push ⟨.map, .mapping [], opening.start⟩, depth := 1 } = .ok (pairs, after)) :
    (node .block (fuel + 1)).run r = .ok (r.nodes.size,
      { after with depth := after.depth - 1, nodes := after.nodes.setContent r.nodes.size (.mapping pairs) }) := by
  obtain ⟨first, start, stop⟩ := opening
  obtain rfl : first = _ := isStart
  obtain ⟨list, nodes, anchors, handles, depth⟩ := r
  obtain rfl : list = _ := feed
  obtain rfl : depth = 0 := outermost
  rw [node]
  change (fill nodes.size (.mapping <$> do
    let opening ← next
    blockEntries opening.start fuel)).run ⟨⟨⟨.blockMappingStart, start, stop⟩ :: rest, none⟩,
      nodes.push ⟨.map, .mapping [], start⟩, anchors, handles, 0⟩ = _
  refine fill_run (show 0 < depthLimit by decide) ?_
  exact run_map_ok ((run_bind_ok rfl).trans read)

private theorem explicitStart_end {last : Token} (feed : r.feed = ⟨[last], none⟩) (isLast : last.kind = .streamEnd) (fuel : Nat) :
    (explicitStart fuel).run r = .ok (none, r) := by
  obtain ⟨last, start, stop⟩ := last
  obtain rfl : last = _ := isLast
  obtain ⟨list, nodes, anchors, handles, depth⟩ := r
  obtain rfl : list = _ := feed
  cases fuel <;> rfl

/-- The only document of a stream that begins with a block mapping. -/
theorem document_mapping {opening : Token} (feed : r.feed = ⟨opening :: rest, none⟩) (isStart : opening.kind = .blockMappingStart)
    {fuel : Nat} {root : NodeId} {after : Reading}
    (read : (node .block fuel).run { r with handles := defaultHandles } = .ok (root, after)) {last : Token}
    (ends : after.feed = ⟨[last], none⟩) (isLast : last.kind = .streamEnd) :
    (document fuel).run r = .ok (some root, after) := by
  obtain ⟨first, start, stop⟩ := opening
  obtain rfl : first = _ := isStart
  obtain ⟨list, nodes, anchors, handles, depth⟩ := r
  obtain rfl : list = _ := feed
  have finished := explicitStart_end ends isLast fuel
  have marker : (sees (· == .documentEnd)).run after = .ok (false, after) := by
    unfold sees
    rw [StateT.run_bind, peek_run ends]
    simp [isLast, bind, Except.bind]
    rfl
  unfold document
  refine (run_bind_ok (peek_run rfl)).trans ?_
  dsimp only
  refine (run_bind_ok rfl).trans ?_
  refine (run_bind_ok (run_map_ok read)).trans ?_
  refine (run_bind_ok marker).trans ?_
  exact (run_bind_ok finished).trans rfl

end NodeReader

private theorem Line.length_kinds (lines : List Line) : (lines.flatMap kinds).length = 4 * lines.length := by
  induction lines with
  | nil => rfl
  | cons line lines ih =>
    rw [List.flatMap_cons, List.length_append, ih, List.length_cons]
    simp only [kinds, List.length_cons, List.length_nil]
    omega

open NodeReader in
/-- The document of a text of lines: the mapping at the root, and the nodes of its entries behind it. -/
theorem graph_lines (line : Line) (lines : List Line) (readable : ∀ c ∈ (line :: lines).flatMap Line.text, isReadable c = true) :
    ∃ start nodes, Graph.ofText ((line :: lines).flatMap Line.text) =
        .ok (some ⟨(⟨.map, .mapping (entryIds 1 (line :: lines).length), start⟩ :: nodes).toArray, 0⟩) ∧
      Shows (line :: lines) nodes := by
  obtain ⟨tokens, feed, kinds⟩ := feed_lines line lines readable
  rw [List.map_eq_cons_iff] at kinds
  obtain ⟨opening, rest, rfl, isStart, kinds⟩ := kinds
  have enough : (line :: lines).length + 4 ≤ 4 * (opening :: rest).length + 19 := by
    have count := congrArg List.length kinds
    rw [List.length_map, List.length_append, Line.length_kinds] at count
    rw [List.length_cons (a := opening)]
    omega
  have entries := blockEntries_lines (r := ⟨⟨rest, none⟩, #[⟨.map, .mapping [], opening.start⟩], [], defaultHandles, 1⟩)
    (line :: lines) kinds rfl opening.start enough
  obtain ⟨nodes, last, read, shows, isLast⟩ := entries
  refine ⟨opening.start, nodes, ?_, shows⟩
  have root := node_mapping (r := ⟨⟨opening :: rest, none⟩, #[], [], defaultHandles, 0⟩) rfl isStart rfl read
  have whole : (document (4 * (opening :: rest).length + 20)).run { feed := ⟨opening :: rest, none⟩ } = .ok (some 0, _) :=
    document_mapping rfl isStart root rfl isLast
  have placed : Nodes.setContent (#[⟨.map, .mapping [], opening.start⟩] ++ nodes.toArray) 0
      (.mapping (entryIds 1 (line :: lines).length)) =
      (⟨.map, .mapping (entryIds 1 (line :: lines).length), opening.start⟩ :: nodes).toArray := by
    simp [Nodes.setContent]
  rw [← placed]
  unfold Graph.ofText
  rw [feed]
  dsimp only
  rw [whole]
  rfl

end ElasticEndpoint.Yaml
