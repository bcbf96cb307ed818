import ElasticEndpoint.Console.Lines

/-!
Cells of the screen. The clusters of a text hold its characters in order. In a steady text, which joins no
characters and asks for none in color, every character fills the cells that it fills by itself, so a text that is
cut short to its own cells loses nothing but blanks.
-/

namespace ElasticEndpoint

namespace Text

def isVisible (c : Char) : Bool := !isBlank c && 0x20 ≤ c.toNat && !(0x7F ≤ c.toNat && c.toNat < 0xA0)

/-- The characters of a text that can be seen, in order. -/
def visible (text : List Char) : List Char := text.filter isVisible

@[simp]
theorem visible_append (first rest : List Char) : visible (first ++ rest) = visible first ++ visible rest :=
  List.filter_append ..

theorem visible_blank {text : List Char} (blank : ∀ c ∈ text, isBlank c = true) : visible text = [] := by
  apply List.filter_eq_nil_iff.mpr
  intro c member
  simp [isVisible, blank c member]

theorem visible_blanks (count : Nat) : visible (Console.blanks count) = [] := by
  apply visible_blank
  intro c member
  rw [List.eq_of_mem_replicate member]
  rfl

/-- A text that neither joins characters nor asks for one in color. -/
def IsSteady (text : List Char) : Prop := ∀ c ∈ text, c ≠ joiner ∧ c ≠ colorSelector

theorem IsSteady.of_all {text : List Char} (all : (text.all fun c => c != joiner && c != colorSelector) = true) :
    IsSteady text := by
  intro c member
  simpa using List.all_eq_true.mp all c member

/-- The cells that the characters of a text fill by themselves. -/
def total : List Char → Nat
  | [] => 0
  | c :: rest => cellWidth c + total rest

theorem total_cons (c : Char) (rest : List Char) : total (c :: rest) = cellWidth c + total rest := rfl

theorem total_append (first rest : List Char) : total (first ++ rest) = total first + total rest := by
  induction first with
  | nil => exact (Nat.zero_add _).symm
  | cons c first ih => rw [List.cons_append, total_cons, total_cons, ih, Nat.add_assoc]

theorem cellWidth_le (c : Char) : cellWidth c ≤ 2 := by
  unfold cellWidth
  split
  · omega
  · split
    · omega
    · split <;> omega

theorem IsSteady.append {first rest : List Char} (steady : IsSteady first) (others : IsSteady rest) :
    IsSteady (first ++ rest) := List.forall_mem_append.mpr ⟨steady, others⟩

theorem IsSteady.left {first rest : List Char} (steady : IsSteady (first ++ rest)) : IsSteady first :=
  (List.forall_mem_append.mp steady).1

theorem IsSteady.right {first rest : List Char} (steady : IsSteady (first ++ rest)) : IsSteady rest :=
  (List.forall_mem_append.mp steady).2

private theorem cellsBehind_total {text : List Char} (steady : IsSteady text) (last : Option Char) :
    cellsBehind last text = total text := by
  induction text generalizing last with
  | nil => rfl
  | cons c rest ih =>
    obtain ⟨⟨unjoined, uncolored⟩, others⟩ := List.forall_mem_cons.mp steady
    cases rest with
    | nil => simp [cellsBehind, unjoined, uncolored, total]
    | cons next rest =>
      rw [total_cons, cellsBehind, if_neg (by simpa using unjoined), if_neg (by simpa using uncolored)]
      split
      next zero => rw [ih others, beq_iff_eq.mp zero, Nat.zero_add]
      next => rw [ih others]

theorem cells_total {text : List Char} (steady : IsSteady text) : cells text = total text :=
  cellsBehind_total steady none

private theorem joinedBy_text (current : Option Cluster) (text : List Char) :
    (Cluster.joinedBy current text).text = current.elim [] (·.text) ++ text := by
  cases current <;> rfl

/-- The clusters of a text hold its characters in order, behind those of the cluster that goes on. -/
theorem clustersBehind_text (current : Option Cluster) (last : Option Char) (text : List Char) :
    (clustersBehind current last text).flatMap (·.text) = current.elim [] (·.text) ++ text := by
  have before : current.toList.flatMap (·.text) = current.elim [] (·.text) := by cases current <;> simp
  fun_induction clustersBehind current last text with
  | case1 => simpa using before
  | case2 current last c colored cluster => simp [cluster, joinedBy_text]
  | case3 current last c => simp [joinedBy_text]
  | case4 current last c => simp [before]
  | case5 current last c next rest joins ih =>
    rw [ih (by simp)]
    simp [joinedBy_text]
  | case6 current last c next rest _ _ cluster ih =>
    rw [ih (by simp)]
    simp [cluster, joinedBy_text]
  | case7 current last c next rest _ _ _ ih =>
    rw [ih (by simp)]
    simp [joinedBy_text]
  | case8 current last c next rest _ _ _ ih =>
    rw [List.flatMap_append, before, ih (by simp)]
    simp

theorem clusters_text (text : List Char) : (clusters text).flatMap (·.text) = text := clustersBehind_text none none text

/-- A cluster whose cells are those of its characters, and which holds some. -/
structure Cluster.IsFull (cluster : Cluster) : Prop where
  total : cluster.cells = Text.total cluster.text
  held : cluster.text ≠ []

/-- A full cluster whose first character fills all of its cells, and at least one. -/
structure Cluster.IsSolid (cluster : Cluster) : Prop extends cluster.IsFull where
  first : ∃ c rest, cluster.text = c :: rest ∧ cellWidth c = cluster.cells
  filled : 0 < cluster.cells

theorem clustersBehind_cons {c : Char} (steady : c ≠ joiner ∧ c ≠ colorSelector) (current : Option Cluster)
    (last : Option Char) (rest : List Char) :
    clustersBehind current last (c :: rest) =
      if cellWidth c = 0 then clustersBehind (some (Cluster.joinedBy current [c])) last rest
      else current.toList ++ clustersBehind (some ⟨[c], cellWidth c⟩) (some c) rest := by
  obtain ⟨unjoined, uncolored⟩ := steady
  cases rest with
  | nil => simp [clustersBehind, unjoined, uncolored]
  | cons next rest => simp [clustersBehind, unjoined, uncolored]

section

variable {cluster : Cluster} {c : Char}

theorem Cluster.IsFull.joined (full : cluster.IsFull) (zero : cellWidth c = 0) :
    (Cluster.joinedBy (some cluster) [c]).IsFull where
  total := by simp [joinedBy, full.total, zero, Text.total_append, Text.total]
  held := by simp [joinedBy]

theorem Cluster.IsSolid.joined (solid : cluster.IsSolid) (zero : cellWidth c = 0) :
    (Cluster.joinedBy (some cluster) [c]).IsSolid where
  toIsFull := solid.toIsFull.joined zero
  first := by
    obtain ⟨first, rest, shape, width⟩ := solid.first
    exact ⟨first, rest ++ [c], by simp [joinedBy, shape], width⟩
  filled := solid.filled

private theorem Cluster.full_single (c : Char) : (Cluster.mk [c] (cellWidth c)).IsFull := ⟨by simp [Text.total], by simp⟩

private theorem Cluster.solid_single (wide : cellWidth c ≠ 0) : (Cluster.mk [c] (cellWidth c)).IsSolid :=
  ⟨full_single c, ⟨c, [], rfl, rfl⟩, Nat.pos_of_ne_zero wide⟩

end

/-- In a steady text all clusters behind one that goes on are solid, and that one fills no more cells than it did. -/
theorem clustersBehind_row {text : List Char} (steady : IsSteady text) {current : Cluster} (full : current.IsFull)
    (last : Option Char) :
    ∃ first others, clustersBehind (some current) last text = first :: others ∧ first.IsFull ∧
      first.cells = current.cells ∧ (current.IsSolid → first.IsSolid) ∧ ∀ cluster ∈ others, cluster.IsSolid := by
  induction text generalizing current last with
  | nil => exact ⟨current, [], rfl, full, rfl, id, by simp⟩
  | cons c rest ih =>
    obtain ⟨kept, others⟩ := List.forall_mem_cons.mp steady
    rw [clustersBehind_cons kept]
    split
    next zero =>
      obtain ⟨first, behind, row, whole, cells, solid, rest⟩ := ih others (full.joined zero) last
      exact ⟨first, behind, row, whole, cells, fun same => solid (same.joined zero), rest⟩
    next wide =>
      obtain ⟨first, behind, row, whole, cells, solid, rest⟩ := ih others (Cluster.full_single c) (some c)
      refine ⟨current, first :: behind, by rw [row]; rfl, full, rfl, id, ?_⟩
      exact List.forall_mem_cons.mpr ⟨solid (Cluster.solid_single wide), rest⟩

/-- In a steady text all clusters are full, and all but a first one that fills no cell are solid. -/
theorem clusters_row {text : List Char} (steady : IsSteady text) :
    clusters text = [] ∨ ∃ first others, clusters text = first :: others ∧ first.IsFull ∧
      (first.cells = 0 ∨ first.IsSolid) ∧ ∀ cluster ∈ others, cluster.IsSolid := by
  cases text with
  | nil => exact .inl rfl
  | cons c rest =>
    obtain ⟨kept, others⟩ := List.forall_mem_cons.mp steady
    unfold clusters
    rw [clustersBehind_cons kept]
    obtain ⟨first, behind, row, whole, cells, solid, rest⟩ := clustersBehind_row others (Cluster.full_single c)
      (if cellWidth c = 0 then none else some c)
    by_cases zero : cellWidth c = 0
    · rw [if_pos zero] at row ⊢
      refine .inr ⟨first, behind, ?_, whole, .inl (cells.trans zero), rest⟩
      rw [← row]
      simp [Cluster.joinedBy, zero]
    · rw [if_neg zero] at row ⊢
      exact .inr ⟨first, behind, by rw [row]; rfl, whole, .inr (solid (Cluster.solid_single zero)), rest⟩

end Text

namespace Console

open Text (Cluster visible IsSteady)

variable {width : Nat}

/-- What is cut short shows no more than before. -/
theorem visible_takeCells (width : Nat) (row : List Cluster) :
    (visible (takeCells width row)).Sublist (visible (row.flatMap (·.text))) := by
  induction row generalizing width with
  | nil => rw [takeCells, Text.visible_blanks]; exact List.nil_sublist _
  | cons cluster rest ih =>
    unfold takeCells
    split
    · exact List.nil_sublist _
    · split
      · exact List.nil_sublist _
      · rw [List.flatMap_cons, Text.visible_append, Text.visible_append]
        exact (List.Sublist.refl _).append (ih _)

/-- The front of a text either ends inside its body, or shows all of it. -/
theorem front_of_body {front behind body tail : List Char} (text : front ++ behind = body ++ tail)
    (blank : ∀ c ∈ tail, Text.isBlank c = true) :
    (∃ more, body = front ++ more ∧ behind = more ++ tail) ∨
      visible front = visible body ∧ ∀ c ∈ behind, Text.isBlank c = true := by
  rcases List.append_eq_append_iff.mp text with inside | ⟨more, rfl, rfl⟩
  · exact .inl inside
  · obtain ⟨cut, after⟩ := List.forall_mem_append.mp blank
    rw [Text.visible_append, Text.visible_blank cut, List.append_nil]
    exact .inr ⟨rfl, after⟩

/-- What shows of a row of solid clusters that is cut short, where what follows some body is blank and the body
fits. -/
theorem takeCells_solid {row : List Cluster} (solid : ∀ cluster ∈ row, cluster.IsSolid) {body tail : List Char}
    (text : row.flatMap (·.text) = body ++ tail) (blank : ∀ c ∈ tail, Text.isBlank c = true)
    (fits : Text.total body ≤ width) : visible (takeCells width row) = visible body := by
  induction row generalizing width body tail with
  | nil =>
    obtain ⟨rfl, -⟩ := List.append_eq_nil_iff.mp text.symm
    exact Text.visible_blanks width
  | cons cluster rest ih =>
    cases body with
    | nil =>
      have shows := visible_takeCells width (cluster :: rest)
      rw [text, List.nil_append, Text.visible_blank blank] at shows
      exact List.sublist_nil.mp shows
    | cons head body =>
      obtain ⟨whole, others⟩ := List.forall_mem_cons.mp solid
      obtain ⟨c, behind, shape, filled⟩ := whole.first
      have positive := whole.filled
      have counted := whole.total
      rw [List.flatMap_cons] at text
      have room : cluster.cells ≤ width := by
        rw [shape] at text
        obtain ⟨rfl, -⟩ := List.cons.inj text
        rw [Text.total_cons] at fits
        omega
      rw [takeCells, if_neg (by simp; omega), if_neg (by omega), Text.visible_append]
      rcases front_of_body text blank with ⟨more, inside, after⟩ | ⟨shown, after⟩
      · rw [inside, Text.total_append] at fits
        rw [inside, Text.visible_append, ih others after blank (by omega)]
      · rw [shown, ih others (List.nil_append _).symm after (Nat.zero_le _)]
        exact List.append_nil _

/-- A steady line whose cells behind what fits are blank shows everything when it is cut short. -/
theorem visible_cropCells {body tail : List Char} (steady : IsSteady (body ++ tail))
    (blank : ∀ c ∈ tail, Text.isBlank c = true) (fits : Text.total body ≤ width) (positive : 0 < width) :
    visible (cropCells width (body ++ tail)) = visible (body ++ tail) := by
  unfold cropCells
  split
  · rfl
  · rw [Text.visible_append, Text.visible_blank blank, List.append_nil]
    have text := Text.clusters_text (body ++ tail)
    rcases Text.clusters_row steady with none | ⟨first, others, row, full, narrow, solid⟩
    · rw [none] at text ⊢
      exact takeCells_solid (by simp) text blank fits
    · rw [row] at text ⊢
      rcases narrow with zero | whole
      · -- A first cluster without cells is taken before any room is used up.
        rw [takeCells, if_neg (by simp; omega), if_neg (by omega), zero, Nat.sub_zero, Text.visible_append]
        rw [List.flatMap_cons] at text
        rcases front_of_body text blank with ⟨more, inside, after⟩ | ⟨shown, after⟩
        · rw [inside, Text.total_append] at fits
          rw [inside, Text.visible_append, takeCells_solid solid after blank (by omega)]
        · rw [shown, takeCells_solid solid (List.nil_append _).symm after (Nat.zero_le _)]
          exact List.append_nil _
      · exact takeCells_solid (List.forall_mem_cons.mpr ⟨whole, solid⟩) text blank fits

end Console

end ElasticEndpoint
