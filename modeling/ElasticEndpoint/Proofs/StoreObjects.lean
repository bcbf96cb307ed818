import ElasticEndpoint.Cluster.Store

/-!
Writing objects of a store. Writing an object replaces the first one of its name or adds one, and comes
out the same when it is done again.
-/

namespace ElasticEndpoint.Cluster

variable {α : Type} {test other : α → Bool} {objects after : List (Option α)} {object seen : α}

theorem findFirst_holds (found : findFirst test objects = .ok (some object)) : test object = true := by
  induction objects with
  | nil => cases found
  | cons first rest ih =>
    cases first with
    | none => cases found
    | some first =>
      unfold findFirst at found
      split at found
      · cases found
        assumption
      · exact ih found

theorem findFirst_error {failure : CallFailure} (broken : findFirst test objects = .error failure) :
    failure = .crash .missingPart := by
  induction objects with
  | nil => cases broken
  | cons first rest ih =>
    cases first with
    | none =>
      cases broken
      rfl
    | some first =>
      unfold findFirst at broken
      split at broken
      · cases broken
      · exact ih broken

theorem require_eq_ok : require test objects = .ok object ↔ findFirst test objects = .ok (some object) := by
  unfold require
  rcases findFirst test objects with failure | _ | found <;> simp

theorem change_of_found (found : findFirst test objects = .ok (some object)) (new : α → α) :
    ∃ after, change test new objects = .ok after ∧
      (test (new object) = true → findFirst test after = .ok (some (new object))) := by
  induction objects with
  | nil => cases found
  | cons first rest ih =>
    cases first with
    | none => cases found
    | some first =>
      unfold findFirst at found
      unfold change
      split at found
      · cases found
        exact ⟨_, if_pos ‹_›, fun holds => by simp [findFirst, holds]⟩
      · obtain ⟨after, changed, kept⟩ := ih found
        refine ⟨some first :: after, by simp [*, Except.map], fun holds => ?_⟩
        unfold findFirst
        rw [if_neg ‹_›]
        exact kept holds

theorem change_const (found : findFirst test objects = .ok (some object)) (new : α → α) :
    change test new objects = change test (fun _ => new object) objects := by
  induction objects with
  | nil => cases found
  | cons first rest ih =>
    cases first with
    | none => cases found
    | some first =>
      unfold findFirst at found
      unfold change
      split at found
      · cases found
        simp [*]
      · simp [*, ih found]

theorem change_id (found : findFirst test objects = .ok (some object)) {new : α → α} (same : new object = object) :
    change test new objects = .ok objects := by
  induction objects with
  | nil => cases found
  | cons first rest ih =>
    cases first with
    | none => cases found
    | some first =>
      unfold findFirst at found
      unfold change
      split at found
      · cases found
        simp [*]
      · simp [*, ih found, Except.map]

theorem findFirst_change (apart : ∀ object, test object = true → other object = false)
    {new : α → α} (renamed : ∀ object, other (new object) = false) (changed : change test new objects = .ok after)
    (found : findFirst other objects = .ok (some seen)) : findFirst other after = .ok (some seen) := by
  induction objects generalizing after with
  | nil => cases found
  | cons first rest ih =>
    cases first with
    | none => cases found
    | some first =>
      unfold change at changed
      unfold findFirst at found
      by_cases tested : test first = true
      · rw [if_pos tested] at changed
        cases changed
        rw [if_neg (by simp [apart first tested])] at found
        simpa [findFirst, renamed first] using found
      · rw [if_neg tested] at changed
        cases later : change test new rest with
        | error failure =>
          rw [later] at changed
          cases changed
        | ok others =>
          rw [later] at changed
          cases changed
          unfold findFirst
          split
          · rw [if_pos ‹_›] at found
            exact found
          · rw [if_neg ‹_›] at found
            exact ih later found

theorem findFirst_append (found : findFirst other objects = .ok (some seen)) (rest : List (Option α)) :
    findFirst other (objects ++ rest) = .ok (some seen) := by
  induction objects with
  | nil => cases found
  | cons first objects ih =>
    cases first with
    | none => cases found
    | some first =>
      rw [List.cons_append]
      unfold findFirst at found ⊢
      split
      · rw [if_pos ‹_›] at found
        exact found
      · rw [if_neg ‹_›] at found
        exact ih found

theorem findFirst_added (absent : findFirst test objects = .ok none) (holds : test object = true) :
    findFirst test (objects ++ [some object]) = .ok (some object) := by
  induction objects with
  | nil => simp [findFirst, holds]
  | cons first objects ih =>
    cases first with
    | none => cases absent
    | some first =>
      rw [List.cons_append]
      unfold findFirst at absent ⊢
      split at absent
      · cases absent
      · rw [if_neg ‹_›]
        exact ih absent

/-- Objects with one written: the first that satisfies a test is replaced by what comes of it, or what comes of
none is added. -/
def put (test : α → Bool) (renew : Option α → Option α) (objects : List (Option α)) : Option (List (Option α)) :=
  match findFirst test objects with
  | .error _ => none
  | .ok none => (renew none).map fun new => objects ++ [some new]
  | .ok (some object) => (renew (some object)).bind fun new => (change test (fun _ => new) objects).toOption

/-- A renewal keeps the name that objects are looked for by. -/
def Names (test : α → Bool) (renew : Option α → Option α) : Prop :=
  ∀ found new, found.all test = true → renew found = some new → test new = true

variable {renew : Option α → Option α}

/-- What was written is what is found then, and it stands where the object was that it comes from. -/
theorem put_cases (names : Names test renew) (written : put test renew objects = some after) :
    ∃ found new, findFirst test objects = .ok found ∧ renew found = some new ∧ test new = true ∧
      findFirst test after = .ok (some new) ∧
      (after = objects ++ [some new] ∨ change test (fun _ => new) objects = .ok after) := by
  unfold put at written
  split at written
  · cases written
  · obtain ⟨new, made, rfl⟩ := Option.map_eq_some_iff.mp written
    have named := names none new rfl made
    exact ⟨none, new, ‹_›, made, named, findFirst_added ‹_› named, .inl rfl⟩
  · rename_i object found
    obtain ⟨new, made, changed⟩ := Option.bind_eq_some_iff.mp written
    have named := names (some object) new (by simp [findFirst_holds found]) made
    obtain ⟨others, changes, kept⟩ := change_of_found found fun _ => new
    rw [changes] at changed
    cases changed
    exact ⟨_, new, found, made, named, kept named, .inr changes⟩

theorem findFirst_put (names : Names test renew) (written : put test renew objects = some after)
    (apart : ∀ object, test object = true → other object = false)
    (found : findFirst other objects = .ok (some seen)) : findFirst other after = .ok (some seen) := by
  obtain ⟨_, new, -, -, named, -, rfl | changes⟩ := put_cases names written
  · exact findFirst_append found _
  · exact findFirst_change apart (fun _ => apart new named) changes found

theorem put_fixed (found : findFirst test objects = .ok (some object)) (fixed : renew (some object) = some object) :
    put test renew objects = some objects := by
  unfold put
  rw [found]
  simp only [fixed, Option.bind_some]
  rw [change_id found rfl]
  rfl

/-- Writing twice is writing once, where a renewal of what it gave gives the same. -/
theorem put_put (names : Names test renew) (written : put test renew objects = some after)
    (settled : ∀ found new, renew found = some new → renew (some new) = some new) :
    put test renew after = some after := by
  obtain ⟨found, new, -, made, -, kept, -⟩ := put_cases names written
  exact put_fixed kept (settled found new made)

/-! Which objects a write touches. -/

/-- The objects that satisfy a test, in order. -/
def those (test : α → Bool) (objects : List (Option α)) : List α := (objects.filterMap id).filter test

/-- The places of all other objects, the blank ones among them. -/
def others (test : α → Bool) (objects : List (Option α)) : List (Option α) := objects.filter (!·.any test)

theorem those_append (first second : List (Option α)) :
    those test (first ++ second) = those test first ++ those test second := by
  simp [those]

theorem others_append (first second : List (Option α)) :
    others test (first ++ second) = others test first ++ others test second := by
  simp [others]

theorem head_those {found : Option α} (looked : findFirst test objects = .ok found) :
    (those test objects).head? = found := by
  induction objects with
  | nil =>
    cases looked
    rfl
  | cons first rest ih =>
    cases first with
    | none => cases looked
    | some first =>
      unfold findFirst at looked
      split at looked
      · cases looked
        simp [those, *]
      · simpa [those, *] using ih looked

theorem those_of_single (looked : findFirst test objects = .ok (some object))
    (single : (those test objects).length ≤ 1) : those test objects = [object] := by
  obtain ⟨rest, all⟩ := List.head?_eq_some_iff.mp (head_those looked)
  rw [all] at single ⊢
  rw [List.length_eq_zero_iff.mp (Nat.le_zero.mp (Nat.le_of_succ_le_succ single))]

/-- A change replaces the first object that satisfies the test, and no other. -/
theorem those_change {new : α} (holds : test new = true) (changed : change test (fun _ => new) objects = .ok after) :
    those test after = new :: (those test objects).tail ∧ others test after = others test objects := by
  induction objects generalizing after with
  | nil => cases changed
  | cons first rest ih =>
    cases first with
    | none => cases changed
    | some first =>
      unfold change at changed
      split at changed
      · cases changed
        simp [those, others, *]
      · cases later : change test (fun _ => new) rest with
        | error failure =>
          rw [later] at changed
          cases changed
        | ok rest =>
          rw [later] at changed
          cases changed
          simpa [those, others, *] using ih later

/-- Where one object at most satisfies the test, a write makes it the only one and leaves all others alone. -/
theorem those_put (names : Names test renew) (written : put test renew objects = some after)
    (single : (those test objects).length ≤ 1) :
    ∃ old new, those test objects = old.toList ∧ renew old = some new ∧ those test after = [new] ∧
      others test after = others test objects := by
  unfold put at written
  split at written
  · cases written
  · rename_i looked
    obtain ⟨new, made, rfl⟩ := Option.map_eq_some_iff.mp written
    have holds := names none new rfl made
    have empty : those test objects = [] := List.head?_eq_none_iff.mp (head_those looked)
    refine ⟨none, new, empty, made, ?_, ?_⟩
    · rw [those_append, empty]
      simp [those, holds]
    · rw [others_append]
      simp [others, holds]
  · rename_i object looked
    obtain ⟨new, made, changed⟩ := Option.bind_eq_some_iff.mp written
    have holds := names (some object) new (by simp [findFirst_holds looked]) made
    have all := those_of_single looked single
    cases replaced : change test (fun _ => new) objects with
    | error failure =>
      rw [replaced] at changed
      cases changed
    | ok result =>
      rw [replaced] at changed
      cases changed
      obtain ⟨written, kept⟩ := those_change holds replaced
      rw [all] at written
      exact ⟨some object, new, all, made, written, kept⟩

/-! Objects without blank places. -/

theorem findFirst_mem (found : findFirst test objects = .ok (some object)) : some object ∈ objects := by
  induction objects with
  | nil => cases found
  | cons first rest ih =>
    cases first with
    | none => cases found
    | some first =>
      unfold findFirst at found
      split at found
      · cases found
        exact List.mem_cons_self
      · exact List.mem_cons_of_mem _ (ih found)

private theorem findFirst_full (full : none ∉ objects) (test : α → Bool) : ∃ found, findFirst test objects = .ok found := by
  induction objects with
  | nil => exact ⟨none, rfl⟩
  | cons first rest ih =>
    obtain ⟨present, others⟩ := not_or.mp (mt List.mem_cons.mpr full)
    cases first with
    | none => exact absurd rfl present
    | some first =>
      unfold findFirst
      split
      · exact ⟨_, rfl⟩
      · exact ih others

theorem require_full (full : none ∉ objects) (test : α → Bool) :
    require test objects = .error notFound ∨
      ∃ object, require test objects = .ok object ∧ some object ∈ objects ∧ test object = true := by
  obtain ⟨found, looked⟩ := findFirst_full full test
  unfold require
  rw [looked]
  cases found with
  | none => exact .inl rfl
  | some object => exact .inr ⟨object, rfl, findFirst_mem looked, findFirst_holds looked⟩

/-- A write that is refused, or leaves places of one kind only. -/
inductive Leaves (holds : Option α → Prop) : Except CallFailure (List (Option α)) → Prop where
  | refused (fault : Fault) : Leaves holds (.error (.fault fault))
  | written {after : List (Option α)} (all : ∀ place ∈ after, holds place) : Leaves holds (.ok after)

section

variable {holds : Option α → Prop} (blank : ¬holds none) (all : ∀ place ∈ objects, holds place)

include blank all

theorem leaves_add (test : α → Bool) (new : α) (fits : holds (some new)) : Leaves holds (add test new objects) := by
  obtain ⟨found, looked⟩ := findFirst_full (fun member => blank (all none member)) test
  unfold add
  rw [looked]
  cases found with
  | none => exact .written (List.forall_mem_append.mpr ⟨all, List.forall_mem_singleton.mpr fits⟩)
  | some object => exact .refused _

theorem leaves_change (test : α → Bool) (new : α → α)
    (fits : ∀ object, holds (some object) → holds (some (new object))) : Leaves holds (change test new objects) := by
  induction objects with
  | nil => exact .refused _
  | cons first rest ih =>
    obtain ⟨present, others⟩ := List.forall_mem_cons.mp all
    cases first with
    | none => exact absurd present blank
    | some first =>
      unfold change
      split
      · exact .written (List.forall_mem_cons.mpr ⟨fits first present, others⟩)
      · have later := ih others
        generalize change test new rest = changed at later ⊢
        cases later with
        | refused fault => exact .refused fault
        | written kept => exact .written (List.forall_mem_cons.mpr ⟨present, kept⟩)

end

/-- What an object is told by. -/
def identity (metadata : Option Meta) : Option String × Option String := (spaceOf metadata, nameOf metadata)

theorem isNamed_iff {name : Option String} {space : String} {metadata : Option Meta} :
    isNamed name space metadata = true ↔ identity metadata = (some space, name) := by
  simp [isNamed, identity, and_comm]

/-- No two services and no two endpoints have one namespace and name. -/
structure Store.Distinct (store : Store) : Prop where
  services : ((store.services.filterMap id).map (identity ·.metadata)).Nodup
  endpoints : ((store.endpoints.filterMap id).map (identity ·.metadata)).Nodup

theorem those_single {metadata : α → Option Meta} {name : Option String} {space : String}
    (distinct : ((objects.filterMap id).map (identity <| metadata ·)).Nodup) :
    (those (isNamed name space <| metadata ·) objects).length ≤ 1 := by
  have nodup := distinct.sublist (List.Sublist.map _ (List.filter_sublist (p := (isNamed name space <| metadata ·))))
  have named : ∀ object ∈ those (isNamed name space <| metadata ·) objects,
      identity (metadata object) = (some space, name) :=
    fun object member => isNamed_iff.mp (List.mem_filter.mp member).2
  change ((those (isNamed name space <| metadata ·) objects).map (identity <| metadata ·)).Nodup at nodup
  generalize those (isNamed name space <| metadata ·) objects = found at named nodup ⊢
  match found with
  | [] | [_] => simp
  | first :: second :: rest => simp [named first, named second] at nodup

end ElasticEndpoint.Cluster
