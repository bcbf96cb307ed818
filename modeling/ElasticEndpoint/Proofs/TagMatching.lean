import ElasticEndpoint.Proofs.LookupActs

/-!
Matching by tags. A resolution asks for the set of the tags that are not empty, and gives the first reservation of
one listing that carries all of them. So neither the order of the tags matters, nor what does not match.
-/

namespace ElasticEndpoint

namespace Reservation

variable {tags more : List String} {listing other : List Reservation} {reservation : Reservation}

/-- A reservation of a listing that carries all of some tags, where none before it does. -/
def IsFirst (tags : List String) (listing : List Reservation) (reservation : Reservation) : Prop :=
  ∃ before behind, listing = before ++ reservation :: behind ∧ tags ⊆ reservation.tags ∧
    ∀ other ∈ before, ¬tags ⊆ other.tags

/-- Where the reservation stands that is found, or where the listing ends. -/
def place (tags : List String) (listing : List Reservation) : Nat := listing.findIdx (·.hasAllTags tags)

theorem hasAllTags_iff : reservation.hasAllTags tags = true ↔ tags ⊆ reservation.tags := by
  simp only [hasAllTags, List.all_eq_true, List.contains_iff_mem]
  rfl

/-- Whoever carries more tags carries fewer. -/
theorem hasAllTags_mono (fewer : tags ⊆ more) (carries : reservation.hasAllTags more = true) :
    reservation.hasAllTags tags = true :=
  hasAllTags_iff.mpr (List.Subset.trans fewer (hasAllTags_iff.mp carries))

theorem firstWith_eq_some_iff : firstWith tags listing = some reservation ↔ IsFirst tags listing reservation := by
  unfold firstWith IsFirst
  rw [List.find?_eq_some_iff_append, hasAllTags_iff]
  constructor
  · rintro ⟨found, before, behind, rfl, others⟩
    refine ⟨before, behind, rfl, found, fun other member matched => ?_⟩
    simpa [hasAllTags_iff.mpr matched] using others other member
  · rintro ⟨before, behind, rfl, found, others⟩
    refine ⟨found, before, behind, rfl, fun other member => ?_⟩
    simpa [← hasAllTags_iff] using others other member

theorem firstWith_eq_none_iff : firstWith tags listing = none ↔ ∀ other ∈ listing, ¬tags ⊆ other.tags := by
  simp only [firstWith, List.find?_eq_none, hasAllTags_iff]

/-- The order of tags and their repetitions do not matter. -/
theorem firstWith_congr (fewer : tags ⊆ more) (others : more ⊆ tags) : firstWith tags = firstWith more := by
  have carries (reservation : Reservation) : reservation.hasAllTags tags = reservation.hasAllTags more :=
    Bool.eq_iff_iff.mpr ⟨hasAllTags_mono others, hasAllTags_mono fewer⟩
  funext listing
  simp only [firstWith, carries]

private theorem firstWith_place : firstWith tags listing = listing[place tags listing]? := List.find?_eq_getElem?_findIdx

/-- More tags are never found earlier. -/
theorem place_mono (fewer : tags ⊆ more) : place tags listing ≤ place more listing := by
  unfold place
  induction listing with
  | nil => exact Nat.le_refl _
  | cons reservation rest ih =>
    have carries : reservation.hasAllTags more = true → reservation.hasAllTags tags = true := hasAllTags_mono fewer
    rw [List.findIdx_cons, List.findIdx_cons]
    cases few : reservation.hasAllTags tags with
    | true => exact Nat.zero_le _
    | false =>
      cases many : reservation.hasAllTags more with
      | true =>
        rw [carries many] at few
        cases few
      | false => exact Nat.succ_le_succ ih

theorem firstWith_append (tags : List String) (first rest : List Reservation) :
    firstWith tags (first ++ rest) = (firstWith tags first).or (firstWith tags rest) := List.find?_append

/-- Only the reservations that match decide which of them is found. -/
theorem firstWith_matching
    (same : listing.filter (·.hasAllTags tags) = other.filter (·.hasAllTags tags)) :
    firstWith tags listing = firstWith tags other := by
  have matching (listing : List Reservation) :
      firstWith tags (listing.filter (·.hasAllTags tags)) = firstWith tags listing := by
    simp only [firstWith, List.find?_filter, and_self, Bool.decide_eq_true]
  rw [← matching, same, matching]

private theorem firstWith_insert {between : List Reservation} (unmatched : ∀ other ∈ between, ¬tags ⊆ other.tags)
    (before behind : List Reservation) :
    firstWith tags (before ++ between ++ behind) = firstWith tags (before ++ behind) := by
  apply firstWith_matching
  have refused : between.filter (·.hasAllTags tags) = [] :=
    List.filter_eq_nil_iff.mpr fun other member carries => unmatched other member (hasAllTags_iff.mp carries)
  rw [List.filter_append, List.filter_append, refused, List.append_nil, List.filter_append]

end Reservation

namespace Resolver

open Reservation (IsFirst firstWith place)

/-- How resolutions depend on the tags that are asked for and on what is listed. -/
structure Selects (project : String) : Prop where
  alike : ∀ {tags more : List String}, (∀ tag, tag ≠ "" → (tag ∈ tags ↔ tag ∈ more)) → ∀ acts result,
    Job.Does (resolve project tags) acts result ↔ Job.Does (resolve project more) acts result
  untagged : ∀ {tags acts result}, Job.Does (resolve project tags) acts result →
    (acts = [] ∧ result = .error (.problem .noTag) ↔ ∀ tag ∈ tags, tag = "")
  listed : ∀ {tags acts result}, (∃ tag ∈ tags, tag ≠ "") →
    (Job.Does (resolve project tags) acts result ↔
      ∃ reply, acts = [.metal (.list project true) reply] ∧ result = reply.map (firstWith (wanted tags)))
  first : ∀ {tags listing reservation}, firstWith tags listing = some reservation ↔ IsFirst tags listing reservation
  none : ∀ {tags listing}, firstWith tags listing = none ↔ ∀ other ∈ listing, ¬tags ⊆ other.tags
  parts : ∀ tags first rest, firstWith tags (first ++ rest) = (firstWith tags first).or (firstWith tags rest)
  placed : ∀ {tags listing}, firstWith tags listing = listing[place tags listing]?
  later : ∀ {tags more listing}, tags ⊆ more → place tags listing ≤ place more listing ∧
    place (wanted tags) listing ≤ place (wanted more) listing
  others : ∀ {tags between}, (∀ other ∈ between, ¬tags ⊆ other.tags) → ∀ before behind,
    firstWith tags (before ++ between ++ behind) = firstWith tags (before ++ behind)

variable {tags more : List String}

private theorem mem_wanted {tag : String} : tag ∈ wanted tags ↔ tag ≠ "" ∧ tag ∈ tags := by
  simp [wanted, and_comm]

theorem wanted_eq_nil_iff : wanted tags = [] ↔ ∀ tag ∈ tags, tag = "" := by
  simp [wanted]

theorem wanted_mono (fewer : ∀ tag ∈ tags, tag ≠ "" → tag ∈ more) : wanted tags ⊆ wanted more := by
  intro tag asked
  obtain ⟨named, member⟩ := mem_wanted.mp asked
  exact mem_wanted.mpr ⟨named, fewer tag member named⟩

/-- A resolution depends on the set of the tags asked for only, and gives the first match of one listing. -/
theorem selects (project : String) : Selects project where
  alike := by
    intro tags more same acts result
    have fewer := wanted_mono fun tag member named => (same tag named).mp member
    have others := wanted_mono fun tag member named => (same tag named).mpr member
    have blank : wanted tags = [] ↔ wanted more = [] := by
      constructor
      · exact fun none => List.subset_nil.mp (none ▸ others)
      · exact fun none => List.subset_nil.mp (none ▸ fewer)
    rw [does_resolve, does_resolve, Reservation.firstWith_congr fewer others]
    simp only [blank]
  untagged := by
    intro tags acts result done
    rw [does_resolve] at done
    rw [← wanted_eq_nil_iff]
    split at done
    next blank => exact iff_of_true done blank
    next asked =>
      obtain ⟨reply, rfl, -⟩ := done
      exact iff_of_false (fun none => List.cons_ne_nil _ _ none.1) asked
  listed := by
    rintro tags acts result ⟨tag, member, named⟩
    rw [does_resolve, if_neg]
    exact fun blank => named (wanted_eq_nil_iff.mp blank tag member)
  first := Reservation.firstWith_eq_some_iff
  none := Reservation.firstWith_eq_none_iff
  parts := Reservation.firstWith_append
  placed := Reservation.firstWith_place
  later fewer := ⟨Reservation.place_mono fewer, Reservation.place_mono (wanted_mono fun _ member _ => fewer member)⟩
  others := Reservation.firstWith_insert

end Resolver

end ElasticEndpoint
