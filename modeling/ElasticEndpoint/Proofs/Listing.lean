import Mathlib.Data.Nat.Find
import ElasticEndpoint.Proofs.ClientActs
import ElasticEndpoint.Proofs.LookupActs

/-!
Listings page by page. A listing asks for one page after another and ends at the first page that fails or is not
below the last page that it names itself. So the bound is read anew from every page, and a listing ends if the
pages do not put it off for ever.
-/

namespace ElasticEndpoint.Metal

/-- A page of a listing: its reservations, and the last page that it names. -/
structure Page where
  reservations : List Reservation
  last : Int
  deriving DecidableEq

/-- The last page named by a number; a page that leaves the number out, or gives zero, names the first. -/
def lastNamed? : Value → Option Int
  | .null => some 1
  | .int n => some (if n = 0 then 1 else n)
  | _ => none

/-- The items of a page, which it may leave out. -/
def pageItems? (entries : List (Value × Value)) : Option (List Value) :=
  match Value.lookup (.text "ip_addresses") entries with
  | none => some []
  | some (.list items) => some items
  | some _ => none

/-- What a page says about the listing, which it may leave out. -/
def pageNotes? (entries : List (Value × Value)) : Option (List (Value × Value)) :=
  match Value.lookup (.text "meta") entries with
  | none | some .null => some []
  | some (.map notes) => some notes
  | some _ => none

/-- The page that a well-formed answer is. An answer without content is a page without entries. -/
def page? (answer : Value) : Option Page := do
  let entries ← match answer with
    | .null => some []
    | .map entries => some entries
    | _ => none
  let reservations ← ((← pageItems? entries).mapM reservationOf).toOption
  let notes ← pageNotes? entries
  return ⟨reservations, ← lastNamed? ((Value.lookup (.text "last_page") notes).getD .null)⟩

private theorem isLastPage_of_named {last : Value} {named : Int} (names : lastNamed? last = some named) (page : Nat) :
    isLastPage page last = .ok (decide (named ≤ page)) := by
  cases last with
  | null =>
    cases names
    simp only [isLastPage, Value.truthy, Bool.not_false, ↓reduceIte, pure, Except.pure]
    norm_cast
  | int n =>
    by_cases zero : n = 0
    · subst zero
      cases names
      simp only [isLastPage, Value.truthy, bne_self_eq_false, Bool.not_false, ↓reduceIte, pure, Except.pure]
      norm_cast
    · simp only [lastNamed?, zero, ↓reduceIte, Option.some.injEq] at names
      subst names
      simp [isLastPage, Value.truthy, zero, pure, Except.pure]
  | _ => cases names

private theorem optionalInner_of_notes {entries notes : List (Value × Value)} (noted : pageNotes? entries = some notes) :
    optionalInner "meta" "last_page" (.map entries) =
      .ok ((Value.lookup (.text "last_page") notes).getD .null) := by
  unfold pageNotes? at noted
  simp only [optionalInner, optionalPart, bind, Except.bind]
  rcases under : Value.lookup (.text "meta") entries with _ | value
  · simp only [under, Option.some.injEq] at noted
    subst noted
    rfl
  · cases value with
    | null =>
      simp only [under, Option.some.injEq] at noted
      subst noted
      rfl
    | map fields =>
      simp only [under, Option.some.injEq] at noted
      subst noted
      cases fields <;> rfl
    | _ => simp [under] at noted

/-- A well-formed answer is read as the page that it is, and as the last if it names none further on. -/
theorem pageOf_of_page {answer : Value} {page : Page} (formed : page? answer = some page) (number : Nat) :
    pageOf number answer = .ok (page.reservations, decide (page.last ≤ number)) := by
  have read (entries : List (Value × Value))
      (found : (do
        let reservations ← ((← pageItems? entries).mapM reservationOf).toOption
        let notes ← pageNotes? entries
        return (⟨reservations, ← lastNamed? ((Value.lookup (.text "last_page") notes).getD .null)⟩ : Page)) = some page) :
      pageOf number (.map entries) = .ok (page.reservations, decide (page.last ≤ number)) := by
    obtain ⟨items, listed, found⟩ := Option.bind_eq_some_iff.mp found
    obtain ⟨reservations, parsed, found⟩ := Option.bind_eq_some_iff.mp found
    obtain ⟨notes, noted, found⟩ := Option.bind_eq_some_iff.mp found
    obtain ⟨last, named, found⟩ := Option.bind_eq_some_iff.mp found
    cases found
    have parts : partsOf ((Value.lookup (.text "ip_addresses") entries).getD (.list [])) = .ok items := by
      unfold pageItems? at listed
      split at listed
      next left => simp_all [partsOf]
      next given => simp_all [partsOf]
      next => cases listed
    have parsed : items.mapM reservationOf = .ok reservations := by
      cases read : items.mapM reservationOf with
      | error crash => simp [read, Except.toOption] at parsed
      | ok value => simpa [read, Except.toOption] using parsed
    unfold pageOf
    have same : (if (Value.map entries).truthy = true then Value.map entries else .map []) = .map entries := by
      cases entries <;> rfl
    simp only [same, parts, parsed, optionalInner_of_notes noted, isLastPage_of_named named, bind, Except.bind, pure,
      Except.pure]
  cases answer with
  | null => exact read [] formed
  | map entries => exact read entries formed
  | _ => cases formed

/-- The pages that a server has under their numbers, or what asking for them fails with. -/
abbrev Book := Nat → Except Problem Page

namespace Book

variable (book : Book)

/-- A listing stops at a page that fails, and at one that names no page further on. -/
def Stops (number : Nat) : Prop := ∀ page, book number = .ok page → page.last ≤ number

/-- The first page at which a listing stops. -/
structure EndsAt (last : Nat) : Prop where
  counted : 1 ≤ last
  stops : book.Stops last
  first : ∀ number, 1 ≤ number → number < last → ¬book.Stops number

/-- The reservations of a page; one that fails has none. -/
def reservations (number : Nat) : List Reservation :=
  match book number with
  | .ok page => page.reservations
  | .error _ => []

/-- The reservations of some pages that follow one another. -/
def gathered (first count : Nat) : List Reservation := (List.range' first count).flatMap book.reservations

/-- What a listing that ends at a page comes to: everything up to there, or the problem of that page. -/
def through (last : Nat) : Except Problem (List Reservation) := (book last).map fun _ => book.gathered 1 last

variable {book}

private theorem ends_of_stops {number : Nat} (counted : 1 ≤ number) (stops : book.Stops number) :
    ∃ last ≤ number, book.EndsAt last := by
  classical
  have stopping : ∃ other, 1 ≤ other ∧ book.Stops other := ⟨number, counted, stops⟩
  have found := Nat.find_spec stopping
  refine ⟨Nat.find stopping, Nat.find_min' stopping ⟨counted, stops⟩, found.1, found.2, ?_⟩
  intro other counted before stopped
  exact Nat.find_min stopping before ⟨counted, stopped⟩

/-- A listing does not put off its end beyond a bound on the pages named. -/
theorem ends_of_bounded {bound : Nat} (bounded : ∀ number page, 1 ≤ number → book number = .ok page → page.last ≤ bound) :
    ∃ last ≤ max 1 bound, book.EndsAt last := by
  refine ends_of_stops (by omega) fun page shown => ?_
  have below := bounded (max 1 bound) page (by omega) shown
  omega

/-- If all pages name the same last page, a listing ends there. -/
theorem ends_of_agreeing {last : Int}
    (agree : ∀ number, 1 ≤ number → ∃ reservations, book number = .ok ⟨reservations, last⟩) :
    book.EndsAt (max 1 last.toNat) := by
  constructor
  · omega
  · intro page shown
    obtain ⟨reservations, same⟩ := agree (max 1 last.toNat) (by omega)
    rw [same] at shown
    cases shown
    dsimp only
    omega
  · intro number counted before stopping
    obtain ⟨reservations, same⟩ := agree number counted
    have below : last ≤ number := stopping _ same
    omega

end Book

namespace Client

variable {client : Client} {project : String} {withAssignments : Bool} {server : Nat → Http.Outcome} {book : Book}

/-- What a server replies to the request for a page is a well-formed page, or a failure. -/
inductive Shows (project : String) (outcome : Http.Outcome) : Except Problem Page → Prop where
  | page {answer page} (replied : replyOf (callName .get s!"/projects/{project}/ips") outcome = .ok answer)
      (formed : page? answer = some page) : Shows project outcome (.ok page)
  | failure {problem} (failed : replyOf (callName .get s!"/projects/{project}/ips") outcome = .error (.problem problem)) :
      Shows project outcome (.error problem)

private theorem pageIn_of_shows {outcome : Http.Outcome} {shown : Except Problem Page} (shows : Shows project outcome shown)
    (number : Nat) :
    pageIn project number outcome =
      (shown.mapError Failure.problem).map fun page => (page.reservations, decide (page.last ≤ (number : Int))) := by
  unfold pageIn
  cases shows with
  | page replied formed =>
    rw [replied]
    simp only [Except.bind, pageOf_of_page formed, mapError_ok, Except.map]
  | failure failed =>
    rw [failed]
    rfl

/-- A failure of a request is a problem of the interface. -/
theorem isMetal_of_shows {outcome : Http.Outcome} {problem : Problem} (shows : Shows project outcome (.error problem)) :
    ∃ status, problem.family = .metal status := by
  obtain _ | failed := shows
  unfold replyOf bodyOf at failed
  split at failed
  · cases failed
  · cases failed
    exact ⟨_, rfl⟩
  · split at failed
    · split at failed
      · cases failed
      · split at failed
        · cases failed
        · cases failed
        · cases failed
          exact ⟨_, rfl⟩
    · cases failed
      exact ⟨_, rfl⟩

/-- The requests for some pages that follow one another, with the replies of a server. -/
def asked (client : Client) (project : String) (withAssignments : Bool) (server : Nat → Http.Outcome)
    (first count : Nat) : List Act :=
  (List.range' first count).map fun number =>
    .http (client.pageRequest project withAssignments number) (server number)

/-- Acts in which the requests for pages got the replies of a server. -/
def RepliedBy (client : Client) (project : String) (withAssignments : Bool) (server : Nat → Http.Outcome)
    (acts : List Act) : Prop :=
  ∀ number outcome, .http (client.pageRequest project withAssignments number) outcome ∈ acts → outcome = server number

/-- One page of a listing: it ends there if it stops, and otherwise goes on with what the page has in hand. -/
theorem page_step (shows : ∀ number, 1 ≤ number → Shows project (server number) (book number)) {left number : Nat}
    {acts : List Act} {result : Except Failure (List Reservation)} (counted : 1 ≤ number)
    (done : Job.Does (client.pagesFrom project withAssignments (left + 1) number) acts result)
    (replied : RepliedBy client project withAssignments server acts) :
    (book.Stops number ∧ acts = client.asked project withAssignments server number 1 ∧
      result = ((book number).map Page.reservations).mapError .problem) ∨
    (¬book.Stops number ∧ ∃ rest others,
      acts = client.asked project withAssignments server number 1 ++ rest ∧
      Job.Does (client.pagesFrom project withAssignments left (number + 1)) rest others ∧
      RepliedBy client project withAssignments server rest ∧
      result = others.map (book.reservations number ++ ·)) := by
  obtain ⟨outcome, rest, rfl, later⟩ := does_pagesFrom.mp done
  obtain rfl : outcome = server number := replied number outcome List.mem_cons_self
  rw [pageIn_of_shows (shows number counted)] at later
  cases shown : book number with
  | error problem =>
    simp only [shown, mapError_error, Except.map] at later
    obtain ⟨rfl, rfl⟩ := later
    exact .inl ⟨fun page given => by simp [shown] at given, rfl, rfl⟩
  | ok page =>
    by_cases final : page.last ≤ number
    · simp only [shown, mapError_ok, Except.map, final, decide_true] at later
      obtain ⟨rfl, rfl⟩ := later
      refine .inl ⟨fun other given => ?_, rfl, rfl⟩
      rw [shown] at given
      cases given
      exact final
    · simp only [shown, mapError_ok, Except.map, final, decide_false] at later
      obtain ⟨others, more, rfl⟩ := later
      refine .inr ⟨fun stops => final (stops page shown), rest, others, rfl, more, ?_, ?_⟩
      · exact fun other outcome member => replied other outcome (List.mem_cons_of_mem _ member)
      · simp only [Book.reservations, shown]
        rfl

theorem asked_cons (first count : Nat) :
    client.asked project withAssignments server first 1 ++ client.asked project withAssignments server (first + 1) count =
      client.asked project withAssignments server first (count + 1) := by
  simp only [asked, ← List.map_append]
  rw [Nat.add_comm count 1, ← List.range'_append_1]

/-- From a page on, a listing asks up to the first page at which it stops, if it has the patience for it. -/
theorem pages_until (shows : ∀ number, 1 ≤ number → Shows project (server number) (book number))
    {left number count : Nat} {acts : List Act} {result : Except Failure (List Reservation)} (counted : 1 ≤ number)
    (done : Job.Does (client.pagesFrom project withAssignments left number) acts result)
    (replied : RepliedBy client project withAssignments server acts)
    (goesOn : ∀ other, number ≤ other → other < number + count → ¬book.Stops other) (stops : book.Stops (number + count))
    (patient : count < left) :
    acts = client.asked project withAssignments server number (count + 1) ∧
      result = ((book (number + count)).map fun _ => book.gathered number (count + 1)).mapError .problem := by
  -- Every page before the last goes on, so the pages left to the end and the patience shrink together.
  induction count generalizing left number acts result with
  | zero =>
    obtain ⟨left, rfl⟩ : ∃ fewer, left = fewer + 1 := ⟨left - 1, by omega⟩
    rcases page_step shows counted done replied with ⟨-, rfl, rfl⟩ | ⟨stays, -⟩
    · refine ⟨rfl, ?_⟩
      cases shown : book number <;> simp [shown, Except.map, Book.gathered, Book.reservations]
    · exact absurd stops stays
  | succ count ih =>
    obtain ⟨left, rfl⟩ : ∃ fewer, left = fewer + 1 := ⟨left - 1, by omega⟩
    rcases page_step shows counted done replied with ⟨halts, -⟩ | ⟨-, rest, others, rfl, more, told, rfl⟩
    · exact absurd halts (goesOn number (by omega) (by omega))
    · have shift : number + (count + 1) = number + 1 + count := by omega
      rw [shift] at goesOn stops
      obtain ⟨rfl, rfl⟩ := ih (by omega) more told (fun other behind before => goesOn other (by omega) before) stops (by omega)
      rw [asked_cons, shift]
      refine ⟨rfl, ?_⟩
      cases book (number + 1 + count) <;> simp [Except.map, Book.gathered, List.range'_succ]

/-- A listing that meets no page at which it stops asks for as many pages as it has the patience for. -/
theorem pages_endless (shows : ∀ number, 1 ≤ number → Shows project (server number) (book number))
    {left number : Nat} {acts : List Act} {result : Except Failure (List Reservation)} (counted : 1 ≤ number)
    (done : Job.Does (client.pagesFrom project withAssignments left number) acts result)
    (replied : RepliedBy client project withAssignments server acts)
    (goesOn : ∀ other, number ≤ other → other < number + left → ¬book.Stops other) :
    acts = client.asked project withAssignments server number left ∧ result = .error (.crash .endless) := by
  induction left generalizing number acts result with
  | zero => exact Job.does_crash.mp done
  | succ left ih =>
    rcases page_step shows counted done replied with ⟨halts, -⟩ | ⟨-, rest, others, rfl, more, told, rfl⟩
    · exact absurd halts (goesOn number (by omega) (by omega))
    · obtain ⟨rfl, rfl⟩ := ih (by omega) more told fun other behind before => goesOn other (by omega) (by omega)
      rw [asked_cons]
      exact ⟨rfl, rfl⟩

/-- In all surroundings that reply to the requests for pages as a server does, a job does some acts and ends in a
result. -/
def Yields {α : Type} (client : Client) (project : String) (withAssignments : Bool) (server : Nat → Http.Outcome)
    (job : Job α) (acts : List Act) (result : Except Failure α) : Prop :=
  ∀ ⦃σ : Type⦄ (answer : (request : Request) → σ → request.Reply × σ) (state : σ),
    (∀ number state, (answer (.http (client.pageRequest project withAssignments number)) state).1 = server number) →
      (job.run answer state).1 = result ∧ (job.history answer state).filter (!·.request.isLog) = acts

private theorem yields_of_does {α : Type} {job : Job α} {acts : List Act} {result : Except Failure α}
    (only : ∀ did ended, Job.Does job did ended → RepliedBy client project withAssignments server did →
      did = acts ∧ ended = result) :
    Yields client project withAssignments server job acts result := by
  intro σ answer state replies
  have does : Job.Does job ((job.history answer state).filter (!·.request.isLog)) (job.run answer state).1 :=
    ⟨_, Program.ends_history answer job state, rfl⟩
  have replied : RepliedBy client project withAssignments server
      ((job.history answer state).filter (!·.request.isLog)) := by
    intro number outcome member
    obtain ⟨moment, told⟩ := Program.replied_history answer job state _ (List.mem_filter.mp member).1
    exact told.trans (replies number moment)
  obtain ⟨acts, ended⟩ := only _ _ does replied
  exact ⟨ended, acts⟩

private theorem yields_list (shows : ∀ number, 1 ≤ number → Shows project (server number) (book number)) {last : Nat}
    (ends : book.EndsAt last) (patient : last ≤ client.pageLimit) :
    Yields client project withAssignments server (client.list project withAssignments)
      (client.asked project withAssignments server 1 last) ((book.through last).mapError .problem) := by
  apply yields_of_does
  intro did ended done replied
  obtain ⟨count, rfl⟩ : ∃ count, last = 1 + count := ⟨last - 1, by have := ends.counted; omega⟩
  rw [Book.through, Nat.add_comm 1 count]
  rw [Nat.add_comm] at patient
  have found := pages_until shows (Nat.le_refl 1) (does_list.mp done) replied ends.first ends.stops patient
  rwa [Nat.add_comm 1 count] at found

/-- Resolving through the client lists once, and takes the first reservation with every tag that counts. -/
theorem yields_resolve (shows : ∀ number, 1 ≤ number → Shows project (server number) (book number)) {last : Nat}
    (ends : book.EndsAt last) (patient : last ≤ client.pageLimit) {tags : List String}
    (tagged : Resolver.wanted tags ≠ []) :
    Yields client project true server (client.connect (Resolver.resolve project tags))
      (client.asked project true server 1 last)
      (((book.through last).map (Reservation.firstWith (Resolver.wanted tags))).mapError .problem) := by
  apply yields_of_does
  intro did ended done replied
  obtain ⟨before, resolved, served⟩ := does_connect.mp done
  rw [Resolver.does_resolve, if_neg tagged] at resolved
  obtain ⟨reply, rfl, rfl⟩ := resolved
  obtain ⟨asked, after, rfl, listed, others⟩ := served_metal.mp served
  obtain rfl := served_nil.mp others
  rw [List.append_nil] at replied ⊢
  obtain ⟨count, rfl⟩ : ∃ count, last = 1 + count := ⟨last - 1, by have := ends.counted; omega⟩
  rw [Nat.add_comm] at patient
  obtain ⟨rfl, rfl⟩ := pages_until shows (Nat.le_refl 1) (does_list.mp listed) replied ends.first ends.stops patient
  rw [Book.through, Nat.add_comm 1 count]
  refine ⟨rfl, ?_⟩
  cases book (count + 1) <;> rfl

/-- What listing a server comes to that has the pages of a book. -/
structure Enumerates (client : Client) (project : String) (withAssignments : Bool) (server : Nat → Http.Outcome)
    (book : Book) : Prop where
  /-- The pages up to the first at which a listing stops are asked for once each, in order, and a listing comes to
  all that is on them, or to the problem of the last of them. -/
  ended : ∀ last, book.EndsAt last → last ≤ client.pageLimit →
    Yields client project withAssignments server (client.list project withAssignments)
      (client.asked project withAssignments server 1 last) ((book.through last).mapError .problem)
  bounded : ∀ bound : Nat, (∀ number page, 1 ≤ number → book number = .ok page → page.last ≤ bound) →
    ∃ last ≤ max 1 bound, book.EndsAt last
  /-- Only the patience of the client ends a listing whose pages always name another one. -/
  endless : (∀ last ≤ client.pageLimit, ¬book.EndsAt last) →
    Yields client project withAssignments server (client.list project withAssignments)
      (client.asked project withAssignments server 1 client.pageLimit) (.error (.crash .endless))
  failed : ∀ number problem, 1 ≤ number → book number = .error problem → ∃ status, problem.family = .metal status
  /-- If all pages name the same last page, it does not matter how they share the items. -/
  agreed : ∀ (last : Int) (items : List Reservation),
    (∀ number, 1 ≤ number → ∃ reservations, book number = .ok ⟨reservations, last⟩) →
    book.gathered 1 (max 1 last.toNat) = items → max 1 last.toNat ≤ client.pageLimit →
      Yields client project withAssignments server (client.list project withAssignments)
        (client.asked project withAssignments server 1 (max 1 last.toNat)) (.ok items) ∧
      (withAssignments = true → ∀ tags, Resolver.wanted tags ≠ [] →
        Yields client project true server (client.connect (Resolver.resolve project tags))
          (client.asked project true server 1 (max 1 last.toNat))
          (.ok (Reservation.firstWith (Resolver.wanted tags) items)))

/-- The pages of a server are listed whatever it names as its last page, and however often it changes its mind. -/
theorem enumerates (shows : ∀ number, 1 ≤ number → Shows project (server number) (book number)) :
    client.Enumerates project withAssignments server book := by
  constructor
  · intro last ends patient
    exact yields_list shows ends patient
  · intro bound bounded
    exact Book.ends_of_bounded bounded
  · intro unending
    apply yields_of_does
    intro did ended done replied
    refine pages_endless shows (Nat.le_refl 1) (does_list.mp done) replied ?_
    intro number counted within stops
    -- The first page at which a listing stops is not behind the one at which it does.
    obtain ⟨last, below, ends⟩ := Book.ends_of_stops counted stops
    exact unending last (by omega) ends
  · intro number problem counted shown
    have told := shows number counted
    rw [shown] at told
    exact isMetal_of_shows told
  · intro last items agree gathered patient
    have ends := Book.ends_of_agreeing agree
    obtain ⟨reservations, shown⟩ := agree (max 1 last.toNat) (by omega)
    have through : book.through (max 1 last.toNat) = .ok items := by
      rw [Book.through, shown, gathered]
      rfl
    constructor
    · have listed : Yields client project withAssignments server (client.list project withAssignments) _ _ :=
        yields_list shows ends patient
      rwa [through] at listed
    · rintro rfl tags tagged
      have resolved := yields_resolve shows ends patient tagged
      rwa [through] at resolved

def waveringText (id last : String) : String :=
  "\x7b\"ip_addresses\": [\x7b\"id\": \"" ++ id ++ "\", \"address\": \"1.2.3.4\"\x7d], \"meta\": \x7b\"last_page\": " ++
    last ++ "\x7d\x7d"

/-- A server that puts its last page off twice, and then fails. -/
def wavering : Nat → Http.Outcome
  | 1 => .answered 200 ((waveringText "first" "2").toList.map fun c => UInt8.ofNat c.toNat)
  | 2 => .answered 200 ((waveringText "second" "3").toList.map fun c => UInt8.ofNat c.toNat)
  | _ => .failed "ConnectTimeout" "timed out"

def waveringBook : Book
  | 1 => .ok ⟨[⟨"first", "1.2.3.4", [], []⟩], 2⟩
  | 2 => .ok ⟨[⟨"second", "1.2.3.4", [], []⟩], 3⟩
  | _ => .error (.metal "Metal API request GET /projects/project/ips failed" (some "timed out"))

theorem enumerates_wavering :
    (∀ number, 1 ≤ number → Shows "project" (wavering number) (waveringBook number)) ∧
      (Client.make "key" "https://api" none 5).Enumerates "project" true wavering waveringBook ∧
      waveringBook.EndsAt 3 := by
  have read (project : String) (number : Nat) (page : Page)
      (formed : (replyOf (callName .get s!"/projects/{project}/ips") (wavering number)).toOption.bind page? = some page) :
      Shows project (wavering number) (.ok page) := by
    cases told : replyOf (callName .get s!"/projects/{project}/ips") (wavering number) with
    | error failure => simp [told, Except.toOption] at formed
    | ok answer => exact .page told (by simpa [told, Except.toOption] using formed)
  have shows : ∀ number, 1 ≤ number → Shows "project" (wavering number) (waveringBook number)
    | 1, _ => read "project" 1 _ (by decide +kernel)
    | 2, _ => read "project" 2 _ (by decide +kernel)
    | _ + 3, _ => .failure rfl
  refine ⟨shows, enumerates shows, by omega, nofun, ?_⟩
  intro number counted before stops
  obtain rfl | rfl : number = 1 ∨ number = 2 := by omega
  · exact absurd (stops _ rfl) (by decide)
  · exact absurd (stops _ rfl) (by decide)

end Client

end ElasticEndpoint.Metal
