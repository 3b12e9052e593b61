import Footage.Feed.Json
import Footage.Proofs.Outcome
import Footage.Proofs.Stored.Text

/-!
# Malformed entries of blogs

A page of a blog as JSON has an envelope, which holds the entries and the links of the page, and is
sound if the links can be followed. On a page with a sound envelope it is the entries alone that
decide whether the page can be read: a malformed one is not skipped but fails the whole page, the
other entries and the next page with it.

## Main definitions

* `Page.IsEntry`: what an entry must look like.
* `Page.IsEnvelope`: a body with a sound envelope around some elements in the place of entries.

## Main results

* `Page.isSome_postOfJson?_iff`: an element is decoded exactly if it is an entry.
* `Page.IsEnvelope.ofJson_of_forall` and `Page.IsEnvelope.ofJson_of_exists`: what a sound envelope
  is read as.
* `Page.ofJson_skips_iff`: malformed elements are skipped only where there are none.
-/

namespace Footage

/-! ## Decoding -/

namespace Json

variable {α β : Type}

/-- Two look-ups succeed exactly if the first does and the second does with its value. -/
theorem isSome_bind_iff {first : Option α} {next : α → Option β} :
    (first >>= next).isSome ↔ ∃ value, first = some value ∧ (next value).isSome := by
  cases first <;> simp

/-- Items of which all are decoded give their values, in order. -/
theorem mapM_eq_some_filterMap {decode : α → Option β} {items : List α}
    (h : ∀ item ∈ items, (decode item).isSome) :
    items.mapM decode = some (items.filterMap decode) := by
  induction items with
  | nil => rfl
  | cons item items ih =>
    obtain ⟨hitem, hrest⟩ := List.forall_mem_cons.1 h
    obtain ⟨value, hvalue⟩ := Option.isSome_iff_exists.1 hitem
    rw [List.mapM_cons, ih hrest, List.filterMap_cons_some hvalue, hvalue]
    rfl

/-- One item that is not decoded fails all items. -/
theorem mapM_eq_none {decode : α → Option β} {items : List α} {item : α} (hitem : item ∈ items)
    (h : decode item = none) : items.mapM decode = none := by
  induction items with
  | nil => cases hitem
  | cons first items ih =>
    rw [List.mapM_cons]
    rcases List.mem_cons.1 hitem with rfl | hrest
    · rw [h]
      rfl
    · rw [ih hrest]
      cases decode first <;> rfl

/-- A string is decoded as its text. -/
theorem text?_eq_some_iff {json : Json} {text : String} :
    json.text? = some text ↔ json = string text := by
  cases json <;> simp [text?]

/-- Only strings are decoded as texts. -/
theorem isSome_text?_iff {json : Json} : json.text?.isSome ↔ ∃ text, json = string text := by
  rw [Option.isSome_iff_exists]
  exact exists_congr fun _ => text?_eq_some_iff

variable {decode : Json → Option α}

/-- An array is decoded exactly if all its elements are. -/
theorem isSome_list?_iff {json : Json} : (list? decode json).isSome ↔
    ∃ elements, json = array elements ∧ ∀ element ∈ elements, (decode element).isSome := by
  constructor
  · intro h
    cases json with
    | array elements =>
      refine ⟨elements, rfl, fun element helement => ?_⟩
      cases hdecode : decode element with
      | some value => rfl
      | none =>
        rw [list?, mapM_eq_none helement hdecode] at h
        cases h
    | _ => cases h
  · rintro ⟨elements, rfl, hall⟩
    rw [list?, mapM_eq_some_filterMap hall]
    rfl

/-- A member that may be absent or null is decoded unless it holds what cannot be. -/
theorem isSome_optional?_iff {member : Option Json} : (optional? decode member).isSome ↔
    ∀ json ∈ member, json = null ∨ (decode json).isSome := by
  cases member with
  | none => simp [optional?]
  | some json => cases json <;> simp [optional?]

/-- A member that may be absent is decoded unless it holds what cannot be. -/
theorem isSome_orElse?_iff {value : α} {member : Option Json} :
    (orElse? value decode member).isSome ↔ ∀ json ∈ member, (decode json).isSome := by
  cases member <;> simp [orElse?]

end Json

namespace Page

/-! ## Entries -/

/-- The value is a text in its wrapping. -/
def IsWrapped (json : Json) : Prop :=
  ∃ member text, json.record? ["$t"] 1 = some member ∧ member "$t" = some (.string text)

/-- The value is a link, with its relation and its address. -/
def IsLink (json : Json) : Prop :=
  ∃ member relation address, json.record? ["rel", "href"] 2 = some member ∧
    member "rel" = some (.string relation) ∧ member "href" = some (.string address)

/-- The value is an entry. Its date and its content may be absent or null, and its links may be
absent. -/
def IsEntry (json : Json) : Prop :=
  ∃ member, json.record? ["published", "content", "link"] 0 = some member ∧
    (∀ value ∈ member "published", value = .null ∨ IsWrapped value) ∧
    (∀ value ∈ member "content", value = .null ∨ IsWrapped value) ∧
    ∀ value ∈ member "link", ∃ links, value = .array links ∧ ∀ link ∈ links, IsLink link

/-- A text is decoded exactly if it stands in its wrapping. -/
theorem isSome_wrappedText?_iff {json : Json} : (wrappedText? json).isSome ↔ IsWrapped json := by
  simp only [wrappedText?, Json.isSome_bind_iff, Json.isSome_text?_iff]
  constructor
  · rintro ⟨member, hmember, _, htext, text, rfl⟩
    exact ⟨member, text, hmember, htext⟩
  · rintro ⟨member, text, hmember, htext⟩
    exact ⟨member, hmember, _, htext, text, rfl⟩

/-- A link is decoded exactly if it has a relation and an address. -/
theorem Link.isSome_ofJson?_iff {json : Json} : (Link.ofJson? json).isSome ↔ IsLink json := by
  simp only [Link.ofJson?, Json.isSome_bind_iff, Json.text?_eq_some_iff]
  constructor
  · rintro ⟨member, hmember, _, hrelation, relation, rfl, _, haddress, address, rfl, -⟩
    exact ⟨member, relation, address, hmember, hrelation, haddress⟩
  · rintro ⟨member, relation, address, hmember, hrelation, haddress⟩
    exact ⟨member, hmember, _, hrelation, relation, rfl, _, haddress, address, rfl, rfl⟩

/-- Links are decoded exactly if they are absent, or an array of links. -/
theorem Link.isSome_listOfJson?_iff {member : Option Json} : (Link.listOfJson? member).isSome ↔
    ∀ value ∈ member, ∃ links, value = .array links ∧ ∀ link ∈ links, IsLink link := by
  simp only [Link.listOfJson?, Json.isSome_orElse?_iff, Json.isSome_list?_iff,
    Link.isSome_ofJson?_iff]

/-- An element is decoded exactly if it is an entry. -/
theorem isSome_postOfJson?_iff (page : Url) {json : Json} :
    (postOfJson? page json).isSome ↔ IsEntry json := by
  have hoptional : ∀ member : Option Json, (Json.optional? wrappedText? member).isSome ↔
      ∀ value ∈ member, value = .null ∨ IsWrapped value := by
    simp only [Json.isSome_optional?_iff, isSome_wrappedText?_iff, implies_true]
  rw [postOfJson?, Json.isSome_bind_iff]
  refine exists_congr fun member => and_congr_right fun _ => ?_
  rw [← hoptional, ← hoptional, ← Link.isSome_listOfJson?_iff]
  -- What is made of the three members is always a post.
  cases Json.optional? wrappedText? (member "published") <;>
    cases Json.optional? wrappedText? (member "content") <;>
    cases Link.listOfJson? (member "link") <;> simp

/-- What is no entry is not decoded. -/
theorem postOfJson?_eq_none {json : Json} (h : ¬IsEntry json) (page : Url) :
    postOfJson? page json = none := by
  rw [← isSome_postOfJson?_iff page] at h
  exact Option.not_isSome_iff_eq_none.1 h

/-- Whether a value is an entry is decided by decoding it, on whatever page. -/
instance (json : Json) : Decidable (IsEntry json) :=
  decidable_of_iff _ (isSome_postOfJson?_iff ⟨"", none, .bare "", none, none⟩)

/-! ## Pages -/

/-- The members of the feed in a body. -/
def feed? (text : String) : Option (String → Option Json) := do
  let outer ← Json.record? ["feed"] 1 (← Json.read? text.toList)
  Json.record? ["entry", "link"] 0 (← outer "feed")

/-- The body has a sound envelope around some elements in the place of entries: it has a feed, whose
entries are an array unless they are absent, and whose links can be read. The link to the next page,
if there is one, leads there. -/
def IsEnvelope (page : Url) (text : String) (elements : List Json) (next : Option Url) : Prop :=
  ∃ member links, feed? text = some member ∧
    (member "entry" = some (.array elements) ∨ member "entry" = none ∧ elements = []) ∧
    Link.listOfJson? (member "link") = some links ∧
    (Link.address? "next" links).mapM (follow "next link" page) = .ok next

namespace IsEnvelope

variable {page : Url} {text : String} {elements : List Json} {next : Option Url}

/-- The elements in a sound envelope are decoded one by one. -/
theorem ofJson_eq (h : IsEnvelope page text elements next) :
    ofJson page text =
      match elements.mapM (postOfJson? page) with
      | some posts => .ok ⟨posts, next⟩
      | none => .error .badJson := by
  obtain ⟨member, links, hfeed, hentry, hlinks, hnext⟩ := h
  have hposts : Json.orElse? [] (Json.list? (postOfJson? page)) (member "entry") =
      elements.mapM (postOfJson? page) := by
    rcases hentry with hentry | ⟨hentry, rfl⟩
    · rw [hentry]
      rfl
    · rw [hentry]
      rfl
  -- The envelope and the entries are decoded in one go, of which `feed?` is the first half.
  have hcontents : (Json.read? text.toList).bind (contentsOfJson? page) =
      (feed? text).bind fun member => do
        let posts ← Json.orElse? [] (Json.list? (postOfJson? page)) (member "entry")
        return (posts, ← Link.listOfJson? (member "link")) := by
    cases hread : Json.read? text.toList <;>
      simp [contentsOfJson?, feed?, hread, Option.bind_assoc]
  rw [ofJson, hcontents, hfeed, Option.bind_some, hposts, hlinks]
  cases elements.mapM (postOfJson? page) with
  | none => rfl
  | some posts => simp [hnext]

/-- A page of which all elements are entries holds their posts. -/
theorem ofJson_of_forall (h : IsEnvelope page text elements next)
    (hall : ∀ element ∈ elements, IsEntry element) :
    ofJson page text = .ok ⟨elements.filterMap (postOfJson? page), next⟩ := by
  have hsome : ∀ element ∈ elements, (postOfJson? page element).isSome := fun element helement =>
    (isSome_postOfJson?_iff page).2 (hall element helement)
  rw [h.ofJson_eq, Json.mapM_eq_some_filterMap hsome]

/-- A page with an element that is no entry is not read at all. -/
theorem ofJson_of_exists (h : IsEnvelope page text elements next)
    (hmalformed : ∃ element ∈ elements, ¬IsEntry element) :
    ofJson page text = .error .badJson := by
  obtain ⟨element, helement, hentry⟩ := hmalformed
  rw [h.ofJson_eq, Json.mapM_eq_none helement (postOfJson?_eq_none hentry page)]

end IsEnvelope

variable {page : Url} {text : String} {elements : List Json} {next : Option Url}

/-- The posts of some elements are those of the entries among them. -/
theorem filterMap_filter_isEntry (elements : List Json) :
    (elements.filter fun element => IsEntry element).filterMap (postOfJson? page) =
      elements.filterMap (postOfJson? page) := by
  rw [List.filterMap_filter]
  refine List.filterMap_congr fun element _ => ?_
  by_cases hentry : IsEntry element
  · simp [hentry]
  · simp [hentry, postOfJson?_eq_none hentry page]

/-- A malformed entry is fatal. A page with a sound envelope holds the posts of its elements, and is
followed by the page that the envelope links to, if all elements are entries. If one of them is not,
nothing is read. The page is thus read as if the malformed elements were absent exactly if there are
none. -/
theorem ofJson_skips_iff (h : IsEnvelope page text elements next) :
    ((∀ element ∈ elements, IsEntry element) →
      ofJson page text = .ok ⟨elements.filterMap (postOfJson? page), next⟩) ∧
    ((∃ element ∈ elements, ¬IsEntry element) → ofJson page text = .error .badJson) ∧
    ∀ clean, IsEnvelope page clean (elements.filter fun element => IsEntry element) next →
      ofJson page clean = .ok ⟨elements.filterMap (postOfJson? page), next⟩ ∧
      (ofJson page text = ofJson page clean ↔ ∀ element ∈ elements, IsEntry element) := by
  refine ⟨h.ofJson_of_forall, h.ofJson_of_exists, fun clean hclean => ?_⟩
  -- Malformed elements hold no posts, so that the page without them has the same ones.
  have hread : ofJson page clean = .ok ⟨elements.filterMap (postOfJson? page), next⟩ := by
    rw [hclean.ofJson_of_forall, filterMap_filter_isEntry]
    intro element helement
    exact of_decide_eq_true (List.mem_filter.1 helement).2
  refine ⟨hread, fun heq element helement => ?_, fun hall => ?_⟩
  · by_contra hentry
    rw [hread, h.ofJson_of_exists ⟨element, helement, hentry⟩] at heq
    cases heq
  · rw [hread, h.ofJson_of_forall hall]

/-- A link to the second page. -/
def secondPage : Json :=
  .object [("rel", .string "next"), ("href", .string "?p=2")]

/-- The members of a feed with some elements in the place of entries, and a second page. -/
def membersOf (elements : List Json) : List (String × Json) :=
  [("link", .array [secondPage]), ("entry", .array elements)]

/-- The body of a feed with some elements in the place of entries, and a second page. -/
def bodyOf (elements : List Json) : String :=
  String.ofList (Json.write (.object [("feed", .object (membersOf elements))]))

/-- Such a body has a sound envelope if the second page can be reached. -/
theorem isEnvelope_bodyOf {page next : Url} {elements : List Json}
    (h : ∀ element ∈ elements, element.Exact) (hnext : page.join "?p=2".toList = .ok next) :
    IsEnvelope page (bodyOf elements) elements (some next) := by
  have hlink : secondPage.Exact := by
    refine .object ?_
    simpa using ⟨Json.Exact.string "next", Json.Exact.string "?p=2"⟩
  have hfeed : (Json.object (membersOf elements)).Exact := by
    refine .object ?_
    simpa [membersOf] using ⟨Json.Exact.array (by simpa using hlink), Json.Exact.array h⟩
  have hbody : (Json.object [("feed", .object (membersOf elements))]).Exact :=
    .object (by simpa using hfeed)
  have hfollow : follow "next link" page "?p=2" = .ok next := by
    rw [follow, hnext]
  refine ⟨fun name => Json.member? name (membersOf elements), [⟨"next", "?p=2"⟩], ?_, .inl rfl, rfl,
    ?_⟩
  · rw [feed?, bodyOf, String.toList_ofList, Json.read?_write hbody]
    rfl
  · simp [Link.address?, hfollow]

/-- An entry with nothing but a content. -/
def plainEntry : Json :=
  .object [("content", .object [("$t", .string "x")])]

/-- An entry whose content is not in its wrapping. -/
def unwrappedEntry : Json :=
  .object [("content", .object [])]

/-- A page with both entries, and the same page without the second one. -/
theorem exists_isEnvelope_unwrapped : ∃ page next,
    IsEnvelope page (bodyOf [plainEntry, unwrappedEntry]) [plainEntry, unwrappedEntry] (some next) ∧
    IsEnvelope page (bodyOf [plainEntry]) [plainEntry] (some next) ∧
    [plainEntry, unwrappedEntry].filterMap (postOfJson? page) = [⟨none, "x", none⟩] := by
  have hsample : (Url.read? "http://a/").any (fun page =>
      (page.join "?p=2".toList).toOption.any fun _ =>
        [plainEntry, unwrappedEntry].filterMap (postOfJson? page) ==
          [⟨none, "x", none⟩]) = true := by
    decide +kernel
  obtain ⟨page, -, hsample⟩ := (Option.any_eq_true _ _).1 hsample
  obtain ⟨next, hnext, hposts⟩ := (Option.any_eq_true _ _).1 hsample
  rw [Except.toOption_eq_some_iff] at hnext
  have hplain : plainEntry.Exact := by
    refine .object ?_
    simpa using Json.Exact.object (by simpa using Json.Exact.string "x")
  have hunwrapped : unwrappedEntry.Exact := by
    refine .object ?_
    simpa using Json.Exact.object (by simp)
  refine ⟨page, next, isEnvelope_bodyOf ?_ hnext, isEnvelope_bodyOf ?_ hnext, beq_iff_eq.1 hposts⟩
  · simpa using ⟨hplain, hunwrapped⟩
  · simpa using hplain

/-- The plain entry is read from the page without the unwrapped one only. -/
theorem unwrapped_skips_iff : ∃ page next,
    ofJson page (bodyOf [plainEntry]) = .ok ⟨[⟨none, "x", none⟩], some next⟩ ∧
    ofJson page (bodyOf [plainEntry, unwrappedEntry]) = .error .badJson := by
  obtain ⟨page, next, hboth, hplain, hposts⟩ := exists_isEnvelope_unwrapped
  have hclean : IsEnvelope page (bodyOf [plainEntry])
      ([plainEntry, unwrappedEntry].filter fun element => IsEntry element) (some next) := hplain
  obtain ⟨-, hfails, hskips⟩ := ofJson_skips_iff hboth
  obtain ⟨hread, -⟩ := hskips _ hclean
  refine ⟨page, next, ?_, hfails ⟨unwrappedEntry, by simp, by decide⟩⟩
  rw [hread, hposts]

/-- A page with the unwrapped entry has a sound envelope, and is not read as if it were absent. -/
theorem unwrapped_not_skipped : ∃ page next posts,
    IsEnvelope page (bodyOf [plainEntry, unwrappedEntry]) [plainEntry, unwrappedEntry] (some next) ∧
    IsEnvelope page (bodyOf [plainEntry]) [plainEntry] (some next) ∧
    ofJson page (bodyOf [plainEntry]) = .ok ⟨posts, some next⟩ ∧
    ofJson page (bodyOf [plainEntry, unwrappedEntry]) = .error .badJson := by
  obtain ⟨page, next, hboth, hplain, -⟩ := exists_isEnvelope_unwrapped
  have hentry : ∀ element ∈ [plainEntry], IsEntry element := by decide
  exact ⟨page, next, _, hboth, hplain, hplain.ofJson_of_forall hentry,
    hboth.ofJson_of_exists ⟨unwrappedEntry, by simp, by decide⟩⟩

end Page

end Footage
