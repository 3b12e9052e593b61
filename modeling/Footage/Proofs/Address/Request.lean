import Footage.Feed.Request
import Footage.Proofs.Address.Pairs
import Footage.Proofs.Address.Segments
import Footage.Proofs.Outcome

/-!
# Addresses of requests

The address of the first page that answers a request differs from the base of the feed in its path
and its query only. The path goes on from the base's with a segment for each label, which no label
can leave, and the query holds what else is asked for.

## Main definitions

* `Url.IsWeb`: a URL of the web.
* `Request.folder` and `Request.parameters`: what a request adds to the path before the labels, and
  what it puts into the query.
* `Request.IsAddress`: the address of a request.

## Main results

* `Url.isWeb_of_read`: the URLs of the web that are read from texts.
* `Request.isAddress_address`: each request to a feed of the web has an address.
-/

namespace Footage

open Calendar Text

namespace Url

/-! ## URLs of the web -/

/-- A URL of the web: one whose path is made of segments, as every one that is read is. -/
structure IsWeb (url : Url) : Prop where
  scheme : url.scheme = "http" ∨ url.scheme = "https"
  segmented : url.isBare = false

@[simp]
theorem isBare_withPath (scheme : String) (authority : Option Authority) (segments : List String)
    (text : List Char) : (withPath scheme authority segments text).isBare = false := rfl

@[simp]
theorem isBare_withAbsolutePath (scheme : String) (authority : Option Authority)
    (text : List Char) : (withAbsolutePath scheme authority text).isBare = false := by
  cases text with
  | nil => rfl
  | cons c rest =>
    simp only [withAbsolutePath]
    split_ifs <;> rfl

theorem isBare_of_readAfterSlashes {scheme : String} {text : List Char} {url : Url}
    (h : readAfterSlashes scheme text = .ok url) : url.isBare = false := by
  obtain ⟨authority, -, hurl⟩ := Except.bind_eq_ok_iff.1 h
  cases hurl
  exact isBare_withAbsolutePath _ _ _

theorem isBare_of_readFileAfterSlashes {text : List Char} {url : Url}
    (h : readFileAfterSlashes text = .ok url) : url.isBare = false := by
  simp only [readFileAfterSlashes] at h
  split_ifs at h
  · cases h
    rfl
  · obtain ⟨host, -, hurl⟩ := Except.bind_eq_ok_iff.1 h
    cases hurl
    exact isBare_withAbsolutePath _ _ _

theorem isBare_of_readFile {text : List Char} {url : Url} (h : readFile none text = .ok url) :
    url.isBare = false := by
  cases text with
  | nil =>
    cases h
    rfl
  | cons c rest =>
    simp only [readFile] at h
    split_ifs at h
    · cases rest with
      | nil =>
        cases h
        rfl
      | cons d rest =>
        dsimp only at h
        split_ifs at h
        · exact isBare_of_readFileAfterSlashes h
        · cases h
          simp [readFilePath]
    · cases h
      rfl

theorem isBare_of_readPlain {scheme : String} {text : List Char} {url : Url}
    (h : readPlain scheme text = .ok url) : url.isBare = false ∨ url.scheme = scheme := by
  revert h
  fun_cases readPlain scheme text with
  | case1 rest => exact fun h => .inl (isBare_of_readAfterSlashes h)
  | case2 rest =>
    intro h
    cases h
    exact .inl rfl
  | case3 =>
    intro h
    cases h
    exact .inr rfl

/-- A URL of the web that is read from a text has a path of segments. -/
theorem isWeb_of_read {text : List Char} {url : Url} (h : read text = .ok url)
    (hscheme : url.scheme = "http" ∨ url.scheme = "https") : url.IsWeb := by
  refine ⟨hscheme, ?_⟩
  rw [read, readCleaned] at h
  split at h
  next scheme rest _ =>
    simp only at h
    split_ifs at h with hfile hspecial
    · exact isBare_of_readFile h
    · exact isBare_of_readAfterSlashes h
    · -- Schemes that are not special are not those of the web.
      obtain hsegmented | rfl := isBare_of_readPlain h
      · exact hsegmented
      · have hweb : isSpecialScheme url.scheme = true := by
          rcases hscheme with hscheme | hscheme <;> rw [hscheme] <;> decide
        exact absurd hweb hspecial
  next => cases h

end Url

/-! ## Requests -/

namespace Calendar.Moment

/-- A moment without its fraction of a second. -/
def toSecond (m : Moment) : Moment :=
  ⟨m.day, ⟨m.clock.hour, m.clock.minute, m.clock.second, 0, by
    obtain ⟨hhour, hminute, hsecond, -⟩ := m.clock.inRange
    exact ⟨hhour, hminute, hsecond, by decide⟩⟩⟩

/-- A moment to whole seconds is written like the moment without its fraction. -/
theorem write_toSecond (m : Moment) : m.toSecond.write = m.writeSeconds :=
  List.append_nil _

end Calendar.Moment

namespace Request

variable {request : Request} {base url : Url} {kind : FeedKind}

/-- The segments that come before those of the labels. -/
def folder (request : Request) : FeedKind → List String
  | .html => if request.labels = [] then ["search"] else ["search", "label"]
  | .json => if request.labels = [] then [] else ["-"]
  | .forum => []

/-- What the query asks for. -/
def parameters (request : Request) (kind : FeedKind) : List Url.Pair :=
  [("alt", if kind = .json then some "json" else none),
    ("max-results", if 0 < request.pageSize then some (toString request.pageSize) else none),
    ("updated-max", request.finish.map fun m => String.ofList m.toSecond.write),
    ("updated-min", request.start.map fun m => String.ofList m.toSecond.write),
    ("orderby", if request.start.isSome ∨ request.finish.isSome then some "updated" else none)]
  |>.filterMap fun (key, value) => value.map (key, ·)

/-- The address of the first page that answers a request to a feed. -/
structure IsAddress (request : Request) (base : Url) (kind : FeedKind) (url : Url) : Prop where
  scheme : url.scheme = base.scheme
  authority : url.authority = base.authority
  fragment : url.fragment = base.fragment
  /-- The path goes on from the base's with one segment for each label, except those of dots. -/
  path : ∃ segments,
    List.Forall₂ Url.Names segments
        (request.labels.filter fun label => label ≠ "." ∧ label ≠ "..") ∧
      url.path.names = base.path.stem ++ request.folder kind ++ segments
  queryPairs : url.queryPairs = request.parameters kind
  query : url.query = none ↔ request.parameters kind = []

theorem pairs_eq_parameters (request : Request) (kind : FeedKind) :
    request.pairs kind = request.parameters kind := by
  obtain ⟨labels, start, finish, pageSize⟩ := request
  cases pageSize <;> cases kind <;> cases start <;> cases finish <;>
    simp [pairs, parameters, Moment.write_toSecond] <;> rfl

/-- The parts of a URL other than its path stay when labels are added. -/
theorem extendPath_eq (url : Url) (labels : List String) :
    url.extendPath labels = { url with path := (url.extendPath labels).path } := by
  rw [Url.extendPath]
  split <;> rfl

/-- The path goes on from the base's with the folder of the request and a segment for each label. -/
theorem names_extendPath_segments (hbase : base.IsWeb) (hkind : kind.followsLinks = true)
    (hkept : ∀ label ∈ request.labels, ∀ c ∈ label.toList, Url.isDropped c = false) :
    (base.extendPath (request.segments kind)).path.names =
      base.path.stem ++ request.folder kind ++
        (request.labels.filter fun label => label ≠ "." ∧ label ≠ "..").map Url.labelSegment := by
  obtain ⟨hscheme, hpath⟩ := hbase
  have hfixed : ∀ name ∈ ["search", "label", "-"], Url.labelSegment name = name ∧
      ∀ c ∈ name.toList, Url.isDropped c = false := by
    have hall : ["search", "label", "-"].all (fun name => Url.labelSegment name == name &&
        name.toList.all (!Url.isDropped ·)) = true := by
      decide
    simpa only [List.all_eq_true, Bool.and_eq_true, beq_iff_eq, Bool.not_eq_true'] using hall
  have hsearch := hfixed "search" (by decide)
  have hlabel := hfixed "label" (by decide)
  have hdash := hfixed "-" (by decide)
  -- What comes before the labels is a label itself as far as the path is concerned.
  cases kind with
  | html =>
    by_cases hlabels : request.labels = []
    · rw [segments, folder, hlabels]
      refine (Url.names_extendPath_cons hscheme hpath (by decide) (by decide) ?_).trans ?_
      · simpa using hsearch.2
      · simp [hsearch.1]
    · rw [segments, folder, if_neg hlabels, if_neg (by simpa using hlabels)]
      refine (Url.names_extendPath_cons hscheme hpath (by decide) (by decide) ?_).trans ?_
      · exact List.forall_mem_cons.2 ⟨hsearch.2, List.forall_mem_cons.2 ⟨hlabel.2, hkept⟩⟩
      · rw [List.filter_cons_of_pos (by decide), List.map_cons, hsearch.1, hlabel.1,
          List.append_assoc, List.cons_append, List.singleton_append]
  | json =>
    by_cases hlabels : request.labels = []
    · rw [segments, folder, hlabels]
      simpa using Url.names_extendPath_nil hscheme hpath
    · rw [segments, folder, if_neg hlabels, if_neg (by simpa using hlabels)]
      refine (Url.names_extendPath_cons hscheme hpath (by decide) (by decide) ?_).trans ?_
      · exact List.forall_mem_cons.2 ⟨hdash.2, hkept⟩
      · rw [hdash.1, List.append_assoc, List.singleton_append]
  | forum => cases hkind

/-- Every request to a feed of the web that follows links has an address. No label can lead away
from the path that is asked for: it becomes one segment, which decodes to it, or none if it is one
of the two labels of dots. -/
theorem isAddress_address (hbase : base.IsWeb) (hkind : kind.followsLinks = true)
    (hkept : ∀ label ∈ request.labels, ∀ c ∈ label.toList, c ≠ '\t' ∧ c ≠ '\n' ∧ c ≠ '\r') :
    ∃ url, request.address base kind = .ok url ∧ request.IsAddress base kind url := by
  have hdropped : ∀ label ∈ request.labels, ∀ c ∈ label.toList, Url.isDropped c = false := by
    intro label hlabel c hc
    simpa [Url.isDropped, and_assoc] using hkept label hlabel c hc
  have hforum : kind ≠ .forum := by
    rintro rfl
    cases hkind
  have hnames : List.Forall₂ Url.Names
      ((request.labels.filter fun label => label ≠ "." ∧ label ≠ "..").map Url.labelSegment)
      (request.labels.filter fun label => label ≠ "." ∧ label ≠ "..") := by
    rw [List.forall₂_map_left_iff, List.forall₂_same]
    intro label hlabel
    obtain ⟨hdot, hdots⟩ := of_decide_eq_true (List.mem_filter.1 hlabel).2
    exact Url.names_labelSegment hdot hdots
  have hpath := names_extendPath_segments hbase hkind hdropped
  have hextended := extendPath_eq base (request.segments kind)
  rw [address, if_neg hforum, if_neg (by simp [hbase.segmented]), pairs_eq_parameters]
  refine ⟨_, rfl, ?_⟩
  -- The query of the base is dropped in any case. A query without pairs is not written.
  split_ifs with hempty
  · rw [List.isEmpty_iff] at hempty
    exact {
      scheme := by rw [hextended]
      authority := by rw [hextended]
      fragment := by rw [hextended]
      path := ⟨_, hnames, hpath⟩
      queryPairs := by rw [hempty]; rfl
      query := by simp [hempty] }
  · rw [List.isEmpty_iff] at hempty
    exact {
      scheme := by rw [hextended]; rfl
      authority := by rw [hextended]; rfl
      fragment := by rw [hextended]; rfl
      path := ⟨_, hnames, hpath⟩
      queryPairs := Url.queryPairs_withQueryPairs _ _
      query := by simp [hempty, Url.withQueryPairs] }

/-- A search for labels that would lead elsewhere, if they stood in the path as they are. -/
def strayingSearch : Request where
  labels := ["Cup/Final?", "..", "100%", ""]
  finish := some ⟨⟨2024, 5, 31, by decide⟩, ⟨20, 45, 30, 500000000, by decide⟩⟩
  pageSize := 25

/-- The search stays in the folder of the blog. -/
theorem strayingSearch_isAddress : ∃ base url,
    Url.read "http://u:p@a.b:8/f//#x".toList = .ok base ∧ base.IsWeb ∧
      strayingSearch.address base .json = .ok url ∧ strayingSearch.IsAddress base .json url ∧
      url.text = "http://u:p@a.b:8/f//-/Cup%2FFinal%3F/100%25/?alt=json&max-results=25&" ++
        "updated-max=2024-05-31T20%3A45%3A30&orderby=updated#x" := by
  have hsample : (Url.read "http://u:p@a.b:8/f//#x".toList).toOption.any (fun base =>
      base.scheme == "http" && (strayingSearch.address base .json).toOption.any fun url =>
        url.text == "http://u:p@a.b:8/f//-/Cup%2FFinal%3F/100%25/?alt=json&max-results=25&" ++
          "updated-max=2024-05-31T20%3A45%3A30&orderby=updated#x") = true := by
    decide +kernel
  obtain ⟨base, hbase, hboth⟩ := Except.exists_of_any_toOption hsample
  rw [Bool.and_eq_true] at hboth
  obtain ⟨hscheme, haddress⟩ := hboth
  obtain ⟨url, hurl, htext⟩ := Except.exists_of_any_toOption haddress
  have hweb : base.IsWeb := Url.isWeb_of_read hbase (.inl (beq_iff_eq.1 hscheme))
  have hkept : strayingSearch.labels.all (fun label =>
      label.toList.all fun c => c ≠ '\t' ∧ c ≠ '\n' ∧ c ≠ '\r') = true := by
    decide
  simp only [List.all_eq_true, decide_eq_true_eq] at hkept
  obtain ⟨url', hurl', haddress⟩ := @isAddress_address strayingSearch base .json hweb rfl hkept
  rw [hurl, Except.ok.injEq] at hurl'
  subst hurl'
  exact ⟨base, url, hbase, hweb, hurl, haddress, beq_iff_eq.1 htext⟩

end Request

end Footage
