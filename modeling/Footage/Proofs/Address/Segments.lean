import Footage.Proofs.Address.Bytes
import Footage.Url.Reader
import Mathlib.Data.List.Basic

/-!
# Segments that name labels

A label that is added to the path of a URL of the web becomes a segment of its own. Whatever the
label holds, the segment decodes to it, and holds nothing that would end the segment or the path, or
that would be resolved. The two labels of dots add no segment.

## Main definitions

* `Url.Names`: a segment that names a label.
* `Url.Path.names` and `Url.Path.stem`: the segments of a path, and those that a label is added to.

## Main results

* `Url.names_labelSegment`: the segment of a label names it.
* `Url.names_extendPath_nil` and `Url.names_extendPath_cons`: the names of a path after labels were
  added.
-/

namespace Footage

open Text

namespace Url

/-! ## Points -/

/-- A character is the lower case of itself or of a capital letter. -/
theorem eq_or_of_toLower_eq {c d : Char} (h : c.toLower = d) :
    c = d ∨ 65 ≤ c.toNat ∧ c.toNat + 32 = d.toNat := by
  subst h
  delta Char.toLower
  split
  next hupper =>
    have hlow : 65 ≤ c.toNat := UInt32.le_iff_toNat_le.1 hupper.1
    have hhigh : c.toNat ≤ 90 := UInt32.le_iff_toNat_le.1 hupper.2
    have hsum : (c.val + ('a'.val - 'A'.val)).toNat = c.toNat + 32 := by
      rw [UInt32.toNat_add]
      change (c.toNat + 32) % 2 ^ 32 = _
      omega
    exact .inr ⟨hlow, hsum.symm⟩
  next => exact .inl rfl

/-- What is no letter is the lower case of itself only. -/
theorem eq_of_toLower_eq {c d : Char} (h : c.toLower = d) (hd : d.toNat < 97) : c = d := by
  obtain hself | ⟨hlow, hsum⟩ := eq_or_of_toLower_eq h
  · exact hself
  · omega

/-- The digit `e` in either case. -/
theorem hexValue?_of_toLower_eq_e {c : Char} (h : c.toLower = 'e') : hexValue? c = some 14 := by
  obtain rfl | ⟨-, hsum⟩ := eq_or_of_toLower_eq h
  · decide
  · have hc : c = 'E' := by
      rw [← Char.toNat_inj]
      change c.toNat + 32 = 101 at hsum
      change c.toNat = 69
      omega
    subst hc
    decide

/-- The two ways in which a point stands in a segment, in lower case. -/
def pointMarks : List (List Char) := [['.'], ['%', '2', 'e']]

/-- A point is read off either mark, in either case. -/
theorem exists_of_pointMark {mark : List Char} (hmark : mark ∈ pointMarks)
    {segment rest : List Char} (h : segment.map Char.toLower = mark ++ rest) :
    ∃ tail, tail.map Char.toLower = rest ∧ percentDecode segment = 0x2E :: percentDecode tail := by
  simp only [pointMarks, List.mem_cons, List.not_mem_nil, or_false] at hmark
  rcases hmark with rfl | rfl
  · obtain ⟨point, tail, rfl, hpoint, htail⟩ := List.map_eq_cons_iff.1 h
    obtain rfl := eq_of_toLower_eq hpoint (by decide)
    refine ⟨tail, htail, ?_⟩
    rw [percentDecode_cons (by decide)]
    rfl
  · obtain ⟨sign, tail, rfl, hsign, h⟩ := List.map_eq_cons_iff.1 h
    obtain ⟨two, tail, rfl, htwo, h⟩ := List.map_eq_cons_iff.1 h
    obtain ⟨digit, tail, rfl, hdigit, htail⟩ := List.map_eq_cons_iff.1 h
    obtain rfl := eq_of_toLower_eq hsign (by decide)
    obtain rfl := eq_of_toLower_eq htwo (by decide)
    -- The letter of the number may stand in either case.
    have htwo : hexValue? '2' = some 2 := by decide
    refine ⟨tail, htail, ?_⟩
    simp only [percentDecode, hexValue?_of_toLower_eq_e hdigit, htwo]
    rfl

/-- What stands for nothing decodes to a point. -/
theorem percentDecode_of_isSingleDot {segment : List Char} (h : isSingleDot segment = true) :
    percentDecode segment = encodeUtf8 ['.'] := by
  have hmark : segment.map Char.toLower ∈ pointMarks := by
    simpa [isSingleDot, pointMarks] using h
  obtain ⟨tail, htail, hdecode⟩ := exists_of_pointMark hmark (List.append_nil _).symm
  rw [List.map_eq_nil_iff] at htail
  subst htail
  exact hdecode

/-- What stands for the segment before it decodes to two points. -/
theorem percentDecode_of_isDoubleDot {segment : List Char} (h : isDoubleDot segment = true) :
    percentDecode segment = encodeUtf8 ['.', '.'] := by
  have hmarks : ∃ first ∈ pointMarks, ∃ second ∈ pointMarks,
      segment.map Char.toLower = first ++ second := by
    simp only [isDoubleDot, decide_eq_true_eq, List.mem_cons, List.not_mem_nil, or_false] at h
    simp only [pointMarks, List.mem_cons, List.not_mem_nil, or_false, exists_eq_or_imp,
      exists_eq_left]
    rcases h with h | h | h | h
    all_goals simp [h]
  obtain ⟨first, hfirst, second, hsecond, h⟩ := hmarks
  obtain ⟨tail, htail, hdecode⟩ := exists_of_pointMark hfirst h
  obtain ⟨rest, hrest, htailDecode⟩ :=
    exists_of_pointMark hsecond (htail.trans (List.append_nil _).symm)
  rw [List.map_eq_nil_iff] at hrest
  subst hrest
  rw [hdecode, htailDecode]
  rfl

/-! ## Labels -/

/-- The segment of a label. -/
def labelSegment (label : String) : String :=
  String.ofList (percentEncode inSpecialSegmentSet label.toList)

theorem percentDecode_labelSegment (label : String) :
    percentDecode (labelSegment label).toList = encodeUtf8 label.toList := by
  rw [labelSegment, String.toList_ofList, percentDecode_percentEncode _ (by decide)]

/-- A label whose segment decodes to a text is this text. -/
theorem eq_of_percentDecode_labelSegment {label : String} {text : List Char}
    (h : percentDecode (labelSegment label).toList = encodeUtf8 text) :
    label = String.ofList text := by
  rw [percentDecode_labelSegment] at h
  rw [← decodeUtf8_encodeUtf8 text, ← h, decodeUtf8_encodeUtf8, String.ofList_toList]

theorem labelSegment_ne_empty {label : String} (h : label ≠ "") : labelSegment label ≠ "" := by
  intro hempty
  have hdecode : percentDecode (labelSegment label).toList = encodeUtf8 [] := by
    rw [hempty]
    rfl
  exact h (eq_of_percentDecode_labelSegment hdecode)

theorem isSingleDot_labelSegment {label : String} (h : label ≠ ".") :
    isSingleDot (labelSegment label).toList = false := by
  by_contra hdot
  rw [Bool.not_eq_false] at hdot
  exact h (eq_of_percentDecode_labelSegment (percentDecode_of_isSingleDot hdot))

theorem isDoubleDot_labelSegment {label : String} (h : label ≠ "..") :
    isDoubleDot (labelSegment label).toList = false := by
  by_contra hdots
  rw [Bool.not_eq_false] at hdots
  exact h (eq_of_percentDecode_labelSegment (percentDecode_of_isDoubleDot hdots))

/-- A segment that names a label. -/
structure Names (segment label : String) : Prop where
  /-- It decodes to the label. -/
  decodes : percentDecode segment.toList = encodeUtf8 label.toList
  /-- No character of it ends the segment or the path. -/
  closed : ∀ c ∈ segment.toList, isSeparator true c = false ∧ startsTail c = false
  /-- It is not resolved where a URL with it is read. -/
  stays : isSingleDot segment.toList = false ∧ isDoubleDot segment.toList = false

/-- The segment of a label names the label. -/
theorem names_labelSegment {label : String} (hdot : label ≠ ".") (hdots : label ≠ "..") :
    Names (labelSegment label) label where
  decodes := percentDecode_labelSegment label
  closed c hc := by
    rw [labelSegment, String.toList_ofList] at hc
    have hcases : c = '%' ∨ isHexDigit c = true ∨ inSpecialSegmentSet c = false :=
      (mem_percentEncode hc).imp_right (.imp_right And.right)
    -- All of these characters are encoded, and none is a digit.
    have hmarks : ∀ mark ∈ ['/', '\\', '?', '#'], c ≠ mark := by
      rintro mark hmark rfl
      revert hmark hcases
      simp only [List.mem_cons, List.not_mem_nil, or_false]
      rintro hcases (rfl | rfl | rfl | rfl) <;> exact absurd hcases (by decide)
    simp only [List.mem_cons, List.not_mem_nil, or_false, forall_eq_or_imp, forall_eq] at hmarks
    simp [isSeparator, startsTail, hmarks]
  stays := ⟨isSingleDot_labelSegment hdot, isDoubleDot_labelSegment hdots⟩

/-! ## Paths -/

/-- The segments of a path. The path that is a slash counts as having none. -/
def Path.names : Path → List String
  | .bare _ | .segments [""] => []
  | .segments list => list

/-- The segments of a path without an empty one at their end. -/
def Path.stem : Path → List String
  | .bare _ => []
  | .segments list =>
    (Path.segments (if list.getLast? = some "" then list.dropLast else list)).names

theorem Path.names_segments {list : List String} (h : list ≠ [""]) :
    (Path.segments list).names = list := by
  rw [names]
  exact h

/-- Segments with one more label. The labels of dots add none. -/
def addLabel (segments : List String) (label : String) : List String :=
  if label = "." ∨ label = ".." then segments
  else (Path.segments segments).names ++ [labelSegment label]

/-- Adding a label encodes it as one segment. Nothing of it is dropped or resolved. -/
theorem resolve_label {label : String} (hlabel : ¬(label = "." ∨ label = ".."))
    (hkept : ∀ c ∈ label.toList, isDropped c = false) (segments : List String) :
    resolve false segments
        [percentEncode inSpecialSegmentSet (label.toList.filter fun c => !isDropped c)] =
      segments ++ [labelSegment label] := by
  obtain ⟨hdot, hdots⟩ := not_or.1 hlabel
  have hfilter : (label.toList.filter fun c => !isDropped c) = label.toList :=
    List.filter_eq_self.2 fun c hc => by simp [hkept c hc]
  have hsingle := isSingleDot_labelSegment hdot
  have hdouble := isDoubleDot_labelSegment hdots
  rw [labelSegment, String.toList_ofList] at hsingle hdouble
  rw [hfilter, resolve, if_neg (by simp [hdouble]), if_neg (by simp [hsingle])]
  rfl

/-- The path to which labels are added: the base's path, of which an empty last segment is left
out unless it is the only one. -/
def labelStart (segments : List String) : List String :=
  let trimmed := if segments.getLast? = some "" then segments.dropLast else segments
  if trimmed.isEmpty then segments else trimmed

theorem names_labelStart (segments : List String) :
    (Path.segments (labelStart segments)).names = (Path.segments segments).stem := by
  rw [labelStart, Path.stem]
  by_cases hlast : segments.getLast? = some ""
  · simp only [if_pos hlast]
    split_ifs with hempty
    · -- A slash alone stays, but has no names either.
      rw [List.isEmpty_iff] at hempty
      obtain ⟨init, rfl⟩ := List.getLast?_eq_some_iff.1 hlast
      rw [List.dropLast_concat] at hempty
      subst hempty
      rfl
    · rfl
  · simp only [if_neg hlast, ite_self]

/-- Labels are added to the path of a URL of the web one after the other. -/
theorem path_extendPath_eq {url : Url} (hscheme : url.scheme = "http" ∨ url.scheme = "https")
    {segments : List String} (hpath : url.path = .segments segments) {labels : List String}
    (hkept : ∀ label ∈ labels, ∀ c ∈ label.toList, isDropped c = false) :
    (url.extendPath labels).path = .segments (labels.foldl addLabel (labelStart segments)) := by
  have hspecial : isSpecialScheme url.scheme = true := by
    rcases hscheme with h | h <;> rw [h] <;> decide
  have hfile : (url.scheme == "file") = false := by
    rcases hscheme with h | h <;> rw [h] <;> decide
  rw [extendPath, hpath]
  simp only [hspecial, hfile, if_true]
  refine congrArg Path.segments (List.foldl_ext _ _ _ fun segments label hlabel => ?_)
  rw [addLabel]
  split_ifs with hdots hroot
  · rfl
  · rw [resolve_label hdots (hkept label hlabel), hroot]
    rfl
  · rw [resolve_label hdots (hkept label hlabel), Path.names_segments hroot]

/-- Labels that are added to a path with names become the names after those. -/
theorem foldl_addLabel {segments : List String} (hne : segments ≠ []) (hroot : segments ≠ [""])
    (labels : List String) :
    labels.foldl addLabel segments = segments ++
      (labels.filter fun label => label ≠ "." ∧ label ≠ "..").map labelSegment := by
  induction labels generalizing segments with
  | nil => simp
  | cons label labels ih =>
    rw [List.foldl_cons, addLabel]
    split_ifs with hdots
    · rw [ih hne hroot, List.filter_cons_of_neg]
      simpa [imp_iff_not_or] using hdots
    · have hkeep : label ≠ "." ∧ label ≠ ".." := not_or.1 hdots
      -- The path is not the slash alone afterwards either, whose one segment would be replaced.
      have hlonger : segments ++ [labelSegment label] ≠ [""] := by
        intro heq
        simpa [hne] using congrArg List.length heq
      rw [Path.names_segments hroot, ih (by simp) hlonger,
        List.filter_cons_of_pos (by simpa using hkeep), List.map_cons, List.append_assoc,
        List.singleton_append]

section Web

variable {url : Url} (hscheme : url.scheme = "http" ∨ url.scheme = "https")
  (hpath : url.isBare = false)

include hscheme hpath

/-- Where no label is added, the names of the path are its stem. -/
theorem names_extendPath_nil : (url.extendPath []).path.names = url.path.stem := by
  cases hsegments : url.path with
  | bare text => simp [isBare, hsegments] at hpath
  | segments list =>
    rw [path_extendPath_eq hscheme hsegments (by simp)]
    exact names_labelStart list

/-- The names of the path after labels were added, of which the first is not empty: the stem of the
path, and the segments of the labels. -/
theorem names_extendPath_cons {first : String} (hempty : first ≠ "")
    (hdots : ¬(first = "." ∨ first = "..")) {labels : List String}
    (hkept : ∀ label ∈ first :: labels, ∀ c ∈ label.toList, isDropped c = false) :
    (url.extendPath (first :: labels)).path.names = url.path.stem ++ labelSegment first ::
      (labels.filter fun label => label ≠ "." ∧ label ≠ "..").map labelSegment := by
  cases hsegments : url.path with
  | bare text => simp [isBare, hsegments] at hpath
  | segments list =>
    rw [path_extendPath_eq hscheme hsegments hkept, List.foldl_cons, addLabel, if_neg hdots,
      names_labelStart]
    -- The first segment is not empty, so that what follows it is not the path that is a slash.
    have hne := labelSegment_ne_empty hempty
    have hroot : ∀ rest, (Path.segments list).stem ++ [labelSegment first] ++ rest ≠ [""] := by
      intro rest heq
      have hmem : labelSegment first ∈ [""] := heq ▸ by simp
      exact hne (List.mem_singleton.1 hmem)
    rw [foldl_addLabel (by simp) (by simpa using hroot []), Path.names_segments (hroot _),
      List.append_assoc, List.singleton_append]

end Web

end Url

end Footage
