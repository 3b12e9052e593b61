import Footage.Proofs.Kit.Compiling
import Footage.Proofs.Label.Before

/-!
# What records report

The record of a match says about each field of a compiled kit what the parser of the field makes of
the text that its group captures, and nothing about other fields. What it says about one field does
not depend on the others: neither on what is captured for them nor on which of them are mapped.

## Main definitions

* `ValueParser.Reads`: what a parser makes of the text of a group, which may be missing.
* `Record.Reports`: a record says what a match captures for the fields of a mapping.

## Main results

* `BoundField.reads`: what a match says about a field whose group it has.
* `Kit.reports_of_compile`: the records of a compiled kit report its matches.
* `Record.Reports.eq_of_captured`: reports agree on a field for which the same text is captured.
* `Kit.records_report`: all of this for the records of a text, of which the first match has the
  first.
-/

namespace Footage

/-! ## One field -/

namespace ValueParser

/-- What a parser makes of the text of a group: the value or the unreadable text that a record is
to hold. -/
inductive Reads (parser : ValueParser) : Option String → Option Value → Option String → Prop
  /-- The group takes no part in the match. -/
  | apart : Reads parser none none none
  /-- The group captures nothing. -/
  | empty : Reads parser (some "") none none
  /-- The text is read. -/
  | value (raw : String) (value : Value) (hraw : raw ≠ "") (hvalue : parser raw = some value) :
      Reads parser (some raw) (some value) none
  /-- The text is rejected. -/
  | rejected (raw : String) (hraw : raw ≠ "") (hvalue : parser raw = none) :
      Reads parser (some raw) none (some raw)

variable {parser : ValueParser} {captured : Option String} {value? other? : Option Value}
  {unparsable? otherText? : Option String}

/-- There is no value for a text that cannot be read. -/
theorem Reads.exclusive (h : parser.Reads captured value? unparsable?) :
    value? = none ∨ unparsable? = none := by
  cases h with
  | apart | empty | rejected => exact .inl rfl
  | value => exact .inr rfl

/-- A parser makes one thing of a text. -/
theorem Reads.unique (h : parser.Reads captured value? unparsable?)
    (hother : parser.Reads captured other? otherText?) :
    value? = other? ∧ unparsable? = otherText? := by
  cases h with
  | apart =>
    cases hother
    exact ⟨rfl, rfl⟩
  | empty =>
    cases hother with
    | empty => exact ⟨rfl, rfl⟩
    | value _ _ hraw | rejected _ hraw => exact absurd rfl hraw
  | value raw value hraw hvalue =>
    cases hother with
    | empty => exact absurd rfl hraw
    | value _ _ _ hother =>
      rw [hvalue] at hother
      exact ⟨hother, rfl⟩
    | rejected _ _ hother => simp [hvalue] at hother
  | rejected raw hraw hvalue =>
    cases hother with
    | empty => exact absurd rfl hraw
    | value _ _ _ hother => simp [hvalue] at hother
    | rejected => exact ⟨rfl, rfl⟩

end ValueParser

/-- A match says about a field what the parser of the field makes of the text of its group. -/
theorem BoundField.reads {bound : BoundField} {found : Pattern.Match} {captured : Option String}
    (hpos : 1 ≤ bound.index) (hcaptured : found.groups[bound.index]? = some captured) :
    bound.parser.Reads captured (bound.reading? found) (bound.rejected? found) := by
  have hgroup : found.captured? bound.index = captured.filter fun text => !text.isEmpty := by
    simp [Pattern.Match.captured?, Nat.ne_zero_of_lt hpos, hcaptured]
  rw [reading?, rejected?, hgroup]
  cases captured with
  | none => exact .apart
  | some raw =>
    by_cases hraw : raw = ""
    · subst hraw
      exact .empty
    · cases hvalue : bound.parser raw with
      | none => simpa [Option.filter, hraw, hvalue] using ValueParser.Reads.rejected raw hraw hvalue
      | some value =>
        simpa [Option.filter, hraw, hvalue] using ValueParser.Reads.value raw value hraw hvalue

/-! ## Records -/

namespace Record

variable {record other : Record} {mapping otherMapping : Mapping}
  {registry otherRegistry : Registry} {found otherFound : Pattern.Match} {field : Field}

/-- A record says what a match captures for the fields of a mapping, as their parsers read it. -/
structure Reports (record : Record) (mapping : Mapping) (registry : Registry)
    (found : Pattern.Match) : Prop where
  /-- Nothing is said about a field that is not mapped. -/
  unmapped : ∀ field, (∀ index, (index, field) ∉ mapping) →
    record.value? field = none ∧ record.unparsable? field = none
  /-- A field that is mapped has a parser, and its group a place in the match. The record holds what
  the one makes of the text of the other. -/
  mapped : ∀ index field, (index, field) ∈ mapping → ∃ parser captured,
    registry.parser? field = some parser ∧ found.groups[index]? = some captured ∧
      parser.Reads captured (record.value? field) (record.unparsable? field)

/-- No field has both a value and an unreadable text. -/
theorem Reports.exclusive (h : record.Reports mapping registry found) (field : Field) :
    record.value? field = none ∨ record.unparsable? field = none := by
  by_cases hmapped : ∃ index, (index, field) ∈ mapping
  · obtain ⟨index, hmem⟩ := hmapped
    obtain ⟨parser, captured, -, -, hreads⟩ := h.mapped index field hmem
    exact hreads.exclusive
  · exact .inl (h.unmapped field (not_exists.1 hmapped)).1

/-- A report holds what the parser of a field makes of the text that is captured for it. -/
theorem Reports.eq_of_reads (h : record.Reports mapping registry found) {index : Nat}
    (hmem : (index, field) ∈ mapping) {parser : ValueParser}
    (hparser : registry.parser? field = some parser) {captured : Option String}
    (hcaptured : found.groups[index]? = some captured) {value? : Option Value}
    {unparsable? : Option String} (hreads : parser.Reads captured value? unparsable?) :
    record.value? field = value? ∧ record.unparsable? field = unparsable? := by
  obtain ⟨_, _, hsome, hgroup, hheld⟩ := h.mapped index field hmem
  cases hsome.symm.trans hparser
  cases hgroup.symm.trans hcaptured
  exact hheld.unique hreads

/-- Two reports agree on a field that has one parser in both and for which the same is captured,
whatever they say about other fields. -/
theorem Reports.eq_of_captured (h : record.Reports mapping registry found)
    (hother : other.Reports otherMapping otherRegistry otherFound) {index otherIndex : Nat}
    (hmem : (index, field) ∈ mapping) (hotherMem : (otherIndex, field) ∈ otherMapping)
    (hparser : registry.parser? field = otherRegistry.parser? field)
    (hcaptured : found.groups[index]? = otherFound.groups[otherIndex]?) :
    record.value? field = other.value? field ∧
      record.unparsable? field = other.unparsable? field := by
  obtain ⟨parser, captured, hsome, hgroup, hreads⟩ := hother.mapped otherIndex field hotherMem
  exact h.eq_of_reads hmem (hparser.trans hsome) (hcaptured.trans hgroup) hreads

end Record

/-! ## Kits -/

namespace Kit

variable {kit : Kit} {registry : Registry} {target : Target} {pattern text : String}
  {mapping : Mapping} {found : Pattern.Match}

/-- The record of a match of a compiled kit reports it. -/
theorem reports_of_compile (h : compile registry target pattern mapping = .ok kit)
    (hfound : found ∈ kit.pattern.matchesIn text) :
    (kit.record found).Reports mapping registry found := by
  have honce := bindsOnce_of_compile h
  obtain ⟨compiled, bounds, -, hbounds, rfl⟩ := compileWith_eq_ok_iff.1 h
  have hfields := fields_of_bind hbounds
  have hlength : found.groups.length = compiled.groupCount + 1 :=
    Pattern.length_groups_of_mem_matchesIn hfound
  rw [honce.record_eq]
  constructor
  · intro field hunmapped
    have hnone : (bounds.find? fun bound => bound.field = field) = none := by
      refine List.find?_eq_none.2 fun bound hbound heq => ?_
      rw [← of_decide_eq_true heq] at hunmapped
      refine hunmapped bound.index ?_
      rw [← hfields]
      exact List.mem_map_of_mem hbound
    simp [readings, hnone]
  · intro index field hmem
    rw [← hfields] at hmem
    obtain ⟨bound, hbound, heq⟩ := List.mem_map.1 hmem
    cases heq
    have hfind : (bounds.find? fun other => other.field = bound.field) = some bound :=
      honce.find?_eq_some_iff.2 ⟨hbound, rfl⟩
    -- The group of a field that was accepted has a place in the match.
    obtain ⟨_, haccepts⟩ := exists_accepts_of_mem_bind hbounds bound hbound
    obtain ⟨hpos, hle⟩ := haccepts.index
    have hlt : bound.index < found.groups.length := by
      rw [hlength]
      exact Nat.lt_succ_of_le hle
    refine ⟨bound.parser, found.groups[bound.index], haccepts.parser,
      List.getElem?_eq_getElem hlt, ?_⟩
    simpa [readings, hfind] using bound.reads hpos (List.getElem?_eq_getElem hlt)

/-- The records of a compiled kit report its matches in a text, one by one. A field that is not
mapped, or whose group captures no text, is left out of a record, and any other one has either a
value or its text, if this cannot be read. What two records say about a field is the same if the
same is captured for it, also where the records are those of different kits, as long as these read
the field with one parser. The record of the first match is the first of all. -/
theorem records_report (h : compile registry target pattern mapping = .ok kit) (text : String) :
    List.Forall₂ (fun found record => record.Reports mapping registry found)
      (kit.pattern.matchesIn text) (kit.records text) ∧
    (∀ record ∈ kit.records text, ∀ field,
      record.value? field = none ∨ record.unparsable? field = none) ∧
    (∀ otherRegistry otherTarget otherPattern otherMapping otherKit otherText,
      compile otherRegistry otherTarget otherPattern otherMapping = .ok otherKit →
      ∀ found ∈ kit.pattern.matchesIn text, ∀ other ∈ otherKit.pattern.matchesIn otherText,
      ∀ field index otherIndex, (index, field) ∈ mapping → (otherIndex, field) ∈ otherMapping →
        registry.parser? field = otherRegistry.parser? field →
        found.groups[index]? = other.groups[otherIndex]? →
        (kit.record found).value? field = (otherKit.record other).value? field ∧
          (kit.record found).unparsable? field = (otherKit.record other).unparsable? field) ∧
    kit.first? text = (kit.records text).head? ∧
    (kit.first? text = none ↔ kit.records text = []) := by
  have hfirst : kit.first? text = (kit.records text).head? := by
    rw [first?, records, List.head?_map, Pattern.head?_matchesIn]
  refine ⟨?_, ?_, ?_, hfirst, by rw [hfirst, List.head?_eq_none_iff]⟩
  · rw [records, List.forall₂_map_right_iff]
    exact List.forall₂_same.2 fun found hfound => reports_of_compile h hfound
  · intro record hrecord field
    obtain ⟨found, hfound, rfl⟩ := List.mem_map.1 hrecord
    exact (reports_of_compile h hfound).exclusive field
  · intro otherRegistry otherTarget otherPattern otherMapping otherKit otherText hother found hfound
      other hotherFound field index otherIndex hmem hotherMem hparser hcaptured
    exact (reports_of_compile h hfound).eq_of_captured (reports_of_compile hother hotherFound) hmem
      hotherMem hparser hcaptured

/-- A pattern of sources with a picture, and perhaps a size and a mark. -/
def markedPattern : String := "On ([A-Z]): ([a-z0-9]+)( [0-9]+)?(m?)"

/-- The fields that the pattern captures. -/
def markedMapping : Mapping :=
  .ofList [(1, .channel), (2, .resolution), (3, .filesize), (4, .audioChannels)]

/-- The channel of a source is read and its picture rejected. There is no size, nothing stands for
the number of channels, and languages are not looked for. -/
theorem marked_report : ∃ kit record,
    compile .standard .source markedPattern markedMapping = .ok kit ∧
    kit.first? "On X: good" = some record ∧
    (record.value? .channel = some (.text "X") ∧ record.unparsable? .channel = none) ∧
    (record.value? .resolution = none ∧ record.unparsable? .resolution = some "good") ∧
    (record.value? .filesize = none ∧ record.unparsable? .filesize = none) ∧
    (record.value? .audioChannels = none ∧ record.unparsable? .audioChannels = none) ∧
    (record.value? .languages = none ∧ record.unparsable? .languages = none) := by
  have hsample : (compile .standard .source markedPattern markedMapping).toOption.any (fun kit =>
      (kit.pattern.matchesIn "On X: good").map Pattern.Match.groups ==
        [[some "On X: good", some "X", some "good", none, some ""]]) = true := by
    decide +kernel
  obtain ⟨kit, hkit, hgroups⟩ := Except.exists_of_any_toOption hsample
  obtain ⟨found, hfound, hgroups⟩ := List.map_eq_singleton_iff.1 (beq_iff_eq.1 hgroups)
  obtain ⟨hreports, -, -, hfirst, -⟩ := records_report hkit "On X: good"
  -- With one match in the text, its report settles what the first record says of each field.
  rw [hfound] at hreports
  obtain ⟨record, _, hreport, -, hrecords⟩ := List.forall₂_cons_left_iff.1 hreports
  refine ⟨kit, record, hkit, by rw [hfirst, hrecords]; rfl, ?_, ?_, ?_, ?_, ?_⟩
  · have hmem : (1, .channel) ∈ markedMapping := by decide
    exact hreport.eq_of_reads hmem (Registry.parser?_standard _)
      (by rw [hgroups]; rfl) (.value "X" (.text "X") (by decide) (by decide))
  · have hmem : (2, .resolution) ∈ markedMapping := by decide
    exact hreport.eq_of_reads hmem (Registry.parser?_standard _)
      (by rw [hgroups]; rfl) (.rejected "good" (by decide) (by decide))
  · have hmem : (3, .filesize) ∈ markedMapping := by decide
    exact hreport.eq_of_reads hmem (Registry.parser?_standard _)
      (by rw [hgroups]; rfl) .apart
  · have hmem : (4, .audioChannels) ∈ markedMapping := by decide
    exact hreport.eq_of_reads hmem (Registry.parser?_standard _)
      (by rw [hgroups]; rfl) .empty
  · exact hreport.unmapped .languages (by simp [markedMapping, Mapping.ofList, Mapping.insert])

end Kit

end Footage
