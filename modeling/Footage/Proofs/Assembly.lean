import Footage.Proofs.Kinds

/-!
# What is made of records

A record says what the fields of an event or a source are. Each field is looked up by its kind, and
a value of another kind fails the look-up. Where no look-up fails, the event or source holds the
values of the record. What the record has no value for is absent, or takes its default, and warnings
tell of the defaults of four fields.

## Main definitions

* `Record.Misfits`: a record has a value of a field that is of another kind than the field's.
* `Record.Finds`: what a look-up finds.
* `Record.missing?`: the warning about a field without a value.
* `VideoSource.Holds` and `Event.Holds`: the fields of a source or an event hold what a record says,
  or their defaults.

## Main results

* `Record.looksUp`: a look-up finds the value of its field, unless it misfits.
* `VideoSource.holds_of_ofRecord`: the sources that are made of records.
* `Event.map_ofRecord`: an event can be made of a record exactly if six look-ups succeed.
* `Event.Holds.unique`: an event is determined by the record that it is made of.
* `Event.ofRecord_iff_holds`: the events that are made of records, and the records of which no event
  can be made.
-/

namespace Footage

open Calendar

/-! ## Look-ups -/

namespace Record

/-- The record has a value of a field that is of another kind than the field's. -/
def Misfits (record : Record) (field : Field) : Prop :=
  ∃ value, record.value? field = some value ∧ value.kind ≠ field.kind

/-- The failure of looking up a value of another kind than the field's. -/
def misfit (field : Field) (value : Value) : Failure :=
  .misconfigured (.wrongKind field field.kind value.kind)

/-- What a look-up of a field by its kind finds. -/
inductive Finds {α : Type} (record : Record) (make : α → Value) (field : Field) :
    Except Failure (Option α) → Prop
  /-- The field has no value. -/
  | absent (hvalue : record.value? field = none) : Finds record make field (.ok none)
  /-- The field has a value of its kind. -/
  | content (content : α) (hvalue : record.value? field = some (make content))
      (hkind : (make content).kind = field.kind) : Finds record make field (.ok (some content))
  /-- The field has a value of another kind. -/
  | misfit (value : Value) (hvalue : record.value? field = some value)
      (hkind : value.kind ≠ field.kind) : Finds record make field (.error (misfit field value))

/-- Each look-up of a field by its kind finds the value of the field, unless it misfits. -/
structure LooksUp (record : Record) : Prop where
  text : ∀ field : Field, field.kind = .text → record.Finds .text field (record.text? field)
  team : ∀ field : Field, field.kind = .team → record.Finds .team field (record.team? field)
  competition : ∀ field : Field, field.kind = .competition →
    record.Finds .competition field (record.competition? field)
  season : ∀ field : Field, field.kind = .season →
    record.Finds .season field (record.season? field)
  fixture : ∀ field : Field, field.kind = .fixture →
    record.Finds .fixture field (record.fixture? field)
  date : ∀ field : Field, field.kind = .date → record.Finds .date field (record.date? field)
  resolution : ∀ field : Field, field.kind = .resolution →
    record.Finds .resolution field (record.resolution? field)
  integer : ∀ field : Field, field.kind = .integer →
    record.Finds .integer field (record.integer? field)
  channels : ∀ field : Field, field.kind = .channels →
    record.Finds .channels field (record.channels? field)

/-- Passes unless the record has a value of a field that is of another kind than the field's. -/
def check (record : Record) (field : Field) : Except Failure Unit :=
  match record.value? field with
  | none => .ok ()
  | some value => if value.kind = field.kind then .ok () else .error (misfit field value)

section Lookup

variable {α : Type} {record : Record} {field : Field} {make : α → Value}

/-- A look-up that takes exactly the values of the field's kind finds the field. -/
theorem finds_typed? {expected : Kind} {extract : Value → Option α} (hfield : field.kind = expected)
    (hextract : ∀ value : Value, if value.kind = expected then
      ∃ content, extract value = some content ∧ value = make content else extract value = none) :
    record.Finds make field (record.typed? expected extract field) := by
  subst hfield
  rw [typed?]
  -- What a look-up finds depends on whether there is a value, and then on its kind only.
  cases hvalue : record.value? field with
  | none => exact .absent hvalue
  | some value =>
    have htaken := hextract value
    by_cases hkind : value.kind = field.kind
    · rw [if_pos hkind] at htaken
      obtain ⟨content, hcontent, rfl⟩ := htaken
      simp only [hcontent]
      exact .content content hvalue hkind
    · rw [if_neg hkind] at htaken
      simp only [htaken]
      exact .misfit value hvalue hkind

/-- Look-ups find the values of fields. -/
theorem looksUp (record : Record) : record.LooksUp := by
  -- Each look-up takes the values of its own kind, and no others.
  constructor <;> intro field hfield <;> refine finds_typed? hfield ?_ <;>
    rintro (_ | _ | _ | _ | _ | _ | _ | _ | _) <;> simp [Value.kind]

/-- A look-up that succeeds finds the value of the field, or that it has none. -/
theorem Finds.value?_eq {outcome : Except Failure (Option α)} {found : Option α}
    (h : record.Finds make field outcome) (hfound : outcome = .ok found) :
    record.value? field = found.map make := by
  cases h with
  | absent hvalue =>
    cases hfound
    exact hvalue
  | content content hvalue hkind =>
    cases hfound
    exact hvalue
  | misfit value hvalue hkind => cases hfound

/-- Where no value is of a wrong kind, look-ups succeed. -/
theorem Finds.exists_eq_ok {outcome : Except Failure (Option α)}
    (h : record.Finds make field outcome) (hrecord : record.WellKinded) :
    ∃ found, outcome = .ok found := by
  cases h with
  | absent => exact ⟨none, rfl⟩
  | content content => exact ⟨some content, rfl⟩
  | misfit value hvalue hkind => exact absurd (hrecord field value hvalue) hkind

/-- A look-up fails as the check of its field does. -/
theorem Finds.check_eq {outcome : Except Failure (Option α)}
    (h : record.Finds make field outcome) : record.check field = outcome.map fun _ => () := by
  cases h with
  | absent hvalue => simp [check, hvalue, Except.map]
  | content content hvalue hkind => simp [check, hvalue, hkind, Except.map]
  | misfit value hvalue hkind => simp [check, hvalue, hkind, Except.map]

/-- A check passes unless the field misfits. -/
theorem check_eq_ok_iff : record.check field = .ok () ↔ ¬record.Misfits field := by
  rw [check, Misfits]
  cases record.value? field with
  | none => simp
  | some value => by_cases hkind : value.kind = field.kind <;> simp [hkind]

/-- A check fails with the value that misfits. -/
theorem check_eq_error_iff {failure : Failure} : record.check field = .error failure ↔
    ∃ value, record.value? field = some value ∧ value.kind ≠ field.kind ∧
      failure = misfit field value := by
  rw [check]
  cases record.value? field with
  | none => simp
  | some value =>
    by_cases hkind : value.kind = field.kind
    · simp [hkind]
    · simpa [hkind] using eq_comm

end Lookup

/-! ## Defaults -/

/-- The warning about a field, if it has no value. It tells the text that was captured for the field
and could not be read, if there is one. -/
def missing? (record : Record) (field : Field) : Option Warning :=
  match record.value? field with
  | some _ => none
  | none => some ⟨field, record.unparsable? field⟩

/-- There is a warning about a field exactly if it has no value. -/
theorem missing?_eq_some_iff {record : Record} {field : Field} {warning : Warning} :
    record.missing? field = some warning ↔
      record.value? field = none ∧ warning = ⟨field, record.unparsable? field⟩ := by
  rw [missing?]
  cases record.value? field <;> simp [eq_comm]

/-- The warnings about some fields are those about the fields without a value, in their order. -/
theorem filterMap_missing? (record : Record) (fields : List Field) :
    fields.filterMap record.missing? =
      (fields.filter fun field => record.value? field = none).map fun field =>
        ⟨field, record.unparsable? field⟩ := by
  induction fields with
  | nil => rfl
  | cons field rest ih =>
    cases hvalue : record.value? field <;> simp [missing?, hvalue, ih]

/-- A field without a value is the one that the warning is about. -/
theorem field_of_missing? {record : Record} {field : Field} {warning : Warning}
    (h : record.missing? field = some warning) : warning.field = field := by
  obtain ⟨-, rfl⟩ := missing?_eq_some_iff.1 h
  rfl

end Record

/-- A field that is never absent holds the value that was read for it, or else its default. -/
inductive Takes {α : Type} (make : α → Value) (default : α) : Option Value → α → Prop
  | read (value : α) : Takes make default (some (make value)) value
  | default : Takes make default none default

/-- A value that may be absent is taken with the default in its place. -/
theorem takes_getD {α : Type} (make : α → Value) (default : α) (value : Option α) :
    Takes make default (value.map make) (value.getD default) := by
  cases value with
  | none => exact .default
  | some value => exact .read value

/-- What a field holds is the value that was read, if there is one. -/
theorem Takes.exists_eq {α : Type} {make : α → Value} {default value : α} {read : Option Value}
    (h : Takes make default read value) :
    ∃ found : Option α, read = found.map make ∧ value = found.getD default := by
  cases h with
  | read => exact ⟨some value, rfl, rfl⟩
  | default => exact ⟨none, rfl, rfl⟩

/-- A field holds one value only. -/
theorem Takes.unique {α : Type} {make : α → Value} {default value other : α} {read : Option Value}
    (hmake : make.Injective) (h : Takes make default read value)
    (hother : Takes make default read other) : value = other := by
  obtain ⟨found, rfl, rfl⟩ := h.exists_eq
  obtain ⟨otherFound, heq, rfl⟩ := hother.exists_eq
  rw [Option.map_injective hmake heq]

namespace Record

variable {record : Record} {field : Field}

/-- A value that is made of content of the field's kind does not misfit. -/
theorem not_misfits_of_value?_eq {α : Type} {make : α → Value} {found : Option α}
    (hmake : ∀ content, (make content).kind = field.kind)
    (h : record.value? field = found.map make) : ¬record.Misfits field := by
  rintro ⟨value, hvalue, hkind⟩
  rw [h] at hvalue
  obtain ⟨content, -, rfl⟩ := Option.map_eq_some_iff.1 hvalue
  exact hkind (hmake content)

/-- The number of a field is the one that was read, or zero. -/
theorem takes_of_number {number : UInt64} (hfield : field.kind = .integer)
    (h : record.number field = .ok number) : Takes .integer 0 (record.value? field) number := by
  obtain ⟨found, hfound, rfl⟩ := Except.map_eq_ok_iff.1 h
  rw [(record.looksUp.integer field hfield).value?_eq hfound]
  exact takes_getD .integer 0 found

/-- A default comes with the warning about the field, and a value with none. -/
theorem orDefault_eq {α : Type} {make : α → Value} {value : Option α}
    (h : record.value? field = value.map make) (default : α) :
    orDefault default (record.defaultWarning field) value =
      (value.getD default, (record.missing? field).toList) := by
  rw [missing?, h]
  cases value <;> rfl

/-- Where no value is of a wrong kind, numbers can be looked up. -/
theorem WellKinded.exists_number (h : record.WellKinded) (field : Field)
    (hfield : field.kind = .integer) : ∃ number, record.number field = .ok number := by
  obtain ⟨found, hfound⟩ := (record.looksUp.integer field hfield).exists_eq_ok h
  exact ⟨found.getD 0, by simp [Record.number, hfound, Except.map]⟩

end Record

/-! ## Sources -/

/-- A record without values of wrong kinds describes a source, which has no packs yet. -/
theorem VideoSource.exists_ofRecord {record : Record} (h : record.WellKinded) :
    ∃ described, ofRecord record = .ok described ∧ described.1.packs = [] := by
  have hfinds := record.looksUp
  -- A look-up fails only for a value of another kind, which the record does not have.
  obtain ⟨resolution, hresolution⟩ := (hfinds.resolution .resolution rfl).exists_eq_ok h
  obtain ⟨channel, hchannel⟩ := (hfinds.text .channel rfl).exists_eq_ok h
  obtain ⟨source, hsource⟩ := (hfinds.text .source rfl).exists_eq_ok h
  obtain ⟨duration, hduration⟩ := (hfinds.text .approximateDuration rfl).exists_eq_ok h
  obtain ⟨languages, hlanguages⟩ := (hfinds.text .languages rfl).exists_eq_ok h
  obtain ⟨container, hcontainer⟩ := (hfinds.text .mediaContainer rfl).exists_eq_ok h
  obtain ⟨video, hvideo⟩ := (hfinds.text .videoCodec rfl).exists_eq_ok h
  obtain ⟨audio, haudio⟩ := (hfinds.text .audioCodec rfl).exists_eq_ok h
  obtain ⟨channels, hchannels⟩ := (hfinds.channels .audioChannels rfl).exists_eq_ok h
  obtain ⟨videoRate, hvideoRate⟩ := h.exists_number .videoBitrate rfl
  obtain ⟨audioRate, haudioRate⟩ := h.exists_number .audioBitrate rfl
  obtain ⟨size, hsize⟩ := h.exists_number .filesize rfl
  obtain ⟨rate, hrate⟩ := h.exists_number .framerate rfl
  rw [ofRecord, hresolution, hchannel, hsource, hduration, hlanguages, hcontainer, hvideo, haudio,
    hchannels, hvideoRate, haudioRate, hsize, hrate]
  exact ⟨_, rfl, rfl⟩

/-- The fields of a source hold the values of a record. What the record has no value for is absent,
or takes its default. A frame rate is held if it fits in 32 bits, and is zero otherwise. -/
structure VideoSource.Holds (video : VideoSource) (record : Record) : Prop where
  channel : record.value? .channel = video.channel.map .text
  source : record.value? .source = video.source.map .text
  approximateDuration : record.value? .approximateDuration = video.approximateDuration.map .text
  languages : record.value? .languages = video.languages.map .text
  mediaContainer : record.value? .mediaContainer = video.mediaContainer.map .text
  videoCodec : record.value? .videoCodec = video.videoCodec.map .text
  audioCodec : record.value? .audioCodec = video.audioCodec.map .text
  resolution : Takes .resolution .standard (record.value? .resolution) video.resolution
  audioChannels : Takes .channels 0 (record.value? .audioChannels) video.audioChannels
  videoBitrate : Takes .integer 0 (record.value? .videoBitrate) video.videoBitrate
  audioBitrate : Takes .integer 0 (record.value? .audioBitrate) video.audioBitrate
  filesize : Takes .integer 0 (record.value? .filesize) video.filesize
  framerate : ∃ rate, Takes .integer 0 (record.value? .framerate) rate ∧
    video.framerate.toNat = if rate.toNat < UInt32.size then rate.toNat else 0

/-- A source that is made of a record holds its values. The only warning is the one about a missing
resolution. -/
theorem VideoSource.holds_of_ofRecord {record : Record} {video : VideoSource}
    {warnings : List Warning} (h : ofRecord record = .ok (video, warnings)) :
    video.Holds record ∧ warnings = (record.missing? .resolution).toList := by
  simp only [ofRecord, Except.bind_eq_ok_iff] at h
  obtain ⟨resolution, hresolution, channel, hchannel, origin, horigin, duration, hduration,
    languages, hlanguages, container, hcontainer, videoCodec, hvideoCodec, audioCodec, haudioCodec,
    channels, hchannels, videoRate, hvideoRate, audioRate, haudioRate, size, hsize, narrowed,
    hnarrowed, hvideo⟩ := h
  obtain ⟨rate, hrate, rfl⟩ := Except.map_eq_ok_iff.1 hnarrowed
  have hfinds := record.looksUp
  -- The resolution is the only field whose default leaves a warning.
  have hvalue := (hfinds.resolution .resolution rfl).value?_eq hresolution
  rw [Record.orDefault_eq hvalue] at hvideo
  cases hvideo
  refine ⟨?_, rfl⟩
  constructor
  · exact (hfinds.text .channel rfl).value?_eq hchannel
  · exact (hfinds.text .source rfl).value?_eq horigin
  · exact (hfinds.text .approximateDuration rfl).value?_eq hduration
  · exact (hfinds.text .languages rfl).value?_eq hlanguages
  · exact (hfinds.text .mediaContainer rfl).value?_eq hcontainer
  · exact (hfinds.text .videoCodec rfl).value?_eq hvideoCodec
  · exact (hfinds.text .audioCodec rfl).value?_eq haudioCodec
  · rw [hvalue]
    exact takes_getD .resolution .standard resolution
  · rw [(hfinds.channels .audioChannels rfl).value?_eq hchannels]
    exact takes_getD .channels 0 channels
  · exact Record.takes_of_number rfl hvideoRate
  · exact Record.takes_of_number rfl haudioRate
  · exact Record.takes_of_number rfl hsize
  · -- A rate that does not fit into 32 bits is narrowed to none.
    refine ⟨rate, Record.takes_of_number rfl hrate, ?_⟩
    have hlt : rate < 4294967296 ↔ rate.toNat < UInt32.size := UInt64.lt_iff_toNat_lt
    by_cases hfits : rate.toNat < UInt32.size
    · rw [if_pos (hlt.2 hfits), if_pos hfits, UInt64.toNat_toUInt32, Nat.mod_eq_of_lt hfits]
    · rw [if_neg fun hless => hfits (hlt.1 hless), if_neg hfits]
      rfl

/-- The packs of a source are none of the fields that a record holds. -/
theorem VideoSource.Holds.withPacks {video : VideoSource} {record : Record}
    (h : video.Holds record) (packs : List Pack) : ({ video with packs }).Holds record :=
  { h with }

/-! ## Events -/

namespace Event

/-- The fields that an event is made of, in the order in which they are looked up. -/
def lookedUp : List Field :=
  [.date, .season, .fixture, .competition, .homeTeam, .awayTeam]

/-- The fields of an event hold the values of a record. What the record has no value for is absent,
or takes its default. There is one warning for each default, in the order of the date, the season
and the fixture, with the text that could not be read if there is one. -/
structure Holds (event : Event) (today : Day) (record : Record) : Prop where
  competition : record.value? .competition = event.competition.map .competition
  homeTeam : record.value? .homeTeam = event.homeTeam.map .team
  awayTeam : record.value? .awayTeam = event.awayTeam.map .team
  season : Takes .season (.startingIn today.year) (record.value? .season) event.season
  fixture : Takes .fixture .unnamed (record.value? .fixture) event.fixture
  date : Takes .date (.startOf today) (record.value? .date) event.date
  sources : event.sources = []
  warnings : event.warnings =
    ([Field.date, .season, .fixture].filter fun field => record.value? field = none).map
      fun field => ⟨field, record.unparsable? field⟩

variable {today : Day} {record : Record} {event : Event}

/-- Making an event of a record fails as the first look-up that fails. -/
theorem map_ofRecord (today : Day) (record : Record) :
    (ofRecord today record).map (fun _ => ()) = forM lookedUp record.check := by
  have hfinds := record.looksUp
  simp only [lookedUp, List.forM_cons, List.forM_nil, ofRecord,
    (hfinds.date .date rfl).check_eq, (hfinds.season .season rfl).check_eq,
    (hfinds.fixture .fixture rfl).check_eq, (hfinds.competition .competition rfl).check_eq,
    (hfinds.team .homeTeam rfl).check_eq, (hfinds.team .awayTeam rfl).check_eq]
  -- The first look-up that fails ends both sides, and if none does both succeed.
  rcases record.date? .date with failure | date
  · rfl
  rcases record.season? .season with failure | season
  · rfl
  rcases record.fixture? .fixture with failure | fixture
  · rfl
  rcases record.competition? .competition with failure | competition
  · rfl
  rcases record.team? .homeTeam with failure | home
  · rfl
  rcases record.team? .awayTeam with failure | away
  · rfl
  rfl

/-- An event that is made of a record holds its values. -/
theorem holds_of_ofRecord (h : ofRecord today record = .ok event) : event.Holds today record := by
  simp only [ofRecord, Except.bind_eq_ok_iff] at h
  obtain ⟨date, hdate, season, hseason, fixture, hfixture, competition, hcompetition, home, hhome,
    away, haway, hevent⟩ := h
  have hfinds := record.looksUp
  have hdateValue := (hfinds.date .date rfl).value?_eq hdate
  have hseasonValue := (hfinds.season .season rfl).value?_eq hseason
  have hfixtureValue := (hfinds.fixture .fixture rfl).value?_eq hfixture
  -- These three fields have defaults, so that each of them may add a warning.
  rw [Record.orDefault_eq hdateValue, Record.orDefault_eq hseasonValue,
    Record.orDefault_eq hfixtureValue] at hevent
  cases hevent
  constructor
  · exact (hfinds.competition .competition rfl).value?_eq hcompetition
  · exact (hfinds.team .homeTeam rfl).value?_eq hhome
  · exact (hfinds.team .awayTeam rfl).value?_eq haway
  · rw [hseasonValue]
    exact takes_getD .season _ season
  · rw [hfixtureValue]
    exact takes_getD .fixture _ fixture
  · rw [hdateValue]
    exact takes_getD .date _ date
  · rfl
  · rw [← Record.filterMap_missing?, List.filterMap_eq_flatMap_toList]
    simp

/-- An event can be made of a record exactly if no field that is looked up misfits. -/
theorem exists_eq_ofRecord_iff (today : Day) (record : Record) :
    (∃ event, ofRecord today record = .ok event) ↔ ∀ field ∈ lookedUp, ¬record.Misfits field := by
  have hmap := map_ofRecord today record
  simp only [← Record.check_eq_ok_iff, ← Except.forM_eq_ok_iff, ← hmap, Except.map_eq_ok_iff,
    and_true]

/-- A record without values of wrong kinds describes an event, which has no sources yet. -/
theorem exists_ofRecord (h : record.WellKinded) (today : Day) :
    ∃ event, ofRecord today record = .ok event ∧ event.sources = [] := by
  have hfits : ∀ field ∈ lookedUp, ¬record.Misfits field := fun field _ ⟨value, hvalue, hkind⟩ =>
    hkind (h field value hvalue)
  obtain ⟨event, hevent⟩ := (exists_eq_ofRecord_iff today record).2 hfits
  exact ⟨event, hevent, (holds_of_ofRecord hevent).sources⟩

/-- No field of an event that holds the values of a record misfits. -/
theorem Holds.not_misfits (h : event.Holds today record) :
    ∀ field ∈ lookedUp, ¬record.Misfits field := by
  obtain ⟨date, hdate, -⟩ := h.date.exists_eq
  obtain ⟨season, hseason, -⟩ := h.season.exists_eq
  obtain ⟨fixture, hfixture, -⟩ := h.fixture.exists_eq
  simp only [lookedUp, List.forall_mem_cons]
  refine ⟨?_, ?_, ?_, ?_, ?_, ?_, List.forall_mem_nil _⟩
  · exact Record.not_misfits_of_value?_eq (fun _ => rfl) hdate
  · exact Record.not_misfits_of_value?_eq (fun _ => rfl) hseason
  · exact Record.not_misfits_of_value?_eq (fun _ => rfl) hfixture
  · exact Record.not_misfits_of_value?_eq (fun _ => rfl) h.competition
  · exact Record.not_misfits_of_value?_eq (fun _ => rfl) h.homeTeam
  · exact Record.not_misfits_of_value?_eq (fun _ => rfl) h.awayTeam

/-- A record determines the event that holds its values. -/
theorem Holds.unique {other : Event} (h : event.Holds today record)
    (hother : other.Holds today record) : event = other := by
  ext1
  · exact Option.map_injective (fun _ _ => Value.competition.inj)
      (h.competition.symm.trans hother.competition)
  · exact Option.map_injective (fun _ _ => Value.team.inj) (h.homeTeam.symm.trans hother.homeTeam)
  · exact Option.map_injective (fun _ _ => Value.team.inj) (h.awayTeam.symm.trans hother.awayTeam)
  · exact h.season.unique (fun _ _ => Value.season.inj) hother.season
  · exact h.fixture.unique (fun _ _ => Value.fixture.inj) hother.fixture
  · exact h.date.unique (fun _ _ => Value.date.inj) hother.date
  · rw [h.sources, hother.sources]
  · rw [h.warnings, hother.warnings]

/-- An event is made of a record exactly if it holds the values of the record. -/
theorem ofRecord_eq_ok_iff : ofRecord today record = .ok event ↔ event.Holds today record := by
  refine ⟨holds_of_ofRecord, fun h => ?_⟩
  -- Nothing misfits, so that there is an event. It holds the same values, and is the same.
  obtain ⟨other, hother⟩ := (exists_eq_ofRecord_iff today record).2 h.not_misfits
  rw [hother, (holds_of_ofRecord hother).unique h]

/-- A field was defaulted if it is the date, the season or the fixture and has no value. -/
theorem Holds.wasDefaulted_iff (h : event.Holds today record) {field : Field} :
    event.wasDefaulted field = true ↔
      field ∈ [Field.date, .season, .fixture] ∧ record.value? field = none := by
  rw [wasDefaulted, h.warnings, List.any_eq_true]
  constructor
  · rintro ⟨warning, hwarning, hfield⟩
    obtain ⟨other, hother, rfl⟩ := List.mem_map.1 hwarning
    obtain rfl : other = field := of_decide_eq_true hfield
    simpa using hother
  · rintro ⟨hfield, hnone⟩
    exact ⟨_, List.mem_map_of_mem (List.mem_filter.2 ⟨hfield, by simpa using hnone⟩),
      decide_eq_true rfl⟩

/-- An event is resolved exactly if the record has both a competition and a date. -/
theorem Holds.isResolved_iff (h : event.Holds today record) :
    event.isResolved = true ↔
      (∃ competition, record.value? .competition = some (.competition competition)) ∧
        ∃ moment, record.value? .date = some (.date moment) := by
  rw [isResolved, Bool.and_eq_true, Bool.not_eq_true', ← Bool.not_eq_true, h.wasDefaulted_iff]
  -- The date was not defaulted exactly if it was read, and then it is of the kind of dates.
  obtain ⟨moment, hmoment, -⟩ := h.date.exists_eq
  rw [h.competition, hmoment]
  refine and_congr ?_ ?_
  · cases event.competition <;> simp
  · cases moment <;> simp

/-- An event is made of a record exactly if it holds the values of the record: its competition and
its teams are those of the record or absent, its date, season and fixture are those of the record or
the defaults, and it has one warning for each default, in the order of these three fields, with the
text that could not be read if there is one. It is resolved exactly if the record has both a
competition and a date. No event can be made of a record exactly if a value misfits. The failure is
then that of the first field that misfits. -/
theorem ofRecord_iff_holds (today : Day) (record : Record) :
    (∀ event, ofRecord today record = .ok event ↔ event.Holds today record) ∧
      (∀ event, ofRecord today record = .ok event → (event.isResolved = true ↔
        (∃ competition, record.value? .competition = some (.competition competition)) ∧
          ∃ moment, record.value? .date = some (.date moment))) ∧
      ((∃ failure, ofRecord today record = .error failure) ↔
        ∃ field ∈ lookedUp, record.Misfits field) ∧
      ∀ failure, ofRecord today record = .error failure ↔
        ∃ before field after, lookedUp = before ++ field :: after ∧
          (∀ other ∈ before, ¬record.Misfits other) ∧
          ∃ value, record.value? field = some value ∧ value.kind ≠ field.kind ∧
            failure = .misconfigured (.wrongKind field field.kind value.kind) := by
  refine ⟨fun event => ofRecord_eq_ok_iff, fun event hevent => ?_, ?_, fun failure => ?_⟩
  · exact (holds_of_ofRecord hevent).isResolved_iff
  · rw [Except.exists_eq_error_iff, exists_eq_ofRecord_iff]
    simp only [not_forall, not_not, exists_prop]
  · -- The failure is that of the checks, of which the first that does not pass counts.
    rw [← Except.map_eq_error_iff, map_ofRecord, Except.forM_eq_error_iff]
    simp only [Record.check_eq_ok_iff, Record.check_eq_error_iff, Record.misfit]

/-- A record with a competition and a season, whose date could not be read. -/
def undated : Record :=
  ((Record.empty.insert .competition (.value (.competition ⟨"Cup"⟩))).insert .date
    (.unparsable "31/02/2024")).insert .season (.value (.season ⟨2023, 2024⟩))

/-- The event without a date takes place today. Its warnings tell of the text in place of the date,
and of no text in place of the fixture, and it is not resolved. With a text for the away team the
record describes no event. -/
theorem undated_holds : ∃ event, ofRecord ⟨2024, 8, 2, by decide⟩ undated = .ok event ∧
    event.Holds ⟨2024, 8, 2, by decide⟩ undated ∧
    event.warnings = [⟨.date, some "31/02/2024"⟩, ⟨.fixture, none⟩] ∧
    event.isResolved = false ∧
    ofRecord ⟨2024, 8, 2, by decide⟩ (undated.insert .awayTeam (.value (.text "B"))) =
      .error (.misconfigured (.wrongKind .awayTeam .team .text)) := by
  obtain ⟨hholds, hresolved, -, -⟩ := ofRecord_iff_holds ⟨2024, 8, 2, by decide⟩ undated
  have hevent : Holds
      { competition := some ⟨"Cup"⟩, season := ⟨2023, 2024⟩, fixture := .unnamed,
        date := .startOf ⟨2024, 8, 2, by decide⟩,
        warnings := [⟨.date, some "31/02/2024"⟩, ⟨.fixture, none⟩] }
      ⟨2024, 8, 2, by decide⟩ undated :=
    ⟨rfl, rfl, rfl, .read (⟨2023, 2024⟩ : Season), .default, .default, rfl, by decide⟩
  have hmade := (hholds _).2 hevent
  refine ⟨_, hmade, hevent, rfl, ?_, ?_⟩
  · rw [← Bool.not_eq_true, hresolved _ hmade]
    rintro ⟨-, moment, hmoment⟩
    cases hmoment
  · -- The five fields that are looked up before the away team fit.
    obtain ⟨-, -, -, hfails⟩ := ofRecord_iff_holds ⟨2024, 8, 2, by decide⟩
      (undated.insert .awayTeam (.value (.text "B")))
    refine (hfails _).2 ⟨[.date, .season, .fixture, .competition, .homeTeam], .awayTeam, [], rfl,
      ?_, .text "B", rfl, by decide, rfl⟩
    simp [Record.Misfits, undated, Record.insert, Record.empty, Value.kind, Field.kind]

end Event

end Footage
