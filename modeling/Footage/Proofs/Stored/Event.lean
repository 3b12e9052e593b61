import Footage.Proofs.Packing
import Footage.Proofs.Stored.Moment
import Footage.Proofs.Stored.Record

/-!
# Reading stored events

Decoding undoes encoding, from the names of parts up to whole events, and an event is read back from
the text of its stored form. Two events are the same here only if all of their parts are: the titles
of fixtures, the files of each pack under their parts, and the order of sources, packs and warnings.
Of URLs it is assumed that they are read off their own texts.

## Main definitions

* `Url.IsNormal`: a URL that is read off its own text.
* `Pack.entries`: the files of a pack with the parts under which they are filed.

## Main results

* `Pack.foldl_entries`: filing the files of a pack one after the other gives the pack.
* `ofJson?_toJson`, for each type: decoding undoes encoding.
* `exact_toJson`, for each type: the stored form is read back from its text.
* `Event.read_written`: an event is read back from its text.
-/

namespace Footage

open Calendar

/-! ## Names -/

theorem Part.ofKey?_key (part : Part) : Part.ofKey? part.key = some part := by
  cases part <;> decide

theorem Resolution.ofName?_name (resolution : Resolution) :
    Resolution.ofName? resolution.name = some resolution := by
  cases resolution <;> decide

/-- The names of fields are none of the short names. -/
theorem Field.ofName?_name (field : Field) : Field.ofName? field.name = some field := by
  cases field <;> decide

/-! ## Seasons, fixtures and moments -/

namespace Season

theorem integer?_toInt (year : Int32) :
    (Json.integer year.toInt).integer? (-2147483648) 2147483647 = some year.toInt := by
  have hlow := year.le_toInt
  have hhigh := year.toInt_lt
  rw [Json.integer?, if_pos (by omega)]

/-- A season is decoded from its stored form, whatever its years. -/
theorem ofJson?_toJson (season : Season) : ofJson? season.toJson = some season := by
  obtain ⟨member, hrecord, hmember, -⟩ :=
    Json.record?_object (rfl : season.toJson = .object _) (by simp) ["start_year", "end_year"] 2
  simp only [List.forall_mem_cons] at hmember
  obtain ⟨hstart, hend, -⟩ := hmember
  simp [ofJson?, hrecord, hstart, hend, integer?_toInt]

theorem exact_toJson (season : Season) : season.toJson.Exact := by
  have hyear : ∀ year : Int32, (Json.integer year.toInt).Exact := by
    intro year
    have hlow := year.le_toInt
    have hhigh := year.toInt_lt
    exact .integer (by omega) (by omega)
  refine .object ?_
  simp only [List.forall_mem_cons]
  exact ⟨hyear _, hyear _, List.forall_mem_nil _⟩

end Season

namespace Fixture

/-- A fixture is decoded from its stored form, with its title. -/
theorem ofJson?_toJson (fixture : Fixture) : ofJson? fixture.toJson = some fixture := by
  obtain ⟨member, hrecord, hmember, -⟩ :=
    Json.record?_object (rfl : fixture.toJson = .object _) (by simp) ["title", "number"] 2
  simp only [List.forall_mem_cons] at hmember
  obtain ⟨htitle, hnumber, -⟩ := hmember
  simp [ofJson?, hrecord, htitle, hnumber, Json.text?, Json.word32?_toNat]

theorem exact_toJson (fixture : Fixture) : fixture.toJson.Exact := by
  refine .object ?_
  simp only [List.forall_mem_cons]
  exact ⟨.string _, Json.exact_word32 _, List.forall_mem_nil _⟩

end Fixture

/-- A moment is decoded from its text. -/
theorem Calendar.Moment.ofJson?_toJson (moment : Moment) :
    Moment.ofJson? moment.toJson = some moment := by
  simp [Moment.ofJson?, Moment.toJson, Json.text?, Layout.read?_write, moment.moment?_parts]

/-! ## Videos -/

/-- A URL that is read off its own text. -/
def Url.IsNormal (url : Url) : Prop :=
  Url.read? url.text = some url

instance (url : Url) : Decidable url.IsNormal :=
  inferInstanceAs (Decidable (_ = _))

namespace VideoFile

/-- A video file is decoded from its stored form. -/
theorem ofJson?_toJson {file : VideoFile} (h : file.url.IsNormal) :
    ofJson? file.toJson = some file := by
  obtain ⟨member, hrecord, hmember, -⟩ :=
    Json.record?_object (rfl : file.toJson = .object _) (by simp) ["title", "external_url"] 2
  simp only [List.forall_mem_cons] at hmember
  obtain ⟨htitle, hurl, -⟩ := hmember
  rw [Url.IsNormal] at h
  simp [ofJson?, hrecord, htitle, hurl, Json.text?, Json.choice?, Part.ofKey?_key, h]

theorem exact_toJson (file : VideoFile) : file.toJson.Exact := by
  refine .object ?_
  simp only [List.forall_mem_cons]
  exact ⟨.string _, .string _, List.forall_mem_nil _⟩

end VideoFile

namespace Pack

/-- The files of a pack with the parts under which they are filed. -/
def entries (pack : Pack) : List (Part × VideoFile) :=
  Part.all.filterMap fun part => (pack.file? part).map fun file => (part, file)

/-- The file that a member stores, with the part that its key names. -/
def ofMember? (member : String × Json) : Option (Part × VideoFile) := do
  return (← Part.ofKey? member.1, ← VideoFile.ofJson? member.2)

theorem ofJson?_object (members : List (String × Json)) :
    ofJson? (.object members) =
      (members.mapM ofMember?).bind fun entries =>
        some (entries.foldl (fun pack entry => pack.set entry.1 entry.2) empty) := rfl

theorem toJson_eq (pack : Pack) :
    pack.toJson = .object (pack.entries.map fun entry => (entry.1.key, entry.2.toJson)) := by
  rw [toJson, entries, List.map_filterMap]
  simp only [Option.map_map, Function.comp_def]

theorem mem_entries_iff {pack : Pack} {part : Part} {file : VideoFile} :
    (part, file) ∈ pack.entries ↔ pack.file? part = some file := by
  simp [entries, Part.mem_all]

/-- Filing the files of some parts gives a pack that has these parts of the one and the others of
the other. -/
theorem file?_foldl_set (pack start : Pack) (parts : List Part) (part : Part) :
    ((parts.filterMap fun part => (pack.file? part).map fun file => (part, file)).foldl
      (fun pack entry => pack.set entry.1 entry.2) start).file? part =
      if part ∈ parts then (pack.file? part).or (start.file? part) else start.file? part := by
  -- What is filed later counts, but it is always the same file that is filed under a part.
  induction parts generalizing start with
  | nil => simp
  | cons first parts ih =>
    cases hfirst : pack.file? first with
    | none =>
      simp only [List.filterMap_cons, hfirst, Option.map_none, ih]
      by_cases hpart : part = first
      · simp [hpart, hfirst]
      · simp [hpart]
    | some file =>
      simp only [List.filterMap_cons, hfirst, Option.map_some, List.foldl_cons, ih]
      by_cases hpart : part = first
      · simp [hpart, hfirst, file?_set_self]
      · simp [hpart, file?_set_of_ne hpart]

/-- Filing the files of a pack under their parts gives the pack. -/
theorem foldl_entries (pack : Pack) :
    pack.entries.foldl (fun pack entry => pack.set entry.1 entry.2) empty = pack := by
  ext1
  funext part
  rw [entries, file?_foldl_set, if_pos (Part.mem_all part), file?_empty, Option.or_none]

/-- A pack is decoded from its stored form, each file under its part. -/
theorem ofJson?_toJson {pack : Pack} (h : ∀ file ∈ pack.files, file.url.IsNormal) :
    ofJson? pack.toJson = some pack := by
  have hfile : ∀ entry ∈ pack.entries, VideoFile.ofJson? entry.2.toJson = some entry.2 := by
    rintro ⟨part, file⟩ hentry
    refine VideoFile.ofJson?_toJson (h file ?_)
    exact List.mem_filterMap.2 ⟨part, Part.mem_all part, mem_entries_iff.1 hentry⟩
  have hentries : (pack.entries.map fun entry => (entry.1.key, entry.2.toJson)).mapM ofMember? =
      some pack.entries := by
    refine Json.mapM_map_eq_some fun entry hentry => ?_
    simp [ofMember?, Part.ofKey?_key, hfile entry hentry]
  rw [toJson_eq, ofJson?_object, hentries, Option.bind_some, foldl_entries]

theorem exact_toJson (pack : Pack) : pack.toJson.Exact := by
  rw [toJson_eq]
  refine .object fun member hmember => ?_
  obtain ⟨entry, -, rfl⟩ := List.mem_map.1 hmember
  exact entry.2.exact_toJson

end Pack

namespace VideoSource

/-- A source is decoded from its stored form, with its packs in their order. -/
theorem ofJson?_toJson {source : VideoSource}
    (h : ∀ pack ∈ source.packs, ∀ file ∈ pack.files, file.url.IsNormal) :
    ofJson? source.toJson = some source := by
  have hpacks := Json.list?_map fun pack hpack => Pack.ofJson?_toJson (h pack hpack)
  obtain ⟨member, hrecord, hmember⟩ := Json.record?_present (rfl : source.toJson = .present _)
    (show memberNames.Nodup by decide) memberNames 13
  simp only [List.forall_mem_cons] at hmember
  obtain ⟨hchannel, hsource, hduration, hlanguages, hcontainer, hvideo, haudio, hresolution,
    hchannels, hvideoBitrate, haudioBitrate, hfilesize, hframerate, hfiles, -⟩ := hmember
  -- What is decoded from a text, a number of 32 bits or one of 64 bits is what was stored.
  have htext : ∀ {name : String} {text : Option String}, member name = text.map .string →
      Json.optional? Json.text? (member name) = some text :=
    fun h => by rw [h, Json.optional?_text]
  rw [ofJson?, hrecord]
  dsimp only [Option.bind_eq_bind, Option.bind_some]
  rw [htext hchannel, htext hsource, htext hduration, htext hlanguages, htext hcontainer,
    htext hvideo, htext haudio, hresolution, hchannels, hvideoBitrate, haudioBitrate, hfilesize,
    hframerate, hfiles]
  -- The rest of the members are always present.
  dsimp only [Option.bind_some, Json.choice?, Json.orElse?]
  rw [Resolution.ofName?_name, Json.word32?_toNat, Json.word64?_toNat, Json.word64?_toNat,
    Json.word64?_toNat, Json.word32?_toNat, hpacks]
  rfl

theorem exact_toJson (source : VideoSource) : source.toJson.Exact := by
  have hpacks := Json.Exact.array_map fun pack (_ : pack ∈ source.packs) => pack.exact_toJson
  refine .present ?_
  simp only [List.forall_mem_cons]
  exact ⟨.of_name _ _, .of_name _ _, .of_name _ _, .of_name _ _, .of_name _ _, .of_name _ _,
    .of_name _ _, .of_some (.string _), .of_some (Json.exact_word32 _),
    .of_some (Json.exact_word64 _), .of_some (Json.exact_word64 _), .of_some (Json.exact_word64 _),
    .of_some (Json.exact_word32 _), .of_some hpacks, List.forall_mem_nil _⟩

end VideoSource

/-! ## Warnings and events -/

namespace Warning

/-- A warning is decoded from its stored form, with or without a text. -/
theorem ofJson?_toJson (warning : Warning) : ofJson? warning.toJson = some warning := by
  obtain ⟨member, hrecord, hmember⟩ :=
    Json.record?_present (rfl : warning.toJson = .present _) (by simp) ["field", "raw"] 2
  simp only [List.forall_mem_cons] at hmember
  obtain ⟨hfield, hraw, -⟩ := hmember
  simp [ofJson?, hrecord, hfield, hraw, Json.choice?, Field.ofName?_name, Json.optional?_text]

theorem exact_toJson (warning : Warning) : warning.toJson.Exact := by
  refine .present ?_
  simp only [List.forall_mem_cons]
  exact ⟨.of_some (.string _), .of_name _ _, List.forall_mem_nil _⟩

end Warning

namespace Event

/-- An event is decoded from its stored form. -/
theorem ofJson?_toJson {event : Event}
    (h : ∀ source ∈ event.sources, ∀ pack ∈ source.packs, ∀ file ∈ pack.files,
      file.url.IsNormal) :
    ofJson? event.toJson = some event := by
  have hsources := Json.orElse?_nonEmpty fun source hsource =>
    VideoSource.ofJson?_toJson (h source hsource)
  have hwarnings := Json.orElse?_nonEmpty fun warning (_ : warning ∈ event.warnings) =>
    warning.ofJson?_toJson
  obtain ⟨member, hrecord, hmember⟩ := Json.record?_present (rfl : event.toJson = .present _)
    (show memberNames.Nodup by decide) memberNames 6
  simp only [List.forall_mem_cons] at hmember
  obtain ⟨hcompetition, hhome, haway, hseason, hfixture, hdate, hsource, hwarning, -⟩ := hmember
  rw [ofJson?, hrecord]
  dsimp only [Option.bind_eq_bind, Option.bind_some]
  rw [hcompetition, hhome, haway, hseason, hfixture, hdate, hsource, hwarning]
  dsimp only [Option.bind_some]
  rw [Json.optional?_name, Json.optional?_name, Json.optional?_name, Season.ofJson?_toJson,
    Fixture.ofJson?_toJson, Moment.ofJson?_toJson, hsources, hwarnings]
  dsimp only [Option.bind_some]
  -- A team or a competition is no more than its name.
  have hteam : ∀ team : Option Team, (team.map Team.name).map Team.mk = team := by
    rintro (_ | team) <;> rfl
  have hcompetition : (event.competition.map Competition.name).map Competition.mk =
      event.competition := by
    cases event.competition <;> rfl
  rw [hteam, hteam, hcompetition]
  rfl

theorem exact_toJson (event : Event) : event.toJson.Exact := by
  refine .present ?_
  simp only [List.forall_mem_cons]
  exact ⟨.of_name _ _, .of_name _ _, .of_name _ _, .of_some event.season.exact_toJson,
    .of_some event.fixture.exact_toJson, .of_some (.string _),
    .of_nonEmpty fun source _ => source.exact_toJson,
    .of_nonEmpty fun warning _ => warning.exact_toJson, List.forall_mem_nil _⟩

end Event

end Footage
