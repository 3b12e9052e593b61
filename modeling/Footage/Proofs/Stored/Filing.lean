import Footage.Proofs.Outcome
import Footage.Proofs.Stored.Event
import Footage.Proofs.Variants

/-!
# Files under their parts

A pack that files are put into has each of them under its own part, so that its parts are those of
its files. A stored pack states the part of a file twice, as the key of a member and as the title of
the file in it. Decoding does not compare the two: what is filed under a part is the file in the
last member with the key of this part, whatever its title.

## Main definitions

* `Pack.put` and `Pack.puts`: a pack after files are put in, of which some may be refused.
* `Pack.AgreesWithFiles`: the parts of a pack are those of its files.
* `Json.lastMember?`: the value of the last member with a key.
* `Pack.IsTitled`: the files of a stored pack have the keys for titles that they stand under.
* `Event.storedPacks`: the stored packs of a stored event.

## Main results

* `Pack.isFiled_puts`: files that are put in stand under their parts.
* `Pack.isFiled_iff_agreesWithFiles`: what it means for a pack to have its files under their parts.
* `Pack.file?_of_ofJson?`: the files of a stored pack.
* `Pack.isFiled_iff_isTitled`: which stored packs have their files under their parts.
* `Event.packs_filed`: all of this together, for every stored event that is decoded.
-/

namespace Footage

namespace Pack

variable {pack : Pack} {file : VideoFile} {part : Part}

/-! ## Putting files in -/

/-- The pack after a file is put in. It stays as it is if the part of the file is taken. -/
def put (pack : Pack) (file : VideoFile) : Pack :=
  (pack.put? file).getD pack

/-- The pack of some files that are put in one after the other. -/
def puts (files : List VideoFile) : Pack :=
  files.foldl put empty

theorem isFiled_empty : empty.IsFiled := by
  intro part file hfile
  rw [file?_empty] at hfile
  cases hfile

/-- A file in its place leaves all files in theirs. -/
theorem IsFiled.set (h : pack.IsFiled) (file : VideoFile) : (pack.set file.part file).IsFiled := by
  intro part held hheld
  by_cases hpart : part = file.part
  · subst hpart
    rw [file?_set_self] at hheld
    rw [Option.some.inj hheld]
  · rw [file?_set_of_ne hpart] at hheld
    exact h part held hheld

/-- Whether or not a file is refused, all files stand under their parts after it is put in. -/
theorem IsFiled.put (h : pack.IsFiled) (file : VideoFile) : (pack.put file).IsFiled := by
  unfold Pack.put put?
  split_ifs
  · exact h.set file
  · exact h

/-- Files that are put in stand under their parts. -/
theorem isFiled_puts (files : List VideoFile) : (puts files).IsFiled := by
  have hfold : ∀ pack : Pack, pack.IsFiled → (files.foldl Pack.put pack).IsFiled := by
    induction files with
    | nil => exact fun pack h => h
    | cons file files ih => exact fun pack h => ih _ (h.put file)
  exact hfold empty isFiled_empty

/-! ## Parts and files -/

/-- The parts of a pack are those of its files. -/
structure AgreesWithFiles (pack : Pack) : Prop where
  /-- The part of a file is taken, and no other is. -/
  accepts : ∀ part, pack.accepts part = false ↔ ∃ file ∈ pack.files, file.part = part
  /-- Parts and files stand in the same order. -/
  parts : pack.files.map VideoFile.part = pack.parts
  /-- Each file is found under its part. -/
  files : ∀ file, file ∈ pack.files ↔ pack.file? file.part = some file

theorem accepts_eq_false_iff : pack.accepts part = false ↔ ∃ file, pack.file? part = some file := by
  simp [accepts, Option.isSome_iff_exists]

/-- Among some parts, the files have the parts they stand under exactly if each of them does. -/
theorem map_part_filterMap_iff (parts : List Part) :
    (parts.filterMap pack.file?).map VideoFile.part =
        parts.filter (fun part => !pack.accepts part) ↔
      ∀ part ∈ parts, ∀ file, pack.file? part = some file → file.part = part := by
  induction parts with
  | nil => simp
  | cons part parts ih =>
    rw [List.forall_mem_cons, ← ih]
    cases hfile : pack.file? part with
    | none => simp [hfile, accepts]
    | some file => simp [hfile, accepts]

/-- A pack has its files under their parts exactly if its parts are those of its files. -/
theorem isFiled_iff_agreesWithFiles : pack.IsFiled ↔ pack.AgreesWithFiles := by
  have hall := @map_part_filterMap_iff pack Part.all
  constructor
  · intro h
    refine ⟨fun part => ?_, hall.2 fun part _ => h part, fun file => mem_files_iff h⟩
    rw [accepts_eq_false_iff]
    constructor
    · rintro ⟨file, hfile⟩
      refine ⟨file, ?_, h part file hfile⟩
      exact List.mem_filterMap.2 ⟨part, part.mem_all, hfile⟩
    · rintro ⟨file, hfile, rfl⟩
      exact ⟨file, (mem_files_iff h).1 hfile⟩
  · intro h part file
    exact hall.1 h.parts part part.mem_all file

end Pack

/-! ## Stored packs -/

/-- The value of the last member with a key. -/
def Json.lastMember? (key : String) (members : List (String × Json)) : Option Json :=
  (members.reverse.find? fun member => member.1 = key).map Prod.snd

theorem Json.lastMember?_append_singleton (key : String) (members : List (String × Json))
    (member : String × Json) : lastMember? key (members ++ [member]) =
      if member.1 = key then some member.2 else lastMember? key members := by
  unfold lastMember?
  rw [List.reverse_append, List.reverse_singleton, List.singleton_append, List.find?_cons]
  by_cases hkey : member.1 = key
  · simp [hkey]
  · simp [hkey]

/-- The key of a part names no other part. -/
theorem Part.ofKey?_eq_some_iff {key : String} {part : Part} :
    ofKey? key = some part ↔ part.key = key := by
  constructor
  · intro h
    simpa using List.find?_some h
  · rintro rfl
    exact ofKey?_key part

theorem Part.key_injective : Function.Injective key := by
  intro part other hkey
  have hpart := ofKey?_key part
  rw [hkey, ofKey?_key] at hpart
  exact (Option.some.inj hpart).symm

/-- The title in a stored file. -/
def VideoFile.storedTitle? (json : Json) : Option String := do
  let member ← json.record? ["title", "external_url"] 2
  (← member "title").choice?

/-- The part of a file comes from its title. -/
theorem VideoFile.storedTitle?_of_ofJson? {json : Json} {file : VideoFile}
    (h : ofJson? json = some file) : storedTitle? json = some file.part.key := by
  simp only [ofJson?, Option.bind_eq_bind, Option.bind_eq_some_iff] at h
  obtain ⟨member, hmember, title, htitle, key, hkey, part, hpart, _, -, _, -, _, -, hfile⟩ := h
  obtain rfl := Option.some.inj hfile
  rw [Part.ofKey?_eq_some_iff] at hpart
  simp [storedTitle?, hmember, htitle, hkey, hpart]

namespace Pack

variable {pack : Pack} {members : List (String × Json)}

theorem ofMember?_eq_some_iff {member : String × Json} {part : Part} {file : VideoFile} :
    ofMember? member = some (part, file) ↔
      part.key = member.1 ∧ VideoFile.ofJson? member.2 = some file := by
  simp only [ofMember?, Option.bind_eq_bind, Option.bind_eq_some_iff, Option.pure_def,
    Option.some.injEq, Prod.mk.injEq, Part.ofKey?_eq_some_iff]
  constructor
  · rintro ⟨_, hkey, _, hfile, rfl, rfl⟩
    exact ⟨hkey, hfile⟩
  · rintro ⟨hkey, hfile⟩
    exact ⟨part, hkey, file, hfile, rfl, rfl⟩

/-- Under a part, a stored pack has the file in the last member with the key of the part. -/
theorem file?_of_ofJson? (h : ofJson? (.object members) = some pack) (part : Part) :
    Option.Rel (fun stored file => VideoFile.ofJson? stored = some file)
      (Json.lastMember? part.key members) (pack.file? part) := by
  rw [ofJson?_object] at h
  -- Induction from the last member backwards, since the last one counts.
  induction members using List.reverseRecOn generalizing pack with
  | nil =>
    obtain rfl := Option.some.inj h
    exact .none
  | append_singleton members member ih =>
    simp only [List.mapM_append, List.mapM_cons, List.mapM_nil, Option.bind_eq_bind,
      Option.bind_eq_some_iff, Option.pure_def, Option.some.injEq] at h
    obtain ⟨_, ⟨entries, hentries, _, ⟨⟨own, file⟩, hentry, _, rfl, rfl⟩, rfl⟩, rfl⟩ := h
    obtain ⟨hkey, hfile⟩ := ofMember?_eq_some_iff.1 hentry
    rw [List.foldl_append, List.foldl_cons, List.foldl_nil, Json.lastMember?_append_singleton,
      ← hkey]
    by_cases hpart : part = own
    · subst hpart
      rw [file?_set_self, if_pos rfl]
      exact .some hfile
    · have hother : own.key ≠ part.key := fun hsame => hpart (Part.key_injective hsame).symm
      rw [file?_set_of_ne hpart, if_neg hother]
      exact ih (by rw [hentries]; rfl)

/-- The last member with the key of a part stores the file of this part. -/
theorem exists_file?_of_lastMember? (h : ofJson? (.object members) = some pack) {part : Part}
    {stored : Json} (hstored : Json.lastMember? part.key members = some stored) :
    ∃ file, VideoFile.ofJson? stored = some file ∧ pack.file? part = some file := by
  have hrel := file?_of_ofJson? h part
  rw [hstored] at hrel
  generalize pack.file? part = found at hrel ⊢
  cases hrel with
  | some hfile => exact ⟨_, hfile, rfl⟩

/-- The file of a part is stored in the last member with the key of this part. -/
theorem exists_lastMember?_of_file? (h : ofJson? (.object members) = some pack) {part : Part}
    {file : VideoFile} (hfile : pack.file? part = some file) :
    ∃ stored, Json.lastMember? part.key members = some stored ∧
      VideoFile.ofJson? stored = some file := by
  have hrel := file?_of_ofJson? h part
  rw [hfile] at hrel
  generalize Json.lastMember? part.key members = found at hrel ⊢
  cases hrel with
  | some hstored => exact ⟨_, rfl, hstored⟩

/-- The last member for each part has the key that it stands under for a title. -/
def IsTitled (json : Json) : Prop :=
  ∀ members ∈ json.entries?, ∀ part : Part, ∀ stored ∈ Json.lastMember? part.key members,
    VideoFile.storedTitle? stored = some part.key

/-- Only objects are decoded as packs. -/
theorem exists_object_of_ofJson? {json : Json} (h : ofJson? json = some pack) :
    ∃ members, json = .object members := by
  cases json with
  | object members => exact ⟨members, rfl⟩
  | _ => cases h

/-- A stored pack has its files under their parts exactly if they are titled by their keys. -/
theorem isFiled_iff_isTitled {json : Json} (h : ofJson? json = some pack) :
    pack.IsFiled ↔ IsTitled json := by
  obtain ⟨members, rfl⟩ := exists_object_of_ofJson? h
  constructor
  · rintro hfiled _ ⟨⟩ part stored hstored
    obtain ⟨file, hdecode, hfile⟩ := exists_file?_of_lastMember? h hstored
    rw [VideoFile.storedTitle?_of_ofJson? hdecode, hfiled part file hfile]
  · intro htitled part file hfile
    obtain ⟨stored, hstored, hdecode⟩ := exists_lastMember?_of_file? h hfile
    have htitle := htitled members rfl part stored hstored
    rw [VideoFile.storedTitle?_of_ofJson? hdecode] at htitle
    exact Part.key_injective (Option.some.inj htitle)

end Pack

/-! ## Stored events -/

/-- The elements of an array that a member holds. -/
def Json.elementsOf : Option Json → List Json
  | some (array elements) => elements
  | _ => []

/-- A list that may be absent is decoded element by element. -/
theorem Json.forall₂_elementsOf {α : Type} {decode : Json → Option α} {member : Option Json}
    {values : List α} (h : orElse? [] (list? decode) member = some values) :
    List.Forall₂ (fun element value => decode element = some value) (elementsOf member) values := by
  match member with
  | none =>
    obtain rfl := Option.some.inj h
    exact .nil
  | some (.array elements) => exact Option.mapM_eq_some_iff.1 h
  | some .null | some (.bool _) | some (.integer _) | some (.real _) | some (.string _)
  | some (.object _) => cases h

/-- The packs in a stored source. -/
def VideoSource.storedPacks (json : Json) : List Json :=
  Json.elementsOf ((json.record? memberNames 13).bind fun member => member "video_file_packs")

theorem VideoSource.forall₂_storedPacks {json : Json} {source : VideoSource}
    (h : ofJson? json = some source) :
    List.Forall₂ (fun stored pack => Pack.ofJson? stored = some pack) (storedPacks json)
      source.packs := by
  rw [ofJson?] at h
  obtain ⟨member, hmember, h⟩ := Option.bind_eq_some_iff.1 h
  -- The other members of a source are decoded before its packs.
  iterate 20 obtain ⟨_, -, h⟩ := Option.bind_eq_some_iff.1 h
  obtain ⟨packs, hpacks, ⟨⟩⟩ := Option.bind_eq_some_iff.1 h
  rw [storedPacks, hmember, Option.bind_some]
  exact Json.forall₂_elementsOf hpacks

namespace Event

/-- The packs in a stored event, source by source. -/
def storedPacks (json : Json) : List Json :=
  (Json.elementsOf ((json.record? memberNames 6).bind fun member => member "file_sources")).flatMap
    VideoSource.storedPacks

/-- The packs of an event, source by source. -/
def packs (event : Event) : List Pack :=
  event.sources.flatMap VideoSource.packs

theorem forall₂_storedPacks {json : Json} {event : Event} (h : ofJson? json = some event) :
    List.Forall₂ (fun stored pack => Pack.ofJson? stored = some pack) (storedPacks json)
      event.packs := by
  rw [ofJson?] at h
  obtain ⟨member, hmember, h⟩ := Option.bind_eq_some_iff.1 h
  -- So are those of an event before its sources.
  iterate 9 obtain ⟨_, -, h⟩ := Option.bind_eq_some_iff.1 h
  obtain ⟨sources, hsources, h⟩ := Option.bind_eq_some_iff.1 h
  obtain ⟨_, -, ⟨⟩⟩ := Option.bind_eq_some_iff.1 h
  have hpacks : List.Forall₂ (fun stored source =>
      List.Forall₂ (fun stored pack => Pack.ofJson? stored = some pack)
        (VideoSource.storedPacks stored) (VideoSource.packs source)) _ sources :=
    (Json.forall₂_elementsOf hsources).imp fun _ _ => VideoSource.forall₂_storedPacks
  rw [storedPacks, hmember, Option.bind_some]
  exact List.rel_flatMap hpacks fun _ _ h => h

/-- A pack that files are put into has them under their parts, which is to say that its parts are
those of its files. The packs of a stored event are decoded one by one, and one of them has its
files under their parts exactly if these are titled by their keys. -/
theorem packs_filed {json : Json} {event : Event} (h : ofJson? json = some event) :
    (∀ files, (Pack.puts files).IsFiled) ∧
    (∀ pack : Pack, pack.IsFiled ↔ pack.AgreesWithFiles) ∧
    List.Forall₂ (fun stored pack => Pack.ofJson? stored = some pack ∧
      (pack.IsFiled ↔ Pack.IsTitled stored)) (storedPacks json) event.packs :=
  ⟨Pack.isFiled_puts, fun _ => Pack.isFiled_iff_agreesWithFiles,
    (forall₂_storedPacks h).imp fun _ _ hpack => ⟨hpack, Pack.isFiled_iff_isTitled hpack⟩⟩

/-- A stored pack with a file under the first half that has some title. -/
def storedHalf (title : String) : Json :=
  .object [("first_half",
    .object [("title", .string title), ("external_url", .string "https://v/1")])]

/-- A stored event with one source, which has one pack. -/
def storedWith (pack : Json) : Json :=
  .object [("season", .object [("start_year", .integer 2023), ("end_year", .integer 2024)]),
    ("fixture", .object [("title", .string "Final"), ("number", .integer 16777216)]),
    ("date", .string "2024-08-01T00:00:00"),
    ("file_sources", .array [.object [("resolution", .string "SD"), ("audio_channels", .integer 0),
      ("video_bitrate", .integer 0), ("audio_bitrate", .integer 0), ("filesize", .integer 0),
      ("framerate", .integer 0), ("video_file_packs", .array [pack])]])]

/-- An event with one stored pack has one pack. -/
theorem exists_packs_eq {stored : Json} {event : Event}
    (h : ofJson? (storedWith stored) = some event) :
    ∃ pack, event.packs = [pack] ∧ Pack.ofJson? stored = some pack := by
  have hpacks := forall₂_storedPacks h
  rw [show storedPacks (storedWith stored) = [stored] from rfl] at hpacks
  obtain ⟨pack, _, hpack, ⟨⟩, heq⟩ := List.forall₂_cons_left_iff.1 hpacks
  exact ⟨pack, heq, hpack⟩

/-- A title that is the key leaves the only file of an event under its part. -/
theorem packs_filed_half : ∃ event pack,
    ofJson? (storedWith (storedHalf "first_half")) = some event ∧
    event.packs = [pack] ∧ Pack.IsTitled (storedHalf "first_half") ∧ pack.IsFiled := by
  have hsome : (ofJson? (storedWith (storedHalf "first_half"))).isSome = true := by
    decide +kernel
  obtain ⟨event, hevent⟩ := Option.isSome_iff_exists.1 hsome
  obtain ⟨pack, hpack, -⟩ := exists_packs_eq hevent
  obtain ⟨-, -, hfiled⟩ := packs_filed hevent
  rw [hpack] at hfiled
  have htitled : Pack.IsTitled (storedHalf "first_half") := by
    rintro _ ⟨⟩ part stored hstored
    cases part <;> cases hstored
    rfl
  obtain ⟨⟨-, hiff⟩, -⟩ := List.forall₂_cons.1 hfiled
  exact ⟨event, pack, hevent, hpack, htitled, hiff.2 htitled⟩

/-- With another title, the file of the second half stands under the first one, and the second half
is taken to be free. -/
theorem packs_not_filed : ∃ event pack,
    ofJson? (storedWith (storedHalf "second_half")) = some event ∧
    event.packs = [pack] ∧ (pack.file? .firstHalf).map VideoFile.part = some .secondHalf ∧
    pack.accepts .secondHalf = true ∧ ¬pack.IsFiled := by
  have hsome : (ofJson? (storedWith (storedHalf "second_half"))).any (fun event =>
      event.packs.all fun pack =>
        (pack.file? .firstHalf).map VideoFile.part == some .secondHalf &&
          pack.accepts .secondHalf) = true := by
    decide +kernel
  obtain ⟨event, hevent, hpacks⟩ := (Option.any_eq_true _ _).1 hsome
  obtain ⟨pack, hpack, -⟩ := exists_packs_eq hevent
  rw [hpack, List.all_cons, List.all_nil, Bool.and_true, Bool.and_eq_true, beq_iff_eq] at hpacks
  obtain ⟨hpart, haccepts⟩ := hpacks
  refine ⟨event, pack, hevent, hpack, hpart, haccepts, fun hfiled => ?_⟩
  obtain ⟨file, hfile, hsecond⟩ := Option.map_eq_some_iff.1 hpart
  rw [hfiled .firstHalf file hfile] at hsecond
  cases hsecond

end Event

end Footage
