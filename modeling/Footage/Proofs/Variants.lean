import Footage.Proofs.Packing
import Mathlib.Data.List.Nodup

/-!
# Packing the variants of a broadcast

A page that offers a broadcast in several variants is expected to list the files of one variant
after those of another. Packing does not know where a variant begins. It recovers the variants
exactly if none has a part that the one before it lacks.

## Main definitions

* `Variant`: the files of one variant, at least one and each of another part.
* `Variant.file?`: the file of a part in a variant.

## Main results

* `getElem?_filterMap_eq_iff`: the values of a partial function stand at the places of their
  arguments exactly if no argument without a value comes before one with a value.
* `Pack.perm_files_iff`: a pack holds the files of a variant exactly if it has the same file under
  each part.
* `Pack.ofFiles_recovers_iff`: packing recovers the variants exactly if each has only parts that the
  one before it has, and a file of any other part ends up in an earlier pack.
-/

namespace Footage

/-- One variant of a broadcast as a page lists it: some files, each of another part. -/
structure Variant where
  files : List VideoFile
  files_ne_nil : files ≠ []
  nodup_parts : (files.map VideoFile.part).Nodup

namespace Variant

/-- The parts that the variant has. -/
def parts (variant : Variant) : List Part :=
  variant.files.map VideoFile.part

/-- The file of a part. -/
def file? (variant : Variant) (part : Part) : Option VideoFile :=
  variant.files.find? fun file => file.part = part

variable {variant : Variant} {part : Part} {file : VideoFile}

/-- The file of a part is the one that has this part. -/
theorem file?_eq_some_iff :
    variant.file? part = some file ↔ file ∈ variant.files ∧ file.part = part := by
  constructor
  · intro h
    exact ⟨List.mem_of_find?_eq_some h, by simpa using List.find?_some h⟩
  · rintro ⟨hmem, rfl⟩
    cases hfound : variant.file? file.part with
    | none => simpa using List.find?_eq_none.1 hfound file hmem
    | some found =>
      -- No other file of the variant has this part.
      have hpart : found.part = file.part := by simpa using List.find?_some hfound
      rw [List.inj_on_of_nodup_map variant.nodup_parts (List.mem_of_find?_eq_some hfound) hmem
        hpart]

/-- A variant has a file of each of its parts. -/
theorem isSome_file?_iff : (variant.file? part).isSome = true ↔ part ∈ variant.parts := by
  simp [Option.isSome_iff_exists, file?_eq_some_iff, parts]

/-- A variant has at most one file of a part. -/
theorem filter_part (variant : Variant) (part : Part) :
    (variant.files.filter fun file => file.part = part) = (variant.file? part).toList := by
  have hcount := List.nodup_iff_count_le_one.1 variant.nodup_parts part
  rw [List.count_eq_countP, List.countP_map, List.countP_eq_length_filter] at hcount
  rw [file?, ← List.head?_filter]
  have hlength : (variant.files.filter fun file => file.part = part).length ≤ 1 := by
    simpa [Function.comp_def, beq_eq_decide] using hcount
  generalize (variant.files.filter fun file => file.part = part) = found at hlength
  match found, hlength with
  | [], _ => rfl
  | [file], _ => rfl

end Variant

section PartialMap

variable {α β : Type}

/-- The values of a partial function on a list stand at the places of their arguments exactly if no
argument without a value comes right before one with a value. -/
theorem getElem?_filterMap_eq_iff {f : α → Option β} {list : List α} :
    (∀ i : Nat, (list.filterMap f)[i]? = list[i]?.bind f) ↔
      list.IsChain fun earlier later => (f later).isSome → (f earlier).isSome := by
  have : Trans (fun earlier later => (f later).isSome → (f earlier).isSome)
      (fun earlier later => (f later).isSome → (f earlier).isSome)
      fun earlier later => (f later).isSome → (f earlier).isSome := ⟨fun h h' hlast => h (h' hlast)⟩
  rw [List.isChain_iff_pairwise]
  induction list with
  | nil => simp
  | cons first list ih =>
    rw [List.pairwise_cons]
    cases hfirst : f first with
    | some value =>
      -- The first value stands in the first place, and the others move up by one.
      rw [List.filterMap_cons_some hfirst]
      constructor
      · intro h
        exact ⟨fun _ _ _ => rfl, ih.1 fun i => h (i + 1)⟩
      · rintro ⟨-, h⟩ i
        cases i with
        | zero => exact hfirst.symm
        | succ i => exact ih.2 h i
    | none =>
      -- The first place must stay empty, so that there is no value at all.
      rw [List.filterMap_cons_none hfirst]
      constructor
      · intro h
        have hnone : list.filterMap f = [] := by
          rw [← List.head?_eq_none_iff, List.head?_eq_getElem?, h 0]
          exact hfirst
        have hlist := List.filterMap_eq_nil_iff.1 hnone
        have hsome : ∀ later ∈ list, ¬(f later).isSome := fun later hlater => by
          simp [hlist later hlater]
        refine ⟨fun later hlater hlast => absurd hlast (hsome later hlater), ?_⟩
        exact List.pairwise_of_forall_mem_list fun _ _ later hlater hlast =>
          absurd hlast (hsome later hlater)
      · rintro ⟨hlist, -⟩ i
        have hlist' : ∀ later ∈ list, f later = none := by simpa using hlist
        rw [List.filterMap_eq_nil_iff.2 hlist']
        cases i with
        | zero => exact hfirst.symm
        | succ i =>
          cases hi : list[i]? with
          | none => simp [hi]
          | some later => simp [hi, hlist' later (List.mem_of_getElem? hi)]

end PartialMap

namespace Pack

theorem mem_files_iff {pack : Pack} (h : pack.IsFiled) {file : VideoFile} :
    file ∈ pack.files ↔ pack.file? file.part = some file := by
  rw [files, List.mem_filterMap]
  constructor
  · rintro ⟨part, -, hpart⟩
    rwa [h part file hpart]
  · intro hfile
    exact ⟨file.part, file.part.mem_all, hfile⟩

theorem nodup_files {pack : Pack} (h : pack.IsFiled) : pack.files.Nodup := by
  refine Part.nodup_all.filterMap fun first second file hfirst hsecond => ?_
  rw [← h first file hfirst, ← h second file hsecond]

/-- A pack holds the files of a variant exactly if it has the same file under each part. -/
theorem perm_files_iff {pack : Pack} (h : pack.IsFiled) (variant : Variant) :
    pack.files.Perm variant.files ↔ ∀ part, pack.file? part = variant.file? part := by
  have hvariant : variant.files.Nodup := List.Nodup.of_map _ variant.nodup_parts
  rw [List.perm_ext_iff_of_nodup (nodup_files h) hvariant]
  constructor
  · intro hmem part
    refine Option.ext fun file => ?_
    rw [Variant.file?_eq_some_iff, ← hmem, mem_files_iff h]
    constructor
    · intro hfile
      have hpart := h part file hfile
      exact ⟨hpart ▸ hfile, hpart⟩
    · rintro ⟨hfile, rfl⟩
      exact hfile
  · intro hfile file
    rw [mem_files_iff h, hfile, Variant.file?_eq_some_iff]
    exact and_iff_left rfl

/-- Packs hold the files of some variants, one pack for each variant in order, exactly if the file
of each part in each pack is that of the variant at its place. -/
theorem forall₂_perm_files_iff {packs : List Pack} (hfiled : ∀ pack ∈ packs, pack.IsFiled)
    (hne : ∀ pack ∈ packs, pack.files ≠ []) (variants : List Variant) :
    List.Forall₂ (fun pack variant => pack.files.Perm variant.files) packs variants ↔
      ∀ part i, fileAt? packs i part = variants[i]?.bind (·.file? part) := by
  induction packs generalizing variants with
  | nil =>
    cases variants with
    | nil => simp
    | cons variant variants =>
      -- The first variant has a file, for which there is no pack.
      obtain ⟨file, hfile⟩ := List.exists_mem_of_ne_nil _ variant.files_ne_nil
      refine iff_of_false (by simp) fun h => ?_
      have hnone : variant.file? file.part = none := (h file.part 0).symm
      rw [Variant.file?_eq_some_iff.2 ⟨hfile, rfl⟩] at hnone
      cases hnone
  | cons pack packs ih =>
    obtain ⟨hpack, hpacks⟩ := List.forall_mem_cons.1 hfiled
    obtain ⟨hfiles, hrest⟩ := List.forall_mem_cons.1 hne
    cases variants with
    | nil =>
      -- The first pack has a file, for which there is no variant.
      obtain ⟨part, file, hfile⟩ := files_ne_nil_iff.1 hfiles
      refine iff_of_false (by simp) fun h => ?_
      have hnone : pack.file? part = none := h part 0
      rw [hfile] at hnone
      cases hnone
    | cons variant variants =>
      rw [List.forall₂_cons, perm_files_iff hpack, ih hpacks hrest]
      constructor
      · rintro ⟨hfirst, h⟩ part i
        cases i with
        | zero => exact hfirst part
        | succ i => exact h part i
      · intro h
        exact ⟨fun part => h part 0, fun part i => h part (i + 1)⟩

/-- The file of a part in a pack of some variants is the one with the pack's number among the files
that the variants have of this part. -/
theorem fileAt?_ofFiles_variants (variants : List Variant) (i : Nat) (part : Part) :
    fileAt? (ofFiles (variants.flatMap Variant.files)) i part =
      (variants.filterMap (·.file? part))[i]? := by
  rw [fileAt?_ofFiles, List.filter_flatMap, List.filterMap_eq_flatMap_toList]
  simp only [Variant.filter_part]

/-- A file whose part the variant before its own lacks ends up in an earlier pack. -/
theorem exists_earlier_pack {before after : List Variant} {earlier later : Variant}
    {file : VideoFile} (hfile : file ∈ later.files) (hpart : file.part ∉ earlier.parts) :
    ∃ pack ∈ (ofFiles ((before ++ earlier :: later :: after).flatMap Variant.files)).take
      (before.length + 1), file ∈ pack.files := by
  -- Only the variants before the earlier one can have a file of this part, so that this file has a
  -- number among those that is no larger than theirs.
  let i := (before.filterMap (·.file? file.part)).length
  have hi : i < before.length + 1 := Nat.lt_succ_of_le (List.length_filterMap_le _ _)
  have hearlier : earlier.file? file.part = none := by
    rwa [← Variant.isSome_file?_iff, Option.not_isSome_iff_eq_none] at hpart
  have hlater : later.file? file.part = some file := Variant.file?_eq_some_iff.2 ⟨hfile, rfl⟩
  have hat := fileAt?_ofFiles_variants (before ++ earlier :: later :: after) i file.part
  have hrest : (earlier :: later :: after).filterMap (·.file? file.part) =
      file :: after.filterMap (·.file? file.part) := by
    simp [hearlier, hlater]
  rw [List.filterMap_append, hrest, List.getElem?_append_right (Nat.le_refl _), Nat.sub_self,
    List.getElem?_cons_zero] at hat
  obtain ⟨pack, hpack, hheld⟩ := Option.bind_eq_some_iff.1 hat
  refine ⟨pack, List.mem_of_getElem? (i := i) ?_, ?_⟩
  · rw [List.getElem?_take_of_lt hi, hpack]
  · exact (mem_files_iff (isFiled_of_mem_ofFiles (List.mem_of_getElem? hpack))).2 hheld

/-- Packing variants that are listed one after the other gives one pack for each variant, with the
files of this variant, exactly if each variant has only parts that the variant before it has. A
file of any other part ends up in an earlier pack than that of its variant. -/
theorem ofFiles_recovers_iff (variants : List Variant) :
    (List.Forall₂ (fun pack variant => pack.files.Perm variant.files)
        (ofFiles (variants.flatMap Variant.files)) variants ↔
      variants.IsChain fun earlier later => later.parts ⊆ earlier.parts) ∧
    ∀ before earlier later after, variants = before ++ earlier :: later :: after →
      ∀ file ∈ later.files, file.part ∉ earlier.parts →
        ∃ pack ∈ (ofFiles (variants.flatMap Variant.files)).take (before.length + 1),
          file ∈ pack.files := by
  constructor
  · rw [forall₂_perm_files_iff (fun _ => isFiled_of_mem_ofFiles) (files_ne_nil_of_mem_ofFiles _)]
    simp only [fileAt?_ofFiles_variants, getElem?_filterMap_eq_iff, Variant.isSome_file?_iff]
    -- The condition holds for all parts of two neighbours or for all neighbours of each part.
    simp only [List.isChain_iff_getElem, List.subset_def]
    constructor
    · intro h i hi part
      exact h part i hi
    · intro h part i hi
      exact h i hi
  · rintro before earlier later after rfl file hfile hpart
    exact exists_earlier_pack hfile hpart

/-- A first half without its second half, and then both: the first pack takes the second half of
the second variant. -/
example :
    let file (part : Part) (name : String) : VideoFile :=
      ⟨part, ⟨"x", none, .bare name, none, none⟩⟩
    (ofFiles [file .firstHalf "a", file .firstHalf "b", file .secondHalf "c"]).map files =
      [[file .firstHalf "a", file .secondHalf "c"], [file .firstHalf "b"]] := by
  decide

end Pack

end Footage
