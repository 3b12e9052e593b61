import Footage.Video
import Mathlib.Data.List.Basic
import Mathlib.Data.List.Induction
import Mathlib.Order.Bounds.Defs
import Mathlib.Order.MinMax

/-!
# First-fit packing

Files are put one after the other into the first pack that has their part free. What comes of it
can be said without the order of the steps: the file of a part in the pack with the number `i` is
the file with the number `i` among those of this part.

## Main definitions

* `Pack.fileAt?`: the file of a part in the pack with a number.
* `VideoFile.mostOfOnePart`: the largest number of files that share one part.
* `Pack.IsFiled`: each file of a pack stands under its own part.
* `Pack.FilesInOrder`: the packs that a sequence of files fills, told by the files of each part.

## Main results

* `Pack.fileAt?_ofFiles`: the closed form of packing.
* `Pack.ofFiles_perm`: packing neither loses nor invents nor repeats a file.
* `Pack.isFiled_of_mem_ofFiles`: each file stands under its own part.
* `Pack.files_ne_nil_of_mem_ofFiles` and `Pack.length_ofFiles`: no pack is empty, and there are as
  many packs as files share one part.
* `Pack.ext_fileAt?`: packs none of which is empty are told apart by their files.
* `Pack.ofFiles_filesInOrder`: all of this together. Two sequences fill the same packs exactly if
  they have the same files of each part in the same order.
-/

namespace Footage

namespace Part

/-- Every part has its place in the broadcast. -/
theorem mem_all (part : Part) : part ∈ all := by
  cases part <;> decide

/-- No part has two places in the broadcast. -/
theorem nodup_all : all.Nodup := by
  decide

end Part

/-- The largest number of files that share one part. -/
def VideoFile.mostOfOnePart (files : List VideoFile) : Nat :=
  (Part.all.map fun part => files.countP fun file => file.part = part).foldr max 0

namespace Pack

/-- The file of a part in the pack with a number, counted from zero. -/
def fileAt? (packs : List Pack) (i : Nat) (part : Part) : Option VideoFile :=
  packs[i]?.bind fun pack => pack.file? part

@[simp]
theorem file?_empty (part : Part) : empty.file? part = none := rfl

@[simp]
theorem file?_set_self (pack : Pack) (part : Part) (file : VideoFile) :
    (pack.set part file).file? part = some file := by
  simp [set]

theorem file?_set_of_ne {part other : Part} (h : other ≠ part) (pack : Pack) (file : VideoFile) :
    (pack.set part file).file? other = pack.file? other := by
  simp [set, h]

@[simp]
theorem fileAt?_nil (i : Nat) (part : Part) : fileAt? [] i part = none := rfl

@[simp]
theorem fileAt?_cons_zero (pack : Pack) (packs : List Pack) (part : Part) :
    fileAt? (pack :: packs) 0 part = pack.file? part := rfl

@[simp]
theorem fileAt?_cons_succ (pack : Pack) (packs : List Pack) (i : Nat) (part : Part) :
    fileAt? (pack :: packs) (i + 1) part = fileAt? packs i part := by
  simp [fileAt?]

/-- A file goes into the first pack if its part is free there. -/
theorem insert_cons_of_none {file : VideoFile} {pack : Pack} (h : pack.file? file.part = none)
    (packs : List Pack) : insert file (pack :: packs) = pack.set file.part file :: packs := by
  simp [insert, put?, accepts, h]

/-- A file goes into a later pack if its part is taken in the first one. -/
theorem insert_cons_of_some {file held : VideoFile} {pack : Pack}
    (h : pack.file? file.part = some held) (packs : List Pack) :
    insert file (pack :: packs) = pack :: insert file packs := by
  simp [insert, put?, accepts, h]

/-- Putting a file somewhere leaves the files of the other parts where they are. -/
theorem fileAt?_insert_of_ne {file : VideoFile} {part : Part} (h : part ≠ file.part)
    (packs : List Pack) (i : Nat) :
    fileAt? (insert file packs) i part = fileAt? packs i part := by
  induction packs generalizing i with
  | nil => cases i <;> simp [insert, file?_set_of_ne h]
  | cons pack packs ih =>
    cases hheld : pack.file? file.part with
    | none =>
      rw [insert_cons_of_none hheld]
      cases i <;> simp [file?_set_of_ne h]
    | some held =>
      rw [insert_cons_of_some hheld]
      cases i <;> simp [ih]

/-- Where the packs that hold a part come first, a further file of this part comes right after
them. -/
theorem fileAt?_insert_self {file : VideoFile} {packs : List Pack} {held : List VideoFile}
    (h : ∀ i, fileAt? packs i file.part = held[i]?) (i : Nat) :
    fileAt? (insert file packs) i file.part = (held ++ [file])[i]? := by
  -- The first pack is free exactly if no file of the part is held; otherwise both lists lose their
  -- first member.
  induction packs generalizing held i with
  | nil =>
    have hheld : held = [] := by simpa using (h 0).symm
    subst hheld
    cases i <;> simp [insert]
  | cons pack packs ih =>
    cases held with
    | nil =>
      have hnone : pack.file? file.part = none := h 0
      rw [insert_cons_of_none hnone]
      cases i with
      | zero => simp
      | succ i => simpa using h (i + 1)
    | cons first held =>
      have hsome : pack.file? file.part = some first := h 0
      rw [insert_cons_of_some hsome]
      cases i with
      | zero => simpa using hsome
      | succ i =>
        have hrest : ∀ i, fileAt? packs i file.part = held[i]? := fun i => by
          simpa using h (i + 1)
        simpa using ih hrest i

/-- Packing one more file puts it into the packs of the files before it. -/
theorem ofFiles_append_singleton (files : List VideoFile) (file : VideoFile) :
    ofFiles (files ++ [file]) = insert file (ofFiles files) := by
  simp [ofFiles]

/-- The file of a part in a pack is the one with the pack's number among the files of this
part. -/
theorem fileAt?_ofFiles (files : List VideoFile) (i : Nat) (part : Part) :
    fileAt? (ofFiles files) i part = (files.filter fun file => file.part = part)[i]? := by
  induction files using List.reverseRecOn generalizing i with
  | nil => simp [ofFiles]
  | append_singleton files file ih =>
    rw [ofFiles_append_singleton, List.filter_append]
    by_cases hpart : part = file.part
    · subst hpart
      simpa using fileAt?_insert_self ih i
    · have hother : file.part ≠ part := fun h => hpart h.symm
      rw [fileAt?_insert_of_ne hpart, ih]
      simp [hother]

/-- A pack with one more file, under a part that was free, has this file besides its others. -/
theorem files_set_perm {pack : Pack} {file : VideoFile} {part : Part}
    (h : pack.file? part = none) : (pack.set part file).files.Perm (file :: pack.files) := by
  obtain ⟨before, after, hall⟩ := List.append_of_mem part.mem_all
  have hnodup := Part.nodup_all
  rw [hall, List.nodup_append] at hnodup
  obtain ⟨-, hafter, hbefore⟩ := hnodup
  -- No part but the one that is filed under stands before or after it.
  have hbefore' : before.filterMap (pack.set part file).file? = before.filterMap pack.file? :=
    List.filterMap_congr fun other hother =>
      file?_set_of_ne (hbefore other hother part List.mem_cons_self) pack file
  have hafter' : after.filterMap (pack.set part file).file? = after.filterMap pack.file? :=
    List.filterMap_congr fun other hother =>
      file?_set_of_ne (ne_of_mem_of_not_mem hother (List.nodup_cons.1 hafter).1) pack file
  simp only [files, hall, List.filterMap_append, List.filterMap_cons, file?_set_self, h, hbefore',
    hafter']
  exact List.perm_middle

/-- Putting a file somewhere adds it to the files and changes no other. -/
theorem insert_perm (file : VideoFile) (packs : List Pack) :
    ((insert file packs).flatMap files).Perm (file :: packs.flatMap files) := by
  induction packs with
  | nil =>
    rw [insert, List.flatMap_singleton, List.flatMap_nil]
    exact files_set_perm (file?_empty file.part)
  | cons pack packs ih =>
    cases hheld : pack.file? file.part with
    | none =>
      rw [insert_cons_of_none hheld]
      exact (files_set_perm hheld).append_right _
    | some held =>
      rw [insert_cons_of_some hheld, List.flatMap_cons, List.flatMap_cons]
      exact (ih.append_left pack.files).trans List.perm_middle

/-- Packing neither loses nor invents nor repeats a file. -/
theorem ofFiles_perm (files : List VideoFile) :
    ((ofFiles files).flatMap Pack.files).Perm files := by
  induction files using List.reverseRecOn with
  | nil => simp [ofFiles]
  | append_singleton files file ih =>
    rw [ofFiles_append_singleton]
    exact (insert_perm file _).trans
      ((ih.cons file).trans (List.perm_append_singleton file files).symm)

/-- The packs in which a file stands under a part. -/
theorem exists_fileAt?_of_mem {packs : List Pack} {pack : Pack} (h : pack ∈ packs) :
    ∃ i, ∀ part, fileAt? packs i part = pack.file? part := by
  obtain ⟨i, hi⟩ := List.mem_iff_getElem?.1 h
  exact ⟨i, fun part => by simp [fileAt?, hi]⟩

/-- Each file of the pack stands under its own part. -/
def IsFiled (pack : Pack) : Prop :=
  ∀ part file, pack.file? part = some file → file.part = part

/-- Each file in the packs of a sequence of files stands under its own part. -/
theorem isFiled_of_mem_ofFiles {files : List VideoFile} {pack : Pack}
    (hpack : pack ∈ ofFiles files) : pack.IsFiled := by
  intro part file hfile
  obtain ⟨i, hi⟩ := exists_fileAt?_of_mem hpack
  have hat := hi part
  rw [fileAt?_ofFiles, hfile] at hat
  simpa using (List.mem_filter.1 (List.mem_of_getElem? hat)).2

/-- A pack has files exactly if one of its parts is taken. -/
theorem files_ne_nil_iff {pack : Pack} :
    pack.files ≠ [] ↔ ∃ part file, pack.file? part = some file := by
  constructor
  · intro h
    obtain ⟨file, hfile⟩ := List.exists_mem_of_ne_nil _ h
    obtain ⟨part, -, hpart⟩ := List.mem_filterMap.1 hfile
    exact ⟨part, file, hpart⟩
  · rintro ⟨part, file, hpart⟩
    exact List.ne_nil_of_mem (List.mem_filterMap.2 ⟨part, part.mem_all, hpart⟩)

/-- Putting a file somewhere leaves no pack empty. -/
theorem files_ne_nil_of_mem_insert {file : VideoFile} {packs : List Pack}
    (h : ∀ pack ∈ packs, pack.files ≠ []) : ∀ pack ∈ insert file packs, pack.files ≠ [] := by
  have hset : ∀ pack : Pack, (pack.set file.part file).files ≠ [] := fun pack =>
    files_ne_nil_iff.2 ⟨file.part, file, file?_set_self pack file.part file⟩
  induction packs with
  | nil => simpa [insert] using hset empty
  | cons pack packs ih =>
    obtain ⟨hpack, hpacks⟩ := List.forall_mem_cons.1 h
    cases hheld : pack.file? file.part with
    | none =>
      rw [insert_cons_of_none hheld]
      exact List.forall_mem_cons.2 ⟨hset pack, hpacks⟩
    | some held =>
      rw [insert_cons_of_some hheld]
      exact List.forall_mem_cons.2 ⟨hpack, ih hpacks⟩

/-- Packing leaves no pack empty. -/
theorem files_ne_nil_of_mem_ofFiles (files : List VideoFile) :
    ∀ pack ∈ ofFiles files, pack.files ≠ [] := by
  induction files using List.reverseRecOn with
  | nil => simp [ofFiles]
  | append_singleton files file ih =>
    rw [ofFiles_append_singleton]
    exact files_ne_nil_of_mem_insert ih

/-- A number lies below the largest of some numbers exactly if it lies below one of them. -/
theorem lt_foldr_max_iff {numbers : List Nat} {n : Nat} :
    n < numbers.foldr max 0 ↔ ∃ m ∈ numbers, n < m := by
  induction numbers with
  | nil => simp
  | cons m numbers ih => rw [List.foldr_cons, lt_max_iff, ih, List.exists_mem_cons_iff]

/-- There are as many packs as files share one part. -/
theorem length_ofFiles (files : List VideoFile) :
    (ofFiles files).length = VideoFile.mostOfOnePart files := by
  refine eq_of_forall_lt_iff fun i => ?_
  -- The pack with the number `i` exists exactly if some part has more than `i` files.
  have hcount : ∀ part, (fileAt? (ofFiles files) i part).isSome = true ↔
      i < files.countP fun file => file.part = part := by
    intro part
    rw [fileAt?_ofFiles, List.countP_eq_length_filter]
    simp
  rw [VideoFile.mostOfOnePart, lt_foldr_max_iff]
  constructor
  · intro h
    obtain ⟨part, file, hfile⟩ := files_ne_nil_iff.1
      (files_ne_nil_of_mem_ofFiles files _ (List.getElem_mem h))
    refine ⟨_, List.mem_map_of_mem part.mem_all, (hcount part).1 ?_⟩
    simp [fileAt?, h, hfile]
  · rintro ⟨count, hmem, h⟩
    obtain ⟨part, -, rfl⟩ := List.mem_map.1 hmem
    by_contra hnot
    have hnone : (ofFiles files)[i]? = none := List.getElem?_eq_none (not_lt.1 hnot)
    have hsome := (hcount part).2 h
    simp [fileAt?, hnone] at hsome

/-- Some number of files share one part, and no part has more files. -/
theorem isGreatest_mostOfOnePart (files : List VideoFile) :
    IsGreatest (Set.range fun part => files.countP fun file => file.part = part)
      (VideoFile.mostOfOnePart files) := by
  have hlt : ∀ n, n < VideoFile.mostOfOnePart files ↔
      ∃ part : Part, n < files.countP fun file => file.part = part := by
    intro n
    rw [VideoFile.mostOfOnePart, lt_foldr_max_iff]
    simp [Part.mem_all]
  have hupper : VideoFile.mostOfOnePart files ∈
      upperBounds (Set.range fun part => files.countP fun file => file.part = part) := by
    rintro _ ⟨part, rfl⟩
    exact not_lt.1 fun h => lt_irrefl _ ((hlt _).2 ⟨part, h⟩)
  refine ⟨?_, hupper⟩
  -- If there are no files at all, any part has as many as that.
  cases hmost : VideoFile.mostOfOnePart files with
  | zero => exact ⟨.default, Nat.eq_zero_of_le_zero (hmost ▸ hupper ⟨.default, rfl⟩)⟩
  | succ n =>
    obtain ⟨part, hpart⟩ := (hlt n).1 (by omega)
    exact ⟨part, Nat.le_antisymm (hmost ▸ hupper ⟨part, rfl⟩) hpart⟩

theorem mem_parts_iff {pack : Pack} {part : Part} :
    part ∈ pack.parts ↔ ∃ file, pack.file? part = some file := by
  simp [parts, accepts, Part.mem_all, Option.isSome_iff_exists]

/-- A pack has a part exactly if there are more files of this part than packs before it. -/
theorem mem_parts_ofFiles_iff {files : List VideoFile} {i : Nat}
    (h : i < (ofFiles files).length) {part : Part} :
    part ∈ (ofFiles files)[i].parts ↔ i < (files.filter fun file => file.part = part).length := by
  have hat := fileAt?_ofFiles files i part
  rw [fileAt?, List.getElem?_eq_getElem h, Option.bind_some] at hat
  rw [mem_parts_iff, hat, ← Option.isSome_iff_exists, isSome_getElem?]

/-- Packs none of which is empty are told apart by their files. -/
theorem ext_fileAt? {packs others : List Pack} (hpacks : ∀ pack ∈ packs, pack.files ≠ [])
    (hothers : ∀ pack ∈ others, pack.files ≠ [])
    (h : ∀ i part, fileAt? packs i part = fileAt? others i part) : packs = others := by
  -- Where one of the sequences ends before the other one, a file of the next pack tells them apart.
  induction packs generalizing others with
  | nil =>
    cases others with
    | nil => rfl
    | cons other others =>
      obtain ⟨part, file, hfile⟩ := files_ne_nil_iff.1 (hothers other List.mem_cons_self)
      have hnone : other.file? part = none := (h 0 part).symm
      rw [hfile] at hnone
      cases hnone
  | cons pack packs ih =>
    obtain ⟨hpack, hpacks⟩ := List.forall_mem_cons.1 hpacks
    cases others with
    | nil =>
      obtain ⟨part, file, hfile⟩ := files_ne_nil_iff.1 hpack
      have hnone : pack.file? part = none := h 0 part
      rw [hfile] at hnone
      cases hnone
    | cons other others =>
      have hfirst : pack = other := Pack.ext (funext fun part => h 0 part)
      have hrest : packs = others :=
        ih hpacks (List.forall_mem_cons.1 hothers).2 fun i part => h (i + 1) part
      rw [hfirst, hrest]

/-- The packs that a sequence of files fills, told by the files of each part. -/
structure FilesInOrder (files : List VideoFile) (packs : List Pack) : Prop where
  /-- The file of a part in a pack is the one with the pack's number among the files of the part,
  if there are that many. -/
  fileAt : ∀ i part, fileAt? packs i part = (files.filter fun file => file.part = part)[i]?
  /-- There are as many packs as there are files of the part that has the most. -/
  length : IsGreatest (Set.range fun part => files.countP fun file => file.part = part)
    packs.length
  files_ne_nil : ∀ pack ∈ packs, pack.files ≠ []
  /-- A pack has all the parts that the next one has. -/
  nested : packs.IsChain fun earlier later => later.parts ⊆ earlier.parts
  /-- Each file is in one pack, as often as it was put in. -/
  perm : (packs.flatMap Pack.files).Perm files

/-- Files that are put one after the other into the first pack that has their part free fill the
packs part by part. So two sequences fill the same packs exactly if they have the same files of each
part in the same order, however these are mixed. -/
theorem ofFiles_filesInOrder (files : List VideoFile) :
    FilesInOrder files (ofFiles files) ∧
    ∀ others : List VideoFile, ofFiles others = ofFiles files ↔
      ∀ part, (others.filter fun file => file.part = part) =
        files.filter fun file => file.part = part := by
  constructor
  · -- A part that has a file for the next pack has one for this pack too.
    have hnested : (ofFiles files).IsChain fun earlier later => later.parts ⊆ earlier.parts := by
      rw [List.isChain_iff_getElem]
      intro i hi part hpart
      have hlater := (mem_parts_ofFiles_iff hi).1 hpart
      exact (mem_parts_ofFiles_iff _).2 (Nat.lt_of_succ_lt hlater)
    exact {
      fileAt := fileAt?_ofFiles files
      length := length_ofFiles files ▸ isGreatest_mostOfOnePart files
      files_ne_nil := files_ne_nil_of_mem_ofFiles files
      nested := hnested
      perm := ofFiles_perm files }
  · intro others
    constructor
    · intro h part
      refine List.ext_getElem? fun i => ?_
      rw [← fileAt?_ofFiles, ← fileAt?_ofFiles, h]
    · intro h
      refine ext_fileAt? (files_ne_nil_of_mem_ofFiles others) (files_ne_nil_of_mem_ofFiles files)
        fun i part => ?_
      rw [fileAt?_ofFiles, fileAt?_ofFiles, h part]

end Pack

end Footage
