import Footage.Event.Stored
import Footage.Proofs.Stored.Text
import Mathlib.Data.List.Nodup

/-!
# Records of stored values

A record is written as an object of the members that are present. Each member is found again under
its name, and is found to be absent if it was left out, as long as no two members share a name.
Numbers, optional texts and lists are decoded from their stored forms.

## Main results

* `Json.record?_present`: the members of a record.
* `Json.word32?_toNat` and `Json.word64?_toNat`: numbers, to the last bit.
* `Json.optional?_text`, `Json.list?_map` and `Json.orElse?_nonEmpty`: texts and lists that may be
  left out.
* `Json.Exact.present` and `Json.Exact.array_map`: which records and lists can be read back from
  their texts.
-/

namespace Footage.Json

/-! ## Members -/

/-- A member of an object is the only one with its key if no key occurs twice. -/
theorem filter_eq_of_mem {members : List (String × Json)} (h : (members.map Prod.fst).Nodup)
    {key : String} {value : Json} (hmem : (key, value) ∈ members) :
    (members.filter fun member => member.1 = key) = [(key, value)] := by
  induction members with
  | nil => cases hmem
  | cons first members ih =>
    obtain ⟨hfirst, hrest⟩ := List.nodup_cons.1 h
    rcases List.mem_cons.1 hmem with rfl | hmem
    · -- The key does not occur again.
      have hother : (members.filter fun member => member.1 = key) = [] := by
        refine List.filter_eq_nil_iff.2 fun member hmember hkey => hfirst ?_
        exact List.mem_map.2 ⟨member, hmember, of_decide_eq_true hkey⟩
      simp [hother]
    · have hne : first.1 ≠ key := by
        rintro rfl
        exact hfirst (List.mem_map.2 ⟨_, hmem, rfl⟩)
      simp [hne, ih hrest hmem]

theorem member?_of_mem {members : List (String × Json)} (h : (members.map Prod.fst).Nodup)
    {key : String} {value : Json} (hmem : (key, value) ∈ members) :
    member? key members = some value := by
  simp only [member?, filter_eq_of_mem h hmem]

theorem member?_of_not_mem {members : List (String × Json)} {key : String}
    (h : key ∉ members.map Prod.fst) : member? key members = none := by
  have hfilter : (members.filter fun member => member.1 = key) = [] := by
    refine List.filter_eq_nil_iff.2 fun member hmember hkey => h ?_
    exact List.mem_map.2 ⟨member, hmember, of_decide_eq_true hkey⟩
  simp only [member?, hfilter]

/-- No key is counted twice if none occurs twice. -/
theorem count_le_one {members : List (String × Json)} (h : (members.map Prod.fst).Nodup)
    (key : String) : count key members ≤ 1 := by
  have hcount := List.nodup_iff_count_le_one.1 h key
  rwa [List.count, List.countP_map, List.countP_eq_length_filter] at hcount

/-- Each member of an object is found under its key, and no others are found. -/
theorem record?_object {json : Json} {members : List (String × Json)}
    (hjson : json = object members) (h : (members.map Prod.fst).Nodup) (names : List String)
    (required : Nat) :
    ∃ member, json.record? names required = some member ∧
      (∀ entry ∈ members, member entry.1 = some entry.2) ∧
      ∀ key ∉ members.map Prod.fst, member key = none := by
  subst hjson
  refine ⟨fun key => member? key members, ?_, fun _ => member?_of_mem h,
    fun _ => member?_of_not_mem⟩
  rw [record?, if_pos]
  exact List.all_eq_true.2 fun key _ => decide_eq_true (count_le_one h key)

variable {members : List (String × Option Json)}

theorem mem_present_iff {key : String} {value : Json} :
    (key, value) ∈ (members.filterMap fun member => member.2.map fun json => (member.1, json)) ↔
      (key, some value) ∈ members := by
  simp only [List.mem_filterMap, Option.map_eq_some_iff, Prod.mk.injEq]
  constructor
  · rintro ⟨member, hmember, json, hjson, rfl, rfl⟩
    rw [← hjson]
    exact hmember
  · intro hmember
    exact ⟨_, hmember, _, rfl, rfl, rfl⟩

/-- The keys of the members that are present are among all keys, in their order. -/
theorem map_fst_present_sublist (members : List (String × Option Json)) :
    ((members.filterMap fun member => member.2.map fun json => (member.1, json)).map
      Prod.fst).Sublist (members.map Prod.fst) := by
  induction members with
  | nil => exact .slnil
  | cons member members ih =>
    obtain ⟨key, _ | value⟩ := member
    · exact ih.cons key
    · exact ih.cons_cons key

/-- Each member of a stored record is found under its name, or is found to be absent. -/
theorem record?_present {json : Json} (hjson : json = present members)
    (h : (members.map Prod.fst).Nodup) (names : List String) (required : Nat) :
    ∃ member, json.record? names required = some member ∧
      ∀ entry ∈ members, member entry.1 = entry.2 := by
  have hnodup := h.sublist (map_fst_present_sublist members)
  obtain ⟨member, hrecord, hpresent, habsent⟩ := record?_object hjson hnodup names required
  refine ⟨member, hrecord, ?_⟩
  rintro ⟨key, _ | value⟩ hentry
  · refine habsent key fun hkey => ?_
    -- A member that is present has another key, as no two members share one.
    obtain ⟨⟨key, value⟩, hmember, rfl⟩ := List.mem_map.1 hkey
    have hsame := List.inj_on_of_nodup_map h hentry (mem_present_iff.1 hmember) rfl
    cases hsame
  · exact hpresent (key, value) (mem_present_iff.2 hentry)

/-- A record can be read back from its text if each member that is present can. -/
theorem Exact.present (h : ∀ member ∈ members, ∀ value ∈ member.2, Exact value) :
    Exact (Json.present members) := by
  refine .object fun member hmember => ?_
  obtain ⟨entry, hentry, value, hvalue, rfl⟩ := by
    simpa only [List.mem_filterMap, Option.map_eq_some_iff] using hmember
  exact h entry hentry value hvalue

theorem Exact.of_some {json : Json} (h : Exact json) : ∀ value ∈ some json, Exact value := by
  intro value hvalue
  obtain rfl := Option.some.inj hvalue
  exact h

/-! ## Numbers, texts and lists -/

theorem exact_word32 (n : UInt32) : Exact (integer n.toNat) := by
  have hn := n.toNat_lt
  exact .integer (by omega) (by omega)

theorem exact_word64 (n : UInt64) : Exact (integer n.toNat) := by
  have hn := n.toNat_lt
  exact .integer (by omega) (by omega)

theorem word32?_toNat (n : UInt32) : word32? (integer n.toNat) = some n := by
  have hn := n.toNat_lt
  have hbounds : (0 : Int) ≤ n.toNat ∧ (n.toNat : Int) ≤ 4294967295 := by omega
  simp [word32?, integer?, hbounds]

theorem word64?_toNat (n : UInt64) : word64? (integer n.toNat) = some n := by
  have hn := n.toNat_lt
  have hbounds : (0 : Int) ≤ n.toNat ∧ (n.toNat : Int) ≤ 18446744073709551615 := by omega
  simp [word64?, integer?, hbounds]

/-- A text that may be absent is decoded from the text that may be left out. -/
theorem optional?_text (text : Option String) : optional? text? (text.map string) = some text := by
  cases text <;> rfl

/-- A name that may be absent is decoded in the same way. -/
theorem optional?_name {α : Type} (name : α → String) (value : Option α) :
    optional? text? (value.map fun value => string (name value)) = some (value.map name) := by
  cases value <;> rfl

theorem Exact.of_name {α : Type} (name : α → String) (value : Option α) :
    ∀ json ∈ value.map fun value => Json.string (name value), Exact json := by
  intro json hjson
  obtain ⟨value, -, rfl⟩ := Option.map_eq_some_iff.1 hjson
  exact .string _

section Lists

variable {α : Type} {encode : α → Json} {decode : Json → Option α} {list : List α}

/-- Elements are decoded in their order. -/
theorem mapM_map_eq_some {β : Type} {encode : α → β} {decode : β → Option α}
    (h : ∀ element ∈ list, decode (encode element) = some element) :
    (list.map encode).mapM decode = some list := by
  induction list with
  | nil => rfl
  | cons first list ih =>
    obtain ⟨hfirst, hrest⟩ := List.forall_mem_cons.1 h
    rw [List.map_cons, List.mapM_cons, hfirst, ih hrest]
    rfl

/-- A list is decoded if its elements are. -/
theorem list?_map (h : ∀ element ∈ list, decode (encode element) = some element) :
    list? decode (array (list.map encode)) = some list :=
  mapM_map_eq_some h

/-- A list that is left out when it is empty is decoded as the empty list then. -/
theorem orElse?_nonEmpty (h : ∀ element ∈ list, decode (encode element) = some element) :
    orElse? [] (list? decode) (nonEmpty encode list) = some list := by
  cases list with
  | nil => rfl
  | cons first list => exact list?_map h

/-- A list can be read back from its text if its elements can. -/
theorem Exact.array_map (h : ∀ element ∈ list, Exact (encode element)) :
    Exact (Json.array (list.map encode)) := by
  refine .array fun value hvalue => ?_
  obtain ⟨element, helement, rfl⟩ := List.mem_map.1 hvalue
  exact h element helement

theorem Exact.of_nonEmpty (h : ∀ element ∈ list, Exact (encode element)) :
    ∀ value ∈ nonEmpty encode list, Exact value := by
  intro value hvalue
  rw [nonEmpty] at hvalue
  split at hvalue
  · cases hvalue
  · obtain rfl := Option.some.inj hvalue
    exact .array_map h

end Lists

end Footage.Json
