import Footage.Proofs.Readings
import Mathlib.Data.List.Nodup
import Mathlib.Data.Set.Basic
import Mathlib.Order.Bounds.Defs

/-!
# Which kits compile

The fields of a mapping are bound in the order of their indices, up to the first that breaks a rule.
So a kit compiles exactly if its pattern does and its mapping is well-formed, and otherwise it fails
for the field at the smallest index that breaks a rule. The failure names this field. It does not
name the index, unless the group is to blame. Nothing of this depends on how patterns are compiled.

## Main definitions

* `Mapping.IsAscending`: the order in which mappings are kept.
* `Mapping.IsWellFormed` and `Mapping.faults`: the mappings that break no rule, and the indices at
  which the others do.
* `Kit.Binds`: how the fields and the groups of a kit belong together.

## Main results

* `Mapping.isAscending_ofList`: every mapping that is made of pairs ascends.
* `Kit.bind_append`: binding passes the fields that break no rule, by induction on the fields that
  are left.
* `Kit.exists_bind_iff` and `Kit.isLeast_of_bind`: which mappings are bound, and how the others
  fail.
* `Kit.BindsOnce.groupOf?_eq_some_iff`: the groups of a kit that binds each field once.
* `Kit.compiles_iff_isWellFormed`: when a kit compiles, what it binds then, and how it fails.
-/

namespace Footage

/-! ## Mappings -/

namespace Mapping

/-- The indices ascend, so that there is one field at most at each of them. -/
def IsAscending (mapping : Mapping) : Prop :=
  mapping.Pairwise fun entry later => entry.1 < later.1

variable {mapping before rest : Mapping} {index other : Nat} {field present : Field}

/-- A mapping into which a field is put has no entries but this one and its own. -/
theorem mem_of_mem_insert {entry : Nat × Field} (h : entry ∈ mapping.insert index field) :
    entry = (index, field) ∨ entry ∈ mapping := by
  induction mapping with
  | nil => exact .inl (List.mem_singleton.1 h)
  | cons first rest ih =>
    rw [insert] at h
    split_ifs at h
    · exact List.mem_cons.1 h
    · exact (List.mem_cons.1 h).imp_right (List.mem_cons_of_mem first)
    · rcases List.mem_cons.1 h with rfl | hrest
      · exact .inr List.mem_cons_self
      · exact (ih hrest).imp_right (List.mem_cons_of_mem first)

/-- A mapping into which a field is put ascends as before. -/
theorem IsAscending.insert (h : mapping.IsAscending) (index : Nat) (field : Field) :
    (mapping.insert index field).IsAscending := by
  induction mapping with
  | nil => exact List.pairwise_singleton _ _
  | cons first rest ih =>
    obtain ⟨hfirst, hrest⟩ := List.pairwise_cons.1 h
    rw [Mapping.insert]
    -- The field goes before the first entry, takes its place, or goes into the rest.
    split_ifs with hlt heq
    · refine List.pairwise_cons.2 ⟨?_, h⟩
      intro entry hentry
      rcases List.mem_cons.1 hentry with rfl | hentry
      · exact hlt
      · exact Nat.lt_trans hlt (hfirst entry hentry)
    · subst heq
      exact List.pairwise_cons.2 ⟨hfirst, hrest⟩
    · refine List.pairwise_cons.2 ⟨?_, ih hrest⟩
      intro entry hentry
      rcases mem_of_mem_insert hentry with rfl | hentry
      · show first.1 < index
        omega
      · exact hfirst entry hentry

/-- Every mapping that is made of pairs ascends, in whatever order they stand. -/
theorem isAscending_ofList (pairs : List (Nat × Field)) : (ofList pairs).IsAscending := by
  have hfold : ∀ (pairs : List (Nat × Field)) (mapping : Mapping), mapping.IsAscending →
      (pairs.foldl (fun mapping pair => insert pair.1 pair.2 mapping) mapping).IsAscending := by
    intro pairs
    induction pairs with
    | nil => exact fun mapping h => h
    | cons pair pairs ih => exact fun mapping h => ih _ (h.insert pair.1 pair.2)
  exact hfold pairs [] List.Pairwise.nil

/-- The entries of an ascending mapping lie before one of them, are this one, or lie after it. -/
theorem IsAscending.cases_of_mem (h : IsAscending (before ++ (index, field) :: rest))
    (hmem : (other, present) ∈ before ++ (index, field) :: rest) :
    ((other, present) ∈ before ∧ other < index) ∨ (other = index ∧ present = field) ∨
      ((other, present) ∈ rest ∧ index < other) := by
  obtain ⟨-, hrest, hbefore⟩ := List.pairwise_append.1 h
  rcases List.mem_append.1 hmem with hmem | hmem
  · exact .inl ⟨hmem, hbefore _ hmem _ List.mem_cons_self⟩
  · rcases List.mem_cons.1 hmem with heq | hmem
    · cases heq
      exact .inr (.inl ⟨rfl, rfl⟩)
    · exact .inr (.inr ⟨hmem, (List.pairwise_cons.1 hrest).1 _ hmem⟩)

/-- Where a mapping ascends, each of its fields is looked up at its index. -/
theorem IsAscending.lookup_eq_some_iff (h : mapping.IsAscending) :
    mapping.lookup index = some field ↔ (index, field) ∈ mapping := by
  rw [List.lookup_eq_some_iff]
  constructor
  · rintro ⟨before, rest, rfl, -⟩
    simp
  · intro hmem
    obtain ⟨before, rest, rfl⟩ := List.append_of_mem hmem
    refine ⟨before, rest, rfl, fun entry hentry => ?_⟩
    have hlt := (List.pairwise_append.1 h).2.2 entry hentry _ List.mem_cons_self
    simpa using Nat.ne_of_gt hlt

end Mapping

namespace Mapping

variable {mapping : Mapping} {rules : Kit.Rules}

/-- A field is mapped at an index before a given one. -/
def IsBoundBefore (mapping : Mapping) (index : Nat) (field : Field) : Prop :=
  ∃ earlier < index, (earlier, field) ∈ mapping

/-- The field at an index of a mapping breaks a rule. A field that is mapped twice does so at the
later index. -/
def FailsAt (mapping : Mapping) (rules : Kit.Rules) (index : Nat) (cause : Misconfiguration) :
    Prop :=
  ∃ field, (index, field) ∈ mapping ∧
    rules.Rejects (mapping.IsBoundBefore index) index field cause

/-- The indices at which a mapping breaks a rule. -/
def faults (mapping : Mapping) (rules : Kit.Rules) : Set Nat :=
  {index | ∃ cause, mapping.FailsAt rules index cause}

/-- All fields of a mapping can be bound. -/
structure IsWellFormed (mapping : Mapping) (rules : Kit.Rules) : Prop where
  /-- Each index is that of a group of the pattern, other than the whole match. -/
  group : ∀ index field, (index, field) ∈ mapping → 1 ≤ index ∧ index ≤ rules.groupCount
  /-- Each field belongs to the target. -/
  target : ∀ index field, (index, field) ∈ mapping → field.target = rules.target
  /-- No field is mapped at two indices. -/
  once : ∀ index other field, (index, field) ∈ mapping → (other, field) ∈ mapping → index = other
  /-- Each field has a parser. -/
  parser : ∀ index field, (index, field) ∈ mapping →
    ∃ parser, rules.registry.parser? field = some parser

/-- A mapping is well-formed exactly if it breaks no rule at any index. -/
theorem isWellFormed_iff : mapping.IsWellFormed rules ↔ mapping.faults rules = ∅ := by
  rw [Set.eq_empty_iff_forall_notMem]
  constructor
  · rintro h index ⟨cause, field, hmem, hrejects⟩
    obtain ⟨parser, hparser⟩ := h.parser index field hmem
    have haccepts : rules.Accepts (mapping.IsBoundBefore index) index field parser := by
      refine ⟨h.group index field hmem, h.target index field hmem, ?_, hparser⟩
      rintro ⟨earlier, hlt, hearlier⟩
      exact hlt.ne (h.once earlier index field hearlier hmem)
    exact haccepts.not_rejects hrejects
  · intro h
    -- What is not rejected is accepted.
    have haccepts : ∀ index field, (index, field) ∈ mapping →
        ∃ parser, rules.Accepts (mapping.IsBoundBefore index) index field parser := by
      intro index field hmem
      rcases rules.rejects_or_accepts (mapping.IsBoundBefore index) index field with
        ⟨cause, hrejects⟩ | haccepts
      · exact absurd ⟨cause, field, hmem, hrejects⟩ (h index)
      · exact haccepts
    constructor
    · intro index field hmem
      obtain ⟨parser, haccepts⟩ := haccepts index field hmem
      exact haccepts.index
    · intro index field hmem
      obtain ⟨parser, haccepts⟩ := haccepts index field hmem
      exact haccepts.target
    · intro index other field hmem hother
      obtain ⟨_, hindex⟩ := haccepts index field hmem
      obtain ⟨_, hlater⟩ := haccepts other field hother
      rcases Nat.lt_trichotomy index other with hlt | heq | hlt
      · exact absurd ⟨index, hlt, hmem⟩ hlater.fresh
      · exact heq
      · exact absurd ⟨other, hlt, hother⟩ hindex.fresh
    · intro index field hmem
      obtain ⟨parser, haccepts⟩ := haccepts index field hmem
      exact ⟨parser, haccepts.parser⟩

end Mapping

/-! ## Binding -/

namespace Kit

variable {rules : Rules} {seen : List Field} {mapping before rest : Mapping} {index : Nat}
  {field : Field} {cause : Misconfiguration}

/-- In an ascending mapping the fields before an entry are those with smaller indices. -/
theorem mem_seen_iff (h : Mapping.IsAscending (before ++ (index, field) :: rest))
    (hseen : ∀ other, other ∈ seen ↔ ∃ earlier, (earlier, other) ∈ before) (other : Field) :
    other ∈ seen ↔ Mapping.IsBoundBefore (before ++ (index, field) :: rest) index other := by
  rw [hseen]
  constructor
  · rintro ⟨earlier, hmem⟩
    have hlt := (List.pairwise_append.1 h).2.2 _ hmem _ List.mem_cons_self
    exact ⟨earlier, hlt, List.mem_append_left _ hmem⟩
  · rintro ⟨earlier, hlt, hmem⟩
    rcases h.cases_of_mem hmem with ⟨hmem, -⟩ | ⟨rfl, -⟩ | ⟨-, hgt⟩
    · exact ⟨earlier, hmem⟩
    · exact absurd hlt (Nat.lt_irrefl _)
    · exact absurd hgt (Nat.not_lt_of_lt hlt)

/-- An ascending mapping is not at fault at an index whose field is accepted. -/
theorem notMem_faults_of_accepts (h : Mapping.IsAscending (before ++ (index, field) :: rest))
    (hseen : ∀ other, other ∈ seen ↔ ∃ earlier, (earlier, other) ∈ before) {parser : ValueParser}
    (haccepts : rules.Accepts (· ∈ seen) index field parser) :
    index ∉ Mapping.faults (before ++ (index, field) :: rest) rules := by
  rintro ⟨cause, present, hpresent, hrejects⟩
  rcases h.cases_of_mem hpresent with ⟨-, hlt⟩ | ⟨-, rfl⟩ | ⟨-, hlt⟩
  · exact absurd hlt (Nat.lt_irrefl _)
  · rw [← funext fun other => propext (mem_seen_iff h hseen other)] at hrejects
    exact haccepts.not_rejects hrejects
  · exact absurd hlt (Nat.lt_irrefl _)

/-- Binding goes on from what is bound already, and passes the fields that break no rule, up to the
first that does. -/
theorem bind_append (rules : Rules) (h : Mapping.IsAscending (before ++ rest))
    (hseen : ∀ other, other ∈ seen ↔ ∃ earlier, (earlier, other) ∈ before) :
    (∃ bounds, bind rules.groupCount rules.target rules.registry seen rest = .ok bounds ∧
      ∀ entry ∈ rest, entry.1 ∉ Mapping.faults (before ++ rest) rules) ∨
    ∃ index cause, bind rules.groupCount rules.target rules.registry seen rest = .error cause ∧
      Mapping.FailsAt (before ++ rest) rules index cause ∧
      ∀ entry ∈ rest, entry.1 < index → entry.1 ∉ Mapping.faults (before ++ rest) rules := by
  induction rest generalizing before seen with
  | nil => exact .inl ⟨[], rfl, List.forall_mem_nil _⟩
  | cons entry rest ih =>
    obtain ⟨index, field⟩ := entry
    rcases rules.rejects_or_accepts (· ∈ seen) index field with
      ⟨cause, hrejects⟩ | ⟨parser, haccepts⟩
    · refine .inr ⟨index, cause, bind_cons_of_rejects hrejects, ⟨field, by simp, ?_⟩, ?_⟩
      · rw [← funext fun other => propext (mem_seen_iff h hseen other)]
        exact hrejects
      · -- No entry from here on has a smaller index.
        intro other hother hlt
        rcases List.mem_cons.1 hother with rfl | hother
        · exact absurd hlt (Nat.lt_irrefl _)
        · have hgt := (List.pairwise_cons.1 (List.pairwise_append.1 h).2.1).1 other hother
          exact absurd hgt (Nat.not_lt_of_lt hlt)
    · have hsound := notMem_faults_of_accepts h hseen haccepts
      have hnext : ∀ other, other ∈ field :: seen ↔
          ∃ earlier, (earlier, other) ∈ before ++ [(index, field)] := by
        intro other
        simp [hseen, exists_or, or_comm]
      -- The field joins those before the rest, to which the induction hypothesis applies.
      have hsplit : before ++ (index, field) :: rest = (before ++ [(index, field)]) ++ rest := by
        simp
      rw [bind_cons_of_accepts haccepts]
      rw [hsplit] at h hsound ⊢
      rcases ih h hnext with ⟨bounds, hbounds, hrest⟩ | ⟨failing, cause, herror, hfails, hrest⟩
      · exact .inl ⟨_, by rw [hbounds]; rfl, List.forall_mem_cons.2 ⟨hsound, hrest⟩⟩
      · refine .inr ⟨failing, cause, by rw [herror]; rfl, hfails, ?_⟩
        exact List.forall_mem_cons.2 ⟨fun _ => hsound, hrest⟩

/-- Binding succeeds if no rule is broken, and otherwise fails for the smallest index at which one
is. -/
theorem bind_isLeast (h : mapping.IsAscending) (rules : Rules) :
    (∃ bounds, bind rules.groupCount rules.target rules.registry [] mapping = .ok bounds ∧
      mapping.faults rules = ∅) ∨
    ∃ index cause, bind rules.groupCount rules.target rules.registry [] mapping = .error cause ∧
      mapping.FailsAt rules index cause ∧ IsLeast (mapping.faults rules) index := by
  have hnil : ∀ other : Field, other ∈ [] ↔ ∃ earlier, (earlier, other) ∈ ([] : Mapping) := by simp
  have happend : Mapping.IsAscending ([] ++ mapping) := h
  rcases bind_append rules happend hnil with
    ⟨bounds, hbounds, hsound⟩ | ⟨index, cause, herror, hfails, hsound⟩
  · refine .inl ⟨bounds, hbounds, Set.eq_empty_iff_forall_notMem.2 ?_⟩
    rintro index ⟨cause, field, hmem, hrejects⟩
    exact hsound (index, field) hmem ⟨cause, field, hmem, hrejects⟩
  · refine .inr ⟨index, cause, herror, hfails, ⟨cause, hfails⟩, ?_⟩
    rintro other ⟨earlier, field, hmem, hrejects⟩
    by_contra hlt
    exact hsound (other, field) hmem (Nat.lt_of_not_le hlt) ⟨earlier, field, hmem, hrejects⟩

/-- The mappings that can be bound are the well-formed ones. -/
theorem exists_bind_iff (h : mapping.IsAscending) (rules : Rules) :
    (∃ bounds, bind rules.groupCount rules.target rules.registry [] mapping = .ok bounds) ↔
      mapping.IsWellFormed rules := by
  rw [Mapping.isWellFormed_iff]
  rcases bind_isLeast h rules with ⟨bounds, hbounds, hsound⟩ | ⟨index, cause, herror, -, hmem, -⟩
  · exact iff_of_true ⟨bounds, hbounds⟩ hsound
  · refine iff_of_false ?_ (Set.nonempty_iff_ne_empty.1 ⟨index, hmem⟩)
    rintro ⟨bounds, hbounds⟩
    rw [herror] at hbounds
    cases hbounds

/-- The others fail for the smallest index that is at fault. -/
theorem isLeast_of_bind (h : mapping.IsAscending) (rules : Rules)
    (herror : bind rules.groupCount rules.target rules.registry [] mapping = .error cause) :
    ∃ index, mapping.FailsAt rules index cause ∧ IsLeast (mapping.faults rules) index := by
  rcases bind_isLeast h rules with ⟨bounds, hbounds, -⟩ | ⟨index, found, hfound, hfails, hleast⟩
  · rw [herror] at hbounds
    cases hbounds
  · cases herror.symm.trans hfound
    exact ⟨index, hfails, hleast⟩

end Kit

/-! ## Groups -/

namespace Pattern

variable {pattern : Pattern} {found : Match}

/-- A match has a place for the whole match and for each group of the pattern. -/
theorem length_groups_of_findFrom? {text : Array Char} {position : Nat}
    (h : pattern.findFrom? text position = some found) :
    found.groups.length = pattern.groupCount + 1 := by
  obtain ⟨saved, -, rfl⟩ := Option.map_eq_some_iff.1 h
  simp [Match.ofSaved]

/-- So does each of the matches in a text. -/
theorem length_groups_of_mem_matchesIn {text : String} (h : found ∈ pattern.matchesIn text) :
    found.groups.length = pattern.groupCount + 1 := by
  have hfrom : ∀ (text : Array Char) (fuel position : Nat) (last : Option Nat),
      ∀ found ∈ pattern.matchesFrom text fuel position last,
        found.groups.length = pattern.groupCount + 1 := by
    intro text fuel
    induction fuel with
    | zero => exact fun position last => List.forall_mem_nil _
    | succ fuel ih =>
      intro position last
      rw [matchesFrom]
      -- A match is followed by those that are found after it.
      split
      · exact List.forall_mem_nil _
      next first hfirst =>
        split_ifs
        · split
          · exact List.forall_mem_nil _
          next next hnext => exact List.forall_mem_cons.2 ⟨length_groups_of_findFrom? hnext, ih _ _⟩
        · exact List.forall_mem_cons.2 ⟨length_groups_of_findFrom? hfirst, ih _ _⟩
  exact hfrom _ _ _ _ found h

end Pattern

/-! ## Kits -/

namespace Kit

variable {kit : Kit} {compiler : Pattern.Compiler} {registry : Registry} {target : Target}
  {text : String} {mapping : Mapping} {index : Nat} {field : Field}

/-- Where each field is bound once, it is found with its only group. -/
theorem BindsOnce.find?_eq_some_iff (h : kit.BindsOnce) {bound : BoundField} :
    (kit.bound.find? fun other => other.field = field) = some bound ↔
      bound ∈ kit.bound ∧ bound.field = field := by
  constructor
  · intro hfind
    exact ⟨List.mem_of_find?_eq_some hfind, by simpa using List.find?_some hfind⟩
  · rintro ⟨hmem, rfl⟩
    cases hfind : kit.bound.find? fun other => other.field = bound.field with
    | none => simpa using List.find?_eq_none.1 hfind bound hmem
    | some other =>
      have hfield : other.field = bound.field := by simpa using List.find?_some hfind
      rw [List.inj_on_of_nodup_map h (List.mem_of_find?_eq_some hfind) hmem hfield]

/-- The group of a field is the one that it stands with. -/
theorem BindsOnce.groupOf?_eq_some_iff (h : kit.BindsOnce) :
    kit.groupOf? field = some index ↔ (index, field) ∈ kit.fields := by
  rw [groupOf?, Option.map_eq_some_iff, fields, List.mem_map]
  constructor
  · rintro ⟨bound, hbound, rfl⟩
    obtain ⟨hmem, rfl⟩ := h.find?_eq_some_iff.1 hbound
    exact ⟨bound, hmem, rfl⟩
  · rintro ⟨bound, hmem, heq⟩
    cases heq
    exact ⟨bound, h.find?_eq_some_iff.2 ⟨hmem, rfl⟩, rfl⟩

/-- A kit binds the fields of a mapping, each with the group at its index. -/
structure Binds (kit : Kit) (mapping : Mapping) : Prop where
  /-- The fields of the kit are those of the mapping. -/
  fields : kit.fields = mapping
  /-- A field has the group that it is mapped to, and none if it is not mapped. -/
  groupOf : ∀ field index, kit.groupOf? field = some index ↔ (index, field) ∈ mapping
  /-- The groups of the fields and the fields of the groups are inverse to each other. -/
  inverse : ∀ field index, kit.groupOf? field = some index ↔ kit.fields.lookup index = some field
  /-- No field asks for the whole match. -/
  pos : ∀ bound ∈ kit.bound, 1 ≤ bound.index
  /-- No field asks for a group that a match of the pattern does not have. -/
  captured : ∀ bound ∈ kit.bound, ∀ text, ∀ found ∈ kit.pattern.matchesIn text,
    bound.index < found.groups.length

/-- A compiled kit binds the fields of its mapping. -/
theorem binds_of_compile (hmapping : mapping.IsAscending)
    (h : compileWith compiler registry target text mapping = .ok kit) : kit.Binds mapping := by
  have honce := bindsOnce_of_compile h
  obtain ⟨pattern, bounds, -, hbounds, rfl⟩ := compileWith_eq_ok_iff.1 h
  have hfields : Kit.fields ⟨pattern, target, bounds⟩ = mapping := fields_of_bind hbounds
  -- Each field was accepted, so that the pattern has a group at its index.
  have hgroup : ∀ bound ∈ bounds, 1 ≤ bound.index ∧ bound.index ≤ pattern.groupCount := by
    intro bound hbound
    obtain ⟨_, haccepts⟩ := exists_accepts_of_mem_bind hbounds bound hbound
    exact haccepts.index
  refine ⟨hfields, ?_, ?_, fun bound hbound => (hgroup bound hbound).1, ?_⟩
  · intro field index
    rw [honce.groupOf?_eq_some_iff, hfields]
  · intro field index
    rw [honce.groupOf?_eq_some_iff, hfields, hmapping.lookup_eq_some_iff]
  · intro bound hbound text found hfound
    rw [Pattern.length_groups_of_mem_matchesIn hfound]
    exact Nat.lt_succ_of_le (hgroup bound hbound).2

/-- A kit compiles exactly if its pattern does, by whatever compiler, and its mapping is
well-formed. If it does not, its rules are at fault. Where the pattern compiles, the failure is the
one of the smallest index at which the mapping breaks a rule, and names the field there. If the kit
compiles, it has the pattern that its text compiles to, and binds the fields of its mapping, each
with the group at its index. -/
theorem compiles_iff_isWellFormed (hmapping : mapping.IsAscending) (compiler : Pattern.Compiler)
    (registry : Registry) (target : Target) (text : String) :
    ((∃ kit, compileWith compiler registry target text mapping = .ok kit) ↔
      ∃ pattern, compiler text = some pattern ∧
        mapping.IsWellFormed ⟨pattern.groupCount, target, registry⟩) ∧
    (∀ failure, compileWith compiler registry target text mapping = .error failure →
      failure.isConfiguration = true ∧ ∀ pattern, compiler text = some pattern →
        ∃ index cause, failure = .misconfigured cause ∧
          mapping.FailsAt ⟨pattern.groupCount, target, registry⟩ index cause ∧
          IsLeast (mapping.faults ⟨pattern.groupCount, target, registry⟩) index) ∧
    ∀ kit, compileWith compiler registry target text mapping = .ok kit →
      compiler text = some kit.pattern ∧ kit.Binds mapping := by
  refine ⟨⟨?_, ?_⟩, ?_, fun kit hkit => ⟨?_, binds_of_compile hmapping hkit⟩⟩
  · rintro ⟨kit, hkit⟩
    obtain ⟨pattern, bounds, hpattern, hbounds, -⟩ := compileWith_eq_ok_iff.1 hkit
    exact ⟨pattern, hpattern, (exists_bind_iff hmapping ⟨_, target, registry⟩).1 ⟨bounds, hbounds⟩⟩
  · rintro ⟨pattern, hpattern, hwell⟩
    obtain ⟨bounds, hbounds⟩ := (exists_bind_iff hmapping _).2 hwell
    exact ⟨_, compileWith_eq_ok_iff.2 ⟨pattern, bounds, hpattern, hbounds, rfl⟩⟩
  · intro failure hfailure
    rcases compileWith_eq_error_iff.1 hfailure with
      ⟨hnone, rfl⟩ | ⟨pattern, cause, hpattern, herror, rfl⟩
    · -- Without a pattern no rule of the mapping is looked at.
      refine ⟨rfl, fun pattern hpattern => ?_⟩
      rw [hnone] at hpattern
      cases hpattern
    · refine ⟨rfl, fun other hother => ?_⟩
      cases hpattern.symm.trans hother
      obtain ⟨index, hfails, hleast⟩ :=
        isLeast_of_bind hmapping ⟨pattern.groupCount, target, registry⟩ herror
      exact ⟨index, cause, rfl, hfails, hleast⟩
  · obtain ⟨pattern, bounds, hpattern, -, rfl⟩ := compileWith_eq_ok_iff.1 hkit
    exact hpattern

/-- The teams on both sides of a match. -/
def teamsMapping : Mapping := .ofList [(2, .awayTeam), (1, .homeTeam)]

/-- A kit for teams compiles, and captures the away team with its second group. -/
theorem teams_compile : teamsMapping.IsAscending ∧
    ∃ kit, compile .standard .event "([A-Z]) v ([A-Z])" teamsMapping = .ok kit ∧
      kit.Binds teamsMapping ∧ kit.groupOf? .awayTeam = some 2 := by
  have hcount : (Pattern.ofText? "([A-Z]) v ([A-Z])").any (fun pattern =>
      pattern.groupCount = 2) = true := by
    decide +kernel
  obtain ⟨pattern, hpattern, hcount⟩ := (Option.any_eq_true _ _).1 hcount
  have hmapping := Mapping.isAscending_ofList [(2, .awayTeam), (1, .homeTeam)]
  have hentries : ∀ index field, (index, field) ∈ teamsMapping →
      index = 1 ∧ field = .homeTeam ∨ index = 2 ∧ field = .awayTeam := by
    intro index field hmem
    simpa [teamsMapping, Mapping.ofList, Mapping.insert] using hmem
  -- The number of groups is all that the rules see of the pattern.
  have hwell : teamsMapping.IsWellFormed ⟨pattern.groupCount, .event, .standard⟩ := by
    rw [of_decide_eq_true hcount]
    constructor
    · intro index field hmem
      rcases hentries index field hmem with ⟨rfl, rfl⟩ | ⟨rfl, rfl⟩ <;> decide
    · intro index field hmem
      rcases hentries index field hmem with ⟨rfl, rfl⟩ | ⟨rfl, rfl⟩ <;> rfl
    · intro index other field hmem hother
      rcases hentries index field hmem with ⟨rfl, rfl⟩ | ⟨rfl, rfl⟩ <;>
        simpa [eq_comm] using hentries other _ hother
    · exact fun index field _ => ⟨_, Registry.parser?_standard field⟩
  obtain ⟨hiff, -, hbinds⟩ :=
    compiles_iff_isWellFormed hmapping Pattern.ofText? .standard .event "([A-Z]) v ([A-Z])"
  obtain ⟨kit, hkit⟩ := hiff.2 ⟨pattern, hpattern, hwell⟩
  obtain ⟨-, hkitBinds⟩ := hbinds kit hkit
  exact ⟨hmapping, kit, hkit, hkitBinds, (hkitBinds.groupOf .awayTeam 2).2 (by decide)⟩

/-- The date at the first two of three indices. -/
def earlyRepeat : Mapping := .ofList [(1, .date), (2, .date), (3, .season)]

/-- The date at the first and at the last of three indices. -/
def lateRepeat : Mapping := .ofList [(1, .date), (2, .season), (3, .date)]

/-- A field that fails because it is repeated has an earlier index too. -/
theorem exists_earlier_of_failsAt {rules : Rules}
    (h : mapping.FailsAt rules index (.repeatedField field)) :
    (index, field) ∈ mapping ∧ ∃ earlier < index, (earlier, field) ∈ mapping := by
  obtain ⟨_, hmem, hrejects⟩ := h
  cases hrejects with
  | repeatedField _ _ hbound => exact ⟨hmem, hbound⟩

/-- A failure does not name the index that is at fault. Two mappings fail alike, although the one is
at fault at its second index and the other at its third. -/
theorem repeats_fail_alike : ∃ pattern failure, Pattern.ofText? "(a)(b)(c)" = some pattern ∧
    compile .standard .event "(a)(b)(c)" earlyRepeat = .error failure ∧
    compile .standard .event "(a)(b)(c)" lateRepeat = .error failure ∧
    failure.message = "Invalid pattern kit configuration: " ++
      "field 'date' is mapped to more than one group" ∧
    IsLeast (earlyRepeat.faults ⟨pattern.groupCount, .event, .standard⟩) 2 ∧
    IsLeast (lateRepeat.faults ⟨pattern.groupCount, .event, .standard⟩) 3 := by
  have hcount :
      (Pattern.ofText? "(a)(b)(c)").any (fun pattern => pattern.groupCount = 3) = true := by
    decide +kernel
  obtain ⟨pattern, hpattern, hcount⟩ := (Option.any_eq_true _ _).1 hcount
  have hearly : bind pattern.groupCount .event .standard [] earlyRepeat =
      .error (.repeatedField .date) := by
    rw [of_decide_eq_true hcount]
    rfl
  have hlate : bind pattern.groupCount .event .standard [] lateRepeat =
      .error (.repeatedField .date) := by
    rw [of_decide_eq_true hcount]
    rfl
  refine ⟨pattern, .misconfigured (.repeatedField .date), hpattern, ?_, ?_, by decide, ?_, ?_⟩
  · exact compileWith_eq_error_iff.2 (.inr ⟨pattern, _, hpattern, hearly, rfl⟩)
  · exact compileWith_eq_error_iff.2 (.inr ⟨pattern, _, hpattern, hlate, rfl⟩)
  -- A repeated field fails where it comes for the second time, which the failure does not tell.
  · obtain ⟨index, hfails, hleast⟩ := isLeast_of_bind (Mapping.isAscending_ofList _)
      ⟨pattern.groupCount, .event, .standard⟩ hearly
    have hdate : ∀ index, (index, Field.date) ∈ earlyRepeat → index = 1 ∨ index = 2 := by
      simp [earlyRepeat, Mapping.ofList, Mapping.insert]
    obtain ⟨hmem, earlier, hlt, hearlier⟩ := exists_earlier_of_failsAt hfails
    have hindex : index = 2 := by
      have := hdate index hmem
      have := hdate earlier hearlier
      omega
    exact hindex ▸ hleast
  · obtain ⟨index, hfails, hleast⟩ := isLeast_of_bind (Mapping.isAscending_ofList _)
      ⟨pattern.groupCount, .event, .standard⟩ hlate
    have hdate : ∀ index, (index, Field.date) ∈ lateRepeat → index = 1 ∨ index = 3 := by
      simp [lateRepeat, Mapping.ofList, Mapping.insert]
    obtain ⟨hmem, earlier, hlt, hearlier⟩ := exists_earlier_of_failsAt hfails
    have hindex : index = 3 := by
      have := hdate index hmem
      have := hdate earlier hearlier
      omega
    exact hindex ▸ hleast

end Kit

end Footage
