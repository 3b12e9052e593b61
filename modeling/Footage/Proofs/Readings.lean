import Footage.Proofs.Kinds

/-!
# What matches say about fields

A match says something about a field through the group that captures it: a value if the parser of
the field reads the captured text, and otherwise that this text cannot be read. A compiled kit
captures each field with one group at most, so that the record of a match holds exactly this, field
by field.

## Main definitions

* `Kit.BindsOnce`: each field is captured by one group at most.
* `Kit.readings`: what a match says about the fields, taken one by one.

## Main results

* `Kit.bindsOnce_of_compile`: a compiled kit binds each field once.
* `Kit.BindsOnce.record_eq`: the record of a match holds what the match says.
-/

namespace Footage

/-! ## Records -/

namespace BoundField

/-- The value that a match gives to the field. -/
def reading? (bound : BoundField) (found : Pattern.Match) : Option Value :=
  (found.captured? bound.index).bind bound.parser

/-- The text that a match captures for the field, if it cannot be read. -/
def rejected? (bound : BoundField) (found : Pattern.Match) : Option String :=
  (found.captured? bound.index).filter fun raw => (bound.parser raw).isNone

/-- A binding adds what the match says about its field, and changes nothing else. -/
theorem insert_binding (bound : BoundField) (found : Pattern.Match) (record : Record) :
    record.insert bound.field (bound.binding found) =
      { value? := fun field =>
          if field = bound.field then bound.reading? found <|> record.value? field
          else record.value? field
        unparsable? := fun field =>
          if field = bound.field then bound.rejected? found <|> record.unparsable? field
          else record.unparsable? field } := by
  rw [binding]
  cases hcaptured : found.captured? bound.index with
  | none => simp [Record.insert, reading?, rejected?, hcaptured]
  | some raw =>
    cases hread : bound.parser raw with
    | none => simp [Record.insert, reading?, rejected?, Option.filter, hcaptured, hread]
    | some value => simp [Record.insert, reading?, rejected?, Option.filter, hcaptured, hread]

end BoundField

namespace Kit

/-- Each field is captured by one group at most. -/
def BindsOnce (kit : Kit) : Prop :=
  (kit.bound.map BoundField.field).Nodup

/-- What a match says about each field. -/
def readings (kit : Kit) (found : Pattern.Match) : Record where
  value? field := (kit.bound.find? fun bound => bound.field = field).bind (·.reading? found)
  unparsable? field := (kit.bound.find? fun bound => bound.field = field).bind (·.rejected? found)

/-- The fields that are bound after some other fields are none of these, and are bound once. -/
theorem nodup_of_bind {count : Nat} {target : Target} {registry : Registry} {seen : List Field}
    {mapping : Mapping} {bounds : List BoundField}
    (h : bind count target registry seen mapping = .ok bounds) :
    (bounds.map BoundField.field).Nodup ∧ ∀ bound ∈ bounds, bound.field ∉ seen := by
  -- Both at once: that the rest avoids the first field is what keeps this one single.
  induction mapping generalizing seen bounds with
  | nil =>
    cases h
    simp
  | cons entry mapping ih =>
    obtain ⟨parser, rest, haccepts, hrest, rfl⟩ := bind_cons_eq_ok_iff.1 h
    obtain ⟨hnodup, hfresh⟩ := ih hrest
    constructor
    · refine List.nodup_cons.2 ⟨fun hmem => ?_, hnodup⟩
      obtain ⟨bound, hbound, heq⟩ := List.mem_map.1 hmem
      exact hfresh bound hbound (heq ▸ List.mem_cons_self)
    · refine List.forall_mem_cons.2 ⟨haccepts.fresh, fun bound hbound hmem => ?_⟩
      exact hfresh bound hbound (List.mem_cons_of_mem _ hmem)

/-- A compiled kit binds each field once. -/
theorem bindsOnce_of_compile {compiler : Pattern.Compiler} {registry : Registry} {target : Target}
    {pattern : String} {mapping : Mapping} {kit : Kit}
    (h : compileWith compiler registry target pattern mapping = .ok kit) : kit.BindsOnce := by
  obtain ⟨_, bounds, -, hbounds, rfl⟩ := compileWith_eq_ok_iff.1 h
  exact (nodup_of_bind hbounds).1

/-- A kit that is compiled with the standard parsers binds each field once. -/
theorem IsCompiled.bindsOnce {kit : Kit} (h : kit.IsCompiled) : kit.BindsOnce := by
  obtain ⟨compiler, target, pattern, mapping, hcompile⟩ := h
  exact bindsOnce_of_compile hcompile

/-- The record of a match holds what the match says about each field. -/
theorem BindsOnce.record_eq {kit : Kit} (h : kit.BindsOnce) (found : Pattern.Match) :
    kit.record found = kit.readings found := by
  -- The record grows by one binding after the other. Since no field comes twice, what a binding
  -- adds is not displaced by a later one.
  have hfold : ∀ (bounds : List BoundField) (record : Record),
      (bounds.map BoundField.field).Nodup →
      bounds.foldl (fun record bound => record.insert bound.field (bound.binding found)) record =
        { value? := fun field =>
            (bounds.find? fun bound => bound.field = field).bind (·.reading? found) <|>
              record.value? field
          unparsable? := fun field =>
            (bounds.find? fun bound => bound.field = field).bind (·.rejected? found) <|>
              record.unparsable? field } := by
    intro bounds
    induction bounds with
    | nil => simp
    | cons bound bounds ih =>
      intro record hbounds
      obtain ⟨hbound, hrest⟩ := List.nodup_cons.1 hbounds
      have hother : ∀ field, bound.field = field →
          (bounds.find? fun other => other.field = field) = none := by
        rintro _ rfl
        refine List.find?_eq_none.2 fun other hmem => ?_
        simpa using fun heq : other.field = bound.field =>
          hbound (heq ▸ List.mem_map_of_mem hmem)
      rw [List.foldl_cons, ih _ hrest, bound.insert_binding found record]
      ext field : 2
      all_goals
        by_cases hfield : bound.field = field
        · simp [hfield, hother field hfield]
        · have hne : field ≠ bound.field := fun heq => hfield heq.symm
          simp [hfield, hne]
  rw [record, hfold kit.bound .empty h]
  simp [readings, Record.empty]

end Kit

end Footage
