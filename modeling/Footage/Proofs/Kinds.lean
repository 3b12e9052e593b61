import Footage.DataSource
import Footage.Proofs.Kit.Rules

/-!
# Kinds of values

Each field holds values of one kind. The standard parsers yield values of their fields' kinds, so no
record of a kit that is compiled with them has a value of a wrong kind.

## Main definitions

* `ValueParser.Yields`, `Kit.WellKinded` and `Record.WellKinded`: parsers, kits and records that
  keep to the kinds of fields.
* `Kit.IsCompiled` and `KitSet.IsCompiled`: kits that are compiled with the standard parsers.

## Main results

* `ValueParser.ofKind_yields` and `Registry.parser?_standard`: the standard parsers keep to the
  kinds of fields.
* `Kit.wellKinded_of_compile` and `Kit.WellKinded.record`: so do the kits that are compiled with
  them and the records of these kits.
-/

namespace Footage

namespace ValueParser

/-- A parser reads texts only as values of one kind. -/
def Yields (parser : ValueParser) (kind : Kind) : Prop :=
  ∀ raw value, parser raw = some value → value.kind = kind

/-- The standard parser of a kind of fields yields values of this kind. -/
theorem ofKind_yields (kind : Kind) : (ofKind kind).Yields kind := by
  intro raw value h
  cases kind with
  | text | team | competition =>
    obtain ⟨-, hvalue⟩ := Option.ite_none_left_eq_some.1 h
    cases hvalue
    rfl
  | season | fixture | date | resolution =>
    obtain ⟨read, -, rfl⟩ := Option.map_eq_some_iff.1 h
    rfl
  | integer =>
    obtain ⟨number, -, hnumber⟩ := Option.bind_eq_some_iff.1 h
    obtain ⟨-, hvalue⟩ := Option.ite_none_right_eq_some.1 hnumber
    cases hvalue
    rfl
  | channels =>
    obtain ⟨counts, -, hvalue⟩ := Option.bind_eq_some_iff.1 h
    cases hvalue
    rfl

end ValueParser

/-- The standard registry gives each field the parser of its kind. -/
theorem Registry.parser?_standard (field : Field) :
    standard.parser? field = some (.ofField field) := by
  cases field <;> rfl

namespace Record

/-- Every value of a record is of its field's kind. -/
def WellKinded (record : Record) : Prop :=
  ∀ field value, record.value? field = some value → value.kind = field.kind

/-- A record that knows nothing has no value of a wrong kind. -/
theorem wellKinded_empty : empty.WellKinded := by
  rintro field value ⟨⟩

/-- A binding whose value, if it has one, is of the field's kind keeps a record well-kinded. -/
theorem WellKinded.insert {record : Record} (h : record.WellKinded) {field : Field}
    {binding : Binding} (hbinding : ∀ value, binding = .value value → value.kind = field.kind) :
    (record.insert field binding).WellKinded := by
  cases binding with
  | absent => exact h
  | unparsable raw => exact h
  | value value =>
    intro other found hfound
    simp only [Record.insert] at hfound
    split at hfound
    next heq =>
      cases hfound
      exact heq ▸ hbinding value rfl
    next => exact h other found hfound

end Record

namespace Kit

/-- The parsers of a kit yield values of their fields' kinds. -/
def WellKinded (kit : Kit) : Prop :=
  ∀ bound ∈ kit.bound, bound.parser.Yields bound.field.kind

/-- A kit that is compiled with the standard parsers keeps to the kinds of fields. -/
theorem wellKinded_of_compile {compiler : Pattern.Compiler} {target : Target} {pattern : String}
    {mapping : Mapping} {kit : Kit}
    (h : compileWith compiler .standard target pattern mapping = .ok kit) : kit.WellKinded := by
  obtain ⟨_, bounds, -, hbounds, rfl⟩ := compileWith_eq_ok_iff.1 h
  intro bound hbound
  obtain ⟨_, haccepts⟩ := exists_accepts_of_mem_bind hbounds bound hbound
  have hparser := haccepts.parser
  rw [Registry.parser?_standard] at hparser
  rw [← Option.some.inj hparser]
  exact ValueParser.ofKind_yields bound.field.kind

/-- The records of a kit keep to the kinds of fields if its parsers do. -/
theorem WellKinded.record {kit : Kit} (h : kit.WellKinded) (found : Pattern.Match) :
    (kit.record found).WellKinded := by
  -- The record grows by one binding after the other, so the statement is about any record to start
  -- from.
  have hfold : ∀ (bounds : List BoundField) (record : Record), record.WellKinded →
      (∀ bound ∈ bounds, bound.parser.Yields bound.field.kind) →
      (bounds.foldl (fun record bound => record.insert bound.field (bound.binding found))
        record).WellKinded := by
    intro bounds
    induction bounds with
    | nil => exact fun record hrecord _ => hrecord
    | cons bound bounds ih =>
      intro record hrecord hbounds
      obtain ⟨hbound, hrest⟩ := List.forall_mem_cons.1 hbounds
      refine ih _ (hrecord.insert fun value hvalue => ?_) hrest
      rw [BoundField.binding] at hvalue
      split at hvalue
      · cases hvalue
      split at hvalue
      next hparsed =>
        cases hvalue
        exact hbound _ _ hparsed
      · cases hvalue
  exact hfold kit.bound .empty Record.wellKinded_empty h

end Kit

/-! ## Compiled kits -/

/-- The kit is compiled with the standard parsers, by whatever compiler of patterns. -/
def Kit.IsCompiled (kit : Kit) : Prop :=
  ∃ compiler target pattern mapping,
    Kit.compileWith compiler .standard target pattern mapping = .ok kit

/-- A compiled kit keeps to the kinds of fields. -/
theorem Kit.IsCompiled.wellKinded {kit : Kit} (h : kit.IsCompiled) : kit.WellKinded := by
  obtain ⟨compiler, target, pattern, mapping, hcompile⟩ := h
  exact wellKinded_of_compile hcompile

variable {compiler : Pattern.Compiler}

theorem EventKit.isCompiled_of_compile {pattern : String} {mapping : Mapping} {kit : EventKit}
    (h : compileWith compiler pattern mapping = .ok kit) : kit.kit.IsCompiled := by
  obtain ⟨fields, hfields, rfl⟩ := Except.map_eq_ok_iff.1 h
  exact ⟨_, _, _, _, hfields⟩

theorem SourceKit.isCompiled_of_compile {source videoUrl : String} {mapping : Mapping}
    {partLabel : Option String} {kit : SourceKit}
    (h : compileWith compiler source mapping videoUrl partLabel = .ok kit) :
    kit.kit.IsCompiled := by
  rw [compileWith] at h
  obtain ⟨fields, hfields, hrest⟩ := Except.bind_eq_ok_iff.1 h
  obtain ⟨videoUrl, -, hrest⟩ := Except.bind_eq_ok_iff.1 hrest
  obtain ⟨partLabel, -, hrest⟩ := Except.bind_eq_ok_iff.1 hrest
  split at hrest
  · cases hrest
  · cases hrest
    exact ⟨_, _, _, _, hfields⟩

namespace KitSet

/-- All kits of the set are compiled with the standard parsers. -/
structure IsCompiled (kits : KitSet) : Prop where
  event : kits.event.kit.IsCompiled
  sources : ∀ kit ∈ kits.sources, kit.kit.IsCompiled

/-- Compiling a kit set compiles its kits. -/
theorem isCompiled_of_compile {description : KitSetDescription} {kits : KitSet}
    (h : compileWith compiler description = .ok kits) : kits.IsCompiled := by
  rw [compileWith] at h
  obtain ⟨event, hevent, hrest⟩ := Except.bind_eq_ok_iff.1 h
  obtain ⟨sources, hsources, hkits⟩ := Except.bind_eq_ok_iff.1 hrest
  cases hkits
  constructor
  · exact EventKit.isCompiled_of_compile hevent
  · intro source hsource
    obtain ⟨description, -, hcompile⟩ := Except.exists_mem_of_mapM_eq_ok hsources hsource
    exact SourceKit.isCompiled_of_compile hcompile

/-- All parsers of a kit set keep to the kinds of fields. -/
structure WellKinded (kits : KitSet) : Prop where
  event : kits.event.kit.WellKinded
  sources : ∀ kit ∈ kits.sources, kit.kit.WellKinded

/-- A compiled kit set keeps to the kinds of fields. -/
theorem IsCompiled.wellKinded {kits : KitSet} (h : kits.IsCompiled) : kits.WellKinded where
  event := h.event.wellKinded
  sources kit hkit := (h.sources kit hkit).wellKinded

/-- A kit set that is compiled keeps to the kinds of fields. -/
theorem wellKinded_of_compile {description : KitSetDescription} {kits : KitSet}
    (h : compileWith compiler description = .ok kits) : kits.WellKinded :=
  (isCompiled_of_compile h).wellKinded

end KitSet

end Footage
