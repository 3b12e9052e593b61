import Footage.Kit.Basic
import Footage.Proofs.Outcome

/-!
# The rules of kits

A field of a mapping can be bound if its index is that of a group, it belongs to the target of the
kit, it is not bound yet, and it has a parser. This module states these rules apart from the binding
of a mapping, and unfolds the binding by one field.

## Main definitions

* `Kit.Rules`: what the fields of a mapping are bound under.
* `Kit.Rules.Rejects` and `Kit.Rules.Accepts`: why a field cannot be bound, given the fields that
  are bound before it, and when it can.

## Main results

* `Kit.Rules.rejects_or_accepts` and `Kit.Rules.Accepts.not_rejects`: each field is either rejected
  or accepted.
* `Kit.bind_cons_of_rejects` and `Kit.bind_cons_of_accepts`: what becomes of a mapping with its
  first field.
* `Kit.exists_accepts_of_mem_bind` and `Kit.fields_of_bind`: what is bound are the fields of the
  mapping, each of which has been accepted.
* `Kit.compileWith_eq_ok_iff` and `Kit.compileWith_eq_error_iff`: how a kit comes of a pattern and a
  mapping.
-/

namespace Footage

namespace Kit

/-- What the fields of a mapping are bound under. -/
structure Rules where
  /-- The number of groups of the pattern. -/
  groupCount : Nat
  target : Target
  registry : Registry

namespace Rules

/-- Why the field at an index cannot be bound, given the fields that are bound before it. If several
rules are broken, the first one in this order counts. -/
inductive Rejects (rules : Rules) (isBound : Field → Prop) (index : Nat) (field : Field) :
    Misconfiguration → Prop
  /-- The group is the whole match. -/
  | wholeMatch (hindex : index = 0) : Rejects rules isBound index field (.wholeMatch field)
  /-- The pattern does not have the group. -/
  | missingGroup (hindex : rules.groupCount < index) :
      Rejects rules isBound index field (.missingGroup field index rules.groupCount)
  /-- The field does not belong to the target. -/
  | foreignField (hindex : 1 ≤ index ∧ index ≤ rules.groupCount)
      (htarget : field.target ≠ rules.target) :
      Rejects rules isBound index field (.foreignField field rules.target)
  /-- The field is bound already. -/
  | repeatedField (hindex : 1 ≤ index ∧ index ≤ rules.groupCount)
      (htarget : field.target = rules.target) (hbound : isBound field) :
      Rejects rules isBound index field (.repeatedField field)
  /-- The field has no parser. -/
  | noParser (hindex : 1 ≤ index ∧ index ≤ rules.groupCount)
      (htarget : field.target = rules.target) (hbound : ¬isBound field)
      (hparser : rules.registry.parser? field = none) :
      Rejects rules isBound index field (.noParser field)

/-- The field at an index breaks no rule, and has a parser. -/
structure Accepts (rules : Rules) (isBound : Field → Prop) (index : Nat) (field : Field)
    (parser : ValueParser) : Prop where
  index : 1 ≤ index ∧ index ≤ rules.groupCount
  target : field.target = rules.target
  fresh : ¬isBound field
  parser : rules.registry.parser? field = some parser

variable {rules : Rules} {isBound : Field → Prop} {index : Nat} {field : Field}
  {parser : ValueParser} {cause : Misconfiguration}

/-- A field that breaks no rule is not rejected. -/
theorem Accepts.not_rejects (h : rules.Accepts isBound index field parser) :
    ¬rules.Rejects isBound index field cause := by
  intro hrejects
  obtain ⟨hpos, hle⟩ := h.index
  cases hrejects with
  | wholeMatch hindex => omega
  | missingGroup hindex => omega
  | foreignField _ htarget => exact htarget h.target
  | repeatedField _ _ hbound => exact h.fresh hbound
  | noParser _ _ _ hparser => simp [h.parser] at hparser

/-- A field breaks a rule or is accepted. -/
theorem rejects_or_accepts (rules : Rules) (isBound : Field → Prop) (index : Nat) (field : Field) :
    (∃ cause, rules.Rejects isBound index field cause) ∨
      ∃ parser, rules.Accepts isBound index field parser := by
  by_cases hindex : 1 ≤ index ∧ index ≤ rules.groupCount
  · by_cases htarget : field.target = rules.target
    · by_cases hbound : isBound field
      · exact .inl ⟨_, .repeatedField hindex htarget hbound⟩
      · cases hparser : rules.registry.parser? field with
        | none => exact .inl ⟨_, .noParser hindex htarget hbound hparser⟩
        | some parser => exact .inr ⟨parser, hindex, htarget, hbound, hparser⟩
    · exact .inl ⟨_, .foreignField hindex htarget⟩
  · rcases Nat.eq_zero_or_pos index with hzero | hpos
    · exact .inl ⟨_, .wholeMatch hzero⟩
    · exact .inl ⟨_, .missingGroup (by omega)⟩

end Rules

/-! ## One field -/

variable {rules : Rules} {seen : List Field} {rest : Mapping} {index : Nat} {field : Field}

/-- A first field that breaks a rule fails the mapping. -/
theorem bind_cons_of_rejects {cause : Misconfiguration}
    (h : rules.Rejects (· ∈ seen) index field cause) :
    bind rules.groupCount rules.target rules.registry seen ((index, field) :: rest) =
      .error cause := by
  rw [bind]
  cases h with
  | wholeMatch hindex => simp [hindex]
  | missingGroup hindex => simp [hindex, Nat.ne_zero_of_lt hindex]
  | foreignField hindex htarget =>
    simp [Nat.ne_zero_of_lt hindex.1, Nat.not_lt_of_le hindex.2, htarget]
  | repeatedField hindex htarget hbound =>
    simp [Nat.ne_zero_of_lt hindex.1, Nat.not_lt_of_le hindex.2, htarget, hbound]
  | noParser hindex htarget hbound hparser =>
    simp [Nat.ne_zero_of_lt hindex.1, Nat.not_lt_of_le hindex.2, htarget, hbound, hparser]

/-- A first field that breaks no rule is bound with its parser, before the others. -/
theorem bind_cons_of_accepts {parser : ValueParser}
    (h : rules.Accepts (· ∈ seen) index field parser) :
    bind rules.groupCount rules.target rules.registry seen ((index, field) :: rest) =
      (bind rules.groupCount rules.target rules.registry (field :: seen) rest).map
        (⟨index, field, parser⟩ :: ·) := by
  rw [bind]
  simp only [Nat.ne_zero_of_lt h.index.1, Nat.not_lt_of_le h.index.2, h.target, h.fresh, h.parser,
    ne_eq, not_true_eq_false, if_false]
  cases bind rules.groupCount rules.target rules.registry (field :: seen) rest <;> rfl

/-- A kit binds a first field exactly if the field breaks no rule and the rest is bound. -/
theorem bind_cons_eq_ok_iff {count : Nat} {target : Target} {registry : Registry}
    {bounds : List BoundField} :
    bind count target registry seen ((index, field) :: rest) = .ok bounds ↔
      ∃ parser others, Rules.Accepts ⟨count, target, registry⟩ (· ∈ seen) index field parser ∧
        bind count target registry (field :: seen) rest = .ok others ∧
        bounds = ⟨index, field, parser⟩ :: others := by
  rcases Rules.rejects_or_accepts ⟨count, target, registry⟩ (· ∈ seen) index field with
    ⟨cause, hrejects⟩ | ⟨parser, haccepts⟩
  · -- A field that is rejected is not accepted too.
    rw [bind_cons_of_rejects hrejects]
    refine iff_of_false (by simp) ?_
    rintro ⟨parser, others, haccepts, -⟩
    exact haccepts.not_rejects hrejects
  · rw [bind_cons_of_accepts haccepts, Except.map_eq_ok_iff]
    constructor
    · rintro ⟨others, hothers, rfl⟩
      exact ⟨parser, others, haccepts, hothers, rfl⟩
    · rintro ⟨other, others, hother, hothers, rfl⟩
      cases haccepts.parser.symm.trans hother.parser
      exact ⟨others, hothers, rfl⟩

/-- Each field that is bound has been accepted. -/
theorem exists_accepts_of_mem_bind {count : Nat} {target : Target} {registry : Registry}
    {bounds : List BoundField} (h : bind count target registry seen rest = .ok bounds) :
    ∀ bound ∈ bounds, ∃ isBound, Rules.Accepts ⟨count, target, registry⟩ isBound bound.index
      bound.field bound.parser := by
  induction rest generalizing seen bounds with
  | nil =>
    cases h
    exact List.forall_mem_nil _
  | cons entry rest ih =>
    obtain ⟨parser, others, haccepts, hothers, rfl⟩ := bind_cons_eq_ok_iff.1 h
    exact List.forall_mem_cons.2 ⟨⟨_, haccepts⟩, ih hothers⟩

/-- What is bound is the mapping, field by field. -/
theorem fields_of_bind {count : Nat} {target : Target} {registry : Registry}
    {bounds : List BoundField} (h : bind count target registry seen rest = .ok bounds) :
    (bounds.map fun bound => (bound.index, bound.field)) = rest := by
  induction rest generalizing seen bounds with
  | nil =>
    cases h
    rfl
  | cons entry rest ih =>
    obtain ⟨parser, others, -, hothers, rfl⟩ := bind_cons_eq_ok_iff.1 h
    rw [List.map_cons, ih hothers]

/-! ## Compiling -/

variable {kit : Kit} {compiler : Pattern.Compiler} {registry : Registry} {target : Target}
  {text : String} {mapping : Mapping}

/-- A kit compiles exactly if its pattern does and its mapping is bound. -/
theorem compileWith_eq_ok_iff : compileWith compiler registry target text mapping = .ok kit ↔
    ∃ pattern bounds, compiler text = some pattern ∧
      bind pattern.groupCount target registry [] mapping = .ok bounds ∧
      kit = ⟨pattern, target, bounds⟩ := by
  rw [compileWith]
  cases compiler text with
  | none => simp
  | some pattern =>
    cases hbind : bind pattern.groupCount target registry [] mapping with
    | ok bounds => simp [hbind, eq_comm]
    | error cause => simp [hbind]

/-- A kit fails for its pattern or for its mapping. -/
theorem compileWith_eq_error_iff {failure : Failure} :
    compileWith compiler registry target text mapping = .error failure ↔
      (compiler text = none ∧ failure = .badPattern) ∨
      ∃ pattern cause, compiler text = some pattern ∧
        bind pattern.groupCount target registry [] mapping = .error cause ∧
        failure = .misconfigured cause := by
  rw [compileWith]
  cases compiler text with
  | none => simp [eq_comm]
  | some pattern =>
    cases hbind : bind pattern.groupCount target registry [] mapping with
    | ok bounds => simp [hbind]
    | error cause => simp [hbind, eq_comm]

end Kit

end Footage
