/-
This file says which configurations pass the check and which of these can be put to use.
-/

import SchemaInference.Config.Basic
import SchemaInference.Proofs.Document
import SchemaInference.Proofs.Inference.Assembled
import SchemaInference.Proofs.Service.Attempt

namespace SchemaInference

/-! The check of a configuration -/

/-- A file has a path. A web address can be read, has a scheme of the web and a timeout. -/
def SourceConfig.Valid : SourceConfig → Prop
  | file path => path ≠ ""
  | http url timeoutSeconds _ => timeoutSeconds ≠ 0 ∧
      ∃ address, Url.read url = .ok address ∧ (address.scheme = "http" ∨ address.scheme = "https")

/-- The interval is positive, no name is empty, and the source is valid. -/
structure Config.Valid (config : Config) : Prop where
  refreshes : 0 < config.refreshSeconds
  rootNamed : config.options.rootTypeName ≠ ""
  fallbackNamed : config.options.fallbackField ≠ ""
  source : config.source.Valid

namespace SourceConfig

variable {source : SourceConfig}

theorem validate_eq_ok_iff : source.validate = .ok () ↔ source.Valid := by
  cases source with
  | file path =>
      rw [validate, Valid]
      by_cases empty : path = "" <;> simp [empty]
  | http url timeoutSeconds headers =>
      rw [validate, Valid]
      cases Url.read url with
      | error fault => simp
      | ok address =>
          by_cases instant : timeoutSeconds = 0 <;>
            by_cases plain : address.scheme = "http" <;>
              by_cases secure : address.scheme = "https" <;> simp [instant, plain, secure]

/-- The provider reads the address in the same way as the check. -/
theorem Valid.exists_origin (valid : source.Valid) :
    ∃ origin, source.origin = .ok origin ∧ origin.describe = source.describe := by
  cases source with
  | file path => exact ⟨.file path, rfl, rfl⟩
  | http url timeoutSeconds headers =>
      obtain ⟨_, address, read, _⟩ := valid
      refine ⟨.remote url, ?_, rfl⟩
      rw [origin, Origin.ofUrl, read]

end SourceConfig

theorem Config.validate_eq_ok_iff {config : Config} : config.validate = .ok () ↔ config.Valid := by
  have split : config.validate = .ok () ↔ config.refreshSeconds ≠ 0 ∧
      config.options.rootTypeName ≠ "" ∧ config.options.fallbackField ≠ "" ∧
        config.source.validate = .ok () := by
    unfold validate
    by_cases never : config.refreshSeconds = 0 <;>
      by_cases root : config.options.rootTypeName = "" <;>
        by_cases fallback : config.options.fallbackField = "" <;> simp [never, root, fallback]
  rw [split, SourceConfig.validate_eq_ok_iff]
  constructor
  · rintro ⟨interval, root, fallback, source⟩
    exact ⟨Nat.pos_of_ne_zero interval, root, fallback, source⟩
  · rintro ⟨interval, root, fallback, source⟩
    exact ⟨Nat.ne_of_gt interval, root, fallback, source⟩

/-! Schemas of the options -/

namespace Options

/-- The checks of a schema take the name of the root type. -/
def AdmitsRoot (options : Options) : Prop :=
  Schema.Named options options.rootTypeName ∧ options.rootTypeName ∉ ScalarKind.builtinNames

/-- The checks of a schema take the name of the fallback field. -/
def AdmitsFallback (options : Options) : Prop :=
  Schema.Named options options.fallbackField

end Options

/-- A schema with a single scalar field has no reference to check. -/
theorem Schema.checked_of_scalar {options : Options} {name : String} {field : Field}
    (named : Named options name) (distinct : name ∉ ScalarKind.builtinNames)
    (fieldNamed : Named options field.name) (scalar : field.type.isScalar = true) :
    Schema.Checked ⟨(ObjectType.empty name).addField field, .empty⟩ options where
  rootNamed := named
  rootDistinct := distinct
  typesNamed := nofun
  typesDistinct := nofun
  fieldsNamed := by
    intro object inside other member
    obtain rfl := List.mem_singleton.mp inside
    obtain rfl := List.mem_singleton.mp member
    exact fieldNamed
  fieldsDefined := by
    intro object inside other member
    obtain rfl := List.mem_singleton.mp inside
    obtain rfl := List.mem_singleton.mp member
    rw [isDefined, scalar, Bool.true_or, Bool.true_or]

/-- A service that is served a document with a schema can publish it. -/
theorem Service.exists_attempt_start {assembler : Assembler} (origin : Origin) {raw : ByteArray}
    {document : Document} {schema : Schema} (decoded : Document.decode raw = .ok document)
    (assembled : assembler.assemble document.value = .ok schema) :
    ∃ generation, (start ⟨origin, .ok raw⟩ assembler).attempt = .ok generation := by
  obtain rfl := Document.raw_of_decode decoded
  exact ⟨⟨1, schema, document⟩, attempt_eq_ok_iff.mpr ⟨rfl, rfl, decoded, assembled⟩⟩

namespace Assembler

variable {assembler : Assembler} {document : Json}

theorem name_root_build :
    (assembler.build document).root.name = assembler.options.rootTypeName := by
  rw [root_build]
  simp [ObjectType.empty]

/-- No document makes up for the name of the root type. -/
theorem admitsRoot_of_assemble {schema : Schema}
    (assembled : assembler.assemble document = .ok schema) : assembler.options.AdmitsRoot := by
  obtain ⟨rfl, checked⟩ := assemble_eq_ok_iff.mp assembled
  have named := checked.rootNamed
  have distinct := checked.rootDistinct
  rw [name_root_build] at named distinct
  exact ⟨named, distinct⟩

theorem assemble_eq_error_of_root {failure : Failure}
    (refused : Schema.checkTypeName assembler.options ScalarKind.builtinNames
      assembler.options.rootTypeName = .error failure) (document : Json) :
    assembler.assemble document = .error failure := by
  rw [assemble_eq_error_iff, Schema.validate, name_root_build, refused]
  rfl

/-- A document whose schema has a single scalar field needs nothing but admissible names. -/
theorem assemble_eq_ok_of_scalar {field : Field} (built : assembler.build document =
      ⟨(ObjectType.empty assembler.options.rootTypeName).addField field, .empty⟩)
    (admits : assembler.options.AdmitsRoot) (named : Schema.Named assembler.options field.name)
    (scalar : field.type.isScalar = true) :
    assembler.assemble document =
      .ok ⟨(ObjectType.empty assembler.options.rootTypeName).addField field, .empty⟩ := by
  rw [assemble_eq_ok_iff, built]
  exact ⟨rfl, Schema.checked_of_scalar admits.1 admits.2 named scalar⟩

/-- The empty object has a schema, and the fallback is its field, exactly when the names of the root
and of the fallback are admissible. -/
theorem assemble_empty_iff :
    (∃ schema, assembler.assemble (.object []) = .ok schema ∧
        schema.root.field? assembler.options.fallbackField =
          some (.fallback assembler.options.fallbackField)) ↔
      assembler.options.AdmitsRoot ∧ assembler.options.AdmitsFallback := by
  have built : assembler.build (.object []) =
      ⟨(ObjectType.empty assembler.options.rootTypeName).addField
        (.fallback assembler.options.fallbackField), .empty⟩ := rfl
  constructor
  · rintro ⟨schema, assembled, _⟩
    refine ⟨admitsRoot_of_assemble assembled, ?_⟩
    obtain ⟨rfl, checked⟩ := assemble_eq_ok_iff.mp assembled
    exact checked.fieldsNamed _ List.mem_cons_self (.fallback assembler.options.fallbackField)
      List.mem_cons_self
  · rintro ⟨root, fallback⟩
    exact ⟨_, assemble_eq_ok_of_scalar built root fallback rfl, Dict.get?_insert_self _ _ _⟩

/-- For some contents of its source a service can publish, exactly when the name of the root is
admissible. -/
theorem exists_attempt_eq_ok_iff (origin : Origin) :
    (∃ raw generation, (Service.start ⟨origin, .ok raw⟩ assembler).attempt = .ok generation) ↔
      assembler.options.AdmitsRoot := by
  constructor
  · rintro ⟨raw, generation, rebuilt⟩
    exact admitsRoot_of_assemble (Service.attempt_eq_ok_iff.mp rebuilt).2.2.assembled
  · intro admits
    -- The member has an admissible name under all options, so the root has no fallback field.
    have assembled : assembler.assemble (.object [("a", .null)]) =
        .ok ⟨(ObjectType.empty assembler.options.rootTypeName).addField (.scalar "a" .string),
          .empty⟩ :=
      assemble_eq_ok_of_scalar rfl admits (fun _ => rfl) rfl
    have canonical : (Json.object [("a", .null)]).Canonical := by
      simp [Json.Canonical, Json.CanonicalMembers, Entries.Ascending]
    have decoded := Document.decode_compactText rfl canonical (by simp) (by decide)
    exact ⟨_, Service.exists_attempt_start origin decoded assembled⟩

end Assembler

/-- A configuration that passes the check has a provider with its description and a positive
interval. The empty object has a schema, whose root has the fallback field, exactly when the names
of the root and of this field are admissible. Some rebuild succeeds exactly when the name of the
root is admissible. -/
theorem Config.usable_iff (config : Config) (valid : config.validate = .ok ()) :
    ∃ origin, config.source.origin = .ok origin ∧ origin.describe = config.source.describe ∧
      0 < config.refreshMilliseconds ∧
      ((∃ schema, config.assembler.assemble (.object []) = .ok schema ∧
          schema.root.field? config.options.fallbackField =
            some (.fallback config.options.fallbackField)) ↔
        config.options.AdmitsRoot ∧ config.options.AdmitsFallback) ∧
      ((∃ raw generation,
          (Service.start ⟨origin, .ok raw⟩ config.assembler).attempt = .ok generation) ↔
        config.options.AdmitsRoot) := by
  have checked := validate_eq_ok_iff.mp valid
  obtain ⟨origin, built, described⟩ := checked.source.exists_origin
  refine ⟨origin, built, described, ?_, Assembler.assemble_empty_iff,
    Assembler.exists_attempt_eq_ok_iff origin⟩
  exact Nat.mul_pos (by decide) checked.refreshes

/-- The source is a web address, and the names are identifiers. -/
theorem Config.usable_iff_remote :
    let options := { Options.standard with rootTypeName := "Query", fallbackField := "none" }
    let config : Config := ⟨.http "https://[::1]:8080/app" 3 .empty, 60, options, .debug⟩
    config.validate = .ok () ∧
      ∃ origin, config.source.origin = .ok origin ∧
        origin.describe = "url https://[::1]:8080/app" ∧
        (∃ schema, config.assembler.assemble (.object []) = .ok schema ∧
          schema.root.field? "none" = some (.fallback "none")) ∧
        ∃ raw generation,
          (Service.start ⟨origin, .ok raw⟩ config.assembler).attempt = .ok generation := by
  intro options config
  have valid : config.validate = .ok () := by decide +kernel
  have root : options.AdmitsRoot := ⟨fun _ => by decide, by decide⟩
  have fallback : options.AdmitsFallback := fun _ => by decide
  obtain ⟨origin, built, described, _, empty, rebuilds⟩ := config.usable_iff valid
  exact ⟨valid, origin, built, described, empty.mpr ⟨root, fallback⟩, rebuilds.mpr root⟩

/-- The root has the name of a scalar. The configuration passes the check, but no document has a
schema. -/
theorem Config.reserved_root_never_assembles :
    let options := { Options.standard with rootTypeName := "String" }
    let config : Config := ⟨.file "doc.json", 5, options, .info⟩
    config.validate = .ok () ∧
      ∀ document, config.assembler.assemble document = .error (.duplicateType "String") := by
  intro options config
  have refused : Schema.checkTypeName options ScalarKind.builtinNames "String" =
      .error (.duplicateType "String") := by decide
  exact ⟨by decide, Assembler.assemble_eq_error_of_root refused⟩

end SchemaInference
