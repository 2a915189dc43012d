import ApiSurface.Document.TomlReader
import ApiSurface.Settings.Patch

/-!
# Settings in documents

Patches as they stand in settings files and catalogs, and settings as snapshots show them.
-/

namespace ApiSurface

open Document

/-! ## Reading -/

namespace CollaboratorPatch

def recordType : RecordType :=
  ⟨"struct CollaboratorPatch", Collaborators.default.fields.map Prod.fst, true⟩

def readField : FieldReader CollaboratorPatch := fun patch field datum => do
  let value ← datum.optional Datum.text
  match field with
  | "data_accessor" => return { patch with dataAccessor := value }
  | "data_mapper" => return { patch with dataMapper := value }
  | "data_merger" => return { patch with dataMerger := value }
  | "search_filter_builder" => return { patch with searchFilterBuilder := value }
  | _ => return { patch with referenceResolver := value }

def ofDatum (datum : Datum) : Decoded CollaboratorPatch := do
  let (_, patch) ← datum.readRecord recordType readField empty
  return patch

def toJson (patch : CollaboratorPatch) : Json :=
  .object [("data_accessor", .optional .string patch.dataAccessor),
    ("data_mapper", .optional .string patch.dataMapper),
    ("data_merger", .optional .string patch.dataMerger),
    ("search_filter_builder", .optional .string patch.searchFilterBuilder),
    ("reference_resolver", .optional .string patch.referenceResolver)]

end CollaboratorPatch

namespace SettingsPatch

def recordType : RecordType :=
  ⟨"struct SettingsPatch",
    ["class_name_prefix", "class_name_pattern", "data_wrapper", "dto_namespace", "dto_suffix",
      "entity_suffixes", "indentation", "page_size", "verbose", "security", "collaborators",
      "exporter"],
    true⟩

def readField : FieldReader SettingsPatch := fun patch field datum => do
  match field with
  | "class_name_prefix" => return { patch with classNamePrefix := ← datum.optional Datum.text }
  | "class_name_pattern" => return { patch with classNamePattern := ← datum.optional Datum.text }
  | "data_wrapper" => return { patch with dataWrapper := ← datum.optional Datum.text }
  | "dto_namespace" => return { patch with dtoNamespace := ← datum.optional Datum.text }
  | "dto_suffix" => return { patch with dtoSuffix := ← datum.optional Datum.text }
  | "entity_suffixes" =>
      return { patch with entitySuffixes := ← datum.optional (Datum.listOf Datum.text) }
  | "indentation" => return { patch with indentation := ← datum.optional (Datum.natural word64) }
  | "page_size" => return { patch with pageSize := ← datum.optional (Datum.natural word32) }
  | "verbose" => return { patch with verbose := ← datum.optional Datum.flag }
  | "security" => return { patch with security := ← datum.optional SecurityPolicy.ofDatum }
  | "collaborators" =>
      return { patch with collaborators := ← datum.optional CollaboratorPatch.ofDatum }
  | _ => return { patch with exporter := ← datum.optional (Datum.variant OutputFormat.named) }

def ofDatum (datum : Datum) : Decoded SettingsPatch := do
  let (_, patch) ← datum.readRecord recordType readField empty
  return patch

def parse (text : String) : Decoded SettingsPatch :=
  decodeParsed ofDatum (TomlText.parse? text)

/-! ## Writing -/

def toJson (patch : SettingsPatch) : Json :=
  .object [("class_name_prefix", .optional .string patch.classNamePrefix),
    ("class_name_pattern", .optional .string patch.classNamePattern),
    ("data_wrapper", .optional .string patch.dataWrapper),
    ("dto_namespace", .optional .string patch.dtoNamespace),
    ("dto_suffix", .optional .string patch.dtoSuffix),
    ("entity_suffixes", .optional Json.strings patch.entitySuffixes),
    ("indentation", .optional .nat patch.indentation),
    ("page_size", .optional .nat patch.pageSize),
    ("verbose", .optional .bool patch.verbose),
    ("security", .optional SecurityPolicy.toJson patch.security),
    ("collaborators", .optional CollaboratorPatch.toJson patch.collaborators),
    ("exporter", .optional (fun format => .string (OutputFormat.text format)) patch.exporter)]

end SettingsPatch

def Collaborators.toJson (collaborators : Collaborators) : Json :=
  .object (collaborators.fields.map fun (name, type) => (name, .string type))

def Settings.toJson (settings : Settings) : Json :=
  .object [("class_name_prefix", .string settings.classNamePrefix),
    ("class_name_pattern", .string settings.classNamePattern),
    ("data_wrapper", .optional .string settings.dataWrapper),
    ("dto_namespace", .optional .string settings.dtoNamespace),
    ("dto_suffix", .string settings.dtoSuffix),
    ("entity_suffixes", Json.strings settings.entitySuffixes),
    ("indentation", .string settings.indentation),
    ("page_size", .nat settings.pageSize),
    ("verbose", .bool settings.verbose),
    ("security", .optional SecurityPolicy.toJson settings.security),
    ("collaborators", settings.collaborators.toJson),
    ("exporter", .string settings.exporter.text)]

end ApiSurface
