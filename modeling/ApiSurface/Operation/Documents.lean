import ApiSurface.Operation.Set

/-!
# Operations in documents

How operations and their parts appear in snapshots.  A step is an object whose first member
names it.
-/

namespace ApiSurface

def Parameter.toJson (parameter : Parameter) : Json :=
  .object ([("name", .string parameter.name), ("type_id", .string parameter.type),
    ("source", .string parameter.source.text), ("required", .bool parameter.required)] ++
    Json.present "default_value" (parameter.defaultValue.map .string))

/-! ## Responses -/

def ResponseShape.toJson (shape : ResponseShape) : Json :=
  match shape with
  | .item type => .object [("kind", .string "item"), ("type", .string type)]
  | .sequence type => .object [("kind", .string "sequence"), ("type", .string type)]
  | .page type => .object [("kind", .string "page"), ("type", .string type)]
  | .empty => .object [("kind", .string "empty")]

def ResponseContract.toJson (contract : ResponseContract) : Json :=
  .object [("shape", contract.shape.toJson), ("wrapped", .bool contract.wrapped),
    ("declared_type", .string contract.declaredType),
    ("status_on_success", .nat contract.status.code)]

/-! ## Steps -/

def textStep (name : String) (members : List (String × String)) : Json :=
  .object (("step", .string name) :: members.map fun (key, value) => (key, .string value))

def Step.toJson : Step → Json
  | .readOwner id into => textStep "read_owner" [("id", id), ("into", into)]
  | .mapTo source shape into =>
      textStep "map_to" [("source", source), ("shape", shape), ("into", into)]
  | .assign source into => textStep "assign" [("source", source), ("into", into)]
  | .assignId target id => textStep "assign_id" [("target", target), ("id", id)]
  | .create source into => textStep "create" [("source", source), ("into", into)]
  | .update source into => textStep "update" [("source", source), ("into", into)]
  | .merge base changes into =>
      textStep "merge" [("original", base), ("changes", changes), ("into", into)]
  | .deleteById id => textStep "delete_by_id" [("id", id)]
  | .listAll into => textStep "list_all" [("into", into)]
  | .buildFilter filter shape into =>
      textStep "build_filter" [("filter", filter), ("shape", shape), ("into", into)]
  | .searchPage filter page size into =>
      textStep "search_page" [("filter", filter), ("page", page), ("size", size), ("into", into)]
  | .mapEach source shape into =>
      textStep "map_each" [("source", source), ("shape", shape), ("into", into)]
  | .readAccessor target accessor into =>
      textStep "read_accessor" [("target", target), ("accessor", accessor), ("into", into)]
  | .invokeAccessor target accessor value =>
      .object [("step", .string "invoke_accessor"), ("target", .string target),
        ("accessor", .string accessor), ("value", .optional .string value)]
  | .resolveReference relatedType id into =>
      textStep "resolve_reference" [("related_type", relatedType), ("id", id), ("into", into)]
  | .extractId source accessor into =>
      textStep "extract_id" [("source", source), ("accessor", accessor), ("into", into)]
  | .delegate operation arguments into =>
      .object [("step", .string "delegate"), ("operation", .string operation),
        ("arguments", Json.strings arguments), ("into", .optional .string into)]
  | .wrapContent source content into =>
      textStep "wrap_content" [("source", source), ("content", content.text), ("into", into)]
  | .wrapNoContent into => textStep "wrap_no_content" [("into", into)]
  | .return source => textStep "return" [("source", source)]
  | .returnEmpty => textStep "return_empty" []

/-! ## Operations -/

def Operation.toJson (operation : Operation) : Json :=
  .object ([("kind", .string operation.kind.name), ("methods", Json.strings operation.verbNames),
    ("path", .string operation.path), ("operation_name", .string operation.name)] ++
    Json.present "relation" (operation.relation.map .string) ++
    [("parameters", .array (operation.parameters.map Parameter.toJson)),
      ("security",
        .optional (fun requirement => .string (RoleRequirement.text requirement))
          operation.security),
      ("body", .array (operation.body.map Step.toJson)),
      ("response", operation.response.toJson)])

def scaffoldingJson (fields : List ScaffoldField) : Json :=
  .object [("fields", .array (fields.map fun field =>
      .object [("name", .string field.name), ("type_id", .string field.type)])),
    ("constructor", Json.strings (fields.map ScaffoldField.name))]

def OperationSet.toJson (set : OperationSet) : Json :=
  .object [("controller_name", .string set.controllerName),
    ("resource_type_id", .string set.resourceType),
    ("operations", .array (set.operations.map Operation.toJson)),
    ("scaffolding", scaffoldingJson set.scaffolding)]

def SynthesizedResource.toJson (resource : SynthesizedResource) : Json :=
  .object [("configuration", resource.configuration.toJson),
    ("operations", resource.operations.toJson)]

end ApiSurface
