import ApiSurface.Document.YamlWriter
import ApiSurface.Operation.Documents
import ApiSurface.Output.Source

/-!
# Snapshots

The settings in force and every resource with its operations as one document, and the choice
between sources and snapshots.
-/

namespace ApiSurface.Output

open Document

def snapshot (catalog : String) (settings : Settings) (resources : List SynthesizedResource) :
    Json :=
  .object [("catalog", .string catalog), ("settings", settings.toJson),
    ("resources", .array (resources.map SynthesizedResource.toJson))]

def render (format : OutputFormat) (catalog : String) (settings : Settings)
    (resources : List SynthesizedResource) : List RenderedFile :=
  match format with
  | .rust => sourceFiles catalog settings resources
  | .json =>
      [⟨"generated-rest.json", (snapshot catalog settings resources).prettyText ++ "\n"⟩]
  | .yaml => [⟨"generated-rest.yaml", YamlText.write (snapshot catalog settings resources)⟩]

end ApiSurface.Output
