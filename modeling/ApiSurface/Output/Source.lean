import ApiSurface.Output.Files
import ApiSurface.Output.Step

/-!
# Rust sources

One controller module for each resource and a root module with the types that controllers share.
Sources are laid out with four spaces a level; each level is then written in the indentation of
the settings.
-/

namespace ApiSurface.Output

open Naming

/-! ## Indentation -/

def layoutUnit : List Char :=
  [' ', ' ', ' ', ' ']

def reindentLine (indent : List Char) : List Char → List Char
  | ' ' :: ' ' :: ' ' :: ' ' :: rest => indent ++ reindentLine indent rest
  | line => line

def reindentChars (indent contents : List Char) : List Char :=
  if indent == layoutUnit then contents
  else (Text.lines contents).flatMap fun line => reindentLine indent line ++ ['\n']

def reindent (contents indent : String) : String :=
  .ofList (reindentChars indent.toList contents.toList)

/-! ## Parts of a controller -/

def lineAt (level : Nat) (text : String) : String :=
  Text.repeatText level (.ofList layoutUnit) ++ text

def quoted (text : String) : String :=
  "\"" ++ text ++ "\""

def literalSlice (values : List String) : String :=
  "&[" ++ Text.concat (values.map fun value => quoted value ++ ", ") ++ "]"

def routeLines (operation : Operation) : List String :=
  [lineAt 1 "Route \x7b",
    lineAt 2 ("methods: " ++ literalSlice operation.verbNames ++ ","),
    lineAt 2 ("path: " ++ quoted operation.path ++ ","),
    lineAt 2 ("operation: " ++ quoted operation.name ++ ","),
    lineAt 2 ("roles: " ++ literalSlice (operation.security.elim [] RoleRequirement.roles) ++ ","),
    lineAt 1 "\x7d,"]

def fieldText (field : ScaffoldField) : String :=
  field.name ++ ": " ++ sourcePath field.type

def parameterText (parameter : Parameter) : String :=
  let type := sourcePath parameter.type
  if parameter.required || parameter.defaultValue.isSome then parameter.name ++ ": " ++ type
  else parameter.name ++ ": Option<" ++ type ++ ">"

def inTicks (text : String) : String :=
  "`" ++ text ++ "`"

/-- The documentation of a handler: route and status, required roles, and default values. -/
def handlerDoc (operation : Operation) : List String :=
  let status := operation.response.status
  let route :=
    inTicks operation.routeLabel ++ " → " ++ Text.decimal status.code ++ " " ++ status.reason
  let roles := operation.security.elim [] fun requirement =>
    ["", "Requires " ++ inTicks requirement.text]
  let defaults := operation.parameters.filterMap fun parameter =>
    parameter.defaultValue.map fun value => inTicks parameter.name ++ " defaults to " ++ value
  route :: roles ++ defaults

def handlerLines (config : ResourceConfiguration) (operation : Operation) : List String :=
  let parameters := Text.join ", " (operation.parameters.map parameterText)
  let result := "Result<" ++ sourcePath operation.response.declaredType ++ ", CrudError>"
  [""] ++ (handlerDoc operation).map (fun line => lineAt 1 ("/// " ++ line)) ++
    [lineAt 1 ("pub fn " ++ operation.name ++ "(&self, " ++ parameters ++ ") -> " ++ result ++
      " \x7b")] ++
    operation.body.map (fun step => lineAt 2 (statement config step)) ++
    [lineAt 1 "\x7d"]

/-! ## Controllers -/

structure ControllerNames where
  moduleName : String
  typeName : String
  deriving DecidableEq, Repr

def ControllerNames.of (controller : String) : ControllerNames :=
  ⟨snakeCase (simpleName controller), simpleName controller⟩

def headerLine (catalog : String) : String :=
  "// Generated by brrtcrud-gen from " ++ inTicks catalog ++
    ". Regenerate instead of editing."

def controllerLines (catalog : String) (resource : SynthesizedResource) : List String :=
  let config := resource.configuration
  let operations := resource.operations.operations
  let fields := resource.operations.scaffolding
  let typeName := (ControllerNames.of resource.operations.controllerName).typeName
  let arguments := Text.concat (fields.map fun field => fieldText field ++ ", ")
  [headerLine catalog,
    "#![allow(unused_mut, clippy::let_and_return)]",
    "",
    "use super::" ++ braced "CrudError, Page, Route, TryMap" ++ ";",
    "",
    "/// Routes served by [" ++ inTicks typeName ++ "]",
    "pub const ROUTES: &[Route] = &["] ++
    operations.flatMap routeLines ++
    ["];",
      "",
      "/// Generated API surface of " ++ inTicks config.resourceType ++ ", mounted at " ++
        inTicks config.basePath,
      "pub struct " ++ typeName ++ " \x7b"] ++
    fields.map (fun field => lineAt 1 ("pub " ++ fieldText field ++ ",")) ++
    ["\x7d",
      "",
      "impl " ++ typeName ++ " \x7b",
      lineAt 1 ("pub fn new(" ++ arguments ++ ") -> Self \x7b"),
      lineAt 2 "Self \x7b"] ++
    fields.map (fun field => lineAt 3 (field.name ++ ",")) ++
    [lineAt 2 "\x7d",
      lineAt 1 "\x7d"] ++
    operations.flatMap (handlerLines config) ++
    ["\x7d"]

def controllerText (catalog : String) (resource : SynthesizedResource) : String :=
  Text.join "\n" (controllerLines catalog resource)

/-! ## Root module -/

def sharedLines : List String := [
    "/// Errors raised by generated operations",
    "#[derive(Debug)]",
    "pub enum CrudError \x7b",
    "    /// The owning record does not exist",
    "    EntityNotFound,",
    "    /// A collaborator failed; propagated unchanged",
    "    Collaborator(Box<dyn std::error::Error + Send + Sync>),",
    "\x7d",
    "",
    "impl std::fmt::Display for CrudError \x7b",
    "    fn fmt(&self, f: &mut std::fmt::Formatter<'_>) -> std::fmt::Result \x7b",
    "        match self \x7b",
    "            CrudError::EntityNotFound => write!(f, \"entity not found\"),",
    "            CrudError::Collaborator(err) => write!(f, \"\x7berr\x7d\"),",
    "        \x7d",
    "    \x7d",
    "\x7d",
    "",
    "impl std::error::Error for CrudError \x7b\x7d",
    "",
    "/// One page of search results",
    "#[derive(Debug, Clone)]",
    "pub struct Page<T> \x7b",
    "    pub content: Vec<T>,",
    "    pub page: u32,",
    "    pub size: u32,",
    "    pub total_elements: u64,",
    "\x7d",
    "",
    "/// A generated route",
    "#[derive(Debug, Clone, Copy)]",
    "pub struct Route \x7b",
    "    pub methods: &'static [&'static str],",
    "    pub path: &'static str,",
    "    pub operation: &'static str,",
    "    /// Every role is required",
    "    pub roles: &'static [&'static str],",
    "\x7d",
    "",
    "/// Element-wise fallible mapping over sequences and pages",
    "pub trait TryMap<T> \x7b",
    "    type Output<U>;",
    "",
    "    fn try_map<U>(self, f: impl FnMut(T) -> Result<U, CrudError>) -> Result<Self::Output<U>, CrudError>;",
    "\x7d",
    "",
    "impl<T> TryMap<T> for Vec<T> \x7b",
    "    type Output<U> = Vec<U>;",
    "",
    "    fn try_map<U>(self, f: impl FnMut(T) -> Result<U, CrudError>) -> Result<Vec<U>, CrudError> \x7b",
    "        self.into_iter().map(f).collect()",
    "    \x7d",
    "\x7d",
    "",
    "impl<T> TryMap<T> for Page<T> \x7b",
    "    type Output<U> = Page<U>;",
    "",
    "    fn try_map<U>(self, f: impl FnMut(T) -> Result<U, CrudError>) -> Result<Page<U>, CrudError> \x7b",
    "        Ok(Page \x7b",
    "            content: self.content.into_iter().map(f).collect::<Result<_, _>>()?,",
    "            page: self.page,",
    "            size: self.size,",
    "            total_elements: self.total_elements,",
    "        \x7d)",
    "    \x7d",
    "\x7d"]

def rootLines (catalog : String) (controllers : List ControllerNames) : List String :=
  [headerLine catalog, ""] ++
    controllers.map (fun names => "pub mod " ++ names.moduleName ++ ";") ++
    [""] ++
    controllers.map (fun names => "pub use " ++ names.moduleName ++ "::" ++ names.typeName ++ ";") ++
    [""] ++ sharedLines

/-! ## Files -/

def controllerFile (catalog : String) (settings : Settings) (resource : SynthesizedResource) :
    RenderedFile :=
  let names := ControllerNames.of resource.operations.controllerName
  ⟨names.moduleName ++ ".rs", reindent (controllerText catalog resource) settings.indentation⟩

def rootFile (catalog : String) (settings : Settings) (resources : List SynthesizedResource) :
    RenderedFile :=
  let controllers := resources.map fun resource =>
    ControllerNames.of resource.operations.controllerName
  ⟨"mod.rs", reindent (Text.join "\n" (rootLines catalog controllers)) settings.indentation⟩

def sourceFiles (catalog : String) (settings : Settings) (resources : List SynthesizedResource) :
    List RenderedFile :=
  resources.map (controllerFile catalog settings) ++ [rootFile catalog settings resources]

end ApiSurface.Output
