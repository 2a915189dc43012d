import ApiSurface.Operation.Set

/-!
# Statements of generated sources

How each step of a body is spelled in a Rust controller.
-/

namespace ApiSurface.Output

open Naming

def braced (text : String) : String :=
  "\x7b" ++ text ++ "\x7d"

def methodCall (receiver method : String) (arguments : List String) : String :=
  receiver ++ "." ++ method ++ "(" ++ Text.join ", " arguments ++ ")"

def fallibleCall (receiver method : String) (arguments : List String) : String :=
  methodCall receiver method arguments ++ "?"

def letStatement (name value : String) : String :=
  "let " ++ name ++ " = " ++ value ++ ";"

def letMutStatement (name value : String) : String :=
  "let mut " ++ name ++ " = " ++ value ++ ";"

def typedMethod (method typeArgument : String) : String :=
  method ++ "::<" ++ typeArgument ++ ">"

def accessor : String := "self.data_accessor"

def mapCall (shape value : String) : String :=
  fallibleCall "self.data_mapper" (typedMethod "map" ("_, " ++ sourcePath shape)) [value]

def setterFor : ContentKind → String
  | .item => "set_item"
  | .sequence => "set_sequence"
  | .page => "set_page"

def wrapperStatements (config : ResourceConfiguration) (into method : String)
    (arguments : List String) : String :=
  let wrapper := (config.wrapper.map sourcePath).getD ""
  letMutStatement into (wrapper ++ "::default()") ++ " " ++
    methodCall into method arguments ++ ";"

def statement (config : ResourceConfiguration) : Step → String
  | .readOwner id into =>
      letMutStatement into
        (fallibleCall accessor "read" [id] ++ ".ok_or(CrudError::EntityNotFound)?")
  | .mapTo source shape into => letStatement into (mapCall shape source)
  | .assign source into => letStatement into source
  | .assignId target id => letStatement target (methodCall target "with_id" [id])
  | .create source into => letStatement into (fallibleCall accessor "create" [source])
  | .update source into => letMutStatement into (fallibleCall accessor "update" [source])
  | .merge base changes into =>
      letStatement into (fallibleCall "self.data_merger" "merge" [base, changes])
  | .deleteById id => fallibleCall accessor "delete_by_id" [id] ++ ";"
  | .listAll into => letStatement into (fallibleCall accessor "list" [])
  | .buildFilter filter shape into =>
      letStatement into
        (fallibleCall "self.search_filter_builder" (typedMethod "build" (sourcePath shape))
          [filter ++ ".as_deref()"])
  | .searchPage filter page size into =>
      letStatement into (fallibleCall accessor "search" [filter, page, size])
  | .mapEach source shape into =>
      let mapper :=
        "|item| " ++ methodCall "self.data_mapper" (typedMethod "map" ("_, " ++ sourcePath shape))
          ["item"]
      letStatement into (fallibleCall source "try_map" [mapper])
  | .readAccessor target accessor into =>
      letStatement into (methodCall target (snakeCase accessor) [])
  | .invokeAccessor target accessor value =>
      let argument := value.elim "None" (· ++ ".into()")
      methodCall target (snakeCase accessor) [argument] ++ ";"
  | .resolveReference relatedType id into =>
      letStatement into
        (fallibleCall "self.reference_resolver" (typedMethod "reference" (sourcePath relatedType))
          [id])
  | .extractId source accessor into =>
      letStatement into (methodCall source (snakeCase accessor) [])
  | .delegate operation arguments into =>
      let call := fallibleCall "self" operation arguments
      into.elim (call ++ ";") fun into => letStatement into call
  | .wrapContent source content into => wrapperStatements config into (setterFor content) [source]
  | .wrapNoContent into => wrapperStatements config into "no_content" []
  | .return source => "Ok(" ++ source ++ ")"
  | .returnEmpty => "Ok(())"

end ApiSurface.Output
