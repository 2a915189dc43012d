import ApiSurface.Output.Snapshot
import ApiSurface.Proofs.Command.Writing
import ApiSurface.Proofs.Naming.SnakeCase
import ApiSurface.Proofs.Resource.Assembly
import ApiSurface.Proofs.Synthesis.CatalogReport
import Mathlib.Data.List.Nodup

/-!
# Names of rendered files

The sources of a catalog are one module for each resource that can be assembled, in the order of
the declarations, and the root module (`names_of_render_rust`).  Nothing on the way from a
controller's name to its module keeps two names apart or a slash out, so both are conditions here.
-/

namespace ApiSurface

open Naming Output

/-! ## Modules -/

namespace DeclaredTypes

def controllers (declared : DeclaredTypes) (settings : Settings) : List String :=
  (declared.resourceDeclarations.filter fun declaration =>
    (assemble declared declaration settings).isOk).map fun declaration =>
      declaration.controllerName settings

def modules (declared : DeclaredTypes) (settings : Settings) : List String :=
  (declared.controllers settings).map fun controller => (ControllerNames.of controller).moduleName

variable (declared : DeclaredTypes) (settings : Settings)

theorem controllers_of_ofTypes :
    (CatalogReport.ofTypes declared settings).resources.map
        (fun resource => resource.operations.controllerName) = declared.controllers settings := by
  rw [CatalogReport.ofTypes, CatalogReport.ofDeclarations_eq, controllers]
  induction declared.resourceDeclarations with
  | nil => rfl
  | cons declaration declarations ih =>
      cases hassembled : assemble declared declaration settings with
      | error error => simpa [hassembled, Except.isOk, Except.toBool] using ih
      | ok assembled =>
          have hname := controllerName_of_assemble hassembled
          have hset : assembled.synthesized.operations.controllerName =
              declaration.controllerName settings := hname
          simpa [hassembled, Except.isOk, Except.toBool, hset] using ih

theorem slash_notMem_modules_iff :
    (∀ name ∈ declared.modules settings, '/' ∉ name.toList) ↔
      ∀ controller ∈ declared.controllers settings, '/' ∉ (simpleName controller).toList := by
  simp only [modules, List.forall_mem_map, ControllerNames.of, slash_mem_snakeCase_iff]

end DeclaredTypes

/-! ## Names of source files -/

def sourceName (name : String) : String :=
  name ++ ".rs"

theorem sourceName_injective : Function.Injective sourceName := by
  intro first second hsame
  have hchars : first.toList ++ ".rs".toList = second.toList ++ ".rs".toList := by
    simpa [sourceName] using congrArg String.toList hsame
  exact String.toList_inj.mp (List.append_cancel_right hchars)

theorem isPlain_sourceName_iff (name : String) :
    Path.IsPlain (sourceName name) ↔ '/' ∉ name.toList := by
  have hchars : (sourceName name).toList = name.toList ++ ['.', 'r', 's'] := by simp [sourceName]
  have hlast : ∀ other : String, other.toList.getLast? ≠ some 's' → sourceName name ≠ other := by
    rintro other hother rfl
    simp [hchars] at hother
  constructor
  · intro hplain hslash
    exact hplain.slashless (hchars ▸ List.mem_append_left _ hslash)
  · intro hslash
    refine ⟨hlast "" (by decide), hlast "." (by decide), hlast ".." (by decide), ?_⟩
    rw [hchars]
    simpa using hslash

variable (declared : DeclaredTypes) (settings : Settings) (catalog : String)

theorem names_of_render_rust :
    (render .rust catalog settings (CatalogReport.ofTypes declared settings).resources).map
        RenderedFile.name = (declared.modules settings ++ ["mod"]).map sourceName := by
  rw [DeclaredTypes.modules, ← declared.controllers_of_ofTypes settings]
  simp only [render, sourceFiles, List.map_append, List.map_map]
  rfl

/-! ## Names in the output directory -/

theorem isPlain_of_render_rust_iff :
    (∀ file ∈ render .rust catalog settings (CatalogReport.ofTypes declared settings).resources,
        Path.IsPlain file.name) ↔
      ∀ name ∈ declared.modules settings, '/' ∉ name.toList := by
  have hroot : '/' ∉ "mod".toList := by decide
  rw [← List.forall_mem_map (P := Path.IsPlain), names_of_render_rust, List.forall_mem_map]
  simp only [isPlain_sourceName_iff, List.forall_mem_append, List.forall_mem_singleton]
  exact and_iff_left hroot

theorem isPlain_of_render_iff (format : OutputFormat) :
    (∀ file ∈ render format catalog settings (CatalogReport.ofTypes declared settings).resources,
        Path.IsPlain file.name) ↔
      (format = .rust → ∀ controller ∈ declared.controllers settings,
        '/' ∉ (simpleName controller).toList) := by
  cases format with
  | rust =>
      rw [isPlain_of_render_rust_iff, declared.slash_notMem_modules_iff]
      exact ⟨fun hplain _ => hplain, fun hplain => hplain rfl⟩
  | json =>
      have hname : Path.IsPlain "generated-rest.json" := by decide
      simpa [render] using hname
  | yaml =>
      have hname : Path.IsPlain "generated-rest.yaml" := by decide
      simpa [render] using hname

/--
The files of a catalog have plain names, in every format, unless a source is written for a
controller with a slash in its simple name.  Writing files with plain names keeps every file that
is not one of them in the output directory, wherever that is and whatever becomes of the run.
-/
theorem files_stay_in_directory (format : OutputFormat) :
    let files := render format catalog settings (CatalogReport.ofTypes declared settings).resources
    ((∀ file ∈ files, Path.IsPlain file.name) ↔
        (format = .rust → ∀ controller ∈ declared.controllers settings,
          '/' ∉ (simpleName controller).toList)) ∧
      ((∀ file ∈ files, Path.IsPlain file.name) →
        ∀ formatter options directory session location,
          (∀ file ∈ files,
            location ≠ Path.location session.tree.workingDirectory directory ++ [file.name]) →
            (writeFiles (Session.host formatter) options directory files session).2.tree.fileAt?
              location = session.tree.fileAt? location) := by
  intro files
  refine ⟨isPlain_of_render_iff declared settings catalog format, ?_⟩
  intro hplain formatter options directory session location helsewhere
  have hkeeps : Run.Keeps session.tree.workingDirectory
      (∃ file ∈ files, · = file.location session.tree.workingDirectory directory)
      (writeFiles (Session.host formatter) options directory files) :=
    keeps_writeFiles fun file hfile => ⟨file, hfile, rfl⟩
  refine (hkeeps session rfl).files location ?_
  rintro ⟨file, hfile, hlocation⟩
  rw [location_of_isPlain _ directory (hplain file hfile)] at hlocation
  exact helsewhere file hfile hlocation

def orderControllers (first second : List (String × Json)) : DeclaredTypes :=
  ⟨[⟨"shop.OrderController",
      [⟨"CrudResource", ("entity", .string "Order") :: first⟩,
        ⟨"CrudResource", ("entity", .string "Order") :: second⟩], [], []⟩,
    .bare "shop.Order"]⟩

def namedControllers : DeclaredTypes :=
  orderControllers [] [("className", .string "ArchivedOrders")]

theorem namedControllers_stay :
    let resources := (CatalogReport.ofTypes namedControllers .default).resources
    let files := render .rust "shop" .default resources
    let session := Session.start ⟨["home"], [(["home", "notes.rs"], .file "kept")]⟩
    (∀ file ∈ files, Path.IsPlain file.name) ∧
      (∀ file ∈ files, ["home", "notes.rs"] ≠ Path.location ["home"] "out" ++ [file.name]) ∧
      (writeFiles (Session.host fun _ => none) ⟨true, false⟩ "out" files session).2.tree.fileAt?
        ["home", "notes.rs"] = some "kept" := by
  intro resources files session
  obtain ⟨hiff, hkeeps⟩ := files_stay_in_directory namedControllers .default "shop" .rust
  have hcontrollers : ∀ controller ∈ namedControllers.controllers .default,
      '/' ∉ (simpleName controller).toList := by decide +kernel
  have hplain : ∀ file ∈ files, Path.IsPlain file.name := hiff.mpr fun _ => hcontrollers
  have helsewhere : ∀ file ∈ files,
      ["home", "notes.rs"] ≠ Path.location ["home"] "out" ++ [file.name] := by
    intro file _
    rw [Path.location_name ["home"] (by decide)]
    simp
  refine ⟨hplain, helsewhere, ?_⟩
  rw [hkeeps hplain _ _ "out" session ["home", "notes.rs"] helsewhere]
  rfl

/-- A class name with slashes leads out of the output directory. -/
theorem orders_source_escapes :
    ∃ file ∈ render .rust "shop" .default
        (CatalogReport.ofTypes (orderControllers [] [("className", .string "/tmp/Orders")])
          .default).resources,
      ¬Path.IsPlain file.name ∧ file.target "out" = "/tmp/orders.rs" := by
  decide +kernel

/-! ## Names apart from each other -/

theorem nodup_names_of_render_iff :
    ((render .rust catalog settings (CatalogReport.ofTypes declared settings).resources).map
        RenderedFile.name).Nodup ↔
      (declared.modules settings).Nodup ∧ "mod" ∉ declared.modules settings := by
  rw [names_of_render_rust, List.nodup_map_iff sourceName_injective, List.nodup_append]
  simp only [List.nodup_singleton, List.mem_singleton, forall_eq, true_and]
  constructor
  · rintro ⟨hnodup, hroot⟩
    exact ⟨hnodup, fun hmem => hroot "mod" hmem rfl⟩
  · rintro ⟨hnodup, hroot⟩
    exact ⟨hnodup, fun name hname hsame => hroot (hsame ▸ hname)⟩

theorem nodup_locations {files : List RenderedFile} (working : Location) (directory : String)
    (hplain : ∀ file ∈ files, Path.IsPlain file.name)
    (hnodup : (files.map RenderedFile.name).Nodup) :
    (files.map (RenderedFile.location working directory)).Nodup := by
  have hlocations : files.map (RenderedFile.location working directory) =
      (files.map RenderedFile.name).map fun name => Path.location working directory ++ [name] := by
    rw [List.map_map]
    exact List.map_congr_left fun file hfile =>
      location_of_isPlain working directory (hplain file hfile)
  rw [hlocations]
  refine hnodup.map fun first second hsame => ?_
  simpa using hsame

/--
Sources have names of their own exactly if the modules are told apart by their names and none is
called as the root module.  If the names are plain as well, a run that succeeds leaves each source
in its place, and without overwriting what stood there before the run or a directory.
-/
theorem sources_apart :
    let files := render .rust catalog settings (CatalogReport.ofTypes declared settings).resources
    let modules := declared.modules settings
    ((files.map RenderedFile.name).Nodup ↔ modules.Nodup ∧ "mod" ∉ modules) ∧
      (modules.Nodup → "mod" ∉ modules → (∀ name ∈ modules, '/' ∉ name.toList) →
        ∀ formatter options directory session summary final, options.dryRun = false →
          writeFiles (Session.host formatter) options directory files session =
            (.ok summary, final) →
          ∀ file ∈ files, Settled options session.tree final.tree
            (Path.location session.tree.workingDirectory directory ++ [file.name])
            file.contents) := by
  intro files modules
  refine ⟨nodup_names_of_render_iff declared settings catalog, ?_⟩
  intro hnodup hroot hslash formatter options directory session summary final hdry hrun file hfile
  have hplain : ∀ file ∈ files, Path.IsPlain file.name :=
    (isPlain_of_render_rust_iff declared settings catalog).mpr hslash
  have hnames : (files.map RenderedFile.name).Nodup :=
    (nodup_names_of_render_iff declared settings catalog).mpr ⟨hnodup, hroot⟩
  have hlocations := nodup_locations session.tree.workingDirectory directory hplain hnames
  rw [← location_of_isPlain _ directory (hplain file hfile)]
  exact settled_of_writeFiles hlocations hdry hrun file hfile

theorem namedControllers_apart :
    let resources := (CatalogReport.ofTypes namedControllers .default).resources
    let files := render .rust "shop" .default resources
    (files.map RenderedFile.name).Nodup ∧
      ∃ summary final,
        writeFiles (Session.host fun _ => none) ⟨true, false⟩ "out" files (.start .empty) =
          (.ok summary, final) ∧
        ∀ file ∈ files, Settled ⟨true, false⟩ .empty final.tree
          (Path.location [] "out" ++ [file.name]) file.contents := by
  intro resources files
  obtain ⟨hiff, hsettled⟩ := sources_apart namedControllers .default "shop"
  have hmodules : namedControllers.modules .default =
      ["generated_order_controller", "archived_orders"] := by decide +kernel
  have hnodup : (namedControllers.modules .default).Nodup := by
    rw [hmodules]
    decide
  have hroot : "mod" ∉ namedControllers.modules .default := by
    rw [hmodules]
    decide
  have hslash : ∀ name ∈ namedControllers.modules .default, '/' ∉ name.toList := by
    rw [hmodules]
    decide
  have hok : (writeFiles (Session.host fun _ => none) ⟨true, false⟩ "out" files
      (.start .empty)).1.isOk = true := by decide +kernel
  obtain ⟨summary, hsummary⟩ := exists_eq_ok_of_isOk hok
  have hrun : writeFiles (Session.host fun _ => none) ⟨true, false⟩ "out" files (.start .empty) =
      (.ok summary, _) := Prod.ext hsummary rfl
  exact ⟨hiff.mpr ⟨hnodup, hroot⟩, summary, _, hrun,
    hsettled hnodup hroot hslash _ _ "out" (.start .empty) summary _ rfl hrun⟩

/-- Two resources of one type without class names share a module, and a controller may be called as
the root module. -/
theorem orders_sources_collide :
    ¬((render .rust "shop" .default
        (CatalogReport.ofTypes (orderControllers [] []) .default).resources).map
          RenderedFile.name).Nodup ∧
      ¬((render .rust "shop" .default
        (CatalogReport.ofTypes (orderControllers [] [("className", .string "Mod")])
          .default).resources).map RenderedFile.name).Nodup := by
  rw [nodup_names_of_render_iff, nodup_names_of_render_iff]
  decide +kernel

end ApiSurface
