import ApiSurface.Command.Generation
import ApiSurface.Proofs.Command.Writing
import ApiSurface.Proofs.Naming.Slug
import ApiSurface.Proofs.Resource.Assembly

/-!
# The default output directory

A run of the generator that is given no directory uses one that is named by the title of the catalog
that it reads (`exists_of_generate`).  Titles of catalogs are slugs, so this is the root of all
output or a directory right below it, whatever the catalog is called (`directory_of_title`).
-/

namespace ApiSurface

open Naming

/-! ## Runs that read -/

namespace Run

variable {formatter : List String → Option String} {session final : Session}

theorem read_of_ofFile {failure : FileError → Failure} {path text : String}
    (hrun : ofFile failure ((Session.host formatter).read path) session = (.ok text, final)) :
    session.tree.read path = .ok text := by
  obtain ⟨result, middle, hread, hresult⟩ := exists_of_bind hrun
  rw [lift_apply] at hread
  cases hread
  cases hfile : ((Session.host formatter).read path session).1 with
  | error error =>
      rw [hfile] at hresult
      cases hresult
  | ok contents =>
      rw [hfile] at hresult
      cases hresult
      exact hfile

theorem eq_ok_of_ofExcept {α : Type} {result : Except Failure α} {value : α}
    (hrun : (ofExcept result : Run (StateM Session) α) session = (.ok value, final)) :
    result = .ok value := by
  cases result with
  | error failure => cases hrun
  | ok found =>
      cases hrun
      rfl

end Run

/-! ## The catalog of a run -/

section

variable {formatter : List String → Option String} {environment : Environment}
  {session final : Session}

theorem exists_of_load {path : String} {catalog : Catalog}
    (hrun : Catalog.load (Session.host formatter) path session = (.ok catalog, final)) :
    ∃ text, session.tree.read path = .ok text ∧ Catalog.ofText path text = .ok catalog := by
  obtain ⟨text, _, hread, hrun⟩ := Run.exists_of_bind hrun
  obtain ⟨found, _, hfound, hrun⟩ := Run.exists_of_bind hrun
  obtain ⟨_, _, -, hreturn⟩ := Run.exists_of_bind hrun
  cases hreturn
  exact ⟨text, Run.read_of_ofFile hread, Run.eq_ok_of_ofExcept hfound⟩

theorem exists_of_synthesized {path : String} {asked : Option String}
    {verbosity : Settings → Verbosity} {synthesized : SynthesizedCatalog}
    (hrun : SynthesizedCatalog.load (Session.host formatter) environment path asked verbosity
      session = (.ok synthesized, final)) :
    ∃ text catalog, session.tree.read path = .ok text ∧ Catalog.ofText path text = .ok catalog ∧
      synthesized.title = catalog.title := by
  obtain ⟨catalog, _, hload, hrun⟩ := Run.exists_of_bind hrun
  obtain ⟨settings, _, -, hrun⟩ := Run.exists_of_bind hrun
  obtain ⟨_, _, -, hreturn⟩ := Run.exists_of_bind hrun
  cases hreturn
  obtain ⟨text, hread, htext⟩ := exists_of_load hload
  exact ⟨text, catalog, hread, htext, rfl⟩

/-- The directory of a run is the one asked for, or the one named by the catalog that it reads. -/
theorem exists_of_generate {options : GenerateOptions} {outcome : GenerateOutcome}
    (hrun : generate (Session.host formatter) environment options session =
      (.ok outcome, final)) :
    ∃ text catalog, session.tree.read options.catalog = .ok text ∧
      Catalog.ofText options.catalog text = .ok catalog ∧
      outcome.directory = options.output.getD (Path.join outputRoot catalog.title) := by
  obtain ⟨synthesized, _, hload, hrun⟩ := Run.exists_of_bind hrun
  obtain ⟨text, catalog, hread, htext, htitle⟩ := exists_of_synthesized hload
  refine ⟨text, catalog, hread, htext, ?_⟩
  rw [← htitle]
  obtain ⟨_, _, -, hrun⟩ := Run.exists_of_bind hrun
  obtain ⟨summary, _, -, hrun⟩ := Run.exists_of_bind hrun
  -- whether sources are formatted at the end or not, the directory stays
  dsimp only at hrun
  split at hrun
  · obtain ⟨_, _, -, hreturn⟩ := Run.exists_of_bind hrun
    cases hreturn
    rfl
  · cases hrun
    rfl

end

/-! ## Titles as directories -/

theorem exists_title_of_ofText {path text : String} {catalog : Catalog}
    (htext : Catalog.ofText path text = .ok catalog) : ∃ title, catalog.title = slug title := by
  unfold Catalog.ofText at htext
  dsimp only at htext
  split at htext
  · next parsed hparsed =>
      rw [← Except.ok.inj htext]
      exact ⟨if (Text.trim parsed.title).isEmpty then Path.stem path else parsed.title, rfl⟩
  · cases htext

theorem Naming.IsSlug.notMem {text : String} (htext : IsSlug text) {c : Char}
    (hother : isSlugChar c = false) : c ∉ text.toList := by
  intro hmem
  rw [htext.chars c hmem] at hother
  cases hother

variable {title : String}

theorem join_outputRoot (htitle : IsSlug title) :
    Path.join outputRoot title = outputRoot ++ "/" ++ title := by
  have hslash : '/' ∉ title.toList := htitle.notMem (by decide)
  have hopen : (outputRoot.isEmpty || outputRoot.endsWith "/") = false := by decide +kernel
  rw [Path.join, Path.startsWith_slash_eq_false hslash, if_neg Bool.false_ne_true, hopen,
    if_neg Bool.false_ne_true]

theorem location_outputRoot (working : Location) (htitle : IsSlug title) :
    Path.location working (Path.join outputRoot title) =
      working ++ if title = "" then [outputRoot] else [outputRoot, title] := by
  have hslash : '/' ∉ title.toList := htitle.notMem (by decide)
  have hdot : '.' ∉ title.toList := htitle.notMem (by decide)
  have hroot : Path.location working outputRoot = working ++ [outputRoot] :=
    Path.location_name working (by decide)
  split
  · next hempty =>
      rw [Path.location_eq, Path.names_join_of_slashless _ hslash,
        Path.start_join working _ hslash, hempty, List.foldl_append, ← Path.location_eq, hroot]
      rfl
  · next hne =>
      have hplain : Path.IsPlain title := by
        refine ⟨hne, ?_, ?_, hslash⟩ <;> rintro rfl <;> exact hdot (by decide)
      rw [Path.location_join working outputRoot hplain, hroot, List.append_assoc,
        List.singleton_append]

/--
The slug of a title has small ASCII letters, digits and underscores, none of these at its ends, and
is its own slug.  A run that is given no output directory uses the one named by the slug that is the
title of its catalog: in the working directory this is the root of all output or a directory in it.
-/
theorem directory_of_title :
    (∀ title : String, IsSlug (slug title) ∧ slug (slug title) = slug title ∧
        '/' ∉ (slug title).toList ∧ '\\' ∉ (slug title).toList ∧ '.' ∉ (slug title).toList) ∧
      ∀ formatter environment options session outcome final,
        generate (Session.host formatter) environment options session = (.ok outcome, final) →
          options.output = none →
            ∃ text catalog title, session.tree.read options.catalog = .ok text ∧
              Catalog.ofText options.catalog text = .ok catalog ∧ catalog.title = slug title ∧
                outcome.directory = outputRoot ++ "/" ++ catalog.title ∧
                Path.location session.tree.workingDirectory outcome.directory =
                  session.tree.workingDirectory ++
                    if catalog.title = "" then [outputRoot] else [outputRoot, catalog.title] := by
  constructor
  · intro title
    have hslug := isSlug_slug title
    exact ⟨hslug, slug_eq_self hslug, hslug.notMem (by decide), hslug.notMem (by decide),
      hslug.notMem (by decide)⟩
  · intro formatter environment options session outcome final hrun hnone
    obtain ⟨text, catalog, hread, htext, hdirectory⟩ := exists_of_generate hrun
    obtain ⟨title, htitle⟩ := exists_title_of_ofText htext
    have hslug : IsSlug catalog.title := htitle ▸ isSlug_slug title
    rw [hnone, Option.getD_none] at hdirectory
    refine ⟨text, catalog, title, hread, htext, htitle, ?_, ?_⟩
    · rw [hdirectory, join_outputRoot hslug]
    · rw [hdirectory, location_outputRoot _ hslug]

theorem shopAbove_directory :
    let contents := "\x7b\"title\": \"../Shöp API/\"\x7d"
    let session := Session.start ⟨["home"], [(["home", "shop.json"], .file contents)]⟩
    let options : GenerateOptions :=
      ⟨"shop.json", none, none, some .json, false, false, false, false⟩
    ∃ outcome final,
      generate (Session.host fun _ => none) (fun _ => none) options session =
        (.ok outcome, final) ∧
      options.output = none ∧ outcome.directory = "generated/sh_p_api" ∧
      Path.location ["home"] outcome.directory = ["home", "generated", "sh_p_api"] := by
  intro contents session options
  have hok : (generate (Session.host fun _ => none) (fun _ => none) options session).1.isOk =
      true := by decide +kernel
  obtain ⟨outcome, houtcome⟩ := exists_eq_ok_of_isOk hok
  have hrun : generate (Session.host fun _ => none) (fun _ => none) options session =
      (.ok outcome, _) := Prod.ext houtcome rfl
  obtain ⟨text, catalog, title, hread, htext, -, hdirectory, hlocation⟩ :=
    directory_of_title.2 _ _ options session outcome _ hrun rfl
  have hcontents : session.tree.read options.catalog = .ok contents := by decide +kernel
  have htitles : (Catalog.ofText options.catalog contents).map Catalog.title = .ok "sh_p_api" := by
    decide +kernel
  obtain rfl := Except.ok.inj (hcontents.symm.trans hread)
  rw [htext] at htitles
  have htitle : catalog.title = "sh_p_api" := Except.ok.inj htitles
  rw [htitle] at hdirectory hlocation
  exact ⟨outcome, _, hrun, rfl, hdirectory, hlocation⟩

end ApiSurface
