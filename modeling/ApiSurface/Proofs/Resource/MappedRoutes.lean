import ApiSurface.Proofs.Catalog.FlatValues
import ApiSurface.Proofs.Resource.HandRoutes

/-!
# What the markers on methods say about routes

A marker maps a path to the verb of its name, or to the verbs that it lists.  The routes of a type
cannot be read exactly if some listed verb is none, and the first of them is the error; otherwise
its table has the routes that its markers map, in whatever capitals they are written
(`routes_of_markers`).  The methods of a type are those of the first declaration of its id.
-/

namespace ApiSurface

/-! ## Verbs -/

def verbNames : List String :=
  ["GET", "POST", "PUT", "PATCH", "DELETE", "HEAD", "OPTIONS"]

/-- A verb as markers write it: what is behind the last dot, trimmed and in capitals. -/
def verbWord (raw : String) : String :=
  upperAscii (Text.trim (lastSegment raw))

namespace Verb

theorem mem_all (verb : Verb) : verb ∈ all := by
  cases verb <;> decide

theorem text_injective {verb other : Verb} (htext : verb.text = other.text) : verb = other := by
  cases verb <;> cases other <;> simp_all [text]

theorem upperAscii_text (verb : Verb) : upperAscii verb.text = verb.text := by
  cases verb <;> decide

theorem parse?_eq_some_iff {raw : String} {verb : Verb} :
    parse? raw = some verb ↔ verbWord raw = verb.text := by
  rw [parse?, ← verbWord]
  constructor
  · intro hfind
    have hsame := List.find?_some hfind
    exact (beq_iff_eq.mp hsame).symm
  · intro hword
    obtain ⟨found, hfound⟩ : ∃ found, all.find? (fun verb => verb.text == verbWord raw) =
        some found := by
      rw [← Option.isSome_iff_exists, List.find?_isSome]
      exact ⟨verb, verb.mem_all, by simp [hword]⟩
    have htext : found.text = verb.text := by
      simpa [hword] using List.find?_some hfound
    rw [← text_injective htext]
    exact hfound

end Verb

theorem readVerb_eq_ok_iff {values : MarkerValues} {raw : String} {verb : Verb} :
    readVerb values raw = .ok verb ↔ verbWord raw = verb.text := by
  rw [← Verb.parse?_eq_some_iff, readVerb]
  cases Verb.parse? raw <;> simp

theorem key_text_eq_iff {verb other : Verb} {path written : String} :
    Route.key verb.text path = Route.key other.text written ↔
      verb = other ∧ Text.lowercase written = Text.lowercase path := by
  rw [Route.key, Route.key, Route.mk.injEq, Verb.upperAscii_text, Verb.upperAscii_text]
  constructor
  · rintro ⟨htext, hpath⟩
    exact ⟨Verb.text_injective htext, hpath.symm⟩
  · rintro ⟨rfl, hpath⟩
    exact ⟨rfl, hpath.symm⟩

/-! ## One marker -/

def namedMappings : List (String × Verb) :=
  [("GetMapping", .get), ("PostMapping", .post), ("PutMapping", .put), ("PatchMapping", .patch),
    ("DeleteMapping", .delete)]

namespace Marker

/-- The marker is for the verb: by its name, by listing it, or by listing nothing. -/
inductive IsFor (marker : Marker) : Verb → Prop
  | named {verb : Verb} (hname : (marker.name, verb) ∈ namedMappings) : IsFor marker verb
  | listed {verb : Verb} {raw : String} (hname : marker.name = "RequestMapping")
      (hraw : raw ∈ marker.list "method") (hverb : verbWord raw = verb.text) : IsFor marker verb
  | unlisted (hname : marker.name = "RequestMapping") (hnone : marker.list "method" = []) :
      IsFor marker .get

def GivesPath (marker : Marker) (path : String) : Prop :=
  (marker.text? "value").or (marker.text? "path") = some path ∧ 1 < path.utf8ByteSize

def ListsUnknown (marker : Marker) (raw : String) : Prop :=
  marker.name = "RequestMapping" ∧ (∃ path, marker.GivesPath path) ∧
    raw ∈ marker.list "method" ∧ verbWord raw ∉ verbNames

theorem mappedPath?_eq_some_iff (marker : Marker) (location : String) {path : String} :
    mappedPath? (marker.valuesAt location) = some path ↔ marker.GivesPath path := by
  rw [mappedPath?, MarkerValues.firstOf?_pair, Option.filter_eq_some_iff, decide_eq_true_iff]
  rfl

theorem ofMarkerName?_eq_fixed_iff {name : String} {verb : Verb} :
    Mapping.ofMarkerName? name = some (.fixed verb) ↔ (name, verb) ∈ namedMappings := by
  unfold Mapping.ofMarkerName?
  split <;> simp_all [namedMappings, eq_comm]

section

variable {marker : Marker} {verb mapped : Verb}

theorem not_isFor (hmapping : Mapping.ofMarkerName? marker.name = none) :
    ¬ marker.IsFor verb := by
  have hother : marker.name ≠ "RequestMapping" := by
    rw [Ne, ← ofMarkerName?_eq_listed_iff, hmapping]
    nofun
  rintro (hnamed | hname | hname)
  · rw [← ofMarkerName?_eq_fixed_iff, hmapping] at hnamed
    cases hnamed
  · exact hother hname
  · exact hother hname

theorem isFor_of_fixed (hmapping : Mapping.ofMarkerName? marker.name = some (.fixed mapped)) :
    marker.IsFor verb ↔ verb = mapped := by
  have hother : marker.name ≠ "RequestMapping" := by
    rw [Ne, ← ofMarkerName?_eq_listed_iff, hmapping]
    nofun
  constructor
  · rintro (hnamed | hname | hname)
    · rw [← ofMarkerName?_eq_fixed_iff, hmapping] at hnamed
      exact (Mapping.fixed.inj (Option.some.inj hnamed)).symm
    · exact absurd hname hother
    · exact absurd hname hother
  · rintro rfl
    exact .named (ofMarkerName?_eq_fixed_iff.mp hmapping)

theorem isFor_of_listed (hmapping : Mapping.ofMarkerName? marker.name = some .listed) :
    marker.IsFor verb ↔ (∃ raw ∈ marker.list "method", verbWord raw = verb.text) ∨
      marker.list "method" = [] ∧ verb = .get := by
  have hname := ofMarkerName?_eq_listed_iff.mp hmapping
  constructor
  · rintro (hnamed | ⟨-, hraw, hverb⟩ | ⟨-, hnone⟩)
    · rw [← ofMarkerName?_eq_fixed_iff, hmapping] at hnamed
      cases hnamed
    · exact .inl ⟨_, hraw, hverb⟩
    · exact .inr ⟨hnone, rfl⟩
  · rintro (⟨raw, hraw, hverb⟩ | ⟨hnone, rfl⟩)
    · exact .listed hname hraw hverb
    · exact .unlisted hname hnone

theorem mem_verbs_iff {location : String} {mapping : Mapping} {verbs : List Verb}
    (hmapping : Mapping.ofMarkerName? marker.name = some mapping)
    (hverbs : mapping.verbs (marker.valuesAt location) = .ok verbs) :
    verb ∈ verbs ↔ marker.IsFor verb := by
  cases mapping with
  | fixed mapped =>
      cases hverbs
      rw [isFor_of_fixed hmapping, List.mem_singleton]
  | listed =>
      rw [isFor_of_listed hmapping]
      rw [Mapping.verbs, list_valuesAt] at hverbs
      cases hlist : marker.list "method" with
      | nil =>
          rw [hlist] at hverbs
          cases hverbs
          simp
      | cons first rest =>
          rw [hlist] at hverbs
          simp only [mem_of_mapM hverbs, readVerb_eq_ok_iff, reduceCtorEq, false_and, or_false]

theorem mem_routes_iff {location path : String} {routes : List (Verb × String)}
    (hroutes : marker.routes location = .ok routes) :
    (verb, path) ∈ routes ↔ marker.GivesPath path ∧ marker.IsFor verb := by
  rw [Marker.routes] at hroutes
  rw [← mappedPath?_eq_some_iff marker location]
  cases hmapping : Mapping.ofMarkerName? marker.name with
  | none =>
      simp only [hmapping, Except.ok.injEq] at hroutes
      simp [← hroutes, not_isFor hmapping]
  | some mapping =>
      simp only [hmapping] at hroutes
      cases hpath : mappedPath? (marker.valuesAt location) with
      | none =>
          simp only [hpath, Except.ok.injEq] at hroutes
          simp [← hroutes]
      | some written =>
          simp only [hpath] at hroutes
          obtain ⟨verbs, hverbs, hok⟩ := bind_eq_ok_iff.mp hroutes
          cases hok
          rw [← mem_verbs_iff hmapping hverbs]
          simp only [List.mem_map, Prod.mk.injEq, Option.some.injEq]
          constructor
          · rintro ⟨_, hverb, rfl, rfl⟩
            exact ⟨rfl, hverb⟩
          · rintro ⟨rfl, hverb⟩
            exact ⟨verb, hverb, rfl, rfl⟩

end

theorem mem_listedVerbs_iff {marker : Marker} (location : String) {raw : String} :
    raw ∈ marker.listedVerbs location ↔
      marker.name = "RequestMapping" ∧ (∃ path, marker.GivesPath path) ∧
        raw ∈ marker.list "method" := by
  rw [listedVerbs_eq, List.mem_ite_nil_right, Option.isSome_iff_exists, and_assoc]
  simp only [mappedPath?_eq_some_iff]
  rfl

end Marker

/-! ## All markers of a type -/

variable {declared : DeclaredTypes} {type : TypeDecl}

theorem firstFinding_unknownVerb_iff {checks : List (String × String)}
    {error : ConfigurationError} :
    FirstFinding FindsUnknownVerb checks error ↔
      ∃ before location raw after, checks = before ++ (location, raw) :: after ∧
        (∀ earlier ∈ before, verbWord earlier.2 ∈ verbNames) ∧ verbWord raw ∉ verbNames ∧
        error = .invalidMarkerValue location "method" raw := by
  have hfinds (listed : String × String) (found : ConfigurationError) :
      FindsUnknownVerb listed found ↔ verbWord listed.2 ∉ verbNames ∧
        found = .invalidMarkerValue listed.1 "method" listed.2 := Iff.rfl
  rw [firstFinding_iff_split]
  simp [hfinds]

theorem scrape_fails_iff :
    (∃ error, RouteTable.scrape declared type = .error error) ↔
      ∃ method ∈ declared.methods type.id, ∃ marker ∈ method.markers, ∃ raw,
        marker.ListsUnknown raw := by
  simp only [scrape_screens type _, exists_firstFinding_iff]
  constructor
  · rintro ⟨listed, hlisted, error, hunknown, -⟩
    obtain ⟨method, hmethod, hmarkers⟩ := List.mem_flatMap.mp hlisted
    obtain ⟨marker, hmarker, hverbs⟩ := List.mem_flatMap.mp hmarkers
    obtain ⟨raw, hraw, rfl⟩ := List.mem_map.mp hverbs
    obtain ⟨hname, hpath, hmethodKey⟩ := (Marker.mem_listedVerbs_iff _).mp hraw
    exact ⟨method, hmethod, marker, hmarker, raw, hname, hpath, hmethodKey, hunknown⟩
  · rintro ⟨method, hmethod, marker, hmarker, raw, hname, hpath, hmethodKey, hunknown⟩
    let location := (Member.method type method).location
    have hraw := (Marker.mem_listedVerbs_iff location).mpr ⟨hname, hpath, hmethodKey⟩
    refine ⟨(location, raw), ?_, _, hunknown, rfl⟩
    exact List.mem_flatMap.mpr ⟨method, hmethod,
      List.mem_flatMap.mpr ⟨marker, hmarker, List.mem_map_of_mem hraw⟩⟩

theorem exists_routes_of_scrape {table : RouteTable}
    (htable : RouteTable.scrape declared type = .ok table) {method : MethodDecl}
    (hmethod : method ∈ declared.methods type.id) {marker : Marker}
    (hmarker : marker ∈ method.markers) :
    ∃ routes, marker.routes (Member.method type method).location = .ok routes := by
  obtain ⟨entries, hentries, -⟩ := bind_eq_ok_iff.mp htable
  obtain ⟨perMethod, hmethods, -⟩ := bind_eq_ok_iff.mp hentries
  obtain ⟨routes, hroutes⟩ := exists_ok_of_mapM hmethods hmethod
  obtain ⟨perMarker, hmarkers, -⟩ := bind_eq_ok_iff.mp hroutes
  exact exists_ok_of_mapM hmarkers hmarker

theorem contains_of_markers {table : RouteTable}
    (htable : RouteTable.scrape declared type = .ok table) {verb : Verb} {path : String} :
    table.contains verb.text path = true ↔
      ∃ method ∈ declared.methods type.id, ∃ marker ∈ method.markers, ∃ written,
        marker.GivesPath written ∧ Text.lowercase written = Text.lowercase path ∧
          marker.IsFor verb := by
  rw [contains_scrape_iff htable]
  constructor
  · rintro ⟨⟨_, written⟩, ⟨method, hmethod, marker, hmarker, routes, hroutes, hentry⟩, hkey⟩
    obtain ⟨rfl, hlower⟩ := key_text_eq_iff.mp hkey
    obtain ⟨hpath, hfor⟩ := (Marker.mem_routes_iff hroutes).mp hentry
    exact ⟨method, hmethod, marker, hmarker, written, hpath, hlower, hfor⟩
  · rintro ⟨method, hmethod, marker, hmarker, written, hpath, hlower, hfor⟩
    obtain ⟨routes, hroutes⟩ := exists_routes_of_scrape htable hmethod hmarker
    exact ⟨(verb, written), ⟨method, hmethod, marker, hmarker, routes, hroutes,
      (Marker.mem_routes_iff hroutes).mpr ⟨hpath, hfor⟩⟩, key_text_eq_iff.mpr ⟨rfl, hlower⟩⟩

/--
The routes of a type cannot be read exactly if a marker on one of its methods lists an unknown verb
for its path, and the error is about the first such verb in the order of methods, markers and
lists.  Otherwise a verb is routed at a path exactly if some marker is for this verb and gives this
path, up to capitals.  The methods are those of the first type that is declared with the id.
-/
theorem routes_of_markers (declared : DeclaredTypes) (type : TypeDecl) :
    ((∃ error, RouteTable.scrape declared type = .error error) ↔
        ∃ method ∈ declared.methods type.id, ∃ marker ∈ method.markers, ∃ raw,
          marker.ListsUnknown raw) ∧
      (∀ error, RouteTable.scrape declared type = .error error ↔
        ∃ before location raw after,
          declared.listedVerbs type = before ++ (location, raw) :: after ∧
            (∀ earlier ∈ before, verbWord earlier.2 ∈ verbNames) ∧ verbWord raw ∉ verbNames ∧
            error = .invalidMarkerValue location "method" raw) ∧
      ((∀ method ∈ declared.methods type.id, ∀ marker ∈ method.markers, ∀ raw,
          ¬ marker.ListsUnknown raw) →
        ∃ table, RouteTable.scrape declared type = .ok table ∧
          ∀ (verb : Verb) (path : String), table.contains verb.text path = true ↔
            ∃ method ∈ declared.methods type.id, ∃ marker ∈ method.markers, ∃ written,
              marker.GivesPath written ∧ Text.lowercase written = Text.lowercase path ∧
                marker.IsFor verb) := by
  refine ⟨scrape_fails_iff, ?_, ?_⟩
  · intro error
    rw [scrape_screens type error, firstFinding_unknownVerb_iff]
  · intro hknown
    cases htable : RouteTable.scrape declared type with
    | error error =>
        obtain ⟨method, hmethod, marker, hmarker, raw, hunknown⟩ :=
          scrape_fails_iff.mp ⟨error, htable⟩
        exact absurd hunknown (hknown method hmethod marker hmarker raw)
    | ok table => exact ⟨table, rfl, fun verb path => contains_of_markers htable⟩

/-! ## Routes of orders -/

def touchMethods : List MethodDecl :=
  [⟨"root", none, [⟨"GetMapping", [("value", .string "/")]⟩]⟩,
    ⟨"touch", none, [⟨"RequestMapping", [("method", Json.strings ["put", "RequestMethod.PATCH"]),
      ("path", .string "/Orders/touch")]⟩]⟩]

def touchTypes : DeclaredTypes :=
  ⟨[⟨"shop.OrderController", [], [], touchMethods⟩]⟩

theorem touchTypes_routes :
    (∀ method ∈ touchTypes.methods "shop.OrderController", ∀ marker ∈ method.markers, ∀ raw,
        ¬ marker.ListsUnknown raw) ∧
      ∃ table, RouteTable.scrape touchTypes (.bare "shop.OrderController") = .ok table ∧
        table.contains "PATCH" "/ORDERS/touch" = true := by
  have hmethods : touchTypes.methods "shop.OrderController" = touchMethods := rfl
  have hlists : ∀ method ∈ touchMethods, ∀ marker ∈ method.markers,
      ∀ raw ∈ marker.list "method", verbWord raw ∈ verbNames := by decide +kernel
  have hknown : ∀ method ∈ touchTypes.methods "shop.OrderController",
      ∀ marker ∈ method.markers, ∀ raw, ¬ marker.ListsUnknown raw := by
    rintro method hmethod marker hmarker raw ⟨-, -, hraw, hunknown⟩
    exact hunknown (hlists method hmethod marker hmarker raw hraw)
  obtain ⟨-, -, hroutes⟩ := routes_of_markers touchTypes (.bare "shop.OrderController")
  obtain ⟨table, htable, hcontains⟩ := hroutes hknown
  refine ⟨hknown, table, htable, (hcontains .patch "/ORDERS/touch").mpr ?_⟩
  obtain ⟨method, hmethod, marker, hmarker, hname, hpath, hraw⟩ :
      ∃ method ∈ touchMethods, ∃ marker ∈ method.markers, marker.name = "RequestMapping" ∧
        (marker.text? "value").or (marker.text? "path") = some "/Orders/touch" ∧
        "RequestMethod.PATCH" ∈ marker.list "method" := by decide +kernel
  exact ⟨method, hmethod, marker, hmarker, "/Orders/touch", ⟨hpath, by decide +kernel⟩,
    by decide +kernel, .listed hname hraw (by decide +kernel)⟩

/-- A later declaration of an id is read by the methods of the first one, so that an unknown verb
on its own method is passed over. -/
theorem shadowedTypes_routes :
    traceController ∈ shadowedTypes.types ∧
      (∃ method ∈ traceController.methods, ∃ marker ∈ method.markers,
        marker.ListsUnknown "TRACE") ∧
      RouteTable.scrape shadowedTypes traceController = .ok .empty := by
  obtain ⟨method, hmethod, marker, hmarker, hname, hpath, hraw⟩ :
      ∃ method ∈ traceController.methods, ∃ marker ∈ method.markers,
        marker.name = "RequestMapping" ∧
        (marker.text? "value").or (marker.text? "path") = some "/orders" ∧
        "TRACE" ∈ marker.list "method" := by decide +kernel
  have hunknown : marker.ListsUnknown "TRACE" :=
    ⟨hname, ⟨"/orders", hpath, by decide +kernel⟩, hraw, by decide +kernel⟩
  exact ⟨by simp [shadowedTypes], ⟨method, hmethod, marker, hmarker, hunknown⟩, rfl⟩

end ApiSurface
