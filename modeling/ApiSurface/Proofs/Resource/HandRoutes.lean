import ApiSurface.Proofs.Naming.BasePath
import ApiSurface.Proofs.Operation.Synthesis
import ApiSurface.Proofs.Resource.Assembly

/-!
# Routes that markers declare

A table holds what was inserted into it, and the table of a type is filled from the markers on
the methods of the first type that has its id (`contains_scrape_iff`).  A path reaches the table as
it is written, and the base path of a resource in its normal form.  Where the two are the same
text, a hand-written reading of the base path takes the place of the list
(`list_absent_of_reading`).
-/

namespace ApiSurface

/-! ## What a table holds -/

namespace RouteTable

theorem mem_insertSorted_iff {route other : Route} {routes : List Route} :
    other ∈ insertSorted route routes ↔ other = route ∨ other ∈ routes := by
  induction routes with
  | nil => simp [insertSorted]
  | cons first rest ih =>
      unfold insertSorted
      by_cases hsame : route = first
      · subst hsame
        simp
      · rw [if_neg (by simpa using hsame)]
        split
        · simp
        · rw [List.mem_cons, ih, List.mem_cons]
          tauto

theorem mem_insert_iff {table : RouteTable} {verb path : String} {route : Route} :
    route ∈ (table.insert verb path).routes ↔
      route = Route.key verb path ∨ route ∈ table.routes :=
  mem_insertSorted_iff

theorem mem_foldl_insert_iff {entries : List (Verb × String)} {table : RouteTable}
    {route : Route} :
    route ∈ (entries.foldl (fun table (verb, path) => table.insert verb.text path)
        table).routes ↔
      route ∈ table.routes ∨ ∃ entry ∈ entries, route = Route.key entry.1.text entry.2 := by
  induction entries generalizing table with
  | nil => simp
  | cons entry entries ih =>
      rw [List.foldl_cons, ih, mem_insert_iff]
      simp only [List.mem_cons, exists_eq_or_imp]
      tauto

theorem mem_ofRoutes_iff {entries : List (Verb × String)} {route : Route} :
    route ∈ (ofRoutes entries).routes ↔
      ∃ entry ∈ entries, route = Route.key entry.1.text entry.2 := by
  rw [ofRoutes, mem_foldl_insert_iff]
  simp [empty]

theorem contains_iff {table : RouteTable} {verb path : String} :
    table.contains verb path = true ↔ Route.key verb path ∈ table.routes := by
  simp [contains]

end RouteTable

/-! ## What markers declare -/

theorem exists_ok_of_mapM {α β ε : Type} {items : List α} {perform : α → Except ε β}
    {results : List β} (hresults : items.mapM perform = .ok results) {item : α}
    (hitem : item ∈ items) : ∃ result, perform item = .ok result := by
  induction items generalizing results with
  | nil => cases hitem
  | cons first items ih =>
      rw [List.mapM_cons] at hresults
      obtain ⟨value, hvalue, hrest⟩ := bind_eq_ok_iff.mp hresults
      obtain ⟨rest, hrest, -⟩ := bind_eq_ok_iff.mp hrest
      rcases List.mem_cons.mp hitem with rfl | hlater
      · exact ⟨value, hvalue⟩
      · exact ih hrest hlater

theorem mem_of_mapM {α β ε : Type} {items : List α} {perform : α → Except ε β}
    {results : List β} (hresults : items.mapM perform = .ok results) {entry : β} :
    entry ∈ results ↔ ∃ item ∈ items, perform item = .ok entry := by
  induction items generalizing results with
  | nil =>
      cases hresults
      simp
  | cons item items ih =>
      rw [List.mapM_cons] at hresults
      obtain ⟨first, hfirst, hlater⟩ := bind_eq_ok_iff.mp hresults
      obtain ⟨rest, hrest, hok⟩ := bind_eq_ok_iff.mp hlater
      cases hok
      rw [List.mem_cons, ih hrest]
      simp [hfirst, eq_comm]

theorem mem_flatten_of_mapM {α β ε : Type} {items : List α} {perform : α → Except ε (List β)}
    {results : List (List β)} (hresults : items.mapM perform = .ok results) {entry : β} :
    entry ∈ results.flatten ↔
      ∃ item ∈ items, ∃ result, perform item = .ok result ∧ entry ∈ result := by
  rw [List.mem_flatten]
  constructor
  · rintro ⟨result, hresult, hentry⟩
    obtain ⟨item, hitem, hperform⟩ := (mem_of_mapM hresults).mp hresult
    exact ⟨item, hitem, result, hperform, hentry⟩
  · rintro ⟨item, hitem, result, hperform, hentry⟩
    exact ⟨result, (mem_of_mapM hresults).mpr ⟨item, hitem, hperform⟩, hentry⟩

/-- A marker on a method of the type that the id means declares the route. -/
def DeclaredTypes.Declares (declared : DeclaredTypes) (type : TypeDecl)
    (entry : Verb × String) : Prop :=
  ∃ method ∈ declared.methods type.id, ∃ marker ∈ method.markers, ∃ routes,
    marker.routes (Member.method type method).location = .ok routes ∧ entry ∈ routes

theorem mem_handRoutes_iff {declared : DeclaredTypes} {type : TypeDecl}
    {entries : List (Verb × String)} (hentries : declared.handRoutes type = .ok entries)
    {entry : Verb × String} : entry ∈ entries ↔ declared.Declares type entry := by
  obtain ⟨perMethod, hmethods, hok⟩ := bind_eq_ok_iff.mp hentries
  cases hok
  rw [mem_flatten_of_mapM hmethods, DeclaredTypes.Declares]
  refine exists_congr fun method => and_congr_right fun hmethod => ?_
  obtain ⟨result, hresult⟩ := exists_ok_of_mapM hmethods hmethod
  obtain ⟨perMarker, hmarkers, hok⟩ := bind_eq_ok_iff.mp hresult
  cases hok
  simp only [hresult, Except.ok.injEq, exists_eq_left', mem_flatten_of_mapM hmarkers]
  rfl

theorem contains_scrape_iff {declared : DeclaredTypes} {type : TypeDecl} {table : RouteTable}
    (htable : RouteTable.scrape declared type = .ok table) {verb path : String} :
    table.contains verb path = true ↔
      ∃ entry, declared.Declares type entry ∧
        Route.key verb path = Route.key entry.1.text entry.2 := by
  obtain ⟨entries, hentries, hok⟩ := bind_eq_ok_iff.mp htable
  cases hok
  rw [RouteTable.contains_iff, RouteTable.mem_ofRoutes_iff]
  simp only [mem_handRoutes_iff hentries]

theorem declares_of_reading {declared : DeclaredTypes} {type : TypeDecl} {method : MethodDecl}
    {marker : Marker} {path : String} (hmethod : method ∈ declared.methods type.id)
    (hmarker : marker ∈ method.markers) (hname : marker.name = "GetMapping")
    (hpath : (marker.valuesAt (Member.method type method).location).firstOf?
      ["value", "path"] = some path)
    (hsize : 1 < path.utf8ByteSize) : declared.Declares type (.get, path) := by
  have hmapped : mappedPath? (marker.valuesAt (Member.method type method).location) =
      some path := by
    simp [mappedPath?, hpath, hsize]
  have hroutes : marker.routes (Member.method type method).location = .ok [(.get, path)] := by
    simp only [Marker.routes, hname, Mapping.ofMarkerName?, hmapped]
    rfl
  exact ⟨method, hmethod, marker, hmarker, _, hroutes, List.mem_singleton_self _⟩

/-! ## Operations that are left out -/

section Assembled

variable {declared : DeclaredTypes} {declaration : ResourceDeclaration} {settings : Settings}
  {assembled : AssembledResource}

theorem lowercase_path_ne_of_declares
    (hassembled : assemble declared declaration settings = .ok assembled) {verb : Verb}
    {path : String} (hdeclares : declared.Declares declaration.declaring (verb, path))
    {operation : Operation}
    (hoperation : operation ∈ assembled.configuration.synthesize.operations)
    (hverb : verb ∈ operation.endpoint.verbs) :
    Text.lowercase operation.path ≠ Text.lowercase path := by
  intro heq
  obtain ⟨-, hfree⟩ := ResourceConfiguration.mem_operations_iff.mp hoperation
  have hverbName : verb.text ∈ operation.verbNames := List.mem_map_of_mem hverb
  have hrouted : assembled.configuration.handRoutes.contains verb.text operation.path = true :=
    (contains_scrape_iff (handRoutes_of_assemble hassembled)).mpr
      ⟨(verb, path), hdeclares, by simp [Route.key, heq]⟩
  exact Operation.isRouted_eq_false_iff.mp hfree verb.text hverbName
    (RouteTable.contains_iff.mp hrouted)

theorem endpoints_resourceContributions (config : ResourceConfiguration) :
    (config.withRoutes .empty).resourceContributions.map
        (fun operation => (operation.kind, operation.endpoint)) =
      [(.create, ⟨[.post], config.basePath⟩), (.read, ⟨[.get], config.itemPath⟩),
        (.updatePartial, ⟨[.patch], config.itemPath⟩), (.replace, ⟨[.put], config.itemPath⟩),
        (.delete, ⟨[.delete], config.itemPath⟩), (.list, ⟨[.get], config.basePath⟩),
        (.search, ⟨[.get], config.searchPath⟩)] :=
  rfl

theorem list_notMem_relationKinds (cardinality : Cardinality) :
    .list ∉ ResourceConfiguration.relationKinds cardinality := by
  cases cardinality <;> decide

theorem endpoint_of_list {config : ResourceConfiguration} {operation : Operation}
    (hoperation : operation ∈ config.synthesize.operations) (hkind : operation.kind = .list) :
    operation.endpoint = ⟨[.get], config.basePath⟩ := by
  obtain ⟨hplanned, -⟩ := ResourceConfiguration.mem_operations_iff.mp hoperation
  rcases ResourceConfiguration.mem_plannedOperations_iff.mp hplanned with
    hresource | ⟨relation, -, hrelation⟩
  · have hmember : (operation.kind, operation.endpoint) ∈
        (config.withRoutes .empty).resourceContributions.map
          fun operation => (operation.kind, operation.endpoint) :=
      List.mem_map_of_mem hresource
    simpa [endpoints_resourceContributions, hkind] using hmember
  · have hmember : (operation.kind, operation.relation) ∈
        (ResourceConfiguration.relationKinds relation.cardinality).map (·, some relation.name) :=
      ResourceConfiguration.kinds_relationContributions config relation ▸
        List.mem_map_of_mem hrelation
    obtain ⟨kind, hlisted, heq⟩ := List.mem_map.mp hmember
    rw [(Prod.mk.inj heq).1, hkind] at hlisted
    exact absurd hlisted (list_notMem_relationKinds relation.cardinality)

end Assembled

/-- The declaring type has a method that is mapped for reading at the text of the base path. -/
def ResourceDeclaration.ReadsAt (declaration : ResourceDeclaration) (path : String) : Prop :=
  declaration.values.firstOf? ["value", "path"] = some path ∧ 1 < path.utf8ByteSize ∧
    ∃ method ∈ declaration.declaring.methods, ∃ marker ∈ method.markers,
      marker.name = "GetMapping" ∧
        (marker.valuesAt (Member.method declaration.declaring method).location).firstOf?
          ["value", "path"] = some path

instance (declaration : ResourceDeclaration) (path : String) :
    Decidable (declaration.ReadsAt path) :=
  inferInstanceAs (Decidable (declaration.values.firstOf? ["value", "path"] = some path ∧
    1 < path.utf8ByteSize ∧
    ∃ method ∈ declaration.declaring.methods, ∃ marker ∈ method.markers,
      marker.name = "GetMapping" ∧
        (marker.valuesAt (Member.method declaration.declaring method).location).firstOf?
          ["value", "path"] = some path))

/--
Where the base path is written with a leading slash and without a trailing one, a method of the
declaring type that is mapped for reading at the same text takes the place of the list, in whatever
capitals the text is.  The declaring type has to be the one that its id means.
-/
theorem list_absent_of_reading (declared : DeclaredTypes) (declaration : ResourceDeclaration)
    (settings : Settings) {path : String} {assembled : AssembledResource}
    (hreads : declaration.ReadsAt path) (hform : Naming.IsBasePath path)
    (hfirst : declared.named? declaration.declaring.id = some declaration.declaring)
    (hassembled : assemble declared declaration settings = .ok assembled) :
    ∀ operation ∈ assembled.configuration.synthesize.operations, operation.kind ≠ .list := by
  intro operation hoperation hkind
  obtain ⟨hbase, hsize, method, hmethod, marker, hmarker, hname, hpath⟩ := hreads
  have hmethods : declared.methods declaration.declaring.id = declaration.declaring.methods := by
    rw [DeclaredTypes.methods, hfirst, Option.elim_some]
  have hdeclares : declared.Declares declaration.declaring (.get, path) :=
    declares_of_reading (hmethods ▸ hmethod) hmarker hname hpath hsize
  have hmounted : assembled.configuration.basePath = path := by
    rw [basePath_of_assemble hassembled, ResourceMetadata.basePathOf, hbase]
    exact Naming.normalizeBasePath_eq_self (MarkerValues.trim_of_firstOf? hbase) hform
  have hendpoint := endpoint_of_list hoperation hkind
  refine lowercase_path_ne_of_declares hassembled hdeclares hoperation ?_ ?_
  · simp [hendpoint]
  · rw [Operation.path, hendpoint, hmounted]

/-! ## Orders that are listed by hand -/

def listingMarker (path : String) : Marker :=
  ⟨"CrudResource", [("entity", .string "shop.Order"), ("value", .string path)]⟩

def listingController (path : String) : TypeDecl :=
  ⟨"shop.OrderController", [listingMarker path], [],
    [⟨"listOrders", none, [⟨"GetMapping", [("value", .string path)]⟩]⟩]⟩

def listingDeclaration (path : String) : ResourceDeclaration :=
  ⟨listingController path, (listingMarker path).valuesAt "shop.OrderController"⟩

theorem listingInCapitals_list_absent :
    (listingDeclaration "/Orders").ReadsAt "/Orders" ∧ Naming.IsBasePath "/Orders" ∧
      ∃ assembled,
        assemble ⟨[listingController "/Orders", .bare "shop.Order"]⟩
            (listingDeclaration "/Orders") .default = .ok assembled ∧
          ∀ operation ∈ assembled.configuration.synthesize.operations,
            operation.kind ≠ .list := by
  have hreads : (listingDeclaration "/Orders").ReadsAt "/Orders" := by decide +kernel
  have hform : Naming.IsBasePath "/Orders" := by decide +kernel
  obtain ⟨assembled, hassembled⟩ : ∃ assembled,
      assemble ⟨[listingController "/Orders", .bare "shop.Order"]⟩
        (listingDeclaration "/Orders") .default = .ok assembled :=
    exists_eq_ok_of_isOk (by decide +kernel)
  exact ⟨hreads, hform, assembled, hassembled,
    list_absent_of_reading _ _ _ hreads hform rfl hassembled⟩

def hasList (declared : DeclaredTypes) (declaration : ResourceDeclaration) : Bool :=
  (assemble declared declaration .default).toOption.any fun assembled =>
    assembled.configuration.synthesize.operations.any fun operation => operation.kind = .list

/-- A reading that is mapped without the leading slash leaves the list in its place, and so does
one on a later type of the same id. -/
theorem listing_list_present :
    (∃ declaration ∈
        (⟨[listingController "orders", .bare "shop.Order"]⟩ :
          DeclaredTypes).resourceDeclarations,
        declaration.ReadsAt "orders" ∧
          hasList ⟨[listingController "orders", .bare "shop.Order"]⟩ declaration) ∧
      ∃ declaration ∈
        (⟨[.bare "shop.OrderController", listingController "/orders", .bare "shop.Order"]⟩ :
          DeclaredTypes).resourceDeclarations,
        declaration.ReadsAt "/orders" ∧
          hasList
            ⟨[.bare "shop.OrderController", listingController "/orders", .bare "shop.Order"]⟩
            declaration := by
  decide +kernel

end ApiSurface
