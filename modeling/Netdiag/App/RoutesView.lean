import Netdiag.Collect.Routes

namespace Netdiag.App.RoutesView

/-!
# App — the routing screen

`route_tables` of `slint-app/src/view.rs`, over what `get_routes` of the daemon reports: one row
for each table, with its routes in the order of the report.

* `routeLine`, `routeTables` — the functions of the source.
* `tablesOf` — the tables that have a row.
* `route_tables_partition` — every reported route is in the row of its table, once, and the rows
  one after the other are the report.
-/

open Netdiag.Collect

/-! ### Rows -/

/-- `format::ip`. -/
def ip (address : IpAddress) : String :=
  match address.toIp with
  | some ip => ip.display
  | none => "-"

/-- `format::prefix`. -/
def formatPrefix (value : WirePrefix) : String :=
  match value.address with
  | some address =>
    if address.addr ≠ [] then s!"{ip address}/{value.prefixLen}" else s!"*/{value.prefixLen}"
  | none => s!"*/{value.prefixLen}"

/-- `format::route_line`. -/
def routeLine (route : DumpedRoute) : String :=
  let destination :=
    if route.isDefault then "default" else (route.destination.map formatPrefix).getD "?"
  let hop := route.nextHops.head?
  let via := (((hop.bind (fun h => h.gateway)).filter (fun g => g.addr ≠ [])).map
    (fun g => s!"via {ip g} ")).getD ""
  let dev := (hop.map (fun h =>
    if h.outInterfaceName = "" then s!"dev if{h.outInterfaceIndex}"
    else s!"dev {h.outInterfaceName}")).getD ""
  let mtu := (route.metrics.map (fun m => m.mtu)).getD 0
  s!"{destination} {via}{dev}" ++ (if route.priority ≠ 0 then s!" metric {route.priority}" else "")
    ++ (if mtu ≠ 0 then s!" mtu {mtu}" else "")

/-- `RouteTableRow`. -/
structure RouteTableRow where
  title : String
  subtitle : String
  lines : List String
  deriving DecidableEq, Repr

/-- The lines a row has at most. -/
def lineLimit : Nat := 24

/-- `tables.sort_unstable()` and `tables.dedup()`. -/
def tablesOf (routes : List DumpedRoute) : List Nat :=
  Sorted.dedup ((routes.map DumpedRoute.table).mergeSort)

/-- The routes of a table. -/
def routesOf (routes : List DumpedRoute) (table : Nat) : List DumpedRoute :=
  routes.filter (fun r => r.table = table)

/-- The row of a table with these routes. -/
def tableRow (table : Nat) (name : String) (routes : List DumpedRoute) : RouteTableRow :=
  let defaults := routes.countP (fun r => r.isDefault)
  { title := if name = "" then s!"Table {table}" else s!"Table {table} ({name})"
    subtitle :=
      s!"{routes.length} routes" ++ (if defaults > 0 then s!", {defaults} default" else "")
    lines := (routes.take lineLimit).map routeLine }

/-- `route_tables`, of the routes and the names of a snapshot. -/
def routeTables (routes : List DumpedRoute) (tableNames : Nat → Option String) :
    List RouteTableRow :=
  (tablesOf routes).map (fun table =>
    tableRow table ((tableNames table).getD "") (routesOf routes table))

/-! ### Tables -/

theorem tablesOf_pairwise (routes : List DumpedRoute) :
    (tablesOf routes).Pairwise (· < ·) := by
  apply Sorted.pairwise_dedup
  have h : (routes.map DumpedRoute.table).mergeSort.Pairwise (fun a b => decide (a ≤ b) = true) :=
    List.pairwise_mergeSort (by simp; omega) (by simp; omega) _
  exact h.imp of_decide_eq_true

theorem mem_tablesOf {routes : List DumpedRoute} {table : Nat} :
    table ∈ tablesOf routes ↔ ∃ r ∈ routes, r.table = table := by
  rw [tablesOf, Sorted.mem_dedup, List.mem_mergeSort, List.mem_map]

/-! ### Names -/

theorem tableName_ne_empty (table : Nat) : tableName table ≠ "" := by
  have hnet : s!"net{table}" ≠ "" := by
    intro h
    have hlength := congrArg String.length h
    simp at hlength
  unfold tableName
  cases hname : wellKnownTableName table with
  | none => exact hnet
  | some name =>
    unfold wellKnownTableName at hname
    split at hname
    all_goals first
      | cases hname
        decide
      | cases hname

/-- A table that occurs has its name. -/
theorem tableNames_of_mem {routes : List DumpedRoute}
    (hnames : ∀ r ∈ routes, r.tableName = tableName r.table) {table : Nat}
    (h : ∃ r ∈ routes, r.table = table) : tableNames routes table = some (tableName table) := by
  -- after the routes the names are those of before and of the routes
  suffices hfold : ∀ names : Nat → Option String,
      (names table = some (tableName table) ∨ ∃ r ∈ routes, r.table = table) →
      routes.foldl nameTable names table = some (tableName table) from hfold _ (.inr h)
  clear h
  induction routes with
  | nil =>
    intro names h
    simpa using h
  | cons r routes ih =>
    intro names h
    have hr : r.tableName = tableName r.table := hnames r List.mem_cons_self
    rw [List.foldl_cons]
    apply ih (fun r' hr' => hnames r' (List.mem_cons_of_mem r hr'))
    have hne : r.tableName ≠ "" := by
      rw [hr]
      exact tableName_ne_empty r.table
    rw [nameTable, if_pos hne]
    by_cases heq : r.table = table
    · left
      rw [heq, Function.update_self, hr, heq]
    · rw [Function.update_of_ne (Ne.symm heq)]
      rcases h with h | ⟨r', hr', htable⟩
      · exact .inl h
      · rcases List.mem_cons.mp hr' with rfl | hr'
        · exact absurd htable heq
        · exact .inr ⟨r', hr', htable⟩

/-- The routes of a dump have the names of their tables. -/
theorem tableName_of_dumped {dumps : RouteDumps} {q : RouteQuery} {ifNames : Nat → Option String}
    {asked : List DumpedRoute} (h : dumpedRoutes dumps q ifNames = .ok asked) :
    ∀ r ∈ asked, r.tableName = tableName r.table := by
  unfold dumpedRoutes at h
  cases hdump : (versions q.family).mapM dumps with
  | error e =>
    rw [hdump] at h
    cases h
  | ok dumped =>
    rw [hdump] at h
    obtain rfl := Except.ok.inj h
    intro r hr
    obtain ⟨msg, _, rfl⟩ := List.mem_map.mp (List.mem_filter.mp hr).1
    rfl

/-! ### The screen -/

/-- The report is sorted by table. -/
theorem getRoutes_tables {dumps : RouteDumps} {q : RouteQuery} {ifNames : Nat → Option String}
    {reported : RouteDump} (h : getRoutes dumps q ifNames = .ok reported) :
    reported.routes.Pairwise (fun a b => a.table ≤ b.table) := by
  obtain ⟨asked, -, hroutes, -⟩ := getRoutes_eq h
  rw [hroutes]
  apply (List.pairwise_mergeSort DumpedRoute.le_trans DumpedRoute.le_total asked).imp
  intro a b hab
  rw [DumpedRoute.le_iff] at hab
  omega

/-- **The routing screen accounts for the report.**  There is a row for each table that has a
    route, in ascending order and under its name; a row counts all routes of its table and shows
    the first of them, and the routes of the rows one after the other are the report. -/
theorem route_tables_partition {dumps : RouteDumps} {q : RouteQuery}
    {ifNames : Nat → Option String} {reported : RouteDump}
    (h : getRoutes dumps q ifNames = .ok reported) :
    ∃ tables : List Nat, tables.Pairwise (· < ·) ∧
      (∀ table, table ∈ tables ↔ ∃ r ∈ reported.routes, r.table = table) ∧
      tables.flatMap (routesOf reported.routes) = reported.routes ∧
      routeTables reported.routes reported.tableNames =
        tables.map (fun table => tableRow table (tableName table)
          (routesOf reported.routes table)) := by
  refine ⟨tablesOf reported.routes, tablesOf_pairwise _, fun _ => mem_tablesOf, ?_, ?_⟩
  · apply Sorted.flatMap_filter_key (tablesOf_pairwise _) (getRoutes_tables h)
    intro r hr
    exact mem_tablesOf.mpr ⟨r, hr, rfl⟩
  · obtain ⟨asked, hasked, hroutes, hnames⟩ := getRoutes_eq h
    have hnamed : ∀ r ∈ reported.routes, r.tableName = tableName r.table := by
      intro r hr
      rw [hroutes, List.mem_mergeSort] at hr
      exact tableName_of_dumped hasked r hr
    apply List.map_congr_left
    intro table htable
    show tableRow table ((reported.tableNames table).getD "") _ = _
    rw [hnames, tableNames_of_mem hnamed (mem_tablesOf.mp htable), Option.getD_some]

/-- The main table is among the rows when it has routes. -/
theorem route_tables_partition_nested :
    ∃ reported, getRoutes nestedRoutes {} (fun _ => none) = .ok reported ∧
      ∃ tables : List Nat, 254 ∈ tables ∧
        tables.flatMap (routesOf reported.routes) = reported.routes := by
  have hok : ∃ reported, getRoutes nestedRoutes {} (fun _ => none) = .ok reported := ⟨_, rfl⟩
  obtain ⟨reported, hreported⟩ := hok
  obtain ⟨tables, -, hmem, hall, -⟩ := route_tables_partition hreported
  refine ⟨reported, hreported, tables, ?_, hall⟩
  obtain ⟨asked, hasked, hroutes, -⟩ := getRoutes_eq hreported
  obtain rfl := Except.ok.inj hasked
  rw [hmem, hroutes]
  refine ⟨routeToProto (mainRoute none 0 1) (fun _ => none), ?_, by decide +kernel⟩
  rw [List.mem_mergeSort]
  decide +kernel

end Netdiag.App.RoutesView
