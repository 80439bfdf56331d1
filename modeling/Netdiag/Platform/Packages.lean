import Netdiag.Platform.Framework

namespace Netdiag.Platform

/-!
# Installed applications

`NetdiagPackages.list` writes one line for each application, `parse_packages` of
`slint-app/src/platform/shim.rs` reads them.  Texts are lists of characters.

* `list`, `sanitize` — the Java side; tabs and line feeds of a text become blanks.
* `parsePackages`, `parsePackageLine` — the Rust side.  The order of labels is on what
  `to_lowercase` gives, which is an arbitrary function here.
* `Lists` — the list on the screen is the list of the applications.
* `lists_iff` — when it is.  `str::lines` ends a line at a carriage return too if a line feed
  follows, and `sanitize` keeps a carriage return that ends a label.
-/

/-! ### The Java side -/

/-- `ApplicationInfo`, with the label that `getApplicationLabel` gives; uids are not negative. -/
structure ApplicationInfo where
  uid : Nat
  flags : BitVec 32 := 0
  packageName : List Char
  label : List Char
  uid_lt : uid < 2 ^ 31 := by decide
  deriving DecidableEq

/-- `ApplicationInfo.FLAG_SYSTEM`. -/
def flagSystem : BitVec 32 := 1

/-- `system` of `list`. -/
def ApplicationInfo.system (info : ApplicationInfo) : Bool := info.flags &&& flagSystem != 0

/-- `sanitize`. -/
def sanitize (value : List Char) : List Char := replace '\n' ' ' (replace '\t' ' ' value)

/-- What `list` appends for an application and its sanitised label, up to the end of the line. -/
def record (info : ApplicationInfo) (label : List Char) : List Char :=
  Text.decimal info.uid ++ '\t' ::
    ((if info.system then ['1'] else ['0']) ++ '\t' ::
      (sanitize info.packageName ++ '\t' :: label))

/-- `list`. -/
def list (installed : List ApplicationInfo) : List Char :=
  installed.flatMap (fun info => record info (sanitize info.label) ++ ['\n'])

/-! ### The Rust side -/

/-- `InstalledApp`. -/
structure InstalledApp where
  package : List Char
  label : List Char
  uid : Nat
  isSystem : Bool
  deriving DecidableEq, Repr

/-- What `parse_package_lines` makes of a line. -/
def parsePackageLine (line : List Char) : Option InstalledApp := do
  let fields := Text.splitn 4 '\t' line
  let uid ← fields[0]?.bind (Text.parseUnsigned (2 ^ 32 - 1))
  let isSystem := (← fields[1]?) == ['1']
  let package ← fields[2]?
  -- An empty label falls back to the package.
  let label := match fields[3]? with
    | some label => if !label.isEmpty then label else package
    | none => package
  return { package, label, uid, isSystem }

/-- `parse_package_lines`. -/
def parsePackageLines (listing : List Char) : List InstalledApp :=
  (Text.lines listing).filterMap parsePackageLine

section Order

variable (lower : List Char → List Char)

/-- The comparison of `parse_packages`, with `lower` as `to_lowercase`. -/
def compareApps : InstalledApp → InstalledApp → Ordering :=
  compareLex (compareOn (fun a : InstalledApp => a.isSystem))
    (compareOn (fun a : InstalledApp => lower a.label))

/-- `parse_packages`: `sort_by` is stable. -/
def parsePackages (listing : List Char) : List InstalledApp :=
  (parsePackageLines listing).mergeSort (fun a b => (compareApps lower a b).isLE)

/-- No system application stands before another one, and labels of one kind are in order. -/
def InOrder (a b : InstalledApp) : Prop :=
  (a.isSystem = true → b.isSystem = true) ∧
    (a.isSystem = b.isSystem → (compare (lower a.label) (lower b.label)).isLE = true)

/-- What compares as less or equal is in order. -/
theorem inOrder_of_isLE {a b : InstalledApp} (h : (compareApps lower a b).isLE = true) :
    InOrder lower a b := by
  rw [compareApps, compareLex, Ordering.isLE_then_iff_and, compareOn, compareOn] at h
  -- By kind, and by label within a kind.
  obtain ⟨system, label⟩ := h
  constructor
  · intro hsys
    cases hb : b.isSystem with
    | true => rfl
    | false =>
      rw [hsys, hb] at system
      exact absurd system (by decide)
  · intro eq
    have self : compare b.isSystem b.isSystem = .eq := Std.ReflCmp.compare_self
    rw [eq, self] at label
    exact label.resolve_left (by decide)

/-- The comparison is transitive. -/
theorem isLE_trans (a b c : InstalledApp) (ab : (compareApps lower a b).isLE = true)
    (bc : (compareApps lower b c).isLE = true) : (compareApps lower a c).isLE = true := by
  unfold compareApps at *
  exact Std.TransCmp.isLE_trans ab bc

/-- Any two apps compare. -/
theorem isLE_total (a b : InstalledApp) :
    ((compareApps lower a b).isLE || (compareApps lower b a).isLE) = true := by
  -- Comparing the other way round swaps the result.
  have swap : compareApps lower b a = (compareApps lower a b).swap := by
    unfold compareApps
    exact Std.OrientedCmp.eq_swap
  rw [swap]
  cases compareApps lower a b <;> rfl

/-- Sorting neither adds nor drops an app. -/
theorem parsePackages_perm (listing : List Char) :
    (parsePackages lower listing).Perm (parsePackageLines listing) := List.mergeSort_perm _ _

/-- The apps are in order. -/
theorem parsePackages_pairwise (listing : List Char) :
    (parsePackages lower listing).Pairwise (InOrder lower) := by
  have sorted := List.pairwise_mergeSort (isLE_trans lower) (isLE_total lower)
    (parsePackageLines listing)
  exact sorted.imp (inOrder_of_isLE lower)

end Order

/-! ### Lines -/

/-- Whole lines are parsed on their own. -/
theorem parsePackageLines_append {a : List Char} (b : List Char) (whole : Text.Terminated a) :
    parsePackageLines (a ++ b) = parsePackageLines a ++ parsePackageLines b := by
  rw [parsePackageLines, Text.lines_append b whole, List.filterMap_append]
  rfl

/-- A line that is put between two others adds what it says itself. -/
theorem parsePackageLines_insert {a line : List Char} (b : List Char) (whole : Text.Terminated a)
    (feed : '\n' ∉ line) :
    parsePackageLines (a ++ (line ++ '\n' :: b)) =
      parsePackageLines a ++
        ((parsePackageLine (Text.stripCr line)).toList ++ parsePackageLines b) := by
  have rest : parsePackageLines (line ++ '\n' :: b) =
      (parsePackageLine (Text.stripCr line)).toList ++ parsePackageLines b := by
    rw [parsePackageLines, Text.lines_append_cons b feed, List.filterMap_cons]
    cases parsePackageLine (Text.stripCr line) <;> rfl
  rw [parsePackageLines_append _ whole, rest]

/-- A field has neither a tab nor a line break left in it. -/
theorem not_mem_sanitize {c : Char} (sep : c = '\t' ∨ c = '\n') (value : List Char) :
    c ∉ sanitize value := by
  -- Tabs are replaced first, and the blanks that come in are no line breaks.
  rcases sep with rfl | rfl
  · exact not_mem_replace _ (by decide) (not_mem_replace_self (by decide) _)
  · exact not_mem_replace_self (by decide) _

/-- A record is one line. -/
theorem not_mem_record (info : ApplicationInfo) : '\n' ∉ record info (sanitize info.label) := by
  -- None of the four fields has a line break.
  have uid : '\n' ∉ Text.decimal info.uid := Text.not_mem_decimal (by decide) (by decide)
  have system : '\n' ∉ (if info.system then ['1'] else ['0']) := by
    cases info.system <;> decide
  have package := not_mem_sanitize (.inr rfl) info.packageName
  have label := not_mem_sanitize (.inr rfl) info.label
  have tab : ('\n' : Char) ≠ '\t' := by decide
  rw [record]
  simp only [List.mem_append, List.mem_cons, uid, system, package, label, tab, or_self,
    not_false_eq_true]

/-- A record is split into its four fields again. -/
theorem splitn_record (info : ApplicationInfo) (label : List Char) :
    Text.splitn 4 '\t' (record info label) =
      [Text.decimal info.uid, if info.system then ['1'] else ['0'], sanitize info.packageName,
        label] := by
  have uid : '\t' ∉ Text.decimal info.uid := Text.not_mem_decimal (by decide) (by decide)
  have system : '\t' ∉ (if info.system then ['1'] else ['0']) := by
    cases info.system <;> decide
  -- The label may have tabs; only the fields before it are split.
  have package := not_mem_sanitize (.inl rfl) info.packageName
  rw [record, Text.splitn_append_cons 2 _ uid, Text.splitn_append_cons 1 _ system,
    Text.splitn_append_cons 0 _ package]
  rfl

/-- A carriage return at the end of a record is one at the end of its label. -/
theorem stripCr_record (info : ApplicationInfo) (label : List Char) :
    Text.stripCr (record info label) = record info (Text.stripCr label) := by
  rw [record, Text.stripCr_append_cons _ _ (by decide), Text.stripCr_append_cons _ _ (by decide),
    Text.stripCr_append_cons _ _ (by decide)]
  rfl

/-- The entry of an application whose label is read as `label`. -/
def entryWith (info : ApplicationInfo) (label : List Char) : InstalledApp where
  package := sanitize info.packageName
  label := if !label.isEmpty then label else sanitize info.packageName
  uid := info.uid
  isSystem := info.system

/-- A record is read back as the app it was printed for. -/
theorem parsePackageLine_record (info : ApplicationInfo) (label : List Char) :
    parsePackageLine (record info label) = some (entryWith info label) := by
  -- A uid is no more than the parser takes.
  have uid : Text.parseUnsigned (2 ^ 32 - 1) (Text.decimal info.uid) = some info.uid := by
    have := info.uid_lt
    exact Text.parseUnsigned_decimal (by omega)
  have system : ((if info.system then ['1'] else ['0']) == ['1']) = info.system := by
    cases info.system <;> rfl
  unfold parsePackageLine
  rw [splitn_record]
  simp only [List.getElem?_cons_zero, List.getElem?_cons_succ, Option.bind_eq_bind,
    Option.bind_some, uid, system]
  rfl

/-- The entry the screen should show for an application. -/
def entry (info : ApplicationInfo) : InstalledApp := entryWith info (sanitize info.label)

/-- What is read of the text of the Java side: a carriage return that ends a label is gone. -/
theorem parsePackageLines_list (installed : List ApplicationInfo) :
    parsePackageLines (list installed) =
      installed.map (fun info => entryWith info (Text.stripCr (sanitize info.label))) := by
  have text : list installed =
      (installed.map (fun info => record info (sanitize info.label))).flatMap (· ++ ['\n']) := by
    rw [list, List.flatMap_map]
  have feed : ∀ line ∈ installed.map (fun info => record info (sanitize info.label)),
      '\n' ∉ line := by
    intro line hline
    obtain ⟨info, -, rfl⟩ := List.mem_map.mp hline
    exact not_mem_record info
  rw [text, parsePackageLines, Text.lines_flatMap_stripCr _ feed, List.map_map,
    List.filterMap_map, ← List.filterMap_eq_map]
  congr 1
  funext info
  show parsePackageLine (Text.stripCr (record info (sanitize info.label))) = some _
  rw [stripCr_record, parsePackageLine_record]

/-! ### When the label survives -/

/-- The label does not end in a carriage return; or what is left without it is empty and the
    package stands for it just as well. -/
def KeepsEnd (info : ApplicationInfo) : Prop :=
  info.label.getLast? ≠ some '\r' ∨ (info.label = ['\r'] ∧ info.packageName = ['\r'])

instance (info : ApplicationInfo) : Decidable (KeepsEnd info) :=
  inferInstanceAs (Decidable (_ ∨ _))

/-- The character `sanitize` puts in the place of another. -/
def blank (c : Char) : Char := if c = '\t' ∨ c = '\n' then ' ' else c

/-- The fields are cleaned character by character. -/
theorem sanitize_eq_map (value : List Char) : sanitize value = value.map blank := by
  unfold sanitize replace blank
  rw [List.map_map]
  apply List.map_congr_left
  intro c _
  rw [Function.comp_apply]
  split_ifs <;> simp_all

/-- A carriage return is kept as it is. -/
theorem blank_eq_cr_iff (c : Char) : blank c = '\r' ↔ c = '\r' := by
  unfold blank
  constructor
  · intro eq
    split_ifs at eq
    · exact absurd eq (by decide)
    · exact eq
  · rintro rfl
    decide

/-- A cleaned field ends in a carriage return when the field did. -/
theorem sanitize_getLast? (value : List Char) :
    (sanitize value).getLast? = some '\r' ↔ value.getLast? = some '\r' := by
  rw [sanitize_eq_map, List.getLast?_map, Option.map_eq_some_iff]
  simp only [blank_eq_cr_iff, exists_eq_right]

/-- A cleaned field is a carriage return alone when the field was. -/
theorem sanitize_eq_singleton (value : List Char) :
    sanitize value = ['\r'] ↔ value = ['\r'] := by
  rw [sanitize_eq_map, List.map_eq_singleton_iff]
  simp only [blank_eq_cr_iff, exists_eq_right]

/-- The label is lost to `lines` exactly when it ends in a carriage return. -/
theorem entryWith_stripCr_iff (info : ApplicationInfo) :
    entryWith info (Text.stripCr (sanitize info.label)) = entry info ↔ KeepsEnd info := by
  rw [KeepsEnd, ← sanitize_eq_singleton info.label, ← sanitize_eq_singleton info.packageName,
    ne_eq, ← sanitize_getLast?, entry]
  by_cases cr : (sanitize info.label).getLast? = some '\r'
  · -- one carriage return goes, and the package is shown if nothing is left
    obtain ⟨init, eq⟩ : ∃ init, sanitize info.label = init ++ ['\r'] :=
      ⟨_, (List.dropLast_append_getLast? '\r' cr).symm⟩
    have strip : Text.stripCr (sanitize info.label) = init := by
      rw [Text.stripCr, if_pos cr, eq, List.dropLast_concat]
    rw [strip, eq]
    cases init with
    | nil => simp [entryWith]
    | cons c init =>
      constructor
      · intro h
        have label := congrArg InstalledApp.label h
        simp [entryWith] at label
      · rintro (kept | ⟨single, -⟩)
        · exact absurd List.getLast?_concat kept
        · simp at single
  · rw [Text.stripCr_of_getLast? cr]
    exact ⟨fun _ => .inl cr, fun _ => rfl⟩

/-! ### The list on the screen -/

/-- The applications are listed: each line is read as the entry of its application, and they are
    what `parse_packages` returns, in order.  A line more, wherever one may start, adds at most an
    entry of its own; one that is not understood adds nothing. -/
structure Lists (lower : List Char → List Char) (installed : List ApplicationInfo) : Prop where
  entries : parsePackageLines (list installed) = installed.map entry
  perm : (parsePackages lower (list installed)).Perm (installed.map entry)
  sorted : (parsePackages lower (list installed)).Pairwise (InOrder lower)
  inserted : ∀ before after line, before ++ after = list installed → Text.Terminated before →
    '\n' ∉ line →
    (parsePackages lower (before ++ (line ++ '\n' :: after))).Perm
      ((parsePackageLine (Text.stripCr line)).toList ++ parsePackages lower (list installed))
  malformed : ∀ before after line, before ++ after = list installed → Text.Terminated before →
    '\n' ∉ line → parsePackageLine (Text.stripCr line) = none →
    parsePackages lower (before ++ (line ++ '\n' :: after)) = parsePackages lower (list installed)

/-- A line more is at most one app more. -/
theorem parsePackages_inserted (lower : List Char → List Char) {before line : List Char}
    (after : List Char) (whole : Text.Terminated before) (feed : '\n' ∉ line) :
    (parsePackages lower (before ++ (line ++ '\n' :: after))).Perm
      ((parsePackageLine (Text.stripCr line)).toList ++ parsePackages lower (before ++ after)) := by
  refine (parsePackages_perm lower _).trans (.trans ?_
    (.append_left _ (parsePackages_perm lower _).symm))
  rw [parsePackageLines_insert after whole feed, parsePackageLines_append after whole,
    ← List.append_assoc, ← List.append_assoc]
  exact List.perm_append_comm.append_right _

/-- A line that is no record is passed over. -/
theorem parsePackages_malformed (lower : List Char → List Char) {before line : List Char}
    (after : List Char) (whole : Text.Terminated before) (feed : '\n' ∉ line)
    (skipped : parsePackageLine (Text.stripCr line) = none) :
    parsePackages lower (before ++ (line ++ '\n' :: after)) =
      parsePackages lower (before ++ after) := by
  unfold parsePackages
  rw [parsePackageLines_insert after whole feed, skipped, parsePackageLines_append after whole]
  rfl

/-- The list is right exactly when no label loses its end. -/
theorem lists_iff (lower : List Char → List Char) (installed : List ApplicationInfo) :
    Lists lower installed ↔ ∀ info ∈ installed, KeepsEnd info := by
  have entries : parsePackageLines (list installed) = installed.map entry ↔
      ∀ info ∈ installed, KeepsEnd info := by
    rw [parsePackageLines_list, List.map_inj_left]
    simp only [entryWith_stripCr_iff]
  rw [← entries]
  constructor
  · intro h
    exact h.entries
  · intro h
    constructor
    · exact h
    · rw [← h]
      exact parsePackages_perm lower _
    · exact parsePackages_pairwise lower _
    · intro before after line eq whole feed
      rw [← eq]
      exact parsePackages_inserted lower after whole feed
    · intro before after line eq whole feed skipped
      rw [← eq]
      exact parsePackages_malformed lower after whole feed skipped

/-- A label that ends in a carriage return, as user-visible text may. -/
def carriageReturn : ApplicationInfo :=
  { uid := 10400, packageName := "com.example.shop".toList, label := "Shop\r".toList }

/-- It is shown without it. -/
theorem label_loses_end : ¬ (parsePackages (List.map Char.toLower) (list [carriageReturn])).Perm
    ([carriageReturn].map entry) := by
  intro perm
  have read := (parsePackages_perm _ _).symm.trans perm
  rw [parsePackageLines_list] at read
  have eq := List.perm_singleton.mp read
  revert eq
  decide

end Netdiag.Platform
