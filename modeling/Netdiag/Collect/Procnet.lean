import Netdiag.Collect.Interfaces

namespace Netdiag.Collect

/-!
# Collectors — protocol counters and sysctls

`parse_snmp_style`, `parse_flat_counters`, `read_counters`, `read_global_sysctls` and
`read_namespaces` of `daemon/src/collect/procnet.rs`.

* `parseSnmpStyle`, `parseFlatCounters` — the two formats of `/proc/net`.
* `readCounters` — the counters of all protocols.
* `readGlobalSysctls`, `readNamespaces` — the settings and the namespaces of a snapshot.
* `ProtoTable`, `Column` — what the kernel prints: two lines for each protocol, or a line for
  each counter.
* `parseSnmpStyle_printed`, `parseFlatCounters_printed` — each format, read back.
* `read_counters_printed` — the reported counters are those the kernel printed.
-/

/-- Counters by their names; a `HashMap` is a function here. -/
abbrev Counters := List Char → Option Int

/-- Counters by the lower-case name of their protocol. -/
abbrev ProtoCounters := List Char → Option Counters

/-- `to_ascii_lowercase`. -/
def asciiLowercase (text : List Char) : List Char := text.map Char.toLower

/-! ### Parsing -/

/-- A name with the text of its value; a value that is no `i64` is passed over. -/
def insertCounter (c : Counters) (column : List Char × List Char) : Counters :=
  match Text.parseSigned 63 column.2 with
  | some v => Function.update c column.1 (some v)
  | none => c

/-- The body of the loop over pairs of lines. -/
def snmpPair (out : ProtoCounters) (header values : List Char) : ProtoCounters :=
  match Text.splitOnce ':' header, Text.splitOnce ':' values with
  | some (protoName, headerRest), some (valuesProto, valuesRest) =>
    -- The two lines are not of one table.
    if protoName ≠ valuesProto then out
    else
      let key := asciiLowercase protoName
      let entry : Counters := (out key).getD (fun _ => none)
      let columns := (Text.splitWhitespace headerRest).zip (Text.splitWhitespace valuesRest)
      Function.update out key (some (columns.foldl insertCounter entry))
  | _, _ => out

/-- The loop: two lines at a time, a last line alone is not read. -/
def snmpLines : ProtoCounters → List (List Char) → ProtoCounters
  | out, header :: values :: rest => snmpLines (snmpPair out header values) rest
  | out, _ => out

/-- `parse_snmp_style`. -/
def parseSnmpStyle (text : List Char) : ProtoCounters :=
  snmpLines (fun _ => none) (Text.lines text)

/-- One line of the flat layout. -/
def flatLine (c : Counters) (line : List Char) : Counters :=
  match Text.splitWhitespace line with
  | name :: value :: _ => insertCounter c (name, value)
  | _ => c

/-- `parse_flat_counters`. -/
def parseFlatCounters (text : List Char) : Counters :=
  (Text.lines text).foldl flatLine (fun _ => none)

/-- `ProtocolCounters`. -/
structure ProtocolCounters where
  ip : Counters
  icmp : Counters
  tcp : Counters
  udp : Counters
  ip6 : Counters
  icmp6 : Counters
  udp6 : Counters
  tcpExt : Counters
  ipExt : Counters

/-- `take_prefix`: the counters whose names start so, without the start. -/
def takePrefix (start : List Char) (c : Counters) : Counters := fun name => c (start ++ name)

/-- `counters.get(..).cloned().unwrap_or_default()`. -/
def protoCounters (counters : ProtoCounters) (key : String) : Counters :=
  (counters key.toList).getD (fun _ => none)

/-- `read_to_string(..).unwrap_or_default()`. -/
def readToString (files : Files) (path : String) : List Char := (files path).getD []

/-- `read_counters`. -/
def readCounters (files : Files) : ProtocolCounters :=
  let snmp := parseSnmpStyle (readToString files "/proc/net/snmp")
  let netstat := parseSnmpStyle (readToString files "/proc/net/netstat")
  let v6 := parseFlatCounters (readToString files "/proc/net/snmp6")
  { ip := protoCounters snmp "ip"
    icmp := protoCounters snmp "icmp"
    tcp := protoCounters snmp "tcp"
    udp := protoCounters snmp "udp"
    ip6 := takePrefix "Ip6".toList v6
    icmp6 := takePrefix "Icmp6".toList v6
    udp6 := takePrefix "Udp6".toList v6
    tcpExt := protoCounters netstat "tcpext"
    ipExt := protoCounters netstat "ipext" }

/-! ### What the kernel prints -/

/-- A counter with its name. -/
structure Column where
  name : Text.Word
  value : Int
  lower : -2 ^ 63 ≤ value
  upper : value < 2 ^ 63

/-- A protocol with its counters. -/
structure ProtoTable where
  name : Text.Word
  colon : ':' ∉ name.text
  columns : List Column
  nodup : (columns.map (fun c => c.name.text)).Nodup

/-- The value of a counter among these. -/
def columnValue (columns : List Column) : Counters :=
  fun name => (columns.find? (fun c => c.name.text = name)).map Column.value

/-- The text of an integer is a word. -/
def decimalWord (n : Int) : Text.Word where
  text := Text.decimal n
  ne_nil := by
    unfold Text.decimal
    split
    · exact List.cons_ne_nil _ _
    · exact Nat.toDigits_ne_nil
  solid := by
    intro c hc
    cases hdigit : c.isDigit with
    | true => exact Text.isWhitespace_of_isDigit hdigit
    | false =>
      by_cases hminus : c = '-'
      · rw [hminus]
        decide
      · exact absurd hc (Text.not_mem_decimal hdigit hminus)

/-- A line of the two: `Tcp: RtoAlgorithm RtoMin`. -/
def ProtoTable.line (t : ProtoTable) (words : List Text.Word) : List Char :=
  t.name.text ++ ':' :: words.flatMap (fun w => ' ' :: w.text)

/-- The two lines of a protocol. -/
def ProtoTable.lines (t : ProtoTable) : List (List Char) :=
  [t.line (t.columns.map Column.name), t.line (t.columns.map (fun c => decimalWord c.value))]

/-- `/proc/net/snmp` and `/proc/net/netstat`. -/
def printTables (tables : List ProtoTable) : List Char :=
  (tables.flatMap ProtoTable.lines).flatMap (· ++ ['\n'])

/-- The lower-case names of the protocols. -/
def tableKeys (tables : List ProtoTable) : List (List Char) :=
  tables.map (fun t => asciiLowercase t.name.text)

/-- The counters of a protocol among these. -/
def tableCounters (tables : List ProtoTable) : ProtoCounters :=
  fun key => (tables.find? (fun t => asciiLowercase t.name.text = key)).map (fun t =>
    columnValue t.columns)

/-- A line of `/proc/net/snmp6`: `%-32s\t%lu`. -/
def Column.line (c : Column) : List Char :=
  c.name.text ++ List.replicate (32 - c.name.text.length) ' ' ++ '\t' :: Text.decimal c.value

/-- `/proc/net/snmp6`. -/
def printColumns (columns : List Column) : List Char :=
  (columns.map Column.line).flatMap (· ++ ['\n'])

/-! ### Columns -/

/-- The columns of a list put into counters. -/
theorem foldl_insertCounter (columns : List Column)
    (nodup : (columns.map (fun c => c.name.text)).Nodup) (c : Counters) (name : List Char) :
    (columns.map (fun c => (c.name.text, Text.decimal c.value))).foldl insertCounter c name =
      (columnValue columns name).or (c name) := by
  induction columns generalizing c with
  | nil => rfl
  | cons column columns ih =>
    rw [List.map_cons, List.nodup_cons] at nodup
    have hparse : Text.parseSigned 63 (Text.decimal column.value) = some column.value :=
      Text.parseSigned_decimal column.lower column.upper
    have hinsert : insertCounter c (column.name.text, Text.decimal column.value) =
        Function.update c column.name.text (some column.value) := by
      rw [insertCounter, hparse]
    rw [List.map_cons, List.foldl_cons, hinsert, ih nodup.2]
    by_cases h : column.name.text = name
    · -- no later column has this name
      have hnone : columns.find? (fun c => c.name.text = name) = none := by
        rw [List.find?_eq_none]
        intro c' hc' heq
        apply nodup.1
        rw [h, ← of_decide_eq_true heq]
        exact List.mem_map_of_mem hc'
      rw [columnValue, hnone, columnValue, List.find?_cons_of_pos (by simpa using h), ← h,
        Function.update_self]
      rfl
    · rw [Function.update_of_ne (Ne.symm h), columnValue, columnValue,
        List.find?_cons_of_neg (by simpa using h)]

/-! ### Tables -/

/-- A line is split at the colon behind its protocol. -/
theorem splitOnce_line (t : ProtoTable) (words : List Text.Word) :
    Text.splitOnce ':' (t.line words) =
      some (t.name.text, words.flatMap (fun w => ' ' :: w.text)) :=
  Text.splitOnce_append_cons _ t.colon

/-- The two lines of a protocol that has not been read. -/
theorem snmpPair_lines (out : ProtoCounters) (t : ProtoTable)
    (hnew : out (asciiLowercase t.name.text) = none) :
    snmpPair out (t.line (t.columns.map Column.name))
        (t.line (t.columns.map (fun c => decimalWord c.value))) =
      Function.update out (asciiLowercase t.name.text) (some (columnValue t.columns)) := by
  have hzip : (t.columns.map (fun c => c.name.text)).zip
      (t.columns.map (fun c => Text.decimal c.value)) =
        t.columns.map (fun c => (c.name.text, Text.decimal c.value)) := by
    rw [List.zip_map', List.map_inj_left]
    exact fun c _ => rfl
  have hcounters : (t.columns.map (fun c => (c.name.text, Text.decimal c.value))).foldl
      insertCounter (fun _ => none) = columnValue t.columns := by
    funext name
    rw [foldl_insertCounter t.columns t.nodup, Option.or_none]
  simp only [snmpPair, splitOnce_line, ne_eq, not_true_eq_false, if_false, hnew, Option.getD_none,
    Text.splitWhitespace_flatMap _ (by decide : Text.isWhitespace ' ' = true), List.map_map]
  rw [← hcounters, ← hzip]
  rfl

/-- The lines of protocols that have not been read. -/
theorem snmpLines_tables (tables : List ProtoTable) (nodup : (tableKeys tables).Nodup)
    (out : ProtoCounters) (hnew : ∀ key ∈ tableKeys tables, out key = none) (key : List Char) :
    snmpLines out (tables.flatMap ProtoTable.lines) key =
      (tableCounters tables key).or (out key) := by
  induction tables generalizing out with
  | nil => rfl
  | cons t tables ih =>
    rw [tableKeys, List.map_cons, List.nodup_cons] at nodup
    have hfirst : out (asciiLowercase t.name.text) = none := hnew _ List.mem_cons_self
    show snmpLines (snmpPair out _ _) (tables.flatMap ProtoTable.lines) key = _
    rw [snmpPair_lines out t hfirst, ih nodup.2]
    -- This is the only table of the name, or another is looked for.
    · by_cases h : asciiLowercase t.name.text = key
      · have hnone : tables.find? (fun t => asciiLowercase t.name.text = key) = none := by
          rw [List.find?_eq_none]
          intro t' ht' heq
          apply nodup.1
          rw [h, ← of_decide_eq_true heq]
          exact List.mem_map_of_mem ht'
        rw [tableCounters, hnone, tableCounters, List.find?_cons_of_pos (by simpa using h), ← h,
          Function.update_self]
        rfl
      · rw [Function.update_of_ne (Ne.symm h), tableCounters, tableCounters,
          List.find?_cons_of_neg (by simpa using h)]
    · intro key' hkey'
      have hne : key' ≠ asciiLowercase t.name.text := by
        rintro rfl
        exact nodup.1 hkey'
      rw [Function.update_of_ne hne]
      exact hnew key' (List.mem_cons_of_mem _ hkey')

/-- Between the words of a line there are single blanks. -/
theorem flatMap_blank_solid (words : List Text.Word) {c : Char}
    (h : c ∈ words.flatMap (fun w => ' ' :: w.text)) : c = ' ' ∨ Text.isWhitespace c = false := by
  obtain ⟨w, _, hc⟩ := List.mem_flatMap.mp h
  rcases List.mem_cons.mp hc with rfl | hc
  · exact .inl rfl
  · exact .inr (w.solid c hc)

/-- The characters of a line that may be blank are spaces. -/
theorem mem_line {t : ProtoTable} {words : List Text.Word} {c : Char} (h : c ∈ t.line words) :
    c = ' ' ∨ Text.isWhitespace c = false := by
  rcases List.mem_append.mp h with hname | hrest
  · exact .inr (t.name.solid c hname)
  · rcases List.mem_cons.mp hrest with rfl | hwords
    · exact .inr (by decide)
    · exact flatMap_blank_solid words hwords

/-- **The two-line format is read back.** -/
theorem parseSnmpStyle_printed (tables : List ProtoTable) (nodup : (tableKeys tables).Nodup) :
    parseSnmpStyle (printTables tables) = tableCounters tables := by
  have hlines : Text.lines (printTables tables) = tables.flatMap ProtoTable.lines := by
    have hsolid : ∀ l ∈ tables.flatMap ProtoTable.lines, ∀ c ∈ l,
        c = ' ' ∨ Text.isWhitespace c = false := by
      intro l hl c hc
      obtain ⟨t, _, ht⟩ := List.mem_flatMap.mp hl
      rcases List.mem_cons.mp ht with rfl | ht
      · exact mem_line hc
      · obtain rfl := List.mem_singleton.mp ht
        exact mem_line hc
    apply Text.lines_flatMap
    · intro l hl hmem
      rcases hsolid l hl _ hmem with h | h <;> revert h <;> decide
    · intro l hl hlast
      rcases hsolid l hl _ (List.mem_of_getLast? hlast) with h | h <;> revert h <;> decide
  funext key
  rw [parseSnmpStyle, hlines, snmpLines_tables tables nodup _ (fun _ _ => rfl), Option.or_none]

/-! ### Flat counters -/

/-- Blanks in front are dropped. -/
theorem splitWhitespace_replicate (n : Nat) (text : List Char) :
    Text.splitWhitespace (List.replicate n ' ' ++ text) = Text.splitWhitespace text := by
  induction n with
  | zero => rfl
  | succ n ih =>
    rw [List.replicate_succ, List.cons_append, Text.splitWhitespace_cons _ (by decide), ih]

/-- A line of the flat layout is a name and a value. -/
theorem splitWhitespace_columnLine (c : Column) :
    Text.splitWhitespace c.line = [c.name.text, Text.decimal c.value] := by
  have hvalue : Text.splitWhitespace (Text.decimal c.value) = [Text.decimal c.value] :=
    Text.splitWhitespace_word (decimalWord c.value)
  unfold Column.line
  rw [List.append_assoc]
  cases 32 - c.name.text.length with
  | zero =>
    rw [List.replicate_zero, List.nil_append,
      Text.splitWhitespace_append_cons c.name _ (by decide), hvalue]
  | succ n =>
    rw [List.replicate_succ, List.cons_append,
      Text.splitWhitespace_append_cons c.name _ (by decide), splitWhitespace_replicate,
      Text.splitWhitespace_cons _ (by decide), hvalue]

/-- The lines of columns. -/
theorem foldl_flatLine (columns : List Column) (c : Counters) :
    (columns.map Column.line).foldl flatLine c =
      (columns.map (fun c => (c.name.text, Text.decimal c.value))).foldl insertCounter c := by
  induction columns generalizing c with
  | nil => rfl
  | cons column columns ih =>
    rw [List.map_cons, List.foldl_cons, ih, flatLine, splitWhitespace_columnLine]
    rfl

/-- There is no line break in such a line. -/
theorem mem_columnLine {column : Column} {c : Char} (h : c ∈ column.line) :
    c = ' ' ∨ c = '\t' ∨ Text.isWhitespace c = false := by
  rcases List.mem_append.mp h with hleft | hright
  · rcases List.mem_append.mp hleft with hname | hpad
    · exact .inr (.inr (column.name.solid c hname))
    · exact .inl (List.eq_of_mem_replicate hpad)
  · rcases List.mem_cons.mp hright with rfl | hvalue
    · exact .inr (.inl rfl)
    · exact .inr (.inr ((decimalWord column.value).solid c hvalue))

/-- **The flat format is read back.** -/
theorem parseFlatCounters_printed (columns : List Column)
    (nodup : (columns.map (fun c => c.name.text)).Nodup) :
    parseFlatCounters (printColumns columns) = columnValue columns := by
  have hlines : Text.lines (printColumns columns) = columns.map Column.line := by
    have hsolid : ∀ l ∈ columns.map Column.line, ∀ c ∈ l,
        c = ' ' ∨ c = '\t' ∨ Text.isWhitespace c = false := by
      intro l hl c hc
      obtain ⟨column, _, rfl⟩ := List.mem_map.mp hl
      exact mem_columnLine hc
    apply Text.lines_flatMap
    · intro l hl hmem
      rcases hsolid l hl _ hmem with h | h | h <;> revert h <;> decide
    · intro l hl hlast
      rcases hsolid l hl _ (List.mem_of_getLast? hlast) with h | h | h <;> revert h <;> decide
  funext name
  rw [parseFlatCounters, hlines, foldl_flatLine, foldl_insertCounter columns nodup, Option.or_none]

/-! ### All counters -/

/-- **The counters are those the kernel printed.**  Over files in the formats of the kernel, with
    any protocols, any counters and any `i64` values, each protocol is reported with exactly its
    own counters. -/
theorem read_counters_printed (files : Files) (snmp netstat : List ProtoTable)
    (snmp6 : List Column) (hsnmp : files "/proc/net/snmp" = some (printTables snmp))
    (hnetstat : files "/proc/net/netstat" = some (printTables netstat))
    (hsnmp6 : files "/proc/net/snmp6" = some (printColumns snmp6))
    (hkeys : (tableKeys snmp).Nodup) (hkeys' : (tableKeys netstat).Nodup)
    (hnames : (snmp6.map (fun c => c.name.text)).Nodup) :
    readCounters files =
      { ip := protoCounters (tableCounters snmp) "ip"
        icmp := protoCounters (tableCounters snmp) "icmp"
        tcp := protoCounters (tableCounters snmp) "tcp"
        udp := protoCounters (tableCounters snmp) "udp"
        ip6 := fun name => columnValue snmp6 ("Ip6".toList ++ name)
        icmp6 := fun name => columnValue snmp6 ("Icmp6".toList ++ name)
        udp6 := fun name => columnValue snmp6 ("Udp6".toList ++ name)
        tcpExt := protoCounters (tableCounters netstat) "tcpext"
        ipExt := protoCounters (tableCounters netstat) "ipext" } := by
  simp only [readCounters, readToString, hsnmp, hnetstat, hsnmp6, Option.getD_some,
    parseSnmpStyle_printed snmp hkeys, parseSnmpStyle_printed netstat hkeys',
    parseFlatCounters_printed snmp6 hnames]
  rfl

/-- `MaxConn` of a sample: there is no maximum. -/
def maxConn : Column :=
  ⟨⟨"MaxConn".toList, by simp, Text.solid_of_all (by decide)⟩, -1, by decide, by decide⟩

/-- `InSegs` of a sample. -/
def inSegs : Column :=
  ⟨⟨"InSegs".toList, by simp, Text.solid_of_all (by decide)⟩, 12345, by decide, by decide⟩

/-- `Tcp: MaxConn InSegs` of a sample. -/
def tcpTable : ProtoTable where
  name := ⟨"Tcp".toList, by simp, Text.solid_of_all (by decide)⟩
  colon := by decide +kernel
  columns := [maxConn, inSegs]
  nodup := by decide

/-- `InDatagrams` of a sample. -/
def inDatagrams : Column :=
  ⟨⟨"InDatagrams".toList, by simp, Text.solid_of_all (by decide)⟩, 678, by decide, by decide⟩

/-- `Udp: InDatagrams` of a sample. -/
def udpTable : ProtoTable where
  name := ⟨"Udp".toList, by simp, Text.solid_of_all (by decide)⟩
  colon := by decide +kernel
  columns := [inDatagrams]
  nodup := List.nodup_singleton _

/-- `ListenDrops` of a sample. -/
def listenDrops : Column :=
  ⟨⟨"ListenDrops".toList, by simp, Text.solid_of_all (by decide)⟩, 9, by decide, by decide⟩

/-- `TcpExt: ListenDrops` of a sample. -/
def tcpExtTable : ProtoTable where
  name := ⟨"TcpExt".toList, by simp, Text.solid_of_all (by decide)⟩
  colon := by decide +kernel
  columns := [listenDrops]
  nodup := List.nodup_singleton _

/-- `Ip6InReceives` of a sample. -/
def ip6InReceives : Column :=
  ⟨⟨"Ip6InReceives".toList, by simp, Text.solid_of_all (by decide)⟩, 42, by decide, by decide⟩

/-- `Udp6InDatagrams` of a sample. -/
def udp6InDatagrams : Column :=
  ⟨⟨"Udp6InDatagrams".toList, by simp, Text.solid_of_all (by decide)⟩, 5, by decide, by decide⟩

/-- Files with these counters. -/
def counterFiles : Files := fun path =>
  if path = "/proc/net/snmp" then some (printTables [tcpTable, udpTable])
  else if path = "/proc/net/netstat" then some (printTables [tcpExtTable])
  else if path = "/proc/net/snmp6" then some (printColumns [ip6InReceives, udp6InDatagrams])
  else none

/-- Each protocol of the sample has its own counters and no others. -/
theorem read_counters_printed_sample :
    (readCounters counterFiles).tcp "MaxConn".toList = some (-1) ∧
      (readCounters counterFiles).tcp "InSegs".toList = some 12345 ∧
      (readCounters counterFiles).tcp "InDatagrams".toList = none ∧
      (readCounters counterFiles).udp "InDatagrams".toList = some 678 ∧
      (readCounters counterFiles).tcpExt "ListenDrops".toList = some 9 ∧
      (readCounters counterFiles).ip6 "InReceives".toList = some 42 ∧
      (readCounters counterFiles).udp6 "InDatagrams".toList = some 5 := by
  rw [read_counters_printed counterFiles [tcpTable, udpTable] [tcpExtTable]
    [ip6InReceives, udp6InDatagrams] (by decide +kernel) (by decide +kernel) (by decide +kernel)
    (by decide +kernel) (List.nodup_singleton _) (by decide +kernel)]
  decide +kernel

/-! ### Any text -/

/-- The counter stands in a pair of lines of its protocol: its name in the first, its value in
    the second, at the same place. -/
def StandsIn (ls : List (List Char)) (key name : List Char) (v : Int) : Prop :=
  ∃ i header values protoName headerRest valuesRest text, ls[2 * i]? = some header ∧
    ls[2 * i + 1]? = some values ∧ Text.splitOnce ':' header = some (protoName, headerRest) ∧
    Text.splitOnce ':' values = some (protoName, valuesRest) ∧ asciiLowercase protoName = key ∧
    (name, text) ∈ (Text.splitWhitespace headerRest).zip (Text.splitWhitespace valuesRest) ∧
    Text.parseSigned 63 text = some v

/-- A counter comes from a column or was there before. -/
theorem foldl_insertCounter_cases (columns : List (List Char × List Char)) (c : Counters)
    {name : List Char} {v : Int} (h : columns.foldl insertCounter c name = some v) :
    c name = some v ∨
      ∃ text, (name, text) ∈ columns ∧ Text.parseSigned 63 text = some v := by
  induction columns generalizing c with
  | nil => exact .inl h
  | cons column columns ih =>
    rcases ih (insertCounter c column) h with hinsert | ⟨text, hmem, hparse⟩
    · unfold insertCounter at hinsert
      -- A value that is no number leaves the counter as it was.
      cases hparse : Text.parseSigned 63 column.2 with
      | none =>
        simp only [hparse] at hinsert
        exact .inl hinsert
      | some value =>
        simp only [hparse] at hinsert
        by_cases hname : name = column.1
        · subst hname
          rw [Function.update_self] at hinsert
          obtain rfl := Option.some.inj hinsert
          exact .inr ⟨column.2, List.mem_cons_self, hparse⟩
        · rw [Function.update_of_ne hname] at hinsert
          exact .inl hinsert
    · exact .inr ⟨text, List.mem_cons_of_mem _ hmem, hparse⟩

/-- What one pair of lines adds. -/
theorem snmpPair_cases (out : ProtoCounters) (header values : List Char) {key name : List Char}
    {c : Counters} {v : Int} (hkey : snmpPair out header values key = some c)
    (hname : c name = some v) :
    (∃ c', out key = some c' ∧ c' name = some v) ∨ StandsIn [header, values] key name v := by
  cases hheader : Text.splitOnce ':' header with
  | none =>
    simp only [snmpPair, hheader] at hkey
    exact .inl ⟨c, hkey, hname⟩
  | some first =>
  obtain ⟨protoName, headerRest⟩ := first
  cases hvalues : Text.splitOnce ':' values with
  | none =>
    simp only [snmpPair, hheader, hvalues] at hkey
    exact .inl ⟨c, hkey, hname⟩
  | some second =>
  obtain ⟨valuesProto, valuesRest⟩ := second
  simp only [snmpPair, hheader, hvalues] at hkey
  -- A pair of lines of two protocols is passed over.
  by_cases hsame : protoName = valuesProto
  · subst hsame
    rw [if_neg (by simp)] at hkey
    by_cases h : key = asciiLowercase protoName
    · subst h
      rw [Function.update_self, Option.some.injEq] at hkey
      subst hkey
      -- The counter was there before, or is one of this pair.
      rcases foldl_insertCounter_cases _ _ hname with hold | ⟨text, hmem, hparse⟩
      · cases hout : out (asciiLowercase protoName) with
        | none =>
          rw [hout] at hold
          cases hold
        | some c' =>
          rw [hout] at hold
          exact .inl ⟨c', rfl, hold⟩
      · exact .inr ⟨0, header, values, protoName, headerRest, valuesRest, text, rfl, rfl,
          hheader, hvalues, rfl, hmem, hparse⟩
    · rw [Function.update_of_ne h] at hkey
      exact .inl ⟨c, hkey, hname⟩
  · rw [if_pos hsame] at hkey
    exact .inl ⟨c, hkey, hname⟩

/-- A value that stands further down stands in the whole. -/
theorem StandsIn.shift {ls : List (List Char)} {key name : List Char} {v : Int}
    (h : StandsIn ls key name v) (header values : List Char) :
    StandsIn (header :: values :: ls) key name v := by
  obtain ⟨i, h⟩ := h
  refine ⟨i + 1, ?_⟩
  have hindex : 2 * (i + 1) = 2 * i + 1 + 1 := by omega
  rw [hindex]
  exact h

/-- A value of the first pair stands in the whole. -/
theorem StandsIn.head {header values key name : List Char} {v : Int}
    (h : StandsIn [header, values] key name v) (ls : List (List Char)) :
    StandsIn (header :: values :: ls) key name v := by
  obtain ⟨i, header', values', protoName, headerRest, valuesRest, text, h0, h1, h⟩ := h
  have hi : i = 0 := by
    rw [List.getElem?_eq_some_iff] at h1
    obtain ⟨hlt, -⟩ := h1
    simp only [List.length_cons, List.length_nil] at hlt
    omega
  subst hi
  exact ⟨0, header', values', protoName, headerRest, valuesRest, text, h0, h1, h⟩

/-- **No counter is made up.**  Whatever the text, cut short or not of this format at all, a
    counter that is reported stands in two lines that follow each other and name its protocol. -/
theorem parse_snmp_sound (text : List Char) (key name : List Char) (c : Counters) (v : Int)
    (hkey : parseSnmpStyle text key = some c) (hname : c name = some v) :
    StandsIn (Text.lines text) key name v := by
  suffices h : ∀ out, snmpLines out (Text.lines text) key = some c →
      (∃ c', out key = some c' ∧ c' name = some v) ∨ StandsIn (Text.lines text) key name v by
    rcases h _ hkey with ⟨c', hnone, _⟩ | h
    · cases hnone
    · exact h
  generalize Text.lines text = ls
  intro out
  fun_induction snmpLines out ls with
  | case1 out header values rest ih =>
    intro h
    rcases ih h with ⟨c', hc', hv⟩ | hrest
    · rcases snmpPair_cases out header values hc' hv with hold | hpair
      · exact .inl hold
      · exact .inr (hpair.head rest)
    · exact .inr (hrest.shift header values)
  | case2 out ls => exact fun h => .inl ⟨c, h, hname⟩

/-- The value of the sample stands in its two lines. -/
theorem parse_snmp_sound_sample :
    StandsIn (Text.lines (printTables [tcpTable])) "tcp".toList "InSegs".toList 12345 := by
  have hparse := parseSnmpStyle_printed [tcpTable] (List.nodup_singleton _)
  apply parse_snmp_sound (printTables [tcpTable]) "tcp".toList "InSegs".toList
    (columnValue [maxConn, inSegs]) 12345
  · rw [hparse]
    have hkey : decide (asciiLowercase tcpTable.name.text = "tcp".toList) = true := by
      decide +kernel
    show (List.find? _ [tcpTable]).map (fun t => columnValue t.columns) = _
    rw [List.find?_cons, hkey]
    rfl
  · decide +kernel

/-! ### Sysctls and namespaces -/

/-- `GLOBAL_SYSCTLS`. -/
def globalSysctlKeys : List String :=
  ["ipv4/ip_forward", "ipv4/tcp_congestion_control", "ipv4/tcp_available_congestion_control",
    "ipv4/tcp_fastopen", "ipv4/tcp_mtu_probing", "ipv4/tcp_base_mss", "ipv4/tcp_syn_retries",
    "ipv4/tcp_synack_retries", "ipv4/tcp_retries2", "ipv4/tcp_fin_timeout",
    "ipv4/tcp_keepalive_time", "ipv4/tcp_keepalive_intvl", "ipv4/tcp_keepalive_probes",
    "ipv4/tcp_ecn", "ipv4/tcp_timestamps", "ipv4/tcp_sack", "ipv4/tcp_rmem", "ipv4/tcp_wmem",
    "ipv4/ip_no_pmtu_disc", "ipv4/route/min_pmtu", "ipv4/route/mtu_expires",
    "ipv4/ping_group_range", "ipv4/conf/all/rp_filter", "ipv6/conf/all/forwarding",
    "ipv6/conf/all/disable_ipv6", "ipv6/conf/all/accept_ra", "ipv6/conf/default/accept_ra",
    "ipv6/conf/all/use_tempaddr", "ipv6/route/max_size", "core/default_qdisc", "core/somaxconn",
    "core/rmem_max", "core/wmem_max"]

/-- `GlobalSysctls`; the map `raw` is a function. -/
structure GlobalSysctls where
  ipv4Forwarding : Int
  ipv6Forwarding : Int
  ipv6Disable : Int
  tcpCongestionControl : List Char
  tcpAvailableCongestionControl : List Char
  tcpFastopen : Int
  tcpMtuProbing : Int
  tcpBaseMss : Int
  tcpSynRetries : Int
  tcpSynackRetries : Int
  tcpRetries2 : Int
  tcpFinTimeout : Int
  tcpKeepaliveTime : Int
  tcpEcn : Int
  tcpTimestamps : Int
  tcpSack : Int
  defaultQdiscPresent : Int
  defaultQdisc : List Char
  pingGroupRange : List Char
  ipNoPmtuDisc : Int
  routeMinPmtu : Int
  raw : String → Option (List Char)

/-- The map `raw`: the words of each file that can be read. -/
def rawSysctls (files : Files) (key : String) : Option (List Char) :=
  -- The values of one file are separated by tabs.
  if key ∈ globalSysctlKeys then
    (readTrimmed files s!"/proc/sys/net/{key}").map (fun value =>
      [' '].intercalate (Text.splitWhitespace value))
  else none

/-- `get_i32`. -/
def sysctlI32 (raw : String → Option (List Char)) (key : String) : Int :=
  (((raw key).bind (fun v => (Text.splitWhitespace v).head?)).bind (Text.parseSigned 31)).getD (-1)

/-- `get_str`. -/
def sysctlStr (raw : String → Option (List Char)) (key : String) : List Char := (raw key).getD []

/-- `read_global_sysctls`. -/
def readGlobalSysctls (files : Files) : GlobalSysctls :=
  let raw := rawSysctls files
  let defaultQdisc := sysctlStr raw "core/default_qdisc"
  { ipv4Forwarding := sysctlI32 raw "ipv4/ip_forward"
    ipv6Forwarding := sysctlI32 raw "ipv6/conf/all/forwarding"
    ipv6Disable := sysctlI32 raw "ipv6/conf/all/disable_ipv6"
    tcpCongestionControl := sysctlStr raw "ipv4/tcp_congestion_control"
    tcpAvailableCongestionControl := sysctlStr raw "ipv4/tcp_available_congestion_control"
    tcpFastopen := sysctlI32 raw "ipv4/tcp_fastopen"
    tcpMtuProbing := sysctlI32 raw "ipv4/tcp_mtu_probing"
    tcpBaseMss := sysctlI32 raw "ipv4/tcp_base_mss"
    tcpSynRetries := sysctlI32 raw "ipv4/tcp_syn_retries"
    tcpSynackRetries := sysctlI32 raw "ipv4/tcp_synack_retries"
    tcpRetries2 := sysctlI32 raw "ipv4/tcp_retries2"
    tcpFinTimeout := sysctlI32 raw "ipv4/tcp_fin_timeout"
    tcpKeepaliveTime := sysctlI32 raw "ipv4/tcp_keepalive_time"
    tcpEcn := sysctlI32 raw "ipv4/tcp_ecn"
    tcpTimestamps := sysctlI32 raw "ipv4/tcp_timestamps"
    tcpSack := sysctlI32 raw "ipv4/tcp_sack"
    defaultQdiscPresent := if defaultQdisc.isEmpty then 0 else 1
    defaultQdisc
    pingGroupRange := sysctlStr raw "ipv4/ping_group_range"
    ipNoPmtuDisc := sysctlI32 raw "ipv4/ip_no_pmtu_disc"
    routeMinPmtu := sysctlI32 raw "ipv4/route/min_pmtu"
    raw }

/-- `NetworkNamespace`. -/
structure NetworkNamespace where
  id : Int
  name : String
  inode : Nat
  isCurrent : Bool
  deriving DecidableEq, Repr

/-- The namespaces as the file system shows them: the inode of the daemon's own, and the entries of
    `/var/run/netns`, each with its inode if that can be read. -/
structure NamespaceFiles where
  current : Option Nat
  entries : Option (List (String × Option Nat))

/-- `read_namespaces`. -/
def readNamespaces (files : NamespaceFiles) : List NetworkNamespace :=
  let currentInode := files.current.getD 0
  { id := -1, name := "self", inode := currentInode, isCurrent := true } ::
    (files.entries.getD []).filterMap (fun entry => entry.2.map (fun inode =>
      { id := -1, name := entry.1, inode, isCurrent := inode == currentInode }))

end Netdiag.Collect
