import Netdiag.Collect.Interfaces
import Netdiag.Net.AddrRead

namespace Netdiag.Collect

/-!
# Collectors — the resolver configuration

`read_resolver_state` of `daemon/src/collect/procnet.rs`: the servers and search domains of
`/etc/resolv.conf`.

* `readResolverState` — the file, line by line.
* `ResolvLine` — a line of such a file: a server, search domains, or anything else;
  `exists_printResolv` — every file is made of such lines.
* `read_resolver_printed` — the servers and domains of any file, in their order.
-/

open Netdiag.Watch (fromIp)
open Text (isWhitespace trim lines splitWhitespace Word)

/-- `ResolverState`. -/
structure ResolverState where
  resolvConfServers : List IpAddress := []
  resolvConfDomains : List (List Char) := []
  resolvConfPresent : Bool
  resolvConfNote : String
  deriving DecidableEq, Repr

/-- One trimmed line. -/
def ResolverState.readLine (s : ResolverState) (line : List Char) : ResolverState :=
  match line.dropPrefix? "nameserver".toList with
  | some rest =>
    match IpAddr.parse (trim rest) with
    | some ip => { s with resolvConfServers := s.resolvConfServers ++ [fromIp ip] }
    -- A name server that is no address is passed over.
    | none => s
  | none =>
    match line.dropPrefix? "search".toList with
    | some rest => { s with resolvConfDomains := s.resolvConfDomains ++ splitWhitespace rest }
    | none => s

/-- `read_resolver_state`. -/
def readResolverState (files : Files) : ResolverState :=
  match readTrimmed files "/etc/resolv.conf" with
  | none =>
    { resolvConfPresent := false
      resolvConfNote :=
        "no /etc/resolv.conf; on Android the resolver lives in netd and " ++
          "DNS servers are published through LinkProperties instead" }
  | some text =>
    (lines text).foldl (fun s line => s.readLine (trim line))
      { resolvConfPresent := true, resolvConfNote := "" }

/-! ### The file -/

/-- Blanks on one line. -/
structure Blanks where
  text : List Char
  blank : ∀ c ∈ text, isWhitespace c = true
  single : '\n' ∉ text

/-- What a line says. -/
inductive ResolvItem
  /-- `nameserver` and the text of an address. -/
  | server (text : List Char) (single : '\n' ∉ text) (ip : IpAddr)
      (parsed : IpAddr.parse (trim text) = some ip)
  /-- `nameserver` and something that is no address. -/
  | unreadable (text : List Char) (single : '\n' ∉ text) (none : IpAddr.parse (trim text) = none)
  /-- `search` and a text whose words are the domains. -/
  | search (text : List Char) (single : '\n' ∉ text)
  /-- A comment, an option, or nothing. -/
  | other (text : List Char) (single : '\n' ∉ text)
      (noServer : (trim text).dropPrefix? "nameserver".toList = none)
      (noSearch : (trim text).dropPrefix? "search".toList = none)

/-- A line, with the blanks around it. -/
structure ResolvLine where
  indent : Blanks
  item : ResolvItem
  trail : Blanks

namespace ResolvItem

/-- The text of an item. -/
def text : ResolvItem → List Char
  | server text .. => "nameserver".toList ++ text
  | unreadable text .. => "nameserver".toList ++ text
  | search text _ => "search".toList ++ text
  | other text .. => text

/-- The server of an item. -/
def servers : ResolvItem → List IpAddr
  | server _ _ ip _ => [ip]
  | unreadable .. | search .. | other .. => []

/-- The domains of an item. -/
def domains : ResolvItem → List (List Char)
  | search text _ => splitWhitespace text
  | server .. | unreadable .. | other .. => []

/-- What an item adds. -/
def addTo (i : ResolvItem) (s : ResolverState) : ResolverState :=
  { s with
    resolvConfServers := s.resolvConfServers ++ i.servers.map fromIp
    resolvConfDomains := s.resolvConfDomains ++ i.domains }

/-- An item stands on one line. -/
theorem single (i : ResolvItem) : '\n' ∉ i.text := by
  have hserver : '\n' ∉ "nameserver".toList := by decide
  have hsearch : '\n' ∉ "search".toList := by decide
  cases i with
  | server text single ip parsed => exact List.not_mem_append hserver single
  | unreadable text single none => exact List.not_mem_append hserver single
  | search text single => exact List.not_mem_append hsearch single
  | other text single noServer noSearch => exact single

end ResolvItem

/-- The text of a line. -/
def ResolvLine.text (l : ResolvLine) : List Char := l.indent.text ++ l.item.text ++ l.trail.text

/-- The text of a file: lines with line feeds between them.  An empty last line stands for a file
    that ends in a line feed. -/
def printResolv (ls : List ResolvLine) : List Char :=
  ['\n'].intercalate (ls.map ResolvLine.text)

theorem ResolvLine.single (l : ResolvLine) : '\n' ∉ l.text :=
  List.not_mem_append (List.not_mem_append l.indent.single l.item.single) l.trail.single

/-! ### Every file is one -/

/-- What follows a prefix that was dropped. -/
theorem append_of_dropPrefix? {text lead rest : List Char} (h : text.dropPrefix? lead = some rest) :
    lead ++ rest = text := by
  obtain ⟨lead', htext, hbeq⟩ := List.dropPrefix?_eq_some_iff.mp h
  rw [htext, eq_of_beq hbeq]

/-- Whatever stands on a line, it is one of the four. -/
theorem exists_resolvLine {line : List Char} (single : '\n' ∉ line) :
    ∃ l : ResolvLine, l.text = line := by
  obtain ⟨before, after, hline, hbefore, hafter⟩ := Text.exists_blanks_trim line
  have hbefore' : '\n' ∉ before := fun mem => single (by rw [hline]; simp [mem])
  have hafter' : '\n' ∉ after := fun mem => single (by rw [hline]; simp [mem])
  have htrim : '\n' ∉ trim line := fun mem => single (by rw [hline]; simp [mem])
  -- the blanks around it, and an item for the trimmed line
  suffices h : ∃ item : ResolvItem, item.text = trim line by
    obtain ⟨item, hitem⟩ := h
    refine ⟨⟨⟨before, hbefore, hbefore'⟩, item, ⟨after, hafter, hafter'⟩⟩, ?_⟩
    rw [ResolvLine.text, hitem]
    exact hline.symm
  cases hserver : (trim line).dropPrefix? "nameserver".toList with
  | some rest =>
    have htext := append_of_dropPrefix? hserver
    have hrest : '\n' ∉ rest :=
      fun mem => htrim (by rw [← htext]; exact List.mem_append_right _ mem)
    cases hip : IpAddr.parse (trim rest) with
    | some ip => exact ⟨.server rest hrest ip hip, htext⟩
    | none => exact ⟨.unreadable rest hrest hip, htext⟩
  | none =>
    cases hsearch : (trim line).dropPrefix? "search".toList with
    | some rest =>
      have htext := append_of_dropPrefix? hsearch
      have hrest : '\n' ∉ rest :=
        fun mem => htrim (by rw [← htext]; exact List.mem_append_right _ mem)
      exact ⟨.search rest hrest, htext⟩
    | none =>
      have htwice : trim (trim line) = trim line := by
        conv_rhs => rw [hline, Text.trim_append_blanks _ hbefore hafter]
      exact ⟨.other (trim line) htrim (by rw [htwice]; exact hserver)
        (by rw [htwice]; exact hsearch), rfl⟩

/-- Every file is made of such lines. -/
theorem exists_printResolv (text : List Char) : ∃ ls, printResolv ls = text := by
  have hall : ∀ lines : List (List Char), (∀ l ∈ lines, '\n' ∉ l) →
      ∃ ls : List ResolvLine, ls.map ResolvLine.text = lines := by
    intro lines
    induction lines with
    | nil => exact fun _ => ⟨[], rfl⟩
    | cons line lines ih =>
      intro single
      obtain ⟨l, hl⟩ := exists_resolvLine (single line List.mem_cons_self)
      obtain ⟨ls, hls⟩ := ih (fun l mem => single l (List.mem_cons_of_mem line mem))
      exact ⟨l :: ls, by rw [List.map_cons, hl, hls]⟩
  obtain ⟨ls, hls⟩ := hall (text.splitOn '\n') (fun _ mem => Text.not_mem_of_mem_splitOn mem)
  refine ⟨ls, ?_⟩
  rw [printResolv, hls, List.intercalate_splitOn]

/-! ### Read back -/

/-- The first word of a server line. -/
def nameserver : Word :=
  ⟨"nameserver".toList, by decide, Text.solid_of_all (by decide)⟩

/-- The first word of a line of domains. -/
def searchList : Word :=
  ⟨"search".toList, by decide, Text.solid_of_all (by decide)⟩

/-- A server line is read for its address alone, blanks or not. -/
theorem readLine_nameserver (s : ResolverState) (rest : List Char) :
    s.readLine (trim (nameserver.text ++ rest)) =
      match IpAddr.parse (trim rest) with
      | some ip => { s with resolvConfServers := s.resolvConfServers ++ [fromIp ip] }
      | none => s := by
  rw [ResolverState.readLine, Text.trim_word_append, ← Text.trim_rdropWhile rest]
  show (match (nameserver.text ++ _).dropPrefix? nameserver.text with
    | some rest => _
    | none => _) = _
  rw [Text.dropPrefix?_append]

/-- A line of domains is read for its words. -/
theorem readLine_search (s : ResolverState) (rest : List Char) :
    s.readLine (trim (searchList.text ++ rest)) =
      { s with resolvConfDomains := s.resolvConfDomains ++ splitWhitespace rest } := by
  rw [Text.trim_word_append, ← Text.splitWhitespace_rdropWhile rest, ResolverState.readLine]
  -- `search` is no `nameserver`
  have hother : (searchList.text ++ rest.rdropWhile isWhitespace).dropPrefix?
      "nameserver".toList = none := rfl
  rw [hother]
  show (match (searchList.text ++ _).dropPrefix? searchList.text with
    | some rest => _
    | none => _) = _
  rw [Text.dropPrefix?_append]

/-- A line adds what it says. -/
theorem readLine_text (l : ResolvLine) (s : ResolverState) :
    s.readLine (trim l.text) = l.item.addTo s := by
  rw [ResolvLine.text, Text.trim_append_blanks _ l.indent.blank l.trail.blank]
  cases l.item with
  | server text single ip parsed =>
    show s.readLine (trim (nameserver.text ++ text)) = _
    rw [readLine_nameserver, parsed]
    simp [ResolvItem.addTo, ResolvItem.servers, ResolvItem.domains]
  | unreadable text single none =>
    show s.readLine (trim (nameserver.text ++ text)) = _
    rw [readLine_nameserver, none]
    simp [ResolvItem.addTo, ResolvItem.servers, ResolvItem.domains]
  | search text single =>
    show s.readLine (trim (searchList.text ++ text)) = _
    rw [readLine_search]
    simp [ResolvItem.addTo, ResolvItem.servers, ResolvItem.domains]
  | other text single noServer noSearch =>
    show s.readLine (trim text) = _
    rw [ResolverState.readLine, noServer, noSearch]
    simp [ResolvItem.addTo, ResolvItem.servers, ResolvItem.domains]

/-- Line by line. -/
theorem foldl_text (ls : List ResolvLine) (s : ResolverState) :
    ls.foldl (fun s l => s.readLine (trim l.text)) s =
      { s with
        resolvConfServers := s.resolvConfServers ++ ls.flatMap (fun l => l.item.servers.map fromIp)
        resolvConfDomains := s.resolvConfDomains ++ ls.flatMap (fun l => l.item.domains) } := by
  induction ls generalizing s with
  | nil => simp
  | cons l ls ih =>
    rw [List.foldl_cons, readLine_text, ih]
    simp [ResolvItem.addTo]

/-- **Whatever the file says is read back.**  Every file is made of lines that name a server, give
    search domains, or say something else; and of any such file the servers that are addresses
    and the domains are read, in the order of the lines, whatever blanks surround them. -/
theorem read_resolver_printed :
    (∀ text, ∃ ls, printResolv ls = text) ∧
    ∀ (files : Files) (ls : List ResolvLine),
      files "/etc/resolv.conf" = some (printResolv ls) →
        readResolverState files =
          { resolvConfServers := ls.flatMap (fun l => l.item.servers.map fromIp)
            resolvConfDomains := ls.flatMap (fun l => l.item.domains)
            resolvConfPresent := true
            resolvConfNote := "" } := by
  refine ⟨exists_printResolv, fun files ls h => ?_⟩
  have hempty (s : ResolverState) : s.readLine [] = s := rfl
  have hread : readTrimmed files "/etc/resolv.conf" = some (trim (printResolv ls)) := by
    rw [readTrimmed, h, Option.map_some]
  rw [readResolverState, hread]
  show (lines (trim (printResolv ls))).foldl
    (fun (s : ResolverState) line => s.readLine (trim line)) _ = _
  -- the file is trimmed as a whole first: its first line loses its indent, its last its end
  rw [Text.foldl_lines_trim hempty]
  cases ls with
  | nil => rfl
  | cons l ls =>
    have hfeed : ∀ t ∈ (l :: ls).map ResolvLine.text, '\n' ∉ t := by
      intro t ht
      obtain ⟨line, -, rfl⟩ := List.mem_map.mp ht
      exact line.single
    rw [printResolv, List.splitOn_intercalate '\n' hfeed (List.cons_ne_nil _ _), List.foldl_map,
      foldl_text]
    rfl

/-- An address with a zone is not read. -/
theorem parse_zoned : IpAddr.parse (trim " fe80::1%wlan0".toList) = none := by decide +kernel

/-- An address may be written in capitals, after a tab or after nothing. -/
theorem parse_capitals :
    IpAddr.parse (trim "\tFE80::1".toList) = some (.v6 0xfe800000000000000000000000000001) := by
  decide +kernel

theorem parse_adjacent : IpAddr.parse (trim "1.1.1.1".toList) = some (.v4 0x01010101) := by
  decide +kernel

/-- A file with a comment, carriage returns, two servers, one line that is no server and, at its
    end without a line feed, two domains after tabs. -/
def sampleResolv : List ResolvLine :=
  let none : Blanks := ⟨[], List.forall_mem_nil _, List.not_mem_nil⟩
  let blank : Blanks := ⟨[' '], by simp [isWhitespace], by decide⟩
  let cr : Blanks := ⟨['\r'], by simp [isWhitespace], by decide⟩
  [⟨none, .other "# kept by hand".toList (by decide) rfl rfl, cr⟩,
    ⟨blank, .server "1.1.1.1".toList (by decide) (.v4 0x01010101) parse_adjacent, cr⟩,
    ⟨none, .unreadable " fe80::1%wlan0".toList (by decide) parse_zoned, none⟩,
    ⟨none, .server "\tFE80::1".toList (by decide) (.v6 0xfe800000000000000000000000000001)
      parse_capitals, none⟩,
    ⟨none, .search "\tlan\tcorp.example".toList (by decide), none⟩]

theorem read_resolver_printed_sample :
    readResolverState (fun path =>
      if path = "/etc/resolv.conf" then
        some ("# kept by hand\r\n nameserver1.1.1.1\r\nnameserver fe80::1%wlan0\n".toList ++
          "nameserver\tFE80::1\nsearch\tlan\tcorp.example".toList)
      else none) =
      { resolvConfServers := [fromIp (.v4 0x01010101),
          fromIp (.v6 0xfe800000000000000000000000000001)]
        resolvConfDomains := ["lan".toList, "corp.example".toList]
        resolvConfPresent := true
        resolvConfNote := "" } := by
  have hread := read_resolver_printed.2 (fun path =>
    if path = "/etc/resolv.conf" then some (printResolv sampleResolv) else none) sampleResolv
    (if_pos rfl)
  exact hread

end Netdiag.Collect
