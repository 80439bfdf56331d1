import Mathlib.Data.List.Basic
import Mathlib.Tactic.Common
import Netdiag.Lib.Words

namespace Netdiag.Collect

/-!
# Collect — `iptables-save -c`

`parse_iptables_save` and `parse_counter` of `daemon/src/collect/firewall.rs`, and what
`iptables-save -c` prints.

* `parseLine`, `parseIptablesSave` — the loop over the lines; its state is the chains so far and
  the name of the table.
* `SavedChain`, `SavedRule`, `SavedTable`, `Dump` — what is printed, and `Dump.print`.
* `modifyLast_eq_map`, `foldl_rules` — where the search back through the chains ends.
* `parseIptablesSave_print` — a printed dump, read back.
-/

open Text

/-! ### The parser -/

/-- `proto::FirewallChain`. -/
structure FirewallChain where
  table : List Char
  name : List Char
  policy : List Char
  packets : Nat
  bytes : Nat
  rules : List (List Char)
  deriving DecidableEq, Repr

/-- The largest `u64`. -/
def u64Max : Nat := 2 ^ 64 - 1

/-- `parse_counter`. -/
def parseCounter (token : List Char) : Option (Nat × Nat) :=
  match splitOnce ':' (trimEndMatches ']' (trimStartMatches '[' token)) with
  | none => none
  | some (p, b) =>
    match parseUnsigned u64Max p, parseUnsigned u64Max b with
    | some p, some b => some (p, b)
    | _, _ => none

/-- `iter_mut().rev().find(..)`, and what is done to the element that is found. -/
def modifyLast {α : Type} (p : α → Bool) (f : α → α) : List α → List α
  | [] => []
  | a :: l => if l.any p then a :: modifyLast p f l else if p a then f a :: l else a :: l

/-- The variables of the loop: `chains` and `table`. -/
structure Parsed where
  chains : List FirewallChain
  table : List Char
  deriving DecidableEq, Repr

/-- `"-A "`. -/
def appendFlag : List Char := ['-', 'A', ' ']

/-- A line with `:`, without it. -/
def declareChain (s : Parsed) (rest : List Char) : Parsed :=
  match splitWhitespace rest with
  | name :: policy :: parts =>
    let (packets, bytes) := (parts.head?.bind parseCounter).getD (0, 0)
    { s with chains := s.chains ++ [⟨s.table, name, policy, packets, bytes, []⟩] }
  | _ => s

/-- `rule_body`: the rule without the counters in front of it. -/
def ruleBody (line : List Char) : List Char :=
  match (line.dropPrefix? ['[']).bind (splitOnce ']') with
  | some (_, r) => trim r
  | none => line

/-- A line with a rule. -/
def attachRule (s : Parsed) (line : List Char) : Parsed :=
  let body := ruleBody line
  match (body.dropPrefix? appendFlag).bind (fun r => (splitWhitespace r).head?) with
  | none => s
  | some chainName =>
    { s with
      -- The chain of this name in this table; tables may share names.
      chains := modifyLast (fun c => c.name == chainName && c.table == s.table)
        (fun c => { c with rules := c.rules ++ [body] }) s.chains }

/-- The body of the loop. -/
def parseLine (s : Parsed) (line : List Char) : Parsed :=
  let line := trim line
  match line.dropPrefix? ['*'] with
  -- The table that the lines below belong to.
  | some name => { s with table := name }
  | none =>
    match line.dropPrefix? [':'] with
    | some rest => declareChain s rest
    | none =>
      if (line.dropPrefix? appendFlag).isSome || (line.dropPrefix? ['[']).isSome then
        -- With `-c` a rule starts with its counters.
        attachRule s line
      else s

/-- `parse_iptables_save`. -/
def parseIptablesSave (text : List Char) : List FirewallChain :=
  ((lines text).foldl parseLine ⟨[], []⟩).chains

/-! ### What is printed -/

/-- `[packets:bytes]`. -/
def counters (packets bytes : UInt64) : List Char :=
  '[' :: (Nat.toDigits 10 packets.toNat ++ ':' :: (Nat.toDigits 10 bytes.toNat ++ [']']))

/-- A chain and its policy. -/
structure SavedChain where
  name : Word
  policy : Word
  packets : UInt64
  bytes : UInt64

/-- A rule: its chain, and what stands after that. -/
structure SavedRule where
  packets : UInt64
  bytes : UInt64
  chain : Word
  text : Phrase

/-- A table: its chains, whose names are distinct, and its rules, in any order; comments around
    them. -/
structure SavedTable where
  generated : List Phrase
  name : Phrase
  chains : List SavedChain
  rules : List SavedRule
  completed : List Phrase
  distinct : (chains.map (fun c => c.name.text)).Nodup

/-- All tables, whose names are distinct. -/
structure Dump where
  tables : List SavedTable
  distinct : (tables.map (fun t => t.name.text)).Nodup

def SavedChain.line (c : SavedChain) : List Char :=
  ':' :: (c.name.text ++ ' ' :: (c.policy.text ++ ' ' :: counters c.packets c.bytes))

/-- What follows the chain of a rule. -/
def SavedRule.tail (r : SavedRule) : List Char :=
  if r.text.text.isEmpty then [] else ' ' :: r.text.text

/-- A rule without its counters. -/
def SavedRule.body (r : SavedRule) : List Char := appendFlag ++ (r.chain.text ++ r.tail)

def SavedRule.line (r : SavedRule) : List Char := counters r.packets r.bytes ++ ' ' :: r.body

/-- `# ..` -/
def comment (p : Phrase) : List Char := '#' :: p.text

/-- `COMMIT`. -/
def commit : List Char := ['C', 'O', 'M', 'M', 'I', 'T']

def SavedTable.lines (t : SavedTable) : List (List Char) :=
  t.generated.map comment ++ ('*' :: t.name.text) :: (t.chains.map SavedChain.line ++
    (t.rules.map SavedRule.line ++ commit :: t.completed.map comment))

/-- The output of `iptables-save -c`. -/
def Dump.print (d : Dump) : List Char := (d.tables.flatMap SavedTable.lines).flatMap (· ++ ['\n'])

/-- A chain of a table, with the rules of the table that name it, in their order. -/
def SavedTable.firewallChain (t : SavedTable) (c : SavedChain) : FirewallChain :=
  { table := t.name.text
    name := c.name.text
    policy := c.policy.text
    packets := c.packets.toNat
    bytes := c.bytes.toNat
    rules := (t.rules.filter (fun r => r.chain.text == c.name.text)).map SavedRule.body }

/-- What a table holds. -/
def SavedTable.firewallChains (t : SavedTable) : List FirewallChain :=
  t.chains.map t.firewallChain

/-! ### One line -/

/-- Every counter of the kernel is read back from its digits. -/
theorem parseUnsigned_u64 (n : UInt64) :
    parseUnsigned u64Max (Nat.toDigits 10 n.toNat) = some n.toNat := by
  have le : n.toNat ≤ u64Max := Nat.le_sub_one_of_lt n.toNat_lt
  exact parseUnsigned_toDigits le

/-- The closing bracket is the first one. -/
theorem bracket_not_mem (p b : Nat) : ']' ∉ Nat.toDigits 10 p ++ ':' :: Nat.toDigits 10 b := by
  rw [List.mem_append, List.mem_cons, not_or, not_or]
  exact ⟨not_mem_toDigits (by decide), by decide, not_mem_toDigits (by decide)⟩

/-- The bracketed pair is read back. -/
theorem parseCounter_counters (packets bytes : UInt64) :
    parseCounter (counters packets bytes) = some (packets.toNat, bytes.toNat) := by
  let p := Nat.toDigits 10 packets.toNat
  let b := Nat.toDigits 10 bytes.toNat
  have start : trimStartMatches '[' (counters packets bytes) = (p ++ ':' :: b) ++ [']'] := by
    show trimStartMatches '[' ('[' :: (p ++ ':' :: (b ++ [']']))) = _
    rw [trimStartMatches_cons_self,
      trimStartMatches_append _ Nat.toDigits_ne_nil (not_mem_toDigits (by decide)),
      List.append_assoc, List.cons_append]
  have close : ']' ∉ p ++ ':' :: b := bracket_not_mem _ _
  have colon : ':' ∉ p := not_mem_toDigits (by decide)
  rw [parseCounter, start, trimEndMatches_concat_self, trimEndMatches_of_not_mem close,
    splitOnce_append_cons b colon]
  show (match parseUnsigned u64Max p, parseUnsigned u64Max b with
    | some p, some b => some (p, b)
    | _, _ => none) = _
  rw [parseUnsigned_u64, parseUnsigned_u64]

/-- Counters hold no blank. -/
theorem solid_counters (packets bytes : UInt64) :
    ∀ c ∈ counters packets bytes, isWhitespace c = false := by
  intro c hc
  rw [counters, List.mem_cons, List.mem_append, List.mem_cons, List.mem_append,
    List.mem_singleton] at hc
  rcases hc with rfl | digit | rfl | digit | rfl
  · decide
  · exact isWhitespace_of_isDigit (toDigits_isDigit digit)
  · decide
  · exact isWhitespace_of_isDigit (toDigits_isDigit digit)
  · decide

/-- Counters as a word of a line. -/
def countersWord (packets bytes : UInt64) : Word :=
  ⟨counters packets bytes, List.cons_ne_nil _ _, solid_counters packets bytes⟩

/-- A comment changes nothing. -/
theorem parseLine_comment (s : Parsed) (p : Phrase) : parseLine s (comment p) = s := by
  unfold parseLine comment
  rw [trim_cons _ (by decide)]
  rfl

/-- The end of a table changes nothing. -/
theorem parseLine_commit (s : Parsed) : parseLine s commit = s := rfl

/-- The name of a table is what the following chains and rules belong to. -/
theorem parseLine_table (s : Parsed) (name : Phrase) :
    parseLine s ('*' :: name.text) = { s with table := name.text } := by
  have star : ('*' :: name.text).dropPrefix? ['*'] = some name.text :=
    dropPrefix?_append ['*'] name.text
  unfold parseLine
  rw [trim_eq_self (by decide) name.last]
  show (match ('*' :: name.text).dropPrefix? ['*'] with
    | some name => { s with table := name }
    | none => _) = _
  rw [star]

/-- A chain as it is declared in a table. -/
def SavedChain.declared (table : List Char) (c : SavedChain) : FirewallChain :=
  ⟨table, c.name.text, c.policy.text, c.packets.toNat, c.bytes.toNat, []⟩

/-- A chain is declared under the current table, with no rules yet. -/
theorem parseLine_chain (s : Parsed) (c : SavedChain) :
    parseLine s c.line = { s with chains := s.chains ++ [c.declared s.table] } := by
  let word := countersWord c.packets c.bytes
  let rest := c.name.text ++ ' ' :: (c.policy.text ++ ' ' :: word.text)
  have last : SolidEnd rest := by
    have eq : rest = (c.name.text ++ ' ' :: (c.policy.text ++ [' '])) ++ word.text := by
      simp only [rest, List.append_assoc, List.cons_append, List.nil_append]
    rw [eq]
    exact SolidEnd.append_of_ne_nil _ word.ne_nil word.last
  -- A name, a policy and the counters in brackets.
  have words : splitWhitespace rest = [c.name.text, c.policy.text, word.text] := by
    rw [splitWhitespace_append_cons c.name _ (by decide),
      splitWhitespace_append_cons c.policy _ (by decide), splitWhitespace_word]
  have colon : (':' :: rest).dropPrefix? [':'] = some rest := dropPrefix?_append [':'] rest
  have line : parseLine s c.line = declareChain s rest := by
    show parseLine s (':' :: rest) = _
    unfold parseLine
    rw [trim_eq_self (by decide) last]
    show (match (':' :: rest).dropPrefix? [':'] with
      | some rest => declareChain s rest
      | none => _) = _
    rw [colon]
  have counter : parseCounter word.text = some (c.packets.toNat, c.bytes.toNat) :=
    parseCounter_counters c.packets c.bytes
  rw [line, declareChain, words]
  simp only [List.head?_cons, Option.bind_some, counter, Option.getD_some]
  rfl

/-- No blank ends what stands behind the flag. -/
theorem SavedRule.solidEnd_chain (r : SavedRule) : SolidEnd (r.chain.text ++ r.tail) := by
  unfold SavedRule.tail
  split
  · rw [List.append_nil]
    exact r.chain.last
  · rename_i ne
    rw [List.isEmpty_iff] at ne
    apply SolidEnd.append_of_ne_nil _ (List.cons_ne_nil _ _)
    exact SolidEnd.append_of_ne_nil [' '] ne r.text.last

/-- A rule is printed without blanks around it. -/
theorem SavedRule.trim_body (r : SavedRule) : trim r.body = r.body := by
  have ne : r.chain.text ++ r.tail ≠ [] := List.append_ne_nil_of_left_ne_nil r.chain.ne_nil _
  have last := SolidEnd.append_of_ne_nil ['A', ' '] ne r.solidEnd_chain
  show trim ('-' :: (['A', ' '] ++ (r.chain.text ++ r.tail))) = _
  rw [trim_eq_self (by decide) last]
  rfl

/-- The first word behind the flag is the chain. -/
theorem SavedRule.head?_words (r : SavedRule) :
    (splitWhitespace (r.chain.text ++ r.tail)).head? = some r.chain.text := by
  unfold SavedRule.tail
  split
  · rw [List.append_nil, splitWhitespace_word]
    rfl
  · rw [splitWhitespace_append_cons r.chain _ (by decide)]
    rfl

/-- The counters are cut off at their own bracket. -/
theorem ruleBody_line (r : SavedRule) : ruleBody r.line = r.body := by
  let p := Nat.toDigits 10 r.packets.toNat
  let b := Nat.toDigits 10 r.bytes.toNat
  have line : r.line = ['['] ++ ((p ++ ':' :: b) ++ ']' :: ' ' :: r.body) := by
    show '[' :: (p ++ ':' :: (b ++ [']'])) ++ ' ' :: r.body = _
    simp only [List.cons_append, List.append_assoc, List.nil_append]
  have close : ']' ∉ p ++ ':' :: b := bracket_not_mem _ _
  have trimmed : trim (' ' :: r.body) = r.body := by
    rw [trim_cons_of_blank _ (by decide), r.trim_body]
  rw [ruleBody, line, dropPrefix?_append, Option.bind_some, splitOnce_append_cons _ close]
  exact trimmed

/-- A rule is attached to the last chain of its table and name. -/
theorem parseLine_rule (s : Parsed) (r : SavedRule) :
    parseLine s r.line =
      { s with
        chains := modifyLast (fun c => c.name == r.chain.text && c.table == s.table)
          (fun c => { c with rules := c.rules ++ [r.body] }) s.chains } := by
  have ne : r.body ≠ [] := List.cons_ne_nil _ _
  -- Trimming the line takes nothing off the rule.
  have bodyEnd : SolidEnd r.body := by
    rw [SavedRule.body]
    apply SolidEnd.append_of_ne_nil _ _ r.solidEnd_chain
    exact List.append_ne_nil_of_left_ne_nil r.chain.ne_nil _
  have trimmed : trim r.line = r.line := by
    apply trim_eq_self (by decide)
    have last := SolidEnd.append_of_ne_nil [' '] ne bodyEnd
    exact SolidEnd.append_of_ne_nil _ (List.cons_ne_nil _ _) last
  have line : parseLine s r.line = attachRule s r.line := by
    have bracket := dropPrefix?_append ['['] (r.line.drop 1)
    unfold parseLine
    rw [trimmed]
    show (if ((r.line.dropPrefix? appendFlag).isSome ||
      ((['['] ++ r.line.drop 1).dropPrefix? ['[']).isSome) = true then _ else _) = _
    rw [bracket]
    rfl
  rw [line, attachRule, ruleBody_line, SavedRule.body, dropPrefix?_append, Option.bind_some,
    r.head?_words]

/-! ### The chain of a rule -/

/-- Where one element can be meant, it does not matter from which end it is looked for. -/
theorem modifyLast_eq_map {α : Type} {p : α → Bool} {f : α → α} {l : List α}
    (one : l.Pairwise (fun a b => p a = true → p b = false)) :
    modifyLast p f l = l.map (fun a => if p a then f a else a) := by
  induction l with
  | nil => rfl
  | cons a l ih =>
    rw [List.pairwise_cons] at one
    have tail := ih one.2
    rw [modifyLast, List.map_cons]
    split
    -- A later one: this one is not it, since only one qualifies.
    · rename_i later
      rw [List.any_eq_true] at later
      obtain ⟨b, hb, pb⟩ := later
      have pa : p a = false := by
        by_contra pa
        rw [Bool.not_eq_false] at pa
        have := one.1 b hb pa
        rw [pb] at this
        exact absurd this (by decide)
      rw [tail, pa]
      rfl
    -- None later: this is the last, and the others stay.
    · rename_i later
      have none : ∀ b ∈ l, p b = false := by
        intro b hb
        by_contra pb
        rw [Bool.not_eq_false] at pb
        exact later (List.any_eq_true.mpr ⟨b, hb, pb⟩)
      have rest : l.map (fun a => if p a then f a else a) = l.map (fun a => a) := by
        apply List.map_congr_left
        intro b hb
        rw [none b hb]
        rfl
      rw [rest, List.map_id']
      split <;> rfl

/-- The chains of one table have distinct names. -/
def OneEach (table : List Char) (chains : List FirewallChain) : Prop :=
  chains.Pairwise (fun a b => a.table = table → b.table = table → a.name ≠ b.name)

/-- A chain with those of the rules of a table that are its own. -/
def FirewallChain.addRules (table : List Char) (rules : List SavedRule) (c : FirewallChain) :
    FirewallChain :=
  if c.table = table then
    { c with
      rules := c.rules ++ (rules.filter (fun r => r.chain.text == c.name)).map SavedRule.body }
  else c

namespace FirewallChain

variable (table : List Char) (rules : List SavedRule) (c : FirewallChain)

/-- Rules do not move a chain to another table. -/
@[simp] theorem addRules_table : (c.addRules table rules).table = c.table := by
  unfold addRules
  split <;> rfl

/-- Rules do not rename a chain. -/
@[simp] theorem addRules_name : (c.addRules table rules).name = c.name := by
  unfold addRules
  split <;> rfl

/-- No rules change nothing. -/
theorem addRules_nil : c.addRules table [] = c := by
  unfold addRules
  split
  · rw [List.filter_nil, List.map_nil, List.append_nil]
  · rfl

/-- One rule, then the others. -/
theorem addRules_cons (r : SavedRule) :
    (c.addRules table [r]).addRules table rules = c.addRules table (r :: rules) := by
  by_cases h : c.table = table
  · simp [addRules, h, List.filter_cons]
    split <;> simp
  · simp [addRules, h]

/-- Rules of another table change nothing. -/
theorem addRules_of_ne (h : c.table ≠ table) : c.addRules table rules = c := if_neg h

end FirewallChain

/-- A rule goes to the chain of its name in the table of that moment. -/
theorem parseLine_rule_eq_map {s : Parsed} (r : SavedRule) (one : OneEach s.table s.chains) :
    parseLine s r.line = { s with chains := s.chains.map (fun c => c.addRules s.table [r]) } := by
  -- One chain of the name in the table, so the last is the only one.
  have pairs : s.chains.Pairwise (fun a b =>
      (a.name == r.chain.text && a.table == s.table) = true →
        (b.name == r.chain.text && b.table == s.table) = false) := by
    apply one.imp
    intro a b ne ha
    simp only [Bool.and_eq_true, beq_iff_eq] at ha
    rw [Bool.and_eq_false_iff, beq_eq_false_iff_ne, beq_eq_false_iff_ne]
    by_contra hb
    push Not at hb
    exact ne ha.2 hb.2 (ha.1.trans hb.1.symm)
  have each : ∀ c : FirewallChain,
      (if (c.name == r.chain.text && c.table == s.table) then
        { c with rules := c.rules ++ [r.body] } else c) = c.addRules s.table [r] := by
    intro c
    unfold FirewallChain.addRules
    by_cases table : c.table = s.table
    · by_cases name : r.chain.text = c.name
      · simp [table, name]
      · have other : ¬ c.name = r.chain.text := fun eq => name eq.symm
        simp [← table, name, other]
    · simp [table]
  rw [parseLine_rule, modifyLast_eq_map pairs]
  simp only [each]

/-- The rules of a table go to its chains, each to the chain of its name. -/
theorem foldl_rules (rules : List SavedRule) {s : Parsed} (one : OneEach s.table s.chains) :
    (rules.map SavedRule.line).foldl parseLine s =
      { s with chains := s.chains.map (fun c => c.addRules s.table rules) } := by
  induction rules generalizing s with
  | nil =>
    simp only [FirewallChain.addRules_nil, List.map_id']
    rfl
  | cons r rules ih =>
    have one' : OneEach s.table (s.chains.map (fun c => c.addRules s.table [r])) := by
      apply List.pairwise_map.mpr
      apply one.imp
      intro a b ne
      rw [FirewallChain.addRules_table, FirewallChain.addRules_table, FirewallChain.addRules_name,
        FirewallChain.addRules_name]
      exact ne
    rw [List.map_cons, List.foldl_cons, parseLine_rule_eq_map r one, ih one', List.map_map]
    simp only [Function.comp_def, FirewallChain.addRules_cons]

/-! ### Tables -/

/-- Comments change nothing. -/
theorem foldl_comments (comments : List Phrase) (s : Parsed) :
    (comments.map comment).foldl parseLine s = s := by
  induction comments with
  | nil => rfl
  | cons p comments ih => rw [List.map_cons, List.foldl_cons, parseLine_comment, ih]

/-- The chains of a table are declared one after the other. -/
theorem foldl_chains (chains : List SavedChain) (s : Parsed) :
    (chains.map SavedChain.line).foldl parseLine s =
      { s with chains := s.chains ++ chains.map (SavedChain.declared s.table) } := by
  induction chains generalizing s with
  | nil => rw [List.map_nil, List.map_nil, List.append_nil, List.foldl_nil]
  | cons c chains ih =>
    rw [List.map_cons, List.foldl_cons, parseLine_chain, ih, List.map_cons, List.append_assoc,
      List.singleton_append]

/-- A table is read after others with other names. -/
theorem foldl_table (t : SavedTable) {s : Parsed}
    (before : ∀ c ∈ s.chains, c.table ≠ t.name.text) :
    t.lines.foldl parseLine s = ⟨s.chains ++ t.firewallChains, t.name.text⟩ := by
  let declared := t.chains.map (SavedChain.declared t.name.text)
  have one : OneEach t.name.text (s.chains ++ declared) := by
    apply List.pairwise_append.mpr
    refine ⟨?_, ?_, ?_⟩
    · apply List.pairwise_of_forall_mem_list
      intro a ha b _ table
      exact absurd table (before a ha)
    · apply List.pairwise_map.mpr
      apply (List.pairwise_map.mp t.distinct).imp
      intro a b ne _ _
      exact ne
    · intro a ha b _ table
      exact absurd table (before a ha)
  -- The chains of the tables before are left alone.
  have kept : s.chains.map (fun c => c.addRules t.name.text t.rules) = s.chains.map id := by
    apply List.map_congr_left
    intro c hc
    exact c.addRules_of_ne _ _ (before c hc)
  have added : declared.map (fun c => c.addRules t.name.text t.rules) = t.firewallChains := by
    rw [List.map_map]
    apply List.map_congr_left
    intro c _
    exact if_pos rfl
  rw [SavedTable.lines, List.foldl_append, foldl_comments, List.foldl_cons, parseLine_table,
    List.foldl_append, foldl_chains, List.foldl_append, foldl_rules t.rules one, List.foldl_cons,
    parseLine_commit, foldl_comments, List.map_append, kept, List.map_id, added]

/-- The tables are read one after the other; none touches what an earlier one left. -/
theorem foldl_tables (tables : List SavedTable)
    (distinct : (tables.map (fun t => t.name.text)).Nodup) {s : Parsed}
    (before : ∀ c ∈ s.chains, c.table ∉ tables.map (fun t => t.name.text)) :
    ((tables.flatMap SavedTable.lines).foldl parseLine s).chains =
      s.chains ++ tables.flatMap SavedTable.firewallChains := by
  induction tables generalizing s with
  | nil => exact (List.append_nil _).symm
  | cons t tables ih =>
    rw [List.map_cons, List.nodup_cons] at distinct
    simp only [List.map_cons, List.mem_cons, not_or] at before
    have first := foldl_table t (fun c hc => (before c hc).1)
    have after : ∀ c ∈ s.chains ++ t.firewallChains,
        c.table ∉ tables.map (fun t => t.name.text) := by
      intro c hc
      rcases List.mem_append.mp hc with old | new
      · exact (before c old).2
      · obtain ⟨d, -, rfl⟩ := List.mem_map.mp new
        exact distinct.1
    rw [List.flatMap_cons, List.foldl_append, first, ih distinct.2 after, List.flatMap_cons,
      List.append_assoc]

/-! ### The whole dump -/

/-- A character that is no line break before a text of one line. -/
theorem single_cons {c : Char} {text : List Char} (ne : '\n' ≠ c) (h : '\n' ∉ text) :
    '\n' ∉ c :: text := List.not_mem_cons_of_ne_of_not_mem ne h

/-- Two texts of one line, one after the other. -/
theorem single_append {a b : List Char} (ha : '\n' ∉ a) (hb : '\n' ∉ b) : '\n' ∉ a ++ b := by
  rw [List.mem_append, not_or]
  exact ⟨ha, hb⟩

/-- A chain is printed on one line. -/
theorem SavedChain.single_line (c : SavedChain) : '\n' ∉ c.line := by
  have counted := (countersWord c.packets c.bytes).single
  apply single_cons (by decide)
  apply single_append c.name.single
  apply single_cons (by decide)
  apply single_append c.policy.single
  exact single_cons (by decide) counted

/-- A rule is printed on one line. -/
theorem SavedRule.single_line (r : SavedRule) : '\n' ∉ r.line := by
  have counted := (countersWord r.packets r.bytes).single
  have tail : '\n' ∉ r.tail := by
    unfold SavedRule.tail
    split
    · exact List.not_mem_nil
    · exact single_cons (by decide) r.text.single
  apply single_append counted
  apply single_cons (by decide)
  apply single_append (by decide)
  exact single_append r.chain.single tail

/-- The lines of a table are lines. -/
theorem SavedTable.single_lines (t : SavedTable) : ∀ l ∈ t.lines, '\n' ∉ l := by
  have comments : ∀ ps : List Phrase, ∀ l ∈ ps.map comment, '\n' ∉ l := by
    intro ps l hl
    obtain ⟨p, -, rfl⟩ := List.mem_map.mp hl
    exact single_cons (by decide) p.single
  intro l hl
  simp only [SavedTable.lines, List.mem_append, List.mem_cons] at hl
  rcases hl with generated | rfl | chain | rule | rfl | completed
  · exact comments _ l generated
  · exact single_cons (by decide) t.name.single
  · obtain ⟨c, -, rfl⟩ := List.mem_map.mp chain
    exact c.single_line
  · obtain ⟨r, -, rfl⟩ := List.mem_map.mp rule
    exact r.single_line
  · decide
  · exact comments _ l completed

/-- What the loop does with a line does not depend on a carriage return at its end. -/
theorem foldl_stripCr (ls : List (List Char)) (s : Parsed) :
    (ls.map stripCr).foldl parseLine s = ls.foldl parseLine s := by
  have each : ∀ s line, parseLine s (stripCr line) = parseLine s line := by
    intro s line
    unfold parseLine
    rw [trim_stripCr]
  rw [List.foldl_map]
  simp only [each]

/-- A printed dump is read back: every chain in its place, with its policy and counters, and every
    rule, in order, at the chain of its name in its own table. -/
theorem parseIptablesSave_print (d : Dump) :
    parseIptablesSave d.print = d.tables.flatMap SavedTable.firewallChains := by
  have single : ∀ l ∈ d.tables.flatMap SavedTable.lines, '\n' ∉ l := by
    intro l hl
    obtain ⟨t, -, ht⟩ := List.mem_flatMap.mp hl
    exact t.single_lines l ht
  rw [parseIptablesSave, Dump.print, lines_flatMap_stripCr _ single, foldl_stripCr,
    foldl_tables d.tables d.distinct (s := ⟨[], []⟩) (by simp), List.nil_append]

/-- The name of the chain that two tables have. -/
def outputChain : SavedChain where
  name := ⟨"OUTPUT".toList, by simp, solid_of_all (by decide)⟩
  policy := ⟨"ACCEPT".toList, by simp, solid_of_all (by decide)⟩
  packets := 3
  bytes := 120

/-- Two tables with a chain of one name, each with a rule for it. -/
def twoTables : Dump where
  tables :=
    [{ generated := []
       name := ⟨"nat".toList, by decide, by simp [SolidEnd, isWhitespace]⟩
       chains := [outputChain]
       rules :=
         [⟨1, 60, outputChain.name,
           ⟨"-o lo -j RETURN".toList, by decide, by simp [SolidEnd, isWhitespace]⟩⟩]
       completed := []
       distinct := by decide },
      { generated := []
        name := ⟨"filter".toList, by decide, by simp [SolidEnd, isWhitespace]⟩
        chains := [outputChain]
        rules :=
          [⟨0, 0, outputChain.name,
            ⟨"-j bw_OUTPUT".toList, by decide, by simp [SolidEnd, isWhitespace]⟩⟩]
        completed := []
        distinct := by decide }]
  distinct := by decide

example : String.ofList twoTables.print =
    "*nat\n:OUTPUT ACCEPT [3:120]\n[1:60] -A OUTPUT -o lo -j RETURN\nCOMMIT\n" ++
      "*filter\n:OUTPUT ACCEPT [3:120]\n[0:0] -A OUTPUT -j bw_OUTPUT\nCOMMIT\n" := by
  decide +kernel

example : (twoTables.tables.flatMap SavedTable.firewallChains).map
    (fun c => (String.ofList c.table, c.rules.map String.ofList)) =
      [("nat", ["-A OUTPUT -o lo -j RETURN"]), ("filter", ["-A OUTPUT -j bw_OUTPUT"])] := by
  decide +kernel

end Netdiag.Collect
