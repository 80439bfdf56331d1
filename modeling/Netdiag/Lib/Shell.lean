import Mathlib.Data.List.Basic
import Mathlib.Tactic.Common

namespace Shell

/-!
# A simple command of the POSIX shell

How `sh` reads a line of one simple command: words, single quotes, backslashes, redirections of
output, and `&` at the end.  A line with anything else the shell gives a meaning to (expansions,
double quotes, pipes, lists, globs, comments) is read as `none`.

* `Lexer`, `parse`, `command` — the tokens of a line, read a character at a time, and the command
  they make.
* `run_escapeQuotes` — any text comes back from between single quotes, if every quote in it was
  written as `'\''`.
* `run_words`, `parse_words` — words that were written one after the other come back.
-/

/-! ### Reading a line -/

inductive Token
  | word (text : List Char)
  /-- Digits right before a redirection. -/
  | ioNumber (text : List Char)
  | great
  | greatAnd
  | ampersand
  deriving DecidableEq, Repr

/-- A word that is being read. -/
structure Part where
  text : List Char := []
  /-- Some of it was quoted. -/
  quoted : Bool := false
  deriving DecidableEq, Repr

def Part.push (p : Part) (c : Char) : Part := { p with text := p.text ++ [c] }

/-- Unquoted characters that are not read here. -/
def isSpecial (c : Char) : Bool :=
  c ∈ ['\x22', '$', '\x60', '|', ';', '<', '(', ')', '*', '?', '[', ']', '#', '~', '!', '\x7b',
    '\x7d', '\n']

def isBlank (c : Char) : Bool := c == ' ' || c == '\t'

/-- An unquoted character that stands for itself. -/
def isPlain (c : Char) : Bool :=
  !isSpecial c && !isBlank c && c != '\'' && c != '\\' && c != '>' && c != '&'

/-- What the next character belongs to. -/
inductive Mode
  | bare
  | quotes
  /-- After a backslash. -/
  | escape
  /-- After `>`. -/
  | great
  /-- After `&`. -/
  | ampersand
  deriving DecidableEq, Repr

/-- The reader of a line: the word it is in, and the tokens so far. -/
structure Lexer where
  mode : Mode := .bare
  part : Option Part := none
  tokens : List Token := []
  deriving DecidableEq, Repr

namespace Lexer

/-- The word that ends here, if one was begun. -/
def finished (s : Lexer) : List Token :=
  match s.part with
  | none => s.tokens
  | some p => s.tokens ++ [.word p.text]

/-- The word that ends at a redirection. -/
def beforeGreat (s : Lexer) : List Token :=
  match s.part with
  | none => s.tokens
  | some p =>
    if !p.quoted && p.text.all Char.isDigit then s.tokens ++ [.ioNumber p.text] else s.finished

def push (s : Lexer) (c : Char) : Lexer := { s with part := some ((s.part.getD {}).push c) }

/-- An unquoted character. -/
def bare (s : Lexer) (c : Char) : Option Lexer :=
  if c = '\'' then some { s with mode := .quotes, part := some { s.part.getD {} with quoted := true } }
  else if c = '\\' then some { s with mode := .escape }
  else if isBlank c then some { tokens := s.finished }
  -- Digits right before it are the descriptor.
  else if c = '>' then some { mode := .great, tokens := s.beforeGreat }
  else if c = '&' then some { mode := .ampersand, tokens := s.finished }
  else if isSpecial c then none
  else some (s.push c)

def step (s : Lexer) (c : Char) : Option Lexer :=
  match s.mode with
  | .bare => s.bare c
  | .quotes => if c = '\'' then some { s with mode := .bare } else some (s.push c)
  -- An escaped line break joins two lines.
  | .escape =>
    if c = '\n' then some { s with mode := .bare }
    else some { s with mode := .bare, part := some { (s.part.getD {}).push c with quoted := true } }
  -- `>` waits for the character behind it, and so does `&`.
  | .great =>
    if c = '&' then some { tokens := s.tokens ++ [.greatAnd] }
    else if c = '>' then none
    else bare { tokens := s.tokens ++ [.great] } c
  | .ampersand => if c = '&' then none else bare { tokens := s.tokens ++ [.ampersand] } c

def run (s : Lexer) (text : List Char) : Option Lexer := text.foldlM step s

/-- The tokens of a line that ends here. -/
def finish (s : Lexer) : Option (List Token) :=
  match s.mode with
  | .bare => some s.finished
  -- The line goes on.
  | .quotes | .escape => none
  | .great => some (s.tokens ++ [.great])
  | .ampersand => some (s.tokens ++ [.ampersand])

/-- Nothing to read leaves the lexer as it is. -/
theorem run_nil (s : Lexer) : s.run [] = some s := rfl

/-- One character, then the rest. -/
theorem run_cons (s : Lexer) (c : Char) (text : List Char) :
    s.run (c :: text) = (s.step c).bind (fun s => s.run text) := rfl

/-- A text is read as its two halves, one after the other. -/
theorem run_append (s : Lexer) (a b : List Char) :
    s.run (a ++ b) = (s.run a).bind (fun s => s.run b) := List.foldlM_append

end Lexer

/-- The tokens of a line. -/
def lex (line : List Char) : Option (List Token) := (Lexer.run {} line).bind Lexer.finish

structure Redirect where
  fd : List Char
  /-- `>&`: the target is a descriptor. -/
  duplicate : Bool
  target : List Char
  deriving DecidableEq, Repr

structure Command where
  argv : List (List Char) := []
  redirects : List Redirect := []
  background : Bool := false
  deriving DecidableEq, Repr

def Command.redirect (r : Redirect) (c : Command) : Command :=
  { c with redirects := r :: c.redirects }

def parse : List Token → Option Command
  | [] => some {}
  | [.ampersand] => some { background := true }
  | .word w :: rest => (parse rest).map (fun c => { c with argv := w :: c.argv })
  | .great :: .word w :: rest => (parse rest).map (Command.redirect ⟨['1'], false, w⟩)
  | .greatAnd :: .word w :: rest => (parse rest).map (Command.redirect ⟨['1'], true, w⟩)
  | .ioNumber n :: .great :: .word w :: rest => (parse rest).map (Command.redirect ⟨n, false, w⟩)
  | .ioNumber n :: .greatAnd :: .word w :: rest => (parse rest).map (Command.redirect ⟨n, true, w⟩)
  | _ => none

/-- The first word is neither an assignment nor a reserved word. -/
def Command.isSimple (c : Command) : Bool :=
  match c.argv with
  | [] => false
  | name :: _ => !name.contains '=' && !(["case", "do", "done", "elif", "else", "esac", "fi", "for",
      "if", "in", "then", "until", "while"].contains (String.ofList name))

/-- The simple command on a line. -/
def command (line : List Char) : Option Command :=
  ((lex line).bind parse).filter Command.isSimple

/-! ### Writing a line -/

/-- `text.replace("'", "'\\''")`: what stands for a text between single quotes. -/
def escapeQuotes (text : List Char) : List Char :=
  text.flatMap (fun c => if c = '\'' then ['\'', '\\', '\'', '\''] else [c])

namespace Lexer

/-- Between quotes. -/
theorem run_escapeQuotes (text word : List Char) (tokens : List Token) :
    run ⟨.quotes, some ⟨word, true⟩, tokens⟩ (escapeQuotes text) =
      some ⟨.quotes, some ⟨word ++ text, true⟩, tokens⟩ := by
  induction text generalizing word with
  | nil => simp [escapeQuotes, run_nil]
  | cons c cs ih =>
    have more := ih (word ++ [c])
    rw [List.append_assoc, List.singleton_append] at more
    rw [escapeQuotes, List.flatMap_cons, ← escapeQuotes, run_append]
    split_ifs with quote
    · -- the quotes are closed, the quote is escaped, and they are opened again
      subst quote
      have reopened : run ⟨.quotes, some ⟨word, true⟩, tokens⟩ ['\'', '\\', '\'', '\''] =
          some ⟨.quotes, some ⟨word ++ ['\''], true⟩, tokens⟩ := rfl
      rw [reopened]
      exact more
    · have pushed : run ⟨.quotes, some ⟨word, true⟩, tokens⟩ [c] =
          some ⟨.quotes, some ⟨word ++ [c], true⟩, tokens⟩ := by
        simp [run_cons, run_nil, step, quote, push, Part.push]
      rw [pushed]
      exact more

/-- A plain character joins the word that is being read. -/
theorem step_plain {c : Char} (plain : isPlain c = true) (p : Option Part) (tokens : List Token) :
    step ⟨.bare, p, tokens⟩ c = some ⟨.bare, some ((p.getD {}).push c), tokens⟩ := by
  simp only [isPlain, Bool.and_eq_true, Bool.not_eq_true', bne_iff_ne, ne_eq] at plain
  -- None of the characters that `bare` acts on.
  obtain ⟨⟨⟨⟨⟨special, blank⟩, quote⟩, backslash⟩, great⟩, ampersand⟩ := plain
  simp [step, bare, quote, backslash, blank, great, ampersand, special, push]

/-- Plain characters go into the word as they are. -/
theorem run_plain {text : List Char} (plain : ∀ c ∈ text, isPlain c = true) (word : List Char)
    (tokens : List Token) : run ⟨.bare, some ⟨word, false⟩, tokens⟩ text =
      some ⟨.bare, some ⟨word ++ text, false⟩, tokens⟩ := by
  induction text generalizing word with
  | nil => simp [run_nil]
  | cons c cs ih =>
    -- The word grows by the first character.
    have more := ih (fun d hd => plain d (List.mem_cons_of_mem c hd)) (word ++ [c])
    rw [List.append_assoc, List.singleton_append] at more
    rw [run_cons, step_plain (plain c List.mem_cons_self)]
    exact more

end Lexer

/-- A word as it is written on a line. -/
inductive Written
  | bare (text : List Char)
  | quoted (text : List Char)
  deriving DecidableEq, Repr

namespace Written

def text : Written → List Char
  | .bare text | .quoted text => text

def print : Written → List Char
  | .bare text => text
  | .quoted text => '\'' :: escapeQuotes text ++ ['\'']

/-- A bare word is not empty and has plain characters only. -/
def Readable : Written → Prop
  | .bare text => text ≠ [] ∧ ∀ c ∈ text, isPlain c = true
  | .quoted _ => True

instance : DecidablePred Readable
  | .bare text =>
    decidable_of_iff (text ≠ [] ∧ text.all isPlain = true)
      (and_congr_right fun _ => List.all_eq_true)
  | .quoted _ => inferInstanceAs (Decidable True)

end Written

/-- A word and the blank behind it. -/
theorem Lexer.run_written {w : Written} (readable : w.Readable) (tokens : List Token) :
    run { tokens } (w.print ++ [' ']) = some { tokens := tokens ++ [.word w.text] } := by
  cases w with
  -- The first character begins the word, and the blank ends it.
  | bare text =>
    obtain ⟨ne, plain⟩ := readable
    obtain ⟨c, cs, rfl⟩ := List.exists_cons_of_ne_nil ne
    have rest := run_plain (fun d hd => plain d (List.mem_cons_of_mem c hd)) [c] tokens
    show run ⟨.bare, none, tokens⟩ ((c :: cs) ++ [' ']) = _
    rw [run_append, run_cons, step_plain (plain c List.mem_cons_self)]
    show ((run ⟨.bare, some ⟨[c], false⟩, tokens⟩ cs).bind fun s => s.run [' ']) = _
    rw [rest]
    rfl
  -- The quotes begin a word even if nothing stands between them.
  | quoted text =>
    have inside := run_escapeQuotes text [] tokens
    show run ⟨.bare, none, tokens⟩ ('\'' :: ((escapeQuotes text ++ ['\'']) ++ [' '])) = _
    rw [List.append_assoc, run_cons]
    show run ⟨.quotes, some ⟨[], true⟩, tokens⟩ (escapeQuotes text ++ ['\'', ' ']) = _
    rw [run_append, inside]
    rfl

/-- Words with a blank behind each are read back. -/
theorem Lexer.run_words (ws : List Written) (readable : ∀ w ∈ ws, w.Readable)
    (tokens : List Token) : run { tokens } (ws.flatMap (fun w => w.print ++ [' '])) =
      some { tokens := tokens ++ ws.map (fun w => .word w.text) } := by
  induction ws generalizing tokens with
  | nil => simp [run_nil]
  | cons w ws ih =>
    -- The first word joins the tokens so far.
    have more := ih (fun v hv => readable v (List.mem_cons_of_mem w hv))
      (tokens ++ [.word w.text])
    rw [List.append_assoc, List.singleton_append] at more
    rw [List.flatMap_cons, run_append, run_written (readable w List.mem_cons_self)]
    exact more

/-- Words become the arguments of the command that follows them. -/
theorem parse_words (ws : List (List Char)) (rest : List Token) :
    parse (ws.map .word ++ rest) =
      (parse rest).map (fun c => { c with argv := ws ++ c.argv }) := by
  induction ws with
  | nil => simp
  | cons w ws ih =>
    rw [List.map_cons, List.cons_append, parse, ih, Option.map_map]
    rfl

example : command "nohup 'it'\\''s' -x >/dev/null 2>&1 &".toList = some
    { argv := ["nohup".toList, "it's".toList, "-x".toList]
      redirects := [⟨['1'], false, "/dev/null".toList⟩, ⟨['2'], true, ['1']⟩]
      background := true } := by decide +kernel

end Shell
