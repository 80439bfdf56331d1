import Mathlib.Data.List.Basic
import Mathlib.Tactic.Common
import Netdiag.Lib.Text

namespace Text

/-!
# Words of a line

What `str` reads off a line of words, and what comes back from words that were written on one.

* `splitWhitespace`, `splitOnce`, `trimStartMatches` — `str::split_whitespace`, `str::split_once`
  and `str::trim_start_matches`; `str::strip_prefix` is `List.dropPrefix?`.
* `Word` — text that is one word; `Phrase` — text on one line that no blank ends.
* `splitWhitespace_append_cons`, `splitOnce_append_cons` — the first piece, read back.
* `trim_eq_self`, `trim_cons`, `trim_stripCr` — what `trim` keeps of a line.
* `foldl_lines_trim` — a text that was trimmed before it is read line by line is read like all
  its lines.
-/

/-- `str::split_whitespace`. -/
def splitWhitespace (text : List Char) : List (List Char) :=
  (text.splitOnP isWhitespace).filter (!·.isEmpty)

/-- `str::split_once`. -/
def splitOnce (x : Char) (text : List Char) : Option (List Char × List Char) :=
  match text.span (· != x) with
  | (_, []) => none
  | (before, _ :: after) => some (before, after)

/-- `str::trim_start_matches` for one character. -/
def trimStartMatches (x : Char) (text : List Char) : List Char := text.dropWhile (· == x)

/-- No blank ends the text. -/
def SolidEnd (text : List Char) : Prop := ∀ c ∈ text.getLast?, isWhitespace c = false

/-- At least one character, and no blank. -/
structure Word where
  text : List Char
  ne_nil : text ≠ []
  solid : ∀ c ∈ text, isWhitespace c = false

/-- Text on one line that no blank ends; it may be empty. -/
structure Phrase where
  text : List Char
  single : '\n' ∉ text
  last : SolidEnd text

namespace Word

/-- A word has no line break in it. -/
theorem single (w : Word) : '\n' ∉ w.text := by
  intro mem
  have := w.solid _ mem
  exact absurd this (by decide)

/-- A word is not empty. -/
theorem isEmpty (w : Word) : w.text.isEmpty = false := List.isEmpty_eq_false_iff.mpr w.ne_nil

/-- A word does not end in a blank. -/
theorem last (w : Word) : SolidEnd w.text := by
  intro c hc
  exact w.solid c (List.mem_of_getLast? hc)

end Word

/-- Two texts that no blank ends, one after the other. -/
theorem SolidEnd.append {a b : List Char} (ha : SolidEnd a) (hb : SolidEnd b) :
    SolidEnd (a ++ b) := by
  intro c hc
  rw [List.getLast?_append, Option.mem_def, Option.or_eq_some_iff] at hc
  rcases hc with inB | ⟨-, inA⟩
  · exact hb c inB
  · exact ha c inA

/-- A solid character before a text that no blank ends. -/
theorem SolidEnd.cons {c : Char} {text : List Char} (solid : isWhitespace c = false)
    (h : SolidEnd text) : SolidEnd (c :: text) := by
  have single : SolidEnd [c] := by
    intro d hd
    rw [List.getLast?_singleton, Option.mem_def, Option.some.injEq] at hd
    exact hd ▸ solid
  exact single.append h

/-- What stands before a text that is not empty does not matter. -/
theorem SolidEnd.append_of_ne_nil (a : List Char) {b : List Char} (ne : b ≠ [])
    (h : SolidEnd b) : SolidEnd (a ++ b) := by
  intro c hc
  rw [List.getLast?_append_of_ne_nil a ne] at hc
  exact h c hc

/-- A digit is no blank. -/
theorem isWhitespace_of_isDigit {c : Char} (digit : c.isDigit = true) : isWhitespace c = false := by
  have range : 48 ≤ c.toNat ∧ c.toNat ≤ 57 := by
    simpa [Char.isDigit, UInt32.le_iff_toNat_le] using digit
  simp only [isWhitespace, Bool.or_eq_false_iff, Bool.and_eq_false_iff, decide_eq_false_iff_not,
    beq_eq_false_iff_ne]
  omega

/-- A text without blanks, from a test that can be run. -/
theorem solid_of_all {text : List Char} (h : text.all (fun c => !isWhitespace c) = true) :
    ∀ c ∈ text, isWhitespace c = false := by
  intro c hc
  have hall := List.all_eq_true.mp h c hc
  simpa using hall

/-! ### Pieces -/

/-- A word ends at the first blank, and the rest is split as it is. -/
theorem splitWhitespace_append_cons (w : Word) {c : Char} (rest : List Char)
    (blank : isWhitespace c = true) :
    splitWhitespace (w.text ++ c :: rest) = w.text :: splitWhitespace rest := by
  have split := List.splitOnP_append_cons_of_forall_mem w.solid c blank rest
  rw [splitWhitespace, split, List.filter_cons, w.isEmpty]
  rfl

/-- A word alone is not split. -/
theorem splitWhitespace_word (w : Word) : splitWhitespace w.text = [w.text] := by
  rw [splitWhitespace, List.splitOnP_eq_singleton w.solid, List.filter_cons, w.isEmpty]
  rfl

/-- A blank in front is dropped. -/
theorem splitWhitespace_cons {c : Char} (text : List Char) (blank : isWhitespace c = true) :
    splitWhitespace (c :: text) = splitWhitespace text := by
  have none : ∀ c ∈ ([] : List Char), isWhitespace c = false := fun _ mem => absurd mem (by simp)
  have split := List.splitOnP_append_cons_of_forall_mem none c blank text
  rw [List.nil_append] at split
  rw [splitWhitespace, split]
  rfl

/-- Words that each have a blank before them. -/
theorem splitWhitespace_flatMap (ws : List Word) {c : Char} (blank : isWhitespace c = true) :
    splitWhitespace (ws.flatMap (fun w => c :: w.text)) = ws.map Word.text := by
  induction ws with
  | nil => rfl
  | cons w ws ih =>
    rw [List.flatMap_cons, List.cons_append, splitWhitespace_cons _ blank, List.map_cons]
    cases ws with
    | nil => simpa using splitWhitespace_word w
    | cons next ws =>
      rw [List.flatMap_cons, List.cons_append, splitWhitespace_cons _ blank] at ih
      rw [List.flatMap_cons, List.cons_append, splitWhitespace_append_cons w _ blank, ih]

/-- Blanks at the end do not matter. -/
theorem splitWhitespace_rdropWhile (text : List Char) :
    splitWhitespace (text.rdropWhile isWhitespace) = splitWhitespace text := by
  induction text using List.reverseRecOn with
  | nil => rfl
  | append_singleton text c ih =>
    rw [List.rdropWhile_concat]
    split
    · rename_i blank
      rw [ih, splitWhitespace, splitWhitespace, List.splitOnP_append_cons text [] blank,
        List.filter_append]
      exact (List.append_nil _).symm
    · rfl

/-- The text is split at the first occurrence. -/
theorem splitOnce_append_cons {x : Char} {before : List Char} (after : List Char)
    (h : x ∉ before) : splitOnce x (before ++ x :: after) = some (before, after) := by
  have keep : ∀ c ∈ before, (c != x) = true := by
    intro c hc
    rw [bne_iff_ne]
    rintro rfl
    exact h hc
  have span : (before ++ x :: after).span (· != x) = (before, x :: after) := by
    rw [List.span_eq_takeWhile_dropWhile, List.takeWhile_append_of_pos keep,
      List.dropWhile_append_of_pos keep]
    simp
  rw [splitOnce, span]

/-- A prefix that is there is dropped. -/
theorem dropPrefix?_append (a rest : List Char) : (a ++ rest).dropPrefix? a = some rest :=
  List.dropPrefix?_append_of_beq rest (beq_self_eq_true a)

/-- Nothing is trimmed from a text without the character. -/
theorem trimStartMatches_append {x : Char} {text : List Char} (rest : List Char) (ne : text ≠ [])
    (h : x ∉ text) : trimStartMatches x (text ++ rest) = text ++ rest := by
  obtain ⟨c, text, rfl⟩ := List.exists_cons_of_ne_nil ne
  have hc : c ≠ x := fun eq => h (eq ▸ List.mem_cons_self)
  rw [trimStartMatches, List.cons_append, List.dropWhile_cons, beq_eq_false_iff_ne.mpr hc]
  rfl

/-- The character in front is trimmed. -/
theorem trimStartMatches_cons_self (x : Char) (text : List Char) :
    trimStartMatches x (x :: text) = trimStartMatches x text := by
  rw [trimStartMatches, List.dropWhile_cons, beq_self_eq_true]
  rfl

/-- The character at the end is trimmed. -/
theorem trimEndMatches_concat_self (x : Char) (text : List Char) :
    trimEndMatches x (text ++ [x]) = trimEndMatches x text :=
  List.rdropWhile_concat_pos _ _ _ (beq_self_eq_true x)

/-- Nothing is trimmed from a text without the character. -/
theorem trimEndMatches_of_not_mem {x : Char} {text : List Char} (h : x ∉ text) :
    trimEndMatches x text = text := by
  apply List.rdropWhile_eq_self_iff.mpr
  intro ne last
  have eq : text.getLast ne = x := eq_of_beq last
  exact h (eq ▸ List.getLast_mem ne)

/-! ### Trimmed lines -/

/-- Trimming both ends is trimming one after the other. -/
theorem trim_eq (text : List Char) :
    trim text = (text.dropWhile isWhitespace).rdropWhile isWhitespace := rfl

/-- A solid character in front stays. -/
theorem trim_cons {c : Char} (text : List Char) (solid : isWhitespace c = false) :
    trim (c :: text) = c :: text.rdropWhile isWhitespace := by
  rw [trim_eq, List.dropWhile_cons, solid]
  induction text using List.reverseRecOn with
  | nil =>
    show List.rdropWhile isWhitespace [c] = c :: List.rdropWhile isWhitespace []
    rw [List.rdropWhile_singleton, solid, List.rdropWhile_nil]
    rfl
  | append_singleton text d ih =>
    show List.rdropWhile isWhitespace ((c :: text) ++ [d]) = _
    rw [List.rdropWhile_concat, List.rdropWhile_concat]
    split
    · exact ih
    · rfl

/-- A blank in front goes. -/
theorem trim_cons_of_blank {c : Char} (text : List Char) (blank : isWhitespace c = true) :
    trim (c :: text) = trim text := by
  rw [trim_eq, List.dropWhile_cons, blank, if_pos rfl, ← trim_eq]

/-- There are no blanks at the end to drop. -/
theorem SolidEnd.rdropWhile_eq_self {text : List Char} (last : SolidEnd text) :
    text.rdropWhile isWhitespace = text := by
  apply List.rdropWhile_eq_self_iff.mpr
  intro ne
  rw [last _ (List.getLast?_eq_getLast_of_ne_nil ne)]
  decide

/-- A line that no blank begins or ends stays as it is. -/
theorem trim_eq_self {c : Char} {text : List Char} (solid : isWhitespace c = false)
    (last : SolidEnd text) : trim (c :: text) = c :: text := by
  rw [trim_cons text solid, last.rdropWhile_eq_self]

/-- A line that starts with a word is trimmed at its other end. -/
theorem trim_word_append (w : Word) (rest : List Char) :
    trim (w.text ++ rest) = w.text ++ rest.rdropWhile isWhitespace := by
  obtain ⟨c, text, hcons⟩ := List.exists_cons_of_ne_nil w.ne_nil
  have hsolid : isWhitespace c = false := w.solid c (hcons ▸ List.mem_cons_self)
  have hdrop : trim (w.text ++ rest) = (w.text ++ rest).rdropWhile isWhitespace := by
    rw [hcons, List.cons_append, trim_eq, List.dropWhile_cons, hsolid]
    rfl
  rw [hdrop]
  clear hdrop
  induction rest using List.reverseRecOn with
  | nil => rw [List.append_nil, w.last.rdropWhile_eq_self, List.rdropWhile_nil, List.append_nil]
  | append_singleton rest d ih =>
    rw [← List.append_assoc, List.rdropWhile_concat, List.rdropWhile_concat]
    split
    · exact ih
    · rw [List.append_assoc]

/-- `trim` drops the carriage return too. -/
theorem trim_stripCr (line : List Char) : trim (stripCr line) = trim line := by
  unfold stripCr
  split
  · rename_i cr
    have back : line = line.dropLast ++ ['\r'] := (List.dropLast_append_getLast? _ cr).symm
    rw [trim_eq line, back, List.dropLast_concat, List.dropWhile_append, trim_eq]
    split
    · rename_i empty
      rw [List.isEmpty_iff.mp empty]
      rfl
    · rw [List.rdropWhile_concat_pos _ _ _ (by decide)]
  · rfl

/-- Blanks around a text are trimmed. -/
theorem trim_append_blanks {before after : List Char} (text : List Char)
    (hbefore : ∀ c ∈ before, isWhitespace c = true)
    (hafter : ∀ c ∈ after, isWhitespace c = true) : trim (before ++ text ++ after) = trim text := by
  have hdrop (s : List Char) :
      (s ++ after).rdropWhile isWhitespace = s.rdropWhile isWhitespace := by
    induction after using List.reverseRecOn with
    | nil => rw [List.append_nil]
    | append_singleton after c ih =>
      rw [← List.append_assoc, List.rdropWhile_concat_pos _ _ _ (hafter c (by simp))]
      exact ih (fun d hd => hafter d (List.mem_append_left _ hd))
  rw [trim_eq, trim_eq, List.append_assoc, List.dropWhile_append_of_pos hbefore,
    List.dropWhile_append]
  split
  · rename_i hempty
    have hblank : after.dropWhile isWhitespace = [] := List.dropWhile_eq_nil_iff.mpr hafter
    rw [hblank, List.isEmpty_iff.mp hempty]
  · exact hdrop _

/-- Blanks at the end make no difference to the trimmed text. -/
theorem trim_rdropWhile (text : List Char) :
    trim (text.rdropWhile isWhitespace) = trim text := by
  have hafter : ∀ d ∈ text.rtakeWhile isWhitespace, isWhitespace d = true :=
    fun _ mem => List.mem_rtakeWhile_imp mem
  have htrim := trim_append_blanks (text.rdropWhile isWhitespace) (List.forall_mem_nil _) hafter
  rw [List.nil_append, List.rdropWhile_append_rtakeWhile] at htrim
  exact htrim.symm

/-- What `trim` leaves out of a text are blanks on both sides. -/
theorem exists_blanks_trim (text : List Char) :
    ∃ before after, text = before ++ trim text ++ after ∧
      (∀ c ∈ before, isWhitespace c = true) ∧ ∀ c ∈ after, isWhitespace c = true := by
  refine ⟨text.takeWhile isWhitespace, (text.dropWhile isWhitespace).rtakeWhile isWhitespace, ?_,
    fun _ mem => List.mem_takeWhile_imp mem, fun _ mem => List.mem_rtakeWhile_imp mem⟩
  rw [trim_eq, List.append_assoc, List.rdropWhile_append_rtakeWhile,
    List.takeWhile_append_dropWhile]

/-! ### Trimmed text, line by line -/

/-- The lines of a text without the blanks around them; lines of blanks are left out. -/
def solidLines (text : List Char) : List (List Char) :=
  ((lines text).map trim).filter (!·.isEmpty)

/-- Carriage returns and an empty end do not matter once lines are trimmed. -/
theorem solidLines_eq (text : List Char) :
    solidLines text = ((text.splitOn '\n').map trim).filter (!·.isEmpty) := by
  have hstrip : ∀ parts : List (List Char), (parts.map stripCr).map trim = parts.map trim := by
    intro parts
    rw [List.map_map]
    exact List.map_congr_left (fun l _ => trim_stripCr l)
  have hparts := List.dropLast_append_getLast (List.splitOn_ne_nil '\n' text)
  have hlast : (text.splitOn '\n').getLast?.toList =
      [(text.splitOn '\n').getLast (List.splitOn_ne_nil '\n' text)] := by
    rw [List.getLast?_eq_getLast_of_ne_nil (List.splitOn_ne_nil '\n' text)]
    rfl
  rw [solidLines, lines, linesOf, hlast, List.map_append, hstrip, List.filter_append]
  conv_rhs => rw [← hparts, List.map_append, List.filter_append]
  congr 1
  cases (text.splitOn '\n').getLast (List.splitOn_ne_nil '\n' text) with
  | nil => rfl
  | cons c l => rfl

/-- A blank before the first line does not change the lines that are not blank. -/
theorem solidLines_cons {c : Char} (text : List Char) (blank : isWhitespace c = true) :
    solidLines (c :: text) = solidLines text := by
  rw [solidLines_eq, solidLines_eq, List.splitOn_cons_eq_if_modifyHead]
  split
  · rfl
  · obtain ⟨l, ls, hsplit⟩ := List.exists_cons_of_ne_nil (List.splitOn_ne_nil '\n' text)
    rw [hsplit, List.modifyHead_cons, List.map_cons, List.map_cons, trim_cons_of_blank l blank]

/-- A character at the end joins the last piece. -/
theorem splitOn_concat_of_ne {x c : Char} (h : c ≠ x) (text : List Char) :
    ∃ ls l, text.splitOn x = ls ++ [l] ∧ (text ++ [c]).splitOn x = ls ++ [l ++ [c]] := by
  induction text with
  | nil => exact ⟨[], [], by simp, List.splitOn_eq_singleton (by simpa using h.symm)⟩
  | cons d text ih =>
    obtain ⟨ls, l, hsplit, hmore⟩ := ih
    rw [List.cons_append, List.splitOn_cons_eq_if_modifyHead, List.splitOn_cons_eq_if_modifyHead,
      hsplit, hmore]
    split
    · exact ⟨[] :: ls, l, rfl, rfl⟩
    · cases ls with
      | nil => exact ⟨[], d :: l, rfl, rfl⟩
      | cons first ls => exact ⟨(d :: first) :: ls, l, rfl, rfl⟩

/-- A blank behind the last line does not change the lines that are not blank. -/
theorem solidLines_concat {c : Char} (text : List Char) (blank : isWhitespace c = true) :
    solidLines (text ++ [c]) = solidLines text := by
  rw [solidLines_eq, solidLines_eq]
  by_cases h : c = '\n'
  · subst h
    rw [List.splitOn_append_cons_self, List.splitOn_nil, List.map_append, List.filter_append]
    exact List.append_nil _
  · obtain ⟨ls, l, hsplit, hmore⟩ := splitOn_concat_of_ne h text
    have htrim : trim (l ++ [c]) = trim l := by
      have hone : ∀ d ∈ [c], isWhitespace d = true := by simpa using blank
      exact trim_append_blanks l (List.forall_mem_nil _) hone
    rw [hsplit, hmore, List.map_append, List.map_append, List.map_singleton, List.map_singleton,
      htrim]

/-- A piece does not hold the separator. -/
theorem not_mem_of_mem_splitOn {x : Char} {text piece : List Char} (h : piece ∈ text.splitOn x) :
    x ∉ piece := by
  induction text generalizing piece with
  | nil =>
    rw [List.splitOn_nil, List.mem_singleton] at h
    rw [h]
    exact List.not_mem_nil
  | cons c text ih =>
    obtain ⟨first, rest, hsplit⟩ := List.exists_cons_of_ne_nil (List.splitOn_ne_nil x text)
    rw [List.splitOn_cons_eq_if_modifyHead, hsplit] at h
    rw [hsplit] at ih
    split at h
    · rcases List.mem_cons.mp h with rfl | h
      · exact List.not_mem_nil
      · exact ih h
    · rename_i other
      rw [List.modifyHead_cons] at h
      rcases List.mem_cons.mp h with rfl | h
      · -- the first piece has the character before it, which is no separator
        rw [List.mem_cons, not_or]
        exact ⟨fun eq => other (by rw [eq]; exact beq_self_eq_true c), ih List.mem_cons_self⟩
      · exact ih (List.mem_cons_of_mem first h)

/-- A text is trimmed at the ends of its first and last line only. -/
theorem solidLines_trim (text : List Char) : solidLines (trim text) = solidLines text := by
  have hend : ∀ t : List Char, solidLines (t.rdropWhile isWhitespace) = solidLines t := by
    intro t
    induction t using List.reverseRecOn with
    | nil => rfl
    | append_singleton t c ih =>
      rw [List.rdropWhile_concat]
      split
      · rename_i blank
        rw [ih, solidLines_concat t blank]
      · rfl
  rw [trim_eq, hend]
  induction text with
  | nil => rfl
  | cons c text ih =>
    rw [List.dropWhile_cons]
    split
    · rename_i blank
      rw [ih, solidLines_cons text blank]
    · rfl

/-- Reading trimmed lines, of which empty ones mean nothing, from a trimmed text: neither the
    trim nor carriage returns and the end of the last line matter. -/
theorem foldl_lines_trim {α : Type} {f : α → List Char → α} (hempty : ∀ s, f s [] = s) (s : α)
    (text : List Char) :
    (lines (trim text)).foldl (fun s l => f s (trim l)) s =
      (text.splitOn '\n').foldl (fun s l => f s (trim l)) s := by
  have hsolid : ∀ (parts : List (List Char)) (s : α), parts.foldl (fun s l => f s (trim l)) s =
      ((parts.map trim).filter (!·.isEmpty)).foldl f s := by
    intro parts s
    rw [List.foldl_filter, List.foldl_map]
    congr 1
    funext s l
    cases trim l with
    | nil => exact hempty s
    | cons c l => rfl
  rw [hsolid, hsolid, ← solidLines_eq, ← solidLines_trim]
  rfl

end Text
